/-
  **Rounding up to whole pages, and what a mask does to a word.**

  `roundUp a n` is the least multiple of `a` that is not below `n`.  Machine code rounds by adding
  `a - 1` and masking with its complement; `land_compl` says what such a mask leaves for any
  number, and `land_compl_two_pow` that it rounds when `a` is a power of two.
-/
import Mathlib

namespace OhMyAbl

def pieces (a n : Nat) : Nat := (n + a - 1) / a

def roundUp (a n : Nat) : Nat := pieces a n * a

section RoundUp

variable {a n : Nat}

@[simp] theorem pieces_zero (h : 0 < a) : pieces a 0 = 0 := by
  exact Nat.div_eq_of_lt (by omega)

@[simp] theorem roundUp_zero (h : 0 < a) : roundUp a 0 = 0 := by
  rw [roundUp, pieces_zero h, Nat.zero_mul]

theorem le_roundUp (h : 0 < a) (n : Nat) : n ≤ roundUp a n := by
  have hdiv := Nat.div_add_mod (n + a - 1) a
  have hmod := Nat.mod_lt (n + a - 1) h
  rw [Nat.mul_comm] at hdiv
  unfold roundUp pieces
  omega

theorem roundUp_lt (h : 0 < a) (n : Nat) : roundUp a n < n + a := by
  have hdiv := Nat.div_mul_le_self (n + a - 1) a
  unfold roundUp pieces
  omega

theorem pieces_pos (h : 0 < a) (hn : 0 < n) : 0 < pieces a n :=
  Nat.div_pos (by omega) h

theorem pieces_eq_one_iff (h : 0 < a) (hn : 0 < n) : pieces a n = 1 ↔ n ≤ a := by
  unfold pieces
  rw [Nat.div_eq_iff h]
  omega

theorem le_roundUp_of_pos (h : 0 < a) (hn : 0 < n) : a ≤ roundUp a n :=
  Nat.le_mul_of_pos_left a (pieces_pos h hn)

theorem roundUp_eq_self_iff (h : 0 < a) (hn : 0 < n) : roundUp a n = a ↔ n ≤ a := by
  rw [← pieces_eq_one_iff h hn, roundUp]
  exact Nat.mul_eq_right (Nat.ne_of_gt h)

end RoundUp

/-- Sections that are placed one after the other, each on a whole page: where each starts, and its
    size. -/
def place (a start : Nat) : List Nat → List (Nat × Nat)
  | [] => []
  | n :: ns => (start, n) :: place a (start + roundUp a n) ns

/-! ### Masks -/

theorem lor_eq_add {a b : Nat} (h : a &&& b = 0) : a ||| b = a + b := by
  obtain ⟨w, ha, hb⟩ : ∃ w, a < 2 ^ w ∧ b < 2 ^ w := by
    refine ⟨a + b, ?_, ?_⟩
    · exact Nat.lt_of_lt_of_le Nat.lt_two_pow_self (Nat.pow_le_pow_right (by omega) (by omega))
    · exact Nat.lt_of_lt_of_le Nat.lt_two_pow_self (Nat.pow_le_pow_right (by omega) (by omega))
  have hzero : BitVec.ofNat (w + 1) a &&& BitVec.ofNat (w + 1) b = 0 := by
    rw [← BitVec.ofNat_and, h]
    rfl
  have hsum := congrArg BitVec.toNat (BitVec.add_eq_or_of_and_eq_zero _ _ hzero)
  rw [BitVec.toNat_add, BitVec.toNat_or, BitVec.toNat_ofNat, BitVec.toNat_ofNat,
    Nat.mod_eq_of_lt (a := a) (by omega), Nat.mod_eq_of_lt (a := b) (by omega),
    Nat.mod_eq_of_lt (by omega)] at hsum
  exact hsum.symm

section Mask

variable {w y z : Nat}

theorem land_compl_add (hz : z < 2 ^ w) (hy : y < 2 ^ w) :
    (z &&& (2 ^ w - 1 - y)) + (z &&& y) = z := by
  rw [Nat.sub_sub, Nat.add_comm 1 y]
  have hand : (z &&& (2 ^ w - (y + 1))) &&& (z &&& y) = 0 := by
    apply Nat.eq_of_testBit_eq
    intro i
    rw [Nat.testBit_and, Nat.testBit_and, Nat.testBit_and, Nat.testBit_two_pow_sub_succ hy]
    cases z.testBit i <;> cases y.testBit i <;> simp
  rw [← lor_eq_add hand]
  apply Nat.eq_of_testBit_eq
  intro i
  rw [Nat.testBit_or, Nat.testBit_and, Nat.testBit_and, Nat.testBit_two_pow_sub_succ hy]
  by_cases hi : i < w
  · cases z.testBit i <;> cases y.testBit i <;> simp [hi]
  · have hbit : z.testBit i = false := Nat.testBit_lt_two_pow
      (Nat.lt_of_lt_of_le hz (Nat.pow_le_pow_right (by omega) (by omega)))
    simp [hbit]

theorem land_compl_two_pow {k : Nat} (hz : z < 2 ^ w) (hk : k ≤ w) :
    z &&& (2 ^ w - 1 - (2 ^ k - 1)) = z / 2 ^ k * 2 ^ k := by
  have hle : 2 ^ k ≤ 2 ^ w := Nat.pow_le_pow_right (by omega) hk
  have hsum := land_compl_add hz (y := 2 ^ k - 1) (by omega)
  rw [Nat.and_two_pow_sub_one_eq_mod] at hsum
  have hdiv := Nat.div_add_mod z (2 ^ k)
  rw [Nat.mul_comm] at hdiv
  omega

end Mask

end OhMyAbl
