/-
  **Byte stores and the replacement of ranges in them.**

  A byte store (the contents of a disk, a buffer, an address space) is a function
  from addresses to bytes.  `overwrite` replaces one range; the lemmas say how
  replacements of adjacent ranges compose and that re-writing what was there
  changes nothing.
-/
import Mathlib

namespace OhMyAbl

abbrev Bytes := Nat → UInt8

namespace Bytes

def shift (f : Bytes) (a : Nat) : Bytes := fun i => f (a + i)

/-- Replace the `n` bytes from address `a` on by the first `n` bytes of `f`. -/
def overwrite (c : Bytes) (a n : Nat) (f : Bytes) : Bytes :=
  fun x => if a ≤ x ∧ x < a + n then f (x - a) else c x

def replaceFrom (c : Bytes) (a : Nat) (f : Bytes) :
    Bytes := fun x => if a ≤ x then f (x - a) else c x

def slice (f : Bytes) (a n : Nat) : List UInt8 := (List.range n).map fun i => f (a + i)

def u16At (f : Bytes) (a : Nat) : Nat := (f a).toNat + 2 ^ 8 * (f (a + 1)).toNat

def u32At (f : Bytes) (a : Nat) : Nat := u16At f a + 2 ^ 16 * u16At f (a + 2)

def u64At (f : Bytes) (a : Nat) : Nat := u32At f a + 2 ^ 32 * u32At f (a + 4)

def beU32At (f : Bytes) (a : Nat) : Nat :=
  2 ^ 24 * (f a).toNat + 2 ^ 16 * (f (a + 1)).toNat + 2 ^ 8 * (f (a + 2)).toNat + (f (a + 3)).toNat

def le (v : Nat) : Bytes := fun i => UInt8.ofNat (v / 2 ^ (8 * i))

def put (f : Bytes) (a n v : Nat) : Bytes := f.overwrite a n (le v)

variable {c f g : Bytes} {a n m x : Nat}

theorem u16At_lt : u16At f a < 2 ^ 16 := by
  have h₁ := (f a).toNat_lt
  have h₂ := (f (a + 1)).toNat_lt
  unfold u16At
  omega

theorem u32At_lt : u32At f a < 2 ^ 32 := by
  have h₁ : u16At f a < 2 ^ 16 := u16At_lt
  have h₂ : u16At f (a + 2) < 2 ^ 16 := u16At_lt
  unfold u32At
  omega

theorem beU32At_lt : beU32At f a < 2 ^ 32 := by
  have h₀ := (f a).toNat_lt
  have h₁ := (f (a + 1)).toNat_lt
  have h₂ := (f (a + 2)).toNat_lt
  have h₃ := (f (a + 3)).toNat_lt
  unfold beU32At
  omega

@[simp] theorem shift_zero : shift f 0 = f := by
  funext i
  simp [shift]

@[simp] theorem shift_apply (i : Nat) : shift f a i = f (a + i) := rfl

@[simp] theorem shift_replaceFrom : shift (replaceFrom c a f) a = f := by
  funext i
  simp [replaceFrom]

@[simp] theorem replaceFrom_shift : replaceFrom c a (shift c a) = c := by
  funext x
  unfold replaceFrom shift
  split
  · congr 1
    omega
  · rfl

@[simp] theorem replaceFrom_replaceFrom :
    replaceFrom (replaceFrom c a f) a g = replaceFrom c a g := by
  funext x
  unfold replaceFrom
  split <;> rfl

theorem overwrite_inside (h : a ≤ x) (h' : x < a + n) : overwrite c a n f x = f (x - a) :=
  if_pos ⟨h, h'⟩

theorem overwrite_outside (h : x < a ∨ a + n ≤ x) : overwrite c a n f x = c x :=
  if_neg (by omega)

@[simp] theorem overwrite_zero : overwrite c a 0 f = c := by
  funext x
  exact overwrite_outside (by omega)

theorem overwrite_congr (h : ∀ i < n, f i = g i) : overwrite c a n f = overwrite c a n g := by
  funext x
  unfold overwrite
  by_cases hx : a ≤ x ∧ x < a + n
  · rw [if_pos hx, if_pos hx]
    exact h _ (by omega)
  · rw [if_neg hx, if_neg hx]

theorem overwrite_append :
    overwrite (overwrite c a n f) (a + n) m (shift f n) = overwrite c a (n + m) f := by
  funext x
  by_cases h₁ : x < a
  · rw [overwrite_outside (by omega), overwrite_outside (by omega), overwrite_outside (by omega)]
  · by_cases h₂ : x < a + n
    · rw [overwrite_outside (by omega), overwrite_inside (by omega) h₂,
        overwrite_inside (by omega) (by omega)]
    · by_cases h₃ : x < a + n + m
      · rw [overwrite_inside (by omega) h₃, overwrite_inside (by omega) (by omega), shift_apply]
        congr 1
        omega
      · rw [overwrite_outside (by omega), overwrite_outside (by omega),
          overwrite_outside (by omega)]

theorem overwrite_patch (h : m ≤ n) :
    overwrite c a n (overwrite (shift c a) 0 m f) = overwrite c a m f := by
  funext x
  by_cases h₁ : x < a
  · rw [overwrite_outside (by omega), overwrite_outside (by omega)]
  · by_cases h₂ : x < a + m
    · rw [overwrite_inside (by omega) (by omega), overwrite_inside (by omega) (by omega),
        overwrite_inside (by omega) h₂]
      rfl
    · by_cases h₃ : x < a + n
      · rw [overwrite_inside (by omega) h₃, overwrite_outside (by omega),
          overwrite_outside (by omega), shift_apply]
        congr 1
        omega
      · rw [overwrite_outside (by omega), overwrite_outside (by omega)]

variable {b v k : Nat}

theorem u64At_congr (h : ∀ i < 8, f (a + i) = g (b + i)) : u64At f a = u64At g b := by
  have h₀ := h 0 (by omega)
  have h₁ := h 1 (by omega)
  have h₂ := h 2 (by omega)
  have h₃ := h 3 (by omega)
  have h₄ := h 4 (by omega)
  have h₅ := h 5 (by omega)
  have h₆ := h 6 (by omega)
  have h₇ := h 7 (by omega)
  simp only [Nat.add_zero] at h₀
  simp [u64At, u32At, u16At, h₀, h₁, h₂, h₃, h₄, h₅, h₆, h₇]

theorem u32At_congr (h : ∀ i < 4, f (a + i) = g (b + i)) : u32At f a = u32At g b := by
  have h₀ := h 0 (by omega)
  have h₁ := h 1 (by omega)
  have h₂ := h 2 (by omega)
  have h₃ := h 3 (by omega)
  simp only [Nat.add_zero] at h₀
  simp [u32At, u16At, h₀, h₁, h₂, h₃]

theorem u32At_put (h : v < 2 ^ 32) : u32At (put f a 4 v) a = v := by
  have hle : u32At (le v) 0 = v := by
    simp only [u32At, u16At, le, UInt8.toNat_ofNat']
    omega
  refine (u32At_congr (g := le v) (b := 0) fun i hi => ?_).trans hle
  rw [put, overwrite_inside (by omega) (by omega), Nat.add_sub_cancel_left, Nat.zero_add]

theorem u64At_le (h : v < 2 ^ 64) : u64At (le v) 0 = v := by
  simp only [u64At, u32At, u16At, le, UInt8.toNat_ofNat']
  omega

theorem u64At_put (h : v < 2 ^ 64) : u64At (put f a 8 v) a = v := by
  refine (u64At_congr (g := le v) (b := 0) fun i hi => ?_).trans (u64At_le h)
  rw [put, overwrite_inside (by omega) (by omega), Nat.add_sub_cancel_left, Nat.zero_add]

@[simp] theorem put_put {v w : Nat} : put (put f a n v) a n w = put f a n w := by
  funext x
  unfold put overwrite
  split
  · rfl
  · rfl

theorem put_u32At : put f a 4 (u32At f a) = f := by
  funext x
  by_cases hx : a ≤ x ∧ x < a + 4
  · rw [put, overwrite_inside hx.1 hx.2]
    have h₀ := (f a).toNat_lt
    have h₁ := (f (a + 1)).toNat_lt
    have h₂ := (f (a + 2)).toNat_lt
    have h₃ := (f (a + 2 + 1)).toNat_lt
    apply UInt8.toNat_inj.mp
    obtain ⟨i, rfl⟩ := Nat.exists_eq_add_of_le hx.1
    have hi : i = 0 ∨ i = 1 ∨ i = 2 ∨ i = 3 := by omega
    simp only [le, UInt8.toNat_ofNat', Nat.add_sub_cancel_left, u32At, u16At]
    rcases hi with rfl | rfl | rfl | rfl
    all_goals simp only [Nat.add_zero, Nat.add_assoc, Nat.reduceAdd, Nat.reduceMul,
      Nat.reducePow] at *
    all_goals omega
  · rw [put, overwrite_outside (by omega)]

theorem u64At_lt : u64At f a < 2 ^ 64 := by
  have h₁ : u32At f a < 2 ^ 32 := u32At_lt
  have h₂ : u32At f (a + 4) < 2 ^ 32 := u32At_lt
  unfold u64At
  omega

theorem put_add : put f a (n + m) v = (put f a n v).put (a + n) m (v / 2 ^ (8 * n)) := by
  have hshift : le (v / 2 ^ (8 * n)) = shift (le v) n := by
    funext i
    rw [shift_apply, le, le, Nat.div_div_eq_div_mul, ← Nat.pow_add, Nat.mul_add]
  rw [put, put, put, hshift, overwrite_append]

theorem put_mod (h : 8 * n ≤ k) : put f a n (v % 2 ^ k) = put f a n v := by
  refine overwrite_congr fun i hi => ?_
  apply UInt8.toNat_inj.mp
  have hpow : 2 ^ k = 2 ^ (8 * i) * (256 * 2 ^ (k - 8 * i - 8)) := by
    rw [show (256 : Nat) = 2 ^ 8 from rfl, ← Nat.pow_add, ← Nat.pow_add]
    congr 1
    omega
  simp only [le, UInt8.toNat_ofNat']
  rw [hpow, Nat.mod_mul_right_div_self, Nat.mod_mul_right_mod]

theorem put_u64At : put f a 8 (u64At f a) = f := by
  have hhigh : u64At f a / 2 ^ (8 * 4) = u32At f (a + 4) := by
    have h : u32At f a < 2 ^ 32 := u32At_lt
    unfold u64At
    omega
  have hlow : u64At f a % 2 ^ 32 = u32At f a := by
    have h : u32At f a < 2 ^ 32 := u32At_lt
    unfold u64At
    omega
  have hfirst : put f a 4 (u64At f a) = f := by
    rw [← put_mod (k := 32) (by decide), hlow, put_u32At]
  rw [show (8 : Nat) = 4 + 4 from rfl, put_add, hhigh, hfirst, put_u32At]

theorem put_of_u64At (h : u64At f a = v) : put f a 8 v = f := by
  subst h
  exact put_u64At

theorem u64At_overwrite_outside (h : b + n ≤ a ∨ a + 8 ≤ b) :
    u64At (overwrite c b n f) a = u64At c a :=
  u64At_congr fun i _ => overwrite_outside (by omega)

theorem u64At_overwrite_inside (h : b ≤ a) (h' : a + 8 ≤ b + n) :
    u64At (overwrite c b n f) a = u64At f (a - b) := by
  refine u64At_congr fun i hi => ?_
  rw [overwrite_inside (by omega) (by omega)]
  congr 1
  omega

theorem u32At_shift : u32At (shift f b) a = u32At f (b + a) :=
  u32At_congr fun i _ => by rw [shift_apply, Nat.add_assoc]

theorem put_shift : put (shift f b) a n v = shift (put f (b + a) n v) b := by
  funext x
  rw [shift_apply, put, put]
  by_cases hx : a ≤ x ∧ x < a + n
  · rw [overwrite_inside hx.1 hx.2, overwrite_inside (by omega) (by omega), Nat.add_sub_add_left]
  · rw [overwrite_outside (by omega), overwrite_outside (by omega), shift_apply]

theorem overwrite_shift (h : ∀ x, x < a ∨ a + n ≤ x → f x = c x) :
    overwrite c a n (shift f a) = f := by
  funext x
  by_cases hx : a ≤ x ∧ x < a + n
  · rw [overwrite_inside hx.1 hx.2, shift_apply, Nat.add_sub_cancel' hx.1]
  · rw [overwrite_outside (by omega), h x (by omega)]

theorem u64At_shift : u64At (shift f b) a = u64At f (b + a) :=
  u64At_congr fun i _ => by rw [shift_apply, Nat.add_assoc]

@[simp] theorem slice_length : (slice f a n).length = n := by simp [slice]

theorem slice_head? (h : 0 < n) : (slice f a n).head? = some (f a) := by
  obtain ⟨m, rfl⟩ := Nat.exists_eq_succ_of_ne_zero (Nat.ne_of_gt h)
  simp [slice, List.range_succ_eq_map]

theorem slice_congr (h : ∀ k < n, f (a + k) = g (a + k)) : slice f a n = slice g a n :=
  List.map_congr_left fun i hi => h i (List.mem_range.mp hi)

theorem slice_succ : f.slice a (n + 1) = f a :: f.slice (a + 1) n := by
  rw [slice, List.range_succ_eq_map, List.map_cons, List.map_map, Nat.add_zero, slice]
  congr 1
  apply List.map_congr_left
  intro i _
  rw [Function.comp_apply, Nat.add_assoc, Nat.add_comm 1 i]

theorem takeWhile_slice_eq_iff {text : List UInt8} (htext : 0 ∉ text) (hlen : text.length ≤ n) :
    (f.slice a n).takeWhile (· ≠ 0) = text ↔
      ∀ k ≤ text.length, k < n → f (a + k) = text.getD k 0 := by
  induction n generalizing a text with
  | zero =>
    obtain rfl : text = [] := List.length_eq_zero_iff.mp (Nat.le_zero.mp hlen)
    simp [slice]
  | succ n ih =>
    rw [slice_succ]
    cases text with
    | nil =>
      constructor
      · intro hnil k hk _
        obtain rfl : k = 0 := Nat.le_zero.mp hk
        by_contra hne
        rw [List.takeWhile_cons_of_pos (by simpa using hne)] at hnil
        cases hnil
      · intro h
        rw [List.takeWhile_cons_of_neg]
        simpa using h 0 (Nat.le_refl _) (Nat.succ_pos n)
    | cons c rest =>
      have hc : c ≠ 0 := fun h => htext (h ▸ List.mem_cons_self)
      have hrest := ih (fun h => htext (List.mem_cons_of_mem _ h)) (Nat.le_of_succ_le_succ hlen)
        (a := a + 1)
      constructor
      · intro heq k hk hn
        by_cases hzero : f a = 0
        · rw [List.takeWhile_cons_of_neg (by simpa using hzero)] at heq
          cases heq
        rw [List.takeWhile_cons_of_pos (by simpa using hzero), List.cons.injEq] at heq
        cases k with
        | zero => exact heq.1
        | succ k =>
          have hbyte := hrest.mp heq.2 k (Nat.le_of_succ_le_succ hk) (Nat.lt_of_succ_lt_succ hn)
          rwa [Nat.add_assoc, Nat.add_comm 1 k] at hbyte
      · intro h
        have hhead : f a = c := h 0 (Nat.zero_le _) (Nat.succ_pos n)
        rw [hhead, List.takeWhile_cons_of_pos (by simpa using hc)]
        congr 1
        apply hrest.mpr
        intro k hk hn
        rw [Nat.add_assoc, Nat.add_comm 1 k]
        exact h (k + 1) (Nat.succ_le_succ hk) (Nat.succ_lt_succ hn)

theorem slice_append : slice f a n ++ slice f (a + n) m = slice f a (n + m) := by
  simp only [slice, List.range_add, List.map_append, List.map_map]
  congr 1
  refine List.map_congr_left fun i _ => ?_
  rw [Function.comp_apply, Nat.add_assoc]

theorem slice_overwrite (hb : a ≤ b) (hk : b + k ≤ a + n) :
    slice (overwrite c a n f) b k = slice f (b - a) k := by
  refine List.map_congr_left fun i hi => ?_
  have hi' : i < k := List.mem_range.mp hi
  rw [overwrite_inside (by omega) (by omega)]
  congr 1
  omega

@[simp] theorem slice_shift {b : Nat} : slice (shift f b) a n = slice f (b + a) n := by
  refine List.map_congr_left fun i _ => ?_
  rw [shift_apply, Nat.add_assoc]

theorem slice_overwrite_before (h : b + k ≤ a) : slice (overwrite c a n f) b k = slice c b k :=
  slice_congr fun i hi => overwrite_outside (by omega)

theorem slice_getD {bytes : List UInt8} (h : k ≤ bytes.length) :
    slice (fun i => bytes.getD i 0) 0 k = bytes.take k := by
  refine List.ext_getElem (by simp [h]) fun i hi _ => ?_
  rw [slice_length] at hi
  simp [slice, List.getElem?_eq_getElem (Nat.lt_of_lt_of_le hi h)]

end Bytes

end OhMyAbl
