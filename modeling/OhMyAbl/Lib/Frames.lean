/-
  **A byte store seen as frames of one size.**

  Memory and swap space are handled in whole pages.  `frame` is the contents of
  one page of a store, and the lemmas say what a copy of whole pages, or a store
  inside one page, does to every other page.
-/
import OhMyAbl.Lib.Bytes

namespace OhMyAbl

namespace Bytes

variable {c f : Bytes} {size a b n p : Nat}

def frame (c : Bytes) (size p : Nat) : List UInt8 := c.slice (p * size) size

@[simp] theorem frame_length : (c.frame size p).length = size := slice_length

/-- Copy the `n` frames of `f` from its `b`th on to the frames of `c` from `a` on. -/
def copyFrames (c : Bytes) (size a n : Nat) (f : Bytes) (b : Nat) : Bytes :=
  c.overwrite (a * size) (n * size) (f.shift (b * size))

def setFrame (c : Bytes) (size p : Nat) (page : List UInt8) : Bytes :=
  c.overwrite (p * size) size fun i => page.getD i 0

/-- A copied frame is the frame it was copied from. -/
theorem frame_copyFrames (h : a ≤ p) (h' : p < a + n) :
    (c.copyFrames size a n f b).frame size p = f.frame size (b + (p - a)) := by
  obtain ⟨k, rfl⟩ := Nat.exists_eq_add_of_le h
  have hk : k + 1 ≤ n := by omega
  have hroom : k * size + size ≤ n * size := by
    have := Nat.mul_le_mul_right size hk
    rwa [Nat.succ_mul] at this
  unfold frame copyFrames
  rw [Nat.add_mul, slice_overwrite (by omega) (by omega), slice_shift, Nat.add_sub_cancel_left,
    Nat.add_sub_cancel_left, Nat.add_mul]

theorem frame_copyFrames_other (h : p < a ∨ a + n ≤ p) :
    (c.copyFrames size a n f b).frame size p = c.frame size p := by
  refine slice_congr fun k hk => overwrite_outside ?_
  rcases h with h | h
  · have := Nat.mul_le_mul_right size (Nat.succ_le_of_lt h)
    rw [Nat.succ_mul] at this
    exact .inl (by omega)
  · have := Nat.mul_le_mul_right size h
    rw [Nat.add_mul] at this
    exact .inr (by omega)

theorem frame_setFrame {page : List UInt8} (h : page.length = size) :
    (c.setFrame size p page).frame size p = page := by
  unfold frame setFrame
  rw [slice_overwrite (Nat.le_refl _) (Nat.le_refl _), Nat.sub_self,
    slice_getD (Nat.le_of_eq h.symm), List.take_of_length_le (Nat.le_of_eq h)]

theorem frame_apart {q k : Nat} (h : q ≠ p) (hk : k < size) :
    q * size + k < p * size ∨ p * size + size ≤ q * size + k := by
  rcases Nat.lt_or_gt_of_ne h with h | h
  · have := Nat.mul_le_mul_right size (Nat.succ_le_of_lt h)
    rw [Nat.succ_mul] at this
    exact .inl (by omega)
  · have := Nat.mul_le_mul_right size (Nat.succ_le_of_lt h)
    rw [Nat.succ_mul] at this
    exact .inr (by omega)

theorem frame_setFrame_other {q : Nat} {page : List UInt8} (h : q ≠ p) :
    (c.setFrame size p page).frame size q = c.frame size q :=
  slice_congr fun _ hk => overwrite_outside (frame_apart h hk)

theorem frame_put_other {q k v : Nat} (hk : k + n ≤ size) (h : q ≠ p) :
    (c.put (p * size + k) n v).frame size q = c.frame size q := by
  refine slice_congr fun i hi => overwrite_outside ?_
  have := frame_apart h hi
  omega

theorem u64At_of_frame_eq {k : Nat} (hk : k + 8 ≤ size) (h : c.frame size p = f.frame size p) :
    c.u64At (p * size + k) = f.u64At (p * size + k) := by
  refine u64At_congr fun i hi => ?_
  have := congrArg (fun l => l[k + i]?) h
  simp only [frame, slice, List.getElem?_map, List.getElem?_range (show k + i < size by omega),
    Option.map_some, Option.some.injEq] at this
  rwa [Nat.add_assoc]

end Bytes

end OhMyAbl
