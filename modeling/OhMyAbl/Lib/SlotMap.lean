/-
  **A finite map kept in a table of slots.**

  The table represents a map if the items in its slots are those of the map and no two slots hold
  the same key.  Replacing an item, freeing its slot and filling a free slot are `Function.update`s
  of the map.
-/
import Mathlib

namespace OhMyAbl

variable {n : Nat} {α κ ν : Type}

structure SlotMap (key : α → κ) (val : α → ν) (table : Fin n → Option α) (m : κ → Option ν) :
    Prop where
  item : ∀ k v, m k = some v ↔ ∃ i a, table i = some a ∧ key a = k ∧ val a = v
  distinct : ∀ i j a b, table i = some a → table j = some b → key a = key b → i = j

/-- The items of the key are in the slot, and the slot holds no item of another key. -/
def SlotOf (key : α → κ) (table : Fin n → Option α) (k : κ) (i : Fin n) : Prop :=
  ∀ j a, table j = some a → (key a = k ↔ j = i)

theorem slotOf_free {key : α → κ} {table : Fin n → Option α} {k : κ} {i : Fin n}
    (hi : table i = none) (hk : ∀ j a, table j = some a → key a ≠ k) : SlotOf key table k i := by
  intro j a hj
  have hji : j ≠ i := by
    rintro rfl
    rw [hi] at hj
    cases hj
  exact iff_of_false (hk j a hj) hji

namespace SlotMap

variable {key : α → κ} {val : α → ν} {table : Fin n → Option α} {m : κ → Option ν}

theorem empty : SlotMap key val (fun _ : Fin n => none) (fun _ => none) where
  item k v := by simp
  distinct i j a b h := by cases h

theorem lookup (h : SlotMap key val table m) {i : Fin n} {a : α} (hi : table i = some a) :
    m (key a) = some (val a) := by
  rw [h.item]
  exact ⟨i, a, hi, rfl, rfl⟩

theorem lookup_none (h : SlotMap key val table m) {k : κ}
    (hk : ∀ i a, table i = some a → key a ≠ k) : m k = none := by
  rw [Option.eq_none_iff_forall_ne_some]
  intro v hv
  obtain ⟨i, a, hi, hka, -⟩ := (h.item k v).mp hv
  exact hk i a hi hka

theorem slotOf (h : SlotMap key val table m) {i : Fin n} {a : α} (hi : table i = some a) :
    SlotOf key table (key a) i := by
  intro j b hj
  constructor
  · intro hkey
    exact h.distinct j i b a hj hi hkey
  · rintro rfl
    rw [hi, Option.some.injEq] at hj
    rw [hj]

/-- Changing the slot of a key changes the map at that key. -/
theorem update [DecidableEq κ] (h : SlotMap key val table m) {k : κ} {i : Fin n}
    (hslot : SlotOf key table k i) (x : Option α) (hx : ∀ b, x = some b → key b = k) :
    SlotMap key val (Function.update table i x) (Function.update m k (x.map val)) where
  item k' v := by
    by_cases hk : k' = k
    · subst hk
      rw [Function.update_self, Option.map_eq_some_iff]
      constructor
      · rintro ⟨b, hb, rfl⟩
        exact ⟨i, b, by rw [Function.update_self, hb], hx b hb, rfl⟩
      · rintro ⟨j, c, hj, hkc, rfl⟩
        by_cases hji : j = i
        · rw [hji, Function.update_self] at hj
          exact ⟨c, hj, rfl⟩
        · rw [Function.update_of_ne hji] at hj
          exact absurd ((hslot j c hj).mp hkc) hji
    · rw [Function.update_of_ne hk, h.item]
      constructor
      · rintro ⟨j, c, hj, rfl, rfl⟩
        have hji : j ≠ i := fun hji => hk ((hslot j c hj).mpr hji)
        exact ⟨j, c, by rwa [Function.update_of_ne hji], rfl, rfl⟩
      · rintro ⟨j, c, hj, rfl, rfl⟩
        by_cases hji : j = i
        · rw [hji, Function.update_self] at hj
          exact absurd (hx c hj) hk
        · rw [Function.update_of_ne hji] at hj
          exact ⟨j, c, hj, rfl, rfl⟩
  distinct j j' a b hj hj' hkey := by
    by_cases hji : j = i <;> by_cases hji' : j' = i
    · rw [hji, hji']
    · rw [hji, Function.update_self] at hj
      rw [Function.update_of_ne hji'] at hj'
      exact absurd ((hslot j' b hj').mp (hkey.symm.trans (hx a hj))) hji'
    · rw [Function.update_of_ne hji] at hj
      rw [hji', Function.update_self] at hj'
      exact absurd ((hslot j a hj).mp (hkey.trans (hx b hj'))) hji
    · rw [Function.update_of_ne hji] at hj
      rw [Function.update_of_ne hji'] at hj'
      exact h.distinct j j' a b hj hj' hkey

section Size

-- the keys of the map and the used slots are counted through the keys that the slots hold
private theorem keys_image (h : SlotMap key val table m) :
    some '' {k | m k ≠ none} = (fun i => (table i).map key) '' {i | table i ≠ none} := by
  ext x
  constructor
  · rintro ⟨k, hk, rfl⟩
    obtain ⟨v, hv⟩ := Option.ne_none_iff_exists'.mp hk
    obtain ⟨i, a, hi, rfl, -⟩ := (h.item k v).mp hv
    refine ⟨i, ?_, ?_⟩
    · simp [hi]
    · simp [hi]
  · rintro ⟨i, hi, rfl⟩
    obtain ⟨a, ha⟩ := Option.ne_none_iff_exists'.mp hi
    refine ⟨key a, ?_, ?_⟩
    · simp [h.lookup ha]
    · simp [ha]

theorem card_keys (h : SlotMap key val table m) :
    {k | m k ≠ none}.ncard = {i | table i ≠ none}.ncard := by
  have hinj : Set.InjOn (fun i => (table i).map key) {i | table i ≠ none} := by
    intro i hi j hj hij
    obtain ⟨a, ha⟩ := Option.ne_none_iff_exists'.mp hi
    obtain ⟨b, hb⟩ := Option.ne_none_iff_exists'.mp hj
    simp only [ha, hb, Option.map_some, Option.some.injEq] at hij
    exact h.distinct i j a b ha hb hij
  rw [← Set.ncard_image_of_injective _ (Option.some_injective κ), h.keys_image,
    Set.InjOn.ncard_image hinj]

theorem card_keys_le (h : SlotMap key val table m) : {k | m k ≠ none}.ncard ≤ n := by
  rw [h.card_keys]
  have hle := Set.ncard_le_card {i : Fin n | table i ≠ none}
  rwa [Nat.card_eq_fintype_card, Fintype.card_fin] at hle

theorem card_keys_eq_iff (h : SlotMap key val table m) :
    {k | m k ≠ none}.ncard = n ↔ ∀ i, table i ≠ none := by
  have hcard : n = Nat.card (Fin n) := by rw [Nat.card_eq_fintype_card, Fintype.card_fin]
  have hfull := Set.eq_univ_iff_ncard {i : Fin n | table i ≠ none}
  rw [← hcard, Set.eq_univ_iff_forall] at hfull
  rw [h.card_keys]
  exact hfull.symm

end Size

end SlotMap

end OhMyAbl
