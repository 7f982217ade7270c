/-
  **Machines driven by a schedule, and their invariants.**

  A machine takes, on each label (an event, or the thread that is scheduled), one
  step if that label is enabled.  A run is a list of labels all of which were
  enabled in turn.  What holds at the start and is kept by every step holds along
  every run; a condition on the labels of the run may be assumed at each step.
-/
import Mathlib

namespace OhMyAbl

abbrev Machine (σ ℓ : Type) := σ → ℓ → Option σ

namespace Machine

variable {σ ℓ : Type} {m : Machine σ ℓ}

def run (m : Machine σ ℓ) (s : σ) : List ℓ → Option σ
  | [] => some s
  | l :: ls => (m s l).bind fun s' => run m s' ls

@[simp] theorem run_nil (s : σ) : run m s [] = some s := rfl

variable {ls ls' : List ℓ} {s s' : σ} {Inv P : σ → Prop}

theorem run_cons {l : ℓ} :
    run m s (l :: ls) = some s' ↔ ∃ t, m s l = some t ∧ run m t ls = some s' :=
  Option.bind_eq_some_iff

theorem run_append :
    run m s (ls ++ ls') = some s' ↔ ∃ t, run m s ls = some t ∧ run m t ls' = some s' := by
  induction ls generalizing s with
  | nil => simp
  | cons l ls ih =>
    rw [List.cons_append, run_cons]
    constructor
    · rintro ⟨t, ht, hrest⟩
      obtain ⟨t', ht', hrest'⟩ := ih.mp hrest
      exact ⟨t', run_cons.mpr ⟨t, ht, ht'⟩, hrest'⟩
    · rintro ⟨t', ht', hrest'⟩
      obtain ⟨t, ht, hrest⟩ := run_cons.mp ht'
      exact ⟨t, ht, ih.mpr ⟨t', hrest, hrest'⟩⟩

/-- What each allowed step keeps, an allowed run keeps. -/
theorem run_invariant {ok : ℓ → Prop} (hstep : ∀ s l s', Inv s → ok l → m s l = some s' → Inv s') :
    ∀ {ls : List ℓ} {s s' : σ}, Inv s → (∀ l ∈ ls, ok l) → run m s ls = some s' → Inv s' := by
  intro ls
  induction ls with
  | nil =>
    intro s s' hs _ hrun
    rw [run_nil, Option.some.injEq] at hrun
    exact hrun ▸ hs
  | cons l ls ih =>
    intro s s' hs hok hrun
    obtain ⟨t, ht, hrest⟩ := run_cons.mp hrun
    have hinv : Inv t := hstep s l t hs (hok l List.mem_cons_self) ht
    exact ih hinv (fun l' hl' => hok l' (List.mem_cons_of_mem l hl')) hrest

/-- Every step of the run meets a condition on the state before it and its label. -/
def Along (m : Machine σ ℓ) (P : σ → ℓ → Prop) : σ → List ℓ → Prop
  | _, [] => True
  | s, l :: ls => P s l ∧ (match m s l with
    | none => True
    | some s' => Along m P s' ls)

instance decidableAlong {P : σ → ℓ → Prop} [∀ s l, Decidable (P s l)] :
    (s : σ) → (ls : List ℓ) → Decidable (Along m P s ls)
  | _, [] => isTrue trivial
  | s, l :: ls =>
    match h : m s l with
    | none => decidable_of_iff (P s l) (by simp [Along, h])
    | some s' =>
      have : Decidable (Along m P s' ls) := decidableAlong s' ls
      decidable_of_iff (P s l ∧ Along m P s' ls) (by simp [Along, h])

theorem Along.left {P : σ → ℓ → Prop} (h : Along m P s (ls ++ ls')) : Along m P s ls := by
  induction ls generalizing s with
  | nil => trivial
  | cons l ls ih =>
    obtain ⟨hP, hrest⟩ := h
    refine ⟨hP, ?_⟩
    cases hstep : m s l with
    | none => trivial
    | some s' =>
      rw [hstep] at hrest
      exact ih hrest

theorem run_invariant_along {P : σ → ℓ → Prop}
    (hstep : ∀ s l s', Inv s → P s l → m s l = some s' → Inv s') :
    ∀ {ls : List ℓ} {s s' : σ}, Inv s → Along m P s ls → run m s ls = some s' → Inv s' := by
  intro ls
  induction ls with
  | nil =>
    intro s s' hs _ hrun
    rw [run_nil, Option.some.injEq] at hrun
    exact hrun ▸ hs
  | cons l ls ih =>
    rintro s s' hs ⟨hP, halong⟩ hrun
    obtain ⟨t, ht, hrest⟩ := run_cons.mp hrun
    have hinv : Inv t := hstep s l t hs hP ht
    rw [ht] at halong
    exact ih hinv halong hrest

theorem exists_run (rank : σ → Nat)
    (hstep : ∀ s, Inv s → ¬ P s → ∃ l s', m s l = some s' ∧ Inv s' ∧ rank s' < rank s) :
    ∀ s, Inv s → ∃ ls s', run m s ls = some s' ∧ Inv s' ∧ P s' := by
  intro s
  induction hn : rank s using Nat.strongRecOn generalizing s with
  | _ n ih =>
    intro hs
    by_cases hP : P s
    · exact ⟨[], s, rfl, hs, hP⟩
    · obtain ⟨l, t, ht, hinv, hlt⟩ := hstep s hs hP
      obtain ⟨ls, s', hrun, hs'⟩ := ih (rank t) (hn ▸ hlt) t rfl hinv
      exact ⟨l :: ls, s', run_cons.mpr ⟨t, ht, hrun⟩, hs'⟩

inductive Inevitable (m : Machine σ ℓ) (P : σ → Prop) : σ → Prop
  | now {s : σ} (h : P s) : Inevitable m P s
  | later {s : σ} (henabled : ∃ l s', m s l = some s')
      (hall : ∀ l s', m s l = some s' → Inevitable m P s') : Inevitable m P s

theorem inevitable_of_rank (rank : σ → Nat)
    (hstep : ∀ s l s', Inv s → m s l = some s' → Inv s' ∧ rank s' < rank s)
    (henabled : ∀ s, Inv s → ¬ P s → ∃ l s', m s l = some s') : ∀ s, Inv s → Inevitable m P s := by
  intro s
  induction hn : rank s using Nat.strongRecOn generalizing s with
  | _ n ih =>
    intro hs
    by_cases hP : P s
    · exact .now hP
    · refine .later (henabled s hs hP) fun l t ht => ?_
      obtain ⟨hinv, hlt⟩ := hstep s l t hs ht
      exact ih (rank t) (hn ▸ hlt) t rfl hinv

theorem Inevitable.of_run (hstay : ∀ s l s', P s → m s l = some s' → P s') (h : Inevitable m P s) :
    ∀ {ls : List ℓ} {s' : σ}, run m s ls = some s' → (∀ l, m s' l = none) → P s' := by
  have hkeep : ∀ {ls : List ℓ} {s s' : σ}, P s → run m s ls = some s' → P s' := by
    intro ls s s' hP hrun
    exact run_invariant (fun s l s' hs (_ : True) => hstay s l s' hs) hP (fun _ _ => trivial) hrun
  induction h with
  | now hP => exact fun hrun _ => hkeep hP hrun
  | later henabled _ ih =>
    intro ls s' hrun hend
    cases ls with
    | nil =>
      rw [run_nil, Option.some.injEq] at hrun
      obtain ⟨l, t, ht⟩ := henabled
      rw [hrun, hend l] at ht
      cases ht
    | cons l ls =>
      obtain ⟨t, ht, hrest⟩ := run_cons.mp hrun
      exact ih l t ht hrest hend

end Machine

end OhMyAbl
