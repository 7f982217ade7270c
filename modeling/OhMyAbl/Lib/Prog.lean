/-
  **Stateful programs that may never return, and their pre- and postconditions.**

  A program over a state `σ` either returns a value or leaves through an exit `ε` (a reset, a spin,
  a fault); the state that was reached is kept.  The file gives execution equations, the weakest
  precondition `wp` with one postcondition for a return and one for an exit, the frame judgement
  `Steps R`, blocks that are left early by a jump, and programs over a component of the state.
-/
import Mathlib

namespace OhMyAbl

/-- Programs over the state `σ` that return, or leave through an exit of type `ε`. -/
abbrev Prog (σ ε : Type) := ExceptT ε (StateM σ)

namespace Prog

variable {σ τ ε α β : Type}

def when (c : Bool) (m : Prog σ ε PUnit) : Prog σ ε PUnit := if c then m else pure ⟨⟩

def exec (m : Prog σ ε α) (s : σ) : Except ε α × σ := (ExceptT.run m).run s

theorem exec_of_result {m : Prog σ ε α} {s : σ} {r : Except ε α} (h : (m.exec s).1 = r) :
    m.exec s = (r, (m.exec s).2) := by
  rw [← h]

/-! ### Execution equations -/

theorem exec_of_eval (m : Prog σ ε α) (s : σ) (P : α → Bool) (h : (match (m.exec s).1 with
      | .ok a => P a
      | .error _ => false) = true) : ∃ a, (m.exec s).1 = .ok a ∧ P a = true := by
  split at h
  · rename_i a ha
    exact ⟨a, ha, h⟩
  · exact nomatch h

@[simp] theorem exec_pure (a : α) (s : σ) : exec (pure a : Prog σ ε α) s = (.ok a, s) := rfl

@[simp] theorem exec_throw (e : ε) (s : σ) :
    exec (throw e : Prog σ ε α) s = (.error e, s) := rfl

@[simp] theorem exec_get (s : σ) : exec (get : Prog σ ε σ) s = (.ok s, s) := rfl

@[simp] theorem exec_modify (f : σ → σ) (s : σ) :
    exec (modify f : Prog σ ε PUnit) s = (.ok ⟨⟩, f s) := rfl

theorem exec_bind (m : Prog σ ε α) (f : α → Prog σ ε β) (s : σ) :
    exec (m >>= f) s =
      match m.exec s with
      | (.ok a, s') => (f a).exec s'
      | (.error e, s') => (.error e, s') := by
  simp only [exec, ExceptT.run_bind, StateT.run_bind]
  rcases (ExceptT.run m).run s with ⟨_ | _, _⟩ <;> rfl

/-! ### Weakest preconditions -/

/-- `Q` holds of the value and state if the run from `s` returns, `E` of the exit and
    the state if it leaves. -/
def wp (m : Prog σ ε α) (Q : α → σ → Prop) (E : ε → σ → Prop) (s : σ) : Prop :=
  match m.exec s with
  | (.ok a, s') => Q a s'
  | (.error e, s') => E e s'

/-- Every exit is accepted: `wp m Q anyExit s` says nothing of a run that leaves. -/
@[simp] abbrev anyExit (_ : ε) (_ : σ) : Prop := True

/-- No exit is accepted: `wp m Q noExit s` says that the run returns. -/
@[simp] abbrev noExit (_ : ε) (_ : σ) : Prop := False

section WP

variable {Q Q' : α → σ → Prop} {E E' : ε → σ → Prop} {s : σ}

@[simp] theorem wp_pure (a : α) : wp (pure a : Prog σ ε α) Q E s ↔ Q a s := Iff.rfl

@[simp] theorem wp_throw (e : ε) : wp (throw e : Prog σ ε α) Q E s ↔ E e s := Iff.rfl

@[simp] theorem wp_get {Q : σ → σ → Prop} : wp (get : Prog σ ε σ) Q E s ↔ Q s s := Iff.rfl

@[simp] theorem wp_modify (f : σ → σ) {Q : PUnit → σ → Prop} :
    wp (modify f : Prog σ ε PUnit) Q E s ↔ Q ⟨⟩ (f s) := Iff.rfl

@[simp] theorem wp_bind (m : Prog σ ε α) (f : α → Prog σ ε β) {Q : β → σ → Prop} :
    wp (m >>= f) Q E s ↔ wp m (fun a s' => wp (f a) Q E s') E s := by
  unfold wp
  rw [exec_bind]
  rcases m.exec s with ⟨_ | _, _⟩ <;> exact Iff.rfl

@[simp] theorem wp_map (f : α → β) (m : Prog σ ε α) {Q : β → σ → Prop} :
    wp (f <$> m) Q E s ↔ wp m (fun a s' => Q (f a) s') E s := by
  rw [← bind_pure_comp, wp_bind]
  rfl

theorem wp_ite (c : Prop) [Decidable c] (m m' : Prog σ ε α) :
    wp (if c then m else m') Q E s ↔ (c → wp m Q E s) ∧ (¬ c → wp m' Q E s) := by
  by_cases h : c <;> simp [h]

theorem wp.ite {c : Prop} [Decidable c] {m m' : Prog σ ε α} (h : c → wp m Q E s)
    (h' : ¬ c → wp m' Q E s) : wp (if c then m else m') Q E s :=
  (wp_ite c m m').mpr ⟨h, h'⟩

theorem wp_when (c : Bool) (m : Prog σ ε PUnit) {Q : PUnit → σ → Prop} :
    wp (when c m) Q E s ↔ (c = true → wp m Q E s) ∧ (c = false → Q ⟨⟩ s) := by
  unfold when
  cases c <;> simp

variable {m : Prog σ ε α} {R : σ → Prop}

theorem wp_mono (h : wp m Q E s) (hQ : ∀ a s', Q a s' → Q' a s') (hE : ∀ e s', E e s' → E' e s') :
    wp m Q' E' s := by
  unfold wp at h ⊢
  rcases hm : m.exec s with ⟨_ | _, _⟩ <;> rw [hm] at h
  · exact hE _ _ h
  · exact hQ _ _ h

theorem wp_imp (h : wp m Q E s) (hQ : ∀ a s', Q a s' → Q' a s') : wp m Q' E s :=
  wp_mono h hQ fun _ _ h => h

theorem wp_seq {f : α → Prog σ ε β} {Q' : β → σ → Prop} (hm : wp m Q E s)
    (hf : ∀ a s', Q a s' → wp (f a) Q' E s') : wp (m >>= f) Q' E s :=
  (wp_bind m f).mpr (wp_imp hm hf)

theorem wp_any (hQ : ∀ a s', Q a s') (hE : ∀ e s', E e s') : wp m Q E s := by
  unfold wp
  rcases m.exec s with ⟨_ | _, _⟩
  · exact hE _ _
  · exact hQ _ _

theorem wp_and (h : wp m Q E s) (h' : wp m Q' E' s) :
    wp m (fun a s' => Q a s' ∧ Q' a s') (fun e s' => E e s' ∧ E' e s') s := by
  unfold wp at h h' ⊢
  rcases hm : m.exec s with ⟨_ | _, _⟩ <;> rw [hm] at h h' <;> exact ⟨h, h'⟩

theorem wp_final (h : wp m (fun _ s' => R s') (fun _ s' => R s') s) : R (m.exec s).2 := by
  unfold wp at h
  rcases hm : m.exec s with ⟨_ | _, _⟩ <;> rw [hm] at h <;> exact h

theorem wp_of_final (h : R (m.exec s).2) : wp m (fun _ s' => R s') (fun _ s' => R s') s := by
  unfold wp
  rcases hm : m.exec s with ⟨_ | _, _⟩ <;> rw [hm] at h <;> exact h

theorem wp_ok {a : α} {s' : σ} (h : wp m Q E s) (hm : m.exec s = (.ok a, s')) : Q a s' := by
  unfold wp at h
  rw [hm] at h
  exact h

theorem wp_of_exec {a : α} {s' : σ} (h : m.exec s = (.ok a, s')) : wp m Q E s ↔ Q a s' := by
  unfold wp
  rw [h]

theorem wp_congr {R : σ → σ → Prop} (hm : R s (m.exec s).2)
    (hQ : ∀ a s', R s s' → (Q a s' ↔ Q' a s')) : wp m Q E s ↔ wp m Q' E s := by
  unfold wp
  generalize m.exec s = r at hm ⊢
  obtain ⟨_ | _, _⟩ := r
  · exact Iff.rfl
  · exact hQ _ _ hm

theorem wp_returns (h : wp m Q noExit s) : ∃ a s', m.exec s = (.ok a, s') ∧ Q a s' := by
  unfold wp at h
  rcases hm : m.exec s with ⟨_ | a, s'⟩ <;> rw [hm] at h
  · exact h.elim
  · exact ⟨a, s', rfl, h⟩

end WP

/-! ### Frames: how every run moves the state -/

/-- Every run of `m`, returning or not, takes the state to an `R`-related one. -/
def Steps (R : σ → σ → Prop) (m : Prog σ ε α) : Prop := ∀ s, R s (m.exec s).2

section Steps

variable {R : σ → σ → Prop}

theorem Steps.pure [Std.Refl R] (a : α) : Steps R (Pure.pure a : Prog σ ε α) :=
  fun s => refl_of R s

theorem Steps.throw [Std.Refl R] (e : ε) : Steps R (MonadExcept.throw e : Prog σ ε α) :=
  fun s => refl_of R s

theorem Steps.get [Std.Refl R] : Steps R (MonadState.get : Prog σ ε σ) :=
  fun s => refl_of R s

theorem Steps.modify {f : σ → σ} (h : ∀ s, R s (f s)) :
    Steps R (modifyThe σ f : Prog σ ε PUnit) := h

variable {f : α → Prog σ ε β} {m m' : Prog σ ε α} {c : Prop} {s : σ}

theorem Steps.bind [IsTrans σ R] (hm : Steps R m) (hf : ∀ a, Steps R (f a)) :
    Steps R (m >>= f) := by
  intro s
  have hs := hm s
  rw [exec_bind]
  rcases h : m.exec s with ⟨_ | a, s'⟩ <;> rw [h] at hs
  · exact hs
  · exact trans_of R hs (hf a s')

theorem Steps.ite [Decidable c] (h : Steps R m) (h' : Steps R m') :
    Steps R (if c then m else m') := by
  split
  · exact h
  · exact h'

theorem Steps.ite_of [Decidable c] (h : c → Steps R m) (h' : ¬ c → Steps R m') :
    Steps R (if c then m else m') := by
  split
  case isTrue hc => exact h hc
  case isFalse hc => exact h' hc

theorem wp_of_steps (h : Steps R m) : wp m (fun _ s' => R s s') (fun _ s' => R s s') s := by
  have hs := h s
  unfold wp
  rcases hm : m.exec s with ⟨_ | _, _⟩ <;> rw [hm] at hs <;> exact hs

theorem Steps.imp {Q : α → σ → Prop} (h : Steps R m) (hQ : ∀ a s', R s s' → Q a s') :
    wp m Q anyExit s :=
  wp_mono (wp_of_steps h) hQ fun _ _ _ => trivial

theorem Steps.seq {Q : β → σ → Prop} (h : Steps R m)
    (hf : ∀ a s', R s s' → wp (f a) Q anyExit s') : wp (m >>= f) Q anyExit s :=
  (wp_bind m f).mpr (h.imp hf)

theorem wp_after [IsTrans σ R] {s₀ : σ} (hs : R s₀ s) (hm : R s (m.exec s).2) :
    wp m (fun _ s' => R s₀ s') (fun _ s' => R s₀ s') s :=
  wp_of_final (trans_of R hs hm)

theorem steps_of_wp (h : ∀ s, wp m (fun _ s' => R s s') (fun _ s' => R s s') s) : Steps R m :=
  fun s => wp_final (h s)

theorem Steps.when [Std.Refl R] {c : Bool} {m : Prog σ ε PUnit} (h : Steps R m) :
    Steps R (when c m) := .ite h (.pure _)

theorem Steps.mono {R' : σ → σ → Prop} (h : Steps R m) (hR : ∀ s s', R s s' → R' s s') :
    Steps R' m :=
  fun s => hR _ _ (h s)

end Steps

/-! ### Blocks with a jump to their end -/

/-- How a block is left before its end: with an exit of the whole program, or by a jump to
    the end of the block with its value. -/
inductive Jump (ε α : Type) where
  | exit (e : ε)
  | goto (a : α)
deriving DecidableEq, Repr

/-- What leaving a block early establishes: `Q` for a jump, `E` for an exit. -/
def Jump.post (Q : α → σ → Prop) (E : ε → σ → Prop) : Jump ε α → σ → Prop
  | .goto a, s => Q a s
  | .exit e, s => E e s

def goto (a : α) : Prog σ (Jump ε α) β := throw (.goto a)

def attempt (m : Prog σ (Jump ε α) β) : Prog σ ε (Except α β) :=
  ExceptT.mk fun s =>
    match m.exec s with
    | (.ok b, s') => (.ok (.ok b), s')
    | (.error (.goto a), s') => (.ok (.error a), s')
    | (.error (.exit e), s') => (.error e, s')

def block (m : Prog σ (Jump ε α) α) : Prog σ ε α := do
  match ← attempt m with
  | .ok a => return a
  | .error a => return a

def call (m : Prog σ ε α) : Prog σ (Jump ε β) α :=
  ExceptT.mk fun s =>
    match m.exec s with
    | (.ok a, s') => (.ok a, s')
    | (.error e, s') => (.error (.exit e), s')

section Blocks

variable {s : σ}

@[simp] theorem wp_goto (a : α) {Q : β → σ → Prop} {E : Jump ε α → σ → Prop} :
    wp (goto a) Q E s ↔ E (.goto a) s := Iff.rfl

theorem exec_attempt (m : Prog σ (Jump ε α) β) :
    (attempt m).exec s = match m.exec s with
    | (.ok b, s') => (.ok (.ok b), s')
    | (.error (.goto a), s') => (.ok (.error a), s')
    | (.error (.exit e), s') => (.error e, s') := rfl

@[simp] theorem wp_attempt (m : Prog σ (Jump ε α) β) {Q : Except α β → σ → Prop}
    {E : ε → σ → Prop} :
    wp (attempt m) Q E s ↔
      wp m (fun b s' => Q (.ok b) s') (Jump.post (fun a s' => Q (.error a) s') E) s := by
  unfold wp
  rw [exec_attempt]
  rcases m.exec s with ⟨(_ | _) | _, _⟩ <;> exact Iff.rfl

@[simp] theorem wp_block (m : Prog σ (Jump ε α) α) {Q : α → σ → Prop} {E : ε → σ → Prop} :
    wp (block m) Q E s ↔ wp m Q (Jump.post Q E) s := by
  unfold block
  rw [wp_bind, wp_attempt]
  rfl

@[simp] theorem wp_call (m : Prog σ ε α) {Q : α → σ → Prop} {E : Jump ε β → σ → Prop} :
    wp (call m) Q E s ↔ wp m Q (fun e s' => E (.exit e) s') s := by
  have hexec : exec (call m : Prog σ (Jump ε β) α) s = match m.exec s with
    | (.ok a, s') => (.ok a, s')
    | (.error e, s') => (.error (.exit e), s') := rfl
  unfold wp
  rw [hexec]
  rcases m.exec s with ⟨_ | _, _⟩ <;> exact Iff.rfl

variable {R : σ → σ → Prop}

theorem Steps.goto [Std.Refl R] (a : α) : Steps R (goto a : Prog σ (Jump ε α) β) :=
  fun s => refl_of R s

theorem Steps.attempt {m : Prog σ (Jump ε α) β} (h : Steps R m) : Steps R (attempt m) := by
  intro s
  have hfinal : ((Prog.attempt m).exec s).2 = (m.exec s).2 := by
    rw [exec_attempt]
    rcases m.exec s with ⟨(_ | _) | _, _⟩ <;> rfl
  rw [hfinal]
  exact h s

theorem Steps.block [Std.Refl R] [IsTrans σ R] {m : Prog σ (Jump ε α) α} (h : Steps R m) :
    Steps R (block m) := by
  refine .bind (.attempt h) fun r => ?_
  cases r with
  | ok a => exact .pure a
  | error a => exact .pure a

theorem Steps.call {m : Prog σ ε α} (h : Steps R m) : Steps R (call m : Prog σ (Jump ε β) α) := by
  intro s
  have hfinal : ((Prog.call m : Prog σ (Jump ε β) α).exec s).2 = (m.exec s).2 := by
    show (match m.exec s with
      | (.ok a, s') => (.ok a, s')
      | (.error e, s') => (.error (.exit e), s') : Except (Jump ε β) α × σ).2 = _
    rcases m.exec s with ⟨_ | _, _⟩ <;> rfl
  rw [hfinal]
  exact h s

end Blocks

/-! ### The errors of a program -/

def Raises (P : ε → Prop) (m : Prog σ ε α) : Prop :=
  ∀ s, wp m (fun _ _ => True) (fun e _ => P e) s

section Raises

variable {P : ε → Prop}

theorem Raises.pure (a : α) : Raises P (Pure.pure a : Prog σ ε α) := fun _ => trivial

theorem Raises.get : Raises P (MonadState.get : Prog σ ε σ) := fun _ => trivial

theorem Raises.modify (f : σ → σ) : Raises P (modify f : Prog σ ε PUnit) := fun _ => trivial

variable {m : Prog σ ε α}

theorem Raises.bind {f : α → Prog σ ε β} (hm : Raises P m) (hf : ∀ a, Raises P (f a)) :
    Raises P (m >>= f) := by
  intro s
  rw [wp_bind]
  exact wp_mono (hm s) (fun a s' _ => hf a s') fun _ _ h => h

theorem Raises.ite {c : Prop} [Decidable c] {m' : Prog σ ε α} (h : Raises P m) (h' : Raises P m') :
    Raises P (if c then m else m') := by
  split
  · exact h
  · exact h'

theorem Raises.when {c : Bool} {m : Prog σ ε PUnit} (h : Raises P m) :
    Raises P (when c m) := .ite h (.pure _)

theorem Raises.goto {P : Jump ε α → Prop} {a : α} (h : P (.goto a)) :
    Raises P (goto a : Prog σ (Jump ε α) β) := fun _ => h

theorem Raises.call {P : Jump ε β → Prop} (h : ∀ e, P (.exit e)) :
    Raises P (call m : Prog σ (Jump ε β) α) := by
  intro s
  rw [wp_call]
  exact wp_any (fun _ _ => trivial) fun e _ => h e

abbrev Returns (m : Prog σ ε α) : Prop := Raises (fun _ => False) m

theorem Returns.call {P : Jump ε β → Prop} (h : Returns m) :
    Raises P (call m : Prog σ (Jump ε β) α) := by
  intro s
  rw [wp_call]
  exact wp_mono (h s) (fun _ _ h => h) fun _ _ hfalse => hfalse.elim

theorem Returns.block {P : Jump ε α → Prop} {m : Prog σ (Jump ε α) α} (h : Raises P m)
    (hP : ∀ e, ¬ P (.exit e)) : Returns (block m) := by
  intro s
  rw [wp_block]
  refine wp_mono (h s) (fun _ _ h => h) ?_
  rintro (e | a) s' hj
  · exact hP e hj
  · trivial

theorem wp_of_steps_raises {R : σ → σ → Prop} (hs : Steps R m) (hr : Raises P m) {s : σ} :
    wp m (fun _ s' => R s s') (fun e s' => R s s' ∧ P e) s :=
  wp_mono (wp_and (wp_of_steps hs) (hr s)) (fun _ _ h => h.1) fun _ _ h => ⟨h.1, h.2⟩

end Raises

/-! ### Invariants of a program that returns -/

def Maintains (I : σ → Prop) (m : Prog σ ε α) : Prop :=
  ∀ s, I s → wp m (fun _ s' => I s') (fun _ _ => True) s

section Maintains

variable {I : σ → Prop}

theorem Maintains.pure (a : α) : Maintains I (Pure.pure a : Prog σ ε α) := fun _ h => h

theorem Maintains.throw (e : ε) : Maintains I (MonadExcept.throw e : Prog σ ε α) :=
  fun _ _ => trivial

theorem Maintains.get : Maintains I (MonadState.get : Prog σ ε σ) := fun _ h => h

theorem Maintains.modify {f : σ → σ} (h : ∀ s, I s → I (f s)) :
    Maintains I (modify f : Prog σ ε PUnit) := h

variable {m : Prog σ ε α}

theorem Maintains.bind {f : α → Prog σ ε β} (hm : Maintains I m) (hf : ∀ a, Maintains I (f a)) :
    Maintains I (m >>= f) := by
  intro s hs
  rw [wp_bind]
  exact wp_mono (hm s hs) (fun a s' h => hf a s' h) fun _ _ h => h

theorem Maintains.ite {c : Prop} [Decidable c] {m' : Prog σ ε α} (h : Maintains I m)
    (h' : Maintains I m') : Maintains I (if c then m else m') := by
  split
  · exact h
  · exact h'

theorem Maintains.when {c : Bool} {m : Prog σ ε PUnit} (h : Maintains I m) :
    Maintains I (when c m) := .ite h (.pure _)

theorem Maintains.of_steps {R : σ → σ → Prop} (hm : Steps R m) (h : ∀ s s', R s s' → I s → I s') :
    Maintains I m :=
  fun s hs => wp_mono (wp_of_steps hm) (fun _ s' hR => h s s' hR hs) fun _ _ _ => trivial

end Maintains

/-! ### Programs over a component of the state -/

/-- A component of the state.  For a field of a record the laws hold by definition. -/
structure Lens (σ τ : Type) where
  get : σ → τ
  set : σ → τ → σ
  get_set : ∀ s t, get (set s t) = t := by exact fun _ _ => rfl
  set_get : ∀ s, set s (get s) = s := by exact fun _ => rfl
  set_set : ∀ s t t', set (set s t) t' = set s t' := by exact fun _ _ _ => rfl

def zoom (l : Lens σ τ) (m : Prog τ ε α) : Prog σ ε α :=
  ExceptT.mk fun s => ((m.exec (l.get s)).1, l.set s (m.exec (l.get s)).2)

@[simp] theorem exec_zoom (l : Lens σ τ) (m : Prog τ ε α) (s : σ) :
    exec (zoom l m) s = ((m.exec (l.get s)).1, l.set s (m.exec (l.get s)).2) := rfl

@[simp] theorem wp_zoom (l : Lens σ τ) (m : Prog τ ε α) {Q : α → σ → Prop}
    {E : ε → σ → Prop} {s : σ} :
    wp (zoom l m) Q E s ↔
      wp m (fun a t => Q a (l.set s t)) (fun e t => E e (l.set s t)) (l.get s) := by
  unfold wp
  rw [exec_zoom]
  rcases m.exec (l.get s) with ⟨_ | _, _⟩ <;> exact Iff.rfl

variable {R : σ → σ → Prop} {l : Lens σ τ} {m : Prog τ ε α}

theorem Steps.zoom {R' : τ → τ → Prop} (h : Steps R' m)
    (hR : ∀ s t, R' (l.get s) t → R s (l.set s t)) : Steps R (zoom l m) :=
  fun s => hR s _ (h (l.get s))

theorem Steps.zoom_any (hR : ∀ s t, R s (l.set s t)) : Steps R (Prog.zoom l m) :=
  fun s => hR s _

/-! ### Frames with a fact about the value -/

/-- Every run of `m` moves the state by `R`, and a value it returns satisfies `P`. -/
def Yields (R : σ → σ → Prop) (P : α → Prop) (m : Prog σ ε α) : Prop :=
  ∀ s, wp m (fun a s' => R s s' ∧ P a) (fun _ s' => R s s') s

section Yields

variable {R : σ → σ → Prop} {P P' : α → Prop} {m : Prog σ ε α} {Q : β → Prop} {f : α → Prog σ ε β}

theorem Yields.steps (h : Yields R P m) : Steps R m :=
  steps_of_wp fun s => wp_mono (h s) (fun _ _ h => h.1) fun _ _ h => h

theorem Steps.yields (h : Steps R m) (hP : ∀ a, P a) : Yields R P m :=
  fun _ => wp_mono (wp_of_steps h) (fun a _ h => ⟨h, hP a⟩) fun _ _ h => h

theorem Yields.pure [Std.Refl R] {a : α} (h : P a) : Yields R P (Pure.pure a : Prog σ ε α) :=
  fun s => ⟨refl_of R s, h⟩

theorem Yields.imp {R' : σ → σ → Prop} (h : Yields R P m) (hR : ∀ s s', R s s' → R' s s') :
    Yields R' P m :=
  fun s => wp_mono (h s) (fun _ _ h => ⟨hR _ _ h.1, h.2⟩) fun _ _ h => hR _ _ h

theorem Yields.bind [IsTrans σ R] (hm : Yields R P m) (hf : ∀ a, P a → Yields R Q (f a)) :
    Yields R Q (m >>= f) := by
  intro s
  rw [wp_bind]
  refine wp_mono (hm s) ?_ fun _ _ h => h
  intro a s' h
  exact wp_mono (hf a h.2 s') (fun b s'' h' => ⟨trans_of R h.1 h'.1, h'.2⟩)
    fun e s'' h' => trans_of R h.1 h'

theorem Steps.bind_yields [IsTrans σ R] (hm : Steps R m) (hf : ∀ a, Yields R Q (f a)) :
    Yields R Q (m >>= f) :=
  Yields.bind (P := fun _ => True) (hm.yields fun _ => trivial) fun a _ => hf a

theorem Yields.bind_steps [IsTrans σ R] (hm : Yields R P m) (hf : ∀ a, P a → Steps R (f a)) :
    Steps R (m >>= f) :=
  Yields.steps (P := fun _ => True)
    (.bind hm fun a ha => (hf a ha).yields fun _ => trivial)

theorem Yields.ite {c : Prop} [Decidable c] {m' : Prog σ ε α} (h : c → Yields R P m)
    (h' : ¬ c → Yields R P m') : Yields R P (if c then m else m') := by
  split
  case isTrue hc => exact h hc
  case isFalse hc => exact h' hc

end Yields

end Prog

end OhMyAbl
