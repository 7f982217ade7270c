/-
  **UNBOOTABLE and SUCCESSFUL along every sequence of slot calls.**

  `HandleActiveSlotUnbootable` computes its mask as `UNBOOTABLE & ~SUCCESSFUL` and ORs it in:
  SUCCESSFUL is not cleared.  Every other routine only clears the two flags (`FlagsCleared`).
-/
import OhMyAbl.Partition.SetActiveSlot

namespace OhMyAbl

open Prog

/-! ### ClearUnbootable -/

def clearUnbootable (env : SlotEnv) : Prog SlotState Exit EfiStatus := do
  let active ← getActiveSlot env
  if active.1 ≠ EFI_SUCCESS then return active.1
  let s ← get
  match getBootPartitionEntry env s.ptnEntries active.2 with
  | none => return EFI_NOT_FOUND
  | some i =>
    modify (·.updateEntry i (·.clearMask PART_ATT_UNBOOTABLE_VAL))
    return EFI_SUCCESS

/-! ### Routines that only clear flags -/

structure PartitionEntry.FlagsKept (e e' : PartitionEntry) : Prop where
  name : e'.partitionName = e.partitionName
  successful : e'.successful = true → e.successful = true
  unbootable : e'.unbootable = true → e.unbootable = true

theorem PartitionEntry.FlagsKept.rfl {e : PartitionEntry} : e.FlagsKept e := ⟨Eq.refl _, id, id⟩

theorem PartitionEntry.FlagsKept.trans {e e' e'' : PartitionEntry} (h : e.FlagsKept e')
    (h' : e'.FlagsKept e'') : e.FlagsKept e'' :=
  ⟨h'.name.trans h.name, fun hs => h.successful (h'.successful hs),
    fun hu => h.unbootable (h'.unbootable hu)⟩

def FlagsCleared (s s' : SlotState) : Prop :=
  s'.ptnEntries.map (·.partitionName) = s.ptnEntries.map (·.partitionName) ∧
    ∀ (k : Nat) (e' : PartitionEntry), s'.ptnEntries[k]? = some e' →
      ∃ e : PartitionEntry, s.ptnEntries[k]? = some e ∧ e.FlagsKept e'

instance : Std.Refl FlagsCleared where
  refl _ := ⟨rfl, fun _ e' h => ⟨e', h, .rfl⟩⟩

instance : IsTrans SlotState FlagsCleared where
  trans _ _ _ h h' := by
    refine ⟨h'.1.trans h.1, fun k e'' he'' => ?_⟩
    obtain ⟨e', he', hkept'⟩ := h'.2 k e'' he''
    obtain ⟨e, he, hkept⟩ := h.2 k e' he'
    exact ⟨e, he, hkept.trans hkept'⟩

section Cleared

variable {env : SlotEnv} {s s' : SlotState} {e : PartitionEntry} {suffix : Text}

theorem flagsKept_setMask {m : BitVec 64} (hs : m &&& PART_ATT_SUCCESSFUL_VAL = 0)
    (hu : m &&& PART_ATT_UNBOOTABLE_VAL = 0) : e.FlagsKept (e.setMask m) := by
  obtain ⟨hsucc, hunboot⟩ := sameVerdict_setMask (e := e) hs hu
  exact ⟨rfl, fun h => hsucc ▸ h, fun h => hunboot ▸ h⟩

theorem test_clearMask {a m v : BitVec 64} (h : Bits.test (a &&& ~~~m) v = true) :
    Bits.test a v = true := by
  simp only [Bits.test, bne_iff_ne] at h ⊢
  intro hzero
  refine h ?_
  rw [BitVec.and_assoc, BitVec.and_comm (~~~m) v, ← BitVec.and_assoc, hzero]
  exact BitVec.zero_and

theorem flagsKept_clearMask (m : BitVec 64) : e.FlagsKept (e.clearMask m) :=
  ⟨rfl, test_clearMask, test_clearMask⟩

theorem flagsKept_firstBootSlot : e.FlagsKept e.firstBootSlot :=
  ((flagsKept_clearMask _).trans (flagsKept_clearMask _)).trans
    (flagsKept_setMask (by decide) (by decide))

theorem flagsKept_activate (reset : Bool) : e.FlagsKept (e.activate reset) := by
  have hmasks : e.FlagsKept ((e.setMask (PART_ATT_PRIORITY_VAL ||| PART_ATT_ACTIVE_VAL |||
      PART_ATT_MAX_RETRY_COUNT_VAL)).clearMask PART_ATT_UNBOOTABLE_VAL) :=
    (flagsKept_setMask (by decide) (by decide)).trans (flagsKept_clearMask _)
  simp only [PartitionEntry.activate]
  split
  · exact hmasks.trans (flagsKept_clearMask _)
  · exact hmasks

theorem flagsKept_deactivate : e.FlagsKept e.deactivate :=
  ((flagsKept_clearMask _).trans (flagsKept_clearMask _)).trans
    (flagsKept_setMask (by decide) (by decide))

theorem flagsKept_markActive : e.FlagsKept (markActive suffix e) := by
  unfold markActive
  split
  · exact flagsKept_setMask (by decide) (by decide)
  · exact flagsKept_clearMask _

theorem flagsKept_useRetry (h : e.retryCount ≠ 0) : e.FlagsKept e.useRetry := by
  obtain ⟨hs, hu⟩ := sameVerdict_useRetry h
  exact ⟨rfl, fun h => hs ▸ h, fun h => hu ▸ h⟩

theorem flagsCleared_updateEntry {i : Nat} {f : PartitionEntry → PartitionEntry}
    (hname : KeepsName f) (h : ∀ e, s.ptnEntries[i]? = some e → e.FlagsKept (f e)) :
    FlagsCleared s (s.updateEntry i f) := by
  refine ⟨names_modify hname _ _, fun k e' he' => ?_⟩
  simp only [SlotState.updateEntry, List.getElem?_modify] at he'
  by_cases hk : i = k
  · subst hk
    cases he : s.ptnEntries[i]? with
    | none => simp [he] at he'
    | some e =>
      simp only [he, Option.map_eq_map, Option.map_some, Option.some.injEq] at he'
      exact ⟨e, rfl, he' ▸ h e he⟩
  · simp only [hk, if_false, id_map'] at he'
    exact ⟨e', he', .rfl⟩

theorem flagsCleared_of_entries (h : s'.ptnEntries = s.ptnEntries) : FlagsCleared s s' :=
  ⟨by rw [h], fun _ e' he' => ⟨e', h ▸ he', .rfl⟩⟩

theorem flagsCleared_markPtnActive (suffix : Text) : FlagsCleared s (markPtnActive suffix s) := by
  constructor
  · simp only [markPtnActive, List.map_map]
    exact List.map_congr_left fun e _ => keepsName_markActive e
  · intro k e' he'
    simp only [markPtnActive, List.getElem?_map, Option.map_eq_some_iff] at he'
    obtain ⟨e, he, rfl⟩ := he'
    exact ⟨e, he, flagsKept_markActive⟩

theorem flagsCleared_switchPtnSlots (active : Text) :
    FlagsCleared s (switchPtnSlots env active s) := by
  have hslots := sameSlots_switchPtnSlots env s active
  refine ⟨hslots.names, fun k e' he' => ?_⟩
  have hk := congrArg (·[k]?) hslots
  simp only [List.getElem?_map, he'] at hk
  obtain ⟨e, he, huntyped⟩ := Option.map_eq_some_iff.mp hk.symm
  have hattr : e.attributes = e'.attributes := by
    show e.untyped.attributes = e'.untyped.attributes
    rw [huntyped]
  have hname : e'.partitionName = e.partitionName := by
    show e'.untyped.partitionName = e.untyped.partitionName
    rw [huntyped]
  refine ⟨e, he, hname, fun h => ?_, fun h => ?_⟩
  · rw [PartitionEntry.successful, hattr]
    exact h
  · rw [PartitionEntry.unbootable, hattr]
    exact h

theorem flagsCleared_switchToSlot (current new : Text) :
    FlagsCleared s (switchToSlot env current new s) := by
  unfold switchToSlot
  split
  · split
    · split
      · exact flagsCleared_of_entries (ptnEntries_ufsSetBootLun _)
      · exact refl_of FlagsCleared s
    · exact refl_of FlagsCleared s
  · exact trans_of FlagsCleared (flagsCleared_switchPtnSlots new) (flagsCleared_markPtnActive new)

theorem flagsCleared_settle (env : SlotEnv) (s : SlotState) : FlagsCleared s (settle env s) := by
  obtain hs | ⟨i, hs⟩ := settle_cases env s
  · rw [hs]
    exact refl_of FlagsCleared s
  · have hupdate : FlagsCleared s (s.updateEntry i PartitionEntry.firstBootSlot) :=
      flagsCleared_updateEntry keepsName_firstBootSlot fun _ _ => flagsKept_firstBootSlot
    rw [hs]
    exact hupdate

theorem getActiveSlot_clears (env : SlotEnv) : Steps FlagsCleared (getActiveSlot env) := by
  intro s
  rw [exec_getActiveSlot]
  exact flagsCleared_settle env s

theorem setActiveSlot_clears (env : SlotEnv) (newSlot : Text) (reset : Bool) :
    Steps FlagsCleared (setActiveSlot env newSlot reset) := by
  refine .bind (getActiveSlot_clears env) fun current => ?_
  refine .ite (.pure _) (.bind .get fun s => ?_)
  split
  · exact .pure _
  · refine .bind (fun t => ?_) fun _ => ?_
    · exact flagsCleared_updateEntry (keepsName_activate reset) fun _ _ => flagsKept_activate reset
    · split
      · exact .pure _
      · refine .bind (fun t => ?_) fun _ => .bind (fun t => ?_) fun _ => .pure _
        · exact flagsCleared_updateEntry keepsName_deactivate fun _ _ => flagsKept_deactivate
        · exact flagsCleared_switchToSlot _ _

theorem clearUnbootable_clears (env : SlotEnv) : Steps FlagsCleared (clearUnbootable env) := by
  refine .bind (getActiveSlot_clears env) fun active => ?_
  refine .ite (.pure _) (.bind .get fun s => ?_)
  split
  · exact .pure _
  · refine .bind (fun t => ?_) fun _ => .pure _
    exact flagsCleared_updateEntry (keepsName_clearMask _) fun _ _ => flagsKept_clearMask _

theorem bootAlternateSlot_clears (env : SlotEnv) (suffix : Text) (force : Bool) :
    Steps FlagsCleared (bootAlternateSlot env suffix force) := by
  refine .bind .get fun s => ?_
  split
  · exact .pure _
  · refine .ite (.bind (setActiveSlot_clears _ _ _) fun status => ?_) (.pure _)
    exact .ite (.pure _) (.throw _)

end Cleared

/-! ### Consistent flags -/

section Consistent

variable {env : SlotEnv} {s s' : SlotState}

def FlagsConsistent (env : SlotEnv) (s : SlotState) : Prop :=
  ∀ suffix, suffix = slotA ∨ suffix = slotB → ∀ e, bootEntry env s suffix = some e →
    ¬ (e.unbootable = true ∧ e.successful = true)

theorem flagsConsistent_iff : FlagsConsistent env s ↔ ([slotA, slotB].all fun suffix =>
    !(bootEntry env s suffix).any fun e => e.unbootable && e.successful) = true := by
  rw [List.all_eq_true]
  constructor
  · intro h suffix hmem
    have hslot : IsSlot suffix := by simpa using hmem
    cases he : bootEntry env s suffix with
    | none => rfl
    | some e =>
      have hnot := h suffix hslot e he
      cases hu : e.unbootable <;> cases hs : e.successful <;> simp_all
  · intro h suffix hslot e he hboth
    have hnot := h suffix (by simpa using hslot)
    simp [he, hboth.1, hboth.2] at hnot

instance : Decidable (FlagsConsistent env s) := decidable_of_iff _ flagsConsistent_iff.symm

theorem FlagsConsistent.cleared (h : FlagsConsistent env s) (hc : FlagsCleared s s') :
    FlagsConsistent env s' := by
  intro suffix hslot e' he' hboth
  rw [bootEntry, getBootPartitionEntry_names hc.1] at he'
  obtain ⟨i, hi, hei⟩ := Option.bind_eq_some_iff.mp he'
  obtain ⟨e, he, hkept⟩ := hc.2 i e' hei
  have hbefore : bootEntry env s suffix = some e := by rw [bootEntry, hi, Option.bind_some, he]
  exact h suffix hslot e hbefore ⟨hkept.unbootable hboth.1, hkept.successful hboth.2⟩

theorem FlagsConsistent.wp_clears {α : Type} {m : Prog SlotState Exit α} (h : FlagsConsistent env s)
    (hm : Steps FlagsCleared m) :
    wp m (fun _ s' => FlagsConsistent env s') (fun _ s' => FlagsConsistent env s') s :=
  wp_mono (wp_of_steps hm) (fun _ _ hc => h.cleared hc) fun _ _ hc => h.cleared hc

theorem FlagsConsistent.giveUp {i : Nat} (h : FlagsConsistent env s)
    (hfail : ∀ e, s.ptnEntries[i]? = some e → e.successful = false) :
    FlagsConsistent env (s.updateEntry i (·.setMask PART_ATT_UNBOOTABLE_VAL)) := by
  intro suffix hslot e' he' hboth
  have hnames := names_modify (keepsName_setMask PART_ATT_UNBOOTABLE_VAL) s.ptnEntries i
  rw [bootEntry, SlotState.updateEntry, getBootPartitionEntry_names hnames] at he'
  obtain ⟨k, hk, hek⟩ := Option.bind_eq_some_iff.mp he'
  rw [List.getElem?_modify] at hek
  cases he : s.ptnEntries[k]? with
  | none => simp [he] at hek
  | some e =>
    by_cases hik : i = k
    · subst hik
      simp only [he, if_true, Option.map_eq_map, Option.map_some, Option.some.injEq] at hek
      have hsucc : e'.successful = e.successful := by
        rw [← hek, PartitionEntry.successful, Bits.test, PartitionEntry.setMask,
          Bits.or_and_of_disjoint (by decide)]
        rfl
      rw [hsucc, hfail e he] at hboth
      exact Bool.noConfusion hboth.2
    · simp only [hik, he, if_false, Option.map_eq_map, Option.map_some,
        Option.some.injEq] at hek
      have hbefore : bootEntry env s suffix = some e := by
        rw [bootEntry, hk, Option.bind_some, he]
      exact h suffix hslot e hbefore (hek ▸ hboth)

/-- `HandleActiveSlotUnbootable` gives up no slot that has booted: it finds no active slot, the
    active slot is not SUCCESSFUL, or it is spared because of the first boot of a build that is no
    user build. -/
def GivesUpFailed (env : SlotEnv) (s : SlotState) : Prop :=
  (activeResult env s).1 ≠ EFI_SUCCESS ∨
    (∀ e, bootEntry env (settle env s) (activeResult env s).2 = some e → e.successful = false) ∨
    (settle env s).firstBoot = true ∧ env.targetBuildVariantUser = false

theorem handleActiveSlotUnbootable_consistent (force : Bool) (h : FlagsConsistent env s)
    (hcond : GivesUpFailed env s) :
    wp (handleActiveSlotUnbootable env force) (fun _ s' => FlagsConsistent env s')
      (fun _ s' => FlagsConsistent env s') s := by
  have hsettled := h.cleared (flagsCleared_settle env s)
  simp only [handleActiveSlotUnbootable, wp_bind, wp_getActiveSlot]
  refine .ite (fun _ => hsettled) fun hok => ?_
  rw [wp_bind, wp_get]
  cases hi : getBootPartitionEntry env (settle env s).ptnEntries (activeResult env s).2 with
  | none => exact hsettled
  | some i =>
    simp only [wp_bind, wp_ite]
    refine ⟨fun _ => FlagsConsistent.wp_clears ?_ (bootAlternateSlot_clears _ _ _), fun hno =>
      (hsettled.giveUp fun e he => ?_).wp_clears (bootAlternateSlot_clears _ _ _)⟩
    · exact hsettled.cleared (flagsCleared_of_entries rfl)
    -- the slot is found and not spared, so the condition says that it has not booted
    obtain herror | hfail | ⟨hfirst, huser⟩ := hcond
    · exact absurd herror hok
    · exact hfail e (by rw [bootEntry, hi, Option.bind_some, he])
    · exact absurd (by simp [hfirst, huser]) hno

theorem Tried.clears {t u : SlotState} {x : Text} {e : PartitionEntry} (h : Tried env t x e u)
    (he : bootEntry env t x = some e) : FlagsCleared t u := by
  cases h with
  | kept _ => exact refl_of FlagsCleared t
  | retry _ hretry hi =>
    refine flagsCleared_updateEntry keepsName_useRetry fun e' he' => flagsKept_useRetry ?_
    rw [bootEntry, hi, Option.bind_some, he', Option.some.injEq] at he
    exact he ▸ hretry

theorem FlagsConsistent.marked {u : SlotState} {x : Text} {e : PartitionEntry}
    (h : FlagsConsistent env s) (hx : IsSlot x) (he : bootEntry env s x = some e)
    (hspent : e.Spent) (hmarked : Marked env s x u) : FlagsConsistent env u := by
  cases hmarked with
  | spared => exact h.cleared (flagsCleared_of_entries rfl)
  | unbootable hi =>
    refine h.giveUp fun e' he' => ?_
    have hfail := h x hx e he
    rw [bootEntry, hi, Option.bind_some, he', Option.some.injEq] at he
    subst he
    -- a SUCCESSFUL slot comes here only if it is UNBOOTABLE as well
    obtain hunboot | ⟨hfail', -⟩ := hspent
    · simpa [hunboot] using hfail
    · exact hfail'

theorem findBootableSlot_consistent (h : FlagsConsistent env s) :
    FlagsConsistent env ((findBootableSlot env).exec s).2 := by
  have hsettled := h.cleared (flagsCleared_settle env s)
  cases hri : env.recoveryInfo with
  | true =>
    refine wp_final (m := findBootableSlot env) ?_
    simp only [findBootableSlot, wp_bind, wp_getActiveSlot, wp_ite, wp_get, hri]
    refine ⟨fun _ => hsettled, fun _ => ?_⟩
    split <;> exact hsettled
  | false =>
    have hstep := findBootableSlot_step hri s
    generalize (findBootableSlot env).exec s = r at hstep ⊢
    obtain ⟨r, s'⟩ := r
    cases hstep with
    | noActive _ => exact hsettled
    | chosen _ he _ htried _ =>
      exact (hsettled.cleared (htried.clears he)).cleared (flagsCleared_markPtnActive _)
    | rejected _ he htried _ _ => exact hsettled.cleared (htried.clears he)
    | givenUp hres he hspent hmarked =>
      exact hsettled.marked (slot_of_activeResult hri hres) he hspent hmarked
    | switched hres he hspent hmarked _ =>
      exact (hsettled.marked (slot_of_activeResult hri hres) he hspent hmarked).cleared
        (setActiveSlot_clears _ _ _ _)

end Consistent

/-! ### Sequences of calls -/

/-- The calls that change slot attributes, and the start of the device on the table that was
    written. -/
inductive SlotCall where
  | findBootableSlot
  | setActiveSlot (newSlot : Text) (resetSuccessBit : Bool)
  | clearUnbootable
  | handleActiveSlotUnbootable (forceBootAlternateSlot : Bool)
  | restart
deriving DecidableEq, Repr

def SlotCall.step (env : SlotEnv) (s : SlotState) : SlotCall → SlotState
  | .findBootableSlot => ((OhMyAbl.findBootableSlot env).exec s).2
  | .setActiveSlot newSlot reset => ((OhMyAbl.setActiveSlot env newSlot reset).exec s).2
  | .clearUnbootable => ((OhMyAbl.clearUnbootable env).exec s).2
  | .handleActiveSlotUnbootable force => ((OhMyAbl.handleActiveSlotUnbootable env force).exec s).2
  | .restart => { s with firstBoot := false, headNode := [] }

/-- The condition on a call: a slot that is given up from outside has not booted. -/
def SlotCall.GivesUpFailed (env : SlotEnv) (s : SlotState) : SlotCall → Prop
  | .handleActiveSlotUnbootable _ => OhMyAbl.GivesUpFailed env s
  | _ => True

section Runs

variable {env env' : SlotEnv} {s s' : SlotState}

theorem bootEntry_env (h : env'.recoveryInfo = env.recoveryInfo) (suffix : Text) :
    bootEntry env' s suffix = bootEntry env s suffix := by
  simp [bootEntry, getBootPartitionEntry, h]

theorem flagsConsistent_env (h : env'.recoveryInfo = env.recoveryInfo) :
    FlagsConsistent env' s ↔ FlagsConsistent env s := by
  simp [FlagsConsistent, bootEntry_env h]

theorem SlotCall.step_consistent (c : SlotCall) (h : FlagsConsistent env s)
    (hcond : c.GivesUpFailed env s) : FlagsConsistent env (c.step env s) := by
  cases c with
  | findBootableSlot => exact findBootableSlot_consistent h
  | setActiveSlot newSlot reset => exact h.cleared (setActiveSlot_clears env newSlot reset s)
  | clearUnbootable => exact h.cleared (clearUnbootable_clears env s)
  | handleActiveSlotUnbootable force =>
    exact wp_final (handleActiveSlotUnbootable_consistent force h hcond)
  | restart => exact h.cleared (flagsCleared_of_entries rfl)

/-- The states of the runs whose calls all meet the condition.  What the firmware answers may
    change from call to call; whether recovery info is used is fixed by the build. -/
inductive SlotRun (env : SlotEnv) (s : SlotState) : SlotState → Prop where
  | start : SlotRun env s s
  | call {t : SlotState} {env' : SlotEnv} (c : SlotCall) : SlotRun env s t →
      env'.recoveryInfo = env.recoveryInfo → c.GivesUpFailed env' t →
      SlotRun env s (c.step env' t)

/-- **Slot flags.**  From a table without a slot that is both UNBOOTABLE and SUCCESSFUL, no
    state of a run has one, if no slot is given up that has booted. -/
theorem slotCalls_consistent (h : FlagsConsistent env s) (hrun : SlotRun env s s') :
    FlagsConsistent env s' := by
  induction hrun with
  | start => exact h
  | call c _ hri hcond ih =>
    have hbefore := (flagsConsistent_env hri).mpr ih
    exact (flagsConsistent_env hri).mp (c.step_consistent hbefore hcond)

end Runs

/-- The partitions whose type GUIDs are checked before a boot. -/
def ablEntries : List PartitionEntry := [⟨wide "abl_a", 3, 0, 0⟩, ⟨wide "abl_b", 4, 0, 0⟩]

def untriedTable : SlotState where
  ptnEntries :=
    [⟨wide "boot_a", 1, PART_ATT_PRIORITY_VAL ||| PART_ATT_ACTIVE_VAL |||
        PART_ATT_MAX_RETRY_COUNT_VAL, 0⟩,
      ⟨wide "boot_b", 2, 0, 0⟩] ++ ablEntries
  firstBoot := false
  headNode := []
  ufsBootLun := 1

/-- A first boot of an untried slot that fails its verification. -/
theorem slotCalls_consistent_untried :
    FlagsConsistent (ufsSlotEnv true)
      ((SlotCall.handleActiveSlotUnbootable false).step (ufsSlotEnv true)
        (SlotCall.findBootableSlot.step (ufsSlotEnv true) untriedTable)) := by
  refine slotCalls_consistent (s := untriedTable) (by decide +kernel)
    (.call _ (.call _ .start rfl trivial) rfl (.inr (.inl ?_)))
  have hfail : (bootEntry (ufsSlotEnv true)
      (settle (ufsSlotEnv true) (SlotCall.findBootableSlot.step (ufsSlotEnv true) untriedTable))
      (activeResult (ufsSlotEnv true)
        (SlotCall.findBootableSlot.step (ufsSlotEnv true) untriedTable)).2).any
      PartitionEntry.successful = false := by decide +kernel
  intro e he
  rw [he] at hfail
  exact hfail

def bootedTable : SlotState :=
  { slotATable with ptnEntries := slotATable.ptnEntries ++ ablEntries }

/-- **A slot that has booted fails a verification.**  It is selected, given up, and keeps
    SUCCESSFUL. -/
theorem slotCalls_mark_successful :
    FlagsConsistent (ufsSlotEnv true) bootedTable ∧
      ((findBootableSlot (ufsSlotEnv true)).exec bootedTable).1 = .ok (EFI_SUCCESS, slotA) ∧
      ¬ FlagsConsistent (ufsSlotEnv true)
        ((SlotCall.handleActiveSlotUnbootable false).step (ufsSlotEnv true)
          (SlotCall.findBootableSlot.step (ufsSlotEnv true) bootedTable)) := by
  decide +kernel

end OhMyAbl
