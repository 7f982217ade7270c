/-
  **The set_active command.**

  `CmdSetActive` (`FastbootCmds.c`) resets the published variables of the first slot record whose
  suffix contains the text.  The records hold `a` and not `_a`, so the text `_a` is found in none of
  them and the loop leaves the array; a text that is empty or a part of a suffix activates nothing.
-/
import OhMyAbl.Fastboot.Command
import OhMyAbl.Partition.SetActiveSlot

namespace OhMyAbl

open Prog

/-! ### The published slot variables -/

def SLOT_SUFFIX_ARRAY_SIZE : Nat := 10
def SLOT_ATTR_SIZE : Nat := 32

structure GetVarSlotInfo where
  slotSuffix : List UInt8
  slotSuccessfulVar : List UInt8
  slotUnbootableVar : List UInt8
  slotRetryCountVar : List UInt8
  slotSuccessfulVal : List UInt8
  slotUnbootableVal : List UInt8
  slotRetryCountVal : List UInt8
deriving DecidableEq, Repr

structure SetActiveEnv where
  slots : SlotEnv
  isUnlocked : Bool
  isDynamicPartitionSupport : Bool
  snapshotMergeStatus : UInt8
  allocateBootSlotInfo : Bool
  /-- What is on the stack where `PartitionNameAscii` is. -/
  stack : Bytes

structure SetActiveState where
  slots : SlotState
  slotSuffixArray : List UInt8
  bootSlotInfo : Option (List GetVarSlotInfo)
  currentSlotFB : List UInt8
  responses : List Response
  /-- The records whose variables were reset so far. -/
  resets : List Nat

def SetActiveState.slotsLens : Lens SetActiveState SlotState where
  get := SetActiveState.slots
  set := fun s t => { s with slots := t }

def SetActiveState.responsesLens : Lens SetActiveState (List Response) where
  get := SetActiveState.responses
  set := fun s r => { s with responses := r }

def bootNames (entries : List PartitionEntry) : List (List UInt8) :=
  (entries.map PartitionEntry.asciiName).filter fun name => strnCmp name (ascii "boot") 4

/-- The suffixes `PopulateMultislotMetadata` collects, each followed by a comma. -/
def collectSuffixes : List (List UInt8) → List UInt8 → List UInt8
  | [], array => array
  | name :: rest, array =>
    let suffix := name.drop 4
    if (strStr array suffix).isSome then collectSuffixes rest array
    else
      let array := strnCatS SLOT_SUFFIX_ARRAY_SIZE array suffix suffix.length
      collectSuffixes rest (strnCatS SLOT_SUFFIX_ARRAY_SIZE array (ascii ",") 1)

def stringAt (buffer : Bytes) (a : Nat) : List UInt8 :=
  (buffer.slice a (MAX_GPT_NAME_SIZE - a)).takeWhile (· ≠ 0)

def yesNo (b : Bool) : List UInt8 := if b then ascii "yes" else ascii "no"

/-- The record of one boot entry: the suffix is copied if it fits, the variables are named
    after it. -/
def slotInfo (suffix : List UInt8) (e : PartitionEntry) : GetVarSlotInfo :=
  let var (name : List UInt8) := strnCatS SLOT_ATTR_SIZE name suffix suffix.length
  { slotSuffix := strnCpyS MAX_SLOT_SUFFIX_SZ suffix suffix.length
    slotSuccessfulVar := var (ascii "slot-successful:")
    slotUnbootableVar := var (ascii "slot-unbootable:")
    slotRetryCountVar := var (ascii "slot-retry-count:")
    slotSuccessfulVal := yesNo e.successful
    slotUnbootableVal := yesNo e.unbootable
    slotRetryCountVal := [UInt8.ofNat (0x30 + e.retryCount.toNat)] }

/-- The loop of `FastbootPublishSlotVars`.  The suffix starts behind `boot_`, which for a
    partition `boot` is behind the end of its name, in what the buffer held before. -/
def publishSlotVars (buffer : Bytes) : List PartitionEntry → List GetVarSlotInfo
  | [] => []
  | e :: rest =>
    let name := e.asciiName
    let buffer := buffer.overwrite 0 (name.length + 1) fun i => name.getD i 0
    if strnCmp name (ascii "boot") 4 then
      slotInfo (stringAt buffer 5) e :: publishSlotVars buffer rest
    else publishSlotVars buffer rest

variable (env : SetActiveEnv)

def setCurrentSlotFB : Prog SetActiveState Exit PUnit := do
  let suffix ← zoom SetActiveState.slotsLens (getCurrentSlotSuffix env.slots)
  modify fun s => { s with currentSlotFB := (unicodeStrToAsciiStr suffix).drop 1 }

def populateMultislotMetadata : Prog SetActiveState Exit PUnit := do
  modify fun s => { s with
    slotSuffixArray := collectSuffixes (bootNames s.slots.ptnEntries) s.slotSuffixArray }
  if env.allocateBootSlotInfo then
    modify fun s => { s with bootSlotInfo := some (publishSlotVars env.stack s.slots.ptnEntries) }
    setCurrentSlotFB env
  else return ⟨⟩

/-- The part of `FastbootCommandSetup` about slots: the metadata is not available
    with recovery info. -/
def setupSlotVars : Prog SetActiveState Exit PUnit := do
  let s ← get
  when (partitionHasMultiSlot env.slots (wide "boot") 0 s.slots.ptnEntries) do
    let _ ← zoom SetActiveState.slotsLens (getActiveSlot env.slots)
    when (!env.slots.recoveryInfo) (populateMultislotMetadata env)

/-! ### The command -/

/-- The checks of `CmdSetActive` up to the one of the suffix: the text of the failure, or the
    text behind the colon. -/
def checkSetActive (s : SetActiveState) (arg : Option (List UInt8)) : Except String (List UInt8) :=
  if env.slots.targetBuildVariantUser && !env.isUnlocked then
    .error "Slot Change is not allowed in Lock State\n"
  else if !partitionHasMultiSlot env.slots (wide "boot") 0 s.slots.ptnEntries then
    .error "This Command not supported"
  else match arg with
    | none => .error "Invalid Input Parameters"
    | some arg =>
      if env.isDynamicPartitionSupport ∧ env.snapshotMergeStatus = MergeStatus.MERGING.code then
        .error "Slot Change is not allowed in merging state"
      else match strStr arg (ascii ":") with
        | none => .error "set_active _a or _b should be entered"
        | some rest =>
          let input := rest.drop 1
          if input.length ≥ MAX_SLOT_SUFFIX_SZ then .error "Invalid Slot"
          else if (input.length = 1 ∨ input.length = 2) ∧ strStr s.slotSuffixArray input = none then
            .error "Invalid Slot Suffix"
          else .ok input

/-- The suffix that is made of the text.  A text of two characters without an underscore does
    not fit behind the one that is put in front. -/
def newSlotSuffix (input : List UInt8) : Text :=
  let text := asciiStrToUnicodeStr input
  if (strStr input (ascii "_")).isNone then strnCatS MAX_SLOT_SUFFIX_SZ (wide "_") text text.length
  else text

def GetVarSlotInfo.reset (r : GetVarSlotInfo) : GetVarSlotInfo :=
  { r with
    slotSuccessfulVal := ascii "no", slotUnbootableVal := ascii "no",
      slotRetryCountVal := ascii "7" }

def findSlotInfo (infos : List GetVarSlotInfo) (input : List UInt8) : Option Nat :=
  infos.findIdx? fun r => (strStr r.slotSuffix input).isSome

def resetSlotVars (input : List UInt8) : Prog SetActiveState Exit PUnit := do
  let s ← get
  match s.bootSlotInfo with
  | none => throw .fault
  | some infos =>
    match findSlotInfo infos input with
    | none => throw .fault
    | some j =>
      modify fun s => { s with
        bootSlotInfo := some (infos.modify j GetVarSlotInfo.reset), resets := s.resets ++ [j] }

def activateInput (input : List UInt8) : Prog SetActiveState Exit PUnit := do
  let newSlot := newSlotSuffix input
  let status ← zoom SetActiveState.slotsLens (setActiveSlot env.slots newSlot true)
  if status ≠ EFI_SUCCESS then fastbootFail SetActiveState.responsesLens "set_active failed"
  else
    setCurrentSlotFB env
    resetSlotVars input
    fastbootOkay SetActiveState.responsesLens ""

def cmdSetActive (arg : Option (List UInt8)) : Prog SetActiveState Exit PUnit := do
  let s ← get
  match checkSetActive env s arg with
  | .error text => fastbootFail SetActiveState.responsesLens text
  | .ok input => activateInput env input

/-! ### The contract -/

def slotLetter (slot : Text) : List UInt8 := if slot = slotA then ascii "a" else ascii "b"

/-- The text behind the colon is the letter of the slot, with or without an underscore. -/
def Denotes (input : List UInt8) (slot : Text) : Prop :=
  (slot = slotA ∨ slot = slotB) ∧ (input = slotLetter slot ∨ input = ascii "_" ++ slotLetter slot)

def Refused (s s' : SetActiveState) : Prop :=
  (∃ text, s'.responses = s.responses ++ [.fail text]) ∧ s'.slots.ptnEntries = s.slots.ptnEntries

/-- The slot is the active one, and the variables of one of its records were reset. -/
structure Activated (env : SetActiveEnv) (slot : Text) (s s' : SetActiveState) : Prop where
  returned : ((getActiveSlot env.slots).exec s'.slots).1 = .ok (EFI_SUCCESS, slot)
  entries : ∃ e other, bootEntry env.slots s'.slots slot = some e ∧
    bootEntry env.slots s'.slots (alternateSlot slot) = some other ∧
    e.active = true ∧ other.active = false
  vars : ∃ infos j r, s.bootSlotInfo = some infos ∧ infos[j]? = some r ∧
    r.slotSuffix = slotLetter slot ∧ s'.resets = s.resets ++ [j] ∧
    s'.bootSlotInfo = some (infos.modify j GetVarSlotInfo.reset)

def SetActiveContract (arg : Option (List UInt8)) (s : SetActiveState) : Prop :=
  ∃ s', (cmdSetActive env arg).exec s = (.ok ⟨⟩, s') ∧
    (Refused s s' ∨ ∃ text rest slot, arg = some text ∧ strStr text (ascii ":") = some rest ∧
      Denotes (rest.drop 1) slot ∧ Activated env slot s s')

def LunFollows (env : SlotEnv) (slot : Text) (s : SlotState) : Prop :=
  env.atomicAB = true → (activeResult env s).2 ≠ slot →
    env.setBootLU = true ∧
      (s.headNode = [] → ∀ k < slottedCount s.ptnEntries, env.allocateNode k = true)

def RecordFound (input : List UInt8) (slot : Text) (s : SetActiveState) : Prop :=
  ∃ infos j r, s.bootSlotInfo = some infos ∧ findSlotInfo infos input = some j ∧
    infos[j]? = some r ∧ r.slotSuffix = slotLetter slot

def InputKept (input : List UInt8) (s : SetActiveState) : Prop :=
  (activeResult env.slots s.slots).1 ≠ EFI_SUCCESS ∨
    (getBootPartitionEntry env.slots s.slots.ptnEntries (newSlotSuffix input) = none ∧
      setsDefault env.slots s.slots = false) ∨
    ∃ slot, Denotes input slot ∧ LunFollows env.slots slot s.slots ∧ RecordFound input slot s

/-! ### `SetActiveSlot` on any suffix -/

section SetActiveSlot

variable {env : SlotEnv} {s : SlotState} {newSlot : Text}

theorem settle_entries_ne (h : setsDefault env s = true) :
    (settle env s).ptnEntries ≠ s.ptnEntries := by
  obtain ⟨a, b, hdef⟩ := setsDefault_cases h
  intro heq
  have hsame : bootEntry env (settle env s) slotA = bootEntry env s slotA := by
    unfold bootEntry
    rw [heq]
  rw [hdef.settledA, hdef.entryA, Option.some.injEq] at hsame
  have hnever := hdef.unused
  rw [← hsame] at hnever
  simp [PartitionEntry.neverUsed, firstBootSlot_rank.1] at hnever

theorem exec_setActiveSlot_noActive (h : (activeResult env s).1 ≠ EFI_SUCCESS) :
    (setActiveSlot env newSlot true).exec s = (.ok (activeResult env s).1, s) := by
  have hsettle : settle env s = s := by
    refine settle_eq_of_not ?_
    cases hset : setsDefault env s with
    | false => rfl
    | true =>
      obtain ⟨a, b, hdef⟩ := setsDefault_cases hset
      exact absurd (congrArg Prod.fst hdef.active) h
  simp only [setActiveSlot, exec_bind, exec_getActiveSlot, h, ne_eq, not_false_eq_true, if_true,
    exec_pure, hsettle]

theorem exec_setActiveSlot_noEntry (h : (activeResult env s).1 = EFI_SUCCESS)
    (hnone : getBootPartitionEntry env s.ptnEntries newSlot = none) :
    (setActiveSlot env newSlot true).exec s = (.ok EFI_NOT_FOUND, settle env s) := by
  simp only [setActiveSlot, exec_bind, exec_getActiveSlot, h, ne_eq, not_true_eq_false, if_false,
    exec_get, bootIndex_settle, hnone, exec_pure]

theorem exec_setActiveSlot_entry {i : Nat} (h : (activeResult env s).1 = EFI_SUCCESS)
    (hi : getBootPartitionEntry env s.ptnEntries newSlot = some i) :
    ((setActiveSlot env newSlot true).exec s).1 = .ok EFI_SUCCESS := by
  have halt : alternateSlot newSlot = slotA ∨ alternateSlot newSlot = slotB := by
    unfold alternateSlot
    split
    · exact .inr rfl
    · exact .inl rfl
  obtain ⟨j, -, hj, -⟩ := bootIndex_exists h halt
  simp only [setActiveSlot, exec_bind, exec_getActiveSlot, h, ne_eq, not_true_eq_false, if_false,
    exec_get, bootIndex_settle, hi, hj, exec_modify, exec_pure]

end SetActiveSlot

/-! ### The boot LUN with atomic slots -/

section Atomic

variable {env : SlotEnv} {s t : SlotState} {slot : Text}

def slotLun (slot : Text) : Nat := if slot = slotA then 1 else 2

theorem activeResult_atomic (hatomic : env.atomicAB = true) (hslot : IsSlot slot) :
    activeResult env s = (EFI_SUCCESS, slot) ↔
      (∃ a b, bootEntry env s slotA = some a ∧ bootEntry env s slotB = some b) ∧
        env.rootDeviceType = .UFS ∧ env.ufsCardInfo = EFI_SUCCESS ∧ env.getBootLU = true ∧
        s.ufsBootLun = slotLun slot := by
  have hne : slotA ≠ slotB := by decide
  have herror : EFI_DEVICE_ERROR ≠ EFI_SUCCESS ∧ EFI_UNSUPPORTED ≠ EFI_SUCCESS := by decide
  constructor
  · intro h
    obtain ⟨a, b, ha, hb⟩ := activeResult_success (congrArg Prod.fst h)
    simp only [activeResult, scanSlots_entries ha hb, hatomic, getAtomicABActiveSlot] at h
    refine ⟨⟨a, b, ha, hb⟩, ?_⟩
    by_cases hufs : env.rootDeviceType = .UFS
    · by_cases hinfo : env.ufsCardInfo = EFI_SUCCESS
      · simp only [hufs, if_true, ufsGetBootLun, hinfo, ne_eq, not_true_eq_false, if_false] at h
        by_cases hget : env.getBootLU = true
        · split_ifs at h with hone htwo
          · exact ⟨hufs, hinfo, hget, by rw [hone, ← (Prod.mk.inj h).2]; rfl⟩
          · exact ⟨hufs, hinfo, hget, by rw [htwo, ← (Prod.mk.inj h).2]; decide⟩
          · exact absurd (congrArg Prod.fst h) herror.1
        · simp [hget, herror.1] at h
      · simp [hufs, ufsGetBootLun, hinfo] at h
    · simp [hufs, herror.2] at h
  · rintro ⟨⟨a, b, ha, hb⟩, hufs, hinfo, hget, hlun⟩
    simp only [activeResult, scanSlots_entries ha hb, hatomic, getAtomicABActiveSlot, hufs,
      ufsGetBootLun, hinfo, hget, hlun]
    obtain rfl | rfl := hslot
    · simp [slotLun]
    · simp [slotLun, hne.symm]

theorem ufsBootLun_switchToSlot {current : Text} (hufs : env.rootDeviceType = .UFS)
    (hinfo : env.ufsCardInfo = EFI_SUCCESS) (hget : env.getBootLU = true)
    (hcurrent : IsSlot current) (hslot : IsSlot slot) (hlun : t.ufsBootLun = slotLun current) :
    (switchToSlot env current slot t).ufsBootLun =
      if env.setBootLU = true ∧ (slottedParts env t).1 = EFI_SUCCESS then slotLun slot
      else slotLun current := by
  have hread : ∀ u : SlotState, (ufsGetBootLun env u).2 = u.ufsBootLun := by
    intro u
    simp [ufsGetBootLun, hinfo, hget]
  by_cases hsame : current = slot
  · subst hsame
    have hcmp := (strnCmp_slots hcurrent hcurrent).mpr rfl
    have hstay : otherBootLun (slotLun current) current = none := by
      obtain rfl | rfl := hcurrent <;> decide
    simp [switchToSlot, hcmp, hread, hlun, hstay]
  · have hcmp : ¬ strnCmp current slot current.length = true :=
      fun h => hsame ((strnCmp_slots hcurrent hslot).mp h)
    have hswitch : switchToSlot env current slot t =
        markPtnActive slot (switchPtnSlots env slot t) := if_neg hcmp
    have hother : (otherBootLun (slotLun current) slot).getD (slotLun current) = slotLun slot := by
      obtain rfl | rfl := hcurrent <;> obtain rfl | rfl := hslot <;>
        first | exact absurd rfl hsame | decide
    rw [hswitch]
    show (switchPtnSlots env slot t).ufsBootLun = _
    by_cases hlist : (slottedParts env t).1 = EFI_SUCCESS
    · rw [switchPtnSlots_of_list hlist, if_pos hufs, followBootLun, hread]
      show (ufsSetBootLun env ((otherBootLun t.ufsBootLun slot).getD t.ufsBootLun) _).ufsBootLun = _
      rw [hlun, hother]
      by_cases hset : env.setBootLU = true
      · simp [ufsSetBootLun, hinfo, hset, hlist]
      · simp [ufsSetBootLun, hset, swapSlots, hlun]
    · rw [switchPtnSlots_of_error hlist]
      simp [hlist, hlun]

theorem slotLun_eq_iff {other : Text} (hslot : IsSlot slot)
    (hother : IsSlot other) : slotLun other = slotLun slot ↔ other = slot := by
  obtain rfl | rfl := hslot <;> obtain rfl | rfl := hother <;> decide

theorem activeResult_switchToSlot (hri : env.recoveryInfo = false)
    (hok : (activeResult env s).1 = EFI_SUCCESS) (hslot : IsSlot slot)
    (h : Rewritten env slot true s t) :
    activeResult env (switchToSlot env (activeResult env s).2 slot t) = (EFI_SUCCESS, slot) ↔
      LunFollows env slot s := by
  obtain ⟨e, other, he, ho, hfresh, hinactive⟩ :=
    switchToSlot_entries (activeResult env s).2 hri hslot h
  have hcurrent := activeResult_slot hri hok
  cases hatomic : env.atomicAB with
  | false =>
    simp [LunFollows, hatomic, (activeAt_of_fresh hatomic hslot he ho hfresh hinactive).active]
  | true =>
    obtain ⟨-, hufs, hinfo, hget, hlun⟩ :=
      (activeResult_atomic hatomic hcurrent).mp (Prod.ext hok rfl)
    have hentries : ∃ a b, bootEntry env (switchToSlot env (activeResult env s).2 slot t) slotA =
        some a ∧ bootEntry env (switchToSlot env (activeResult env s).2 slot t) slotB = some b := by
      obtain ⟨rfl, halt⟩ | ⟨rfl, halt⟩ := alternateSlot_cases hslot
      · exact ⟨e, other, he, halt ▸ ho⟩
      · exact ⟨other, e, halt ▸ ho, he⟩
    rw [activeResult_atomic hatomic hslot,
      ufsBootLun_switchToSlot hufs hinfo hget hcurrent hslot (h.bootLun.trans hlun)]
    have hlist := slottedParts_error h
    rw [LunFollows]
    have hnodes : (slottedParts env t).1 = EFI_SUCCESS ↔
        (s.headNode = [] → ∀ k < slottedCount s.ptnEntries, env.allocateNode k = true) := by
      rw [← not_iff_not]
      simpa using hlist
    rw [← hnodes]
    by_cases hsame : (activeResult env s).2 = slot
    · exact iff_of_true ⟨hentries, hufs, hinfo, hget, by rw [hsame, ite_self]⟩
        fun _ hne => absurd hsame hne
    · have hlunNe : slotLun (activeResult env s).2 ≠ slotLun slot :=
        fun heq => hsame ((slotLun_eq_iff hslot hcurrent).mp heq)
      split
      case isTrue hc => exact iff_of_true ⟨hentries, hufs, hinfo, hget, rfl⟩ fun _ _ => hc
      case isFalse hc => simp [hlunNe, hatomic, hsame, hc]

end Atomic

/-! ### The command keeps its contract -/

section Contract

variable {env : SetActiveEnv} {arg : Option (List UInt8)} {input : List UInt8}
  {s : SetActiveState}

theorem checkSetActive_ok (h : checkSetActive env s arg = .ok input) :
    (∃ text rest, arg = some text ∧ strStr text (ascii ":") = some rest ∧ input = rest.drop 1) ∧
      input.length < 3 ∧ (input ≠ [] → strStr s.slotSuffixArray input ≠ none) := by
  unfold checkSetActive at h
  split at h
  · exact absurd h (by simp)
  split at h
  · exact absurd h (by simp)
  cases harg : arg with
  | none => simp [harg] at h
  | some text =>
    simp only [harg] at h
    split at h
    · exact absurd h (by simp)
    cases hrest : strStr text (ascii ":") with
    | none => simp [hrest] at h
    | some rest =>
      simp only [hrest] at h
      by_cases hlen : (rest.drop 1).length ≥ MAX_SLOT_SUFFIX_SZ
      · rw [if_pos hlen] at h
        exact absurd h (by simp)
      split_ifs at h with hsuffix
      rw [Except.ok.injEq] at h
      subst h
      simp only [MAX_SLOT_SUFFIX_SZ] at hlen
      refine ⟨⟨text, rest, rfl, hrest, rfl⟩, by omega, fun hne hnone => hsuffix ⟨?_, hnone⟩⟩
      have hpos := List.length_pos_iff.mpr hne
      omega

theorem newSlotSuffix_denotes {slot : Text} (h : Denotes input slot) :
    newSlotSuffix input = slot := by
  obtain ⟨rfl | rfl, rfl | rfl⟩ := h <;> decide

theorem recoveryInfo_of_denotes {slot : Text}
    (hpublished : env.slots.recoveryInfo = true → s.slotSuffixArray = [])
    (hcheck : checkSetActive env s arg = .ok input) (h : Denotes input slot) :
    env.slots.recoveryInfo = false := by
  cases hri : env.slots.recoveryInfo with
  | false => rfl
  | true =>
    have hne : input ≠ [] := by
      obtain ⟨rfl | rfl, rfl | rfl⟩ := h <;> decide
    refine absurd ?_ ((checkSetActive_ok hcheck).2.2 hne)
    rw [hpublished hri, strStr, if_neg hne]

theorem okay_not_refused {s' : SetActiveState} {text : String}
    (h : s'.responses = s.responses ++ [.okay text]) : ¬ Refused s s' := by
  rintro ⟨⟨text', h'⟩, -⟩
  rw [h] at h'
  simp at h'

theorem exec_cmdSetActive_ok (hcheck : checkSetActive env s arg = .ok input) :
    (cmdSetActive env arg).exec s = (activateInput env input).exec s := by
  simp only [cmdSetActive, exec_bind, exec_get, hcheck]

theorem contract_of_check (hcheck : checkSetActive env s arg = .ok input) :
    SetActiveContract env arg s ↔ ∃ s', (activateInput env input).exec s = (.ok ⟨⟩, s') ∧
      (Refused s s' ∨ ∃ slot, Denotes input slot ∧ Activated env slot s s') := by
  obtain ⟨⟨text, rest, rfl, hrest, rfl⟩, -⟩ := checkSetActive_ok hcheck
  unfold SetActiveContract
  rw [exec_cmdSetActive_ok hcheck]
  refine exists_congr fun s' => and_congr_right fun _ => or_congr_right ?_
  constructor
  · rintro ⟨text', rest', slot, htext, hrest', hslot⟩
    rw [Option.some.injEq] at htext
    subst htext
    rw [hrest, Option.some.injEq] at hrest'
    subst hrest'
    exact ⟨slot, hslot⟩
  · rintro ⟨slot, hslot⟩
    exact ⟨text, rest, slot, rfl, hrest, hslot⟩

theorem activateInput_fails {status : EfiStatus} {t : SlotState} (hne : status ≠ EFI_SUCCESS)
    (h : (setActiveSlot env.slots (newSlotSuffix input) true).exec s.slots = (.ok status, t)) :
    (activateInput env input).exec s = (.ok ⟨⟩, { s with
      slots := t, responses := s.responses ++ [.fail "set_active failed"] }) := by
  have hzoom : exec (zoom SetActiveState.slotsLens
      (setActiveSlot env.slots (newSlotSuffix input) true)) s =
        (.ok status, { s with slots := t }) := by
    show ((exec _ s.slots).1, { s with slots := (exec _ s.slots).2 }) = _
    rw [h]
  simp only [activateInput, exec_bind, hzoom, hne, ne_eq]
  rfl

theorem resetSlotVars_spec :
    wp (resetSlotVars input)
      (fun _ s' => ∃ infos j, s.bootSlotInfo = some infos ∧ findSlotInfo infos input = some j ∧
        s' = { s with
          bootSlotInfo := some (infos.modify j GetVarSlotInfo.reset), resets := s.resets ++ [j] })
      (fun _ _ => ∀ infos, s.bootSlotInfo = some infos → findSlotInfo infos input = none) s := by
  unfold resetSlotVars
  rw [wp_bind, wp_get]
  cases hinfos : s.bootSlotInfo with
  | none =>
    intro infos h
    exact absurd h (by simp)
  | some infos =>
    dsimp only
    cases hj : findSlotInfo infos input with
    | none =>
      intro infos' h
      rw [Option.some.injEq] at h
      exact h ▸ hj
    | some j => exact ⟨infos, j, rfl, hj, rfl⟩

theorem activateInput_succeeds {t : SlotState}
    (h : (setActiveSlot env.slots (newSlotSuffix input) true).exec s.slots = (.ok EFI_SUCCESS, t)) :
    wp (activateInput env input)
      (fun _ s' => Settled env.slots t s'.slots ∧ s'.responses = s.responses ++ [.okay ""] ∧
        ∃ infos j, s.bootSlotInfo = some infos ∧ findSlotInfo infos input = some j ∧
          s'.resets = s.resets ++ [j] ∧
          s'.bootSlotInfo = some (infos.modify j GetVarSlotInfo.reset))
      (fun _ _ => ∀ infos, s.bootSlotInfo = some infos → findSlotInfo infos input = none) s := by
  have hset : wp (setActiveSlot env.slots (newSlotSuffix input) true)
      (fun status t' => status = EFI_SUCCESS ∧ t' = t) noExit s.slots := by
    unfold wp
    rw [h]
    exact ⟨rfl, rfl⟩
  unfold activateInput
  rw [wp_bind, wp_zoom]
  refine wp_mono hset ?_ fun _ _ h => h.elim
  rintro _ t₁ ⟨rfl, rfl⟩
  rw [if_neg (by decide)]
  unfold setCurrentSlotFB
  simp only [wp_bind, wp_zoom, wp_modify]
  have hcurrent : wp (getCurrentSlotSuffix env.slots) (fun _ t' => Settled env.slots t₁ t')
      noExit t₁ := by
    unfold getCurrentSlotSuffix
    simp only [wp_bind, wp_ite, wp_getActiveSlot]
    exact ⟨fun _ => .inr rfl, fun _ => .inl rfl⟩
  refine wp_mono hcurrent ?_ fun _ _ h => h.elim
  intro suffix t' hsettled
  refine wp_imp resetSlotVars_spec ?_
  rintro - _ ⟨infos, j, hinfos, hj, rfl⟩
  exact ⟨hsettled, rfl, infos, j, hinfos, hj, rfl, rfl⟩

/-- A slot's text activates it exactly if its LUN and record are the slot's. -/
theorem activateInput_denotes {slot : Text} (hri : env.slots.recoveryInfo = false)
    (hok : (activeResult env.slots s.slots).1 = EFI_SUCCESS) (hslot : Denotes input slot) :
    (∃ s', (activateInput env input).exec s = (.ok ⟨⟩, s') ∧ Activated env slot s s') ↔
      LunFollows env.slots slot s.slots ∧ RecordFound input slot s := by
  obtain ⟨t, hrewritten, hexec⟩ := setActiveSlot_rewrites true hok hslot.1
  obtain ⟨e, other, he, ho, hfresh, hinactive⟩ :=
    switchToSlot_entries (activeResult env.slots s.slots).2 hri hslot.1 hrewritten
  have hactive := activeResult_switchToSlot hri hok hslot.1 hrewritten
  rw [← newSlotSuffix_denotes hslot] at hexec
  have hrun := activateInput_succeeds hexec
  rw [newSlotSuffix_denotes hslot] at hrun
  constructor
  · rintro ⟨s', hrun', hactivated⟩
    obtain ⟨hsettled, -, infos, j, hinfos, hj, hreset, -⟩ := wp_ok hrun hrun'
    refine ⟨hactive.mp ?_, ?_⟩
    · have hreturned := hactivated.returned
      rw [exec_getActiveSlot, hsettled.activeResult, Except.ok.injEq] at hreturned
      exact hreturned
    · obtain ⟨infos', j', r, hinfos', hr, hsuffix, hreset', -⟩ := hactivated.vars
      rw [hinfos, Option.some.injEq] at hinfos'
      subst hinfos'
      rw [hreset, List.append_cancel_left_eq, List.cons.injEq] at hreset'
      exact ⟨infos, j, r, hinfos, hj, hreset'.1 ▸ hr, hsuffix⟩
  · rintro ⟨hlun, infos, j, r, hinfos, hj, hr, hsuffix⟩
    have hreturns : wp (activateInput env input) _ noExit s :=
      wp_mono hrun (fun _ _ h => h) fun _ _ h => by
        have hnone := h infos hinfos
        rw [hj] at hnone
        exact absurd hnone (by simp)
    obtain ⟨_, s', hrun', hsettled, -, infos', j', hinfos', hj', hreset, hafter⟩ :=
      wp_returns hreturns
    rw [hinfos, Option.some.injEq] at hinfos'
    subst hinfos'
    rw [hj, Option.some.injEq] at hj'
    subst hj'
    -- the lookup after the switch finds a slot and leaves the table alone
    have hlookup := hactive.mpr hlun
    have hsame : s'.slots = switchToSlot env.slots (activeResult env.slots s.slots).2 slot t := by
      refine hsettled.elim id fun h => h.trans ?_
      cases hatomic : env.slots.atomicAB with
      | false => exact (activeAt_of_fresh hatomic hslot.1 he ho hfresh hinactive).settled
      | true => exact settle_eq_of_not (by simp [setsDefault, hatomic])
    refine ⟨s', hrun', ?_, ⟨e, other, hsame ▸ he, hsame ▸ ho, hfresh.active, hinactive⟩, ?_⟩
    · rw [exec_getActiveSlot, hsame, hlookup]
    · exact ⟨infos, j, r, hinfos, hr, hsuffix, hreset, hafter⟩

theorem activateInput_kept (hpublished : env.slots.recoveryInfo = true → s.slotSuffixArray = [])
    (hcheck : checkSetActive env s arg = .ok input) :
    (∃ s', (activateInput env input).exec s = (.ok ⟨⟩, s') ∧
      (Refused s s' ∨ ∃ slot, Denotes input slot ∧ Activated env slot s s')) ↔
      InputKept env input s := by
  by_cases hok : (activeResult env.slots s.slots).1 = EFI_SUCCESS
  case neg =>
    refine iff_of_true ⟨_, activateInput_fails hok (exec_setActiveSlot_noActive hok), ?_⟩ (.inl hok)
    exact .inl ⟨⟨_, rfl⟩, rfl⟩
  cases hentry : getBootPartitionEntry env.slots s.slots.ptnEntries (newSlotSuffix input) with
  | none =>
    have hdenotes : ¬ ∃ slot, Denotes input slot := by
      rintro ⟨slot, hslot⟩
      obtain ⟨i, -, hi, -⟩ := bootIndex_exists hok hslot.1
      rw [newSlotSuffix_denotes hslot, hi] at hentry
      exact absurd hentry (by simp)
    have hrun := activateInput_fails (by decide) (exec_setActiveSlot_noEntry hok hentry)
    constructor
    · rintro ⟨s', hrun', ⟨-, hsame⟩ | ⟨slot, hslot, -⟩⟩
      · obtain rfl : _ = s' := congrArg Prod.snd (hrun.symm.trans hrun')
        refine .inr (.inl ⟨hentry, ?_⟩)
        cases hset : setsDefault env.slots s.slots with
        | false => rfl
        | true => exact absurd hsame (settle_entries_ne hset)
      · exact absurd ⟨slot, hslot⟩ hdenotes
    · rintro (hne | ⟨-, hset⟩ | ⟨slot, hslot, -⟩)
      · exact absurd hok hne
      · refine ⟨_, hrun, .inl ⟨⟨_, rfl⟩, ?_⟩⟩
        rw [settle_eq_of_not hset]
      · exact absurd ⟨slot, hslot⟩ hdenotes
  | some i =>
    have hrun := activateInput_succeeds (exec_of_result (exec_setActiveSlot_entry hok hentry))
    have hnotRefused : ∀ s', (activateInput env input).exec s = (.ok ⟨⟩, s') → ¬ Refused s s' :=
      fun s' hrun' => okay_not_refused (wp_ok hrun hrun').2.1
    constructor
    · rintro ⟨s', hrun', hrefused | ⟨slot, hslot, hactivated⟩⟩
      · exact absurd hrefused (hnotRefused s' hrun')
      · have hri := recoveryInfo_of_denotes hpublished hcheck hslot
        exact .inr (.inr ⟨slot, hslot,
          (activateInput_denotes hri hok hslot).mp ⟨s', hrun', hactivated⟩⟩)
    · rintro (hne | ⟨hnone, -⟩ | ⟨slot, hslot, hkept⟩)
      · exact absurd hok hne
      · rw [hentry] at hnone
        exact absurd hnone (by simp)
      · have hri := recoveryInfo_of_denotes hpublished hcheck hslot
        obtain ⟨s', hrun', hactivated⟩ := (activateInput_denotes hri hok hslot).mpr hkept
        exact ⟨s', hrun', .inr ⟨slot, hslot, hactivated⟩⟩

/-- With recovery info no suffix is published. -/
theorem setupSlotVars_recoveryInfo (env : SetActiveEnv) (s : SetActiveState)
    (hri : env.slots.recoveryInfo = true) :
    ((setupSlotVars env).exec s).2.slotSuffixArray = s.slotSuffixArray := by
  refine wp_final (m := setupSlotVars env)
    (R := fun s' => s'.slotSuffixArray = s.slotSuffixArray) ?_
  simp only [setupSlotVars, hri, wp_bind, wp_get, wp_when, wp_zoom]
  refine ⟨fun _ => wp_any (fun _ _ => ⟨fun h => ?_, fun _ => rfl⟩) fun _ _ => rfl, fun _ => trivial⟩
  exact absurd h Bool.false_ne_true

/-- **set_active contract.**  The command keeps its contract exactly on the arguments it
    refuses, and on the texts of a slot for which the boot LUN follows and the first matching
    record is the slot's. -/
theorem cmdSetActive_contract (env : SetActiveEnv) (arg : Option (List UInt8))
    (s : SetActiveState)
    (hpublished : env.slots.recoveryInfo = true → s.slotSuffixArray = []) :
    SetActiveContract env arg s ↔
      ∀ input, checkSetActive env s arg = .ok input → InputKept env input s := by
  cases hcheck : checkSetActive env s arg with
  | error text =>
    refine iff_of_true ⟨{ s with responses := s.responses ++ [.fail text] }, ?_,
      .inl ⟨⟨text, rfl⟩, rfl⟩⟩ (by simp)
    simp only [cmdSetActive, exec_bind, exec_get, hcheck]
    rfl
  | ok input =>
    rw [contract_of_check hcheck, activateInput_kept hpublished hcheck]
    simp

end Contract

/-! ### A switch to `_b`, and arguments that are no slot -/

def sampleSetActiveEnv : SetActiveEnv where
  slots := ufsSlotEnv true
  isUnlocked := true
  isDynamicPartitionSupport := false
  snapshotMergeStatus := 0
  allocateBootSlotInfo := true
  stack := fun _ => 0

def sampleSetActive : SetActiveState :=
  ((setupSlotVars sampleSetActiveEnv).exec ⟨slotATable, [], none, [], [], []⟩).2

theorem sampleSetActive_infos :
    sampleSetActive.bootSlotInfo = some
      (slotATable.ptnEntries.zipWith (fun e x => slotInfo x e) [ascii "a", ascii "b"]) := by
  decide +kernel

theorem cmdSetActive_contract_b :
    SetActiveContract sampleSetActiveEnv (some (ascii ":b")) sampleSetActive := by
  refine (cmdSetActive_contract _ _ _ fun h => absurd h (by decide)).mpr fun input hinput => ?_
  have hcheck : checkSetActive sampleSetActiveEnv sampleSetActive (some (ascii ":b")) =
      .ok (ascii "b") := by decide +kernel
  rw [hcheck, Except.ok.injEq] at hinput
  subst hinput
  refine .inr (.inr ⟨slotB, ⟨.inr rfl, .inl (by decide)⟩, fun h => absurd h (by decide), ?_⟩)
  exact ⟨_, 1, _, sampleSetActive_infos, by decide +kernel, rfl, by decide +kernel⟩

/-- The empty text: the command answers OKAY and no slot is active any more.  With the
    underscore a slot's text runs off the records. -/
theorem cmdSetActive_empty :
    ((cmdSetActive sampleSetActiveEnv (some (ascii ":"))).exec sampleSetActive).2.responses =
        [.okay ""] ∧
      (activeResult sampleSetActiveEnv.slots ((cmdSetActive sampleSetActiveEnv
        (some (ascii ":"))).exec sampleSetActive).2.slots).1 = EFI_NOT_FOUND ∧
      ¬ SetActiveContract sampleSetActiveEnv (some (ascii ":")) sampleSetActive ∧
      ((cmdSetActive sampleSetActiveEnv (some (ascii ":_b"))).exec sampleSetActive).1 =
        .error .fault := by
  have hokay : ((cmdSetActive sampleSetActiveEnv (some (ascii ":"))).exec
      sampleSetActive).2.responses = [.okay ""] := by decide +kernel
  refine ⟨hokay, by decide +kernel, ?_, by decide +kernel⟩
  rintro ⟨s', hrun, ⟨⟨text, hfail⟩, -⟩ | ⟨text, rest, slot, htext, hrest, hslot, -⟩⟩
  · rw [hrun] at hokay
    rw [hokay] at hfail
    have hnone : sampleSetActive.responses = [] := by decide +kernel
    rw [hnone] at hfail
    simp at hfail
  · rw [Option.some.injEq] at htext
    subst htext
    have hcolon : strStr (ascii ":") (ascii ":") = some (ascii ":") := by decide
    rw [hcolon, Option.some.injEq] at hrest
    subst hrest
    obtain ⟨rfl | rfl, h | h⟩ := hslot <;> exact absurd h (by decide)

end OhMyAbl
