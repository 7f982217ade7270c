/-
  **What `SetActiveSlot` leaves behind.**

  The swap of type GUIDs does not touch names or attributes, so what the routine makes of the two
  boot entries is known in both branches.  A node of the list of slotted partitions that can not be
  allocated ends the switch before the boot LUN is reached, and the routine reports a success.
-/
import OhMyAbl.Partition.Slots

namespace OhMyAbl

open Prog

/-! ### The fields of the two rewritten entries -/

section Fields

variable {e : PartitionEntry} {m : BitVec 64}

theorem retryCount_setMask (h : m &&& PART_ATT_MAX_RETRY_COUNT_VAL = 0) :
    (e.setMask m).retryCount = e.retryCount := by
  simp [PartitionEntry.retryCount, PartitionEntry.setMask, Bits.or_and_of_disjoint h]

theorem retryCount_clearMask (h : m &&& PART_ATT_MAX_RETRY_COUNT_VAL = 0) :
    (e.clearMask m).retryCount = e.retryCount := by
  simp [PartitionEntry.retryCount, PartitionEntry.clearMask, Bits.andNot_and_of_disjoint h]

theorem retryCount_markActive (suffix : Text) :
    (markActive suffix e).retryCount = e.retryCount := by
  unfold markActive
  split
  · exact retryCount_setMask (by decide)
  · exact retryCount_clearMask (by decide)

def MAX_RETRY_COUNT : BitVec 64 := 7

structure PartitionEntry.Fresh (e : PartitionEntry) : Prop where
  active : e.active = true
  priority : e.priority = MAX_PRIORITY
  retryCount : e.retryCount = MAX_RETRY_COUNT
  bootable : e.unbootable = false

theorem fresh_masks (e : PartitionEntry) :
    ((e.setMask (PART_ATT_PRIORITY_VAL ||| PART_ATT_ACTIVE_VAL |||
      PART_ATT_MAX_RETRY_COUNT_VAL)).clearMask PART_ATT_UNBOOTABLE_VAL).Fresh where
  active := by
    rw [active_clearMask (by decide), PartitionEntry.active, Bits.test, PartitionEntry.setMask,
      Bits.or_and_of_le (by decide)]
    decide
  priority := by
    rw [priority_clearMask (by decide), PartitionEntry.priority, PartitionEntry.setMask,
      Bits.or_and_of_le (by decide)]
    decide
  retryCount := by
    rw [retryCount_clearMask (by decide), PartitionEntry.retryCount, PartitionEntry.setMask,
      Bits.or_and_of_le (by decide)]
    decide
  bootable := by
    rw [PartitionEntry.unbootable, Bits.test, PartitionEntry.clearMask,
      Bits.andNot_and_of_le BitVec.and_self]
    rfl

theorem PartitionEntry.Fresh.clearMask (h : e.Fresh) (ha : m &&& PART_ATT_ACTIVE_VAL = 0)
    (hp : m &&& PART_ATT_PRIORITY_VAL = 0) (hr : m &&& PART_ATT_MAX_RETRY_COUNT_VAL = 0)
    (hu : m &&& PART_ATT_UNBOOTABLE_VAL = 0) : (e.clearMask m).Fresh where
  active := (active_clearMask ha).trans h.active
  priority := (priority_clearMask hp).trans h.priority
  retryCount := (retryCount_clearMask hr).trans h.retryCount
  bootable := by
    rw [PartitionEntry.unbootable, Bits.test, PartitionEntry.clearMask,
      Bits.andNot_and_of_disjoint hu]
    exact h.bootable

theorem fresh_activate (reset : Bool) (e : PartitionEntry) : (e.activate reset).Fresh := by
  have hmasks := fresh_masks e
  simp only [PartitionEntry.activate]
  split
  · exact hmasks.clearMask (by decide) (by decide) (by decide) (by decide)
  · exact hmasks

theorem PartitionEntry.Fresh.markActive {suffix : Text} (h : e.Fresh)
    (hname : suffix.isSuffixOf e.partitionName = true) : (OhMyAbl.markActive suffix e).Fresh where
  active := (active_markActive suffix).trans hname
  priority := (priority_markActive suffix).trans h.priority
  retryCount := (retryCount_markActive suffix).trans h.retryCount
  bootable := (sameVerdict_markActive suffix).2.trans h.bootable

theorem active_deactivate (e : PartitionEntry) : e.deactivate.active = false := by
  rw [PartitionEntry.deactivate, active_setMask (by decide), PartitionEntry.active, Bits.test,
    PartitionEntry.clearMask, Bits.andNot_and_of_le BitVec.and_self]
  rfl

theorem keepsName_deactivate : KeepsName PartitionEntry.deactivate := fun _ => rfl

end Fields

/-! ### Swapping type GUIDs -/

section Swap

variable {env : SlotEnv} {s s' : SlotState} {suffix : Text}

def PartitionEntry.untyped (e : PartitionEntry) : PartitionEntry :=
  { e with partitionTypeGUID := 0 }

variable {e : PartitionEntry} {active : Text}

theorem fresh_untyped : e.untyped.Fresh ↔ e.Fresh :=
  ⟨fun h => ⟨h.active, h.priority, h.retryCount, h.bootable⟩,
    fun h => ⟨h.active, h.priority, h.retryCount, h.bootable⟩⟩

def SameSlots (entries entries' : List PartitionEntry) : Prop :=
  entries'.map PartitionEntry.untyped = entries.map PartitionEntry.untyped

theorem SameSlots.names {entries entries' : List PartitionEntry} (h : SameSlots entries entries') :
    entries'.map (·.partitionName) = entries.map (·.partitionName) := by
  have hmap := congrArg (List.map PartitionEntry.partitionName) h
  rw [List.map_map, List.map_map] at hmap
  exact hmap

theorem sameSlots_modify (entries : List PartitionEntry) (i : Nat) (guid : BitVec 128) :
    SameSlots entries (entries.modify i fun e => { e with partitionTypeGUID := guid }) := by
  apply List.ext_getElem?
  intro k
  simp only [List.getElem?_map, List.getElem?_modify]
  by_cases hk : i = k
  · cases entries[k]? <;> simp [hk, PartitionEntry.untyped]
  · cases entries[k]? <;> simp [hk]

theorem sameSlots_swapPtnGuid (entries : List PartitionEntry) (pair : Option Nat × Option Nat) :
    SameSlots entries (swapPtnGuid entries pair) := by
  unfold swapPtnGuid
  split
  · split
    · exact (sameSlots_modify _ _ _).trans (sameSlots_modify _ _ _)
    · rfl
  · rfl

theorem sameSlots_switchPartition (active inactive : Text) (parts : List Text) :
    ∀ entries : List PartitionEntry,
      SameSlots entries (parts.foldl (switchPartition active inactive) entries) := by
  induction parts with
  | nil =>
    intro entries
    rfl
  | cons part parts ih =>
    intro entries
    exact (ih _).trans (sameSlots_swapPtnGuid _ _)

@[simp] theorem ptnEntries_ufsSetBootLun (lun : Nat) :
    (ufsSetBootLun env lun s).ptnEntries = s.ptnEntries := by
  unfold ufsSetBootLun
  split <;> rfl

def slottedParts (env : SlotEnv) (s : SlotState) : EfiStatus × List Text :=
  if s.headNode.isEmpty then getMultiSlotPartsList env s.ptnEntries []
  else (EFI_SUCCESS, s.headNode)

def swapSlots (active : Text) (parts : List Text) (s : SlotState) : SlotState :=
  { s with
    headNode := parts
    ptnEntries := parts.foldl
      (switchPartition active (if strnCmp active slotA 2 then slotB else slotA)) s.ptnEntries }

def followBootLun (env : SlotEnv) (active : Text) (s : SlotState) : SlotState :=
  ufsSetBootLun env ((otherBootLun (ufsGetBootLun env s).2 active).getD (ufsGetBootLun env s).2) s

theorem switchPtnSlots_of_error (h : (slottedParts env s).1 ≠ EFI_SUCCESS) :
    switchPtnSlots env active s = { s with headNode := (slottedParts env s).2 } :=
  if_pos h

theorem switchPtnSlots_of_list (h : (slottedParts env s).1 = EFI_SUCCESS) :
    switchPtnSlots env active s =
      if env.rootDeviceType = .UFS then
        followBootLun env active (swapSlots active (slottedParts env s).2 s)
      else swapSlots active (slottedParts env s).2 s :=
  if_neg (not_not_intro h)

theorem sameSlots_switchPtnSlots (env : SlotEnv) (s : SlotState) (active : Text) :
    SameSlots s.ptnEntries (switchPtnSlots env active s).ptnEntries := by
  by_cases h : (slottedParts env s).1 = EFI_SUCCESS
  · rw [switchPtnSlots_of_list h]
    split
    · rw [followBootLun, ptnEntries_ufsSetBootLun]
      exact sameSlots_switchPartition _ _ _ _
    · exact sameSlots_switchPartition _ _ _ _
  · rw [switchPtnSlots_of_error h]
    rfl

theorem SameSlots.bootEntry (h : SameSlots s.ptnEntries s'.ptnEntries)
    (he : bootEntry env s suffix = some e) :
    ∃ e', OhMyAbl.bootEntry env s' suffix = some e' ∧ e'.untyped = e.untyped := by
  unfold OhMyAbl.bootEntry at he ⊢
  rw [getBootPartitionEntry_names h.names]
  obtain ⟨i, hi, hei⟩ := Option.bind_eq_some_iff.mp he
  have hmap := congrArg (·[i]?) h
  simp only [List.getElem?_map, hei, Option.map_some, Option.map_eq_some_iff] at hmap
  obtain ⟨e', he', huntyped⟩ := hmap
  exact ⟨e', by rw [hi, Option.bind_some, he'], huntyped⟩

end Swap

/-! ### The two entries `SetActiveSlot` rewrites -/

section SetActive

variable {env : SlotEnv} {s s' t : SlotState} {newSlot x y : Text} {reset : Bool}
  {o : PartitionEntry}

structure Rewritten (env : SlotEnv) (newSlot : Text) (reset : Bool) (s t : SlotState) : Prop where
  names : t.ptnEntries.map (·.partitionName) = s.ptnEntries.map (·.partitionName)
  headNode : t.headNode = s.headNode
  bootLun : t.ufsBootLun = s.ufsBootLun
  new : ∃ e, bootEntry env (settle env s) newSlot = some e ∧
    bootEntry env t newSlot = some (e.activate reset)
  other : ∃ e, bootEntry env (settle env s) (alternateSlot newSlot) = some e ∧
    bootEntry env t (alternateSlot newSlot) = some e.deactivate

theorem settle_frame (env : SlotEnv) (s : SlotState) :
    (settle env s).ptnEntries.map (·.partitionName) = s.ptnEntries.map (·.partitionName) ∧
      (settle env s).headNode = s.headNode ∧ (settle env s).ufsBootLun = s.ufsBootLun := by
  obtain hs | ⟨i, hs⟩ := settle_cases env s
  · rw [hs]
    exact ⟨rfl, rfl, rfl⟩
  · rw [hs]
    exact ⟨names_modify keepsName_firstBootSlot _ _, rfl, rfl⟩

theorem setActiveSlot_rewrites (reset : Bool) (hok : (activeResult env s).1 = EFI_SUCCESS)
    (hslot : IsSlot newSlot) :
    ∃ t, Rewritten env newSlot reset s t ∧ (setActiveSlot env newSlot reset).exec s =
      (.ok EFI_SUCCESS, switchToSlot env (activeResult env s).2 newSlot t) := by
  have hok' : (activeResult env (settle env s)).1 = EFI_SUCCESS := by
    rw [(activeResult_settle env s).1]
    exact hok
  obtain ⟨i, e, hi, -, he⟩ := bootIndex_exists hok' hslot
  obtain ⟨j, e', hj, -, he'⟩ := bootIndex_exists hok' (alternateSlot_slot hslot)
  have hij := bootIndex_alternate hslot hi hj
  obtain ⟨hnames, hhead, hlun⟩ := settle_frame env s
  -- the second rewriting finds the table with the names the first one found
  have hi₁ := hi
  have hj₁ := hj
  rw [← getBootPartitionEntry_names
    (names_modify (keepsName_activate reset) (settle env s).ptnEntries i)] at hi₁ hj₁
  have hnew := bootEntry_updateEntry_self (keepsName_activate reset) hi
  have hother := bootEntry_updateEntry_ne (keepsName_activate reset) hj hij
  rw [he, Option.map_some] at hnew
  rw [he'] at hother
  refine ⟨((settle env s).updateEntry i (·.activate reset)).updateEntry j
    PartitionEntry.deactivate, ?_, ?_⟩
  · refine ⟨?_, hhead, hlun, ⟨e, he, ?_⟩, ⟨e', he', ?_⟩⟩
    · exact ((names_modify keepsName_deactivate _ _).trans
        (names_modify (keepsName_activate reset) _ _)).trans hnames
    · rw [bootEntry_updateEntry_ne keepsName_deactivate hi₁ hij.symm]
      exact hnew
    · rw [bootEntry_updateEntry_self keepsName_deactivate hj₁, hother, Option.map_some]
  · simp only [setActiveSlot, Prog.exec_bind, exec_getActiveSlot, hok, ne_eq, not_true_eq_false,
      if_false, Prog.exec_get, hi, hj, Prog.exec_modify, Prog.exec_pure]

theorem setActiveSlot_success
    (h : (setActiveSlot env newSlot reset).exec s = (.ok EFI_SUCCESS, s')) :
    (activeResult env s).1 = EFI_SUCCESS := by
  by_contra hne
  simp only [setActiveSlot, Prog.exec_bind, exec_getActiveSlot, hne, ne_eq, not_false_eq_true,
    if_true, Prog.exec_pure, Prod.mk.injEq, Except.ok.injEq] at h
  exact h.1

theorem untyped_markActive (suffix : Text) (e : PartitionEntry) :
    (markActive suffix e).untyped = markActive suffix e.untyped := by
  unfold markActive
  by_cases h : suffix.isSuffixOf e.partitionName = true
  · rw [if_pos h, if_pos (show suffix.isSuffixOf e.untyped.partitionName = true from h)]
    rfl
  · rw [if_neg h, if_neg (show ¬ suffix.isSuffixOf e.untyped.partitionName = true from h)]
    rfl

theorem switchToSlot_entry (current newSlot : Text) (h : bootEntry env t y = some o) :
    ∃ o', bootEntry env (switchToSlot env current newSlot t) y = some o' ∧
      o'.untyped =
        (if strnCmp current newSlot current.length then o else markActive newSlot o).untyped := by
  by_cases hsame : strnCmp current newSlot current.length = true
  · -- the slot was active: at most the boot LUN changes
    have hentries : (switchToSlot env current newSlot t).ptnEntries = t.ptnEntries := by
      simp only [switchToSlot, hsame, if_true]
      split
      · split
        · exact ptnEntries_ufsSetBootLun _
        · rfl
      · rfl
    refine ⟨o, ?_, by rw [if_pos hsame]⟩
    rw [bootEntry, hentries]
    exact h
  · have hswitch : switchToSlot env current newSlot t =
        markPtnActive newSlot (switchPtnSlots env newSlot t) := if_neg hsame
    obtain ⟨o₁, ho₁, huntyped⟩ :=
      (sameSlots_switchPtnSlots env t newSlot).bootEntry h
    refine ⟨markActive newSlot o₁, ?_, ?_⟩
    · rw [hswitch, bootEntry_markPtnActive, ho₁, Option.map_some]
    · rw [if_neg hsame, untyped_markActive, untyped_markActive, huntyped]

theorem switchToSlot_entries (current : Text) (hri : env.recoveryInfo = false)
    (hslot : IsSlot newSlot) (h : Rewritten env newSlot reset s t) :
    ∃ e other, bootEntry env (switchToSlot env current newSlot t) newSlot = some e ∧
      bootEntry env (switchToSlot env current newSlot t) (alternateSlot newSlot) = some other ∧
      e.Fresh ∧ other.active = false := by
  obtain ⟨e, -, he⟩ := h.new
  obtain ⟨o, -, ho⟩ := h.other
  obtain ⟨e', he', hnew⟩ := switchToSlot_entry current newSlot he
  obtain ⟨o', ho', hother⟩ := switchToSlot_entry current newSlot ho
  have hback : alternateSlot (alternateSlot newSlot) = newSlot := by
    obtain rfl | rfl := hslot <;> decide
  have hname := (isSuffixOf_bootName hri hslot he).1
  have hnot := (isSuffixOf_bootName hri (alternateSlot_slot hslot) ho).2
  rw [hback] at hnot
  have hfresh := fresh_activate reset e
  refine ⟨e', o', he', ho', fresh_untyped.mp ?_, ?_⟩
  · rw [hnew, fresh_untyped]
    split
    · exact hfresh
    · exact hfresh.markActive hname
  · show o'.untyped.active = false
    rw [hother]
    split
    · exact active_deactivate o
    · exact (active_markActive newSlot).trans hnot

theorem setActiveSlot_other (reset : Bool) (hok : (activeResult env s).1 = EFI_SUCCESS)
    (hslot : IsSlot newSlot) (ho : bootEntry env (settle env s) (alternateSlot newSlot) = some o) :
    ∃ o', bootEntry env ((setActiveSlot env newSlot reset).exec s).2 (alternateSlot newSlot) =
      some o' ∧ SameVerdict o o' ∧ o'.retryCount = o.retryCount := by
  obtain ⟨t, hrewritten, hexec⟩ := setActiveSlot_rewrites reset hok hslot
  obtain ⟨o₁, ho₁, hdeactivated⟩ := hrewritten.other
  rw [ho, Option.some.injEq] at ho₁
  subst ho₁
  obtain ⟨o', ho', huntyped⟩ := switchToSlot_entry (activeResult env s).2 newSlot
    hdeactivated
  have hverdict : SameVerdict o o.deactivate := by
    obtain ⟨hs, hu⟩ := sameVerdict_clearMask (e := o) (m := PART_ATT_PRIORITY_VAL)
      (by decide) (by decide)
    obtain ⟨hs', hu'⟩ := sameVerdict_clearMask (e := o.clearMask PART_ATT_PRIORITY_VAL)
      (m := PART_ATT_ACTIVE_VAL) (by decide) (by decide)
    obtain ⟨hs'', hu''⟩ := sameVerdict_setMask
      (e := (o.clearMask PART_ATT_PRIORITY_VAL).clearMask PART_ATT_ACTIVE_VAL)
      (m := BitVec.ofNat 64 (MAX_PRIORITY - 1) <<< PART_ATT_PRIORITY_BIT) (by decide) (by decide)
    exact ⟨hs''.trans (hs'.trans hs), hu''.trans (hu'.trans hu)⟩
  have hretry : o.deactivate.retryCount = o.retryCount := by
    rw [PartitionEntry.deactivate, retryCount_setMask (by decide), retryCount_clearMask (by decide),
      retryCount_clearMask (by decide)]
  refine ⟨o', by rw [hexec]; exact ho', ?_, ?_⟩
  · show SameVerdict o o'.untyped
    rw [huntyped]
    split
    · exact hverdict
    · obtain ⟨hs, hu⟩ := sameVerdict_markActive (e := o.deactivate) newSlot
      exact ⟨hs.trans hverdict.1, hu.trans hverdict.2⟩
  · show o'.untyped.retryCount = _
    rw [huntyped]
    split
    · exact hretry
    · exact (retryCount_markActive newSlot).trans hretry

theorem activeAt_of_fresh {e other : PartitionEntry} (hatomic : env.atomicAB = false)
    (hslot : IsSlot newSlot) (he : bootEntry env s newSlot = some e)
    (ho : bootEntry env s (alternateSlot newSlot) = some other) (hfresh : e.Fresh)
    (hother : other.active = false) : ActiveAt env s newSlot := by
  have hmax : MAX_PRIORITY = 3 := rfl
  obtain ⟨rfl, halt⟩ | ⟨rfl, halt⟩ := alternateSlot_cases hslot
  · refine activeAt_of_choose hatomic he ho ?_ (by decide)
    simp [chooseSlot, hfresh.active, hfresh.priority, hother, hmax]
  · refine activeAt_of_choose hatomic ho he ?_ (by decide)
    simp [chooseSlot, hfresh.active, hfresh.priority, hother, hmax]

/-! ### The boot LUN -/

def LunCalls (env : SlotEnv) : Prop :=
  env.ufsCardInfo = EFI_SUCCESS ∧ env.getBootLU = true ∧ env.setBootLU = true

/-- The entries that have a later partner, each of which gets a node of the list. -/
def slottedCount : List PartitionEntry → Nat
  | [] => 0
  | e :: rest =>
    (if !e.partitionName.isEmpty && rest.any fun e' => samePartition e.partitionName
      e'.partitionName
      then 1 else 0) + slottedCount rest

theorem getMultiSlotPartsList_success (entries : List PartitionEntry) :
    ∀ head : List Text, (getMultiSlotPartsList env entries head).1 = EFI_SUCCESS ↔
      ∀ k < slottedCount entries, env.allocateNode (head.length + k) = true := by
  induction entries with
  | nil =>
    intro head
    simp [getMultiSlotPartsList, slottedCount]
  | cons e rest ih =>
    intro head
    simp only [getMultiSlotPartsList, slottedCount]
    split
    · split
      case isTrue halloc =>
        rw [ih, List.length_cons]
        constructor
        · intro h k hk
          cases k with
          | zero => exact halloc
          | succ k =>
            have hnext := h k (by omega)
            rwa [show head.length + (k + 1) = head.length + 1 + k by omega]
        · intro h k hk
          have hnext := h (k + 1) (by omega)
          rwa [show head.length + 1 + k = head.length + (k + 1) by omega]
      case isFalse halloc =>
        constructor
        · intro h
          exact absurd (show EFI_OUT_OF_RESOURCES = EFI_SUCCESS from h) (by decide)
        · intro h
          exact absurd (h 0 (by omega)) halloc
    · rw [ih, Nat.zero_add]

theorem slottedCount_names : ∀ {entries entries' : List PartitionEntry},
    entries'.map (·.partitionName) = entries.map (·.partitionName) →
      slottedCount entries' = slottedCount entries
  | [], [], _ => rfl
  | e :: rest, e' :: rest', h => by
    simp only [List.map_cons, List.cons.injEq] at h
    have hany : ∀ l : List PartitionEntry,
      (l.any fun x => samePartition e.partitionName x.partitionName) =
        (l.map (·.partitionName)).any (samePartition e.partitionName) := by
      intro l
      rw [List.any_map]
      rfl
    simp [slottedCount, h.1, slottedCount_names h.2, hany, h.2]

theorem otherBootLun_getD {lun : Nat} {suffix : Text} (hlun : lun = 1 ∨ lun = 2)
    (hslot : IsSlot suffix) : (otherBootLun lun suffix).getD lun = 1 ↔ suffix = slotA := by
  obtain rfl | rfl := hlun <;> obtain rfl | rfl := hslot <;> decide

theorem ufsGetBootLun_of_calls (hcalls : LunCalls env) :
    (ufsGetBootLun env s).2 = s.ufsBootLun := by
  simp [ufsGetBootLun, hcalls.1, hcalls.2.1]

theorem ufsSetBootLun_of_calls (hcalls : LunCalls env) (lun : Nat) :
    (ufsSetBootLun env lun s).ufsBootLun = lun := by
  simp [ufsSetBootLun, hcalls.1, hcalls.2.2]

theorem strnCmp_slots (hx : IsSlot x) (hy : IsSlot y) : strnCmp x y x.length = true ↔ x = y := by
  obtain rfl | rfl := hx <;> obtain rfl | rfl := hy <;> decide

theorem bootLun_switchToSlot {current : Text} (hufs : env.rootDeviceType = .UFS)
    (hcalls : LunCalls env) (hlun : t.ufsBootLun = 1 ∨ t.ufsBootLun = 2)
    (hcurrent : IsSlot current) (hslot : IsSlot newSlot) :
    ((switchToSlot env current newSlot t).ufsBootLun = 1 ↔ newSlot = slotA) ↔
      ¬ (current ≠ newSlot ∧ (slottedParts env t).1 ≠ EFI_SUCCESS ∧
        ¬ (t.ufsBootLun = 1 ↔ newSlot = slotA)) := by
  by_cases hsame : current = newSlot
  · subst hsame
    have hcmp := (strnCmp_slots hcurrent hcurrent).mpr rfl
    have hfollow := otherBootLun_getD hlun hcurrent
    simp only [switchToSlot, hcmp, hufs, ufsGetBootLun_of_calls hcalls]
    cases hother : otherBootLun t.ufsBootLun current with
    | none =>
      rw [hother, Option.getD_none] at hfollow
      simp [hfollow]
    | some lun =>
      rw [hother, Option.getD_some] at hfollow
      simp [ufsSetBootLun_of_calls hcalls, hfollow]
  · have hcmp : ¬ strnCmp current newSlot current.length = true :=
      fun h => hsame ((strnCmp_slots hcurrent hslot).mp h)
    have hswitch : switchToSlot env current newSlot t =
        markPtnActive newSlot (switchPtnSlots env newSlot t) := if_neg hcmp
    rw [hswitch]
    by_cases hlist : (slottedParts env t).1 = EFI_SUCCESS
    · have hfollow : (followBootLun env newSlot
          (swapSlots newSlot (slottedParts env t).2 t)).ufsBootLun =
            (otherBootLun t.ufsBootLun newSlot).getD t.ufsBootLun := by
        rw [followBootLun, ufsSetBootLun_of_calls hcalls, ufsGetBootLun_of_calls hcalls]
        rfl
      rw [switchPtnSlots_of_list hlist, if_pos hufs]
      show ((followBootLun env newSlot _).ufsBootLun = 1 ↔ _) ↔ _
      rw [hfollow, otherBootLun_getD hlun hslot]
      simp [hlist]
    · rw [switchPtnSlots_of_error hlist]
      show (t.ufsBootLun = 1 ↔ _) ↔ _
      simp [hlist, hsame]

/-! ### The contract -/

/-- What a successful `SetActiveSlot` is to leave: the next lookup gives the slot, it alone is
    active, with all its retries and bootable, and a boot LUN there is belongs to it. -/
structure ActiveSlotContract (env : SlotEnv) (newSlot : Text) (s s' : SlotState) : Prop where
  returned : ((getActiveSlot env).exec s').1 = .ok (EFI_SUCCESS, newSlot)
  entries : ∃ e other, bootEntry env s' newSlot = some e ∧
    bootEntry env s' (alternateSlot newSlot) = some other ∧ e.Fresh ∧ other.active = false
  bootLun : env.rootDeviceType = .UFS → s.ufsBootLun = 1 ∨ s.ufsBootLun = 2 → LunCalls env →
    (s'.ufsBootLun = 1 ↔ newSlot = slotA)

/-- The boot LUN stays with the slot that is left: the slots are switched, and a node of the
    list of slotted partitions, which is still to be built, can not be allocated. -/
def LunLeftBehind (env : SlotEnv) (newSlot : Text) (s : SlotState) : Prop :=
  env.rootDeviceType = .UFS ∧ LunCalls env ∧
    ((s.ufsBootLun = 1 ∧ newSlot = slotB) ∨ (s.ufsBootLun = 2 ∧ newSlot = slotA)) ∧
    (activeResult env s).2 ≠ newSlot ∧ s.headNode = [] ∧
    ∃ k < slottedCount s.ptnEntries, env.allocateNode k = false

theorem slottedParts_error (h : Rewritten env newSlot reset s t) :
    (slottedParts env t).1 ≠ EFI_SUCCESS ↔
      s.headNode = [] ∧ ∃ k < slottedCount s.ptnEntries, env.allocateNode k = false := by
  unfold slottedParts
  rw [h.headNode]
  cases hhead : s.headNode with
  | cons part rest => simp
  | nil =>
    simp [getMultiSlotPartsList_success, slottedCount_names h.names]

/-- **Active slot contract.**  A success of `SetActiveSlot` on one of the two slots keeps the
    contract exactly when the boot LUN is not left behind. -/
theorem setActiveSlot_contract (hatomic : env.atomicAB = false) (hri : env.recoveryInfo = false)
    (hslot : newSlot = slotA ∨ newSlot = slotB)
    (hrun : (setActiveSlot env newSlot reset).exec s = (.ok EFI_SUCCESS, s')) :
    ActiveSlotContract env newSlot s s' ↔ ¬ LunLeftBehind env newSlot s := by
  have hok := setActiveSlot_success hrun
  have hcurrent := activeResult_slot hri hok
  obtain ⟨t, hrewritten, hexec⟩ := setActiveSlot_rewrites reset hok hslot
  obtain rfl : switchToSlot env (activeResult env s).2 newSlot t = s' :=
    congrArg Prod.snd (hexec.symm.trans hrun)
  obtain ⟨e, other, he, ho, hfresh, hinactive⟩ :=
    switchToSlot_entries (activeResult env s).2 hri hslot hrewritten
  obtain ⟨hactive, -⟩ := activeAt_of_fresh hatomic hslot he ho hfresh hinactive
  have hlist := slottedParts_error hrewritten
  have hne : slotA ≠ slotB := by decide
  constructor
  · rintro hcontract ⟨hufs, hcalls, hwrong, hother, hnode⟩
    have hlun : s.ufsBootLun = 1 ∨ s.ufsBootLun = 2 := hwrong.imp And.left And.left
    have hiff := bootLun_switchToSlot hufs hcalls (hrewritten.bootLun ▸ hlun) hcurrent hslot
    refine hiff.mp (hcontract.bootLun hufs hlun hcalls) ⟨hother, hlist.mpr hnode, ?_⟩
    rw [hrewritten.bootLun]
    obtain ⟨hone, rfl⟩ | ⟨htwo, rfl⟩ := hwrong
    · simp [hone, hne.symm]
    · simp [htwo]
  · intro hkept
    refine ⟨by rw [exec_getActiveSlot, hactive], ⟨e, other, he, ho, hfresh, hinactive⟩, ?_⟩
    intro hufs hlun hcalls
    refine (bootLun_switchToSlot hufs hcalls (hrewritten.bootLun ▸ hlun) hcurrent hslot).mpr ?_
    rintro ⟨hother, herror, hwrong⟩
    refine hkept ⟨hufs, hcalls, ?_, hother, hlist.mp herror⟩
    rw [hrewritten.bootLun] at hwrong
    obtain hone | htwo := hlun
    · obtain rfl | rfl := hslot
      · exact absurd hone (by simpa using hwrong)
      · exact .inl ⟨hone, rfl⟩
    · obtain rfl | rfl := hslot
      · exact .inr ⟨htwo, rfl⟩
      · exact absurd hwrong (by simp [htwo, hne.symm])

end SetActive

/-! ### A switch from `_a` to `_b` on UFS -/

def ufsSlotEnv (allocateNode : Bool) : SlotEnv where
  recoveryInfo := false
  riLocateProtocol := EFI_SUCCESS
  riGetBootSet := EFI_SUCCESS
  riBootSet := 0
  atomicAB := false
  rootDeviceType := .UFS
  ufsCardInfo := EFI_SUCCESS
  getBootLU := true
  setBootLU := true
  targetBuildVariantUser := true
  abRetryCountDisabled := false
  bootDevImage := false
  abRetryCountUpdateRequired := true
  allocateNode := fun _ => allocateNode

def slotATable : SlotState where
  ptnEntries :=
    [⟨wide "boot_a", 1, PART_ATT_PRIORITY_VAL ||| PART_ATT_ACTIVE_VAL |||
      PART_ATT_SUCCESSFUL_VAL, 0⟩, ⟨wide "boot_b", 2, 0, 0⟩]
  firstBoot := false
  headNode := []
  ufsBootLun := 1

/-- With memory at hand the switch keeps the contract. -/
theorem setActiveSlot_contract_slotB :
    ∃ s', (setActiveSlot (ufsSlotEnv true) slotB true).exec slotATable = (.ok EFI_SUCCESS, s') ∧
      ActiveSlotContract (ufsSlotEnv true) slotB slotATable s' := by
  have hrun := exec_of_result (show ((setActiveSlot (ufsSlotEnv true) slotB true).exec
    slotATable).1 = .ok EFI_SUCCESS by decide +kernel)
  refine ⟨_, hrun, (setActiveSlot_contract rfl rfl (.inr rfl) hrun).mpr ?_⟩
  rintro ⟨-, -, -, -, -, k, -, hnode⟩
  exact Bool.noConfusion (show true = false from hnode)

/-- Without, `SetActiveSlot` reports a success and leaves the boot LUN of slot `_a`. -/
theorem setActiveSlot_leaves_lun :
    ∃ s', (setActiveSlot (ufsSlotEnv false) slotB true).exec slotATable = (.ok EFI_SUCCESS, s') ∧
      s'.ufsBootLun = 1 ∧ ¬ ActiveSlotContract (ufsSlotEnv false) slotB slotATable s' := by
  have hrun := exec_of_result (show ((setActiveSlot (ufsSlotEnv false) slotB true).exec
    slotATable).1 = .ok EFI_SUCCESS by decide +kernel)
  have hlun : ((setActiveSlot (ufsSlotEnv false) slotB true).exec slotATable).2.ufsBootLun = 1 := by
    decide +kernel
  refine ⟨_, hrun, hlun, fun hcontract => ?_⟩
  have hslot := (hcontract.bootLun rfl (.inl rfl) ⟨rfl, rfl, rfl⟩).mp hlun
  exact absurd hslot (by decide)

end OhMyAbl
