/-
  **A/B slots: the active slot, slot selection and slot switching.**

  The slot routines of `PartitionTableUpdate.c` work on the partition entries in memory: the
  attribute word of the boot entry of each slot holds its priority, its retry count and the flags
  ACTIVE, SUCCESSFUL and UNBOOTABLE.  The write-back of the table reports nothing.
-/
import OhMyAbl.Lib.Bits
import OhMyAbl.Storage.BlockIo

namespace OhMyAbl

open Prog

/-! ### Partition entries -/

def PART_ATT_PRIORITY_BIT : Nat := 48
def PART_ATT_MAX_RETRY_CNT_BIT : Nat := 51
def PART_ATT_PRIORITY_VAL : BitVec 64 := 0x3 <<< 48
def PART_ATT_ACTIVE_VAL : BitVec 64 := 0x1 <<< 50
def PART_ATT_MAX_RETRY_COUNT_VAL : BitVec 64 := 0x7 <<< 51
def PART_ATT_SUCCESSFUL_VAL : BitVec 64 := 0x1 <<< 54
def PART_ATT_UNBOOTABLE_VAL : BitVec 64 := 0x1 <<< 55
def MAX_PRIORITY : Nat := 3
def MAX_SLOT_SUFFIX_SZ : Nat := 3
def MAX_GPT_NAME_SIZE : Nat := 72

/-- `PartitionEntry`: the fields of the GPT entry the slot routines use, and its LUN. -/
structure PartitionEntry where
  partitionName : Text
  partitionTypeGUID : BitVec 128
  attributes : BitVec 64
  lun : Nat
deriving DecidableEq, Repr

namespace PartitionEntry

variable (e : PartitionEntry)

def priority : Nat := ((e.attributes &&& PART_ATT_PRIORITY_VAL) >>> PART_ATT_PRIORITY_BIT).toNat

def retryCount : BitVec 64 :=
  (e.attributes &&& PART_ATT_MAX_RETRY_COUNT_VAL) >>> PART_ATT_MAX_RETRY_CNT_BIT

def active : Bool := Bits.test e.attributes PART_ATT_ACTIVE_VAL

def successful : Bool := Bits.test e.attributes PART_ATT_SUCCESSFUL_VAL

def unbootable : Bool := Bits.test e.attributes PART_ATT_UNBOOTABLE_VAL

def setMask (mask : BitVec 64) : PartitionEntry := { e with attributes := e.attributes ||| mask }

def clearMask (mask : BitVec 64) : PartitionEntry :=
  { e with attributes := e.attributes &&& ~~~mask }

end PartitionEntry

structure SlotEnv where
  recoveryInfo : Bool                -- `IsRecoveryInfo ()`
  riLocateProtocol : EfiStatus       -- `RI_GetActiveSlot`: the protocol and its boot set
  riGetBootSet : EfiStatus
  riBootSet : Nat
  atomicAB : Bool                    -- `ENABLE_LV_ATOMIC_AB`
  rootDeviceType : MemCardType
  ufsCardInfo : EfiStatus            -- the lookups of `UfsGetSetBootLun`
  getBootLU : Bool                   -- whether the UFS driver answers
  setBootLU : Bool
  targetBuildVariantUser : Bool
  abRetryCountDisabled : Bool
  bootDevImage : Bool
  abRetryCountUpdateRequired : Bool
  /-- Whether the `n`th node of the list of slotted partitions can be allocated. -/
  allocateNode : Nat → Bool

structure SlotState where
  ptnEntries : List PartitionEntry
  firstBoot : Bool
  headNode : List Text
  ufsBootLun : Nat
deriving DecidableEq, Repr

def SET_INVALID : Nat := 0xFFFF

def getPartitionIndex (entries : List PartitionEntry) (name : Text) : Option Nat :=
  entries.findIdx? fun e => strnCmp e.partitionName name 36

/-- The entry is the `_a` or `_b` partition (as `slot` says) of `name`: `PartitionHasMultiSlot`
    looks at the two characters after the name and at none behind them. -/
def isSlotOf (name : Text) (slot : UInt16) (e : PartitionEntry) : Bool :=
  strnCmp e.partitionName name name.length &&
    (e.partitionName.getD name.length 0 == 0x5F && e.partitionName.getD (name.length + 1) 0 == slot)

def partitionHasMultiSlot (env : SlotEnv) (name : Text) (count : Nat) :
    List PartitionEntry → Bool
  | [] => false
  | e :: rest =>
    if !isSlotOf name 0x61 e && isSlotOf name 0x62 e && env.recoveryInfo then true
    else
      let seen := if isSlotOf name 0x61 e || isSlotOf name 0x62 e then count + 1 else count
      if seen > 1 then true else partitionHasMultiSlot env name seen rest

def slotA : Text := wide "_a"
def slotB : Text := wide "_b"

abbrev IsSlot (suffix : Text) : Prop := suffix = slotA ∨ suffix = slotB

variable (env : SlotEnv)

/-- `GetBootPartitionEntry`: the suffix is compared by its own length, so an empty or
    cut suffix is taken for slot `_a`. -/
def getBootPartitionEntry (entries : List PartitionEntry) (suffix : Text) : Option Nat :=
  if strnCmp slotA suffix suffix.length then
    if env.recoveryInfo then getPartitionIndex entries (wide "boot")
    else getPartitionIndex entries (wide "boot_a")
  else if strnCmp slotB suffix suffix.length then getPartitionIndex entries (wide "boot_b")
  else none

/-! ### The active slot -/

/-- The loop of `GetActiveSlot` over the slots: the active slot of strictly highest
    priority, or an empty suffix. -/
def scanSlots (env : SlotEnv) (entries : List PartitionEntry) (suffix : Text) (priority : Nat) :
    List Text → EfiStatus × Text
  | [] => (EFI_SUCCESS, suffix)
  | slot :: rest =>
    match (getBootPartitionEntry env entries slot).bind (entries[·]?) with
    | none => (EFI_NOT_FOUND, suffix)
    | some e =>
      if e.active && decide (e.priority > priority) then
        scanSlots env entries slot e.priority rest
      else scanSlots env entries suffix priority rest

/-- `UfsGetSetBootLun`, reading: a driver that does not answer leaves the zero of the caller. -/
def ufsGetBootLun (s : SlotState) : EfiStatus × Nat :=
  if env.ufsCardInfo ≠ EFI_SUCCESS then (env.ufsCardInfo, 0)
  else (EFI_SUCCESS, if env.getBootLU then s.ufsBootLun else 0)

def ufsSetBootLun (lun : Nat) (s : SlotState) : SlotState :=
  if env.ufsCardInfo = EFI_SUCCESS ∧ env.setBootLU then { s with ufsBootLun := lun } else s

def getAtomicABActiveSlot (s : SlotState) (suffix : Text) : EfiStatus × Text :=
  if env.rootDeviceType = .UFS then
    let lun := ufsGetBootLun env s
    if lun.1 ≠ EFI_SUCCESS then (lun.1, suffix)
    else if lun.2 = 1 then (EFI_SUCCESS, slotA)
    else if lun.2 = 2 then (EFI_SUCCESS, slotB)
    else (EFI_DEVICE_ERROR, suffix)
  else (EFI_UNSUPPORTED, suffix)

/-- `RI_GetActiveSlot`: an invalid boot set is reported with the status of the call, which
    is a success, and leaves the suffix empty. -/
def riGetActiveSlot (suffix : Text) : EfiStatus × Text :=
  if env.riLocateProtocol ≠ EFI_SUCCESS then (env.riLocateProtocol, suffix)
  else if env.riGetBootSet ≠ EFI_SUCCESS ∨ env.riBootSet = SET_INVALID then
    (env.riGetBootSet, suffix)
  else if env.riBootSet = 0 then (EFI_SUCCESS, slotA)
  else if env.riBootSet = 1 then (EFI_SUCCESS, slotB)
  else (EFI_UNSUPPORTED, suffix)

def SlotState.updateEntry (s : SlotState) (i : Nat) (f : PartitionEntry → PartitionEntry) :
    SlotState :=
  { s with ptnEntries := s.ptnEntries.modify i f }

def PartitionEntry.neverUsed (e : PartitionEntry) : Bool :=
  !e.active && !e.successful && !e.unbootable && e.priority == 0

def PartitionEntry.firstBootSlot (e : PartitionEntry) : PartitionEntry :=
  ((e.clearMask PART_ATT_SUCCESSFUL_VAL).clearMask PART_ATT_UNBOOTABLE_VAL).setMask
    (PART_ATT_PRIORITY_VAL ||| PART_ATT_ACTIVE_VAL ||| PART_ATT_MAX_RETRY_COUNT_VAL)

def getActiveSlot : Prog SlotState Exit (EfiStatus × Text) := do
  let s ← get
  let scan := scanSlots env s.ptnEntries [] 0 [slotA, slotB]
  if scan.1 ≠ EFI_SUCCESS then return scan
  else if env.atomicAB then return getAtomicABActiveSlot env s scan.2
  else if scan.2 ≠ [] then return scan
  else if env.recoveryInfo then return riGetActiveSlot env scan.2
  else
    match getBootPartitionEntry env s.ptnEntries slotA with
    | none => return (EFI_NOT_FOUND, [])
    | some i =>
      if s.ptnEntries[i]?.any PartitionEntry.neverUsed then
        modify fun s => { s.updateEntry i PartitionEntry.firstBootSlot with firstBoot := true }
        return (EFI_SUCCESS, slotA)
      else return (EFI_NOT_FOUND, [])

def getCurrentSlotSuffix : Prog SlotState Exit Text := do
  let s ← get
  if partitionHasMultiSlot env (wide "boot") 0 s.ptnEntries then
    let active ← getActiveSlot env
    return active.2
  else return []

def bootEntry (s : SlotState) (suffix : Text) : Option PartitionEntry :=
  (getBootPartitionEntry env s.ptnEntries suffix).bind (s.ptnEntries[·]?)

def slotBootable (s : SlotState) (suffix : Text) : Bool :=
  (bootEntry env s suffix).any fun e => !e.unbootable && e.successful

def isCurrentSlotBootable : Prog SlotState Exit Bool := do
  let active ← getActiveSlot env
  if active.1 ≠ EFI_SUCCESS then return false
  else
    let s ← get
    match bootEntry env s active.2 with
    | none => return false
    | some e => return !e.unbootable && e.successful

/-! ### Switching slots -/

/-- The mark `MarkPtnActive` puts on an entry: ACTIVE for a name that ends with the suffix. -/
def markActive (suffix : Text) (e : PartitionEntry) : PartitionEntry :=
  if suffix.isSuffixOf e.partitionName then e.setMask PART_ATT_ACTIVE_VAL
  else e.clearMask PART_ATT_ACTIVE_VAL

def markPtnActive (suffix : Text) (s : SlotState) : SlotState :=
  { s with ptnEntries := s.ptnEntries.map (markActive suffix) }

def containsText (sub : Text) : Text → Bool
  | [] => sub.isEmpty
  | c :: rest => sub.isPrefixOf (c :: rest) || containsText sub rest

/-- The test of `GetMultiSlotPartsList` on two entries: names of one length that differ at
    most in their last character, one of the suffixes occurring anywhere in the name. -/
def samePartition (name other : Text) : Bool :=
  !other.isEmpty && other.length == name.length && strnCmp other name (name.length - 1) &&
    (containsText slotA name || containsText slotB name)

/-- `GetMultiSlotPartsList`: one node for each entry that has a later partner, pushed on the
    front of the list; an allocation that fails ends the walk. -/
def getMultiSlotPartsList (env : SlotEnv) : List PartitionEntry → List Text → EfiStatus × List Text
  | [], head => (EFI_SUCCESS, head)
  | e :: rest, head =>
    if !e.partitionName.isEmpty && rest.any fun e' => samePartition e.partitionName e'.partitionName
    then
      if env.allocateNode head.length then
        getMultiSlotPartsList env rest (e.partitionName.take (e.partitionName.length - 2) :: head)
      else (EFI_OUT_OF_RESOURCES, head)
    else getMultiSlotPartsList env rest head

def BOOT_PART_SIZE : Nat := 32

/-- The search of `SwitchPtnSlots`: the last entry that starts with the current slot's name,
    and the last of the others that starts with the new slot's. -/
def findPair (cur new : Text) : Nat → List PartitionEntry → Option Nat × Option Nat →
    Option Nat × Option Nat
  | _, [], found => found
  | i, e :: rest, found =>
    if strnCmp e.partitionName cur cur.length then findPair cur new (i + 1) rest (some i, found.2)
    else if strnCmp e.partitionName new new.length then
      findPair cur new (i + 1) rest (found.1, some i)
    else findPair cur new (i + 1) rest found

def swapPtnGuid (entries : List PartitionEntry) : Option Nat × Option Nat → List PartitionEntry
  | (some i, some j) =>
    match entries[i]?, entries[j]? with
    | some p, some q =>
      (entries.modify i fun e => { e with partitionTypeGUID := q.partitionTypeGUID }).modify j
        fun e => { e with partitionTypeGUID := p.partitionTypeGUID }
    | _, _ => entries
  | _ => entries

/-- One turn of the loop of `SwitchPtnSlots` over the list of slotted partitions. -/
def switchPartition (active inactive : Text) (entries : List PartitionEntry) (part : Text) :
    List PartitionEntry :=
  let name := strnCpyS BOOT_PART_SIZE part part.length
  let cur := strnCatS BOOT_PART_SIZE name inactive inactive.length
  let new := strnCatS BOOT_PART_SIZE name active active.length
  swapPtnGuid entries (findPair cur new 0 entries (none, none))

/-- The boot LUN that belongs to a slot, when the present one belongs to the other. -/
def otherBootLun (lun : Nat) (suffix : Text) : Option Nat :=
  if lun = 1 ∧ strnCmp suffix slotB 2 then some 2
  else if lun = 2 ∧ strnCmp suffix slotA 2 then some 1
  else none

def switchPtnSlots (active : Text) (s : SlotState) : SlotState :=
  let inactive := if strnCmp active slotA 2 then slotB else slotA
  let list :=
    if s.headNode.isEmpty then getMultiSlotPartsList env s.ptnEntries []
    else (EFI_SUCCESS, s.headNode)
  let s := { s with headNode := list.2 }
  if list.1 ≠ EFI_SUCCESS then s
  else
    let s := { s with ptnEntries := list.2.foldl (switchPartition active inactive) s.ptnEntries }
    if env.rootDeviceType = .UFS then
      let lun := (ufsGetBootLun env s).2
      ufsSetBootLun env ((otherBootLun lun active).getD lun) s
    else s

/-- The slot that is not the given one: anything but `_a` has `_a` as its alternate. -/
def alternateSlot (suffix : Text) : Text := if strnCmp suffix slotA 2 then slotB else slotA

def PartitionEntry.activate (resetSuccessBit : Bool) (e : PartitionEntry) : PartitionEntry :=
  let e := (e.setMask (PART_ATT_PRIORITY_VAL ||| PART_ATT_ACTIVE_VAL |||
    PART_ATT_MAX_RETRY_COUNT_VAL)).clearMask PART_ATT_UNBOOTABLE_VAL
  if resetSuccessBit && e.successful then e.clearMask PART_ATT_SUCCESSFUL_VAL else e

def PartitionEntry.deactivate (e : PartitionEntry) : PartitionEntry :=
  ((e.clearMask PART_ATT_PRIORITY_VAL).clearMask PART_ATT_ACTIVE_VAL).setMask
    (BitVec.ofNat 64 (MAX_PRIORITY - 1) <<< PART_ATT_PRIORITY_BIT)

/-- The end of `SetActiveSlot`: a slot that was active already only has its boot LUN looked
    after, a new one is switched to. -/
def switchToSlot (current new : Text) (s : SlotState) : SlotState :=
  if strnCmp current new current.length then
    if env.rootDeviceType = .UFS then
      match otherBootLun (ufsGetBootLun env s).2 current with
      | some lun => ufsSetBootLun env lun s
      | none => s
    else s
  else markPtnActive new (switchPtnSlots env new s)

def setActiveSlot (newSlot : Text) (resetSuccessBit : Bool) : Prog SlotState Exit EfiStatus := do
  let current ← getActiveSlot env
  if current.1 ≠ EFI_SUCCESS then return current.1
  let s ← get
  match getBootPartitionEntry env s.ptnEntries newSlot with
  | none => return EFI_NOT_FOUND
  | some i =>
    modify (·.updateEntry i (·.activate resetSuccessBit))
    match getBootPartitionEntry env s.ptnEntries (alternateSlot newSlot) with
    | none => return EFI_NOT_FOUND
    | some j =>
      modify (·.updateEntry j PartitionEntry.deactivate)
      modify (switchToSlot env current.2 newSlot)
      return EFI_SUCCESS

/-- The second half of `HandleActiveSlotUnbootable`: the way out over the other slot is a
    reset. -/
def bootAlternateSlot (suffix : Text) (forceBootAlternateSlot : Bool) :
    Prog SlotState Exit EfiStatus := do
  let s ← get
  match bootEntry env s (alternateSlot suffix) with
  | none => return EFI_NOT_FOUND
  | some e =>
    if (!e.unbootable && e.successful) || forceBootAlternateSlot then
      let status ← setActiveSlot env (alternateSlot suffix) false
      if status ≠ EFI_SUCCESS then return status
      else throw .reboot
    else return EFI_LOAD_ERROR

def handleActiveSlotUnbootable (forceBootAlternateSlot : Bool) : Prog SlotState Exit EfiStatus := do
  let active ← getActiveSlot env
  if active.1 ≠ EFI_SUCCESS then return active.1
  let s ← get
  match getBootPartitionEntry env s.ptnEntries active.2 with
  | none => return EFI_NOT_FOUND
  | some i =>
    if s.firstBoot && !env.targetBuildVariantUser then
      modify fun s => { s with firstBoot := false }
    else
      modify (·.updateEntry i (·.setMask PART_ATT_UNBOOTABLE_VAL))
    bootAlternateSlot env active.2 forceBootAlternateSlot

/-! ### The slot to boot -/

def SlotState.typeGuidAt (s : SlotState) (i : Option Nat) : Option (BitVec 128) :=
  (i.bind (s.ptnEntries[·]?)).map (·.partitionTypeGUID)

/-- `ValidateSlotGuids`: the boot and the abl partition of the slot are there, with different
    type GUIDs, and on UFS the boot LUN is the slot's.  The last character of `abl_x` is
    replaced by the last one of the suffix. -/
def validateSlotGuids (s : SlotState) (suffix : Text) : EfiStatus :=
  match s.typeGuidAt (getBootPartitionEntry env s.ptnEntries suffix),
      s.typeGuidAt (getPartitionIndex s.ptnEntries (wide "abl_" ++ [suffix.getLastD 0])) with
  | some boot, some abl =>
    if boot = abl then EFI_DEVICE_ERROR
    else match env.rootDeviceType with
      | .UFS =>
        let lun := ufsGetBootLun env s
        if lun.1 ≠ EFI_SUCCESS then lun.1
        else if (lun.2 = 1 ∧ suffix = slotA) ∨ (lun.2 = 2 ∧ suffix = slotB) then EFI_SUCCESS
        else EFI_DEVICE_ERROR
      | .EMMC => EFI_SUCCESS
      | _ => EFI_DEVICE_ERROR
  | _, _ => EFI_NOT_FOUND

def PartitionEntry.useRetry (e : PartitionEntry) : PartitionEntry :=
  (e.clearMask PART_ATT_MAX_RETRY_COUNT_VAL).setMask
    ((e.retryCount - 1) <<< PART_ATT_MAX_RETRY_CNT_BIT)

/-- The end of `FindBootableSlot`: the type GUIDs are checked, and the partitions of the slot
    are marked active. -/
def confirmSlot (suffix : Text) : Prog SlotState Exit (EfiStatus × Text) := do
  let s ← get
  let status := if env.rootDeviceType ≠ .NAND then validateSlotGuids env s suffix else EFI_SUCCESS
  if status ≠ EFI_SUCCESS then return (status, [])
  else
    modify (markPtnActive suffix)
    return (EFI_SUCCESS, suffix)

def findBootableSlot : Prog SlotState Exit (EfiStatus × Text) := do
  let active ← getActiveSlot env
  if active.1 ≠ EFI_SUCCESS then return active
  let s ← get
  match getBootPartitionEntry env s.ptnEntries active.2 with
  | none => return (EFI_NOT_FOUND, active.2)
  | some i =>
    if env.recoveryInfo then return active
    match s.ptnEntries[i]? with
    | none => return (EFI_NOT_FOUND, active.2)
    | some e =>
      if !e.unbootable && e.successful then confirmSlot env active.2
      else if !e.unbootable && !e.successful && e.retryCount != 0 then
        if !env.abRetryCountDisabled && !env.bootDevImage && env.abRetryCountUpdateRequired then
          modify (·.updateEntry i PartitionEntry.useRetry)
        confirmSlot env active.2
      else
        let status ← handleActiveSlotUnbootable env false
        if status ≠ EFI_SUCCESS then return (status, [])
        else confirmSlot env active.2

/-! ### The boot entries under changes of the table -/

section Entries

variable {env : SlotEnv} {s : SlotState} {suffix suffix' : Text} {i j : Nat}
  {f : PartitionEntry → PartitionEntry} {a b e : PartitionEntry}

def KeepsName (f : PartitionEntry → PartitionEntry) : Prop :=
  ∀ e, (f e).partitionName = e.partitionName

variable {entries entries' : List PartitionEntry}

theorem getPartitionIndex_names (name : Text)
    (h : entries.map (·.partitionName) = entries'.map (·.partitionName)) :
    getPartitionIndex entries name = getPartitionIndex entries' name := by
  have hmap : ∀ l : List PartitionEntry, getPartitionIndex l name =
      (l.map (·.partitionName)).findIdx? fun n => strnCmp n name 36 := by
    intro l
    rw [getPartitionIndex, List.findIdx?_map]
    rfl
  rw [hmap, hmap, h]

theorem getBootPartitionEntry_names
    (h : entries.map (·.partitionName) = entries'.map (·.partitionName)) :
    getBootPartitionEntry env entries suffix = getBootPartitionEntry env entries' suffix := by
  unfold getBootPartitionEntry
  simp [getPartitionIndex_names _ h]

theorem names_modify (h : KeepsName f) (entries : List PartitionEntry) (i : Nat) :
    (entries.modify i f).map (·.partitionName) = entries.map (·.partitionName) := by
  apply List.ext_getElem?
  intro k
  simp only [List.getElem?_map, List.getElem?_modify]
  by_cases hk : i = k
  · cases hek : entries[k]? <;> simp [hk, h _]
  · cases hek : entries[k]? <;> simp [hk]

theorem keepsName_setMask (m : BitVec 64) : KeepsName (·.setMask m) := fun _ => rfl

theorem keepsName_clearMask (m : BitVec 64) : KeepsName (·.clearMask m) := fun _ => rfl

theorem keepsName_firstBootSlot : KeepsName PartitionEntry.firstBootSlot := fun _ => rfl

theorem keepsName_useRetry : KeepsName PartitionEntry.useRetry := fun _ => rfl

theorem keepsName_activate (reset : Bool) : KeepsName (·.activate reset) := by
  intro e
  simp only [PartitionEntry.activate]
  split <;> rfl

theorem keepsName_markActive : KeepsName (markActive suffix) := by
  intro e
  unfold markActive
  split <;> rfl

theorem getPartitionIndex_some {name : Text} (h : getPartitionIndex entries name = some i) :
    ∃ e, entries[i]? = some e ∧ e.partitionName.take 36 = name.take 36 := by
  rw [getPartitionIndex, List.findIdx?_eq_some_iff_getElem] at h
  obtain ⟨hi, hname, _⟩ := h
  exact ⟨entries[i], List.getElem?_eq_getElem hi, of_decide_eq_true hname⟩

def bootName (env : SlotEnv) (suffix : Text) : Text :=
  if suffix = slotB then wide "boot_b" else if env.recoveryInfo then wide "boot" else wide "boot_a"

theorem getBootPartitionEntry_slot (h : IsSlot suffix) (entries : List PartitionEntry) :
    getBootPartitionEntry env entries suffix = getPartitionIndex entries (bootName env suffix) := by
  obtain rfl | rfl := h
  · have hA : strnCmp slotA slotA slotA.length = true := by decide
    have hne : slotA ≠ slotB := by decide
    cases hr : env.recoveryInfo <;> simp [getBootPartitionEntry, bootName, hr, hA, hne]
  · have hA : strnCmp slotA slotB slotB.length = false := by decide
    have hB : strnCmp slotB slotB slotB.length = true := by decide
    simp [getBootPartitionEntry, bootName, hA, hB]

theorem bootEntry_name (h : IsSlot suffix) (he : bootEntry env s suffix = some e) :
    e.partitionName.take 36 = (bootName env suffix).take 36 := by
  rw [bootEntry, getBootPartitionEntry_slot h] at he
  obtain ⟨i, hi, hei⟩ := Option.bind_eq_some_iff.mp he
  obtain ⟨e', he', hname⟩ := getPartitionIndex_some hi
  rw [he', Option.some.injEq] at hei
  exact hei ▸ hname

theorem bootName_ne : (bootName env slotA).take 36 ≠ (bootName env slotB).take 36 := by
  cases hr : env.recoveryInfo <;> simp only [bootName, hr] <;> decide

theorem bootIndex_ne (hi : getBootPartitionEntry env s.ptnEntries slotA = some i)
    (hj : getBootPartitionEntry env s.ptnEntries slotB = some j) : i ≠ j := by
  rintro rfl
  rw [getBootPartitionEntry_slot (.inl rfl)] at hi
  obtain ⟨e, he, hname⟩ := getPartitionIndex_some hi
  obtain ⟨e', he', hname'⟩ := getPartitionIndex_some hj
  rw [he, Option.some.injEq] at he'
  subst he'
  exact bootName_ne (hname.symm.trans hname')

theorem bootEntry_updateEntry_self (hf : KeepsName f)
    (hi : getBootPartitionEntry env s.ptnEntries suffix = some i) :
    bootEntry env (s.updateEntry i f) suffix = (bootEntry env s suffix).map f := by
  have hi' := hi
  rw [← getBootPartitionEntry_names (names_modify hf s.ptnEntries i)] at hi'
  simp only [bootEntry, SlotState.updateEntry, hi, hi', Option.bind_some, List.getElem?_modify]
  rfl

theorem bootEntry_updateEntry_ne (hf : KeepsName f)
    (hj : getBootPartitionEntry env s.ptnEntries suffix = some j) (h : i ≠ j) :
    bootEntry env (s.updateEntry i f) suffix = bootEntry env s suffix := by
  have hj' := hj
  rw [← getBootPartitionEntry_names (names_modify hf s.ptnEntries i)] at hj'
  simp only [bootEntry, SlotState.updateEntry, hj, hj', Option.bind_some, List.getElem?_modify,
    if_neg h]
  simp

theorem bootEntry_markPtnActive :
    bootEntry env (markPtnActive suffix' s) suffix =
      (bootEntry env s suffix).map (markActive suffix') := by
  have hnames : ((markPtnActive suffix' s).ptnEntries).map (·.partitionName) =
      s.ptnEntries.map (·.partitionName) := by
    simp only [markPtnActive, List.map_map]
    refine List.map_congr_left fun e _ => ?_
    exact keepsName_markActive e
  rw [bootEntry, getBootPartitionEntry_names hnames, bootEntry]
  cases getBootPartitionEntry env s.ptnEntries suffix with
  | none => rfl
  | some i => exact List.getElem?_map

end Entries

/-! ### Attribute fields under changes of other fields -/

section Attributes

variable {e : PartitionEntry} {m : BitVec 64}

theorem priority_setMask (h : m &&& PART_ATT_PRIORITY_VAL = 0) :
    (e.setMask m).priority = e.priority := by
  simp [PartitionEntry.priority, PartitionEntry.setMask, Bits.or_and_of_disjoint h]

theorem priority_clearMask (h : m &&& PART_ATT_PRIORITY_VAL = 0) :
    (e.clearMask m).priority = e.priority := by
  simp [PartitionEntry.priority, PartitionEntry.clearMask, Bits.andNot_and_of_disjoint h]

theorem active_setMask (h : m &&& PART_ATT_ACTIVE_VAL = 0) : (e.setMask m).active = e.active := by
  simp [PartitionEntry.active, Bits.test, PartitionEntry.setMask, Bits.or_and_of_disjoint h]

theorem active_clearMask (h : m &&& PART_ATT_ACTIVE_VAL = 0) :
    (e.clearMask m).active = e.active := by
  simp [PartitionEntry.active, Bits.test, PartitionEntry.clearMask, Bits.andNot_and_of_disjoint h]

def SameVerdict (e e' : PartitionEntry) : Prop :=
  e'.successful = e.successful ∧ e'.unbootable = e.unbootable

theorem sameVerdict_setMask (hs : m &&& PART_ATT_SUCCESSFUL_VAL = 0)
    (hu : m &&& PART_ATT_UNBOOTABLE_VAL = 0) : SameVerdict e (e.setMask m) := by
  simp [SameVerdict, PartitionEntry.successful, PartitionEntry.unbootable, Bits.test,
    PartitionEntry.setMask, Bits.or_and_of_disjoint hs, Bits.or_and_of_disjoint hu]

theorem sameVerdict_clearMask (hs : m &&& PART_ATT_SUCCESSFUL_VAL = 0)
    (hu : m &&& PART_ATT_UNBOOTABLE_VAL = 0) : SameVerdict e (e.clearMask m) := by
  simp [SameVerdict, PartitionEntry.successful, PartitionEntry.unbootable, Bits.test,
    PartitionEntry.clearMask, Bits.andNot_and_of_disjoint hs, Bits.andNot_and_of_disjoint hu]

theorem field_le (a v : BitVec 64) (k : Nat) : ((a &&& v) >>> k).toNat ≤ v.toNat / 2 ^ k := by
  rw [BitVec.toNat_ushiftRight, Nat.shiftRight_eq_div_pow, BitVec.toNat_and]
  exact Nat.div_le_div_right Nat.and_le_right

theorem priority_le (e : PartitionEntry) : e.priority ≤ MAX_PRIORITY :=
  Nat.le_trans (field_le _ _ _) (by decide)

theorem useRetry_mask {v : BitVec 64} (hv : v &&& PART_ATT_MAX_RETRY_COUNT_VAL = 0)
    (h : e.retryCount ≠ 0) : ((e.retryCount - 1) <<< PART_ATT_MAX_RETRY_CNT_BIT) &&& v = 0 := by
  have hlt : e.retryCount.toNat < 8 := Nat.lt_of_le_of_lt (field_le _ _ _) (by decide)
  -- seven values are left, and each of them has its bits inside the mask
  have hsub : ∀ k < 8, k ≠ 0 → ((BitVec.ofNat 64 k - 1) <<< PART_ATT_MAX_RETRY_CNT_BIT) =
      ((BitVec.ofNat 64 k - 1) <<< PART_ATT_MAX_RETRY_CNT_BIT) &&&
        PART_ATT_MAX_RETRY_COUNT_VAL := by
    decide
  have hk : e.retryCount.toNat ≠ 0 := fun h0 => h (BitVec.eq_of_toNat_eq h0)
  have hmask := hsub _ hlt hk
  rw [BitVec.ofNat_toNat, BitVec.setWidth_eq] at hmask
  rw [hmask, BitVec.and_assoc, BitVec.and_comm _ v, hv]
  exact BitVec.and_zero

theorem priority_useRetry (h : e.retryCount ≠ 0) : e.useRetry.priority = e.priority := by
  rw [PartitionEntry.useRetry, priority_setMask (useRetry_mask (by decide) h),
    priority_clearMask (by decide)]

theorem active_useRetry (h : e.retryCount ≠ 0) : e.useRetry.active = e.active := by
  rw [PartitionEntry.useRetry, active_setMask (useRetry_mask (by decide) h),
    active_clearMask (by decide)]

theorem sameVerdict_useRetry (h : e.retryCount ≠ 0) : SameVerdict e e.useRetry := by
  obtain ⟨hs, hu⟩ := sameVerdict_setMask
    (e := e.clearMask PART_ATT_MAX_RETRY_COUNT_VAL) (useRetry_mask (by decide) h)
    (useRetry_mask (by decide) h)
  obtain ⟨hs', hu'⟩ := sameVerdict_clearMask (e := e) (m := PART_ATT_MAX_RETRY_COUNT_VAL)
    (by decide) (by decide)
  exact ⟨hs.trans hs', hu.trans hu'⟩

theorem priority_markActive (suffix : Text) : (markActive suffix e).priority = e.priority := by
  unfold markActive
  split
  · exact priority_setMask (by decide)
  · exact priority_clearMask (by decide)

theorem active_markActive (suffix : Text) :
    (markActive suffix e).active = suffix.isSuffixOf e.partitionName := by
  unfold markActive
  split
  case isTrue h =>
    have hset : (e.setMask PART_ATT_ACTIVE_VAL).attributes &&& PART_ATT_ACTIVE_VAL =
        PART_ATT_ACTIVE_VAL := Bits.or_and_of_le (by decide) _
    rw [PartitionEntry.active, Bits.test, hset, h]
    decide
  case isFalse h =>
    have hclear : (e.clearMask PART_ATT_ACTIVE_VAL).attributes &&& PART_ATT_ACTIVE_VAL = 0 :=
      Bits.andNot_and_of_le (by decide) _
    rw [PartitionEntry.active, Bits.test, hclear, eq_false_of_ne_true h]
    decide

theorem sameVerdict_markActive (suffix : Text) : SameVerdict e (markActive suffix e) := by
  unfold markActive
  split
  · exact sameVerdict_setMask (by decide) (by decide)
  · exact sameVerdict_clearMask (by decide) (by decide)

theorem successful_firstBootSlot : e.firstBootSlot.successful = false := by
  have hset := (sameVerdict_setMask (m := PART_ATT_PRIORITY_VAL ||| PART_ATT_ACTIVE_VAL |||
    PART_ATT_MAX_RETRY_COUNT_VAL) (e := (e.clearMask PART_ATT_SUCCESSFUL_VAL).clearMask
      PART_ATT_UNBOOTABLE_VAL) (by decide) (by decide)).1
  rw [PartitionEntry.firstBootSlot, hset]
  simp only [PartitionEntry.successful, Bits.test, PartitionEntry.clearMask,
    Bits.andNot_and_of_disjoint (show PART_ATT_UNBOOTABLE_VAL &&& PART_ATT_SUCCESSFUL_VAL = 0
      by decide), Bits.andNot_and_of_le BitVec.and_self]
  rfl

theorem firstBootSlot_rank : e.firstBootSlot.active = true ∧ e.firstBootSlot.priority = 3 := by
  constructor
  · have hset : e.firstBootSlot.attributes &&& PART_ATT_ACTIVE_VAL = PART_ATT_ACTIVE_VAL :=
      Bits.or_and_of_le (by decide) _
    rw [PartitionEntry.active, Bits.test, hset]
    decide
  · have hset : e.firstBootSlot.attributes &&& PART_ATT_PRIORITY_VAL = PART_ATT_PRIORITY_VAL :=
      Bits.or_and_of_le (by decide) _
    rw [PartitionEntry.priority, hset]
    decide

end Attributes

/-! ### Looking up the active slot -/

section ActiveSlot

variable {env : SlotEnv} {s : SlotState} {suffix : Text} {a b e : PartitionEntry}

def chooseSlot (a b : PartitionEntry) : Text :=
  let first := if a.active && decide (a.priority > 0) then (slotA, a.priority) else ([], 0)
  if b.active && decide (b.priority > first.2) then slotB else first.1

theorem scanSlots_entries (ha : bootEntry env s slotA = some a)
    (hb : bootEntry env s slotB = some b) :
    scanSlots env s.ptnEntries [] 0 [slotA, slotB] = (EFI_SUCCESS, chooseSlot a b) := by
  unfold bootEntry at ha hb
  simp only [scanSlots, ha, hb, chooseSlot]
  by_cases hactive : (a.active && decide (a.priority > 0)) = true
  · rw [if_pos hactive, if_pos hactive]
    split <;> rfl
  · rw [if_neg hactive, if_neg hactive]
    split <;> rfl

theorem scanSlots_success (h : (scanSlots env s.ptnEntries [] 0 [slotA, slotB]).1 = EFI_SUCCESS) :
    ∃ a b, bootEntry env s slotA = some a ∧ bootEntry env s slotB = some b := by
  cases ha : bootEntry env s slotA with
  | none =>
    unfold bootEntry at ha
    simp only [scanSlots, ha] at h
    exact absurd h (by decide)
  | some a =>
    cases hb : bootEntry env s slotB with
    | none =>
      unfold bootEntry at ha hb
      simp only [scanSlots, ha, hb] at h
      split at h <;> exact absurd h (by decide)
    | some b => exact ⟨a, b, rfl, rfl⟩

/-- Slot `_a` is set up as the default: nothing is active, and it was never used. -/
def setsDefault (env : SlotEnv) (s : SlotState) : Bool :=
  scanSlots env s.ptnEntries [] 0 [slotA, slotB] == (EFI_SUCCESS, []) &&
    (!env.atomicAB && !env.recoveryInfo) && (bootEntry env s slotA).any PartitionEntry.neverUsed

def activeResult (env : SlotEnv) (s : SlotState) : EfiStatus × Text :=
  let scan := scanSlots env s.ptnEntries [] 0 [slotA, slotB]
  if scan.1 ≠ EFI_SUCCESS then scan
  else if env.atomicAB then getAtomicABActiveSlot env s scan.2
  else if scan.2 ≠ [] then scan
  else if env.recoveryInfo then riGetActiveSlot env scan.2
  else if (bootEntry env s slotA).any PartitionEntry.neverUsed then (EFI_SUCCESS, slotA)
  else (EFI_NOT_FOUND, [])

def settle (env : SlotEnv) (s : SlotState) : SlotState :=
  if setsDefault env s then
    match getBootPartitionEntry env s.ptnEntries slotA with
    | none => s
    | some i => { s.updateEntry i PartitionEntry.firstBootSlot with firstBoot := true }
  else s

theorem exec_getActiveSlot (env : SlotEnv) (s : SlotState) :
    (getActiveSlot env).exec s = (.ok (activeResult env s), settle env s) := by
  simp only [getActiveSlot, exec_bind, exec_get, activeResult, settle, setsDefault]
  obtain ⟨status, suffix, hscan⟩ : ∃ status suffix,
      scanSlots env s.ptnEntries [] 0 [slotA, slotB] = (status, suffix) := ⟨_, _, rfl⟩
  simp only [hscan]
  by_cases hstatus : status = EFI_SUCCESS
  · subst hstatus
    cases hatomic : env.atomicAB
    · by_cases hsuffix : suffix = []
      · subst hsuffix
        cases hri : env.recoveryInfo
        · -- the first-boot default is the only branch that writes
          cases hi : getBootPartitionEntry env s.ptnEntries slotA with
          | none => simp [bootEntry, hi]
          | some i =>
            by_cases hdef : (s.ptnEntries[i]?.any PartitionEntry.neverUsed) = true
            · simp [bootEntry, hi, hdef, exec_bind, -bind_pure_comp]
            · simp [bootEntry, hi, hdef]
        · simp
      · simp [hsuffix]
    · simp
  · simp [hstatus]

variable {E : Exit → SlotState → Prop}

theorem wp_getActiveSlot {Q : EfiStatus × Text → SlotState → Prop} :
    wp (getActiveSlot env) Q E s ↔ Q (activeResult env s) (settle env s) := by
  rw [wp, exec_getActiveSlot]

theorem chooseSlot_firstBoot : chooseSlot a.firstBootSlot b = slotA := by
  obtain ⟨hactive, hprio⟩ := firstBootSlot_rank (e := a)
  have hb : ¬ b.priority > 3 := Nat.not_lt.mpr (priority_le b)
  simp [chooseSlot, hactive, hprio, hb]

theorem settle_eq_of_not (h : setsDefault env s = false) : settle env s = s := by
  rw [settle, h]
  rfl

theorem settle_cases (env : SlotEnv) (s : SlotState) : settle env s = s ∨
    ∃ i, settle env s =
      { s.updateEntry i PartitionEntry.firstBootSlot with firstBoot := true } := by
  unfold settle
  split
  · split
    · exact .inl rfl
    · exact .inr ⟨_, rfl⟩
  · exact .inl rfl

/-- The slot is the active one, and a lookup leaves the table as it is. -/
structure ActiveAt (env : SlotEnv) (s : SlotState) (suffix : Text) : Prop where
  active : activeResult env s = (EFI_SUCCESS, suffix)
  settled : settle env s = s

theorem ActiveAt.ok (h : ActiveAt env s suffix) : (activeResult env s).1 = EFI_SUCCESS :=
  congrArg Prod.fst h.active

/-- What is found when slot `_a` is set up as the default, and what is left. -/
structure DefaultSet (env : SlotEnv) (s : SlotState) (a b : PartitionEntry) : Prop where
  entryA : bootEntry env s slotA = some a
  entryB : bootEntry env s slotB = some b
  choose : chooseSlot a b = []
  unused : a.neverUsed = true
  atomicAB : env.atomicAB = false
  active : activeResult env s = (EFI_SUCCESS, slotA)
  settledA : bootEntry env (settle env s) slotA = some a.firstBootSlot
  settledB : bootEntry env (settle env s) slotB = some b

theorem setsDefault_cases (h : setsDefault env s = true) : ∃ a b, DefaultSet env s a b := by
  have hsets := h
  simp only [setsDefault, Bool.and_eq_true, beq_iff_eq, Bool.not_eq_true'] at h
  obtain ⟨⟨hscan, hatomic, hri⟩, hdef⟩ := h
  obtain ⟨a, b, ha, hb⟩ := scanSlots_success (congrArg Prod.fst hscan)
  obtain ⟨i, hi, -⟩ := Option.bind_eq_some_iff.mp ha
  obtain ⟨j, hj, -⟩ := Option.bind_eq_some_iff.mp hb
  rw [scanSlots_entries ha hb, Prod.mk.injEq] at hscan
  rw [ha] at hdef
  have hs : settle env s =
      { s.updateEntry i PartitionEntry.firstBootSlot with firstBoot := true } := by
    rw [settle, hsets, hi]
    rfl
  have hself := bootEntry_updateEntry_self keepsName_firstBootSlot hi
  have hother := bootEntry_updateEntry_ne keepsName_firstBootSlot hj (bootIndex_ne hi hj)
  rw [ha] at hself
  rw [hb] at hother
  refine ⟨a, b, ha, hb, hscan.2, hdef, hatomic, ?_, ?_, ?_⟩
  · simp [activeResult, scanSlots_entries ha hb, hatomic, hscan.2, hri, ha, hdef]
  · rw [hs]
    exact hself
  · rw [hs]
    exact hother

theorem bootEntry_settle_slotB : bootEntry env (settle env s) slotB = bootEntry env s slotB := by
  cases h : setsDefault env s with
  | false => rw [settle_eq_of_not h]
  | true =>
    obtain ⟨a, b, hdef⟩ := setsDefault_cases h
    rw [hdef.settledB, hdef.entryB]

theorem activeAt_of_choose (hatomic : env.atomicAB = false)
    (ha : bootEntry env s slotA = some a) (hb : bootEntry env s slotB = some b)
    (h : chooseSlot a b = suffix) (hne : suffix ≠ []) : ActiveAt env s suffix := by
  constructor
  · simp [activeResult, scanSlots_entries ha hb, hatomic, h, hne]
  · refine settle_eq_of_not ?_
    simp [setsDefault, scanSlots_entries ha hb, h, hne]

theorem activeResult_settle (env : SlotEnv) (s : SlotState) :
    activeResult env (settle env s) = activeResult env s ∧
      settle env (settle env s) = settle env s := by
  cases h : setsDefault env s with
  | false =>
    rw [settle_eq_of_not h]
    exact ⟨rfl, settle_eq_of_not h⟩
  | true =>
    obtain ⟨a, b, hdef⟩ := setsDefault_cases h
    have hat := activeAt_of_choose hdef.atomicAB hdef.settledA hdef.settledB chooseSlot_firstBoot
      (by decide)
    exact ⟨hat.active.trans hdef.active.symm, hat.settled⟩

theorem activeAt_settle (h : activeResult env s = (EFI_SUCCESS, suffix)) :
    ActiveAt env (settle env s) suffix :=
  ⟨(activeResult_settle env s).1.trans h, (activeResult_settle env s).2⟩

theorem slotBootable_settle (env : SlotEnv) (s : SlotState) :
    slotBootable env (settle env s) (activeResult env s).2 =
      slotBootable env s (activeResult env s).2 := by
  cases h : setsDefault env s with
  | false => rw [settle_eq_of_not h]
  | true =>
    obtain ⟨a, b, hdef⟩ := setsDefault_cases h
    have hnever : a.successful = false := by
      have hunused := hdef.unused
      simp only [PartitionEntry.neverUsed, Bool.and_eq_true, Bool.not_eq_true'] at hunused
      exact hunused.1.1.2
    rw [hdef.active, slotBootable, slotBootable, hdef.settledA, hdef.entryA]
    simp [hnever, successful_firstBootSlot]

def activeSlotBootable (env : SlotEnv) (s : SlotState) : Bool :=
  (activeResult env s).1 == EFI_SUCCESS && slotBootable env s (activeResult env s).2

theorem exec_isCurrentSlotBootable (env : SlotEnv) (s : SlotState) :
    (isCurrentSlotBootable env).exec s = (.ok (activeSlotBootable env s), settle env s) := by
  simp only [isCurrentSlotBootable, exec_bind, exec_getActiveSlot, activeSlotBootable]
  rw [← slotBootable_settle]
  by_cases hok : (activeResult env s).1 = EFI_SUCCESS
  · simp only [hok, ne_eq, not_true_eq_false, if_false, exec_bind, exec_get,
      slotBootable]
    cases bootEntry env (settle env s) (activeResult env s).2 with
    | none => rfl
    | some e => simp
  · simp [hok]

theorem wp_isCurrentSlotBootable {Q : Bool → SlotState → Prop} :
    wp (isCurrentSlotBootable env) Q E s ↔ Q (activeSlotBootable env s) (settle env s) := by
  rw [wp, exec_isCurrentSlotBootable]

def Settled (env : SlotEnv) (s s' : SlotState) : Prop := s' = s ∨ s' = settle env s

instance : Std.Refl (Settled env) where
  refl _ := .inl rfl

instance : IsTrans SlotState (Settled env) where
  trans s s' s'' h h' := by
    obtain rfl | rfl := h
    · exact h'
    · obtain rfl | rfl := h'
      · exact .inr rfl
      · exact .inr (activeResult_settle env s).2

theorem Settled.activeResult (h : Settled env s s') :
    activeResult env s' = OhMyAbl.activeResult env s := by
  obtain rfl | rfl := h
  · rfl
  · exact (activeResult_settle env s).1

theorem Settled.activeSlotBootable (h : Settled env s s') :
    activeSlotBootable env s' = OhMyAbl.activeSlotBootable env s := by
  obtain rfl | rfl := h
  · rfl
  · rw [OhMyAbl.activeSlotBootable, OhMyAbl.activeSlotBootable, (activeResult_settle env s).1,
      slotBootable_settle]

theorem getCurrentSlotSuffix_steps (env : SlotEnv) :
    Steps (Settled env) (getCurrentSlotSuffix env) := by
  refine .bind .get fun s => .ite (.bind (fun s => ?_) fun _ => .pure _) (.pure _)
  rw [exec_getActiveSlot]
  exact .inr rfl

end ActiveSlot

/-! ### Giving up on the active slot -/

section Unbootable

variable {env : SlotEnv} {s s' : SlotState} {suffix : Text} {a b a' b' e : PartitionEntry}

def otherSlotBootable (env : SlotEnv) (s : SlotState) (suffix : Text) : Bool :=
  slotBootable env s (alternateSlot suffix)

def SameRank (e e' : PartitionEntry) : Prop :=
  e'.active = e.active ∧ e'.priority = e.priority

theorem chooseSlot_sameRank (ha : SameRank a a') (hb : SameRank b b') :
    chooseSlot a' b' = chooseSlot a b := by
  simp [chooseSlot, ha.1, ha.2, hb.1, hb.2]

theorem activeResult_success (h : (activeResult env s).1 = EFI_SUCCESS) :
    ∃ a b, bootEntry env s slotA = some a ∧ bootEntry env s slotB = some b := by
  refine scanSlots_success ?_
  by_contra hscan
  rw [activeResult, if_pos hscan] at h
  exact hscan h

theorem scanSlots_suffix (env : SlotEnv) (entries : List PartitionEntry) (slots : List Text)
    (suffix : Text) (priority : Nat) :
    (scanSlots env entries suffix priority slots).2 = suffix ∨
      (scanSlots env entries suffix priority slots).2 ∈ slots := by
  induction slots generalizing suffix priority with
  | nil => exact .inl rfl
  | cons slot rest ih =>
    unfold scanSlots
    split
    · exact .inl rfl
    split
    · refine .inr ?_
      rcases ih slot _ with h | h
      · rw [h]
        exact List.mem_cons_self
      · exact List.mem_cons_of_mem _ h
    · rcases ih suffix priority with h | h
      · exact .inl h
      · exact .inr (List.mem_cons_of_mem _ h)

theorem activeResult_cases (env : SlotEnv) (s : SlotState) :
    (activeResult env s).2 = [] ∨ (activeResult env s).2 = slotA ∨
      (activeResult env s).2 = slotB := by
  have hscan := scanSlots_suffix env s.ptnEntries [slotA, slotB] [] 0
  generalize hx : (scanSlots env s.ptnEntries [] 0 [slotA, slotB]).2 = x at hscan
  simp only [List.mem_cons, List.not_mem_nil, or_false] at hscan
  simp only [activeResult, getAtomicABActiveSlot, riGetActiveSlot]
  split_ifs <;> simp [hx, hscan]

theorem activeResult_suffix (h : activeResult env s = (EFI_SUCCESS, suffix)) (hne : suffix ≠ []) :
    IsSlot suffix := by
  have hcases := activeResult_cases env s
  rw [h] at hcases
  exact hcases.resolve_left hne

section

variable (h : ActiveAt env s suffix) (ha : bootEntry env s slotA = some a)
  (hb : bootEntry env s slotB = some b)
include h ha hb

theorem ActiveAt.chosen : env.atomicAB = true ∨ env.recoveryInfo = true ∨ chooseSlot a b ≠ [] := by
  by_contra hcon
  simp only [not_or, not_not] at hcon
  obtain ⟨hatomic, hri, hchoose⟩ := hcon
  have hscan := scanSlots_entries ha hb
  rw [hchoose] at hscan
  have hnever : a.neverUsed = true := by
    by_contra hnever
    have hok := h.ok
    simp only [activeResult, hscan, if_false, hatomic, Bool.false_eq_true, hri, ha, Option.any_some,
      hnever] at hok
    exact absurd hok (by decide)
  have hdef : setsDefault env s = true := by
    simp [setsDefault, hscan, hatomic, hri, ha, hnever]
  -- the default slot is active, but the table is as before
  obtain ⟨a₁, b₁, hdef⟩ := setsDefault_cases hdef
  have hentry := hdef.settledA
  rw [h.settled, hdef.entryA, Option.some.injEq] at hentry
  have hunused := hdef.unused
  rw [hentry] at hunused
  simp [PartitionEntry.neverUsed, firstBootSlot_rank.1] at hunused

theorem ActiveAt.sameRank (ha' : bootEntry env s' slotA = some a')
    (hb' : bootEntry env s' slotB = some b') (hra : SameRank a a') (hrb : SameRank b b')
    (hlun : s'.ufsBootLun = s.ufsBootLun) : ActiveAt env s' suffix := by
  have hscan := scanSlots_entries ha hb
  have hscan' := scanSlots_entries ha' hb'
  rw [chooseSlot_sameRank hra hrb] at hscan'
  have hget : ufsGetBootLun env s' = ufsGetBootLun env s := by
    unfold ufsGetBootLun
    rw [hlun]
  have hatomic : ∀ suffix, getAtomicABActiveSlot env s' suffix =
      getAtomicABActiveSlot env s suffix := by
    intro suffix
    unfold getAtomicABActiveSlot
    rw [hget]
  obtain h' | h' | h' := h.chosen ha hb
  all_goals
    refine ⟨Eq.trans ?_ h.active, settle_eq_of_not ?_⟩
    · simp only [activeResult, hscan, hscan', hatomic, h', if_true, ne_eq, not_false_eq_true]
    · simp [setsDefault, hscan', h']

end

theorem bootIndex_settle :
    getBootPartitionEntry env (settle env s).ptnEntries suffix =
      getBootPartitionEntry env s.ptnEntries suffix := by
  obtain hs | ⟨i, hs⟩ := settle_cases env s
  · rw [hs]
  · rw [hs]
    exact getBootPartitionEntry_names (names_modify keepsName_firstBootSlot _ i)

theorem alternateSlot_cases (h : IsSlot suffix) :
    (suffix = slotA ∧ alternateSlot suffix = slotB) ∨
      (suffix = slotB ∧ alternateSlot suffix = slotA) := by
  obtain rfl | rfl := h
  · exact .inl ⟨rfl, by decide⟩
  · exact .inr ⟨rfl, by decide⟩

theorem alternateSlot_slot (h : IsSlot suffix) :
    alternateSlot suffix = slotA ∨ alternateSlot suffix = slotB := by
  obtain ⟨-, h⟩ | ⟨-, h⟩ := alternateSlot_cases h
  · exact .inr h
  · exact .inl h

theorem bootEntry_settle_alternate (h : activeResult env s = (EFI_SUCCESS, suffix)) :
    bootEntry env (settle env s) (alternateSlot suffix) =
      bootEntry env s (alternateSlot suffix) := by
  cases hdef : setsDefault env s with
  | false => rw [settle_eq_of_not hdef]
  | true =>
    obtain ⟨a, b, hdef⟩ := setsDefault_cases hdef
    obtain rfl : slotA = suffix := congrArg Prod.snd (hdef.active.symm.trans h)
    exact bootEntry_settle_slotB

variable {i : Nat}

theorem bootIndex_alternate {j : Nat} (hslot : IsSlot suffix)
    (hi : getBootPartitionEntry env s.ptnEntries suffix = some i)
    (hj : getBootPartitionEntry env s.ptnEntries (alternateSlot suffix) = some j) : i ≠ j := by
  obtain ⟨rfl, halt⟩ | ⟨rfl, halt⟩ := alternateSlot_cases hslot
  · exact bootIndex_ne hi hj
  · exact (bootIndex_ne hj hi).symm

theorem bootIndex_exists (h : (activeResult env s).1 = EFI_SUCCESS) (hslot : IsSlot suffix) :
    ∃ i e, getBootPartitionEntry env s.ptnEntries suffix = some i ∧ s.ptnEntries[i]? = some e ∧
      bootEntry env s suffix = some e := by
  obtain ⟨a, b, ha, hb⟩ := activeResult_success h
  obtain rfl | rfl := hslot
  · obtain ⟨i, hi, he⟩ := Option.bind_eq_some_iff.mp ha
    exact ⟨i, a, hi, he, ha⟩
  · obtain ⟨i, hi, he⟩ := Option.bind_eq_some_iff.mp hb
    exact ⟨i, b, hi, he, hb⟩

theorem setActiveSlot_returns {newSlot : Text} (reset : Bool)
    (hok : (activeResult env s).1 = EFI_SUCCESS) (hslot : IsSlot newSlot) :
    ∃ t, (setActiveSlot env newSlot reset).exec s = (.ok EFI_SUCCESS, t) := by
  obtain ⟨i, -, hi, -⟩ := bootIndex_exists hok hslot
  obtain ⟨j, -, hj, -⟩ := bootIndex_exists hok (alternateSlot_slot hslot)
  rw [← bootIndex_settle] at hi hj
  simp only [setActiveSlot, exec_bind, exec_getActiveSlot, hok, ne_eq, not_true_eq_false, if_false,
    exec_get, hi, hj, exec_modify, exec_pure]
  exact ⟨_, rfl⟩

theorem ActiveAt.updateEntry {f : PartitionEntry → PartitionEntry} (h : ActiveAt env s suffix)
    (hf : KeepsName f) (hslot : IsSlot suffix)
    (hi : getBootPartitionEntry env s.ptnEntries suffix = some i)
    (he : bootEntry env s suffix = some e) (hrank : SameRank e (f e)) :
    ActiveAt env (s.updateEntry i f) suffix ∧
      bootEntry env (s.updateEntry i f) (alternateSlot suffix) =
        bootEntry env s (alternateSlot suffix) := by
  obtain ⟨j, e', hj, -, he'⟩ := bootIndex_exists h.ok (alternateSlot_slot hslot)
  have hself := bootEntry_updateEntry_self hf hi
  have hother := bootEntry_updateEntry_ne hf hj (bootIndex_alternate hslot hi hj)
  rw [he, Option.map_some] at hself
  refine ⟨?_, hother⟩
  rw [he'] at hother
  obtain ⟨rfl, halt⟩ | ⟨rfl, halt⟩ := alternateSlot_cases hslot
  · exact h.sameRank he he' hself hother hrank ⟨rfl, rfl⟩ rfl
  · exact h.sameRank he' he hother hself ⟨rfl, rfl⟩ hrank rfl

theorem exec_bootAlternateSlot (hres : activeResult env s = (EFI_SUCCESS, suffix))
    (hslot : IsSlot suffix) :
    (bootAlternateSlot env suffix false).exec s =
      if otherSlotBootable env s suffix then
        (.error .reboot, ((setActiveSlot env (alternateSlot suffix) false).exec s).2)
      else (.ok EFI_LOAD_ERROR, s) := by
  have hok : (activeResult env s).1 = EFI_SUCCESS := congrArg Prod.fst hres
  obtain ⟨-, e, -, -, he⟩ := bootIndex_exists hok (alternateSlot_slot hslot)
  obtain ⟨t, hset⟩ := setActiveSlot_returns false hok (alternateSlot_slot hslot)
  have hboot : otherSlotBootable env s suffix = (!e.unbootable && e.successful) := by
    simp [otherSlotBootable, slotBootable, he]
  rw [hboot]
  simp only [bootAlternateSlot, exec_bind, exec_get, he, Bool.or_false]
  split
  · simp only [exec_bind, hset, ne_eq, not_true_eq_false, if_false, exec_throw]
  · rfl

/-- The table on which the other slot is looked at: the slot is marked, or spared on the first
    boot. -/
inductive Marked (env : SlotEnv) (s : SlotState) (suffix : Text) : SlotState → Prop where
  | spared : Marked env s suffix { s with firstBoot := false }
  | unbootable {i : Nat} : getBootPartitionEntry env s.ptnEntries suffix = some i →
      Marked env s suffix (s.updateEntry i (·.setMask PART_ATT_UNBOOTABLE_VAL))

theorem Marked.frame (h : Marked env s suffix s') (hat : ActiveAt env s suffix)
    (hslot : IsSlot suffix) : ActiveAt env s' suffix ∧
      bootEntry env s' (alternateSlot suffix) = bootEntry env s (alternateSlot suffix) := by
  cases h with
  | spared =>
    obtain ⟨a, b, ha, hb⟩ := activeResult_success hat.ok
    exact ⟨hat.sameRank ha hb ha hb ⟨rfl, rfl⟩ ⟨rfl, rfl⟩ rfl, rfl⟩
  | unbootable hi =>
    obtain ⟨-, e, -, -, he⟩ := bootIndex_exists hat.ok hslot
    exact hat.updateEntry (keepsName_setMask _) hslot hi he
      ⟨active_setMask (by decide), priority_setMask (by decide)⟩

/-- The slot is given up, and the way out is the other slot, if it can be booted. -/
theorem exec_handleActiveSlotUnbootable (hres : activeResult env s = (EFI_SUCCESS, suffix))
    (hslot : IsSlot suffix) :
    ∃ t, Marked env (settle env s) suffix t ∧ (handleActiveSlotUnbootable env false).exec s =
      if otherSlotBootable env s suffix then
        (.error .reboot, ((setActiveSlot env (alternateSlot suffix) false).exec t).2)
      else (.ok EFI_LOAD_ERROR, t) := by
  have hat := activeAt_settle hres
  obtain ⟨i, -, hi, -⟩ := bootIndex_exists hat.ok hslot
  obtain ⟨t, hmarked, hexec⟩ : ∃ t, Marked env (settle env s) suffix t ∧
      (handleActiveSlotUnbootable env false).exec s =
        (bootAlternateSlot env suffix false).exec t := by
    simp only [handleActiveSlotUnbootable, exec_bind, exec_getActiveSlot, hres, ne_eq,
      not_true_eq_false, if_false, exec_get, hi]
    split
    · exact ⟨_, .spared, rfl⟩
    · exact ⟨_, .unbootable hi, rfl⟩
  obtain ⟨hat', hentry⟩ := hmarked.frame hat hslot
  have hboot : otherSlotBootable env t suffix = otherSlotBootable env s suffix := by
    simp [otherSlotBootable, slotBootable, hentry, bootEntry_settle_alternate hres]
  refine ⟨t, hmarked, ?_⟩
  rw [hexec, exec_bootAlternateSlot hat'.active hslot, hboot]

end Unbootable

/-! ### Choosing the slot to boot -/

section Bootable

variable {env : SlotEnv} {s s' : SlotState} {suffix : Text} {a b e : PartitionEntry}

def slotSelectable (env : SlotEnv) (s : SlotState) : Bool :=
  let active := activeResult env s
  active.1 == EFI_SUCCESS && !active.2.isEmpty && (env.recoveryInfo ||
    ((bootEntry env (settle env s) active.2).any
        (fun e => !e.unbootable && (e.successful || e.retryCount != 0)) &&
      (env.rootDeviceType == .NAND ||
        validateSlotGuids env (settle env s) active.2 == EFI_SUCCESS)))

/-- The table after a slot was chosen: it is the active slot, and both slots are as bootable
    as they were. -/
structure SlotChosen (env : SlotEnv) (s s' : SlotState) (suffix : Text) : Prop
    extends ActiveAt env s' suffix where
  current : slotBootable env s' suffix = slotBootable env s suffix
  other : otherSlotBootable env s' suffix = otherSlotBootable env s suffix

theorem eq_of_take {name const : Text} (hlen : const.length < 36)
    (h : name.take 36 = const.take 36) : name = const := by
  have hlength := congrArg List.length h
  simp only [List.length_take] at hlength
  rw [List.take_of_length_le (by omega), List.take_of_length_le (by omega)] at h
  exact h

theorem isSuffixOf_bootName (hri : env.recoveryInfo = false)
    (hslot : IsSlot suffix) (he : bootEntry env s suffix = some e) :
    suffix.isSuffixOf e.partitionName = true ∧
      (alternateSlot suffix).isSuffixOf e.partitionName = false := by
  have hname := bootEntry_name hslot he
  obtain rfl | rfl := hslot
  · have hboot : bootName env slotA = wide "boot_a" := by simp [bootName, hri]; decide
    rw [hboot] at hname
    rw [eq_of_take (by decide) hname]
    decide
  · have hboot : bootName env slotB = wide "boot_b" := by simp [bootName]
    rw [hboot] at hname
    rw [eq_of_take (by decide) hname]
    decide

theorem chooseSlot_slotA (h : chooseSlot a b = slotA) : a.active = true ∧ a.priority > 0 := by
  have hne : slotB ≠ slotA := by decide
  have hnil : ([] : Text) ≠ slotA := by decide
  simp only [chooseSlot] at h
  split_ifs at h with h₁ h₂ h₃ <;> simp_all

theorem chooseSlot_slotB (h : chooseSlot a b = slotB) : b.active = true ∧ b.priority > 0 := by
  have hne : slotA ≠ slotB := by decide
  have hnil : ([] : Text) ≠ slotB := by decide
  simp only [chooseSlot] at h
  split_ifs at h with h₁ h₂ h₃ <;> simp_all
  omega

/-- Without recovery info and atomic updates the scan has found the slot. -/
theorem ActiveAt.choose (h : ActiveAt env s suffix) (hri : env.recoveryInfo = false)
    (hatomic : env.atomicAB = false) (ha : bootEntry env s slotA = some a)
    (hb : bootEntry env s slotB = some b) : chooseSlot a b = suffix ∧ suffix ≠ [] := by
  obtain h' | h' | hchoose := h.chosen ha hb
  · exact absurd (hatomic.symm.trans h') (by decide)
  · exact absurd (hri.symm.trans h') (by decide)
  · have heq := (activeAt_of_choose hatomic ha hb rfl hchoose).active
    rw [h.active, Prod.mk.injEq] at heq
    exact ⟨heq.2.symm, heq.2 ▸ hchoose⟩

theorem chooseSlot_mark (hri : env.recoveryInfo = false) (hslot : IsSlot suffix)
    (ha : bootEntry env s slotA = some a) (hb : bootEntry env s slotB = some b)
    (h : chooseSlot a b = suffix) :
    chooseSlot (markActive suffix a) (markActive suffix b) = suffix := by
  have hA := isSuffixOf_bootName hri (.inl rfl) ha
  have hB := isSuffixOf_bootName hri (.inr rfl) hb
  obtain ⟨rfl, halt⟩ | ⟨rfl, halt⟩ := alternateSlot_cases hslot
  · have hprio := (chooseSlot_slotA h).2
    have haltB : alternateSlot slotB = slotA := by decide
    rw [haltB] at hB
    simp [chooseSlot, active_markActive, priority_markActive, hA.1, hB.2, hprio]
  · have hprio := (chooseSlot_slotB h).2
    have haltA : alternateSlot slotA = slotB := by decide
    rw [haltA] at hA
    simp [chooseSlot, active_markActive, priority_markActive, hA.2, hB.1, hprio]

theorem getAtomicABActiveSlot_success {x : Text} (y : Text)
    (h : getAtomicABActiveSlot env s x = (EFI_SUCCESS, suffix)) :
    getAtomicABActiveSlot env s y = (EFI_SUCCESS, suffix) := by
  simp only [getAtomicABActiveSlot] at h ⊢
  split_ifs at h ⊢ with h₁ h₂ h₃ h₄
  · exact absurd (congrArg Prod.fst h) h₂
  · exact h
  · exact h
  · exact absurd (congrArg Prod.fst h) (show EFI_DEVICE_ERROR ≠ EFI_SUCCESS by decide)
  · exact absurd (congrArg Prod.fst h) (show EFI_UNSUPPORTED ≠ EFI_SUCCESS by decide)

theorem ActiveAt.mark (h : ActiveAt env s suffix) (hri : env.recoveryInfo = false)
    (hslot : IsSlot suffix) : ActiveAt env (markPtnActive suffix s) suffix := by
  obtain ⟨a, b, ha, hb⟩ := activeResult_success h.ok
  have ha' : bootEntry env (markPtnActive suffix s) slotA = some (markActive suffix a) := by
    rw [bootEntry_markPtnActive, ha, Option.map_some]
  have hb' : bootEntry env (markPtnActive suffix s) slotB = some (markActive suffix b) := by
    rw [bootEntry_markPtnActive, hb, Option.map_some]
  cases hatomic : env.atomicAB with
  | true =>
    have hres := h.active
    refine ⟨?_, settle_eq_of_not (by simp [setsDefault, hatomic])⟩
    simp only [activeResult, scanSlots_entries ha hb, scanSlots_entries ha' hb', hatomic] at hres ⊢
    exact getAtomicABActiveSlot_success _ hres
  | false =>
    obtain ⟨hchoose, hne⟩ := h.choose hri hatomic ha hb
    exact activeAt_of_choose hatomic ha' hb' (chooseSlot_mark hri hslot ha hb hchoose) hne

def KeepsGuids (s s' : SlotState) : Prop :=
  ∀ env suffix, validateSlotGuids env s' suffix = validateSlotGuids env s suffix

theorem keepsGuids_updateEntry {f : PartitionEntry → PartitionEntry} {i : Nat}
    (hf : KeepsName f) (hguid : ∀ e, (f e).partitionTypeGUID = e.partitionTypeGUID) :
    KeepsGuids s (s.updateEntry i f) := by
  intro env suffix
  have hget : ∀ k, (s.updateEntry i f).typeGuidAt k = s.typeGuidAt k := by
    intro k
    cases k with
    | none => rfl
    | some k =>
      simp only [SlotState.typeGuidAt, SlotState.updateEntry, Option.bind_some,
        List.getElem?_modify]
      cases s.ptnEntries[k]? with
      | none => rfl
      | some e => by_cases hik : i = k <;> simp [hik, hguid]
  have hnames := names_modify hf s.ptnEntries i
  have hboot : getBootPartitionEntry env (s.updateEntry i f).ptnEntries suffix =
      getBootPartitionEntry env s.ptnEntries suffix := getBootPartitionEntry_names hnames
  have habl : ∀ name, getPartitionIndex (s.updateEntry i f).ptnEntries name =
      getPartitionIndex s.ptnEntries name := fun name => getPartitionIndex_names name hnames
  simp only [validateSlotGuids, hget, hboot, habl]
  rfl

theorem SlotChosen.mark (hri : env.recoveryInfo = false) (h : ActiveAt env s suffix)
    (hslot : IsSlot suffix) : SlotChosen env s (markPtnActive suffix s) suffix := by
  have hmark : ∀ x, slotBootable env (markPtnActive suffix s) x = slotBootable env s x := by
    intro x
    simp only [slotBootable, bootEntry_markPtnActive]
    cases bootEntry env s x with
    | none => rfl
    | some e =>
      obtain ⟨hs, hu⟩ := sameVerdict_markActive (e := e) suffix
      simp [hs, hu]
  exact ⟨h.mark hri hslot, hmark _, hmark _⟩

theorem SlotChosen.of_verdicts {t : SlotState} (h : SlotChosen env t s' suffix)
    (hcurrent : slotBootable env t suffix = slotBootable env s suffix)
    (hother : otherSlotBootable env t suffix = otherSlotBootable env s suffix) :
    SlotChosen env s s' suffix :=
  ⟨h.toActiveAt, h.current.trans hcurrent, h.other.trans hother⟩

theorem otherSlotBootable_settle (hres : activeResult env s = (EFI_SUCCESS, suffix)) :
    otherSlotBootable env (settle env s) suffix = otherSlotBootable env s suffix := by
  simp [otherSlotBootable, slotBootable, bootEntry_settle_alternate hres]

theorem activeResult_nonempty (hri : env.recoveryInfo = false)
    (h : (activeResult env s).1 = EFI_SUCCESS) : (activeResult env s).2 ≠ [] := by
  obtain ⟨a, b, ha, hb⟩ := activeResult_success h
  simp only [activeResult, scanSlots_entries ha hb, hri, ne_eq, not_true_eq_false, if_false,
    Bool.false_eq_true] at h ⊢
  split_ifs at h ⊢ with hatomic hnone hnever
  · simp only [getAtomicABActiveSlot] at h ⊢
    split_ifs at h ⊢ with hufs hlun hone htwo
    · exact absurd h hlun
    · decide
    · decide
    · exact absurd h (show EFI_DEVICE_ERROR ≠ EFI_SUCCESS by decide)
    · exact absurd h (show EFI_UNSUPPORTED ≠ EFI_SUCCESS by decide)
  · decide
  · exact absurd h (show EFI_NOT_FOUND ≠ EFI_SUCCESS by decide)
  · exact hnone

theorem activeResult_slot (hri : env.recoveryInfo = false)
    (hok : (activeResult env s).1 = EFI_SUCCESS) : IsSlot (activeResult env s).2 :=
  activeResult_suffix (Prod.ext hok rfl) (activeResult_nonempty hri hok)

variable {x : Text} {t u : SlotState}

theorem slot_of_activeResult (hri : env.recoveryInfo = false)
    (h : activeResult env s = (EFI_SUCCESS, x)) : IsSlot x := by
  have hslot := activeResult_slot hri (congrArg Prod.fst h)
  rwa [h] at hslot

/-! ### One boot -/

def slotValid (env : SlotEnv) (s : SlotState) (x : Text) : Bool :=
  env.rootDeviceType == .NAND || validateSlotGuids env s x == EFI_SUCCESS

theorem slotValid_keepsGuids (h : KeepsGuids s u) : slotValid env u x = slotValid env s x := by
  simp [slotValid, h env x]

theorem exec_confirmSlot (env : SlotEnv) (s : SlotState) (x : Text) :
    (slotValid env s x = true ∧
        (confirmSlot env x).exec s = (.ok (EFI_SUCCESS, x), markPtnActive x s)) ∨
      (slotValid env s x = false ∧
        ∃ status, status ≠ EFI_SUCCESS ∧ (confirmSlot env x).exec s = (.ok (status, []), s)) := by
  by_cases hnand : env.rootDeviceType = .NAND
  · left
    simp only [slotValid, confirmSlot, hnand]
    exact ⟨rfl, rfl⟩
  · by_cases hguid : validateSlotGuids env s x = EFI_SUCCESS
    · left
      refine ⟨by simp [slotValid, hguid], ?_⟩
      simp only [confirmSlot, exec_bind, exec_get, hguid, ite_self, ne_eq,
        not_true_eq_false, if_false, exec_modify, exec_pure]
    · right
      refine ⟨by simp [slotValid, hnand, hguid], validateSlotGuids env s x, hguid, ?_⟩
      simp [confirmSlot, exec_bind, hnand, hguid]

def countsRetries (env : SlotEnv) : Bool :=
  !env.abRetryCountDisabled && !env.bootDevImage && env.abRetryCountUpdateRequired

/-- The table on which the last check is made: a slot that has not booted yet has used one of
    its retries, on a device that counts them. -/
inductive Tried (env : SlotEnv) (t : SlotState) (x : Text) (e : PartitionEntry) :
    SlotState → Prop where
  | kept : e.successful = true ∨ e.retryCount ≠ 0 ∧ countsRetries env = false → Tried env t x e t
  | retry {i : Nat} : e.successful = false → e.retryCount ≠ 0 →
      getBootPartitionEntry env t.ptnEntries x = some i →
      Tried env t x e (t.updateEntry i PartitionEntry.useRetry)

def PartitionEntry.Spent (e : PartitionEntry) : Prop :=
  e.unbootable = true ∨ e.successful = false ∧ e.retryCount = 0

/-- What `FindBootableSlot` returns or leaves with, and the table after it. -/
inductive BootStep (env : SlotEnv) (s : SlotState) :
    Except Exit (EfiStatus × Text) → SlotState → Prop where
  | noActive : (activeResult env s).1 ≠ EFI_SUCCESS →
      BootStep env s (.ok (activeResult env s)) (settle env s)
  | chosen {x : Text} {e : PartitionEntry} {u : SlotState} :
      activeResult env s = (EFI_SUCCESS, x) → bootEntry env (settle env s) x = some e →
      e.unbootable = false → Tried env (settle env s) x e u → slotValid env u x = true →
      BootStep env s (.ok (EFI_SUCCESS, x)) (markPtnActive x u)
  | rejected {x : Text} {e : PartitionEntry} {u : SlotState} {status : EfiStatus} :
      activeResult env s = (EFI_SUCCESS, x) → bootEntry env (settle env s) x = some e →
      Tried env (settle env s) x e u → slotValid env u x = false → status ≠ EFI_SUCCESS →
      BootStep env s (.ok (status, [])) u
  | givenUp {x : Text} {e : PartitionEntry} {u : SlotState} :
      activeResult env s = (EFI_SUCCESS, x) → bootEntry env (settle env s) x = some e →
      e.Spent → Marked env (settle env s) x u → BootStep env s (.ok (EFI_LOAD_ERROR, [])) u
  | switched {x : Text} {e : PartitionEntry} {u : SlotState} :
      activeResult env s = (EFI_SUCCESS, x) → bootEntry env (settle env s) x = some e →
      e.Spent → Marked env (settle env s) x u → otherSlotBootable env s x = true →
      BootStep env s (.error .reboot) ((setActiveSlot env (alternateSlot x) false).exec u).2

theorem BootStep.confirm (hres : activeResult env s = (EFI_SUCCESS, x))
    (he : bootEntry env (settle env s) x = some e) (hboot : e.unbootable = false)
    (htried : Tried env (settle env s) x e u) :
    BootStep env s ((confirmSlot env x).exec u).1 ((confirmSlot env x).exec u).2 := by
  obtain ⟨hvalid, hc⟩ | ⟨hvalid, status, hstatus, hc⟩ := exec_confirmSlot env u x
  · rw [hc]
    exact .chosen hres he hboot htried hvalid
  · rw [hc]
    exact .rejected hres he htried hvalid hstatus

/-- Every call ends in one of these ways. -/
theorem findBootableSlot_step (hri : env.recoveryInfo = false) (s : SlotState) :
    BootStep env s ((findBootableSlot env).exec s).1 ((findBootableSlot env).exec s).2 := by
  by_cases hok : (activeResult env s).1 = EFI_SUCCESS
  case neg =>
    have hexec : (findBootableSlot env).exec s = (.ok (activeResult env s), settle env s) := by
      simp [findBootableSlot, exec_bind, exec_getActiveSlot, hok]
    rw [hexec]
    exact .noActive hok
  obtain ⟨x, hres⟩ : ∃ x, activeResult env s = (EFI_SUCCESS, x) := ⟨_, Prod.ext hok rfl⟩
  have hslot := slot_of_activeResult hri hres
  have hat := activeAt_settle hres
  obtain ⟨i, e, hi, hei, he⟩ := bootIndex_exists hat.ok hslot
  simp only [findBootableSlot, exec_bind, exec_getActiveSlot, hres, ne_eq, not_true_eq_false,
    if_false, exec_get, hi, hri, Bool.false_eq_true, hei]
  split
  case isTrue hsucc =>
    simp only [Bool.and_eq_true, Bool.not_eq_true'] at hsucc
    exact .confirm hres he hsucc.1 (.kept (.inl hsucc.2))
  split
  case isTrue hretry =>
    simp only [Bool.and_eq_true, Bool.not_eq_true', bne_iff_ne] at hretry
    obtain ⟨⟨hboot, hfail⟩, hcount⟩ := hretry
    split
    · exact .confirm hres he hboot (.retry hfail hcount hi)
    case isFalse hno =>
      exact .confirm hres he hboot (.kept (.inr ⟨hcount, eq_false_of_ne_true hno⟩))
  case isFalse hsucc hretry =>
    have hspent : e.Spent := by
      cases hu : e.unbootable <;> cases hs : e.successful <;> simp_all [PartitionEntry.Spent]
    obtain ⟨u, hmarked, hexec⟩ := exec_handleActiveSlotUnbootable hat.active hslot
    rw [hat.settled] at hmarked
    rw [otherSlotBootable_settle hres] at hexec
    cases hother : otherSlotBootable env s x with
    | true =>
      simp only [exec_bind, hexec, hother, if_true]
      exact .switched hres he hspent hmarked hother
    | false =>
      simp only [exec_bind, hexec, hother]
      exact .givenUp hres he hspent hmarked

theorem Tried.frame (h : Tried env t x e u) (hat : ActiveAt env t x) (hx : IsSlot x)
    (he : bootEntry env t x = some e) : ActiveAt env u x ∧
      bootEntry env u (alternateSlot x) = bootEntry env t (alternateSlot x) := by
  cases h with
  | kept _ => exact ⟨hat, rfl⟩
  | retry _ hretry hi =>
    exact hat.updateEntry keepsName_useRetry hx hi he
      ⟨active_useRetry hretry, priority_useRetry hretry⟩

theorem Tried.slotBootable (h : Tried env t x e u) (he : bootEntry env t x = some e) :
    slotBootable env u x = slotBootable env t x := by
  cases h with
  | kept _ => rfl
  | retry _ hretry hi =>
    obtain ⟨hs, hu⟩ := sameVerdict_useRetry hretry
    simp [OhMyAbl.slotBootable, bootEntry_updateEntry_self keepsName_useRetry hi, he, hs, hu]

theorem Tried.keepsGuids (h : Tried env t x e u) : KeepsGuids t u := by
  cases h with
  | kept _ => exact fun _ _ => rfl
  | retry _ _ _ => exact keepsGuids_updateEntry keepsName_useRetry fun _ => rfl

/-! ### The choice -/

section

variable (hri : env.recoveryInfo = false) (hres : activeResult env s = (EFI_SUCCESS, x))
  (he : bootEntry env (settle env s) x = some e)

include hri hres he

theorem slotSelectable_eq : slotSelectable env s =
    (!e.unbootable && (e.successful || e.retryCount != 0) && slotValid env (settle env s) x) := by
  have hne : x ≠ [] := by
    have hne := activeResult_nonempty hri (congrArg Prod.fst hres)
    rwa [hres] at hne
  simp [slotSelectable, slotValid, hres, he, hri, List.isEmpty_eq_false_iff.mpr hne]

theorem slotSelectable_spent (hspent : e.Spent) : slotSelectable env s = false := by
  rw [slotSelectable_eq hri hres he]
  obtain hunboot | ⟨hfail, hretry⟩ := hspent
  · simp [hunboot]
  · simp [hfail, hretry]

theorem slotSelectable_tried (hboot : e.unbootable = false)
    (htried : Tried env (settle env s) x e u)
    : slotSelectable env s = slotValid env u x := by
  rw [slotSelectable_eq hri hres he, slotValid_keepsGuids htried.keepsGuids, hboot]
  cases htried with
  | kept h =>
    obtain h | ⟨h, -⟩ := h
    · simp [h]
    · rw [bne_iff_ne.mpr h, Bool.or_true]
      rfl
  | retry _ h _ =>
    rw [bne_iff_ne.mpr h, Bool.or_true]
    rfl

theorem SlotChosen.of_tried (htried : Tried env (settle env s) x e u) :
    SlotChosen env s (markPtnActive x u) x := by
  have hx := slot_of_activeResult hri hres
  obtain ⟨hat, hother⟩ := htried.frame (activeAt_settle hres) hx he
  have hcurrent := slotBootable_settle env s
  rw [hres] at hcurrent
  refine (SlotChosen.mark hri hat hx).of_verdicts ((htried.slotBootable he).trans hcurrent) ?_
  rw [← otherSlotBootable_settle hres]
  simp [otherSlotBootable, OhMyAbl.slotBootable, hother]

end

/-- With recovery info the protocol has chosen, and the table is not looked at. -/
theorem findBootableSlot_recovery (hri : env.recoveryInfo = true) (s : SlotState) :
    wp (findBootableSlot env)
      (fun r s' =>
        if slotSelectable env s then r = activeResult env s ∧ SlotChosen env s s' r.2
        else r.1 ≠ EFI_SUCCESS ∨ r.2 = []) noExit s := by
  simp only [findBootableSlot, wp_bind, wp_getActiveSlot]
  obtain ⟨status, x, hres⟩ : ∃ status x, activeResult env s = (status, x) := ⟨_, _, rfl⟩
  by_cases hstatus : status = EFI_SUCCESS
  case neg =>
    have hnot : slotSelectable env s = false := by simp [slotSelectable, hres, hstatus]
    simp [hres, hstatus, hnot]
  subst hstatus
  simp only [hres, ne_eq, not_true_eq_false, if_false, wp_bind, wp_get, hri]
  by_cases hne : x = []
  · -- the protocol reported no boot set
    subst hne
    have hnot : slotSelectable env s = false := by simp [slotSelectable, hres]
    cases getBootPartitionEntry env (settle env s).ptnEntries [] <;> simp [hnot]
  · have hat := activeAt_settle hres
    obtain ⟨i, -, hi, -⟩ := bootIndex_exists hat.ok (activeResult_suffix hres hne)
    have hsel : slotSelectable env s = true := by simp [slotSelectable, hres, hne, hri]
    have hcurrent := slotBootable_settle env s
    rw [hres] at hcurrent
    simp only [hi, if_true, wp_pure, hsel, true_and]
    exact ⟨hat, hcurrent, otherSlotBootable_settle hres⟩

/-- A slot is found exactly if one can be selected, and it is the active one. -/
theorem findBootableSlot_spec (env : SlotEnv) (s : SlotState) :
    wp (findBootableSlot env)
      (fun r s' =>
        if slotSelectable env s then r = activeResult env s ∧ SlotChosen env s s' r.2
        else r.1 ≠ EFI_SUCCESS ∨ r.2 = [])
      (fun _ _ => slotSelectable env s = false) s := by
  cases hri : env.recoveryInfo with
  | true => exact wp_mono (findBootableSlot_recovery hri s) (fun _ _ h => h) fun _ _ h => h.elim
  | false =>
    have hstep := findBootableSlot_step hri s
    rw [wp]
    generalize (findBootableSlot env).exec s = r at hstep ⊢
    obtain ⟨r, s'⟩ := r
    cases hstep with
    | noActive hno =>
      have hnot : slotSelectable env s = false := by simp [slotSelectable, hno]
      simp [hnot, hno]
    | chosen hres he hboot htried hvalid =>
      simp only [slotSelectable_tried hri hres he hboot htried, hvalid, if_true]
      exact ⟨hres.symm, .of_tried hri hres he htried⟩
    | rejected hres he htried hvalid hstatus =>
      rw [slotValid_keepsGuids htried.keepsGuids] at hvalid
      simp [slotSelectable_eq hri hres he, hvalid]
    | givenUp hres he hspent _ => simp [slotSelectable_spent hri hres he hspent]
    | switched hres he hspent _ _ => exact slotSelectable_spent hri hres he hspent

end Bootable

end OhMyAbl
