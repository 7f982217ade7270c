/-
  **The flash and the erase command.**

  `CmdFlash` and `CmdErase` (`FastbootCmds.c`) with everything they call on the way to a write.  The
  state keeps the static variables of the file, and four records that only grow: what was asked of
  storage (`touched`), the LUN numbers that were used (`lunUses`), the images that were handed to a
  flash routine (`calls`) and the responses.
-/
import OhMyAbl.Device.Unlock
import OhMyAbl.Fastboot.Command
import OhMyAbl.Fastboot.Sparse
import OhMyAbl.Partition.Gpt

namespace OhMyAbl

open Prog

/-! ### Partitions -/

def MAX_LUNS : Nat := 8
def NO_LUN : Int := -1
def MAX_NUM_PARTITIONS : Nat := 128
def MAX_RSP_SIZE : Nat := 64

abbrev Handle := Nat

structure Ptable where
  handles : Nat → List Handle
  maxLuns : Nat
  maxLuns_le : maxLuns ≤ MAX_LUNS

/-- What is asked to be written or erased: a partition by its handle, one the UBI driver finds by
    its name, or a whole LUN. -/
inductive Target where
  | handle (h : Handle)
  | named (name : List UInt8)
  | lun (lun : Int)
deriving DecidableEq, Repr

/-- The build, the lock state, and what the firmware answers during a command. -/
structure FlashEnv where
  slots : SlotEnv
  storage : StorageEnv
  sameDevice : storage.rootDeviceType = slots.rootDeviceType
  avbVersion : AvbVersion
  isUnlocked : Bool
  isUnlockCritical : Bool
  isDynamicPartitionSupport : Bool
  isUseMThreadParallel : Bool
  isDisableParallelDownloadFlash : Bool
  ubiVolumeFlashing : Bool             -- `NAND_UBI_VOLUME_FLASHING_ENABLED`
  maxDownLoadSize : Nat
  pageSize : Nat
  /-- The block device of a partition, and its record. -/
  blockIo : Handle → BlockIo
  record : Handle → Option PartitionEntry
  /-- The partitions of the type of misc, and the one of them if there is one. -/
  miscHandles : HandleLookup
  misc : Handle
  allocateMessage : Bool
  allocateFlashInfo : Bool
  threadCreate : Bool
  threadResume : EfiStatus
  createTimer : EfiStatus
  setTimer : EfiStatus
  storeUserKey : EfiStatus
  eraseUserKey : EfiStatus
  updateDevInfo : EfiStatus
  resetDeviceState : EfiStatus
  ubiLocate : EfiStatus
  ubiOpen : EfiStatus
  ubiWrite : EfiStatus
  ubiClose : EfiStatus
  eraseProtocol : Handle → EfiStatus
  eraseBlocks : Handle → EfiStatus
  erased : Handle → Bytes
  /-- The root device of a LUN. -/
  gpt : Int → GptEnv
  createRefresh : EfiStatus
  signalRefresh : EfiStatus
  enumeratePartitions : EfiStatus × Ptable
  /-- The text `%r` prints. -/
  statusText : EfiStatus → String

structure FlashInfo where
  partitionName : Text
  flashDataBuffer : Nat
  flashNumDataBytes : Nat
deriving DecidableEq, Repr

structure FlashCall where
  addr : Nat
  size : Nat
  image : Bytes

/-- The static variables of `FastbootCmds.c` and of the routines it calls, memory and storage.
    The address of a buffer is zero for `NULL`. -/
structure FlashState where
  slots : SlotState
  ptable : Ptable
  disks : Handle → Disk
  /-- The LUNs, up to the attributes of their entries: those `UpdatePartitionAttributes` writes back
      from `slots`, which is no step of this model. -/
  rootDisks : Int → Disk
  parseSecondaryGpt : Bool
  flashingGpt : Bool
  memory : Bytes
  usbDataBuffer : Nat
  flashDataBuffer : Nat
  numDataBytes : Nat
  flashNumDataBytes : Nat
  virtualAbMsg : Option Bytes
  snapshotMergeState : String
  lun : Int
  lunSet : Bool
  flashResult : EfiStatus
  isFlashComplete : Bool
  usbTimerEvent : Bool
  usbTimerStarted : Bool
  isEnforcing : Bool
  jobs : List FlashInfo
  responses : List Response
  touched : List Target
  lunUses : List Int
  calls : List FlashCall

abbrev FlashProg := Prog FlashState Exit

namespace FlashState

def slotsLens : Lens FlashState SlotState where
  get := FlashState.slots
  set := fun s t => { s with slots := t }

def responsesLens : Lens FlashState (List Response) where
  get := FlashState.responses
  set := fun s r => { s with responses := r }

def diskLens (h : Handle) : Lens FlashState Disk where
  get := fun s => s.disks h
  set := fun s d => { s with disks := fun h' => if h' = h then d else s.disks h' }
  get_set := fun _ _ => if_pos rfl
  set_get := fun s => by
    congr 1
    funext h'
    split
    case isTrue heq => rw [heq]
    case isFalse => rfl
  set_set := fun s d d' => by
    congr 1
    funext h'
    dsimp only
    split <;> rfl

/-- The memory from an address on, the flags of the table routines, and the root device of a
    LUN. -/
def gptLens (lun : Int) (addr : Nat) : Lens FlashState GptState where
  get := fun s => ⟨s.memory.shift addr, s.parseSecondaryGpt, s.flashingGpt, s.rootDisks lun⟩
  set := fun s g => { s with
    memory := s.memory.replaceFrom addr g.image
    parseSecondaryGpt := g.parseSecondaryGpt
    flashingGpt := g.flashingGpt
    rootDisks := fun lun' => if lun' = lun then g.disk else s.rootDisks lun' }
  get_set := fun s g => by
    obtain ⟨image, parse, flashing, disk⟩ := g
    simp
  set_get := fun s => by
    have hdisks : (fun lun' => if lun' = lun then s.rootDisks lun else s.rootDisks lun') =
        s.rootDisks := by
      funext lun'
      split
      case isTrue heq => rw [heq]
      case isFalse => rfl
    simp only [Bytes.replaceFrom_shift, hdisks]
  set_set := fun s g g' => by
    have hdisks : (fun lun' => if lun' = lun then g'.disk else
        if lun' = lun then g.disk else s.rootDisks lun') =
          fun lun' => if lun' = lun then g'.disk else s.rootDisks lun' := by
      funext lun'
      split <;> rfl
    simp only [Bytes.replaceFrom_replaceFrom, hdisks]

end FlashState

def okay (text : String) : FlashProg PUnit := fastbootOkay FlashState.responsesLens text

def fail (text : String) : FlashProg PUnit := fastbootFail FlashState.responsesLens text

def responseText (text : String) : String := String.ofList (text.toList.take (MAX_RSP_SIZE - 1))

def nameText (name : Text) : String := String.ofList (name.map fun c => Char.ofNat c.toNat)

def touch (t : Target) : FlashProg PUnit := modify fun s => { s with touched := s.touched ++ [t] }

def useLun (lun : Int) : FlashProg PUnit := modify fun s => { s with lunUses := s.lunUses ++ [lun] }

def onPartition {α : Type} (h : Handle) (m : Prog Disk Exit α) : FlashProg α := do
  touch (.handle h)
  zoom (FlashState.diskLens h) m

/-! ### Looking up a partition -/

def searchLuns (env : FlashEnv) (table : Ptable) (name : Text) : List Nat → Option Handle
  | [] => none
  | i :: rest =>
    match (table.handles i).find? fun h => (env.record h).any fun e => e.partitionName == name with
    | some h => some h
    | none => searchLuns env table name rest

/-- The first LUN and the one behind the last that are searched.  With a LUN set they are what a
    `UINT16` and a `UINT32` hold of it. -/
def lunRange (s : FlashState) : Nat × Nat :=
  if s.lunSet then ((s.lun % 2 ^ 16).toNat, ((s.lun + 1) % 2 ^ 32).toNat)
  else (0, s.ptable.maxLuns)

def lunRangeFaults (s : FlashState) : Bool :=
  decide ((lunRange s).1 < (lunRange s).2 ∧ MAX_LUNS < (lunRange s).2)

variable (env : FlashEnv)

def partitionGetInfo (name : Text) : FlashProg (Option Handle) := do
  let s ← get
  useLun (if s.lunSet then s.lun else NO_LUN)
  let range := lunRange s
  match searchLuns env s.ptable name (List.range' range.1 (min range.2 MAX_LUNS - range.1)) with
  | some h => return some h
  | none => if lunRangeFaults s then throw .fault else return none

def partitionDump : FlashProg PUnit := do
  let s ← get
  if lunRangeFaults s then throw .fault else return ⟨⟩

structure SlotName where
  hasSlot : Bool
  name : Text
  suffix : Text

/-- `GetPartitionHasSlot`: a name that is not in the table gets the suffix of the current slot. -/
def getPartitionHasSlot (name : Text) : FlashProg SlotName := do
  let s ← get
  match getPartitionIndex s.slots.ptnEntries name with
  | none =>
    let current ← zoom FlashState.slotsLens (getCurrentSlotSuffix env.slots)
    return ⟨true, strnCatS MAX_GPT_NAME_SIZE name current current.length,
      strnCpyS MAX_SLOT_SUFFIX_SZ current current.length⟩
  | some _ =>
    if (strStr name slotA).isSome || (strStr name slotB).isSome then
      return ⟨true, name, strnCpyS MAX_SLOT_SUFFIX_SZ (name.drop (name.length - 2)) 2⟩
    else return ⟨false, name, []⟩

/-- The name a flash routine works with: only a device with slots looks for one. -/
def resolveName (name : Text) : FlashProg SlotName := do
  let s ← get
  if partitionHasMultiSlot env.slots (wide "boot") 0 s.slots.ptnEntries then
    getPartitionHasSlot env name
  else return ⟨false, name, []⟩

def PartitionEntry.rewritten (e : PartitionEntry) : PartitionEntry :=
  (e.clearMask (PART_ATT_SUCCESSFUL_VAL ||| PART_ATT_UNBOOTABLE_VAL)).setMask
    (PART_ATT_PRIORITY_VAL ||| PART_ATT_MAX_RETRY_COUNT_VAL)

/-- `FastbootUpdateAttr`: the boot entry of the slot is made bootable with all its retries, here
    only in memory (`FlashState.rootDisks`). -/
def fastbootUpdateAttr (suffix : Text) : FlashProg PUnit :=
  modify fun s =>
    match getPartitionIndex s.slots.ptnEntries
        (strnCatS (MAX_GPT_NAME_SIZE - 1) (wide "boot") suffix suffix.length) with
    | none => s
    | some i => { s with slots := s.slots.updateEntry i PartitionEntry.rewritten }

def updateBootAttr (n : SlotName) : FlashProg PUnit :=
  when (n.hasSlot && strnCmp n.name (wide "boot") 4) (fastbootUpdateAttr n.suffix)

/-! ### The merge status in the misc partition (`Recovery.c`) -/

def MISC_VIRTUALAB_OFFSET : Nat := 32 * 1024
def MISC_VIRTUAL_AB_MESSAGE_VERSION : Nat := 2
def MISC_VIRTUAL_AB_MAGIC_HEADER : Nat := 0x56740AB0

def HandleLookup.single (l : HandleLookup) : EfiStatus :=
  if l.status ≠ EFI_SUCCESS then l.status
  else if l.maxHandles = 0 then EFI_NO_MEDIA
  else if l.maxHandles ≠ 1 then EFI_LOAD_ERROR
  else EFI_SUCCESS

structure MergeState where
  virtualAbMsg : Option Bytes
  disk : Disk

def MergeState.diskLens : Lens MergeState Disk where
  get := MergeState.disk
  set := fun t d => { t with disk := d }

def FlashState.mergeLens (misc : Handle) : Lens FlashState MergeState where
  get := fun s => ⟨s.virtualAbMsg, s.disks misc⟩
  set := fun s t => { (FlashState.diskLens misc).set s t.disk with virtualAbMsg := t.virtualAbMsg }
  get_set := fun _ t => by simp [FlashState.diskLens]
  set_get := fun s => by
    show { (FlashState.diskLens misc).set s ((FlashState.diskLens misc).get s) with
      virtualAbMsg := s.virtualAbMsg } = s
    rw [(FlashState.diskLens misc).set_get]
  set_set := fun s t t' => by
    have h := (FlashState.diskLens misc).set_set s t.disk t'.disk
    simp only [FlashState.diskLens, FlashState.mk.injEq] at h ⊢
    simp [h.2.2.1]

/-- `ReadFromPartitionOffset` into `VirtualAbMsg`.  An offset that is not one of a block is found
    out only after the buffer was allocated, and leaves it. -/
def readVirtualAbMsg : Prog MergeState Exit EfiStatus := do
  let io := env.blockIo env.misc
  if env.miscHandles.single ≠ EFI_SUCCESS then return env.miscHandles.single
  else
    let msgSize := ROUND_TO_PAGE env.pageSize (io.blockSize - 1)
    if msgSize > io.getPartitionSize ∨ io.getPartitionSize = 0 then return EFI_OUT_OF_RESOURCES
    else if !env.allocateMessage then return EFI_OUT_OF_RESOURCES
    else if MISC_VIRTUALAB_OFFSET % io.blockSize ≠ 0 then
      modify fun t => { t with virtualAbMsg := some fun _ => 0 }
      return EFI_INVALID_PARAMETER
    else
      let r ← zoom MergeState.diskLens
        (io.readBlocks (MISC_VIRTUALAB_OFFSET / io.blockSize) msgSize)
      when (decide (r.1 = EFI_SUCCESS)) (modify fun t => { t with virtualAbMsg := some r.2 })
      return r.1

def mergeStatusOf (msg : Bytes) : UInt8 := msg 5

def messageValid (msg : Bytes) : Bool :=
  decide (msg.u32At 1 = MISC_VIRTUAL_AB_MAGIC_HEADER) &&
    decide ((msg 0).toNat = MISC_VIRTUAL_AB_MESSAGE_VERSION)

def loadVirtualAbMsg : Prog MergeState Exit PUnit := do
  if env.slots.rootDeviceType = .NAND then return ⟨⟩
  else
    let status ← readVirtualAbMsg env
    if status ≠ EFI_SUCCESS then return ⟨⟩
    else
      modify fun t => { t with virtualAbMsg := t.virtualAbMsg.filter messageValid }

/-- `GetSnapshotMergeStatus` on the message: one that could not be read is one without a merge,
    also when a buffer for it was left behind. -/
def readMergeStatus : Prog MergeState Exit UInt8 := do
  let t ← get
  match t.virtualAbMsg with
  | some msg => return mergeStatusOf msg
  | none =>
    loadVirtualAbMsg env
    let t ← get
    return (t.virtualAbMsg.map mergeStatusOf).getD MergeStatus.NONE_MERGE_STATUS.code

def getSnapshotMergeStatus : FlashProg UInt8 :=
  zoom (FlashState.mergeLens env.misc) (readMergeStatus env)

def writeVirtualABMessage (msg : Bytes) : FlashProg EfiStatus :=
  let io := env.blockIo env.misc
  if env.slots.rootDeviceType = .NAND then return EFI_UNSUPPORTED
  else if env.miscHandles.single ≠ EFI_SUCCESS then return env.miscHandles.single
  else onPartition env.misc (writeBlockToPartition env.storage io
    (MISC_VIRTUALAB_OFFSET / io.blockSize) env.pageSize ⟨.pool, 0, msg⟩)

def setSnapshotMergeStatus (status : MergeStatus) : FlashProg EfiStatus := do
  let s ← get
  match s.virtualAbMsg with
  | none => return EFI_NOT_FOUND
  | some msg =>
    let msg' := msg.put 5 1 status.code.toNat
    modify fun s => { s with virtualAbMsg := some msg' }
    let r ← writeVirtualABMessage env msg'
    when (decide (r ≠ EFI_SUCCESS)) (modify fun s => { s with virtualAbMsg := some msg })
    return r

/-! ### The permission to write a name -/

/-- The lock state and the critical partitions are looked at by this build. -/
def lockChecked : Bool :=
  decide (env.avbVersion = .AVB_LE) || env.slots.targetBuildVariantUser

def lockRefusal (action : String) (name : Text) : Option String :=
  if !lockChecked env then none
  else if !env.isUnlocked then some (action ++ " is not allowed in Lock State")
  else if !env.isUnlockCritical && isCriticalPartition name then
    some (action ++ " is not allowed for Critical Partitions\n")
  else none

def refuse (text : String) : FlashProg Bool := do
  fail text
  return false

def mergePending (status : UInt8) : Bool :=
  decide (status = MergeStatus.MERGING.code) || decide (status = MergeStatus.SNAPSHOTTED.code)

def cancelMerge : FlashProg Bool := do
  let r ← setSnapshotMergeStatus env .CANCELLED
  if r ≠ EFI_SUCCESS then refuse "Failed to update snapshot state to cancel"
  else
    modify fun s => { s with snapshotMergeState := "none" }
    return true

def checkSnapshot (action : String) (name : Text) : FlashProg Bool := do
  if !env.isDynamicPartitionSupport then return true
  else
    let status ← getSnapshotMergeStatus env
    if checkVirtualAbCriticalPartition status name then
      let s ← get
      refuse (responseText (action ++ " of " ++ nameText name ++ " is not allowed in " ++
        s.snapshotMergeState ++ " state"))
    else
      let status ← getSnapshotMergeStatus env
      if mergePending status && strnCmp name (wide "super") 5 then cancelMerge env
      else return true

def checkCommand (action : String) (name : Text) : FlashProg Bool :=
  match lockRefusal env action name with
  | some text => refuse text
  | none => checkSnapshot env action name

/-! ### The routines for the kinds of images -/

def handOver : FlashProg PUnit := modify fun s =>
  { s with calls := s.calls ++
      [⟨s.flashDataBuffer, s.flashNumDataBytes, s.memory.shift s.flashDataBuffer⟩] }

def handleUbiVolFlash (name : Text) : FlashProg EfiStatus := do
  if EFI_ERROR env.ubiLocate then return env.ubiLocate
  else if EFI_ERROR env.ubiOpen then return env.ubiOpen
  else
    touch (.named (unicodeStrToAsciiStr name))
    return env.ubiClose

def flashVolume (name : Text) : FlashProg EfiStatus :=
  if env.ubiVolumeFlashing then handleUbiVolFlash env name else return EFI_NOT_FOUND

def writeRawImg (n : SlotName) (h : Handle) (addr size : Nat) : FlashProg EfiStatus := do
  let io := env.blockIo h
  if io.getPartitionSize < size ∨ io.getPartitionSize = 0 then return EFI_VOLUME_FULL
  else
    let s ← get
    let status ← onPartition h
      (writeBlockToPartition env.storage io 0 size ⟨.image, addr, s.memory.shift addr⟩)
    updateBootAttr n
    return status

/-- `HandleRawImgFlash`: the status, and the name it leaves in the array of the caller. -/
def handleRawImgFlash (name : Text) (addr size : Nat) : FlashProg (EfiStatus × Text) := do
  let n ← resolveName env name
  let found ← partitionGetInfo env n.name
  match found with
  | none =>
    -- the slot may not be part of the name of a volume
    let status ← flashVolume env name
    return (status, n.name)
  | some h =>
    let status ← writeRawImg env n h addr size
    return (status, n.name)

def writeUbiImg (n : SlotName) (h : Handle) (size : Nat) : FlashProg EfiStatus := do
  let io := env.blockIo h
  if size > io.getPartitionSize ∨ io.getPartitionSize = 0 then return EFI_INVALID_PARAMETER
  else if EFI_ERROR env.ubiLocate then return env.ubiLocate
  else if EFI_ERROR env.ubiOpen then return env.ubiOpen
  else
    touch (.named (unicodeStrToAsciiStr n.name))
    return if EFI_ERROR env.ubiWrite then env.ubiWrite else env.ubiClose

def handleUbiImgFlash (name : Text) (size : Nat) : FlashProg (EfiStatus × Text) := do
  let n ← resolveName env name
  let found ← partitionGetInfo env n.name
  match found with
  | none => return (EFI_NOT_FOUND, n.name)
  | some h =>
    let status ← writeUbiImg env n h size
    return (status, n.name)

def META_HEADER_MAGIC : Nat := 0xce1ad63c
def META_PARTITION_NAME_SZ : Nat := 72
def MAX_IMAGES_IN_METAIMG : Nat := 32
def META_HEADER_SIZE : Nat := 76
def IMG_HEADER_ENTRY_SIZE : Nat := 80

structure ImgHeaderEntry where
  ptnName : List UInt8
  startOffset : Nat
  size : Nat

namespace ImgHeaderEntry

def ofBytes (image : Bytes) (i : Nat) : ImgHeaderEntry where
  ptnName := image.slice (META_HEADER_SIZE + i * IMG_HEADER_ENTRY_SIZE) META_PARTITION_NAME_SZ
  startOffset := image.u32At (META_HEADER_SIZE + i * IMG_HEADER_ENTRY_SIZE + 72)
  size := image.u32At (META_HEADER_SIZE + i * IMG_HEADER_ENTRY_SIZE + 76)

def isEnd (e : ImgHeaderEntry) : Bool :=
  decide (e.ptnName.head? = some 0) || decide (e.startOffset = 0) || decide (e.size = 0)

def name (e : ImgHeaderEntry) : Text := asciiStrToUnicodeStr (e.ptnName.takeWhile (· ≠ 0))

/-- The image of the entry lies in the `sz` bytes at `addr`, and its name has an end. -/
def check (e : ImgHeaderEntry) (addr sz : Nat) : EfiStatus :=
  if CHECK_ADD64 addr e.startOffset then EFI_BAD_BUFFER_SIZE
  else if CHECK_ADD64 (addr + e.startOffset) e.size then EFI_BAD_BUFFER_SIZE
  else if addr + sz < addr + e.startOffset + e.size then EFI_INVALID_PARAMETER
  else if e.ptnName.all (· ≠ 0) then EFI_INVALID_PARAMETER
  else EFI_SUCCESS

end ImgHeaderEntry

def metaImages (image : Bytes) : Nat := image.u16At 74 / IMG_HEADER_ENTRY_SIZE

/-- The loop of `HandleMetaImgFlash` over the `left` entries from the `i`th on.  An entry that is
    refused is answered here. -/
def flashEntries (env : FlashEnv) (addr sz : Nat) (image : Bytes) :
    Nat → Nat → FlashProg EfiStatus
  | 0, _ => return EFI_SUCCESS
  | left + 1, i => do
    let e := ImgHeaderEntry.ofBytes image i
    if e.isEnd then return EFI_SUCCESS
    else if e.check addr sz ≠ EFI_SUCCESS then return e.check addr sz
    else if !env.isUnlockCritical && isCriticalPartition e.name then
      fail "Flashing is not allowed for Critical Partitions\n"
      return EFI_INVALID_PARAMETER
    else
      let r ← handleRawImgFlash env e.name (addr + e.startOffset) e.size
      if r.1 ≠ EFI_SUCCESS then return r.1 else flashEntries env addr sz image left (i + 1)

def handleMetaImgFlash (addr sz : Nat) : FlashProg EfiStatus := do
  let s ← get
  let image := s.memory.shift addr
  if sz < META_HEADER_SIZE then return EFI_INVALID_PARAMETER
  else if metaImages image > MAX_IMAGES_IN_METAIMG then return EFI_INVALID_PARAMETER
  else if sz ≤ META_HEADER_SIZE + image.u16At 74 then return EFI_INVALID_PARAMETER
  else if CHECK_ADD64 addr sz then return EFI_BAD_BUFFER_SIZE
  else
    let status ← flashEntries env addr sz image (metaImages image) 0
    return if status ≠ EFI_SUCCESS then status else env.updateDevInfo

def sparseImgFlash (name : Text) (addr sz : Nat) : FlashProg EfiStatus := do
  if CHECK_ADD64 addr sz then return EFI_INVALID_PARAMETER
  else
    let found ← partitionGetInfo env name
    match found with
    | none => return EFI_NOT_FOUND
    | some h =>
      let s ← get
      onPartition h (handleSparseImgFlash env.storage ⟨EFI_SUCCESS, some (env.blockIo h), true⟩
        ⟨.image, addr, s.memory.shift addr⟩ sz)

/-! ### Flashing a partition table -/

def MIBIB_MAGIC1 : Nat := 0xFE569FAC
def MIBIB_MAGIC2 : Nat := 0xCD7F127A

/-- The root device of a LUN is looked up in an array that has one for each LUN. -/
def lunInRange (lun : Int) : Bool := decide (NO_LUN ≤ lun) && decide (lun < MAX_LUNS)

def updateLunTable (addr sz : Nat) : FlashProg EfiStatus := do
  let s ← get
  useLun s.lun
  touch (.lun s.lun)
  if partitionGetType (s.memory.shift addr) (u32 sz) = some true ∧ lunInRange s.lun = false then
    throw .fault
  else zoom (FlashState.gptLens s.lun addr) (updatePartitionTable (env.gpt s.lun) (u32 sz))

def ptnEntry (lun : Nat) (h : Handle) : PartitionEntry :=
  match env.record h with
  | some e => { e with lun := lun }
  | none => ⟨[], 0, 0, lun⟩

def updatePartitionEntries (table : Ptable) : List PartitionEntry :=
  ((List.range table.maxLuns).flatMap fun i => (table.handles i).map (ptnEntry env i)).take
    MAX_NUM_PARTITIONS

def isBootPtnUpdated : FlashProg Bool := do
  let s ← get
  useLun s.lun
  if lunInRange s.lun then
    return (s.ptable.handles s.lun.toNat).any fun h =>
      (env.record h).any fun e => strnCmp e.partitionName (wide "boot") 4
  else throw .fault

/-- `GetActiveSlot` marks the first slot active where none ever was, here only in memory. -/
def refreshSlots (bootUpdated : Bool) : FlashProg PUnit := do
  let s ← get
  when (bootUpdated && partitionHasMultiSlot env.slots (wide "boot") 0 s.slots.ptnEntries &&
      !env.slots.recoveryInfo) (do
    let _ ← zoom FlashState.slotsLens (getActiveSlot env.slots)
    return ⟨⟩)

def reenumeratePartTable : FlashProg EfiStatus := do
  modify fun s => { s with lunSet := false }
  if env.createRefresh ≠ EFI_SUCCESS then return env.createRefresh
  else if env.signalRefresh ≠ EFI_SUCCESS then return env.signalRefresh
  else
    modify fun s => { s with ptable := env.enumeratePartitions.2 }
    if EFI_ERROR env.enumeratePartitions.1 then return env.enumeratePartitions.1
    else
      modify fun s => { s with slots :=
        { s.slots with ptnEntries := updatePartitionEntries env s.ptable } }
      let bootUpdated ← isBootPtnUpdated env
      refreshSlots env bootUpdated
      partitionDump
      return env.enumeratePartitions.1

def answerTable (status : EfiStatus) : FlashProg PUnit :=
  if status = EFI_SUCCESS then okay "" else fail "Error Updating partition Table\n"

def finishTable (status : EfiStatus) : FlashProg PUnit := do
  if status = EFI_SUCCESS then
    let status ← reenumeratePartTable env
    answerTable status
  else answerTable status

def partitionVerifyMibibImage (image : Bytes) : Bool :=
  decide (image.u32At 0 = MIBIB_MAGIC1) && decide (image.u32At 4 = MIBIB_MAGIC2)

def writeMibib (name : Text) : FlashProg PUnit := do
  let s ← get
  if partitionVerifyMibibImage (s.memory.shift s.flashDataBuffer) then
    handOver
    let r ← handleRawImgFlash env name s.flashDataBuffer s.flashNumDataBytes
    finishTable env r.1
  else fail "Error Updating partition Table\n"

def writeTable : FlashProg PUnit := do
  let s ← get
  handOver
  let status ← updateLunTable env s.flashDataBuffer s.flashNumDataBytes
  finishTable env status

/-- The LUN before a table is written: UFS boots from the first boot LUN afterwards, and on eMMC
    there are no LUNs, whatever the argument says. -/
def selectTableLun : FlashProg PUnit := modify fun s =>
  match env.slots.rootDeviceType with
  | .UFS =>
    { s with slots :=
        if (ufsGetBootLun env.slots s.slots).2 ≠ 1 then ufsSetBootLun env.slots 1 s.slots
        else s.slots }
  | .EMMC => { s with lun := NO_LUN, lunSet := false }
  | _ => s

def flashTable (name : Text) : FlashProg PUnit := do
  selectTableLun env
  partitionDump
  if env.slots.rootDeviceType = .NAND then writeMibib env name else writeTable env

/-! ### Flashing while the next download goes on -/

def createSparseImgFlashThread (name : Text) : FlashProg EfiStatus := do
  if !env.threadCreate then return EFI_NOT_READY
  else if EFI_ERROR env.threadResume then return env.threadResume
  else
    handOver
    modify fun s => { s with jobs := s.jobs ++ [⟨name, s.flashDataBuffer, s.flashNumDataBytes⟩] }
    return env.threadResume

def stopUsbTimer : FlashProg PUnit :=
  modify fun s => { s with usbTimerEvent := false, usbTimerStarted := false }

def handleUsbEventsInTimer : FlashProg EfiStatus := do
  let s ← get
  if s.usbTimerEvent then return EFI_SUCCESS
  else if EFI_ERROR env.createTimer then return env.createTimer
  else
    modify fun s => { s with usbTimerEvent := true }
    return env.setTimer

def startUsbTimer : FlashProg EfiStatus := do
  modify fun s => { s with isFlashComplete := false }
  let status ← handleUsbEventsInTimer env
  if EFI_ERROR status then
    modify fun s => { s with isFlashComplete := true }
    stopUsbTimer
    return status
  else
    modify fun s => { s with usbTimerStarted := true }
    return status

def startParallel (name : Text) : FlashProg EfiStatus :=
  if env.isUseMThreadParallel then createSparseImgFlashThread env name else startUsbTimer env

/-- The final answer of `CmdFlash`; a failure that was answered is forgotten. -/
def answer (name : Text) : FlashProg PUnit := do
  let s ← get
  if EFI_ERROR s.flashResult then
    fail (responseText (if s.flashResult = EFI_NOT_FOUND then
        "(" ++ nameText name ++ ") No such partition"
      else "Error flashing partition : " ++ env.statusText s.flashResult))
    modify fun s => { s with flashResult := EFI_SUCCESS }
  else okay ""

def flashSparseNow (name : Text) : FlashProg PUnit := do
  let s ← get
  handOver
  let status ← sparseImgFlash env name s.flashDataBuffer s.flashNumDataBytes
  modify fun s => { s with flashResult := status, isFlashComplete := true }
  stopUsbTimer

def runsItself (size : Nat) (status : EfiStatus) : Bool :=
  EFI_ERROR status || !env.isUseMThreadParallel || decide (size ≤ env.maxDownLoadSize)

def answersAtEnd (size : Nat) (status : EfiStatus) : Bool :=
  decide (size < env.maxDownLoadSize) ||
    decide (size > env.maxDownLoadSize) &&
      (env.isDisableParallelDownloadFlash || decide (status ≠ EFI_SUCCESS))

/-- The branch for sparse images once it is known whether the flash goes on in the background. -/
def finishSparse (name : Text) (size : Nat) (status : EfiStatus) : FlashProg PUnit := do
  when (runsItself env size status) (flashSparseNow env name)
  when (answersAtEnd env size status) (answer env name)

/-- A partition that is larger than a download is flashed while the next one goes on. -/
def flashSparseParallel (name : Text) (size : Nat) : FlashProg PUnit := do
  let status ← startParallel env name
  when (!EFI_ERROR status) (okay "")
  finishSparse env name size status

/-- The branch of `CmdFlash` for sparse images once the partition is found; `false` when it returns
    without going on to the end of the function. -/
def flashSparseFound (name : Text) (h : Handle) : FlashProg Bool := do
  let size := (env.blockIo h).getPartitionSize
  if size = 0 then
    fail "Partition error size"
    return true
  else if size > env.maxDownLoadSize ∧ env.isDisableParallelDownloadFlash = false then
    if env.isUseMThreadParallel && !env.allocateFlashInfo then return false
    else
      flashSparseParallel env name size
      return true
  else
    finishSparse env name size EFI_SUCCESS
    return true

def flashSparseImg (name : Text) : FlashProg Bool := do
  let n ← resolveName env name
  let found ← partitionGetInfo env n.name
  match found with
  | none =>
    fail "Partition not found"
    return true
  | some h => flashSparseFound env n.name h

/-! ### CmdFlash -/

def flashOther (name : Text) (addr sz : Nat) (image : Bytes) : FlashProg (EfiStatus × Text) := do
  if strnCmp (image.slice 0 4) (ascii "UBI#") 4 then handleUbiImgFlash env name sz
  else if image.u32At 0 = META_HEADER_MAGIC then
    let status ← handleMetaImgFlash env addr sz
    return (status, name)
  else handleRawImgFlash env name addr sz

def flashOut (arg : List UInt8) : FlashProg PUnit := modify fun s =>
  { s with
    isEnforcing := s.isEnforcing ||
      strnCmp arg (ascii "system") 6 && decide (s.flashResult = EFI_SUCCESS)
    lunSet := false }

/-- The branch of `CmdFlash` for images; `false` when it returns without going on to the end of
    the function. -/
def flashImage (name : Text) : FlashProg Bool := do
  let s ← get
  let image := s.memory.shift s.flashDataBuffer
  if image.u32At 0 = SPARSE_HEADER_MAGIC then flashSparseImg env name
  else
    handOver
    let r ← flashOther env name s.flashDataBuffer s.flashNumDataBytes image
    modify fun s => { s with flashResult := r.1 }
    answer env r.2
    return true

def namesTable (name : Text) : Bool :=
  strnCmp name (wide "partition") 9 ||
    strnCmp name (wide "mibib") 5 && decide (env.slots.rootDeviceType = .NAND)

def flashNamed (arg : List UInt8) (name : Text) : FlashProg PUnit := do
  if namesTable env name then
    flashTable env name
    flashOut arg
  else
    let goesOn ← flashImage env name
    when goesOn (flashOut arg)

/-- The digits of a decimal number behind `acc`; a number that does not fit is the largest one. -/
def decimalFrom (acc : Nat) : Text → Nat
  | [] => acc
  | c :: rest =>
    if 0x30 ≤ c ∧ c ≤ 0x39 then
      let digit := c.toNat - 0x30
      if acc > (MAX_UINT64 - digit) / 10 then MAX_UINT64 else decimalFrom (acc * 10 + digit) rest
    else acc

def strDecimalToUintn (text : Text) : Nat :=
  decimalFrom 0 ((text.dropWhile fun c => c = 0x20 || c = 0x09).dropWhile (· = 0x30))

def int32 (n : Nat) : Int := (BitVec.ofNat 32 n).toInt

def lunOf (name : Text) : Option Int :=
  (strStr name (wide ":")).map fun token => int32 (strDecimalToUintn token.tail)

def flashWithLun (arg : List UInt8) (name : Text) : FlashProg PUnit :=
  match lunOf name with
  | none => flashNamed env arg name
  | some lun => do
    modify fun s => { s with lun := lun }
    if lun ≥ MAX_LUNS then
      fail "Invalid Lun number passed\n"
      flashOut arg
    else
      modify fun s => { s with lunSet := true }
      flashNamed env arg name

def isCustomKey (name : Text) : Bool := strnCmp name (wide "avb_custom_key") 14

def answerKey (status : EfiStatus) (text : String) : FlashProg PUnit :=
  if status ≠ EFI_SUCCESS then fail text else okay ""

def exchangeFlashAndUsbDataBuf : FlashProg PUnit := modify fun s =>
  { s with
    usbDataBuffer := s.flashDataBuffer
    flashDataBuffer := s.usbDataBuffer
    flashNumDataBytes := s.numDataBytes }

def cmdFlash (arg : List UInt8) : FlashProg PUnit := do
  modify fun s => { s with lunSet := false }
  exchangeFlashAndUsbDataBuf
  let s ← get
  if s.flashDataBuffer = 0 then fail "No data to flash"
  else if arg.length ≥ MAX_GPT_NAME_SIZE then fail "Invalid partition name"
  else
    let name := asciiStrToUnicodeStr arg
    let allowed ← checkCommand env "Flashing" name
    if !allowed then return ⟨⟩
    else if isCustomKey name then answerKey env.storeUserKey "Flashing avb_custom_key failed"
    else flashWithLun env arg name

/-! ### The flash thread -/

def sparseImgFlashThread (job : FlashInfo) : FlashProg PUnit := do
  if job.flashDataBuffer = 0 then return ⟨⟩
  else
    modify fun s => { s with isFlashComplete := false }
    let _ ← sparseImgFlash env job.partitionName job.flashDataBuffer job.flashNumDataBytes
    modify fun s => { s with isFlashComplete := true }

/-! ### CmdErase -/

def erasePartition (h : Handle) : FlashProg EfiStatus := do
  if (env.blockIo h).getPartitionSize = 0 then return EFI_BAD_BUFFER_SIZE
  else if env.eraseProtocol h ≠ EFI_SUCCESS then return env.eraseProtocol h
  else
    touch (.handle h)
    if env.eraseBlocks h ≠ EFI_SUCCESS then return env.eraseBlocks h
    else
      zoom (FlashState.diskLens h) (modify fun d => { d with contents := env.erased h })
      return EFI_SUCCESS

def fastbootErasePartition (name : Text) : FlashProg EfiStatus := do
  let found ← partitionGetInfo env name
  match found with
  | none => return EFI_NOT_FOUND
  | some h =>
    let status ← erasePartition env h
    if status ≠ EFI_SUCCESS then return status
    else return if name = wide "userdata" then env.resetDeviceState else EFI_SUCCESS

def eraseNamed (name : Text) : FlashProg PUnit := do
  let n ← resolveName env name
  let status ← fastbootErasePartition env n.name
  if EFI_ERROR status then fail "Check device console."
  else
    updateBootAttr n
    okay ""

def cmdErase (arg : List UInt8) : FlashProg PUnit := do
  if arg.length ≥ MAX_GPT_NAME_SIZE then fail "Invalid partition name"
  else
    let name := asciiStrToUnicodeStr arg
    let allowed ← checkCommand env "Erase" name
    if !allowed then return ⟨⟩
    else if isCustomKey name then answerKey env.eraseUserKey "Erasing avb_custom_key failed"
    else eraseNamed env name

end OhMyAbl
