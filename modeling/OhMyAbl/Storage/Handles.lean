/-
  **How a partition is found: the block-io handles that pass a filter.**

  `GetBlkIOHandles` walks the handles of the firmware until the caller's list is full.  For a caller
  with room for one handle, the first that is not passed over decides.
-/
import OhMyAbl.Lib.Bits
import OhMyAbl.Storage.BlockIo

namespace OhMyAbl

open Prog

abbrev Guid := BitVec 128

/-! ### Handles -/

/-- A node of a device path: its header, and what the two kinds of node the search knows say
    behind it. -/
structure DevicePathNode where
  type : Nat
  subType : Nat
  length : Nat
  guid : Guid        -- `VENDOR_DEVICE_PATH`
  mbrType : Nat      -- `HARDDRIVE_DEVICE_PATH`
deriving DecidableEq, Repr

def DevicePathNode.isVendor (node : DevicePathNode) : Bool :=
  node.type == 0x01 && node.subType == 0x04 && node.length == 20

def DevicePathNode.isHarddrive (node : DevicePathNode) : Bool :=
  node.type == 0x04 && node.subType == 0x01 && node.length == 42

def PARTITIONED_TYPE_MBR : Nat := 0x01
def PARTITIONED_TYPE_GPT : Nat := 0x02

/-- `EFI_SIMPLE_FILE_SYSTEM_PROTOCOL`, as far as the label of its volume: opening it, asking for
    the size of the information, asking for the information. -/
structure FileSystem where
  openVolume : EfiStatus
  getInfoSize : EfiStatus
  getInfo : EfiStatus
  volumeLabel : Text

structure BlkIoHandle where
  handle : Nat
  /-- The status of looking up the block-io protocol, and the protocol. -/
  blockIo : EfiStatus
  io : BlockIo
  removableMedia : Bool
  /-- The nodes before the end node, if there is a device path. -/
  devicePath : Option (List DevicePathNode)
  /-- Whether the handle has the protocol of a partition type. -/
  hasProtocol : Guid → Bool
  partitionType : Option Guid
  fileSystem : Option FileSystem
  /-- The name in `EFI_PARTITION_ENTRY`. -/
  partitionName : Option Text

/-- What `LocateHandleBuffer` gives for the two protocols it is called with. -/
structure HandleDatabase where
  blockIo : EfiStatus × List BlkIoHandle
  fileSystem : EfiStatus × List BlkIoHandle

structure PartiSelectFilter where
  rootDeviceType : Option Guid
  partitionType : Option Guid
  volumeName : Option (List UInt8)
  partitionLabel : Text

/-! ### The filter -/

def BLK_IO_SEL_MEDIA_TYPE_REMOVABLE : BitVec 32 := 0x0001
def BLK_IO_SEL_MEDIA_TYPE_NON_REMOVABLE : BitVec 32 := 0x0002
def BLK_IO_SEL_PARTITIONED_GPT : BitVec 32 := 0x0004
def BLK_IO_SEL_PARTITIONED_MBR : BitVec 32 := 0x0008
def BLK_IO_SEL_MATCH_PARTITION_TYPE_GUID : BitVec 32 := 0x0010
def BLK_IO_SEL_SELECT_MOUNTED_FILESYSTEM : BitVec 32 := 0x0020
def BLK_IO_SEL_SELECT_BY_VOLUME_NAME : BitVec 32 := 0x0040
def BLK_IO_SEL_SELECT_ROOT_DEVICE_ONLY : BitVec 32 := 0x0080
def BLK_IO_SEL_MATCH_ROOT_DEVICE : BitVec 32 := 0x0100
def BLK_IO_SEL_MATCH_PARTITION_LABEL : BitVec 32 := 0x0200

def FILTERS_NEEDING_DEVICEPATH : BitVec 32 :=
  BLK_IO_SEL_PARTITIONED_MBR ||| BLK_IO_SEL_PARTITIONED_GPT |||
    BLK_IO_SEL_MATCH_PARTITION_TYPE_GUID ||| BLK_IO_SEL_SELECT_ROOT_DEVICE_ONLY |||
    BLK_IO_SEL_MATCH_ROOT_DEVICE

def VOLUME_LABEL_SIZE : Nat := 16

def upperLabel (text : Text) : Text :=
  (text.take (VOLUME_LABEL_SIZE - 1)).map
      (fun c => if 0x61 ≤ c ∧ c ≤ 0x7A then c - 0x20 else c) ++
    text.drop (VOLUME_LABEL_SIZE - 1)

def compareVolumeLabel (fs : FileSystem) (name : List UInt8) : Bool :=
  fs.openVolume == EFI_SUCCESS && fs.getInfoSize == EFI_BUFFER_TOO_SMALL &&
    fs.getInfo == EFI_SUCCESS &&
    strnCmp (upperLabel fs.volumeLabel)
      (upperLabel ((asciiStrToUnicodeStr name).take (VOLUME_LABEL_SIZE - 1))) VOLUME_LABEL_SIZE

inductive Selection where
  | skip                      -- `continue`
  | stop (status : EfiStatus) -- the search ends with the status
  | take
deriving DecidableEq, Repr

def Selection.andThen : Selection → Selection → Selection
  | .take, next => next
  | first, _ => first

def Selection.when (passes : Bool) : Selection := if passes then .take else .skip

section Filter

variable (attrib : BitVec 32) (filter : PartiSelectFilter) (h : BlkIoHandle)

def selectBlockIo : Selection :=
  if h.blockIo = EFI_UNSUPPORTED then .skip
  else if h.blockIo ≠ EFI_SUCCESS then .stop h.blockIo
  else .take

def selectMedia : Selection :=
  .when (Bits.test attrib (if h.removableMedia then BLK_IO_SEL_MEDIA_TYPE_REMOVABLE
    else BLK_IO_SEL_MEDIA_TYPE_NON_REMOVABLE))

def selectRoot (path : List DevicePathNode) : Selection :=
  if Bits.test attrib (BLK_IO_SEL_SELECT_ROOT_DEVICE_ONLY ||| BLK_IO_SEL_MATCH_ROOT_DEVICE) then
    .when (match path.head? with
      | none => false
      | some root => root.isVendor && (filter.rootDeviceType.all fun guid => guid == root.guid))
  else .take

def selectType : Selection :=
  if Bits.test attrib BLK_IO_SEL_MATCH_PARTITION_TYPE_GUID then
    match filter.partitionType with
    | none => .stop EFI_INVALID_PARAMETER
    | some type => .when (h.hasProtocol type || h.partitionType == some type)
  else .take

/-- The last node of the path says that the handle is a partition of the scheme and the type asked
    for. -/
def selectPartition (path : List DevicePathNode) : Selection :=
  match path.getLast?.filter DevicePathNode.isHarddrive with
  | some node =>
    (Selection.when
      (!(!Bits.test attrib BLK_IO_SEL_PARTITIONED_GPT && node.mbrType == PARTITIONED_TYPE_GPT) &&
        !(!Bits.test attrib BLK_IO_SEL_PARTITIONED_MBR &&
          node.mbrType == PARTITIONED_TYPE_MBR))).andThen
      (selectType attrib filter h)
  | none => .when (!Bits.test attrib BLK_IO_SEL_MATCH_PARTITION_TYPE_GUID)

def selectDevicePath : Selection :=
  if Bits.test attrib FILTERS_NEEDING_DEVICEPATH then
    match h.devicePath with
    | none => .skip
    | some path =>
      (selectRoot attrib filter path).andThen
        ((Selection.when (!(Bits.test attrib BLK_IO_SEL_SELECT_ROOT_DEVICE_ONLY &&
            decide (path.length > 1)))).andThen
          (selectPartition attrib filter h path))
  else .take

def selectFileSystem : Selection :=
  if Bits.test attrib BLK_IO_SEL_SELECT_MOUNTED_FILESYSTEM then
    match h.fileSystem with
    | none => .skip
    | some fs =>
      if Bits.test attrib BLK_IO_SEL_SELECT_BY_VOLUME_NAME then
        match filter.volumeName with
        | none => .stop EFI_INVALID_PARAMETER
        | some name => .when (compareVolumeLabel fs name)
      else .take
  else .take

def selectLabel : Selection :=
  if Bits.test attrib BLK_IO_SEL_MATCH_PARTITION_LABEL then
    match h.partitionName with
    | none => .skip
    | some name =>
      .when (strnCmp name filter.partitionLabel (max name.length filter.partitionLabel.length))
  else .take

def selectHandle : Selection :=
  (selectBlockIo h).andThen ((selectMedia attrib h).andThen
    ((selectDevicePath attrib filter h).andThen
      ((selectFileSystem attrib filter h).andThen (selectLabel attrib filter h))))

end Filter

/-! ### GetBlkIOHandles -/

def collectHandles (select : BlkIoHandle → Selection) (maxBlkIopCnt : Nat) :
    List BlkIoHandle → List BlkIoHandle → EfiStatus × List BlkIoHandle
  | [], found => (EFI_SUCCESS, found)
  | h :: rest, found =>
    match select h with
    | .skip => collectHandles select maxBlkIopCnt rest found
    | .stop status => (status, [])
    | .take =>
      if (found ++ [h]).length ≥ maxBlkIopCnt then (EFI_SUCCESS, found ++ [h])
      else collectHandles select maxBlkIopCnt rest (found ++ [h])

def defaultAttrib (attrib : BitVec 32) : BitVec 32 :=
  let media := BLK_IO_SEL_MEDIA_TYPE_REMOVABLE ||| BLK_IO_SEL_MEDIA_TYPE_NON_REMOVABLE
  let scheme := BLK_IO_SEL_PARTITIONED_GPT ||| BLK_IO_SEL_PARTITIONED_MBR
  let attrib := if Bits.test attrib media then attrib else attrib ||| media
  if Bits.test attrib scheme then attrib else attrib ||| scheme

def HandleDatabase.located (db : HandleDatabase) (attrib : BitVec 32) :
    EfiStatus × List BlkIoHandle :=
  if Bits.test attrib (BLK_IO_SEL_SELECT_MOUNTED_FILESYSTEM |||
      BLK_IO_SEL_SELECT_BY_VOLUME_NAME) then db.fileSystem
  else db.blockIo

/-- `GetBlkIOHandles`: the status, and the handles put into the caller's list, whose length is
    the count the caller gets. -/
def getBlkIOHandles (db : HandleDatabase) (attrib : BitVec 32) (filter : PartiSelectFilter)
    (maxBlkIopCnt : Nat) : EfiStatus × List BlkIoHandle :=
  let attrib := defaultAttrib attrib
  let located := db.located attrib
  if located.1 ≠ EFI_SUCCESS then (located.1, [])
  else collectHandles (selectHandle attrib filter) maxBlkIopCnt located.2 []

def Matches (attrib : BitVec 32) (filter : PartiSelectFilter) (h : BlkIoHandle) : Prop :=
  selectHandle (defaultAttrib attrib) filter h = .take

instance (attrib : BitVec 32) (filter : PartiSelectFilter) (h : BlkIoHandle) :
    Decidable (Matches attrib filter h) := inferInstanceAs (Decidable (_ = _))

def HandleDatabase.matching (db : HandleDatabase) (attrib : BitVec 32)
    (filter : PartiSelectFilter) : List BlkIoHandle :=
  (db.located (defaultAttrib attrib)).2.filter fun h => Matches attrib filter h

/-- The handle that decides a search for one handle: the first that is not passed over. -/
def HandleDatabase.deciding (db : HandleDatabase) (attrib : BitVec 32)
    (filter : PartiSelectFilter) : Option BlkIoHandle :=
  (db.located (defaultAttrib attrib)).2.find? fun h =>
    selectHandle (defaultAttrib attrib) filter h ≠ .skip

/-- The search ends with an error: the firmware has no list of handles, or the deciding handle is
    one whose checks fail. -/
def SearchFails (db : HandleDatabase) (attrib : BitVec 32) (filter : PartiSelectFilter) : Prop :=
  (db.located (defaultAttrib attrib)).1 ≠ EFI_SUCCESS ∨
    ∃ h ∈ db.deciding attrib filter, ¬ Matches attrib filter h

instance (db : HandleDatabase) (attrib : BitVec 32) (filter : PartiSelectFilter) :
    Decidable (SearchFails db attrib filter) := inferInstanceAs (Decidable (_ ∨ _))

section Search

variable {db : HandleDatabase} {attrib : BitVec 32} {filter : PartiSelectFilter}

theorem collectHandles_one (select : BlkIoHandle → Selection) (handles : List BlkIoHandle) :
    collectHandles select 1 handles [] =
      match handles.find? fun h => select h ≠ .skip with
      | none => (EFI_SUCCESS, [])
      | some h =>
        match select h with
        | .stop status => (status, [])
        | _ => (EFI_SUCCESS, [h]) := by
  induction handles with
  | nil => rfl
  | cons h rest ih =>
    rw [collectHandles, List.find?_cons]
    cases hselect : select h with
    | skip => simpa [hselect] using ih
    | stop status => simp [hselect]
    | take => simp [hselect]

def Selection.EndsInError (s : Selection) : Prop :=
  ∀ status, s = .stop status → status ≠ EFI_SUCCESS

theorem Selection.EndsInError.when (passes : Bool) : (Selection.when passes).EndsInError := by
  intro status h
  cases passes <;> cases h

theorem Selection.EndsInError.take : Selection.take.EndsInError := fun _ h => nomatch h

theorem Selection.EndsInError.skip : Selection.skip.EndsInError := fun _ h => nomatch h

theorem Selection.EndsInError.stop {status : EfiStatus} (h : status ≠ EFI_SUCCESS) :
    (Selection.stop status).EndsInError := by
  rintro _ ⟨⟩
  exact h

theorem Selection.EndsInError.andThen {first next : Selection} (hfirst : first.EndsInError)
    (hnext : next.EndsInError) : (first.andThen next).EndsInError := by
  cases first with
  | skip => exact .skip
  | stop status => exact hfirst
  | take => exact hnext

variable {h : BlkIoHandle}

theorem selectType_endsInError : (selectType attrib filter h).EndsInError := by
  unfold selectType
  split
  · split
    · exact .stop (by decide)
    · exact .when _
  · exact .take

theorem selectDevicePath_endsInError : (selectDevicePath attrib filter h).EndsInError := by
  unfold selectDevicePath
  split
  · split
    · exact .skip
    · apply Selection.EndsInError.andThen
      · unfold selectRoot
        split
        · exact .when _
        · exact .take
      apply Selection.EndsInError.andThen (.when _)
      unfold selectPartition
      split
      · exact .andThen (.when _) selectType_endsInError
      · exact .when _
  · exact .take

theorem selectFileSystem_endsInError : (selectFileSystem attrib filter h).EndsInError := by
  unfold selectFileSystem
  split
  · split
    · exact .skip
    · split
      · split
        · exact .stop (by decide)
        · exact .when _
      · exact .take
  · exact .take

theorem selectHandle_endsInError : (selectHandle attrib filter h).EndsInError := by
  apply Selection.EndsInError.andThen
  · unfold selectBlockIo
    split_ifs with _ hne
    · exact .skip
    · exact .stop hne
    · exact .take
  apply Selection.EndsInError.andThen (.when _)
  apply Selection.EndsInError.andThen selectDevicePath_endsInError
  apply Selection.EndsInError.andThen selectFileSystem_endsInError
  unfold selectLabel
  split
  · split
    · exact .skip
    · exact .when _
  · exact .take

/-- A search for one handle fails, or gives the one that decides. -/
theorem getBlkIOHandles_one :
    (SearchFails db attrib filter →
      ∃ status, status ≠ EFI_SUCCESS ∧ getBlkIOHandles db attrib filter 1 = (status, [])) ∧
    (¬ SearchFails db attrib filter →
      getBlkIOHandles db attrib filter 1 =
        (EFI_SUCCESS, (db.deciding attrib filter).toList)) := by
  unfold SearchFails getBlkIOHandles HandleDatabase.deciding Matches
  by_cases hlocated : (db.located (defaultAttrib attrib)).1 ≠ EFI_SUCCESS
  · rw [if_pos hlocated]
    exact ⟨fun _ => ⟨_, hlocated, rfl⟩, fun h => absurd (Or.inl hlocated) h⟩
  rw [if_neg hlocated, collectHandles_one]
  cases hfind : (db.located (defaultAttrib attrib)).2.find? fun h =>
      selectHandle (defaultAttrib attrib) filter h ≠ .skip with
  | none => simp [hlocated]
  | some h =>
    have hskip := List.find?_some hfind
    cases hselect : selectHandle (defaultAttrib attrib) filter h with
    | skip => simp [hselect] at hskip
    | stop status => simp [hselect, selectHandle_endsInError status hselect]
    | take => simp [hlocated, hselect]

theorem deciding_isSome (h : db.matching attrib filter ≠ []) :
    ∃ h, db.deciding attrib filter = some h := by
  obtain ⟨h, hmem⟩ := List.exists_mem_of_ne_nil _ h
  obtain ⟨hin, hmatches⟩ := List.mem_filter.mp hmem
  apply Option.isSome_iff_exists.mp
  rw [HandleDatabase.deciding, List.find?_isSome]
  refine ⟨h, hin, ?_⟩
  rw [show selectHandle (defaultAttrib attrib) filter h = .take from of_decide_eq_true hmatches]
  rfl

end Search

/-! ### WriteToPartition -/

/-- `GetBlkIOHandles` for a partition type: its status, and how many handles match. -/
structure HandleLookup where
  status : EfiStatus
  maxHandles : Nat
deriving DecidableEq, Repr

def writeToPartition (env : StorageEnv) (handles : HandleLookup) (io : BlockIo) (msg : Buffer)
    (msgSize : Nat) : Prog Disk Exit EfiStatus :=
  if handles.status = EFI_SUCCESS then
    if handles.maxHandles = 0 then return EFI_NO_MEDIA
    else if handles.maxHandles ≠ 1 then return EFI_LOAD_ERROR
    else writeBlockToPartition env io 0 msgSize msg
  else return handles.status

/-- The write goes to a partition that is found once and accepts the transfers. -/
def PartitionWriteAccepted (env : StorageEnv) (handles : HandleLookup) (io : BlockIo)
    (n msgSize : Nat) : Prop :=
  handles.status = EFI_SUCCESS ∧ handles.maxHandles = 1 ∧ WriteAccepted env io n msgSize

theorem writeToPartition_spec {env : StorageEnv} {handles : HandleLookup} {io : BlockIo}
    {msg : Buffer} {msgSize : Nat} {d : Disk} (hsize : msgSize ≤ MAX_WRITE_SIZE) :
    wp (writeToPartition env handles io msg msgSize)
      (fun status d' =>
        (status = EFI_SUCCESS ↔ PartitionWriteAccepted env handles io d.ops msgSize) ∧
        (status = EFI_SUCCESS → d'.contents = d.contents.overwrite 0 msgSize msg.byte))
      (fun _ _ => ¬ PartitionWriteAccepted env handles io d.ops msgSize) d := by
  unfold writeToPartition PartitionWriteAccepted
  by_cases hs : handles.status = EFI_SUCCESS
  · by_cases h0 : handles.maxHandles = 0
    · simp [hs, h0, EFI_NO_MEDIA, EFI_SUCCESS, encodeError]
    · by_cases h1 : handles.maxHandles = 1
      · rw [if_pos hs, if_neg h0, if_neg (not_not_intro h1)]
        refine wp_mono (writeBlockToPartition_short hsize) ?_ fun _ _ hno h => hno h.2.2
        rintro status d' ⟨hiff, hc⟩
        exact ⟨⟨fun h => ⟨hs, h1, hiff.mp h⟩, fun h => hiff.mpr h.2.2⟩, hc⟩
      · simp [hs, h0, h1, EFI_LOAD_ERROR, EFI_SUCCESS, encodeError]
  · simp [hs]

/-! ### Loading from and writing to a partition -/

abbrev Disks := Nat → Disk

def diskAt (handle : Nat) : Lens Disks Disk where
  get s := s handle
  set s d := Function.update s handle d
  get_set _ _ := Function.update_self _ _ _
  set_get _ := Function.update_eq_self _ _
  set_set _ _ _ := Function.update_idem _ _ _

def labelAttrib : BitVec 32 :=
  BLK_IO_SEL_PARTITIONED_MBR ||| BLK_IO_SEL_PARTITIONED_GPT |||
    BLK_IO_SEL_MEDIA_TYPE_NON_REMOVABLE ||| BLK_IO_SEL_MATCH_PARTITION_LABEL

def typeAttrib : BitVec 32 :=
  BLK_IO_SEL_PARTITIONED_GPT ||| BLK_IO_SEL_MEDIA_TYPE_NON_REMOVABLE |||
    BLK_IO_SEL_MATCH_PARTITION_TYPE_GUID

def labelFilter (label : Text) : PartiSelectFilter := ⟨none, none, none, label⟩

def typeFilter (type : Guid) : PartiSelectFilter := ⟨none, some type, none, []⟩

/-- The bytes `LoadImageFromPartition` reads: the size of the image in whole blocks.
    `BlockSize - 1` is a `UINT32`. -/
def imageReadSize (io : BlockIo) (imageSize : Nat) : Nat :=
  ROUND_TO_PAGE imageSize (u32 (io.blockSize + MAX_UINT32))

/-- `LoadImageFromPartition`: the status, and the buffer after it.  What a read that fails leaves in
    the buffer is not modelled. -/
def loadImageFromPartition (db : HandleDatabase) (imageBuffer : Bytes) (imageSize : Nat)
    (pname : Text) : Prog Disks Exit (EfiStatus × Bytes) := do
  let found := getBlkIOHandles db labelAttrib (labelFilter pname) 1
  if found.1 ≠ EFI_SUCCESS then
    return (found.1, imageBuffer)
  match found.2 with
  | [] => return (EFI_NO_MEDIA, imageBuffer)
  | h :: rest =>
    if rest ≠ [] then
      return (EFI_LOAD_ERROR, imageBuffer)
    let size := imageReadSize h.io imageSize
    let (status, data) ← zoom (diskAt h.handle) (h.io.readBlocks 0 size)
    if status ≠ EFI_SUCCESS then
      return (status, imageBuffer)
    return (status, imageBuffer.overwrite 0 size data)

theorem exec_loadImageFromPartition {db : HandleDatabase} {imageBuffer : Bytes} {imageSize : Nat}
    {pname : Text} {s : Disks} {h : BlkIoHandle}
    (hfound : getBlkIOHandles db labelAttrib (labelFilter pname) 1 = (EFI_SUCCESS, [h])) :
    (loadImageFromPartition db imageBuffer imageSize pname).exec s =
      let size := imageReadSize h.io imageSize
      let status := h.io.transferStatus (s h.handle).ops 0 size
      (.ok (status, if status = EFI_SUCCESS then
          imageBuffer.overwrite 0 size (s h.handle).contents else imageBuffer),
        Function.update s h.handle { s h.handle with
          ops := (s h.handle).ops + 1
          log := (s h.handle).log ++ [.readBlocks 0 size] }) := by
  have hread : (h.io.readBlocks 0 (imageReadSize h.io imageSize)).exec (s h.handle) =
      (.ok (h.io.transferStatus (s h.handle).ops 0 (imageReadSize h.io imageSize),
        (s h.handle).contents.shift (0 * h.io.blockSize)),
        { s h.handle with
          ops := (s h.handle).ops + 1
          log := (s h.handle).log ++ [.readBlocks 0 (imageReadSize h.io imageSize)] }) := rfl
  rw [Nat.zero_mul, Bytes.shift_zero] at hread
  unfold loadImageFromPartition
  rw [hfound]
  simp only [ne_eq, not_true_eq_false, if_false]
  rw [exec_bind, exec_zoom, show (diskAt h.handle).get s = s h.handle from rfl, hread]
  dsimp only
  by_cases hstatus : h.io.transferStatus (s h.handle).ops 0 (imageReadSize h.io imageSize) =
      EFI_SUCCESS
  · rw [if_neg (not_not_intro hstatus), if_pos hstatus]
    rfl
  · rw [if_pos hstatus, if_neg hstatus]
    rfl

theorem loadImageFromPartition_loads (db : HandleDatabase) (imageBuffer : Bytes) (imageSize : Nat)
    (pname : Text) (s : Disks) :
    ∃ status image s', (loadImageFromPartition db imageBuffer imageSize pname).exec s =
        (.ok (status, image), s') ∧
      (status = EFI_SUCCESS → ∃ h, db.deciding labelAttrib (labelFilter pname) = some h ∧
        image = imageBuffer.overwrite 0 (imageReadSize h.io imageSize) (s h.handle).contents) := by
  by_cases hsearch : SearchFails db labelAttrib (labelFilter pname)
  · obtain ⟨status, hstatus, hfound⟩ := getBlkIOHandles_one.1 hsearch
    refine ⟨status, imageBuffer, s, ?_, fun h => absurd h hstatus⟩
    unfold loadImageFromPartition
    rw [hfound]
    rw [if_pos hstatus]
    rfl
  · have hfound := getBlkIOHandles_one.2 hsearch
    cases hdeciding : db.deciding labelAttrib (labelFilter pname) with
    | none =>
      rw [hdeciding] at hfound
      refine ⟨EFI_NO_MEDIA, imageBuffer, s, ?_, fun h => absurd h (by decide)⟩
      unfold loadImageFromPartition
      rw [hfound]
      rfl
    | some h =>
      rw [hdeciding] at hfound
      refine ⟨_, _, _, exec_loadImageFromPartition hfound, fun hstatus => ⟨h, rfl, ?_⟩⟩
      rw [if_pos hstatus]

def writeToPartitionType (env : StorageEnv) (db : HandleDatabase) (ptype : Guid)
    (msg : Option Buffer) (msgSize : Nat) : Prog Disks Exit EfiStatus :=
  match msg with
  | none => return EFI_INVALID_PARAMETER
  | some msg =>
    let found := getBlkIOHandles db typeAttrib (typeFilter ptype) 1
    match found.2 with
    | [] => if found.1 = EFI_SUCCESS then return EFI_NO_MEDIA else return found.1
    | h :: _ => zoom (diskAt h.handle)
        (writeToPartition env ⟨found.1, found.2.length⟩ h.io msg msgSize)

end OhMyAbl
