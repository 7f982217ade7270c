/-
  **What becomes of a partition of which there are several.**

  `LoadImageFromPartition`, `WriteToPartition` and the `GetHandleInfo` of libavb refuse a count of
  handles other than one.  Their list has room for one, so the count is never more than one, and the
  first of several partitions is used.
-/
import OhMyAbl.Avb.ParallelLoad
import OhMyAbl.Partition.Slots
import OhMyAbl.Storage.Handles

namespace OhMyAbl

open Prog

def getHandleInfo (db : HandleDatabase) (partition : List UInt8) :
    AvbIOResult × Option BlkIoHandle :=
  if partition.length + 1 > MAX_GPT_NAME_SIZE then .mk AvbIOResult.ERROR_IO none
  else
    let found := getBlkIOHandles db labelAttrib (labelFilter (asciiStrToUnicodeStr partition)) 1
    if found.1 ≠ EFI_SUCCESS then .mk AvbIOResult.ERROR_IO none
    else
      match found.2 with
      | [] => (.ERROR_NO_SUCH_PARTITION, none)
      | h :: rest => if rest ≠ [] then .mk AvbIOResult.ERROR_IO none else (.OK, some h)

/-! ### What is asked of the disks -/

def IoEvent.isTransfer : IoEvent → Bool
  | .load .. => false
  | .readBlocks .. => true
  | .writeBlocks .. => true

def Disk.transfers (d : Disk) : List IoEvent := d.log.filter IoEvent.isTransfer

def Untouched (s s' : Disks) : Prop := ∀ handle, (s' handle).transfers = (s handle).transfers

def PartitionRefused (s : Disks) (run : Except Exit EfiStatus × Disks) : Prop :=
  ∃ status, status ≠ EFI_SUCCESS ∧ run.1 = .ok status ∧ Untouched s run.2

def Asks (d d' : Disk) : Prop := d.transfers.length ≤ d'.transfers.length

instance : Std.Refl Asks where
  refl _ := Nat.le_refl _

instance : IsTrans Disk Asks where
  trans _ _ _ h h' := Nat.le_trans h h'

section Asks

variable {env : StorageEnv} {io : BlockIo} {image : Buffer}

theorem asks_of_log {d d' : Disk} {events : List IoEvent} (h : d'.log = d.log ++ events) :
    Asks d d' := by
  rw [Asks, Disk.transfers, Disk.transfers, h, List.filter_append, List.length_append]
  exact Nat.le_add_right _ _

theorem writeBlocks_asks {lba size : Nat} {data : Bytes} :
    Steps Asks (io.writeBlocks lba size data) := fun _ => asks_of_log rfl

theorem readBlocks_asks {lba size : Nat} : Steps Asks (io.readBlocks lba size) :=
  fun _ => asks_of_log rfl

theorem loadBytes_asks {off len : Nat} : Steps Asks (loadBytes image off len) :=
  fun _ => asks_of_log rfl

theorem flushBlocks_asks : Steps Asks io.flushBlocks :=
  fun d => asks_of_log (List.append_nil d.log).symm

theorem writeUnits_asks {unit div : Nat} (fuel : Nat) :
    ∀ {left offset : Nat}, Steps Asks (writeUnits io unit div image fuel left offset) := by
  induction fuel with
  | zero =>
    intro left offset
    exact .ite (.pure _) (.throw _)
  | succ fuel ih =>
    intro left offset
    exact .ite (.pure _)
      (.bind loadBytes_asks fun _ => .bind writeBlocks_asks fun _ => .ite (.pure _) ih)

theorem writeTail_asks {wbs offset div rest : Nat} :
    Steps Asks (writeTail env io wbs offset div rest image) :=
  .bind .get fun _ => .ite (.pure _) (.bind readBlocks_asks fun _ => .ite (.pure _)
    (.bind loadBytes_asks fun _ => writeBlocks_asks))

end Asks

/-- The write fails before anything is asked of the device: the erase protocol is missing, there is
    no memory for the one block it would patch, or there is nothing to write and the flush fails. -/
def WriteSilent (env : StorageEnv) (io : BlockIo) (n size : Nat) : Prop :=
  (env.rootDeviceType = .NAND ∧ env.eraseProtocol ≠ EFI_SUCCESS) ∨
    (size < writeBlockSizeOf env io ∧
      if size = 0 then io.outcome n ≠ EFI_SUCCESS else env.zeroPool n = false)

section Silent

variable {env : StorageEnv} {io : BlockIo} {image : Buffer} {d : Disk}

def Asked (d d' : Disk) : Prop := d.transfers.length < d'.transfers.length

theorem Asked.ne {d' : Disk} (h : Asked d d') : d'.transfers ≠ d.transfers := by
  intro heq
  rw [Asked, heq] at h
  exact Nat.lt_irrefl _ h

theorem Asked.wp {α : Type} {m : Prog Disk Exit α} {d₁ : Disk} (h : Asked d d₁)
    (hm : Steps Asks m) :
    Prog.wp m (fun _ d' => Asked d d') (fun _ d' => Asked d d') d₁ :=
  wp_mono (wp_of_steps hm) (fun _ _ hle => Nat.lt_of_lt_of_le h hle)
    fun _ _ hle => Nat.lt_of_lt_of_le h hle

theorem asked_of_log {d₁ : Disk} {e : IoEvent} (he : e.isTransfer = true)
    {before : List IoEvent} (h : d₁.log = d.log ++ before ++ [e]) : Asked d d₁ := by
  rw [Asked, Disk.transfers, Disk.transfers, h, List.filter_append, List.filter_append,
    List.length_append, List.length_append, List.filter_cons_of_pos he, List.length_cons]
  omega

theorem writeUnits_asked {unit div fuel left offset : Nat} (hleft : left ≠ 0) :
    Prog.wp (writeUnits io unit div image (fuel + 1) left offset) (fun _ d' => Asked d d')
      (fun _ d' => Asked d d') d := by
  unfold writeUnits
  rw [if_neg hleft, wp_bind, wp_loadBytes, wp_bind, wp_writeBlocks]
  apply Asked.wp
  · exact asked_of_log rfl rfl
  · exact .ite (.pure _) (writeUnits_asks fuel)

theorem writeTail_asked {wbs offset div rest : Nat} (hpool : env.zeroPool d.ops = true) :
    Prog.wp (writeTail env io wbs offset div rest image) (fun _ d' => Asked d d')
      (fun _ d' => Asked d d') d := by
  unfold writeTail
  rw [wp_bind, wp_get, hpool]
  simp only [Bool.not_true, Bool.false_eq_true, if_false]
  rw [wp_bind, wp_readBlocks]
  apply Asked.wp
  · exact @asked_of_log d _ (.readBlocks offset wbs) rfl [] (by rw [List.append_nil])
  · exact .ite (.pure _) (.bind loadBytes_asks fun _ => writeBlocks_asks)

theorem Asked.not_silent {d₁ : Disk} {status : EfiStatus} {P : Prop} (h : Asked d d₁) (hP : ¬ P) :
    Prog.wp (if status ≠ EFI_SUCCESS then pure status else io.flushBlocks)
      (fun status d' => status ≠ EFI_SUCCESS ∧ d'.transfers = d.transfers ↔ P) (fun _ _ => ¬ P)
      d₁ := by
  have hflush : Steps Asks (if status ≠ EFI_SUCCESS then pure status else io.flushBlocks) :=
    .ite (.pure status) flushBlocks_asks
  apply wp_mono (h.wp hflush)
  · intro _ _ hasked
    exact ⟨fun hsilent => absurd hsilent.2 hasked.ne, fun h => absurd h hP⟩
  · intro _ _ _
    exact hP

theorem writeBlockToPartition_silent {size : Nat} (hsize : size < 2 ^ 32) :
    Prog.wp (writeBlockToPartition env io 0 size image)
      (fun status d' => status ≠ EFI_SUCCESS ∧ d'.transfers = d.transfers ↔
        WriteSilent env io d.ops size)
      (fun _ _ => ¬ WriteSilent env io d.ops size) d := by
  unfold writeBlockToPartition writeBlockToPartitionNoFlush WriteSilent
  by_cases hn : env.rootDeviceType = .NAND ∧ env.eraseProtocol ≠ EFI_SUCCESS
  · simp [hn]
  generalize writeBlockSizeOf env io = wbs
  by_cases h0 : wbs = 0
  · simp [hn, h0]
  simp only [hn, h0, if_false, false_or]
  have hdle : size / wbs * wbs ≤ size := Nat.div_mul_le_self _ _
  have hdiv : u32 (size / wbs * wbs) = size / wbs * wbs := Nat.mod_eq_of_lt (by omega)
  rw [hdiv, wp_bind, wp_bind, wp_get, wp_bind]
  by_cases hlt : size < wbs
  · -- no whole block: the patched block, or only the flush
    rw [Nat.div_eq_of_lt hlt, Nat.zero_mul, writeUnits_done, wp_pure]
    simp only [Nat.sub_zero, hlt]
    by_cases hzero : size = 0
    · simp [hzero, wp_flushBlocks, Disk.transfers]
    · rw [if_pos (Nat.pos_of_ne_zero hzero), if_neg hzero]
      cases hpool : env.zeroPool d.ops with
      | false => simp [writeTail, hpool, EFI_OUT_OF_RESOURCES, EFI_SUCCESS, encodeError]
      | true =>
        apply wp_mono (writeTail_asked hpool)
        · intro status d' hasked
          exact hasked.not_silent (by simp)
        · intro _ _ _
          simp
  · -- a whole block: its unit is written
    obtain ⟨fuel, hfuel⟩ : ∃ fuel, size / wbs * wbs = fuel + 1 := by
      have hpos : 0 < size / wbs * wbs :=
        Nat.mul_pos (Nat.div_pos (by omega) (by omega)) (by omega)
      exact ⟨size / wbs * wbs - 1, by omega⟩
    simp only [hlt, false_and]
    rw [hfuel]
    apply wp_mono (writeUnits_asked (Nat.succ_ne_zero fuel))
    · rintro ⟨status, next⟩ d' hasked
      have hrest : Steps Asks (if status ≠ EFI_SUCCESS then pure status
          else if size - (fuel + 1) > 0 then writeTail env io wbs next (fuel + 1)
            (size - (fuel + 1)) image else pure status : Prog Disk Exit EfiStatus) :=
        .ite (.pure _) (.ite writeTail_asks (.pure _))
      apply wp_mono (hasked.wp hrest)
      · intro status' d'' hasked'
        exact hasked'.not_silent not_false
      · intro _ _ _
        exact not_false
    · intro _ _ _
      exact not_false

end Silent

/-! ### Several partitions that match -/

section Ambiguous

variable {env : StorageEnv} {db : HandleDatabase} {attrib : BitVec 32} {filter : PartiSelectFilter}
  {s : Disks}

theorem getBlkIOHandles_ambiguous (hmany : 2 ≤ (db.matching attrib filter).length)
    (hsearch : ¬ SearchFails db attrib filter) :
    ∃ h, db.deciding attrib filter = some h ∧
      getBlkIOHandles db attrib filter 1 = (EFI_SUCCESS, [h]) := by
  have hne : db.matching attrib filter ≠ [] := by
    intro hnil
    rw [hnil] at hmany
    exact absurd hmany (by decide)
  obtain ⟨h, hdeciding⟩ := deciding_isSome hne
  have hfound := getBlkIOHandles_one.2 hsearch
  rw [hdeciding] at hfound
  exact ⟨h, hdeciding, hfound⟩

theorem untouched_refl (s : Disks) : Untouched s s := fun _ => rfl

theorem untouched_update {h : Nat} {d : Disk} :
    Untouched s (Function.update s h d) ↔ d.transfers = (s h).transfers := by
  constructor
  · intro huntouched
    have hself := huntouched h
    rwa [Function.update_self] at hself
  · intro heq handle
    by_cases hhandle : handle = h
    · rw [hhandle, Function.update_self, heq]
    · rw [Function.update_of_ne hhandle]

theorem loadImageFromPartition_refused_iff {buffer : Bytes} {imageSize : Nat} {pname : Text}
    (hmany : 2 ≤ (db.matching labelAttrib (labelFilter pname)).length) :
    PartitionRefused s ((Prod.fst <$> loadImageFromPartition db buffer imageSize pname).exec s) ↔
      SearchFails db labelAttrib (labelFilter pname) := by
  by_cases hsearch : SearchFails db labelAttrib (labelFilter pname)
  · obtain ⟨status, hstatus, hfound⟩ := getBlkIOHandles_one.1 hsearch
    unfold loadImageFromPartition
    rw [hfound]
    rw [if_pos hstatus]
    exact ⟨fun _ => hsearch, fun _ => ⟨status, hstatus, rfl, untouched_refl s⟩⟩
  · obtain ⟨h, -, hfound⟩ := getBlkIOHandles_ambiguous hmany hsearch
    rw [map_eq_pure_bind, exec_bind, exec_loadImageFromPartition hfound]
    refine ⟨?_, fun h => absurd h hsearch⟩
    rintro ⟨status, -, -, huntouched⟩
    have hlog := untouched_update.mp huntouched
    exact absurd hlog (Asked.ne (@asked_of_log _ _ (.readBlocks 0 _) rfl []
      (by rw [List.append_nil])))

theorem refused_zoom {h : Nat} {m : Prog Disk Exit EfiStatus} {P : Prop}
    (hm : wp m (fun status d' => status ≠ EFI_SUCCESS ∧ d'.transfers = (s h).transfers ↔ P)
      (fun _ _ => ¬ P) (s h)) : PartitionRefused s ((zoom (diskAt h) m).exec s) ↔ P := by
  unfold wp at hm
  rw [PartitionRefused, exec_zoom, show (diskAt h).get s = s h from rfl]
  rcases hrun : m.exec (s h) with ⟨e | status, d'⟩
  · rw [hrun] at hm
    refine ⟨?_, fun hP => absurd hP hm⟩
    rintro ⟨status, -, hresult, -⟩
    cases hresult
  · rw [hrun] at hm
    rw [← show _ ↔ P from hm]
    constructor
    · rintro ⟨_, hstatus, ⟨⟩, huntouched⟩
      exact ⟨hstatus, untouched_update.mp huntouched⟩
    · rintro ⟨hstatus, heq⟩
      exact ⟨status, hstatus, rfl, untouched_update.mpr heq⟩

theorem writeToPartitionType_refused_iff {ptype : Guid} {msg : Option Buffer} {msgSize : Nat}
    (hsize : msgSize < 2 ^ 32) (hmany : 2 ≤ (db.matching typeAttrib (typeFilter ptype)).length) :
    PartitionRefused s ((writeToPartitionType env db ptype msg msgSize).exec s) ↔
      msg = none ∨ SearchFails db typeAttrib (typeFilter ptype) ∨
        ∃ h ∈ db.deciding typeAttrib (typeFilter ptype),
          WriteSilent env h.io (s h.handle).ops msgSize := by
  unfold writeToPartitionType
  cases msg with
  | none =>
    refine ⟨fun _ => Or.inl rfl, fun _ => ⟨EFI_INVALID_PARAMETER, by decide, rfl, ?_⟩⟩
    exact untouched_refl s
  | some msg =>
    dsimp only
    by_cases hsearch : SearchFails db typeAttrib (typeFilter ptype)
    · obtain ⟨status, hstatus, hfound⟩ := getBlkIOHandles_one.1 hsearch
      rw [hfound]
      rw [if_neg hstatus]
      exact ⟨fun _ => Or.inr (Or.inl hsearch), fun _ => ⟨status, hstatus, rfl, untouched_refl s⟩⟩
    · obtain ⟨h, hdeciding, hfound⟩ := getBlkIOHandles_ambiguous hmany hsearch
      rw [hfound, hdeciding]
      have hwrite : writeToPartition env ⟨EFI_SUCCESS, [h].length⟩ h.io msg msgSize =
          writeBlockToPartition env h.io 0 msgSize msg := rfl
      simp only [hsearch, reduceCtorEq, Option.mem_def, Option.some.injEq, exists_eq_left',
        false_or]
      exact refused_zoom (writeBlockToPartition_silent hsize)

theorem getHandleInfo_refused_iff {partition : List UInt8}
    (hmany : 2 ≤ (db.matching labelAttrib (labelFilter (asciiStrToUnicodeStr partition))).length) :
    (getHandleInfo db partition).1 ≠ .OK ↔
      MAX_GPT_NAME_SIZE < partition.length + 1 ∨
        SearchFails db labelAttrib (labelFilter (asciiStrToUnicodeStr partition)) := by
  unfold getHandleInfo
  by_cases hlong : partition.length + 1 > MAX_GPT_NAME_SIZE
  · rw [if_pos hlong]
    exact ⟨fun _ => Or.inl hlong, fun _ => by decide⟩
  rw [if_neg hlong]
  by_cases hsearch : SearchFails db labelAttrib (labelFilter (asciiStrToUnicodeStr partition))
  · obtain ⟨status, hstatus, hfound⟩ := getBlkIOHandles_one.1 hsearch
    rw [hfound, if_pos hstatus]
    exact ⟨fun _ => Or.inr hsearch, fun _ => by decide⟩
  · obtain ⟨h, -, hfound⟩ := getBlkIOHandles_ambiguous hmany hsearch
    rw [hfound]
    simp [hsearch, hlong]

end Ambiguous

/-- When a partition of which there are several is refused without a read or a write. -/
theorem ambiguousPartition_refused_iff (env : StorageEnv) (db : HandleDatabase) (s : Disks) :
    (∀ pname buffer imageSize, 2 ≤ (db.matching labelAttrib (labelFilter pname)).length →
      (PartitionRefused s ((Prod.fst <$> loadImageFromPartition db buffer imageSize pname).exec s) ↔
        SearchFails db labelAttrib (labelFilter pname))) ∧
    (∀ ptype msg msgSize, msgSize < 2 ^ 32 →
      2 ≤ (db.matching typeAttrib (typeFilter ptype)).length →
      (PartitionRefused s ((writeToPartitionType env db ptype msg msgSize).exec s) ↔
        msg = none ∨ SearchFails db typeAttrib (typeFilter ptype) ∨
          ∃ h ∈ db.deciding typeAttrib (typeFilter ptype),
            WriteSilent env h.io (s h.handle).ops msgSize)) ∧
    (∀ partition,
      2 ≤ (db.matching labelAttrib (labelFilter (asciiStrToUnicodeStr partition))).length →
      ((getHandleInfo db partition).1 ≠ .OK ↔
        MAX_GPT_NAME_SIZE < partition.length + 1 ∨
          SearchFails db labelAttrib (labelFilter (asciiStrToUnicodeStr partition)))) := by
  refine ⟨?_, ?_, ?_⟩
  · intro pname buffer imageSize hmany
    exact loadImageFromPartition_refused_iff hmany
  · intro ptype msg msgSize hsize hmany
    exact writeToPartitionType_refused_iff hsize hmany
  · intro partition hmany
    exact getHandleInfo_refused_iff hmany

def bootHandle (handle : Nat) (blockIo : EfiStatus) : BlkIoHandle where
  handle := handle
  blockIo := blockIo
  io := ⟨512, 7, sector_lt, by decide, fun _ => EFI_SUCCESS⟩
  removableMedia := false
  devicePath := some [⟨0x01, 0x04, 20, 0, 0⟩, ⟨0x04, 0x01, 42, 0, PARTITIONED_TYPE_GPT⟩]
  hasProtocol := fun _ => false
  partitionType := some 1
  fileSystem := none
  partitionName := some (wide "boot")

def twoBoots : HandleDatabase :=
  ⟨(EFI_SUCCESS, [bootHandle 0 EFI_SUCCESS, bootHandle 1 EFI_SUCCESS]), (EFI_NOT_FOUND, [])⟩

def twoBootsBehindError : HandleDatabase :=
  ⟨(EFI_SUCCESS, bootHandle 2 EFI_DEVICE_ERROR :: twoBoots.blockIo.2), (EFI_NOT_FOUND, [])⟩

/-- An error of the search refuses the partition. -/
theorem ambiguousPartition_refused_error :
    2 ≤ (twoBootsBehindError.matching labelAttrib (labelFilter (wide "boot"))).length ∧
      PartitionRefused (fun _ => ⟨fun _ => 0, 0, []⟩) ((Prod.fst <$> loadImageFromPartition
        twoBootsBehindError (fun _ => 0) 4096 (wide "boot")).exec fun _ => ⟨fun _ => 0, 0, []⟩) :=
  ⟨by decide, ((ambiguousPartition_refused_iff ⟨.UFS, EFI_SUCCESS, 0, fun _ => false, fun _ => true⟩
    twoBootsBehindError _).1 (wide "boot") (fun _ => 0) 4096 (by decide)).mpr (by decide)⟩

/-- Of two partitions with one label and one type the first is read and written, and its handle is
    given to libavb. -/
theorem twoBoots_accepted :
    let s : Disks := fun _ => ⟨fun _ => 0, 0, []⟩
    let load := (Prod.fst <$> loadImageFromPartition twoBoots (fun _ => 0) 4096
      (wide "boot")).exec s
    let write := (writeToPartitionType ⟨.UFS, EFI_SUCCESS, 0, fun _ => false, fun _ => true⟩
      twoBoots
      1 (some ⟨.pool, 0, fun _ => 7⟩) 4).exec s
    (twoBoots.matching labelAttrib (labelFilter (wide "boot"))).length = 2 ∧
      (twoBoots.matching typeAttrib (typeFilter 1)).length = 2 ∧
      load.1 = .ok EFI_SUCCESS ∧ (load.2 0).transfers = [.readBlocks 0 4096] ∧
      write.1 = .ok EFI_SUCCESS ∧
      (write.2 0).transfers = [.readBlocks 0 512, .writeBlocks 0 512] ∧
      (getHandleInfo twoBoots (ascii "boot")).1 = .OK := by
  decide +kernel

end OhMyAbl
