/-
  **Flashing a partition table.**

  `WriteGpt` (`PartitionTableUpdate.c`) checks both headers of an image, patches what depends on the
  size of the device, erases the device and writes the parts to their places.  No run of it leaves a
  valid table: `PatchGpt` stores the block of the primary header in the field of the backup header
  that holds the backup header's own block.
-/
import OhMyAbl.Storage.BlockIo

namespace OhMyAbl

open Prog Bytes

/-! ### The format (`PartitionTableUpdate.h`) -/

def SUCCESS : Nat := 0
def FAILURE : Nat := 1

def GPT_SIGNATURE_1 : Nat := 0x54524150
def GPT_SIGNATURE_2 : Nat := 0x20494645
def GPT_HEADER_SIZE : Nat := 92
def GPT_LBA : Nat := 1
def GPT_PART_ENTRY_SIZE : Nat := 128
def GPT_HDR_BLOCKS : Nat := 1
def MIN_PARTITION_ARRAY_SIZE : Nat := 0x4000
def PARTITION_ENTRY_SIZE : Nat := 128
def MAX_PARTITION_ENTRIES_SZ : Nat := 128 * PARTITION_ENTRY_SIZE

def HEADER_SIZE_OFFSET : Nat := 12
def HEADER_CRC_OFFSET : Nat := 16
def PRIMARY_HEADER_OFFSET : Nat := 24
def BACKUP_HEADER_OFFSET : Nat := 32
def FIRST_USABLE_LBA_OFFSET : Nat := 40
def LAST_USABLE_LBA_OFFSET : Nat := 48
def PARTITION_ENTRIES_OFFSET : Nat := 72
def PARTITION_COUNT_OFFSET : Nat := 80
def PENTRY_SIZE_OFFSET : Nat := 84
def PARTITION_CRC_OFFSET : Nat := 88
def PARTITION_ENTRY_LAST_LBA : Nat := 40

def MBR_SIGNATURE : Nat := 510
def MBR_PARTITION_RECORD : Nat := 446
def OS_TYPE : Nat := 4
def GPT_PROTECTIVE : Nat := 0xEE

structure GptHeaderData where
  firstUsableLba : Nat
  partEntrySz : Nat
  headerSz : Nat
  maxPtCnt : Nat
  lastUsableLba : Nat
deriving DecidableEq, Repr

def headerData (g : Bytes) (hdr : Nat) : GptHeaderData where
  firstUsableLba := g.u64At (hdr + FIRST_USABLE_LBA_OFFSET)
  partEntrySz := g.u32At (hdr + PENTRY_SIZE_OFFSET)
  headerSz := g.u32At (hdr + HEADER_SIZE_OFFSET)
  maxPtCnt := g.u32At (hdr + PARTITION_COUNT_OFFSET)
  lastUsableLba := g.u64At (hdr + LAST_USABLE_LBA_OFFSET)

/-! ### Parsing, patching and writing -/

structure GptEnv where
  getStorageHandle : EfiStatus
  maxHandles : Nat
  blockIo : BlockIo
  /-- `CalculateCrc32` of the bytes, with its status. -/
  calculateCrc32 : List UInt8 → EfiStatus × Nat
  eraseProtocol : EfiStatus
  eraseBlocks : EfiStatus
  /-- What reads back from the medium once it is erased. -/
  erased : Bytes

structure GptState where
  image : Bytes
  parseSecondaryGpt : Bool
  flashingGpt : Bool
  disk : Disk

/-- The routines of `WriteGpt`: a failure anywhere is a return of `WriteGpt`. -/
abbrev GptProg := Prog GptState (Jump Exit Nat)

def failIf (c : Prop) [Decidable c] : GptProg PUnit := if c then goto FAILURE else pure ⟨⟩

def putImage (a n v : Nat) : GptProg PUnit :=
  modify fun s => { s with image := s.image.put a n v }

variable (env : GptEnv)

def crcOfImage (a n : Nat) : GptProg (EfiStatus × Nat) := do
  let s ← get
  return env.calculateCrc32 (s.image.slice a n)

/-- `ParseGptHeader` for the header at offset `hdr` of the image.  Only the low word of the
    header's own block is looked at, and in no run after the first one: the flag that marks
    the second header is never reset. -/
def parseGptHeader (density blkSz hdr : Nat) : GptProg GptHeaderData := do
  let s ← get
  failIf (s.image.u32At hdr ≠ GPT_SIGNATURE_2 ∨ s.image.u32At (hdr + 4) ≠ GPT_SIGNATURE_1)
  let header := headerData s.image hdr
  failIf (header.headerSz < GPT_HEADER_SIZE)
  failIf (header.headerSz > blkSz)
  putImage (hdr + HEADER_CRC_OFFSET) 4 0
  let crc ← crcOfImage env hdr header.headerSz
  failIf (crc.1 ≠ EFI_SUCCESS)
  failIf (crc.2 ≠ s.image.u32At (hdr + HEADER_CRC_OFFSET))
  putImage (hdr + HEADER_CRC_OFFSET) 4 crc.2
  failIf (s.parseSecondaryGpt = false ∧
    u32 (s.image.u64At (hdr + PRIMARY_HEADER_OFFSET)) ≠ GPT_LBA)
  failIf (header.firstUsableLba > density / blkSz)
  failIf (header.lastUsableLba > density / blkSz)
  failIf (header.partEntrySz ≠ GPT_PART_ENTRY_SIZE)
  failIf (header.maxPtCnt > MIN_PARTITION_ARRAY_SIZE / header.partEntrySz)
  return header

/-- The entries in use at the start of an array: those before the first one with a type GUID
    of zeros. -/
def entryCount (g : Bytes) (start : Nat) : Nat → Nat
  | 0 => 0
  | n + 1 =>
    if g.u64At start = 0 ∧ g.u64At (start + 8) = 0 then 0
    else entryCount g (start + PARTITION_ENTRY_SIZE) n + 1

def patchCrc (src size dst : Nat) : GptProg PUnit := do
  let crc ← crcOfImage env src size
  failIf (EFI_ERROR crc.1 = true)
  putImage dst 4 crc.2

def patchHeaders (numSectors ptnEntryBlks primary secondary : Nat) : GptProg PUnit := do
  putImage (primary + BACKUP_HEADER_OFFSET) 8 (u64Sub numSectors 1)
  putImage (primary + LAST_USABLE_LBA_OFFSET) 8 (u64Sub numSectors (ptnEntryBlks + 1))
  putImage (secondary + PRIMARY_HEADER_OFFSET) 8 1
  putImage (secondary + LAST_USABLE_LBA_OFFSET) 8 (u64Sub numSectors (ptnEntryBlks + 1))
  putImage (secondary + PARTITION_ENTRIES_OFFSET) 8 (u64Sub numSectors ptnEntryBlks)

/-- The last partition of both arrays is made to reach the end of the device.  In an empty
    array the offset of its last entry wraps around. -/
def patchLastPartition (numSectors ptnEntryBlks entries partEntryArrSz maxPtCnt : Nat) :
    GptProg PUnit := do
  let s ← get
  let totalPart := entryCount s.image entries maxPtCnt
  let lastPartOffset := u32 (totalPart * PARTITION_ENTRY_SIZE + (2 ^ 32 - PARTITION_ENTRY_SIZE) +
    PARTITION_ENTRY_LAST_LBA)
  putImage (entries + lastPartOffset) 8 (u64Sub numSectors (ptnEntryBlks + 1))
  putImage (entries + lastPartOffset + partEntryArrSz) 8 (u64Sub numSectors (ptnEntryBlks + 1))

/-- The CRCs of both arrays and then of both headers.  The headers are summed over the minimal
    size, whatever size they give. -/
def patchCrcs (primary secondary entries partEntryArrSz arraySz : Nat) : GptProg PUnit := do
  patchCrc env entries arraySz (primary + PARTITION_CRC_OFFSET)
  patchCrc env (entries + partEntryArrSz) arraySz (secondary + PARTITION_CRC_OFFSET)
  putImage (primary + HEADER_CRC_OFFSET) 4 0
  patchCrc env primary GPT_HEADER_SIZE (primary + HEADER_CRC_OFFSET)
  putImage (secondary + HEADER_CRC_OFFSET) 4 0
  patchCrc env secondary GPT_HEADER_SIZE (secondary + HEADER_CRC_OFFSET)

def patchGpt (density partEntryArrSz : Nat) (header : GptHeaderData) (blkSz : Nat) :
    GptProg PUnit := do
  let numSectors := density / blkSz
  let ptnEntryBlks := MAX_PARTITION_ENTRIES_SZ / blkSz + GPT_HDR_BLOCKS
  let primary := blkSz
  let secondary := u32 (u32 (2 * partEntryArrSz) + blkSz) + primary
  let entries := primary + blkSz
  patchHeaders numSectors ptnEntryBlks primary secondary
  patchLastPartition numSectors ptnEntryBlks entries partEntryArrSz header.maxPtCnt
  patchCrcs env primary secondary entries partEntryArrSz
    (u32 (header.maxPtCnt * header.partEntrySz))

def GptState.diskLens : Lens GptState Disk where
  get := GptState.disk
  set := fun s d => { s with disk := d }

def eraseDevice : GptProg PUnit := do
  failIf (env.eraseProtocol ≠ EFI_SUCCESS)
  failIf (env.eraseBlocks ≠ EFI_SUCCESS)
  modify fun s => { s with disk := { s.disk with contents := env.erased } }

def writeFromImage (lba size src : Nat) : GptProg PUnit := do
  let s ← get
  let status ← call (zoom GptState.diskLens (env.blockIo.writeBlocks lba size (s.image.shift src)))
  failIf (EFI_ERROR status = true)

/-- The writes of `WriteGpt`; the places of the entry arrays and of the backup header are read
    back from the patched headers. -/
def writeParts (blkSz partEntryArrSz secondary : Nat) : GptProg PUnit := do
  let primary := blkSz
  let s ← get
  writeFromImage env 0 blkSz 0
  writeFromImage env 1 blkSz primary
  writeFromImage env (s.image.u64At (primary + BACKUP_HEADER_OFFSET)) blkSz secondary
  writeFromImage env (s.image.u64At (primary + PARTITION_ENTRIES_OFFSET)) partEntryArrSz
    (primary + blkSz)
  writeFromImage env (s.image.u64At (secondary + PARTITION_ENTRIES_OFFSET)) partEntryArrSz
    (primary + blkSz + partEntryArrSz)

/-- `WriteGpt` up to its second call of `ParseGptHeader`: the size of the arrays, and the header the
    rest works with.  The record of the first header is filled again from the second one. -/
def checkGpt (sz : Nat) : GptProg (Nat × GptHeaderData) := do
  let density := env.blockIo.getPartitionSize
  failIf (density = 0)
  let blkSz := env.blockIo.blockSize
  failIf (sz ≤ u32 (blkSz * 2))
  let primary := blkSz
  let header ← parseGptHeader env density blkSz primary
  let partEntryArrSz := max (u32 (header.partEntrySz * header.maxPtCnt)) MIN_PARTITION_ARRAY_SIZE
  let offset := u32 (2 * partEntryArrSz)
  failIf (sz < u32 (offset + u32 (blkSz * 3)))
  let secondary := u32 (offset + blkSz) + primary
  modify fun s => { s with parseSecondaryGpt := true }
  let header ← parseGptHeader env density blkSz secondary
  return (partEntryArrSz, header)

def commitGpt (sz : Nat) (checked : Nat × GptHeaderData) : GptProg Nat := do
  let blkSz := env.blockIo.blockSize
  let partEntryArrSz := checked.1
  patchGpt env env.blockIo.getPartitionSize partEntryArrSz checked.2 blkSz
  eraseDevice env
  writeParts env blkSz partEntryArrSz (u32 (u32 (2 * partEntryArrSz) + blkSz) + blkSz)
  let status ← call (zoom GptState.diskLens env.blockIo.flushBlocks)
  failIf (EFI_ERROR status = true)
  modify fun s => { s with flashingGpt := false, image := s.image.overwrite 0 sz fun _ => 0 }
  return SUCCESS

def writeGptTo (sz : Nat) : GptProg Nat := do
  let checked ← checkGpt env sz
  commitGpt env sz checked

/-- `WriteGpt`: a device that is not found alone is reported with the status of the lookup,
    which may be a success. -/
def writeGpt (sz : Nat) : Prog GptState Exit Nat :=
  if u32 env.getStorageHandle.toNat ≠ 0 ∨ env.maxHandles ≠ 1 then
    return u32 env.getStorageHandle.toNat
  else block (writeGptTo env sz)

/-- `PartitionGetType`: whether the image is a GPT, `none` if it is too short to tell. -/
def partitionGetType (g : Bytes) (sz : Nat) : Option Bool :=
  if MBR_SIGNATURE + 1 ≥ sz ∨ g MBR_SIGNATURE ≠ 0x55 ∨ g (MBR_SIGNATURE + 1) ≠ 0xAA then some false
  else if sz ≤ MBR_PARTITION_RECORD + OS_TYPE then none
  else some ((g (MBR_PARTITION_RECORD + OS_TYPE)).toNat = GPT_PROTECTIVE)

def updatePartitionTable (sz : Nat) : Prog GptState Exit EfiStatus := do
  let s ← get
  match partitionGetType s.image sz with
  | none => return EFI_NOT_FOUND
  | some false => return EFI_UNSUPPORTED
  | some true =>
    modify fun s => { s with flashingGpt := true }
    let ret ← writeGpt env sz
    return if ret ≠ SUCCESS then EFI_VOLUME_CORRUPTED else EFI_SUCCESS

/-! ### Valid tables -/

def headerAt (c : Bytes) (blkSz lba : Nat) : Bytes := c.shift (lba * blkSz)

/-- The blocks an entry array takes: those of its entries, and at least the 16 KiB that are
    written for it. -/
def arrayBlocks (h : Bytes) (blkSz : Nat) : Nat :=
  (max MIN_PARTITION_ARRAY_SIZE (h.u32At PARTITION_COUNT_OFFSET * h.u32At PENTRY_SIZE_OFFSET) +
    blkSz - 1) / blkSz

/-- One copy of the table, with its header at block `lba` and the other one at `other`. -/
structure GptCopy (crc32 : List UInt8 → Nat) (c : Bytes) (blkSz lba other : Nat) : Prop where
  headerCrc : (headerAt c blkSz lba).u32At HEADER_CRC_OFFSET =
    crc32 (((headerAt c blkSz lba).put HEADER_CRC_OFFSET 4 0).slice 0
      ((headerAt c blkSz lba).u32At HEADER_SIZE_OFFSET))
  myLba : (headerAt c blkSz lba).u64At PRIMARY_HEADER_OFFSET = lba
  alternateLba : (headerAt c blkSz lba).u64At BACKUP_HEADER_OFFSET = other
  entriesCrc : (headerAt c blkSz lba).u32At PARTITION_CRC_OFFSET =
    crc32 (c.slice ((headerAt c blkSz lba).u64At PARTITION_ENTRIES_OFFSET * blkSz)
      ((headerAt c blkSz lba).u32At PARTITION_COUNT_OFFSET *
        (headerAt c blkSz lba).u32At PENTRY_SIZE_OFFSET))

/-- The blocks of the headers and of the entry arrays, as first block and number. -/
def gptExtents (c : Bytes) (blkSz backup : Nat) : List (Nat × Nat) :=
  [(1, 1), (backup, 1),
    ((headerAt c blkSz 1).u64At PARTITION_ENTRIES_OFFSET, arrayBlocks (headerAt c blkSz 1) blkSz),
    ((headerAt c blkSz backup).u64At PARTITION_ENTRIES_OFFSET,
      arrayBlocks (headerAt c blkSz backup) blkSz)]

/-- A valid table on a device of `blocks` blocks: the primary copy at block one, the backup at
    the last block. -/
structure ValidGpt (crc32 : List UInt8 → Nat) (c : Bytes) (blkSz blocks : Nat) : Prop where
  primary : GptCopy crc32 c blkSz 1 (blocks - 1)
  backup : GptCopy crc32 c blkSz (blocks - 1) 1
  inside : ∀ e ∈ gptExtents c blkSz (blocks - 1), e.1 + e.2 ≤ blocks
  disjoint : (gptExtents c blkSz (blocks - 1)).Pairwise fun e e' =>
    e.1 + e.2 ≤ e'.1 ∨ e'.1 + e'.2 ≤ e.1

/-! ### What the patches leave in the headers -/

section Patch

variable {env : GptEnv} {s : GptState} {R : GptState → GptState → Prop} {c : Prop} {a n v : Nat}

def GptFails (j : Jump Exit Nat) : Prop := j = .goto FAILURE

theorem failIf_raises [Decidable c] : Raises GptFails (failIf c) :=
  .ite (.goto rfl) (.pure _)

theorem failIf_steps [Std.Refl R] [Decidable c] : Steps R (failIf c) :=
  .ite (.goto _) (.pure _)

theorem putImage_raises : Raises GptFails (putImage a n v) := fun _ => trivial

variable {src size dst primary secondary entries partEntryArrSz arraySz numSectors : Nat}

theorem patchCrc_raises : Raises GptFails (patchCrc env src size dst) :=
  .bind (.bind .get fun _ => .pure _) fun _ => .bind failIf_raises fun _ => putImage_raises

theorem patchCrcs_raises :
    Raises GptFails (patchCrcs env primary secondary entries partEntryArrSz arraySz) :=
  .bind patchCrc_raises fun _ => .bind patchCrc_raises fun _ => .bind putImage_raises fun _ =>
    .bind patchCrc_raises fun _ => .bind putImage_raises fun _ => patchCrc_raises

/-- The sums are stored in two fields of each header, and nothing else is. -/
theorem patchCrcs_steps [Std.Refl R] [IsTrans GptState R] (hput : ∀ {hdr off v : Nat},
      hdr = primary ∨ hdr = secondary → off = HEADER_CRC_OFFSET ∨ off = PARTITION_CRC_OFFSET →
      Steps R (putImage (hdr + off) 4 v)) :
    Steps R (patchCrcs env primary secondary entries partEntryArrSz arraySz) := by
  have hcrc : ∀ {hdr off src size}, hdr = primary ∨ hdr = secondary →
      off = HEADER_CRC_OFFSET ∨ off = PARTITION_CRC_OFFSET →
      Steps R (patchCrc env src size (hdr + off)) := fun hhdr hoff =>
    .bind (.bind .get fun _ => .pure _) fun _ => .bind failIf_steps fun _ => hput hhdr hoff
  exact .bind (hcrc (.inl rfl) (.inr rfl)) fun _ => .bind (hcrc (.inr rfl) (.inr rfl)) fun _ =>
    .bind (hput (.inl rfl) (.inl rfl)) fun _ => .bind (hcrc (.inl rfl) (.inl rfl)) fun _ =>
    .bind (hput (.inr rfl) (.inl rfl)) fun _ => hcrc (.inr rfl) (.inl rfl)

variable {header : GptHeaderData} {density ptnEntryBlks blkSz cnt b : Nat} {fields : List Nat}

theorem patchGpt_raises : Raises GptFails (patchGpt env density partEntryArrSz header blkSz) :=
  .bind (.bind putImage_raises fun _ => .bind putImage_raises fun _ => .bind putImage_raises
    fun _ => .bind putImage_raises fun _ => putImage_raises) fun _ =>
    .bind (.bind .get fun _ => .bind putImage_raises fun _ => putImage_raises) fun _ =>
      patchCrcs_raises

def KeepsFields (fields : List Nat) (s s' : GptState) : Prop :=
  ∀ a ∈ fields, s'.image.u64At a = s.image.u64At a

instance : Std.Refl (KeepsFields fields) := ⟨fun _ _ _ => rfl⟩

instance : IsTrans GptState (KeepsFields fields) :=
  ⟨fun _ _ _ h h' a ha => (h' a ha).trans (h a ha)⟩

theorem putImage_keeps (h : ∀ a ∈ fields, b + n ≤ a ∨ a + 8 ≤ b) :
    Steps (KeepsFields fields) (putImage b n v) :=
  .modify fun _ a ha => u64At_overwrite_outside (h a ha)

theorem entryCount_le {g : Bytes} : ∀ n start : Nat, entryCount g start n ≤ n := by
  intro n
  induction n with
  | zero => exact fun _ => Nat.le_refl _
  | succ n ih =>
    intro start
    rw [entryCount]
    split
    · exact Nat.zero_le _
    · exact Nat.succ_le_succ (ih _)

theorem lastPartOffset_cases (g : Bytes) (start : Nat) : ∀ n, n ≤ 128 →
    let off := u32 (entryCount g start n * PARTITION_ENTRY_SIZE + (2 ^ 32 - PARTITION_ENTRY_SIZE) +
      PARTITION_ENTRY_LAST_LBA)
    off + 8 ≤ MIN_PARTITION_ARRAY_SIZE ∨ off = 2 ^ 32 - 88 := by
  intro n hn
  have hle : entryCount g start n ≤ n := entryCount_le n start
  simp only [PARTITION_ENTRY_SIZE, PARTITION_ENTRY_LAST_LBA, MIN_PARTITION_ARRAY_SIZE, u32]
  omega

/-- The words of the headers that say where the parts go, once they are patched. -/
structure Patched (numSectors blkSz secondary : Nat) (g : Bytes) : Prop where
  backupLba : g.u64At (blkSz + BACKUP_HEADER_OFFSET) = u64Sub numSectors 1
  secondaryLba : g.u64At (secondary + PRIMARY_HEADER_OFFSET) = 1
  secondaryEntries : g.u64At (secondary + PARTITION_ENTRIES_OFFSET) =
    u64Sub numSectors (MAX_PARTITION_ENTRIES_SZ / blkSz + GPT_HDR_BLOCKS)

theorem patchHeaders_spec (h : primary + GPT_HEADER_SIZE ≤ secondary) :
    wp (patchHeaders numSectors ptnEntryBlks primary secondary)
      (fun _ s' => s'.image.u64At (primary + BACKUP_HEADER_OFFSET) = u64Sub numSectors 1 ∧
        s'.image.u64At (secondary + PRIMARY_HEADER_OFFSET) = 1 ∧
        s'.image.u64At (secondary + PARTITION_ENTRIES_OFFSET) = u64Sub numSectors ptnEntryBlks)
      anyExit s := by
  have hsub : ∀ a b, u64Sub a b < 2 ^ 64 := fun _ _ => Nat.mod_lt _ (Nat.two_pow_pos 64)
  simp only [GPT_HEADER_SIZE] at h
  refine ⟨?_, ?_, ?_⟩
  · simp only [BACKUP_HEADER_OFFSET, LAST_USABLE_LBA_OFFSET]
    iterate 4 rw [put, u64At_overwrite_outside (by omega)]
    exact u64At_put (hsub _ _)
  · simp only [LAST_USABLE_LBA_OFFSET, PRIMARY_HEADER_OFFSET, PARTITION_ENTRIES_OFFSET]
    iterate 2 rw [put, u64At_overwrite_outside (by omega)]
    exact u64At_put (by decide)
  · exact u64At_put (hsub _ _)

/-- Where the backup header stands in an image with arrays of the minimal size. -/
def secondaryOffset (blkSz : Nat) : Nat := 2 * MIN_PARTITION_ARRAY_SIZE + 2 * blkSz

def backupOffset (blkSz : Nat) : Nat := u32 (u32 (2 * MIN_PARTITION_ARRAY_SIZE) + blkSz) + blkSz

theorem backupOffset_eq (hblk : blkSz < 2 ^ 31) : backupOffset blkSz = secondaryOffset blkSz := by
  simp only [backupOffset, u32, secondaryOffset, MIN_PARTITION_ARRAY_SIZE]
  omega

def patchedFields (blkSz : Nat) : List Nat :=
  [blkSz + BACKUP_HEADER_OFFSET, secondaryOffset blkSz + PRIMARY_HEADER_OFFSET,
    secondaryOffset blkSz + PARTITION_ENTRIES_OFFSET]

theorem patchedFields_apart
    (h : b + n ≤ blkSz + 32 ∨ (blkSz + 40 ≤ b ∧ b + n ≤ 2 * 16384 + 2 * blkSz + 24) ∨
      2 * 16384 + 2 * blkSz + 80 ≤ b) : ∀ a ∈ patchedFields blkSz, b + n ≤ a ∨ a + 8 ≤ b := by
  simp only [patchedFields, secondaryOffset, MIN_PARTITION_ARRAY_SIZE, BACKUP_HEADER_OFFSET,
    PRIMARY_HEADER_OFFSET, PARTITION_ENTRIES_OFFSET, List.mem_cons, List.not_mem_nil, or_false]
  omega

theorem patchLastPartition_keeps (hcnt : cnt ≤ 128) (hmin : 92 ≤ blkSz) (hblk : blkSz < 2 ^ 31) :
    Steps (KeepsFields (patchedFields blkSz))
      (patchLastPartition numSectors ptnEntryBlks (blkSz + blkSz)
        MIN_PARTITION_ARRAY_SIZE cnt) := by
  refine .bind .get fun s => ?_
  have hcases := lastPartOffset_cases s.image (blkSz + blkSz) cnt hcnt
  simp only [MIN_PARTITION_ARRAY_SIZE] at hcases ⊢
  exact .bind (putImage_keeps (patchedFields_apart (by omega))) fun _ =>
    putImage_keeps (patchedFields_apart (by omega))

theorem patchCrcs_keeps :
    Steps (KeepsFields (patchedFields blkSz))
      (patchCrcs env blkSz (secondaryOffset blkSz) entries partEntryArrSz arraySz) := by
  refine patchCrcs_steps fun hhdr hoff => putImage_keeps (patchedFields_apart ?_)
  simp only [secondaryOffset, MIN_PARTITION_ARRAY_SIZE, PARTITION_CRC_OFFSET, HEADER_CRC_OFFSET]
    at hhdr hoff
  omega

theorem patchGpt_spec (hcnt : header.maxPtCnt ≤ 128) (hmin : 92 ≤ blkSz) (hblk : blkSz < 2 ^ 31) :
    wp (patchGpt env density MIN_PARTITION_ARRAY_SIZE header blkSz)
      (fun _ s' => Patched (density / blkSz) blkSz (secondaryOffset blkSz) s'.image)
      anyExit s := by
  have hsecondary := backupOffset_eq hblk
  rw [backupOffset] at hsecondary
  unfold patchGpt
  simp only [hsecondary]
  refine wp_seq (patchHeaders_spec ?_) ?_
  · simp only [GPT_HEADER_SIZE, secondaryOffset]
    omega
  rintro - s₁ ⟨hbackup, hlba, hentries⟩
  -- none of the later stores touches the words that are in place
  refine Steps.imp (.bind (patchLastPartition_keeps hcnt hmin hblk) fun _ => patchCrcs_keeps) ?_
  intro _ s' hkeeps
  refine ⟨?_, ?_, ?_⟩
  · rw [hkeeps _ (.head _), hbackup]
  · rw [hkeeps _ (.tail _ (.head _)), hlba]
  · rw [hkeeps _ (.tail _ (.tail _ (.head _))), hentries]

end Patch

/-! ### What is checked -/

/-- What `ParseGptHeader` asks of the header at offset `hdr` of an image. -/
structure HeaderAccepted (env : GptEnv) (g : Bytes) (parseSecondary : Bool) (hdr : Nat) : Prop where
  signature : g.u32At hdr = GPT_SIGNATURE_2 ∧ g.u32At (hdr + 4) = GPT_SIGNATURE_1
  headerSz : GPT_HEADER_SIZE ≤ (headerData g hdr).headerSz ∧
    (headerData g hdr).headerSz ≤ env.blockIo.blockSize
  crc : env.calculateCrc32 ((g.put (hdr + HEADER_CRC_OFFSET) 4 0).slice hdr
    (headerData g hdr).headerSz) = (EFI_SUCCESS, g.u32At (hdr + HEADER_CRC_OFFSET))
  myLba : parseSecondary = false → u32 (g.u64At (hdr + PRIMARY_HEADER_OFFSET)) = GPT_LBA
  firstUsableLba : (headerData g hdr).firstUsableLba ≤
    env.blockIo.getPartitionSize / env.blockIo.blockSize
  lastUsableLba : (headerData g hdr).lastUsableLba ≤
    env.blockIo.getPartitionSize / env.blockIo.blockSize
  partEntrySz : (headerData g hdr).partEntrySz = GPT_PART_ENTRY_SIZE
  maxPtCnt : (headerData g hdr).maxPtCnt ≤ MIN_PARTITION_ARRAY_SIZE / GPT_PART_ENTRY_SIZE

theorem headerAccepted_iff {env : GptEnv} {g : Bytes} {flag : Bool} {hdr : Nat} :
    HeaderAccepted env g flag hdr ↔
      ((g.u32At hdr = GPT_SIGNATURE_2 ∧ g.u32At (hdr + 4) = GPT_SIGNATURE_1) ∧
        (GPT_HEADER_SIZE ≤ (headerData g hdr).headerSz ∧
          (headerData g hdr).headerSz ≤ env.blockIo.blockSize) ∧
        env.calculateCrc32 ((g.put (hdr + HEADER_CRC_OFFSET) 4 0).slice hdr
          (headerData g hdr).headerSz) = (EFI_SUCCESS, g.u32At (hdr + HEADER_CRC_OFFSET)) ∧
        (flag = false → u32 (g.u64At (hdr + PRIMARY_HEADER_OFFSET)) = GPT_LBA) ∧
        (headerData g hdr).firstUsableLba ≤ env.blockIo.getPartitionSize / env.blockIo.blockSize ∧
        (headerData g hdr).lastUsableLba ≤ env.blockIo.getPartitionSize / env.blockIo.blockSize ∧
        (headerData g hdr).partEntrySz = GPT_PART_ENTRY_SIZE ∧
        (headerData g hdr).maxPtCnt ≤ MIN_PARTITION_ARRAY_SIZE / GPT_PART_ENTRY_SIZE) :=
  ⟨fun ⟨h₁, h₂, h₃, h₄, h₅, h₆, h₇, h₈⟩ => ⟨h₁, h₂, h₃, h₄, h₅, h₆, h₇, h₈⟩,
    fun ⟨h₁, h₂, h₃, h₄, h₅, h₆, h₇, h₈⟩ => ⟨h₁, h₂, h₃, h₄, h₅, h₆, h₇, h₈⟩⟩

instance {env : GptEnv} {g : Bytes} {flag : Bool} {hdr : Nat} :
    Decidable (HeaderAccepted env g flag hdr) :=
  decidable_of_iff' _ headerAccepted_iff

/-- What `WriteGpt` asks of an image before it comes to the backup header. -/
structure PrimaryAccepted (env : GptEnv) (sz : Nat) (s : GptState) : Prop where
  density : env.blockIo.getPartitionSize ≠ 0
  size : u32 (env.blockIo.blockSize * 2) < sz ∧
    u32 (u32 (2 * MIN_PARTITION_ARRAY_SIZE) + u32 (env.blockIo.blockSize * 3)) ≤ sz
  primary : HeaderAccepted env s.image s.parseSecondaryGpt env.blockIo.blockSize

/-- A check has failed, and the device and the flag are as they were. -/
structure GptRefused (s : GptState) (j : Jump Exit Nat) (s' : GptState) : Prop where
  fails : GptFails j
  disk : s'.disk = s.disk
  flag : s'.parseSecondaryGpt = s.parseSecondaryGpt

section Checks

variable {env : GptEnv} {s : GptState} {hdr sz : Nat}

theorem wp_failIf {c : Prop} {α : Type} [Decidable c] {m : PUnit → GptProg α}
    {Q : α → GptState → Prop} {E : Jump Exit Nat → GptState → Prop}
    (hfails : c → E (.goto FAILURE) s) (hgoes : ¬ c → wp (m ⟨⟩) Q E s) :
    wp (failIf c >>= m) Q E s := by
  rw [wp_bind, failIf, wp_ite]
  exact ⟨hfails, hgoes⟩

/-- The parser succeeds exactly on a header that passes all checks. -/
theorem parseGptHeader_accepts :
    wp (parseGptHeader env env.blockIo.getPartitionSize env.blockIo.blockSize hdr)
      (fun h s' => s' = s ∧ h = headerData s.image hdr ∧
        HeaderAccepted env s.image s.parseSecondaryGpt hdr)
      (fun j s' => GptRefused s j s' ∧ ¬ HeaderAccepted env s.image s.parseSecondaryGpt hdr) s := by
  have hrefused : ∀ {image}, GptRefused s (.goto FAILURE) { s with image := image } :=
    ⟨rfl, rfl, rfl⟩
  unfold parseGptHeader
  rw [wp_bind, wp_get]
  apply wp_failIf (fun hbad => ⟨hrefused, fun h => hbad.elim (· h.signature.1) (· h.signature.2)⟩)
  intro hsignature
  apply wp_failIf (fun hbad => ⟨hrefused, fun h => Nat.not_lt.mpr h.headerSz.1 hbad⟩)
  intro hmin
  apply wp_failIf (fun hbad => ⟨hrefused, fun h => Nat.not_lt.mpr h.headerSz.2 hbad⟩)
  intro hmax
  apply wp_failIf (fun hbad => ⟨hrefused, fun h => hbad (congrArg Prod.fst h.crc)⟩)
  intro hstatus
  apply wp_failIf (fun hbad => ⟨hrefused, fun h => hbad (congrArg Prod.snd h.crc)⟩)
  intro hcrc
  rw [not_not] at hstatus hcrc
  rw [putImage, wp_bind, wp_modify, hcrc]
  apply wp_failIf (fun hbad => ⟨hrefused, fun h => hbad.2 (h.myLba hbad.1)⟩)
  intro hlba
  apply wp_failIf (fun hbad => ⟨hrefused, fun h => Nat.not_lt.mpr h.firstUsableLba hbad⟩)
  intro hfirst
  apply wp_failIf (fun hbad => ⟨hrefused, fun h => Nat.not_lt.mpr h.lastUsableLba hbad⟩)
  intro hlast
  apply wp_failIf (fun hbad => ⟨hrefused, fun h => hbad h.partEntrySz⟩)
  intro hsize
  rw [not_not] at hsize
  apply wp_failIf (fun hbad => ⟨hrefused, fun h => Nat.not_lt.mpr h.maxPtCnt (hsize ▸ hbad)⟩)
  intro hcount
  refine ⟨?_, rfl, ?_⟩
  · -- the sum was cleared and stored again
    rw [Bytes.put_put, Bytes.put_u32At]
  · rw [not_or, not_not, not_not] at hsignature
    refine ⟨hsignature, ⟨Nat.not_lt.mp hmin, Nat.not_lt.mp hmax⟩, Prod.ext hstatus hcrc, ?_,
      Nat.not_lt.mp hfirst, Nat.not_lt.mp hlast, hsize, ?_⟩
    · intro hsecond
      by_contra hne
      exact hlba ⟨hsecond, hne⟩
    · rw [hsize] at hcount
      exact Nat.not_lt.mp hcount

theorem partEntryArrSz_eq {g : Bytes} {flag : Bool} (h : HeaderAccepted env g flag hdr) :
    max (u32 ((headerData g hdr).partEntrySz * (headerData g hdr).maxPtCnt))
      MIN_PARTITION_ARRAY_SIZE = MIN_PARTITION_ARRAY_SIZE := by
  have hcount := h.maxPtCnt
  rw [h.partEntrySz]
  simp only [u32, GPT_PART_ENTRY_SIZE] at hcount ⊢
  omega

/-- The checks of `WriteGpt` let an image through with arrays of the minimal size; one that fails
    sets the flag if the backup header is the reason. -/
theorem checkGpt_spec :
    wp (checkGpt env sz)
      (fun checked s' => checked = (MIN_PARTITION_ARRAY_SIZE,
          headerData s.image (backupOffset env.blockIo.blockSize)) ∧
        s' = { s with parseSecondaryGpt := true } ∧ PrimaryAccepted env sz s ∧
        HeaderAccepted env s.image true (backupOffset env.blockIo.blockSize))
      (fun j s' => GptRefused s j s' ∧ ¬ PrimaryAccepted env sz s ∨
        GptRefused { s with parseSecondaryGpt := true } j s' ∧ PrimaryAccepted env sz s ∧
          ¬ HeaderAccepted env s.image true (backupOffset env.blockIo.blockSize)) s := by
  have hrefused : GptRefused s (.goto FAILURE) s := ⟨rfl, rfl, rfl⟩
  apply wp_failIf (fun hzero => .inl ⟨hrefused, fun h => h.density hzero⟩)
  intro hdensity
  apply wp_failIf (fun hshort => .inl ⟨hrefused, fun h => Nat.not_lt.mpr hshort h.size.1⟩)
  intro hsize
  rw [wp_bind]
  refine wp_mono parseGptHeader_accepts ?_ fun _ _ h => .inl ⟨h.1, fun h' => h.2 h'.primary⟩
  rintro header s ⟨rfl, rfl, hprimary⟩
  rw [partEntryArrSz_eq hprimary]
  apply wp_failIf (fun hshort => .inl ⟨hrefused, fun h => Nat.not_le.mpr hshort h.size.2⟩)
  intro harrays
  have haccepted : PrimaryAccepted env sz s :=
    ⟨hdensity, ⟨Nat.not_le.mp hsize, Nat.not_lt.mp harrays⟩, hprimary⟩
  rw [wp_bind, wp_modify, wp_bind]
  refine wp_mono parseGptHeader_accepts ?_ fun _ _ h => .inr ⟨h.1, haccepted, h.2⟩
  rintro _ _ ⟨rfl, rfl, hbackup⟩
  exact ⟨rfl, rfl, haccepted, hbackup⟩

end Checks

/-! ### What is written -/

section Commit

variable {env : GptEnv} {s : GptState} {sz : Nat}

theorem writeFromImage_raises {lba size src : Nat} :
    Raises GptFails (writeFromImage env lba size src) :=
  .bind .get fun _ => .bind (Returns.call fun _ => trivial) fun _ => failIf_raises

theorem commitGpt_raises {checked : Nat × GptHeaderData} :
    Raises GptFails (commitGpt env sz checked) := by
  refine .bind patchGpt_raises fun _ => .bind ?_ fun _ => .bind ?_ fun _ => ?_
  · exact .bind failIf_raises fun _ => .bind failIf_raises fun _ => .modify _
  · exact .bind .get fun _ => .bind writeFromImage_raises fun _ =>
      .bind writeFromImage_raises fun _ => .bind writeFromImage_raises fun _ =>
      .bind writeFromImage_raises fun _ => writeFromImage_raises
  · exact .bind (Returns.call fun _ => trivial) fun _ => .bind failIf_raises fun _ =>
      .bind (.modify _) fun _ => .pure _

theorem writeGptTo_raises : Raises GptFails (writeGptTo env sz) := by
  refine .bind (fun s => wp_mono checkGpt_spec (fun _ _ _ => trivial) ?_) fun _ => commitGpt_raises
  rintro j s' (h | h)
  · exact h.1.fails
  · exact h.1.fails

theorem updatePartitionTable_returns : Returns (updatePartitionTable env sz) := by
  refine .bind .get fun s => ?_
  cases partitionGetType s.image sz with
  | none => exact .pure _
  | some gpt =>
    cases gpt with
    | false => exact .pure _
    | true =>
      refine .bind (.modify _) fun _ => .bind (.ite (.pure _) ?_) fun _ => .pure _
      exact Returns.block writeGptTo_raises nofun

theorem eraseDevice_spec :
    wp (eraseDevice env)
      (fun _ s' => s'.image = s.image ∧ s'.disk.contents = env.erased) anyExit s :=
  wp_failIf (fun _ => trivial) fun _ => wp_failIf (fun _ => trivial) fun _ => ⟨rfl, rfl⟩

def BlockIo.Plain (io : BlockIo) : Prop :=
  ∀ n, io.outcome n = EFI_SUCCESS ∨ EFI_ERROR (io.outcome n) = true

theorem writeFromImage_spec (hio : env.blockIo.Plain) {lba size src : Nat} :
    wp (writeFromImage env lba size src)
      (fun _ s' => s'.image = s.image ∧
        s'.disk.contents = s.disk.contents.overwrite (lba * env.blockIo.blockSize) size
          (s.image.shift src) ∧
        size % env.blockIo.blockSize = 0 ∧
        lba + size / env.blockIo.blockSize ≤ env.blockIo.lastBlock + 1) anyExit s := by
  unfold writeFromImage BlockIo.writeBlocks
  refine .ite (fun _ => trivial) fun hstatus => ?_
  have hsuccess : env.blockIo.transferStatus s.disk.ops lba size = EFI_SUCCESS := by
    unfold BlockIo.transferStatus at hstatus ⊢
    split_ifs at hstatus ⊢ with h₁ h₂
    · exact absurd rfl hstatus
    · exact absurd rfl hstatus
    · exact (hio _).resolve_right hstatus
  exact ⟨rfl, if_pos hsuccess, env.blockIo.transferStatus_success hsuccess⟩

/-- What `WriteGpt` leaves on an erased device, with the backup header, which stands at offset
    `secondary` of the image, at block `backup` and the two arrays at `entries` and
    `backupEntries`. -/
def writtenGpt (erased image : Bytes) (blkSz secondary backup entries backupEntries : Nat) :
    Bytes :=
  let headers := ((erased.overwrite (0 * blkSz) blkSz (image.shift 0)).overwrite (1 * blkSz) blkSz
    (image.shift blkSz)).overwrite (backup * blkSz) blkSz (image.shift secondary)
  (headers.overwrite (entries * blkSz) MIN_PARTITION_ARRAY_SIZE
    (image.shift (blkSz + blkSz))).overwrite (backupEntries * blkSz) MIN_PARTITION_ARRAY_SIZE
    (image.shift (blkSz + blkSz + MIN_PARTITION_ARRAY_SIZE))

structure Written (io : BlockIo) (erased image c : Bytes)
    (secondary backup entries backupEntries : Nat) : Prop where
  contents : c = writtenGpt erased image io.blockSize secondary backup entries backupEntries
  whole : MIN_PARTITION_ARRAY_SIZE % io.blockSize = 0
  entries_le : entries + MIN_PARTITION_ARRAY_SIZE / io.blockSize ≤ io.lastBlock + 1
  backupEntries_le : backupEntries + MIN_PARTITION_ARRAY_SIZE / io.blockSize ≤ io.lastBlock + 1

theorem writeParts_spec (hio : env.blockIo.Plain) {secondary : Nat} :
    wp (writeParts env env.blockIo.blockSize MIN_PARTITION_ARRAY_SIZE secondary)
      (fun _ s' => Written env.blockIo s.disk.contents s.image s'.disk.contents secondary
        (s.image.u64At (env.blockIo.blockSize + BACKUP_HEADER_OFFSET))
        (s.image.u64At (env.blockIo.blockSize + PARTITION_ENTRIES_OFFSET))
        (s.image.u64At (secondary + PARTITION_ENTRIES_OFFSET)))
      anyExit s := by
  unfold writeParts
  simp only [wp_bind, wp_get]
  refine wp_imp (writeFromImage_spec hio) ?_
  rintro - s₁ ⟨himage₁, hc₁, -, -⟩
  refine wp_imp (writeFromImage_spec hio) ?_
  rintro - s₂ ⟨himage₂, hc₂, -, -⟩
  refine wp_imp (writeFromImage_spec hio) ?_
  rintro - s₃ ⟨himage₃, hc₃, -, -⟩
  refine wp_imp (writeFromImage_spec hio) ?_
  rintro - s₄ ⟨himage₄, hc₄, hwhole, hentries⟩
  refine wp_imp (writeFromImage_spec hio) ?_
  rintro - s₅ ⟨-, hc₅, -, hbackupEntries⟩
  refine ⟨?_, hwhole, hentries, hbackupEntries⟩
  rw [hc₅, hc₄, hc₃, hc₂, hc₁, himage₄, himage₃, himage₂, himage₁]
  rfl

/-- The protective record, both headers and both entry arrays of an image are on the device, the
    last three where the headers say. -/
def TableWritten (env : GptEnv) (image c : Bytes) : Prop :=
  Written env.blockIo env.erased image c (backupOffset env.blockIo.blockSize)
    (image.u64At (env.blockIo.blockSize + BACKUP_HEADER_OFFSET))
    (image.u64At (env.blockIo.blockSize + PARTITION_ENTRIES_OFFSET))
    (image.u64At (backupOffset env.blockIo.blockSize + PARTITION_ENTRIES_OFFSET))

/-- What is true of the image once it is patched is true of the one that is written. -/
theorem commitGpt_spec (hio : env.blockIo.Plain) {header : GptHeaderData} {P : Bytes → Prop}
    (hpatch : wp (patchGpt env env.blockIo.getPartitionSize MIN_PARTITION_ARRAY_SIZE header
      env.blockIo.blockSize) (fun _ s' => P s'.image) anyExit s) :
    wp (commitGpt env sz (MIN_PARTITION_ARRAY_SIZE, header))
      (fun ret s' => ret = SUCCESS ∧ ∃ g, P g ∧ TableWritten env g s'.disk.contents)
      (fun j _ => GptFails j) s := by
  refine wp_mono (wp_and (E := anyExit) ?_ (commitGpt_raises s)) (fun _ _ h => h.1)
    fun _ _ h => h.2
  refine wp_seq hpatch fun _ s₁ hg => wp_seq eraseDevice_spec ?_
  rintro - s₂ ⟨himage, herased⟩
  refine wp_seq (writeParts_spec hio) fun _ s₃ hwritten => ?_
  rw [herased, himage] at hwritten
  simp only [BlockIo.flushBlocks, wp_bind, wp_call, wp_zoom, wp_get, wp_modify, wp_pure]
  exact .ite (fun _ => trivial) fun _ => ⟨trivial, s₁.image, hg, hwritten⟩

end Commit

/-! ### What is left is no valid table -/

section NotValid

variable {c f : Bytes} {blkSz lba o : Nat}

theorem headerAt_overwrite_other {b n m : Nat} (hm : m = n * blkSz) (ho : o + 8 ≤ blkSz)
    (h : lba < b ∨ b + n ≤ lba) :
    (headerAt (c.overwrite (b * blkSz) m f) blkSz lba).u64At o =
      (headerAt c blkSz lba).u64At o := by
  unfold headerAt
  refine u64At_overwrite_outside ?_
  rcases h with h | h
  · have hle := Nat.mul_le_mul_right blkSz (Nat.succ_le_of_lt h)
    rw [Nat.succ_mul] at hle
    exact .inr (by omega)
  · have hle := Nat.mul_le_mul_right blkSz h
    rw [Nat.add_mul] at hle
    exact .inl (by omega)

theorem headerAt_overwrite_self (ho : o + 8 ≤ blkSz) :
    (headerAt (c.overwrite (lba * blkSz) blkSz f) blkSz lba).u64At o = f.u64At o := by
  unfold headerAt
  rw [u64At_shift, u64At_overwrite_inside (by omega) (by omega),
    Nat.add_sub_cancel_left]

theorem arrayBlocks_ge (h : Bytes) {k : Nat} (hk : MIN_PARTITION_ARRAY_SIZE = k * blkSz)
    (hpos : 0 < blkSz) : k ≤ arrayBlocks h blkSz := by
  unfold arrayBlocks
  rw [Nat.le_div_iff_mul_le hpos, ← hk]
  omega

variable {erased image : Bytes} {crc32 : List UInt8 → Nat} {blocks secondary entries k : Nat}

theorem writtenGpt_not_valid (hk : MIN_PARTITION_ARRAY_SIZE = k * blkSz) (hmin : 92 ≤ blkSz)
    (hblocks : k + 1 ≤ blocks) (hentries : entries + k ≤ blocks)
    (hprimary : image.u64At (blkSz + PARTITION_ENTRIES_OFFSET) = entries)
    (hsecondary : image.u64At (secondary + PRIMARY_HEADER_OFFSET) = 1) :
    ¬ ValidGpt crc32 (writtenGpt erased image blkSz secondary (blocks - 1) entries
      (blocks - (k + 1))) blkSz blocks := by
  intro hvalid
  have hkpos : 0 < k := by
    rcases Nat.eq_zero_or_pos k with rfl | h
    · simp [MIN_PARTITION_ARRAY_SIZE] at hk
    · exact h
  have harrays := fun h => arrayBlocks_ge h hk (show 0 < blkSz by omega)
  have hlba := hvalid.backup.myLba
  have hinside := hvalid.inside
  have hdisjoint := hvalid.disjoint
  simp only [gptExtents, List.pairwise_cons, List.mem_cons, List.not_mem_nil, forall_eq_or_imp]
    at hinside hdisjoint
  have hprimaryBlocks :=
    harrays (headerAt (writtenGpt erased image blkSz secondary (blocks - 1) entries
    (blocks - (k + 1))) blkSz 1)
  have hbackupBlocks :=
    harrays (headerAt (writtenGpt erased image blkSz secondary (blocks - 1) entries
    (blocks - (k + 1))) blkSz (blocks - 1))
  by_cases hlast : entries + k < blocks
  · -- the backup header is on the device as it was patched
    have hword : (headerAt (writtenGpt erased image blkSz secondary (blocks - 1) entries
        (blocks - (k + 1))) blkSz (blocks - 1)).u64At PRIMARY_HEADER_OFFSET = 1 := by
      have ho : PRIMARY_HEADER_OFFSET + 8 ≤ blkSz := by
        simp only [PRIMARY_HEADER_OFFSET]
        omega
      unfold writtenGpt
      rw [headerAt_overwrite_other hk ho (by omega), headerAt_overwrite_other hk ho (by omega),
        headerAt_overwrite_self ho, u64At_shift, hsecondary]
    omega
  · by_cases hfirst : entries ≤ 1 ∨ blocks ≤ k + 2
    · -- there is no room for two headers and two arrays
      omega
    · -- the array of the primary takes the last block
      have hword : (headerAt (writtenGpt erased image blkSz secondary (blocks - 1) entries
          (blocks - (k + 1))) blkSz 1).u64At PARTITION_ENTRIES_OFFSET = entries := by
        have ho : PARTITION_ENTRIES_OFFSET + 8 ≤ blkSz := by
          simp only [PARTITION_ENTRIES_OFFSET]
          omega
        unfold writtenGpt
        rw [headerAt_overwrite_other hk ho (by omega), headerAt_overwrite_other hk ho (by omega),
          headerAt_overwrite_other (Nat.one_mul _).symm ho (by omega),
          headerAt_overwrite_self ho, u64At_shift, hprimary]
      omega

end NotValid

section Run

variable {env : GptEnv} {s : GptState} {io : BlockIo}

theorem numSectors_eq (h : io.getPartitionSize ≠ 0) :
    io.getPartitionSize / io.blockSize = io.lastBlock + 1 ∧ io.lastBlock + 1 < 2 ^ 64 := by
  obtain ⟨hsize, hmax⟩ := io.getPartitionSize_eq h
  have hpos : 0 < io.blockSize := by
    rcases Nat.eq_zero_or_pos io.blockSize with hzero | hpos
    · rw [hsize, hzero, Nat.mul_zero] at h
      exact absurd rfl h
    · exact hpos
  have hle := Nat.le_mul_of_pos_right (io.lastBlock + 1) hpos
  refine ⟨?_, ?_⟩
  · rw [hsize, Nat.mul_div_cancel _ hpos]
  · simp only [MAX_UINT64] at hmax
    omega

theorem Written.not_valid {erased image c : Bytes} {crc32 : List UInt8 → Nat} {secondary : Nat}
    (hsize : io.getPartitionSize ≠ 0) (hmin : GPT_HEADER_SIZE ≤ io.blockSize)
    (hpatched : Patched (io.getPartitionSize / io.blockSize) io.blockSize secondary image)
    (hwritten : Written io erased image c secondary
      (image.u64At (io.blockSize + BACKUP_HEADER_OFFSET))
      (image.u64At (io.blockSize + PARTITION_ENTRIES_OFFSET))
      (image.u64At (secondary + PARTITION_ENTRIES_OFFSET))) :
    ¬ ValidGpt crc32 c io.blockSize (io.lastBlock + 1) := by
  obtain ⟨hcontents, hwhole, hentries, hbackupEntries⟩ := hwritten
  obtain ⟨hsectors, hlt⟩ := numSectors_eq hsize
  obtain ⟨hbackup, hsecondary, hbackupEntries'⟩ := hpatched
  rw [hsectors] at hbackup hbackupEntries'
  have hk : MIN_PARTITION_ARRAY_SIZE = MIN_PARTITION_ARRAY_SIZE / io.blockSize * io.blockSize :=
    (Nat.div_mul_cancel (Nat.dvd_of_mod_eq_zero hwhole)).symm
  have hblocks : MAX_PARTITION_ENTRIES_SZ / io.blockSize + GPT_HDR_BLOCKS =
      MIN_PARTITION_ARRAY_SIZE / io.blockSize + 1 := rfl
  rw [hblocks] at hbackupEntries'
  -- a device that is too small would have its backup array far outside
  have hroom : MIN_PARTITION_ARRAY_SIZE / io.blockSize + 1 ≤ io.lastBlock + 1 := by
    rw [hbackupEntries'] at hbackupEntries
    have hle : MIN_PARTITION_ARRAY_SIZE / io.blockSize ≤ MIN_PARTITION_ARRAY_SIZE :=
      Nat.div_le_self _ _
    simp only [u64Sub, u64] at hle hbackupEntries ⊢
    omega
  rw [hcontents, hbackup, hbackupEntries', u64Sub_of_le hroom hlt, u64Sub_of_le (by omega) hlt]
  exact writtenGpt_not_valid hk hmin hroom hentries rfl hsecondary

theorem writeGptTo_spec (hio : ∀ n, env.blockIo.outcome n = EFI_SUCCESS) {sz : Nat} :
    wp (writeGptTo env sz)
      (fun _ s' => ∀ crc32, ¬ ValidGpt crc32 s'.disk.contents env.blockIo.blockSize
        (env.blockIo.lastBlock + 1))
      (fun j _ => GptFails j) s := by
  rw [writeGptTo, wp_bind]
  refine wp_mono checkGpt_spec ?_ fun j s' h => h.elim (·.1.fails) (·.1.fails)
  rintro _ _ ⟨rfl, rfl, hprimary, hbackup⟩
  have hmin := Nat.le_trans hbackup.headerSz.1 hbackup.headerSz.2
  by_cases hblk : env.blockIo.blockSize < 2 ^ 31
  · refine wp_imp (commitGpt_spec (fun n => .inl (hio n))
      (patchGpt_spec hbackup.maxPtCnt hmin hblk)) ?_
    rintro _ s' ⟨-, g, hpatched, hwritten⟩ crc32
    rw [TableWritten, backupOffset_eq hblk] at hwritten
    exact hwritten.not_valid hprimary.density hmin hpatched
  · -- the arrays are no whole blocks
    refine wp_imp (commitGpt_spec (P := fun _ => True) (fun n => .inl (hio n))
      (wp_any (fun _ _ => trivial) fun _ _ => trivial)) ?_
    rintro _ s' ⟨-, g, -, hwritten⟩
    have hwhole := hwritten.whole
    rw [Nat.mod_eq_of_lt (by simp only [MIN_PARTITION_ARRAY_SIZE]; omega)] at hwhole
    exact absurd hwhole (by decide)

/-- A table that `WriteGpt` wrote to a device it found is not valid, whatever the image. -/
theorem writeGpt_not_valid (env : GptEnv) (sz : Nat) (s s' : GptState)
    (crc32 : List UInt8 → Nat) (hfound : env.maxHandles = 1)
    (hio : ∀ n, env.blockIo.outcome n = EFI_SUCCESS)
    (hrun : (writeGpt env sz).exec s = (.ok SUCCESS, s')) :
    ¬ ValidGpt crc32 s'.disk.contents env.blockIo.blockSize (env.blockIo.lastBlock + 1) := by
  have hspec : wp (writeGpt env sz) (fun ret s' => ret = SUCCESS → ∀ crc32,
      ¬ ValidGpt crc32 s'.disk.contents env.blockIo.blockSize (env.blockIo.lastBlock + 1))
      (fun _ _ => True) s := by
    unfold writeGpt
    rw [wp_ite]
    constructor
    · intro hnone hret
      exact absurd hret (hnone.resolve_right (not_not.mpr hfound))
    · intro _
      rw [wp_block]
      refine wp_mono (writeGptTo_spec hio) (fun _ _ h _ => h) ?_
      rintro _ s₁ rfl hret
      exact absurd hret (by decide)
  exact wp_ok hspec hrun rfl crc32

end Run

/-! ### A table that was fine before it was flashed -/

def crcByte (crc : Nat) (byte : UInt8) : Nat :=
  Nat.repeat (fun c => if c % 2 = 1 then (c / 2) ^^^ 0xEDB88320 else c / 2) 8 (crc ^^^ byte.toNat)

def crc32 (bytes : List UInt8) : Nat := bytes.foldl crcByte 0xFFFFFFFF ^^^ 0xFFFFFFFF

/-- A header with room for one entry, for a device of 1000 blocks of 512 bytes. -/
def sampleHeader (crc lba other entries : Nat) : Bytes :=
  let head := (((Bytes.put (fun _ => 0) 0 4 GPT_SIGNATURE_2).put 4 4 GPT_SIGNATURE_1).put 8 4
    0x00010000).put HEADER_SIZE_OFFSET 4 GPT_HEADER_SIZE
  let places := ((((head.put HEADER_CRC_OFFSET 4 crc).put PRIMARY_HEADER_OFFSET 8 lba).put
    BACKUP_HEADER_OFFSET 8 other).put FIRST_USABLE_LBA_OFFSET 8 34).put LAST_USABLE_LBA_OFFSET 8 966
  ((places.put PARTITION_ENTRIES_OFFSET 8 entries).put PARTITION_COUNT_OFFSET 4 1).put
    PENTRY_SIZE_OFFSET 4 GPT_PART_ENTRY_SIZE

def sampleGpt : Bytes :=
  (((Bytes.overwrite (fun _ => 0) 512 GPT_HEADER_SIZE (sampleHeader 2260547454 1 999 2)).overwrite
    (secondaryOffset 512) GPT_HEADER_SIZE (sampleHeader 101124311 999 1 967)).put 1024 1 1).put
    (1024 + MIN_PARTITION_ARRAY_SIZE) 1 1

def sampleGptEnv : GptEnv where
  getStorageHandle := EFI_SUCCESS
  maxHandles := 1
  blockIo := ⟨512, 999, by decide, by decide, fun _ => EFI_SUCCESS⟩
  calculateCrc32 bytes := (EFI_SUCCESS, crc32 bytes)
  eraseProtocol := EFI_SUCCESS
  eraseBlocks := EFI_SUCCESS
  erased := fun _ => 0

def sampleGptState : GptState := ⟨sampleGpt, false, true, ⟨fun _ => 0, 0, []⟩⟩

theorem writeGpt_sample :
    ((writeGpt sampleGptEnv 34304).exec sampleGptState).1 = .ok SUCCESS := by
  decide +kernel

theorem writeGpt_not_valid_sample :
    ¬ ValidGpt crc32 ((writeGpt sampleGptEnv 34304).exec sampleGptState).2.disk.contents 512 1000 :=
  writeGpt_not_valid sampleGptEnv 34304 sampleGptState _ crc32 rfl (fun _ => rfl)
    (exec_of_result writeGpt_sample)

/-- The backup header that `WriteGpt` put at block 999 says that it stands at block 1. -/
theorem writeGpt_backup_lba :
    ((writeGpt sampleGptEnv 34304).exec sampleGptState).1 = .ok SUCCESS ∧
      (headerAt ((writeGpt sampleGptEnv 34304).exec sampleGptState).2.disk.contents 512
        999).u64At PRIMARY_HEADER_OFFSET = 1 ∧
      ¬ GptCopy crc32 ((writeGpt sampleGptEnv 34304).exec sampleGptState).2.disk.contents 512
        999 1 := by
  have hlba : (headerAt ((writeGpt sampleGptEnv 34304).exec sampleGptState).2.disk.contents 512
      999).u64At PRIMARY_HEADER_OFFSET = 1 := by decide +kernel
  refine ⟨writeGpt_sample, hlba, fun hcopy => ?_⟩
  exact absurd (hlba.symm.trans hcopy.myLba) (by decide)

end OhMyAbl
