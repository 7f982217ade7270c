/-
  **Block devices, and the routine through which every flash write goes.**

  The driver behind `EFI_BLOCK_IO_PROTOCOL` is modelled by what its interface documents: a transfer
  whose size is no multiple of the block size, or that leaves the medium, is refused; otherwise it
  has the outcome the hardware gives it.  Every operation is recorded before its outcome is known.
  `writeBlockToPartitionNoFlush` (`LinuxLoaderLib.c`) is embedded with its 32-bit cut sizes.
-/
import OhMyAbl.Lib.Bytes
import OhMyAbl.Base.Efi

namespace OhMyAbl

open Prog

inductive MemCardType where
  | EMMC
  | UFS
  | NAND
  | UNKNOWN
deriving DecidableEq, Repr

/-! ### The device -/

inductive Region where
  | image   -- the image that was handed to the routine
  | pool    -- a buffer the boot loader allocated or holds itself
deriving DecidableEq, Repr

structure Buffer where
  region : Region
  addr : Nat
  byte : Bytes

inductive IoEvent where
  | load (region : Region) (addr len : Nat)
  | readBlocks (lba size : Nat)
  | writeBlocks (lba size : Nat)
deriving DecidableEq, Repr

/-- `EFI_BLOCK_IO_PROTOCOL`: the medium, and the outcome the hardware gives to its
    `n`th operation. -/
structure BlockIo where
  blockSize : Nat
  lastBlock : Nat
  blockSize_lt : blockSize < 2 ^ 32
  lastBlock_lt : lastBlock < 2 ^ 64
  outcome : Nat → EfiStatus

-- Sizes of devices that occur again and again.
theorem sector_lt : 512 < 2 ^ 32 := by decide
theorem nandPage_lt : 2048 < 2 ^ 32 := by decide
theorem page_lt : 4096 < 2 ^ 32 := by decide
theorem one_lt : 1 < 2 ^ 64 := by decide
theorem seven_lt : 7 < 2 ^ 64 := by decide

/-- The device behind a block-io handle: contents by byte address, number of
    operations so far, and what was asked of it. -/
structure Disk where
  contents : Bytes
  ops : Nat
  log : List IoEvent

namespace BlockIo

variable (io : BlockIo)

def transferStatus (n lba size : Nat) : EfiStatus :=
  if size % io.blockSize ≠ 0 then EFI_BAD_BUFFER_SIZE
  else if io.lastBlock + 1 < lba + size / io.blockSize then EFI_INVALID_PARAMETER
  else io.outcome n

def writeBlocks (lba size : Nat) (data : Bytes) : Prog Disk Exit EfiStatus := do
  let d ← get
  let status := io.transferStatus d.ops lba size
  modify fun d =>
    { contents :=
        if status = EFI_SUCCESS then d.contents.overwrite (lba * io.blockSize) size data
        else d.contents
      ops := d.ops + 1
      log := d.log ++ [.writeBlocks lba size] }
  return status

/-- `BlockIo->ReadBlocks`: the bytes read, meaningful when the status is success. -/
def readBlocks (lba size : Nat) : Prog Disk Exit (EfiStatus × Bytes) := do
  let d ← get
  modify fun d => { d with ops := d.ops + 1, log := d.log ++ [.readBlocks lba size] }
  return (io.transferStatus d.ops lba size, d.contents.shift (lba * io.blockSize))

def flushBlocks : Prog Disk Exit EfiStatus := do
  let d ← get
  modify fun d => { d with ops := d.ops + 1 }
  return io.outcome d.ops

/-- `GetPartitionSize` (`PartitionTableUpdate.c`): the size in bytes, zero when it
    does not fit 64 bits. -/
def getPartitionSize : Nat :=
  if CHECK_ADD64 io.lastBlock 1 then 0
  else if MAX_UINT64 / (io.lastBlock + 1) < io.blockSize then 0
  else (io.lastBlock + 1) * io.blockSize

theorem getPartitionSize_eq (h : io.getPartitionSize ≠ 0) :
    io.getPartitionSize = (io.lastBlock + 1) * io.blockSize ∧
      io.getPartitionSize ≤ MAX_UINT64 := by
  unfold getPartitionSize at h ⊢
  by_cases h₁ : CHECK_ADD64 io.lastBlock 1
  · simp [h₁] at h
  by_cases h₂ : MAX_UINT64 / (io.lastBlock + 1) < io.blockSize
  · simp [h₂] at h
  rw [if_neg h₁, if_neg h₂]
  refine ⟨rfl, ?_⟩
  calc (io.lastBlock + 1) * io.blockSize
      ≤ (io.lastBlock + 1) * (MAX_UINT64 / (io.lastBlock + 1)) :=
        Nat.mul_le_mul_left _ (by omega)
    _ ≤ MAX_UINT64 := Nat.mul_div_le _ _

theorem transferStatus_success {n lba size : Nat} (h : io.transferStatus n lba size = EFI_SUCCESS) :
    size % io.blockSize = 0 ∧ lba + size / io.blockSize ≤ io.lastBlock + 1 := by
  unfold transferStatus at h
  split_ifs at h with h₁ h₂
  · exact absurd h (by decide)
  · exact absurd h (by decide)
  · exact ⟨by omega, by omega⟩

end BlockIo

/-! ### WriteBlockToPartitionNoFlush -/

structure StorageEnv where
  rootDeviceType : MemCardType
  /-- The status of looking up the erase protocol of a NAND handle. -/
  eraseProtocol : EfiStatus
  eraseLengthGranularity : Nat
  /-- `IsFlashSplitNeeded ()` when the device has done `n` operations. -/
  flashSplitNeeded : Nat → Bool
  /-- Whether an allocation made when the device has done `n` operations succeeds. -/
  zeroPool : Nat → Bool

def MAX_WRITE_SIZE : Nat := 1024 * 1024

def loadBytes (image : Buffer) (off len : Nat) : Prog Disk Exit PUnit :=
  modify fun d => { d with log := d.log ++ [.load image.region (image.addr + off) len] }

/-- The loop over write units: `left` bytes of the `divMsgBufSize` are still to be
    written, the next one at block `offset`.  A step that writes something makes
    `left` smaller, so `left` bounds the number of steps of a loop that ends. -/
def writeUnits (io : BlockIo) (writeUnitSize divMsgBufSize : Nat) (image : Buffer) :
    Nat → Nat → Nat → Prog Disk Exit (EfiStatus × Nat)
  | 0, left, offset => if left = 0 then return (EFI_SUCCESS, offset) else throw .hang
  | fuel + 1, left, offset => do
    if left = 0 then
      return (EFI_SUCCESS, offset)
    let writeSize := u32 (if left > writeUnitSize then writeUnitSize else left)
    loadBytes image (divMsgBufSize - left) writeSize
    let status ← io.writeBlocks offset writeSize (image.byte.shift (divMsgBufSize - left))
    if status ≠ EFI_SUCCESS then
      return (status, offset)
    writeUnits io writeUnitSize divMsgBufSize image fuel (left - writeSize)
      (u64 (offset + writeSize / io.blockSize))

variable (env : StorageEnv) (io : BlockIo)

/-- The rest of an image that fills no block: the block is read, patched and written. -/
def writeTail (writeBlockSize offset divMsgBufSize rest : Nat) (image : Buffer) :
    Prog Disk Exit EfiStatus := do
  let d ← get
  if !env.zeroPool d.ops then
    return EFI_OUT_OF_RESOURCES
  let (status, block) ← io.readBlocks offset writeBlockSize
  if status ≠ EFI_SUCCESS then
    return status
  loadBytes image divMsgBufSize rest
  io.writeBlocks offset writeBlockSize
    (block.overwrite 0 rest (image.byte.shift divMsgBufSize))

/-- The block size of the write: that of the medium, and the erase length on NAND. -/
def writeBlockSizeOf : Nat :=
  if env.rootDeviceType = .NAND then env.eraseLengthGranularity else io.blockSize

def writeBlockToPartitionNoFlush (offset size : Nat) (image : Buffer) :
    Prog Disk Exit EfiStatus := do
  if env.rootDeviceType = .NAND ∧ env.eraseProtocol ≠ EFI_SUCCESS then
    return env.eraseProtocol
  let writeBlockSize := writeBlockSizeOf env io
  if writeBlockSize = 0 then
    throw .fault
  -- `DivMsgBufSize` is a `UINT32`
  let divMsgBufSize := u32 (size / writeBlockSize * writeBlockSize)
  let roundedUnit := ROUND_TO_PAGE MAX_WRITE_SIZE (writeBlockSize - 1)
  let d ← get
  let writeUnitSize := if env.flashSplitNeeded d.ops then roundedUnit else divMsgBufSize
  let (status, offset) ← writeUnits io writeUnitSize divMsgBufSize image divMsgBufSize
    divMsgBufSize offset
  if status ≠ EFI_SUCCESS then
    return status
  if size - divMsgBufSize > 0 then
    writeTail env io writeBlockSize offset divMsgBufSize (size - divMsgBufSize) image
  else
    return status

def writeBlockToPartition (offset size : Nat) (image : Buffer) : Prog Disk Exit EfiStatus := do
  let status ← writeBlockToPartitionNoFlush env io offset size image
  if status ≠ EFI_SUCCESS then
    return status
  io.flushBlocks

/-! ### The parts of a write -/

section Parts

variable {io : BlockIo} {d : Disk} {E : Exit → Disk → Prop} {Q : EfiStatus → Disk → Prop}
  {lba size div unit w left offset : Nat} {image : Buffer} {env : StorageEnv}

theorem wp_writeBlocks {data : Bytes} :
    wp (io.writeBlocks lba size data) Q E d ↔
      Q (io.transferStatus d.ops lba size)
        { contents :=
            if io.transferStatus d.ops lba size = EFI_SUCCESS then
              d.contents.overwrite (lba * io.blockSize) size data
            else d.contents
          ops := d.ops + 1
          log := d.log ++ [.writeBlocks lba size] } := Iff.rfl

theorem wp_readBlocks {Q : EfiStatus × Bytes → Disk → Prop} :
    wp (io.readBlocks lba size) Q E d ↔
      Q (io.transferStatus d.ops lba size, d.contents.shift (lba * io.blockSize))
        { d with ops := d.ops + 1, log := d.log ++ [.readBlocks lba size] } := Iff.rfl

theorem wp_flushBlocks :
    wp io.flushBlocks Q E d ↔ Q (io.outcome d.ops) { d with ops := d.ops + 1 } := Iff.rfl

theorem wp_loadBytes {off len : Nat} {Q : PUnit → Disk → Prop} :
    wp (loadBytes image off len) Q E d ↔
      Q ⟨⟩ { d with log := d.log ++ [.load image.region (image.addr + off) len] } := Iff.rfl

theorem unitSize_le (unit left : Nat) : u32 (if left > unit then unit else left) ≤ left := by
  refine Nat.le_trans (Nat.mod_le _ _) ?_
  split <;> omega

/-- The loop over write units keeps what every unit keeps, one step of fuel for each. -/
theorem wp_writeUnits {I : Nat → Nat → Nat → Disk → Prop} {Q : EfiStatus × Nat → Disk → Prop}
    (hdone : ∀ {fuel offset d}, I fuel 0 offset d → Q (EFI_SUCCESS, offset) d)
    (hhang : ∀ {left offset d}, I 0 left offset d → left ≠ 0 → E .hang d)
    (hunit : ∀ {fuel left offset d w d'}, I (fuel + 1) left offset d → left ≠ 0 →
      u32 (if left > unit then unit else left) = w → w ≤ left →
      d'.log = d.log ++ [.load image.region (image.addr + (div - left)) w] ++
        [.writeBlocks offset w] →
      (io.transferStatus d.ops offset w = EFI_SUCCESS →
        d'.contents = d.contents.overwrite (offset * io.blockSize) w
          (image.byte.shift (div - left)) →
        I fuel (left - w) (u64 (offset + w / io.blockSize)) d') ∧
      (io.transferStatus d.ops offset w ≠ EFI_SUCCESS →
        Q (io.transferStatus d.ops offset w, offset) d')) (fuel : Nat) :
    ∀ {left offset : Nat} {d : Disk}, I fuel left offset d →
      wp (writeUnits io unit div image fuel left offset) Q E d := by
  induction fuel with
  | zero =>
    intro left offset d hI
    by_cases h : left = 0
    · subst h
      exact hdone hI
    · simp only [writeUnits, h]
      exact hhang hI h
  | succ fuel ih =>
    intro left offset d hI
    by_cases h : left = 0
    · subst h
      exact hdone hI
    simp only [writeUnits, h, if_false, wp_bind, wp_loadBytes, wp_writeBlocks]
    have hle := unitSize_le unit left
    generalize hw : u32 (if left > unit then unit else left) = w at hle ⊢
    by_cases hs : io.transferStatus d.ops offset w = EFI_SUCCESS
    · simp only [hs]
      exact ih ((hunit hI h hw hle rfl).1 hs rfl)
    · simp only [hs, ne_eq]
      exact (hunit hI h hw hle rfl).2 hs

theorem block_next {n : Nat} (h : io.transferStatus n lba w = EFI_SUCCESS) :
    (lba + w / io.blockSize) * io.blockSize = lba * io.blockSize + w := by
  rw [Nat.add_mul, Nat.div_mul_cancel (Nat.dvd_of_mod_eq_zero (io.transferStatus_success h).1)]

/-- A unit and the rest behind it make up what is left. -/
theorem overwrite_unit {contents image : Bytes} {a : Nat} (hle : left ≤ div) (hw : w ≤ left) :
    (contents.overwrite a w (image.shift (div - left))).overwrite (a + w) (left - w)
        (image.shift (div - (left - w))) =
      contents.overwrite a left (image.shift (div - left)) := by
  have hshift : image.shift (div - (left - w)) = (image.shift (div - left)).shift w := by
    funext i
    simp only [Bytes.shift_apply]
    congr 1
    omega
  rw [hshift, Bytes.overwrite_append, Nat.add_sub_cancel' hw]

theorem writeTail_spec {wbs rest : Nat} (hrest : rest ≤ wbs) :
    wp (writeTail env io wbs offset div rest image)
      (fun status d' =>
        (status = EFI_SUCCESS ↔ env.zeroPool d.ops = true ∧
          io.transferStatus d.ops offset wbs = EFI_SUCCESS ∧
          io.transferStatus (d.ops + 1) offset wbs = EFI_SUCCESS) ∧
        (status = EFI_SUCCESS → d'.ops = d.ops + 2 ∧ d'.contents =
          d.contents.overwrite (offset * io.blockSize) rest (image.byte.shift div))) noExit d := by
  unfold writeTail
  rw [wp_bind, wp_get]
  cases env.zeroPool d.ops with
  | false => simp [EFI_OUT_OF_RESOURCES, EFI_SUCCESS, encodeError]
  | true =>
    simp only [Bool.not_true, Bool.false_eq_true, if_false, wp_bind, wp_readBlocks, true_and]
    by_cases hr : io.transferStatus d.ops offset wbs = EFI_SUCCESS
    · rw [if_neg (not_not_intro hr), wp_bind, wp_loadBytes, wp_writeBlocks, and_iff_right hr]
      refine ⟨Iff.rfl, fun hs => ⟨rfl, ?_⟩⟩
      rw [if_pos hs, Bytes.overwrite_patch hrest]
    · simp [hr]

end Parts

/-! ### Short writes -/

section Short

variable {env : StorageEnv} {io : BlockIo} {d : Disk} {image : Buffer}

/-- The device accepts the transfers that a write of `size` bytes at block zero makes, the
    first of them its `n`th: the divisible part in one piece, then the read-modify-write of
    the rest. -/
def BlocksAccepted (env : StorageEnv) (io : BlockIo) (n size : Nat) : Prop :=
  let wbs := writeBlockSizeOf env io
  let div := size / wbs * wbs
  let n₁ := if 0 < div then n + 1 else n
  (env.rootDeviceType = .NAND → env.eraseProtocol = EFI_SUCCESS) ∧ wbs ≠ 0 ∧
    (0 < div → io.transferStatus n 0 div = EFI_SUCCESS) ∧
    (div < size → env.zeroPool n₁ = true ∧
      io.transferStatus n₁ (div / io.blockSize) wbs = EFI_SUCCESS ∧
      io.transferStatus (n₁ + 1) (div / io.blockSize) wbs = EFI_SUCCESS)

def blockOps (env : StorageEnv) (io : BlockIo) (size : Nat) : Nat :=
  let wbs := writeBlockSizeOf env io
  let div := size / wbs * wbs
  (if 0 < div then 1 else 0) + (if div < size then 2 else 0)

def WriteAccepted (env : StorageEnv) (io : BlockIo) (n size : Nat) : Prop :=
  BlocksAccepted env io n size ∧ io.outcome (n + blockOps env io size) = EFI_SUCCESS

instance (env : StorageEnv) (io : BlockIo) (n size : Nat) :
    Decidable (BlocksAccepted env io n size) :=
  inferInstanceAs (Decidable (_ ∧ _))

instance (env : StorageEnv) (io : BlockIo) (n size : Nat) :
    Decidable (WriteAccepted env io n size) :=
  inferInstanceAs (Decidable (_ ∧ _))

theorem le_roundToPage {y : Nat} (h : y < 2 ^ 20) :
    MAX_WRITE_SIZE ≤ ROUND_TO_PAGE MAX_WRITE_SIZE y := by
  have hadd : ADD_OF MAX_WRITE_SIZE y = 2 ^ 20 + y := by
    have hmax : MAX_WRITE_SIZE = 2 ^ 20 := rfl
    unfold ADD_OF MAX_UINT32
    rw [if_pos (by omega), hmax]
  have hmask : MAX_UINT32 - y = 2 ^ 32 - (y + 1) := by
    unfold MAX_UINT32
    omega
  -- bit 20 survives the mask
  apply Nat.ge_two_pow_of_testBit (i := 20)
  rw [ROUND_TO_PAGE, hadd, hmask, Nat.testBit_and, Nat.testBit_two_pow_sub_succ (by omega),
    Nat.testBit_two_pow_add_eq, Nat.testBit_lt_two_pow h]
  decide

variable {div offset unit size : Nat}

theorem writeUnits_done {fuel : Nat} :
    writeUnits io unit div image fuel 0 offset = pure (EFI_SUCCESS, offset) := by
  cases fuel <;> rfl

theorem wp_writeUnits_single {Q : EfiStatus × Nat → Disk → Prop} {E : Exit → Disk → Prop}
    (hpos : 0 < div) (hunit : div ≤ unit) (hdiv : div < 2 ^ 32)
    (hok : ∀ d', d'.ops = d.ops + 1 →
      d'.contents = d.contents.overwrite (offset * io.blockSize) div image.byte →
      io.transferStatus d.ops offset div = EFI_SUCCESS →
      Q (EFI_SUCCESS, u64 (offset + div / io.blockSize)) d')
    (hfail : ∀ d', io.transferStatus d.ops offset div ≠ EFI_SUCCESS →
      Q (io.transferStatus d.ops offset div, offset) d') :
    wp (writeUnits io unit div image div div offset) Q E d := by
  obtain ⟨k, rfl⟩ : ∃ k, div = k + 1 := ⟨div - 1, by omega⟩
  have hw : u32 (if k + 1 > unit then unit else k + 1) = k + 1 := by
    rw [if_neg (by omega)]
    exact Nat.mod_eq_of_lt hdiv
  rw [writeUnits, hw]
  simp only [Nat.add_one_ne_zero, if_false, wp_bind, wp_loadBytes, wp_writeBlocks,
    Nat.sub_self, Bytes.shift_zero, writeUnits_done]
  by_cases hs : io.transferStatus d.ops offset (k + 1) = EFI_SUCCESS
  · rw [if_neg (not_not_intro hs), if_pos hs]
    exact hok _ rfl rfl hs
  · rw [if_pos hs]
    exact hfail _ hs

theorem writeBlockToPartitionNoFlush_short (hsize : size ≤ MAX_WRITE_SIZE) :
    wp (writeBlockToPartitionNoFlush env io 0 size image)
      (fun status d' => (status = EFI_SUCCESS ↔ BlocksAccepted env io d.ops size) ∧
        (status = EFI_SUCCESS → d'.ops = d.ops + blockOps env io size ∧
          d'.contents = d.contents.overwrite 0 size image.byte))
      (fun _ _ => ¬ BlocksAccepted env io d.ops size) d := by
  have hmax : MAX_WRITE_SIZE = 2 ^ 20 := rfl
  unfold writeBlockToPartitionNoFlush BlocksAccepted blockOps
  by_cases hn : env.rootDeviceType = .NAND ∧ env.eraseProtocol ≠ EFI_SUCCESS
  · simp [hn]
  generalize writeBlockSizeOf env io = wbs
  have hnand : (env.rootDeviceType = .NAND → env.eraseProtocol = EFI_SUCCESS) = True :=
    eq_true fun h => by_contra fun h' => hn ⟨h, h'⟩
  by_cases h0 : wbs = 0
  · simp [hn, h0]
  simp only [hn, h0, if_false]
  have hdle : size / wbs * wbs ≤ size := Nat.div_mul_le_self _ _
  have hdiv : u32 (size / wbs * wbs) = size / wbs * wbs := Nat.mod_eq_of_lt (by omega)
  -- the rest fills no block
  have hrest : size - size / wbs * wbs ≤ wbs := by
    have hmod := Nat.mod_lt size (Nat.pos_of_ne_zero h0)
    have hsum := Nat.div_add_mod' size wbs
    omega
  rw [hdiv, wp_bind, wp_get, wp_bind]
  by_cases hpos : 0 < size / wbs * wbs
  · have hwbs : wbs ≤ size := by
      by_contra h
      rw [Nat.div_eq_of_lt (by omega)] at hpos
      omega
    have hunit : size / wbs * wbs ≤
        if env.flashSplitNeeded d.ops then ROUND_TO_PAGE MAX_WRITE_SIZE (wbs - 1)
        else size / wbs * wbs := by
      split
      · exact Nat.le_trans (by omega) (le_roundToPage (by omega))
      · exact Nat.le_refl _
    have hu : u64 (0 + size / wbs * wbs / io.blockSize) = size / wbs * wbs / io.blockSize := by
      rw [Nat.zero_add]
      exact Nat.mod_eq_of_lt (Nat.lt_of_le_of_lt (Nat.div_le_self _ _) (by omega))
    refine wp_writeUnits_single hpos hunit (by omega) ?_ ?_
    · intro d' hops hcontents hs
      have hend := block_next hs
      rw [Nat.zero_add, Nat.zero_mul, Nat.zero_add] at hend
      rw [Nat.zero_mul] at hcontents
      simp only [hs, hu, hpos]
      by_cases hr : size - size / wbs * wbs > 0
      · rw [if_pos hr]
        refine wp_mono (writeTail_spec hrest) ?_ (fun _ _ h => h.elim)
        rintro status d'' ⟨hiff, hdone⟩
        have hlt : size / wbs * wbs < size := by omega
        rw [hops] at hiff
        refine ⟨by simpa [hlt, hnand, h0] using hiff, fun hs' => ?_⟩
        obtain ⟨hops', hcontents'⟩ := hdone hs'
        rw [hops', hops, hcontents', hcontents, hend, if_pos trivial, if_pos hlt]
        have hboth := @Bytes.overwrite_append d.contents image.byte 0 (size / wbs * wbs)
          (size - size / wbs * wbs)
        rw [Nat.zero_add, Nat.add_sub_cancel' hdle] at hboth
        exact ⟨rfl, hboth⟩
      · have hlt : ¬ size / wbs * wbs < size := by omega
        have hwhole : size / wbs * wbs = size := by omega
        rw [hwhole] at hcontents
        simp [hr, hlt, hops, hnand, h0, hcontents]
    · intro d' hs
      simp [hs, hpos]
  · have hz : size / wbs * wbs = 0 := by omega
    rw [hz, Nat.sub_zero] at hrest
    simp only [hz, writeUnits_done, wp_pure]
    by_cases hr : size - 0 > 0
    · simp only [hr]
      refine wp_mono (writeTail_spec hrest) ?_ (fun _ _ h => h.elim)
      intro status d'' htail
      have hlt : 0 < size := by omega
      simpa [hlt, hnand, h0] using htail
    · have hsize0 : size = 0 := by omega
      simp [hnand, h0, hsize0]

theorem writeBlockToPartition_short (hsize : size ≤ MAX_WRITE_SIZE) :
    wp (writeBlockToPartition env io 0 size image)
      (fun status d' => (status = EFI_SUCCESS ↔ WriteAccepted env io d.ops size) ∧
        (status = EFI_SUCCESS → d'.contents = d.contents.overwrite 0 size image.byte))
      (fun _ _ => ¬ WriteAccepted env io d.ops size) d := by
  unfold writeBlockToPartition WriteAccepted
  rw [wp_bind]
  refine wp_mono (writeBlockToPartitionNoFlush_short hsize) ?_ ?_
  · rintro status d' ⟨hiff, hdone⟩
    by_cases hs : status = EFI_SUCCESS
    · obtain ⟨hops, hcontents⟩ := hdone hs
      rw [if_neg (not_not_intro hs), wp_flushBlocks, hops]
      exact ⟨⟨fun h => ⟨hiff.mp hs, h⟩, fun h => h.2⟩, fun _ => hcontents⟩
    · have hb : ¬ BlocksAccepted env io d.ops size := fun h => hs (hiff.mpr h)
      simp [hs, hb]
  · intro _ _ hb h
    exact hb h.1

end Short

/-! ### What a write asks of memory and of the device -/

section Log

variable {env : StorageEnv} {io : BlockIo} {image : Buffer} {P : IoEvent → Prop}

theorem forall_mem_snoc {log : List IoEvent} {e : IoEvent} (h : ∀ x ∈ log, P x) (he : P e) :
    ∀ x ∈ log ++ [e], P x := by
  intro x hx
  rcases List.mem_append.mp hx with hx | hx
  · exact h x hx
  · rw [List.mem_singleton.mp hx]
    exact he

variable {d : Disk} {offset : Nat}

/-- An invariant rule for the log of a write in units. -/
theorem writeUnits_log {unit div left : Nat} (hbs : io.blockSize ≠ 0)
    (hload : ∀ off len, off + len ≤ div → P (.load image.region (image.addr + off) len))
    (fuel : Nat) (hle : left ≤ div) (hend : offset * io.blockSize + left < 2 ^ 64)
    (hwrite : ∀ lba n, lba * io.blockSize + n ≤ offset * io.blockSize + left →
      P (.writeBlocks lba n)) (hd : ∀ e ∈ d.log, P e) :
    wp (writeUnits io unit div image fuel left offset)
      (fun _ d' => ∀ e ∈ d'.log, P e) (fun _ d' => ∀ e ∈ d'.log, P e) d := by
  refine wp_writeUnits (I := fun _ l o e => l ≤ div ∧
    o * io.blockSize + l = offset * io.blockSize + left ∧ ∀ x ∈ e.log, P x)
    (fun h => h.2.2) (fun h _ => h.2.2) ?_ fuel ⟨hle, rfl, hd⟩
  rintro _ l o e w e' ⟨hl, hsum, hlog⟩ - - hw hlog'
  have hnew : ∀ x ∈ e'.log, P x := by
    rw [hlog']
    exact forall_mem_snoc (forall_mem_snoc hlog (hload _ _ (by omega))) (hwrite _ _ (by omega))
  refine ⟨fun hs _ => ?_, fun _ => hnew⟩
  have hu : u64 (o + w / io.blockSize) = o + w / io.blockSize := by
    have hmul := Nat.le_mul_of_pos_right (o + w / io.blockSize) (Nat.pos_of_ne_zero hbs)
    rw [block_next hs] at hmul
    exact Nat.mod_eq_of_lt (by omega)
  rw [hu, block_next hs]
  exact ⟨by omega, by omega, hnew⟩

theorem writeBlockToPartitionNoFlush_log {size : Nat} (hnand : env.rootDeviceType ≠ .NAND)
    (hbs : io.blockSize ≠ 0) (hdvd : io.blockSize ∣ size) (hsize : size < 2 ^ 32)
    (hend : offset * io.blockSize + size < 2 ^ 64)
    (hload : ∀ off len, off + len ≤ size → P (.load image.region (image.addr + off) len))
    (hwrite : ∀ lba n, lba * io.blockSize + n ≤ offset * io.blockSize + size →
      P (.writeBlocks lba n)) (hd : ∀ e ∈ d.log, P e) :
    wp (writeBlockToPartitionNoFlush env io offset size image)
      (fun _ d' => ∀ e ∈ d'.log, P e) (fun _ d' => ∀ e ∈ d'.log, P e) d := by
  have hwbs : writeBlockSizeOf env io = io.blockSize := if_neg hnand
  have hdiv : u32 (size / io.blockSize * io.blockSize) = size := by
    rw [Nat.div_mul_cancel hdvd]
    exact Nat.mod_eq_of_lt hsize
  unfold writeBlockToPartitionNoFlush
  simp only [hnand, hwbs, hbs, hdiv, false_and, if_false, wp_bind, wp_get, Nat.sub_self]
  refine wp_imp (writeUnits_log hbs hload size (Nat.le_refl _) hend hwrite hd) ?_
  intro r d' hd'
  split
  · exact hd'
  · exact hd'

end Log

/-! ### Writes that return -/

section Returns

variable {env : StorageEnv} {io : BlockIo} {image : Buffer}

/-- The block sizes of a device on which the write loop ends: a write unit is not empty. -/
structure WriteEnds (env : StorageEnv) (io : BlockIo) : Prop where
  blockSize : writeBlockSizeOf env io ≠ 0
  unit : ROUND_TO_PAGE MAX_WRITE_SIZE (writeBlockSizeOf env io - 1) ≠ 0

variable {div offset size : Nat}

theorem writeUnits_returns {unit : Nat} (hunit : unit ≠ 0) (fuel : Nat) :
    ∀ {left offset : Nat}, left ≤ fuel → left < 2 ^ 32 →
      Returns (writeUnits io unit div image fuel left offset) := by
  induction fuel with
  | zero =>
    intro left offset hfuel _
    obtain rfl : left = 0 := Nat.le_zero.mp hfuel
    exact .pure _
  | succ fuel ih =>
    intro left offset hfuel hleft
    by_cases h : left = 0
    · rw [h, writeUnits_done]
      exact .pure _
    have hwrite : 0 < u32 (if left > unit then unit else left) := by
      rw [u32, Nat.mod_eq_of_lt (by split <;> omega)]
      split <;> omega
    simp only [writeUnits, h]
    refine .bind (.modify _) fun _ => .bind (fun _ => trivial) fun _ => .ite (.pure _) ?_
    exact ih (by omega) (by omega)

theorem writeTail_returns {wbs rest : Nat} : Returns (writeTail env io wbs offset div rest image) :=
  .bind .get fun _ => .ite (.pure _) (.bind (fun _ => trivial) fun _ => .ite (.pure _)
    (.bind (.modify _) fun _ => fun _ => trivial))

theorem writeBlockToPartitionNoFlush_returns (hw : WriteEnds env io) :
    Returns (writeBlockToPartitionNoFlush env io offset size image) := by
  refine .ite (.pure _) ?_
  rw [if_neg hw.blockSize]
  refine .bind .get fun d => .bind ?_ fun _ => .ite (.pure _) (.ite writeTail_returns (.pure _))
  by_cases hzero : u32 (size / writeBlockSizeOf env io * writeBlockSizeOf env io) = 0
  · rw [hzero, writeUnits_done]
    exact .pure _
  · refine writeUnits_returns ?_ _ (Nat.le_refl _) (Nat.mod_lt _ (by decide))
    split
    · exact hw.unit
    · exact hzero

theorem writeBlockToPartition_returns (hw : WriteEnds env io) :
    Returns (writeBlockToPartition env io offset size image) :=
  .bind (writeBlockToPartitionNoFlush_returns hw) fun _ => .ite (.pure _) fun _ => trivial

end Returns

end OhMyAbl
