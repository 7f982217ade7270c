/-
  **Flashing of sparse images.**

  `HandleSparseImgFlash` and its chunk handlers (`FastbootCmds.c`), over an image of arbitrary
  bytes. The embedding keeps the widths of the C variables, so the products and sums that the source
  leaves to wrap do wrap here.
-/
import OhMyAbl.Storage.BlockIo

namespace OhMyAbl

open Prog

/-! ### The format (`SparseFormat.h`) -/

def SPARSE_HEADER_MAGIC : Nat := 0xed26ff3a
def CHUNK_TYPE_RAW : Nat := 0xCAC1
def CHUNK_TYPE_FILL : Nat := 0xCAC2
def CHUNK_TYPE_DONT_CARE : Nat := 0xCAC3
def CHUNK_TYPE_CRC : Nat := 0xCAC4

def SPARSE_HEADER_SIZE : Nat := 28
def CHUNK_HEADER_SIZE : Nat := 12

structure SparseHeader where
  fileHdrSz : Nat
  chunkHdrSz : Nat
  blkSz : Nat
  totalBlks : Nat
  totalChunks : Nat
  blkSz_lt : blkSz < 2 ^ 32

structure ChunkHeader where
  chunkType : Nat
  chunkSz : Nat
  totalSz : Nat
  chunkSz_lt : chunkSz < 2 ^ 32
  totalSz_lt : totalSz < 2 ^ 32

def SparseHeader.ofBytes (f : Bytes) : SparseHeader where
  fileHdrSz := f.u16At 8
  chunkHdrSz := f.u16At 10
  blkSz := f.u32At 12
  totalBlks := f.u32At 16
  totalChunks := f.u32At 20
  blkSz_lt := Bytes.u32At_lt

def ChunkHeader.ofBytes (f : Bytes) : ChunkHeader where
  chunkType := f.u16At 0
  chunkSz := f.u32At 4
  totalSz := f.u32At 8
  chunkSz_lt := Bytes.u32At_lt
  totalSz_lt := Bytes.u32At_lt

/-! ### The chunk handlers -/

structure SparseImgParam where
  image : Nat
  totalBlocks : Nat            -- `UINT32`
  chunkDataSz : Nat            -- `UINT64`
  imageEnd : Nat
  blockCountFactor : Nat
  partitionSize : Nat
deriving DecidableEq, Repr

structure PartitionLookup where
  status : EfiStatus
  blockIo : Option BlockIo
  handle : Bool

section Handlers

variable (env : StorageEnv) (io : BlockIo) (img : Buffer)

def Buffer.at (b : Buffer) (a : Nat) : Buffer where
  region := b.region
  addr := a
  byte := b.byte.shift (a - b.addr)

def handleChunkTypeRaw (sh : SparseHeader) (ch : ChunkHeader) (p : SparseImgParam) :
    Prog Disk Exit (EfiStatus × SparseImgParam) := do
  if ch.totalSz ≠ u64 (sh.chunkHdrSz + p.chunkDataSz) then
    return (EFI_INVALID_PARAMETER, p)
  if CHECK_ADD64 p.image p.chunkDataSz then
    return (EFI_INVALID_PARAMETER, p)
  if p.imageEnd < p.image + p.chunkDataSz then
    return (EFI_INVALID_PARAMETER, p)
  let writtenBlockCount := u64 (p.totalBlocks * p.blockCountFactor)
  let status ← writeBlockToPartitionNoFlush env io writtenBlockCount p.chunkDataSz
    (img.at p.image)
  -- a warning is not an error here
  if EFI_ERROR status then
    return (status, p)
  if p.totalBlocks > MAX_UINT32 - ch.chunkSz then
    return (EFI_INVALID_PARAMETER, p)
  return (EFI_SUCCESS,
    { p with totalBlocks := p.totalBlocks + ch.chunkSz, image := p.image + p.chunkDataSz })

/-- `FillBuf`: the fill word repeated over the zeroed buffer of `blk_sz` bytes. -/
def fillBuf (blkSz : Nat) (fillVal : Bytes) : Buffer where
  region := .pool
  addr := 0
  byte := fun i => if i < blkSz / 4 * 4 then fillVal (i % 4) else 0

def fillBlocks (sh : SparseHeader) (buf : Buffer) :
    Nat → EfiStatus → SparseImgParam → Prog Disk Exit (EfiStatus × SparseImgParam)
  | 0, status, p => return (status, p)
  | n + 1, _, p => do
    if u64 (u64 (p.totalBlocks * sh.blkSz) + sh.blkSz) > p.partitionSize then
      return (EFI_VOLUME_FULL, p)
    let writtenBlockCount := u64 (p.totalBlocks * p.blockCountFactor)
    let status ← writeBlockToPartitionNoFlush env io writtenBlockCount sh.blkSz buf
    if EFI_ERROR status then
      return (status, p)
    fillBlocks sh buf n status { p with totalBlocks := u32 (p.totalBlocks + 1) }

def handleChunkTypeFill (sh : SparseHeader) (ch : ChunkHeader) (p : SparseImgParam) :
    Prog Disk Exit (EfiStatus × SparseImgParam) := do
  if ch.totalSz ≠ sh.chunkHdrSz + 4 then
    return (EFI_INVALID_PARAMETER, p)
  let d ← get
  if !env.zeroPool d.ops then
    return (EFI_OUT_OF_RESOURCES, p)
  if CHECK_ADD64 p.image 4 then
    return (EFI_INVALID_PARAMETER, p)
  if p.imageEnd < p.image + 4 then
    return (EFI_INVALID_PARAMETER, p)
  loadBytes (img.at p.image) 0 4
  let buf := fillBuf sh.blkSz (img.at p.image).byte
  fillBlocks env io sh buf ch.chunkSz EFI_SUCCESS { p with image := p.image + 4 }

def skipDontCare (ch : ChunkHeader) (p : SparseImgParam) : EfiStatus × SparseImgParam :=
  if p.totalBlocks > MAX_UINT32 - ch.chunkSz then (EFI_INVALID_PARAMETER, p)
  else (EFI_SUCCESS, { p with totalBlocks := p.totalBlocks + ch.chunkSz })

/-- The `CHUNK_TYPE_CRC` case; only the low word of the data size moves the cursor. -/
def skipCrc (sh : SparseHeader) (ch : ChunkHeader) (p : SparseImgParam) :
    EfiStatus × SparseImgParam :=
  if ch.totalSz ≠ sh.chunkHdrSz then (EFI_INVALID_PARAMETER, p)
  else if p.totalBlocks > MAX_UINT32 - ch.chunkSz then (EFI_INVALID_PARAMETER, p)
  else if CHECK_ADD64 p.image p.chunkDataSz then (EFI_INVALID_PARAMETER, p)
  else
    let p' := { p with
      totalBlocks := p.totalBlocks + ch.chunkSz, image := p.image + u32 p.chunkDataSz }
    if p'.imageEnd < p'.image then (EFI_INVALID_PARAMETER, p') else (EFI_SUCCESS, p')

def validateChunkDataAndFlash (sh : SparseHeader) (ch : ChunkHeader) (p : SparseImgParam) :
    Prog Disk Exit (EfiStatus × SparseImgParam) := do
  if ch.chunkType = CHUNK_TYPE_RAW then
    let (status, p) ← handleChunkTypeRaw env io img sh ch p
    return (if EFI_ERROR status then status else EFI_SUCCESS, p)
  else if ch.chunkType = CHUNK_TYPE_FILL then
    let (status, p) ← handleChunkTypeFill env io img sh ch p
    return (if EFI_ERROR status then status else EFI_SUCCESS, p)
  else if ch.chunkType = CHUNK_TYPE_DONT_CARE then
    return skipDontCare ch p
  else if ch.chunkType = CHUNK_TYPE_CRC then
    return skipCrc sh ch p
  else
    return (EFI_INVALID_PARAMETER, p)

/-! ### The chunk loop -/

def processChunk (sh : SparseHeader) (p : SparseImgParam) :
    Prog Disk Exit (EfiStatus × SparseImgParam) := do
  if u64 (p.totalBlocks * sh.blkSz) ≥ p.partitionSize then
    return (EFI_VOLUME_FULL, p)
  if CHECK_ADD64 p.image CHUNK_HEADER_SIZE then
    return (EFI_INVALID_PARAMETER, p)
  let header := img.at p.image
  let p := { p with image := p.image + CHUNK_HEADER_SIZE }
  if p.imageEnd < p.image then
    return (EFI_BAD_BUFFER_SIZE, p)
  loadBytes header 0 CHUNK_HEADER_SIZE
  let ch := ChunkHeader.ofBytes header.byte
  if sh.chunkHdrSz ≠ CHUNK_HEADER_SIZE then
    return (EFI_INVALID_PARAMETER, p)
  let p := { p with chunkDataSz := u64 (sh.blkSz * ch.chunkSz) }
  if u64 (u64 (p.totalBlocks * sh.blkSz) + p.chunkDataSz) > p.partitionSize then
    return (EFI_VOLUME_FULL, p)
  validateChunkDataAndFlash env io img sh ch p

def processChunks (sh : SparseHeader) :
    Nat → SparseImgParam → Prog Disk Exit (EfiStatus × SparseImgParam)
  | 0, p => return (EFI_SUCCESS, p)
  | n + 1, p => do
    let (status, p) ← processChunk env io img sh p
    if EFI_ERROR status then
      return (status, p)
    processChunks sh n p

def flashSparse (sz : Nat) : Prog Disk Exit EfiStatus := do
  let partitionSize := io.getPartitionSize
  if partitionSize = 0 then
    return EFI_BAD_BUFFER_SIZE
  if sz < SPARSE_HEADER_SIZE then
    return EFI_INVALID_PARAMETER
  loadBytes img 0 SPARSE_HEADER_SIZE
  let sh := SparseHeader.ofBytes img.byte
  if u64 (sh.totalBlks * sh.blkSz) > partitionSize then
    return EFI_VOLUME_FULL
  if sh.fileHdrSz ≠ SPARSE_HEADER_SIZE then
    return EFI_BAD_BUFFER_SIZE
  if sh.blkSz = 0 then
    return EFI_INVALID_PARAMETER
  if sh.blkSz % io.blockSize ≠ 0 then
    return EFI_INVALID_PARAMETER
  let (status, p) ← processChunks env io img sh sh.totalChunks
    { image := img.addr + SPARSE_HEADER_SIZE
      totalBlocks := 0
      chunkDataSz := 0
      imageEnd := img.addr + sz
      blockCountFactor := sh.blkSz / io.blockSize
      partitionSize := partitionSize }
  if EFI_ERROR status then
    return status
  if p.totalBlocks ≠ sh.totalBlks then
    return EFI_VOLUME_CORRUPTED
  let flushed ← io.flushBlocks
  return if flushed ≠ EFI_SUCCESS then EFI_DEVICE_ERROR else status

end Handlers

def handleSparseImgFlash (env : StorageEnv) (lookup : PartitionLookup) (img : Buffer)
    (sz : Nat) : Prog Disk Exit EfiStatus :=
  if CHECK_ADD64 img.addr sz then return EFI_INVALID_PARAMETER
  else if lookup.status ≠ EFI_SUCCESS then return lookup.status
  else
    match lookup.blockIo with
    | none => return EFI_VOLUME_CORRUPTED
    | some io =>
      if !lookup.handle then return EFI_VOLUME_CORRUPTED
      else flashSparse env io img sz

/-! ### Reads and writes stay in bounds -/

/-- The event reads the image inside `[base, base + sz)`, or writes blocks of the medium. -/
def IoEvent.InBounds (io : BlockIo) (base sz : Nat) : IoEvent → Prop
  | .load .image addr len => base ≤ addr ∧ addr + len ≤ base + sz
  | .load .pool _ _ => True
  | .readBlocks _ _ => True
  | .writeBlocks lba size =>
      lba * io.blockSize + size ≤ (io.lastBlock + 1) * io.blockSize

structure SparseInv (io : BlockIo) (base sz : Nat) (sh : SparseHeader) (p : SparseImgParam) :
    Prop where
  base_le : base ≤ p.image
  image_le : p.image ≤ base + sz
  imageEnd_eq : p.imageEnd = base + sz
  totalBlocks_lt : p.totalBlocks < 2 ^ 32
  factor_mul : p.blockCountFactor * io.blockSize = sh.blkSz
  size_eq : p.partitionSize = (io.lastBlock + 1) * io.blockSize
  size_le : p.partitionSize ≤ MAX_UINT64

theorem SparseInv.move {io : BlockIo} {base sz image totalBlocks chunkDataSz : Nat}
    {sh : SparseHeader} {p : SparseImgParam} (hinv : SparseInv io base sz sh p)
    (hlo : base ≤ image) (hhi : image ≤ base + sz) (hblocks : totalBlocks < 2 ^ 32) :
    SparseInv io base sz sh { p with image, totalBlocks, chunkDataSz } :=
  { hinv with base_le := hlo, image_le := hhi, totalBlocks_lt := hblocks }

variable {a b c : Nat}

theorem mul_add_lt (ha : a < 2 ^ 32) (hb : b < 2 ^ 32) (hc : c ≤ 2 ^ 32) : a * b + c < 2 ^ 64 := by
  have h : a * b ≤ (2 ^ 32 - 1) * (2 ^ 32 - 1) := Nat.mul_le_mul (by omega) (by omega)
  omega

theorem u64_mul (ha : a < 2 ^ 32) (hb : b < 2 ^ 32) : u64 (a * b) = a * b :=
  Nat.mod_eq_of_lt (mul_add_lt (c := 0) ha hb (by omega))

theorem u64_mul_add (ha : a < 2 ^ 32) (hb : b < 2 ^ 32) (hc : c ≤ 2 ^ 32) :
    u64 (a * b + c) = a * b + c :=
  Nat.mod_eq_of_lt (mul_add_lt ha hb hc)

section Bounds

variable {env : StorageEnv} {io : BlockIo} {base sz : Nat} {bytes : Bytes} {sh : SparseHeader}
  {ch : ChunkHeader} {p : SparseImgParam} {d : Disk}

def sparseImage (base : Nat) (bytes : Bytes) : Buffer := ⟨.image, base, bytes⟩

/-- The log stays in bounds, and so does the cursor if the handler reports no error. -/
def StaysInBounds (io : BlockIo) (base sz : Nat) (sh : SparseHeader) (d : Disk)
    (m : Prog Disk Exit (EfiStatus × SparseImgParam)) : Prop :=
  (∀ e ∈ d.log, e.InBounds io base sz) →
    m.wp (fun r d' => (∀ e ∈ d'.log, e.InBounds io base sz) ∧
        (EFI_ERROR r.1 = false → SparseInv io base sz sh r.2))
      (fun _ d' => ∀ e ∈ d'.log, e.InBounds io base sz) d

theorem SparseInv.u64_offset (hinv : SparseInv io base sz sh p) (hbs : 0 < io.blockSize)
    (hfit : p.totalBlocks * sh.blkSz ≤ p.partitionSize) :
    u64 (p.totalBlocks * p.blockCountFactor) = p.totalBlocks * p.blockCountFactor ∧
      p.totalBlocks * p.blockCountFactor * io.blockSize = p.totalBlocks * sh.blkSz := by
  have hmax : MAX_UINT64 = 2 ^ 64 - 1 := rfl
  have hsz := hinv.size_le
  have hoff : p.totalBlocks * p.blockCountFactor * io.blockSize = p.totalBlocks * sh.blkSz := by
    rw [Nat.mul_assoc, hinv.factor_mul]
  have hle := Nat.le_mul_of_pos_right (p.totalBlocks * p.blockCountFactor) hbs
  exact ⟨Nat.mod_eq_of_lt (by omega), hoff⟩

theorem write_inBounds (hnand : env.rootDeviceType ≠ .NAND) (hbs : io.blockSize ≠ 0)
    (hinv : SparseInv io base sz sh p) {size : Nat} {src : Buffer} (hdvd : io.blockSize ∣ size)
    (hsize : size < 2 ^ 32) (hfit : p.totalBlocks * sh.blkSz + size ≤ p.partitionSize)
    (hload : ∀ off len, off + len ≤ size →
      (IoEvent.load src.region (src.addr + off) len).InBounds io base sz)
    (hd : ∀ e ∈ d.log, e.InBounds io base sz) :
    wp (writeBlockToPartitionNoFlush env io (u64 (p.totalBlocks * p.blockCountFactor))
        size src)
      (fun _ d' => ∀ e ∈ d'.log, e.InBounds io base sz)
      (fun _ d' => ∀ e ∈ d'.log, e.InBounds io base sz) d := by
  obtain ⟨hu, hoff⟩ := hinv.u64_offset (Nat.pos_of_ne_zero hbs) (by omega)
  have hmax : MAX_UINT64 = 2 ^ 64 - 1 := rfl
  have hsz := hinv.size_le
  rw [hu]
  refine writeBlockToPartitionNoFlush_log hnand hbs hdvd hsize (by omega) hload ?_ hd
  intro lba n hlba
  show lba * io.blockSize + n ≤ (io.lastBlock + 1) * io.blockSize
  rw [← hinv.size_eq]
  omega

theorem StaysInBounds.error {status : EfiStatus} {q : SparseImgParam}
    (h : EFI_ERROR status = true) : StaysInBounds io base sz sh d (pure (status, q)) := by
  intro hd
  refine ⟨hd, fun h' => ?_⟩
  rw [h] at h'
  exact absurd h' (by decide)

variable {m : Prog Disk Exit (EfiStatus × SparseImgParam)}

theorem StaysInBounds.ite {c : Prop} [Decidable c]
    {m' : Prog Disk Exit (EfiStatus × SparseImgParam)} (h : c → StaysInBounds io base sz sh d m)
    (h' : ¬ c → StaysInBounds io base sz sh d m') :
    StaysInBounds io base sz sh d (if c then m else m') := by
  by_cases hc : c
  · rw [if_pos hc]
    exact h hc
  · rw [if_neg hc]
    exact h' hc

/-- A check that returns an error. -/
theorem StaysInBounds.guard {c : Prop} [Decidable c] {status : EfiStatus} {q : SparseImgParam}
    (h : ¬ c → StaysInBounds io base sz sh d m) (he : EFI_ERROR status = true := by decide) :
    StaysInBounds io base sz sh d (if c then return (status, q) else m) :=
  .ite (fun _ => .error he) h

theorem SparseInv.dvd_blkSz (hinv : SparseInv io base sz sh p) : io.blockSize ∣ sh.blkSz :=
  hinv.factor_mul ▸ Nat.dvd_mul_left _ _

section

variable (hnand : env.rootDeviceType ≠ .NAND) (hbs : io.blockSize ≠ 0)
include hnand hbs

theorem handleChunkTypeRaw_inBounds (hinv : SparseInv io base sz sh p)
    (hhdr : sh.chunkHdrSz = CHUNK_HEADER_SIZE) (hdata : p.chunkDataSz = sh.blkSz * ch.chunkSz)
    (hfit : u64 (p.totalBlocks * sh.blkSz + p.chunkDataSz) ≤ p.partitionSize) :
    StaysInBounds io base sz sh d
      (handleChunkTypeRaw env io (sparseImage base bytes) sh ch p) := by
  refine StaysInBounds.guard fun htotal => ?_
  refine StaysInBounds.guard fun hadd => ?_
  refine StaysInBounds.guard fun hend => ?_
  -- the total size is a 32-bit value, so the data size is one too and no sum has wrapped
  have hsmall : p.chunkDataSz < 2 ^ 32 := by
    have htot := ch.totalSz_lt
    rw [not_not, hhdr, hdata, Nat.add_comm,
      u64_mul_add sh.blkSz_lt ch.chunkSz_lt (by decide)] at htotal
    omega
  rw [u64_mul_add hinv.totalBlocks_lt sh.blkSz_lt (Nat.le_of_lt hsmall)] at hfit
  intro hd
  refine wp_seq (write_inBounds hnand hbs hinv ?_ hsmall hfit ?_ hd) ?_
  · rw [hdata]
    exact Nat.dvd_mul_right_of_dvd hinv.dvd_blkSz _
  · intro off len hlen
    have hlo := hinv.base_le
    have hhi := hinv.imageEnd_eq
    show base ≤ p.image + off ∧ p.image + off + len ≤ base + sz
    omega
  · intro status d' hd'
    revert hd'
    refine StaysInBounds.ite (fun he => .error he) fun _ => ?_
    refine StaysInBounds.guard fun hblocks => ?_
    intro hd'
    refine ⟨hd', fun _ => ?_⟩
    have hmax : MAX_UINT32 = 2 ^ 32 - 1 := rfl
    have hchunk := ch.chunkSz_lt
    have hlo := hinv.base_le
    have hhi := hinv.imageEnd_eq
    exact hinv.move (by omega) (by omega) (by omega)

theorem fillBlocks_inBounds {buf : Buffer} (hbuf : buf.region = .pool) (n : Nat) :
    ∀ {status : EfiStatus} {p : SparseImgParam} {d : Disk}, SparseInv io base sz sh p →
      StaysInBounds io base sz sh d (fillBlocks env io sh buf n status p) := by
  induction n with
  | zero =>
    intro status p d hinv hd
    exact ⟨hd, fun _ => hinv⟩
  | succ n ih =>
    intro status p d hinv
    refine StaysInBounds.guard fun hfit => ?_
    rw [u64_mul hinv.totalBlocks_lt sh.blkSz_lt, u64_mul_add hinv.totalBlocks_lt sh.blkSz_lt
      (Nat.le_of_lt sh.blkSz_lt)] at hfit
    intro hd
    refine wp_seq (write_inBounds hnand hbs hinv hinv.dvd_blkSz sh.blkSz_lt
      (Nat.le_of_not_lt hfit) ?_ hd) ?_
    · intro off len _
      rw [hbuf]
      trivial
    · intro status' d' hd'
      revert hd'
      refine StaysInBounds.ite (fun he => .error he) fun _ => ih ?_
      exact { hinv with totalBlocks_lt := Nat.mod_lt _ (by decide) }

theorem handleChunkTypeFill_inBounds (hinv : SparseInv io base sz sh p) :
    StaysInBounds io base sz sh d
      (handleChunkTypeFill env io (sparseImage base bytes) sh ch p) := by
  refine StaysInBounds.guard fun _ => ?_
  intro hd
  revert hd
  refine StaysInBounds.guard fun _ => ?_
  refine StaysInBounds.guard fun _ => ?_
  refine StaysInBounds.guard fun hend => ?_
  intro hd
  have hlo := hinv.base_le
  have hhi := hinv.imageEnd_eq
  refine fillBlocks_inBounds hnand hbs rfl ch.chunkSz ?_ (forall_mem_snoc hd ?_)
  · exact hinv.move (by omega) (by omega) hinv.totalBlocks_lt
  · show base ≤ p.image + 0 ∧ p.image + 0 + 4 ≤ base + sz
    omega

end

theorem skipDontCare_inBounds (hinv : SparseInv io base sz sh p) :
    StaysInBounds io base sz sh d (pure (skipDontCare ch p)) := by
  have hmax : MAX_UINT32 = 2 ^ 32 - 1 := rfl
  have hchunk := ch.chunkSz_lt
  unfold skipDontCare
  by_cases h : p.totalBlocks > MAX_UINT32 - ch.chunkSz
  · rw [if_pos h]
    exact .error (by decide)
  · rw [if_neg h]
    intro hd
    refine ⟨hd, fun _ => ?_⟩
    exact hinv.move hinv.base_le hinv.image_le (by omega)

theorem skipCrc_inBounds (hinv : SparseInv io base sz sh p) :
    StaysInBounds io base sz sh d (pure (skipCrc sh ch p)) := by
  have hmax : MAX_UINT32 = 2 ^ 32 - 1 := rfl
  have hchunk := ch.chunkSz_lt
  have hlo := hinv.base_le
  have hhi := hinv.imageEnd_eq
  unfold skipCrc
  split
  · exact .error (by decide)
  split
  · exact .error (by decide)
  split
  · exact .error (by decide)
  rename_i hblocks _
  by_cases hend : p.imageEnd < p.image + u32 p.chunkDataSz
  · simp only [hend]
    exact .error (by decide)
  · simp only [hend]
    intro hd
    refine ⟨hd, fun _ => ?_⟩
    exact hinv.move (by omega) (by omega) (by omega)

theorem StaysInBounds.dropWarning (h : StaysInBounds io base sz sh d m) :
    StaysInBounds io base sz sh d (do
      let (status, p) ← m
      return (if EFI_ERROR status then status else EFI_SUCCESS, p)) := by
  intro hd
  refine wp_seq (h hd) ?_
  rintro ⟨status, q⟩ d' ⟨hd', hq⟩
  refine ⟨hd', fun he => hq ?_⟩
  by_cases hs : EFI_ERROR status = true
  · simp only [hs, if_true] at he
    exact absurd he (by decide)
  · exact Bool.eq_false_iff.mpr hs

section

variable (hnand : env.rootDeviceType ≠ .NAND) (hbs : io.blockSize ≠ 0)
include hnand hbs

theorem validateChunkDataAndFlash_inBounds (hinv : SparseInv io base sz sh p)
    (hhdr : sh.chunkHdrSz = CHUNK_HEADER_SIZE) (hdata : p.chunkDataSz = sh.blkSz * ch.chunkSz)
    (hfit : u64 (p.totalBlocks * sh.blkSz + p.chunkDataSz) ≤ p.partitionSize) :
    StaysInBounds io base sz sh d
      (validateChunkDataAndFlash env io (sparseImage base bytes) sh ch p) := by
  refine StaysInBounds.ite (fun _ => ?_) fun _ => ?_
  · exact .dropWarning (handleChunkTypeRaw_inBounds hnand hbs hinv hhdr hdata hfit)
  refine StaysInBounds.ite (fun _ => ?_) fun _ => ?_
  · exact .dropWarning (handleChunkTypeFill_inBounds hnand hbs hinv)
  refine StaysInBounds.ite (fun _ => skipDontCare_inBounds hinv) fun _ => ?_
  exact .ite (fun _ => skipCrc_inBounds hinv) fun _ => .error (by decide)

theorem processChunk_inBounds (hinv : SparseInv io base sz sh p) :
    StaysInBounds io base sz sh d (processChunk env io (sparseImage base bytes) sh p) := by
  have hlo := hinv.base_le
  have hhi := hinv.imageEnd_eq
  refine StaysInBounds.guard fun _ => ?_
  refine StaysInBounds.guard fun _ => ?_
  refine StaysInBounds.guard fun hend => ?_
  intro hd
  have hload : (IoEvent.load .image (p.image + 0) CHUNK_HEADER_SIZE).InBounds io base sz := by
    show base ≤ p.image + 0 ∧ p.image + 0 + CHUNK_HEADER_SIZE ≤ base + sz
    simp only at hend
    omega
  have hlog := forall_mem_snoc hd hload
  revert hlog
  change StaysInBounds io base sz sh { d with log := _ } _
  refine StaysInBounds.guard fun hhdr => ?_
  refine StaysInBounds.guard fun hfit => ?_
  generalize hch : ChunkHeader.ofBytes ((sparseImage base bytes).at p.image).byte = ch at hfit ⊢
  simp only [u64_mul sh.blkSz_lt ch.chunkSz_lt, u64_mul hinv.totalBlocks_lt sh.blkSz_lt]
    at hfit ⊢
  refine validateChunkDataAndFlash_inBounds hnand hbs ?_ (not_not.mp hhdr) rfl
    (Nat.le_of_not_lt hfit)
  simp only at hend
  exact hinv.move (by omega) (by omega) hinv.totalBlocks_lt

theorem processChunks_inBounds (n : Nat) :
    ∀ {p : SparseImgParam} {d : Disk}, SparseInv io base sz sh p →
      StaysInBounds io base sz sh d
        (processChunks env io (sparseImage base bytes) sh n p) := by
  induction n with
  | zero =>
    intro p d hinv hd
    exact ⟨hd, fun _ => hinv⟩
  | succ n ih =>
    intro p d hinv hd
    refine wp_seq (processChunk_inBounds hnand hbs hinv hd) ?_
    rintro ⟨status, q⟩ d' ⟨hd', hq⟩
    revert hd'
    refine StaysInBounds.ite (fun he => .error he) fun he => ih (hq ?_)
    exact Bool.eq_false_iff.mpr he

end

end Bounds

section Main

variable {env : StorageEnv} {io : BlockIo} {base sz : Nat} {bytes : Bytes} {d : Disk}

/-- Every read of the image and every write stays in its bounds. -/
theorem flashSparse_inBounds (hnand : env.rootDeviceType ≠ .NAND)
    (hd : ∀ e ∈ d.log, e.InBounds io base sz) :
    wp (flashSparse env io (sparseImage base bytes) sz)
      (fun _ d' => ∀ e ∈ d'.log, e.InBounds io base sz)
      (fun _ d' => ∀ e ∈ d'.log, e.InBounds io base sz) d := by
  unfold flashSparse
  by_cases hsize : io.getPartitionSize = 0
  · simpa [hsize] using hd
  by_cases hsz : sz < SPARSE_HEADER_SIZE
  · simpa [hsize, hsz] using hd
  have hload : (IoEvent.load .image (base + 0) SPARSE_HEADER_SIZE).InBounds io base sz := by
    show base ≤ base + 0 ∧ base + 0 + SPARSE_HEADER_SIZE ≤ base + sz
    omega
  have hlog := forall_mem_snoc hd hload
  simp only [hsize, hsz, if_false, wp_bind, wp_ite]
  refine ⟨fun _ => hlog, fun _ => ⟨fun _ => hlog, fun _ => ⟨fun _ => hlog, fun _ =>
    ⟨fun _ => hlog, fun hmod => ?_⟩⟩⟩⟩
  have hbs : io.blockSize ≠ 0 := by
    intro h
    rw [(io.getPartitionSize_eq hsize).1, h] at hsize
    exact hsize (Nat.mul_zero _)
  refine wp_imp (processChunks_inBounds hnand hbs _ ?_ hlog) ?_
  · exact {
      base_le := Nat.le_add_right _ _
      image_le := Nat.add_le_add_left (Nat.le_of_not_lt hsz) _
      imageEnd_eq := rfl
      totalBlocks_lt := Nat.two_pow_pos 32
      factor_mul := Nat.div_mul_cancel (Nat.dvd_of_mod_eq_zero (not_not.mp hmod))
      size_eq := (io.getPartitionSize_eq hsize).1
      size_le := (io.getPartitionSize_eq hsize).2 }
  · rintro ⟨status, q⟩ d' ⟨hd', -⟩
    exact ⟨fun _ => hd', fun _ => ⟨fun _ => hd', fun _ => hd'⟩⟩

end Main

/-- **Sparse flashing stays in bounds.**  On storage other than NAND, for every image, every
    size passed with it and every partition, each read of the image lies in
    `[Image, Image + sz)` and each block range asked to be written lies inside the
    partition, whether the routine returns or not. -/
theorem handleSparseImgFlash_inBounds (env : StorageEnv) (status : EfiStatus) (io : BlockIo)
    (handle : Bool) (base sz : Nat) (bytes contents : Bytes) (ops : Nat)
    (hnand : env.rootDeviceType ≠ .NAND) :
    ∀ e ∈ ((handleSparseImgFlash env ⟨status, some io, handle⟩ (sparseImage base bytes) sz).exec
        ⟨contents, ops, []⟩).2.log,
      e.InBounds io base sz := by
  have hd : ∀ e ∈ (⟨contents, ops, []⟩ : Disk).log, e.InBounds io base sz := by
    intro e he
    cases he
  refine wp_final (R := fun d' : Disk => ∀ e ∈ d'.log, e.InBounds io base sz) ?_
  simp only [handleSparseImgFlash, wp_ite]
  exact ⟨fun _ => hd, fun _ => ⟨fun _ => hd, fun _ => ⟨fun _ => hd, fun _ =>
    flashSparse_inBounds hnand hd⟩⟩⟩

/-- A sparse image with one block of four bytes, filled with the word `0x04030201`. -/
def oneBlockFill : List UInt8 :=
  [0x3a, 0xff, 0x26, 0xed, 1, 0, 0, 0, 28, 0, 12, 0, 4, 0, 0, 0, 1, 0, 0, 0, 1, 0, 0, 0, 0, 0, 0, 0,
   0xc2, 0xca, 0, 0, 1, 0, 0, 0, 16, 0, 0, 0, 1, 2, 3, 4]

def smallPartition : BlockIo := ⟨4, 1, by decide, one_lt, fun _ => EFI_SUCCESS⟩

def ufsStorage : StorageEnv := ⟨.UFS, EFI_SUCCESS, 0, fun _ => false, fun _ => true⟩

/-- The image above is flashed with three reads of it and one write, all in bounds. -/
theorem handleSparseImgFlash_inBounds_fill :
    let run := (handleSparseImgFlash ufsStorage ⟨EFI_SUCCESS, some smallPartition, true⟩
      (sparseImage 4096 fun i => oneBlockFill.getD i 0) 44).exec ⟨fun _ => 0, 0, []⟩
    run.1 = .ok EFI_SUCCESS ∧
      run.2.log = [.load .image 4096 28, .load .image 4124 12, .load .image 4136 4,
        .load .pool 0 4, .writeBlocks 0 4] ∧
      ∀ e ∈ run.2.log, e.InBounds smallPartition 4096 44 :=
  ⟨by decide, by decide, handleSparseImgFlash_inBounds ufsStorage EFI_SUCCESS smallPartition true
    4096 44 _ _ 0 (by decide)⟩

/-! ### The routine returns -/

section Returns

variable {env : StorageEnv} {io : BlockIo} {img : Buffer} {sh : SparseHeader} {ch : ChunkHeader}
  {p : SparseImgParam}

section

variable (hw : WriteEnds env io)
include hw

theorem handleChunkTypeRaw_returns : Returns (handleChunkTypeRaw env io img sh ch p) :=
  .ite (.pure _) (.ite (.pure _) (.ite (.pure _)
    (.bind (writeBlockToPartitionNoFlush_returns hw) fun _ =>
      .ite (.pure _) (.ite (.pure _) (.pure _)))))

theorem fillBlocks_returns {buf : Buffer} (n : Nat) :
    ∀ {status : EfiStatus} {p : SparseImgParam},
      Returns (fillBlocks env io sh buf n status p) := by
  induction n with
  | zero => exact .pure _
  | succ n ih =>
    exact .ite (.pure _) (.bind (writeBlockToPartitionNoFlush_returns hw) fun _ =>
      .ite (.pure _) ih)

theorem handleChunkTypeFill_returns : Returns (handleChunkTypeFill env io img sh ch p) :=
  .ite (.pure _) (.bind .get fun _ => .ite (.pure _) (.ite (.pure _) (.ite (.pure _)
    (.bind (.modify _) fun _ => fillBlocks_returns hw _))))

theorem processChunk_returns : Returns (processChunk env io img sh p) := by
  refine .ite (.pure _) (.ite (.pure _) (.ite (.pure _) (.bind (.modify _) fun _ =>
    .ite (.pure _) (.ite (.pure _) ?_))))
  exact .ite (.bind (handleChunkTypeRaw_returns hw) fun _ => .pure _)
    (.ite (.bind (handleChunkTypeFill_returns hw) fun _ => .pure _)
      (.ite (.pure _) (.ite (.pure _) (.pure _))))

theorem processChunks_returns (n : Nat) :
    ∀ {p : SparseImgParam}, Returns (processChunks env io img sh n p) := by
  induction n with
  | zero => exact .pure _
  | succ n ih => exact .bind (processChunk_returns hw) fun _ => .ite (.pure _) ih

theorem handleSparseImgFlash_returns {status : EfiStatus} {handle : Bool} {sz : Nat} :
    Returns (handleSparseImgFlash env ⟨status, some io, handle⟩ img sz) := by
  refine .ite (.pure _) (.ite (.pure _) (.ite (.pure _) (.ite (.pure _) (.ite (.pure _)
    (.bind (.modify _) fun _ => ?_)))))
  exact .ite (.pure _) (.ite (.pure _) (.ite (.pure _) (.ite (.pure _)
    (.bind (processChunks_returns hw _) fun _ => .ite (.pure _) (.ite (.pure _)
      (.bind (fun _ => trivial) fun _ => .pure _))))))

end

end Returns

end OhMyAbl
