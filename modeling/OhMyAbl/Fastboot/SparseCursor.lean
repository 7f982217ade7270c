/-
  **Where the next chunk header of a sparse image is read.**

  A chunk header states the size of its chunk, `total_sz`.  `HandleSparseImgFlash` moves its cursor
  over the header, and `ValidateChunkDataAndFlash` over the data, by what the type of the chunk says
  and not by `total_sz`: the two agree where `total_sz` is compared with just that.
-/
import OhMyAbl.Fastboot.Sparse

namespace OhMyAbl

open Prog

def skippedData (sh : SparseHeader) (ch : ChunkHeader) : Nat :=
  if ch.chunkType = CHUNK_TYPE_RAW then sh.blkSz * ch.chunkSz
  else if ch.chunkType = CHUNK_TYPE_FILL then 4
  else if ch.chunkType = CHUNK_TYPE_CRC then u32 (sh.blkSz * ch.chunkSz)
  else 0

/-- The types, and what `total_sz` is compared with; the size of a chunk that is left alone is not
    looked at. -/
inductive CheckedSize (sh : SparseHeader) (ch : ChunkHeader) : Prop
  | raw (htype : ch.chunkType = CHUNK_TYPE_RAW)
      (hsize : ch.totalSz = CHUNK_HEADER_SIZE + sh.blkSz * ch.chunkSz)
  | fill (htype : ch.chunkType = CHUNK_TYPE_FILL) (hsize : ch.totalSz = CHUNK_HEADER_SIZE + 4)
  | dontCare (htype : ch.chunkType = CHUNK_TYPE_DONT_CARE)
  | crc (htype : ch.chunkType = CHUNK_TYPE_CRC) (hsize : ch.totalSz = CHUNK_HEADER_SIZE)

section Cursor

variable {env : StorageEnv} {io : BlockIo} {img : Buffer} {sh : SparseHeader} {ch : ChunkHeader}
  {p : SparseImgParam} {d : Disk}

def ChunkAccepted (sh : SparseHeader) (ch : ChunkHeader) (p : SparseImgParam)
    (r : EfiStatus × SparseImgParam) : Prop :=
  EFI_ERROR r.1 = false → r.2.image = p.image + skippedData sh ch ∧ CheckedSize sh ch

theorem chunkAccepted_of_error {status : EfiStatus} {q : SparseImgParam}
    (h : EFI_ERROR status = true) : ChunkAccepted sh ch p (status, q) := by
  intro hok
  rw [h] at hok
  cases hok

theorem wp_refused {c : Prop} [Decidable c] {status : EfiStatus} {q : SparseImgParam}
    {m : Prog Disk Exit (EfiStatus × SparseImgParam)}
    (h : ¬ c → wp m (fun r _ => ChunkAccepted sh ch p r) anyExit d)
    (he : EFI_ERROR status = true := by decide) :
    wp (if c then return (status, q) else m) (fun r _ => ChunkAccepted sh ch p r) anyExit d :=
  .ite (fun _ => chunkAccepted_of_error he) h

theorem fillBlocks_image (buf : Buffer) (n : Nat) : ∀ (status : EfiStatus) (p : SparseImgParam)
    (d : Disk), wp (fillBlocks env io sh buf n status p) (fun r _ => r.2.image = p.image)
      anyExit d := by
  induction n with
  | zero =>
    intro status p d
    rfl
  | succ n ih =>
    intro status p d
    refine .ite (fun _ => rfl) fun _ => ?_
    rw [wp_bind]
    refine wp_any (fun status d' => ?_) fun _ _ => trivial
    refine .ite (fun _ => rfl) fun _ => ?_
    exact ih status { p with totalBlocks := u32 (p.totalBlocks + 1) } d'

theorem handleChunkTypeRaw_accepted (hhdr : sh.chunkHdrSz = CHUNK_HEADER_SIZE)
    (hdata : p.chunkDataSz = sh.blkSz * ch.chunkSz) (htype : ch.chunkType = CHUNK_TYPE_RAW) :
    wp (handleChunkTypeRaw env io img sh ch p) (fun r _ => ChunkAccepted sh ch p r) anyExit d := by
  have hsum : u64 (sh.chunkHdrSz + p.chunkDataSz) = CHUNK_HEADER_SIZE + sh.blkSz * ch.chunkSz := by
    rw [hhdr, hdata, Nat.add_comm, u64_mul_add sh.blkSz_lt ch.chunkSz_lt (by decide), Nat.add_comm]
  rw [handleChunkTypeRaw, hsum]
  refine wp_refused fun htotal => ?_
  refine wp_refused fun _ => ?_
  refine wp_refused fun _ => ?_
  rw [wp_bind]
  refine wp_any (fun status d' => ?_) fun _ _ => trivial
  refine .ite (fun herror => chunkAccepted_of_error herror) fun _ => ?_
  refine wp_refused fun _ => ?_
  intro _
  refine ⟨?_, .raw htype (not_not.mp htotal)⟩
  rw [skippedData, if_pos htype, hdata]

theorem handleChunkTypeFill_accepted (hhdr : sh.chunkHdrSz = CHUNK_HEADER_SIZE)
    (htype : ch.chunkType = CHUNK_TYPE_FILL) :
    wp (handleChunkTypeFill env io img sh ch p) (fun r _ => ChunkAccepted sh ch p r) anyExit d := by
  have hraw : ch.chunkType ≠ CHUNK_TYPE_RAW := by
    rw [htype]
    decide
  rw [handleChunkTypeFill, hhdr]
  refine wp_refused fun htotal => ?_
  rw [wp_bind, wp_get]
  refine wp_refused fun _ => ?_
  refine wp_refused fun _ => ?_
  refine wp_refused fun _ => ?_
  refine wp_imp (fillBlocks_image _ _ _ _ _) ?_
  intro r d' himage _
  refine ⟨?_, .fill htype (not_not.mp htotal)⟩
  rw [himage, skippedData, if_neg hraw, if_pos htype]

theorem skipDontCare_accepted (htype : ch.chunkType = CHUNK_TYPE_DONT_CARE) :
    ChunkAccepted sh ch p (skipDontCare ch p) := by
  unfold skipDontCare
  split
  · exact chunkAccepted_of_error (by decide)
  · intro _
    have hdata : skippedData sh ch = 0 := by
      unfold skippedData
      rw [htype, if_neg (by decide), if_neg (by decide), if_neg (by decide)]
    refine ⟨?_, .dontCare htype⟩
    rw [hdata]
    rfl

theorem skipCrc_accepted (hhdr : sh.chunkHdrSz = CHUNK_HEADER_SIZE)
    (hdata : p.chunkDataSz = sh.blkSz * ch.chunkSz) (htype : ch.chunkType = CHUNK_TYPE_CRC) :
    ChunkAccepted sh ch p (skipCrc sh ch p) := by
  have hskipped : skippedData sh ch = u32 p.chunkDataSz := by
    unfold skippedData
    rw [htype, if_neg (by decide), if_neg (by decide), if_pos rfl, hdata]
  unfold skipCrc
  split
  · exact chunkAccepted_of_error (by decide)
  split
  · exact chunkAccepted_of_error (by decide)
  split
  · exact chunkAccepted_of_error (by decide)
  dsimp only
  split
  · exact chunkAccepted_of_error (by decide)
  · rename_i htotal _ _ _
    intro _
    refine ⟨?_, .crc htype ((not_not.mp htotal).trans hhdr)⟩
    rw [hskipped]

theorem validateChunkDataAndFlash_accepted (hhdr : sh.chunkHdrSz = CHUNK_HEADER_SIZE)
    (hdata : p.chunkDataSz = sh.blkSz * ch.chunkSz) :
    wp (validateChunkDataAndFlash env io img sh ch p) (fun r _ => ChunkAccepted sh ch p r)
      anyExit d := by
  have hstatus : ∀ r : EfiStatus × SparseImgParam, ChunkAccepted sh ch p r →
      ChunkAccepted sh ch p (if EFI_ERROR r.1 then r.1 else EFI_SUCCESS, r.2) := by
    intro r hr
    cases herror : EFI_ERROR r.1 with
    | true => exact chunkAccepted_of_error (by rw [if_pos rfl, herror])
    | false => exact fun _ => hr herror
  refine .ite (fun htype => ?_) fun _ => ?_
  · exact wp_seq (handleChunkTypeRaw_accepted hhdr hdata htype) fun r _ h => hstatus r h
  refine .ite (fun htype => ?_) fun _ => ?_
  · exact wp_seq (handleChunkTypeFill_accepted hhdr htype) fun r _ h => hstatus r h
  refine .ite (fun htype => skipDontCare_accepted htype) fun _ => ?_
  exact .ite (fun htype => skipCrc_accepted hhdr hdata htype)
    fun _ => chunkAccepted_of_error (by decide)

def chunkAt (img : Buffer) (p : SparseImgParam) : ChunkHeader :=
  ChunkHeader.ofBytes (img.at p.image).byte

theorem processChunk_accepted :
    wp (processChunk env io img sh p)
      (fun r _ => ChunkAccepted sh (chunkAt img p)
        { p with image := p.image + CHUNK_HEADER_SIZE } r)
      anyExit d := by
  refine wp_refused fun _ => ?_
  refine wp_refused fun _ => ?_
  refine wp_refused fun _ => ?_
  rw [wp_bind, wp_loadBytes]
  refine wp_refused fun hhdr => ?_
  refine wp_refused fun _ => ?_
  exact validateChunkDataAndFlash_accepted (not_not.mp hhdr)
    (u64_mul sh.blkSz_lt (ChunkHeader.ofBytes (img.at p.image).byte).chunkSz_lt)

end Cursor

/-- The size that a chunk states is the one the cursor moves by, if it is left alone or is a
    checksum. -/
def StatesItsSize (sh : SparseHeader) (ch : ChunkHeader) : Prop :=
  (ch.chunkType = CHUNK_TYPE_DONT_CARE → ch.totalSz = CHUNK_HEADER_SIZE) ∧
    (ch.chunkType = CHUNK_TYPE_CRC → u32 (sh.blkSz * ch.chunkSz) = 0)

instance (sh : SparseHeader) (ch : ChunkHeader) : Decidable (StatesItsSize sh ch) :=
  inferInstanceAs (Decidable (_ ∧ _))

theorem skippedData_eq_iff {sh : SparseHeader} {ch : ChunkHeader} (h : CheckedSize sh ch) :
    CHUNK_HEADER_SIZE + skippedData sh ch = ch.totalSz ↔ StatesItsSize sh ch := by
  unfold StatesItsSize skippedData
  cases h with
  | raw htype hsize =>
    rw [htype, if_pos rfl, hsize]
    exact iff_of_true rfl ⟨fun h => absurd h (by decide), fun h => absurd h (by decide)⟩
  | fill htype hsize =>
    rw [htype, if_neg (by decide), if_pos rfl, hsize]
    exact iff_of_true rfl ⟨fun h => absurd h (by decide), fun h => absurd h (by decide)⟩
  | dontCare htype =>
    rw [htype, if_neg (by decide), if_neg (by decide), if_neg (by decide)]
    constructor
    · intro hsize
      exact ⟨fun _ => hsize.symm, fun h => absurd h (by decide)⟩
    · intro h
      exact (h.1 rfl).symm
  | crc htype hsize =>
    rw [htype, if_neg (by decide), if_neg (by decide), if_pos rfl, hsize]
    constructor
    · intro hdata
      exact ⟨fun h => absurd h (by decide), fun _ => by omega⟩
    · intro h
      rw [h.2 rfl, Nat.add_zero]

/-- For every image and every chunk that is accepted, the cursor stands behind the size that the
    chunk states exactly if the chunk is one with data, or states the size of its header and, as a
    checksum, is for a multiple of 4 GiB. -/
theorem processChunk_cursor_iff (env : StorageEnv) (io : BlockIo) (img : Buffer)
    (sh : SparseHeader) (p p' : SparseImgParam) (d d' : Disk) (status : EfiStatus)
    (hrun : (processChunk env io img sh p).exec d = (.ok (status, p'), d'))
    (haccepted : EFI_ERROR status = false) :
    p'.image = p.image + (chunkAt img p).totalSz ↔ StatesItsSize sh (chunkAt img p) := by
  have hspec := wp_ok processChunk_accepted hrun
  obtain ⟨himage, hchecked⟩ := hspec haccepted
  rw [himage, ← skippedData_eq_iff hchecked]
  dsimp only
  omega

def loopStart : SparseImgParam := ⟨4096 + SPARSE_HEADER_SIZE, 0, 0, 4096 + 44, 1, 8⟩

/-- The fill chunk ends where it says. -/
theorem processChunk_cursor_fill :
    let img := sparseImage 4096 fun i => oneBlockFill.getD i 0
    ∃ p' d', (processChunk ufsStorage smallPartition img (SparseHeader.ofBytes img.byte)
        loopStart).exec ⟨fun _ => 0, 0, []⟩ = (.ok (EFI_SUCCESS, p'), d') ∧
      p'.image = loopStart.image + (chunkAt img loopStart).totalSz := by
  intro img
  have hresult : ((processChunk ufsStorage smallPartition img (SparseHeader.ofBytes img.byte)
      loopStart).exec ⟨fun _ => 0, 0, []⟩).1 = .ok (EFI_SUCCESS, ⟨4140, 1, 4, 4140, 1, 8⟩) := by
    decide
  have hrun := exec_of_result hresult
  refine ⟨_, _, hrun, ?_⟩
  exact (processChunk_cursor_iff _ _ _ _ _ _ _ _ _ hrun (by decide)).mpr (by decide)

/-- A chunk that is left alone and states 28 bytes, 16 of which are a fill chunk of its own. -/
def hiddenFill : List UInt8 :=
  [0x3a, 0xff, 0x26, 0xed, 1, 0, 0, 0, 28, 0, 12, 0, 4, 0, 0, 0, 2, 0, 0, 0, 2, 0, 0, 0, 0, 0, 0, 0,
   0xc3, 0xca, 0, 0, 1, 0, 0, 0, 28, 0, 0, 0,
   0xc2, 0xca, 0, 0, 1, 0, 0, 0, 16, 0, 0, 0, 1, 2, 3, 4]

/-- A checksum that states 12 bytes, and four bytes further on a fill chunk. -/
def checksumFill : List UInt8 :=
  [0x3a, 0xff, 0x26, 0xed, 1, 0, 0, 0, 28, 0, 12, 0, 4, 0, 0, 0, 2, 0, 0, 0, 2, 0, 0, 0, 0, 0, 0, 0,
   0xc4, 0xca, 0, 0, 1, 0, 0, 0, 12, 0, 0, 0, 0, 0, 0, 0,
   0xc2, 0xca, 0, 0, 1, 0, 0, 0, 16, 0, 0, 0, 1, 2, 3, 4]

/-- Both images are flashed, and their second chunk headers are read where the first chunks do not
    end: 12 bytes on instead of 28, and 16 instead of 12. -/
theorem chunk_sizes_ignored :
    let flash := fun image : List UInt8 =>
      (handleSparseImgFlash ufsStorage ⟨EFI_SUCCESS, some smallPartition, true⟩
        (sparseImage 4096 fun i => image.getD i 0) image.length).exec ⟨fun _ => 0, 0, []⟩
    let firstSize := fun image : List UInt8 =>
      (ChunkHeader.ofBytes (Bytes.shift (fun i => image.getD i 0) 28)).totalSz
    (flash hiddenFill).1 = .ok EFI_SUCCESS ∧ firstSize hiddenFill = 28 ∧
      (flash hiddenFill).2.log.take 3 =
        [.load .image 4096 28, .load .image 4124 12, .load .image (4124 + 12) 12] ∧
      (flash checksumFill).1 = .ok EFI_SUCCESS ∧ firstSize checksumFill = 12 ∧
      (flash checksumFill).2.log.take 3 =
        [.load .image 4096 28, .load .image 4124 12, .load .image (4124 + 16) 12] := by
  decide +kernel

end OhMyAbl
