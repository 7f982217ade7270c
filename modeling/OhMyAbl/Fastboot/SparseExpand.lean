/-
  **Flashing a sparse image expands it onto the partition.**

  `expand` says what a list of chunks makes of the old contents of a partition, with no reference to
  the code; `ChunkList` says which bytes are a well-formed image of which list.
  `processChunk_places` is the simulation step, one chunk of the list for one turn of the loop.
-/
import OhMyAbl.Storage.ExactWrites
import OhMyAbl.Fastboot.Sparse

namespace OhMyAbl

open Prog

/-! ### Chunks and their meaning -/

inductive Chunk where
  | raw (blocks : Nat) (payload : Bytes)
  | fill (blocks : Nat) (word : Bytes)
  | dontCare (blocks : Nat)

namespace Chunk

def blocks : Chunk → Nat
  | raw n _ => n
  | fill n _ => n
  | dontCare n => n

def byteAt (i : Nat) (old : UInt8) : Chunk → UInt8
  | raw _ payload => payload i
  | fill _ word => word (i % 4)
  | dontCare _ => old

def place (blkSz b : Nat) (old : Bytes) (c : Chunk) : Bytes :=
  fun x =>
    if b * blkSz ≤ x ∧ x < b * blkSz + c.blocks * blkSz then c.byteAt (x - b * blkSz) (old x)
    else old x

end Chunk

def chunkBlocks : List Chunk → Nat
  | [] => 0
  | c :: rest => c.blocks + chunkBlocks rest

def expand (blkSz : Nat) : Nat → List Chunk → Bytes → Bytes
  | _, [], old => old
  | b, c :: rest, old => expand blkSz (b + c.blocks) rest (c.place blkSz b old)

/-- The new contents hold in the range of each chunk what the chunk says, and are the old ones
    behind the last chunk. -/
def Expanded (blkSz : Nat) (old new : Bytes) : Nat → List Chunk → Prop
  | b, [] => ∀ x, b * blkSz ≤ x → new x = old x
  | b, c :: rest =>
    (∀ i < c.blocks * blkSz, new (b * blkSz + i) = c.byteAt i (old (b * blkSz + i))) ∧
      Expanded blkSz old new (b + c.blocks) rest

section Expand

variable {blkSz b : Nat} {old old' new : Bytes} {c : Chunk} {chunks : List Chunk}

theorem place_inside {i : Nat} (h : i < c.blocks * blkSz) :
    c.place blkSz b old (b * blkSz + i) = c.byteAt i (old (b * blkSz + i)) := by
  rw [Chunk.place, if_pos (by omega), Nat.add_sub_cancel_left]

theorem place_outside {x : Nat} (h : x < b * blkSz ∨ b * blkSz + c.blocks * blkSz ≤ x) :
    c.place blkSz b old x = old x := by
  rw [Chunk.place, if_neg (by omega)]

theorem place_eq_overwrite {f : Bytes} (h : ∀ i old, c.byteAt i old = f i) :
    c.place blkSz b old = old.overwrite (b * blkSz) (c.blocks * blkSz) f := by
  funext x
  rw [Chunk.place, Bytes.overwrite, h]

theorem expand_before (chunks : List Chunk) : ∀ {b : Nat} {old : Bytes} {x : Nat},
    x < b * blkSz → expand blkSz b chunks old x = old x := by
  induction chunks with
  | nil =>
    intro b old x _
    rfl
  | cons c rest ih =>
    intro b old x hx
    have hnext : x < (b + c.blocks) * blkSz := by
      rw [Nat.add_mul]
      omega
    rw [expand, ih hnext, place_outside (.inl hx)]

theorem Expanded.congr (chunks : List Chunk) : ∀ {b : Nat},
    (∀ x, b * blkSz ≤ x → old' x = old x) → Expanded blkSz old' new b chunks →
      Expanded blkSz old new b chunks := by
  induction chunks with
  | nil =>
    intro b hold h x hx
    rw [h x hx, hold x hx]
  | cons c rest ih =>
    intro b hold h
    obtain ⟨hchunk, hrest⟩ := h
    constructor
    · intro i hi
      rw [hchunk i hi, hold _ (by omega)]
    · refine ih (fun x hx => hold x ?_) hrest
      rw [Nat.add_mul] at hx
      omega

theorem expanded_expand (chunks : List Chunk) : ∀ {b : Nat} {old : Bytes},
    Expanded blkSz old (expand blkSz b chunks old) b chunks := by
  induction chunks with
  | nil =>
    intro b old x _
    rfl
  | cons c rest ih =>
    intro b old
    have hend : (b + c.blocks) * blkSz = b * blkSz + c.blocks * blkSz := Nat.add_mul _ _ _
    constructor
    · intro i hi
      rw [expand, expand_before rest (by omega), place_inside hi]
    · refine Expanded.congr rest (fun x hx => ?_) (@ih _ (c.place blkSz b old))
      exact place_outside (.inr (by omega))

end Expand

/-! ### Well-formed images -/

/-- The chunk whose header stands at `off`, and where the next header stands. -/
inductive ChunkAt (f : Bytes) (blkSz off : Nat) : Chunk → Nat → Prop
  | raw (ch : ChunkHeader) (hch : ChunkHeader.ofBytes (f.shift off) = ch)
      (htype : ch.chunkType = CHUNK_TYPE_RAW)
      (htotal : ch.totalSz = CHUNK_HEADER_SIZE + ch.chunkSz * blkSz) :
      ChunkAt f blkSz off (.raw ch.chunkSz (f.shift (off + CHUNK_HEADER_SIZE)))
        (off + CHUNK_HEADER_SIZE + ch.chunkSz * blkSz)
  | fill (ch : ChunkHeader) (hch : ChunkHeader.ofBytes (f.shift off) = ch)
      (htype : ch.chunkType = CHUNK_TYPE_FILL) (htotal : ch.totalSz = CHUNK_HEADER_SIZE + 4) :
      ChunkAt f blkSz off (.fill ch.chunkSz (f.shift (off + CHUNK_HEADER_SIZE)))
        (off + CHUNK_HEADER_SIZE + 4)
  | dontCare (ch : ChunkHeader) (hch : ChunkHeader.ofBytes (f.shift off) = ch)
      (htype : ch.chunkType = CHUNK_TYPE_DONT_CARE) (htotal : ch.totalSz = CHUNK_HEADER_SIZE) :
      ChunkAt f blkSz off (.dontCare ch.chunkSz) (off + CHUNK_HEADER_SIZE)

/-- The chunks from `off` on, each of at least one block, and where the last one ends. -/
inductive ChunkList (f : Bytes) (blkSz : Nat) : Nat → List Chunk → Nat → Prop
  | nil (off : Nat) : ChunkList f blkSz off [] off
  | cons {off next last : Nat} {c : Chunk} {rest : List Chunk} (hc : ChunkAt f blkSz off c next)
      (hpos : 1 ≤ c.blocks) (hrest : ChunkList f blkSz next rest last) :
      ChunkList f blkSz off (c :: rest) last

variable {blkSz off : Nat} {f : Bytes}

theorem ChunkAt.le {next : Nat} {c : Chunk} (h : ChunkAt f blkSz off c next) :
    off + CHUNK_HEADER_SIZE ≤ next := by
  cases h <;> omega

theorem ChunkList.le {last : Nat} {chunks : List Chunk} (h : ChunkList f blkSz off chunks last) :
    off ≤ last := by
  induction h with
  | nil off => exact Nat.le_refl _
  | cons hc _ _ ih => exact Nat.le_trans (Nat.le_trans (Nat.le_add_right _ _) hc.le) ih

/-- The first `sz` bytes of `f` are a sparse image of the chunks, for a partition. -/
structure WellFormed (io : BlockIo) (f : Bytes) (sz : Nat) (chunks : List Chunk) : Prop where
  fileHdrSz : (SparseHeader.ofBytes f).fileHdrSz = SPARSE_HEADER_SIZE
  chunkHdrSz : (SparseHeader.ofBytes f).chunkHdrSz = CHUNK_HEADER_SIZE
  blkSz_pos : 0 < (SparseHeader.ofBytes f).blkSz
  blkSz_word : 4 ∣ (SparseHeader.ofBytes f).blkSz
  blkSz_block : io.blockSize ∣ (SparseHeader.ofBytes f).blkSz
  totalChunks : (SparseHeader.ofBytes f).totalChunks = chunks.length
  totalBlks : (SparseHeader.ofBytes f).totalBlks = chunkBlocks chunks
  list : ∃ last ≤ sz,
    ChunkList f (SparseHeader.ofBytes f).blkSz SPARSE_HEADER_SIZE chunks last
  fits : chunkBlocks chunks * (SparseHeader.ofBytes f).blkSz ≤ (io.lastBlock + 1) * io.blockSize

/-! ### One chunk, one turn of the loop -/

section Simulation

variable {env : StorageEnv} {io : BlockIo} {base sz off next b : Nat} {f : Bytes}
  {sh : SparseHeader} {c : Chunk} {p : SparseImgParam} {d : Disk}

/-- The image is whole, the medium takes what it is given, and buffers can be had. -/
structure Flashable (env : StorageEnv) (io : BlockIo) (base sz : Nat) : Prop where
  notNand : env.rootDeviceType ≠ .NAND
  writes : WritesSucceed env io
  pool : ∀ n, env.zeroPool n = true
  blockSize : 0 < io.blockSize
  image : base + sz ≤ MAX_UINT64

/-- The cursor stands at the header at `off`, `b` blocks into the partition. -/
structure AtChunk (io : BlockIo) (base sz : Nat) (sh : SparseHeader) (off b : Nat)
    (p : SparseImgParam) : Prop where
  inv : SparseInv io base sz sh p
  image : p.image = base + off
  totalBlocks : p.totalBlocks = b

theorem writeAtCount (hflash : Flashable env io base sz) (hinv : SparseInv io base sz sh p)
    {size : Nat} {src : Buffer} (hdvd : io.blockSize ∣ size) (hsize : size < 2 ^ 32)
    (hfit : p.totalBlocks * sh.blkSz + size ≤ p.partitionSize) :
    wp (writeBlockToPartitionNoFlush env io (u64 (p.totalBlocks * p.blockCountFactor)) size
        src)
      (fun status d' => status = EFI_SUCCESS ∧
        d'.contents = d.contents.overwrite (p.totalBlocks * sh.blkSz) size src.byte) noExit d := by
  obtain ⟨hu, hoff⟩ := hinv.u64_offset hflash.blockSize (by omega)
  rw [hu, ← hoff]
  refine writeBlockToPartitionNoFlush_whole hflash.notNand hflash.writes hflash.blockSize hdvd
    hsize ?_
  rw [hoff, ← hinv.size_eq]
  exact hfit

variable {word : Bytes} {ch : ChunkHeader}

theorem fillBuf_byte (h : 4 ∣ sh.blkSz) {i : Nat} (hi : i < sh.blkSz) :
    (fillBuf sh.blkSz word).byte i = word (i % 4) := by
  have hwords : sh.blkSz / 4 * 4 = sh.blkSz := Nat.div_mul_cancel h
  simp [fillBuf, hwords, hi]

theorem fillBlocks_places (hflash : Flashable env io base sz) (hword : 4 ∣ sh.blkSz) (n : Nat) :
    ∀ {status : EfiStatus} {p : SparseImgParam} {d : Disk}, EFI_ERROR status = false →
      SparseInv io base sz sh p → p.totalBlocks + n < 2 ^ 32 →
      (p.totalBlocks + n) * sh.blkSz ≤ p.partitionSize →
      wp (fillBlocks env io sh (fillBuf sh.blkSz word) n status p)
        (fun r d' => EFI_ERROR r.1 = false ∧
          r.2 = { p with totalBlocks := p.totalBlocks + n } ∧
          d'.contents = d.contents.overwrite (p.totalBlocks * sh.blkSz) (n * sh.blkSz)
            (fun i => word (i % 4))) noExit d := by
  induction n with
  | zero =>
    intro status p d hstatus _ _ _
    rw [fillBlocks, wp_pure, Nat.zero_mul, Bytes.overwrite_zero]
    exact ⟨hstatus, rfl, rfl⟩
  | succ n ih =>
    intro status p d _ hinv hcount hfit
    have hone : (p.totalBlocks + (n + 1)) * sh.blkSz =
        p.totalBlocks * sh.blkSz + sh.blkSz + n * sh.blkSz := by
      simp only [Nat.add_mul]
      omega
    have hroom : ¬ u64 (u64 (p.totalBlocks * sh.blkSz) + sh.blkSz) > p.partitionSize := by
      rw [u64_mul hinv.totalBlocks_lt sh.blkSz_lt,
        u64_mul_add hinv.totalBlocks_lt sh.blkSz_lt (Nat.le_of_lt sh.blkSz_lt)]
      omega
    rw [fillBlocks, if_neg hroom]
    refine wp_seq (writeAtCount hflash hinv hinv.dvd_blkSz sh.blkSz_lt (by omega)) ?_
    rintro _ d' ⟨rfl, hblock⟩
    have hnext : u32 (p.totalBlocks + 1) = p.totalBlocks + 1 := Nat.mod_eq_of_lt (by omega)
    rw [if_neg (by decide), hnext]
    refine wp_imp (ih (by decide) ?_ ?_ ?_) ?_
    · exact hinv.move hinv.base_le hinv.image_le (by omega)
    · show p.totalBlocks + 1 + n < 2 ^ 32
      omega
    · rw [Nat.add_assoc, Nat.add_comm 1 n]
      exact hfit
    · rintro ⟨status', q⟩ d'' ⟨hstatus', hq, hrest⟩
      refine ⟨hstatus', ?_, ?_⟩
      · rw [hq]
        simp [Nat.add_assoc, Nat.add_comm 1 n]
      · have hstart : (p.totalBlocks + 1) * sh.blkSz = p.totalBlocks * sh.blkSz + sh.blkSz := by
          rw [Nat.add_mul, Nat.one_mul]
        have hlen : (n + 1) * sh.blkSz = sh.blkSz + n * sh.blkSz := by
          rw [Nat.add_mul, Nat.one_mul, Nat.add_comm]
        -- the word is in step with the start of every block
        have hshift : Bytes.shift (fun i => word (i % 4)) sh.blkSz = fun i => word (i % 4) := by
          funext i
          rw [Bytes.shift_apply, Nat.add_mod, Nat.mod_eq_zero_of_dvd hword, Nat.zero_add,
            Nat.mod_mod]
        simp only at hrest
        rw [hrest, hblock, Bytes.overwrite_congr fun i hi => fillBuf_byte hword hi, hstart, hlen,
          ← Bytes.overwrite_append, hshift]

def enterChunk (sh : SparseHeader) (ch : ChunkHeader) (p : SparseImgParam) : SparseImgParam :=
  { p with image := p.image + CHUNK_HEADER_SIZE, chunkDataSz := sh.blkSz * ch.chunkSz }

theorem AtChunk.enter (h : AtChunk io base sz sh off b p) (hend : off + CHUNK_HEADER_SIZE ≤ sz)
    (ch : ChunkHeader) : SparseInv io base sz sh (enterChunk sh ch p) := by
  have himage := h.image
  exact h.inv.move (by omega) (by omega) h.inv.totalBlocks_lt

theorem processChunk_enters {Q : EfiStatus × SparseImgParam → Disk → Prop} {E : Exit → Disk → Prop}
    (hflash : Flashable env io base sz) (hat : AtChunk io base sz sh off b p)
    (hhdr : sh.chunkHdrSz = CHUNK_HEADER_SIZE) (hblk : 0 < sh.blkSz)
    (hch : ChunkHeader.ofBytes (f.shift off) = ch) (hpos : 1 ≤ ch.chunkSz)
    (hend : off + CHUNK_HEADER_SIZE ≤ sz) (hfit : (b + ch.chunkSz) * sh.blkSz ≤ p.partitionSize)
    (hrun : ∀ d₁ : Disk, d₁.contents = d.contents →
      wp (validateChunkDataAndFlash env io (sparseImage base f) sh ch (enterChunk sh ch p))
        Q E d₁) : wp (processChunk env io (sparseImage base f) sh p) Q E d := by
  have hmax : MAX_UINT64 = 2 ^ 64 - 1 := rfl
  have himage := hat.image
  have hwhole := hflash.image
  have himageEnd := hat.inv.imageEnd_eq
  have hsz := hat.inv.size_le
  have hsum : (b + ch.chunkSz) * sh.blkSz = b * sh.blkSz + sh.blkSz * ch.chunkSz := by
    rw [Nat.add_mul, Nat.mul_comm ch.chunkSz]
  have hdata : 0 < sh.blkSz * ch.chunkSz := Nat.mul_pos hblk (by omega)
  have hdone : u64 (p.totalBlocks * sh.blkSz) = b * sh.blkSz := by
    rw [u64_mul hat.inv.totalBlocks_lt sh.blkSz_lt, hat.totalBlocks]
  have hheader : ChunkHeader.ofBytes ((sparseImage base f).at p.image).byte = ch := by
    rw [← hch]
    show ChunkHeader.ofBytes (f.shift (p.image - base)) = _
    rw [himage, Nat.add_sub_cancel_left]
  have hadd : ¬ CHECK_ADD64 p.image CHUNK_HEADER_SIZE = true := checkAdd64_of_le (by omega)
  have hroom : ¬ p.imageEnd < p.image + CHUNK_HEADER_SIZE := by omega
  have hspace : ¬ u64 (b * sh.blkSz + sh.blkSz * ch.chunkSz) > p.partitionSize := by
    rw [u64, Nat.mod_eq_of_lt (by omega)]
    omega
  unfold processChunk
  rw [hdone, if_neg (by omega), if_neg hadd]
  simp only [hroom, hheader, hhdr, u64_mul sh.blkSz_lt ch.chunkSz_lt]
  rw [hdone, if_neg hspace]
  exact hrun _ rfl

/-- There is room for a chunk of `n` blocks that ends before `next`, in the image and on the
    partition. -/
structure ChunkFits (io : BlockIo) (base sz : Nat) (sh : SparseHeader) (off next b n : Nat)
    (p : SparseImgParam) : Prop where
  atChunk : AtChunk io base sz sh off b p
  header : off + CHUNK_HEADER_SIZE ≤ next
  next_le : next ≤ sz
  count : b + n < 2 ^ 32
  fits : (b + n) * sh.blkSz ≤ p.partitionSize

def ChunkDone (io : BlockIo) (base sz : Nat) (sh : SparseHeader) (next b : Nat) (c : Chunk)
    (size : Nat) (old : Bytes) (r : EfiStatus × SparseImgParam) (d' : Disk) : Prop :=
  r.1 = EFI_SUCCESS ∧ AtChunk io base sz sh next (b + c.blocks) r.2 ∧ r.2.partitionSize = size ∧
    d'.contents = c.place sh.blkSz b old

theorem ChunkFits.moved {n : Nat} (h : ChunkFits io base sz sh off next b n p)
    {q : SparseImgParam} (hq : SparseInv io base sz sh q) (himage : q.image = base + next)
    (hcount : q.totalBlocks = p.totalBlocks + n) : AtChunk io base sz sh next (b + n) q :=
  ⟨hq, himage, by rw [hcount, h.atChunk.totalBlocks]⟩

theorem ChunkFits.count_lt (h : ChunkFits io base sz sh off next b ch.chunkSz p) :
    (enterChunk sh ch p).totalBlocks + ch.chunkSz < 2 ^ 32 := by
  show p.totalBlocks + _ < _
  rw [h.atChunk.totalBlocks]
  exact h.count

theorem ChunkFits.countOk (h : ChunkFits io base sz sh off next b ch.chunkSz p) :
    ¬ (enterChunk sh ch p).totalBlocks > MAX_UINT32 - ch.chunkSz := by
  have hmax : MAX_UINT32 = 2 ^ 32 - 1 := rfl
  have hcount := h.count_lt
  omega

/-- Behind the header of the chunk stand `n` bytes of its payload. -/
structure PayloadFits (io : BlockIo) (base sz : Nat) (sh : SparseHeader) (f : Bytes)
    (off n : Nat) (q : SparseImgParam) : Prop where
  add : ¬ CHECK_ADD64 q.image n = true
  room : ¬ q.imageEnd < q.image + n
  passed : SparseInv io base sz sh { q with image := q.image + n }
  image : q.image + n = base + (off + CHUNK_HEADER_SIZE + n)
  byte : ((sparseImage base f).at q.image).byte = f.shift (off + CHUNK_HEADER_SIZE)

theorem ChunkFits.payload {n : Nat} (hflash : Flashable env io base sz)
    (h : ChunkFits io base sz sh off (off + CHUNK_HEADER_SIZE + n) b ch.chunkSz p) :
    PayloadFits io base sz sh f off n (enterChunk sh ch p) := by
  have hwhole := hflash.image
  have hnext := h.next_le
  have hinv := h.atChunk.enter (Nat.le_trans h.header h.next_le) ch
  have himageEnd := hinv.imageEnd_eq
  have himage : (enterChunk sh ch p).image = base + (off + CHUNK_HEADER_SIZE) := by
    show p.image + CHUNK_HEADER_SIZE = _
    rw [h.atChunk.image, Nat.add_assoc]
  refine ⟨checkAdd64_of_le (by omega), by omega, ?_, by omega, ?_⟩
  · exact hinv.move (by omega) (by omega) hinv.totalBlocks_lt
  · show f.shift ((enterChunk sh ch p).image - base) = _
    rw [himage, Nat.add_sub_cancel_left]

theorem handleChunkTypeRaw_places (hflash : Flashable env io base sz)
    (hhdr : sh.chunkHdrSz = CHUNK_HEADER_SIZE)
    (htotal : ch.totalSz = CHUNK_HEADER_SIZE + ch.chunkSz * sh.blkSz)
    (h : ChunkFits io base sz sh off (off + CHUNK_HEADER_SIZE + ch.chunkSz * sh.blkSz) b
      ch.chunkSz p) :
    wp (handleChunkTypeRaw env io (sparseImage base f) sh ch (enterChunk sh ch p))
      (ChunkDone io base sz sh (off + CHUNK_HEADER_SIZE + ch.chunkSz * sh.blkSz) b
        (.raw ch.chunkSz (f.shift (off + CHUNK_HEADER_SIZE))) p.partitionSize d.contents)
      noExit d := by
  have hblocks := h.atChunk.totalBlocks
  have hsmall := ch.totalSz_lt
  have hinv := h.atChunk.enter (Nat.le_trans h.header h.next_le) ch
  have hdata : (enterChunk sh ch p).chunkDataSz = ch.chunkSz * sh.blkSz := Nat.mul_comm _ _
  have hpayload := h.payload (f := f) hflash
  rw [← hdata] at hpayload
  have hsz : ¬ ch.totalSz ≠ u64 (sh.chunkHdrSz + (enterChunk sh ch p).chunkDataSz) := by
    rw [hhdr, hdata, u64, Nat.mod_eq_of_lt (by omega)]
    exact not_not_intro htotal
  have hspace : p.totalBlocks * sh.blkSz + (enterChunk sh ch p).chunkDataSz ≤ p.partitionSize := by
    rw [hdata, ← Nat.add_mul, hblocks]
    exact h.fits
  rw [handleChunkTypeRaw, if_neg hsz, if_neg hpayload.add, if_neg hpayload.room]
  refine wp_seq (writeAtCount hflash hinv (Nat.dvd_mul_right_of_dvd hinv.dvd_blkSz _)
    (by omega) hspace) ?_
  rintro _ d' ⟨rfl, hcontents⟩
  rw [if_neg (by decide), if_neg h.countOk]
  refine ⟨rfl, h.moved ?_ (hdata ▸ hpayload.image) rfl, rfl, ?_⟩
  · exact hpayload.passed.move hpayload.passed.base_le hpayload.passed.image_le h.count_lt
  · rw [hcontents, hpayload.byte, hdata, place_eq_overwrite fun _ _ => rfl]
    show Bytes.overwrite _ (p.totalBlocks * sh.blkSz) _ _ = _
    rw [hblocks]
    rfl

theorem handleChunkTypeFill_places (hflash : Flashable env io base sz)
    (hhdr : sh.chunkHdrSz = CHUNK_HEADER_SIZE) (hword : 4 ∣ sh.blkSz)
    (htotal : ch.totalSz = CHUNK_HEADER_SIZE + 4)
    (h : ChunkFits io base sz sh off (off + CHUNK_HEADER_SIZE + 4) b ch.chunkSz p) :
    wp (handleChunkTypeFill env io (sparseImage base f) sh ch (enterChunk sh ch p))
      (fun r => ChunkDone io base sz sh (off + CHUNK_HEADER_SIZE + 4) b
        (.fill ch.chunkSz (f.shift (off + CHUNK_HEADER_SIZE))) p.partitionSize d.contents
        (if EFI_ERROR r.1 then r.1 else EFI_SUCCESS, r.2)) noExit d := by
  have hblocks := h.atChunk.totalBlocks
  have hpayload := h.payload (f := f) hflash
  rw [handleChunkTypeFill, if_neg (by rw [htotal, hhdr]; simp), wp_bind, wp_get,
    if_neg (by rw [hflash.pool]; decide), if_neg hpayload.add, if_neg hpayload.room, wp_bind,
    wp_loadBytes]
  refine wp_imp (fillBlocks_places hflash hword ch.chunkSz (by decide) hpayload.passed ?_ ?_) ?_
  · exact h.count_lt
  · show (p.totalBlocks + ch.chunkSz) * sh.blkSz ≤ p.partitionSize
    rw [hblocks]
    exact h.fits
  · rintro ⟨status, q⟩ d' ⟨hstatus, rfl, hcontents⟩
    refine ⟨by rw [hstatus]; rfl, h.moved ?_ hpayload.image rfl, rfl, ?_⟩
    · exact hpayload.passed.move hpayload.passed.base_le hpayload.passed.image_le h.count_lt
    · rw [hcontents, hpayload.byte, place_eq_overwrite fun _ _ => rfl]
      show Bytes.overwrite d.contents (p.totalBlocks * sh.blkSz) _ _ = _
      rw [hblocks]
      rfl

theorem skipDontCare_places
    (h : ChunkFits io base sz sh off (off + CHUNK_HEADER_SIZE) b ch.chunkSz p) :
    ChunkDone io base sz sh (off + CHUNK_HEADER_SIZE) b (.dontCare ch.chunkSz) p.partitionSize
      d.contents (skipDontCare ch (enterChunk sh ch p)) d := by
  have himage := h.atChunk.image
  have hinv := h.atChunk.enter h.next_le ch
  rw [skipDontCare, if_neg h.countOk]
  refine ⟨rfl, h.moved ?_ ?_ rfl, rfl, ?_⟩
  · exact hinv.move hinv.base_le hinv.image_le h.count_lt
  · show p.image + CHUNK_HEADER_SIZE = _
    omega
  · funext x
    simp [Chunk.place, Chunk.byteAt]

theorem processChunk_places (hflash : Flashable env io base sz)
    (hhdr : sh.chunkHdrSz = CHUNK_HEADER_SIZE) (hblk : 0 < sh.blkSz) (hword : 4 ∣ sh.blkSz)
    (hc : ChunkAt f sh.blkSz off c next) (hpos : 1 ≤ c.blocks)
    (h : ChunkFits io base sz sh off next b c.blocks p) :
    wp (processChunk env io (sparseImage base f) sh p)
      (ChunkDone io base sz sh next b c p.partitionSize d.contents) noExit d := by
  have hheader := Nat.le_trans h.header h.next_le
  cases hc with
  | raw ch hch htype htotal =>
    refine processChunk_enters hflash h.atChunk hhdr hblk hch hpos hheader h.fits fun d₁ hd₁ => ?_
    rw [validateChunkDataAndFlash, if_pos htype]
    refine wp_seq (handleChunkTypeRaw_places hflash hhdr htotal h) ?_
    rintro ⟨status, q⟩ d' ⟨rfl, hdone⟩
    rw [← hd₁]
    exact ⟨rfl, hdone⟩
  | fill ch hch htype htotal =>
    refine processChunk_enters hflash h.atChunk hhdr hblk hch hpos hheader h.fits fun d₁ hd₁ => ?_
    rw [validateChunkDataAndFlash, if_neg (by rw [htype]; decide), if_pos htype, wp_bind,
      ← hd₁]
    exact handleChunkTypeFill_places hflash hhdr hword htotal h
  | dontCare ch hch htype htotal =>
    refine processChunk_enters hflash h.atChunk hhdr hblk hch hpos hheader h.fits fun d₁ hd₁ => ?_
    rw [validateChunkDataAndFlash, if_neg (by rw [htype]; decide), if_neg (by rw [htype]; decide),
      if_pos htype, ← hd₁]
    exact skipDontCare_places h

/-! ### The whole image -/

theorem processChunks_expands (hflash : Flashable env io base sz)
    (hhdr : sh.chunkHdrSz = CHUNK_HEADER_SIZE) (hblk : 0 < sh.blkSz) (hword : 4 ∣ sh.blkSz)
    {last : Nat} {chunks : List Chunk} (hlist : ChunkList f sh.blkSz off chunks last) :
    ∀ {b : Nat} {p : SparseImgParam} {d : Disk}, AtChunk io base sz sh off b p → last ≤ sz →
      b + chunkBlocks chunks < 2 ^ 32 →
      (b + chunkBlocks chunks) * sh.blkSz ≤ p.partitionSize →
      wp (processChunks env io (sparseImage base f) sh chunks.length p)
        (fun r d' => r.1 = EFI_SUCCESS ∧ r.2.totalBlocks = b + chunkBlocks chunks ∧
          d'.contents = expand sh.blkSz b chunks d.contents) noExit d := by
  induction hlist with
  | nil off =>
    intro b p d hat _ _ _
    exact ⟨rfl, hat.totalBlocks, rfl⟩
  | @cons off next last c rest hc hpos hrest ih =>
    intro b p d hat hlast hcount hfit
    rw [chunkBlocks, ← Nat.add_assoc] at hcount hfit
    have hroom : (b + c.blocks) * sh.blkSz ≤ p.partitionSize := by
      refine Nat.le_trans (Nat.mul_le_mul_right _ ?_) hfit
      omega
    have hfits : ChunkFits io base sz sh off next b c.blocks p :=
      ⟨hat, hc.le, Nat.le_trans hrest.le hlast, by omega, hroom⟩
    refine wp_seq (processChunk_places hflash hhdr hblk hword hc hpos hfits) ?_
    rintro ⟨status, q⟩ d₁ ⟨rfl, hat', hsize, hplaced⟩
    dsimp only
    refine wp_imp (ih hat' hlast hcount (hsize ▸ hfit)) ?_
    rintro r d' ⟨hstatus, hblocks, hcontents⟩
    refine ⟨hstatus, ?_, ?_⟩
    · rw [hblocks, chunkBlocks, Nat.add_assoc]
    · rw [hcontents, hplaced, expand]

end Simulation

section Main

variable {env : StorageEnv} {io : BlockIo} {base sz : Nat} {f : Bytes} {chunks : List Chunk}
  {d : Disk}

/-- A well-formed image is expanded onto the disk. -/
theorem flashSparse_expands (hflash : Flashable env io base sz)
    (hsize : (io.lastBlock + 1) * io.blockSize ≤ MAX_UINT64) (h : WellFormed io f sz chunks) :
    wp (flashSparse env io (sparseImage base f) sz)
      (fun status d' => status = EFI_SUCCESS ∧
        d'.contents = expand (SparseHeader.ofBytes f).blkSz 0 chunks d.contents) noExit d := by
  have hpart : io.getPartitionSize = (io.lastBlock + 1) * io.blockSize := by
    have hlast : ¬ CHECK_ADD64 io.lastBlock 1 = true := by
      have hle := Nat.le_mul_of_pos_right (io.lastBlock + 1) hflash.blockSize
      exact checkAdd64_of_le (by omega)
    have hdiv : ¬ MAX_UINT64 / (io.lastBlock + 1) < io.blockSize := by
      rw [Nat.not_lt, Nat.le_div_iff_mul_le (Nat.succ_pos _), Nat.mul_comm]
      exact hsize
    rw [BlockIo.getPartitionSize, if_neg hlast, if_neg hdiv]
  have hpos : 0 < io.getPartitionSize := by
    rw [hpart]
    exact Nat.mul_pos (Nat.succ_pos _) hflash.blockSize
  obtain ⟨last, hlast, hlist⟩ := h.list
  have hheader : SPARSE_HEADER_SIZE ≤ sz := Nat.le_trans hlist.le hlast
  have hblocks_lt : chunkBlocks chunks < 2 ^ 32 := by
    rw [← h.totalBlks]
    exact Bytes.u32At_lt
  have hfits := h.fits
  rw [← hpart] at hfits
  have htotal : ¬ u64 ((SparseHeader.ofBytes f).totalBlks * (SparseHeader.ofBytes f).blkSz) >
      io.getPartitionSize := by
    rw [h.totalBlks, u64_mul hblocks_lt (SparseHeader.ofBytes f).blkSz_lt]
    omega
  have hat : AtChunk io base sz (SparseHeader.ofBytes f) SPARSE_HEADER_SIZE 0
      { image := base + SPARSE_HEADER_SIZE
        totalBlocks := 0
        chunkDataSz := 0
        imageEnd := base + sz
        blockCountFactor := (SparseHeader.ofBytes f).blkSz / io.blockSize
        partitionSize := io.getPartitionSize } :=
    { inv := {
        base_le := Nat.le_add_right _ _
        image_le := Nat.add_le_add_left hheader _
        imageEnd_eq := rfl
        totalBlocks_lt := Nat.two_pow_pos 32
        factor_mul := Nat.div_mul_cancel h.blkSz_block
        size_eq := hpart
        size_le := hpart ▸ hsize }
      image := rfl
      totalBlocks := rfl }
  have hloop := processChunks_expands (d := { d with
      log := d.log ++ [.load .image (base + 0) SPARSE_HEADER_SIZE] }) hflash h.chunkHdrSz
    h.blkSz_pos h.blkSz_word hlist hat hlast (by omega) (by rw [Nat.zero_add]; exact hfits)
  unfold flashSparse
  rw [if_neg (by omega), if_neg (by omega), wp_bind, wp_loadBytes]
  refine .ite (fun hfull => absurd hfull htotal) fun _ => ?_
  refine .ite (fun hhdr => absurd h.fileHdrSz hhdr) fun _ => ?_
  refine .ite (fun hzero => absurd hzero (Nat.pos_iff_ne_zero.mp h.blkSz_pos)) fun _ => ?_
  refine .ite (fun hmod => absurd (Nat.mod_eq_zero_of_dvd h.blkSz_block) hmod) fun _ => ?_
  rw [wp_bind, show (SparseHeader.ofBytes (sparseImage base f).byte).totalChunks =
    chunks.length from h.totalChunks]
  refine wp_imp hloop ?_
  rintro ⟨status, q⟩ d' ⟨rfl, hcount, hcontents⟩
  rw [Nat.zero_add] at hcount
  dsimp only
  rw [if_neg (by decide)]
  refine .ite (fun hne => absurd (hcount.trans h.totalBlks.symm) hne) fun _ => ?_
  rw [wp_bind, wp_flushBlocks, hflash.writes.outcome]
  exact ⟨rfl, hcontents⟩

/-- **Sparse flashing expands the image.**  A well-formed image that fits the partition is
    flashed with a success, and the partition then holds what the chunks say. -/
theorem handleSparseImgFlash_expands (hflash : Flashable env io base sz)
    (hsize : (io.lastBlock + 1) * io.blockSize ≤ MAX_UINT64) (h : WellFormed io f sz chunks) :
    ∃ d', (handleSparseImgFlash env ⟨EFI_SUCCESS, some io, true⟩ (sparseImage base f) sz).exec d =
        (.ok EFI_SUCCESS, d') ∧
      Expanded (SparseHeader.ofBytes f).blkSz d.contents d'.contents 0 chunks := by
  have himage : ¬ CHECK_ADD64 (sparseImage base f).addr sz = true := checkAdd64_of_le hflash.image
  have hrun : handleSparseImgFlash env ⟨EFI_SUCCESS, some io, true⟩ (sparseImage base f) sz =
      flashSparse env io (sparseImage base f) sz := by
    rw [handleSparseImgFlash, if_neg himage, if_neg (not_not_intro rfl)]
    rfl
  obtain ⟨status, d', hexec, rfl, hcontents⟩ := wp_returns (flashSparse_expands hflash hsize h)
  refine ⟨d', by rw [hrun, hexec], ?_⟩
  rw [hcontents]
  exact expanded_expand chunks

end Main

/-- A sparse image with blocks of four bytes: one of its own, one left alone, one filled. -/
def threeBlocks : Bytes := fun i =>
  [0x3a, 0xff, 0x26, 0xed, 1, 0, 0, 0, 28, 0, 12, 0, 4, 0, 0, 0, 3, 0, 0, 0, 3, 0, 0, 0, 0, 0, 0, 0,
   0xc1, 0xca, 0, 0, 1, 0, 0, 0, 16, 0, 0, 0, 9, 8, 7, 6,
   0xc3, 0xca, 0, 0, 1, 0, 0, 0, 12, 0, 0, 0,
   0xc2, 0xca, 0, 0, 1, 0, 0, 0, 16, 0, 0, 0, 1, 2, 3, 4].getD i 0

def threeBlockChunks : List Chunk :=
  [.raw 1 (threeBlocks.shift 40), .dontCare 1, .fill 1 (threeBlocks.shift 68)]

def fourBlocks : BlockIo :=
  ⟨4, 3, smallPartition.blockSize_lt, pairedBlocks.lastBlock_lt, fun _ => EFI_SUCCESS⟩

theorem threeBlocks_wellFormed : WellFormed fourBlocks threeBlocks 72 threeBlockChunks where
  fileHdrSz := by decide
  chunkHdrSz := by decide
  blkSz_pos := by decide
  blkSz_word := by decide
  blkSz_block := by decide
  totalChunks := by decide
  totalBlks := by decide
  list := by
    refine ⟨72, Nat.le_refl _, ?_⟩
    have hraw : ChunkAt threeBlocks 4 28 (.raw 1 (threeBlocks.shift 40)) 44 :=
      .raw _ rfl (by decide) (by decide)
    have hskip : ChunkAt threeBlocks 4 44 (.dontCare 1) 56 :=
      .dontCare _ rfl (by decide) (by decide)
    have hfill : ChunkAt threeBlocks 4 56 (.fill 1 (threeBlocks.shift 68)) 72 :=
      .fill _ rfl (by decide) (by decide)
    exact .cons hraw (by decide) (.cons hskip (by decide) (.cons hfill (by decide) (.nil _)))
  fits := by decide

/-- The three chunks in place on a partition of zeros. -/
theorem handleSparseImgFlash_expands_three :
    ∃ d', (handleSparseImgFlash ufsStorage ⟨EFI_SUCCESS, some fourBlocks, true⟩
        (sparseImage 4096 threeBlocks) 72).exec ⟨fun _ => 0, 0, []⟩ = (.ok EFI_SUCCESS, d') ∧
      Expanded 4 (fun _ => 0) d'.contents 0 threeBlockChunks :=
  handleSparseImgFlash_expands (d := ⟨fun _ => 0, 0, []⟩)
    ⟨by decide, ⟨fun _ => rfl, nofun⟩, fun _ => rfl, by decide, by decide⟩ (by decide)
    threeBlocks_wellFormed

/-- Without memory for the fill buffer the same image is not flashed, although every write
    would succeed. -/
theorem handleSparseImgFlash_out_of_resources :
    WellFormed fourBlocks threeBlocks 72 threeBlockChunks ∧
      WritesSucceed { ufsStorage with zeroPool := fun _ => false } fourBlocks ∧
      ((handleSparseImgFlash { ufsStorage with zeroPool := fun _ => false }
        ⟨EFI_SUCCESS, some fourBlocks, true⟩ (sparseImage 4096 threeBlocks) 72).exec
        ⟨fun _ => 0, 0, []⟩).1 = .ok EFI_OUT_OF_RESOURCES :=
  ⟨threeBlocks_wellFormed, ⟨fun _ => rfl, nofun⟩, by decide +kernel⟩

end OhMyAbl
