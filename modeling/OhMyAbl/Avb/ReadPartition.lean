/-
  **`AvbReadFromPartition`: a range of bytes from whole blocks.**

  The range is read in up to three pieces: the rest of the block it starts in, the beginning of
  the block it ends in, and the whole blocks between.  The first two go through a page buffer.
  Every piece has the same three ends: its place is outside the partition, its read fails, or
  its bytes are copied and counted.  A read that fails sets the count to 0 and leaves the result
  as it is, which is `AVB_IO_RESULT_OK`.
-/
import OhMyAbl.Avb.ParallelLoad
import OhMyAbl.Storage.BlockIo

namespace OhMyAbl

open Prog

/-- What a read works on: the device, the caller's buffer and the caller's count. -/
structure AvbReadState where
  disk : Disk
  buffer : Bytes
  outNumRead : Nat

def AvbReadState.diskLens : Lens AvbReadState Disk where
  get := (·.disk)
  set := fun s d => { s with disk := d }

structure AvbReadEnv where
  /-- `Partition`, `Buffer` and `OutNumRead` are not `NULL`. -/
  given : Bool
  /-- What `GetHandleInfo` returns, and the handle it finds. -/
  handle : AvbIOResult × BlockIo
  /-- The page buffer can be allocated. -/
  page : Bool

/-- The body of the function up to the label `out`, to which it jumps with `Result`. -/
abbrev ReadProg (α : Type) := Prog AvbReadState (Jump Exit AvbIOResult) α

/-- One piece: unless its place is outside the partition, read `size` bytes from a block on and
    copy `count` of them, from `pageOffset` on, to `dest` in the buffer. -/
def readPiece (io : BlockIo) (inside : Bool) (lba size pageOffset dest count : Nat) :
    ReadProg PUnit :=
  if inside then do
    let r ← call (zoom AvbReadState.diskLens (io.readBlocks lba size))
    if r.1 = EFI_SUCCESS then
      modify fun s => { s with
        buffer := s.buffer.overwrite dest count (r.2.shift pageOffset)
        outNumRead := s.outNumRead + count }
    else do
      modify fun s => { s with outNumRead := 0 }
      goto .OK
  else goto .ERROR_RANGE_OUTSIDE_PARTITION

section

variable (io : BlockIo) (offset numBytes : Nat)

def startBlock : Nat := offset / io.blockSize
def lastBlock : Nat := (numBytes + offset) / io.blockSize

def startPageReadSize : Nat :=
  if offset % io.blockSize = 0 then 0
  else if startBlock io offset = lastBlock io offset numBytes then numBytes
  else io.blockSize - (offset - startBlock io offset * io.blockSize)

def fullBlock : Nat :=
  if offset % io.blockSize = 0 ∨ startBlock io offset = lastBlock io offset numBytes then
    startBlock io offset
  else startBlock io offset + 1

def readStartPage : ReadProg PUnit :=
  let pageOffset := offset - startBlock io offset * io.blockSize
  let size := startPageReadSize io offset numBytes
  if offset % io.blockSize ≠ 0 then
    readPiece io
      (size ≠ 0 && pageOffset < io.blockSize && size ≤ io.blockSize - pageOffset &&
        size ≤ numBytes && startBlock io offset ≤ io.lastBlock)
      (startBlock io offset) io.blockSize pageOffset 0 size
  else pure ⟨⟩

def readLastPage : ReadProg PUnit := do
  let s ← get
  let size := offset + numBytes - lastBlock io offset numBytes * io.blockSize
  if s.outNumRead < numBytes ∧ (numBytes + offset) % io.blockSize ≠ 0 then
    readPiece io
      (size ≠ 0 && size < io.blockSize && size ≤ numBytes - s.outNumRead &&
        lastBlock io offset numBytes ≤ io.lastBlock)
      (lastBlock io offset numBytes) io.blockSize 0 (numBytes - size) size
  else pure ⟨⟩

def readFullBlocks : ReadProg PUnit := do
  let s ← get
  let size := numBytes - s.outNumRead
  if s.outNumRead < numBytes then
    readPiece io
      (size % io.blockSize = 0 && fullBlock io offset numBytes ≤ io.lastBlock &&
        size ≤ numBytes - startPageReadSize io offset numBytes)
      (fullBlock io offset numBytes) size 0 (startPageReadSize io offset numBytes) size
  else pure ⟨⟩

def readRange : ReadProg AvbIOResult := do
  readStartPage io offset numBytes
  readLastPage io offset numBytes
  readFullBlocks io offset numBytes
  return .OK

end

def effectiveOffset (partitionSize : Nat) (readOffset : Int) : Nat :=
  if readOffset < 0 then partitionSize - (-readOffset).toNat else readOffset.toNat

def readHandle (env : AvbReadEnv) (readOffset : Int) (numBytes : Nat) : ReadProg AvbIOResult :=
  let io := env.handle.2
  let partitionSize := io.getPartitionSize
  let offset := effectiveOffset partitionSize readOffset
  if partitionSize = 0 then goto .ERROR_RANGE_OUTSIDE_PARTITION
  else if readOffset < 0 ∧ partitionSize < (-readOffset).toNat then
    goto .ERROR_RANGE_OUTSIDE_PARTITION
  else if partitionSize < offset then goto .ERROR_RANGE_OUTSIDE_PARTITION
  else if env.page then readRange io offset (min numBytes (partitionSize - offset))
  else goto .ERROR_OOM

def avbReadFromPartition (env : AvbReadEnv) (readOffset : Int) (numBytes : Nat) :
    Prog AvbReadState Exit AvbIOResult :=
  block
    (if env.given = false ∨ numBytes = 0 then goto AvbIOResult.ERROR_IO
    else do
      modify fun s => { s with outNumRead := 0 }
      if env.handle.1 = .OK then readHandle env readOffset numBytes else goto env.handle.1)

/-! ### The three pieces of a range -/

section

variable {io : BlockIo} {offset n : Nat}

structure InPartition (io : BlockIo) (offset n : Nat) : Prop where
  blockSize : 0 < io.blockSize
  inside : offset + n ≤ io.blockSize * (io.lastBlock + 1)
  empty : n = 0 → offset % io.blockSize = 0

def lastPageReadSize (io : BlockIo) (offset n : Nat) : Nat :=
  if startPageReadSize io offset n < n then (n + offset) % io.blockSize else 0

def fullReadSize (io : BlockIo) (offset n : Nat) : Nat :=
  n - (startPageReadSize io offset n + lastPageReadSize io offset n)

theorem div_le_lastBlock {x : Nat} (hbs : 0 < io.blockSize)
    (hx : x < io.blockSize * (io.lastBlock + 1)) : x / io.blockSize ≤ io.lastBlock :=
  Nat.lt_succ_iff.mp ((Nat.div_lt_iff_lt_mul hbs).mpr (by rw [Nat.mul_comm]; exact hx))

section

variable (h : InPartition io offset n)
include h

theorem startPage_spec (hr : offset % io.blockSize ≠ 0) :
    0 < startPageReadSize io offset n ∧ startPageReadSize io offset n ≤ n ∧
      startPageReadSize io offset n ≤ io.blockSize - offset % io.blockSize ∧
      startBlock io offset ≤ io.lastBlock := by
  have hn : 0 < n := Nat.pos_of_ne_zero fun hzero => hr (h.empty hzero)
  have hmod := Nat.mod_lt offset h.blockSize
  have hq := Nat.div_add_mod offset io.blockSize
  have hq' := Nat.div_add_mod (n + offset) io.blockSize
  have hmod' := Nat.mod_lt (n + offset) h.blockSize
  have hstart : startBlock io offset ≤ io.lastBlock :=
    div_le_lastBlock h.blockSize (Nat.lt_of_lt_of_le (by omega) h.inside)
  unfold startPageReadSize
  rw [if_neg hr]
  split
  · rename_i hsame
    unfold startBlock lastBlock at hsame
    rw [← hsame] at hq'
    exact ⟨hn, Nat.le_refl n, by omega, hstart⟩
  · rename_i hother
    have hle : offset / io.blockSize + 1 ≤ (n + offset) / io.blockSize :=
      Nat.lt_of_le_of_ne (Nat.div_le_div_right (by omega)) hother
    have hmul := Nat.mul_le_mul_left io.blockSize hle
    rw [Nat.mul_add, Nat.mul_one] at hmul
    have hoff : offset - startBlock io offset * io.blockSize = offset % io.blockSize := by
      unfold startBlock
      rw [Nat.mul_comm]
      omega
    rw [hoff]
    exact ⟨by omega, by omega, Nat.le_refl _, hstart⟩

theorem fullBlock_spec (hlt : startPageReadSize io offset n < n) :
    io.blockSize * fullBlock io offset n = offset + startPageReadSize io offset n ∧
      fullBlock io offset n ≤ lastBlock io offset n := by
  have hq := Nat.div_add_mod offset io.blockSize
  have hmod := Nat.mod_lt offset h.blockSize
  have hmono : startBlock io offset ≤ lastBlock io offset n := Nat.div_le_div_right (by omega)
  by_cases hr : offset % io.blockSize = 0
  · have hstart : startPageReadSize io offset n = 0 := if_pos hr
    have hfull : fullBlock io offset n = startBlock io offset := if_pos (Or.inl hr)
    rw [hstart, hfull]
    refine ⟨?_, hmono⟩
    unfold startBlock
    omega
  · have hother : startBlock io offset ≠ lastBlock io offset n := by
      intro hsame
      have hstart : startPageReadSize io offset n = n := by
        unfold startPageReadSize
        rw [if_neg hr, if_pos hsame]
      omega
    have hstart : startPageReadSize io offset n =
        io.blockSize - (offset - startBlock io offset * io.blockSize) := by
      unfold startPageReadSize
      rw [if_neg hr, if_neg hother]
    have hfull : fullBlock io offset n = startBlock io offset + 1 :=
      if_neg (by rintro (hzero | hsame); exacts [hr hzero, hother hsame])
    rw [hstart, hfull]
    refine ⟨?_, Nat.lt_of_le_of_ne hmono hother⟩
    unfold startBlock
    rw [Nat.mul_add, Nat.mul_one, Nat.mul_comm (offset / io.blockSize)]
    omega

theorem lastPage_spec (hlt : startPageReadSize io offset n < n) :
    (n + offset) % io.blockSize + startPageReadSize io offset n ≤ n ∧
      io.blockSize * lastBlock io offset n + (n + offset) % io.blockSize = n + offset ∧
      ((n + offset) % io.blockSize ≠ 0 → lastBlock io offset n ≤ io.lastBlock) := by
  obtain ⟨hfull, hle⟩ := fullBlock_spec h hlt
  have hq := Nat.div_add_mod (n + offset) io.blockSize
  have hmul := Nat.mul_le_mul_left io.blockSize hle
  have hblock : io.blockSize * ((n + offset) / io.blockSize) =
    io.blockSize * lastBlock io offset n := rfl
  refine ⟨by omega, hq, ?_⟩
  intro ht
  have hinside := h.inside
  have hmul' : io.blockSize * lastBlock io offset n < io.blockSize * (io.lastBlock + 1) := by omega
  exact Nat.lt_succ_iff.mp (Nat.lt_of_mul_lt_mul_left hmul')

theorem pieces_le : startPageReadSize io offset n + lastPageReadSize io offset n ≤ n := by
  unfold lastPageReadSize
  split
  · rename_i hlt
    have hroom := (lastPage_spec h hlt).1
    omega
  · by_cases hr : offset % io.blockSize = 0
    · have hzero : startPageReadSize io offset n = 0 := if_pos hr
      omega
    · exact (startPage_spec h hr).2.1

theorem fullRead_spec (hlt : startPageReadSize io offset n < n) :
    fullReadSize io offset n =
        io.blockSize * (lastBlock io offset n - fullBlock io offset n) ∧
      lastBlock io offset n ≤ io.lastBlock + 1 ∧
      (0 < fullReadSize io offset n → fullBlock io offset n ≤ io.lastBlock) := by
  obtain ⟨hfull, hle⟩ := fullBlock_spec h hlt
  obtain ⟨hroom, hq, -⟩ := lastPage_spec h hlt
  have hinside := h.inside
  have hlast : lastPageReadSize io offset n = (n + offset) % io.blockSize := if_pos hlt
  have hsize : fullReadSize io offset n =
      io.blockSize * lastBlock io offset n - io.blockSize * fullBlock io offset n := by
    unfold fullReadSize
    omega
  have hlastLe : lastBlock io offset n ≤ io.lastBlock + 1 :=
    Nat.le_of_mul_le_mul_left (by omega) h.blockSize
  refine ⟨by rw [hsize, Nat.mul_sub], hlastLe, ?_⟩
  intro hpos
  have hmul : io.blockSize * fullBlock io offset n < io.blockSize * (io.lastBlock + 1) := by omega
  exact Nat.lt_succ_iff.mp (Nat.lt_of_mul_lt_mul_left hmul)

end

/-! ### Reading the pieces -/

def ReadsSucceed (io : BlockIo) (ops k : Nat) : Prop := ∀ i < k, io.outcome (ops + i) = EFI_SUCCESS

def readCount (io : BlockIo) (offset n : Nat) : Nat :=
  (if startPageReadSize io offset n = 0 then 0 else 1) +
  (if lastPageReadSize io offset n = 0 then 0 else 1) +
  (if fullReadSize io offset n = 0 then 0 else 1)

structure ReadTo (io : BlockIo) (d : Disk) (k count : Nat) (s : AvbReadState) : Prop where
  contents : s.disk.contents = d.contents
  ops : s.disk.ops = d.ops + k
  success : ReadsSucceed io d.ops k
  counted : s.outNumRead = count

def Filled (d : Disk) (offset : Nat) (s : AvbReadState) (a m : Nat) : Prop :=
  ∀ i, a ≤ i → i < a + m → s.buffer i = d.contents (offset + i)

def ReadFailed (io : BlockIo) (d : Disk) (total : Nat) :
    Jump Exit AvbIOResult → AvbReadState → Prop
  | e, s => e = .goto .OK ∧ s.outNumRead = 0 ∧ ¬ ReadsSucceed io d.ops total

variable {d : Disk} {s : AvbReadState}

theorem readPiece_spec {k count total lba size pageOffset dest m : Nat} {inside : Bool}
    (hs : ReadTo io d k count s) (hk : k < total) (hin : inside = true)
    (hsize : size % io.blockSize = 0) (hlba : lba + size / io.blockSize ≤ io.lastBlock + 1)
    (hplace : lba * io.blockSize + pageOffset = offset + dest) :
    wp (readPiece io inside lba size pageOffset dest m)
      (fun _ s' => ReadTo io d (k + 1) (count + m) s' ∧ Filled d offset s' dest m ∧
        ∀ i, i < dest ∨ dest + m ≤ i → s'.buffer i = s.buffer i)
      (ReadFailed io d total) s := by
  have hstatus : io.transferStatus s.disk.ops lba size = io.outcome (d.ops + k) := by
    unfold BlockIo.transferStatus
    rw [if_neg (by omega), if_neg (by omega), hs.ops]
  unfold readPiece
  rw [hin, if_pos rfl]
  simp only [wp_bind, wp_call, wp_zoom, wp_readBlocks, AvbReadState.diskLens, hstatus, wp_ite]
  constructor
  · intro hok
    refine ⟨⟨hs.contents, ?_, ?_, ?_⟩, ?_, ?_⟩
    · rw [hs.ops, Nat.add_assoc]
    · intro i hi
      rcases Nat.lt_succ_iff_lt_or_eq.mp hi with hi | rfl
      · exact hs.success i hi
      · exact hok
    · rw [hs.counted]
    · intro i hi hi'
      show s.buffer.overwrite dest m _ i = _
      rw [Bytes.overwrite_inside hi hi', hs.contents]
      show d.contents (lba * io.blockSize + (pageOffset + (i - dest))) = _
      congr 1
      omega
    · intro i hi
      exact Bytes.overwrite_outside hi
  · intro hfail
    exact ⟨rfl, rfl, fun hall => hfail (hall k hk)⟩

def startReads (io : BlockIo) (offset n : Nat) : Nat :=
  if startPageReadSize io offset n = 0 then 0 else 1

def lastReads (io : BlockIo) (offset n : Nat) : Nat :=
  if lastPageReadSize io offset n = 0 then 0 else 1

theorem readStartPage_spec (h : InPartition io offset n) (hs : ReadTo io d 0 0 s) :
    wp (readStartPage io offset n)
      (fun _ s' => ReadTo io d (startReads io offset n) (startPageReadSize io offset n) s' ∧
        Filled d offset s' 0 (startPageReadSize io offset n))
      (ReadFailed io d (readCount io offset n)) s := by
  have hq := Nat.div_add_mod offset io.blockSize
  have hoff : offset - startBlock io offset * io.blockSize = offset % io.blockSize := by
    unfold startBlock
    rw [Nat.mul_comm]
    omega
  unfold readStartPage
  rw [wp_ite]
  constructor
  · intro hr
    obtain ⟨hpos, hle, hroom, hstart⟩ := startPage_spec h hr
    have hreads : startReads io offset n = 1 := if_neg (by omega)
    have htotal : 0 < readCount io offset n := by
      unfold readCount
      rw [if_neg (by omega)]
      omega
    rw [hoff, hreads]
    have hplace : startBlock io offset * io.blockSize + offset % io.blockSize = offset + 0 := by
      unfold startBlock
      rw [Nat.mul_comm]
      omega
    refine wp_imp (readPiece_spec hs htotal ?_ (Nat.mod_self _) ?_ hplace) ?_
    · simp only [Bool.and_eq_true, decide_eq_true_eq]
      omega
    · rw [Nat.div_self h.blockSize]
      omega
    · rintro _ s' ⟨hread, hfilled, -⟩
      rw [Nat.zero_add, Nat.zero_add] at hread
      exact ⟨hread, hfilled⟩
  · intro hr
    have hzero : startPageReadSize io offset n = 0 := if_pos (not_not.mp hr)
    have hreads : startReads io offset n = 0 := if_pos hzero
    rw [hreads, hzero]
    exact ⟨hs, fun i _ hi => absurd hi (by omega)⟩

theorem readLastPage_spec (h : InPartition io offset n)
    (hs : ReadTo io d (startReads io offset n) (startPageReadSize io offset n) s)
    (hfilled : Filled d offset s 0 (startPageReadSize io offset n)) :
    wp (readLastPage io offset n)
      (fun _ s' => ReadTo io d (startReads io offset n + lastReads io offset n)
          (startPageReadSize io offset n + lastPageReadSize io offset n) s' ∧
        Filled d offset s' 0 (startPageReadSize io offset n) ∧
        Filled d offset s' (n - lastPageReadSize io offset n) (lastPageReadSize io offset n))
      (ReadFailed io d (readCount io offset n)) s := by
  have hmod := Nat.mod_lt (n + offset) h.blockSize
  unfold readLastPage
  simp only [wp_bind, wp_get, wp_ite, hs.counted]
  constructor
  · rintro ⟨hlt, ht⟩
    obtain ⟨hroom, hq, hlast⟩ := lastPage_spec h hlt
    have hsize : lastPageReadSize io offset n = (n + offset) % io.blockSize := if_pos hlt
    have hbytes : offset + n - lastBlock io offset n * io.blockSize =
        (n + offset) % io.blockSize := by
      rw [Nat.mul_comm]
      omega
    have hreads : lastReads io offset n = 1 := if_neg (by omega)
    have htotal : startReads io offset n < readCount io offset n := by
      unfold readCount startReads
      rw [if_neg (by omega : ¬ lastPageReadSize io offset n = 0)]
      omega
    have hplace : lastBlock io offset n * io.blockSize + 0 =
        offset + (n - (n + offset) % io.blockSize) := by
      omega
    rw [hbytes, hreads, hsize]
    refine wp_imp (readPiece_spec hs htotal ?_ (Nat.mod_self _) ?_ hplace) ?_
    · simp only [Bool.and_eq_true, decide_eq_true_eq]
      omega
    · rw [Nat.div_self h.blockSize]
      omega
    · rintro _ s' ⟨hread, hnew, hold⟩
      refine ⟨hread, ?_, hnew⟩
      intro i hi hi'
      rw [hold i (by omega)]
      exact hfilled i hi hi'
  · intro hno
    have hzero : lastPageReadSize io offset n = 0 := by
      unfold lastPageReadSize
      split
      · by_contra hne
        exact hno ⟨by assumption, hne⟩
      · rfl
    have hreads : lastReads io offset n = 0 := if_pos hzero
    rw [hreads, hzero]
    exact ⟨hs, hfilled, fun i _ hi => absurd hi (by omega)⟩

structure ReadComplete (d : Disk) (offset n : Nat) (s : AvbReadState) : Prop where
  counted : s.outNumRead = n
  bytes : ∀ i < n, s.buffer i = d.contents (offset + i)

/-- With start and end filled, the whole blocks between complete the read. -/
theorem readFullBlocks_spec (h : InPartition io offset n)
    (hs : ReadTo io d (startReads io offset n + lastReads io offset n)
      (startPageReadSize io offset n + lastPageReadSize io offset n) s)
    (hstart : Filled d offset s 0 (startPageReadSize io offset n))
    (hend : Filled d offset s (n - lastPageReadSize io offset n) (lastPageReadSize io offset n)) :
    wp (readFullBlocks io offset n)
      (fun _ s' => ReadsSucceed io d.ops (readCount io offset n) ∧ ReadComplete d offset n s')
      (ReadFailed io d (readCount io offset n)) s := by
  have hcount : readCount io offset n = startReads io offset n + lastReads io offset n +
      (if fullReadSize io offset n = 0 then 0 else 1) := rfl
  unfold readFullBlocks
  simp only [wp_bind, wp_get, wp_ite, hs.counted]
  constructor
  · intro hlt
    have hfirst : startPageReadSize io offset n < n := by omega
    obtain ⟨hplaceStart, hle⟩ := fullBlock_spec h hfirst
    obtain ⟨hsize, hlastLe, hblock⟩ := fullRead_spec h hfirst
    have hfull : n - (startPageReadSize io offset n + lastPageReadSize io offset n) =
        fullReadSize io offset n := rfl
    have hpos : 0 < fullReadSize io offset n := by omega
    rw [if_neg (by omega)] at hcount
    rw [hfull]
    have hplace : fullBlock io offset n * io.blockSize + 0 =
        offset + startPageReadSize io offset n := by
      rw [Nat.mul_comm]
      exact hplaceStart
    refine wp_imp (readPiece_spec hs (by omega) ?_ ?_ ?_ hplace) ?_
    · have hb := hblock hpos
      simp only [Bool.and_eq_true, decide_eq_true_eq]
      refine ⟨⟨?_, hb⟩, by omega⟩
      rw [hsize]
      exact Nat.mul_mod_right _ _
    · rw [hsize]
      exact Nat.mul_mod_right _ _
    · rw [hsize, Nat.mul_div_cancel_left _ h.blockSize]
      omega
    · rintro _ s' ⟨hread, hnew, hold⟩
      rw [← hcount] at hread
      refine ⟨hread.success, ?_, ?_⟩
      · rw [hread.counted]
        omega
      · intro i hi
        -- each byte belongs to one of the three pieces
        by_cases h₁ : i < startPageReadSize io offset n
        · rw [hold i (by omega)]
          exact hstart i (by omega) (by omega)
        · by_cases h₂ : i < startPageReadSize io offset n + fullReadSize io offset n
          · exact hnew i (by omega) h₂
          · rw [hold i (by omega)]
            exact hend i (by omega) (by omega)
  · intro hno
    have hzero : fullReadSize io offset n = 0 := by
      unfold fullReadSize
      omega
    have hle := pieces_le h
    rw [if_pos hzero, Nat.add_zero] at hcount
    rw [hcount]
    refine ⟨hs.success, by rw [hs.counted]; omega, ?_⟩
    intro i hi
    by_cases h₁ : i < startPageReadSize io offset n
    · exact hstart i (by omega) (by omega)
    · exact hend i (by omega) (by omega)

theorem readRange_spec (h : InPartition io offset n) (hs : ReadTo io d 0 0 s) :
    wp (readRange io offset n)
      (fun r s' => r = .OK ∧ ReadsSucceed io d.ops (readCount io offset n) ∧
        ReadComplete d offset n s')
      (ReadFailed io d (readCount io offset n)) s := by
  unfold readRange
  simp only [wp_bind, wp_pure]
  apply wp_imp (readStartPage_spec h hs) _
  rintro _ s₁ ⟨hs₁, hstart⟩
  apply wp_imp (readLastPage_spec h hs₁ hstart) _
  rintro _ s₂ ⟨hs₂, hstart₂, hend⟩
  apply wp_imp (readFullBlocks_spec h hs₂ hstart₂ hend) _
  rintro _ s₃ ⟨hall, hcomplete⟩
  exact ⟨trivial, hall, hcomplete⟩

/-! ### The whole function -/

def clampedSize (env : AvbReadEnv) (readOffset : Int) (numBytes : Nat) : Nat :=
  min numBytes (env.handle.2.getPartitionSize -
    effectiveOffset env.handle.2.getPartitionSize readOffset)

structure Served (env : AvbReadEnv) (readOffset : Int) (numBytes : Nat) : Prop where
  given : env.given = true
  numBytes : numBytes ≠ 0
  handle : env.handle.1 = .OK
  size : env.handle.2.getPartitionSize ≠ 0
  negative : ¬ (readOffset < 0 ∧ env.handle.2.getPartitionSize < (-readOffset).toNat)
  inside : effectiveOffset env.handle.2.getPartitionSize readOffset ≤
    env.handle.2.getPartitionSize
  page : env.page = true

variable {env : AvbReadEnv} {numBytes : Nat} {readOffset : Int}

theorem Served.inPartition (h : Served env readOffset numBytes) :
    InPartition env.handle.2 (effectiveOffset env.handle.2.getPartitionSize readOffset)
      (clampedSize env readOffset numBytes) := by
  obtain ⟨hsize, -⟩ := env.handle.2.getPartitionSize_eq h.size
  have hin := h.inside
  have hne := h.size
  unfold clampedSize
  refine ⟨?_, ?_, ?_⟩
  · apply Nat.pos_of_ne_zero
    intro hzero
    rw [hzero, Nat.mul_zero] at hsize
    exact hne hsize
  · rw [Nat.mul_comm, ← hsize]
    omega
  · intro hzero
    have hend : effectiveOffset env.handle.2.getPartitionSize readOffset =
        env.handle.2.getPartitionSize := by
      have hpos := h.numBytes
      omega
    rw [hend, hsize]
    exact Nat.mul_mod_left _ _

theorem avbReadFromPartition_served (h : Served env readOffset numBytes) (s : AvbReadState) :
    wp (avbReadFromPartition env readOffset numBytes)
      (fun r s' => r = .OK ∧
        ((ReadsSucceed env.handle.2 s.disk.ops (readCount env.handle.2
              (effectiveOffset env.handle.2.getPartitionSize readOffset)
              (clampedSize env readOffset numBytes)) ∧
            ReadComplete s.disk (effectiveOffset env.handle.2.getPartitionSize readOffset)
              (clampedSize env readOffset numBytes) s') ∨
          (¬ ReadsSucceed env.handle.2 s.disk.ops (readCount env.handle.2
              (effectiveOffset env.handle.2.getPartitionSize readOffset)
              (clampedSize env readOffset numBytes)) ∧ s'.outNumRead = 0))) noExit s := by
  have hgiven : ¬ (env.given = false ∨ numBytes = 0) := by
    rintro (hnot | hzero)
    · rw [h.given] at hnot
      cases hnot
    · exact h.numBytes hzero
  unfold avbReadFromPartition
  rw [wp_block, if_neg hgiven, wp_bind, wp_modify, if_pos h.handle]
  unfold readHandle
  rw [if_neg h.size, if_neg h.negative, if_neg (Nat.not_lt.mpr h.inside), if_pos h.page]
  have hs : ReadTo env.handle.2 s.disk 0 0 { s with outNumRead := 0 } :=
    ⟨rfl, rfl, fun i hi => absurd hi (Nat.not_lt_zero i), rfl⟩
  refine wp_mono (readRange_spec h.inPartition hs) ?_ ?_
  · rintro r s' ⟨hr, hall, hcomplete⟩
    exact ⟨hr, Or.inl ⟨hall, hcomplete⟩⟩
  · rintro e s' ⟨rfl, hzero, hfail⟩
    exact ⟨rfl, Or.inr ⟨hfail, hzero⟩⟩

theorem avbReadFromPartition_refused (h : ¬ Served env readOffset numBytes) (s : AvbReadState) :
    wp (avbReadFromPartition env readOffset numBytes) (fun r _ => r ≠ .OK) noExit
      s := by
  have hio : AvbIOResult.ERROR_IO ≠ .OK := by decide
  have hrange : AvbIOResult.ERROR_RANGE_OUTSIDE_PARTITION ≠ .OK := by decide
  have hoom : AvbIOResult.ERROR_OOM ≠ .OK := by decide
  unfold avbReadFromPartition
  rw [wp_block, wp_ite]
  refine ⟨fun _ => hio, fun hgiven => ?_⟩
  rw [wp_bind, wp_modify, wp_ite]
  refine ⟨fun hhandle => ?_, fun hhandle => hhandle⟩
  unfold readHandle
  simp only [wp_ite]
  refine ⟨fun _ => hrange, fun hsize => ⟨fun _ => hrange, fun hneg => ⟨fun _ => hrange,
    fun hin => ⟨fun hpage => ?_, fun _ => hoom⟩⟩⟩⟩
  rw [not_or, Bool.not_eq_false] at hgiven
  exact absurd ⟨hgiven.1, hgiven.2, hhandle, hsize, hneg, Nat.not_lt.mp hin, hpage⟩ h

theorem readCount_zero (h : InPartition io offset n) (hn : n = 0) : readCount io offset n = 0 := by
  have hstart : startPageReadSize io offset n = 0 := if_pos (h.empty hn)
  have hle := pieces_le h
  unfold readCount fullReadSize
  rw [if_pos hstart, if_pos (by omega), if_pos (by omega)]

/-- **A result `OK` means that the range was read, exactly if no read of the call fails.** -/
theorem readOk_iff (env : AvbReadEnv) (readOffset : Int) (numBytes : Nat) (s : AvbReadState) :
    (((avbReadFromPartition env readOffset numBytes).exec s).1 = .ok .OK →
        ReadComplete s.disk (effectiveOffset env.handle.2.getPartitionSize readOffset)
          (clampedSize env readOffset numBytes)
          ((avbReadFromPartition env readOffset numBytes).exec s).2) ↔
      (Served env readOffset numBytes →
        ReadsSucceed env.handle.2 s.disk.ops (readCount env.handle.2
          (effectiveOffset env.handle.2.getPartitionSize readOffset)
          (clampedSize env readOffset numBytes))) := by
  constructor
  · intro hok hserved
    obtain ⟨r, s', hexec, rfl, ⟨hall, -⟩ | ⟨hfail, hzero⟩⟩ :=
      wp_returns (avbReadFromPartition_served hserved s)
    · exact hall
    · -- the count is 0, so nothing was asked for, and no read made
      rw [hexec] at hok
      have hcounted := (hok rfl).counted
      rw [readCount_zero hserved.inPartition (hcounted.symm.trans hzero)]
      exact fun i hi => absurd hi (Nat.not_lt_zero i)
  · intro hreads hok
    by_cases hserved : Served env readOffset numBytes
    · obtain ⟨r, s', hexec, -, ⟨-, hcomplete⟩ | ⟨hfail, -⟩⟩ :=
        wp_returns (avbReadFromPartition_served hserved s)
      · rw [hexec]
        exact hcomplete
      · exact absurd (hreads hserved) hfail
    · obtain ⟨r, s', hexec, hspec⟩ := wp_returns (avbReadFromPartition_refused hserved s)
      rw [hexec] at hok
      exact absurd (Except.ok.inj hok) hspec

/-- **With all reads succeeding a call returns the right bytes.** -/
theorem avbReadFromPartition_reads (env : AvbReadEnv) (readOffset : Int) (numBytes : Nat)
    (h : Served env readOffset numBytes) (s : AvbReadState)
    (hreads : ∀ i, env.handle.2.outcome i = EFI_SUCCESS) :
    ((avbReadFromPartition env readOffset numBytes).exec s).1 = .ok .OK ∧
    ((avbReadFromPartition env readOffset numBytes).exec s).2.outNumRead =
      min numBytes (env.handle.2.getPartitionSize -
        effectiveOffset env.handle.2.getPartitionSize readOffset) ∧
    ∀ i < min numBytes (env.handle.2.getPartitionSize -
        effectiveOffset env.handle.2.getPartitionSize readOffset),
      ((avbReadFromPartition env readOffset numBytes).exec s).2.buffer i =
        s.disk.contents (effectiveOffset env.handle.2.getPartitionSize readOffset + i) := by
  obtain ⟨r, s', hexec, rfl, ⟨-, hcomplete⟩ | ⟨hfail, -⟩⟩ :=
    wp_returns (avbReadFromPartition_served h s)
  · rw [hexec]
    exact ⟨rfl, hcomplete.counted, hcomplete.bytes⟩
  · exact absurd (fun i _ => hreads _) hfail

/-- A partition of two blocks of 8 bytes, and the outcomes of its operations. -/
def sampleBlocks (outcome : Nat → EfiStatus) : BlockIo :=
  ⟨8, 1, by omega, by omega, outcome⟩

def sampleRead (outcome : Nat → EfiStatus) : AvbReadEnv :=
  ⟨true, (.OK, sampleBlocks outcome), true⟩

def sampleReadState : AvbReadState :=
  ⟨⟨fun i => UInt8.ofNat (i + 1), 0, []⟩, fun _ => 0, 0⟩

theorem avbReadFromPartition_reads_sample :
    ((avbReadFromPartition (sampleRead fun _ => EFI_SUCCESS) (-13) 12).exec sampleReadState).1 =
      .ok .OK := by
  have hserved : Served (sampleRead fun _ => EFI_SUCCESS) (-13) 12 := by
    constructor <;> decide
  exact (avbReadFromPartition_reads _ (-13) 12 hserved sampleReadState fun _ => rfl).1

/-- A read of 4 bytes from a device that cannot be read. -/
theorem avbReadFromPartition_short :
    ((avbReadFromPartition (sampleRead fun _ => EFI_DEVICE_ERROR) 0 4).exec sampleReadState).1 =
      .ok .OK ∧
    ((avbReadFromPartition (sampleRead fun _ => EFI_DEVICE_ERROR) 0 4).exec
      sampleReadState).2.outNumRead = 0 ∧
    clampedSize (sampleRead fun _ => EFI_DEVICE_ERROR) 0 4 = 4 := by
  refine ⟨?_, ?_, ?_⟩ <;> decide +kernel

end

end OhMyAbl
