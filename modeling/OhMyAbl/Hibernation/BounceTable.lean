/-
  **Unused page frames, and the tables of bounced pages.**

  A page whose frame is still in use by the boot loader is kept in a frame from a gap of the PFN
  index (`GetUnusedPfn`), and an entry of a bounce table says where it belongs.  The tables are such
  frames themselves, 255 entries each, linked by their last slot; `JumpToKernel` copies what they
  list.
-/
import OhMyAbl.Hibernation.Swap

namespace OhMyAbl

/-! ### Page frames -/

def pfnAddr (pfn : Nat) : Nat := u64 (pfn * PAGE_SIZE)

def copyPage (memory : Bytes) (srcPfn dstPfn : Nat) : Bytes :=
  memory.overwrite (pfnAddr dstPfn) PAGE_SIZE (memory.shift (pfnAddr srcPfn))

def MAX_PFN : Nat := 2 ^ 52

/-- The page frame that a number stands for; what does not fit 64 bits is lost. -/
def pfnFrame (pfn : Nat) : Nat := pfn % MAX_PFN

variable {pfn : Nat}

theorem pfnFrame_of_lt (h : pfn < MAX_PFN) : pfnFrame pfn = pfn := Nat.mod_eq_of_lt h

theorem pfnAddr_eq (pfn : Nat) : pfnAddr pfn = pfnFrame pfn * PAGE_SIZE := by
  unfold pfnAddr pfnFrame u64 PAGE_SIZE MAX_PFN
  omega

theorem pfnAddr_of_lt (h : pfn < MAX_PFN) : pfnAddr pfn = pfn * PAGE_SIZE := by
  rw [pfnAddr_eq, pfnFrame_of_lt h]

section CopyPage

variable {memory : Bytes} {src dst p : Nat}

theorem copyPage_eq : copyPage memory src dst =
    memory.copyFrames PAGE_SIZE (pfnFrame dst) 1 memory (pfnFrame src) := by
  rw [copyPage, pfnAddr_eq, pfnAddr_eq, Bytes.copyFrames, Nat.one_mul]

theorem frame_copyPage :
    (copyPage memory src dst).frame PAGE_SIZE (pfnFrame dst) =
      memory.frame PAGE_SIZE (pfnFrame src) := by
  rw [copyPage_eq, Bytes.frame_copyFrames (Nat.le_refl _) (Nat.lt_succ_self _), Nat.sub_self,
    Nat.add_zero]

theorem frame_copyPage_other (h : p ≠ pfnFrame dst) :
    (copyPage memory src dst).frame PAGE_SIZE p = memory.frame PAGE_SIZE p := by
  rw [copyPage_eq, Bytes.frame_copyFrames_other (by omega)]

end CopyPage

/-! ### Free ranges -/

structure FreeRange where
  start : Nat
  stop : Nat
deriving DecidableEq, Repr

def checkFreeRanges (ranges : List FreeRange) (targetAddr : Nat) : Bool :=
  ranges.any fun r => decide (r.start ≤ targetAddr) && decide (targetAddr < r.stop)

def RESERVE_FREE_SIZE : Nat := 1024 * 1024 * 10

/-- `PreallocateFreeRanges` from the last range on: the first one that is large enough loses what is
    reserved, and a failed allocation ends the loop.  `status` is that of the allocation of the
    range at an index. -/
def preallocate (status : Nat → EfiStatus) : List FreeRange → Bool → Int × List FreeRange
  | [], _ => (0, [])
  | r :: ranges, reservationDone =>
    let reserve := !reservationDone && decide (u64Sub r.stop r.start > RESERVE_FREE_SIZE)
    let r' := if reserve then { r with start := u64 (r.start + RESERVE_FREE_SIZE) } else r
    let ret := i32 (status ranges.length).toNat
    if ret ≠ 0 then (ret, r' :: ranges)
    else
      let (ret, rest) := preallocate status ranges (reservationDone || reserve)
      (ret, r' :: rest)

def preallocateFreeRanges (status : Nat → EfiStatus) (ranges : List FreeRange) :
    Int × List FreeRange :=
  let (ret, ranges) := preallocate status ranges.reverse false
  (ret, ranges.reverse)

/-! ### Unused frames -/

/-- The PFN index, the number of its entries, and the ranges that were free. -/
structure PfnPool where
  pfnArray : Nat → Nat
  nrCopyPages : Nat
  freeRanges : List FreeRange

structure KernelPfnIterator where
  curIndex : Nat
  basePfn : Nat
  availablePfns : Nat
deriving DecidableEq, Repr

namespace PfnPool

variable (pool : PfnPool)

def maxIndex : Int := i32 pool.nrCopyPages

def isFree (pfn : Nat) : Bool := checkFreeRanges pool.freeRanges (pfnAddr pfn)

def gap (i : Nat) : Nat := u32 (u64Sub (u64Sub (pool.pfnArray (i + 1)) (pool.pfnArray i)) 1)

/-- `FindNextAvailableBlock`, with a bound on its rounds; at the end of the index it never
    returns. -/
def findNextAvailableBlock : (rounds curIndex : Nat) → Option KernelPfnIterator
  | 0, _ => none
  | rounds + 1, curIndex =>
    if pool.maxIndex ≤ (curIndex + 1 : Nat) then none
    else if pool.gap (curIndex + 1) = 0 then findNextAvailableBlock rounds (curIndex + 1)
    else some ⟨curIndex + 1, pool.pfnArray (curIndex + 1), pool.gap (curIndex + 1)⟩

def getUnusedKernelPfn (it : KernelPfnIterator) : Option (Nat × KernelPfnIterator) :=
  let block :=
    if it.availablePfns = 0 then pool.findNextAvailableBlock pool.nrCopyPages it.curIndex
    else some it
  block.map fun it =>
    (u64 (it.basePfn + 1), ⟨it.curIndex, u64 (it.basePfn + 1), it.availablePfns - 1⟩)

def searchUnusedPfn : (rounds : Nat) → KernelPfnIterator → Option (Nat × KernelPfnIterator)
  | 0, _ => none
  | rounds + 1, it =>
    (pool.getUnusedKernelPfn it).bind fun (pfn, it) =>
      if pool.isFree pfn then some (pfn, it) else searchUnusedPfn rounds it

def remaining (it : KernelPfnIterator) : Nat :=
  2 ^ 32 * (pool.nrCopyPages - it.curIndex) + it.availablePfns

def getUnusedPfn (it : KernelPfnIterator) : Option (Nat × KernelPfnIterator) :=
  pool.searchUnusedPfn (pool.remaining it + 1) it

/-! What `GetUnusedPfn` hands out. -/

/-- The index is strictly increasing up to the sentinel behind its last entry. -/
structure Ascending : Prop where
  lt_succ : ∀ i < pool.nrCopyPages, pool.pfnArray i < pool.pfnArray (i + 1)
  sentinel_lt : pool.pfnArray pool.nrCopyPages < 2 ^ 64

/-- Besides, the entries and the frames that are counted behind them are page frames.  The count has
    32 bits: a last entry of at most `2 ^ 52 - 2 ^ 32` may have any sentinel. -/
structure Increasing : Prop extends pool.Ascending where
  frame_lt : ∀ i < pool.nrCopyPages, pool.pfnArray i + pool.gap i < MAX_PFN

structure InGap (it : KernelPfnIterator) : Prop where
  curIndex_lt : it.curIndex < pool.nrCopyPages
  base_le : it.basePfn + it.availablePfns ≤ pool.pfnArray it.curIndex + pool.gap it.curIndex
  le_base : 0 < it.availablePfns → pool.pfnArray it.curIndex ≤ it.basePfn

variable {pool} {it it' : KernelPfnIterator} {pfn rounds curIndex i j : Nat}

theorem Ascending.lt (h : pool.Ascending) (hij : i < j) (hj : j ≤ pool.nrCopyPages) :
    pool.pfnArray i < pool.pfnArray j := by
  induction hij with
  | refl => exact h.lt_succ i (by omega)
  | step hle ih => exact Nat.lt_trans (ih (by omega)) (h.lt_succ _ (by omega))

theorem Ascending.le (h : pool.Ascending) (hij : i ≤ j) (hj : j ≤ pool.nrCopyPages) :
    pool.pfnArray i ≤ pool.pfnArray j := by
  rcases Nat.eq_or_lt_of_le hij with rfl | hlt
  · exact Nat.le_refl _
  · exact Nat.le_of_lt (h.lt hlt hj)

theorem Ascending.succ_le (h : pool.Ascending) (hij : i < j) (hj : j ≤ pool.nrCopyPages) :
    pool.pfnArray (i + 1) ≤ pool.pfnArray j :=
  h.le hij hj

theorem Increasing.pfn_lt (h : pool.Increasing) (hi : i < pool.nrCopyPages) :
    pool.pfnArray i < MAX_PFN :=
  Nat.lt_of_le_of_lt (Nat.le_add_right _ _) (h.frame_lt i hi)

theorem Increasing.inj (h : pool.Increasing) (hi : i < pool.nrCopyPages) (hj : j < pool.nrCopyPages)
    (heq : pool.pfnArray i = pool.pfnArray j) : i = j := by
  rcases Nat.lt_trichotomy i j with hlt | heq' | hgt
  · exact absurd heq (Nat.ne_of_lt (h.lt hlt (Nat.le_of_lt hj)))
  · exact heq'
  · exact absurd heq.symm (Nat.ne_of_lt (h.lt hgt (Nat.le_of_lt hi)))

theorem maxIndex_le : pool.maxIndex ≤ pool.nrCopyPages := by
  have hnat : (BitVec.ofNat 32 pool.nrCopyPages).toNat ≤ pool.nrCopyPages := by
    exact Nat.mod_le _ _
  unfold maxIndex i32
  rw [BitVec.toInt_eq_toNat_cond]
  split
  · omega
  · omega

theorem Ascending.gap_lt (h : pool.Ascending) (hi : i < pool.nrCopyPages) :
    pool.pfnArray i + pool.gap i < pool.pfnArray (i + 1) := by
  have hlt := h.lt_succ i hi
  have hle := Nat.lt_of_le_of_lt (h.succ_le hi (Nat.le_refl _)) h.sentinel_lt
  have hgap : pool.gap i ≤ pool.pfnArray (i + 1) - pool.pfnArray i - 1 := by
    unfold gap
    rw [u64Sub_of_le (Nat.le_of_lt hlt) (by omega), u64Sub_of_le (by omega) (by omega)]
    exact Nat.mod_le _ _
  omega

theorem findNextAvailableBlock_eq_some (h : pool.findNextAvailableBlock rounds curIndex = some it) :
    curIndex < it.curIndex ∧ it.curIndex < pool.nrCopyPages ∧
      it.basePfn = pool.pfnArray it.curIndex ∧ it.availablePfns = pool.gap it.curIndex ∧
      0 < it.availablePfns := by
  induction rounds generalizing curIndex with
  | zero => exact nomatch h
  | succ rounds ih =>
    unfold findNextAvailableBlock at h
    have hmax := pool.maxIndex_le
    split_ifs at h with hend hgap
    · obtain ⟨hlt, hrest⟩ := ih h
      exact ⟨by omega, hrest⟩
    · cases h
      exact ⟨Nat.lt_succ_self _, by dsimp only; omega, rfl, rfl, Nat.pos_of_ne_zero hgap⟩

theorem remaining_lt (h : pool.getUnusedKernelPfn it = some (pfn, it')) :
    pool.remaining it' < pool.remaining it := by
  obtain ⟨block, hblock, hpair⟩ := Option.map_eq_some_iff.mp h
  cases hpair
  unfold remaining
  split_ifs at hblock with hzero
  · obtain ⟨hlt, hcur, -, havail, hpos⟩ := findNextAvailableBlock_eq_some hblock
    have hgap : pool.gap block.curIndex < 2 ^ 32 := Nat.mod_lt _ (by decide)
    dsimp only
    omega
  · cases hblock
    dsimp only
    omega

theorem searchUnusedPfn_rounds {rounds' : Nat} (h : pool.remaining it < rounds)
    (h' : pool.remaining it < rounds') :
    pool.searchUnusedPfn rounds it = pool.searchUnusedPfn rounds' it := by
  induction rounds generalizing it rounds' with
  | zero => omega
  | succ rounds ih =>
    obtain ⟨rounds', rfl⟩ := Nat.exists_eq_succ_of_ne_zero (show rounds' ≠ 0 by omega)
    unfold searchUnusedPfn
    cases hget : pool.getUnusedKernelPfn it with
    | none => rfl
    | some next =>
      have hless := remaining_lt hget
      dsimp only [Option.bind_some]
      rw [ih (by omega) (show pool.remaining next.2 < rounds' by omega)]

theorem getUnusedPfn_eq :
    pool.getUnusedPfn it = (pool.getUnusedKernelPfn it).bind fun next =>
      if pool.isFree next.1 then some next else pool.getUnusedPfn next.2 := by
  unfold getUnusedPfn
  rw [searchUnusedPfn]
  cases hget : pool.getUnusedKernelPfn it with
  | none => simp only [Option.bind_none]
  | some next =>
    have hless := remaining_lt hget
    dsimp only [Option.bind_some]
    rw [searchUnusedPfn_rounds (show pool.remaining next.2 < pool.remaining it by omega)
      (Nat.lt_succ_self _)]

/-- A frame of a gap: it is behind every frame handed out before, and no frame of the image. -/
structure FromGap (it : KernelPfnIterator) (pfn : Nat) (it' : KernelPfnIterator) : Prop where
  base_lt : it.basePfn < pfn
  base_eq : it'.basePfn = pfn
  inGap : pool.InGap it'
  not_image : ∀ i < pool.nrCopyPages, pool.pfnArray i ≠ pfn

structure Fresh (it : KernelPfnIterator) (pfn : Nat) (it' : KernelPfnIterator) : Prop
    extends pool.FromGap it pfn it' where
  pfn_lt : pfn < MAX_PFN

theorem Ascending.getUnusedKernelPfn_fromGap (h : pool.Ascending) (hit : pool.InGap it)
    (hget : pool.getUnusedKernelPfn it = some (pfn, it')) : pool.FromGap it pfn it' := by
  obtain ⟨block, hblock, hpair⟩ := Option.map_eq_some_iff.mp hget
  -- either way the iterator is in a gap with a frame left, no nearer than where it was
  obtain ⟨hbase, hle, hcur, hroom, havail⟩ : it.basePfn ≤ block.basePfn ∧
      pool.pfnArray block.curIndex ≤ block.basePfn ∧ block.curIndex < pool.nrCopyPages ∧
      block.basePfn + block.availablePfns ≤
        pool.pfnArray block.curIndex + pool.gap block.curIndex ∧
      0 < block.availablePfns := by
    split_ifs at hblock with hzero
    · obtain ⟨hlt, hcur, hbase, havail, hpos⟩ := findNextAvailableBlock_eq_some hblock
      have hnext := h.succ_le hlt (Nat.le_of_lt hcur)
      have hold := hit.base_le
      have hgap := h.gap_lt hit.curIndex_lt
      exact ⟨by omega, by omega, hcur, by omega, hpos⟩
    · cases hblock
      exact ⟨Nat.le_refl _, hit.le_base (Nat.pos_of_ne_zero hzero), hit.curIndex_lt, hit.base_le,
        Nat.pos_of_ne_zero hzero⟩
  have hgap := h.gap_lt hcur
  have hmax := Nat.lt_of_le_of_lt (h.succ_le hcur (Nat.le_refl _)) h.sentinel_lt
  have hexact : u64 (block.basePfn + 1) = block.basePfn + 1 := Nat.mod_eq_of_lt (by omega)
  cases hpair
  refine ⟨by omega, rfl, ⟨hcur, by dsimp only; omega, fun _ => by dsimp only; omega⟩, ?_⟩
  -- the entries up to this one are before the frame, the others behind it
  intro i hi heq
  rcases Nat.lt_or_ge block.curIndex i with hlt | hge
  · have := h.succ_le hlt (Nat.le_of_lt hi)
    omega
  · have := h.le hge (Nat.le_of_lt hcur)
    omega

theorem Ascending.searchUnusedPfn_fromGap (h : pool.Ascending) (hit : pool.InGap it)
    (hget : pool.searchUnusedPfn rounds it = some (pfn, it')) :
    pool.FromGap it pfn it' ∧ pool.isFree pfn = true := by
  induction rounds generalizing it with
  | zero => exact nomatch hget
  | succ rounds ih =>
    obtain ⟨⟨next, itNext⟩, hnext, hrest⟩ := Option.bind_eq_some_iff.mp hget
    have hfirst := h.getUnusedKernelPfn_fromGap hit hnext
    dsimp only at hrest
    split_ifs at hrest with hfree
    · cases hrest
      exact ⟨hfirst, hfree⟩
    · obtain ⟨hlater, hfree'⟩ := ih hfirst.inGap hrest
      have hbase : it.basePfn < itNext.basePfn := hfirst.base_eq ▸ hfirst.base_lt
      exact ⟨{ hlater with base_lt := Nat.lt_trans hbase hlater.base_lt }, hfree'⟩

theorem Increasing.getUnusedPfn_fresh (h : pool.Increasing) (hit : pool.InGap it)
    (hget : pool.getUnusedPfn it = some (pfn, it')) :
    pool.Fresh it pfn it' ∧ pool.isFree pfn = true := by
  obtain ⟨hgap, hfree⟩ := h.toAscending.searchUnusedPfn_fromGap hit hget
  have hbase := hgap.inGap.base_le
  have hmax := h.frame_lt _ hgap.inGap.curIndex_lt
  rw [hgap.base_eq] at hbase
  exact ⟨⟨hgap, by omega⟩, hfree⟩

end PfnPool

/-! ### Bounce tables -/

def BOUNCE_TABLE_ENTRY_SIZE : Nat := 16
def ENTRIES_PER_TABLE : Nat := PAGE_SIZE / BOUNCE_TABLE_ENTRY_SIZE - 1

def NEXT_BOUNCE_TABLE : Nat := ENTRIES_PER_TABLE * BOUNCE_TABLE_ENTRY_SIZE

/-- `TableIterator`, with the memory the tables are in and the frames that are left. -/
structure BounceTables where
  memory : Bytes
  iterator : KernelPfnIterator
  firstTable : Nat
  curTable : Nat
  curIndex : Nat
  bouncedPages : Nat

namespace BounceTables

def allocNextTable (pool : PfnPool) (s : BounceTables) : Option BounceTables :=
  (pool.getUnusedPfn s.iterator).map fun (pfn, it) =>
    { s with
      memory := s.memory.put (s.curTable + NEXT_BOUNCE_TABLE) 8 (pfnAddr pfn)
      iterator := it
      curTable := pfnAddr pfn
      curIndex := 0 }

/-- `FindNextBounceEntry`: the address of the entry is that of the current index. -/
def findNextBounceEntry (pool : PfnPool) (s : BounceTables) : Option BounceTables :=
  if s.curIndex = ENTRIES_PER_TABLE then s.allocNextTable pool else some s

def updateBounceEntry (pool : PfnPool) (dstPfn srcPfn : Nat) (s : BounceTables) :
    Option BounceTables :=
  (s.findNextBounceEntry pool).map fun s =>
    let entry := s.curTable + BOUNCE_TABLE_ENTRY_SIZE * s.curIndex
    { s with
      memory := (s.memory.put entry 8 dstPfn).put (entry + 8) 8 srcPfn
      curIndex := s.curIndex + 1
      bouncedPages := s.bouncedPages + 1 }

end BounceTables

/-! ### JumpToKernel -/

def copyPages (memory : Bytes) (table count : Nat) : Bytes :=
  (List.range count).foldl (fun memory k =>
    copyPage memory (memory.u64At (table + BOUNCE_TABLE_ENTRY_SIZE * k + 8))
      (memory.u64At (table + BOUNCE_TABLE_ENTRY_SIZE * k))) memory

/-- The loop of `JumpToKernel` over the tables, with a bound on its rounds. -/
def jumpToKernel : (rounds : Nat) → Bytes → (table count : Nat) → Bytes
  | 0, memory, _, _ => memory
  | rounds + 1, memory, table, count =>
    let entries := min ENTRIES_PER_TABLE count
    let memory := copyPages memory table entries
    if count - entries = 0 then memory
    else jumpToKernel rounds memory (memory.u64At (table + NEXT_BOUNCE_TABLE)) (count - entries)

/-! ### What a replay restores -/

/-- The copies that a list of entries (destination and source) asks for, in its order. -/
def replay (memory : Bytes) (entries : List (Nat × Nat)) : Bytes :=
  entries.foldl (fun memory e => copyPage memory e.2 e.1) memory

def FrameNumbers (entries : List (Nat × Nat)) : Prop :=
  ∀ e ∈ entries, e.1 < MAX_PFN ∧ e.2 < MAX_PFN

/-- The entries have different destinations, and no destination is a source. -/
structure Replayable (entries : List (Nat × Nat)) : Prop where
  numbers : FrameNumbers entries
  nodup : (entries.map Prod.fst).Nodup
  apart : ∀ e ∈ entries, ∀ e' ∈ entries, e.1 ≠ e'.2

section Replay

variable {memory : Bytes} {entries seg : List (Nat × Nat)} {p n k : Nat} {e : Nat × Nat}

theorem replay_append : replay memory (entries ++ seg) = replay (replay memory entries) seg :=
  List.foldl_append

theorem copyPages_succ {t : Nat} : copyPages memory t (n + 1) =
    copyPage (copyPages memory t n)
      ((copyPages memory t n).u64At (t + BOUNCE_TABLE_ENTRY_SIZE * n + 8))
      ((copyPages memory t n).u64At (t + BOUNCE_TABLE_ENTRY_SIZE * n)) := by
  unfold copyPages
  rw [List.range_succ, List.foldl_append]
  rfl

theorem FrameNumbers.frame_replay_other (h : FrameNumbers entries) (hp : p ∉ entries.map Prod.fst) :
    (replay memory entries).frame PAGE_SIZE p = memory.frame PAGE_SIZE p := by
  induction entries generalizing memory with
  | nil => rfl
  | cons e entries ih =>
    rw [List.map_cons, List.mem_cons, not_or] at hp
    obtain ⟨hdst, hsrc⟩ := h e List.mem_cons_self
    show (replay (copyPage memory e.2 e.1) entries).frame PAGE_SIZE p = _
    rw [ih (fun e' he' => h e' (List.mem_cons_of_mem e he')) hp.2,
      frame_copyPage_other (by rw [pfnFrame_of_lt hdst]; exact hp.1)]

theorem Replayable.tail (h : Replayable (e :: entries)) : Replayable entries where
  numbers e' he' := h.numbers e' (List.mem_cons_of_mem e he')
  nodup := (List.nodup_cons.mp h.nodup).2
  apart e₁ h₁ e₂ h₂ := h.apart e₁ (List.mem_cons_of_mem e h₁) e₂ (List.mem_cons_of_mem e h₂)

theorem Replayable.frame_replay (h : Replayable entries) (he : e ∈ entries) :
    (replay memory entries).frame PAGE_SIZE e.1 = memory.frame PAGE_SIZE e.2 := by
  induction entries generalizing memory with
  | nil => exact absurd he List.not_mem_nil
  | cons e₀ entries ih =>
    obtain ⟨hdst, hsrc⟩ := h.numbers e₀ List.mem_cons_self
    show (replay (copyPage memory e₀.2 e₀.1) entries).frame PAGE_SIZE e.1 = _
    rcases List.mem_cons.mp he with rfl | hmem
    · -- the destination is written once
      have hnot : e.1 ∉ entries.map Prod.fst := (List.nodup_cons.mp h.nodup).1
      have hcopy : (copyPage memory e.2 e.1).frame PAGE_SIZE (pfnFrame e.1) =
          memory.frame PAGE_SIZE (pfnFrame e.2) := frame_copyPage
      rw [pfnFrame_of_lt hdst, pfnFrame_of_lt hsrc] at hcopy
      rw [h.tail.numbers.frame_replay_other hnot, hcopy]
    · have hne : e.2 ≠ e₀.1 := (h.apart e₀ List.mem_cons_self e he).symm
      rw [ih h.tail hmem, frame_copyPage_other (by rw [pfnFrame_of_lt hdst]; exact hne)]

/-- An entry in memory: where the page belongs, and its bounce page. -/
def bounceEntry (memory : Bytes) (table i : Nat) : Nat × Nat :=
  (memory.u64At (table * PAGE_SIZE + BOUNCE_TABLE_ENTRY_SIZE * i),
    memory.u64At (table * PAGE_SIZE + (BOUNCE_TABLE_ENTRY_SIZE * i + 8)))

theorem bounceEntry_congr {memory memory' : Bytes} {table : Nat} (j : Nat)
    (hsame : ∀ i, i + 8 ≤ NEXT_BOUNCE_TABLE →
      memory'.u64At (table * PAGE_SIZE + i) = memory.u64At (table * PAGE_SIZE + i)) :
    bounceEntry memory' table (j % ENTRIES_PER_TABLE) =
      bounceEntry memory table (j % ENTRIES_PER_TABLE) := by
  have hlt : j % ENTRIES_PER_TABLE < 255 := Nat.mod_lt _ (by decide)
  have hnext : NEXT_BOUNCE_TABLE = 4080 := rfl
  unfold bounceEntry BOUNCE_TABLE_ENTRY_SIZE
  rw [hsame _ (by omega), hsame _ (by omega)]

/-- The tables in memory, the `k`th in the frame `table k`, list the entries. -/
structure Recorded (memory : Bytes) (table : Nat → Nat) (entries : List (Nat × Nat)) : Prop where
  entry_eq : ∀ j (h : j < entries.length),
    bounceEntry memory (table (j / ENTRIES_PER_TABLE)) (j % ENTRIES_PER_TABLE) = entries[j]
  next_eq : ∀ k, ENTRIES_PER_TABLE * (k + 1) < entries.length →
    memory.u64At (table k * PAGE_SIZE + NEXT_BOUNCE_TABLE) = table (k + 1) * PAGE_SIZE

variable {table : Nat → Nat}

theorem Recorded.of_frames {memory' : Bytes} (h : Recorded memory table entries)
    (hsame : ∀ k, ENTRIES_PER_TABLE * k < entries.length →
      memory'.frame PAGE_SIZE (table k) = memory.frame PAGE_SIZE (table k)) :
    Recorded memory' table entries := by
  have hword : ∀ k i, ENTRIES_PER_TABLE * k < entries.length → i + 8 ≤ PAGE_SIZE →
      memory'.u64At (table k * PAGE_SIZE + i) = memory.u64At (table k * PAGE_SIZE + i) := by
    intro k i hk hi
    exact Bytes.u64At_of_frame_eq hi (hsame k hk)
  constructor
  · intro j hj
    have htable := Nat.lt_of_le_of_lt (Nat.mul_div_le j ENTRIES_PER_TABLE) hj
    refine (bounceEntry_congr j fun i hi => ?_).trans (h.entry_eq j hj)
    exact hword _ i htable (Nat.le_trans hi (by decide))
  · intro k hk
    have hlt : ENTRIES_PER_TABLE * k < entries.length :=
      Nat.lt_of_le_of_lt (Nat.mul_le_mul_left _ (Nat.le_succ k)) hk
    rw [hword k _ hlt (by decide), h.next_eq k hk]

theorem Recorded.replay (h : Recorded memory table entries) (hnumbers : FrameNumbers seg)
    (htables : ∀ k, ENTRIES_PER_TABLE * k < entries.length → table k ∉ seg.map Prod.fst) :
    Recorded (OhMyAbl.replay memory seg) table entries :=
  h.of_frames fun k hk => hnumbers.frame_replay_other (htables k hk)

theorem FrameNumbers.sublist (h : FrameNumbers entries) (hseg : seg.Sublist entries) :
    FrameNumbers seg :=
  fun e he => h e (hseg.subset he)

section

variable (h : Recorded memory table entries) (hnumbers : FrameNumbers entries)
  (htables : ∀ k, ENTRIES_PER_TABLE * k < entries.length → table k ∉ entries.map Prod.fst)
include h hnumbers htables

theorem Recorded.copyPages_eq (hn : n ≤ ENTRIES_PER_TABLE)
    (hlen : ENTRIES_PER_TABLE * k + n ≤ entries.length) :
    copyPages memory (table k * PAGE_SIZE) n =
      OhMyAbl.replay memory ((entries.drop (ENTRIES_PER_TABLE * k)).take n) := by
  induction n with
  | zero => rfl
  | succ n ih =>
    have hlt : n < (entries.drop (ENTRIES_PER_TABLE * k)).length := by
      rw [List.length_drop]
      omega
    have hseg : ((entries.drop (ENTRIES_PER_TABLE * k)).take n).Sublist entries :=
      (List.take_sublist _ _).trans (List.drop_sublist _ _)
    have hrec := h.replay (hnumbers.sublist hseg)
      fun k hk hmem => htables k hk (List.Sublist.subset (hseg.map Prod.fst) hmem)
    have hj : ENTRIES_PER_TABLE * k + n < entries.length := by omega
    have hdiv : (ENTRIES_PER_TABLE * k + n) / ENTRIES_PER_TABLE = k := by
      rw [Nat.mul_add_div (by decide), Nat.div_eq_of_lt (by omega), Nat.add_zero]
    have hmod : (ENTRIES_PER_TABLE * k + n) % ENTRIES_PER_TABLE = n := by
      rw [Nat.mul_add_mod, Nat.mod_eq_of_lt (by omega)]
    have hentry := hrec.entry_eq _ hj
    rw [hdiv, hmod] at hentry
    obtain ⟨hdst, hsrc⟩ := Prod.ext_iff.mp hentry
    dsimp only [bounceEntry] at hdst hsrc
    rw [List.take_succ_eq_append_getElem hlt, replay_append, copyPages_succ,
      ih (by omega) (by omega), Nat.add_assoc, hdst, hsrc, List.getElem_drop]
    rfl

/-- The chain of tables is replayed as the list it records. -/
theorem Recorded.jumpToKernel_eq {rounds : Nat} (hlen : ENTRIES_PER_TABLE * k ≤ entries.length)
    (hrounds : entries.length - ENTRIES_PER_TABLE * k < rounds) :
    jumpToKernel rounds memory (table k * PAGE_SIZE) (entries.length - ENTRIES_PER_TABLE * k) =
      OhMyAbl.replay memory (entries.drop (ENTRIES_PER_TABLE * k)) := by
  induction rounds generalizing memory k with
  | zero => omega
  | succ rounds ih =>
    have hcopy : copyPages memory (table k * PAGE_SIZE)
        (min ENTRIES_PER_TABLE (entries.length - ENTRIES_PER_TABLE * k)) = _ :=
      h.copyPages_eq hnumbers htables (Nat.min_le_left _ _) (by omega)
    unfold jumpToKernel
    dsimp only
    rw [hcopy]
    have hentries : ENTRIES_PER_TABLE = 255 := rfl
    split
    · -- all that is left is in this table
      rw [List.take_of_length_le]
      rw [List.length_drop]
      omega
    · rename_i hmore
      have hmin : min ENTRIES_PER_TABLE (entries.length - ENTRIES_PER_TABLE * k) =
          ENTRIES_PER_TABLE := by omega
      have hseg : ((entries.drop (ENTRIES_PER_TABLE * k)).take ENTRIES_PER_TABLE).Sublist entries :=
        (List.take_sublist _ _).trans (List.drop_sublist _ _)
      have hrec := h.replay (hnumbers.sublist hseg)
        fun k hk hmem => htables k hk (List.Sublist.subset (hseg.map Prod.fst) hmem)
      have hnext := hrec.next_eq k (by rw [hentries] at hmore ⊢; omega)
      have hcount : entries.length - ENTRIES_PER_TABLE * k - ENTRIES_PER_TABLE =
          entries.length - ENTRIES_PER_TABLE * (k + 1) := by
        rw [Nat.mul_succ]
        omega
      have hdrop : entries.drop (ENTRIES_PER_TABLE * k) =
          (entries.drop (ENTRIES_PER_TABLE * k)).take ENTRIES_PER_TABLE ++
            entries.drop (ENTRIES_PER_TABLE * (k + 1)) := by
        rw [Nat.mul_succ, ← List.drop_drop, List.take_append_drop]
      rw [hmin, hnext, hcount, ih hrec (by rw [hentries] at hmore ⊢; omega)
        (by rw [hentries] at hmore hrounds ⊢; omega)]
      conv_rhs => rw [hdrop, replay_append]

end

end Replay

end OhMyAbl
