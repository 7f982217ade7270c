/-
  **What the restore threads hand over, under every schedule.**

  `WorkerInv` follows one thread through `ReadDataPages`: the pages it has handed over are the pages
  of its part of the image in their order, and the rest of the run is still in its buffer as it was
  on the disk.  Every step of every thread keeps it.
-/
import OhMyAbl.Hibernation.Restore

namespace OhMyAbl

open Bytes

/-! ### What the threads do not share -/

namespace RestoreEnv

variable (env : RestoreEnv)

def FreeFrame (p : Nat) : Prop := checkFreeRanges env.pool.freeRanges (p * PAGE_SIZE) = true

def InBuffer (t p : Nat) : Prop :=
  (env.info t).diskReadBuffer ≤ p ∧ p < (env.info t).diskReadBuffer + DISK_BUFFER_PAGES

/-- What `AllocatePages` guarantees: the buffers and the pages for the decryption are not free
    memory, and no two of the buffers have a frame in common. -/
structure Separate : Prop where
  buffer_le : ∀ t < env.cores, (env.info t).diskReadBuffer + DISK_BUFFER_PAGES ≤ MAX_PFN
  buffer_not_free : ∀ t < env.cores, ∀ p, env.InBuffer t p → ¬ env.FreeFrame p
  buffers_apart : ∀ t < env.cores, ∀ u < env.cores, t ≠ u → ∀ p, env.InBuffer t p →
    ¬ env.InBuffer u p
  tempOut_lt : env.aes.isSome → ∀ t < env.cores, (env.info t).tempOut < MAX_PFN
  tempOut_not_free : env.aes.isSome → ∀ t < env.cores, ¬ env.FreeFrame (env.info t).tempOut
  tempOut_apart : env.aes.isSome → ∀ t < env.cores, ∀ u < env.cores,
    ¬ env.InBuffer u (env.info t).tempOut

variable {env}

theorem isFree_iff {pfn : Nat} : env.pool.isFree pfn = true ↔ env.FreeFrame (pfnFrame pfn) := by
  rw [PfnPool.isFree, pfnAddr_eq]
  rfl

end RestoreEnv

def SameFrame (memory memory' : Bytes) (p : Nat) : Prop :=
  memory'.frame PAGE_SIZE p = memory.frame PAGE_SIZE p

/-! ### The frames of the bounce tables -/

def PfnPool.Reached (pool : PfnPool) (it : KernelPfnIterator) : Prop :=
  ∃ n, getUnusedPfns pool n ⟨0, 0, 0⟩ = some it

def PfnPool.Obtained (pool : PfnPool) (p : Nat) : Prop :=
  ∃ it pfn it', pool.Reached it ∧ pool.getUnusedPfn it = some (pfn, it') ∧ p = pfnFrame pfn

namespace PfnPool

variable {pool : PfnPool} {it it' : KernelPfnIterator} {pfn p : Nat}

theorem getUnusedPfns_add {n : Nat} {it₀ : KernelPfnIterator}
    (h : getUnusedPfns pool n it₀ = some it) (hget : pool.getUnusedPfn it = some (pfn, it')) :
    getUnusedPfns pool (n + 1) it₀ = some it' := by
  induction n generalizing it₀ with
  | zero =>
    cases h
    rw [getUnusedPfns, hget]
    rfl
  | succ n ih =>
    obtain ⟨⟨first, it₁⟩, hfirst, hrest⟩ := Option.bind_eq_some_iff.mp h
    rw [getUnusedPfns, hfirst]
    exact ih hrest

theorem Reached.step (h : pool.Reached it) (hget : pool.getUnusedPfn it = some (pfn, it')) :
    pool.Reached it' := by
  obtain ⟨n, hn⟩ := h
  exact ⟨n + 1, getUnusedPfns_add hn hget⟩

theorem searchUnusedPfn_isFree {rounds : Nat}
    (h : pool.searchUnusedPfn rounds it = some (pfn, it')) : pool.isFree pfn = true := by
  induction rounds generalizing it with
  | zero => exact nomatch h
  | succ rounds ih =>
    obtain ⟨⟨next, itNext⟩, -, hrest⟩ := Option.bind_eq_some_iff.mp h
    dsimp only at hrest
    split_ifs at hrest with hfree
    · cases hrest
      exact hfree
    · exact ih hrest

theorem getUnusedPfn_isFree (h : pool.getUnusedPfn it = some (pfn, it')) : pool.isFree pfn = true :=
  searchUnusedPfn_isFree h

end PfnPool

theorem RestoreEnv.free_of_obtained {env : RestoreEnv} {p : Nat} (h : env.pool.Obtained p) :
    env.FreeFrame p := by
  obtain ⟨it, pfn, it', -, hget, rfl⟩ := h
  exact isFree_iff.mp (PfnPool.getUnusedPfn_isFree hget)

/-- The current table is in a frame from `GetUnusedPfn` and has room for its index. -/
structure TableInv (pool : PfnPool) (b : BounceTables) : Prop where
  reached : pool.Reached b.iterator
  frame : ∃ f, pool.Obtained f ∧ b.curTable = f * PAGE_SIZE
  index_le : b.curIndex ≤ ENTRIES_PER_TABLE

section Tables

variable {pool : PfnPool} {b b' : BounceTables} {p dst src : Nat}

theorem TableInv.findNextBounceEntry (h : TableInv pool b)
    (hfind : b.findNextBounceEntry pool = some b') :
    TableInv pool b' ∧ b'.curIndex < ENTRIES_PER_TABLE ∧
      ∀ p, ¬ pool.Obtained p → SameFrame b.memory b'.memory p := by
  unfold BounceTables.findNextBounceEntry at hfind
  split_ifs at hfind with hfull
  · obtain ⟨⟨pfn, it⟩, hget, hb⟩ := Option.map_eq_some_iff.mp hfind
    cases hb
    have hframe : pool.Obtained (pfnFrame pfn) := ⟨_, _, _, h.reached, hget, rfl⟩
    refine ⟨⟨h.reached.step hget, ⟨_, hframe, pfnAddr_eq pfn⟩, Nat.zero_le _⟩, Nat.zero_lt_succ _,
      fun p hp => ?_⟩
    obtain ⟨f, hf, htable⟩ := h.frame
    rw [htable]
    exact frame_put_other (by decide) fun hpf => hp (hpf ▸ hf)
  · cases hfind
    exact ⟨h, Nat.lt_of_le_of_ne h.index_le hfull, fun _ _ => rfl⟩

theorem TableInv.updateBounceEntry (h : TableInv pool b)
    (hupdate : b.updateBounceEntry pool dst src = some b') :
    TableInv pool b' ∧ ∀ p, ¬ pool.Obtained p → SameFrame b.memory b'.memory p := by
  obtain ⟨b₁, hfind, hb⟩ := Option.map_eq_some_iff.mp hupdate
  obtain ⟨hinv, hindex, hsame⟩ := h.findNextBounceEntry hfind
  cases hb
  obtain ⟨f, hf, htable⟩ := hinv.frame
  refine ⟨⟨hinv.reached, ⟨f, hf, htable⟩, hindex⟩, fun p hp => ?_⟩
  have hne : p ≠ f := fun hpf => hp (hpf ▸ hf)
  have hroom : BOUNCE_TABLE_ENTRY_SIZE * b₁.curIndex + 16 ≤ PAGE_SIZE := by
    have hentries : ENTRIES_PER_TABLE = 255 := rfl
    unfold BOUNCE_TABLE_ENTRY_SIZE PAGE_SIZE
    omega
  unfold SameFrame
  dsimp only
  rw [htable, Nat.add_assoc, frame_put_other (by omega) hne,
    frame_put_other (by omega) hne]
  exact hsame p hp

end Tables

/-! ### The pages of a thread -/

def ivAfter (iv : List UInt8) : (n : Nat) → Option (List UInt8)
  | 0 => some iv
  | n + 1 => (ivAfter iv n).bind fun iv => incrementIV iv 1

theorem ivAfter_countedOn {iv iv' : List UInt8} {n : Nat} (h : ivAfter iv n = some iv') :
    CountedOn iv n iv' := by
  induction n generalizing iv' with
  | zero =>
    cases h
    exact ⟨rfl, rfl⟩
  | succ n ih =>
    obtain ⟨iv₁, hfirst, hlast⟩ := Option.bind_eq_some_iff.mp h
    exact (ih hfirst).trans (incrementIV_countedOn (by decide) hlast)

section Pages

variable (env : RestoreEnv) (t : Nat)

/-- The text is that of the `i`th page of the thread, and the tag that was computed for it is equal
    to the tag of that page as far as the two are compared. -/
def Authenticated (aes : AesContext) (i : Nat) (text plain : List UInt8) : Prop :=
  ∃ iv tag, ivAfter (env.info t).iv (i + 1) = some iv ∧
    aes.gcm.decrypt aes.unwrappedKey iv aes.aad text = some (plain, tag) ∧
    aes.authsize ≤ CIPHER_AES_BLK_SIZE ∧
    tag.take aes.authsize =
      aes.authtags.slice ((env.info t).authtags + i * aes.authsize) aes.authsize

structure HandedRight (i : Nat) (h : HandedPage) : Prop where
  offset_eq : h.offset = followingPage env.image (env.info t).offset i
  dstPfn_eq : h.dstPfn = env.pool.pfnArray ((env.info t).kernelPfnIndexes + i)
  page_eq : env.aes = none → h.page = env.swap.contents.frame PAGE_SIZE h.offset
  page_auth : ∀ aes, env.aes = some aes →
    Authenticated env t aes i (env.swap.contents.frame PAGE_SIZE h.offset) h.page

/-- The next page of the thread is at its offset, or behind the swap-map page there. -/
def AtNext (w : Worker) : Prop :=
  env.image ≤ w.offset ∧
  skipSwapMap env.image w.offset = followingPage env.image (env.info t).offset w.pfnIndex

/-- From `k` pages behind its source on, the rest of the run is in the buffer of the thread. -/
structure InRun (memory : Bytes) (w : Worker) (k : Nat) : Prop where
  le_src : (env.info t).diskReadBuffer ≤ w.srcPfn
  src_le : w.srcPfn + w.nrReadPages ≤ (env.info t).diskReadBuffer + DISK_BUFFER_PAGES
  nr_le : w.nrReadPages ≤ w.pendingPages + k
  frames : ∀ j, k ≤ j → j < w.nrReadPages →
    memory.frame PAGE_SIZE (w.srcPfn + j) = env.swap.contents.frame PAGE_SIZE (w.offset + j)

structure InHand (memory : Bytes) (w : Worker) (dstPfn : Nat) : Prop where
  index_pos : 0 < w.pfnIndex
  read_pos : 0 < w.nrReadPages
  offset_eq : w.offset = followingPage env.image (env.info t).offset (w.pfnIndex - 1)
  run : InRun env t memory w 1
  last : w.handed.getLast? = some ⟨w.offset, dstPfn, memory.frame PAGE_SIZE w.srcPfn⟩

def Position (memory : Bytes) (w : Worker) : WorkerPc → Prop
  | .loop => AtNext env t w
  | .page => AtNext env t w ∧ InRun env t memory w 0
  | .copy dstPfn => env.pool.isFree dstPfn = true ∧ InHand env t memory w dstPfn
  | .acquire dstPfn | .bounce dstPfn | .update dstPfn _ =>
    env.pool.isFree dstPfn = false ∧ InHand env t memory w dstPfn
  | .release => ∃ dstPfn, InHand env t memory w dstPfn
  | .done => w.status = 0 → w.pendingPages = 0

structure WorkerInv (memory : Bytes) (w : Worker) : Prop where
  handed_right : ∀ i h, w.handed[i]? = some h → HandedRight env t i h
  handed_le : w.handed.length ≤ (env.info t).numPages
  position : Position env t memory w w.pc
  -- a page that fails its check is counted, but not handed over
  counts : w.pc = .done ∧ w.status = -1 ∨
    w.handed.length = w.pfnIndex ∧ w.pfnIndex + w.pendingPages = (env.info t).numPages
  iv_eq : w.pc ≠ .done → ∀ aes, env.aes = some aes →
    ivAfter (env.info t).iv w.pfnIndex = some w.iv ∧
      w.authtags = (env.info t).authtags + w.pfnIndex * aes.authsize

end Pages

/-! ### What a step changes in the memory -/

section Frames

variable {env : RestoreEnv} {t : Nat} {s s' : RestoreState} {w : Worker} {p j : Nat}

theorem Worker.readLength_le (w : Worker) : w.readLength ≤ DISK_BUFFER_PAGES := by
  unfold Worker.readLength
  split <;> omega

theorem Worker.readLength_le_pending (w : Worker) : w.readLength ≤ w.pendingPages := by
  unfold Worker.readLength
  split <;> omega

theorem frame_afterRead_other (hsep : env.Separate) (ht : t < env.cores) (hp : ¬ env.InBuffer t p) :
    SameFrame s.memory (afterRead env t s w).memory p := by
  have hlen := w.readLength_le
  have hdisk : DISK_BUFFER_PAGES = 16384 := rfl
  have hbuffer := hsep.buffer_le t ht
  unfold RestoreEnv.InBuffer at hp
  refine slice_congr fun k hk => ?_
  unfold afterRead Swap.readImage
  dsimp only [RestoreState.memory, RestoreState.setMemory]
  rw [Swap.transferSize_of_lt (by omega), pfnAddr_of_lt (by omega)]
  generalize (env.info t).diskReadBuffer = b at hp ⊢
  have hside : p < b ∨ b + w.readLength ≤ p := by omega
  unfold replaceFrom
  rcases hside with hbefore | hbehind
  · have hmul := Nat.mul_le_mul_right PAGE_SIZE (Nat.succ_le_of_lt hbefore)
    rw [Nat.succ_mul] at hmul
    rw [if_neg (by omega)]
  · have hmul := Nat.mul_le_mul_right PAGE_SIZE hbehind
    rw [Nat.add_mul] at hmul
    rw [if_pos (by omega), overwrite_outside (.inr (by omega)), shift_apply,
      Nat.add_sub_cancel' (by omega)]

theorem frame_afterRead (hsep : env.Separate) (ht : t < env.cores) (hgeo : env.swap.Geometry)
    (hoffset : w.offset < 2 ^ 52) (hstatus : dataStatus env s w = EFI_SUCCESS)
    (hj : j < w.readLength) :
    (afterRead env t s w).memory.frame PAGE_SIZE ((env.info t).diskReadBuffer + j) =
      env.swap.contents.frame PAGE_SIZE (w.offset + j) := by
  have hlen := w.readLength_le
  have hdisk : DISK_BUFFER_PAGES = 16384 := rfl
  have hbuffer := hsep.buffer_le t ht
  unfold afterRead
  dsimp only [RestoreState.memory, RestoreState.setMemory]
  rw [hgeo.readImage_eq hoffset (by omega) hstatus, pfnAddr_of_lt (by omega),
    frame_replaceFrom_copyFrames, frame_copyFrames (Nat.le_add_right _ _) (by omega),
    Nat.add_sub_cancel_left]

theorem storeTempOut_memory (plain : List UInt8) (h : (env.info t).tempOut < MAX_PFN) :
    (storeTempOut env t s plain).memory =
      s.memory.setFrame PAGE_SIZE (env.info t).tempOut plain := by
  unfold storeTempOut setFrame
  rw [RestoreState.setMemory_memory, pfnAddr_of_lt h]

theorem storePlain_memory (plain : List UInt8) (h : w.srcPfn < MAX_PFN) :
    (storePlain s w plain).memory = s.memory.setFrame PAGE_SIZE w.srcPfn plain := by
  unfold storePlain setFrame
  rw [RestoreState.setMemory_memory, pfnAddr_of_lt h]

end Frames

/-! ### The invariant of a thread -/

section Layout

variable {image start i x : Nat}

theorem skipSwapMap_bounds : x ≤ skipSwapMap image x ∧ skipSwapMap image x ≤ x + 1 := by
  unfold skipSwapMap
  split <;> omega

theorem skipSwapMap_skipSwapMap (himage : image ≤ x) (hx : x + 1 < 2 ^ 64) :
    skipSwapMap image (skipSwapMap image x) = skipSwapMap image x := by
  obtain ⟨k, rfl⟩ := Nat.exists_eq_add_of_le himage
  rw [skipSwapMap_add (by omega)]
  split
  · rw [skipSwapMap_add (by omega), if_neg]
    unfold PFN_INDEXES_PER_PAGE at *
    omega
  · rename_i hno
    rw [skipSwapMap_add (by omega), if_neg hno]

theorem followingPage_bounds :
    start + i ≤ followingPage image start i ∧ followingPage image start i ≤ start + 2 * i + 1 := by
  induction i with
  | zero => exact skipSwapMap_bounds
  | succ i ih =>
    have hbounds : followingPage image start i + 1 ≤ followingPage image start (i + 1) ∧
      followingPage image start (i + 1) ≤ followingPage image start i + 1 + 1 := skipSwapMap_bounds
    omega

end Layout

structure RestoreEnv.InRange (env : RestoreEnv) (t : Nat) : Prop where
  image_le : env.image ≤ (env.info t).offset
  end_lt : (env.info t).offset + 2 * (env.info t).numPages + 2 < 2 ^ 52

section Inv

variable {env : RestoreEnv} {t : Nat} {memory memory' : Bytes} {w : Worker} {dst k : Nat}

theorem InRun.inBuffer (h : InRun env t memory w k) {j : Nat} (hj : j < w.nrReadPages) :
    env.InBuffer t (w.srcPfn + j) := by
  have hle := h.le_src
  have hend := h.src_le
  exact ⟨by omega, by omega⟩

theorem InRun.of_frames (h : InRun env t memory w k)
    (hsame : ∀ p, env.InBuffer t p → SameFrame memory memory' p) : InRun env t memory' w k where
  le_src := h.le_src
  src_le := h.src_le
  nr_le := h.nr_le
  frames := by
    intro j hk hj
    rw [hsame _ (h.inBuffer hj)]
    exact h.frames j hk hj

theorem InHand.src_inBuffer (h : InHand env t memory w dst) : env.InBuffer t w.srcPfn :=
  h.run.inBuffer h.read_pos

theorem InHand.of_frames (h : InHand env t memory w dst)
    (hsame : ∀ p, env.InBuffer t p → SameFrame memory memory' p) : InHand env t memory' w dst where
  index_pos := h.index_pos
  read_pos := h.read_pos
  offset_eq := h.offset_eq
  run := h.run.of_frames hsame
  last := by
    rw [hsame _ h.src_inBuffer]
    exact h.last

theorem InHand.withPc (h : InHand env t memory w dst) (pc : WorkerPc) :
    InHand env t memory { w with pc := pc } dst :=
  ⟨h.index_pos, h.read_pos, h.offset_eq, ⟨h.run.le_src, h.run.src_le, h.run.nr_le, h.run.frames⟩,
    h.last⟩

theorem Position.of_frames {pc : WorkerPc} (h : Position env t memory w pc)
    (hsame : ∀ p, env.InBuffer t p → SameFrame memory memory' p) : Position env t memory' w pc := by
  cases pc with
  | loop | done => exact h
  | page | copy dstPfn | acquire dstPfn | bounce dstPfn | update dstPfn bouncePfn =>
    exact ⟨h.1, h.2.of_frames hsame⟩
  | release =>
    obtain ⟨dstPfn, hhand⟩ := h
    exact ⟨dstPfn, hhand.of_frames hsame⟩

theorem WorkerInv.of_frames (h : WorkerInv env t memory w)
    (hsame : ∀ p, env.InBuffer t p → SameFrame memory memory' p) : WorkerInv env t memory' w :=
  { h with position := h.position.of_frames hsame }

theorem WorkerInv.at {pc : WorkerPc} (h : WorkerInv env t memory w) (hpc : w.pc = pc) :
    Position env t memory w pc := hpc ▸ h.position

theorem WorkerInv.start (hrange : env.InRange t) :
    WorkerInv env t memory (Worker.start (env.info t)) where
  handed_right := by
    intro i h hi
    exact nomatch hi
  handed_le := Nat.zero_le _
  position := ⟨hrange.image_le, rfl⟩
  counts := .inr ⟨rfl, Nat.zero_add _⟩
  iv_eq := by
    intro _ aes _
    exact ⟨rfl, by simp [Worker.start]⟩

theorem WorkerInv.counts_of_ne (h : WorkerInv env t memory w) (hpc : w.pc ≠ .done) :
    w.handed.length = w.pfnIndex ∧ w.pfnIndex + w.pendingPages = (env.info t).numPages := by
  rcases h.counts with hdone | hcounts
  · exact absurd hdone.1 hpc
  · exact hcounts

theorem AtNext.offset_lt (h : AtNext env t w) (hrange : env.InRange t)
    (hle : w.pfnIndex ≤ (env.info t).numPages) : w.offset + 1 < 2 ^ 52 := by
  have hend := hrange.end_lt
  have hskip : w.offset ≤ skipSwapMap env.image w.offset := skipSwapMap_bounds.1
  rw [h.2] at hskip
  have hbounds : followingPage env.image (env.info t).offset w.pfnIndex ≤
    (env.info t).offset + 2 * w.pfnIndex + 1 := followingPage_bounds.2
  omega

theorem AtNext.skip (h : AtNext env t w) (hlt : w.offset + 1 < 2 ^ 52)
    (hmap : checkSwapMapPage env.image w.offset = true) : AtNext env t w.advance := by
  obtain ⟨himage, hnext⟩ := h
  have hskip : skipSwapMap env.image w.offset = w.offset + 1 := by
    rw [skipSwapMap, hmap]
    rfl
  have hagain := skipSwapMap_skipSwapMap himage (by omega)
  rw [hskip] at hagain hnext
  exact ⟨Nat.le_succ_of_le himage, hagain.trans hnext⟩

theorem InRun.advance (h : InRun env t memory w k) (hk : k ≤ 1) (hread : w.nrReadPages ≠ 0) :
    InRun env t memory w.advance 0 := by
  have hle := h.le_src
  have hend := h.src_le
  have hnr := h.nr_le
  unfold Worker.advance
  refine ⟨?_, ?_, ?_, ?_⟩
  · exact Nat.le_succ_of_le hle
  · dsimp only
    omega
  · dsimp only
    omega
  · intro j _ hj
    dsimp only at hj ⊢
    rw [Nat.add_right_comm, Nat.add_right_comm w.offset]
    exact h.frames (j + 1) (Nat.le_trans hk (Nat.le_add_left 1 j)) (by omega)

theorem InHand.advance (h : InHand env t memory w dst) (hrange : env.InRange t) :
    AtNext env t w.advance ∧ InRun env t memory w.advance 0 := by
  refine ⟨?_, h.run.advance (Nat.le_refl 1) (Nat.ne_of_gt h.read_pos)⟩
  obtain ⟨i, hi⟩ := Nat.exists_eq_add_of_le' h.index_pos
  unfold AtNext Worker.advance
  dsimp only
  rw [h.offset_eq, hi, Nat.add_sub_cancel]
  have himage := hrange.image_le
  have hbounds : (env.info t).offset + i ≤ followingPage env.image (env.info t).offset i :=
    followingPage_bounds.1
  exact ⟨by omega, rfl⟩

theorem WorkerInv.goesOn {s : RestoreState} {w' : Worker} (h : WorkerInv env t memory w)
    (hpc : w.pc ≠ .done)
    (hsame : w'.handed = w.handed ∧ w'.pfnIndex = w.pfnIndex ∧ w'.pendingPages = w.pendingPages ∧
      w'.iv = w.iv ∧ w'.authtags = w.authtags)
    (hposition : Position env t memory' w' w'.pc) :
    WorkerInv env t memory' ((s.setWorker t w').workers t) := by
  obtain ⟨hhanded, hindex, hpending, hiv, hauth⟩ := hsame
  rw [RestoreState.setWorker_workers_self]
  refine ⟨?_, ?_, hposition, .inr ?_, fun _ => ?_⟩
  · rw [hhanded]
    exact h.handed_right
  · rw [hhanded]
    exact h.handed_le
  · rw [hhanded, hindex, hpending]
    exact h.counts_of_ne hpc
  · rw [hindex, hiv, hauth]
    exact h.iv_eq hpc

theorem WorkerInv.fails {s : RestoreState} {w' : Worker} (h : WorkerInv env t memory w)
    (hhanded : w'.handed = w.handed) (hpc : w'.pc = .done) (hstatus : w'.status = -1) :
    WorkerInv env t memory' ((s.setWorker t w').workers t) := by
  rw [RestoreState.setWorker_workers_self]
  refine ⟨?_, ?_, ?_, .inl ⟨hpc, hstatus⟩, fun hne => absurd hpc hne⟩
  · rw [hhanded]
    exact h.handed_right
  · rw [hhanded]
    exact h.handed_le
  · rw [hpc]
    intro hzero
    rw [hstatus] at hzero
    exact absurd hzero (by decide)

theorem WorkerInv.hands {s : RestoreState} {iv page : List UInt8} {auth : Nat}
    (h : WorkerInv env t memory w) (hpc : w.pc = .page) (hread : w.nrReadPages ≠ 0)
    (hmap : checkSwapMapPage env.image w.offset = false)
    (hsame : ∀ p, env.InBuffer t p → p ≠ w.srcPfn → SameFrame memory memory' p)
    (hpage : memory'.frame PAGE_SIZE w.srcPfn = page)
    (hplain : env.aes = none → page = env.swap.contents.frame PAGE_SIZE w.offset)
    (hauth : ∀ aes, env.aes = some aes →
      Authenticated env t aes w.pfnIndex (env.swap.contents.frame PAGE_SIZE w.offset) page ∧
      ivAfter (env.info t).iv (w.pfnIndex + 1) = some iv ∧ auth = w.authtags + aes.authsize) :
    WorkerInv env t memory' ((s.setWorker t { w.take with
      iv := iv
      authtags := auth
      handed := w.handed ++ [⟨w.offset, w.dstPfn env t, page⟩]
      pc := if env.pool.isFree (w.dstPfn env t) then .copy (w.dstPfn env t)
        else .acquire (w.dstPfn env t) }).workers t) := by
  have hne : w.pc ≠ .done := by simp [hpc]
  obtain ⟨hlength, hsum⟩ := h.counts_of_ne hne
  obtain ⟨⟨-, hnext⟩, hrun⟩ := h.at hpc
  have hoffset : w.offset = followingPage env.image (env.info t).offset w.pfnIndex := by
    rw [← hnext, skipSwapMap, hmap]
    rfl
  have hnr := hrun.nr_le
  have hhand : InHand env t memory' { w.take with
      iv := iv
      authtags := auth
      handed := w.handed ++ [⟨w.offset, w.dstPfn env t, page⟩]
      pc := if env.pool.isFree (w.dstPfn env t) then .copy (w.dstPfn env t)
        else .acquire (w.dstPfn env t) } (w.dstPfn env t) := by
    refine ⟨Nat.succ_pos _, Nat.pos_of_ne_zero hread, hoffset,
      ⟨hrun.le_src, hrun.src_le, ?_, ?_⟩, ?_⟩
    · unfold Worker.take
      dsimp only
      omega
    · intro j hj hlt
      have hother : w.srcPfn + j ≠ w.srcPfn := by omega
      exact (hsame _ (hrun.inBuffer hlt) hother).trans (hrun.frames j (Nat.zero_le j) hlt)
    · rw [List.getLast?_concat]
      exact congrArg (fun page => some (HandedPage.mk w.offset (w.dstPfn env t) page)) hpage.symm
  rw [RestoreState.setWorker_workers_self]
  refine ⟨?_, ?_, ?_, .inr ⟨?_, ?_⟩, ?_⟩
  · intro i handed hi
    rcases Nat.lt_or_ge i w.handed.length with hlt | hge
    · rw [List.getElem?_append_left hlt] at hi
      exact h.handed_right i handed hi
    · obtain rfl : i = w.handed.length := by
        have := (List.getElem?_eq_some_iff.mp hi).1
        rw [List.length_append, List.length_singleton] at this
        omega
      rw [List.getElem?_concat_length, Option.some.injEq] at hi
      subst hi
      rw [hlength]
      exact ⟨hoffset, rfl, hplain, fun aes haes => (hauth aes haes).1⟩
  · rw [List.length_append, List.length_singleton]
    omega
  · cases hfree : env.pool.isFree (w.dstPfn env t) with
    | true =>
      rw [hfree] at hhand
      exact ⟨hfree, hhand⟩
    | false =>
      rw [hfree] at hhand
      exact ⟨hfree, hhand⟩
  · simp [Worker.take, hlength]
  · unfold Worker.take
    dsimp only
    omega
  · intro _ aes haes
    obtain ⟨-, hiv, hnextAuth⟩ := hauth aes haes
    refine ⟨hiv, ?_⟩
    unfold Worker.take
    rw [hnextAuth, (h.iv_eq hne aes haes).2, Nat.succ_mul, Nat.add_assoc]

end Inv

/-! ### The steps of a thread -/

def MayWrite (env : RestoreEnv) (t p : Nat) : Prop :=
  env.InBuffer t p ∨ (env.aes.isSome = true ∧ p = (env.info t).tempOut) ∨ env.pool.Obtained p ∨
    env.FreeFrame p ∧ ∃ i < (env.info t).numPages,
      p = pfnFrame (env.pool.pfnArray ((env.info t).kernelPfnIndexes + i))

section Moves

variable {env : RestoreEnv} {t u p dst : Nat} {s s' : RestoreState}

theorem WorkerInv.dst_eq {memory : Bytes} {w : Worker} (h : WorkerInv env t memory w)
    (hpc : w.pc ≠ .done) (hhand : InHand env t memory w dst) :
    dst = env.pool.pfnArray ((env.info t).kernelPfnIndexes + (w.pfnIndex - 1)) ∧
      w.pfnIndex - 1 < (env.info t).numPages := by
  obtain ⟨hlength, hsum⟩ := h.counts_of_ne hpc
  have hpos := hhand.index_pos
  have hlast := hhand.last
  rw [List.getLast?_eq_getElem?, hlength] at hlast
  exact ⟨(h.handed_right _ _ hlast).dstPfn_eq, by omega⟩

theorem Moved.tableInv (h : Moved env t s s') (htable : TableInv env.pool s.tables) :
    TableInv env.pool s'.tables := by
  cases h with
  | decryptFails hpc hread hmap haes iv tempOut =>
    cases tempOut <;> exact ⟨htable.reached, htable.frame, htable.index_le⟩
  | bounce dstPfn bouncePfn it hpc hget =>
    exact ⟨htable.reached.step hget, htable.frame, htable.index_le⟩
  | update dstPfn bouncePfn tables hpc hentry => exact (htable.updateBounceEntry hentry).1
  | _ => exact ⟨htable.reached, htable.frame, htable.index_le⟩

theorem Moved.sameFrame_reading (h : Moved env t s s') (hsep : env.Separate) (ht : t < env.cores)
    (hinv : WorkerInv env t s.memory (s.workers t))
    (hpc : (s.workers t).pc = .loop ∨ (s.workers t).pc = .page) (hbuffer : ¬ env.InBuffer t p)
    (htemp : env.aes.isSome = true → p ≠ (env.info t).tempOut) :
      SameFrame s.memory s'.memory p := by
  cases h with
  | readFails hpc hpending hret => exact frame_afterRead_other hsep ht hbuffer
  | read hpc hpending hret => exact frame_afterRead_other hsep ht hbuffer
  | decryptFails hpc hread hmap haes iv tempOut =>
    cases tempOut with
    | none => rfl
    | some plain =>
      rw [RestoreState.setWorker_memory, Option.elim_some,
        storeTempOut_memory plain (hsep.tempOut_lt haes t ht)]
      exact frame_setFrame_other (htemp haes)
  | decrypt hpc hread hmap aes haes iv plain hok =>
    have hsome : env.aes.isSome = true := by rw [haes]; rfl
    have hsrc := (hinv.at hpc).2.inBuffer (Nat.pos_of_ne_zero hread)
    have hle := hsep.buffer_le t ht
    have hne : p ≠ (s.workers t).srcPfn := by
      rintro rfl
      exact hbuffer hsrc
    unfold SameFrame copyPageToDst
    rw [RestoreState.setWorker_memory, storePlain_memory plain (Nat.lt_of_lt_of_le hsrc.2 hle),
      frame_setFrame_other hne, storeTempOut_memory plain (hsep.tempOut_lt hsome t ht)]
    exact frame_setFrame_other (htemp hsome)
  | finish | runEnds | skip | hand => rfl
  | copy dstPfn hpc' | acquire dstPfn hpc' | bounce dstPfn bouncePfn it hpc'
  | update dstPfn bouncePfn tables hpc' | release hpc' =>
    rw [hpc'] at hpc
    simp at hpc

theorem Moved.sameFrame (h : Moved env t s s') (hsep : env.Separate) (ht : t < env.cores)
    (htable : TableInv env.pool s.tables) (hinv : WorkerInv env t s.memory (s.workers t))
    (hp : ¬ MayWrite env t p) : SameFrame s.memory s'.memory p := by
  have hreading : (s.workers t).pc = .loop ∨ (s.workers t).pc = .page →
      SameFrame s.memory s'.memory p := fun hpc =>
    h.sameFrame_reading hsep ht hinv hpc (fun hin => hp (.inl hin))
      fun haes heq => hp (.inr (.inl ⟨haes, heq⟩))
  have hobtained : ¬ env.pool.Obtained p := fun hob => hp (.inr (.inr (.inl hob)))
  cases h with
  | finish hpc | readFails hpc | read hpc => exact hreading (.inl hpc)
  | runEnds hpc | skip hpc | hand hpc | decryptFails hpc | decrypt hpc => exact hreading (.inr hpc)
  | copy dstPfn hpc =>
    obtain ⟨hfree, hhand⟩ := hinv.at hpc
    obtain ⟨hdst, hlt⟩ := hinv.dst_eq (by simp [hpc]) hhand
    refine frame_copyPage_other fun heq => hp (.inr (.inr (.inr ?_)))
    refine ⟨heq ▸ RestoreEnv.isFree_iff.mp hfree, _, hlt, ?_⟩
    rw [← hdst]
    exact heq
  | acquire | release => rfl
  | bounce dstPfn bouncePfn it hpc hget =>
    exact frame_copyPage_other fun heq => hobtained ⟨_, _, _, htable.reached, hget, heq⟩
  | update dstPfn bouncePfn tables hpc hentry =>
    exact (htable.updateBounceEntry hentry).2 p hobtained

theorem RestoreEnv.Separate.not_mayWrite (hsep : env.Separate) (ht : t < env.cores)
    (hu : u < env.cores) (hne : t ≠ u) (hp : env.InBuffer u p) : ¬ MayWrite env t p := by
  rintro (hin | ⟨haes, rfl⟩ | hob | ⟨hfree, -⟩)
  · exact hsep.buffers_apart t ht u hu hne p hin hp
  · exact hsep.tempOut_apart haes t ht u hu hp
  · exact hsep.buffer_not_free u hu p hp (free_of_obtained hob)
  · exact hsep.buffer_not_free u hu p hp hfree

theorem WorkerInv.decrypts {aes : AesContext} {iv plain : List UInt8}
    (hinv : WorkerInv env t s.memory (s.workers t)) (hsep : env.Separate) (ht : t < env.cores)
    (hpc : (s.workers t).pc = .page) (hread : (s.workers t).nrReadPages ≠ 0)
    (hmap : checkSwapMapPage env.image (s.workers t).offset = false) (haes : env.aes = some aes)
    (hok : decryptPage aes (s.workers t).iv ((s.workers t).text s) (s.workers t).authtags =
      some ⟨iv, some plain, true⟩) :
    WorkerInv env t (storePlain (storeTempOut env t s plain) (s.workers t) plain).memory
      ((s'.setWorker t { (s.workers t).take with
        iv := iv
        authtags := (s.workers t).authtags + aes.authsize
        handed := (s.workers t).handed ++
          [⟨(s.workers t).offset, (s.workers t).dstPfn env t, plain⟩]
        pc := if env.pool.isFree ((s.workers t).dstPfn env t)
          then .copy ((s.workers t).dstPfn env t)
          else .acquire ((s.workers t).dstPfn env t) }).workers t) := by
  have hsome : env.aes.isSome = true := by rw [haes]; rfl
  have hne : (s.workers t).pc ≠ .done := by simp [hpc]
  obtain ⟨-, hrun⟩ := hinv.at hpc
  have hsrc := hrun.inBuffer (Nat.pos_of_ne_zero hread)
  have hsrcLt : (s.workers t).srcPfn < MAX_PFN :=
    Nat.lt_of_lt_of_le hsrc.2 (hsep.buffer_le t ht)
  have htext : (s.workers t).text s =
      env.swap.contents.frame PAGE_SIZE (s.workers t).offset := by
    unfold Worker.text
    rw [pfnAddr_of_lt hsrcLt]
    exact hrun.frames 0 (Nat.le_refl 0) (Nat.pos_of_ne_zero hread)
  obtain ⟨hiv, plain', tag, hdecrypt, hplain, hsize, htag⟩ := decryptPage_ok hok rfl
  obtain rfl : plain = plain' := Option.some.inj hplain
  obtain ⟨hivAt, hauthAt⟩ := hinv.iv_eq hne aes haes
  have hivNext : ivAfter (env.info t).iv ((s.workers t).pfnIndex + 1) = some iv := by
    rw [ivAfter, hivAt]
    exact hiv
  rw [storePlain_memory plain hsrcLt, storeTempOut_memory plain (hsep.tempOut_lt hsome t ht)]
  refine hinv.hands hpc hread hmap ?_ ?_ ?_ ?_
  · intro p hp hother
    unfold SameFrame
    rw [frame_setFrame_other hother]
    refine frame_setFrame_other ?_
    rintro rfl
    exact hsep.tempOut_apart hsome t ht t ht hp
  · refine frame_setFrame ?_
    rw [aes.gcm.plain_length hdecrypt, htext]
    exact frame_length
  · intro hnone
    rw [haes] at hnone
    exact nomatch hnone
  · intro aes' haes'
    obtain rfl : aes = aes' := Option.some.inj (haes.symm.trans haes')
    refine ⟨⟨iv, tag, hivNext, ?_, hsize, ?_⟩, hivNext, rfl⟩
    · rw [← htext]
      exact hdecrypt
    · rw [← hauthAt]
      exact htag

theorem RestoreEnv.Separate.sameFrame_copyPage {memory : Bytes} {src : Nat} (hsep : env.Separate)
    (ht : t < env.cores) (hfree : env.FreeFrame (pfnFrame dst)) (hp : env.InBuffer t p) :
    SameFrame memory (copyPage memory src dst) p := by
  refine frame_copyPage_other ?_
  rintro rfl
  exact hsep.buffer_not_free t ht _ hp hfree

theorem WorkerInv.reads (hinv : WorkerInv env t s.memory (s.workers t)) (hsep : env.Separate)
    (ht : t < env.cores) (hgeo : env.swap.Geometry) (hrange : env.InRange t)
    (hpc : (s.workers t).pc = .loop) (hok : dataStatus env s (s.workers t) = EFI_SUCCESS) :
    WorkerInv env t (afterRead env t s (s.workers t)).memory
      ((s'.setWorker t { s.workers t with
        nrReadPages := (s.workers t).readLength
        srcPfn := (env.info t).diskReadBuffer
        pc := .page }).workers t) := by
  have hne : (s.workers t).pc ≠ .done := by simp [hpc]
  have hnext : AtNext env t (s.workers t) := hinv.at hpc
  have hsum := (hinv.counts_of_ne hne).2
  have hoffset := hnext.offset_lt hrange (by omega)
  refine hinv.goesOn hne ⟨rfl, rfl, rfl, rfl, rfl⟩ ⟨hnext, ⟨Nat.le_refl _, ?_, ?_, ?_⟩⟩
  · exact Nat.add_le_add_left (Worker.readLength_le _) _
  · exact Worker.readLength_le_pending _
  · intro j _ hj
    exact frame_afterRead hsep ht hgeo (by omega) hok hj

/-- A worker's step keeps its own invariant. -/
theorem WorkerInv.step (hinv : WorkerInv env t s.memory (s.workers t)) (hsep : env.Separate)
    (ht : t < env.cores) (hgeo : env.swap.Geometry) (hrange : env.InRange t)
    (htable : TableInv env.pool s.tables) (hnoticed : ReadNoticed env s t)
    (h : Moved env t s s') : WorkerInv env t s'.memory (s'.workers t) := by
  cases h with
  | finish hpc hpending =>
    exact hinv.goesOn (by simp [hpc]) ⟨rfl, rfl, rfl, rfl, rfl⟩ fun _ => hpending
  | readFails hpc hpending hret =>
    exact hinv.fails rfl rfl rfl
  | read hpc hpending hret =>
    rcases hnoticed hpc hpending with hok | hneg
    · exact hinv.reads hsep ht hgeo hrange hpc hok
    · exact absurd hneg hret
  | runEnds hpc hread =>
    exact hinv.goesOn (by simp [hpc]) ⟨rfl, rfl, rfl, rfl, rfl⟩ (hinv.at hpc).1
  | skip hpc hread hmap =>
    obtain ⟨hnext, hrun⟩ := hinv.at hpc
    have hne : (s.workers t).pc ≠ .done := by simp [hpc]
    have hsum := (hinv.counts_of_ne hne).2
    have hoffset := hnext.offset_lt hrange (by omega)
    exact hinv.goesOn hne ⟨rfl, rfl, rfl, rfl, rfl⟩
      ⟨hnext.skip hoffset hmap, hrun.advance (Nat.zero_le 1) hread⟩
  | hand hpc hread hmap haes =>
    obtain ⟨hnext, hrun⟩ := hinv.at hpc
    have hsrc : env.InBuffer t (s.workers t).srcPfn := hrun.inBuffer (Nat.pos_of_ne_zero hread)
    have hframe := hrun.frames 0 (Nat.le_refl 0) (Nat.pos_of_ne_zero hread)
    have htext : (s.workers t).text s = s.memory.frame PAGE_SIZE (s.workers t).srcPfn := by
      unfold Worker.text
      rw [pfnAddr_of_lt (Nat.lt_of_lt_of_le hsrc.2 (hsep.buffer_le t ht))]
      rfl
    unfold copyPageToDst
    refine hinv.hands hpc hread hmap (fun p _ _ => rfl) htext.symm (fun _ => htext.trans hframe) ?_
    intro aes haes'
    exact nomatch haes.symm.trans haes'
  | decryptFails hpc hread hmap haes iv tempOut =>
    exact hinv.fails rfl rfl rfl
  | decrypt hpc hread hmap aes haes iv plain hok =>
    unfold copyPageToDst
    exact hinv.decrypts hsep ht hpc hread hmap haes hok
  | copy dstPfn hpc =>
    obtain ⟨hfree, hhand⟩ := hinv.at hpc
    have hkept : InHand env t (copyPage s.memory (s.workers t).srcPfn dstPfn)
        (s.workers t) dstPfn :=
      hhand.of_frames fun p hp => hsep.sameFrame_copyPage ht (RestoreEnv.isFree_iff.mp hfree) hp
    exact hinv.goesOn (by simp [hpc]) ⟨rfl, rfl, rfl, rfl, rfl⟩ (hkept.advance hrange)
  | acquire dstPfn hpc hmutex =>
    obtain ⟨hnot, hhand⟩ := hinv.at hpc
    exact hinv.goesOn (by simp [hpc]) ⟨rfl, rfl, rfl, rfl, rfl⟩ ⟨hnot, hhand.withPc _⟩
  | bounce dstPfn bouncePfn it hpc hget =>
    obtain ⟨hnot, hhand⟩ := hinv.at hpc
    refine hinv.goesOn (by simp [hpc]) ⟨rfl, rfl, rfl, rfl, rfl⟩ ⟨hnot, InHand.withPc ?_ _⟩
    have hfree := RestoreEnv.isFree_iff.mp (PfnPool.getUnusedPfn_isFree hget)
    exact hhand.of_frames fun p hp => hsep.sameFrame_copyPage ht hfree hp
  | update dstPfn bouncePfn tables hpc hentry =>
    obtain ⟨hnot, hhand⟩ := hinv.at hpc
    refine hinv.goesOn (by simp [hpc]) ⟨rfl, rfl, rfl, rfl, rfl⟩ ⟨dstPfn, InHand.withPc ?_ _⟩
    refine hhand.of_frames fun p hp => (htable.updateBounceEntry hentry).2 p fun hob => ?_
    exact hsep.buffer_not_free t ht p hp (RestoreEnv.free_of_obtained hob)
  | release hpc =>
    obtain ⟨dstPfn, hhand⟩ := hinv.at hpc
    exact hinv.goesOn (by simp [hpc]) ⟨rfl, rfl, rfl, rfl, rfl⟩ (hhand.advance hrange)

end Moves

structure RestoreInv (env : RestoreEnv) (s : RestoreState) : Prop where
  table : TableInv env.pool s.tables
  workers : ∀ t < env.cores, WorkerInv env t s.memory (s.workers t)

/-- What the invariant rests on: memory that the threads do not share, and a disk whose pages can be
    addressed. -/
structure RestoreEnv.Sound (env : RestoreEnv) : Prop where
  separate : env.Separate
  geometry : env.swap.Geometry
  inRange : ∀ t < env.cores, env.InRange t

section Run

variable {env : RestoreEnv} {t : Nat} {s s' : RestoreState}

theorem RestoreInv.step (h : RestoreInv env s) (hsound : env.Sound) (hnoticed : ReadNoticed env s t)
    (hstep : restoreMachine env s t = some s') : RestoreInv env s' := by
  obtain ⟨ht, -, hmoved⟩ := restoreMachine_moved hstep
  refine ⟨hmoved.tableInv h.table, fun u hu => ?_⟩
  by_cases hut : u = t
  · subst hut
    exact (h.workers u hu).step hsound.separate hu hsound.geometry (hsound.inRange u hu) h.table
      hnoticed hmoved
  · rw [hmoved.others hut]
    refine (h.workers u hu).of_frames fun p hp => ?_
    exact hmoved.sameFrame hsound.separate ht h.table (h.workers t ht)
      (hsound.separate.not_mayWrite ht hu (Ne.symm hut) hp)

theorem RestoreInv.run {schedule : List Nat} (h : RestoreInv env s) (hsound : env.Sound)
    (hnoticed : Machine.Along (restoreMachine env) (ReadNoticed env) s schedule)
    (hrun : (restoreMachine env).run s schedule = some s') : RestoreInv env s' :=
  Machine.run_invariant_along (fun _ _ _ hs hP hstep => hs.step hsound hP hstep) h hnoticed hrun

theorem WorkerInv.all_handed {memory : Bytes} {w : Worker} (h : WorkerInv env t memory w)
    (hpc : w.pc = .done) (hstatus : w.status = 0) : w.handed.length = (env.info t).numPages := by
  have hpending : w.status = 0 → w.pendingPages = 0 := h.at hpc
  rcases h.counts with ⟨-, hfailed⟩ | ⟨hlength, hsum⟩
  · rw [hstatus] at hfailed
    exact absurd hfailed (by decide)
  · have := hpending hstatus
    omega

end Run

end OhMyAbl
