/-
  **The memory after a restore and the replay of the bounce tables.**

  No frame that still holds something (a page in its frame, a bounced page, a table) is written
  again: `GetUnusedPfn` only hands out frames behind all it has handed out before and not part of
  the image, and the threads have different pages.  `Chain` says what the tables record and
  `MemoryInv` where every page is; every step of every thread keeps them.
-/
import OhMyAbl.Hibernation.Authentication

namespace OhMyAbl

open Bytes RestoreState

/-! ### The chain of bounce tables -/

structure Taken (pool : PfnPool) (it : KernelPfnIterator) (f : Nat) : Prop where
  le_base : f ≤ it.basePfn
  lt_max : f < MAX_PFN
  free : pool.isFree f = true
  not_image : ∀ i < pool.nrCopyPages, pool.pfnArray i ≠ f

/-- The `k + 1` tables in memory list the entries, and all their frames and those of the bounced
    pages are different. -/
structure Chain (pool : PfnPool) (b : BounceTables) (table : Nat → Nat) (k : Nat)
    (entries : List (Nat × Nat)) : Prop where
  inGap : pool.InGap b.iterator
  first_eq : b.firstTable = table 0 * PAGE_SIZE
  cur_eq : b.curTable = table k * PAGE_SIZE
  index_le : b.curIndex ≤ ENTRIES_PER_TABLE
  length_eq : entries.length = ENTRIES_PER_TABLE * k + b.curIndex
  bounced_eq : b.bouncedPages = entries.length
  entry_eq : ∀ j (h : j < entries.length),
    bounceEntry b.memory (table (j / ENTRIES_PER_TABLE)) (j % ENTRIES_PER_TABLE) = entries[j]
  linked : ∀ j < k, b.memory.u64At (table j * PAGE_SIZE + NEXT_BOUNCE_TABLE) =
    table (j + 1) * PAGE_SIZE
  table_taken : ∀ j ≤ k, Taken pool b.iterator (table j)
  table_lt : ∀ i j, i < j → j ≤ k → table i < table j
  src_taken : ∀ e ∈ entries, Taken pool b.iterator e.2
  src_apart : ∀ e ∈ entries, ∀ j ≤ k, e.2 ≠ table j

section Chain

variable {pool : PfnPool} {b b' : BounceTables} {it it' : KernelPfnIterator} {table : Nat → Nat}
  {k f pfn : Nat} {entries : List (Nat × Nat)}

theorem Taken.later (h : Taken pool it f) (hle : it.basePfn ≤ it'.basePfn) : Taken pool it' f :=
  { h with le_base := Nat.le_trans h.le_base hle }

theorem PfnPool.Fresh.taken (h : pool.Fresh it pfn it') (hfree : pool.isFree pfn = true) :
    Taken pool it' pfn :=
  ⟨Nat.le_of_eq h.base_eq.symm, h.pfn_lt, hfree, h.not_image⟩

theorem PfnPool.Fresh.base_le (h : pool.Fresh it pfn it') : it.basePfn ≤ it'.basePfn :=
  h.base_eq ▸ Nat.le_of_lt h.base_lt

theorem PfnPool.Fresh.ne_taken (h : pool.Fresh it pfn it') (hf : Taken pool it f) : f ≠ pfn :=
  Nat.ne_of_lt (Nat.lt_of_le_of_lt hf.le_base h.base_lt)

theorem Taken.frame_eq (h : Taken pool it f) : pfnFrame f = f := pfnFrame_of_lt h.lt_max

variable {j dst src : Nat}

theorem Chain.entry_table (h : Chain pool b table k entries) (hj : j < entries.length) :
    j / ENTRIES_PER_TABLE ≤ k := by
  have hlen := h.length_eq
  have hle := h.index_le
  have hentries : ENTRIES_PER_TABLE = 255 := rfl
  rw [hentries] at hlen hle ⊢
  omega

theorem Chain.recorded (h : Chain pool b table k entries) : Recorded b.memory table entries where
  entry_eq := h.entry_eq
  next_eq := by
    intro j hj
    have hlen := h.length_eq
    have hle := h.index_le
    have hentries : ENTRIES_PER_TABLE = 255 := rfl
    rw [hentries] at hlen hle hj
    exact h.linked j (by omega)

theorem Chain.changes {memory' : Bytes} (h : Chain pool b table k entries)
    (hgap : pool.InGap it') (hle : b.iterator.basePfn ≤ it'.basePfn)
    (hsame : ∀ j ≤ k, SameFrame b.memory memory' (table j)) :
    Chain pool { b with memory := memory', iterator := it' } table k entries := by
  have hword : ∀ j ≤ k, ∀ i, i + 8 ≤ PAGE_SIZE →
      memory'.u64At (table j * PAGE_SIZE + i) = b.memory.u64At (table j * PAGE_SIZE + i) :=
    fun j hj i hi => u64At_of_frame_eq hi (hsame j hj)
  refine ⟨hgap, h.first_eq, h.cur_eq, h.index_le, h.length_eq, h.bounced_eq, ?_, ?_,
    fun j hj => (h.table_taken j hj).later hle, h.table_lt,
    fun e he => (h.src_taken e he).later hle, h.src_apart⟩
  · intro j hj
    refine (bounceEntry_congr j fun i hi => ?_).trans (h.entry_eq j hj)
    exact hword _ (h.entry_table hj) i (Nat.le_trans hi (by decide))
  · intro j hj
    rw [hword j (Nat.le_of_lt hj) _ (by decide), h.linked j hj]

theorem Chain.allocNextTable (hincr : pool.Increasing) (h : Chain pool b table k entries)
    (hfull : b.curIndex = ENTRIES_PER_TABLE) (halloc : b.allocNextTable pool = some b') :
    ∃ pfn, Chain pool b' (Function.update table (k + 1) pfn) (k + 1) entries ∧ b'.curIndex = 0 ∧
      b.iterator.basePfn < pfn ∧ b.iterator.basePfn ≤ b'.iterator.basePfn ∧
      ∀ p, p ≠ table k → SameFrame b.memory b'.memory p := by
  obtain ⟨⟨pfn, it⟩, hget, hb⟩ := Option.map_eq_some_iff.mp halloc
  obtain ⟨hfresh, hfree⟩ := hincr.getUnusedPfn_fresh h.inGap hget
  have hsame : ∀ p, p ≠ table k →
      SameFrame b.memory (b.memory.put (b.curTable + NEXT_BOUNCE_TABLE) 8 (pfnAddr pfn)) p := by
    intro p hp
    rw [h.cur_eq]
    exact frame_put_other (by decide) hp
  have hold : ∀ j ≤ k, Function.update table (k + 1) pfn j = table j := fun j hj =>
    Function.update_of_ne (by omega) _ _
  have hnew : Function.update table (k + 1) pfn (k + 1) = pfn := Function.update_self ..
  have hslot : ∀ j ≤ k, ∀ i, i + 8 ≤ NEXT_BOUNCE_TABLE →
      (b.memory.put (b.curTable + NEXT_BOUNCE_TABLE) 8 (pfnAddr pfn)).u64At
        (table j * PAGE_SIZE + i) = b.memory.u64At (table j * PAGE_SIZE + i) := by
    intro j hj i hi
    by_cases hjk : table j = table k
    · rw [hjk, h.cur_eq]
      exact u64At_overwrite_outside (.inr (by omega))
    · exact u64At_of_frame_eq (Nat.le_trans hi (by decide)) (hsame _ hjk)
  cases hb
  refine ⟨pfn, ⟨hfresh.inGap, h.first_eq, ?_, Nat.zero_le _, ?_, h.bounced_eq, ?_, ?_, ?_, ?_,
    fun e he => (h.src_taken e he).later hfresh.base_le, ?_⟩, rfl, hfresh.base_lt, hfresh.base_le,
    hsame⟩
  · rw [hnew]
    exact pfnAddr_of_lt hfresh.pfn_lt
  · rw [h.length_eq, hfull, Nat.mul_succ]
    rfl
  · intro j hj
    rw [hold _ (h.entry_table hj)]
    exact (bounceEntry_congr j (hslot _ (h.entry_table hj))).trans (h.entry_eq j hj)
  · intro j hj
    rw [hold j (by omega)]
    rcases Nat.lt_or_eq_of_le (Nat.le_of_lt_succ hj) with hlt | rfl
    · have hne : table j ≠ table k := Nat.ne_of_lt (h.table_lt j k hlt (Nat.le_refl k))
      rw [hold (j + 1) hlt]
      exact (u64At_of_frame_eq (by decide) (hsame _ hne)).trans (h.linked j hlt)
    · rw [hnew, ← pfnAddr_of_lt hfresh.pfn_lt, h.cur_eq]
      exact u64At_put (Nat.mod_lt _ (by decide))
  · intro j hj
    rcases Nat.lt_or_eq_of_le hj with hlt | rfl
    · rw [hold j (by omega)]
      exact (h.table_taken j (by omega)).later hfresh.base_le
    · rw [hnew]
      exact hfresh.taken hfree
  · intro i j hij hj
    rw [hold i (by omega)]
    rcases Nat.lt_or_eq_of_le hj with hlt | rfl
    · rw [hold j (by omega)]
      exact h.table_lt i j hij (by omega)
    · rw [hnew]
      exact Nat.lt_of_le_of_lt (h.table_taken i (by omega)).le_base hfresh.base_lt
  · intro e he j hj
    rcases Nat.lt_or_eq_of_le hj with hlt | rfl
    · rw [hold j (by omega)]
      exact h.src_apart e he j (by omega)
    · rw [hnew]
      exact hfresh.ne_taken (h.src_taken e he)

def putEntry (b : BounceTables) (dst src : Nat) : Bytes :=
  (b.memory.put (b.curTable + BOUNCE_TABLE_ENTRY_SIZE * b.curIndex) 8 dst).put
    (b.curTable + BOUNCE_TABLE_ENTRY_SIZE * b.curIndex + 8) 8 src

theorem Chain.frame_putEntry (h : Chain pool b table k entries)
    (hindex : b.curIndex < ENTRIES_PER_TABLE) {p : Nat} (hp : p ≠ table k) :
    SameFrame b.memory (putEntry b dst src) p := by
  have hentries : ENTRIES_PER_TABLE = 255 := rfl
  have hroom : BOUNCE_TABLE_ENTRY_SIZE * b.curIndex + 16 ≤ PAGE_SIZE := by
    unfold BOUNCE_TABLE_ENTRY_SIZE PAGE_SIZE
    omega
  unfold SameFrame putEntry
  rw [h.cur_eq, Nat.add_assoc, frame_put_other (by omega) hp,
    frame_put_other (by omega) hp]

theorem Chain.u64At_putEntry (h : Chain pool b table k entries)
    (hindex : b.curIndex < ENTRIES_PER_TABLE) {i : Nat} (hi : i + 8 ≤ PAGE_SIZE)
    (hout : table j = table k → i + 8 ≤ BOUNCE_TABLE_ENTRY_SIZE * b.curIndex ∨
      BOUNCE_TABLE_ENTRY_SIZE * b.curIndex + 16 ≤ i) :
    (putEntry b dst src).u64At (table j * PAGE_SIZE + i) =
      b.memory.u64At (table j * PAGE_SIZE + i) := by
  by_cases hjk : table j = table k
  · unfold putEntry
    rw [hjk, h.cur_eq, put, u64At_overwrite_outside (by omega), put,
      u64At_overwrite_outside (by omega)]
  · exact u64At_of_frame_eq hi (h.frame_putEntry hindex hjk)

theorem u64At_putEntry_self {dst src : Nat} (hdst : dst < 2 ^ 64) (hsrc : src < 2 ^ 64) :
    (putEntry b dst src).u64At (b.curTable + BOUNCE_TABLE_ENTRY_SIZE * b.curIndex) = dst ∧
      (putEntry b dst src).u64At (b.curTable + BOUNCE_TABLE_ENTRY_SIZE * b.curIndex + 8) = src := by
  unfold putEntry
  constructor
  · rw [put, u64At_overwrite_outside (.inr (Nat.le_refl _)), u64At_put hdst]
  · exact u64At_put hsrc

theorem Chain.append (h : Chain pool b table k entries) (hindex : b.curIndex < ENTRIES_PER_TABLE)
    (hdst : dst < 2 ^ 64) (hsrc : Taken pool b.iterator src) (happart : ∀ j ≤ k, src ≠ table j) :
    Chain pool
      { b with
        memory := putEntry b dst src
        curIndex := b.curIndex + 1
        bouncedPages := b.bouncedPages + 1 }
      table k (entries ++ [(dst, src)]) := by
  have hlen := h.length_eq
  have hentries : ENTRIES_PER_TABLE = 255 := rfl
  have hsrcLt : src < 2 ^ 64 := Nat.lt_trans hsrc.lt_max (by decide)
  -- the slots of the entries before are not this one
  have hslot : ∀ j < entries.length, ∀ i,
      i + 8 ≤ BOUNCE_TABLE_ENTRY_SIZE * (j % ENTRIES_PER_TABLE) + 16 →
      (putEntry b dst src).u64At (table (j / ENTRIES_PER_TABLE) * PAGE_SIZE + i) =
        b.memory.u64At (table (j / ENTRIES_PER_TABLE) * PAGE_SIZE + i) := by
    intro j hj i hi
    have hlt : j % ENTRIES_PER_TABLE < 255 := Nat.mod_lt _ (by decide)
    unfold BOUNCE_TABLE_ENTRY_SIZE at hi
    have hpage : PAGE_SIZE = 4096 := rfl
    refine h.u64At_putEntry hindex (by omega) fun hsame => .inl ?_
    have hk : j / ENTRIES_PER_TABLE = k := by
      rcases Nat.lt_or_eq_of_le (h.entry_table hj) with hlt | heq
      · exact absurd hsame (Nat.ne_of_lt (h.table_lt _ _ hlt (Nat.le_refl k)))
      · exact heq
    unfold BOUNCE_TABLE_ENTRY_SIZE
    rw [hentries] at hk hlen hi
    omega
  have hnew : ∀ j, j < (entries ++ [(dst, src)]).length → ¬ j < entries.length →
      j / ENTRIES_PER_TABLE = k ∧ j % ENTRIES_PER_TABLE = b.curIndex ∧
        (entries ++ [(dst, src)])[j]? = some (dst, src) := by
    intro j hj hge
    rw [List.length_append, List.length_singleton] at hj
    obtain rfl : j = entries.length := by omega
    refine ⟨?_, ?_, List.getElem?_concat_length⟩
    · rw [hlen, hentries]
      omega
    · rw [hlen, hentries]
      omega
  obtain ⟨hself, hself'⟩ := @u64At_putEntry_self b dst src hdst hsrcLt
  rw [h.cur_eq] at hself hself'
  rw [Nat.add_assoc] at hself'
  refine ⟨h.inGap, h.first_eq, h.cur_eq, hindex, ?_, ?_, ?_, ?_, h.table_taken, h.table_lt, ?_, ?_⟩
  · rw [List.length_append, List.length_singleton, hlen]
    exact Nat.add_assoc ..
  · rw [List.length_append, List.length_singleton, ← h.bounced_eq]
  · intro j hj
    by_cases hold : j < entries.length
    · rw [List.getElem_append_left hold, ← h.entry_eq j hold]
      exact Prod.ext (hslot j hold _ (by omega)) (hslot j hold _ (by omega))
    · obtain ⟨hk, hcur, hget⟩ := hnew j hj hold
      rw [hk, hcur, (List.getElem?_eq_some_iff.mp hget).2]
      exact Prod.ext hself hself'
  · intro j hj
    refine (h.u64At_putEntry hindex (by decide) fun _ => .inr ?_).trans (h.linked j hj)
    unfold NEXT_BOUNCE_TABLE BOUNCE_TABLE_ENTRY_SIZE
    omega
  · intro e he
    rcases List.mem_append.mp he with he | he
    · exact h.src_taken e he
    · rw [List.mem_singleton.mp he]
      exact hsrc
  · intro e he
    rcases List.mem_append.mp he with he | he
    · exact h.src_apart e he
    · rw [List.mem_singleton.mp he]
      exact happart

theorem Chain.updateBounceEntry (hincr : pool.Increasing) (h : Chain pool b table k entries)
    (hdst : dst < 2 ^ 64) (hsrc : Taken pool b.iterator src) (hapart : ∀ j ≤ k, src ≠ table j)
    (hupdate : b.updateBounceEntry pool dst src = some b') :
    ∃ table' k', Chain pool b' table' k' (entries ++ [(dst, src)]) ∧
      b.iterator.basePfn ≤ b'.iterator.basePfn ∧
      (∀ p, Taken pool b.iterator p → (∀ j ≤ k, p ≠ table j) → ∀ j ≤ k', p ≠ table' j) ∧
      ∀ p, (∀ j ≤ k', p ≠ table' j) → SameFrame b.memory b'.memory p := by
  obtain ⟨b₁, hfind, hb⟩ := Option.map_eq_some_iff.mp hupdate
  unfold BounceTables.findNextBounceEntry at hfind
  split_ifs at hfind with hfull
  · obtain ⟨pfn, hchain, hzero, hbase, hle, hsame⟩ := h.allocNextTable hincr hfull hfind
    have hold : ∀ j ≤ k, Function.update table (k + 1) pfn j = table j := fun j hj =>
      Function.update_of_ne (by omega) _ _
    have hother : ∀ p, Taken pool b.iterator p → (∀ j ≤ k, p ≠ table j) →
        ∀ j ≤ k + 1, p ≠ Function.update table (k + 1) pfn j := by
      intro p hp hne j hj
      rcases Nat.lt_or_eq_of_le hj with hlt | rfl
      · rw [hold j (by omega)]
        exact hne j (by omega)
      · rw [Function.update_self]
        exact Nat.ne_of_lt (Nat.lt_of_le_of_lt hp.le_base hbase)
    have hindex : b₁.curIndex < ENTRIES_PER_TABLE := by
      rw [hzero]
      decide
    cases hb
    refine ⟨_, _, hchain.append hindex hdst (hsrc.later hle) (hother src hsrc hapart), hle, hother,
      fun p hp => ?_⟩
    have hpk : p ≠ table k := hold k (Nat.le_refl k) ▸ hp k (Nat.le_succ k)
    exact (hchain.frame_putEntry hindex (hp _ (Nat.le_refl _))).trans (hsame p hpk)
  · cases hfind
    have hindex : b.curIndex < ENTRIES_PER_TABLE := Nat.lt_of_le_of_ne h.index_le hfull
    cases hb
    exact ⟨table, k, h.append hindex hdst hsrc hapart, Nat.le_refl _, fun _ _ hp => hp,
      fun p hp => h.frame_putEntry hindex (hp k (Nat.le_refl k))⟩

end Chain

/-! ### Where the pages are -/

/-- The number of pages that the thread has put where they belong, or in a bounce page with its
    entry. -/
def Worker.placed (w : Worker) : Nat :=
  match w.pc with
  | .copy _ | .acquire _ | .bounce _ | .update _ _ => w.handed.length - 1
  | _ => w.handed.length

section Placed

variable (env : RestoreEnv)

def PlacedPage (memory : Bytes) (entries : List (Nat × Nat)) (h : HandedPage) : Prop :=
  if env.pool.isFree h.dstPfn then memory.frame PAGE_SIZE h.dstPfn = h.page
  else ∃ src, (h.dstPfn, src) ∈ entries ∧ memory.frame PAGE_SIZE src = h.page

def RestoreEnv.pfn (t j : Nat) : Nat := env.pool.pfnArray ((env.info t).kernelPfnIndexes + j)

structure RestoreEnv.Parts : Prop where
  le : ∀ t < env.cores, (env.info t).kernelPfnIndexes + (env.info t).numPages ≤ env.pool.nrCopyPages
  apart : ∀ t < env.cores, ∀ u < env.cores, t < u →
    (env.info t).kernelPfnIndexes + (env.info t).numPages ≤ (env.info u).kernelPfnIndexes

/-- The frames of the threads are apart, and the image has its pages once and in order. -/
structure RestoreEnv.Orderly : Prop where
  separate : env.Separate
  increasing : env.pool.Increasing
  parts : env.Parts

/-- The page that the thread is about to put somewhere is the last one it has handed over. -/
structure Handing (memory : Bytes) (t : Nat) (w : Worker) (dstPfn : Nat) : Prop
    extends InHand env t memory w dstPfn where
  get_last : w.handed[w.handed.length - 1]? =
    some ⟨w.offset, dstPfn, memory.frame PAGE_SIZE w.srcPfn⟩
  handed_pos : 0 < w.handed.length
  dst_eq : dstPfn = env.pfn t (w.handed.length - 1)
  num_lt : w.handed.length - 1 < (env.info t).numPages
  placed_eq : w.placed = w.handed.length - 1

/-- The thread has copied its page to this bounce page, but the entry is still missing. -/
structure Pending (s : RestoreState) (table : Nat → Nat) (k t bouncePfn : Nat) : Prop where
  taken : Taken env.pool s.tables.iterator bouncePfn
  apart : ∀ j ≤ k, bouncePfn ≠ table j
  page_eq : s.memory.frame PAGE_SIZE bouncePfn = s.memory.frame PAGE_SIZE (s.workers t).srcPfn

structure MemoryInv (s : RestoreState) (table : Nat → Nat) (k : Nat) (entries : List (Nat × Nat)) :
    Prop where
  chain : Chain env.pool s.tables table k entries
  pending : ∀ t < env.cores, ∀ dstPfn bouncePfn, (s.workers t).pc = .update dstPfn bouncePfn →
    Pending env s table k t bouncePfn
  placed : ∀ t < env.cores, ∀ j < (s.workers t).placed, ∀ h,
    (s.workers t).handed[j]? = some h → PlacedPage env s.memory entries h
  entries_from : ∀ e ∈ entries, env.pool.isFree e.1 = false ∧
    ∃ t < env.cores, ∃ j < (s.workers t).placed, e.1 = env.pfn t j
  nodup : (entries.map Prod.fst).Nodup

def Kept (s : RestoreState) (entries : List (Nat × Nat)) (p : Nat) : Prop :=
  (∃ e ∈ entries, p = e.2) ∨
  (∃ t < env.cores, ∃ dstPfn, (s.workers t).pc = .update dstPfn p) ∨
  ∃ t < env.cores, ∃ j < (s.workers t).placed, env.pool.isFree (env.pfn t j) = true ∧
    p = env.pfn t j

end Placed

section MemoryInv

variable {env : RestoreEnv} {s s' : RestoreState} {table table' : Nat → Nat} {k k' t : Nat}
  {entries entries' : List (Nat × Nat)}

theorem Worker.placed_le (w : Worker) : w.placed ≤ w.handed.length := by
  unfold Worker.placed
  split <;> omega

variable {j u p dstPfn : Nat} {memory : Bytes} {w w' : Worker} {it : KernelPfnIterator}
  {s₁ : RestoreState}

theorem WorkerInv.handed_pfn {h : HandedPage} (hinv : WorkerInv env t memory w)
    (hj : w.handed[j]? = some h) : h.dstPfn = env.pfn t j ∧ j < (env.info t).numPages :=
  ⟨(hinv.handed_right j h hj).dstPfn_eq,
    Nat.lt_of_lt_of_le (List.getElem?_eq_some_iff.mp hj).1 hinv.handed_le⟩

theorem RestoreEnv.Parts.index_lt (hparts : env.Parts) (ht : t < env.cores)
    (hj : j < (env.info t).numPages) :
    (env.info t).kernelPfnIndexes + j < env.pool.nrCopyPages := by
  have hle := hparts.le t ht
  omega

theorem RestoreEnv.Parts.pfn_lt (hparts : env.Parts) (hincr : env.pool.Increasing)
    (ht : t < env.cores) (hj : j < (env.info t).numPages) : env.pfn t j < MAX_PFN :=
  hincr.pfn_lt (hparts.index_lt ht hj)

theorem RestoreEnv.Parts.pfn_inj (hparts : env.Parts) (hincr : env.pool.Increasing) {i : Nat}
    (ht : t < env.cores) (hu : u < env.cores) (hi : i < (env.info t).numPages)
    (hj : j < (env.info u).numPages) (h : env.pfn t i = env.pfn u j) : t = u ∧ i = j := by
  have hindex := hincr.inj (hparts.index_lt ht hi) (hparts.index_lt hu hj) h
  rcases Nat.lt_trichotomy t u with hlt | rfl | hgt
  · have := hparts.apart t ht u hu hlt
    omega
  · exact ⟨rfl, by omega⟩
  · have := hparts.apart u hu t ht hgt
    omega

theorem RestoreEnv.Parts.pfn_not_taken (hparts : env.Parts) (ht : t < env.cores)
    (hj : j < (env.info t).numPages) (hp : Taken env.pool it p) :
    p ≠ env.pfn t j := fun h => hp.not_image _ (hparts.index_lt ht hj) h.symm

theorem MemoryInv.kept_cases (h : MemoryInv env s table k entries) (hp : Kept env s entries p) :
    (Taken env.pool s.tables.iterator p ∧ ∀ j ≤ k, p ≠ table j) ∨
      ∃ t < env.cores, ∃ j < (s.workers t).placed,
        env.pool.isFree (env.pfn t j) = true ∧ p = env.pfn t j := by
  rcases hp with ⟨e, he, rfl⟩ | ⟨t, ht, dstPfn, hpc⟩ | hplaced
  · exact .inl ⟨h.chain.src_taken e he, h.chain.src_apart e he⟩
  · have hpending := h.pending t ht dstPfn p hpc
    exact .inl ⟨hpending.taken, hpending.apart⟩
  · exact .inr hplaced

theorem Moved.sameFrame_src {bouncePfn : Nat} (hmoved : Moved env t s s') (hinv : RestoreInv env s)
    (hsep : env.Separate) (ht : t < env.cores) (hu : u < env.cores) (hut : u ≠ t)
    (hpc : (s.workers u).pc = .update dstPfn bouncePfn) :
    SameFrame s.memory s'.memory (s.workers u).srcPfn := by
  exact hmoved.sameFrame hsep ht hinv.table (hinv.workers t ht)
    (hsep.not_mayWrite ht hu (Ne.symm hut) ((hinv.workers u hu).at hpc).2.src_inBuffer)

section

variable (h : MemoryInv env s table k entries) (hinv : RestoreInv env s) (hsep : env.Separate)
  (ht : t < env.cores) (hmoved : Moved env t s (s₁.setWorker t w'))
include h hinv hsep ht hmoved

theorem MemoryInv.next (hchain : Chain env.pool s₁.tables table' k' entries')
    (hsub : entries ⊆ entries') (hbase : s.tables.iterator.basePfn ≤ s₁.tables.iterator.basePfn)
    (hapart : ∀ p, Taken env.pool s.tables.iterator p → (∀ j ≤ k, p ≠ table j) →
      ∀ j ≤ k', p ≠ table' j) (hle : (s.workers t).placed ≤ w'.placed)
    (hhanded : ∀ j < (s.workers t).placed, w'.handed[j]? = (s.workers t).handed[j]?)
    (hkept : ∀ p, Kept env s entries p → SameFrame s.memory s₁.memory p)
    (hnew : ∀ j, (s.workers t).placed ≤ j → j < w'.placed → ∀ h, w'.handed[j]? = some h →
      PlacedPage env s₁.memory entries' h)
    (hpending : ∀ dstPfn bouncePfn, w'.pc = .update dstPfn bouncePfn →
      Pending env (s₁.setWorker t w') table' k' t bouncePfn)
    (hfrom : ∀ e ∈ entries', e ∈ entries ∨ env.pool.isFree e.1 = false ∧
      ∃ j < w'.placed, e.1 = env.pfn t j) (hnodup : (entries'.map Prod.fst).Nodup) :
    MemoryInv env (s₁.setWorker t w') table' k' entries' := by
  have hself : (s₁.setWorker t w').workers t = w' := setWorker_workers_self
  have hold : ∀ u < env.cores, ∀ j < (s.workers u).placed, ∀ handed,
      (s.workers u).handed[j]? = some handed → PlacedPage env s₁.memory entries' handed := by
    intro u hu j hj handed hget
    have hplaced := h.placed u hu j hj handed hget
    obtain ⟨hdst, -⟩ := (hinv.workers u hu).handed_pfn hget
    unfold PlacedPage at hplaced ⊢
    split at hplaced
    · rename_i hfree
      rw [if_pos hfree, hdst, hkept _ (.inr (.inr ⟨u, hu, j, hj, hdst ▸ hfree, rfl⟩)), ← hdst]
      exact hplaced
    · rename_i hnot
      obtain ⟨src, hmem, hpage⟩ := hplaced
      rw [if_neg hnot]
      exact ⟨src, hsub hmem, (hkept src (.inl ⟨_, hmem, rfl⟩)).trans hpage⟩
  refine ⟨hchain, ?_, ?_, ?_, hnodup⟩
  · intro u hu dstPfn bouncePfn hpc
    by_cases hut : u = t
    · subst hut
      exact hpending dstPfn bouncePfn (hself ▸ hpc)
    · have hsame := hmoved.others hut
      rw [hsame] at hpc
      have hbefore := h.pending u hu dstPfn bouncePfn hpc
      refine ⟨hbefore.taken.later hbase, hapart _ hbefore.taken hbefore.apart, ?_⟩
      rw [hsame, hmoved.sameFrame_src hinv hsep ht hu hut hpc]
      exact (hkept _ (.inr (.inl ⟨u, hu, dstPfn, hpc⟩))).trans hbefore.page_eq
  · intro u hu j hj handed hget
    by_cases hut : u = t
    · subst hut
      rw [hself] at hj hget
      rcases Nat.lt_or_ge j (s.workers u).placed with hlt | hge
      · rw [hhanded j hlt] at hget
        exact hold u hu j hlt handed hget
      · exact hnew j hge hj handed hget
    · rw [hmoved.others hut] at hj hget
      exact hold u hu j hj handed hget
  · intro e he
    rcases hfrom e he with hmem | ⟨hfree, j, hj, heq⟩
    · obtain ⟨hfree, u, hu, j, hj, heq⟩ := h.entries_from e hmem
      refine ⟨hfree, u, hu, j, ?_, heq⟩
      by_cases hut : u = t
      · subst hut
        rw [hself]
        omega
      · rw [hmoved.others hut]
        exact hj
    · exact ⟨hfree, t, ht, j, hself.symm ▸ hj, heq⟩

theorem MemoryInv.quiet (htables : s₁.tables = { s.tables with memory := s₁.memory })
    (hplaced : w'.placed = (s.workers t).placed)
    (hhanded : ∀ j < (s.workers t).placed, w'.handed[j]? = (s.workers t).handed[j]?)
    (hpc : ∀ dstPfn bouncePfn, w'.pc ≠ .update dstPfn bouncePfn)
    (hkept : ∀ p, Kept env s entries p → SameFrame s.memory s₁.memory p)
    (htable : ∀ j ≤ k, SameFrame s.memory s₁.memory (table j)) :
    MemoryInv env (s₁.setWorker t w') table k entries := by
  have hchain : Chain env.pool s₁.tables table k entries := by
    rw [htables]
    exact h.chain.changes h.chain.inGap (Nat.le_refl _) htable
  refine h.next hinv hsep ht hmoved hchain (List.Subset.refl _) ?_ (fun _ _ hp => hp)
    (Nat.le_of_eq hplaced.symm) hhanded hkept ?_ ?_ (fun e he => .inl he) h.nodup
  · exact Nat.le_of_eq (by rw [htables])
  · intro j hge hlt
    omega
  · intro dstPfn bouncePfn hupdate
    exact absurd hupdate (hpc dstPfn bouncePfn)

end

theorem Moved.placed_reading (hmoved : Moved env t s s')
    (hpc : (s.workers t).pc = .loop ∨ (s.workers t).pc = .page) :
    s'.tables = { s.tables with memory := s'.memory } ∧
      (s'.workers t).placed = (s.workers t).placed ∧
      (∀ j < (s.workers t).placed, (s'.workers t).handed[j]? = (s.workers t).handed[j]?) ∧
      ∀ dstPfn bouncePfn, (s'.workers t).pc ≠ .update dstPfn bouncePfn := by
  have hlength : (s.workers t).placed = (s.workers t).handed.length := by
    unfold Worker.placed
    rcases hpc with hpc | hpc <;> rw [hpc]
  rw [hlength]
  cases hmoved with
  | finish | readFails | read | runEnds | skip =>
    rw [setWorker_workers_self]
    exact ⟨rfl, rfl, fun _ _ => rfl, fun _ _ => WorkerPc.noConfusion⟩
  | decryptFails hpc hread hmap haes iv tempOut =>
    rw [setWorker_workers_self]
    cases tempOut <;> exact ⟨rfl, rfl, fun _ _ => rfl, fun _ _ => WorkerPc.noConfusion⟩
  | hand | decrypt =>
    unfold copyPageToDst
    rw [setWorker_workers_self]
    refine ⟨rfl, ?_, fun j hj => List.getElem?_append_left hj, ?_⟩
    · cases env.pool.isFree ((s.workers t).dstPfn env t) <;> simp [Worker.placed, Worker.take]
    · split <;> exact fun _ _ => WorkerPc.noConfusion
  | copy dstPfn hpc' | acquire dstPfn hpc' | bounce dstPfn bouncePfn it hpc'
  | update dstPfn bouncePfn tables hpc' | release hpc' =>
    rw [hpc'] at hpc
    simp at hpc

theorem Taken.freeFrame (h : Taken env.pool it p) : env.FreeFrame p :=
  h.frame_eq ▸ RestoreEnv.isFree_iff.mp h.free

theorem RestoreInv.placed_lt (hinv : RestoreInv env s) (ht : t < env.cores)
    (hj : j < (s.workers t).placed) : j < (env.info t).numPages :=
  Nat.lt_of_lt_of_le hj (Nat.le_trans (Worker.placed_le _) (hinv.workers t ht).handed_le)

theorem WorkerInv.handing (hinv : WorkerInv env t memory w)
    (hpc : w.pc = .copy dstPfn ∨ w.pc = .bounce dstPfn ∨ ∃ p, w.pc = .update dstPfn p) :
    Handing env memory t w dstPfn := by
  have hne : w.pc ≠ .done := by
    rcases hpc with hpc | hpc | ⟨p, hpc⟩ <;> simp [hpc]
  have hhand : InHand env t memory w dstPfn := by
    rcases hpc with hpc | hpc | ⟨p, hpc⟩ <;> exact (hinv.at hpc).2
  obtain ⟨hlength, -⟩ := hinv.counts_of_ne hne
  obtain ⟨hdst, hlt⟩ := hinv.dst_eq hne hhand
  have hlast := hhand.last
  rw [List.getLast?_eq_getElem?] at hlast
  rw [← hlength] at hdst hlt
  refine ⟨hhand, hlast, hlength ▸ hhand.index_pos, hdst, hlt, ?_⟩
  unfold Worker.placed
  rcases hpc with hpc | hpc | ⟨p, hpc⟩ <;> rw [hpc]

theorem Handing.places {memory' : Bytes} (h : Handing env memory t w dstPfn)
    (hsame : w'.handed = w.handed) (hplaced : w'.placed = w.handed.length)
    (hpage : PlacedPage env memory' entries ⟨w.offset, dstPfn, memory.frame PAGE_SIZE w.srcPfn⟩) :
    ∀ j, w.placed ≤ j → j < w'.placed → ∀ handed, w'.handed[j]? = some handed →
      PlacedPage env memory' entries handed := by
  intro j hge hlt handed hget
  rw [h.placed_eq] at hge
  obtain rfl : j = w.handed.length - 1 := by omega
  rw [hsame, h.get_last] at hget
  cases hget
  exact hpage

section Steps

variable (h : MemoryInv env s table k entries) (hinv : RestoreInv env s) (henv : env.Orderly)
include h hinv henv

theorem MemoryInv.kept_free {p : Nat} (hp : Kept env s entries p) : env.FreeFrame p := by
  rcases h.kept_cases hp with ⟨htaken, -⟩ | ⟨u, hu, j, hj, hfree, rfl⟩
  · exact htaken.freeFrame
  · have hlt := henv.parts.pfn_lt henv.increasing hu (hinv.placed_lt hu hj)
    have hframe := RestoreEnv.isFree_iff.mp hfree
    rwa [pfnFrame_of_lt hlt] at hframe

variable (ht : t < env.cores)
include ht

theorem MemoryInv.reading (hmoved : Moved env t s s')
    (hpc : (s.workers t).pc = .loop ∨ (s.workers t).pc = .page) :
    MemoryInv env s' table k entries := by
  have hsep := henv.separate
  obtain ⟨htables, hplaced, hhanded, hupdate⟩ := hmoved.placed_reading hpc
  have hfree : ∀ p, env.FreeFrame p → SameFrame s.memory s'.memory p := by
    intro p hp
    refine hmoved.sameFrame_reading hsep ht (hinv.workers t ht) hpc ?_ ?_
    · exact fun hin => hsep.buffer_not_free t ht p hin hp
    · rintro haes rfl
      exact hsep.tempOut_not_free haes t ht hp
  have hself : s'.setWorker t (s'.workers t) = s' := by
    rw [setWorker, Function.update_eq_self]
  rw [← hself]
  exact h.quiet hinv hsep ht (hself.symm ▸ hmoved) htables hplaced hhanded hupdate
    (fun p hp => hfree p (h.kept_free hinv henv hp))
    fun j hj => hfree _ (h.chain.table_taken j hj).freeFrame

theorem MemoryInv.copies {dstPfn : Nat} (hpc : (s.workers t).pc = .copy dstPfn) :
    MemoryInv env ((s.setMemory (copyPage s.memory (s.workers t).srcPfn dstPfn)).setWorker t
      (s.workers t).advance) table k entries := by
  have hparts := henv.parts
  have hhand := (hinv.workers t ht).handing (.inl hpc)
  have hdstLt : dstPfn < MAX_PFN := hhand.dst_eq ▸ hparts.pfn_lt henv.increasing ht hhand.num_lt
  have hsrcLt := Nat.lt_of_lt_of_le hhand.src_inBuffer.2 (henv.separate.buffer_le t ht)
  have hother : ∀ p, p ≠ dstPfn →
      SameFrame s.memory (copyPage s.memory (s.workers t).srcPfn dstPfn) p := by
    intro p hp
    exact frame_copyPage_other (by rw [pfnFrame_of_lt hdstLt]; exact hp)
  have htaken : ∀ p, Taken env.pool s.tables.iterator p → p ≠ dstPfn := fun p hp =>
    hhand.dst_eq ▸ hparts.pfn_not_taken ht hhand.num_lt hp
  refine h.next hinv henv.separate ht (.copy dstPfn hpc) ?_ (List.Subset.refl _) (Nat.le_refl _)
    (fun _ _ hp => hp) ?_ (fun _ _ => rfl) ?_ (hhand.places rfl rfl ?_)
    (fun _ _ => WorkerPc.noConfusion) (fun e he => .inl he) h.nodup
  · exact h.chain.changes h.chain.inGap (Nat.le_refl _)
      fun j hj => hother _ (htaken _ (h.chain.table_taken j hj))
  · rw [hhand.placed_eq]
    exact Nat.sub_le _ _
  · intro p hp
    refine hother p ?_
    rcases h.kept_cases hp with ⟨hp, -⟩ | ⟨u, hu, j, hj, -, rfl⟩
    · exact htaken p hp
    · intro heq
      obtain ⟨rfl, rfl⟩ := hparts.pfn_inj henv.increasing hu ht (hinv.placed_lt hu hj) hhand.num_lt
        (heq.trans hhand.dst_eq)
      exact absurd hj (Nat.not_lt.mpr (Nat.le_of_eq hhand.placed_eq))
  · unfold PlacedPage
    dsimp only
    rw [if_pos ((hinv.workers t ht).at hpc).1]
    have hcopy : (copyPage s.memory (s.workers t).srcPfn dstPfn).frame PAGE_SIZE (pfnFrame dstPfn) =
      s.memory.frame PAGE_SIZE (pfnFrame (s.workers t).srcPfn) := frame_copyPage
    rwa [pfnFrame_of_lt hdstLt, pfnFrame_of_lt hsrcLt] at hcopy

theorem MemoryInv.bounces {dstPfn bouncePfn : Nat} {it : KernelPfnIterator}
    (hpc : (s.workers t).pc = .bounce dstPfn)
    (hget : env.pool.getUnusedPfn s.tables.iterator = some (bouncePfn, it)) :
    MemoryInv env ({ s with tables := { s.tables with
        memory := copyPage s.memory (s.workers t).srcPfn bouncePfn
        iterator := it } }.setWorker t { s.workers t with pc := .update dstPfn bouncePfn })
      table k entries := by
  obtain ⟨hfresh, hfree⟩ := henv.increasing.getUnusedPfn_fresh h.chain.inGap hget
  have hhand := (hinv.workers t ht).handing (.inr (.inl hpc))
  have hsrc := hhand.src_inBuffer
  have hsrcLt := Nat.lt_of_lt_of_le hsrc.2 (henv.separate.buffer_le t ht)
  have htakenNew := hfresh.taken hfree
  have hother : ∀ p, p ≠ bouncePfn →
      SameFrame s.memory (copyPage s.memory (s.workers t).srcPfn bouncePfn) p := by
    intro p hp
    exact frame_copyPage_other (by rw [htakenNew.frame_eq]; exact hp)
  refine h.next hinv henv.separate ht (.bounce dstPfn bouncePfn it hpc hget) ?_ (List.Subset.refl _)
    hfresh.base_le (fun _ _ hp => hp) (Nat.le_of_eq hhand.placed_eq) (fun _ _ => rfl) ?_ ?_ ?_
    (fun e he => .inl he) h.nodup
  · exact h.chain.changes hfresh.inGap hfresh.base_le
      fun j hj => hother _ (hfresh.ne_taken (h.chain.table_taken j hj))
  · intro p hp
    refine hother p ?_
    rcases h.kept_cases hp with ⟨hp, -⟩ | ⟨u, hu, j, hj, -, rfl⟩
    · exact hfresh.ne_taken hp
    · exact (henv.parts.pfn_not_taken hu (hinv.placed_lt hu hj) htakenNew).symm
  · intro j hge hlt
    rw [hhand.placed_eq] at hge
    exact absurd hlt (Nat.not_lt.mpr hge)
  · rintro _ _ ⟨⟩
    refine ⟨htakenNew, fun j hj => (hfresh.ne_taken (h.chain.table_taken j hj)).symm, ?_⟩
    rw [setWorker_workers_self]
    have hcopy : (copyPage s.memory (s.workers t).srcPfn bouncePfn).frame PAGE_SIZE
        (pfnFrame bouncePfn) = s.memory.frame PAGE_SIZE (pfnFrame (s.workers t).srcPfn) :=
      frame_copyPage
    rw [htakenNew.frame_eq, pfnFrame_of_lt hsrcLt] at hcopy
    -- the page itself stays in the buffer
    have hkeep : SameFrame s.memory (copyPage s.memory (s.workers t).srcPfn bouncePfn)
        (s.workers t).srcPfn :=
      henv.separate.sameFrame_copyPage ht (RestoreEnv.isFree_iff.mp hfree) hsrc
    exact hcopy.trans hkeep.symm

theorem MemoryInv.updates {dstPfn bouncePfn : Nat} {tables : BounceTables}
    (hpc : (s.workers t).pc = .update dstPfn bouncePfn)
    (hentry : s.tables.updateBounceEntry env.pool dstPfn bouncePfn = some tables) :
    ∃ table' k', MemoryInv env
      ({ s with tables := tables }.setWorker t { s.workers t with pc := .release })
      table' k' (entries ++ [(dstPfn, bouncePfn)]) := by
  have hparts := henv.parts
  have hnot := ((hinv.workers t ht).at hpc).1
  have hhand := (hinv.workers t ht).handing (.inr (.inr ⟨_, hpc⟩))
  have hpend := h.pending t ht dstPfn bouncePfn hpc
  have hdstLt : dstPfn < MAX_PFN := hhand.dst_eq ▸ hparts.pfn_lt henv.increasing ht hhand.num_lt
  obtain ⟨table', k', hchain, hbase, hapart, hsame⟩ := h.chain.updateBounceEntry henv.increasing
    (Nat.lt_trans hdstLt (by decide)) hpend.taken hpend.apart hentry
  have hkept : ∀ p, Kept env s entries p → SameFrame s.memory tables.memory p := by
    intro p hp
    refine hsame p ?_
    rcases h.kept_cases hp with ⟨htaken, hne⟩ | ⟨u, hu, j, hj, -, rfl⟩
    · exact hapart p htaken hne
    · intro i hi
      exact (hparts.pfn_not_taken hu (hinv.placed_lt hu hj) (hchain.table_taken i hi)).symm
  refine ⟨table', k', h.next hinv henv.separate ht (.update dstPfn bouncePfn tables hpc hentry)
    hchain
    (List.subset_append_left _ _) hbase hapart ?_ (fun _ _ => rfl) hkept (hhand.places rfl rfl ?_)
    (fun _ _ => WorkerPc.noConfusion) ?_ ?_⟩
  · rw [hhand.placed_eq]
    exact Nat.sub_le _ _
  · unfold PlacedPage
    dsimp only
    rw [if_neg (by rw [hnot]; exact Bool.false_ne_true)]
    refine ⟨bouncePfn, List.mem_append_right _ List.mem_cons_self, ?_⟩
    exact (hkept bouncePfn (.inr (.inl ⟨t, ht, dstPfn, hpc⟩))).trans hpend.page_eq
  · intro e he
    rcases List.mem_append.mp he with hmem | hmem
    · exact .inl hmem
    · rw [List.mem_singleton.mp hmem]
      exact .inr ⟨hnot, _, Nat.sub_lt hhand.handed_pos Nat.one_pos, hhand.dst_eq⟩
  · -- the page has had no entry before
    rw [List.map_append, List.map_singleton]
    refine List.nodup_append.mpr ⟨h.nodup, by simp, ?_⟩
    intro dst hmem dst' hmem'
    rw [List.mem_singleton.mp hmem']
    obtain ⟨e, he, rfl⟩ := List.mem_map.mp hmem
    obtain ⟨-, u, hu, j, hj, heq⟩ := h.entries_from e he
    intro hsameDst
    obtain ⟨rfl, rfl⟩ := hparts.pfn_inj henv.increasing hu ht (hinv.placed_lt hu hj) hhand.num_lt
      (heq.symm.trans (hsameDst.trans hhand.dst_eq))
    exact absurd hj (Nat.not_lt.mpr (Nat.le_of_eq hhand.placed_eq))

theorem MemoryInv.step (hmoved : Moved env t s s') :
    ∃ table' k' entries', MemoryInv env s' table' k' entries' := by
  have hreading : (s.workers t).pc = .loop ∨ (s.workers t).pc = .page →
      ∃ table' k' entries', MemoryInv env s' table' k' entries' := fun hpc =>
    ⟨table, k, entries, h.reading hinv henv ht hmoved hpc⟩
  have hmoved' := hmoved
  cases hmoved with
  | finish hpc | readFails hpc | read hpc => exact hreading (.inl hpc)
  | runEnds hpc | skip hpc | hand hpc | decryptFails hpc | decrypt hpc => exact hreading (.inr hpc)
  | copy dstPfn hpc => exact ⟨table, k, entries, h.copies hinv henv ht hpc⟩
  | acquire dstPfn hpc hmutex =>
    refine ⟨table, k, entries, h.quiet hinv henv.separate ht hmoved' rfl ?_ (fun _ _ => rfl)
      (fun _ _ => WorkerPc.noConfusion) (fun _ _ => rfl) fun _ _ => rfl⟩
    unfold Worker.placed
    rw [hpc]
  | bounce dstPfn bouncePfn it hpc hget =>
    exact ⟨table, k, entries, h.bounces hinv henv ht hpc hget⟩
  | update dstPfn bouncePfn tables hpc hentry =>
    obtain ⟨table', k', hnext⟩ := h.updates hinv henv ht hpc hentry
    exact ⟨table', k', _, hnext⟩
  | release hpc =>
    refine ⟨table, k, entries, h.quiet hinv henv.separate ht hmoved' rfl ?_ (fun _ _ => rfl)
      (fun _ _ => WorkerPc.noConfusion) (fun _ _ => rfl) fun _ _ => rfl⟩
    unfold Worker.placed
    rw [hpc]
    rfl

end Steps

end MemoryInv

/-! ### The frames that change -/

/-- The frames of the image, the frames from `GetUnusedPfn`, the buffers, and with AES support the
    pages for the decryption. -/
def RestoreWrites (env : RestoreEnv) (p : Nat) : Prop :=
  (∃ i < env.pool.nrCopyPages, p = env.pool.pfnArray i) ∨ env.pool.Obtained p ∨
    (∃ t < env.cores, env.InBuffer t p) ∨
    env.aes.isSome = true ∧ ∃ t < env.cores, p = (env.info t).tempOut

section RestoreWrites

variable {env : RestoreEnv} {s₀ s s' : RestoreState} {t p : Nat}

theorem MayWrite.written (h : MayWrite env t p) (henv : env.Orderly) (ht : t < env.cores) :
    RestoreWrites env p := by
  rcases h with hin | ⟨haes, rfl⟩ | hob | ⟨-, i, hi, rfl⟩
  · exact .inr (.inr (.inl ⟨t, ht, hin⟩))
  · exact .inr (.inr (.inr ⟨haes, t, ht, rfl⟩))
  · exact .inr (.inl hob)
  · rw [pfnFrame_of_lt (henv.increasing.pfn_lt (henv.parts.index_lt ht hi))]
    exact .inl ⟨_, henv.parts.index_lt ht hi, rfl⟩

structure RunInv (env : RestoreEnv) (s₀ s : RestoreState) : Prop where
  restore : RestoreInv env s
  memory : ∃ table k entries, MemoryInv env s table k entries
  same : ∀ p, ¬ RestoreWrites env p → SameFrame s₀.memory s.memory p

theorem RunInv.step (h : RunInv env s₀ s) (hsound : env.Sound) (henv : env.Orderly)
    (hnoticed : ReadNoticed env s t)
    (hstep : restoreMachine env s t = some s') : RunInv env s₀ s' := by
  obtain ⟨ht, -, hmoved⟩ := restoreMachine_moved hstep
  obtain ⟨table, k, entries, hmemory⟩ := h.memory
  refine ⟨h.restore.step hsound hnoticed hstep,
    hmemory.step h.restore henv ht hmoved, fun p hp => ?_⟩
  have hmove := hmoved.sameFrame hsound.separate ht h.restore.table (h.restore.workers t ht)
    fun hmay => hp (hmay.written henv ht)
  exact hmove.trans (h.same p hp)

end RestoreWrites

section Start

variable {platform : RestorePlatform} {image nrCopyPages offset auth : Nat}
  {aes : Option AesContext} {pfnArray : Bytes} {iv : List UInt8} {env : RestoreEnv}
  {s₀ : RestoreState}

theorem Started.parts (h : Started platform image nrCopyPages aes pfnArray offset iv auth env s₀) :
    env.Parts := by
  have hfields : ∀ t < env.cores,
      (env.info t).kernelPfnIndexes = pagesBefore env.cores nrCopyPages t ∧
      (env.info t).numPages = pagesPerCore env.cores nrCopyPages t := by
    intro t ht
    obtain ⟨hkernel, -, hnum, -, -⟩ := restoreInfo_fields (h.info_eq t ht)
    rw [h.cores_eq]
    exact ⟨hkernel, hnum⟩
  refine ⟨?_, ?_⟩
  · intro t ht
    obtain ⟨hkernel, hnum⟩ := hfields t ht
    rw [hkernel, hnum, h.nrCopyPages_eq]
    rw [h.cores_eq] at ht ⊢
    exact pagesBefore_add_le platform.numCores_eq ht
  · intro t ht u hu htu
    obtain ⟨hkernel, hnum⟩ := hfields t ht
    rw [hkernel, hnum, (hfields u hu).1, ← pagesBefore_succ]
    exact pagesBefore_mono htu

theorem PfnPool.nrCopyPages_pos {pool : PfnPool} {pfn : Nat} {it : KernelPfnIterator}
    (hget : pool.getUnusedPfn ⟨0, 0, 0⟩ = some (pfn, it)) : 0 < pool.nrCopyPages := by
  refine Nat.pos_of_ne_zero fun hzero => ?_
  rw [getUnusedPfn_eq] at hget
  simp [getUnusedKernelPfn, hzero, findNextAvailableBlock] at hget

theorem PfnPool.start_inGap {pool : PfnPool} {pfn : Nat} {it : KernelPfnIterator}
    (hget : pool.getUnusedPfn ⟨0, 0, 0⟩ = some (pfn, it)) : pool.InGap ⟨0, 0, 0⟩ :=
  ⟨PfnPool.nrCopyPages_pos hget, Nat.zero_le _, fun h => absurd h (Nat.lt_irrefl 0)⟩

theorem Started.runInv (h : Started platform image nrCopyPages aes pfnArray offset iv auth env s₀)
    (hincr : env.pool.Increasing) (hrange : ∀ t < env.cores, env.InRange t) : RunInv env s₀ s₀ := by
  refine ⟨h.inv hrange, ?_, fun _ _ => rfl⟩
  obtain ⟨pfn, it, hget, htables⟩ := h.tables_eq
  obtain ⟨hfresh, hfree⟩ := hincr.getUnusedPfn_fresh (PfnPool.start_inGap hget) hget
  have hnone : ∀ t, (s₀.workers t).placed = 0 := by
    intro t
    rw [h.workers_eq]
    rfl
  refine ⟨fun _ => pfn, 0, [], ?_, ?_, ?_, nofun, List.nodup_nil⟩
  · rw [htables]
    refine ⟨hfresh.inGap, pfnAddr_of_lt hfresh.pfn_lt, pfnAddr_of_lt hfresh.pfn_lt,
      Nat.zero_le _, rfl, rfl, nofun, nofun, fun _ _ => hfresh.taken hfree, ?_, nofun, nofun⟩
    intro i j hij hj
    omega
  · intro t _ dstPfn bouncePfn hpc
    rw [h.workers_eq] at hpc
    exact nomatch hpc
  · intro t _ j hj
    rw [hnone] at hj
    exact absurd hj (Nat.not_lt_zero j)

end Start

/-! ### The replay -/

/-- The memory in which the kernel is entered: `JumpToKernel` on the tables that were recorded. -/
def RestoreState.replayed (s : RestoreState) : Bytes :=
  jumpToKernel (s.tables.bouncedPages + 1) s.memory s.tables.firstTable s.tables.bouncedPages

section Replayed

variable {env : RestoreEnv} {s₀ s : RestoreState} {table : Nat → Nat} {k : Nat}
  {entries : List (Nat × Nat)}

variable (h : MemoryInv env s table k entries) (hinv : RestoreInv env s) (henv : env.Orderly)
include h hinv henv

theorem MemoryInv.dst_eq {e : Nat × Nat} (he : e ∈ entries) :
    ∃ i < env.pool.nrCopyPages, e.1 = env.pool.pfnArray i := by
  obtain ⟨-, t, ht, j, hj, heq⟩ := h.entries_from e he
  exact ⟨_, henv.parts.index_lt ht (hinv.placed_lt ht hj), heq⟩

theorem MemoryInv.replayable : Replayable entries := by
  refine ⟨fun e he => ?_, h.nodup, fun e he e' he' => ?_⟩
  · obtain ⟨i, hi, heq⟩ := h.dst_eq hinv henv he
    exact ⟨heq ▸ henv.increasing.pfn_lt hi, (h.chain.src_taken e he).lt_max⟩
  · obtain ⟨i, hi, heq⟩ := h.dst_eq hinv henv he
    rw [heq]
    exact (h.chain.src_taken e' he').not_image i hi

theorem MemoryInv.replayed_eq : s.replayed = replay s.memory entries := by
  have htables : ∀ j, ENTRIES_PER_TABLE * j < entries.length → table j ∉ entries.map Prod.fst := by
    intro j hj hmem
    obtain ⟨e, he, heq⟩ := List.mem_map.mp hmem
    obtain ⟨i, hi, hdst⟩ := h.dst_eq hinv henv he
    have hle : j ≤ k := by
      have hlen := h.chain.length_eq
      have hindex := h.chain.index_le
      have hentries : ENTRIES_PER_TABLE = 255 := rfl
      rw [hentries] at hj hlen hindex
      omega
    exact (h.chain.table_taken j hle).not_image i hi (hdst.symm.trans heq)
  have hjump : jumpToKernel (entries.length + 1) s.memory (table 0 * PAGE_SIZE)
      (entries.length - ENTRIES_PER_TABLE * 0) =
      replay s.memory (entries.drop (ENTRIES_PER_TABLE * 0)) :=
    h.chain.recorded.jumpToKernel_eq (h.replayable hinv henv).numbers htables
      (Nat.zero_le _) (by omega)
  unfold RestoreState.replayed
  rw [h.chain.bounced_eq, h.chain.first_eq]
  exact hjump

theorem MemoryInv.frame_replayed {handed : HandedPage}
    (hplaced : PlacedPage env s.memory entries handed) :
    s.replayed.frame PAGE_SIZE handed.dstPfn = handed.page := by
  have hreplayable := h.replayable hinv henv
  rw [h.replayed_eq hinv henv]
  unfold PlacedPage at hplaced
  split at hplaced
  · rename_i hfree
    rw [hreplayable.numbers.frame_replay_other, hplaced]
    intro hmem
    obtain ⟨e, he, heq⟩ := List.mem_map.mp hmem
    have hnot := (h.entries_from e he).1
    rw [heq, hfree] at hnot
    exact nomatch hnot
  · obtain ⟨src, hmem, hpage⟩ := hplaced
    exact (hreplayable.frame_replay hmem).trans hpage

theorem MemoryInv.sameFrame_replay {p n : Nat} (hp : ¬ RestoreWrites env p) :
    SameFrame s.memory (replay s.memory (entries.take n)) p := by
  have hnumbers := (h.replayable hinv henv).numbers
  refine (hnumbers.sublist (List.take_sublist n entries)).frame_replay_other fun hmem => ?_
  obtain ⟨e, he, rfl⟩ := List.mem_map.mp hmem
  obtain ⟨i, hi, heq⟩ := h.dst_eq hinv henv (List.mem_of_mem_take he)
  exact hp (.inl ⟨i, hi, heq⟩)

end Replayed

/-- The contents of the `i`th page of the image behind `offset`: the page on the disk, or with AES
    support its decryption. -/
structure ImagePage (env : RestoreEnv) (offset i : Nat) (page : List UInt8) : Prop where
  plain : env.aes = none →
    page = env.swap.contents.frame PAGE_SIZE (followingPage env.image offset i)
  decrypted : ∀ aes, env.aes = some aes → ∃ t < env.cores, ∃ j,
    i = (env.info t).kernelPfnIndexes + j ∧ Authenticated env t aes j
      (env.swap.contents.frame PAGE_SIZE (followingPage env.image offset i)) page

section Restored

variable {platform : RestorePlatform} {image nrCopyPages offset auth : Nat}
  {aes : Option AesContext} {pfnArray : Bytes} {iv : List UInt8} {env : RestoreEnv}
  {s₀ s : RestoreState} {reads : Reads} {schedule : List Nat}

theorem exists_part {cores n i : Nat} (hi : i < pagesBefore cores nrCopyPages n) :
    ∃ t < n, ∃ j < pagesPerCore cores nrCopyPages t, i = pagesBefore cores nrCopyPages t + j := by
  induction n with
  | zero => exact absurd hi (Nat.not_lt_zero i)
  | succ n ih =>
    rw [pagesBefore_succ] at hi
    rcases Nat.lt_or_ge i (pagesBefore cores nrCopyPages n) with hlt | hge
    · obtain ⟨t, ht, hrest⟩ := ih hlt
      exact ⟨t, by omega, hrest⟩
    · exact ⟨n, Nat.lt_succ_self n, i - pagesBefore cores nrCopyPages n, by omega, by omega⟩

theorem Started.imagePage {t j : Nat} {handed : HandedPage}
    (h : Started platform image nrCopyPages aes pfnArray offset iv auth env s₀)
    (ht : t < env.cores) (hright : HandedRight env t j handed) :
    ImagePage env offset ((env.info t).kernelPfnIndexes + j) handed.page := by
  obtain ⟨hkernel, hoffset, -, -, -⟩ := restoreInfo_fields (h.info_eq t ht)
  have hpage : handed.offset =
      followingPage env.image offset ((env.info t).kernelPfnIndexes + j) := by
    rw [hright.offset_eq, hoffset, h.image_eq, followingPage_skipPages, hkernel]
  refine ⟨fun hnone => ?_, fun aes haes => ⟨t, ht, j, rfl, ?_⟩⟩
  · rw [← hpage]
    exact hright.page_eq hnone
  · rw [← hpage]
    exact hright.page_auth aes haes

/-- After a restore the replay gives every frame of the image its page, and neither the restore nor
    the replay changes any frame that is not accounted for. -/
theorem restore_replay
    (hstart : ((divideImage platform image nrCopyPages aes pfnArray offset iv auth).exec reads).1 =
      .ok (env, s₀))
    (hincr : env.pool.Increasing) (hsep : env.Separate) (hgeo : platform.swap.Geometry)
    (himage : image ≤ offset) (hend : offset + 2 * nrCopyPages + 2 < 2 ^ 52)
    (hnoticed : Machine.Along (restoreMachine env) (ReadNoticed env) s₀ schedule)
    (hrun : (restoreMachine env).run s₀ schedule = some s)
    (hresult : restoreResult env s = some 0) :
    (∀ i < nrCopyPages,
      ImagePage env offset i (s.replayed.frame PAGE_SIZE (env.pool.pfnArray i))) ∧
    ∃ entries, s.replayed = replay s.memory entries ∧ ∀ p, ¬ RestoreWrites env p →
      (∀ pre rest s', schedule = pre ++ rest → (restoreMachine env).run s₀ pre = some s' →
        SameFrame s₀.memory s'.memory p) ∧
      ∀ n, SameFrame s₀.memory (replay s.memory (entries.take n)) p := by
  have hstarted : Started platform image nrCopyPages aes pfnArray offset iv auth env s₀ := by
    have hwp := Prog.wp_ok divideImage_started (Prog.exec_of_result hstart)
    exact hwp
  have henv : env.Orderly := ⟨hsep, hincr, hstarted.parts⟩
  have hrange : ∀ t < env.cores, env.InRange t := fun t ht => hstarted.inRange himage hend ht
  have hsound : env.Sound := ⟨hsep, hstarted.swap_eq ▸ hgeo, hrange⟩
  have hreach : ∀ pre rest s', schedule = pre ++ rest →
      (restoreMachine env).run s₀ pre = some s' → RunInv env s₀ s' := by
    rintro pre rest s' rfl hpre
    exact Machine.run_invariant_along (fun _ _ _ hs hP hstep => hs.step hsound henv hP hstep)
      (hstarted.runInv hincr hrange) hnoticed.left hpre
  have hinv := hreach schedule [] s (List.append_nil _).symm hrun
  obtain ⟨table, k, entries, hmemory⟩ := hinv.memory
  refine ⟨fun i hi => ?_, entries, hmemory.replayed_eq hinv.restore henv, fun p hp => ⟨?_, ?_⟩⟩
  · -- the thread whose part the page is in has placed it
    have hall : i < pagesBefore platform.numCores nrCopyPages platform.numCores := by
      rwa [pagesBefore_cores platform.numCores_eq]
    obtain ⟨t, ht, j, hj, rfl⟩ := exists_part hall
    rw [← hstarted.cores_eq] at ht
    obtain ⟨hkernel, -, hnum, -, -⟩ := restoreInfo_fields (hstarted.info_eq t ht)
    obtain ⟨hdone, hzero⟩ := restoreResult_eq_zero hresult ht
    have hw := hinv.restore.workers t ht
    have hlength := hw.all_handed hdone hzero
    have hplaced : (s.workers t).placed = (s.workers t).handed.length := by
      unfold Worker.placed
      rw [hdone]
    have hlt : j < (s.workers t).handed.length := by omega
    have hget := List.getElem?_eq_getElem hlt
    have hpage := hmemory.frame_replayed hinv.restore henv
      (hmemory.placed t ht j (by omega) _ hget)
    rw [(hw.handed_pfn hget).1] at hpage
    have himagePage := hstarted.imagePage ht (hw.handed_right j _ hget)
    rw [← hkernel]
    rwa [← hpage] at himagePage
  · intro pre rest s' hsplit hpre
    exact (hreach pre rest s' hsplit hpre).same p hp
  · intro n
    exact (hmemory.sameFrame_replay hinv.restore henv hp).trans (hinv.same p hp)

end Restored

def bounceIndex : Bytes :=
  (((Bytes.put (fun _ => 0) 0 8 0x10).put 8 8 0x1A20).put 16 8 0x1A30).put 24 8 0x1A40

def sampleRestored (schedule : List Nat) (env : RestoreEnv) (s₀ : RestoreState) : Bool :=
  decide (env.pool.nrCopyPages = 3) &&
    ((List.range 3).all fun i => decide (env.pool.pfnArray i < env.pool.pfnArray (i + 1))) &&
    decide (env.pool.pfnArray 3 ≤ 0x1A40) &&
    ((List.range 3).all fun i => decide (env.pool.pfnArray i + env.pool.gap i < MAX_PFN)) &&
    decide (((restoreMachine env).run s₀ schedule).bind (restoreResult env) = some 0)

variable {env : RestoreEnv} {schedule : List Nat} {s₀ : RestoreState}

theorem sampleRestored_increasing (h : sampleRestored schedule env s₀ = true) :
    env.pool.Increasing := by
  unfold sampleRestored at h
  simp only [Bool.and_eq_true, decide_eq_true_eq, List.all_eq_true, List.mem_range] at h
  obtain ⟨⟨⟨⟨hcopies, hlt⟩, hlast⟩, hframe⟩, -⟩ := h
  refine ⟨⟨?_, ?_⟩, ?_⟩
  · rw [hcopies]
    exact hlt
  · rw [hcopies]
    omega
  · rw [hcopies]
    exact hframe

theorem sampleRestored_run (h : sampleRestored schedule env s₀ = true) :
    ∃ s, (restoreMachine env).run s₀ schedule = some s ∧ restoreResult env s = some 0 := by
  unfold sampleRestored at h
  simp only [Bool.and_eq_true, decide_eq_true_eq] at h
  exact Option.bind_eq_some_iff.mp h.2

def sampleAlone (env : RestoreEnv) : Bool :=
  decide (env.cores = 1) && decide (env.pool.freeRanges = [⟨0x1A00000, 0x2000000⟩]) &&
    decide ((env.info 0).diskReadBuffer = 0x9000) && env.aes.isNone

theorem sampleAlone_separate (h : sampleAlone env = true) : env.Separate := by
  unfold sampleAlone at h
  simp only [Bool.and_eq_true, decide_eq_true_eq] at h
  obtain ⟨⟨⟨hcores, hranges⟩, hbuffer⟩, haes⟩ := h
  have hnone : ¬ env.aes.isSome = true := by
    rw [Option.isNone_iff_eq_none.mp haes]
    exact Bool.false_ne_true
  have honly : ∀ t < env.cores, (env.info t).diskReadBuffer = 0x9000 := by
    intro t ht
    obtain rfl : t = 0 := by omega
    exact hbuffer
  refine ⟨?_, ?_, ?_, fun haes => absurd haes hnone, fun haes => absurd haes hnone,
    fun haes => absurd haes hnone⟩
  · intro t ht
    rw [honly t ht]
    decide
  · rintro t ht p ⟨hle, -⟩ hp
    unfold RestoreEnv.FreeFrame at hp
    rw [hranges, checkFreeRanges, List.any_cons, List.any_nil, Bool.or_false,
      Bool.and_eq_true] at hp
    have hlt : p * 4096 < 0x2000000 := of_decide_eq_true hp.2
    rw [honly t ht] at hle
    omega
  · intro t ht u hu hne
    omega

theorem restore_replay_sample :
    ∃ env s₀ s, ((divideImage (sampleHibernation fun _ => EFI_SUCCESS).toRestorePlatform 1 3 none
        bounceIndex 4 [] 0).exec []).1 = .ok (env, s₀) ∧
      (restoreMachine env).run s₀ (List.replicate 12 0) = some s ∧
      ∀ i < 3, ImagePage env 4 i (s.replayed.frame PAGE_SIZE (env.pool.pfnArray i)) := by
  obtain ⟨⟨env, s₀⟩, hstart, hs₀⟩ := Prog.exec_of_eval
    (divideImage (sampleHibernation fun _ => EFI_SUCCESS).toRestorePlatform 1 3 none
      bounceIndex 4 [] 0)
    [] (fun r => sampleRestored (List.replicate 12 0) r.1 r.2 && sampleAlone r.1 &&
      decide (Machine.Along (restoreMachine r.1) (ReadNoticed r.1) r.2 (List.replicate 12 0)))
    (by decide +kernel)
  simp only [Bool.and_eq_true, decide_eq_true_eq] at hs₀
  obtain ⟨⟨hsample, halone⟩, hnoticed⟩ := hs₀
  obtain ⟨s, hrun, hresult⟩ := sampleRestored_run hsample
  have hgeo : (sampleHibernation fun _ => EFI_SUCCESS).swap.Geometry := ⟨⟨1, rfl⟩, by decide⟩
  exact ⟨env, s₀, s, hstart, hrun, (restore_replay hstart (sampleRestored_increasing hsample)
    (sampleAlone_separate halone) hgeo (by decide) (by decide) hnoticed hrun hresult).1⟩

def sampleOnes : HibernationBoot := { sampleAesBoot 16 zeroTag with memory := fun _ => 1 }

/-- With AES support the page for the decryption changes, and it is none of the other frames. -/
theorem restore_changes_tempOut :
    ∃ env s₀ s, ((restoreStart sampleOnes).exec []).1 = .ok (env, s₀) ∧ env.pool.Increasing ∧
      env.Separate ∧ (restoreMachine env).run s₀ sampleAesSchedule = some s ∧
      restoreResult env s = some 0 ∧ AllSucceed s.reads ∧
      ¬ SameFrame s₀.memory s.memory (env.info 7).tempOut ∧
      (∀ i < 3, env.pool.pfnArray i ≠ (env.info 7).tempOut) ∧
      ¬ env.pool.Obtained (env.info 7).tempOut ∧
      ∀ t < env.cores, ¬ env.InBuffer t (env.info 7).tempOut := by
  obtain ⟨⟨env, s₀⟩, hstart, hs₀⟩ := Prog.exec_of_eval (restoreStart sampleOnes) []
    (fun r => sampleStarted r.1 r.2 && sampleRestored sampleAesSchedule r.1 r.2 &&
      decide (r.1.cores = 8) && r.1.aes.isSome &&
      ((List.range 3).all fun i => decide (r.1.pool.pfnArray i ≠ (r.1.info 7).tempOut)) &&
      decide (r.2.memory ((r.1.info 7).tempOut * PAGE_SIZE) = 1) &&
      decide (((restoreMachine r.1).run r.2 sampleAesSchedule).map (fun s =>
        (s.memory ((r.1.info 7).tempOut * PAGE_SIZE), s.reads)) =
          some (0, List.replicate 6 EFI_SUCCESS)))
    (by decide +kernel)
  simp only [Bool.and_eq_true, decide_eq_true_eq, List.all_eq_true, List.mem_range] at hs₀
  obtain ⟨⟨⟨⟨⟨⟨hstarted, hsample⟩, hcores⟩, haes⟩, hpfn⟩, hbefore⟩, hafter⟩ := hs₀
  obtain ⟨s, hrun, hresult⟩ := sampleRestored_run hsample
  have hsep := sampleStarted_separate hstarted
  have h7 : 7 < env.cores := by omega
  rw [hrun] at hafter
  obtain ⟨hbyte, hreads⟩ := Prod.mk.inj (Option.some.inj hafter)
  refine ⟨env, s₀, s, hstart, sampleRestored_increasing hsample, hsep, hrun, hresult, ?_, ?_, hpfn,
    ?_, fun t ht => hsep.tempOut_apart haes 7 h7 t ht⟩
  · rw [hreads]
    intro status hmem
    exact (List.mem_replicate.mp hmem).2
  · intro hsame
    have hhead := congrArg List.head? hsame
    rw [frame, frame, slice_head? (by decide), slice_head? (by decide),
      hbyte, hbefore] at hhead
    exact absurd hhead (by decide)
  · exact fun hob => hsep.tempOut_not_free haes 7 h7 (RestoreEnv.free_of_obtained hob)

end OhMyAbl
