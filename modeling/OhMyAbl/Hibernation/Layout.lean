/-
  **The pages of an image are read from where its layout has them.**

  The parts of the threads put together are the pages behind the index, in their order.  The
  position of a run of index pages is a product of two `INT32`, so the layout is only followed for
  an index of less than `511 * 2 ^ 22` pages.
-/
import OhMyAbl.Hibernation.DataPages

namespace OhMyAbl

open Prog

/-! ### The parts of the threads -/

section Parts

variable {image start cores nrCopyPages n t i : Nat}

theorem followingPage_skipPages :
    followingPage image (skipPages image start n) i = followingPage image start (n + i) := by
  induction n generalizing i with
  | zero => rw [skipPages, Nat.zero_add]
  | succ n ih =>
    have hlast : skipSwapMap image (skipPages image start n) = followingPage image start n :=
      @ih 0
    rw [skipPages, hlast, followingPage_succ_start]

theorem skipPages_bounds : start ≤ skipPages image start n ∧
    skipPages image start n ≤ start + 2 * n := by
  induction n with
  | zero => exact ⟨Nat.le_refl _, Nat.le_refl _⟩
  | succ n ih =>
    have hbounds := @skipSwapMap_bounds image (skipPages image start n)
    rw [skipPages]
    omega

theorem followingPage_add_le {j : Nat} :
    followingPage image start i + j ≤ followingPage image start (i + j) := by
  induction j with
  | zero => exact Nat.le_refl _
  | succ j ih =>
    have hstep : followingPage image start (i + j) + 1 ≤ followingPage image start (i + j + 1) :=
      skipSwapMap_bounds.1
    calc followingPage image start i + (j + 1) ≤ followingPage image start (i + j) + 1 := by omega
      _ ≤ followingPage image start (i + j + 1) := hstep

theorem pagesBefore_succ :
    pagesBefore cores nrCopyPages (t + 1) =
      pagesBefore cores nrCopyPages t + pagesPerCore cores nrCopyPages t := by
  rw [pagesBefore, List.range_succ, List.map_append, List.sum_append, List.map_singleton,
    List.sum_singleton]
  rfl

theorem pagesBefore_cores (hcores : cores = 1 ∨ cores = 8) :
    pagesBefore cores nrCopyPages cores = nrCopyPages := by
  rcases hcores with rfl | rfl
  · simp [pagesBefore, pagesPerCore]
  · simp only [pagesBefore, pagesPerCore, List.range_succ, List.range_zero, List.map_append,
      List.map_nil, List.map_cons, List.sum_append, List.sum_cons, List.sum_nil, Nat.reduceEqDiff,
      Nat.reduceLT, if_true, if_false]
    omega

theorem pagesBefore_mono {u : Nat} (h : t ≤ u) :
    pagesBefore cores nrCopyPages t ≤ pagesBefore cores nrCopyPages u := by
  induction h with
  | refl => exact Nat.le_refl _
  | step _ ih =>
    rw [pagesBefore_succ]
    omega

theorem pagesBefore_add_le (hcores : cores = 1 ∨ cores = 8) (ht : t < cores) :
    pagesBefore cores nrCopyPages t + pagesPerCore cores nrCopyPages t ≤ nrCopyPages := by
  rw [← pagesBefore_succ]
  calc pagesBefore cores nrCopyPages (t + 1) ≤ pagesBefore cores nrCopyPages cores :=
        pagesBefore_mono ht
    _ = nrCopyPages := pagesBefore_cores hcores

theorem pagesPerCore_le : pagesPerCore cores nrCopyPages t ≤ nrCopyPages := by
  unfold pagesPerCore
  split_ifs <;> omega

theorem ivOfCore_countedOn {iv iv' : List UInt8} (hcopies : nrCopyPages < 2 ^ 63)
    (h : ivOfCore cores nrCopyPages iv t = some iv') :
    CountedOn iv (pagesBefore cores nrCopyPages t) iv' := by
  induction t generalizing iv' with
  | zero =>
    cases h
    exact ⟨rfl, rfl⟩
  | succ t ih =>
    obtain ⟨iv₁, hfirst, hlast⟩ := Option.bind_eq_some_iff.mp h
    rw [pagesBefore_succ]
    exact (ih hfirst).trans
      (incrementIV_countedOn (Nat.lt_of_le_of_lt pagesPerCore_le hcopies) hlast)

end Parts

/-! ### The state in which the threads start -/

structure Started (platform : RestorePlatform) (image nrCopyPages : Nat) (aes : Option AesContext)
    (pfnArray : Bytes) (offset : Nat) (iv : List UInt8) (auth : Nat) (env : RestoreEnv)
    (s : RestoreState) : Prop where
  swap_eq : env.swap = platform.swap
  image_eq : env.image = image
  aes_eq : env.aes = aes
  cores_eq : env.cores = platform.numCores
  pfnArray_eq : env.pool.pfnArray = fun i => pfnArray.u64At (8 * i)
  nrCopyPages_eq : env.pool.nrCopyPages = nrCopyPages
  info_eq : ∀ t < env.cores, restoreInfo platform image nrCopyPages offset auth
    ((aes.map AesContext.authsize).getD 0) iv t = some (env.info t)
  workers_eq : ∀ t, s.workers t = Worker.start (env.info t)
  mutex_eq : s.mutex = none
  tables_eq : ∃ pfn it, env.pool.getUnusedPfn ⟨0, 0, 0⟩ = some (pfn, it) ∧
    s.tables = ⟨platform.memory, it, pfnAddr pfn, pfnAddr pfn, 0, 0⟩

section Started

variable {platform : RestorePlatform} {image nrCopyPages offset auth : Nat}
  {aes : Option AesContext} {pfnArray : Bytes} {iv : List UInt8} {env : RestoreEnv}
  {s : RestoreState} {reads : Reads}

theorem createThreads_started {info : Nat → Option RestoreInfo} {ranges : List FreeRange}
    (hinfo : info = restoreInfo platform image nrCopyPages offset auth
      ((aes.map AesContext.authsize).getD 0) iv)
    (hsome : ∀ t < platform.numCores, (info t).isSome = true) :
    wp (createThreads platform image aes nrCopyPages pfnArray info ranges)
      (fun r _ => Started platform image nrCopyPages aes pfnArray offset iv auth r.1 r.2)
      anyExit reads := by
  refine .ite (fun _ => trivial) fun _ => ?_
  generalize hget : PfnPool.getUnusedPfn _ _ = unused
  cases unused with
  | none => trivial
  | some unused =>
    refine ⟨rfl, rfl, rfl, rfl, rfl, rfl, ?_, fun _ => rfl, rfl, ⟨unused.1, unused.2, hget, rfl⟩⟩
    intro t ht
    obtain ⟨i, hi⟩ := Option.isSome_iff_exists.mp (hsome t ht)
    rw [← hinfo, hi]
    simp [restoreEnv, hi]

theorem divideImage_started :
    wp (divideImage platform image nrCopyPages aes pfnArray offset iv auth)
      (fun r _ => Started platform image nrCopyPages aes pfnArray offset iv auth r.1 r.2)
      anyExit reads := by
  refine .ite (fun _ => trivial) fun _ => .ite (fun _ => trivial) fun _ =>
    .ite (fun _ => trivial) fun hinfo => .ite (fun _ => trivial) fun _ =>
    .ite (fun _ => trivial) fun _ => ?_
  split
  · trivial
  refine createThreads_started rfl fun t ht => ?_
  by_contra hnone
  refine hinfo (List.any_eq_true.mpr ⟨t, List.mem_range.mpr ht, ?_⟩)
  rw [Option.not_isSome_iff_eq_none.mp hnone]
  rfl

theorem wp_bind_any {α β : Type} {m : Prog Reads RestoreExit α} {f : α → Prog Reads RestoreExit β}
    {Q : β → Reads → Prop} (h : ∀ a reads', wp (f a) Q anyExit reads') :
    wp (m >>= f) Q anyExit reads := by
  rw [wp_bind]
  exact wp_any h fun _ _ => trivial

theorem restoreStart_of_divideImage {boot : HibernationBoot}
    {Q : RestoreEnv × RestoreState → Reads → Prop}
    (h : ∀ image nrCopyPages aes pfnArray offset iv auth reads,
      wp (divideImage boot.toRestorePlatform image nrCopyPages aes pfnArray offset iv auth) Q
        anyExit reads) : wp (restoreStart boot) Q anyExit reads := by
  refine wp_bind_any fun image reads₁ => ?_
  refine .ite (fun _ => trivial) fun _ => .ite (fun _ => trivial) fun _ =>
    .ite (fun _ => trivial) fun _ => ?_
  exact wp_bind_any fun counts reads₂ => wp_bind_any fun aes reads₃ =>
    wp_bind_any fun index reads₄ => h _ _ _ _ _ _ _ reads₄

theorem restoreInfo_fields {authsize t : Nat} {info : RestoreInfo}
    (h : restoreInfo platform image nrCopyPages offset auth authsize iv t = some info) :
    info.kernelPfnIndexes = pagesBefore platform.numCores nrCopyPages t ∧
      info.offset = skipPages image offset (pagesBefore platform.numCores nrCopyPages t) ∧
      info.numPages = pagesPerCore platform.numCores nrCopyPages t ∧
      info.authtags = auth + pagesBefore platform.numCores nrCopyPages t * authsize ∧
      coreIv platform nrCopyPages iv t = some info.iv := by
  obtain ⟨buffer, -, hrest⟩ := Option.bind_eq_some_iff.mp h
  obtain ⟨iv', hiv, hinfo⟩ := Option.bind_eq_some_iff.mp hrest
  cases hinfo
  exact ⟨rfl, rfl, rfl, rfl, hiv⟩

theorem RestorePlatform.numCores_eq (platform : RestorePlatform) :
    platform.numCores = 1 ∨ platform.numCores = 8 := by
  unfold numCores
  split
  · exact .inr rfl
  · exact .inl rfl

theorem Started.inRange (h : Started platform image nrCopyPages aes pfnArray offset iv auth env s)
    (himage : image ≤ offset) (hend : offset + 2 * nrCopyPages + 2 < 2 ^ 52) {t : Nat}
    (ht : t < env.cores) : env.InRange t := by
  obtain ⟨-, hoffset, hnum, -, -⟩ := restoreInfo_fields (h.info_eq t ht)
  rw [h.cores_eq] at ht
  have hpart : pagesBefore platform.numCores nrCopyPages t +
      pagesPerCore platform.numCores nrCopyPages t ≤ nrCopyPages :=
    pagesBefore_add_le platform.numCores_eq ht
  have hskip := @skipPages_bounds image offset (pagesBefore platform.numCores nrCopyPages t)
  refine ⟨?_, ?_⟩
  · rw [h.image_eq, hoffset]
    omega
  · omega

theorem Started.inv (h : Started platform image nrCopyPages aes pfnArray offset iv auth env s)
    (hrange : ∀ t < env.cores, env.InRange t) : RestoreInv env s := by
  obtain ⟨pfn, it, hget, htables⟩ := h.tables_eq
  have hfirst : env.pool.Reached ⟨0, 0, 0⟩ := ⟨0, rfl⟩
  refine ⟨?_, fun t ht => ?_⟩
  · rw [htables]
    exact ⟨hfirst.step hget, ⟨_, ⟨_, _, _, hfirst, hget, rfl⟩, pfnAddr_eq pfn⟩, Nat.zero_le _⟩
  · rw [h.workers_eq]
    exact WorkerInv.start (hrange t ht)

end Started

/-! ### All reads succeed -/

theorem WorkerInv.dataStatus_eq {env : RestoreEnv} {t pages : Nat} {s : RestoreState}
    (hinv : WorkerInv env t s.memory (s.workers t)) (hholds : env.swap.Holds pages)
    (hio : ∀ n, env.swap.io.outcome n = EFI_SUCCESS) (hpages : ∀ i < (env.info t).numPages,
      followingPage env.image (env.info t).offset i < pages) (hpc : (s.workers t).pc = .loop)
    (hpending : (s.workers t).pendingPages ≠ 0) : dataStatus env s (s.workers t) = EFI_SUCCESS := by
  have hnext : AtNext env t (s.workers t) := hinv.at hpc
  have hsum := (hinv.counts_of_ne (by simp [hpc])).2
  have hlen := (s.workers t).readLength_le_pending
  have hsmall := (s.workers t).readLength_le
  have hdisk : DISK_BUFFER_PAGES = 16384 := rfl
  have hlast : (s.workers t).offset + ((s.workers t).pendingPages - 1) < pages := by
    have hskip : (s.workers t).offset ≤ skipSwapMap env.image (s.workers t).offset :=
      skipSwapMap_bounds.1
    rw [hnext.2] at hskip
    have hfollow := @followingPage_add_le env.image (env.info t).offset (s.workers t).pfnIndex
      ((s.workers t).pendingPages - 1)
    have hend := hpages ((s.workers t).pfnIndex + ((s.workers t).pendingPages - 1)) (by omega)
    omega
  unfold dataStatus
  rw [hholds.readStatus_eq (by omega) (by omega), hio]

def NoError (env : RestoreEnv) (s : RestoreState) : Prop :=
  env.aes = none → ∀ t, (s.workers t).status = 0

theorem NoError.step {env : RestoreEnv} {t : Nat} {s s' : RestoreState} (h : NoError env s)
    (hread : (s.workers t).pc = .loop → (s.workers t).pendingPages ≠ 0 →
      dataStatus env s (s.workers t) = EFI_SUCCESS)
    (hmoved : Moved env t s s') : NoError env s' := by
  intro hnone u
  have hzero := h hnone
  by_cases hut : u = t
  · subst hut
    cases hmoved with
    | readFails hpc hpending hret =>
      rw [hread hpc hpending] at hret
      exact absurd hret (by decide)
    | decryptFails hpc hmap hread haes iv tempOut =>
      rw [hnone] at haes
      exact nomatch haes
    | decrypt hpc hread hmap aes haes iv plain hok =>
      rw [hnone] at haes
      exact nomatch haes
    | finish hpc hpending => rw [RestoreState.setWorker_workers_self]
    | _ =>
      simp only [copyPageToDst, RestoreState.setWorker_workers_self]
      exact hzero u
  · rw [hmoved.others hut]
    exact hzero u

/-! ### The layout is followed -/

/-- What `ReadKernelImagePfnIndexes` has to return: the pages of the index, and the page behind
    them. -/
structure IndexFollowed (contents : Bytes) (image nrMetaPages : Nat) (r : Bytes × Nat) : Prop where
  pages : ∀ i < nrMetaPages,
    r.1.frame PAGE_SIZE i = contents.frame PAGE_SIZE (indexPage image i)
  offset_eq : r.2 = indexPage image (nrMetaPages - 1) + 1

/-- What the threads have to hand over: the `i`th page behind the index for the `i`th entry, and
    each thread exactly its part. -/
structure DataFollowed (env : RestoreEnv) (nrMetaPages nrCopyPages : Nat) (pfnArray : Bytes)
    (s : RestoreState) : Prop where
  handed : ∀ t < env.cores, ∀ i h, (s.workers t).handed[i]? = some h →
    i < pagesPerCore env.cores nrCopyPages t ∧
    h.offset = indexPage env.image (nrMetaPages + (pagesBefore env.cores nrCopyPages t + i)) ∧
    h.dstPfn = pfnArray.u64At (8 * (pagesBefore env.cores nrCopyPages t + i)) ∧
    (env.aes = none → h.page = env.swap.contents.frame PAGE_SIZE h.offset)
  complete : ∀ t < env.cores, (s.workers t).pc = .done → (s.workers t).status = 0 →
    (s.workers t).handed.length = pagesPerCore env.cores nrCopyPages t
  noError : NoError env s

/-- The layout of an image with these numbers of pages is followed, under every schedule of the
    threads. -/
structure FollowsLayout (platform : RestorePlatform) (image nrMetaPages nrCopyPages : Nat) :
    Prop where
  index : ∀ reads, Prog.wp (readPfnPages platform.swap image nrMetaPages platform.pfnPool)
    (fun r _ => IndexFollowed platform.swap.contents image nrMetaPages r) (fun _ _ => False) reads
  data : ∀ aes pfnArray iv auth reads env s₀ schedule s,
    ((divideImage platform image nrCopyPages aes pfnArray (indexPage image (nrMetaPages - 1) + 1)
      iv auth).exec reads).1 = .ok (env, s₀) →
    env.Separate → (restoreMachine env).run s₀ schedule = some s →
    DataFollowed env nrMetaPages nrCopyPages pfnArray s

def RestorePlatform.withContents (platform : RestorePlatform) (contents : Bytes) :
    RestorePlatform :=
  { platform with swap := { platform.swap with contents := contents } }

section FollowsLayout

variable {platform : RestorePlatform} {image nrMetaPages nrCopyPages pages : Nat}
  {aes : Option AesContext} {pfnArray : Bytes} {iv : List UInt8} {auth : Nat} {env : RestoreEnv}
  {s₀ s : RestoreState} {schedule : List Nat}

section

variable (hmeta : 0 < nrMetaPages)
  (h : Started platform image nrCopyPages aes pfnArray (indexPage image (nrMetaPages - 1) + 1) iv
    auth env s₀)
include hmeta h

theorem Started.followingPage_eq {t i : Nat} (ht : t < env.cores) :
    followingPage env.image (env.info t).offset i =
      indexPage env.image (nrMetaPages + (pagesBefore env.cores nrCopyPages t + i)) := by
  obtain ⟨-, hoffset, -, -, -⟩ := restoreInfo_fields (h.info_eq t ht)
  rw [hoffset, h.image_eq, h.cores_eq, followingPage_skipPages, indexPage, followingPage_succ_start,
    Nat.sub_add_cancel hmeta]
  rfl

theorem Started.dataFollowed (hio : ∀ n, platform.swap.io.outcome n = EFI_SUCCESS)
    (hholds : platform.swap.Holds pages) (himage : image < 2 ^ 31)
    (htotal : nrMetaPages + nrCopyPages < 2 ^ 31)
    (hpages : ∀ i < nrMetaPages + nrCopyPages, indexPage image i < pages) (hsep : env.Separate)
    (hrun : (restoreMachine env).run s₀ schedule = some s) :
    DataFollowed env nrMetaPages nrCopyPages pfnArray s := by
  have hfirst := @followingPage_bounds image (image + 2) (nrMetaPages - 1)
  have hrange : ∀ t < env.cores, env.InRange t := by
    intro t ht
    refine h.inRange ?_ ?_ ht
    · unfold indexPage
      omega
    · unfold indexPage
      omega
  have hsound : env.Sound := ⟨hsep, h.swap_eq ▸ hholds.toGeometry, hrange⟩
  have hpart : ∀ t < env.cores, (env.info t).numPages = pagesPerCore env.cores nrCopyPages t ∧
      pagesBefore env.cores nrCopyPages t + pagesPerCore env.cores nrCopyPages t ≤ nrCopyPages := by
    intro t ht
    obtain ⟨-, -, hnum, -, -⟩ := restoreInfo_fields (h.info_eq t ht)
    rw [h.cores_eq] at ht ⊢
    exact ⟨hnum, pagesBefore_add_le platform.numCores_eq ht⟩
  have hread : ∀ s t, RestoreInv env s → t < env.cores → (s.workers t).pc = .loop →
      (s.workers t).pendingPages ≠ 0 → dataStatus env s (s.workers t) = EFI_SUCCESS := by
    intro s t hinv ht
    refine (hinv.workers t ht).dataStatus_eq (h.swap_eq ▸ hholds) (h.swap_eq ▸ hio) ?_
    intro i hi
    have hle := hpart t ht
    rw [h.followingPage_eq hmeta ht, h.image_eq]
    exact hpages _ (by omega)
  have hinv : RestoreInv env s ∧ NoError env s := by
    have hstart : RestoreInv env s₀ ∧ NoError env s₀ := by
      refine ⟨h.inv hrange, fun _ t => ?_⟩
      rw [h.workers_eq]
      rfl
    have hkeeps : ∀ s t s', (RestoreInv env s ∧ NoError env s) → True →
        restoreMachine env s t = some s' → RestoreInv env s' ∧ NoError env s' := by
      rintro s t s' ⟨hs, herr⟩ - hstep
      obtain ⟨ht, -, hmoved⟩ := restoreMachine_moved hstep
      have hok := hread s t hs ht
      exact ⟨hs.step hsound (fun hpc hpending => .inl (hok hpc hpending)) hstep,
        herr.step hok hmoved⟩
    exact Machine.run_invariant hkeeps hstart (fun _ _ => trivial) hrun
  refine ⟨fun t ht i handed hi => ?_, fun t ht hdone hzero => ?_, hinv.2⟩
  · have hw := hinv.1.workers t ht
    have hright := hw.handed_right i handed hi
    have hlt := (List.getElem?_eq_some_iff.mp hi).1
    have hle := hw.handed_le
    obtain ⟨hkernel, -, -, -, -⟩ := restoreInfo_fields (h.info_eq t ht)
    rw [← h.cores_eq] at hkernel
    refine ⟨?_, ?_, ?_, hright.page_eq⟩
    · rw [← (hpart t ht).1]
      omega
    · rw [hright.offset_eq, h.followingPage_eq hmeta ht]
    · rw [hright.dstPfn_eq, h.pfnArray_eq, hkernel]
  · rw [(hinv.1.workers t ht).all_handed hdone hzero]
    exact (hpart t ht).1

end

theorem not_followsLayout (hio : ∀ n, platform.swap.io.outcome n = EFI_SUCCESS)
    (hholds : platform.swap.Holds pages) (himage : image < 2 ^ 31)
    (hmeta : wrappedIndex < nrMetaPages) :
    ¬ FollowsLayout (platform.withContents (markedPage image)) image nrMetaPages nrCopyPages := by
  intro h
  refine readPfnPages_wraps hio hholds himage hmeta
    (Prog.wp_mono (h.index []) ?_ fun _ _ h => h)
  intro r _ hr
  exact hr.pages

/-- The layout is followed as long as no position of a run of index pages wraps; an empty index can
    not be allocated. -/
theorem followsLayout_iff {pool : Bytes} (hpool : platform.pfnPool = some pool)
    (hio : ∀ n, platform.swap.io.outcome n = EFI_SUCCESS) (hholds : platform.swap.Holds pages)
    (himage : image < 2 ^ 31) (htotal : nrMetaPages + nrCopyPages < 2 ^ 31)
    (hpages : ∀ i < nrMetaPages + nrCopyPages, indexPage image i < pages) :
    (∀ contents, FollowsLayout (platform.withContents contents) image nrMetaPages nrCopyPages) ↔
      0 < nrMetaPages ∧ nrMetaPages < ENTRIES_PER_SWAPMAP_PAGE * 2 ^ 22 := by
  constructor
  · intro h
    refine ⟨?_, ?_⟩
    · -- without pages the allocation fails
      refine Nat.pos_of_ne_zero fun hzero => ?_
      have hindex := (h fun _ => 0).index []
      unfold RestorePlatform.withContents readPfnPages at hindex
      rw [hpool, hzero] at hindex
      exact hindex
    · by_contra hlarge
      have hwrapped : wrappedIndex < nrMetaPages := by
        unfold wrappedIndex
        unfold ENTRIES_PER_SWAPMAP_PAGE PFN_INDEXES_PER_PAGE at hlarge ⊢
        omega
      exact not_followsLayout hio hholds himage hwrapped (h (markedPage image))
  · rintro ⟨hmeta, hsmall⟩ contents
    have hholds' : (platform.withContents contents).swap.Holds pages :=
      ⟨⟨hholds.dvd, hholds.size_le⟩, hholds.pages_le⟩
    refine ⟨fun reads => ?_, ?_⟩
    · have hlayout := @readPfnPages_layout (platform.withContents contents).swap image nrMetaPages
        reads pages pool hio hholds' himage hmeta hsmall fun i hi => hpages i (by omega)
      unfold RestorePlatform.withContents at hlayout ⊢
      dsimp only at hlayout ⊢
      rw [hpool]
      exact Prog.wp_mono hlayout (fun r _ hr => ⟨hr.1, hr.2⟩) fun _ _ h => h
    · intro aes pfnArray iv auth reads env s₀ schedule s hstart hsep hrun
      have hstarted := Prog.wp_ok divideImage_started (Prog.exec_of_result hstart)
      exact Started.dataFollowed hmeta hstarted hio hholds' himage htotal hpages hsep hrun

theorem followsLayout_iff_sample :
    (∀ contents, FollowsLayout
      ((sampleHibernation fun _ => EFI_SUCCESS).toRestorePlatform.withContents
      contents) 1 1 3) ↔ 0 < 1 ∧ 1 < ENTRIES_PER_SWAPMAP_PAGE * 2 ^ 22 := by
  have hholds : (sampleHibernation fun _ => EFI_SUCCESS).swap.Holds 1024 :=
    ⟨⟨⟨1, rfl⟩, by decide⟩, by decide⟩
  exact followsLayout_iff rfl (fun _ => rfl) hholds (by decide) (by decide) (by decide)

def largePlatform : RestorePlatform :=
  { (sampleHibernation fun _ => EFI_SUCCESS).toRestorePlatform with
    swap :=
      { io :=
          { blockSize := 4096
            lastBlock := 2 ^ 40 - 1
            blockSize_lt := page_lt
            lastBlock_lt := by decide
            outcome := fun _ => EFI_SUCCESS }
        contents := fun _ => 0
        leaves := fun _ _ => 0 } }

/-- An index of `511 * 2 ^ 22` pages is on this partition, and its last page is read from another
    place. -/
theorem followsLayout_wraps :
    largePlatform.swap.Holds (2 ^ 40) ∧ ENTRIES_PER_SWAPMAP_PAGE * 2 ^ 22 + 1 < 2 ^ 31 ∧
      (∀ i < ENTRIES_PER_SWAPMAP_PAGE * 2 ^ 22 + 1, indexPage 1 i < 2 ^ 40) ∧
      ¬ FollowsLayout (largePlatform.withContents (markedPage 1)) 1
        (ENTRIES_PER_SWAPMAP_PAGE * 2 ^ 22) 1 := by
  have hholds : largePlatform.swap.Holds (2 ^ 40) := ⟨⟨⟨1, rfl⟩, by decide⟩, by decide⟩
  refine ⟨hholds, by decide, ?_, ?_⟩
  · intro i hi
    have hbounds : indexPage 1 i ≤ 1 + 2 + 2 * i + 1 := followingPage_bounds.2
    unfold ENTRIES_PER_SWAPMAP_PAGE PFN_INDEXES_PER_PAGE at hi
    omega
  · exact not_followsLayout (fun _ => rfl) hholds (by decide) (by decide)

end FollowsLayout

/-! ### The page behind the data -/

section BehindData

variable {m c : Nat}

theorem decryptParam_page (htotal : m + c < 2 ^ 31) :
    u32 (authslotStart m c + MAX_UINT32) = m + c + (m + c) / ENTRIES_PER_SWAPMAP_PAGE + 3 := by
  unfold authslotStart u32 MAX_UINT32 HDR_SWP_INFO_NUM_PAGES ENTRIES_PER_SWAPMAP_PAGE
    PFN_INDEXES_PER_PAGE
  omega

theorem pfnDiskOffset_wraps (hloop : 2 ^ 22 ≤ m) (hlt : m < 2 ^ 23) :
    2 ^ 63 ≤ pfnDiskOffset 1 m := by
  have hneg : i32 (PFN_INDEXES_PER_PAGE * m) = ((512 * m : Nat) : Int) - 2 ^ 32 := by
    rw [i32, BitVec.toInt_eq_toNat_cond, BitVec.toNat_ofNat, PFN_INDEXES_PER_PAGE,
      Nat.mod_eq_of_lt (by omega), if_neg (by omega)]
    rfl
  unfold pfnDiskOffset u64OfInt u64
  rw [hneg, BitVec.toNat_ofInt]
  omega

theorem followingPage_behind_index {offset i : Nat} (hm : m < ENTRIES_PER_SWAPMAP_PAGE * 2 ^ 22)
    (h : offset = pfnDiskOffset 1 (m / ENTRIES_PER_SWAPMAP_PAGE) +
      m % ENTRIES_PER_SWAPMAP_PAGE + 1) :
    followingPage 1 offset i = indexPage 1 (m + i) := by
  rw [pfnDiskOffset_eq (by decide) (Nat.div_lt_of_lt_mul hm)] at h
  cases m with
  | zero =>
    rw [h, Nat.zero_add]
    rfl
  | succ m =>
    have hfirst : offset = indexPage 1 m + 1 := by
      unfold ENTRIES_PER_SWAPMAP_PAGE PFN_INDEXES_PER_PAGE at hm
      rw [h, indexPage_eq (by omega), PFN_INDEXES_PER_PAGE, ENTRIES_PER_SWAPMAP_PAGE,
        PFN_INDEXES_PER_PAGE]
      omega
    rw [hfirst, indexPage, indexPage, ← followingPage_succ_start]

/-- The decryption parameters are taken from the page behind the data, unless that page is a
    swap-map page or the positions of the index wrap. -/
theorem decryptParam_behind_data_iff {swap : Swap} {pool : Option Bytes} {reads reads' : Reads}
    {r : Bytes × Nat} (hindex : (readPfnPages swap 1 m pool).exec reads = (.ok r, reads'))
    (hcopy : 0 < c) (htotal : m + c < 2 ^ 31) :
    u32 (authslotStart m c + MAX_UINT32) = skipSwapMap 1 (followingPage 1 r.2 (c - 1) + 1) ↔
      m < ENTRIES_PER_SWAPMAP_PAGE * 2 ^ 22 ∧ (m + c + 1) % ENTRIES_PER_SWAPMAP_PAGE ≠ 0 := by
  have hend := Prog.wp_ok (readPfnPages_end (by decide)) hindex
  have hpage := decryptParam_page htotal
  have hnext := @skipSwapMap_bounds 1 (followingPage 1 r.2 (c - 1) + 1)
  have hlast := @followingPage_bounds 1 r.2 (c - 1)
  by_cases hsmall : m < ENTRIES_PER_SWAPMAP_PAGE * 2 ^ 22
  · have hdata : skipSwapMap 1 (followingPage 1 r.2 (c - 1) + 1) = indexPage 1 (m + c) := by
      obtain ⟨k, rfl⟩ := Nat.exists_eq_add_of_le' hcopy
      exact @followingPage_behind_index m r.2 (k + 1) hsmall hend
    rw [hdata, hpage, indexPage_eq (by omega)]
    unfold ENTRIES_PER_SWAPMAP_PAGE PFN_INDEXES_PER_PAGE at hsmall ⊢
    omega
  · unfold ENTRIES_PER_SWAPMAP_PAGE PFN_INDEXES_PER_PAGE at hsmall hend hpage ⊢
    have hwraps := @pfnDiskOffset_wraps (m / (512 - 1)) (by omega) (by omega)
    omega

theorem decryptParam_behind_data_sample :
    ∃ r, ∃ reads : Reads, (readPfnPages largePlatform.swap 1 1 largePlatform.pfnPool).exec [] =
        (.ok r, reads) ∧
      (u32 (authslotStart 1 3 + MAX_UINT32) = skipSwapMap 1 (followingPage 1 r.2 2 + 1) ↔
        1 < ENTRIES_PER_SWAPMAP_PAGE * 2 ^ 22 ∧ (1 + 3 + 1) % ENTRIES_PER_SWAPMAP_PAGE ≠ 0) :=
  ⟨_, _, rfl, @decryptParam_behind_data_iff 1 3 largePlatform.swap largePlatform.pfnPool [] _ _ rfl
    (by decide) (by decide)⟩

/-- With 510 pages the parameters are taken from the second swap-map page. -/
theorem decryptParam_on_swap_map :
    ∃ r, ∃ reads : Reads, (readPfnPages largePlatform.swap 1 1 largePlatform.pfnPool).exec [] =
        (.ok r, reads) ∧
      u32 (authslotStart 1 509 + MAX_UINT32) = 513 ∧ checkSwapMapPage 1 513 = true ∧
      skipSwapMap 1 (followingPage 1 r.2 508 + 1) = 514 :=
  ⟨_, _, rfl, by decide, by decide, by decide +kernel⟩

end BehindData

end OhMyAbl
