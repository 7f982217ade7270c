/-
  **Only pages with a valid tag are restored.**

  The parameters of the decryption are not authenticated themselves: neither the number of bytes of
  a tag that are compared (`Authsize`) nor the number of pages of tags (`AuthCount`) is checked.  If
  the tags are complete and all of them in that area, every page that a thread copies is authentic.
-/
import OhMyAbl.Hibernation.Layout

namespace OhMyAbl

open Prog Bytes

/-! ### What the disk says about the image -/

section Disk

variable (contents : Bytes)

/-- The numbers of meta pages and of copy pages, from the info page behind the first swap-map page,
    which is page 1. -/
def metaPages : Nat :=
  let info := contents.shift (2 * PAGE_SIZE)
  u32 (u64Sub (u64Sub (SwsuspInfo.pages info) (SwsuspInfo.imagePages info)) 1)

def copyPagesCount : Nat := u32 (SwsuspInfo.imagePages (contents.shift (2 * PAGE_SIZE)))

def tagArea : Nat := authslotStart (metaPages contents) (copyPagesCount contents)

def decryptParam : Bytes := contents.shift (u32 (tagArea contents + MAX_UINT32) * PAGE_SIZE)

/-- The tags are complete, and those of all pages are in the area of the tags. -/
structure TagsComplete : Prop where
  authsize_eq : DecryptParam.authsize (decryptParam contents) = CIPHER_AES_BLK_SIZE
  authCount_lt : DecryptParam.authCount (decryptParam contents) < 2 ^ 19
  tags_le : (metaPages contents + copyPagesCount contents) * CIPHER_AES_BLK_SIZE ≤
    DecryptParam.authCount (decryptParam contents) * PAGE_SIZE

/-- The page is the decryption of the `k`th page behind the info page, under the IV that is counted
    on to it, and its complete tag, the `k`th in the area of the tags, is the one that was
    computed. -/
def AuthenticPage (platform : AesPlatform) (k : Nat) (page : List UInt8) : Prop :=
  ∃ key iv tag,
    platform.unwrapKey (DecryptParam.keyBlob (decryptParam contents)) = some key ∧
    CountedOn (DecryptParam.iv (decryptParam contents)) (k + 1) iv ∧
    platform.gcm.decrypt key iv (DecryptParam.aad (decryptParam contents))
      (contents.frame PAGE_SIZE (indexPage 1 k)) = some (page, tag) ∧
    (k + 1) * CIPHER_AES_BLK_SIZE ≤ DecryptParam.authCount (decryptParam contents) * PAGE_SIZE ∧
    tag = contents.slice (tagArea contents * PAGE_SIZE + k * CIPHER_AES_BLK_SIZE)
      CIPHER_AES_BLK_SIZE

/-- The page is authentic as one of the data pages of the image. -/
def AuthenticData (platform : AesPlatform) (page : List UInt8) : Prop :=
  ∃ n < copyPagesCount contents, AuthenticPage contents platform (metaPages contents + n) page

end Disk

/-! ### What the setup reads -/

theorem wp_readImage_contents {α : Type} {swap : Swap} {offset nrPages : Nat} {buff : Bytes}
    {f : Int × Bytes → Prog Reads RestoreExit α} {Q : α → Reads → Prop} {reads : Reads}
    (hgeo : swap.Geometry) (hlow : swap.FailuresShow) (hoffset : offset < 2 ^ 52)
    (hnr : nrPages < 2 ^ 19) (hfail : ∀ ret data, ret ≠ 0 → f (ret, data) = throw .failed)
    (hf : ∀ reads, wp (f (0, buff.copyFrames PAGE_SIZE 0 nrPages swap.contents offset)) Q
      anyExit reads) :
    wp (readImage swap offset nrPages buff >>= f) Q anyExit reads := by
  refine wp_readImage hlow hfail fun hstatus => ?_
  rw [hgeo.readImage_eq hoffset hnr hstatus]
  exact hf _

variable {x : Nat} {env : RestoreEnv} {s₀ : RestoreState}

theorem Bytes.copyFrames_zero_apply {c f : Bytes} {size n b : Nat} (h : x < n * size) :
    c.copyFrames size 0 n f b x = f.shift (b * size) x := by
  unfold copyFrames
  rw [Nat.zero_mul, overwrite_inside (Nat.zero_le x) (by omega), Nat.sub_zero]

section Setup

variable {platform : RestorePlatform} {reads : Reads}

theorem readSwapInfoStruct_spec (hgeo : platform.swap.Geometry)
    (hlow : platform.swap.FailuresShow) :
    wp (readSwapInfoStruct platform 1)
      (fun r _ => r = (metaPages platform.swap.contents, copyPagesCount platform.swap.contents))
      anyExit reads := by
  refine .ite (fun _ => trivial) fun _ => ?_
  refine wp_readImage_contents hgeo hlow (by decide) (by decide) (fun ret data hne => if_pos hne)
    fun reads => ?_
  dsimp only
  rw [if_neg (by decide), wp_pure]
  unfold metaPages copyPagesCount SwsuspInfo.pages SwsuspInfo.imagePages
  have hpages : ∀ a, a + 8 ≤ PAGE_SIZE → u64At (copyFrames (fun _ => 0) PAGE_SIZE 0 1
      platform.swap.contents (u64 (1 + 1))) a =
      (platform.swap.contents.shift (2 * PAGE_SIZE)).u64At a := by
    intro a ha
    refine u64At_congr fun i hi => ?_
    exact copyFrames_zero_apply (by omega)
  rw [hpages 416 (by decide), hpages 424 (by decide)]

structure ContextOf (aes : AesPlatform) (contents : Bytes) (context : AesContext) : Prop where
  gcm_eq : context.gcm = aes.gcm
  key_eq : aes.unwrapKey (DecryptParam.keyBlob (decryptParam contents)) = some context.unwrappedKey
  aad_eq : context.aad = DecryptParam.aad (decryptParam contents)
  authsize_eq : context.authsize = DecryptParam.authsize (decryptParam contents)
  tags_eq : ∀ k < DecryptParam.authCount (decryptParam contents) * PAGE_SIZE,
    context.authtags k = contents (tagArea contents * PAGE_SIZE + k)

variable {swap : Swap} {aes : AesPlatform} {iv : List UInt8} {image nrMetaPages : Nat}

theorem decryptParam_read {c dp : Bytes}
    (h : dp = c.copyFrames PAGE_SIZE 0 DecryptParam.size swap.contents
      (u32 (tagArea swap.contents + MAX_UINT32))) :
    DecryptParam.authsize dp = DecryptParam.authsize (decryptParam swap.contents) ∧
      DecryptParam.authCount dp = DecryptParam.authCount (decryptParam swap.contents) ∧
      DecryptParam.keyBlob dp = DecryptParam.keyBlob (decryptParam swap.contents) ∧
      DecryptParam.iv dp = DecryptParam.iv (decryptParam swap.contents) ∧
      DecryptParam.aad dp = DecryptParam.aad (decryptParam swap.contents) := by
  have hbyte : ∀ x < PAGE_SIZE, dp x = decryptParam swap.contents x := by
    intro x hx
    have hsize : PAGE_SIZE ≤ DecryptParam.size * PAGE_SIZE := by decide
    rw [h, copyFrames_zero_apply (by omega)]
    rfl
  have hpage : PAGE_SIZE = 4096 := rfl
  refine ⟨?_, ?_, ?_, ?_, ?_⟩
  · exact u32At_congr fun i hi => hbyte _ (by omega)
  · exact u32At_congr fun i hi => hbyte _ (by omega)
  · refine slice_congr fun i hi => hbyte _ ?_
    unfold WRAPPED_KEY_SIZE at hi
    omega
  · exact slice_congr fun i hi => hbyte _ (by omega)
  · exact slice_congr fun i hi => hbyte _ (by omega)

theorem initAesDecrypt_spec {cores : Nat} (hgeo : swap.Geometry)
    (hlow : swap.FailuresShow) (htags : TagsComplete swap.contents) :
    wp (initAesDecrypt swap aes (metaPages swap.contents) (copyPagesCount swap.contents) cores)
      (fun r _ => ContextOf aes swap.contents r.1 ∧
        r.2 = DecryptParam.iv (decryptParam swap.contents)) anyExit reads := by
  have harea : authslotStart (metaPages swap.contents) (copyPagesCount swap.contents) =
    tagArea swap.contents := rfl
  have hlt : ∀ n, u32 n < 2 ^ 52 := fun n =>
    Nat.lt_of_lt_of_le (Nat.mod_lt n (by decide)) (by decide)
  unfold initAesDecrypt
  refine wp_readImage_contents hgeo hlow (hlt _) (by decide) (fun ret data hne => if_pos hne)
    fun reads => ?_
  dsimp only
  rw [if_neg (by decide)]
  generalize hdp : copyFrames _ _ _ _ _ _ = dp
  obtain ⟨hsize, hcount, hblob, hiv, haad⟩ := decryptParam_read hdp.symm
  split
  · trivial
  refine .ite (fun _ => trivial) fun _ => ?_
  have hcountLt := htags.authCount_lt
  rw [hcount]
  refine wp_readImage_contents hgeo hlow (hlt _) hcountLt (fun ret data hne => if_pos hne)
    fun reads => ?_
  dsimp only
  rw [if_neg (by decide)]
  refine .ite (fun _ => trivial) fun _ => ?_
  split
  · trivial
  · rename_i key hkey
    rw [hblob] at hkey
    exact ⟨⟨rfl, hkey, haad, hsize, fun k hk => copyFrames_zero_apply hk⟩, hiv⟩

theorem decryptPfnPages_counted {aes : AesContext} {pages index auth : Nat} {pfnArray : Bytes} :
    wp (decryptPfnPages aes pages iv index auth pfnArray)
      (fun r _ => CountedOn iv pages r.2.1 ∧ r.2.2 = auth + pages * aes.authsize)
      anyExit reads := by
  induction pages generalizing iv index auth pfnArray with
  | zero => exact ⟨⟨rfl, rfl⟩, (Nat.zero_mul _).symm ▸ rfl⟩
  | succ pages ih =>
    unfold decryptPfnPages
    split
    · trivial
    rename_i d hd
    split
    · rename_i hok
      have hfirst := incrementIV_countedOn (by decide) (decryptPage_ok hd hok).1
      refine wp_imp ih ?_
      rintro r _ ⟨hiv, hauth⟩
      refine ⟨Nat.add_comm 1 pages ▸ hfirst.trans hiv, ?_⟩
      rw [hauth, Nat.succ_mul]
      omega
    · trivial

theorem readPfnPages_offset {pool : Option Bytes} (hmeta : nrMetaPages < 2 ^ 30) :
    wp (readPfnPages swap 1 nrMetaPages pool)
      (fun r _ => (1 ≤ r.2 ∧ r.2 ≤ 1 + 2 + 2 * nrMetaPages) ∧
        ∀ i, followingPage 1 r.2 i = indexPage 1 (nrMetaPages + i)) anyExit reads := by
  refine wp_imp (readPfnPages_end (by decide)) ?_
  intro r _ hr
  refine ⟨?_, fun i => followingPage_behind_index ?_ hr⟩
  · unfold ENTRIES_PER_SWAPMAP_PAGE PFN_INDEXES_PER_PAGE at hr
    rw [pfnDiskOffset_eq (by decide) (by omega), PFN_INDEXES_PER_PAGE] at hr
    omega
  · unfold ENTRIES_PER_SWAPMAP_PAGE PFN_INDEXES_PER_PAGE
    omega

theorem readKernelImagePfnIndexes_spec {context : AesContext} (hmeta : nrMetaPages < 2 ^ 30) :
    wp (readKernelImagePfnIndexes platform 1 nrMetaPages (some (context, iv)))
      (fun r _ => ((1 ≤ r.2.1 ∧ r.2.1 ≤ 1 + 2 + 2 * nrMetaPages) ∧
          ∀ i, followingPage 1 r.2.1 i = indexPage 1 (nrMetaPages + i)) ∧
        CountedOn iv nrMetaPages r.2.2.1 ∧ r.2.2.2 = nrMetaPages * context.authsize)
      anyExit reads := by
  refine wp_seq (readPfnPages_offset hmeta) ?_
  intro index reads₁ hoffset
  refine wp_seq decryptPfnPages_counted ?_
  rintro r _ ⟨hiv, hauth⟩
  exact ⟨hoffset, hiv, hauth.trans (Nat.zero_add _)⟩

/-- The threads are started behind the index of the image, with the parameters of its disk. -/
def StartedFrom (platform : RestorePlatform) (aes : AesPlatform) (env : RestoreEnv)
    (s : RestoreState) : Prop :=
  ∃ context pfnArray offset iv, ContextOf aes platform.swap.contents context ∧
    ((1 ≤ offset ∧ offset ≤ 1 + 2 + 2 * metaPages platform.swap.contents) ∧
      ∀ i, followingPage 1 offset i = indexPage 1 (metaPages platform.swap.contents + i)) ∧
    CountedOn (DecryptParam.iv (decryptParam platform.swap.contents))
      (metaPages platform.swap.contents) iv ∧
    Started platform 1 (copyPagesCount platform.swap.contents) (some context) pfnArray offset iv
      (metaPages platform.swap.contents * context.authsize) env s

theorem metaPages_lt {contents : Bytes} (h : TagsComplete contents) :
    metaPages contents + copyPagesCount contents < 2 ^ 28 := by
  have hcount := h.authCount_lt
  have hle := h.tags_le
  unfold CIPHER_AES_BLK_SIZE PAGE_SIZE at hle
  omega

theorem restoreSetup_startedFrom (haes : platform.aes = some aes) (hgeo : platform.swap.Geometry)
    (hlow : platform.swap.FailuresShow) (htags : TagsComplete platform.swap.contents) :
    wp (restoreSetup platform 1) (fun r _ => StartedFrom platform aes r.1 r.2) anyExit reads := by
  have hlt := metaPages_lt htags
  unfold restoreSetup initAes
  rw [haes]
  refine wp_seq (readSwapInfoStruct_spec hgeo hlow) ?_
  rintro counts reads₁ rfl
  rw [wp_bind, wp_map]
  refine wp_imp (initAesDecrypt_spec hgeo hlow htags) ?_
  rintro ⟨context, iv⟩ reads₂ ⟨hcontext, rfl⟩
  refine wp_seq (readKernelImagePfnIndexes_spec (by omega)) ?_
  rintro ⟨pfnArray, offset, iv', auth⟩ reads₃ ⟨hoffset, hiv, rfl⟩
  refine wp_imp divideImage_started ?_
  intro r _ hstarted
  exact ⟨context, _, _, _, hcontext, hoffset, hiv, hstarted⟩

end Setup

section Boot

variable {boot : HibernationBoot} {reads : Reads}

theorem checkForValidHeader_image :
    wp (checkForValidHeader boot) (fun image _ => image = 1) anyExit reads := by
  refine .ite (fun _ => trivial) fun _ => .ite (fun _ => trivial) fun _ =>
    .ite (fun _ => trivial) fun _ => .ite (fun _ => trivial) fun _ => ?_
  refine wp_bind_any fun header reads₁ => ?_
  exact .ite (fun _ => trivial) fun _ => .ite (fun _ => trivial) fun _ =>
    .ite (fun _ => trivial) fun himage => not_not.mp himage

theorem restoreStart_startedFrom {aes : AesPlatform} (haes : boot.aes = some aes)
    (hgeo : boot.swap.Geometry) (hlow : boot.swap.FailuresShow)
    (htags : TagsComplete boot.swap.contents) :
    wp (restoreStart boot) (fun r _ => StartedFrom boot.toRestorePlatform aes r.1 r.2)
      anyExit reads := by
  refine wp_seq checkForValidHeader_image ?_
  rintro image reads₁ rfl
  exact .ite (fun _ => trivial) fun _ => .ite (fun _ => trivial) fun _ =>
    .ite (fun _ => trivial) fun _ => restoreSetup_startedFrom haes hgeo hlow htags

end Boot

/-! ### What the threads copy -/

/-- The next step of the thread copies this page, to its frame or to a bounce page. -/
structure Copies (env : RestoreEnv) (s : RestoreState) (t : Nat) (page : List UInt8) : Prop where
  enabled : (restoreMachine env s t).isSome = true
  pc_eq : ∃ dstPfn, (s.workers t).pc = .copy dstPfn ∨ (s.workers t).pc = .bounce dstPfn
  page_eq : page = s.memory.slice (pfnAddr (s.workers t).srcPfn) PAGE_SIZE

section Copies

variable {env : RestoreEnv} {s : RestoreState} {t : Nat} {page : List UInt8}

theorem Copies.lt_cores (h : Copies env s t page) : t < env.cores := by
  obtain ⟨s', hstep⟩ := Option.isSome_iff_exists.mp h.enabled
  exact (restoreMachine_moved hstep).1

theorem RestoreInv.copies_handed (hinv : RestoreInv env s) (hsep : env.Separate)
    (h : Copies env s t page) :
    ∃ i handed, i < (env.info t).numPages ∧ HandedRight env t i handed ∧ handed.page = page := by
  have ht := h.lt_cores
  have hw := hinv.workers t ht
  obtain ⟨dstPfn, hpc⟩ := h.pc_eq
  have hhand : InHand env t s.memory (s.workers t) dstPfn := by
    rcases hpc with hpc | hpc <;> exact (hw.at hpc).2
  have hne : (s.workers t).pc ≠ .done := by
    rcases hpc with hpc | hpc <;> simp [hpc]
  obtain ⟨hlength, -⟩ := hw.counts_of_ne hne
  have hlast := hhand.last
  rw [List.getLast?_eq_getElem?, hlength] at hlast
  refine ⟨_, _, (hw.dst_eq hne hhand).2, hw.handed_right _ _ hlast, ?_⟩
  have hsrc := Nat.lt_of_lt_of_le hhand.src_inBuffer.2 (hsep.buffer_le t ht)
  rw [h.page_eq, pfnAddr_of_lt hsrc, frame]

end Copies

theorem AuthenticData.of_handed {platform : RestorePlatform} {aes : AesPlatform} {t i : Nat}
    {handed : HandedPage} (haes : platform.aes = some aes)
    (htags : TagsComplete platform.swap.contents)
    (hstarted : StartedFrom platform aes env s₀) (ht : t < env.cores)
    (hi : i < (env.info t).numPages) (hright : HandedRight env t i handed) :
    AuthenticData platform.swap.contents aes handed.page := by
  obtain ⟨context, pfnArray, offset, iv₀, hcontext, ⟨-, hlayout⟩, hmeta, hstart⟩ := hstarted
  obtain ⟨-, hoffset, hnum, hauth, hcore⟩ := restoreInfo_fields (hstart.info_eq t ht)
  obtain ⟨iv, tag, hafter, hdecrypt, -, htag⟩ := hright.page_auth context hstart.aes_eq
  have hpart : pagesBefore platform.numCores (copyPagesCount platform.swap.contents) t +
      pagesPerCore platform.numCores (copyPagesCount platform.swap.contents) t ≤
      copyPagesCount platform.swap.contents :=
    pagesBefore_add_le platform.numCores_eq (hstart.cores_eq ▸ ht)
  have hsize : context.authsize = CIPHER_AES_BLK_SIZE :=
    hcontext.authsize_eq.trans htags.authsize_eq
  have hle := htags.tags_le
  have hsmall := metaPages_lt htags
  rw [hright.offset_eq, hoffset, hstart.image_eq, followingPage_skipPages, hlayout, hstart.swap_eq,
    hcontext.gcm_eq, hcontext.aad_eq] at hdecrypt
  rw [coreIv, haes, Option.isSome_some, if_pos rfl] at hcore
  have hcounted := hmeta.trans
    ((ivOfCore_countedOn (by omega) hcore).trans (ivAfter_countedOn hafter))
  have hlength : tag.length = context.authsize := (aes.gcm.tag_length hdecrypt).trans hsize.symm
  rw [List.take_of_length_le (Nat.le_of_eq hlength), hauth, Option.map_some,
    Option.getD_some, hsize, Nat.add_assoc, ← Nat.add_mul, ← Nat.add_mul] at htag
  unfold CIPHER_AES_BLK_SIZE at hle
  refine ⟨pagesBefore platform.numCores (copyPagesCount platform.swap.contents) t + i, by omega,
    _, iv, tag, hcontext.key_eq, ?_, hdecrypt, ?_, ?_⟩
  · rwa [Nat.add_assoc, Nat.add_assoc]
  · unfold CIPHER_AES_BLK_SIZE
    omega
  · rw [htag]
    refine List.map_congr_left fun k hk => ?_
    have hlt := List.mem_range.mp hk
    unfold CIPHER_AES_BLK_SIZE at hlt ⊢
    rw [hcontext.tags_eq _ (by omega), Nat.add_assoc (tagArea platform.swap.contents * PAGE_SIZE)]

/-- With complete tags, and if every failed read is noticed, only authentic pages are copied. -/
theorem restore_authenticated {boot : HibernationBoot} {aes : AesPlatform}
    {schedule pre rest : List Nat} {env : RestoreEnv} {s₀ s : RestoreState} {t : Nat}
    {page : List UInt8}
    (haes : boot.aes = some aes) (hgeo : boot.swap.Geometry)
    (hnoticed : FailuresNoticed boot schedule) (htags : TagsComplete boot.swap.contents)
    (hstart : ((restoreStart boot).exec []).1 = .ok (env, s₀)) (hsep : env.Separate)
    (hschedule : schedule = pre ++ t :: rest) (hrun : (restoreMachine env).run s₀ pre = some s)
    (hcopies : Copies env s t page) : AuthenticData boot.swap.contents aes page := by
  have hwp : wp (restoreStart boot)
      (fun r _ => StartedFrom boot.toRestorePlatform aes r.1 r.2) (fun _ _ => True) [] :=
    restoreStart_startedFrom haes hgeo hnoticed.outcome htags
  have hstarted := wp_ok hwp (exec_of_result hstart)
  have hlt := metaPages_lt htags
  have hinv : RestoreInv env s := by
    obtain ⟨context, pfnArray, offset, iv, -, ⟨⟨hle, hoffset⟩, -⟩, -, hbegun⟩ := hstarted
    have hrange : ∀ t < env.cores, env.InRange t := fun t ht => hbegun.inRange hle (by omega) ht
    have hsound : env.Sound := ⟨hsep, hbegun.swap_eq ▸ hgeo, hrange⟩
    have halong := hnoticed.data env s₀ hstart
    rw [hschedule] at halong
    exact (hbegun.inv hrange).run hsound halong.left hrun
  obtain ⟨i, handed, hi, hright, rfl⟩ := hinv.copies_handed hsep hcopies
  exact AuthenticData.of_handed haes htags hstarted hcopies.lt_cores hi hright

def constantTag (tag : List UInt8) (h : tag.length = CIPHER_AES_BLK_SIZE) : Gcm where
  decrypt _ _ _ text := some (text, tag)
  plain_length := by
    rintro _ _ _ _ _ _ ⟨⟩
    rfl
  tag_length := by
    rintro _ _ _ _ _ _ ⟨⟩
    exact h

def zeroTag : Gcm := constantTag (List.replicate 16 0) rfl

def partialTag : Gcm := constantTag (0 :: List.replicate 15 1) rfl

/-- `sampleImage` with the parameters of the decryption on page 7, and tags of zeros behind them. -/
def sampleAesImage (authsize : Nat) : Bytes :=
  (sampleImage.put (7 * PAGE_SIZE) 4 authsize).put (7 * PAGE_SIZE + 4) 4 1

def sampleAes (gcm : Gcm) : AesPlatform where
  gcm := gcm
  authtagPool := some fun _ => 0
  tempOut t := some (0x8000 + t)
  authCur _ := true
  unwrapKey _ := some []

def sampleAesBoot (authsize : Nat) (gcm : Gcm) : HibernationBoot :=
  { sampleHibernation fun _ => EFI_SUCCESS with
    swap := { (sampleHibernation fun _ => EFI_SUCCESS).swap with
      contents := sampleAesImage authsize }
    aes := some (sampleAes gcm)
    diskReadBuffer := fun t => some (0x10000 + 0x4000 * t) }

def sampleAesSchedule : List Nat := List.replicate 9 7 ++ [0, 1, 2, 3, 4, 5, 6]

/-- What the threads of a sample boot are given, and the frame for the first page. -/
def sampleStarted (env : RestoreEnv) (s₀ : RestoreState) : Bool :=
  decide (env.cores = 8) && decide (env.pool.freeRanges = [⟨0x1A00000, 0x2000000⟩]) &&
    ((List.range 8).all fun t => decide ((env.info t).diskReadBuffer = 0x10000 + 0x4000 * t ∧
      (env.info t).tempOut = 0x8000 + t)) &&
    decide (((restoreMachine env).run s₀ [7, 7]).map (fun s =>
      ((s.workers 7).pc, (restoreMachine env s 7).isSome)) = some (.copy 0x1A10, true))

theorem sampleStarted_separate (h : sampleStarted env s₀ = true) : env.Separate := by
  unfold sampleStarted at h
  simp only [Bool.and_eq_true, decide_eq_true_eq, List.all_eq_true, List.mem_range] at h
  obtain ⟨⟨⟨hcores, hranges⟩, hinfo⟩, -⟩ := h
  have hfree : ∀ p, env.FreeFrame p → p < 0x2000 := by
    intro p hp
    unfold RestoreEnv.FreeFrame at hp
    rw [hranges] at hp
    rw [checkFreeRanges, List.any_cons, List.any_nil, Bool.or_false, Bool.and_eq_true] at hp
    have hlt : p * 4096 < 0x2000000 := of_decide_eq_true hp.2
    omega
  have hdisk : DISK_BUFFER_PAGES = 0x4000 := rfl
  have hmax : MAX_PFN = 2 ^ 52 := rfl
  rw [← hcores] at hinfo
  refine ⟨?_, ?_, ?_, ?_, ?_, ?_⟩
  · intro t ht
    have := hinfo t ht
    omega
  · rintro t ht p ⟨hle, -⟩ hp
    have := hinfo t ht
    have := hfree p hp
    omega
  · rintro t ht u hu hne p ⟨hle, hlt⟩ ⟨hle', hlt'⟩
    have := hinfo t ht
    have := hinfo u hu
    omega
  · intro _ t ht
    have := hinfo t ht
    omega
  · intro _ t ht hp
    have := hinfo t ht
    have := hfree _ hp
    omega
  · rintro _ t ht u hu ⟨hle, -⟩
    have := hinfo t ht
    have := hinfo u hu
    omega

theorem sampleStarted_copies (h : sampleStarted env s₀ = true) :
    ∃ s page, (restoreMachine env).run s₀ [7, 7] = some s ∧ Copies env s 7 page := by
  unfold sampleStarted at h
  simp only [Bool.and_eq_true, decide_eq_true_eq] at h
  obtain ⟨s, hrun, hs⟩ := Option.map_eq_some_iff.mp h.2
  obtain ⟨hpc, henabled⟩ := Prod.mk.inj hs
  exact ⟨s, _, hrun, henabled, ⟨_, .inl hpc⟩, rfl⟩

theorem restore_authenticated_sample :
    ∃ env s₀ s page, ((restoreStart (sampleAesBoot 16 zeroTag)).exec []).1 = .ok (env, s₀) ∧
      (restoreMachine env).run s₀ [7, 7] = some s ∧ Copies env s 7 page ∧
      AuthenticData (sampleAesBoot 16 zeroTag).swap.contents (sampleAes zeroTag) page := by
  obtain ⟨⟨env, s₀⟩, hstart, hs₀⟩ := exec_of_eval (restoreStart (sampleAesBoot 16 zeroTag)) []
    (fun r => sampleStarted r.1 r.2) (by decide +kernel)
  obtain ⟨s, page, hrun, hcopies⟩ := sampleStarted_copies hs₀
  have hgeo : (sampleAesBoot 16 zeroTag).swap.Geometry := ⟨⟨1, rfl⟩, by decide⟩
  have htags : TagsComplete (sampleAesBoot 16 zeroTag).swap.contents :=
    ⟨by decide +kernel, by decide +kernel, by decide +kernel⟩
  have halong : (match ((restoreStart (sampleAesBoot 16 zeroTag)).exec []).1 with
      | .ok r => decide (Machine.Along (restoreMachine r.1) (ReadNoticed r.1) r.2 sampleAesSchedule)
      | .error _ => true) = true := by decide +kernel
  have hnoticed : FailuresNoticed (sampleAesBoot 16 zeroTag) sampleAesSchedule := by
    refine ⟨fun _ _ => rfl, fun env s hs => ?_⟩
    rw [hs] at halong
    exact of_decide_eq_true halong
  have haes : (sampleAesBoot 16 zeroTag).aes = some (sampleAes zeroTag) := rfl
  have hschedule : sampleAesSchedule = [7, 7] ++
      7 :: (List.replicate 6 7 ++ [0, 1, 2, 3, 4, 5, 6]) :=
    rfl
  exact ⟨env, s₀, s, page, hstart, hrun, hcopies, restore_authenticated haes hgeo hnoticed htags
    hstart (sampleStarted_separate hs₀) hschedule hrun hcopies⟩

theorem sampleAesImage_zero {authsize : Nat} (h : 8 * PAGE_SIZE ≤ x) :
    sampleAesImage authsize x = 0 := by
  unfold PAGE_SIZE at h
  simp only [sampleAesImage, sampleImage, put, PAGE_SIZE]
  iterate 10 rw [overwrite_outside (.inr (by omega))]

/-- The tag of every page differs from what is stored, in all bytes but the first; one byte is
    compared, and the kernel is entered. -/
theorem restore_accepts_partial_tag :
    ∃ env s₀ s page s', ((restoreStart (sampleAesBoot 1 partialTag)).exec []).1 = .ok (env, s₀) ∧
      (restoreMachine env).run s₀ [7, 7] = some s ∧ Copies env s 7 page ∧
      bootIntoHibernationImage (sampleAesBoot 1 partialTag) sampleAesSchedule = .jumped s' ∧
      ¬ AuthenticData (sampleAesImage 1) (sampleAes partialTag) page := by
  obtain ⟨⟨env, s₀⟩, hstart, hs₀⟩ := exec_of_eval (restoreStart (sampleAesBoot 1 partialTag)) []
    (fun r => sampleStarted r.1 r.2) (by decide +kernel)
  obtain ⟨s, page, hrun, hcopies⟩ := sampleStarted_copies hs₀
  have hreads : (bootIntoHibernationImage (sampleAesBoot 1 partialTag) sampleAesSchedule).reads? =
      some (List.replicate 6 EFI_SUCCESS) := by decide +kernel
  obtain ⟨s', hjump, -⟩ := Resume.eq_jumped hreads
  refine ⟨env, s₀, s, page, s', hstart, hrun, hcopies, hjump, ?_⟩
  rintro ⟨n, -, key, iv, tag, -, -, hdecrypt, -, htag⟩
  obtain ⟨-, hconst⟩ := Prod.mk.inj (Option.some.inj hdecrypt)
  have harea : tagArea (sampleAesImage 1) = 8 := by decide +kernel
  -- the second byte of the tag is not among the stored ones
  have hbyte : (sampleAesImage 1) (tagArea (sampleAesImage 1) * PAGE_SIZE +
      (metaPages (sampleAesImage 1) + n) * CIPHER_AES_BLK_SIZE + 1) = 1 := by
    have hsecond := congrArg (fun l => l[1]?) (hconst.trans htag)
    exact (Option.some.inj hsecond).symm
  rw [harea, sampleAesImage_zero (by omega)] at hbyte
  exact absurd hbyte (by decide)

end OhMyAbl
