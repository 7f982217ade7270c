/-
  **The swap partition and the layout of a hibernation image on it.**

  The image is written in page order: the info page, the PFN index, then the data pages, with a
  swap-map page after every 511 of them.  `followingPage` is the layout itself, the pages from some
  position on without the swap-map pages.
-/
import OhMyAbl.Lib.Frames
import OhMyAbl.Storage.BlockIo

namespace OhMyAbl

open Prog Bytes

def PAGE_SIZE : Nat := 4096
def PFN_INDEXES_PER_PAGE : Nat := 512
def ENTRIES_PER_SWAPMAP_PAGE : Nat := PFN_INDEXES_PER_PAGE - 1

def i32 (n : Nat) : Int := (BitVec.ofNat 32 n).toInt

def u64OfInt (z : Int) : Nat := (BitVec.ofInt 64 z).toNat

variable {n : Nat}

theorem i32_of_lt (h : n < 2 ^ 31) : i32 n = n := by
  have hnat : (BitVec.ofNat 32 n).toNat = n := by
    rw [BitVec.toNat_ofNat, Nat.mod_eq_of_lt (by omega)]
  rw [i32, BitVec.toInt_eq_toNat_of_lt (by omega), hnat]

theorem u64OfInt_natCast (h : n < 2 ^ 64) : u64OfInt n = n := by
  rw [u64OfInt, BitVec.toNat_ofInt, Int.emod_eq_of_lt (by omega) (by omega), Int.toNat_natCast]

/-! ### Reading pages -/

/-- `SwapDetails`, with the contents of the partition and what a failed read leaves in its
    buffer. -/
structure Swap where
  io : BlockIo
  contents : Bytes
  leaves : Nat → Bytes

namespace Swap

variable (swap : Swap)

def blocksPerPage : Nat := PAGE_SIZE / swap.io.blockSize

def lba (offset : Nat) : Nat := u64 (offset * swap.blocksPerPage)

def transferSize (nrPages : Nat) : Nat := u64OfInt (i32 (PAGE_SIZE * nrPages))

def readStatus (n offset nrPages : Nat) : EfiStatus :=
  swap.io.transferStatus n (swap.lba offset) (transferSize nrPages)

/-- `ReadImage` as the `n`th operation: the status as an `INT32`, and the buffer. -/
def readImage (n offset nrPages : Nat) (buff : Bytes) : Int × Bytes :=
  let status := swap.readStatus n offset nrPages
  (i32 status.toNat,
    buff.overwrite 0 (transferSize nrPages)
      (if status = EFI_SUCCESS then swap.contents.shift (swap.lba offset * swap.io.blockSize)
       else swap.leaves n))

/-- A page is a whole number of blocks, and the size of the medium fits 64 bits, as
    `VerifySwapPartition` has found. -/
structure Geometry : Prop where
  dvd : swap.io.blockSize ∣ PAGE_SIZE
  size_le : (swap.io.lastBlock + 1) * swap.io.blockSize ≤ MAX_UINT64

structure Holds (pages : Nat) : Prop extends swap.Geometry where
  pages_le : pages * PAGE_SIZE ≤ (swap.io.lastBlock + 1) * swap.io.blockSize

variable {swap} {pages n offset nrPages : Nat}

theorem transferSize_of_lt (h : nrPages < 2 ^ 19) : transferSize nrPages = nrPages * PAGE_SIZE := by
  have hsize : PAGE_SIZE * nrPages < 2 ^ 31 := by
    unfold PAGE_SIZE
    omega
  rw [transferSize, i32_of_lt hsize, u64OfInt_natCast (by omega), Nat.mul_comm]

theorem Geometry.blocksPerPage_mul (h : swap.Geometry) :
    swap.blocksPerPage * swap.io.blockSize = PAGE_SIZE :=
  Nat.div_mul_cancel h.dvd

theorem Geometry.blockSize_pos (h : swap.Geometry) : 0 < swap.io.blockSize :=
  Nat.pos_of_dvd_of_pos h.dvd (by decide)

theorem Geometry.lba_mul (h : swap.Geometry) (hoffset : offset < 2 ^ 52) :
    swap.lba offset * swap.io.blockSize = offset * PAGE_SIZE := by
  have hbpp : swap.blocksPerPage ≤ 4096 := Nat.div_le_self _ _
  have hlba : offset * swap.blocksPerPage ≤ offset * 4096 := Nat.mul_le_mul_left _ hbpp
  rw [lba, u64, Nat.mod_eq_of_lt (by omega), Nat.mul_assoc, h.blocksPerPage_mul]

theorem Geometry.readImage_eq (h : swap.Geometry) (hoffset : offset < 2 ^ 52)
    (hnr : nrPages < 2 ^ 19) (hstatus : swap.readStatus n offset nrPages = EFI_SUCCESS)
    {buff : Bytes} :
    swap.readImage n offset nrPages buff =
      (0, buff.copyFrames PAGE_SIZE 0 nrPages swap.contents offset) := by
  unfold readImage
  dsimp only
  rw [hstatus, if_pos rfl, transferSize_of_lt hnr, h.lba_mul hoffset, copyFrames, Nat.zero_mul]
  rfl

theorem Holds.pages_lt (h : swap.Holds pages) : pages < 2 ^ 52 := by
  have hle := Nat.le_trans h.pages_le h.size_le
  unfold PAGE_SIZE MAX_UINT64 at hle
  omega

theorem Holds.readStatus_eq (h : swap.Holds pages) (hend : offset + nrPages ≤ pages)
    (hnr : nrPages < 2 ^ 19) : swap.readStatus n offset nrPages = swap.io.outcome n := by
  have hpos := h.blockSize_pos
  have hpage := h.blocksPerPage_mul
  have hlt := h.pages_lt
  have hlba := h.lba_mul (show offset < 2 ^ 52 by omega)
  have hsize : nrPages * PAGE_SIZE = nrPages * swap.blocksPerPage * swap.io.blockSize := by
    rw [Nat.mul_assoc, hpage]
  have hroom : swap.lba offset + nrPages * swap.blocksPerPage ≤ swap.io.lastBlock + 1 := by
    refine Nat.le_of_mul_le_mul_right ?_ hpos
    have := Nat.mul_le_mul_right PAGE_SIZE hend
    rw [Nat.add_mul] at this
    rw [Nat.add_mul, hlba, Nat.mul_assoc, hpage]
    exact Nat.le_trans this h.pages_le
  unfold readStatus BlockIo.transferStatus
  rw [transferSize_of_lt hnr, hsize, Nat.mul_mod_left, Nat.mul_div_cancel _ hpos]
  rw [if_neg (by simp), if_neg (Nat.not_lt.mpr hroom)]

end Swap

abbrev Reads := List EfiStatus

/-- How a step of the restore ends early: it reports a failure, or it never returns. -/
inductive RestoreExit where
  | failed
  | stuck
deriving DecidableEq, Repr

def readImage (swap : Swap) (offset nrPages : Nat) (buff : Bytes) :
    Prog Reads RestoreExit (Int × Bytes) := do
  let reads ← get
  modify fun reads => reads ++ [swap.readStatus reads.length offset nrPages]
  return swap.readImage reads.length offset nrPages buff

/-! ### The layout of an image -/

def checkSwapMapPage (image offset : Nat) : Bool :=
  decide (u64Sub offset image % PFN_INDEXES_PER_PAGE = 0)

def skipSwapMap (image offset : Nat) : Nat :=
  if checkSwapMapPage image offset then offset + 1 else offset

/-- The `i`th page from `start` on when the swap-map pages are not counted. -/
def followingPage (image start : Nat) : Nat → Nat
  | 0 => skipSwapMap image start
  | i + 1 => skipSwapMap image (followingPage image start i + 1)

/-- The `i`th page of the PFN index, which follows the first swap-map page and the info page. -/
def indexPage (image i : Nat) : Nat := followingPage image (image + 2) i

section Layout

variable {image offset start i j k : Nat}

theorem checkSwapMapPage_add (h : image + k < 2 ^ 64) :
    checkSwapMapPage image (image + k) = decide (k % PFN_INDEXES_PER_PAGE = 0) := by
  rw [checkSwapMapPage, u64Sub_of_le (Nat.le_add_right _ _) h, Nat.add_sub_cancel_left]

theorem skipSwapMap_add (h : image + k < 2 ^ 64) :
    skipSwapMap image (image + k) =
      image + if k % PFN_INDEXES_PER_PAGE = 0 then k + 1 else k := by
  unfold skipSwapMap
  simp only [checkSwapMapPage_add h, decide_eq_true_eq]
  split <;> rfl

theorem followingPage_succ_start :
    followingPage image (followingPage image start i + 1) j =
      followingPage image start (i + 1 + j) := by
  induction j with
  | zero => rfl
  | succ j ih =>
    rw [followingPage, ih]
    rfl

theorem indexPage_eq (h : image + 2 * i + 4 < 2 ^ 64) :
    indexPage image i = image + 2 + i + (i + 1) / ENTRIES_PER_SWAPMAP_PAGE := by
  unfold indexPage
  induction i with
  | zero =>
    rw [followingPage, skipSwapMap, checkSwapMapPage_add (by omega)]
    rfl
  | succ i ih =>
    have hnext : image + 2 + i + (i + 1) / ENTRIES_PER_SWAPMAP_PAGE + 1 =
        image + (3 + i + (i + 1) / 511) := by
      unfold ENTRIES_PER_SWAPMAP_PAGE PFN_INDEXES_PER_PAGE
      omega
    rw [followingPage, ih (by omega), hnext, skipSwapMap_add (by omega)]
    unfold ENTRIES_PER_SWAPMAP_PAGE PFN_INDEXES_PER_PAGE
    split
    · omega
    · omega

end Layout

/-! ### ReadKernelImagePfnIndexes -/

/-- Where the run behind the `loop`th swap-map page starts; the product is one of two `INT32`. -/
def pfnDiskOffset (image loop : Nat) : Nat :=
  u64 (image + u64OfInt (i32 (PFN_INDEXES_PER_PAGE * loop)) + 1)

/-- The loop over the runs of index pages, with a bound on the number of its rounds: the array, and
    the page behind the last run. -/
def readPfnRuns (swap : Swap) (image : Nat) : (rounds loop diskOffset pagesToRead pagesRead
    pendingPages : Nat) → Bytes → Prog Reads RestoreExit (Bytes × Nat)
  | 0, _, _, _, _, _, _ => throw .stuck
  | rounds + 1, loop, diskOffset, pagesToRead, pagesRead, pendingPages, pfnArray => do
    let (ret, run) ←
      readImage swap diskOffset pagesToRead (pfnArray.shift (pagesRead * PAGE_SIZE))
    if ret ≠ 0 then throw .failed
    else
      let pfnArray := pfnArray.replaceFrom (pagesRead * PAGE_SIZE) run
      let pending := pendingPages - pagesToRead
      if pending = 0 then return (pfnArray, diskOffset + pagesToRead)
      else
        readPfnRuns swap image rounds (loop + 1) (pfnDiskOffset image (loop + 1))
          (min pending ENTRIES_PER_SWAPMAP_PAGE) (pagesRead + pagesToRead) pending pfnArray

/-- `ReadKernelImagePfnIndexes` up to the decryption: the pages of the index in a pool that holds
    `pool`, and the page behind them.  An array of no pages can not be allocated. -/
def readPfnPages (swap : Swap) (image nrMetaPages : Nat) (pool : Option Bytes) :
    Prog Reads RestoreExit (Bytes × Nat) :=
  match pool with
  | none => throw .failed
  | some pfnArray =>
    if nrMetaPages = 0 then throw .failed
    else
      readPfnRuns swap image (nrMetaPages + 1) 0 (image + 2)
        (min nrMetaPages (ENTRIES_PER_SWAPMAP_PAGE - 1)) 0 nrMetaPages pfnArray

section PfnPages

variable {swap : Swap} {image nrMetaPages rounds loop pagesRead pendingPages : Nat}
  {pfnArray : Bytes} {reads : Reads}

theorem pfnDiskOffset_eq (himage : image < 2 ^ 31) (hloop : loop < 2 ^ 22) :
    pfnDiskOffset image loop = image + PFN_INDEXES_PER_PAGE * loop + 1 := by
  have hprod : PFN_INDEXES_PER_PAGE * loop < 2 ^ 31 := by
    unfold PFN_INDEXES_PER_PAGE
    omega
  rw [pfnDiskOffset, i32_of_lt hprod, u64OfInt_natCast (by omega), u64, Nat.mod_eq_of_lt (by omega)]

variable {a n p pages diskOffset pagesToRead : Nat} {c f : Bytes} {pool : Option Bytes}

theorem frame_replaceFrom_copyFrames {b : Nat} :
    (c.replaceFrom (a * PAGE_SIZE)
        ((c.shift (a * PAGE_SIZE)).copyFrames PAGE_SIZE 0 n f b)).frame PAGE_SIZE p =
      (c.copyFrames PAGE_SIZE a n f b).frame PAGE_SIZE p := by
  congr 1
  funext x
  unfold replaceFrom copyFrames overwrite
  by_cases hx : a * PAGE_SIZE ≤ x
  · simp only [hx, if_true, Nat.zero_mul, Nat.zero_le, Nat.zero_add]
    have hiff : x - a * PAGE_SIZE < n * PAGE_SIZE ↔ x < a * PAGE_SIZE + n * PAGE_SIZE := by omega
    simp only [hiff]
    split
    · rfl
    · rw [shift_apply, Nat.add_sub_cancel' hx]
  · simp [hx]

/-- Round by round, the index pages are read around the pages of the swap map. -/
theorem readPfnRuns_spec (hio : ∀ n, swap.io.outcome n = EFI_SUCCESS) (hholds : swap.Holds pages)
    (himage : image < 2 ^ 31) (hmeta : nrMetaPages < ENTRIES_PER_SWAPMAP_PAGE * 2 ^ 22)
    (hpages : ∀ i < nrMetaPages, indexPage image i < pages) (hrounds : pendingPages < rounds)
    (hsum : pagesRead + pendingPages = nrMetaPages) (hpending : 0 < pendingPages)
    (hloop : loop = (pagesRead + 1) / ENTRIES_PER_SWAPMAP_PAGE) (hread : ∀ i < pagesRead,
      pfnArray.frame PAGE_SIZE i = swap.contents.frame PAGE_SIZE (indexPage image i)) :
    wp (readPfnRuns swap image rounds loop (indexPage image pagesRead)
        (min pendingPages (ENTRIES_PER_SWAPMAP_PAGE - (pagesRead + 1) % ENTRIES_PER_SWAPMAP_PAGE))
        pagesRead pendingPages pfnArray)
      (fun r _ => (∀ i < nrMetaPages,
          r.1.frame PAGE_SIZE i = swap.contents.frame PAGE_SIZE (indexPage image i)) ∧
        r.2 = indexPage image (nrMetaPages - 1) + 1) noExit reads := by
  induction rounds generalizing loop pagesRead pendingPages pfnArray reads with
  | zero => omega
  | succ rounds ih =>
    -- the pages of this run follow each other on the disk
    have hformula : ∀ i < nrMetaPages, indexPage image i = image + 2 + i + (i + 1) / 511 := by
      intro i hi
      unfold ENTRIES_PER_SWAPMAP_PAGE PFN_INDEXES_PER_PAGE at hmeta
      exact indexPage_eq (by omega)
    generalize hto : min pendingPages
      (ENTRIES_PER_SWAPMAP_PAGE - (pagesRead + 1) % ENTRIES_PER_SWAPMAP_PAGE) = pagesToRead
    unfold ENTRIES_PER_SWAPMAP_PAGE PFN_INDEXES_PER_PAGE at hmeta hloop hto
    have hrun : ∀ k < pagesToRead, indexPage image (pagesRead + k) =
        indexPage image pagesRead + k := by
      intro k hk
      rw [hformula _ (by omega), hformula _ (by omega)]
      omega
    have hend : indexPage image pagesRead + pagesToRead ≤ pages := by
      have hlast := hpages (pagesRead + (pagesToRead - 1)) (by omega)
      rw [hrun _ (by omega)] at hlast
      omega
    unfold readPfnRuns readImage
    simp only [wp_bind, wp_get]
    have hlt := hholds.pages_lt
    rw [hholds.readImage_eq (by omega) (by omega)
      ((hholds.readStatus_eq hend (by omega)).trans (hio _))]
    simp only [ne_eq]
    have hread' : ∀ i < pagesRead + pagesToRead,
        (pfnArray.replaceFrom (pagesRead * PAGE_SIZE) ((pfnArray.shift
          (pagesRead * PAGE_SIZE)).copyFrames PAGE_SIZE 0 pagesToRead swap.contents
          (indexPage image pagesRead))).frame PAGE_SIZE i =
        swap.contents.frame PAGE_SIZE (indexPage image i) := by
      intro i hi
      rw [frame_replaceFrom_copyFrames]
      by_cases hold : i < pagesRead
      · rw [frame_copyFrames_other (.inl hold), hread i hold]
      · rw [frame_copyFrames (by omega) hi, ← hrun (i - pagesRead) (by omega)]
        congr 2
        omega
    split
    · rename_i hdone
      refine ⟨fun i hi => hread' i (by omega), ?_⟩
      have := hrun (pagesToRead - 1) (by omega)
      rw [show nrMetaPages - 1 = pagesRead + (pagesToRead - 1) by omega, this]
      omega
    · rename_i hmore
      have hnext : pfnDiskOffset image (loop + 1) = indexPage image (pagesRead + pagesToRead) := by
        rw [pfnDiskOffset_eq himage (by omega), hformula _ (by omega), PFN_INDEXES_PER_PAGE]
        omega
      have hsize : min (pendingPages - pagesToRead) ENTRIES_PER_SWAPMAP_PAGE =
          min (pendingPages - pagesToRead) (ENTRIES_PER_SWAPMAP_PAGE -
            (pagesRead + pagesToRead + 1) % ENTRIES_PER_SWAPMAP_PAGE) := by
        unfold ENTRIES_PER_SWAPMAP_PAGE PFN_INDEXES_PER_PAGE
        omega
      rw [hnext, hsize]
      refine ih (by omega) (by omega) (by omega) ?_ hread'
      unfold ENTRIES_PER_SWAPMAP_PAGE PFN_INDEXES_PER_PAGE
      omega

theorem readPfnPages_layout {pages : Nat} {pool : Bytes}
    (hio : ∀ n, swap.io.outcome n = EFI_SUCCESS) (hholds : swap.Holds pages)
    (himage : image < 2 ^ 31) (hpos : 0 < nrMetaPages)
    (hmeta : nrMetaPages < ENTRIES_PER_SWAPMAP_PAGE * 2 ^ 22)
    (hpages : ∀ i < nrMetaPages, indexPage image i < pages) :
    wp (readPfnPages swap image nrMetaPages (some pool))
      (fun r _ => (∀ i < nrMetaPages,
          r.1.frame PAGE_SIZE i = swap.contents.frame PAGE_SIZE (indexPage image i)) ∧
        r.2 = indexPage image (nrMetaPages - 1) + 1) noExit reads := by
  have hfirst : image + 2 = indexPage image 0 := by
    rw [indexPage_eq (by omega)]
    rfl
  unfold readPfnPages
  dsimp only
  rw [if_neg (Nat.ne_of_gt hpos), hfirst]
  refine readPfnRuns_spec hio hholds himage hmeta hpages (Nat.lt_succ_self _) (Nat.zero_add _) hpos
    rfl ?_
  intro i hi
  exact absurd hi (Nat.not_lt_zero i)

/-- The page that is returned, also when the positions of the runs wrap. -/
theorem readPfnRuns_end (hsum : pagesRead + pendingPages = nrMetaPages)
    (hpending : 0 < pendingPages) (hto : pagesToRead =
      min pendingPages (ENTRIES_PER_SWAPMAP_PAGE - (pagesRead + 1) % ENTRIES_PER_SWAPMAP_PAGE))
    (hloop : loop = (pagesRead + 1) / ENTRIES_PER_SWAPMAP_PAGE) (hoffset : diskOffset =
      pfnDiskOffset image loop + (pagesRead + 1) % ENTRIES_PER_SWAPMAP_PAGE) :
    wp (readPfnRuns swap image rounds loop diskOffset pagesToRead pagesRead pendingPages pfnArray)
      (fun r _ => r.2 = pfnDiskOffset image (nrMetaPages / ENTRIES_PER_SWAPMAP_PAGE) +
        nrMetaPages % ENTRIES_PER_SWAPMAP_PAGE + 1) anyExit reads := by
  unfold ENTRIES_PER_SWAPMAP_PAGE PFN_INDEXES_PER_PAGE at *
  induction rounds generalizing loop diskOffset pagesToRead pagesRead pendingPages
    pfnArray reads with
  | zero => trivial
  | succ rounds ih =>
    unfold readPfnRuns readImage
    simp only [wp_bind, wp_get, wp_modify, wp_pure]
    split
    · trivial
    split
    · rw [wp_pure]
      rw [show nrMetaPages / (512 - 1) = loop by omega]
      omega
    · refine ih (by omega) (by omega) ?_ (by omega) ?_
      · unfold ENTRIES_PER_SWAPMAP_PAGE PFN_INDEXES_PER_PAGE
        omega
      · omega

theorem readPfnPages_end (himage : image < 2 ^ 31) :
    wp (readPfnPages swap image nrMetaPages pool)
      (fun r _ => r.2 = pfnDiskOffset image (nrMetaPages / ENTRIES_PER_SWAPMAP_PAGE) +
        nrMetaPages % ENTRIES_PER_SWAPMAP_PAGE + 1) anyExit reads := by
  have hfirst := pfnDiskOffset_eq himage (Nat.two_pow_pos 22)
  unfold readPfnPages
  split
  · trivial
  split
  · trivial
  rename_i hpos
  exact readPfnRuns_end (Nat.zero_add _) (Nat.pos_of_ne_zero hpos) rfl rfl (by rw [hfirst]; rfl)

/-! What goes wrong when a position wraps: the pages of the run are those of another place. -/

theorem frame_replaceFrom_before (h : p < a) :
    (c.replaceFrom (a * PAGE_SIZE) f).frame PAGE_SIZE p = c.frame PAGE_SIZE p := by
  refine slice_congr fun k hk => ?_
  have := Nat.mul_le_mul_right PAGE_SIZE (Nat.succ_le_of_lt h)
  rw [Nat.succ_mul] at this
  exact if_neg (by omega)

theorem readPfnRuns_keeps :
    wp (readPfnRuns swap image rounds loop diskOffset pagesToRead pagesRead pendingPages pfnArray)
      (fun r _ => ∀ p < pagesRead, r.1.frame PAGE_SIZE p = pfnArray.frame PAGE_SIZE p)
      anyExit reads := by
  induction rounds generalizing loop diskOffset pagesToRead pagesRead pendingPages
    pfnArray reads with
  | zero => trivial
  | succ rounds ih =>
    unfold readPfnRuns readImage
    simp only [wp_bind, wp_get, wp_modify, wp_pure]
    split
    · trivial
    · split
      · intro p hp
        exact frame_replaceFrom_before hp
      · refine wp_imp ih ?_
        intro r s' hr p hp
        rw [hr p (by omega), frame_replaceFrom_before hp]

/-- No failure of the hardware looks like a success in the low word of its status. -/
def Swap.FailuresShow (swap : Swap) : Prop :=
  ∀ n, i32 (swap.io.outcome n).toNat = 0 → swap.io.outcome n = EFI_SUCCESS

theorem Swap.FailuresShow.readStatus_eq {offset nrPages : Nat} (hio : swap.FailuresShow)
    (h : i32 (swap.readStatus n offset nrPages).toNat = 0) :
    swap.readStatus n offset nrPages = EFI_SUCCESS := by
  unfold Swap.readStatus BlockIo.transferStatus at h ⊢
  split_ifs at h ⊢
  · exact absurd h (by decide)
  · exact absurd h (by decide)
  · exact hio n h

/-- The page of the index that is the first of the run whose position wraps. -/
def wrappedIndex : Nat := ENTRIES_PER_SWAPMAP_PAGE * 2 ^ 22 - 1

theorem readPfnRuns_wraps (hio : ∀ n, swap.io.outcome n = EFI_SUCCESS)
    (hmeta : wrappedIndex < nrMetaPages) (hsum : pagesRead + pendingPages = nrMetaPages)
    (hto : pagesToRead =
      min pendingPages (ENTRIES_PER_SWAPMAP_PAGE - (pagesRead + 1) % ENTRIES_PER_SWAPMAP_PAGE))
    (hstart : loop = 0 ∧ pagesRead = 0 ∨
      pagesRead + 1 = ENTRIES_PER_SWAPMAP_PAGE * loop ∧ loop ≤ 2 ^ 22 ∧
        diskOffset = pfnDiskOffset image loop) :
    wp (readPfnRuns swap image rounds loop diskOffset pagesToRead pagesRead pendingPages pfnArray)
      (fun r _ => r.1.frame PAGE_SIZE wrappedIndex =
        swap.contents.slice (swap.lba (pfnDiskOffset image (2 ^ 22)) * swap.io.blockSize) PAGE_SIZE)
      anyExit reads := by
  unfold ENTRIES_PER_SWAPMAP_PAGE PFN_INDEXES_PER_PAGE at hto hstart
  have hwrapped : wrappedIndex = 511 * 2 ^ 22 - 1 := rfl
  induction rounds generalizing loop diskOffset pagesToRead pagesRead pendingPages
    pfnArray reads with
  | zero => trivial
  | succ rounds ih =>
    unfold readPfnRuns readImage
    simp only [wp_bind, wp_get, wp_modify, wp_pure]
    split
    · trivial
    rename_i hret
    by_cases hlast : loop = 2 ^ 22
    · -- this is the run in question, and what follows keeps it
      have hread : pagesRead = wrappedIndex := by omega
      have hoffset : diskOffset = pfnDiskOffset image (2 ^ 22) := by
        rw [← hlast]
        omega
      have hstatus := Swap.FailuresShow.readStatus_eq (fun n _ => hio n) (not_not.mp hret)
      have hframe : (pfnArray.replaceFrom (pagesRead * PAGE_SIZE)
          (swap.readImage reads.length diskOffset pagesToRead
            (pfnArray.shift (pagesRead * PAGE_SIZE))).2).frame PAGE_SIZE wrappedIndex =
          swap.contents.slice
            (swap.lba (pfnDiskOffset image (2 ^ 22)) * swap.io.blockSize) PAGE_SIZE := by
        have hsize : PAGE_SIZE ≤ Swap.transferSize pagesToRead := by
          rw [Swap.transferSize_of_lt (by omega)]
          exact Nat.le_mul_of_pos_left _ (by omega)
        unfold Swap.readImage
        dsimp only
        rw [hstatus, if_pos rfl, hread, hoffset]
        refine List.map_congr_left fun k hk => ?_
        have hk' : k < PAGE_SIZE := List.mem_range.mp hk
        rw [replaceFrom, if_pos (Nat.le_add_right _ _), Nat.add_sub_cancel_left,
          overwrite_inside (Nat.zero_le k) (by omega), Nat.sub_zero, shift_apply]
      split
      · exact hframe
      · refine wp_imp readPfnRuns_keeps ?_
        intro r s' hr
        rw [hr wrappedIndex (by omega)]
        exact hframe
    · rw [if_neg (by omega)]
      refine ih (by omega) ?_ (.inr ⟨by omega, by omega, rfl⟩)
      unfold ENTRIES_PER_SWAPMAP_PAGE PFN_INDEXES_PER_PAGE
      omega

theorem Swap.Holds.wrapped_ne (hholds : swap.Holds pages) (himage : image < 2 ^ 31) :
    swap.lba (pfnDiskOffset image (2 ^ 22)) * swap.io.blockSize ≠
      indexPage image wrappedIndex * PAGE_SIZE := by
  have hright : indexPage image wrappedIndex = image + 1 + 2 ^ 31 := by
    have hwrapped : wrappedIndex = 511 * 2 ^ 22 - 1 := rfl
    rw [indexPage_eq (by omega), ENTRIES_PER_SWAPMAP_PAGE, PFN_INDEXES_PER_PAGE]
    omega
  have hneg : u64OfInt (i32 (PFN_INDEXES_PER_PAGE * 2 ^ 22)) = 2 ^ 64 - 2 ^ 31 := by decide
  have hbpp : swap.blocksPerPage ≤ 4096 := Nat.div_le_self _ _
  have hpos := hholds.blockSize_pos
  rw [hright, Swap.lba, pfnDiskOffset, hneg, PAGE_SIZE]
  unfold u64
  by_cases hzero : image = 2 ^ 31 - 1
  · have h : (image + (2 ^ 64 - 2 ^ 31) + 1) % 2 ^ 64 = 0 := by omega
    rw [h, Nat.zero_mul, Nat.zero_mod, Nat.zero_mul]
    omega
  · obtain ⟨y, hy, hylt, hsum⟩ : ∃ y, 0 < y ∧ y < 2 ^ 31 ∧
        (image + (2 ^ 64 - 2 ^ 31) + 1) % 2 ^ 64 + y = 2 ^ 64 := ⟨2 ^ 31 - 1 - image, by omega⟩
    generalize (image + (2 ^ 64 - 2 ^ 31) + 1) % 2 ^ 64 = d at hsum
    have hbpos : 0 < swap.blocksPerPage := by
      refine Nat.pos_of_ne_zero fun h => ?_
      have := hholds.blocksPerPage_mul
      rw [h, Nat.zero_mul] at this
      exact absurd this (by decide)
    have hyb : y * swap.blocksPerPage < 2 ^ 43 := by
      calc y * swap.blocksPerPage ≤ y * 4096 := Nat.mul_le_mul_left _ hbpp
        _ < 2 ^ 43 := by omega
    have hmul : d * swap.blocksPerPage + y * swap.blocksPerPage = 2 ^ 64 * swap.blocksPerPage := by
      rw [← Nat.add_mul, hsum]
    have hlarge : 2 ^ 63 ≤ d * swap.blocksPerPage % 2 ^ 64 := by
      have hy0 := Nat.mul_pos hy hbpos
      have : d * swap.blocksPerPage % 2 ^ 64 = 2 ^ 64 - y * swap.blocksPerPage := by omega
      omega
    have hmono := Nat.mul_le_mul_right swap.io.blockSize hlarge
    omega

def markedPage (image : Nat) : Bytes :=
  fun x => if x = indexPage image wrappedIndex * PAGE_SIZE then 1 else 0

theorem readPfnPages_wraps (hio : ∀ n, swap.io.outcome n = EFI_SUCCESS) (hholds : swap.Holds pages)
    (himage : image < 2 ^ 31) (hmeta : wrappedIndex < nrMetaPages) :
    ¬ wp (readPfnPages { swap with contents := markedPage image } image nrMetaPages pool)
      (fun r _ => ∀ i < nrMetaPages, r.1.frame PAGE_SIZE i =
        frame (markedPage image) PAGE_SIZE (indexPage image i)) noExit reads := by
  intro h
  unfold readPfnPages at h
  split at h
  · exact h
  rename_i pfnArray
  rw [if_neg (by omega)] at h
  have hwraps : wp (readPfnRuns { swap with contents := markedPage image } image
        (nrMetaPages + 1) 0 (image + 2) (min nrMetaPages (ENTRIES_PER_SWAPMAP_PAGE - 1)) 0
        nrMetaPages pfnArray)
      (fun r _ => r.1.frame PAGE_SIZE wrappedIndex = slice (markedPage image)
        (swap.lba (pfnDiskOffset image (2 ^ 22)) * swap.io.blockSize) PAGE_SIZE) anyExit reads :=
    readPfnRuns_wraps hio hmeta (Nat.zero_add _) rfl (.inl ⟨rfl, rfl⟩)
  obtain ⟨r, s', hexec, hr⟩ := wp_returns h
  have hwrong := wp_ok hwraps hexec
  -- the first byte tells the two pages apart
  have hbyte : markedPage image (swap.lba (pfnDiskOffset image (2 ^ 22)) * swap.io.blockSize) =
      markedPage image (indexPage image wrappedIndex * PAGE_SIZE) := by
    have hhead := congrArg List.head? (hwrong.symm.trans (hr wrappedIndex hmeta))
    rw [frame, slice_head? (by decide), slice_head? (by decide)] at hhead
    exact Option.some.inj hhead
  unfold markedPage at hbyte
  rw [if_neg (hholds.wrapped_ne himage), if_pos rfl] at hbyte
  exact absurd hbyte (by decide)

end PfnPages

end OhMyAbl
