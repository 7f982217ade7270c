/-
  **Where `BootLinux` finds the components of the images.**

  `BootLinux`, `DTBImgCheckAndAppendDT` and `LoadAddrAndDTUpdate` each compute from the headers
  where the components are; `BootImage.h` says how the images are laid out.  The second stage, and
  outside recovery the recovery dtbo, are passed over in the loaded size but not in the offsets.
-/
import OhMyAbl.Boot.BootImage

namespace OhMyAbl

/-! ### The sizes BootLinux works with -/

def PATCHED_KERNEL_HEADER_SIZE : Nat := 20

structure ImageParams where
  pageSize : Nat
  kernelSize : Nat
  secondSize : Nat
  ramdiskSize : Nat
  vendorRamdiskSize : Nat
  recoveryRamdiskSize : Nat
  dtSize : Nat
  vendorRamdiskTableSize : Nat
  vendorBootconfigSize : Nat

/-- `UpdateBootParamsSizeAndCmdLine`; the recovery header is there in a boot into a recovery that
    has no kernel. -/
def updateBootParamsSize (hdr vendor : Bytes) (recoveryHdr : Option Bytes) : ImageParams :=
  if headerVersion hdr < BOOT_HEADER_VERSION_THREE then
    { pageSize := BootImgHdr.pageSize hdr
      kernelSize := BootImgHdr.kernelSize hdr
      secondSize := BootImgHdr.secondSize hdr
      ramdiskSize := BootImgHdr.ramdiskSize hdr
      vendorRamdiskSize := 0
      recoveryRamdiskSize := 0
      dtSize := 0
      vendorRamdiskTableSize := 0
      vendorBootconfigSize := 0 }
  else
    let four := headerVersion hdr = BOOT_HEADER_VERSION_FOUR
    { pageSize := VendorBootImgHdr.pageSize vendor
      kernelSize := BootImgHdrV3.kernelSize hdr
      secondSize := 0
      ramdiskSize := BootImgHdrV3.ramdiskSize hdr
      vendorRamdiskSize := VendorBootImgHdr.vendorRamdiskSize vendor
      recoveryRamdiskSize := recoveryHdr.elim 0 BootImgHdrV3.ramdiskSize
      -- these three are set for version four only
      dtSize := if four then VendorBootImgHdr.dtbSize vendor else 0
      vendorRamdiskTableSize := if four then VendorBootImgHdr.vendorRamdiskTableSize vendor else 0
      vendorBootconfigSize := if four then VendorBootImgHdr.vendorBootconfigSize vendor else 0 }

namespace ImageParams

def kernelSizeActual (p : ImageParams) : Nat := LOCAL_ROUND_TO_PAGE p.kernelSize p.pageSize

def ramdiskOffset (p : ImageParams) : Nat := ADD_OF p.pageSize p.kernelSizeActual

def dtbOffset (p : ImageParams) (recoveryDtboSize : Nat) : Nat :=
  u32 (p.pageSize * u32 (1 + getNumberOfPages p.kernelSize p.pageSize +
    getNumberOfPages p.ramdiskSize p.pageSize + getNumberOfPages p.secondSize p.pageSize +
    getNumberOfPages recoveryDtboSize p.pageSize))

def vendorDtbOffset (p : ImageParams) : Nat :=
  u32 (p.pageSize * u32 (1 + getNumberOfPages p.vendorRamdiskSize p.pageSize))

def bootconfigOffset (p : ImageParams) : Nat :=
  p.pageSize + LOCAL_ROUND_TO_PAGE p.vendorRamdiskSize p.pageSize +
    LOCAL_ROUND_TO_PAGE p.dtSize p.pageSize +
      LOCAL_ROUND_TO_PAGE p.vendorRamdiskTableSize p.pageSize

end ImageParams

/-! ### A boot image up to version two -/

inductive KernelKind where
  | gzip
  | patched
  | plain
deriving DecidableEq, Repr

/-- The ranges that are read from the boot image, as offset and length: the kernel (a patched one
    behind its own header, one for 32 bits once more with its padding), the ramdisk, and the device
    tree of version two.  An offset that does not fit ends the boot. -/
def bootImageRanges (hdr : Bytes) (p : ImageParams) (kind : KernelKind) (is32 : Bool) :
    Except EfiStatus (List (Nat × Nat)) :=
  let patchedKernelHdrSize := if kind = .patched then PATCHED_KERNEL_HEADER_SIZE else 0
  if p.ramdiskOffset = 0 then .error EFI_BAD_BUFFER_SIZE
  else .ok
    ([(p.pageSize + patchedKernelHdrSize, p.kernelSize), (p.ramdiskOffset, p.ramdiskSize)] ++
      (if is32 then [(p.pageSize, p.kernelSizeActual)] else []) ++
      (if headerVersion hdr = BOOT_HEADER_VERSION_TWO then
        [(p.dtbOffset (BootImgHdr.recoveryDtboSize hdr), BootImgHdr.dtbSize hdr)] else []))

def Inside (size : Nat) (r : Nat × Nat) : Prop := ∀ x, r.1 ≤ x → x < r.1 + r.2 → x < size

theorem inside_iff {size start len : Nat} :
    Inside size (start, len) ↔ len = 0 ∨ start + len ≤ size := by
  constructor
  · intro h
    rcases Nat.eq_zero_or_pos len with hzero | hpos
    · exact .inl hzero
    · have := h (start + len - 1) (by dsimp only; omega) (by dsimp only; omega)
      exact .inr (by omega)
  · rintro (rfl | h) x hx hx'
    · omega
    · omega

/-- The size of a boot image with the documented layout, all sections in whole pages: header,
    kernel, ramdisk, second stage, from version one on the recovery dtbo, and in version two the
    device tree. -/
def documentedSize (hdr : Bytes) : Nat :=
  BootImgHdr.pageSize hdr + roundUp (BootImgHdr.pageSize hdr) (BootImgHdr.kernelSize hdr) +
    roundUp (BootImgHdr.pageSize hdr) (BootImgHdr.ramdiskSize hdr) +
    roundUp (BootImgHdr.pageSize hdr) (BootImgHdr.secondSize hdr) +
    (if headerVersion hdr ≥ BOOT_HEADER_VERSION_ONE then
      roundUp (BootImgHdr.pageSize hdr) (BootImgHdr.recoveryDtboSize hdr) else 0) +
    (if headerVersion hdr = BOOT_HEADER_VERSION_TWO then
      roundUp (BootImgHdr.pageSize hdr) (BootImgHdr.dtbSize hdr) else 0)

/-- Everything that follows the kernel in what is loaded, with the padding of the kernel. -/
def behindKernel (hdr : Bytes) (recovery : Bool) : Nat :=
  countedSize hdr recovery - (BootImgHdr.pageSize hdr + BootImgHdr.kernelSize hdr)

/-- A patched kernel has room for its own header behind it, and in front of a device tree there is
    nothing that the size of the image passes over. -/
def NothingPassedOver (hdr : Bytes) (recovery : Bool) (kind : KernelKind) : Prop :=
  (kind = .patched → PATCHED_KERNEL_HEADER_SIZE ≤ behindKernel hdr recovery) ∧
    (headerVersion hdr = BOOT_HEADER_VERSION_TWO → BootImgHdr.dtbSize hdr = 0 ∨
      BootImgHdr.secondSize hdr = 0 ∧ (recovery = true ∨ BootImgHdr.recoveryDtboSize hdr = 0))

section BootImage

open BootImgHdr

variable {hdr vendor : Bytes} {size page : Nat} {recovery : Bool} {recoveryHdr : Option Bytes}

theorem updateBootParamsSize_of_lt (h : headerVersion hdr < BOOT_HEADER_VERSION_THREE) :
    updateBootParamsSize hdr vendor recoveryHdr =
      ⟨pageSize hdr, kernelSize hdr, secondSize hdr, ramdiskSize hdr, 0, 0, 0, 0, 0⟩ :=
  if_pos h

theorem AcceptedHeader.counted (h : AcceptedHeader hdr recovery size page) :
    pageSize hdr + kernelSize hdr + behindKernel hdr recovery = size ∧
      kernelSize hdr ≤ LOCAL_ROUND_TO_PAGE (kernelSize hdr) (pageSize hdr) ∧
      pageSize hdr + LOCAL_ROUND_TO_PAGE (kernelSize hdr) (pageSize hdr) +
        ramdiskSize hdr ≤ size := by
  have hkernel := le_localRoundToPage h.kernel_fits
  have hramdisk := le_localRoundToPage h.ramdisk_fits
  rw [h.size_eq]
  unfold behindKernel countedSize
  omega

/-- The pages of a header are a power of two bytes, and its documented layout fits 32 bits. -/
structure Regular (hdr : Bytes) : Prop where
  page : ∃ k, BootImgHdr.pageSize hdr = 2 ^ k
  fits : documentedSize hdr < 2 ^ 32

section

variable (h : Regular hdr) (haccepted : AcceptedHeader hdr recovery size page)
  (htwo : headerVersion hdr = BOOT_HEADER_VERSION_TWO)
include h haccepted htwo

omit haccepted htwo in
theorem Regular.localRoundToPage {x : Nat} (hx : x + pageMask (pageSize hdr) < MAX_UINT32) :
    LOCAL_ROUND_TO_PAGE x (pageSize hdr) = roundUp (pageSize hdr) x := by
  obtain ⟨k, hk⟩ := h.page
  have hlt : pageSize hdr < 2 ^ 32 := Bytes.u32At_lt
  rw [hk] at hx hlt ⊢
  exact localRoundToPage_two_pow ((Nat.pow_lt_pow_iff_right (by decide)).mp hlt) hx

omit haccepted in
theorem Regular.fits_two : pageSize hdr + roundUp (pageSize hdr) (kernelSize hdr) +
    roundUp (pageSize hdr) (ramdiskSize hdr) + roundUp (pageSize hdr) (secondSize hdr) +
    roundUp (pageSize hdr) (recoveryDtboSize hdr) +
      roundUp (pageSize hdr) (dtbSize hdr) < 2 ^ 32 := by
  have hfits := h.fits
  rwa [documentedSize, if_pos (by rw [htwo]; decide), if_pos htwo] at hfits

theorem Regular.size_eq :
    size = pageSize hdr + roundUp (pageSize hdr) (kernelSize hdr) +
      roundUp (pageSize hdr) (ramdiskSize hdr) + roundUp (pageSize hdr) (dtbSize hdr) +
      if recovery = true then roundUp (pageSize hdr) (recoveryDtboSize hdr) else 0 := by
  have hpos := haccepted.page_pos
  have hfits := h.fits_two htwo
  have hdtbo := le_roundUp hpos (recoveryDtboSize hdr)
  have hlt : pageSize hdr < 2 ^ 32 := Bytes.u32At_lt
  have hmask : recoveryDtboSize hdr + pageMask (pageSize hdr) < MAX_UINT32 := by
    rw [pageMask_eq hpos hlt, MAX_UINT32]
    omega
  rw [haccepted.size_eq, countedSize, if_pos htwo, h.localRoundToPage haccepted.kernel_fits,
    h.localRoundToPage haccepted.ramdisk_fits, h.localRoundToPage (haccepted.dtb_fits htwo),
    ← localRoundToPage_eq hmask, h.localRoundToPage hmask]
  simp [htwo, BOOT_HEADER_VERSION_TWO, BOOT_HEADER_VERSION_ZERO]

theorem Regular.dtbOffset_eq :
    (updateBootParamsSize hdr vendor recoveryHdr).dtbOffset (recoveryDtboSize hdr) =
      pageSize hdr + roundUp (pageSize hdr) (kernelSize hdr) +
        roundUp (pageSize hdr) (ramdiskSize hdr) + roundUp (pageSize hdr) (secondSize hdr) +
        roundUp (pageSize hdr) (recoveryDtboSize hdr) := by
  have hpos := haccepted.page_pos
  have hlt : pageSize hdr < 2 ^ 32 := Bytes.u32At_lt
  have hfits := h.fits_two htwo
  have hkernel := getNumberOfPages_mul hpos hlt (x := kernelSize hdr) (by omega)
  have hramdisk := getNumberOfPages_mul hpos hlt (x := ramdiskSize hdr) (by omega)
  have hsecond := getNumberOfPages_mul hpos hlt (x := secondSize hdr) (by omega)
  have hdtbo := getNumberOfPages_mul hpos hlt (x := recoveryDtboSize hdr) (by omega)
  rw [updateBootParamsSize_of_lt (by rw [htwo]; decide)]
  unfold ImageParams.dtbOffset
  generalize getNumberOfPages (kernelSize hdr) (pageSize hdr) = nk at *
  generalize getNumberOfPages (ramdiskSize hdr) (pageSize hdr) = nr at *
  generalize getNumberOfPages (secondSize hdr) (pageSize hdr) = ns at *
  generalize getNumberOfPages (recoveryDtboSize hdr) (pageSize hdr) = nd at *
  rw [← hkernel, ← hramdisk, ← hsecond, ← hdtbo] at hfits ⊢
  have hbytes : pageSize hdr * (1 + nk + nr + ns + nd) = pageSize hdr + nk * pageSize hdr +
      nr * pageSize hdr + ns * pageSize hdr + nd * pageSize hdr := by
    rw [Nat.mul_comm]
    simp only [Nat.add_mul, Nat.one_mul]
  have hpages : 1 + nk + nr + ns + nd ≤ pageSize hdr * (1 + nk + nr + ns + nd) :=
    Nat.le_mul_of_pos_left _ hpos
  have hu : u32 (1 + nk + nr + ns + nd) = 1 + nk + nr + ns + nd := Nat.mod_eq_of_lt (by omega)
  rw [hu, hbytes]
  exact Nat.mod_eq_of_lt (by omega)

/-- A section that is passed over takes at least a page, which is more than the padding of the
    tree. -/
theorem Regular.dtb_inside_iff (hdtb : dtbSize hdr ≠ 0) :
    Inside size ((updateBootParamsSize hdr vendor recoveryHdr).dtbOffset (recoveryDtboSize hdr),
        dtbSize hdr) ↔
      secondSize hdr = 0 ∧ (recovery = true ∨ recoveryDtboSize hdr = 0) := by
  have hpos := haccepted.page_pos
  have hle := le_roundUp hpos (dtbSize hdr)
  have hlt := roundUp_lt hpos (dtbSize hdr)
  have hzero := roundUp_zero hpos
  rw [inside_iff, or_iff_right hdtb, h.dtbOffset_eq haccepted htwo, h.size_eq haccepted htwo]
  constructor
  · intro hend
    have hsecond : secondSize hdr = 0 := by
      by_contra hne
      have := le_roundUp_of_pos hpos (Nat.pos_of_ne_zero hne)
      split at hend <;> omega
    refine ⟨hsecond, or_iff_not_imp_left.mpr fun hrecovery => by_contra fun hne => ?_⟩
    have := le_roundUp_of_pos hpos (Nat.pos_of_ne_zero hne)
    rw [if_neg hrecovery] at hend
    omega
  · rintro ⟨hsecond, hrecovery | hdtbo⟩
    · rw [hsecond, hzero, if_pos hrecovery]
      omega
    · rw [hsecond, hdtbo, hzero, ite_self]
      omega

end

/-- **What is read of an accepted boot image was loaded** exactly if nothing is passed over.  Only
    for a device tree does the layout have to be regular: the other ranges are inside for every size
    of a page. -/
theorem bootImageRanges_inside_iff (hdr vendor : Bytes) (imageHdrSize size page : Nat)
    (recovery : Bool) (recoveryHdr : Option Bytes) (kind : KernelKind) (is32 : Bool)
    (hversion : headerVersion hdr < BOOT_HEADER_VERSION_THREE)
    (haccepted : checkImageHeader hdr imageHdrSize vendor recovery recoveryHdr = .ok (size, page))
    (hregular : headerVersion hdr = BOOT_HEADER_VERSION_TWO → dtbSize hdr ≠ 0 → Regular hdr) :
    (∃ ranges, bootImageRanges hdr (updateBootParamsSize hdr vendor recoveryHdr) kind is32 =
        .ok ranges ∧ ∀ r ∈ ranges, Inside size r) ↔
      NothingPassedOver hdr recovery kind := by
  have haccepted := checkImageHeader_accepted hversion haccepted
  obtain ⟨hbehind, hkernelLe, hramdisk⟩ := haccepted.counted
  have hlt := haccepted.size_lt
  have hpos := haccepted.page_pos
  have hkernel : Inside size (pageSize hdr +
      if kind = .patched then PATCHED_KERNEL_HEADER_SIZE else 0, kernelSize hdr) ↔
      (kind = .patched → PATCHED_KERNEL_HEADER_SIZE ≤ behindKernel hdr recovery) := by
    rw [inside_iff, or_iff_right haccepted.kernel_pos]
    split
    case isTrue hkind => exact ⟨fun hle _ => by omega, fun hle => by have := hle hkind; omega⟩
    case isFalse hkind => exact ⟨fun _ hkind' => absurd hkind' hkind, fun _ => by omega⟩
  have hpadded : ∀ r ∈ (if is32 then [(pageSize hdr,
      LOCAL_ROUND_TO_PAGE (kernelSize hdr) (pageSize hdr))] else []), Inside size r := by
    cases is32 with
    | false => exact nofun
    | true =>
      rintro r hr
      rw [List.mem_singleton.mp hr]
      exact inside_iff.mpr (.inr (by omega))
  have htree : (∀ r ∈ (if headerVersion hdr = BOOT_HEADER_VERSION_TWO then
      [((updateBootParamsSize hdr vendor recoveryHdr).dtbOffset (recoveryDtboSize hdr),
        dtbSize hdr)] else []), Inside size r) ↔
      (headerVersion hdr = BOOT_HEADER_VERSION_TWO → dtbSize hdr = 0 ∨
        secondSize hdr = 0 ∧ (recovery = true ∨ recoveryDtboSize hdr = 0)) := by
    split
    case isTrue htwo =>
      rw [List.forall_mem_singleton, forall_prop_of_true htwo]
      by_cases hzero : dtbSize hdr = 0
      · rw [inside_iff]
        exact iff_of_true (.inl hzero) (.inl hzero)
      · rw [(hregular htwo hzero).dtb_inside_iff haccepted htwo hzero, or_iff_right hzero]
    case isFalse hnot => exact ⟨fun _ htwo => absurd htwo hnot, fun _ => nofun⟩
  have hoffset : ADD_OF (pageSize hdr) (LOCAL_ROUND_TO_PAGE (kernelSize hdr) (pageSize hdr)) =
      pageSize hdr + LOCAL_ROUND_TO_PAGE (kernelSize hdr) (pageSize hdr) := addOf_of_lt (by omega)
  rw [updateBootParamsSize_of_lt hversion] at htree ⊢
  unfold bootImageRanges ImageParams.ramdiskOffset ImageParams.kernelSizeActual
  dsimp only
  rw [hoffset, if_neg (by omega)]
  constructor
  · rintro ⟨_, hok, hall⟩
    cases hok
    simp only [List.forall_mem_append, List.forall_mem_cons] at hall
    exact ⟨hkernel.mp hall.1.1.1, htree.mp hall.2⟩
  · rintro ⟨hpatched, hnothing⟩
    refine ⟨_, rfl, ?_⟩
    simp only [List.forall_mem_append, List.forall_mem_cons]
    exact ⟨⟨⟨hkernel.mpr hpatched, inside_iff.mpr (.inr hramdisk), nofun⟩, hpadded⟩,
      htree.mpr hnothing⟩

end BootImage

def sampleBootHeader (second recoveryDtbo : Nat) : Bytes :=
  let head := (((Bytes.overwrite (fun _ => 0) 0 8 fun i => BOOT_MAGIC.getD i 0).put 8 4 1).put 16 4
    1).put 24 4 second
  let tail := (head.put 36 4 4096).put 40 4 2
  ((tail.put 1632 4 recoveryDtbo).put 1644 4 1660).put 1648 4 1

theorem sampleBootHeader_regular : Regular (sampleBootHeader 0 0) where
  page := ⟨12, by decide +kernel⟩
  fits := by decide +kernel

theorem bootImageRanges_inside_sample :
    ∃ ranges, bootImageRanges (sampleBootHeader 0 0)
        (updateBootParamsSize (sampleBootHeader 0 0) (sampleBootHeader 0 0) none) .plain false =
        .ok ranges ∧ ∀ r ∈ ranges, Inside 16384 r := by
  refine (bootImageRanges_inside_iff (sampleBootHeader 0 0) (sampleBootHeader 0 0) 4096 16384 4096
    false none .plain false (by decide +kernel) (by decide +kernel)
    fun _ _ => sampleBootHeader_regular).mpr ⟨nofun, fun _ => .inr ⟨?_, .inr ?_⟩⟩
  all_goals decide +kernel

/-- A second stage, or outside recovery a recovery dtbo, moves the device tree out of what is
    loaded. -/
theorem bootImageRanges_dtb_not_inside :
    (checkImageHeader (sampleBootHeader 1 0) 4096 (sampleBootHeader 1 0) false none =
        .ok (16384, 4096) ∧
      bootImageRanges (sampleBootHeader 1 0)
        (updateBootParamsSize (sampleBootHeader 1 0) (sampleBootHeader 1 0) none) .plain false =
        .ok [(4096, 1), (8192, 1), (16384, 1)]) ∧
    (checkImageHeader (sampleBootHeader 0 1) 4096 (sampleBootHeader 0 1) false none =
        .ok (16384, 4096) ∧
      bootImageRanges (sampleBootHeader 0 1)
        (updateBootParamsSize (sampleBootHeader 0 1) (sampleBootHeader 0 1) none) .plain false =
        .ok [(4096, 1), (8192, 1), (16384, 1)]) ∧
    ¬ Inside 16384 (16384, 1) := by
  refine ⟨⟨?_, ?_⟩, ⟨?_, ?_⟩, fun h => ?_⟩
  · decide +kernel
  · decide +kernel
  · decide +kernel
  · decide +kernel
  · exact absurd (h 16384 (Nat.le_refl _) (by decide)) (Nat.lt_irrefl _)

/-! ### A vendor_boot image -/

/-- The ranges that are read from the vendor_boot image: the vendor ramdisk, the device tree, and in
    version four the bootconfig section. -/
def vendorBootRanges (hdr vendor : Bytes) (p : ImageParams) : List (Nat × Nat) :=
  [(p.pageSize, p.vendorRamdiskSize), (p.vendorDtbOffset, VendorBootImgHdr.dtbSize vendor)] ++
    if headerVersion hdr > BOOT_HEADER_VERSION_THREE then
      [(p.bootconfigOffset, p.vendorBootconfigSize)] else []

def vendorHeaderSize (hdr : Bytes) : Nat :=
  if headerVersion hdr > BOOT_HEADER_VERSION_THREE then VENDOR_BOOT_HEADER_V4_SIZE
  else VENDOR_BOOT_HEADER_V3_SIZE

/-- The documented sections of a vendor_boot image: header, vendor ramdisk and device tree, and in
    version four the vendor ramdisk table and the bootconfig. -/
def vendorSections (hdr vendor : Bytes) : List Nat :=
  [vendorHeaderSize hdr, VendorBootImgHdr.vendorRamdiskSize vendor,
    VendorBootImgHdr.dtbSize vendor] ++ if headerVersion hdr > BOOT_HEADER_VERSION_THREE then
      [VendorBootImgHdr.vendorRamdiskTableSize vendor, VendorBootImgHdr.vendorBootconfigSize vendor]
    else []

def documentedVendorRanges (hdr vendor : Bytes) : List (Nat × Nat) :=
  match place (VendorBootImgHdr.pageSize vendor) 0 (vendorSections hdr vendor) with
  | [_, ramdisk, dtb] => [ramdisk, dtb]
  | [_, ramdisk, dtb, _, bootconfig] => [ramdisk, dtb, bootconfig]
  | _ => []

section VendorBoot

open VendorBootImgHdr

def documentedVendorSize (hdr vendor : Bytes) : Nat :=
  ((vendorSections hdr vendor).map (roundUp (pageSize vendor))).sum

/-- The mask that is taken for the start of the bootconfig section rounds to pages: a page is a
    power of two bytes, or what it gives is right in all. -/
def BootconfigAligned (vendor : Bytes) : Prop :=
  (∃ k, pageSize vendor = 2 ^ k) ∨
    LOCAL_ROUND_TO_PAGE (vendorRamdiskSize vendor) (pageSize vendor) +
        LOCAL_ROUND_TO_PAGE (dtbSize vendor) (pageSize vendor) +
        LOCAL_ROUND_TO_PAGE (vendorRamdiskTableSize vendor) (pageSize vendor) =
      roundUp (pageSize vendor) (vendorRamdiskSize vendor) +
        roundUp (pageSize vendor) (dtbSize vendor) +
        roundUp (pageSize vendor) (vendorRamdiskTableSize vendor)

variable {hdr vendor : Bytes} {recoveryHdr : Option Bytes}

theorem not_lt_three (hversion : headerVersion hdr = BOOT_HEADER_VERSION_THREE ∨
    headerVersion hdr = BOOT_HEADER_VERSION_FOUR) :
    ¬ headerVersion hdr < BOOT_HEADER_VERSION_THREE := by
  rcases hversion with hv | hv
  · rw [hv]
    decide
  · rw [hv]
    decide

theorem checkImageHeader_vendor_page {imageHdrSize size page : Nat} {recovery : Bool}
    (hversion : headerVersion hdr = BOOT_HEADER_VERSION_THREE ∨
      headerVersion hdr = BOOT_HEADER_VERSION_FOUR)
    (h : checkImageHeader hdr imageHdrSize vendor recovery recoveryHdr = .ok (size, page)) :
    0 < pageSize vendor := by
  unfold checkImageHeader at h
  split_ifs at h
  obtain ⟨sizes, hsizes, h⟩ := except_bind_eq_ok h
  rw [headerSizes, if_neg (not_lt_three hversion), if_pos hversion, vendorSizes] at hsizes
  split_ifs at hsizes
  all_goals
    obtain ⟨_, -, hsizes⟩ := except_bind_eq_ok hsizes
    split at h
    · cases h
    rename_i hzero
    refine Nat.pos_of_ne_zero fun hpage => hzero (.inr ?_)
  · cases recoveryHdr with
    | none =>
      cases hsizes
      exact hpage
    | some r =>
      obtain ⟨_, -, hsizes⟩ := except_bind_eq_ok hsizes
      cases hsizes
      exact hpage
  · cases hsizes
    exact hpage

theorem vendorDtbOffset_eq {p : ImageParams} (hpos : 0 < p.pageSize) (hlt : p.pageSize < 2 ^ 32)
    (h : p.pageSize + roundUp p.pageSize p.vendorRamdiskSize < 2 ^ 32) :
    p.vendorDtbOffset = p.pageSize + roundUp p.pageSize p.vendorRamdiskSize := by
  have hpages := getNumberOfPages_mul hpos hlt h
  unfold ImageParams.vendorDtbOffset
  generalize getNumberOfPages p.vendorRamdiskSize p.pageSize = n at hpages ⊢
  have hbytes : p.pageSize * (1 + n) = p.pageSize + roundUp p.pageSize p.vendorRamdiskSize := by
    rw [Nat.mul_comm, Nat.add_mul, Nat.one_mul, hpages]
  have hn : 1 + n ≤ p.pageSize * (1 + n) := Nat.le_mul_of_pos_left _ hpos
  have hu : u32 (1 + n) = 1 + n := Nat.mod_eq_of_lt (by omega)
  rw [hu, hbytes]
  exact Nat.mod_eq_of_lt h

structure VendorParams (hdr vendor : Bytes) (p : ImageParams) : Prop where
  page : p.pageSize = VendorBootImgHdr.pageSize vendor
  ramdisk : p.vendorRamdiskSize = VendorBootImgHdr.vendorRamdiskSize vendor
  four : headerVersion hdr = BOOT_HEADER_VERSION_FOUR →
    p.dtSize = VendorBootImgHdr.dtbSize vendor ∧
      p.vendorRamdiskTableSize = VendorBootImgHdr.vendorRamdiskTableSize vendor ∧
      p.vendorBootconfigSize = VendorBootImgHdr.vendorBootconfigSize vendor

theorem updateBootParamsSize_vendor (hversion : headerVersion hdr = BOOT_HEADER_VERSION_THREE ∨
    headerVersion hdr = BOOT_HEADER_VERSION_FOUR) :
    VendorParams hdr vendor (updateBootParamsSize hdr vendor recoveryHdr) := by
  rw [updateBootParamsSize, if_neg (not_lt_three hversion)]
  exact ⟨rfl, rfl, fun hv => ⟨if_pos hv, if_pos hv, if_pos hv⟩⟩

theorem bootconfigAligned_iff (hpos : 0 < pageSize vendor)
    (hramdisk : pageSize vendor + roundUp (pageSize vendor) (vendorRamdiskSize vendor) < 2 ^ 32)
    (hdtb : pageSize vendor + roundUp (pageSize vendor) (dtbSize vendor) < 2 ^ 32)
    (htable : pageSize vendor +
      roundUp (pageSize vendor) (vendorRamdiskTableSize vendor) < 2 ^ 32) :
    BootconfigAligned vendor ↔
      LOCAL_ROUND_TO_PAGE (vendorRamdiskSize vendor) (pageSize vendor) +
          LOCAL_ROUND_TO_PAGE (dtbSize vendor) (pageSize vendor) +
          LOCAL_ROUND_TO_PAGE (vendorRamdiskTableSize vendor) (pageSize vendor) =
        roundUp (pageSize vendor) (vendorRamdiskSize vendor) +
          roundUp (pageSize vendor) (dtbSize vendor) +
          roundUp (pageSize vendor) (vendorRamdiskTableSize vendor) := by
  refine or_iff_right_of_imp ?_
  rintro ⟨k, hk⟩
  have hlt : pageSize vendor < 2 ^ 32 := Bytes.u32At_lt
  have hround : ∀ x, pageSize vendor + roundUp (pageSize vendor) x < 2 ^ 32 →
      LOCAL_ROUND_TO_PAGE x (pageSize vendor) = roundUp (pageSize vendor) x := by
    intro x hx
    have hle := le_roundUp hpos x
    rw [hk] at hx hlt hpos hle ⊢
    refine localRoundToPage_two_pow ((Nat.pow_lt_pow_iff_right (by decide)).mp hlt) ?_
    rw [pageMask_eq hpos hlt, MAX_UINT32]
    omega
  rw [hround _ hramdisk, hround _ hdtb, hround _ htable]

theorem vendorBootRanges_eq_iff (hpos : 0 < pageSize vendor)
    (hfits : documentedVendorSize hdr vendor < 2 ^ 32)
    (hversion : headerVersion hdr = BOOT_HEADER_VERSION_THREE ∨
      headerVersion hdr = BOOT_HEADER_VERSION_FOUR)
    {p : ImageParams} (hp : VendorParams hdr vendor p) :
    vendorBootRanges hdr vendor p = documentedVendorRanges hdr vendor ↔
      vendorHeaderSize hdr ≤ pageSize vendor ∧
        (headerVersion hdr = BOOT_HEADER_VERSION_FOUR → BootconfigAligned vendor) := by
  obtain ⟨hpage, hramdisk, hfour⟩ := hp
  have hlt : pageSize vendor < 2 ^ 32 := Bytes.u32At_lt
  have hheader : 0 < vendorHeaderSize hdr := by
    unfold vendorHeaderSize
    split
    · decide
    · decide
  have hle := le_roundUp_of_pos hpos hheader
  rw [← roundUp_eq_self_iff hpos hheader]
  unfold vendorBootRanges documentedVendorRanges
  unfold documentedVendorSize vendorSections at hfits
  unfold vendorSections
  rcases hversion with hv | hv
  · -- version three: the ramdisk and the device tree
    have hnot : ¬ headerVersion hdr > BOOT_HEADER_VERSION_THREE := by simp [hv]
    have hne : headerVersion hdr ≠ BOOT_HEADER_VERSION_FOUR := by rw [hv]; decide
    rw [if_neg hnot] at hfits ⊢
    simp only [List.append_nil, List.map_cons, List.sum_cons] at hfits
    simp only [List.append_nil, place, Nat.zero_add, if_neg hnot]
    have hdtb := @vendorDtbOffset_eq p (hpage ▸ hpos) (hpage ▸ hlt) (by rw [hpage, hramdisk]; omega)
    rw [hdtb, hpage, hramdisk]
    simp only [List.cons.injEq, Prod.mk.injEq, and_true, hne, false_imp_iff]
    omega
  · -- version four: the bootconfig behind them
    have hgt : headerVersion hdr > BOOT_HEADER_VERSION_THREE := by rw [hv]; decide
    obtain ⟨hdt, htable, hbootconfig⟩ := hfour hv
    rw [if_pos hgt] at hfits ⊢
    simp only [List.cons_append, List.nil_append, List.map_cons, List.map_nil, List.sum_cons,
      List.sum_nil] at hfits
    simp only [List.cons_append, List.nil_append, place, Nat.zero_add, if_pos hgt]
    have hdtb := @vendorDtbOffset_eq p (hpage ▸ hpos) (hpage ▸ hlt) (by rw [hpage, hramdisk]; omega)
    rw [hdtb, ImageParams.bootconfigOffset, hpage, hramdisk, hdt, htable, hbootconfig,
      bootconfigAligned_iff hpos (by omega) (by omega) (by omega)]
    simp only [List.cons.injEq, Prod.mk.injEq, and_true, hv, forall_const]
    omega

/-- **What is read from the vendor_boot image is where the documentation has it**, and inside the
    image, exactly if the header fits into a page, in version four the mask rounds to pages, and the
    documented sections are inside the image. -/
theorem vendorBootRanges_documented_iff (hdr vendor : Bytes) (imageHdrSize size page : Nat)
    (recovery : Bool) (recoveryHdr : Option Bytes) (vendorImageSize : Nat)
    (hversion : headerVersion hdr = BOOT_HEADER_VERSION_THREE ∨
      headerVersion hdr = BOOT_HEADER_VERSION_FOUR)
    (haccepted : checkImageHeader hdr imageHdrSize vendor recovery recoveryHdr = .ok (size, page))
    (hfits : documentedVendorSize hdr vendor < 2 ^ 32) :
    (vendorBootRanges hdr vendor (updateBootParamsSize hdr vendor recoveryHdr) =
        documentedVendorRanges hdr vendor ∧
      ∀ r ∈ vendorBootRanges hdr vendor (updateBootParamsSize hdr vendor recoveryHdr),
        Inside vendorImageSize r) ↔
      vendorHeaderSize hdr ≤ pageSize vendor ∧
        (headerVersion hdr = BOOT_HEADER_VERSION_FOUR → BootconfigAligned vendor) ∧
        ∀ r ∈ documentedVendorRanges hdr vendor, Inside vendorImageSize r := by
  have hpos := checkImageHeader_vendor_page hversion haccepted
  rw [← and_assoc, ← vendorBootRanges_eq_iff hpos hfits hversion
    (@updateBootParamsSize_vendor hdr vendor recoveryHdr hversion)]
  exact and_congr_right fun heq => by rw [heq]

end VendorBoot

def sampleBootHeaderV4 : Bytes :=
  ((Bytes.overwrite (fun _ => 0) 0 8 fun i => BOOT_MAGIC.getD i 0).put 8 4 1).put 40 4 4

def sampleVendorHeader (page : Nat) : Bytes :=
  let head := ((Bytes.overwrite (fun _ => 0) 0 8 fun i => VENDOR_BOOT_MAGIC.getD i 0).put 8 4 4).put
    12 4 page
  (((head.put 24 4 1).put 2100 4 1).put 2112 4 1).put 2124 4 1

theorem vendorBootRanges_documented_sample :
    vendorBootRanges sampleBootHeaderV4 (sampleVendorHeader 4096)
        (updateBootParamsSize sampleBootHeaderV4 (sampleVendorHeader 4096) none) =
        documentedVendorRanges sampleBootHeaderV4 (sampleVendorHeader 4096) ∧
      ∀ r ∈ vendorBootRanges sampleBootHeaderV4 (sampleVendorHeader 4096)
        (updateBootParamsSize sampleBootHeaderV4 (sampleVendorHeader 4096) none),
        Inside 20480 r := by
  refine (vendorBootRanges_documented_iff sampleBootHeaderV4 (sampleVendorHeader 4096)
    4096 8192 4096
    false none 20480 (.inr (by decide +kernel)) (by decide +kernel) (by decide +kernel)).mpr
    ⟨by decide +kernel, fun _ => .inl ⟨12, by decide +kernel⟩, ?_⟩
  have hdocumented : documentedVendorRanges sampleBootHeaderV4 (sampleVendorHeader 4096) =
      [(4096, 1), (8192, 1), (16384, 1)] := by decide +kernel
  rw [hdocumented]
  intro r hr
  have hcases : r = (4096, 1) ∨ r = (8192, 1) ∨ r = (16384, 1) := by simpa using hr
  rcases hcases with rfl | rfl | rfl
  all_goals exact inside_iff.mpr (.inr (by decide))

/-- With pages of 2048 bytes the header takes two of them, but the vendor ramdisk is read behind the
    first; and an image that ends before its device tree is not refused. -/
theorem vendorBootRanges_not_documented :
    (checkImageHeader sampleBootHeaderV4 4096 (sampleVendorHeader 2048) false none =
        .ok (4096, 2048) ∧
      vendorBootRanges sampleBootHeaderV4 (sampleVendorHeader 2048)
        (updateBootParamsSize sampleBootHeaderV4 (sampleVendorHeader 2048) none) =
        [(2048, 1), (4096, 1), (8192, 1)] ∧
      documentedVendorRanges sampleBootHeaderV4 (sampleVendorHeader 2048) =
        [(4096, 1), (6144, 1), (10240, 1)]) ∧
    (checkImageHeader sampleBootHeaderV4 4096 (sampleVendorHeader 4096) false none =
        .ok (8192, 4096) ∧
      (8192, 1) ∈ vendorBootRanges sampleBootHeaderV4 (sampleVendorHeader 4096)
        (updateBootParamsSize sampleBootHeaderV4 (sampleVendorHeader 4096) none) ∧
      ¬ Inside 8192 (8192, 1)) := by
  refine ⟨⟨?_, ?_, ?_⟩, ?_, ?_, fun h => ?_⟩
  · decide +kernel
  · decide +kernel
  · decide +kernel
  · decide +kernel
  · decide +kernel
  · exact absurd (h 8192 (Nat.le_refl _) (by decide)) (Nat.lt_irrefl _)

end OhMyAbl
