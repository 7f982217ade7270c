/-
  **Boot image headers, and the check they have to pass.**

  `CheckImageHeader` (`BootLinux.c`) is run on the headers of the boot image, the vendor_boot image
  and the recovery image (`BootImage.h`).  It rounds the sizes of the components to pages, refuses
  sums that do not fit 32 bits and says how many bytes of the boot image are to be loaded.

  `BootLinux` then takes the sizes from the headers again, and computes from them where the
  components are.
-/
import OhMyAbl.Lib.Align
import OhMyAbl.Lib.Bytes
import OhMyAbl.Base.Efi

namespace OhMyAbl

/-! ### Headers -/

def BOOT_MAGIC : List UInt8 := ascii "ANDROID!"
def BOOT_MAGIC_SIZE : Nat := 8
def VENDOR_BOOT_MAGIC : List UInt8 := ascii "VNDRBOOT"
def VENDOR_BOOT_MAGIC_SIZE : Nat := 8
def BOOT_IMG_MAX_PAGE_SIZE : Nat := 4096
def DTBO_MAX_SIZE_ALLOWED : Nat := 24 * 1024 * 1024

def BOOT_HEADER_VERSION_ZERO : Nat := 0
def BOOT_HEADER_VERSION_ONE : Nat := 1
def BOOT_HEADER_VERSION_TWO : Nat := 2
def BOOT_HEADER_VERSION_THREE : Nat := 3
def BOOT_HEADER_VERSION_FOUR : Nat := 4

/-- `sizeof (boot_img_hdr)`, and the field of it that tells its version, which stands at the same
    place in all boot image headers. -/
def BOOT_IMG_HDR_SIZE : Nat := 1632

def headerVersion (header : Bytes) : Nat := header.u32At 40

def BOOT_IMAGE_HEADER_V1_RECOVERY_DTBO_SIZE_OFFSET : Nat := BOOT_IMG_HDR_SIZE
def BOOT_IMAGE_HEADER_V2_OFFSET : Nat := 16
def BOOT_IMAGE_HEADER_V2_SIZE : Nat := 12
def VENDOR_BOOT_HEADER_V3_SIZE : Nat := 2112
def VENDOR_BOOT_HEADER_V4_SIZE : Nat := 2128

namespace BootImgHdr

def kernelSize (hdr : Bytes) : Nat := hdr.u32At 8
def ramdiskSize (hdr : Bytes) : Nat := hdr.u32At 16
def secondSize (hdr : Bytes) : Nat := hdr.u32At 24
def pageSize (hdr : Bytes) : Nat := hdr.u32At 36

def recoveryDtboSize (hdr : Bytes) : Nat := hdr.u32At BOOT_IMAGE_HEADER_V1_RECOVERY_DTBO_SIZE_OFFSET
def recoveryDtboOffset (hdr : Bytes) : Nat :=
  hdr.u64At (BOOT_IMAGE_HEADER_V1_RECOVERY_DTBO_SIZE_OFFSET + 4)
def headerSize (hdr : Bytes) : Nat :=
  hdr.u32At (BOOT_IMAGE_HEADER_V1_RECOVERY_DTBO_SIZE_OFFSET + 12)

def dtbSize (hdr : Bytes) : Nat :=
  hdr.u32At (BOOT_IMAGE_HEADER_V1_RECOVERY_DTBO_SIZE_OFFSET + BOOT_IMAGE_HEADER_V2_OFFSET)

end BootImgHdr

-- `boot_img_hdr_v3` and `boot_img_hdr_v4`
namespace BootImgHdrV3

def kernelSize (hdr : Bytes) : Nat := hdr.u32At 8
def ramdiskSize (hdr : Bytes) : Nat := hdr.u32At 12

end BootImgHdrV3

-- `vendor_boot_img_hdr_v3`, and `vendor_boot_img_hdr_v4` which adds sizes
namespace VendorBootImgHdr

def pageSize (hdr : Bytes) : Nat := hdr.u32At 12
def vendorRamdiskSize (hdr : Bytes) : Nat := hdr.u32At 24
def dtbSize (hdr : Bytes) : Nat := hdr.u32At 2100
def vendorRamdiskTableSize (hdr : Bytes) : Nat := hdr.u32At 2112
def vendorBootconfigSize (hdr : Bytes) : Nat := hdr.u32At 2124

end VendorBootImgHdr

/-! ### Rounding -/

def pageMask (pageSize : Nat) : Nat := u32 (pageSize + MAX_UINT32)

def LOCAL_ROUND_TO_PAGE (x y : Nat) : Nat := u32 (x + pageMask y) &&& (MAX_UINT32 - pageMask y)

def getNumberOfPages (imageSize pageSize : Nat) : Nat :=
  u32 (imageSize + pageMask pageSize) / pageSize

/-! ### CheckImageHeader -/

structure ImageSizes where
  kernelSize : Nat
  ramdiskSize : Nat
  pageSize : Nat
  dtSize : Nat

def roundedSize (size pageSize : Nat) : Except EfiStatus Nat :=
  let actual := ROUND_TO_PAGE size (pageMask pageSize)
  if size ≠ 0 ∧ actual = 0 then .error EFI_BAD_BUFFER_SIZE else .ok actual

def addSizes (a b : Nat) : Except EfiStatus Nat :=
  if ADD_OF a b = 0 then .error EFI_BAD_BUFFER_SIZE else .ok (ADD_OF a b)

/-- The checks of a vendor_boot header, and of a recovery header without a kernel. -/
def vendorSizes (hdr vendor : Bytes) (recovery : Bool) (recoveryHdr : Option Bytes) :
    Except EfiStatus ImageSizes :=
  if vendor.slice 0 VENDOR_BOOT_MAGIC_SIZE ≠ VENDOR_BOOT_MAGIC then .error EFI_NO_MEDIA
  else if VendorBootImgHdr.pageSize vendor > BOOT_IMG_MAX_PAGE_SIZE then .error EFI_BAD_BUFFER_SIZE
  else do
    let _ ← roundedSize (VendorBootImgHdr.vendorRamdiskSize vendor)
      (VendorBootImgHdr.pageSize vendor)
    if recovery then
      match recoveryHdr with
      | some r =>
        let _ ← roundedSize (BootImgHdrV3.ramdiskSize r) (VendorBootImgHdr.pageSize vendor)
      | none => pure ()
    return ⟨BootImgHdrV3.kernelSize hdr, BootImgHdrV3.ramdiskSize hdr,
      VendorBootImgHdr.pageSize vendor, VendorBootImgHdr.dtbSize vendor⟩

def headerSizes (hdr vendor : Bytes) (recovery : Bool) (recoveryHdr : Option Bytes) :
    Except EfiStatus ImageSizes :=
  if headerVersion hdr < BOOT_HEADER_VERSION_THREE then
    .ok ⟨BootImgHdr.kernelSize hdr, BootImgHdr.ramdiskSize hdr, BootImgHdr.pageSize hdr,
      if headerVersion hdr = BOOT_HEADER_VERSION_TWO then BootImgHdr.dtbSize hdr else 0⟩
  else if headerVersion hdr = BOOT_HEADER_VERSION_THREE ∨
    headerVersion hdr = BOOT_HEADER_VERSION_FOUR
  then vendorSizes hdr vendor recovery recoveryHdr
  else .ok ⟨0, 0, 0, 0⟩

/-- The size of the recovery dtbo, which counts in a boot into recovery only. -/
def recoveryDtboActual (hdr : Bytes) (pageSize : Nat) : Except EfiStatus Nat :=
  let expected :=
    if headerVersion hdr = BOOT_HEADER_VERSION_ONE then
      BOOT_IMAGE_HEADER_V2_OFFSET + BOOT_IMAGE_HEADER_V1_RECOVERY_DTBO_SIZE_OFFSET
    else
      BOOT_IMAGE_HEADER_V1_RECOVERY_DTBO_SIZE_OFFSET + BOOT_IMAGE_HEADER_V2_OFFSET +
        BOOT_IMAGE_HEADER_V2_SIZE
  -- rounded without a check for an overflow
  let actual := ROUND_TO_PAGE (BootImgHdr.recoveryDtboSize hdr) (pageMask pageSize)
  if BootImgHdr.headerSize hdr ≠ expected then .error EFI_BAD_BUFFER_SIZE
  else if actual > DTBO_MAX_SIZE_ALLOWED then .error EFI_BAD_BUFFER_SIZE
  else if CHECK_ADD64 (BootImgHdr.recoveryDtboOffset hdr) actual then .error EFI_BAD_BUFFER_SIZE
  else .ok actual

/-- The size of the device tree, which header versions zero and one do not have. -/
def dtSizeActual (hdr : Bytes) (sizes : ImageSizes) : Except EfiStatus Nat :=
  if headerVersion hdr ≥ BOOT_HEADER_VERSION_TWO then roundedSize sizes.dtSize
    sizes.pageSize else .ok 0

def addDtSize (hdr : Bytes) (size dt : Nat) : Except EfiStatus Nat :=
  if headerVersion hdr < BOOT_HEADER_VERSION_THREE then addSizes size dt else .ok size

def addRecoveryDtbo (hdr : Bytes) (recovery : Bool) (pageSize size : Nat) : Except EfiStatus Nat :=
  if recovery = true ∧ headerVersion hdr > BOOT_HEADER_VERSION_ZERO ∧
      headerVersion hdr < BOOT_HEADER_VERSION_THREE then do
    let dtbo ← recoveryDtboActual hdr pageSize
    addSizes size dtbo
  else .ok size

/-- `CheckImageHeader`: the size of the image that is to be loaded, and the page size. -/
def checkImageHeader (hdr : Bytes) (imageHdrSize : Nat) (vendor : Bytes) (recovery : Bool)
    (recoveryHdr : Option Bytes) : Except EfiStatus (Nat × Nat) :=
  if hdr.slice 0 BOOT_MAGIC_SIZE ≠ BOOT_MAGIC then .error EFI_NO_MEDIA
  else do
    let sizes ← headerSizes hdr vendor recovery recoveryHdr
    if sizes.kernelSize = 0 ∨ sizes.pageSize = 0 then .error EFI_BAD_BUFFER_SIZE
    else if sizes.pageSize ≠ imageHdrSize ∧ sizes.pageSize > BOOT_IMG_MAX_PAGE_SIZE then
      .error EFI_BAD_BUFFER_SIZE
    else
      let kernelSizeActual ← roundedSize sizes.kernelSize sizes.pageSize
      let ramdiskSizeActual ← roundedSize sizes.ramdiskSize sizes.pageSize
      let dtSizeActual ← dtSizeActual hdr sizes
      let size ← addSizes sizes.pageSize kernelSizeActual
      let size ← addSizes size ramdiskSizeActual
      let size ← addDtSize hdr size dtSizeActual
      let size ← addRecoveryDtbo hdr recovery sizes.pageSize size
      return (size, sizes.pageSize)

/-! ### What the rounding does -/

section Rounding

variable {a b x y page : Nat}

theorem pageMask_eq (hpos : 0 < page) (hlt : page < 2 ^ 32) : pageMask page = page - 1 := by
  simp only [pageMask, u32, MAX_UINT32]
  omega

theorem addOf_eq (h : ADD_OF a b ≠ 0) : ADD_OF a b = a + b ∧ a + b < MAX_UINT32 := by
  unfold ADD_OF at h ⊢
  by_cases hfits : MAX_UINT32 - b > a
  · rw [if_pos hfits]
    exact ⟨rfl, by omega⟩
  · rw [if_neg hfits] at h
    exact absurd rfl h

theorem addOf_of_lt (h : a + b < MAX_UINT32) : ADD_OF a b = a + b := if_pos (by omega)

theorem addSizes_eq_ok {c : Nat} (h : addSizes a b = .ok c) : c = a + b ∧ c < MAX_UINT32 := by
  unfold addSizes at h
  split at h
  · exact nomatch h
  · rename_i hne
    obtain ⟨hsum, hlt⟩ := addOf_eq hne
    rw [hsum] at h
    cases h
    exact ⟨rfl, hlt⟩

structure Rounded (page size actual : Nat) : Prop where
  fits : size + pageMask page < MAX_UINT32
  eq : actual = LOCAL_ROUND_TO_PAGE size page

theorem localRoundToPage_eq (h : x + pageMask page < MAX_UINT32) :
    LOCAL_ROUND_TO_PAGE x page = ROUND_TO_PAGE x (pageMask page) := by
  have hu : u32 (x + pageMask page) = x + pageMask page := by
    simp only [u32, MAX_UINT32] at h ⊢
    omega
  rw [LOCAL_ROUND_TO_PAGE, ROUND_TO_PAGE, addOf_of_lt h, hu]

/-- The mask takes away no more than was added, whatever the size of a page. -/
theorem le_localRoundToPage (h : x + pageMask page < MAX_UINT32) :
    x ≤ LOCAL_ROUND_TO_PAGE x page := by
  have hmax : MAX_UINT32 = 2 ^ 32 - 1 := rfl
  have hu : u32 (x + pageMask page) = x + pageMask page := Nat.mod_eq_of_lt (by omega)
  have hsum := @land_compl_add 32 (pageMask page) (x + pageMask page) (by omega) (by omega)
  have hand : (x + pageMask page) &&& pageMask page ≤ pageMask page := Nat.and_le_right
  rw [LOCAL_ROUND_TO_PAGE, hu, hmax]
  omega

theorem roundedSize_eq_ok (hpage : pageMask page < MAX_UINT32) (h : roundedSize x page = .ok y) :
    Rounded page x y := by
  have hfits : x + pageMask page < MAX_UINT32 := by
    by_contra hover
    have hzero : ADD_OF x (pageMask page) = 0 := if_neg (by omega)
    have hx : x ≠ 0 := by
      rintro rfl
      rw [Nat.zero_add] at hover
      exact hover hpage
    unfold roundedSize at h
    rw [if_pos ⟨hx, by rw [ROUND_TO_PAGE, hzero, Nat.zero_and]⟩] at h
    exact nomatch h
  refine ⟨hfits, ?_⟩
  unfold roundedSize at h
  dsimp only at h
  split at h
  · exact nomatch h
  · cases h
    exact (localRoundToPage_eq hfits).symm

theorem localRoundToPage_two_pow {k : Nat} (hk : k < 32) (h : x + pageMask (2 ^ k) < MAX_UINT32) :
    LOCAL_ROUND_TO_PAGE x (2 ^ k) = roundUp (2 ^ k) x := by
  have hpos : 0 < 2 ^ k := Nat.two_pow_pos k
  have hlt : 2 ^ k < 2 ^ 32 := Nat.pow_lt_pow_right (by decide) hk
  rw [pageMask_eq hpos hlt] at h
  have hz : x + (2 ^ k - 1) < 2 ^ 32 := by
    simp only [MAX_UINT32] at h
    omega
  rw [LOCAL_ROUND_TO_PAGE, pageMask_eq hpos hlt, u32, Nat.mod_eq_of_lt hz,
    show MAX_UINT32 = 2 ^ 32 - 1 from rfl, land_compl_two_pow hz (Nat.le_of_lt hk), roundUp, pieces,
    Nat.add_sub_assoc hpos]

theorem getNumberOfPages_eq (hpos : 0 < page) (hlt : page < 2 ^ 32) (h : x + page ≤ 2 ^ 32) :
    getNumberOfPages x page = pieces page x := by
  rw [getNumberOfPages, pageMask_eq hpos hlt, u32, Nat.mod_eq_of_lt (by omega), pieces,
    Nat.add_sub_assoc hpos]

theorem getNumberOfPages_mul (hpos : 0 < page) (hlt : page < 2 ^ 32)
    (h : page + roundUp page x < 2 ^ 32) : getNumberOfPages x page * page = roundUp page x := by
  have hle := le_roundUp hpos x
  rw [getNumberOfPages_eq hpos hlt (by omega), roundUp]

end Rounding

/-! ### Accepted headers -/

/-- The bytes of a boot image up to version two that `CheckImageHeader` counts: the header, the
    kernel, the ramdisk, the device tree, and the recovery dtbo if that is booted. -/
def countedSize (hdr : Bytes) (recovery : Bool) : Nat :=
  BootImgHdr.pageSize hdr + LOCAL_ROUND_TO_PAGE (BootImgHdr.kernelSize hdr)
    (BootImgHdr.pageSize hdr) +
    LOCAL_ROUND_TO_PAGE (BootImgHdr.ramdiskSize hdr) (BootImgHdr.pageSize hdr) +
    (if headerVersion hdr = BOOT_HEADER_VERSION_TWO then
      LOCAL_ROUND_TO_PAGE (BootImgHdr.dtbSize hdr) (BootImgHdr.pageSize hdr) else 0) +
    (if recovery = true ∧ headerVersion hdr > BOOT_HEADER_VERSION_ZERO then
      ROUND_TO_PAGE (BootImgHdr.recoveryDtboSize hdr) (pageMask (BootImgHdr.pageSize hdr)) else 0)

structure AcceptedHeader (hdr : Bytes) (recovery : Bool) (size page : Nat) : Prop where
  page_eq : page = BootImgHdr.pageSize hdr
  page_pos : 0 < BootImgHdr.pageSize hdr
  kernel_pos : BootImgHdr.kernelSize hdr ≠ 0
  kernel_fits : BootImgHdr.kernelSize hdr + pageMask (BootImgHdr.pageSize hdr) < MAX_UINT32
  ramdisk_fits : BootImgHdr.ramdiskSize hdr + pageMask (BootImgHdr.pageSize hdr) < MAX_UINT32
  dtb_fits : headerVersion hdr = BOOT_HEADER_VERSION_TWO →
    BootImgHdr.dtbSize hdr + pageMask (BootImgHdr.pageSize hdr) < MAX_UINT32
  size_eq : size = countedSize hdr recovery
  size_lt : size < MAX_UINT32

theorem except_bind_eq_ok {α β : Type} {x : Except EfiStatus α} {f : α → Except EfiStatus β} {b : β}
    (h : (x >>= f) = .ok b) : ∃ a, x = .ok a ∧ f a = .ok b := by
  cases x with
  | error e => exact nomatch h
  | ok a => exact ⟨a, rfl, h⟩

theorem recoveryDtboActual_eq_ok {hdr : Bytes} {page actual : Nat}
    (h : recoveryDtboActual hdr page = .ok actual) :
    actual = ROUND_TO_PAGE (BootImgHdr.recoveryDtboSize hdr) (pageMask page) := by
  unfold recoveryDtboActual at h
  dsimp only at h
  split_ifs at h
  all_goals
    cases h
    rfl

section Accepted

variable {hdr vendor : Bytes} {imageHdrSize size size' page : Nat} {recovery : Bool}
  {recoveryHdr : Option Bytes}

theorem addRecoveryDtbo_eq_ok (hversion : headerVersion hdr < BOOT_HEADER_VERSION_THREE)
    (hsize : size < MAX_UINT32) (h : addRecoveryDtbo hdr recovery page size = .ok size') :
    size' < MAX_UINT32 ∧ size' = size +
      if recovery = true ∧ headerVersion hdr > BOOT_HEADER_VERSION_ZERO then
        ROUND_TO_PAGE (BootImgHdr.recoveryDtboSize hdr) (pageMask page) else 0 := by
  unfold addRecoveryDtbo at h
  by_cases hcounts : recovery = true ∧ headerVersion hdr > BOOT_HEADER_VERSION_ZERO
  · rw [if_pos ⟨hcounts.1, hcounts.2, hversion⟩] at h
    obtain ⟨dtbo, hdtbo, h⟩ := except_bind_eq_ok h
    obtain ⟨hsum, hlt⟩ := addSizes_eq_ok h
    rw [if_pos hcounts, ← recoveryDtboActual_eq_ok hdtbo]
    exact ⟨hlt, hsum⟩
  · rw [if_neg fun hall => hcounts ⟨hall.1, hall.2.1⟩] at h
    cases h
    rw [if_neg hcounts]
    exact ⟨hsize, rfl⟩

theorem dtSizeActual_eq_ok {sizes : ImageSizes} {dt : Nat} (h : dtSizeActual hdr sizes = .ok dt)
    (hmask : pageMask sizes.pageSize < MAX_UINT32)
    (hversion : headerVersion hdr < BOOT_HEADER_VERSION_THREE) :
    (headerVersion hdr = BOOT_HEADER_VERSION_TWO → Rounded sizes.pageSize sizes.dtSize dt) ∧
      (headerVersion hdr ≠ BOOT_HEADER_VERSION_TWO → dt = 0) := by
  unfold dtSizeActual at h
  split_ifs at h with htwo
  · refine ⟨fun _ => roundedSize_eq_ok hmask h, fun hne => absurd ?_ hne⟩
    simp only [BOOT_HEADER_VERSION_THREE, BOOT_HEADER_VERSION_TWO] at hversion htwo ⊢
    omega
  · cases h
    exact ⟨fun heq => absurd heq.ge htwo, fun _ => rfl⟩

theorem checkImageHeader_accepted (hversion : headerVersion hdr < BOOT_HEADER_VERSION_THREE)
    (h : checkImageHeader hdr imageHdrSize vendor recovery recoveryHdr = .ok (size, page)) :
    AcceptedHeader hdr recovery size page := by
  unfold checkImageHeader at h
  split_ifs at h
  rw [headerSizes, if_pos hversion] at h
  obtain ⟨sizes, hsizes, h⟩ := except_bind_eq_ok h
  obtain ⟨kernelSize, ramdiskSize, pageSize, dtSize⟩ := sizes
  obtain ⟨rfl, rfl, rfl, hdt⟩ := ImageSizes.mk.inj (Except.ok.inj hsizes)
  dsimp only at h
  split_ifs at h with hzero hmax
  obtain ⟨hkernel, hpage⟩ := not_or.mp hzero
  have hpos := Nat.pos_of_ne_zero hpage
  have hmask : pageMask (BootImgHdr.pageSize hdr) < MAX_UINT32 := by
    have hlt : BootImgHdr.pageSize hdr < 2 ^ 32 := Bytes.u32At_lt
    rw [pageMask_eq hpos hlt, MAX_UINT32]
    omega
  obtain ⟨kernel, hkernelActual, h⟩ := except_bind_eq_ok h
  obtain ⟨ramdisk, hramdiskActual, h⟩ := except_bind_eq_ok h
  obtain ⟨dt, hdtActual, h⟩ := except_bind_eq_ok h
  obtain ⟨size₁, hsize₁, h⟩ := except_bind_eq_ok h
  obtain ⟨size₂, hsize₂, h⟩ := except_bind_eq_ok h
  obtain ⟨size₃, hsize₃, h⟩ := except_bind_eq_ok h
  obtain ⟨size₄, hsize₄, h⟩ := except_bind_eq_ok h
  cases h
  obtain ⟨hkernelFits, hkernelEq⟩ := roundedSize_eq_ok hmask hkernelActual
  obtain ⟨hramdiskFits, hramdiskEq⟩ := roundedSize_eq_ok hmask hramdiskActual
  obtain ⟨htwo, hnot⟩ := dtSizeActual_eq_ok hdtActual hmask hversion
  rw [addDtSize, if_pos hversion] at hsize₃
  obtain ⟨hsum₁, -⟩ := addSizes_eq_ok hsize₁
  obtain ⟨hsum₂, -⟩ := addSizes_eq_ok hsize₂
  obtain ⟨hsum₃, hlt₃⟩ := addSizes_eq_ok hsize₃
  obtain ⟨hlt₄, hsum₄⟩ := addRecoveryDtbo_eq_ok hversion hlt₃ hsize₄
  refine ⟨rfl, hpos, hkernel, hkernelFits, hramdiskFits, fun hv => ?_, ?_, hlt₄⟩
  · have hfits := (htwo hv).fits
    rwa [← hdt, if_pos hv] at hfits
  · rw [hsum₄, hsum₃, hsum₂, hsum₁, hkernelEq, hramdiskEq, countedSize]
    by_cases hv : headerVersion hdr = BOOT_HEADER_VERSION_TWO
    · rw [(htwo hv).eq, ← hdt, if_pos hv, if_pos hv]
    · rw [hnot hv, if_neg hv]

end Accepted

end OhMyAbl
