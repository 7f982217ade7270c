/-
  **Where `BootLinux` puts kernel, device tree and ramdisks.**

  `UpdateBootParams` divides the reserved memory before the lengths are known: the kernel may turn
  out longer than its region, the device tree longer than two megabytes, and the bootconfig section,
  which nobody counted, is appended to the ramdisks.
-/
import OhMyAbl.Boot.ImageRanges

namespace OhMyAbl

/-! ### The kernel -/

def KERNEL64_HDR_MAGIC : Nat := 0x644D5241
def PATCHED_KERNEL_MAGIC : List UInt8 := ascii "UNCOMPRESSED_IMG"
def GZIP_HEADER_LEN : Nat := 10
def DTB_OFFSET_LOCATION_IN_ARCH32_KERNEL_HDR : Nat := 0x2C
def KERNEL_32BIT_LOAD_OFFSET : Nat := 0x8000
def KERNEL_64BIT_LOAD_OFFSET : Nat := 0x80000
def DT_SIZE_2MB : Nat := 2 * 1024 * 1024
def DTB_PAD_SIZE : Nat := 2048

namespace Kernel64Hdr

def textOffset (kernel : Bytes) : Nat := kernel.u64At 8
def imageSize (kernel : Bytes) : Nat := kernel.u64At 16
def magic64 (kernel : Bytes) : Nat := kernel.u32At 56

end Kernel64Hdr

def isGzipPackage (buf : Bytes) (len : Nat) : Bool :=
  decide (GZIP_HEADER_LEN ≤ len) && buf 0 == 0x1f && buf 1 == 0x8b && buf 2 == 0x08

def kernelKind (kernel : Bytes) (kernelSize : Nat) : KernelKind :=
  if isGzipPackage kernel kernelSize then .gzip
  else if kernel.slice 0 PATCHED_KERNEL_MAGIC.length = PATCHED_KERNEL_MAGIC then .patched
  else .plain

def unpatched (kernel : Bytes) (kind : KernelKind) : Bytes :=
  kernel.shift (if kind = .patched then PATCHED_KERNEL_HEADER_SIZE else 0)

def bootingWith32BitKernel (kernel : Bytes) (kind : KernelKind) : Bool :=
  decide (kind ≠ .gzip ∧ Kernel64Hdr.magic64 (unpatched kernel kind) ≠ KERNEL64_HDR_MAGIC)

/-! ### What the boot finds outside the images -/

/-- The memory that is reserved for the kernel, and what the libraries (zlib, libfdt) and the
    earlier steps of the boot leave for the load. -/
structure LoadEnv where
  /-- start and size of the kernel region of the early services, if they are enabled -/
  earlyService : Option (Nat × Nat)
  /-- `KernelBaseAddr` and `KernelSize`, if both variables can be read -/
  queryBootParams : Option (Nat × Nat)
  baseMemory : Nat
  kernelLoadAddress32 : Nat
  ramdiskEndAddress32 : Nat
  kernelLoadAddress : Nat
  ramdiskEndAddress : Nat
  ramdiskImageBuffer : Nat
  ramdiskOffset : Nat
  /-- a boot into a recovery that has no kernel -/
  recoveryRamdisk : Bool
  /-- the data and its length, for the room there is -/
  inflate : Nat → Option (Bytes × Nat)
  fdtTotalSize : Nat
  cmdLineLen : Nat
  /-- the size of the tree after the updates and `fdt_pack`, for the size it was opened with -/
  updateTree : Nat → Except EfiStatus Nat
  /-- `FinalBootConfigLen`, if there is a `FinalBootConfig` -/
  finalBootConfigLen : Option Nat
  /-- the magic of a trailer stands in front of the end of the section -/
  trailerInSection : Bool
  /-- it stands there once more when the parameters have been added -/
  trailerInParams : Bool
  inflate_le : ∀ {avail len out}, inflate avail = some (out, len) → len ≤ avail
  updateTree_le : ∀ {size n}, updateTree size = .ok n → 0 < n ∧ n ≤ size

/-! ### UpdateBootParams -/

variable (env : LoadEnv)

def kernelRegion (kernel : Bytes) (kind : KernelKind) (is32 : Bool) : Nat × Nat :=
  match env.queryBootParams with
  | some reserved =>
    let (addr, size) := env.earlyService.getD reserved
    let offset :=
      if is32 then KERNEL_32BIT_LOAD_OFFSET
      else if kind ≠ .gzip ∧ Kernel64Hdr.imageSize kernel ≠ 0 then Kernel64Hdr.textOffset kernel
      else KERNEL_64BIT_LOAD_OFFSET
    (u64 (addr + offset), u64 (addr + size))
  | none =>
    let addr := (env.earlyService.map Prod.fst).getD env.baseMemory
    if is32 then (addr ||| env.kernelLoadAddress32, u64 (addr + env.ramdiskEndAddress32))
    else (addr ||| env.kernelLoadAddress, u64 (addr + env.ramdiskEndAddress))

def ImageParams.totalRamdiskSize (p : ImageParams) : Nat :=
  u32 (p.ramdiskSize + p.vendorRamdiskSize + p.recoveryRamdiskSize)

/-- What is set aside for the ramdisks: their size in whole pages and one page more. -/
def ImageParams.ramdiskRoom (p : ImageParams) : Nat :=
  u32 (LOCAL_ROUND_TO_PAGE p.totalRamdiskSize p.pageSize + p.pageSize)

def ImageParams.deviceTreeRoom (p : ImageParams) : Nat := u32 (DT_SIZE_2MB + p.pageSize)

structure LoadAddrs where
  kernelLoadAddr : Nat
  kernelEndAddr : Nat
  ramdiskLoadAddr : Nat
  deviceTreeLoadAddr : Nat
deriving DecidableEq, Repr

def updateBootParams (p : ImageParams) (kernel : Bytes) (kind : KernelKind) (is32 : Bool) :
    Except EfiStatus LoadAddrs :=
  let region := kernelRegion env kernel kind is32
  let ramdiskLoadAddr := u64Sub region.2 p.ramdiskRoom
  let deviceTreeLoadAddr := u64Sub ramdiskLoadAddr p.deviceTreeRoom
  if deviceTreeLoadAddr ≤ region.1 then .error EFI_BUFFER_TOO_SMALL
  else .ok ⟨region.1, region.2, ramdiskLoadAddr, deviceTreeLoadAddr⟩

/-! ### GZipPkgCheck -/

def decompress (inLen outBufLen : Nat) : Option (Bytes × Nat) :=
  if inLen ≤ GZIP_HEADER_LEN then none
  else if outBufLen ≤ inLen then none
  else env.inflate outBufLen

/-- The kernel is decompressed or copied to its region, `avail` bytes before the device tree: the
    bytes that are written and their number. -/
def placeKernel (p : ImageParams) (kernel : Bytes) (kind : KernelKind) (avail : Nat) :
    Except EfiStatus (Bytes × Nat) :=
  if kind = .gzip then
    if avail > MAX_UINT32 then .error EFI_BAD_BUFFER_SIZE
    else match decompress env p.kernelSize avail with
      | none => .error EFI_OUT_OF_RESOURCES
      -- compared with the size of a pointer to the header
      | some (out, outLen) =>
        if outLen ≤ 8 then .error EFI_OUT_OF_RESOURCES else .ok (out, outLen)
  else
    let kptr := unpatched kernel kind
    if Kernel64Hdr.magic64 kptr ≠ KERNEL64_HDR_MAGIC ∧
        p.kernelSize ≤ DTB_OFFSET_LOCATION_IN_ARCH32_KERNEL_HDR then .error EFI_BAD_BUFFER_SIZE
    else .ok (kptr, p.kernelSize)

/-- The number of bytes that are now at `KernelLoadAddr`, and `BootingWith32BitKernel`. -/
def gzipPkgCheck (p : ImageParams) (kernel : Bytes) (kind : KernelKind) (a : LoadAddrs) :
    Except EfiStatus (Nat × Bool) :=
  let avail := u64Sub a.deviceTreeLoadAddr a.kernelLoadAddr
  (placeKernel env p kernel kind avail).bind fun (kptr, len) =>
    if Kernel64Hdr.magic64 kptr ≠ KERNEL64_HDR_MAGIC then .ok (len, true)
    else if Kernel64Hdr.imageSize kptr > avail then .error EFI_OUT_OF_RESOURCES
    else .ok (len, false)

/-! ### The bootconfig section -/

def V4_BOOTCONFIG_TRAILER : Nat := 12 + 4 + 4

def ALIGN (v a : Nat) : Nat := u64 ((u64Sub v 1 ||| (a - 1)) + 1)

def addBootConfigTrailer (start size : Nat) : Nat :=
  if start = 0 ∨ size = 0 then 0
  else if env.trailerInParams then 0
  else u64 (ALIGN (u64 (start + size)) 4 + V4_BOOTCONFIG_TRAILER)

def addBootconfigParameters (paramSize start size : Nat) : Nat :=
  if paramSize = 0 ∨ start = 0 then 0
  else
    -- a trailer that is there already is overwritten
    let trailer := if env.trailerInSection then V4_BOOTCONFIG_TRAILER else 0
    addBootConfigTrailer env start (u32 (size + paramSize + (2 ^ 32 - trailer)))

/-- How far the section reaches: over the static part, over the parameters that were copied, and
    to the end that is returned.  The sum of the sizes has 32 bits, so the end need not be the last
    of these. -/
def bootconfigLen (start size : Nat) : Nat :=
  let paramSize := env.finalBootConfigLen.getD 2
  let endAddr := addBootconfigParameters env paramSize start size
  let copied := if paramSize = 0 ∨ start = 0 then size
    else max size (size + paramSize - if env.trailerInSection then V4_BOOTCONFIG_TRAILER else 0)
  if endAddr ≠ 0 then max copied (u64Sub endAddr start) else copied

/-! ### LoadAddrAndDTUpdate -/

/-- The ramdisks that are copied to `RamdiskLoadAddr`, one behind the other. -/
def ramdisksLen (version : Nat) (p : ImageParams) : Nat :=
  (if version ≥ BOOT_HEADER_VERSION_THREE then
    p.vendorRamdiskSize + if env.recoveryRamdisk then p.recoveryRamdiskSize else 0 else 0) +
    p.ramdiskSize

/-- What the ramdisks and the bootconfig section take from `RamdiskLoadAddr` on. -/
def ramdiskExtent (version : Nat) (p : ImageParams) (ramdiskLoadAddr : Nat) : Nat :=
  ramdisksLen env version p +
    if version > BOOT_HEADER_VERSION_THREE then
      bootconfigLen env (u64 (ramdiskLoadAddr + ramdisksLen env version p)) p.vendorBootconfigSize
    else 0

/-- The size of the tree after `UpdateDeviceTree`.  In the argument of `ADD_OF` the sum has no
    parentheses, so that only its first term is subtracted. -/
def updateDeviceTree : Except EfiStatus Nat :=
  let paddSize :=
    if MAX_UINT32 - DTB_PAD_SIZE + env.cmdLineLen > env.fdtTotalSize then
      u32 (env.fdtTotalSize + DTB_PAD_SIZE + env.cmdLineLen)
    else 0
  if paddSize = 0 then .error EFI_BAD_BUFFER_SIZE else env.updateTree paddSize

structure LoadedBoot where
  kernelEndAddr : Nat
  kernel : Nat × Nat
  deviceTree : Nat × Nat
  ramdisk : Nat × Nat
deriving DecidableEq, Repr

def loadAddrAndDTUpdate (version : Nat) (p : ImageParams) (a : LoadAddrs) (kernelLen : Nat)
    (is32 : Bool) : Except EfiStatus LoadedBoot :=
  -- `RamdiskEndAddr`, which the ramdisks are checked with, is zero
  if u64Sub 0 a.ramdiskLoadAddr < p.totalRamdiskSize then .error EFI_BAD_BUFFER_SIZE
  else if CHECK_ADD64 env.ramdiskImageBuffer env.ramdiskOffset then .error EFI_BAD_BUFFER_SIZE
  else if is32 ∧ CHECK_ADD64 a.kernelLoadAddr p.kernelSizeActual then .error EFI_BAD_BUFFER_SIZE
  else if is32 ∧ a.kernelLoadAddr + p.kernelSizeActual > a.deviceTreeLoadAddr then
    .error EFI_INVALID_PARAMETER
  else
    (updateDeviceTree env).map fun deviceTreeLen =>
      { kernelEndAddr := a.kernelEndAddr
        -- a kernel for 32 bits is copied once more, with its padding
        kernel := (a.kernelLoadAddr, if is32 then max kernelLen p.kernelSizeActual else kernelLen)
        deviceTree := (a.deviceTreeLoadAddr, deviceTreeLen)
        ramdisk := (a.ramdiskLoadAddr, ramdiskExtent env version p a.ramdiskLoadAddr) }

/-- The part of `BootLinux` from `UpdateKernelModeAndPkg` to `LoadAddrAndDTUpdate`, for a device
    tree without `linux,initrd-start`. -/
def loadRegions (version : Nat) (p : ImageParams) (kernel : Bytes) : Except EfiStatus LoadedBoot :=
  let kind := kernelKind kernel p.kernelSize
  (updateBootParams env p kernel kind (bootingWith32BitKernel kernel kind)).bind fun a =>
    (gzipPkgCheck env p kernel kind a).bind fun (kernelLen, is32) =>
      loadAddrAndDTUpdate env version p a kernelLen is32

/-! ### The regions of a boot -/

def DisjointRanges (r q : Nat × Nat) : Prop :=
  ∀ x, r.1 ≤ x → x < r.1 + r.2 → ¬ (q.1 ≤ x ∧ x < q.1 + q.2)

def Within (lo hi : Nat) (r : Nat × Nat) : Prop := ∀ x, r.1 ≤ x → x < r.1 + r.2 → lo ≤ x ∧ x < hi

theorem disjointRanges_iff {r q : Nat × Nat} (h : r.1 ≤ q.1) :
    DisjointRanges r q ↔ q.2 = 0 ∨ r.1 + r.2 ≤ q.1 := by
  constructor
  · intro hapart
    by_contra hover
    -- the first byte of the upper range would be in both
    exact hapart q.1 h (by omega) ⟨Nat.le_refl q.1, by omega⟩
  · rintro hapart x - hx ⟨hx₁, hx₂⟩
    omega

theorem within_iff {lo hi : Nat} {r : Nat × Nat} :
    Within lo hi r ↔ r.2 = 0 ∨ lo ≤ r.1 ∧ r.1 + r.2 ≤ hi := by
  constructor
  · intro h
    rcases Nat.eq_zero_or_pos r.2 with hzero | hpos
    · exact .inl hzero
    · have hfirst := h r.1 (Nat.le_refl r.1) (by omega)
      have hlast := h (r.1 + r.2 - 1) (by omega) (by omega)
      exact .inr ⟨hfirst.1, by omega⟩
  · rintro h x hx hx'
    omega

/-- Kernel, device tree and ramdisks are pairwise disjoint and inside the reserved memory. -/
structure LoadedBoot.RegionsApart (b : LoadedBoot) : Prop where
  kernel_deviceTree : DisjointRanges b.kernel b.deviceTree
  kernel_ramdisk : DisjointRanges b.kernel b.ramdisk
  deviceTree_ramdisk : DisjointRanges b.deviceTree b.ramdisk
  kernel_within : Within b.kernel.1 b.kernelEndAddr b.kernel
  deviceTree_within : Within b.kernel.1 b.kernelEndAddr b.deviceTree
  ramdisk_within : Within b.kernel.1 b.kernelEndAddr b.ramdisk

def reservedRegion (p : ImageParams) (kernel : Bytes) : Nat × Nat :=
  let kind := kernelKind kernel p.kernelSize
  kernelRegion env kernel kind (bootingWith32BitKernel kernel kind)

def ramdiskNeed (version : Nat) (p : ImageParams) (kernel : Bytes) : Nat :=
  ramdiskExtent env version p (u64Sub (reservedRegion env p kernel).2 p.ramdiskRoom)

/-- What has to fit for the regions of a boot to stay apart: the rooms that are set aside, a kernel
    that is not decompressed in front of them, and in them the updated tree and the ramdisks with
    their bootconfig section. -/
structure RegionsFit (env : LoadEnv) (version : Nat) (p : ImageParams) (kernel : Bytes) : Prop where
  rooms_fit : p.ramdiskRoom + p.deviceTreeRoom ≤ (reservedRegion env p kernel).2
  kernel_fits : kernelKind kernel p.kernelSize ≠ .gzip →
    (reservedRegion env p kernel).1 + p.kernelSize + (p.deviceTreeRoom + p.ramdiskRoom) ≤
      (reservedRegion env p kernel).2
  deviceTree_fits : ∀ n, updateDeviceTree env = .ok n → n ≤ p.deviceTreeRoom ∨
    ramdiskNeed env version p kernel = 0 ∧ n ≤ p.deviceTreeRoom + p.ramdiskRoom
  ramdisk_fits : ramdiskNeed env version p kernel ≤ p.ramdiskRoom

section Regions

variable {env : LoadEnv} {version : Nat} {p : ImageParams} {kernel : Bytes} {kind : KernelKind}
  {is32 : Bool} {a : LoadAddrs} {b : LoadedBoot}

theorem kernelRegion_lt : (kernelRegion env kernel kind is32).2 < 2 ^ 64 := by
  unfold kernelRegion u64
  split
  · exact Nat.mod_lt _ (by decide)
  · split <;> exact Nat.mod_lt _ (by decide)

theorem updateBootParams_eq_ok (h : updateBootParams env p kernel kind is32 = .ok a) :
    a.kernelLoadAddr = (kernelRegion env kernel kind is32).1 ∧
      a.kernelEndAddr = (kernelRegion env kernel kind is32).2 ∧
      a.ramdiskLoadAddr = u64Sub a.kernelEndAddr p.ramdiskRoom ∧
      a.deviceTreeLoadAddr = u64Sub a.ramdiskLoadAddr p.deviceTreeRoom ∧
      a.kernelLoadAddr < a.deviceTreeLoadAddr := by
  unfold updateBootParams at h
  dsimp only at h
  split_ifs at h with hroom
  cases h
  exact ⟨rfl, rfl, rfl, rfl, Nat.lt_of_not_le hroom⟩

theorem decompress_le {inLen outBufLen len : Nat} {out : Bytes}
    (h : decompress env inLen outBufLen = some (out, len)) : len ≤ outBufLen := by
  unfold decompress at h
  split_ifs at h
  exact env.inflate_le h

theorem placeKernel_eq_ok {avail len : Nat} {kptr : Bytes}
    (h : placeKernel env p kernel kind avail = .ok (kptr, len)) :
    (kind = .gzip → len ≤ avail) ∧ (kind ≠ .gzip → len = p.kernelSize) := by
  unfold placeKernel at h
  split_ifs at h with hgzip havail
  · refine ⟨fun _ => ?_, fun hne => absurd hgzip hne⟩
    cases hout : decompress env p.kernelSize avail with
    | none => simp [hout] at h
    | some out =>
      simp only [hout] at h
      split_ifs at h
      cases h
      exact decompress_le hout
  · dsimp only at h
    split_ifs at h
    cases h
    exact ⟨fun hg => absurd hg hgzip, fun _ => rfl⟩

theorem gzipPkgCheck_eq_ok {len : Nat} (h : gzipPkgCheck env p kernel kind a = .ok (len, is32)) :
    (kind = .gzip → len ≤ u64Sub a.deviceTreeLoadAddr a.kernelLoadAddr) ∧
      (kind ≠ .gzip → len = p.kernelSize) := by
  obtain ⟨⟨kptr, len'⟩, hplace, hrest⟩ := except_bind_eq_ok h
  dsimp only at hrest
  split_ifs at hrest <;> cases hrest <;> exact placeKernel_eq_ok hplace

theorem updateDeviceTree_pos {n : Nat} (h : updateDeviceTree env = .ok n) : 0 < n := by
  unfold updateDeviceTree at h
  dsimp only at h
  split_ifs at h with hpad hfit
  all_goals exact (env.updateTree_le h).1

structure Placed (env : LoadEnv) (version : Nat) (p : ImageParams) (kernel : Bytes)
    (b : LoadedBoot) : Prop where
  start_eq : b.kernel.1 = (reservedRegion env p kernel).1
  end_eq : b.kernelEndAddr = (reservedRegion env p kernel).2
  ramdisk_start : b.ramdisk.1 = u64Sub (reservedRegion env p kernel).2 p.ramdiskRoom
  ramdisk_len : b.ramdisk.2 = ramdiskNeed env version p kernel
  deviceTree_start : b.deviceTree.1 = u64Sub b.ramdisk.1 p.deviceTreeRoom
  deviceTree_len : updateDeviceTree env = .ok b.deviceTree.2
  start_lt : b.kernel.1 < b.deviceTree.1
  kernel_len : b.kernel.1 + b.kernel.2 ≤ b.deviceTree.1 ↔
    (kernelKind kernel p.kernelSize ≠ .gzip → b.kernel.1 + p.kernelSize ≤ b.deviceTree.1)

theorem except_map_eq_ok {α β : Type} {x : Except EfiStatus α} {f : α → β} {y : β}
    (h : x.map f = .ok y) : ∃ n, x = .ok n ∧ f n = y := by
  cases x with
  | error e => exact nomatch h
  | ok n => exact ⟨n, rfl, Except.ok.inj h⟩

theorem loadAddrAndDTUpdate_eq_ok {len : Nat}
    (h : loadAddrAndDTUpdate env version p a len is32 = .ok b) :
    ∃ n, updateDeviceTree env = .ok n ∧ b.kernelEndAddr = a.kernelEndAddr ∧
      b.deviceTree = (a.deviceTreeLoadAddr, n) ∧
      b.ramdisk = (a.ramdiskLoadAddr, ramdiskExtent env version p a.ramdiskLoadAddr) ∧
      b.kernel.1 = a.kernelLoadAddr ∧
      (a.kernelLoadAddr + b.kernel.2 ≤ a.deviceTreeLoadAddr ↔
        a.kernelLoadAddr + len ≤ a.deviceTreeLoadAddr) := by
  unfold loadAddrAndDTUpdate at h
  split_ifs at h with hramdisk hbuffer hwrap hlimit h32
  · obtain ⟨n, htree, rfl⟩ := except_map_eq_ok h
    refine ⟨n, htree, rfl, rfl, rfl, rfl, ?_⟩
    -- the padded copy has been checked
    have hactual : a.kernelLoadAddr + p.kernelSizeActual ≤ a.deviceTreeLoadAddr :=
      Nat.le_of_not_lt fun hlt => hlimit ⟨h32, hlt⟩
    dsimp only
    omega
  · obtain ⟨n, htree, rfl⟩ := except_map_eq_ok h
    exact ⟨n, htree, rfl, rfl, rfl, rfl, Iff.rfl⟩

/-- Every region is where the layout puts it. -/
theorem loadRegions_placed (h : loadRegions env version p kernel = .ok b) :
    Placed env version p kernel b := by
  obtain ⟨a, hparams, h⟩ := except_bind_eq_ok h
  obtain ⟨⟨len, is32⟩, hgzip, h⟩ := except_bind_eq_ok h
  obtain ⟨hstart, hend, hramdisk, htree, hlt⟩ := updateBootParams_eq_ok hparams
  obtain ⟨hpacked, hplain⟩ := gzipPkgCheck_eq_ok hgzip
  obtain ⟨n, hupdate, hend', htree', hramdisk', hstart', hlen⟩ := loadAddrAndDTUpdate_eq_ok h
  have hbound : a.deviceTreeLoadAddr < 2 ^ 64 := by
    rw [htree]
    exact Nat.mod_lt _ (by decide)
  have havail := u64Sub_of_le (Nat.le_of_lt hlt) hbound
  have hroom : a.ramdiskLoadAddr = u64Sub (reservedRegion env p kernel).2 p.ramdiskRoom := by
    rw [hramdisk, hend]
    rfl
  refine ⟨hstart'.trans hstart, hend'.trans hend, ?_, ?_, ?_, ?_, ?_, ?_⟩
  · rw [hramdisk', hroom]
  · rw [hramdisk', hroom, ramdiskNeed]
  · rw [htree', hramdisk', htree]
  · rw [htree', hupdate]
  · rw [hstart', htree']
    exact hlt
  · rw [hstart', htree', hlen]
    by_cases hkind : kernelKind kernel p.kernelSize = .gzip
    · have := hpacked hkind
      simp only [hkind, ne_eq, not_true_eq_false, false_implies, iff_true]
      omega
    · rw [hplain hkind]
      exact ⟨fun h _ => h, fun h => h hkind⟩

theorem ramdiskRoom_lt : p.ramdiskRoom < 2 ^ 32 := Nat.mod_lt _ (by decide)

theorem deviceTreeRoom_lt : p.deviceTreeRoom < 2 ^ 32 := Nat.mod_lt _ (by decide)

namespace Placed

theorem deviceTree_le_iff (h : Placed env version p kernel b) :
    b.deviceTree.1 ≤ b.kernelEndAddr ↔
      p.ramdiskRoom + p.deviceTreeRoom ≤ (reservedRegion env p kernel).2 := by
  have hroom : p.ramdiskRoom < 2 ^ 32 := ramdiskRoom_lt
  have htree : p.deviceTreeRoom < 2 ^ 32 := deviceTreeRoom_lt
  rw [h.deviceTree_start, h.ramdisk_start, h.end_eq]
  unfold u64Sub u64
  omega

theorem addrs_eq (h : Placed env version p kernel b)
    (hrooms : p.ramdiskRoom + p.deviceTreeRoom ≤ (reservedRegion env p kernel).2) :
    b.ramdisk.1 + p.ramdiskRoom = b.kernelEndAddr ∧
      b.deviceTree.1 + p.deviceTreeRoom = b.ramdisk.1 := by
  have hend : (reservedRegion env p kernel).2 < 2 ^ 64 := kernelRegion_lt
  have hramdisk := h.ramdisk_start
  rw [u64Sub_of_le (by omega) hend] at hramdisk
  have htree := h.deviceTree_start
  rw [u64Sub_of_le (by omega) (by omega)] at htree
  have hstop := h.end_eq
  omega

theorem regionsApart_iff (h : Placed env version p kernel b) :
    b.RegionsApart ↔
      p.ramdiskRoom + p.deviceTreeRoom ≤ (reservedRegion env p kernel).2 ∧
      b.kernel.1 + b.kernel.2 ≤ b.deviceTree.1 ∧
      (b.ramdisk.2 = 0 ∨ b.deviceTree.1 + b.deviceTree.2 ≤ b.ramdisk.1) ∧
      b.deviceTree.1 + b.deviceTree.2 ≤ b.kernelEndAddr ∧
      b.ramdisk.2 ≤ p.ramdiskRoom := by
  have hpos : b.deviceTree.2 ≠ 0 := Nat.ne_of_gt (updateDeviceTree_pos h.deviceTree_len)
  have hlt := h.start_lt
  constructor
  · intro hapart
    have htree := (within_iff.mp hapart.deviceTree_within).resolve_left hpos
    have hrooms := h.deviceTree_le_iff.mp (by omega)
    obtain ⟨hramdisk, hdt⟩ := h.addrs_eq hrooms
    have hkernel := (disjointRanges_iff (Nat.le_of_lt hlt)).mp hapart.kernel_deviceTree
    have hnext := (disjointRanges_iff (show b.deviceTree.1 ≤ b.ramdisk.1 by omega)).mp
      hapart.deviceTree_ramdisk
    have hlast := within_iff.mp hapart.ramdisk_within
    exact ⟨hrooms, hkernel.resolve_left hpos, hnext, htree.2, by omega⟩
  · rintro ⟨hrooms, hkernel, hnext, htree, hlast⟩
    obtain ⟨hramdisk, hdt⟩ := h.addrs_eq hrooms
    constructor
    · exact (disjointRanges_iff (Nat.le_of_lt hlt)).mpr (.inr hkernel)
    · exact (disjointRanges_iff (show b.kernel.1 ≤ b.ramdisk.1 by omega)).mpr (by omega)
    · exact (disjointRanges_iff (show b.deviceTree.1 ≤ b.ramdisk.1 by omega)).mpr hnext
    · exact within_iff.mpr (by omega)
    · exact within_iff.mpr (by omega)
    · exact within_iff.mpr (by omega)

end Placed

/-- The regions of a completed load are disjoint and inside the reserved memory exactly if
    everything fits what `UpdateBootParams` set aside. -/
theorem loadRegions_apart_iff (h : loadRegions env version p kernel = .ok b) :
    b.RegionsApart ↔ RegionsFit env version p kernel := by
  have hplaced := loadRegions_placed h
  rw [hplaced.regionsApart_iff, hplaced.kernel_len]
  constructor
  · rintro ⟨hrooms, hkernel, hnext, htree, hlast⟩
    obtain ⟨hramdisk, hdt⟩ := hplaced.addrs_eq hrooms
    have hend := hplaced.end_eq
    refine ⟨hrooms, fun hkind => ?_, fun n hn => ?_, hplaced.ramdisk_len ▸ hlast⟩
    · have := hkernel hkind
      rw [← hplaced.start_eq]
      omega
    · obtain rfl : n = b.deviceTree.2 := Except.ok.inj (hn.symm.trans hplaced.deviceTree_len)
      rw [← hplaced.ramdisk_len]
      omega
  · intro hfit
    obtain ⟨hramdisk, hdt⟩ := hplaced.addrs_eq hfit.rooms_fit
    have hend := hplaced.end_eq
    have htree := hfit.deviceTree_fits _ hplaced.deviceTree_len
    have hlast := hfit.ramdisk_fits
    rw [← hplaced.ramdisk_len] at htree hlast
    refine ⟨hfit.rooms_fit, fun hkind => ?_, by omega, by omega, hlast⟩
    have := hfit.kernel_fits hkind
    rw [← hplaced.start_eq] at this
    omega

end Regions

def sampleKernel : Bytes := Bytes.put (fun _ => 0) 56 4 KERNEL64_HDR_MAGIC

/-- A boot with 128 megabytes for the kernel and a device tree of `fdtTotalSize` bytes whose updates
    need all of the padding. -/
def sampleLoad (fdtTotalSize : Nat) : LoadEnv where
  earlyService := none
  queryBootParams := some (0x80000000, 0x8000000)
  baseMemory := 0x80000000
  kernelLoadAddress32 := 0x8000
  ramdiskEndAddress32 := 0x2000000
  kernelLoadAddress := 0x80000
  ramdiskEndAddress := 0x7E00000
  ramdiskImageBuffer := 0x90000000
  ramdiskOffset := 0x1001000
  recoveryRamdisk := false
  inflate := fun _ => none
  fdtTotalSize := fdtTotalSize
  cmdLineLen := 512
  updateTree := fun size => if size = 0 then .error EFI_BAD_BUFFER_SIZE else .ok size
  finalBootConfigLen := some 64
  trailerInSection := false
  trailerInParams := false
  inflate_le := fun h => nomatch h
  updateTree_le := fun {size n} h => by
    split_ifs at h with hzero
    cases h
    exact ⟨Nat.pos_of_ne_zero hzero, Nat.le_refl _⟩

def sampleParams (kernelSize vendorBootconfigSize : Nat) : ImageParams where
  pageSize := 4096
  kernelSize := kernelSize
  secondSize := 0
  ramdiskSize := 0x200000
  vendorRamdiskSize := 0x100000
  recoveryRamdiskSize := 0
  dtSize := 0
  vendorRamdiskTableSize := 0
  vendorBootconfigSize := vendorBootconfigSize

/-- Everything fits: the device tree has the padding, the bootconfig section the extra page. -/
theorem loadRegions_apart_sample :
    ∃ b, loadRegions (sampleLoad 0x80000) 4 (sampleParams 0x1000000 256) sampleKernel = .ok b ∧
      b.RegionsApart := by
  have h : loadRegions (sampleLoad 0x80000) 4 (sampleParams 0x1000000 256) sampleKernel =
      .ok ⟨0x88000000, (0x80080000, 0x1000000), (0x87AFE000, 0x80A00), (0x87CFF000, 0x300154)⟩ := by
    decide +kernel
  refine ⟨_, h, (loadRegions_apart_iff h).mpr ⟨?_, fun _ => ?_, fun n hn => .inl ?_, ?_⟩⟩
  · decide +kernel
  · decide +kernel
  · have htree : updateDeviceTree (sampleLoad 0x80000) = .ok 0x80A00 := by decide +kernel
    cases hn.symm.trans htree
    decide +kernel
  · decide +kernel

/-- Three boots that are carried through: a bootconfig section that reaches behind the reserved
    memory, a device tree that reaches into the ramdisks, and a kernel, of a header that leaves
    its image size open, that reaches into the device tree. -/
theorem loadRegions_not_apart :
    (∃ b, loadRegions (sampleLoad 0x80000) 4 (sampleParams 0x1000000 8192) sampleKernel = .ok b ∧
      ¬ Within b.kernel.1 b.kernelEndAddr b.ramdisk) ∧
    (∃ b, loadRegions (sampleLoad 0x201000) 4 (sampleParams 0x1000000 256) sampleKernel = .ok b ∧
      ¬ DisjointRanges b.deviceTree b.ramdisk) ∧
    ∃ b, loadRegions (sampleLoad 0x80000) 4 (sampleParams 0x7A80000 256) sampleKernel = .ok b ∧
      ¬ DisjointRanges b.kernel b.deviceTree := by
  refine ⟨⟨⟨0x88000000, (0x80080000, 0x1000000), (0x87AFE000, 0x80A00), (0x87CFF000, 0x302054)⟩,
    by decide +kernel, ?_⟩,
    ⟨⟨0x88000000, (0x80080000, 0x1000000), (0x87AFE000, 0x201A00), (0x87CFF000, 0x300154)⟩,
    by decide +kernel, ?_⟩,
    ⟨0x88000000, (0x80080000, 0x7A80000), (0x87AFE000, 0x80A00), (0x87CFF000, 0x300154)⟩,
    by decide +kernel, ?_⟩
  · rw [within_iff]
    decide
  · rw [disjointRanges_iff (by decide)]
    decide
  · rw [disjointRanges_iff (by decide)]
    decide

end OhMyAbl
