/-
  **The OS version and the security patch level, from the footer or from the header.**

  `GetOsVerAndSecPactchLevel` of `VerifiedBoot.c` reads both as texts from the properties of the
  boot image's footer, or of the vbmeta image where the boot partition is not chained; only
  without them it takes the packed word of the boot image header.  What is said here is that
  the two sources agree on every release that both can express.
-/
import OhMyAbl.Boot.BootImage

namespace OhMyAbl

/-! ### The texts of the footer -/

/-- The numbers read so far and the separators seen: the locals of both parsers. -/
structure FooterFields where
  separator : Nat
  first : Nat
  second : Nat
  third : Nat

/-- `x *= 10; x += Ptr[Index] - '0'` on a `UINT32`. -/
def addDigit (x : Nat) (c : UInt8) : Nat := u32 (x * 10 + (c.toNat + (2 ^ 32 - 48)))

def FooterFields.step (mark : UInt8) (f : FooterFields) (c : UInt8) : Option FooterFields :=
  if c = mark then some { f with separator := u32 (f.separator + 1) }
  else match f.separator with
    | 0 => some { f with first := addDigit f.first c }
    | 1 => some { f with second := addDigit f.second c }
    | 2 => some { f with third := addDigit f.third c }
    | _ => none

/-- The loop that `ParseFooterOsVersion` and `ParseFooterSecPatch` share. -/
def parseFooter (mark : UInt8) (text : List UInt8) : Option FooterFields :=
  text.foldlM (FooterFields.step mark) ⟨0, 0, 0, 0⟩

def dot : UInt8 := 46
def dash : UInt8 := 45

def parseFooterOsVersion (text : List UInt8) : Nat :=
  match parseFooter dot text with
  | none => 0
  | some f => u32 (f.first <<< 14) ||| u32 (f.second <<< 7) ||| f.third

def parseFooterSecPatch (text : List UInt8) : Nat :=
  match parseFooter dash text with
  | none => 0
  | some ⟨_, year, month, day⟩ =>
    if year = 0 ∨ year < 2000 ∨ month = 0 ∨ month > 12 ∨ day = 0 ∨ day > 31 then 0
    else u32 (day <<< 11) ||| u32 ((year - 2000) <<< 4) ||| month

/-! ### Footer or header -/

/-- A vbmeta image of the verified slot: its partition and its property descriptors. -/
structure FooterImage where
  partitionName : List UInt8
  properties : List (List UInt8 × List UInt8)

/-- `avb_property_lookup`: the first descriptor with the key decides. -/
def FooterImage.propertyLookup (image : FooterImage) (key : List UInt8) : Option (List UInt8) :=
  image.properties.lookup key

/-- The images of `AvbSlotVerifyData`: image 0 is always there, the others are chained. -/
structure FooterImages where
  vbmeta : FooterImage
  chained : List FooterImage

def FooterImages.selected (slot : FooterImages) : FooterImage :=
  (slot.chained.find? (·.partitionName = ascii "boot")).getD slot.vbmeta

def OS_VERSION_KEY : List UInt8 := ascii "com.android.build.boot.os_version"
def SECURITY_PATCH_KEY : List UInt8 := ascii "com.android.build.boot.security_patch"

/-- `*OsVersion` and `*SecPatch`. -/
structure Levels where
  osVersion : Nat
  secPatch : Nat

def osVersionRaw (hdr : Bytes) : Nat :=
  if headerVersion hdr ≥ BOOT_HEADER_VERSION_THREE then hdr.u32At 16 else hdr.u32At 44

/-- The part of `GetOsVerAndSecPactchLevel` behind the label `Try_Header`. -/
def tryHeader (hdr : Bytes) (out : Levels) : EfiStatus × Levels :=
  if osVersionRaw hdr = 0 then (EFI_INVALID_PARAMETER, out)
  else
    let out := { out with osVersion := (osVersionRaw hdr >>> 11) &&& 0x1FFFFF }
    if out.osVersion = 0 then (EFI_INVALID_PARAMETER, out)
    else
      let out := { out with secPatch := osVersionRaw hdr &&& 0x7FF }
      (if out.secPatch = 0 then EFI_INVALID_PARAMETER else EFI_SUCCESS, out)

def getOsVerAndSecPactchLevel (slot : FooterImages) (hdr : Bytes) (out : Levels) :
    EfiStatus × Levels :=
  match slot.selected.propertyLookup OS_VERSION_KEY with
  | none => tryHeader hdr out
  | some text =>
    let out := { out with osVersion := parseFooterOsVersion text }
    if out.osVersion = 0 then (EFI_INVALID_PARAMETER, out)
    else match slot.selected.propertyLookup SECURITY_PATCH_KEY with
      | none => tryHeader hdr out
      | some text =>
        let out := { out with secPatch := parseFooterSecPatch text }
        (if out.secPatch = 0 then EFI_INVALID_PARAMETER else EFI_SUCCESS, out)

/-! ### Releases -/

/-- A release that both forms can express. -/
structure Release where
  major : Nat
  minor : Nat
  subMinor : Nat
  year : Nat
  month : Nat
  day : Nat
  version_lt : major < 128 ∧ minor < 128 ∧ subMinor < 128
  version_pos : 0 < major + minor + subMinor
  year_mem : 2000 ≤ year ∧ year ≤ 2127
  month_mem : 1 ≤ month ∧ month ≤ 12
  day_mem : 1 ≤ day ∧ day ≤ 31

def decimal (n : Nat) : List UInt8 := (Nat.toDigits 10 n).map fun c => UInt8.ofNat c.toNat

def twoDigits (n : Nat) : List UInt8 := decimal (n / 10) ++ decimal (n % 10)

namespace Release

variable (r : Release)

def versionText : List UInt8 :=
  decimal r.major ++ dot :: (decimal r.minor ++ dot :: decimal r.subMinor)

def dateText : List UInt8 :=
  decimal r.year ++ dash :: (twoDigits r.month ++ dash :: twoDigits r.day)

/-- The version as the header packs it: seven bits for each number. -/
def version : Nat := r.major * 2 ^ 14 + r.minor * 2 ^ 7 + r.subMinor

/-- The date as the header packs it: seven bits for the year, four for the month. -/
def patch : Nat := (r.year - 2000) * 2 ^ 4 + r.month

/-- `os_version` of a boot image header of the release. -/
def packed : Nat := r.version * 2 ^ 11 + r.patch

end Release

/-! ### What the parsers read -/

-- One digit goes to the number that the separators seen so far point at.
theorem step_digits {mark : UInt8} {text : List UInt8} (h : mark ∉ text) (a b c : Nat) :
    text.foldlM (FooterFields.step mark) ⟨0, a, b, c⟩ = some ⟨0, text.foldl addDigit a, b, c⟩ ∧
    text.foldlM (FooterFields.step mark) ⟨1, a, b, c⟩ = some ⟨1, a, text.foldl addDigit b, c⟩ ∧
    text.foldlM (FooterFields.step mark) ⟨2, a, b, c⟩ = some ⟨2, a, b, text.foldl addDigit c⟩ := by
  induction text generalizing a b c with
  | nil => simp
  | cons d text ih =>
    simp only [List.mem_cons, not_or] at h
    simp [FooterFields.step, Ne.symm h.1, ih h.2]

/-- `text` is a number as the parsers see it: without a separator, and read as `n`. -/
def Numeral (text : List UInt8) (n : Nat) : Prop :=
  dot ∉ text ∧ dash ∉ text ∧ text.foldl addDigit 0 = n

theorem numeral_decimal : ∀ n < 128, Numeral (decimal n) n := by
  unfold Numeral
  decide

theorem numeral_year : ∀ n < 128, Numeral (decimal (2000 + n)) (2000 + n) := by
  unfold Numeral
  decide

theorem numeral_twoDigits : ∀ n < 32, Numeral (twoDigits n) n := by
  unfold Numeral
  decide

theorem parseFooter_three {mark : UInt8} {x y z : List UInt8} (hx : mark ∉ x) (hy : mark ∉ y)
    (hz : mark ∉ z) :
    parseFooter mark (x ++ mark :: (y ++ mark :: z)) =
      some ⟨2, x.foldl addDigit 0, y.foldl addDigit 0, z.foldl addDigit 0⟩ := by
  simp [parseFooter, (step_digits hx ..).1, (step_digits hy ..).2.1, (step_digits hz ..).2.2,
    FooterFields.step, u32]

namespace Release

variable (r : Release)

theorem version_lt_two_pow : r.version < 2 ^ 21 := by
  have := r.version_lt
  unfold version
  omega

theorem version_ne_zero : r.version ≠ 0 := by
  have := r.version_pos
  unfold version
  omega

theorem patch_lt : r.patch < 2 ^ 11 := by
  have := r.year_mem
  have := r.month_mem
  unfold patch
  omega

theorem parseFooterOsVersion_versionText : parseFooterOsVersion r.versionText = r.version := by
  obtain ⟨hmajor, hminor, hsub⟩ := r.version_lt
  obtain ⟨hx, -, hx'⟩ := numeral_decimal _ hmajor
  obtain ⟨hy, -, hy'⟩ := numeral_decimal _ hminor
  obtain ⟨hz, -, hz'⟩ := numeral_decimal _ hsub
  rw [parseFooterOsVersion, versionText, parseFooter_three hx hy hz]
  simp only [hx', hy', hz', u32, Nat.shiftLeft_eq, version]
  rw [Nat.mod_eq_of_lt (by omega), Nat.mod_eq_of_lt (by omega), Nat.or_assoc,
    ← Nat.shiftLeft_eq r.minor, ← Nat.shiftLeft_add_eq_or_of_lt hsub, Nat.shiftLeft_eq,
    ← Nat.shiftLeft_eq r.major, ← Nat.shiftLeft_add_eq_or_of_lt (by omega), Nat.shiftLeft_eq]
  omega

theorem parseFooterSecPatch_dateText :
    parseFooterSecPatch r.dateText = r.day * 2 ^ 11 + r.patch := by
  obtain ⟨hyear, hyear'⟩ := r.year_mem
  obtain ⟨hmonth, hmonth'⟩ := r.month_mem
  obtain ⟨hday, hday'⟩ := r.day_mem
  have hy := numeral_year (r.year - 2000) (by omega)
  rw [Nat.add_sub_cancel' hyear] at hy
  obtain ⟨-, hx, hx'⟩ := hy
  obtain ⟨-, hm, hm'⟩ := numeral_twoDigits r.month (by omega)
  obtain ⟨-, hd, hd'⟩ := numeral_twoDigits r.day (by omega)
  rw [parseFooterSecPatch, dateText, parseFooter_three hx hm hd]
  simp only [hx', hm', hd', u32, patch]
  rw [if_neg (by omega), Nat.mod_eq_of_lt (by rw [Nat.shiftLeft_eq]; omega),
    Nat.mod_eq_of_lt (by rw [Nat.shiftLeft_eq]; omega), Nat.or_assoc,
    ← Nat.shiftLeft_add_eq_or_of_lt (by omega : r.month < 2 ^ 4),
    ← Nat.shiftLeft_add_eq_or_of_lt (by rw [Nat.shiftLeft_eq]; omega), Nat.shiftLeft_eq,
    Nat.shiftLeft_eq]

theorem tryHeader_packed {hdr : Bytes} {out : Levels} (h : osVersionRaw hdr = r.packed) :
    tryHeader hdr out = (EFI_SUCCESS, ⟨r.version, r.patch⟩) := by
  have hversion := r.version_lt_two_pow
  have hpatch := r.patch_lt
  have hv : (r.packed >>> 11) &&& 0x1FFFFF = r.version := by
    rw [Nat.and_two_pow_sub_one_eq_mod _ 21, Nat.shiftRight_eq_div_pow, packed]
    omega
  have hp : r.packed &&& 0x7FF = r.patch := by
    rw [Nat.and_two_pow_sub_one_eq_mod _ 11, packed]
    omega
  have hv0 := r.version_ne_zero
  have hp0 : r.patch ≠ 0 := by
    have := r.month_mem
    unfold patch
    omega
  have hraw : r.packed ≠ 0 := by
    unfold packed
    omega
  simp [tryHeader, h, hv, hp, hv0, hp0, hraw]

end Release

/-- **OS versions compare as the releases do, and the levels tell all releases apart.** -/
theorem footer_orders_releases (r r' : Release) :
    (parseFooterOsVersion r.versionText < parseFooterOsVersion r'.versionText ↔
      toLex (r.major, toLex (r.minor, r.subMinor)) <
        toLex (r'.major, toLex (r'.minor, r'.subMinor))) ∧
    (parseFooterOsVersion r.versionText = parseFooterOsVersion r'.versionText ∧
      parseFooterSecPatch r.dateText = parseFooterSecPatch r'.dateText ↔ r = r') := by
  simp only [Release.parseFooterOsVersion_versionText, Release.parseFooterSecPatch_dateText,
    Release.version, Release.patch, Prod.Lex.toLex_lt_toLex]
  obtain ⟨a, b, c, y, m, d, hv, -, hy, hm, hd⟩ := r
  obtain ⟨a', b', c', y', m', d', hv', -, hy', hm', hd'⟩ := r'
  simp only [Release.mk.injEq]
  omega

/-! ### Footer and header agree -/

theorem footer_agrees_with_header (r : Release) {slot slot' : FooterImages} {hdr hdr' : Bytes}
    {out out' : Levels}
    (hos : slot.selected.propertyLookup OS_VERSION_KEY = some r.versionText)
    (hsec : slot.selected.propertyLookup SECURITY_PATCH_KEY = some r.dateText)
    (hnone : slot'.selected.propertyLookup OS_VERSION_KEY = none)
    (hraw : osVersionRaw hdr' = r.packed) :
    ∃ footer header, getOsVerAndSecPactchLevel slot hdr out = (EFI_SUCCESS, footer) ∧
      getOsVerAndSecPactchLevel slot' hdr' out' = (EFI_SUCCESS, header) ∧
      footer.osVersion = header.osVersion ∧ footer.secPatch % 2 ^ 11 = header.secPatch := by
  refine ⟨⟨r.version, r.day * 2 ^ 11 + r.patch⟩, ⟨r.version, r.patch⟩, ?_, ?_,
    Eq.refl r.version, ?_⟩
  · have hpatch : r.day * 2 ^ 11 + r.patch ≠ 0 := by
      have := r.day_mem
      omega
    simp only [getOsVerAndSecPactchLevel, hos, hsec, r.parseFooterOsVersion_versionText,
      r.parseFooterSecPatch_dateText, if_neg r.version_ne_zero, if_neg hpatch]
  · simp only [getOsVerAndSecPactchLevel, hnone, r.tryHeader_packed hraw]
  · have := r.patch_lt
    dsimp only
    omega

def sampleRelease : Release :=
  ⟨12, 0, 1, 2022, 3, 5, by decide, by decide, by decide, by decide, by decide⟩

def sampleFooter : FooterImages :=
  ⟨⟨ascii "vbmeta", []⟩, [⟨ascii "boot", [(OS_VERSION_KEY, ascii "12.0.1"),
    (SECURITY_PATCH_KEY, ascii "2022-03-05")]⟩]⟩

def releaseHeader : Bytes := Bytes.put (fun _ => 0) 44 4 sampleRelease.packed

theorem footer_agrees_with_header_sample :
    ∃ footer header,
      getOsVerAndSecPactchLevel sampleFooter (fun _ => 0) ⟨0, 0⟩ = (EFI_SUCCESS, footer) ∧
      getOsVerAndSecPactchLevel ⟨⟨ascii "vbmeta", []⟩, []⟩ releaseHeader ⟨0, 0⟩ =
        (EFI_SUCCESS, header) ∧
      footer.osVersion = header.osVersion ∧ footer.secPatch % 2 ^ 11 = header.secPatch :=
  footer_agrees_with_header sampleRelease (by decide) (by decide) (by decide) (by decide)

end OhMyAbl
