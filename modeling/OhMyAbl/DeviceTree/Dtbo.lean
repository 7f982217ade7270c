/-
  **The validation of a DTBO image, and what the choice of an overlay reads of it.**

  The checks of `LoadAndValidateDtboImg` put the whole table inside the image.  Nothing compares the
  offset of an overlay or the size in its header with the size of the image.
-/
import OhMyAbl.DeviceTree.Select
import OhMyAbl.Boot.BootImage

namespace OhMyAbl

def DTBO_TABLE_MAGIC : Nat := 0xD7B7AB1E

def DTBO_TABLE_HDR_SIZE : Nat := 32

structure LoadedImage where
  buffer : Nat
  size : Nat
  buffer_lt : buffer < 2 ^ 64
  placed : buffer + size ≤ 2 ^ 64

/-- What `LoadAndValidateDtboImg` reads of `BootInfo` and `BootParamlist`; `dtbo` is what
`GetImage` finds under the name of the DTBO image. -/
structure DtboBoot where
  mem : Bytes
  multiSlotBoot : Bool
  dynamicPartitionSupport : Bool
  bootIntoRecovery : Bool
  headerVersion : Nat
  image : LoadedImage
  pageSize : Nat
  dtbo : Option LoadedImage

def getRecoveryDtboInfo (b : DtboBoot) : Option LoadedImage :=
  let hdr := b.mem.shift b.image.buffer
  let imageHeaderSize := BootImgHdr.headerSize hdr
  let offset := BootImgHdr.recoveryDtboOffset hdr
  let size := ROUND_TO_PAGE (BootImgHdr.recoveryDtboSize hdr) (pageMask b.pageSize)
  if b.headerVersion = BOOT_HEADER_VERSION_ONE ∧
      (imageHeaderSize ≠ BOOT_IMAGE_HEADER_V2_OFFSET +
        BOOT_IMAGE_HEADER_V1_RECOVERY_DTBO_SIZE_OFFSET ∨
        imageHeaderSize > b.pageSize) then none
  else if CHECK_ADD64 offset size then none
  else if h : offset + size ≤ b.image.size then
    some {
      buffer := u64 (b.image.buffer + offset)
      size
      buffer_lt := Nat.mod_lt _ (by omega)
      placed := by
        have hmod := Nat.mod_le (b.image.buffer + offset) (2 ^ 64)
        have hplaced := b.image.placed
        unfold u64
        omega }
  else none

def dtboOf (b : DtboBoot) : Option LoadedImage :=
  if (!b.multiSlotBoot || b.dynamicPartitionSupport) ∧ b.bootIntoRecovery ∧
      BOOT_HEADER_VERSION_ZERO < b.headerVersion ∧ b.headerVersion < BOOT_HEADER_VERSION_THREE then
    getRecoveryDtboInfo b
  else b.dtbo

/-- The fields of the table header that are checked, read from an address on. -/
structure DtboTableHdr where
  magic : Nat
  totalSize : Nat
  headerSize : Nat
  dtEntrySize : Nat
  dtEntryCount : Nat
  dtEntryOffset : Nat

def dtboTableHdr (mem : Bytes) (a : Nat) : DtboTableHdr where
  magic := mem.beU32At a
  totalSize := mem.beU32At (a + 4)
  headerSize := mem.beU32At (a + 8)
  dtEntrySize := mem.beU32At (a + 12)
  dtEntryCount := mem.beU32At (a + 16)
  dtEntryOffset := mem.beU32At (a + 20)

def validDtboHdr (h : DtboTableHdr) (dtboImgSize : Nat) : Bool :=
  h.magic = DTBO_TABLE_MAGIC &&
  dtboImgSize ≤ DTBO_MAX_SIZE_ALLOWED &&
  h.totalSize ≤ DTBO_MAX_SIZE_ALLOWED && h.totalSize ≠ 0 &&
  h.headerSize = DTBO_TABLE_HDR_SIZE &&
  h.dtEntrySize = DTBO_ENTRY_SIZE &&
  h.dtEntryOffset ≤ DTBO_MAX_SIZE_ALLOWED &&
  h.dtEntryCount * h.dtEntrySize ≤ dtboImgSize &&
  h.dtEntryOffset + h.dtEntryCount * h.dtEntrySize ≤ dtboImgSize

def loadAndValidateDtboImg (b : DtboBoot) : Option LoadedImage :=
  (dtboOf b).filter fun image =>
    image.buffer ≠ 0 && validDtboHdr (dtboTableHdr b.mem image.buffer) image.size

def LoadedImage.dtbo (image : LoadedImage) (mem : Bytes) : DtboImage :=
  ⟨mem, image.buffer, image.buffer_lt⟩

/-! ### What lies inside the image -/

def LoadedImage.Inside (image : LoadedImage) (a n : Nat) : Prop :=
  image.buffer ≤ a ∧ a + n ≤ image.buffer + image.size

instance (image : LoadedImage) (a n : Nat) : Decidable (image.Inside a n) :=
  inferInstanceAs (Decidable (_ ∧ _))

/-- The overlay at an address lies inside: its header, and the whole tree if the header is
valid. -/
def LoadedImage.HoldsTree (image : LoadedImage) (mem : Bytes) (a : Nat) : Prop :=
  image.Inside a FDT_HEADER_SIZE ∧
    ((image.dtbo mem).validAt a = true → image.Inside a (fdtTotalsize (mem.shift a)))

instance (image : LoadedImage) (mem : Bytes) (a : Nat) : Decidable (image.HoldsTree mem a) :=
  inferInstanceAs (Decidable (_ ∧ (_ → _)))

/-- Everything that a scan has read or inspected lies inside, and so does what it returns. -/
structure ReadsInside (image : LoadedImage) (mem : Bytes) (s : DtboScan) : Prop where
  entries : ∀ e ∈ s.entries, image.Inside e DTBO_ENTRY_SIZE
  blobs : ∀ a ∈ s.blobs, image.HoldsTree mem a
  result : ∀ dtb, s.result = some dtb → dtb ≠ 0 → image.Inside dtb (fdtTotalsize (mem.shift dtb))

namespace DtboImage

def entryAt (image : DtboImage) (i : Nat) : Nat :=
  image.buffer + image.dtEntryOffset + DTBO_ENTRY_SIZE * i

def overlayAt (image : DtboImage) (i : Nat) : Nat := image.overlay (image.entryAt i)

def Addressable (image : DtboImage) (i : Nat) : Prop :=
  CHECK_ADD64 image.buffer (image.dtOffset (image.entryAt i)) = false

structure Passes (board : Board) (image : DtboImage) (i : Nat) : Prop where
  addressable : image.Addressable i
  valid : image.validAt (image.overlayAt i) = true
  readable : Readable board (image.mem.shift (image.overlayAt i))

structure Reaches (board : Board) (image : DtboImage) (i : Nat) : Prop where
  listed : i < image.dtEntryCount
  before : ∀ j < i, Passes board image j
  addressable : image.Addressable i

end DtboImage

/-! ### The scan of the table -/

section

variable {board : Board} {image : DtboImage}

theorem readDtbFindMatch_isSome {blob : Bytes} {e : Nat} {cur best : DtInfo}
    (hheader : fdtCheckHeader (fdtHeader blob) = true) :
    (∃ r, readDtbFindMatch board blob e cur best = some r) ↔ Readable board blob := by
  rcases @readDtbFindMatch_cases board blob e cur best hheader with ⟨hnone, hnot⟩ | ⟨c, hc, hsome⟩
  · simp [hnone, hnot]
  · exact ⟨fun _ => hc.readable, fun _ => ⟨_, hsome⟩⟩

structure ScanAdds (board : Board) (image : DtboImage) (i : Nat) (s s' : DtboScan) : Prop where
  entries : ∀ e ∈ s'.entries, e ∈ s.entries ∨ ∃ k < image.dtEntryCount, e = image.entryAt k
  blobs : ∀ a, a ∈ s'.blobs ↔ a ∈ s.blobs ∨
    ∃ k, i ≤ k ∧ DtboImage.Reaches board image k ∧ a = image.overlayAt k
  best : s'.best.dtb = s.best.dtb ∨
    s'.best.dtb ∈ s'.blobs ∧ image.validAt s'.best.dtb = true

theorem eq_of_reaches {i k : Nat} (hik : i ≤ k) (hk : DtboImage.Reaches board image k)
    (hi : ¬ DtboImage.Passes board image i) : k = i := by
  by_contra hne
  exact hi (hk.before i (by omega))

section ScanAdds

variable {i : Nat} {s s₁ s' : DtboScan}

/-- The scan has come to no further overlay. -/
theorem scanAdds_of_unreached
    (hentries : ∀ e ∈ s'.entries, e ∈ s.entries ∨ ∃ k < image.dtEntryCount, e = image.entryAt k)
    (hblobs : s'.blobs = s.blobs) (hbest : s'.best = s.best)
    (hno : ∀ k, i ≤ k → ¬ DtboImage.Reaches board image k) : ScanAdds board image i s s' := by
  refine ⟨hentries, fun a => ?_, Or.inl (congrArg DtInfo.dtb hbest)⟩
  rw [hblobs]
  constructor
  · exact Or.inl
  · rintro (ha | ⟨k, hik, hk, -⟩)
    · exact ha
    · exact absurd hk (hno k hik)

variable (hreach : DtboImage.Reaches board image i)
include hreach

theorem DtboImage.Reaches.entries {e : Nat} (he : e ∈ s.entries ++ [image.entryAt i]) :
    e ∈ s.entries ∨ ∃ k < image.dtEntryCount, e = image.entryAt k := by
  rcases List.mem_append.mp he with he | he
  · exact Or.inl he
  · exact Or.inr ⟨i, hreach.listed, List.mem_singleton.mp he⟩

/-- The overlay that does not pass is the last one the scan comes to. -/
theorem scanAdds_of_last (hnot : ¬ DtboImage.Passes board image i)
    (hentries : s'.entries = s.entries ++ [image.entryAt i])
    (hblobs : s'.blobs = s.blobs ++ [image.overlayAt i]) (hbest : s'.best = s.best) :
    ScanAdds board image i s s' := by
  refine ⟨fun e he => hreach.entries (hentries ▸ he), fun a => ?_,
    Or.inl (congrArg DtInfo.dtb hbest)⟩
  rw [hblobs, List.mem_append, List.mem_singleton]
  constructor
  · rintro (ha | rfl)
    · exact Or.inl ha
    · exact Or.inr ⟨i, Nat.le_refl i, hreach, rfl⟩
  · rintro (ha | ⟨k, hik, hk, rfl⟩)
    · exact Or.inl ha
    · rw [eq_of_reaches hik hk hnot]
      exact Or.inr rfl

/-- The scan goes on behind an overlay that passes. -/
theorem ScanAdds.next (hentries : s₁.entries = s.entries ++ [image.entryAt i])
    (hblobs : s₁.blobs = s.blobs ++ [image.overlayAt i])
    (hbest : s₁.best.dtb = s.best.dtb ∨
      s₁.best.dtb = image.overlayAt i ∧ image.validAt (image.overlayAt i) = true)
    (hadds : ScanAdds board image (i + 1) s₁ s') : ScanAdds board image i s s' := by
  have hmem : ∀ a, a ∈ s₁.blobs ↔ a ∈ s.blobs ∨ a = image.overlayAt i := by
    intro a
    rw [hblobs, List.mem_append, List.mem_singleton]
  refine ⟨fun e he => ?_, fun a => ?_, ?_⟩
  · rcases hadds.entries e he with he | he
    · exact hreach.entries (hentries ▸ he)
    · exact Or.inr he
  · rw [hadds.blobs a, hmem a]
    constructor
    · rintro ((ha | rfl) | ⟨k, hik, hk⟩)
      · exact Or.inl ha
      · exact Or.inr ⟨i, Nat.le_refl i, hreach, rfl⟩
      · exact Or.inr ⟨k, by omega, hk⟩
    · rintro (ha | ⟨k, hik, hk, rfl⟩)
      · exact Or.inl (Or.inl ha)
      · rcases Nat.eq_or_lt_of_le hik with rfl | hik
        · exact Or.inl (Or.inr rfl)
        · exact Or.inr ⟨k, hik, hk, rfl⟩
  · rcases hadds.best with hsame | hnew
    · rw [hsame]
      refine hbest.imp_right fun ⟨hdtb, hvalid⟩ => ?_
      rw [hdtb, hadds.blobs]
      exact ⟨Or.inl ((hmem _).mpr (Or.inr rfl)), hvalid⟩
    · exact Or.inr hnew

end ScanAdds

theorem boardScan_adds (htable : ∀ i, i + 1 < image.dtEntryCount →
      u64 (image.entryAt i + DTBO_ENTRY_SIZE) = image.entryAt (i + 1)) (n : Nat) :
    ∀ (i entry : Nat) (s : DtboScan), i + n = image.dtEntryCount →
      (i < image.dtEntryCount → entry = image.entryAt i) →
      (∀ j < i, DtboImage.Passes board image j) →
      ScanAdds board image i s (boardScan board image n entry s) := by
  induction n with
  | zero =>
    intro i entry s hi _ _
    refine scanAdds_of_unreached (fun e he => Or.inl he) rfl rfl fun k hik hk => ?_
    have hlt := hk.listed
    omega
  | succ n ih =>
    intro i entry s hi hentry hbefore
    have hlt : i < image.dtEntryCount := by omega
    obtain rfl := hentry hlt
    simp only [boardScan]
    split
    case isTrue hover =>
      have hnot : ¬ image.Addressable i := fun h => absurd (h.symm.trans hover) (by simp)
      refine scanAdds_of_unreached (fun e he => ?_) rfl rfl fun k hik hk => ?_
      · rcases List.mem_append.mp he with he | he
        · exact Or.inl he
        · exact Or.inr ⟨i, hlt, List.mem_singleton.mp he⟩
      · rw [eq_of_reaches hik hk fun h => hnot h.addressable] at hk
        exact absurd hk.addressable hnot
    case isFalse hover =>
      have hadd : image.Addressable i := (Bool.not_eq_true _).mp hover
      have hreach : DtboImage.Reaches board image i := ⟨hlt, hbefore, hadd⟩
      split
      case isFalse hvalid =>
        exact scanAdds_of_last hreach (fun hpass => hvalid hpass.valid) rfl rfl rfl
      case isTrue hvalid =>
        have hheader := (Bool.and_eq_true _ _ ▸ hvalid : _ ∧ _)
        split
        case h_1 hnone =>
          refine scanAdds_of_last hreach (fun hpass => ?_) rfl rfl rfl
          obtain ⟨r, hr⟩ := (readDtbFindMatch_isSome hheader.1).mpr hpass.readable
          exact absurd (hnone.symm.trans hr) (by simp)
        case h_2 found c b hsome =>
          have hpass : DtboImage.Passes board image i :=
            ⟨hadd, hvalid, (readDtbFindMatch_isSome hheader.1).mp ⟨_, hsome⟩⟩
          refine .next hreach rfl rfl ?_ (ih (i + 1) _ _ (by omega) (htable i) fun j hj => ?_)
          · rcases readDtbFindMatch_best hheader.1 hsome with ⟨-, hb⟩ | ⟨-, hb, -⟩
            · exact Or.inl (congrArg DtInfo.dtb hb)
            · exact Or.inr ⟨hb.dtb, hvalid⟩
          · rcases Nat.lt_succ_iff_lt_or_eq.mp hj with hj | rfl
            · exact hbefore j hj
            · exact hpass

/-! ### Accepted images -/

/-- The table of an accepted image lies inside it. -/
theorem loadAndValidateDtboImg_spec {b : DtboBoot} {image : LoadedImage}
    (h : loadAndValidateDtboImg b = some image) :
    image.buffer ≠ 0 ∧ (image.dtbo b.mem).dtEntryOffset ≤ DTBO_MAX_SIZE_ALLOWED ∧
      (image.dtbo b.mem).dtEntryOffset + DTBO_ENTRY_SIZE * (image.dtbo b.mem).dtEntryCount
        ≤ image.size := by
  obtain ⟨-, hchecks⟩ := Option.filter_eq_some_iff.mp h
  simp only [validDtboHdr, Bool.and_eq_true, decide_eq_true_eq] at hchecks
  obtain ⟨hbuffer, ⟨⟨⟨-, hentrySize⟩, hoffset⟩, -⟩, hend⟩ := hchecks
  rw [hentrySize, Nat.mul_comm] at hend
  exact ⟨hbuffer, hoffset, hend⟩

theorem entryAt_inside {b : DtboBoot} {image : LoadedImage}
    (h : loadAndValidateDtboImg b = some image) {i : Nat}
    (hi : i < (image.dtbo b.mem).dtEntryCount) :
    image.Inside ((image.dtbo b.mem).entryAt i) DTBO_ENTRY_SIZE := by
  obtain ⟨-, -, hend⟩ := loadAndValidateDtboImg_spec h
  have hbuffer : (image.dtbo b.mem).buffer = image.buffer := rfl
  have hsucc := Nat.mul_le_mul_left DTBO_ENTRY_SIZE hi
  unfold LoadedImage.Inside DtboImage.entryAt
  rw [Nat.succ_eq_add_one, Nat.mul_add, Nat.mul_one] at hsucc
  omega

/-- The scan of an accepted image reads its entries, and exactly the overlays it reaches. -/
theorem getBoardDtb_adds {b : DtboBoot} {image : LoadedImage}
    (h : loadAndValidateDtboImg b = some image) (board : Board) (globals : DtGlobals) :
    ScanAdds board (image.dtbo b.mem) 0 { globals }
      (getBoardDtb board (image.dtbo b.mem) globals) := by
  obtain ⟨hbuffer, hoffset, hend⟩ := loadAndValidateDtboImg_spec h
  have hplaced := image.placed
  have hbuf : (image.dtbo b.mem).buffer = image.buffer := rfl
  have hpos : 0 < DTBO_ENTRY_SIZE := by decide
  unfold getBoardDtb
  split
  · rename_i hnull
    -- only an empty table can be at the end of the address space
    have hempty : ∀ k, ¬ DtboImage.Reaches board (image.dtbo b.mem) k := by
      intro k hk
      have hin := (entryAt_inside h hk.listed).2
      unfold DtboImage.entryAt at hin
      rcases hnull with hzero | hover | hzero
      · exact hbuffer hzero
      · exact checkAdd64_of_le (by unfold MAX_UINT64; omega) hover
      · omega
    exact scanAdds_of_unreached (fun e he => Or.inl he) rfl rfl fun k _ => hempty k
  · apply boardScan_adds _ _ 0 _ _ (Nat.zero_add _) (fun _ => rfl)
      (fun j hj => absurd hj (Nat.not_lt_zero j))
    intro i hi
    have hnext := entryAt_inside h hi
    have hsucc : (image.dtbo b.mem).entryAt i + DTBO_ENTRY_SIZE =
        (image.dtbo b.mem).entryAt (i + 1) := by
      unfold DtboImage.entryAt
      rw [Nat.mul_add, Nat.mul_one, Nat.add_assoc]
    apply Nat.mod_eq_of_lt
    have hin := hnext.2
    omega

/-- **What is read of an accepted image lies inside it, exactly if every overlay that the scan
comes to does.** -/
theorem readsInside_iff (b : DtboBoot) (image : LoadedImage)
    (h : loadAndValidateDtboImg b = some image) (board : Board) (globals : DtGlobals) :
    ReadsInside image b.mem (getBoardDtb board (image.dtbo b.mem) globals) ↔
      ∀ i, DtboImage.Reaches board (image.dtbo b.mem) i →
        image.HoldsTree b.mem ((image.dtbo b.mem).overlayAt i) := by
  have hadds := getBoardDtb_adds h board globals
  constructor
  · intro hin i hreach
    apply hin.blobs
    rw [hadds.blobs]
    exact Or.inr ⟨i, Nat.zero_le i, hreach, rfl⟩
  · intro hall
    have hblobs : ∀ a ∈ (getBoardDtb board (image.dtbo b.mem) globals).blobs,
        image.HoldsTree b.mem a := by
      intro a ha
      rcases (hadds.blobs a).mp ha with hnone | ⟨k, -, hk, rfl⟩
      · cases hnone
      · exact hall k hk
    refine ⟨?_, hblobs, ?_⟩
    · intro e he
      rcases hadds.entries e he with hnone | ⟨k, hk, rfl⟩
      · cases hnone
      · exact entryAt_inside h hk
    · intro dtb hresult hdtb
      have hbest := DtboScan.result_eq hresult hdtb
      rcases hadds.best with hzero | ⟨hmem, hvalid⟩
      · exact absurd (hbest.symm.trans hzero) hdtb
      · rw [hbest] at hmem hvalid
        exact (hblobs dtb hmem).2 hvalid

def sampleDtboBytes : List UInt8 :=
  beWords ([DTBO_TABLE_MAGIC, 209, 32, 32, 1, 32, 2048, 0] ++ [145, 64, 0, 0, 0, 0, 0, 0]) ++
    sampleTreeBytes

def sampleDtbo (size : Nat) (h : size ≤ 4096) : LoadedImage :=
  ⟨0x80000000, size, by omega, by omega⟩

def sampleDtboBoot (size : Nat) (h : size ≤ 4096) : DtboBoot where
  mem := fun x => sampleDtboBytes.getD (x - 0x80000000) 0
  multiSlotBoot := true
  dynamicPartitionSupport := true
  bootIntoRecovery := false
  headerVersion := 3
  image := ⟨0, 0, by omega, by omega⟩
  pageSize := 4096
  dtbo := some (sampleDtbo size h)

theorem readsInside_iff_sample :
    ReadsInside (sampleDtbo 209 (by omega)) (sampleDtboBoot 209 (by omega)).mem
        (getBoardDtb sampleBoard
          ((sampleDtbo 209 (by omega)).dtbo (sampleDtboBoot 209 (by omega)).mem) {}) ↔
      ∀ i, DtboImage.Reaches sampleBoard
          ((sampleDtbo 209 (by omega)).dtbo (sampleDtboBoot 209 (by omega)).mem) i →
        (sampleDtbo 209 (by omega)).HoldsTree (sampleDtboBoot 209 (by omega)).mem
          (((sampleDtbo 209 (by omega)).dtbo (sampleDtboBoot 209 (by omega)).mem).overlayAt i) :=
  readsInside_iff (sampleDtboBoot 209 (by omega)) (sampleDtbo 209 (by omega))
    (Option.filter_eq_some_iff.mpr ⟨rfl, by decide +kernel⟩) sampleBoard {}

/-- An image that is accepted although 45 bytes of its only tree are missing. -/
theorem dtbo_tree_past_end :
    loadAndValidateDtboImg (sampleDtboBoot 164 (by omega)) = some (sampleDtbo 164 (by omega)) ∧
    ¬ ReadsInside (sampleDtbo 164 (by omega)) (sampleDtboBoot 164 (by omega)).mem
        (getBoardDtb sampleBoard
          ((sampleDtbo 164 (by omega)).dtbo (sampleDtboBoot 164 (by omega)).mem) {}) := by
  constructor
  · exact Option.filter_eq_some_iff.mpr ⟨rfl, by decide +kernel⟩
  · intro hin
    have hmem : 0x80000040 ∈ (getBoardDtb sampleBoard
        ((sampleDtbo 164 (by omega)).dtbo (sampleDtboBoot 164 (by omega)).mem) {}).blobs := by
      decide +kernel
    have hholds := hin.blobs _ hmem
    revert hholds
    decide +kernel

end

end OhMyAbl
