/-
  **What a flash write leaves on the disk, however it is split.**

  `WriteBlockToPartitionNoFlush` writes the whole blocks of an image in units, which
  `IsFlashSplitNeeded` makes small or as large as the image, and patches the last block.  A write
  that succeeds has replaced exactly its range of the medium; on working hardware it succeeds
  exactly if the range is on the medium.  The setting changes neither.
-/
import OhMyAbl.Lib.Align
import OhMyAbl.Storage.BlockIo

namespace OhMyAbl

open Prog

def OnMedium (io : BlockIo) (offset size : Nat) : Prop :=
  size = 0 ∨ offset * io.blockSize + size ≤ (io.lastBlock + 1) * io.blockSize

instance (io : BlockIo) (offset size : Nat) : Decidable (OnMedium io offset size) :=
  inferInstanceAs (Decidable (_ ∨ _))

section Blocks

variable {io : BlockIo} {offset size : Nat}

theorem onMedium_blocks (hbs : io.blockSize ≠ 0) {n : Nat} :
    OnMedium io offset (n * io.blockSize) ↔ n = 0 ∨ offset + n ≤ io.lastBlock + 1 := by
  have hpos : 0 < io.blockSize := Nat.pos_of_ne_zero hbs
  rw [OnMedium, ← Nat.add_mul, Nat.mul_le_mul_right_iff hpos, Nat.mul_eq_zero]
  simp [hbs]

theorem onMedium_rest {n rest : Nat} (hrest : 0 < rest) (hlt : rest < io.blockSize) :
    OnMedium io offset (n * io.blockSize + rest) ↔ offset + n < io.lastBlock + 1 := by
  have hexpand : offset * io.blockSize + (n * io.blockSize + rest) =
      (offset + n) * io.blockSize + rest := by
    rw [Nat.add_mul, Nat.add_assoc]
  constructor
  · rintro (hzero | hle)
    · omega
    · exact Nat.lt_of_mul_lt_mul_right (a := io.blockSize) (by omega)
  · intro hlt'
    have hmul := Nat.mul_le_mul_right io.blockSize hlt'
    rw [Nat.succ_mul] at hmul
    exact Or.inr (by omega)

end Blocks

/-! ### The loop over write units -/

section Units

variable {io : BlockIo} {unit div : Nat} {image : Buffer}

theorem blocks_split {b w left : Nat} (hb : b ≠ 0) (hw : b ∣ w) (hle : w ≤ left) :
    w / b + (left - w) / b = left / b := by
  have hpos : 0 < b := Nat.pos_of_ne_zero hb
  obtain ⟨m, rfl⟩ := hw
  rw [Nat.mul_div_cancel_left _ hpos, ← Nat.mul_add_div hpos, Nat.add_sub_cancel' hle]

/-- What is known of the block the loop has come to: the count of blocks does not wrap, because
    the medium is not that long or because the rest of the write is on it. -/
def Unwrapped (io : BlockIo) (offset left : Nat) : Prop :=
  io.lastBlock + 1 < 2 ^ 64 ∨ left = 0 ∨ offset + left / io.blockSize ≤ 2 ^ 64

theorem Unwrapped.next {offset left w : Nat} (h : Unwrapped io offset left)
    (hbs : io.blockSize ≠ 0) (hdvd : io.blockSize ∣ left) (hw : io.blockSize ∣ w) (hle : w ≤ left)
    (hon : offset + w / io.blockSize ≤ io.lastBlock + 1) (hlt : w < left) :
    u64 (offset + w / io.blockSize) = offset + w / io.blockSize ∧
      Unwrapped io (offset + w / io.blockSize) (left - w) := by
  have hpos : 0 < io.blockSize := Nat.pos_of_ne_zero hbs
  obtain ⟨n, rfl⟩ := hdvd
  obtain ⟨m, rfl⟩ := hw
  have hmn : m < n := Nat.lt_of_mul_lt_mul_left hlt
  unfold Unwrapped at h ⊢
  rw [← Nat.mul_sub, Nat.mul_div_cancel_left _ hpos, Nat.mul_div_cancel_left _ hpos] at *
  refine ⟨Nat.mod_eq_of_lt ?_, ?_⟩
  · rcases h with h | h | h <;> omega
  · rcases h with h | h | h
    · exact Or.inl h
    · omega
    · exact Or.inr (Or.inr (by omega))

structure UnitsWritten (io : BlockIo) (image : Buffer) (div left offset : Nat) (d : Disk)
    (next : Nat) (d' : Disk) : Prop where
  contents : d'.contents =
    d.contents.overwrite (offset * io.blockSize) left (image.byte.shift (div - left))
  next_eq : next = if left = 0 then offset else u64 (offset + left / io.blockSize)
  onMedium : left = 0 ∨ offset + left / io.blockSize ≤ io.lastBlock + 1

theorem UnitsWritten.done {offset : Nat} {d : Disk} :
    UnitsWritten io image div 0 offset d offset d where
  contents := Bytes.overwrite_zero.symm
  next_eq := rfl
  onMedium := Or.inl rfl

theorem UnitsWritten.cons {left offset w next : Nat} {d d₁ d' : Disk} (hbs : io.blockSize ≠ 0)
    (hle : left ≤ div) (hdvd : io.blockSize ∣ left) (hw : io.blockSize ∣ w) (hwle : w ≤ left)
    (hmedia : Unwrapped io offset left) (hleft : left ≠ 0)
    (hon : offset + w / io.blockSize ≤ io.lastBlock + 1) (hd₁ : d₁.contents =
      d.contents.overwrite (offset * io.blockSize) w (image.byte.shift (div - left)))
    (hrest : UnitsWritten io image div (left - w) (u64 (offset + w / io.blockSize)) d₁ next d') :
    UnitsWritten io image div left offset d next d' := by
  by_cases hlast : w = left
  · subst hlast
    rw [Nat.sub_self] at hrest
    refine ⟨?_, ?_, Or.inr hon⟩
    · rw [hrest.contents, Bytes.overwrite_zero, hd₁]
    · rw [hrest.next_eq, if_pos rfl, if_neg hleft]
  · obtain ⟨hu, -⟩ := hmedia.next hbs hdvd hw hwle hon (by omega)
    rw [hu] at hrest
    have hend : (offset + w / io.blockSize) * io.blockSize = offset * io.blockSize + w := by
      rw [Nat.add_mul, Nat.div_mul_cancel hw]
    have hblocks : offset + w / io.blockSize + (left - w) / io.blockSize =
        offset + left / io.blockSize := by
      rw [Nat.add_assoc, blocks_split hbs hw hwle]
    refine ⟨?_, ?_, ?_⟩
    · rw [hrest.contents, hd₁, hend, overwrite_unit hle hwle]
    · rw [hrest.next_eq, if_neg (by omega), if_neg hleft, hblocks]
    · rw [← hblocks]
      exact hrest.onMedium.imp (fun h => by omega) id

theorem writeUnits_replaces {left offset : Nat} {d : Disk} (hbs : io.blockSize ≠ 0) (fuel : Nat)
    (hle : left ≤ div) (hdvd : io.blockSize ∣ left) (hmedia : Unwrapped io offset left) :
    wp (writeUnits io unit div image fuel left offset)
      (fun r d' => r.1 = EFI_SUCCESS → UnitsWritten io image div left offset d r.2 d')
      anyExit d := by
  refine wp_writeUnits (I := fun _ l o e => l ≤ div ∧ io.blockSize ∣ l ∧ Unwrapped io o l ∧
    ∀ next d', UnitsWritten io image div l o e next d' →
      UnitsWritten io image div left offset d next d')
    (fun h _ => h.2.2.2 _ _ .done) (fun _ _ => trivial) ?_ fuel ⟨hle, hdvd, hmedia, fun _ _ h => h⟩
  rintro _ l o e w e' ⟨hl, hd, hm, hall⟩ hne - hw -
  refine ⟨fun hs hcontents => ?_, fun hs h => absurd h hs⟩
  obtain ⟨hmod, hon⟩ := io.transferStatus_success hs
  have hwd : io.blockSize ∣ w := Nat.dvd_of_mod_eq_zero hmod
  refine ⟨by omega, Nat.dvd_sub hd hwd, ?_, fun next d' h =>
    hall next d' (.cons hbs hl hd hwd hw hm hne hon hcontents h)⟩
  by_cases hlast : w = l
  · exact Or.inr (Or.inl (by omega))
  · obtain ⟨hu, hnext⟩ := hm.next hbs hd hwd hw hon (by omega)
    rwa [hu]

theorem writeUnits_succeeds {left offset : Nat} {d : Disk} (hbs : io.blockSize ≠ 0)
    (hok : ∀ n, io.outcome n = EFI_SUCCESS) (hunit : io.blockSize ∣ unit) (hpos : 0 < unit)
    (hleft : left < 2 ^ 32) (hdvd : io.blockSize ∣ left) (hmedia : Unwrapped io offset left)
    (hon : left = 0 ∨ offset + left / io.blockSize ≤ io.lastBlock + 1) :
    wp (writeUnits io unit div image left left offset)
      (fun r _ => r.1 = EFI_SUCCESS) noExit d := by
  refine wp_writeUnits (I := fun fuel l o _ => l ≤ fuel ∧ l < 2 ^ 32 ∧ io.blockSize ∣ l ∧
    Unwrapped io o l ∧ (l = 0 ∨ o + l / io.blockSize ≤ io.lastBlock + 1))
    (fun _ => rfl) (fun h hne => absurd (Nat.le_zero.mp h.1) hne) ?_ left
    ⟨Nat.le_refl _, hleft, hdvd, hmedia, hon⟩
  rintro fuel l o e w e' ⟨hfuel, h32, hd, hm, honl⟩ hne hw hle -
  have hsize : w = if l > unit then unit else l :=
    hw.symm.trans (Nat.mod_eq_of_lt (by split <;> omega))
  have hwd : io.blockSize ∣ w := by
    rw [hsize]
    split
    · exact hunit
    · exact hd
  have hwpos : 0 < w := by
    rw [hsize]
    split <;> omega
  have hblocks := blocks_split hbs hwd hle
  have hend := honl.resolve_left hne
  refine ⟨fun hs _ => ?_, fun hs => absurd ?_ hs⟩
  · by_cases hlast : w = l
    · rw [hlast, Nat.sub_self]
      exact ⟨Nat.zero_le _, by omega, Nat.dvd_zero _, Or.inr (Or.inl rfl), Or.inl rfl⟩
    · obtain ⟨hu, hnext⟩ := hm.next hbs hd hwd hle (io.transferStatus_success hs).2 (by omega)
      rw [hu]
      exact ⟨by omega, by omega, Nat.dvd_sub hd hwd, hnext, Or.inr (by omega)⟩
  · have hin : o + w / io.blockSize ≤ io.lastBlock + 1 :=
      Nat.le_trans (Nat.add_le_add_left (Nat.div_le_div_right hle) o) hend
    rw [BlockIo.transferStatus, if_neg (by rw [Nat.mod_eq_zero_of_dvd hwd]; simp),
      if_neg (Nat.not_lt.mpr hin)]
    exact hok _

end Units

/-! ### The whole write -/

theorem roundedUnit_blocks {k : Nat} (hk : 2 ^ k < 2 ^ 32) :
    2 ^ k ∣ ROUND_TO_PAGE MAX_WRITE_SIZE (2 ^ k - 1) ∧
      0 < ROUND_TO_PAGE MAX_WRITE_SIZE (2 ^ k - 1) := by
  have hmax : MAX_WRITE_SIZE = 2 ^ 20 := rfl
  have hk' : k < 32 := (Nat.pow_lt_pow_iff_right (by decide)).mp hk
  have hhalf : 2 ^ k ≤ 2 ^ 31 := Nat.pow_le_pow_right (by decide) (by omega)
  have hpos : 0 < 2 ^ k := Nat.two_pow_pos k
  have hround : ROUND_TO_PAGE MAX_WRITE_SIZE (2 ^ k - 1) =
      (2 ^ 20 + (2 ^ k - 1)) / 2 ^ k * 2 ^ k := by
    rw [ROUND_TO_PAGE, ADD_OF, if_pos (by unfold MAX_UINT32; omega), hmax]
    exact land_compl_two_pow (w := 32) (by omega) (by omega)
  rw [hround]
  exact ⟨Nat.dvd_mul_left _ _, Nat.mul_pos (Nat.div_pos (by omega) hpos) hpos⟩

section Write

variable {env : StorageEnv} {io : BlockIo} {offset size : Nat} {image : Buffer} {d : Disk}

/-- The medium is not longer than a count of blocks can say, or the write is on it. -/
def MediumFits (io : BlockIo) (offset size : Nat) : Prop :=
  io.lastBlock + 1 < 2 ^ 64 ∨ OnMedium io offset size

theorem OnMedium.blocks (h : OnMedium io offset size) (hbs : io.blockSize ≠ 0) :
    size / io.blockSize = 0 ∨ offset + size / io.blockSize ≤ io.lastBlock + 1 := by
  have hle : size / io.blockSize * io.blockSize ≤ size := Nat.div_mul_le_self _ _
  rw [← onMedium_blocks hbs]
  rcases h with h | h
  · exact Or.inl (by omega)
  · exact Or.inr (by omega)

theorem onMedium_iff (hbs : io.blockSize ≠ 0) :
    OnMedium io offset size ↔
      (size / io.blockSize = 0 ∨ offset + size / io.blockSize ≤ io.lastBlock + 1) ∧
        (0 < size % io.blockSize → offset + size / io.blockSize < io.lastBlock + 1) := by
  have hsum := Nat.div_add_mod' size io.blockSize
  have hlt := Nat.mod_lt size (Nat.pos_of_ne_zero hbs)
  constructor
  · intro h
    refine ⟨h.blocks hbs, fun hrest => ?_⟩
    rw [← hsum] at h
    exact (onMedium_rest hrest hlt).mp h
  · rintro ⟨hblocks, htail⟩
    rw [← hsum]
    by_cases hrest : 0 < size % io.blockSize
    · exact (onMedium_rest hrest hlt).mpr (htail hrest)
    · rw [Nat.eq_zero_of_not_pos hrest, Nat.add_zero]
      exact (onMedium_blocks hbs).mpr hblocks

theorem MediumFits.unwrapped (h : MediumFits io offset size) (hbs : io.blockSize ≠ 0) :
    Unwrapped io offset (size / io.blockSize * io.blockSize) := by
  have hlast := io.lastBlock_lt
  rcases h with h | h
  · exact Or.inl h
  · rw [Unwrapped, Nat.mul_div_cancel _ (Nat.pos_of_ne_zero hbs)]
    rcases h.blocks hbs with hzero | hle
    · exact Or.inr (Or.inl (by rw [hzero, Nat.zero_mul]))
    · exact Or.inr (Or.inr (by omega))

theorem UnitsWritten.next_block {next : Nat} {d' : Disk} (hbs : io.blockSize ≠ 0)
    (hmedia : MediumFits io offset size) (hrest : 0 < size % io.blockSize)
    (h : UnitsWritten io image (size / io.blockSize * io.blockSize)
      (size / io.blockSize * io.blockSize) offset d next d') :
    next = offset + size / io.blockSize := by
  have hlast := io.lastBlock_lt
  have hnext := h.next_eq
  have hon := h.onMedium
  rw [Nat.mul_div_cancel _ (Nat.pos_of_ne_zero hbs)] at hnext hon
  by_cases hzero : size / io.blockSize * io.blockSize = 0
  · rw [if_pos hzero] at hnext
    rw [hnext, (Nat.mul_eq_zero.mp hzero).resolve_right hbs, Nat.add_zero]
  · rw [if_neg hzero] at hnext
    rw [hnext]
    apply Nat.mod_eq_of_lt
    rcases hmedia with hmedia | hmedia
    · have := hon.resolve_left hzero
      omega
    · have := ((onMedium_iff hbs).mp hmedia).2 hrest
      omega

theorem writeBlockToPartitionNoFlush_eq (hnand : env.rootDeviceType ≠ .NAND)
    (hbs : io.blockSize ≠ 0) (hsize : size < 2 ^ 32) :
    writeBlockToPartitionNoFlush env io offset size image = (do
      let d ← get
      let div := size / io.blockSize * io.blockSize
      let unit := if env.flashSplitNeeded d.ops
        then ROUND_TO_PAGE MAX_WRITE_SIZE (io.blockSize - 1) else div
      let (status, next) ← writeUnits io unit div image div div offset
      if status ≠ EFI_SUCCESS then
        return status
      if size % io.blockSize > 0 then
        writeTail env io io.blockSize next div (size % io.blockSize) image
      else
        return status) := by
  have hwbs : writeBlockSizeOf env io = io.blockSize := if_neg hnand
  have hdle : size / io.blockSize * io.blockSize ≤ size := Nat.div_mul_le_self _ _
  have hdiv : u32 (size / io.blockSize * io.blockSize) = size / io.blockSize * io.blockSize :=
    Nat.mod_eq_of_lt (by omega)
  have hrest : size - size / io.blockSize * io.blockSize = size % io.blockSize := by
    have hsum := Nat.div_add_mod' size io.blockSize
    omega
  unfold writeBlockToPartitionNoFlush
  simp [hnand, hwbs, hbs, hdiv, hrest]

theorem writeBlockToPartitionNoFlush_written (hnand : env.rootDeviceType ≠ .NAND)
    (hbs : io.blockSize ≠ 0) (hsize : size < 2 ^ 32) (hmedia : MediumFits io offset size) :
    wp (writeBlockToPartitionNoFlush env io offset size image)
      (fun status d' => status = EFI_SUCCESS →
        d'.contents = d.contents.overwrite (offset * io.blockSize) size image.byte ∧
          OnMedium io offset size) anyExit d := by
  have hsum := Nat.div_add_mod' size io.blockSize
  have hlt := Nat.mod_lt size (Nat.pos_of_ne_zero hbs)
  have hdvd : io.blockSize ∣ size / io.blockSize * io.blockSize := Nat.dvd_mul_left _ _
  rw [writeBlockToPartitionNoFlush_eq hnand hbs hsize]
  rw [wp_bind, wp_get, wp_bind]
  apply wp_imp (writeUnits_replaces hbs _ (Nat.le_refl _) hdvd (hmedia.unwrapped hbs)) _
  rintro ⟨status, next⟩ d' hunits
  by_cases hs : status = EFI_SUCCESS
  · have hwritten := hunits hs
    have hcontents := hwritten.contents
    rw [Nat.sub_self, Bytes.shift_zero] at hcontents
    have hon := hwritten.onMedium
    rw [Nat.mul_div_cancel _ (Nat.pos_of_ne_zero hbs), Nat.mul_eq_zero] at hon
    replace hon := hon.imp (fun h => h.resolve_right hbs) id
    simp only [hs]
    by_cases hrest : size % io.blockSize > 0
    · have hnext := hwritten.next_block hbs hmedia hrest
      simp only at hnext
      rw [if_pos hrest, hnext]
      apply wp_mono (writeTail_spec (Nat.le_of_lt hlt)) _ (fun _ _ _ => trivial)
      rintro status' d'' ⟨hsuccess, htail⟩ hs'
      obtain ⟨-, hread, -⟩ := hsuccess.mp hs'
      refine ⟨?_, (onMedium_iff hbs).mpr ⟨hon, fun _ => ?_⟩⟩
      · rw [(htail hs').2, hcontents, Nat.add_mul, Bytes.overwrite_append, hsum]
      · have hfit := (io.transferStatus_success hread).2
        rw [Nat.div_self (Nat.pos_of_ne_zero hbs)] at hfit
        omega
    · rw [if_neg hrest]
      intro _
      refine ⟨?_, (onMedium_iff hbs).mpr ⟨hon, fun h => absurd h hrest⟩⟩
      rw [hcontents]
      congr 1
      omega
  · simp [hs]

/-- Every operation of the medium succeeds.  A unit of a split write that is no multiple of the
    block size would be refused by the driver, and one of no bytes writes nothing. -/
structure WritesSucceed (env : StorageEnv) (io : BlockIo) : Prop where
  outcome : ∀ n, io.outcome n = EFI_SUCCESS
  unit : ∀ n, env.flashSplitNeeded n = true →
    0 < ROUND_TO_PAGE MAX_WRITE_SIZE (io.blockSize - 1) ∧
      io.blockSize ∣ ROUND_TO_PAGE MAX_WRITE_SIZE (io.blockSize - 1)

theorem writeBlockToPartitionNoFlush_succeeds (hnand : env.rootDeviceType ≠ .NAND)
    (hio : WritesSucceed env io) (hbs : io.blockSize ≠ 0) (hsize : size < 2 ^ 32)
    (hon : OnMedium io offset size) (hpool : 0 < size % io.blockSize → ∀ n, env.zeroPool n = true) :
    wp (writeBlockToPartitionNoFlush env io offset size image)
      (fun status _ => status = EFI_SUCCESS) noExit d := by
  have hpos : 0 < io.blockSize := Nat.pos_of_ne_zero hbs
  have hmedia : MediumFits io offset size := Or.inr hon
  have hdvd : io.blockSize ∣ size / io.blockSize * io.blockSize := Nat.dvd_mul_left _ _
  have hdle : size / io.blockSize * io.blockSize ≤ size := Nat.div_mul_le_self _ _
  obtain ⟨hblocks, htail⟩ := (onMedium_iff hbs).mp hon
  rw [writeBlockToPartitionNoFlush_eq hnand hbs hsize]
  rw [wp_bind, wp_get, wp_bind]
  generalize hunit : (if env.flashSplitNeeded d.ops then
    ROUND_TO_PAGE MAX_WRITE_SIZE (io.blockSize - 1) else size / io.blockSize * io.blockSize) = unit
  have hunits : wp (writeUnits io unit (size / io.blockSize * io.blockSize) image
      (size / io.blockSize * io.blockSize) (size / io.blockSize * io.blockSize) offset)
      (fun r _ => r.1 = EFI_SUCCESS) noExit d := by
    -- a write without whole blocks has no units
    by_cases hzero : size / io.blockSize * io.blockSize = 0
    · rw [hzero, writeUnits_done]
      rfl
    · have hunitOk : io.blockSize ∣ unit ∧ 0 < unit := by
        rw [← hunit]
        split
        · rename_i hsplit
          exact (hio.unit _ hsplit).symm
        · exact ⟨hdvd, by omega⟩
      refine writeUnits_succeeds hbs hio.outcome hunitOk.1 hunitOk.2 (by omega) hdvd
        (hmedia.unwrapped hbs) ?_
      rw [Nat.mul_div_cancel _ hpos]
      exact hblocks.imp (fun h => by rw [h, Nat.zero_mul]) id
  have hreplaces := @writeUnits_replaces io unit (size / io.blockSize * io.blockSize) image _ offset
    d hbs (size / io.blockSize * io.blockSize) (Nat.le_refl _) hdvd (hmedia.unwrapped hbs)
  apply wp_mono (wp_and hunits hreplaces) _ (fun _ _ h => h.1)
  rintro ⟨status, next⟩ d' ⟨hs, hwritten⟩
  replace hwritten := hwritten hs
  replace hs : status = EFI_SUCCESS := hs
  simp only [hs]
  by_cases hrest : size % io.blockSize > 0
  · have hfit : ∀ n, io.transferStatus n (offset + size / io.blockSize) io.blockSize =
        EFI_SUCCESS := by
      intro n
      rw [BlockIo.transferStatus, Nat.mod_self, Nat.div_self hpos, if_neg (by simp),
        if_neg (by omega)]
      exact hio.outcome n
    have hnext := hwritten.next_block hbs hmedia hrest
    simp only at hnext
    rw [if_pos hrest, hnext]
    apply wp_imp (writeTail_spec (Nat.le_of_lt (Nat.mod_lt _ hpos))) _
    intro status' d'' hiff
    exact hiff.1.mpr ⟨hpool hrest _, hfit _, hfit _⟩
  · rw [if_neg hrest]
    rfl

theorem writeBlockToPartitionNoFlush_whole (hnand : env.rootDeviceType ≠ .NAND)
    (hio : WritesSucceed env io) (hbs : 0 < io.blockSize) (hdvd : io.blockSize ∣ size)
    (hsize : size < 2 ^ 32)
    (hfit : offset * io.blockSize + size ≤ (io.lastBlock + 1) * io.blockSize) :
    wp (writeBlockToPartitionNoFlush env io offset size image)
      (fun status d' => status = EFI_SUCCESS ∧
        d'.contents = d.contents.overwrite (offset * io.blockSize) size image.byte) noExit d := by
  have hbs' : io.blockSize ≠ 0 := Nat.ne_of_gt hbs
  have hsucceeds := @writeBlockToPartitionNoFlush_succeeds env io offset size image d hnand hio hbs'
    hsize (Or.inr hfit) fun hrest => absurd (Nat.mod_eq_zero_of_dvd hdvd) (Nat.ne_of_gt hrest)
  refine wp_mono (wp_and hsucceeds (writeBlockToPartitionNoFlush_written hnand hbs' hsize
    (Or.inr (Or.inr hfit)))) ?_ fun _ _ h => h.1
  rintro status d' ⟨hstatus, hwritten⟩
  exact ⟨hstatus, (hwritten hstatus).1⟩

end Write

/-- A write that succeeds replaces exactly its range: every other byte of the disk, those of the
    last block too, is what it was.  On working hardware it succeeds exactly if the range is on
    the medium, and the contents do not depend on `IsFlashSplitNeeded`. -/
theorem writeBlockToPartitionNoFlush_replaces (env : StorageEnv) (io : BlockIo) (d : Disk)
    (offset size : Nat) (image : Buffer) (hnand : env.rootDeviceType ≠ .NAND)
    (hpow : ∃ k, io.blockSize = 2 ^ k) (hsize : size < 2 ^ 32)
    (hmedia : MediumFits io offset size) :
    (∀ d', (writeBlockToPartitionNoFlush env io offset size image).exec d =
        (.ok EFI_SUCCESS, d') →
      ∀ i, d'.contents i =
        if offset * io.blockSize ≤ i ∧ i < offset * io.blockSize + size then
          image.byte (i - offset * io.blockSize)
        else d.contents i) ∧
    (∀ split d₁ d₂, (writeBlockToPartitionNoFlush env io offset size image).exec d =
        (.ok EFI_SUCCESS, d₁) →
      (writeBlockToPartitionNoFlush { env with flashSplitNeeded := split } io offset size
        image).exec d = (.ok EFI_SUCCESS, d₂) → d₁.contents = d₂.contents) ∧
    ((∀ n, io.outcome n = EFI_SUCCESS) → (∀ n, env.zeroPool n = true) →
      (((writeBlockToPartitionNoFlush env io offset size image).exec d).1 = .ok EFI_SUCCESS ↔
        OnMedium io offset size)) := by
  obtain ⟨k, hpow⟩ := hpow
  have hbs : io.blockSize ≠ 0 := by
    rw [hpow]
    exact Nat.ne_of_gt (Nat.two_pow_pos k)
  have hwritten : ∀ split d', (writeBlockToPartitionNoFlush { env with flashSplitNeeded := split }
      io offset size image).exec d = (.ok EFI_SUCCESS, d') →
      d'.contents = d.contents.overwrite (offset * io.blockSize) size image.byte ∧
        OnMedium io offset size := by
    intro split d' hrun
    have hspec := @writeBlockToPartitionNoFlush_written { env with flashSplitNeeded := split } io
      offset size image d hnand hbs hsize hmedia
    exact wp_ok hspec hrun rfl
  refine ⟨?_, ?_, ?_⟩
  · intro d' hrun i
    rw [(hwritten env.flashSplitNeeded d' hrun).1]
    rfl
  · intro split d₁ d₂ h₁ h₂
    rw [(hwritten env.flashSplitNeeded d₁ h₁).1, (hwritten split d₂ h₂).1]
  · intro hok hpool
    constructor
    · intro hresult
      exact (hwritten env.flashSplitNeeded _ (exec_of_result hresult)).2
    · intro hon
      have hunit := roundedUnit_blocks (hpow ▸ io.blockSize_lt)
      rw [← hpow] at hunit
      have hspec := @writeBlockToPartitionNoFlush_succeeds env io offset size image d hnand
        ⟨hok, fun _ _ => hunit.symm⟩ hbs hsize hon fun _ => hpool
      obtain ⟨status, d', hrun, hstatus⟩ := wp_returns hspec
      rw [hrun, hstatus]

def pairedBlocks : BlockIo := ⟨2, 3, by decide, by decide, fun _ => EFI_SUCCESS⟩

def splitStorage : StorageEnv := ⟨.EMMC, EFI_SUCCESS, 0, fun _ => true, fun _ => true⟩

/-- Three bytes from the second block on: they are written, and the byte behind them stays. -/
theorem writeBlockToPartitionNoFlush_replaces_three :
    ∃ d', (writeBlockToPartitionNoFlush splitStorage pairedBlocks 1 3
        ⟨.image, 0, fun _ => 7⟩).exec ⟨fun _ => 1, 0, []⟩ = (.ok EFI_SUCCESS, d') ∧
      d'.contents 4 = 7 ∧ d'.contents 5 = 1 := by
  have hmedia : MediumFits pairedBlocks 1 3 := Or.inl (by decide)
  obtain ⟨hreplaces, -, hsucceeds⟩ := writeBlockToPartitionNoFlush_replaces splitStorage
    pairedBlocks ⟨fun _ => 1, 0, []⟩ 1 3 ⟨.image, 0, fun _ => 7⟩ (by decide) ⟨1, rfl⟩
    (by decide) hmedia
  have hrun := exec_of_result
    ((hsucceeds (fun _ => rfl) (fun _ => rfl)).mpr (by decide))
  refine ⟨_, hrun, ?_, ?_⟩
  · rfl
  · rfl

end OhMyAbl
