/-
  **Which trees the matching accepts, and which trees fit the board.**

  `Fits` is the selection table, and `Selectable` what the match bits really test: the comparisons
  of `qcom,msm-id` and `qcom,board-id` clear the bits when they fail, those of `qcom,pmic-id` and
  `qcom,oem-id` do not.
-/
import OhMyAbl.DeviceTree.Match

namespace OhMyAbl

open Prog

/-! ### The selection table -/

def rootProp (blob : Bytes) (name : String) : Option FdtProp := (fdtGetprop blob name).join

/-- The `qcom,msm-id` and the `qcom,board-id` of a tree, if they are lists of pairs. -/
def msmId (blob : Bytes) : Option FdtProp := idPairs PLAT_ID_SIZE (rootProp blob "qcom,msm-id")
def boardId (blob : Bytes) : Option FdtProp := idPairs BOARD_ID_SIZE (rootProp blob "qcom,board-id")

variable (board : Board)

/-- The entry of `qcom,msm-id` at `a` has the SoC of the board, and its foundry or 0. -/
def PlatformFits (blob : Bytes) (a : Nat) : Prop :=
  board.rawChipId &&& SOC_MASK = blob.beU32At a &&& SOC_MASK ∧
  (blob.beU32At a &&& FOUNDRY_ID_MASK = u32 (board.foundryId <<< PLATFORM_FOUNDRY_SHIFT) ∨
    blob.beU32At a &&& FOUNDRY_ID_MASK = 0)

def MsmFits (blob : Bytes) : Prop :=
  ∃ p, msmId blob = some p ∧
    ∃ i < p.len / PLAT_ID_SIZE, PlatformFits board blob (p.data + PLAT_ID_SIZE * i)

def SubtypeFits (blob : Bytes) (p : FdtProp) : Prop :=
  dtSubtype blob p.data &&& PLATFORM_SUBTYPE_MASK = board.subtype ∨
    dtSubtype blob p.data &&& PLATFORM_SUBTYPE_MASK = 0

def pmicCount (blob : Bytes) : Nat := pmicMaxIdxOf blob (rootProp blob "qcom,pmic-id-size")

def ModelsFit (blob : Bytes) (a : Nat) : Prop :=
  ∀ idx < pmicCount blob,
    blob.beU32At (a + 4 * idx) &&& PMIC_MODEL_MASK = board.boardPmicModel idx ∨
      blob.beU32At (a + 4 * idx) &&& PMIC_MODEL_MASK = 0

/-- The PMICs of the tree are those of the board, in one of the alternatives it gives.  A list that
is shorter than one alternative fits no board. -/
def PmicFits (blob : Bytes) : Prop :=
  ∀ p, (rootProp blob "qcom,pmic-id").filter FdtProp.positive = some p →
    ∃ e < p.len / (4 * pmicCount blob),
      ModelsFit board blob (p.data + 4 * pmicCount blob * e)

def OemFits (blob : Bytes) : Prop :=
  ∀ p, (rootProp blob "qcom,oem-id").filter FdtProp.positive = some p →
    dtOemVariant blob p.data = board.oemVariantId

structure Fits (board : Board) (blob : Bytes) : Prop where
  msm : MsmFits board blob
  subtype : ∀ p, boardId blob = some p → SubtypeFits board blob p
  pmic : PmicFits board blob
  oem : OemFits board blob

/-! ### What the bits test -/

def PlatformAccepted (blob : Bytes) : Prop :=
  msmId blob = none ∨ MsmFits board blob

def VariantIs (blob : Bytes) (p : FdtProp) : Prop :=
  blob.beU32At p.data &&& VARIANT_MASK = board.platform

def BoardAccepted (blob : Bytes) : Prop :=
  ∀ p, boardId blob = some p →
    (VariantIs board blob p ∨ blob.beU32At p.data &&& VARIANT_MASK = 0) ∧
      SubtypeFits board blob p

def SocSelectable (blob : Bytes) : Prop :=
  MsmFits board blob ∧ BoardAccepted board blob

def OverlaySelectable (blob : Bytes) : Prop :=
  PlatformAccepted board blob ∧
    ∃ p, boardId blob = some p ∧ VariantIs board blob p ∧ SubtypeFits board blob p

/-- The PMICs can be compared: every look-up ends, and the number of PMICs is neither 0 nor, in a
list of whole alternatives, more than the records can hold. -/
def PmicReadable (blob : Bytes) : Prop :=
  (fdtGetprop blob "qcom,pmic-id").isSome ∧
  ∀ p, (rootProp blob "qcom,pmic-id").filter FdtProp.positive = some p →
    (fdtGetprop blob "qcom,pmic-id-size").isSome ∧ pmicEntSz (pmicCount blob) ≠ 0 ∧
      (p.len % pmicEntSz (pmicCount blob) = 0 → pmicCount blob ≤ MAX_PMIC_IDX)

/-- The list of PMICs is not made of whole alternatives, and the comparison ends there. -/
def PmicMalformed (blob : Bytes) : Prop :=
  ∃ p, (rootProp blob "qcom,pmic-id").filter FdtProp.positive = some p ∧
    p.len % pmicEntSz (pmicCount blob) ≠ 0

def Readable (blob : Bytes) : Prop :=
  (fdtGetprop blob "qcom,msm-id").isSome ∧
  (PlatformAccepted board blob → (fdtGetprop blob "qcom,board-id").isSome ∧
    (BoardAccepted board blob → PmicReadable blob ∧
      (¬ PmicMalformed blob → board.oemVariantId ≠ 0 →
        (fdtGetprop blob "qcom,oem-id").isSome)))

/-- Nothing of the tree has set a bit of the match value.  A comparison that fails sets one, but for
that of `qcom,msm-id`. -/
def Unmatched (blob : Bytes) : Prop :=
  ¬ PlatformAccepted board blob ∨ msmId blob = none ∧ boardId blob = none ∧
    (PmicMalformed blob ∨ (rootProp blob "qcom,pmic-id").filter FdtProp.positive = none ∧
      board.oemVariantId = 0)

/-! ### The bits of one comparison -/

section

variable {board : Board} {blob : Bytes}

@[simp] theorem testBit_BIT (n i : Nat) : (BIT n).testBit i = decide (n = i) :=
  Nat.testBit_two_pow

theorem and_BIT_ne_zero_iff (v n : Nat) : v &&& BIT n ≠ 0 ↔ v.testBit n = true := by
  unfold BIT
  rw [Nat.and_two_pow]
  cases v.testBit n <;> simp

/-- The value of a tree whose `qcom,msm-id` fits, and of which nothing else is known. -/
def SocOnly (v : Nat) : Prop := v.testBit SOC_MATCH = true ∧ v.testBit VARIANT_MATCH = false

variable {v dtb n : Nat} {c : DtInfo}

theorem SocOnly.ne_zero (h : SocOnly v) : v ≠ 0 := by
  rintro rfl
  exact absurd h.1 (by simp)

theorem versionBit_testBit {dt b exact best i : Nat} (he : exact ≠ i) (hb : best ≠ i) :
    (versionBit dt b exact best).testBit i = false := by
  unfold versionBit
  split
  · simp [he]
  · split <;> simp [hb]

theorem getPlatformMatchDtb_spec (a : Nat) (cur : DtInfo) (hcur : cur.dtMatchVal = 0) :
    ((getPlatformMatchDtb board blob a cur).1 = true ↔ PlatformFits board blob a) ∧
    ((getPlatformMatchDtb board blob a cur).1 = true →
      SocOnly (getPlatformMatchDtb board blob a cur).2.dtMatchVal) ∧
    (getPlatformMatchDtb board blob a cur).2.dtb = cur.dtb := by
  unfold getPlatformMatchDtb PlatformFits SocOnly
  dsimp only
  by_cases hsoc : board.rawChipId &&& SOC_MASK = blob.beU32At a &&& SOC_MASK
  · rw [if_pos hsoc]
    have h55 := @versionBit_testBit (blob.beU32At (a + 4)) board.chipVersion VERSION_EXACT_MATCH
      VERSION_BEST_MATCH VARIANT_MATCH (by decide) (by decide)
    split
    · rename_i hfoundry
      simp [hsoc, hfoundry, hcur, h55]
      decide
    · split
      · rename_i hnot hzero
        simp [hsoc, hzero, hcur, h55]
        decide
      · rename_i hnot hzero
        simp [hnot, hzero]
  · simp [hsoc]

theorem bestPlatform_spec (n : Nat) :
    ∀ (a : Nat) (cur temp : DtInfo), cur.dtb = temp.dtb →
      (temp.dtMatchVal = 0 ∨ SocOnly temp.dtMatchVal) →
      let r := bestPlatform board blob n a cur temp
      (r.dtMatchVal = 0 ∨ SocOnly r.dtMatchVal) ∧ r.dtb = temp.dtb ∧
      (r.dtMatchVal ≠ 0 ↔ temp.dtMatchVal ≠ 0 ∨
        ∃ i < n, PlatformFits board blob (a + PLAT_ID_SIZE * i)) := by
  induction n with
  | zero =>
    intro a cur temp hdtb htemp
    exact ⟨htemp, rfl, by simp [bestPlatform]⟩
  | succ n ih =>
    intro a cur temp hdtb htemp
    obtain ⟨hfits, hbits, hcur⟩ := @getPlatformMatchDtb_spec board blob a
      { cur with dtMatchVal := 0 } rfl
    simp only [bestPlatform]
    generalize getPlatformMatchDtb board blob a { cur with dtMatchVal := 0 } = r at hfits hbits hcur
    obtain ⟨ok, next⟩ := r
    simp only at hfits hbits hcur ⊢
    have hshift : ∀ i, a + PLAT_ID_SIZE + PLAT_ID_SIZE * i = a + PLAT_ID_SIZE * (i + 1) := by
      intro i
      rw [Nat.mul_add, Nat.mul_one]
      omega
    -- the entries are the first one and those after it
    have hsplit : (∃ i < n + 1, PlatformFits board blob (a + PLAT_ID_SIZE * i)) ↔
        ok = true ∨ ∃ i < n, PlatformFits board blob (a + PLAT_ID_SIZE + PLAT_ID_SIZE * i) := by
      constructor
      · rintro ⟨i, hi, hfit⟩
        rcases i with _ | i
        · exact Or.inl (hfits.mpr (by simpa using hfit))
        · exact Or.inr ⟨i, by omega, by rw [hshift]; exact hfit⟩
      · rintro (hok | ⟨i, hi, hfit⟩)
        · exact ⟨0, by omega, by simpa using hfits.mp hok⟩
        · exact ⟨i + 1, by omega, by rw [← hshift]; exact hfit⟩
    rw [hsplit]
    by_cases hnew : ok = true ∧ temp.dtMatchVal < next.dtMatchVal
    · rw [if_pos hnew]
      obtain ⟨hval, hr, hiff⟩ := ih (a + PLAT_ID_SIZE) next next rfl (Or.inr (hbits hnew.1))
      refine ⟨hval, by rw [hr, hcur, hdtb], ?_⟩
      rw [hiff]
      exact ⟨fun _ => Or.inr (Or.inl hnew.1), fun _ => Or.inl (hbits hnew.1).ne_zero⟩
    · rw [if_neg hnew]
      obtain ⟨hval, hr, hiff⟩ := ih (a + PLAT_ID_SIZE) next temp (hcur.trans hdtb) htemp
      refine ⟨hval, hr, ?_⟩
      rw [hiff]
      -- a fitting entry that is not taken has to be below a value that is not 0
      have hkept : ok = true → temp.dtMatchVal ≠ 0 := by
        intro hok hzero
        have hne := (hbits hok).ne_zero
        exact hnew ⟨hok, by omega⟩
      constructor
      · rintro (htemp | hlater)
        · exact Or.inl htemp
        · exact Or.inr (Or.inr hlater)
      · rintro (htemp | hok | hlater)
        · exact Or.inl htemp
        · exact Or.inl (hkept hok)
        · exact Or.inr hlater

theorem ite_BIT_testBit (q : Prop) [Decidable q] (n i : Nat) :
    (if q then BIT n else 0).testBit i = (decide q && decide (n = i)) := by
  split <;> simp [*]

theorem getBoardMatchDtb_spec (p : FdtProp) (cur : DtInfo) :
    let r := getBoardMatchDtb board blob p.data cur
    (r.1 = true ↔ (VariantIs board blob p ∨ blob.beU32At p.data &&& VARIANT_MASK = 0) ∧
      SubtypeFits board blob p) ∧
    (r.1 = true →
      r.2.dtMatchVal.testBit SOC_MATCH = cur.dtMatchVal.testBit SOC_MATCH ∧
      (r.2.dtMatchVal.testBit VARIANT_MATCH = true ↔
        cur.dtMatchVal.testBit VARIANT_MATCH = true ∨ VariantIs board blob p)) ∧
    (r.1 = false → r.2.dtMatchVal = BIT NONE_MATCH) ∧ r.2.dtb = cur.dtb := by
  unfold getBoardMatchDtb VariantIs SubtypeFits
  dsimp only
  by_cases hvariant : blob.beU32At p.data &&& VARIANT_MASK = board.platform ∨
      blob.beU32At p.data &&& VARIANT_MASK = 0
  · rw [if_pos hvariant]
    split
    · rename_i hsubtype
      simp [hvariant, hsubtype, ite_BIT_testBit, versionBit_testBit, SOC_MATCH, VARIANT_MATCH,
        VARIANT_MAJOR_EXACT_MATCH, VARIANT_MAJOR_BEST_MATCH, VARIANT_MINOR_EXACT_MATCH,
        VARIANT_MINOR_BEST_MATCH, HLOS_SUBTYPE_EXACT_MATCH, SUBTYPE_EXACT_MATCH, DDR_MATCH]
    · split
      · rename_i hzero
        simp [hvariant, hzero, ite_BIT_testBit, versionBit_testBit, SOC_MATCH, VARIANT_MATCH,
          VARIANT_MAJOR_EXACT_MATCH, VARIANT_MAJOR_BEST_MATCH, VARIANT_MINOR_EXACT_MATCH,
          VARIANT_MINOR_BEST_MATCH, HLOS_SUBTYPE_EXACT_MATCH, SUBTYPE_DEFAULT_MATCH, DDR_MATCH]
      · rename_i hsubtype hzero
        simp [hsubtype, hzero]
  · simp [hvariant]

/-! ### The matching of a tree -/

theorem BIT_ne_zero (n : Nat) : BIT n ≠ 0 := (Nat.two_pow_pos n).ne'

theorem getBoardMatchDtb_ne_zero (a : Nat) (cur : DtInfo) :
    (getBoardMatchDtb board blob a cur).2.dtMatchVal ≠ 0 := by
  unfold getBoardMatchDtb
  dsimp only
  split_ifs <;> simp [Nat.or_eq_zero_iff, BIT_ne_zero]

structure Matched (board : Board) (blob : Bytes) (dtb : Nat) (c : DtInfo) : Prop where
  readable : Readable board blob
  unmatched : c.dtMatchVal = 0 ↔ Unmatched board blob
  soc : c.dtMatchVal.testBit SOC_MATCH = true ↔ SocSelectable board blob
  overlay : c.dtMatchVal.testBit VARIANT_MATCH = true ↔ OverlaySelectable board blob
  dtb : c.dtb = dtb

def MatchExit (board : Board) (blob : Bytes) (dtb : Nat) : DtbExit → DtInfo → Prop
  | .cleanup, c => Matched board blob dtb c
  | .undefined, _ => ¬ Readable board blob

theorem wp_getprop {name : String} {Q : Option FdtProp → DtInfo → Prop}
    {E : DtbExit → DtInfo → Prop} (hnone : fdtGetprop blob name = none → E .undefined c)
    (hsome : (fdtGetprop blob name).isSome → Q (rootProp blob name) c) :
    wp (getprop blob name) Q E c := by
  unfold getprop
  unfold rootProp at hsome
  cases hprop : fdtGetprop blob name with
  | none => exact hnone hprop
  | some p =>
    rw [hprop] at hsome
    exact hsome rfl

structure AfterPlatform (board : Board) (blob : Bytes) (dtb : Nat) (c : DtInfo) : Prop where
  found : (fdtGetprop blob "qcom,msm-id").isSome
  accepted : PlatformAccepted board blob
  zero : c.dtMatchVal = 0 ↔ msmId blob = none
  soc : c.dtMatchVal.testBit SOC_MATCH = true ↔ MsmFits board blob
  variant : c.dtMatchVal.testBit VARIANT_MATCH = false
  dtb : c.dtb = dtb

theorem matchPlatform_spec (hc : c.dtMatchVal = 0) :
    wp (matchPlatform board blob) (fun _ => AfterPlatform board blob c.dtb)
      (MatchExit board blob c.dtb) c := by
  unfold matchPlatform
  rw [wp_bind]
  apply wp_getprop
  · intro hnone hread
    have hfound := hread.1
    rw [hnone] at hfound
    cases hfound
  · intro hfound
    rw [← msmId]
    cases hmsm : msmId blob with
    | none =>
      have hno : ¬ MsmFits board blob := by
        rintro ⟨p, hp, -⟩
        rw [hmsm] at hp
        cases hp
      exact ⟨hfound, Or.inl hmsm, by simp [hc, hmsm], by simp [hc, hno], by simp [hc], rfl⟩
    | some p =>
      obtain ⟨hval, hdtb, hiff⟩ := @bestPlatform_spec board blob (p.len / PLAT_ID_SIZE) p.data c
        { c with dtMatchVal := 0 } rfl (Or.inl rfl)
      simp only [wp_bind, wp_modify, wp_get]
      have hfits : (bestPlatform board blob (p.len / PLAT_ID_SIZE) p.data c
          { c with dtMatchVal := 0 }).dtMatchVal ≠ 0 ↔ MsmFits board blob := by
        rw [hiff]
        constructor
        · rintro (hne | hentry)
          · exact absurd rfl hne
          · exact ⟨p, hmsm, hentry⟩
        · rintro ⟨q, hq, hentry⟩
          rw [hmsm] at hq
          cases hq
          exact Or.inr hentry
      rw [wp_ite]
      constructor
      · intro hzero
        have hno : ¬ MsmFits board blob := fun h => hfits.mpr h hzero
        have hnot : ¬ PlatformAccepted board blob := by
          rintro (hnone | hmsm')
          · rw [hmsm] at hnone
            cases hnone
          · exact hno hmsm'
        refine ⟨⟨hfound, fun h => absurd h hnot⟩, by simp [hzero, Unmatched, hnot], ?_, ?_, hdtb⟩
        · rw [hzero]
          simp [SocSelectable, hno]
        · rw [hzero]
          simp [OverlaySelectable, hnot]
      · intro hne
        have hbits := hval.resolve_left hne
        have hmsmFits := hfits.mp hne
        exact ⟨hfound, Or.inr hmsmFits, by simp [hne, hmsm], by simp [hbits.1, hmsmFits], hbits.2,
          hdtb⟩

/-- The tree has passed `qcom,board-id` too; nothing that follows changes the two bits.  No bit at
    all is set exactly if `Z`. -/
structure AfterBoard (board : Board) (blob : Bytes) (dtb : Nat) (Z : Prop) (c : DtInfo) : Prop where
  msmFound : (fdtGetprop blob "qcom,msm-id").isSome
  found : (fdtGetprop blob "qcom,board-id").isSome
  platform : PlatformAccepted board blob
  accepted : BoardAccepted board blob
  zero : c.dtMatchVal = 0 ↔ Z
  soc : c.dtMatchVal.testBit SOC_MATCH = true ↔ MsmFits board blob
  variant : c.dtMatchVal.testBit VARIANT_MATCH = true ↔
    ∃ p, boardId blob = some p ∧ VariantIs board blob p
  dtb : c.dtb = dtb

/-- The board ids are compared after the platform ids. -/
theorem matchBoard_spec (h : AfterPlatform board blob dtb c) :
    wp (matchBoard board blob)
      (fun _ => AfterBoard board blob dtb (msmId blob = none ∧ boardId blob = none))
      (MatchExit board blob dtb) c := by
  unfold matchBoard
  rw [wp_bind]
  apply wp_getprop
  · intro hnone hread
    have hfound := (hread.2 h.accepted).1
    rw [hnone] at hfound
    cases hfound
  · intro hfound
    rw [← boardId]
    cases hboard : boardId blob with
    | none =>
      refine ⟨h.found, hfound, h.accepted, ?_, by simp [h.zero], h.soc, ?_, h.dtb⟩
      · intro p hp
        rw [hboard] at hp
        cases hp
      · rw [h.variant]
        simp [hboard]
    | some p =>
      obtain ⟨hok, hbits, hnone, hdtb⟩ := @getBoardMatchDtb_spec board blob p c
      simp only [wp_bind, wp_modify, wp_get]
      rw [wp_ite]
      constructor
      · intro hr
        obtain ⟨hsoc, hvariant⟩ := hbits hr
        refine ⟨h.found, hfound, h.accepted, ?_,
          by simp [getBoardMatchDtb_ne_zero], by rw [hsoc]; exact h.soc, ?_,
          hdtb.trans h.dtb⟩
        · intro q hq
          rw [hboard] at hq
          cases hq
          exact hok.mp hr
        · rw [hvariant, h.variant]
          simp [hboard]
      · intro hr
        have hnot : ¬ BoardAccepted board blob := fun hacc => hr (hok.mpr (hacc p hboard))
        have hval := hnone (Bool.not_eq_true _ ▸ hr)
        refine ⟨⟨h.found, fun _ => ⟨hfound, fun hacc => absurd hacc hnot⟩⟩,
          by simp [getBoardMatchDtb_ne_zero, Unmatched, h.accepted, hboard], ?_, ?_,
          hdtb.trans h.dtb⟩
        · rw [hval]
          simp [SocSelectable, hnot, NONE_MATCH, SOC_MATCH]
        · rw [hval]
          have hno : ¬ OverlaySelectable board blob := by
            rintro ⟨-, q, hq, hvariant, hsubtype⟩
            apply hnot
            intro q' hq'
            rw [hq] at hq'
            cases hq'
            exact ⟨Or.inl hvariant, hsubtype⟩
          simp [hno, NONE_MATCH, VARIANT_MATCH]

variable {Z Z' : Prop}

theorem AfterBoard.matched (h : AfterBoard board blob dtb Z c) (hread : Readable board blob)
    (hZ : Z ↔ Unmatched board blob) : Matched board blob dtb c := by
  refine ⟨hread, h.zero.trans hZ, ?_, ?_, h.dtb⟩
  · rw [h.soc]
    exact ⟨fun hmsm => ⟨hmsm, h.accepted⟩, fun hsel => hsel.1⟩
  · rw [h.variant]
    constructor
    · rintro ⟨p, hp, hvariant⟩
      exact ⟨h.platform, p, hp, hvariant, (h.accepted p hp).2⟩
    · rintro ⟨-, p, hp, hvariant, -⟩
      exact ⟨p, hp, hvariant⟩

theorem AfterBoard.of_bits {c' : DtInfo} (h : AfterBoard board blob dtb Z c) (hv : v < 2 ^ 51)
    (hZ : Z ∧ v = 0 ↔ Z') (hval : c'.dtMatchVal = c.dtMatchVal ||| v) (hdtb : c'.dtb = c.dtb) :
    AfterBoard board blob dtb Z' c' := by
  have hhigh : ∀ i, 51 ≤ i → v.testBit i = false := fun i hi =>
    Nat.testBit_lt_two_pow (Nat.lt_of_lt_of_le hv (Nat.pow_le_pow_right (by omega) hi))
  refine ⟨h.msmFound, h.found, h.platform, h.accepted, ?_, ?_, ?_, hdtb.trans h.dtb⟩
  · rw [hval, Nat.or_eq_zero_iff, h.zero, hZ]
  · rw [hval, Nat.testBit_or, hhigh SOC_MATCH (by decide), Bool.or_false]
    exact h.soc
  · rw [hval, Nat.testBit_or, hhigh VARIANT_MATCH (by decide), Bool.or_false]
    exact h.variant

theorem BIT_lt {m : Nat} (h : n < m) : BIT n < 2 ^ m := Nat.pow_lt_pow_right (by omega) h

theorem pmicModelBit_spec {idx model bit : Nat} (h : pmicModelBit board idx model = some bit) :
    ∃ k ≤ PMIC_MATCH_EXACT_MODEL_IDX0 + idx * PMIC_SHIFT_IDX, bit = BIT k := by
  unfold pmicModelBit at h
  split_ifs at h
  · exact ⟨_, Nat.le_refl _, (Option.some.inj h).symm⟩
  · exact ⟨_, Nat.add_le_add_right (by decide) _, (Option.some.inj h).symm⟩

theorem pmicRevBit_lt {idx rev bit : Nat} (h : pmicRevBit board idx rev = some bit) :
    bit < 2 ^ 51 := by
  simp only [pmicRevBit, PMIC_MATCH_EXACT_REV_IDX0, PMIC_MATCH_BEST_REV_IDX0, PMIC_SHIFT_IDX] at h
  split at h
  case isTrue hidx =>
    have hfour : idx < 4 := hidx
    split_ifs at h
    · exact Option.some.inj h ▸ BIT_lt (by omega)
    · exact Option.some.inj h ▸ BIT_lt (by omega)
  case isFalse => exact Option.some.inj h ▸ Nat.two_pow_pos 51

theorem readPmicEntry_lt (n : Nat) : ∀ (a idx : Nat) (cur : PmicIdInfo), idx + n ≤ MAX_PMIC_IDX →
    cur.dtMatchVal < 2 ^ 51 → (readPmicEntry board blob a n idx cur).dtMatchVal < 2 ^ 51 := by
  induction n with
  | zero => exact fun _ _ _ _ hcur => hcur
  | succ n ih =>
    intro a idx cur hidx hcur
    have h15 : MAX_PMIC_IDX = 15 := rfl
    simp only [readPmicEntry]
    cases hmodel : pmicModelBit board idx (blob.beU32At (a + 4 * idx) &&& PMIC_MODEL_MASK) with
    | none => exact BIT_lt (by decide)
    | some bit =>
      obtain ⟨k, hk, rfl⟩ := pmicModelBit_spec hmodel
      have hval := Nat.or_lt_two_pow hcur (BIT_lt (n := k) (m := 51) (by
        simp only [PMIC_MATCH_EXACT_MODEL_IDX0, PMIC_SHIFT_IDX] at hk
        omega))
      cases hrev : pmicRevBit board idx (blob.beU32At (a + 4 * idx) &&& PMIC_REV_MASK) with
      | none => exact hval
      | some bit' => exact ih a (idx + 1) _ (by omega) (Nat.or_lt_two_pow hval (pmicRevBit_lt hrev))

theorem readPmicEntry_ne_zero (n : Nat) : ∀ (a idx : Nat) (cur : PmicIdInfo),
    0 < n ∨ cur.dtMatchVal ≠ 0 → (readPmicEntry board blob a n idx cur).dtMatchVal ≠ 0 := by
  induction n with
  | zero => exact fun _ _ _ h => h.resolve_left (Nat.lt_irrefl 0)
  | succ n ih =>
    intro a idx cur _
    simp only [readPmicEntry]
    cases hmodel : pmicModelBit board idx (blob.beU32At (a + 4 * idx) &&& PMIC_MODEL_MASK) with
    | none => exact BIT_ne_zero _
    | some bit =>
      obtain ⟨k, -, rfl⟩ := pmicModelBit_spec hmodel
      cases pmicRevBit board idx (blob.beU32At (a + 4 * idx) &&& PMIC_REV_MASK) with
      | none => simp [Nat.or_eq_zero_iff, BIT_ne_zero]
      | some bit' => exact ih a (idx + 1) _ (.inr (by simp [Nat.or_eq_zero_iff, BIT_ne_zero]))

theorem foldl_invariant {α β : Type} {P : α → Prop} {f : α → β → α} (h : ∀ a b, P a → P (f a b))
    (l : List β) : ∀ a, P a → P (l.foldl f a) := by
  induction l with
  | nil => exact fun _ ha => ha
  | cons b l ih => exact fun a ha => ih (f a b) (h a b ha)

theorem betterPmic_cases (n : Nat) (best cur : PmicIdInfo) :
    betterPmic n best cur = best ∨ betterPmic n best cur = cur := by
  unfold betterPmic
  split
  · exact Or.inr rfl
  · split
    · have hstep : ∀ b idx, b = best ∨ b = cur →
          (if b.dtPmicRev idx < cur.dtPmicRev idx then cur else b) = best ∨
          (if b.dtPmicRev idx < cur.dtPmicRev idx then cur else b) = cur := by
        intro b idx hb
        split
        · exact Or.inr rfl
        · exact hb
      exact foldl_invariant hstep _ best (Or.inl rfl)
    · exact Or.inl rfl

theorem readBestPmicMatch_lt {a count : Nat} (hn : n ≤ MAX_PMIC_IDX) :
    (readBestPmicMatch board blob a n count).dtMatchVal < 2 ^ 51 := by
  have hstep : ∀ (best : PmicIdInfo) (e : Nat), best.dtMatchVal < 2 ^ 51 →
      (betterPmic n best (readPmicEntry board blob (a + 4 * n * e) n 0 {})).dtMatchVal
        < 2 ^ 51 := by
    intro best e hbest
    rcases betterPmic_cases n best (readPmicEntry board blob (a + 4 * n * e) n 0 {}) with h | h
    · rw [h]
      exact hbest
    · rw [h]
      exact readPmicEntry_lt n _ 0 _ (by omega) (Nat.two_pow_pos 51)
  exact foldl_invariant hstep _ {} (Nat.two_pow_pos 51)

theorem readBestPmicMatch_ne_zero {a count : Nat} (hn : 0 < n) (hcount : 0 < count) :
    (readBestPmicMatch board blob a n count).dtMatchVal ≠ 0 := by
  obtain ⟨count, rfl⟩ := Nat.exists_eq_succ_of_ne_zero hcount.ne'
  rw [readBestPmicMatch, List.range_succ, List.foldl_append, List.foldl_cons, List.foldl_nil]
  -- the last alternative is better than none
  generalize (List.range count).foldl _ _ = best
  have hlast := @readPmicEntry_ne_zero board blob n (a + 4 * n * count) 0 {} (.inl hn)
  generalize readPmicEntry board blob (a + 4 * n * count) n 0 {} = cur at hlast ⊢
  by_cases hlt : best.dtMatchVal < cur.dtMatchVal
  · rwa [betterPmic, if_pos hlt]
  · rcases betterPmic_cases n best cur with h | h <;> rw [h]
    · omega
    · exact hlast

theorem matchPmic_spec
    (h : AfterBoard board blob dtb (msmId blob = none ∧ boardId blob = none) c) :
    wp (matchPmic board blob)
      (fun _ c => AfterBoard board blob dtb (msmId blob = none ∧ boardId blob = none ∧
        (rootProp blob "qcom,pmic-id").filter FdtProp.positive = none) c ∧
        PmicReadable blob ∧ ¬ PmicMalformed blob) (MatchExit board blob dtb) c := by
  have hpmic : Readable board blob → PmicReadable blob := fun hread =>
    ((hread.2 h.platform).2 h.accepted).1
  unfold matchPmic
  rw [wp_bind]
  apply wp_getprop
  · intro hnone hread
    have hfound := (hpmic hread).1
    rw [hnone] at hfound
    cases hfound
  intro hfound
  cases hprop : (rootProp blob "qcom,pmic-id").filter FdtProp.positive with
  | none =>
    refine ⟨by simpa [hprop] using h, ⟨hfound, ?_⟩, ?_⟩
    · intro p hp
      rw [hprop] at hp
      cases hp
    · rintro ⟨p, hp, -⟩
      rw [hprop] at hp
      cases hp
  | some p =>
    rw [wp_bind]
    apply wp_getprop
    · intro hnone hread
      have hsz := ((hpmic hread).2 p hprop).1
      rw [hnone] at hsz
      cases hsz
    intro hsz
    -- what the comparison needs, for the one list of PMICs there is
    have honly : ∀ q, (rootProp blob "qcom,pmic-id").filter FdtProp.positive = some q → q = p := by
      intro q hq
      rw [hprop] at hq
      exact (Option.some.inj hq).symm
    simp only [wp_ite]
    refine ⟨?_, fun hne => ⟨?_, fun hdiv => ⟨?_, ?_⟩⟩⟩
    · intro hzero hread
      exact ((hpmic hread).2 p hprop).2.1 hzero
    · intro hrem
      have hmalformed : PmicMalformed blob := ⟨p, hprop, hrem⟩
      apply h.matched _ (by simp [Unmatched, h.platform, hmalformed])
      refine ⟨h.msmFound, fun _ => ⟨h.found, fun _ => ⟨⟨hfound, ?_⟩, ?_⟩⟩⟩
      · intro q hq
        rw [honly q hq]
        exact ⟨hsz, hne, fun hzero => absurd hzero hrem⟩
      · exact fun hwhole => absurd hmalformed hwhole
    · intro hmany hread
      have hmax := ((hpmic hread).2 p hprop).2.2 (not_not.mp hdiv)
      exact absurd hmany (Nat.not_lt.mpr hmax)
    · intro hmax
      have hsome : 0 < pmicCount blob := Nat.pos_of_ne_zero fun hzero => hne (by
        rw [← pmicCount, hzero]
        rfl)
      have hpos : 0 < p.len := by
        have hpositive := (Option.filter_eq_some_iff.mp hprop).2
        simp only [FdtProp.positive, Bool.and_eq_true, decide_eq_true_eq] at hpositive
        exact hpositive.1
      have hcount : 0 < p.len / pmicEntSz (pmicCount blob) :=
        Nat.div_pos (Nat.le_of_dvd hpos (Nat.dvd_of_mod_eq_zero (not_not.mp hdiv)))
          (Nat.pos_of_ne_zero hne)
      have hbits := @readBestPmicMatch_ne_zero board blob _ p.data _ hsome hcount
      refine ⟨h.of_bits (readBestPmicMatch_lt (Nat.not_lt.mp hmax))
        (iff_of_false (fun h => hbits h.2) fun h => by simp at h) rfl rfl, ⟨hfound, ?_⟩, ?_⟩
      · intro q hq
        exact ⟨hsz, hne, fun _ => Nat.not_lt.mp hmax⟩
      · rintro ⟨q, hq, hrem⟩
        rw [honly q hq] at hrem
        exact hdiv hrem

theorem matchOem_spec (h : AfterBoard board blob dtb (msmId blob = none ∧ boardId blob = none ∧
      (rootProp blob "qcom,pmic-id").filter FdtProp.positive = none) c)
    (hpmic : PmicReadable blob) (hwhole : ¬ PmicMalformed blob) :
    wp (matchOem board blob) (fun _ => Matched board blob dtb)
      (MatchExit board blob dtb) c := by
  have hread : (board.oemVariantId ≠ 0 → (fdtGetprop blob "qcom,oem-id").isSome) →
      Readable board blob := fun hoem =>
    ⟨h.msmFound, fun _ => ⟨h.found, fun _ => ⟨hpmic, fun _ => hoem⟩⟩⟩
  unfold matchOem
  rw [wp_ite]
  constructor
  · intro hzero
    exact h.matched (hread fun hne => absurd hzero hne)
      (by simp [Unmatched, h.platform, hwhole, hzero])
  · intro hne
    rw [wp_bind]
    apply wp_getprop
    · intro hnone hread'
      have hfound := ((hread'.2 h.platform).2 h.accepted).2 hwhole hne
      rw [hnone] at hfound
      cases hfound
    intro hfound
    have hreadable := hread fun _ => hfound
    have hset : False ↔ Unmatched board blob := by simp [Unmatched, h.platform, hwhole, hne]
    cases (rootProp blob "qcom,oem-id").filter FdtProp.positive with
    | none =>
      refine AfterBoard.matched (h.of_bits ?_ (by simp [BIT_ne_zero]) rfl rfl) hreadable hset
      exact BIT_lt (by decide)
    | some p =>
      refine AfterBoard.matched (h.of_bits (v := if _ then _ else _) ?_ ?_ rfl rfl) hreadable hset
      · split
        · exact BIT_lt (by decide)
        · exact BIT_lt (by decide)
      · split <;> simp [BIT_ne_zero]

theorem matchDtb_spec {c : DtInfo} (hc : c.dtMatchVal = 0) :
    wp (matchDtb board blob) (fun _ => Matched board blob c.dtb)
      (MatchExit board blob c.dtb) c := by
  unfold matchDtb
  simp only [wp_bind]
  apply wp_imp (matchPlatform_spec hc) _
  intro _ c₁ h₁
  apply wp_imp (matchBoard_spec h₁) _
  intro _ c₂ h₂
  apply wp_imp (matchPmic_spec h₂) _
  rintro _ c₃ ⟨h₃, hpmic, hwhole⟩
  exact matchOem_spec h₃ hpmic hwhole

theorem readDtbFindMatch_cases (exactMatch : Nat) (cur best : DtInfo)
    (hheader : fdtCheckHeader (fdtHeader blob) = true) :
    (readDtbFindMatch board blob exactMatch cur best = none ∧ ¬ Readable board blob) ∨
    ∃ c, Matched board blob cur.dtb c ∧
      readDtbFindMatch board blob exactMatch cur best =
        some ((chooseBest exactMatch c best).1, c, (chooseBest exactMatch c best).2) := by
  have hspec := @matchDtb_spec board blob { cur with dtMatchVal := 0 } rfl
  unfold readDtbFindMatch
  rw [if_pos hheader]
  unfold wp at hspec
  generalize (matchDtb board blob).exec { cur with dtMatchVal := 0 } = r at hspec
  rcases r with ⟨(_ | _) | _, c⟩
  · exact Or.inr ⟨c, hspec, rfl⟩
  · exact Or.inl ⟨rfl, hspec⟩
  · exact Or.inr ⟨c, hspec, rfl⟩

end

end OhMyAbl
