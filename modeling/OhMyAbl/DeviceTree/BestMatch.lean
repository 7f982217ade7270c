/-
  **The best entry of the `qcom,msm-id` tables.**

  `platform_dt_match_best` (`LocateDeviceTree.c`) thins out the list of the entries that fit the
  board in nine passes: three keep what has one value, six keep what has the highest.  Each pass of
  the second kind deletes in two loops; together they leave the lexicographic maxima.
-/
import OhMyAbl.DeviceTree.Select

namespace OhMyAbl

structure DtEntry where
  platformId : Nat
  variantId : Nat
  boardHwSubtype : Nat
  socRev : Nat
  /-- The revisions of the four PMICs. -/
  pmicRev : Nat → Nat
  offset : Nat
  size : Nat

namespace DtEntry

def foundry (e : DtEntry) : Nat := e.platformId &&& FOUNDRY_ID_MASK
def ddr (e : DtEntry) : Nat := e.boardHwSubtype &&& DDR_MASK
def majorMinor (e : DtEntry) : Nat := e.variantId &&& 0x00ffff00
def pmicModels (e : DtEntry) : List Nat :=
  (List.range PMIC_IDX4).map (e.pmicRev · &&& PMIC_MODEL_MASK)

end DtEntry

/-- What `update_dtb_entry_node` compares in its calls, each with the value of the board. -/
def rankInfos (board : Board) : List ((DtEntry → Nat) × Nat) :=
  [(DtEntry.socRev, board.chipVersion), (DtEntry.majorMinor, board.boardTargetId &&& 0x00ffff00)] ++
    (List.range PMIC_IDX4).map fun i => (fun e => e.pmicRev i, board.boardPmicTarget i)

/-- `platform_dt_absolute_match`, without the copy of the entry that is put into the list. -/
def platformDtAbsoluteMatch (board : Board) (e : DtEntry) : Bool :=
  decide (e.platformId &&& SOC_MASK = board.rawChipId &&& SOC_MASK) &&
  decide (e.variantId &&& VARIANT_MASK = board.platform) &&
  decide (e.boardHwSubtype &&& PLATFORM_SUBTYPE_MASK = board.subtype) &&
  decide (e.ddr = board.hlosSubType &&& DDR_MASK) &&
  (rankInfos board).all fun k => decide (k.1 e ≤ k.2)

/-! ### The passes over the list -/

section Passes

variable {α β : Type} [DecidableEq β]

/-- `platform_dt_absolute_compat_match`: the value of the board, if an entry has it, else the
    default; all entries with another value are deleted. -/
def platformDtAbsoluteCompatMatch (info : α → β) (boardInfo default : β) (l : List α) : List α :=
  let best := match l.find? fun e => info e = boardInfo with
    | some e => info e
    | none => default
  l.filter fun e => info e = best

/-- The first loop of `update_dtb_entry_node`: what is left of the list, and the best value. -/
def bestInfo (info : α → Nat) (boardInfo : Nat) : List α → Nat → List α × Nat
  | [], best => ([], best)
  | e :: rest, best =>
    if info e = boardInfo then (e :: rest, info e)
    else
      let best := if info e < boardInfo ∧ info e > best then info e else best
      let r := bestInfo info boardInfo rest best
      (if info e < best then r.1 else e :: r.1, r.2)

def updateDtbEntryNode (info : α → Nat) (boardInfo : Nat) (l : List α) : List α :=
  let r := bestInfo info boardInfo l 0
  r.1.filter fun e => info e = r.2

end Passes

/-- The entries that the three filters of `platform_dt_match_best` leave. -/
def compatEntries (board : Board) (l : List DtEntry) : List DtEntry :=
  let l := platformDtAbsoluteCompatMatch DtEntry.foundry
    (u32 (board.foundryId <<< PLATFORM_FOUNDRY_SHIFT)) 0 l
  let l := platformDtAbsoluteCompatMatch DtEntry.ddr (board.hlosSubType &&& DDR_MASK) 0 l
  platformDtAbsoluteCompatMatch DtEntry.pmicModels ((List.range PMIC_IDX4).map board.boardPmicModel)
    (List.replicate PMIC_IDX4 0) l

def platformDtMatchBest (board : Board) (l : List DtEntry) : Option DtEntry :=
  ((rankInfos board).foldl (fun l k => updateDtbEntryNode k.1 k.2 l) (compatEntries board l)).head?

/-! ### What the passes leave -/

section Maxima

variable {α : Type} {info : α → Nat} {boardInfo : Nat}

/-- The first loop finds the highest value, and deletes no entry that has it. -/
theorem bestInfo_spec : ∀ {l : List α} {best : Nat}, (∀ e ∈ l, info e ≤ boardInfo) →
    best ≤ boardInfo →
    let r := bestInfo info boardInfo l best
    best ≤ r.2 ∧ (∀ e ∈ l, info e ≤ r.2) ∧ (r.2 = best ∨ ∃ e ∈ l, info e = r.2) ∧
      (r.1.filter fun e => info e = r.2) = l.filter fun e => info e = r.2 := by
  intro l
  induction l with
  | nil =>
    intro best _ _
    exact ⟨Nat.le_refl _, nofun, Or.inl rfl, rfl⟩
  | cons e rest ih =>
    intro best hle hbest
    simp only [bestInfo]
    by_cases hboard : info e = boardInfo
    · rw [if_pos hboard]
      refine ⟨hboard ▸ hbest, ?_, Or.inr ⟨e, List.mem_cons_self, rfl⟩, rfl⟩
      intro e' he'
      exact hboard ▸ hle e' he'
    rw [if_neg hboard]
    have hlt : info e < boardInfo := Nat.lt_of_le_of_ne (hle e List.mem_cons_self) hboard
    have hmax : (if info e < boardInfo ∧ info e > best then info e else best) =
        max (info e) best := by
      split <;> omega
    rw [hmax]
    have hle' : ∀ e' ∈ rest, info e' ≤ boardInfo :=
      fun e' he' => hle e' (List.mem_cons_of_mem _ he')
    obtain ⟨hge, hall, hfrom, hfilter⟩ := @ih (max (info e) best) hle' (by omega)
    refine ⟨by omega, ?_, ?_, ?_⟩
    · intro e' he'
      rcases List.mem_cons.mp he' with rfl | he'
      · omega
      · exact hall e' he'
    · rcases hfrom with heq | ⟨e', he', heq⟩
      · rcases Nat.le_total best (info e) with h | h
        · exact Or.inr ⟨e, List.mem_cons_self, by omega⟩
        · exact Or.inl (by omega)
      · exact Or.inr ⟨e', List.mem_cons_of_mem _ he', heq⟩
    · rw [List.filter_cons, ← hfilter]
      by_cases hdelete : info e < max (info e) best
      · have hne : ¬ decide (info e = (bestInfo info boardInfo rest (max (info e) best)).2) =
          true := by
          rw [decide_eq_true_eq]
          omega
        rw [if_pos hdelete, if_neg hne]
      · rw [if_neg hdelete, List.filter_cons]

theorem updateDtbEntryNode_eq {l : List α} (hle : ∀ e ∈ l, info e ≤ boardInfo) :
    updateDtbEntryNode info boardInfo l = l.filter fun e => ∀ e' ∈ l, info e' ≤ info e := by
  obtain ⟨-, hall, hfrom, hfilter⟩ := bestInfo_spec hle (Nat.zero_le _)
  rw [updateDtbEntryNode, hfilter]
  apply List.filter_congr
  intro e he
  rw [decide_eq_decide]
  constructor
  · intro heq e' he'
    exact heq ▸ hall e' he'
  · intro hmax
    have hle' := hall e he
    rcases hfrom with hzero | ⟨e', he', heq⟩
    · omega
    · have := hmax e' he'
      omega

/-- Keeping the maxima of one value after the other leaves the lexicographic maxima. -/
theorem foldl_updateDtbEntryNode (keys : List ((α → Nat) × Nat)) : ∀ {l : List α},
    (∀ k ∈ keys, ∀ e ∈ l, k.1 e ≤ k.2) →
    keys.foldl (fun l k => updateDtbEntryNode k.1 k.2 l) l =
      l.filter fun e => ∀ e' ∈ l, ¬ List.Lex (· < ·) (keys.map (·.1 e)) (keys.map (·.1 e')) := by
  induction keys with
  | nil =>
    intro l _
    exact (List.filter_eq_self.mpr fun _ _ => by simp).symm
  | cons k keys ih =>
    intro l hle
    rw [List.foldl_cons, updateDtbEntryNode_eq (hle k List.mem_cons_self), ih, List.filter_filter]
    · apply List.filter_congr
      intro e he
      rw [Bool.eq_iff_iff, Bool.and_eq_true]
      simp only [decide_eq_true_eq, List.mem_filter, List.map_cons, List.cons_lex_cons_iff, not_or,
        not_and, Nat.not_lt]
      constructor
      · rintro ⟨hrest, hmax⟩ e' he'
        refine ⟨hmax e' he', fun heq => hrest e' ⟨he', fun e'' he'' => ?_⟩⟩
        exact heq ▸ hmax e'' he''
      · intro hlex
        refine ⟨?_, fun e' he' => (hlex e' he').1⟩
        rintro e' ⟨he', hmax'⟩
        exact (hlex e' he').2 (Nat.le_antisymm (hmax' e he) (hlex e' he').1)
    · intro k' hk' e he
      exact hle k' (List.mem_cons_of_mem _ hk') e (List.mem_filter.mp he).1

theorem updateDtbEntryNode_ne_nil {l : List α} (hle : ∀ e ∈ l, info e ≤ boardInfo) (hl : l ≠ []) :
    updateDtbEntryNode info boardInfo l ≠ [] := by
  obtain ⟨-, hall, hfrom, hfilter⟩ := bestInfo_spec hle (Nat.zero_le _)
  obtain ⟨e, he, hinfo⟩ : ∃ e ∈ l, info e = (bestInfo info boardInfo l 0).2 := by
    rcases hfrom with hzero | hfrom
    · obtain ⟨e, he⟩ := List.exists_mem_of_ne_nil l hl
      have := hall e he
      exact ⟨e, he, by omega⟩
    · exact hfrom
  rw [updateDtbEntryNode, hfilter]
  exact List.ne_nil_of_mem (List.mem_filter.mpr ⟨he, decide_eq_true hinfo⟩)

theorem foldl_updateDtbEntryNode_ne_nil (keys : List ((α → Nat) × Nat)) : ∀ {l : List α},
    (∀ k ∈ keys, ∀ e ∈ l, k.1 e ≤ k.2) → l ≠ [] →
    keys.foldl (fun l k => updateDtbEntryNode k.1 k.2 l) l ≠ [] := by
  induction keys with
  | nil => exact fun _ hl => hl
  | cons k keys ih =>
    intro l hle hl
    have hfirst := hle k List.mem_cons_self
    refine ih (fun k' hk' e he => ?_) (updateDtbEntryNode_ne_nil hfirst hl)
    replace he : e ∈ updateDtbEntryNode k.1 k.2 l := he
    rw [updateDtbEntryNode_eq hfirst] at he
    exact hle k' (List.mem_cons_of_mem _ hk') e (List.mem_filter.mp he).1

end Maxima

/-! ### The selected entry -/

section Select

variable {α β : Type} [DecidableEq β]

/-- The entries with the value of the board, or with the default if no entry has that. -/
def keepInfo (info : α → β) (boardInfo default : β) (l : List α) : List α :=
  l.filter fun e => info e = if ∃ e' ∈ l, info e' = boardInfo then boardInfo else default

theorem platformDtAbsoluteCompatMatch_eq (info : α → β) (boardInfo default : β) (l : List α) :
    platformDtAbsoluteCompatMatch info boardInfo default l = keepInfo info boardInfo default l := by
  have hbest : (match l.find? fun e => info e = boardInfo with
      | some e => info e
      | none => default) = if ∃ e' ∈ l, info e' = boardInfo then boardInfo else default := by
    cases hfind : l.find? fun e => info e = boardInfo with
    | none =>
      rw [List.find?_eq_none] at hfind
      rw [if_neg]
      rintro ⟨e, he, hinfo⟩
      exact hfind e he (decide_eq_true hinfo)
    | some e =>
      have hinfo : info e = boardInfo := by simpa using List.find?_some hfind
      rw [if_pos ⟨e, List.mem_of_find?_eq_some hfind, hinfo⟩]
      exact hinfo
  simp [platformDtAbsoluteCompatMatch, keepInfo, hbest]

end Select

def survivors (board : Board) (l : List DtEntry) : List DtEntry :=
  keepInfo DtEntry.pmicModels ((List.range PMIC_IDX4).map board.boardPmicModel)
    (List.replicate PMIC_IDX4 0)
    (keepInfo DtEntry.ddr (board.hlosSubType &&& DDR_MASK) 0
      (keepInfo DtEntry.foundry (u32 (board.foundryId <<< PLATFORM_FOUNDRY_SHIFT)) 0 l))

def DtEntry.ranks (e : DtEntry) : List Nat :=
  [e.socRev, e.majorMinor, e.pmicRev 0, e.pmicRev 1, e.pmicRev 2, e.pmicRev 3]

/-- **Best match.**  Among entries that fit the board, the first of the lexicographic maxima of
    those that survive the filters is selected; none is only if none survives. -/
theorem platformDtMatchBest_spec (board : Board) (l : List DtEntry)
    (hl : ∀ e ∈ l, platformDtAbsoluteMatch board e = true) :
    (platformDtMatchBest board l = none ↔ survivors board l = []) ∧
      platformDtMatchBest board l = (survivors board l).find? fun e =>
        ∀ e' ∈ survivors board l, ¬ List.Lex (· < ·) e.ranks e'.ranks := by
  have hle : ∀ k ∈ rankInfos board, ∀ e ∈ survivors board l, k.1 e ≤ k.2 := by
    intro k hk e he
    have hmem := (List.mem_filter.mp (List.mem_filter.mp (List.mem_filter.mp he).1).1).1
    have hmatch := hl e hmem
    simp only [platformDtAbsoluteMatch, Bool.and_eq_true, List.all_eq_true] at hmatch
    exact of_decide_eq_true (hmatch.2 k hk)
  have hbest : platformDtMatchBest board l = ((rankInfos board).foldl
      (fun l k => updateDtbEntryNode k.1 k.2 l) (survivors board l)).head? := by
    simp only [platformDtMatchBest, compatEntries, platformDtAbsoluteCompatMatch_eq]
    rfl
  refine ⟨?_, ?_⟩
  · rw [hbest, List.head?_eq_none_iff]
    constructor
    · intro hnil
      by_contra hne
      exact foldl_updateDtbEntryNode_ne_nil _ hle hne hnil
    · intro hnil
      rw [foldl_updateDtbEntryNode _ hle, hnil]
      rfl
  · rw [hbest, foldl_updateDtbEntryNode _ hle, List.head?_filter]
    rfl

def sampleEntries : List DtEntry :=
  [1, 0x10000, 0x10000].mapIdx fun i socRev => ⟨0x150, 8, 0, socRev, fun _ => 0x2e, i, 0⟩

theorem platformDtMatchBest_second :
    (platformDtMatchBest sampleBoard sampleEntries).map DtEntry.offset = some 1 := by
  rw [(platformDtMatchBest_spec sampleBoard sampleEntries (by decide)).2]
  decide

end OhMyAbl
