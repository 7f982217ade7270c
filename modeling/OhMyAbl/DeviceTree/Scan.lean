/-
  **The loops over the trees of an image.**

  `GetSocDtb` and `DeviceTreeAppended` step from tree to tree by the sizes in the headers.
  `scanned` is the list of addresses they come to; each tree begins where the one before ended and
  lies inside the image, so a loop ends unless the look-ups in one of its trees do not.  Both look
  for the data of the hypervisor in the trees that are of no use otherwise.

  - `scans_end_iff`: when the two loops end, and where their trees are
  - `scan_does_not_end`: a tree of 112 bytes in which neither ends
  - `indexes_of_chosen`: the reported indexes are those of the chosen trees
-/
import OhMyAbl.DeviceTree.BestMatch

namespace OhMyAbl

namespace KernelImage

section Walk

variable {image : KernelImage} {frame i dtb size : Nat} {σ : Type} {step : Nat → σ → Option σ}

/-- A tree behind the start of the image ends inside it, at the address the loop goes on with. -/
theorem treeAt_end (hk : image.kernel < dtb) (ht : image.treeAt frame dtb = some size) :
    u64 (dtb + size) = dtb + size ∧ dtb + size ≤ image.kernel + image.kernelSize ∧ 0 < size := by
  obtain ⟨hvalid, hsize, -, hle, -⟩ := treeAt_some ht
  have hpos : 0 < size := by
    obtain ⟨-, start, hext⟩ := hvalid
    rw [hsize]
    exact totalsize_pos_of_checkHeaderExt hext
  refine ⟨?_, treeAt_inside hk ht, hpos⟩
  have hlt := fdtTotalsize_lt (image.mem.shift dtb)
  unfold u64 at hle ⊢
  omega

/-- The loop has a result exactly if its body has one for every tree it comes to. -/
theorem walk_isSome_iff {ok : Nat → Prop} (hstart : image.Started)
    (hstep : ∀ dtb s, (image.treeAt frame dtb).isSome → ((step dtb s).isSome ↔ ok dtb))
    (fuel : Nat) : ∀ {i dtb : Nat} {s : σ}, image.scanned frame i = some dtb → 0 < fuel →
      image.kernel + image.kernelSize < dtb + fuel →
      ((image.walk frame step fuel dtb s).isSome ↔
        ∀ j, i ≤ j → ∀ dtb', image.TreeIs frame j dtb' → ok dtb') := by
  induction fuel with
  | zero =>
    intro _ _ _ _ hpos
    cases hpos
  | succ fuel ih =>
    intro i dtb s hi _ hfuel
    rw [walk]
    cases ht : image.treeAt frame dtb with
    | none =>
      -- the scan ends here
      have hnone : ∀ k, image.scanned frame (i + 1 + k) = none := by
        intro k
        induction k with
        | zero => simp only [scanned, hi, Option.bind_some, ht, Option.map_none]
        | succ k ihk => rw [← Nat.add_assoc, scanned, ihk, Option.bind_none]
      refine ⟨fun _ j hij dtb' htree => ?_, fun _ => rfl⟩
      rcases Nat.eq_or_lt_of_le hij with rfl | hlt
      · obtain rfl : dtb = dtb' := Option.some.inj (hi.symm.trans htree.1)
        exact absurd htree.2 (by rw [ht]; simp)
      · have hj := hnone (j - (i + 1))
        rw [Nat.add_sub_cancel' hlt, htree.1] at hj
        cases hj
    | some size =>
      obtain ⟨hend, hinside, hpos⟩ := treeAt_end ((scanned_spec hstart hi).2) ht
      have hnext := scanned_succ hi ht
      have hhere := hstep dtb s (by rw [ht]; rfl)
      have htree : image.TreeIs frame i dtb := ⟨hi, by rw [ht]; rfl⟩
      have hlater : ∀ s', (image.walk frame step fuel (u64 (dtb + size)) s').isSome ↔
          ∀ j, i + 1 ≤ j → ∀ dtb', image.TreeIs frame j dtb' → ok dtb' :=
        fun s' => ih hnext (by omega) (by omega)
      constructor
      · intro hsome j hij dtb' htree'
        obtain ⟨s', hs', hrest⟩ := Option.bind_eq_some_iff.mp (Option.eq_some_of_isSome hsome)
        rcases Nat.eq_or_lt_of_le hij with rfl | hlt
        · obtain rfl : dtb = dtb' := Option.some.inj (hi.symm.trans htree'.1)
          exact hhere.mp (by rw [hs']; rfl)
        · exact (hlater s').mp (by rw [hrest]; rfl) j hlt dtb' htree'
      · intro hall
        obtain ⟨s', hs'⟩ := Option.isSome_iff_exists.mp
          (hhere.mpr (hall i (Nat.le_refl i) dtb htree))
        dsimp only
        rw [hs', Option.bind_some]
        exact (hlater s').mpr fun j hj => hall j (by omega)

end Walk

end KernelImage

/-! ### The entries of a tree -/

def PMIC_ID_SIZE : Nat := 16

section Entries

variable {board : Board} {blob : Bytes} {dtb : Nat}

/-- What `DeviceTreeCompatible` makes of the lists of a tree: each `qcom,msm-id` with each
    `qcom,board-id` and each `qcom,pmic-id`; without the last, with the PMICs of the board. -/
def dtEntries (board : Board) (blob : Bytes) (dtb : Nat) (plat boardIds : FdtProp)
    (pmic : Option FdtProp) : List DtEntry :=
  let pmics : List (Nat → Nat) := match pmic with
    | some p => (List.range (p.len / PMIC_ID_SIZE)).map fun n idx =>
        blob.beU32At (p.data + PMIC_ID_SIZE * n + 4 * idx)
    | none => [board.boardPmicTarget]
  (List.range (plat.len / PLAT_ID_SIZE)).flatMap fun i =>
    (List.range (boardIds.len / BOARD_ID_SIZE)).flatMap fun j =>
      pmics.map fun pmicRev =>
        { platformId := blob.beU32At (plat.data + PLAT_ID_SIZE * i)
          variantId := blob.beU32At (boardIds.data + BOARD_ID_SIZE * j)
          boardHwSubtype := dtSubtype blob (boardIds.data + BOARD_ID_SIZE * j)
          socRev := blob.beU32At (plat.data + PLAT_ID_SIZE * i + 4)
          pmicRev, offset := dtb, size := fdtTotalsize blob }

/-- Not all of the lists of the tree are made of whole entries. -/
def idsBroken (boardIds pmic : Option FdtProp) : Bool :=
  boardIds.any fun b => b.len % BOARD_ID_SIZE ≠ 0 ∨ pmic.any (·.len % PMIC_ID_SIZE ≠ 0)

def arraysAllocated (alloc : Nat → Bool) (pmic : Option FdtProp) : Bool :=
  alloc 1 && alloc 2 && (pmic.isNone || alloc 3) && alloc 4

/-- `DeviceTreeCompatible`: the entries it adds to the list; `none` is `FALSE`.  `alloc k` says
    whether allocation `k` succeeds.  No result when a look-up has none, or when there are too many
    entries for the array: their number is taken modulo 2^64, and counted in 32 bits. -/
def deviceTreeCompatible (board : Board) (alloc : Nat → Bool) (blob : Bytes) (dtb : Nat) :
    Option (Option (List DtEntry)) := do
  if !fdtCheckHeader (fdtHeader blob) then return none
  else
    let model ← fdtGetprop blob "model"
    if model.any FdtProp.positive && !alloc 0 then return none
    else
      let pmicProp ← fdtGetprop blob "qcom,pmic-id"
      let boardProp ← fdtGetprop blob "qcom,board-id"
      let pmic := pmicProp.filter FdtProp.positive
      let boardIds := boardProp.filter FdtProp.positive
      if idsBroken boardIds pmic then return none
      else
        let platProp ← fdtGetprop blob "qcom,msm-id"
        match boardIds, idPairs PLAT_ID_SIZE platProp with
        | some b, some plat =>
          -- the check of the number of entries compares with a product of 32 bits, and never fails
          if arraysAllocated alloc pmic then
            let entries := dtEntries board blob dtb plat b pmic
            if 2 ^ 32 ≤ entries.length then none
            else return some ((entries.zipIdx.filter fun e =>
              platformDtAbsoluteMatch board e.1 && alloc (5 + e.2)).map Prod.fst)
          else return none
        -- without a `qcom,board-id` the tree is of version 1, which nothing is added for
        | _, _ => return none

/-- The look-ups of `GetRticDtb` end. -/
def RticReadable (blob : Bytes) : Prop :=
  (fdtGetprop blob "qcom,rtic-id").isSome ∧
    ∀ p, idPairs RTIC_ID_SIZE (rootProp blob "qcom,rtic-id") = some p →
      blob.beU32At p.data = RTIC_ID → (fdtGetprop blob "MP_DATA").isSome

theorem getRticDtb_isSome_iff (hheader : fdtCheckHeader (fdtHeader blob) = true) :
    (getRticDtb blob).isSome ↔ RticReadable blob := by
  rw [getRticDtb, if_pos hheader, RticReadable, rootProp]
  cases fdtGetprop blob "qcom,rtic-id" with
  | none => simp
  | some rtic =>
    simp only [Option.bind_eq_bind, Option.bind_some, Option.join_some,
      Option.isSome_some, true_and]
    cases idPairs RTIC_ID_SIZE rtic with
    | none => simp
    | some p =>
      by_cases hid : blob.beU32At p.data = RTIC_ID
      · cases fdtGetprop blob "MP_DATA" <;> simp [hid]
      · simp [hid]

/-- The look-ups of `DeviceTreeCompatible` end, and the entries fit the array. -/
def CompatibleReadable (board : Board) (alloc : Nat → Bool) (blob : Bytes) (dtb : Nat) : Prop :=
  let pmic := (rootProp blob "qcom,pmic-id").filter FdtProp.positive
  let boardIds := (rootProp blob "qcom,board-id").filter FdtProp.positive
  (fdtGetprop blob "model").isSome ∧
  (((rootProp blob "model").any FdtProp.positive = true → alloc 0 = true) →
    (fdtGetprop blob "qcom,pmic-id").isSome ∧ (fdtGetprop blob "qcom,board-id").isSome ∧
    (idsBroken boardIds pmic = false → (fdtGetprop blob "qcom,msm-id").isSome ∧
      (arraysAllocated alloc pmic = true → ∀ b plat, boardIds = some b → msmId blob = some plat →
        (dtEntries board blob dtb plat b pmic).length < 2 ^ 32)))

theorem deviceTreeCompatible_isSome_iff {alloc : Nat → Bool}
    (hheader : fdtCheckHeader (fdtHeader blob) = true) :
    (deviceTreeCompatible board alloc blob dtb).isSome ↔
      CompatibleReadable board alloc blob dtb := by
  unfold deviceTreeCompatible CompatibleReadable msmId rootProp
  rw [hheader, if_neg (by decide)]
  cases fdtGetprop blob "model" with
  | none => exact iff_of_false Bool.false_ne_true fun h => Bool.false_ne_true h.1
  | some model =>
    simp only [Option.bind_eq_bind, Option.bind_some, Option.join_some,
      Option.isSome_some, true_and]
    by_cases hmodel : model.any FdtProp.positive = true → alloc 0 = true
    swap
    · simp_all
    rw [if_neg (by simpa using hmodel)]
    simp only [eq_true hmodel, true_imp_iff]
    cases fdtGetprop blob "qcom,pmic-id" with
    | none => simp
    | some pmic =>
      cases fdtGetprop blob "qcom,board-id" with
      | none => simp
      | some boardIds =>
        simp only [Option.bind_some, Option.join_some, Option.isSome_some, true_and]
        generalize pmic.filter FdtProp.positive = pmic
        generalize boardIds.filter FdtProp.positive = boardIds
        cases idsBroken boardIds pmic with
        | true => simp
        | false =>
          cases fdtGetprop blob "qcom,msm-id" with
          | none => simp
          | some plat =>
            simp only [Option.bind_some, Option.join_some]
            generalize idPairs PLAT_ID_SIZE plat = plat
            cases boardIds <;> cases plat <;> cases arraysAllocated alloc pmic <;>
              simp [apply_ite]

end Entries

/-! ### The two loops -/

section Loops

variable {board : Board} {image : KernelImage} {frame : Nat} {globals : DtGlobals}

/-- The memory that `DeviceTreeAppended` gets: for the head of the list, and for the allocations of
    `DeviceTreeCompatible` on the tree at an address. -/
structure DtPool where
  queue : Bool
  tree : Nat → Nat → Bool

/-- The body of the loop of `DeviceTreeAppended`. -/
def appendedStep (board : Board) (image : KernelImage) (pool : DtPool) (dtb : Nat)
    (queue : List DtEntry) : Option (List DtEntry) := do
  let blob := image.mem.shift dtb
  let entries ← deviceTreeCompatible board (pool.tree dtb) blob dtb
  let _ ← (if entries.isNone then getRticDtb blob else some none)
  return queue ++ entries.getD []

/-- `DeviceTreeAppended` up to the entry it selects. -/
def deviceTreeAppended (board : Board) (image : KernelImage) (frame : Nat) (pool : DtPool) :
    Option (Option DtEntry) :=
  if pool.queue = false ∨ image.dtbOffset = 0 ∨
      u64 (image.kernel + image.dtbOffset) < image.kernel then some none
  else
    (image.walk frame (appendedStep board image pool) (image.kernelSize + 1)
      (u64 (image.kernel + image.dtbOffset)) []).map (platformDtMatchBest board)

/-- The work of `GetSocDtb` on a tree ends. -/
def SocReadable (board : Board) (blob : Bytes) : Prop :=
  Readable board blob ∧ (Unmatched board blob → RticReadable blob)

/-- The work of `DeviceTreeAppended` on the tree at `dtb` ends. -/
def AppendedReadable (board : Board) (alloc : Nat → Bool) (blob : Bytes) (dtb : Nat) : Prop :=
  CompatibleReadable board alloc blob dtb ∧
    (deviceTreeCompatible board alloc blob dtb = some none → RticReadable blob)

theorem socStep_isSome_iff (dtb : Nat) (s : DtbScan) (ht : (image.treeAt frame dtb).isSome) :
    (socStep board image dtb s).isSome ↔ SocReadable board (image.mem.shift dtb) := by
  obtain ⟨size, ht⟩ := Option.isSome_iff_exists.mp ht
  have hheader := (KernelImage.treeAt_some ht).1.1
  unfold socStep SocReadable
  dsimp only
  rw [← getRticDtb_isSome_iff hheader]
  have hcases := @readDtbFindMatch_cases board _ SOC_MATCH { s.cur with dtb := dtb } s.best hheader
  rcases hcases with ⟨hnone, hread⟩ | ⟨c, hmatched, hsome⟩
  · simp [hnone, hread]
  · by_cases hzero : c.dtMatchVal = 0
    · cases getRticDtb (image.mem.shift dtb) <;>
        simp [hsome, hmatched.readable, ← hmatched.unmatched, hzero]
    · simp [hsome, hmatched.readable, ← hmatched.unmatched, hzero]

theorem appendedStep_isSome_iff {pool : DtPool} (dtb : Nat) (queue : List DtEntry)
    (ht : (image.treeAt frame dtb).isSome) : (appendedStep board image pool dtb queue).isSome ↔
      AppendedReadable board (pool.tree dtb) (image.mem.shift dtb) dtb := by
  obtain ⟨size, ht⟩ := Option.isSome_iff_exists.mp ht
  unfold appendedStep AppendedReadable
  dsimp only
  have hheader := (KernelImage.treeAt_some ht).1.1
  rw [← deviceTreeCompatible_isSome_iff hheader, ← getRticDtb_isSome_iff hheader]
  cases deviceTreeCompatible board (pool.tree dtb) (image.mem.shift dtb) dtb with
  | none => exact iff_of_false Bool.false_ne_true fun h => Bool.false_ne_true h.1
  | some entries =>
    cases entries with
    | none => cases getRticDtb (image.mem.shift dtb) <;> simp
    | some entries => simp

/-- Every tree of the scan begins where the one before ended, the first at the offset, and lies
    inside the image. -/
def ScanInside (image : KernelImage) (frame : Nat) : Prop :=
  image.scanned frame 0 = some (image.kernel + image.dtbOffset) ∧
    ∀ i dtb size, image.scanned frame i = some dtb → image.treeAt frame dtb = some size →
      image.scanned frame (i + 1) = some (dtb + size) ∧ image.kernel < dtb ∧
        dtb + size ≤ image.kernel + image.kernelSize

theorem scanInside (h : image.Started) : ScanInside image frame := by
  refine ⟨congrArg some h.first, ?_⟩
  intro i dtb size hi ht
  have hk := (KernelImage.scanned_spec h hi).2
  obtain ⟨hend, hinside, -⟩ := KernelImage.treeAt_end hk ht
  rw [KernelImage.scanned_succ hi ht, hend]
  exact ⟨rfl, hk, hinside⟩

/-- **The scans.**  The trees follow each other inside the image.  Each of the loops comes to an end
    exactly if the work on every tree of the scan does; the look-up of a property need not. -/
theorem scans_end_iff (board : Board) (image : KernelImage) (frame : Nat) (globals : DtGlobals)
    (pool : DtPool) :
    (image.Started → ScanInside image frame) ∧
      ((getSocDtb board image frame globals).isSome ↔ (image.Started → ∀ i dtb,
        image.TreeIs frame i dtb → SocReadable board (image.mem.shift dtb))) ∧
      ((deviceTreeAppended board image frame pool).isSome ↔
        (pool.queue = true → image.Started → ∀ i dtb, image.TreeIs frame i dtb →
          AppendedReadable board (pool.tree dtb) (image.mem.shift dtb) dtb)) := by
  refine ⟨scanInside, ?_⟩
  by_cases hstart : image.Started
  · have hfuel : image.kernel + image.kernelSize <
        u64 (image.kernel + image.dtbOffset) + (image.kernelSize + 1) := by
      rw [hstart.first]
      have := hstart.1
      omega
    rw [getSocDtb_eq hstart, deviceTreeAppended, Option.isSome_map]
    constructor
    · rw [KernelImage.walk_isSome_iff hstart socStep_isSome_iff _ (i := 0) rfl (by omega) hfuel]
      exact ⟨fun h _ i => h i (Nat.zero_le i), fun h i _ => h hstart i⟩
    · cases hqueue : pool.queue with
      | false => simp
      | true =>
        rw [if_neg (not_or.mpr ⟨by decide, not_or.mpr hstart⟩), Option.isSome_map,
          KernelImage.walk_isSome_iff hstart appendedStep_isSome_iff _ (i := 0) rfl
            (by omega) hfuel]
        exact ⟨fun h _ _ i => h i (Nat.zero_le i), fun h i _ => h rfl hstart i⟩
  · have hnot := or_iff_not_and_not.mpr hstart
    rw [getSocDtb_not_started hstart, deviceTreeAppended, if_pos (.inr hnot)]
    exact ⟨⟨fun _ h => absurd h hstart, fun _ => rfl⟩, ⟨fun _ _ h => absurd h hstart, fun _ => rfl⟩⟩

/-- A tree whose root has a property that reaches around to itself. -/
def loopingTree : List Nat :=
  [0xd00dfeed, 112, 56, 88, 40, 17, 16, 0, 8, 32] ++ [0, 0, 0, 0] ++ [1, 0] ++ [3, 0xfffffff4, 0] ++
    [2, 9, 0]

def loopingImage : KernelImage where
  mem := fun x => (beWords loopingTree).getD (x - 0x80000800) 0
  kernel := 0x80000000
  kernelSize := 0x800 + 112
  dtbOffset := 0x800
  kernel_lt := sampleTreeImage.kernel_lt
  kernelSize_lt := by decide
  dtbOffset_lt := sampleTreeImage.dtbOffset_lt

/-- The scans come to the tree, and every look-up of a property stays at the first one. -/
theorem scan_does_not_end :
    getSocDtb sampleBoard loopingImage 0x90000000 {} = none ∧
      deviceTreeAppended sampleBoard loopingImage 0x90000000 ⟨true, fun _ _ => true⟩ = none ∧
      loopingImage.scanned 0x90000000 0 = some 0x80000800 ∧
      loopingImage.treeAt 0x90000000 0x80000800 = some 112 ∧
      let blob := loopingImage.mem.shift 0x80000800
      fdtFirstPropertyOffset blob (fdtHeader blob) 0 = some 8 ∧
        fdtNextPropertyOffset blob (fdtHeader blob) 8 = some 8 := by
  decide +kernel

end Loops

/-! ### The reported indexes -/

section Indexes

variable {board : Board}

/-- The address of entry `i` of the table. -/
def DtboImage.tableEntry (image : DtboImage) (i : Nat) : Nat :=
  u64 (image.buffer + image.dtEntryOffset + DTBO_ENTRY_SIZE * i)

theorem DtboImage.Visits.eq_tableEntry {image : DtboImage} {i entry : Nat}
    (hfirst : image.buffer + image.dtEntryOffset < 2 ^ 64) (h : image.Visits i entry) :
    entry = image.tableEntry i := by
  induction h with
  | first => exact (Nat.mod_eq_of_lt hfirst).symm
  | next _ _ _ _ ih =>
    rw [ih]
    unfold tableEntry u64 DTBO_ENTRY_SIZE
    omega

/-- **The indexes.**  The index of the chosen tree is its position in the scan, and that of the
    chosen overlay the number of its entry in the table. -/
theorem indexes_of_chosen (board : Board) :
    (∀ image frame globals g dtb, getSocDtb board image frame globals = some (dtb, g) → dtb ≠ 0 →
      ∃ i : Nat, g.dtbIdx = i ∧ image.TreeIs frame i dtb) ∧
    (∀ image globals dtb, (getBoardDtb board image globals).result = some dtb → dtb ≠ 0 →
      ∃ i < image.dtEntryCount, (getBoardDtb board image globals).globals.dtboIdx = (i : Nat) ∧
        image.overlay (image.tableEntry i) = dtb) := by
  constructor
  · intro image frame globals g dtb h hdtb
    obtain ⟨_, hindexed⟩ := getSocDtb_invariant
      (P := fun _ best idx => best ≠ 0 → ∃ i : Nat, idx = i ∧ image.TreeIs frame i best)
      (fun h => h) (fun {i _ _} _ ht _ _ _ => ⟨i, rfl, ht⟩) (fun hne => absurd rfl hne) h
    exact hindexed hdtb
  · intro image globals dtb h hdtb
    obtain ⟨k, hk, hindexed⟩ := getBoardDtb_invariant
      (P := fun n best idx => best ≠ 0 → ∃ i < n, idx = (i : Nat) ∧
        image.overlay (image.tableEntry i) = best)
      (fun h hne => by
        obtain ⟨i, hi, hidx⟩ := h hne
        exact ⟨i, Nat.lt_succ_of_lt hi, hidx⟩)
      (fun {i _ _} hlt hvisit _ _ _ _ _ _ =>
        ⟨i, Nat.lt_succ_self i, rfl, congrArg image.overlay (hvisit.eq_tableEntry hlt).symm⟩)
      (fun hne => absurd rfl hne) h hdtb
    obtain ⟨i, hi, hidx⟩ := hindexed hdtb
    exact ⟨i, Nat.lt_of_lt_of_le hi hk, hidx⟩

/-- An overlay for the variant of the sample board. -/
def overlayTree : Bytes := fun x =>
  (beWords ([0xd00dfeed, 106, 56, 92, 40, 17, 16, 0, 14, 36] ++ [0, 0, 0, 0] ++ [1, 0] ++
    [3, 8, 0, 8, 0] ++ [2, 9]) ++ ascii "qcom,board-id").getD x 0

theorem indexes_of_chosen_sample :
    (∃ i : Nat, (0 : Int) = i ∧ sampleTreeImage.TreeIs 0x90000000 i 0x80000800) ∧
      let image := DtboImage.single overlayTree 0x80000040 (by decide)
      ∃ i < image.dtEntryCount, (getBoardDtb sampleBoard image {}).globals.dtboIdx = (i : Nat) ∧
        image.overlay (image.tableEntry i) = 0x80000040 := by
  obtain ⟨hsoc, hoverlay⟩ := indexes_of_chosen sampleBoard
  exact ⟨hsoc sampleTreeImage 0x90000000 {} { dtbIdx := 0 } _ (by decide +kernel) (by decide),
    hoverlay _ {} _ (by decide +kernel) (by decide)⟩

end Indexes

end OhMyAbl
