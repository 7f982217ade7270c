/-
  **The memory limit for the command line.**

  `GetMemoryLimit` looks up in the `offline-sizes` table of the tree how much memory is to be
  kept offline.  The table is a list of pairs, a size of the memory and what goes offline from
  that size on; it is searched backwards with an unsigned index that is always at least zero, and
  the start of the search is computed from the number of cells, not of pairs.
-/
import OhMyAbl.Base.Efi

namespace OhMyAbl

def MEM_OFF_SIZE : Nat := 16
def MEM_OFF_MIN : UInt64 := 0x180000000

/-- The `offline-sizes` property: `cell i` is `SwapBytes64 (MemTable[i])`, and the cells from
    `propLen / 8` on are whatever follows the property in memory. -/
structure OfflineSizes where
  propLen : Fin (2 ^ 31)
  cell : UInt32 → UInt64

structure MemOfflineNode where
  status : Option (List UInt8)
  offlineSizes : Option OfflineSizes

/-- What `GetMemoryLimit` asks for; `updatedRamPartitions` are the lengths of the partitions left
    after the carve-outs, when `UpdRamPartitionsAvail` is set. -/
structure MemoryEnv where
  isLEVariant : Bool
  getDdrSize : Except EfiStatus UInt64
  updatedRamPartitions : Option (List UInt64)
  memOffline : Option MemOfflineNode

-- `AsciiStrnCmp` stops at the end of either text and after the length of the property.
def MemOfflineNode.disabled (node : MemOfflineNode) : Bool :=
  node.status.any fun bytes =>
    strnCmp (bytes.takeWhile (· ≠ 0)) (ascii "disabled") bytes.length

/-- The checks before the table is read: the size of the memory and the table. -/
def MemoryEnv.offlining (env : MemoryEnv) : Except EfiStatus (UInt64 × OfflineSizes) := do
  if env.isLEVariant then throw EFI_UNSUPPORTED
  let size ← env.getDdrSize
  let ddrSize := (env.updatedRamPartitions.map List.sum).getD size
  match env.memOffline with
  | none => throw EFI_UNSUPPORTED
  | some node =>
    if node.disabled then throw EFI_UNSUPPORTED
    if ddrSize < MEM_OFF_MIN then throw EFI_UNSUPPORTED
    match node.offlineSizes with
    | none => throw EFI_UNSUPPORTED
    | some table => pure (ddrSize, table)

/-- The loop over the table from index `i` on, with the indices it compares.  The index is at
    least zero whatever it is, so the loop is left at a threshold or not at all. -/
def scanOfflineSizes (cell : UInt32 → UInt64) (ddrSize : UInt64) :
    Nat → UInt32 → Option (List UInt32 × UInt64)
  | 0, _ => none
  | fuel + 1, i =>
    if cell i ≤ ddrSize then some ([i], ddrSize - cell (i + 1))
    else (scanOfflineSizes cell ddrSize fuel (i - 2)).map fun r => (i :: r.1, r.2)

/-- The text left in `MemOffAmt`, and the indices of the table whose thresholds were compared. -/
structure PrintedLimit where
  memOffAmt : List Char
  compared : List UInt32

/-- `AsciiSPrint` of `"%luB"` into `MEM_OFF_SIZE` characters, the last of them the terminator. -/
def printLimit (memLimit : UInt64) : List Char :=
  (Nat.toDigits 10 memLimit.toNat ++ ['B']).take (MEM_OFF_SIZE - 1)

def OfflineSizes.limit (table : OfflineSizes) (ddrSize : UInt64) (fuel : Nat) :
    Option PrintedLimit :=
  if table.cell 0 ≤ ddrSize then
    (scanOfflineSizes table.cell ddrSize fuel (UInt32.ofNat (table.propLen / 8) - 2)).map
      fun r => ⟨printLimit r.2, 0 :: r.1⟩
  else some ⟨printLimit ddrSize, [0]⟩

/-- `GetMemoryLimit`; `none` while its loop is running. -/
def getMemoryLimit (env : MemoryEnv) (fuel : Nat) : Option (Except EfiStatus PrintedLimit) :=
  match env.offlining with
  | .error status => some (.error status)
  | .ok (ddrSize, table) => (table.limit ddrSize fuel).map .ok

/-! ### What the table says -/

namespace OfflineSizes

def pairs (table : OfflineSizes) : Nat := table.propLen / 8 / 2

def threshold (table : OfflineSizes) (j : Nat) : UInt64 := table.cell (UInt32.ofNat (2 * j))

def offline (table : OfflineSizes) (j : Nat) : UInt64 := table.cell (UInt32.ofNat (2 * j + 1))

def Increasing (table : OfflineSizes) : Prop :=
  ∀ j k, j < k → k < table.pairs → table.threshold j < table.threshold k

/-- Pair `j` is the last whose threshold is at most `ddrSize`. -/
def Last (table : OfflineSizes) (ddrSize : UInt64) (j : Nat) : Prop :=
  j < table.pairs ∧ table.threshold j ≤ ddrSize ∧
    ∀ k, j < k → k < table.pairs → ddrSize < table.threshold k

/-- The memory that remains: what the last such pair leaves, or all of it when there is none. -/
def Leaves (table : OfflineSizes) (ddrSize : UInt64) (limit : Nat) : Prop :=
  (∃ j, table.Last ddrSize j ∧ limit + (table.offline j).toNat = ddrSize.toNat) ∨
    (∀ j < table.pairs, ddrSize < table.threshold j) ∧ limit = ddrSize.toNat

end OfflineSizes

/-- Only whole pairs of the table were read, and the text is the limit the table gives. -/
def PrintedLimit.Correct (r : PrintedLimit) (table : OfflineSizes) (ddrSize : UInt64) : Prop :=
  (∀ i ∈ r.compared, i.toNat % 2 = 0 ∧ i.toNat + 1 < table.propLen / 8) ∧
    ∃ limit, table.Leaves ddrSize limit ∧ r.memOffAmt = Nat.toDigits 10 limit ++ ['B']

/-! ### The search -/

section Search

variable {table : OfflineSizes} {ddrSize memLimit : UInt64} {fuel limit : Nat} {r : PrintedLimit}

theorem scanOfflineSizes_start {cell : UInt32 → UInt64} {i : UInt32} {r : List UInt32 × UInt64}
    (h : scanOfflineSizes cell ddrSize fuel i = some r) : i ∈ r.1 := by
  cases fuel with
  | zero => cases h
  | succ fuel =>
    simp only [scanOfflineSizes] at h
    split at h
    · cases h
      exact List.mem_singleton_self i
    · obtain ⟨r', -, rfl⟩ := Option.map_eq_some_iff.mp h
      exact List.mem_cons_self

/-- From the cell of pair `k` the search goes down to the last pair that is reached. -/
theorem scanOfflineSizes_last {j k : Nat} (hjk : j ≤ k) (hj : table.threshold j ≤ ddrSize)
    (habove : ∀ m, j < m → m ≤ k → ddrSize < table.threshold m) :
    ∃ r, scanOfflineSizes table.cell ddrSize (k - j + 1) (UInt32.ofNat (2 * k)) = some r ∧
      r.2 = ddrSize - table.offline j ∧ ∀ i ∈ r.1, ∃ m ≤ k, i = UInt32.ofNat (2 * m) := by
  -- Upwards from `j`: the search that starts one pair higher compares one threshold more.
  induction hjk with
  | refl =>
    have hnext : UInt32.ofNat (2 * j) + 1 = UInt32.ofNat (2 * j + 1) := (UInt32.ofNat_add _ _).symm
    refine ⟨([UInt32.ofNat (2 * j)], ddrSize - table.offline j), ?_, rfl, fun i hi => ?_⟩
    · rw [Nat.sub_self, scanOfflineSizes, hnext]
      exact if_pos hj
    · exact ⟨j, Nat.le_refl _, List.mem_singleton.mp hi⟩
  | @step k hk ih =>
    have hk : j ≤ k := hk
    obtain ⟨r, hr, hlimit, hread⟩ := ih fun m hm hmk => habove m hm (by omega)
    have hnext : UInt32.ofNat (2 * (k + 1)) - 2 = UInt32.ofNat (2 * k) := by
      rw [Nat.mul_add, UInt32.ofNat_add]
      exact UInt32.add_sub_cancel _ _
    have hover : ¬ table.threshold (k + 1) ≤ ddrSize :=
      UInt64.not_le.mpr (habove (k + 1) (by omega) (Nat.le_refl _))
    refine ⟨(UInt32.ofNat (2 * (k + 1)) :: r.1, r.2), ?_, hlimit, ?_⟩
    · rw [show k + 1 - j + 1 = k - j + 1 + 1 by omega, scanOfflineSizes, hnext, hr]
      exact if_neg hover
    · intro i hi
      rcases List.mem_cons.mp hi with rfl | hi
      · exact ⟨k + 1, Nat.le_refl _, rfl⟩
      · obtain ⟨m, hm, rfl⟩ := hread i hi
        exact ⟨m, by omega, rfl⟩

theorem printLimit_of_lt (h : memLimit.toNat < 10 ^ 14) :
    printLimit memLimit = Nat.toDigits 10 memLimit.toNat ++ ['B'] := by
  have hlen := (Nat.length_toDigits_le_iff (by decide) (by decide)).mpr h
  refine List.take_of_length_le ?_
  rw [List.length_append]
  exact Nat.add_le_add_right hlen 1

theorem lt_of_printLimit (h : printLimit memLimit = Nat.toDigits 10 limit ++ ['B']) :
    limit < 10 ^ 14 := by
  have hlen := congrArg List.length h
  rw [printLimit, List.length_take, List.length_append, List.length_append] at hlen
  refine (Nat.length_toDigits_le_iff (by decide : 1 < 10) (by decide)).mp ?_
  simp only [MEM_OFF_SIZE, List.length_singleton] at hlen
  omega

theorem toNat_ofNat_index {n : Nat} (h : n < 2 ^ 28) : (UInt32.ofNat n).toNat = n :=
  UInt32.toNat_ofNat_of_lt' (by simp only [UInt32.size]; omega)

theorem OfflineSizes.start (hpair : 1 < table.propLen.val / 8) :
    UInt32.ofNat (table.propLen / 8) - 2 = UInt32.ofNat (table.propLen / 8 - 2) :=
  (UInt32.ofNat_sub hpair).symm

/-- A search that reads only whole pairs starts at a pair, so there is no trailing cell. -/
theorem OfflineSizes.even_of_limit (hle : table.cell 0 ≤ ddrSize)
    (h : table.limit ddrSize fuel = some r) (hpair : 1 < table.propLen.val / 8)
    (hread : ∀ i ∈ r.compared, i.toNat % 2 = 0) : table.propLen.val / 8 % 2 = 0 := by
  rw [OfflineSizes.limit, if_pos hle, OfflineSizes.start hpair] at h
  obtain ⟨r', hscan, rfl⟩ := Option.map_eq_some_iff.mp h
  have hstart := hread _ (List.mem_cons_of_mem _ (scanOfflineSizes_start hscan))
  rw [toNat_ofNat_index (by omega)] at hstart
  omega

theorem OfflineSizes.limit_reads (h : table.limit ddrSize fuel = some r) :
    0 ∈ r.compared ∧ ∃ memLimit, r.memOffAmt = printLimit memLimit := by
  rw [OfflineSizes.limit] at h
  split at h
  · obtain ⟨r', -, rfl⟩ := Option.map_eq_some_iff.mp h
    exact ⟨List.mem_cons_self, r'.2, rfl⟩
  · cases h
    exact ⟨List.mem_singleton_self 0, ddrSize, rfl⟩

/-- Below the first threshold no pair is reached. -/
theorem OfflineSizes.Increasing.leaves_all (hinc : table.Increasing)
    (hlt : ddrSize < table.threshold 0) (h : table.Leaves ddrSize limit) :
    limit = ddrSize.toNat := by
  rcases h with ⟨j, ⟨hj, hle, -⟩, -⟩ | ⟨-, h⟩
  · rcases Nat.eq_zero_or_pos j with rfl | hpos
    · exact absurd hle (UInt64.not_le.mpr hlt)
    · exact absurd (UInt64.lt_of_lt_of_le (UInt64.lt_trans hlt (hinc 0 j hpos hj)) hle)
        (UInt64.lt_irrefl _)
  · exact h

/-- The search of a table without a trailing cell. -/
theorem OfflineSizes.limit_of_reached (hle : table.cell 0 ≤ ddrSize)
    (hpair : 1 < table.propLen.val / 8) (heven : table.propLen.val / 8 % 2 = 0)
    (hfits : limit < 10 ^ 14) (hleaves : table.Leaves ddrSize limit) :
    ∃ fuel r, table.limit ddrSize fuel = some r ∧ r.Correct table ddrSize := by
  have hpairs : table.pairs = table.propLen.val / 8 / 2 := rfl
  rcases id hleaves with ⟨j, ⟨hj, hreach, habove⟩, hsum⟩ | ⟨hnone, -⟩
  · obtain ⟨r, hscan, hlimit, hread⟩ := scanOfflineSizes_last (k := table.pairs - 1) (by omega)
      hreach fun m hm hmk => habove m hm (by omega)
    have hstart : 2 * (table.pairs - 1) = table.propLen.val / 8 - 2 := by omega
    have hvalue : r.2.toNat = limit := by
      rw [hlimit, UInt64.toNat_sub_of_le _ _ (UInt64.le_iff_toNat_le.mpr (by omega))]
      omega
    refine ⟨table.pairs - 1 - j + 1, ⟨printLimit r.2, 0 :: r.1⟩, ?_, ?_, limit, hleaves, ?_⟩
    · rw [OfflineSizes.limit, if_pos hle, OfflineSizes.start hpair, ← hstart, hscan]
      rfl
    · intro i hi
      rcases List.mem_cons.mp hi with rfl | hi
      · exact ⟨rfl, hpair⟩
      · obtain ⟨m, hm, rfl⟩ := hread i hi
        rw [toNat_ofNat_index (by omega)]
        omega
    · rw [← hvalue] at hfits ⊢
      exact printLimit_of_lt hfits
  · exact absurd hle (UInt64.not_le.mpr (hnone 0 (by omega)))

end Search

/-- **The limit is right for a table of whole pairs.**  With increasing thresholds, the search
    ends, reads only whole pairs and prints the limit the table gives exactly when the table has a
    pair, has no trailing cell unless the first threshold is not even reached, and leaves a number
    of at most 14 digits. -/
theorem getMemoryLimit_correct_iff {env : MemoryEnv} {ddrSize : UInt64} {table : OfflineSizes}
    (hsupported : env.offlining = .ok (ddrSize, table)) (hinc : table.Increasing) :
    (∃ fuel r, getMemoryLimit env fuel = some (.ok r) ∧ r.Correct table ddrSize) ↔
      1 < table.propLen.val / 8 ∧ (table.cell 0 ≤ ddrSize → table.propLen.val / 8 % 2 = 0) ∧
        ∃ limit < 10 ^ 14, table.Leaves ddrSize limit := by
  have hrun : ∀ fuel, getMemoryLimit env fuel = (table.limit ddrSize fuel).map .ok := by
    intro fuel
    rw [getMemoryLimit, hsupported]
  constructor
  · rintro ⟨fuel, r, h, hr⟩
    rw [hrun] at h
    obtain ⟨r', hr', heq⟩ := Option.map_eq_some_iff.mp h
    cases heq
    obtain ⟨hread, limit, hleaves, htext⟩ := hr
    obtain ⟨hzero, memLimit, hprint⟩ := OfflineSizes.limit_reads hr'
    have hpair := (hread 0 hzero).2
    exact ⟨hpair, fun hle => OfflineSizes.even_of_limit hle hr' hpair fun i hi => (hread i hi).1,
      limit, lt_of_printLimit (hprint.symm.trans htext), hleaves⟩
  · rintro ⟨hpair, heven, limit, hfits, hleaves⟩
    suffices ∃ fuel r, table.limit ddrSize fuel = some r ∧ r.Correct table ddrSize by
      obtain ⟨fuel, r, h, hr⟩ := this
      exact ⟨fuel, r, by rw [hrun, h]; rfl, hr⟩
    by_cases hle : table.cell 0 ≤ ddrSize
    · exact OfflineSizes.limit_of_reached hle hpair (heven hle) hfits hleaves
    · have hall := hinc.leaves_all (UInt64.not_le.mp hle) hleaves
      subst hall
      refine ⟨0, _, if_neg hle, fun i hi => ?_, ddrSize.toNat, hleaves, printLimit_of_lt hfits⟩
      rw [List.mem_singleton.mp hi]
      exact ⟨rfl, hpair⟩

/-- A device with 8 GiB of memory and the given table. -/
def sampleMemory (propLen : Fin (2 ^ 31)) (cells : List UInt64) : MemoryEnv where
  isLEVariant := false
  getDdrSize := .ok 0x200000000
  updatedRamPartitions := none
  memOffline := some ⟨some (ascii "okay"), some ⟨propLen, fun i => cells.getD i.toNat 0⟩⟩

theorem getMemoryLimit_correct_two_pairs :
    ∃ fuel r, getMemoryLimit (sampleMemory 32 [0x180000000, 0x40000000, 0x200000000, 0x80000000])
        fuel = some (.ok r) ∧
      r.Correct ⟨32, fun i =>
        [0x180000000, 0x40000000, 0x200000000, 0x80000000].getD i.toNat 0⟩ 0x200000000 := by
  refine (getMemoryLimit_correct_iff rfl ?_).mpr ⟨by decide, fun _ => by decide, 0x180000000,
    by decide, .inl ⟨1, ⟨by decide, by decide, ?_⟩, by decide⟩⟩
  · intro j k hjk hk
    have hk' : k < 2 := hk
    obtain ⟨rfl, rfl⟩ : j = 0 ∧ k = 1 := by omega
    decide
  · intro k hk hlt
    have hlt' : k < 2 := hlt
    omega

/-- A table of one pair and a trailing cell: the search starts at the offline size. -/
theorem getMemoryLimit_trailing_cell :
    let env := sampleMemory 24 [0x180000000, 0x40000000, 0]
    let table : OfflineSizes := ⟨24, fun i => [0x180000000, 0x40000000, 0].getD i.toNat 0⟩
    env.offlining = .ok (0x200000000, table) ∧ table.Increasing ∧
      (∃ r, getMemoryLimit env 1 = some (.ok r) ∧ r.memOffAmt = "8589934592B".toList) ∧
      ¬ ∃ fuel r, getMemoryLimit env fuel = some (.ok r) ∧ r.Correct table 0x200000000 := by
  refine ⟨rfl, fun j k hjk hk => ?_, ⟨_, rfl, by decide⟩, ?_⟩
  · have hk' : k < 1 := hk
    omega
  · rintro ⟨fuel, r, h, hread, -⟩
    cases fuel with
    | zero => cases h
    | succ fuel =>
      cases h
      exact absurd (hread 1 (by decide)).1 (by decide)

end OhMyAbl
