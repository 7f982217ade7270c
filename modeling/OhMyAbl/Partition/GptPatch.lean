/-
  **Growing the last partition of a table.**

  `PatchGpt` counts the used entries at the start of the primary array, and stores the new last
  block at one offset of both arrays.  That grows both (`ArrayGrown`) if their leading runs agree;
  in a table without a used entry the offset wraps around.
-/
import OhMyAbl.Partition.GptUpdate

namespace OhMyAbl

open Prog Bytes

/-! ### What growing the last partition means -/

variable (io : BlockIo)

def patchedLastUsable : Nat :=
  u64Sub (io.getPartitionSize / io.blockSize)
    (MAX_PARTITION_ENTRIES_SZ / io.blockSize + GPT_HDR_BLOCKS + 1)

def firstArray : Nat := io.blockSize + io.blockSize

def secondArray : Nat := firstArray io + MIN_PARTITION_ARRAY_SIZE

def InArray (start a : Nat) : Prop := start ≤ a ∧ a < start + MIN_PARTITION_ARRAY_SIZE

def InHeader (hdr a : Nat) : Prop := hdr ≤ a ∧ a < hdr + GPT_HEADER_SIZE

def lastLbaField (start n : Nat) : Nat :=
  start + (n - 1) * PARTITION_ENTRY_SIZE + PARTITION_ENTRY_LAST_LBA

/-- The used entries at the start of each array, as far as the header of the array goes. -/
def primaryRun (g : Bytes) : Nat :=
  entryCount g (firstArray io) (headerData g io.blockSize).maxPtCnt

def backupRun (g : Bytes) : Nat :=
  entryCount g (secondArray io) (headerData g (backupOffset io.blockSize)).maxPtCnt

/-- Only the last-LBA field of the last of `run` entries has changed, and it holds `v`. -/
structure ArrayGrown (v : Nat) (g g' : Bytes) (start run : Nat) : Prop where
  grown : run ≠ 0 → g'.u64At (lastLbaField start run) = v
  kept : ∀ a, InArray start a →
    (run = 0 ∨ a < lastLbaField start run ∨ lastLbaField start run + 8 ≤ a) → g' a = g a

/-- The last partition of each array was grown, and nothing else but the headers changed. -/
structure LastGrown (io : BlockIo) (g g' : Bytes) : Prop where
  primary : ArrayGrown (patchedLastUsable io) g g' (firstArray io) (primaryRun io g)
  backup : ArrayGrown (patchedLastUsable io) g g' (secondArray io) (backupRun io g)
  others : ∀ a, ¬ InHeader io.blockSize a → ¬ InHeader (backupOffset io.blockSize) a →
    ¬ InArray (firstArray io) a → ¬ InArray (secondArray io) a → g' a = g a

/-! ### When one offset is right for both arrays -/

/-- The used entries at the start of the primary array, as far as the backup header goes. -/
def scannedRun (g : Bytes) : Nat :=
  entryCount g (firstArray io) (headerData g (backupOffset io.blockSize)).maxPtCnt

def EndsAt (v : Nat) (g : Bytes) (start n : Nat) : Prop :=
  n = 0 ∨ g.u64At (lastLbaField start n) = v

def wrappedField (start : Nat) : Nat := start + (2 ^ 32 - 88)

/-- The image has a used entry, and both arrays have the run that is scanned; or the fields that
    should be stored, and those that are, hold the new last block already. -/
structure RunsAgree (io : BlockIo) (g : Bytes) : Prop where
  used : scannedRun io g ≠ 0 ∨
    (g.u64At (wrappedField (firstArray io)) = patchedLastUsable io ∧
      g.u64At (wrappedField (secondArray io)) = patchedLastUsable io)
  primary : primaryRun io g = scannedRun io g ∨
    (EndsAt (patchedLastUsable io) g (firstArray io) (primaryRun io g) ∧
      EndsAt (patchedLastUsable io) g (firstArray io) (scannedRun io g))
  backup : backupRun io g = scannedRun io g ∨
    (EndsAt (patchedLastUsable io) g (secondArray io) (backupRun io g) ∧
      EndsAt (patchedLastUsable io) g (secondArray io) (scannedRun io g))

section Arrays

variable {g g' : Bytes} {v start run n : Nat}

theorem entryCount_congr : ∀ (n start : Nat),
    (∀ a, start ≤ a → a < start + n * PARTITION_ENTRY_SIZE → g' a = g a) →
      entryCount g' start n = entryCount g start n
  | 0, _, _ => rfl
  | n + 1, start, h => by
    simp only [PARTITION_ENTRY_SIZE] at h
    have hlow : g'.u64At start = g.u64At start :=
      u64At_congr fun i hi => h _ (by omega) (by omega)
    have hhigh : g'.u64At (start + 8) = g.u64At (start + 8) :=
      u64At_congr fun i hi => h _ (by omega) (by omega)
    have hrest : entryCount g' (start + PARTITION_ENTRY_SIZE) n =
        entryCount g (start + PARTITION_ENTRY_SIZE) n := by
      apply entryCount_congr
      intro a ha ha'
      simp only [PARTITION_ENTRY_SIZE] at ha ha'
      exact h a (by omega) (by omega)
    rw [entryCount, entryCount, hlow, hhigh, hrest]

theorem inArray_field (hn : n ≤ 128) (i : Nat) (hi : i < 8) :
    InArray start (lastLbaField start n + i) := by
  simp only [InArray, lastLbaField, PARTITION_ENTRY_SIZE, PARTITION_ENTRY_LAST_LBA,
    MIN_PARTITION_ARRAY_SIZE]
  omega

theorem fields_apart (h : run ≠ n) (hrun : run ≠ 0) (hn : n ≠ 0) :
    lastLbaField start n + 8 ≤ lastLbaField start run ∨
      lastLbaField start run + 8 ≤ lastLbaField start n := by
  simp only [lastLbaField, PARTITION_ENTRY_SIZE]
  omega

def growEntry (v : Nat) (g : Bytes) (start n : Nat) : Bytes :=
  if n = 0 then g else g.put (lastLbaField start n) 8 v

theorem growEntry_outside {a : Nat}
    (h : n = 0 ∨ a < lastLbaField start n ∨ lastLbaField start n + 8 ≤ a) :
    growEntry v g start n a = g a := by
  unfold growEntry
  split
  · rfl
  · rename_i hne
    exact overwrite_outside (h.resolve_left hne)

theorem growEntry_of_endsAt (h : EndsAt v g start n) : growEntry v g start n = g := by
  unfold growEntry
  split
  · rfl
  · rename_i hne
    exact put_of_u64At (h.resolve_left hne)

theorem arrayGrown_iff (hv : v < 2 ^ 64) (hrun : run ≤ 128) (hn : n ≤ 128)
    (h : ∀ a, InArray start a → g' a = growEntry v g start n a) :
    ArrayGrown v g g' start run ↔ run = n ∨ (EndsAt v g start run ∧ EndsAt v g start n) := by
  have hword : ∀ {m}, m ≤ 128 → g'.u64At (lastLbaField start m) =
      (growEntry v g start n).u64At (lastLbaField start m) := fun hm =>
    u64At_congr fun i hi => h _ (inArray_field hm i hi)
  have hself : n ≠ 0 → (growEntry v g start n).u64At (lastLbaField start n) = v := by
    intro hne
    rw [growEntry, if_neg hne]
    exact u64At_put hv
  constructor
  · intro hgrown
    by_cases heq : run = n
    · exact .inl heq
    · right
      constructor
      · by_cases hzero : run = 0
        · exact .inl hzero
        · right
          rw [← hgrown.grown hzero, hword hrun]
          apply u64At_congr
          intro i hi
          rw [growEntry_outside]
          by_cases hne : n = 0
          · exact .inl hne
          · have hapart := @fields_apart start run n heq hzero hne
            omega
      · by_cases hne : n = 0
        · exact .inl hne
        · right
          rw [← hself hne, ← hword hn]
          apply u64At_congr
          intro i hi
          refine (hgrown.kept _ (inArray_field hn i hi) ?_).symm
          by_cases hzero : run = 0
          · exact .inl hzero
          · have hapart := @fields_apart start run n heq hzero hne
            omega
  · rintro (rfl | ⟨hends, hstored⟩)
    · refine ⟨fun hne => (hword hrun).trans (hself hne), fun a ha hout => ?_⟩
      rw [h a ha, growEntry_outside hout]
    · rw [growEntry_of_endsAt hstored] at h hword
      refine ⟨fun hne => ?_, fun a ha _ => h a ha⟩
      rw [hword hrun]
      exact hends.resolve_left hne

end Arrays

/-! ### The stores of `PatchGpt` -/

section Patch

variable {env : GptEnv} {s : GptState} {primary secondary : Nat}

def KeepsOutside (primary secondary : Nat) (s s' : GptState) : Prop :=
  ∀ a, ¬ InHeader primary a → ¬ InHeader secondary a → s'.image a = s.image a

instance : Std.Refl (KeepsOutside primary secondary) := ⟨fun _ _ _ _ => rfl⟩

instance : IsTrans GptState (KeepsOutside primary secondary) :=
  ⟨fun _ _ _ h h' a hp hs => (h' a hp hs).trans (h a hp hs)⟩

variable {hdr n off v numSectors ptnEntryBlks first a : Nat}

theorem putImage_outside (hhdr : hdr = primary ∨ hdr = secondary) (h : off + n ≤ GPT_HEADER_SIZE) :
    Steps (KeepsOutside primary secondary) (putImage (hdr + off) n v) := by
  apply Steps.modify
  intro s a hp hs
  apply overwrite_outside
  have hout : ¬ InHeader hdr a := by
    rcases hhdr with rfl | rfl
    · exact hp
    · exact hs
  simp only [InHeader] at hout
  omega

theorem patchHeaders_outside :
    Steps (KeepsOutside primary secondary)
      (patchHeaders numSectors ptnEntryBlks primary secondary) :=
  .bind (putImage_outside (.inl rfl) (by decide)) fun _ =>
    .bind (putImage_outside (.inl rfl) (by decide)) fun _ =>
    .bind (putImage_outside (.inr rfl) (by decide)) fun _ =>
    .bind (putImage_outside (.inr rfl) (by decide)) fun _ =>
    putImage_outside (.inr rfl) (by decide)

theorem patchHeaders_returns :
    Raises (fun _ => False) (patchHeaders numSectors ptnEntryBlks primary secondary) :=
  fun _ => trivial

theorem patchCrcs_outside {entries partEntryArrSz arraySz : Nat} :
    Steps (KeepsOutside primary secondary)
      (patchCrcs env primary secondary entries partEntryArrSz arraySz) := by
  refine patchCrcs_steps fun hhdr hoff => putImage_outside hhdr ?_
  rcases hoff with rfl | rfl
  · decide
  · decide

def storeLast (v first n : Nat) (g : Bytes) : Bytes :=
  let off := u32 (n * PARTITION_ENTRY_SIZE + (2 ^ 32 - PARTITION_ENTRY_SIZE) +
    PARTITION_ENTRY_LAST_LBA)
  (g.put (first + off) 8 v).put (first + off + MIN_PARTITION_ARRAY_SIZE) 8 v

theorem patchLastPartition_stores {cnt : Nat} :
    wp (patchLastPartition numSectors ptnEntryBlks first MIN_PARTITION_ARRAY_SIZE cnt)
      (fun _ s' => s'.image = storeLast (u64Sub numSectors (ptnEntryBlks + 1)) first
        (entryCount s.image first cnt) s.image) noExit s := by
  simp [patchLastPartition, putImage, storeLast]

theorem storeLast_congr {g g' : Bytes} (h : g' a = g a) :
    storeLast v first n g' a = storeLast v first n g a := by
  simp [storeLast, put, overwrite, h]

theorem array_not_header {io : BlockIo} (hmin : GPT_HEADER_SIZE ≤ io.blockSize)
    (h : InArray (firstArray io) a ∨ InArray (secondArray io) a) :
    ¬ InHeader io.blockSize a ∧ ¬ InHeader (backupOffset io.blockSize) a := by
  simp only [InArray, InHeader, firstArray, secondArray, backupOffset, MIN_PARTITION_ARRAY_SIZE,
    GPT_HEADER_SIZE, u32] at *
  omega

theorem patchedImage_outside
    (hbackup : HeaderAccepted env s.image true (backupOffset env.blockIo.blockSize))
    (hp : ¬ InHeader env.blockIo.blockSize a)
    (hs : ¬ InHeader (backupOffset env.blockIo.blockSize) a) :
    patchedImage env s a = storeLast (patchedLastUsable env.blockIo) (firstArray env.blockIo)
      (scannedRun env.blockIo s.image) s.image a := by
  have hcount := hbackup.maxPtCnt
  have hmin := Nat.le_trans hbackup.headerSz.1 hbackup.headerSz.2
  generalize hstored : storeLast (patchedLastUsable env.blockIo) (firstArray env.blockIo)
    (scannedRun env.blockIo s.image) s.image a = stored
  suffices hwp : wp (patchGpt env env.blockIo.getPartitionSize MIN_PARTITION_ARRAY_SIZE
      (headerData s.image (backupOffset env.blockIo.blockSize)) env.blockIo.blockSize)
      (fun _ s' => s'.image a = stored) (fun _ s' => s'.image a = stored)
      { s with flashingGpt := true, parseSecondaryGpt := true } from
    wp_final (R := fun s' : GptState => s'.image a = stored) hwp
  rw [patchGpt, wp_bind]
  refine wp_mono (wp_of_steps_raises patchHeaders_outside patchHeaders_returns) ?_
    fun _ _ h => h.2.elim
  intro _ s₁ hheaders
  -- the headers are patched: the entries that are counted are those of the image
  have hscan : entryCount s₁.image (firstArray env.blockIo)
      (headerData s.image (backupOffset env.blockIo.blockSize)).maxPtCnt =
      scannedRun env.blockIo s.image := by
    apply entryCount_congr
    intro b hb hb'
    have harray : InArray (firstArray env.blockIo) b := by
      simp only [InArray, GPT_PART_ENTRY_SIZE, PARTITION_ENTRY_SIZE] at hcount hb' ⊢
      omega
    have hout := array_not_header hmin (.inl harray)
    exact hheaders b hout.1 hout.2
  rw [wp_bind]
  refine wp_mono patchLastPartition_stores ?_ fun _ _ h => h.elim
  intro _ s₂ hlast
  have hkept : s₂.image a = stored := by
    rw [hlast, ← hstored, ← hscan]
    exact storeLast_congr (hheaders a hp hs)
  exact wp_mono (wp_of_steps patchCrcs_outside) (fun _ _ h => (h a hp hs).trans hkept)
    fun _ _ h => (h a hp hs).trans hkept

end Patch

/-! ### Where the last block is stored -/

section Stores

variable {g : Bytes} {v first n a : Nat}

theorem storeLast_used (hn : n ≠ 0) (hle : n ≤ 128) :
    storeLast v first n g = (g.put (lastLbaField first n) 8 v).put
      (lastLbaField (first + MIN_PARTITION_ARRAY_SIZE) n) 8 v := by
  have hfirst : first + u32 (n * PARTITION_ENTRY_SIZE + (2 ^ 32 - PARTITION_ENTRY_SIZE) +
      PARTITION_ENTRY_LAST_LBA) = lastLbaField first n := by
    simp only [u32, PARTITION_ENTRY_SIZE, PARTITION_ENTRY_LAST_LBA, lastLbaField]
    omega
  have hsecond : lastLbaField first n + MIN_PARTITION_ARRAY_SIZE =
      lastLbaField (first + MIN_PARTITION_ARRAY_SIZE) n := by
    simp only [lastLbaField]
    omega
  rw [storeLast, hfirst, hsecond]

theorem storeLast_none : storeLast v first 0 g =
    (g.put (wrappedField first) 8 v).put (wrappedField (first + MIN_PARTITION_ARRAY_SIZE)) 8 v := by
  have hoff : u32 (0 * PARTITION_ENTRY_SIZE + (2 ^ 32 - PARTITION_ENTRY_SIZE) +
      PARTITION_ENTRY_LAST_LBA) = 2 ^ 32 - 88 := by decide
  rw [storeLast, hoff, wrappedField, wrappedField, Nat.add_right_comm first]

theorem storeLast_kept (ha : InArray first a ∨ InArray (first + MIN_PARTITION_ARRAY_SIZE) a) :
    storeLast v first 0 g a = g a := by
  rw [storeLast_none]
  simp only [InArray, MIN_PARTITION_ARRAY_SIZE, wrappedField, put] at ha ⊢
  rw [overwrite_outside (by omega), overwrite_outside (by omega)]

theorem storeLast_first (hle : n ≤ 128) (ha : InArray first a) :
    storeLast v first n g a = growEntry v g first n a := by
  by_cases hn : n = 0
  · rw [hn, storeLast_kept (.inl ha), growEntry, if_pos rfl]
  · rw [storeLast_used hn hle, growEntry, if_neg hn, put, overwrite_outside]
    left
    simp only [InArray, lastLbaField] at ha ⊢
    omega

theorem storeLast_second (hle : n ≤ 128) (ha : InArray (first + MIN_PARTITION_ARRAY_SIZE) a) :
    storeLast v first n g a = growEntry v g (first + MIN_PARTITION_ARRAY_SIZE) n a := by
  by_cases hn : n = 0
  · rw [hn, storeLast_kept (.inr ha), growEntry, if_pos rfl]
  · have hfirst : g.put (lastLbaField first n) 8 v a = g a := by
      apply overwrite_outside
      right
      simp only [InArray, lastLbaField, PARTITION_ENTRY_LAST_LBA, PARTITION_ENTRY_SIZE,
        MIN_PARTITION_ARRAY_SIZE] at ha ⊢
      omega
    rw [storeLast_used hn hle, growEntry, if_neg hn]
    simp only [put, overwrite] at hfirst ⊢
    rw [hfirst]

theorem storeLast_others (hn : n ≠ 0) (hle : n ≤ 128) (ha : ¬ InArray first a)
    (ha' : ¬ InArray (first + MIN_PARTITION_ARRAY_SIZE) a) : storeLast v first n g a = g a := by
  have hout : ∀ start, ¬ InArray start a →
      a < lastLbaField start n ∨ lastLbaField start n + 8 ≤ a := by
    intro start hstart
    simp only [InArray, lastLbaField, PARTITION_ENTRY_LAST_LBA, PARTITION_ENTRY_SIZE,
      MIN_PARTITION_ARRAY_SIZE] at hstart ⊢
    omega
  rw [storeLast_used hn hle, put, overwrite_outside (hout _ ha'), put,
    overwrite_outside (hout _ ha)]

end Stores

section Grows

variable {env : GptEnv} {s : GptState}

theorem patchedLastUsable_lt (io : BlockIo) : patchedLastUsable io < 2 ^ 64 :=
  Nat.mod_lt _ (Nat.two_pow_pos 64)

theorem entryCount_le_of_accepted {g : Bytes} {flag : Bool} {hdr : Nat} (start : Nat)
    (h : HeaderAccepted env g flag hdr) : entryCount g start (headerData g hdr).maxPtCnt ≤ 128 :=
  Nat.le_trans (entryCount_le _ _) h.maxPtCnt

theorem others_iff (hscan : scannedRun env.blockIo s.image ≤ 128)
    (houtside : ∀ a, ¬ InHeader env.blockIo.blockSize a →
      ¬ InHeader (backupOffset env.blockIo.blockSize) a →
      patchedImage env s a = storeLast (patchedLastUsable env.blockIo) (firstArray env.blockIo)
        (scannedRun env.blockIo s.image) s.image a) :
    (∀ a, ¬ InHeader env.blockIo.blockSize a → ¬ InHeader (backupOffset env.blockIo.blockSize) a →
      ¬ InArray (firstArray env.blockIo) a → ¬ InArray (secondArray env.blockIo) a →
        patchedImage env s a = s.image a) ↔
    scannedRun env.blockIo s.image ≠ 0 ∨
      (s.image.u64At (wrappedField (firstArray env.blockIo)) = patchedLastUsable env.blockIo ∧
        s.image.u64At (wrappedField (secondArray env.blockIo)) =
          patchedLastUsable env.blockIo) := by
  by_cases hzero : scannedRun env.blockIo s.image = 0
  · have hv := patchedLastUsable_lt env.blockIo
    rw [hzero, storeLast_none] at houtside
    simp only [hzero, ne_eq, not_true_eq_false, false_or]
    constructor
    · intro hkept
      -- both words lie outside of the headers and of the arrays
      have hword : ∀ b, b = wrappedField (firstArray env.blockIo) ∨
          b = wrappedField (secondArray env.blockIo) → ∀ i < 8,
          s.image (b + i) = ((s.image.put (wrappedField (firstArray env.blockIo)) 8
            (patchedLastUsable env.blockIo)).put (wrappedField (secondArray env.blockIo)) 8
            (patchedLastUsable env.blockIo)) (b + i) := by
        intro b hb i hi
        have hfar : ¬ InHeader env.blockIo.blockSize (b + i) ∧
            ¬ InHeader (backupOffset env.blockIo.blockSize) (b + i) ∧
            ¬ InArray (firstArray env.blockIo) (b + i) ∧
            ¬ InArray (secondArray env.blockIo) (b + i) := by
          simp only [InArray, InHeader, firstArray, secondArray, backupOffset, wrappedField,
            MIN_PARTITION_ARRAY_SIZE, GPT_HEADER_SIZE, u32] at *
          omega
        rw [← hkept _ hfar.1 hfar.2.1 hfar.2.2.1 hfar.2.2.2]
        exact houtside _ hfar.1 hfar.2.1
      constructor
      · rw [u64At_congr (hword _ (.inl rfl)), put, u64At_overwrite_outside]
        · exact u64At_put hv
        · simp only [wrappedField, secondArray, MIN_PARTITION_ARRAY_SIZE]
          omega
      · rw [u64At_congr (hword _ (.inr rfl))]
        exact u64At_put hv
    · rintro ⟨hfirst, hsecond⟩ a hp hs - -
      rw [houtside a hp hs, put_of_u64At hfirst]
      exact congrFun (put_of_u64At hsecond) a
  · simp only [ne_eq, hzero, not_false_eq_true, true_or, iff_true]
    intro a hp hs ha ha'
    rw [houtside a hp hs]
    exact storeLast_others hzero hscan ha ha'

end Grows

/-- **Growing the last partition.**  For an image with two accepted headers `PatchGpt` changes in
    each entry array only the last-LBA field of the last entry of the leading run, and elsewhere
    only the headers, exactly if there is a used entry and the runs of both arrays are the one that
    is scanned, fields that hold the new value already aside. -/
theorem patchGpt_grows_iff (env : GptEnv) (s : GptState)
    (hprimary : HeaderAccepted env s.image s.parseSecondaryGpt env.blockIo.blockSize)
    (hbackup : HeaderAccepted env s.image true (backupOffset env.blockIo.blockSize)) :
    LastGrown env.blockIo s.image (patchedImage env s) ↔ RunsAgree env.blockIo s.image := by
  have hmin := Nat.le_trans hbackup.headerSz.1 hbackup.headerSz.2
  have hv := patchedLastUsable_lt env.blockIo
  have hscan : scannedRun env.blockIo s.image ≤ 128 := entryCount_le_of_accepted _ hbackup
  have houtside : ∀ a, ¬ InHeader env.blockIo.blockSize a →
      ¬ InHeader (backupOffset env.blockIo.blockSize) a → _ :=
    fun a hp hs => patchedImage_outside hbackup hp hs
  have hinfirst : ∀ a, InArray (firstArray env.blockIo) a → patchedImage env s a =
      growEntry (patchedLastUsable env.blockIo) s.image (firstArray env.blockIo)
        (scannedRun env.blockIo s.image) a := by
    intro a ha
    have hheaders := array_not_header hmin (.inl ha)
    rw [houtside a hheaders.1 hheaders.2]
    exact storeLast_first hscan ha
  have hinsecond : ∀ a, InArray (secondArray env.blockIo) a → patchedImage env s a =
      growEntry (patchedLastUsable env.blockIo) s.image (secondArray env.blockIo)
        (scannedRun env.blockIo s.image) a := by
    intro a ha
    have hheaders := array_not_header hmin (.inr ha)
    rw [houtside a hheaders.1 hheaders.2]
    exact storeLast_second hscan ha
  have hfirst := arrayGrown_iff hv
    (entryCount_le_of_accepted (firstArray env.blockIo) hprimary) hscan hinfirst
  have hsecond := arrayGrown_iff hv
    (entryCount_le_of_accepted (secondArray env.blockIo) hbackup) hscan hinsecond
  have hothers := others_iff hscan houtside
  constructor
  · intro h
    exact ⟨hothers.mp h.others, hfirst.mp h.primary, hsecond.mp h.backup⟩
  · intro h
    exact ⟨hfirst.mpr h.primary, hsecond.mpr h.backup, hothers.mpr h.used⟩

theorem patchGpt_grows_sample :
    HeaderAccepted sampleGptEnv sampleGptState.image false 512 ∧
      HeaderAccepted sampleGptEnv sampleGptState.image true (backupOffset 512) ∧
      LastGrown sampleGptEnv.blockIo sampleGptState.image
        (patchedImage sampleGptEnv sampleGptState) := by
  have hprimary : HeaderAccepted sampleGptEnv sampleGptState.image false 512 := by decide +kernel
  have hbackup : HeaderAccepted sampleGptEnv sampleGptState.image true (backupOffset 512) := by
    decide +kernel
  have hscanned : scannedRun sampleGptEnv.blockIo sampleGptState.image = 1 := by decide +kernel
  have hfirst : primaryRun sampleGptEnv.blockIo sampleGptState.image = 1 := by decide +kernel
  have hsecond : backupRun sampleGptEnv.blockIo sampleGptState.image = 1 := by decide +kernel
  refine ⟨hprimary, hbackup, (patchGpt_grows_iff _ _ hprimary hbackup).mpr ⟨.inl ?_, ?_, ?_⟩⟩
  · decide
  · exact .inl (hfirst.trans hscanned.symm)
  · exact .inl (hsecond.trans hscanned.symm)

def emptyGptState : GptState :=
  { sampleGptState with
    image := (sampleGpt.put 1024 1 0).put (1024 + MIN_PARTITION_ARRAY_SIZE) 1 0 }

def unevenGptState : GptState :=
  { sampleGptState with image := sampleGpt.put 1024 1 0 }

/-- Without a used entry eight bytes far behind the image are overwritten, and a partition of the
    backup array alone is not grown. -/
theorem patchGpt_stores_outside :
    HeaderAccepted sampleGptEnv emptyGptState.image false 512 ∧
      HeaderAccepted sampleGptEnv emptyGptState.image true (backupOffset 512) ∧
      emptyGptState.image.u64At (1024 + (2 ^ 32 - 88)) = 0 ∧
      (patchedImage sampleGptEnv emptyGptState).u64At (1024 + (2 ^ 32 - 88)) = 966 ∧
      HeaderAccepted sampleGptEnv unevenGptState.image false 512 ∧
      HeaderAccepted sampleGptEnv unevenGptState.image true (backupOffset 512) ∧
      backupRun sampleGptEnv.blockIo unevenGptState.image = 1 ∧
      (patchedImage sampleGptEnv unevenGptState).u64At
        (lastLbaField (secondArray sampleGptEnv.blockIo) 1) = 0 := by
  decide +kernel

end OhMyAbl
