/-
  **What `UpdatePartitionTable` reports.**

  The checks of `WriteGpt` all come before the erase.  Where the device was not found alone,
  `WriteGpt` returns the status of the lookup, and a lookup that finds no device, or two, succeeds.
-/
import OhMyAbl.Partition.Gpt

namespace OhMyAbl

open Prog

/-! ### What is checked -/

/-- An image that passes the checks of `UpdatePartitionTable` for the device. -/
structure ImageAccepted (env : GptEnv) (sz : Nat) (s : GptState) : Prop extends
    PrimaryAccepted env sz s where
  type : partitionGetType s.image sz = some true
  backup : HeaderAccepted env s.image true (backupOffset env.blockIo.blockSize)

def UniqueDevice (env : GptEnv) : Prop := env.getStorageHandle = EFI_SUCCESS ∧ env.maxHandles = 1

def patchedImage (env : GptEnv) (s : GptState) : Bytes :=
  ((patchGpt env env.blockIo.getPartitionSize MIN_PARTITION_ARRAY_SIZE
    (headerData s.image (backupOffset env.blockIo.blockSize)) env.blockIo.blockSize).exec
    { s with flashingGpt := true, parseSecondaryGpt := true }).2.image

structure Truthful (env : GptEnv) (sz : Nat) (s : GptState) (status : EfiStatus) (s' : GptState) :
    Prop where
  success : status = EFI_SUCCESS → TableWritten env (patchedImage env s) s'.disk.contents
  refused : ¬ (ImageAccepted env sz s ∧ UniqueDevice env) →
    EFI_ERROR status = true ∧ s'.disk = s.disk

/-! ### The update -/

section Update

variable {env : GptEnv} {s : GptState} {sz : Nat}

theorem writeGptTo_reports (hio : env.blockIo.Plain)
    (htype : partitionGetType s.image sz = some true) :
    wp (writeGptTo env sz)
      (fun ret s' => ImageAccepted env sz s ∧ ret = SUCCESS ∧
        TableWritten env (patchedImage env s) s'.disk.contents)
      (fun j s' => j = .goto FAILURE ∧ (¬ ImageAccepted env sz s → s'.disk = s.disk))
      { s with flashingGpt := true } := by
  rw [writeGptTo, wp_bind]
  refine wp_mono checkGpt_spec ?_ ?_
  · rintro _ _ ⟨rfl, rfl, hprimary, hbackup⟩
    have haccepted : ImageAccepted env sz s :=
      ⟨⟨hprimary.density, hprimary.size, hprimary.primary⟩, htype, hbackup⟩
    refine wp_mono (commitGpt_spec (P := (· = patchedImage env s)) hio
      (wp_mono (wp_of_final (R := fun s' => s'.image = patchedImage env s) rfl)
        (fun _ _ h => h) fun _ _ _ => trivial)) ?_ ?_
    · rintro ret s' ⟨hret, _, rfl, hwritten⟩
      exact ⟨haccepted, hret, hwritten⟩
    · exact fun j s' hj => ⟨hj, fun hnot => absurd haccepted hnot⟩
  · rintro j s' (⟨hrefused, -⟩ | ⟨hrefused, -⟩)
    · exact ⟨hrefused.fails, fun _ => hrefused.disk⟩
    · exact ⟨hrefused.fails, fun _ => hrefused.disk⟩

theorem error_efiStatus {ret : Nat} (h : ret ≠ SUCCESS) :
    EFI_ERROR (if ret ≠ SUCCESS then EFI_VOLUME_CORRUPTED else EFI_SUCCESS) = true := by
  rw [if_pos h]
  decide

theorem truthful_of_error {status : EfiStatus} {s' : GptState} (herror : EFI_ERROR status = true)
    (hdisk : ¬ (ImageAccepted env sz s ∧ UniqueDevice env) → s'.disk = s.disk) :
    Truthful env sz s status s' := by
  refine ⟨?_, fun hrefused => ⟨herror, hdisk hrefused⟩⟩
  rintro rfl
  exact absurd herror (by decide)

theorem updatePartitionTable_spec (hio : env.blockIo.Plain)
    (hstatus : u32 env.getStorageHandle.toNat = 0 → env.getStorageHandle = EFI_SUCCESS)
    (hfound : partitionGetType s.image sz = some true → env.getStorageHandle = EFI_SUCCESS →
      env.maxHandles = 1) :
    wp (updatePartitionTable env sz) (fun status s' => Truthful env sz s status s') noExit s := by
  unfold updatePartitionTable
  rw [wp_bind, wp_get]
  cases htype : partitionGetType s.image sz with
  | none => exact truthful_of_error (by decide) fun _ => rfl
  | some gpt =>
    cases gpt with
    | false => exact truthful_of_error (by decide) fun _ => rfl
    | true =>
      rw [wp_bind, wp_modify, wp_bind, writeGpt, wp_ite]
      constructor
      · intro hnone
        have hret : u32 env.getStorageHandle.toNat ≠ SUCCESS := by
          intro hzero
          exact hnone.resolve_left (not_not.mpr hzero) |>.elim (hfound htype (hstatus hzero))
        exact truthful_of_error (error_efiStatus hret) fun _ => rfl
      · intro hone
        rw [not_or, not_not, not_not] at hone
        have hunique : UniqueDevice env := ⟨hstatus hone.1, hone.2⟩
        rw [wp_block]
        refine wp_mono (writeGptTo_reports hio htype) ?_ ?_
        · rintro _ s' ⟨haccepted, rfl, hwritten⟩
          exact ⟨fun _ => hwritten, fun hrefused => absurd ⟨haccepted, hunique⟩ hrefused⟩
        · rintro _ s' ⟨rfl, hdisk⟩
          refine truthful_of_error (error_efiStatus (by decide)) fun hrefused => hdisk ?_
          exact fun haccepted => hrefused ⟨haccepted, hunique⟩

end Update

/-- **The report of an update.**  `UpdatePartitionTable` returns a success only with all parts of
    the table on the device, and an error with an untouched device for every image or device that
    is refused, exactly if for a GPT image no lookup succeeds without finding one device alone. -/
theorem updatePartitionTable_truthful_iff (env : GptEnv) (sz : Nat) (s : GptState)
    (hio : env.blockIo.Plain)
    (hstatus : u32 env.getStorageHandle.toNat = 0 → env.getStorageHandle = EFI_SUCCESS) :
    (∃ status s', (updatePartitionTable env sz).exec s = (.ok status, s') ∧
      Truthful env sz s status s') ↔
    (partitionGetType s.image sz = some true → env.getStorageHandle = EFI_SUCCESS →
      env.maxHandles = 1) := by
  constructor
  · rintro ⟨status, s', hexec, htruthful⟩ htype hsuccess
    by_contra hmany
    -- the status of the lookup is returned as it is
    have hret : (updatePartitionTable env sz).exec s =
        (.ok EFI_SUCCESS, { s with flashingGpt := true }) := by
      have hlookup : u32 env.getStorageHandle.toNat = 0 := by rw [hsuccess]; rfl
      simp only [updatePartitionTable, exec_bind, exec_get, htype, writeGpt, hlookup]
      rw [if_pos (.inr hmany)]
      rfl
    rw [hret, Prod.mk.injEq, Except.ok.injEq] at hexec
    have hrefused := htruthful.refused fun h => hmany h.2.2
    rw [← hexec.1] at hrefused
    exact absurd hrefused.1 (by decide)
  · intro hfound
    obtain ⟨status, s', hexec, htruthful⟩ :=
      wp_returns (updatePartitionTable_spec hio hstatus hfound)
    exact ⟨status, s', hexec, htruthful⟩

def protectedState : GptState :=
  { sampleGptState with
    image := (sampleGpt.put MBR_SIGNATURE 2 0xAA55).put (MBR_PARTITION_RECORD + OS_TYPE) 1
      GPT_PROTECTIVE }

theorem updatePartitionTable_truthful_sample :
    partitionGetType protectedState.image 34304 = some true ∧
      ∃ status s', (updatePartitionTable sampleGptEnv 34304).exec protectedState =
        (.ok status, s') ∧ Truthful sampleGptEnv 34304 protectedState status s' :=
  ⟨by decide +kernel, (updatePartitionTable_truthful_iff sampleGptEnv 34304 protectedState
    (fun _ => .inl rfl) fun _ => rfl).mpr fun _ _ => rfl⟩

/-- No device is found, and the update reports a success. -/
theorem updatePartitionTable_nothing_written :
    let env := { sampleGptEnv with maxHandles := 0 }
    ((updatePartitionTable env 34304).exec protectedState).1 = .ok EFI_SUCCESS ∧
      ((updatePartitionTable env 34304).exec protectedState).2.disk.log = [] ∧
      ¬ UniqueDevice env := by
  refine ⟨by decide +kernel, by decide +kernel, ?_⟩
  rintro ⟨-, hone⟩
  cases hone

end OhMyAbl
