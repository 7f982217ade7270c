/-
  **Unlocking and relocking: the flag, the device-state reset and the wipe request.**

  `SetDeviceUnlockValue` (`DeviceInfo.c`) changes a lock flag in memory, writes the device info,
  resets the device state in the trusted world and leaves a wipe request in misc.  Each step can
  fail, and only a failed reset is followed by an attempt to undo the first one.
-/
import OhMyAbl.Storage.Handles
import OhMyAbl.Device.DeviceInfo

namespace OhMyAbl

open Prog

/-! ### SetDeviceUnlockValue -/

def RECOVERY_WIPE_DATA : List UInt8 :=
  ascii "recovery\n--wipe_data\n--reason=MasterClearConfirm\n--locale=en_US\n"

/-- `AsciiStrnCpyS` of a whole source string into a field of `destMax` bytes that was
    zeroed before. -/
def asciiStrnCpyS (destMax : Nat) (src : List UInt8) : EfiStatus × Bytes :=
  if src.length < destMax then (EFI_SUCCESS, fun i => src.getD i 0)
  else (EFI_BUFFER_TOO_SMALL, fun _ => 0)

/-- `struct RecoveryMessage`: `command[32]`, `status[32]`, `recovery[1024]`. -/
def RECOVERY_MESSAGE_SIZE : Nat := 1088
def RECOVERY_FIELD_OFFSET : Nat := 64
def RECOVERY_FIELD_SIZE : Nat := 1024

def recoveryMessage (recovery : Bytes) : Buffer where
  region := .pool
  addr := 0
  byte := Bytes.overwrite (fun _ => 0) RECOVERY_FIELD_OFFSET RECOVERY_FIELD_SIZE recovery

structure ResetEnv where
  avbVersion : AvbVersion
  locateProtocol : EfiStatus
  vbDeviceResetState : EfiStatus
deriving DecidableEq, Repr

def resetDeviceState (env : ResetEnv) : EfiStatus :=
  if env.avbVersion = .NO_AVB ∨ env.avbVersion = .AVB_LE then EFI_SUCCESS
  else if env.locateProtocol ≠ EFI_SUCCESS then env.locateProtocol
  else env.vbDeviceResetState

/-- Everything outside the boot loader that `SetDeviceUnlockValue` depends on. -/
structure UnlockEnv where
  info : DeviceInfoEnv
  reset : ResetEnv
  /-- `CheckRootDeviceType ()`. -/
  cardType : MemCardType
  nandLocateProtocol : EfiStatus
  nandGenGuid : EfiStatus
  storage : StorageEnv
  miscHandles : HandleLookup
  misc : BlockIo

variable (env : UnlockEnv)

def getNandMiscPartiGuid : EfiStatus :=
  if env.nandLocateProtocol ≠ EFI_SUCCESS then env.nandLocateProtocol else env.nandGenGuid

structure UnlockState where
  info : DeviceInfoState
  misc : Disk

namespace UnlockState

def infoLens : Lens UnlockState DeviceInfoState where
  get s := s.info
  set s i := { s with info := i }
  get_set _ _ := rfl
  set_get _ := rfl
  set_set _ _ _ := rfl

def miscLens : Lens UnlockState Disk where
  get s := s.misc
  set s d := { s with misc := d }
  get_set _ _ := rfl
  set_get _ := rfl
  set_set _ _ _ := rfl

end UnlockState

def UNLOCK : Nat := 0
def UNLOCK_CRITICAL : Nat := 1

def setUnlockFlag (env : DeviceInfoEnv) (type : Nat) (state : Bool) :
    Prog DeviceInfoState Exit EfiStatus :=
  if type = UNLOCK then setUnlockValue env state
  else if type = UNLOCK_CRITICAL then setUnlockCriticalValue env state
  else return EFI_UNSUPPORTED

def writeWipeRequest : Prog UnlockState Exit EfiStatus := do
  let (status, recovery) := asciiStrnCpyS RECOVERY_FIELD_SIZE RECOVERY_WIPE_DATA
  if status = EFI_SUCCESS then
    if env.cardType = .NAND ∧ getNandMiscPartiGuid env ≠ EFI_SUCCESS then
      return getNandMiscPartiGuid env
    zoom UnlockState.miscLens
      (writeToPartition env.storage env.miscHandles env.misc (recoveryMessage recovery)
        RECOVERY_MESSAGE_SIZE)
  else
    return status

def setDeviceUnlockValue (type : Nat) (state : Bool) : Prog UnlockState Exit EfiStatus := do
  let status ← zoom UnlockState.infoLens (setUnlockFlag env.info type state)
  if status ≠ EFI_SUCCESS then
    return status
  let status := resetDeviceState env.reset
  if status ≠ EFI_SUCCESS then
    -- the status of undoing the change is not looked at
    let _ ← zoom UnlockState.infoLens (setUnlockFlag env.info type (!state))
    return status
  writeWipeRequest env

/-! ### All or nothing -/

def DeviceInfo.lockFlags (d : DeviceInfo) : Bool × Bool := (d.isUnlocked, d.isUnlockCritical)

def DeviceInfo.lockFlag (d : DeviceInfo) (type : Nat) : Bool :=
  if type = UNLOCK then d.isUnlocked else d.isUnlockCritical

def DeviceInfo.setLockFlag (d : DeviceInfo) (type : Nat) (state : Bool) : DeviceInfo :=
  if type = UNLOCK then { d with isUnlocked := state } else { d with isUnlockCritical := state }

def WipeRequested (misc : Bytes) : Prop :=
  misc.slice RECOVERY_FIELD_OFFSET (RECOVERY_WIPE_DATA.length + 1) = RECOVERY_WIPE_DATA ++ [0]

/-- The call returns success with the flag changed in memory and in storage and a wipe
    requested, or an error with the lock flags as they were. -/
def AllOrNothing (type : Nat) (state : Bool) (s : UnlockState)
    (run : Except Exit EfiStatus × UnlockState) : Prop :=
  ∃ status, run.1 = .ok status ∧
    ((status = EFI_SUCCESS ∧ run.2.info.devInfo.lockFlag type = state ∧
        run.2.info.stored.lockFlag type = state ∧ WipeRequested run.2.misc.contents) ∨
      (status ≠ EFI_SUCCESS ∧ run.2.info.devInfo.lockFlags = s.info.devInfo.lockFlags ∧
        run.2.info.stored.lockFlags = s.info.stored.lockFlags))

def WipeRequestAccepted (misc : Disk) : Prop :=
  (env.cardType = .NAND → getNandMiscPartiGuid env = EFI_SUCCESS) ∧
    PartitionWriteAccepted env.storage env.miscHandles env.misc misc.ops RECOVERY_MESSAGE_SIZE

/-- When the call is all-or-nothing: the first device-info write succeeds, and either
    every later step does, or the reset fails and the stored flags are then what the second
    device-info write leaves. -/
def UnlockAtomicWhen (s : UnlockState) (type : Nat) (state : Bool) : Prop :=
  env.info.writeStatus s.info.writes = EFI_SUCCESS ∧
    ((resetDeviceState env.reset = EFI_SUCCESS ∧ WipeRequestAccepted env s.misc) ∨
      (resetDeviceState env.reset ≠ EFI_SUCCESS ∧
        s.info.stored.lockFlags =
          if env.info.writeLands (s.info.writes + 1) then s.info.devInfo.lockFlags
          else (s.info.devInfo.setLockFlag type state).lockFlags))

section Atomic

variable {env : UnlockEnv} {s : UnlockState} {type : Nat} {state : Bool}

theorem exec_setUnlockFlag {env : DeviceInfoEnv} {s : DeviceInfoState}
    (htype : type = UNLOCK ∨ type = UNLOCK_CRITICAL) (hstate : s.devInfo.lockFlag type ≠ state) :
    (setUnlockFlag env type state).exec s =
      (.ok (env.writeStatus s.writes),
        { s with
          devInfo := s.devInfo.setLockFlag type state
          stored :=
            if env.writeLands s.writes then s.devInfo.setLockFlag type state else s.stored
          writes := s.writes + 1 }) := by
  rcases htype with rfl | rfl
  · exact @exec_setFlag env (·.isUnlocked) (fun d => { d with isUnlocked := state }) state s hstate
  · exact @exec_setFlag env (·.isUnlockCritical) (fun d => { d with isUnlockCritical := state })
      state s hstate

@[simp] theorem lockFlag_setLockFlag (d : DeviceInfo) :
    (d.setLockFlag type state).lockFlag type = state := by
  unfold DeviceInfo.lockFlag DeviceInfo.setLockFlag
  split <;> simp

theorem setLockFlag_undo {d : DeviceInfo} (h : d.lockFlag type ≠ state) :
    (d.setLockFlag type state).setLockFlag type (!state) = d := by
  obtain ⟨u, c, v, k, r⟩ := d
  by_cases ht : type = UNLOCK
  · simp only [DeviceInfo.lockFlag, if_pos ht] at h
    simp [DeviceInfo.setLockFlag, ht, Bool.eq_not_of_ne h]
  · simp only [DeviceInfo.lockFlag, if_neg ht] at h
    simp [DeviceInfo.setLockFlag, ht, Bool.eq_not_of_ne h]

theorem lockFlags_setLockFlag_ne {d : DeviceInfo} (h : d.lockFlag type ≠ state) :
    (d.setLockFlag type state).lockFlags ≠ d.lockFlags := by
  intro he
  apply h
  have hf : (d.setLockFlag type state).lockFlag type = d.lockFlag type := by
    unfold DeviceInfo.lockFlags at he
    unfold DeviceInfo.lockFlag
    rw [Prod.mk.injEq] at he
    rw [he.1, he.2]
  rw [← hf, lockFlag_setLockFlag]

theorem wipeRequested_overwrite {c : Bytes} :
    WipeRequested (c.overwrite 0 RECOVERY_MESSAGE_SIZE
      (recoveryMessage fun i => RECOVERY_WIPE_DATA.getD i 0).byte) := by
  unfold WipeRequested
  rw [Bytes.slice_overwrite (by decide) (by decide)]
  unfold recoveryMessage
  decide

theorem writeWipeRequest_spec :
    wp (writeWipeRequest env)
      (fun status s' => s'.info = s.info ∧
        (status = EFI_SUCCESS ↔ WipeRequestAccepted env s.misc) ∧
        (status = EFI_SUCCESS → WipeRequested s'.misc.contents))
      (fun _ s' => s'.info = s.info ∧ ¬ WipeRequestAccepted env s.misc) s := by
  have hcpy : asciiStrnCpyS RECOVERY_FIELD_SIZE RECOVERY_WIPE_DATA =
      (EFI_SUCCESS, fun i => RECOVERY_WIPE_DATA.getD i 0) := if_pos (by decide)
  unfold writeWipeRequest WipeRequestAccepted
  rw [hcpy]
  by_cases hn : env.cardType = .NAND ∧ getNandMiscPartiGuid env ≠ EFI_SUCCESS
  · simp [hn]
  have hnand : env.cardType = .NAND → getNandMiscPartiGuid env = EFI_SUCCESS :=
    fun h => by_contra fun h' => hn ⟨h, h'⟩
  simp only [hn, if_true, if_false, wp_zoom]
  refine wp_mono (writeToPartition_spec (by decide)) ?_ ?_
  · rintro status d ⟨hiff, hc⟩
    refine ⟨rfl, ⟨fun h => ⟨hnand, hiff.mp h⟩, fun h => hiff.mpr h.2⟩, fun h => ?_⟩
    have hmisc := hc h
    show WipeRequested d.contents
    rw [hmisc]
    exact wipeRequested_overwrite
  · intro _ d hno
    exact ⟨rfl, fun h => hno h.2⟩

def flagWritten (env : DeviceInfoEnv) (s : DeviceInfoState) (type : Nat) (state : Bool) :
    DeviceInfoState :=
  { s with
    devInfo := s.devInfo.setLockFlag type state
    stored := if env.writeLands s.writes then s.devInfo.setLockFlag type state else s.stored
    writes := s.writes + 1 }

section

variable (htype : type = UNLOCK ∨ type = UNLOCK_CRITICAL)
  (hstate : s.info.devInfo.lockFlag type ≠ state)
include htype hstate

theorem exec_setDeviceUnlockValue_writeFails
    (hw : env.info.writeStatus s.info.writes ≠ EFI_SUCCESS) :
    (setDeviceUnlockValue env type state).exec s =
      (.ok (env.info.writeStatus s.info.writes),
        { s with info := flagWritten env.info s.info type state }) := by
  have hset := @exec_setUnlockFlag type state env.info s.info htype hstate
  simp only [setDeviceUnlockValue, exec_bind, exec_zoom, UnlockState.infoLens, hset, hw, ne_eq]
  rfl

theorem exec_setDeviceUnlockValue_resetFails (hw : env.info.writeStatus s.info.writes = EFI_SUCCESS)
    (hr : resetDeviceState env.reset ≠ EFI_SUCCESS) :
    (setDeviceUnlockValue env type state).exec s =
      (.ok (resetDeviceState env.reset),
        { s with info :=
          { s.info with
            stored :=
              if env.info.writeLands (s.info.writes + 1) then s.info.devInfo
              else s.info.devInfo.setLockFlag type state
            writes := s.info.writes + 2 } }) := by
  have hset := @exec_setUnlockFlag type state env.info s.info htype hstate
  have hlands := DeviceInfoEnv.writeLands_of_success hw
  have hundo := @exec_setUnlockFlag type (!state) env.info (flagWritten env.info s.info type state)
    htype (by simp [flagWritten])
  simp only [flagWritten, hlands, if_true, setLockFlag_undo hstate] at hundo
  simp only [setDeviceUnlockValue, exec_bind, exec_zoom, UnlockState.infoLens, hset, hw,
    hlands, hr, hundo, ne_eq, not_true_eq_false, not_false_eq_true, if_true, if_false,
    exec_pure]

theorem exec_setDeviceUnlockValue_wipes (hw : env.info.writeStatus s.info.writes = EFI_SUCCESS)
    (hr : resetDeviceState env.reset = EFI_SUCCESS) :
    (setDeviceUnlockValue env type state).exec s =
      (writeWipeRequest env).exec { s with info := flagWritten env.info s.info type state } := by
  have hset := @exec_setUnlockFlag type state env.info s.info htype hstate
  simp only [setDeviceUnlockValue, exec_bind, exec_zoom, UnlockState.infoLens, hset, hw, hr]
  rfl

end

/-- **When unlocking is all-or-nothing.**  For a flag that differs from the requested value,
    the call is all-or-nothing exactly when `UnlockAtomicWhen` holds of the outcomes of its
    steps and of the state before it. -/
theorem setDeviceUnlockValue_allOrNothing (env : UnlockEnv) (s : UnlockState) (type : Nat)
    (state : Bool) (htype : type = UNLOCK ∨ type = UNLOCK_CRITICAL)
    (hstate : s.info.devInfo.lockFlag type ≠ state) :
    AllOrNothing type state s ((setDeviceUnlockValue env type state).exec s) ↔
      UnlockAtomicWhen env s type state := by
  unfold AllOrNothing UnlockAtomicWhen
  by_cases hw : env.info.writeStatus s.info.writes = EFI_SUCCESS
  · have hlands := DeviceInfoEnv.writeLands_of_success hw
    by_cases hr : resetDeviceState env.reset = EFI_SUCCESS
    · rw [exec_setDeviceUnlockValue_wipes htype hstate hw hr]
      have hwipe := @writeWipeRequest_spec env
        { s with info := flagWritten env.info s.info type state }
      unfold wp at hwipe
      rcases hrun : (writeWipeRequest env).exec
        { s with info := flagWritten env.info s.info type state } with ⟨_ | status, s'⟩
      · -- the write never returns
        rw [hrun] at hwipe
        simp [hr, hwipe.2]
      · rw [hrun] at hwipe
        obtain ⟨hinfo, hiff, hreq⟩ := hwipe
        have hmem : s'.info.devInfo = s.info.devInfo.setLockFlag type state := by
          rw [hinfo]; rfl
        have hsto : s'.info.stored = s.info.devInfo.setLockFlag type state := by
          rw [hinfo]
          exact if_pos hlands
        have hne := lockFlags_setLockFlag_ne hstate
        simp only [Except.ok.injEq, exists_eq_left', hmem, hsto, lockFlag_setLockFlag, hne,
          false_and, and_false, or_false, true_and, hw, hr, ne_eq, not_true_eq_false]
        exact ⟨fun h => hiff.mp h.1, fun h => ⟨hiff.mpr h, hreq (hiff.mpr h)⟩⟩
    · rw [exec_setDeviceUnlockValue_resetFails htype hstate hw hr]
      simp only [Except.ok.injEq, exists_eq_left', hr, false_and, false_or, ne_eq,
        not_false_eq_true, true_and, hw, apply_ite DeviceInfo.lockFlags]
      exact eq_comm
  · rw [exec_setDeviceUnlockValue_writeFails htype hstate hw]
    have hne := lockFlags_setLockFlag_ne hstate
    simp [hw, flagWritten, hne]

end Atomic

/-! ### One device, two outcomes of the last step -/

def lockedDeviceInfo : DeviceInfo where
  isUnlocked := false
  isUnlockCritical := false
  verityMode := true
  userPublicKey := []
  rollbackIndex := Vector.replicate 32 0
  persistentValue := Vector.replicate 8 none

def lockedState : UnlockState where
  info := ⟨lockedDeviceInfo, false, lockedDeviceInfo, 0⟩
  misc := ⟨fun _ => 0, 0, []⟩

def unlockEnv (maxHandles : Nat) : UnlockEnv where
  info := ⟨fun _ => EFI_SUCCESS, fun _ => EFI_SUCCESS, fun _ => false⟩
  reset := ⟨.AVB_2, EFI_SUCCESS, EFI_SUCCESS⟩
  cardType := .UFS
  nandLocateProtocol := EFI_SUCCESS
  nandGenGuid := EFI_SUCCESS
  storage := ⟨.UFS, EFI_SUCCESS, 0, fun _ => false, fun _ => true⟩
  miscHandles := ⟨EFI_SUCCESS, maxHandles⟩
  misc := ⟨4096, 255, page_lt, by decide, fun _ => EFI_SUCCESS⟩

/-- With a misc partition the device is unlocked and a wipe is requested. -/
theorem setDeviceUnlockValue_allOrNothing_unlocks :
    AllOrNothing UNLOCK true lockedState
      ((setDeviceUnlockValue (unlockEnv 1) UNLOCK true).exec lockedState) :=
  (setDeviceUnlockValue_allOrNothing (unlockEnv 1) lockedState UNLOCK true (Or.inl rfl)
    (by decide)).mpr ⟨by decide, Or.inl ⟨by decide, by decide, by decide, by decide, by decide⟩⟩

/-- Without one the call fails, and the device stays unlocked in memory and in storage with
    no wipe requested. -/
theorem setDeviceUnlockValue_keeps_flag_on_error :
    ∃ s', (setDeviceUnlockValue (unlockEnv 0) UNLOCK true).exec lockedState =
        (.ok EFI_NO_MEDIA, s') ∧
      s'.info.devInfo.isUnlocked = true ∧ s'.info.stored.isUnlocked = true ∧
      ¬ WipeRequested s'.misc.contents ∧
      ¬ AllOrNothing UNLOCK true lockedState
        ((setDeviceUnlockValue (unlockEnv 0) UNLOCK true).exec lockedState) := by
  refine ⟨_, rfl, rfl, rfl, ?_, ?_⟩
  · unfold WipeRequested
    decide
  · rintro ⟨status, hstatus, ⟨hs, -⟩ | ⟨-, hflags, -⟩⟩
    · rw [hs] at hstatus
      exact absurd (Except.ok.inj hstatus) (by decide)
    · exact absurd hflags (by decide)

end OhMyAbl
