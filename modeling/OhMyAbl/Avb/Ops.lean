/-
  **The operations libavb is given (`avb_ops.c`): keys, rollback indexes, persistent values.**

  Slot verification reaches the device only through `AvbOps`.  The operations that
  change anything work on two records: the `AvbOpsUserData` of the verification,
  which the key validations write, and the device info, which holds the persistent
  values.  `AvbFrame` is what all of them leave alone, and the frame slot
  verification as a whole inherits.
-/
import OhMyAbl.Avb.ParallelLoad
import OhMyAbl.Device.DeviceInfo

namespace OhMyAbl

/-- `AvbOpsUserData`.  The keys the validations have accepted, in order, are a history the
    code does not keep. -/
structure AvbOpsUserData where
  isUserKey : Bool
  isMultiSlot : Bool
  publicKey : List UInt8
  acceptedKeys : List (List UInt8)
deriving DecidableEq, Repr

structure AvbPartitionData where
  partitionName : List UInt8
  data : Bytes
  dataSize : Nat

inductive AvbVBMetaVerifyResult where
  | OK
  | OK_NOT_SIGNED
  | INVALID_VBMETA_HEADER
  | UNSUPPORTED_VERSION
  | HASH_MISMATCH
  | SIGNATURE_MISMATCH
deriving DecidableEq, Repr

/-- `AvbSlotVerifyData`: the partitions, the names of the vbmeta images and the flags of
    their headers, and the rollback indexes.  The command line is not kept. -/
structure AvbSlotVerifyData where
  loadedPartitions : List AvbPartitionData
  vbmetaImages : List (List UInt8 × Nat)
  rollbackIndexes : Vector Nat 32

def AvbSlotVerifyData.empty : AvbSlotVerifyData := ⟨[], [], Vector.replicate 32 0⟩

structure AvbState where
  userData : AvbOpsUserData
  device : DeviceInfoState
  slotData : AvbSlotVerifyData

def AvbState.deviceLens : Prog.Lens AvbState DeviceInfoState where
  get := (·.device)
  set := fun s d => { s with device := d }

/-! ### The frame of the operations -/

/-- The lock flags, the verity mode, the user key and the rollback indexes in memory are as
    before; a stored rollback index is as before or what memory holds. -/
structure DeviceFrame (d d' : DeviceInfoState) : Prop where
  firstRead : d'.firstReadDevInfo = d.firstReadDevInfo
  unlocked : d'.devInfo.isUnlocked = d.devInfo.isUnlocked
  userKey : d'.devInfo.userPublicKey = d.devInfo.userPublicKey
  index : d'.devInfo.rollbackIndex = d.devInfo.rollbackIndex
  storedIndex : d'.stored.rollbackIndex = d.stored.rollbackIndex ∨
    d'.stored.rollbackIndex = d.devInfo.rollbackIndex

theorem DeviceFrame.refl (d : DeviceInfoState) : DeviceFrame d d := ⟨rfl, rfl, rfl, rfl, .inl rfl⟩

theorem DeviceFrame.trans {d d' d'' : DeviceInfoState} (h : DeviceFrame d d')
    (h' : DeviceFrame d' d'') : DeviceFrame d d'' where
  firstRead := h'.firstRead.trans h.firstRead
  unlocked := h'.unlocked.trans h.unlocked
  userKey := h'.userKey.trans h.userKey
  index := h'.index.trans h.index
  storedIndex := by
    obtain hs | hs := h'.storedIndex
    · obtain hs' | hs' := h.storedIndex
      · exact .inl (hs.trans hs')
      · exact .inr (hs.trans hs')
    · exact .inr (hs.trans h.index)

theorem writeDeviceInfo_frame (env : DeviceInfoEnv) (d : DeviceInfoState) :
    DeviceFrame d ((writeDeviceInfo env).exec d).2 := by
  rw [exec_writeDeviceInfo]
  refine ⟨rfl, rfl, rfl, rfl, ?_⟩
  split
  · exact .inr rfl
  · exact .inl rfl

theorem writePersistentValue_frame (env : DeviceInfoEnv) (name value : Option (List UInt8))
    (valueSize : Nat) (d : DeviceInfoState) :
    DeviceFrame d ((writePersistentValue env name value valueSize).exec d).2 := by
  simp only [writePersistentValue, Prog.exec_bind, Prog.exec_get]
  split_ifs with h₁ h₂ h₃ h₄ h₅
  · exact DeviceFrame.refl d
  · exact DeviceFrame.refl d
  · exact DeviceFrame.refl d
  · exact DeviceFrame.refl d
  · exact DeviceFrame.refl d
  · cases putPersistentValue d.devInfo.persistentValue _ _ with
    | none => exact DeviceFrame.refl d
    | some table =>
      dsimp only
      split_ifs with h₆
      · exact DeviceFrame.refl d
      · have hwrite := writeDeviceInfo_frame env
          { d with devInfo := { d.devInfo with persistentValue := table } }
        exact ⟨hwrite.firstRead, hwrite.unlocked, hwrite.userKey, hwrite.index, hwrite.storedIndex⟩

/-- What every operation keeps: the frame of the device info, and which kind of device the
    verification is for. -/
structure AvbFrame (s s' : AvbState) : Prop where
  multiSlot : s'.userData.isMultiSlot = s.userData.isMultiSlot
  device : DeviceFrame s.device s'.device

instance : Std.Refl AvbFrame where
  refl _ := ⟨rfl, DeviceFrame.refl _⟩

/-! ### Keys -/

/-- What the two validations do with the key: the result of the operation, and whether the key
    is trusted.  `IsUserKey` is cleared first, so it speaks of the last key that was validated. -/
def validatePublicKey (oemPublicKey key : List UInt8) :
    Prog AvbState Exit (AvbIOResult × Bool) := do
  let s ← get
  let userKey := getUserKey s.device
  if userKey.1 ≠ EFI_SUCCESS then return .mk AvbIOResult.ERROR_IO false
  else
    modify fun s => { s with userData := { s.userData with isUserKey := key == userKey.2 } }
    if key = userKey.2 ∨ key = oemPublicKey then
      if key.length > MAX_USER_KEY_SIZE then return (.ERROR_OOM, true)
      else
        modify fun s => { s with userData :=
          { s.userData with
            publicKey := key
            acceptedKeys := s.userData.acceptedKeys ++ [key] } }
        return (.OK, true)
    else
      modify fun s => { s with userData := { s.userData with publicKey := [] } }
      return (.OK, false)

def avbValidateVbmetaPublicKey (oemPublicKey key : List UInt8) :
    Prog AvbState Exit (AvbIOResult × Bool) :=
  validatePublicKey oemPublicKey key

/-- The location of the rollback index comes last. -/
def avbValidatePartitionPublicKey (oemPublicKey key : List UInt8) :
    Prog AvbState Exit (AvbIOResult × Bool × Nat) := do
  let r ← validatePublicKey oemPublicKey key
  return (r.1, r.2, 1)

def avbReadRollbackIndex (d : DeviceInfoState) (loc : Nat) : AvbIOResult × Nat :=
  let r := readRollbackIndex d loc
  if r.1 ≠ EFI_SUCCESS then .mk AvbIOResult.ERROR_IO 0 else (.OK, r.2)

def avbReadPersistentValue (d : DeviceInfoState) (name : List UInt8) (bufferSize : Nat) :
    AvbIOResult × List UInt8 :=
  let r := readPersistentValue d (some name) true (some bufferSize)
  if r.1 = EFI_SUCCESS then (.OK, r.2)
  else if r.1 = EFI_NOT_FOUND then (.ERROR_NO_SUCH_VALUE, [])
  else if r.1 = EFI_BUFFER_TOO_SMALL then (.ERROR_INSUFFICIENT_SPACE, [])
  else .mk AvbIOResult.ERROR_IO []

def avbWritePersistentValue (env : DeviceInfoEnv) (name value : List UInt8) :
    Prog AvbState Exit AvbIOResult := do
  let status ← Prog.zoom AvbState.deviceLens
    (writePersistentValue env (some name) (some value) value.length)
  if status = EFI_SUCCESS then return .OK
  else if status = EFI_UNSUPPORTED then return .ERROR_NO_SUCH_VALUE
  else if status = EFI_BAD_BUFFER_SIZE then return .ERROR_INVALID_VALUE_SIZE
  else return AvbIOResult.ERROR_IO

end OhMyAbl
