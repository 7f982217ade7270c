/-
  **Device info: lock flags, verity mode, user key, rollback indexes, persistent values.**

  `DeviceInfo.c` keeps one record in memory and writes it as a whole to protected storage.  A write
  that reports success has replaced the stored record, and one that reports a failure may have done
  so.  The setters change the record in memory first, so a failed write leaves the two apart.
-/
import OhMyAbl.Base.Efi

namespace OhMyAbl

def MAX_USER_KEY_SIZE : Nat := 2048
def MAX_NAME_SIZE : Nat := 56
def MAX_VALUE_SIZE : Nat := 32
def MAX_ENTRY_SIZE : Nat := 8

structure PersistentValue where
  name : List UInt8
  value : List UInt8
deriving DecidableEq, Repr

/-- `DeviceInfo`: the fields the modelled routines read or write.  The user key is kept
    as its first `user_public_key_length` bytes. -/
structure DeviceInfo where
  isUnlocked : Bool
  isUnlockCritical : Bool
  verityMode : Bool          -- `true` = enforcing, `false` = logging
  userPublicKey : List UInt8
  rollbackIndex : Vector Nat 32
  persistentValue : Vector (Option PersistentValue) 8
deriving DecidableEq, Repr

structure DeviceInfoState where
  devInfo : DeviceInfo
  /-- `FirstReadDevInfo`: the record has not been read from storage yet. -/
  firstReadDevInfo : Bool
  stored : DeviceInfo
  /-- How many writes of the record were asked for so far. -/
  writes : Nat
deriving DecidableEq, Repr

/-- What the verified-boot protocol does with the `n`th write of the record. -/
structure DeviceInfoEnv where
  locateProtocol : Nat → EfiStatus
  vbRwDeviceState : Nat → EfiStatus
  /-- Whether a write that reports a failure has replaced the stored record all the same. -/
  failedWriteStored : Nat → Bool

variable (env : DeviceInfoEnv)

def DeviceInfoEnv.writeStatus (n : Nat) : EfiStatus :=
  if env.locateProtocol n ≠ EFI_SUCCESS then env.locateProtocol n else env.vbRwDeviceState n

def DeviceInfoEnv.writeLands (n : Nat) : Bool :=
  env.locateProtocol n = EFI_SUCCESS ∧
    (env.vbRwDeviceState n = EFI_SUCCESS ∨ env.failedWriteStored n = true)

def writeDeviceInfo : Prog DeviceInfoState Exit EfiStatus := do
  let s ← get
  modify fun s =>
    { s with
      stored := if env.writeLands s.writes then s.devInfo else s.stored
      writes := s.writes + 1 }
  return env.writeStatus s.writes

theorem DeviceInfoEnv.writeLands_of_success {env : DeviceInfoEnv} {n : Nat}
    (h : env.writeStatus n = EFI_SUCCESS) : env.writeLands n = true := by
  unfold writeStatus at h
  by_cases hl : env.locateProtocol n = EFI_SUCCESS
  · rw [if_neg (not_not_intro hl)] at h
    simp [writeLands, hl, h]
  · rw [if_pos hl] at h
    exact absurd h hl

theorem exec_writeDeviceInfo (s : DeviceInfoState) :
    (writeDeviceInfo env).exec s =
      (.ok (env.writeStatus s.writes),
        { s with
          stored := if env.writeLands s.writes then s.devInfo else s.stored
          writes := s.writes + 1 }) := rfl

/-! ### Lock flags -/

/-- `SetUnlockValue` and `SetUnlockCriticalValue`: one flag of the record, given by how it
    is read and replaced. -/
def setFlag (read : DeviceInfo → Bool) (write : DeviceInfo → DeviceInfo) (state : Bool) :
    Prog DeviceInfoState Exit EfiStatus := do
  let s ← get
  if read s.devInfo ≠ state then
    modify fun s => { s with devInfo := write s.devInfo }
    writeDeviceInfo env
  else
    return EFI_SUCCESS

def setUnlockValue (state : Bool) : Prog DeviceInfoState Exit EfiStatus :=
  setFlag env (·.isUnlocked) (fun d => { d with isUnlocked := state }) state

def setUnlockCriticalValue (state : Bool) : Prog DeviceInfoState Exit EfiStatus :=
  setFlag env (·.isUnlockCritical) (fun d => { d with isUnlockCritical := state }) state

theorem exec_setFlag {env : DeviceInfoEnv} {read : DeviceInfo → Bool}
    {write : DeviceInfo → DeviceInfo} {state : Bool} {s : DeviceInfoState}
    (h : read s.devInfo ≠ state) :
    (setFlag env read write state).exec s =
      (.ok (env.writeStatus s.writes),
        { s with
          devInfo := write s.devInfo
          stored := if env.writeLands s.writes then write s.devInfo else s.stored
          writes := s.writes + 1 }) := by
  simp [setFlag, Prog.exec_bind, h, exec_writeDeviceInfo]

/-! ### Rollback indexes and the user key -/

def readRollbackIndex (s : DeviceInfoState) (loc : Nat) : EfiStatus × Nat :=
  if s.firstReadDevInfo then (EFI_NOT_STARTED, 0)
  else if h : loc < 32 then (EFI_SUCCESS, s.devInfo.rollbackIndex[loc])
  else (EFI_INVALID_PARAMETER, 0)

def writeRollbackIndex (loc index : Nat) : Prog DeviceInfoState Exit EfiStatus := do
  let s ← get
  if s.firstReadDevInfo then
    return EFI_NOT_STARTED
  if h : loc < 32 then
    modify fun s =>
      { s with devInfo :=
        { s.devInfo with rollbackIndex := s.devInfo.rollbackIndex.set loc index } }
    writeDeviceInfo env
  else
    return EFI_INVALID_PARAMETER

def PersistentValue.isNamed (name : List UInt8) (entry : Option PersistentValue) : Bool :=
  entry.any (·.name == name)

/-- `NULL` is `none` for the name and for `ValueSize`, and `false` for the buffer. -/
def readPersistentValue (s : DeviceInfoState) (name : Option (List UInt8)) (value : Bool)
    (valueSize : Option Nat) : EfiStatus × List UInt8 :=
  let name := name.getD []
  if s.firstReadDevInfo then (EFI_NOT_STARTED, [])
  else if name = [] ∨ valueSize = none then (EFI_INVALID_PARAMETER, [])
  else match (s.devInfo.persistentValue.toList.find? (PersistentValue.isNamed name)).join with
    | none => (EFI_NOT_FOUND, [])
    | some entry =>
      if entry.value = [] then (EFI_NOT_FOUND, [])
      else if valueSize.getD 0 < entry.value.length then (EFI_BUFFER_TOO_SMALL, [])
      else if !value then (EFI_INVALID_PARAMETER, [])
      else (EFI_SUCCESS, entry.value)

/-- The change `WritePersistentValue` makes to the table: an entry of that name is replaced,
    or zeroed by an empty value; otherwise the first free entry is taken. -/
def putPersistentValue (table : Vector (Option PersistentValue) 8) (name value : List UInt8) :
    Option (Vector (Option PersistentValue) 8) :=
  match table.toList.findIdx? (PersistentValue.isNamed name), table.toList.findIdx? (· == none) with
  | some i, _ => some (table.setIfInBounds i (if value = [] then none else some ⟨name, value⟩))
  | none, some i => some (if value = [] then table else table.setIfInBounds i (some ⟨name, value⟩))
  | none, none => none

def writePersistentValue (name value : Option (List UInt8)) (valueSize : Nat) :
    Prog DeviceInfoState Exit EfiStatus := do
  let s ← get
  let name := name.getD []
  let table := s.devInfo.persistentValue
  if s.firstReadDevInfo then return EFI_NOT_STARTED
  else if name = [] then return EFI_INVALID_PARAMETER
  else if name.length > MAX_NAME_SIZE then return EFI_NOT_FOUND
  else if valueSize > MAX_VALUE_SIZE then return EFI_BAD_BUFFER_SIZE
  -- `NULL` is taken only where it clears a name
  else if value = none ∧ (valueSize ≠ 0 ∨ !table.toList.any (PersistentValue.isNamed name)) then
    return EFI_INVALID_PARAMETER
  else
    let value := (value.getD []).take valueSize
    match putPersistentValue table name value with
    | none => return EFI_INVALID_PARAMETER
    | some table' =>
      -- an empty value for an unknown name is a success that writes nothing
      if value = [] ∧ table' = table then return EFI_SUCCESS
      else
        modify fun s => { s with devInfo := { s.devInfo with persistentValue := table' } }
        writeDeviceInfo env

def getUserKey (s : DeviceInfoState) : EfiStatus × List UInt8 :=
  if s.firstReadDevInfo then (EFI_NOT_STARTED, []) else (EFI_SUCCESS, s.devInfo.userPublicKey)

end OhMyAbl
