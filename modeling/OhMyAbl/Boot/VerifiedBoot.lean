/-
  **Loading and authenticating the images of a boot (`LoadImageAndAuthVB2`).**

  The routine is left at its end, by a plain return that skips the cleanup, and by a jump to the
  cleanup, which gives up on the active slot.  Slot verification is a parameter that keeps the frame
  of the operations it is given (`SlotVerifier`); `avbSlotVerify` is the one the code has.
-/
import OhMyAbl.Avb.SlotVerify
import OhMyAbl.Partition.Slots
import OhMyAbl.Boot.BootImage

namespace OhMyAbl

open Prog

inductive BootState where
  | GREEN
  | ORANGE
  | YELLOW
  | RED
deriving DecidableEq, Repr

structure ImageData where
  name : List UInt8
  imageBuffer : Bytes
  imageSize : Nat

/-- `BootInfo`: the fields authentication reads or writes.  The images are those below
    `NumLoadedImages`; `vbIntf` says whether the pointer is set. -/
structure BootInfo where
  multiSlotBoot : Bool
  flashlessBoot : Bool
  networkBoot : Bool
  bootIntoRecovery : Bool
  pname : Text
  images : List ImageData
  vbIntf : Bool
  bootState : BootState
  headerVersion : Nat
  hasBootInitRamdisk : Bool

/-- What the loader works on.  The results of the slot verifications and the status
    authentication returned are histories the code does not keep. -/
structure LoaderState where
  info : BootInfo
  slots : SlotState
  avb : AvbState
  recoveryHasNoKernel : Bool
  verifications : List (AvbSlotVerifyResult × Option AvbSlotVerifyData)
  authStatus : Option EfiStatus

namespace LoaderState

def slotsLens : Lens LoaderState SlotState where
  get := (·.slots)
  set := fun s t => { s with slots := t }

def avbLens : Lens LoaderState AvbState where
  get := (·.avb)
  set := fun s t => { s with avb := t }

def deviceLens : Lens LoaderState DeviceInfoState where
  get := (·.avb.device)
  set := fun s d => { s with avb := { s.avb with device := d } }

def setInfo (f : BootInfo → BootInfo) (s : LoaderState) : LoaderState := { s with info := f s.info }

end LoaderState

/-- What `LoadImageHeader` gives for a partition; there is a buffer when it succeeds. -/
structure HeaderRead where
  status : EfiStatus
  size : Nat
  header : Bytes

/-- The outcomes of the calls authentication makes.  Those without an argument are made at
    most once. -/
structure VerifiedBootEnv where
  slots : SlotEnv
  device : DeviceInfoEnv
  dynamicPartitionSupport : Bool
  buildUseRecoveryAsBoot : Bool
  locateVerifiedBoot : EfiStatus
  allocateCmdLine : Bool
  allocateUserData : Bool
  allocateOps : Bool
  allocateVBData : Bool
  updateRollbackSyscall : EfiStatus
  loadImageHeader : Text → HeaderRead
  checkImageHeader : EfiStatus
  appendVBCommonCmdLine : EfiStatus
  appendVBCmdLine : EfiStatus
  getOsVerAndSecPatchLevel : EfiStatus
  keyMasterSetRotAndBootState : EfiStatus
  setVerifiedBootHash : EfiStatus

/-- A slot verification: whatever its results, it keeps the frame of its operations. -/
structure SlotVerifier where
  verify : SlotVerifyRequest → Prog AvbState Exit (AvbSlotVerifyResult × Option AvbSlotVerifyData)
  frame : ∀ req, Steps AvbFrame (verify req)

def avbSlotVerifier (env : SlotVerifyEnv) : SlotVerifier where
  verify := avbSlotVerify env
  frame := fun _ => avbSlotVerify_avbFrame

/-- How `LoadImageAndAuthVB2` is left before its end: by a plain return, or by a jump to the
    label `out`. -/
inductive Leave where
  | ret (status : EfiStatus)
  | out (status : EfiStatus)
deriving DecidableEq, Repr

abbrev Vb2Prog (α : Type) := Prog LoaderState (Jump Exit Leave) α

def guardRet (status : EfiStatus) : Vb2Prog Unit :=
  if status ≠ EFI_SUCCESS then goto (.ret status) else return ()

def guardOut (status : EfiStatus) : Vb2Prog Unit :=
  if status ≠ EFI_SUCCESS then goto (.out status) else return ()

variable {E : Jump Exit Leave → LoaderState → Prop} {Q : Unit → LoaderState → Prop}
  {s : LoaderState}

theorem wp_guardRet (status : EfiStatus) :
    wp (guardRet status) Q E s ↔
      (status ≠ EFI_SUCCESS → E (.goto (.ret status)) s) ∧ (status = EFI_SUCCESS → Q () s) := by
  unfold guardRet
  rw [wp_ite]
  simp

theorem wp_guardOut (status : EfiStatus) :
    wp (guardOut status) Q E s ↔
      (status ≠ EFI_SUCCESS → E (.goto (.out status)) s) ∧ (status = EFI_SUCCESS → Q () s) := by
  unfold guardOut
  rw [wp_ite]
  simp

def allocStatus (allocated : Bool) : EfiStatus :=
  if allocated then EFI_SUCCESS else EFI_OUT_OF_RESOURCES

/-! ### Before the verification -/

variable (env : VerifiedBootEnv) (v : SlotVerifier) (req : SlotVerifyRequest)

def avbShouldUpdateRollback (isMultiSlot : Bool) : Prog LoaderState Exit Bool :=
  if isMultiSlot then zoom LoaderState.slotsLens (isCurrentSlotBootable env.slots)
  else return true

def vb2Init (hibernationResume : Bool) : Vb2Prog Unit := do
  when (!hibernationResume) do
    modify (·.setInfo fun i => { i with vbIntf := env.locateVerifiedBoot = EFI_SUCCESS })
    guardRet env.locateVerifiedBoot
    guardRet (allocStatus env.allocateCmdLine)
  guardOut (allocStatus env.allocateUserData)
  guardOut (allocStatus env.allocateOps)
  modify fun s => { s with avb :=
    { s.avb with userData := ⟨false, s.info.multiSlotBoot, [], []⟩ } }

def slotSuffix (info : BootInfo) : List UInt8 :=
  if info.multiSlotBoot then
    (unicodeStrToAsciiStr info.pname).drop (info.pname.length - MAX_SLOT_SUFFIX_SZ + 1)
  else []

def vb2SlotSuffix : Vb2Prog (List UInt8) := do
  let s ← get
  guardOut (if s.info.multiSlotBoot ∧ MAX_SLOT_SUFFIX_SZ + 1 > s.info.pname.length then
    EFI_INVALID_PARAMETER else EFI_SUCCESS)
  return slotSuffix s.info

/-- The rollback version the secure environment keeps is updated for a slot that has booted. -/
def vb2RollbackSyscall : Vb2Prog Unit := do
  let s ← get
  let update ← call (avbShouldUpdateRollback env s.avb.userData.isMultiSlot)
  if update then guardRet env.updateRollbackSyscall else return ()

/-! ### The verification -/

def IMG_BOOT : List UInt8 := ascii "boot"
def IMG_DTBO : List UInt8 := ascii "dtbo"
def IMG_RECOVERY : List UInt8 := ascii "recovery"
def IMG_VENDOR_BOOT : List UInt8 := ascii "vendor_boot"
def IMG_INIT_BOOT : List UInt8 := ascii "init_boot"

def bootsRecovery (s : LoaderState) : Bool :=
  (!s.info.multiSlotBoot || env.dynamicPartitionSupport) &&
    (s.info.bootIntoRecovery && !env.buildUseRecoveryAsBoot && !s.recoveryHasNoKernel)

def slotVerify : Vb2Prog (AvbSlotVerifyResult × Option AvbSlotVerifyData) := do
  let r ← call (zoom LoaderState.avbLens (v.verify req))
  modify fun s => { s with verifications := s.verifications ++ [r] }
  return r

/-- The two checks of a result, which give the same error: there is slot data, and the result
    is `OK` or one an unlocked device goes on with. -/
def checkResult (allowVerificationError : Bool)
    (r : AvbSlotVerifyResult × Option AvbSlotVerifyData) : Vb2Prog AvbSlotVerifyData :=
  match r.2 with
  | none => goto (.out EFI_LOAD_ERROR)
  | some data =>
    if allowVerificationError && resultShouldContinue r.1 then return data
    else if r.1 ≠ .OK then goto (.out EFI_LOAD_ERROR)
    else return data

def getHeaderVersion (data : AvbSlotVerifyData) : Nat :=
  match data.loadedPartitions.find? (·.partitionName == IMG_RECOVERY) with
  | none => 0
  | some p => headerVersion p.data % 2 ^ 8

/-- Without a loaded boot image the recovery image tells the header version. -/
def BootInfo.noteRecoveryHeader (data : AvbSlotVerifyData) (i : BootInfo) : BootInfo :=
  { i with headerVersion := if i.images.isEmpty then getHeaderVersion data else i.headerVersion }

/-- The partitions of a recovery boot whose header asks for a device tree; the second entry
    of dtbo is the source's. -/
def recoveryPartitions (hibernationResume : Bool) : List (List UInt8) :=
  [IMG_RECOVERY, IMG_DTBO] ++ (if hibernationResume then [] else [IMG_DTBO])

/-- The verification of a recovery boot: the partitions requested last, and the result. -/
def verifyRecovery (hibernationResume : Bool) :
    Vb2Prog (List (List UInt8) × AvbSlotVerifyResult × Option AvbSlotVerifyData) := do
  let first ← slotVerify v { req with requestedPartitions := [IMG_RECOVERY] }
  let data ← checkResult req.allowVerificationError first
  modify (·.setInfo (BootInfo.noteRecoveryHeader data))
  let s ← get
  if s.info.headerVersion ≥ BOOT_HEADER_VERSION_THREE then
    let requested := recoveryPartitions hibernationResume
    let second ← slotVerify v { req with requestedPartitions := requested }
    return (requested, second)
  else return ([IMG_RECOVERY], first)

/-- `GetCurrentSlotSuffix` on a multi-slot device, an empty suffix on another. -/
def currentSuffix : Prog LoaderState Exit Text := do
  let s ← get
  if s.info.multiSlotBoot then
    zoom LoaderState.slotsLens (getCurrentSlotSuffix env.slots)
  else return []

def readBootHeader : Vb2Prog Unit := do
  let suffix ← call (currentSuffix env)
  let read := env.loadImageHeader (wide "boot" ++ suffix)
  guardOut read.status
  guardOut (if read.size < BOOT_IMG_HDR_SIZE then EFI_BAD_BUFFER_SIZE else EFI_SUCCESS)
  modify (·.setInfo fun i => { i with headerVersion := headerVersion read.header })

def isValidPartition (slots : SlotState) (suffix name : Text) : Bool :=
  (getPartitionIndex slots.ptnEntries (name ++ suffix)).isSome

def bootPartitions (hibernationResume : Bool) (s : LoaderState) (suffix : Text) :
    List (List UInt8) :=
  (if s.info.images.isEmpty then [IMG_BOOT] else []) ++
  (if hibernationResume then [] else [IMG_DTBO]) ++
  (if isValidPartition s.slots suffix (wide "vendor_boot") &&
      s.info.headerVersion ≥ BOOT_HEADER_VERSION_THREE then [IMG_VENDOR_BOOT] else []) ++
  (if s.info.bootIntoRecovery && !env.buildUseRecoveryAsBoot && s.recoveryHasNoKernel then
      [IMG_RECOVERY] else []) ++
  (if s.info.hasBootInitRamdisk && s.info.headerVersion ≥ BOOT_HEADER_VERSION_FOUR then
      [IMG_INIT_BOOT] else [])

def verifyBoot (hibernationResume : Bool) :
    Vb2Prog (List (List UInt8) × AvbSlotVerifyResult × Option AvbSlotVerifyData) := do
  let s ← get
  when s.info.images.isEmpty (readBootHeader env)
  let suffix ← call (currentSuffix env)
  let s ← get
  let requested := bootPartitions env hibernationResume s suffix
  let r ← slotVerify v { req with requestedPartitions := requested }
  return (requested, r)

def vb2Request (s : LoaderState) (suffix : List UInt8) :
    SlotVerifyRequest where
  requestedPartitions := []
  abSuffix := suffix
  allowVerificationError := s.avb.device.devInfo.isUnlocked
  restartCausedByHashtreeCorruption := !s.avb.device.devInfo.verityMode
  noVbmetaPartition := bootsRecovery env s && !s.info.multiSlotBoot

def BootInfo.noteLoadedHeader (i : BootInfo) : BootInfo :=
  { i with
    headerVersion := (i.images.head?.map fun image =>
      OhMyAbl.headerVersion image.imageBuffer).getD i.headerVersion }

/-- What the verification of the images leaves for the rest: the partitions requested, the
    slot data, and whether the rollback indexes are to be updated. -/
structure VerifiedImages where
  requested : List (List UInt8)
  data : AvbSlotVerifyData
  updateRollbackIndex : Bool

def verifyFor (s : LoaderState) (req : SlotVerifyRequest) (hibernationResume : Bool) :
    Vb2Prog (List (List UInt8) × AvbSlotVerifyResult × Option AvbSlotVerifyData) :=
  if bootsRecovery env s then verifyRecovery v req hibernationResume
  else verifyBoot env v req hibernationResume

def verifyImages (hibernationResume : Bool) (suffix : List UInt8) : Vb2Prog VerifiedImages := do
  modify (·.setInfo BootInfo.noteLoadedHeader)
  let s ← get
  let req := vb2Request env s suffix
  let r ← verifyFor env v s req hibernationResume
  let data ← checkResult req.allowVerificationError r.2
  return ⟨r.1, data, !(req.allowVerificationError && resultShouldContinue r.2.1)⟩

/-! ### After the verification -/

def MAX_NUMBER_OF_LOADED_IMAGES : Nat := 32

/-- The image recorded for a requested name: the first loaded one whose whole name the
    requested one begins with. -/
def loadedImage (data : AvbSlotVerifyData) (name : List UInt8) : Option AvbPartitionData :=
  data.loadedPartitions.find? fun p => strnCmp name p.partitionName p.partitionName.length

def recordImages (data : AvbSlotVerifyData) : List (List UInt8) → Vb2Prog Unit
  | [] => return ()
  | name :: rest =>
    match loadedImage data name with
    | none => recordImages data rest
    | some p => do
      let s ← get
      if s.info.images.length ≥ MAX_NUMBER_OF_LOADED_IMAGES then
        goto (.out EFI_LOAD_ERROR)
      else
        modify (·.setInfo fun i =>
          { i with images := i.images ++ [⟨p.partitionName, p.data, p.dataSize⟩] })
        recordImages data rest

def recordRequested (data : AvbSlotVerifyData) (requested : List (List UInt8)) : Vb2Prog Unit := do
  recordImages data requested
  let s ← get
  guardOut (if s.info.images.length < requested.length then EFI_LOAD_ERROR else EFI_SUCCESS)

def avbWriteRollbackIndex (loc index : Nat) : Prog LoaderState Exit AvbIOResult := do
  let s ← get
  let update ← avbShouldUpdateRollback env s.avb.userData.isMultiSlot
  if update then
    let status ← zoom LoaderState.deviceLens (writeRollbackIndex env.device loc index)
    if status ≠ EFI_SUCCESS then return AvbIOResult.ERROR_IO else return .OK
  else return .OK

/-- One location of the update: a stored index that is smaller than the slot's is raised. -/
def updateRollbackIndex (loc current : Nat) : Prog LoaderState Exit AvbIOResult := do
  let s ← get
  let stored := avbReadRollbackIndex s.avb.device loc
  if current = 0 then return .OK
  else if stored.1 ≠ .OK then return stored.1
  else if stored.2 < current then avbWriteRollbackIndex env loc current
  else return .OK

def updateRollbackIndexes (env : VerifiedBootEnv) (indexes : Vector Nat 32) :
    List (Fin 32) → Vb2Prog Unit
  | [] => return ()
  | loc :: rest => do
    let io ← call (updateRollbackIndex env loc indexes[loc])
    guardOut (if io = .ERROR_OOM then EFI_OUT_OF_RESOURCES
      else if io ≠ .OK then EFI_DEVICE_ERROR else EFI_SUCCESS)
    updateRollbackIndexes env indexes rest

def getImage (info : BootInfo) (name : List UInt8) : Option ImageData :=
  info.images.find? fun image => strnCmp image.name name name.length

def imageStatus (info : BootInfo) (name : List UInt8) : EfiStatus :=
  if (getImage info name).isSome then EFI_SUCCESS else EFI_NOT_FOUND

def checkImages : Vb2Prog Unit := do
  guardOut (allocStatus env.allocateVBData)
  let s ← get
  match getImage s.info (if bootsRecovery env s then IMG_RECOVERY else IMG_BOOT) with
  | none => goto (.out EFI_NOT_FOUND)
  | some image =>
    guardOut (if image.imageSize < BOOT_IMG_HDR_SIZE then EFI_BAD_BUFFER_SIZE else EFI_SUCCESS)
    when (headerVersion image.imageBuffer ≥ BOOT_HEADER_VERSION_THREE) do
      guardOut (imageStatus s.info IMG_VENDOR_BOOT)
      when (s.info.bootIntoRecovery && s.recoveryHasNoKernel)
        (guardOut (imageStatus s.info IMG_RECOVERY))
    guardOut env.checkImageHeader

def vb2BootState (s : LoaderState) : BootState :=
  if s.avb.device.devInfo.isUnlocked then .ORANGE
  else if s.avb.userData.isUserKey then .YELLOW
  else .GREEN

def publishState (hibernationResume setRotAndBootState : Bool) : Vb2Prog Unit := do
  when (!hibernationResume) do
    guardOut env.appendVBCommonCmdLine
    guardOut env.appendVBCmdLine
  guardOut env.getOsVerAndSecPatchLevel
  when (!setRotAndBootState) (guardOut env.keyMasterSetRotAndBootState)
  when (!hibernationResume) (guardOut env.setVerifiedBootHash)

def vb2Prepare (hibernationResume : Bool) : Vb2Prog (List UInt8) := do
  vb2Init env hibernationResume
  let suffix ← vb2SlotSuffix
  vb2RollbackSyscall env
  return suffix

def vb2Authenticate (hibernationResume setRotAndBootState : Bool) (suffix : List UInt8) :
    Vb2Prog Unit := do
  let images ← verifyImages env v hibernationResume suffix
  recordRequested images.data images.requested
  when images.updateRollbackIndex
    (updateRollbackIndexes env images.data.rollbackIndexes (List.finRange 32))
  checkImages env
  modify fun s => s.setInfo fun i => { i with bootState := vb2BootState s }
  publishState env hibernationResume setRotAndBootState

def vb2Body (hibernationResume setRotAndBootState : Bool) : Vb2Prog Unit := do
  let suffix ← vb2Prepare env hibernationResume
  vb2Authenticate env v hibernationResume setRotAndBootState suffix

/-- The label `out`: after an error the boot state is red, and a multi-slot device gives up
    on its active slot. -/
def vb2Out (status : EfiStatus) : Prog LoaderState Exit EfiStatus := do
  if status ≠ EFI_SUCCESS then
    modify (·.setInfo fun i => { i with bootState := .RED })
    let s ← get
    if s.info.multiSlotBoot then
      let _ ← zoom LoaderState.slotsLens (handleActiveSlotUnbootable env.slots false)
      return status
    else return status
  else return status

def loadImageAndAuthVB2 (hibernationResume setRotAndBootState : Bool) :
    Prog LoaderState Exit EfiStatus := do
  modify (·.setInfo fun i => { i with bootState := .RED })
  match ← attempt (vb2Body env v hibernationResume setRotAndBootState) with
  | .ok () => return EFI_SUCCESS
  | .error (.ret status) => return status
  | .error (.out status) => vb2Out env status

/-! ### The stages before the verification -/

section Prepare

variable {env : VerifiedBootEnv} {hib : Bool} {s : LoaderState}

theorem avbShouldUpdateRollback_spec (multi : Bool) (s : LoaderState) :
    wp (avbShouldUpdateRollback env multi)
      (fun update s' => (∃ t, Settled env.slots s.slots t ∧ s' = { s with slots := t }) ∧
        update = (!multi || activeSlotBootable env.slots s.slots)) noExit s := by
  unfold avbShouldUpdateRollback
  cases multi with
  | false => exact ⟨⟨s.slots, .inl rfl, rfl⟩, rfl⟩
  | true =>
    rw [if_pos rfl, wp_zoom, wp_isCurrentSlotBootable]
    exact ⟨⟨_, .inr rfl, rfl⟩, rfl⟩

/-- What the stages before the verification change: the pointer to the verified-boot protocol,
    the user data, and at most the default slot. -/
structure Prepared (env : VerifiedBootEnv) (hib : Bool) (s s' : LoaderState) : Prop where
  info : s'.info = { s.info with
    vbIntf := if hib then s.info.vbIntf else decide (env.locateVerifiedBoot = EFI_SUCCESS) }
  device : s'.avb.device = s.avb.device
  slots : Settled env.slots s.slots s'.slots
  noKernel : s'.recoveryHasNoKernel = s.recoveryHasNoKernel
  verifications : s'.verifications = s.verifications

def earlyFailure (env : VerifiedBootEnv) (hib : Bool) (s : LoaderState) : Bool :=
  (!hib && (env.locateVerifiedBoot != EFI_SUCCESS || !env.allocateCmdLine)) ||
    (env.allocateUserData && env.allocateOps &&
      (!s.info.multiSlotBoot || s.info.pname.length ≥ MAX_SLOT_SUFFIX_SZ + 1) &&
      (!s.info.multiSlotBoot || activeSlotBootable env.slots s.slots) &&
      env.updateRollbackSyscall != EFI_SUCCESS)

def PrepareFails (early : Bool) : Jump Exit Leave → Prop
  | .goto (.ret status) => status ≠ EFI_SUCCESS ∧ early = true
  | .goto (.out status) => status ≠ EFI_SUCCESS ∧ early = false
  | .exit _ => False

theorem allocStatus_eq_success {allocated : Bool} :
    allocStatus allocated = EFI_SUCCESS ↔ allocated = true := by
  cases allocated <;> decide

def BootInfo.locate (env : VerifiedBootEnv) (hib : Bool) (i : BootInfo) : BootInfo :=
  { i with vbIntf := if hib then i.vbIntf else decide (env.locateVerifiedBoot = EFI_SUCCESS) }

theorem vb2Init_spec :
    wp (vb2Init env hib)
      (fun _ s' => s' = { s with
          info := s.info.locate env hib
          avb := { s.avb with userData := ⟨false, s.info.multiSlotBoot, [], []⟩ } } ∧
        (hib = false → env.locateVerifiedBoot = EFI_SUCCESS ∧ env.allocateCmdLine = true) ∧
        env.allocateUserData = true ∧ env.allocateOps = true)
      (fun j s' => s' = { s with info := s.info.locate env hib } ∧
        PrepareFails (earlyFailure env hib s) j) s := by
  unfold vb2Init
  rw [wp_bind]
  -- first the protocol and the command line
  refine wp_mono (Q := fun _ s' => s' = { s with info := s.info.locate env hib } ∧
    (hib = false → env.locateVerifiedBoot = EFI_SUCCESS ∧ env.allocateCmdLine = true))
    ?_ (fun _ s₁ h₁ => ?_) fun _ _ h => h
  · rw [wp_when]
    refine ⟨fun hhib => ?_, fun hhib => ?_⟩
    · obtain rfl : hib = false := Bool.not_eq_eq_eq_not.mp hhib
      rw [wp_bind, wp_modify, wp_bind, wp_guardRet]
      refine ⟨fun hstatus => ⟨rfl, hstatus, ?_⟩, fun hlocate => ?_⟩
      · simp [earlyFailure, hstatus]
      · rw [wp_guardRet, allocStatus_eq_success]
        refine ⟨fun hstatus => ⟨rfl, hstatus, ?_⟩, fun hcmd => ⟨rfl, fun _ => ⟨hlocate, hcmd⟩⟩⟩
        rw [ne_eq, allocStatus_eq_success, Bool.not_eq_true] at hstatus
        simp [earlyFailure, hstatus]
    · obtain rfl : hib = true := Bool.not_eq_eq_eq_not.mp hhib
      exact ⟨rfl, nofun⟩
  · obtain ⟨rfl, hfirst⟩ := h₁
    have hearly : (env.allocateUserData && env.allocateOps) = false →
        earlyFailure env hib s = false := by
      intro halloc
      cases hib with
      | true => simp [earlyFailure, halloc]
      | false => simp [earlyFailure, halloc, (hfirst rfl).1, (hfirst rfl).2]
    rw [wp_bind, wp_guardOut, allocStatus_eq_success]
    refine ⟨fun hstatus => ⟨rfl, hstatus, hearly ?_⟩, fun huser => ?_⟩
    · rw [ne_eq, allocStatus_eq_success, Bool.not_eq_true] at hstatus
      rw [hstatus]
      rfl
    · rw [wp_bind, wp_guardOut, allocStatus_eq_success]
      refine ⟨fun hstatus => ⟨rfl, hstatus, hearly ?_⟩, fun hops => ⟨rfl, hfirst, huser, hops⟩⟩
      rw [ne_eq, allocStatus_eq_success, Bool.not_eq_true] at hstatus
      rw [hstatus, Bool.and_false]

/-- The set-up fails exactly on an early failure, and clears what AVB keeps. -/
theorem vb2Prepare_spec :
    wp (vb2Prepare env hib)
      (fun suffix s' => Prepared env hib s s' ∧
        s'.avb.userData = ⟨false, s.info.multiSlotBoot, [], []⟩ ∧
        earlyFailure env hib s = false ∧ suffix = slotSuffix s.info)
      (fun j s' => Prepared env hib s s' ∧ PrepareFails (earlyFailure env hib s) j) s := by
  unfold vb2Prepare
  rw [wp_bind]
  refine wp_mono vb2Init_spec (fun _ s₁ h₁ => ?_) (fun j s₁ h₁ => ?_)
  · obtain ⟨rfl, hfirst, huser, hops⟩ := h₁
    -- from here on the failure depends on the partition name and the rollback call
    have hearly : earlyFailure env hib s =
        ((!s.info.multiSlotBoot || s.info.pname.length ≥ MAX_SLOT_SUFFIX_SZ + 1) &&
          (!s.info.multiSlotBoot || activeSlotBootable env.slots s.slots) &&
          env.updateRollbackSyscall != EFI_SUCCESS) := by
      cases hib with
      | true => simp [earlyFailure, huser, hops]
      | false => simp [earlyFailure, huser, hops, (hfirst rfl).1, (hfirst rfl).2]
    unfold vb2SlotSuffix
    rw [wp_bind, wp_bind, wp_get, wp_bind, wp_guardOut]
    have hname : (if s.info.multiSlotBoot ∧ MAX_SLOT_SUFFIX_SZ + 1 > s.info.pname.length then
        EFI_INVALID_PARAMETER else EFI_SUCCESS) = EFI_SUCCESS ↔
        (!s.info.multiSlotBoot || decide (s.info.pname.length ≥ MAX_SLOT_SUFFIX_SZ + 1)) =
          true := by
      cases s.info.multiSlotBoot with
      | false => simp
      | true =>
        by_cases hlen : s.info.pname.length ≥ MAX_SLOT_SUFFIX_SZ + 1
        · simp [hlen, Nat.not_lt.mpr hlen]
        · simp only [hlen, Nat.not_le.mp hlen]
          decide
    refine ⟨fun hstatus => ⟨⟨rfl, rfl, .inl rfl, rfl, rfl⟩, hstatus, ?_⟩, fun hstatus => ?_⟩
    · have hshort := Bool.not_eq_true _ ▸ mt hname.mpr hstatus
      rw [hearly, hshort]
      rfl
    · rw [hname.mp hstatus] at hearly
      unfold vb2RollbackSyscall
      rw [wp_pure, wp_bind, wp_bind, wp_get, wp_bind, wp_call]
      refine wp_mono (avbShouldUpdateRollback_spec _ _) (fun update s₂ h₂ => ?_)
        fun _ _ hf => hf.elim
      obtain ⟨⟨t, ht, rfl⟩, hupdate⟩ := h₂
      have hprepared : Prepared env hib s { s with
          info := s.info.locate env hib
          avb := { s.avb with userData := ⟨false, s.info.multiSlotBoot, [], []⟩ }
          slots := t } := ⟨rfl, rfl, ht, rfl, rfl⟩
      rw [show (!s.info.multiSlotBoot || activeSlotBootable env.slots s.slots) = update from
        hupdate.symm] at hearly
      cases update with
      | false =>
        exact ⟨hprepared, rfl, hearly, rfl⟩
      | true =>
        rw [if_pos rfl, wp_guardRet]
        refine ⟨fun hcall => ⟨hprepared, hcall, ?_⟩, fun hcall => ⟨hprepared, rfl, ?_, rfl⟩⟩
        · rw [hearly]
          simpa using hcall
        · rw [hearly, hcall]
          decide
  · obtain ⟨rfl, hfails⟩ := h₁
    exact ⟨⟨rfl, rfl, .inl rfl, rfl, rfl⟩, hfails⟩

end Prepare

/-! ### Frames -/

section Frames

variable {env : VerifiedBootEnv}

/-- What the stages between the set-up and the boot state keep, but for the update of the
    rollback indexes. -/
structure Vb2Frame (env : VerifiedBootEnv) (s s' : LoaderState) : Prop where
  device : DeviceFrame s.avb.device s'.avb.device
  slots : Settled env.slots s.slots s'.slots
  isMultiSlot : s'.avb.userData.isMultiSlot = s.avb.userData.isMultiSlot
  multiSlotBoot : s'.info.multiSlotBoot = s.info.multiSlotBoot
  bootIntoRecovery : s'.info.bootIntoRecovery = s.info.bootIntoRecovery
  vbIntf : s'.info.vbIntf = s.info.vbIntf
  noKernel : s'.recoveryHasNoKernel = s.recoveryHasNoKernel

instance : Std.Refl (Vb2Frame env) where
  refl _ := ⟨DeviceFrame.refl _, refl_of (Settled env.slots) _, rfl, rfl, rfl, rfl, rfl⟩

instance : IsTrans LoaderState (Vb2Frame env) where
  trans _ _ _ h h' :=
    ⟨h.device.trans h'.device, trans_of (Settled env.slots) h.slots h'.slots,
      h'.isMultiSlot.trans h.isMultiSlot, h'.multiSlotBoot.trans h.multiSlotBoot,
      h'.bootIntoRecovery.trans h.bootIntoRecovery, h'.vbIntf.trans h.vbIntf,
      h'.noKernel.trans h.noKernel⟩

variable {f : BootInfo → BootInfo} {s : LoaderState}

theorem Vb2Frame.setInfo (hm : (f s.info).multiSlotBoot = s.info.multiSlotBoot)
    (hr : (f s.info).bootIntoRecovery = s.info.bootIntoRecovery)
    (hv : (f s.info).vbIntf = s.info.vbIntf) : Vb2Frame env s (s.setInfo f) :=
  ⟨DeviceFrame.refl _, refl_of (Settled env.slots) _, rfl, hm, hr, hv, rfl⟩

theorem setInfo_steps (hm : ∀ i, (f i).multiSlotBoot = i.multiSlotBoot)
    (hr : ∀ i, (f i).bootIntoRecovery = i.bootIntoRecovery) (hv : ∀ i, (f i).vbIntf = i.vbIntf) :
    Steps (Vb2Frame env) (modify (·.setInfo f) : Vb2Prog PUnit) :=
  fun _ => .setInfo (hm _) (hr _) (hv _)

theorem Vb2Frame.ofSlots {t : SlotState} (h : Settled env.slots s.slots t) :
    Vb2Frame env s { s with slots := t } :=
  ⟨DeviceFrame.refl _, h, rfl, rfl, rfl, rfl, rfl⟩

section Rules

variable {R : LoaderState → LoaderState → Prop} [Std.Refl R]

theorem guardOut_steps (status : EfiStatus) : Steps R (guardOut status) := .ite (.goto _) (.pure _)

theorem checkResult_steps (allow : Bool) (r : AvbSlotVerifyResult × Option AvbSlotVerifyData) :
    Steps R (checkResult allow r) := by
  unfold checkResult
  cases r.2 with
  | none => exact .goto _
  | some data => exact .ite (.pure _) (.ite (.goto _) (.pure _))

end Rules

theorem currentSuffix_steps : Steps (Vb2Frame env) (currentSuffix env) := by
  refine .bind .get fun s => .ite ?_ (.pure _)
  exact .zoom (getCurrentSlotSuffix_steps env.slots) fun _ _ h => .ofSlots h

variable (v : SlotVerifier) (req : SlotVerifyRequest)

theorem slotVerify_steps : Steps (Vb2Frame env) (slotVerify v req) := by
  refine .bind (.call (.zoom (v.frame req) fun s t h => ?_)) fun r => .bind (fun s => ?_) fun _ =>
    .pure _
  · exact ⟨h.device, refl_of (Settled env.slots) _, h.multiSlot, rfl, rfl, rfl, rfl⟩
  · exact ⟨DeviceFrame.refl _, refl_of (Settled env.slots) _, rfl, rfl, rfl, rfl, rfl⟩

theorem verifyRecovery_steps (hib : Bool) : Steps (Vb2Frame env) (verifyRecovery v req hib) := by
  refine .bind (slotVerify_steps v _) fun first => .bind (checkResult_steps _ _) fun data => ?_
  refine .bind (setInfo_steps (fun _ => rfl) (fun _ => rfl) fun _ => rfl) fun _ => ?_
  refine .bind .get fun s => .ite ?_ (.pure _)
  exact .bind (slotVerify_steps v _) fun second => .pure _

theorem verifyBoot_steps (hib : Bool) : Steps (Vb2Frame env) (verifyBoot env v req hib) := by
  have hheader : Steps (Vb2Frame env) (readBootHeader env) := by
    refine .bind (.call currentSuffix_steps) fun suffix => .bind (guardOut_steps _) fun _ => ?_
    refine .bind (guardOut_steps _) fun _ => ?_
    exact setInfo_steps (fun _ => rfl) (fun _ => rfl) fun _ => rfl
  refine .bind .get fun s => .bind (.when hheader) fun _ => ?_
  refine .bind (.call currentSuffix_steps) fun suffix => .bind .get fun s => ?_
  exact .bind (slotVerify_steps v _) fun r => .pure _

theorem verifyImages_steps (hib : Bool) (suffix : List UInt8) :
    Steps (Vb2Frame env) (verifyImages env v hib suffix) := by
  refine .bind (setInfo_steps (fun _ => rfl) (fun _ => rfl) fun _ => rfl) fun _ => ?_
  refine .bind .get fun s => ?_
  refine .bind (.ite (verifyRecovery_steps v _ hib) (verifyBoot_steps v _ hib)) fun r => ?_
  exact .bind (checkResult_steps _ _) fun data => .pure _

/-- Only the `BootInfo` changes, and in it nothing that decides about the boot. -/
structure InfoStep (s s' : LoaderState) : Prop where
  avb : s'.avb = s.avb
  slots : s'.slots = s.slots
  verifications : s'.verifications = s.verifications
  multiSlotBoot : s'.info.multiSlotBoot = s.info.multiSlotBoot
  bootIntoRecovery : s'.info.bootIntoRecovery = s.info.bootIntoRecovery
  vbIntf : s'.info.vbIntf = s.info.vbIntf
  noKernel : s'.recoveryHasNoKernel = s.recoveryHasNoKernel

instance : Std.Refl InfoStep where
  refl _ := ⟨rfl, rfl, rfl, rfl, rfl, rfl, rfl⟩

instance : IsTrans LoaderState InfoStep where
  trans _ _ _ h h' :=
    ⟨h'.avb.trans h.avb, h'.slots.trans h.slots, h'.verifications.trans h.verifications,
      h'.multiSlotBoot.trans h.multiSlotBoot, h'.bootIntoRecovery.trans h.bootIntoRecovery,
      h'.vbIntf.trans h.vbIntf, h'.noKernel.trans h.noKernel⟩

theorem InfoStep.frame {s' : LoaderState} (h : InfoStep s s') : Vb2Frame env s s' := by
  refine ⟨?_, .inl h.slots, ?_, h.multiSlotBoot, h.bootIntoRecovery, h.vbIntf, h.noKernel⟩
  · rw [h.avb]
    exact DeviceFrame.refl _
  · rw [h.avb]

theorem recordImages_steps (data : AvbSlotVerifyData) (names : List (List UInt8)) :
    Steps InfoStep (recordImages data names) := by
  induction names with
  | nil => exact .pure _
  | cons name rest ih =>
    unfold recordImages
    cases loadedImage data name with
    | none => exact ih
    | some p =>
      refine .bind .get fun s => .ite (.goto _) (.bind (fun s => ?_) fun _ => ih)
      exact ⟨rfl, rfl, rfl, rfl, rfl, rfl, rfl⟩

theorem recordRequested_steps (data : AvbSlotVerifyData) (requested : List (List UInt8)) :
    Steps InfoStep (recordRequested data requested) :=
  .bind (recordImages_steps data requested) fun _ => .bind .get fun _ => guardOut_steps _

theorem checkImages_eq : Steps Eq (checkImages env) := by
  refine .bind (guardOut_steps _) fun _ => .bind .get fun s => ?_
  cases getImage s.info (if bootsRecovery env s then IMG_RECOVERY else IMG_BOOT) with
  | none => exact .goto _
  | some image =>
    refine .bind (guardOut_steps _) fun _ => .bind (.when ?_) fun _ => guardOut_steps _
    exact .bind (guardOut_steps _) fun _ => .when (guardOut_steps _)

theorem publishState_eq (hib rot : Bool) : Steps Eq (publishState env hib rot) := by
  refine .bind (.when (.bind (guardOut_steps _) fun _ => guardOut_steps _)) fun _ => ?_
  refine .bind (guardOut_steps _) fun _ => .bind (.when (guardOut_steps _)) fun _ => ?_
  exact .when (guardOut_steps _)

structure OutStep (s s' : LoaderState) : Prop where
  avb : s'.avb = s.avb
  log : s'.verifications = s.verifications
  vbIntf : s'.info.vbIntf = s.info.vbIntf

instance : Std.Refl OutStep where
  refl _ := ⟨rfl, rfl, rfl⟩

instance : IsTrans LoaderState OutStep where
  trans _ _ _ h h' := ⟨h'.avb.trans h.avb, h'.log.trans h.log, h'.vbIntf.trans h.vbIntf⟩

theorem vb2Out_steps (status : EfiStatus) : Steps OutStep (vb2Out env status) := by
  refine .ite (.bind (fun s => ⟨rfl, rfl, rfl⟩) fun _ => ?_) (.pure _)
  refine .bind .get fun s => .ite (.bind (fun s => ⟨rfl, rfl, rfl⟩) fun _ => .pure _) (.pure _)

end Frames

/-! ### How the verification fails -/

section Failures

variable {env : VerifiedBootEnv}

/-- A failure after the set-up: a jump to `out` with an error, or a reset of the device. -/
def AuthFails : Jump Exit Leave → Prop
  | .goto (.out status) => status ≠ EFI_SUCCESS
  | .goto (.ret _) => False
  | .exit _ => True

theorem AuthFails.out {status : EfiStatus} (h : status ≠ EFI_SUCCESS) :
    AuthFails (.goto (.out status)) := h

theorem guardOut_raises (status : EfiStatus) : Raises AuthFails (guardOut status) := by
  intro s
  rw [wp_guardOut]
  exact ⟨fun h => h, fun _ => trivial⟩

theorem checkResult_raises (allow : Bool) (r : AvbSlotVerifyResult × Option AvbSlotVerifyData) :
    Raises AuthFails (checkResult allow r) := by
  unfold checkResult
  cases r.2 with
  | none => exact .goto (.out (by decide))
  | some data => exact .ite (.pure _) (.ite (.goto (.out (by decide))) (.pure _))

variable (v : SlotVerifier) (req : SlotVerifyRequest)

theorem slotVerify_raises : Raises AuthFails (slotVerify v req) :=
  .bind (.call fun _ => trivial) fun _ _ => trivial

theorem verifyRecovery_raises (hib : Bool) : Raises AuthFails (verifyRecovery v req hib) := by
  refine .bind (slotVerify_raises v _) fun first => .bind (checkResult_raises _ _) fun data => ?_
  refine .bind (fun _ => trivial) fun _ => .bind .get fun s => ?_
  exact .ite (.bind (slotVerify_raises v _) fun _ => .pure _) (.pure _)

theorem readBootHeader_raises : Raises AuthFails (readBootHeader env) := by
  refine .bind (.call fun _ => trivial) fun suffix => .bind (guardOut_raises _) fun _ => ?_
  exact .bind (guardOut_raises _) fun _ _ => trivial

theorem verifyBoot_raises (hib : Bool) : Raises AuthFails (verifyBoot env v req hib) := by
  refine .bind .get fun s => .bind (.when readBootHeader_raises) fun _ => ?_
  refine .bind (.call fun _ => trivial) fun suffix => .bind .get fun s => ?_
  exact .bind (slotVerify_raises v _) fun _ => .pure _

theorem verifyImages_raises (hib : Bool) (suffix : List UInt8) :
    Raises AuthFails (verifyImages env v hib suffix) := by
  refine .bind (fun _ => trivial) fun _ => .bind .get fun s => .bind ?_ fun r => ?_
  · exact .ite (verifyRecovery_raises v _ hib) (verifyBoot_raises v _ hib)
  · exact .bind (checkResult_raises _ _) fun _ => .pure _

theorem recordRequested_raises (data : AvbSlotVerifyData) (requested : List (List UInt8)) :
    Raises AuthFails (recordRequested data requested) := by
  have himages : ∀ names, Raises AuthFails (recordImages data names) := by
    intro names
    induction names with
    | nil => exact .pure _
    | cons name rest ih =>
      unfold recordImages
      cases loadedImage data name with
      | none => exact ih
      | some p =>
        exact .bind .get fun _ => .ite (.goto (.out (by decide)))
          (.bind (fun _ => trivial) fun _ => ih)
  exact .bind (himages requested) fun _ => .bind .get fun _ => guardOut_raises _

theorem updateRollbackIndexes_raises (indexes : Vector Nat 32) (locs : List (Fin 32)) :
    Raises AuthFails (updateRollbackIndexes env indexes locs) := by
  induction locs with
  | nil => exact .pure _
  | cons loc rest ih =>
    exact .bind (.call fun _ => trivial) fun _ => .bind (guardOut_raises _) fun _ => ih

theorem checkImages_raises : Raises AuthFails (checkImages env) := by
  refine .bind (guardOut_raises _) fun _ => .bind .get fun s => ?_
  cases getImage s.info (if bootsRecovery env s then IMG_RECOVERY else IMG_BOOT) with
  | none => exact .goto (.out (by decide))
  | some image =>
    refine .bind (guardOut_raises _) fun _ => .bind (.when ?_) fun _ => guardOut_raises _
    exact .bind (guardOut_raises _) fun _ => .when (guardOut_raises _)

theorem publishState_raises (hib rot : Bool) : Raises AuthFails (publishState env hib rot) := by
  refine .bind (.when (.bind (guardOut_raises _) fun _ => guardOut_raises _)) fun _ => ?_
  refine .bind (guardOut_raises _) fun _ => .bind (.when (guardOut_raises _)) fun _ => ?_
  exact .when (guardOut_raises _)

theorem vb2Authenticate_raises (hib rot : Bool) (suffix : List UInt8) :
    Raises AuthFails (vb2Authenticate env v hib rot suffix) := by
  refine .bind (verifyImages_raises v hib suffix) fun images => ?_
  refine .bind (recordRequested_raises _ _) fun _ => ?_
  refine .bind (.when (updateRollbackIndexes_raises _ _)) fun _ => ?_
  exact .bind checkImages_raises fun _ => .bind (fun _ => trivial) fun _ =>
    publishState_raises hib rot

def BodyFails : Jump Exit Leave → Prop
  | .goto (.out status) => status ≠ EFI_SUCCESS
  | .goto (.ret status) => status ≠ EFI_SUCCESS
  | .exit _ => True

theorem vb2Body_raises (hib rot : Bool) : Raises BodyFails (vb2Body env v hib rot) := by
  intro s
  unfold vb2Body
  rw [wp_bind]
  refine wp_mono vb2Prepare_spec (fun suffix s₁ _ => ?_) (fun j s₁ h => ?_)
  · refine wp_mono (vb2Authenticate_raises v hib rot suffix s₁) (fun _ _ h => h) fun j _ h => ?_
    match j, h with
    | .exit _, _ => trivial
    | .goto (.out _), h => exact h
  · match j, h.2 with
    | .goto (.ret _), h => exact h.1
    | .goto (.out _), h => exact h.1

variable {s : LoaderState}

theorem vb2Out_returns (status : EfiStatus) :
    wp (vb2Out env status) (fun r _ => r = status) anyExit s := by
  unfold vb2Out
  rw [wp_ite, wp_bind, wp_modify, wp_bind, wp_get, wp_ite, wp_bind]
  exact ⟨fun _ => ⟨fun _ => wp_any (fun _ _ => rfl) fun _ _ => trivial, fun _ => rfl⟩,
    fun _ => rfl⟩

theorem loadImageAndAuthVB2_success (hib rot : Bool) {Q : LoaderState → Prop}
    (hbody : wp (vb2Body env v hib rot) (fun _ s' => Q s') anyExit
      (s.setInfo fun i => { i with bootState := .RED })) :
    wp (loadImageAndAuthVB2 env v hib rot) (fun status s' => status = EFI_SUCCESS → Q s')
      anyExit s := by
  unfold loadImageAndAuthVB2
  rw [wp_bind, wp_modify, wp_bind, wp_attempt]
  refine wp_mono (wp_and hbody (vb2Body_raises v hib rot _)) (fun _ _ h _ => h.1) fun j s' h => ?_
  match j, h.2 with
  | .exit _, _ => trivial
  | .goto (.ret status), hfail => exact fun hs => absurd hs hfail
  | .goto (.out status), hfail =>
    refine wp_imp (vb2Out_returns status) fun r _ hr hs => ?_
    exact absurd (hr.symm.trans hs) hfail

end Failures

/-! ### The history of the verifications -/

section History

variable {env : VerifiedBootEnv} {s : LoaderState}

def SameLog (s s' : LoaderState) : Prop := s'.verifications = s.verifications

instance : Std.Refl SameLog where
  refl _ := rfl

instance : IsTrans LoaderState SameLog where
  trans _ _ _ h h' := Eq.trans h' h

section Keeps

variable {R : LoaderState → LoaderState → Prop} [Std.Refl R] [IsTrans LoaderState R]

theorem currentSuffix_keeps (hslots : ∀ s t, R s { s with slots := t }) :
    Steps R (currentSuffix env) :=
  .bind .get fun _ =>
    .ite (.zoom (getCurrentSlotSuffix_steps env.slots) fun s t _ => hslots s t) (.pure _)

theorem readBootHeader_keeps (hslots : ∀ s t, R s { s with slots := t })
    (hheader : ∀ s version, R s (s.setInfo fun i => { i with headerVersion := version })) :
    Steps R (readBootHeader env) := by
  refine .bind (.call (currentSuffix_keeps hslots)) fun suffix =>
    .bind (guardOut_steps _) fun _ => ?_
  exact .bind (guardOut_steps _) fun _ s => hheader s _

end Keeps

theorem currentSuffix_log : Steps SameLog (currentSuffix env) :=
  currentSuffix_keeps fun _ _ => rfl

theorem readBootHeader_log : Steps SameLog (readBootHeader env) :=
  readBootHeader_keeps (fun _ _ => rfl) fun _ _ => rfl

variable (v : SlotVerifier)

theorem slotVerify_log (req : SlotVerifyRequest) :
    wp (slotVerify v req) (fun r s' => s'.verifications = s.verifications ++ [r]) anyExit s := by
  unfold slotVerify
  rw [wp_bind, wp_call, wp_zoom]
  refine Steps.imp (v.frame req) fun r t _ => ?_
  rfl

theorem checkResult_spec (allow : Bool) (r : AvbSlotVerifyResult × Option AvbSlotVerifyData) :
    wp (checkResult allow r)
      (fun data s' => s' = s ∧ r.2 = some data ∧
        ((allow && resultShouldContinue r.1) = true ∨ r.1 = .OK)) anyExit s := by
  unfold checkResult
  cases hdata : r.2 with
  | none => trivial
  | some data =>
    dsimp only
    split
    · rename_i hcontinue
      exact ⟨rfl, rfl, .inl hcontinue⟩
    · split
      · trivial
      · rename_i hok
        exact ⟨rfl, rfl, .inr (not_not.mp hok)⟩

theorem verifyFor_log (s₀ : LoaderState) (req : SlotVerifyRequest) (hib : Bool) :
    wp (verifyFor env v s₀ req hib)
      (fun r s' => ∃ earlier, s'.verifications = s.verifications ++ (earlier ++ [r.2]))
      anyExit s := by
  unfold verifyFor
  split
  · refine wp_seq (slotVerify_log v _) fun first s₁ h₁ => ?_
    refine wp_seq (checkResult_spec _ first) fun data s₂ h₂ => ?_
    obtain ⟨rfl, -, -⟩ := h₂
    rw [wp_bind, wp_modify, wp_bind, wp_get]
    split
    · refine wp_seq (slotVerify_log v _) fun second s₃ h₃ => ?_
      refine ⟨[first], ?_⟩
      rw [h₃]
      show s₂.verifications ++ [second] = _
      rw [h₁, List.append_assoc]
    · exact ⟨[], h₁⟩
  · unfold verifyBoot
    rw [wp_bind, wp_get]
    refine Steps.seq (.when readBootHeader_log) fun _ s₁ h₁ => ?_
    rw [wp_bind, wp_call]
    refine Steps.imp currentSuffix_log fun suffix s₂ h₂ => ?_
    rw [wp_bind, wp_get]
    refine wp_seq (slotVerify_log v _) fun r s₃ h₃ => ?_
    refine ⟨[], ?_⟩
    rw [h₃, show s₂.verifications = s.verifications from h₂.trans h₁]
    rfl

theorem verifyImages_log (hib : Bool) (suffix : List UInt8) :
    wp (verifyImages env v hib suffix)
      (fun r s' => r.updateRollbackIndex = true → s.avb.device.devInfo.isUnlocked = false ∧
        ∃ earlier, s'.verifications = s.verifications ++ (earlier ++ [(.OK, some r.data)]))
      anyExit s := by
  unfold verifyImages
  rw [wp_bind, wp_modify, wp_bind, wp_get]
  refine wp_seq (verifyFor_log v _ _ hib) fun r s₁ h₁ => ?_
  refine wp_seq (checkResult_spec _ r.2) fun data s₂ h₂ => ?_
  obtain ⟨rfl, hdata, hcheck⟩ := h₂
  intro hupdate
  have hnot : (s.avb.device.devInfo.isUnlocked && resultShouldContinue r.2.1) = false :=
    Bool.not_eq_eq_eq_not.mp hupdate
  have hok : r.2.1 = .OK := by
    obtain hcontinue | hok := hcheck
    · exact absurd (hnot.symm.trans hcontinue) (by decide)
    · exact hok
  obtain ⟨earlier, hlog⟩ := h₁
  refine ⟨?_, earlier, ?_⟩
  · rw [hok] at hnot
    simpa [resultShouldContinue] using hnot
  · rw [hlog, ← hok, ← hdata]
    rfl

end History

/-! ### The update of the rollback indexes -/

section Rollback

variable {env : VerifiedBootEnv} {indexes : Vector Nat 32}

def Raised (slot old new : Nat) : Prop := new = old ∨ (old < new ∧ new = slot)

theorem Raised.raise {slot old new : Nat} (h : Raised slot old new) (hlt : new < slot) :
    Raised slot old slot := by
  obtain rfl | ⟨hgt, rfl⟩ := h
  · exact .inr ⟨hlt, rfl⟩
  · exact absurd hlt (Nat.lt_irrefl _)

def IndexesSynced (d : DeviceInfoState) : Prop := d.stored.rollbackIndex = d.devInfo.rollbackIndex

structure IndexesRaised (indexes : Vector Nat 32) (d d' : DeviceInfoState) : Prop where
  unlocked : d'.devInfo.isUnlocked = d.devInfo.isUnlocked
  memory : ∀ loc : Fin 32,
    Raised indexes[loc] d.devInfo.rollbackIndex[loc] d'.devInfo.rollbackIndex[loc]
  stored : IndexesSynced d → ∀ loc : Fin 32,
    Raised indexes[loc] d.stored.rollbackIndex[loc] d'.stored.rollbackIndex[loc]

theorem IndexesRaised.refl (d : DeviceInfoState) : IndexesRaised indexes d d :=
  ⟨rfl, fun _ => .inl rfl, fun _ _ => .inl rfl⟩

variable {d : DeviceInfoState} {s s' s₀ t t' : LoaderState}

theorem writeRollbackIndex_raises {d₀ : DeviceInfoState} (h : IndexesRaised indexes d₀ d)
    (loc : Fin 32) (hlt : d.devInfo.rollbackIndex[loc] < indexes[loc]) :
    wp (writeRollbackIndex env.device loc indexes[loc])
      (fun _ d' => IndexesRaised indexes d₀ d') noExit d := by
  unfold writeRollbackIndex
  rw [wp_bind, wp_get]
  split
  · exact h
  · rw [dif_pos loc.isLt, wp_bind, wp_modify, wp, exec_writeDeviceInfo]
    have hmemory : ∀ k : Fin 32, Raised indexes[k] d₀.devInfo.rollbackIndex[k]
        (d.devInfo.rollbackIndex.set loc indexes[loc])[k] := by
      intro k
      by_cases hk : loc = k
      · subst hk
        simp only [Fin.getElem_fin, Vector.getElem_set_self]
        exact (h.memory loc).raise hlt
      · simp only [Fin.getElem_fin, Vector.getElem_set_ne _ _ (fun hval => hk (Fin.ext hval))]
        exact h.memory k
    refine ⟨h.unlocked, hmemory, fun hsynced k => ?_⟩
    by_cases hlands : env.device.writeLands d.writes = true
    · rw [if_pos hlands, hsynced]
      exact hmemory k
    · rw [if_neg hlands]
      exact h.stored hsynced k

/-- The state of the update: nothing was written, or the gate of the write operation was open
    and the indexes have been raised. -/
structure RollbackStep (env : VerifiedBootEnv) (indexes : Vector Nat 32) (s s' : LoaderState) :
    Prop where
  info : s'.info = s.info
  userData : s'.avb.userData = s.avb.userData
  slots : Settled env.slots s.slots s'.slots
  verifications : s'.verifications = s.verifications
  noKernel : s'.recoveryHasNoKernel = s.recoveryHasNoKernel
  device : s'.avb.device = s.avb.device ∨
    ((s.avb.userData.isMultiSlot = true → activeSlotBootable env.slots s.slots = true) ∧
      IndexesRaised indexes s.avb.device s'.avb.device)

theorem RollbackStep.refl (s : LoaderState) : RollbackStep env indexes s s :=
  ⟨rfl, rfl, refl_of (Settled env.slots) _, rfl, rfl, .inl rfl⟩

theorem RollbackStep.raised (h : RollbackStep env indexes s s') :
    IndexesRaised indexes s.avb.device s'.avb.device := by
  obtain hsame | ⟨-, hraised⟩ := h.device
  · rw [hsame]
    exact .refl _
  · exact hraised

theorem avbReadRollbackIndex_ok {loc : Fin 32} (h : (avbReadRollbackIndex d loc).1 = .OK) :
    (avbReadRollbackIndex d loc).2 = d.devInfo.rollbackIndex[loc] := by
  unfold avbReadRollbackIndex readRollbackIndex at h ⊢
  by_cases hfirst : d.firstReadDevInfo = true
  · simp only [hfirst, if_true] at h
    exact absurd h (by decide)
  · simp [hfirst]

theorem avbWriteRollbackIndex_step (h : RollbackStep env indexes s₀ s) (loc : Fin 32)
    (hlt : s.avb.device.devInfo.rollbackIndex[loc] < indexes[loc]) :
    wp (avbWriteRollbackIndex env loc indexes[loc])
      (fun _ s' => RollbackStep env indexes s₀ s') noExit s := by
  unfold avbWriteRollbackIndex
  rw [wp_bind, wp_get]
  refine wp_seq (avbShouldUpdateRollback_spec _ s) fun update s₁ h₁ => ?_
  obtain ⟨⟨t, ht, rfl⟩, hupdate⟩ := h₁
  have hslots : Settled env.slots s₀.slots t := trans_of (Settled env.slots) h.slots ht
  split
  · rename_i hopen
    -- the gate is asked in the present state, and answers as it would have at the start
    have hgate : s₀.avb.userData.isMultiSlot = true →
        activeSlotBootable env.slots s₀.slots = true := by
      intro hmulti
      rw [← h.slots.activeSlotBootable]
      rw [hupdate, h.userData, hmulti] at hopen
      exact hopen
    rw [wp_bind, wp_zoom]
    refine wp_imp (writeRollbackIndex_raises h.raised loc hlt) fun status d hd => ?_
    have hstep : RollbackStep env indexes s₀
        (LoaderState.deviceLens.set { s with slots := t } d) :=
      ⟨h.info, h.userData, hslots, h.verifications, h.noKernel, .inr ⟨hgate, hd⟩⟩
    split <;> exact hstep
  · exact ⟨h.info, h.userData, hslots, h.verifications, h.noKernel, h.device⟩

theorem updateRollbackIndex_step (h : RollbackStep env indexes s₀ s) (loc : Fin 32) :
    wp (updateRollbackIndex env loc indexes[loc])
      (fun _ s' => RollbackStep env indexes s₀ s') noExit s := by
  unfold updateRollbackIndex
  rw [wp_bind, wp_get]
  dsimp only
  split
  · exact h
  · split
    · exact h
    · rename_i hread
      split
      · rename_i hlt
        rw [avbReadRollbackIndex_ok (not_not.mp hread)] at hlt
        exact avbWriteRollbackIndex_step h loc hlt
      · exact h

theorem updateRollbackIndexes_run (h : RollbackStep env indexes s₀ s) (locs : List (Fin 32)) :
    wp (updateRollbackIndexes env indexes locs)
      (fun _ s' => RollbackStep env indexes s₀ s') (fun _ s' => RollbackStep env indexes s₀ s')
      s := by
  induction locs generalizing s with
  | nil => exact h
  | cons loc rest ih =>
    unfold updateRollbackIndexes
    rw [wp_bind, wp_call]
    refine wp_mono (updateRollbackIndex_step h loc) (fun io s₁ h₁ => ?_) fun _ _ hf => hf.elim
    rw [wp_bind, wp_guardOut]
    exact ⟨fun _ => h₁, fun _ => ih h₁⟩

/-- The stages behind the record of the images. -/
def vb2Finish (env : VerifiedBootEnv) (hibernationResume setRotAndBootState : Bool)
    (images : VerifiedImages) : Vb2Prog Unit := do
  Prog.when images.updateRollbackIndex
    (updateRollbackIndexes env images.data.rollbackIndexes (List.finRange 32))
  checkImages env
  modify fun s => s.setInfo fun i => { i with bootState := vb2BootState s }
  publishState env hibernationResume setRotAndBootState

def VerifiedImages.Updated (env : VerifiedBootEnv) (images : VerifiedImages) (s s' : LoaderState) :
    Prop :=
  RollbackStep env images.data.rollbackIndexes s s' ∧ (images.updateRollbackIndex = false → s' = s)

/-- The last stages update the indexes, look at the images and set the boot state. -/
theorem vb2Finish_spec (images : VerifiedImages) (hib rot : Bool) :
    wp (vb2Finish env hib rot images)
      (fun _ s' => ∃ s₁, images.Updated env s s₁ ∧ (checkImages env).exec s₁ = (.ok (), s₁) ∧
        s' = s₁.setInfo fun i => { i with bootState := vb2BootState s₁ })
      (fun _ s' => ∃ s₁, images.Updated env s s₁ ∧ InfoStep s₁ s') s := by
  have hrollback : wp (Prog.when images.updateRollbackIndex
      (updateRollbackIndexes env images.data.rollbackIndexes (List.finRange 32)))
      (fun _ s' => images.Updated env s s') (fun _ s' => images.Updated env s s') s := by
    rw [wp_when]
    refine ⟨fun hupdate => ?_, fun _ => ⟨.refl s, fun _ => rfl⟩⟩
    have hnever : images.updateRollbackIndex ≠ false := ne_false_of_eq_true hupdate
    exact wp_mono (updateRollbackIndexes_run (.refl s) _) (fun _ _ h => ⟨h, (absurd · hnever)⟩)
      fun _ _ h => ⟨h, (absurd · hnever)⟩
  unfold vb2Finish
  rw [wp_bind]
  refine wp_mono hrollback (fun _ s₁ h₁ => ?_) fun _ s₁ h₁ => ⟨s₁, h₁, refl_of InfoStep s₁⟩
  have hsame : s₁ = ((checkImages env).exec s₁).2 := checkImages_eq s₁
  rw [wp_bind, wp]
  rcases hchecks : (checkImages env).exec s₁ with ⟨e | ⟨⟩, s₂⟩ <;> rw [hchecks] at hsame <;>
    subst hsame
  · exact ⟨s₁, h₁, refl_of InfoStep s₁⟩
  · dsimp only
    rw [wp_bind, wp_modify]
    refine wp_mono (wp_of_steps (publishState_eq hib rot))
      (fun _ s₃ h₃ => ⟨s₁, h₁, hchecks, h₃.symm⟩) fun _ s₃ h₃ => ⟨s₁, h₁, ?_⟩
    subst h₃
    exact ⟨rfl, rfl, rfl, rfl, rfl, rfl, rfl⟩

/-- What a run has done to the rollback indexes: nothing, or they were raised after a trusted
    verification. -/
structure RollbackLaw (env : VerifiedBootEnv) (s s' : LoaderState) : Prop where
  unlocked : s'.avb.device.devInfo.isUnlocked = s.avb.device.devInfo.isUnlocked
  indexes : DeviceFrame s.avb.device s'.avb.device ∨
    ∃ earlier data, s'.verifications = s.verifications ++ (earlier ++ [(.OK, some data)]) ∧
      s.avb.device.devInfo.isUnlocked = false ∧
      (s.info.multiSlotBoot = true → activeSlotBootable env.slots s.slots = true) ∧
      IndexesRaised data.rollbackIndexes s.avb.device s'.avb.device

theorem RollbackLaw.ofFrame (h : DeviceFrame s.avb.device s'.avb.device) : RollbackLaw env s s' :=
  ⟨h.unlocked, .inl h⟩

theorem IndexesRaised.afterFrame {d₁ d' : DeviceInfoState} (hf : DeviceFrame d d₁)
    (h : IndexesRaised indexes d₁ d') : IndexesRaised indexes d d' := by
  refine ⟨h.unlocked.trans hf.unlocked, fun loc => ?_, fun hsync loc => ?_⟩
  · rw [← hf.index]
    exact h.memory loc
  · have hstored : d₁.stored.rollbackIndex = d.stored.rollbackIndex := by
      obtain hs | hs := hf.storedIndex
      · exact hs
      · exact hs.trans hsync.symm
    have hsync₁ : IndexesSynced d₁ := by
      rw [IndexesSynced, hstored, hf.index]
      exact hsync
    rw [← hstored]
    exact h.stored hsync₁ loc

theorem RollbackLaw.congr (h : RollbackLaw env s t) (havb : t'.avb = t.avb)
    (hlog : t'.verifications = t.verifications) : RollbackLaw env s t' := by
  obtain ⟨hunlocked, hindexes⟩ := h
  rw [← havb] at hunlocked hindexes
  rw [← hlog] at hindexes
  exact ⟨hunlocked, hindexes⟩

theorem RollbackLaw.infoStep (h : RollbackLaw env s t) (hstep : InfoStep t t') :
    RollbackLaw env s t' :=
  h.congr hstep.avb hstep.verifications

theorem RollbackLaw.prepared {hib : Bool} (hprep : Prepared env hib s t)
    (h : RollbackLaw env t t') :
    RollbackLaw env s t' := by
  obtain ⟨hunlocked, hindexes⟩ := h
  rw [hprep.device] at hunlocked hindexes
  refine ⟨hunlocked, ?_⟩
  obtain hframe | ⟨earlier, data, hlog, hlocked, hgate, hraised⟩ := hindexes
  · exact .inl hframe
  · rw [hprep.verifications] at hlog
    rw [hprep.slots.activeSlotBootable, hprep.info] at hgate
    exact .inr ⟨earlier, data, hlog, hlocked, hgate, hraised⟩

theorem RollbackLaw.update {s₁ s₂ : LoaderState} {data : AvbSlotVerifyData}
    (hframe : Vb2Frame env s s₁) (huser : s.avb.userData.isMultiSlot = s.info.multiSlotBoot)
    (hlocked : s.avb.device.devInfo.isUnlocked = false)
    (hlog : ∃ earlier, s₁.verifications = s.verifications ++ (earlier ++ [(.OK, some data)]))
    (hstep : RollbackStep env data.rollbackIndexes s₁ s₂) : RollbackLaw env s s₂ := by
  refine ⟨hstep.raised.unlocked.trans hframe.device.unlocked, ?_⟩
  obtain hsame | ⟨hgate, hraised⟩ := hstep.device
  · rw [hsame]
    exact .inl hframe.device
  · obtain ⟨earlier, hearlier⟩ := hlog
    rw [hframe.isMultiSlot, huser, hframe.slots.activeSlotBootable] at hgate
    refine .inr ⟨earlier, data, ?_, hlocked, hgate, hraised.afterFrame hframe.device⟩
    rw [hstep.verifications]
    exact hearlier

variable (v : SlotVerifier)

/-- However the authentication ends, stored rollback indexes obey the law. -/
theorem vb2Authenticate_law (hib rot : Bool) (suffix : List UInt8)
    (huser : s.avb.userData.isMultiSlot = s.info.multiSlotBoot) :
    wp (vb2Authenticate env v hib rot suffix)
      (fun _ s' => RollbackLaw env s s') (fun _ s' => RollbackLaw env s s') s := by
  unfold vb2Authenticate
  rw [wp_bind]
  refine wp_mono (wp_and (wp_of_steps (verifyImages_steps v hib suffix))
    (verifyImages_log v hib suffix)) (fun images s₁ h₁ => ?_) fun _ s₁ h₁ => .ofFrame h₁.1.device
  obtain ⟨hframe, hlog⟩ := h₁
  rw [wp_bind]
  refine wp_mono (wp_of_steps (recordRequested_steps _ _)) (fun _ s₂ h₂ => ?_)
    fun _ s₂ h₂ => (RollbackLaw.ofFrame hframe.device).infoStep h₂
  have hframe₂ : Vb2Frame env s s₂ := trans_of (Vb2Frame env) hframe h₂.frame
  have hupdated : ∀ s₃, images.Updated env s₂ s₃ → RollbackLaw env s s₃ := by
    rintro s₃ ⟨hstep, hsame⟩
    cases hupdate : images.updateRollbackIndex with
    | false =>
      rw [hsame hupdate]
      exact .ofFrame hframe₂.device
    | true =>
      obtain ⟨hlocked, hlast⟩ := hlog hupdate
      rw [← h₂.verifications] at hlast
      exact .update hframe₂ huser hlocked hlast hstep
  refine wp_mono (vb2Finish_spec images hib rot) (fun _ s' h => ?_) fun _ s' h => ?_
  · obtain ⟨s₃, h₃, -, rfl⟩ := h
    exact (hupdated s₃ h₃).congr rfl rfl
  · obtain ⟨s₃, h₃, hinfo⟩ := h
    exact (hupdated s₃ h₃).infoStep hinfo

theorem vb2Body_law (hib rot : Bool) (s : LoaderState) :
    wp (vb2Body env v hib rot)
      (fun _ s' => RollbackLaw env s s') (fun _ s' => RollbackLaw env s s') s := by
  unfold vb2Body
  rw [wp_bind]
  refine wp_mono vb2Prepare_spec (fun suffix s₁ h₁ => ?_) (fun j s₁ h₁ => ?_)
  · obtain ⟨hprep, huser, -, -⟩ := h₁
    have hmulti : s₁.avb.userData.isMultiSlot = s₁.info.multiSlotBoot := by
      rw [huser, hprep.info]
    exact wp_mono (vb2Authenticate_law v hib rot suffix hmulti) (fun _ _ h => .prepared hprep h)
      fun _ _ h => .prepared hprep h
  · refine .ofFrame ?_
    rw [h₁.1.device]
    exact DeviceFrame.refl _

theorem loadImageAndAuthVB2_law (hib rot : Bool) (s : LoaderState) :
    wp (loadImageAndAuthVB2 env v hib rot)
      (fun _ s' => RollbackLaw env s s') (fun _ s' => RollbackLaw env s s') s := by
  have hbody : wp (vb2Body env v hib rot)
      (fun _ s' => RollbackLaw env s s') (fun _ s' => RollbackLaw env s s')
      (s.setInfo fun i => { i with bootState := .RED }) :=
    wp_mono (vb2Body_law v hib rot _) (fun _ _ h => ⟨h.unlocked, h.indexes⟩)
      fun _ _ h => ⟨h.unlocked, h.indexes⟩
  unfold loadImageAndAuthVB2
  rw [wp_bind, wp_modify, wp_bind, wp_attempt]
  refine wp_mono hbody (fun _ _ h => h) (fun j t h => ?_)
  cases j with
  | exit e => exact h
  | goto leave =>
    cases leave with
    | ret status => exact h
    | out status =>
      -- the cleanup touches the boot info and the partition table
      exact wp_mono (wp_of_steps (vb2Out_steps status)) (fun _ _ h' => h.congr h'.avb h'.log)
        fun _ _ h' => h.congr h'.avb h'.log

/-- The boot on which rollback indexes may be raised to those of `data`: the device is locked,
    the last slot verification of the run gave `data` with the result `OK`, and the active
    slot of a multi-slot device is SUCCESSFUL and not UNBOOTABLE. -/
structure TrustedBoot (env : VerifiedBootEnv) (s s' : LoaderState) (data : AvbSlotVerifyData) :
    Prop where
  locked : s.avb.device.devInfo.isUnlocked = false
  verified : ∃ earlier, s'.verifications = s.verifications ++ (earlier ++ [(.OK, some data)])
  slot : s.info.multiSlotBoot = true → ∃ suffix e,
    activeResult env.slots s.slots = (EFI_SUCCESS, suffix) ∧
      bootEntry env.slots s.slots suffix = some e ∧ e.successful = true ∧ e.unbootable = false

/-- An index after the run: the same, or on a trusted boot the slot's, which is larger. -/
def IndexLaw (env : VerifiedBootEnv) (s s' : LoaderState) (loc : Fin 32) (old new : Nat) : Prop :=
  new = old ∨ ∃ data, TrustedBoot env s s' data ∧ old < new ∧ new = data.rollbackIndexes[loc]

theorem RollbackLaw.indexLaw (h : RollbackLaw env s s') (loc : Fin 32) :
    IndexLaw env s s' loc s.avb.device.devInfo.rollbackIndex[loc]
        s'.avb.device.devInfo.rollbackIndex[loc] ∧
      (IndexesSynced s.avb.device → IndexLaw env s s' loc s.avb.device.stored.rollbackIndex[loc]
        s'.avb.device.stored.rollbackIndex[loc]) := by
  obtain hframe | ⟨earlier, data, hlog, hlocked, hgate, hraised⟩ := h.indexes
  · refine ⟨.inl ?_, fun hsync => .inl ?_⟩
    · rw [hframe.index]
    · obtain hs | hs := hframe.storedIndex
      · rw [hs]
      · rw [hs, ← hsync]
  · have htrusted : TrustedBoot env s s' data := by
      refine ⟨hlocked, ⟨earlier, hlog⟩, fun hmulti => ?_⟩
      have hactive := hgate hmulti
      simp only [activeSlotBootable, slotBootable, Bool.and_eq_true, beq_iff_eq,
        Option.any_eq_true, Bool.not_eq_true'] at hactive
      obtain ⟨hok, e, he, hboot, hsucc⟩ := hactive
      exact ⟨_, e, Prod.ext hok rfl, he, hsucc, hboot⟩
    have hlaw : ∀ {old new : Nat}, Raised data.rollbackIndexes[loc] old new →
        IndexLaw env s s' loc old new := by
      intro old new hr
      obtain hsame | ⟨hlt, hslot⟩ := hr
      · exact .inl hsame
      · exact .inr ⟨data, htrusted, hlt, hslot⟩
    exact ⟨hlaw (hraised.memory loc), fun hsync => hlaw (hraised.stored hsync loc)⟩

/-- The state a run of `LoadImageAndAuthVB2` ends in, whether it returns or not. -/
def afterVB2 (env : VerifiedBootEnv) (v : SlotVerifier) (hib rot : Bool) (s : LoaderState) :
    LoaderState :=
  ((loadImageAndAuthVB2 env v hib rot).exec s).2

/-- **Rollback indexes only grow, and only on a trusted boot.**  However a run of
    `LoadImageAndAuthVB2` ends, each index in memory obeys the law, and so does each index in
    storage that agreed with memory. -/
theorem loadImageAndAuthVB2_rollbackIndexes (env : VerifiedBootEnv) (v : SlotVerifier)
    (hib rot : Bool) (s : LoaderState) (loc : Fin 32) :
    IndexLaw env s (afterVB2 env v hib rot s) loc s.avb.device.devInfo.rollbackIndex[loc]
        (afterVB2 env v hib rot s).avb.device.devInfo.rollbackIndex[loc] ∧
      (IndexesSynced s.avb.device →
        IndexLaw env s (afterVB2 env v hib rot s) loc s.avb.device.stored.rollbackIndex[loc]
          (afterVB2 env v hib rot s).avb.device.stored.rollbackIndex[loc]) :=
  (wp_final (loadImageAndAuthVB2_law v hib rot s)).indexLaw loc

/-- One boot, with the state it begins in up to the device info. -/
structure Boot where
  env : VerifiedBootEnv
  verifier : SlotVerifier
  hib : Bool
  rot : Bool
  state : LoaderState

/-- `DeviceInfoInit` has read the stored record, which carries the device magic. -/
def Boot.start (b : Boot) (stored : DeviceInfo) : LoaderState :=
  LoaderState.deviceLens.set b.state ⟨stored, false, stored, 0⟩

def Boot.finish (b : Boot) (stored : DeviceInfo) : LoaderState :=
  afterVB2 b.env b.verifier b.hib b.rot (b.start stored)

/-- The record in storage after a series of boots. -/
def storedAfter (stored : DeviceInfo) : List Boot → DeviceInfo :=
  List.foldl (fun d b => (b.finish d).avb.device.stored) stored

/-- **No series of boots lowers a stored rollback index**, whatever each of them verifies and
    however it ends. -/
theorem storedAfter_rollbackIndex (stored : DeviceInfo) (boots : List Boot) (loc : Fin 32) :
    stored.rollbackIndex[loc] ≤ (storedAfter stored boots).rollbackIndex[loc] := by
  induction boots generalizing stored with
  | nil => exact le_rfl
  | cons b rest ih =>
    have hlaw : RollbackLaw b.env (b.start stored) (b.finish stored) :=
      wp_final (loadImageAndAuthVB2_law b.verifier b.hib b.rot _)
    refine le_trans ?_ (ih (b.finish stored).avb.device.stored)
    obtain hsame | ⟨data, -, hraised, -⟩ := (hlaw.indexLaw loc).2 rfl
    · exact hsame.ge
    · exact hraised.le

end Rollback

end OhMyAbl
