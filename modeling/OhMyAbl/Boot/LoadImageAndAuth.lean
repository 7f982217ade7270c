/-
  **The gate in front of the kernel: `LoadImageAndAuth` and `LinuxLoaderEntry`.**

  Between the authentication and the return stand the deactivation of the theft protection (MDTP), a
  return for unlocked devices only and the milestone call, and each of them writes the one variable
  the status is kept in.  `AuthFailureIgnored` says when a failure is lost on this way.
-/
import OhMyAbl.Boot.TrustedKeys

namespace OhMyAbl

open Prog

/-! ### The model -/

inductive MdtpSystemState where
  | DISABLED
  | INACTIVE
  | ACTIVE
  | TAMPERED
  | INVALID
deriving DecidableEq, Repr

/-- The outcomes of the calls around the authentication, each made at most once, and the
    routines for the other versions of verified boot. -/
structure LoadImageEnv extends VerifiedBootEnv where
  hibernationSupportNoAes : Bool
  avbVersion : AvbVersion
  loadImageNoAuthWrapper : Prog LoaderState Exit EfiStatus
  loadImageAndAuthVB1 : Prog LoaderState Exit EfiStatus
  loadImageAndAuthForLE : Prog LoaderState Exit EfiStatus
  enableMdtpSupport : Bool
  -- `IsMdtpActive`: the lookup of the protocol, its call and the state it gives
  mdtpLocate : EfiStatus
  mdtpGetState : EfiStatus
  mdtpState : MdtpSystemState
  -- the second lookup and the deactivation
  mdtpLocateAgain : EfiStatus
  mdtpDeactivate : EfiStatus
  vbSendMilestone : EfiStatus
  -- whether `RI_HandleFailedSlot` returns, here and in `LinuxLoaderEntry`
  riHandleFailedSlot : Bool
  riHandleFailedSlotAgain : Bool

abbrev LoadProg (α : Type) := Prog LoaderState (Jump Exit EfiStatus) α

def guardStatus (status : EfiStatus) : LoadProg Unit :=
  if status ≠ EFI_SUCCESS then goto status else return ()

def loadPartitionImageHeader (env : VerifiedBootEnv) (name : Text) :
    Prog LoaderState Exit HeaderRead := do
  let suffix ← currentSuffix env
  return env.loadImageHeader (name ++ suffix)

def kernelSize (header : Bytes) : Nat := header.u32At 8
def ramdiskSize (header : Bytes) : Nat := header.u32At 12

def checkHeaders (env : VerifiedBootEnv) : Prog LoaderState Exit Unit := do
  let recovery ← loadPartitionImageHeader env (wide "recovery")
  when (recovery.status = EFI_SUCCESS ∧
      headerVersion recovery.header ≥ BOOT_HEADER_VERSION_THREE ∧ kernelSize recovery.header = 0)
    (modify fun s => { s with recoveryHasNoKernel := true })
  let initBoot ← loadPartitionImageHeader env (wide "init_boot")
  modify (·.setInfo fun i => { i with
    hasBootInitRamdisk := initBoot.status = EFI_SUCCESS ∧ initBoot.size ≠ 0 ∧
      headerVersion initBoot.header ≥ BOOT_HEADER_VERSION_FOUR ∧ ramdiskSize initBoot.header ≠ 0 })

def plainPname (s : LoaderState) : Text :=
  if s.info.bootIntoRecovery && !s.recoveryHasNoKernel then wide "recovery" else wide "boot"

/-- The partition name on a multi-slot device; recovery info has no suffix for slot `_a`. -/
def slottedPname (env : VerifiedBootEnv) (s : LoaderState) (suffix : Text) : Text :=
  if env.slots.recoveryInfo && suffix == slotA then wide "boot"
  else strnCatS MAX_GPT_NAME_SIZE
    (if env.dynamicPartitionSupport && s.info.bootIntoRecovery && !s.recoveryHasNoKernel then
      wide "recovery" else wide "boot") suffix suffix.length

def getPtnName (env : VerifiedBootEnv) : LoadProg Text := do
  let s ← get
  if s.info.multiSlotBoot then
    let slot ← call (zoom LoaderState.slotsLens (findBootableSlot env.slots))
    guardStatus slot.1
    guardStatus (if slot.2 = [] then EFI_LOAD_ERROR else EFI_SUCCESS)
    modify (·.setInfo fun i => { i with pname := slottedPname env s slot.2 })
    return slot.2
  else
    modify (·.setInfo fun i => { i with pname := plainPname s })
    return []

variable (env : LoadImageEnv) (v : SlotVerifier)

def isMdtpActive : EfiStatus × Bool :=
  if EFI_ERROR env.mdtpLocate then (env.mdtpLocate, false)
  else if EFI_ERROR env.mdtpGetState then (env.mdtpGetState, false)
  else (env.mdtpGetState, env.mdtpState ≠ .DISABLED ∧ env.mdtpState ≠ .INACTIVE)

def mdtpActive : Bool :=
  env.enableMdtpSupport &&
    ((isMdtpActive env).2 ||
      (EFI_ERROR (isMdtpActive env).1 && (isMdtpActive env).1 != EFI_NOT_FOUND))

/-- The `switch` over the versions of verified boot; a build has one of the four. -/
def authenticate (hibernationResume setRotAndBootState : Bool) : LoadProg EfiStatus :=
  match env.avbVersion with
  | .NO_AVB => do
    let status ← call env.loadImageNoAuthWrapper
    goto status
  | .AVB_1 => call env.loadImageAndAuthVB1
  | .AVB_2 => do
    let status ← call
      (loadImageAndAuthVB2 env.toVerifiedBootEnv v hibernationResume setRotAndBootState)
    modify fun s => { s with authStatus := some status }
    return status
  | .AVB_LE => call env.loadImageAndAuthForLE

def riHandleFailedSlot (returns : Bool) : Prog LoaderState Exit Unit :=
  if returns then return () else throw .reboot

/-- The deactivation of MDTP after a failure: its status replaces that of the
    authentication. -/
def deactivateMdtp (status : EfiStatus) : LoadProg EfiStatus :=
  if status ≠ EFI_SUCCESS ∧ mdtpActive env then
    if EFI_ERROR env.mdtpLocateAgain then goto env.mdtpLocateAgain
    else return env.mdtpDeactivate
  else return status

/-- The milestone call.  `DisplayVerifiedBootScreen` in front of it does nothing for any boot
    state. -/
def sendMilestone : LoadProg EfiStatus := do
  let s ← get
  if s.info.vbIntf then return env.vbSendMilestone
  else call (throw .fault)

def releaseBoot (status : EfiStatus) : LoadProg EfiStatus := do
  let s ← get
  if s.avb.device.devInfo.isUnlocked ∧ status ≠ EFI_SUCCESS then goto status
  else if env.avbVersion ≠ .AVB_LE then sendMilestone env
  else return status

def finishAuth (status : EfiStatus) : LoadProg EfiStatus := do
  when (status ≠ EFI_SUCCESS ∧ env.slots.recoveryInfo)
    (call (riHandleFailedSlot env.riHandleFailedSlot))
  let status ← deactivateMdtp env status
  releaseBoot env status

def loadImageAndAuth (hibernationResume setRotAndBootState : Bool) :
    Prog LoaderState Exit EfiStatus := block do
  modify fun s => { s with authStatus := none }
  if env.hibernationSupportNoAes ∧ env.avbVersion = .AVB_LE ∧ hibernationResume then
    return EFI_SUCCESS
  else
    let s ← get
    when (!s.info.flashlessBoot && !s.info.networkBoot)
      (call (checkHeaders env.toVerifiedBootEnv))
    let _ ← getPtnName env.toVerifiedBootEnv
    let status ← authenticate env v hibernationResume setRotAndBootState
    if hibernationResume then return status else finishAuth env status

inductive LoaderEnd where
  | bootLinux
  | fastboot
deriving DecidableEq, Repr

def enterFastboot : Prog LoaderState Exit LoaderEnd := do
  when env.slots.recoveryInfo do
    let _ ← zoom LoaderState.slotsLens (getCurrentSlotSuffix env.slots)
    riHandleFailedSlot env.riHandleFailedSlotAgain
  return .fastboot

def linuxLoaderEntry (setRotAndBootState : Bool) : Prog LoaderState Exit LoaderEnd := do
  let status ← loadImageAndAuth env v false setRotAndBootState
  if status ≠ EFI_SUCCESS then enterFastboot env else return .bootLinux

/-! ### Before the authentication -/

section Names

variable {env : VerifiedBootEnv} {s : LoaderState}

/-- What happens before the partition is named: the table may get its default slot. -/
structure HeadersChecked (env : VerifiedBootEnv) (s s' : LoaderState) : Prop where
  avb : s'.avb = s.avb
  multiSlotBoot : s'.info.multiSlotBoot = s.info.multiSlotBoot
  slots : Settled env.slots s.slots s'.slots

instance : Std.Refl (HeadersChecked env) where
  refl _ := ⟨rfl, rfl, refl_of (Settled env.slots) _⟩

instance : IsTrans LoaderState (HeadersChecked env) where
  trans _ _ _ h h' :=
    ⟨h'.avb.trans h.avb, h'.multiSlotBoot.trans h.multiSlotBoot,
      trans_of (Settled env.slots) h.slots h'.slots⟩

theorem getCurrentSlotSuffix_raises (env : SlotEnv) :
    Raises (fun _ => False) (getCurrentSlotSuffix env) := by
  refine .bind .get fun s => .ite (.bind (fun t => ?_) fun _ => .pure _) (.pure _)
  rw [wp_getActiveSlot]
  trivial

theorem currentSuffix_raises : Raises (fun _ => False) (currentSuffix env) := by
  refine .bind .get fun s => .ite (fun t => ?_) (.pure _)
  rw [wp_zoom]
  exact getCurrentSlotSuffix_raises env.slots t.slots

theorem loadPartitionImageHeader_steps (name : Text) :
    Steps (HeadersChecked env) (loadPartitionImageHeader env name) := by
  refine .bind (.bind .get fun s => .ite ?_ (.pure _)) fun _ => .pure _
  exact .zoom (getCurrentSlotSuffix_steps env.slots) fun s t h => ⟨rfl, rfl, h⟩

theorem checkHeaders_steps : Steps (HeadersChecked env) (checkHeaders env) := by
  refine .bind (loadPartitionImageHeader_steps _) fun recovery => ?_
  refine .bind (.when fun s => ⟨rfl, rfl, refl_of (Settled env.slots) _⟩) fun _ => ?_
  refine .bind (loadPartitionImageHeader_steps _) fun initBoot s => ?_
  exact ⟨rfl, rfl, refl_of (Settled env.slots) _⟩

theorem checkHeaders_raises : Raises (fun _ => False) (checkHeaders env) := by
  refine .bind (.bind currentSuffix_raises fun _ => .pure _) fun recovery => ?_
  refine .bind (.when fun s => trivial) fun _ => ?_
  exact .bind (.bind currentSuffix_raises fun _ => .pure _) fun initBoot s => trivial

/-- The partition has a name; on a multi-slot device a slot was chosen for it. -/
structure Named (env : VerifiedBootEnv) (s s' : LoaderState) : Prop where
  avb : s'.avb = s.avb
  multiSlotBoot : s'.info.multiSlotBoot = s.info.multiSlotBoot
  selectable : s.info.multiSlotBoot = true → slotSelectable env.slots s.slots = true
  chosen : s.info.multiSlotBoot = true →
    SlotChosen env.slots s.slots s'.slots (activeResult env.slots s.slots).2
  pname : s.info.multiSlotBoot = true → MAX_SLOT_SUFFIX_SZ + 1 ≤ s'.info.pname.length

theorem slottedPname_length (suffix : Text) :
    MAX_SLOT_SUFFIX_SZ + 1 ≤ (slottedPname env s suffix).length := by
  unfold slottedPname
  split
  · decide
  · refine Nat.le_trans ?_ (length_le_strnCatS _ _ _ _)
    split <;> decide

theorem slotSelectable_active {env : SlotEnv} {s : SlotState} (h : slotSelectable env s = true) :
    (activeResult env s).1 = EFI_SUCCESS ∧ (activeResult env s).2 ≠ [] := by
  unfold slotSelectable at h
  simp only [Bool.and_eq_true, beq_iff_eq, Bool.not_eq_true', List.isEmpty_eq_false_iff] at h
  exact ⟨h.1.1, h.1.2⟩

def NameFails (env : VerifiedBootEnv) (s : LoaderState) (j : Jump Exit EfiStatus) : Prop :=
  s.info.multiSlotBoot = true ∧ slotSelectable env.slots s.slots = false ∧
    j ≠ .goto EFI_SUCCESS

theorem wp_guardStatus (status : EfiStatus) {Q : Unit → LoaderState → Prop}
    {E : Jump Exit EfiStatus → LoaderState → Prop} :
    wp (guardStatus status) Q E s ↔
      (status ≠ EFI_SUCCESS → E (.goto status) s) ∧ (status = EFI_SUCCESS → Q () s) := by
  unfold guardStatus
  rw [wp_ite]
  simp

theorem getPtnName_spec :
    wp (getPtnName env) (fun _ s' => Named env s s') (fun j _ => NameFails env s j) s := by
  unfold getPtnName
  rw [wp_bind, wp_get, wp_ite]
  refine ⟨fun hmulti => ?_, fun hmulti => ?_⟩
  · rw [wp_bind, wp_call, wp_zoom]
    refine wp_mono (findBootableSlot_spec env.slots s.slots) (fun r t h => ?_) fun e t h => ?_
    · rw [wp_bind, wp_guardStatus]
      split at h
      · rename_i hselect
        obtain ⟨rfl, hchosen⟩ := h
        obtain ⟨hactive, hne⟩ := slotSelectable_active hselect
        refine ⟨fun hstatus => absurd hactive hstatus, fun _ => ?_⟩
        rw [wp_bind, wp_guardStatus, if_neg hne]
        refine ⟨fun hstatus => absurd rfl hstatus, fun _ => ?_⟩
        exact ⟨rfl, rfl, fun _ => hselect, fun _ => hchosen, fun _ => slottedPname_length _⟩
      · rename_i hselect
        have hselect := (Bool.not_eq_true _).mp hselect
        refine ⟨fun hstatus => ⟨hmulti, hselect, fun hj => hstatus (Jump.goto.inj hj)⟩,
          fun hstatus => ?_⟩
        rw [wp_bind, wp_guardStatus, if_pos (h.resolve_left fun hne => hne hstatus)]
        exact ⟨fun _ => ⟨hmulti, hselect, by decide⟩, fun hload => absurd hload (by decide)⟩
    · exact ⟨hmulti, h, nofun⟩
  · refine ⟨rfl, rfl, fun h => absurd h hmulti, fun h => absurd h hmulti, fun h => absurd h hmulti⟩

end Names

/-! ### How the authentication ends -/

section Auth

variable {env : VerifiedBootEnv} {s : LoaderState}

structure AuthStep (env : VerifiedBootEnv) (s s' : LoaderState) : Prop where
  vbIntf : s'.info.vbIntf = s.info.vbIntf
  multiSlotBoot : s'.info.multiSlotBoot = s.info.multiSlotBoot
  slots : Settled env.slots s.slots s'.slots

instance : Std.Refl (AuthStep env) where
  refl _ := ⟨rfl, rfl, refl_of (Settled env.slots) _⟩

instance : IsTrans LoaderState (AuthStep env) where
  trans _ _ _ h h' :=
    ⟨h'.vbIntf.trans h.vbIntf, h'.multiSlotBoot.trans h.multiSlotBoot,
      trans_of (Settled env.slots) h.slots h'.slots⟩

variable {s' : LoaderState} {suffix : Text}

theorem Vb2Frame.authStep (h : Vb2Frame env s s') : AuthStep env s s' :=
  ⟨h.vbIntf, h.multiSlotBoot, h.slots⟩

theorem vb2BootState_ne_red (s : LoaderState) : vb2BootState s ≠ .RED := by
  unfold vb2BootState
  split_ifs <;> decide

variable (v : SlotVerifier)

theorem vb2Authenticate_notRed (hib rot : Bool) (suffix : List UInt8) :
    wp (vb2Authenticate env v hib rot suffix)
      (fun _ s' => AuthStep env s s' ∧ s'.info.bootState ≠ .RED) (fun _ s' => AuthStep env s s')
      s := by
  unfold vb2Authenticate
  rw [wp_bind]
  refine wp_mono (wp_of_steps (verifyImages_steps v hib suffix)) (fun images s₁ h₁ => ?_)
    fun _ _ h => h.authStep
  have hrecorded : ∀ s₂, InfoStep s₁ s₂ → AuthStep env s s₂ :=
    fun _ h₂ => trans_of (AuthStep env) h₁.authStep h₂.frame.authStep
  rw [wp_bind]
  refine wp_mono (wp_of_steps (recordRequested_steps _ _)) (fun _ s₂ h₂ => ?_)
    fun _ s₂ h₂ => hrecorded s₂ h₂
  have hupdated : ∀ s₃, images.Updated env s₂ s₃ → AuthStep env s s₃ := fun s₃ h₃ =>
    trans_of (AuthStep env) (hrecorded s₂ h₂) ⟨by rw [h₃.1.info], by rw [h₃.1.info], h₃.1.slots⟩
  refine wp_mono (vb2Finish_spec images hib rot) (fun _ s' h => ?_) fun _ s' h => ?_
  · obtain ⟨s₃, h₃, -, rfl⟩ := h
    have hstep := hupdated s₃ h₃
    exact ⟨⟨hstep.vbIntf, hstep.multiSlotBoot, hstep.slots⟩, vb2BootState_ne_red s₃⟩
  · obtain ⟨s₃, h₃, hinfo⟩ := h
    exact trans_of (AuthStep env) (hupdated s₃ h₃) hinfo.frame.authStep

/-- How the body is left early: before the cleanup with the state it had, or to the cleanup. -/
structure BodyLeft (env : VerifiedBootEnv) (s : LoaderState) (j : Jump Exit Leave)
    (s' : LoaderState) : Prop where
  vbIntf : s'.info.vbIntf = decide (env.locateVerifiedBoot = EFI_SUCCESS)
  multiSlotBoot : s'.info.multiSlotBoot = s.info.multiSlotBoot
  slots : Settled env.slots s.slots s'.slots
  early : ∀ status, j = .goto (.ret status) →
    earlyFailure env false s = true ∧ s'.info.bootState = s.info.bootState

theorem vb2Body_left (rot : Bool) :
    wp (vb2Body env v false rot)
      (fun _ s' => s'.info.vbIntf = decide (env.locateVerifiedBoot = EFI_SUCCESS) ∧
        s'.info.bootState ≠ .RED)
      (fun j s' => BodyLeft env s j s') s := by
  unfold vb2Body
  rw [wp_bind]
  refine wp_mono vb2Prepare_spec (fun suffix s₁ h₁ => ?_) (fun j s₁ h₁ => ?_)
  · obtain ⟨hprep, -, -, -⟩ := h₁
    have hvb : s₁.info.vbIntf = decide (env.locateVerifiedBoot = EFI_SUCCESS) := by
      rw [hprep.info]
      rfl
    refine wp_mono (wp_and (vb2Authenticate_notRed v false rot suffix)
      (vb2Authenticate_raises v false rot suffix s₁)) (fun _ s₂ h => ?_) fun j s₂ h => ?_
    · exact ⟨h.1.1.vbIntf.trans hvb, h.1.2⟩
    · obtain ⟨hstep, hfail⟩ := h
      refine ⟨hstep.vbIntf.trans hvb, ?_, trans_of (Settled env.slots) hprep.slots hstep.slots, ?_⟩
      · rw [hstep.multiSlotBoot, hprep.info]
      · rintro status rfl
        exact hfail.elim
  · obtain ⟨hprep, hfail⟩ := h₁
    refine ⟨?_, ?_, hprep.slots, ?_⟩
    · rw [hprep.info]
      rfl
    · rw [hprep.info]
    · rintro status rfl
      exact ⟨hfail.2, by rw [hprep.info]⟩

def OnSlot (env : VerifiedBootEnv) (suffix : Text) (s : LoaderState) : Prop :=
  s.info.multiSlotBoot = true → activeResult env.slots s.slots = (EFI_SUCCESS, suffix) ∧
    suffix ≠ [] ∧ settle env.slots s.slots = s.slots

def NoOtherSlot (env : VerifiedBootEnv) (suffix : Text) (s : LoaderState) : Prop :=
  s.info.multiSlotBoot = true → otherSlotBootable env.slots s.slots suffix = false

theorem OnSlot.settled (h : OnSlot env suffix s)
    (hmulti : s'.info.multiSlotBoot = s.info.multiSlotBoot)
    (hslots : Settled env.slots s.slots s'.slots) :
    OnSlot env suffix s' ∧ (NoOtherSlot env suffix s' ↔ NoOtherSlot env suffix s) := by
  have heq : s.info.multiSlotBoot = true → s'.slots = s.slots := by
    intro hm
    obtain heq | heq := hslots
    · exact heq
    · exact heq.trans (h hm).2.2
  refine ⟨fun hm => ?_, fun hno hm => ?_, fun hno hm => ?_⟩
  · rw [hmulti] at hm
    rw [heq hm]
    exact h hm
  · rw [← heq hm]
    exact hno (hmulti.trans hm)
  · rw [hmulti] at hm
    rw [heq hm]
    exact hno hm

theorem vb2Out_red (hslot : OnSlot env suffix s) {status : EfiStatus}
    (hfail : status ≠ EFI_SUCCESS) :
    wp (vb2Out env status)
      (fun _ s' => s'.info.bootState = .RED ∧ NoOtherSlot env suffix s)
      (fun _ _ => ¬ NoOtherSlot env suffix s) s := by
  unfold vb2Out
  rw [if_pos hfail, wp_bind, wp_modify, wp_bind, wp_get, wp_ite]
  refine ⟨fun hmulti => ?_, fun hmulti => ⟨rfl, fun h => absurd h hmulti⟩⟩
  obtain ⟨hactive, hne, -⟩ := hslot hmulti
  obtain ⟨t, -, hexec⟩ := exec_handleActiveSlotUnbootable hactive (activeResult_suffix hactive hne)
  rw [wp_bind, wp_zoom]
  show wp _ _ _ s.slots
  rw [wp, hexec]
  cases hother : otherSlotBootable env.slots s.slots suffix with
  | true => exact fun hno => absurd ((hno hmulti).symm.trans hother) (by decide)
  | false => exact ⟨rfl, fun _ => hother⟩

structure Vb2Ends (env : VerifiedBootEnv) (suffix : Text) (s : LoaderState) (status : EfiStatus)
    (s' : LoaderState) : Prop where
  unlocked : s'.avb.device.devInfo.isUnlocked = s.avb.device.devInfo.isUnlocked
  vbIntf : s'.info.vbIntf = decide (env.locateVerifiedBoot = EFI_SUCCESS)
  success : status = EFI_SUCCESS → s'.info.bootState ≠ .RED
  failure : status ≠ EFI_SUCCESS → s'.info.bootState = .RED ∧
    (earlyFailure env false s = true ∨ NoOtherSlot env suffix s)

theorem loadImageAndAuthVB2_ends (hslot : OnSlot env suffix s) (v : SlotVerifier) (rot : Bool) :
    wp (loadImageAndAuthVB2 env v false rot) (fun status s' => Vb2Ends env suffix s status s')
      anyExit s := by
  have hends : wp (loadImageAndAuthVB2 env v false rot)
      (fun status s' => s'.info.vbIntf = decide (env.locateVerifiedBoot = EFI_SUCCESS) ∧
        (status = EFI_SUCCESS → s'.info.bootState ≠ .RED) ∧
        (status ≠ EFI_SUCCESS → s'.info.bootState = .RED ∧
          (earlyFailure env false s = true ∨ NoOtherSlot env suffix s))) anyExit s := by
    unfold loadImageAndAuthVB2
    rw [wp_bind, wp_modify, wp_bind, wp_attempt]
    refine wp_mono (wp_and (vb2Body_left v rot) (vb2Body_raises v false rot _))
      (fun _ s' h => ⟨h.1.1, fun _ => h.1.2, fun hs => absurd rfl hs⟩) fun j s' h => ?_
    obtain ⟨hleft, hfail⟩ := h
    match j, hleft, hfail with
    | .exit _, _, _ => trivial
    | .goto (.ret status), hleft, hfail =>
      obtain ⟨hearly, hstate⟩ := hleft.early status rfl
      exact ⟨hleft.vbIntf, fun hs => absurd hs hfail, fun _ => ⟨hstate, .inl hearly⟩⟩
    | .goto (.out status), hleft, hfail =>
      obtain ⟨hslot', hother'⟩ := hslot.settled hleft.multiSlotBoot hleft.slots
      refine wp_mono (wp_and (wp_and (vb2Out_red hslot' hfail) (vb2Out_returns status))
        (wp_of_steps (vb2Out_steps status))) (fun r s'' h => ?_) fun _ _ _ => trivial
      obtain ⟨⟨⟨hred, hother⟩, hr⟩, hstep⟩ := h
      subst hr
      exact ⟨hstep.vbIntf.trans hleft.vbIntf, fun hs => absurd hs hfail,
        fun _ => ⟨hred, .inr (hother'.mp hother)⟩⟩
  refine wp_mono (wp_and hends (loadImageAndAuthVB2_law v false rot s)) (fun status s' h => ?_)
    fun _ _ _ => trivial
  exact ⟨h.2.unlocked, h.1.1, h.1.2.1, h.1.2.2⟩

def failingVerifier : SlotVerifier where
  verify := fun _ => return .mk AvbSlotVerifyResult.ERROR_IO none
  frame := fun _ => .pure _

def StaysOn (j : Jump Exit Leave) : Prop := ∀ e, j ≠ .exit e

theorem guardOut_staysOn (status : EfiStatus) : Raises StaysOn (guardOut status) :=
  .ite (.goto nofun) (.pure _)

theorem currentSuffix_staysOn : Raises StaysOn (call (currentSuffix env) : Vb2Prog Text) := by
  intro s
  rw [wp_call]
  exact wp_mono (currentSuffix_raises s) (fun _ _ h => h) fun _ _ h => h.elim

theorem verifyImages_failing (hib : Bool) (suffix : List UInt8) :
    wp (verifyImages env failingVerifier hib suffix) (fun _ _ => False)
      (fun j _ => StaysOn j) s := by
  unfold verifyImages verifyFor
  rw [wp_bind, wp_modify, wp_bind, wp_get, wp_bind, wp_ite]
  refine ⟨fun _ => ?_, fun _ => ?_⟩
  · unfold verifyRecovery
    exact nofun
  · unfold verifyBoot
    rw [wp_bind, wp_get, wp_bind]
    have hheader : Raises StaysOn (readBootHeader env) := by
      refine .bind currentSuffix_staysOn fun _ => .bind (guardOut_staysOn _) fun _ => ?_
      exact .bind (guardOut_staysOn _) fun _ _ => trivial
    refine wp_imp (Raises.when hheader _) fun _ s₁ _ => ?_
    refine wp_seq (currentSuffix_staysOn s₁) fun _ s₂ _ => ?_
    exact nofun

theorem loadImageAndAuthVB2_fails (hslot : OnSlot env suffix s)
    (hback : earlyFailure env false s = true ∨ NoOtherSlot env suffix s) (rot : Bool) :
    wp (loadImageAndAuthVB2 env failingVerifier false rot) (fun status _ => status ≠ EFI_SUCCESS)
      noExit s := by
  have hbody : wp (vb2Body env failingVerifier false rot) (fun _ _ => False)
      (fun j _ => StaysOn j ∧
        (∀ status, j = .goto (.out status) → earlyFailure env false s = false))
      (s.setInfo fun i => { i with bootState := .RED }) := by
    unfold vb2Body vb2Authenticate
    rw [wp_bind]
    refine wp_mono vb2Prepare_spec (fun name s₁ h₁ => ?_) fun j s₁ h₁ => ?_
    · rw [wp_bind]
      exact wp_mono (verifyImages_failing false name) (fun _ _ h => h.elim)
        fun j _ h => ⟨h, fun _ _ => h₁.2.2.1⟩
    · refine ⟨?_, ?_⟩
      · rintro e rfl
        exact h₁.2.elim
      · rintro status rfl
        exact h₁.2.2
  unfold loadImageAndAuthVB2
  rw [wp_bind, wp_modify, wp_bind, wp_attempt]
  refine wp_mono (wp_and (wp_and hbody (vb2Body_left failingVerifier rot))
    (vb2Body_raises failingVerifier false rot _)) (fun _ _ h => h.1.1.elim) fun j t h => ?_
  obtain ⟨⟨⟨hstays, hearly⟩, hleft⟩, hfail⟩ := h
  match j, hstays, hearly, hleft, hfail with
  | .exit e, hstays, _, _, _ => exact hstays e rfl
  | .goto (.ret status), _, _, _, hfail => exact hfail
  | .goto (.out status), _, hearly, hleft, hfail =>
    obtain ⟨hslot', hother'⟩ := hslot.settled hleft.multiSlotBoot hleft.slots
    have hother : NoOtherSlot env suffix t := by
      refine hother'.mpr (hback.resolve_left fun he => ?_)
      exact absurd (he.symm.trans (hearly status rfl)) (by decide)
    refine wp_mono (wp_and (vb2Out_red hslot' hfail) (vb2Out_returns status)) (fun r _ h => ?_)
      fun _ _ h => h.1 hother
    exact h.2 ▸ hfail

end Auth

/-! ### After the authentication -/

section Finish

variable {env : LoadImageEnv} {s : LoaderState} {status : EfiStatus}

/-- A failed authentication is overwritten: the handler of failed slots comes back, MDTP does
    not end the call, an unlocked device is not stopped, and the milestone call succeeds. -/
structure Overwritten (env : LoadImageEnv) (s : LoaderState) : Prop where
  handlerReturns : env.slots.recoveryInfo = true → env.riHandleFailedSlot = true
  mdtpLocated : mdtpActive env = true → EFI_ERROR env.mdtpLocateAgain = false
  notStopped : s.avb.device.devInfo.isUnlocked = true →
    mdtpActive env = true ∧ env.mdtpDeactivate = EFI_SUCCESS
  vbIntf : s.info.vbIntf = true
  milestone : env.vbSendMilestone = EFI_SUCCESS

theorem releaseBoot_eq : Steps Eq (releaseBoot env status) := by
  refine .bind .get fun s => .ite (.goto _) (.ite ?_ (.pure _))
  exact .bind .get fun s => .ite (.pure _) (.call (.throw _))

theorem finishAuth_eq : Steps Eq (finishAuth env status) := by
  refine .bind (.when (.call (.ite (.pure _) (.throw _)))) fun _ => ?_
  exact .bind (.ite (.ite (.goto _) (.pure _)) (.pure _)) fun _ => releaseBoot_eq

section

variable (havb : env.avbVersion = .AVB_2)

include havb

theorem releaseBoot_spec :
    wp (releaseBoot env status)
      (fun r _ => r = EFI_SUCCESS ↔
        (s.avb.device.devInfo.isUnlocked = true → status = EFI_SUCCESS) ∧
          s.info.vbIntf = true ∧ env.vbSendMilestone = EFI_SUCCESS)
      (fun j _ => j ≠ .goto EFI_SUCCESS ∧
        ((s.avb.device.devInfo.isUnlocked = true → status = EFI_SUCCESS) →
          s.info.vbIntf = false)) s := by
  unfold releaseBoot
  rw [wp_bind, wp_get, wp_ite]
  refine ⟨fun h => ⟨fun hj => h.2 (Jump.goto.inj hj), fun hstop => absurd (hstop h.1) h.2⟩,
    fun h => ?_⟩
  have hstop : s.avb.device.devInfo.isUnlocked = true → status = EFI_SUCCESS :=
    fun hunlocked => by_contra fun hstatus => h ⟨hunlocked, hstatus⟩
  rw [if_pos (by rw [havb]; decide), sendMilestone, wp_bind, wp_get, wp_ite]
  exact ⟨fun hvb => ⟨fun hr => ⟨hstop, hvb, hr⟩, fun hpasses => hpasses.2.2⟩,
    fun hvb => ⟨nofun, fun _ => (Bool.not_eq_true _).mp hvb⟩⟩

/-- After a failed authentication, `LoadImageAndAuth` succeeds exactly if the failure is
    overwritten. -/
theorem finishAuth_spec (hfail : status ≠ EFI_SUCCESS) :
    wp (finishAuth env status) (fun r _ => r = EFI_SUCCESS ↔ Overwritten env s)
      (fun j _ => j ≠ .goto EFI_SUCCESS ∧ ¬ Overwritten env s) s := by
  unfold finishAuth
  rw [wp_bind]
  refine wp_mono (Q := fun _ s' => s' = s ∧
    (env.slots.recoveryInfo = true → env.riHandleFailedSlot = true)) ?_ (fun _ s₁ h₁ => ?_)
    fun _ _ h => h
  · rw [wp_when, riHandleFailedSlot, wp_call, wp_ite]
    refine ⟨fun hri => ⟨fun hreturns => ⟨rfl, fun _ => hreturns⟩, fun hnot => ⟨nofun, fun h => ?_⟩⟩,
      fun hri => ⟨rfl, fun hinfo => absurd ⟨hfail, hinfo⟩ (of_decide_eq_false hri)⟩⟩
    exact hnot (h.handlerReturns (of_decide_eq_true hri).2)
  obtain ⟨rfl, hhandler⟩ := h₁
  unfold deactivateMdtp
  rw [wp_bind, wp_ite]
  refine ⟨fun ⟨_, hmdtp⟩ => ?_, fun hmdtp => ?_⟩
  · refine .ite (fun herr => ⟨fun hj => ?_, fun h => ?_⟩) fun herr => ?_
    · rw [Jump.goto.inj hj] at herr
      exact absurd herr (by decide)
    · exact absurd ((h.mdtpLocated hmdtp).symm.trans herr) (by decide)
    · rw [wp_pure]
      refine wp_mono (releaseBoot_spec havb) (fun r _ h => h.trans ?_) fun j _ h =>
        ⟨h.1, fun ho => ?_⟩
      · refine ⟨fun ⟨hstop, hvb, hsend⟩ => ?_, fun ho => ?_⟩
        · exact ⟨hhandler, fun _ => (Bool.not_eq_true _).mp herr, fun hu => ⟨hmdtp, hstop hu⟩, hvb,
            hsend⟩
        · exact ⟨fun hu => (ho.notStopped hu).2, ho.vbIntf, ho.milestone⟩
      · exact absurd (ho.vbIntf.symm.trans (h.2 fun hu => (ho.notStopped hu).2)) (by decide)
  · rw [wp_pure]
    have hnever : ∀ {P : Prop}, Overwritten env s₁ → s₁.avb.device.devInfo.isUnlocked = true → P :=
      fun ho hu => absurd ⟨hfail, (ho.notStopped hu).1⟩ hmdtp
    refine wp_mono (releaseBoot_spec havb) (fun r _ h => h.trans ?_) fun j _ h =>
      ⟨h.1, fun ho => ?_⟩
    · refine ⟨fun ⟨hstop, hvb, hsend⟩ => ?_, fun ho => ⟨hnever ho, ho.vbIntf, ho.milestone⟩⟩
      exact ⟨hhandler, fun hactive => absurd ⟨hfail, hactive⟩ hmdtp,
        fun hu => absurd (hstop hu) hfail, hvb, hsend⟩
    · exact absurd (ho.vbIntf.symm.trans (h.2 (hnever ho))) (by decide)

end

end Finish

/-! ### The gate -/

section Gate

variable {env : LoadImageEnv} {s : LoaderState}

/-- The failures of `LoadImageAndAuthVB2` on the active slot that return before its cleanup. -/
def failsEarly (env : LoadImageEnv) (s : LoaderState) : Bool :=
  !env.allocateCmdLine || (env.allocateUserData && env.allocateOps &&
    activeSlotBootable env.slots s.slots && env.updateRollbackSyscall != EFI_SUCCESS)

/-- A failed authentication is ignored: the call gets to it, with the verified-boot protocol
    in place; the other slot does not take over; and the error is overwritten. -/
structure AuthFailureIgnored (env : LoadImageEnv) (s : LoaderState) : Prop where
  selectable : s.info.multiSlotBoot = true → slotSelectable env.slots s.slots = true
  located : env.locateVerifiedBoot = EFI_SUCCESS
  comesBack : s.info.multiSlotBoot = true → failsEarly env s = true ∨
    otherSlotBootable env.slots s.slots (activeResult env.slots s.slots).2 = false
  handlerReturns : env.slots.recoveryInfo = true → env.riHandleFailedSlot = true
  mdtpLocated : mdtpActive env = true → EFI_ERROR env.mdtpLocateAgain = false
  notStopped : s.avb.device.devInfo.isUnlocked = true →
    mdtpActive env = true ∧ env.mdtpDeactivate = EFI_SUCCESS
  milestone : env.vbSendMilestone = EFI_SUCCESS

theorem Settled.slotSelectable {env : SlotEnv} {s s' : SlotState} (h : Settled env s s') :
    slotSelectable env s' = OhMyAbl.slotSelectable env s := by
  obtain rfl | rfl := h
  · rfl
  · unfold OhMyAbl.slotSelectable
    rw [(activeResult_settle env s).1, (activeResult_settle env s).2]

theorem Settled.slotChosen {env : SlotEnv} {s s₁ s' : SlotState} (h : Settled env s s₁)
    (hselect : OhMyAbl.slotSelectable env s = true)
    (hchosen : SlotChosen env s₁ s' (OhMyAbl.activeResult env s).2) :
    SlotChosen env s s' (OhMyAbl.activeResult env s).2 := by
  obtain rfl | rfl := h
  · exact hchosen
  · obtain ⟨hok, -⟩ := slotSelectable_active hselect
    have hres : OhMyAbl.activeResult env s = (EFI_SUCCESS, (OhMyAbl.activeResult env s).2) :=
      Prod.ext hok rfl
    exact hchosen.of_verdicts (slotBootable_settle env s) (otherSlotBootable_settle hres)

variable {s' : LoaderState}

theorem Named.after {s₁ : LoaderState} (hheaders : HeadersChecked env.toVerifiedBootEnv s s₁)
    (hnamed : Named env.toVerifiedBootEnv s₁ s') : Named env.toVerifiedBootEnv s s' := by
  have hmulti : s.info.multiSlotBoot = true → s₁.info.multiSlotBoot = true :=
    fun h => hheaders.multiSlotBoot.trans h
  have hselect : s.info.multiSlotBoot = true → slotSelectable env.slots s.slots = true :=
    fun h => hheaders.slots.slotSelectable.symm.trans (hnamed.selectable (hmulti h))
  refine ⟨hnamed.avb.trans hheaders.avb, hnamed.multiSlotBoot.trans hheaders.multiSlotBoot,
    hselect, fun h => ?_, fun h => hnamed.pname (hmulti h)⟩
  have hchosen := hnamed.chosen (hmulti h)
  rw [hheaders.slots.activeResult] at hchosen
  exact hheaders.slots.slotChosen (hselect h) hchosen

theorem Named.onSlot (h : Named env.toVerifiedBootEnv s s') :
    OnSlot env.toVerifiedBootEnv (activeResult env.slots s.slots).2 s' := by
  intro hmulti
  rw [h.multiSlotBoot] at hmulti
  have hchosen := h.chosen hmulti
  exact ⟨hchosen.active, (slotSelectable_active (h.selectable hmulti)).2, hchosen.settled⟩

theorem Named.comesBack (h : Named env.toVerifiedBootEnv s s')
    (hlocated : env.locateVerifiedBoot = EFI_SUCCESS) :
    earlyFailure env.toVerifiedBootEnv false s' = true ∨
        NoOtherSlot env.toVerifiedBootEnv (activeResult env.slots s.slots).2 s' ↔
      (s.info.multiSlotBoot = true → failsEarly env s = true ∨
        otherSlotBootable env.slots s.slots (activeResult env.slots s.slots).2 = false) := by
  cases hmulti : s.info.multiSlotBoot with
  | false =>
    refine ⟨fun _ => nofun, fun _ => .inr fun hm => ?_⟩
    rw [h.multiSlotBoot, hmulti] at hm
    cases hm
  | true =>
    have hchosen := h.chosen hmulti
    have hactive : activeSlotBootable env.slots s'.slots =
        activeSlotBootable env.slots s.slots := by
      unfold activeSlotBootable
      rw [hchosen.active, hchosen.current, (slotSelectable_active (h.selectable hmulti)).1]
    have hearly : earlyFailure env.toVerifiedBootEnv false s' = failsEarly env s := by
      unfold earlyFailure failsEarly
      rw [h.multiSlotBoot, hmulti, hactive, hlocated, decide_eq_true (h.pname hmulti)]
      simp
    rw [hearly]
    constructor
    · rintro (hfail | hno) _
      · exact .inl hfail
      · exact .inr (hchosen.other ▸ hno (h.multiSlotBoot.trans hmulti))
    · intro hback
      refine (hback rfl).imp id fun hother _ => ?_
      exact hchosen.other.trans hother

theorem wp_loadImageAndAuth (havb : env.avbVersion = .AVB_2) (v : SlotVerifier) (rot : Bool)
    {Q : EfiStatus → LoaderState → Prop} {E : Exit → LoaderState → Prop}
    (hname : ∀ j s', NameFails env.toVerifiedBootEnv s j → Jump.post Q E j s')
    (hauth : ∀ s', Named env.toVerifiedBootEnv s s' →
      wp (loadImageAndAuthVB2 env.toVerifiedBootEnv v false rot)
        (fun status t => wp (finishAuth env status) Q (Jump.post Q E)
          { t with authStatus := some status }) E s') :
    wp (loadImageAndAuth env v false rot) Q E s := by
  unfold loadImageAndAuth
  rw [wp_block, wp_bind, wp_modify, if_neg (by rw [havb]; simp), wp_bind, wp_get, wp_bind, wp_when]
  have hrest : ∀ s₁, HeadersChecked env.toVerifiedBootEnv s s₁ →
      wp (do
          let _ ← getPtnName env.toVerifiedBootEnv
          let status ← authenticate env v false rot
          if false = true then return status else finishAuth env status)
        Q (Jump.post Q E) s₁ := by
    intro s₁ hheaders
    rw [wp_bind]
    refine wp_mono getPtnName_spec (fun _ s₂ hnamed => ?_) fun j s₂ hfail => ?_
    · unfold authenticate
      rw [havb]
      rw [wp_bind, wp_bind, wp_call]
      exact wp_imp (hauth s₂ (.after hheaders hnamed)) fun status t h => h
    · refine hname j s₂ ⟨hheaders.multiSlotBoot ▸ hfail.1, ?_, hfail.2.2⟩
      rw [← hheaders.slots.slotSelectable]
      exact hfail.2.1
  refine ⟨fun _ => ?_, fun _ => hrest _ ⟨rfl, rfl, refl_of (Settled env.slots) _⟩⟩
  rw [wp_call]
  refine wp_mono (wp_and (wp_of_steps checkHeaders_steps) (checkHeaders_raises _))
    (fun _ s₁ h => hrest s₁ ⟨h.1.avb, h.1.multiSlotBoot, h.1.slots⟩) fun _ _ h => h.2.elim

/-- A success was verified, or its failure is one that the caller ignores. -/
theorem loadImageAndAuth_spec (havb : env.avbVersion = .AVB_2) (v : SlotVerifier) (rot : Bool) :
    wp (loadImageAndAuth env v false rot)
      (fun r s' => r = EFI_SUCCESS →
        (s'.authStatus = some EFI_SUCCESS ∧ s'.info.bootState ≠ .RED) ∨ AuthFailureIgnored env s)
      anyExit s := by
  refine wp_loadImageAndAuth havb v rot (fun j s' hfail => ?_) fun s₁ h₁ => ?_
  · cases j with
    | exit e => trivial
    | goto status => exact fun hs => absurd (congrArg Jump.goto hs) hfail.2.2
  · refine wp_imp (loadImageAndAuthVB2_ends h₁.onSlot v rot) fun status t hends => ?_
    by_cases hstatus : status = EFI_SUCCESS
    · -- nothing changes the state any more
      have hkeep : ∀ t', { t with authStatus := some status } = t' →
          t'.authStatus = some EFI_SUCCESS ∧ t'.info.bootState ≠ .RED := by
        rintro t' rfl
        exact ⟨congrArg some hstatus, hends.success hstatus⟩
      refine wp_mono (wp_of_steps finishAuth_eq) (fun r t' h _ => .inl (hkeep t' h))
        fun j t' h => ?_
      cases j with
      | exit e => trivial
      | goto r => exact fun _ => .inl (hkeep t' h)
    · refine wp_mono (finishAuth_spec havb hstatus) (fun r t' h hr => .inr ?_) fun j t' h => ?_
      · have hover := h.mp hr
        have hlocated : env.locateVerifiedBoot = EFI_SUCCESS :=
          of_decide_eq_true (hends.vbIntf.symm.trans hover.vbIntf)
        refine ⟨h₁.selectable, hlocated, (h₁.comesBack hlocated).mp (hends.failure hstatus).2,
          hover.handlerReturns, hover.mdtpLocated, fun hu => hover.notStopped ?_, hover.milestone⟩
        rw [← hu, ← h₁.avb]
        exact hends.unlocked
      · cases j with
        | exit e => trivial
        | goto r => exact fun hr => absurd (congrArg Jump.goto hr) h.1

theorem loadImageAndAuth_ignores (havb : env.avbVersion = .AVB_2) (h : AuthFailureIgnored env s)
    (rot : Bool) :
    wp (loadImageAndAuth env failingVerifier false rot)
      (fun r s' => r = EFI_SUCCESS ∧ s'.authStatus ≠ some EFI_SUCCESS) noExit s := by
  refine wp_loadImageAndAuth havb failingVerifier rot (fun j s' hfail => ?_) fun s₁ h₁ => ?_
  · exact absurd (hfail.2.1.symm.trans (h.selectable hfail.1)) (by decide)
  · have hback := (h₁.comesBack h.located).mpr h.comesBack
    refine wp_mono (wp_and (loadImageAndAuthVB2_fails h₁.onSlot hback rot)
      (loadImageAndAuthVB2_ends h₁.onSlot failingVerifier rot)) (fun status t ht => ?_)
      fun _ _ ht => ht.1
    obtain ⟨hstatus, hends⟩ := ht
    have hover : Overwritten env { t with authStatus := some status } := by
      refine ⟨h.handlerReturns, h.mdtpLocated, fun hu => h.notStopped ?_, ?_, h.milestone⟩
      · rw [← h₁.avb, ← hends.unlocked]
        exact hu
      · exact hends.vbIntf.trans (decide_eq_true h.located)
    refine wp_mono (wp_and (finishAuth_spec havb hstatus) (wp_of_steps finishAuth_eq))
      (fun r t' h' => ⟨h'.1.mpr hover, ?_⟩) fun _ _ h' => absurd hover h'.1.2
    rw [← h'.2]
    exact fun heq => hstatus (Option.some.inj heq)

theorem linuxLoaderEntry_boots (v : SlotVerifier) (rot : Bool) (s' : LoaderState) :
    (linuxLoaderEntry env v rot).exec s = (.ok .bootLinux, s') ↔
      (loadImageAndAuth env v false rot).exec s = (.ok EFI_SUCCESS, s') := by
  unfold linuxLoaderEntry
  rw [exec_bind]
  rcases (loadImageAndAuth env v false rot).exec s with ⟨_ | status, t⟩
  · exact ⟨nofun, nofun⟩
  · by_cases hstatus : status = EFI_SUCCESS
    · dsimp only
      rw [if_neg (not_not_intro hstatus), exec_pure, hstatus]
      simp
    · have hfast : wp (enterFastboot env) (fun r _ => r = .fastboot) anyExit t := by
        unfold enterFastboot
        rw [wp_bind]
        exact wp_any (fun _ _ => rfl) fun _ _ => trivial
      dsimp only
      rw [if_pos hstatus]
      refine ⟨fun h => absurd (wp_ok hfast h) (by decide), fun h => absurd ?_ hstatus⟩
      cases h
      rfl

/-- The gate: `LoadImageAndAuth` succeeds only if the authentication has, and then only is the
    kernel started. -/
structure BootGate (env : LoadImageEnv) (v : SlotVerifier) (rot : Bool) (s : LoaderState) :
    Prop where
  authentic : ∀ s', (loadImageAndAuth env v false rot).exec s = (.ok EFI_SUCCESS, s') →
    s'.authStatus = some EFI_SUCCESS ∧ s'.info.bootState ≠ .RED
  boots : ∀ s', (linuxLoaderEntry env v rot).exec s = (.ok .bootLinux, s') ↔
    (loadImageAndAuth env v false rot).exec s = (.ok EFI_SUCCESS, s')

/-- **The verified-boot gate.**  It holds for every result of slot verification exactly where a
    failed authentication is not ignored. -/
theorem loadImageAndAuth_gate (env : LoadImageEnv) (havb : env.avbVersion = .AVB_2) (rot : Bool)
    (s : LoaderState) : (∀ v, BootGate env v rot s) ↔ ¬ AuthFailureIgnored env s := by
  constructor
  · intro hgate hignored
    obtain ⟨r, s', hrun, rfl, hstatus⟩ := wp_returns (loadImageAndAuth_ignores havb hignored rot)
    exact hstatus ((hgate failingVerifier).authentic s' hrun).1
  · intro hnot v
    refine ⟨fun s' hrun => ?_, linuxLoaderEntry_boots v rot⟩
    exact (wp_ok (loadImageAndAuth_spec havb v rot) hrun rfl).resolve_right hnot

end Gate

/-! ### A tampered image on a locked device -/

def tamperedVerifyEnv : SlotVerifyEnv :=
  { recoveryVerifyEnv with
    readVbmeta := fun _ =>
      (.OK, { recoveryVbmeta with verifyResult := .SIGNATURE_MISMATCH, signed := nofun }) }

def recoveryLoadEnv : LoadImageEnv where
  toVerifiedBootEnv := recoveryBootEnv
  hibernationSupportNoAes := false
  avbVersion := .AVB_2
  loadImageNoAuthWrapper := return EFI_SUCCESS
  loadImageAndAuthVB1 := return EFI_SUCCESS
  loadImageAndAuthForLE := return EFI_SUCCESS
  enableMdtpSupport := false
  mdtpLocate := EFI_NOT_FOUND
  mdtpGetState := EFI_NOT_FOUND
  mdtpState := .DISABLED
  mdtpLocateAgain := EFI_NOT_FOUND
  mdtpDeactivate := EFI_NOT_FOUND
  vbSendMilestone := EFI_SUCCESS
  riHandleFailedSlot := true
  riHandleFailedSlotAgain := true

def unlockedRecoveryBoot : LoaderState :=
  { recoveryBoot with
    avb := { recoveryBoot.avb with
      device := ⟨{ lockedDevice with isUnlocked := true }, false,
        { lockedDevice with isUnlocked := true }, 0⟩ } }

/-- Unlocked, without MDTP, the device stops at a failed authentication. -/
theorem loadImageAndAuth_gate_unlocked :
    BootGate recoveryLoadEnv (avbSlotVerifier tamperedVerifyEnv) false unlockedRecoveryBoot := by
  have hnot : ¬ AuthFailureIgnored recoveryLoadEnv unlockedRecoveryBoot := by
    intro h
    exact absurd (h.notStopped rfl).1 (by decide)
  exact (loadImageAndAuth_gate recoveryLoadEnv rfl false unlockedRecoveryBoot).mpr hnot _

/-- Locked, it starts the kernel of the tampered image: the authentication fails with a load
    error and the boot state is red, but the milestone call succeeds. -/
theorem loadImageAndAuth_starts_tampered :
    ∃ s', (loadImageAndAuth recoveryLoadEnv (avbSlotVerifier tamperedVerifyEnv) false false).exec
        recoveryBoot = (.ok EFI_SUCCESS, s') ∧
      s'.authStatus = some EFI_LOAD_ERROR ∧ s'.info.bootState = .RED ∧
      (linuxLoaderEntry recoveryLoadEnv (avbSlotVerifier tamperedVerifyEnv) false).exec
        recoveryBoot = (.ok .bootLinux, s') := by
  have hrun := exec_of_result (show ((loadImageAndAuth recoveryLoadEnv
    (avbSlotVerifier tamperedVerifyEnv) false false).exec recoveryBoot).1 = .ok EFI_SUCCESS by
      decide +kernel)
  refine ⟨_, hrun, ?_, ?_, (linuxLoaderEntry_boots _ _ _).mpr hrun⟩
  · decide +kernel
  · decide +kernel

end OhMyAbl
