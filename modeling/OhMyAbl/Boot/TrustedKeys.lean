/-
  **Which keys a boot state stands for.**

  GREEN and YELLOW are told apart by `IsUserKey`, which each validation of a key overwrites.  A
  recovery boot of a device without slots validates the key of every partition it requests; the boot
  state hides one exactly when recovery is signed by the user and dtbo, verified after it, is not.
  Such a boot does not get to its end.
-/
import OhMyAbl.Boot.VerifiedBoot

namespace OhMyAbl

open Prog

/-- The keys behind a boot state: GREEN stands for the manufacturer's key alone, and the
    user's key shows as YELLOW. -/
structure NamesKeys (oemPublicKey userPublicKey : List UInt8) (accepted : List (List UInt8))
    (state : BootState) : Prop where
  green : state = .GREEN → ∀ key ∈ accepted, key = oemPublicKey
  yellow : (∃ key ∈ accepted, key = userPublicKey) → state = .YELLOW

/-! ### The flag and the keys -/

theorem foldl_last (p : List UInt8 → Bool) (b : Bool) (keys : List (List UInt8)) :
    keys.foldl (fun _ key => p key) b = (keys.getLast?.map p).getD b := by
  induction keys generalizing b with
  | nil => rfl
  | cons key rest ih =>
    rw [List.foldl_cons, ih, List.getLast?_cons]
    cases rest.getLast? <;> rfl

theorem namesKeys_iff {oem : List UInt8} {keys : List (List UInt8)} {key : List UInt8}
    {s s' : AvbState} (h : KeysAccepted oem keys s s') (hnone : s.userData.acceptedKeys = [])
    (hlast : keys.getLast? = some key) {state : BootState}
    (hstate : state = if s'.userData.isUserKey then .YELLOW else .GREEN) :
    NamesKeys oem s.device.devInfo.userPublicKey s'.userData.acceptedKeys state ↔
      (s.device.devInfo.userPublicKey ∈ keys → key = s.device.devInfo.userPublicKey) := by
  have hkeys : s'.userData.acceptedKeys = keys := by rw [h.history, hnone, List.nil_append]
  have hflag : s'.userData.isUserKey = (key == s.device.devInfo.userPublicKey) := by
    rw [h.isUserKey, foldl_last, hlast]
    rfl
  rw [hkeys, hstate, hflag]
  constructor
  · intro hnames hmem
    by_contra hne
    have hyellow := hnames.yellow ⟨_, hmem, rfl⟩
    rw [beq_eq_false_iff_ne.mpr hne] at hyellow
    cases hyellow
  · intro hmem
    by_cases huser : key = s.device.devInfo.userPublicKey
    · rw [beq_iff_eq.mpr huser]
      exact ⟨nofun, fun _ => rfl⟩
    · -- no key is the user's, so each is the manufacturer's
      have hnot : ∀ k ∈ keys, k ≠ s.device.devInfo.userPublicKey := by
        intro k hk heq
        rw [heq] at hk
        exact huser (hmem hk)
      refine ⟨fun _ k hk => ?_, fun hex => ?_⟩
      · exact (h.trusted k hk).resolve_left (hnot k hk)
      · obtain ⟨k, hk, heq⟩ := hex
        exact absurd heq (hnot k hk)

/-! ### The keys of the verifications of a boot -/

section Keys

variable {env : VerifiedBootEnv} {venv : SlotVerifyEnv} {s s' : LoaderState}
  {req : SlotVerifyRequest} {data : AvbSlotVerifyData} {hib : Bool} {suffix : List UInt8}

theorem slotVerify_spec (req : SlotVerifyRequest) :
    wp (slotVerify (avbSlotVerifier venv) req)
      (fun r s' => s'.info = s.info ∧ (∀ data, r.2 = some data → data.Loaded venv req) ∧
        (req.allowVerificationError = false → r.1 = .OK →
          KeysAccepted venv.oemPublicKey (slotKeys venv req) s.avb s'.avb)) anyExit s := by
  unfold slotVerify
  rw [wp_bind, wp_call, wp_zoom]
  cases hlocked : req.allowVerificationError with
  | true =>
    exact wp_mono (avbSlotVerify_frame s.avb) (fun _ _ h => ⟨rfl, h.2, nofun⟩) fun _ _ _ => trivial
  | false =>
    exact wp_mono (wp_and (avbSlotVerify_frame s.avb) (avbSlotVerify_accepts hlocked s.avb))
      (fun _ _ h => ⟨rfl, h.1.2, fun _ => h.2⟩) fun _ _ _ => trivial

def recoveryHeaderVersion (i : BootInfo) (data : AvbSlotVerifyData) : Nat :=
  if i.images.isEmpty then getHeaderVersion data else i.headerVersion

/-- The keys of a recovery boot: those of the first verification, and those of a second one
    if the header asks for it. -/
def RecoveryKeys (venv : SlotVerifyEnv) (req : SlotVerifyRequest) (hib : Bool) (i : BootInfo)
    (data : AvbSlotVerifyData)
    (r : List (List UInt8) × AvbSlotVerifyResult × Option AvbSlotVerifyData)
    (a a' : AvbState) : Prop :=
  if recoveryHeaderVersion i data ≥ BOOT_HEADER_VERSION_THREE then
    KeysAccepted venv.oemPublicKey
      (slotKeys venv { req with requestedPartitions := [IMG_RECOVERY] } ++
        slotKeys venv { req with requestedPartitions := recoveryPartitions hib }) a a'
  else
    r.1 = [IMG_RECOVERY] ∧ r.2.2 = some data ∧
    KeysAccepted venv.oemPublicKey
      (slotKeys venv { req with requestedPartitions := [IMG_RECOVERY] }) a a'

/-- The images of a recovery boot are those of its last verification; there is a second one if the
    header asks for it. -/
theorem verifyRecovery_spec (req : SlotVerifyRequest) (hib : Bool) :
    wp (verifyRecovery (avbSlotVerifier venv) req hib)
      (fun r s' => s'.info.images = s.info.images ∧
        (∀ data, r.2.2 = some data → data.Loaded venv { req with requestedPartitions := r.1 }) ∧
        ∃ data, data.Loaded venv { req with requestedPartitions := [IMG_RECOVERY] } ∧
          (r.1 = [IMG_RECOVERY] ∨ r.1 = recoveryPartitions hib ∧
            recoveryHeaderVersion s.info data ≥ BOOT_HEADER_VERSION_THREE) ∧
          (req.allowVerificationError = false → r.2.1 = .OK →
            RecoveryKeys venv req hib s.info data r s.avb s'.avb)) anyExit s := by
  refine wp_seq (slotVerify_spec _) fun first s₁ h₁ => ?_
  obtain ⟨hinfo₁, hloaded₁, hkeys₁⟩ := h₁
  refine wp_seq (checkResult_spec _ first) fun data s₂ h₂ => ?_
  obtain ⟨rfl, hdata, hcheck⟩ := h₂
  have hok : req.allowVerificationError = false → first.1 = .OK := by
    intro hlocked
    rw [hlocked, Bool.false_and] at hcheck
    exact hcheck.resolve_left (by decide)
  rw [wp_bind, wp_modify, wp_bind, wp_get]
  have hversion : (s₂.setInfo (BootInfo.noteRecoveryHeader data)).info.headerVersion =
      recoveryHeaderVersion s.info data := by
    rw [← hinfo₁]
    rfl
  rw [hversion]
  split
  · rename_i hthree
    refine wp_seq (slotVerify_spec _) fun second s₃ h₃ => ?_
    obtain ⟨hinfo₃, hloaded₃, hkeys₃⟩ := h₃
    refine ⟨?_, hloaded₃, data, hloaded₁ data hdata, .inr ⟨rfl, hthree⟩, fun hlocked hsecond => ?_⟩
    · rw [hinfo₃, ← hinfo₁]
      rfl
    · unfold RecoveryKeys
      rw [if_pos hthree]
      exact (hkeys₁ hlocked (hok hlocked)).append (hkeys₃ hlocked hsecond)
  · rename_i hthree
    refine ⟨?_, hloaded₁, data, hloaded₁ data hdata, .inl rfl, fun hlocked _ => ?_⟩
    · rw [← hinfo₁]
      rfl
    · unfold RecoveryKeys
      rw [if_neg hthree]
      exact ⟨rfl, hdata, hkeys₁ hlocked (hok hlocked)⟩

def SameAvb (s s' : LoaderState) : Prop := s'.avb = s.avb

instance : Std.Refl SameAvb where
  refl _ := rfl

instance : IsTrans LoaderState SameAvb where
  trans _ _ _ h h' := Eq.trans h' h

theorem currentSuffix_avb : Steps SameAvb (currentSuffix env) :=
  currentSuffix_keeps fun _ _ => rfl

theorem readBootHeader_avb : Steps SameAvb (readBootHeader env) :=
  readBootHeader_keeps (fun _ _ => rfl) fun _ _ => rfl

theorem verifyBoot_keys (req : SlotVerifyRequest) (hlocked : req.allowVerificationError = false)
    (hmain : req.noVbmetaPartition = false) (hib : Bool) :
    wp (verifyBoot env (avbSlotVerifier venv) req hib)
      (fun r s' => r.2.1 = .OK →
        KeysAccepted venv.oemPublicKey [mainVbmetaKey venv req] s.avb s'.avb) anyExit s := by
  unfold verifyBoot
  rw [wp_bind, wp_get]
  refine Steps.seq (.when readBootHeader_avb) fun _ s₁ h₁ => ?_
  rw [wp_bind, wp_call]
  refine Steps.imp currentSuffix_avb fun suffix s₂ h₂ => ?_
  rw [wp_bind, wp_get]
  refine wp_seq (slotVerify_spec _) fun r s₃ h₃ hok => ?_
  have hkeys := h₃.2.2 hlocked hok
  rw [show s₂.avb = s.avb from h₂.trans h₁] at hkeys
  unfold slotKeys at hkeys
  rw [if_neg (by rw [hmain]; decide)] at hkeys
  exact hkeys

/-! ### The boots whose state hides a key -/

/-- The key of the vbmeta structure in a partition of a device without slots. -/
def partitionKey (venv : SlotVerifyEnv) (name : List UInt8) : List UInt8 :=
  (venv.readVbmeta name).2.publicKey

/-- The header version of a recovery boot: that of a boot image that is already loaded, or of
    the recovery partition, cut to a byte. -/
def bootHeaderVersion (venv : SlotVerifyEnv) (i : BootInfo) : Nat :=
  match i.images.head? with
  | some image => headerVersion image.imageBuffer
  | none => headerVersion (venv.contents IMG_RECOVERY) % 2 ^ 8

/-- A recovery boot without slots whose recovery image is signed by the user and whose dtbo
    image is not. -/
structure MixedKeys (env : VerifiedBootEnv) (venv : SlotVerifyEnv) (s : LoaderState) : Prop where
  recovery : bootsRecovery env s = true
  noSlots : s.info.multiSlotBoot = false
  version : bootHeaderVersion venv s.info ≥ BOOT_HEADER_VERSION_THREE
  user : partitionKey venv IMG_RECOVERY = s.avb.device.devInfo.userPublicKey
  other : partitionKey venv IMG_DTBO ≠ s.avb.device.devInfo.userPublicKey

theorem AvbSlotVerifyData.Loaded.contents (h : data.Loaded venv req) (hsuffix : req.abSuffix = [])
    {p : AvbPartitionData} (hp : p ∈ data.loadedPartitions)
    (hboot : strnCmp (ascii "boot") p.partitionName 4 = false) :
    p.data = venv.contents p.partitionName := by
  obtain ⟨-, part, hpart, hdata⟩ := h p hp
  rw [hsuffix, List.append_nil, or_self] at hpart
  rw [← hpart] at hboot ⊢
  exact hdata hboot

theorem getHeaderVersion_loaded
    (h : data.Loaded venv { req with requestedPartitions := [IMG_RECOVERY] })
    (hsuffix : req.abSuffix = []) :
    getHeaderVersion data = headerVersion (venv.contents IMG_RECOVERY) % 2 ^ 8 ∨
      (getHeaderVersion data = 0 ∧ loadedImage data IMG_RECOVERY = none) := by
  unfold getHeaderVersion
  cases hfind : data.loadedPartitions.find? (·.partitionName == IMG_RECOVERY) with
  | some p =>
    have hname : p.partitionName = IMG_RECOVERY := by
      simpa using List.find?_some hfind
    have hcontents := h.contents hsuffix (List.mem_of_find?_eq_some hfind)
      (by rw [hname]; decide)
    rw [hname] at hcontents
    exact .inl (by rw [← hcontents])
  | none =>
    -- whatever was loaded is named recovery, so nothing was
    refine .inr ⟨rfl, List.find?_eq_none.mpr fun p hp => ?_⟩
    have hname : p.partitionName = IMG_RECOVERY := List.mem_singleton.mp (h p hp).1
    exact absurd (beq_iff_eq.mpr hname) (List.find?_eq_none.mp hfind p hp)

/-- What the verification of the images tells: the keys it accepted, and whether the last of
    them hides another. -/
def KeyReport (env : VerifiedBootEnv) (venv : SlotVerifyEnv) (s s' : LoaderState) : Prop :=
  ∃ keys key, KeysAccepted venv.oemPublicKey keys s.avb s'.avb ∧ keys.getLast? = some key ∧
    ((s.avb.device.devInfo.userPublicKey ∈ keys → key = s.avb.device.devInfo.userPublicKey) ↔
      ¬ MixedKeys env venv s)

theorem KeyReport.uniform {keys : List (List UInt8)} {key : List UInt8}
    (h : KeysAccepted venv.oemPublicKey keys s.avb s'.avb) (hlast : keys.getLast? = some key)
    (hall : ∀ k ∈ keys, k = key) (hmixed : ¬ MixedKeys env venv s) : KeyReport env venv s s' := by
  refine ⟨keys, key, h, hlast, fun _ => hmixed, fun _ hmem => ?_⟩
  exact (hall _ hmem).symm

theorem recoveryHeaderVersion_eq {i : BootInfo}
    (h : data.Loaded venv { req with requestedPartitions := [IMG_RECOVERY] })
    (hsuffix : req.abSuffix = []) :
    recoveryHeaderVersion i.noteLoadedHeader data = bootHeaderVersion venv i ∨
      (i.images = [] ∧ recoveryHeaderVersion i.noteLoadedHeader data = 0 ∧
        loadedImage data IMG_RECOVERY = none) := by
  unfold recoveryHeaderVersion BootInfo.noteLoadedHeader bootHeaderVersion
  cases himages : i.images with
  | nil =>
    obtain hversion | ⟨hzero, hnone⟩ := getHeaderVersion_loaded h hsuffix
    · exact .inl hversion
    · exact .inr ⟨rfl, hzero, hnone⟩
  | cons image rest => exact .inl rfl

theorem recoveryKeys_report (hno : req.noVbmetaPartition = true) (hsuffix : req.abSuffix = [])
    (hrecovery : bootsRecovery env s = true) (hslots : s.info.multiSlotBoot = false)
    (hversion : bootHeaderVersion venv s.info ≥ BOOT_HEADER_VERSION_THREE)
    (hkeys : KeysAccepted venv.oemPublicKey
      (slotKeys venv { req with requestedPartitions := [IMG_RECOVERY] } ++
        slotKeys venv { req with requestedPartitions := recoveryPartitions hib }) s.avb s'.avb) :
    KeyReport env venv s s' := by
  have hlist : slotKeys venv { req with requestedPartitions := [IMG_RECOVERY] } ++
      slotKeys venv { req with requestedPartitions := recoveryPartitions hib } =
      [partitionKey venv IMG_RECOVERY, partitionKey venv IMG_RECOVERY] ++
        List.replicate (if hib then 1 else 2) (partitionKey venv IMG_DTBO) := by
    cases hib <;> simp [slotKeys, hno, vbmetaKey, hsuffix, partitionKey, recoveryPartitions]
  rw [hlist] at hkeys
  refine ⟨_, partitionKey venv IMG_DTBO, hkeys, ?_, ?_⟩
  · cases hib <;> rfl
  · constructor
    · intro hlast hmixed
      refine hmixed.other (hlast ?_)
      rw [← hmixed.user]
      exact List.mem_cons_self
    · intro hmixed hmem
      by_contra hother
      refine hmixed ⟨hrecovery, hslots, hversion, ?_, hother⟩
      obtain hrec | hdtbo := List.mem_append.mp hmem
      · simpa [eq_comm] using hrec
      · exact absurd (List.eq_of_mem_replicate hdtbo).symm hother

section Recovery

variable {s' : LoaderState} {req : SlotVerifyRequest} {hib : Bool} {data : AvbSlotVerifyData}
  {r : List (List UInt8) × AvbSlotVerifyResult × Option AvbSlotVerifyData}

theorem RecoveryKeys.multiSlot {i : BootInfo} (h : RecoveryKeys venv req hib i data r s.avb s'.avb)
    (hmain : req.noVbmetaPartition = false) (hmixed : ¬ MixedKeys env venv s) :
    KeyReport env venv s s' := by
  have hkey : ∀ requested, slotKeys venv { req with requestedPartitions := requested } =
      [mainVbmetaKey venv req] := by
    intro requested
    unfold slotKeys
    rw [if_neg (by rw [hmain]; decide)]
    rfl
  unfold RecoveryKeys at h
  rw [hkey, hkey] at h
  split at h
  · exact .uniform h rfl (fun k hk => by simpa using hk) hmixed
  · exact .uniform h.2.2 rfl (fun k hk => by simpa using hk) hmixed

theorem RecoveryKeys.noSlots
    (h : RecoveryKeys venv req hib s.info.noteLoadedHeader data r s.avb s'.avb)
    (hloaded : data.Loaded venv { req with requestedPartitions := [IMG_RECOVERY] })
    (hno : req.noVbmetaPartition = true) (hsuffix : req.abSuffix = [])
    (hrecovery : bootsRecovery env s = true) (hslots : s.info.multiSlotBoot = false) :
    KeyReport env venv s s' ∨ (s.info.images = [] ∧ r.1 = [IMG_RECOVERY] ∧ r.2.2 = some data ∧
      loadedImage data IMG_RECOVERY = none) := by
  unfold RecoveryKeys at h
  obtain hversion | ⟨hnoimages, hzero, hnone⟩ :=
    recoveryHeaderVersion_eq (i := s.info) hloaded hsuffix
  · rw [hversion] at h
    split at h
    · rename_i hthree
      exact .inl (recoveryKeys_report hno hsuffix hrecovery hslots hthree h)
    · rename_i hthree
      have hkey : slotKeys venv { req with requestedPartitions := [IMG_RECOVERY] } =
          [vbmetaKey venv req IMG_RECOVERY] := by
        unfold slotKeys
        rw [if_pos hno]
        rfl
      rw [hkey] at h
      exact .inl (.uniform h.2.2 rfl (fun k hk => List.mem_singleton.mp hk)
        fun hmixed => hthree hmixed.version)
  · rw [hzero, if_neg (by decide)] at h
    exact .inr ⟨hnoimages, h.1, h.2.1, hnone⟩

end Recovery

/-- On a locked device the accepted keys are reported, or recovery was not loaded. -/
theorem verifyImages_keys (hlocked : s.avb.device.devInfo.isUnlocked = false)
    (hsuffix : s.info.multiSlotBoot = false → suffix = []) (hib : Bool) :
    wp (verifyImages env (avbSlotVerifier venv) hib suffix)
      (fun images s' => KeyReport env venv s s' ∨ (s'.info.images = [] ∧
        images.requested = [IMG_RECOVERY] ∧ loadedImage images.data IMG_RECOVERY = none))
      anyExit s := by
  unfold verifyImages verifyFor
  rw [wp_bind, wp_modify, wp_bind, wp_get, wp_bind]
  obtain ⟨req, hreq⟩ : ∃ req, req = vb2Request env (s.setInfo BootInfo.noteLoadedHeader) suffix :=
    ⟨_, rfl⟩
  have hallow : req.allowVerificationError = false := hreq ▸ hlocked
  have hno : req.noVbmetaPartition = (bootsRecovery env s && !s.info.multiSlotBoot) := hreq ▸ rfl
  have habSuffix : req.abSuffix = suffix := hreq ▸ rfl
  rw [← hreq]
  -- a locked device accepts the result `OK` only
  have hok : ∀ r : AvbSlotVerifyResult × Option AvbSlotVerifyData,
      (req.allowVerificationError && resultShouldContinue r.1) = true ∨ r.1 = .OK → r.1 = .OK := by
    intro r hr
    rw [hallow, Bool.false_and] at hr
    exact hr.resolve_left (by decide)
  split
  · rename_i hrecovery
    refine wp_imp (verifyRecovery_spec _ hib) fun r s₁ h₁ => ?_
    obtain ⟨himages, -, data₁, hloaded, -, hkeys⟩ := h₁
    refine wp_seq (checkResult_spec _ r.2) fun data s₂ h₂ => ?_
    obtain ⟨rfl, hdata, hcheck⟩ := h₂
    have hreport := hkeys hallow (hok r.2 hcheck)
    cases hslots : s.info.multiSlotBoot with
    | true =>
      rw [hslots, Bool.not_true, Bool.and_false] at hno
      exact .inl (RecoveryKeys.multiSlot (s := s) hreport hno fun h =>
        absurd (hslots.symm.trans h.noSlots) (by decide))
    | false =>
      rw [hslots, show bootsRecovery env s = true from hrecovery] at hno
      obtain hkeys | ⟨hnoimages, hrequested, hsame, hnone⟩ :=
        hreport.noSlots hloaded hno (habSuffix.trans (hsuffix hslots)) hrecovery hslots
      · exact .inl hkeys
      · refine .inr ⟨himages.trans hnoimages, hrequested, ?_⟩
        rw [hsame, Option.some.injEq] at hdata
        exact hdata ▸ hnone
  · rename_i hrecovery
    rw [show bootsRecovery env s = false from (Bool.not_eq_true _).mp hrecovery,
      Bool.false_and] at hno
    refine wp_imp (verifyBoot_keys _ hallow hno hib) fun r s₁ h₁ => ?_
    refine wp_seq (checkResult_spec _ r.2) fun data s₂ h₂ => ?_
    obtain ⟨rfl, -, hcheck⟩ := h₂
    exact .inl (.uniform (h₁ (hok r.2 hcheck)) rfl (fun k hk => List.mem_singleton.mp hk)
      fun h => hrecovery h.recovery)

theorem recordRequested_missing (himages : s.info.images = [])
    (hnone : loadedImage data IMG_RECOVERY = none) :
    wp (recordRequested data [IMG_RECOVERY]) (fun _ _ => False) (fun _ _ => True) s := by
  unfold recordRequested recordImages recordImages
  rw [wp_bind, hnone, wp_pure, wp_bind, wp_get, wp_guardOut, himages]
  decide

theorem vb2Authenticate_keys (hlocked : s.avb.device.devInfo.isUnlocked = false)
    (hfresh : s.avb.userData.acceptedKeys = [])
    (hsuffix : s.info.multiSlotBoot = false → suffix = []) (hib rot : Bool) :
    wp (vb2Authenticate env (avbSlotVerifier venv) hib rot suffix)
      (fun _ s' => NamesKeys venv.oemPublicKey s.avb.device.devInfo.userPublicKey
        s'.avb.userData.acceptedKeys s'.info.bootState ↔ ¬ MixedKeys env venv s) anyExit s := by
  refine wp_seq (verifyImages_keys hlocked hsuffix hib) fun images s₁ h₁ => ?_
  rw [wp_bind]
  obtain ⟨keys, key, hkeys, hlast, hmixed⟩ | ⟨himages, hrequested, hnone⟩ := h₁
  · -- the stages that follow keep the flag and the history of the keys
    refine Steps.imp (recordRequested_steps _ _) fun _ s₂ h₂ => ?_
    refine wp_mono (vb2Finish_spec images hib rot) (fun _ s' h => ?_) fun _ _ _ => trivial
    obtain ⟨s₃, ⟨hstep, -⟩, -, rfl⟩ := h
    have hunlocked : s₃.avb.device.devInfo.isUnlocked = false := by
      rw [hstep.raised.unlocked, h₂.avb, hkeys.device.unlocked]
      exact hlocked
    have huser : s₃.avb.userData = s₁.avb.userData := hstep.userData.trans (congrArg _ h₂.avb)
    have hstate : vb2BootState s₃ = if s₁.avb.userData.isUserKey then .YELLOW else .GREEN := by
      rw [vb2BootState, hunlocked, huser]
      rfl
    show NamesKeys _ _ s₃.avb.userData.acceptedKeys (vb2BootState s₃) ↔ _
    rw [huser, ← hmixed]
    exact namesKeys_iff hkeys hfresh hlast hstate
  · rw [hrequested]
    exact wp_imp (recordRequested_missing himages hnone) fun _ _ h => h.elim

theorem Prepared.bootsRecovery (h : Prepared env hib s s') :
    bootsRecovery env s' = OhMyAbl.bootsRecovery env s := by
  unfold OhMyAbl.bootsRecovery
  rw [h.info, h.noKernel]

theorem Prepared.bootHeaderVersion (h : Prepared env hib s s') :
    bootHeaderVersion venv s'.info = OhMyAbl.bootHeaderVersion venv s.info := by
  unfold OhMyAbl.bootHeaderVersion
  rw [h.info]

theorem MixedKeys.prepared (h : Prepared env hib s s') :
    MixedKeys env venv s' ↔ MixedKeys env venv s := by
  have hboots := h.bootsRecovery
  have himages : bootHeaderVersion venv s'.info = bootHeaderVersion venv s.info :=
    h.bootHeaderVersion
  have hslots : s'.info.multiSlotBoot = s.info.multiSlotBoot := by rw [h.info]
  constructor
  · rintro ⟨hrecovery, hno, hversion, huser, hother⟩
    rw [h.device] at huser hother
    exact ⟨hboots ▸ hrecovery, hslots ▸ hno, himages ▸ hversion, huser, hother⟩
  · rintro ⟨hrecovery, hno, hversion, huser, hother⟩
    rw [← h.device] at huser hother
    exact ⟨hboots ▸ hrecovery, hslots ▸ hno, himages ▸ hversion, huser, hother⟩

theorem vb2Body_keys (hlocked : s.avb.device.devInfo.isUnlocked = false) (hib rot : Bool) :
    wp (vb2Body env (avbSlotVerifier venv) hib rot)
      (fun _ s' => NamesKeys venv.oemPublicKey s.avb.device.devInfo.userPublicKey
        s'.avb.userData.acceptedKeys s'.info.bootState ↔ ¬ MixedKeys env venv s) anyExit s := by
  unfold vb2Body
  rw [wp_bind]
  refine wp_mono vb2Prepare_spec (fun suffix s₁ h₁ => ?_) fun _ _ _ => trivial
  obtain ⟨hprep, huser, -, hsuffix⟩ := h₁
  have hlocked₁ : s₁.avb.device.devInfo.isUnlocked = false := by
    rw [hprep.device]
    exact hlocked
  have hempty : s₁.info.multiSlotBoot = false → suffix = [] := by
    intro hslots
    rw [hprep.info] at hslots
    rw [hsuffix, slotSuffix, show s.info.multiSlotBoot = false from hslots]
    rfl
  refine wp_imp (vb2Authenticate_keys hlocked₁ (by rw [huser]) hempty hib rot)
    fun _ s' h => ?_
  rw [← MixedKeys.prepared hprep, ← hprep.device]
  exact h

theorem loadImageAndAuthVB2_keys (hlocked : s.avb.device.devInfo.isUnlocked = false)
    (hib rot : Bool) :
    wp (loadImageAndAuthVB2 env (avbSlotVerifier venv) hib rot)
      (fun status s' => status = EFI_SUCCESS →
        (NamesKeys venv.oemPublicKey s.avb.device.devInfo.userPublicKey
          s'.avb.userData.acceptedKeys s'.info.bootState ↔ ¬ MixedKeys env venv s)) anyExit s := by
  have hsame : MixedKeys env venv (s.setInfo fun i => { i with bootState := .RED }) ↔
      MixedKeys env venv s :=
    ⟨fun ⟨hr, hn, hv, hu, ho⟩ => ⟨hr, hn, hv, hu, ho⟩,
      fun ⟨hr, hn, hv, hu, ho⟩ => ⟨hr, hn, hv, hu, ho⟩⟩
  refine loadImageAndAuthVB2_success _ hib rot ?_
  rw [← hsame]
  exact vb2Body_keys (s := s.setInfo fun i => { i with bootState := .RED }) hlocked hib rot

end Keys

/-! ### The images of a recovery boot

With a header of version 3 or later two partitions are verified, and so there may be two keys.
But then the image is also looked for a vendor_boot image, which a recovery boot never requests. -/

section Images

variable {env : VerifiedBootEnv} {venv : SlotVerifyEnv} {s : LoaderState}

/-- The images in the record of a recovery boot: the recovery image is the first one, and there
    is no vendor_boot image. -/
structure RecoveryImages (images : List ImageData) : Prop where
  first : ∀ image, images.head? = some image →
    strnCmp image.name IMG_RECOVERY IMG_RECOVERY.length = true
  noVendorBoot : ∀ image ∈ images,
    strnCmp image.name IMG_VENDOR_BOOT IMG_VENDOR_BOOT.length = false

def AvbPartitionData.image (p : AvbPartitionData) : ImageData :=
  ⟨p.partitionName, p.data, p.dataSize⟩

def VerifiedImages.recorded (verified : VerifiedImages) : List ImageData :=
  (verified.requested.filterMap (loadedImage verified.data)).map AvbPartitionData.image

theorem recordImages_ends (data : AvbSlotVerifyData) (names : List (List UInt8)) :
    wp (recordImages data names)
      (fun _ s' => s'.info.images =
          s.info.images ++ (names.filterMap (loadedImage data)).map AvbPartitionData.image ∧
        (names.filterMap (loadedImage data) = [] ∨ s.info.images.length +
          (names.filterMap (loadedImage data)).length ≤ MAX_NUMBER_OF_LOADED_IMAGES))
      (fun _ _ => names.filterMap (loadedImage data) ≠ [] ∧ MAX_NUMBER_OF_LOADED_IMAGES <
        s.info.images.length + (names.filterMap (loadedImage data)).length) s := by
  induction names generalizing s with
  | nil => exact ⟨(List.append_nil _).symm, Or.inl rfl⟩
  | cons name rest ih =>
    unfold recordImages
    rw [List.filterMap_cons]
    cases hloaded : loadedImage data name with
    | none => exact ih
    | some p =>
      rw [wp_bind, wp_get, wp_ite]
      refine ⟨fun hfull => ?_, fun hroom => ?_⟩
      · refine ⟨List.cons_ne_nil _ _, ?_⟩
        rw [List.length_cons]
        omega
      · refine wp_mono ih (fun _ s' h => ?_) fun _ s' h => ?_
        · obtain ⟨himages, hlen⟩ := h
          refine ⟨?_, Or.inr ?_⟩
          · rw [himages, List.map_cons]
            exact List.append_assoc _ [p.image] _
          · rcases hlen with hnil | hle
            · rw [hnil, List.length_singleton]
              omega
            · simp only [LoaderState.setInfo, List.length_append, List.length_singleton] at hle
              rw [List.length_cons]
              omega
        · obtain ⟨-, hlt⟩ := h
          refine ⟨List.cons_ne_nil _ _, ?_⟩
          simp only [LoaderState.setInfo, List.length_append, List.length_singleton] at hlt
          rw [List.length_cons]
          omega

theorem recordRequested_ends (images : VerifiedImages) :
    wp (recordRequested images.data images.requested)
      (fun _ s' => s'.info.images = s.info.images ++ images.recorded ∧
        images.requested.length ≤ s.info.images.length + images.recorded.length ∧
        (images.recorded.length = 0 ∨
          s.info.images.length + images.recorded.length ≤ MAX_NUMBER_OF_LOADED_IMAGES))
      (fun _ _ => s.info.images.length + images.recorded.length < images.requested.length ∨
        (images.recorded.length ≠ 0 ∧
          MAX_NUMBER_OF_LOADED_IMAGES < s.info.images.length + images.recorded.length)) s := by
  have hlen : images.recorded.length =
      (images.requested.filterMap (loadedImage images.data)).length := List.length_map _
  unfold recordRequested
  rw [wp_bind]
  refine wp_mono (recordImages_ends images.data images.requested) (fun _ s₁ h => ?_)
    fun _ s₁ h => ?_
  · obtain ⟨himages, hroom⟩ := h
    have hcount : s₁.info.images.length = s.info.images.length + images.recorded.length := by
      rw [himages, List.length_append]
      rfl
    rw [wp_bind, wp_get, wp_guardOut]
    constructor
    · intro hstatus
      left
      split_ifs at hstatus with hfew
      · omega
      · exact absurd rfl hstatus
    · intro hstatus
      refine ⟨himages, ?_, ?_⟩
      · by_contra hfew
        rw [if_pos (by omega)] at hstatus
        exact absurd hstatus (by decide)
      · rcases hroom with hnil | hle
        · left
          rw [hlen, hnil]
          rfl
        · right
          omega
  · obtain ⟨hne, hlt⟩ := h
    right
    rw [hlen]
    exact ⟨fun hzero => hne (List.length_eq_zero_iff.mp hzero), hlt⟩

theorem checkImages_spec :
    wp (checkImages env)
      (fun _ _ => ∃ image,
        getImage s.info (if bootsRecovery env s then IMG_RECOVERY else IMG_BOOT) = some image ∧
        (headerVersion image.imageBuffer ≥ BOOT_HEADER_VERSION_THREE →
          (getImage s.info IMG_VENDOR_BOOT).isSome = true)) anyExit s := by
  unfold checkImages
  rw [wp_bind, wp_guardOut]
  refine ⟨fun _ => trivial, fun _ => ?_⟩
  rw [wp_bind, wp_get]
  cases himage : getImage s.info (if bootsRecovery env s then IMG_RECOVERY else IMG_BOOT) with
  | none => trivial
  | some image =>
    rw [wp_bind, wp_guardOut]
    refine ⟨fun _ => trivial, fun _ => ?_⟩
    rw [wp_bind, wp_when]
    refine ⟨fun _ => ?_, fun hversion => ?_⟩
    · rw [wp_bind, wp_guardOut]
      refine ⟨fun _ => trivial, fun hstatus => ?_⟩
      have hvendor : (getImage s.info IMG_VENDOR_BOOT).isSome = true := by
        unfold imageStatus at hstatus
        split at hstatus
        · assumption
        · cases hstatus
      refine wp_any (fun _ _ => ?_) fun _ _ => trivial
      exact wp_any (fun _ _ => ⟨image, rfl, fun _ => hvendor⟩) fun _ _ => trivial
    · refine wp_any (fun _ _ => ⟨image, rfl, fun hthree => ?_⟩) fun _ _ => trivial
      exact absurd hthree (of_decide_eq_false hversion)

structure OwnImages (venv : SlotVerifyEnv) (hib : Bool) (i : BootInfo) (images : VerifiedImages) :
    Prop where
  names : ∀ p ∈ images.data.loadedPartitions, p.partitionName ∈ images.requested
  contents : ∀ p ∈ images.data.loadedPartitions, p.partitionName = IMG_RECOVERY →
    p.data = venv.contents IMG_RECOVERY
  requested : images.requested = [IMG_RECOVERY] ∨ images.requested = recoveryPartitions hib ∧
    bootHeaderVersion venv i ≥ BOOT_HEADER_VERSION_THREE

theorem verifyImages_own (hrecovery : bootsRecovery env s = true) (hib : Bool) :
    wp (verifyImages env (avbSlotVerifier venv) hib [])
      (fun images s' => s'.info.images = s.info.images ∧ OwnImages venv hib s.info images)
      anyExit s := by
  unfold verifyImages verifyFor
  rw [wp_bind, wp_modify, wp_bind, wp_get, wp_bind,
    if_pos (show bootsRecovery env (s.setInfo BootInfo.noteLoadedHeader) = true from hrecovery)]
  refine wp_imp (verifyRecovery_spec _ hib) fun r s₁ h₁ => ?_
  obtain ⟨himages, hloaded, first, hfirst, hrequested, -⟩ := h₁
  refine wp_seq (checkResult_spec _ r.2) fun data s₂ h₂ => ?_
  obtain ⟨rfl, hdata, -⟩ := h₂
  have hdata := hloaded data hdata
  refine ⟨himages, fun p hp => (hdata p hp).1, fun p hp hname => ?_, ?_⟩
  · have hcontents := hdata.contents rfl hp (by rw [hname]; decide)
    rw [hname] at hcontents
    exact hcontents
  · obtain hone | ⟨htwo, hversion⟩ := hrequested
    · exact .inl hone
    · refine .inr ⟨htwo, ?_⟩
      obtain heq | ⟨-, hzero, -⟩ := recoveryHeaderVersion_eq (i := s.info) hfirst rfl
      · exact heq ▸ hversion
      · exact absurd (hzero ▸ hversion) (by decide)

section Recorded

variable {hib : Bool} {i : BootInfo} {verified : VerifiedImages} (h : OwnImages venv hib i verified)

include h

theorem OwnImages.mem_recorded {image : ImageData} (himage : image ∈ verified.recorded) :
    (image.name = IMG_RECOVERY ∧ image.imageBuffer = venv.contents IMG_RECOVERY) ∨
      image.name = IMG_DTBO := by
  obtain ⟨p, hp, rfl⟩ := List.mem_map.mp himage
  obtain ⟨name, -, hloaded⟩ := List.mem_filterMap.mp hp
  have hmem := List.mem_of_find?_eq_some hloaded
  have hname : p.partitionName = IMG_RECOVERY ∨ p.partitionName = IMG_DTBO := by
    have hnames := h.names p hmem
    obtain hone | ⟨htwo, -⟩ := h.requested
    · rw [hone] at hnames
      exact .inl (List.mem_singleton.mp hnames)
    · rw [htwo] at hnames
      cases hib <;> simpa [recoveryPartitions] using hnames
  exact hname.imp (fun heq => ⟨heq, h.contents p hmem heq⟩) id

theorem OwnImages.noVendorBoot {image : ImageData} (himage : image ∈ verified.recorded) :
    strnCmp image.name IMG_VENDOR_BOOT IMG_VENDOR_BOOT.length = false := by
  obtain ⟨hname, -⟩ | hname := h.mem_recorded himage <;> rw [hname] <;> decide

theorem OwnImages.name_recorded (hone : verified.requested = [IMG_RECOVERY]) {image : ImageData}
    (himage : image ∈ verified.recorded) : image.name = IMG_RECOVERY := by
  obtain ⟨p, hp, rfl⟩ := List.mem_map.mp himage
  obtain ⟨name, -, hloaded⟩ := List.mem_filterMap.mp hp
  have hnames := h.names p (List.mem_of_find?_eq_some hloaded)
  rw [hone] at hnames
  exact List.mem_singleton.mp hnames

theorem OwnImages.contents_of_match {image : ImageData} (himage : image ∈ verified.recorded)
    (hmatch : strnCmp image.name IMG_RECOVERY IMG_RECOVERY.length = true) :
    image.imageBuffer = venv.contents IMG_RECOVERY := by
  obtain ⟨-, hcontents⟩ | hname := h.mem_recorded himage
  · exact hcontents
  · rw [hname] at hmatch
    exact absurd hmatch (by decide)

end Recorded

variable {hib : Bool} {i : BootInfo} {verified : VerifiedImages}

theorem bootHeaderVersion_le (h : OwnImages venv hib i verified) (himages : RecoveryImages i.images)
    {image : ImageData} (hfind : (i.images ++ verified.recorded).find?
      (fun image => strnCmp image.name IMG_RECOVERY IMG_RECOVERY.length) = some image) :
    bootHeaderVersion venv i ≤ headerVersion image.imageBuffer := by
  unfold bootHeaderVersion
  cases hold : i.images with
  | nil =>
    rw [hold, List.nil_append] at hfind
    have hmatch := List.find?_some hfind
    rw [h.contents_of_match (List.mem_of_find?_eq_some hfind) hmatch]
    exact Nat.mod_le _ _
  | cons head rest =>
    have hhead := himages.first head (by rw [hold]; rfl)
    rw [hold, List.cons_append, List.find?_cons, hhead] at hfind
    cases hfind
    exact Nat.le_refl _

theorem RecoveryImages.append (himages : RecoveryImages i.images)
    (h : OwnImages venv hib i verified)
    (hold : bootHeaderVersion venv i < BOOT_HEADER_VERSION_THREE) :
    RecoveryImages (i.images ++ verified.recorded) := by
  have hone : verified.requested = [IMG_RECOVERY] :=
    h.requested.resolve_right fun htwo => absurd htwo.2 (Nat.not_le.mpr hold)
  constructor
  · intro image hhead
    cases hempty : i.images with
    | nil =>
      rw [hempty, List.nil_append] at hhead
      rw [h.name_recorded hone (List.mem_of_mem_head? hhead)]
      decide
    | cons head rest =>
      refine himages.first image ?_
      rw [hempty] at hhead ⊢
      exact hhead
  · intro image hmem
    obtain hmem | hmem := List.mem_append.mp hmem
    · exact himages.noVendorBoot image hmem
    · exact h.noVendorBoot hmem

theorem checkImages_recovery (himages : RecoveryImages i.images) (h : OwnImages venv hib i verified)
    {t : LoaderState} (hrecovery : bootsRecovery env t = true)
    (ht : t.info.images = i.images ++ verified.recorded) :
    wp (checkImages env)
      (fun _ _ => bootHeaderVersion venv i < BOOT_HEADER_VERSION_THREE) anyExit t := by
  refine wp_imp checkImages_spec fun _ _ h' => ?_
  obtain ⟨image, hfind, hvendor⟩ := h'
  rw [if_pos hrecovery, getImage, ht] at hfind
  have hle := bootHeaderVersion_le h himages hfind
  by_contra hthree
  obtain ⟨vendor, hsome⟩ :=
    Option.isSome_iff_exists.mp (hvendor (Nat.le_trans (Nat.not_lt.mp hthree) hle))
  have hmem := List.mem_of_find?_eq_some hsome
  have hmatch := List.find?_some hsome
  rw [ht] at hmem
  have hno : strnCmp vendor.name IMG_VENDOR_BOOT IMG_VENDOR_BOOT.length = false :=
    (List.mem_append.mp hmem).elim (himages.noVendorBoot vendor) h.noVendorBoot
  exact absurd (hno.symm.trans hmatch) (by decide)

theorem vb2Authenticate_recovery (hrecovery : bootsRecovery env s = true)
    (himages : RecoveryImages s.info.images) (hib rot : Bool) :
    wp (vb2Authenticate env (avbSlotVerifier venv) hib rot [])
      (fun _ s' => bootHeaderVersion venv s.info < BOOT_HEADER_VERSION_THREE ∧
        RecoveryImages s'.info.images) anyExit s := by
  unfold vb2Authenticate
  rw [wp_bind]
  refine wp_mono (wp_and (wp_of_steps (verifyImages_steps _ hib []))
    (verifyImages_own hrecovery hib)) (fun verified s₁ h₁ => ?_) fun _ _ _ => trivial
  obtain ⟨hframe, hsame, hown⟩ := h₁
  rw [wp_bind]
  refine wp_mono (wp_and (wp_of_steps (recordRequested_steps _ _)) (recordRequested_ends verified))
    (fun _ s₂ h₂ => ?_) fun _ _ _ => trivial
  obtain ⟨hinfo, himages₂, -, -⟩ := h₂
  rw [hsame] at himages₂
  have hframe₂ : Vb2Frame env s s₂ := trans_of (Vb2Frame env) hframe hinfo.frame
  -- from here on the record and the kind of the boot stay as they are
  refine wp_mono (vb2Finish_spec verified hib rot) (fun _ s' h => ?_) fun _ _ _ => trivial
  obtain ⟨s₃, ⟨hstep, -⟩, hchecks, rfl⟩ := h
  have hrecovery₃ : bootsRecovery env s₃ = true := by
    rw [← hrecovery]
    unfold bootsRecovery
    rw [hstep.info, hstep.noKernel, hframe₂.multiSlotBoot, hframe₂.bootIntoRecovery,
      hframe₂.noKernel]
  have himages₃ : s₃.info.images = s.info.images ++ verified.recorded := by
    rw [hstep.info, himages₂]
  have hold := wp_ok (checkImages_recovery himages hown hrecovery₃ himages₃) hchecks
  refine ⟨hold, ?_⟩
  show RecoveryImages s₃.info.images
  rw [himages₃]
  exact himages.append hown hold

theorem vb2Body_recovery (hrecovery : bootsRecovery env s = true)
    (hslots : s.info.multiSlotBoot = false) (himages : RecoveryImages s.info.images)
    (hib rot : Bool) :
    wp (vb2Body env (avbSlotVerifier venv) hib rot)
      (fun _ s' => bootHeaderVersion venv s.info < BOOT_HEADER_VERSION_THREE ∧
        RecoveryImages s'.info.images) anyExit s := by
  unfold vb2Body
  rw [wp_bind]
  refine wp_mono vb2Prepare_spec (fun suffix s₁ h₁ => ?_) fun _ _ _ => trivial
  obtain ⟨hprep, -, -, hsuffix⟩ := h₁
  have hempty : suffix = [] := by
    rw [hsuffix, slotSuffix, hslots]
    rfl
  have himages₁ : RecoveryImages s₁.info.images := by
    rw [hprep.info]
    exact himages
  rw [hempty, ← hprep.bootHeaderVersion]
  exact vb2Authenticate_recovery (hprep.bootsRecovery.trans hrecovery) himages₁ hib rot

theorem loadImageAndAuthVB2_recovery (hrecovery : bootsRecovery env s = true)
    (hslots : s.info.multiSlotBoot = false) (himages : RecoveryImages s.info.images)
    (hib rot : Bool) :
    wp (loadImageAndAuthVB2 env (avbSlotVerifier venv) hib rot)
      (fun status s' => status = EFI_SUCCESS →
        bootHeaderVersion venv s.info < BOOT_HEADER_VERSION_THREE ∧
          RecoveryImages s'.info.images) anyExit s :=
  loadImageAndAuthVB2_success _ hib rot
    (vb2Body_recovery (s := s.setInfo fun i => { i with bootState := .RED }) hrecovery hslots
      himages hib rot)

/-! ### The callers -/

/-- The states in which `LoadImageAndAuthVB2` is called.  `LinuxLoaderEntry` and `CmdContinue`
    start with a zeroed record.  `CmdBoot` enters the image it was sent and never boots into
    recovery.  A resume from hibernation that got through authentication and failed later
    leaves its record to the normal boot.

    Left out is the boot after a resume whose authentication failed: it too finds the record of
    that call, but the buffers of the images in it may have been freed, and the model has no
    contents for those. -/
inductive Called (env : VerifiedBootEnv) (venv : SlotVerifyEnv) : LoaderState → Prop
  | zeroed {s : LoaderState} (images : s.info.images = []) : Called env venv s
  | fastbootBoot {s : LoaderState} (recovery : s.info.bootIntoRecovery = false) :
      Called env venv s
  | afterResume {s s₁ s' : LoaderState} {rot : Bool} (call : Called env venv s)
      (resume : (loadImageAndAuthVB2 env (avbSlotVerifier venv) true rot).exec s =
        (.ok EFI_SUCCESS, s₁))
      (images : s'.info.images = s₁.info.images)
      (slots : s'.info.multiSlotBoot = s.info.multiSlotBoot)
      (recovery : bootsRecovery env s' = true → bootsRecovery env s = true) :
      Called env venv s'

theorem Called.recoveryImages (h : Called env venv s) (hrecovery : bootsRecovery env s = true)
    (hslots : s.info.multiSlotBoot = false) : RecoveryImages s.info.images := by
  induction h with
  | zeroed images =>
    rw [images]
    exact ⟨nofun, nofun⟩
  | fastbootBoot recovery =>
    unfold bootsRecovery at hrecovery
    rw [recovery, Bool.false_and, Bool.false_and, Bool.and_false] at hrecovery
    cases hrecovery
  | afterResume call resume images slots recovery ih =>
    have hbefore := recovery hrecovery
    rw [slots] at hslots
    rw [images]
    exact (wp_ok (loadImageAndAuthVB2_recovery hbefore hslots (ih hbefore hslots) true _)
      resume rfl).2

/-- **The boot state names the keys that were trusted.**  In every locked boot that
    `LoadImageAndAuthVB2` lets pass, GREEN means that all keys accepted on the way were the
    manufacturer's, and a key of the user shows as YELLOW. -/
theorem loadImageAndAuthVB2_namesKeys (env : VerifiedBootEnv) (venv : SlotVerifyEnv)
    (hib rot : Bool) (s s' : LoaderState) (hcall : Called env venv s)
    (hlocked : s.avb.device.devInfo.isUnlocked = false)
    (hsuccess : (loadImageAndAuthVB2 env (avbSlotVerifier venv) hib rot).exec s =
      (.ok EFI_SUCCESS, s')) :
    NamesKeys venv.oemPublicKey s.avb.device.devInfo.userPublicKey
      s'.avb.userData.acceptedKeys s'.info.bootState := by
  refine (wp_ok (loadImageAndAuthVB2_keys hlocked hib rot) hsuccess rfl).mpr fun hmixed => ?_
  have himages := hcall.recoveryImages hmixed.recovery hmixed.noSlots
  have hold := wp_ok (loadImageAndAuthVB2_recovery hmixed.recovery hmixed.noSlots himages hib rot)
    hsuccess rfl
  exact absurd hmixed.version (Nat.not_le.mpr hold.1)

end Images

/-! ### A recovery image signed by the user -/

/-- A recovery image of 1632 bytes with a header of version 2, and its SHA-256 digest. -/
def recoveryImage : Bytes := fun i => if i = 40 then 2 else 0

def recoveryDigest : List UInt8 :=
  [36, 91, 37, 121, 89, 4, 233, 35, 157, 226, 165, 34, 65, 232, 144, 106,
   238, 31, 35, 149, 60, 133, 114, 212, 241, 10, 9, 64, 40, 83, 213, 47]

def recoveryVbmeta : VbmetaImage where
  verifyResult := .OK
  publicKey := ascii "user key"
  flags := 0
  rollbackIndex := 0
  rollbackIndexLocation := 0
  descriptors := some [.hash ⟨true, IMG_RECOVERY, false, 1632, ascii "sha256", [], recoveryDigest⟩]
  signed := fun _ => by decide

def recoveryVerifyEnv : SlotVerifyEnv where
  device := ⟨fun _ => EFI_SUCCESS, fun _ => EFI_SUCCESS, fun _ => false⟩
  oemPublicKey := ascii "oem key"
  hash := ⟨fun _ => recoveryDigest, fun _ => List.replicate 64 0, fun _ => rfl⟩
  validUtf8 := fun _ => true
  contents := fun _ => recoveryImage
  readFooter := fun _ => .OK
  readVbmeta := fun _ => (.OK, recoveryVbmeta)
  getSizeOfPartition := fun _ => (.OK, 4096)
  readFromPartition := fun _ size => (.OK, size)
  allocVbmeta := fun _ => true
  allocImage := fun _ => true
  allocName := fun _ => true
  allocSlotData := true
  allocAbSuffix := true
  allocCmdline := true
  vbmetaDigest := fun _ => []
  addRootDigestSubstitution := fun _ => .OK
  appendOptions := .OK
  subCmdline := true
  loadVerifyInParallel := false
  loadAndVerifyBootHashPartition := fun _ _ => (.OK, recoveryImage)

def recoveryBootEnv : VerifiedBootEnv where
  slots := ⟨false, EFI_SUCCESS, EFI_SUCCESS, 0, false, .EMMC, EFI_SUCCESS, true, true, true, false,
    false, false, fun _ => true⟩
  device := recoveryVerifyEnv.device
  dynamicPartitionSupport := false
  buildUseRecoveryAsBoot := false
  locateVerifiedBoot := EFI_SUCCESS
  allocateCmdLine := true
  allocateUserData := true
  allocateOps := true
  allocateVBData := true
  updateRollbackSyscall := EFI_SUCCESS
  loadImageHeader := fun _ => ⟨EFI_SUCCESS, 4096, recoveryImage⟩
  checkImageHeader := EFI_SUCCESS
  appendVBCommonCmdLine := EFI_SUCCESS
  appendVBCmdLine := EFI_SUCCESS
  getOsVerAndSecPatchLevel := EFI_SUCCESS
  keyMasterSetRotAndBootState := EFI_SUCCESS
  setVerifiedBootHash := EFI_SUCCESS

def lockedDevice : DeviceInfo where
  isUnlocked := false
  isUnlockCritical := false
  verityMode := true
  userPublicKey := ascii "user key"
  rollbackIndex := Vector.replicate 32 0
  persistentValue := Vector.replicate 8 none

def recoveryBoot : LoaderState where
  info := ⟨false, false, false, true, wide "recovery", [], false, .GREEN, 0, false⟩
  slots := ⟨[], false, [], 0⟩
  avb := ⟨⟨false, false, [], []⟩, ⟨lockedDevice, false, lockedDevice, 0⟩, .empty⟩
  recoveryHasNoKernel := false
  verifications := []
  authStatus := none

/-- The recovery image of the user boots with YELLOW. -/
theorem loadImageAndAuthVB2_namesKeys_recovery :
    ∃ s', (loadImageAndAuthVB2 recoveryBootEnv (avbSlotVerifier recoveryVerifyEnv) false
        false).exec recoveryBoot = (.ok EFI_SUCCESS, s') ∧
      s'.avb.userData.acceptedKeys = [ascii "user key"] ∧ s'.info.bootState = .YELLOW ∧
      NamesKeys (ascii "oem key") (ascii "user key") s'.avb.userData.acceptedKeys
        s'.info.bootState := by
  have hrun := exec_of_result (show ((loadImageAndAuthVB2 recoveryBootEnv
    (avbSlotVerifier recoveryVerifyEnv) false false).exec recoveryBoot).1 = .ok EFI_SUCCESS by
      decide +kernel)
  refine ⟨_, hrun, ?_, ?_, loadImageAndAuthVB2_namesKeys _ _ _ _ _ _ (.zeroed rfl) rfl hrun⟩
  · decide +kernel
  · decide +kernel

end OhMyAbl
