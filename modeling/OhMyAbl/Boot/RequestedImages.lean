/-
  **Whether every requested image gets into the record of a boot.**

  `LoadImageAndAuthVB2` enters the loaded partition of each requested name into `Info->Images`
  and then compares the number of all images there with the number of names.  An image that was
  there before, as after `fastboot boot`, is counted too and hides one that is missing.
-/
import OhMyAbl.Boot.TrustedKeys

namespace OhMyAbl

open Prog

def verifyStage (env : VerifiedBootEnv) (v : SlotVerifier) (hibernationResume : Bool) :
    Vb2Prog VerifiedImages := do
  let suffix ← vb2Prepare env hibernationResume
  verifyImages env v hibernationResume suffix

/-- Every requested name has an entry with the buffer and the size slot verification loaded for
    it. -/
def VerifiedImages.Present (images : VerifiedImages) (info : BootInfo) : Prop :=
  ∀ name ∈ images.requested, ∃ p ∈ images.data.loadedPartitions,
    p.partitionName = name ∧ p.image ∈ info.images

def VerifiedImages.Has (images : VerifiedImages) (name : List UInt8) : Prop :=
  ∃ p ∈ images.data.loadedPartitions, p.partitionName = name

instance (images : VerifiedImages) (name : List UInt8) : Decidable (images.Has name) :=
  inferInstanceAs (Decidable (∃ p ∈ images.data.loadedPartitions, p.partitionName = name))

def VerifiedImages.found (images : VerifiedImages) : Nat :=
  images.requested.countP fun name => images.Has name

/-- With `n` images in the record before: all the names have a partition, or there are too few
    images in all, or too many for the record. -/
def VerifiedImages.Complete (images : VerifiedImages) (n : Nat) : Prop :=
  (∀ name ∈ images.requested, images.Has name) ∨ n + images.found < images.requested.length ∨
    (images.found ≠ 0 ∧ MAX_NUMBER_OF_LOADED_IMAGES < n + images.found)

/-! ### The names -/

def imageNames : List (List UInt8) :=
  [IMG_BOOT, IMG_DTBO, IMG_RECOVERY, IMG_VENDOR_BOOT, IMG_INIT_BOOT]

theorem imageNames_prefix {a b : List UInt8} (ha : a ∈ imageNames) (hb : b ∈ imageNames)
    (h : strnCmp a b b.length = true) : b = a := by
  have hall : ∀ a ∈ imageNames, ∀ b ∈ imageNames, strnCmp a b b.length = true → b = a := by decide
  exact hall a ha b hb h

structure VerifiedImages.Named (images : VerifiedImages) : Prop where
  known : ∀ name ∈ images.requested, name ∈ imageNames
  names : ∀ p ∈ images.data.loadedPartitions, p.partitionName ∈ images.requested

section Names

variable {env : VerifiedBootEnv} {venv : SlotVerifyEnv} {s : LoaderState}
  {images : VerifiedImages}

theorem VerifiedImages.Named.loadedImage_name (h : images.Named) {name : List UInt8}
    (hname : name ∈ images.requested) {p : AvbPartitionData}
    (hp : loadedImage images.data name = some p) :
    p ∈ images.data.loadedPartitions ∧ p.partitionName = name := by
  have hmem := List.mem_of_find?_eq_some hp
  have hmatch := List.find?_some hp
  exact ⟨hmem, imageNames_prefix (h.known name hname) (h.known _ (h.names p hmem)) hmatch⟩

theorem VerifiedImages.Named.loadedImage_isSome (h : images.Named) {name : List UInt8}
    (hname : name ∈ images.requested) :
    (loadedImage images.data name).isSome = true ↔ images.Has name := by
  constructor
  · intro hsome
    obtain ⟨p, hp⟩ := Option.isSome_iff_exists.mp hsome
    exact ⟨p, h.loadedImage_name hname hp⟩
  · rintro ⟨p, hmem, rfl⟩
    rw [loadedImage, List.find?_isSome]
    exact ⟨p, hmem, by simp [strnCmp]⟩

theorem VerifiedImages.Named.recorded_length (h : images.Named) :
    images.recorded.length = images.found := by
  rw [VerifiedImages.recorded, List.length_map, VerifiedImages.found,
    List.length_filterMap_eq_countP]
  apply List.countP_congr
  intro name hname
  rw [decide_eq_true_iff]
  exact h.loadedImage_isSome hname

theorem VerifiedImages.Named.present_iff (h : images.Named) {info : BootInfo}
    {before : List ImageData} (hinfo : info.images = before ++ images.recorded) :
    images.Present info ↔ ∀ name ∈ images.requested, images.Has name := by
  constructor
  · intro hpresent name hname
    obtain ⟨p, hp, heq, -⟩ := hpresent name hname
    exact ⟨p, hp, heq⟩
  · intro hall name hname
    obtain ⟨p, hp⟩ := Option.isSome_iff_exists.mp
      ((h.loadedImage_isSome hname).mpr (hall name hname))
    obtain ⟨hmem, heq⟩ := h.loadedImage_name hname hp
    refine ⟨p, hmem, heq, ?_⟩
    rw [hinfo]
    apply List.mem_append_right
    exact List.mem_map_of_mem (List.mem_filterMap.mpr ⟨name, hname, hp⟩)

/-! ### The verification -/

theorem recoveryPartitions_known (hib : Bool) : ∀ name ∈ recoveryPartitions hib,
    name ∈ imageNames := by
  cases hib <;> decide

theorem mem_option_name {c : Prop} [Decidable c] {a name : List UInt8} (ha : a ∈ imageNames)
    (h : name ∈ if c then [a] else []) : name ∈ imageNames := by
  split_ifs at h
  · rw [List.mem_singleton.mp h]
    exact ha
  · cases h

theorem bootPartitions_known (hib : Bool) (suffix : Text) :
    ∀ name ∈ bootPartitions env hib s suffix, name ∈ imageNames := by
  intro name hname
  unfold bootPartitions at hname
  simp only [List.mem_append] at hname
  rcases hname with (((h | h) | h) | h) | h
  · exact mem_option_name (by decide) h
  · rw [← ite_not] at h
    exact mem_option_name (by decide) h
  · exact mem_option_name (by decide) h
  · exact mem_option_name (by decide) h
  · exact mem_option_name (by decide) h

def SameImages (s s' : LoaderState) : Prop := s'.info.images = s.info.images

instance : Std.Refl SameImages where
  refl _ := rfl

instance : IsTrans LoaderState SameImages where
  trans _ _ _ h h' := Eq.trans h' h

theorem verifyBoot_named (req : SlotVerifyRequest) (hib : Bool) :
    wp (verifyBoot env (avbSlotVerifier venv) req hib)
      (fun r s' => s'.info.images = s.info.images ∧ (∀ name ∈ r.1, name ∈ imageNames) ∧
        ∀ data, r.2.2 = some data → ∀ p ∈ data.loadedPartitions, p.partitionName ∈ r.1)
      anyExit s := by
  have hheader : Steps SameImages (readBootHeader env) :=
    readBootHeader_keeps (fun _ _ => rfl) fun _ _ => rfl
  have hsuffix : Steps SameImages (currentSuffix env) := currentSuffix_keeps fun _ _ => rfl
  unfold verifyBoot
  rw [wp_bind, wp_get]
  refine Steps.seq (.when hheader) fun _ s₁ h₁ => ?_
  rw [wp_bind, wp_call]
  refine Steps.imp hsuffix fun suffix s₂ h₂ => ?_
  rw [wp_bind, wp_get]
  refine wp_seq (slotVerify_spec _) fun r s₃ h₃ => ?_
  obtain ⟨hinfo, hloaded, -⟩ := h₃
  refine ⟨?_, bootPartitions_known hib suffix, fun data hdata p hp => (hloaded data hdata p hp).1⟩
  rw [hinfo]
  exact trans_of SameImages h₁ h₂

theorem verifyFor_named (s₀ : LoaderState) (req : SlotVerifyRequest) (hib : Bool) :
    wp (verifyFor env (avbSlotVerifier venv) s₀ req hib)
      (fun r s' => s'.info.images = s.info.images ∧ (∀ name ∈ r.1, name ∈ imageNames) ∧
        ∀ data, r.2.2 = some data → ∀ p ∈ data.loadedPartitions, p.partitionName ∈ r.1)
      anyExit s := by
  unfold verifyFor
  split
  · refine wp_imp (verifyRecovery_spec req hib) fun r s' h => ?_
    obtain ⟨himages, hloaded, _, -, hrequested, -⟩ := h
    refine ⟨himages, ?_, fun data hdata p hp => (hloaded data hdata p hp).1⟩
    rcases hrequested with hone | ⟨htwo, -⟩
    · rw [hone]
      decide
    · rw [htwo]
      exact recoveryPartitions_known hib
  · exact verifyBoot_named req hib

theorem verifyImages_named (hib : Bool) (suffix : List UInt8) :
    wp (verifyImages env (avbSlotVerifier venv) hib suffix)
      (fun images s' => s'.info.images = s.info.images ∧ images.Named) anyExit s := by
  unfold verifyImages
  rw [wp_bind, wp_modify, wp_bind, wp_get]
  refine wp_seq (verifyFor_named _ _ hib) fun r s₁ h₁ => ?_
  obtain ⟨himages, hknown, hnames⟩ := h₁
  refine wp_seq (checkResult_spec _ r.2) fun data s₂ h₂ => ?_
  obtain ⟨rfl, hdata, -⟩ := h₂
  exact ⟨himages, hknown, hnames data hdata⟩

theorem verifyStage_named (hib : Bool) :
    wp (verifyStage env (avbSlotVerifier venv) hib)
      (fun images s' => s'.info.images = s.info.images ∧ images.Named) anyExit s := by
  unfold verifyStage
  rw [wp_bind]
  refine wp_mono vb2Prepare_spec (fun suffix s₁ h₁ => ?_) fun _ _ _ => trivial
  refine wp_mono (verifyImages_named hib suffix) (fun images s₂ h₂ => ?_) fun _ _ _ => trivial
  refine ⟨?_, h₂.2⟩
  rw [h₂.1, h₁.1.info]

end Names

/-! ### The record -/

section Record

variable {env : VerifiedBootEnv} {s : LoaderState}

theorem vb2Body_eq (env : VerifiedBootEnv) (v : SlotVerifier) (hib rot : Bool) :
    vb2Body env v hib rot = (do
      let images ← verifyStage env v hib
      recordRequested images.data images.requested
      vb2Finish env hib rot images) := by
  unfold vb2Body verifyStage vb2Authenticate
  rw [bind_assoc]
  rfl

theorem vb2Finish_images (images : VerifiedImages) (hib rot : Bool) :
    wp (vb2Finish env hib rot images) (fun _ s' => s'.info.images = s.info.images) anyExit s := by
  refine wp_mono (vb2Finish_spec images hib rot) (fun _ s' h => ?_) fun _ _ _ => trivial
  obtain ⟨s₁, ⟨hstep, -⟩, -, rfl⟩ := h
  show s₁.info.images = s.info.images
  rw [hstep.info]

end Record

theorem success_recorded {env : VerifiedBootEnv} {v : SlotVerifier} {hib rot : Bool}
    {s s₁ s' : LoaderState} {images : VerifiedImages}
    (hverify : (verifyStage env v hib).exec (s.setInfo fun i => { i with bootState := .RED }) =
      (.ok images, s₁))
    (hsuccess : (loadImageAndAuthVB2 env v hib rot).exec s = (.ok EFI_SUCCESS, s')) :
    ∃ s₂, (recordRequested images.data images.requested).exec s₁ = (.ok (), s₂) ∧
      s'.info.images = s₂.info.images := by
  have hbody : wp (vb2Body env v hib rot) (fun _ s' =>
      ∃ s₂, (recordRequested images.data images.requested).exec s₁ = (.ok (), s₂) ∧
        s'.info.images = s₂.info.images) anyExit
      (s.setInfo fun i => { i with bootState := .RED }) := by
    rw [vb2Body_eq, wp_bind]
    unfold wp
    rw [hverify]
    dsimp only
    rw [exec_bind]
    rcases hrecord : (recordRequested images.data images.requested).exec s₁ with ⟨e | ⟨⟩, s₂⟩
    · trivial
    · refine wp_imp (vb2Finish_images images hib rot) fun _ s₃ h₃ => ?_
      exact ⟨s₂, rfl, h₃⟩
  exact wp_ok (loadImageAndAuthVB2_success v hib rot hbody) hsuccess rfl

/-- **Every requested image is in the record.**  Past the record of the images that is so exactly
    if the images are `Complete`; and then it is so at the end of every boot that succeeds. -/
theorem requestedImages_present_iff (env : VerifiedBootEnv) (venv : SlotVerifyEnv)
    (hib rot : Bool) (s s₁ : LoaderState) (images : VerifiedImages)
    (hverify : (verifyStage env (avbSlotVerifier venv) hib).exec
      (s.setInfo fun i => { i with bootState := .RED }) = (.ok images, s₁)) :
    ((∀ s₂, (recordRequested images.data images.requested).exec s₁ = (.ok (), s₂) →
        images.Present s₂.info) ↔ images.Complete s.info.images.length) ∧
    (images.Complete s.info.images.length → ∀ s',
      (loadImageAndAuthVB2 env (avbSlotVerifier venv) hib rot).exec s = (.ok EFI_SUCCESS, s') →
        images.Present s'.info) := by
  have hstage := wp_ok (@verifyStage_named env venv _ hib) hverify
  obtain ⟨hsame, hnamed⟩ := hstage
  replace hsame : s₁.info.images = s.info.images := hsame
  have hlen := hnamed.recorded_length
  have hspec := @recordRequested_ends s₁ images
  rw [hsame, hlen] at hspec
  have hiff : (∀ s₂, (recordRequested images.data images.requested).exec s₁ = (.ok (), s₂) →
      images.Present s₂.info) ↔ images.Complete s.info.images.length := by
    unfold wp at hspec
    rcases hrecord : (recordRequested images.data images.requested).exec s₁ with ⟨e | ⟨⟩, s₂⟩ <;>
      rw [hrecord] at hspec
    · exact ⟨fun _ => Or.inr hspec, fun _ s₂ h => by cases h⟩
    · obtain ⟨himages, hcount, hroom⟩ := hspec
      have hpresent := hnamed.present_iff himages
      constructor
      · intro hall
        left
        exact hpresent.mp (hall s₂ rfl)
      · intro hcomplete s₃ h₃
        cases h₃
        rcases hcomplete with hall | hfew | ⟨hne, hmany⟩
        · exact hpresent.mpr hall
        · omega
        · omega
  refine ⟨hiff, fun hcomplete s' hsuccess => ?_⟩
  obtain ⟨s₂, hrecord, heq⟩ := success_recorded hverify hsuccess
  have hpresent := hiff.mpr hcomplete s₂ hrecord
  intro name hname
  obtain ⟨p, hp, hpname, hmem⟩ := hpresent name hname
  exact ⟨p, hp, hpname, heq ▸ hmem⟩

/-- The recovery image of the user is in the record of its boot. -/
theorem requestedImages_present_recovery :
    ∃ images s₁, (verifyStage recoveryBootEnv (avbSlotVerifier recoveryVerifyEnv) false).exec
        (recoveryBoot.setInfo fun i => { i with bootState := .RED }) = (.ok images, s₁) ∧
      images.requested = [IMG_RECOVERY] ∧
      ∀ s', (loadImageAndAuthVB2 recoveryBootEnv (avbSlotVerifier recoveryVerifyEnv) false
        false).exec recoveryBoot = (.ok EFI_SUCCESS, s') → images.Present s'.info := by
  obtain ⟨images, hresult, hshape⟩ := exec_of_eval
    (verifyStage recoveryBootEnv (avbSlotVerifier recoveryVerifyEnv) false)
    (recoveryBoot.setInfo fun i => { i with bootState := .RED })
    (fun images => images.requested == [IMG_RECOVERY] &&
      images.requested.all fun name => images.Has name) (by decide +kernel)
  have hrun := exec_of_result hresult
  rw [Bool.and_eq_true, beq_iff_eq, List.all_eq_true] at hshape
  have hcomplete : images.Complete recoveryBoot.info.images.length :=
    Or.inl fun name hname => of_decide_eq_true (hshape.2 name hname)
  exact ⟨images, _, hrun, hshape.1, (requestedImages_present_iff recoveryBootEnv recoveryVerifyEnv
    false false recoveryBoot _ images hrun).2 hcomplete⟩

/-! ### A boot image that is already there -/

def bareVerifyEnv : SlotVerifyEnv :=
  { recoveryVerifyEnv with
    readVbmeta := fun _ => (.OK, { recoveryVbmeta with descriptors := some [] }) }

def unlockedDevice : DeviceInfo := { lockedDevice with isUnlocked := true }

/-- `CmdBoot` calls `LoadImageAndAuth` only on an unlocked device. -/
def fastbootBoot : LoaderState :=
  { recoveryBoot with
    info := { recoveryBoot.info with
      bootIntoRecovery := false
      pname := wide "boot"
      images := [⟨IMG_BOOT, recoveryImage, 4096⟩] }
    avb := { recoveryBoot.avb with device := ⟨unlockedDevice, false, unlockedDevice, 0⟩ } }

/-- The dtbo image is requested and not loaded, and the boot succeeds. -/
theorem fastbootBoot_without_dtbo :
    ∃ images s₁ s', (verifyStage recoveryBootEnv (avbSlotVerifier bareVerifyEnv) false).exec
        (fastbootBoot.setInfo fun i => { i with bootState := .RED }) = (.ok images, s₁) ∧
      images.requested = [IMG_DTBO] ∧
      (loadImageAndAuthVB2 recoveryBootEnv (avbSlotVerifier bareVerifyEnv) false false).exec
        fastbootBoot = (.ok EFI_SUCCESS, s') ∧
      s'.info.images.map (·.name) = [IMG_BOOT] ∧ ¬ images.Present s'.info := by
  obtain ⟨images, hresult, hshape⟩ := exec_of_eval
    (verifyStage recoveryBootEnv (avbSlotVerifier bareVerifyEnv) false)
    (fastbootBoot.setInfo fun i => { i with bootState := .RED })
    (fun images => images.requested == [IMG_DTBO]) (by decide +kernel)
  rw [beq_iff_eq] at hshape
  have hsuccess := exec_of_result (show ((loadImageAndAuthVB2 recoveryBootEnv
    (avbSlotVerifier bareVerifyEnv) false false).exec fastbootBoot).1 = .ok EFI_SUCCESS by
      decide +kernel)
  have hnames : ((loadImageAndAuthVB2 recoveryBootEnv (avbSlotVerifier bareVerifyEnv) false
      false).exec fastbootBoot).2.info.images.map (·.name) = [IMG_BOOT] := by decide +kernel
  refine ⟨images, _, _, exec_of_result hresult, hshape, hsuccess, hnames, fun hpresent => ?_⟩
  obtain ⟨p, -, hname, hmem⟩ := hpresent IMG_DTBO (by rw [hshape]; exact List.mem_singleton_self _)
  have hin : p.image.name ∈ [IMG_BOOT] := hnames ▸ List.mem_map_of_mem hmem
  rw [show p.image.name = IMG_DTBO from hname] at hin
  exact absurd hin (by decide)

end OhMyAbl
