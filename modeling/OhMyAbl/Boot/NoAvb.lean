/-
  **Loading an image without verified boot.**

  `NoAVBLoadPartitionImage` loads a partition into the next entry of `Info->Images`.  It skips a
  partition that does not exist, which it knows by the status `EFI_NO_MEDIA`, and frees the buffer
  of a load that failed.  A load that fails before there is a buffer is not reported: the routine
  goes on and counts an entry whose buffer is `NULL`.
-/
import OhMyAbl.Avb.HandleInfo
import OhMyAbl.Boot.BootImage
import OhMyAbl.Fastboot.Command

namespace OhMyAbl

open Prog

/-! ### The model -/

/-- `ImageData`, whose pointers may be `NULL`.  A pointer stays as it is when its buffer is
    freed. -/
structure ImageEntry where
  name : Option (List UInt8)
  imageBuffer : Option Bytes
  imageSize : Nat

structure NoAvbEnv where
  slots : SlotEnv
  db : HandleDatabase
  allocUserData : Bool
  allocOps : Bool
  allocAsciiPname : Bool
  allocImage : Bool
  allocName : Bool
  /-- Whether `RI_HandleFailedSlot` returns. -/
  riHandleFailedSlot : Bool
  /-- What is on the stack where `Pname` is. -/
  stackPname : Text

/-- The fields of `BootInfo` the routine uses, the partition table and the disks. -/
structure NoAvbState where
  multiSlotBoot : Bool
  images : Nat → ImageEntry
  numLoadedImages : Nat
  slots : SlotState
  disks : Disks

namespace NoAvbState

def slotsLens : Lens NoAvbState SlotState where
  get := (·.slots)
  set := fun s t => { s with slots := t }

def disksLens : Lens NoAvbState Disks where
  get := (·.disks)
  set := fun s d => { s with disks := d }

def setImage (s : NoAvbState) (i : Nat) (f : ImageEntry → ImageEntry) : NoAvbState :=
  { s with images := Function.update s.images i (f (s.images i)) }

end NoAvbState

def copyPname (pname requested : Text) : EfiStatus × Text :=
  if requested.length < MAX_GPT_NAME_SIZE then (EFI_SUCCESS, requested)
  else (EFI_BUFFER_TOO_SMALL, pname)

def appendPname (pname suffix : Text) : EfiStatus × Text :=
  if pname.length + suffix.length < MAX_GPT_NAME_SIZE then (EFI_SUCCESS, pname ++ suffix)
  else (EFI_BUFFER_TOO_SMALL, pname)

variable (env : NoAvbEnv)

def reqPartitionName (multiSlotBoot : Bool) (requested : Text) :
    Prog SlotState Exit (EfiStatus × Text) := do
  let (status, pname) := copyPname env.stackPname requested
  if status ≠ EFI_SUCCESS then
    return (status, pname)
  if multiSlotBoot then
    let suffix ← getCurrentSlotSuffix env.slots
    -- with recovery info the partitions of slot `_a` have no suffix
    if !env.slots.recoveryInfo ∨ suffix ≠ slotA then
      return appendPname pname suffix
    else
      return (EFI_SUCCESS, pname)
  else
    return (EFI_SUCCESS, pname)

def avbGetSizeOfPartition (db : HandleDatabase) (partition : List UInt8) : AvbIOResult × Nat :=
  match getHandleInfo db partition with
  | (.OK, some h) =>
    if h.io.getPartitionSize = 0 then (.ERROR_RANGE_OUTSIDE_PARTITION, 0)
    else (.OK, h.io.getPartitionSize)
  | (result, _) => (result, 0)

/-- The size of the image, after the allocations and checks before its buffer; each of them fails
    with `EFI_OUT_OF_RESOURCES`. -/
def reqImageSize (pname : Text) : Option Nat :=
  if !env.allocUserData then none
  else if !env.allocOps then none
  else if !env.allocAsciiPname then none
  else
    let asciiPname := unicodeStrToAsciiStr pname
    let (result, partSize) := avbGetSizeOfPartition env.db asciiPname
    if result ≠ .OK ∨ partSize = 0 then none
    else if (strStr asciiPname (ascii "dtbo")).isSome ∧ partSize > DTBO_MAX_SIZE_ALLOWED then none
    else some partSize

def zeroPoolBytes : Bytes := fun _ => 0

/-- `*DtboSize = (UINT32) PartSize` through a pointer to the low word of `ImageSize`, and the buffer
    for the image. -/
def ImageEntry.allocate (partSize : Nat) (e : ImageEntry) : ImageEntry :=
  { e with
    imageBuffer := if env.allocImage then some zeroPoolBytes else none
    imageSize := e.imageSize / 2 ^ 32 * 2 ^ 32 + u32 partSize }

def noAVBLoadReqImage (i : Nat) (requested : Text) : Prog NoAvbState Exit (EfiStatus × Text) := do
  let s ← get
  let (status, pname) ← zoom NoAvbState.slotsLens (reqPartitionName env s.multiSlotBoot requested)
  if status ≠ EFI_SUCCESS then
    return (status, pname)
  let s ← get
  if (getPartitionIndex s.slots.ptnEntries pname).isNone then
    return (EFI_NO_MEDIA, pname)
  match reqImageSize env pname with
  | none => return (EFI_OUT_OF_RESOURCES, pname)
  | some partSize =>
    modify fun s => s.setImage i (ImageEntry.allocate env partSize)
    if !env.allocImage then
      return (EFI_OUT_OF_RESOURCES, pname)
    let (status, image) ← zoom NoAvbState.disksLens
      (loadImageFromPartition env.db zeroPoolBytes (u32 partSize) pname)
    modify fun s => s.setImage i fun e => { e with imageBuffer := some image }
    if status ≠ EFI_SUCCESS ∧ env.slots.recoveryInfo ∧ !env.riHandleFailedSlot then
      throw .reboot
    return (status, pname)

def noAVBLoadPartitionImage (partName : Text) : Prog NoAvbState Exit EfiStatus := do
  let s ← get
  -- `ImgIdx` is a `UINT8`
  let imgIdx := s.numLoadedImages % 2 ^ 8
  let (status, pname) ← noAVBLoadReqImage env imgIdx partName
  if status = EFI_NO_MEDIA then
    return EFI_SUCCESS
  let s ← get
  if status ≠ EFI_SUCCESS ∧ (s.images imgIdx).imageBuffer.isSome then
    return status
  modify fun s => s.setImage imgIdx fun e =>
    { e with name := if env.allocName then some (unicodeStrToAsciiStr pname) else none }
  if !env.allocName then
    return EFI_OUT_OF_RESOURCES
  modify fun s => { s with numLoadedImages := s.numLoadedImages + 1 }
  return EFI_SUCCESS

/-! ### What a call reports -/

section Reports

variable (env : NoAvbEnv) (s : NoAvbState) (partName : Text)

def nameOutcome : Except Exit (EfiStatus × Text) × SlotState :=
  (reqPartitionName env s.multiSlotBoot partName).exec s.slots

def NoAvbState.nextImage : Nat := s.numLoadedImages % 2 ^ 8

def PartitionMissing : Prop :=
  ∃ pname slots, nameOutcome env s partName = (.ok (EFI_SUCCESS, pname), slots) ∧
    getPartitionIndex slots.ptnEntries pname = none

/-- The entry has the name of the partition, and a buffer that begins with all the bytes of it. -/
def ImageLoaded (e : ImageEntry) : Prop :=
  ∃ pname slots h image, nameOutcome env s partName = (.ok (EFI_SUCCESS, pname), slots) ∧
    env.db.deciding labelAttrib (labelFilter pname) = some h ∧
    e.name = some (unicodeStrToAsciiStr pname) ∧ e.imageBuffer = some image ∧
    ∀ i < h.io.getPartitionSize, image i = (s.disks h.handle).contents i

/-- A call that returns has loaded the image into one more entry, or has counted none and reports
    success only of a partition that does not exist. -/
def Reports (run : Except Exit EfiStatus × NoAvbState) : Prop :=
  ∀ status, run.1 = .ok status →
    (status = EFI_SUCCESS ∧ run.2.numLoadedImages = s.numLoadedImages + 1 ∧
        ImageLoaded env s partName (run.2.images s.nextImage)) ∨
      (run.2.numLoadedImages = s.numLoadedImages ∧
        (status = EFI_SUCCESS → PartitionMissing env s partName))

/-- A failure before the buffer is allocated is noticed: by a pointer an earlier call has left in
    the entry, or because there is no memory for the name either. -/
def EarlyFailureNoticed : Prop :=
  (s.images s.nextImage).imageBuffer.isSome ∨ env.allocName = false

def loadOutcome (pname : Text) (partSize : Nat) : Except Exit EfiStatus :=
  ((Prod.fst <$> loadImageFromPartition env.db zeroPoolBytes (u32 partSize) pname).exec s.disks).1

/-- The buffer of zeros comes to hold all of the partition: its size is the one that was asked for
    and is a block below 4 GiB at least, or what is not read of it is zero. -/
def WholeRead (h : BlkIoHandle) (partSize : Nat) : Prop :=
  (partSize = h.io.getPartitionSize ∧ partSize + h.io.blockSize < 2 ^ 32) ∨
    ∀ i < h.io.getPartitionSize, imageReadSize h.io (u32 partSize) ≤ i →
      (s.disks h.handle).contents i = 0

/-- With the name as it came out: what fails is noticed.  A load fails unnoticed only if the device
    says that there is no medium, which is taken for a partition that does not exist, or if the
    size that is read has lost its high word. -/
def NoticedWith (status : EfiStatus) (pname : Text) (slots : SlotState) : Prop :=
  if status ≠ EFI_SUCCESS then EarlyFailureNoticed env s
  else (getPartitionIndex slots.ptnEntries pname).isSome →
    match reqImageSize env pname with
    | none => EarlyFailureNoticed env s
    | some partSize =>
      if env.allocImage then
        (loadOutcome env s pname partSize = .ok EFI_NO_MEDIA →
          env.slots.recoveryInfo = true ∧ env.riHandleFailedSlot = false) ∧
        (loadOutcome env s pname partSize = .ok EFI_SUCCESS → env.allocName = true →
          ∀ h, env.db.deciding labelAttrib (labelFilter pname) = some h → WholeRead s h partSize)
      else env.allocName = false

def LoadFailuresNoticed : Prop :=
  ∀ status pname slots, nameOutcome env s partName = (.ok (status, pname), slots) →
    NoticedWith env s status pname slots

end Reports

section Runs

variable {env : NoAvbEnv} {s s₁ : NoAvbState} {partName pname : Text} {slots : SlotState}
  {status : EfiStatus} {e : Exit}

theorem exec_noAVBLoadPartitionImage
    (hreq : (noAVBLoadReqImage env s.nextImage partName).exec s = (.ok (status, pname), s₁)) :
    (noAVBLoadPartitionImage env partName).exec s =
      if status = EFI_NO_MEDIA then (.ok EFI_SUCCESS, s₁)
      else if status ≠ EFI_SUCCESS ∧ (s₁.images s.nextImage).imageBuffer.isSome then
        (.ok status, s₁)
      else if env.allocName then
        (.ok EFI_SUCCESS, { s₁.setImage s.nextImage fun e =>
          { e with name := some (unicodeStrToAsciiStr pname) } with
          numLoadedImages := s₁.numLoadedImages + 1 })
      else (.ok EFI_OUT_OF_RESOURCES,
        s₁.setImage s.nextImage fun e => { e with name := none }) := by
  unfold noAVBLoadPartitionImage
  rw [exec_bind, exec_get]
  dsimp only
  rw [exec_bind, show s.numLoadedImages % 2 ^ 8 = s.nextImage from rfl, hreq]
  dsimp only
  by_cases hmedia : status = EFI_NO_MEDIA
  · rw [if_pos hmedia, if_pos hmedia]
    rfl
  rw [if_neg hmedia, if_neg hmedia, exec_bind, exec_get]
  dsimp only
  by_cases herr : status ≠ EFI_SUCCESS ∧ (s₁.images s.nextImage).imageBuffer.isSome = true
  · rw [if_pos herr, if_pos herr]
    rfl
  rw [if_neg herr, if_neg herr, exec_bind, exec_modify]
  cases env.allocName <;> rfl

theorem reports_exit (hreq : (noAVBLoadReqImage env s.nextImage partName).exec s = (.error e, s₁)) :
    Reports env s partName ((noAVBLoadPartitionImage env partName).exec s) := by
  intro status hstatus
  unfold noAVBLoadPartitionImage at hstatus
  rw [exec_bind, exec_get] at hstatus
  dsimp only at hstatus
  rw [exec_bind, show s.numLoadedImages % 2 ^ 8 = s.nextImage from rfl, hreq] at hstatus
  cases hstatus

@[simp] theorem setImage_images_self (s : NoAvbState) (i : Nat) (f : ImageEntry → ImageEntry) :
    (s.setImage i f).images i = f (s.images i) := Function.update_self _ _ _

theorem reports_failure
    (hreq : (noAVBLoadReqImage env s.nextImage partName).exec s = (.ok (status, pname), s₁))
    (hstatus : status ≠ EFI_SUCCESS) (hmedia : status ≠ EFI_NO_MEDIA)
    (hnum : s₁.numLoadedImages = s.numLoadedImages) :
    Reports env s partName ((noAVBLoadPartitionImage env partName).exec s) ↔
      (s₁.images s.nextImage).imageBuffer.isSome ∨ env.allocName = false := by
  rw [exec_noAVBLoadPartitionImage hreq, if_neg hmedia]
  by_cases hbuffer : (s₁.images s.nextImage).imageBuffer.isSome = true
  · rw [if_pos ⟨hstatus, hbuffer⟩]
    refine ⟨fun _ => Or.inl hbuffer, ?_⟩
    rintro _ _ ⟨⟩
    exact Or.inr ⟨hnum, fun h => absurd h hstatus⟩
  rw [if_neg fun h => hbuffer h.2]
  cases hname : env.allocName with
  | false =>
    refine ⟨fun _ => Or.inr rfl, ?_⟩
    rintro _ _ ⟨⟩
    exact Or.inr ⟨hnum, fun h => absurd h (by decide)⟩
  | true =>
    constructor
    · intro hreports
      rcases hreports EFI_SUCCESS rfl with ⟨-, -, hloaded⟩ | ⟨hcount, -⟩
      · obtain ⟨_, _, _, _, -, -, -, himage, -⟩ := hloaded
        rw [if_pos rfl] at himage
        replace himage := (congrArg Option.isSome himage)
        simp only [setImage_images_self] at himage
        exact Or.inl himage
      · exact absurd hcount (by simp [hnum])
    · rintro (hsome | hfalse)
      · exact absurd hsome hbuffer
      · cases hfalse

theorem reports_missing (hname : nameOutcome env s partName = (.ok (EFI_SUCCESS, pname), slots))
    (hmissing : getPartitionIndex slots.ptnEntries pname = none)
    (hreq : (noAVBLoadReqImage env s.nextImage partName).exec s =
      (.ok (EFI_NO_MEDIA, pname), { s with slots := slots })) :
    Reports env s partName ((noAVBLoadPartitionImage env partName).exec s) := by
  rw [exec_noAVBLoadPartitionImage hreq, if_pos rfl]
  rintro _ ⟨⟩
  exact Or.inr ⟨rfl, fun _ => ⟨pname, slots, hname, hmissing⟩⟩

theorem exec_noAVBLoadReqImage {i : Nat}
    (hname : nameOutcome env s partName = (.ok (status, pname), slots)) :
    (noAVBLoadReqImage env i partName).exec s =
      if status ≠ EFI_SUCCESS then (.ok (status, pname), { s with slots := slots })
      else if (getPartitionIndex slots.ptnEntries pname).isNone then
        (.ok (EFI_NO_MEDIA, pname), { s with slots := slots })
      else
        match reqImageSize env pname with
        | none => (.ok (EFI_OUT_OF_RESOURCES, pname), { s with slots := slots })
        | some partSize =>
          let s₁ := { s with slots := slots }.setImage i (ImageEntry.allocate env partSize)
          if env.allocImage then
            match (loadImageFromPartition env.db zeroPoolBytes (u32 partSize) pname).exec
              s.disks with
            | (.ok (status, image), disks) =>
              let s₂ := { s₁ with disks := disks }.setImage i fun e =>
                { e with imageBuffer := some image }
              if status ≠ EFI_SUCCESS ∧ env.slots.recoveryInfo ∧ !env.riHandleFailedSlot then
                (.error .reboot, s₂)
              else (.ok (status, pname), s₂)
            | (.error e, disks) => (.error e, { s₁ with disks := disks })
          else (.ok (EFI_OUT_OF_RESOURCES, pname), s₁) := by
  unfold nameOutcome at hname
  unfold noAVBLoadReqImage
  rw [exec_bind, exec_get]
  dsimp only
  rw [exec_bind, exec_zoom, show NoAvbState.slotsLens.get s = s.slots from rfl, hname]
  dsimp only
  by_cases hstatus : status ≠ EFI_SUCCESS
  · rw [if_pos hstatus, if_pos hstatus]
    rfl
  rw [if_neg hstatus, if_neg hstatus, exec_bind, exec_get]
  dsimp only [NoAvbState.slotsLens]
  by_cases hnone : (getPartitionIndex slots.ptnEntries pname).isNone = true
  · rw [if_pos hnone, if_pos hnone]
    rfl
  rw [if_neg hnone, if_neg hnone]
  cases reqImageSize env pname with
  | none => rfl
  | some partSize =>
    rw [exec_bind, exec_modify]
    cases env.allocImage with
    | false => rfl
    | true =>
      simp only [Bool.not_true, Bool.false_eq_true, if_false]
      rw [exec_bind, exec_zoom]
      simp only [NoAvbState.disksLens, NoAvbState.setImage]
      rcases (loadImageFromPartition env.db zeroPoolBytes (u32 partSize) pname).exec s.disks
        with ⟨_ | ⟨loaded, image⟩, disks⟩
      · rfl
      · dsimp only
        split_ifs with hreboot
        · rfl
        · rfl

theorem exec_reqImage_exit {i : Nat} (hname : nameOutcome env s partName = (.error e, slots)) :
    (noAVBLoadReqImage env i partName).exec s = (.error e, { s with slots := slots }) := by
  unfold nameOutcome at hname
  unfold noAVBLoadReqImage
  rw [exec_bind, exec_get]
  dsimp only
  rw [exec_bind, exec_zoom, show NoAvbState.slotsLens.get s = s.slots from rfl, hname]
  rfl

theorem nameOutcome_ne_noMedia (hname : nameOutcome env s partName = (.ok (status, pname), slots)) :
    status ≠ EFI_NO_MEDIA := by
  have hne : EFI_SUCCESS ≠ EFI_NO_MEDIA := by decide
  have hsmall : EFI_BUFFER_TOO_SMALL ≠ EFI_NO_MEDIA := by decide
  have happend : ∀ pname suffix, (appendPname pname suffix).1 ≠ EFI_NO_MEDIA := by
    intro pname suffix
    unfold appendPname
    split
    · exact hne
    · exact hsmall
  have hcopy : (copyPname env.stackPname partName).1 ≠ EFI_NO_MEDIA := by
    unfold copyPname
    split
    · exact hne
    · exact hsmall
  have hspec : wp (reqPartitionName env s.multiSlotBoot partName)
      (fun r _ => r.1 ≠ EFI_NO_MEDIA) anyExit s.slots := by
    unfold reqPartitionName
    rcases hpair : copyPname env.stackPname partName with ⟨copied, pname⟩
    rw [hpair] at hcopy
    dsimp only
    split
    · exact hcopy
    split
    · rw [wp_bind]
      apply wp_any
      · intro suffix slots'
        split
        · exact happend _ _
        · exact hne
      · intro _ _
        trivial
    · exact hne
  have hresult := wp_ok hspec hname
  exact hresult

theorem le_imageReadSize {io : BlockIo} {size : Nat} (hpos : 0 < io.blockSize)
    (h : size + io.blockSize < 2 ^ 32) : size ≤ imageReadSize io size := by
  have hmask : size + pageMask io.blockSize < MAX_UINT32 := by
    rw [pageMask_eq hpos (by omega), MAX_UINT32]
    omega
  exact (le_localRoundToPage hmask).trans_eq (localRoundToPage_eq hmask)

/-- Reading the image into a pool of zeros gives the partition exactly if it is read whole. -/
theorem overwrite_eq_contents_iff {h : BlkIoHandle} {partSize : Nat} :
    (∀ i < h.io.getPartitionSize, zeroPoolBytes.overwrite 0 (imageReadSize h.io (u32 partSize))
        (s.disks h.handle).contents i = (s.disks h.handle).contents i) ↔
          WholeRead s h partSize := by
  constructor
  · intro hall
    refine .inr fun i hi hout => ?_
    rw [← hall i hi, Bytes.overwrite_outside (.inr (by omega))]
    rfl
  · intro hwhole i hi
    by_cases hin : i < imageReadSize h.io (u32 partSize)
    · rw [Bytes.overwrite_inside (Nat.zero_le i) (by omega), Nat.sub_zero]
    · rw [Bytes.overwrite_outside (.inr (by omega))]
      rcases hwhole with ⟨rfl, hlt⟩ | hzero
      · have hsize := (h.io.getPartitionSize_eq (by omega)).1
        have hpos : 0 < h.io.blockSize := by
          refine Nat.pos_of_ne_zero fun hzero => ?_
          rw [hzero, Nat.mul_zero] at hsize
          omega
        have hu : u32 h.io.getPartitionSize = h.io.getPartitionSize := Nat.mod_eq_of_lt (by omega)
        have hread := le_imageReadSize hpos hlt
        rw [hu] at hin
        omega
      · exact (hzero i hi (Nat.not_lt.mp hin)).symm

theorem reports_loaded {partSize : Nat}
    (hname : nameOutcome env s partName = (.ok (EFI_SUCCESS, pname), slots))
    (hindex : (getPartitionIndex slots.ptnEntries pname).isSome)
    (hsize : reqImageSize env pname = some partSize) (halloc : env.allocImage = true) :
    Reports env s partName ((noAVBLoadPartitionImage env partName).exec s) ↔
      (loadOutcome env s pname partSize = .ok EFI_NO_MEDIA →
        env.slots.recoveryInfo = true ∧ env.riHandleFailedSlot = false) ∧
      (loadOutcome env s pname partSize = .ok EFI_SUCCESS → env.allocName = true →
        ∀ h, env.db.deciding labelAttrib (labelFilter pname) = some h →
          WholeRead s h partSize) := by
  obtain ⟨loaded, image, disks, hload, himage⟩ := loadImageFromPartition_loads env.db zeroPoolBytes
    (u32 partSize) pname s.disks
  have houtcome : loadOutcome env s pname partSize = .ok loaded := by
    rw [loadOutcome, map_eq_pure_bind, exec_bind, hload]
    rfl
  have hreq := @exec_noAVBLoadReqImage env s partName pname slots EFI_SUCCESS s.nextImage hname
  have hnone : (getPartitionIndex slots.ptnEntries pname).isNone = false := by
    rw [← Option.not_isSome, hindex]
    rfl
  simp only [hnone, hsize, halloc, hload] at hreq
  rw [houtcome]
  by_cases hreboot : ¬ loaded = EFI_SUCCESS ∧ env.slots.recoveryInfo = true ∧
      (!env.riHandleFailedSlot) = true
  · rw [if_pos hreboot] at hreq
    refine ⟨fun _ => ⟨fun _ => ⟨hreboot.2.1, ?_⟩, ?_⟩, fun _ => reports_exit hreq⟩
    · simpa using hreboot.2.2
    · rintro ⟨⟩
      exact absurd rfl hreboot.1
  rw [if_neg hreboot] at hreq
  by_cases hsuccess : loaded = EFI_SUCCESS
  · obtain ⟨h, hdeciding, rfl⟩ := himage hsuccess
    subst hsuccess
    have hnever : (EFI_SUCCESS : EfiStatus) ≠ EFI_NO_MEDIA := by decide
    rw [exec_noAVBLoadPartitionImage hreq, if_neg hnever, if_neg fun h => h.1 rfl]
    cases hallocName : env.allocName with
    | false =>
      refine ⟨fun _ => ⟨fun h => absurd (Except.ok.inj h) hnever, fun _ h => nomatch h⟩, ?_⟩
      rintro - _ ⟨⟩
      exact .inr ⟨rfl, fun h => absurd h (by decide)⟩
    | true =>
      rw [if_pos rfl]
      constructor
      · intro hreports
        refine ⟨fun h => absurd (Except.ok.inj h) hnever, fun _ _ h' hdeciding' => ?_⟩
        rcases hreports EFI_SUCCESS rfl with ⟨-, -, hloaded⟩ | ⟨hcount, -⟩
        · obtain ⟨pname', slots', h₁, image, hname', hdeciding₁, -, himage, hall⟩ := hloaded
          cases hname.symm.trans hname'
          cases hdeciding'.symm.trans hdeciding
          cases hdeciding'.symm.trans hdeciding₁
          rw [setImage_images_self, setImage_images_self] at himage
          cases himage
          exact overwrite_eq_contents_iff.mp hall
        · exact absurd hcount (Nat.succ_ne_self _)
      · rintro ⟨-, hwhole⟩ _ ⟨⟩
        refine .inl ⟨rfl, rfl, pname, slots, h, _, hname, hdeciding, ?_, ?_,
          overwrite_eq_contents_iff.mpr (hwhole rfl rfl h hdeciding)⟩
        · rw [setImage_images_self]
        · rw [setImage_images_self, setImage_images_self]
  by_cases hmedia : loaded = EFI_NO_MEDIA
  · subst hmedia
    constructor
    · intro hreports
      refine ⟨fun _ => ?_, fun h => absurd (Except.ok.inj h) hsuccess⟩
      rw [exec_noAVBLoadPartitionImage hreq, if_pos rfl] at hreports
      rcases hreports EFI_SUCCESS rfl with ⟨-, hcount, -⟩ | ⟨-, hmissing⟩
      · exact absurd hcount (Nat.ne_of_lt (Nat.lt_succ_self _))
      · obtain ⟨pname', slots', hname', hnone'⟩ := hmissing rfl
        rw [hname] at hname'
        cases hname'
        rw [hnone'] at hindex
        cases hindex
    · rintro ⟨hnoticed, -⟩
      obtain ⟨hrecovery, hreturns⟩ := hnoticed rfl
      exact absurd ⟨hsuccess, hrecovery, by rw [hreturns]; rfl⟩ hreboot
  · rw [reports_failure hreq hsuccess hmedia rfl]
    simp [hmedia, hsuccess]

end Runs

/-- When `NoAVBLoadPartitionImage` reports what has happened to an image. -/
theorem noAVBLoadPartitionImage_reports_iff (env : NoAvbEnv) (s : NoAvbState) (partName : Text) :
    Reports env s partName ((noAVBLoadPartitionImage env partName).exec s) ↔
      LoadFailuresNoticed env s partName := by
  have htooSmall : EFI_OUT_OF_RESOURCES ≠ EFI_SUCCESS := by decide
  have hnoMedia : EFI_OUT_OF_RESOURCES ≠ EFI_NO_MEDIA := by decide
  rcases hname : nameOutcome env s partName with ⟨e | ⟨status, pname⟩, slots⟩
  · refine ⟨fun _ status pname slots h => ?_, fun _ => reports_exit (exec_reqImage_exit hname)⟩
    rw [hname] at h
    cases h
  have hcondition : LoadFailuresNoticed env s partName ↔ NoticedWith env s status pname slots := by
    constructor
    · intro h
      exact h status pname slots hname
    · intro h _ _ _ hname'
      rw [hname] at hname'
      cases hname'
      exact h
  rw [hcondition, NoticedWith]
  have hreq := @exec_noAVBLoadReqImage env s partName pname slots status s.nextImage hname
  by_cases hstatus : status ≠ EFI_SUCCESS
  · rw [if_pos hstatus] at hreq ⊢
    have hreports := reports_failure hreq hstatus (nameOutcome_ne_noMedia hname) rfl
    exact hreports
  rw [if_neg hstatus] at hreq ⊢
  obtain rfl : status = EFI_SUCCESS := not_not.mp hstatus
  cases hindex : getPartitionIndex slots.ptnEntries pname with
  | none =>
    rw [hindex] at hreq
    exact ⟨fun _ h => absurd h (by decide), fun _ => reports_missing hname hindex hreq⟩
  | some index =>
    rw [hindex] at hreq
    simp only [Option.isSome_some, forall_const]
    cases hsize : reqImageSize env pname with
    | none =>
      rw [hsize] at hreq
      have hreports := reports_failure hreq htooSmall hnoMedia rfl
      exact hreports
    | some partSize =>
      rw [hsize] at hreq
      cases halloc : env.allocImage with
      | false =>
        simp only [halloc] at hreq ⊢
        rw [reports_failure hreq htooSmall hnoMedia rfl, setImage_images_self, ImageEntry.allocate,
          halloc]
        simp
      | true =>
        exact reports_loaded hname (by rw [hindex]; rfl) hsize halloc

/-- A device whose vendor_boot partition can be read, and on which libavb's operations cannot be
    allocated. -/
def scarceEnv : NoAvbEnv where
  slots := ⟨false, EFI_SUCCESS, EFI_SUCCESS, 0, false, .UFS, EFI_SUCCESS, true, true, false, false,
    false, false, fun _ => true⟩
  db := ⟨(EFI_SUCCESS,
    [{ bootHandle 0 EFI_SUCCESS with partitionName := some (wide "vendor_boot") }]),
    (EFI_NOT_FOUND, [])⟩
  allocUserData := true
  allocOps := false
  allocAsciiPname := true
  allocImage := true
  allocName := true
  riHandleFailedSlot := true
  stackPname := []

def oneImageLoaded : NoAvbState where
  multiSlotBoot := false
  images := fun i => if i = 0 then ⟨some (ascii "boot"), some zeroPoolBytes, 4096⟩
    else ⟨none, none, 0⟩
  numLoadedImages := 1
  slots := ⟨[⟨wide "vendor_boot", 0, 0, 0⟩], false, [], 0⟩
  disks := fun _ => ⟨fun _ => 0, 0, []⟩

/-- The failed allocation is reported as success, with an entry that has no buffer. -/
theorem scarceEnv_counts_null :
    let run := (noAVBLoadPartitionImage scarceEnv (wide "vendor_boot")).exec oneImageLoaded
    run.1 = .ok EFI_SUCCESS ∧ run.2.numLoadedImages = 2 ∧
      (run.2.images 1).name = some (ascii "vendor_boot") ∧
      (run.2.images 1).imageBuffer.isNone = true := by
  decide +kernel

end OhMyAbl
