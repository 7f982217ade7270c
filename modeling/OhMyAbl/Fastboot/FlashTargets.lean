/-
  **What a flash or an erase may write.**

  `Touches P J` says that a command touched only targets that `P` allows, and that the jobs it left
  for the flash thread will keep to `P` as well.  The two protections of the commands are instances:
  the critical partitions, and the partitions a pending snapshot merge needs.
-/
import OhMyAbl.Fastboot.FlashSteps

namespace OhMyAbl

open Prog

/-! ### Lists of protected names -/

variable {list : List Text} {name n : Text}

theorem startsWithAny_append {suffix : Text} (hlist : ∀ p ∈ list, (0x5F : UInt16) ∉ p)
    (hname : startsWithAny list name = false) :
    startsWithAny list (name ++ 0x5F :: suffix) = false := by
  rw [startsWithAny, List.any_eq_false] at hname ⊢
  intro p hp hcmp
  simp only [strnCmp, List.take_length, decide_eq_true_eq] at hcmp
  rcases Nat.lt_or_ge name.length p.length with hlt | hle
  · refine hlist p hp ?_
    rw [← hcmp, List.take_append]
    obtain ⟨k, hk⟩ : ∃ k, p.length - name.length = k + 1 :=
      ⟨p.length - name.length - 1, by omega⟩
    simp [hk]
  · refine hname p hp ?_
    rw [List.take_append_of_le_length hle] at hcmp
    simpa [strnCmp] using hcmp

theorem startsWithAny_slotName (hlist : ∀ p ∈ list, (0x5F : UInt16) ∉ p)
    (hname : startsWithAny list name = false) (hn : SlotNameOf name n) :
    startsWithAny list n = false := by
  rcases hn with rfl | rfl | rfl
  · exact hname
  · exact startsWithAny_append hlist hname
  · exact startsWithAny_append hlist hname

theorem criticalPartitions_underscore : ∀ p ∈ CriticalPartitions, (0x5F : UInt16) ∉ p := by
  decide

theorem virtualAbCriticalPartitions_underscore :
    ∀ p ∈ VirtualAbCriticalPartitions, (0x5F : UInt16) ∉ p := by
  decide

theorem asciiStrToUnicodeStr_slotName {bytes : List UInt8}
    (hn : SlotNameOf (asciiStrToUnicodeStr bytes) n) :
    asciiStrToUnicodeStr (unicodeStrToAsciiStr n) = n := by
  have hbytes : ∀ bytes : List UInt8, asciiStrToUnicodeStr
      (unicodeStrToAsciiStr (asciiStrToUnicodeStr bytes)) = asciiStrToUnicodeStr bytes := by
    intro bytes
    simp [asciiStrToUnicodeStr, unicodeStrToAsciiStr]
  have happend : ∀ a b : Text, asciiStrToUnicodeStr (unicodeStrToAsciiStr (a ++ b)) =
      asciiStrToUnicodeStr (unicodeStrToAsciiStr a) ++
        asciiStrToUnicodeStr (unicodeStrToAsciiStr b) := by
    intro a b
    simp [asciiStrToUnicodeStr, unicodeStrToAsciiStr]
  rcases hn with rfl | rfl | rfl
  · exact hbytes bytes
  · rw [happend, hbytes]
    rfl
  · rw [happend, hbytes]
    rfl

/-! ### What a command touches -/

/-- The command touched only what `P` allows, what it did not touch has its contents, which for a
    LUN are those up to the attributes of its entries (`FlashState.rootDisks`), and the jobs it left
    for the flash thread have names that `J` allows. -/
def Touches (P : Target → Prop) (J : Text → Prop) (s s' : FlashState) : Prop :=
  ∃ new, s'.touched = s.touched ++ new ∧ (∀ t ∈ new, P t) ∧
    (∀ h, Target.handle h ∉ new → (s'.disks h).contents = (s.disks h).contents) ∧
    (∀ lun, Target.lun lun ∉ new → s'.rootDisks lun = s.rootDisks lun) ∧
    ∀ job ∈ s'.jobs, job ∈ s.jobs ∨ J job.partitionName

section Touches

variable {env : FlashEnv} {P : Target → Prop} {J : Text → Prop} {c Q : Prop} {name : Text}
  {s s' : FlashState} {job : FlashInfo} {arg : List UInt8}

theorem touches_same (htouched : s'.touched = s.touched) (hdisks : s'.disks = s.disks)
    (hroot : s'.rootDisks = s.rootDisks) (hjobs : s'.jobs = s.jobs) : Touches P J s s' :=
  ⟨[], by rw [htouched, List.append_nil],
    nofun, fun _ _ => by rw [hdisks], fun _ _ => by rw [hroot], fun _ hjob => .inl (hjobs ▸ hjob)⟩

instance : Std.Refl (Touches P J) where
  refl _ := touches_same rfl rfl rfl rfl

instance : IsTrans FlashState (Touches P J) where
  trans := by
    rintro s s' s'' ⟨new, htouched, hnew, hdisks, hroot, hjobs⟩
      ⟨new', htouched', hnew', hdisks', hroot', hjobs'⟩
    refine ⟨new ++ new', by rw [htouched', htouched, List.append_assoc], ?_, ?_, ?_, ?_⟩
    · intro t ht
      exact (List.mem_append.mp ht).elim (hnew t) (hnew' t)
    · intro h hh
      rw [List.mem_append, not_or] at hh
      exact (hdisks' h hh.2).trans (hdisks h hh.1)
    · intro lun hh
      rw [List.mem_append, not_or] at hh
      exact (hroot' lun hh.2).trans (hroot lun hh.1)
    · intro job hjob
      rcases hjobs' job hjob with hold | hnew
      · exact hjobs job hold
      · exact .inr hnew

theorem StorageStep.touches (hs : StorageStep P c s s') : Touches P J s s' := by
  obtain ⟨slots, disks, msg, state, new, n, rs, rfl, hnew, hsame, -⟩ := hs
  exact ⟨new, rfl, hnew, hsame, fun _ _ => rfl, fun _ hjob => .inl hjob⟩

theorem addJob_touches (hJ : J job.partitionName) :
    Touches P J s { s with jobs := s.jobs ++ [job] } := by
  refine ⟨[], (List.append_nil _).symm, nofun, fun _ _ => rfl, fun _ _ => rfl, ?_⟩
  intro job' hjob
  rcases List.mem_append.mp hjob with hold | hnew
  · exact .inl hold
  · rw [List.mem_singleton.mp hnew]
    exact .inr hJ

theorem ImageStep.touches (h : ImageStep env P J s s') : Touches P J s s' := by
  cases h with
  | storage h => exact h.touches
  | note => exact touches_same rfl rfl rfl rfl
  | handOver => exact touches_same rfl rfl rfl rfl
  | job n _ hJ => exact addJob_touches hJ

theorem TableEnd.touches (h : TableEnd s s') : Touches P J s s' := by
  obtain ⟨lunSet, ptable, slots, n, rs, rfl⟩ := h
  exact touches_same rfl rfl rfl rfl

/-! ### The parts of CmdFlash -/

theorem flashImage_touches (hp : Permits env P name) (hJ : ∀ n, SlotNameOf name n → J n)
    (hmeta : PermitsEntries env P s.image) : Touches P J s ((flashImage env name).exec s).2 :=
  Relation.reflTransGen_le_of_le (fun _ _ h => h.touches) _ _ (flashImage_image hp hJ hmeta)

theorem flashTable_touches (hnand : env.slots.rootDeviceType = .NAND) (hp : Permits env P name) :
    Steps (Touches P J) (flashTable env name) := by
  refine .bind (.modify fun s => ?_) fun _ =>
    .bind (partitionDump_table.mono fun _ _ h => h.touches) fun _ => ?_
  · rw [hnand]
    exact refl_of (Touches P J) s
  · rw [if_pos hnand]
    refine .bind .get fun _ => .ite (.bind (.modify fun _ => touches_same rfl rfl rfl rfl) fun _ =>
      .bind ?_ fun _ => (finishTable_table _).mono fun _ _ h => h.touches)
      (.modify fun _ => touches_same rfl rfl rfl rfl)
    exact (handleRawImgFlash_steps (c := False) hp).mono fun _ _ h => h.touches

theorem fail_touches (text : String) : Steps (Touches P J) (fail text) :=
  .modify fun _ => touches_same rfl rfl rfl rfl

theorem flashOut_touches (arg : List UInt8) : Steps (Touches P J) (flashOut arg) :=
  .modify fun _ => touches_same rfl rfl rfl rfl

structure PermitsFlash (env : FlashEnv) (P : Target → Prop) (J : Text → Prop) (name : Text)
    (image : Bytes) : Prop where
  named : Permits env P name
  job : ∀ n, SlotNameOf name n → J n
  entries : PermitsEntries env P image
  table : namesTable env name = true → env.slots.rootDeviceType = .NAND

theorem flashNamed_touches (hp : PermitsFlash env P J name s.image) :
    Touches P J s ((flashNamed env arg name).exec s).2 := by
  unfold flashNamed
  split
  case isTrue htable =>
    exact Steps.bind (flashTable_touches (hp.table htable) hp.named)
      (fun _ => flashOut_touches arg) s
  case isFalse =>
    refine wp_final (R := Touches P J s) ?_
    refine wp_seq (wp_of_final (flashImage_touches hp.named hp.job hp.entries)) fun _ s' h => ?_
    exact wp_after h (Steps.when (flashOut_touches arg) s')

theorem flashWithLun_touches (hp : PermitsFlash env P J name s.image) :
    Touches P J s ((flashWithLun env arg name).exec s).2 := by
  unfold flashWithLun
  cases lunOf name with
  | none => exact flashNamed_touches hp
  | some lun =>
    refine wp_final (R := Touches P J s) ?_
    simp only [wp_bind, wp_ite]
    have hlun : ∀ b, Touches P J s { s with lun := lun, lunSet := b } :=
      fun _ => touches_same rfl rfl rfl rfl
    refine ⟨fun _ => ?_, fun _ => ?_⟩
    · rw [← wp_bind]
      exact wp_after (hlun s.lunSet) (Steps.bind (fail_touches _) (fun _ => flashOut_touches arg) _)
    · exact wp_after (hlun true) (flashNamed_touches hp)

/-! ### The commands -/

def exchanged (s : FlashState) : FlashState :=
  { s with
    lunSet := false
    usbDataBuffer := s.flashDataBuffer
    flashDataBuffer := s.usbDataBuffer
    flashNumDataBytes := s.numDataBytes }

theorem answerKey_touches (status : EfiStatus) (text : String) :
    Steps (Touches P J) (answerKey status text) :=
  .ite (fail_touches _) (.modify fun _ => touches_same rfl rfl rfl rfl)

theorem cmdFlash_touches (hcancel : lockRefusal env "Flashing" (asciiStrToUnicodeStr arg) = none →
      CancelsMerge env s (asciiStrToUnicodeStr arg) → P (.handle env.misc))
    (hcheck : wp (checkCommand env "Flashing" (asciiStrToUnicodeStr arg))
      (fun allowed _ => allowed = true → Q) anyExit (exchanged s))
    (hQ : Q → PermitsFlash env P J (asciiStrToUnicodeStr arg) (exchanged s).image) :
    Touches P J s ((cmdFlash env arg).exec s).2 := by
  have hstart : Touches P J s (exchanged s) := touches_same rfl rfl rfl rfl
  have hafter : ∀ s', Touches P J (exchanged s) s' → Touches P J s s' :=
    fun _ h => trans_of (Touches P J) hstart h
  refine wp_final (R := Touches P J s) ?_
  simp only [cmdFlash, wp_bind, wp_ite]
  refine ⟨fun _ => ?_, fun _ => ⟨fun _ => ?_, fun _ => ?_⟩⟩
  · exact wp_of_final (hafter _ (fail_touches _ (exchanged s)))
  · exact wp_of_final (hafter _ (fail_touches _ (exchanged s)))
  refine wp_mono (wp_and (checkCommand_spec (exchanged s) hcancel) hcheck) ?_
    fun _ s' h => hafter s' h.1.touches
  rintro allowed s' ⟨⟨hchecked, -⟩, hallowed⟩
  have hs' : Touches P J s s' := hafter s' hchecked.step.touches
  refine ⟨fun _ => hs', fun hok => ⟨fun _ => ?_, fun _ => ?_⟩⟩
  · exact wp_of_final (trans_of (Touches P J) hs' (answerKey_touches _ _ s'))
  · refine wp_of_final (trans_of (Touches P J) hs' (flashWithLun_touches ?_))
    have himage : s'.image = (exchanged s).image := by
      obtain ⟨slots, disks, msg, state, new, n, rs, rfl, -⟩ := hchecked.step
      rfl
    rw [himage]
    exact hQ (hallowed (by simpa using hok))

theorem cmdErase_touches (hcancel : lockRefusal env "Erase" (asciiStrToUnicodeStr arg) = none →
      CancelsMerge env s (asciiStrToUnicodeStr arg) → P (.handle env.misc))
    (hcheck : wp (checkCommand env "Erase" (asciiStrToUnicodeStr arg))
      (fun allowed _ => allowed = true → Q) anyExit s)
    (hQ : Q → Permits env P (asciiStrToUnicodeStr arg)) :
    Touches P J s ((cmdErase env arg).exec s).2 := by
  refine wp_final (R := Touches P J s) ?_
  simp only [cmdErase, wp_bind, wp_ite]
  refine ⟨fun _ => wp_of_final (fail_touches _ s), fun _ => ?_⟩
  refine wp_mono (wp_and (checkCommand_spec s hcancel) hcheck) ?_ fun _ _ h => h.1.touches
  rintro allowed s' ⟨⟨hchecked, -⟩, hallowed⟩
  have hs' : Touches P J s s' := hchecked.step.touches
  refine ⟨fun _ => hs', fun hok => ⟨fun _ => ?_, fun _ => ?_⟩⟩
  · exact wp_of_final (trans_of (Touches P J) hs' (answerKey_touches _ _ s'))
  · have hp := hQ (hallowed (by simpa using hok))
    exact wp_of_final (trans_of (Touches P J) hs' (eraseNamed_steps hp s').touches)

theorem sparseImgFlashThread_touches (hp : ∀ h, NamedBy env job.partitionName h → P (.handle h)) :
    Steps (Touches P J) (sparseImgFlashThread env job) :=
  .ite (.pure _) (.bind (.modify fun _ => touches_same rfl rfl rfl rfl) fun _ =>
    .bind ((sparseImgFlash_steps (c := False) hp).mono fun _ _ h => h.touches) fun _ =>
      .modify fun _ => touches_same rfl rfl rfl rfl)

end Touches

/-! ### Critical partitions -/

/-- The target is a partition whose name does not start with one of the list. -/
def Unlisted (env : FlashEnv) (list : List Text) : Target → Prop
  | .handle h => ∀ e, env.record h = some e → startsWithAny list e.partitionName = false
  | .named n => startsWithAny list (asciiStrToUnicodeStr n) = false
  | .lun _ => False

/-- What a command with this name may touch if the list is protected.  Giving up a merge is
    recorded in the partition of the type of misc, whatever its name is. -/
def Allowed (env : FlashEnv) (list : List Text) (s : FlashState) (arg : List UInt8) (t : Target) :
    Prop :=
  Unlisted env list t ∨ CancelsMerge env s (asciiStrToUnicodeStr arg) ∧ t = .handle env.misc

section Protection

variable {env : FlashEnv} {list : List Text} {s : FlashState} {arg : List UInt8} {P : Target → Prop}
  {action : String} {name : Text} {m : FlashProg PUnit}

theorem permits_of_unlisted (hP : ∀ t, Unlisted env list t → P t)
    (hlist : ∀ p ∈ list, (0x5F : UInt16) ∉ p) {bytes : List UInt8}
    (hname : startsWithAny list (asciiStrToUnicodeStr bytes) = false) :
    Permits env P (asciiStrToUnicodeStr bytes) where
  handle := by
    rintro n h hn ⟨e, he, rfl⟩
    refine hP _ fun e' he' => ?_
    rw [he] at he'
    cases he'
    exact startsWithAny_slotName hlist hname hn
  named := by
    intro n hn
    refine hP _ ?_
    rw [Unlisted, asciiStrToUnicodeStr_slotName hn]
    exact startsWithAny_slotName hlist hname hn

theorem thread_unlisted {job : FlashInfo} (hjob : startsWithAny list job.partitionName = false)
    (s₁ : FlashState) :
    Touches (Unlisted env list) (fun _ => True) s₁ ((sparseImgFlashThread env job).exec s₁).2 := by
  refine sparseImgFlashThread_touches ?_ s₁
  rintro h ⟨e, he, hname⟩ e' he'
  rw [he] at he'
  cases he'
  rw [hname]
  exact hjob

theorem jobs_unlisted {s' : FlashState}
    (ht : Touches P (fun n => startsWithAny list n = false) s s') :
    ∀ job ∈ s'.jobs, job ∈ s.jobs ∨ ∀ s₁,
      Touches (Unlisted env list) (fun _ => True) s₁
        ((sparseImgFlashThread env job).exec s₁).2 := by
  obtain ⟨-, -, -, -, -, hjobs⟩ := ht
  intro job hjob
  rcases hjobs job hjob with hold | hname
  · exact .inl hold
  · exact .inr fun s₁ => thread_unlisted hname s₁

theorem isCriticalPartition_of_lockRefusal (hbuild : lockChecked env = true)
    (hcritical : env.isUnlockCritical = false) (h : lockRefusal env action name = none) :
    isCriticalPartition name = false := by
  by_contra hname
  rw [Bool.not_eq_false] at hname
  simp only [lockRefusal, hbuild, hcritical, hname, Bool.not_true, Bool.not_false, Bool.and_self,
    Bool.false_eq_true, if_false] at h
  split_ifs at h

theorem lockRefusal_of_locked (hbuild : lockChecked env = true) (hlocked : env.isUnlocked = false) :
    lockRefusal env action name ≠ none := by
  simp [lockRefusal, hbuild, hlocked]

theorem nand_of_namesTable (hname : isCriticalPartition name = false)
    (htable : namesTable env name = true) : env.slots.rootDeviceType = .NAND := by
  simp only [namesTable, Bool.or_eq_true, Bool.and_eq_true, decide_eq_true_eq] at htable
  rcases htable with hpartition | ⟨-, hnand⟩
  · rw [isCriticalPartition, startsWithAny, List.any_eq_false] at hname
    exact absurd hpartition (hname (wide "partition") (by decide))
  · exact hnand

theorem permitsEntries_of_critical (hcritical : env.isUnlockCritical = false) (image : Bytes) :
    PermitsEntries env (Allowed env CriticalPartitions s arg) image := by
  intro _ i hi
  have hname : isCriticalPartition (ImgHeaderEntry.ofBytes image i).name = false := by
    simpa [entryRefused, hcritical] using hi
  exact permits_of_unlisted (fun _ ht => .inl ht) criticalPartitions_underscore hname

theorem wp_checkCommand_lock (s : FlashState) :
    wp (checkCommand env action name)
      (fun allowed _ => allowed = true → lockRefusal env action name = none) anyExit s :=
  wp_mono (checkCommand_spec (P := fun _ => True) s fun _ _ => trivial) (fun _ _ h => h.2)
    fun _ _ _ => trivial

theorem flash_erase_locked (hbuild : lockChecked env = true) (hlocked : env.isUnlocked = false)
    (hm : m = cmdFlash env arg ∨ m = cmdErase env arg) :
    Touches (fun _ => False) (fun _ => False) s (m.exec s).2 := by
  rcases hm with rfl | rfl
  · exact cmdFlash_touches (fun h => absurd h (lockRefusal_of_locked hbuild hlocked))
      (wp_checkCommand_lock (exchanged s)) fun h => absurd h (lockRefusal_of_locked hbuild hlocked)
  · exact cmdErase_touches (fun h => absurd h (lockRefusal_of_locked hbuild hlocked))
      (wp_checkCommand_lock s) fun h => absurd h (lockRefusal_of_locked hbuild hlocked)

theorem flash_erase_critical (hbuild : lockChecked env = true)
    (hcritical : env.isUnlockCritical = false) (hm : m = cmdFlash env arg ∨ m = cmdErase env arg) :
    Touches (Allowed env CriticalPartitions s arg)
      (fun n => startsWithAny CriticalPartitions n = false) s (m.exec s).2 := by
  have hname : ∀ {action}, lockRefusal env action (asciiStrToUnicodeStr arg) = none →
      isCriticalPartition (asciiStrToUnicodeStr arg) = false :=
    fun h => isCriticalPartition_of_lockRefusal hbuild hcritical h
  have hpermits : ∀ {action}, lockRefusal env action (asciiStrToUnicodeStr arg) = none →
      Permits env (Allowed env CriticalPartitions s arg) (asciiStrToUnicodeStr arg) :=
    fun h => permits_of_unlisted (fun _ ht => .inl ht) criticalPartitions_underscore (hname h)
  rcases hm with rfl | rfl
  · refine cmdFlash_touches (fun _ hcancel => .inr ⟨hcancel, rfl⟩)
      (wp_checkCommand_lock (exchanged s)) fun hlock => ?_
    constructor
    · exact hpermits hlock
    · exact fun n hn => startsWithAny_slotName criticalPartitions_underscore (hname hlock) hn
    · exact permitsEntries_of_critical hcritical _
    · exact nand_of_namesTable (hname hlock)
  · exact cmdErase_touches (fun _ hcancel => .inr ⟨hcancel, rfl⟩) (wp_checkCommand_lock s) hpermits

/-- **Flash permission.**  On a build that looks at the lock state, a locked device lets no
    command touch storage, and one that is not unlocked for the critical partitions lets it touch
    no partition with a critical name, by whatever route; the one exception is the partition of
    the type of misc when a pending merge is given up.  The flash thread keeps to this as well. -/
theorem flash_erase_permission (env : FlashEnv) (s : FlashState) (arg : List UInt8)
    (m : FlashProg PUnit) (hm : m = cmdFlash env arg ∨ m = cmdErase env arg)
    (hbuild : lockChecked env = true) :
    (env.isUnlocked = false → Touches (fun _ => False) (fun _ => False) s (m.exec s).2) ∧
    (env.isUnlockCritical = false →
      Touches (Allowed env CriticalPartitions s arg)
        (fun n => startsWithAny CriticalPartitions n = false) s (m.exec s).2 ∧
      ∀ job ∈ (m.exec s).2.jobs, job ∈ s.jobs ∨ ∀ s₁,
        Touches (Unlisted env CriticalPartitions) (fun _ => True) s₁
          ((sparseImgFlashThread env job).exec s₁).2) := by
  refine ⟨fun hlocked => flash_erase_locked hbuild hlocked hm, fun hcritical => ?_⟩
  have htouches := flash_erase_critical (s := s) hbuild hcritical hm
  exact ⟨htouches, jobs_unlisted htouches⟩

def mergingState : FlashState :=
  { smallFlashState with disks := fun _ => ⟨fun x => mergingMessage (x - 32768), 0, []⟩ }

theorem flash_erase_permission_system :
    lockChecked smallFlashEnv = true ∧
      Touches (Allowed smallFlashEnv CriticalPartitions smallFlashState (ascii "system"))
        (fun n => startsWithAny CriticalPartitions n = false) smallFlashState
        ((cmdFlash smallFlashEnv (ascii "system")).exec smallFlashState).2 :=
  ⟨by decide, ((flash_erase_permission smallFlashEnv smallFlashState (ascii "system") _ (.inl rfl)
    (by decide)).2 rfl).1⟩

def criticalMisc : FlashEnv :=
  { smallFlashEnv with record := fun _ => some ⟨wide "devinfo", 0, 0, 0⟩ }

/-- Erasing `super` writes the critical partition of the type of misc. -/
theorem flash_erase_permission_misc :
    lockChecked criticalMisc = true ∧ criticalMisc.isUnlocked = true ∧
      criticalMisc.isUnlockCritical = false ∧
      criticalMisc.record 0 = some ⟨wide "devinfo", 0, 0, 0⟩ ∧
      isCriticalPartition (wide "devinfo") = true ∧
      ((cmdErase criticalMisc (ascii "super")).exec mergingState).2.touched = [.handle 0] ∧
      (((cmdErase criticalMisc (ascii "super")).exec mergingState).2.disks 0).contents 32773 = 4 ∧
      (mergingState.disks 0).contents 32773 = 3 := by
  refine ⟨by decide, rfl, rfl, rfl, by decide, ?_, ?_, rfl⟩
  · decide +kernel
  · decide +kernel

/-! ### Partitions of a pending merge -/

def reportedMergeStatus (env : FlashEnv) (s : FlashState) : Option UInt8 :=
  ((getSnapshotMergeStatus env).exec s).1.toOption

section

variable (hdynamic : env.isDynamicPartitionSupport = true)
  (hmerge : (reportedMergeStatus env s).any mergePending = true)
include hdynamic hmerge

theorem wp_checkCommand_merge :
    wp (checkCommand env action name)
      (fun allowed _ => allowed = true → startsWithAny VirtualAbCriticalPartitions name = false)
      anyExit s := by
  unfold checkCommand
  cases lockRefusal env action name with
  | some text => exact nofun
  | none =>
    obtain ⟨status, hreported, hpending⟩ := (Option.any_eq_true _ _).mp hmerge
    have hstatus : wp (getSnapshotMergeStatus env) (fun v _ => v = status) noExit s := by
      unfold reportedMergeStatus at hreported
      unfold wp
      rcases hexec : (getSnapshotMergeStatus env).exec s with ⟨_ | v, s'⟩ <;>
        rw [hexec] at hreported
      · cases hreported
      · exact Option.some.inj hreported
    simp only [checkSnapshot, hdynamic, wp_bind, Bool.not_true, Bool.false_eq_true, if_false]
    refine wp_mono hstatus ?_ fun _ _ hfalse => hfalse.elim
    rintro v s₁ rfl
    rw [wp_ite]
    refine ⟨fun _ => nofun, fun hname => wp_any (fun _ _ _ => ?_) fun _ _ => trivial⟩
    have hmerging : decide (v = MergeStatus.MERGING.code ∨ v = MergeStatus.SNAPSHOTTED.code) =
        true := by
      simpa [mergePending] using hpending
    rw [checkVirtualAbCriticalPartition, hmerging, Bool.true_and, Bool.not_eq_true] at hname
    exact hname

theorem cmdErase_snapshot :
    Touches (Allowed env VirtualAbCriticalPartitions s arg)
      (fun n => startsWithAny VirtualAbCriticalPartitions n = false) s
      ((cmdErase env arg).exec s).2 :=
  cmdErase_touches (fun _ hcancel => .inr ⟨hcancel, rfl⟩) (wp_checkCommand_merge hdynamic hmerge)
    fun hname => permits_of_unlisted (fun _ ht => .inl ht) virtualAbCriticalPartitions_underscore
      hname

theorem cmdFlash_snapshot (hmeta : isMetaImage (exchanged s).image = false)
    (htable : namesTable env (asciiStrToUnicodeStr arg) = false) :
    Touches (Allowed env VirtualAbCriticalPartitions s arg)
      (fun n => startsWithAny VirtualAbCriticalPartitions n = false) s
      ((cmdFlash env arg).exec s).2 := by
  refine cmdFlash_touches (fun _ hcancel => .inr ⟨hcancel, rfl⟩)
    (wp_checkCommand_merge hdynamic (s := exchanged s) hmerge) fun hname => ?_
  constructor
  · exact permits_of_unlisted (fun _ ht => .inl ht) virtualAbCriticalPartitions_underscore hname
  · exact fun n hn => startsWithAny_slotName virtualAbCriticalPartitions_underscore hname hn
  · intro h
    rw [hmeta] at h
    cases h
  · intro h
    rw [htable] at h
    cases h

end

/-- **Snapshot protection.**  While a merge is reported to be pending, no erase and no flash of an
    image that is neither a meta image nor a partition table touches a partition the merge needs;
    the one exception is the partition of the type of misc when the command gives the merge up.
    The flash thread keeps to this as well. -/
theorem flash_erase_snapshot (env : FlashEnv) (s : FlashState) (arg : List UInt8)
    (hdynamic : env.isDynamicPartitionSupport = true)
    (hmerge : (reportedMergeStatus env s).any mergePending = true) :
    Touches (Allowed env VirtualAbCriticalPartitions s arg)
      (fun n => startsWithAny VirtualAbCriticalPartitions n = false) s
      ((cmdErase env arg).exec s).2 ∧
    (isMetaImage (exchanged s).image = false →
      namesTable env (asciiStrToUnicodeStr arg) = false →
      Touches (Allowed env VirtualAbCriticalPartitions s arg)
        (fun n => startsWithAny VirtualAbCriticalPartitions n = false) s
        ((cmdFlash env arg).exec s).2 ∧
      ∀ job ∈ ((cmdFlash env arg).exec s).2.jobs, job ∈ s.jobs ∨ ∀ s₁,
        Touches (Unlisted env VirtualAbCriticalPartitions) (fun _ => True) s₁
          ((sparseImgFlashThread env job).exec s₁).2) := by
  refine ⟨cmdErase_snapshot hdynamic hmerge, fun hmeta htable => ?_⟩
  have htouches := cmdFlash_snapshot hdynamic hmerge hmeta htable
  exact ⟨htouches, jobs_unlisted htouches⟩

theorem flash_erase_snapshot_system :
    (reportedMergeStatus smallFlashEnv mergingState).any mergePending = true ∧
      Touches (Allowed smallFlashEnv VirtualAbCriticalPartitions mergingState (ascii "system"))
        (fun n => startsWithAny VirtualAbCriticalPartitions n = false) mergingState
        ((cmdFlash smallFlashEnv (ascii "system")).exec mergingState).2 :=
  ⟨by decide, ((flash_erase_snapshot smallFlashEnv mergingState (ascii "system") rfl
    (by decide)).2 (by decide) (by decide)).1⟩

/-- Erasing `super` during a merge writes the misc partition. -/
theorem flash_erase_snapshot_super :
    smallFlashEnv.isDynamicPartitionSupport = true ∧
      (mergingState.mergeState smallFlashEnv).stored = MergeStatus.MERGING.code ∧
      smallFlashEnv.record 0 = some ⟨wide "misc", 0, 0, 0⟩ ∧
      checkVirtualAbCriticalPartition MergeStatus.MERGING.code (wide "misc") = true ∧
      (mergingState.disks 0).contents 32773 = 3 ∧
      (((cmdErase smallFlashEnv (ascii "super")).exec mergingState).2.disks 0).contents
        32773 = 4 := by
  refine ⟨rfl, rfl, rfl, by decide, rfl, ?_⟩
  decide +kernel

end Protection

end OhMyAbl
