/-
  **How often CmdFlash answers.**

  `Answers I n m` counts the responses of a routine that returns.  Two answers are given when an
  entry of a meta image is refused, and when the thread or the timer of the background flash reports
  a warning; none when there is no memory for the thread, and when the partition of a sparse image
  has exactly the maximal size of a download.

  `AnswersFlash` says when a command gets one answer.  It asks nothing of a command that is refused
  before it comes to a partition.  Of the others it is exact, but for those that write a partition
  table: a LUN outside the table of LUNs is only used there if the update goes well.

  - `cmdFlash_answers_once`: the equivalence
  - `cmdFlash_answers_none_or_twice`: a run without an answer, and one with two
-/
import OhMyAbl.Fastboot.FlashTargets
import OhMyAbl.Fastboot.FlashLun

namespace OhMyAbl

open Prog

/-! ### Counting responses -/

def Answered (n : Nat) (s s' : FlashState) : Prop :=
  ∃ rs : List Response, rs.length = n ∧ s'.responses = s.responses ++ rs

variable {s s' : FlashState}

theorem Answered.unique {n n' : Nat} (h : Answered n s s') (h' : Answered n' s s') : n = n' := by
  obtain ⟨rs, hlen, hrs⟩ := h
  obtain ⟨rs', hlen', hrs'⟩ := h'
  rw [← hlen, ← hlen', List.append_cancel_left (hrs.symm.trans hrs')]

theorem answered_zero (h : s'.responses = s.responses) : Answered 0 s s' :=
  ⟨[], rfl, by rw [h, List.append_nil]⟩

theorem answered_zero_iff : Answered 0 s s' ↔ s'.responses = s.responses := by
  refine ⟨?_, answered_zero⟩
  rintro ⟨rs, hlen, hrs⟩
  rw [hrs, List.length_eq_zero_iff.mp hlen, List.append_nil]

theorem Answered.trans {n n' : Nat} {s'' : FlashState} (h : Answered n s s')
    (h' : Answered n' s' s'') : Answered (n + n') s s'' := by
  obtain ⟨rs, hlen, hrs⟩ := h
  obtain ⟨rs', hlen', hrs'⟩ := h'
  refine ⟨rs ++ rs', ?_, ?_⟩
  · rw [List.length_append, hlen, hlen']
  · rw [hrs', hrs, List.append_assoc]

/-- From a state of `I` the program returns, in a state of `I`, and has answered `n` times. -/
def Answers {α : Type} (I : FlashState → Prop) (n : Nat) (m : FlashProg α) : Prop :=
  ∀ s, I s → wp m (fun _ s' => I s' ∧ Answered n s s') (fun _ _ => False) s

section Answers

variable {α β : Type} {I : FlashState → Prop} {n n' : Nat}

theorem Answers.pure (a : α) : Answers I 0 (Pure.pure a) := fun _ hs => ⟨hs, answered_zero rfl⟩

theorem Answers.get : Answers I 0 (MonadState.get : FlashProg FlashState) :=
  fun _ hs => ⟨hs, answered_zero rfl⟩

theorem Answers.modify {f : FlashState → FlashState} (hI : ∀ s, I s → I (f s))
    (hf : ∀ s, (f s).responses = s.responses) : Answers I 0 (modify f) :=
  fun s hs => ⟨hI s hs, answered_zero (hf s)⟩

variable {m : FlashProg α} {s s₀ : FlashState} {f : α → FlashProg β}

theorem wp_answers (h : Answered n s₀ s) (hs : I s) (hm : Answers I n' m) :
    wp m (fun _ s' => I s' ∧ Answered (n + n') s₀ s') noExit s :=
  wp_imp (hm s hs) fun _ _ h' => ⟨h'.1, h.trans h'.2⟩

theorem wp_answers_silent (h : Answered 0 s₀ s) (hs : I s) (hm : Answers I n m) :
    wp m (fun _ s' => I s' ∧ Answered n s₀ s') noExit s := by
  have hrun := wp_answers h hs hm
  rwa [Nat.zero_add] at hrun

theorem Answers.bind (hm : Answers I n m) (hf : ∀ a, Answers I n' (f a)) :
    Answers I (n + n') (m >>= f) := by
  intro s hs
  refine wp_seq (hm s hs) ?_
  rintro a s' ⟨hs', h⟩
  exact wp_answers h hs' (hf a)

theorem Answers.then (hm : Answers I 0 m) (hf : ∀ a, Answers I n (f a)) :
    Answers I n (m >>= f) := by
  intro s hs
  refine wp_seq (hm s hs) ?_
  rintro a s' ⟨hs', h⟩
  exact wp_answers_silent h hs' (hf a)

theorem Answers.ite {c : Prop} [Decidable c] {m' : FlashProg α} (h : c → Answers I n m)
    (h' : ¬ c → Answers I n m') : Answers I n (if c then m else m') := by
  split
  case isTrue hc => exact h hc
  case isFalse hc => exact h' hc

theorem Answers.when {c : Bool} {m : FlashProg PUnit} (h : Answers I n m) :
    Answers I (if c then n else 0) (when c m) := by
  cases c with
  | true => exact h
  | false => exact .pure _

end Answers

/-- The run from the state returns and has answered `n` times. -/
def Sends {α : Type} (n : Nat) (m : FlashProg α) (s : FlashState) : Prop :=
  wp m (fun _ s' => Answered n s s') noExit s

section Sends

variable {α β : Type} {n k : Nat} {m : FlashProg α} {f : α → FlashProg β} {P : Target → Prop}

theorem Sends.iff_eq (h : Sends k m s) : Sends n m s ↔ n = k := by
  refine ⟨fun h' => ?_, fun hn => hn ▸ h⟩
  obtain ⟨a, s', hexec, hk⟩ := wp_returns h
  unfold Sends at h'
  exact (wp_ok h' hexec).unique hk

theorem StorageStep.answered (h : StorageStep P False s s') : Answered 0 s s' := by
  obtain ⟨slots, disks, msg, state, new, n, rs, rfl, -, -, hrs⟩ := h
  exact answered_zero (by simpa using hrs)

/-- Behind what answers nothing, the answers are those of the rest. -/
theorem sends_then_iff (hm : Steps (StorageStep P False) m) :
    Sends n (m >>= f) s ↔ wp m (fun a s' => Sends n (f a) s') noExit s := by
  rw [Sends, wp_bind]
  refine wp_congr (hm s) fun a s' hstep => ?_
  unfold Sends Answered
  rw [answered_zero_iff.mp hstep.answered]

/-- Before what answers `k` times, the answers are the others. -/
theorem sends_before_iff (hm : StorageStep P True s (m.exec s).2) (hf : ∀ a s, Sends k (f a) s) :
    Sends (n + k) (m >>= f) s ↔ Sends n m s := by
  rw [Sends, wp_bind]
  refine wp_congr hm fun a s' hstep => ?_
  have hk := hf a s'
  unfold Sends at hk
  obtain ⟨j, hj⟩ : ∃ j, Answered j s s' := by
    obtain ⟨slots, disks, msg, state, new, n, rs, rfl, -⟩ := hstep
    exact ⟨_, rs, rfl, rfl⟩
  constructor
  · intro h
    obtain ⟨_, s'', hexec, hboth⟩ := wp_returns h
    have hsum := (hj.trans ((wp_of_exec hexec).mp hk)).unique hboth
    obtain rfl : j = n := by omega
    exact hj
  · exact fun h => wp_imp hk fun _ _ h' => h.trans h'

end Sends

/-! ### Staying inside the table of LUNs -/

/-- Nothing but the LUN and the table of LUNs decides. -/
class LunOnly (I : FlashState → Prop) : Prop where
  congr : ∀ {s s' : FlashState}, I s → s'.lun = s.lun → s'.lunSet = s.lunSet →
    s'.ptable = s.ptable → I s'

/-- A lookup stays inside the table, and, if `b`, so does the use of the LUN itself. -/
def LunsInside (b : Prop) (s : FlashState) : Prop :=
  lunRangeFaults s = false ∧ (b → lunInRange s.lun = true)

/-- What a lookup of the name comes to before it leaves the table. -/
def searchFor (env : FlashEnv) (name : Text) (s : FlashState) : Option Handle :=
  searchLuns env s.ptable name
    (List.range' (lunRange s).1 (min (lunRange s).2 MAX_LUNS - (lunRange s).1))

/-- The lookup of the name stays inside the table. -/
def Finds (env : FlashEnv) (name : Text) (s : FlashState) : Prop :=
  lunRangeFaults s = true → ∃ h, searchFor env name s = some h

section LunsInside

variable {env : FlashEnv} {name : Text} {b : Prop} {α : Type} {P : Target → Prop}
  {I : FlashState → Prop} [LunOnly I] {s s' : FlashState}

instance : LunOnly (LunsInside b) where
  congr := by
    rintro s s' ⟨hrange, hlun'⟩ hlun hset htable
    refine ⟨?_, fun hb => hlun ▸ hlun' hb⟩
    simp only [lunRangeFaults, lunRange, hlun, hset, htable]
    exact hrange

instance : LunOnly (Finds env name) where
  congr := by
    intro s s' h hlun hset htable
    simp only [Finds, searchFor, lunRangeFaults, lunRange, hlun, hset, htable]
    exact h

instance : LunOnly fun _ => True := ⟨fun _ _ _ _ => trivial⟩

theorem LunsInside.finds (h : LunsInside b s) : Finds env name s :=
  fun hfaults => absurd h.1 (by simp [hfaults])

theorem lunRangeFaults_unset (hset : s.lunSet = false) : lunRangeFaults s = false := by
  have hmax := s.ptable.maxLuns_le
  simp only [lunRangeFaults, lunRange, hset, Bool.false_eq_true, if_false, decide_eq_false_iff_not]
  omega

theorem lunRangeFaults_inRange (hlun : lunInRange s.lun = true) : lunRangeFaults s = false := by
  cases hset : s.lunSet with
  | false => exact lunRangeFaults_unset hset
  | true =>
    rw [lunInRange, Bool.and_eq_true, decide_eq_true_iff, decide_eq_true_iff] at hlun
    obtain ⟨hlow, hhigh⟩ := hlun
    simp only [NO_LUN, MAX_LUNS] at hlow hhigh
    simp only [lunRangeFaults, lunRange, hset, if_true, MAX_LUNS, decide_eq_false_iff_not]
    omega

theorem StorageStep.lunOnly {c : Prop} (h : StorageStep P c s s') (hs : I s) : I s' := by
  obtain ⟨slots, disks, msg, state, new, n, rs, rfl, -⟩ := h
  exact LunOnly.congr hs rfl rfl rfl

theorem Returns.answers {m : FlashProg α} (hr : Returns m) (hs : Steps (StorageStep P False) m) :
    Answers I 0 m := by
  intro s hI
  refine wp_mono (wp_and (hr s) (wp_of_steps hs)) ?_ fun _ _ h => h.1
  rintro a s' ⟨-, hstep⟩
  exact ⟨hstep.lunOnly hI, hstep.answered⟩

theorem okay_answers (text : String) : Answers I 1 (okay text) :=
  fun _ hs => ⟨LunOnly.congr hs rfl rfl rfl, [.okay text], rfl, rfl⟩

theorem fail_answers (text : String) : Answers I 1 (fail text) :=
  fun _ hs => ⟨LunOnly.congr hs rfl rfl rfl, [.fail text], rfl, rfl⟩

theorem answer_answers (name : Text) : Answers I 1 (answer env name) := by
  refine .then .get fun s => .ite (fun _ => ?_) fun _ => okay_answers _
  change Answers I (1 + 0) _
  refine .bind (fail_answers _) fun _ => ?_
  exact .modify (fun _ hs => LunOnly.congr hs rfl rfl rfl) fun _ => rfl

theorem modify_answers {f : FlashState → FlashState} (h : ∀ s, (f s).lun = s.lun ∧
    (f s).lunSet = s.lunSet ∧ (f s).ptable = s.ptable ∧ (f s).responses = s.responses) :
    Answers I 0 (modify f) :=
  .modify (fun s hs => LunOnly.congr hs (h s).1 (h s).2.1 (h s).2.2.1) fun s => (h s).2.2.2

theorem handOver_answers : Answers I 0 handOver :=
  modify_answers fun _ => ⟨rfl, rfl, rfl, rfl⟩

theorem stopUsbTimer_answers : Answers I 0 stopUsbTimer :=
  modify_answers fun _ => ⟨rfl, rfl, rfl, rfl⟩

/-! ### The routines for images -/

theorem resolveName_returns : Returns (resolveName env name) := by
  refine .bind .get fun s => .ite (.bind .get fun s => ?_) (.pure _)
  cases getPartitionIndex s.slots.ptnEntries name with
  | none =>
    refine .bind ?_ fun _ => .pure _
    intro s
    rw [wp_zoom]
    exact wp_imp (getCurrentSlotSuffix_slot env.slots s.slots) fun _ _ _ => trivial
  | some _ => exact .ite (.pure _) (.pure _)

theorem resolveName_answers : Answers I 0 (resolveName env name) :=
  Returns.answers (P := fun _ => True) resolveName_returns (resolveName_yields env name).steps

theorem wp_partitionGetInfo {Q : Option Handle → FlashState → Prop} :
    wp (partitionGetInfo env name) Q noExit s ↔ Finds env name s ∧
      Q (searchFor env name s) { s with lunUses := s.lunUses ++ [usedLun s] } := by
  simp only [partitionGetInfo, wp_bind, wp_get, Finds, searchFor]
  cases searchLuns env s.ptable name
      (List.range' (lunRange s).1 (min (lunRange s).2 MAX_LUNS - (lunRange s).1)) with
  | some h =>
    simp only [Option.some.injEq, exists_eq', implies_true, true_and]
    exact Iff.rfl
  | none =>
    simp only [reduceCtorEq, exists_false, imp_false, wp_ite]
    exact ⟨fun h => ⟨h.1, h.2 h.1⟩, fun h => ⟨h.1, fun _ => h.2⟩⟩

theorem partitionGetInfo_answers (hfinds : ∀ s, I s → Finds env name s) :
    Answers I 0 (partitionGetInfo env name) :=
  fun s hs => wp_partitionGetInfo.mpr
    ⟨hfinds s hs, LunOnly.congr hs rfl rfl rfl, answered_zero rfl⟩

/-- The name that the slots make of the name is looked up inside the table. -/
def LooksUp (env : FlashEnv) (name : Text) (s : FlashState) : Prop :=
  wp (resolveName env name) (fun n s' => Finds env n.name s') noExit s

theorem lookUp_returns_iff {f : SlotName → Option Handle → FlashProg α}
    (hf : ∀ n found, Returns (f n found)) :
    wp (do
      let n ← resolveName env name
      let found ← partitionGetInfo env n.name
      f n found) (fun _ _ => True) noExit s ↔ LooksUp env name s := by
  rw [wp_bind, LooksUp]
  refine wp_congr (R := fun _ _ => True) trivial fun n s' _ => ?_
  rw [wp_bind, wp_partitionGetInfo]
  exact and_iff_left (hf n _ _)

theorem sends_zero_iff {m : FlashProg α} (hm : Steps (StorageStep P False) m) :
    Sends 0 m s ↔ wp m (fun _ _ => True) noExit s :=
  wp_congr (hm s) fun _ _ hstep => iff_of_true hstep.answered trivial

theorem LunsInside.looksUp (h : LunsInside b s) : LooksUp env name s :=
  wp_imp (resolveName_answers s h) fun _ _ h => h.1.finds

theorem partitionDump_answers : Answers (LunsInside b) 0 partitionDump := by
  intro s hs
  rw [partitionDump, wp_bind, wp_get, hs.1]
  exact ⟨hs, answered_zero rfl⟩

variable (hw : ∀ h, WriteEnds env.storage (env.blockIo h))
include hw

theorem writeRawImg_returns {n : SlotName} {h : Handle} {addr size : Nat} :
    Returns (writeRawImg env n h addr size) := by
  refine .ite (.pure _) (.bind .get fun s => .bind (.bind (.modify _) fun _ => ?_) fun _ =>
    .bind (.when (.modify _)) fun _ => .pure _)
  intro s
  rw [wp_zoom]
  exact writeBlockToPartition_returns (hw h) _

theorem sends_handleRawImgFlash {addr size : Nat} :
    Sends 0 (handleRawImgFlash env name addr size) s ↔ LooksUp env name s := by
  refine (sends_zero_iff (handleRawImgFlash_steps permits_any)).trans
    (lookUp_returns_iff fun n found => ?_)
  cases found with
  | none =>
    refine .bind (.ite ?_ (.pure _)) fun _ => .pure _
    exact .ite (.pure _) (.ite (.pure _) (.bind (.modify _) fun _ => .pure _))
  | some h => exact .bind (writeRawImg_returns hw) fun _ => .pure _

omit hw in
theorem sends_handleUbiImgFlash {size : Nat} :
    Sends 0 (handleUbiImgFlash env name size) s ↔ LooksUp env name s := by
  refine (sends_zero_iff (handleUbiImgFlash_steps permits_any)).trans
    (lookUp_returns_iff fun n found => ?_)
  cases found with
  | none => exact .pure _
  | some h =>
    exact .bind (.ite (.pure _) (.ite (.pure _) (.ite (.pure _) (.bind (.modify _) fun _ =>
      .pure _)))) fun _ => .pure _

theorem sparseImgFlash_answers {addr sz : Nat} (hfinds : ∀ s, I s → Finds env name s) :
    Answers I 0 (sparseImgFlash env name addr sz) := by
  refine .ite (fun _ => .pure _) fun _ => .then (partitionGetInfo_answers hfinds) fun found => ?_
  cases found with
  | none => exact .pure _
  | some h =>
    refine .then .get fun s => Returns.answers (P := fun _ => True) (.bind (.modify _) fun _ => ?_)
      (onPartition_steps trivial)
    intro s'
    rw [wp_zoom]
    exact handleSparseImgFlash_returns (hw h) _

/-! ### Meta images -/

/-- The loop over the entries of a meta image does not come to one that is refused, and the lookups
    of those it comes to stay inside the table. -/
def EntriesPass (env : FlashEnv) (addr sz : Nat) (image : Bytes) : Nat → Nat → FlashState → Prop
  | 0, _, _ => True
  | left + 1, i, s =>
    let e := ImgHeaderEntry.ofBytes image i
    e.isEnd = true ∨ e.check addr sz ≠ EFI_SUCCESS ∨ entryRefused env image i = false ∧
      wp (handleRawImgFlash env e.name (addr + e.startOffset) e.size)
        (fun r s' => r.1 = EFI_SUCCESS → EntriesPass env addr sz image left (i + 1) s') noExit s

omit hw in
theorem sends_flashEntries {addr sz : Nat} {image : Bytes} (left : Nat) : ∀ {i s},
    Sends 0 (flashEntries env addr sz image left i) s ↔ EntriesPass env addr sz image left i s := by
  induction left with
  | zero => exact iff_of_true (answered_zero rfl) trivial
  | succ left ih =>
    intro i s
    have hnone : ∀ status, Sends 0 (pure status : FlashProg EfiStatus) s :=
      fun _ => answered_zero rfl
    simp only [flashEntries, EntriesPass, entryRefused]
    by_cases hend : (ImgHeaderEntry.ofBytes image i).isEnd = true
    · rw [if_pos hend]
      exact iff_of_true (hnone _) (.inl hend)
    by_cases hcheck : (ImgHeaderEntry.ofBytes image i).check addr sz ≠ EFI_SUCCESS
    · rw [if_neg hend, if_pos hcheck]
      exact iff_of_true (hnone _) (.inr (.inl hcheck))
    rw [if_neg hend, if_neg hcheck, or_iff_right hend, or_iff_right hcheck]
    by_cases hrefused : (!env.isUnlockCritical &&
        isCriticalPartition (ImgHeaderEntry.ofBytes image i).name) = true
    · have hfail : Sends 1 (fail "Flashing is not allowed for Critical Partitions\n" >>= fun _ =>
          pure EFI_INVALID_PARAMETER : FlashProg EfiStatus) s := ⟨[_], rfl, rfl⟩
      rw [if_pos hrefused]
      exact iff_of_false (fun h => absurd (hfail.iff_eq.mp h) (by decide))
        fun h => absurd hrefused (Bool.eq_false_iff.mp h.1)
    · rw [if_neg hrefused, sends_then_iff (handleRawImgFlash_steps permits_any),
        and_iff_right (Bool.eq_false_iff.mpr hrefused)]
      refine wp_congr (R := fun _ _ => True) trivial fun r s' _ => ?_
      split
      case isTrue hfailed => exact iff_of_true (answered_zero rfl) fun hok => absurd hok hfailed
      case isFalse hok => simp only [ih, not_not.mp hok, forall_const]

/-- The header of a meta image is not accepted, or its entries pass. -/
def MetaPasses (env : FlashEnv) (addr sz : Nat) (image : Bytes) (s : FlashState) : Prop :=
  sz < META_HEADER_SIZE ∨ metaImages image > MAX_IMAGES_IN_METAIMG ∨
    sz ≤ META_HEADER_SIZE + image.u16At 74 ∨ CHECK_ADD64 addr sz = true ∨
    EntriesPass env addr sz image (metaImages image) 0 s

omit hw in
theorem sends_handleMetaImgFlash {addr sz : Nat} :
    Sends 0 (handleMetaImgFlash env addr sz) s ↔
      MetaPasses env addr sz (s.memory.shift addr) s := by
  have hentries := @sends_flashEntries env addr sz (s.memory.shift addr)
    (metaImages (s.memory.shift addr)) 0 s
  have hsame : Answered 0 s s := answered_zero rfl
  simp only [Sends, handleMetaImgFlash, wp_bind, wp_get, wp_ite, wp_pure, MetaPasses, hsame,
    implies_true, true_and] at hentries ⊢
  rw [hentries]
  tauto

/-! ### Sparse images -/

/-- The status is a success or an error, and not one of the warnings between them. -/
def NoWarning (status : EfiStatus) : Prop := status = EFI_SUCCESS ∨ EFI_ERROR status = true

/-- The status with which the flash in the background is started. -/
def startStatus (env : FlashEnv) (s : FlashState) : EfiStatus :=
  if env.isUseMThreadParallel then if env.threadCreate then env.threadResume else EFI_NOT_READY
  else if s.usbTimerEvent then EFI_SUCCESS
  else if EFI_ERROR env.createTimer then env.createTimer else env.setTimer

omit hw in
theorem startParallel_status (s : FlashState) :
    wp (startParallel env name) (fun status _ => status = startStatus env s) noExit s := by
  unfold startParallel startStatus createSparseImgFlashThread startUsbTimer handleUsbEventsInTimer
    handOver stopUsbTimer
  simp only [wp_ite, wp_bind, wp_modify]
  split_ifs <;> simp_all

omit hw in
theorem startParallel_answers : Answers I 0 (startParallel env name) := by
  refine .ite (fun _ => ?_) fun _ => ?_
  · refine .ite (fun _ => .pure _) fun _ => .ite (fun _ => .pure _) fun _ =>
      .then handOver_answers fun _ => .then ?_ fun _ => .pure _
    exact modify_answers fun _ => ⟨rfl, rfl, rfl, rfl⟩
  · refine .then (modify_answers fun _ => ⟨rfl, rfl, rfl, rfl⟩) fun _ =>
      .then ?_ fun status => .ite (fun _ => ?_) fun _ => ?_
    · refine .then .get fun _ => .ite (fun _ => .pure _) fun _ => .ite (fun _ => .pure _) fun _ =>
        .then (modify_answers fun _ => ⟨rfl, rfl, rfl, rfl⟩) fun _ => .pure _
    · exact .then (modify_answers fun _ => ⟨rfl, rfl, rfl, rfl⟩) fun _ =>
        .then stopUsbTimer_answers fun _ => .pure _
    · exact .then (modify_answers fun _ => ⟨rfl, rfl, rfl, rfl⟩) fun _ =>
        .pure _

theorem flashSparseNow_answers (name : Text) (hfinds : ∀ s, I s → Finds env name s) :
    Answers I 0 (flashSparseNow env name) := by
  refine .then .get fun s => .then handOver_answers fun _ =>
    .then (sparseImgFlash_answers hw hfinds) fun status => .then ?_ fun _ => stopUsbTimer_answers
  exact modify_answers fun _ => ⟨rfl, rfl, rfl, rfl⟩

theorem finishSparse_answers (name : Text) (hfinds : ∀ s, I s → Finds env name s) (size : Nat)
    (status : EfiStatus) :
    Answers I (if answersAtEnd env size status then 1 else 0)
      (finishSparse env name size status) := by
  have hnow : Answers I 0
      (when (runsItself env size status) (flashSparseNow env name)) := by
    have h := Answers.when (c := runsItself env size status)
      (flashSparseNow_answers (I := I) hw name hfinds)
    rwa [ite_self] at h
  exact .then hnow fun _ => .when (answer_answers name)

/-- How often a sparse image for a partition of the size is answered. -/
def sparseAnswers (env : FlashEnv) (s : FlashState) (size : Nat) : Nat :=
  if size = 0 then 1
  else if size > env.maxDownLoadSize ∧ env.isDisableParallelDownloadFlash = false then
    if env.isUseMThreadParallel && !env.allocateFlashInfo then 0
    else (if !EFI_ERROR (startStatus env s) then 1 else 0) +
      if answersAtEnd env size (startStatus env s) then 1 else 0
  else if answersAtEnd env size EFI_SUCCESS then 1 else 0

/-- A partition for which a sparse image is answered once.  Its size is not that of the largest
    download; if it is larger and the flash goes on in the background, there is memory for the
    thread and its start, or that of the timer, does not report a warning. -/
def AnswersSize (env : FlashEnv) (s : FlashState) (size : Nat) : Prop :=
  size < env.maxDownLoadSize ∨ size = 0 ∨ env.maxDownLoadSize < size ∧
    (env.isDisableParallelDownloadFlash = true ∨
      (env.isUseMThreadParallel = true → env.allocateFlashInfo = true) ∧
        NoWarning (startStatus env s))

omit hw in
theorem sparseAnswers_eq_one_iff {size : Nat} :
    sparseAnswers env s size = 1 ↔ AnswersSize env s size := by
  have hsuccess : EFI_ERROR EFI_SUCCESS = false := by decide
  unfold sparseAnswers AnswersSize NoWarning answersAtEnd
  rcases Nat.lt_trichotomy size env.maxDownLoadSize with hlt | heq | hgt
  · simp [hlt, Nat.not_lt_of_lt hlt]
  · simp [heq]
  · have hzero : size ≠ 0 := by omega
    cases env.isDisableParallelDownloadFlash <;> cases env.isUseMThreadParallel <;>
      cases env.allocateFlashInfo <;> by_cases hok : startStatus env s = EFI_SUCCESS <;>
      cases herror : EFI_ERROR (startStatus env s) <;>
      simp_all [Nat.not_lt_of_lt hgt]

theorem flashSparseFound_answers {n : SlotName} {h : Handle}
    (hfinds : ∀ s, I s → Finds env n.name s)
    (hs : I s) :
    Sends (sparseAnswers env s (env.blockIo h).getPartitionSize) (flashSparseFound env n.name h)
      s := by
  unfold Sends flashSparseFound sparseAnswers
  generalize (env.blockIo h).getPartitionSize = size
  simp only [wp_ite, wp_bind]
  refine ⟨fun hzero => ?_, fun hzero => ⟨fun hlarge => ⟨fun hmemory => ?_, fun hmemory => ?_⟩,
    fun hlarge => ?_⟩⟩
  · rw [if_pos hzero]
    exact ⟨[_], rfl, rfl⟩
  · rw [if_neg hzero, if_pos hlarge, if_pos hmemory]
    exact answered_zero rfl
  · rw [if_neg hzero, if_pos hlarge, if_neg hmemory, flashSparseParallel, wp_bind]
    refine wp_mono (wp_and (startParallel_answers (I := I) s hs) (startParallel_status s)) ?_
      fun _ _ h => h.1
    rintro status s' ⟨⟨hs', hsilent⟩, rfl⟩
    have hboth : Answers I _ _ := Answers.bind
      (Answers.when (c := !EFI_ERROR (startStatus env s)) (okay_answers ""))
      fun _ => finishSparse_answers hw n.name hfinds size (startStatus env s)
    exact wp_imp (wp_answers_silent hsilent hs' hboth) fun _ _ h => h.2
  · rw [if_neg hzero, if_neg hlarge]
    exact wp_imp (finishSparse_answers hw n.name hfinds size _ s hs) fun _ _ h => h.2

/-- The lookup of the partition of a sparse image stays inside the table, and the partition that is
    found is one for which the image is answered once. -/
def AnswersSparse (env : FlashEnv) (name : Text) (s : FlashState) : Prop :=
  wp (resolveName env name) (fun n s' => Finds env n.name s' ∧
    ∀ h, searchFor env n.name s' = some h → AnswersSize env s' (env.blockIo h).getPartitionSize)
    noExit s

theorem sends_flashSparseImg : Sends 1 (flashSparseImg env name) s ↔ AnswersSparse env name s := by
  unfold flashSparseImg
  rw [sends_then_iff (resolveName_yields (P := fun _ => True) env name).steps, AnswersSparse]
  refine wp_congr (R := fun _ _ => True) trivial fun n s' _ => ?_
  rw [sends_then_iff (partitionGetInfo_yields (P := fun _ => True) env n.name).steps,
    wp_partitionGetInfo]
  refine and_congr_right fun hfinds => ?_
  cases searchFor env n.name s' with
  | none => exact iff_of_true ⟨[_], rfl, rfl⟩ fun _ h => by cases h
  | some h =>
    have hsent := flashSparseFound_answers (n := n) (h := h) hw (fun _ h => h)
      (LunOnly.congr hfinds rfl rfl rfl :
        Finds env n.name { s' with lunUses := s'.lunUses ++ [usedLun s'] })
    simp only [Option.some.injEq, forall_eq']
    exact (Sends.iff_eq hsent).trans (eq_comm.trans sparseAnswers_eq_one_iff)

/-! ### Partition tables -/

omit hw in
theorem updateLunTable_answers {addr sz : Nat} :
    Answers (LunsInside True) 0 (updateLunTable env addr sz) := by
  intro s hs
  have hlun := hs.2 trivial
  simp only [updateLunTable, wp_bind, wp_ite, wp_zoom]
  refine ⟨fun hout => absurd hlun (by simp [hout.2]), fun _ => ?_⟩
  exact wp_imp (updatePartitionTable_returns _)
    fun _ _ _ => ⟨LunOnly.congr hs rfl rfl rfl, answered_zero rfl⟩

omit hw in
theorem isBootPtnUpdated_answers : Answers (LunsInside True) 0 (isBootPtnUpdated env) := by
  intro s hs
  simp only [isBootPtnUpdated, wp_bind, wp_get, hs.2 trivial]
  exact ⟨LunOnly.congr hs rfl rfl rfl, answered_zero rfl⟩

omit hw in
theorem refreshSlots_answers {updated : Bool} :
    Answers (LunsInside b) 0 (refreshSlots env updated) := by
  intro s hs
  simp only [refreshSlots, wp_bind, wp_when, wp_zoom, wp_getActiveSlot]
  exact ⟨fun _ => ⟨LunOnly.congr hs rfl rfl rfl, answered_zero rfl⟩,
    fun _ => ⟨hs, answered_zero rfl⟩⟩

omit hw in
theorem reenumeratePartTable_answers :
    Answers (LunsInside True) 0 (reenumeratePartTable env) := by
  refine .then (.modify (fun _ hs => ⟨lunRangeFaults_unset rfl, hs.2⟩) fun _ => rfl) fun _ =>
    .ite (fun _ => .pure _) fun _ => .ite (fun _ => .pure _) fun _ => ?_
  -- the new table has no more LUNs than the old one may have
  refine .then (.modify (fun s hs => ⟨?_, hs.2⟩) fun _ => rfl) fun _ =>
    .ite (fun _ => .pure _) fun _ => ?_
  · exact lunRangeFaults_inRange (hs.2 trivial)
  · exact .then (modify_answers fun _ => ⟨rfl, rfl, rfl, rfl⟩) fun _ =>
      .then isBootPtnUpdated_answers fun _ => .then refreshSlots_answers fun _ =>
        .then partitionDump_answers fun _ => .pure _

omit hw in
theorem finishTable_answers {status : EfiStatus} :
    Answers (LunsInside True) 1 (finishTable env status) := by
  have hanswer : ∀ status, Answers (LunsInside True) 1 (answerTable status) := fun _ =>
    .ite (fun _ => okay_answers _) fun _ => fail_answers _
  exact .ite (fun _ => .then reenumeratePartTable_answers fun _ => hanswer _) fun _ => hanswer _

theorem flashTable_answers {s : FlashState}
    (hlun : env.slots.rootDeviceType ≠ .EMMC → lunInRange s.lun = true) :
    wp (flashTable env name) (fun _ s' => LunsInside True s' ∧ Answered 1 s s') noExit s := by
  rw [flashTable, wp_bind]
  have hselected : wp (selectTableLun env) (fun _ s' => LunsInside True s' ∧ Answered 0 s s')
      noExit s := by
    have hrange : ∀ s' : FlashState, lunInRange s'.lun = true → LunsInside True s' :=
      fun s' h => ⟨lunRangeFaults_inRange h, fun _ => h⟩
    rw [selectTableLun, wp_modify]
    cases hdevice : env.slots.rootDeviceType with
    | EMMC => exact ⟨hrange _ rfl, answered_zero rfl⟩
    | UFS => exact ⟨hrange _ (hlun (by simp [hdevice])), answered_zero rfl⟩
    | NAND => exact ⟨hrange _ (hlun (by simp [hdevice])), answered_zero rfl⟩
    | UNKNOWN => exact ⟨hrange _ (hlun (by simp [hdevice])), answered_zero rfl⟩
  refine wp_imp hselected ?_
  rintro - s' ⟨hs', h⟩
  have hmibib : Answers (LunsInside True) 1 (writeMibib env name) := by
    refine .then .get fun s => .ite (fun _ => ?_) fun _ => fail_answers _
    refine .then handOver_answers fun _ => .then (fun s hs => ?_) fun _ => finishTable_answers
    exact wp_mono (wp_and ((sends_handleRawImgFlash hw).mpr hs.looksUp)
      (wp_of_steps (handleRawImgFlash_steps (c := False) permits_any)))
        (fun _ _ h => ⟨h.2.lunOnly hs, h.1⟩)
      fun _ _ h => h.1
  have htable : Answers (LunsInside True) 1 (writeTable env) :=
    .then .get fun s => .then handOver_answers fun _ => .then updateLunTable_answers fun _ =>
      finishTable_answers
  have hrest : Answers (LunsInside True) 1 (do
      partitionDump
      if env.slots.rootDeviceType = .NAND then writeMibib env name else writeTable env) :=
    .then partitionDump_answers fun _ => .ite (fun _ => hmibib) fun _ => htable
  exact wp_answers_silent h hs' hrest

/-! ### CmdFlash -/

/-- An image that is not sparse is flashed without an answer of its own. -/
def PassesOther (env : FlashEnv) (name : Text) (addr sz : Nat) (image : Bytes) (s : FlashState) :
    Prop :=
  if strnCmp (image.slice 0 4) (ascii "UBI#") 4 then LooksUp env name s
  else if image.u32At 0 = META_HEADER_MAGIC then MetaPasses env addr sz image s
  else LooksUp env name s

theorem sends_flashOther {addr sz : Nat} :
    Sends 0 (flashOther env name addr sz (s.memory.shift addr)) s ↔
      PassesOther env name addr sz (s.memory.shift addr) s := by
  unfold flashOther PassesOther
  split_ifs
  · exact sends_handleUbiImgFlash
  · rw [Sends, wp_bind]
    exact sends_handleMetaImgFlash
  · exact sends_handleRawImgFlash hw

/-- An image of a kind that is answered once. -/
def AnswersImage (env : FlashEnv) (name : Text) (s : FlashState) : Prop :=
  if s.image.u32At 0 = SPARSE_HEADER_MAGIC then AnswersSparse env name s
  else PassesOther env name s.flashDataBuffer s.flashNumDataBytes s.image (handed s)

theorem sends_flashImage : Sends 1 (flashImage env name) s ↔ AnswersImage env name s := by
  unfold AnswersImage FlashState.image flashImage
  rw [Sends, wp_bind, wp_get]
  dsimp only
  split
  · exact sends_flashSparseImg hw
  · rw [wp_bind, handOver, wp_modify]
    refine (sends_before_iff (n := 0) (k := 1) (s := handed s) (flashOther_image permits_any
      fun _ _ _ => permits_any) fun r s' => ?_).trans (sends_flashOther (s := handed s) hw)
    rw [Sends, wp_bind, wp_modify]
    exact wp_imp (Answers.bind (I := fun _ => True) (n := 1) (answer_answers r.2)
      (fun _ => .pure _) _ trivial) fun _ _ h => h.2

/-- A command that writes a partition table uses a LUN inside the table of LUNs, and one for another
    partition has an image of a kind that is answered once. -/
def AnswersNamed (env : FlashEnv) (name : Text) (s : FlashState) : Prop :=
  if namesTable env name then env.slots.rootDeviceType ≠ .EMMC → lunInRange s.lun = true
  else AnswersImage env name s

theorem sends_flashNamed {arg : List UInt8} (hname : namesTable env name = false) :
    Sends 1 (flashNamed env arg name) s ↔ AnswersNamed env name s := by
  unfold flashNamed AnswersNamed
  rw [if_neg (by simp [hname]), if_neg (by simp [hname]), ← sends_flashImage hw, Sends, wp_bind]
  refine wp_congr (R := fun _ _ => True) trivial fun goesOn s' _ => ?_
  cases goesOn with
  | true => exact Iff.rfl
  | false => exact Iff.rfl

theorem flashNamed_once {arg : List UInt8} (h : AnswersNamed env name s) :
    Sends 1 (flashNamed env arg name) s := by
  cases hname : namesTable env name with
  | false => exact (sends_flashNamed hw hname).mpr h
  | true =>
    unfold flashNamed
    rw [AnswersNamed, hname] at h
    rw [hname]
    exact wp_seq (flashTable_answers hw h) fun _ _ h => h.2

theorem checkCommand_returns {action : String} : Returns (checkCommand env action name) := by
  have hstatus : Returns (getSnapshotMergeStatus env) := fun s =>
    wp_imp (getSnapshotMergeStatus_spec (P := fun _ => True) (c := True) s)
      fun _ _ _ => trivial
  have hset : Returns (setSnapshotMergeStatus env .CANCELLED) := by
    refine .bind .get fun s => ?_
    cases s.virtualAbMsg with
    | none => exact .pure _
    | some msg =>
      refine .bind (.modify _) fun _ => .bind (.ite (.pure _) (.ite (.pure _)
        (.bind (.modify _) fun _ => ?_))) fun _ => .bind (.when (.modify _)) fun _ => .pure _
      intro s
      rw [wp_zoom]
      exact writeBlockToPartition_returns (hw env.misc) _
  have hrefuse : ∀ text, Returns (refuse text) := fun _ => .bind (.modify _) fun _ => .pure _
  unfold checkCommand
  cases lockRefusal env action name with
  | some text => exact hrefuse text
  | none =>
    refine .ite (.pure _) (.bind hstatus fun _ => .ite (.bind .get fun _ => hrefuse _)
      (.bind hstatus fun _ => .ite ?_ (.pure _)))
    exact .bind hset fun _ => .ite (hrefuse _) (.bind (.modify _) fun _ => .pure _)

end LunsInside

/-- The state behind the number of the LUN, if that is not too large. -/
def withLun (name : Text) (s : FlashState) : Option FlashState :=
  match lunOf name with
  | none => some s
  | some lun => if lun ≥ MAX_LUNS then none else some { s with lun := lun, lunSet := true }

/-- The state in which a flash command goes on to a partition: it is not refused, and does not name
    the key. -/
def flashReached (env : FlashEnv) (arg : List UInt8) (s : FlashState) : Option FlashState :=
  if (exchanged s).flashDataBuffer = 0 ∨ arg.length ≥ MAX_GPT_NAME_SIZE ∨
      isCustomKey (asciiStrToUnicodeStr arg) = true then none
  else
    match (checkCommand env "Flashing" (asciiStrToUnicodeStr arg)).exec (exchanged s) with
    | (.ok true, s') => withLun (asciiStrToUnicodeStr arg) s'
    | _ => none

/-- What a flash command that goes on to a partition needs to be answered once. -/
def AnswersFlash (env : FlashEnv) (s : FlashState) (arg : List UInt8) : Prop :=
  ∀ s', flashReached env arg s = some s' → AnswersNamed env (asciiStrToUnicodeStr arg) s'

section Reached

variable {env : FlashEnv} {arg : List UInt8} {s s₁ : FlashState}

theorem wp_cmdFlash {Q : PUnit → FlashState → Prop} {E : Exit → FlashState → Prop} :
    wp (cmdFlash env arg) Q E s ↔
      wp (if (exchanged s).flashDataBuffer = 0 then fail "No data to flash"
        else if arg.length ≥ MAX_GPT_NAME_SIZE then fail "Invalid partition name"
        else do
          let allowed ← checkCommand env "Flashing" (asciiStrToUnicodeStr arg)
          if !allowed then return ⟨⟩
          else if isCustomKey (asciiStrToUnicodeStr arg) then
            answerKey env.storeUserKey "Flashing avb_custom_key failed"
          else flashWithLun env arg (asciiStrToUnicodeStr arg)) Q E (exchanged s) := Iff.rfl

theorem checkCommand_answers (hw : ∀ h, WriteEnds env.storage (env.blockIo h)) :
    wp (checkCommand env "Flashing" (asciiStrToUnicodeStr arg))
      (fun allowed s' => Checked (fun _ => True) s s' allowed) noExit s := by
  have hcheck := checkCommand_spec (P := fun _ => True) s
    fun (_ : lockRefusal env "Flashing" (asciiStrToUnicodeStr arg) = none) _ => trivial
  exact wp_mono (wp_and hcheck (checkCommand_returns hw s)) (fun _ _ h => h.1.1) fun _ _ h => h.2

theorem flashWithLun_of_reached {name : Text} (h : withLun name s = some s₁) :
    s₁.responses = s.responses ∧ ∀ {Q E}, wp (flashWithLun env arg name) Q E s ↔
      wp (flashNamed env arg name) Q E s₁ := by
  unfold withLun at h
  unfold flashWithLun
  cases hlun : lunOf name with
  | none =>
    rw [hlun] at h
    obtain rfl := Option.some.inj h
    exact ⟨rfl, Iff.rfl⟩
  | some lun =>
    simp only [hlun] at h
    split at h
    case isTrue => cases h
    case isFalse hmax =>
      obtain rfl := Option.some.inj h
      refine ⟨rfl, fun {Q E} => ?_⟩
      dsimp only
      rw [wp_bind, wp_modify, if_neg hmax, wp_bind, wp_modify]

theorem flashWithLun_of_not_reached {name : Text} (h : withLun name s = none) :
    wp (flashWithLun env arg name) (fun _ s' => Answered 1 s s') noExit s := by
  unfold withLun at h
  unfold flashWithLun
  cases hlun : lunOf name with
  | none =>
    rw [hlun] at h
    cases h
  | some lun =>
    simp only [hlun] at h
    split at h
    case isTrue hmax =>
      rw [wp_bind, wp_modify, if_pos hmax]
      exact ⟨[_], rfl, rfl⟩
    case isFalse => cases h

variable (hw : ∀ h, WriteEnds env.storage (env.blockIo h))
include hw

theorem cmdFlash_of_reached (h : flashReached env arg s = some s₁) :
    s₁.responses = s.responses ∧ ∀ {Q E}, wp (cmdFlash env arg) Q E s ↔
      wp (flashNamed env arg (asciiStrToUnicodeStr arg)) Q E s₁ := by
  unfold flashReached at h
  split at h
  case isTrue => cases h
  case isFalse hstart =>
    rw [not_or, not_or] at hstart
    obtain ⟨allowed, s', hexec, hchecked⟩ :=
      wp_returns (@checkCommand_answers env arg (exchanged s) hw)
    rw [hexec] at h
    cases allowed with
    | false => cases h
    | true =>
      obtain ⟨hsame, hrun⟩ := @flashWithLun_of_reached env arg _ _ _ h
      refine ⟨hsame.trans (hchecked.silent rfl), fun {Q E} => ?_⟩
      rw [wp_cmdFlash, if_neg hstart.1, if_neg hstart.2.1, wp_bind, wp_of_exec hexec,
        Bool.not_true, if_neg Bool.false_ne_true, if_neg hstart.2.2, hrun]

theorem cmdFlash_of_not_reached (h : flashReached env arg s = none) :
    wp (cmdFlash env arg) (fun _ s' => Answered 1 s s') noExit s := by
  rw [wp_cmdFlash, wp_ite]
  refine ⟨fun _ => ⟨[_], rfl, rfl⟩, fun hdata => ?_⟩
  refine .ite (fun _ => ⟨[_], rfl, rfl⟩) fun hname => ?_
  obtain ⟨allowed, s', hexec, hchecked⟩ :=
    wp_returns (@checkCommand_answers env arg (exchanged s) hw)
  rw [wp_bind, wp_of_exec hexec]
  cases allowed with
  | false =>
    obtain ⟨r, hr⟩ := hchecked.answered rfl
    exact ⟨[r], rfl, hr⟩
  | true =>
    have hsilent : Answered 0 s s' := answered_zero (hchecked.silent rfl)
    rw [Bool.not_true, if_neg Bool.false_ne_true, wp_ite]
    refine ⟨fun _ => ?_, fun hkey => ?_⟩
    · have hanswer : Answers (fun _ => True) 1
          (answerKey env.storeUserKey "Flashing avb_custom_key failed") :=
        .ite (fun _ => fail_answers _) fun _ => okay_answers _
      exact wp_imp (wp_answers_silent hsilent trivial hanswer) fun _ _ h => h.2
    · rw [flashReached, if_neg (by simp [hdata, hname, hkey]), hexec] at h
      refine wp_imp (flashWithLun_of_not_reached h) fun _ _ h => ?_
      have hboth := hsilent.trans h
      rwa [Nat.zero_add] at hboth

end Reached

/-- A flash command returns and has sent one response. -/
def AnsweredOnce (env : FlashEnv) (s : FlashState) (arg : List UInt8) : Prop :=
  ∃ s' r, (cmdFlash env arg).exec s = (.ok ⟨⟩, s') ∧ s'.responses = s.responses ++ [r]

theorem answeredOnce_iff {env : FlashEnv} {s : FlashState} {arg : List UInt8} :
    AnsweredOnce env s arg ↔ Sends 1 (cmdFlash env arg) s := by
  constructor
  · rintro ⟨s', r, hexec, hr⟩
    exact (wp_of_exec hexec).mpr ⟨[r], rfl, hr⟩
  · intro h
    obtain ⟨_, s', hexec, rs, hlen, hrs⟩ := wp_returns h
    obtain ⟨r, rfl⟩ := List.length_eq_one_iff.mp hlen
    exact ⟨s', r, hexec, hrs⟩

/-- **One answer.**  On a device whose write loops end, a flash command that meets `AnswersFlash`
    returns and has sent one response; and only such a command, unless it writes a partition
    table. -/
theorem cmdFlash_answers_once (env : FlashEnv) (s : FlashState) (arg : List UInt8)
    (hw : ∀ h, WriteEnds env.storage (env.blockIo h)) :
    (AnswersFlash env s arg → AnsweredOnce env s arg) ∧
      (namesTable env (asciiStrToUnicodeStr arg) = false → AnsweredOnce env s arg →
        AnswersFlash env s arg) := by
  rw [answeredOnce_iff]
  cases hreached : flashReached env arg s with
  | none =>
    refine ⟨fun _ => cmdFlash_of_not_reached hw hreached, fun _ _ s' h => ?_⟩
    rw [hreached] at h
    cases h
  | some s₁ =>
    obtain ⟨hsilent, hrun⟩ := cmdFlash_of_reached hw hreached
    have hsame : Sends 1 (cmdFlash env arg) s ↔
        Sends 1 (flashNamed env arg (asciiStrToUnicodeStr arg)) s₁ := by
      unfold Sends Answered
      rw [hrun, hsilent]
    simp only [AnswersFlash, hreached, Option.some.injEq, forall_eq', hsame]
    exact ⟨flashNamed_once hw, fun hname => (sends_flashNamed hw hname).mp⟩

/-- The device has no dynamic partitions. -/
def fixedFlashEnv : FlashEnv := { smallFlashEnv with isDynamicPartitionSupport := false }

theorem cmdFlash_answers_once_system :
    AnsweredOnce fixedFlashEnv smallFlashState (ascii "system") := by
  have hends : WriteEnds fixedFlashEnv.storage (fixedFlashEnv.blockIo 0) := ⟨by decide, by decide⟩
  refine (cmdFlash_answers_once fixedFlashEnv smallFlashState (ascii "system") fun _ => hends).1 ?_
  have hreached : flashReached fixedFlashEnv (ascii "system") smallFlashState =
      some (exchanged smallFlashState) := rfl
  intro s' h
  obtain rfl := Option.some.inj (hreached.symm.trans h)
  unfold AnswersNamed AnswersImage PassesOther
  rw [if_neg (by decide), if_neg (by decide), if_neg (by decide), if_neg (by decide)]
  have hinside : LunsInside False (handed (exchanged smallFlashState)) :=
    ⟨lunRangeFaults_unset rfl, False.elim⟩
  exact hinside.looksUp

def withDownload (image : List UInt8) : FlashState :=
  { smallFlashState with memory := fun a => image.getD (a - smallFlashState.usbDataBuffer) 0 }

def ablMetaImage : List UInt8 :=
  [0x3c, 0xd6, 0x1a, 0xce] ++ List.replicate 70 0 ++ [80, 0] ++ ascii "abl" ++
    List.replicate 69 0 ++ [160, 0, 0, 0] ++ [8, 0, 0, 0]

/-- A sparse image for a partition of exactly the maximal size is not answered, and a meta image
    with a critical entry is answered twice. -/
theorem cmdFlash_answers_none_or_twice :
    ((cmdFlash { smallFlashEnv with maxDownLoadSize := 65536 } (ascii "system")).exec
        (withDownload oneBlockFill)).2.responses = [] ∧
      ((cmdFlash smallFlashEnv (ascii "system")).exec
        { withDownload ablMetaImage with numDataBytes := 200 }).2.responses =
        [.fail "Flashing is not allowed for Critical Partitions\n",
          .fail "Error flashing partition : Error"] := by
  constructor
  · decide +kernel
  · decide +kernel

end OhMyAbl
