/-
  **The failure of a flash that was answered before it ended.**

  The result of a large sparse image is kept in `FlashResult`, which `AcceptCmd` reports in answer
  to the next flash or download.  Under the timer this works; a thread has no such place for its
  result.
-/
import OhMyAbl.Fastboot.SessionSteps

namespace OhMyAbl

open Prog

/-! ### The flash ends before the command returns -/

def NoFlash (s : FlashState) : Prop := s.isFlashComplete = true ∧ s.jobs = []

section NoFlash

variable {env : FlashEnv} {name : Text} {α : Type} {s : FlashState} {m : FlashProg α}

theorem KeepsDownload.noFlash {s' : FlashState} (h : KeepsDownload s s') (hs : NoFlash s) :
    NoFlash s' :=
  ⟨h.isFlashComplete.trans hs.1, h.jobs.trans hs.2⟩

theorem maintains_noFlash (h : Steps KeepsDownload m) : Maintains NoFlash m :=
  .of_steps h fun _ _ h hs => h.noFlash hs

theorem maintains_noFlash_storage (h : Steps (StorageStep (fun _ => True) True) m) :
    Maintains NoFlash m :=
  maintains_noFlash (StorageSteps.keepsDownload h)

theorem handOver_noFlash : Maintains NoFlash handOver := .modify fun _ h => h

theorem answer_noFlash (n : Text) : Maintains NoFlash (answer env n) :=
  .bind .get fun _ => .ite (.bind (maintains_noFlash (fail_keepsDownload _)) fun _ =>
    .modify fun _ h => h)
    (maintains_noFlash (okay_keepsDownload _))

theorem flashSparseNow_noFlash (hs : s.jobs = []) :
    wp (flashSparseNow env name) (fun _ s' => NoFlash s') anyExit s := by
  simp only [flashSparseNow, handOver, wp_bind, wp_get, wp_modify]
  refine Steps.imp (StorageSteps.keepsDownload (sparseImgFlash_steps fun _ _ => trivial))
    fun _ s' h => ?_
  exact ⟨rfl, h.jobs.trans hs⟩

theorem startUsbTimer_jobs :
    Steps (fun s s' : FlashState => s'.jobs = s.jobs) (startUsbTimer env) := by
  intro s
  refine wp_final (R := fun s' : FlashState => s'.jobs = s.jobs) ?_
  simp only [startUsbTimer, handleUsbEventsInTimer, stopUsbTimer, wp_bind, wp_modify,
    wp_get, wp_ite, wp_pure]
  exact ⟨fun _ => ⟨fun _ => trivial, fun _ => trivial⟩, fun _ => ⟨fun _ => ⟨fun _ => trivial,
    fun _ => trivial⟩, fun _ => ⟨fun _ => trivial, fun _ => trivial⟩⟩⟩

theorem finishSparse_noFlash (hthread : env.isUseMThreadParallel = false) {size : Nat}
    {status : EfiStatus} (hs : s.jobs = []) :
    wp (finishSparse env name size status) (fun _ s' => NoFlash s') anyExit s := by
  have hruns : runsItself env size status = true := by simp [runsItself, hthread]
  simp only [finishSparse, wp_bind, hruns]
  exact wp_imp (flashSparseNow_noFlash hs)
    fun _ s' h => Maintains.when (answer_noFlash name) s' h

theorem flashSparseImg_noFlash (hthread : env.isUseMThreadParallel = false) :
    Maintains NoFlash (flashSparseImg env name) := by
  have hfail : ∀ text, Maintains NoFlash (fail text) :=
    fun text => maintains_noFlash (fail_keepsDownload text)
  refine .bind (maintains_noFlash_storage (resolveName_yields env name).steps) fun n =>
    .bind (maintains_noFlash_storage (partitionGetInfo_yields env n.name).steps) fun r => ?_
  cases r with
  | none => exact .bind (hfail _) fun _ => .pure _
  | some h =>
    refine .ite (.bind (hfail _) fun _ => .pure _)
      (.ite (.ite (.pure _) (.bind ?_ fun _ => .pure _))
      (.bind ?_ fun _ => .pure _))
    · intro s hs
      have htimer : Steps (fun s s' : FlashState => s'.jobs = s.jobs)
          (startParallel env n.name) := by
        simp only [startParallel, hthread]
        exact startUsbTimer_jobs
      refine Steps.seq htimer fun status s' h => ?_
      refine Steps.seq (.when (okay_keepsDownload _)) fun _ s'' h' => ?_
      exact finishSparse_noFlash hthread (h'.jobs.trans (h.trans hs.2))
    · exact fun s hs => finishSparse_noFlash hthread hs.2

theorem flashOther_noFlash {addr sz : Nat} {image : Bytes} :
    Maintains NoFlash (flashOther env name addr sz image) := by
  refine .ite (maintains_noFlash_storage (handleUbiImgFlash_steps permits_any))
    (.ite (.bind (maintains_noFlash fun s => ?_) fun _ => .pure _)
      (maintains_noFlash_storage (handleRawImgFlash_steps permits_any)))
  exact (handleMetaImgFlash_step s fun _ _ => permits_any).keepsDownload

theorem flashImage_noFlash (hthread : env.isUseMThreadParallel = false) :
    Maintains NoFlash (flashImage env name) :=
  .bind .get fun _ => .ite (flashSparseImg_noFlash hthread)
    (.bind handOver_noFlash fun _ => .bind flashOther_noFlash fun _ => .bind (.modify fun _ h => h)
      fun _ => .bind (answer_noFlash _) fun _ => .pure _)

theorem flashTable_noFlash : Maintains NoFlash (flashTable env name) := by
  have hfinish : ∀ status, Maintains NoFlash (finishTable env status) :=
    fun status => maintains_noFlash (finishTable_keepsDownload status)
  refine .bind (maintains_noFlash selectTableLun_keepsDownload) fun _ =>
    .bind (maintains_noFlash partitionDump_keepsDownload) fun _ => .ite ?_ ?_
  · exact .bind .get fun _ => .ite (.bind handOver_noFlash fun _ =>
      .bind (maintains_noFlash_storage (handleRawImgFlash_steps permits_any)) fun _ => hfinish _)
      (maintains_noFlash (fail_keepsDownload _))
  · refine .bind .get fun s => .bind handOver_noFlash fun _ => .bind ?_ hfinish
    refine .bind .get fun _ => .bind (.modify fun _ h => h) fun _ => .bind (.modify fun _ h => h)
      fun _ => .ite (fun _ _ => trivial) ?_
    exact .of_steps (R := fun s s' : FlashState => NoFlash s → NoFlash s')
      (.zoom_any fun _ _ h => h) fun _ _ h hs => h hs

theorem cmdFlash_noFlash (hthread : env.isUseMThreadParallel = false) {arg : List UInt8} :
    Maintains NoFlash (cmdFlash env arg) := by
  have hnamed : ∀ name, Maintains NoFlash (flashNamed env arg name) := by
    intro name
    unfold flashNamed
    split
    · exact .bind flashTable_noFlash fun _ => .modify fun _ h => h
    · exact .bind (flashImage_noFlash hthread) fun _ =>
        .when (maintains_noFlash (flashOut_keepsDownload arg))
  refine .bind (.modify fun _ h => h) fun _ => .bind (.modify fun _ h => h) fun _ =>
    .bind .get fun _ =>
    .ite (maintains_noFlash (fail_keepsDownload _)) (.ite (maintains_noFlash (fail_keepsDownload _))
      (.bind (maintains_noFlash checkCommand_keepsDownload) fun _ => .ite (.pure _)
        (.ite (maintains_noFlash (answerKey_keepsDownload _ _)) ?_)))
  unfold flashWithLun
  split
  · exact hnamed _
  · exact .bind (.modify fun _ h => h) fun _ => .ite
      (.bind (maintains_noFlash (fail_keepsDownload _)) fun _ =>
        maintains_noFlash (flashOut_keepsDownload arg))
      (.bind (.modify fun _ h => h) fun _ => hnamed _)

end NoFlash

/-! ### The failure that is still to be reported -/

def reports (line : List UInt8) : Bool := isFlashLine line || isDownloadLine line

/-- The failure of a flash since which no line of a flash or a download was taken up. -/
def owed : List Entry → Option EfiStatus
  | [] => none
  | .failed status :: _ => some status
  | .line line :: rest => if reports line then none else owed rest
  | _ :: rest => owed rest

/-- What holds along a session without threads: a flash that goes on keeps the next one waiting,
    and a failure that is still to be reported stands in `FlashResult`. -/
structure Owing (s : Session) : Prop where
  jobs : s.flash.jobs = []
  idle : s.pending = [] → s.flash.isFlashComplete = true
  busy : s.pending ≠ [] → s.flash.isFlashComplete = false ∧ owed s.trace = none
  pending : s.pending.length ≤ 1
  result : ∀ status, owed s.trace = some status →
    EFI_ERROR status = true ∧ s.flash.flashResult = status

/-- Neither the flash that goes on nor its result change, and nothing is recorded of either. -/
structure KeepsResult (s s' : Session) : Prop where
  flashResult : s'.flash.flashResult = s.flash.flashResult
  isFlashComplete : s'.flash.isFlashComplete = s.flash.isFlashComplete
  jobs : s'.flash.jobs = s.flash.jobs
  pending : s'.pending = s.pending
  owed : owed s'.trace = owed s.trace

section Owing

variable {env : SessionEnv} {s s' : Session} {line arg : List UInt8}

instance : Std.Refl KeepsResult := ⟨fun _ => ⟨rfl, rfl, rfl, rfl, rfl⟩⟩

instance : IsTrans Session KeepsResult where
  trans _ _ _ h h' :=
    ⟨h'.flashResult.trans h.flashResult, h'.isFlashComplete.trans h.isFlashComplete,
      h'.jobs.trans h.jobs, h'.pending.trans h.pending, h'.owed.trans h.owed⟩

theorem KeepsData.keepsResult (h : KeepsData env s s') : KeepsResult s s' :=
  ⟨h.flash.flashResult, h.flash.isFlashComplete, h.flash.jobs, h.pending, congrArg owed h.trace⟩

theorem Owing.keeps (hs : Owing s) (h : KeepsResult s s') : Owing s' := by
  refine ⟨h.jobs.trans hs.jobs, ?_, ?_, ?_, ?_⟩
  · rw [h.pending, h.isFlashComplete]
    exact hs.idle
  · rw [h.pending, h.isFlashComplete, h.owed]
    exact hs.busy
  · rw [h.pending]
    exact hs.pending
  · rw [h.owed, h.flashResult]
    exact hs.result

theorem owing_noteLine (hs : Owing s) : Owing (noteLine line s) := by
  have howed : owed (.line line :: s.trace) = none ∨ owed (.line line :: s.trace) =
      owed s.trace := by
    rw [owed]
    split
    · exact .inl rfl
    · exact .inr rfl
  refine ⟨hs.jobs, hs.idle, fun hbusy => ⟨(hs.busy hbusy).1, ?_⟩,
    hs.pending, fun status hstatus => ?_⟩
  · rcases howed with hnone | hsame
    · exact hnone
    · exact hsame.trans (hs.busy hbusy).2
  · change owed (.line line :: s.trace) = some status at hstatus
    rcases howed with hnone | hsame
    · rw [hnone] at hstatus
      cases hstatus
    · exact hs.result status (hsame.symm.trans hstatus)

variable {c : FastbootCmd} {status : EfiStatus} {served : Bool} {size : Nat} {e : Event}

theorem others_handler {names : List String} (hc : c ∈ others names) : c.2 = .other := by
  obtain ⟨n, -, rfl⟩ := List.mem_map.mp hc
  rfl

theorem registeredCommands_flash (hc : c ∈ registeredCommands env) (hflash : c.2 = .flash) :
    c.1 = ascii "flash:" := by
  have hothers : ∀ {names}, c ∉ others names := by
    intro names hmem
    rw [others_handler hmem] at hflash
    cases hflash
  have hif : ∀ {b : Bool} {names}, c ∉ (if b then others names else []) := by
    intro b names
    split
    · exact hothers
    · exact List.not_mem_nil
  simp only [registeredCommands, List.mem_flatten, List.mem_cons, List.not_mem_nil, or_false,
    exists_eq_or_imp, exists_eq_left, hothers, hif, false_or] at hc
  rcases hc with hupdate | hboot | rfl
  · split at hupdate
    · rcases List.mem_cons.mp hupdate with rfl | hrest
      · rfl
      · rcases List.mem_cons.mp hrest with rfl | hrest
        · cases hflash
        · exact absurd hrest hothers
    · cases hupdate
  · split at hboot
    · rw [List.mem_singleton.mp hboot] at hflash
      cases hflash
    · cases hboot
  · cases hflash

theorem isDownloadLine_of_flash (h : isFlashLine line = true) : isDownloadLine line = false := by
  have hflash : line.take 5 = (ascii "flash").take 5 := of_decide_eq_true h
  refine decide_eq_false fun hdownload => ?_
  have hfive := congrArg (List.take 5) hdownload
  rw [List.take_take, List.take_take] at hfive
  exact absurd (hflash.symm.trans hfive) (by decide)

theorem findCommand_flash (hfind : findCommand env line = some c) (hflash : c.2 = .flash) :
    isFlashLine line = true := by
  have hmem : c ∈ registeredCommands env :=
    List.mem_reverse.mp (List.mem_of_find?_eq_some hfind)
  have hstart := List.find?_some hfind
  rw [registeredCommands_flash hmem hflash] at hstart
  have htake : line.take 6 = (ascii "flash:").take 6 := of_decide_eq_true hstart
  refine decide_eq_true ?_
  have hfive := congrArg (List.take 5) htake
  rwa [List.take_take, List.take_take] at hfive

/-! ### One event -/

theorem recordFailure_owing (hs : Owing s) (hpending : s.pending = [])
    (hstatus : s.flash.flashResult = status) :
    wp (recordFailure status) (fun _ s' => Owing s') anyExit s := by
  rw [recordFailure, wp_when]
  refine ⟨fun herror => ?_, fun _ => hs⟩
  refine ⟨hs.jobs, hs.idle, fun hbusy => absurd hpending hbusy, hs.pending, fun st hst => ?_⟩
  cases hst
  exact ⟨herror, hstatus⟩

section

variable (hthread : env.flash.isUseMThreadParallel = false)
include hthread

theorem runFlash_owing (hs : Owing s) (hpending : s.pending = []) (hnone : owed s.trace = none) :
    wp (runFlash env served arg) (fun _ s' => Owing s') anyExit s := by
  simp only [runFlash, wp_bind, wp_get, onFlash, wp_zoom]
  refine wp_imp (cmdFlash_noFlash hthread s.flash ⟨hs.idle hpending, hs.jobs⟩) ?_
  rintro _ f ⟨hcomplete, hjobs⟩
  refine .ite (fun _ => ?_) fun _ => ?_
  · refine ⟨hjobs, fun h => (by cases h), fun _ => ⟨rfl, hnone⟩, ?_, fun st hst => ?_⟩
    · change (_ :: s.pending).length ≤ 1
      rw [hpending]
      exact Nat.le_refl 1
    · change owed s.trace = some st at hst
      rw [hnone] at hst
      cases hst
  · refine recordFailure_owing ⟨hjobs, fun _ => hcomplete, fun hbusy => absurd hpending hbusy,
      hs.pending, fun st hst => ?_⟩ hpending rfl
    change owed s.trace = some st at hst
    rw [hnone] at hst
    cases hst

theorem runHandler_owing {t : Session}
    (hparallel : env.flash.isDisableParallelDownloadFlash = false)
    (htimer : env.acceptCmdTimer = EFI_SUCCESS) (hs : Owing s)
    (hfind : findCommand env line = some c) (hpasses : Passes env line s)
    (ht : KeepsData env (noteLine line s) t) :
    wp (runHandler env served arg c.2) (fun _ s' => Owing s') anyExit
      (noteCommand c.2 arg t) := by
  have hline : Owing t := (owing_noteLine hs).keeps ht.keepsResult
  have hnoted : ∀ h, Owing (noteCommand h arg t) := fun _ => hline.keeps ⟨rfl, rfl, rfl, rfl, rfl⟩
  have hkeeps : ∀ {h} {m : SessionProg PUnit}, Steps KeepsResult m →
      wp m (fun _ s' => Owing s') anyExit (noteCommand h arg t) :=
    fun hm => wp_mono (wp_of_steps hm) (fun _ _ h => (hnoted _).keeps h) fun _ _ _ => trivial
  have hdata : ∀ {m : FlashProg PUnit}, Steps KeepsDownload m → Steps KeepsResult (onFlash m) := by
    intro m hm s
    have h : KeepsData env s ((onFlash m).exec s).2 := onFlash_keepsData hm s
    exact h.keepsResult
  cases hhandler : c.2 with
  | flash =>
    have hflash : isFlashLine line = true := findCommand_flash hfind hhandler
    have hreports : reports line = true := by rw [reports, hflash, Bool.true_or]
    have hcomplete : s.flash.isFlashComplete = true :=
      hpasses.complete hparallel hthread htimer (isDownloadLine_of_flash hflash)
    have hpending : s.pending = [] := by
      by_contra hbusy
      rw [(hs.busy hbusy).1] at hcomplete
      cases hcomplete
    refine runFlash_owing hthread (hnoted _) (ht.pending.trans hpending) ?_
    change owed t.trace = none
    rw [ht.trace]
    exact if_pos hreports
  | erase => exact hkeeps (hdata cmdErase_keepsDownload)
  | download =>
    refine hkeeps fun s => ?_
    have h := cmdDownload_requested env arg s
    exact ⟨h.flash.flashResult, h.flash.isFlashComplete, h.flash.jobs, h.pending,
      congrArg owed h.trace⟩
  | boot =>
    refine hkeeps fun s => ?_
    have h := env.other.keeps s.flash
    exact ⟨h.flashResult, h.isFlashComplete, h.jobs, rfl, rfl⟩
  | other => exact hkeeps (hdata (.modify env.other.keeps))

theorem acceptCmd_owing (hparallel : env.flash.isDisableParallelDownloadFlash = false)
    (htimer : env.acceptCmdTimer = EFI_SUCCESS) (hs : Owing s) :
    wp (acceptCmd env served size) (fun _ s' => Owing s') anyExit s := by
  refine wp_acceptCmd rfl (fun _ _ h => hs.keeps h.keepsResult) ?_
    (fun _ _ h => (owing_noteLine hs).keeps h.keepsResult)
    fun c t hfind hpasses ht => runHandler_owing hthread hparallel htimer hs hfind hpasses ht
  intro t hreports ht
  have hline : Owing t := hs.keeps ht.keepsResult
  have hnone : owed (.line (lineOf size s.rxBuffer) :: t.trace) = none := if_pos hreports
  refine ⟨hline.jobs, hline.idle, fun hbusy => ⟨(hline.busy hbusy).1, hnone⟩, hline.pending, ?_⟩
  intro status hstatus
  change owed (.line _ :: t.trace) = some status at hstatus
  rw [hnone] at hstatus
  cases hstatus

end

theorem downloaded_keepsResult (env : SessionEnv) (s : Session) :
    KeepsResult s (downloaded env s) := by
  obtain ⟨len, hclear⟩ := clearRest_cases env s.flash
  rw [downloaded, hclear]
  exact ⟨rfl, rfl, rfl, rfl, rfl⟩

theorem acceptData_owing (hs : Owing s) (bytes : List UInt8) :
    wp (acceptData env bytes) (fun _ s' => Owing s') anyExit s := by
  have hcount : Owing (count bytes s) := hs.keeps ⟨rfl, rfl, rfl, rfl, rfl⟩
  simp only [acceptData, wp_bind, wp_ite]
  refine ⟨fun _ => ?_, fun _ => hcount.keeps ⟨rfl, rfl, rfl, rfl, rfl⟩⟩
  refine wp_mono finishData_spec (fun _ s' h => ?_) fun _ _ _ => trivial
  exact (hcount.keeps (downloaded_keepsResult env _)).keeps h.keepsResult

theorem storeBytes_keepsResult (t : Transfer) (bytes : List UInt8) (rest : List Transfer) :
    KeepsResult s (storeBytes t bytes { s with queued := rest }) := by
  have h := storeBytes_stored t bytes { s with queued := rest }
  exact ⟨h.flashResult, h.isFlashComplete, h.jobs, h.pending, congrArg owed h.trace⟩

theorem endFlash_owing (hs : Owing s) : wp endFlash (fun _ s' => Owing s') anyExit s := by
  simp only [endFlash, wp_bind, wp_get]
  cases hpending : s.pending with
  | nil => exact hs
  | cons status rest =>
    have hlength := hs.pending
    rw [hpending, List.length_cons] at hlength
    obtain rfl : rest = [] := List.length_eq_zero_iff.mp (by omega)
    have hnone : owed s.trace = none := (hs.busy (by rw [hpending]; exact List.cons_ne_nil _ _)).2
    simp only [onFlash, Session.flashLens]
    refine recordFailure_owing ⟨hs.jobs, fun _ => rfl, fun hbusy => absurd rfl hbusy, Nat.zero_le 1,
      fun st hst => ?_⟩ rfl rfl
    rw [hnone] at hst
    cases hst

/-- The program of every event keeps the invariant. -/
theorem prog_owing (hthread : env.flash.isUseMThreadParallel = false)
    (hparallel : env.flash.isDisableParallelDownloadFlash = false)
    (htimer : env.acceptCmdTimer = EFI_SUCCESS) (hs : Owing s) :
    wp (e.prog env) (fun _ s' => Owing s') anyExit s := by
  have hkeeps : ∀ {m : SessionProg PUnit}, Steps KeepsResult m →
      wp m (fun _ s' => Owing s') anyExit s :=
    fun hm => wp_mono (wp_of_steps hm) (fun _ _ h => hs.keeps h) fun _ _ _ => trivial
  cases e with
  | receive bytes served =>
    simp only [Event.prog, dataReady, wp_bind, wp_get]
    cases s.queued with
    | nil => exact hs
    | cons t rest =>
      rw [wp_bind, wp_modify]
      have hstored : Owing (storeBytes t bytes { s with queued := rest }) :=
        hs.keeps (storeBytes_keepsResult t bytes rest)
      generalize storeBytes t bytes { s with queued := rest } = s₁ at hstored ⊢
      cases s.state with
      | ExpectDataState => exact acceptData_owing hstored bytes
      | ExpectCmdState => exact acceptCmd_owing hthread hparallel htimer hstored
  | sendDone =>
    refine hkeeps (.bind .get fun s => ?_)
    cases s.state with
    | ExpectDataState => exact .modify fun _ => ⟨rfl, rfl, rfl, rfl, rfl⟩
    | ExpectCmdState => exact .modify fun _ => ⟨rfl, rfl, rfl, rfl, rfl⟩
  | connected => exact hs.keeps ⟨rfl, rfl, rfl, rfl, rfl⟩
  | deferredCmd served =>
    simp only [Event.prog, acceptCmdHandler, wp_bind, wp_get]
    cases s.deferred with
    | nil => exact hs
    | cons size rest =>
      exact acceptCmd_owing hthread hparallel htimer (hs.keeps ⟨rfl, rfl, rfl, rfl, rfl⟩)
  | okayTimer =>
    exact hkeeps (flashCompleteHandler_keepsData.mono fun _ _ h => h.keepsResult)
  | flashEnd => exact endFlash_owing hs
  | thread i =>
    simp only [Event.prog, runThread, wp_bind, wp_get, hs.jobs]
    exact hs

def lastFlashFailed (env : SessionEnv) (status : EfiStatus) : Response :=
  .fail (responseText ("Error: Last flash failed : " ++ env.flash.statusText status))

section

variable (hparallel : env.flash.isDisableParallelDownloadFlash = false) (hs : Owing s)
  (howed : owed s.trace = some status)
include hparallel hs howed

theorem acceptCmd_reports (hline : lineOf size s.rxBuffer = line) (hreports : reports line = true) :
    wp (acceptCmd env served size)
      (fun _ s' => s'.flash.responses.getLast? = some (lastFlashFailed env status)) noExit s := by
  obtain ⟨herror, hresult⟩ := hs.result status howed
  -- the line gets behind neither of the checks, so it is answered
  have hbusy : s.flash.isFlashComplete = true := by
    refine hs.idle (by_contra fun hbusy => ?_)
    rw [(hs.busy hbusy).2] at howed
    cases howed
  have hstops : ¬ Passes env line s := by
    intro hpasses
    rw [← hresult, hpasses.succeeded hparallel hreports] at herror
    exact absurd herror (by decide)
  refine wp_acceptCmd hline (fun _ hwaits => ?_) (fun t _ ht => ?_)
    (fun _ hpasses => absurd hpasses hstops) fun _ _ _ hpasses => absurd hpasses hstops
  · rw [hbusy] at hwaits
    cases hwaits
  · rw [← hresult, ← ht.flash.flashResult]
    exact List.getLast?_concat

theorem prog_reports (hline : commandLine s e = some line) (hreports : reports line = true) :
    wp (e.prog env)
      (fun _ s' => s'.flash.responses.getLast? = some (lastFlashFailed env status)) noExit s := by
  cases e with
  | receive bytes served =>
    simp only [Event.prog, dataReady, wp_bind, wp_get]
    simp only [commandLine] at hline
    split at hline
    case h_2 => cases hline
    case h_1 t rest hstate hqueued =>
      rw [hqueued]
      rw [wp_bind, wp_modify]
      have hstored := storeBytes_keepsResult (s := s) t bytes rest
      generalize storeBytes t bytes { s with queued := rest } = s₁ at hline hstored ⊢
      rw [hstate]
      exact acceptCmd_reports hparallel (hs.keeps hstored) (hstored.owed.trans howed)
        (Option.some.inj hline) hreports
  | deferredCmd served =>
    simp only [Event.prog, acceptCmdHandler, wp_bind, wp_get]
    cases hdeferred : s.deferred with
    | nil => simp [commandLine, hdeferred] at hline
    | cons size rest =>
      have hsize : lineOf size s.rxBuffer = line := by simpa [commandLine, hdeferred] using hline
      exact acceptCmd_reports hparallel (hs.keeps ⟨rfl, rfl, rfl, rfl, rfl⟩) howed hsize hreports
  | _ => cases hline

end

end Owing

/-- **A failure that comes after the answer is reported.**  Without threads, if each command that
    has to wait for a flash can be put off, the first line of a flash or a download behind the
    failure of a flash is answered with FAIL because of it, in every session and on every schedule
    of the events. -/
theorem last_flash_reported (dev : Device) (base : Nat) (f : FlashState)
    (ls : List (SessionEnv × Event)) (env : SessionEnv) (e : Event) (s s' : Session)
    (line : List UInt8) (status : EfiStatus) (hthread : dev.isUseMThreadParallel = false)
    (hparallel : dev.isDisableParallelDownloadFlash = false)
    (htimer : ∀ l ∈ ls, l.1.acceptCmdTimer = EFI_SUCCESS)
    (hrun : Machine.run (Session.step dev) (fastbootCommandSetup dev base f) ls = some s)
    (howed : owed s.trace = some status) (hline : commandLine s e = some line)
    (hreports : reports line = true) (hstep : Session.step dev s (env, e) = some s') :
    s'.flash.responses.getLast? = some (lastFlashFailed env status) := by
  have hsteps : ∀ s l s', s.stopped = true ∨ Owing s → l.1.acceptCmdTimer = EFI_SUCCESS →
      Session.step dev s l = some s' → s'.stopped = true ∨ Owing s' := by
    rintro s l s' hs htimer hstep
    obtain ⟨hgoes, hdev, hexec | ⟨x, t, -, rfl⟩⟩ := step_cases hstep
    · rcases hs with hstopped | hs
      · rw [hgoes] at hstopped
        cases hstopped
      · subst hdev
        exact .inr (wp_ok (prog_owing hthread hparallel htimer hs) hexec)
    · exact .inl rfl
  have hstart : Owing (fastbootCommandSetup dev base f) :=
    ⟨rfl, fun _ => rfl, fun hbusy => absurd rfl hbusy, Nat.zero_le 1, nofun⟩
  obtain ⟨hgoes, hdev, hexec⟩ := step_cases hstep
  rcases Machine.run_invariant hsteps (.inr hstart) htimer hrun with hstopped | hs
  · rw [hgoes] at hstopped
    cases hstopped
  · subst hdev
    have hspec := prog_reports hparallel hs howed hline hreports
    obtain ⟨_, t, hreturns, hanswer⟩ := wp_returns hspec
    rcases hexec with hexec | ⟨x, t', hexec, -⟩
    · rw [hreturns] at hexec
      cases hexec
      exact hanswer
    · rw [hreturns] at hexec
      cases hexec

/-- The download of a sparse image that can not be flashed, and the command to flash it. -/
def sparseEvents (env : SessionEnv) (served : Bool) : List (SessionEnv × Event) :=
  [(env, .connected), (env, .receive (ascii "download:2c") false), (env, .sendDone),
    (env, .receive oneBlockFill false), (env, .sendDone),
      (env, .receive (ascii "flash:system") served)]

theorem last_flash_reported_download : ∃ s s',
    Machine.run (Session.step smallSessionEnv.device) smallSession
      (sparseEvents smallSessionEnv true ++
      [(smallSessionEnv, .flashEnd), (smallSessionEnv, .sendDone)]) = some s ∧
    owed s.trace = some EFI_INVALID_PARAMETER ∧
    Session.step smallSessionEnv.device s
      (smallSessionEnv, .receive (ascii "download:4") false) = some s' ∧
    s'.flash.responses.getLast? = some (lastFlashFailed smallSessionEnv EFI_INVALID_PARAMETER) := by
  have hruns : ((Machine.run (Session.step smallSessionEnv.device) smallSession
      (sparseEvents smallSessionEnv true ++
        [(smallSessionEnv, .flashEnd), (smallSessionEnv, .sendDone)])).bind fun s =>
      (Session.step smallSessionEnv.device s
        (smallSessionEnv, .receive (ascii "download:4") false)).map fun _ =>
        (owed s.trace, commandLine s (.receive (ascii "download:4") false))) =
      some (some EFI_INVALID_PARAMETER, some (ascii "download:4")) := by
    decide +kernel
  obtain ⟨s, hrun, hrest⟩ := Option.bind_eq_some_iff.mp hruns
  obtain ⟨s', hstep, hboth⟩ := Option.map_eq_some_iff.mp hrest
  obtain ⟨howed, hline⟩ := Prod.ext_iff.mp hboth
  refine ⟨s, s', hrun, howed, hstep, ?_⟩
  refine last_flash_reported smallSessionEnv.device 4096 smallFlashState _
    smallSessionEnv _ s s' _ _
    rfl rfl ?_ hrun howed hline (by decide) hstep
  intro l hl
  have henv : l.1 = smallSessionEnv := by
    simp only [sparseEvents, List.cons_append, List.nil_append, List.mem_cons, List.not_mem_nil,
      or_false] at hl
    rcases hl with rfl | rfl | rfl | rfl | rfl | rfl | rfl | rfl <;> rfl
  rw [henv]
  rfl

/-- The failure of a thread is not reported: the download behind it is accepted. -/
theorem thread_failure_unreported :
    ((Machine.run (Session.step threadSessionEnv.device)
      (fastbootCommandSetup threadSessionEnv.device 4096 smallFlashState)
      (sparseEvents threadSessionEnv false ++
        [(threadSessionEnv, .thread 0), (threadSessionEnv, .sendDone)])).bind fun s =>
      (Session.step threadSessionEnv.device s
        (threadSessionEnv, .receive (ascii "download:4") false)).map fun s' =>
        (owed s.trace, s'.flash.responses, s'.sent.getLast?)) =
      some (some EFI_INVALID_PARAMETER, [.okay "", .okay ""], some (dataResponse (ascii "4"))) := by
  decide +kernel

end OhMyAbl
