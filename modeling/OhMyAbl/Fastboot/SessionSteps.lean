/-
  **What one event of a session can do.**

  One rule for each routine between an event and the handler of a command: `AcceptCmd`
  puts a line off, answers it with the failure of the last flash, refuses it, or calls
  the handler that is registered for it.  The invariants of a session are read off these
  rules; none of them opens a routine again.
-/
import OhMyAbl.Fastboot.SessionFlash

namespace OhMyAbl

open Prog

/-! ### The line of an event -/

def lineOf (size : Nat) (rxBuffer : List UInt8) : List UInt8 :=
  (rxBuffer.take (min size MAX_FASTBOOT_COMMAND_SIZE)).takeWhile (· ≠ 0)

def commandLine (s : Session) : Event → Option (List UInt8)
  | .receive bytes _ =>
    match s.state, s.queued with
    | .ExpectCmdState, t :: rest =>
      some (lineOf bytes.length (storeBytes t bytes { s with queued := rest }).rxBuffer)
    | _, _ => none
  | .deferredCmd _ => s.deferred.head?.map fun size => lineOf size s.rxBuffer
  | _ => none

variable (env : SessionEnv)

def commandOf (s : Session) (e : Event) : Option (Handler × List UInt8) :=
  (commandLine s e).bind fun line =>
    (findCommand env line).map fun c => (c.2, line.drop c.1.length)

theorem takeWhile_lineOf (size : Nat) (rx : List UInt8) :
    (rx.take (min size MAX_FASTBOOT_COMMAND_SIZE) ++
      0 :: rx.drop (min size MAX_FASTBOOT_COMMAND_SIZE + 1)).takeWhile (· ≠ 0) =
        lineOf size rx := by
  unfold lineOf
  generalize rx.take (min size MAX_FASTBOOT_COMMAND_SIZE) = front
  induction front with
  | nil => rfl
  | cons c front ih =>
    rw [List.cons_append, List.takeWhile_cons, List.takeWhile_cons, ih]

/-! ### AcceptCmd -/

/-- What is known of a line that has passed the checks of `AcceptCmd`: no flash goes on, and none
    has failed since the last answer. -/
structure Passes (env : SessionEnv) (line : List UInt8) (s : Session) : Prop where
  complete : env.flash.isDisableParallelDownloadFlash = false →
    env.flash.isUseMThreadParallel = false → env.acceptCmdTimer = EFI_SUCCESS →
    isDownloadLine line = false → s.flash.isFlashComplete = true
  succeeded : env.flash.isDisableParallelDownloadFlash = false →
    (isFlashLine line || isDownloadLine line) = true → s.flash.flashResult = EFI_SUCCESS

def noteLine (line : List UInt8) (s : Session) : Session :=
  { s with trace := .line line :: s.trace }

def answerLastFlash (line : List UInt8) (s : Session) : Session :=
  { noteLine line s with
    flash := { s.flash with
      flashResult := EFI_SUCCESS
      responses := s.flash.responses ++ [.fail (responseText
        ("Error: Last flash failed : " ++ env.flash.statusText s.flash.flashResult))] } }

def noteCommand (h : Handler) (arg : List UInt8) (s : Session) : Session :=
  { s with trace := .command h arg :: s.trace }

section AcceptCmd

variable {env : SessionEnv} {served : Bool} {line : List UInt8} {s : Session}

theorem waitForFlash_spec (env : SessionEnv) (size : Nat) (line : List UInt8) (s : Session) :
    wp (waitForFlash env size line)
      (fun waits s' => KeepsData env s s' ∧
        (waits = true → s.flash.isFlashComplete = false) ∧
        (waits = false → env.flash.isDisableParallelDownloadFlash = false →
          env.flash.isUseMThreadParallel = false → env.acceptCmdTimer = EFI_SUCCESS →
          isDownloadLine line = false → s.flash.isFlashComplete = true)) noExit s := by
  have hstop : KeepsData env s { s with flash := (stopUsbTimer.exec s.flash).2 } :=
    onFlash_keepsData stopUsbTimer_keepsDownload s
  simp only [waitForFlash, wp_ite, wp_bind, onFlash, wp_zoom, wp_when, Session.flashLens]
  refine ⟨fun hskip => ⟨refl_of (KeepsData env) s, nofun, fun _ hpar _ _ hline => ?_⟩, fun _ =>
    ⟨fun hbusy => ?_, fun hidle => ⟨hstop, nofun, fun _ _ hthread _ _ => ?_⟩⟩⟩
  · simp [hpar, hline] at hskip
  · simp only [Bool.and_eq_true, Bool.not_eq_true'] at hbusy
    have hgoes : ∀ {P : Prop}, decide (env.acceptCmdTimer = EFI_SUCCESS) = false →
        env.acceptCmdTimer = EFI_SUCCESS → P := fun hgo htimer => by simp [htimer] at hgo
    refine ⟨fun _ => ⟨⟨hstop.flash, rfl, rfl, rfl, rfl, rfl, fun hthreads => ?_⟩, fun _ => hbusy.1,
      fun hgo _ _ htimer _ => hgoes hgo htimer⟩,
      fun _ => ⟨hstop, fun _ => hbusy.1, fun hgo _ _ htimer _ => hgoes hgo htimer⟩⟩
    rw [hthreads] at hbusy
    cases hbusy.2
  · simpa [hthread] using hidle

theorem checkLastFlash_spec (env : SessionEnv) (line : List UInt8) (s : Session) :
    wp (checkLastFlash env line)
      (fun goesOn s' =>
        (goesOn = true → s' = noteLine line s ∧
          (env.flash.isDisableParallelDownloadFlash = false →
            (isFlashLine line || isDownloadLine line) = true → s.flash.flashResult = EFI_SUCCESS)) ∧
        (goesOn = false → s' = answerLastFlash env line s ∧
          (isFlashLine line || isDownloadLine line) = true)) noExit s := by
  simp only [checkLastFlash, wp_bind, wp_ite]
  refine ⟨fun hfailed => ⟨fun h => (by cases h), fun _ => ⟨rfl, hfailed.2.2⟩⟩,
    fun hok => ⟨fun _ => ⟨rfl, fun hpar hline => ?_⟩, fun h => by cases h⟩⟩
  by_contra hne
  exact hok ⟨hpar, hne, hline⟩

theorem checkBattery_keepsData (env : SessionEnv) (line : List UInt8) :
    Steps (KeepsData env) (checkBattery env line) := by
  have hother : ∀ b : Bool, Steps (KeepsData env)
      (modify fun s => { s with isFirstEraseFlash := b } : SessionProg PUnit) :=
    fun _ => modify_keepsData fun _ => ⟨rfl, rfl, rfl, rfl, rfl, rfl, rfl⟩
  refine .bind .get fun _ => .ite (.pure _) (.ite (.ite (.ite (.bind ?_ fun _ => .pure _)
    (.bind (hother _) fun _ => .pure _)) (.pure _)) (.bind (.when (hother _)) fun _ => .pure _))
  exact onFlash_keepsData (fail_keepsDownload _)

theorem checkBattery_returns (env : SessionEnv) (line : List UInt8) :
    Returns (checkBattery env line) :=
  .bind .get fun _ => .ite (.pure _) (.ite (.ite (.ite (.bind (fun _ => trivial) fun _ => .pure _)
    (.bind (.modify _) fun _ => .pure _)) (.pure _)) (.bind (.when (.modify _)) fun _ => .pure _))

variable {E : Exit → Session → Prop} {Q : PUnit → Session → Prop}

theorem wp_dispatch (hunknown : ∀ s', KeepsData env s s' → Q ⟨⟩ s')
    (hhandled : ∀ c, findCommand env line = some c →
      wp (runHandler env served (line.drop c.1.length) c.2) Q E
        (noteCommand c.2 (line.drop c.1.length) s)) : wp (dispatch env served line) Q E s := by
  unfold dispatch
  cases hfind : findCommand env line with
  | none => exact hunknown _ (onFlash_keepsData (fail_keepsDownload _) s)
  | some c =>
    exact hhandled c hfind

theorem wp_acceptCmd {size : Nat} (hline : lineOf size s.rxBuffer = line)
    (hwaits : ∀ s', s.flash.isFlashComplete = false → KeepsData env s s' → Q ⟨⟩ s')
    (hlast : ∀ t, (isFlashLine line || isDownloadLine line) = true → KeepsData env s t →
      Q ⟨⟩ (answerLastFlash env line t))
    (hrefused : ∀ s', Passes env line s → KeepsData env (noteLine line s) s' → Q ⟨⟩ s')
    (hhandled : ∀ c t, findCommand env line = some c → Passes env line s →
      KeepsData env (noteLine line s) t →
      wp (runHandler env served (line.drop c.1.length) c.2) Q E
        (noteCommand c.2 (line.drop c.1.length) t)) : wp (acceptCmd env served size) Q E s := by
  simp only [acceptCmd, wp_bind, wp_modify, wp_get, takeWhile_lineOf, hline]
  refine wp_mono (waitForFlash_spec env _ line _) ?_ fun _ _ hfalse => hfalse.elim
  rintro waits s₁ ⟨hkeeps₁, hbusy, hidle⟩
  have hkeeps : KeepsData env s s₁ := { hkeeps₁ with }
  cases waits with
  | true => exact hwaits s₁ (hbusy rfl) hkeeps
  | false =>
    simp only [Bool.false_eq_true, if_false, wp_bind]
    refine wp_mono (checkLastFlash_spec env line s₁) ?_ fun _ _ hfalse => hfalse.elim
    rintro goesOn s₂ ⟨hgo, hstop⟩
    cases goesOn with
    | false =>
      obtain ⟨rfl, hchecked⟩ := hstop rfl
      exact hlast s₁ hchecked hkeeps
    | true =>
      obtain ⟨rfl, hsucceeded⟩ := hgo rfl
      have hpasses : Passes env line s :=
        ⟨fun hpar => hidle rfl hpar,
          fun hpar hflash => hkeeps.flash.flashResult ▸ hsucceeded hpar hflash⟩
      have hnoted : KeepsData env (noteLine line s) (noteLine line s₁) :=
        { hkeeps with trace := congrArg (Entry.line line :: ·) hkeeps.trace }
      simp only [Bool.not_true, Bool.false_eq_true, if_false, wp_bind]
      refine wp_mono (wp_and (wp_of_steps (checkBattery_keepsData env line))
        (checkBattery_returns env line _)) ?_ fun _ _ hfalse => hfalse.2.elim
      rintro ok s₃ ⟨hbattery, -⟩
      have hkeeps₃ : KeepsData env (noteLine line s) s₃ := trans_of (KeepsData env) hnoted hbattery
      cases ok with
      | false => exact hrefused s₃ hpasses hkeeps₃
      | true =>
        exact wp_dispatch (fun s' h => hrefused s' hpasses (trans_of (KeepsData env) hkeeps₃ h))
          fun c hfind => hhandled c s₃ hfind hpasses hkeeps₃

end AcceptCmd

/-! ### The handlers -/

def Entry.isIdle : Entry → Bool
  | .line _ => true
  | .command .erase _ => true
  | .command .other _ => true
  | .failed _ => true
  | _ => false

/-- The phase and what is queued are left alone, and nothing is recorded but what is idle; with
    threads no command is put off. -/
structure KeepsQueue (env : SessionEnv) (s s' : Session) : Prop where
  state : s'.state = s.state
  queued : s'.queued = s.queued
  trace : ∃ new, s'.trace = new ++ s.trace ∧ ∀ e ∈ new, e.isIdle = true
  deferred : env.flash.isUseMThreadParallel = true → s'.deferred = s.deferred

structure Idle (env : SessionEnv) (s s' : Session) : Prop extends KeepsQueue env s s' where
  flash : KeepsBuffers s.flash s'.flash
  bytesReceivedSoFar : s'.bytesReceivedSoFar = s.bytesReceivedSoFar

structure Flashed (env : SessionEnv) (s s' : Session) : Prop extends KeepsQueue env s s' where
  flash : HandsOver env.flash (exchanged s.flash) s'.flash

section Idle

variable {env : SessionEnv} {s s' s'' : Session}

theorem KeepsQueue.trans (h : KeepsQueue env s s') (h' : KeepsQueue env s' s'') :
    KeepsQueue env s s'' := by
  obtain ⟨new, hnew, hidle⟩ := h.trace
  obtain ⟨new', hnew', hidle'⟩ := h'.trace
  refine ⟨h'.state.trans h.state, h'.queued.trans h.queued, ⟨new' ++ new, ?_, ?_⟩, ?_⟩
  · rw [hnew', hnew, List.append_assoc]
  · intro e he
    rcases List.mem_append.mp he with he | he
    · exact hidle' e he
    · exact hidle e he
  · exact fun hthreads => (h'.deferred hthreads).trans (h.deferred hthreads)

theorem keepsQueue_of_eq (hstate : s'.state = s.state) (hqueued : s'.queued = s.queued)
    (htrace : s'.trace = s.trace)
    (hdeferred : env.flash.isUseMThreadParallel = true → s'.deferred = s.deferred) :
    KeepsQueue env s s' :=
  ⟨hstate, hqueued, ⟨[], htrace, by simp⟩, hdeferred⟩

instance : IsTrans Session (Idle env) where
  trans _ _ _ h h' := ⟨h.toKeepsQueue.trans h'.toKeepsQueue, trans_of KeepsBuffers h.flash h'.flash,
    h'.bytesReceivedSoFar.trans h.bytesReceivedSoFar⟩

theorem KeepsData.idle (h : KeepsData env s s') : Idle env s s' :=
  ⟨keepsQueue_of_eq h.state h.queued h.trace h.deferred, h.flash.keepsBuffers,
    h.bytesReceivedSoFar⟩

instance : Std.Refl (Idle env) := ⟨fun s => (refl_of (KeepsData env) s).idle⟩

theorem idle_note {e : Entry} (h : e.isIdle = true) :
    Idle env s { s with trace := e :: s.trace } :=
  ⟨⟨rfl, rfl, ⟨[e], rfl, by simpa using h⟩, fun _ => rfl⟩, refl_of KeepsBuffers s.flash, rfl⟩

theorem recordFailure_idle (status : EfiStatus) : Steps (Idle env) (recordFailure status) :=
  .when (.modify fun _ => idle_note rfl)

theorem answerLastFlash_idle (line : List UInt8) (s : Session) :
    Idle env s (answerLastFlash env line s) :=
  ⟨⟨rfl, rfl, ⟨[.line line], rfl, by simp [Entry.isIdle]⟩, fun _ => rfl⟩,
    ⟨⟨rfl, rfl, rfl, rfl⟩, rfl, rfl, fun _ hjob => hjob⟩, rfl⟩

theorem Flashed.then_idle (h : Flashed env s s') (h' : Idle env s' s'') : Flashed env s s'' := by
  obtain ⟨k, hk⟩ := h.flash.calls
  exact ⟨h.toKeepsQueue.trans h'.toKeepsQueue, h.flash.same.trans h'.flash.same,
    ⟨k, h'.flash.calls.trans hk⟩, fun job hjob => h.flash.jobs job (h'.flash.jobs job hjob)⟩

end Idle

theorem runFlash_flashed (served : Bool) (arg : List UInt8) (s : Session) :
    Flashed env s ((runFlash env served arg).exec s).2 := by
  have hflash : HandsOver env.flash (exchanged s.flash) ((cmdFlash env.flash arg).exec s.flash).2 :=
    cmdFlash_handsOver s.flash
  have hof : ∀ f, HandsOver env.flash (exchanged s.flash) f → Flashed env s { s with flash := f } :=
    fun _ h => ⟨keepsQueue_of_eq rfl rfl rfl fun _ => rfl, h⟩
  refine wp_final (R := Flashed env s) ?_
  simp only [runFlash, wp_bind, wp_get, onFlash, wp_zoom]
  refine wp_mono (wp_of_final hflash) (fun _ f h => ?_) fun _ f h => hof f h
  rw [wp_ite]
  refine ⟨fun _ => ?_, fun _ => wp_of_final ((hof f h).then_idle (recordFailure_idle _ _))⟩
  exact ⟨keepsQueue_of_eq rfl rfl rfl fun _ => rfl,
    ⟨h.same.1, h.same.2, h.same.3, h.same.4⟩, h.calls, h.jobs⟩

/-- A download command has set the count; a data phase has begun if the count is accepted. -/
structure Requested (env : SessionEnv) (arg : List UInt8) (s s' : Session) : Prop where
  flash : KeepsDownload { s.flash with numDataBytes := asciiStrHexToUint64 arg } s'.flash
  queued : s'.queued = s.queued
  trace : s'.trace = s.trace
  pending : s'.pending = s.pending
  deferred : s'.deferred = s.deferred
  phase : (s'.state = s.state ∧ s'.bytesReceivedSoFar = s.bytesReceivedSoFar) ∨
    (s'.state = .ExpectDataState ∧ s'.bytesReceivedSoFar = 0 ∧ 0 < asciiStrHexToUint64 arg ∧
      asciiStrHexToUint64 arg ≤ env.flash.maxDownLoadSize)

theorem cmdDownload_requested (arg : List UInt8) (s : Session) :
    Requested env arg s ((cmdDownload env arg).exec s).2 := by
  refine wp_final (R := Requested env arg s) ?_
  simp only [cmdDownload, wp_bind, wp_ite]
  have hfail : ∀ text, wp (fail text)
      (fun _ f => Requested env arg s { s with flash := f })
      (fun _ f => Requested env arg s { s with flash := f })
      { s.flash with numDataBytes := asciiStrHexToUint64 arg } :=
    fun text => wp_mono (wp_of_steps (fail_keepsDownload text))
      (fun _ _ h => ⟨h, rfl, rfl, rfl, rfl, .inl ⟨rfl, rfl⟩⟩)
      fun _ _ h => ⟨h, rfl, rfl, rfl, rfl, .inl ⟨rfl, rfl⟩⟩
  refine ⟨fun _ => hfail _, fun hpos => ⟨fun _ => hfail _, fun hle => ?_⟩⟩
  exact ⟨refl_of KeepsDownload _, rfl, rfl, rfl, rfl, .inr ⟨rfl, rfl, by omega, by omega⟩⟩

/-- `CmdBoot` leaves the download alone, but for the memory. -/
def Booted (env : SessionEnv) (s s' : Session) : Prop :=
  KeepsData env { s with flash := { s.flash with memory := s'.flash.memory } } s'

variable {s s' : Session}

/-- What the command of an event makes of the state `s` in which it was found. -/
inductive Commanded (env : SessionEnv) (cmd : Option (Handler × List UInt8)) (s s' : Session) : Prop
  | idle (h : Idle env s s')
  | flash {arg : List UInt8} {t : Session} (hcmd : cmd = some (.flash, arg)) (ht : Idle env s t)
      (h : Flashed env (noteCommand .flash arg t) s')
  | download {arg : List UInt8} {t : Session} (hcmd : cmd = some (.download, arg))
    (ht : Idle env s t)
      (h : Requested env arg (noteCommand .download arg t) s')
  | boot {arg : List UInt8} {t : Session} (hcmd : cmd = some (.boot, arg)) (ht : Idle env s t)
      (h : Booted env (noteCommand .boot arg t) s')

/-- All that a handler can do to the session. -/
theorem runHandler_commanded {env : SessionEnv} {served : Bool} {arg : List UInt8} {h : Handler}
    {t : Session} (ht : Idle env s t) :
    Commanded env (some (h, arg)) s
      ((runHandler env served arg h).exec (noteCommand h arg t)).2 := by
  have hidle : ∀ {t'}, h = .erase ∨ h = .other → KeepsData env (noteCommand h arg t) t' →
      Commanded env (some (h, arg)) s t' := by
    intro t' hh hkeeps
    have hnote : Idle env t (noteCommand h arg t) := idle_note (by rcases hh with rfl | rfl <;> rfl)
    exact .idle (trans_of (Idle env) ht (trans_of (Idle env) hnote hkeeps.idle))
  cases h with
  | flash => exact .flash rfl ht (runFlash_flashed env served arg _)
  | erase => exact hidle (.inl rfl) (onFlash_keepsData cmdErase_keepsDownload _)
  | download => exact .download rfl ht (cmdDownload_requested env arg _)
  | boot =>
    have hother := env.other.keeps t.flash
    exact .boot rfl ht
      ⟨{ hother with memory := rfl }, rfl, rfl, rfl, rfl, rfl, fun _ => rfl⟩
  | other => exact hidle (.inr rfl) (onFlash_keepsData (.modify env.other.keeps) _)

theorem acceptCmd_commanded (served : Bool) (size : Nat) (s : Session) :
    Commanded env ((findCommand env (lineOf size s.rxBuffer)).map fun c =>
      (c.2, (lineOf size s.rxBuffer).drop c.1.length)) s
        ((acceptCmd env served size).exec s).2 := by
  have hline : ∀ {line : List UInt8}, Idle env s (noteLine line s) := idle_note rfl
  refine wp_final ?_
  refine wp_acceptCmd rfl (fun _ _ h => .idle h.idle) (fun t _ h => .idle ?_)
    (fun _ _ h => .idle (trans_of (Idle env) hline h.idle)) fun c t hfind _ h => wp_of_final ?_
  · exact trans_of (Idle env) h.idle (answerLastFlash_idle _ t)
  · rw [hfind]
    exact runHandler_commanded (trans_of (Idle env) hline h.idle)

/-! ### The events -/

inductive Arrived (s : Session) : Event → Session → Prop
  | receive {bytes : List UInt8} {served : Bool} {t : Transfer} {rest : List Transfer}
      (hstate : s.state = .ExpectCmdState) (hqueued : s.queued = t :: rest) :
      Arrived s (.receive bytes served) (storeBytes t bytes { s with queued := rest })
  | deferredCmd {served : Bool} {size : Nat} {rest : List Nat}
    (hdeferred : s.deferred = size :: rest) :
      Arrived s (.deferredCmd served) { s with deferred := rest }

theorem Arrived.onlyQueued {s s₁ : Session} {e : Event} (h : Arrived s e s₁) :
    OnlyQueued s s₁ := by
  cases h with
  | @receive bytes _ t rest _ _ =>
    exact { storeBytes_stored t bytes { s with queued := rest } with }
  | deferredCmd _ => exact ⟨rfl, rfl, rfl, rfl, rfl, rfl, rfl, rfl, rfl⟩

def countedBytes (bytes : List UInt8) (s : Session) : Nat :=
  let remainingBytes := u64Sub s.flash.numDataBytes s.bytesReceivedSoFar
  if bytes.length > remainingBytes then remainingBytes else bytes.length

def count (bytes : List UInt8) (s : Session) : Session :=
  { s with
    bytesReceivedSoFar := s.bytesReceivedSoFar + countedBytes bytes s
    trace := .data (bytes.take (countedBytes bytes s)) :: s.trace }

def nextReceive (s : Session) : Transfer :=
  ⟨.memory (s.flash.usbDataBuffer + s.bytesReceivedSoFar), getXfrSize env s⟩

def firstReceive (s : Session) : Transfer :=
  match s.state with
  | .ExpectDataState => ⟨.memory s.flash.usbDataBuffer, getXfrSize env s⟩
  | .ExpectCmdState => ⟨.rxBuffer, getXfrSize env s⟩

inductive Effect (env : SessionEnv) (s : Session) : Event → Session → Prop
  | idle {e : Event} {s' : Session} (h : Idle env s s') : Effect env s e s'
  | sendDone : Effect env s .sendDone { s with queued := s.queued ++ [firstReceive env s] }
  | connected : Effect env s .connected { s with queued := s.queued ++ [⟨.rxBuffer, 511⟩] }
  | command {e : Event} {s₁ s' : Session} (h : Arrived s e s₁)
      (h' : Commanded env (commandOf env s e) s₁ s') : Effect env s e s'
  | data {bytes : List UInt8} {served : Bool} {t : Transfer} {rest : List Transfer} {s₁ : Session}
      (hstate : s.state = .ExpectDataState) (hqueued : s.queued = t :: rest)
      (hs₁ : s₁ = count bytes (storeBytes t bytes { s with queued := rest }))
      (hmore : s₁.bytesReceivedSoFar ≠ s₁.flash.numDataBytes) :
      Effect env s (.receive bytes served) { s₁ with queued := s₁.queued ++ [nextReceive env s₁] }
  | lastData {bytes : List UInt8} {served : Bool} {t : Transfer} {rest : List Transfer}
      {s₁ s' : Session} (hstate : s.state = .ExpectDataState) (hqueued : s.queued = t :: rest)
      (hs₁ : s₁ = count bytes (storeBytes t bytes { s with queued := rest }))
      (hall : s₁.bytesReceivedSoFar = s₁.flash.numDataBytes)
      (h : KeepsData env (downloaded env s₁) s') : Effect env s (.receive bytes served) s'

section Effect

variable {env : SessionEnv} {s : Session}

theorem commandOf_receive {bytes : List UInt8} {served : Bool} {t : Transfer}
    {rest : List Transfer} {s₁ : Session} (hstate : s.state = .ExpectCmdState)
    (hqueued : s.queued = t :: rest) (hs₁ : storeBytes t bytes { s with queued := rest } = s₁) :
    commandOf env s (.receive bytes served) =
      (findCommand env (lineOf bytes.length s₁.rxBuffer)).map fun c =>
        (c.2, (lineOf bytes.length s₁.rxBuffer).drop c.1.length) := by
  rw [← hs₁]
  simp [commandOf, commandLine, hstate, hqueued]

theorem dataReady_effect (bytes : List UInt8) (served : Bool) :
    Effect env s (.receive bytes served) ((dataReady env bytes served).exec s).2 := by
  refine wp_final ?_
  simp only [dataReady, wp_bind, wp_get]
  cases hqueued : s.queued with
  | nil => exact .idle (refl_of (Idle env) s)
  | cons t rest =>
    rw [wp_bind, wp_modify]
    generalize hs₁ : storeBytes t bytes { s with queued := rest } = s₁
    cases hstate : s.state with
    | ExpectCmdState =>
      have harrived : Arrived s (.receive bytes served) s₁ := hs₁ ▸ .receive hstate hqueued
      refine wp_of_final (.command harrived ?_)
      rw [commandOf_receive hstate hqueued hs₁]
      exact acceptCmd_commanded env served bytes.length s₁
    | ExpectDataState =>
      simp only [acceptData, wp_bind, wp_ite]
      have hcount : count bytes s₁ =
          count bytes (storeBytes t bytes { s with queued := rest }) := by
        rw [hs₁]
      refine ⟨fun hall => ?_, fun hmore => .data hstate hqueued hcount hmore⟩
      exact wp_mono finishData_spec (fun _ _ h => .lastData hstate hqueued hcount hall h)
        fun _ _ hfalse => hfalse.elim

theorem acceptCmdHandler_effect (served : Bool) :
    Effect env s (.deferredCmd served) ((acceptCmdHandler env served).exec s).2 := by
  refine wp_final ?_
  simp only [acceptCmdHandler, wp_bind, wp_get]
  cases hdeferred : s.deferred with
  | nil => exact .idle (refl_of (Idle env) s)
  | cons size rest =>
    rw [wp_bind, wp_modify]
    refine wp_of_final (.command (.deferredCmd hdeferred) ?_)
    have hcmd := acceptCmd_commanded env served size { s with deferred := rest }
    simpa only [commandOf, commandLine, hdeferred, List.head?_cons, Option.map_some,
      Option.bind_some] using hcmd

theorem endFlash_idle : Steps (Idle env) endFlash := by
  refine .bind .get fun s => ?_
  cases s.pending with
  | nil => exact .pure _
  | cons status rest =>
    refine .bind (.modify fun _ => ?_) fun _ =>
      .bind ((onFlash_keepsData stopUsbTimer_keepsDownload).mono fun _ _ h => h.idle) fun _ =>
        recordFailure_idle status
    exact ⟨keepsQueue_of_eq rfl rfl rfl fun _ => rfl,
      ⟨⟨rfl, rfl, rfl, rfl⟩, rfl, rfl, fun _ hjob => hjob⟩, rfl⟩

theorem onFlash_idle {α : Type} {m : FlashProg α} (h : Steps KeepsBuffers m) :
    Steps (Idle env) (onFlash m) :=
  fun s => ⟨keepsQueue_of_eq rfl rfl rfl fun _ => rfl, h s.flash, rfl⟩

theorem runThread_idle (i : Nat) : Steps (Idle env) (runThread env i) := by
  refine .bind .get fun s => ?_
  cases s.flash.jobs[i]? with
  | none => exact .pure _
  | some job =>
    have herase : Steps KeepsBuffers
        (modify fun s => { s with jobs := s.jobs.eraseIdx i } : FlashProg PUnit) :=
      .modify fun _ => ⟨⟨rfl, rfl, rfl, rfl⟩, rfl, rfl, fun _ hjob => List.mem_of_mem_eraseIdx hjob⟩
    refine .bind (onFlash_idle herase) fun _ =>
      .bind (onFlash_idle sparseImgFlashThread_keepsBuffers) fun _ => ?_
    split
    · exact recordFailure_idle _
    · exact .pure _

theorem prog_effect (e : Event) : Effect env s e ((e.prog env).exec s).2 := by
  cases e with
  | receive bytes served => exact dataReady_effect bytes served
  | sendDone =>
    have hqueues : ((processBulkXfrCompleteTx env).exec s).2 =
        { s with queued := s.queued ++ [firstReceive env s] } := by
      obtain ⟨_, state, _⟩ := s
      cases state with
      | ExpectCmdState => rfl
      | ExpectDataState => rfl
    exact hqueues ▸ .sendDone
  | connected => exact .connected
  | deferredCmd served => exact acceptCmdHandler_effect served
  | okayTimer => exact .idle (flashCompleteHandler_keepsData s).idle
  | flashEnd => exact .idle (endFlash_idle s)
  | thread i => exact .idle (runThread_idle i s)

variable {dev : Device} {e : Event} {s' : Session}

theorem step_cases (hstep : Session.step dev s (env, e) = some s') :
    s.stopped = false ∧ env.device = dev ∧ ((e.prog env).exec s = (.ok ⟨⟩, s') ∨
      ∃ x t, (e.prog env).exec s = (.error x, t) ∧ s' = { t with stopped := true }) := by
  unfold Session.step at hstep
  split at hstep
  case isTrue => cases hstep
  case isFalse henabled =>
    refine ⟨Bool.eq_false_iff.mpr fun hstopped => henabled (.inl hstopped),
      by_contra fun hdev => henabled (.inr (.inl hdev)), ?_⟩
    split at hstep
    case h_1 hexec =>
      cases hstep
      exact .inl hexec
    case h_2 x t hexec =>
      cases hstep
      exact .inr ⟨x, t, hexec, rfl⟩

theorem step_effect (hstep : Session.step dev s (env, e) = some s') :
    ∃ t, Effect env s e t ∧ (s' = t ∨ s' = { t with stopped := true }) := by
  have heffect : Effect env s e ((e.prog env).exec s).2 := prog_effect e
  obtain ⟨-, -, hexec | ⟨x, t, hexec, rfl⟩⟩ := step_cases hstep
  · rw [hexec] at heffect
    exact ⟨s', heffect, .inl rfl⟩
  · rw [hexec] at heffect
    exact ⟨t, heffect, .inr rfl⟩

end Effect

end OhMyAbl
