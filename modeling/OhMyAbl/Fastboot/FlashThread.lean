/-
  **The buffer of a flash thread and the buffer of the next download.**

  `LockFlash` keeps `ExchangeFlashAndUsbDataBuf` from exchanging the halves under a thread, but the
  thread takes it itself, when it first runs.  So the thread has three states: it was created, it
  runs and holds the lock, it has finished.
-/
import OhMyAbl.Fastboot.SessionSteps

namespace OhMyAbl

open Prog

/-! ### Sessions with flash threads -/

structure ThreadedSession where
  session : Session
  /-- The job of the thread that holds `LockFlash`. -/
  flashing : Option FlashInfo

namespace ThreadedSession

def unfinished (s : ThreadedSession) : List FlashInfo := s.flashing.toList ++ s.session.flash.jobs

end ThreadedSession

inductive ThreadedEvent where
  /-- An event of the main loop. -/
  | main (e : Event)
  /-- The thread of the `i`th job runs for the first time, and takes `LockFlash`. -/
  | start (i : Nat)
  /-- The thread that holds `LockFlash` has written its image. -/
  | finish
deriving DecidableEq, Repr

def handlerCalled (h : Handler) (s s' : Session) : Bool :=
  (s'.trace.take (s'.trace.length - s.trace.length)).any fun
    | .command h' _ => decide (h' = h)
    | _ => false

/-- `ExchangeFlashAndUsbDataBuf` takes `LockFlash`, and so does `WaitForFlashFinished` of
    `CmdErase` while a flash is going on. -/
def takesLockFlash (s s' : Session) : Bool :=
  handlerCalled .flash s s' || handlerCalled .erase s s' && !s.flash.isFlashComplete

/-- An event of the main loop that takes `LockFlash` happens only when the lock is free; a thread
    that has no buffer ends at once. -/
def ThreadedSession.step (dev : Device) : Machine ThreadedSession (SessionEnv × ThreadedEvent) :=
  fun s l =>
    match l.2 with
    | .main (.thread _) => none
    | .main e => (Session.step dev s.session (l.1, e)).bind fun s' =>
      if s.flashing.isSome && takesLockFlash s.session s' then none
        else some { s with session := s' }
    | .start i =>
      match s.session.flash.jobs[i]?, s.flashing with
      | some job, none =>
        let jobs := s.session.flash.jobs.eraseIdx i
        if job.flashDataBuffer = 0 then
          some ⟨{ s.session with flash := { s.session.flash with jobs := jobs } }, none⟩
        else
          some ⟨{ s.session with flash :=
            { s.session.flash with jobs := jobs, isFlashComplete := false } }, some job⟩
      | _, _ => none
    | .finish =>
      match s.flashing with
      | none => none
      | some job =>
        match (sparseImgFlashThread l.1.flash job).exec s.session.flash with
        | (.ok _, f) => some ⟨{ s.session with flash := f }, none⟩
        | (.error _, f) => some ⟨{ s.session with flash := f, stopped := true }, some job⟩

def Transfer.Touches (t : Transfer) (b size : Nat) : Prop :=
  ∃ addr, t.target = .memory addr ∧ addr < b + size ∧ b < addr + max t.size 1

def BuffersApart (dev : Device) (s : ThreadedSession) : Prop :=
  ∀ job ∈ s.unfinished, ∀ t ∈ s.session.queued,
    ¬ t.Touches job.flashDataBuffer dev.maxDownLoadSize

/-- A flash command comes only when every thread has taken `LockFlash`, and no receive into the
    download buffer is left behind the one that brought the command. -/
def ExchangesSafely (s : ThreadedSession) (l : SessionEnv × ThreadedEvent) : Prop :=
  match l.2 with
  | .main e => (commandOf l.1 s.session e).map Prod.fst = some .flash →
      s.session.flash.jobs = [] ∧ ∀ t ∈ s.session.queued.tail, t.target = .rxBuffer
  | _ => True

instance (s : ThreadedSession) (l : SessionEnv × ThreadedEvent) :
    Decidable (ExchangesSafely s l) := by
  unfold ExchangesSafely
  cases l.2 <;> infer_instance

/-! ### The two halves of the buffer -/

/-- The two halves are apart, and a receive into memory stays in the half of the downloads. -/
structure Halves (dev : Device) (base : Nat) (s : Session) : Prop where
  buffers : s.flash.usbDataBuffer = base ∧ s.flash.flashDataBuffer = base + dev.maxDownLoadSize ∨
    s.flash.usbDataBuffer = base + dev.maxDownLoadSize ∧ s.flash.flashDataBuffer = base
  counted : s.state = .ExpectDataState → s.bytesReceivedSoFar < s.flash.numDataBytes ∧
    s.flash.numDataBytes ≤ dev.maxDownLoadSize ∧ s.flash.numDataBytes ≤ MAX_UINT64
  targets : ∀ t ∈ s.queued, ∀ addr, t.target = .memory addr →
    s.flash.usbDataBuffer ≤ addr ∧ addr < s.flash.usbDataBuffer + dev.maxDownLoadSize ∧
      addr + t.size ≤ s.flash.usbDataBuffer + dev.maxDownLoadSize

section Halves

variable {dev : Device} {base : Nat} {env : SessionEnv} {e : Event} {s s₁ s' : Session}

theorem Halves.of_same (hs : Halves dev base s)
    (husb : s'.flash.usbDataBuffer = s.flash.usbDataBuffer)
    (hflash : s'.flash.flashDataBuffer = s.flash.flashDataBuffer)
    (hcounted : s'.state = .ExpectDataState → s'.bytesReceivedSoFar < s'.flash.numDataBytes ∧
      s'.flash.numDataBytes ≤ dev.maxDownLoadSize ∧ s'.flash.numDataBytes ≤ MAX_UINT64)
    (hqueued : ∀ t ∈ s'.queued, t ∈ s.queued) : Halves dev base s' where
  buffers := by
    rw [husb, hflash]
    exact hs.buffers
  counted := hcounted
  targets t ht := by
    rw [husb]
    exact hs.targets t (hqueued t ht)

theorem Halves.idle (hs : Halves dev base s) (h : Idle env s s') : Halves dev base s' := by
  refine hs.of_same h.flash.same.usbDataBuffer h.flash.same.flashDataBuffer ?_ ?_
  · rw [h.state, h.bytesReceivedSoFar, h.flash.same.numDataBytes]
    exact hs.counted
  · rw [h.queued]
    exact fun _ ht => ht

theorem Halves.receive (hs : Halves dev base s) {k : Nat}
    (hstate : s.state = .ExpectDataState) (hk : k ≤ s.bytesReceivedSoFar) :
    Halves dev base { s with queued := s.queued ++
      [⟨.memory (s.flash.usbDataBuffer + k), getXfrSize env s⟩] } where
  buffers := hs.buffers
  counted := hs.counted
  targets t ht := by
    obtain ⟨hreceived, hmax, hu64⟩ := hs.counted hstate
    have hsize : s.bytesReceivedSoFar + getXfrSize env s ≤ s.flash.numDataBytes :=
      getXfrSize_le hu64 rfl (Nat.le_of_lt hreceived) hstate
    rcases List.mem_append.mp ht with ht | ht
    · exact hs.targets t ht
    · rw [List.mem_singleton.mp ht]
      intro addr haddr
      cases haddr
      dsimp only
      omega

theorem Halves.receiveLine (hs : Halves dev base s) (size : Nat) :
    Halves dev base { s with queued := s.queued ++ [⟨.rxBuffer, size⟩] } where
  buffers := hs.buffers
  counted := hs.counted
  targets t ht := by
    rcases List.mem_append.mp ht with ht | ht
    · exact hs.targets t ht
    · rw [List.mem_singleton.mp ht]
      intro addr haddr
      cases haddr

theorem countedBytes_le (bytes : List UInt8) {t : Session}
    (hreceived : t.bytesReceivedSoFar ≤ t.flash.numDataBytes)
    (hu64 : t.flash.numDataBytes ≤ MAX_UINT64) :
    t.bytesReceivedSoFar + countedBytes bytes t ≤ t.flash.numDataBytes := by
  unfold countedBytes
  rw [u64Sub_eq hreceived hu64]
  dsimp only
  split <;> omega

theorem Halves.count (hs : Halves dev base s) {t : Transfer} {rest : List Transfer}
    (hstate : s.state = .ExpectDataState) (bytes : List UInt8)
    (hs₁ : s₁ = OhMyAbl.count bytes (storeBytes t bytes { s with queued := rest })) :
    s₁.state = .ExpectDataState ∧ s₁.flash.usbDataBuffer = s.flash.usbDataBuffer ∧
      s₁.flash.flashDataBuffer = s.flash.flashDataBuffer ∧ s₁.queued = rest ∧
      s₁.bytesReceivedSoFar ≤ s₁.flash.numDataBytes ∧
      s₁.flash.numDataBytes ≤ dev.maxDownLoadSize ∧ s₁.flash.numDataBytes ≤ MAX_UINT64 := by
  obtain ⟨hreceived, hmax, hu64⟩ := hs.counted hstate
  have hstored := storeBytes_stored t bytes { s with queued := rest }
  generalize storeBytes t bytes { s with queued := rest } = s₀ at hstored hs₁
  have hnum : s₀.flash.numDataBytes = s.flash.numDataBytes := hstored.numDataBytes
  have hbytes : s₀.bytesReceivedSoFar = s.bytesReceivedSoFar := hstored.bytesReceivedSoFar
  have hle : s₀.bytesReceivedSoFar + countedBytes bytes s₀ ≤ s₀.flash.numDataBytes :=
    countedBytes_le bytes (by omega) (by omega)
  subst hs₁
  refine ⟨hstored.state.trans hstate, hstored.usbDataBuffer, hstored.flashDataBuffer,
    hstored.queued, hle, ?_, ?_⟩
  · exact hnum ▸ hmax
  · exact hnum ▸ hu64

theorem Commanded.halves {cmd : Option (Handler × List UInt8)} (hs : Halves dev base s)
    (hdev : env.device = dev) (hstate : s.state = .ExpectCmdState)
    (hrest : cmd.map Prod.fst = some .flash → ∀ t ∈ s.queued, t.target = .rxBuffer)
    (h : Commanded env cmd s s') : Halves dev base s' := by
  cases h with
  | idle h => exact hs.idle h
  | @flash arg t hcmd ht h =>
    have hbuffers := (hs.idle ht).buffers
    refine ⟨?_, ?_, ?_⟩
    · -- the halves are exchanged
      rw [h.flash.same.usbDataBuffer, h.flash.same.flashDataBuffer]
      exact hbuffers.symm.imp And.symm And.symm
    · intro hdata
      rw [h.state] at hdata
      exact absurd (hdata.symm.trans (ht.state.trans hstate)) (by decide)
    · intro r hr addr haddr
      rw [h.queued] at hr
      have hrx := hrest (by rw [hcmd]; rfl) r (ht.queued ▸ hr)
      rw [hrx] at haddr
      cases haddr
  | @download arg t hcmd ht h =>
    have hidle := hs.idle ht
    refine hidle.of_same h.flash.usbDataBuffer h.flash.flashDataBuffer ?_ ?_
    · intro hdata
      rw [h.flash.numDataBytes]
      obtain ⟨hsame, -⟩ | ⟨-, hzero, hpos, hmax⟩ := h.phase
      · rw [hsame] at hdata
        exact absurd (hdata.symm.trans (ht.state.trans hstate)) (by decide)
      · rw [hzero]
        exact ⟨hpos, hdev ▸ hmax, asciiStrHexToUint64_le arg⟩
    · rw [h.queued]
      exact fun _ hr => hr
  | @boot arg t hcmd ht h =>
    have hidle := hs.idle ht
    refine hidle.of_same h.flash.usbDataBuffer h.flash.flashDataBuffer ?_ ?_
    · intro hdata
      rw [h.state] at hdata
      exact absurd (hdata.symm.trans (ht.state.trans hstate)) (by decide)
    · rw [h.queued]
      exact fun _ hr => hr

theorem Effect.halves (hs : Halves dev base s) (hdeferred : s.deferred = [])
    (hdev : env.device = dev) (hrest : (commandOf env s e).map Prod.fst = some .flash →
      ∀ t ∈ s.queued.tail, t.target = .rxBuffer) (h : Effect env s e s') : Halves dev base s' := by
  cases h with
  | idle h => exact hs.idle h
  | sendDone =>
    cases hstate : s.state with
    | ExpectDataState =>
      have hfirst : firstReceive env s = ⟨.memory (s.flash.usbDataBuffer + 0),
          getXfrSize env s⟩ := by
        rw [firstReceive, hstate]
        rfl
      rw [hfirst, ← hstate]
      exact hs.receive hstate (Nat.zero_le _)
    | ExpectCmdState =>
      have hfirst : firstReceive env s = ⟨.rxBuffer, getXfrSize env s⟩ := by
        rw [firstReceive, hstate]
      rw [hfirst, ← hstate]
      exact hs.receiveLine _
  | connected => exact hs.receiveLine _
  | command harrived hcmd =>
    cases harrived with
    | deferredCmd hsome =>
      rw [hdeferred] at hsome
      cases hsome
    | @receive bytes served t rest hstate hqueued =>
      have hstored := storeBytes_stored t bytes { s with queued := rest }
      have hqueue : (storeBytes t bytes { s with queued := rest }).queued = s.queued.tail := by
        rw [hstored.queued, hqueued]
        rfl
      refine Commanded.halves (hs.of_same hstored.usbDataBuffer hstored.flashDataBuffer ?_ ?_) hdev
        (hstored.state.trans hstate) (hqueue ▸ hrest) hcmd
      · intro hdata
        rw [hstored.state] at hdata
        exact absurd (hdata.symm.trans hstate) (by decide)
      · rw [hqueue]
        exact fun _ ht => List.mem_of_mem_tail ht
  | @data bytes _ t rest s₁ hstate hqueued hs₁ hmore =>
    obtain ⟨hdata, husb, hflash, hqueue, hreceived, hmax, hu64⟩ :=
      hs.count hstate bytes hs₁
    have hcounted : Halves dev base s₁ := by
      refine hs.of_same husb hflash (fun _ => ⟨Nat.lt_of_le_of_ne hreceived hmore, hmax, hu64⟩) ?_
      rw [hqueue, hqueued]
      exact fun _ ht => List.mem_cons_of_mem _ ht
    exact hcounted.receive hdata (Nat.le_refl _)
  | @lastData bytes _ t rest s₁ _ hstate hqueued hs₁ _ hkeeps =>
    obtain ⟨-, husb, hflash, hqueue, -, -, -⟩ := hs.count hstate bytes hs₁
    obtain ⟨len, hclear⟩ := clearRest_cases env s₁.flash
    have hdone : Halves dev base (downloaded env s₁) := by
      refine hs.of_same ?_ ?_ (fun hdata => by cases hdata) ?_
      · rw [downloaded, hclear]
        exact husb
      · rw [downloaded, hclear]
        exact hflash
      · rw [downloaded, hqueue, hqueued]
        exact fun _ ht => List.mem_cons_of_mem _ ht
    exact hdone.idle hkeeps.idle

end Halves

/-! ### The threads and the halves -/

section Handled

variable {env : SessionEnv} {e : Event} {s s' : Session}

theorem handlerCalled_of_trace {h : Handler} {arg : List UInt8} {new old : List Entry}
    (htrace : s'.trace = new ++ .command h arg :: (old ++ s.trace)) :
    handlerCalled h s s' = true := by
  have hsplit : s'.trace = (new ++ .command h arg :: old) ++ s.trace := by
    rw [htrace, List.append_assoc]
    rfl
  unfold handlerCalled
  rw [hsplit, List.length_append, Nat.add_sub_cancel, List.take_left, List.any_eq_true]
  exact ⟨.command h arg, by simp, decide_eq_true rfl⟩

theorem Arrived.deferred {s₁ : Session} (h : Arrived s e s₁) (hs : s.deferred = []) :
    s₁.deferred = [] := by
  cases h with
  | @receive bytes _ t rest _ _ =>
    exact (storeBytes_stored t bytes { s with queued := rest }).deferred.trans hs
  | deferredCmd hsome =>
    rw [hs] at hsome
    cases hsome

theorem downloaded_kept (env : SessionEnv) (s : Session) :
    (downloaded env s).flash.flashDataBuffer = s.flash.flashDataBuffer ∧
      (downloaded env s).flash.jobs = s.flash.jobs ∧ (downloaded env s).deferred = s.deferred := by
  obtain ⟨len, hclear⟩ := clearRest_cases env s.flash
  rw [downloaded, hclear]
  exact ⟨rfl, rfl, rfl⟩

theorem Effect.flashBuffer (h : Effect env s e s') :
    s'.flash.flashDataBuffer = s.flash.flashDataBuffer ∨
      (commandOf env s e).map Prod.fst = some .flash ∧ handlerCalled .flash s s' = true := by
  cases h with
  | idle h => exact .inl h.flash.same.flashDataBuffer
  | sendDone => exact .inl rfl
  | connected => exact .inl rfl
  | command harrived hcmd =>
    have hbuffer := harrived.onlyQueued.flashDataBuffer
    cases hcmd with
    | idle h => exact .inl (h.flash.same.flashDataBuffer.trans hbuffer)
    | @flash arg t hcmd ht h =>
      obtain ⟨old, hold, -⟩ := ht.trace
      obtain ⟨new, hnew, -⟩ := h.trace
      have htrace : s'.trace = new ++ .command .flash arg :: (old ++ s.trace) := by
        rw [hnew, noteCommand, hold, harrived.onlyQueued.trace]
      exact .inr ⟨by rw [hcmd]; rfl, handlerCalled_of_trace htrace⟩
    | download _ ht h =>
      exact .inl ((h.flash.flashDataBuffer.trans ht.flash.same.flashDataBuffer).trans hbuffer)
    | boot _ ht h =>
      exact .inl ((h.flash.flashDataBuffer.trans ht.flash.same.flashDataBuffer).trans hbuffer)
  | @data bytes _ t rest _ _ _ hs₁ _ =>
    subst hs₁
    exact .inl (storeBytes_stored t bytes { s with queued := rest }).flashDataBuffer
  | @lastData bytes _ t rest s₁ _ _ _ hs₁ _ hkeeps =>
    refine .inl (hkeeps.flash.flashDataBuffer.trans ((downloaded_kept env s₁).1.trans ?_))
    rw [hs₁]
    exact (storeBytes_stored t bytes { s with queued := rest }).flashDataBuffer

/-- `CreateSparseImgFlashThread` is the only place where a job is made, and it gives the job what is
    the flash buffer then. -/
theorem Effect.jobs (h : Effect env s e s') : ∀ job ∈ s'.flash.jobs, job ∈ s.flash.jobs ∨
    env.flash.isUseMThreadParallel = true ∧ job.flashDataBuffer = s'.flash.flashDataBuffer := by
  intro job hjob
  cases h with
  | idle h => exact .inl (h.flash.jobs job hjob)
  | sendDone => exact .inl hjob
  | connected => exact .inl hjob
  | command harrived hcmd =>
    rw [← harrived.onlyQueued.jobs]
    cases hcmd with
    | idle h => exact .inl (h.flash.jobs job hjob)
    | flash _ ht h =>
      rcases h.flash.jobs job hjob with hjob | ⟨hthreads, hbuffer⟩
      · exact .inl (ht.flash.jobs job hjob)
      · exact .inr ⟨hthreads, hbuffer.trans h.flash.same.flashDataBuffer.symm⟩
    | download _ ht h => exact .inl (ht.flash.jobs job (h.flash.jobs ▸ hjob))
    | boot _ ht h => exact .inl (ht.flash.jobs job (h.flash.jobs ▸ hjob))
  | @data bytes _ t rest _ _ _ hs₁ _ =>
    subst hs₁
    exact .inl ((storeBytes_stored t bytes { s with queued := rest }).jobs ▸ hjob)
  | @lastData bytes _ t rest s₁ _ _ _ hs₁ _ hkeeps =>
    rw [hkeeps.flash.jobs, (downloaded_kept env s₁).2.1, hs₁] at hjob
    exact .inl ((storeBytes_stored t bytes { s with queued := rest }).jobs ▸ hjob)

/-- With threads no command is put off, so that commands come only while they are expected. -/
theorem Effect.deferred (hthreads : env.flash.isUseMThreadParallel = true) (hs : s.deferred = [])
    (h : Effect env s e s') : s'.deferred = [] := by
  cases h with
  | idle h => exact (h.deferred hthreads).trans hs
  | sendDone => exact hs
  | connected => exact hs
  | command harrived hcmd =>
    have harrives := harrived.deferred hs
    cases hcmd with
    | idle h => exact (h.deferred hthreads).trans harrives
    | flash _ ht h => exact ((h.deferred hthreads).trans (ht.deferred hthreads)).trans harrives
    | download _ ht h => exact (h.deferred.trans (ht.deferred hthreads)).trans harrives
    | boot _ ht h => exact ((h.deferred hthreads).trans (ht.deferred hthreads)).trans harrives
  | @data bytes _ t rest _ _ _ hs₁ _ =>
    subst hs₁
    exact (storeBytes_stored t bytes { s with queued := rest }).deferred.trans hs
  | @lastData bytes _ t rest s₁ _ _ _ hs₁ _ hkeeps =>
    rw [hkeeps.deferred hthreads, (downloaded_kept env s₁).2.2, hs₁]
    exact (storeBytes_stored t bytes { s with queued := rest }).deferred.trans hs

end Handled

section Threads

variable {dev : Device} {base : Nat} {l : SessionEnv × ThreadedEvent} {s s' : ThreadedSession}

/-- A step is one of the session, or one of the flash thread, which leaves
    the buffers alone. -/
theorem ThreadedSession.step_cases (h : ThreadedSession.step dev s l = some s') :
    (∃ e, l.2 = .main e ∧ Session.step dev s.session (l.1, e) = some s'.session ∧
      s'.flashing = s.flashing ∧
      (s.flashing.isSome = true → takesLockFlash s.session s'.session = false)) ∨
    (∃ f stopped, s'.session = { s.session with flash := f, stopped := stopped } ∧
      SameBuffers s.session.flash f ∧ ∀ job ∈ s'.unfinished, job ∈ s.unfinished) := by
  obtain ⟨env, e⟩ := l
  cases e with
  | main e =>
    have hmain : (Session.step dev s.session (env, e)).bind (fun t =>
        if s.flashing.isSome && takesLockFlash s.session t then none
        else some { s with session := t }) = some s' := by
      cases e with
      | thread i => cases h
      | _ => exact h
    obtain ⟨t, ht, hlock⟩ := Option.bind_eq_some_iff.mp hmain
    split at hlock
    · cases hlock
    · rename_i hfree
      cases hlock
      refine .inl ⟨e, rfl, ht, rfl, ?_⟩
      intro hsome
      simpa [hsome] using hfree
  | start i =>
    simp only [ThreadedSession.step] at h
    split at h
    case h_2 => cases h
    case h_1 job hjob hfree =>
      have herased : ∀ job' ∈ s.session.flash.jobs.eraseIdx i, job' ∈ s.session.flash.jobs :=
        fun _ hjob' => List.mem_of_mem_eraseIdx hjob'
      have hmem : job ∈ s.session.flash.jobs := List.mem_of_getElem? hjob
      split at h
      · cases h
        refine .inr ⟨_, s.session.stopped, rfl, ⟨rfl, rfl, rfl, rfl⟩, ?_⟩
        intro job' hjob'
        exact List.mem_append_right _ (herased job' hjob')
      · cases h
        refine .inr ⟨_, s.session.stopped, rfl, ⟨rfl, rfl, rfl, rfl⟩, ?_⟩
        intro job' hjob'
        refine List.mem_append_right _ ?_
        rcases List.mem_cons.mp hjob' with rfl | hjob'
        · exact hmem
        · exact herased job' hjob'
  | finish =>
    simp only [ThreadedSession.step] at h
    split at h
    case h_1 => cases h
    case h_2 job hflashing =>
      have hbuffers : KeepsBuffers s.session.flash
          ((sparseImgFlashThread env.flash job).exec s.session.flash).2 :=
        sparseImgFlashThread_keepsBuffers _
      split at h
      case h_1 f hexec =>
        cases h
        rw [hexec] at hbuffers
        refine .inr ⟨f, s.session.stopped, rfl, hbuffers.same, ?_⟩
        exact fun job' hjob' => List.mem_append_right _ (hbuffers.jobs job' hjob')
      case h_2 f hexec =>
        cases h
        rw [hexec] at hbuffers
        refine .inr ⟨f, true, rfl, hbuffers.same, ?_⟩
        intro job' hjob'
        unfold ThreadedSession.unfinished
        rw [hflashing]
        rcases List.mem_append.mp hjob' with hjob' | hjob'
        · exact List.mem_append_left _ hjob'
        · exact List.mem_append_right _ (hbuffers.jobs job' hjob')

structure ThreadsApart (dev : Device) (base : Nat) (s : ThreadedSession) : Prop where
  deferred : s.session.deferred = []
  halves : Halves dev base s.session
  jobs : ∀ job ∈ s.unfinished, job.flashDataBuffer = s.session.flash.flashDataBuffer

theorem step_final {env : SessionEnv} {e : Event} {t t' : Session}
    (hstep : Session.step dev t (env, e) = some t') :
    env.device = dev ∧ ∃ stopped, t' = { ((e.prog env).exec t).2 with stopped := stopped } := by
  obtain ⟨-, hdev, hexec | ⟨x, u, hexec, rfl⟩⟩ := step_cases hstep
  · rw [hexec]
    exact ⟨hdev, t'.stopped, rfl⟩
  · rw [hexec]
    exact ⟨hdev, true, rfl⟩

theorem ThreadsApart.main {env : SessionEnv} {e : Event} (hs : ThreadsApart dev base s)
    (hthreads : dev.isUseMThreadParallel = true) (hsafe : ExchangesSafely s (env, .main e))
    (hstep : Session.step dev s.session (env, e) = some s'.session)
    (hflashing : s'.flashing = s.flashing)
    (hlock : s.flashing.isSome = true → takesLockFlash s.session s'.session = false) :
    ThreadsApart dev base s' := by
  obtain ⟨hdev, stopped, hfinal⟩ := step_final hstep
  have henv : env.flash.isUseMThreadParallel = true := by
    rw [← hdev] at hthreads
    exact hthreads
  have heffect : Effect env s.session e ((e.prog env).exec s.session).2 := prog_effect e
  generalize ((e.prog env).exec s.session).2 = t at heffect hfinal
  obtain ⟨session', flashing'⟩ := s'
  subst hfinal hflashing
  have hhalves := heffect.halves hs.halves hs.deferred hdev fun hcmd => (hsafe hcmd).2
  have hdeferred := heffect.deferred henv hs.deferred
  refine ⟨hdeferred, ⟨hhalves.buffers, hhalves.counted, hhalves.targets⟩, ?_⟩
  intro job hjob
  rcases heffect.flashBuffer with hsame | ⟨hcmd, hcalled⟩
  · have hold : ∀ job ∈ s.unfinished, job.flashDataBuffer = t.flash.flashDataBuffer :=
      fun job hjob => (hs.jobs job hjob).trans hsame.symm
    rcases List.mem_append.mp hjob with hjob | hjob
    · exact hold job (List.mem_append_left _ hjob)
    · rcases heffect.jobs job hjob with hjob | ⟨-, hbuffer⟩
      · exact hold job (List.mem_append_right _ hjob)
      · exact hbuffer
  · -- the exchange has waited for the lock, and no thread is left that has yet to take it
    have hfree : s.flashing = none := by
      rw [← Option.not_isSome_iff_eq_none]
      intro hsome
      have htakes := hlock hsome
      simp only [takesLockFlash, Bool.or_eq_false_iff] at htakes
      exact absurd (hcalled.symm.trans htakes.1) (by decide)
    rcases List.mem_append.mp hjob with hjob | hjob
    · rw [hfree] at hjob
      cases hjob
    · rcases heffect.jobs job hjob with hjob | ⟨-, hbuffer⟩
      · rw [(hsafe hcmd).1] at hjob
        cases hjob
      · exact hbuffer

theorem ThreadsApart.step (hs : ThreadsApart dev base s)
    (hthreads : dev.isUseMThreadParallel = true) (hsafe : ExchangesSafely s l)
    (hstep : ThreadedSession.step dev s l = some s') : ThreadsApart dev base s' := by
  obtain ⟨env, _⟩ := l
  obtain ⟨e, rfl, hmain, hflashing, hlock⟩ | ⟨f, stopped, hsession, hsame, hunfinished⟩ :=
    ThreadedSession.step_cases hstep
  · exact hs.main hthreads hsafe hmain hflashing hlock
  · refine ⟨?_, ?_, ?_⟩
    · rw [hsession]
      exact hs.deferred
    · rw [hsession]
      refine hs.halves.of_same hsame.usbDataBuffer hsame.flashDataBuffer ?_ fun _ ht => ht
      rw [hsame.numDataBytes]
      exact hs.halves.counted
    · intro job hjob
      rw [hsession]
      exact (hs.jobs job (hunfinished job hjob)).trans hsame.flashDataBuffer.symm

theorem unfinished_step (hthreads : dev.isUseMThreadParallel = false) (hs : s.unfinished = [])
    (hstep : ThreadedSession.step dev s l = some s') : s'.unfinished = [] := by
  obtain ⟨env, _⟩ := l
  obtain ⟨e, rfl, hmain, hflashing, -⟩ | ⟨f, stopped, -, -, hunfinished⟩ :=
    ThreadedSession.step_cases hstep
  · obtain ⟨hnone, hjobs⟩ := List.append_eq_nil_iff.mp hs
    obtain ⟨hdev, stopped, hfinal⟩ := step_final hmain
    have henv : env.flash.isUseMThreadParallel = false := by
      rw [← hdev] at hthreads
      exact hthreads
    have heffect : Effect env s.session e ((e.prog env).exec s.session).2 := prog_effect e
    unfold ThreadedSession.unfinished
    rw [hflashing, hnone, hfinal, List.nil_append, List.eq_nil_iff_forall_not_mem]
    intro job hjob
    rcases heffect.jobs job hjob with hold | ⟨htrue, -⟩
    · rw [hjobs] at hold
      cases hold
    · rw [henv] at htrue
      cases htrue
  · rw [List.eq_nil_iff_forall_not_mem]
    intro job hjob
    have hold := hunfinished job hjob
    rw [hs] at hold
    cases hold

theorem ThreadsApart.buffersApart (hs : ThreadsApart dev base s) : BuffersApart dev s := by
  rintro job hjob t ht ⟨addr, haddr, hbelow, habove⟩
  have htarget := hs.halves.targets t ht addr haddr
  rw [hs.jobs job hjob] at hbelow habove
  rcases hs.halves.buffers with ⟨husb, hflash⟩ | ⟨husb, hflash⟩
  · omega
  · omega

end Threads

/-- **A flash thread has its buffer for itself.**  In every session on storage other than NAND,
    under every schedule of the threads, in which a flash command comes only when every thread has
    taken `LockFlash` and no receive into the download buffer is left over, no receive is ever
    queued into the buffer of a thread that was created and has not finished. -/
theorem flashThread_buffers_apart (dev : Device) (base : Nat) (f : FlashState)
    (hnand : dev.rootDeviceType ≠ .NAND) (ls : List (SessionEnv × ThreadedEvent))
    (s : ThreadedSession)
    (hsafe : Machine.Along (ThreadedSession.step dev) ExchangesSafely
      ⟨fastbootCommandSetup dev base f, none⟩ ls)
    (hrun : Machine.run (ThreadedSession.step dev) ⟨fastbootCommandSetup dev base f, none⟩ ls =
      some s) :
    BuffersApart dev s := by
  cases hthreads : dev.isUseMThreadParallel with
  | true =>
    have hstart : ThreadsApart dev base ⟨fastbootCommandSetup dev base f, none⟩ := by
      refine ⟨rfl, ⟨.inl ⟨rfl, if_neg hnand⟩, nofun, nofun⟩, nofun⟩
    have hinv : ThreadsApart dev base s :=
      Machine.run_invariant_along (fun _ _ _ hs hsafe hstep => hs.step hthreads hsafe hstep) hstart
        hsafe hrun
    exact hinv.buffersApart
  | false =>
    have hinv : s.unfinished = [] :=
      Machine.run_invariant_along (fun _ _ _ hs _ hstep => unfinished_step hthreads hs hstep) rfl
        hsafe hrun
    intro job hjob
    rw [hinv] at hjob
    cases hjob

def flashImageEvents (size : String) (image : List UInt8) : List (SessionEnv × ThreadedEvent) :=
  [.receive (ascii ("download:" ++ size)) false, .sendDone, .receive image false, .sendDone,
    .receive (ascii "flash:system") false, .sendDone].map fun e => (threadSessionEnv, .main e)

def nextDownload : List (SessionEnv × ThreadedEvent) :=
  [.receive (ascii "download:4") false, .sendDone].map fun e => (threadSessionEnv, .main e)

def threadedStart : ThreadedSession :=
  ⟨fastbootCommandSetup threadSessionEnv.device 4096 smallFlashState, none⟩

/-- The next download goes to the other half while the thread runs. -/
theorem flashThread_buffers_apart_running : ∃ s,
    Machine.run (ThreadedSession.step threadSessionEnv.device) threadedStart
      ((threadSessionEnv, .main .connected) :: flashImageEvents "2c" oneBlockFill ++
        (threadSessionEnv, .start 0) :: nextDownload) = some s ∧
    s.unfinished.map (·.flashDataBuffer) = [4096] ∧ s.session.queued = [⟨.memory 8192, 4⟩] ∧
    BuffersApart threadSessionEnv.device s := by
  have hruns : (Machine.run (ThreadedSession.step threadSessionEnv.device) threadedStart
      ((threadSessionEnv, .main .connected) :: flashImageEvents "2c" oneBlockFill ++
        (threadSessionEnv, .start 0) :: nextDownload)).map
      (fun s => (s.unfinished.map (·.flashDataBuffer), s.session.queued)) =
      some ([4096], [⟨.memory 8192, 4⟩]) := by
    decide +kernel
  obtain ⟨s, hrun, hboth⟩ := Option.map_eq_some_iff.mp hruns
  obtain ⟨hjobs, hqueued⟩ := Prod.mk.inj hboth
  exact ⟨s, hrun, hjobs, hqueued, flashThread_buffers_apart threadSessionEnv.device 4096
    smallFlashState (by decide) _ s (by decide +kernel) hrun⟩

/-- A thread that has not run yet does not hold `LockFlash`: the second flash command exchanges the
    halves, and the third download is received into the buffer of the first thread. -/
theorem flashThread_buffer_received : ∃ s,
    Machine.run (ThreadedSession.step threadSessionEnv.device) threadedStart
      ((threadSessionEnv, .main .connected) :: flashImageEvents "2c" oneBlockFill ++
        flashImageEvents "4" [1, 2, 3, 4] ++ nextDownload) = some s ∧
    s.unfinished.map (·.flashDataBuffer) = [4096] ∧ s.session.queued = [⟨.memory 4096, 4⟩] ∧
    ¬ BuffersApart threadSessionEnv.device s := by
  have hruns : (Machine.run (ThreadedSession.step threadSessionEnv.device) threadedStart
      ((threadSessionEnv, .main .connected) :: flashImageEvents "2c" oneBlockFill ++
        flashImageEvents "4" [1, 2, 3, 4] ++ nextDownload)).map
      (fun s => (s.unfinished.map (·.flashDataBuffer), s.session.queued)) =
      some ([4096], [⟨.memory 4096, 4⟩]) := by
    decide +kernel
  obtain ⟨s, hrun, hboth⟩ := Option.map_eq_some_iff.mp hruns
  obtain ⟨hjobs, hqueued⟩ := Prod.mk.inj hboth
  refine ⟨s, hrun, hjobs, hqueued, ?_⟩
  intro hapart
  have hfirst : 4096 ∈ s.unfinished.map (·.flashDataBuffer) := by
    rw [hjobs]
    exact List.mem_cons_self
  obtain ⟨job, hjob, hbuffer⟩ := List.mem_map.mp hfirst
  refine hapart job hjob ⟨.memory 4096, 4⟩ ?_ ⟨4096, rfl, ?_, ?_⟩
  · rw [hqueued]
    exact List.mem_cons_self
  · rw [hbuffer]
    decide
  · rw [hbuffer]
    decide

end OhMyAbl
