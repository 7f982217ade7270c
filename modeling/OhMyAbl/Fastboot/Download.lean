/-
  **The data phase of a download.**

  Between an accepted `CmdDownload` and its last byte, every completed receive is data.
  `DataPhase` is what holds in between: the count stays below the number that was asked
  for, and the receive that was queued last goes on exactly where the count stands.
-/
import OhMyAbl.Fastboot.Session

namespace OhMyAbl

open Prog

/-! ### The number of bytes -/

theorem hexDigit_lt {c : UInt8} {digit : Nat} (h : hexDigit c = some digit) : digit < 16 := by
  simp only [hexDigit, UInt8.le_iff_toNat_le] at h
  split_ifs at h with h₁ h₂ h₃
  · have hd := Option.some.inj h
    simp at h₁
    omega
  · have hd := Option.some.inj h
    simp at h₂
    omega
  · have hd := Option.some.inj h
    simp at h₃
    omega

theorem hexFrom_le (text : List UInt8) : ∀ {acc : Nat}, acc ≤ MAX_UINT64 →
    hexFrom acc text ≤ MAX_UINT64 := by
  induction text with
  | nil => exact fun h => h
  | cons c rest ih =>
    intro acc h
    rw [hexFrom]
    cases hdigit : hexDigit c with
    | none => exact h
    | some digit =>
      dsimp only
      split
      case isTrue => exact Nat.le_refl _
      case isFalse hfit =>
        have hlt := hexDigit_lt hdigit
        have hmax : MAX_UINT64 = 2 ^ 64 - 1 := rfl
        exact ih (by omega)

theorem asciiStrHexToUint64_le (text : List UInt8) : asciiStrHexToUint64 text ≤ MAX_UINT64 := by
  unfold asciiStrHexToUint64
  dsimp only
  split
  · exact Nat.zero_le _
  · split_ifs
    · exact hexFrom_le _ (Nat.zero_le _)
    · exact Nat.zero_le _
    · exact hexFrom_le _ (Nat.zero_le _)

/-! ### Steps that leave the download alone -/

instance : Std.Refl KeepsDownload := ⟨fun _ => ⟨rfl, rfl, rfl, rfl, rfl, rfl, rfl, rfl, rfl⟩⟩

instance : IsTrans FlashState KeepsDownload where
  trans _ _ _ h h' :=
    ⟨h'.memory.trans h.memory, h'.usbDataBuffer.trans h.usbDataBuffer,
      h'.flashDataBuffer.trans h.flashDataBuffer, h'.numDataBytes.trans h.numDataBytes,
      h'.flashNumDataBytes.trans h.flashNumDataBytes, h'.flashResult.trans h.flashResult,
      h'.isFlashComplete.trans h.isFlashComplete, h'.jobs.trans h.jobs, h'.calls.trans h.calls⟩

/-- The download is left alone; with threads no command is put off. -/
structure KeepsData (env : SessionEnv) (s s' : Session) : Prop where
  flash : KeepsDownload s.flash s'.flash
  state : s'.state = s.state
  bytesReceivedSoFar : s'.bytesReceivedSoFar = s.bytesReceivedSoFar
  queued : s'.queued = s.queued
  trace : s'.trace = s.trace
  pending : s'.pending = s.pending
  deferred : env.flash.isUseMThreadParallel = true → s'.deferred = s.deferred

section KeepsData

variable {env : SessionEnv}

instance : Std.Refl (KeepsData env) :=
  ⟨fun s => ⟨refl_of KeepsDownload s.flash, rfl, rfl, rfl, rfl, rfl, fun _ => rfl⟩⟩

instance : IsTrans Session (KeepsData env) where
  trans _ _ _ h h' :=
    ⟨trans_of KeepsDownload h.flash h'.flash, h'.state.trans h.state,
      h'.bytesReceivedSoFar.trans h.bytesReceivedSoFar, h'.queued.trans h.queued,
      h'.trace.trans h.trace, h'.pending.trans h.pending,
      fun hthreads => (h'.deferred hthreads).trans (h.deferred hthreads)⟩

theorem onFlash_keepsData {α : Type} {m : FlashProg α} (h : Steps KeepsDownload m) :
    Steps (KeepsData env) (onFlash m) :=
  fun s => ⟨h s.flash, rfl, rfl, rfl, rfl, rfl, fun _ => rfl⟩

theorem okay_keepsDownload (text : String) : Steps KeepsDownload (okay text) :=
  .modify fun _ => ⟨rfl, rfl, rfl, rfl, rfl, rfl, rfl, rfl, rfl⟩

theorem fail_keepsDownload (text : String) : Steps KeepsDownload (fail text) :=
  .modify fun _ => ⟨rfl, rfl, rfl, rfl, rfl, rfl, rfl, rfl, rfl⟩

theorem stopUsbTimer_keepsDownload : Steps KeepsDownload stopUsbTimer :=
  .modify fun _ => ⟨rfl, rfl, rfl, rfl, rfl, rfl, rfl, rfl, rfl⟩

theorem modify_keepsData {f : Session → Session} (h : ∀ s, (f s).flash = s.flash ∧
    (f s).state = s.state ∧ (f s).bytesReceivedSoFar = s.bytesReceivedSoFar ∧
    (f s).queued = s.queued ∧ (f s).trace = s.trace ∧ (f s).pending = s.pending ∧
    (f s).deferred = s.deferred) : Steps (KeepsData env) (modify f : SessionProg PUnit) := by
  refine .modify fun s => ?_
  obtain ⟨hflash, hstate, hbytes, hqueued, htrace, hpending, hdeferred⟩ := h s
  exact ⟨hflash ▸ refl_of KeepsDownload s.flash, hstate, hbytes, hqueued, htrace, hpending,
    fun _ => hdeferred⟩

theorem fastbootOkayDelay_keepsData : Steps (KeepsData env) (fastbootOkayDelay env) :=
  .ite (onFlash_keepsData (fail_keepsDownload _)) (.ite (onFlash_keepsData (fail_keepsDownload _))
    (modify_keepsData fun _ => ⟨rfl, rfl, rfl, rfl, rfl, rfl, rfl⟩))

theorem flashCompleteHandler_keepsData : Steps (KeepsData env) (flashCompleteHandler env) := by
  refine .bind .get fun s => .ite (.pure _) (.bind (onFlash_keepsData ?_) fun _ =>
    modify_keepsData fun _ => ⟨rfl, rfl, rfl, rfl, rfl, rfl, rfl⟩)
  exact .ite (okay_keepsDownload _) (fail_keepsDownload _)

end KeepsData

/-! ### One completion -/

/-- What holds while `n` bytes are received into the buffer at `usb`: the receive that was queued
    last starts at the first byte that is missing. -/
structure DataPhase (n usb : Nat) (s : Session) : Prop where
  numDataBytes : s.flash.numDataBytes = n
  usbDataBuffer : s.flash.usbDataBuffer = usb
  received : s.bytesReceivedSoFar ≤ n
  leaves : s.state = .ExpectDataState ↔ s.bytesReceivedSoFar < n
  queued : s.state = .ExpectDataState → ∃ size,
    s.queued.getLast? = some ⟨.memory (usb + s.bytesReceivedSoFar), size⟩ ∧
      s.bytesReceivedSoFar + size ≤ n

section DataPhase

variable {env : SessionEnv} {n usb : Nat} {s : Session}

theorem u64Sub_eq {a b : Nat} (hb : b ≤ a) (ha : a ≤ MAX_UINT64) : u64Sub a b = a - b := by
  have hmax : MAX_UINT64 = 2 ^ 64 - 1 := rfl
  exact u64Sub_of_le hb (by omega)

theorem getXfrSize_le (hn : n ≤ MAX_UINT64) (hnum : s.flash.numDataBytes = n)
    (hreceived : s.bytesReceivedSoFar ≤ n) (hstate : s.state = .ExpectDataState) :
    s.bytesReceivedSoFar + getXfrSize env s ≤ n := by
  unfold getXfrSize
  rw [hnum, u64Sub_eq hreceived hn]
  dsimp only
  split_ifs with h
  · omega
  · have hge : ¬ n - s.bytesReceivedSoFar < USB_BUFFER_SIZE env := fun hlt => h ⟨hstate, hlt⟩
    omega

theorem clearRest_cases (env : SessionEnv) (f : FlashState) : ∃ len,
    clearRest env f = { f with
      memory := f.memory.overwrite (f.usbDataBuffer + f.numDataBytes) len fun _ => 0 } := by
  unfold clearRest
  dsimp only
  split
  case isTrue => exact ⟨_, rfl⟩
  case isFalse => exact ⟨0, by rw [Bytes.overwrite_zero]⟩

def downloaded (env : SessionEnv) (s : Session) : Session :=
  { s with
    flash := clearRest env s.flash
    state := .ExpectCmdState
    trace := .completed :: s.trace }

theorem finishData_spec :
    wp (finishData env) (fun _ s' => KeepsData env (downloaded env s) s') noExit s := by
  have hanswer : Steps (KeepsData env) (if env.flash.isUseMThreadParallel then onFlash (okay "")
      else do
        onFlash stopUsbTimer
        fastbootOkayDelay env) :=
    .ite (onFlash_keepsData (okay_keepsDownload _))
      (.bind (onFlash_keepsData stopUsbTimer_keepsDownload) fun _ => fastbootOkayDelay_keepsData)
  have hreturns : Returns (if env.flash.isUseMThreadParallel then onFlash (okay "")
      else do
        onFlash stopUsbTimer
        fastbootOkayDelay env) :=
    .ite (fun _ => trivial) (.bind (fun _ => trivial) fun _ =>
      .ite (fun _ => trivial) (.ite (fun _ => trivial) (.modify _)))
  simp only [finishData, wp_bind, onFlash, wp_zoom, wp_modify, record, Session.flashLens]
  exact wp_mono (wp_and (wp_of_steps hanswer) (hreturns _)) (fun _ _ h => h.1) fun _ _ h => h.2

theorem acceptData_spec (hn : n ≤ MAX_UINT64) (hs : s.flash.numDataBytes = n)
    (husb : s.flash.usbDataBuffer = usb) (hreceived : s.bytesReceivedSoFar ≤ n)
    (hstate : s.state = .ExpectDataState) (bytes : List UInt8) :
    wp (acceptData env bytes) (fun _ s' => DataPhase n usb s') noExit s := by
  simp only [acceptData, wp_bind, wp_get, wp_modify, record, wp_ite, hs,
    u64Sub_eq hreceived hn, husb]
  generalize hsize : (if bytes.length > n - s.bytesReceivedSoFar then n - s.bytesReceivedSoFar
    else bytes.length) = size
  have hle : s.bytesReceivedSoFar + size ≤ n := by
    rw [← hsize]
    split <;> omega
  refine ⟨fun hall => ?_, fun hmore => ?_⟩
  · refine wp_imp finishData_spec ?_
    intro _ s' hkeeps
    obtain ⟨len, hclear⟩ := clearRest_cases env s.flash
    have hcmd : s'.state = .ExpectCmdState := hkeeps.state
    have hcount : s'.bytesReceivedSoFar = n := hkeeps.bytesReceivedSoFar.trans hall
    refine ⟨?_, ?_, Nat.le_of_eq hcount, ?_, ?_⟩
    · rw [hkeeps.flash.numDataBytes, downloaded, hclear]
      exact hs
    · rw [hkeeps.flash.usbDataBuffer, downloaded, hclear]
      exact husb
    · rw [hcmd, hcount]
      simp
    · rw [hcmd]
      rintro ⟨⟩
  · refine ⟨hs, husb, hle, ?_, fun _ => ⟨_, List.getLast?_concat, ?_⟩⟩
    · simp only [hstate, true_iff]
      omega
    · exact getXfrSize_le hn hs hle hstate

theorem dataPhase_start (env : SessionEnv) (hn : n ≤ MAX_UINT64) (hpos : 0 < n)
    (hs : s.flash.numDataBytes = n)
    (husb : s.flash.usbDataBuffer = usb) (hzero : s.bytesReceivedSoFar = 0)
    (hstate : s.state = .ExpectDataState) :
    wp (processBulkXfrCompleteTx env) (fun _ s' => DataPhase n usb s') noExit s := by
  have hle : s.bytesReceivedSoFar ≤ n := hzero ▸ Nat.zero_le n
  simp only [processBulkXfrCompleteTx, wp_bind, wp_get, hstate, queueReceive, wp_modify]
  refine ⟨hs, husb, hle, ?_, fun _ => ⟨getXfrSize env s, ?_, ?_⟩⟩
  · simp only [hzero, true_iff]
    exact hpos
  · simp [hzero, husb]
  · exact getXfrSize_le hn hs hle hstate

theorem cmdDownload_accepted {arg : List UInt8} {s' : Session} (hcmd : s.state = .ExpectCmdState)
    (hrun : (cmdDownload env arg).exec s = (.ok ⟨⟩, s')) (hdata : s'.state = .ExpectDataState) :
    0 < asciiStrHexToUint64 arg ∧ asciiStrHexToUint64 arg ≤ env.flash.maxDownLoadSize ∧
      s'.flash.numDataBytes = asciiStrHexToUint64 arg ∧
      s'.flash.usbDataBuffer = s.flash.usbDataBuffer ∧ s'.bytesReceivedSoFar = 0 := by
  have hspec : wp (cmdDownload env arg) (fun _ s' => s'.state = .ExpectDataState →
      0 < asciiStrHexToUint64 arg ∧ asciiStrHexToUint64 arg ≤ env.flash.maxDownLoadSize ∧
      s'.flash.numDataBytes = asciiStrHexToUint64 arg ∧
      s'.flash.usbDataBuffer = s.flash.usbDataBuffer ∧ s'.bytesReceivedSoFar = 0) noExit s := by
    simp only [cmdDownload, wp_bind, onFlash, wp_zoom, wp_modify, wp_ite, Session.flashLens, hcmd]
    refine ⟨fun _ h => (by cases h), fun hne =>
      ⟨fun _ h => (by cases h), fun hle _ => ⟨?_, ?_, ?_⟩⟩⟩
    · omega
    · omega
    · exact ⟨trivial, trivial, trivial⟩
  exact wp_ok hspec hrun hdata

structure OnlyQueued (s s' : Session) : Prop where
  numDataBytes : s'.flash.numDataBytes = s.flash.numDataBytes
  usbDataBuffer : s'.flash.usbDataBuffer = s.flash.usbDataBuffer
  flashDataBuffer : s'.flash.flashDataBuffer = s.flash.flashDataBuffer
  flashResult : s'.flash.flashResult = s.flash.flashResult
  isFlashComplete : s'.flash.isFlashComplete = s.flash.isFlashComplete
  jobs : s'.flash.jobs = s.flash.jobs
  calls : s'.flash.calls = s.flash.calls
  trace : s'.trace = s.trace
  pending : s'.pending = s.pending

structure Stored (s s' : Session) : Prop extends OnlyQueued s s' where
  state : s'.state = s.state
  bytesReceivedSoFar : s'.bytesReceivedSoFar = s.bytesReceivedSoFar
  queued : s'.queued = s.queued
  deferred : s'.deferred = s.deferred

theorem storeBytes_stored (t : Transfer) (bytes : List UInt8) (s : Session) :
    Stored s (storeBytes t bytes s) := by
  unfold storeBytes
  cases t.target with
  | rxBuffer => exact ⟨⟨rfl, rfl, rfl, rfl, rfl, rfl, rfl, rfl, rfl⟩, rfl, rfl, rfl, rfl⟩
  | memory addr => exact ⟨⟨rfl, rfl, rfl, rfl, rfl, rfl, rfl, rfl, rfl⟩, rfl, rfl, rfl, rfl⟩

def dataStep (dev : Device) : Machine Session (SessionEnv × List UInt8) := fun s l =>
  if s.state = .ExpectDataState then Session.step dev s (l.1, .receive l.2 false) else none

/-- Every packet keeps the data phase. -/
theorem dataStep_phase {dev : Device} {s' : Session} {l : SessionEnv × List UInt8}
    (hn : n ≤ MAX_UINT64) (hs : DataPhase n usb s) (hstep : dataStep dev s l = some s') :
    DataPhase n usb s' := by
  unfold dataStep at hstep
  split at hstep
  case isFalse => cases hstep
  case isTrue hstate =>
    obtain ⟨size, hlast, -⟩ := hs.queued hstate
    have hspec : wp (dataReady l.1 l.2 false) (fun _ s' => DataPhase n usb s') noExit s := by
      simp only [dataReady, wp_bind, wp_get]
      cases hqueue : s.queued with
      | nil => simp [hqueue] at hlast
      | cons t rest =>
        simp only [hstate]
        rw [wp_bind, wp_modify]
        -- where the bytes go is of no importance for the count
        have hstored := storeBytes_stored t l.2 { s with queued := rest }
        refine acceptData_spec hn ?_ ?_ ?_ (hstored.state.trans hstate) _
        · exact hstored.numDataBytes.trans hs.numDataBytes
        · exact hstored.usbDataBuffer.trans hs.usbDataBuffer
        · exact Nat.le_trans (Nat.le_of_eq hstored.bytesReceivedSoFar) hs.received
    obtain ⟨_, s'', hexec, hphase⟩ := wp_returns hspec
    unfold Session.step at hstep
    split at hstep
    case isTrue => cases hstep
    case isFalse =>
      simp only [Event.prog, hexec, Option.some.injEq] at hstep
      exact hstep ▸ hphase

end DataPhase

/-- **The data phase of a download.**  After a download command that was accepted, and the
    completion of its `DATA` response, any run of data completions counts no more than the bytes
    asked for, which are at most `MaxDownLoadSize`, leaves the data state exactly with the last
    of them, and the receive that is queued last covers a range of the buffer that starts at the
    first byte not yet received and ends inside it. -/
theorem download_data_phase (dev : Device) (env env' : SessionEnv) (arg : List UInt8)
    (s₀ s₁ s₂ s₃ : Session) (completions : List (SessionEnv × List UInt8))
    (hdev : env.device = dev) (hcmd : s₀.state = .ExpectCmdState)
    (hdownload : (cmdDownload env arg).exec s₀ = (.ok ⟨⟩, s₁))
    (haccepted : s₁.state = .ExpectDataState)
    (hsent : Session.step dev s₁ (env', .sendDone) = some s₂)
    (hrun : Machine.run (dataStep dev) s₂ completions = some s₃) :
    asciiStrHexToUint64 arg ≤ dev.maxDownLoadSize ∧
      DataPhase (asciiStrHexToUint64 arg) s₀.flash.usbDataBuffer s₃ := by
  obtain ⟨hpos, hmax, hnum, husb, hzero⟩ := cmdDownload_accepted hcmd hdownload haccepted
  have hn := asciiStrHexToUint64_le arg
  have hstart : DataPhase (asciiStrHexToUint64 arg) s₀.flash.usbDataBuffer s₂ := by
    obtain ⟨_, s', hexec, hphase⟩ := wp_returns
      (dataPhase_start env' hn hpos hnum husb hzero haccepted)
    unfold Session.step at hsent
    split at hsent
    case isTrue => cases hsent
    case isFalse =>
      simp only [Event.prog, hexec, Option.some.injEq] at hsent
      exact hsent ▸ hphase
  refine ⟨?_, ?_⟩
  · rw [← hdev]
    exact hmax
  · have hsteps : ∀ s l s', DataPhase (asciiStrHexToUint64 arg) s₀.flash.usbDataBuffer s → True →
        dataStep dev s l = some s' →
        DataPhase (asciiStrHexToUint64 arg) s₀.flash.usbDataBuffer s' :=
      fun s l s' hs _ hstep => dataStep_phase hn hs hstep
    exact Machine.run_invariant hsteps hstart (fun _ _ => trivial) hrun

theorem download_data_phase_ten :
    ∃ s₁ s₂ s₃,
      (cmdDownload smallSessionEnv (ascii "0000000a")).exec smallSession = (.ok ⟨⟩, s₁) ∧
      Session.step smallSessionEnv.device s₁ (smallSessionEnv, .sendDone) = some s₂ ∧
      Machine.run (dataStep smallSessionEnv.device) s₂ [(smallSessionEnv, [1, 2, 3, 4])] = some s₃ ∧
      s₃.bytesReceivedSoFar = 4 ∧
      DataPhase (asciiStrHexToUint64 (ascii "0000000a")) smallSession.flash.usbDataBuffer s₃ := by
  refine ⟨_, _, _, rfl, rfl, rfl, rfl, ?_⟩
  exact (download_data_phase smallSessionEnv.device smallSessionEnv smallSessionEnv
    (ascii "0000000a") smallSession _ _ _ [(smallSessionEnv, [1, 2, 3, 4])] rfl rfl rfl rfl rfl
    rfl).2

end OhMyAbl
