/-
  **Which image a flash command of a session passes on.**

  The length of an image is set by every download command, also by one that is refused, and the two
  halves of the buffer are exchanged by every flash command.  What is said of the past of a session
  is read off the trace.
-/
import OhMyAbl.Fastboot.SessionSteps

namespace OhMyAbl

open Prog

/-! ### Reading a trace -/

def lastRequest : List Entry → Option (List UInt8)
  | [] => none
  | .command .download arg :: _ => some arg
  | _ :: rest => lastRequest rest

def requested (dev : Device) (trace : List Entry) : Nat :=
  match lastRequest trace with
  | none => dev.maxDownLoadSize
  | some arg => asciiStrHexToUint64 arg

def arriving : List Entry → List UInt8
  | [] => []
  | .data bytes :: rest => arriving rest ++ bytes
  | .command .download _ :: _ => []
  | _ :: rest => arriving rest

def payload : List Entry → Option (List UInt8)
  | [] => none
  | .completed :: rest => some (arriving rest)
  | _ :: rest => payload rest

/-- Neither a download, a flash nor a boot command came after the last download was completed. -/
def isFresh (trace : List Entry) : Bool :=
  trace.find? (fun e => !e.isIdle) == some .completed

section Trace

variable {e : Entry} {new trace : List Entry}

theorem append_idle {β : Type} {f : List Entry → β}
    (hf : ∀ e rest, e.isIdle = true → f (e :: rest) = f rest)
    (hnew : ∀ e ∈ new, e.isIdle = true) : f (new ++ trace) = f trace := by
  induction new with
  | nil => rfl
  | cons e new ih =>
    rw [List.cons_append, hf e _ (hnew e List.mem_cons_self)]
    exact ih fun e' he' => hnew e' (List.mem_cons_of_mem e he')

theorem lastRequest_idle (e : Entry) (rest : List Entry) (h : e.isIdle = true) :
    lastRequest (e :: rest) = lastRequest rest := by
  rcases e with _ | ⟨_ | _ | _ | _ | _, _⟩ | _ | _ | _
  all_goals first | rfl | cases h

theorem arriving_idle (e : Entry) (rest : List Entry) (h : e.isIdle = true) :
    arriving (e :: rest) = arriving rest := by
  rcases e with _ | ⟨_ | _ | _ | _ | _, _⟩ | _ | _ | _
  all_goals first | rfl | cases h

theorem payload_idle (e : Entry) (rest : List Entry) (h : e.isIdle = true) :
    payload (e :: rest) = payload rest := by
  rcases e with _ | ⟨_ | _ | _ | _ | _, _⟩ | _ | _ | _
  all_goals first | rfl | cases h

theorem isFresh_idle (e : Entry) (rest : List Entry) (h : e.isIdle = true) :
    isFresh (e :: rest) = isFresh rest := by
  unfold isFresh
  rw [List.find?_cons_of_neg (by simp [h])]

end Trace

/-! ### The length of what is passed -/

/-- A flash command is handled only if the last download command did not ask for more than fits. -/
def FlashFits (dev : Device) (s : Session) (l : SessionEnv × Event) : Prop :=
  (commandOf l.1 s l.2).map Prod.fst = some .flash →
    ∀ request ∈ lastRequest s.trace, asciiStrHexToUint64 request ≤ dev.maxDownLoadSize

instance (dev : Device) (s : Session) (l : SessionEnv × Event) : Decidable (FlashFits dev s l) :=
  inferInstanceAs (Decidable (_ → _))

/-- The count is the one of the last download command, and every image that was passed fits. -/
structure Bounded (dev : Device) (s : Session) : Prop where
  numDataBytes : s.flash.numDataBytes = requested dev s.trace
  calls : ∀ c ∈ s.flash.calls, c.size ≤ dev.maxDownLoadSize

section Bounded

variable {dev : Device} {env : SessionEnv} {s s₁ s' : Session} {e : Event}

theorem requested_append_idle {new trace : List Entry} (hnew : ∀ e ∈ new, e.isIdle = true) :
    requested dev (new ++ trace) = requested dev trace := by
  unfold requested
  rw [append_idle lastRequest_idle hnew]

theorem Bounded.idle (hs : Bounded dev s) (h : Idle env s s') : Bounded dev s' := by
  obtain ⟨new, hnew, hidle⟩ := h.trace
  refine ⟨?_, h.flash.calls ▸ hs.calls⟩
  rw [h.flash.same.numDataBytes, hs.numDataBytes, hnew, requested_append_idle hidle]

theorem Commanded.bounded (hs : Bounded dev s) (hfits : FlashFits dev s₁ (env, e))
    (htrace : s₁.trace = s.trace) (h : Commanded env (commandOf env s₁ e) s s') :
      Bounded dev s' := by
  cases h with
  | idle h => exact hs.idle h
  | @flash arg t hcmd ht h =>
    have hbounded : Bounded dev t := hs.idle ht
    obtain ⟨new, hnew, hidle⟩ := h.trace
    obtain ⟨k, hk⟩ := h.flash.calls
    have hrequested : requested dev s'.trace = requested dev t.trace := by
      rw [hnew, requested_append_idle hidle]
      rfl
    refine ⟨?_, ?_⟩
    · rw [hrequested, h.flash.same.numDataBytes]
      exact hbounded.numDataBytes
    · intro c hc
      rw [hk] at hc
      rcases List.mem_append.mp hc with hc | hc
      · exact hbounded.calls c hc
      · rw [List.eq_of_mem_replicate hc]
        have hnum : t.flash.numDataBytes = requested dev s.trace :=
          ht.flash.same.numDataBytes.trans hs.numDataBytes
        change t.flash.numDataBytes ≤ _
        rw [hnum, requested]
        cases hlast : lastRequest s.trace with
        | none => exact Nat.le_refl _
        | some request => exact hfits (congrArg (Option.map Prod.fst) hcmd) request (htrace ▸ hlast)
  | @download arg t hcmd ht h =>
    refine ⟨?_, ?_⟩
    · rw [h.flash.numDataBytes, h.trace]
      rfl
    · rw [h.flash.calls]
      exact (hs.idle ht).calls
  | @boot arg t hcmd ht h =>
    have hbounded : Bounded dev t := hs.idle ht
    refine ⟨?_, ?_⟩
    · rw [h.flash.numDataBytes, h.trace]
      exact hbounded.numDataBytes
    · rw [h.flash.calls]
      exact hbounded.calls

theorem Bounded.count (hs : Bounded dev s) (bytes : List UInt8) (t : Transfer)
    (rest : List Transfer) :
    Bounded dev (count bytes (storeBytes t bytes { s with queued := rest })) := by
  have hstored := storeBytes_stored t bytes { s with queued := rest }
  refine ⟨?_, ?_⟩
  · change (storeBytes t bytes { s with queued := rest }).flash.numDataBytes =
      requested dev (storeBytes t bytes { s with queued := rest }).trace
    rw [hstored.numDataBytes, hstored.trace]
    exact hs.numDataBytes
  · change ∀ c ∈ (storeBytes t bytes { s with queued := rest }).flash.calls, _
    rw [hstored.calls]
    exact hs.calls

theorem Effect.bounded (hs : Bounded dev s) (hfits : FlashFits dev s (env, e))
    (h : Effect env s e s') : Bounded dev s' := by
  cases h with
  | idle h => exact hs.idle h
  | sendDone => exact ⟨hs.numDataBytes, hs.calls⟩
  | connected => exact ⟨hs.numDataBytes, hs.calls⟩
  | command harrived hcmd =>
    have hkept := harrived.onlyQueued
    refine Commanded.bounded ⟨?_, hkept.calls ▸ hs.calls⟩ hfits hkept.trace.symm hcmd
    rw [hkept.numDataBytes, hkept.trace]
    exact hs.numDataBytes
  | @data bytes _ t rest s₁ _ _ hs₁ _ =>
    have hcounted : Bounded dev s₁ := hs₁ ▸ hs.count bytes t rest
    exact ⟨hcounted.numDataBytes, hcounted.calls⟩
  | @lastData bytes _ t rest s₁ _ _ _ hs₁ _ hkeeps =>
    have hcounted : Bounded dev s₁ := hs₁ ▸ hs.count bytes t rest
    obtain ⟨len, hclear⟩ := clearRest_cases env s₁.flash
    have hdone : Bounded dev (downloaded env s₁) := by
      unfold downloaded
      rw [hclear]
      exact ⟨hcounted.numDataBytes, hcounted.calls⟩
    exact hdone.idle hkeeps.idle

theorem Bounded.step {l : SessionEnv × Event} (hs : Bounded dev s) (hfits : FlashFits dev s l)
    (hstep : Session.step dev s l = some s') : Bounded dev s' := by
  obtain ⟨t, heffect, rfl | rfl⟩ := step_effect hstep
  · exact heffect.bounded hs hfits
  · have ht := heffect.bounded hs hfits
    exact ⟨ht.numDataBytes, ht.calls⟩

end Bounded

/-- **The bound of the flash buffer.**  In every session in which each flash command comes after a
    download command that asked for no more than `MaxDownLoadSize`, or before any, the length of
    every image that is passed on is at most `MaxDownLoadSize`. -/
theorem flash_within_buffer (dev : Device) (base : Nat) (f : FlashState)
    (ls : List (SessionEnv × Event)) (s : Session)
    (hfits : Machine.Along (Session.step dev) (FlashFits dev) (fastbootCommandSetup dev base f) ls)
    (hrun : Machine.run (Session.step dev) (fastbootCommandSetup dev base f) ls = some s) :
    ∀ c ∈ s.flash.calls, c.size ≤ dev.maxDownLoadSize := by
  have hstart : Bounded dev (fastbootCommandSetup dev base f) := ⟨rfl, nofun⟩
  have hinv : Bounded dev s :=
    Machine.run_invariant_along (fun _ _ _ hs hfits hstep => hs.step hfits hstep) hstart hfits hrun
  exact hinv.calls

def downloadAndFlash (env : SessionEnv) : List (SessionEnv × Event) :=
  [(env, .connected), (env, .receive (ascii "download:4") false), (env, .sendDone),
    (env, .receive [1, 2, 3, 4] false), (env, .sendDone),
      (env, .receive (ascii "flash:system") false)]

theorem flash_within_buffer_system : ∃ s,
    Machine.run (Session.step smallSessionEnv.device) smallSession
      (downloadAndFlash smallSessionEnv) = some s ∧
    s.flash.calls.map (·.size) = [4] ∧ ∀ c ∈ s.flash.calls, c.size ≤ 4096 := by
  have hsizes : (Machine.run (Session.step smallSessionEnv.device) smallSession
      (downloadAndFlash smallSessionEnv)).map (fun s => s.flash.calls.map (·.size)) = some [4] := by
    decide +kernel
  obtain ⟨s, hrun, hcalls⟩ := Option.map_eq_some_iff.mp hsizes
  exact ⟨s, hrun, hcalls, flash_within_buffer smallSessionEnv.device 4096 smallFlashState
    (downloadAndFlash smallSessionEnv) s (by decide +kernel) hrun⟩

/-- A download that is refused for its size leaves it behind, and the next flash passes it on. -/
theorem flash_beyond_buffer :
    (Machine.run (Session.step smallSessionEnv.device) smallSession
      [(smallSessionEnv, .connected), (smallSessionEnv, .receive (ascii "download:7fffffff") false),
        (smallSessionEnv, .sendDone), (smallSessionEnv, .receive (ascii "flash:system") false)]).map
      (fun s => (s.flash.responses.head?, s.flash.calls.map (·.size))) =
    some (some (.fail "Requested download size is more than max allowed\n"), [0x7fffffff]) ∧
      smallSessionEnv.device.maxDownLoadSize = 4096 := by
  decide +kernel

/-! ### The contents of what is passed -/

/-- USB is used for one thing at a time: a response is sent, a connection is made and a command
    that was put off is taken up again only when no receive is queued, the latter two outside of a
    data phase. -/
def inTurn (s : Session) : Event → Bool
  | .sendDone => s.queued.isEmpty
  | .connected => s.queued.isEmpty && decide (s.state = .ExpectCmdState)
  | .deferredCmd _ => s.queued.isEmpty && decide (s.state = .ExpectCmdState)
  | _ => true

/-- The event comes in turn, and a flash command comes after a download of its own. -/
def FlashFresh (s : Session) (l : SessionEnv × Event) : Prop :=
  inTurn s l.2 = true ∧
    ((commandOf l.1 s l.2).map Prod.fst = some .flash → isFresh s.trace = true)

instance (s : Session) (l : SessionEnv × Event) : Decidable (FlashFresh s l) :=
  inferInstanceAs (Decidable (_ ∧ _))

def downloadBytes (s : Session) : List UInt8 :=
  s.flash.memory.slice s.flash.usbDataBuffer s.flash.numDataBytes

/-- What holds in a data phase: the bytes that were counted stand in the download buffer, and the
    next ones go behind them. -/
structure Receiving (s : Session) : Prop where
  bound : s.flash.numDataBytes ≤ MAX_UINT64
  received : s.bytesReceivedSoFar < s.flash.numDataBytes
  arrived : s.flash.memory.slice s.flash.usbDataBuffer s.bytesReceivedSoFar = arriving s.trace
  queued : (s.queued = [] ∧ s.bytesReceivedSoFar = 0) ∨
    ∃ size, s.queued = [⟨.memory (s.flash.usbDataBuffer + s.bytesReceivedSoFar), size⟩]

structure Downloads (s : Session) : Prop where
  command : s.state = .ExpectCmdState → s.queued = [] ∨ ∃ size, s.queued = [⟨.rxBuffer, size⟩]
  data : s.state = .ExpectDataState → Receiving s
  fresh : isFresh s.trace = true → payload s.trace = some (downloadBytes s)

section Downloads

variable {dev : Device} {env : SessionEnv} {s s₁ s' : Session} {e : Event}

theorem Downloads.idle (hs : Downloads s) (h : Idle env s s') : Downloads s' := by
  obtain ⟨new, hnew, hidle⟩ := h.trace
  have harriving : arriving s'.trace = arriving s.trace := hnew ▸ append_idle arriving_idle hidle
  have hpayload : payload s'.trace = payload s.trace := hnew ▸ append_idle payload_idle hidle
  have hfresh : isFresh s'.trace = isFresh s.trace := hnew ▸ append_idle isFresh_idle hidle
  refine ⟨?_, ?_, ?_⟩
  · rw [h.state, h.queued]
    exact hs.command
  · intro hstate
    have hdata := hs.data (h.state ▸ hstate)
    refine ⟨?_, ?_, ?_, ?_⟩
    · rw [h.flash.same.numDataBytes]
      exact hdata.bound
    · rw [h.flash.same.numDataBytes, h.bytesReceivedSoFar]
      exact hdata.received
    · rw [h.flash.memory, h.flash.same.usbDataBuffer, h.bytesReceivedSoFar, harriving]
      exact hdata.arrived
    · rw [h.queued, h.flash.same.usbDataBuffer, h.bytesReceivedSoFar]
      exact hdata.queued
  · rw [hfresh, hpayload, downloadBytes, h.flash.memory, h.flash.same.usbDataBuffer,
      h.flash.same.numDataBytes]
    exact hs.fresh

theorem isFresh_eq_false (new : List Entry) {trace : List Entry} {e : Entry}
    (hnew : ∀ e ∈ new, e.isIdle = true)
    (hidle : e.isIdle = false) (hne : e ≠ .completed) : isFresh (new ++ e :: trace) = false := by
  rw [append_idle isFresh_idle hnew]
  unfold isFresh
  rw [List.find?_cons_of_pos (by simp [hidle])]
  simpa using hne

theorem Downloads.arrived (hs : Downloads s) (hturn : inTurn s e = true) (h : Arrived s e s₁) :
    s₁.flash = s.flash ∧ s₁.state = .ExpectCmdState ∧ s₁.queued = [] ∧ s₁.trace = s.trace := by
  cases h with
  | receive hstate hqueued =>
    rcases hs.command hstate with hnone | ⟨size, hone⟩
    · rw [hnone] at hqueued
      cases hqueued
    · rw [hone] at hqueued
      cases hqueued
      exact ⟨rfl, hstate, rfl, rfl⟩
  | deferredCmd _ =>
    simp only [inTurn, Bool.and_eq_true, List.isEmpty_iff, decide_eq_true_eq] at hturn
    exact ⟨rfl, hturn.2, hturn.1, rfl⟩

theorem downloads_of_stale (hstate : s.state = .ExpectCmdState) (hqueued : s.queued = [])
    (hstale : isFresh s.trace = false) : Downloads s := by
  refine ⟨fun _ => .inl hqueued, fun hdata => ?_, fun hfresh => ?_⟩
  · rw [hstate] at hdata
    cases hdata
  · rw [hstale] at hfresh
    cases hfresh

theorem Commanded.downloads {cmd : Option (Handler × List UInt8)} (hs : Downloads s)
    (hstate : s.state = .ExpectCmdState) (hqueued : s.queued = []) (h : Commanded env cmd s s') :
    Downloads s' := by
  cases h with
  | idle h => exact hs.idle h
  | @flash arg t _ ht h =>
    obtain ⟨new, hnew, hidle⟩ := h.trace
    refine downloads_of_stale (h.state.trans (ht.state.trans hstate))
      (h.queued.trans (ht.queued.trans hqueued)) ?_
    rw [hnew]
    exact isFresh_eq_false new hidle rfl nofun
  | @download arg t _ ht h =>
    have hempty : s'.queued = [] := h.queued.trans (ht.queued.trans hqueued)
    have hstale : isFresh s'.trace = false := by
      rw [h.trace]
      exact isFresh_eq_false [] nofun rfl nofun
    rcases h.phase with ⟨hsame, -⟩ | ⟨hdata, hzero, hpos, -⟩
    · exact downloads_of_stale (hsame.trans (ht.state.trans hstate)) hempty hstale
    · refine ⟨fun hcmd => .inl hempty, fun _ => ⟨?_, ?_, ?_, .inl ⟨hempty, hzero⟩⟩, ?_⟩
      · rw [h.flash.numDataBytes]
        exact asciiStrHexToUint64_le arg
      · rw [h.flash.numDataBytes, hzero]
        exact hpos
      · rw [hzero, h.trace]
        rfl
      · rw [hstale]
        nofun
  | @boot arg t _ ht h =>
    refine downloads_of_stale (h.state.trans (ht.state.trans hstate))
      (h.queued.trans (ht.queued.trans hqueued)) ?_
    rw [h.trace]
    exact isFresh_eq_false [] nofun rfl nofun

theorem Receiving.count {t : Transfer} {rest : List Transfer} (hdata : Receiving s)
    (hqueued : s.queued = t :: rest) (bytes : List UInt8)
    (hs₁ : s₁ = count bytes (storeBytes t bytes { s with queued := rest })) :
    s₁.flash.numDataBytes ≤ MAX_UINT64 ∧ s₁.bytesReceivedSoFar ≤ s₁.flash.numDataBytes ∧
      s₁.flash.memory.slice s₁.flash.usbDataBuffer s₁.bytesReceivedSoFar = arriving s₁.trace ∧
      s₁.queued = [] := by
  rcases hdata.queued with ⟨hnone, -⟩ | ⟨size, hone⟩
  · rw [hnone] at hqueued
    cases hqueued
  · rw [hone] at hqueued
    cases hqueued
    have hremaining : u64Sub s.flash.numDataBytes s.bytesReceivedSoFar =
        s.flash.numDataBytes - s.bytesReceivedSoFar :=
      u64Sub_eq (Nat.le_of_lt hdata.received) hdata.bound
    have hreceived := hdata.received
    subst hs₁
    generalize hcounted : countedBytes bytes
      (storeBytes ⟨.memory (s.flash.usbDataBuffer + s.bytesReceivedSoFar), size⟩ bytes
        { s with queued := [] }) = counted
    have hfits : counted ≤ bytes.length ∧
        s.bytesReceivedSoFar + counted ≤ s.flash.numDataBytes := by
      rw [← hcounted]
      simp only [countedBytes, storeBytes, hremaining]
      split <;> omega
    refine ⟨hdata.bound, ?_, ?_, rfl⟩
    · simp only [OhMyAbl.count, hcounted]
      exact hfits.2
    · have hbefore : (s.flash.memory.overwrite (s.flash.usbDataBuffer + s.bytesReceivedSoFar)
          bytes.length fun i => bytes.getD i 0).slice s.flash.usbDataBuffer s.bytesReceivedSoFar =
          arriving s.trace := by
        rw [Bytes.slice_overwrite_before (Nat.le_refl _)]
        exact hdata.arrived
      have hnew : (s.flash.memory.overwrite (s.flash.usbDataBuffer + s.bytesReceivedSoFar)
          bytes.length fun i => bytes.getD i 0).slice
          (s.flash.usbDataBuffer + s.bytesReceivedSoFar) counted = bytes.take counted := by
        rw [Bytes.slice_overwrite (Nat.le_refl _) (Nat.add_le_add_left hfits.1 _), Nat.sub_self]
        exact Bytes.slice_getD hfits.1
      simp only [OhMyAbl.count, hcounted, arriving]
      simp only [storeBytes]
      rw [← Bytes.slice_append, hbefore, hnew]

theorem Effect.downloads (hs : Downloads s) (hturn : inTurn s e = true) (h : Effect env s e s') :
    Downloads s' := by
  cases h with
  | idle h => exact hs.idle h
  | sendDone =>
    have hempty : s.queued = [] := by simpa [inTurn] using hturn
    refine ⟨fun hstate => .inr ⟨getXfrSize env s, ?_⟩, fun hstate => ?_, hs.fresh⟩
    · change s.state = _ at hstate
      simp [hempty, firstReceive, hstate]
    · change s.state = _ at hstate
      have hdata := hs.data hstate
      refine ⟨hdata.bound, hdata.received, hdata.arrived, .inr ⟨getXfrSize env s, ?_⟩⟩
      rcases hdata.queued with ⟨-, hzero⟩ | ⟨size, hone⟩
      · simp [hempty, firstReceive, hstate, hzero]
      · rw [hempty] at hone
        cases hone
  | connected =>
    simp only [inTurn, Bool.and_eq_true, List.isEmpty_iff, decide_eq_true_eq] at hturn
    refine ⟨fun _ => .inr ⟨511, by simp only [hturn.1, List.nil_append]⟩, fun hdata => ?_, hs.fresh⟩
    rw [hturn.2] at hdata
    cases hdata
  | command harrived hcmd =>
    obtain ⟨hflash, hstate, hqueued, htrace⟩ := hs.arrived hturn harrived
    refine Commanded.downloads ⟨fun _ => .inl hqueued, fun hdata => ?_, ?_⟩ hstate hqueued hcmd
    · rw [hstate] at hdata
      cases hdata
    · rw [htrace, downloadBytes, hflash]
      exact hs.fresh
  | @data bytes _ t rest s₁ hstate hqueued hs₁ hmore =>
    obtain ⟨hbound, hle, harrived, hempty⟩ := (hs.data hstate).count hqueued bytes hs₁
    have hstale : isFresh s₁.trace = false := by
      rw [hs₁]
      exact isFresh_eq_false [] nofun rfl nofun
    refine ⟨fun hcmd => ?_, fun _ => ⟨hbound, ?_, harrived, .inr ⟨getXfrSize env s₁, ?_⟩⟩, ?_⟩
    · have hdata : s₁.state = .ExpectDataState := by
        rw [hs₁]
        exact (storeBytes_stored t bytes _).state.trans hstate
      rw [hdata] at hcmd
      cases hcmd
    · exact Nat.lt_of_le_of_ne hle hmore
    · simp [hempty, nextReceive]
    · intro hfresh
      rw [hstale] at hfresh
      cases hfresh
  | @lastData bytes _ t rest s₁ _ hstate hqueued hs₁ hall hkeeps =>
    obtain ⟨-, -, harrived, hempty⟩ := (hs.data hstate).count hqueued bytes hs₁
    obtain ⟨len, hclear⟩ := clearRest_cases env s₁.flash
    have hdone : Downloads (downloaded env s₁) := by
      unfold downloaded
      rw [hclear]
      refine ⟨fun _ => .inl hempty, nofun, fun _ => ?_⟩
      simp only [payload, downloadBytes]
      rw [Bytes.slice_overwrite_before (Nat.le_refl _), ← harrived, hall]
    exact hdone.idle hkeeps.idle

theorem Downloads.step {l : SessionEnv × Event} (hs : Downloads s) (hfresh : FlashFresh s l)
    (hstep : Session.step dev s l = some s') : Downloads s' := by
  obtain ⟨t, heffect, rfl | rfl⟩ := step_effect hstep
  · exact heffect.downloads hs hfresh.1
  · have ht := heffect.downloads hs hfresh.1
    exact ⟨ht.command, fun hdata => ⟨(ht.data hdata).1, (ht.data hdata).2, (ht.data hdata).3,
      (ht.data hdata).4⟩, ht.fresh⟩

theorem Effect.calls (hs : Downloads s) (hfresh : FlashFresh s (env, e)) (h : Effect env s e s') :
    ∀ c ∈ s'.flash.calls.drop s.flash.calls.length,
      payload s.trace = some (c.image.slice 0 c.size) := by
  have hsame : s'.flash.calls = s.flash.calls → ∀ c ∈ s'.flash.calls.drop s.flash.calls.length,
      payload s.trace = some (c.image.slice 0 c.size) := by
    intro heq
    rw [heq, List.drop_length]
    nofun
  cases h with
  | idle h => exact hsame h.flash.calls
  | sendDone => exact hsame rfl
  | connected => exact hsame rfl
  | command harrived hcmd =>
    obtain ⟨hflash, -, -, htrace⟩ := hs.arrived hfresh.1 harrived
    cases hcmd with
    | idle h => exact hsame (h.flash.calls.trans (by rw [hflash]))
    | @flash arg t hcmd ht h =>
      obtain ⟨k, hk⟩ := h.flash.calls
      have hcalls : (exchanged (noteCommand .flash arg t).flash).calls = s.flash.calls :=
        ht.flash.calls.trans (by rw [hflash])
      rw [hk, hcalls, List.drop_left]
      intro c hc
      rw [List.eq_of_mem_replicate hc, hs.fresh (hfresh.2 (congrArg (Option.map Prod.fst) hcmd))]
      simp [flashCall, FlashState.image, exchanged, noteCommand, downloadBytes, ht.flash.memory,
        ht.flash.same.usbDataBuffer, ht.flash.same.numDataBytes, hflash]
    | download hcmd ht h =>
      exact hsame (h.flash.calls.trans (ht.flash.calls.trans (by rw [hflash])))
    | boot hcmd ht h => exact hsame (h.flash.calls.trans (ht.flash.calls.trans (by rw [hflash])))
  | @data bytes _ t rest s₁ _ _ hs₁ _ =>
    refine hsame ?_
    rw [hs₁]
    exact (storeBytes_stored t bytes _).calls
  | @lastData bytes _ t rest s₁ _ _ _ hs₁ _ hkeeps =>
    obtain ⟨len, hclear⟩ := clearRest_cases env s₁.flash
    refine hsame (hkeeps.flash.calls.trans ?_)
    unfold downloaded
    rw [hclear, hs₁]
    exact (storeBytes_stored t bytes _).calls

end Downloads

/-- **A flash writes what was downloaded.**  In every session in which USB is used for one thing
    at a time and each flash command follows a completed download, with no other download, flash
    or boot command in between, the bytes that a flash command passes on are the payload of the
    last download that was completed. -/
theorem flash_passes_payload (dev : Device) (base : Nat) (f : FlashState)
    (ls : List (SessionEnv × Event)) (l : SessionEnv × Event) (s s' : Session)
    (hfresh : Machine.Along (Session.step dev) FlashFresh (fastbootCommandSetup dev base f) ls)
    (hrun : Machine.run (Session.step dev) (fastbootCommandSetup dev base f) ls = some s)
    (hlast : FlashFresh s l) (hstep : Session.step dev s l = some s') :
    ∀ c ∈ s'.flash.calls.drop s.flash.calls.length,
      payload s.trace = some (c.image.slice 0 c.size) := by
  have hstart : Downloads (fastbootCommandSetup dev base f) := ⟨fun _ => .inl rfl, nofun, nofun⟩
  have hinv : Downloads s :=
    Machine.run_invariant_along (fun _ _ _ hs hfresh hstep => hs.step hfresh hstep)
      hstart hfresh hrun
  obtain ⟨t, heffect, rfl | rfl⟩ := step_effect hstep
  · exact heffect.calls hinv hlast
  · have hcalls := heffect.calls hinv hlast
    exact hcalls

theorem flash_passes_payload_system : ∃ s s',
    Machine.run (Session.step smallSessionEnv.device) smallSession
      ((downloadAndFlash smallSessionEnv).take 5) = some s ∧
    Session.step smallSessionEnv.device s
      (smallSessionEnv, .receive (ascii "flash:system") false) = some s' ∧
    s'.flash.calls.length = 1 ∧
    ∀ c ∈ s'.flash.calls.drop s.flash.calls.length,
      payload s.trace = some (c.image.slice 0 c.size) := by
  have hruns : ((Machine.run (Session.step smallSessionEnv.device) smallSession
      ((downloadAndFlash smallSessionEnv).take 5)).bind fun s =>
      (Session.step smallSessionEnv.device s
        (smallSessionEnv, .receive (ascii "flash:system") false)).map fun s' =>
        (decide (FlashFresh s (smallSessionEnv, .receive (ascii "flash:system") false)),
          s'.flash.calls.length)) = some (true, 1) := by
    decide +kernel
  obtain ⟨s, hrun, hrest⟩ := Option.bind_eq_some_iff.mp hruns
  obtain ⟨s', hstep, hboth⟩ := Option.map_eq_some_iff.mp hrest
  have hlast : FlashFresh s (smallSessionEnv, .receive (ascii "flash:system") false) :=
    of_decide_eq_true (Prod.ext_iff.mp hboth).1
  exact ⟨s, s', hrun, hstep, (Prod.ext_iff.mp hboth).2,
    flash_passes_payload smallSessionEnv.device 4096 smallFlashState _ _ s s' (by decide +kernel)
      hrun hlast hstep⟩

/-- A second flash after one download passes the other half of the buffer, and a flash before any
    download passes the whole of it. -/
theorem flash_passes_other_half :
    (Machine.run (Session.step smallSessionEnv.device) smallSession
      (downloadAndFlash smallSessionEnv ++
        [(smallSessionEnv, .sendDone),
          (smallSessionEnv, .receive (ascii "flash:system") false)])).map
      (fun s => (payload s.trace, s.flash.calls.map fun c => c.image.slice 0 c.size)) =
      some (some [1, 2, 3, 4], [[1, 2, 3, 4], [0, 0, 0, 0]]) ∧
    (Machine.run (Session.step smallSessionEnv.device) smallSession
      [(smallSessionEnv, .connected), (smallSessionEnv, .receive (ascii "flash:system") false)]).map
      (fun s => (payload s.trace, s.flash.calls.map (·.size))) = some (none, [4096]) := by
  decide +kernel

end OhMyAbl
