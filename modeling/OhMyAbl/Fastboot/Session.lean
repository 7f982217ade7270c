/-
  **A fastboot session: commands, data phases and the events that drive them.**

  A session is a machine whose labels are the USB events, each with the outcomes of the firmware
  calls it makes.  Without threads a large sparse image is written inside `CmdFlash` while a timer
  serves USB: the write is done at once here and its result comes with an event of its own
  (`flashEnd`).  With threads the write is the step `thread` of a job that was handed over.  `trace`
  lists, newest first, what happened; nothing of the program reads it.
-/
import OhMyAbl.Fastboot.FlashSteps
import OhMyAbl.Lib.Machine

namespace OhMyAbl

open Prog

/-! ### The number of bytes of a download -/

def hexDigit (c : UInt8) : Option Nat :=
  if 0x30 ≤ c ∧ c ≤ 0x39 then some (c.toNat - 0x30)
  else if 0x41 ≤ c ∧ c ≤ 0x46 then some (c.toNat - 0x41 + 10)
  else if 0x61 ≤ c ∧ c ≤ 0x66 then some (c.toNat - 0x61 + 10)
  else none

/-- The hexadecimal digits behind `acc`; a number that does not fit is the largest one. -/
def hexFrom (acc : Nat) : List UInt8 → Nat
  | [] => acc
  | c :: rest =>
    match hexDigit c with
    | none => acc
    | some digit =>
      if acc > (MAX_UINT64 - digit) / 16 then MAX_UINT64 else hexFrom (acc * 16 + digit) rest

def asciiStrHexToUint64 (text : List UInt8) : Nat :=
  let padded := text.dropWhile fun c => c = 0x20 || c = 0x09
  let digits := padded.dropWhile (· = 0x30)
  match digits with
  | [] => 0
  | c :: rest =>
    if c = 0x78 ∨ c = 0x58 then
      if digits.length < padded.length then hexFrom 0 rest else 0
    else hexFrom 0 digits

/-! ### The state of a session -/

inductive FastbootState where
  | ExpectCmdState
  | ExpectDataState
deriving DecidableEq, Repr

/-- Where a receive puts its bytes: the buffer for command lines, or memory. -/
inductive ReceiveBuffer where
  | rxBuffer
  | memory (addr : Nat)
deriving DecidableEq, Repr

structure Transfer where
  target : ReceiveBuffer
  size : Nat
deriving DecidableEq, Repr

/-- The command handlers; those that touch nothing of the download protocol are one. -/
inductive Handler where
  | flash
  | erase
  | download
  | boot
  | other
deriving DecidableEq, Repr

inductive Entry where
  /-- `AcceptCmd` has taken a line up. -/
  | line (text : List UInt8)
  /-- A handler was called. -/
  | command (h : Handler) (arg : List UInt8)
  /-- The bytes of a data completion that were counted. -/
  | data (bytes : List UInt8)
  /-- The data phase has ended. -/
  | completed
  /-- A flash that was answered before has failed. -/
  | failed (status : EfiStatus)
deriving DecidableEq, Repr

structure Session where
  flash : FlashState
  state : FastbootState
  bytesReceivedSoFar : Nat
  rxBuffer : List UInt8
  queued : List Transfer
  /-- The sizes of the command lines whose handling was put off. -/
  deferred : List Nat
  /-- The delayed responses that wait for a flash. -/
  okayTimers : Nat
  isFirstEraseFlash : Bool
  /-- The results of the flashes that go on while the timer serves USB. -/
  pending : List EfiStatus
  /-- The `DATA` responses. -/
  sent : List (List UInt8)
  stopped : Bool
  trace : List Entry

namespace Session

def flashLens : Lens Session FlashState where
  get := Session.flash
  set := fun s f => { s with flash := f }

end Session

structure KeepsDownload (s s' : FlashState) : Prop where
  memory : s'.memory = s.memory
  usbDataBuffer : s'.usbDataBuffer = s.usbDataBuffer
  flashDataBuffer : s'.flashDataBuffer = s.flashDataBuffer
  numDataBytes : s'.numDataBytes = s.numDataBytes
  flashNumDataBytes : s'.flashNumDataBytes = s.flashNumDataBytes
  flashResult : s'.flashResult = s.flashResult
  isFlashComplete : s'.isFlashComplete = s.isFlashComplete
  jobs : s'.jobs = s.jobs
  calls : s'.calls = s.calls

structure OtherCommand where
  run : FlashState → FlashState
  keeps : ∀ s, KeepsDownload s (run s)

/-- The device, the build and the outcomes of the firmware calls of one event. -/
structure SessionEnv where
  flash : FlashEnv
  isLEVariant : Bool
  updatePartitionsCmds : Bool          -- `ENABLE_UPDATE_PARTITIONS_CMDS`
  deviceCriticalCmds : Bool            -- `ENABLE_DEVICE_CRITICAL_LOCK_UNLOCK_CMDS`
  bootCmd : Bool                       -- `ENABLE_BOOT_CMD`
  hibernationNoAes : Bool              -- `HIBERNATION_SUPPORT_NO_AES`
  batteryVoltageCheck : Bool           -- `EnableBatteryVoltageCheck`
  batterySocOk : Bool
  acceptCmdTimer : EfiStatus
  createOkayEvent : EfiStatus
  setOkayTimer : EfiStatus
  other : OtherCommand
  /-- What `CmdBoot` makes of the memory besides. -/
  bootMemory : Bytes → Bytes

abbrev SessionProg := Prog Session Exit

def onFlash {α : Type} (m : FlashProg α) : SessionProg α := zoom Session.flashLens m

def record (e : Entry) : SessionProg PUnit := modify fun s => { s with trace := e :: s.trace }

def queueReceive (t : Transfer) : SessionProg PUnit :=
  modify fun s => { s with queued := s.queued ++ [t] }

/-! ### The data phase -/

variable (env : SessionEnv)

def USB_BUFFER_SIZE : Nat :=
  if env.isLEVariant ∧
      (env.flash.slots.rootDeviceType = .NAND ∨ env.flash.slots.rootDeviceType = .EMMC) then
    1024 * 1024 * 4
  else 1024 * 1024 * 16

def getXfrSize (s : Session) : Nat :=
  let bytesLeft := u64Sub s.flash.numDataBytes s.bytesReceivedSoFar
  if s.state = .ExpectDataState ∧ bytesLeft < USB_BUFFER_SIZE env then bytesLeft
  else USB_BUFFER_SIZE env

/-- The response of 13 bytes to an accepted download.  An argument that does not fit is left
    out. -/
def dataResponse (arg : List UInt8) : List UInt8 :=
  let text := ascii "DATA" ++ if arg.length < 9 then arg else []
  text ++ List.replicate (13 - text.length) 0

def cmdDownload (arg : List UInt8) : SessionProg PUnit := do
  let n := asciiStrHexToUint64 arg
  onFlash (modify fun s => { s with numDataBytes := n })
  if n = 0 then onFlash (fail "Failed to get the number of bytes to download")
  else if n > env.flash.maxDownLoadSize then
    onFlash (fail "Requested download size is more than max allowed\n")
  else
    modify fun s => { s with
      state := .ExpectDataState
      bytesReceivedSoFar := 0
      sent := s.sent ++ [dataResponse arg] }

def fastbootOkayDelay : SessionProg PUnit := do
  if EFI_ERROR env.createOkayEvent then
    onFlash (fail "Failed to creat event for waiting flash completely")
  else if EFI_ERROR env.setOkayTimer then
    onFlash (fail "Failed to set timer for waiting flash completely")
  else modify fun s => { s with okayTimers := s.okayTimers + 1 }

def flashCompleteHandler : SessionProg PUnit := do
  let s ← get
  if !s.flash.isFlashComplete && !EFI_ERROR env.setOkayTimer then return ⟨⟩
  else
    onFlash (if s.flash.isFlashComplete then okay ""
      else fail "Failed to set timer for waiting flash completely")
    modify fun s => { s with okayTimers := s.okayTimers - 1 }

def clearRest (s : FlashState) : FlashState :=
  let roundSize := ROUND_TO_PAGE s.numDataBytes (u32 (env.flash.pageSize + MAX_UINT32))
  if roundSize < env.flash.maxDownLoadSize then
    let rest := u64Sub roundSize s.numDataBytes
    { s with memory := s.memory.overwrite (s.usbDataBuffer + s.numDataBytes) rest fun _ => 0 }
  else s

def finishData : SessionProg PUnit := do
  onFlash (modify (clearRest env))
  modify fun s => { s with state := .ExpectCmdState }
  record .completed
  if env.flash.isUseMThreadParallel then onFlash (okay "")
  else
    onFlash stopUsbTimer
    fastbootOkayDelay env

def acceptData (bytes : List UInt8) : SessionProg PUnit := do
  let s ← get
  let remainingBytes := u64Sub s.flash.numDataBytes s.bytesReceivedSoFar
  let size := if bytes.length > remainingBytes then remainingBytes else bytes.length
  modify fun s => { s with bytesReceivedSoFar := s.bytesReceivedSoFar + size }
  record (.data (bytes.take size))
  let s ← get
  if s.bytesReceivedSoFar = s.flash.numDataBytes then finishData env
  else
    queueReceive ⟨.memory (s.flash.usbDataBuffer + s.bytesReceivedSoFar), getXfrSize env s⟩

/-! ### The commands -/

abbrev FastbootCmd := List UInt8 × Handler

def others (names : List String) : List FastbootCmd := names.map fun n => (ascii n, .other)

/-- The commands in the order in which `FastbootCommandSetup` registers them. -/
def registeredCommands : List FastbootCmd :=
  [if env.updatePartitionsCmds then
      (ascii "flash:", .flash) :: (ascii "erase:", .erase) ::
        others ["set_active", "flashing get_unlock_ability", "flashing unlock", "flashing lock"]
    else [],
    if env.deviceCriticalCmds then others ["flashing unlock_critical", "flashing lock_critical"]
    else [],
    if env.bootCmd then [(ascii "boot", .boot)] else [],
    others ["oem enable-charger-screen", "oem disable-charger-screen", "oem off-mode-charge",
      "oem select-display-panel", "oem set-hw-fence-value", "oem set-gpu-preemption",
      "oem device-info"],
    if env.hibernationNoAes then others ["oem golden-snapshot"] else [],
    others ["continue", "reboot", "reboot-bootloader", "getvar:"],
    [(ascii "download:", .download)],
    others ["oem audio-framework"],
    if env.flash.isDynamicPartitionSupport then
      others ["reboot-recovery", "reboot-fastboot", "snapshot-update"]
    else []].flatten

/-- The command of a line: `FastbootRegister` puts each command in front of the list. -/
def findCommand (line : List UInt8) : Option FastbootCmd :=
  (registeredCommands env).reverse.find? fun c => strnCmp line c.1 c.1.length

def recordFailure (status : EfiStatus) : SessionProg PUnit :=
  when (EFI_ERROR status) (record (.failed status))

/-- `CmdFlash`.  If the timer serves further events meanwhile, the flash is still going on when
    they come, and leaves its result afterwards.  A flash without the timer serves none: that it
    may be late here as well only adds runs. -/
def runFlash (served : Bool) (arg : List UInt8) : SessionProg PUnit := do
  let before ← get
  onFlash (cmdFlash env.flash arg)
  let after ← get
  if served && !env.flash.isUseMThreadParallel && !env.flash.isDisableParallelDownloadFlash then
    modify fun s => { s with
      flash := { s.flash with
        flashResult := before.flash.flashResult
        isFlashComplete := false
        usbTimerEvent := true
        usbTimerStarted := true }
      pending := after.flash.flashResult :: s.pending }
  else recordFailure after.flash.flashResult

def runHandler (served : Bool) (arg : List UInt8) : Handler → SessionProg PUnit
  | .flash => runFlash env served arg
  | .erase => onFlash (cmdErase env.flash arg)
  | .download => cmdDownload env arg
  | .boot => onFlash (modify fun s =>
      { env.other.run s with memory := env.bootMemory s.memory })
  | .other => onFlash (modify env.other.run)

def isDownloadLine (line : List UInt8) : Bool := strnCmp line (ascii "download") 8

def isFlashLine (line : List UInt8) : Bool := strnCmp line (ascii "flash") 5

def MAX_FASTBOOT_COMMAND_SIZE : Nat := 64

/-- Any command but a download waits for a flash that goes on under the timer; whether it does. -/
def waitForFlash (size : Nat) (line : List UInt8) : SessionProg Bool := do
  if env.flash.isDisableParallelDownloadFlash || isDownloadLine line then return false
  else
    onFlash stopUsbTimer
    let s ← get
    if !s.flash.isFlashComplete && !env.flash.isUseMThreadParallel then
      when (!EFI_ERROR env.acceptCmdTimer)
        (modify fun s => { s with deferred := s.deferred ++ [size] })
      return decide (env.acceptCmdTimer = EFI_SUCCESS)
    else return false

/-- A failure of the last flash is the answer to the next flash or download; whether the command
    goes on. -/
def checkLastFlash (line : List UInt8) : SessionProg Bool := do
  record (.line line)
  let s ← get
  if env.flash.isDisableParallelDownloadFlash = false ∧ s.flash.flashResult ≠ EFI_SUCCESS ∧
      (isFlashLine line || isDownloadLine line) = true then
    onFlash (fail (responseText
      ("Error: Last flash failed : " ++ env.flash.statusText s.flash.flashResult)))
    onFlash (modify fun s => { s with flashResult := EFI_SUCCESS })
    return false
  else return true

/-- The battery is looked at before the first erase or flash of a partition. -/
def checkBattery (line : List UInt8) : SessionProg Bool := do
  let s ← get
  if !env.batteryVoltageCheck then return true
  else if s.isFirstEraseFlash then
    if strnCmp line (ascii "erase") 5 || isFlashLine line then
      if !env.batterySocOk then
        onFlash (fail "Warning: battery's capacity is very low\n")
        return false
      else
        modify fun s => { s with isFirstEraseFlash := false }
        return true
    else return true
  else
    when (strnCmp line (ascii "getvar:partition-type") 21)
      (modify fun s => { s with isFirstEraseFlash := true })
    return true

def dispatch (served : Bool) (line : List UInt8) : SessionProg PUnit :=
  match findCommand env line with
  | none => onFlash (fail "unknown command")
  | some c => do
    record (.command c.2 (line.drop c.1.length))
    runHandler env served (line.drop c.1.length) c.2

def acceptCmd (served : Bool) (size : Nat) : SessionProg PUnit := do
  let size := min size MAX_FASTBOOT_COMMAND_SIZE
  modify fun s => { s with rxBuffer := s.rxBuffer.take size ++ 0 :: s.rxBuffer.drop (size + 1) }
  let s ← get
  let line := s.rxBuffer.takeWhile (· ≠ 0)
  let waits ← waitForFlash env size line
  if waits then return ⟨⟩
  else
    let goesOn ← checkLastFlash env line
    if !goesOn then return ⟨⟩
    else
      let ok ← checkBattery env line
      if !ok then return ⟨⟩ else dispatch env served line

/-! ### The events -/

def storeBytes (t : Transfer) (bytes : List UInt8) (s : Session) : Session :=
  match t.target with
  | .rxBuffer => { s with rxBuffer := bytes ++ s.rxBuffer.drop bytes.length }
  | .memory addr =>
    { s with flash := { s.flash with
        memory := s.flash.memory.overwrite addr bytes.length fun i => bytes.getD i 0 } }

inductive Event where
  /-- The oldest receive that is queued completes. -/
  | receive (bytes : List UInt8) (served : Bool)
  /-- A send completes. -/
  | sendDone
  | connected
  /-- `AcceptCmdHandler`. -/
  | deferredCmd (served : Bool)
  | okayTimer
  /-- The innermost flash under the timer ends. -/
  | flashEnd
  /-- The thread of a job runs. -/
  | thread (i : Nat)
deriving DecidableEq, Repr

def dataReady (bytes : List UInt8) (served : Bool) : SessionProg PUnit := do
  let s ← get
  match s.queued with
  | [] => return ⟨⟩
  | t :: rest =>
    modify fun s => storeBytes t bytes { s with queued := rest }
    match s.state with
    | .ExpectDataState => acceptData env bytes
    | .ExpectCmdState => acceptCmd env served bytes.length

def processBulkXfrCompleteTx : SessionProg PUnit := do
  let s ← get
  match s.state with
  | .ExpectDataState => queueReceive ⟨.memory s.flash.usbDataBuffer, getXfrSize env s⟩
  | .ExpectCmdState => queueReceive ⟨.rxBuffer, getXfrSize env s⟩

def endFlash : SessionProg PUnit := do
  let s ← get
  match s.pending with
  | [] => return ⟨⟩
  | status :: rest =>
    modify fun s => { s with
      flash := { s.flash with flashResult := status, isFlashComplete := true }
      pending := rest }
    onFlash stopUsbTimer
    recordFailure status

def acceptCmdHandler (served : Bool) : SessionProg PUnit := do
  let s ← get
  match s.deferred with
  | [] => return ⟨⟩
  | size :: rest =>
    modify fun s => { s with deferred := rest }
    acceptCmd env served size

/-- `SparseImgFlashThread` of the `i`th job; the status of its flash goes into the trace only. -/
def runThread (i : Nat) : SessionProg PUnit := do
  let s ← get
  match s.flash.jobs[i]? with
  | none => return ⟨⟩
  | some job =>
    let result := ((sparseImgFlash env.flash job.partitionName job.flashDataBuffer
      job.flashNumDataBytes).exec s.flash).1
    onFlash (modify fun s => { s with jobs := s.jobs.eraseIdx i })
    onFlash (sparseImgFlashThread env.flash job)
    match result with
    | .ok status => recordFailure status
    | .error _ => return ⟨⟩

def Event.prog : Event → SessionProg PUnit
  | .receive bytes served => dataReady env bytes served
  | .sendDone => processBulkXfrCompleteTx env
  | .connected => queueReceive ⟨.rxBuffer, 511⟩
  | .deferredCmd served => acceptCmdHandler env served
  | .okayTimer => flashCompleteHandler env
  | .flashEnd => endFlash
  | .thread i => runThread env i

/-- The event can happen: a receive is queued and delivers no more than it has room for, a timer
    is set, a flash is going on. -/
def Event.enabled (s : Session) : Event → Bool
  | .receive bytes _ => s.queued.head?.any fun t => decide (bytes.length ≤ t.size)
  | .sendDone => true
  | .connected => true
  | .deferredCmd _ => !s.deferred.isEmpty
  | .okayTimer => decide (0 < s.okayTimers)
  | .flashEnd => !s.pending.isEmpty
  | .thread i => decide (i < s.flash.jobs.length)

structure Device where
  maxDownLoadSize : Nat
  isUseMThreadParallel : Bool
  isDisableParallelDownloadFlash : Bool
  rootDeviceType : MemCardType
deriving DecidableEq, Repr

def SessionEnv.device : Device :=
  ⟨env.flash.maxDownLoadSize, env.flash.isUseMThreadParallel,
    env.flash.isDisableParallelDownloadFlash, env.flash.slots.rootDeviceType⟩

def Session.step (dev : Device) : Machine Session (SessionEnv × Event) := fun s l =>
  if s.stopped ∨ l.1.device ≠ dev ∨ l.2.enabled s = false then none
  else
    match (l.2.prog l.1).exec s with
    | (.ok _, s') => some s'
    | (.error _, s') => some { s' with stopped := true }

/-- `FastbootCommandSetup` on the buffer at `base`: the state a session starts from. -/
def fastbootCommandSetup (dev : Device) (base : Nat) (f : FlashState) : Session where
  flash := { f with
    numDataBytes := dev.maxDownLoadSize
    flashNumDataBytes := dev.maxDownLoadSize
    usbDataBuffer := base
    flashDataBuffer := if dev.rootDeviceType = .NAND then base else base + dev.maxDownLoadSize
    flashResult := EFI_SUCCESS
    isFlashComplete := true
    usbTimerEvent := false
    usbTimerStarted := false
    jobs := []
    calls := [] }
  state := .ExpectCmdState
  bytesReceivedSoFar := 0
  rxBuffer := []
  queued := []
  deferred := []
  okayTimers := 0
  isFirstEraseFlash := false
  pending := []
  sent := []
  stopped := false
  trace := []

/-! ### A small session -/

/-- The small device with all commands, on which every firmware call succeeds. -/
def smallSessionEnv : SessionEnv where
  flash := smallFlashEnv
  isLEVariant := false
  updatePartitionsCmds := true
  deviceCriticalCmds := true
  bootCmd := true
  hibernationNoAes := false
  batteryVoltageCheck := false
  batterySocOk := true
  acceptCmdTimer := EFI_SUCCESS
  createOkayEvent := EFI_SUCCESS
  setOkayTimer := EFI_SUCCESS
  other := ⟨fun s => s, fun _ => ⟨rfl, rfl, rfl, rfl, rfl, rfl, rfl, rfl, rfl⟩⟩
  bootMemory := fun m => m

def smallSession : Session := fastbootCommandSetup smallSessionEnv.device 4096 smallFlashState

def threadSessionEnv : SessionEnv :=
  { smallSessionEnv with flash := { smallFlashEnv with isUseMThreadParallel := true } }

end OhMyAbl
