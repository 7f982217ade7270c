/-
  **The recovery message in misc: who writes it, and who reads it at the next boot.**

  Writer and reader look for the message in page 1 on NAND and in page 0 elsewhere, but the writer
  writes it back through `WriteToPartition`, which always writes to the beginning of the partition.
-/
import OhMyAbl.Device.Unlock

namespace OhMyAbl

open Prog Bytes

/-! ### The model -/

def gEfiMiscPartitionGuid : Guid := 0x82ACC91F_357C_4A68_9C8F_689E1B1A23A1

def RECOVERY_COMMAND_SIZE : Nat := 32
def RECOVERY_BOOT_RECOVERY : List UInt8 := ascii "boot-recovery"
def RECOVERY_BOOT_FASTBOOT : List UInt8 := ascii "boot-fastboot"

structure RecoveryEnv where
  cardType : MemCardType                 -- `CheckRootDeviceType ()`
  nandMiscPartiGuid : EfiStatus × Guid   -- `GetNandMiscPartiGuid`
  pageSize : Nat                         -- `GetPageSize`
  db : HandleDatabase
  storage : StorageEnv
  allocMsg : Bool
  /-- The memory behind the buffer the pages are read into. -/
  heap : Bytes
  dynamicPartitionSupport : Bool

namespace RecoveryEnv

variable (env : RecoveryEnv)

def miscType : EfiStatus × Guid :=
  if env.cardType = .NAND then env.nandMiscPartiGuid else (EFI_SUCCESS, gEfiMiscPartitionGuid)

def msgOffset : Nat := if env.cardType = .NAND then env.pageSize else 0

def pages (size : Nat) (contents : Bytes) :
    Bytes := fun i => if i < size then contents i else env.heap i

end RecoveryEnv

variable (env : RecoveryEnv)

/-- `ReadFromPartitionOffset`: the status, and what the pointer to the message then points to. -/
def readFromPartitionOffset (ptype : Guid) (size offset : Nat) :
    Prog Disks Exit (EfiStatus × Option Bytes) := do
  let found := getBlkIOHandles env.db typeAttrib (typeFilter ptype) 1
  if found.1 ≠ EFI_SUCCESS then
    return (found.1, none)
  match found.2 with
  | [] => return (EFI_NO_MEDIA, none)
  | h :: rest =>
    if rest ≠ [] then
      return (EFI_LOAD_ERROR, none)
    let msgSize := imageReadSize h.io size
    let partitionSize := h.io.getPartitionSize
    if msgSize > partitionSize ∨ partitionSize = 0 then
      return (EFI_OUT_OF_RESOURCES, none)
    if !env.allocMsg then
      return (EFI_OUT_OF_RESOURCES, none)
    if offset % h.io.blockSize ≠ 0 then
      return (EFI_INVALID_PARAMETER, some (env.pages msgSize fun _ => 0))
    let (status, data) ← zoom (diskAt h.handle)
      (h.io.readBlocks (offset / h.io.blockSize) msgSize)
    if status ≠ EFI_SUCCESS then
      return (status, none)
    return (status, some (env.pages msgSize data))

def readRecoveryMessage : Prog Disks Exit (EfiStatus × Option Bytes) := do
  if env.miscType.1 ≠ EFI_SUCCESS then
    return (env.miscType.1, none)
  let (status, data) ← readFromPartitionOffset env env.miscType.2 (u32 (env.pageSize * 2)) 0
  if status ≠ EFI_SUCCESS then
    return (status, none)
  match data with
  | none => return (EFI_INVALID_PARAMETER, none)
  | some data => return (EFI_SUCCESS, some (data.shift env.msgOffset))

/-- The message with its command replaced by `AsciiStrnCpyS`, which writes the text and its
    terminator. -/
def setCommand (msg : Bytes) (command : List UInt8) : Bytes :=
  msg.overwrite 0 (command.length + 1) fun i => command.getD i 0

def writeRecoveryMessage (command : List UInt8) : Prog Disks Exit EfiStatus := do
  let (status, msg) ← readRecoveryMessage env
  match msg with
  | none => return status
  | some msg =>
    if command.length ≥ RECOVERY_COMMAND_SIZE then
      return EFI_BUFFER_TOO_SMALL
    writeToPartitionType env.storage env.db env.miscType.2
      (some ⟨.pool, env.msgOffset, setCommand msg command⟩) RECOVERY_MESSAGE_SIZE

def recoveryCommand (msg : Bytes) : List UInt8 :=
  (msg.slice 0 (RECOVERY_COMMAND_SIZE - 1)).takeWhile (· ≠ 0)

/-- `RecoveryInit`: its status, whether it asks for a boot into recovery, and the command it has
    read. -/
structure RecoveryRequest where
  status : EfiStatus
  bootIntoRecovery : Bool
  command : List UInt8
deriving DecidableEq, Repr

def recoveryInit (bootIntoRecovery : Bool) : Prog Disks Exit RecoveryRequest := do
  let (status, msg) ← readRecoveryMessage env
  match msg with
  | none => return ⟨status, bootIntoRecovery, []⟩
  | some msg =>
    let command := recoveryCommand msg
    let requested := strnCmp command RECOVERY_BOOT_RECOVERY RECOVERY_BOOT_RECOVERY.length ||
      (env.dynamicPartitionSupport &&
        strnCmp command RECOVERY_BOOT_FASTBOOT RECOVERY_BOOT_FASTBOOT.length)
    return ⟨status, bootIntoRecovery || requested, command⟩

/-! ### Reading and writing misc -/

def IsMisc (h : BlkIoHandle) : Prop :=
  env.miscType.1 = EFI_SUCCESS ∧
    getBlkIOHandles env.db typeAttrib (typeFilter env.miscType.2) 1 = (EFI_SUCCESS, [h])

def RecoveryEnv.readSize (h : BlkIoHandle) : Nat :=
  imageReadSize h.io (u32 (env.pageSize * 2))

def PagesReadable (h : BlkIoHandle) (n : Nat) : Prop :=
  env.readSize h ≤ h.io.getPartitionSize ∧ h.io.getPartitionSize ≠ 0 ∧ env.allocMsg = true ∧
    h.io.transferStatus n 0 (env.readSize h) = EFI_SUCCESS

def RecoveryEnv.message (h : BlkIoHandle) (contents : Bytes) : Bytes :=
  (env.pages (env.readSize h) contents).shift env.msgOffset

def RecoveryEnv.newMessage (h : BlkIoHandle) (command : List UInt8) (contents : Bytes) : Bytes :=
  setCommand (env.message h contents) command

section Misc

variable {env : RecoveryEnv} {h : BlkIoHandle} {s : Disks}

def SameContents (s s' : Disks) : Prop := ∀ handle, (s' handle).contents = (s handle).contents

theorem sameContents_refl (s : Disks) : SameContents s s := fun _ => rfl

theorem sameContents_update {handle : Nat} {d : Disk} (hd : d.contents = (s handle).contents) :
    SameContents s (Function.update s handle d) := by
  intro k
  by_cases hk : k = handle
  · rw [hk, Function.update_self, hd]
  · rw [Function.update_of_ne hk]

theorem readFromPartitionOffset_misc (hmisc : IsMisc env h) (s : Disks) :
    (PagesReadable env h (s h.handle).ops →
      ∃ s', (readFromPartitionOffset env env.miscType.2 (u32 (env.pageSize * 2)) 0).exec s =
          (.ok (EFI_SUCCESS, some (env.pages (env.readSize h) (s h.handle).contents)), s') ∧
        SameContents s s') ∧
    (¬ PagesReadable env h (s h.handle).ops →
      ∃ status s', status ≠ EFI_SUCCESS ∧
        (readFromPartitionOffset env env.miscType.2 (u32 (env.pageSize * 2)) 0).exec s =
          (.ok (status, none), s') ∧ SameContents s s') := by
  have hread : ∀ size, (h.io.readBlocks (0 / h.io.blockSize) size).exec (s h.handle) =
      (.ok (h.io.transferStatus (s h.handle).ops 0 size, (s h.handle).contents),
        { s h.handle with
          ops := (s h.handle).ops + 1
          log := (s h.handle).log ++ [.readBlocks 0 size] }) := by
    intro size
    have hshift : (s h.handle).contents.shift (0 * h.io.blockSize) = (s h.handle).contents := by
      rw [Nat.zero_mul, shift_zero]
    rw [Nat.zero_div, ← hshift]
    rfl
  unfold PagesReadable RecoveryEnv.readSize readFromPartitionOffset
  rw [hmisc.2]
  simp only [ne_eq, not_true_eq_false, Nat.zero_mod]
  generalize imageReadSize h.io (u32 (env.pageSize * 2)) = size
  by_cases hfits : size > h.io.getPartitionSize ∨ h.io.getPartitionSize = 0
  · rw [if_pos hfits]
    refine ⟨fun hreadable => ?_, fun _ => ⟨EFI_OUT_OF_RESOURCES, s, by decide, rfl,
      sameContents_refl s⟩⟩
    rcases hfits with hbig | hzero
    · exact absurd hreadable.1 (by omega)
    · exact absurd hzero hreadable.2.1
  rw [if_neg hfits]
  cases halloc : env.allocMsg with
  | false =>
    exact ⟨fun hreadable => absurd hreadable.2.2.1 (by decide),
      fun _ => ⟨EFI_OUT_OF_RESOURCES, s, by decide, rfl, sameContents_refl s⟩⟩
  | true =>
    simp only [Bool.not_true, Bool.false_eq_true, if_false]
    rw [exec_bind, exec_zoom, show (diskAt h.handle).get s = s h.handle from rfl, hread]
    dsimp only
    by_cases hstatus : h.io.transferStatus (s h.handle).ops 0 size = EFI_SUCCESS
    · rw [if_neg (not_not_intro hstatus), hstatus]
      refine ⟨fun _ => ⟨_, rfl, sameContents_update rfl⟩, fun hno => absurd ?_ hno⟩
      rw [not_or] at hfits
      exact ⟨Nat.not_lt.mp hfits.1, hfits.2, trivial, rfl⟩
    · rw [if_pos hstatus]
      exact ⟨fun hreadable => absurd hreadable.2.2.2 hstatus,
        fun _ => ⟨_, _, hstatus, rfl, sameContents_update rfl⟩⟩

theorem readRecoveryMessage_misc (hmisc : IsMisc env h) (s : Disks) :
    (PagesReadable env h (s h.handle).ops →
      ∃ s', (readRecoveryMessage env).exec s =
          (.ok (EFI_SUCCESS, some (env.message h (s h.handle).contents)), s') ∧
        SameContents s s') ∧
    (¬ PagesReadable env h (s h.handle).ops →
      ∃ status s', status ≠ EFI_SUCCESS ∧
        (readRecoveryMessage env).exec s = (.ok (status, none), s') ∧ SameContents s s') := by
  obtain ⟨hyes, hno⟩ := readFromPartitionOffset_misc hmisc s
  unfold readRecoveryMessage
  rw [if_neg (not_not_intro hmisc.1), exec_bind]
  constructor
  · intro hreadable
    obtain ⟨s', hrun, hsame⟩ := hyes hreadable
    rw [hrun]
    exact ⟨s', rfl, hsame⟩
  · intro hreadable
    obtain ⟨status, s', hstatus, hrun, hsame⟩ := hno hreadable
    rw [hrun]
    refine ⟨status, s', hstatus, ?_, hsame⟩
    dsimp only
    rw [if_pos hstatus]
    rfl

theorem writeRecoveryMessage_success {command : List UInt8} {s' : Disks} (hmisc : IsMisc env h)
    (hrun : (writeRecoveryMessage env command).exec s = (.ok EFI_SUCCESS, s')) :
    PagesReadable env h (s h.handle).ops ∧ command.length < RECOVERY_COMMAND_SIZE ∧
      (s' h.handle).contents = (s h.handle).contents.overwrite 0 RECOVERY_MESSAGE_SIZE
        (env.newMessage h command (s h.handle).contents) := by
  obtain ⟨hyes, hno⟩ := readRecoveryMessage_misc hmisc s
  unfold writeRecoveryMessage at hrun
  rw [exec_bind] at hrun
  by_cases hreadable : PagesReadable env h (s h.handle).ops
  · obtain ⟨s₁, hread, hsame⟩ := hyes hreadable
    rw [hread] at hrun
    dsimp only at hrun
    by_cases hlong : command.length ≥ RECOVERY_COMMAND_SIZE
    · rw [if_pos hlong, exec_pure, Prod.mk.injEq, Except.ok.injEq] at hrun
      exact absurd hrun.1 (by decide)
    rw [if_neg hlong] at hrun
    unfold writeToPartitionType at hrun
    rw [hmisc.2] at hrun
    have hspec := wp_ok (show wp (zoom (diskAt h.handle) _) (fun status t => status = EFI_SUCCESS →
        (t h.handle).contents = (s₁ h.handle).contents.overwrite 0 RECOVERY_MESSAGE_SIZE
          (env.newMessage h command (s h.handle).contents)) anyExit s₁ from by
      rw [wp_zoom]
      apply wp_mono (writeToPartition_spec (show RECOVERY_MESSAGE_SIZE ≤ MAX_WRITE_SIZE by decide))
      · rintro status d ⟨-, hcontents⟩ hstatus
        rw [show ((diskAt h.handle).set s₁ d) h.handle = d from Function.update_self _ _ _,
          hcontents hstatus]
        rfl
      · intro _ _ _
        trivial) hrun
    rw [hspec rfl, hsame h.handle]
    exact ⟨hreadable, Nat.not_le.mp hlong, rfl⟩
  · obtain ⟨status, s₁, hstatus, hread, -⟩ := hno hreadable
    rw [hread] at hrun
    exact absurd (congrArg Prod.fst hrun) (by simpa using hstatus)

end Misc

/-! ### The round trip -/

/-- The byte is one of those by which a reader knows the command: its text and its terminator, in
    front of the byte the reader makes a terminator itself. -/
def InCommand (command : List UInt8) (k : Nat) : Prop :=
  k ≤ command.length ∧ k < RECOVERY_COMMAND_SIZE - 1

theorem recoveryCommand_eq_iff {msg : Bytes} {command : List UInt8} (htext : 0 ∉ command)
    (hlen : command.length < RECOVERY_COMMAND_SIZE) :
    recoveryCommand msg = command ↔ ∀ k, InCommand command k → msg k = command.getD k 0 := by
  rw [recoveryCommand, takeWhile_slice_eq_iff htext (Nat.le_sub_one_of_lt hlen)]
  constructor
  · intro h k hk
    have hbyte := h k hk.1 hk.2
    rwa [Nat.zero_add] at hbyte
  · intro h k hk hlt
    rw [Nat.zero_add]
    exact h k ⟨hk, hlt⟩

/-- After a write, every boot that can read misc finds the command, whatever its memory holds, and
    the bytes outside the message are as before. -/
def RoundTrip (h : BlkIoHandle) (command : List UInt8) (s s' : Disks) : Prop :=
  (∀ heap boot t t' request, (t h.handle).contents = (s' h.handle).contents →
    (recoveryInit { env with heap := heap } boot).exec t = (.ok request, t') →
    request.status = EFI_SUCCESS → request.command = command) ∧
  ∀ i, i < env.msgOffset ∨ env.msgOffset + RECOVERY_MESSAGE_SIZE ≤ i →
    (s' h.handle).contents i = (s h.handle).contents i

/-- The command is inside the pages that are read.  On NAND, besides, misc begins with the new
    message already, and has its command in page 1. -/
structure MessageFound (env : RecoveryEnv) (h : BlkIoHandle) (command : List UInt8)
    (contents : Bytes) : Prop where
  read : ∀ k, InCommand command k → env.msgOffset + k < env.readSize h
  begins : env.cardType = .NAND → ∀ i < min env.pageSize RECOVERY_MESSAGE_SIZE,
    contents i = env.newMessage h command contents i
  holds : env.cardType = .NAND → ∀ k, InCommand command k →
    (if env.pageSize + k < RECOVERY_MESSAGE_SIZE then
      env.newMessage h command contents (env.pageSize + k)
    else contents (env.pageSize + k)) = command.getD k 0

section RoundTrip

variable {env : RecoveryEnv} {h : BlkIoHandle} {s s' : Disks} {command : List UInt8}

theorem recoveryInit_command {boot : Bool} {t t' : Disks} {request : RecoveryRequest}
    (hmisc : IsMisc env h) (hrun : (recoveryInit env boot).exec t = (.ok request, t'))
    (hstatus : request.status = EFI_SUCCESS) :
    request.command = recoveryCommand (env.message h (t h.handle).contents) := by
  obtain ⟨hyes, hno⟩ := readRecoveryMessage_misc hmisc t
  unfold recoveryInit at hrun
  rw [exec_bind] at hrun
  by_cases hreadable : PagesReadable env h (t h.handle).ops
  · obtain ⟨t₁, hread, -⟩ := hyes hreadable
    rw [hread] at hrun
    cases hrun
    rfl
  · obtain ⟨status, t₁, hne, hread, -⟩ := hno hreadable
    rw [hread] at hrun
    cases hrun
    exact absurd hstatus hne

theorem recoveryInit_reads {boot : Bool} {t : Disks} (hmisc : IsMisc env h)
    (hreadable : PagesReadable env h (t h.handle).ops) :
    ∃ request t', (recoveryInit env boot).exec t = (.ok request, t') ∧
      request.status = EFI_SUCCESS := by
  obtain ⟨t₁, hread, -⟩ := (readRecoveryMessage_misc hmisc t).1 hreadable
  unfold recoveryInit
  rw [exec_bind, hread]
  exact ⟨_, _, rfl, rfl⟩

theorem boots_find_iff (hmisc : IsMisc env h) (htext : 0 ∉ command)
    (hlen : command.length < RECOVERY_COMMAND_SIZE) {contents : Bytes} {n : Nat}
    (hreadable : PagesReadable env h n) :
    (∀ heap boot t t' request, (t h.handle).contents = contents →
      (recoveryInit { env with heap := heap } boot).exec t = (.ok request, t') →
      request.status = EFI_SUCCESS → request.command = command) ↔
    ∀ k, InCommand command k → env.msgOffset + k < env.readSize h ∧
      contents (env.msgOffset + k) = command.getD k 0 := by
  constructor
  · intro hfind k hk
    -- a boot in whose memory every byte differs from the one the command has here
    let heap : Bytes := fun _ => command.getD k 0 + 1
    let t : Disks := fun _ => ⟨contents, n, []⟩
    have hmisc' : IsMisc { env with heap := heap } h := hmisc
    obtain ⟨request, t', hrun, hstatus⟩ :=
      @recoveryInit_reads { env with heap := heap } h false t hmisc' hreadable
    have hcommand := hfind heap false t t' request rfl hrun hstatus
    rw [recoveryInit_command hmisc' hrun hstatus, recoveryCommand_eq_iff htext hlen] at hcommand
    have hbyte : (if env.msgOffset + k < env.readSize h then contents (env.msgOffset + k)
        else heap (env.msgOffset + k)) = command.getD k 0 := hcommand k hk
    by_cases hinside : env.msgOffset + k < env.readSize h
    · rw [if_pos hinside] at hbyte
      exact ⟨hinside, hbyte⟩
    · rw [if_neg hinside] at hbyte
      exact absurd hbyte (by simp [heap])
  · intro hbytes heap boot t t' request hcontents hrun hstatus
    have hmisc' : IsMisc { env with heap := heap } h := hmisc
    rw [recoveryInit_command hmisc' hrun hstatus, recoveryCommand_eq_iff htext hlen, hcontents]
    intro k hk
    obtain ⟨hinside, hbyte⟩ := hbytes k hk
    rw [← hbyte]
    exact if_pos hinside

theorem newMessage_command {contents : Bytes} {k : Nat} (hk : InCommand command k) :
    env.newMessage h command contents k = command.getD k 0 := by
  have hle := hk.1
  rw [RecoveryEnv.newMessage, setCommand, overwrite_inside (Nat.zero_le _) (by omega),
    Nat.sub_zero]

end RoundTrip

/-- When a recovery message survives until the next boot, and leaves the rest of misc alone. -/
theorem recoveryMessage_roundTrip_iff (env : RecoveryEnv) (h : BlkIoHandle) (command : List UInt8)
    (s s' : Disks) (hmisc : IsMisc env h) (htext : 0 ∉ command)
    (hrun : (writeRecoveryMessage env command).exec s = (.ok EFI_SUCCESS, s')) :
    RoundTrip env h command s s' ↔ MessageFound env h command (s h.handle).contents := by
  obtain ⟨hreadable, hlen, hcontents⟩ := writeRecoveryMessage_success hmisc hrun
  have hfield : ∀ k, InCommand command k → k < RECOVERY_MESSAGE_SIZE := by
    intro k hk
    exact Nat.lt_trans hk.2 (by decide)
  rw [RoundTrip, boots_find_iff hmisc htext hlen hreadable, hcontents]
  by_cases hnand : env.cardType = .NAND
  · have hoffset : env.msgOffset = env.pageSize := if_pos hnand
    rw [hoffset]
    constructor
    · rintro ⟨hfound, hrest⟩
      refine ⟨fun k hk => ?_, fun _ i hi => ?_, fun _ k hk => ?_⟩
      · rw [hoffset]
        exact (hfound k hk).1
      · rw [← hrest i (Or.inl (by omega)), overwrite_inside (Nat.zero_le _) (by omega),
          Nat.sub_zero]
      · rw [← (hfound k hk).2]
        split
        · rw [overwrite_inside (Nat.zero_le _) (by omega), Nat.sub_zero]
        · rw [overwrite_outside (by omega)]
    · intro hcond
      refine ⟨fun k hk => ⟨?_, ?_⟩, fun i hi => ?_⟩
      · rw [← hoffset]
        exact hcond.read k hk
      · rw [← hcond.holds hnand k hk]
        split
        · rw [overwrite_inside (Nat.zero_le _) (by omega), Nat.sub_zero]
        · rw [overwrite_outside (by omega)]
      · by_cases hin : i < RECOVERY_MESSAGE_SIZE
        · rw [overwrite_inside (Nat.zero_le _) (by omega), Nat.sub_zero,
            hcond.begins hnand i (by omega)]
        · rw [overwrite_outside (by omega)]
  · have hoffset : env.msgOffset = 0 := if_neg hnand
    rw [hoffset]
    constructor
    · rintro ⟨hfound, -⟩
      refine ⟨fun k hk => ?_, fun h => absurd h hnand, fun h => absurd h hnand⟩
      rw [hoffset]
      exact (hfound k hk).1
    · intro hcond
      refine ⟨fun k hk => ⟨?_, ?_⟩, fun i hi => ?_⟩
      · rw [← hoffset]
        exact hcond.read k hk
      · have hin := hfield k hk
        rw [Nat.zero_add, overwrite_inside (Nat.zero_le _) (by omega), Nat.sub_zero,
          newMessage_command hk]
      · rw [overwrite_outside (by omega)]

def miscHandle (type : Guid) (blockSize : Nat) (hlt : blockSize < 2 ^ 32) : BlkIoHandle where
  handle := 0
  blockIo := EFI_SUCCESS
  io := ⟨blockSize, 7, hlt, seven_lt, fun _ => EFI_SUCCESS⟩
  removableMedia := false
  devicePath := some [⟨0x04, 0x01, 42, 0, PARTITIONED_TYPE_GPT⟩]
  hasProtocol := fun _ => false
  partitionType := some type
  fileSystem := none
  partitionName := some (wide "misc")

def ufsRecovery : RecoveryEnv where
  cardType := .UFS
  nandMiscPartiGuid := (EFI_UNSUPPORTED, 0)
  pageSize := 4096
  db := ⟨(EFI_SUCCESS, [miscHandle gEfiMiscPartitionGuid 4096 page_lt]), (EFI_NOT_FOUND, [])⟩
  storage := ⟨.UFS, EFI_SUCCESS, 0, fun _ => false, fun _ => true⟩
  allocMsg := true
  heap := fun _ => 0
  dynamicPartitionSupport := false

def nandRecovery : RecoveryEnv :=
  { ufsRecovery with
    cardType := .NAND
    nandMiscPartiGuid := (EFI_SUCCESS, 5)
    pageSize := 2048
    db := ⟨(EFI_SUCCESS, [miscHandle 5 2048 nandPage_lt]), (EFI_NOT_FOUND, [])⟩
    storage := ⟨.NAND, EFI_SUCCESS, 4096, fun _ => false, fun _ => true⟩ }

def markedMisc : Disks := fun _ => ⟨fun i => if i = 0 then 9 else 0, 0, []⟩

/-- On UFS the command arrives. -/
theorem recoveryMessage_roundTrip_ufs :
    ∃ s', (writeRecoveryMessage ufsRecovery RECOVERY_BOOT_RECOVERY).exec markedMisc =
        (.ok EFI_SUCCESS, s') ∧
      RoundTrip ufsRecovery (miscHandle gEfiMiscPartitionGuid 4096 (by decide))
        RECOVERY_BOOT_RECOVERY markedMisc s' := by
  have hrun := exec_of_result (show ((writeRecoveryMessage ufsRecovery
    RECOVERY_BOOT_RECOVERY).exec markedMisc).1 = .ok EFI_SUCCESS by decide +kernel)
  have hmisc : IsMisc ufsRecovery (miscHandle gEfiMiscPartitionGuid 4096 (by decide)) :=
    ⟨rfl, rfl⟩
  refine ⟨_, hrun, (recoveryMessage_roundTrip_iff ufsRecovery _ RECOVERY_BOOT_RECOVERY markedMisc _
    hmisc (by decide) hrun).mpr ⟨?_, fun h => absurd h (by decide), fun h => absurd h (by decide)⟩⟩
  intro k hk
  have hsize : ufsRecovery.readSize (miscHandle gEfiMiscPartitionGuid 4096 (by decide)) = 8192 := by
    decide
  have hlt : k < 31 := hk.2
  rw [hsize, show ufsRecovery.msgOffset = 0 from rfl]
  omega

/-- On NAND the message is written over page 0, and the next boot reads no command. -/
theorem nandRecovery_overwrites_page :
    let write := (writeRecoveryMessage nandRecovery RECOVERY_BOOT_RECOVERY).exec markedMisc
    let boot := (recoveryInit nandRecovery false).exec write.2
    write.1 = .ok EFI_SUCCESS ∧ boot.1 = .ok ⟨EFI_SUCCESS, false, []⟩ ∧
      nandRecovery.msgOffset = 2048 ∧ (markedMisc 0).contents 0 = 9 ∧
      (write.2 0).contents 0 = 0x62 := by
  decide +kernel

end OhMyAbl
