/-
  **Which handler `AcceptCmd` runs for a command line.**

  `FastbootRegister` puts each command of the table in front of the list, so `AcceptCmd` meets the
  table backwards and runs the first handler whose prefix starts the line.  The longest prefix is
  found because in the table it always comes behind the shorter ones.
-/
import OhMyAbl.Fastboot.Session

namespace OhMyAbl

/-! ### Searching a list of prefixes -/

section Search

variable {α β : Type} {l : List (List α × β)} {line : List α} {c : List α × β}

def SpecificFirst (l : List (List α × β)) : Prop := l.Pairwise fun a b => ¬ a.1 <+: b.1

def IsMostSpecific (l : List (List α × β)) (line : List α) (c : List α × β) : Prop :=
  c ∈ l ∧ c.1 <+: line ∧ ∀ c' ∈ l, c'.1 <+: line → c' ≠ c → c'.1.length < c.1.length

theorem IsMostSpecific.unique {c' : List α × β} (h : IsMostSpecific l line c)
    (h' : IsMostSpecific l line c') : c' = c := by
  by_contra hne
  have hlt := h.2.2 c' h'.1 h'.2.1 hne
  have hgt := h'.2.2 c h.1 h.2.1 (Ne.symm hne)
  omega

theorem length_lt_of_not_prefix {p q : List α} (hp : p <+: line) (hq : q <+: line)
    (h : ¬ p <+: q) : q.length < p.length := by
  by_contra hle
  exact h (List.prefix_of_prefix_length_le hp hq (by omega))

theorem isMostSpecific_of_find [BEq α] [LawfulBEq α] (h : SpecificFirst l)
    (hfind : l.find? (fun c => c.1.isPrefixOf line) = some c) : IsMostSpecific l line c := by
  obtain ⟨hstarts, before, after, rfl, hbefore⟩ := List.find?_eq_some_iff_append.mp hfind
  have hc : c.1 <+: line := List.isPrefixOf_iff_prefix.mp hstarts
  refine ⟨by simp, hc, ?_⟩
  intro c' hc' hstarts' hne
  rcases List.mem_append.mp hc' with hc' | hc'
  · have hnot := hbefore c' hc'
    rw [List.isPrefixOf_iff_prefix.mpr hstarts'] at hnot
    cases hnot
  · rcases List.mem_cons.mp hc' with rfl | hc'
    · exact absurd rfl hne
    · have hlater := (List.pairwise_append.mp h).2.1
      exact length_lt_of_not_prefix hc hstarts' (List.rel_of_pairwise_cons hlater hc')

end Search

/-! ### The commands -/

inductive CommandHandler where
  | CmdFlash
  | CmdErase
  | CmdSetActive
  | CmdFlashingGetUnlockAbility
  | CmdFlashingUnlock
  | CmdFlashingLock
  | CmdFlashingUnLockCritical
  | CmdFlashingLockCritical
  | CmdBoot
  | CmdOemEnableChargerScreen
  | CmdOemDisableChargerScreen
  | CmdOemOffModeCharger
  | CmdOemSelectDisplayPanel
  | CmdOemSetHwFenceValue
  | CmdOemSetGpuPreemptionValue
  | CmdOemDevinfo
  | CmdGoldenSnapshot
  | CmdContinue
  | CmdReboot
  | CmdRebootBootloader
  | CmdGetVar
  | CmdDownload
  | CmdOemAudioFrameWork
  | CmdRebootRecovery
  | CmdRebootFastboot
  | CmdUpdateSnapshot
deriving DecidableEq, Repr

def CommandHandler.kind : CommandHandler → Handler
  | CmdFlash => .flash
  | CmdErase => .erase
  | CmdDownload => .download
  | CmdBoot => .boot
  | _ => .other

abbrev CommandEntry := List UInt8 × CommandHandler

variable (env : SessionEnv)

/-- `cmd_list` of `FastbootCommandSetup`, and the commands that follow it if partitions are
    dynamic. -/
def commandTable : List CommandEntry :=
  [if env.updatePartitionsCmds then
      [(ascii "flash:", .CmdFlash), (ascii "erase:", .CmdErase),
        (ascii "set_active", .CmdSetActive),
        (ascii "flashing get_unlock_ability", .CmdFlashingGetUnlockAbility),
        (ascii "flashing unlock", .CmdFlashingUnlock), (ascii "flashing lock", .CmdFlashingLock)]
    else [],
    if env.deviceCriticalCmds then
      [(ascii "flashing unlock_critical", .CmdFlashingUnLockCritical),
        (ascii "flashing lock_critical", .CmdFlashingLockCritical)]
    else [],
    if env.bootCmd then [(ascii "boot", .CmdBoot)] else [],
    [(ascii "oem enable-charger-screen", .CmdOemEnableChargerScreen),
      (ascii "oem disable-charger-screen", .CmdOemDisableChargerScreen),
      (ascii "oem off-mode-charge", .CmdOemOffModeCharger),
      (ascii "oem select-display-panel", .CmdOemSelectDisplayPanel),
      (ascii "oem set-hw-fence-value", .CmdOemSetHwFenceValue),
      (ascii "oem set-gpu-preemption", .CmdOemSetGpuPreemptionValue),
      (ascii "oem device-info", .CmdOemDevinfo)],
    if env.hibernationNoAes then [(ascii "oem golden-snapshot", .CmdGoldenSnapshot)] else [],
    [(ascii "continue", .CmdContinue), (ascii "reboot", .CmdReboot),
      (ascii "reboot-bootloader", .CmdRebootBootloader), (ascii "getvar:", .CmdGetVar)],
    [(ascii "download:", .CmdDownload)],
    [(ascii "oem audio-framework", .CmdOemAudioFrameWork)],
    if env.flash.isDynamicPartitionSupport then
      [(ascii "reboot-recovery", .CmdRebootRecovery),
        (ascii "reboot-fastboot", .CmdRebootFastboot),
        (ascii "snapshot-update", .CmdUpdateSnapshot)]
    else []].flatten

def fastbootRegister (alloc : CommandEntry → Bool) (cmdlist : List CommandEntry)
    (cmd : CommandEntry) : List CommandEntry :=
  if alloc cmd then cmd :: cmdlist else cmdlist

def registerCommands (alloc : CommandEntry → Bool) (table : List CommandEntry) :
    List CommandEntry :=
  table.foldl (fastbootRegister alloc) []

def acceptCmdLoop (cmdlist : List CommandEntry) (line : List UInt8) :
    Option (CommandHandler × List UInt8) :=
  (cmdlist.find? fun c => strnCmp line c.1 c.1.length).map fun c => (c.2, line.drop c.1.length)

theorem registerCommands_eq (alloc : CommandEntry → Bool) (table : List CommandEntry) :
    registerCommands alloc table = (table.filter alloc).reverse := by
  have hstep : ∀ (table cmdlist : List CommandEntry),
      table.foldl (fastbootRegister alloc) cmdlist = (table.filter alloc).reverse ++ cmdlist := by
    intro table
    induction table with
    | nil => exact fun _ => rfl
    | cons cmd table ih =>
      intro cmdlist
      rw [List.foldl_cons, ih, fastbootRegister, List.filter_cons]
      split
      · rw [List.reverse_cons, List.append_assoc]
        rfl
      · rfl
  rw [registerCommands, hstep, List.append_nil]

theorem registeredCommands_eq :
    registeredCommands env = (commandTable env).map fun c => (c.1, c.2.kind) := by
  unfold registeredCommands commandTable
  rw [List.map_flatten]
  simp only [List.map_cons, apply_ite (List.map _)]
  rfl

/-! ### The order of the table -/

def fullTable : List CommandEntry :=
  commandTable { smallSessionEnv with
    hibernationNoAes := true
    flash := { smallFlashEnv with isDynamicPartitionSupport := true } }

theorem fullTable_ordered : fullTable.Pairwise fun a b => ¬ b.1 <+: a.1 := by
  decide +kernel

theorem ite_sublist {α : Type} (c : Bool) (l : List α) : (if c then l else []).Sublist l := by
  split
  · exact .refl l
  · exact List.nil_sublist l

theorem commandTable_sublist : (commandTable env).Sublist fullTable := by
  unfold fullTable commandTable
  refine .append (ite_sublist _ _) (.append (ite_sublist _ _) (.append (ite_sublist _ _)
    (.append (.refl _) (.append (ite_sublist _ _) (.append (.refl _) (.append (.refl _)
      (.append (.refl _) (.append (ite_sublist _ _) (.refl _)))))))))

theorem registerCommands_specificFirst (alloc : CommandEntry → Bool) (env : SessionEnv) :
    SpecificFirst (registerCommands alloc (commandTable env)) := by
  rw [registerCommands_eq, SpecificFirst, List.pairwise_reverse]
  exact fullTable_ordered.sublist (List.filter_sublist.trans (commandTable_sublist env))

theorem acceptCmdLoop_spec {cmdlist : List CommandEntry} (h : SpecificFirst cmdlist)
    (line : List UInt8) :
    (∀ handler arg, acceptCmdLoop cmdlist line = some (handler, arg) ↔
      ∃ pre, IsMostSpecific cmdlist line (pre, handler) ∧ line = pre ++ arg) ∧
    (acceptCmdLoop cmdlist line = none ↔ ∀ c ∈ cmdlist, ¬ c.1 <+: line) := by
  have hsame : cmdlist.find? (fun c => strnCmp line c.1 c.1.length) =
      cmdlist.find? (fun c => c.1.isPrefixOf line) := by
    congr 1
    funext c
    rw [Bool.eq_iff_iff, strnCmp_iff_start, List.isPrefixOf_iff_prefix]
  unfold acceptCmdLoop
  rw [hsame]
  constructor
  · intro handler arg
    rw [Option.map_eq_some_iff]
    constructor
    · rintro ⟨c, hfind, hc⟩
      have hspecific := isMostSpecific_of_find h hfind
      obtain ⟨rest, rfl⟩ := hspecific.2.1
      obtain ⟨rfl, rfl⟩ := Prod.mk.inj hc
      exact ⟨c.1, hspecific, by rw [List.drop_left]⟩
    · rintro ⟨pre, hspecific, rfl⟩
      have hsome : (cmdlist.find? fun c => c.1.isPrefixOf (pre ++ arg)).isSome = true := by
        rw [List.find?_isSome]
        exact ⟨_, hspecific.1, List.isPrefixOf_iff_prefix.mpr hspecific.2.1⟩
      obtain ⟨c, hfind⟩ := Option.isSome_iff_exists.mp hsome
      have hc : c = (pre, handler) := hspecific.unique (isMostSpecific_of_find h hfind)
      exact ⟨c, hfind, by rw [hc, List.drop_left]⟩
  · rw [Option.map_eq_none_iff, List.find?_eq_none]
    constructor
    · intro hnone c hc hstarts
      exact hnone c hc (List.isPrefixOf_iff_prefix.mpr hstarts)
    · intro hnone c hc hstarts
      exact hnone c hc (List.isPrefixOf_iff_prefix.mp hstarts)

def runCommand (served : Bool) :
    Option (CommandHandler × List UInt8) → SessionProg PUnit
  | none => onFlash (fail "unknown command")
  | some (handler, arg) => do
    record (.command handler.kind arg)
    runHandler env served arg handler.kind

theorem dispatch_eq (served : Bool) (line : List UInt8) :
    dispatch env served line =
      runCommand env served
        (acceptCmdLoop (registerCommands (fun _ => true) (commandTable env)) line) := by
  have hfind : findCommand env line =
      ((registerCommands (fun _ => true) (commandTable env)).find?
        fun c => strnCmp line c.1 c.1.length).map fun c => (c.1, c.2.kind) := by
    have hall : (commandTable env).filter (fun _ => true) = commandTable env :=
      List.filter_eq_self.mpr fun _ _ => rfl
    rw [findCommand, registeredCommands_eq, registerCommands_eq, hall, ← List.map_reverse,
      List.find?_map]
    rfl
  rw [dispatch, hfind, acceptCmdLoop]
  cases (registerCommands (fun _ => true) (commandTable env)).find?
      fun c => strnCmp line c.1 c.1.length with
  | none => rfl
  | some c => rfl

/-- **The most specific handler runs.**  For every build and every line, with whatever entries could
    be allocated, `AcceptCmd` runs a handler with an argument exactly if the handler is that of the
    longest registered prefix of the line and the argument is the rest, and it runs none exactly if
    no registered prefix starts the line; in a session that is what happens, and no handler means
    the answer "unknown command". -/
theorem acceptCmd_most_specific (env : SessionEnv) (alloc : CommandEntry → Bool)
    (line : List UInt8) :
    (∀ handler arg,
      acceptCmdLoop (registerCommands alloc (commandTable env)) line = some (handler, arg) ↔
        ∃ pre, IsMostSpecific ((commandTable env).filter alloc) line (pre, handler) ∧
          line = pre ++ arg) ∧
    (acceptCmdLoop (registerCommands alloc (commandTable env)) line = none ↔
      ∀ c ∈ (commandTable env).filter alloc, ¬ c.1 <+: line) ∧
    ∀ served, dispatch env served line =
      runCommand env served
        (acceptCmdLoop (registerCommands (fun _ => true) (commandTable env)) line) := by
  have hmem : ∀ c, c ∈ registerCommands alloc (commandTable env) ↔
      c ∈ (commandTable env).filter alloc := by
    intro c
    rw [registerCommands_eq, List.mem_reverse]
  have hspecific : ∀ c, IsMostSpecific (registerCommands alloc (commandTable env)) line c ↔
      IsMostSpecific ((commandTable env).filter alloc) line c := by
    intro c
    simp [IsMostSpecific, hmem]
  obtain ⟨hruns, hnone⟩ := acceptCmdLoop_spec (registerCommands_specificFirst alloc env) line
  refine ⟨?_, ?_, fun served => dispatch_eq env served line⟩
  · intro handler arg
    simp [hruns, hspecific]
  · simp [hnone, hmem]

example : acceptCmdLoop (registerCommands (fun _ => true) fullTable)
    (ascii "flashing unlock_critical") = some (.CmdFlashingUnLockCritical, []) := by
  decide +kernel

end OhMyAbl
