/-
  **Which LUN a flash command uses.**

  The LUN is a static variable that outlives a command.  The lookups of an image go by `usedLun`,
  which every part of the command leaves alone, and those of a table by the variable itself.  The
  number is read by a parser that saturates at 64 bits and is then cut to 32.
-/
import OhMyAbl.Fastboot.FlashTargets

namespace OhMyAbl

open Prog

/-! ### The number in an argument -/

/-- The value of the decimal digits a text starts with, behind the value `acc`. -/
def decimalValue (acc : Nat) : Text → Nat
  | [] => acc
  | c :: rest =>
    if 0x30 ≤ c ∧ c ≤ 0x39 then decimalValue (acc * 10 + (c.toNat - 0x30)) rest else acc

theorem le_decimalValue (acc : Nat) (text : Text) : acc ≤ decimalValue acc text := by
  induction text generalizing acc with
  | nil => exact Nat.le_refl _
  | cons c rest ih =>
    unfold decimalValue
    split
    · exact Nat.le_trans (by omega) (ih _)
    · exact Nat.le_refl _

theorem decimalFrom_eq (acc : Nat) (text : Text) (hacc : acc ≤ MAX_UINT64) :
    decimalFrom acc text = min (decimalValue acc text) MAX_UINT64 := by
  induction text generalizing acc with
  | nil => exact (Nat.min_eq_left hacc).symm
  | cons c rest ih =>
    unfold decimalFrom decimalValue
    split
    case isFalse => exact (Nat.min_eq_left hacc).symm
    case isTrue hdigit =>
      have hle : c.toNat - 0x30 ≤ 9 := by
        have h : c.toNat ≤ (0x39 : UInt16).toNat := UInt16.le_iff_toNat_le.mp hdigit.2
        have h39 : (0x39 : UInt16).toNat = 57 := rfl
        omega
      have hmax : MAX_UINT64 = 18446744073709551615 := rfl
      dsimp only
      split
      case isTrue hbig =>
        have hvalue := le_decimalValue (acc * 10 + (c.toNat - 0x30)) rest
        rw [Nat.min_eq_right]
        refine Nat.le_trans ?_ hvalue
        omega
      case isFalse hsmall => exact ih _ (by omega)

theorem decimalValue_zeros (text : Text) :
    decimalValue 0 (text.dropWhile (· = 0x30)) = decimalValue 0 text := by
  induction text with
  | nil => rfl
  | cons c rest ih =>
    by_cases hc : c = 0x30
    · subst hc
      rw [List.dropWhile_cons_of_pos (by simp), ih]
      rfl
    · rw [List.dropWhile_cons_of_neg (by simpa using hc)]

def writtenLun (arg : List UInt8) : Option Nat :=
  (strStr (asciiStrToUnicodeStr arg) (wide ":")).map fun token =>
    decimalValue 0 (token.tail.dropWhile fun c => c = 0x20 || c = 0x09)

theorem int32_of_lt {n : Nat} (hn : n < 2 ^ 31) : int32 n = n := by
  unfold int32
  rw [BitVec.toInt_eq_toNat_of_lt]
  · rw [BitVec.toNat_ofNat, Nat.mod_eq_of_lt (by omega)]
  · rw [BitVec.toNat_ofNat, Nat.mod_eq_of_lt (by omega)]
    omega

theorem lunOf_eq {arg : List UInt8} (hsmall : ∀ n, writtenLun arg = some n → n < 2 ^ 31) :
    lunOf (asciiStrToUnicodeStr arg) = (writtenLun arg).map Int.ofNat := by
  unfold lunOf
  unfold writtenLun at hsmall ⊢
  cases hcolon : strStr (asciiStrToUnicodeStr arg) (wide ":") with
  | none => rfl
  | some token =>
    rw [hcolon] at hsmall
    have hn : decimalValue 0 (token.tail.dropWhile fun c => c = 0x20 || c = 0x09) < 2 ^ 31 :=
      hsmall _ rfl
    have hmax : MAX_UINT64 = 18446744073709551615 := rfl
    simp only [Option.map_some, Option.some.injEq]
    rw [strDecimalToUintn, decimalFrom_eq 0 _ (Nat.zero_le _), decimalValue_zeros,
      Nat.min_eq_left (by omega)]
    exact int32_of_lt hn

/-! ### Steps and the LUN -/

def KeepsLun (s s' : FlashState) : Prop :=
  s'.lun = s.lun ∧ s'.lunSet = s.lunSet ∧ s'.lunUses = s.lunUses

def SearchesLun (s s' : FlashState) : Prop :=
  s'.lun = s.lun ∧ s'.lunSet = s.lunSet ∧
    ∃ n, s'.lunUses = s.lunUses ++ List.replicate n (usedLun s)

def TableLun (s s' : FlashState) : Prop :=
  s'.lun = s.lun ∧ ∃ n, s'.lunUses = s.lunUses ++ List.replicate n s.lun

section Lun

variable {env : FlashEnv} {P : Target → Prop} {c : Prop} {name : Text} {arg : List UInt8}

instance : Std.Refl KeepsLun where
  refl _ := ⟨rfl, rfl, rfl⟩

instance : IsTrans FlashState KeepsLun where
  trans := by
    rintro s s' s'' ⟨hlun, hset, huses⟩ ⟨hlun', hset', huses'⟩
    exact ⟨hlun'.trans hlun, hset'.trans hset, huses'.trans huses⟩

variable {s s' : FlashState} {lun : Int}

theorem KeepsLun.searches (h : KeepsLun s s') : SearchesLun s s' :=
  ⟨h.1, h.2.1, 0, by simpa using h.2.2⟩

theorem StorageStep.searches (h : StorageStep P c s s') : SearchesLun s s' := by
  obtain ⟨slots, disks, msg, state, new, n, rs, rfl, -⟩ := h
  exact ⟨rfl, rfl, n, rfl⟩

theorem SearchesLun.usedLun_eq (h : SearchesLun s s') : usedLun s' = usedLun s := by
  simp [usedLun, h.1, h.2.1]

instance : Std.Refl SearchesLun where
  refl s := (refl_of KeepsLun s).searches

instance : IsTrans FlashState SearchesLun where
  trans := by
    intro s s' s'' h h'
    obtain ⟨n, hn⟩ := h.2.2
    obtain ⟨n', hn'⟩ := h'.2.2
    refine ⟨h'.1.trans h.1, h'.2.1.trans h.2.1, n + n', ?_⟩
    rw [hn', hn, h.usedLun_eq, List.append_assoc, List.replicate_append_replicate]

instance : Std.Refl TableLun where
  refl _ := ⟨rfl, 0, (List.append_nil _).symm⟩

instance : IsTrans FlashState TableLun where
  trans := by
    rintro s s' s'' ⟨hlun, n, hn⟩ ⟨hlun', n', hn'⟩
    refine ⟨hlun'.trans hlun, n + n', ?_⟩
    rw [hn', hn, hlun, List.append_assoc, List.replicate_append_replicate]

/-! ### The checks and the answers -/

theorem fail_keepsLun (text : String) : Steps KeepsLun (fail text) :=
  .modify fun _ => ⟨rfl, rfl, rfl⟩

theorem onPartition_keepsLun {α : Type} {h : Handle} {m : Prog Disk Exit α} :
    Steps KeepsLun (onPartition h m) :=
  .bind (.modify fun _ => ⟨rfl, rfl, rfl⟩) fun _ => .zoom_any fun _ _ => ⟨rfl, rfl, rfl⟩

theorem cancelMerge_keepsLun : Steps KeepsLun (cancelMerge env) := by
  refine .bind (.bind .get fun s => ?_) fun _ => .ite (.bind (fail_keepsLun _) fun _ => .pure _)
    (.bind (.modify fun _ => ⟨rfl, rfl, rfl⟩) fun _ => .pure _)
  cases s.virtualAbMsg with
  | none => exact .pure _
  | some msg =>
    exact .bind (.modify fun _ => ⟨rfl, rfl, rfl⟩) fun _ =>
      .bind (.ite (.pure _) (.ite (.pure _) onPartition_keepsLun)) fun _ =>
        .bind (.when (.modify fun _ => ⟨rfl, rfl, rfl⟩)) fun _ => .pure _

theorem checkCommand_keepsLun {action : String} :
    Steps KeepsLun (checkCommand env action name) := by
  have hstatus : Steps KeepsLun (getSnapshotMergeStatus env) :=
    .zoom_any fun _ _ => ⟨rfl, rfl, rfl⟩
  unfold checkCommand
  cases lockRefusal env action name with
  | some text => exact .bind (fail_keepsLun _) fun _ => .pure _
  | none =>
    exact .ite (.pure _) (.bind hstatus fun _ => .ite
      (.bind .get fun _ => .bind (fail_keepsLun _) fun _ => .pure _)
      (.bind hstatus fun _ => .ite cancelMerge_keepsLun (.pure _)))

/-! ### The branches of CmdFlash -/

theorem ImageStep.searches {J : Text → Prop} (h : ImageStep env P J s s') : SearchesLun s s' := by
  have hkeeps : KeepsLun s s' → SearchesLun s s' := KeepsLun.searches
  cases h with
  | storage h => exact h.searches
  | note => exact hkeeps ⟨rfl, rfl, rfl⟩
  | handOver => exact hkeeps ⟨rfl, rfl, rfl⟩
  | job => exact hkeeps ⟨rfl, rfl, rfl⟩

theorem TableEnd.table (h : TableEnd s s') : TableLun s s' := by
  obtain ⟨lunSet, ptable, slots, n, rs, rfl⟩ := h
  exact ⟨rfl, n, rfl⟩

theorem flashImage_searches : Steps SearchesLun (flashImage env name) :=
  flashImage_any.mono (Relation.reflTransGen_le_of_le fun _ _ h => h.searches)

theorem updateLunTable_table {addr sz : Nat} : Steps TableLun (updateLunTable env addr sz) := by
  intro s
  refine wp_final (R := TableLun s) ?_
  simp only [updateLunTable, wp_bind, wp_ite, wp_zoom]
  exact ⟨fun _ => ⟨rfl, 1, rfl⟩, fun _ => wp_any (fun _ _ => ⟨rfl, 1, rfl⟩) fun _ _ =>
    ⟨rfl, 1, rfl⟩⟩

theorem writeTable_table : Steps TableLun (writeTable env) :=
  .bind .get fun _ => .bind (.modify fun _ => ⟨rfl, 0, (List.append_nil _).symm⟩) fun _ =>
    .bind updateLunTable_table fun _ => (finishTable_table _).mono fun _ _ h => h.table

def UsesOnly (lun : Int) (s s' : FlashState) : Prop :=
  ∃ n, s'.lunUses = s.lunUses ++ List.replicate n lun

theorem SearchesLun.usesOnly (h : SearchesLun s s') :
    UsesOnly (usedLun s) s s' := h.2.2

theorem TableLun.usesOnly (h : TableLun s s') : UsesOnly s.lun s s' := h.2

instance {lun : Int} : IsTrans FlashState (UsesOnly lun) where
  trans := by
    rintro s s' s'' ⟨n, hn⟩ ⟨n', hn'⟩
    exact ⟨n + n', by rw [hn', hn, List.append_assoc, List.replicate_append_replicate]⟩

theorem usesOnly_of_eq (h : s'.lunUses = s.lunUses) :
    UsesOnly lun s s' := ⟨0, by simpa using h⟩

theorem flashOut_usesOnly (s : FlashState) :
    UsesOnly lun s ((flashOut arg).exec s).2 := usesOnly_of_eq rfl

theorem writeMibib_usesOnly (hset : s.lunSet = true) :
    UsesOnly s.lun s ((writeMibib env name).exec s).2 := by
  have hused : usedLun s = s.lun := by rw [usedLun, if_pos hset]
  refine wp_final (R := UsesOnly s.lun s) ?_
  simp only [writeMibib, wp_bind, wp_ite]
  refine ⟨fun _ => ?_, fun _ => wp_of_final ?_⟩
  · have hraw : Steps SearchesLun (do
        handOver
        handleRawImgFlash env name s.flashDataBuffer s.flashNumDataBytes) :=
      .bind (.modify fun _ => ⟨rfl, rfl, 0, (List.append_nil _).symm⟩) fun _ =>
        (handleRawImgFlash_steps (c := True) permits_any).mono fun _ _ h => h.searches
    rw [← wp_bind]
    refine wp_mono (wp_of_steps hraw) (fun r s' h => ?_) fun _ s' h => hused ▸ h.usesOnly
    refine wp_after (hused ▸ h.usesOnly) ?_
    have htable := (@finishTable_table env r.1 s').table.usesOnly
    rwa [h.1] at htable
  · exact usesOnly_of_eq rfl

theorem flashTable_usesOnly (name : Text)
    (hset : env.slots.rootDeviceType ≠ .EMMC → s.lunSet = true) :
    UsesOnly (if env.slots.rootDeviceType = .EMMC then NO_LUN else s.lun) s
      ((flashTable env name).exec s).2 := by
  have hgpt : ∀ t, UsesOnly t.lun t
      ((do partitionDump; writeTable env : FlashProg PUnit).exec t).2 :=
    fun t => (Steps.bind (partitionDump_table.mono fun _ _ h => h.table)
      (fun _ => writeTable_table) t).usesOnly
  refine wp_final (R := UsesOnly _ s) ?_
  rw [flashTable, wp_bind, selectTableLun, wp_modify]
  cases hdev : env.slots.rootDeviceType with
  | EMMC => exact wp_after (usesOnly_of_eq rfl) (hgpt { s with lun := NO_LUN, lunSet := false })
  | UFS => exact wp_after (usesOnly_of_eq rfl) (hgpt { s with slots := _ })
  | UNKNOWN => exact wp_of_final (hgpt s)
  | NAND =>
    -- the dump does not change the state
    simp only [partitionDump, wp_bind, wp_ite]
    refine ⟨fun _ => usesOnly_of_eq rfl, fun _ => ⟨fun _ => ?_, fun h => absurd trivial h⟩⟩
    exact wp_of_final (writeMibib_usesOnly (hset (by rw [hdev]; decide)))

def lunFor (env : FlashEnv) (arg : List UInt8) : Int :=
  if namesTable env (asciiStrToUnicodeStr arg) = true ∧ env.slots.rootDeviceType = .EMMC then NO_LUN
  else match writtenLun arg with
    | some n => n
    | none => NO_LUN

theorem flashNamed_usesOnly (arg : List UInt8)
    (hset : namesTable env name = true → env.slots.rootDeviceType ≠ .EMMC → s.lunSet = true) :
    UsesOnly (if namesTable env name = true ∧ env.slots.rootDeviceType = .EMMC then NO_LUN
      else usedLun s) s ((flashNamed env arg name).exec s).2 := by
  refine wp_final (R := UsesOnly _ s) ?_
  rw [flashNamed, wp_ite]
  constructor
  · intro htable
    have huses := flashTable_usesOnly name (hset htable)
    have hlun : (if env.slots.rootDeviceType = .EMMC then NO_LUN else s.lun) =
        if namesTable env name = true ∧ env.slots.rootDeviceType = .EMMC then NO_LUN
          else usedLun s := by
      by_cases hdev : env.slots.rootDeviceType = .EMMC
      · rw [if_pos hdev, if_pos ⟨htable, hdev⟩]
      · rw [if_neg hdev, if_neg fun h => hdev h.2, usedLun, if_pos (hset htable hdev)]
    rw [hlun] at huses
    exact wp_seq (wp_of_final huses) fun _ s' h => wp_after h (flashOut_usesOnly s')
  · intro htable
    rw [if_neg fun h => htable h.1]
    refine wp_seq (wp_of_final (flashImage_searches s).usesOnly) fun goesOn s' h => ?_
    refine wp_after h ?_
    cases goesOn with
    | false => exact usesOnly_of_eq rfl
    | true => exact flashOut_usesOnly s'

/-! ### CmdFlash -/

/-- The command used the LUN it is to use and no other, and only one that exists. -/
def UsesLunFor (env : FlashEnv) (arg : List UInt8) (s s' : FlashState) : Prop :=
  UsesOnly (lunFor env arg) s s' ∧
    (s'.lunUses ≠ s.lunUses → lunFor env arg = NO_LUN ∨
      0 ≤ lunFor env arg ∧ lunFor env arg < MAX_LUNS)

theorem usesLunFor_of_eq (h : s'.lunUses = s.lunUses) : UsesLunFor env arg s s' :=
  ⟨usesOnly_of_eq h, fun hne => absurd h hne⟩

theorem UsesLunFor.after {t : FlashState} (h : UsesLunFor env arg t s')
    (ht : t.lunUses = s.lunUses) :
    UsesLunFor env arg s s' := by
  obtain ⟨⟨n, hn⟩, hrange⟩ := h
  rw [ht] at hn hrange
  exact ⟨⟨n, hn⟩, hrange⟩

def TableHasLun (env : FlashEnv) (arg : List UInt8) : Prop :=
  namesTable env (asciiStrToUnicodeStr arg) = true →
    env.slots.rootDeviceType = .EMMC ∨ (writtenLun arg).isSome = true

theorem flashNamed_usesLunFor (hset : namesTable env (asciiStrToUnicodeStr arg) = true →
      env.slots.rootDeviceType ≠ .EMMC → s.lunSet = true)
    (hused : usedLun s = match writtenLun arg with
      | some n => n
      | none => NO_LUN) (hrange : usedLun s = NO_LUN ∨ 0 ≤ usedLun s ∧ usedLun s < MAX_LUNS) :
    UsesLunFor env arg s ((flashNamed env arg (asciiStrToUnicodeStr arg)).exec s).2 := by
  have huses := flashNamed_usesOnly arg hset
  have hfor : lunFor env arg = if namesTable env (asciiStrToUnicodeStr arg) = true ∧
      env.slots.rootDeviceType = .EMMC then NO_LUN else usedLun s := by
    rw [lunFor, hused]
  refine ⟨hfor ▸ huses, fun _ => ?_⟩
  rw [hfor]
  split
  · exact .inl rfl
  · exact hrange

theorem flashWithLun_usesLunFor (hunset : s.lunSet = false) (htable : TableHasLun env arg)
    (hsmall : ∀ n, writtenLun arg = some n → n < 2 ^ 31) :
    UsesLunFor env arg s ((flashWithLun env arg (asciiStrToUnicodeStr arg)).exec s).2 := by
  have hlun := lunOf_eq hsmall
  unfold flashWithLun
  cases hwritten : writtenLun arg with
  | none =>
    rw [hwritten, Option.map_none] at hlun
    rw [hlun]
    have hused : usedLun s = NO_LUN := by simp [usedLun, hunset]
    refine flashNamed_usesLunFor (fun hname hdev => ?_) (by rw [hwritten, hused]) (.inl hused)
    have hor := htable hname
    rw [hwritten] at hor
    exact absurd (hor.resolve_right (by decide)) hdev
  | some n =>
    rw [hwritten, Option.map_some] at hlun
    rw [hlun]
    refine wp_final (R := UsesLunFor env arg s) ?_
    simp only [wp_bind, wp_ite]
    refine ⟨fun _ => ?_, fun hlt => wp_of_final ?_⟩
    · exact wp_of_final (usesLunFor_of_eq rfl)
    · refine UsesLunFor.after (flashNamed_usesLunFor (fun _ _ => rfl) ?_ (.inr ⟨?_, ?_⟩)) rfl
      · rw [hwritten]
        rfl
      · exact Int.natCast_nonneg n
      · exact Int.not_le.mp hlt

theorem cmdFlash_usesLunFor (s : FlashState) (htable : TableHasLun env arg)
    (hsmall : ∀ n, writtenLun arg = some n → n < 2 ^ 31) :
    UsesLunFor env arg s ((cmdFlash env arg).exec s).2 := by
  refine wp_final (R := UsesLunFor env arg s) ?_
  simp only [cmdFlash, wp_bind, wp_ite]
  refine ⟨fun _ => wp_of_final (usesLunFor_of_eq rfl), fun _ =>
    ⟨fun _ => wp_of_final (usesLunFor_of_eq rfl), fun _ => ?_⟩⟩
  refine wp_mono (wp_of_steps checkCommand_keepsLun) ?_ fun _ s' h => usesLunFor_of_eq h.2.2
  intro allowed s' h
  refine ⟨fun _ => usesLunFor_of_eq h.2.2, fun _ => ⟨fun _ => ?_, fun _ => ?_⟩⟩
  · refine wp_of_final (usesLunFor_of_eq ?_)
    unfold answerKey
    split
    · exact h.2.2
    · exact h.2.2
  · exact wp_of_final ((flashWithLun_usesLunFor h.2.1 htable hsmall).after h.2.2)

/-! ### Sequences of commands -/

inductive StorageCommand where
  | flash (arg : List UInt8)
  | erase (arg : List UInt8)

def StorageCommand.prog (env : FlashEnv) : StorageCommand → FlashProg PUnit
  | .flash arg => cmdFlash env arg
  | .erase arg => cmdErase env arg

/-- The state after a sequence of commands, each with what the firmware answers to it. -/
def runCommands (s : FlashState) : List (FlashEnv × StorageCommand) → FlashState
  | [] => s
  | (env, c) :: rest => runCommands ((c.prog env).exec s).2 rest

/-- **The LUN of a flash command.**  Whatever commands came before, the LUN a flash command uses
    is the number behind the colon of its argument, which is below `MAX_LUNS` then, and none if
    there is no colon; for a partition table on eMMC it is none in any case. -/
theorem flash_lun_of_argument (s : FlashState) (before : List (FlashEnv × StorageCommand))
    (env : FlashEnv) (arg : List UInt8) (htable : TableHasLun env arg)
    (hsmall : ∀ n, writtenLun arg = some n → n < 2 ^ 31) :
    UsesLunFor env arg (runCommands s before)
      ((cmdFlash env arg).exec (runCommands s before)).2 :=
  cmdFlash_usesLunFor _ htable hsmall

def criticalUnlocked : FlashEnv := { smallFlashEnv with isUnlockCritical := true }

theorem flash_lun_of_argument_third :
    writtenLun (ascii "partition:3") = some 3 ∧
      UsesLunFor criticalUnlocked (ascii "partition:3") smallFlashState
        ((cmdFlash criticalUnlocked (ascii "partition:3")).exec smallFlashState).2 :=
  ⟨by decide, flash_lun_of_argument smallFlashState [] criticalUnlocked (ascii "partition:3")
    (fun _ => .inr (by decide)) (by decide)⟩

def emmcDevice : FlashEnv :=
  { criticalUnlocked with
    slots := { criticalUnlocked.slots with rootDeviceType := .EMMC }
    storage := { ufsStorage with rootDeviceType := .EMMC }
    sameDevice := rfl }

/-- On eMMC a table is written without a LUN, although the argument names one. -/
theorem flash_lun_of_argument_emmc :
    writtenLun (ascii "partition:3") = some 3 ∧
      ((cmdFlash emmcDevice (ascii "partition:3")).exec smallFlashState).2.lunUses = [NO_LUN] := by
  refine ⟨by decide, ?_⟩
  decide +kernel

end Lun

end OhMyAbl
