/-
  **What the routines of a flash can change.**

  `StorageStep`: they touch storage only at targets that a predicate `P` allows, they search the LUN
  that is set and no other, and outside storage, the slot attributes and the merge status they leave
  everything as it was.
-/
import OhMyAbl.Fastboot.Flash

namespace OhMyAbl

open Prog

/-! ### Names with a slot -/

def SlotNameOf (name n : Text) : Prop := n = name ∨ n = name ++ slotA ∨ n = name ++ slotB

theorem SlotNameOf.refl (name : Text) : SlotNameOf name name := .inl rfl

theorem slotNameOf_strnCatS {name suffix : Text} {size : Nat} (h : suffix = [] ∨ IsSlot suffix) :
    SlotNameOf name (strnCatS size name suffix suffix.length) := by
  unfold strnCatS
  split
  · rcases h with rfl | rfl | rfl
    · exact .inl (List.append_nil name)
    · exact .inr (.inl rfl)
    · exact .inr (.inr rfl)
  · exact .refl name

theorem getCurrentSlotSuffix_slot (env : SlotEnv) (s : SlotState) :
    wp (getCurrentSlotSuffix env) (fun x _ => x = [] ∨ IsSlot x) noExit s := by
  simp only [getCurrentSlotSuffix, wp_bind, wp_ite, wp_getActiveSlot, wp_pure]
  exact ⟨fun _ => activeResult_cases env s, fun _ => .inl trivial⟩

/-! ### Writing an image -/

def usedLun (s : FlashState) : Int := if s.lunSet then s.lun else NO_LUN

/-- A step of the checks of a command or of a routine that writes an image: what it touches is
    allowed by `P`, a partition it does not touch keeps its contents, its lookups are on the LUN
    that is set, and it answers nothing unless `c`. -/
def StorageStep (P : Target → Prop) (c : Prop) (s s' : FlashState) : Prop :=
  ∃ slots disks msg state new n rs,
    s' = { s with
      slots := slots
      disks := disks
      virtualAbMsg := msg
      snapshotMergeState := state
      touched := s.touched ++ new
      lunUses := s.lunUses ++ List.replicate n (usedLun s)
      responses := s.responses ++ rs } ∧
    (∀ t ∈ new, P t) ∧
    (∀ h, Target.handle h ∉ new → (disks h).contents = (s.disks h).contents) ∧
    (rs ≠ [] → c)

section StorageStep

variable {env : FlashEnv} {P : Target → Prop} {c : Prop} {name : Text} {h : Handle}

instance : Std.Refl (StorageStep P c) where
  refl s := ⟨s.slots, s.disks, s.virtualAbMsg, s.snapshotMergeState, [], 0, [], by simp, by simp,
    fun _ _ => rfl, by simp⟩

instance : IsTrans FlashState (StorageStep P c) where
  trans := by
    rintro s _ _ ⟨slots, disks, msg, state, new, n, rs, rfl, hnew, hsame, hc⟩
      ⟨slots', disks', msg', state', new', n', rs', rfl, hnew', hsame', hc'⟩
    refine ⟨slots', disks', msg', state', new ++ new', n + n', rs ++ rs', ?_, ?_, ?_, ?_⟩
    · simp [← List.replicate_append_replicate, usedLun]
    · intro t ht
      rcases List.mem_append.mp ht with ht | ht
      · exact hnew t ht
      · exact hnew' t ht
    · intro h hh
      rw [List.mem_append, not_or] at hh
      exact (hsame' h hh.2).trans (hsame h hh.1)
    · intro hrs
      by_cases hempty : rs = []
      · exact hc' (by simpa [hempty] using hrs)
      · exact hc hempty

theorem storageStep_slots (s : FlashState) (slots : SlotState) :
    StorageStep P c s { s with slots := slots } :=
  ⟨slots, s.disks, s.virtualAbMsg, s.snapshotMergeState, [], 0, [], by simp, by simp,
    fun _ _ => rfl, by simp⟩

theorem resolveName_yields (env : FlashEnv) (name : Text) :
    Yields (StorageStep P c) (fun n => SlotNameOf name n.name) (resolveName env name) := by
  refine Steps.bind_yields .get fun s => .ite (fun _ => ?_) fun _ => .pure (.refl name)
  refine Steps.bind_yields .get fun s => ?_
  cases getPartitionIndex s.slots.ptnEntries name with
  | none =>
    refine Yields.bind (P := fun x => x = [] ∨ IsSlot x) ?_ fun x hx =>
      .pure (slotNameOf_strnCatS hx)
    intro s
    rw [wp_zoom]
    exact wp_mono (getCurrentSlotSuffix_slot env.slots s.slots)
      (fun x t hx => ⟨storageStep_slots s t, hx⟩) fun _ _ hfalse => hfalse.elim
  | some _ => exact .ite (fun _ => .pure (.refl name)) fun _ => .pure (.refl name)

def NamedBy (env : FlashEnv) (name : Text) (h : Handle) : Prop :=
  ∃ e, env.record h = some e ∧ e.partitionName = name

theorem searchLuns_named {table : Ptable} {luns : List Nat}
    (hfound : searchLuns env table name luns = some h) : NamedBy env name h := by
  induction luns with
  | nil => cases hfound
  | cons i rest ih =>
    unfold searchLuns at hfound
    split at hfound
    · rename_i h' hfind
      cases hfound
      have hrec := List.find?_some hfind
      cases he : env.record h with
      | none => simp [he] at hrec
      | some e => exact ⟨e, he, by simpa [he] using hrec⟩
    · exact ih hfound

theorem useLun_usedLun_step (s : FlashState) :
    StorageStep P c s { s with lunUses := s.lunUses ++ [usedLun s] } :=
  ⟨s.slots, s.disks, s.virtualAbMsg, s.snapshotMergeState, [], 1, [], by simp, by simp,
    fun _ _ => rfl, by simp⟩

theorem partitionGetInfo_yields (env : FlashEnv) (name : Text) :
    Yields (StorageStep P c) (fun r => ∀ h, r = some h → NamedBy env name h)
      (partitionGetInfo env name) := by
  intro s
  simp only [partitionGetInfo, wp_bind, wp_get]
  have hstep : StorageStep P c s { s with lunUses := s.lunUses ++ [usedLun s] } :=
    useLun_usedLun_step s
  cases hfound : searchLuns env s.ptable name
    (List.range' (lunRange s).1 (min (lunRange s).2 MAX_LUNS - (lunRange s).1)) with
  | some h' =>
    refine ⟨hstep, ?_⟩
    intro h heq
    cases heq
    exact searchLuns_named hfound
  | none =>
    simp only [wp_ite]
    exact ⟨fun _ => hstep, fun _ => ⟨hstep, fun _ h => by cases h⟩⟩

/-! ### The routines for images -/

theorem onPartition_steps {α : Type} {m : Prog Disk Exit α} (hP : P (.handle h)) :
    Steps (StorageStep P c) (onPartition h m) := by
  intro s
  refine ⟨s.slots, fun h' => if h' = h then (m.exec (s.disks h)).2 else s.disks h',
    s.virtualAbMsg, s.snapshotMergeState, [.handle h], 0, [], ?_, by simpa using hP, ?_, by simp⟩
  · simp only [List.replicate_zero, List.append_nil]
    rfl
  · intro h' hh
    have hne : h' ≠ h := by simpa using hh
    dsimp only
    rw [if_neg hne]

theorem touch_steps {t : Target} (hP : P t) : Steps (StorageStep P c) (touch t) := by
  intro s
  exact ⟨s.slots, s.disks, s.virtualAbMsg, s.snapshotMergeState, [t], 0, [], by simp [touch],
    by simpa using hP, fun _ _ => rfl, by simp⟩

theorem updateBootAttr_steps (n : SlotName) : Steps (StorageStep P c) (updateBootAttr n) := by
  refine .when (.modify fun s => ?_)
  cases getPartitionIndex s.slots.ptnEntries
      (strnCatS (MAX_GPT_NAME_SIZE - 1) (wide "boot") n.suffix n.suffix.length) with
  | none => exact refl_of (StorageStep P c) s
  | some i => exact storageStep_slots s _

structure Permits (env : FlashEnv) (P : Target → Prop) (name : Text) : Prop where
  handle : ∀ n h, SlotNameOf name n → NamedBy env n h → P (.handle h)
  named : ∀ n, SlotNameOf name n → P (.named (unicodeStrToAsciiStr n))

theorem handleUbiVolFlash_steps (hP : P (.named (unicodeStrToAsciiStr name))) :
    Steps (StorageStep P c) (handleUbiVolFlash env name) :=
  .ite (.pure _) (.ite (.pure _) (.bind (touch_steps hP) fun _ => .pure _))

variable {addr size sz : Nat} {t : MergeState} {s s₀ : FlashState} {status : MergeStatus}
  {action : String}

theorem writeRawImg_steps {n : SlotName} (hP : P (.handle h)) :
    Steps (StorageStep P c) (writeRawImg env n h addr size) :=
  .ite (.pure _) (.bind .get fun _ => .bind (onPartition_steps hP) fun _ =>
    .bind (updateBootAttr_steps n) fun _ => .pure _)

theorem handleRawImgFlash_steps (hp : Permits env P name) :
    Steps (StorageStep P c) (handleRawImgFlash env name addr size) := by
  refine Yields.bind_steps (resolveName_yields env name) fun n hn =>
    Yields.bind_steps (partitionGetInfo_yields env n.name) fun r hr => ?_
  cases r with
  | none =>
    refine .bind (.ite ?_ (.pure _)) fun _ => .pure _
    exact handleUbiVolFlash_steps (hp.named _ (.refl name))
  | some h => exact .bind (writeRawImg_steps (hp.handle _ _ hn (hr h rfl))) fun _ => .pure _

theorem handleUbiImgFlash_steps (hp : Permits env P name) :
    Steps (StorageStep P c) (handleUbiImgFlash env name size) := by
  refine Yields.bind_steps (resolveName_yields env name) fun n hn =>
    Yields.bind_steps (partitionGetInfo_yields env n.name) fun r hr => ?_
  cases r with
  | none => exact .pure _
  | some h =>
    refine .bind (.ite (.pure _) (.ite (.pure _) (.ite (.pure _) ?_))) fun _ => .pure _
    exact .bind (touch_steps (hp.named _ hn)) fun _ => .pure _

theorem sparseImgFlash_steps (hp : ∀ h, NamedBy env name h → P (.handle h)) :
    Steps (StorageStep P c) (sparseImgFlash env name addr sz) := by
  refine .ite (.pure _) (Yields.bind_steps (partitionGetInfo_yields env name) fun r hr => ?_)
  cases r with
  | none => exact .pure _
  | some h => exact .bind .get fun _ => onPartition_steps (hp h (hr h rfl))

def entryRefused (env : FlashEnv) (image : Bytes) (i : Nat) : Bool :=
  !env.isUnlockCritical && isCriticalPartition (ImgHeaderEntry.ofBytes image i).name

def MetaRefused (env : FlashEnv) (image : Bytes) : Prop :=
  ∃ i < metaImages image, entryRefused env image i = true

theorem flashEntries_steps (addr sz : Nat) {image : Bytes}
    (hp : ∀ i, entryRefused env image i = false →
      Permits env P (ImgHeaderEntry.ofBytes image i).name) (left i : Nat)
    (hi : i + left ≤ metaImages image) :
    Steps (StorageStep P (MetaRefused env image)) (flashEntries env addr sz image left i) := by
  induction left generalizing i with
  | zero => exact .pure _
  | succ left ih =>
    refine .ite (.pure _) (.ite (.pure _) (.ite_of (fun hrefused => ?_) fun hrefused => ?_))
    · refine .bind (.modify fun s => ?_) fun _ => .pure _
      exact ⟨s.slots, s.disks, s.virtualAbMsg, s.snapshotMergeState, [], 0, [_], by simp; rfl,
        by simp, fun _ _ => rfl, fun _ => ⟨i, by omega, hrefused⟩⟩
    · refine .bind (handleRawImgFlash_steps (hp i (Bool.eq_false_iff.mpr hrefused))) fun _ => ?_
      exact .ite (.pure _) (ih (i + 1) (by omega))

theorem handleMetaImgFlash_step (s : FlashState)
    (hp : ∀ i, entryRefused env (s.memory.shift addr) i = false →
      Permits env P (ImgHeaderEntry.ofBytes (s.memory.shift addr) i).name) :
    StorageStep P (MetaRefused env (s.memory.shift addr)) s
      ((handleMetaImgFlash env addr sz).exec s).2 := by
  have hbody := flashEntries_steps addr sz hp (metaImages (s.memory.shift addr)) 0 (by omega)
  simp only [handleMetaImgFlash, exec_bind]
  exact Steps.ite (.pure _) (.ite (.pure _) (.ite (.pure _) (.ite (.pure _)
    (.bind hbody fun _ => .pure _)))) s

/-! ### The merge status -/

/-- Only the message that is held changes, into the stored one, an empty one or none. -/
def MessageRead (t t' : MergeState) : Prop :=
  t'.disk.contents = t.disk.contents ∧
    (t'.virtualAbMsg = t.virtualAbMsg ∨ t'.virtualAbMsg = none ∨
      t'.virtualAbMsg = some (fun _ => 0) ∨
      t'.virtualAbMsg = some (t.disk.contents.shift MISC_VIRTUALAB_OFFSET))

theorem readVirtualAbMsg_spec (t : MergeState) :
    wp (readVirtualAbMsg env) (fun _ t' => MessageRead t t') noExit t := by
  have hsame : MessageRead t t := ⟨rfl, .inl rfl⟩
  simp only [readVirtualAbMsg, wp_bind, wp_ite, wp_when]
  refine ⟨fun _ => hsame, fun _ => ⟨fun _ => hsame, fun _ => ⟨fun _ => hsame, fun _ =>
    ⟨fun _ => ⟨rfl, .inr (.inr (.inl rfl))⟩, fun halign => ⟨fun _ => ?_, fun _ => hsame⟩⟩⟩⟩⟩
  have hoffset : MISC_VIRTUALAB_OFFSET / (env.blockIo env.misc).blockSize *
      (env.blockIo env.misc).blockSize = MISC_VIRTUALAB_OFFSET :=
    Nat.div_mul_cancel (Nat.dvd_of_mod_eq_zero (by simpa using halign))
  refine ⟨rfl, .inr (.inr (.inr ?_))⟩
  rw [hoffset]
  rfl

theorem loadVirtualAbMsg_spec (t : MergeState) :
    wp (loadVirtualAbMsg env) (fun _ t' => MessageRead t t') noExit t := by
  simp only [loadVirtualAbMsg, wp_bind, wp_ite, wp_modify]
  refine ⟨fun _ => ⟨rfl, .inl rfl⟩, fun _ => ?_⟩
  refine wp_imp (readVirtualAbMsg_spec t) ?_
  rintro status t' ⟨hdisk, hmsg⟩
  refine ⟨fun _ => ⟨hdisk, hmsg⟩, fun _ => ⟨hdisk, ?_⟩⟩
  cases h : t'.virtualAbMsg with
  | none => exact .inr (.inl rfl)
  | some m =>
    by_cases hvalid : messageValid m = true
    · rw [Option.filter_some_pos hvalid, ← h]
      exact hmsg
    · rw [Option.filter_some_neg (by simpa using hvalid)]
      exact .inr (.inl rfl)

theorem mergePending_zero : mergePending 0 = false := by decide

/-- The merge status that is stored: in the message that was read, else in the misc partition. -/
def MergeState.stored (t : MergeState) : UInt8 :=
  match t.virtualAbMsg with
  | some msg => mergeStatusOf msg
  | none => mergeStatusOf (t.disk.contents.shift MISC_VIRTUALAB_OFFSET)

theorem MessageRead.pending_of {t' : MergeState} (hr : MessageRead t t')
    (ht : t.virtualAbMsg = none) (hpending : mergePending t'.stored = true) :
    mergePending t.stored = true := by
  obtain ⟨hdisk, hmsg⟩ := hr
  simp only [MergeState.stored, ht] at hpending ⊢
  rcases hmsg with hmsg | hmsg | hmsg | hmsg
  · simpa only [hmsg, ht, hdisk] using hpending
  · simpa only [hmsg, hdisk] using hpending
  · simp [hmsg, mergeStatusOf, mergePending_zero] at hpending
  · simpa only [hmsg] using hpending

/-- What reading the merge status leaves: a pending merge that is reported is the stored one, and
    the message of it is held. -/
structure MergeReported (t t' : MergeState) (status : UInt8) : Prop where
  contents : t'.disk.contents = t.disk.contents
  held : mergePending status = true → t'.virtualAbMsg.map mergeStatusOf = some status
  stored : mergePending t'.stored = true → mergePending t.stored = true

theorem readMergeStatus_spec (t : MergeState) :
    wp (readMergeStatus env) (fun status t' => MergeReported t t' status) noExit t := by
  simp only [readMergeStatus, wp_bind, wp_get]
  cases ht : t.virtualAbMsg with
  | some msg =>
    refine ⟨rfl, fun _ => ?_, fun h => h⟩
    rw [ht]
    rfl
  | none =>
    simp only [wp_bind]
    refine wp_imp (loadVirtualAbMsg_spec t) ?_
    intro _ t' hr
    refine ⟨hr.1, fun hpending => ?_, hr.pending_of ht⟩
    cases ht' : t'.virtualAbMsg with
    | none =>
      rw [ht'] at hpending
      exact absurd hpending (by decide)
    | some msg => rfl

def FlashState.mergeState (env : FlashEnv) (s : FlashState) : MergeState :=
  (FlashState.mergeLens env.misc).get s

theorem mergeLens_step (hcontents : t.disk.contents = (s.mergeState env).disk.contents) :
    StorageStep P c s ((FlashState.mergeLens env.misc).set s t) := by
  refine ⟨s.slots, fun h' => if h' = env.misc then t.disk else s.disks h', t.virtualAbMsg,
    s.snapshotMergeState, [], 0, [], by simp [FlashState.mergeLens, FlashState.diskLens], by simp,
    fun h' _ => ?_, by simp⟩
  dsimp only
  split
  case isTrue heq =>
    rw [heq, hcontents]
    rfl
  case isFalse => rfl

theorem getSnapshotMergeStatus_spec (s : FlashState) :
    wp (getSnapshotMergeStatus env)
      (fun status s' => StorageStep P c s s' ∧ s'.responses = s.responses ∧
        MergeReported (s.mergeState env) (s'.mergeState env) status) noExit s := by
  rw [getSnapshotMergeStatus, wp_zoom]
  refine wp_imp (readMergeStatus_spec (s.mergeState env)) ?_
  intro status t ht
  refine ⟨mergeLens_step ht.contents, rfl, ?_⟩
  rw [FlashState.mergeState, FlashState.mergeState, (FlashState.mergeLens env.misc).get_set]
  exact ht

theorem setSnapshotMergeStatus_steps (hP : P (.handle env.misc)) :
    Steps (StorageStep P c) (setSnapshotMergeStatus env status) := by
  have hmsg : ∀ msg, Steps (StorageStep P c)
      (modify fun s => { s with virtualAbMsg := some msg } : FlashProg PUnit) := by
    intro msg s
    exact ⟨s.slots, s.disks, some msg, s.snapshotMergeState, [], 0, [], by simp, by simp,
      fun _ _ => rfl, by simp⟩
  refine .bind .get fun s => ?_
  cases s.virtualAbMsg with
  | none => exact .pure _
  | some msg =>
    refine .bind (hmsg _) fun _ => .bind (.ite (.pure _) (.ite (.pure _) ?_)) fun _ =>
      .bind (.when (hmsg msg)) fun _ => .pure _
    exact onPartition_steps hP

/-! ### The checks of a name -/

structure Checked (P : Target → Prop) (s s' : FlashState) (allowed : Bool) : Prop where
  step : StorageStep P True s s'
  silent : allowed = true → s'.responses = s.responses
  answered : allowed = false → ∃ r, s'.responses = s.responses ++ [r]

theorem storageStep_responses (hc : c) (r : Response) :
    StorageStep P c s { s with responses := s.responses ++ [r] } :=
  ⟨s.slots, s.disks, s.virtualAbMsg, s.snapshotMergeState, [], 0, [r], by simp, by simp,
    fun _ _ => rfl, fun _ => hc⟩

theorem refuse_spec {E : Exit → FlashState → Prop} (text : String) (hstep : StorageStep P True s₀ s)
    (hsilent : s.responses = s₀.responses) :
    wp (refuse text) (fun allowed s' => Checked P s₀ s' allowed) E s := by
  refine ⟨trans_of (StorageStep P True) hstep (storageStep_responses trivial (.fail text)), nofun,
    fun _ => ⟨.fail text, ?_⟩⟩
  rw [← hsilent]
  rfl

def CancelsMerge (env : FlashEnv) (s : FlashState) (name : Text) : Prop :=
  env.isDynamicPartitionSupport = true ∧ strnCmp name (wide "super") 5 = true ∧
    mergePending (s.mergeState env).stored = true

theorem setSnapshotMergeStatus_spec (hP : P (.handle env.misc)) (s : FlashState) :
    wp (setSnapshotMergeStatus env status)
      (fun _ s' => StorageStep P True s s' ∧ s'.responses = s.responses)
      (fun _ s' => StorageStep P True s s') s := by
  refine wp_mono (wp_of_steps (setSnapshotMergeStatus_steps (P := P) (c := False) hP)) ?_ ?_
  · rintro r _ ⟨slots, disks, msg, state, new, n, rs, rfl, hnew, hsame, hc⟩
    exact ⟨⟨slots, disks, msg, state, new, n, rs, rfl, hnew, hsame, fun _ => trivial⟩,
      by simpa using hc⟩
  · rintro e _ ⟨slots, disks, msg, state, new, n, rs, rfl, hnew, hsame, -⟩
    exact ⟨slots, disks, msg, state, new, n, rs, rfl, hnew, hsame, fun _ => trivial⟩

theorem cancelMerge_spec (hP : P (.handle env.misc)) (hstep : StorageStep P True s₀ s)
    (hsilent : s.responses = s₀.responses) :
    wp (cancelMerge env) (fun allowed s' => Checked P s₀ s' allowed)
      (fun _ s' => StorageStep P True s₀ s') s := by
  simp only [cancelMerge, wp_bind]
  refine wp_mono (setSnapshotMergeStatus_spec hP s) ?_ fun _ s' h =>
    trans_of (StorageStep P True) hstep h
  rintro r s' ⟨h, hresp⟩
  have hstep' := trans_of (StorageStep P True) hstep h
  have hsilent' := hresp.trans hsilent
  simp only [wp_ite]
  refine ⟨fun _ => refuse_spec _ hstep' hsilent', fun _ =>
    ⟨?_, fun _ => hsilent', fun h => by cases h⟩⟩
  refine trans_of (StorageStep P True) hstep' ?_
  exact ⟨s'.slots, s'.disks, s'.virtualAbMsg, "none", [], 0, [], by simp, by simp,
    fun _ _ => rfl, by simp⟩

theorem checkSnapshot_spec (s : FlashState) (hP : CancelsMerge env s name → P (.handle env.misc)) :
    wp (checkSnapshot env action name) (fun allowed s' => Checked P s s' allowed)
      (fun _ s' => StorageStep P True s s') s := by
  have hdone : ∀ s', StorageStep P True s s' → s'.responses = s.responses →
      Checked P s s' true := fun s' h hr => ⟨h, fun _ => hr, nofun⟩
  simp only [checkSnapshot, wp_bind, wp_ite, wp_get]
  refine ⟨fun _ => hdone s (refl_of (StorageStep P True) s) rfl, fun hdynamic => ?_⟩
  refine wp_mono (getSnapshotMergeStatus_spec (P := P) (c := True) s) ?_
    fun _ _ hfalse => hfalse.elim
  rintro status₁ s₁ ⟨hstep₁, hsilent₁, h₁⟩
  refine ⟨fun _ => refuse_spec _ hstep₁ hsilent₁, fun _ => ?_⟩
  refine wp_mono (getSnapshotMergeStatus_spec (P := P) (c := True) s₁) ?_
    fun _ _ hfalse => hfalse.elim
  rintro status₂ s₂ ⟨hstep, hsilent, h₂⟩
  have hstep₂ := trans_of (StorageStep P True) hstep₁ hstep
  have hsilent₂ := hsilent.trans hsilent₁
  refine ⟨fun hsuper => ?_, fun _ => hdone s₂ hstep₂ hsilent₂⟩
  rw [Bool.and_eq_true] at hsuper
  -- the merge the second call reports is the stored one
  obtain ⟨msg, hmsg, hstatus⟩ := Option.map_eq_some_iff.mp (h₂.held hsuper.1)
  have hstored : mergePending (s₂.mergeState env).stored = true := by
    simpa only [MergeState.stored, hmsg, hstatus] using hsuper.1
  refine cancelMerge_spec (hP ⟨by simpa using hdynamic, hsuper.2, ?_⟩) hstep₂ hsilent₂
  exact h₁.stored (h₂.stored hstored)

theorem checkCommand_spec (s : FlashState)
    (hP : lockRefusal env action name = none → CancelsMerge env s name → P (.handle env.misc)) :
    wp (checkCommand env action name)
      (fun allowed s' => Checked P s s' allowed ∧
        (allowed = true → lockRefusal env action name = none))
      (fun _ s' => StorageStep P True s s') s := by
  unfold checkCommand
  cases hlock : lockRefusal env action name with
  | some text =>
    have hrefuse := refuse_spec (P := P) (E := fun _ s' => StorageStep P True s s') text
      (refl_of (StorageStep P True) s) rfl
    exact ⟨hrefuse, nofun⟩
  | none =>
    exact wp_imp (checkSnapshot_spec s (hP hlock)) fun allowed s' h => ⟨h, fun _ => rfl⟩

end StorageStep

/-! ### The branch for images -/

def FlashState.image (s : FlashState) : Bytes := s.memory.shift s.flashDataBuffer

def isMetaImage (image : Bytes) : Bool := decide (image.u32At 0 = META_HEADER_MAGIC)

/-- `P` allows the entries of the image, if it is a meta image, that are not refused. -/
def PermitsEntries (env : FlashEnv) (P : Target → Prop) (image : Bytes) : Prop :=
  isMetaImage image = true → ∀ i, entryRefused env image i = false →
    Permits env P (ImgHeaderEntry.ofBytes image i).name

def handed (s : FlashState) : FlashState :=
  { s with calls := s.calls ++ [⟨s.flashDataBuffer, s.flashNumDataBytes, s.image⟩] }

/-- What the branch of `CmdFlash` for images does to the state: a step of a routine, an answer or
    a note of its progress, the image handed to a routine, a job for a thread. -/
inductive ImageStep (env : FlashEnv) (P : Target → Prop) (J : Text → Prop) (s : FlashState) :
    FlashState → Prop where
  | storage {s' : FlashState} (h : StorageStep P True s s') : ImageStep env P J s s'
  | note (rs : List Response) (result : EfiStatus) (complete event started : Bool) :
    ImageStep env P J s { s with
      responses := rs
      flashResult := result
      isFlashComplete := complete
      usbTimerEvent := event
      usbTimerStarted := started }
  | handOver : ImageStep env P J s (handed s)
  | job (n : Text) (hthreads : env.isUseMThreadParallel = true) (hJ : J n) :
    ImageStep env P J s
      { s with jobs := s.jobs ++ [⟨n, s.flashDataBuffer, s.flashNumDataBytes⟩] }

abbrev ImageSteps (env : FlashEnv) (P : Target → Prop) (J : Text → Prop) :=
  Relation.ReflTransGen (ImageStep env P J)

section ImageSteps

variable {env : FlashEnv} {P : Target → Prop} {J : Text → Prop} {name : Text} {α : Type}

theorem permits_any : Permits env (fun _ => True) name :=
  ⟨fun _ _ _ _ => trivial, fun _ _ => trivial⟩

theorem storage_image {m : FlashProg α} (h : Steps (StorageStep P True) m) :
    Steps (ImageSteps env P J) m :=
  h.mono fun _ _ h => .single (.storage h)

theorem modify_image {f : FlashState → FlashState} (h : ∀ s, ImageStep env P J s (f s)) :
    Steps (ImageSteps env P J) (modify f : FlashProg PUnit) :=
  .modify fun s => .single (h s)

theorem okay_image (text : String) : Steps (ImageSteps env P J) (okay text) :=
  modify_image fun _ => .note _ _ _ _ _

theorem fail_image (text : String) : Steps (ImageSteps env P J) (fail text) :=
  modify_image fun _ => .note _ _ _ _ _

theorem answer_image (n : Text) : Steps (ImageSteps env P J) (answer env n) :=
  .bind .get fun _ => .ite (.bind (fail_image _) fun _ => modify_image fun _ => .note _ _ _ _ _)
    (okay_image _)

theorem startParallel_image (hJ : J name) :
    Steps (ImageSteps env P J) (startParallel env name) := by
  refine .ite_of (fun hthreads => .ite (.pure _) (.ite (.pure _) ?_)) fun _ => ?_
  · exact .bind (modify_image fun _ => .handOver) fun _ =>
      .bind (modify_image fun _ => .job name hthreads hJ) fun _ => .pure _
  · refine .bind (modify_image fun _ => .note _ _ _ _ _) fun _ =>
      .bind (.bind .get fun _ => .ite (.pure _) (.ite (.pure _) (.bind ?_ fun _ => .pure _)))
        fun _ =>
        .ite (.bind ?_ fun _ => .bind ?_ fun _ => .pure _) (.bind ?_ fun _ => .pure _)
    all_goals exact modify_image fun _ => .note _ _ _ _ _

theorem finishSparse_image {size : Nat} {status : EfiStatus}
    (hp : ∀ h, NamedBy env name h → P (.handle h)) :
    Steps (ImageSteps env P J) (finishSparse env name size status) := by
  refine .bind (.when ?_) fun _ => .when (answer_image _)
  exact .bind .get fun _ => .bind (modify_image fun _ => .handOver) fun _ =>
    .bind (storage_image (sparseImgFlash_steps hp)) fun _ =>
      .bind (modify_image fun _ => .note _ _ _ _ _) fun _ => modify_image fun _ => .note _ _ _ _ _

theorem flashSparseImg_image (hp : Permits env P name) (hJ : ∀ n, SlotNameOf name n → J n) :
    Steps (ImageSteps env P J) (flashSparseImg env name) := by
  have hresolve : Yields (ImageSteps env P J) (fun n => SlotNameOf name n.name)
      (resolveName env name) :=
    (resolveName_yields (P := P) (c := True) env name).imp fun _ _ h => .single (.storage h)
  refine Yields.bind_steps hresolve fun n hn =>
    .bind (storage_image (partitionGetInfo_yields env n.name).steps) fun r => ?_
  have hpn : ∀ h, NamedBy env n.name h → P (.handle h) := fun h hnamed => hp.handle _ h hn hnamed
  cases r with
  | none => exact .bind (fail_image _) fun _ => .pure _
  | some h =>
    refine .ite (.bind (fail_image _) fun _ => .pure _)
      (.ite (.ite (.pure _) (.bind ?_ fun _ => .pure _))
        (.bind (finishSparse_image hpn) fun _ => .pure _))
    exact .bind (startParallel_image (hJ _ hn)) fun _ => .bind (.when (okay_image _)) fun _ =>
      finishSparse_image hpn

variable {s : FlashState}

theorem StorageStep.imp {c c' : Prop} {s' : FlashState} (h : StorageStep P c s s') (hc : c → c') :
    StorageStep P c' s s' := by
  obtain ⟨slots, disks, msg, state, new, n, rs, hs', hnew, hsame, hrs⟩ := h
  exact ⟨slots, disks, msg, state, new, n, rs, hs', hnew, hsame, fun h => hc (hrs h)⟩

theorem flashOther_image (hp : Permits env P name) (hmeta : PermitsEntries env P s.image) :
    StorageStep P True s
      ((flashOther env name s.flashDataBuffer s.flashNumDataBytes s.image).exec s).2 := by
  unfold flashOther
  split_ifs with hubi hmagic
  · exact handleUbiImgFlash_steps hp s
  · refine wp_final ?_
    simp only [wp_bind]
    exact wp_of_final
      ((handleMetaImgFlash_step s (hmeta (decide_eq_true hmagic))).imp fun _ => trivial)
  · exact handleRawImgFlash_steps hp s

/-- The steps of the branch for images; the image of the start is the one that is flashed. -/
theorem flashImage_image (hp : Permits env P name) (hJ : ∀ n, SlotNameOf name n → J n)
    (hmeta : PermitsEntries env P s.image) :
    ImageSteps env P J s ((flashImage env name).exec s).2 := by
  refine wp_final (R := ImageSteps env P J s) ?_
  simp only [flashImage, wp_bind, wp_ite]
  refine ⟨fun _ => wp_of_steps (flashSparseImg_image hp hJ), fun _ => ?_⟩
  -- the image is recorded, which changes nothing the routine reads
  have hstart : ImageSteps env P J s (handed s) := .single .handOver
  have hother := flashOther_image (s := handed s) hp hmeta
  rw [handOver, wp_modify]
  refine wp_imp (wp_after hstart (.single (.storage hother))) fun r s' h => ?_
  exact wp_after (h.tail (.note _ _ _ _ _)) (answer_image _ _)

theorem flashImage_any :
    Steps (ImageSteps env (fun _ => True) fun _ => True) (flashImage env name) :=
  fun _ => flashImage_image permits_any (fun _ _ => trivial) fun _ _ _ => permits_any

end ImageSteps

/-! ### The end of the branch for tables -/

/-- After a table was written the tables in memory are renewed, with lookups on the LUN of the
    command, and the command is answered. -/
def TableEnd (s s' : FlashState) : Prop :=
  ∃ lunSet ptable slots n rs,
    s' = { s with
      lunSet := lunSet
      ptable := ptable
      slots := slots
      lunUses := s.lunUses ++ List.replicate n s.lun
      responses := s.responses ++ rs }

section TableEnd

variable {env : FlashEnv} {s s' : FlashState}

theorem tableEnd_of_eq {lunSet : Bool} {ptable : Ptable} {slots : SlotState}
    (h : s' = { s with lunSet := lunSet, ptable := ptable, slots := slots }) : TableEnd s s' :=
  ⟨lunSet, ptable, slots, 0, [], by simpa using h⟩

instance : Std.Refl TableEnd := ⟨fun _ => tableEnd_of_eq rfl⟩

instance : IsTrans FlashState TableEnd where
  trans := by
    rintro s _ _ ⟨set, table, slots, n, rs, rfl⟩ ⟨set', table', slots', n', rs', rfl⟩
    exact ⟨set', table', slots', n + n', rs ++ rs', by simp [← List.replicate_append_replicate]⟩

theorem partitionDump_table : Steps TableEnd partitionDump :=
  .bind .get fun _ => .ite (.throw _) (.pure _)

theorem isBootPtnUpdated_table : Steps TableEnd (isBootPtnUpdated env) := by
  intro s
  have huse : TableEnd s { s with lunUses := s.lunUses ++ [s.lun] } :=
    ⟨s.lunSet, s.ptable, s.slots, 1, [], by simp⟩
  refine wp_final (R := TableEnd s) ?_
  simp only [isBootPtnUpdated, wp_bind, wp_ite]
  exact ⟨fun _ => huse, fun _ => huse⟩

theorem reenumeratePartTable_table : Steps TableEnd (reenumeratePartTable env) := by
  refine .bind (.modify fun _ => tableEnd_of_eq rfl) fun _ => .ite (.pure _) (.ite (.pure _)
    (.bind (.modify fun _ => tableEnd_of_eq rfl) fun _ => .ite (.pure _)
      (.bind (.modify fun _ => tableEnd_of_eq rfl) fun _ => .bind isBootPtnUpdated_table fun _ =>
        .bind ?_ fun _ => .bind partitionDump_table fun _ => .pure _)))
  refine .bind .get fun _ => .when (.bind (.zoom_any fun _ _ => ?_) fun _ => .pure _)
  exact tableEnd_of_eq rfl

theorem finishTable_table (status : EfiStatus) : Steps TableEnd (finishTable env status) := by
  have hanswer : ∀ status, Steps TableEnd (answerTable status) :=
    fun _ => .ite (.modify fun s => ⟨s.lunSet, s.ptable, s.slots, 0, [_], by simp; rfl⟩)
      (.modify fun s => ⟨s.lunSet, s.ptable, s.slots, 0, [_], by simp; rfl⟩)
  exact .ite (.bind reenumeratePartTable_table hanswer) (hanswer _)

end TableEnd

/-! ### CmdErase -/

section Erase

variable {env : FlashEnv} {P : Target → Prop} {name : Text}

theorem erasePartition_steps {h : Handle} (hP : P (.handle h)) :
    Steps (StorageStep P True) (erasePartition env h) := by
  refine .ite (.pure _) (.ite (.pure _) ?_)
  intro s
  refine wp_final (R := StorageStep P True s) ?_
  simp only [wp_bind, wp_ite]
  refine ⟨fun _ => touch_steps hP s, fun _ => ?_⟩
  exact onPartition_steps (m := modify fun d => { d with contents := env.erased h }) hP s

theorem eraseNamed_steps (hp : Permits env P name) :
    Steps (StorageStep P True) (eraseNamed env name) := by
  have hanswer : ∀ r s, StorageStep P True s { s with responses := s.responses ++ [r] } :=
    fun r _ => storageStep_responses trivial r
  refine Yields.bind_steps (resolveName_yields env name) fun n hn => .bind ?_ fun _ =>
    .ite (.modify (hanswer _)) (.bind (updateBootAttr_steps n) fun _ => .modify (hanswer _))
  refine Yields.bind_steps (partitionGetInfo_yields env n.name) fun r hr => ?_
  cases r with
  | none => exact .pure _
  | some h =>
    exact .bind (erasePartition_steps (hp.handle _ h hn (hr h rfl))) fun _ =>
      .ite (.pure _) (.pure _)

end Erase

/-! ### A small device -/

/-- An unlocked UFS device with a user build, on which every operation succeeds. -/
def smallFlashEnv : FlashEnv where
  slots :=
    { recoveryInfo := false, riLocateProtocol := EFI_SUCCESS, riGetBootSet := EFI_SUCCESS
      riBootSet := 0, atomicAB := false, rootDeviceType := .UFS, ufsCardInfo := EFI_SUCCESS
      getBootLU := true, setBootLU := true, targetBuildVariantUser := true
      abRetryCountDisabled := false, bootDevImage := false, abRetryCountUpdateRequired := false
      allocateNode := fun _ => true }
  storage := ufsStorage
  sameDevice := rfl
  avbVersion := .AVB_2
  isUnlocked := true
  isUnlockCritical := false
  isDynamicPartitionSupport := true
  isUseMThreadParallel := false
  isDisableParallelDownloadFlash := false
  ubiVolumeFlashing := false
  maxDownLoadSize := 4096
  pageSize := 4096
  blockIo := fun _ => ⟨4096, 15, page_lt, by decide, fun _ => EFI_SUCCESS⟩
  record := fun h => if h = 0 then some ⟨wide "misc", 0, 0, 0⟩ else some ⟨wide "system", 0, 0, 0⟩
  miscHandles := ⟨EFI_SUCCESS, 1⟩
  misc := 0
  allocateMessage := true
  allocateFlashInfo := true
  threadCreate := true
  threadResume := EFI_SUCCESS
  createTimer := EFI_SUCCESS
  setTimer := EFI_SUCCESS
  storeUserKey := EFI_SUCCESS
  eraseUserKey := EFI_SUCCESS
  updateDevInfo := EFI_SUCCESS
  resetDeviceState := EFI_SUCCESS
  ubiLocate := EFI_NOT_FOUND
  ubiOpen := EFI_SUCCESS
  ubiWrite := EFI_SUCCESS
  ubiClose := EFI_SUCCESS
  eraseProtocol := fun _ => EFI_SUCCESS
  eraseBlocks := fun _ => EFI_SUCCESS
  erased := fun _ _ => 0
  gpt := fun _ => sampleGptEnv
  createRefresh := EFI_SUCCESS
  signalRefresh := EFI_SUCCESS
  enumeratePartitions := (EFI_SUCCESS, ⟨fun _ => [], 1, by decide⟩)
  statusText := fun _ => "Error"

def smallFlashState : FlashState where
  slots := ⟨[], false, [], 1⟩
  ptable := ⟨fun i => if i = 0 then [0, 1] else [], 1, by decide⟩
  disks := fun _ => ⟨fun _ => 0, 0, []⟩
  rootDisks := fun _ => ⟨fun _ => 0, 0, []⟩
  parseSecondaryGpt := false
  flashingGpt := false
  memory := fun _ => 0
  usbDataBuffer := 4096
  flashDataBuffer := 8192
  numDataBytes := 100
  flashNumDataBytes := 4096
  virtualAbMsg := none
  snapshotMergeState := "none"
  lun := NO_LUN
  lunSet := false
  flashResult := EFI_SUCCESS
  isFlashComplete := true
  usbTimerEvent := false
  usbTimerStarted := false
  isEnforcing := true
  jobs := []
  responses := []
  touched := []
  lunUses := []
  calls := []

/-- A message with a merge that is going on: the version, the magic and the status. -/
def mergingMessage : Bytes := fun i =>
  [2, 0xB0, 0x0A, 0x74, 0x56, MergeStatus.MERGING.code].getD i 0

end OhMyAbl
