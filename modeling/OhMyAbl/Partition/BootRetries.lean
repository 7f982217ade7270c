/-
  **How often a slot that never succeeds is booted.**

  Each boot that `FindBootableSlot` gives to a slot that is not SUCCESSFUL uses one of its retries,
  and nothing refills the counter of such a slot.  A slot that was refused stays refused, except
  when `ValidateSlotGuids` could not read the boot LUN.
-/
import OhMyAbl.Partition.SlotFlags

namespace OhMyAbl

open Prog

structure CountsRetries (env : SlotEnv) : Prop where
  recoveryInfo : env.recoveryInfo = false
  enabled : env.abRetryCountDisabled = false
  bootImage : env.bootDevImage = false
  required : env.abRetryCountUpdateRequired = true

/-! ### What a boot does to one slot -/

section Retries

variable {env : SlotEnv} {s t u : SlotState} {x y slot : Text} {e : PartitionEntry} {m n : Nat}

/-- The slot has used at least `n` retries, and got none and no verdict back. -/
def Spends (env : SlotEnv) (slot : Text) (n : Nat) (s u : SlotState) : Prop :=
  ∀ e, bootEntry env s slot = some e → ∃ e', bootEntry env u slot = some e' ∧
    e'.successful = e.successful ∧ (e.unbootable = true → e'.unbootable = true) ∧
    e'.retryCount.toNat + n ≤ e.retryCount.toNat

theorem Spends.trans (h : Spends env slot m s t) (h' : Spends env slot n t u) :
    Spends env slot (m + n) s u := by
  intro e he
  obtain ⟨e₁, he₁, hsucc, hunboot, hretry⟩ := h e he
  obtain ⟨e₂, he₂, hsucc', hunboot', hretry'⟩ := h' e₁ he₁
  exact ⟨e₂, he₂, hsucc'.trans hsucc, fun hu => hunboot' (hunboot hu), by omega⟩

theorem spends_of_eq (h : bootEntry env u slot = bootEntry env s slot) : Spends env slot 0 s u :=
  fun e he => ⟨e, h.trans he, rfl, id, Nat.le_refl _⟩

variable {f : PartitionEntry → PartitionEntry} {i : Nat} {r : Except Exit (EfiStatus × Text)}

theorem spends_of_map (h : bootEntry env u slot = (bootEntry env s slot).map f)
    (hf : ∀ e, bootEntry env s slot = some e → (f e).successful = e.successful ∧
      (e.unbootable = true → (f e).unbootable = true) ∧
      (f e).retryCount.toNat + n ≤ e.retryCount.toNat) : Spends env slot n s u := by
  intro e he
  obtain ⟨hsucc, hunboot, hretry⟩ := hf e he
  exact ⟨f e, by rw [h, he, Option.map_some], hsucc, hunboot, hretry⟩

theorem bootEntry_updateEntry_cases (hf : KeepsName f) (hx : IsSlot x)
    (hy : IsSlot y) (hi : getBootPartitionEntry env t.ptnEntries x = some i) :
    (y = x ∧ bootEntry env (t.updateEntry i f) y = (bootEntry env t y).map f) ∨
      (y ≠ x ∧ bootEntry env (t.updateEntry i f) y = bootEntry env t y) := by
  by_cases hxy : y = x
  · subst hxy
    exact .inl ⟨rfl, bootEntry_updateEntry_self hf hi⟩
  · right
    refine ⟨hxy, ?_⟩
    cases hj : getBootPartitionEntry env t.ptnEntries y with
    | none =>
      have hj' := hj
      rw [← getBootPartitionEntry_names (names_modify hf t.ptnEntries i)] at hj'
      simp [bootEntry, SlotState.updateEntry, hj, hj']
    | some j =>
      refine bootEntry_updateEntry_ne hf hj ?_
      obtain rfl | rfl := hx
      · obtain rfl | rfl := hy
        · exact absurd rfl hxy
        · exact bootIndex_ne hi hj
      · obtain rfl | rfl := hy
        · exact (bootIndex_ne hj hi).symm
        · exact absurd rfl hxy

theorem retryCount_useRetry (h : e.retryCount ≠ 0) :
    e.useRetry.retryCount.toNat + 1 = e.retryCount.toNat := by
  have hlt : e.retryCount.toNat < 8 := Nat.lt_of_le_of_lt (field_le _ _ _) (by decide)
  -- the seven counts, each written over a cleared field and read back
  have hback : ∀ k < 8, k ≠ 0 →
      ((((BitVec.ofNat 64 k - 1) <<< PART_ATT_MAX_RETRY_CNT_BIT) &&&
        PART_ATT_MAX_RETRY_COUNT_VAL) >>>
        PART_ATT_MAX_RETRY_CNT_BIT).toNat + 1 = k := by
    decide
  have hzero : e.retryCount.toNat ≠ 0 := fun hz => h (BitVec.eq_of_toNat_eq hz)
  have hcount := hback _ hlt hzero
  rw [BitVec.ofNat_toNat, BitVec.setWidth_eq] at hcount
  have hclear : e.useRetry.attributes &&& PART_ATT_MAX_RETRY_COUNT_VAL =
      ((e.retryCount - 1) <<< PART_ATT_MAX_RETRY_CNT_BIT) &&& PART_ATT_MAX_RETRY_COUNT_VAL :=
    Bits.andNot_or_and _ _
  rw [PartitionEntry.retryCount, hclear]
  exact hcount

theorem spends_markPtnActive (env : SlotEnv) (slot x : Text) (s : SlotState) :
    Spends env slot 0 s (markPtnActive x s) := by
  refine spends_of_map bootEntry_markPtnActive fun e _ => ?_
  obtain ⟨hs, hu⟩ := sameVerdict_markActive (e := e) x
  refine ⟨hs, fun h => hu.trans h, ?_⟩
  rw [retryCount_markActive]
  exact Nat.le_refl _

theorem Tried.spends (h : Tried env t x e u) (hcounts : CountsRetries env) (hx : IsSlot x)
    (hslot : IsSlot slot) (he : bootEntry env t x = some e) :
    Spends env slot 0 t u ∧ (slot = x → e.successful = false → Spends env slot 1 t u) := by
  cases h with
  | kept hkept =>
    have hcount : countsRetries env = true := by
      simp [countsRetries, hcounts.enabled, hcounts.bootImage, hcounts.required]
    refine ⟨spends_of_eq rfl, fun _ hfail => ?_⟩
    simp [hfail, hcount] at hkept
  | @retry i hfail hretry hi =>
    obtain ⟨rfl, hmap⟩ | ⟨hne, hsame⟩ :=
      bootEntry_updateEntry_cases keepsName_useRetry hx hslot hi
    · have hone : Spends env slot 1 t (t.updateEntry i PartitionEntry.useRetry) := by
        refine spends_of_map hmap fun e' he' => ?_
        rw [he, Option.some.injEq] at he'
        subst he'
        obtain ⟨hs, hu⟩ := sameVerdict_useRetry hretry
        exact ⟨hs, fun hb => hu.trans hb, Nat.le_of_eq (retryCount_useRetry hretry)⟩
      refine ⟨fun e' he' => ?_, fun _ _ => hone⟩
      obtain ⟨e'', he'', hsucc, hunboot, hcount⟩ := hone e' he'
      exact ⟨e'', he'', hsucc, hunboot, by omega⟩
    · exact ⟨spends_of_eq hsame, fun heq => absurd heq hne⟩

theorem Marked.spends (h : Marked env t x u) (hx : IsSlot x)
    (hslot : IsSlot slot) : Spends env slot 0 t u := by
  cases h with
  | spared => exact spends_of_eq rfl
  | unbootable hi =>
    obtain ⟨-, hmap⟩ | ⟨-, hsame⟩ :=
      bootEntry_updateEntry_cases (keepsName_setMask PART_ATT_UNBOOTABLE_VAL) hx hslot hi
    · refine spends_of_map hmap fun e _ => ⟨?_, fun _ => ?_, ?_⟩
      · rw [PartitionEntry.successful, Bits.test, PartitionEntry.setMask,
          Bits.or_and_of_disjoint (by decide)]
        rfl
      · rw [PartitionEntry.unbootable, Bits.test, PartitionEntry.setMask,
          Bits.or_and_of_le BitVec.and_self]
        decide
      · rw [retryCount_setMask (by decide)]
        exact Nat.le_refl _
    · exact spends_of_eq hsame

/-! ### No first boot while a slot is held -/

/-- A slot is marked active in a way that keeps `GetActiveSlot` from its first-boot branch. -/
def Held (env : SlotEnv) (s : SlotState) : Prop :=
  ∃ a b, bootEntry env s slotA = some a ∧ bootEntry env s slotB = some b ∧
    (a.active = true ∨ (b.active = true ∧ 0 < b.priority))

theorem Held.settle (h : Held env s) : settle env s = s := by
  obtain ⟨a, b, ha, hb, hactive⟩ := h
  refine settle_eq_of_not (Bool.eq_false_iff.mpr fun hdefault => ?_)
  obtain ⟨a', b', hdef⟩ := setsDefault_cases hdefault
  obtain rfl : a = a' := Option.some.inj (ha.symm.trans hdef.entryA)
  obtain rfl : b = b' := Option.some.inj (hb.symm.trans hdef.entryB)
  have hchoose := hdef.choose
  have hnever := hdef.unused
  simp only [PartitionEntry.neverUsed, Bool.and_eq_true, Bool.not_eq_true'] at hnever
  obtain hA | ⟨hB, hprio⟩ := hactive
  · exact absurd (hA.symm.trans hnever.1.1.1) (by decide)
  · simp only [chooseSlot, hnever.1.1.1, Bool.false_and, Bool.false_eq_true, if_false, hB,
      decide_eq_true hprio] at hchoose
    exact absurd hchoose (by decide)

def KeepsRank (env : SlotEnv) (t u : SlotState) : Prop :=
  ∀ y, y = slotA ∨ y = slotB → ∀ e, bootEntry env t y = some e →
    ∃ e', bootEntry env u y = some e' ∧ SameRank e e'

theorem Held.rank (h : Held env t) (hrank : KeepsRank env t u) : Held env u := by
  obtain ⟨a, b, ha, hb, hactive⟩ := h
  obtain ⟨a', ha', hra⟩ := hrank slotA (.inl rfl) a ha
  obtain ⟨b', hb', hrb⟩ := hrank slotB (.inr rfl) b hb
  refine ⟨a', b', ha', hb', ?_⟩
  rw [hra.1, hrb.1, hrb.2]
  exact hactive

theorem keepsRank_updateEntry (hf : KeepsName f) (hx : IsSlot x)
    (hi : getBootPartitionEntry env t.ptnEntries x = some i)
    (hrank : ∀ e, bootEntry env t x = some e → SameRank e (f e)) :
    KeepsRank env t (t.updateEntry i f) := by
  intro y hy e he
  obtain ⟨rfl, hmap⟩ | ⟨-, hsame⟩ := bootEntry_updateEntry_cases hf hx hy hi
  · exact ⟨f e, by rw [hmap, he, Option.map_some], hrank e he⟩
  · exact ⟨e, hsame.trans he, rfl, rfl⟩

theorem Tried.keepsRank (h : Tried env t x e u) (hx : IsSlot x)
    (he : bootEntry env t x = some e) : KeepsRank env t u := by
  cases h with
  | kept _ => exact fun y _ e he => ⟨e, he, rfl, rfl⟩
  | retry _ hretry hi =>
    refine keepsRank_updateEntry keepsName_useRetry hx hi fun e' he' => ?_
    rw [he, Option.some.injEq] at he'
    exact he' ▸ ⟨active_useRetry hretry, priority_useRetry hretry⟩

theorem Marked.keepsRank (h : Marked env t x u) (hx : IsSlot x) : KeepsRank env t u := by
  cases h with
  | spared => exact fun y _ e he => ⟨e, he, rfl, rfl⟩
  | unbootable hi =>
    exact keepsRank_updateEntry (keepsName_setMask _) hx hi fun _ _ =>
      ⟨active_setMask (by decide), priority_setMask (by decide)⟩

theorem Held.mark (hri : env.recoveryInfo = false) (hatomic : env.atomicAB = false)
    (h : Held env u) (hres : activeResult env u = (EFI_SUCCESS, x))
    (hx : IsSlot x) : Held env (markPtnActive x u) := by
  have hset := h.settle
  obtain ⟨a, b, ha, hb, -⟩ := h
  refine ⟨markActive x a, markActive x b, ?_, ?_, ?_⟩
  · rw [bootEntry_markPtnActive, ha, Option.map_some]
  · rw [bootEntry_markPtnActive, hb, Option.map_some]
  obtain rfl | rfl := hx
  · left
    rw [active_markActive]
    exact (isSuffixOf_bootName hri (.inl rfl) ha).1
  · right
    obtain ⟨hchoose, -⟩ := ActiveAt.choose ⟨hres, hset⟩ hri hatomic ha hb
    rw [active_markActive, priority_markActive]
    exact ⟨(isSuffixOf_bootName hri (.inr rfl) hb).1, (chooseSlot_slotB hchoose).2⟩

theorem held_setActiveSlot (hri : env.recoveryInfo = false)
    (hok : (activeResult env u).1 = EFI_SUCCESS) (hx : IsSlot x) (reset : Bool) :
    Held env ((setActiveSlot env x reset).exec u).2 := by
  obtain ⟨v, hrewritten, hexec⟩ := setActiveSlot_rewrites reset hok hx
  obtain ⟨e, o, he, ho, hfresh, -⟩ :=
    switchToSlot_entries (activeResult env u).2 hri hx hrewritten
  rw [hexec]
  obtain ⟨rfl, halt⟩ | ⟨rfl, halt⟩ := alternateSlot_cases hx
  · exact ⟨e, o, he, ho, .inl hfresh.active⟩
  · refine ⟨o, e, ho, he, .inr ⟨hfresh.active, ?_⟩⟩
    rw [hfresh.priority]
    decide

/-! ### The boots a slot has left -/

def bootsLeft (env : SlotEnv) (slot : Text) (s : SlotState) : Nat :=
  ((bootEntry env s slot).map fun e => if e.unbootable then 0 else e.retryCount.toNat).getD 0

theorem bootsLeft_eq (he : bootEntry env s slot = some e) :
    bootsLeft env slot s = if e.unbootable then 0 else e.retryCount.toNat := by
  rw [bootsLeft, he, Option.map_some, Option.getD_some]

theorem Spends.bootsLeft (h : Spends env slot n s u) (he : bootEntry env s slot = some e)
    (hn : n = 0 ∨ e.unbootable = false) :
    OhMyAbl.bootsLeft env slot u + n ≤ OhMyAbl.bootsLeft env slot s := by
  obtain ⟨e', he', -, hunboot, hretry⟩ := h e he
  rw [bootsLeft_eq he, bootsLeft_eq he']
  cases hu : e.unbootable with
  | true =>
    obtain rfl : n = 0 := hn.resolve_right (by simp [hu])
    simp [hunboot hu]
  | false =>
    simp only [Bool.false_eq_true, if_false]
    split
    · omega
    · exact hretry

structure RetryInv (env : SlotEnv) (slot : Text) (s : SlotState) : Prop where
  fails : ∃ e, bootEntry env s slot = some e ∧ e.successful = false
  held : slot = slotA → env.atomicAB = true ∨ Held env s

theorem RetryInv.settle (h : RetryInv env slot s) (hslot : IsSlot slot) :
    Spends env slot 0 s (OhMyAbl.settle env s) ∧ (slot = slotA → OhMyAbl.settle env s = s) := by
  obtain rfl | rfl := hslot
  · have hset : OhMyAbl.settle env s = s := by
      obtain hatomic | hheld := h.held rfl
      · exact settle_eq_of_not (by simp [setsDefault, hatomic])
      · exact hheld.settle
    exact ⟨spends_of_eq (by rw [hset]), fun _ => hset⟩
  · exact ⟨spends_of_eq bootEntry_settle_slotB, fun h => absurd h (by decide)⟩

theorem Spends.fails (h : Spends env slot n s u)
    (hfail : ∃ e, bootEntry env s slot = some e ∧ e.successful = false) :
    ∃ e, bootEntry env u slot = some e ∧ e.successful = false := by
  obtain ⟨e, he, hs⟩ := hfail
  obtain ⟨e', he', hs', -⟩ := h e he
  exact ⟨e', he', hs'.trans hs⟩

theorem alternateSlot_of_ne (hx : IsSlot x) (hslot : IsSlot slot)
    (h : slot ≠ x) : alternateSlot x = slot := by
  obtain rfl | rfl := hx <;> obtain rfl | rfl := hslot <;> first | exact absurd rfl h | decide

theorem spends_switched (hslot : IsSlot slot) (hat : ActiveAt env t slot)
    (hmarked : Marked env t slot u) :
    Spends env slot 0 t ((setActiveSlot env (alternateSlot slot) false).exec u).2 := by
  obtain ⟨hat', -⟩ := hmarked.frame hat hslot
  have hback : alternateSlot (alternateSlot slot) = slot := by
    obtain rfl | rfl := hslot <;> decide
  refine (hmarked.spends hslot hslot).trans (n := 0) fun e' he' => ?_
  rw [← hat'.settled, ← hback] at he'
  obtain ⟨o', ho', ⟨hs, hu⟩, hretry⟩ :=
    setActiveSlot_other false hat'.ok (alternateSlot_slot hslot) he'
  rw [hback] at ho'
  exact ⟨o', ho', hs, fun hb => hu.trans hb, by rw [hretry]; exact Nat.le_refl _⟩

theorem ok_ne_of_status {status : EfiStatus} (h : status ≠ EFI_SUCCESS) :
    (.ok (status, y) : Except Exit (EfiStatus × Text)) ≠ .ok (EFI_SUCCESS, slot) := by
  intro heq
  rw [Except.ok.injEq, Prod.mk.injEq] at heq
  exact h heq.1

/-- The slot that is switched to has succeeded, so it is not the one that never does. -/
theorem RetryInv.eq_of_switched (h : RetryInv env slot s) (hx : IsSlot x) (hslot : IsSlot slot)
    (hother : otherSlotBootable env s x = true) : slot = x := by
  by_contra hne
  obtain ⟨e, he, hs⟩ := h.fails
  simp [otherSlotBootable, slotBootable, alternateSlot_of_ne hx hslot hne, he, hs] at hother

theorem BootStep.retries (hcounts : CountsRetries env) (hslot : IsSlot slot)
    (hinv : RetryInv env slot s) (h : BootStep env s r u) :
    RetryInv env slot u ∧
      bootsLeft env slot u + (if r = .ok (EFI_SUCCESS, slot) then 1 else 0) ≤
        bootsLeft env slot s := by
  have hri := hcounts.recoveryInfo
  obtain ⟨hsettle, hsame⟩ := hinv.settle hslot
  have hheld : slot = slotA → env.atomicAB = true ∨ Held env (settle env s) := by
    intro hA
    rw [hsame hA]
    exact hinv.held hA
  obtain ⟨e₀, he₀, hfail₀⟩ := hinv.fails
  have hcount : ∀ {r : Except Exit (EfiStatus × Text)} {v : SlotState}, Spends env slot 0 s v →
      r ≠ .ok (EFI_SUCCESS, slot) →
      bootsLeft env slot v + (if r = .ok (EFI_SUCCESS, slot) then 1 else 0) ≤
        bootsLeft env slot s := by
    intro r v hv hr
    rw [if_neg hr]
    exact hv.bootsLeft he₀ (.inl rfl)
  cases h with
  | noActive hno =>
    exact ⟨⟨hsettle.fails hinv.fails, hheld⟩, hcount hsettle (ok_ne_of_status hno)⟩
  | @chosen x e v hres he hboot htried hvalid =>
    have hx := slot_of_activeResult hri hres
    obtain ⟨hzero, hone⟩ := htried.spends hcounts hx hslot he
    have hall := (hsettle.trans hzero).trans (spends_markPtnActive env slot x v)
    refine ⟨⟨hall.fails hinv.fails, fun hA => ?_⟩, ?_⟩
    · cases hatomic : env.atomicAB with
      | true => exact .inl rfl
      | false =>
        have hkept := ((hheld hA).resolve_left (by simp [hatomic])).rank (htried.keepsRank hx he)
        exact .inr (hkept.mark hri hatomic (htried.frame (activeAt_settle hres) hx he).1.active hx)
    · by_cases hxs : slot = x
      · subst hxs
        have hfail : e.successful = false := by
          obtain ⟨e', he', hs, -⟩ := hsettle e₀ he₀
          rw [he, Option.some.injEq] at he'
          rw [he', hs, hfail₀]
        have hspent := hone rfl hfail
        rw [if_pos rfl]
        have hafter := spends_markPtnActive env slot slot v
        have hspent' := (hspent.trans hafter).bootsLeft he (.inr hboot)
        have hbefore := hsettle.bootsLeft he₀ (.inl rfl)
        omega
      · refine hcount hall fun heq => ?_
        rw [Except.ok.injEq, Prod.mk.injEq] at heq
        exact hxs heq.2.symm
  | @rejected x e v status hres he htried hvalid hstatus =>
    have hx := slot_of_activeResult hri hres
    have hall := hsettle.trans (htried.spends hcounts hx hslot he).1
    refine ⟨⟨hall.fails hinv.fails, fun hA => ?_⟩, hcount hall (ok_ne_of_status hstatus)⟩
    exact (hheld hA).imp_right fun hh => hh.rank (htried.keepsRank hx he)
  | @givenUp x e v hres he hspent hmarked =>
    have hx := slot_of_activeResult hri hres
    have hall := hsettle.trans (hmarked.spends hx hslot)
    refine ⟨⟨hall.fails hinv.fails, fun hA => ?_⟩, hcount hall (ok_ne_of_status (by decide))⟩
    exact (hheld hA).imp_right fun hh => hh.rank (hmarked.keepsRank hx)
  | @switched x e v hres he hspent hmarked hother =>
    have hx := slot_of_activeResult hri hres
    have hat := activeAt_settle hres
    have hok := (hmarked.frame hat hx).1.ok
    obtain rfl := hinv.eq_of_switched hx hslot hother
    have hall := hsettle.trans (spends_switched hslot hat hmarked)
    refine ⟨⟨hall.fails hinv.fails, fun _ => .inr ?_⟩, hcount hall (by simp)⟩
    exact held_setActiveSlot hri hok (alternateSlot_slot hslot) false

/-! ### A slot that was refused -/

theorem KeepsGuids.trans (h : KeepsGuids s t) (h' : KeepsGuids t u) : KeepsGuids s u :=
  fun env x => (h' env x).trans (h env x)

theorem keepsGuids_settle (env : SlotEnv) (s : SlotState) : KeepsGuids s (settle env s) := by
  intro env' x
  obtain hs | ⟨i, hs⟩ := settle_cases env s
  · rw [hs]
  · rw [hs]
    exact keepsGuids_updateEntry keepsName_firstBootSlot (fun _ => rfl) env' x

theorem keepsGuids_markPtnActive (y : Text) (s : SlotState) : KeepsGuids s (markPtnActive y s) := by
  intro env x
  have hguid : ∀ e, (markActive y e).partitionTypeGUID = e.partitionTypeGUID := by
    intro e
    unfold markActive
    split <;> rfl
  have hnames : ((markPtnActive y s).ptnEntries).map (·.partitionName) =
      s.ptnEntries.map (·.partitionName) := (flagsCleared_markPtnActive y).1
  have hget : ∀ k, (markPtnActive y s).typeGuidAt k = s.typeGuidAt k := by
    intro k
    cases k with
    | none => rfl
    | some k =>
      simp only [SlotState.typeGuidAt, markPtnActive, Option.bind_some, List.getElem?_map]
      cases s.ptnEntries[k]? with
      | none => rfl
      | some e => simp [hguid]
  simp only [validateSlotGuids, hget, getBootPartitionEntry_names hnames,
    getPartitionIndex_names _ hnames]
  rfl

theorem Marked.keepsGuids (h : Marked env t x u) : KeepsGuids t u := by
  cases h with
  | spared => exact fun _ _ => rfl
  | unbootable _ =>
    exact keepsGuids_updateEntry (keepsName_setMask _) fun _ => rfl

def LunReads (env : SlotEnv) : Prop :=
  env.rootDeviceType = .UFS → env.ufsCardInfo = EFI_SUCCESS ∧ env.getBootLU = true

structure SameDevice (env env' : SlotEnv) : Prop where
  recoveryInfo : env'.recoveryInfo = env.recoveryInfo
  atomicAB : env'.atomicAB = env.atomicAB
  rootDeviceType : env'.rootDeviceType = env.rootDeviceType

theorem slotValid_fails {env' : SlotEnv} (h : slotValid env s x = false) (hlun : LunReads env)
    (hdev : SameDevice env env') : slotValid env' s x = false := by
  have hboot : getBootPartitionEntry env' s.ptnEntries x =
      getBootPartitionEntry env s.ptnEntries x := by
    simp [getBootPartitionEntry, hdev.recoveryInfo]
  simp only [slotValid, Bool.or_eq_false_iff, beq_eq_false_iff_ne] at h ⊢
  refine ⟨hdev.rootDeviceType ▸ h.1, fun hvalid => h.2 ?_⟩
  simp only [validateSlotGuids, hboot, hdev.rootDeviceType] at hvalid ⊢
  rcases hb : s.typeGuidAt (getBootPartitionEntry env s.ptnEntries x) with _ | boot
  · simp only [hb] at hvalid
    exact absurd hvalid (by decide)
  rcases ha : s.typeGuidAt (getPartitionIndex s.ptnEntries (wide "abl_" ++ [x.getLastD 0]))
    with _ | abl
  · simp only [hb, ha] at hvalid
    exact absurd hvalid (by decide)
  · simp only [hb, ha] at hvalid ⊢
    by_cases hsame : boot = abl
    · rw [if_pos hsame] at hvalid
      exact absurd hvalid (by decide)
    · rw [if_neg hsame] at hvalid ⊢
      cases htype : env.rootDeviceType with
      | UFS =>
        obtain ⟨hinfo, hget⟩ := hlun htype
        simp only [htype] at hvalid ⊢
        -- the boot LUN that was read is the one that would be read
        have hlun' : (ufsGetBootLun env' s).1 = EFI_SUCCESS := by
          by_contra hne
          rw [if_pos hne] at hvalid
          exact hne hvalid
        rw [if_neg (not_not_intro hlun')] at hvalid
        simp only [ufsGetBootLun, hinfo, hget]
        by_cases hread : env'.getBootLU = true
        · have hinfo' : env'.ufsCardInfo = EFI_SUCCESS := by
            by_contra hne
            simp [ufsGetBootLun, hne] at hlun'
          simpa [ufsGetBootLun, hinfo', hread] using hvalid
        · have hzero : (ufsGetBootLun env' s).2 = 0 := by
            unfold ufsGetBootLun
            split <;> simp
          rw [hzero, if_neg (by simp)] at hvalid
          exact absurd hvalid (by decide)
      | EMMC => rfl
      | NAND => exact absurd htype h.1
      | UNKNOWN =>
        simp only [htype] at hvalid
        exact absurd hvalid (by decide)

/-- The slot is out of boots, or fails the last check on every boot of the device. -/
def Blocked (env : SlotEnv) (slot : Text) (s : SlotState) : Prop :=
  bootsLeft env slot s = 0 ∨ ∀ env', SameDevice env env' → slotValid env' s slot = false

theorem bootsLeft_givenUp (hsettle : Spends env slot 0 (settle env s) u)
    (he : bootEntry env (settle env s) slot = some e)
    (hspent : e.Spent) : bootsLeft env slot u = 0 := by
  have hle := hsettle.bootsLeft he (.inl rfl)
  rw [bootsLeft_eq he] at hle
  obtain hunboot | ⟨-, hretry⟩ := hspent
  · simpa [hunboot] using hle
  · simpa [hretry] using hle

theorem BootStep.blocks (hri : env.recoveryInfo = false) (hlun : LunReads env)
    (hactive : activeResult env s = (EFI_SUCCESS, slot)) (hrefused : r ≠ .ok (EFI_SUCCESS, slot))
    (h : BootStep env s r u) : Blocked env slot u := by
  have hslot := slot_of_activeResult hri hactive
  cases h with
  | noActive hno => exact absurd (congrArg Prod.fst hactive) hno
  | chosen hres _ _ _ _ =>
    obtain rfl : slot = _ := congrArg Prod.snd (hactive.symm.trans hres)
    exact absurd rfl hrefused
  | rejected hres _ _ hvalid _ =>
    obtain rfl : slot = _ := congrArg Prod.snd (hactive.symm.trans hres)
    exact .inr fun env' hdev => slotValid_fails hvalid hlun hdev
  | givenUp hres he hspent hmarked =>
    obtain rfl : slot = _ := congrArg Prod.snd (hactive.symm.trans hres)
    exact .inl (bootsLeft_givenUp (hmarked.spends hslot hslot) he hspent)
  | switched hres he hspent hmarked _ =>
    obtain rfl : slot = _ := congrArg Prod.snd (hactive.symm.trans hres)
    exact .inl (bootsLeft_givenUp (spends_switched hslot (activeAt_settle hres) hmarked) he hspent)

theorem BootStep.stays_blocked (hcounts : CountsRetries env) (hslot : IsSlot slot)
    (hinv : RetryInv env slot s) (hblocked : Blocked env slot s) (h : BootStep env s r u) :
    r ≠ .ok (EFI_SUCCESS, slot) ∧ Blocked env slot u := by
  obtain hzero | hinvalid := hblocked
  · obtain ⟨-, hcount⟩ := h.retries hcounts hslot hinv
    by_cases hr : r = .ok (EFI_SUCCESS, slot)
    · rw [if_pos hr] at hcount
      omega
    · exact ⟨hr, .inl (by omega)⟩
  have hguids := keepsGuids_settle env s
  have hstays : ∀ {v}, KeepsGuids s v → Blocked env slot v := fun hv =>
    .inr fun env' hdev => (slotValid_keepsGuids hv).trans (hinvalid env' hdev)
  cases h with
  | noActive hno => exact ⟨ok_ne_of_status hno, hstays hguids⟩
  | @chosen x e v hres he hboot htried hvalid =>
    have hv := hguids.trans htried.keepsGuids
    refine ⟨fun heq => ?_, hstays (hv.trans (keepsGuids_markPtnActive x v))⟩
    rw [Except.ok.injEq, Prod.mk.injEq] at heq
    rw [heq.2, slotValid_keepsGuids hv, hinvalid env ⟨rfl, rfl, rfl⟩] at hvalid
    exact Bool.noConfusion hvalid
  | rejected _ _ htried _ hstatus =>
    exact ⟨ok_ne_of_status hstatus, hstays (hguids.trans htried.keepsGuids)⟩
  | givenUp _ _ _ hmarked =>
    exact ⟨ok_ne_of_status (by decide), hstays (hguids.trans hmarked.keepsGuids)⟩
  | switched hres he hspent hmarked hother =>
    refine ⟨by simp, ?_⟩
    have hx := slot_of_activeResult hcounts.recoveryInfo hres
    obtain rfl := hinv.eq_of_switched hx hslot hother
    exact .inl (bootsLeft_givenUp (spends_switched hslot (activeAt_settle hres) hmarked) he hspent)

end Retries

/-! ### Runs of boots -/

section Boots

variable {env env' : SlotEnv} {s : SlotState} {slot : Text}

/-- What the device starts from: the table as it was written, and nothing else of memory. -/
def SlotState.restart (s : SlotState) : SlotState := { s with firstBoot := false, headNode := [] }

/-- One boot up to the return of `FindBootableSlot`, or to the reset it triggers. -/
def boot (env : SlotEnv) (s : SlotState) : Except Exit (EfiStatus × Text) × SlotState :=
  (findBootableSlot env).exec s.restart

def bootRun (s : SlotState) : List SlotEnv → SlotState
  | [] => s
  | env :: boots => bootRun (boot env s).2 boots

def timesReturned (slot : Text) (s : SlotState) : List SlotEnv → Nat
  | [] => 0
  | env :: boots =>
    (if (boot env s).1 = .ok (EFI_SUCCESS, slot) then 1 else 0) +
      timesReturned slot (boot env s).2 boots

def Refuses (env : SlotEnv) (s : SlotState) (slot : Text) : Prop :=
  activeResult env s.restart = (EFI_SUCCESS, slot) ∧ (boot env s).1 ≠ .ok (EFI_SUCCESS, slot)

theorem SameDevice.symm (h : SameDevice env env') : SameDevice env' env :=
  ⟨h.recoveryInfo.symm, h.atomicAB.symm, h.rootDeviceType.symm⟩

theorem SameDevice.trans {env'' : SlotEnv} (h : SameDevice env env') (h' : SameDevice env' env'') :
    SameDevice env env'' :=
  ⟨h'.recoveryInfo.trans h.recoveryInfo, h'.atomicAB.trans h.atomicAB,
    h'.rootDeviceType.trans h.rootDeviceType⟩

theorem RetryInv.device (h : RetryInv env slot s) (hdev : SameDevice env env') :
    RetryInv env' slot s := by
  obtain ⟨hfails, hheld⟩ := h
  simp only [Held, ← bootEntry_env hdev.recoveryInfo, ← hdev.atomicAB] at hfails hheld
  exact ⟨hfails, hheld⟩

theorem bootsLeft_device (hdev : SameDevice env env') :
    bootsLeft env' slot s = bootsLeft env slot s := by
  rw [bootsLeft, bootEntry_env hdev.recoveryInfo, bootsLeft]

theorem Blocked.device (h : Blocked env slot s) (hdev : SameDevice env env') :
    Blocked env' slot s := by
  obtain hzero | hinvalid := h
  · exact .inl ((bootsLeft_device hdev).trans hzero)
  · exact .inr fun env'' hdev' => hinvalid env'' (hdev.trans hdev')

-- the restart is not seen by the slot
theorem RetryInv.restart (h : RetryInv env slot s) : RetryInv env slot s.restart :=
  ⟨h.fails, h.held⟩

structure CountedBoot (env env' : SlotEnv) : Prop where
  counts : CountsRetries env'
  device : SameDevice env env'

theorem boot_step (h : CountedBoot env env') (s : SlotState) :
    BootStep env' s.restart (boot env' s).1 (boot env' s).2 :=
  findBootableSlot_step h.counts.recoveryInfo s.restart

theorem RetryInv.boot (h : RetryInv env slot s) (hslot : IsSlot slot)
    (hboot : CountedBoot env env') :
    RetryInv env slot (boot env' s).2 ∧
      bootsLeft env slot (OhMyAbl.boot env' s).2 +
        (if (OhMyAbl.boot env' s).1 = .ok (EFI_SUCCESS, slot) then 1 else 0) ≤
          bootsLeft env slot s := by
  have hinv := (h.device hboot.device).restart
  obtain ⟨hkept, hcount⟩ := (boot_step hboot s).retries hboot.counts hslot hinv
  rw [bootsLeft_device hboot.device, bootsLeft_device hboot.device] at hcount
  exact ⟨hkept.device hboot.device.symm, hcount⟩

theorem RetryInv.run (hslot : IsSlot slot) :
    ∀ {boots : List SlotEnv} {s : SlotState}, RetryInv env slot s →
      (∀ env' ∈ boots, CountedBoot env env') → RetryInv env slot (bootRun s boots) := by
  intro boots
  induction boots with
  | nil =>
    intro s h _
    exact h
  | cons env' boots ih =>
    intro s h hboots
    obtain ⟨hnext, -⟩ := h.boot hslot (hboots env' List.mem_cons_self)
    exact ih hnext fun env'' hmem => hboots env'' (List.mem_cons_of_mem _ hmem)

theorem timesReturned_le (hslot : IsSlot slot) :
    ∀ {boots : List SlotEnv} {s : SlotState}, RetryInv env slot s →
      (∀ env' ∈ boots, CountedBoot env env') →
      timesReturned slot s boots ≤ bootsLeft env slot s := by
  intro boots
  induction boots with
  | nil =>
    intro s _ _
    exact Nat.zero_le _
  | cons env' boots ih =>
    intro s h hboots
    obtain ⟨hnext, hcount⟩ := h.boot hslot (hboots env' List.mem_cons_self)
    have hrest := ih hnext fun env'' hmem => hboots env'' (List.mem_cons_of_mem _ hmem)
    rw [timesReturned]
    omega

theorem timesReturned_blocked (hslot : IsSlot slot) :
    ∀ {boots : List SlotEnv} {s : SlotState}, RetryInv env slot s → Blocked env slot s →
      (∀ env' ∈ boots, CountedBoot env env') → timesReturned slot s boots = 0 := by
  intro boots
  induction boots with
  | nil =>
    intro s _ _ _
    rfl
  | cons env' boots ih =>
    intro s h hblocked hboots
    have hboot := hboots env' List.mem_cons_self
    have hinv := (h.device hboot.device).restart
    have hblocked' : Blocked env' slot s.restart := hblocked.device hboot.device
    obtain ⟨hno, hstays⟩ :=
      (boot_step hboot s).stays_blocked hboot.counts hslot hinv hblocked'
    have hrest := ih (h.boot hslot hboot).1 (hstays.device hboot.device.symm)
      fun env'' hmem => hboots env'' (List.mem_cons_of_mem _ hmem)
    rw [timesReturned, if_neg hno, hrest]

theorem bootRun_append (pre : List SlotEnv) : ∀ (s : SlotState) (post : List SlotEnv),
    bootRun s (pre ++ post) = bootRun (bootRun s pre) post := by
  induction pre with
  | nil =>
    intro s post
    rfl
  | cons env pre ih =>
    intro s post
    exact ih _ post

/-- **Bounded retries.**  A slot that is ACTIVE and not SUCCESSFUL is returned at most as often
    as it has retries, and is not returned again after a boot that refused it with the boot LUN
    at hand. -/
theorem findBootableSlot_bounded {a b e : PartitionEntry} {boots : List SlotEnv}
    (hslot : slot = slotA ∨ slot = slotB) (ha : bootEntry env s slotA = some a)
    (hb : bootEntry env s slotB = some b) (he : bootEntry env s slot = some e)
    (hactive : e.active = true) (hfail : e.successful = false)
    (hboots : ∀ env' ∈ boots, CountedBoot env env') :
    timesReturned slot s boots ≤ e.retryCount.toNat ∧
      ∀ pre env' post, boots = pre ++ env' :: post → Refuses env' (bootRun s pre) slot →
        LunReads env' → timesReturned slot (bootRun s (pre ++ [env'])) post = 0 := by
  have hinv : RetryInv env slot s := by
    refine ⟨⟨e, he, hfail⟩, fun hA => .inr ⟨a, b, ha, hb, .inl ?_⟩⟩
    rw [hA, ha, Option.some.injEq] at he
    exact he ▸ hactive
  refine ⟨?_, ?_⟩
  · refine Nat.le_trans (timesReturned_le hslot hinv hboots) ?_
    rw [bootsLeft_eq he]
    split
    · exact Nat.zero_le _
    · exact Nat.le_refl _
  · rintro pre env' post rfl hrefuses hlun
    have hboot := hboots env' (by simp)
    have hbefore := hinv.run hslot fun env'' hmem => hboots env'' (List.mem_append_left _ hmem)
    have hblocked := (boot_step hboot (bootRun s pre)).blocks hboot.counts.recoveryInfo hlun
      hrefuses.1 hrefuses.2
    rw [bootRun_append]
    exact timesReturned_blocked hslot (hbefore.boot hslot hboot).1
      (hblocked.device hboot.device.symm) fun env'' hmem => hboots env'' (by simp [hmem])

end Boots

/-- Slot `_a` is active with two retries, and the loader partitions of LUN 1 are in place. -/
def twoRetriesTable : SlotState where
  ptnEntries :=
    [⟨wide "boot_a", 1, PART_ATT_PRIORITY_VAL ||| PART_ATT_ACTIVE_VAL |||
        (2#64 <<< PART_ATT_MAX_RETRY_CNT_BIT), 0⟩,
      ⟨wide "boot_b", 2, 0, 0⟩, ⟨wide "abl_a", 3, 0, 0⟩, ⟨wide "abl_b", 4, 0, 0⟩]
  firstBoot := false
  headNode := []
  ufsBootLun := 1

/-- Three boots of a slot with two retries. -/
theorem findBootableSlot_bounded_two :
    timesReturned slotA twoRetriesTable
      [ufsSlotEnv true, ufsSlotEnv true, ufsSlotEnv true] ≤ 2 := by
  have hboots : ∀ env' ∈ [ufsSlotEnv true, ufsSlotEnv true, ufsSlotEnv true],
      CountedBoot (ufsSlotEnv true) env' := by
    intro env' hmem
    obtain rfl : env' = ufsSlotEnv true := by simpa using hmem
    exact ⟨⟨rfl, rfl, rfl, rfl⟩, ⟨rfl, rfl, rfl⟩⟩
  have hbound := (findBootableSlot_bounded (s := twoRetriesTable) (.inl rfl) (by rfl) (by rfl)
    (by rfl) (by decide) (by decide) hboots).1
  exact hbound

/-- A boot that cannot read the boot LUN refuses slot `_a`, and the next one returns it. -/
theorem findBootableSlot_after_lun_failure :
    CountedBoot (ufsSlotEnv true) { ufsSlotEnv true with getBootLU := false } ∧
      CountedBoot (ufsSlotEnv true) (ufsSlotEnv true) ∧
      Refuses { ufsSlotEnv true with getBootLU := false } twoRetriesTable slotA ∧
      timesReturned slotA
        (bootRun twoRetriesTable [{ ufsSlotEnv true with getBootLU := false }])
        [ufsSlotEnv true] = 1 := by
  refine ⟨⟨⟨rfl, rfl, rfl, rfl⟩, ⟨rfl, rfl, rfl⟩⟩, ⟨⟨rfl, rfl, rfl, rfl⟩, ⟨rfl, rfl, rfl⟩⟩, ?_, ?_⟩
  · exact ⟨by decide +kernel, by decide +kernel⟩
  · decide +kernel

end OhMyAbl
