/-
  **Slots by name: which partitions come in pairs, and what a switch of slots exchanges.**

  The partitions of the two slots are told apart by the ends of their names, `_a` and `_b`.
  `PartitionHasMultiSlot` and `SwitchPtnSlots` compare the starts of names only, so a name that
  goes on behind `_a` counts as the partition of a slot as well.
-/
import OhMyAbl.Partition.SetActiveSlot

namespace OhMyAbl

/-! ### PartitionHasMultiSlot -/

def HasSlots (entries : List PartitionEntry) (name : Text) : Prop :=
  name ++ slotA ∈ entries.map (·.partitionName) ∧ name ++ slotB ∈ entries.map (·.partitionName)

instance (entries : List PartitionEntry) (name : Text) : Decidable (HasSlots entries name) :=
  inferInstanceAs (Decidable (_ ∧ _))

def startsAsSlot (name : Text) (e : PartitionEntry) : Bool :=
  (name ++ slotA).isPrefixOf e.partitionName || (name ++ slotB).isPrefixOf e.partitionName

section MultiSlot

variable {env : SlotEnv} {name : Text}

theorem isSlotOf_eq (slot : UInt16) (hslot : slot ≠ 0) (e : PartitionEntry) :
    isSlotOf name slot e = (name ++ [0x5F, slot]).isPrefixOf e.partitionName := by
  rw [Bool.eq_iff_iff, List.isPrefixOf_iff_prefix, isSlotOf, Bool.and_eq_true, Bool.and_eq_true,
    strnCmp_iff_start, beq_iff_eq, beq_iff_eq]
  constructor
  · rintro ⟨⟨rest, hrest⟩, hunderscore, hletter⟩
    rw [← hrest] at hunderscore hletter ⊢
    rw [List.prefix_append_right_inj]
    rcases rest with _ | ⟨c, _ | ⟨c', rest⟩⟩
    · simp at hunderscore
    · simp at hletter
      exact absurd hletter.symm hslot
    · simp at hunderscore hletter
      rw [hunderscore, hletter]
      exact ⟨rest, rfl⟩
  · rintro ⟨rest, hrest⟩
    rw [← hrest, List.append_assoc]
    exact ⟨List.prefix_append _ _, by simp, by simp⟩

theorem isSlotOf_slots (e : PartitionEntry) :
    (isSlotOf name 0x61 e || isSlotOf name 0x62 e) = startsAsSlot name e := by
  rw [isSlotOf_eq _ (by decide), isSlotOf_eq _ (by decide)]
  rfl

theorem partitionHasMultiSlot_count (hri : env.recoveryInfo = false)
    (entries : List PartitionEntry) : ∀ count ≤ 1,
    (partitionHasMultiSlot env name count entries = true ↔
      1 < count + entries.countP (startsAsSlot name)) := by
  induction entries with
  | nil =>
    intro count hcount
    simp only [partitionHasMultiSlot, List.countP_nil, Bool.false_eq_true, false_iff]
    omega
  | cons e rest ih =>
    intro count hcount
    rw [partitionHasMultiSlot, hri, Bool.and_false, isSlotOf_slots, if_neg Bool.false_ne_true,
      List.countP_cons]
    dsimp only
    generalize hseen : (if startsAsSlot name e = true then count + 1 else count) = seen
    have hsum : count + (rest.countP (startsAsSlot name) +
        if startsAsSlot name e = true then 1 else 0) =
        seen + rest.countP (startsAsSlot name) := by
      rw [← hseen]
      split <;> omega
    rw [hsum]
    split
    · rename_i hmany
      exact iff_of_true rfl (by omega)
    · rename_i hfew
      exact ih seen (by omega)

theorem HasSlots.count {entries : List PartitionEntry} (h : HasSlots entries name) :
    1 < entries.countP (startsAsSlot name) := by
  obtain ⟨a, ha, haname⟩ := List.mem_map.mp h.1
  obtain ⟨b, hb, hbname⟩ := List.mem_map.mp h.2
  have hne : a ≠ b := by
    rintro rfl
    rw [haname, List.append_cancel_left_eq] at hbname
    exact absurd hbname (by decide)
  have hastarts : startsAsSlot name a = true := by
    rw [startsAsSlot, haname]
    simp
  have hbstarts : startsAsSlot name b = true := by
    rw [startsAsSlot, hbname]
    simp
  rw [List.countP_eq_length_filter]
  have hsub : [a, b].Subperm (entries.filter (startsAsSlot name)) := by
    apply List.subperm_of_subset
    · simpa using hne
    · intro e he
      rcases List.mem_pair.mp he with rfl | rfl
      · exact List.mem_filter.mpr ⟨ha, hastarts⟩
      · exact List.mem_filter.mpr ⟨hb, hbstarts⟩
  exact hsub.length_le

end MultiSlot

/-- `PartitionHasMultiSlot` answers as the exact names say for a table exactly if no more than one
    of its names starts as that of a slot, or both slots are there. -/
theorem partitionHasMultiSlot_exact_iff (env : SlotEnv) (hri : env.recoveryInfo = false)
    (entries : List PartitionEntry) (name : Text) :
    (partitionHasMultiSlot env name 0 entries = true ↔ HasSlots entries name) ↔
      (entries.countP (startsAsSlot name) ≤ 1 ∨ HasSlots entries name) := by
  rw [partitionHasMultiSlot_count hri entries 0 (Nat.zero_le 1), Nat.zero_add]
  constructor
  · intro h
    by_cases hcount : entries.countP (startsAsSlot name) ≤ 1
    · exact .inl hcount
    · exact .inr (h.mp (by omega))
  · rintro (hcount | hslots)
    · exact iff_of_false (by omega) fun hslots => absurd hslots.count (by omega)
    · exact iff_of_true hslots.count hslots

theorem partitionHasMultiSlot_exact_boot :
    HasSlots slotATable.ptnEntries (wide "boot") ∧
      (partitionHasMultiSlot (ufsSlotEnv true) (wide "boot") 0 slotATable.ptnEntries = true ↔
        HasSlots slotATable.ptnEntries (wide "boot")) := by
  have hslots : HasSlots slotATable.ptnEntries (wide "boot") := by decide +kernel
  exact ⟨hslots, (partitionHasMultiSlot_exact_iff (ufsSlotEnv true) rfl _ _).mpr (.inr hslots)⟩

def tableOf (names : List String) : List PartitionEntry :=
  names.mapIdx fun i name => ⟨wide name, BitVec.ofNat 128 i, 0, 0⟩

/-- `boot_aux` counts as a second slot of `boot`. -/
theorem partitionHasMultiSlot_aux :
    partitionHasMultiSlot (ufsSlotEnv true) (wide "boot") 0 (tableOf ["boot_a", "boot_aux"]) =
        true ∧
      ¬ HasSlots (tableOf ["boot_a", "boot_aux"]) (wide "boot") := by
  decide +kernel

/-! ### What is found for a stem -/

/-- The stems of the list, as `SwitchPtnSlots` copies them. -/
def copiedStems (parts : List Text) : List Text :=
  parts.map fun name => strnCpyS BOOT_PART_SIZE name name.length

/-- The last entry whose name starts with the text stands at `k`. -/
def LastAt (names : List Text) (text : Text) (k : Nat) : Prop :=
  (∃ x, names[k]? = some x ∧ text <+: x) ∧ ∀ l x, k < l → names[l]? = some x → ¬ text <+: x

/-- The entries at `i` and `j` are found for the two slots of the stem, whose names fit the
    buffers. -/
structure Meets (names : List Text) (stem : Text) (i j : Nat) : Prop where
  fits : stem.length + 2 < BOOT_PART_SIZE
  slotA : LastAt names (stem ++ slotA) i
  slotB : LastAt names (stem ++ slotB) j

def FoundFor (names : List Text) (stem : Text) (k : Nat) : Prop :=
  ∃ i j, Meets names stem i j ∧ (k = i ∨ k = j)

/-- No entry is found for two stems of the list. -/
def Separate (names stems : List Text) : Prop :=
  ∀ x ∈ stems, ∀ y ∈ stems, ∀ k, FoundFor names x k → FoundFor names y k → x = y

/-- Each pair is what is found for its own stem, and that stem is listed an odd number of times; a
    stem without a pair for which two entries are found is listed an even number of times. -/
structure PairsListed (names stems : List Text) : Prop where
  pair : ∀ name i j, names[i]? = some (name ++ slotA) → names[j]? = some (name ++ slotB) →
    Meets names name i j ∧ Odd (stems.count name)
  other : ∀ stem i j, Meets names stem i j → Odd (stems.count stem) →
    stem ++ slotA ∈ names ∧ stem ++ slotB ∈ names

section Stems

variable {names : List Text} {name stem text suffix suffix' x : Text} {i j i' j' k l : Nat}

theorem take_slot (h : x = name ++ slotA ∨ x = name ++ slotB) : x.take (x.length - 2) = name := by
  have hA : slotA.length = 2 := by decide
  have hB : slotB.length = 2 := by decide
  obtain rfl | rfl := h
  · rw [List.length_append, hA, Nat.add_sub_cancel, List.take_left]
  · rw [List.length_append, hB, Nat.add_sub_cancel, List.take_left]

theorem slots_apart (ha : stem ++ slotA <+: x) : ¬ stem ++ slotB <+: x := by
  intro hb
  have hlen : (stem ++ slotA).length = (stem ++ slotB).length := by
    rw [List.length_append, List.length_append, show slotA.length = slotB.length by decide]
  have heq := (List.prefix_of_prefix_length_le ha hb hlen.le).eq_of_length hlen
  rw [List.append_cancel_left_eq] at heq
  exact absurd heq (by decide)

/-- A stem whose two slots start the names of two slots of a partition is the partition's name. -/
theorem stem_eq (ha : stem ++ slotA <+: name ++ suffix) (hb : stem ++ slotB <+: name ++ suffix')
    (hs : IsSlot suffix) (hs' : IsSlot suffix') : stem = name := by
  have hlen : suffix.length = 2 := by rcases hs with rfl | rfl <;> decide
  have hlen' : (stem ++ slotA).length = stem.length + 2 := List.length_append
  have hlen'' : (stem ++ slotB).length = stem.length + 2 := List.length_append
  have hstart : ∀ {t}, IsSlot t → name ++ [0x5F] <+: name ++ t := by
    intro t ht
    rw [List.prefix_append_right_inj]
    rcases ht with rfl | rfl <;> decide
  rcases Nat.lt_or_ge stem.length name.length with hlt | hge
  · -- both slots would start the name and its underscore
    have hshort : (stem ++ slotB).length ≤ (name ++ [0x5F]).length := by
      rw [hlen'', List.length_append]
      exact Nat.succ_le_succ hlt
    have hb' := List.prefix_of_prefix_length_le hb (hstart hs') hshort
    exact absurd (hb'.trans (hstart hs)) (slots_apart ha)
  · have hle := ha.length_le
    rw [hlen', List.length_append, hlen] at hle
    have heq := ha.eq_of_length (by rw [hlen', List.length_append, hlen]; omega)
    rw [← @take_slot stem _ (.inl rfl), heq]
    exact take_slot (hs.imp (congrArg _) (congrArg _))

theorem exists_lastAt (names : List Text) (text : Text) :
    (∃ k, LastAt names text k) ∨ ∀ x ∈ names, ¬ text <+: x := by
  induction names using List.reverseRecOn with
  | nil => exact .inr fun x hx => absurd hx List.not_mem_nil
  | append_singleton names x ih =>
    by_cases hx : text <+: x
    · refine .inl ⟨names.length, ⟨x, by simp, hx⟩, fun l y hl hy => ?_⟩
      rw [List.getElem?_eq_none (by simpa using hl)] at hy
      cases hy
    · rcases ih with ⟨k, ⟨y, hy, hpre⟩, hlast⟩ | hnone
      · refine .inl ⟨k, ⟨y, ?_, hpre⟩, fun l z hl hz => ?_⟩
        · rw [List.getElem?_append_left (List.getElem?_eq_some_iff.mp hy).1, hy]
        · rw [List.getElem?_append] at hz
          split at hz
          · exact hlast l z hl hz
          · obtain rfl := List.mem_singleton.mp (List.mem_of_getElem? hz)
            exact hx
      · refine .inr fun y hy => ?_
        rcases List.mem_append.mp hy with hy | hy
        · exact hnone y hy
        · rwa [List.mem_singleton.mp hy]

theorem LastAt.unique (h : LastAt names text k) (h' : LastAt names text l) : k = l := by
  obtain ⟨⟨x, hx, hpre⟩, hlast⟩ := h
  obtain ⟨⟨x', hx', hpre'⟩, hlast'⟩ := h'
  rcases lt_trichotomy k l with hlt | heq | hgt
  · exact absurd hpre' (hlast l x' hlt hx')
  · exact heq
  · exact absurd hpre (hlast' k x hgt hx)

theorem LastAt.lt (h : LastAt names text k) : k < names.length := by
  obtain ⟨⟨x, hx, -⟩, -⟩ := h
  exact (List.getElem?_eq_some_iff.mp hx).1

theorem Meets.unique (h : Meets names stem i j) (h' : Meets names stem i' j') : i = i' ∧ j = j' :=
  ⟨h.slotA.unique h'.slotA, h.slotB.unique h'.slotB⟩

theorem Meets.ne (h : Meets names stem i j) : i ≠ j := by
  rintro rfl
  obtain ⟨⟨x, hx, ha⟩, -⟩ := h.slotA
  obtain ⟨⟨y, hy, hb⟩, -⟩ := h.slotB
  obtain rfl := Option.some.inj (hx.symm.trans hy)
  exact slots_apart ha hb

theorem Meets.stem_eq (h : Meets names stem i j) (hs : IsSlot suffix) (hs' : IsSlot suffix')
    (hi : names[i]? = some (name ++ suffix)) (hj : names[j]? = some (name ++ suffix')) :
    stem = name := by
  obtain ⟨⟨x, hx, ha⟩, -⟩ := h.slotA
  obtain ⟨⟨y, hy, hb⟩, -⟩ := h.slotB
  obtain rfl := Option.some.inj (hx.symm.trans hi)
  obtain rfl := Option.some.inj (hy.symm.trans hj)
  exact OhMyAbl.stem_eq ha hb hs hs'

end Stems

/-! ### The exchanges as permutations of the positions -/

open Classical in
/-- The exchange made for a stem. -/
noncomputable def exchangeOf (names : List Text) (stem : Text) : Equiv.Perm Nat :=
  if h : ∃ p : Nat × Nat, Meets names stem p.1 p.2 then Equiv.swap h.choose.1 h.choose.2 else 1

section Exchange

variable {names stems : List Text} {stem : Text} {i j k : Nat}

theorem exchangeOf_of_meets (h : Meets names stem i j) :
    exchangeOf names stem = Equiv.swap i j := by
  have hex : ∃ p : Nat × Nat, Meets names stem p.1 p.2 := ⟨(i, j), h⟩
  obtain ⟨hi, hj⟩ := hex.choose_spec.unique h
  rw [exchangeOf, dif_pos hex, hi, hj]

theorem exchangeOf_of_not_meets (h : ∀ i j, ¬ Meets names stem i j) : exchangeOf names stem = 1 :=
  dif_neg fun ⟨p, hp⟩ => h p.1 p.2 hp

theorem exchangeOf_of_not_found (h : ¬ FoundFor names stem k) : exchangeOf names stem k = k := by
  by_cases hex : ∃ i j, Meets names stem i j
  · obtain ⟨i, j, hmeets⟩ := hex
    rw [exchangeOf_of_meets hmeets]
    exact Equiv.swap_apply_of_ne_of_ne (fun hk => h ⟨i, j, hmeets, .inl hk⟩)
      fun hk => h ⟨i, j, hmeets, .inr hk⟩
  · rw [exchangeOf_of_not_meets fun i j hmeets => hex ⟨i, j, hmeets⟩, Equiv.Perm.one_apply]

theorem exchangeOf_pow (h : Meets names stem i j) (n : Nat) :
    exchangeOf names stem ^ n = if Odd n then Equiv.swap i j else 1 := by
  rw [exchangeOf_of_meets h]
  induction n with
  | zero => rfl
  | succ n ih =>
    rw [pow_succ, ih]
    by_cases hodd : Odd n
    · rw [if_pos hodd, if_neg (by simpa [Nat.odd_add_one] using hodd), Equiv.swap_mul_self]
    · rw [if_neg hodd, if_pos (Nat.odd_add_one.mpr hodd), one_mul]

theorem found_exchangeOf_pow (h : FoundFor names stem k) (n : Nat) :
    FoundFor names stem ((exchangeOf names stem ^ n) k) := by
  obtain ⟨i, j, hmeets, hk⟩ := h
  rw [exchangeOf_pow hmeets]
  refine ⟨i, j, hmeets, ?_⟩
  split
  · rcases hk with rfl | rfl
    · exact .inr (Equiv.swap_apply_left _ _)
    · exact .inl (Equiv.swap_apply_right _ _)
  · exact hk

/-- Where no entry is found for two stems, an entry only takes part in the exchanges of its own. -/
theorem prod_exchangeOf (hseparate : Separate names stems) (hstem : stem ∈ stems)
    (hfound : FoundFor names stem k) : ∀ l ⊆ stems,
      (l.map (exchangeOf names)).prod k = (exchangeOf names stem ^ l.count stem) k := by
  intro l
  induction l with
  | nil => exact fun _ => rfl
  | cons x rest ih =>
    intro hsub
    rw [List.map_cons, List.prod_cons, Equiv.Perm.mul_apply,
      ih fun y hy => hsub (List.mem_cons_of_mem x hy)]
    by_cases hx : x = stem
    · subst hx
      rw [List.count_cons_self, pow_succ', Equiv.Perm.mul_apply]
    · rw [List.count_cons_of_ne hx]
      refine exchangeOf_of_not_found fun hfound' => hx ?_
      exact hseparate x (hsub List.mem_cons_self) stem hstem _ hfound'
        (found_exchangeOf_pow hfound _)

theorem prod_exchangeOf_not_found (hnot : ∀ stem ∈ stems, ¬ FoundFor names stem k) :
    (stems.map (exchangeOf names)).prod k = k := by
  induction stems with
  | nil => rfl
  | cons x rest ih =>
    rw [List.map_cons, List.prod_cons, Equiv.Perm.mul_apply,
      ih fun y hy => hnot y (List.mem_cons_of_mem x hy)]
    exact exchangeOf_of_not_found (hnot x List.mem_cons_self)

end Exchange

/-! ### Exchanging the slots of the pairs -/

def SlotAt (names : List Text) (name : Text) (k : Nat) : Prop :=
  (name ++ slotA ∈ names ∧ name ++ slotB ∈ names) ∧
    (names[k]? = some (name ++ slotA) ∨ names[k]? = some (name ++ slotB))

/-- The slots of each partition have exchanged what stood at their positions, and nothing else
    changed. -/
structure Exchanges {α : Type} (names : List Text) (g g' : Nat → α) : Prop where
  pair : ∀ name i j, names[i]? = some (name ++ slotA) → names[j]? = some (name ++ slotB) →
    g' i = g j ∧ g' j = g i
  other : ∀ k, (∀ name, ¬ SlotAt names name k) → g' k = g k

section Exchanges

variable {α : Type} {names stems : List Text} {g g₁ g' : Nat → α}

theorem Exchanges.twice (h : Exchanges names g g₁) (h' : Exchanges names g₁ g') : g' = g := by
  funext k
  by_cases hk : ∃ name, SlotAt names name k
  · obtain ⟨name, ⟨ha, hb⟩, hat⟩ := hk
    obtain ⟨i, hi⟩ := List.getElem?_of_mem ha
    obtain ⟨j, hj⟩ := List.getElem?_of_mem hb
    rcases hat with hat | hat
    · exact (h'.pair name k j hat hj).1.trans (h.pair name k j hat hj).2
    · exact (h'.pair name i k hi hat).2.trans (h.pair name i k hi hat).1
  · have hnone : ∀ name, ¬ SlotAt names name k := fun name hat => hk ⟨name, hat⟩
    rw [h'.other k hnone, h.other k hnone]

theorem Exchanges.symm (h : Exchanges names g g') : Exchanges names g' g :=
  ⟨fun name i j hi hj => ((h.pair name i j hi hj).imp Eq.symm Eq.symm).symm,
    fun k hk => (h.other k hk).symm⟩

variable (hseparate : Separate names stems)
include hseparate

theorem exchanges_of_listed (hlisted : PairsListed names stems) :
    Exchanges names g (g ∘ (stems.map (exchangeOf names)).prod) where
  pair := by
    intro name i j hi hj
    obtain ⟨hmeets, hodd⟩ := hlisted.pair name i j hi hj
    have hmem := List.count_pos_iff.mp hodd.pos
    have hpow := exchangeOf_pow hmeets (stems.count name)
    rw [if_pos hodd] at hpow
    rw [Function.comp_apply, Function.comp_apply,
      prod_exchangeOf hseparate hmem ⟨i, j, hmeets, .inl rfl⟩ _ (List.Subset.refl _),
      prod_exchangeOf hseparate hmem ⟨i, j, hmeets, .inr rfl⟩ _ (List.Subset.refl _), hpow,
      Equiv.swap_apply_left, Equiv.swap_apply_right]
    exact ⟨rfl, rfl⟩
  other := by
    intro k hk
    rw [Function.comp_apply]
    by_cases hfound : ∃ stem ∈ stems, FoundFor names stem k
    · obtain ⟨stem, hmem, i, j, hmeets, hij⟩ := hfound
      rw [prod_exchangeOf hseparate hmem ⟨i, j, hmeets, hij⟩ _ (List.Subset.refl _),
        exchangeOf_pow hmeets]
      split
      · -- the stem has a pair, which is what was found
        rename_i hodd
        have hboth := hlisted.other stem i j hmeets hodd
        obtain ⟨i', hi'⟩ := List.getElem?_of_mem hboth.1
        obtain ⟨j', hj'⟩ := List.getElem?_of_mem hboth.2
        obtain ⟨rfl, rfl⟩ := hmeets.unique (hlisted.pair stem i' j' hi' hj').1
        refine absurd ⟨hboth, ?_⟩ (hk stem)
        rcases hij with rfl | rfl
        · exact .inl hi'
        · exact .inr hj'
      · rfl
    · rw [prod_exchangeOf_not_found fun stem hmem hstem => hfound ⟨stem, hmem, hstem⟩]



theorem listed_of_exchanges
    (hdistinct : ∀ i j, i < names.length → j < names.length → g i = g j → i = j)
    (h : Exchanges names g (g ∘ (stems.map (exchangeOf names)).prod)) :
    PairsListed names stems := by
  have hpair : ∀ name i j, names[i]? = some (name ++ slotA) → names[j]? = some (name ++ slotB) →
      Meets names name i j ∧ Odd (stems.count name) := by
    intro name i j hi hj
    have hil := (List.getElem?_eq_some_iff.mp hi).1
    have hjl := (List.getElem?_eq_some_iff.mp hj).1
    have hne : i ≠ j := by
      rintro rfl
      have heq := Option.some.inj (hi.symm.trans hj)
      rw [List.append_cancel_left_eq] at heq
      exact absurd heq (by decide)
    have hto : g ((stems.map (exchangeOf names)).prod i) = g j := (h.pair name i j hi hj).1
    by_cases hfound : ∃ stem ∈ stems, FoundFor names stem i
    · obtain ⟨stem, hmem, i', j', hmeets, hij⟩ := hfound
      rw [prod_exchangeOf hseparate hmem ⟨i', j', hmeets, hij⟩ _ (List.Subset.refl _),
        exchangeOf_pow hmeets] at hto
      split at hto
      · rename_i hodd
        rcases hij with rfl | rfl
        · rw [Equiv.swap_apply_left] at hto
          obtain rfl := hdistinct _ _ hmeets.slotB.lt hjl hto
          obtain rfl := hmeets.stem_eq (.inl rfl) (.inr rfl) hi hj
          exact ⟨hmeets, hodd⟩
        · -- the two slots can not be found the other way round
          rw [Equiv.swap_apply_right] at hto
          obtain rfl := hdistinct _ _ hmeets.slotA.lt hjl hto
          obtain rfl := hmeets.stem_eq (.inr rfl) (.inl rfl) hj hi
          obtain ⟨⟨x, hx, ha⟩, -⟩ := hmeets.slotA
          obtain rfl := Option.some.inj (hx.symm.trans hj)
          exact absurd (List.prefix_refl _) (slots_apart ha)
      · exact absurd (hdistinct _ _ hil hjl hto) hne
    · rw [prod_exchangeOf_not_found fun stem hmem hstem => hfound ⟨stem, hmem, hstem⟩] at hto
      exact absurd (hdistinct _ _ hil hjl hto) hne
  refine ⟨hpair, fun stem i j hmeets hodd => ?_⟩
  have hmem := List.count_pos_iff.mp hodd.pos
  have hfound : FoundFor names stem i := ⟨i, j, hmeets, .inl rfl⟩
  have hto : (g ∘ (stems.map (exchangeOf names)).prod) i = g j := by
    rw [Function.comp_apply, prod_exchangeOf hseparate hmem hfound _ (List.Subset.refl _),
      exchangeOf_pow hmeets, if_pos hodd, Equiv.swap_apply_left]
  by_cases hslot : ∃ name, SlotAt names name i
  · obtain ⟨name, ⟨ha, hb⟩, hat⟩ := hslot
    obtain ⟨i', hi'⟩ := List.getElem?_of_mem ha
    obtain ⟨j', hj'⟩ := List.getElem?_of_mem hb
    have hname : FoundFor names name i ∧ Odd (stems.count name) := by
      rcases hat with hat | hat
      · exact ⟨⟨i, j', (hpair name i j' hat hj').1, .inl rfl⟩, (hpair name i j' hat hj').2⟩
      · exact ⟨⟨i', i, (hpair name i' i hi' hat).1, .inr rfl⟩, (hpair name i' i hi' hat).2⟩
    obtain rfl := hseparate stem hmem name (List.count_pos_iff.mp hname.2.pos) i hfound hname.1
    exact ⟨ha, hb⟩
  · have hsame := h.other i fun name hat => hslot ⟨name, hat⟩
    exact absurd (hdistinct _ _ hmeets.slotA.lt hmeets.slotB.lt (hsame.symm.trans hto)) hmeets.ne

end Exchanges

/-! ### SwitchPtnSlots -/

def typeGuidAt (entries : List PartitionEntry) (k : Nat) : Option (BitVec 128) :=
  entries[k]?.map (·.partitionTypeGUID)

def lastMatch (p : PartitionEntry → Bool) : Nat → List PartitionEntry → Option Nat → Option Nat
  | _, [], found => found
  | i, e :: rest, found => lastMatch p (i + 1) rest (if p e then some i else found)

section Switch

variable {env : SlotEnv} {entries : List PartitionEntry} {names : List Text}
  {cur new active inactive part text : Text} {i j k : Nat}

theorem findPair_eq : ∀ (entries : List PartitionEntry) (i : Nat) (found : Option Nat × Option Nat),
    findPair cur new i entries found =
      (lastMatch (fun e => strnCmp e.partitionName cur cur.length) i entries found.1,
        lastMatch (fun e => !strnCmp e.partitionName cur cur.length &&
          strnCmp e.partitionName new new.length) i entries found.2)
  | [], _, _ => rfl
  | e :: rest, i, found => by
    rw [findPair, lastMatch, lastMatch]
    cases hcur : strnCmp e.partitionName cur cur.length <;>
      cases hnew : strnCmp e.partitionName new new.length <;>
      simp [findPair_eq rest]

variable {p : PartitionEntry → Bool} {pair : Option Nat × Option Nat}

theorem lastMatch_none : ∀ {entries : List PartitionEntry} {i : Nat}
    {found : Option Nat}, (∀ e ∈ entries, p e = false) → lastMatch p i entries found = found
  | [], _, _, _ => rfl
  | e :: rest, _, _, h => by
    rw [lastMatch, h e List.mem_cons_self, if_neg Bool.false_ne_true]
    exact lastMatch_none fun e' he' => h e' (List.mem_cons_of_mem e he')

theorem lastMatch_last : ∀ {entries : List PartitionEntry} {i c : Nat}
    {found : Option Nat} {e : PartitionEntry}, entries[c]? = some e → p e = true →
    (∀ k e', c < k → entries[k]? = some e' → p e' = false) →
      lastMatch p i entries found = some (i + c)
  | e :: rest, i, 0, found, _, he, hp, hlast => by
    obtain rfl := Option.some.inj he
    rw [lastMatch, if_pos hp]
    apply lastMatch_none
    intro e' he'
    obtain ⟨k, hk⟩ := List.getElem?_of_mem he'
    exact hlast (k + 1) e' (Nat.succ_pos k) hk
  | e :: rest, i, c + 1, found, e', he, hp, hlast => by
    have hrest : rest[c]? = some e' := he
    rw [lastMatch, lastMatch_last hrest hp fun k e'' hk he'' =>
      hlast (k + 1) e'' (Nat.succ_lt_succ hk) he'']
    congr 1
    omega

/-- The position of the last entry whose name starts with the text. -/
def lastStart (text : Text) (entries : List PartitionEntry) : Option Nat :=
  lastMatch (fun e => strnCmp e.partitionName text text.length) 0 entries none

theorem lastStart_of_lastAt (h : LastAt (entries.map (·.partitionName)) text k) :
    lastStart text entries = some k := by
  obtain ⟨⟨x, hx, hpre⟩, hlast⟩ := h
  obtain ⟨e, he, rfl⟩ := Option.map_eq_some_iff.mp (List.getElem?_map.symm.trans hx)
  rw [lastStart, lastMatch_last he (strnCmp_iff_start.mpr hpre), Nat.zero_add]
  intro l e' hl he'
  rw [Bool.eq_false_iff, ne_eq, strnCmp_iff_start]
  exact hlast l _ hl (List.getElem?_map.trans (congrArg _ he'))

theorem lastAt_of_lastStart (h : lastStart text entries = some k) :
    LastAt (entries.map (·.partitionName)) text k := by
  rcases exists_lastAt (entries.map (·.partitionName)) text with ⟨l, hl⟩ | hnone
  · obtain rfl := Option.some.inj ((lastStart_of_lastAt hl).symm.trans h)
    exact hl
  · rw [lastStart, lastMatch_none fun e he => ?_] at h
    · cases h
    · rw [Bool.eq_false_iff, ne_eq, strnCmp_iff_start]
      exact hnone _ (List.mem_map_of_mem he)

theorem typeGuidAt_swapPtnGuid (hi : i < entries.length) (hj : j < entries.length) (k : Nat) :
    typeGuidAt (swapPtnGuid entries (some i, some j)) k =
      typeGuidAt entries (Equiv.swap i j k) := by
  have hp := List.getElem?_eq_getElem hi
  have hq := List.getElem?_eq_getElem hj
  rw [swapPtnGuid, hp, hq]
  simp only [typeGuidAt, List.getElem?_modify]
  by_cases hkj : k = j
  · subst hkj
    rw [Equiv.swap_apply_right, hp, hq]
    simp
  · by_cases hki : k = i
    · subst hki
      rw [Equiv.swap_apply_left, hp, hq]
      simp [Ne.symm hkj]
    · rw [Equiv.swap_apply_of_ne_of_ne hki hkj]
      simp [Ne.symm hkj, Ne.symm hki]

theorem swapPtnGuid_fst_none (h : pair.1 = none) : swapPtnGuid entries pair = entries := by
  obtain ⟨a, b⟩ := pair
  obtain rfl : a = none := h
  rfl

theorem swapPtnGuid_snd_none (h : pair.2 = none) : swapPtnGuid entries pair = entries := by
  obtain ⟨a, b⟩ := pair
  obtain rfl : b = none := h
  cases a <;> rfl

def Suffixes (active inactive : Text) : Prop :=
  active = slotA ∧ inactive = slotB ∨ active = slotB ∧ inactive = slotA

theorem suffixes_of_slot (h : IsSlot active) :
    Suffixes active (if strnCmp active slotA 2 then slotB else slotA) := by
  rcases h with rfl | rfl
  · exact .inl ⟨rfl, by decide⟩
  · exact .inr ⟨rfl, by decide⟩

section

variable (h : Suffixes active inactive)
include h

theorem Suffixes.length : active.length = 2 ∧ inactive.length = 2 := by
  obtain ⟨rfl, rfl⟩ | ⟨rfl, rfl⟩ := h <;> decide

theorem Suffixes.apart (x : Text) (hx : name ++ inactive <+: x) : ¬ name ++ active <+: x := by
  obtain ⟨rfl, rfl⟩ | ⟨rfl, rfl⟩ := h
  · exact fun ha => slots_apart ha hx
  · exact slots_apart hx

theorem switchPartition_of_fits
    (hfits : (strnCpyS BOOT_PART_SIZE name name.length).length + 2 < BOOT_PART_SIZE) :
    switchPartition active inactive entries name =
      swapPtnGuid entries (findPair (strnCpyS BOOT_PART_SIZE name name.length ++ inactive)
        (strnCpyS BOOT_PART_SIZE name name.length ++ active) 0 entries (none, none)) := by
  rw [switchPartition]
  simp only [strnCatS, List.take_length]
  simp [h.length.1, h.length.2, if_pos hfits]

/-- Names that do not fit leave the two texts equal, and the second one is never looked for. -/
theorem switchPartition_of_not_fits
    (hfits : ¬ (strnCpyS BOOT_PART_SIZE name name.length).length + 2 < BOOT_PART_SIZE) :
    switchPartition active inactive entries name = entries := by
  rw [switchPartition]
  simp only [strnCatS, List.take_length]
  rw [h.length.1, h.length.2, if_neg hfits, if_neg hfits, findPair_eq]
  apply swapPtnGuid_snd_none
  apply lastMatch_none
  intro e _
  rw [Bool.not_and_self]

theorem findPair_stem (stem : Text) :
    findPair (stem ++ inactive) (stem ++ active) 0 entries (none, none) =
      (lastStart (stem ++ inactive) entries, lastStart (stem ++ active) entries) := by
  have hnew : (fun e : PartitionEntry =>
      !strnCmp e.partitionName (stem ++ inactive) (stem ++ inactive).length &&
        strnCmp e.partitionName (stem ++ active) (stem ++ active).length) =
      fun e => strnCmp e.partitionName (stem ++ active) (stem ++ active).length := by
    funext e
    rw [Bool.and_eq_right_iff_imp, Bool.not_eq_true', Bool.eq_false_iff, ne_eq, strnCmp_iff_start,
      strnCmp_iff_start]
    exact fun hactive hinactive => h.apart _ hinactive hactive
  rw [findPair_eq, hnew]
  rfl

theorem typeGuidAt_switchPartition (hnames : entries.map (·.partitionName) = names) :
    typeGuidAt (switchPartition active inactive entries part) =
      typeGuidAt entries ∘ exchangeOf names (strnCpyS BOOT_PART_SIZE part part.length) := by
  subst hnames
  by_cases hfits : (strnCpyS BOOT_PART_SIZE part part.length).length + 2 < BOOT_PART_SIZE
  · rw [switchPartition_of_fits h hfits, findPair_stem h]
    generalize strnCpyS BOOT_PART_SIZE part part.length = stem at hfits
    rcases ha : lastStart (stem ++ slotA) entries with _ | i
    · rw [exchangeOf_of_not_meets fun i j hmeets =>
        Option.some_ne_none i ((lastStart_of_lastAt hmeets.slotA).symm.trans ha)]
      obtain ⟨rfl, rfl⟩ | ⟨rfl, rfl⟩ := h
      · rw [swapPtnGuid_snd_none ha]
        rfl
      · rw [swapPtnGuid_fst_none ha]
        rfl
    rcases hb : lastStart (stem ++ slotB) entries with _ | j
    · rw [exchangeOf_of_not_meets fun i j hmeets =>
        Option.some_ne_none j ((lastStart_of_lastAt hmeets.slotB).symm.trans hb)]
      obtain ⟨rfl, rfl⟩ | ⟨rfl, rfl⟩ := h
      · rw [swapPtnGuid_fst_none hb]
        rfl
      · rw [swapPtnGuid_snd_none hb]
        rfl
    have hmeets : Meets (entries.map (·.partitionName)) stem i j :=
      ⟨hfits, lastAt_of_lastStart ha, lastAt_of_lastStart hb⟩
    have hi : i < entries.length := by simpa using hmeets.slotA.lt
    have hj : j < entries.length := by simpa using hmeets.slotB.lt
    rw [exchangeOf_of_meets hmeets]
    funext k
    obtain ⟨rfl, rfl⟩ | ⟨rfl, rfl⟩ := h
    · rw [ha, hb, typeGuidAt_swapPtnGuid hj hi, Equiv.swap_comm, Function.comp_apply]
    · rw [ha, hb, typeGuidAt_swapPtnGuid hi hj, Function.comp_apply]
  · rw [switchPartition_of_not_fits h hfits,
      exchangeOf_of_not_meets fun _ _ hmeets => hfits hmeets.fits]
    rfl

theorem typeGuidAt_foldl : ∀ (parts : List Text) (entries : List PartitionEntry),
    entries.map (·.partitionName) = names →
      typeGuidAt (parts.foldl (switchPartition active inactive) entries) =
        typeGuidAt entries ∘ ((copiedStems parts).map (exchangeOf names)).prod
  | [], _, _ => rfl
  | part :: rest, entries, hnames => by
    have hnext : (switchPartition active inactive entries part).map (·.partitionName) = names :=
      (sameSlots_switchPartition active inactive [part] entries).names.trans hnames
    rw [List.foldl_cons, typeGuidAt_foldl rest _ hnext, typeGuidAt_switchPartition h hnames]
    rfl

end

end Switch

/-- The stems a switch goes through: those of the list, if it is there or can be built. -/
def switchedStems (env : SlotEnv) (s : SlotState) : List Text :=
  if (slottedParts env s).1 = EFI_SUCCESS then copiedStems (slottedParts env s).2 else []

section Round

variable {env : SlotEnv} {s : SlotState} {active : Text}

theorem typeGuidAt_switchPtnSlots (hactive : IsSlot active) :
    typeGuidAt (switchPtnSlots env active s).ptnEntries = typeGuidAt s.ptnEntries ∘
      ((switchedStems env s).map (exchangeOf (s.ptnEntries.map (·.partitionName)))).prod := by
  by_cases h : (slottedParts env s).1 = EFI_SUCCESS
  · have hentries : (switchPtnSlots env active s).ptnEntries =
        (swapSlots active (slottedParts env s).2 s).ptnEntries := by
      rw [switchPtnSlots_of_list h]
      split
      · rw [followBootLun, ptnEntries_ufsSetBootLun]
      · rfl
    rw [hentries, switchedStems, if_pos h]
    exact typeGuidAt_foldl (suffixes_of_slot hactive) _ _ rfl
  · rw [switchPtnSlots_of_error h, switchedStems, if_neg h]
    rfl

theorem getMultiSlotPartsList_names : ∀ {entries entries' : List PartitionEntry} (head : List Text),
    entries'.map (·.partitionName) = entries.map (·.partitionName) →
      getMultiSlotPartsList env entries' head = getMultiSlotPartsList env entries head
  | [], [], _, _ => rfl
  | e :: rest, e' :: rest', head, h => by
    rw [List.map_cons, List.map_cons, List.cons.injEq] at h
    have hany : ∀ l : List PartitionEntry, (l.any fun e'' => samePartition e.partitionName
        e''.partitionName) = (l.map (·.partitionName)).any (samePartition e.partitionName) := by
      intro l
      rw [List.any_map]
      rfl
    rw [getMultiSlotPartsList, getMultiSlotPartsList, h.1, hany, hany, h.2,
      getMultiSlotPartsList_names _ h.2, getMultiSlotPartsList_names _ h.2]

@[simp] theorem headNode_ufsSetBootLun (lun : Nat) :
    (ufsSetBootLun env lun s).headNode = s.headNode := by
  unfold ufsSetBootLun
  split <;> rfl

/-- A switch back goes through the same list. -/
theorem switchedStems_switch (h : (slottedParts env s).1 = EFI_SUCCESS) :
    switchedStems env (switchPtnSlots env active s) = switchedStems env s := by
  have hhead : (switchPtnSlots env active s).headNode = (slottedParts env s).2 := by
    rw [switchPtnSlots_of_list h]
    split
    · rw [followBootLun, headNode_ufsSetBootLun]
      rfl
    · rfl
  have hnames := (sameSlots_switchPtnSlots env s active).names
  have hparts : slottedParts env (switchPtnSlots env active s) = slottedParts env s := by
    by_cases hnil : (slottedParts env s).2 = []
    · -- an empty list is built again, and is empty again
      have hs : s.headNode = [] := by
        by_contra hne
        rw [slottedParts, if_neg (by simpa using hne)] at hnil
        exact hne hnil
      rw [slottedParts, hhead, hnil, slottedParts, hs, List.isEmpty_nil, if_pos rfl, if_pos rfl,
        getMultiSlotPartsList_names [] hnames]
    · rw [slottedParts, hhead, if_neg (by simpa using hnil)]
      exact Prod.ext h.symm rfl
  rw [switchedStems, switchedStems, hparts]

end Round

/-- A switch exchanges the type GUIDs of `P_a` and `P_b` for every pair and no others, and a second
    switch restores all of them. -/
def SwapsPairs (env : SlotEnv) (s : SlotState) (active back : Text) : Prop :=
  Exchanges (s.ptnEntries.map (·.partitionName)) (typeGuidAt s.ptnEntries)
      (typeGuidAt (switchPtnSlots env active s).ptnEntries) ∧
    (switchPtnSlots env back (switchPtnSlots env active s)).ptnEntries.map (·.partitionTypeGUID) =
      s.ptnEntries.map (·.partitionTypeGUID)

theorem typeGuids_eq_iff {entries entries' : List PartitionEntry} :
    entries'.map (·.partitionTypeGUID) = entries.map (·.partitionTypeGUID) ↔
      typeGuidAt entries' = typeGuidAt entries := by
  rw [List.ext_getElem?_iff, funext_iff]
  simp [typeGuidAt]

/-- The type GUIDs are distinct if those that a permutation makes of them are. -/
theorem typeGuidAt_inj {entries entries' : List PartitionEntry} {π : Equiv.Perm Nat} {i j : Nat}
    (hdistinct : (entries.map (·.partitionTypeGUID)).Nodup)
    (hperm : typeGuidAt entries = typeGuidAt entries' ∘ π)
    (hi : i < (entries'.map (·.partitionName)).length)
    (heq : typeGuidAt entries' i = typeGuidAt entries' j) : i = j := by
  obtain ⟨a, rfl⟩ := π.surjective i
  obtain ⟨b, rfl⟩ := π.surjective j
  rw [List.length_map] at hi
  have ha : typeGuidAt entries a = some entries'[π a].partitionTypeGUID := by
    rw [hperm, Function.comp_apply, typeGuidAt, List.getElem?_eq_getElem hi, Option.map_some]
  have hb : typeGuidAt entries b = some entries'[π a].partitionTypeGUID := by
    rw [← ha, hperm, Function.comp_apply, Function.comp_apply, heq]
  rw [typeGuidAt, ← List.getElem?_map] at ha hb
  obtain ⟨halt, ha⟩ := List.getElem?_eq_some_iff.mp ha
  obtain ⟨hblt, hb⟩ := List.getElem?_eq_some_iff.mp hb
  rw [hdistinct.getElem_inj_iff.mp (ha.trans hb.symm)]

/-- **Slot switching.**  Where no entry is found for two stems of the list, a switch exchanges the
    pairs and a second one restores them if each pair is found for its own stem, that stem is listed
    an odd number of times, and every other stem for which entries are found an even number.  Where
    the type GUIDs are distinct, only then. -/
theorem switchPtnSlots_swaps_pairs (env : SlotEnv) (s : SlotState) (active back : Text)
    (hactive : active = slotA ∨ active = slotB) (hback : back = slotA ∨ back = slotB)
    (hseparate : Separate (s.ptnEntries.map (·.partitionName)) (switchedStems env s))
    (hseparate' : Separate (s.ptnEntries.map (·.partitionName))
      (switchedStems env (switchPtnSlots env active s))) :
    let Listed := PairsListed (s.ptnEntries.map (·.partitionName)) (switchedStems env s) ∧
      PairsListed (s.ptnEntries.map (·.partitionName))
        (switchedStems env (switchPtnSlots env active s))
    (Listed → SwapsPairs env s active back) ∧
      ((s.ptnEntries.map (·.partitionTypeGUID)).Nodup → SwapsPairs env s active back → Listed) := by
  intro Listed
  have hthere := @typeGuidAt_switchPtnSlots env s active hactive
  have hagain := @typeGuidAt_switchPtnSlots env (switchPtnSlots env active s) back hback
  have hkept := (sameSlots_switchPtnSlots env s active).names
  rw [hkept] at hagain
  unfold SwapsPairs
  rw [typeGuids_eq_iff]
  constructor
  · rintro ⟨hlisted, hlisted'⟩
    have hswitch := exchanges_of_listed (g := typeGuidAt s.ptnEntries) hseparate hlisted
    rw [← hthere] at hswitch
    have hreturn := exchanges_of_listed (g := typeGuidAt (switchPtnSlots env active s).ptnEntries)
      hseparate' hlisted'
    rw [← hagain] at hreturn
    exact ⟨hswitch, hswitch.twice hreturn⟩
  · rintro hdistinct ⟨hswitch, hreturn⟩
    rw [hreturn] at hagain
    constructor
    · rw [hthere] at hswitch
      refine listed_of_exchanges hseparate (fun i j hi _ heq => ?_) hswitch
      exact typeGuidAt_inj (π := 1) hdistinct rfl hi heq
    · -- the second switch restores the type GUIDs, so those before it are distinct
      have hreverse := hswitch.symm
      rw [hagain] at hreverse
      refine listed_of_exchanges hseparate' (fun i j hi _ heq => ?_) hreverse
      rw [← hkept] at hi
      exact typeGuidAt_inj hdistinct hagain hi heq

def tableState (names : List String) : SlotState := { slotATable with ptnEntries := tableOf names }

theorem switchPtnSlots_swaps_vm :
    SwapsPairs (ufsSlotEnv true) (tableState ["vm_a", "vm_c", "vm_b"]) slotB slotA := by
  have hlist : (slottedParts (ufsSlotEnv true) (tableState ["vm_a", "vm_c", "vm_b"])).1 =
      EFI_SUCCESS := by decide +kernel
  have hstems : switchedStems (ufsSlotEnv true) (tableState ["vm_a", "vm_c", "vm_b"]) =
      [wide "vm"] := by decide +kernel
  have hmain := switchPtnSlots_swaps_pairs (ufsSlotEnv true)
    (tableState ["vm_a", "vm_c", "vm_b"]) slotB slotA (.inr rfl) (.inl rfl)
  rw [switchedStems_switch hlist, hstems, show (tableState ["vm_a", "vm_c", "vm_b"]).ptnEntries.map
    (·.partitionName) = [wide "vm_a", wide "vm_c", wide "vm_b"] by decide +kernel] at hmain
  have hseparate : Separate [wide "vm_a", wide "vm_c", wide "vm_b"] [wide "vm"] :=
    fun x hx y hy _ _ _ => (List.mem_singleton.mp hx).trans (List.mem_singleton.mp hy).symm
  have hmeets : Meets [wide "vm_a", wide "vm_c", wide "vm_b"] (wide "vm") 0 2 := by
    refine ⟨by decide, ⟨⟨_, rfl, by decide⟩, ?_⟩, ⟨_, rfl, by decide⟩, ?_⟩
    · rintro (_ | _ | _ | l) x hl hx <;> cases hx <;> first | omega | decide
    · rintro (_ | _ | _ | l) x hl hx <;> cases hx <;> omega
  have hstem : ∀ x ∈ [wide "vm_a", wide "vm_c", wide "vm_b"],
      x.take (x.length - 2) = wide "vm" := by
    decide
  refine (hmain hseparate hseparate).1 (and_self_iff.mpr ⟨fun name i j hi hj => ?_, ?_⟩)
  · obtain rfl : name = wide "vm" :=
      (take_slot (.inl rfl)).symm.trans (hstem _ (List.mem_of_getElem? hi))
    obtain rfl : i = 0 := by
      rcases i with _ | _ | _ | i <;> first | rfl | exact absurd hi (by decide) | cases hi
    obtain rfl : j = 2 := by
      rcases j with _ | _ | _ | j <;> first | rfl | exact absurd hj (by decide) | cases hj
    exact ⟨hmeets, by decide⟩
  · intro stem i j _ hodd
    obtain rfl := List.mem_singleton.mp (List.count_pos_iff.mp hodd.pos)
    decide

def typesAfter (names : List String) (switches : List Text) : List (BitVec 128) :=
  (switches.foldl (fun s active => switchPtnSlots (ufsSlotEnv true) active s)
    (tableState names)).ptnEntries.map (·.partitionTypeGUID)

/-- A name that goes on behind `_a` takes the place of the slot, a third sibling undoes the
    exchange, and with a pair among the names that go on switching back does not restore. -/
theorem switchPtnSlots_mixes_up :
    typesAfter ["boot_a", "boot_b", "boot_aux"] [slotB] = [0, 2, 1] ∧
      typesAfter ["vm_a", "vm_b", "vm_c"] [slotB] = [0, 1, 2] ∧
      typesAfter ["x_a", "x_b", "x_ab_a", "x_ab_b"] [slotB, slotA] ≠ [0, 1, 2, 3] := by
  decide +kernel

end OhMyAbl
