/-
  **The persistent values are a map of at most eight names.**

  `PersistentMap` says what the table is for: it answers the same calls from a map.  The table
  represents the map after every sequence of calls, because a write goes to the slot of its name
  (`SlotOf`).
-/
import OhMyAbl.Lib.SlotMap
import OhMyAbl.Device.DeviceInfo

namespace OhMyAbl

inductive PersistentCall where
  | read (name : List UInt8) (bufferSize : Nat)
  | write (name value : List UInt8)
deriving DecidableEq, Repr

def PersistentCall.InLimits : PersistentCall → Prop
  | .read name _ => name ≠ [] ∧ name.length ≤ MAX_NAME_SIZE
  | .write name value =>
    name ≠ [] ∧ name.length ≤ MAX_NAME_SIZE ∧ value.length ≤ MAX_VALUE_SIZE

instance : DecidablePred PersistentCall.InLimits
  | .read _ _ => inferInstanceAs (Decidable (_ ∧ _))
  | .write _ _ => inferInstanceAs (Decidable (_ ∧ _))

/-- A call answers its status and, if it is a read, the bytes it put into the buffer. -/
abbrev PersistentAnswer := EfiStatus × List UInt8

def persistentCall (env : DeviceInfoEnv) :
    PersistentCall → Prog DeviceInfoState Exit PersistentAnswer
  | .read name bufferSize => do
    let s ← get
    return readPersistentValue s (some name) true (some bufferSize)
  | .write name value => do
    let status ← writePersistentValue env (some name) (some value) value.length
    return (status, [])

/-! ### The map -/

abbrev PersistentMap := List UInt8 → Option (List UInt8)

namespace PersistentMap

def Full (m : PersistentMap) : Prop := {name | m name ≠ none}.ncard = MAX_ENTRY_SIZE

def read (m : PersistentMap) (name : List UInt8) (bufferSize : Nat) : PersistentAnswer :=
  match m name with
  | none => (EFI_NOT_FOUND, [])
  | some value =>
    if bufferSize < value.length then (EFI_BUFFER_TOO_SMALL, []) else (EFI_SUCCESS, value)

open Classical in
/-- A write fails if its name is new to a full map, and otherwise sets what the map has for the
    name, where a value of size zero is no value. -/
noncomputable def write (m : PersistentMap) (name value : List UInt8) :
    EfiStatus × PersistentMap :=
  if m name = none ∧ m.Full then (EFI_INVALID_PARAMETER, m)
  else (EFI_SUCCESS, Function.update m name (if value = [] then none else some value))

noncomputable def call (m : PersistentMap) : PersistentCall → PersistentAnswer × PersistentMap
  | .read name bufferSize => (m.read name bufferSize, m)
  | .write name value => (((m.write name value).1, []), (m.write name value).2)

noncomputable def calls (m : PersistentMap) :
    List PersistentCall → List PersistentAnswer × PersistentMap
  | [] => ([], m)
  | c :: cs =>
    let (answer, m') := m.call c
    let (answers, m'') := calls m' cs
    (answer :: answers, m'')

end PersistentMap

/-! ### The table -/

def persistentEntry (table : Vector (Option PersistentValue) 8) (i : Fin 8) :
    Option PersistentValue := table[i]

/-- The record has been read, and its table is the map; a name in use has a value. -/
structure KeepsValues (s : DeviceInfoState) (m : PersistentMap) : Prop where
  read : s.firstReadDevInfo = false
  slots : SlotMap (·.name) (·.value) (persistentEntry s.devInfo.persistentValue) m
  nonempty : ∀ name, m name ≠ some []

theorem persistentEntry_set (table : Vector (Option PersistentValue) 8) (i : Fin 8)
    (x : Option PersistentValue) :
    persistentEntry (table.setIfInBounds i x) = Function.update (persistentEntry table) i x := by
  funext j
  unfold persistentEntry
  by_cases hj : j = i
  · subst hj
    simp
  · have hne : (i : Nat) ≠ j := fun h => hj (Fin.ext h.symm)
    rw [Function.update_of_ne hj]
    simp [hne]

theorem isNamed_iff (name : List UInt8) (x : Option PersistentValue) :
    PersistentValue.isNamed name x = true ↔ ∃ e, x = some e ∧ e.name = name := by
  cases x with
  | none => simp [PersistentValue.isNamed]
  | some e => simp [PersistentValue.isNamed]

variable {p : Option PersistentValue → Bool} {table : Vector (Option PersistentValue) 8}
  {env : DeviceInfoEnv} {name : List UInt8} {s : DeviceInfoState} {m : PersistentMap}

theorem findIdx_none (h : table.toList.findIdx? p = none) (i : Fin 8) :
    p (persistentEntry table i) = false := by
  rw [List.findIdx?_eq_none_iff] at h
  apply h
  simp [persistentEntry]

theorem findIdx_some {k : Nat} (h : table.toList.findIdx? p = some k) :
    ∃ i : Fin 8, (i : Nat) = k ∧ p (persistentEntry table i) = true := by
  rw [List.findIdx?_eq_some_iff_getElem] at h
  obtain ⟨hk, hp, -⟩ := h
  have hk8 : k < 8 := by simpa using hk
  exact ⟨⟨k, hk8⟩, rfl, by simpa [persistentEntry] using hp⟩

def NameUnused (table : Vector (Option PersistentValue) 8) (name : List UInt8) : Prop :=
  ∀ i e, persistentEntry table i = some e → e.name ≠ name

theorem putPersistentValue_cases (table : Vector (Option PersistentValue) 8)
    (name value : List UInt8) :
    (∃ i e, persistentEntry table i = some e ∧ e.name = name ∧
      putPersistentValue table name value =
        some (table.setIfInBounds i (if value = [] then none else some ⟨name, value⟩))) ∨
    (∃ i : Fin 8, persistentEntry table i = none ∧ NameUnused table name ∧
      putPersistentValue table name value =
        some (if value = [] then table else table.setIfInBounds i (some ⟨name, value⟩))) ∨
    ((∀ i, persistentEntry table i ≠ none) ∧ NameUnused table name ∧
      putPersistentValue table name value = none) := by
  unfold putPersistentValue
  rcases hname : table.toList.findIdx? (PersistentValue.isNamed name) with _ | k
  · have hunused : NameUnused table name := by
      intro i e he hen
      have hnot := findIdx_none hname i
      rw [(isNamed_iff name _).mpr ⟨e, he, hen⟩] at hnot
      cases hnot
    rcases hfree : table.toList.findIdx? (· == none) with _ | k
    · refine .inr (.inr ⟨?_, hunused, rfl⟩)
      intro i hi
      have hnot := findIdx_none hfree i
      simp [hi] at hnot
    · obtain ⟨i, rfl, hi⟩ := findIdx_some hfree
      exact .inr (.inl ⟨i, by simpa using hi, hunused, rfl⟩)
  · obtain ⟨i, rfl, hi⟩ := findIdx_some hname
    obtain ⟨e, he, hen⟩ := (isNamed_iff name _).mp hi
    exact .inl ⟨i, e, he, hen, rfl⟩

/-! ### One call -/

section Call

variable {table : Vector (Option PersistentValue) 8} {m : PersistentMap}

/-- A write updates the map, unless the name is new and the table full. -/
theorem putPersistentValue_slots
    (hslots : SlotMap (·.name) (·.value) (persistentEntry table) m) (name value : List UInt8) :
    (m name = none ∧ m.Full ∧ putPersistentValue table name value = none) ∨
    (¬(m name = none ∧ m.Full) ∧
      ∃ table', putPersistentValue table name value = some table' ∧
        SlotMap (·.name) (·.value) (persistentEntry table')
          (Function.update m name (if value = [] then none else some value))) := by
  have hvalue : (if value = [] then none else some value) =
      (if value = [] then none else some (⟨name, value⟩ : PersistentValue)).map (·.value) := by
    split <;> rfl
  have hkey : ∀ b, (if value = [] then none else some (⟨name, value⟩ : PersistentValue)) = some b →
      b.name = name := by
    intro b hb
    split at hb
    · cases hb
    · cases hb
      rfl
  obtain ⟨i, e, he, rfl, hput⟩ | ⟨i, hi, hunused, hput⟩ | ⟨hfull, hunused, hput⟩ :=
    putPersistentValue_cases table name value
  · refine .inr ⟨?_, _, hput, ?_⟩
    · rintro ⟨hnone, -⟩
      rw [hslots.lookup he] at hnone
      cases hnone
    · rw [persistentEntry_set, hvalue]
      exact hslots.update (hslots.slotOf he) _ hkey
  · refine .inr ⟨?_, _, hput, ?_⟩
    · rintro ⟨-, hfull⟩
      exact hslots.card_keys_eq_iff.mp hfull i hi
    · have hnew := hslots.update (slotOf_free hi hunused) _ hkey
      rw [← hvalue] at hnew
      by_cases hv : value = []
      · -- the free entry stays free, and the map has nothing for the name as before
        simp only [if_pos hv] at hnew ⊢
        rwa [← hi, Function.update_eq_self] at hnew
      · simp only [if_neg hv] at hnew ⊢
        rwa [← persistentEntry_set] at hnew
  · exact .inl ⟨hslots.lookup_none hunused, hslots.card_keys_eq_iff.mpr hfull, hput⟩

end Call

theorem exec_writePersistentValue {value : List UInt8} (hread : s.firstReadDevInfo = false)
    (hlimits : (PersistentCall.write name value).InLimits)
    (hwrites : ∀ n, env.writeStatus n = EFI_SUCCESS) :
    let write := writePersistentValue env (some name) (some value) value.length
    match putPersistentValue s.devInfo.persistentValue name value with
    | none => write.exec s = (.ok EFI_INVALID_PARAMETER, s)
    | some table => ∃ t, write.exec s = (.ok EFI_SUCCESS, t) ∧
        t.firstReadDevInfo = false ∧ t.devInfo.persistentValue = table := by
  obtain ⟨hname, hnameSize, hvalueSize⟩ := hlimits
  simp only [writePersistentValue, Prog.exec_bind, Prog.exec_get, hread, Bool.false_eq_true,
    if_false, Option.getD_some, hname, Nat.not_lt.mpr hnameSize, Nat.not_lt.mpr hvalueSize,
    reduceCtorEq, false_and, List.take_length]
  cases putPersistentValue s.devInfo.persistentValue name value with
  | none => rfl
  | some table =>
    dsimp only
    split_ifs with hsame
    · exact ⟨s, rfl, hread, hsame.2.symm⟩
    · rw [Prog.exec_bind, Prog.exec_modify]
      dsimp only
      rw [exec_writeDeviceInfo, hwrites]
      exact ⟨_, rfl, hread, rfl⟩

theorem readPersistentValue_eq (h : KeepsValues s m) (hname : name ≠ []) (bufferSize : Nat) :
    readPersistentValue s (some name) true (some bufferSize) = m.read name bufferSize := by
  unfold readPersistentValue PersistentMap.read
  simp only [h.read, Bool.false_eq_true, if_false, Option.getD_some, hname, reduceCtorEq, or_self,
    Bool.not_true]
  rcases hfind : s.devInfo.persistentValue.toList.find? (PersistentValue.isNamed name) with _ | x
  · have hnone : m name = none := by
      apply h.slots.lookup_none
      intro i e he hen
      rw [List.find?_eq_none] at hfind
      refine hfind (some e) ?_ ((isNamed_iff name _).mpr ⟨e, rfl, hen⟩)
      rw [← he]
      simp [persistentEntry]
    rw [hnone]
    rfl
  · obtain ⟨e, rfl, rfl⟩ := (isNamed_iff name x).mp (List.find?_some hfind)
    obtain ⟨k, hk, hke⟩ := List.getElem_of_mem (List.mem_of_find?_eq_some hfind)
    have he : persistentEntry s.devInfo.persistentValue ⟨k, by simpa using hk⟩ = some e := by
      simpa [persistentEntry] using hke
    have hm := h.slots.lookup he
    have hvalue : e.value ≠ [] := by
      intro hv
      rw [hv] at hm
      exact h.nonempty e.name hm
    dsimp only [Option.join_some]
    rw [hm, if_neg hvalue]

theorem persistentCall_spec (hwrites : ∀ n, env.writeStatus n = EFI_SUCCESS) (h : KeepsValues s m)
    {c : PersistentCall} (hc : c.InLimits) :
    ∃ t, (persistentCall env c).exec s = (.ok (m.call c).1, t) ∧ KeepsValues t (m.call c).2 := by
  cases c with
  | read name bufferSize =>
    refine ⟨s, ?_, h⟩
    rw [PersistentMap.call, ← readPersistentValue_eq h hc.1]
    rfl
  | write name value =>
    have hexec := exec_writePersistentValue h.read hc hwrites
    simp only [persistentCall, Prog.exec_bind, PersistentMap.call, PersistentMap.write]
    obtain ⟨hnew, hfull, hput⟩ | ⟨htaken, table, hput, hslots⟩ :=
      putPersistentValue_slots h.slots name value
    · rw [hput] at hexec
      rw [hexec, if_pos ⟨hnew, hfull⟩]
      exact ⟨s, rfl, h⟩
    · rw [hput] at hexec
      obtain ⟨t, hexec, hread, rfl⟩ := hexec
      rw [hexec, if_neg htaken]
      refine ⟨t, rfl, hread, hslots, ?_⟩
      intro k
      dsimp only
      by_cases hk : k = name
      · rw [hk, Function.update_self]
        split_ifs with hv
        · simp
        · rwa [Ne, Option.some.injEq]
      · rw [Function.update_of_ne hk]
        exact h.nonempty k

/-! ### Every sequence of calls -/

theorem persistentCalls_spec (hwrites : ∀ n, env.writeStatus n = EFI_SUCCESS)
    (cs : List PersistentCall) (hcs : ∀ c ∈ cs, c.InLimits) :
    ∀ {s : DeviceInfoState} {m : PersistentMap}, KeepsValues s m →
      ∃ t, (cs.mapM (persistentCall env)).exec s = (.ok (m.calls cs).1, t) ∧
        KeepsValues t (m.calls cs).2 := by
  induction cs with
  | nil =>
    intro s m h
    exact ⟨s, rfl, h⟩
  | cons c cs ih =>
    intro s m h
    obtain ⟨t, hcall, ht⟩ := persistentCall_spec hwrites h (hcs c List.mem_cons_self)
    obtain ⟨u, hcalls, hu⟩ := ih (fun c hc => hcs c (List.mem_cons_of_mem _ hc)) ht
    refine ⟨u, ?_, hu⟩
    rw [List.mapM_cons, Prog.exec_bind, hcall]
    dsimp only
    rw [Prog.exec_bind, hcalls]
    rfl

theorem keepsValues_zeroed (hread : s.firstReadDevInfo = false)
    (hzero : s.devInfo.persistentValue = Vector.replicate 8 none) :
    KeepsValues s (fun _ => none) where
  read := hread
  slots := by
    have hfree : persistentEntry s.devInfo.persistentValue = fun _ => none := by
      funext i
      rw [hzero]
      simp [persistentEntry]
    rw [hfree]
    exact SlotMap.empty
  nonempty name := by simp

/-- From a zeroed table on, every sequence of calls is answered as the empty map answers it, the
    table then holds exactly what the map does, and that is at most eight names. -/
theorem persistentValues_map (env : DeviceInfoEnv) (s : DeviceInfoState)
    (hread : s.firstReadDevInfo = false)
    (hzero : s.devInfo.persistentValue = Vector.replicate 8 none)
    (hwrites : ∀ n, env.writeStatus n = EFI_SUCCESS)
    (cs : List PersistentCall) (hcs : ∀ c ∈ cs, c.InLimits) :
    ∃ t, (cs.mapM (persistentCall env)).exec s =
        (.ok (PersistentMap.calls (fun _ => none) cs).1, t) ∧
      KeepsValues t (PersistentMap.calls (fun _ => none) cs).2 ∧
      {name | (PersistentMap.calls (fun _ => none) cs).2 name ≠ none}.ncard ≤ MAX_ENTRY_SIZE := by
  obtain ⟨t, hexec, ht⟩ := persistentCalls_spec hwrites cs hcs (keepsValues_zeroed hread hzero)
  exact ⟨t, hexec, ht, ht.slots.card_keys_le⟩

def zeroedDevice : DeviceInfoState :=
  let info : DeviceInfo := ⟨false, false, true, [], Vector.replicate 32 0, Vector.replicate 8 none⟩
  ⟨info, false, info, 0⟩

def reliableStore : DeviceInfoEnv := ⟨fun _ => EFI_SUCCESS, fun _ => EFI_SUCCESS, fun _ => false⟩

def nineNames : List PersistentCall :=
  (List.range 9).map (fun i => .write [i.toUInt8] [1]) ++
    [.write [0] [], .write [8] [2], .read [8] 32, .read [0] 32]

-- the ninth name does not fit before the first is cleared, and the reads find what is left
example : ((nineNames.mapM (persistentCall reliableStore)).exec zeroedDevice).1 =
    .ok (List.replicate 8 (EFI_SUCCESS, []) ++
      [(EFI_INVALID_PARAMETER, []), (EFI_SUCCESS, []), (EFI_SUCCESS, []), (EFI_SUCCESS, [2]),
        (EFI_NOT_FOUND, [])]) := by
  decide +kernel

theorem persistentValues_map_nine :
    (∀ n, reliableStore.writeStatus n = EFI_SUCCESS) ∧ (∀ c ∈ nineNames, c.InLimits) ∧
    ∃ t, (nineNames.mapM (persistentCall reliableStore)).exec zeroedDevice =
        (.ok (PersistentMap.calls (fun _ => none) nineNames).1, t) ∧
      KeepsValues t (PersistentMap.calls (fun _ => none) nineNames).2 ∧
      {name | (PersistentMap.calls (fun _ => none) nineNames).2 name ≠ none}.ncard ≤
        MAX_ENTRY_SIZE := by
  have hwrites : ∀ n, reliableStore.writeStatus n = EFI_SUCCESS := fun _ => rfl
  have hlimits : ∀ c ∈ nineNames, c.InLimits := by decide
  exact ⟨hwrites, hlimits, persistentValues_map _ _ rfl rfl hwrites _ hlimits⟩

end OhMyAbl
