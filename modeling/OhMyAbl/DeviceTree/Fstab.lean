/-
  **The boot device in the fstab nodes of the device tree.**

  `UpdateFstabNode` of `UpdateDeviceTree.c` writes the name of the boot device into the `dev` path
  of every sub-node, inside the property: the rest of the path moves down over the longer old
  name, and spaces fill what becomes free at the end.
-/
import OhMyAbl.Fastboot.Command

namespace OhMyAbl

/-! ### Texts in a property -/

/-- The zero-terminated string that `s` starts with.  A property is followed by padding or by a
    token, whose first byte is zero, so that the string ends with the property at the latest. -/
def cString (s : List UInt8) : List UInt8 := s.takeWhile (· ≠ 0)

/-- `AsciiStrStr`, as an offset. -/
def asciiStrStr (s sub : List UInt8) : Option Nat :=
  (strStr (cString s) sub).map fun found => (cString s).length - found.length

def DEVICE_PATH_ID : List UInt8 := ascii "/soc/"

def slash : UInt8 := 47
def space : UInt8 := 32

/-- The padding loop, which measures the text at `NextStr` again in every turn. -/
def padEnd (bootDevLen devLen : Nat) : Nat → Nat → List UInt8 → List UInt8
  | 0, _, s => s
  | n + 1, index, s =>
    padEnd bootDevLen devLen n (index + 1)
      (s.set (bootDevLen + (cString (s.drop devLen)).length + index) space)

/-- The bytes from `ReplaceStr` on.  The search for the end of the old name skips its first byte;
    the second copy may overlap itself. -/
def replaceDev (bootDev s : List UInt8) : List UInt8 :=
  match asciiStrStr (s.drop 1) [slash] with
  | none => s
  | some k =>
    let devLen := k + 1
    if devLen ≥ bootDev.length then
      let s := bootDev ++ s.drop bootDev.length
      if devLen - bootDev.length ≠ 0 then
        let tail := cString (s.drop devLen)
        padEnd bootDev.length devLen (devLen - bootDev.length) 0
          (s.take bootDev.length ++ (tail ++ s.drop (bootDev.length + tail.length)))
      else s
    else s

/-- What the loop over the sub-nodes does to the bytes of one `dev` property. -/
def updateDev (bootDev s : List UInt8) : List UInt8 :=
  match asciiStrStr s DEVICE_PATH_ID with
  | none => s
  | some i =>
    let replaceStr := i + DEVICE_PATH_ID.length
    s.take replaceStr ++ replaceDev bootDev (s.drop replaceStr)

/-! ### The sub-nodes -/

/-- The two properties of a sub-node that are looked up. -/
structure FstabSubNode where
  dev : Option (List UInt8)
  status : Option (List UInt8)

/-- The answers of the device tree library and of the firmware. -/
structure FstabEnv where
  isDynamicPartitionSupport : Bool
  parentFound : Bool
  bufferAllocated : Bool
  getBootDevice : Except EfiStatus (List UInt8)
  fdtSetProp : FstabSubNode → EfiStatus

def disableNodes (env : FstabEnv) (status : EfiStatus) :
    List FstabSubNode → EfiStatus × List FstabSubNode
  | [] => (status, [])
  | node :: rest =>
    let result := if node.status.isNone then status else env.fdtSetProp node
    let node' := if node.status.isSome ∧ result = EFI_SUCCESS then
      { node with status := some (ascii "disabled" ++ [0]) } else node
    let (status, rest) := disableNodes env result rest
    (status, node' :: rest)

/-- The name of the boot device, or the status with which the routine ends before the loop. -/
def FstabEnv.bootDev (env : FstabEnv) : Except EfiStatus (List UInt8) :=
  if !env.parentFound then .error EFI_NOT_FOUND
  else if !env.bufferAllocated then .error EFI_OUT_OF_RESOURCES
  else env.getBootDevice.map cString

def updateFstabNode (env : FstabEnv) (nodes : List FstabSubNode) :
    EfiStatus × List FstabSubNode :=
  if env.isDynamicPartitionSupport then
    if !env.parentFound then (EFI_NOT_FOUND, nodes) else disableNodes env EFI_SUCCESS nodes
  else match env.bootDev with
    | .error status => (status, nodes)
    | .ok bootDev =>
      (EFI_SUCCESS, nodes.map fun node => { node with dev := node.dev.map (updateDev bootDev) })

/-! ### Searching a text -/

section Search

variable {text sub found : List UInt8}

theorem cString_append (h : 0 ∉ text) : cString (text ++ [0]) = text := by
  rw [cString, List.takeWhile_append_of_pos (by grind)]
  simp

theorem strStr_suffix (h : strStr text sub = some found) :
    ∃ pre rest, text = pre ++ (sub ++ rest) ∧ found = sub ++ rest := by
  induction text with
  | nil =>
    simp only [strStr, Option.ite_none_right_eq_some, Option.some.injEq] at h
    exact ⟨[], [], by simp [h.1], by simp [h]⟩
  | cons c text ih =>
    rw [strStr] at h
    split at h
    · rename_i hc
      obtain ⟨rest, hrest⟩ := List.isPrefixOf_iff_prefix.1 hc
      exact ⟨[], rest, hrest.symm, by simp_all⟩
    · obtain ⟨pre, rest, rfl, rfl⟩ := ih h
      exact ⟨c :: pre, rest, rfl, rfl⟩

theorem strStr_slash {name rest : List UInt8} (h : slash ∉ name) :
    strStr (name ++ slash :: rest) [slash] = some (slash :: rest) := by
  induction name with
  | nil => simp [strStr]
  | cons c name ih =>
    simp only [List.mem_cons, not_or] at h
    simp [strStr, h.1, ih h.2]

theorem asciiStrStr_append (h : 0 ∉ text) :
    asciiStrStr (text ++ [0]) sub =
      (strStr text sub).map fun found => text.length - found.length := by
  rw [asciiStrStr, cString_append h]

end Search

/-! ### The path of a `dev` property -/

/-- `text` is a path in which `name` and a slash follow the first device path id.  The name ends at
    the first slash behind its first byte, so it may itself start with one. -/
structure DevPath (text pre name rest : List UInt8) : Prop where
  text_eq : text = pre ++ (DEVICE_PATH_ID ++ (name ++ slash :: rest))
  first : strStr text DEVICE_PATH_ID = some (DEVICE_PATH_ID ++ (name ++ slash :: rest))
  name_ne : name ≠ []
  slash_notMem : slash ∉ name.tail

/-- The name and what follows it, with the boot device in its place. -/
def replaced (boot name rest : List UInt8) : List UInt8 :=
  boot ++ (slash :: rest ++ (List.replicate (name.length - boot.length) space ++ [0]))

section Path

variable {boot text pre name rest : List UInt8}

-- `u` is what is settled, `w` what the loop still fills.  No zero is written or moved, so that
-- the measured length stays `n`.
theorem padEnd_eq {bootDevLen devLen n index : Nat} {u w : List UInt8} (h : 0 ∉ u ++ w)
    (hstart : bootDevLen + n + index = u.length) (hnext : devLen + n = u.length + w.length) :
    padEnd bootDevLen devLen w.length index (u ++ (w ++ [0])) =
      u ++ (List.replicate w.length space ++ [0]) := by
  induction w generalizing u index with
  | nil => simp [padEnd]
  | cons c w ih =>
    have hlen : (cString ((u ++ (c :: w ++ [0])).drop devLen)).length = n := by
      rw [← List.append_assoc, List.drop_append_of_le_length (by simp at *; omega),
        cString_append (fun hmem => h (List.mem_of_mem_drop hmem))]
      simp at *
      omega
    rw [List.length_cons, padEnd, hlen, hstart, List.cons_append,
      List.set_append_right _ _ (Nat.le_refl _), Nat.sub_self, List.set_cons_zero]
    have := @ih (index + 1) (u ++ [space]) (by simp [space] at *; tauto) (by simp; omega)
      (by simp at *; omega)
    simpa [List.replicate_succ] using this

-- The rest of the path moves down over what is left of the old name.
theorem padEnd_moved {old tail : List UInt8} (h0 : 0 ∉ boot ++ (old ++ tail)) :
    padEnd boot.length (boot.length + old.length) old.length 0
      (boot ++ (tail ++ (old ++ (tail ++ [0])).drop tail.length)) =
      boot ++ (tail ++ (List.replicate old.length space ++ [0])) := by
  have hw : ((old ++ tail).drop tail.length).length = old.length := by simp
  have hmem : 0 ∉ boot ++ tail ++ (old ++ tail).drop tail.length := by
    have := List.mem_of_mem_drop (a := (0 : UInt8)) (l := old ++ tail) (i := tail.length)
    simp only [List.mem_append] at *
    tauto
  have hpad := @padEnd_eq boot.length (boot.length + old.length) tail.length 0 _ _ hmem
    (by simp) (by simp; omega)
  rw [← List.append_assoc old, List.drop_append_of_le_length (by simp)]
  simpa only [hw, List.append_assoc] using hpad

theorem replaceDev_eq (hname : name ≠ []) (hslash : slash ∉ name.tail)
    (h0 : 0 ∉ name ++ slash :: rest) (hboot : 0 ∉ boot) :
    replaceDev boot (name ++ slash :: rest ++ [0]) =
      if boot.length ≤ name.length then replaced boot name rest
      else name ++ slash :: rest ++ [0] := by
  obtain ⟨c, tail, rfl⟩ := List.exists_cons_of_ne_nil hname
  have hnext : asciiStrStr ((c :: tail ++ slash :: rest ++ [0]).drop 1) [slash] =
      some tail.length := by
    have htail : 0 ∉ tail ++ slash :: rest := fun h => h0 (List.mem_cons_of_mem c h)
    rw [List.tail_cons] at hslash
    rw [List.cons_append, List.cons_append, List.drop_one, List.tail_cons,
      asciiStrStr_append htail, strStr_slash hslash]
    simp
  rw [replaceDev, hnext]
  generalize hold : c :: tail = old at *
  have hlen : tail.length + 1 = old.length := by rw [← hold, List.length_cons]
  simp only [hlen]
  split
  · rename_i hfit
    have hs : boot ++ (old ++ slash :: rest ++ [0]).drop boot.length =
        boot ++ (old.drop boot.length ++ (slash :: rest ++ [0])) := by
      rw [List.append_assoc, List.drop_append_of_le_length hfit]
    have hdrop : old.length = boot.length + (old.drop boot.length).length := by
      rw [List.length_drop]
      omega
    have hmem : 0 ∉ boot ++ (old.drop boot.length ++ slash :: rest) := by
      have := List.mem_of_mem_drop (a := (0 : UInt8)) (l := old) (i := boot.length)
      simp only [List.mem_append] at *
      tauto
    have htail : cString ((boot ++ (old.drop boot.length ++ (slash :: rest ++ [0]))).drop
        old.length) = slash :: rest := by
      rw [hdrop, ← List.drop_drop, List.drop_left, List.drop_left, cString_append]
      simp only [List.mem_append] at *
      tauto
    have hpad := padEnd_moved hmem
    rw [← hdrop, List.length_drop] at hpad
    rw [hs, htail, List.take_left, ← List.drop_drop, List.drop_left, hpad, replaced]
    split
    · rfl
    · have hzero : old.length - boot.length = 0 := by omega
      have hnil : old.drop boot.length = [] := List.drop_eq_nil_of_le (by omega)
      simp [hzero, hnil]
  · rfl

theorem updateDev_found {r : List UInt8} (h0 : 0 ∉ pre ++ (DEVICE_PATH_ID ++ r))
    (h : strStr (pre ++ (DEVICE_PATH_ID ++ r)) DEVICE_PATH_ID = some (DEVICE_PATH_ID ++ r)) :
    updateDev boot (pre ++ (DEVICE_PATH_ID ++ r) ++ [0]) =
      pre ++ (DEVICE_PATH_ID ++ replaceDev boot (r ++ [0])) := by
  have hid : asciiStrStr (pre ++ (DEVICE_PATH_ID ++ r) ++ [0]) DEVICE_PATH_ID =
      some pre.length := by
    rw [asciiStrStr_append h0, h]
    simp
  rw [updateDev, hid]
  dsimp only
  rw [← List.length_append, ← List.append_assoc, List.append_assoc _ r, List.take_left,
    List.drop_left, List.append_assoc]

theorem updateDev_path (h : DevPath text pre name rest) (h0 : 0 ∉ text) (hboot : 0 ∉ boot) :
    updateDev boot (text ++ [0]) = if boot.length ≤ name.length then
      pre ++ (DEVICE_PATH_ID ++ replaced boot name rest) else text ++ [0] := by
  obtain ⟨rfl, hfirst, hname, hslash⟩ := h
  have hmem : 0 ∉ name ++ slash :: rest := fun h => h0 (by simp only [List.mem_append, h, or_true])
  rw [updateDev_found h0 hfirst, replaceDev_eq hname hslash hmem hboot]
  split <;> simp

/-- Without such a path the property stays as it is. -/
theorem updateDev_eq_self (h0 : 0 ∉ text) (h : ¬ ∃ pre name rest, DevPath text pre name rest) :
    updateDev boot (text ++ [0]) = text ++ [0] := by
  cases hfound : strStr text DEVICE_PATH_ID with
  | none => rw [updateDev, asciiStrStr_append h0, hfound, Option.map_none]
  | some found =>
    obtain ⟨pre, r, rfl, rfl⟩ := strStr_suffix hfound
    rw [updateDev_found h0 hfound]
    suffices replaceDev boot (r ++ [0]) = r ++ [0] by simp [this]
    unfold replaceDev
    split
    · rfl
    · rename_i k hk
      refine absurd ?_ h
      cases r with
      | nil => simp [asciiStrStr, cString, strStr] at hk
      | cons c r =>
        have hr : 0 ∉ r := fun h => h0 (by simp [h])
        rw [List.cons_append, List.drop_one, List.tail_cons, asciiStrStr_append hr,
          Option.map_eq_some_iff] at hk
        obtain ⟨found, hslash, -⟩ := hk
        obtain ⟨q, rest, rfl, -⟩ := strStr_suffix hslash
        have hmem : slash ∈ q ++ ([slash] ++ rest) := by simp
        obtain ⟨name, rest', hr, hname⟩ := List.eq_append_cons_of_mem hmem
        rw [hr] at hfound ⊢
        exact ⟨pre, c :: name, rest', rfl, hfound, List.cons_ne_nil c name, hname⟩

end Path

/-! ### The sub-nodes after the update -/

theorem FstabEnv.bootDev_nonzero {env : FstabEnv} {boot : List UInt8} (h : env.bootDev = .ok boot) :
    0 ∉ boot := by
  unfold bootDev at h
  split at h
  · cases h
  split at h
  · cases h
  cases hdevice : env.getBootDevice with
  | error status => simp [hdevice, Except.map] at h
  | ok buf =>
    rw [hdevice] at h
    cases h
    exact fun hmem => by simpa using List.all_eq_true.1 List.all_takeWhile 0 hmem

theorem updateFstabNode_dev {env : FstabEnv} {nodes : List FstabSubNode} {node : FstabSubNode}
    {k : Nat} {text : List UInt8} (hstatic : env.isDynamicPartitionSupport = false)
    (hnode : nodes[k]? = some node) (hdev : node.dev = some (text ++ [0])) (h0 : 0 ∉ text) :
    ∃ dev, (updateFstabNode env nodes).2[k]? = some { node with dev := some dev } ∧
      dev.length = text.length + 1 ∧
      (∀ boot pre name rest, env.bootDev = .ok boot → DevPath text pre name rest →
        boot.length ≤ name.length →
        dev = pre ++ (DEVICE_PATH_ID ++ replaced boot name rest)) ∧
      ((¬ ∃ boot pre name rest, env.bootDev = .ok boot ∧ DevPath text pre name rest ∧
        boot.length ≤ name.length) → dev = text ++ [0]) := by
  rw [updateFstabNode, hstatic]
  cases hboot : env.bootDev with
  | error status =>
    refine ⟨text ++ [0], ?_, by simp, fun _ _ _ _ h => (nomatch h), fun _ => rfl⟩
    simp [hnode, ← hdev]
  | ok boot =>
    have hzero := env.bootDev_nonzero hboot
    refine ⟨updateDev boot (text ++ [0]), by simp [hnode, hdev], ?_, ?_, ?_⟩
    · by_cases hpath : ∃ pre name rest, DevPath text pre name rest
      · obtain ⟨pre, name, rest, hpath⟩ := hpath
        rw [updateDev_path hpath h0 hzero]
        split
        · simp [hpath.text_eq, replaced]
          omega
        · simp
      · rw [updateDev_eq_self h0 hpath, List.length_append, List.length_singleton]
    · rintro _ pre name rest ⟨⟩ hpath hfit
      rw [updateDev_path hpath h0 hzero, if_pos hfit]
    · intro hno
      by_cases hpath : ∃ pre name rest, DevPath text pre name rest
      · obtain ⟨pre, name, rest, hpath⟩ := hpath
        rw [updateDev_path hpath h0 hzero,
          if_neg fun hfit => hno ⟨boot, pre, name, rest, rfl, hpath, hfit⟩]
      · exact updateDev_eq_self h0 hpath

def sampleFstabEnv : FstabEnv where
  isDynamicPartitionSupport := false
  parentFound := true
  bufferAllocated := true
  getBootDevice := .ok (ascii "7c4000.sdhci" ++ [0])
  fdtSetProp := fun _ => EFI_SUCCESS

def sampleSubNode : FstabSubNode := ⟨some (ascii "/soc/1d84000.ufshc/by" ++ [0]), none⟩

theorem updateFstabNode_dev_sample :
    (updateFstabNode sampleFstabEnv [sampleSubNode]).2[0]? =
      some ⟨some (ascii "/soc/7c4000.sdhci/by " ++ [0]), none⟩ := by
  obtain ⟨dev, hnode, -, hpath, -⟩ :=
    @updateFstabNode_dev sampleFstabEnv [sampleSubNode] _ 0 _ rfl rfl rfl (by decide)
  rw [hnode, hpath (ascii "7c4000.sdhci") [] (ascii "1d84000.ufshc") (ascii "by") rfl
    ⟨by decide, by decide, by decide, by decide⟩ (by decide)]
  rfl

/-- The text between the first device path id and the next slash. -/
def nameBehindId (text : List UInt8) : Option (List UInt8) :=
  (strStr text DEVICE_PATH_ID).map fun found =>
    (found.drop DEVICE_PATH_ID.length).takeWhile (· ≠ slash)

/-- **A path without a name, and a property of two strings, are rewritten too.**  In the first there
    is nothing between the id and the next slash, so no boot device fits there. -/
theorem updateFstabNode_dev_other :
    nameBehindId (ascii "/soc//1d84000.ufshc/by") = some [] ∧
    (updateFstabNode sampleFstabEnv
      [⟨some (ascii "/soc//1d84000.ufshc/by" ++ [0]), none⟩,
        ⟨some (ascii "/soc/1d84000.ufshc/by" ++ 0 :: ascii "x" ++ [0]), none⟩]).2.map (·.dev) =
      [some (ascii "/soc/7c4000.sdhci/by  " ++ [0]),
        some (ascii "/soc/7c4000.sdhci/by " ++ 0 :: ascii "x" ++ [0])] := by
  decide

end OhMyAbl
