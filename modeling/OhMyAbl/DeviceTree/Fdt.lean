/-
  **Flattened device trees, as the library reads them.**

  A tree is given by the memory from its first byte on (`blob`); what is before it in memory is
  found at the offsets modulo 2^64.  The look-up of a property walks the
  tags of the structure block; the length of a property is added to the offset modulo 2^32, so a
  property of length `0xfffffff4` is followed by itself, and a look-up may never end.
-/
import OhMyAbl.Base.Efi
import OhMyAbl.Lib.Bytes

namespace OhMyAbl

def FDT_MAGIC : Nat := 0xd00dfeed
def FDT_SW_MAGIC : Nat := MAX_UINT32 - FDT_MAGIC
def FDT_FIRST_SUPPORTED_VERSION : Nat := 0x10
def FDT_LAST_SUPPORTED_VERSION : Nat := 0x11
def FDT_TAGSIZE : Nat := 4

def FDT_HEADER_SIZE : Nat := 40

structure FdtHeader where
  magic : Nat
  totalsize : Nat
  offDtStruct : Nat
  offDtStrings : Nat
  offMemRsvmap : Nat
  version : Nat
  lastCompVersion : Nat
  sizeDtStrings : Nat
  sizeDtStruct : Nat
  deriving Repr, DecidableEq

def fdtHeader (blob : Bytes) : FdtHeader where
  magic := blob.beU32At 0
  totalsize := blob.beU32At 4
  offDtStruct := blob.beU32At 8
  offDtStrings := blob.beU32At 12
  offMemRsvmap := blob.beU32At 16
  version := blob.beU32At 20
  lastCompVersion := blob.beU32At 24
  sizeDtStrings := blob.beU32At 32
  sizeDtStruct := blob.beU32At 36

def fdtTotalsize (blob : Bytes) : Nat := (fdtHeader blob).totalsize

theorem fdtTotalsize_lt (blob : Bytes) : fdtTotalsize blob < 2 ^ 32 := Bytes.beU32At_lt

def fdtCheckHeader (h : FdtHeader) : Bool :=
  (if h.magic = FDT_MAGIC then
      FDT_FIRST_SUPPORTED_VERSION ≤ h.version && h.lastCompVersion ≤ FDT_LAST_SUPPORTED_VERSION
    else if h.magic = FDT_SW_MAGIC then h.sizeDtStruct ≠ 0
    else false) &&
  decide (h.offDtStruct ≤ MAX_UINT32 - h.sizeDtStruct) &&
  decide (h.offDtStrings ≤ MAX_UINT32 - h.sizeDtStrings) &&
  decide (u32 (h.offDtStruct + h.sizeDtStruct) ≤ h.totalsize) &&
  decide (u32 (h.offDtStrings + h.sizeDtStrings) ≤ h.totalsize)

/-- One of the two blocks of the tree, as `fdt_check_header_ext` checks it. -/
def blockInside (start fdtEnd off size : Nat) : Bool :=
  let sum := ADD_OF off size
  sum ≠ 0 && !CHECK_ADD64 start sum && u64 (start + sum) ≤ fdtEnd

/-- `fdt_check_header_ext` for a header at address `start`: whether it returns 0. -/
def fdtCheckHeaderExt (start : Nat) (h : FdtHeader) : Bool :=
  let fdtEnd := u64 (start + h.totalsize)
  decide (start < fdtEnd) &&
  blockInside start fdtEnd h.offDtStruct h.sizeDtStruct &&
  blockInside start fdtEnd h.offDtStrings h.sizeDtStrings &&
  decide (u64 (start + h.offMemRsvmap) ≤ fdtEnd)

theorem totalsize_pos_of_checkHeaderExt {start : Nat} {h : FdtHeader}
    (hc : fdtCheckHeaderExt start h = true) : 0 < h.totalsize := by
  simp only [fdtCheckHeaderExt, Bool.and_eq_true, decide_eq_true_eq] at hc
  have hlt := hc.1.1.1
  by_contra hzero
  have hz : h.totalsize = 0 := by omega
  rw [hz, Nat.add_zero] at hlt
  exact absurd hlt (Nat.not_lt.mpr (Nat.mod_le _ _))

theorem lt_of_checkHeaderExt {start : Nat} {h : FdtHeader}
    (hc : fdtCheckHeaderExt start h = true) : start < 2 ^ 64 := by
  simp only [fdtCheckHeaderExt, Bool.and_eq_true, decide_eq_true_eq] at hc
  exact Nat.lt_trans hc.1.1.1 (Nat.mod_lt _ (by omega))

theorem ADD_OF_lt (a b : Nat) : ADD_OF a b < 2 ^ 32 := by
  unfold ADD_OF MAX_UINT32
  split <;> omega

theorem blockInside_iff {start size off len : Nat} (hstart : start + 2 ^ 32 ≤ 2 ^ 64) :
    blockInside start (start + size) off len = true ↔
      ADD_OF off len ≠ 0 ∧ ADD_OF off len ≤ size := by
  have hsum := ADD_OF_lt off len
  have hmod : (start + ADD_OF off len) % 2 ^ 64 = start + ADD_OF off len :=
    Nat.mod_eq_of_lt (by omega)
  have hcheck : CHECK_ADD64 start (ADD_OF off len) = false := by
    unfold CHECK_ADD64 MAX_UINT64
    exact decide_eq_false (by omega)
  simp only [blockInside, hcheck, u64, hmod, Bool.not_false, Bool.and_true, Bool.and_eq_true,
    decide_eq_true_eq]
  omega

theorem fdtCheckHeaderExt_eq {start start' : Nat} (blob : Bytes)
    (hstart : start + 2 ^ 32 ≤ 2 ^ 64) (hstart' : start' + 2 ^ 32 ≤ 2 ^ 64) :
    fdtCheckHeaderExt start (fdtHeader blob) = fdtCheckHeaderExt start' (fdtHeader blob) := by
  have hsize : (fdtHeader blob).totalsize < 2 ^ 32 := Bytes.beU32At_lt
  have hrsv : (fdtHeader blob).offMemRsvmap < 2 ^ 32 := Bytes.beU32At_lt
  have hiff : ∀ a, a + 2 ^ 32 ≤ 2 ^ 64 → (fdtCheckHeaderExt a (fdtHeader blob) = true ↔
      0 < (fdtHeader blob).totalsize ∧
      (ADD_OF (fdtHeader blob).offDtStruct (fdtHeader blob).sizeDtStruct ≠ 0 ∧
        ADD_OF (fdtHeader blob).offDtStruct (fdtHeader blob).sizeDtStruct ≤
          (fdtHeader blob).totalsize) ∧
      (ADD_OF (fdtHeader blob).offDtStrings (fdtHeader blob).sizeDtStrings ≠ 0 ∧
        ADD_OF (fdtHeader blob).offDtStrings (fdtHeader blob).sizeDtStrings ≤
          (fdtHeader blob).totalsize) ∧
      (fdtHeader blob).offMemRsvmap ≤ (fdtHeader blob).totalsize) := by
    intro a ha
    have hend : u64 (a + (fdtHeader blob).totalsize) = a + (fdtHeader blob).totalsize :=
      Nat.mod_eq_of_lt (by omega)
    have hmap : u64 (a + (fdtHeader blob).offMemRsvmap) = a + (fdtHeader blob).offMemRsvmap :=
      Nat.mod_eq_of_lt (by omega)
    simp only [fdtCheckHeaderExt, hend, Bool.and_eq_true, decide_eq_true_eq, blockInside_iff ha]
    omega
  rw [Bool.eq_iff_iff, hiff start hstart, hiff start' hstart']

/-! ### The tags of the structure block -/

/-- `fdt_offset_ptr`.  An offset past the largest `int` is a signed overflow in the callers; it
gets no pointer. -/
def fdtOffsetPtr (h : FdtHeader) (offset len : Nat) : Option Nat :=
  let absoffset := u32 (offset + h.offDtStruct)
  if 2 ^ 31 ≤ offset then none
  else if absoffset < offset ∨ u32 (absoffset + len) < absoffset ∨
      h.totalsize < u32 (absoffset + len) then none
  else if 0x11 ≤ h.version ∧
      (u32 (offset + len) < offset ∨ h.sizeDtStruct < u32 (offset + len)) then none
  else some (h.offDtStruct + offset)

inductive FdtTag where
  | beginNode
  | endNode
  | prop
  | nop
  | finish
  deriving Repr, DecidableEq

/-- The name of a node, up to and with its final zero: the offset after it.  `none` when the
tree ends before the name does. -/
def skipName (blob : Bytes) (h : FdtHeader) : Nat → Nat → Option Nat
  | 0, _ => none
  | fuel + 1, offset =>
    match fdtOffsetPtr h offset 1 with
    | none => none
    | some p => if blob p = 0 then some (offset + 1) else skipName blob h fuel (offset + 1)

/-- The tag at an offset and the offset after the tag and what belongs to it, before it is
rounded up. -/
def tagEnd (blob : Bytes) (h : FdtHeader) (start : Nat) : Option (FdtTag × Nat) := do
  let tagp ← fdtOffsetPtr h start FDT_TAGSIZE
  let offset := start + FDT_TAGSIZE
  match blob.beU32At tagp with
  | 0x1 => (skipName blob h (h.totalsize + 1) offset).map (FdtTag.beginNode, ·)
  | 0x2 => some (.endNode, offset)
  | 0x3 =>
    let lenp ← fdtOffsetPtr h offset 4
    some (.prop, u32 (offset + 8 + blob.beU32At lenp))
  | 0x4 => some (.nop, offset)
  | 0x9 => some (.finish, offset)
  | _ => none

/-- `fdt_next_tag`: the tag at an offset and the offset of the next one; without a next offset
the tag is `FDT_END`. -/
def fdtNextTag (blob : Bytes) (h : FdtHeader) (start : Nat) : FdtTag × Option Nat :=
  match tagEnd blob h start with
  | none => (.finish, none)
  | some (tag, offset) =>
    match fdtOffsetPtr h start (u32 (offset + (2 ^ 32 - start))) with
    | none => (.finish, none)
    | some _ => (tag, some ((offset + 3) / 4 * 4))

/-- `_fdt_check_node_offset` and `_fdt_check_prop_offset`: the offset after the tag, if it is
the expected one. -/
def fdtCheckOffset (blob : Bytes) (h : FdtHeader) (expected : FdtTag) (offset : Nat) :
    Option Nat :=
  if offset % FDT_TAGSIZE ≠ 0 then none
  else
    match fdtNextTag blob h offset with
    | (tag, next) => if tag = expected then next.filter (· < 2 ^ 31) else none

def nextprop (blob : Bytes) (h : FdtHeader) : Nat → Nat → Option Nat
  | 0, _ => none
  | fuel + 1, offset =>
    match fdtNextTag blob h offset with
    | (.prop, _) => some offset
    | (.nop, some next) => nextprop blob h fuel next
    | _ => none

def fdtFirstPropertyOffset (blob : Bytes) (h : FdtHeader) (node : Nat) : Option Nat :=
  (fdtCheckOffset blob h .beginNode node).bind (nextprop blob h (h.totalsize + 1))

def fdtNextPropertyOffset (blob : Bytes) (h : FdtHeader) (offset : Nat) : Option Nat :=
  (fdtCheckOffset blob h .prop offset).bind (nextprop blob h (h.totalsize + 1))

structure FdtProp where
  data : Nat
  len : Nat
  deriving Repr, DecidableEq

def FdtProp.positive (p : FdtProp) : Bool := decide (0 < p.len) && decide (p.len < 2 ^ 31)

/-- The loop of `fdt_get_property_namelen` from a property on.  `none`: the walk does not come
to an end. -/
def findProperty (blob : Bytes) (h : FdtHeader) (name : List UInt8) :
    Nat → Option Nat → Option (Option FdtProp)
  | _, none => some none
  | 0, some _ => none
  | fuel + 1, some offset =>
    match fdtCheckOffset blob h .prop offset with
    | none => some none
    | some _ =>
      let prop := h.offDtStruct + offset
      let nameoff := blob.beU32At (prop + 8)
      -- `fdt_string` takes an `int`: the name may be before the strings, and before the tree
      let stroffset := if nameoff < 2 ^ 31 then nameoff else 2 ^ 64 - 2 ^ 32 + nameoff
      let p := u64 (h.offDtStrings + stroffset)
      -- strlen (p) == len && memcmp (p, s, len) == 0: no name has a zero in it
      if blob.slice p name.length = name ∧ blob (p + name.length) = 0 then
        some (some ⟨prop + 12, blob.beU32At (prop + 4)⟩)
      else findProperty blob h name fuel (fdtNextPropertyOffset blob h offset)

def fdtGetprop (blob : Bytes) (name : String) : Option (Option FdtProp) :=
  let h := fdtHeader blob
  findProperty blob h (ascii name) (h.totalsize + 1) (fdtFirstPropertyOffset blob h 0)

end OhMyAbl
