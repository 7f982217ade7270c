/-
  **Writing attributes and type GUIDs back to the partition tables.**

  `UpdatePartitionAttributes` (`PartitionTableUpdate.c`) walks through the entries in memory and the
  entries of each table side by side.  The two walks keep in step only if the table has no unused
  entry before a used one: the code takes an entry without a type GUID for one of a backup table
  that has yet to be filled.
-/
import OhMyAbl.Partition.Slots
import OhMyAbl.Partition.Gpt

namespace OhMyAbl

open Prog Bytes

/-! ### The walk through one table -/

def ATTRIBUTE_FLAG_OFFSET : Nat := 48
def GUID_SIZE : Nat := 16
def PRIMARY_HDR_LBA : Nat := 1
def MAX_HANDLEINF_LST_SIZE : Nat := 128

inductive UpdateType where
  | PARTITION_ATTRIBUTES
  | PARTITION_GUID
  | PARTITION_ALL
deriving DecidableEq, Repr

namespace UpdateType

def guid : UpdateType → Bool
  | PARTITION_ATTRIBUTES => false
  | _ => true

def attributes : UpdateType → Bool
  | PARTITION_GUID => false
  | _ => true

end UpdateType

def guidAt (g : Bytes) (a : Nat) : BitVec 128 :=
  BitVec.ofNat 128 (g.u64At a + 2 ^ 64 * g.u64At (a + 8))

def data1 (guid : BitVec 128) : BitVec 32 := guid.setWidth 32

/-- The local variables of the walk: the blocks that were read, the entry of them that comes next,
    whether nothing was changed so far, and the copy of the entries in memory. -/
structure Walk where
  buffer : Bytes
  ptr : Nat
  skipUpdation : Bool
  bak : List PartitionEntry

namespace Walk

def updateGuid (i : Nat) (e : PartitionEntry) (w : Walk) : Walk :=
  if guidAt w.buffer w.ptr ≠ e.partitionTypeGUID then
    { w with
      buffer := w.buffer.put w.ptr GUID_SIZE e.partitionTypeGUID.toNat
      skipUpdation := false
      bak := w.bak.modify i fun b => { b with partitionTypeGUID := e.partitionTypeGUID } }
  else w

def updateAttributes (i : Nat) (e : PartitionEntry) (w : Walk) : Walk :=
  if w.buffer.u64At (w.ptr + ATTRIBUTE_FLAG_OFFSET) ≠ e.attributes.toNat then
    { w with
      buffer := w.buffer.put (w.ptr + ATTRIBUTE_FLAG_OFFSET) 8 e.attributes.toNat
      skipUpdation := false
      bak := w.bak.modify i fun b => { b with attributes := e.attributes } }
  else w

/-- Entry `i` of the LUN.  Attributes go to an entry of the same type, or of none; behind an entry
    of another type the walk through the table stays where it is. -/
def updateEntry (type : UpdateType) (i : Nat) (e : PartitionEntry) (w : Walk) : Walk :=
  let w := if type.guid then w.updateGuid i e else w
  if type.attributes then
    if data1 (guidAt w.buffer w.ptr) = 0 ∨ guidAt w.buffer w.ptr = e.partitionTypeGUID then
      { w.updateAttributes i e with ptr := w.ptr + PARTITION_ENTRY_SIZE }
    else w
  else { w with ptr := w.ptr + PARTITION_ENTRY_SIZE }

end Walk

/-- The loop over `PtnEntries`: what has no type is a LUN itself, and on UFS the entries of a LUN
    end where those of a higher one begin. -/
def walkEntries (device : MemCardType) (type : UpdateType) (lun : Nat) :
    List PartitionEntry → Nat → Walk → Walk
  | [], _, w => w
  | e :: rest, i, w =>
    if data1 e.partitionTypeGUID = 0 then walkEntries device type lun rest (i + 1) w
    else if device = .UFS ∧ e.lun > lun then w
    else if device = .UFS ∧ e.lun ≠ lun then walkEntries device type lun rest (i + 1) w
    else walkEntries device type lun rest (i + 1) (w.updateEntry type i e)

/-! ### UpdatePartitionAttributes -/

/-- The devices and the firmware services; a device is that of a LUN, or the only one. -/
structure AttributesEnv where
  rootDeviceType : MemCardType
  maxLuns : Nat
  /-- `GetStorageHandle` with room for a number of handles: the status and the number found. -/
  getStorageHandle : Option Nat → Nat → EfiStatus × Nat
  blockIo : Option Nat → BlockIo
  allocateZeroPool : Option Nat → Bool
  calculateCrc32 : List UInt8 → EfiStatus × UInt32

namespace AttributesEnv

variable (env : AttributesEnv) (lun : Nat)

def dev : Option Nat := if env.rootDeviceType = .EMMC then none else some lun

def io : BlockIo := env.blockIo (env.dev lun)

end AttributesEnv

structure AttributesState where
  ptnEntries : List PartitionEntry
  ptnEntriesBak : List PartitionEntry
  disks : Option Nat → Disk

def AttributesState.diskLens (dev : Option Nat) : Lens AttributesState Disk where
  get := fun s => s.disks dev
  set := fun s d => { s with disks := Function.update s.disks dev d }
  get_set := fun _ _ => Function.update_self ..
  set_get := fun s => by rw [Function.update_eq_self]
  set_set := fun _ _ _ => by rw [Function.update_idem]

abbrev AttributesProg := Prog AttributesState (Jump Exit PUnit)

def exitIf (c : Prop) [Decidable c] : AttributesProg PUnit := if c then goto ⟨⟩ else pure ⟨⟩

def partEntriesblocks (blkSz : Nat) : Nat := MAX_PARTITION_ENTRIES_SZ / blkSz

def maxGptPartEntrySzBytes (blkSz : Nat) : Nat :=
  u32 ((GPT_HDR_BLOCKS + partEntriesblocks blkSz) * blkSz)

variable (env : AttributesEnv)

/-- The blocks of a table with the new sums: first that of the entries, then that of the header,
    which is summed over the minimal size. -/
def updateSums (g : Bytes) (hdr entries : Nat) : AttributesProg Bytes := do
  let size := g.u32At (hdr + PARTITION_COUNT_OFFSET) * g.u32At (hdr + PENTRY_SIZE_OFFSET)
  exitIf (size > MAX_PARTITION_ENTRIES_SZ)
  let crc := env.calculateCrc32 (g.slice entries size)
  exitIf (crc.1 ≠ EFI_SUCCESS)
  let g := (g.put (hdr + PARTITION_CRC_OFFSET) 4 crc.2.toNat).put (hdr + HEADER_CRC_OFFSET) 4 0
  let crc := env.calculateCrc32 (g.slice hdr GPT_HEADER_SIZE)
  exitIf (crc.1 ≠ EFI_SUCCESS)
  return g.put (hdr + HEADER_CRC_OFFSET) 4 crc.2.toNat

/-- The loop body for one of the two tables of a device: the blocks from `offset` on hold a header
    at `hdr` and entries at `entries`. -/
def updateTable (type : UpdateType) (lun : Nat) (dev : Option Nat) (offset hdr entries : Nat) :
    AttributesProg PUnit := do
  let io := env.blockIo dev
  let size := maxGptPartEntrySzBytes io.blockSize
  let read ← call (zoom (AttributesState.diskLens dev) (io.readBlocks offset size))
  exitIf (EFI_ERROR read.1 = true)
  let s ← get
  let w := walkEntries env.rootDeviceType type lun s.ptnEntries 0
    ⟨read.2, entries, true, s.ptnEntriesBak⟩
  modify fun s => { s with ptnEntriesBak := w.bak }
  if w.skipUpdation then return ⟨⟩
  else
    let g ← updateSums env w.buffer hdr entries
    let status ← call (zoom (AttributesState.diskLens dev) (io.writeBlocks offset size g))
    exitIf (EFI_ERROR status = true)

/-- The block of the backup entries: a header and its entries before the end of the device. -/
def backupLba (io : BlockIo) : Nat :=
  u32 (u64Sub (io.getPartitionSize / io.blockSize)
    (maxGptPartEntrySzBytes io.blockSize / io.blockSize))

/-- The loop body for a LUN, with the room for handles that the last lookup left; the number of
    handles that were found. -/
def updateLun (type : UpdateType) (lun maxHandles : Nat) : AttributesProg Nat := do
  exitIf (env.rootDeviceType ≠ .EMMC ∧ env.rootDeviceType ≠ .UFS)
  let dev := env.dev lun
  let found := env.getStorageHandle dev maxHandles
  exitIf (found.1 ≠ EFI_SUCCESS)
  if found.2 ≠ 1 then return found.2
  else
    let io := env.io lun
    exitIf (io.getPartitionSize = 0)
    exitIf (env.allocateZeroPool dev = false)
    -- the primary table, with the header in front of the entries
    updateTable env type lun dev PRIMARY_HDR_LBA 0 io.blockSize
    -- the backup table, with the header behind the entries
    updateTable env type lun dev (backupLba io) (partEntriesblocks io.blockSize * io.blockSize) 0
    let status ← call (zoom (AttributesState.diskLens dev) io.flushBlocks)
    exitIf (EFI_ERROR status = true)
    return found.2

def updateLuns (env : AttributesEnv) (type : UpdateType) : Nat → Nat → Nat → AttributesProg PUnit
  | 0, _, _ => pure ⟨⟩
  | n + 1, lun, maxHandles => do
    let maxHandles ← updateLun env type lun maxHandles
    updateLuns env type n (lun + 1) maxHandles

def updatePartitionAttributes (type : UpdateType) : Prog AttributesState Exit PUnit := do
  let s ← get
  if s.ptnEntries = s.ptnEntriesBak then return ⟨⟩
  else block (updateLuns env type env.maxLuns 0 MAX_HANDLEINF_LST_SIZE)

/-! ### What the walk does to a table -/

def patchEntry (type : UpdateType) (e : PartitionEntry) (g : Bytes) (a : Nat) : Bytes :=
  let g := if type.guid then g.put a GUID_SIZE e.partitionTypeGUID.toNat else g
  if type.attributes then g.put (a + ATTRIBUTE_FLAG_OFFSET) 8 e.attributes.toNat else g

def patchEntries (type : UpdateType) : List PartitionEntry → Bytes → Nat → Bytes
  | [], g, _ => g
  | e :: es, g, a => patchEntries type es (patchEntry type e g a) (a + PARTITION_ENTRY_SIZE)

def lunEntries (device : MemCardType) (lun : Nat) (es : List PartitionEntry) :
    List PartitionEntry :=
  es.filter fun e => decide (data1 e.partitionTypeGUID ≠ 0) && decide (device = .UFS → e.lun = lun)

def InStep (type : UpdateType) (g : Bytes) : List PartitionEntry → Nat → Prop
  | [], _ => True
  | e :: es, a => (type.guid = false → guidAt g a = e.partitionTypeGUID) ∧
      InStep type g es (a + PARTITION_ENTRY_SIZE)

section Walk

variable {device : MemCardType} {type : UpdateType} {lun a i : Nat} {g : Bytes} {e : PartitionEntry}
  {es : List PartitionEntry} {w : Walk}

theorem guidAt_put (v : BitVec 128) : guidAt (g.put a GUID_SIZE v.toNat) a = v := by
  have hhigh : v.toNat / 2 ^ (8 * 8) < 2 ^ 64 := by omega
  have hlow : v.toNat % 2 ^ 64 < 2 ^ 64 := Nat.mod_lt _ (by decide)
  apply BitVec.eq_of_toNat_eq
  rw [guidAt, BitVec.toNat_ofNat, GUID_SIZE, show (16 : Nat) = 8 + 8 from rfl, put_add,
    u64At_put hhigh, put, u64At_overwrite_outside (.inr (Nat.le_refl _)),
    ← put_mod (k := 64) (by decide), u64At_put hlow]
  omega

theorem put_guidAt (g : Bytes) (a : Nat) : g.put a GUID_SIZE (guidAt g a).toNat = g := by
  have hlow : g.u64At a < 2 ^ 64 := u64At_lt
  have hhigh : g.u64At (a + 8) < 2 ^ 64 := u64At_lt
  have hguid : (guidAt g a).toNat = g.u64At a + 2 ^ 64 * g.u64At (a + 8) := by
    rw [guidAt, BitVec.toNat_ofNat]
    omega
  have hdiv : (g.u64At a + 2 ^ 64 * g.u64At (a + 8)) / 2 ^ (8 * 8) = g.u64At (a + 8) := by omega
  have hmod : (g.u64At a + 2 ^ 64 * g.u64At (a + 8)) % 2 ^ 64 = g.u64At a := by omega
  have hfirst : g.put a 8 (g.u64At a + 2 ^ 64 * g.u64At (a + 8)) = g := by
    rw [← put_mod (k := 64) (by decide), hmod, put_u64At]
  rw [hguid, GUID_SIZE, show (16 : Nat) = 8 + 8 from rfl, put_add, hfirst, hdiv,
    put_u64At]

theorem updateGuid_buffer (i : Nat) (e : PartitionEntry) (w : Walk) :
    (w.updateGuid i e).buffer = w.buffer.put w.ptr GUID_SIZE e.partitionTypeGUID.toNat ∧
      (w.updateGuid i e).ptr = w.ptr ∧
      ((w.updateGuid i e).skipUpdation = true → (w.updateGuid i e) = w) := by
  unfold Walk.updateGuid
  split
  case isTrue => exact ⟨rfl, rfl, nofun⟩
  case isFalse hsame =>
    rw [not_not] at hsame
    refine ⟨?_, rfl, fun _ => rfl⟩
    rw [← hsame, put_guidAt]

theorem updateAttributes_buffer (i : Nat) (e : PartitionEntry) (w : Walk) :
    (w.updateAttributes i e).buffer =
        w.buffer.put (w.ptr + ATTRIBUTE_FLAG_OFFSET) 8 e.attributes.toNat ∧
      ((w.updateAttributes i e).skipUpdation = true → (w.updateAttributes i e) = w) := by
  unfold Walk.updateAttributes
  split
  case isTrue => exact ⟨rfl, nofun⟩
  case isFalse hsame =>
    rw [not_not] at hsame
    refine ⟨?_, fun _ => rfl⟩
    rw [← hsame, put_u64At]

theorem updateEntry_eq (hstep : type.guid = false → guidAt w.buffer w.ptr = e.partitionTypeGUID) :
    (w.updateEntry type i e).buffer = patchEntry type e w.buffer w.ptr ∧
      (w.updateEntry type i e).ptr = w.ptr + PARTITION_ENTRY_SIZE ∧
      ((w.updateEntry type i e).skipUpdation = true →
        w.skipUpdation = true ∧ patchEntry type e w.buffer w.ptr = w.buffer) := by
  obtain ⟨hguid, hptr, hskip⟩ := updateGuid_buffer i e w
  obtain ⟨hattr, hskip'⟩ := updateAttributes_buffer i e (w.updateGuid i e)
  obtain ⟨hattr₀, hskip₀⟩ := updateAttributes_buffer i e w
  cases type with
  | PARTITION_GUID =>
    refine ⟨hguid, congrArg (· + _) hptr, fun h => ?_⟩
    have hw := hskip h
    refine ⟨?_, ?_⟩
    · rw [← hw]
      exact h
    · exact hguid.symm.trans (congrArg Walk.buffer hw)
  | PARTITION_ATTRIBUTES =>
    have hsame := hstep rfl
    simp only [Walk.updateEntry, UpdateType.guid, UpdateType.attributes, Bool.false_eq_true,
      if_false, if_true, hsame, or_true]
    refine ⟨hattr₀, trivial, fun h => ?_⟩
    have hw := hskip₀ h
    refine ⟨?_, ?_⟩
    · rw [← hw]
      exact h
    · exact hattr₀.symm.trans (congrArg Walk.buffer hw)
  | PARTITION_ALL =>
    have hsame : guidAt (w.updateGuid i e).buffer (w.updateGuid i e).ptr = e.partitionTypeGUID := by
      rw [hguid, hptr, guidAt_put]
    rw [hguid, hptr] at hattr
    simp only [Walk.updateEntry, UpdateType.guid, UpdateType.attributes, if_true, hsame, or_true,
      patchEntry]
    refine ⟨hattr, congrArg (· + _) hptr, fun h => ?_⟩
    have hw' := hskip' h
    have hw := hskip (by rw [← hw']; exact h)
    refine ⟨?_, ?_⟩
    · rw [← hw, ← hw']
      exact h
    · rw [← hattr, hw', hw]

theorem patchEntry_apart {x : Nat} (hguid : type.guid = true → x < a ∨ a + GUID_SIZE ≤ x)
    (hattr : type.attributes = true →
      x < a + ATTRIBUTE_FLAG_OFFSET ∨ a + ATTRIBUTE_FLAG_OFFSET + 8 ≤ x) :
    patchEntry type e g a x = g x := by
  cases type with
  | PARTITION_ATTRIBUTES => exact overwrite_outside (hattr rfl)
  | PARTITION_GUID => exact overwrite_outside (hguid rfl)
  | PARTITION_ALL => exact (overwrite_outside (hattr rfl)).trans (overwrite_outside (hguid rfl))

theorem patchEntry_outside {x : Nat} (h : x < a ∨ a + PARTITION_ENTRY_SIZE ≤ x) :
    patchEntry type e g a x = g x := by
  simp only [PARTITION_ENTRY_SIZE] at h
  exact patchEntry_apart (fun _ => by unfold GUID_SIZE; omega)
    fun _ => by unfold ATTRIBUTE_FLAG_OFFSET; omega

variable {g' : Bytes}

theorem guidAt_congr (h : ∀ i < 16, g (a + i) = g' (a + i)) : guidAt g a = guidAt g' a := by
  have hlow : g.u64At a = g'.u64At a := u64At_congr fun i hi => h i (by omega)
  have hhigh : g.u64At (a + 8) = g'.u64At (a + 8) := by
    refine u64At_congr fun i hi => ?_
    rw [Nat.add_assoc]
    exact h (8 + i) (by omega)
  rw [guidAt, guidAt, hlow, hhigh]

theorem InStep.congr : ∀ {es : List PartitionEntry} {a : Nat}, InStep type g es a →
    (∀ x, a ≤ x → x < a + es.length * PARTITION_ENTRY_SIZE → g' x = g x) → InStep type g' es a
  | [], _, _, _ => trivial
  | e :: es, a, ⟨hguid, hrest⟩, h => by
    simp only [List.length_cons, Nat.add_mul, PARTITION_ENTRY_SIZE] at h
    refine ⟨fun htype => ?_, hrest.congr fun x hx hx' => ?_⟩
    · exact (guidAt_congr fun i _ => h (a + i) (by omega) (by omega)).trans (hguid htype)
    · simp only [PARTITION_ENTRY_SIZE] at hx hx'
      exact h x (by omega) (by omega)

theorem lunEntries_cons (hdata : data1 e.partitionTypeGUID ≠ 0)
    (hlun : device = .UFS → e.lun = lun) :
    lunEntries device lun (e :: es) = e :: lunEntries device lun es := by
  refine List.filter_cons_of_pos ?_
  rw [decide_eq_true hdata, decide_eq_true hlun]
  rfl

theorem lunEntries_cons_of_not
    (h : ¬ (data1 e.partitionTypeGUID ≠ 0 ∧ (device = .UFS → e.lun = lun))) :
    lunEntries device lun (e :: es) = lunEntries device lun es := by
  refine List.filter_cons_of_neg ?_
  rwa [Bool.and_eq_true, decide_eq_true_eq, decide_eq_true_eq]

theorem lunEntries_eq_nil (hdevice : device = .UFS) (h : ∀ e ∈ es, lun < e.lun) :
    lunEntries device lun es = [] := by
  refine List.filter_eq_nil_iff.mpr fun e he => ?_
  have hlun := h e he
  rw [Bool.and_eq_true, decide_eq_true_eq, decide_eq_true_eq]
  rintro ⟨-, hlun'⟩
  have := hlun' hdevice
  omega

/-- The walk patches the entries of the LUN in order. -/
theorem walkEntries_eq : ∀ {es : List PartitionEntry} {i : Nat} {w : Walk},
    (device = .UFS → es.Pairwise fun e e' => e.lun ≤ e'.lun) →
    InStep type w.buffer (lunEntries device lun es) w.ptr →
    (walkEntries device type lun es i w).buffer =
        patchEntries type (lunEntries device lun es) w.buffer w.ptr ∧
      ((walkEntries device type lun es i w).skipUpdation = true → w.skipUpdation = true ∧
        patchEntries type (lunEntries device lun es) w.buffer w.ptr = w.buffer) := by
  intro es
  induction es with
  | nil => exact fun _ _ => ⟨rfl, fun h => ⟨h, rfl⟩⟩
  | cons e es ih =>
    intro i w hsorted hstep
    have hsorted' : device = .UFS → es.Pairwise fun e e' => e.lun ≤ e'.lun :=
      fun h => (List.pairwise_cons.mp (hsorted h)).2
    unfold walkEntries
    split_ifs with hdata hbreak hother
    · rw [lunEntries_cons_of_not fun h => h.1 hdata] at hstep ⊢
      exact ih hsorted' hstep
    · -- the entries are in the order of their LUNs, so that nothing is missed
      rw [lunEntries_eq_nil hbreak.1]
      · exact ⟨rfl, fun h => ⟨h, rfl⟩⟩
      · intro e' he'
        rcases List.mem_cons.mp he' with rfl | he'
        · exact hbreak.2
        · exact Nat.lt_of_lt_of_le hbreak.2 ((List.pairwise_cons.mp (hsorted hbreak.1)).1 e' he')
    · rw [lunEntries_cons_of_not fun h => hother.2 (h.2 hother.1)] at hstep ⊢
      exact ih hsorted' hstep
    · rw [lunEntries_cons hdata fun h => by_contra fun hne => hother ⟨h, hne⟩] at hstep ⊢
      obtain ⟨hguid, hrest⟩ := hstep
      obtain ⟨hbuffer, hptr, hskip⟩ := updateEntry_eq (i := i) hguid
      have hnext : InStep type (w.updateEntry type i e).buffer (lunEntries device lun es)
          (w.updateEntry type i e).ptr := by
        rw [hbuffer, hptr]
        exact hrest.congr fun x hx _ => patchEntry_outside (.inr hx)
      obtain ⟨hpatched, hunchanged⟩ := ih (i := i + 1) hsorted' hnext
      rw [hbuffer, hptr] at hpatched hunchanged
      refine ⟨hpatched, fun h => ?_⟩
      obtain ⟨hskip', hsame'⟩ := hunchanged h
      obtain ⟨hskipped, hsame⟩ := hskip hskip'
      exact ⟨hskipped, hsame'.trans hsame⟩

end Walk

/-! ### What is asked of a table -/

def entryAddr (c : Bytes) (blkSz lba i : Nat) : Nat :=
  (headerAt c blkSz lba).u64At PARTITION_ENTRIES_OFFSET * blkSz +
    i * (headerAt c blkSz lba).u32At PENTRY_SIZE_OFFSET

def usedEntries (c : Bytes) (blkSz lba : Nat) : List Nat :=
  (List.range ((headerAt c blkSz lba).u32At PARTITION_COUNT_OFFSET)).filter fun i =>
    decide (guidAt c (entryAddr c blkSz lba i) ≠ 0)

def HasFields (type : UpdateType) (e : PartitionEntry) (g : Bytes) (a : Nat) : Prop :=
  (type.guid = true → guidAt g a = e.partitionTypeGUID) ∧
    (type.attributes = true → g.u64At (a + ATTRIBUTE_FLAG_OFFSET) = e.attributes.toNat)

def InField (type : UpdateType) (a x : Nat) : Prop :=
  (type.guid = true ∧ a ≤ x ∧ x < a + GUID_SIZE) ∨
    (type.attributes = true ∧ a + ATTRIBUTE_FLAG_OFFSET ≤ x ∧ x < a + ATTRIBUTE_FLAG_OFFSET + 8)

/-- The entries in memory, which are those in use in the order of the table, are on the device,
    and the other bytes of the entries are what they were. -/
structure EntriesUpdated (type : UpdateType) (es : List PartitionEntry) (c c' : Bytes)
    (blkSz lba : Nat) : Prop where
  fields : ∀ p ∈ (usedEntries c blkSz lba).zip es, HasFields type p.2 c' (entryAddr c blkSz lba p.1)
  others : ∀ x, entryAddr c blkSz lba 0 ≤ x →
    x < entryAddr c blkSz lba ((headerAt c blkSz lba).u32At PARTITION_COUNT_OFFSET) →
    (∀ p ∈ (usedEntries c blkSz lba).zip es, ¬ InField type (entryAddr c blkSz lba p.1) x) →
    c' x = c x

structure WrittenBack (crc32 : List UInt8 → Nat) (type : UpdateType) (es : List PartitionEntry)
    (c c' : Bytes) (blkSz blocks : Nat) : Prop where
  primary : EntriesUpdated type es c c' blkSz 1
  backup : EntriesUpdated type es c c' blkSz (blocks - 1)
  valid : ValidGpt crc32 c' blkSz blocks

/-- The sizes the code takes a copy to have: a header of the minimal size, and at most 128 entries
    of 128 bytes from block `first` on. -/
structure TableShape (c : Bytes) (blkSz lba first : Nat) : Prop where
  headerSize : (headerAt c blkSz lba).u32At HEADER_SIZE_OFFSET = GPT_HEADER_SIZE
  entrySize : (headerAt c blkSz lba).u32At PENTRY_SIZE_OFFSET = PARTITION_ENTRY_SIZE
  count_le : (headerAt c blkSz lba).u32At PARTITION_COUNT_OFFSET ≤ 128
  first_eq : (headerAt c blkSz lba).u64At PARTITION_ENTRIES_OFFSET = first

/-- No unused entry comes before one in use. -/
structure TablePacked (es : List PartitionEntry) (c : Bytes) (blkSz lba first : Nat) : Prop
    extends TableShape c blkSz lba first where
  used : usedEntries c blkSz lba = List.range es.length

/-- The layout the code takes a copy to have: also, the types agree if they are not updated. -/
structure TableLayout (type : UpdateType) (es : List PartitionEntry) (c : Bytes)
    (blkSz lba first : Nat) : Prop extends TablePacked es c blkSz lba first where
  inStep : InStep type c es (first * blkSz)

/-! ### A table with its new entries and sums -/

/-- The sums of the table with its header at `hdr` and `size` bytes of entries at `entries`. -/
def withSums (crc32 : List UInt8 → UInt32) (f : Bytes) (hdr entries size : Nat) : Bytes :=
  let f := (f.put (hdr + PARTITION_CRC_OFFSET) 4 (crc32 (f.slice entries size)).toNat).put
    (hdr + HEADER_CRC_OFFSET) 4 0
  f.put (hdr + HEADER_CRC_OFFSET) 4 (crc32 (f.slice hdr GPT_HEADER_SIZE)).toNat

/-- The copy with its header at block `lba` and its entries at block `first`, updated. -/
def newTable (crc32 : List UInt8 → UInt32) (type : UpdateType)
    (es : List PartitionEntry) (c : Bytes)
    (blkSz lba first : Nat) : Bytes :=
  withSums crc32 (patchEntries type es c (first * blkSz)) (lba * blkSz) (first * blkSz)
    ((headerAt c blkSz lba).u32At PARTITION_COUNT_OFFSET *
      (headerAt c blkSz lba).u32At PENTRY_SIZE_OFFSET)

section Patch

variable {type : UpdateType} {e : PartitionEntry} {g : Bytes} {a x : Nat}

theorem patchEntries_outside : ∀ {es : List PartitionEntry} {g : Bytes} {a : Nat},
    x < a ∨ a + es.length * PARTITION_ENTRY_SIZE ≤ x → patchEntries type es g a x = g x
  | [], _, _, _ => rfl
  | e :: es, g, a, h => by
    simp only [List.length_cons, Nat.add_mul, Nat.one_mul] at h
    rw [patchEntries, patchEntries_outside (by omega), patchEntry_outside (by omega)]

theorem patchEntry_fields : HasFields type e (patchEntry type e g a) a := by
  have hattr {f : Bytes} : (f.put (a + ATTRIBUTE_FLAG_OFFSET) 8 e.attributes.toNat).u64At
      (a + ATTRIBUTE_FLAG_OFFSET) = e.attributes.toNat := u64At_put e.attributes.isLt
  have hguid : guidAt (g.put a GUID_SIZE e.partitionTypeGUID.toNat) a = e.partitionTypeGUID :=
    guidAt_put _
  cases type with
  | PARTITION_ATTRIBUTES => exact ⟨nofun, fun _ => hattr⟩
  | PARTITION_GUID => exact ⟨fun _ => hguid, nofun⟩
  | PARTITION_ALL =>
    refine ⟨fun _ => ?_, fun _ => hattr⟩
    refine Eq.trans (guidAt_congr fun i hi => ?_) hguid
    exact overwrite_outside (.inl (by simp only [ATTRIBUTE_FLAG_OFFSET]; omega))

theorem patchEntry_other (h : ¬ InField type a x) : patchEntry type e g a x = g x := by
  obtain ⟨hguid, hattr⟩ := not_or.mp h
  refine patchEntry_apart (fun ht => ?_) fun ht => ?_
  · have := not_and.mp hguid ht
    omega
  · have := not_and.mp hattr ht
    omega

theorem HasFields.congr {g' : Bytes} (h : HasFields type e g a)
    (hsame : ∀ i < PARTITION_ENTRY_SIZE, g' (a + i) = g (a + i)) : HasFields type e g' a := by
  simp only [PARTITION_ENTRY_SIZE] at hsame
  refine ⟨fun ht => ?_, fun ht => ?_⟩
  · exact (guidAt_congr fun i hi => hsame i (by omega)).trans (h.1 ht)
  · refine Eq.trans (u64At_congr fun i hi => ?_) (h.2 ht)
    rw [Nat.add_assoc]
    exact hsame (ATTRIBUTE_FLAG_OFFSET + i) (by simp only [ATTRIBUTE_FLAG_OFFSET]; omega)

theorem patchEntries_fields : ∀ {es : List PartitionEntry} {g : Bytes} {a i : Nat},
    es[i]? = some e → HasFields type e (patchEntries type es g a) (a + i * PARTITION_ENTRY_SIZE)
  | [], _, _, _, h => nomatch h
  | e' :: es, g, a, 0, h => by
    obtain rfl : e' = e := Option.some.inj h
    rw [Nat.zero_mul, Nat.add_zero]
    refine (patchEntry_fields (g := g)).congr fun i hi => ?_
    rw [patchEntries, patchEntries_outside (.inl (by omega))]
  | e' :: es, g, a, i + 1, h => by
    have hrest : HasFields type e (patchEntries type es (patchEntry type e' g a)
        (a + PARTITION_ENTRY_SIZE)) (a + PARTITION_ENTRY_SIZE + i * PARTITION_ENTRY_SIZE) :=
      patchEntries_fields h
    rwa [Nat.add_assoc, Nat.add_comm PARTITION_ENTRY_SIZE, ← Nat.succ_mul] at hrest

theorem patchEntries_other : ∀ {es : List PartitionEntry} {g : Bytes} {a : Nat},
    (∀ i < es.length, ¬ InField type (a + i * PARTITION_ENTRY_SIZE) x) →
    patchEntries type es g a x = g x
  | [], _, _, _ => rfl
  | e :: es, g, a, h => by
    have hfirst := h 0 (Nat.zero_lt_succ _)
    rw [Nat.zero_mul, Nat.add_zero] at hfirst
    rw [patchEntries, patchEntries_other, patchEntry_other hfirst]
    intro i hi
    have hnext := h (i + 1) (Nat.succ_lt_succ hi)
    rwa [Nat.succ_mul, Nat.add_comm (i * _), ← Nat.add_assoc] at hnext

variable {b : Nat}

theorem patchEntries_shift : ∀ {es : List PartitionEntry} {g : Bytes} {a : Nat},
    patchEntries type es (g.shift b) a = (patchEntries type es g (b + a)).shift b
  | [], _, _ => rfl
  | e :: es, g, a => by
    have hentry : patchEntry type e (g.shift b) a = (patchEntry type e g (b + a)).shift b := by
      unfold patchEntry
      cases type
      all_goals simp only [UpdateType.guid, UpdateType.attributes, Bool.false_eq_true, if_false,
        if_true, put_shift, Nat.add_assoc]
    rw [patchEntries, hentry, patchEntries_shift, patchEntries, Nat.add_assoc]

theorem InStep.shift : ∀ {es : List PartitionEntry} {a : Nat},
    InStep type g es (b + a) → InStep type (g.shift b) es a
  | [], _, _ => trivial
  | e :: es, a, ⟨hguid, hrest⟩ => by
    refine ⟨fun htype => ?_, InStep.shift ?_⟩
    · rw [← hguid htype, guidAt, guidAt, u64At_shift, u64At_shift, Nat.add_assoc]
    · rwa [← Nat.add_assoc]

end Patch

section Sums

variable {crc32 : List UInt8 → UInt32} {f : Bytes} {hdr entries size x : Nat}

theorem withSums_outside (hcrc : x < hdr + 16 ∨ hdr + 20 ≤ x) (hsum : x < hdr + 88 ∨ hdr + 92 ≤ x) :
    withSums crc32 f hdr entries size x = f x := by
  simp only [withSums, put_put]
  rw [put, overwrite_outside hcrc, put, overwrite_outside hsum]

theorem withSums_entries (h : hdr + GPT_HEADER_SIZE ≤ entries ∨ entries + size ≤ hdr) :
    (withSums crc32 f hdr entries size).u32At (hdr + PARTITION_CRC_OFFSET) =
      (crc32 ((withSums crc32 f hdr entries size).slice entries size)).toNat := by
  have hslice : (withSums crc32 f hdr entries size).slice entries size = f.slice entries size := by
    simp only [GPT_HEADER_SIZE] at h
    exact slice_congr fun k hk => withSums_outside (by omega) (by omega)
  rw [hslice]
  refine Eq.trans (u32At_congr fun i hi => ?_) (u32At_put (f := f)
    (a := hdr + PARTITION_CRC_OFFSET) (UInt32.toNat_lt (crc32 (f.slice entries size))))
  simp only [withSums, put_put, PARTITION_CRC_OFFSET, HEADER_CRC_OFFSET]
  rw [put, overwrite_outside (by omega)]

theorem withSums_header :
    (withSums crc32 f hdr entries size).u32At (hdr + HEADER_CRC_OFFSET) =
      (crc32 (((withSums crc32 f hdr entries size).put (hdr + HEADER_CRC_OFFSET) 4 0).slice hdr
        GPT_HEADER_SIZE)).toNat := by
  unfold withSums
  rw [put_put, put_put, u32At_put (UInt32.toNat_lt _)]

theorem withSums_eq_self
    (hentries : f.u32At (hdr + PARTITION_CRC_OFFSET) = (crc32 (f.slice entries size)).toNat)
    (hheader : f.u32At (hdr + HEADER_CRC_OFFSET) =
      (crc32 ((f.put (hdr + HEADER_CRC_OFFSET) 4 0).slice hdr GPT_HEADER_SIZE)).toNat) :
    withSums crc32 f hdr entries size = f := by
  unfold withSums
  rw [← hentries, put_u32At, put_put, ← hheader, put_u32At]

theorem withSums_shift {b : Nat} :
    withSums crc32 (f.shift b) hdr entries size =
      (withSums crc32 f (b + hdr) (b + entries) size).shift b := by
  simp [withSums, put_shift, Nat.add_assoc]

end Sums

section Table

variable {crc32 : List UInt8 → UInt32} {type : UpdateType} {es : List PartitionEntry} {c : Bytes}
  {blkSz lba first other x : Nat}

theorem TableLayout.length_le (h : TableLayout type es c blkSz lba first) :
    es.length ≤ (headerAt c blkSz lba).u32At PARTITION_COUNT_OFFSET := by
  have hlen := congrArg List.length h.used
  rw [List.length_range] at hlen
  rw [← hlen]
  exact Nat.le_trans (List.length_filter_le _ _) (Nat.le_of_eq List.length_range)

theorem TableShape.entryAddr_eq (h : TableShape c blkSz lba first) (i : Nat) :
    entryAddr c blkSz lba i = first * blkSz + i * PARTITION_ENTRY_SIZE := by
  rw [entryAddr, h.first_eq, h.entrySize]

def Apart (blkSz lba first : Nat) : Prop :=
  lba * blkSz + GPT_HEADER_SIZE ≤ first * blkSz ∨
    first * blkSz + MAX_PARTITION_ENTRIES_SZ ≤ lba * blkSz

theorem newTable_outside (h : TableLayout type es c blkSz lba first)
    (hcrc : x < lba * blkSz + 16 ∨ lba * blkSz + 20 ≤ x)
    (hsum : x < lba * blkSz + 88 ∨ lba * blkSz + 92 ≤ x)
    (hentries : x < first * blkSz ∨ first * blkSz + MAX_PARTITION_ENTRIES_SZ ≤ x) :
    newTable crc32 type es c blkSz lba first x = c x := by
  have hlen := h.length_le
  have hcount := h.count_le
  simp only [MAX_PARTITION_ENTRIES_SZ] at hentries
  have hbytes := Nat.mul_le_mul_right PARTITION_ENTRY_SIZE (Nat.le_trans hlen hcount)
  rw [newTable, withSums_outside hcrc hsum, patchEntries_outside (by omega)]

variable (crc32)

variable {o : Nat}

section

variable (h : TableLayout type es c blkSz lba first)
include h

theorem newTable_u64At (hapart : Apart blkSz lba first) (hlow : 20 ≤ o) (hhigh : o + 8 ≤ 88) :
    (headerAt (newTable crc32 type es c blkSz lba first) blkSz lba).u64At o =
      (headerAt c blkSz lba).u64At o := by
  unfold Apart at hapart
  simp only [GPT_HEADER_SIZE] at hapart
  refine u64At_congr fun i hi => ?_
  exact newTable_outside h (by omega) (by omega) (by omega)

theorem newTable_u32At (hapart : Apart blkSz lba first)
    (hfield : o + 4 ≤ 16 ∨ 20 ≤ o ∧ o + 4 ≤ 88) :
    (headerAt (newTable crc32 type es c blkSz lba first) blkSz lba).u32At o =
      (headerAt c blkSz lba).u32At o := by
  unfold Apart at hapart
  simp only [GPT_HEADER_SIZE] at hapart
  refine u32At_congr fun i hi => ?_
  exact newTable_outside h (by omega) (by omega) (by omega)

theorem patchEntries_header (hapart : Apart blkSz lba first) (ho : o + 4 ≤ GPT_HEADER_SIZE) :
    (headerAt (patchEntries type es c (first * blkSz)) blkSz lba).u32At o =
      (headerAt c blkSz lba).u32At o := by
  have hbytes := Nat.mul_le_mul_right PARTITION_ENTRY_SIZE (Nat.le_trans h.length_le h.count_le)
  unfold Apart at hapart
  rw [show MAX_PARTITION_ENTRIES_SZ = 128 * PARTITION_ENTRY_SIZE from rfl] at hapart
  exact u32At_congr fun i hi => patchEntries_outside (by omega)

theorem newTable_eq_self {crc32 : List UInt8 → UInt32}
    (hcopy : GptCopy (fun l => (crc32 l).toNat) c blkSz lba other)
    (hsame : patchEntries type es c (first * blkSz) = c) :
    newTable crc32 type es c blkSz lba first = c := by
  have hentries := hcopy.entriesCrc
  have hheader := hcopy.headerCrc
  rw [h.first_eq] at hentries
  rw [h.headerSize, headerAt, put_shift, u32At_shift, slice_shift,
    Nat.add_zero] at hheader
  rw [newTable, hsame]
  refine withSums_eq_self ?_ hheader
  rw [← hentries, headerAt, u32At_shift]

theorem newTable_shape (hapart : Apart blkSz lba first) :
    TableShape (newTable crc32 type es c blkSz lba first) blkSz lba first where
  headerSize := (newTable_u32At _ h hapart (by decide)).trans h.headerSize
  entrySize := (newTable_u32At _ h hapart (by decide)).trans h.entrySize
  count_le := by
    rw [newTable_u32At _ h hapart (by decide)]
    exact h.count_le
  first_eq := (newTable_u64At _ h hapart (by decide) (by decide)).trans h.first_eq

theorem newTable_copy (hapart : Apart blkSz lba first)
    (hcopy : GptCopy (fun l => (crc32 l).toNat) c blkSz lba other) :
    GptCopy (fun l => (crc32 l).toNat) (newTable crc32 type es c blkSz lba first) blkSz
      lba other := by
  obtain ⟨hheader, hsize, -, hfirst⟩ := newTable_shape crc32 h hapart
  constructor
  case headerCrc =>
    rw [hheader, headerAt, put_shift, u32At_shift, slice_shift, Nat.add_zero]
    exact withSums_header
  case myLba => exact (newTable_u64At _ h hapart (by decide) (by decide)).trans hcopy.myLba
  case alternateLba =>
    exact (newTable_u64At _ h hapart (by decide) (by decide)).trans hcopy.alternateLba
  case entriesCrc =>
    have hcount := newTable_u32At crc32 h hapart (o := PARTITION_COUNT_OFFSET) (by decide)
    rw [hfirst, hsize, hcount, headerAt, u32At_shift, newTable, h.entrySize]
    refine withSums_entries (hapart.imp_right fun hle => ?_)
    exact Nat.le_trans (Nat.add_le_add_left (Nat.mul_le_mul_right _ h.count_le) _) hle

theorem newTable_updated (hapart : Apart blkSz lba first) :
    EntriesUpdated type es c (newTable crc32 type es c blkSz lba first) blkSz lba := by
  have hsize := Nat.mul_le_mul_right PARTITION_ENTRY_SIZE h.count_le
  unfold Apart at hapart
  rw [show MAX_PARTITION_ENTRIES_SZ = 128 * PARTITION_ENTRY_SIZE from rfl,
    GPT_HEADER_SIZE] at hapart
  constructor
  · rintro ⟨k, e⟩ hp
    rw [h.used] at hp
    obtain ⟨i, hi⟩ := List.mem_iff_getElem?.mp hp
    obtain ⟨hk, he⟩ := List.getElem?_zip_eq_some.mp hi
    obtain ⟨hlt, rfl⟩ := List.getElem?_eq_some_iff.mp hk
    rw [List.length_range] at hlt
    rw [List.getElem_range, h.entryAddr_eq]
    refine (patchEntries_fields (g := c) (a := first * blkSz) he).congr fun j hj => ?_
    have hnext := Nat.mul_le_mul_right PARTITION_ENTRY_SIZE (Nat.lt_of_lt_of_le hlt h.length_le)
    rw [Nat.succ_mul] at hnext
    exact withSums_outside (by omega) (by omega)
  · intro x hlow hhigh hx
    rw [h.entryAddr_eq] at hlow hhigh
    rw [newTable, withSums_outside (by omega) (by omega)]
    refine patchEntries_other fun i hi => ?_
    have hmem : (i, es[i]) ∈ (usedEntries c blkSz lba).zip es := by
      rw [h.used]
      refine List.mem_iff_getElem?.mpr ⟨i, List.getElem?_zip_eq_some.mpr ⟨?_, ?_⟩⟩
      · exact List.getElem?_range hi
      · exact List.getElem?_eq_getElem hi
    rw [← h.entryAddr_eq]
    exact hx _ hmem

end

end Table

/-! ### The two tables do not meet -/

structure SameTable (c c' : Bytes) (blkSz lba first : Nat) : Prop where
  header : ∀ i < GPT_HEADER_SIZE, c' (lba * blkSz + i) = c (lba * blkSz + i)
  entries : ∀ i < MAX_PARTITION_ENTRIES_SZ, c' (first * blkSz + i) = c (first * blkSz + i)

section SameTable

variable {crc32 : List UInt8 → Nat} {type : UpdateType} {es : List PartitionEntry} {c c' c₁ : Bytes}
  {blkSz lba first other o : Nat}

section

variable (h : SameTable c c' blkSz lba first)
include h

theorem SameTable.u32At (ho : o + 4 ≤ GPT_HEADER_SIZE) :
    (headerAt c' blkSz lba).u32At o = (headerAt c blkSz lba).u32At o :=
  u32At_congr fun _ _ => h.header _ (by omega)

theorem SameTable.u64At (ho : o + 8 ≤ GPT_HEADER_SIZE) :
    (headerAt c' blkSz lba).u64At o = (headerAt c blkSz lba).u64At o :=
  u64At_congr fun _ _ => h.header _ (by omega)

theorem SameTable.entryAddr (i : Nat) :
    entryAddr c' blkSz lba i = OhMyAbl.entryAddr c blkSz lba i := by
  rw [OhMyAbl.entryAddr, OhMyAbl.entryAddr, h.u64At (by decide), h.u32At (by decide)]

theorem SameTable.usedEntries (hlayout : TableLayout type es c blkSz lba first) :
    usedEntries c' blkSz lba = OhMyAbl.usedEntries c blkSz lba := by
  unfold OhMyAbl.usedEntries
  rw [h.u32At (by decide)]
  refine List.filter_congr fun i hi => ?_
  have hlt := Nat.lt_of_lt_of_le (List.mem_range.mp hi) hlayout.count_le
  rw [h.entryAddr, hlayout.entryAddr_eq]
  have hguid : guidAt c' (first * blkSz + i * PARTITION_ENTRY_SIZE) =
      guidAt c (first * blkSz + i * PARTITION_ENTRY_SIZE) := by
    refine guidAt_congr fun j hj => ?_
    rw [Nat.add_assoc]
    exact h.entries _ (by simp only [MAX_PARTITION_ENTRIES_SZ, PARTITION_ENTRY_SIZE]; omega)
  rw [hguid]

end

theorem TableLayout.congr (hlayout : TableLayout type es c blkSz lba first)
    (h : SameTable c c' blkSz lba first) : TableLayout type es c' blkSz lba first where
  headerSize := (h.u32At (by decide)).trans hlayout.headerSize
  entrySize := (h.u32At (by decide)).trans hlayout.entrySize
  count_le := by
    rw [h.u32At (by decide)]
    exact hlayout.count_le
  first_eq := (h.u64At (by decide)).trans hlayout.first_eq
  used := (h.usedEntries hlayout).trans hlayout.used
  inStep := by
    have hlen := Nat.le_trans hlayout.length_le hlayout.count_le
    refine hlayout.inStep.congr fun x hx hx' => ?_
    obtain ⟨i, rfl⟩ := Nat.exists_eq_add_of_le hx
    refine h.entries i ?_
    simp only [MAX_PARTITION_ENTRIES_SZ, PARTITION_ENTRY_SIZE] at hx' ⊢
    omega

theorem GptCopy.congr (hcopy : GptCopy crc32 c blkSz lba other)
    (hshape : TableShape c blkSz lba first) (h : SameTable c c' blkSz lba first) :
    GptCopy crc32 c' blkSz lba other where
  headerCrc := by
    rw [h.u32At (by decide), h.u32At (by decide), hcopy.headerCrc, hshape.headerSize]
    congr 1
    refine slice_congr fun k hk => ?_
    rw [Nat.zero_add]
    unfold put overwrite
    rw [headerAt, headerAt, shift_apply, shift_apply, h.header k hk]
  myLba := (h.u64At (by decide)).trans hcopy.myLba
  alternateLba := (h.u64At (by decide)).trans hcopy.alternateLba
  entriesCrc := by
    rw [h.u32At (by decide), h.u32At (by decide), h.u32At (by decide), h.u64At (by decide),
      hcopy.entriesCrc, hshape.first_eq, hshape.entrySize]
    congr 1
    refine slice_congr fun k hk => (h.entries k ?_).symm
    exact Nat.lt_of_lt_of_le hk (Nat.mul_le_mul_right _ hshape.count_le)

theorem EntriesUpdated.keep (h : EntriesUpdated type es c c₁ blkSz lba)
    (hlayout : TableLayout type es c blkSz lba first) (hsame : SameTable c₁ c' blkSz lba first) :
    EntriesUpdated type es c c' blkSz lba := by
  have hlen := Nat.le_trans hlayout.length_le hlayout.count_le
  constructor
  · rintro ⟨k, e⟩ hp
    refine (h.fields _ hp).congr fun i hi => ?_
    have hk : k < es.length := by
      rw [hlayout.used] at hp
      exact List.mem_range.mp (List.of_mem_zip hp).1
    rw [hlayout.entryAddr_eq, Nat.add_assoc]
    refine hsame.entries _ ?_
    simp only [MAX_PARTITION_ENTRIES_SZ, PARTITION_ENTRY_SIZE] at hi ⊢
    omega
  · intro x hlow hhigh hx
    rw [← h.others x hlow hhigh hx]
    rw [hlayout.entryAddr_eq] at hlow hhigh
    have hcount := hlayout.count_le
    obtain ⟨i, rfl⟩ := Nat.exists_eq_add_of_le hlow
    refine hsame.entries i ?_
    simp only [MAX_PARTITION_ENTRIES_SZ, PARTITION_ENTRY_SIZE] at hhigh ⊢
    omega

theorem EntriesUpdated.since (h : EntriesUpdated type es c₁ c' blkSz lba)
    (hlayout : TableLayout type es c blkSz lba first) (hsame : SameTable c c₁ blkSz lba first) :
    EntriesUpdated type es c c' blkSz lba := by
  have hcount := hlayout.count_le
  obtain ⟨hfields, hothers⟩ := h
  rw [hsame.usedEntries hlayout] at hfields hothers
  simp only [hsame.entryAddr] at hfields hothers
  rw [hsame.u32At (by decide)] at hothers
  refine ⟨hfields, fun x hlow hhigh hx => (hothers x hlow hhigh hx).trans ?_⟩
  rw [hlayout.entryAddr_eq] at hlow hhigh
  obtain ⟨i, rfl⟩ := Nat.exists_eq_add_of_le hlow
  refine hsame.entries i ?_
  simp only [MAX_PARTITION_ENTRIES_SZ, PARTITION_ENTRY_SIZE] at hhigh ⊢
  omega

end SameTable

/-! ### What one device gets -/

section

variable (env : AttributesEnv)

/-- The LUN is configured.  `MaxLuns` is eight on UFS, whatever LUNs the device has. -/
def AttributesEnv.present (lun : Nat) : Bool :=
  decide ((env.getStorageHandle (env.dev lun) MAX_HANDLEINF_LST_SIZE).2 = 1)

def AttributesEnv.crc32 (bytes : List UInt8) : Nat := (env.calculateCrc32 bytes).2.toNat

def AttributesEnv.entries (s : AttributesState) (lun : Nat) : List PartitionEntry :=
  lunEntries env.rootDeviceType lun s.ptnEntries

/-- On UFS the entries in memory are in the order of their LUNs. -/
def AttributesEnv.Sorted (es : List PartitionEntry) : Prop :=
  env.rootDeviceType = .UFS → es.Pairwise fun e e' => e.lun ≤ e'.lun

end

def AttributesState.contents (s : AttributesState) (dev : Option Nat) : Bytes :=
  (s.disks dev).contents

structure Responsive (env : AttributesEnv) : Prop where
  device : env.rootDeviceType = .EMMC ∧ env.maxLuns = 1 ∨ env.rootDeviceType = .UFS
  /-- the one handle of a LUN is found with any room, also with none -/
  handle : ∀ lun n, env.getStorageHandle (env.dev lun) n =
    (EFI_SUCCESS, if env.present lun then 1 else 0)
  outcome : ∀ dev n, (env.blockIo dev).outcome n = EFI_SUCCESS
  pool : ∀ dev, env.allocateZeroPool dev = true
  crc : ∀ bytes, (env.calculateCrc32 bytes).1 = EFI_SUCCESS

structure DevicePacked (es : List PartitionEntry) (io : BlockIo) (c : Bytes) : Prop where
  whole : MAX_PARTITION_ENTRIES_SZ % io.blockSize = 0
  headerSize_le : GPT_HEADER_SIZE ≤ io.blockSize
  lastBlock_lt : io.lastBlock + 1 < 2 ^ 32
  primaryPacked : TablePacked es c io.blockSize 1 2
  backupPacked : TablePacked es c io.blockSize io.lastBlock
    (io.lastBlock - partEntriesblocks io.blockSize)

/-- Both copies on the device have the types of the entries in memory, if they are not updated. -/
structure GuidsAgree (type : UpdateType) (es : List PartitionEntry) (io : BlockIo) (c : Bytes) :
    Prop where
  primaryInStep : InStep type c es (2 * io.blockSize)
  backupInStep : InStep type c es
    ((io.lastBlock - partEntriesblocks io.blockSize) * io.blockSize)

structure DeviceLayout (type : UpdateType) (es : List PartitionEntry) (io : BlockIo) (c : Bytes) :
    Prop extends DevicePacked es io c, GuidsAgree type es io c

section

variable {type : UpdateType} {es : List PartitionEntry} {io : BlockIo} {c : Bytes}

theorem DeviceLayout.primary (h : DeviceLayout type es io c) :
    TableLayout type es c io.blockSize 1 2 :=
  ⟨h.primaryPacked, h.primaryInStep⟩

theorem DeviceLayout.backup (h : DeviceLayout type es io c) : TableLayout type es c io.blockSize
    io.lastBlock (io.lastBlock - partEntriesblocks io.blockSize) :=
  ⟨h.backupPacked, h.backupInStep⟩

end

section Device

variable {env : AttributesEnv} {type : UpdateType} {lun entries hdr first lba blkSz : Nat}
  {dev : Option Nat} {s : AttributesState} {E : Jump Exit PUnit → AttributesState → Prop}
  {io : BlockIo} {c c' : Bytes} {es : List PartitionEntry}

theorem wp_exitIf {c : Prop} [Decidable c] {Q : PUnit → AttributesState → Prop} (hc : ¬ c) :
    wp (exitIf c) Q E s ↔ Q ⟨⟩ s := by
  rw [exitIf, if_neg hc, wp_pure]

theorem Responsive.known (h : Responsive env) :
    ¬ (env.rootDeviceType ≠ .EMMC ∧ env.rootDeviceType ≠ .UFS) := by
  rcases h.device with hemmc | hufs
  · exact fun hnot => hnot.1 hemmc.1
  · exact fun hnot => hnot.2 hufs

theorem updateSums_spec (hcrc : ∀ bytes, (env.calculateCrc32 bytes).1 = EFI_SUCCESS) {g : Bytes}
    (hsize : g.u32At (hdr + PARTITION_COUNT_OFFSET) * g.u32At (hdr + PENTRY_SIZE_OFFSET) ≤
      MAX_PARTITION_ENTRIES_SZ) :
    wp (updateSums env g hdr entries)
      (fun g' s' => s' = s ∧ g' = withSums (fun l => (env.calculateCrc32 l).2) g hdr entries
        (g.u32At (hdr + PARTITION_COUNT_OFFSET) * g.u32At (hdr + PENTRY_SIZE_OFFSET))) E s := by
  unfold updateSums
  rw [wp_bind, wp_exitIf (Nat.not_lt.mpr hsize), wp_bind, wp_exitIf (not_not.mpr (hcrc _)), wp_bind,
    wp_exitIf (not_not.mpr (hcrc _))]
  exact ⟨rfl, rfl⟩

/-- What a step for one table leaves: the contents of the device, and everything else. -/
structure TableStep (dev : Option Nat) (c : Bytes) (s s' : AttributesState) : Prop where
  entries : s'.ptnEntries = s.ptnEntries
  contents : s'.contents dev = c
  others : ∀ d ≠ dev, s'.disks d = s.disks d

/-- One copy of the table is read, patched and written; other disks are kept. -/
theorem updateTable_spec (henv : Responsive env) {offset other : Nat} (hio : env.blockIo dev = io)
    (hhdr : offset * io.blockSize + hdr = lba * io.blockSize)
    (hfirst : offset * io.blockSize + entries = first * io.blockSize)
    (hstatus : ∀ n, io.transferStatus n offset (maxGptPartEntrySzBytes io.blockSize) = EFI_SUCCESS)
    (hhdrIn : hdr + GPT_HEADER_SIZE ≤ maxGptPartEntrySzBytes io.blockSize)
    (hentriesIn : entries + MAX_PARTITION_ENTRIES_SZ ≤ maxGptPartEntrySzBytes io.blockSize)
    (hsorted : env.Sorted s.ptnEntries) (hapart : Apart io.blockSize lba first)
    (hlayout : TableLayout type (env.entries s lun) (s.contents dev) io.blockSize lba first)
    (hcopy : GptCopy env.crc32 (s.contents dev) io.blockSize lba other) :
    wp (updateTable env type lun dev offset hdr entries)
      (fun _ => TableStep dev (newTable (fun l => (env.calculateCrc32 l).2) type (env.entries s lun)
        (s.contents dev) io.blockSize lba first) s) noExit s := by
  have hok : ¬ EFI_ERROR EFI_SUCCESS = true := by decide
  unfold AttributesState.contents AttributesEnv.entries at *
  generalize hc : (s.disks dev).contents = c at hlayout hcopy ⊢
  generalize hes : lunEntries env.rootDeviceType lun s.ptnEntries = es at hlayout ⊢
  generalize hb : offset * io.blockSize = base at hhdr hfirst
  -- the walk patches the blocks as if they stood on the device
  have hstep : InStep type (c.shift base) es entries := by
    refine InStep.shift ?_
    rw [hfirst]
    exact hlayout.inStep
  rw [← hes] at hstep
  obtain ⟨hbuffer, hskip⟩ := walkEntries_eq (i := 0)
    (w := ⟨c.shift base, entries, true, s.ptnEntriesBak⟩) hsorted hstep
  rw [hes, patchEntries_shift, hfirst] at hbuffer hskip
  unfold updateTable BlockIo.readBlocks BlockIo.writeBlocks
  rw [hio]
  simp only [wp_bind, wp_call, wp_zoom, wp_get, wp_modify, wp_pure,
    AttributesState.diskLens, hstatus, wp_exitIf hok, wp_ite, hc, hb]
  refine ⟨fun hskipped => ?_, fun hchanged => ?_⟩
  · have hsame : patchEntries type es c (first * io.blockSize) = c := by
      funext x
      by_cases hx : x < base
      · exact patchEntries_outside (.inl (by omega))
      · have hshift : patchEntries type es c (first * io.blockSize) (base + (x - base)) =
            c (base + (x - base)) := congrFun (hskip hskipped).2 (x - base)
        rwa [Nat.add_sub_cancel' (by omega)] at hshift
    rw [newTable_eq_self hlayout hcopy hsame]
    refine ⟨rfl, ?_, fun d hd => Function.update_of_ne hd ..⟩
    exact (congrArg Disk.contents (Function.update_self ..)).trans rfl
  · have hcount := patchEntries_header hlayout hapart (o := PARTITION_COUNT_OFFSET) (by decide)
    have hsize := patchEntries_header hlayout hapart (o := PENTRY_SIZE_OFFSET) (by decide)
    rw [headerAt, u32At_shift, ← hhdr, Nat.add_assoc, ← u32At_shift (b := base), ← hbuffer]
      at hcount hsize
    have hbytes := Nat.mul_le_mul_right PARTITION_ENTRY_SIZE hlayout.count_le
    refine wp_imp (updateSums_spec henv.crc ?_) ?_
    · rw [hcount, hsize, hlayout.entrySize]
      exact hbytes
    · rintro g' _ ⟨rfl, rfl⟩
      rw [hcount, hsize, hbuffer, withSums_shift, hhdr, hfirst]
      simp only [Function.update_self, Function.update_idem]
      refine ⟨rfl, ?_, fun d hd => Function.update_of_ne hd ..⟩
      refine (congrArg Disk.contents (Function.update_self ..)).trans ?_
      simp only [GPT_HEADER_SIZE] at hhdrIn
      exact overwrite_shift fun x hx =>
        newTable_outside hlayout (by omega) (by omega) (by omega)

theorem getPartitionSize_ne_zero (hpos : 0 < io.blockSize) (hlast : io.lastBlock + 1 < 2 ^ 32) :
    io.getPartitionSize ≠ 0 := by
  have hadd : ¬ CHECK_ADD64 io.lastBlock 1 = true :=
    checkAdd64_of_le (by simp only [MAX_UINT64]; omega)
  have hfits : io.blockSize ≤ MAX_UINT64 / (io.lastBlock + 1) := by
    rw [Nat.le_div_iff_mul_le (Nat.succ_pos _)]
    have hprod : io.blockSize * (io.lastBlock + 1) ≤ (2 ^ 32 - 1) * (2 ^ 32 - 1) :=
      Nat.mul_le_mul (Nat.le_sub_one_of_lt io.blockSize_lt) (Nat.le_sub_one_of_lt hlast)
    exact Nat.le_trans hprod (by decide)
  rw [BlockIo.getPartitionSize, if_neg hadd, if_neg (Nat.not_lt.mpr hfits)]
  exact Nat.mul_ne_zero (Nat.succ_ne_zero _) (Nat.ne_of_gt hpos)

structure Geometry (io : BlockIo) : Prop where
  bytes : partEntriesblocks io.blockSize * io.blockSize = MAX_PARTITION_ENTRIES_SZ
  size : maxGptPartEntrySzBytes io.blockSize = (1 + partEntriesblocks io.blockSize) * io.blockSize
  apart : 2 + 2 * partEntriesblocks io.blockSize ≤ io.lastBlock
  backup : backupLba io = io.lastBlock - partEntriesblocks io.blockSize
  density : io.getPartitionSize ≠ 0

theorem DeviceLayout.geometry {crc32 : List UInt8 → Nat} (h : DeviceLayout type es io c)
    (hvalid : ValidGpt crc32 c io.blockSize (io.lastBlock + 1)) : Geometry io := by
  obtain ⟨hwhole, hheader, hlast, hprimary, hbackup⟩ := h.toDevicePacked
  have hpos : 0 < io.blockSize := Nat.lt_of_lt_of_le (by decide) hheader
  have hbytes : partEntriesblocks io.blockSize * io.blockSize = MAX_PARTITION_ENTRIES_SZ :=
    Nat.div_mul_cancel (Nat.dvd_of_mod_eq_zero hwhole)
  have hblkSz : io.blockSize ≤ MAX_PARTITION_ENTRIES_SZ := Nat.le_of_dvd (by decide)
    (Nat.dvd_of_mod_eq_zero hwhole)
  have hsize : maxGptPartEntrySzBytes io.blockSize =
      (1 + partEntriesblocks io.blockSize) * io.blockSize := by
    unfold maxGptPartEntrySzBytes u32 GPT_HDR_BLOCKS
    rw [Nat.add_mul, hbytes]
    simp only [MAX_PARTITION_ENTRIES_SZ, PARTITION_ENTRY_SIZE] at hblkSz ⊢
    omega
  have harray {h : Bytes} : partEntriesblocks io.blockSize ≤ arrayBlocks h io.blockSize :=
    arrayBlocks_ge h hbytes.symm hpos
  have hinside := hvalid.inside
  have hdisjoint := hvalid.disjoint
  simp only [gptExtents, Nat.add_sub_cancel, hprimary.first_eq, hbackup.first_eq, List.mem_cons,
    List.not_mem_nil, or_false, forall_eq_or_imp, forall_eq, List.pairwise_cons, List.Pairwise.nil]
    at hinside hdisjoint
  have h₁ := harray (h := headerAt c io.blockSize 1)
  have h₂ := harray (h := headerAt c io.blockSize io.lastBlock)
  have hapart : 2 + 2 * partEntriesblocks io.blockSize ≤ io.lastBlock := by omega
  have hdensity := getPartitionSize_ne_zero hpos hlast
  have hbackupLba : backupLba io = io.lastBlock - partEntriesblocks io.blockSize := by
    unfold backupLba
    rw [(numSectors_eq hdensity).1, hsize, Nat.mul_div_cancel _ hpos,
      u64Sub_of_le (by omega) (by omega)]
    simp only [u32]
    omega
  exact ⟨hbytes, hsize, hapart, hbackupLba, hdensity⟩

def InTable (blkSz lba first x : Nat) : Prop :=
  (lba * blkSz ≤ x ∧ x < lba * blkSz + GPT_HEADER_SIZE) ∨
    (first * blkSz ≤ x ∧ x < first * blkSz + MAX_PARTITION_ENTRIES_SZ)

theorem newTable_sameTable (crc32 : List UInt8 → UInt32) {lba' first' : Nat}
    (h : TableLayout type es c blkSz lba first)
    (hapart : ∀ x, InTable blkSz lba first x → ¬ InTable blkSz lba' first' x) :
    SameTable c (newTable crc32 type es c blkSz lba first) blkSz lba' first' := by
  have hsame {x : Nat} (hx : InTable blkSz lba' first' x) :
      newTable crc32 type es c blkSz lba first x = c x := by
    have hnot : ¬ InTable blkSz lba first x := fun hin => hapart x hin hx
    simp only [InTable, GPT_HEADER_SIZE] at hnot
    exact newTable_outside h (by omega) (by omega) (by omega)
  constructor
  · intro i hi
    exact hsame (.inl ⟨by omega, by omega⟩)
  · intro i hi
    exact hsame (.inr ⟨by omega, by omega⟩)

theorem apart_primary (h : GPT_HEADER_SIZE ≤ blkSz) : Apart blkSz 1 2 := .inl (by omega)

theorem Geometry.apart_backup (h : Geometry io) :
    Apart io.blockSize io.lastBlock (io.lastBlock - partEntriesblocks io.blockSize) := by
  have hle := h.apart
  refine .inr (Nat.le_of_eq ?_)
  rw [← h.bytes, ← Nat.add_mul]
  congr 1
  omega

theorem Geometry.not_both (h : Geometry io) (hheader : GPT_HEADER_SIZE ≤ io.blockSize) {x : Nat}
    (hprimary : InTable io.blockSize 1 2 x) :
    ¬ InTable io.blockSize io.lastBlock (io.lastBlock - partEntriesblocks io.blockSize) x := by
  have hbytes := h.bytes
  have hle := h.apart
  have hgap : (2 + partEntriesblocks io.blockSize) * io.blockSize ≤
      (io.lastBlock - partEntriesblocks io.blockSize) * io.blockSize :=
    Nat.mul_le_mul_right _ (by omega)
  have hlast : (io.lastBlock - partEntriesblocks io.blockSize) * io.blockSize ≤
      io.lastBlock * io.blockSize := Nat.mul_le_mul_right _ (by omega)
  rw [Nat.add_mul, hbytes] at hgap
  unfold InTable at hprimary ⊢
  omega

theorem transferStatus_eq (henv : Responsive env) {n size : Nat}
    (hsize : size % (env.io lun).blockSize = 0)
    (hinside : lba + size / (env.io lun).blockSize ≤ (env.io lun).lastBlock + 1) :
    (env.io lun).transferStatus n lba size = EFI_SUCCESS := by
  rw [BlockIo.transferStatus, if_neg (not_not.mpr hsize), if_neg (Nat.not_lt.mpr hinside)]
  exact henv.outcome _ n

/-- The place and the size of the entries of a copy are the same on two devices. -/
structure SameArray (c c' : Bytes) (blkSz lba : Nat) : Prop where
  first : (headerAt c' blkSz lba).u64At PARTITION_ENTRIES_OFFSET =
    (headerAt c blkSz lba).u64At PARTITION_ENTRIES_OFFSET
  blocks : arrayBlocks (headerAt c' blkSz lba) blkSz = arrayBlocks (headerAt c blkSz lba) blkSz

theorem SameTable.sameArray (h : SameTable c c' blkSz lba first) : SameArray c c' blkSz lba := by
  refine ⟨h.u64At (by decide), ?_⟩
  rw [arrayBlocks, arrayBlocks, h.u32At (by decide), h.u32At (by decide)]

theorem newTable_sameArray (crc32 : List UInt8 → UInt32) (h : TableLayout type es c blkSz lba first)
    (hapart : Apart blkSz lba first) :
    SameArray c (newTable crc32 type es c blkSz lba first) blkSz lba := by
  refine ⟨newTable_u64At _ h hapart (by decide) (by decide), ?_⟩
  rw [arrayBlocks, arrayBlocks, newTable_u32At _ h hapart (by decide),
    newTable_u32At _ h hapart (by decide)]

theorem SameArray.trans {c'' : Bytes} (h : SameArray c c' blkSz lba)
    (h' : SameArray c' c'' blkSz lba) : SameArray c c'' blkSz lba :=
  ⟨h'.first.trans h.first, h'.blocks.trans h.blocks⟩

theorem gptExtents_congr {backup : Nat} (hprimary : SameArray c c' blkSz 1)
    (hbackup : SameArray c c' blkSz backup) :
    gptExtents c' blkSz backup = gptExtents c blkSz backup := by
  rw [gptExtents, gptExtents, hprimary.first, hprimary.blocks, hbackup.first, hbackup.blocks]

def newTables (crc32 : List UInt8 → UInt32) (type : UpdateType) (es : List PartitionEntry)
    (io : BlockIo) (c : Bytes) : Bytes :=
  newTable crc32 type es (newTable crc32 type es c io.blockSize 1 2) io.blockSize io.lastBlock
    (io.lastBlock - partEntriesblocks io.blockSize)

theorem newTables_writtenBack {crc32 : List UInt8 → UInt32} (h : DeviceLayout type es io c)
    (hvalid : ValidGpt (fun l => (crc32 l).toNat) c io.blockSize (io.lastBlock + 1)) :
    WrittenBack (fun l => (crc32 l).toNat) type es c (newTables crc32 type es io c) io.blockSize
      (io.lastBlock + 1) := by
  have hgeo := h.geometry hvalid
  obtain ⟨hcopy₁, hcopy₂, hinside, hdisjoint⟩ := hvalid
  have hheader := h.headerSize_le
  have hapart₁ := apart_primary hheader
  have hapart₂ := hgeo.apart_backup
  unfold newTables
  have hkept₁ := newTable_sameTable crc32 h.primary fun x => hgeo.not_both hheader
  have hupdated₁ := newTable_updated crc32 h.primary hapart₁
  have hshape₁ := newTable_shape crc32 h.primary hapart₁
  have hnew₁ := newTable_copy crc32 h.primary hapart₁ hcopy₁
  have harray₁ := newTable_sameArray crc32 h.primary hapart₁
  have hlayout₂ := h.backup.congr hkept₁
  have hkept₂ := newTable_sameTable crc32 hlayout₂ fun x hx₂ hx₁ =>
    hgeo.not_both hheader hx₁ hx₂
  have hnew₂ := newTable_copy crc32 hlayout₂ hapart₂
    (hcopy₂.congr h.backup.toTableShape hkept₁)
  have hupdated₂ := newTable_updated crc32 hlayout₂ hapart₂
  have hextents := gptExtents_congr (harray₁.trans hkept₂.sameArray)
    (hkept₁.sameArray.trans (newTable_sameArray crc32 hlayout₂ hapart₂))
  refine ⟨hupdated₁.keep h.primary hkept₂, hupdated₂.since h.backup hkept₁, ?_⟩
  refine ⟨hnew₁.congr hshape₁ hkept₂, hnew₂, ?_, ?_⟩
  · rw [Nat.add_sub_cancel, hextents]
    exact hinside
  · rw [Nat.add_sub_cancel, hextents]
    exact hdisjoint

end Device

/-! ### All devices -/

/-- The tables of a LUN are valid and packed, whatever types they have. -/
structure LunPacked (env : AttributesEnv) (s : AttributesState) (lun : Nat) : Prop where
  packed : DevicePacked (env.entries s lun) (env.io lun) (s.contents (env.dev lun))
  valid : ValidGpt env.crc32 (s.contents (env.dev lun)) (env.io lun).blockSize
    ((env.io lun).lastBlock + 1)

/-- Before the update, the table of a LUN is valid and has the layout the code expects. -/
structure LunReady (env : AttributesEnv) (type : UpdateType) (s : AttributesState) (lun : Nat) :
    Prop extends LunPacked env s lun where
  agree : GuidsAgree type (env.entries s lun) (env.io lun) (s.contents (env.dev lun))

/-- After the update, both copies on the device of a LUN have its entries in memory. -/
def LunWritten (type : UpdateType) (s s' : AttributesState) (lun : Nat) : Prop :=
  WrittenBack env.crc32 type (env.entries s lun) (s.contents (env.dev lun))
    (s'.contents (env.dev lun)) (env.io lun).blockSize ((env.io lun).lastBlock + 1)

/-- What the loop body leaves: a LUN that is there is updated, and the others are kept. -/
structure LunStep (type : UpdateType) (lun : Nat) (s s' : AttributesState) : Prop where
  entries : s'.ptnEntries = s.ptnEntries
  written : env.present lun = true → LunWritten env type s s' lun
  others : ∀ d, d ≠ env.dev lun → s'.disks d = s.disks d

section Run

variable {env : AttributesEnv} {type : UpdateType} {lun : Nat} {s s' : AttributesState}

theorem LunReady.congr (h : LunReady env type s lun) (hentries : s'.ptnEntries = s.ptnEntries)
    (hdisk : s'.disks (env.dev lun) = s.disks (env.dev lun)) : LunReady env type s' lun := by
  have hcontents : s'.contents (env.dev lun) = s.contents (env.dev lun) := congrArg _ hdisk
  have hlun : env.entries s' lun = env.entries s lun := congrArg _ hentries
  obtain ⟨⟨hpacked, hvalid⟩, hagree⟩ := h
  rw [← hlun, ← hcontents] at hpacked hagree
  rw [← hcontents] at hvalid
  exact ⟨⟨hpacked, hvalid⟩, hagree⟩

/-- Both copies on a present LUN are written back, and other disks are kept. -/
theorem updateLun_spec (henv : Responsive env) {maxHandles : Nat}
    (hsorted : env.Sorted s.ptnEntries)
    (hready : env.present lun = true → LunReady env type s lun) :
    wp (updateLun env type lun maxHandles) (fun _ => LunStep env type lun s) noExit s := by
  have hhandle := henv.handle lun maxHandles
  unfold updateLun
  rw [wp_bind, wp_exitIf henv.known]
  dsimp only
  rw [hhandle, wp_bind, wp_exitIf (not_not.mpr rfl)]
  by_cases hpresent : env.present lun = true
  swap
  · rw [if_neg hpresent]
    exact ⟨rfl, fun h => absurd h hpresent, fun _ _ => rfl⟩
  obtain ⟨⟨hpacked, hvalid⟩, hagree⟩ := hready hpresent
  have hlayout : DeviceLayout type (env.entries s lun) (env.io lun) (s.contents (env.dev lun)) :=
    ⟨hpacked, hagree⟩
  have hgeo := hlayout.geometry hvalid
  have hheader := hlayout.headerSize_le
  have hgap := hgeo.apart
  have hio : env.blockIo (env.dev lun) = env.io lun := rfl
  have hpos : 0 < (env.io lun).blockSize := Nat.lt_of_lt_of_le (by decide) hheader
  have hsize : maxGptPartEntrySzBytes (env.io lun).blockSize / (env.io lun).blockSize =
      1 + partEntriesblocks (env.io lun).blockSize := by
    rw [hgeo.size, Nat.mul_div_cancel _ hpos]
  have hmod : maxGptPartEntrySzBytes (env.io lun).blockSize % (env.io lun).blockSize = 0 := by
    rw [hgeo.size, Nat.mul_mod_left]
  have hbytes : maxGptPartEntrySzBytes (env.io lun).blockSize =
      (env.io lun).blockSize + MAX_PARTITION_ENTRIES_SZ := by
    rw [hgeo.size, Nat.add_mul, Nat.one_mul, hgeo.bytes]
  rw [if_pos hpresent, if_neg (not_not.mpr rfl), wp_bind, wp_exitIf hgeo.density, wp_bind,
    wp_exitIf (by rw [henv.pool]; decide), wp_bind]
  -- the primary table
  refine wp_imp (updateTable_spec henv hio ?_ ?_ ?_ ?_ ?_ hsorted
    (apart_primary hheader) hlayout.primary hvalid.primary) ?_
  · rw [PRIMARY_HDR_LBA, Nat.add_zero]
  · rw [PRIMARY_HDR_LBA]
    omega
  · exact fun n => transferStatus_eq henv hmod (by rw [hsize, PRIMARY_HDR_LBA]; omega)
  · omega
  · exact Nat.le_of_eq hbytes.symm
  rintro - s₁ ⟨hentries₁, hcontents₁, hothers₁⟩
  -- the backup table, which the first step has kept
  have hkept := newTable_sameTable (fun l => (env.calculateCrc32 l).2) hlayout.primary
    fun x => hgeo.not_both hheader
  rw [← hcontents₁] at hkept
  have hlayout₂ := hlayout.backup.congr hkept
  have hcopy₂ := hvalid.backup.congr hlayout.backup.toTableShape hkept
  rw [AttributesEnv.entries, ← hentries₁] at hlayout₂
  refine wp_seq (updateTable_spec henv hio ?_ ?_ ?_ ?_ ?_ (by rwa [hentries₁])
    hgeo.apart_backup hlayout₂
    hcopy₂) ?_
  · rw [hgeo.backup, ← Nat.add_mul]
    congr 1
    omega
  · rw [hgeo.backup, Nat.add_zero]
  · exact fun n => transferStatus_eq henv hmod (by rw [hsize, hgeo.backup]; omega)
  · rw [hbytes, hgeo.bytes]
    omega
  · omega
  rintro - s₂ ⟨hentries₂, hcontents₂, hothers₂⟩
  have hok : ¬ EFI_ERROR EFI_SUCCESS = true := by decide
  simp only [BlockIo.flushBlocks, wp_bind, wp_call, wp_zoom, wp_pure, AttributesEnv.io,
    henv.outcome, AttributesState.diskLens]
  refine ⟨hentries₂.trans hentries₁, fun _ => ?_, fun d hd => ?_⟩
  · have hnew : ∀ c, c = newTables (fun l => (env.calculateCrc32 l).2) type (env.entries s lun)
        (env.io lun) (s.contents (env.dev lun)) → WrittenBack env.crc32 type (env.entries s lun)
          (s.contents (env.dev lun)) c (env.io lun).blockSize ((env.io lun).lastBlock + 1) :=
      fun c hc => hc ▸ newTables_writtenBack hlayout hvalid
    refine hnew _ ((congrArg Disk.contents (Function.update_self ..)).trans ?_)
    refine hcontents₂.trans ?_
    rw [hcontents₁, AttributesEnv.entries, hentries₁]
    rfl
  · refine (Function.update_of_ne hd ..).trans ?_
    rw [hothers₂ d hd, hothers₁ d hd]

theorem updateLuns_spec (henv : Responsive env) : ∀ {n lun maxHandles : Nat} {s : AttributesState},
    (env.rootDeviceType = .EMMC → n ≤ 1) → env.Sorted s.ptnEntries →
    (∀ k, lun ≤ k → k < lun + n → env.present k = true → LunReady env type s k) →
    wp (updateLuns env type n lun maxHandles)
      (fun _ s' => (∀ k, lun ≤ k → k < lun + n → env.present k = true →
          LunWritten env type s s' k) ∧
        ∀ d, (∀ k, lun ≤ k → k < lun + n → d ≠ env.dev k) → s'.disks d = s.disks d) noExit s := by
  intro n
  induction n with
  | zero =>
    intro lun _ s _ _ _
    exact ⟨fun k hk hk' => absurd hk' (by omega), fun _ _ => rfl⟩
  | succ n ih =>
    intro lun maxHandles s hone hsorted hready
    have hone' : env.rootDeviceType = .EMMC → n ≤ 1 := fun h => by have := hone h; omega
    refine wp_seq (updateLun_spec henv hsorted (hready lun (Nat.le_refl _) (by omega))) ?_
    rintro m s₁ ⟨hentries, hwritten₁, hothers⟩
    -- the LUNs that follow are other devices
    have hother {k : Nat} (hk : lun + 1 ≤ k) (hk' : k < lun + 1 + n) : env.dev k ≠ env.dev lun := by
      rcases henv.device with hemmc | hufs
      · have := hone hemmc.1
        omega
      · simp only [AttributesEnv.dev, hufs]
        exact fun heq => absurd (Option.some.inj heq) (by omega)
    refine wp_imp (ih (s := s₁) hone' (by rwa [hentries]) fun k hk hk' hpresent => ?_) ?_
    · exact (hready k (by omega) (by omega) hpresent).congr hentries (hothers _ (hother hk hk'))
    rintro - s' ⟨hwritten, hkept⟩
    refine ⟨fun k hk hk' hpresent => ?_, fun d hd => ?_⟩
    · rcases Nat.eq_or_lt_of_le hk with rfl | hlt
      · have hlun := hwritten₁ hpresent
        unfold LunWritten AttributesState.contents at hlun ⊢
        rwa [hkept _ fun k hk hk' => (hother hk hk').symm]
      · have hlun := hwritten k hlt (by omega) hpresent
        unfold LunWritten AttributesEnv.entries AttributesState.contents at hlun ⊢
        rwa [hentries, hothers _ (hother hlt (by omega))] at hlun
    · rw [hkept d fun k hk hk' => hd k (by omega) (by omega)]
      exact hothers d (hd lun (Nat.le_refl _) (by omega))

theorem updatePartitionAttributes_spec (henv : Responsive env)
    (hchanged : s.ptnEntries ≠ s.ptnEntriesBak) (hsorted : env.Sorted s.ptnEntries)
    (hready : ∀ lun < env.maxLuns, env.present lun = true → LunReady env type s lun) :
    wp (updatePartitionAttributes env type)
      (fun _ s' => ∀ lun < env.maxLuns, env.present lun = true → LunWritten env type s s' lun)
      noExit s := by
  have hone : env.rootDeviceType = .EMMC → env.maxLuns ≤ 1 := by
    intro hemmc
    rcases henv.device with hdevice | hufs
    · exact Nat.le_of_eq hdevice.2
    · exact absurd (hemmc.symm.trans hufs) (by decide)
  unfold updatePartitionAttributes
  rw [wp_bind, wp_get, if_neg hchanged, wp_block]
  refine wp_mono (updateLuns_spec henv hone hsorted fun k _ hk => ?_) ?_ ?_
  · exact hready k (by omega)
  · rintro - s' ⟨hwritten, -⟩ lun hlun
    exact hwritten lun (Nat.zero_le _) (by omega)
  · exact fun _ _ hfalse => hfalse.elim

/-- **Write-back.**  Where the firmware responds and the tables of the LUNs that are there have the
    layout the code expects, the selected fields of all entries in memory are in both copies on
    every such LUN afterwards, the other bytes of the entries are what they were, and the sums are
    right. -/
theorem updatePartitionAttributes_writes_back (env : AttributesEnv) (type : UpdateType)
    (s : AttributesState) (henv : Responsive env) (hchanged : s.ptnEntries ≠ s.ptnEntriesBak)
    (hsorted : env.Sorted s.ptnEntries)
    (hready : ∀ lun < env.maxLuns, env.present lun = true → LunReady env type s lun) :
    ∃ s', (updatePartitionAttributes env type).exec s = (.ok ⟨⟩, s') ∧
      ∀ lun < env.maxLuns, env.present lun = true → LunWritten env type s s' lun := by
  obtain ⟨_, s', hrun, hwritten⟩ :=
    wp_returns (updatePartitionAttributes_spec henv hchanged hsorted hready)
  exact ⟨s', hrun, hwritten⟩

/-! ### Calls after calls that failed -/

/-- A call, with the firmware it finds and the entries in memory when it is made. -/
structure AttributesCall where
  env : AttributesEnv
  type : UpdateType
  entries : List PartitionEntry

def AttributesState.update (s : AttributesState) (c : AttributesCall) : AttributesState :=
  ((updatePartitionAttributes c.env c.type).exec { s with ptnEntries := c.entries }).2

theorem exec_unchanged (h : s.ptnEntries = s.ptnEntriesBak) :
    (updatePartitionAttributes env type).exec s = (.ok ⟨⟩, s) := by
  unfold updatePartitionAttributes
  rw [exec_bind, exec_get]
  dsimp only
  rw [if_pos h]
  rfl

/-- The fields of the entries in memory are in both copies on every LUN that is there; the entries
    of a LUN are where its tables in `s` say. -/
def FieldsStored (env : AttributesEnv) (type : UpdateType) (s s' : AttributesState) : Prop :=
  ∀ lun < env.maxLuns, env.present lun = true →
    ∀ lba ∈ [1, (env.io lun).lastBlock],
      ∀ p ∈ (usedEntries (s.contents (env.dev lun)) (env.io lun).blockSize lba).zip
          (env.entries s lun),
        HasFields type p.2 (s'.contents (env.dev lun))
          (entryAddr (s.contents (env.dev lun)) (env.io lun).blockSize lba p.1)

theorem stored_of_written
    (h : ∀ lun < env.maxLuns, env.present lun = true → LunWritten env type s s' lun) :
    FieldsStored env type s s' := by
  intro lun hlun hpresent lba hlba
  have hwritten := h lun hlun hpresent
  simp only [List.mem_cons, List.not_mem_nil, or_false] at hlba
  rcases hlba with rfl | rfl
  · exact hwritten.primary.fields
  · exact hwritten.backup.fields

/-- The types agree on all LUNs that are there.  A write of types that failed leaves them
    different. -/
def TypesAgree (env : AttributesEnv) (type : UpdateType) (s : AttributesState) : Prop :=
  ∀ lun < env.maxLuns, env.present lun = true →
    GuidsAgree type (env.entries s lun) (env.io lun) (s.contents (env.dev lun))

/-- The call has something to write and finds the types it expects, or it has nothing to write and
    everything is stored. -/
def Retried (env : AttributesEnv) (type : UpdateType) (s : AttributesState) : Prop :=
  s.ptnEntries ≠ s.ptnEntriesBak ∧ TypesAgree env type s ∨
    s.ptnEntries = s.ptnEntriesBak ∧ FieldsStored env type s s

/-- **Retries.**  After any calls, whatever failed in them, a call in which nothing fails has stored
    the entries in memory if the backup copy in memory differs from them and the types agree, or if
    there was nothing left to store; and where the types agree, or nothing differs, only then.  A
    walk notes an entry in that copy before the blocks are written, so the copy of a write that
    failed does not differ; and behind an entry of another type a walk stays where it is. -/
theorem updatePartitionAttributes_retries_iff (calls : List AttributesCall) (s₀ s : AttributesState)
    (env : AttributesEnv) (type : UpdateType) (entries : List PartitionEntry)
    (hs : s = { calls.foldl .update s₀ with ptnEntries := entries }) (henv : Responsive env)
    (hsorted : env.Sorted entries)
    (hready : ∀ lun < env.maxLuns, env.present lun = true → LunPacked env s lun) :
    (Retried env type s →
      FieldsStored env type s ((calls.foldl .update s₀).update ⟨env, type, entries⟩)) ∧
    (FieldsStored env type s ((calls.foldl .update s₀).update ⟨env, type, entries⟩) →
      Retried env type s ∨ s.ptnEntries ≠ s.ptnEntriesBak ∧ ¬ TypesAgree env type s) := by
  have hupdate : (calls.foldl .update s₀).update ⟨env, type, entries⟩ =
      ((updatePartitionAttributes env type).exec s).2 := by rw [hs]; rfl
  rw [hupdate]
  replace hsorted : env.Sorted s.ptnEntries := by rwa [hs]
  constructor
  · rintro (⟨hchanged, hagree⟩ | ⟨hsame, hstored⟩)
    · obtain ⟨_, s', hrun, hwritten⟩ :=
        wp_returns (updatePartitionAttributes_spec henv hchanged hsorted fun lun hlun hpresent =>
          ⟨hready lun hlun hpresent, hagree lun hlun hpresent⟩)
      rw [hrun]
      exact stored_of_written hwritten
    · rwa [exec_unchanged hsame]
  · intro hstored
    by_cases hsame : s.ptnEntries = s.ptnEntriesBak
    · rw [exec_unchanged hsame] at hstored
      exact .inl (.inr ⟨hsame, hstored⟩)
    · by_cases hagree : TypesAgree env type s
      · exact .inl (.inl ⟨hsame, hagree⟩)
      · exact .inr ⟨hsame, hagree⟩

end Run

/-! ### Tables with and without the expected layout -/

/-- A header of `size` bytes for `count` entries, on a device of 1000 blocks of 512 bytes. -/
def attributesHeader (size crc lba other first count arrayCrc : Nat) : Bytes :=
  (((sampleHeader crc lba other first).put HEADER_SIZE_OFFSET 4 size).put PARTITION_COUNT_OFFSET 4
    count).put PARTITION_CRC_OFFSET 4 arrayCrc

def attributesDisk (size count slot crc backupCrc arrayCrc : Nat) : Bytes :=
  (((Bytes.overwrite (fun _ => 0) 512 GPT_HEADER_SIZE
    (attributesHeader size crc 1 999 2 count arrayCrc)).overwrite (999 * 512) GPT_HEADER_SIZE
    (attributesHeader size backupCrc 999 1 967 count arrayCrc)).put (1024 + slot * 128) 1 1).put
    (967 * 512 + slot * 128) 1 1

def attributesEnv : AttributesEnv where
  rootDeviceType := .EMMC
  maxLuns := 1
  getStorageHandle := fun _ _ => (EFI_SUCCESS, 1)
  blockIo := fun _ => ⟨512, 999, sector_lt, sampleGptEnv.blockIo.lastBlock_lt, fun _ => EFI_SUCCESS⟩
  allocateZeroPool := fun _ => true
  calculateCrc32 := fun bytes => (EFI_SUCCESS, UInt32.ofNat (crc32 bytes))

theorem attributesEnv_responsive : Responsive attributesEnv where
  device := .inl ⟨rfl, rfl⟩
  handle := fun _ _ => rfl
  outcome := fun _ _ => rfl
  pool := fun _ => rfl
  crc := fun _ => rfl

def attributesState (c : Bytes) : AttributesState where
  ptnEntries := [⟨[], 1, 5, 0⟩]
  ptnEntriesBak := [⟨[], 1, 0, 0⟩]
  disks := fun _ => ⟨c, 0, []⟩

def attributesAfter (c : Bytes) : Bytes :=
  (((updatePartitionAttributes attributesEnv .PARTITION_ATTRIBUTES).exec
    (attributesState c)).2.disks none).contents

def packedDisk : Bytes := attributesDisk 92 1 0 521475948 2679056581 4049014702

def gappedDisk : Bytes := attributesDisk 92 2 1 1017852057 3155234608 1047097451

def longHeaderDisk : Bytes := attributesDisk 96 1 0 3327616877 714167901 4049014702

theorem packedDisk_valid :
    ValidGpt attributesEnv.crc32 packedDisk 512 1000 where
  primary := by constructor <;> decide +kernel
  backup := by constructor <;> decide +kernel
  inside := by decide +kernel
  disjoint := by decide +kernel

theorem packedDisk_ready :
    LunReady attributesEnv .PARTITION_ATTRIBUTES (attributesState packedDisk) 0 := by
  refine ⟨⟨⟨by decide, by decide, by decide, ?_, ?_⟩, packedDisk_valid⟩, ⟨fun _ => ?_, trivial⟩,
    fun _ => ?_, trivial⟩
  · refine ⟨⟨?_, ?_, ?_, ?_⟩, ?_⟩
    all_goals decide +kernel
  · refine ⟨⟨?_, ?_, ?_, ?_⟩, ?_⟩
    all_goals decide +kernel
  all_goals decide +kernel

theorem updatePartitionAttributes_writes_back_packed :
    ∃ s', (updatePartitionAttributes attributesEnv .PARTITION_ATTRIBUTES).exec
        (attributesState packedDisk) = (.ok ⟨⟩, s') ∧
      ∀ lun < 1, attributesEnv.present lun = true →
        LunWritten attributesEnv .PARTITION_ATTRIBUTES (attributesState packedDisk) s' lun := by
  refine updatePartitionAttributes_writes_back attributesEnv .PARTITION_ATTRIBUTES
    (attributesState packedDisk) attributesEnv_responsive (by decide) nofun fun lun hlun _ => ?_
  obtain rfl : lun = 0 := Nat.lt_one_iff.mp hlun
  exact packedDisk_ready

theorem updatePartitionAttributes_retries_packed :
    FieldsStored attributesEnv .PARTITION_ATTRIBUTES (attributesState packedDisk)
      ((attributesState packedDisk).update
        ⟨attributesEnv, .PARTITION_ATTRIBUTES, [⟨[], 1, 5, 0⟩]⟩) := by
  have hready : ∀ lun < 1, attributesEnv.present lun = true →
      LunReady attributesEnv .PARTITION_ATTRIBUTES (attributesState packedDisk) lun := by
    intro lun hlun _
    obtain rfl : lun = 0 := Nat.lt_one_iff.mp hlun
    exact packedDisk_ready
  refine (updatePartitionAttributes_retries_iff [] (attributesState packedDisk)
    (attributesState packedDisk) attributesEnv .PARTITION_ATTRIBUTES [⟨[], 1, 5, 0⟩] rfl
    attributesEnv_responsive nofun fun lun hlun hpresent => ?_).1
    (.inl ⟨by decide, fun lun hlun hpresent => (hready lun hlun hpresent).agree⟩)
  exact (hready lun hlun hpresent).toLunPacked

/-- The device whose first write fails. -/
def failingWriteEnv : AttributesEnv :=
  { attributesEnv with
    blockIo := fun _ => { attributesEnv.blockIo none with
      outcome := fun n => if n = 1 then EFI_DEVICE_ERROR else EFI_SUCCESS } }

/-- The first call writes nothing, and the second one does not try; and after a type that was not
    written, the attributes of the entry are not written either. -/
theorem updatePartitionAttributes_not_retried :
    let after (first second : AttributesCall) : Bytes :=
      (([first, second].foldl .update (attributesState packedDisk)).disks none).contents
    ValidGpt attributesEnv.crc32 packedDisk 512 1000 ∧
      ∀ lba ∈ [1, 999], usedEntries packedDisk 512 lba = [0] ∧
        (after ⟨failingWriteEnv, .PARTITION_ATTRIBUTES, [⟨[], 1, 5, 0⟩]⟩
            ⟨attributesEnv, .PARTITION_ATTRIBUTES, [⟨[], 1, 5, 0⟩]⟩).u64At
          (entryAddr packedDisk 512 lba 0 + ATTRIBUTE_FLAG_OFFSET) = 0 ∧
        (after ⟨failingWriteEnv, .PARTITION_GUID, [⟨[], 2, 0, 0⟩]⟩
            ⟨attributesEnv, .PARTITION_ATTRIBUTES, [⟨[], 2, 5, 0⟩]⟩).u64At
          (entryAddr packedDisk 512 lba 0 + ATTRIBUTE_FLAG_OFFSET) = 0 := by
  refine ⟨packedDisk_valid, ?_⟩
  decide +kernel

-- the sum over two entries is a deep term
set_option maxRecDepth 4000 in
theorem gappedDisk_valid :
    ValidGpt attributesEnv.crc32 gappedDisk 512 1000 where
  primary := by constructor <;> decide +kernel
  backup := by constructor <;> decide +kernel
  inside := by decide +kernel
  disjoint := by decide +kernel

theorem longHeaderDisk_valid :
    ValidGpt attributesEnv.crc32 longHeaderDisk 512 1000 where
  primary := by constructor <;> decide +kernel
  backup := by constructor <;> decide +kernel
  inside := by decide +kernel
  disjoint := by decide +kernel

/-- With an unused entry in front, the attributes go to that entry and not to the one in use; with a
    header of 96 bytes, its sum is wrong afterwards. -/
theorem updatePartitionAttributes_misses_entry :
    (ValidGpt attributesEnv.crc32 gappedDisk 512 1000 ∧
      usedEntries gappedDisk 512 1 = [1] ∧ usedEntries gappedDisk 512 999 = [1] ∧
      (attributesAfter gappedDisk).u64At
        (entryAddr gappedDisk 512 1 0 + ATTRIBUTE_FLAG_OFFSET) = 5 ∧
      (attributesAfter gappedDisk).u64At
        (entryAddr gappedDisk 512 1 1 + ATTRIBUTE_FLAG_OFFSET) = 0) ∧
    (ValidGpt attributesEnv.crc32 longHeaderDisk 512 1000 ∧
      usedEntries longHeaderDisk 512 1 = [0] ∧ usedEntries longHeaderDisk 512 999 = [0] ∧
      ¬ GptCopy attributesEnv.crc32 (attributesAfter longHeaderDisk)
        512 1 999) := by
  refine ⟨⟨gappedDisk_valid, ?_, ?_, ?_, ?_⟩, longHeaderDisk_valid, ?_, ?_, fun hcopy => ?_⟩
  · decide +kernel
  · decide +kernel
  · decide +kernel
  · decide +kernel
  · decide +kernel
  · decide +kernel
  · have hcrc := hcopy.headerCrc
    revert hcrc
    decide +kernel

end OhMyAbl
