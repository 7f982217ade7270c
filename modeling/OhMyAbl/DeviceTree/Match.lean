/-
  **How a device tree is matched against the board.**

  `ReadDtbFindMatch` reads five properties of the root node, collects the outcomes as bits of
  `DtMatchVal`, and keeps the tree if they make a larger number than those of the best tree so far.
  The record of the current tree is reused: a field whose property is missing keeps the value of an
  earlier tree.
-/
import OhMyAbl.DeviceTree.Fdt
import OhMyAbl.Lib.Prog

namespace OhMyAbl

/-! ### Bits of the match value and masks -/

def BIT (n : Nat) : Nat := 2 ^ n

def NONE_MATCH : Nat := 0
def OEM_FLAVOR_DEFAULT_MATCH : Nat := 1
def OEM_FLAVOR_EXACT_MATCH : Nat := 2
def PMIC_MATCH_BEST_REV_IDX0 : Nat := 3
def PMIC_MATCH_EXACT_REV_IDX0 : Nat := 4
def VARIANT_MINOR_BEST_MATCH : Nat := 11
def VARIANT_MINOR_EXACT_MATCH : Nat := 12
def VARIANT_MAJOR_BEST_MATCH : Nat := 13
def VARIANT_MAJOR_EXACT_MATCH : Nat := 14
def VERSION_BEST_MATCH : Nat := 15
def VERSION_EXACT_MATCH : Nat := 16
def FOUNDRYID_DEFAULT_MATCH : Nat := 17
def FOUNDRYID_EXACT_MATCH : Nat := 18
def PMIC_MATCH_DEFAULT_MODEL_IDX0 : Nat := 19
def PMIC_MATCH_EXACT_MODEL_IDX0 : Nat := 20
def HLOS_SUBTYPE_EXACT_MATCH : Nat := 51
def SUBTYPE_DEFAULT_MATCH : Nat := 52
def SUBTYPE_EXACT_MATCH : Nat := 53
def DDR_MATCH : Nat := 54
def VARIANT_MATCH : Nat := 55
def SOC_MATCH : Nat := 56

def PMIC_SHIFT_IDX : Nat := 2
def PMIC_IDX4 : Nat := 4
def MAX_PMIC_IDX : Nat := 15

def SOC_MASK : Nat := 0xffff
def VARIANT_MASK : Nat := 0xff
def VARIANT_MINOR_MASK : Nat := 0xff00
def VARIANT_MAJOR_MASK : Nat := 0xff0000
def PMIC_MODEL_MASK : Nat := 0xff
def PMIC_REV_MASK : Nat := 0xffffff00
def PLATFORM_SUBTYPE_SHIFT_ID : Nat := 24
def PLATFORM_FOUNDRY_SHIFT : Nat := 16
def FOUNDRY_ID_MASK : Nat := 0xff0000
def PLATFORM_SUBTYPE_MASK : Nat := 0xff
def OEM_ID_MASK : Nat := 0xff000000
def OEM_ID_SHIFT : Nat := 24
def DDR_MASK : Nat := 0x700

def PLAT_ID_SIZE : Nat := 8
def BOARD_ID_SIZE : Nat := 8

/-! ### The board -/

def EFI_PLATFORMINFO_TYPE_RUMI : Nat := 0x0F

structure Board where
  rawChipId : Nat
  chipVersion : Nat
  foundryId : Nat
  platform : Nat
  version : Nat
  subtype : Nat
  hlosSubType : Nat
  oemVariantId : Nat
  pmicModel : Nat → Nat
  pmicTarget : Nat → Nat

namespace Board

variable (b : Board)

def boardPmicModel (idx : Nat) : Nat :=
  if b.platform = EFI_PLATFORMINFO_TYPE_RUMI then 0 else b.pmicModel idx

def boardPmicTarget (idx : Nat) : Nat :=
  if b.platform = EFI_PLATFORMINFO_TYPE_RUMI then 0 else b.pmicTarget idx

def boardTargetId : Nat :=
  ((b.subtype &&& 0xff) <<< 24) ||| (((b.version >>> 16) &&& 0xff) <<< 16) |||
    ((b.version &&& 0xff) <<< 8) ||| (b.platform &&& 0xff)

end Board

/-! ### The PMICs of a tree -/

structure PmicIdInfo where
  dtPmicModel : Nat → Nat := fun _ => 0
  dtPmicRev : Nat → Nat := fun _ => 0
  dtMatchVal : Nat := 0

variable (board : Board)

/-- The bit for the model of a PMIC; none when it is neither the board's nor 0. -/
def pmicModelBit (idx model : Nat) : Option Nat :=
  if model = board.boardPmicModel idx then
    some (BIT (PMIC_MATCH_EXACT_MODEL_IDX0 + idx * PMIC_SHIFT_IDX))
  else if model = 0 then some (BIT (PMIC_MATCH_DEFAULT_MODEL_IDX0 + idx * PMIC_SHIFT_IDX))
  else none

/-- The bit for the revision of one of the first four PMICs; none when it is above the
board's. -/
def pmicRevBit (idx rev : Nat) : Option Nat :=
  if idx < PMIC_IDX4 then
    if rev = board.boardPmicTarget idx &&& PMIC_REV_MASK then
      some (BIT (PMIC_MATCH_EXACT_REV_IDX0 + idx * PMIC_SHIFT_IDX))
    else if rev < board.boardPmicTarget idx &&& PMIC_REV_MASK then
      some (BIT (PMIC_MATCH_BEST_REV_IDX0 + idx * PMIC_SHIFT_IDX))
    else none
  else some 0

/-- The inner loop of `ReadBestPmicMatch`: the PMICs of one alternative, from index `idx` on. -/
def readPmicEntry (board : Board) (blob : Bytes) (pmicProp : Nat) :
    Nat → Nat → PmicIdInfo → PmicIdInfo
  | 0, _, cur => cur
  | n + 1, idx, cur =>
    let word := blob.beU32At (pmicProp + 4 * idx)
    let rev := word &&& PMIC_REV_MASK
    let model := word &&& PMIC_MODEL_MASK
    let cur := { cur with
      dtPmicModel := Function.update cur.dtPmicModel idx model
      dtPmicRev := Function.update cur.dtPmicRev idx rev }
    match pmicModelBit board idx model with
    | none => { cur with dtMatchVal := BIT NONE_MATCH }
    | some bit =>
      let cur := { cur with dtMatchVal := cur.dtMatchVal ||| bit }
      match pmicRevBit board idx rev with
      | none => cur
      | some bit' =>
        readPmicEntry board blob pmicProp n (idx + 1)
          { cur with dtMatchVal := cur.dtMatchVal ||| bit' }

def betterPmic (pmicMaxIdx : Nat) (best cur : PmicIdInfo) : PmicIdInfo :=
  if best.dtMatchVal < cur.dtMatchVal then cur
  else if best.dtMatchVal = cur.dtMatchVal then
    (List.range pmicMaxIdx).foldl
      (fun best idx => if best.dtPmicRev idx < cur.dtPmicRev idx then cur else best) best
  else best

def readBestPmicMatch (blob : Bytes) (pmicProp pmicMaxIdx pmicEntCount : Nat) : PmicIdInfo :=
  (List.range pmicEntCount).foldl
    (fun best entIdx => betterPmic pmicMaxIdx best
      (readPmicEntry board blob (pmicProp + 4 * pmicMaxIdx * entIdx) pmicMaxIdx 0 {})) {}

/-! ### One tree -/

structure DtInfo where
  dtPlatformId : Nat := 0
  dtSocRev : Nat := 0
  dtFoundryId : Nat := 0
  dtVariantId : Nat := 0
  dtVariantMajor : Nat := 0
  dtVariantMinor : Nat := 0
  dtPlatformSubtype : Nat := 0
  dtOEMVariantId : Nat := 0
  dtPmicModel : Nat → Nat := fun _ => 0
  dtPmicRev : Nat → Nat := fun _ => 0
  dtMatchVal : Nat := 0
  /-- Address of the tree; 0 is `NULL`. -/
  dtb : Nat := 0

/-- A property that is a list of whole entries, as `qcom,msm-id` and `qcom,board-id` have to be. -/
def idPairs (size : Nat) (p : Option FdtProp) : Option FdtProp :=
  p.filter fun p => p.positive && p.len % size = 0

def versionBit (dt board exact best : Nat) : Nat :=
  if dt = board then BIT exact else if dt < board then BIT best else 0

/-- `GetPlatformMatchDtb` for the entry of `qcom,msm-id` at `platProp`: whether it returns
`EFI_SUCCESS`, and the record it leaves. -/
def getPlatformMatchDtb (blob : Bytes) (platProp : Nat) (cur : DtInfo) : Bool × DtInfo :=
  let platformId := blob.beU32At platProp
  let socRev := blob.beU32At (platProp + 4)
  let foundryId := platformId &&& FOUNDRY_ID_MASK
  if board.rawChipId &&& SOC_MASK = platformId &&& SOC_MASK then
    let version := versionBit socRev board.chipVersion VERSION_EXACT_MATCH VERSION_BEST_MATCH
    let val := cur.dtMatchVal ||| BIT SOC_MATCH ||| version
    let cur := { cur with
      dtPlatformId := platformId, dtSocRev := socRev, dtFoundryId := foundryId }
    if foundryId = u32 (board.foundryId <<< PLATFORM_FOUNDRY_SHIFT) then
      (true, { cur with dtMatchVal := val ||| BIT FOUNDRYID_EXACT_MATCH })
    else if foundryId = 0 then
      (true, { cur with dtMatchVal := val ||| BIT FOUNDRYID_DEFAULT_MATCH })
    else (false, { cur with dtMatchVal := BIT NONE_MATCH })
  else (false, { cur with dtPlatformId := platformId, dtMatchVal := BIT NONE_MATCH })

/-- The loop over the entries of `qcom,msm-id`: the record of the best entry. -/
def bestPlatform (board : Board) (blob : Bytes) : Nat → Nat → DtInfo → DtInfo → DtInfo
  | 0, _, _, temp => temp
  | n + 1, platProp, cur, temp =>
    match getPlatformMatchDtb board blob platProp { cur with dtMatchVal := 0 } with
    | (ok, cur) =>
      bestPlatform board blob n (platProp + PLAT_ID_SIZE) cur
        (if ok ∧ temp.dtMatchVal < cur.dtMatchVal then cur else temp)

/-- The subtype a `qcom,board-id` gives: its second word, or the upper byte of the first. -/
def dtSubtype (blob : Bytes) (boardProp : Nat) : Nat :=
  let subtype := blob.beU32At (boardProp + 4)
  if subtype = 0 then blob.beU32At boardProp >>> PLATFORM_SUBTYPE_SHIFT_ID else subtype

def getBoardMatchDtb (blob : Bytes) (boardProp : Nat) (cur : DtInfo) : Bool × DtInfo :=
  let word := blob.beU32At boardProp
  let variant := word &&& VARIANT_MASK
  let major := word &&& VARIANT_MAJOR_MASK
  let minor := word &&& VARIANT_MINOR_MASK
  let subtype := dtSubtype blob boardProp
  let cur := { cur with
    dtVariantId := variant, dtVariantMajor := major, dtVariantMinor := minor
    dtPlatformSubtype := subtype }
  if variant = board.platform ∨ variant = 0 then
    let val := cur.dtMatchVal |||
      (if variant = board.platform then BIT VARIANT_MATCH else 0) |||
      versionBit major (board.boardTargetId &&& VARIANT_MAJOR_MASK)
        VARIANT_MAJOR_EXACT_MATCH VARIANT_MAJOR_BEST_MATCH |||
      versionBit minor (board.boardTargetId &&& VARIANT_MINOR_MASK)
        VARIANT_MINOR_EXACT_MATCH VARIANT_MINOR_BEST_MATCH |||
      (if subtype = board.hlosSubType then BIT HLOS_SUBTYPE_EXACT_MATCH else 0)
    let ddr :=
      if subtype &&& DDR_MASK = board.hlosSubType &&& DDR_MASK then BIT DDR_MATCH else 0
    if subtype &&& PLATFORM_SUBTYPE_MASK = board.subtype then
      (true, { cur with dtMatchVal := val ||| BIT SUBTYPE_EXACT_MATCH ||| ddr })
    else if subtype &&& PLATFORM_SUBTYPE_MASK = 0 then
      (true, { cur with dtMatchVal := val ||| BIT SUBTYPE_DEFAULT_MATCH ||| ddr })
    else (false, { cur with dtMatchVal := BIT NONE_MATCH })
  else (false, { cur with dtMatchVal := BIT NONE_MATCH })

/-- How the matching of a tree ends early: at the label `cleanup`, or without a defined result
(a division by zero, an access past the end of an array, a look-up that does not end). -/
inductive DtbExit where
  | cleanup
  | undefined
  deriving Repr, DecidableEq

def getprop (blob : Bytes) (name : String) : Prog DtInfo DtbExit (Option FdtProp) :=
  match fdtGetprop blob name with
  | none => throw .undefined
  | some p => pure p

def matchPlatform (blob : Bytes) : Prog DtInfo DtbExit PUnit := do
  let platProp ← getprop blob "qcom,msm-id"
  match idPairs PLAT_ID_SIZE platProp with
  | none => pure ⟨⟩
  | some p => do
    modify fun cur => bestPlatform board blob (p.len / PLAT_ID_SIZE) p.data cur
      { cur with dtMatchVal := 0 }
    let cur ← get
    if cur.dtMatchVal = 0 then throw .cleanup else pure ⟨⟩

def matchBoard (blob : Bytes) : Prog DtInfo DtbExit PUnit := do
  let boardProp ← getprop blob "qcom,board-id"
  match idPairs BOARD_ID_SIZE boardProp with
  | none => pure ⟨⟩
  | some p => do
    let cur ← get
    modify fun _ => (getBoardMatchDtb board blob p.data cur).2
    if (getBoardMatchDtb board blob p.data cur).1 then pure ⟨⟩ else throw .cleanup

/-- `PmicMaxIdx * sizeof (UINT32)`, kept in an `INT32`: its absolute value. -/
def pmicEntSz (pmicMaxIdx : Nat) : Nat :=
  let size := u32 (4 * pmicMaxIdx)
  if size < 2 ^ 31 then size else 2 ^ 32 - size

/-- The number of PMICs of an alternative: what `qcom,pmic-id-size` says, or four. -/
def pmicMaxIdxOf (blob : Bytes) (sz : Option FdtProp) : Nat :=
  match sz.filter FdtProp.positive with
  | some p => blob.beU32At p.data
  | none => PMIC_IDX4

def DtInfo.withPmic (cur : DtInfo) (pmicMaxIdx : Nat) (best : PmicIdInfo) : DtInfo :=
  { cur with
    dtMatchVal := cur.dtMatchVal ||| best.dtMatchVal
    dtPmicModel := fun idx => if idx < pmicMaxIdx then best.dtPmicModel idx
      else cur.dtPmicModel idx
    dtPmicRev := fun idx => if idx < pmicMaxIdx then best.dtPmicRev idx else cur.dtPmicRev idx }

/-- The part about `qcom,pmic-id`.  `qcom,pmic-id-size` is not checked: 0 divides by zero, and
more than `MAX_PMIC_IDX` PMICs do not fit the arrays of the records. -/
def matchPmic (blob : Bytes) : Prog DtInfo DtbExit PUnit := do
  let pmicProp ← getprop blob "qcom,pmic-id"
  match pmicProp.filter FdtProp.positive with
  | none => pure ⟨⟩
  | some p => do
    let sz ← getprop blob "qcom,pmic-id-size"
    let pmicMaxIdx := pmicMaxIdxOf blob sz
    if pmicEntSz pmicMaxIdx = 0 then throw .undefined
    else if p.len % pmicEntSz pmicMaxIdx ≠ 0 then throw .cleanup
    else if MAX_PMIC_IDX < pmicMaxIdx then throw .undefined
    else
      let best := readBestPmicMatch board blob p.data pmicMaxIdx (p.len / pmicEntSz pmicMaxIdx)
      modify fun cur => cur.withPmic pmicMaxIdx best

/-- The OEM variant a `qcom,oem-id` gives.  The word is not converted by `fdt32_to_cpu`: its
upper byte is the last one of the property. -/
def dtOemVariant (blob : Bytes) (oemProp : Nat) : Nat :=
  (blob.u32At oemProp &&& OEM_ID_MASK) >>> OEM_ID_SHIFT

def matchOem (blob : Bytes) : Prog DtInfo DtbExit PUnit :=
  if board.oemVariantId = 0 then pure ⟨⟩
  else do
    let oemProp ← getprop blob "qcom,oem-id"
    match oemProp.filter FdtProp.positive with
    | none => modify fun cur =>
        { cur with dtMatchVal := cur.dtMatchVal ||| BIT OEM_FLAVOR_DEFAULT_MATCH }
    | some p => modify fun cur =>
        { cur with
          dtOEMVariantId := dtOemVariant blob p.data
          dtMatchVal := cur.dtMatchVal |||
            (if dtOemVariant blob p.data = board.oemVariantId then BIT OEM_FLAVOR_EXACT_MATCH
            else BIT NONE_MATCH) }

def matchDtb (blob : Bytes) : Prog DtInfo DtbExit PUnit := do
  matchPlatform board blob
  matchBoard board blob
  matchPmic board blob
  matchOem board blob

def supersedes (best cur : DtInfo) : Bool :=
  decide (best.dtSocRev < cur.dtSocRev) || decide (best.dtVariantMajor < cur.dtVariantMajor) ||
  decide (best.dtVariantMinor < cur.dtVariantMinor) ||
  decide (best.dtPmicRev 0 < cur.dtPmicRev 0) || decide (best.dtPmicRev 1 < cur.dtPmicRev 1) ||
  decide (best.dtPmicRev 2 < cur.dtPmicRev 2) || decide (best.dtPmicRev 3 < cur.dtPmicRev 3) ||
  decide (cur.dtPlatformSubtype < best.dtPlatformSubtype) ||
  decide (best.dtOEMVariantId < cur.dtOEMVariantId)

/-- `ReadDtbFindMatch` from the label `cleanup` on: whether a better tree is found, and the best
one. -/
def chooseBest (exactMatch : Nat) (cur best : DtInfo) : Bool × DtInfo :=
  if cur.dtMatchVal &&& BIT exactMatch ≠ 0 ∧
      (best.dtMatchVal < cur.dtMatchVal ∨
        best.dtMatchVal = cur.dtMatchVal ∧ supersedes best cur = true) then (true, cur)
  else (false, best)

/-- `ReadDtbFindMatch`: whether a better tree is found, the record of the current tree and the
record of the best one. -/
def readDtbFindMatch (blob : Bytes) (exactMatch : Nat) (cur best : DtInfo) :
    Option (Bool × DtInfo × DtInfo) :=
  if fdtCheckHeader (fdtHeader blob) then
    match (matchDtb board blob).exec { cur with dtMatchVal := 0 } with
    | (.error .undefined, _) => none
    | (_, cur) => some ((chooseBest exactMatch cur best).1, cur, (chooseBest exactMatch cur best).2)
  else some (false, { cur with dtMatchVal := 0 }, best)

/-! ### The data for the hypervisor -/

def RTIC_ID_SIZE : Nat := 4
def RTIC_ID : Nat := 1

/-- `GetRticDtb`: the property whose data is handed to the hypervisor, if there is memory for a
copy.  No result when a look-up has none. -/
def getRticDtb (blob : Bytes) : Option (Option FdtProp) := do
  if fdtCheckHeader (fdtHeader blob) then
    let rticProp ← fdtGetprop blob "qcom,rtic-id"
    match idPairs RTIC_ID_SIZE rticProp with
    | none => return none
    | some p =>
      if blob.beU32At p.data ≠ RTIC_ID then return none
      else
        let mpDataProp ← fdtGetprop blob "MP_DATA"
        return mpDataProp.filter FdtProp.positive
  else return none

end OhMyAbl
