/-
  **What the fastboot command handlers share.**

  A handler of `FastbootCmds.c` gets the text behind the name of its command, reads
  it with the string routines of the base library and answers with one terminal
  response.  The lists of partitions that are protected go by the start of a name.
-/
import OhMyAbl.Partition.Slots

namespace OhMyAbl

/-! ### Responses -/

inductive Response where
  | okay (text : String)
  | fail (text : String)
deriving DecidableEq, Repr

section Respond

variable {σ ε : Type}

def fastbootOkay (responses : Prog.Lens σ (List Response)) (text : String) : Prog σ ε PUnit :=
  modify fun s => responses.set s (responses.get s ++ [.okay text])

def fastbootFail (responses : Prog.Lens σ (List Response)) (text : String) : Prog σ ε PUnit :=
  modify fun s => responses.set s (responses.get s ++ [.fail text])

end Respond

/-! ### Strings -/

def strStr {α : Type} [DecidableEq α] : List α → List α → Option (List α)
  | [], sub => if sub = [] then some [] else none
  | c :: rest, sub => if sub.isPrefixOf (c :: rest) then some (c :: rest) else strStr rest sub

/-- The name of a partition after `UnicodeStrToAsciiStr`, up to a byte that is zero. -/
def PartitionEntry.asciiName (e : PartitionEntry) : List UInt8 :=
  (unicodeStrToAsciiStr e.partitionName).takeWhile (· ≠ 0)

/-! ### Protected partitions -/

inductive MergeStatus where
  | NONE_MERGE_STATUS
  | UNKNOWN_MERGE_STATUS
  | SNAPSHOTTED
  | MERGING
  | CANCELLED
deriving DecidableEq, Repr

def MergeStatus.code : MergeStatus → UInt8
  | .NONE_MERGE_STATUS => 0
  | .UNKNOWN_MERGE_STATUS => 1
  | .SNAPSHOTTED => 2
  | .MERGING => 3
  | .CANCELLED => 4

def CriticalPartitions : List Text :=
  [wide "abl", wide "rpm", wide "tz", wide "sdi", wide "xbl", wide "hyp", wide "pmic",
    wide "bootloader", wide "devinfo", wide "partition", wide "devcfg", wide "ddr", wide "frp",
    wide "cdt", wide "cmnlib", wide "cmnlib64", wide "keymaster", wide "mdtp", wide "aop",
    wide "multiimgoem", wide "secdata", wide "imagefv", wide "qupfw", wide "uefisecapp"]

def VirtualAbCriticalPartitions : List Text := [wide "misc", wide "metadata", wide "userdata"]

def startsWithAny (list : List Text) (name : Text) : Bool :=
  list.any fun p => strnCmp name p p.length

def isCriticalPartition (name : Text) : Bool := startsWithAny CriticalPartitions name

def checkVirtualAbCriticalPartition (status : UInt8) (name : Text) : Bool :=
  decide (status = MergeStatus.MERGING.code ∨ status = MergeStatus.SNAPSHOTTED.code) &&
    startsWithAny VirtualAbCriticalPartitions name

end OhMyAbl
