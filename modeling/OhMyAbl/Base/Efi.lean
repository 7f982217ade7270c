/-
  **The firmware vocabulary the boot loader is written in.**

  `EFI_STATUS` and its codes, the fixed-width arithmetic of the C sources with the
  overflow macros of `LinuxLoaderLib.h`, `BootLinux.h` and `UpdateDeviceTree.h`,
  and the ways in which a routine fails to return to its caller.
-/
import OhMyAbl.Lib.Prog

namespace OhMyAbl

/-! ### Status codes -/

/-- `EFI_STATUS`: zero is success, the top bit marks an error, the rest are warnings. -/
abbrev EfiStatus := BitVec 64

def encodeError (code : Nat) : EfiStatus := BitVec.ofNat 64 (2 ^ 63 + code)

def EFI_SUCCESS : EfiStatus := 0
def EFI_LOAD_ERROR : EfiStatus := encodeError 1
def EFI_INVALID_PARAMETER : EfiStatus := encodeError 2
def EFI_UNSUPPORTED : EfiStatus := encodeError 3
def EFI_BAD_BUFFER_SIZE : EfiStatus := encodeError 4
def EFI_BUFFER_TOO_SMALL : EfiStatus := encodeError 5
def EFI_NOT_READY : EfiStatus := encodeError 6
def EFI_DEVICE_ERROR : EfiStatus := encodeError 7
def EFI_OUT_OF_RESOURCES : EfiStatus := encodeError 9
def EFI_VOLUME_CORRUPTED : EfiStatus := encodeError 10
def EFI_VOLUME_FULL : EfiStatus := encodeError 11
def EFI_NO_MEDIA : EfiStatus := encodeError 12
def EFI_NOT_FOUND : EfiStatus := encodeError 14
def EFI_NOT_STARTED : EfiStatus := encodeError 19

def EFI_ERROR (status : EfiStatus) : Bool := status.msb

/-! ### Fixed-width arithmetic -/

def MAX_UINT32 : Nat := 0xFFFFFFFF
def MAX_UINT64 : Nat := 0xFFFFFFFFFFFFFFFF

def u32 (n : Nat) : Nat := n % 2 ^ 32

def u64 (n : Nat) : Nat := n % 2 ^ 64

def u64Sub (a b : Nat) : Nat := u64 (a + (2 ^ 64 - b))

def CHECK_ADD64 (a b : Nat) : Bool := decide (MAX_UINT64 - b < a)

def ADD_OF (a b : Nat) : Nat := if MAX_UINT32 - b > a then a + b else 0

/-- `ROUND_TO_PAGE`: round `x` up with the mask `y` (a power of two minus one). -/
def ROUND_TO_PAGE (x y : Nat) : Nat := ADD_OF x y &&& (MAX_UINT32 - y)

theorem checkAdd64_of_le {a b : Nat} (h : a + b ≤ MAX_UINT64) : ¬ CHECK_ADD64 a b = true := by
  simp only [CHECK_ADD64, decide_eq_true_eq]
  omega

theorem u64Sub_of_le {a b : Nat} (hb : b ≤ a) (ha : a < 2 ^ 64) : u64Sub a b = a - b := by
  simp only [u64Sub, u64]
  omega

/-! ### Texts -/

def ascii (text : String) : List UInt8 := text.toList.map fun c => UInt8.ofNat c.toNat

abbrev Text := List UInt16

def wide (text : String) : Text := text.toList.map fun c => UInt16.ofNat c.toNat

def asciiStrToUnicodeStr (text : List UInt8) : Text := text.map UInt8.toUInt16

def unicodeStrToAsciiStr (text : Text) : List UInt8 := text.map UInt16.toUInt8

/-- `StrnCmp (a, b, n) == 0`, and `AsciiStrnCmp`: no difference in the first `n` characters. -/
def strnCmp {α : Type} [DecidableEq α] (a b : List α) (n : Nat) : Bool :=
  decide (a.take n = b.take n)

theorem strnCmp_iff_start {α : Type} [DecidableEq α] {line p : List α} :
    strnCmp line p p.length = true ↔ p <+: line := by
  rw [strnCmp, decide_eq_true_iff, List.take_length, List.prefix_iff_eq_take]
  exact eq_comm

/-- `StrnCpyS` into an array of `size` characters: a text that does not fit is refused and
    leaves an empty string. -/
def strnCpyS {α : Type} (size : Nat) (src : List α) (n : Nat) : List α :=
  if (src.take n).length < size then src.take n else []

/-- `StrnCatS`: a text that does not fit is refused and leaves the string as it was. -/
def strnCatS {α : Type} (size : Nat) (dest src : List α) (n : Nat) : List α :=
  if dest.length + (src.take n).length < size then dest ++ src.take n else dest

theorem length_le_strnCatS {α : Type} (size : Nat) (dest src : List α) (n : Nat) :
    dest.length ≤ (strnCatS size dest src n).length := by
  unfold strnCatS
  split
  · rw [List.length_append]
    exact Nat.le_add_right _ _
  · exact Nat.le_refl _

/-! ### Verified boot version -/

inductive AvbVersion where
  | NO_AVB
  | AVB_1
  | AVB_2
  | AVB_LE
deriving DecidableEq, Repr

/-! ### Leaving without a return -/

inductive Exit where
  | reboot     -- `RebootDevice`, or a reset from inside a routine
  | shutdown   -- `ShutdownDevice`
  | hang       -- a loop whose step makes no progress
  | fault      -- a `NULL` dereference or a division by zero
deriving DecidableEq, Repr

end OhMyAbl
