/-
  **Fields of a machine word.**

  A word is used as a record of bit fields, each given by a mask: setting or
  clearing one mask leaves every field that is disjoint from it alone.
-/
import Mathlib

namespace OhMyAbl.Bits

variable {w : Nat}

def test (a mask : BitVec w) : Bool := a &&& mask != 0

variable {m v : BitVec w}

theorem or_and_of_disjoint (h : m &&& v = 0) (a : BitVec w) : (a ||| m) &&& v = a &&& v := by
  apply BitVec.eq_of_getLsbD_eq
  intro i _
  have hi := congrArg (BitVec.getLsbD · i) h
  simp only [BitVec.getLsbD_and] at hi ⊢
  cases hm : m.getLsbD i <;> simp_all

theorem andNot_and_of_disjoint (h : m &&& v = 0) (a : BitVec w) : (a &&& ~~~m) &&& v = a &&& v := by
  apply BitVec.eq_of_getLsbD_eq
  intro i hlt
  have hi := congrArg (BitVec.getLsbD · i) h
  simp only [BitVec.getLsbD_and] at hi ⊢
  cases hm : m.getLsbD i <;> simp_all

theorem or_and_of_le (h : m &&& v = v) (a : BitVec w) : (a ||| m) &&& v = v := by
  apply BitVec.eq_of_getLsbD_eq
  intro i _
  have hi := congrArg (BitVec.getLsbD · i) h
  simp only [BitVec.getLsbD_and] at hi ⊢
  cases hv : v.getLsbD i <;> simp_all

theorem andNot_and_of_le (h : m &&& v = v) (a : BitVec w) : (a &&& ~~~m) &&& v = 0 := by
  apply BitVec.eq_of_getLsbD_eq
  intro i hlt
  have hi := congrArg (BitVec.getLsbD · i) h
  simp only [BitVec.getLsbD_and] at hi ⊢
  cases hv : v.getLsbD i <;> simp_all

theorem andNot_or_and (a b : BitVec w) : ((a &&& ~~~m) ||| b) &&& m = b &&& m := by
  apply BitVec.eq_of_getLsbD_eq
  intro i hlt
  simp only [BitVec.getLsbD_and, BitVec.getLsbD_or, BitVec.getLsbD_not]
  cases hm : m.getLsbD i <;> simp

end OhMyAbl.Bits
