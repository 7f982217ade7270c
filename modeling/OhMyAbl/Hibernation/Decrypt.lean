/-
  **Decrypting the pages of a hibernation image.**

  `DecryptPage` decrypts a page in place with AES-GCM and compares as many bytes of the tag as
  `DecryptParam` says.  The cipher and the trusted application that unwraps the key are parameters.
-/
import OhMyAbl.Hibernation.Swap

namespace OhMyAbl

def memCmp (s1 s2 : List UInt8) (memSize : Nat) : Bool :=
  decide (s1.take memSize ≠ s2.take memSize)

/-! ### The IV -/

/-- The bytes of a counter, the lowest first, after the addition of `val`.  A carry out of the last
    byte would go to a byte outside the array. -/
def addCarry : List UInt8 → Nat → Option (List UInt8)
  | [], _ => none
  | byte :: bytes, val =>
    let num := u64 (byte.toNat + val)
    if num > 0xFF then (addCarry bytes (num / 2 ^ 8)).map (UInt8.ofNat num :: ·)
    else some (UInt8.ofNat num :: bytes)

def incrementIV (iv : List UInt8) (val : Nat) : Option (List UInt8) :=
  (addCarry iv.reverse val).map List.reverse

section Counter

/-- The number that a counter holds, the lowest byte first. -/
def counter (bytes : List UInt8) : Nat :=
  Nat.ofDigits 256 (bytes.map UInt8.toNat)

def ivValue (iv : List UInt8) : Nat :=
  counter iv.reverse

variable {byte : UInt8} {bytes iv iv' : List UInt8} {val : Nat}

@[simp] theorem counter_nil : counter [] = 0 := rfl

@[simp] theorem counter_cons : counter (byte :: bytes) = byte.toNat + 256 * counter bytes := by
  simp [counter, Nat.ofDigits_cons]

theorem counter_lt : counter bytes < 256 ^ bytes.length := by
  have hlt := Nat.ofDigits_lt_base_pow_length (b := 256) (l := bytes.map UInt8.toNat) (by decide)
    (by simpa using fun byte _ => UInt8.toNat_lt byte)
  simpa [counter] using hlt

/-- A value that does not wrap with the lowest byte is added, or its carry leaves the array. -/
theorem addCarry_spec (hval : (bytes.headD 0).toNat + val < 2 ^ 64) (hne : bytes = [] → 0 < val) :
    (addCarry bytes val = none ∧ 256 ^ bytes.length ≤ counter bytes + val) ∨
      ∃ sum, addCarry bytes val = some sum ∧ sum.length = bytes.length ∧
        counter sum = counter bytes + val := by
  induction bytes generalizing val with
  | nil => exact .inl ⟨rfl, by simpa [Nat.one_le_iff_ne_zero, Nat.pos_iff_ne_zero] using hne⟩
  | cons byte bytes ih =>
    have hhead := (bytes.headD 0).toNat_lt
    have hnum : u64 (byte.toNat + val) = byte.toNat + val := Nat.mod_eq_of_lt hval
    have hlow : (UInt8.ofNat (byte.toNat + val)).toNat = (byte.toNat + val) % 256 :=
      UInt8.toNat_ofNat'
    rw [counter_cons, List.length_cons, Nat.pow_succ, addCarry, hnum]
    split_ifs with hcarry
    · rcases @ih ((byte.toNat + val) / 2 ^ 8) (by rw [List.headD_cons] at hval; omega)
        fun _ => by omega with
        ⟨hnone, hle⟩ | ⟨sum, hsum, hlength, hvalue⟩
      · exact .inl ⟨by rw [hnone]; rfl, by omega⟩
      · refine .inr ⟨_, by rw [hsum]; rfl, by rw [List.length_cons, hlength], ?_⟩
        rw [counter_cons, hlow, hvalue]
        omega
    · refine .inr ⟨_, rfl, rfl, ?_⟩
      rw [counter_cons, hlow]
      omega

theorem reverse_eq_getLast_cons (hne : iv ≠ []) :
    iv.reverse = iv.getLast hne :: iv.dropLast.reverse := by
  conv_lhs => rw [← List.dropLast_append_getLast hne]
  rw [List.reverse_append]
  rfl

theorem incrementIV_spec (hne : iv ≠ []) (hval : (iv.getLast hne).toNat + val < 2 ^ 64) :
    (incrementIV iv val = none ∧ 256 ^ iv.length ≤ ivValue iv + val) ∨
      ∃ iv', incrementIV iv val = some iv' ∧ iv'.length = iv.length ∧
        ivValue iv' = ivValue iv + val := by
  have hhead : (iv.reverse.headD 0).toNat + val < 2 ^ 64 := by
    rwa [reverse_eq_getLast_cons hne]
  rcases addCarry_spec hhead fun h => absurd (List.reverse_eq_nil_iff.mp h) hne with
    ⟨hnone, hle⟩ | ⟨sum, hsum, hlength, hvalue⟩
  · exact .inl ⟨by rw [incrementIV, hnone]; rfl, by rwa [List.length_reverse] at hle⟩
  · refine .inr ⟨_, by rw [incrementIV, hsum]; rfl, by simpa using hlength, ?_⟩
    rw [ivValue, List.reverse_reverse, hvalue, ivValue]

/-- The counter after some steps: as long as before, and larger by their number. -/
def CountedOn (iv : List UInt8) (n : Nat) (iv' : List UInt8) : Prop :=
  iv'.length = iv.length ∧ ivValue iv' = ivValue iv + n

theorem CountedOn.trans {iv'' : List UInt8} {m n : Nat} (h : CountedOn iv m iv')
    (h' : CountedOn iv' n iv'') : CountedOn iv (m + n) iv'' :=
  ⟨h'.1.trans h.1, by rw [h'.2, h.2, Nat.add_assoc]⟩

theorem incrementIV_countedOn (hval : val < 2 ^ 63) (h : incrementIV iv val = some iv') :
    CountedOn iv val iv' := by
  have hne : iv ≠ [] := by
    rintro rfl
    exact nomatch h
  have hbyte := (iv.getLast hne).toNat_lt
  rcases incrementIV_spec hne (show _ + val < 2 ^ 64 by omega) with ⟨hnone, -⟩ | ⟨sum, hsum, hspec⟩
  · exact nomatch hnone.symm.trans h
  · cases hsum.symm.trans h
    exact hspec

/-- `Num` wraps: nothing is carried to the other bytes. -/
theorem incrementIV_wraps (hne : iv ≠ []) (hval : val < 2 ^ 64)
    (hwraps : 2 ^ 64 ≤ (iv.getLast hne).toNat + val) :
    ∃ iv', incrementIV iv val = some iv' ∧ iv'.length = iv.length ∧
      ivValue iv' + 2 ^ 64 = ivValue iv + val := by
  have hbyte := (iv.getLast hne).toNat_lt
  have hnum : u64 ((iv.getLast hne).toNat + val) = (iv.getLast hne).toNat + val - 2 ^ 64 := by
    unfold u64
    omega
  have hlow : (UInt8.ofNat ((iv.getLast hne).toNat + val - 2 ^ 64)).toNat =
      (iv.getLast hne).toNat + val - 2 ^ 64 := by
    rw [UInt8.toNat_ofNat']
    omega
  have hrev := reverse_eq_getLast_cons hne
  refine ⟨_, by rw [incrementIV, hrev, addCarry, hnum, if_neg (by omega), Option.map_some], ?_, ?_⟩
  · rw [List.length_reverse, List.length_cons, ← List.length_cons, ← hrev, List.length_reverse]
  · rw [ivValue, ivValue, List.reverse_reverse, hrev, counter_cons, counter_cons, hlow]
    omega

/-- The counter is right unless `Num` wraps for more than eight bytes or the carry leaves the
    array. -/
theorem incrementIV_adds_iff (iv : List UInt8) (hne : iv ≠ []) (val : UInt64) :
    (∃ iv', incrementIV iv val.toNat = some iv' ∧ iv'.length = iv.length ∧
        ivValue iv' = (ivValue iv + val.toNat) % 2 ^ (8 * iv.length)) ↔
      (2 ^ 64 ≤ (iv.getLast hne).toNat + val.toNat ∧ iv.length ≤ 8) ∨
      ((iv.getLast hne).toNat + val.toNat < 2 ^ 64 ∧
        ivValue iv + val.toNat < 2 ^ (8 * iv.length)) := by
  have hval := val.toNat_lt
  rw [Nat.pow_mul]
  by_cases hwraps : 2 ^ 64 ≤ (iv.getLast hne).toNat + val.toNat
  · obtain ⟨iv', hiv, hlength, hvalue⟩ := incrementIV_wraps hne hval hwraps
    have hlt : ivValue iv' < (2 ^ 8) ^ iv.length := by
      rw [← hlength, ← List.length_reverse]
      exact counter_lt
    have hdvd : (2 ^ 8) ^ iv.length ∣ 2 ^ 64 ↔ iv.length ≤ 8 := by
      rw [← Nat.pow_mul, Nat.pow_dvd_pow_iff_le_right (by decide)]
      omega
    have hmod : (ivValue iv' + 2 ^ 64) % (2 ^ 8) ^ iv.length = ivValue iv' % (2 ^ 8) ^ iv.length ↔
        iv.length ≤ 8 := Nat.add_modEq_left_iff.trans hdvd
    rw [hvalue, Nat.mod_eq_of_lt hlt] at hmod
    simp only [hiv, Option.some.injEq, exists_eq_left', hlength, true_and, hwraps,
      Nat.not_lt.mpr hwraps, false_and, or_false]
    exact eq_comm.trans hmod
  · have hlt := Nat.lt_of_not_le hwraps
    rcases incrementIV_spec hne hlt with ⟨hnone, hle⟩ | ⟨iv', hiv, hlength, hvalue⟩
    · simp only [hnone, hwraps, hlt, reduceCtorEq, false_and, exists_false, true_and, false_or,
        false_iff, Nat.not_lt]
      exact hle
    · have hsum : ivValue iv + val.toNat < (2 ^ 8) ^ iv.length := by
        rw [← hvalue, ← hlength, ← List.length_reverse]
        exact counter_lt
      simp only [hiv, Option.some.injEq, exists_eq_left', hlength, hvalue, hlt, hsum, true_and,
        or_true, iff_true]
      exact (Nat.mod_eq_of_lt hsum).symm

theorem incrementIV_adds_two_bytes :
    ∃ iv', incrementIV [0x01, 0xFF] (1 : UInt64).toNat = some iv' ∧ iv'.length = 2 ∧
      ivValue iv' = (ivValue [0x01, 0xFF] + (1 : UInt64).toNat) % 2 ^ (8 * 2) :=
  (incrementIV_adds_iff [0x01, 0xFF] (by decide) 1).mpr (.inr (by decide))

/-- The carry of a counter that is at its end goes to the byte at `Iv[0xFFFFFFFF]`. -/
theorem incrementIV_carries_out :
    incrementIV [0xFF] (1 : UInt64).toNat = none ∧
      ¬ ∃ iv', incrementIV [0xFF] (1 : UInt64).toNat = some iv' ∧ iv'.length = 1 ∧
        ivValue iv' = (ivValue [0xFF] + (1 : UInt64).toNat) % 2 ^ (8 * 1) := by
  have hnone : incrementIV [0xFF] (1 : UInt64).toNat = none := by decide
  refine ⟨hnone, ?_⟩
  rintro ⟨iv', h, -⟩
  cases h

end Counter

/-! ### DecryptPage -/

def CIPHER_AES_BLK_SIZE : Nat := 16

/-- The cipher of `Library/aes`: the plain text and the tag of a text, for a key, an IV and
    additional data, if none of its calls fails. -/
structure Gcm where
  decrypt : (key iv aad text : List UInt8) → Option (List UInt8 × List UInt8)
  plain_length : ∀ {key iv aad text plain tag}, decrypt key iv aad text = some (plain, tag) →
    plain.length = text.length
  tag_length : ∀ {key iv aad text plain tag}, decrypt key iv aad text = some (plain, tag) →
    tag.length = CIPHER_AES_BLK_SIZE

structure AesContext where
  gcm : Gcm
  unwrappedKey : List UInt8
  aad : List UInt8
  authsize : Nat
  /-- what `Authtags` points to -/
  authtags : Bytes

/-- What `DecryptPage` did: the IV, the text in `TempOut` if it came that far, and whether it
    succeeded. -/
structure Decryption where
  iv : List UInt8
  tempOut : Option (List UInt8)
  ok : Bool

/-- `DecryptPage`, for the tag at `auth`; there is no result if the IV leaves its array. -/
def decryptPage (aes : AesContext) (iv text : List UInt8) (auth : Nat) : Option Decryption :=
  (incrementIV iv 1).map fun iv =>
    match aes.gcm.decrypt aes.unwrappedKey iv aes.aad text with
    | none => ⟨iv, none, false⟩
    | some (plain, tag) =>
      -- `SW_Cipher_GetParam` refuses a tag that is too long
      if aes.authsize > CIPHER_AES_BLK_SIZE then ⟨iv, some plain, false⟩
      else if memCmp tag (aes.authtags.slice auth aes.authsize) aes.authsize then
        ⟨iv, some plain, false⟩
      else ⟨iv, some plain, true⟩

theorem decryptPage_ok {aes : AesContext} {iv text : List UInt8} {auth : Nat} {d : Decryption}
    (h : decryptPage aes iv text auth = some d) (hok : d.ok = true) :
    incrementIV iv 1 = some d.iv ∧ ∃ plain tag,
      aes.gcm.decrypt aes.unwrappedKey d.iv aes.aad text = some (plain, tag) ∧
      d.tempOut = some plain ∧ aes.authsize ≤ CIPHER_AES_BLK_SIZE ∧
      tag.take aes.authsize = aes.authtags.slice auth aes.authsize := by
  obtain ⟨iv', hiv, hd⟩ := Option.map_eq_some_iff.mp h
  split at hd
  · subst hd
    exact absurd hok Bool.false_ne_true
  · rename_i plain tag hplain
    split_ifs at hd with hlong hcmp
    · subst hd
      exact absurd hok Bool.false_ne_true
    · subst hd
      exact absurd hok Bool.false_ne_true
    · subst hd
      refine ⟨hiv, plain, tag, hplain, rfl, Nat.not_lt.mp hlong, ?_⟩
      have hsame := not_not.mp (of_decide_eq_false (Bool.not_eq_true _ ▸ hcmp))
      rw [hsame]
      exact List.take_of_length_le (Nat.le_of_eq Bytes.slice_length)

/-! ### InitAesDecrypt -/

def HDR_SWP_INFO_NUM_PAGES : Nat := 4
def WRAPPED_KEY_SIZE : Nat := 176

namespace DecryptParam

def authsize (dp : Bytes) : Nat := dp.u32At 0
def authCount (dp : Bytes) : Nat := dp.u32At 4
def keyBlob (dp : Bytes) : List UInt8 := dp.slice 8 WRAPPED_KEY_SIZE
def iv (dp : Bytes) : List UInt8 := dp.slice 184 12
def aad (dp : Bytes) : List UInt8 := dp.slice 196 12

def size : Nat := 208

end DecryptParam

/-- What the platform gives to `InitAesDecrypt`: the cipher, the pools it allocates, and the
    trusted application that unwraps the key. -/
structure AesPlatform where
  gcm : Gcm
  /-- what is in the pages that are allocated for the tags -/
  authtagPool : Option Bytes
  /-- the page frames of `TempOut` -/
  tempOut : Nat → Option Nat
  authCur : Nat → Bool
  unwrapKey : List UInt8 → Option (List UInt8)

def authslotStart (nrMetaPages nrCopyPages : Nat) : Nat :=
  u32 (nrMetaPages + nrCopyPages +
    u32 (nrCopyPages + nrMetaPages) / ENTRIES_PER_SWAPMAP_PAGE + HDR_SWP_INFO_NUM_PAGES)

/-- `InitAesDecrypt`, for `cores` threads: the context and the first IV.  The parameters are read
    with their size in bytes for a number of pages; of what the read puts behind them nothing is
    kept here. -/
def initAesDecrypt (swap : Swap) (platform : AesPlatform) (nrMetaPages nrCopyPages cores : Nat) :
    Prog Reads RestoreExit (AesContext × List UInt8) := do
  let start := authslotStart nrMetaPages nrCopyPages
  let (ret, dp) ← readImage swap (u32 (start + MAX_UINT32)) DecryptParam.size fun _ => 0
  if ret ≠ 0 then throw .failed
  else match platform.authtagPool with
    | none => throw .failed
    | some pool =>
      -- no pages can not be allocated
      if DecryptParam.authCount dp = 0 then throw .failed
      else do
        let (ret, authtags) ← readImage swap start (DecryptParam.authCount dp) pool
        if ret ≠ 0 then throw .failed
        else if (List.range cores).any fun i => (platform.tempOut i).isNone ||
          !platform.authCur i then
          throw .failed
        else match platform.unwrapKey (DecryptParam.keyBlob dp) with
          | none => throw .failed
          | some key =>
            return (⟨platform.gcm, key, DecryptParam.aad dp, DecryptParam.authsize dp, authtags⟩,
              DecryptParam.iv dp)

end OhMyAbl
