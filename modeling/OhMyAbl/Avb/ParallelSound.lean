/-
  **What a return of `LoadAndVerifyBootHashPartition` says about the image.**

  For an even split, a return of `OK` means that the image is loaded and has the digest of its
  descriptor.  For an odd one it does not.
-/
import OhMyAbl.Avb.Interleavings

namespace OhMyAbl

/-! ### Soundness of the even split -/

def HashDescriptor.hashWith (desc : HashDescriptor) (hash : HashFns) : List UInt8 → List UInt8 :=
  if desc.isSha256 then hash.sha256 else hash.sha512

/-- The image in the buffer is the image on the partition, and it has the digest of the
    descriptor. -/
def ImageVerified (env : ParallelEnv) (buf : Bytes) : Prop :=
  (∀ k < env.imageSize, buf k = env.reader.partition k) ∧
    env.desc.hashWith env.hash (env.desc.salt ++ buf.slice 0 env.imageSize) = env.desc.digest

/-- The inputs on which the two threads agree about what was loaded: an even size, a second
    read that succeeds, and no thread status whose low word reads as `OK`. -/
structure EvenSplit (env : ParallelEnv) : Prop where
  even : env.imageSize % 2 = 0
  second_ok : loadStatus env 1 env.secondOffset env.secondSize = .OK
  resume_ok : env.resumeVerifier ≠ EFI_SUCCESS →
    AvbSlotVerifyResult.ofStatus env.resumeVerifier ≠ .OK

section Soundness

variable {env : ParallelEnv} {s s' : ParallelState}

def PartitionVerified (env : ParallelEnv) : Prop :=
  env.desc.isSha256 = true ∧
    env.hash.sha256 (env.desc.salt ++ env.reader.partition.slice 0 env.imageSize) =
      env.desc.digest

theorem EvenSplit.secondOffset_eq (heven : EvenSplit env) :
    env.secondOffset = env.splitImageSize ∧ env.secondSize = env.splitImageSize ∧
      env.imageSize = env.splitImageSize + env.splitImageSize := by
  have h := heven.even
  unfold ParallelEnv.secondOffset ParallelEnv.secondSize ParallelEnv.remainImageSize
    ParallelEnv.splitImageSize
  omega

theorem finalSha256_ok {hashed : List UInt8} (h : finalSha256 env hashed = .OK) :
    env.hash.sha256 hashed = env.desc.digest := by
  unfold finalSha256 at h
  split_ifs at h with h₁ h₂
  exact not_not.mp h₂

theorem ThreadInv.first_loaded {buf : Bytes} (hinv : ThreadInv env buf s)
    (hok : firstStatus env = .OK) (hl : 2 ≤ s.loader.rank) :
    ∀ k < env.splitImageSize, s.imageBuf k = env.reader.partition k := by
  intro k hk
  have hread := loadPartitionToVerify_ok buf hok k hk
  rw [Nat.zero_add] at hread
  rw [hinv.data.buffer, loadedAt_first hok hl k hk]
  exact hread

theorem ThreadInv.second_loaded {buf : Bytes} (heven : EvenSplit env) (hinv : ThreadInv env buf s)
    (hok : firstStatus env = .OK) (hl : 5 ≤ s.loader.rank) :
    ∀ k < env.secondSize,
      s.imageBuf (env.secondOffset + k) = env.reader.partition (env.secondOffset + k) := by
  rw [hinv.data.buffer, loadedAt_both hok hl]
  exact loadPartitionToVerify_ok _ heven.second_ok

theorem EvenSplit.verified (heven : EvenSplit env) {buf : Bytes} (hok : firstStatus env = .OK)
    (hverdict : verdict env buf = .OK) : PartitionVerified env := by
  obtain ⟨hoff, hsize, himage⟩ := heven.secondOffset_eq
  unfold verdict at hverdict
  split_ifs at hverdict with hsha
  have hdigest := finalSha256_ok hverdict
  have hsecond : (bothLoaded env buf).slice env.secondOffset env.secondSize =
      env.reader.partition.slice env.secondOffset env.secondSize :=
    Bytes.slice_congr (loadPartitionToVerify_ok _ heven.second_ok)
  rw [hsecond, firstHashed_eq hok, List.append_assoc, hoff, hsize] at hdigest
  have happ := Bytes.slice_append (f := env.reader.partition) (a := 0)
    (n := env.splitImageSize) (m := env.splitImageSize)
  rw [Nat.zero_add] at happ
  rw [happ, ← himage] at hdigest
  exact ⟨hsha, hdigest⟩

theorem ThreadInv.returned_ok {buf : Bytes} (heven : EvenSplit env) (hinv : ThreadInv env buf s)
    (hret : s.main = .returned .OK) : s.verifier.rank = 7 ∧ verdict env buf = .OK := by
  cases hinv.data.returned _ hret with
  | refused _ hr => rcases hr with hr | hr <;> cases hr
  | unresumed _ hres hr _ => exact absurd hr.symm (heven.resume_ok hres)
  | load _ _ _ hr => exact absurd rfl hr
  | verify _ hv hr => exact ⟨by rw [hv]; rfl, hr.symm⟩

/-- **Soundness of the even split.**  When the image size is even, the second read succeeds
    and no thread status reads as `OK`, every interleaving in which the routine returns `OK`
    has the partition's image in the buffer, with the digest of the descriptor. -/
theorem loadAndVerify_sound (env : ParallelEnv) (heven : EvenSplit env) (buf : Bytes)
    (schedule : List ThreadId) (s : ParallelState)
    (hrun : (loadAndVerifyBootHashPartition env).run (.init buf) schedule = some s)
    (hok : s.main = .returned .OK) : ImageVerified env s.imageBuf := by
  obtain ⟨hoff, hsize, himage⟩ := heven.secondOffset_eq
  have hinv := run_threadInv hrun
  obtain ⟨hv, hverdict⟩ := hinv.returned_ok heven hok
  have hfirst := (hinv.load.first_waited (by omega)).1
  have hl := hinv.load.second_waited (by omega)
  have hload1 := hinv.first_loaded hfirst (by omega)
  have hload2 := hinv.second_loaded heven hfirst (by omega)
  have hbuf : ∀ k < env.imageSize, s.imageBuf k = env.reader.partition k := by
    intro k hk
    by_cases hk1 : k < env.splitImageSize
    · exact hload1 k hk1
    · have hk2 := hload2 (k - env.splitImageSize) (by omega)
      rwa [hoff, Nat.add_sub_cancel' (Nat.le_of_not_lt hk1)] at hk2
  obtain ⟨hsha, hdigest⟩ := heven.verified hfirst hverdict
  refine ⟨hbuf, ?_⟩
  have hslice : s.imageBuf.slice 0 env.imageSize =
      env.reader.partition.slice 0 env.imageSize := by
    refine Bytes.slice_congr fun k hk => ?_
    rw [Nat.zero_add]
    exact hbuf k hk
  rw [hslice, HashDescriptor.hashWith, if_pos hsha]
  exact hdigest

end Soundness

/-! ### Small images -/

def sampleSha256 (m : List UInt8) : List UInt8 :=
  if m = ascii "ab" then
    [251, 142, 32, 252, 46, 76, 63, 36, 140, 96, 195, 155, 214, 82, 243, 193,
     52, 114, 152, 187, 151, 123, 139, 77, 89, 3, 184, 80, 85, 98, 6, 3]
  else if m = ascii "acd" then
    [182, 71, 235, 31, 187, 14, 46, 41, 193, 77, 190, 29, 62, 214, 215, 6,
     235, 90, 226, 146, 224, 30, 171, 159, 28, 82, 224, 3, 169, 224, 138, 2]
  else if m = [97, 0, 99] then
    [177, 121, 244, 146, 131, 245, 134, 174, 25, 34, 182, 37, 175, 64, 23, 174,
     205, 247, 126, 126, 225, 117, 192, 175, 103, 90, 190, 161, 66, 82, 166, 102]
  else List.replicate 32 0

def sampleHash : HashFns where
  sha256 := sampleSha256
  sha512 := fun _ => List.replicate 64 0
  sha256_length := by
    intro m
    unfold sampleSha256
    split_ifs <;> rfl

def wholeReader (partition : Bytes) : PartitionReader where
  partition := partition
  read := fun _ off size => ⟨.OK, size, partition.shift off⟩
  read_ok := fun _ _ _ _ _ _ _ => rfl

/-- A partition whose second read fails and leaves `stale` where it was to put its bytes. -/
def staleReader (partition stale : Bytes) : PartitionReader where
  partition := partition
  read := fun i off size => if i = 0 then ⟨.OK, size, partition.shift off⟩ else
    .mk AvbIOResult.ERROR_IO 0 stale
  read_ok := by
    intro i off size h _ k _
    by_cases hi : i = 0
    · simp [hi]
    · simp [hi] at h

def sampleEnv (reader : PartitionReader) (imageSize : Nat) (digest : List UInt8) :
    ParallelEnv where
  hash := sampleHash
  reader := reader
  desc := ⟨ascii "sha256", [], digest⟩
  imageSize := imageSize
  imageBuf := true
  kernelProtocol := true
  infoPool := true
  createLoader := true
  resumeLoader := EFI_SUCCESS
  createVerifier := true
  resumeVerifier := EFI_SUCCESS

def textBytes (text : String) : Bytes := fun i => (ascii text).getD i 0

/-- A schedule in which the main thread returns before the loader has stored its last status. -/
def earlyReturn : List ThreadId :=
  [.main, .main, .main, .loader, .loader, .loader, .loader, .loader, .verifier, .verifier,
   .verifier, .verifier, .verifier, .verifier, .main, .main, .main]

/-- An image of two bytes is loaded and verified. -/
theorem loadAndVerify_sound_two :
    let env := sampleEnv (wholeReader (textBytes "ab")) 2 (sampleSha256 (ascii "ab"))
    ∃ s, (loadAndVerifyBootHashPartition env).run (.init fun _ => 0) earlyReturn = some s ∧
      s.main = .returned .OK ∧ ImageVerified env s.imageBuf := by
  intro env
  have hmain : ((loadAndVerifyBootHashPartition env).run (.init fun _ => 0) earlyReturn).map
      (·.main) = some (.returned .OK) := by decide
  obtain ⟨s, hrun, hok⟩ := Option.map_eq_some_iff.mp hmain
  exact ⟨s, hrun, hok, loadAndVerify_sound env ⟨by decide, by decide, fun h => absurd rfl h⟩ _
    earlyReturn s hrun hok⟩

/-- With three bytes the middle one is neither loaded nor hashed; with two bytes and a second
    read that fails, stale bytes are hashed and the loader's failure comes too late. -/
theorem loadAndVerify_accepts_unloaded :
    (let env := sampleEnv (wholeReader (textBytes "abcd")) 3 (sampleSha256 (ascii "acd"))
      ∃ s, (loadAndVerifyBootHashPartition env).run (.init fun _ => 0) earlyReturn = some s ∧
        s.main = .returned .OK ∧ ¬ ImageVerified env s.imageBuf) ∧
    (let env := sampleEnv (staleReader (textBytes "az") (textBytes "b")) 2
        (sampleSha256 (ascii "ab"))
      ∃ s, (loadAndVerifyBootHashPartition env).run (.init fun _ => 98) earlyReturn = some s ∧
        s.main = .returned .OK ∧ ¬ ImageVerified env s.imageBuf) := by
  constructor
  · intro env
    have hend : ((loadAndVerifyBootHashPartition env).run (.init fun _ => 0) earlyReturn).map
        (fun s => (s.main, s.imageBuf 1)) = some (.returned .OK, 0) := by decide
    obtain ⟨s, hrun, hs⟩ := Option.map_eq_some_iff.mp hend
    obtain ⟨hok, hbyte⟩ := Prod.mk.injEq .. ▸ hs
    refine ⟨s, hrun, hok, fun h => ?_⟩
    have hloaded := h.1 1 (by decide)
    rw [hbyte] at hloaded
    exact absurd hloaded (by decide)
  · intro env
    have hend : ((loadAndVerifyBootHashPartition env).run (.init fun _ => 98) earlyReturn).map
        (fun s => (s.main, s.imageBuf 1)) = some (.returned .OK, 98) := by decide
    obtain ⟨s, hrun, hs⟩ := Option.map_eq_some_iff.mp hend
    obtain ⟨hok, hbyte⟩ := Prod.mk.injEq .. ▸ hs
    refine ⟨s, hrun, hok, fun h => ?_⟩
    have hloaded := h.1 1 (by decide)
    rw [hbyte] at hloaded
    exact absurd hloaded (by decide)

end OhMyAbl
