/-
  **Which good images the loading threads accept.**

  On a device all of whose reads succeed, an image with the digest of its descriptor is accepted in
  every schedule for SHA-256 and an even number of bytes, but not for an odd number, for SHA-512
  (the verifier tests the wrong context) or for one byte (its first half is empty).
-/
import OhMyAbl.Avb.ParallelProgress
import OhMyAbl.Avb.ReadPartition
import OhMyAbl.Avb.SlotVerify

namespace OhMyAbl

open Prog

/-! ### Reading through `AvbReadFromPartition` -/

def avbRead (env : AvbReadEnv) (off size : Nat) (s : AvbReadState) : ReadResult :=
  let r := (avbReadFromPartition env off size).exec s
  ⟨match r.1 with | .ok result => result | .error _ => AvbIOResult.ERROR_IO,
    r.2.outNumRead, r.2.buffer⟩

section Reads

variable {env : AvbReadEnv} {off size : Nat}

theorem effectiveOffset_nat (partitionSize off : Nat) :
    effectiveOffset partitionSize off = off := by
  unfold effectiveOffset
  rfl

theorem avbRead_served (h : Served env off size) (s : AvbReadState) :
    (avbRead env off size s).result = .OK ∧
      ((ReadsSucceed env.handle.2 s.disk.ops
            (readCount env.handle.2 off (clampedSize env off size)) ∧
          (avbRead env off size s).numRead = clampedSize env off size ∧
          ∀ k < clampedSize env off size,
            (avbRead env off size s).data k = s.disk.contents (off + k)) ∨
        (¬ ReadsSucceed env.handle.2 s.disk.ops
            (readCount env.handle.2 off (clampedSize env off size)) ∧
          (avbRead env off size s).numRead = 0)) := by
  have hspec := avbReadFromPartition_served h s
  obtain ⟨r, s', hexec, rfl, hspec⟩ := wp_returns hspec
  rw [avbRead, hexec]
  obtain ⟨hall, hcomplete⟩ | hfail := hspec
  · exact ⟨rfl, Or.inl ⟨hall, hcomplete.counted, hcomplete.bytes⟩⟩
  · exact ⟨rfl, Or.inr hfail⟩

theorem avbRead_refused (h : ¬ Served env off size) (s : AvbReadState) :
    (avbRead env off size s).result ≠ .OK := by
  obtain ⟨r, s', hexec, hspec⟩ := wp_returns (avbReadFromPartition_refused h s)
  rw [avbRead, hexec]
  exact hspec

end Reads

/-- The partition reader of the threads: the `i`th call finds the device as `start i` has it. -/
def avbReader (env : AvbReadEnv) (contents : Bytes) (start : Nat → AvbReadState)
    (hstart : ∀ i, (start i).disk.contents = contents) : PartitionReader where
  partition := contents
  read := fun i off size => avbRead env off size (start i)
  read_ok := by
    intro i off size hok hnum k hk
    by_cases hserved : Served env off size
    · obtain ⟨-, ⟨-, hcounted, hbytes⟩ | ⟨-, hzero⟩⟩ := avbRead_served hserved (start i)
      · rw [hbytes k (by omega), hstart i]
      · omega
    · exact absurd hok (avbRead_refused hserved (start i))

/-- Every read of the device succeeds, and so does what a call needs before it. -/
structure DeviceReads (renv : AvbReadEnv) : Prop where
  given : renv.given = true
  handle : renv.handle.1 = .OK
  page : renv.page = true
  outcome : ∀ i, renv.handle.2.outcome i = EFI_SUCCESS

variable {renv : AvbReadEnv} {hash : HashFns} {senv : SlotVerifyEnv}

theorem DeviceReads.read_iff (hreads : DeviceReads renv) (off size : Nat) (s : AvbReadState) :
    ((avbRead renv off size s).result = .OK ∧ (avbRead renv off size s).numRead = size) ↔
      size ≠ 0 ∧ off + size ≤ renv.handle.2.getPartitionSize := by
  constructor
  · rintro ⟨hok, hnum⟩
    have hserved : Served renv off size := by
      by_contra hnot
      exact avbRead_refused hnot s hok
    have hsize := hserved.numBytes
    obtain ⟨-, ⟨-, hcounted, -⟩ | ⟨-, hzero⟩⟩ := avbRead_served hserved s
    · rw [hnum, clampedSize, effectiveOffset_nat] at hcounted
      exact ⟨hsize, by omega⟩
    · omega
  · rintro ⟨hsize, hin⟩
    have hserved : Served renv off size :=
      { given := hreads.given
        numBytes := hsize
        handle := hreads.handle
        size := by omega
        negative := by omega
        inside := by
          rw [effectiveOffset_nat]
          omega
        page := hreads.page }
    obtain ⟨hok, ⟨-, hcounted, -⟩ | ⟨hfail, -⟩⟩ := avbRead_served hserved s
    · rw [hcounted, clampedSize, effectiveOffset_nat]
      exact ⟨hok, by omega⟩
    · exact absurd (fun i _ => hreads.outcome _) hfail

/-! ### Good images -/

structure ServicesSucceed (env : ParallelEnv) : Prop where
  imageBuf : env.imageBuf = true
  infoPool : env.infoPool = true
  kernelProtocol : env.kernelProtocol = true
  createLoader : env.createLoader = true
  resumeLoader : env.resumeLoader = EFI_SUCCESS
  createVerifier : env.createVerifier = true
  resumeVerifier : env.resumeVerifier = EFI_SUCCESS

/-- An algorithm, and a digest of its length that the salt and the image have. -/
structure GoodImage (hash : HashFns) (desc : HashDescriptor) (image : List UInt8) : Prop where
  algorithm : desc.hashAlgorithm = ascii "sha256" ∨ desc.hashAlgorithm = ascii "sha512"
  length : desc.digest.length =
    if desc.hashAlgorithm = ascii "sha256" then AVB_SHA256_DIGEST_SIZE else AVB_SHA512_DIGEST_SIZE
  digest : desc.hashWith hash (desc.salt ++ image) = desc.digest

def halves (env : ParallelEnv) : List UInt8 :=
  env.reader.partition.slice 0 env.splitImageSize ++
    env.reader.partition.slice env.secondOffset env.secondSize

section Accepts

variable {env : ParallelEnv}

theorem halves_even (heven : env.imageSize % 2 = 0) :
    halves env = env.reader.partition.slice 0 env.imageSize := by
  have happ := Bytes.slice_append (f := env.reader.partition) (a := 0)
    (n := env.splitImageSize) (m := env.splitImageSize)
  have hoff : env.secondOffset = env.splitImageSize := by
    unfold ParallelEnv.secondOffset ParallelEnv.secondSize ParallelEnv.remainImageSize
    omega
  have hsize : env.secondSize = env.splitImageSize := by
    unfold ParallelEnv.secondSize ParallelEnv.remainImageSize
    omega
  have himage : env.splitImageSize + env.splitImageSize = env.imageSize := by
    unfold ParallelEnv.splitImageSize
    omega
  rw [Nat.zero_add, himage] at happ
  rw [halves, hoff, hsize]
  exact happ

theorem verdict_ok_iff (hfirst : firstStatus env = .OK) (hsecond : secondStatus env = .OK)
    (hlen : env.desc.digest.length = AVB_SHA256_DIGEST_SIZE) (buf : Bytes) :
    verdict env buf = .OK ↔ env.desc.isSha256 = true ∧
      env.hash.sha256 (env.desc.salt ++ halves env) = env.desc.digest := by
  have hslice : (bothLoaded env buf).slice env.secondOffset env.secondSize =
      env.reader.partition.slice env.secondOffset env.secondSize :=
    Bytes.slice_congr (loadPartitionToVerify_ok _ hsecond)
  unfold verdict
  rw [hslice, firstHashed_eq hfirst, List.append_assoc]
  change (if env.desc.isSha256 = true then finalSha256 env (env.desc.salt ++ halves env)
    else _) = _ ↔ _
  by_cases hsha : env.desc.isSha256 = true
  · rw [if_pos hsha, finalSha256, if_neg fun h => h hlen.symm]
    by_cases hdigest : env.hash.sha256 (env.desc.salt ++ halves env) = env.desc.digest
    · simp [hsha]
    · simp [hdigest]
  · simp [hsha]

theorem loadStatus_ok_iff {i off size : Nat} : loadStatus env i off size = .OK ↔
    (env.reader.read i off size).result = .OK ∧ (env.reader.read i off size).numRead = size := by
  unfold loadStatus
  by_cases hok : (env.reader.read i off size).result = .OK
  · by_cases hnum : (env.reader.read i off size).numRead = size
    · simp [hok]
    · simp [hok]
  · simp only [hok]
    split_ifs <;> simp

/-- The good images that the threads accept: SHA-256, both halves not empty, and an even number
    of bytes; an odd image must have a further byte behind it, and the digest also of what is
    taken for its halves. -/
structure SplitAccepted (env : ParallelEnv) (partitionSize : Nat) : Prop where
  sha256 : env.desc.isSha256 = true
  size : 2 ≤ env.imageSize
  odd : env.imageSize % 2 = 1 → env.imageSize + 1 ≤ partitionSize ∧
    env.hash.sha256 (env.desc.salt ++ halves env) = env.desc.digest

theorem GoodImage.isSha256_iff {hash : HashFns} {desc : HashDescriptor} {image : List UInt8}
    (hgood : GoodImage hash desc image) :
    desc.isSha256 = true ↔ desc.hashAlgorithm = ascii "sha256" := by
  unfold HashDescriptor.isSha256
  rcases hgood.algorithm with h | h <;> rw [h] <;> decide

theorem statusesOk_iff {renv : AvbReadEnv} {contents : Bytes} {start : Nat → AvbReadState}
    (hstart : ∀ i, (start i).disk.contents = contents)
    (hreader : env.reader = avbReader renv contents start hstart) (hreads : DeviceReads renv)
    (hgood : GoodImage env.hash env.desc (contents.slice 0 env.imageSize))
    (hinside : env.imageSize ≤ renv.handle.2.getPartitionSize) (buf : Bytes) :
    StatusesOk env buf ↔ SplitAccepted env renv.handle.2.getPartitionSize := by
  have hread : ∀ i off size, loadStatus env i off size = .OK ↔
      size ≠ 0 ∧ off + size ≤ renv.handle.2.getPartitionSize := by
    intro i off size
    rw [loadStatus_ok_iff, hreader]
    exact hreads.read_iff off size (start i)
  have hfirst : firstStatus env = .OK ↔ 2 ≤ env.imageSize := by
    rw [firstStatus, hread, ParallelEnv.splitImageSize]
    omega
  have hsecond : 2 ≤ env.imageSize → (secondStatus env = .OK ↔
      (env.imageSize % 2 = 1 → env.imageSize + 1 ≤ renv.handle.2.getPartitionSize)) := by
    intro hsize
    rw [secondStatus, hread, ParallelEnv.secondOffset, ParallelEnv.secondSize,
      ParallelEnv.remainImageSize, ParallelEnv.splitImageSize]
    omega
  have hlen : env.desc.isSha256 = true → env.desc.digest.length = AVB_SHA256_DIGEST_SIZE := by
    intro hsha
    rw [hgood.length, if_pos (hgood.isSha256_iff.mp hsha)]
  constructor
  · rintro ⟨h1, h2, h3⟩
    have hsize := hfirst.mp h1
    have hsha : env.desc.isSha256 = true := by
      by_contra hnot
      rw [verdict, if_neg hnot] at h3
      cases h3
    have hdigest := ((verdict_ok_iff h1 h2 (hlen hsha) buf).mp h3).2
    exact ⟨hsha, hsize, fun hodd => ⟨(hsecond hsize).mp h2 hodd, hdigest⟩⟩
  · rintro ⟨hsha, hsize, hodd⟩
    have h1 := hfirst.mpr hsize
    have h2 := (hsecond hsize).mpr fun h => (hodd h).1
    refine ⟨h1, h2, (verdict_ok_iff h1 h2 (hlen hsha) buf).mpr ⟨hsha, ?_⟩⟩
    by_cases hpar : env.imageSize % 2 = 1
    · exact (hodd hpar).2
    · have hdigest := hgood.digest
      rw [HashDescriptor.hashWith, if_pos hsha] at hdigest
      rw [halves_even (by omega), hreader]
      exact hdigest

end Accepts

/-! ### The sequential path -/

/-- The sequential path of `load_and_verify_hash_partition` works on the same partition through
    the same operation. -/
structure SamePartition (senv : SlotVerifyEnv) (part : List UInt8) (hash : HashFns)
    (renv : AvbReadEnv) (s : AvbReadState) : Prop where
  sequential : senv.loadVerifyInParallel = false
  hash : senv.hash = hash
  contents : senv.contents part = s.disk.contents
  alloc : senv.allocImage part = true
  read : ∀ size, senv.readFromPartition part size =
    ((avbRead renv 0 size s).result, (avbRead renv 0 size s).numRead)

theorem GoodImage.imageDigest_eq {desc : HashDescriptor} {image : List UInt8}
    (hgood : GoodImage hash desc image) (hhash : senv.hash = hash) :
    imageDigest senv desc image = some (desc.digest, desc.digest.length) := by
  have hdigest := hgood.digest
  have hlen := hgood.length
  unfold imageDigest
  rw [hhash]
  rcases hgood.algorithm with halg | halg
  · rw [HashDescriptor.hashWith, if_pos (hgood.isSha256_iff.mpr halg)] at hdigest
    rw [if_pos halg] at hlen
    rw [if_pos halg, hdigest, hlen]
  · have hne : ¬ desc.hashAlgorithm = ascii "sha256" := by
      rw [halg]
      decide
    rw [HashDescriptor.hashWith, if_neg fun h => hne (hgood.isSha256_iff.mp h)] at hdigest
    rw [if_neg hne] at hlen
    rw [if_neg hne, if_pos halg, hdigest, hlen]

theorem verifyHashImage_good {part : List UInt8} {s : AvbReadState}
    (hsame : SamePartition senv part hash renv s) (hreads : DeviceReads renv) {h : HashPartition}
    (hgood : GoodImage hash h.desc (s.disk.contents.slice 0 h.imageSize)) (hpos : h.imageSize ≠ 0)
    (hinside : h.imageSize ≤ renv.handle.2.getPartitionSize) (st : AvbState) :
    (verifyHashImage senv h part h.imageSize).exec st =
      (.ok (.OK, some ⟨h.partitionName, s.disk.contents, h.imageSize⟩), st) := by
  have hfull : loadFullPartition senv part h.imageSize = .OK := by
    obtain ⟨hok, hnum⟩ := (hreads.read_iff 0 h.imageSize s).mpr ⟨hpos, by omega⟩
    unfold loadFullPartition
    rw [hsame.read]
    simp [hsame.alloc, hok, hnum]
  have hne : h.desc.digest ≠ [] := by
    intro hnil
    have hlen := hgood.length
    rw [hnil] at hlen
    split_ifs at hlen <;> cases hlen
  unfold verifyHashImage
  simp [hsame.sequential, hfull, hsame.contents, hgood.imageDigest_eq hsame.hash, compareDigest,
    hne]

/-- **Which good images are accepted.**  With every read of the device and every service
    succeeding, the threads return `OK` in every schedule exactly for the images of
    `SplitAccepted`; the sequential path accepts every good image that is not empty. -/
theorem goodImage_accepted_iff (env : ParallelEnv) (renv : AvbReadEnv) (contents : Bytes)
    (start : Nat → AvbReadState) (hstart : ∀ i, (start i).disk.contents = contents)
    (hreader : env.reader = avbReader renv contents start hstart) (hreads : DeviceReads renv)
    (hservices : ServicesSucceed env)
    (hgood : GoodImage env.hash env.desc (contents.slice 0 env.imageSize))
    (hinside : env.imageSize ≤ renv.handle.2.getPartitionSize) (buf : Bytes) :
    (Accepts env buf ↔ SplitAccepted env renv.handle.2.getPartitionSize) ∧
      (env.imageSize ≠ 0 → ∀ (senv : SlotVerifyEnv) (part : List UInt8) (h : HashPartition)
        (i : Nat) (st : AvbState), SamePartition senv part env.hash renv (start i) →
        h.desc = env.desc → h.imageSize = env.imageSize →
        ∃ image, (verifyHashImage senv h part h.imageSize).exec st =
          (.ok (.OK, some image), st)) := by
  have halgorithm : env.desc.isSha256 = true ∨ env.desc.isSha512 = true := by
    rcases hgood.algorithm with h | h
    · exact Or.inl (hgood.isSha256_iff.mpr h)
    · right
      rw [HashDescriptor.isSha512, h]
      decide
  have hstarted : ThreadsStarted env :=
    ⟨⟨hservices.imageBuf, halgorithm, hservices.infoPool, hservices.kernelProtocol,
      hservices.createLoader, hservices.createVerifier⟩, hservices.resumeVerifier⟩
  constructor
  · rw [accepts_iff_statuses hstarted hservices.resumeLoader]
    exact statusesOk_iff hstart hreader hreads hgood hinside buf
  · intro hpos senv part h i st hsame hdesc hsize
    have hgood' : GoodImage env.hash h.desc ((start i).disk.contents.slice 0 h.imageSize) := by
      rw [hdesc, hsize, hstart i]
      exact hgood
    exact ⟨_, verifyHashImage_good hsame hreads hgood' (by omega) (by omega) st⟩

/-! ### Small images on a device of two blocks -/

def countingReader : PartitionReader :=
  avbReader (sampleRead fun _ => EFI_SUCCESS) sampleReadState.disk.contents
    (fun _ => sampleReadState) fun _ => rfl

def countingHash : HashFns where
  sha256 := fun m => (m ++ List.replicate 32 0).take 32
  sha512 := fun m => (m ++ List.replicate 64 0).take 64
  sha256_length := by
    intro m
    rw [List.length_take, List.length_append, List.length_replicate]
    exact Nat.min_eq_left (Nat.le_add_left 32 m.length)

/-- The first bytes of the partition as an image with the digest it should have. -/
def countingEnv (algorithm : String) (imageSize : Nat) : ParallelEnv where
  hash := countingHash
  reader := countingReader
  desc := ⟨ascii algorithm, [],
    if algorithm = "sha256" then countingHash.sha256 (countingReader.partition.slice 0 imageSize)
    else countingHash.sha512 (countingReader.partition.slice 0 imageSize)⟩
  imageSize := imageSize
  imageBuf := true
  kernelProtocol := true
  infoPool := true
  createLoader := true
  resumeLoader := EFI_SUCCESS
  createVerifier := true
  resumeVerifier := EFI_SUCCESS

theorem countingReads : DeviceReads (sampleRead fun _ => EFI_SUCCESS) :=
  ⟨rfl, rfl, rfl, fun _ => rfl⟩

theorem countingServices (algorithm : String) (imageSize : Nat) :
    ServicesSucceed (countingEnv algorithm imageSize) :=
  ⟨rfl, rfl, rfl, rfl, rfl, rfl, rfl⟩

/-- Two bytes with SHA-256 are accepted. -/
theorem goodImage_accepted_two :
    GoodImage countingHash (countingEnv "sha256" 2).desc (countingReader.partition.slice 0 2) ∧
      Accepts (countingEnv "sha256" 2) fun _ => 0 := by
  have hgood : GoodImage countingHash (countingEnv "sha256" 2).desc
      (countingReader.partition.slice 0 2) := ⟨by decide, by decide, by decide⟩
  have hsplit : SplitAccepted (countingEnv "sha256" 2) 16 :=
    ⟨by decide, by decide, fun h => absurd h (by decide)⟩
  exact ⟨hgood, (goodImage_accepted_iff _ _ _ _ (fun _ => rfl) rfl countingReads
    (countingServices _ _) hgood (by decide) _).1.mpr hsplit⟩

def RefusedGood (algorithm : String) (imageSize : Nat) : Prop :=
  GoodImage countingHash (countingEnv algorithm imageSize).desc
      (countingReader.partition.slice 0 imageSize) ∧
    ¬ Accepts (countingEnv algorithm imageSize) fun _ => 0

theorem refusedGood_of_not_split {algorithm : String} {imageSize : Nat}
    (hstarted : ThreadsStarted (countingEnv algorithm imageSize)) (hsize : imageSize ≤ 16)
    (hgood : GoodImage countingHash (countingEnv algorithm imageSize).desc
      (countingReader.partition.slice 0 imageSize))
    (hnot : ¬ SplitAccepted (countingEnv algorithm imageSize) 16) :
    RefusedGood algorithm imageSize := by
  refine ⟨hgood, fun haccepts => hnot ?_⟩
  rw [accepts_iff_statuses hstarted rfl] at haccepts
  exact (statusesOk_iff (fun _ => rfl) rfl countingReads hgood hsize _).mp haccepts

/-- Two bytes with SHA-512, and three bytes or one with SHA-256, are good images too, and are not
    accepted. -/
theorem good_images_refused :
    RefusedGood "sha512" 2 ∧ RefusedGood "sha256" 3 ∧ RefusedGood "sha256" 1 := by
  refine ⟨?_, ?_, ?_⟩
  · refine refusedGood_of_not_split ⟨⟨rfl, by decide, rfl, rfl, rfl, rfl⟩, rfl⟩ (by decide)
      ⟨by decide, by decide, by decide⟩ fun h => ?_
    exact absurd h.sha256 (by decide)
  · refine refusedGood_of_not_split ⟨⟨rfl, by decide, rfl, rfl, rfl, rfl⟩, rfl⟩ (by decide)
      ⟨by decide, by decide, by decide⟩ fun h => ?_
    exact absurd (h.odd rfl).2 (by decide)
  · refine refusedGood_of_not_split ⟨⟨rfl, by decide, rfl, rfl, rfl, rfl⟩, rfl⟩ (by decide)
      ⟨by decide, by decide, by decide⟩ fun h => ?_
    exact absurd h.size (by decide)

end OhMyAbl
