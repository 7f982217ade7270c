/-
  **What is recorded as the data of a boot partition.**

  `load_and_verify_hash_partition` sizes the buffer by the descriptor, or by the whole partition
  when errors are allowed, and records it for every result on which slot verification goes on.
  Which bytes are in it depends on how many of the loader's two reads have been made.
-/
import OhMyAbl.Avb.ParallelProgress
import OhMyAbl.Boot.TrustedKeys

namespace OhMyAbl

def bufferAfter (env : ParallelEnv) (buf : Bytes) : Nat → Bytes
  | 0 => buf
  | 1 => firstLoaded env buf
  | _ => bothLoaded env buf

/-- The `n`th read has put byte `k` of the partition in its place, or the buffer had it there
    before. -/
def Arrives (env : ParallelEnv) (buf : Bytes) (n k : Nat) : Prop :=
  if 1 ≤ n ∧ k < env.splitImageSize then
    (env.reader.read 0 0 env.splitImageSize).data k = env.reader.partition k
  else if 2 ≤ n ∧ env.secondOffset ≤ k ∧ k < env.secondOffset + env.secondSize then
    (env.reader.read 1 env.secondOffset env.secondSize).data (k - env.secondOffset) =
      env.reader.partition k
  else buf k = env.reader.partition k

/-- After how many reads a result can be returned on which slot verification goes on: after
    both, if the verifier gets to compare a SHA-256 digest; after any number, if the verifier
    cannot be resumed and the low word of the status reads as such a result. -/
inductive RecordedAfter (env : ParallelEnv) : Nat → Prop
  | compared (hstarted : ThreadsStarted env) (hloader : env.resumeLoader = EFI_SUCCESS)
      (hfirst : firstStatus env = .OK) (hsha : env.desc.isSha256 = true)
      (hlen : env.desc.digest.length = AVB_SHA256_DIGEST_SIZE) : RecordedAfter env 2
  | unresumed {n : Nat} (hcreated : ThreadsCreated env)
      (hverifier : env.resumeVerifier ≠ EFI_SUCCESS)
      (hgoes : resultShouldContinue (.ofStatus env.resumeVerifier) = true)
      (hloader : 1 ≤ n → env.resumeLoader = EFI_SUCCESS)
      (hfirst : 2 ≤ n → firstStatus env = .OK) (hn : n ≤ 2) : RecordedAfter env n

section Threads

variable {env : ParallelEnv} {buf : Bytes} {s : ParallelState}

theorem RecordedAfter.le_two {n : Nat} (h : RecordedAfter env n) : n ≤ 2 := by
  cases h with
  | compared => exact Nat.le_refl 2
  | unresumed _ _ _ _ _ hn => exact hn

theorem bufferAfter_iff {n k : Nat} (hn : n ≤ 2) :
    bufferAfter env buf n k = env.reader.partition k ↔ Arrives env buf n k := by
  have hoff : env.splitImageSize ≤ env.secondOffset := by
    unfold ParallelEnv.secondOffset ParallelEnv.secondSize
    omega
  have hfirst : firstLoaded env buf k = if k < env.splitImageSize then
      (env.reader.read 0 0 env.splitImageSize).data k else buf k := by
    simp [firstLoaded, loadPartitionToVerify, Bytes.overwrite]
  have hboth : bothLoaded env buf k =
      if env.secondOffset ≤ k ∧ k < env.secondOffset + env.secondSize then
        (env.reader.read 1 env.secondOffset env.secondSize).data (k - env.secondOffset)
      else firstLoaded env buf k := rfl
  unfold Arrives
  match n with
  | 0 => simp [bufferAfter]
  | 1 =>
    rw [bufferAfter, hfirst]
    by_cases hk : k < env.splitImageSize <;> simp [hk]
  | 2 =>
    rw [bufferAfter, hboth, hfirst]
    · by_cases hk : k < env.splitImageSize
      · have hin : ¬ (env.secondOffset ≤ k ∧ k < env.secondOffset + env.secondSize) := by omega
        simp [hk, hin]
      · by_cases hin : env.secondOffset ≤ k ∧ k < env.secondOffset + env.secondSize
        · simp [hk, hin]
        · simp [hk, hin]
    · simp
    · simp
  | n + 3 => omega

theorem verdict_continues :
    resultShouldContinue (verdict env buf) = true ↔
      env.desc.isSha256 = true ∧ env.desc.digest.length = AVB_SHA256_DIGEST_SIZE := by
  unfold verdict finalSha256
  by_cases hsha : env.desc.isSha256 = true
  · by_cases hlen : AVB_SHA256_DIGEST_SIZE = env.desc.digest.length
    · rw [if_pos hsha, if_neg (not_not.mpr hlen)]
      split_ifs <;> simp [resultShouldContinue, hsha, hlen]
    · rw [if_pos hsha, if_pos hlen]
      simp only [resultShouldContinue, hsha, true_and, Bool.false_eq_true, false_iff]
      exact fun h => hlen h.symm
  · simp [hsha, resultShouldContinue]

theorem loadStatus_continues {i off size : Nat} (h : loadStatus env i off size ≠ .OK) :
    resultShouldContinue (loadStatus env i off size) = false := by
  unfold loadStatus at h ⊢
  dsimp only at h ⊢
  split_ifs at h ⊢
  · rfl
  · rfl
  · rfl
  · exact absurd rfl h

theorem ThreadInv.reads (hinv : ThreadInv env buf s) :
    ∃ n ≤ 2, s.imageBuf = bufferAfter env buf n ∧ (1 ≤ n → env.resumeLoader = EFI_SUCCESS) ∧
      (2 ≤ n → firstStatus env = .OK) := by
  have hbuffer := hinv.data.buffer
  have hresumed := hinv.load.resumed
  have hrunning := hinv.load.running
  rcases hl : s.loader with _ | _ | _ | _ | _ | _ | _ | _ <;>
    rw [hl] at hbuffer hresumed hrunning
  case notRunning | loadFirst => exact ⟨0, by omega, hbuffer, by omega, by omega⟩
  case postFirst | storeFirst | loadSecond =>
    exact ⟨1, by omega, hbuffer, fun _ => hresumed (by decide), by omega⟩
  case postSecond | storeSecond =>
    exact ⟨2, by omega, hbuffer, fun _ => hresumed (by decide),
      fun _ => hrunning (by decide) (by decide)⟩
  case exited =>
    by_cases hok : firstStatus env = .OK
    · rw [loadedAt, if_pos hok] at hbuffer
      exact ⟨2, by omega, hbuffer, fun _ => hresumed (by decide), fun _ => hok⟩
    · rw [loadedAt, if_neg hok] at hbuffer
      exact ⟨1, by omega, hbuffer, fun _ => hresumed (by decide), by omega⟩

theorem ThreadInv.recorded (hinv : ThreadInv env buf s) {r : AvbSlotVerifyResult}
    (hm : s.main = .returned r) (hr : resultShouldContinue r = true) :
    ∃ n, RecordedAfter env n ∧ s.imageBuf = bufferAfter env buf n := by
  cases hinv.data.returned r hm with
  | refused _ h => rcases h with rfl | rfl <;> cases hr
  | unresumed hcreated hne h _ =>
    obtain ⟨n, hn, hbuf, hloader, hfirst⟩ := hinv.reads
    rw [h] at hr
    exact ⟨n, .unresumed hcreated hne hr hloader hfirst hn, hbuf⟩
  | load _ _ h hne =>
    rw [h] at hr hne
    rw [secondStatus, loadStatus_continues hne] at hr
    cases hr
  | verify hstarted hv h =>
    rw [h, verdict_continues] at hr
    obtain ⟨hfirst, hl⟩ := hinv.load.first_waited (by rw [hv]; decide)
    have hl6 := hinv.load.second_waited (by rw [hv]; decide)
    have hbuf := hinv.data.buffer
    rw [loadedAt_both hfirst (by omega)] at hbuf
    exact ⟨2, .compared ⟨hstarted.1, hstarted.2⟩ (hinv.load.resumed (by omega)) hfirst hr.1 hr.2,
      hbuf⟩

/-- The state in which the loader has been created and nothing else has been done. -/
def ParallelState.loading (env : ParallelEnv) (buf : Bytes) : ParallelState :=
  { ParallelState.init buf with
    main := .createVerifier
    loader := if env.resumeLoader = EFI_SUCCESS then .loadFirst else .notRunning
    hashCtx := env.desc.salt }

theorem run_loading (hcreated : ThreadsCreated env) (buf : Bytes) :
    (loadAndVerifyBootHashPartition env).run (.init buf) [.main, .main] =
      some (.loading env buf) := by
  obtain ⟨h1, h2, h3, h4, h5, -⟩ := hcreated
  have halg : (!env.desc.isSha256 && !env.desc.isSha512) = false := by
    rcases h2 with h2 | h2 <;> simp [h2]
  simp [Machine.run, loadAndVerifyBootHashPartition, mainStep, ParallelState.init, h1, halg, h3, h4,
    h5, ParallelState.loading]

theorem exists_reads (hcreated : ThreadsCreated env) {n : Nat} (hn : n ≤ 2)
    (hloader : 1 ≤ n → env.resumeLoader = EFI_SUCCESS)
    (hfirst : 2 ≤ n → firstStatus env = .OK) (buf : Bytes) :
    ∃ schedule s, (loadAndVerifyBootHashPartition env).run (.init buf) schedule = some s ∧
      s.main = .createVerifier ∧ s.imageBuf = bufferAfter env buf n := by
  have hrun := run_loading hcreated buf
  have hinv := run_threadInv hrun
  match n with
  | 0 => exact ⟨_, _, hrun, rfl, rfl⟩
  | 1 =>
    have hpc : (ParallelState.loading env buf).loader = .loadFirst := by
      simp [ParallelState.loading, hloader (Nat.le_refl 1)]
    have hstep : ∃ s, loaderStep env (.loading env buf) = some s ∧ s.main = .createVerifier ∧
        s.imageBuf = firstLoaded env buf := by
      unfold loaderStep
      simp only [hpc]
      split_ifs
      · exact ⟨_, rfl, rfl, rfl⟩
      · exact ⟨_, rfl, rfl, rfl⟩
    obtain ⟨s, hs, hm, hbuf⟩ := hstep
    have hone : (loadAndVerifyBootHashPartition env).run (.loading env buf) [.loader] = some s :=
      Machine.run_cons.mpr ⟨s, hs, rfl⟩
    exact ⟨_, s, Machine.run_append.mpr ⟨_, hrun, hone⟩, hm, hbuf⟩
  | 2 =>
    have hok := hfirst (Nat.le_refl 2)
    have hl : (ParallelState.loading env buf).loader.rank = 1 := by
      simp [ParallelState.loading, hloader (by decide)]
    obtain ⟨sched, s, hrest, hinv', hm, -, hl'⟩ :=
      loader_reaches hinv hok (by omega) (by omega : _ ≤ 5) (by decide)
    have hbuf := hinv'.data.buffer
    rw [loadedAt_both hok (by omega)] at hbuf
    exact ⟨_, s, Machine.run_append.mpr ⟨_, hrun, hrest⟩, hm, hbuf⟩
  | n + 3 => omega

theorem RecordedAfter.reached {n : Nat} (h : RecordedAfter env n) (buf : Bytes) :
    ∃ schedule s r, (loadAndVerifyBootHashPartition env).run (.init buf) schedule = some s ∧
      s.main = .returned r ∧ resultShouldContinue r = true ∧
      s.imageBuf = bufferAfter env buf n := by
  cases h with
  | compared hstarted hloader hfirst hsha hlen =>
    -- the main thread is faster than the loader's last store
    obtain ⟨sched, s, hrun, hm, -, -, hbuf⟩ :=
      exists_return hstarted hloader hfirst (Nat.le_refl 6) (by decide) buf
    exact ⟨sched, s, _, hrun, hm, verdict_continues.mpr ⟨hsha, hlen⟩, hbuf⟩
  | unresumed hcreated hverifier hgoes hloader hfirst hn =>
    obtain ⟨sched, s, hrun, hm, hbuf⟩ := exists_reads hcreated hn hloader hfirst buf
    have hstep : loadAndVerifyBootHashPartition env s .main =
        some { s with main := .returned (.ofStatus env.resumeVerifier) } := by
      simp [loadAndVerifyBootHashPartition, mainStep, hm, hcreated.createVerifier, if_pos hverifier]
    have hone : (loadAndVerifyBootHashPartition env).run s [.main] = _ :=
      Machine.run_cons.mpr ⟨_, hstep, rfl⟩
    exact ⟨_, _, _, Machine.run_append.mpr ⟨_, hrun, hone⟩, rfl, hgoes, hbuf⟩

end Threads

/-! ### The recorded entry -/

/-- What the loader asks of the kernel and of the pool for the two threads. -/
structure ThreadServices where
  kernelProtocol : Bool
  infoPool : Bool
  createLoader : Bool
  resumeLoader : EfiStatus
  createVerifier : Bool
  resumeVerifier : EfiStatus

/-- The call of `LoadAndVerifyBootHashPartition` for a hash descriptor: with the image size of
    the descriptor, and a buffer that could be allocated. -/
def SlotVerifyEnv.parallelEnv (senv : SlotVerifyEnv) (h : HashPartition) (reader : PartitionReader)
    (services : ThreadServices) : ParallelEnv where
  hash := senv.hash
  reader := reader
  desc := h.desc
  imageSize := h.imageSize
  imageBuf := true
  kernelProtocol := services.kernelProtocol
  infoPool := services.infoPool
  createLoader := services.createLoader
  resumeLoader := services.resumeLoader
  createVerifier := services.createVerifier
  resumeVerifier := services.resumeVerifier

def SlotVerifyEnv.withThreads (senv : SlotVerifyEnv) (r : AvbSlotVerifyResult) (buf : Bytes) :
    SlotVerifyEnv :=
  { senv with
    loadVerifyInParallel := true
    loadAndVerifyBootHashPartition := fun _ _ => (r, buf) }

/-- The descriptor is valid, the partition is asked for, and its size and a buffer are found. -/
structure Loadable (senv : SlotVerifyEnv) (req : SlotVerifyRequest) (h : HashPartition)
    (part : List UInt8) : Prop where
  valid : h.valid = true
  utf8 : senv.validUtf8 h.partitionName = true
  requested : req.requestedPartitions.contains h.partitionName = true
  size : (hashImageSize senv req h part).1 = .OK
  alloc : senv.allocImage part = true

section Recorded

variable {senv : SlotVerifyEnv} {req : SlotVerifyRequest} {h : HashPartition} {part : List UInt8}

theorem verifyHashPartition_threads (hname : hashPartitionName req h = some part)
    (hboot : strnCmp (ascii "boot") part 4 = true) (r : AvbSlotVerifyResult) (buf : Bytes)
    (st : AvbState) :
    ∃ ret image, (verifyHashPartition (senv.withThreads r buf) req h).exec st =
        (.ok (ret, image), st) ∧
      (Loadable senv req h part →
        ret = r ∧ image = some ⟨h.partitionName, buf, (hashImageSize senv req h part).2⟩) ∧
      (¬ Loadable senv req h part → image = none) := by
  have hsize : hashImageSize (senv.withThreads r buf) req h part = hashImageSize senv req h part :=
    rfl
  have hutf8 : (senv.withThreads r buf).validUtf8 = senv.validUtf8 := rfl
  unfold verifyHashPartition
  rw [hname, hutf8]
  dsimp only
  rw [hsize]
  by_cases hbad : (!h.valid || !senv.validUtf8 h.partitionName) = true
  · rw [if_pos hbad]
    refine ⟨_, _, rfl, fun hload => ?_, fun _ => rfl⟩
    simp [hload.valid, hload.utf8] at hbad
  by_cases hreq : (!req.requestedPartitions.contains h.partitionName) = true
  · rw [if_neg hbad, if_pos hreq]
    refine ⟨_, _, rfl, fun hload => ?_, fun _ => rfl⟩
    rw [hload.requested] at hreq
    cases hreq
  by_cases hok : (hashImageSize senv req h part).1 ≠ .OK
  · rw [if_neg hbad, if_neg hreq, if_pos hok]
    exact ⟨_, _, rfl, fun hload => absurd hload.size hok, fun _ => rfl⟩
  rw [if_neg hbad, if_neg hreq, if_neg hok]
  unfold verifyHashImage
  rw [if_pos (by simp [SlotVerifyEnv.withThreads, hboot])]
  by_cases halloc : senv.allocImage part = true
  · rw [if_neg (by simp [SlotVerifyEnv.withThreads, halloc])]
    simp only [Bool.not_eq_true, Bool.or_eq_false_iff, Bool.not_eq_false'] at hbad
    have hload : Loadable senv req h part :=
      ⟨hbad.1, hbad.2, by simpa using hreq, not_not.mp hok, halloc⟩
    exact ⟨_, _, rfl, fun _ => ⟨rfl, rfl⟩, fun hnot => absurd hload hnot⟩
  · rw [if_pos (by simp [SlotVerifyEnv.withThreads, halloc])]
    exact ⟨_, _, rfl, fun hload => absurd hload.alloc halloc, fun _ => rfl⟩

theorem addLoadedPartition_loaded (p : AvbPartitionData) (ret : AvbSlotVerifyResult)
    (st : AvbState) :
    ((addLoadedPartition p ret).exec st).2.slotData.loadedPartitions =
      if st.slotData.loadedPartitions.length = MAX_NUMBER_OF_LOADED_PARTITIONS then
        st.slotData.loadedPartitions
      else st.slotData.loadedPartitions ++ [p] := by
  unfold addLoadedPartition
  rw [Prog.exec_bind, Prog.exec_get]
  dsimp only
  split_ifs <;> rfl

theorem loadAndVerifyHashPartition_records (hname : hashPartitionName req h = some part)
    (hboot : strnCmp (ascii "boot") part 4 = true) (r : AvbSlotVerifyResult) (buf : Bytes)
    (st : AvbState) (p : AvbPartitionData) :
    ((loadAndVerifyHashPartition (senv.withThreads r buf) req h).exec
        st).2.slotData.loadedPartitions = st.slotData.loadedPartitions ++ [p] ↔
      Loadable senv req h part ∧
        st.slotData.loadedPartitions.length ≠ MAX_NUMBER_OF_LOADED_PARTITIONS ∧
        resultShouldContinue r = true ∧
        p = ⟨h.partitionName, buf, (hashImageSize senv req h part).2⟩ := by
  obtain ⟨ret, image, hexec, hsome, hnone⟩ :=
    @verifyHashPartition_threads senv req h part hname hboot r buf st
  unfold loadAndVerifyHashPartition
  rw [Prog.exec_bind, hexec]
  by_cases hload : Loadable senv req h part
  · obtain ⟨rfl, rfl⟩ := hsome hload
    dsimp only
    by_cases hr : resultShouldContinue ret = true
    · rw [if_pos hr, addLoadedPartition_loaded]
      by_cases hroom : st.slotData.loadedPartitions.length = MAX_NUMBER_OF_LOADED_PARTITIONS
      · simp [hroom]
      · simp [hroom, hload, hr, eq_comm]
    · simp [hr]
  · rw [hnone hload]
    simp [hload]

/-- **The data of a boot partition.**  Whatever the schedule of the threads, the data recorded
    for a boot partition are its first bytes, exactly if every byte up to the recorded size has
    arrived after each number of reads at which an entry can be recorded. -/
theorem loadedBoot_iff (senv : SlotVerifyEnv) (req : SlotVerifyRequest) (h : HashPartition)
    (part : List UInt8) (hname : hashPartitionName req h = some part)
    (hboot : strnCmp (ascii "boot") part 4 = true) (reader : PartitionReader)
    (services : ThreadServices) (buf : Bytes) (st : AvbState) :
    (∀ schedule s r, (loadAndVerifyBootHashPartition (senv.parallelEnv h reader services)).run
          (.init buf) schedule = some s →
        s.main = .returned r → ∀ p : AvbPartitionData,
        ((loadAndVerifyHashPartition (senv.withThreads r s.imageBuf) req h).exec
          st).2.slotData.loadedPartitions = st.slotData.loadedPartitions ++ [p] →
        ∀ k < p.dataSize, p.data k = reader.partition k) ↔
      (Loadable senv req h part →
        st.slotData.loadedPartitions.length ≠ MAX_NUMBER_OF_LOADED_PARTITIONS →
        ∀ n, RecordedAfter (senv.parallelEnv h reader services) n →
          ∀ k < (hashImageSize senv req h part).2,
            Arrives (senv.parallelEnv h reader services) buf n k) := by
  constructor
  · intro hdata hload hroom n hn k hk
    obtain ⟨sched, s, r, hrun, hm, hr, hbuf⟩ := hn.reached buf
    have hentry := (loadAndVerifyHashPartition_records hname hboot r s.imageBuf st _).mpr
      ⟨hload, hroom, hr, rfl⟩
    rw [← bufferAfter_iff hn.le_two, ← hbuf]
    exact hdata sched s r hrun hm _ hentry k hk
  · intro hcond sched s r hrun hm p hp k hk
    obtain ⟨hload, hroom, hr, rfl⟩ :=
      (loadAndVerifyHashPartition_records hname hboot r s.imageBuf st p).mp hp
    obtain ⟨n, hn, hbuf⟩ := (run_threadInv hrun).recorded hm hr
    have hbyte := (bufferAfter_iff hn.le_two).mpr (hcond hload hroom n hn k hk)
    rw [hbuf]
    exact hbyte

end Recorded

/-! ### A partition of four bytes -/

def bootVerifyEnv : SlotVerifyEnv :=
  { recoveryVerifyEnv with
    hash := sampleHash
    getSizeOfPartition := fun _ => (.OK, 4) }

def bootRequest (allowVerificationError : Bool) : SlotVerifyRequest :=
  ⟨[ascii "boot"], [], allowVerificationError, false, false⟩

def bootImageHash (imageSize : Nat) (digest : List UInt8) : HashPartition :=
  ⟨true, ascii "boot", false, imageSize, ascii "sha256", [], digest⟩

theorem bootImageHash_name (allow : Bool) (imageSize : Nat) (digest : List UInt8) :
    hashPartitionName (bootRequest allow) (bootImageHash imageSize digest) =
      some (ascii "boot") := by
  have hsuffix : ¬ (digest = [] ∧ ([] : List UInt8) ≠ []) := fun h => h.2 rfl
  have hconcat : avbStrConcat (ascii "boot") [] = some (ascii "boot") := by decide
  exact (if_neg hsuffix).trans hconcat

def threadsRun : ThreadServices := ⟨true, true, true, EFI_SUCCESS, true, EFI_SUCCESS⟩

/-- On a locked device two bytes are loaded and two bytes are recorded. -/
theorem loadedBoot_two :
    let h := bootImageHash 2 (sampleSha256 (ascii "ab"))
    let reader := wholeReader (textBytes "abcd")
    ∀ schedule s r, (loadAndVerifyBootHashPartition
          (bootVerifyEnv.parallelEnv h reader threadsRun)).run (.init fun _ => 0)
            schedule = some s →
        s.main = .returned r → ∀ p : AvbPartitionData,
        ((loadAndVerifyHashPartition (bootVerifyEnv.withThreads r s.imageBuf) (bootRequest false)
          h).exec recoveryBoot.avb).2.slotData.loadedPartitions =
            recoveryBoot.avb.slotData.loadedPartitions ++ [p] →
        ∀ k < p.dataSize, p.data k = reader.partition k := by
  intro h reader
  refine (loadedBoot_iff bootVerifyEnv (bootRequest false) h (ascii "boot") (by decide)
    (by decide) reader threadsRun (fun _ => 0) recoveryBoot.avb).mpr fun _ _ n hn k hk => ?_
  have hk2 : k < 2 := hk
  cases hn with
  | compared =>
    have hbyte : k = 0 ∨ k = 1 := by omega
    unfold Arrives
    rcases hbyte with rfl | rfl
    · decide
    · decide
  | unresumed _ hverifier => exact absurd rfl hverifier

/-- Some schedule records a byte that is not the partition's, with the result `OK`. -/
def RecordsStale (allow : Bool) (h : HashPartition) (k : Nat) : Prop :=
  ∃ schedule s p, (loadAndVerifyBootHashPartition (bootVerifyEnv.parallelEnv h
        (wholeReader (textBytes "abcd")) threadsRun)).run (.init fun _ => 0) schedule = some s ∧
    s.main = .returned .OK ∧
    ((loadAndVerifyHashPartition (bootVerifyEnv.withThreads .OK s.imageBuf) (bootRequest allow)
      h).exec recoveryBoot.avb).2.slotData.loadedPartitions =
        recoveryBoot.avb.slotData.loadedPartitions ++ [p] ∧
    k < p.dataSize ∧ p.data k ≠ textBytes "abcd" k

theorem recordsStale_of_run {allow : Bool} {imageSize k : Nat} {digest : List UInt8}
    (hend : ((loadAndVerifyBootHashPartition (bootVerifyEnv.parallelEnv
      (bootImageHash imageSize digest) (wholeReader (textBytes "abcd")) threadsRun)).run
        (.init fun _ => 0) earlyReturn).map (fun s => (s.main, s.imageBuf k)) =
          some (.returned .OK, 0))
    (hk : k < (hashImageSize bootVerifyEnv (bootRequest allow) (bootImageHash imageSize digest)
      (ascii "boot")).2) (hbyte : 0 ≠ textBytes "abcd" k) :
    RecordsStale allow (bootImageHash imageSize digest) k := by
  have hrequested : [ascii "boot"].contains (ascii "boot") = true := by decide
  have hload : Loadable bootVerifyEnv (bootRequest allow) (bootImageHash imageSize digest)
      (ascii "boot") := by
    refine ⟨rfl, rfl, hrequested, ?_, rfl⟩
    unfold hashImageSize
    split_ifs <;> rfl
  obtain ⟨s, hrun, hs⟩ := Option.map_eq_some_iff.mp hend
  rw [Prod.mk.injEq] at hs
  have hentry := (loadAndVerifyHashPartition_records (bootImageHash_name _ _ _) (by decide) .OK
    s.imageBuf recoveryBoot.avb _).mpr ⟨hload, by decide, rfl, rfl⟩
  refine ⟨earlyReturn, s, _, hrun, hs.1, hentry, hk, ?_⟩
  show s.imageBuf k ≠ _
  rw [hs.2]
  exact hbyte

/-- When verification errors are allowed, four bytes are recorded and two of them loaded; on a
    locked device three bytes are recorded and the middle one is not loaded. -/
theorem loadedBoot_stale :
    RecordsStale true (bootImageHash 2 (sampleSha256 (ascii "ab"))) 2 ∧
      RecordsStale false (bootImageHash 3 (sampleSha256 (ascii "acd"))) 1 :=
  ⟨recordsStale_of_run (by decide) (by decide) (by decide),
    recordsStale_of_run (by decide) (by decide) (by decide)⟩

end OhMyAbl
