/-
  **What holds in every interleaving of the loading threads.**

  The invariant has three parts: the loader against the verifier with the two semaphores between
  them, the main thread against both, and what the threads have written.
-/
import OhMyAbl.Avb.ParallelLoad

namespace OhMyAbl

def LoaderPc.rank : LoaderPc → Nat
  | .notRunning => 0
  | .loadFirst => 1
  | .postFirst => 2
  | .storeFirst => 3
  | .loadSecond => 4
  | .postSecond => 5
  | .storeSecond => 6
  | .exited => 7

def VerifierPc.rank : VerifierPc → Nat
  | .notRunning => 0
  | .waitFirst => 1
  | .hashFirst => 2
  | .waitSecond => 3
  | .hashSecond => 4
  | .store => 5
  | .postMain => 6
  | .exited => 7

def MainPc.rank : MainPc → Nat
  | .start => 0
  | .createLoader => 1
  | .createVerifier => 2
  | .wait => 3
  | .checkLoad => 4
  | .checkVerify => 5
  | .returned _ => 6
  | .faulted => 7

-- one rewrite rule per program point; the rank of a variable is left alone
attribute [simp] LoaderPc.rank.eq_1 LoaderPc.rank.eq_2 LoaderPc.rank.eq_3 LoaderPc.rank.eq_4
  LoaderPc.rank.eq_5 LoaderPc.rank.eq_6 LoaderPc.rank.eq_7 LoaderPc.rank.eq_8
attribute [simp] VerifierPc.rank.eq_1 VerifierPc.rank.eq_2 VerifierPc.rank.eq_3
  VerifierPc.rank.eq_4 VerifierPc.rank.eq_5 VerifierPc.rank.eq_6 VerifierPc.rank.eq_7
  VerifierPc.rank.eq_8
attribute [simp] MainPc.rank.eq_1 MainPc.rank.eq_2 MainPc.rank.eq_3 MainPc.rank.eq_4
  MainPc.rank.eq_5 MainPc.rank.eq_6 MainPc.rank.eq_7 MainPc.rank.eq_8

section Interleavings

section

variable (env : ParallelEnv) (buf : Bytes)

def firstStatus : AvbSlotVerifyResult := loadStatus env 0 0 env.splitImageSize
def secondStatus : AvbSlotVerifyResult := loadStatus env 1 env.secondOffset env.secondSize

def firstLoaded : Bytes := (loadPartitionToVerify env 0 0 env.splitImageSize buf).2
def bothLoaded : Bytes :=
  (loadPartitionToVerify env 1 env.secondOffset env.secondSize (firstLoaded env buf)).2

def firstHashed : List UInt8 :=
  env.desc.salt ++ (firstLoaded env buf).slice 0 env.splitImageSize

def verdict : AvbSlotVerifyResult :=
  if env.desc.isSha256 then
    finalSha256 env
      (firstHashed env buf ++ (bothLoaded env buf).slice env.secondOffset env.secondSize)
  else .ERROR_INVALID_ARGUMENT

structure ThreadsCreated : Prop where
  imageBuf : env.imageBuf = true
  algorithm : env.desc.isSha256 = true ∨ env.desc.isSha512 = true
  infoPool : env.infoPool = true
  kernelProtocol : env.kernelProtocol = true
  createLoader : env.createLoader = true
  createVerifier : env.createVerifier = true

/-- The loader against the verifier: what the two semaphores between them say. -/
structure LoadSems (s : ParallelState) : Prop where
  resumed : 1 ≤ s.loader.rank → env.resumeLoader = EFI_SUCCESS
  running : 2 ≤ s.loader.rank → s.loader.rank ≤ 6 → firstStatus env = .OK
  first_waited : 2 ≤ s.verifier.rank → firstStatus env = .OK ∧ 3 ≤ s.loader.rank
  second_waited : 4 ≤ s.verifier.rank → 6 ≤ s.loader.rank
  first_posted : s.semLoadFirst =
    if firstStatus env = .OK ∧ 3 ≤ s.loader.rank ∧ s.verifier.rank ≤ 1 then 1 else 0
  second_posted : s.semLoadSecond =
    if firstStatus env = .OK ∧ 6 ≤ s.loader.rank ∧ s.verifier.rank ≤ 3 then 1 else 0

structure MainSems (s : ParallelState) : Prop where
  loader_idle : s.main.rank ≤ 1 → s.loader.rank = 0
  verifier_idle : s.main.rank ≤ 2 → s.verifier.rank = 0
  loader_runs : 2 ≤ s.main.rank → s.main.rank ≤ 5 → env.resumeLoader = EFI_SUCCESS →
    1 ≤ s.loader.rank
  verifier_runs : s.main.rank = 3 → 1 ≤ s.verifier.rank
  main_waits : 1 ≤ s.verifier.rank → s.verifier.rank ≤ 6 → s.main.rank = 3
  main_posted : s.semMainThread = if s.verifier.rank = 7 ∧ s.main.rank ≤ 3 then 1 else 0
  main_waited : 4 ≤ s.main.rank → s.main.rank ≤ 5 → s.verifier.rank = 7

def loadedAt : LoaderPc → Bytes
  | .notRunning | .loadFirst => buf
  | .postFirst | .storeFirst | .loadSecond => firstLoaded env buf
  | .postSecond | .storeSecond => bothLoaded env buf
  | .exited => if firstStatus env = .OK then bothLoaded env buf else firstLoaded env buf

def Entered : MainPc → Prop
  | .start | .returned _ => True
  | .faulted => env.kernelProtocol = false
  | .createLoader => env.imageBuf = true ∧
      (env.desc.isSha256 = true ∨ env.desc.isSha512 = true) ∧ env.infoPool = true
  | .createVerifier => env.imageBuf = true ∧
      (env.desc.isSha256 = true ∨ env.desc.isSha512 = true) ∧ env.infoPool = true ∧
      env.kernelProtocol = true ∧ env.createLoader = true
  | .wait | .checkLoad | .checkVerify =>
      ThreadsCreated env ∧ env.resumeVerifier = EFI_SUCCESS

inductive ReturnsWith (v : VerifierPc) (r : AvbSlotVerifyResult) : Prop
  | refused (h : ¬ ThreadsCreated env) (hr : r = .ERROR_OOM ∨ r = .ERROR_INVALID_METADATA)
  | unresumed (h : ThreadsCreated env) (hr : env.resumeVerifier ≠ EFI_SUCCESS)
      (h' : r = .ofStatus env.resumeVerifier) (hv : v = .notRunning)
  | load (hstarted : ThreadsCreated env ∧ env.resumeVerifier = EFI_SUCCESS) (hv : v = .exited)
      (hr : r = secondStatus env) (hr' : r ≠ .OK)
  | verify (hstarted : ThreadsCreated env ∧ env.resumeVerifier = EFI_SUCCESS)
      (hv : v = .exited) (hr : r = verdict env buf)

structure DataInv (s : ParallelState) : Prop where
  buffer : s.imageBuf = loadedAt env buf s.loader
  loader_first : s.loader = .postFirst ∨ s.loader = .storeFirst → s.loaderStatus = .OK
  loader_second : s.loader = .postSecond ∨ s.loader = .storeSecond →
    s.loaderStatus = secondStatus env
  load_info : s.loadInfoStatus =
    if s.loader = .exited ∧ firstStatus env = .OK then secondStatus env else .OK
  ctx_salt : 1 ≤ s.main.rank → s.main.rank ≤ 5 → s.verifier.rank ≤ 2 → s.hashCtx = env.desc.salt
  ctx_first : 3 ≤ s.verifier.rank → s.verifier.rank ≤ 4 → s.hashCtx = firstHashed env buf
  stored : s.verifier.rank = 5 → s.verifierStatus = verdict env buf
  published : 6 ≤ s.verifier.rank → s.verifyInfoStatus = verdict env buf
  entered : Entered env s.main
  returned : ∀ r, s.main = .returned r → ReturnsWith env buf s.verifier r

end

variable {env : ParallelEnv} {buf : Bytes} {s s' : ParallelState}

theorem loadPartitionToVerify_ok {i off size : Nat} (buf : Bytes)
    (h : loadStatus env i off size = .OK) :
    ∀ k < size, (loadPartitionToVerify env i off size buf).2 (off + k) =
      env.reader.partition (off + k) := by
  intro k hk
  simp only [loadStatus] at h
  split_ifs at h with h₁ h₂ h₃
  show Bytes.overwrite buf off size _ (off + k) = _
  rw [Bytes.overwrite_inside (by omega) (by omega), Nat.add_sub_cancel_left]
  exact env.reader.read_ok i off size (not_not.mp h₂) (not_not.mp h₃) k hk

theorem loadPartitionToVerify_outside {i off size x : Nat} {buf : Bytes}
    (h : x < off ∨ off + size ≤ x) : (loadPartitionToVerify env i off size buf).2 x = buf x :=
  Bytes.overwrite_outside h

/-! What a step of each thread does to the program points and the semaphores. -/

structure MainMoved (env : ParallelEnv) (s s' : ParallelState) : Prop where
  rank : s'.main.rank = s.main.rank + 1 ∨
    6 ≤ s'.main.rank ∧ s.main.rank ≤ 5 ∧ s.main.rank ≠ 3
  loader : s'.loader.rank = if s.main.rank = 1 ∧ s'.main.rank = 2 then
    if env.resumeLoader = EFI_SUCCESS then 1 else 0 else s.loader.rank
  verifier : s'.verifier.rank = if s.main.rank = 2 ∧ s'.main.rank = 3 then 1 else s.verifier.rank
  semMain : s.semMainThread = s'.semMainThread + if s.main.rank = 3 then 1 else 0
  semFirst : s'.semLoadFirst = s.semLoadFirst
  semSecond : s'.semLoadSecond = s.semLoadSecond

structure LoaderMoved (env : ParallelEnv) (s s' : ParallelState) : Prop where
  main : s'.main = s.main
  verifier : s'.verifier = s.verifier
  runs : 1 ≤ s.loader.rank ∧ s.loader.rank ≤ 6
  rank : s'.loader.rank =
    if s.loader.rank = 1 ∧ firstStatus env ≠ .OK then 7 else s.loader.rank + 1
  semMain : s'.semMainThread = s.semMainThread
  semFirst : s'.semLoadFirst = s.semLoadFirst + if s.loader.rank = 2 then 1 else 0
  semSecond : s'.semLoadSecond = s.semLoadSecond + if s.loader.rank = 5 then 1 else 0

structure VerifierMoved (s s' : ParallelState) : Prop where
  main : s'.main = s.main
  loader : s'.loader = s.loader
  runs : 1 ≤ s.verifier.rank ∧ s.verifier.rank ≤ 6
  rank : s'.verifier.rank = s.verifier.rank + 1
  semMain : s'.semMainThread = s.semMainThread + if s.verifier.rank = 6 then 1 else 0
  semFirst : s.semLoadFirst = s'.semLoadFirst + if s.verifier.rank = 1 then 1 else 0
  semSecond : s.semLoadSecond = s'.semLoadSecond + if s.verifier.rank = 3 then 1 else 0

theorem mainStep_moved (h : mainStep env s = some s') : MainMoved env s s' := by
  unfold mainStep at h
  rcases hm : s.main with _ | _ | _ | _ | _ | _ | status | _ <;> simp only [hm] at h
  case returned | faulted => cases h
  case checkVerify =>
    cases h
    constructor <;> simp [hm]
  case wait =>
    split_ifs at h
    cases h
    constructor <;> simp [hm]
    omega
  case createLoader => split_ifs at h <;> cases h <;> constructor <;> simp_all
  all_goals split_ifs at h <;> cases h <;> constructor <;> simp [hm]

theorem loaderStep_moved (h : loaderStep env s = some s') : LoaderMoved env s s' := by
  unfold loaderStep at h
  rcases hl : s.loader with _ | _ | _ | _ | _ | _ | _ | _ <;> simp only [hl] at h
  case notRunning | exited => cases h
  case loadFirst =>
    have hpair : (loadPartitionToVerify env 0 0 env.splitImageSize s.imageBuf).1 =
      firstStatus env := rfl
    split_ifs at h with hst <;> cases h <;> rw [hpair] at hst <;> constructor <;> simp [hl, hst]
  all_goals
    cases h
    constructor <;> simp [hl]

theorem verifierStep_moved (h : verifierStep env s = some s') : VerifierMoved s s' := by
  unfold verifierStep at h
  rcases hv : s.verifier with _ | _ | _ | _ | _ | _ | _ | _ <;> simp only [hv] at h
  case notRunning | exited => cases h
  case waitFirst | waitSecond =>
    split_ifs at h
    cases h
    constructor <;> simp [hv]
    omega
  case hashSecond => split_ifs at h <;> cases h <;> constructor <;> simp [hv]
  all_goals
    cases h
    constructor <;> simp [hv]

/-! What the semaphores say is arithmetic on the program points. -/

theorem MainSems.mainStep (hinv : MainSems env s) (h : MainMoved env s s') : MainSems env s' := by
  obtain ⟨hrank, hl, hv, hsem, -, -⟩ := h
  obtain ⟨h1, h2, h3, h4, h5, h6, h7⟩ := hinv
  constructor <;> grind

theorem MainSems.loaderStep (hinv : MainSems env s) (h : LoaderMoved env s s') :
    MainSems env s' := by
  obtain ⟨hm, hv, hruns, hrank, hsem, -, -⟩ := h
  obtain ⟨h1, h2, h3, h4, h5, h6, h7⟩ := hinv
  constructor <;> grind

theorem MainSems.verifierStep (hinv : MainSems env s) (h : VerifierMoved s s') :
    MainSems env s' := by
  obtain ⟨hm, hl, hruns, hrank, hsem, -, -⟩ := h
  obtain ⟨h1, h2, h3, h4, h5, h6, h7⟩ := hinv
  constructor <;> grind

theorem LoadSems.mainStep (hinv : LoadSems env s) (hmain : MainSems env s)
    (h : MainMoved env s s') : LoadSems env s' := by
  obtain ⟨hrank, hl, hv, -, hf, hs⟩ := h
  obtain ⟨h1, h2, h3, h4, h5, h6⟩ := hinv
  have hloader := hmain.loader_idle
  have hverifier := hmain.verifier_idle
  constructor <;> grind

theorem LoadSems.loaderStep (hinv : LoadSems env s) (h : LoaderMoved env s s') :
    LoadSems env s' := by
  obtain ⟨-, hv, hruns, hrank, -, hf, hs⟩ := h
  obtain ⟨h1, h2, h3, h4, h5, h6⟩ := hinv
  by_cases hok : firstStatus env = .OK
  · constructor <;> grind
  · -- without the first half the loader has only just started
    constructor <;> grind

theorem LoadSems.verifierStep (hinv : LoadSems env s) (h : VerifierMoved s s') :
    LoadSems env s' := by
  obtain ⟨-, hl, hruns, hrank, -, hf, hs⟩ := h
  obtain ⟨h1, h2, h3, h4, h5, h6⟩ := hinv
  constructor <;> grind

/-! What the threads write. -/

theorem DataInv.returns (hinv : DataInv env buf s) {r : AvbSlotVerifyResult}
    (hret : ReturnsWith env buf s.verifier r) : DataInv env buf { s with main := .returned r } :=
  { hinv with
    ctx_salt := by simp
    entered := trivial
    returned := by
      rintro r ⟨⟩
      exact hret }

theorem DataInv.awaits (hinv : DataInv env buf s) (hm : 3 ≤ s.main.rank) (hm' : s.main.rank ≤ 5)
    {pc : MainPc} (hpc : Entered env pc) (hret : ∀ r, pc ≠ .returned r) (sem : Nat) :
    DataInv env buf { s with main := pc, semMainThread := sem } :=
  { hinv with
    ctx_salt := fun _ _ => hinv.ctx_salt (by omega) hm'
    entered := hpc
    returned := fun r hr => absurd hr (hret r) }

theorem ofStatus_notReady :
    AvbSlotVerifyResult.ofStatus EFI_NOT_READY = .ERROR_INVALID_METADATA := by decide

theorem DataInv.refuses (hinv : DataInv env buf s) (hno : ¬ ThreadsCreated env)
    {r : AvbSlotVerifyResult} (hr : r = .ERROR_OOM ∨ r = .ERROR_INVALID_METADATA) :
    DataInv env buf { s with main := .returned r } :=
  hinv.returns (.refused hno hr)

theorem LoaderPc.eq_notRunning {pc : LoaderPc} (h : pc.rank = 0) : pc = .notRunning := by
  cases pc <;> simp at h ⊢

theorem VerifierPc.eq_notRunning {pc : VerifierPc} (h : pc.rank = 0) : pc = .notRunning := by
  cases pc <;> simp at h ⊢

theorem VerifierPc.eq_exited {pc : VerifierPc} (h : pc.rank = 7) : pc = .exited := by
  cases pc <;> simp at h ⊢

/-- The hash begins with the salt, before the verifier has run. -/
theorem DataInv.salts (hinv : DataInv env buf s) (hv : s.verifier.rank = 0) {pc : MainPc}
    (hpc : Entered env pc) (hret : ∀ r, pc = .returned r → ReturnsWith env buf s.verifier r) :
    DataInv env buf { s with main := pc, hashCtx := env.desc.salt } :=
  { hinv with
    ctx_salt := fun _ _ _ => rfl
    ctx_first := fun hlo _ => by
      have : 3 ≤ s.verifier.rank := hlo
      omega
    entered := hpc
    returned := hret }

theorem mainStep_start (hmain : MainSems env s) (hinv : DataInv env buf s) (hm : s.main = .start)
    (h : mainStep env s = some s') : DataInv env buf s' := by
  have hv : s.verifier.rank = 0 := hmain.verifier_idle (by rw [hm]; decide)
  unfold mainStep at h
  simp only [hm] at h
  split_ifs at h with hbuf halg hpool <;> cases h
  · refine hinv.refuses (fun hc => ?_) (Or.inl rfl)
    simp [hc.imageBuf] at hbuf
  · refine hinv.refuses (fun hc => ?_) (Or.inr rfl)
    rcases hc.algorithm with h | h <;> simp [h] at halg
  · refine hinv.salts hv trivial ?_
    rintro r ⟨⟩
    refine .refused (fun hc => ?_) (Or.inl rfl)
    simp [hc.infoPool] at hpool
  · refine hinv.salts hv ⟨by simpa using hbuf, ?_, by simpa using hpool⟩ (by rintro r ⟨⟩)
    cases h1 : env.desc.isSha256 <;> cases h2 : env.desc.isSha512 <;> simp [h1, h2] at halg ⊢

theorem mainStep_createLoader (hmain : MainSems env s) (hinv : DataInv env buf s)
    (hm : s.main = .createLoader) (h : mainStep env s = some s') : DataInv env buf s' := by
  have hentered := hinv.entered
  rw [hm] at hentered
  obtain ⟨hbuf, halg, hpool⟩ := hentered
  have hl := LoaderPc.eq_notRunning (hmain.loader_idle (by rw [hm]; decide))
  have hmoved := hinv.buffer
  have hinfo := hinv.load_info
  rw [hl] at hmoved hinfo
  unfold mainStep at h
  simp only [hm] at h
  split_ifs at h with hk hc hres <;> cases h
  · exact { hinv with
      ctx_salt := by simp
      entered := by simpa [Entered] using hk
      returned := by rintro r ⟨⟩ }
  · refine hinv.refuses (fun hc' => ?_) (Or.inr ofStatus_notReady)
    simp [hc'.createLoader] at hc
  all_goals
    exact { hinv with
      buffer := hmoved
      loader_first := by simp
      loader_second := by simp
      load_info := by simpa using hinfo
      ctx_salt := fun _ _ => hinv.ctx_salt (by rw [hm]; decide) (by rw [hm]; decide)
      entered := ⟨hbuf, halg, hpool, by simpa using hk, by simpa using hc⟩
      returned := by rintro r ⟨⟩ }

theorem mainStep_createVerifier (hmain : MainSems env s) (hinv : DataInv env buf s)
    (hm : s.main = .createVerifier) (h : mainStep env s = some s') : DataInv env buf s' := by
  have hentered := hinv.entered
  rw [hm] at hentered
  obtain ⟨hbuf, halg, hpool, hk, hc⟩ := hentered
  have hv := VerifierPc.eq_notRunning (hmain.verifier_idle (by rw [hm]; decide))
  unfold mainStep at h
  simp only [hm] at h
  split_ifs at h with hcv hres <;> cases h
  · refine hinv.refuses (fun hc' => ?_) (Or.inr ofStatus_notReady)
    simp [hc'.createVerifier] at hcv
  · exact hinv.returns (.unresumed ⟨hbuf, halg, hpool, hk, hc, by simpa using hcv⟩ hres rfl hv)
  · exact { hinv with
      ctx_salt := fun _ _ _ =>
        hinv.ctx_salt (by rw [hm]; decide) (by rw [hm]; decide) (by rw [hv]; decide)
      ctx_first := by simp
      stored := by simp
      published := by simp
      entered := ⟨⟨hbuf, halg, hpool, hk, hc, by simpa using hcv⟩, not_not.mp hres⟩
      returned := by rintro r ⟨⟩ }

theorem mainStep_checkLoad (hmain : MainSems env s) (hinv : DataInv env buf s)
    (hm : s.main = .checkLoad) (h : mainStep env s = some s') : DataInv env buf s' := by
  have hentered := hinv.entered
  rw [hm] at hentered
  have hv := VerifierPc.eq_exited (hmain.main_waited (by rw [hm]; decide) (by rw [hm]; decide))
  have hinfo := hinv.load_info
  unfold mainStep at h
  simp only [hm] at h
  split_ifs at h with hst <;> cases h
  · have hsecond : s.loadInfoStatus = secondStatus env := by
      split_ifs at hinfo with hex
      · exact hinfo
      · exact absurd hinfo hst
    exact hinv.returns (.load hentered hv hsecond hst)
  · have hpc : Entered env .checkVerify := hentered
    exact hinv.awaits (by rw [hm]; decide) (by rw [hm]; decide) hpc (by simp) _

/-- A step of the main thread keeps the invariant of the data. -/
theorem mainStep_data (hmain : MainSems env s) (hinv : DataInv env buf s)
    (h : mainStep env s = some s') : DataInv env buf s' := by
  have hentered := hinv.entered
  cases hm : s.main with
  | start => exact mainStep_start hmain hinv hm h
  | createLoader => exact mainStep_createLoader hmain hinv hm h
  | createVerifier => exact mainStep_createVerifier hmain hinv hm h
  | wait =>
    rw [hm] at hentered
    simp only [mainStep, hm] at h
    split_ifs at h with hsem
    cases h
    have hpc : Entered env .checkLoad := hentered
    exact hinv.awaits (by rw [hm]; decide) (by rw [hm]; decide) hpc (by simp) _
  | checkLoad => exact mainStep_checkLoad hmain hinv hm h
  | checkVerify =>
    rw [hm] at hentered
    have hv := VerifierPc.eq_exited (hmain.main_waited (by rw [hm]; decide) (by rw [hm]; decide))
    simp only [mainStep, hm] at h
    cases h
    exact hinv.returns (.verify hentered hv (hinv.published (by rw [hv]; decide)))
  | _ =>
    simp only [mainStep, hm] at h
    cases h

/-- So does a step of the loader. -/
theorem loaderStep_data (hload : LoadSems env s)
    (hinv : DataInv env buf s) (h : loaderStep env s = some s') : DataInv env buf s' := by
  have hbuffer := hinv.buffer
  have hinfo := hinv.load_info
  have hrunning := hload.running
  have hfirst := hinv.loader_first
  have hsecond := hinv.loader_second
  unfold loaderStep at h
  rcases hl : s.loader with _ | _ | _ | _ | _ | _ | _ | _ <;>
    rw [hl] at hbuffer hinfo hrunning hfirst hsecond <;> simp only [hl] at h
  case notRunning => cases h
  case exited => cases h
  case loadFirst =>
    have hpair : (loadPartitionToVerify env 0 0 env.splitImageSize s.imageBuf).1 =
      firstStatus env := rfl
    have hread : (loadPartitionToVerify env 0 0 env.splitImageSize s.imageBuf).2 =
        firstLoaded env buf := by
      rw [hbuffer]
      rfl
    split_ifs at h with hst <;> cases h <;> rw [hpair] at hst
    · exact { hinv with
        buffer := by simpa [loadedAt, hst] using hread
        loader_first := by simp
        loader_second := by simp
        load_info := by simpa [hst] using hinfo }
    · exact { hinv with
        buffer := hread
        loader_first := fun _ => not_not.mp hst
        loader_second := by simp
        load_info := by simpa using hinfo }
  case postFirst =>
    cases h
    exact { hinv with
      buffer := hbuffer
      loader_first := fun _ => hfirst (by simp)
      loader_second := by simp
      load_info := by simpa using hinfo }
  case storeFirst =>
    cases h
    exact { hinv with
      buffer := hbuffer
      loader_first := by simp
      loader_second := by simp
      load_info := by simpa using hfirst (by simp) }
  case loadSecond =>
    cases h
    exact { hinv with
      buffer := by
        rw [hbuffer]
        rfl
      loader_first := by simp
      loader_second := fun _ => rfl
      load_info := by simpa using hinfo }
  case postSecond =>
    cases h
    exact { hinv with
      buffer := hbuffer
      loader_first := by simp
      loader_second := fun _ => hsecond (by simp)
      load_info := by simpa using hinfo }
  case storeSecond =>
    have hok := hrunning (by decide) (by decide)
    cases h
    exact { hinv with
      buffer := by simpa [loadedAt, hok] using hbuffer
      loader_first := by simp
      loader_second := by simp
      load_info := by simpa [hok] using hsecond (by simp) }

theorem loadedAt_first {pc : LoaderPc} (hok : firstStatus env = .OK) (hpc : 2 ≤ pc.rank) :
    ∀ k < env.splitImageSize, loadedAt env buf pc k = firstLoaded env buf k := by
  intro k hk
  have hboth : bothLoaded env buf k = firstLoaded env buf k := by
    apply loadPartitionToVerify_outside
    left
    unfold ParallelEnv.secondOffset ParallelEnv.secondSize
    omega
  cases pc with
  | notRunning => simp at hpc
  | loadFirst => simp at hpc
  | postFirst => rfl
  | storeFirst => rfl
  | loadSecond => rfl
  | postSecond => exact hboth
  | storeSecond => exact hboth
  | exited =>
    rw [loadedAt, if_pos hok]
    exact hboth

theorem loadedAt_both {pc : LoaderPc} (hok : firstStatus env = .OK) (hpc : 5 ≤ pc.rank) :
    loadedAt env buf pc = bothLoaded env buf := by
  cases pc with
  | postSecond => rfl
  | storeSecond => rfl
  | exited => exact if_pos hok
  | _ => simp at hpc

theorem firstHashed_eq (hok : firstStatus env = .OK) : firstHashed env buf =
    env.desc.salt ++ env.reader.partition.slice 0 env.splitImageSize :=
  congrArg _ (Bytes.slice_congr (loadPartitionToVerify_ok buf hok))

theorem DataInv.verifierMoved (hinv : DataInv env buf s) (hmain : MainSems env s)
    (hv : 1 ≤ s.verifier.rank) (hv6 : s.verifier.rank ≤ 6) {pc : VerifierPc}
    {ctx : List UInt8} {status info : AvbSlotVerifyResult} {first second main : Nat}
    (hsalt : pc.rank ≤ 2 → ctx = env.desc.salt)
    (hfirst : 3 ≤ pc.rank → pc.rank ≤ 4 → ctx = firstHashed env buf)
    (hstored : pc.rank = 5 → status = verdict env buf)
    (hpub : 6 ≤ pc.rank → info = verdict env buf) :
    DataInv env buf { s with
      verifier := pc, hashCtx := ctx, verifierStatus := status, verifyInfoStatus := info,
      semLoadFirst := first, semLoadSecond := second, semMainThread := main } := by
  have hm : s.main.rank = 3 := hmain.main_waits hv hv6
  exact { hinv with
    ctx_salt := fun _ _ => hsalt
    ctx_first := hfirst
    stored := hstored
    published := hpub
    returned := by
      intro r hr
      have : s.main = .returned r := hr
      rw [this] at hm
      simp at hm }

/-- So does a step of the verifier, which waits for both halves. -/
theorem verifierStep_data (hmain : MainSems env s) (hload : LoadSems env s)
    (hinv : DataInv env buf s) (h : verifierStep env s = some s') : DataInv env buf s' := by
  have hmoved := @DataInv.verifierMoved env buf s hinv hmain
  have hm := hmain.main_waits
  have hsalt := hinv.ctx_salt
  have hfirst := hinv.ctx_first
  have hw1 := hload.first_waited
  have hw2 := hload.second_waited
  have hstored := hinv.stored
  have hpub := hinv.published
  unfold verifierStep at h
  rcases hv : s.verifier with _ | _ | _ | _ | _ | _ | _ | _ <;>
    rw [hv] at hmoved hm hsalt hfirst hw1 hw2 hstored hpub <;> simp only [hv] at h
  case notRunning => cases h
  case exited => cases h
  case waitFirst =>
    have hm := hm (by decide) (by decide)
    split_ifs at h
    cases h
    exact hmoved (by decide) (by decide) (fun _ => hsalt (by omega) (by omega) (by decide))
      (by simp) (by simp) (by simp)
  case hashFirst =>
    have hm := hm (by decide) (by decide)
    obtain ⟨hok, hl⟩ := hw1 (by decide)
    cases h
    refine hmoved (by decide) (by decide) (by simp) (fun _ _ => ?_) (by simp) (by simp)
    have hslice : (loadedAt env buf s.loader).slice 0 env.splitImageSize =
        (firstLoaded env buf).slice 0 env.splitImageSize := by
      refine Bytes.slice_congr fun k hk => ?_
      rw [Nat.zero_add]
      exact loadedAt_first hok (by omega) k hk
    rw [hsalt (by omega) (by omega) (by decide), hinv.buffer, hslice]
    rfl
  case waitSecond =>
    split_ifs at h
    cases h
    exact hmoved (by decide) (by decide) (by simp) (fun _ _ => hfirst (by decide) (by decide))
      (by simp) (by simp)
  case hashSecond =>
    obtain ⟨hok, -⟩ := hw1 (by decide)
    have hl := hw2 (by decide)
    have hctx := hfirst (by decide) (by decide)
    split_ifs at h with hsha <;> cases h
    · refine hmoved (by decide) (by decide) (by simp) (by simp) (fun _ => ?_) (by simp)
      rw [hctx, hinv.buffer, loadedAt_both hok (by omega), verdict, if_pos hsha]
    · refine hmoved (by decide) (by decide) (by simp) (by simp) (fun _ => ?_) (by simp)
      rw [verdict, if_neg hsha]
  case store =>
    cases h
    exact hmoved (by decide) (by decide) (by simp) (by simp) (by simp) fun _ => hstored (by decide)
  case postMain =>
    cases h
    exact hmoved (by decide) (by decide) (by simp) (by simp) (by simp) fun _ => hpub (by decide)

structure ThreadInv (env : ParallelEnv) (buf : Bytes) (s : ParallelState) : Prop where
  main : MainSems env s
  load : LoadSems env s
  data : DataInv env buf s

theorem threadInv_init : ThreadInv env buf (.init buf) := by
  refine ⟨?_, ?_, ?_⟩
  · constructor <;> simp [ParallelState.init]
  · constructor <;> simp [ParallelState.init]
  · constructor <;> simp [ParallelState.init, loadedAt, Entered]

theorem step_threadInv {t : ThreadId} (hinv : ThreadInv env buf s)
    (h : loadAndVerifyBootHashPartition env s t = some s') : ThreadInv env buf s' := by
  obtain ⟨hmain, hload, hdata⟩ := hinv
  cases t with
  | main =>
    have hmoved := mainStep_moved h
    exact ⟨hmain.mainStep hmoved, hload.mainStep hmain hmoved, mainStep_data hmain hdata h⟩
  | loader =>
    have hmoved := loaderStep_moved h
    exact ⟨hmain.loaderStep hmoved, hload.loaderStep hmoved, loaderStep_data hload hdata h⟩
  | verifier =>
    have hmoved := verifierStep_moved h
    exact ⟨hmain.verifierStep hmoved, hload.verifierStep hmoved,
      verifierStep_data hmain hload hdata h⟩

theorem run_threadInv {schedule : List ThreadId}
    (h : (loadAndVerifyBootHashPartition env).run (.init buf) schedule = some s) :
    ThreadInv env buf s := by
  have hstep : ∀ s t s', ThreadInv env buf s → True →
      loadAndVerifyBootHashPartition env s t = some s' → ThreadInv env buf s' :=
    fun _ _ _ hinv _ hstep => step_threadInv hinv hstep
  exact Machine.run_invariant hstep threadInv_init (fun _ _ => trivial) h

end Interleavings

end OhMyAbl
