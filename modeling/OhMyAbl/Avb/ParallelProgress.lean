/-
  **When the loading threads come to an end, and when they accept an image.**

  The verifier waits for two posts of the loader and the main thread for one of the
  verifier.  A loader whose first read fails returns without a post, and one that was
  never resumed makes none; then the others wait for ever.
-/
import OhMyAbl.Avb.ParallelSound

namespace OhMyAbl

inductive Sem where
  | mainThread
  | loadFirst
  | loadSecond
deriving DecidableEq, Repr

def ParallelState.sem (s : ParallelState) : Sem → Nat
  | .mainThread => s.semMainThread
  | .loadFirst => s.semLoadFirst
  | .loadSecond => s.semLoadSecond

def ParallelState.waitsOn (s : ParallelState) : ThreadId → Option Sem
  | .main => if s.main = .wait then some .mainThread else none
  | .loader => none
  | .verifier =>
    if s.verifier = .waitFirst then some .loadFirst
    else if s.verifier = .waitSecond then some .loadSecond
    else none

def Stuck (env : ParallelEnv) (s : ParallelState) (t : ThreadId) : Prop :=
  ∃ x, s.waitsOn t = some x ∧
    ∀ schedule s', (loadAndVerifyBootHashPartition env).run s schedule = some s' → s'.sem x = 0

section Progress

variable {env : ParallelEnv} {buf : Bytes} {s s' : ParallelState}

/-! ### Threads that run to their end -/

theorem loaderStep_runs (hok : firstStatus env = .OK) (hl : 1 ≤ s.loader.rank)
    (hl7 : s.loader.rank < 7) :
    ∃ s', loaderStep env s = some s' ∧ s'.main = s.main ∧ s'.verifier = s.verifier ∧
      s'.loader.rank = s.loader.rank + 1 := by
  have hread : (loadPartitionToVerify env 0 0 env.splitImageSize s.imageBuf).1 = .OK := hok
  unfold loaderStep
  rcases h : s.loader with _ | _ | _ | _ | _ | _ | _ | _ <;> simp [h] at hl hl7 ⊢
  simp [hread]

variable {k : Nat} {t : ThreadId} {x : Sem}

theorem loader_reaches (hinv : ThreadInv env buf s) (hok : firstStatus env = .OK)
    (hl : 1 ≤ s.loader.rank) (hlk : s.loader.rank ≤ k) (hk : k ≤ 7) :
    ∃ schedule s', (loadAndVerifyBootHashPartition env).run s schedule = some s' ∧
      ThreadInv env buf s' ∧ s'.main = s.main ∧ s'.verifier = s.verifier ∧
      s'.loader.rank = k := by
  have hstep : ∀ t, (ThreadInv env buf t ∧ t.main = s.main ∧ t.verifier = s.verifier ∧
      1 ≤ t.loader.rank ∧ t.loader.rank ≤ k) → ¬ t.loader.rank = k → ∃ l t',
      loadAndVerifyBootHashPartition env t l = some t' ∧ (ThreadInv env buf t' ∧
        t'.main = s.main ∧ t'.verifier = s.verifier ∧ 1 ≤ t'.loader.rank ∧
        t'.loader.rank ≤ k) ∧ k - t'.loader.rank < k - t.loader.rank := by
    rintro t ⟨ht, hm, hv, hlt, hle⟩ hne
    obtain ⟨t', ht', hm', hv', hrank⟩ := loaderStep_runs hok hlt (by omega)
    refine ⟨.loader, t', ht', ⟨step_threadInv ht (t := .loader) ht', ?_, ?_, ?_, ?_⟩, ?_⟩
    · rw [hm', hm]
    · rw [hv', hv]
    · omega
    · omega
    · omega
  obtain ⟨schedule, t, hrun, ⟨ht, hm, hv, -⟩, hend⟩ :=
    Machine.exists_run (fun t => k - t.loader.rank) hstep s ⟨hinv, rfl, rfl, hl, hlk⟩
  exact ⟨schedule, t, hrun, ht, hm, hv, hend⟩

theorem verifierStep_runs (hinv : ThreadInv env buf s) (hok : firstStatus env = .OK)
    (hl : 6 ≤ s.loader.rank) (hv : 1 ≤ s.verifier.rank) (hv7 : s.verifier.rank ≠ 7) :
    ∃ s', verifierStep env s = some s' ∧ s'.main = s.main ∧ s'.loader = s.loader ∧
      s.verifier.rank < s'.verifier.rank := by
  have hfirst := hinv.load.first_posted
  have hsecond := hinv.load.second_posted
  have hl3 : 3 ≤ s.loader.rank := by omega
  unfold verifierStep
  rcases h : s.verifier with _ | _ | _ | _ | _ | _ | _ | _ <;>
    rw [h] at hfirst hsecond <;> simp [h] at hv hv7 ⊢
  · simp [hok, hl3] at hfirst
    simp [hfirst]
  · simp [hok, hl] at hsecond
    simp [hsecond]
  · split <;> simp

theorem verifier_finishes (hinv : ThreadInv env buf s) (hok : firstStatus env = .OK)
    (hl : 6 ≤ s.loader.rank) (hv : 1 ≤ s.verifier.rank) :
    ∃ schedule s', (loadAndVerifyBootHashPartition env).run s schedule = some s' ∧
      ThreadInv env buf s' ∧ s'.main = s.main ∧ s'.loader = s.loader ∧ s'.verifier.rank = 7 := by
  have hstep : ∀ t, (ThreadInv env buf t ∧ t.main = s.main ∧ t.loader = s.loader ∧
      1 ≤ t.verifier.rank) → ¬ t.verifier.rank = 7 → ∃ l t',
      loadAndVerifyBootHashPartition env t l = some t' ∧ (ThreadInv env buf t' ∧
        t'.main = s.main ∧ t'.loader = s.loader ∧ 1 ≤ t'.verifier.rank) ∧
      7 - t'.verifier.rank < 7 - t.verifier.rank := by
    rintro t ⟨ht, hm, hlt, hvt⟩ hne
    obtain ⟨t', ht', hm', hl', hrank⟩ := verifierStep_runs ht hok (hlt ▸ hl) hvt hne
    have hle : t.verifier.rank ≤ 7 := by cases t.verifier <;> decide
    refine ⟨.verifier, t', ht', ⟨step_threadInv ht (t := .verifier) ht', ?_, ?_, ?_⟩, ?_⟩
    · rw [hm', hm]
    · rw [hl', hlt]
    · omega
    · omega
  obtain ⟨schedule, t, hrun, ⟨ht, hm, hlt, -⟩, hend⟩ :=
    Machine.exists_run (fun t => 7 - t.verifier.rank) hstep s ⟨hinv, rfl, rfl, hv⟩
  exact ⟨schedule, t, hrun, ht, hm, hlt, hend⟩

theorem main_returns (hinv : ThreadInv env buf s) (hm : s.main = .wait) (hv : s.verifier.rank = 7) :
    ∃ schedule s', (loadAndVerifyBootHashPartition env).run s schedule = some s' ∧
      s'.main = .returned (if s.loadInfoStatus = .OK then verdict env buf else s.loadInfoStatus) ∧
      s'.loader = s.loader ∧ s'.verifier = s.verifier ∧ s'.imageBuf = s.imageBuf := by
  have hsem : s.semMainThread = 1 := by
    rw [hinv.main.main_posted, hm, hv]
    rfl
  have hverdict : s.verifyInfoStatus = verdict env buf := hinv.data.published (by omega)
  by_cases hinfo : s.loadInfoStatus = .OK
  · refine ⟨[.main, .main, .main],
      { s with main := .returned (verdict env buf), semMainThread := 0 }, ?_, ?_, rfl, rfl, rfl⟩
    · simp [Machine.run, loadAndVerifyBootHashPartition, mainStep, hm, hsem, hinfo, hverdict]
    · rw [if_pos hinfo]
  · refine ⟨[.main, .main],
      { s with main := .returned s.loadInfoStatus, semMainThread := 0 }, ?_, ?_, rfl, rfl, rfl⟩
    · simp [Machine.run, loadAndVerifyBootHashPartition, mainStep, hm, hsem, hinfo]
    · rw [if_neg hinfo]

def ParallelState.progress (s : ParallelState) : Nat :=
  s.main.rank + s.loader.rank + s.verifier.rank

theorem progress_le : s.progress ≤ 21 := by
  have hm : s.main.rank ≤ 7 := by cases s.main <;> simp
  have hl : s.loader.rank ≤ 7 := by cases s.loader <;> decide
  have hv : s.verifier.rank ≤ 7 := by cases s.verifier <;> decide
  unfold ParallelState.progress
  omega

theorem step_progress (hinv : ThreadInv env buf s)
    (h : loadAndVerifyBootHashPartition env s t = some s') : s.progress < s'.progress := by
  unfold ParallelState.progress
  cases t with
  | main =>
    have hl := hinv.main.loader_idle
    have hv := hinv.main.verifier_idle
    obtain ⟨hrank, hloader, hverifier, -⟩ := mainStep_moved h
    grind
  | loader =>
    obtain ⟨hm, hv, hruns, hrank, -⟩ := loaderStep_moved h
    grind
  | verifier =>
    obtain ⟨hm, hl, -, hrank, -⟩ := verifierStep_moved h
    rw [hm, hl, hrank]
    exact Nat.lt_succ_self _

theorem exists_end (hinv : ThreadInv env buf s) :
    ∃ schedule s', (loadAndVerifyBootHashPartition env).run s schedule = some s' ∧
      ThreadInv env buf s' ∧ ∀ t, loadAndVerifyBootHashPartition env s' t = none := by
  refine Machine.exists_run (fun s => 21 - s.progress) (fun s hinv hnot => ?_) s hinv
  obtain ⟨t, ht⟩ := not_forall.mp hnot
  obtain ⟨s', hstep⟩ := Option.ne_none_iff_exists'.mp ht
  have hlt := step_progress hinv hstep
  have hle := @progress_le s'
  exact ⟨t, s', hstep, step_threadInv hinv hstep, by omega⟩

/-! ### Threads that wait for ever -/

structure ThreadsStarted (env : ParallelEnv) : Prop where
  created : ThreadsCreated env
  resumed : env.resumeVerifier = EFI_SUCCESS

/-- The state in which the main thread begins to wait, if no other thread has taken a step. -/
def ParallelState.started (env : ParallelEnv) (buf : Bytes) : ParallelState :=
  { ParallelState.init buf with
    main := .wait
    loader := if env.resumeLoader = EFI_SUCCESS then .loadFirst else .notRunning
    verifier := .waitFirst
    hashCtx := env.desc.salt }

theorem run_started (hstarted : ThreadsStarted env) (buf : Bytes) :
    (loadAndVerifyBootHashPartition env).run (.init buf) [.main, .main, .main] =
      some (.started env buf) := by
  obtain ⟨⟨h1, h2, h3, h4, h5, h6⟩, h7⟩ := hstarted
  have halg : (!env.desc.isSha256 && !env.desc.isSha512) = false := by
    rcases h2 with h2 | h2 <;> simp [h2]
  simp [Machine.run, loadAndVerifyBootHashPartition, mainStep, ParallelState.init, h1, halg, h3, h4,
    h5, h6, h7, ParallelState.started]

theorem ThreadInv.started (hinv : ThreadInv env buf s) (hm : s.main.rank = 3) :
    ThreadsStarted env := by
  have hentered := hinv.data.entered
  rcases h : s.main with _ | _ | _ | _ | _ | _ | status | _ <;> rw [h] at hm hentered <;>
    simp at hm
  exact ⟨hentered.1, hentered.2⟩

theorem ThreadInv.waiting (hinv : ThreadInv env buf s) (hx : s.waitsOn t = some x) :
    s.main.rank = 3 := by
  cases t with
  | main =>
    simp only [ParallelState.waitsOn] at hx
    split_ifs at hx with hm
    rw [hm]
    rfl
  | loader => cases hx
  | verifier =>
    simp only [ParallelState.waitsOn] at hx
    split_ifs at hx with hfirst hsecond
    · exact hinv.main.main_waits (by rw [hfirst]; decide) (by rw [hfirst]; decide)
    · exact hinv.main.main_waits (by rw [hsecond]; decide) (by rw [hsecond]; decide)

theorem ThreadInv.posted (hinv : ThreadInv env buf s) (hresumed : env.resumeLoader = EFI_SUCCESS)
    (hok : firstStatus env = .OK) (hx : s.waitsOn t = some x) :
    ∃ schedule s', (loadAndVerifyBootHashPartition env).run s schedule = some s' ∧
      s'.sem x ≠ 0 := by
  have hm : s.main.rank = 3 := hinv.waiting hx
  have hl : 1 ≤ s.loader.rank := hinv.main.loader_runs (by omega) (by omega) hresumed
  have hl7 : s.loader.rank ≤ 7 := by cases s.loader <;> decide
  have hv : 1 ≤ s.verifier.rank := hinv.main.verifier_runs hm
  obtain ⟨sched, s₁, hrun, hinv₁, hm₁, hv₁, hl₁⟩ := loader_reaches hinv hok hl hl7 (Nat.le_refl 7)
  cases t with
  | main =>
    simp only [ParallelState.waitsOn] at hx
    split_ifs at hx with hwait
    cases hx
    have hvs : 1 ≤ s₁.verifier.rank := by rw [hv₁]; exact hv
    obtain ⟨sched', s₂, hrun', hinv₂, hm₂, -, hv₂⟩ := verifier_finishes hinv₁ hok (by omega) hvs
    refine ⟨sched ++ sched', s₂, Machine.run_append.mpr ⟨s₁, hrun, hrun'⟩, ?_⟩
    have hposted := hinv₂.main.main_posted
    rw [hm₂, hm₁, hm, hv₂, if_pos (by decide)] at hposted
    show s₂.semMainThread ≠ 0
    omega
  | loader => cases hx
  | verifier =>
    refine ⟨sched, s₁, hrun, ?_⟩
    simp only [ParallelState.waitsOn] at hx
    split_ifs at hx with hfirst hsecond
    · cases hx
      have hposted := hinv₁.load.first_posted
      rw [hv₁, hfirst, hl₁, if_pos ⟨hok, by decide, by decide⟩] at hposted
      show s₁.semLoadFirst ≠ 0
      omega
    · cases hx
      have hposted := hinv₁.load.second_posted
      rw [hv₁, hsecond, hl₁, if_pos ⟨hok, by decide, by decide⟩] at hposted
      show s₁.semLoadSecond ≠ 0
      omega

theorem stuck_started (hstarted : ThreadsStarted env)
    (hbad : ¬ (env.resumeLoader = EFI_SUCCESS ∧ firstStatus env = .OK)) (buf : Bytes) :
    Stuck env (.started env buf) .verifier ∧ Stuck env (.started env buf) .main := by
  have hrun := run_started hstarted buf
  have hunposted : ∀ {s : ParallelState}, ThreadInv env buf s →
      ¬ (firstStatus env = .OK ∧ 3 ≤ s.loader.rank) := by
    rintro s hinv ⟨hok, hl⟩
    exact hbad ⟨hinv.load.resumed (by omega), hok⟩
  constructor
  · refine ⟨.loadFirst, rfl, fun schedule s' hrest => ?_⟩
    have hinv := run_threadInv (Machine.run_append.mpr ⟨_, hrun, hrest⟩)
    exact hinv.load.first_posted.trans (if_neg fun h => hunposted hinv ⟨h.1, h.2.1⟩)
  · refine ⟨.mainThread, rfl, fun schedule s' hrest => ?_⟩
    have hinv := run_threadInv (Machine.run_append.mpr ⟨_, hrun, hrest⟩)
    refine hinv.main.main_posted.trans (if_neg fun h => hunposted hinv ?_)
    exact hinv.load.first_waited (by omega)

/-- **No thread waits for ever, exactly if threads that are started have a loader that runs and
    whose first read succeeds.** -/
theorem noStuck_iff (env : ParallelEnv) (buf : Bytes) :
    (∀ schedule s, (loadAndVerifyBootHashPartition env).run (.init buf) schedule = some s →
        ∀ t, ¬ Stuck env s t) ↔
      (ThreadsStarted env → env.resumeLoader = EFI_SUCCESS ∧ firstStatus env = .OK) := by
  constructor
  · intro hnone hstarted
    by_contra hbad
    exact hnone _ _ (run_started hstarted buf) .verifier (stuck_started hstarted hbad buf).1
  · rintro hcond schedule s hrun t ⟨x, hx, hnever⟩
    have hinv := run_threadInv hrun
    obtain ⟨hresumed, hok⟩ := hcond (hinv.started (hinv.waiting hx))
    obtain ⟨sched, s', hrun', hpos⟩ := hinv.posted hresumed hok hx
    exact hpos (hnever sched s' hrun')

theorem exists_return (hstarted : ThreadsStarted env) (hresumed : env.resumeLoader = EFI_SUCCESS)
    (hfirst : firstStatus env = .OK) (hk : 6 ≤ k) (hk7 : k ≤ 7) (buf : Bytes) :
    ∃ schedule s, (loadAndVerifyBootHashPartition env).run (.init buf) schedule = some s ∧
      s.main = .returned
        (if k = 7 ∧ secondStatus env ≠ .OK then secondStatus env else verdict env buf) ∧
      s.loader.rank = k ∧ s.verifier.rank = 7 ∧ s.imageBuf = bothLoaded env buf := by
  have hrun := run_started hstarted buf
  have hinv := run_threadInv hrun
  have hloader : (ParallelState.started env buf).loader.rank = 1 := by
    simp [ParallelState.started, hresumed]
  obtain ⟨sched₁, s₁, hrun₁, hinv₁, hm₁, hv₁, hl₁⟩ :=
    loader_reaches hinv hfirst (by omega) (by omega) hk7
  have hwaits : s₁.verifier.rank = 1 := by
    rw [hv₁]
    rfl
  obtain ⟨sched₂, s₂, hrun₂, hinv₂, hm₂, hl₂, hv₂⟩ :=
    verifier_finishes hinv₁ hfirst (by omega) (by omega)
  have hwait : s₂.main = .wait := by
    rw [hm₂, hm₁]
    rfl
  have hl : s₂.loader.rank = k := by rw [hl₂, hl₁]
  obtain ⟨sched₃, s₃, hrun₃, hm₃, hl₃, hv₃, hbuf⟩ := main_returns hinv₂ hwait hv₂
  have hrest := Machine.run_append.mpr ⟨_, hrun₁, Machine.run_append.mpr ⟨_, hrun₂, hrun₃⟩⟩
  refine ⟨_, s₃, Machine.run_append.mpr ⟨_, hrun, hrest⟩, ?_, ?_, ?_, ?_⟩
  · have hinfo := hinv₂.data.load_info
    by_cases h7 : k = 7
    · have hpc : s₂.loader = .exited := by cases h : s₂.loader <;> simp [h] at hl ⊢ <;> omega
      rw [if_pos ⟨hpc, hfirst⟩] at hinfo
      rw [hm₃, hinfo]
      by_cases hsecond : secondStatus env = .OK
      · rw [if_pos hsecond, if_neg fun h => h.2 hsecond]
      · rw [if_neg hsecond, if_pos ⟨h7, hsecond⟩]
    · have hpc : s₂.loader ≠ .exited := by
        intro h
        rw [h] at hl
        exact h7 hl.symm
      rw [if_neg fun h => hpc h.1] at hinfo
      rw [hm₃, if_pos hinfo, if_neg fun h => h7 h.1]
  · rw [hl₃, hl]
  · rw [hv₃, hv₂]
  · rw [hbuf, hinv₂.data.buffer, loadedAt_both hfirst (by omega)]

/-! ### Images that are accepted -/

def Accepts (env : ParallelEnv) (buf : Bytes) : Prop :=
  (loadAndVerifyBootHashPartition env).Inevitable (fun s => s.main = .returned .OK) (.init buf)

theorem returned_stays {r : AvbSlotVerifyResult} (hm : s.main = .returned r)
    (h : loadAndVerifyBootHashPartition env s t = some s') : s'.main = .returned r := by
  cases t with
  | main =>
    replace h : mainStep env s = some s' := h
    unfold mainStep at h
    simp [hm] at h
  | loader => exact (loaderStep_moved h).main.trans hm
  | verifier => exact (verifierStep_moved h).main.trans hm

structure StatusesOk (env : ParallelEnv) (buf : Bytes) : Prop where
  first : firstStatus env = .OK
  second : secondStatus env = .OK
  verdict : verdict env buf = .OK

theorem StatusesOk.enabled (hok : StatusesOk env buf) (hstarted : ThreadsStarted env)
    (hresumed : env.resumeLoader = EFI_SUCCESS) (hinv : ThreadInv env buf s)
    (hnot : s.main ≠ .returned .OK) : ∃ t s', loadAndVerifyBootHashPartition env s t = some s' := by
  obtain ⟨⟨h1, h2, h3, h4, h5, h6⟩, h7⟩ := hstarted
  have hentered := hinv.data.entered
  have hreturned := hinv.data.returned
  have hruns := hinv.main.loader_runs
  have hverifies := hinv.main.verifier_runs
  have hposted := hinv.main.main_posted
  have hmain : loadAndVerifyBootHashPartition env s .main = mainStep env s := rfl
  unfold mainStep at hmain
  rcases hm : s.main with _ | _ | _ | _ | _ | _ | status | _ <;>
    rw [hm] at hentered hreturned hruns hverifies hposted hnot <;> simp only [hm] at hmain
  case start | createLoader | createVerifier | checkLoad =>
    refine ⟨.main, ?_⟩
    rw [hmain]
    split_ifs <;> exact ⟨_, rfl⟩
  case wait =>
    by_cases hsem : s.semMainThread = 0
    · have hl := hruns (by decide) (by decide) hresumed
      have hv := hverifies (by decide)
      have hv7 : s.verifier.rank ≠ 7 := by
        intro h
        rw [hsem, h, if_pos (by decide)] at hposted
        cases hposted
      by_cases hl7 : s.loader.rank < 7
      · obtain ⟨s', hstep, -⟩ := loaderStep_runs hok.first hl hl7
        exact ⟨.loader, s', hstep⟩
      · obtain ⟨s', hstep, -⟩ := verifierStep_runs hinv hok.first (by omega) hv hv7
        exact ⟨.verifier, s', hstep⟩
    · rw [if_neg hsem] at hmain
      exact ⟨.main, _, hmain⟩
  case checkVerify => exact ⟨.main, _, hmain⟩
  case returned =>
    exfalso
    apply hnot
    congr 1
    cases hreturned status rfl with
    | refused h _ => exact absurd ⟨h1, h2, h3, h4, h5, h6⟩ h
    | unresumed _ h _ _ => exact absurd h7 h
    | load _ _ hr hr' => exact absurd (hr.trans hok.second) hr'
    | verify _ _ hr => exact hr.trans hok.verdict
  case faulted =>
    have hno : env.kernelProtocol = false := hentered
    rw [h4] at hno
    cases hno

theorem accepts_iff_statuses (hstarted : ThreadsStarted env)
    (hresumed : env.resumeLoader = EFI_SUCCESS) : Accepts env buf ↔ StatusesOk env buf := by
  constructor
  · intro haccepts
    have hstay : ∀ s t s', s.main = .returned .OK →
        loadAndVerifyBootHashPartition env s t = some s' → s'.main = .returned .OK :=
      fun _ _ _ => returned_stays
    have hinv := run_threadInv (run_started hstarted buf)
    have hfirst : firstStatus env = .OK := by
      obtain ⟨sched, s', hrun, hinv', hend⟩ := exists_end hinv
      have hret := haccepts.of_run hstay
        (Machine.run_append.mpr ⟨_, run_started hstarted buf, hrun⟩) hend
      cases hinv'.data.returned _ hret with
      | refused h _ => exact absurd hstarted.created h
      | unresumed _ h _ _ => exact absurd hstarted.resumed h
      | load _ _ _ h => exact absurd rfl h
      | verify _ hv _ => exact (hinv'.load.first_waited (by rw [hv]; decide)).1
    obtain ⟨sched, s, hrun, hm, hl, hv, -⟩ :=
      exists_return hstarted hresumed hfirst (by decide : 6 ≤ 7) (Nat.le_refl 7) buf
    have hend : ∀ t, loadAndVerifyBootHashPartition env s t = none := by
      intro t
      cases t with
      | main => simp [loadAndVerifyBootHashPartition, mainStep, hm]
      | loader =>
        have hpc : s.loader = .exited := by cases h : s.loader <;> simp [h] at hl ⊢
        simp [loadAndVerifyBootHashPartition, loaderStep, hpc]
      | verifier =>
        have hpc : s.verifier = .exited := by cases h : s.verifier <;> simp [h] at hv ⊢
        simp [loadAndVerifyBootHashPartition, verifierStep, hpc]
    have hret := haccepts.of_run hstay hrun hend
    rw [hm, MainPc.returned.injEq] at hret
    by_cases hsecond : secondStatus env = .OK
    · rw [if_neg fun h => h.2 hsecond] at hret
      exact ⟨hfirst, hsecond, hret⟩
    · rw [if_pos ⟨rfl, hsecond⟩] at hret
      exact absurd hret hsecond
  · intro hok
    have hstep : ∀ s t s', ThreadInv env buf s → loadAndVerifyBootHashPartition env s t = some s' →
        ThreadInv env buf s' ∧ 21 - s'.progress < 21 - s.progress := by
      intro s t s' hinv hstep
      have hlt := step_progress hinv hstep
      have hle := @progress_le s'
      exact ⟨step_threadInv hinv hstep, by omega⟩
    exact Machine.inevitable_of_rank (fun s => 21 - s.progress) hstep
      (fun s hinv => hok.enabled hstarted hresumed hinv) _ threadInv_init

def failingReader (partition : Bytes) : PartitionReader where
  partition := partition
  read := fun _ _ _ => .mk AvbIOResult.ERROR_IO 0 partition
  read_ok := by
    intro i off size h
    cases h

/-- When the first read fails, the verifier and the main thread wait for ever. -/
theorem failed_read_stuck :
    let env := sampleEnv (failingReader (textBytes "ab")) 2 (sampleSha256 (ascii "ab"))
    ∃ s, (loadAndVerifyBootHashPartition env).run (.init fun _ => 0) [.main, .main, .main] =
      some s ∧ Stuck env s .verifier ∧ Stuck env s .main := by
  intro env
  have hstarted : ThreadsStarted env :=
    ⟨⟨rfl, Or.inl (by decide), rfl, rfl, rfl, rfl⟩, rfl⟩
  have hbad : ¬ (env.resumeLoader = EFI_SUCCESS ∧ firstStatus env = .OK) := by decide
  exact ⟨_, run_started hstarted _, stuck_started hstarted hbad _⟩

end Progress

end OhMyAbl
