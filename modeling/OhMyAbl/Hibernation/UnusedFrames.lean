/-
  **The page frames that a restore takes.**

  The first bounce table, the bounced pages, the further tables and what the jump to the kernel
  needs are all taken with `GetUnusedPfn` from one iterator.  Its frames only get larger, so no two
  of a restore are the same.
-/
import OhMyAbl.Hibernation.RestoredMemory

namespace OhMyAbl

open Prog

namespace PfnPool

/-- What up to `n` calls of `GetUnusedPfn` return, one after the other. -/
def unusedPfns (pool : PfnPool) : (n : Nat) → KernelPfnIterator → List Nat
  | 0, _ => []
  | n + 1, it =>
    match pool.getUnusedPfn it with
    | none => []
    | some (pfn, it) => pfn :: unusedPfns pool n it

structure Unused (pool : PfnPool) (pfns : List Nat) : Prop where
  nodup : pfns.Nodup
  free : ∀ pfn ∈ pfns, pool.isFree pfn = true
  not_image : ∀ pfn ∈ pfns, ∀ i < pool.nrCopyPages, pool.pfnArray i ≠ pfn

variable {pool : PfnPool} {it it' : KernelPfnIterator} {n k : Nat}

theorem unusedPfns_add (h : getUnusedPfns pool n it = some it') :
    pool.unusedPfns (n + k) it = pool.unusedPfns n it ++ pool.unusedPfns k it' := by
  induction n generalizing it with
  | zero =>
    cases h
    rw [Nat.zero_add]
    rfl
  | succ n ih =>
    obtain ⟨⟨pfn, it₁⟩, hget, hrest⟩ := Option.bind_eq_some_iff.mp h
    rw [Nat.succ_add, unusedPfns, unusedPfns, hget]
    exact congrArg (pfn :: ·) (ih hrest)

theorem Ascending.unusedPfns_unused (h : pool.Ascending) (hit : pool.InGap it) :
    pool.Unused (pool.unusedPfns n it) ∧ ∀ pfn ∈ pool.unusedPfns n it, it.basePfn < pfn := by
  induction n generalizing it with
  | zero => exact ⟨⟨List.nodup_nil, nofun, nofun⟩, nofun⟩
  | succ n ih =>
    unfold unusedPfns
    cases hget : pool.getUnusedPfn it with
    | none => exact ⟨⟨List.nodup_nil, nofun, nofun⟩, nofun⟩
    | some next =>
      obtain ⟨hgap, hfree⟩ := h.searchUnusedPfn_fromGap hit hget
      obtain ⟨hrest, hbase⟩ := ih hgap.inGap
      rw [hgap.base_eq] at hbase
      refine ⟨⟨?_, ?_, ?_⟩, ?_⟩
      · exact List.nodup_cons.mpr ⟨fun hmem => Nat.lt_irrefl _ (hbase _ hmem), hrest.nodup⟩
      · exact List.forall_mem_cons.mpr ⟨hfree, hrest.free⟩
      · exact List.forall_mem_cons.mpr ⟨hgap.not_image, hrest.not_image⟩
      · exact List.forall_mem_cons.mpr
          ⟨hgap.base_lt, fun pfn hmem => Nat.lt_trans hgap.base_lt (hbase pfn hmem)⟩

end PfnPool

/-- The frames that the next step of a thread takes: one for a bounced page, or for a new table. -/
def stepPfns (env : RestoreEnv) (t : Nat) (s : RestoreState) : List Nat :=
  match (s.workers t).pc with
  | .bounce _ => env.pool.unusedPfns 1 s.tables.iterator
  | .update _ _ =>
    if s.tables.curIndex = ENTRIES_PER_TABLE then env.pool.unusedPfns 1 s.tables.iterator else []
  | _ => []

/-- The frames of a whole run of the threads, and those of the relocated code, the stack and the
    page tables behind it. -/
def restorePfns (env : RestoreEnv) (pageTables : Nat) : List Nat → RestoreState → List Nat
  | [], s => env.pool.unusedPfns (3 + pageTables) s.tables.iterator
  | t :: schedule, s =>
    match restoreMachine env s t with
    | none => []
    | some s' => stepPfns env t s ++ restorePfns env pageTables schedule s'

section Restore

variable {env : RestoreEnv} {s s' : RestoreState} {t : Nat} {boot : HibernationBoot}

theorem Moved.stepPfns_eq (h : Moved env t s s') :
    ∃ n, stepPfns env t s = env.pool.unusedPfns n s.tables.iterator ∧
      getUnusedPfns env.pool n s.tables.iterator = some s'.tables.iterator := by
  have hone : ∀ {pfn it}, env.pool.getUnusedPfn s.tables.iterator = some (pfn, it) →
      getUnusedPfns env.pool 1 s.tables.iterator = some it := by
    intro pfn it hget
    rw [getUnusedPfns, hget]
    rfl
  cases h with
  | bounce dstPfn bouncePfn it hpc hget => exact ⟨1, by rw [stepPfns, hpc], hone hget⟩
  | update dstPfn bouncePfn tables hpc hentry =>
    obtain ⟨b, hfind, hb⟩ := Option.map_eq_some_iff.mp hentry
    subst hb
    unfold BounceTables.findNextBounceEntry at hfind
    split_ifs at hfind with hfull
    · obtain ⟨⟨pfn, it⟩, hget, hb⟩ := Option.map_eq_some_iff.mp hfind
      cases hb
      exact ⟨1, by rw [stepPfns, hpc]; exact if_pos hfull, hone hget⟩
    · cases hfind
      exact ⟨0, by rw [stepPfns, hpc]; exact if_neg hfull, rfl⟩
  | decryptFails hpc _ _ _ iv tempOut =>
    refine ⟨0, by rw [stepPfns, hpc]; rfl, ?_⟩
    cases tempOut <;> rfl
  | finish hpc | readFails hpc | read hpc | runEnds hpc | skip hpc | hand hpc | decrypt hpc
  | copy _ hpc | acquire _ hpc | release hpc => exact ⟨0, by rw [stepPfns, hpc]; rfl, rfl⟩

theorem restorePfns_eq {pageTables : Nat} {schedule : List Nat} :
    ∃ n, restorePfns env pageTables schedule s = env.pool.unusedPfns n s.tables.iterator := by
  induction schedule generalizing s with
  | nil => exact ⟨_, rfl⟩
  | cons t schedule ih =>
    unfold restorePfns
    cases hstep : restoreMachine env s t with
    | none => exact ⟨0, rfl⟩
    | some s' =>
      obtain ⟨n, hpfns, hiterator⟩ := (restoreMachine_moved hstep).2.2.stepPfns_eq
      obtain ⟨k, hrest⟩ := @ih s'
      exact ⟨n + k, by rw [PfnPool.unusedPfns_add hiterator, ← hpfns, ← hrest]⟩

/-- All frames of one restore are different, free, and no frames of the image. -/
theorem restorePfns_unused {s₀ : RestoreState}
    (hstart : ((restoreStart boot).exec []).1 = .ok (env, s₀)) (hpool : env.pool.Ascending)
    (schedule : List Nat) :
    ∃ pfn, env.pool.getUnusedPfn ⟨0, 0, 0⟩ = some (pfn, s₀.tables.iterator) ∧
      s₀.tables.firstTable = pfnAddr pfn ∧
      env.pool.Unused (pfn :: restorePfns env boot.pageTables schedule s₀) := by
  have hstarted : wp (restoreStart boot) (fun r _ => ∃ pfn it,
      r.1.pool.getUnusedPfn ⟨0, 0, 0⟩ = some (pfn, it) ∧ r.2.tables.iterator = it ∧
        r.2.tables.firstTable = pfnAddr pfn) (fun _ _ => True) [] := by
    refine restoreStart_of_divideImage fun image nrCopyPages aes pfnArray offset iv auth reads => ?_
    refine wp_imp divideImage_started fun r _ hr => ?_
    obtain ⟨pfn, it, hget, htables⟩ := hr.tables_eq
    exact ⟨pfn, it, hget, by rw [htables], by rw [htables]⟩
  obtain ⟨pfn, it, hget, rfl, htable⟩ := wp_ok hstarted (exec_of_result hstart)
  obtain ⟨n, hrest⟩ := @restorePfns_eq env s₀ boot.pageTables schedule
  refine ⟨pfn, hget, htable, ?_⟩
  have hall := (hpool.unusedPfns_unused (n := n + 1) (PfnPool.start_inGap hget)).1
  rw [PfnPool.unusedPfns, hget] at hall
  rw [hrest]
  exact hall

theorem restorePfns_unused_sample :
    ∃ env s₀, ((restoreStart (sampleHibernation fun _ => EFI_SUCCESS)).exec []).1 = .ok (env, s₀) ∧
      env.pool.Ascending ∧ ∃ pfn, s₀.tables.firstTable = pfnAddr pfn ∧
        env.pool.Unused (pfn :: restorePfns env 2 (List.replicate 9 0) s₀) := by
  obtain ⟨⟨env, s₀⟩, hstart, hs₀⟩ := exec_of_eval
    (restoreStart (sampleHibernation fun _ => EFI_SUCCESS)) []
    (fun r => sampleRestored (List.replicate 9 0) r.1 r.2) (by decide +kernel)
  have hpool := (sampleRestored_increasing hs₀).toAscending
  obtain ⟨pfn, -, htable, hunused⟩ := restorePfns_unused hstart hpool (List.replicate 9 0)
  exact ⟨env, s₀, hstart, hpool, pfn, htable, hunused⟩

end Restore

end OhMyAbl
