import TestBench.Proofs.PoolTeardown
import TestBench.Proofs.SessionUse

/-!
# Every pooled target is settled once

`Session.teardown_settles_once` says what becomes of the targets in the pool at the end, for pools
that are reached by any traffic and for sessions that were used in any way: each of them is
attempted once, in the order in which they were built and whatever the platforms answer, or each is
listed as kept; the pool is empty afterwards, so a second teardown finds nothing to do; and the
numbers in the report of a run add up to the number of the targets.

What a pool needs for this, that every kind is answered to, is kept by single changes. So it is
carried through sessions by `Session.Orderly.kept_after`, which does the same for any such property.
-/

set_option autoImplicit false

namespace TestBench

namespace Session

variable {s : Session} {config : Config} {playbook : Playbook} {registry : Registry} {runId : RunId}
  {ids : Nat → TargetId} {P : Pool → Prop}

/-! ## What is kept in the pool of a session -/

theorem Orderly.kept_execute (h : Orderly s) (hP : Pool.Kept P) (hpool : P s.pool)
    (executor : Executor) (plan : List Invocation) : P (s.execute executor plan).2.pool :=
  Execution.kept_run hP s.config.testTimeout executor s.calls plan (width_pos s.config) h.slots
    hpool (Execution.stepBound plan.length)

theorem Orderly.kept_perform (h : Orderly s) (hP : Pool.Kept P)
    (hteardown : ∀ p, P p → P p.teardown.2) (hpool : P s.pool) (operation : Operation) :
    P (s.perform operation).pool := by
  cases operation with
  | execute executor plan => exact h.kept_execute hP hpool executor plan
  | run executor catalog =>
      simp only [Session.perform, Session.run]
      by_cases htorn : s.tornDown = true
      · rw [if_pos htorn]
        exact hpool
      · rw [if_neg htorn]
        cases Catalog.validate catalog with
        | error rejection => exact hteardown _ hpool
        | ok tests =>
            apply hteardown
            exact h.kept_execute hP hpool executor (s.plan (s.select tests).tests)
  | use use =>
      cases use with
      | resolve r => exact hP.settled _ _ _ _ (Pool.resolve_answered s.pool r).settled hpool
      | release serial => exact hP.release _ _ hpool
  | teardown =>
      simp only [Session.perform, Session.teardown]
      by_cases htorn : s.tornDown = true
      · rw [if_pos htorn]
        exact hpool
      · rw [if_neg htorn]
        exact hteardown _ hpool

/-- **What single changes and teardowns keep is true of the pool after any operations.** -/
theorem Orderly.kept_after (h : Orderly s) (hP : Pool.Kept P)
    (hteardown : ∀ p, P p → P p.teardown.2) (hpool : P s.pool) (operations : List Operation) :
    P (s.after operations).pool := by
  induction operations generalizing s with
  | nil => exact hpool
  | cons operation rest ih =>
      exact ih (h.perform operation) (h.kept_perform hP hteardown hpool operation)

/-- In the pool of a session that was used in any way every kind is answered to, and targets are
kept if the settings say so. -/
theorem served_and_keep_after (h : withPlaybook config playbook registry runId ids = .ok s)
    (operations : List Operation) :
    (s.after operations).pool.Served ∧ (s.after operations).pool.keep = config.keepTargets := by
  have horderly := orderly_withPlaybook h
  obtain rfl := eq_of_withPlaybook h
  constructor
  · exact horderly.kept_after Pool.served_kept (fun p _ => p.served_teardown)
      (fun _ ht => absurd ht List.not_mem_nil) operations
  · exact horderly.kept_after (Pool.keep_kept config.keepTargets) (fun _ => Pool.keep_teardown) rfl
      operations

/-! ## The end of a run -/

/-- The session in a run just before its pool is emptied: the selected tests of a valid catalog have
been executed. -/
def beforeClose (s : Session) (executor : Executor) (catalog : List Entry) : Session :=
  match Catalog.validate catalog with
  | .error _ => s
  | .ok tests => (s.execute executor (s.plan (s.select tests).tests)).2

theorem Orderly.beforeClose_kept (h : Orderly s) (hP : Pool.Kept P) (hpool : P s.pool)
    (executor : Executor) (catalog : List Entry) : P (s.beforeClose executor catalog).pool := by
  rw [beforeClose]
  cases Catalog.validate catalog with
  | error rejection => exact hpool
  | ok tests => exact h.kept_execute hP hpool executor (s.plan (s.select tests).tests)

/-- **A run ends with a teardown of its pool**, and its report has the summary. -/
theorem exists_run_eq (htorn : s.tornDown = false) (executor : Executor) (catalog : List Entry) :
    ∃ report, s.run executor catalog = .ok (report, (s.beforeClose executor catalog).close.2) ∧
      report.teardown = some (s.beforeClose executor catalog).pool.teardown.1.summary := by
  cases hvalid : Catalog.validate catalog with
  | error rejection =>
      have hbefore : s.beforeClose executor catalog = s := by rw [beforeClose, hvalid]
      rw [hbefore, Session.run, htorn, hvalid]
      exact ⟨_, rfl, rfl⟩
  | ok tests =>
      have hbefore : s.beforeClose executor catalog =
          (s.execute executor (s.plan (s.select tests).tests)).2 := by rw [beforeClose, hvalid]
      rw [hbefore, Session.run, htorn, hvalid]
      exact ⟨_, rfl, rfl⟩

/-! ## The main statement -/

/-- **A teardown settles every pooled target once.** At a pool with any platforms and after any
interleaving of moves, the targets stand in the order in which they were built, and a teardown
attempts each of them once, whatever the platforms answer, or lists each as kept without asking the
platforms for anything; all are accounted for, and no target is left. However many leases are
dropped then, a second teardown finds nothing and asks for nothing. The same is true of the pool
that a session has when it is torn down, and of the pool that it has at the end of a run, whose
report has a summary that accounts for all targets. -/
theorem teardown_settles_once {s₀ : Session}
    (hopen : withPlaybook config playbook registry runId ids = .ok s₀) :
    (∀ (platforms : Registry) (keep : Bool) (names : Nat → TargetId) (moves : List Traffic.Move),
      let p := ((Traffic.start platforms keep names).after moves).pool
      let q := p.teardown.2
      (p.targets.map (·.serial)).Pairwise (· < ·) ∧ p.keep = keep ∧ p.Settles p.teardown.1 q ∧
      ∀ drops : List Nat,
        (q.after (drops.map .release)).teardown = (Teardown.none, q)) ∧
    ∀ earlier : List Operation,
      let s := s₀.after earlier
      s.pool.keep = config.keepTargets ∧
      (s.tornDown = false →
        (∃ done s', s.teardown = .ok (done, s') ∧ s.pool.Settles done s'.pool) ∧
        ∀ (executor : Executor) (catalog : List Entry),
          let p := (s.beforeClose executor catalog).pool
          p.keep = config.keepTargets ∧
          ∃ report done s', s.run executor catalog = .ok (report, s') ∧ p.Settles done s'.pool ∧
            report.teardown = some done.summary ∧
            done.summary.deprovisioned + done.summary.kept + done.summary.failures.length =
              p.targets.length) := by
  refine ⟨fun platforms keep names moves => ?_, fun earlier => ?_⟩
  · intro p q
    obtain ⟨hnumbered, hserved, hkeep⟩ := Traffic.pool_facts_after platforms keep names moves
    have hsettles : p.Settles p.teardown.1 q := Pool.Served.settles hserved
    refine ⟨hnumbered.ascending, hkeep, hsettles, fun drops => ?_⟩
    rw [Pool.after_release_eq_self hsettles.targets_eq_nil drops]
    exact Pool.teardown_of_targets_eq_nil hsettles.targets_eq_nil
  · intro s
    have horderly : Orderly s := (orderly_withPlaybook hopen).after earlier
    obtain ⟨hserved, hkeep⟩ := served_and_keep_after hopen earlier
    refine ⟨hkeep, fun htorn => ⟨?_, fun executor catalog => ?_⟩⟩
    · refine ⟨s.pool.teardown.1, s.close.2, ?_, hserved.settles⟩
      rw [Session.teardown, htorn]
      rfl
    · intro p
      have hkeep' : p.keep = config.keepTargets :=
        horderly.beforeClose_kept (Pool.keep_kept _) hkeep executor catalog
      have hserved' : p.Served :=
        horderly.beforeClose_kept Pool.served_kept hserved executor catalog
      obtain ⟨report, hrun, hsummary⟩ := exists_run_eq htorn executor catalog
      refine ⟨hkeep', report, p.teardown.1, (s.beforeClose executor catalog).close.2, hrun,
        hserved'.settles, hsummary, ?_⟩
      rw [← hserved'.settles.length_eq, Teardown.summary, List.length_map]

/-- The first target cannot be deleted, and the second one is deleted all the same. -/
theorem teardown_settles_after_failure :
    let stuck : Simulation := { Simulation.basic "stuck" with refusesDeletion := true }
    let registry := Registry.builtin.register "stuck" stuck.platform
    let playbook : Playbook := ⟨[.basic "first" "stuck", .basic "second" "mock"], []⟩
    let catalog : List Entry := [⟨"a", none, true, ∅⟩]
    let ids : Nat → TargetId := fun n => ⟨BitVec.ofNat 128 n⟩
    let s₀ : Session := ⟨⟨0⟩, .usual, playbook, .empty registry false ids, [], false⟩
    let p := (s₀.beforeClose .dryRun catalog).pool
    withPlaybook .usual playbook registry ⟨0⟩ ids = .ok s₀ ∧
      p.teardown.1 = ⟨[ids 1], [],
        [.notDeprovisioned (ids 0) "Mock platform failed to delete mock-vm-0000"]⟩ ∧
      ∃ report done s', s₀.run .dryRun catalog = .ok (report, s') ∧ p.Settles done s'.pool ∧
        report.teardown = some done.summary ∧
        done.summary.deprovisioned + done.summary.kept + done.summary.failures.length = 2 := by
  intro stuck registry playbook catalog ids s₀ p
  have hopen : withPlaybook .usual playbook registry ⟨0⟩ ids = .ok s₀ := by rfl
  have hlength : p.targets.length = 2 := by decide +kernel
  obtain ⟨-, hrun⟩ := ((teardown_settles_once hopen).2 []).2 rfl
  have hafter : s₀.after [] = s₀ := rfl
  rw [hafter] at hrun
  obtain ⟨-, report, done, s', hreport, hsettles, hsummary, hsum⟩ := hrun .dryRun catalog
  have hdone : p.teardown.1 = ⟨[ids 1], [],
      [.notDeprovisioned (ids 0) "Mock platform failed to delete mock-vm-0000"]⟩ := by
    decide +kernel
  exact ⟨hopen, hdone, report, done, s', hreport, hsettles, hsummary, hsum.trans hlength⟩

end Session

end TestBench
