import TestBench.Proofs.ExecutionLeases
import TestBench.Proofs.SessionUse

/-!
# Every lease is accounted for

`Session.leases_accounted` says at three levels that leases and connections agree. At a pool, with
requests resolved and leases dropped in any interleaving, every target counts the leases that are
held on it and those that were taken on it. In an execution, at any point and whatever the session
was used for before, a body runs with the connection of its target open. And a session that only
executes plans has all its targets closed after each of them, and a target was opened once for every
report that carries its identifier.

The last part counts reports across executions. `Session.Returned` carries it from one execution to
the next: the targets that were handed to bodies so far stand between the reports and the pool.
-/

set_option autoImplicit false

namespace TestBench

namespace Session

variable {s : Session} {config : Config} {playbook : Playbook} {registry : Registry} {runId : RunId}
  {ids : Nat → TargetId}

/-! ## From a session in order -/

/-- The counts are right at every point of an execution, on top of any counts that were right at its
start. -/
theorem Orderly.counted_of_lent {active opened : Nat → Nat} (h : Orderly s)
    (hlent : Pool.Lent s.pool.targets s.pool.built active opened) (executor : Executor)
    (plan : List Invocation) (n : Nat) :
    let e := s.begin executor plan
    Execution.Counted active opened (e.trace n) (e.run n) :=
  Execution.counted_run s.config.testTimeout executor s.calls plan (width_pos s.config) h.slots
    hlent n

theorem Orderly.exists_counted (h : Orderly s) (executor : Executor) (plan : List Invocation)
    (n : Nat) :
    let e := s.begin executor plan
    ∃ active opened, Execution.Counted active opened (e.trace n) (e.run n) := by
  obtain ⟨active, opened, hlent⟩ := h.numbered.exists_lent
  exact ⟨active, opened, h.counted_of_lent hlent executor plan n⟩

/-! ## Executions one after the other -/

/-- The reports that some executions return, one after the other. -/
def reported (s : Session) : List (Executor × List Invocation) → List InvocationReport
  | [] => []
  | (executor, plan) :: rest =>
      (s.execute executor plan).1 ++ (s.execute executor plan).2.reported rest

/-- The pool of a session after executions that have returned some reports, in which some targets
were handed to bodies. -/
structure Returned (reports : List InvocationReport) (handed : List Target) (s : Session) : Prop where
  /-- The session is in order. -/
  orderly : Orderly s
  /-- All targets are closed, and they were opened whenever they were handed to a body. -/
  lent : Pool.Lent s.pool.targets s.pool.built (fun _ => 0)
    fun n => (handed.map (·.serial)).count n
  /-- The handed targets are in the pool. -/
  pooled : ∀ target ∈ handed, target.bare ∈ s.pool.bare
  /-- There is a report for each of them, which carries its identifier. -/
  reports : ∀ id : TargetId, reports.countP (fun r => r.targetId == some id) =
    handed.countP fun target => target.id == id

/-- **An execution leaves all targets closed, and reports each lease.** -/
theorem Returned.execute {reports : List InvocationReport} {handed : List Target}
    (h : Returned reports handed s) (executor : Executor) (plan : List Invocation) :
    Returned (reports ++ (s.execute executor plan).1)
      (handed ++ Execution.handed (s.story executor plan)) (s.execute executor plan).2 := by
  have hcounted := h.orderly.counted_of_lent h.lent executor plan
    (Execution.stepBound plan.length)
  have hidle : (Execution.complete s.config.width s.config.testTimeout executor s.pool s.calls
      plan).tasks = [] :=
    Execution.tasks_complete s.config.testTimeout executor s.calls plan (width_pos s.config)
      h.orderly.slots
  constructor
  case orderly => exact h.orderly.execute executor plan
  case lent =>
    refine hcounted.lent.congr (fun n => ?_) fun n => ?_
    · -- nobody is in flight any more, so no lease is held
      have hleases : (Execution.complete s.config.width s.config.testTimeout executor s.pool
          s.calls plan).leases = [] := by rw [Execution.leases, hidle, List.flatMap_nil]
      show 0 = 0 + List.count n (Execution.complete s.config.width s.config.testTimeout executor
        s.pool s.calls plan).leases
      rw [hleases, List.count_nil]
    · rw [List.map_append, List.count_append]
      rfl
  case pooled =>
    intro target hmem
    rcases List.mem_append.1 hmem with hmem | hmem
    · exact Execution.kept_run (Pool.kept_mem_bare target.bare) s.config.testTimeout executor
        s.calls plan (width_pos s.config) h.orderly.slots (h.pooled target hmem)
        (Execution.stepBound plan.length)
    · exact hcounted.pooled target hmem
  case reports =>
    intro id
    have hreports := Execution.countP_targetId_results s.config.testTimeout executor s.calls plan
      (width_pos s.config) h.orderly.slots id
    rw [List.countP_append, List.countP_append, h.reports id]
    exact congrArg _ hreports

/-- All executions together. -/
theorem Returned.afterExecutions {reports : List InvocationReport} {handed : List Target}
    (h : Returned reports handed s) (executions : List (Executor × List Invocation)) :
    ∃ handed', Returned (reports ++ s.reported executions) handed'
      (s.afterExecutions executions) := by
  induction executions generalizing s reports handed with
  | nil =>
      refine ⟨handed, ?_⟩
      rw [reported, List.append_nil]
      exact h
  | cons execution rest ih =>
      obtain ⟨executor, plan⟩ := execution
      rw [reported, ← List.append_assoc]
      exact ih (h.execute executor plan)

theorem returned_withPlaybook (h : withPlaybook config playbook registry runId ids = .ok s) :
    Returned [] [] s := by
  have horderly := orderly_withPlaybook h
  obtain rfl := eq_of_withPlaybook h
  have hnobody : ∀ t : Target, t ∉ (Pool.empty registry config.keepTargets ids).targets :=
    fun _ => List.not_mem_nil
  exact ⟨horderly, ⟨List.Pairwise.nil, fun t ht => absurd ht (hnobody t),
    fun t ht => absurd ht (hnobody t), fun _ _ => ⟨rfl, rfl⟩⟩,
    fun _ hmem => absurd hmem List.not_mem_nil, fun _ => rfl⟩

/-- A target that shares its identifier with no other target in the pool was opened once for every
report that carries the identifier. -/
theorem Returned.opened_eq {reports : List InvocationReport} {handed : List Target}
    (h : Returned reports handed s) {t : Target} (ht : t ∈ s.pool.targets)
    (hunique : ∀ u ∈ s.pool.targets, u.id = t.id → u = t) :
    t.connection.opened = reports.countP fun r => r.targetId == some t.id := by
  rw [h.reports t.id, h.lent.connection t ht]
  show (handed.map (·.serial)).count t.serial = _
  rw [List.count, List.countP_map]
  refine List.countP_congr fun target hmem => ?_
  simp only [Function.comp, beq_iff_eq]
  -- the pool has the target that was handed out, and there it is told apart in both ways
  obtain ⟨u, hu, hbare⟩ := List.mem_map.1 (h.pooled target hmem)
  have hserial : u.serial = target.serial := congrArg (fun v => v.bare.serial) hbare
  have hid : u.id = target.id := congrArg (fun v => v.bare.id) hbare
  rw [← hserial, ← hid]
  constructor
  · intro heq
    rw [List.inj_on_of_nodup_map h.lent.nodup hu ht heq]
  · intro heq
    rw [hunique u hu heq]

/-! ## The main statement -/

/-- **Every lease is accounted for.** At a pool with any platforms and after any interleaving of
moves, every target counts as active the leases that are held on it and as opened those that were
ever taken on it; so it is open just if a lease on it is held, and whoever drops a lease finds a
count above zero. In a session that was opened with a playbook and used in any way since, and at
every point of the execution of any plan, a body that needs a target is called with an open one, and
as long as it runs, its target is in the pool and open. And when the session does nothing but
execute plans, with any executors, then all targets in its pool are closed after them, and a target
was opened as often as the reports returned so far carry its identifier, if it shares that with no
other target in the pool. -/
theorem leases_accounted {s₀ : Session}
    (hopen : withPlaybook config playbook registry runId ids = .ok s₀) :
    (∀ (platforms : Registry) (keep : Bool) (names : Nat → TargetId) (moves : List Traffic.Move),
      let T := (Traffic.start platforms keep names).after moves
      (T.targets.map (·.serial)).Nodup ∧
      (∀ t ∈ T.targets, t.connection.active = T.held.count t.serial ∧
        t.connection.opened = T.taken.count t.serial ∧
        (t.connection.isOpen = true ↔ t.serial ∈ T.held)) ∧
      ∀ n ∈ T.held, ∃ t ∈ T.targets, t.serial = n ∧ 0 < t.connection.active) ∧
    (∀ (earlier : List Operation) (executor : Executor) (plan : List Invocation) (n : Nat),
      let e := (s₀.after earlier).begin executor plan
      (∀ (index number : Nat) (i : Invocation) (target : Target),
        .called index number ⟨i, some target⟩ ∈ e.trace n → target.connection.isOpen = true) ∧
      ∀ t ∈ (e.run n).tasks, ∀ (target : Target) (finish : Nat) (outcome : Outcome),
        t.progress = .running (some target) finish outcome →
          ∃ u ∈ (e.run n).pool.targets, u.bare = target.bare ∧ u.connection.isOpen = true) ∧
    ∀ executions : List (Executor × List Invocation),
      let s := s₀.afterExecutions executions
      ∀ t ∈ s.pool.targets, t.connection.isOpen = false ∧
        ((∀ u ∈ s.pool.targets, u.id = t.id → u = t) →
          t.connection.opened =
            (s₀.reported executions).countP fun r => r.targetId == some t.id) := by
  refine ⟨fun platforms keep names moves => ?_, fun earlier executor plan n => ?_,
    fun executions => ?_⟩
  · intro T
    have hbalanced : Traffic.Balanced T := Traffic.balanced_after platforms keep names moves
    refine ⟨hbalanced.lent.nodup, fun t ht => ?_, fun n hn => hbalanced.exists_active hn⟩
    have hconnection := hbalanced.lent.connection t ht
    exact ⟨congrArg Connection.active hconnection, congrArg Connection.opened hconnection,
      hbalanced.isOpen_iff ht⟩
  · intro e
    have horderly : Orderly (s₀.after earlier) := (orderly_withPlaybook hopen).after earlier
    obtain ⟨active, opened, hcounted⟩ := horderly.exists_counted executor plan n
    constructor
    · intro index number i target hcall
      exact hcounted.isOpen target (List.mem_filterMap.2 ⟨_, hcall, rfl⟩)
    · intro t ht target finish outcome hruns
      exact hcounted.exists_open ⟨t, ht, by rw [hruns]; rfl⟩
  · intro s t ht
    obtain ⟨handed, hreturned⟩ := (returned_withPlaybook hopen).afterExecutions executions
    rw [List.nil_append] at hreturned
    constructor
    · rw [hreturned.lent.connection t ht]
      rfl
    · intro hunique
      exact hreturned.opened_eq ht hunique

/-- Two plans are executed, one after the other, and both need one target for two tests. The first
body takes some time and breaks down, while the second one runs on the same target. -/
theorem leases_accounted_on_shared_target :
    let playbook : Playbook := ⟨[.basic "good" "mock"], []⟩
    let ids : Nat → TargetId := fun n => ⟨BitVec.ofNat 128 n⟩
    let s₀ : Session := ⟨⟨0⟩, .usual, playbook, .empty Registry.builtin false ids, [], false⟩
    let tests : List Case := [⟨"a", none, true, ∅⟩, ⟨"b", none, true, ∅⟩]
    let breaking : Executor := fun number _ _ => if number = 0 then ⟨5, .brokeDown⟩ else ⟨2, .passed⟩
    let executions := [(breaking, s₀.plan tests), (Executor.dryRun, s₀.plan tests)]
    withPlaybook .usual playbook Registry.builtin ⟨0⟩ ids = .ok s₀ ∧
      ∃ t, (s₀.afterExecutions executions).pool.targets = [t] ∧ t.connection = ⟨0, 4⟩ ∧
        t.connection.isOpen = false ∧
        (s₀.reported executions).countP (fun r => r.targetId == some t.id) = 4 := by
  intro playbook ids s₀ tests breaking executions
  have hopen : withPlaybook .usual playbook Registry.builtin ⟨0⟩ ids = .ok s₀ := by rfl
  have hconnections :
      (s₀.afterExecutions executions).pool.targets.map (·.connection) = [⟨0, 4⟩] := by
    decide +kernel
  obtain ⟨t, htargets, hconnection⟩ := List.map_eq_singleton_iff.1 hconnections
  have ht : t ∈ (s₀.afterExecutions executions).pool.targets := by
    rw [htargets]
    exact List.mem_singleton_self t
  obtain ⟨hclosed, hopened⟩ := (leases_accounted hopen).2.2 executions t ht
  have hunique : ∀ u ∈ (s₀.afterExecutions executions).pool.targets, u.id = t.id → u = t := by
    intro u hu _
    rw [htargets] at hu
    exact List.mem_singleton.1 hu
  refine ⟨hopen, t, htargets, hconnection, hclosed, ?_⟩
  rw [← hopened hunique, hconnection]

end Session

end TestBench
