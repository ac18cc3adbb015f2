import TestBench.Proofs.ExecutionRun
import TestBench.Session.Basic

/-!
# The run of a session

`Session.run_reports_every_invocation` says what a run comes to, whatever executors and platforms
do: the report has the planned invocations in the order of the plan, and each has the outcome that
its own story gives it. The session may have executed other plans before.

All that a run needs of the session is that nobody stands at a slot of its pool, and every execution
leaves the pool like that.
-/

set_option autoImplicit false

namespace TestBench

namespace Execution

/-- A report names its invocation. -/
theorem Told.names {executor : Executor} {limit : Option Duration} {index : Nat} {i : Invocation}
    {events : List Event} {r : InvocationReport} (h : Told executor limit index i events r) :
    (r.id, r.test, r.target) = (i.id, i.test.name, i.target.map (·.name)) := by
  cases h with
  | untargeted h number outcome ho => rfl
  | served spec h target number outcome ho => rfl
  | refused spec h fault => rfl

end Execution

namespace Session

variable {s : Session} {config : Config} {playbook : Playbook} {registry : Registry} {runId : RunId}
  {ids : Nat → TargetId}

/-- The events while a session executes a plan. -/
def story (s : Session) (executor : Executor) (plan : List Invocation) : List Execution.Event :=
  Execution.story s.config.width s.config.testTimeout executor s.pool s.calls plan

/-- The session after it has executed some plans, one after the other. -/
def afterExecutions (s : Session) : List (Executor × List Invocation) → Session
  | [] => s
  | (executor, plan) :: rest => (s.execute executor plan).2.afterExecutions rest

/-- A session of a playbook and settings that is not over and not executing. -/
structure Open (config : Config) (playbook : Playbook) (s : Session) : Prop where
  /-- The settings are those of the session. -/
  config : s.config = config
  /-- The playbook is that of the session. -/
  playbook : s.playbook = playbook
  /-- The pool has not been emptied for good. -/
  tornDown : s.tornDown = false
  /-- Nobody stands at a slot. -/
  slots : s.pool.slots = []

/-- A session that is opened starts with an empty pool. -/
theorem eq_of_withPlaybook (h : withPlaybook config playbook registry runId ids = .ok s) :
    s = ⟨runId, config, playbook, .empty registry config.keepTargets ids, [], false⟩ := by
  rw [withPlaybook] at h
  split at h
  · cases h
  · exact (Except.ok.inj h).symm

theorem open_withPlaybook (h : withPlaybook config playbook registry runId ids = .ok s) :
    Open config playbook s := by
  obtain rfl := eq_of_withPlaybook h
  exact ⟨rfl, rfl, rfl, rfl⟩

theorem width_pos (config : Config) : 0 < config.width :=
  Nat.lt_of_lt_of_le Nat.one_pos (Nat.le_max_right config.jobs 1)

/-- Nobody stands at a slot after an execution. -/
theorem slots_execute (h : s.pool.slots = []) (executor : Executor) (plan : List Invocation) :
    (s.execute executor plan).2.pool.slots = [] :=
  (Execution.complete_told s.config.testTimeout executor s.calls plan (width_pos s.config)
    h).2.2.2.2

theorem Open.execute (h : Open config playbook s) (executor : Executor) (plan : List Invocation) :
    Open config playbook (s.execute executor plan).2 :=
  ⟨h.config, h.playbook, h.tornDown, slots_execute h.slots executor plan⟩

theorem Open.afterExecutions (h : Open config playbook s)
    (earlier : List (Executor × List Invocation)) :
    Open config playbook (s.afterExecutions earlier) := by
  induction earlier generalizing s with
  | nil => exact h
  | cons execution rest ih => exact ih (h.execute execution.1 execution.2)

/-- The names of the invocations of a test, of the test, and of the target specifications. -/
def invocationNames (specs : List TargetSpec) (test : Case) :
    List (String × String × Option String) :=
  if test.requiresTarget then
    specs.map fun spec => (s!"{test.name}[{spec.name}]", test.name, some spec.name)
  else [(test.name, test.name, none)]

/-- A plan has the invocations of every test, in the order of the tests. -/
theorem map_names_plan (s : Session) (tests : List Case) :
    (s.plan tests).map (fun i => (i.id, i.test.name, i.target.map (·.name))) =
      tests.flatMap (invocationNames s.targetSpecs) := by
  rw [plan, List.map_flatMap]
  refine List.flatMap_congr fun test _ => ?_
  rw [invocations, invocationNames]
  split
  · rw [List.map_map]
    rfl
  · rfl

/-- **A run reports every planned invocation, in order, with the outcome of its own story.** For a
session that was opened with a playbook and has executed any plans since, a catalog that is valid,
and any executor: the run returns a report whose invocations are those of the selected tests, one
for each target specification if the test needs a target. An invocation that needs a target has one
settled resolution: with a target the executor is called once, with that target, and the outcome is
what the body has come to; with a fault the executor is not called, and the outcome has the text of
the fault and no target. For the other invocations the executor is called once. It is called for
nothing else. -/
theorem run_reports_every_invocation {s₀ : Session} {catalog : List Entry} {tests : List Case}
    (hopen : withPlaybook config playbook registry runId ids = .ok s₀)
    (hvalid : Catalog.validate catalog = .ok tests) (executor : Executor)
    (earlier : List (Executor × List Invocation)) :
    let s := s₀.afterExecutions earlier
    let plan := s.plan (s.select tests).tests
    let history := s.story executor plan
    ∃ report s', s.run executor catalog = .ok (report, s') ∧
      report.invocations.map (fun r => (r.id, r.test, r.target)) =
        (s.select tests).tests.flatMap (invocationNames (effectiveTargets playbook config)) ∧
      (∀ (index : Nat) (i : Invocation), plan[index]? = some i →
        ∃ r, report.invocations[index]? = some r ∧
          Execution.Told executor config.testTimeout index i (Execution.about index history) r) ∧
      (∀ event ∈ history, event.index < plan.length) ∧
      s'.calls.zipIdx = s.calls.zipIdx ++ history.filterMap Execution.Event.call? := by
  intro s plan history
  have hs : Open config playbook s := (open_withPlaybook hopen).afterExecutions earlier
  obtain ⟨hlength, htold, hevents, hcalls, -⟩ := Execution.complete_told s.config.testTimeout
    executor s.calls plan (width_pos s.config) hs.slots
  let e := Execution.complete s.config.width s.config.testTimeout executor s.pool s.calls plan
  have hrun : s.run executor catalog = .ok
      ({ (Report.start s.runId).recordSelection (s.select tests) with
          invocations := e.results }.finish e.pool.teardown.1,
        (s.execute executor plan).2.close.2) := by
    simp only [Session.run, hs.tornDown, hvalid]
    rfl
  refine ⟨_, _, hrun, ?_, fun index i hi => ?_, hevents, hcalls⟩
  · have hspecs : s.targetSpecs = effectiveTargets playbook config := by
      rw [targetSpecs, hs.playbook, hs.config]
    rw [← hspecs, ← map_names_plan]
    -- there are as many results as invocations, and each has the names of the one at its place
    show e.results.map (fun r => (r.id, r.test, r.target)) = plan.map _
    apply List.ext_getElem?
    intro index
    rw [List.getElem?_map, List.getElem?_map]
    cases hi : plan[index]? with
    | none =>
        have hout := List.getElem?_eq_none_iff.1 hi
        rw [List.getElem?_eq_none (hlength.symm ▸ hout : e.results.length ≤ index)]
        rfl
    | some i =>
        obtain ⟨r, hr, hstory⟩ := htold index i hi
        rw [hr]
        exact congrArg some hstory.names
  · rw [← hs.config]
    exact htold index i hi

/-- A test that needs a target is run on two targets, of which one is never built, and a test that
needs none comes after it. -/
theorem run_reports_refused_and_served :
    let registry := Registry.builtin.register "odd" (Simulation.basic "mock").platform
    let playbook : Playbook := ⟨[.basic "good" "mock", .basic "bad" "odd"], []⟩
    let catalog : List Entry := [⟨"a", none, true, ∅⟩, ⟨"b", none, false, ∅⟩]
    let tests : List Case := [⟨"a", none, true, ∅⟩, ⟨"b", none, false, ∅⟩]
    let ids : Nat → TargetId := fun n => ⟨BitVec.ofNat 128 n⟩
    let s : Session := ⟨⟨0⟩, .usual, playbook, .empty registry false ids, [], false⟩
    withPlaybook .usual playbook registry ⟨0⟩ ids = .ok s ∧ Catalog.validate catalog = .ok tests ∧
      ∃ report s', s.run .dryRun catalog = .ok (report, s') ∧
        report.invocations.map (fun r => (r.id, r.test, r.target)) =
          [("a[good]", "a", some "good"), ("a[bad]", "a", some "bad"), ("b", "b", none)] := by
  intro registry playbook catalog tests ids s
  have hopen : withPlaybook .usual playbook registry ⟨0⟩ ids = .ok s := by rfl
  have hvalid : Catalog.validate catalog = .ok tests := by rfl
  obtain ⟨report, s', hrun, hnames, -⟩ := run_reports_every_invocation hopen hvalid .dryRun []
  exact ⟨hopen, hvalid, report, s', hrun, hnames.trans (by rfl)⟩

end Session

end TestBench
