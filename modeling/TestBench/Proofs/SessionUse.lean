import TestBench.Proofs.ExecutionTargets
import TestBench.Proofs.PoolRelease
import TestBench.Proofs.SessionRun

/-!
# No test runs on an unsuitable target

A session may be used in any way before a plan is executed: it executes other plans, runs catalogs,
has its pool used directly, or is torn down and used further. `Session.Operation` lists what can be
done with it, and `Session.Orderly` says what all of this leaves in order, namely that nobody stands
at a slot of the pool and that a serial number stands for one target.

From there `Session.executor_called_on_suitable_targets` follows for every point of an execution, by
what an execution hands to its bodies. For the plans that a session makes itself it says also that
the tests that need no target are the ones whose bodies run without one.
-/

set_option autoImplicit false

namespace TestBench

namespace Session

variable {s : Session} {config : Config} {playbook : Playbook} {registry : Registry} {runId : RunId}
  {ids : Nat → TargetId}

/-! ## The use of a session -/

/-- What can be done with a session between two executions. -/
inductive Operation where
  /-- A plan is executed, whoever made it. -/
  | execute (executor : Executor) (plan : List Invocation)
  /-- A catalog is run, which empties the pool. -/
  | run (executor : Executor) (catalog : List Entry)
  /-- The pool is used directly. -/
  | use (use : Pool.Use)
  /-- The pool is emptied. -/
  | teardown

/-- The session after one operation, whether it was refused or not. -/
def perform (s : Session) : Operation → Session
  | .execute executor plan => (s.execute executor plan).2
  | .run executor catalog =>
      match s.run executor catalog with
      | .ok (_, s) => s
      | .error _ => s
  | .use use => { s with pool := s.pool.perform use }
  | .teardown =>
      match s.teardown with
      | .ok (_, s) => s
      | .error _ => s

/-- The session after some operations, one after the other. -/
def after (s : Session) (operations : List Operation) : Session := operations.foldl perform s

/-- The execution of a plan before its first step. -/
def begin (s : Session) (executor : Executor) (plan : List Invocation) : Execution :=
  .start s.config.width s.config.testTimeout executor s.pool s.calls plan

/-! ## What is in order between two executions -/

/-- A session that is not executing is in order. -/
structure Orderly (s : Session) : Prop where
  /-- Nobody stands at a slot. -/
  slots : s.pool.slots = []
  /-- A serial number stands for one target. -/
  numbered : s.pool.Numbered

theorem orderly_withPlaybook (h : withPlaybook config playbook registry runId ids = .ok s) :
    Orderly s := by
  obtain rfl := eq_of_withPlaybook h
  exact ⟨rfl, Pool.numbered_empty registry config.keepTargets ids⟩

/-- **From a session in order every execution hands to its bodies what they need**, however far it
has come. -/
theorem Orderly.provided (h : Orderly s) (executor : Executor) (plan : List Invocation) (n : Nat) :
    let e := s.begin executor plan
    Execution.Provided plan (e.trace n) (e.run n) ∧
      (e.run n).calls.zipIdx =
        s.calls.zipIdx ++ (e.trace n).filterMap Execution.Event.call? :=
  Execution.provided_run s.config.testTimeout executor s.calls plan (width_pos s.config) h.slots
    h.numbered n

theorem Orderly.execute (h : Orderly s) (executor : Executor) (plan : List Invocation) :
    Orderly (s.execute executor plan).2 := by
  have hprovided := h.provided executor plan (Execution.stepBound plan.length)
  exact ⟨slots_execute h.slots executor plan, hprovided.1.numbered⟩

theorem Orderly.close (h : Orderly s) : Orderly s.close.2 := by
  obtain ⟨registry, hpool⟩ := s.pool.teardown_exists_registry
  have hpool : s.close.2.pool = { s.pool with targets := [], registry := registry } := hpool
  constructor
  case slots =>
    rw [hpool]
    exact h.slots
  case numbered =>
    rw [hpool]
    exact ⟨List.Pairwise.nil, fun _ ht => absurd ht List.not_mem_nil⟩

theorem Orderly.run (h : Orderly s) (executor : Executor) (catalog : List Entry) :
    Orderly (s.perform (.run executor catalog)) := by
  simp only [perform, Session.run]
  by_cases htorn : s.tornDown = true
  · rw [if_pos htorn]
    exact h
  · rw [if_neg htorn]
    cases Catalog.validate catalog with
    | error rejection => exact h.close
    | ok tests => exact (h.execute executor (s.plan (s.select tests).tests)).close

theorem Orderly.teardown (h : Orderly s) : Orderly (s.perform .teardown) := by
  simp only [perform, Session.teardown]
  by_cases htorn : s.tornDown = true
  · rw [if_pos htorn]
    exact h
  · rw [if_neg htorn]
    exact h.close

/-- **Every operation leaves the session in order.** -/
theorem Orderly.perform (h : Orderly s) (operation : Operation) :
    Orderly (s.perform operation) := by
  cases operation with
  | execute executor plan => exact h.execute executor plan
  | run executor catalog => exact h.run executor catalog
  | use use => exact ⟨(s.pool.slots_perform use).trans h.slots, h.numbered.perform use⟩
  | teardown => exact h.teardown

theorem Orderly.after (h : Orderly s) (operations : List Operation) :
    Orderly (s.after operations) := by
  induction operations generalizing s with
  | nil => exact h
  | cons operation rest ih => exact ih (h.perform operation)

/-! ## Bodies and their targets -/

/-- A planned invocation has a specification just if its test needs a target. -/
theorem target_eq_none_iff_of_mem_plan {tests : List Case} {i : Invocation}
    (h : i ∈ s.plan tests) : i.target = none ↔ i.test.requiresTarget = false := by
  obtain ⟨test, -, hi⟩ := List.mem_flatMap.1 h
  rw [invocations] at hi
  split at hi
  · next hneeds =>
      obtain ⟨spec, -, rfl⟩ := List.mem_map.1 hi
      exact iff_of_false (Option.some_ne_none spec) (by simp [Invocation.of, hneeds])
  · next hneeds =>
      rw [List.mem_singleton.1 hi]
      exact iff_of_true rfl (Bool.eq_false_iff.2 hneeds)

/-- **No test runs on an unsuitable target.** For a session that was opened with a playbook, with
any platforms, and used in any way since: at every point of the execution of any plan the calls to
the executor so far are those of the history, each is for the invocation at its place in the plan,
and it has a target just if that invocation names a specification. The target then has the platform
and the parameters of the specification and all features of the test. In the plans that the session
makes, a call comes without a target just if its test requires none, and the executor is called for
every such invocation. -/
theorem executor_called_on_suitable_targets {s₀ : Session}
    (hopen : withPlaybook config playbook registry runId ids = .ok s₀)
    (earlier : List Operation) (executor : Executor) :
    let s := s₀.after earlier
    (∀ (plan : List Invocation) (n : Nat),
      let e := s.begin executor plan
      (e.run n).calls.zipIdx = s.calls.zipIdx ++ (e.trace n).filterMap Execution.Event.call? ∧
      ∀ (index number : Nat) (call : ExecutorCall), .called index number call ∈ e.trace n →
        plan[index]? = some call.invocation ∧ call.Suits) ∧
    ∀ tests : List Case,
      (∀ (n index number : Nat) (call : ExecutorCall),
        .called index number call ∈ (s.begin executor (s.plan tests)).trace n →
          (call.target = none ↔ call.invocation.test.requiresTarget = false)) ∧
      ∀ (index : Nat) (i : Invocation), (s.plan tests)[index]? = some i →
        i.test.requiresTarget = false →
          ∃ number, .called index number ⟨i, none⟩ ∈ s.story executor (s.plan tests) := by
  intro s
  have hs : Orderly s := (orderly_withPlaybook hopen).after earlier
  refine ⟨fun plan n => ?_, fun tests => ⟨?_, ?_⟩⟩
  · obtain ⟨hprovided, hcalls⟩ := hs.provided executor plan n
    exact ⟨hcalls, hprovided.calls⟩
  · intro n index number call hcall
    have hprovided := (hs.provided executor (s.plan tests) n).1
    obtain ⟨hplace, hsuits⟩ := hprovided.calls index number call hcall
    have hmem := List.mem_of_getElem? hplace
    exact hsuits.target_eq_none_iff.trans (target_eq_none_iff_of_mem_plan hmem)
  · intro index i hi hneeds
    have hnone := (target_eq_none_iff_of_mem_plan (List.mem_of_getElem? hi)).2 hneeds
    obtain ⟨-, htold, -⟩ := Execution.complete_told s.config.testTimeout executor s.calls
      (s.plan tests) (width_pos s.config) hs.slots
    obtain ⟨r, -, hstory⟩ := htold index i hi
    -- of the three stories only one is told of an invocation without a specification
    generalize habout : Execution.about index _ = events at hstory
    cases hstory with
    | untargeted _ number outcome ho =>
        have hcall := List.mem_singleton_self (Execution.Event.called index number ⟨i, none⟩)
        rw [← habout] at hcall
        exact ⟨number, (List.mem_filter.1 hcall).1⟩
    | served spec hspec target number outcome ho => exact nomatch hnone.symm.trans hspec
    | refused spec hspec fault => exact nomatch hnone.symm.trans hspec

/-- One platform writes the kind of another one on its targets, so its target is refused; the pool
was used and emptied before. -/
theorem executor_called_beside_odd_platform :
    let registry := Registry.builtin.register "odd" (Simulation.basic "mock").platform
    let playbook : Playbook := ⟨[.basic "good" "mock", .basic "bad" "odd"], []⟩
    let ids : Nat → TargetId := fun n => ⟨BitVec.ofNat 128 n⟩
    let s₀ : Session := ⟨⟨0⟩, .usual, playbook, .empty registry false ids, [], false⟩
    let s := s₀.after [.use (.resolve ⟨"mock", [], ∅⟩), .teardown]
    let tests : List Case := [⟨"a", none, true, ∅⟩, ⟨"b", none, false, ∅⟩]
    let history := s.story .dryRun (s.plan tests)
    withPlaybook .usual playbook registry ⟨0⟩ ids = .ok s₀ ∧
      (history.filterMap Execution.Event.call?).map
          (fun c => (c.1.invocation.id, c.1.target.map (·.platform))) =
        [("a[good]", some "mock"), ("b", none)] ∧
      ∀ (index number : Nat) (call : ExecutorCall), .called index number call ∈ history →
        (s.plan tests)[index]? = some call.invocation ∧ call.Suits := by
  intro registry playbook ids s₀ s tests history
  have hopen : withPlaybook .usual playbook registry ⟨0⟩ ids = .ok s₀ := by rfl
  have hsuitable := executor_called_on_suitable_targets hopen
    [.use (.resolve ⟨"mock", [], ∅⟩), .teardown] .dryRun
  exact ⟨hopen, by decide +kernel, (hsuitable.1 (s.plan tests) (Execution.stepBound 3)).2⟩

end Session

end TestBench
