import TestBench.Fleet.Target
import TestBench.Report.Basic
import TestBench.Session.Duration
import TestBench.Suite.Case

/-!
# Invocations and executors

An invocation is one planned execution of a test, on one kind of target if the test needs a target. An
executor runs the bodies of tests. It may do anything that can be seen from outside: take some time, and
then come to a verdict, fail to come to one, or break down. Its answer may depend on the calls made to
it before, through their number.
-/

set_option autoImplicit false

namespace TestBench

/-- A planned execution of a test. -/
structure Invocation where
  /-- The name of the invocation. -/
  id : String
  /-- The test. -/
  test : Case
  /-- The target it runs on, if it needs one. -/
  target : Option TargetSpec

namespace Invocation

/-- The invocation of a test, named after the test and the target. -/
def of (test : Case) (target : Option TargetSpec) : Invocation :=
  ⟨match target with
    | some spec => s!"{test.name}[{spec.name}]"
    | none => test.name, test, target⟩

/-- What the invocation asks of a target. -/
def request (i : Invocation) (spec : TargetSpec) : Request :=
  ⟨spec.platform, spec.parameters, i.test.requiredFeatures⟩

/-- The report of the invocation. -/
def report (i : Invocation) (targetId : Option TargetId) (outcome : Outcome) : InvocationReport :=
  ⟨i.id, i.test.name, i.target.map (·.name), targetId, outcome⟩

end Invocation

/-- How the body of a test ends. -/
inductive Ending where
  /-- The test passes. -/
  | passed
  /-- The test fails. -/
  | failed (message : String)
  /-- The test is skipped. -/
  | skipped (reason : String)
  /-- The body comes to no verdict, for a chain of causes with the outermost first. -/
  | raised (causes : List String)
  /-- The body breaks down. -/
  | brokeDown
deriving DecidableEq, Repr

/-- The outcome of an ending. -/
def Ending.outcome : Ending → Outcome
  | .passed => .passed
  | .failed message => .failed message
  | .skipped reason => .skipped reason
  | .raised causes => .errored (": ".intercalate causes)
  | .brokeDown => .errored "test body panicked"

/-- The body of a test: how many milliseconds it takes, and how it ends. -/
structure Body where
  /-- The time it takes. -/
  wait : Nat
  /-- How it ends. -/
  ending : Ending
deriving DecidableEq, Repr

/-- What a body comes to under a limit, and after how many milliseconds. A body that takes exactly the
limit ends in time. -/
def Body.limited (b : Body) : Option Duration → Nat × Outcome
  | none => (b.wait, b.ending.outcome)
  | some limit =>
      if b.wait ≤ limit.ticks then (b.wait, b.ending.outcome)
      else (limit.ticks, .errored s!"timed out after {limit.text}")

/-- Runs the bodies of tests: given the number of calls before, the invocation, and the target. -/
abbrev Executor := Nat → Invocation → Option Target → Body

/-- The executor that runs nothing and passes everything. -/
def Executor.dryRun : Executor := fun _ _ _ => ⟨0, .passed⟩

/-- A call to an executor. -/
structure ExecutorCall where
  /-- The invocation. -/
  invocation : Invocation
  /-- The target at the time of the call. -/
  target : Option Target

end TestBench
