import TestBench.Fleet.Teardown
import TestBench.Suite.Selection

/-!
# Run reports

A report says what happened in a run: the outcome of every invocation in the order of the plan, the
tests that did not run, and what became of the targets. A run whose catalog is rejected executes
nothing; its report says why in `Report.diagnostic`.
-/

set_option autoImplicit false

namespace TestBench

/-- The final state of an invocation. -/
inductive Outcome where
  /-- The test passed. -/
  | passed
  /-- The test failed. -/
  | failed (message : String)
  /-- The invocation came to no verdict. -/
  | errored (message : String)
  /-- The test was skipped. -/
  | skipped (reason : String)
deriving DecidableEq, Repr

namespace Outcome

/-- Whether the outcome makes the run a failure. -/
def isFailure : Outcome → Bool
  | .failed _ => true
  | .errored _ => true
  | _ => false

/-- The word for the outcome. -/
def status : Outcome → String
  | .passed => "passed"
  | .failed _ => "failed"
  | .errored _ => "errored"
  | .skipped _ => "skipped"

end Outcome

/-- What happened to an invocation. -/
structure InvocationReport where
  /-- The name of the invocation. -/
  id : String
  /-- The name of its test. -/
  test : String
  /-- The name of the target specification, if the test needs a target. -/
  target : Option String
  /-- The target it was given, if it was given one. -/
  targetId : Option TargetId
  /-- Its final state. -/
  outcome : Outcome
deriving DecidableEq

/-- What became of the targets, for the report. -/
structure TeardownSummary where
  /-- The number of deleted targets. -/
  deprovisioned : Nat
  /-- The number of kept targets. -/
  kept : Nat
  /-- Why targets were not deleted. -/
  failures : List String
deriving DecidableEq, Repr

/-- The summary of a teardown. -/
def Teardown.summary (t : Teardown) : TeardownSummary :=
  ⟨t.deprovisioned.length, t.kept.length, t.failures.map (·.message)⟩

/-- How many invocations had each outcome. -/
structure Counts where
  /-- The passed ones. -/
  passed : Nat
  /-- The failed ones. -/
  failed : Nat
  /-- The ones without a verdict. -/
  errored : Nat
  /-- The skipped ones. -/
  skipped : Nat
deriving DecidableEq, Repr

/-- How many invocations there were. -/
def Counts.total (c : Counts) : Nat := c.passed + c.failed + c.errored + c.skipped

/-- What happened in a run. -/
structure Report where
  /-- The run. -/
  runId : RunId
  /-- What happened to each invocation, in the order of the plan. -/
  invocations : List InvocationReport
  /-- The tests that did not run. -/
  dropped : List Dropped
  /-- Why nothing was executed, if the catalog was rejected. -/
  diagnostic : Option String
  /-- What became of the targets, once that is known. -/
  teardown : Option TeardownSummary
  /-- Whether the run is over. -/
  finished : Bool
deriving DecidableEq

namespace Report

/-- The heading of every report. -/
def title : String := "LISAv3 Results"

/-- The report of a run that has just started. -/
def start (runId : RunId) : Report := ⟨runId, [], [], none, none, false⟩

/-- The report of a run whose catalog was rejected. -/
def discarded (runId : RunId) (diagnostic : String) : Report :=
  { start runId with diagnostic := some diagnostic, finished := true }

/-- The report with the tests that a selection left out. -/
def recordSelection (r : Report) (s : Selection) : Report := { r with dropped := s.dropped }

/-- The report with what became of the targets, which ends the run. -/
def finish (r : Report) (t : Teardown) : Report :=
  { r with teardown := some t.summary, finished := true }

/-- Counts one more outcome. -/
def count (c : Counts) (i : InvocationReport) : Counts :=
  match i.outcome with
  | .passed => { c with passed := c.passed + 1 }
  | .failed _ => { c with failed := c.failed + 1 }
  | .errored _ => { c with errored := c.errored + 1 }
  | .skipped _ => { c with skipped := c.skipped + 1 }

/-- How many invocations had each outcome. -/
def counts (r : Report) : Counts := r.invocations.foldl count ⟨0, 0, 0, 0⟩

/-- Whether the catalog was accepted and no invocation is a failure. -/
def isSuccess (r : Report) : Bool :=
  r.diagnostic.isNone && r.invocations.all fun i => !i.outcome.isFailure

end Report

end TestBench
