import TestBench.Report.Basic

/-!
# The summary of a report

The summary is a list of lines: one for each invocation, one for each target that was not deleted, and
one with the counts. It can be restricted to what went wrong. The summary of a rejected catalog is the
reason alone.
-/

set_option autoImplicit false

namespace TestBench

/-- The line of an invocation; passed and skipped ones are left out if only failures are wanted. -/
def InvocationReport.line? (i : InvocationReport) (failuresOnly : Bool) : Option String :=
  match i.outcome with
  | .passed => if failuresOnly then none else some s!"PASSED  {i.id}"
  | .skipped reason => if failuresOnly then none else some s!"SKIPPED {i.id} ({reason})"
  | .failed message => some s!"FAILED  {i.id} - {message}"
  | .errored message => some s!"ERROR   {i.id} - {message}"

/-- The lines of the targets that were not deleted. -/
def TeardownSummary.lines (t : TeardownSummary) : List String :=
  t.failures.map fun failure => s!"TEARDOWN {failure}"

namespace Report

/-- The line with the counts. -/
def countsLine (r : Report) : String :=
  let c := r.counts
  s!"{c.passed} passed, {c.failed} failed, {c.errored} errors, {c.skipped} skipped, " ++
    s!"{r.dropped.length} deselected"

/-- The lines of the summary. -/
def summary (r : Report) (failuresOnly : Bool) : List String :=
  match r.diagnostic with
  | some reason => [s!"no tests executed: {reason}"]
  | none =>
      r.invocations.filterMap (·.line? failuresOnly) ++
        ((r.teardown.map TeardownSummary.lines).getD []) ++ [r.countsLine]

end Report

end TestBench
