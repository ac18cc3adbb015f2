import TestBench.Json.Basic
import TestBench.Report.Basic

/-!
# The written form of a report

A report is stored as a value. What is absent has no field.
-/

set_option autoImplicit false

namespace TestBench

/-- A field that may be absent. -/
def optionalField {α : Type} (key : String) (write : α → Json) (a : Option α) :
    List (String × Json) :=
  (a.map fun a => (key, write a)).toList

/-- The written form of an outcome. -/
def Outcome.toJson (o : Outcome) : Json :=
  let status := ("status", Json.string o.status)
  .object <| match o with
    | .passed => [status]
    | .failed message => [("message", .string message), status]
    | .errored message => [("message", .string message), status]
    | .skipped reason => [("reason", .string reason), status]

/-- The written form of what happened to an invocation. -/
def InvocationReport.toJson (i : InvocationReport) : Json :=
  .object <|
    [("id", .string i.id), ("outcome", i.outcome.toJson)] ++
      optionalField "target" .string i.target ++
      optionalField "target_id" Id.toJson i.targetId ++ [("test", .string i.test)]

/-- The written form of a test that did not run. -/
def Dropped.toJson (d : Dropped) : Json :=
  .object [("name", .string d.name), ("reason", .string d.reason.word)]

/-- The written form of what became of the targets. -/
def TeardownSummary.toJson (t : TeardownSummary) : Json :=
  .object
    [("deprovisioned", .int t.deprovisioned),
     ("failures", .array (t.failures.map .string)),
     ("kept", .int t.kept)]

/-- The written form of a report. -/
def Report.toJson (r : Report) : Json :=
  .object <|
    optionalField "diagnostic" .string r.diagnostic ++
      [("dropped", .array (r.dropped.map Dropped.toJson)),
       ("finished", .bool r.finished),
       ("invocations", .array (r.invocations.map InvocationReport.toJson)),
       ("run_id", r.runId.toJson)] ++
      optionalField "teardown" TeardownSummary.toJson r.teardown ++
      [("title", .string Report.title)]

end TestBench
