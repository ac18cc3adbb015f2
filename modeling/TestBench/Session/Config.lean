import TestBench.Fleet.Simulation
import TestBench.Session.Duration

/-!
# How a run is set

The settings of a run, as they come from its arguments, and what follows from them.
-/

set_option autoImplicit false

namespace TestBench

/-- The settings of a run. -/
structure Config where
  /-- The path of the playbook; without one the playbook is empty. -/
  playbook : Option String
  /-- Whether targets are left running at the end. -/
  keepTargets : Bool
  /-- Whether only static checks run. -/
  check : Bool
  /-- Whether the run is shown to somebody. -/
  demo : Bool
  /-- The platform of the target that stands in when the playbook lists none. -/
  defaultPlatform : String
  /-- How many invocations may be in flight; none counts as one. -/
  jobs : Nat
  /-- The time that the body of a test may take. -/
  testTimeout : Option Duration
  /-- The path of the report. -/
  reportPath : Option String
  /-- How much is logged. -/
  logLevel : String
deriving DecidableEq, Repr

namespace Config

/-- The settings that nobody has changed. -/
def usual : Config :=
  ⟨none, false, false, false, Simulation.builtinKind, 1, none, none, "info"⟩

instance : Inhabited Config := ⟨usual⟩

/-- The path of the report of a demonstration. -/
def demoReportPath : String := "demo.json"

/-- The markers of static checks. -/
def checkMarkers : List String := ["flake8", "mypy"]

/-- The path at which a report is written, if one is. -/
def effectiveReportPath (c : Config) : Option String :=
  match c.reportPath with
  | some path => some path
  | none => if c.demo then some demoReportPath else none

/-- Whether the summary lists only what went wrong. -/
def failuresOnly (c : Config) : Bool := c.check

/-- How many invocations may be in flight, at least one. -/
def width (c : Config) : Nat := max c.jobs 1

end Config

end TestBench
