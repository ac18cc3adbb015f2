import TestBench.Console.Arguments
import TestBench.Session.Config

/-!
# Command lines

A command line gives the path of the catalog and the settings of the run. Some settings may also be
given by variables of the environment; the words come first, and what neither gives has its usual
value. Only the catalog has none.
-/

set_option autoImplicit false

namespace TestBench.Console

/-- The variables of the environment, by name. -/
abbrev Environment := String → Option String

/-- The variable that may give a setting. -/
def Setting.variable? : Setting → Option String
  | .tests => some "LISA_TESTS"
  | .playbook => some "LISA_PLAYBOOK"
  | .keepTargets => some "LISA_KEEP_VMS"
  | .defaultPlatform => some "LISA_DEFAULT_PLATFORM"
  | .logLevel => some "LISA_LOG_LEVEL"
  | _ => none

/-- The settings that a variable may give. -/
def variableSettings : List Setting :=
  [.tests, .playbook, .keepTargets, .defaultPlatform, .logLevel]

/-- Takes a setting from its variable, if it is not given yet. -/
def Given.addVariable (env : Environment) (g : Given) (s : Setting) : Except Stop Given :=
  match g.get? s, s.variable?.bind env with
  | none, some value => g.add s (s.form.read value)
  | _, _ => .ok g

/-- What a command line asks for. -/
structure CommandLine where
  /-- The path of the catalog. -/
  tests : String
  /-- The settings of the run. -/
  config : Config
deriving DecidableEq, Repr

namespace Given

/-- The text of a setting. -/
def text? (g : Given) (s : Setting) : Option String :=
  match g.get? s with
  | some (.text t) => some t
  | _ => none

/-- The number of a setting. -/
def number? (g : Given) (s : Setting) : Option Nat :=
  match g.get? s with
  | some (.number n) => some n
  | _ => none

/-- Whether a switch is on. -/
def isOn (g : Given) (s : Setting) : Bool := g.get? s == some (.switch true)

/-- The settings of a run. -/
def config (g : Given) : Config where
  playbook := g.text? .playbook
  keepTargets := g.isOn .keepTargets
  check := g.isOn .check
  demo := g.isOn .demo
  defaultPlatform := (g.text? .defaultPlatform).getD Config.usual.defaultPlatform
  jobs := (g.number? .jobs).getD Config.usual.jobs
  testTimeout := (g.number? .testTimeout).map Duration.ofSeconds
  reportPath := g.text? .report
  logLevel := (g.text? .logLevel).getD Config.usual.logLevel

end Given

/-- The command line of some words. -/
def CommandLine.parse (env : Environment) (words : List String) : Except Stop CommandLine := do
  let w ← Words.takeAll words Words.none
  let given ← variableSettings.foldlM (Given.addVariable env) w.given
  match given.text? .tests with
  | some tests => return ⟨tests, given.config⟩
  | none => .error .missingSetting

end TestBench.Console
