import TestBench.Playbook.Load
import TestBench.Session.Config
import TestBench.Session.Execution
import TestBench.Suite.CatalogText

/-!
# Sessions

A session is one run from its playbook to the end of its pool. It is opened with a playbook whose
targets all name a registered platform; nothing is built then. A run checks the catalog, selects tests,
plans one invocation for each test and target, executes the plan and empties the pool. The pool is
emptied once; after that the session refuses to run.
-/

set_option autoImplicit false

namespace TestBench

/-- A run of the orchestrator. -/
structure Session where
  /-- The identifier of the run. -/
  runId : RunId
  /-- How the run is set. -/
  config : Config
  /-- What the run is asked to do. -/
  playbook : Playbook
  /-- The targets of the run. -/
  pool : Pool
  /-- The calls made to executors so far. -/
  calls : List ExecutorCall
  /-- Whether the pool has been emptied for good. -/
  tornDown : Bool

namespace Session

/-- Why a session cannot be opened or run. -/
inductive Fault where
  /-- The playbook cannot be used. -/
  | playbook (fault : Playbook.Fault)
  /-- A target names a platform that is not registered. -/
  | unknownPlatform (target platform registered : String)
  /-- The catalog cannot be read. -/
  | unreadableCatalog (path : String) (fault : Storage.Fault)
  /-- The catalog is no list of entries. -/
  | malformedCatalog (fault : Json.Fault)
  /-- The session is over. -/
  | tornDown (run : RunId)

/-- The wording of a fault. -/
def Fault.message : Fault → String
  | .playbook fault => fault.message
  | .unknownPlatform target platform registered =>
      s!"target '{target}' uses unknown platform '{platform}' (registered: {registered})"
  | .unreadableCatalog path fault => s!"failed to read test catalog {path}: {fault.message}"
  | .malformedCatalog fault => s!"malformed test catalog: {fault.message}"
  | .tornDown run => s!"session {run.text} has already been torn down"

/-- The catalog at a path. -/
def loadCatalog (read : Storage.Reader) (path : String) : Except Fault (List Entry) :=
  match read path with
  | .error fault => .error (.unreadableCatalog path fault)
  | .ok text =>
      match Catalog.ofText text with
      | .ok entries => .ok entries
      | .error fault => .error (.malformedCatalog fault)

/-! ## Opening -/

/-- The name of the target that stands in when the playbook lists none. -/
def defaultTargetName : String := "default"

/-- The targets that tests are run on. -/
def effectiveTargets (playbook : Playbook) (config : Config) : List TargetSpec :=
  if playbook.targets.isEmpty then [.basic defaultTargetName config.defaultPlatform]
  else playbook.targets

/-- A session for a playbook, with an empty pool. -/
def withPlaybook (config : Config) (playbook : Playbook) (registry : Registry) (runId : RunId)
    (ids : Nat → TargetId) : Except Fault Session :=
  match (effectiveTargets playbook config).find? fun spec => !registry.contains spec.platform with
  | some spec => .error (.unknownPlatform spec.name spec.platform registry.kindsText)
  | none => .ok ⟨runId, config, playbook, .empty registry config.keepTargets ids, [], false⟩

/-- A session for the playbook that the settings name. -/
def start (read : Storage.Reader) (config : Config) (registry : Registry) (runId : RunId)
    (ids : Nat → TargetId) : Except Fault Session :=
  match Playbook.load read config.playbook with
  | .ok playbook => withPlaybook config playbook registry runId ids
  | .error fault => .error (.playbook fault)

/-! ## Planning -/

/-- The targets that tests are run on. -/
def targetSpecs (s : Session) : List TargetSpec := effectiveTargets s.playbook s.config

/-- The tests to run: those that the playbook selects, and of these only static checks if only they
are wanted. -/
def select (s : Session) (tests : List Case) : Selection :=
  let selection := TestBench.select tests s.playbook.criteria
  if s.config.check then selection.restrict Config.checkMarkers else selection

/-- The invocations of a test: one for each target if it needs a target, and otherwise one. -/
def invocations (specs : List TargetSpec) (test : Case) : List Invocation :=
  if test.requiresTarget then specs.map fun spec => .of test (some spec) else [.of test none]

/-- The invocations of some tests, in their order. -/
def plan (s : Session) (tests : List Case) : List Invocation :=
  tests.flatMap (invocations s.targetSpecs)

/-! ## Running -/

/-- Executes a plan. -/
def execute (s : Session) (executor : Executor) (plan : List Invocation) :
    List InvocationReport × Session :=
  let e := Execution.complete s.config.width s.config.testTimeout executor s.pool s.calls plan
  (e.results, { s with pool := e.pool, calls := e.calls })

/-- Empties the pool for good. -/
def close (s : Session) : Teardown × Session :=
  let (t, pool) := s.pool.teardown
  (t, { s with pool := pool, tornDown := true })

/-- Empties the pool, unless that was done before. -/
def teardown (s : Session) : Except Fault (Teardown × Session) :=
  if s.tornDown then .error (.tornDown s.runId) else .ok s.close

/-- Runs the tests of a catalog and empties the pool. A catalog with faulty metadata is rejected as a
whole. -/
def run (s : Session) (executor : Executor) (catalog : List Entry) :
    Except Fault (Report × Session) :=
  if s.tornDown then .error (.tornDown s.runId)
  else
    match Catalog.validate catalog with
    | .error rejection =>
        let (t, s) := s.close
        .ok ((Report.discarded s.runId rejection.message).finish t, s)
    | .ok tests =>
        let selection := s.select tests
        let report := (Report.start s.runId).recordSelection selection
        let (reports, s) := s.execute executor (s.plan selection.tests)
        let (t, s) := s.close
        .ok ({ report with invocations := reports }.finish t, s)

end Session

end TestBench
