import TestBench.Console.Complaint
import TestBench.Console.CommandLine
import TestBench.Console.Directory
import TestBench.Json.Pretty
import TestBench.Report.Summary
import TestBench.Report.Written

/-!
# The program

The program reads a catalog and a playbook, runs the tests without bodies on the built-in platform,
writes a report if one is wanted, and prints the summary. Its exit code says how that went: zero if
everything passed, one if something did not, and two if the run could not start or its report could not
be written.

`Program.conduct` and `Program.conclude` are what happens before and after the report is written.
`Program.run` puts them together for a working directory held in memory.
-/

set_option autoImplicit false

namespace TestBench.Console

/-- What the program leaves behind. -/
structure Result where
  /-- The exit code. -/
  exitCode : Nat
  /-- The lines that are printed. -/
  output : List String
  /-- The text of what went wrong. -/
  errors : String
deriving DecidableEq, Repr

namespace Program

/-- The name and version of the program. -/
def versionLine : String := "lisa 0.1.0"

/-- How the program is used. -/
def usage : List String :=
  ["Select tests from a catalog and run them against pooled targets", "",
   "Usage: lisa [OPTIONS] --tests <TESTS>", "",
   "Options:",
   "      --tests <TESTS>",
   "          Test catalog produced by the host engine (JSON array) [env: LISA_TESTS=]",
   "      --playbook <PLAYBOOK>",
   "          Playbook with targets and selection criteria [env: LISA_PLAYBOOK=]",
   "      --keep-vms",
   "          Keep provisioned targets after the run [env: LISA_KEEP_VMS=]",
   "      --check",
   "          Run static checks only (flake8, mypy markers)",
   "      --demo",
   "          Human-readable logs and a report written to demo.json",
   "      --default-platform <DEFAULT_PLATFORM>",
   "          Platform of the implicit target when the playbook lists none [env: LISA_DEFAULT_PLATFORM=] [default: mock]",
   "  -j, --jobs <JOBS>",
   "          Maximum number of invocations in flight [default: 1]",
   "      --test-timeout-secs <TEST_TIMEOUT_SECS>",
   "          Per-invocation time limit in seconds",
   "      --report <REPORT>",
   "          Write the run report as JSON to this path",
   "      --log-level <LOG_LEVEL>",
   "          Log level [env: LISA_LOG_LEVEL=] [default: info]",
   "  -h, --help",
   "          Print help",
   "  -V, --version",
   "          Print version"]

/-- What is wrong with the words of a command line. -/
def stopText : Stop → String
  | .missingSetting => "error: the following required arguments were not provided:\n  --tests <TESTS>\n"
  | .unknownWord => "error: unexpected argument found\n"
  | .badValue => "error: a value is missing or not possible\n"
  | .badNumber => "error: invalid number\n"
  | .repeated => "error: an argument cannot be used multiple times\n"
  | .needlessValue => "error: unexpected value for an argument\n"
  | .help => ""
  | .version => ""

/-- What the program leaves behind if the words do not give the settings of a run. -/
def stopped : Stop → Result
  | .help => ⟨0, usage, ""⟩
  | .version => ⟨0, [versionLine], ""⟩
  | s => ⟨2, [], stopText s⟩

/-- What the program leaves behind if it cannot go on. -/
def failed (colours : Bool) (c : Complaint) : Result := ⟨2, [], c.text colours⟩

/-- Runs the tests of a command line. -/
def conduct (read : Storage.Reader) (line : CommandLine) (runId : RunId) (ids : Nat → TargetId) :
    Except Complaint Report := do
  let catalog ← (Session.loadCatalog read line.tests).mapError Complaint.ofSession
  let session ←
    (Session.start read line.config Registry.builtin runId ids).mapError Complaint.ofSession
  let (report, _) ← (session.run Executor.dryRun catalog).mapError Complaint.ofSession
  return report

/-- The complaint about a report that could not be written. -/
def unwritten (path : String) (fault : Storage.Fault) : Complaint :=
  let context := s!"failed to write report to {path}"
  ((Complaint.plain fault.message).within context).within context

/-- What the program leaves behind once the report is written where it is wanted. -/
def conclude (config : Config) (report : Report) : Result :=
  ⟨if report.isSuccess then 0 else 1, report.summary config.failuresOnly, ""⟩

/-- The text of a stored report. -/
def stored (report : Report) : String := report.toJson.pretty

/-- The program in a working directory: what it leaves behind, the report if there is one, and the
directory afterwards. -/
def run (words : List String) (env : Environment) (colours : Bool) (d : Directory) (runId : RunId)
    (ids : Nat → TargetId) : Result × Option Report × Directory :=
  match CommandLine.parse env words with
  | .error s => (stopped s, none, d)
  | .ok line =>
      match conduct d.read line runId ids with
      | .error c => (failed colours c, none, d)
      | .ok report =>
          match line.config.effectiveReportPath with
          | none => (conclude line.config report, some report, d)
          | some path =>
              match d.write path (stored report) with
              | .ok written => (conclude line.config report, some report, written)
              | .error fault => (failed colours (unwritten path fault), some report, d)

end Program

end TestBench.Console
