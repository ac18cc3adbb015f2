import TestBench.Console.Program

/-!
# The command line program

The outer layer of the program: it reads the files that a command line names, hands them to the rest of
the library, stores the report and prints what comes of it. Identifiers are drawn at random.
-/

set_option autoImplicit false

namespace TestBench.Main

open Console

/-- Reads the text at a path. -/
def readText (path : String) : IO (Except Storage.Fault String) := do
  try
    return Storage.decode (← IO.FS.readBinFile path)
  catch
    | .noFileOrDirectory .. => return .error .missing
    | e => return .error (.other (toString e))

/-- Writes a text at a path. -/
def writeText (path text : String) : IO (Option Storage.Fault) := do
  try
    IO.FS.writeFile path text
    return none
  catch
    | .noFileOrDirectory .. => return some .missing
    | e => return some (.other (toString e))

/-- A number of 128 bits, drawn at random. -/
def drawUlid : IO Ulid := do
  let bytes ← IO.getRandomBytes 16
  return BitVec.ofNat 128 (bytes.toList.foldl (fun n b => n * 256 + b.toNat) 0)

/-- The values of the variables that may give settings. -/
def readEnvironment : IO Environment := do
  let pairs ← (variableSettings.filterMap Setting.variable?).mapM fun name => do
    return (name, ← IO.getEnv name)
  return fun name => (pairs.find? fun p => p.1 == name).bind (·.2)

/-- The texts at some paths. -/
def readTexts (paths : List String) : IO Storage.Reader := do
  let texts ← paths.mapM fun path => do return (path, ← readText path)
  return fun path => ((texts.find? fun t => t.1 == path).map (·.2)).getD (.error .missing)

/-- Prints what the program leaves behind. -/
def leave (r : Result) : IO UInt32 := do
  for line in r.output do
    IO.println line
  IO.eprint r.errors
  return UInt32.ofNat r.exitCode

/-- Runs a command line. -/
def runLine (line : CommandLine) (colours : Bool) : IO UInt32 := do
  let read ← readTexts (line.tests :: line.config.playbook.toList)
  let first ← drawUlid
  let runId : RunId := ⟨← drawUlid⟩
  match Program.conduct read line runId fun n => ⟨first + BitVec.ofNat 128 n⟩ with
  | .error c => leave (Program.failed colours c)
  | .ok report =>
      match line.config.effectiveReportPath with
      | none => leave (Program.conclude line.config report)
      | some path =>
          match ← writeText path (Program.stored report) with
          | none => leave (Program.conclude line.config report)
          | some fault => leave (Program.failed colours (Program.unwritten path fault))

end TestBench.Main

/-- Runs the program. -/
def main (words : List String) : IO UInt32 := do
  let env ← TestBench.Main.readEnvironment
  let colours := (← IO.getEnv "CLICOLOR_FORCE").any (· != "0")
  match TestBench.Console.CommandLine.parse env words with
  | .error s => TestBench.Main.leave (TestBench.Console.Program.stopped s)
  | .ok line => TestBench.Main.runLine line colours
