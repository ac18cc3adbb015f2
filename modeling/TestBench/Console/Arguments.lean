import TestBench.Number.Natural

/-!
# Arguments

The words of a command line give settings. A word that starts with two dashes names a setting, one that
starts with a single dash names it by a letter, and any other word is the value of the setting named
just before it. A value may also be written behind an equals sign, or right behind a letter. Two dashes
alone end the settings.

A setting that was named stays *open* until the next one is named or the words end; only then is it
checked and taken. That decides which of several mistakes is reported: a word that cannot be understood
is reported at once, even if the setting before it has no value.
-/

set_option autoImplicit false

namespace TestBench.Console

/-- A setting that can be given. -/
inductive Setting where
  /-- The path of the catalog. -/
  | tests
  /-- The path of the playbook. -/
  | playbook
  /-- Whether targets are left running. -/
  | keepTargets
  /-- Whether only static checks run. -/
  | check
  /-- Whether the run is shown to somebody. -/
  | demo
  /-- The platform of the target that stands in when the playbook lists none. -/
  | defaultPlatform
  /-- How many invocations may be in flight. -/
  | jobs
  /-- How many seconds the body of a test may take. -/
  | testTimeout
  /-- The path of the report. -/
  | report
  /-- How much is logged. -/
  | logLevel
deriving DecidableEq, Repr

/-- The form of the value of a setting. -/
inductive Form where
  /-- A path, which is not empty. -/
  | path
  /-- Any text. -/
  | text
  /-- A natural number of 64 bits. -/
  | number
  /-- A switch, which is turned on by being named. -/
  | switch
deriving DecidableEq, Repr

/-- The form of the value of a setting. -/
def Setting.form : Setting → Form
  | .tests => .path
  | .playbook => .path
  | .keepTargets => .switch
  | .check => .switch
  | .demo => .switch
  | .defaultPlatform => .text
  | .jobs => .number
  | .testTimeout => .number
  | .report => .path
  | .logLevel => .text

/-- The value of a setting. -/
inductive Value where
  /-- A path or text. -/
  | text (s : String)
  /-- A number. -/
  | number (n : Nat)
  /-- Whether a switch is on. -/
  | switch (on : Bool)
deriving DecidableEq, Repr

/-- Why words do not give the settings of a run. -/
inductive Stop where
  /-- The catalog is not given. -/
  | missingSetting
  /-- A word names no setting, or is a value of none. -/
  | unknownWord
  /-- A value is missing, or empty where it may not be, or none of those that are possible. -/
  | badValue
  /-- A value is not a number in the range. -/
  | badNumber
  /-- A setting is given twice. -/
  | repeated
  /-- A value is given for a switch. -/
  | needlessValue
  /-- Help is asked for. -/
  | help
  /-- The version is asked for. -/
  | version
deriving DecidableEq, Repr

/-- Numbers have 64 bits at most. -/
def numberBound : Nat := 18446744073709551616

/-- The value that a text stands for. -/
def Form.read (form : Form) (s : String) : Except Stop Value :=
  match form with
  | .path => if s.isEmpty then .error .badValue else .ok (.text s)
  | .text => .ok (.text s)
  | .number =>
      match Number.naturalBelow? numberBound s.toList with
      | some n => .ok (.number n.val)
      | none => .error .badNumber
  | .switch =>
      if s = "true" then .ok (.switch true)
      else if s = "false" then .ok (.switch false)
      else .error .badValue

/-- What a word asks for. -/
inductive Asked where
  /-- To give a setting. -/
  | setting (s : Setting)
  /-- To see how the program is used. -/
  | help
  /-- To see the version of the program. -/
  | version
deriving DecidableEq, Repr

/-- What is asked for by a name. -/
def Asked.named? : String → Option Asked
  | "tests" => some (.setting .tests)
  | "playbook" => some (.setting .playbook)
  | "keep-vms" => some (.setting .keepTargets)
  | "check" => some (.setting .check)
  | "demo" => some (.setting .demo)
  | "default-platform" => some (.setting .defaultPlatform)
  | "jobs" => some (.setting .jobs)
  | "test-timeout-secs" => some (.setting .testTimeout)
  | "report" => some (.setting .report)
  | "log-level" => some (.setting .logLevel)
  | "help" => some .help
  | "version" => some .version
  | _ => none

/-- What is asked for by a letter. -/
def Asked.lettered? : Char → Option Asked
  | 'j' => some (.setting .jobs)
  | 'h' => some .help
  | 'V' => some .version
  | _ => none

/-- What was asked for takes a value. -/
def Asked.takesValue : Asked → Bool
  | .setting s => s.form != .switch
  | _ => false

/-- The settings given so far. -/
abbrev Given := List (Setting × Value)

namespace Given

/-- The value of a setting, if it is given. -/
def get? (g : Given) (s : Setting) : Option Value := (g.find? fun e => e.1 == s).map (·.2)

/-- Gives a setting its value, for the first time. -/
def add (g : Given) (s : Setting) (read : Except Stop Value) : Except Stop Given :=
  if (g.get? s).isSome then .error .repeated else read.map fun v => g ++ [(s, v)]

end Given

/-- The words up to some place. -/
structure Words where
  /-- The settings given so far. -/
  given : Given
  /-- The setting that is open, and its value if that has come. -/
  pending : Option (Setting × Option String)

namespace Words

/-- No words. -/
def none : Words := ⟨[], Option.none⟩

/-- Takes the setting that is open. -/
def settle (w : Words) : Except Stop Words :=
  match w.pending with
  | Option.none => .ok w
  | some (_, Option.none) => .error .badValue
  | some (s, some value) => (w.given.add s (s.form.read value)).map fun g => ⟨g, Option.none⟩

/-- Asks for something, with the value attached to the word if there is one. -/
def ask (w : Words) (asked : Asked) (attached : Option String) : Except Stop Words := do
  let w ← w.settle
  match asked, attached with
  | .help, _ => .error .help
  | .version, _ => .error .version
  | .setting s, some value => return { w with given := ← w.given.add s (s.form.read value) }
  | .setting s, Option.none =>
      if s.form = .switch then return { w with given := ← w.given.add s (.ok (.switch true)) }
      else return { w with pending := some (s, Option.none) }

/-- Takes a word that starts with two dashes, given what follows them. -/
def long (w : Words) (rest : List Char) : Except Stop Words :=
  let name := rest.takeWhile (· != '=')
  let attached := match rest.dropWhile (· != '=') with
    | [] => Option.none
    | _ :: value => some (String.ofList value)
  match Asked.named? (String.ofList name) with
  | Option.none => .error .unknownWord
  | some asked =>
      if attached.isSome && !asked.takesValue then .error .needlessValue else w.ask asked attached

/-- Takes a word that starts with one dash, given the letter and what follows it. -/
def short (w : Words) (letter : Char) (rest : List Char) : Except Stop Words :=
  match Asked.lettered? letter with
  | Option.none => .error .unknownWord
  | some asked =>
      w.ask asked <| match rest with
        | [] => Option.none
        | '=' :: value => some (String.ofList value)
        | value => some (String.ofList value)

/-- Takes a word that names no setting. -/
def value (w : Words) (word : String) : Except Stop Words :=
  match w.pending with
  | some (s, Option.none) => .ok { w with pending := some (s, some word) }
  | _ => .error .unknownWord

/-- Takes a word. -/
def take (w : Words) (word : String) : Except Stop Words :=
  match word.toList with
  | '-' :: '-' :: rest => w.long rest
  | '-' :: letter :: rest => w.short letter rest
  | _ => w.value word

/-- Takes all words. Nothing may follow two dashes alone. -/
def takeAll : List String → Words → Except Stop Words
  | [], w => w.settle
  | word :: rest, w =>
      if word = "--" then
        if rest.isEmpty then w.settle else .error .unknownWord
      else do takeAll rest (← w.take word)

end Words

end TestBench.Console
