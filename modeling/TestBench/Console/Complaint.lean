import TestBench.Session.Basic

/-!
# Complaints

What the program says when it cannot go on: a chain of causes with the outermost first, and a hint if
there is one. A fault that has another fault as its cause mentions it, and the chain mentions it again.
The hint belongs to the fault itself, whatever was wrapped around it.
-/

set_option autoImplicit false

namespace TestBench.Console

/-- Why the program cannot go on. -/
structure Complaint where
  /-- The causes, the outermost first. -/
  causes : List String
  /-- What may help. -/
  hint : Option String
deriving DecidableEq, Repr

namespace Complaint

/-- The complaint about a fault without cause. -/
def plain (text : String) : Complaint := ⟨[text], none⟩

/-- The complaint with something wrapped around it. -/
def within (c : Complaint) (context : String) : Complaint := { c with causes := context :: c.causes }

/-- A text in a colour, if colours are wanted. -/
def paint (colours : Bool) (code text : String) : String :=
  if colours then "\x1b[" ++ code ++ "m" ++ text ++ "\x1b[0m" else text

/-- What is printed. -/
def text (c : Complaint) (colours : Bool) : String :=
  paint colours "1;31" "Error:" ++ " " ++ ": ".intercalate c.causes ++ "\n" ++
    match c.hint with
    | some hint => "\n" ++ paint colours "33" ("Hint: " ++ hint) ++ "\n"
    | none => ""

end Complaint

/-- The faults that a fault of a playbook has as its cause. -/
def playbookCauses : Playbook.Fault → List String
  | .unreadable _ fault => [fault.message]
  | .notYaml _ => []
  | .violations _ => []
  | .shape reason => [reason]
  | .duplicateTarget _ => []
  | .badSchema _ => []

/-- What may help with a fault of a playbook. -/
def playbookHint : Playbook.Fault → Option String
  | .unreadable _ _ => some "Check the --playbook path."
  | .notYaml _ => none
  | .violations _ => some "Playbook keys are \x60targets\x60 and \x60criteria\x60; see the playbook schema."
  | .shape _ => some "Playbook keys are \x60targets\x60 and \x60criteria\x60; see the playbook schema."
  | .duplicateTarget _ => some "Target names must be unique."
  | .badSchema _ => none

/-- The complaint about a fault of a playbook. -/
def Complaint.ofPlaybook (f : Playbook.Fault) : Complaint :=
  ⟨f.message :: playbookCauses f, playbookHint f⟩

/-- What may help with a catalog. -/
def catalogHint : String := "--tests expects the JSON catalog exported by the host engine."

/-- The complaint about a fault of a session. -/
def Complaint.ofSession (f : Session.Fault) : Complaint :=
  match f with
  | .playbook fault => ofPlaybook fault
  | .unknownPlatform _ _ _ =>
      ⟨[f.message], some "Use a registered platform or set --default-platform."⟩
  | .unreadableCatalog _ fault => ⟨[f.message, fault.message], some catalogHint⟩
  | .malformedCatalog fault => ⟨[f.message, fault.message], some catalogHint⟩
  | .tornDown _ => plain f.message

/-- The complaint about a fault of a pool. -/
def Complaint.ofPool (f : Pool.Fault) : Complaint :=
  match f with
  | .unknownPlatform _ _ => ⟨[f.message], some "Check the platform name in the playbook."⟩
  | .notConstructed _ reason => ⟨[f.message, reason], none⟩
  | .notDeprovisioned _ reason => ⟨[f.message, reason], none⟩

end TestBench.Console
