import TestBench.Id.Ulid
import TestBench.Json.Read

/-!
# Identifiers

Targets and runs are named by identifiers. An identifier has a kind and a ULID, and is written as the
tag of its kind, an underscore and the ULID. The kind is part of the type, so a target is never taken
for a run, and no text reads as both.

Reading checks four things in order: there is a text, it has a separator, the tag before the first
separator is the one of the kind, and what follows is a ULID. The first that fails is the fault.
-/

set_option autoImplicit false

namespace TestBench

/-- What an identifier names. -/
inductive Id.Kind where
  /-- A provisioned target. -/
  | target
  /-- A run of the orchestrator. -/
  | run
deriving DecidableEq, Repr

/-- The tag that starts the text of an identifier. -/
def Id.Kind.tag : Id.Kind → String
  | .target => "tgt"
  | .run => "run"

/-- An identifier of one kind. -/
structure Id (kind : Id.Kind) where
  /-- The number that tells it from others of its kind. -/
  ulid : Ulid
deriving DecidableEq

/-- The identifier of a target. -/
abbrev TargetId := Id .target

/-- The identifier of a run. -/
abbrev RunId := Id .run

namespace Id

variable {kind : Kind}

/-- The text of an identifier. -/
def text (i : Id kind) : String := kind.tag ++ "_" ++ i.ulid.text

/-- The order of identifiers is the order of their numbers. -/
instance : Ord (Id kind) where
  compare i j := compare i.ulid.toNat j.ulid.toNat

/-- Identifiers in ascending order. -/
def sort (ids : List (Id kind)) : List (Id kind) := ids.mergeSort fun i j => i.ulid ≤ j.ulid

/-- Why a text is no identifier of a kind. -/
inductive Fault where
  /-- The text is empty. -/
  | empty
  /-- The text has no separator. -/
  | noSeparator
  /-- The text before the separator is not the tag of the kind. -/
  | wrongTag (expected actual : String)
  /-- The text after the separator is no ULID. -/
  | notUlid (fault : Ulid.Fault)
deriving DecidableEq, Repr

/-- The wording of a fault. -/
def Fault.message : Fault → String
  | .empty => "ID cannot be empty"
  | .noSeparator => "ID has no '_' between prefix and ULID"
  | .wrongTag expected actual => s!"wrong ID kind: expected '{expected}_…', got '{actual}_…'"
  | .notUlid fault => s!"invalid ULID: {fault.message}"

/-- Whether the text belongs to another kind. -/
def Fault.isWrongTag : Fault → Bool
  | .wrongTag _ _ => true
  | _ => false

/-- The identifier of a text. -/
def ofText (kind : Kind) (s : String) : Except Fault (Id kind) :=
  if s.isEmpty then .error .empty
  else
    let tag := String.ofList (s.toList.takeWhile (· != '_'))
    match s.toList.dropWhile (· != '_') with
    | [] => .error .noSeparator
    | _ :: rest =>
        if tag = kind.tag then
          match Ulid.ofText (String.ofList rest) with
          | .ok u => .ok ⟨u⟩
          | .error e => .error (.notUlid e)
        else .error (.wrongTag kind.tag tag)

/-- The JSON form of an identifier is its text. -/
def toJson (i : Id kind) : Json := .string i.text

/-- The identifier that a JSON value stands for. -/
def ofJson (kind : Kind) (v : Json) : Except Json.Mismatch (Id kind) :=
  (Json.readString v).bind fun s =>
    match ofText kind s with
    | .ok i => .ok i
    | .error e => .error (.refused e.message)

end Id

end TestBench
