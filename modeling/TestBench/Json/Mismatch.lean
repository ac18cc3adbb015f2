import TestBench.Json.Basic
import TestBench.Text.Quoted

/-!
# Why a value does not have the form asked for

A `Mismatch` is the first fault met when a value is read as something more particular: a name, a
flag, a record. `Mismatch.message` is its wording, the one place where these texts are made.
-/

set_option autoImplicit false

namespace TestBench.Json

/-- The form that a reader asked for. -/
inductive Expected where
  /-- A text. -/
  | string
  /-- A truth value. -/
  | boolean
  /-- A list of values. -/
  | sequence
  /-- Values by key. -/
  | map
  /-- A natural number below a bound. -/
  | natural (bound : Nat)
  /-- A record of the given name. -/
  | record (label : String)
deriving DecidableEq, Repr

/-- The name of a form in a message. The bound of natural numbers is a power of two, and they are
named for their number of bits. -/
def Expected.text : Expected → String
  | .string => "a string"
  | .boolean => "a boolean"
  | .sequence => "a sequence"
  | .map => "a map"
  | .natural bound => s!"u{bound.log2}"
  | .record label => s!"struct {label}"

/-- What a value is, in a message. -/
def found : Json → String
  | .null => "null"
  | .bool b => s!"boolean `{b}`"
  | .int i => s!"integer `{i}`"
  | .float x => "floating point `" ++ String.ofList x.text ++ "`"
  | .string s => "string " ++ Text.quoted s
  | .array _ => "sequence"
  | .object _ => "map"

/-- The first fault of a value that was read as something more particular. -/
inductive Mismatch where
  /-- The value has another type than the one asked for. -/
  | wrongType (value : Json) (expected : Expected)
  /-- The number is outside the range asked for. -/
  | outOfRange (value : Json) (expected : Expected)
  /-- A list that stands for a record ends before the fields that the record cannot do without. -/
  | tooShort (length : Nat) (label : String) (size : Nat)
  /-- A list that stands for a record goes on behind its last field. -/
  | tooLong (length : Nat)
  /-- A field that must be present is not. -/
  | missing (key : String)
  /-- A field is given twice. -/
  | duplicate (key : String)
  /-- A field has a key that the record does not know. -/
  | unknown (key : String) (known : List String)
  /-- The value has none of the forms among which the named choice is made. -/
  | noVariant (choice : String)
  /-- The value has the right form and is refused for the reason given. -/
  | refused (reason : String)

/-- The known keys of a record, as a message lists them. -/
def oneOf : List String → String
  | [] => "there are no fields"
  | [a] => s!"expected `{a}`"
  | [a, b] => s!"expected `{a}` or `{b}`"
  | keys => "expected one of " ++ ", ".intercalate (keys.map fun k => s!"`{k}`")

/-- The wording of a mismatch. -/
def Mismatch.message : Mismatch → String
  | .wrongType value expected => s!"invalid type: {value.found}, expected {expected.text}"
  | .outOfRange value expected => s!"invalid value: {value.found}, expected {expected.text}"
  | .tooShort length label size =>
      s!"invalid length {length}, expected struct {label} with {size} elements"
  | .tooLong length => s!"invalid length {length}, expected fewer elements in array"
  | .missing key => s!"missing field `{key}`"
  | .duplicate key => s!"duplicate field `{key}`"
  | .unknown key known => s!"unknown field `{key}`, " ++ oneOf known
  | .noVariant choice => s!"data did not match any variant of untagged enum {choice}"
  | .refused reason => reason

end TestBench.Json
