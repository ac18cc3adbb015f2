import TestBench.Json.Compact

/-!
# The schema of playbooks

Before a document is read as a playbook it is checked against a schema, and every violation is
reported, not only the first. A `Rule` lists the violations of a value. Rules are combined: a value of
given kinds, a text that is not empty, a number within bounds, an array whose items follow a rule, and
an object that is closed over its properties.

The violations of an object are those of its known properties in the order of the keys, each with all
that lies inside it, then one for all unexpected keys, then one for each required key that is missing.
A value of the wrong kind has no other violations, a number out of bounds excepted.

A floating point number without fraction counts as an integer here.
-/

set_option autoImplicit false

namespace TestBench.Schema

/-- The kinds of values that a rule can ask for, in the order of their names. -/
inductive Kind where
  /-- A list of values. -/
  | array
  /-- A truth value. -/
  | boolean
  /-- A number without fraction. -/
  | integer
  /-- The absent value. -/
  | null
  /-- Values by key. -/
  | object
  /-- A text. -/
  | string
deriving DecidableEq, Repr

/-- The name of a kind. -/
def Kind.name : Kind → String
  | .array => "array"
  | .boolean => "boolean"
  | .integer => "integer"
  | .null => "null"
  | .object => "object"
  | .string => "string"

/-- Whether a value is of a kind. -/
def Kind.admits : Kind → Json → Bool
  | .array, .array _ => true
  | .boolean, .bool _ => true
  | .integer, .int _ => true
  | .integer, .float x => x.isIntegral
  | .null, .null => true
  | .object, .object _ => true
  | .string, .string _ => true
  | _, _ => false

/-- One way in which a document departs from the schema. -/
inductive Violation where
  /-- The value is of none of the kinds asked for. -/
  | wrongKind (value : Json) (kinds : List Kind)
  /-- The text is empty. -/
  | emptyText (value : Json)
  /-- The number is below the least one allowed. -/
  | belowMinimum (value : Json) (minimum : Int)
  /-- The number is above the greatest one allowed. -/
  | aboveMaximum (value : Json) (maximum : Int)
  /-- The object has keys that are no properties. -/
  | unexpectedKeys (keys : List String)
  /-- The object lacks a property that it must have. -/
  | missingKey (key : String)

/-- A name between quotation marks. -/
def inMarks (s : String) : String := "\"" ++ s ++ "\""

/-- The wording of a violation. -/
def Violation.message : Violation → String
  | .wrongKind value [k] => value.compact ++ " is not of type " ++ inMarks k.name
  | .wrongKind value kinds =>
      value.compact ++ " is not of types " ++ ", ".intercalate (kinds.map fun k => inMarks k.name)
  | .emptyText value => value.compact ++ " is shorter than 1 character"
  | .belowMinimum value minimum => value.compact ++ s!" is less than the minimum of {minimum}"
  | .aboveMaximum value maximum => value.compact ++ s!" is greater than the maximum of {maximum}"
  | .unexpectedKeys keys =>
      "Additional properties are not allowed (" ++
        ", ".intercalate (keys.map fun k => "'" ++ k ++ "'") ++
        (if keys.length = 1 then " was unexpected)" else " were unexpected)")
  | .missingKey key => (Json.string key).compact ++ " is a required property"

/-- What a rule finds wrong with a value. -/
abbrev Rule := Json → List Violation

/-- A value of one of the kinds. -/
def ofKinds (kinds : List Kind) : Rule := fun v =>
  if kinds.any fun k => k.admits v then [] else [.wrongKind v kinds]

/-- A text that is not empty. -/
def nonEmptyText : Rule := fun v =>
  (match v with
    | .string s => if s.isEmpty then [.emptyText v] else []
    | _ => []) ++ ofKinds [.string] v

/-- Whether a number is less than an integer; what is no number is not. -/
def lessThan (v : Json) (n : Int) : Bool :=
  match v with
  | .int i => decide (i < n)
  | .float x => x.ltInt n
  | _ => false

/-- Whether a number is greater than an integer; what is no number is not. -/
def greaterThan (v : Json) (n : Int) : Bool :=
  match v with
  | .int i => decide (n < i)
  | .float x => x.gtInt n
  | _ => false

/-- An integer within bounds. -/
def integerWithin (minimum maximum : Int) : Rule := fun v =>
  (if lessThan v minimum then [.belowMinimum v minimum] else []) ++
  (if greaterThan v maximum then [.aboveMaximum v maximum] else []) ++
  ofKinds [.integer] v

/-- An array, or a value of another admitted kind; the items of an array follow the rule. -/
def arrayOf (kinds : List Kind) (item : Rule) : Rule := fun v =>
  ofKinds kinds v ++
    (match v with
      | .array items => items.flatMap item
      | _ => [])

/-- The rule of a property. -/
def ruleOf (properties : List (String × Rule)) (key : String) : Option Rule :=
  (properties.find? fun p => p.1 == key).map (·.2)

/-- What is wrong with one field of an object. -/
def fieldViolations (properties : List (String × Rule)) (field : String × Json) :
    List Violation :=
  match ruleOf properties field.1 with
  | some rule => rule field.2
  | none => []

/-- The keys of an object that are no properties. -/
def unexpected (properties : List (String × Rule)) (fields : Json.Fields) : List String :=
  (fields.filter fun f => (ruleOf properties f.1).isNone).map (·.1)

/-- The required keys that an object lacks. -/
def lacking (required : List String) (fields : Json.Fields) : List String :=
  required.filter fun key => (fields.get? key).isNone

/-- An object with no keys but its properties, each of which follows its rule, and with all required
ones. -/
def closedObject (properties : List (String × Rule)) (required : List String) : Rule
  | .object fields =>
      fields.flatMap (fieldViolations properties) ++
        (match unexpected properties fields with
          | [] => []
          | keys => [.unexpectedKeys keys]) ++
        (lacking required fields).map .missingKey
  | v => [.wrongKind v [.object]]

/-! ## Playbooks -/

/-- A target of a playbook. -/
def target : Rule :=
  closedObject
    [("name", nonEmptyText), ("platform", nonEmptyText), ("parameters", ofKinds [.object])]
    ["name", "platform"]

/-- A criterion of a playbook. -/
def criterion : Rule :=
  closedObject
    [("name", ofKinds [.null, .string]), ("area", ofKinds [.null, .string]),
     ("category", ofKinds [.null, .string]), ("priority", ofKinds [.integer, .null, .string]),
     ("tags", arrayOf [.array, .null] (ofKinds [.string])), ("times", integerWithin 0 1000),
     ("exclude", ofKinds [.boolean])]
    []

/-- A playbook. -/
def playbook : Rule :=
  closedObject
    [("targets", arrayOf [.array] target), ("criteria", arrayOf [.array] criterion)]
    []

end TestBench.Schema
