import TestBench.Suite.Case
import TestBench.Number.Natural
import TestBench.Text.Blank
import TestBench.Text.Lowercase

/-!
# Selection criteria

A `Criterion` is a rule of a playbook: up to five conditions on a test, how many copies of a matching
test are wanted, and whether matching tests are wanted at all. A condition that is unset, or set to
nothing, is no condition. A test matches when any condition holds of it; a test without metadata never
matches.

The priority of a criterion may be written as a number or in quotes; `Criterion.readPriority` has the
exact forms.
-/

set_option autoImplicit false

namespace TestBench

/-- Whether the characters of `part` stand together somewhere in `whole`. -/
def Text.holds (whole part : List Char) : Bool :=
  match whole with
  | [] => part.isEmpty
  | c :: rest => part.isPrefixOf (c :: rest) || Text.holds rest part

/-- A selection rule. -/
structure Criterion where
  /-- A part of the name of the test. -/
  name : Option String
  /-- The area of the test, up to case. -/
  area : Option String
  /-- The category of the test, up to case. -/
  category : Option String
  /-- The priority of the test. -/
  priority : Option Priority
  /-- Tags that the test must all bear. -/
  tags : Option NameSet
  /-- How many copies of a matching test are wanted. -/
  times : Fin 4294967296
  /-- Whether matching tests are left out. -/
  exclude : Bool
deriving DecidableEq

namespace Criterion

/-- The rule without conditions, which would include one copy. -/
def blank : Criterion where
  name := none
  area := none
  category := none
  priority := none
  tags := none
  times := 1
  exclude := false

instance : Inhabited Criterion := ⟨blank⟩

/-! ## Conditions -/

/-- The text of a condition, unless it is unset or empty. -/
def condition? (field : Option String) : Option String := field.filter fun s => !s.isEmpty

/-- The tags that must be borne, unless there are none. -/
def wantedTags? (c : Criterion) : Option NameSet := c.tags.filter fun t => !t.isEmpty

/-- Whether any condition is set. -/
def hasConditions (c : Criterion) : Bool :=
  (condition? c.name).isSome || (condition? c.area).isSome || (condition? c.category).isSome ||
    c.priority.isSome || c.wantedTags?.isSome

/-- Whether a condition is set and holds. -/
def holds {α : Type} (condition : Option α) (test : α → Bool) : Bool := condition.any test

/-- Whether a test with the given name and metadata meets some condition. -/
def meets (c : Criterion) (name : String) (m : Metadata) : Bool :=
  holds (condition? c.name) (fun part => Text.holds name.toList part.toList) ||
    holds (condition? c.area) (fun area => Text.agree area m.area) ||
    holds (condition? c.category) (fun category => Text.agree category m.category) ||
    holds c.priority (fun p => p == m.priority) ||
    holds c.wantedTags? (fun tags => tags.subset m.tags)

/-- Whether the rule matches a test. -/
def matchesCase (c : Criterion) (test : Case) : Bool :=
  match test.metadata with
  | some m => c.meets test.name m
  | none => false

/-- Tests without metadata never match. -/
theorem matchesCase_of_metadata_eq_none {c : Criterion} {test : Case} (h : test.metadata = none) :
    c.matchesCase test = false := by
  simp [matchesCase, h]

/-! ## The rule as a text -/

/-- The parts of the rule's text, one for each condition. -/
def parts (c : Criterion) : List String :=
  (condition? c.name).toList.map (fun s => s!"name~{s}") ++
  (condition? c.area).toList.map (fun s => s!"area={s}") ++
  (condition? c.category).toList.map (fun s => s!"category={s}") ++
  c.priority.toList.map (fun p => s!"priority={p.val}") ++
  c.wantedTags?.toList.map (fun t => "tags⊇[" ++ ",".intercalate t.toList ++ "]")

/-- What the rule does with a matching test. -/
def action (c : Criterion) : String := if c.exclude then "exclude" else s!"include x{c.times.val}"

/-- The rule as a text for readers. -/
def text (c : Criterion) : String := " | ".intercalate c.parts ++ " (" ++ c.action ++ ")"

/-! ## Reading and writing -/

/-- A priority in quotes: unset when blank, otherwise a natural number padded with blanks. -/
def priorityOfText (s : String) : Except Json.Mismatch (Option Priority) :=
  match Text.trim s.toList with
  | [] => .ok none
  | digits =>
      match Number.naturalBelow? 256 digits with
      | some p => .ok (some p)
      | none => .error (.refused ("invalid priority: " ++ Text.quoted s))

/-- The priority of a rule: null, a number in range, or a text. -/
def readPriority : Json → Except Json.Mismatch (Option Priority)
  | .null => .ok none
  | .string s => priorityOfText s
  | v =>
      match Json.readNat 256 v with
      | .ok p => .ok (some p)
      | .error _ => .error (.noVariant "Raw")

/-- The fields of a rule read so far. -/
structure Draft where
  /-- The part of the name. -/
  name : Option (Option String)
  /-- The area. -/
  area : Option (Option String)
  /-- The category. -/
  category : Option (Option String)
  /-- The priority. -/
  priority : Option (Option Priority)
  /-- The tags. -/
  tags : Option (Option NameSet)
  /-- The number of copies. -/
  times : Option (Fin 4294967296)
  /-- Whether matching tests are left out. -/
  exclude : Option Bool

/-- How a rule is read: seven fields, all of which may be left out, and no others. -/
def record : Json.Record Draft Criterion where
  label := "Criterion"
  closed := true
  fields :=
    [.at "name" true (·.name) (fun a d => { d with name := some a })
       (Json.readOption Json.readString),
     .at "area" true (·.area) (fun a d => { d with area := some a })
       (Json.readOption Json.readString),
     .at "category" true (·.category) (fun a d => { d with category := some a })
       (Json.readOption Json.readString),
     .at "priority" true (·.priority) (fun a d => { d with priority := some a }) readPriority,
     .at "tags" true (·.tags) (fun a d => { d with tags := some a })
       (Json.readOption Json.readNames),
     .at "times" true (·.times) (fun a d => { d with times := some a }) (Json.readNat 4294967296),
     .at "exclude" true (·.exclude) (fun a d => { d with exclude := some a }) Json.readBool]
  blank := ⟨none, none, none, none, none, none, none⟩
  finish d := .ok {
    name := d.name.getD none
    area := d.area.getD none
    category := d.category.getD none
    priority := d.priority.getD none
    tags := d.tags.getD none
    times := d.times.getD 1
    exclude := d.exclude.getD false }

/-- The rule that a value stands for. -/
def ofJson (v : Json) : Except Json.Mismatch Criterion := record.read v

/-- The written form of a value that may be unset. -/
def orNull {α : Type} (toJson : α → Json) : Option α → Json
  | some a => toJson a
  | none => .null

/-- The written form of a rule: all seven fields, unset ones as null. -/
def toJson (c : Criterion) : Json :=
  .object
    [("area", orNull .string c.area), ("category", orNull .string c.category),
     ("exclude", .bool c.exclude), ("name", orNull .string c.name),
     ("priority", orNull (fun p => .int p.val) c.priority),
     ("tags", orNull Metadata.namesJson c.tags), ("times", .int c.times.val)]

end Criterion

end TestBench
