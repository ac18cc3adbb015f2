import TestBench.Yaml.Grammar
import TestBench.Yaml.Lexer
import TestBench.Yaml.Scalar

/-!
# From documents to values

The value of a document is found by replacing aliases with the nodes they repeat, deciding scalars by
their tags and texts, and taking mappings as objects. Keys are always texts, and of equal keys the last
one counts.

Two limits keep the work finite. Collections may be nested to a depth of 128, aliases included, which
also stops a node that repeats itself. And a document may repeat nodes at most a hundred times as often
as it has events.
-/

set_option autoImplicit false

namespace TestBench.Yaml

/-- What a tag says about a node. -/
inductive TagMeaning where
  /-- Nothing is said. -/
  | none
  /-- The type of a scalar. -/
  | forced (f : Scalar.Forced)
  /-- A type of its own. -/
  | own
  /-- A type of its own whose name is not a text. -/
  | unnamed
  /-- Any other type; scalars are texts. -/
  | other
deriving DecidableEq, Repr

/-- The bytes of the tag of a basic type. -/
def basicTag (name : String) : List UInt8 := ("tag:yaml.org,2002:" ++ name).toUTF8.toList

/-- What a tag says. -/
def TagMeaning.of : Option (List UInt8) → TagMeaning
  | Option.none => none
  | some bytes =>
      if bytes.head? = some 0x21 then
        if (String.fromUTF8? ⟨bytes.toArray⟩).isSome then own else unnamed
      else if bytes = basicTag "bool" then forced .bool
      else if bytes = basicTag "int" then forced .int
      else if bytes = basicTag "float" then forced .float
      else if bytes = basicTag "null" then forced .null
      else other

/-- The value of a scalar. -/
def scalarValue (tag : TagMeaning) (text : String) (style : Style) : Except Fault Json :=
  match tag with
  | .own => .error .ownType
  | .forced f => Scalar.forced text f
  | .other => .ok (.string text)
  | .none | .unnamed =>
      match style with
      | .plain => Scalar.plain text
      | .marked => .ok (.string text)

/-- A computation that may use up repetitions. -/
abbrev Repeating (α : Type) := StateT Nat (Except Fault) α

namespace Repeating

/-- Uses up one repetition. -/
def use : Repeating Unit := do
  match ← get with
  | 0 => throw .tooManyRepeats
  | n + 1 => set n

/-- The node that stands for a node: for an alias the one it repeats. -/
def follow (anchors : List (Nat × Node)) : Node → Repeating Node
  | .reference id => do
      use
      match anchors.findRev? fun a => a.1 == id with
      | some a => return a.2
      | none => throw (.unknownAlias (toString id))
  | n => return n

/-- The text of a key. -/
def key (anchors : List (Nat × Node)) (n : Node) : Repeating String := do
  match ← follow anchors n with
  | .scalar _ text _ => return text
  | _ => throw .badKey

/-- The value of a node, with so much room for nested collections. -/
def value (anchors : List (Nat × Node)) : Nat → Node → Repeating Json
  | room, n => do
      match ← follow anchors n with
      | .reference id => throw (.unknownAlias (toString id))
      | .scalar p text style => scalarValue (.of p.tag) text style
      | .sequence p items =>
          if TagMeaning.of p.tag = .own then throw .ownType
          match room with
          | 0 => throw .tooDeep
          | room + 1 => return .array (← items.mapM (value anchors room))
      | .mapping p entries =>
          if TagMeaning.of p.tag = .own then throw .ownType
          match room with
          | 0 => throw .tooDeep
          | room + 1 =>
              let pairs ← entries.mapM fun e => do
                return (← key anchors e.1, ← value anchors room e.2)
              return .object (Json.Fields.ofList pairs)

end Repeating

/-- How deep collections may be nested. -/
def usualRoom : Nat := 128

/-- How many repetitions each event allows. -/
def repeatsPerEvent : Nat := 100

/-- The value of a document. -/
def Node.toJson (n : Node) : Except Fault Json :=
  (Repeating.value n.anchored usualRoom n).run' (repeatsPerEvent * n.events)

/-- The value of a text: its only document, or the absent value if it has none. -/
def ofText (text : String) : Except Fault Json := do
  match ← document (← tokens text.toList) with
  | some n => n.toJson
  | none => return .null

end TestBench.Yaml
