import TestBench.Json.Mismatch
import TestBench.NameSet

/-!
# Reading values

Readers from JSON values to the types of the library. A reader of a scalar looks at the value alone.
A *record* is read from an object, whose fields are visited in the order of their keys, or from an
array that holds the fields in the order of their declaration, where fields that may be left out may
be missing at the end.

A record is described once, as a `Record`: its fields, each with a reader that enters the value into
a draft, and the function that makes the finished record of a draft. Both forms are read through that
description. The first fault met is the one reported, and missing fields are looked for last.
-/

set_option autoImplicit false

namespace TestBench.Json

/-! ## Scalars and lists -/

/-- A text. -/
def readString : Json → Except Mismatch String
  | .string s => .ok s
  | v => .error (.wrongType v .string)

/-- A truth value. -/
def readBool : Json → Except Mismatch Bool
  | .bool b => .ok b
  | v => .error (.wrongType v .boolean)

/-- A natural number below a bound. -/
def readNat (bound : Nat) : Json → Except Mismatch (Fin bound)
  | .int i =>
      if h : i.toNat < bound ∧ 0 ≤ i then .ok ⟨i.toNat, h.1⟩
      else .error (.outOfRange (.int i) (.natural bound))
  | v => .error (.wrongType v (.natural bound))

/-- The items of an array, each read in turn. -/
def readList {α : Type} (read : Json → Except Mismatch α) : Json → Except Mismatch (List α)
  | .array items => items.mapM read
  | v => .error (.wrongType v .sequence)

/-- A set of names. -/
def readNames (v : Json) : Except Mismatch NameSet :=
  (readList readString v).map NameSet.ofList

/-- The fields of an object, as they are. -/
def readFields : Json → Except Mismatch Fields
  | .object fields => .ok fields
  | v => .error (.wrongType v .map)

/-- A value that may be null. -/
def readOption {α : Type} (read : Json → Except Mismatch α) : Json → Except Mismatch (Option α)
  | .null => .ok none
  | v => (read v).map some

/-! ## Records -/

/-- A field of a record that is drafted as a `δ`. -/
structure Field (δ : Type) where
  /-- The key in an object. -/
  key : String
  /-- Whether the field may be left out. -/
  optional : Bool
  /-- Whether the draft holds the field already. -/
  isSet : δ → Bool
  /-- Enters a value for the field into the draft. -/
  enter : Json → δ → Except Mismatch δ

/-- How an `α` is read from its fields. -/
structure Record (δ α : Type) where
  /-- The name of the record in messages. -/
  label : String
  /-- Whether keys that are not fields are refused; otherwise they are passed over. -/
  closed : Bool
  /-- The fields, in the order of their declaration. -/
  fields : List (Field δ)
  /-- The draft without any field. -/
  blank : δ
  /-- The record of a draft, or the first field that is missing. -/
  finish : δ → Except Mismatch α

namespace Record

variable {δ α : Type}

/-- The keys of the fields. -/
def keys (r : Record δ α) : List String := r.fields.map (·.key)

/-- The field under a key. -/
def field? (r : Record δ α) (key : String) : Option (Field δ) := r.fields.find? (·.key == key)

/-- Enters one field of an object into the draft. -/
def visit (r : Record δ α) (draft : δ) (entry : String × Json) : Except Mismatch δ :=
  match r.field? entry.1 with
  | some f => if f.isSet draft then .error (.duplicate f.key) else f.enter entry.2 draft
  | none => if r.closed then .error (.unknown entry.1 r.keys) else .ok draft

/-- The record of an object's fields. -/
def ofFields (r : Record δ α) (entries : Fields) : Except Mismatch α := do
  r.finish (← entries.foldlM r.visit r.blank)

/-- Enters the items of an array, one for each field; `place` counts the fields before. The items
that are left over are returned. -/
def visitItems (r : Record δ α) (place : Nat) :
    List (Field δ) → List Json → δ → Except Mismatch (δ × List Json)
  | [], rest, draft => .ok (draft, rest)
  | f :: fs, [], draft =>
      if f.optional then visitItems r (place + 1) fs [] draft
      else .error (.tooShort place r.label r.fields.length)
  | f :: fs, v :: vs, draft => do visitItems r (place + 1) fs vs (← f.enter v draft)

/-- The record of an array's items. -/
def ofItems (r : Record δ α) (items : List Json) : Except Mismatch α := do
  let (draft, rest) ← r.visitItems 0 r.fields items r.blank
  let result ← r.finish draft
  if rest.isEmpty then .ok result else .error (.tooLong items.length)

/-- The record that a value stands for. -/
def read (r : Record δ α) : Json → Except Mismatch α
  | .object entries => r.ofFields entries
  | .array items => r.ofItems items
  | v => .error (.wrongType v (.record r.label))

end Record

/-- The field that is kept at one place of the draft. -/
def Field.at {δ β : Type} (key : String) (optional : Bool) (get : δ → Option β) (set : β → δ → δ)
    (read : Json → Except Mismatch β) : Field δ where
  key := key
  optional := optional
  isSet draft := (get draft).isSome
  enter v draft := (read v).map fun b => set b draft

/-- A field that must be there, from the draft. -/
def required {α : Type} (key : String) : Option α → Except Mismatch α
  | some a => .ok a
  | none => .error (.missing key)

end TestBench.Json
