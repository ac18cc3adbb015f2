import TestBench.Suite.Catalog
import TestBench.Json.Text

/-!
# Reading a catalog from a text

A catalog is exchanged as an array of entries in the strict text form. The entries are typed while
the text is read, so a fault is reported at the place where the text departs from an entry: a value of
the wrong type where it stands, a missing or repeated field where the entry is left.

An entry is an object with its fields in any order, where unknown fields are passed over, or an array
with the fields in the order of their declaration.
-/

set_option autoImplicit false

namespace TestBench

namespace Entry

/-- How one field of an entry is read into the draft, with the room that is left. -/
structure TextField where
  /-- The key in an object. -/
  key : String
  /-- Whether the field may be left out. -/
  optional : Bool
  /-- Whether the draft holds the field already. -/
  isSet : Case.Draft Json → Bool
  /-- Reads the field into the draft. -/
  enter : Nat → Case.Draft Json → Json.Scan (Case.Draft Json)

/-- The result of a step, put into the draft. -/
def entering {α : Type} (set : α → Case.Draft Json → Case.Draft Json) (scan : Nat → Json.Scan α) :
    Nat → Case.Draft Json → Json.Scan (Case.Draft Json) :=
  fun room draft c => (scan room c).map fun r => (set r.1 draft, r.2)

/-- The fields of an entry, in the order of their declaration. -/
def textFields : List TextField :=
  [{ key := "name"
     optional := false
     isSet := (·.name.isSome)
     enter := entering (fun a d => { d with name := some a }) fun _ => Json.Scan.name },
   { key := "metadata"
     optional := true
     isSet := (·.metadata.isSome)
     enter := entering (fun a d => { d with metadata := some a }) fun room =>
       Json.Scan.option (Json.Scan.value room) },
   { key := "requires_target"
     optional := true
     isSet := (·.requiresTarget.isSome)
     enter := entering (fun a d => { d with requiresTarget := some a }) fun _ => Json.Scan.flag },
   { key := "markers"
     optional := true
     isSet := (·.markers.isSome)
     enter := entering (fun a d => { d with markers := some (NameSet.ofList a) })
       (Json.Scan.list fun _ => Json.Scan.name) }]

/-- What a container leaves behind: a draft, or a mismatch whose place is where the entry ends. -/
abbrev Drafting := Except Json.Mismatch (Case.Draft Json)

/-- The items of an array into the draft, one for each field. -/
def scanItems (room place : Nat) (first : Bool) (draft : Case.Draft Json) :
    List TextField → Json.Scan Drafting
  | [], c => .ok (.ok draft, c)
  | f :: fs, c => do
      let (more, c) ← Json.Scan.nextItem first c
      if more then
        let (draft, c) ← f.enter room draft c
        scanItems room (place + 1) false draft fs c
      else if f.optional then scanItems room (place + 1) first draft fs c
      else .ok (.error (.tooShort place record.label textFields.length), c)

/-- The fields of an object into the draft, in rounds of one field. -/
def scanFields : Nat → Nat → Bool → Case.Draft Json → Json.Scan Drafting
  | 0, _, _, draft, c => .ok (.ok draft, c)
  | rounds + 1, room, first, draft, c => do
      let (more, c) ← Json.Scan.nextKey first c
      if more then
        let (key, c) ← Json.Scan.string c.advance
        match textFields.find? (·.key == key) with
        | some f =>
            if f.isSet draft then .ok (.error (.duplicate key), c)
            else
              let (_, c) ← Json.Scan.colon c
              let (draft, c) ← f.enter room draft c
              scanFields rounds room false draft c
        | none =>
            let (_, c) ← Json.Scan.colon c
            let (_, c) ← Json.Scan.pass c
            scanFields rounds room false draft c
      else .ok (.ok draft, c)

/-- Leaves the container of an entry. A mismatch is placed behind the container, or where its end was
looked for in vain; without a mismatch a missing end is the fault. -/
def leave (close : Json.Cursor → Option Json.Fault × Json.Cursor) (drafting : Drafting) :
    Json.Scan Entry := fun c =>
  let (missingEnd, c) := close c
  match drafting.bind ofDraft with
  | .error m => .error (c.fault (.mismatch m))
  | .ok entry =>
      match missingEnd with
      | some f => .error f
      | none => .ok (entry, c)

/-- An entry, with room for nested containers. -/
def scan (room : Nat) : Json.Scan Entry := fun c => do
  let c := c.skipSpace
  match c.peek with
  | some '[' =>
      let (room, c) ← Json.Scan.enter room c
      let (drafting, c) ← scanItems room 0 true (Case.Draft.blank Json) textFields c
      leave Json.Scan.endList drafting c
  | some '\x7b' =>
      let (room, c) ← Json.Scan.enter room c
      let (drafting, c) ← scanFields (c.rest.length + 1) room true (Case.Draft.blank Json) c
      leave Json.Scan.endObject drafting c
  | _ => .error (Json.Scan.wrongForm (.record record.label) c)

end Entry

namespace Catalog

/-- The entries of a catalog text. -/
def ofText (s : String) : Except Json.Fault (List Entry) :=
  Json.Scan.whole (Json.Scan.list Entry.scan Json.Scan.usualRoom) s

end Catalog

end TestBench
