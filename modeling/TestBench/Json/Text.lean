import TestBench.Json.Scan

/-!
# Reading a value from a text

The strict text form of the format: one value, white space around its parts, nothing behind it.
Containers are nested up to a given depth (`Scan.value`), and a value whose content is not wanted can
be passed over without limit (`Scan.pass`). Where a value of another form is asked for, the fault
names what stands there (`Scan.wrongForm`).

A container is read in rounds: `Scan.nextItem` and `Scan.nextKey` step to the next item or find the
end, and `Scan.endList` and `Scan.endObject` close the container. The depth still allowed is called
`room`; it is used up by one at each opening bracket, and the bracket that uses up the last is
refused.
-/

set_option autoImplicit false

namespace TestBench.Json

namespace Scan

/-- The room at the start of a text: values are nested 127 deep at most. -/
def usualRoom : Nat := 128

/-! ## Steps through a container -/

/-- Steps to the next item of an array, or stops before its end. -/
def nextItem (first : Bool) : Scan Bool := fun c =>
  let c := c.skipSpace
  match c.peek with
  | none => .error (c.fault .endInList)
  | some ']' => .ok (false, c)
  | some ch =>
      if first then .ok (true, c)
      else if ch = ',' then
        let c := c.advance.skipSpace
        match c.peek with
        | none => .error (c.fault .endInValue)
        | some ']' => .error (c.faultAhead .trailingComma)
        | some _ => .ok (true, c)
      else .error (c.faultAhead .noListComma)

/-- Steps to the next key of an object, or stops before its end. -/
def nextKey (first : Bool) : Scan Bool := fun c =>
  let c := c.skipSpace
  match c.peek with
  | none => .error (c.fault .endInObject)
  | some '\x7d' => .ok (false, c)
  | some ch =>
      if first then
        if ch = '"' then .ok (true, c) else .error (c.faultAhead .noKey)
      else if ch = ',' then
        let c := c.advance.skipSpace
        match c.peek with
        | none => .error (c.fault .endInValue)
        | some '"' => .ok (true, c)
        | some '\x7d' => .error (c.faultAhead .trailingComma)
        | some _ => .error (c.faultAhead .noKey)
      else .error (c.faultAhead .noObjectComma)

/-- The colon behind a key. -/
def colon : Scan Unit := fun c =>
  let c := c.skipSpace
  match c.peek with
  | none => .error (c.fault .endInObject)
  | some ':' => .ok ((), c.advance)
  | some _ => .error (c.faultAhead .noColon)

/-- Where the end of an array is looked for: its fault, if the end is not there, and the cursor. -/
def endList (c : Cursor) : Option Fault × Cursor :=
  let c := c.skipSpace
  match c.peek with
  | none => (some (c.fault .endInList), c)
  | some ']' => (none, c.advance)
  | some ',' =>
      let c := c.advance.skipSpace
      match c.peek with
      | some ']' => (some (c.faultAhead .trailingComma), c)
      | _ => (some (c.faultAhead .trailing), c)
  | some _ => (some (c.faultAhead .trailing), c)

/-- Where the end of an object is looked for: its fault, if the end is not there, and the cursor. -/
def endObject (c : Cursor) : Option Fault × Cursor :=
  let c := c.skipSpace
  match c.peek with
  | none => (some (c.fault .endInObject), c)
  | some '\x7d' => (none, c.advance)
  | some ',' => (some (c.faultAhead .trailingComma), c)
  | some _ => (some (c.faultAhead .trailing), c)

/-- A result, once the container around it is closed. -/
def closing {α : Type} (close : Cursor → Option Fault × Cursor) (result : α) : Scan α := fun c =>
  match close c with
  | (none, c) => .ok (result, c)
  | (some f, _) => .error f

/-! ## Values -/

/-- A value that is not nested, at its first character, or `none` for a container. -/
def plainValue? : Scan (Option Json) := fun c =>
  match c.peek with
  | none => .error (c.fault .endInValue)
  | some 'n' => (word "ull".toList c.advance).map fun r => (some .null, r.2)
  | some 't' => (word "rue".toList c.advance).map fun r => (some (.bool true), r.2)
  | some 'f' => (word "alse".toList c.advance).map fun r => (some (.bool false), r.2)
  | some '-' => (number true c.advance).map fun r => (some r.1, r.2)
  | some '"' => (string c.advance).map fun r => (some (.string r.1), r.2)
  | some '[' => .ok (none, c)
  | some '\x7b' => .ok (none, c)
  | some ch =>
      if ch.isDigit then (number false c).map fun r => (some r.1, r.2)
      else .error (c.faultAhead .noValue)

/-- The room behind an opening bracket. -/
def enter (room : Nat) : Scan Nat := fun c =>
  if room ≤ 1 then .error (c.faultAhead .tooDeep) else .ok (room - 1, c.advance)

mutual

/-- A value, with room for nested containers. Each call takes a character of the text or hands on to
one that does, which `rounds` counts. -/
def valueRounds : Nat → Nat → Scan Json
  | 0, _, c => .error (c.fault .endInValue)
  | rounds + 1, room, c => do
      let c := c.skipSpace
      match ← plainValue? c with
      | (some v, c) => .ok (v, c)
      | (none, c) =>
          let isList := c.peek == some '['
          let (room, c) ← enter room c
          if isList then
            let (items, c) ← itemRounds rounds room true [] c
            closing endList (.array items) c
          else
            let (fields, c) ← fieldRounds rounds room true [] c
            closing endObject (.object fields) c

/-- The items of an array up to its end, with those read so far in reverse. -/
def itemRounds : Nat → Nat → Bool → List Json → Scan (List Json)
  | 0, _, _, _, c => .error (c.fault .endInList)
  | rounds + 1, room, first, read, c => do
      let (more, c) ← nextItem first c
      if more then
        let (v, c) ← valueRounds rounds room c
        itemRounds rounds room false (v :: read) c
      else .ok (read.reverse, c)

/-- The fields of an object up to its end, with those read so far. Of equal keys the last counts. -/
def fieldRounds : Nat → Nat → Bool → Fields → Scan Fields
  | 0, _, _, _, c => .error (c.fault .endInObject)
  | rounds + 1, room, first, read, c => do
      let (more, c) ← nextKey first c
      if more then
        let (key, c) ← string c.advance
        let (_, c) ← colon c
        let (v, c) ← valueRounds rounds room c
        fieldRounds rounds room false (read.insert key v) c
      else .ok (read, c)

end

/-- A value, with room for nested containers. -/
def value (room : Nat) : Scan Json := fun c => valueRounds (2 * c.rest.length + 2) room c

/-! ## Values that are passed over -/

/-- Passes over the digits of an exponent, behind its mark. -/
def passExponent : Scan Unit := fun c =>
  let (_, c) := exponentSign c
  match digitAhead? c with
  | some _ => .ok ((), skipDigits c)
  | none => .error (c.faultAhead .badNumber)

/-- Passes over what may follow the whole part of a number. -/
def passAfterWhole : Scan Unit := fun c =>
  match c.peek with
  | some '.' =>
      let c := c.advance
      if (digitAhead? c).isNone then .error (c.faultAhead .badNumber)
      else
        let c := skipDigits c
        match c.peek with
        | some ch => if isExponentMark ch then passExponent c.advance else .ok ((), c)
        | none => .ok ((), c)
  | some ch => if isExponentMark ch then passExponent c.advance else .ok ((), c)
  | none => .ok ((), c)

/-- Passes over a number, at its first digit. -/
def passNumber : Scan Unit := fun c =>
  match digitAhead? c with
  | none => .error (c.faultAhead .badNumber)
  | some 0 =>
      if (digitAhead? c.advance).isSome then .error (c.advance.faultAhead .badNumber)
      else passAfterWhole c.advance
  | some _ => passAfterWhole (skipDigits c)

/-- Passes over a value that is not nested, at its first character; answers whether it was one. -/
def passPlain : Scan Bool := fun c =>
  match c.peek with
  | none => .error (c.fault .endInValue)
  | some 'n' => (word "ull".toList c.advance).map fun r => (true, r.2)
  | some 't' => (word "rue".toList c.advance).map fun r => (true, r.2)
  | some 'f' => (word "alse".toList c.advance).map fun r => (true, r.2)
  | some '-' => (passNumber c.advance).map fun r => (true, r.2)
  | some '"' => (passString c.advance).map fun r => (true, r.2)
  | some '[' => .ok (false, c)
  | some '\x7b' => .ok (false, c)
  | some ch =>
      if ch.isDigit then (passNumber c).map fun r => (true, r.2)
      else .error (c.faultAhead .noValue)

/-- A container that is being passed over. -/
inductive Bracket where
  /-- An array. -/
  | list
  /-- An object. -/
  | object
deriving DecidableEq

/-- The closing character of a container. -/
def Bracket.closer : Bracket → Char
  | .list => ']'
  | .object => '\x7d'

/-- Passes over a key and its colon. -/
def passKey : Scan Unit := fun c =>
  let c := c.skipSpace
  match c.peek with
  | none => .error (c.fault .endInObject)
  | some '"' => do
      let (_, c) ← passString c.advance
      colon c
  | some _ => .error (c.faultAhead .noKey)

/-- Closes the containers that end here, the innermost first. Answers the containers that are still
open; there are none when the value is complete. `hadItem` tells whether a comma may come next. -/
def passEnds (hadItem : Bool) : List Bracket → Scan (List Bracket)
  | [], c => .ok ([], c)
  | b :: bs, c =>
      let c := c.skipSpace
      match c.peek with
      | none => .error (c.fault (if b = .list then .endInList else .endInObject))
      | some ch =>
          if hadItem && ch == ',' then .ok (b :: bs, c.advance)
          else if ch = b.closer then passEnds true bs c.advance
          else if hadItem then
            .error (c.faultAhead (if b = .list then .noListComma else .noObjectComma))
          else .ok (b :: bs, c)

/-- Passes over one value in rounds; the containers that are open are kept as a list, so their number
is not limited. -/
def passRounds : Nat → List Bracket → Scan Unit
  | 0, _, c => .error (c.fault .endInValue)
  | rounds + 1, enclosing, c => do
      let c := c.skipSpace
      let (plain, c) ← passPlain c
      let (stack, c) ←
        if plain then passEnds true enclosing c
        else
          let b : Bracket := if c.peek == some '[' then .list else .object
          passEnds false (b :: enclosing) c.advance
      match stack with
      | [] => .ok ((), c)
      | .list :: _ => passRounds rounds stack c
      | .object :: _ => do
          let (_, c) ← passKey c
          passRounds rounds stack c

/-- Passes over one value. -/
def pass : Scan Unit := fun c => passRounds (c.rest.length + 1) [] c

/-! ## Values of a form that is asked for -/

/-- The fault of a value that has not the form asked for. A plain value is read to be named; a
container is named by its bracket. -/
def wrongForm (expected : Expected) (c : Cursor) : Fault :=
  match plainValue? c with
  | .error f => f
  | .ok (some v, c) => c.fault (.mismatch (.wrongType v expected))
  | .ok (none, c) =>
      let v : Json := if c.peek == some '[' then .array [] else .object []
      c.fault (.mismatch (.wrongType v expected))

/-- A text. -/
def name : Scan String := fun c =>
  let c := c.skipSpace
  match c.peek with
  | some '"' => string c.advance
  | _ => .error (wrongForm .string c)

/-- A truth value. -/
def flag : Scan Bool := fun c =>
  let c := c.skipSpace
  match c.peek with
  | some 't' => (word "rue".toList c.advance).map fun r => (true, r.2)
  | some 'f' => (word "alse".toList c.advance).map fun r => (false, r.2)
  | _ => .error (wrongForm .boolean c)

/-- The items of an array up to its end, each read in the same way. -/
def listRounds {α : Type} (item : Scan α) : Nat → Bool → List α → Scan (List α)
  | 0, _, _, c => .error (c.fault .endInList)
  | rounds + 1, first, read, c => do
      let (more, c) ← nextItem first c
      if more then
        let (a, c) ← item c
        listRounds item rounds false (a :: read) c
      else .ok (read.reverse, c)

/-- An array, each item read in the same way with the room that is left. -/
def list {α : Type} (item : Nat → Scan α) (room : Nat) : Scan (List α) := fun c => do
  let c := c.skipSpace
  match c.peek with
  | some '[' =>
      let (room, c) ← enter room c
      let (items, c) ← listRounds (item room) (c.rest.length + 1) true [] c
      closing endList items c
  | _ => .error (wrongForm .sequence c)

/-- A value that may be null. -/
def option {α : Type} (item : Scan α) : Scan (Option α) := fun c =>
  let c := c.skipSpace
  match c.peek with
  | some 'n' => (word "ull".toList c.advance).map fun r => (none, r.2)
  | _ => (item c).map fun r => (some r.1, r.2)

/-- A whole text: what is read from its start, with only white space behind. -/
def whole {α : Type} (item : Scan α) (s : String) : Except Fault α := do
  let (a, c) ← item (Cursor.ofText s)
  let c := c.skipSpace
  match c.peek with
  | none => .ok a
  | some _ => .error (c.faultAhead .trailing)

end Scan

/-- The value that a text stands for, its containers nested within the given room. -/
def ofText (room : Nat) (s : String) : Except Fault Json := Scan.whole (Scan.value room) s

end TestBench.Json
