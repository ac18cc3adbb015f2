import TestBench.Json.Mismatch

/-!
# A place in a text

A `Cursor` is what is left of a text together with the place reached: the line, counted from one, and
the number of bytes of that line that lie behind. A fault in a text is a cause at a place.

Two places matter. A character that was taken and found wrong is reported behind the byte taken
(`Cursor.fault` after the step); one that was only looked at is reported behind its first byte as well
(`Cursor.faultAhead`), and at the end of the text both places are the end.
-/

set_option autoImplicit false

namespace TestBench.Json

/-- What is left of a text, and the place reached. -/
structure Cursor where
  /-- The characters ahead. -/
  rest : List Char
  /-- The line, from one. -/
  line : Nat
  /-- The bytes of the line that lie behind. -/
  column : Nat

/-- Why a text is not what was asked for. -/
inductive Fault.Cause where
  /-- The text ends inside an array. -/
  | endInList
  /-- The text ends inside an object. -/
  | endInObject
  /-- The text ends inside a string. -/
  | endInString
  /-- The text ends where a value should stand. -/
  | endInValue
  /-- A key is not followed by a colon. -/
  | noColon
  /-- An item is followed by neither a comma nor the end of the array. -/
  | noListComma
  /-- A field is followed by neither a comma nor the end of the object. -/
  | noObjectComma
  /-- A word is not the one that its first letter announces. -/
  | noWord
  /-- No value starts here. -/
  | noValue
  /-- A backslash is followed by a character that it does not escape. -/
  | badEscape
  /-- A number is malformed. -/
  | badNumber
  /-- A number is beyond every double. -/
  | hugeNumber
  /-- A control character stands in a string. -/
  | controlCharacter
  /-- A key does not start with a quotation mark. -/
  | noKey
  /-- Half of a surrogate pair stands where its other half is missing. -/
  | loneSurrogate
  /-- The first half of a surrogate pair is not followed by an escape. -/
  | halfPair
  /-- A comma stands before the end of an array or object. -/
  | trailingComma
  /-- Something follows where nothing may. -/
  | trailing
  /-- Values are nested too deep. -/
  | tooDeep
  /-- The text is well formed and the value has not the form asked for. -/
  | mismatch (m : Mismatch)

/-- The wording of a cause. -/
def Fault.Cause.message : Fault.Cause → String
  | .endInList => "EOF while parsing a list"
  | .endInObject => "EOF while parsing an object"
  | .endInString => "EOF while parsing a string"
  | .endInValue => "EOF while parsing a value"
  | .noColon => "expected `:`"
  | .noListComma => "expected `,` or `]`"
  | .noObjectComma => "expected `,` or `\x7d`"
  | .noWord => "expected ident"
  | .noValue => "expected value"
  | .badEscape => "invalid escape"
  | .badNumber => "invalid number"
  | .hugeNumber => "number out of range"
  | .controlCharacter => "control character (\\u0000-\\u001F) found while parsing a string"
  | .noKey => "key must be a string"
  | .loneSurrogate => "lone leading surrogate in hex escape"
  | .halfPair => "unexpected end of hex escape"
  | .trailingComma => "trailing comma"
  | .trailing => "trailing characters"
  | .tooDeep => "recursion limit exceeded"
  | .mismatch m => m.message

/-- A cause at a place in a text. -/
structure Fault where
  /-- What is wrong. -/
  cause : Fault.Cause
  /-- The line, from one. -/
  line : Nat
  /-- The bytes of the line up to the place. -/
  column : Nat

/-- The wording of a fault. -/
def Fault.message (f : Fault) : String :=
  s!"{f.cause.message} at line {f.line} column {f.column}"

namespace Cursor

/-- The start of a text. -/
def ofText (s : String) : Cursor := ⟨s.toList, 1, 0⟩

/-- Whether the character is white space between the parts of a text. -/
def isSpace (c : Char) : Bool := c == ' ' || c == '\n' || c == '\t' || c == '\r'

/-- The cursor behind its next character. -/
def advance (c : Cursor) : Cursor :=
  match c.rest with
  | [] => c
  | '\n' :: rest => ⟨rest, c.line + 1, 0⟩
  | ch :: rest => ⟨rest, c.line, c.column + ch.utf8Size⟩

/-- The next character. -/
def peek (c : Cursor) : Option Char := c.rest.head?

/-- The cursor at the next character that is not white space. -/
def skipSpace : Cursor → Cursor
  | ⟨[], line, column⟩ => ⟨[], line, column⟩
  | ⟨ch :: rest, line, column⟩ =>
      if ch = '\n' then skipSpace ⟨rest, line + 1, 0⟩
      else if isSpace ch then skipSpace ⟨rest, line, column + 1⟩
      else ⟨ch :: rest, line, column⟩
termination_by c => c.rest.length

/-- The place behind so many more bytes of the text, which may lie inside a character. -/
def placeAfter : Nat → Cursor → Nat × Nat
  | 0, c => (c.line, c.column)
  | n + 1, c =>
      match c.rest with
      | [] => (c.line, c.column)
      | '\n' :: rest => placeAfter n ⟨rest, c.line + 1, 0⟩
      | ch :: rest =>
          if n + 1 < ch.utf8Size then (c.line, c.column + (n + 1))
          else placeAfter (n + 1 - ch.utf8Size) ⟨rest, c.line, c.column + ch.utf8Size⟩
termination_by n => n
decreasing_by
  · omega
  · have h := ch.utf8Size_pos
    omega

/-- A cause at the cursor. -/
def fault (c : Cursor) (cause : Fault.Cause) : Fault := ⟨cause, c.line, c.column⟩

/-- A cause behind so many bytes ahead of the cursor. -/
def faultAfter (c : Cursor) (bytes : Nat) (cause : Fault.Cause) : Fault :=
  let place := c.placeAfter bytes
  ⟨cause, place.1, place.2⟩

/-- A cause at the byte ahead of the cursor. -/
def faultAhead (c : Cursor) (cause : Fault.Cause) : Fault := c.faultAfter 1 cause

end Cursor

end TestBench.Json
