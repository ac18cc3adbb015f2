import TestBench.Json.Cursor
import TestBench.Number.Scaled

/-!
# Numbers, strings and words in a text

The parts of a text that are not nested. Each `scan` starts behind the character that announced the
part and ends behind its last character. A number whose digits fit 64 bits, without fraction and
exponent, is an integer; every other number is a double. A string is decoded, and its escapes for
surrogates must come in pairs.
-/

set_option autoImplicit false

namespace TestBench.Json

/-- A step through a text: a result and the cursor behind it, or the first fault. -/
abbrev Scan (α : Type) := Cursor → Except Fault (α × Cursor)

namespace Scan

/-! ## Words -/

/-- The rest of a word. A character that differs is taken before it is refused. -/
def word : List Char → Scan Unit
  | [], c => .ok ((), c)
  | w :: ws, c =>
      match c.peek with
      | none => .error (c.fault .endInValue)
      | some ch => if ch = w then word ws c.advance else .error (c.faultAhead .noWord)

/-! ## Numbers -/

/-- The greatest number of 64 bits. -/
def greatestWord : Nat := 18446744073709551615

/-- The greatest exponent that is kept exactly. -/
def greatestExponent : Nat := 2147483647

/-- The value of a decimal digit. -/
def digit? (c : Char) : Option Nat :=
  if c.isDigit then some (c.toNat - '0'.toNat) else none

/-- The decimal digit ahead. -/
def digitAhead? (c : Cursor) : Option Nat := c.peek.bind digit?

/-- The cursor behind the decimal digits ahead. -/
def skipDigits : Cursor → Cursor
  | ⟨ch :: rest, line, column⟩ =>
      if ch.isDigit then skipDigits ⟨rest, line, column + 1⟩ else ⟨ch :: rest, line, column⟩
  | ⟨[], line, column⟩ => ⟨[], line, column⟩
termination_by c => c.rest.length

/-- The decimal digits ahead, entered into a number while it stays within a limit: the number, how
many digits were entered, whether a further digit would have passed the limit, and the cursor. -/
def digitsWithin (limit : Nat) (acc count : Nat) : Cursor → Nat × Nat × Bool × Cursor
  | ⟨ch :: rest, line, column⟩ =>
      match digit? ch with
      | some d =>
          if limit < acc * 10 + d then (acc, count, true, ⟨ch :: rest, line, column⟩)
          else digitsWithin limit (acc * 10 + d) (count + 1) ⟨rest, line, column + 1⟩
      | none => (acc, count, false, ⟨ch :: rest, line, column⟩)
  | ⟨[], line, column⟩ => (acc, count, false, ⟨[], line, column⟩)
termination_by c => c.rest.length

/-- The double made of a significand and an exponent. -/
def ofParts (negative : Bool) (significand : Nat) (exponent : Int) : Scan Json := fun c =>
  match Number.scaled? negative significand exponent with
  | some x => .ok (.float x, c)
  | none => .error (c.fault .hugeNumber)

/-- Whether a character announces an exponent. -/
def isExponentMark (ch : Char) : Bool := ch == 'e' || ch == 'E'

/-- The cursor behind the sign ahead, if there is one, and whether it is negative. -/
def exponentSign (c : Cursor) : Bool × Cursor :=
  match c.peek with
  | some '+' => (false, c.advance)
  | some '-' => (true, c.advance)
  | _ => (false, c)

/-- An exponent, behind its mark. An exponent that is too long to keep makes a number other than zero
too great, or else zero. -/
def exponent (negative : Bool) (significand : Nat) (start : Int) : Scan Json := fun c =>
  let (down, c) := exponentSign c
  match c.peek with
  | none => .error (c.fault .endInValue)
  | some ch =>
      match digit? ch with
      | none => .error (c.faultAhead .badNumber)
      | some d =>
          let (e, _, tooLong, c) := digitsWithin greatestExponent d 0 c.advance
          if tooLong then
            if significand ≠ 0 && !down then .error (c.advance.fault .hugeNumber)
            else .ok (.float (Number.Double.zero negative), skipDigits c)
          else ofParts negative significand (if down then start - e else start + e) c

/-- What follows the digits of a number: an exponent, or nothing. -/
def afterDigits (negative : Bool) (significand : Nat) (start : Int) : Scan Json := fun c =>
  match c.peek with
  | some ch =>
      if isExponentMark ch then exponent negative significand start c.advance
      else ofParts negative significand start c
  | none => ofParts negative significand start c

/-- A fraction, behind its point. Digits that no longer fit the significand are passed over. -/
def fraction (negative : Bool) (significand : Nat) (start : Int) : Scan Json := fun c =>
  let (value, count, tooLong, c) := digitsWithin greatestWord significand 0 c
  if tooLong then afterDigits negative value (start - count) (skipDigits c)
  else if count = 0 then
    match c.peek with
    | some _ => .error (c.faultAhead .badNumber)
    | none => .error (c.fault .endInValue)
  else afterDigits negative value (start - count) c

/-- A number whose digits before the point do not fit the significand: the digits that are left over
count as a power of ten. -/
def longNumber (negative : Bool) (significand : Nat) : Scan Json := fun c =>
  let behind := skipDigits c
  let start : Int := behind.column - c.column
  match behind.peek with
  | some '.' => fraction negative significand start behind.advance
  | _ => afterDigits negative significand start behind

/-- An integer without fraction and exponent, as far as it is one: a negative number must reach down
to `-2 ^ 63` at most and must not be zero. -/
def wholeNumber (negative : Bool) (significand : Nat) : Scan Json := fun c =>
  if negative then
    if 0 < significand ∧ significand ≤ 9223372036854775808 then .ok (.int (-(significand : Int)), c)
    else ofParts true significand 0 c
  else .ok (.int significand, c)

/-- What follows the whole part of a number. -/
def afterWhole (negative : Bool) (significand : Nat) : Scan Json := fun c =>
  match c.peek with
  | some '.' => fraction negative significand 0 c.advance
  | some ch =>
      if isExponentMark ch then exponent negative significand 0 c.advance
      else wholeNumber negative significand c
  | none => wholeNumber negative significand c

/-- A number, at its first digit. -/
def number (negative : Bool) : Scan Json := fun c =>
  match c.peek with
  | none => .error (c.fault .endInValue)
  | some ch =>
      match digit? ch with
      | none => .error (c.faultAhead .badNumber)
      | some 0 =>
          if (digitAhead? c.advance).isSome then .error (c.advance.faultAhead .badNumber)
          else afterWhole negative 0 c.advance
      | some d =>
          let (value, _, tooLong, c) := digitsWithin greatestWord d 0 c.advance
          if tooLong then longNumber negative value c else afterWhole negative value c

/-! ## Strings -/

/-- The value of a hexadecimal digit, in either case of letters. -/
def hexValue? (c : Char) : Option Nat :=
  if c.isDigit then some (c.toNat - '0'.toNat)
  else if 'a' ≤ c ∧ c ≤ 'f' then some (c.toNat - 'a'.toNat + 10)
  else if 'A' ≤ c ∧ c ≤ 'F' then some (c.toNat - 'A'.toNat + 10)
  else none

/-- The number of bytes ahead, as far as up to a limit. -/
def bytesAhead : Nat → List Char → Nat
  | 0, _ => 0
  | _, [] => 0
  | n + 1, ch :: rest => ch.utf8Size + bytesAhead n rest

/-- Four hexadecimal digits. Four bytes are taken before they are judged. -/
def fourDigits : Scan Nat := fun c =>
  if bytesAhead 4 c.rest < 4 then .error (c.faultAfter (bytesAhead 4 c.rest) .endInString)
  else
    match c.rest with
    | a :: b :: d :: e :: rest =>
        match hexValue? a, hexValue? b, hexValue? d, hexValue? e with
        | some a, some b, some d, some e =>
            .ok (((a * 16 + b) * 16 + d) * 16 + e, ⟨rest, c.line, c.column + 4⟩)
        | _, _, _, _ => .error (c.faultAfter 4 .badEscape)
    | _ => .error (c.faultAfter 4 .badEscape)

/-- The character that must come next in a surrogate pair. -/
def pairMark (ch : Char) : Scan Unit := fun c =>
  match c.peek with
  | none => .error (c.fault .endInString)
  | some d => if d = ch then .ok ((), c.advance) else .error (c.faultAhead .halfPair)

/-- The character of a numeric escape, behind its letter. -/
def unicodeEscape : Scan Char := fun c => do
  let (n, c) ← fourDigits c
  if 0xDC00 ≤ n ∧ n ≤ 0xDFFF then .error (c.fault .loneSurrogate)
  else if n < 0xD800 ∨ 0xDBFF < n then .ok (Char.ofNat n, c)
  else
    let (_, c) ← pairMark '\\' c
    let (_, c) ← pairMark 'u' c
    let (m, c) ← fourDigits c
    if m < 0xDC00 ∨ 0xDFFF < m then .error (c.fault .loneSurrogate)
    else .ok (Char.ofNat ((n - 0xD800) * 0x400 + (m - 0xDC00) + 0x10000), c)

/-- The character of an escape by a letter. -/
def letterEscape? : Char → Option Char
  | '"' => some '"'
  | '\\' => some '\\'
  | '/' => some '/'
  | 'b' => some '\x08'
  | 'f' => some '\x0c'
  | 'n' => some '\n'
  | 'r' => some '\r'
  | 't' => some '\t'
  | _ => none

/-- The character of an escape, behind the backslash. -/
def escape : Scan Char := fun c =>
  match c.peek with
  | none => .error (c.fault .endInString)
  | some 'u' => unicodeEscape c.advance
  | some ch =>
      match letterEscape? ch with
      | some d => .ok (d, c.advance)
      | none => .error (c.faultAhead .badEscape)

/-- Passes over an escape: its form is checked, the character it stands for is not. -/
def passEscape : Scan Unit := fun c =>
  match c.peek with
  | none => .error (c.fault .endInString)
  | some 'u' => do
      let (_, c) ← fourDigits c.advance
      .ok ((), c)
  | some ch =>
      if (letterEscape? ch).isSome then .ok ((), c.advance) else .error (c.faultAhead .badEscape)

/-- The characters of a string up to its closing mark, with those read so far in reverse. Each round
takes at least one character of the text, so as many rounds as characters are enough. -/
def stringRounds : Nat → List Char → Scan String
  | 0, _, c => .error (c.fault .endInString)
  | rounds + 1, read, c =>
      match c.peek with
      | none => .error (c.fault .endInString)
      | some '"' => .ok (String.ofList read.reverse, c.advance)
      | some '\\' => do
          let (ch, c) ← escape c.advance
          stringRounds rounds (ch :: read) c
      | some ch =>
          if ch.toNat < 0x20 then .error (c.faultAhead .controlCharacter)
          else stringRounds rounds (ch :: read) c.advance

/-- A string, behind its opening mark. -/
def string : Scan String := fun c => stringRounds (c.rest.length + 1) [] c

/-- Passes over the characters of a string up to its closing mark. -/
def passStringRounds : Nat → Scan Unit
  | 0, c => .error (c.fault .endInString)
  | rounds + 1, c =>
      match c.peek with
      | none => .error (c.fault .endInString)
      | some '"' => .ok ((), c.advance)
      | some '\\' => do
          let (_, c) ← passEscape c.advance
          passStringRounds rounds c
      | some ch =>
          if ch.toNat < 0x20 then .error (c.fault .controlCharacter)
          else passStringRounds rounds c.advance

/-- Passes over a string, behind its opening mark. -/
def passString : Scan Unit := fun c => passStringRounds (c.rest.length + 1) c

end Scan

end TestBench.Json
