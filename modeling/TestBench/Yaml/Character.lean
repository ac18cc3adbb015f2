/-!
# Characters of the playbook notation

Playbooks are written in an indented notation of block and flow collections. This module classifies
its characters and keeps the place in a text: what is left of it, and the line, column and index of
the next character. Columns count characters, since indentation is counted in them.

A line break is a carriage return, a line feed, the two together, or one of three further characters.
Inside a scalar the first forms, and the next-line character, all stand for a line feed.
-/

set_option autoImplicit false

namespace TestBench.Yaml

/-- The next-line character. -/
def nextLine : Char := '\u0085'

/-- The mark that may stand at the start of a text or line. -/
def orderMark : Char := '\ufeff'

/-- Whether the character may occur in a text at all. -/
def isReadable (c : Char) : Bool :=
  c == '\t' || c == '\n' || c == '\r' || (' ' ≤ c && c ≤ '~') || c == nextLine ||
    (0xA0 ≤ c.toNat && c.toNat ≤ 0xFFFD) || decide (0x10000 ≤ c.toNat)

/-- Whether the character breaks a line. -/
def isBreak (c : Char) : Bool :=
  c == '\n' || c == '\r' || c == nextLine || c == '\u2028' || c == '\u2029'

/-- Whether the character is a space or tab. -/
def isGap (c : Char) : Bool := c == ' ' || c == '\t'

/-- Whether a character, or the end of the text, separates parts. -/
def isSeparator : Option Char → Bool
  | none => true
  | some c => isGap c || isBreak c

/-- Whether a character, or the end of the text, ends a line. -/
def endsLine : Option Char → Bool
  | none => true
  | some c => isBreak c

/-- Whether the character may occur in an anchor or in the handle of a tag. -/
def isWordChar (c : Char) : Bool := c.isAlphanum || c == '_' || c == '-'

/-- Whether the character may occur in a tag. -/
def isTagChar (c : Char) : Bool := isWordChar c || (";/?:@&=+$.%!~*'()".toList.contains c)

/-- Whether the character separates the items of a flow collection or encloses it. -/
def isFlowMark (c : Char) : Bool := c == ',' || c == '[' || c == ']' || c == '\x7b' || c == '\x7d'

/-- The value of a hexadecimal digit, in either case of letters. -/
def hexValue? (c : Char) : Option Nat :=
  if c.isDigit then some (c.toNat - '0'.toNat)
  else if 'a' ≤ c ∧ c ≤ 'f' then some (c.toNat - 'a'.toNat + 10)
  else if 'A' ≤ c ∧ c ≤ 'F' then some (c.toNat - 'A'.toNat + 10)
  else none

/-- A place in a text. -/
structure Place where
  /-- The characters ahead. -/
  rest : List Char
  /-- The number of characters behind. -/
  index : Nat
  /-- The number of lines behind. -/
  line : Nat
  /-- The number of characters of the line that lie behind. -/
  column : Nat

namespace Place

/-- The start of a text. -/
def start (text : List Char) : Place := ⟨text, 0, 0, 0⟩

/-- The character ahead. -/
def peek (p : Place) : Option Char := p.rest.head?

/-- The character so many places ahead. -/
def ahead (p : Place) (n : Nat) : Option Char := p.rest[n]?

/-- Whether the character ahead is the given one. -/
def sees (p : Place) (c : Char) : Bool := p.peek == some c

/-- The place behind so many characters of the line. -/
def skip (p : Place) (n : Nat) : Place := ⟨p.rest.drop n, p.index + n, p.line, p.column + n⟩

/-- The place behind the line break ahead, and what the break stands for in a scalar. -/
def breakLine (p : Place) : List Char × Place :=
  match p.rest with
  | '\r' :: '\n' :: rest => (['\n'], ⟨rest, p.index + 2, p.line + 1, 0⟩)
  | c :: rest =>
      if isBreak c then
        (if c == '\u2028' || c == '\u2029' then [c] else ['\n'],
          ⟨rest, p.index + 1, p.line + 1, 0⟩)
      else ([], p)
  | [] => ([], p)

/-- The characters ahead that belong to a class, and the place behind them. -/
def span (p : Place) (belongs : Char → Bool) : List Char × Place :=
  let taken := p.rest.takeWhile belongs
  (taken, p.skip taken.length)

/-- The place behind the spaces and tabs ahead. -/
def skipGaps (p : Place) : Place := (p.span isGap).2

/-- The place at the end of the line. -/
def skipToBreak (p : Place) : Place := (p.span fun c => !isBreak c).2

/-- The place behind the comment ahead, if there is one. -/
def skipComment (p : Place) : Place := if p.sees '#' then p.skipToBreak else p

/-- Whether a line starts here with three times the character and a separator. -/
def seesMarker (p : Place) (c : Char) : Bool :=
  p.column == 0 && p.ahead 0 == some c && p.ahead 1 == some c && p.ahead 2 == some c &&
    isSeparator (p.ahead 3)

/-- Whether a line starts here that separates documents. -/
def seesDocumentMarker (p : Place) : Bool := p.seesMarker '-' || p.seesMarker '.'

end Place

end TestBench.Yaml
