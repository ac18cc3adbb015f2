import TestBench.Text.Range
import TestBench.Text.Unprintable
import TestBench.Text.Extender

/-!
# Quoted texts

A message quotes a text between double quotation marks so that a reader sees exactly which characters
it holds. The marks and the backslash are escaped, tab, line feed, carriage return and the null
character have short forms, and a character that is unprintable, or that would attach itself to the
mark before it, is written by its number in braces.
-/

set_option autoImplicit false

namespace TestBench.Text

/-- The hexadecimal digits of a number, in lower case. -/
def hexDigits (n : Nat) : List Char := Nat.toDigits 16 n

/-- Whether a character may stand for itself in a quoted text. -/
def isPlain (c : Char) : Bool :=
  if c.toNat < 0x80 then decide (0x20 ≤ c.toNat) && decide (c.toNat < 0x7F)
  else !within extenderRanges c && !within unprintableRanges c

/-- The quoted form of one character. -/
def quoteChar (c : Char) : List Char :=
  match c with
  | '"' => ['\\', '"']
  | '\\' => ['\\', '\\']
  | '\t' => ['\\', 't']
  | '\n' => ['\\', 'n']
  | '\r' => ['\\', 'r']
  | '\x00' => ['\\', '0']
  | c => if isPlain c then [c] else ['\\', 'u', '\x7b'] ++ hexDigits c.toNat ++ ['\x7d']

/-- The text between quotation marks, with its special characters escaped. -/
def quoted (s : String) : String :=
  String.ofList (['"'] ++ s.toList.flatMap quoteChar ++ ['"'])

end TestBench.Text
