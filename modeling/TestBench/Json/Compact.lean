import TestBench.Json.Basic

/-!
# The compact text of a value

Values are written without any white space, the fields of an object in the order of their keys. In a
string the quotation mark, the backslash and the control characters are escaped, five of the control
characters by a letter and the others by four hexadecimal digits; everything else stands for itself.

The text identifies requests that may share a construction slot, and it shows a value inside a
message.
-/

set_option autoImplicit false

namespace TestBench.Json

/-- The lower-case hexadecimal digit of a number below sixteen. -/
def hexDigit (n : Nat) : Char := Nat.digitChar (n % 16)

/-- The form of a character inside a string. -/
def escapeChar (c : Char) : List Char :=
  match c with
  | '"' => ['\\', '"']
  | '\\' => ['\\', '\\']
  | '\x08' => ['\\', 'b']
  | '\x0c' => ['\\', 'f']
  | '\n' => ['\\', 'n']
  | '\r' => ['\\', 'r']
  | '\t' => ['\\', 't']
  | c =>
      if c.toNat < 0x20 then ['\\', 'u', '0', '0', hexDigit (c.toNat / 16), hexDigit c.toNat]
      else [c]

/-- A string between quotation marks. -/
def stringText (s : String) : List Char :=
  ['"'] ++ s.toList.flatMap escapeChar ++ ['"']

/-- An integer in decimal digits. -/
def intText (i : Int) : List Char := (toString i).toList

mutual

/-- The characters of the compact text of a value. -/
def chars : Json → List Char
  | null => ['n', 'u', 'l', 'l']
  | bool true => ['t', 'r', 'u', 'e']
  | bool false => ['f', 'a', 'l', 's', 'e']
  | int i => intText i
  | float x => x.text
  | string s => stringText s
  | array [] => ['[', ']']
  | array (a :: as) => ['['] ++ chars a ++ charsList as ++ [']']
  | object [] => ['\x7b', '\x7d']
  | object ((k, a) :: as) =>
      ['\x7b'] ++ stringText k ++ [':'] ++ chars a ++ charsFields as ++ ['\x7d']

/-- The characters of further items, each after a comma. -/
def charsList : List Json → List Char
  | [] => []
  | a :: as => [','] ++ chars a ++ charsList as

/-- The characters of further fields, each after a comma. -/
def charsFields : List (String × Json) → List Char
  | [] => []
  | (k, a) :: as => [','] ++ stringText k ++ [':'] ++ chars a ++ charsFields as

end

/-- The compact text of a value. -/
def compact (j : Json) : String := String.ofList j.chars

end TestBench.Json
