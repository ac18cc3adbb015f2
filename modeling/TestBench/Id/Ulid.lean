/-!
# ULIDs

A ULID is a number of 128 bits, written as 26 digits of base 32. The digits are `0` to `9` and the
capital letters without `I`, `L`, `O` and `U`; in reading, small letters count as their capitals. The
26 digits have room for 130 bits, and what they hold above 128 bits is dropped, so the first digit
counts modulo 8.
-/

set_option autoImplicit false

namespace TestBench

/-- A 128-bit identifier. -/
abbrev Ulid := BitVec 128

namespace Ulid

/-- The digits of base 32, in ascending order of value and of code point. -/
def alphabet : List Char := "0123456789ABCDEFGHJKMNPQRSTVWXYZ".toList

/-- The number of digits of an identifier. -/
def width : Nat := 26

/-- The digit of a value below 32. -/
def digit (v : Nat) : Char := alphabet.getD v '0'

/-- The value of a digit, in either case of letters. -/
def digitValue? (c : Char) : Option Nat := alphabet.idxOf? c.toUpper

/-- The last digits of a number, so many of them, the most significant first. -/
def digits : Nat → Nat → List Char
  | 0, _ => []
  | n + 1, v => digits n (v / 32) ++ [digit (v % 32)]

/-- The text of an identifier. -/
def text (u : Ulid) : String := String.ofList (digits width u.toNat)

/-- Why a text is no identifier. -/
inductive Fault where
  /-- The text does not have 26 bytes. -/
  | length
  /-- A character is no digit. -/
  | character
deriving DecidableEq, Repr

/-- The wording of a fault. -/
def Fault.message : Fault → String
  | .length => "invalid length"
  | .character => "invalid character"

/-- The number that a list of digits stands for, continuing from `acc`. -/
def valueFrom? (acc : Nat) : List Char → Option Nat
  | [] => some acc
  | c :: cs => (digitValue? c).bind fun d => valueFrom? (acc * 32 + d) cs

/-- The identifier of a text. -/
def ofText (s : String) : Except Fault Ulid :=
  if s.utf8ByteSize = width then
    match valueFrom? 0 s.toList with
    | some v => .ok (BitVec.ofNat 128 v)
    | none => .error .character
  else .error .length

end Ulid

end TestBench
