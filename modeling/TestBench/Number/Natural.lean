/-!
# Natural numbers written by people

A natural number in an argument or in quotes: an optional plus sign and at least one ASCII digit.
Leading zeros are allowed, and the value stays below a bound.
-/

set_option autoImplicit false

namespace TestBench.Number

/-- The value of a list of ASCII digits, continuing from `acc`. -/
def digitsValue? (acc : Nat) : List Char → Option Nat
  | [] => some acc
  | c :: cs => if c.isDigit then digitsValue? (acc * 10 + (c.toNat - '0'.toNat)) cs else none

/-- The digits behind an optional plus sign. -/
def unsigned : List Char → List Char
  | '+' :: rest => rest
  | s => s

/-- The natural number that a text stands for, if it is one and below the bound. -/
def naturalBelow? (bound : Nat) (s : List Char) : Option (Fin bound) :=
  match unsigned s with
  | [] => none
  | digits => (digitsValue? 0 digits).bind fun n => if h : n < bound then some ⟨n, h⟩ else none

end TestBench.Number
