import TestBench.Json.Basic
import TestBench.Yaml.Fault

/-!
# What scalars stand for

A plain scalar may stand for the absent value, a truth value or a number; every other scalar is a
text. Integers are written in base ten without leading zeros, or in base sixteen, eight or two behind
`0x`, `0o` or `0b`. An integer that fits the 64 bits of the data format is taken as it is, one that
only fits 128 bits is a fault, and a longer one in base ten is read as a floating point number. The
infinities and what is not a number are absent values, and a number beyond every double is a text.
-/

set_option autoImplicit false

namespace TestBench.Yaml.Scalar

/-- Whether the text stands for the absent value. -/
def isNull (text : String) : Bool :=
  text == "null" || text == "Null" || text == "NULL" || text == "~"

/-- The truth value that the text stands for. -/
def bool? (text : String) : Option Bool :=
  if text = "true" ∨ text = "True" ∨ text = "TRUE" then some true
  else if text = "false" ∨ text = "False" ∨ text = "FALSE" then some false
  else none

/-! ## Integers -/

/-- The value of a digit, in either case of letters. -/
def digit? (base : Nat) (c : Char) : Option Nat := (hexValue? c).filter fun d => decide (d < base)

/-- The value of some digits, of which there is at least one. -/
def digits? (base : Nat) : List Char → Option Nat
  | [] => none
  | cs => cs.foldlM (fun n c => (digit? base c).map fun d => n * base + d) 0

/-- Whether the text has a sign. -/
def isSigned : List Char → Bool
  | '-' :: _ => true
  | '+' :: _ => true
  | _ => false

/-- Whether digits start with a zero that does not count. -/
def hasLeadingZero (text : List Char) : Bool :=
  match if isSigned text then text.drop 1 else text with
  | '0' :: d :: rest => (d :: rest).all Char.isDigit
  | _ => false

/-- The natural number that a text without a sign stands for. -/
def natural? : List Char → Option Nat
  | '0' :: 'x' :: cs => digits? 16 cs
  | '0' :: 'o' :: cs => digits? 8 cs
  | '0' :: 'b' :: cs => digits? 2 cs
  | cs => if hasLeadingZero cs then none else digits? 10 cs

/-- The integer that a text stands for. -/
def integer? : List Char → Option Int
  | '-' :: cs => (natural? cs).map fun n => -(n : Int)
  | '+' :: cs => (natural? cs).map fun n => (n : Int)
  | cs => (natural? cs).map fun n => (n : Int)

/-- Whether the integer fits the signed or unsigned numbers of so many bits. -/
def fits (bits : Nat) (i : Int) : Bool :=
  decide (-(Nat.pow 2 (bits - 1) : Int) ≤ i) && decide (i < (Nat.pow 2 bits : Int))

/-- The integer that a text stands for, if it has no more than 128 bits. -/
def boundedInteger? (text : String) : Option Int := (integer? text.toList).filter (fits 128)

/-! ## Floating point numbers -/

/-- The infinities and what is not a number. -/
def isSpecial (text : String) : Bool :=
  [".inf", ".Inf", ".INF", "+.inf", "+.Inf", "+.INF", "-.inf", "-.Inf", "-.INF",
    ".nan", ".NaN", ".NAN"].contains text

/-- The exponent of a number: nothing, or the letter, an optional sign and at least one digit. -/
def exponent? : List Char → Option Int
  | [] => some 0
  | e :: cs =>
      if e = 'e' ∨ e = 'E' then
        match cs with
        | '-' :: cs => (digits? 10 cs).map fun n => -(n : Int)
        | '+' :: cs => (digits? 10 cs).map fun n => (n : Int)
        | cs => (digits? 10 cs).map fun n => (n : Int)
      else none

/-- The decimal that a text without a sign stands for: digits with a point somewhere or nowhere, and
an exponent. -/
def decimal? (text : List Char) : Option Number.Decimal :=
  let whole := text.takeWhile Char.isDigit
  let rest := text.dropWhile Char.isDigit
  let (fraction, rest) := match rest with
    | '.' :: cs => (cs.takeWhile Char.isDigit, cs.dropWhile Char.isDigit)
    | cs => ([], cs)
  match digits? 10 (whole ++ fraction), exponent? rest with
  | some n, some e => some ⟨n, e - fraction.length⟩
  | _, _ => none

/-- The number that a text stands for, if it is one and within the range of doubles. -/
def double? : List Char → Option Number.Double
  | '-' :: cs => (decimal? cs).bind (Number.Decimal.toDouble? true)
  | '+' :: cs => (decimal? cs).bind (Number.Decimal.toDouble? false)
  | cs => (decimal? cs).bind (Number.Decimal.toDouble? false)

/-- The value of a floating point number; the special numbers are absent values. -/
def float? (text : String) : Option Json :=
  if isSpecial text then some .null else (double? text.toList).map .float

/-! ## Values -/

/-- The value of an integer. -/
def intValue (i : Int) : Except Fault Json :=
  if fits 64 i then .ok (.int i) else .error .hugeInteger

/-- The value of a plain scalar. -/
def plain (text : String) : Except Fault Json :=
  if text.isEmpty || isNull text then .ok .null
  else
    match bool? text, boundedInteger? text with
    | some b, _ => .ok (.bool b)
    | none, some i => intValue i
    | none, none =>
        if hasLeadingZero text.toList then .ok (.string text)
        else .ok ((float? text).getD (.string text))

/-- A type that a tag forces on a scalar. -/
inductive Forced where
  /-- Truth values. -/
  | bool
  /-- Integers. -/
  | int
  /-- Floating point numbers. -/
  | float
  /-- The absent value. -/
  | null
deriving DecidableEq, Repr

/-- The value of a scalar whose type is forced. -/
def forced (text : String) : Forced → Except Fault Json
  | .bool =>
      match bool? text with
      | some b => .ok (.bool b)
      | none => .error (.wrongType "a boolean")
  | .int =>
      match boundedInteger? text with
      | some i => intValue i
      | none => .error (.wrongType "an integer")
  | .float =>
      match float? text with
      | some v => .ok v
      | none => .error (.wrongType "a float")
  | .null => if isNull text then .ok .null else .error (.wrongType "null")

end TestBench.Yaml.Scalar
