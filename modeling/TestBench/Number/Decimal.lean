import TestBench.Number.Double

/-!
# Decimal numerals

A `Decimal` is a natural times a power of ten. This module holds the two directions between decimals
and doubles, and the text of a double.

* Reading rounds the exact value to the nearest double (`Decimal.toDouble?`).
* Writing takes the fewest digits that read back to the same double (`Double.shortest`). For one,
  two, up to seventeen digits it tries the two neighbours of the value on that decimal grid, and the
  first grid with a neighbour that reads back wins; of two the nearer is taken, of two equally near
  the even one. The full decimal expansion stands behind the search, so there is always an answer.

`Double.text` then lays the digits out: positionally while the decimal point falls at most sixteen
places to the right of the first digit and at most five to its left, and otherwise with an exponent.
-/

set_option autoImplicit false

namespace TestBench.Number

/-- The number `digits · 10 ^ exponent`. -/
structure Decimal where
  /-- The digits, as a natural. -/
  digits : Nat
  /-- The power of ten. -/
  exponent : Int
deriving DecidableEq, Repr

/-- The number of decimal digits of a natural; zero has one. -/
def digitCount (n : Nat) : Nat := (Nat.toDigits 10 n).length

namespace Decimal

/-- The double nearest to the decimal, or `none` if its magnitude is beyond every double. A decimal
whose first digit lies far outside the range of doubles is decided without forming its power of
ten. -/
def toDouble? (negative : Bool) (d : Decimal) : Option Double :=
  if d.digits = 0 then some (Double.zero negative)
  else
    let point := (digitCount d.digits : Int) + d.exponent
    if 400 < point then none
    else if point < -400 then some (Double.zero negative)
    else if 0 ≤ d.exponent then
      Double.nearest negative (d.digits * Nat.pow 10 d.exponent.toNat) 1
    else
      Double.nearest negative d.digits (Nat.pow 10 (-d.exponent).toNat)

end Decimal

namespace Double

/-- Whether the decimal reads back to the magnitude of the number. -/
def readsBack (x : Double) (d : Decimal) : Bool :=
  d.toDouble? x.negative == some x

/-- The place of the decimal point relative to the first digit: the least `k` with the magnitude
below `10 ^ k`. The magnitude of every double but zero is at least `10 ^ -330`. -/
def pointPlace (x : Double) : Int :=
  (digitCount (x.units * Nat.pow 10 330 / unitsPerOne) : Int) - 330

/-- The magnitude over `10 ^ e`, as a fraction. -/
def overPower (x : Double) (e : Int) : Nat × Nat :=
  if 0 ≤ e then (x.units, unitsPerOne * Nat.pow 10 e.toNat)
  else (x.units * Nat.pow 10 (-e).toNat, unitsPerOne)

/-- A decimal on the grid `10 ^ e` that reads back, if one of the magnitude's two neighbours there
does: the nearer of two, and of two equally near the even one. -/
def onGrid? (x : Double) (e : Int) : Option Decimal :=
  let f := x.overPower e
  let low : Decimal := ⟨f.1 / f.2, e⟩
  let high : Decimal := ⟨f.1 / f.2 + 1, e⟩
  if x.readsBack low && x.readsBack high then some ⟨roundHalfEven f.1 f.2, e⟩
  else if x.readsBack low then some low
  else if x.readsBack high then some high
  else none

/-- The exact value as a decimal. -/
def expansion (x : Double) : Decimal := ⟨x.units * Nat.pow 5 unitShift, -(unitShift : Int)⟩

/-- The decimal with the fewest digits that reads back to the magnitude of the number. -/
def shortest (x : Double) : Decimal :=
  let k := x.pointPlace
  ((List.range 17).findSome? fun n : Nat => x.onGrid? (k - (n + 1 : Nat))).getD x.expansion

/-! ## Layout -/

/-- The digits without their trailing zeros, and the place of the decimal point relative to the first
digit. -/
def digitsAndPoint (d : Decimal) : List Char × Int :=
  let all := Nat.toDigits 10 d.digits
  let kept := (all.reverse.dropWhile (· == '0')).reverse
  (kept, (all.length : Int) + d.exponent)

/-- An exponent with its sign. -/
def exponentText (e : Int) : List Char :=
  if e < 0 then '-' :: Nat.toDigits 10 e.natAbs else '+' :: Nat.toDigits 10 e.natAbs

/-- Digits laid out around a decimal point at the given place. -/
def layout (digits : List Char) (point : Int) : List Char :=
  if (digits.length : Int) ≤ point ∧ point ≤ 16 then
    digits ++ List.replicate (point - digits.length).toNat '0' ++ ['.', '0']
  else if 0 < point ∧ point ≤ 16 then
    digits.take point.toNat ++ ['.'] ++ digits.drop point.toNat
  else if -5 < point ∧ point ≤ 0 then
    ['0', '.'] ++ List.replicate (-point).toNat '0' ++ digits
  else
    match digits with
    | [d] => [d, 'e'] ++ exponentText (point - 1)
    | d :: ds => [d, '.'] ++ ds ++ ['e'] ++ exponentText (point - 1)
    | [] => []

/-- The text of the magnitude. -/
def magnitudeText (x : Double) : List Char :=
  if x.isZero then ['0', '.', '0']
  else
    let p := digitsAndPoint x.shortest
    layout p.1 p.2

/-- The text of a number: the fewest digits that read back to it, always with a decimal point or an
exponent. -/
def text (x : Double) : List Char :=
  (if x.negative then ['-'] else []) ++ x.magnitudeText

end Double

end TestBench.Number
