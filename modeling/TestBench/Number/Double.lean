/-!
# Finite binary floating point numbers

`Double` is a finite number of the 64-bit binary format: a sign and a magnitude
`significand · 2 ^ scale` counted in units of the least positive number, `2 ^ -1074`. Each magnitude
has one representation, because a significand below `2 ^ 52` is allowed at scale `0` only; so two
doubles are equal exactly when their fields are, and zero has its two signs.

Every operation here is exact arithmetic on naturals followed by one rounding to nearest, ties to
even (`Double.nearest`). A quotient beyond the greatest double has no result.
-/

set_option autoImplicit false

namespace TestBench.Number

/-- The quotient rounded to the nearest natural, a half to the even neighbour. -/
def roundHalfEven (num den : Nat) : Nat :=
  let q := num / den
  let r := num % den
  if 2 * r < den ∨ (2 * r = den ∧ q % 2 = 0) then q else q + 1

/-- The binary exponent of the unit in which magnitudes are counted, negated. -/
def unitShift : Nat := 1074

/-- The number of units in the number one. -/
def unitsPerOne : Nat := Nat.pow 2 unitShift

/-- A finite 64-bit binary floating point number. -/
structure Double where
  /-- Whether the sign is negative. -/
  negative : Bool
  /-- The leading digits of the magnitude. -/
  significand : Nat
  /-- The power of two by which they are multiplied, in units of the least positive number. -/
  scale : Nat
  /-- The significand has 53 binary digits. -/
  significand_lt : significand < Nat.pow 2 53
  /-- The magnitude is below `2 ^ 1024`. -/
  scale_le : scale ≤ 2045
  /-- The representation is the one with the least scale. -/
  least_scale : scale = 0 ∨ Nat.pow 2 52 ≤ significand
deriving DecidableEq

namespace Double

/-- The magnitude in units of the least positive number. -/
def units (x : Double) : Nat := x.significand * Nat.pow 2 x.scale

/-- The number with the given parts, if they are a representation. -/
def ofParts? (negative : Bool) (significand scale : Nat) : Option Double :=
  if h : significand < Nat.pow 2 53 ∧ scale ≤ 2045 ∧ (scale = 0 ∨ Nat.pow 2 52 ≤ significand) then
    some ⟨negative, significand, scale, h.1, h.2.1, h.2.2⟩
  else none

/-- Zero, with either sign. -/
def zero (negative : Bool) : Double where
  negative := negative
  significand := 0
  scale := 0
  significand_lt := by decide
  scale_le := by decide
  least_scale := .inl rfl

instance : Inhabited Double := ⟨zero false⟩

/-- Whether the number is zero, of either sign. -/
def isZero (x : Double) : Bool := x.significand == 0

/-- Numerical equality: the two zeros are equal, and otherwise equal numbers are identical. -/
def same (x y : Double) : Bool := x == y || (x.isZero && y.isZero)

/-- **Numerical equality is identity up to the sign of zero.** -/
theorem same_eq_true_iff {x y : Double} :
    x.same y = true ↔ x = y ∨ (x.isZero = true ∧ y.isZero = true) := by
  simp [same]

/-- The number nearest to `num / den` units, ties to even, or `none` beyond the greatest double.
The scale is the least at which the quotient has 53 binary digits; a quotient that rounds up to
`2 ^ 53` moves to the next scale. -/
def nearestUnits (negative : Bool) (num den : Nat) : Option Double :=
  let scale := (num / den).log2 + 1 - 53
  let significand := roundHalfEven num (den * Nat.pow 2 scale)
  if significand = Nat.pow 2 53 then ofParts? negative (Nat.pow 2 52) (scale + 1)
  else ofParts? negative significand scale

/-- The number nearest to `num / den`, ties to even, or `none` beyond the greatest double. -/
def nearest (negative : Bool) (num den : Nat) : Option Double :=
  nearestUnits negative (num * unitsPerOne) den

/-- The product, rounded to nearest. -/
def mul? (x y : Double) : Option Double :=
  nearestUnits (x.negative != y.negative) (x.units * y.units) unitsPerOne

/-- The quotient by a number other than zero, rounded to nearest. -/
def div? (x y : Double) : Option Double :=
  nearestUnits (x.negative != y.negative) (x.units * unitsPerOne) y.units

/-- The same magnitude with the other sign. -/
def neg (x : Double) : Double := { x with negative := !x.negative }

/-- Whether the number is an integer. -/
def isIntegral (x : Double) : Bool := x.units % unitsPerOne == 0

/-- Whether the number is less than an integer. -/
def ltInt (x : Double) (n : Int) : Bool :=
  decide ((if x.negative then -(x.units : Int) else x.units) < n * unitsPerOne)

/-- Whether the number is greater than an integer. -/
def gtInt (x : Double) (n : Int) : Bool :=
  decide (n * unitsPerOne < (if x.negative then -(x.units : Int) else x.units))

end Double

end TestBench.Number
