import TestBench.Number.Decimal

/-!
# Significand and power of ten

The quick way from a decimal numeral to a double: the significand is rounded to a double by itself,
and that is multiplied or divided by the rounded power of ten. Two roundings take the place of one,
so the result may be a neighbour of the nearest double; numbers in exchanged texts are read this way.
-/

set_option autoImplicit false

namespace TestBench.Number

/-- The greatest power of ten that is a double. -/
def greatestPower : Nat := 308

/-- The double nearest to a power of ten, for exponents up to `greatestPower`. -/
def powerOfTen? (e : Nat) : Option Double := Double.nearest false (Nat.pow 10 e) 1

/-- The magnitude times a power of ten. A power too great is divided off in steps of
`10 ^ greatestPower`; `steps` bounds their number, and after that many only zero is left. -/
def scaleBy? : Nat → Double → Int → Option Double
  | 0, _, _ => some (Double.zero false)
  | steps + 1, x, e =>
      if e.natAbs ≤ greatestPower then
        (powerOfTen? e.natAbs).bind fun p => if 0 ≤ e then x.mul? p else x.div? p
      else if x.isZero then some x
      else if 0 ≤ e then none
      else
        (powerOfTen? greatestPower).bind fun p =>
          (x.div? p).bind fun y => scaleBy? steps y (e + greatestPower)

/-- The double made of a significand and a power of ten, or `none` if its magnitude is beyond every
double. A significand of 64 bits is zero after three divisions by `10 ^ greatestPower`. -/
def scaled? (negative : Bool) (significand : Nat) (exponent : Int) : Option Double :=
  (Double.nearest false significand 1).bind fun x =>
    (scaleBy? 4 x exponent).map fun y => if negative then y.neg else y

end TestBench.Number
