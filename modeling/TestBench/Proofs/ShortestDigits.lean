import Mathlib.Algebra.Group.Nat.Defs
import TestBench.Number.Decimal

/-!
# The shortest digits of a double read back

A double is written with the fewest digits that read back to it. That they do is checked where they
are found, except for the full decimal expansion that stands behind the search: it is exact, so it
reads back because a double is the nearest one to its own value (`Double.nearestUnits_units`), and
its first digit lies within the range that reading does not cut off. Together every double but zero
reads back from its shortest digits (`Double.toDouble?_shortest`).

Reading depends on the value of a decimal only: zeros at the end of its digits do not matter if the
exponent makes up for them (`Decimal.toDouble?_mul_pow`).
-/

set_option autoImplicit false

namespace TestBench.Number

variable {den c n k : Nat} {x : Double} {d : Decimal}

/-! ## Rounding -/

/-- Only the ratio counts in rounding. -/
theorem roundHalfEven_mul_right (num den : Nat) (hc : 0 < c) :
    roundHalfEven (num * c) (den * c) = roundHalfEven num den := by
  have hless : 2 * (num % den * c) < den * c ↔ 2 * (num % den) < den := by
    rw [← Nat.mul_assoc]
    exact Nat.mul_lt_mul_right hc
  have heven : 2 * (num % den * c) = den * c ↔ 2 * (num % den) = den := by
    rw [← Nat.mul_assoc]
    exact Nat.mul_left_inj (Nat.ne_of_gt hc)
  simp only [roundHalfEven, Nat.mul_div_mul_right _ _ hc, Nat.mul_mod_mul_right, hless, heven]

/-- A natural number is not rounded. -/
theorem roundHalfEven_mul_self (n : Nat) (hden : 0 < den) : roundHalfEven (n * den) den = n := by
  have hless : 2 * 0 < den := hden
  simp only [roundHalfEven, Nat.mul_div_cancel n hden, Nat.mul_mod_left, hless, true_or, if_true]

namespace Double

theorem nearestUnits_mul_right (negative : Bool) (num den : Nat) (hc : 0 < c) :
    nearestUnits negative (num * c) (den * c) = nearestUnits negative num den := by
  simp only [nearestUnits, Nat.mul_div_mul_right _ _ hc, Nat.mul_right_comm den c,
    roundHalfEven_mul_right _ _ hc]

theorem nearest_mul_right (negative : Bool) (num den : Nat) (hc : 0 < c) :
    nearest negative (num * c) (den * c) = nearest negative num den := by
  rw [nearest, Nat.mul_right_comm, nearestUnits_mul_right _ _ _ hc, nearest]

/-- The scale is found in the magnitude. -/
theorem log2_units (x : Double) : x.units.log2 + 1 - 53 = x.scale := by
  rcases x.least_scale with hzero | hfull
  · have hunits : x.units = x.significand := by
      rw [units, hzero]
      exact Nat.mul_one _
    rw [hzero, hunits]
    by_cases hsig : x.significand = 0
    · rw [hsig]
      rfl
    · have hlog := (Nat.log2_lt hsig).2 x.significand_lt
      omega
  · have hpow : 0 < 2 ^ x.scale := Nat.pow_pos (by decide)
    have hlower : 2 ^ (52 + x.scale) ≤ x.units := by
      rw [Nat.pow_add]
      exact Nat.mul_le_mul_right _ hfull
    have hupper : x.units < 2 ^ (52 + x.scale + 1) := by
      have hexp : 52 + x.scale + 1 = 53 + x.scale := by omega
      rw [hexp, Nat.pow_add]
      exact Nat.mul_lt_mul_of_pos_right x.significand_lt hpow
    have hne : x.units ≠ 0 := Nat.ne_of_gt (Nat.lt_of_lt_of_le (Nat.pow_pos (by decide)) hlower)
    rw [(Nat.log2_eq_iff hne).2 ⟨hlower, hupper⟩]
    omega

/-- **A double is the nearest one to its own value.** -/
theorem nearestUnits_units (x : Double) (hc : 0 < c) :
    nearestUnits x.negative (x.units * c) c = some x := by
  have hpow : 0 < c * Nat.pow 2 x.scale := Nat.mul_pos hc (Nat.pow_pos (by decide))
  have hexact : x.units * c = x.significand * (c * Nat.pow 2 x.scale) := by
    rw [units, Nat.mul_assoc, Nat.mul_comm c]
  have hsig : x.significand ≠ Nat.pow 2 53 := Nat.ne_of_lt x.significand_lt
  rw [nearestUnits, Nat.mul_div_cancel _ hc, log2_units, hexact, roundHalfEven_mul_self _ hpow]
  simp only [if_neg hsig]
  rw [ofParts?, dif_pos ⟨x.significand_lt, x.scale_le, x.least_scale⟩]

end Double

/-! ## Decimals of one value -/

theorem digitCount_le_iff (hk : 0 < k) : digitCount n ≤ k ↔ n < 10 ^ k :=
  Nat.length_toDigits_le_iff (by decide) hk

/-- A zero at the end is one more digit. -/
theorem digitCount_mul_pow (hn : 0 < n) (k : Nat) : digitCount (n * 10 ^ k) = digitCount n + k := by
  induction k with
  | zero => rw [Nat.pow_zero, Nat.mul_one, Nat.add_zero]
  | succ k ih =>
      have hpos : 0 < n * 10 ^ k := Nat.mul_pos hn (Nat.pow_pos (by decide))
      rw [Nat.pow_succ, ← Nat.mul_assoc, digitCount, Nat.toDigits_of_base_le (by decide) (by omega),
        Nat.mul_div_cancel _ (by decide), List.length_append, List.length_singleton]
      exact congrArg (· + 1) ih

namespace Decimal

theorem toDouble?_of_pos (negative : Bool) (e : Int) (hn : 0 < n) :
    toDouble? negative ⟨n, e⟩ =
      if 400 < (digitCount n : Int) + e then none
      else if (digitCount n : Int) + e < -400 then some (Double.zero negative)
      else if 0 ≤ e then Double.nearest negative (n * 10 ^ e.toNat) 1
      else Double.nearest negative n (10 ^ (-e).toNat) := by
  rw [toDouble?, if_neg (Nat.ne_of_gt hn)]
  rfl

/-- **Zeros at the end do not matter** to what is read, if the exponent makes up for them. -/
theorem toDouble?_mul_pow (negative : Bool) (n k : Nat) (e : Int) :
    toDouble? negative ⟨n * 10 ^ k, e⟩ = toDouble? negative ⟨n, e + k⟩ := by
  rcases Nat.eq_zero_or_pos n with rfl | hn
  · rw [Nat.zero_mul]
    rfl
  · have hpos : 0 < n * 10 ^ k := Nat.mul_pos hn (Nat.pow_pos (by decide))
    have hten (m : Nat) : 0 < 10 ^ m := Nat.pow_pos (by decide)
    have hpoint : ((digitCount n + k : Nat) : Int) + e = (digitCount n : Int) + (e + k) := by omega
    rw [toDouble?_of_pos negative e hpos, toDouble?_of_pos negative (e + k) hn,
      digitCount_mul_pow hn, hpoint]
    congr 2
    by_cases he : 0 ≤ e
    · have hexp : (e + k).toNat = k + e.toNat := by omega
      rw [if_pos he, if_pos (by omega), hexp, Nat.pow_add, Nat.mul_assoc]
    · rw [if_neg he]
      by_cases hek : 0 ≤ e + k
      · have hexp : k = (e + k).toNat + (-e).toNat := by omega
        have hnum : n * 10 ^ k = n * 10 ^ (e + k).toNat * 10 ^ (-e).toNat := by
          rw [Nat.mul_assoc, ← Nat.pow_add, ← hexp]
        have hscale := Double.nearest_mul_right negative (n * 10 ^ (e + k).toNat) 1 (hten (-e).toNat)
        rw [Nat.one_mul] at hscale
        rw [if_pos hek, hnum, hscale]
      · have hexp : (-e).toNat = (-(e + k)).toNat + k := by omega
        rw [if_neg hek, hexp, Nat.pow_add, Double.nearest_mul_right _ _ _ (hten k)]

end Decimal

/-! ## The shortest digits -/

namespace Double

theorem toDouble?_of_readsBack (h : x.readsBack d = true) : d.toDouble? x.negative = some x := by
  rwa [readsBack, beq_iff_eq] at h

theorem units_pos (hx : x.isZero = false) : 0 < x.units := by
  rw [isZero, beq_eq_false_iff_ne] at hx
  exact Nat.mul_pos (Nat.pos_of_ne_zero hx) (Nat.pow_pos (by decide))

theorem units_lt (x : Double) : x.units < 2 ^ 53 * 2 ^ 2045 := by
  have hscale (m : Nat) (hm : x.scale ≤ m) : x.units < 2 ^ 53 * 2 ^ m := by
    calc x.units < 2 ^ 53 * 2 ^ x.scale :=
          Nat.mul_lt_mul_of_pos_right x.significand_lt (Nat.pow_pos (by decide))
      _ ≤ 2 ^ 53 * 2 ^ m := Nat.mul_le_mul_left _ (Nat.pow_le_pow_right (by decide) hm)
  exact hscale 2045 x.scale_le

/-- The full expansion has its first digit within the range of doubles. -/
theorem digitCount_expansion (hx : x.isZero = false) :
    674 ≤ digitCount (x.units * Nat.pow 5 unitShift) ∧
      digitCount (x.units * Nat.pow 5 unitShift) ≤ 1474 := by
  have hlow : 10 ^ 673 ≤ Nat.pow 5 unitShift := by decide +kernel
  have hhigh : 2 ^ 53 * 2 ^ 2045 * Nat.pow 5 unitShift ≤ 10 ^ 1474 := by decide +kernel
  have hunits := x.units_lt
  -- the powers are too great to be looked into
  generalize Nat.pow 5 unitShift = five at hlow hhigh ⊢
  have hpositive (k : Nat) (h : 10 ^ k ≤ five) : 0 < five :=
    Nat.lt_of_lt_of_le (Nat.pow_pos (by decide)) h
  have hpos : 0 < five := hpositive 673 hlow
  constructor
  · apply Nat.le_of_not_lt
    intro hless
    have hfew : digitCount (x.units * five) ≤ 673 := by omega
    rw [digitCount_le_iff (by decide)] at hfew
    have hone := Nat.mul_le_mul_right five (units_pos hx)
    rw [Nat.one_mul] at hone
    exact Nat.not_lt.2 (Nat.le_trans hlow hone) hfew
  · rw [digitCount_le_iff (by decide)]
    exact Nat.lt_of_lt_of_le (Nat.mul_lt_mul_of_pos_right hunits hpos) hhigh

/-- **The full expansion reads back.** -/
theorem toDouble?_expansion (hx : x.isZero = false) :
    x.expansion.toDouble? x.negative = some x := by
  have hexact (shift : Nat) : nearestUnits x.negative (x.units * Nat.pow 5 shift * Nat.pow 2 shift)
      (10 ^ shift) = some x := by
    have hten : Nat.pow 5 shift * Nat.pow 2 shift = 10 ^ shift := (Nat.mul_pow 5 2 shift).symm
    rw [Nat.mul_assoc, hten]
    exact nearestUnits_units x (Nat.pow_pos (by decide))
  obtain ⟨hlow, hhigh⟩ := digitCount_expansion hx
  have hvalue : unitShift = 1074 := rfl
  rw [expansion]
  have hpos (shift : Nat) : 0 < x.units * Nat.pow 5 shift :=
    Nat.mul_pos (units_pos hx) (Nat.pow_pos (by decide))
  have hexp : (-(-(unitShift : Int))).toNat = unitShift := by omega
  rw [Decimal.toDouble?_of_pos x.negative _ (hpos unitShift), if_neg (by omega), if_neg (by omega),
    if_neg (by omega), hexp, nearest]
  delta unitsPerOne
  exact hexact unitShift

theorem toDouble?_onGrid? {e : Int} (h : x.onGrid? e = some d) : d.toDouble? x.negative = some x := by
  apply toDouble?_of_readsBack
  rw [onGrid?] at h
  split at h
  · next hboth =>
      rw [Bool.and_eq_true] at hboth
      cases h
      -- what is rounded is one of the two neighbours
      rw [roundHalfEven]
      split
      · exact hboth.1
      · exact hboth.2
  · split at h
    · next hlow =>
        cases h
        exact hlow
    · split at h
      · next hhigh =>
          cases h
          exact hhigh
      · cases h

/-- **The shortest digits read back**, wherever the search for them ends. -/
theorem toDouble?_shortest (hx : x.isZero = false) : x.shortest.toDouble? x.negative = some x := by
  rw [shortest]
  cases hfound : (List.range 17).findSome? fun n : Nat => x.onGrid? (x.pointPlace - (n + 1 : Nat)) with
  | none => exact toDouble?_expansion hx
  | some d =>
      obtain ⟨n, -, hgrid⟩ := List.exists_of_findSome?_eq_some hfound
      exact toDouble?_onGrid? hgrid

end Double

end TestBench.Number
