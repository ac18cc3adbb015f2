import Mathlib.Data.List.TakeWhile
import TestBench.Proofs.ShortestDigits

/-!
# The text of a double determines it

The text of a magnitude is read by a small reader of its own: digits with a point among them or not,
and an exponent behind or not (`Decimal.ofText`). `Double.LaidOut` has the forms in which digits are
laid out. In each of them the decimal that is read has the value of the digits
(`Decimal.toDouble?_ofText_layout`), so the double is read from its text
(`Double.toDouble?_magnitudeText`) and different doubles have different texts (`Double.text_inj`).
The two zeros are different doubles: their texts differ in the sign.

A text is made of digits, signs, the point and the mark of the exponent. It starts with a sign or a
digit, and it has a point or a mark, so it is no text of an integer.
-/

set_option autoImplicit false

namespace TestBench.Number

variable {x y : Double} {d : Decimal}

/-! ## Digits without their trailing zeros -/

namespace Decimal

/-- The decimal whose digits are written by the given characters, with the decimal point at a place
relative to the first of them. -/
def ofDigits (digits : List Char) (point : Int) : Decimal :=
  ⟨Nat.ofDigitChars 10 digits 0, point - digits.length⟩

/-- What is left of a list without the zeros at its end, and these. -/
theorem exists_eq_append_zeros (l : List Char) :
    ∃ k, l = (l.reverse.dropWhile (· == '0')).reverse ++ List.replicate k '0' := by
  refine ⟨(l.reverse.takeWhile (· == '0')).length, ?_⟩
  have hzeros : l.reverse.takeWhile (· == '0') =
      List.replicate (l.reverse.takeWhile (· == '0')).length '0' := by
    rw [List.eq_replicate_iff]
    refine ⟨rfl, fun c hc => ?_⟩
    simpa using List.mem_takeWhile_imp hc
  have hsplit := congrArg List.reverse (List.takeWhile_append_dropWhile (p := (· == '0')) (l := l.reverse))
  rw [List.reverse_append, List.reverse_reverse] at hsplit
  rw [← List.reverse_replicate, ← hzeros, hsplit]

/-- **The digits and the place of the point** are a decimal of the same value. -/
theorem toDouble?_digitsAndPoint (negative : Bool) (d : Decimal) :
    (ofDigits (Double.digitsAndPoint d).1 (Double.digitsAndPoint d).2).toDouble? negative =
      d.toDouble? negative := by
  obtain ⟨digits, e⟩ := d
  obtain ⟨k, hk⟩ := exists_eq_append_zeros (Nat.toDigits 10 digits)
  have hvalue : Nat.ofDigitChars 10 (Nat.toDigits 10 digits) 0 = digits :=
    Nat.ofDigitChars_ten_toDigits
  have hlength := congrArg List.length hk
  simp only [ofDigits, Double.digitsAndPoint]
  generalize ((Nat.toDigits 10 digits).reverse.dropWhile (· == '0')).reverse = kept at hk hlength ⊢
  rw [List.length_append, List.length_replicate] at hlength
  rw [hk, Nat.ofDigitChars_append, Nat.ofDigitChars_replicate_zero, Nat.mul_comm] at hvalue
  have hpoint : ((Nat.toDigits 10 digits).length : Int) + e - kept.length = e + k := by omega
  rw [hpoint, ← toDouble?_mul_pow, hvalue]

end Decimal

/-! ## The forms of a layout -/

namespace Double

variable {digits : List Char} {point : Int}

/-- The forms in which digits are laid out around a point. -/
inductive LaidOut (digits : List Char) (point : Int) : List Char → Prop where
  /-- The point falls behind the digits: zeros up to it and one more are written. -/
  | behind (k : Nat) (h : point = digits.length + k) :
      LaidOut digits point (digits ++ List.replicate k '0' ++ ['.', '0'])
  /-- The point falls among the digits. -/
  | among (k : Nat) (hpos : 0 < k) (hk : k ≤ digits.length) (h : point = k) :
      LaidOut digits point (digits.take k ++ '.' :: digits.drop k)
  /-- The point falls before the digits: a zero before it and some behind it are written. -/
  | before (k : Nat) (h : point = -k) :
      LaidOut digits point ('0' :: '.' :: (List.replicate k '0' ++ digits))
  /-- One digit is written with an exponent. -/
  | single (d : Char) (h : digits = [d]) : LaidOut digits point (d :: 'e' :: exponentText (point - 1))
  /-- Several digits are written with a point behind the first one and an exponent. -/
  | several (d : Char) (ds : List Char) (h : digits = d :: ds) :
      LaidOut digits point ([d] ++ '.' :: ds ++ 'e' :: exponentText (point - 1))

/-- **Digits are laid out in one of the forms.** -/
theorem laidOut_layout (hne : digits ≠ []) (point : Int) :
    LaidOut digits point (layout digits point) := by
  unfold layout
  split
  · exact .behind _ (by omega)
  · split
    · rw [List.append_assoc, List.singleton_append]
      exact .among _ (by omega) (by omega) (by omega)
    · split
      · exact .before _ (by omega)
      · cases digits with
        | nil => exact absurd rfl hne
        | cons d ds =>
            cases ds with
            | nil => exact .single d rfl
            | cons d' ds =>
                have hform : LaidOut (d :: d' :: ds) point _ := .several d (d' :: ds) rfl
                simpa only [List.append_assoc, List.cons_append, List.nil_append] using hform

end Double

/-! ## Texts as decimals -/

namespace Decimal

/-- The number that an exponent with its sign stands for. -/
def exponentOfText : List Char → Int
  | '+' :: digits => Nat.ofDigitChars 10 digits 0
  | '-' :: digits => -(Nat.ofDigitChars 10 digits 0 : Int)
  | _ => 0

/-- The decimal of digits with a point among them or not, and an exponent. -/
def ofMantissa (mantissa : List Char) (e : Int) : Decimal :=
  let whole := mantissa.takeWhile (· != '.')
  let fraction := (mantissa.dropWhile (· != '.')).drop 1
  ⟨Nat.ofDigitChars 10 (whole ++ fraction) 0, e - fraction.length⟩

/-- The decimal that a text without sign writes. -/
def ofText (text : List Char) : Decimal :=
  ofMantissa (text.takeWhile (· != 'e')) (exponentOfText ((text.dropWhile (· != 'e')).drop 1))

section Reading

variable {mantissa whole fraction rest digits : List Char} {mark : Char}

/-- A scan for a mark stops at the first one. -/
theorem takeWhile_ne_mark (h : ∀ c ∈ whole, (c != mark) = true) (rest : List Char) :
    (whole ++ mark :: rest).takeWhile (· != mark) = whole := by
  rw [List.takeWhile_append_of_pos h, List.takeWhile_cons_of_neg (by simp), List.append_nil]

theorem dropWhile_ne_mark (h : ∀ c ∈ whole, (c != mark) = true) (rest : List Char) :
    (whole ++ mark :: rest).dropWhile (· != mark) = mark :: rest := by
  rw [List.dropWhile_append_of_pos h, List.dropWhile_cons_of_neg (by simp)]

theorem ofMantissa_point (hwhole : ∀ c ∈ whole, (c != '.') = true) (fraction : List Char) (e : Int) :
    ofMantissa (whole ++ '.' :: fraction) e =
      ⟨Nat.ofDigitChars 10 (whole ++ fraction) 0, e - fraction.length⟩ := by
  rw [ofMantissa, takeWhile_ne_mark hwhole, dropWhile_ne_mark hwhole, List.drop_one, List.tail_cons]

theorem ofMantissa_whole (hwhole : ∀ c ∈ whole, (c != '.') = true) (e : Int) :
    ofMantissa whole e = ⟨Nat.ofDigitChars 10 whole 0, e⟩ := by
  rw [ofMantissa, List.takeWhile_eq_self_iff.2 hwhole, List.dropWhile_eq_nil_iff.2 hwhole]
  simp

theorem ofText_mantissa (hmantissa : ∀ c ∈ mantissa, (c != 'e') = true) :
    ofText mantissa = ofMantissa mantissa 0 := by
  rw [ofText, List.takeWhile_eq_self_iff.2 hmantissa, List.dropWhile_eq_nil_iff.2 hmantissa]
  rfl

theorem ofText_exponent (hmantissa : ∀ c ∈ mantissa, (c != 'e') = true) (rest : List Char) :
    ofText (mantissa ++ 'e' :: rest) = ofMantissa mantissa (exponentOfText rest) := by
  rw [ofText, takeWhile_ne_mark hmantissa, dropWhile_ne_mark hmantissa, List.drop_one,
    List.tail_cons]

theorem exponentOfText_exponentText (e : Int) : exponentOfText (Double.exponentText e) = e := by
  rw [Double.exponentText]
  split
  · rw [exponentOfText, Nat.ofDigitChars_ten_toDigits]
    omega
  · rw [exponentOfText, Nat.ofDigitChars_ten_toDigits]
    omega

/-- Neither the point nor the mark of the exponent is a digit. -/
theorem ne_of_isDigit {c d : Char} (hc : c.isDigit = true) (hd : d.isDigit = false) :
    (c != d) = true := by
  rw [bne_iff_ne]
  rintro rfl
  exact Bool.false_ne_true (hd.symm.trans hc)

theorem forall_ne_of_isDigit {l : List Char} {d : Char} (hl : ∀ c ∈ l, c.isDigit = true)
    (hd : d.isDigit = false) : ∀ c ∈ l, (c != d) = true :=
  fun c hc => ne_of_isDigit (hl c hc) hd

theorem forall_isDigit_zeros (k : Nat) : ∀ c ∈ List.replicate k '0', c.isDigit = true := by
  intro c hc
  rw [List.eq_of_mem_replicate hc]
  rfl

/-- No mark of an exponent stands in digits with a point among them. -/
theorem forall_ne_mark (hwhole : ∀ c ∈ whole, c.isDigit = true)
    (hfraction : ∀ c ∈ fraction, c.isDigit = true) :
    ∀ c ∈ whole ++ '.' :: fraction, (c != 'e') = true := by
  intro c hc
  rcases List.mem_append.1 hc with hc | hc
  · exact ne_of_isDigit (hwhole c hc) rfl
  · rcases List.mem_cons.1 hc with rfl | hc
    · rfl
    · exact ne_of_isDigit (hfraction c hc) rfl

/-- Digits with a point among them. -/
theorem ofText_point (hwhole : ∀ c ∈ whole, c.isDigit = true)
    (hfraction : ∀ c ∈ fraction, c.isDigit = true) :
    ofText (whole ++ '.' :: fraction) =
      ⟨Nat.ofDigitChars 10 (whole ++ fraction) 0, -(fraction.length : Int)⟩ := by
  rw [ofText_mantissa (forall_ne_mark hwhole hfraction),
    ofMantissa_point (forall_ne_of_isDigit hwhole rfl), Int.zero_sub]

/-- Digits with a point among them and an exponent behind. -/
theorem ofText_point_exponent (hwhole : ∀ c ∈ whole, c.isDigit = true)
    (hfraction : ∀ c ∈ fraction, c.isDigit = true) (e : Int) :
    ofText (whole ++ '.' :: fraction ++ 'e' :: Double.exponentText e) =
      ⟨Nat.ofDigitChars 10 (whole ++ fraction) 0, e - fraction.length⟩ := by
  rw [ofText_exponent (forall_ne_mark hwhole hfraction),
    ofMantissa_point (forall_ne_of_isDigit hwhole rfl), exponentOfText_exponentText]

/-- Digits without a point, and an exponent behind. -/
theorem ofText_whole_exponent (hwhole : ∀ c ∈ whole, c.isDigit = true) (e : Int) :
    ofText (whole ++ 'e' :: Double.exponentText e) = ⟨Nat.ofDigitChars 10 whole 0, e⟩ := by
  rw [ofText_exponent (forall_ne_of_isDigit hwhole rfl),
    ofMantissa_whole (forall_ne_of_isDigit hwhole rfl), exponentOfText_exponentText]

/-! ### The decimal of each form -/

/-- The point falls behind the digits: zeros up to the point and one more are written. -/
theorem toDouble?_ofText_whole (negative : Bool) (hdigits : ∀ c ∈ digits, c.isDigit = true) (k : Nat) :
    (ofText (digits ++ List.replicate k '0' ++ ['.', '0'])).toDouble? negative =
      toDouble? negative ⟨Nat.ofDigitChars 10 digits 0, k⟩ := by
  have hwhole : ∀ c ∈ digits ++ List.replicate k '0', c.isDigit = true := by
    intro c hc
    rcases List.mem_append.1 hc with hc | hc
    · exact hdigits c hc
    · exact forall_isDigit_zeros k c hc
  have hvalue : Nat.ofDigitChars 10 (digits ++ List.replicate k '0' ++ ['0']) 0 =
      Nat.ofDigitChars 10 digits 0 * 10 ^ (k + 1) := by
    rw [List.append_assoc, Nat.ofDigitChars_append, ← List.replicate_succ',
      Nat.ofDigitChars_replicate_zero, Nat.mul_comm]
  have hexp : -((['0'] : List Char).length : Int) + (k + 1 : Nat) = k := by
    rw [List.length_singleton]
    omega
  have hzero : ∀ c ∈ ['0'], c.isDigit = true := forall_isDigit_zeros 1
  -- the exponent makes up for the zeros
  rw [ofText_point hwhole hzero, hvalue, toDouble?_mul_pow, hexp]

/-- The point falls among the digits. -/
theorem ofText_among (hdigits : ∀ c ∈ digits, c.isDigit = true) {k : Nat} (hk : k ≤ digits.length) :
    ofText (digits.take k ++ '.' :: digits.drop k) =
      ⟨Nat.ofDigitChars 10 digits 0, (k : Int) - digits.length⟩ := by
  have hwhole : ∀ c ∈ digits.take k, c.isDigit = true :=
    fun c hc => hdigits c (List.mem_of_mem_take hc)
  have hfraction : ∀ c ∈ digits.drop k, c.isDigit = true :=
    fun c hc => hdigits c (List.mem_of_mem_drop hc)
  have hexp : -((digits.drop k).length : Int) = k - digits.length := by
    rw [List.length_drop]
    omega
  rw [ofText_point hwhole hfraction, List.take_append_drop, hexp]

/-- The point falls before the digits: a zero before it and some behind it are written. -/
theorem ofText_before (hdigits : ∀ c ∈ digits, c.isDigit = true) (k : Nat) :
    ofText ('0' :: '.' :: (List.replicate k '0' ++ digits)) =
      ⟨Nat.ofDigitChars 10 digits 0, -(k : Int) - digits.length⟩ := by
  have hfraction : ∀ c ∈ List.replicate k '0' ++ digits, c.isDigit = true := by
    intro c hc
    rcases List.mem_append.1 hc with hc | hc
    · exact forall_isDigit_zeros k c hc
    · exact hdigits c hc
  have hvalue : Nat.ofDigitChars 10 (['0'] ++ (List.replicate k '0' ++ digits)) 0 =
      Nat.ofDigitChars 10 digits 0 := by
    rw [← List.append_assoc, Nat.ofDigitChars_append, ← List.replicate_one,
      List.replicate_append_replicate, Nat.ofDigitChars_replicate_zero, Nat.mul_zero]
  have hexp : -((List.replicate k '0' ++ digits).length : Int) = -(k : Int) - digits.length := by
    rw [List.length_append, List.length_replicate]
    omega
  have htext := ofText_point (forall_isDigit_zeros 1) hfraction
  rw [List.replicate_one, hvalue, hexp] at htext
  exact htext

/-- **Whatever its form, a layout writes the decimal of its digits.** -/
theorem toDouble?_ofText_layout (negative : Bool) (hne : digits ≠ [])
    (hdigits : ∀ c ∈ digits, c.isDigit = true) (point : Int) :
    (ofText (Double.layout digits point)).toDouble? negative =
      (ofDigits digits point).toDouble? negative := by
  have hform := Double.laidOut_layout hne point
  generalize Double.layout digits point = text at hform
  cases hform with
  | behind k hpoint =>
      have hexp : point - digits.length = k := by omega
      rw [toDouble?_ofText_whole negative hdigits, ofDigits, hexp]
  | among k _ hk hpoint => rw [ofText_among hdigits hk, ofDigits, hpoint]
  | before k hpoint => rw [ofText_before hdigits, ofDigits, hpoint]
  | single d hd =>
      subst hd
      exact congrArg (toDouble? negative) (ofText_whole_exponent hdigits (point - 1))
  | several d ds hd =>
      subst hd
      obtain ⟨hfirst, hrest⟩ := List.forall_mem_cons.1 hdigits
      have hexp : point - 1 - (ds.length : Int) = point - (d :: ds).length := by
        rw [List.length_cons]
        omega
      have htext := ofText_point_exponent (List.forall_mem_singleton.2 hfirst) hrest (point - 1)
      rw [hexp] at htext
      exact congrArg (toDouble? negative) htext

end Reading

end Decimal

/-! ## Characters of numbers -/

/-- The characters that texts of numbers are made of. -/
def isNumeral (c : Char) : Bool := c.isDigit || c == '-' || c == '+' || c == '.' || c == 'e'

theorem isNumeral_of_isDigit {c : Char} (h : c.isDigit = true) : isNumeral c = true := by
  simp only [isNumeral, h, Bool.true_or]

theorem isNumeral_of_mem_toDigits (n : Nat) : ∀ c ∈ Nat.toDigits 10 n, isNumeral c = true :=
  fun _ hc => isNumeral_of_isDigit (Nat.isDigit_of_mem_toDigits (by decide) (by decide) hc)

/-- The sign of a number, which is written when it is negative. -/
def signText (negative : Bool) : List Char := if negative then ['-'] else []

theorem eq_of_mem_signText {negative : Bool} {c : Char} (hc : c ∈ signText negative) : c = '-' := by
  cases negative with
  | true => exact List.mem_singleton.1 hc
  | false => cases hc

theorem isNumeral_of_mem_signText (negative : Bool) : ∀ c ∈ signText negative, isNumeral c = true := by
  intro c hc
  rw [eq_of_mem_signText hc]
  rfl

/-- A text that starts with a digit. -/
def StartsWithDigit (text : List Char) : Prop := ∃ c rest, text = c :: rest ∧ c.isDigit = true

section Signs

variable {s t : List Char}

theorem signText_append_eq_cons (negative : Bool) (hs : StartsWithDigit s) :
    ∃ c rest, signText negative ++ s = c :: rest ∧ (c = '-' ∨ c.isDigit = true) := by
  cases negative with
  | true => exact ⟨'-', s, rfl, .inl rfl⟩
  | false =>
      obtain ⟨c, rest, rfl, hc⟩ := hs
      exact ⟨c, rest, rfl, .inr hc⟩

/-- The sign and the digits behind it are told apart. -/
theorem signText_append_inj {a b : Bool} (hs : StartsWithDigit s) (ht : StartsWithDigit t)
    (h : signText a ++ s = signText b ++ t) : a = b ∧ s = t := by
  -- a sign is no digit
  have hsign {u v : List Char} (hv : StartsWithDigit v) : '-' :: u ≠ v := by
    obtain ⟨c, rest, rfl, hc⟩ := hv
    rintro heq
    obtain ⟨rfl, -⟩ := List.cons.inj heq
    cases hc
  cases a with
  | true =>
      cases b with
      | true => exact ⟨rfl, (List.cons.inj h).2⟩
      | false => exact absurd h (hsign ht)
  | false =>
      cases b with
      | true => exact absurd h.symm (hsign hs)
      | false => exact ⟨rfl, h⟩

end Signs

namespace Double

/-! ## Reading a text back -/

theorem isDigit_of_mem_digitsAndPoint (d : Decimal) : ∀ c ∈ (digitsAndPoint d).1, c.isDigit = true := by
  intro c hc
  rw [digitsAndPoint, List.mem_reverse] at hc
  have hmem := List.mem_reverse.1 ((List.dropWhile_sublist _).mem hc)
  exact Nat.isDigit_of_mem_toDigits (by decide) (by decide) hmem

theorem digitsAndPoint_ne_nil (hd : d.digits ≠ 0) : (digitsAndPoint d).1 ≠ [] := by
  intro hnil
  obtain ⟨k, hk⟩ := Decimal.exists_eq_append_zeros (Nat.toDigits 10 d.digits)
  have hkept : ((Nat.toDigits 10 d.digits).reverse.dropWhile (· == '0')).reverse = [] := hnil
  have hvalue : Nat.ofDigitChars 10 (Nat.toDigits 10 d.digits) 0 = d.digits :=
    Nat.ofDigitChars_ten_toDigits
  rw [hk, hkept, List.nil_append, Nat.ofDigitChars_replicate_zero, Nat.mul_zero] at hvalue
  exact hd hvalue.symm

theorem eq_zero_of_isZero (hx : x.isZero = true) : x = zero x.negative := by
  rw [isZero, beq_iff_eq] at hx
  have hscale : x.scale = 0 := by
    rcases x.least_scale with hzero | hfull
    · exact hzero
    · rw [hx] at hfull
      exact absurd hfull (by decide)
  obtain ⟨negative, significand, scale, _, _, _⟩ := x
  cases hx
  cases hscale
  rfl

/-- A double that is not zero has other digits than zero. -/
theorem digits_shortest_ne_zero (hx : x.isZero = false) : x.shortest.digits ≠ 0 := by
  intro hdigits
  have hread := toDouble?_shortest hx
  rw [Decimal.toDouble?, if_pos hdigits, Option.some.injEq] at hread
  rw [← hread] at hx
  cases hx

/-- **Every double is read from its text**, up to its sign. -/
theorem toDouble?_magnitudeText (x : Double) :
    (Decimal.ofText x.magnitudeText).toDouble? x.negative = some x := by
  rw [magnitudeText]
  cases hx : x.isZero with
  | true =>
      rw [if_pos rfl]
      exact congrArg some (eq_zero_of_isZero hx).symm
  | false =>
      rw [if_neg Bool.false_ne_true]
      calc (Decimal.ofText (layout (digitsAndPoint x.shortest).1
              (digitsAndPoint x.shortest).2)).toDouble? x.negative
          = (Decimal.ofDigits (digitsAndPoint x.shortest).1
              (digitsAndPoint x.shortest).2).toDouble? x.negative :=
            Decimal.toDouble?_ofText_layout _ (digitsAndPoint_ne_nil (digits_shortest_ne_zero hx))
              (isDigit_of_mem_digitsAndPoint _) _
        _ = x.shortest.toDouble? x.negative := Decimal.toDouble?_digitsAndPoint _ _
        _ = some x := toDouble?_shortest hx

/-! ## The forms of a text -/

/-- Every magnitude is written as some digits laid out around a point, also zero. -/
theorem laidOut_magnitudeText (x : Double) :
    ∃ digits point, digits ≠ [] ∧ (∀ c ∈ digits, c.isDigit = true) ∧
      LaidOut digits point x.magnitudeText := by
  rw [magnitudeText]
  cases hx : x.isZero with
  | true =>
      rw [if_pos rfl]
      exact ⟨['0'], 1, List.cons_ne_nil _ _, Decimal.forall_isDigit_zeros 1, .behind 0 rfl⟩
  | false =>
      have hne := digitsAndPoint_ne_nil (digits_shortest_ne_zero hx)
      rw [if_neg Bool.false_ne_true]
      exact ⟨_, _, hne, isDigit_of_mem_digitsAndPoint _, laidOut_layout hne _⟩

section Layout

variable {digits text : List Char} {point : Int}

/-- A layout starts with a digit. -/
theorem LaidOut.startsWithDigit (h : LaidOut digits point text) (hne : digits ≠ [])
    (hdigits : ∀ c ∈ digits, c.isDigit = true) : StartsWithDigit text := by
  cases digits with
  | nil => exact absurd rfl hne
  | cons d ds =>
      have hfirst : d.isDigit = true := hdigits d List.mem_cons_self
      cases h with
      | behind k _ => exact ⟨d, _, rfl, hfirst⟩
      | among k hpos _ _ =>
          obtain ⟨k, rfl⟩ := Nat.exists_eq_succ_of_ne_zero (Nat.ne_of_gt hpos)
          exact ⟨d, _, rfl, hfirst⟩
      | before k _ => exact ⟨'0', _, rfl, rfl⟩
      | single d' hd =>
          obtain ⟨rfl, -⟩ := List.cons.inj hd
          exact ⟨d, _, rfl, hfirst⟩
      | several d' ds' hd =>
          obtain ⟨rfl, -⟩ := List.cons.inj hd
          exact ⟨d, _, rfl, hfirst⟩

/-- A layout has a point or the mark of an exponent. -/
theorem LaidOut.point_or_mark_mem (h : LaidOut digits point text) : '.' ∈ text ∨ 'e' ∈ text := by
  cases h with
  | behind k _ => exact .inl (List.mem_append_right _ List.mem_cons_self)
  | among k _ _ _ => exact .inl (List.mem_append_right _ List.mem_cons_self)
  | before k _ => exact .inl (List.mem_cons_of_mem _ List.mem_cons_self)
  | single d _ => exact .inr (List.mem_cons_of_mem _ List.mem_cons_self)
  | several d ds _ => exact .inr (List.mem_append_right _ List.mem_cons_self)

theorem isNumeral_of_mem_exponentText (e : Int) : ∀ c ∈ exponentText e, isNumeral c = true := by
  have hdigits := isNumeral_of_mem_toDigits e.natAbs
  rw [exponentText]
  split
  · exact List.forall_mem_cons.2 ⟨rfl, hdigits⟩
  · exact List.forall_mem_cons.2 ⟨rfl, hdigits⟩

theorem LaidOut.isNumeral_of_mem (h : LaidOut digits point text)
    (hdigits : ∀ c ∈ digits, c.isDigit = true) : ∀ c ∈ text, isNumeral c = true := by
  have hall : ∀ c ∈ digits, isNumeral c = true := fun c hc => isNumeral_of_isDigit (hdigits c hc)
  have hzeros (k : Nat) : ∀ c ∈ List.replicate k '0', isNumeral c = true :=
    fun c hc => isNumeral_of_isDigit (Decimal.forall_isDigit_zeros k c hc)
  have hexponent : ∀ c ∈ 'e' :: exponentText (point - 1), isNumeral c = true :=
    List.forall_mem_cons.2 ⟨rfl, isNumeral_of_mem_exponentText _⟩
  cases h with
  | behind k _ =>
      have hpoint : ∀ c ∈ ['.', '0'], isNumeral c = true := List.all_eq_true.1 rfl
      exact List.forall_mem_append.2 ⟨List.forall_mem_append.2 ⟨hall, hzeros k⟩, hpoint⟩
  | among k _ _ _ =>
      refine List.forall_mem_append.2 ⟨?_, List.forall_mem_cons.2 ⟨rfl, ?_⟩⟩
      · exact fun c hc => hall c (List.mem_of_mem_take hc)
      · exact fun c hc => hall c (List.mem_of_mem_drop hc)
  | before k _ =>
      refine List.forall_mem_cons.2 ⟨rfl, List.forall_mem_cons.2 ⟨rfl, ?_⟩⟩
      exact List.forall_mem_append.2 ⟨hzeros k, hall⟩
  | single d hd =>
      subst hd
      exact List.forall_mem_cons.2 ⟨hall d List.mem_cons_self, hexponent⟩
  | several d ds hd =>
      subst hd
      obtain ⟨hfirst, hrest⟩ := List.forall_mem_cons.1 hall
      have hpoint : ∀ c ∈ '.' :: ds, isNumeral c = true := List.forall_mem_cons.2 ⟨rfl, hrest⟩
      exact List.forall_mem_append.2 ⟨List.forall_mem_cons.2 ⟨hfirst, hpoint⟩, hexponent⟩

end Layout

/-! ## Texts of doubles -/

theorem startsWithDigit_magnitudeText (x : Double) : StartsWithDigit x.magnitudeText := by
  obtain ⟨digits, point, hne, hdigits, hform⟩ := laidOut_magnitudeText x
  exact hform.startsWithDigit hne hdigits

theorem text_eq (x : Double) : x.text = signText x.negative ++ x.magnitudeText := rfl

/-- A text is that of no integer. -/
theorem point_or_mark_mem_text (x : Double) : '.' ∈ x.text ∨ 'e' ∈ x.text := by
  obtain ⟨digits, point, -, -, hform⟩ := laidOut_magnitudeText x
  rw [text_eq]
  apply hform.point_or_mark_mem.imp
  · exact List.mem_append_right _
  · exact List.mem_append_right _

theorem isNumeral_of_mem_text (x : Double) : ∀ c ∈ x.text, isNumeral c = true := by
  obtain ⟨digits, point, -, hdigits, hform⟩ := laidOut_magnitudeText x
  rw [text_eq]
  exact List.forall_mem_append.2 ⟨isNumeral_of_mem_signText _, hform.isNumeral_of_mem hdigits⟩

/-- **Different doubles have different texts**, the two zeros among them. -/
theorem text_inj (h : x.text = y.text) : x = y := by
  rw [text_eq, text_eq] at h
  obtain ⟨hsign, hmagnitude⟩ :=
    signText_append_inj (startsWithDigit_magnitudeText x) (startsWithDigit_magnitudeText y) h
  have hx := toDouble?_magnitudeText x
  rw [hmagnitude, hsign, toDouble?_magnitudeText y] at hx
  exact (Option.some.inj hx).symm

end Double

end TestBench.Number
