import Mathlib.Data.List.Induction
import Mathlib.Data.String.Basic
import Mathlib.Tactic.Ring
import TestBench.Id.Ulid

/-!
# The digits of a ULID

The text of a ULID has 26 digits of base 32, two bits more than the number. Writing gives the digits of
a number and reading the number of some digits. `Ulid.valueFrom?_digits` and
`Ulid.digits_of_valueFrom?` say that these undo each other, up to the case of letters, as long as no
digit is lost. The only digit of which something can be lost is the first one, and by
`Ulid.text_ofNat_eq` what is left of it is its value modulo eight.

So a text is read just if it has 26 characters that are all digits (`Ulid.ofText_eq_ok_iff`), and
every ULID is read from its text (`Ulid.ofText_text`).
-/

set_option autoImplicit false

namespace TestBench

namespace Ulid

variable {c : Char} {cs ds : List Char} {acc n v w d : Nat} {s : String} {u : Ulid}

/-! ## Single digits -/

/-- Every value below 32 has its own digit. -/
theorem digitValue?_digit (h : v < 32) : digitValue? (digit v) = some v := by
  have hall : ∀ v : Fin 32, digitValue? (digit v.val) = some v.val := by decide
  exact hall ⟨v, h⟩

/-- Digits are written with capital letters. -/
theorem toUpper_digit (h : v < 32) : (digit v).toUpper = digit v := by
  have hall : ∀ v : Fin 32, (digit v.val).toUpper = digit v.val := by decide
  exact hall ⟨v, h⟩

theorem digit_inj (hv : v < 32) (hw : w < 32) : digit v = digit w ↔ v = w := by
  constructor
  · intro h
    have hvalue := digitValue?_digit hv
    rw [h, digitValue?_digit hw, Option.some.injEq] at hvalue
    exact hvalue.symm
  · rintro rfl
    rfl

/-- **A character has a value** if its capital is the digit of the value. -/
theorem digitValue?_eq_some_iff : digitValue? c = some v ↔ v < 32 ∧ c.toUpper = digit v := by
  constructor
  · intro h
    obtain ⟨hlt, hget, -⟩ := List.idxOf?_eq_some_iff.1 h
    refine ⟨hlt, ?_⟩
    rw [digit, List.getD_eq_getElem?_getD, List.getElem?_eq_getElem hlt, Option.getD_some, hget]
  · rintro ⟨hlt, hupper⟩
    have hvalue := digitValue?_digit hlt
    rw [digitValue?, toUpper_digit hlt] at hvalue
    rw [digitValue?, hupper, hvalue]

/-- A digit is a single byte. -/
theorem utf8Size_of_digitValue? (h : digitValue? c = some v) : c.utf8Size = 1 := by
  obtain ⟨hlt, hupper⟩ := digitValue?_eq_some_iff.1 h
  have hascii : ∀ v : Fin 32, (digit v.val).val ≤ 127 := by decide
  rw [Char.utf8Size_eq_one_iff]
  delta Char.toUpper at hupper
  split at hupper
  · next hlower => exact UInt32.le_trans hlower.2 (by decide)
  · rw [hupper]
    exact hascii ⟨v, hlt⟩

/-! ## Writing -/

@[simp] theorem length_digits (n v : Nat) : (digits n v).length = n := by
  induction n generalizing v with
  | zero => rfl
  | succ n ih => simp [digits, ih]

/-- **The first digit**, by itself. -/
theorem digits_succ_eq_cons (n v : Nat) :
    digits (n + 1) v = digit (v / 32 ^ n % 32) :: digits n v := by
  induction n generalizing v with
  | zero => simp [digits]
  | succ n ih =>
      have hshift : v / 32 / 32 ^ n = v / 32 ^ (n + 1) := by
        rw [Nat.div_div_eq_div_mul, pow_succ']
      rw [digits, ih, hshift, digits, List.cons_append]

/-- The last digits do not depend on what is before them. -/
theorem digits_mod (n v : Nat) : digits n (v % 32 ^ n) = digits n v := by
  induction n generalizing v with
  | zero => rfl
  | succ n ih =>
      have hrest : v % 32 ^ (n + 1) / 32 = v / 32 % 32 ^ n := by
        rw [pow_succ', Nat.mod_mul_right_div_self]
      have hlast : v % 32 ^ (n + 1) % 32 = v % 32 := by
        rw [pow_succ', Nat.mod_mul_right_mod]
      rw [digits, digits, hrest, hlast, ih]

/-! ## Reading -/

theorem valueFrom?_concat (acc : Nat) (cs : List Char) (c : Char) :
    valueFrom? acc (cs ++ [c]) =
      (valueFrom? acc cs).bind fun v => (digitValue? c).map fun d => v * 32 + d := by
  induction cs generalizing acc with
  | nil =>
      rw [List.nil_append, valueFrom?, valueFrom?, Option.bind_some]
      cases digitValue? c with
      | none => rfl
      | some d => rfl
  | cons b rest ih =>
      rw [List.cons_append, valueFrom?, valueFrom?]
      cases digitValue? b with
      | none => rfl
      | some d => exact ih _

theorem valueFrom?_concat_eq_some_iff :
    valueFrom? acc (cs ++ [c]) = some v ↔
      ∃ w d, valueFrom? acc cs = some w ∧ digitValue? c = some d ∧ v = w * 32 + d := by
  rw [valueFrom?_concat]
  simp only [Option.bind_eq_some_iff, Option.map_eq_some_iff]
  constructor
  · rintro ⟨w, hw, d, hd, rfl⟩
    exact ⟨w, d, hw, hd, rfl⟩
  · rintro ⟨w, d, hw, hd, rfl⟩
    exact ⟨w, hw, d, hd, rfl⟩

/-- **What is read from the digits of a number is the number**, if the digits have room for it. -/
theorem valueFrom?_digits (acc : Nat) (h : v < 32 ^ n) :
    valueFrom? acc (digits n v) = some (acc * 32 ^ n + v) := by
  induction n generalizing v with
  | zero =>
      obtain rfl : v = 0 := Nat.lt_one_iff.1 h
      rw [digits, valueFrom?, pow_zero, mul_one, Nat.add_zero]
  | succ n ih =>
      -- the last digit is read last, so the others are read from the same start
      have hfront : v / 32 < 32 ^ n := Nat.div_lt_of_lt_mul (pow_succ' 32 n ▸ h)
      have hlast : digitValue? (digit (v % 32)) = some (v % 32) :=
        digitValue?_digit (Nat.mod_lt v (by decide))
      rw [digits, valueFrom?_concat_eq_some_iff]
      refine ⟨_, _, ih hfront, hlast, ?_⟩
      rw [pow_succ, Nat.add_mul]
      have hsplit := Nat.div_add_mod' v 32
      rw [Nat.mul_assoc]
      omega

/-- **The digits of the number that is read are the capitals of the characters**, and what was read
before them stands in front. -/
theorem digits_of_valueFrom? (h : valueFrom? acc cs = some v) :
    v / 32 ^ cs.length = acc ∧ digits cs.length v = cs.map Char.toUpper := by
  induction cs using List.reverseRecOn generalizing v with
  | nil =>
      cases h
      exact ⟨Nat.div_one acc, rfl⟩
  | append_singleton cs c ih =>
      -- the last character is the digit that a division drops
      obtain ⟨w, d, hw, hd, rfl⟩ := valueFrom?_concat_eq_some_iff.1 h
      obtain ⟨hlt, hupper⟩ := digitValue?_eq_some_iff.1 hd
      obtain ⟨hacc, hdigits⟩ := ih hw
      have hdiv : (w * 32 + d) / 32 = w := by omega
      have hmod : (w * 32 + d) % 32 = d := by omega
      rw [List.length_append, List.length_singleton, digits, hdiv, hmod, hdigits, List.map_append]
      refine ⟨?_, ?_⟩
      · rw [pow_succ', ← Nat.div_div_eq_div_mul, hdiv, hacc]
      · rw [List.map_singleton, hupper]

/-- Only digits are read, and each of them is a single byte. -/
theorem utf8Size_of_mem (h : valueFrom? acc cs = some v) : ∀ c ∈ cs, c.utf8Size = 1 := by
  induction cs generalizing acc with
  | nil => exact fun _ hc => absurd hc List.not_mem_nil
  | cons b rest ih =>
      obtain ⟨d, hd, hrest⟩ := Option.bind_eq_some_iff.1 h
      exact List.forall_mem_cons.2 ⟨utf8Size_of_digitValue? hd, ih hrest⟩

/-- A text of single bytes has as many bytes as characters. -/
theorem utf8ByteSize_ofList_eq (h : ∀ c ∈ cs, c.utf8Size = 1) :
    (String.ofList cs).utf8ByteSize = cs.length := by
  rw [String.utf8ByteSize_ofList]
  induction cs with
  | nil => rfl
  | cons c rest ih =>
      obtain ⟨hc, hrest⟩ := List.forall_mem_cons.1 h
      rw [String.utf8Len_cons, hc, ih hrest, List.length_cons]

/-! ## Texts of identifiers -/

/-- **A text is read just if it has 26 characters that are digits**, as their number without the bits
for which there is no room. -/
theorem ofText_eq_ok_iff :
    ofText (String.ofList cs) = .ok u ↔
      cs.length = width ∧ ∃ v, valueFrom? 0 cs = some v ∧ u = BitVec.ofNat 128 v := by
  rw [ofText, String.toList_ofList]
  cases hv : valueFrom? 0 cs with
  | none =>
      -- both the length and the characters may be at fault
      refine iff_of_false ?_ (by simp)
      split <;> exact nofun
  | some v =>
      rw [utf8ByteSize_ofList_eq (utf8Size_of_mem hv)]
      by_cases hlength : cs.length = width
      · simp only [hlength, if_true, Except.ok.injEq, true_and, Option.some.injEq, exists_eq_left']
        exact eq_comm
      · simp [hlength]

/-- **Every identifier is read from its text.** -/
theorem ofText_text (u : Ulid) : ofText u.text = .ok u := by
  have hroom : u.toNat < 32 ^ width := Nat.lt_trans u.isLt (by decide)
  refine ofText_eq_ok_iff.2 ⟨length_digits _ _, u.toNat, ?_, ?_⟩
  · rw [valueFrom?_digits 0 hroom, Nat.zero_mul, Nat.zero_add]
  · rw [BitVec.ofNat_toNat, BitVec.setWidth_eq]

theorem text_inj {u u' : Ulid} : u.text = u'.text ↔ u = u' := by
  constructor
  · intro h
    have hread := ofText_text u
    rw [h, ofText_text u', Except.ok.injEq] at hread
    exact hread.symm
  · rintro rfl
    rfl

/-- **The text of what was read**: the characters as capitals, but the first one modulo eight. Of the
130 bits that the digits hold, the two that are lost are the highest of the first digit. -/
theorem text_ofNat_eq (hlength : cs.length = 25) (h : valueFrom? d cs = some v) :
    text (BitVec.ofNat 128 v) = String.ofList (digit (d % 8) :: cs.map Char.toUpper) := by
  obtain ⟨hfirst, hrest⟩ := digits_of_valueFrom? h
  rw [hlength] at hfirst hrest
  -- there is room for 25 digits and three bits of the first one
  have hbits : (2 : Nat) ^ 128 = 32 ^ 25 * 8 := by decide
  have hhead : v % 2 ^ 128 / 32 ^ 25 % 32 = d % 8 := by
    rw [hbits, Nat.mod_mul_right_div_self, hfirst]
    omega
  have htail : digits 25 (v % 2 ^ 128) = cs.map Char.toUpper := by
    rw [← digits_mod, hbits, Nat.mod_mul_right_mod, digits_mod, hrest]
  rw [text, BitVec.toNat_ofNat, width, digits_succ_eq_cons, hhead, htail]

end Ulid

end TestBench
