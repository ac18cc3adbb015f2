import Mathlib.Data.List.DropRight
import Mathlib.Data.Nat.Digits.Defs
import TestBench.Proofs.DocumentForms
import TestBench.Suite.Criterion

/-!
# Which values are priorities

The priority of a rule may stand in a document as null, as an integer or as a text. This module says
which values are read as which priority, without the scan that reads texts. A text of nothing but
blanks is unset like null; a text that spells a number, between blanks, is read as the number
(`Number.Spells`); and there are no others.

The parts come first. `Text.trim` takes the blanks off both ends and leaves any text that holds none
(`Text.trim_append`), and `Number.naturalBelow?` reads an optional plus sign and digits, as the number
that the digits stand for in base ten. `Criterion.readPriority_classified` puts them together.
-/

set_option autoImplicit false

namespace TestBench

/-! ## Trimming -/

namespace Text

variable {front s back : List Char}

theorem trim_eq_rdropWhile (s : List Char) : trim s = (s.dropWhile isBlank).rdropWhile isBlank := rfl

/-- **Trimming takes blanks off both ends.** -/
theorem exists_eq_append_trim (s : List Char) : ∃ front back,
    s = front ++ trim s ++ back ∧ (∀ c ∈ front, isBlank c = true) ∧
      ∀ c ∈ back, isBlank c = true := by
  refine ⟨s.takeWhile isBlank, (s.dropWhile isBlank).rtakeWhile isBlank, ?_, ?_, ?_⟩
  · rw [trim_eq_rdropWhile, List.append_assoc, List.rdropWhile_append_rtakeWhile,
      List.takeWhile_append_dropWhile]
  · exact fun _ => List.mem_takeWhile_imp
  · exact fun _ => List.mem_rtakeWhile_imp

/-- Blanks at the end are trimmed from a text without blanks. -/
theorem rdropWhile_append (hs : ∀ c ∈ s, isBlank c = false) (hback : ∀ c ∈ back, isBlank c = true) :
    (s ++ back).rdropWhile isBlank = s := by
  induction back using List.reverseRecOn with
  | nil =>
      rw [List.append_nil, List.rdropWhile_eq_self_iff]
      intro hne
      rw [hs _ (List.getLast_mem hne)]
      exact Bool.false_ne_true
  | append_singleton back c ih =>
      obtain ⟨hback, hc⟩ := List.forall_mem_append.1 hback
      rw [← List.append_assoc, List.rdropWhile_concat_pos _ _ _ (hc c (List.mem_singleton_self c)),
        ih hback]

/-- **A text without blanks is what is left of it between blanks.** -/
theorem trim_append (hfront : ∀ c ∈ front, isBlank c = true) (hs : ∀ c ∈ s, isBlank c = false)
    (hback : ∀ c ∈ back, isBlank c = true) : trim (front ++ s ++ back) = s := by
  rw [trim_eq_rdropWhile, List.append_assoc, List.dropWhile_append_of_pos hfront]
  cases s with
  | nil =>
      rw [List.nil_append, List.dropWhile_eq_nil_iff.2 hback]
      rfl
  | cons c rest =>
      have hc := hs c List.mem_cons_self
      rw [List.cons_append, List.dropWhile_cons_of_neg (ne_true_of_eq_false hc), ← List.cons_append,
        rdropWhile_append hs hback]

/-- Nothing is left of a text just if it is blank. -/
theorem trim_eq_nil_iff : trim s = [] ↔ ∀ c ∈ s, isBlank c = true := by
  constructor
  · intro hnil
    obtain ⟨front, back, hs, hfront, hback⟩ := exists_eq_append_trim s
    rw [hnil, List.append_nil] at hs
    rw [hs]
    exact List.forall_mem_append.2 ⟨hfront, hback⟩
  · intro hblank
    exact trim_eq_nil_of_all (List.all_eq_true.2 hblank)

end Text

/-! ## Numerals -/

namespace Number

variable {cs : List Char} {acc n bound : Nat}

/-- The number that digits stand for in base ten, the most significant one first. -/
def decimal (digits : List Char) : Nat :=
  Nat.ofDigits 10 (digits.reverse.map fun c => c.toNat - '0'.toNat)

/-- Characters spell a number: they are digits, one at least, that stand for the number, and a plus
sign may stand in front of them. -/
def Spells (cs : List Char) (n : Nat) : Prop :=
  ∃ digits, (cs = digits ∨ cs = '+' :: digits) ∧ digits ≠ [] ∧ (∀ c ∈ digits, c.isDigit = true) ∧
    decimal digits = n

theorem decimal_cons (c : Char) (cs : List Char) :
    decimal (c :: cs) = (c.toNat - '0'.toNat) * 10 ^ cs.length + decimal cs := by
  rw [decimal, List.map_reverse, List.map_cons, Nat.ofDigits_reverse_cons, List.length_map, decimal,
    List.map_reverse, Nat.mul_comm, Nat.add_comm]

/-- **Digits are read as the number that they stand for**, behind what was read before. -/
theorem digitsValue?_eq (acc : Nat) (h : ∀ c ∈ cs, c.isDigit = true) :
    digitsValue? acc cs = some (acc * 10 ^ cs.length + decimal cs) := by
  induction cs generalizing acc with
  | nil => simp [digitsValue?, decimal]
  | cons c cs ih =>
      obtain ⟨hc, hcs⟩ := List.forall_mem_cons.1 h
      have hshift : (acc * 10 + (c.toNat - '0'.toNat)) * 10 ^ cs.length + decimal cs =
          acc * 10 ^ (cs.length + 1) + ((c.toNat - '0'.toNat) * 10 ^ cs.length + decimal cs) := by
        rw [pow_succ]
        ring
      rw [digitsValue?, if_pos hc, ih _ hcs, decimal_cons, hshift, List.length_cons]

/-- Nothing but digits is read. -/
theorem forall_isDigit_of_digitsValue? (h : digitsValue? acc cs = some n) :
    ∀ c ∈ cs, c.isDigit = true := by
  induction cs generalizing acc with
  | nil => exact List.forall_mem_nil _
  | cons c cs ih =>
      rw [digitsValue?] at h
      split at h
      · next hc => exact List.forall_mem_cons.2 ⟨hc, ih h⟩
      · cases h

/-- What is taken off in front is a plus sign, or nothing. -/
theorem eq_unsigned_or (cs : List Char) : cs = unsigned cs ∨ cs = '+' :: unsigned cs := by
  unfold unsigned
  split
  · exact .inr rfl
  · exact .inl rfl

/-- Nothing is taken off digits. -/
theorem unsigned_of_isDigit (h : ∀ c ∈ cs, c.isDigit = true) : unsigned cs = cs := by
  unfold unsigned
  split
  · have hplus := h '+' List.mem_cons_self
    exact absurd hplus (by decide)
  · rfl

/-- What is behind the sign is digits with a value just if the characters spell that value. -/
theorem spells_iff_unsigned :
    Spells cs n ↔ unsigned cs ≠ [] ∧ digitsValue? 0 (unsigned cs) = some n := by
  constructor
  · rintro ⟨digits, hcs, hne, hdigits, rfl⟩
    have hunsigned : unsigned cs = digits := by
      obtain rfl | rfl := hcs
      · exact unsigned_of_isDigit hdigits
      · rfl
    rw [hunsigned, digitsValue?_eq 0 hdigits, Nat.zero_mul, Nat.zero_add]
    exact ⟨hne, rfl⟩
  · rintro ⟨hne, hvalue⟩
    have hdigits := forall_isDigit_of_digitsValue? hvalue
    rw [digitsValue?_eq 0 hdigits, Nat.zero_mul, Nat.zero_add, Option.some.injEq] at hvalue
    exact ⟨unsigned cs, eq_unsigned_or cs, hne, hdigits, hvalue⟩

/-- **A number below a bound is read just from the characters that spell it.** -/
theorem naturalBelow?_eq_some_iff {n : Fin bound} :
    naturalBelow? bound cs = some n ↔ Spells cs n.val := by
  rw [spells_iff_unsigned, naturalBelow?]
  split
  · next hnil => simp [hnil]
  · next hne =>
      rw [Option.bind_eq_some_iff]
      constructor
      · rintro ⟨m, hm, hbound⟩
        split at hbound
        · cases hbound
          exact ⟨hne, hm⟩
        · cases hbound
      · rintro ⟨-, hvalue⟩
        exact ⟨n.val, hvalue, dif_pos n.isLt⟩

/-- What spells a number holds no blank. -/
theorem Spells.isBlank_eq_false (h : Spells cs n) : ∀ c ∈ cs, Text.isBlank c = false := by
  obtain ⟨digits, hcs, -, hdigits, -⟩ := h
  have hdigit : ∀ c : Char, c.isDigit = true → Text.isBlank c = false := by
    intro c hc
    -- the blank characters lie before the digits or behind them
    have hranges : ∀ r ∈ Text.blankRanges, r.2 < '0'.toNat ∨ '9'.toNat < r.1 := by decide
    obtain ⟨hleast, hgreatest⟩ := Char.isDigit_iff_toNat.1 hc
    rw [← Bool.not_eq_true, Text.isBlank, Text.within_eq_true_iff]
    rintro ⟨r, hr, hlow, hhigh⟩
    have hapart := hranges r hr
    omega
  obtain rfl | rfl := hcs
  · exact fun c hc => hdigit c (hdigits c hc)
  · exact List.forall_mem_cons.2 ⟨by decide, fun c hc => hdigit c (hdigits c hc)⟩

theorem Spells.ne_nil (h : Spells cs n) : cs ≠ [] := by
  obtain ⟨digits, rfl | rfl, hne, -⟩ := h
  · exact hne
  · exact List.cons_ne_nil _ _

end Number

/-! ## Priorities -/

namespace Criterion

variable {s : String} {n : Nat} {p : Priority} {v : Json} {m : Json.Mismatch}

/-- A text of nothing but blanks. -/
def IsBlankText (s : String) : Prop := ∀ c ∈ s.toList, Text.isBlank c = true

/-- A text that spells a number, blanks around it apart. -/
def IsSpelling (s : String) (n : Nat) : Prop :=
  ∃ front numeral back, s.toList = front ++ numeral ++ back ∧
    (∀ c ∈ front, Text.isBlank c = true) ∧ (∀ c ∈ back, Text.isBlank c = true) ∧
      Number.Spells numeral n

/-- A text spells a number just if the number is spelled when the text is trimmed. -/
theorem isSpelling_iff_trim : IsSpelling s n ↔ Number.Spells (Text.trim s.toList) n := by
  constructor
  · rintro ⟨front, numeral, back, hs, hfront, hback, hspells⟩
    rwa [hs, Text.trim_append hfront hspells.isBlank_eq_false hback]
  · intro hspells
    obtain ⟨front, back, hs, hfront, hback⟩ := Text.exists_eq_append_trim s.toList
    exact ⟨front, _, back, hs, hfront, hback, hspells⟩

/-- A text that is not blank is read as the number that is left when it is trimmed. -/
theorem priorityOfText_of_not_isBlankText (h : ¬IsBlankText s) :
    priorityOfText s =
      match Number.naturalBelow? 256 (Text.trim s.toList) with
      | some p => .ok (some p)
      | none => .error (.refused ("invalid priority: " ++ Text.quoted s)) := by
  rw [priorityOfText]
  split
  · next hnil => exact absurd (Text.trim_eq_nil_iff.1 hnil) h
  · rfl

theorem priorityOfText_of_isBlankText (h : IsBlankText s) : priorityOfText s = .ok none := by
  rw [priorityOfText, Text.trim_eq_nil_iff.2 h]

/-- **A text is unset just if it is blank.** -/
theorem priorityOfText_eq_none_iff : priorityOfText s = .ok none ↔ IsBlankText s := by
  refine ⟨fun h => ?_, priorityOfText_of_isBlankText⟩
  by_contra hblank
  rw [priorityOfText_of_not_isBlankText hblank] at h
  split at h <;> cases h

/-- A text that spells a number is not blank. -/
theorem IsSpelling.not_isBlankText (h : IsSpelling s n) : ¬IsBlankText s := fun hblank =>
  (isSpelling_iff_trim.1 h).ne_nil (Text.trim_eq_nil_iff.2 hblank)

/-- **A text is read as a priority just if it spells it.** -/
theorem priorityOfText_eq_some_iff : priorityOfText s = .ok (some p) ↔ IsSpelling s p.val := by
  by_cases hblank : IsBlankText s
  · rw [priorityOfText_of_isBlankText hblank]
    exact iff_of_false nofun fun h => h.not_isBlankText hblank
  · rw [isSpelling_iff_trim, ← Number.naturalBelow?_eq_some_iff,
      priorityOfText_of_not_isBlankText hblank]
    cases Number.naturalBelow? 256 (Text.trim s.toList) <;> simp

/-! ## Values -/

/-- A value that is no priority. -/
inductive IsNoPriority : Json → Prop where
  /-- Truth values are none. -/
  | bool (b : Bool) : IsNoPriority (.bool b)
  /-- Floating point numbers are none, be they whole or not. -/
  | float (x : Number.Double) : IsNoPriority (.float x)
  /-- Arrays are none. -/
  | array (items : List Json) : IsNoPriority (.array items)
  /-- Objects are none. -/
  | object (fields : Json.Fields) : IsNoPriority (.object fields)
  /-- Integers out of range are none. -/
  | int {i : Int} (h : i < 0 ∨ 255 < i) : IsNoPriority (.int i)
  /-- Texts that are neither blank nor spell a number in range are none. -/
  | text {s : String} (hblank : ¬IsBlankText s) (h : ∀ n, IsSpelling s n → 255 < n) :
      IsNoPriority (.string s)

/-- What is said against a value that is no priority. A text is named. -/
def refusal : Json → Json.Mismatch
  | .string s => .refused ("invalid priority: " ++ Text.quoted s)
  | _ => .noVariant "Raw"

theorem readPriority_int {i : Int} :
    readPriority (.int i) =
      match Json.readNat 256 (.int i) with
      | .ok p => .ok (some p)
      | .error _ => .error (.noVariant "Raw") := rfl

theorem readPriority_eq_none_iff :
    readPriority v = .ok none ↔ v = .null ∨ ∃ s, v = .string s ∧ IsBlankText s := by
  cases v with
  | null => exact iff_of_true rfl (.inl rfl)
  | string s => simp [readPriority, priorityOfText_eq_none_iff]
  | int i =>
      rw [readPriority_int]
      cases Json.readNat 256 (.int i) <;> simp
  | _ => exact iff_of_false nofun (by simp)

theorem readPriority_eq_some_iff :
    readPriority v = .ok (some p) ↔
      v = .int p.val ∨ ∃ s, v = .string s ∧ IsSpelling s p.val := by
  cases v with
  | string s => simp [readPriority, priorityOfText_eq_some_iff]
  | int i =>
      have hread : readPriority (.int i) = .ok (some p) ↔ Json.readNat 256 (.int i) = .ok p := by
        rw [readPriority_int]
        cases Json.readNat 256 (.int i) <;> simp
      rw [hread, Json.readNat_eq_ok_iff]
      simp
  | _ => exact iff_of_false nofun (by simp)

/-- What is no priority is refused. -/
theorem readPriority_of_isNoPriority (h : IsNoPriority v) : readPriority v = .error (refusal v) := by
  cases h with
  | @int i hrange =>
      rw [readPriority_int]
      cases hread : Json.readNat 256 (.int i) with
      | error _ => rfl
      | ok p =>
          have hi := Json.readNat_eq_ok_iff.1 hread
          rw [Json.int.injEq] at hi
          have hp := p.isLt
          omega
  | @text s hblank hlarge =>
      rw [readPriority, priorityOfText_of_not_isBlankText hblank]
      cases hread : Number.naturalBelow? 256 (Text.trim s.toList) with
      | none => rfl
      | some p =>
          have hp := hlarge p.val (isSpelling_iff_trim.2 (Number.naturalBelow?_eq_some_iff.1 hread))
          have hbound := p.isLt
          omega
  | _ => rfl

/-- What is refused is no priority. -/
theorem isNoPriority_of_readPriority (h : readPriority v = .error m) : IsNoPriority v := by
  cases v with
  | null => cases h
  | bool b => exact .bool b
  | float x => exact .float x
  | array items => exact .array items
  | object fields => exact .object fields
  | int i =>
      refine .int ?_
      by_contra hrange
      have hread : readPriority (.int i) = .ok (some ⟨i.toNat, by omega⟩) := by
        rw [readPriority_eq_some_iff, Json.int.injEq]
        exact .inl (Int.toNat_of_nonneg (by omega)).symm
      rw [hread] at h
      cases h
  | string s =>
      refine .text (fun hblank => ?_) fun n hspelling => ?_
      · rw [readPriority, priorityOfText_of_isBlankText hblank] at h
        cases h
      · by_contra hsmall
        have hread : priorityOfText s = .ok (some ⟨n, by omega⟩) :=
          priorityOfText_eq_some_iff.2 hspelling
        rw [readPriority, hread] at h
        cases h

/-- A rule with a priority and nothing else is read as the priority is. -/
theorem ofJson_priority (v : Json) :
    ofJson (.object [("priority", v)]) =
      (readPriority v).map fun p => { blank with priority := p } := by
  have hvisit : record.visit record.blank ("priority", v) =
      (readPriority v).map fun p => { record.blank with priority := some p } := rfl
  show ([("priority", v)].foldlM record.visit record.blank >>= record.finish) = _
  rw [List.foldlM_cons, hvisit]
  cases readPriority v <;> rfl

/-- **Which values are priorities.** Null and texts of nothing but blanks are unset. The integers from
0 to 255 are read as themselves, and so is a text that, blanks around it apart, is an optional plus
sign and at least one ASCII digit, with any number of zeros in front, and stands for such a number in
base ten. Every other value is refused: truth values, floating point numbers, arrays and objects,
integers out of range, and texts that are not blank and spell no number up to 255. So an integer and
all texts that spell it are read alike; and a rule with a priority alone is read as the priority is. -/
theorem readPriority_classified (v : Json) :
    (readPriority v = .ok none ↔ v = .null ∨ ∃ s, v = .string s ∧ IsBlankText s) ∧
    (∀ p : Priority, readPriority v = .ok (some p) ↔
      v = .int p.val ∨ ∃ s, v = .string s ∧ IsSpelling s p.val) ∧
    (∀ m, readPriority v = .error m ↔ IsNoPriority v ∧ m = refusal v) ∧
    (∀ (s : String) (n : Nat), v = .string s → IsSpelling s n → n ≤ 255 →
      readPriority v = readPriority (.int n)) ∧
    ofJson (.object [("priority", v)]) =
      (readPriority v).map fun p => { blank with priority := p } := by
  refine ⟨readPriority_eq_none_iff, fun p => readPriority_eq_some_iff, fun m => ?_, ?_,
    ofJson_priority v⟩
  · constructor
    · intro h
      have hnone := isNoPriority_of_readPriority h
      rw [readPriority_of_isNoPriority hnone, Except.error.injEq] at h
      exact ⟨hnone, h.symm⟩
    · rintro ⟨hnone, rfl⟩
      exact readPriority_of_isNoPriority hnone
  · rintro s n rfl hspelling hrange
    have htext : readPriority (.string s) = .ok (some ⟨n, by omega⟩) :=
      readPriority_eq_some_iff.2 (.inr ⟨s, rfl, hspelling⟩)
    have hinteger : readPriority (.int n) = .ok (some ⟨n, by omega⟩) :=
      readPriority_eq_some_iff.2 (.inl rfl)
    rw [htext, hinteger]

/-- Zeros in front between two kinds of blanks, the greatest number, and what just misses: one more, a
minus sign, a sign alone, a blank between digits, a digit of another script, and a whole floating
point number. -/
theorem readPriority_classified_on_near_misses :
    let padded := "\u3000+0007\u00a0"
    IsSpelling padded 7 ∧ readPriority (.string padded) = readPriority (.int 7) ∧
      readPriority (.string "255") = .ok (some 255) ∧
      readPriority (.string "\u2028\t") = .ok none ∧
      (∀ s ∈ ["256", "-0", "+", "1 2", "\u0663"], IsNoPriority (.string s)) ∧
      IsNoPriority (.float (Number.Double.zero false)) ∧
      readPriority (.float (Number.Double.zero false)) = .error (.noVariant "Raw") := by
  intro padded
  have hspelling : IsSpelling padded 7 := by
    refine ⟨['\u3000'], ['+', '0', '0', '0', '7'], ['\u00a0'], by decide, List.all_eq_true.1 rfl,
      List.all_eq_true.1 rfl, ['0', '0', '0', '7'], .inr rfl, by decide, List.all_eq_true.1 rfl, rfl⟩
  obtain ⟨-, -, -, halike, -⟩ := readPriority_classified (.string padded)
  obtain ⟨-, hnumber, -, -, -⟩ := readPriority_classified (.string "255")
  obtain ⟨hunset, -, -, -, -⟩ := readPriority_classified (.string "\u2028\t")
  have hrefused (v : Json) (hread : readPriority v = .error (refusal v)) : IsNoPriority v := by
    obtain ⟨-, -, herror, -, -⟩ := readPriority_classified v
    exact ((herror _).1 hread).1
  refine ⟨hspelling, halike padded 7 rfl hspelling (by decide), ?_, ?_, ?_, ?_, rfl⟩
  · exact (hnumber 255).2 (.inr ⟨"255", rfl, [], ['2', '5', '5'], [], by decide, List.forall_mem_nil _,
      List.forall_mem_nil _, ['2', '5', '5'], .inl rfl, by decide, List.all_eq_true.1 rfl, rfl⟩)
  · exact hunset.2 (.inr ⟨_, rfl, List.all_eq_true.1 rfl⟩)
  · simp only [List.forall_mem_cons]
    exact ⟨hrefused _ rfl, hrefused _ rfl, hrefused _ rfl, hrefused _ rfl, hrefused _ rfl,
      List.forall_mem_nil _⟩
  · exact hrefused _ rfl

end Criterion

end TestBench
