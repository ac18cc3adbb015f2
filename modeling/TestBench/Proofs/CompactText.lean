import TestBench.Proofs.DoubleText
import TestBench.Proofs.StringText

/-!
# The compact text of a value determines it

Different values have different compact texts (`Json.compact_inj`). The texts are compared from the
left, with whatever stands behind them: the first character tells the kind of a value
(`Json.kindAt?_chars`), a number goes on as far as there are characters of numbers, a string up to
its closing mark, and a container item by item. So two texts that go on equally, and are followed by
the end of an item or by nothing, are texts of one value (`Json.chars_append_inj`).

An integer and a floating point number of the same value are different values with different texts,
and so are the two zeros.
-/

set_option autoImplicit false

namespace TestBench.Json

open Number

variable {i j : Int} {a b : Json} {s t rest rest' : List Char}

/-! ## Integers -/

theorem intText_eq (i : Int) : intText i = signText (decide (i < 0)) ++ Nat.toDigits 10 i.natAbs := by
  have hrepr : intText i = i.repr.toList := rfl
  rw [hrepr, Int.repr_eq_if]
  by_cases hi : 0 ≤ i
  · have habs : i.toNat = i.natAbs := by omega
    rw [if_pos hi, decide_eq_false (Int.not_lt.2 hi), habs, Nat.toList_repr]
    rfl
  · have habs : (-i).toNat = i.natAbs := by omega
    rw [if_neg hi, decide_eq_true (Int.not_le.1 hi), habs, String.toList_append, Nat.toList_repr]
    rfl

theorem startsWithDigit_toDigits (n : Nat) : StartsWithDigit (Nat.toDigits 10 n) := by
  cases hdigits : Nat.toDigits 10 n with
  | nil => exact absurd hdigits Nat.toDigits_ne_nil
  | cons c rest =>
      have hc : c ∈ Nat.toDigits 10 n := hdigits ▸ List.mem_cons_self
      exact ⟨c, rest, rfl, Nat.isDigit_of_mem_toDigits (by decide) (by decide) hc⟩

/-- Different integers have different texts. -/
theorem intText_inj (h : intText i = intText j) : i = j := by
  rw [intText_eq, intText_eq] at h
  obtain ⟨hsign, hdigits⟩ :=
    signText_append_inj (startsWithDigit_toDigits _) (startsWithDigit_toDigits _) h
  have habs := congrArg (Nat.ofDigitChars 10 · 0) hdigits
  simp only [Nat.ofDigitChars_ten_toDigits] at habs
  rw [decide_eq_decide] at hsign
  omega

theorem isNumeral_of_mem_intText (i : Int) : ∀ c ∈ intText i, isNumeral c = true := by
  rw [intText_eq]
  exact List.forall_mem_append.2 ⟨isNumeral_of_mem_signText _, isNumeral_of_mem_toDigits _⟩

/-- **An integer and a floating point number are told apart**, whatever their values. -/
theorem intText_ne_text (i : Int) (x : Double) : intText i ≠ x.text := by
  intro h
  have hnone : ∀ c ∈ intText i, c ≠ '.' ∧ c ≠ 'e' := by
    rw [intText_eq]
    refine List.forall_mem_append.2 ⟨fun c hc => ?_, fun c hc => ?_⟩
    · rw [eq_of_mem_signText hc]
      decide
    · have hdigit := Nat.isDigit_of_mem_toDigits (by decide) (by decide) hc
      exact ⟨bne_iff_ne.1 (Decimal.ne_of_isDigit hdigit rfl),
        bne_iff_ne.1 (Decimal.ne_of_isDigit hdigit rfl)⟩
  rcases x.point_or_mark_mem_text with hpoint | hmark
  · exact (hnone '.' (h ▸ hpoint)).1 rfl
  · exact (hnone 'e' (h ▸ hmark)).2 rfl

/-! ## What stands behind a value -/

/-- Nothing, or a character that ends an item. -/
def Ends (rest : List Char) : Prop := ∀ c ∈ rest.head?, c = ',' ∨ c = ']' ∨ c = '\x7d'

theorem ends_nil : Ends [] := fun _ hc => nomatch hc

theorem ends_charsList (as : List Json) (rest : List Char) : Ends (charsList as ++ ']' :: rest) := by
  intro c hc
  cases as with
  | nil => exact .inr (.inl (Option.some.inj hc).symm)
  | cons a as => exact .inl (Option.some.inj hc).symm

theorem ends_charsFields (fields : List (String × Json)) (rest : List Char) :
    Ends (charsFields fields ++ '\x7d' :: rest) := by
  intro c hc
  cases fields with
  | nil => exact .inr (.inr (Option.some.inj hc).symm)
  | cons p fields => exact .inl (Option.some.inj hc).symm

/-- No number goes on where a value ends. -/
theorem takeWhile_append_of_ends (hs : ∀ c ∈ s, isNumeral c = true) (hrest : Ends rest) :
    (s ++ rest).takeWhile isNumeral = s := by
  rw [List.takeWhile_append_of_pos hs]
  cases rest with
  | nil => exact List.append_nil s
  | cons c rest =>
      have hc : ¬isNumeral c = true := by
        rcases hrest c rfl with rfl | rfl | rfl <;> decide
      rw [List.takeWhile_cons_of_neg hc, List.append_nil]

theorem numeral_append_inj (hs : ∀ c ∈ s, isNumeral c = true) (ht : ∀ c ∈ t, isNumeral c = true)
    (hrest : Ends rest) (hrest' : Ends rest') (h : s ++ rest = t ++ rest') : s = t ∧ rest = rest' := by
  have hst : s = t := by
    calc s = (s ++ rest).takeWhile isNumeral := (takeWhile_append_of_ends hs hrest).symm
      _ = (t ++ rest').takeWhile isNumeral := by rw [h]
      _ = t := takeWhile_append_of_ends ht hrest'
  rw [hst] at h
  exact ⟨hst, List.append_cancel_left h⟩

/-- A string ends where its reader says, so nothing is needed of what stands behind it. -/
theorem stringText_append_inj {s t : String} (h : stringText s ++ rest = stringText t ++ rest') :
    s = t ∧ rest = rest' := by
  have hform (s : String) (rest : List Char) :
      stringText s ++ rest = '"' :: (s.toList.flatMap escapeChar ++ '"' :: rest) := by
    simp only [stringText, List.append_assoc, List.cons_append, List.nil_append]
  rw [hform, hform] at h
  obtain ⟨c, hc, hread⟩ := Scan.string_stringText s (c := ⟨_, 0, 0⟩) rfl
  obtain ⟨d, hd, hread'⟩ := Scan.string_stringText t (c := ⟨_, 0, 0⟩) (List.cons.inj h).2
  rw [hread, Except.ok.injEq, Prod.mk.injEq] at hread'
  obtain ⟨hst, rfl⟩ := hread'
  exact ⟨hst, hc.symm.trans hd⟩

/-! ## Kinds of values -/

/-- What the first character of a text tells about its value. -/
inductive Kind where
  /-- The absent value. -/
  | null
  /-- The given truth value. -/
  | bool (b : Bool)
  /-- An integer or a floating point number. -/
  | number
  /-- A text. -/
  | string
  /-- A sequence. -/
  | array
  /-- Values by key. -/
  | object
deriving DecidableEq

/-- The kind of a value. -/
def kind : Json → Kind
  | null => .null
  | bool b => .bool b
  | int _ => .number
  | float _ => .number
  | string _ => .string
  | array _ => .array
  | object _ => .object

/-- The kind of the values whose texts start with a character. -/
def kindAt? : Char → Option Kind
  | 'n' => some .null
  | 't' => some (.bool true)
  | 'f' => some (.bool false)
  | '"' => some .string
  | '[' => some .array
  | '\x7b' => some .object
  | c => if c = '-' ∨ c.isDigit = true then some .number else none

theorem kindAt?_of_number {c : Char} (h : c = '-' ∨ c.isDigit = true) : kindAt? c = some .number := by
  unfold kindAt?
  split
  case h_7 => exact if_pos h
  all_goals exact absurd h (by decide)

/-- The text of a number starts with a sign or a digit. -/
theorem kindAt?_signText (negative : Bool) (hs : StartsWithDigit s) :
    ∃ c rest, signText negative ++ s = c :: rest ∧ kindAt? c = some .number := by
  obtain ⟨c, rest, hcons, hc⟩ := signText_append_eq_cons negative hs
  exact ⟨c, rest, hcons, kindAt?_of_number hc⟩

/-- **The first character of a text tells the kind of its value.** -/
theorem kindAt?_chars (a : Json) : ∃ c rest, chars a = c :: rest ∧ kindAt? c = some a.kind := by
  cases a with
  | null => exact ⟨_, _, rfl, rfl⟩
  | bool b =>
      cases b with
      | true => exact ⟨_, _, rfl, rfl⟩
      | false => exact ⟨_, _, rfl, rfl⟩
  | int i =>
      rw [chars, intText_eq]
      exact kindAt?_signText _ (startsWithDigit_toDigits _)
  | float x => exact kindAt?_signText _ x.startsWithDigit_magnitudeText
  | string s => exact ⟨_, _, rfl, rfl⟩
  | array items =>
      cases items with
      | nil => exact ⟨_, _, rfl, rfl⟩
      | cons a as => exact ⟨_, _, rfl, rfl⟩
  | object fields =>
      cases fields with
      | nil => exact ⟨_, _, rfl, rfl⟩
      | cons p fields => exact ⟨_, _, rfl, rfl⟩

theorem kind_eq_of_append (h : chars a ++ rest = chars b ++ rest') : a.kind = b.kind := by
  obtain ⟨c, s, ha, hc⟩ := kindAt?_chars a
  obtain ⟨d, t, hb, hd⟩ := kindAt?_chars b
  rw [ha, hb] at h
  obtain ⟨rfl, -⟩ := List.cons.inj h
  exact Option.some.inj (hc.symm.trans hd)

/-- No value starts like the end of a container. -/
theorem chars_append_ne_closer (a : Json) (s t : List Char) : chars a ++ s ≠ ']' :: t := by
  intro h
  obtain ⟨c, rest, ha, hc⟩ := kindAt?_chars a
  rw [ha] at h
  obtain ⟨rfl, -⟩ := List.cons.inj h
  cases hc

/-! ## Values -/

theorem chars_array_cons (a : Json) (as : List Json) (rest : List Char) :
    chars (array (a :: as)) ++ rest = '[' :: (chars a ++ (charsList as ++ ']' :: rest)) := by
  simp only [chars, List.append_assoc, List.cons_append, List.nil_append]

theorem chars_object_cons (k : String) (a : Json) (fields : List (String × Json))
    (rest : List Char) :
    chars (object ((k, a) :: fields)) ++ rest =
      '\x7b' :: (stringText k ++ ':' :: (chars a ++ (charsFields fields ++ '\x7d' :: rest))) := by
  simp only [chars, List.append_assoc, List.cons_append, List.nil_append]

theorem charsList_cons (a : Json) (as : List Json) (rest : List Char) :
    charsList (a :: as) ++ rest = ',' :: (chars a ++ (charsList as ++ rest)) := by
  simp only [charsList, List.append_assoc, List.cons_append, List.nil_append]

theorem charsFields_cons (k : String) (a : Json) (fields : List (String × Json))
    (rest : List Char) :
    charsFields ((k, a) :: fields) ++ rest =
      ',' :: (stringText k ++ ':' :: (chars a ++ (charsFields fields ++ rest))) := by
  simp only [charsFields, List.append_assoc, List.cons_append, List.nil_append]

/-- No key starts like the end of an object. -/
theorem stringText_append_ne_closer (k : String) (s t : List Char) :
    stringText k ++ s ≠ '\x7d' :: t := by
  intro h
  have hfirst : '"' = '\x7d' := (List.cons.inj h).1
  exact absurd hfirst (by decide)

/-- The items of an array, when each is taken with the comma before it. -/
theorem charsList_of_chars_array {items items' : List Json}
    (h : chars (array items) ++ rest = chars (array items') ++ rest') :
    charsList items ++ ']' :: rest = charsList items' ++ ']' :: rest' := by
  cases items with
  | nil =>
      cases items' with
      | nil => exact (List.cons.inj h).2
      | cons b bs =>
          rw [chars_array_cons] at h
          exact absurd (List.cons.inj h).2.symm (chars_append_ne_closer b _ _)
  | cons a as =>
      rw [chars_array_cons] at h
      cases items' with
      | nil => exact absurd (List.cons.inj h).2 (chars_append_ne_closer a _ _)
      | cons b bs =>
          rw [chars_array_cons] at h
          rw [charsList_cons, charsList_cons, (List.cons.inj h).2]

/-- The fields of an object, when each is taken with the comma before it. -/
theorem charsFields_of_chars_object {fields fields' : List (String × Json)}
    (h : chars (object fields) ++ rest = chars (object fields') ++ rest') :
    charsFields fields ++ '\x7d' :: rest = charsFields fields' ++ '\x7d' :: rest' := by
  cases fields with
  | nil =>
      cases fields' with
      | nil => exact (List.cons.inj h).2
      | cons q fields' =>
          rw [chars_object_cons] at h
          exact absurd (List.cons.inj h).2.symm (stringText_append_ne_closer q.1 _ _)
  | cons p fields =>
      rw [chars_object_cons] at h
      cases fields' with
      | nil => exact absurd (List.cons.inj h).2 (stringText_append_ne_closer p.1 _ _)
      | cons q fields' =>
          rw [chars_object_cons] at h
          rw [charsFields_cons, charsFields_cons, (List.cons.inj h).2]

mutual

/-- **Texts that go on equally are texts of one value.** -/
theorem chars_append_inj : ∀ {a b : Json} {rest rest' : List Char}, Ends rest → Ends rest' →
    chars a ++ rest = chars b ++ rest' → a = b ∧ rest = rest'
  -- the first characters agree, so the values are of one kind
  | null, b, rest, rest', _, _, h => by
      have hkind := kind_eq_of_append h
      cases b with
      | null => exact ⟨rfl, List.append_cancel_left h⟩
      | _ => cases hkind
  | bool x, b, rest, rest', _, _, h => by
      have hkind := kind_eq_of_append h
      cases b with
      | bool y =>
          cases hkind
          exact ⟨rfl, List.append_cancel_left h⟩
      | _ => cases hkind
  -- a number goes on as far as there are characters of numbers, and what follows is none
  | int i, b, rest, rest', hrest, hrest', h => by
      have hkind := kind_eq_of_append h
      cases b with
      | int j =>
          obtain ⟨htext, hbehind⟩ := numeral_append_inj (isNumeral_of_mem_intText i)
            (isNumeral_of_mem_intText j) hrest hrest' h
          exact ⟨congrArg int (intText_inj htext), hbehind⟩
      | float y =>
          obtain ⟨htext, -⟩ := numeral_append_inj (isNumeral_of_mem_intText i)
            y.isNumeral_of_mem_text hrest hrest' h
          exact absurd htext (intText_ne_text i y)
      | _ => cases hkind
  | float x, b, rest, rest', hrest, hrest', h => by
      have hkind := kind_eq_of_append h
      cases b with
      | int j =>
          obtain ⟨htext, -⟩ := numeral_append_inj x.isNumeral_of_mem_text
            (isNumeral_of_mem_intText j) hrest hrest' h
          exact absurd htext.symm (intText_ne_text j x)
      | float y =>
          obtain ⟨htext, hbehind⟩ := numeral_append_inj x.isNumeral_of_mem_text
            y.isNumeral_of_mem_text hrest hrest' h
          exact ⟨congrArg float (Double.text_inj htext), hbehind⟩
      | _ => cases hkind
  | string s, b, rest, rest', _, _, h => by
      have hkind := kind_eq_of_append h
      cases b with
      | string t =>
          obtain ⟨hst, hbehind⟩ := stringText_append_inj h
          exact ⟨congrArg string hst, hbehind⟩
      | _ => cases hkind
  -- a container ends with its bracket, whatever follows
  | array items, b, rest, rest', _, _, h => by
      have hkind := kind_eq_of_append h
      cases b with
      | array items' =>
          obtain ⟨hitems, hbehind⟩ := charsList_append_inj (charsList_of_chars_array h)
          exact ⟨congrArg array hitems, hbehind⟩
      | _ => cases hkind
  | object fields, b, rest, rest', _, _, h => by
      have hkind := kind_eq_of_append h
      cases b with
      | object fields' =>
          obtain ⟨hfields, hbehind⟩ := charsFields_append_inj (charsFields_of_chars_object h)
          exact ⟨congrArg object hfields, hbehind⟩
      | _ => cases hkind

/-- Further items are told apart up to the end of their array. -/
theorem charsList_append_inj : ∀ {as bs : List Json} {rest rest' : List Char},
    charsList as ++ ']' :: rest = charsList bs ++ ']' :: rest' → as = bs ∧ rest = rest'
  | [], bs, rest, rest', h => by
      cases bs with
      | nil => exact ⟨rfl, (List.cons.inj h).2⟩
      | cons b bs =>
          rw [charsList_cons] at h
          exact absurd (List.cons.inj h).1 (by decide)
  | a :: as, bs, rest, rest', h => by
      cases bs with
      | nil =>
          rw [charsList_cons] at h
          exact absurd (List.cons.inj h).1 (by decide)
      | cons b bs =>
          rw [charsList_cons, charsList_cons] at h
          obtain ⟨rfl, htail⟩ := chars_append_inj (ends_charsList as rest)
            (ends_charsList bs rest') (List.cons.inj h).2
          obtain ⟨rfl, hbehind⟩ := charsList_append_inj htail
          exact ⟨rfl, hbehind⟩

/-- Further fields are told apart up to the end of their object. -/
theorem charsFields_append_inj : ∀ {fields fields' : List (String × Json)} {rest rest' : List Char},
    charsFields fields ++ '\x7d' :: rest = charsFields fields' ++ '\x7d' :: rest' →
      fields = fields' ∧ rest = rest'
  | [], fields', rest, rest', h => by
      cases fields' with
      | nil => exact ⟨rfl, (List.cons.inj h).2⟩
      | cons q fields' =>
          rw [charsFields_cons] at h
          exact absurd (List.cons.inj h).1 (by decide)
  | (k, a) :: fields, fields', rest, rest', h => by
      cases fields' with
      | nil =>
          rw [charsFields_cons] at h
          exact absurd (List.cons.inj h).1 (by decide)
      | cons q fields' =>
          rw [charsFields_cons, charsFields_cons] at h
          obtain ⟨rfl, hcolon⟩ := stringText_append_inj (List.cons.inj h).2
          obtain ⟨rfl, htail⟩ := chars_append_inj (ends_charsFields fields rest)
            (ends_charsFields fields' rest') (List.cons.inj hcolon).2
          obtain ⟨rfl, hbehind⟩ := charsFields_append_inj htail
          exact ⟨rfl, hbehind⟩

end

/-- **Different values have different compact texts.** -/
theorem compact_inj (h : a.compact = b.compact) : a = b := by
  have hchars : chars a ++ [] = chars b ++ [] := by
    rw [List.append_nil, List.append_nil]
    exact String.ofList_injective h
  exact (chars_append_inj ends_nil ends_nil hchars).1

end TestBench.Json
