import TestBench.Proofs.CompactText

/-!
# The compact text of a value is read as the value

What is written is read again (`ofText_compact`), for values of which a text can say everything: the
integers are of 64 bits, there are no floating point numbers, the keys ascend and the value is not
nested too deep (`Json.Exact`). A reader is said to read a text as a result if it takes the text
wherever it stands, before the end of an item or of everything, and leaves what follows
(`Scan.Reads`). So readers of parts are put together to readers of containers item by item, and the
texts of containers are written with what parts an item from the one before it (`separated`).
-/

set_option autoImplicit false

namespace TestBench.Json

variable {α : Type} {a : α} {n : Nat} {ch : Char} {s t ds rest : List Char} {c : Cursor}

/-! ## Texts of containers -/

/-- Texts one after the other, with commas between them and, unless they are the first, before them. -/
def separated (first : Bool) : List (List Char) → List Char
  | [] => []
  | t :: ts => (if first then t else ',' :: t) ++ separated false ts

theorem separated_cons (first : Bool) (t : List Char) (ts : List (List Char)) (rest : List Char) :
    separated first (t :: ts) ++ rest =
      (if first then t else ',' :: t) ++ (separated false ts ++ rest) := by
  rw [separated, List.append_assoc]

theorem length_separated_cons (first : Bool) (t : List Char) (ts : List (List Char)) :
    t.length + (separated false ts).length ≤ (separated first (t :: ts)).length := by
  rw [separated, List.length_append]
  cases first with
  | true => exact Nat.le_refl _
  | false =>
      simp only [Bool.false_eq_true, if_false, List.length_cons]
      omega

/-- The text of a field. -/
def fieldText (f : String × Json) : List Char := stringText f.1 ++ ':' :: chars f.2

theorem length_chars_pos (v : Json) : 0 < (chars v).length := by
  obtain ⟨ch, s, hchars, -⟩ := kindAt?_chars v
  rw [hchars]
  exact Nat.succ_pos _

theorem charsList_eq (items : List Json) : charsList items = separated false (items.map chars) := by
  induction items with
  | nil => rfl
  | cons a items ih =>
      rw [charsList, ih]
      rfl

theorem charsFields_eq (fields : Fields) :
    charsFields fields = separated false (fields.map fieldText) := by
  induction fields with
  | nil => rfl
  | cons f fields ih =>
      rw [charsFields, ih]
      simp only [List.map_cons, separated, fieldText, List.append_assoc, List.cons_append,
        List.nil_append, Bool.false_eq_true, if_false]

theorem chars_array (items : List Json) :
    chars (array items) = '[' :: (separated true (items.map chars) ++ [']']) := by
  cases items with
  | nil => rfl
  | cons a items =>
      rw [chars, charsList_eq]
      simp only [List.map_cons, separated, if_true, List.append_assoc, List.cons_append,
        List.nil_append]

theorem chars_object (fields : Fields) :
    chars (object fields) = '\x7b' :: (separated true (fields.map fieldText) ++ ['\x7d']) := by
  cases fields with
  | nil => rfl
  | cons f fields =>
      rw [chars, charsFields_eq]
      simp only [List.map_cons, separated, fieldText, if_true, List.append_assoc, List.cons_append,
        List.nil_append]

/-- Further items and the end of their container end an item. -/
theorem ends_separated (ts : List (List Char)) (hclose : ch = ']' ∨ ch = '\x7d') :
    Ends (separated false ts ++ ch :: rest) := by
  intro c hc
  cases ts with
  | nil =>
      obtain rfl : ch = c := Option.some.inj hc
      exact .inr hclose
  | cons t ts => exact .inl (Option.some.inj hc).symm

theorem Ends.isDigit_eq_false (h : Ends rest) : ∀ c ∈ rest.head?, c.isDigit = false := by
  intro c hc
  rcases h c hc with rfl | rfl | rfl <;> rfl

/-- A key beyond all others is inserted at the end. -/
theorem Fields.insert_eq_append {fields : Fields} {key : String} {v : Json}
    (h : ∀ f ∈ fields, f.1 < key) : fields.insert key v = fields ++ [(key, v)] := by
  induction fields with
  | nil => rfl
  | cons f fields ih =>
      obtain ⟨hf, hfields⟩ := List.forall_mem_cons.1 h
      rw [Fields.insert, if_neg (Std.not_gt_of_lt hf), if_neg (Std.ne_of_lt hf).symm, ih hfields,
        List.cons_append]

namespace Scan

/-! ## Reading a text -/

/-- A scan reads a text as a result: it takes the text and nothing of what stands behind it. -/
def Reads (scan : Scan α) (text : List Char) (a : α) : Prop :=
  ∀ ⦃c : Cursor⦄ ⦃rest : List Char⦄, Ends rest → c.rest = text ++ rest →
    ∃ c' : Cursor, c'.rest = rest ∧ scan c = .ok (a, c')

/-- What is read from a text is read from the whole of it. -/
theorem Reads.whole {scan : Scan α} {s : String} (h : scan.Reads s.toList a) :
    whole scan s = .ok a := by
  obtain ⟨c, hrest, hread⟩ :=
    h (c := Cursor.ofText s) ends_nil (List.append_nil s.toList).symm
  have hend : c.skipSpace.peek = none := by
    rw [Cursor.skipSpace_of_rest_nil hrest, Cursor.peek, hrest, List.head?_nil]
  rw [Scan.whole]
  simp only [hread, hend, bind, Except.bind]

/-- A word is read letter by letter. -/
theorem word_eq (w : List Char) (h : c.rest = w ++ rest) :
    ∃ c' : Cursor, c'.rest = rest ∧ word w c = .ok ((), c') := by
  induction w generalizing c with
  | nil => exact ⟨c, h, rfl⟩
  | cons ch w ih =>
      obtain ⟨c', hrest, hword⟩ := ih (Cursor.rest_advance h)
      refine ⟨c', hrest, ?_⟩
      rw [word, Cursor.peek_of_rest h]
      simp only [if_true, hword]

/-- A word is read behind its first letter, as what it stands for. -/
theorem word_advance_eq (a : α) (w : List Char) (h : c.rest = ch :: (w ++ rest)) :
    ∃ c' : Cursor, c'.rest = rest ∧ ((word w c.advance).map fun r => (a, r.2)) = .ok (a, c') := by
  obtain ⟨c', hc', hword⟩ := word_eq w (Cursor.rest_advance h)
  exact ⟨c', hc', by rw [hword, Except.map]⟩

/-! ## Integers -/

theorem digit?_of_isDigit (h : ch.isDigit = true) : digit? ch = some (ch.toNat - '0'.toNat) :=
  if_pos h

theorem digit?_eq_none (h : ch.isDigit = false) : digit? ch = none :=
  if_neg (ne_true_of_eq_false h)

theorem value_ne_zero (h : ch.isDigit = true) (hne : ch ≠ '0') : ch.toNat - '0'.toNat ≠ 0 := by
  intro hzero
  have hlow : '0'.toNat ≤ ch.toNat := (Char.isDigit_iff_toNat.1 h).1
  exact hne (Char.toNat_inj.1 (Nat.le_antisymm (Nat.sub_eq_zero_iff_le.1 hzero) hlow))

/-- Entering further digits makes a number no smaller. -/
theorem le_ofDigitChars (ds : List Char) (n : Nat) : n ≤ Nat.ofDigitChars 10 ds n := by
  rw [Nat.ofDigitChars_eq_ofDigitChars_zero]
  have hpos : 0 < 10 ^ ds.length := Nat.pow_pos (by decide)
  exact Nat.le_add_right_of_le (Nat.le_mul_of_pos_left n hpos)

/-- **Digits are entered up to their end** if their number is within the limit. -/
theorem digitsWithin_eq (limit : Nat) {acc : Nat} (count : Nat) (hds : ∀ d ∈ ds, d.isDigit = true)
    (hrest : ∀ d ∈ rest.head?, d.isDigit = false) (hlimit : Nat.ofDigitChars 10 ds acc ≤ limit)
    (h : c.rest = ds ++ rest) :
    ∃ c' : Cursor, c'.rest = rest ∧
      digitsWithin limit acc count c = (Nat.ofDigitChars 10 ds acc, count + ds.length, false, c') := by
  induction ds generalizing acc count c with
  | nil =>
      obtain ⟨ahead, line, column⟩ := c
      obtain rfl : ahead = rest := h
      refine ⟨⟨ahead, line, column⟩, rfl, ?_⟩
      cases ahead with
      | nil => rw [digitsWithin, Nat.ofDigitChars_nil, List.length_nil, Nat.add_zero]
      | cons ch rest =>
          rw [digitsWithin, digit?_eq_none (hrest ch rfl), Nat.ofDigitChars_nil, List.length_nil,
            Nat.add_zero]
          rfl
  | cons d ds ih =>
      obtain ⟨ahead, line, column⟩ := c
      obtain rfl : ahead = d :: (ds ++ rest) := h
      obtain ⟨hd, hds⟩ := List.forall_mem_cons.1 hds
      rw [Nat.ofDigitChars_cons, Nat.mul_comm] at hlimit
      obtain ⟨c', hc', hread⟩ := ih (count + 1) hds hlimit (c := ⟨ds ++ rest, line, column + 1⟩) rfl
      refine ⟨c', hc', ?_⟩
      have hwithin : ¬limit < acc * 10 + (d.toNat - '0'.toNat) :=
        Nat.not_lt.2 (Nat.le_trans (le_ofDigitChars ds _) hlimit)
      rw [digitsWithin, digit?_of_isDigit hd]
      simp only [if_neg hwithin, hread]
      rw [Nat.ofDigitChars_cons, Nat.mul_comm 10 acc, List.length_cons, Nat.add_assoc,
        Nat.add_comm 1]

/-- No number goes on where it ends, so it is whole. -/
theorem afterWhole_eq (negative : Bool) (n : Nat) (hends : Ends c.rest) :
    afterWhole negative n c = wholeNumber negative n c := by
  rw [afterWhole, Cursor.peek]
  cases hrest : c.rest with
  | nil => rfl
  | cons ch rest =>
      rcases hends ch (by rw [hrest]; rfl) with rfl | rfl | rfl <;> rfl

/-- A number other than zero is written without a zero in front. -/
theorem toDigits_eq_cons (hn : 0 < n) : ∃ d ds, Nat.toDigits 10 n = d :: ds ∧ d ≠ '0' := by
  -- the first digit is that of the number without its last one
  induction n using Nat.strongRecOn with
  | ind n ih =>
      by_cases hsmall : n < 10
      · refine ⟨_, _, Nat.toDigits_of_lt_base hsmall, ?_⟩
        have hdigits : ∀ k < 10, 0 < k → Nat.digitChar k ≠ '0' := by decide
        exact hdigits n hsmall hn
      · obtain ⟨d, ds, hds, hd⟩ := ih (n / 10) (by omega) (by omega)
        refine ⟨d, ds ++ [Nat.digitChar (n % 10)], ?_, hd⟩
        rw [Nat.toDigits_of_base_le (by decide) (by omega), hds, List.cons_append]

/-- **The digits of a number of 64 bits are read as the number.** -/
theorem number_eq (negative : Bool) (hn : n ≤ greatestWord) (hrest : Ends rest)
    (h : c.rest = Nat.toDigits 10 n ++ rest) :
    ∃ c' : Cursor, c'.rest = rest ∧ number negative c = wholeNumber negative n c' := by
  have hdigits : ∀ d ∈ Nat.toDigits 10 n, d.isDigit = true :=
    fun d hd => Nat.isDigit_of_mem_toDigits (by decide) (by decide) hd
  have hvalue : Nat.ofDigitChars 10 (Nat.toDigits 10 n) 0 = n := Nat.ofDigitChars_ten_toDigits
  -- zero is a number of its own, since no other one starts with it
  rcases Nat.eq_zero_or_pos n with rfl | hpos
  · have hbehind : c.advance.rest = rest := Cursor.rest_advance h
    refine ⟨c.advance, hbehind, ?_⟩
    have hnone : digitAhead? c.advance = none := by
      rw [digitAhead?, Cursor.peek, hbehind]
      cases rest with
      | nil => rfl
      | cons ch rest => exact digit?_eq_none (hrest.isDigit_eq_false ch rfl)
    rw [number, Cursor.peek_of_rest h]
    show (if (digitAhead? c.advance).isSome then _ else _) = _
    rw [hnone]
    exact afterWhole_eq negative 0 (hbehind ▸ hrest)
  · obtain ⟨d, ds, hds, hd⟩ := toDigits_eq_cons hpos
    rw [hds] at h hdigits hvalue
    obtain ⟨hdigit, htail⟩ := List.forall_mem_cons.1 hdigits
    rw [Nat.ofDigitChars_cons, Nat.mul_zero, Nat.zero_add] at hvalue
    obtain ⟨c', hc', hread⟩ := digitsWithin_eq greatestWord 0 htail hrest.isDigit_eq_false
      (hvalue ▸ hn) (Cursor.rest_advance h)
    refine ⟨c', hc', ?_⟩
    rw [hvalue] at hread
    obtain ⟨k, hk⟩ : ∃ k, d.toNat - '0'.toNat = k + 1 :=
      Nat.exists_eq_succ_of_ne_zero (value_ne_zero hdigit hd)
    rw [hk] at hread
    rw [number, Cursor.peek_of_rest h]
    simp only [digit?_of_isDigit hdigit, hk, hread, Bool.false_eq_true, if_false]
    exact afterWhole_eq negative n (hc' ▸ hrest)

/-! ## Values that are not nested -/

theorem plainValue?_of_isDigit (h : c.rest = ch :: rest) (hdigit : ch.isDigit = true) :
    plainValue? c = (number false c).map fun r => (some r.1, r.2) := by
  rw [plainValue?, Cursor.peek_of_rest h]
  split
  case h_9 heq =>
    cases heq
    exact if_pos hdigit
  case h_1 heq => cases heq
  all_goals
    rename_i heq
    cases heq
    cases hdigit

theorem plainValue?_null : Reads plainValue? (chars .null) (some .null) := by
  intro c rest _ h
  rw [plainValue?, Cursor.peek_of_rest h]
  exact word_advance_eq _ "ull".toList h

theorem plainValue?_bool (b : Bool) : Reads plainValue? (chars (.bool b)) (some (.bool b)) := by
  intro c rest _ h
  cases b with
  | true =>
      rw [plainValue?, Cursor.peek_of_rest h]
      exact word_advance_eq _ "rue".toList h
  | false =>
      rw [plainValue?, Cursor.peek_of_rest h]
      exact word_advance_eq _ "alse".toList h

/-- **An integer of 64 bits is read from its digits.** -/
theorem plainValue?_int {i : Int} (hleast : -9223372036854775808 ≤ i) (hgreatest : i ≤ greatestWord) :
    Reads plainValue? (chars (.int i)) (some (.int i)) := by
  intro c rest hrest h
  rw [chars, intText_eq] at h
  have hsize : i.natAbs ≤ greatestWord := by
    rw [greatestWord] at hgreatest ⊢
    omega
  -- the sign is read apart from the digits, and these are within the limit for either sign
  by_cases hi : i < 0
  · rw [decide_eq_true hi] at h
    obtain ⟨c', hc', hread⟩ := number_eq true hsize hrest (Cursor.rest_advance h)
    refine ⟨c', hc', ?_⟩
    have hrange : 0 < i.natAbs ∧ i.natAbs ≤ 9223372036854775808 := by omega
    have hvalue : -(i.natAbs : Int) = i := by omega
    rw [plainValue?, Cursor.peek_of_rest h]
    show (number true c.advance).map _ = _
    rw [hread, wholeNumber, if_pos rfl, if_pos hrange, hvalue, Except.map]
  · rw [decide_eq_false hi] at h
    obtain ⟨c', hc', hread⟩ := number_eq false hsize hrest h
    refine ⟨c', hc', ?_⟩
    obtain ⟨d, ds, hds, hd⟩ := startsWithDigit_toDigits i.natAbs
    have hvalue : (i.natAbs : Int) = i := by omega
    rw [plainValue?_of_isDigit (h.trans (congrArg (· ++ rest) hds)) hd, hread, wholeNumber,
      if_neg Bool.false_ne_true, hvalue, Except.map]

/-- A string is read from its opening mark to its closing mark. -/
theorem string_eq (k : String) (h : c.rest = stringText k ++ rest) :
    ∃ c' : Cursor, c'.rest = rest ∧ string c.advance = .ok (k, c') := by
  have hform : stringText k ++ rest = '"' :: (k.toList.flatMap escapeChar ++ '"' :: rest) := by
    simp only [stringText, List.append_assoc, List.cons_append, List.nil_append]
  exact string_stringText k (Cursor.rest_advance (h.trans hform))

theorem plainValue?_string (k : String) : Reads plainValue? (chars (.string k)) (some (.string k)) := by
  intro c rest _ h
  obtain ⟨c', hc', hread⟩ := string_eq k h
  refine ⟨c', hc', ?_⟩
  rw [plainValue?, Cursor.peek_of_rest h]
  show (string c.advance).map _ = _
  rw [hread, Except.map]

/-! ## Steps through a container -/

/-- A text starts like an item: with neither white space nor the end of an array. -/
def Starts (t : List Char) : Prop :=
  ∃ ch s, t = ch :: s ∧ Cursor.isSpace ch = false ∧ ch ≠ ']'

theorem starts_chars (v : Json) : Starts (chars v) := by
  obtain ⟨ch, s, hchars, hkind⟩ := kindAt?_chars v
  refine ⟨ch, s, hchars, ?_, ?_⟩
  · cases hspace : Cursor.isSpace ch with
    | false => rfl
    | true =>
        simp only [Cursor.isSpace, Bool.or_eq_true, beq_iff_eq] at hspace
        obtain ((rfl | rfl) | rfl) | rfl := hspace <;> cases hkind
  · rintro rfl
    cases hkind

/-- No white space stands before a value. -/
theorem skipSpace_of_chars {v : Json} (h : c.rest = chars v ++ rest) : c.skipSpace = c := by
  obtain ⟨ch, s, hchars, hspace, -⟩ := starts_chars v
  rw [hchars] at h
  exact Cursor.skipSpace_of_rest h hspace

/-- The next item of an array is found behind its comma, or at once if it is the first. -/
theorem nextItem_eq (first : Bool) (ht : Starts t)
    (h : c.rest = (if first then t else ',' :: t) ++ rest) :
    ∃ c' : Cursor, c'.rest = t ++ rest ∧ nextItem first c = .ok (true, c') := by
  obtain ⟨ch, s, rfl, hspace, hclose⟩ := ht
  cases first with
  | true =>
      refine ⟨c, h, ?_⟩
      rw [nextItem, Cursor.skipSpace_of_rest h hspace, Cursor.peek_of_rest h]
      split
      · next hend => cases hend
      · next hend =>
          cases hend
          exact absurd rfl hclose
      · rfl
  | false =>
      have hbehind : c.advance.rest = ch :: (s ++ rest) := Cursor.rest_advance h
      refine ⟨c.advance, hbehind, ?_⟩
      rw [nextItem, Cursor.skipSpace_of_rest h rfl, Cursor.peek_of_rest h]
      simp only [Bool.false_eq_true, if_false, Cursor.skipSpace_of_rest hbehind hspace,
        Cursor.peek_of_rest hbehind]
      rfl

theorem nextItem_end (first : Bool) (h : c.rest = ']' :: rest) : nextItem first c = .ok (false, c) := by
  rw [nextItem, Cursor.skipSpace_of_rest h rfl, Cursor.peek_of_rest h]
  rfl

/-- The next key of an object is found behind its comma, or at once if it is the first. -/
theorem nextKey_eq (first : Bool) (key : String) (s : List Char)
    (h : c.rest = (if first then stringText key ++ s else ',' :: (stringText key ++ s)) ++ rest) :
    ∃ c' : Cursor, c'.rest = stringText key ++ (s ++ rest) ∧ nextKey first c = .ok (true, c') := by
  rw [← List.append_assoc]
  cases first with
  | true =>
      refine ⟨c, h, ?_⟩
      rw [nextKey, Cursor.skipSpace_of_rest h rfl, Cursor.peek_of_rest h]
      rfl
  | false =>
      have hbehind : c.advance.rest = stringText key ++ s ++ rest := Cursor.rest_advance h
      refine ⟨c.advance, hbehind, ?_⟩
      rw [nextKey, Cursor.skipSpace_of_rest h rfl, Cursor.peek_of_rest h]
      simp only [Bool.false_eq_true, if_false, Cursor.skipSpace_of_rest hbehind rfl,
        Cursor.peek_of_rest hbehind]
      rfl

theorem nextKey_end (first : Bool) (h : c.rest = '\x7d' :: rest) :
    nextKey first c = .ok (false, c) := by
  rw [nextKey, Cursor.skipSpace_of_rest h rfl, Cursor.peek_of_rest h]
  rfl

theorem colon_eq (h : c.rest = ':' :: rest) : colon c = .ok ((), c.advance) := by
  rw [colon, Cursor.skipSpace_of_rest h rfl, Cursor.peek_of_rest h]
  rfl

theorem endList_eq (h : c.rest = ']' :: rest) : endList c = (none, c.advance) := by
  rw [endList, Cursor.skipSpace_of_rest h rfl, Cursor.peek_of_rest h]
  rfl

theorem endObject_eq (h : c.rest = '\x7d' :: rest) : endObject c = (none, c.advance) := by
  rw [endObject, Cursor.skipSpace_of_rest h rfl, Cursor.peek_of_rest h]
  rfl

theorem enter_eq {room : Nat} (hroom : 0 < room) (c : Cursor) :
    enter (room + 1) c = .ok (room, c.advance) := by
  rw [enter, if_neg (by omega)]
  rfl

/-! ## Arrays and objects -/

section Rounds

variable {room rounds : Nat} {items : List Json} {fields : Fields}

/-- **The items of an array are read one after the other**, if each of them is read. -/
theorem itemRounds_eq (first : Bool) (read : List Json)
    (hitems : ∀ v ∈ items, ∀ rounds, 2 * (chars v).length ≤ rounds →
      Reads (valueRounds rounds room) (chars v) v)
    (hrounds : 2 * (separated first (items.map chars)).length < rounds)
    (h : c.rest = separated first (items.map chars) ++ ']' :: rest) :
    ∃ c' : Cursor, c'.rest = ']' :: rest ∧
      itemRounds rounds room first read c = .ok (read.reverse ++ items, c') := by
  -- a round for each item and one for the end, and each item has at least one character
  obtain ⟨rounds, rfl⟩ := Nat.exists_eq_succ_of_ne_zero (Nat.ne_zero_of_lt hrounds)
  induction items generalizing first read rounds c with
  | nil =>
      refine ⟨c, h, ?_⟩
      rw [itemRounds, nextItem_end first h, List.append_nil]
      rfl
  | cons v items ih =>
      obtain ⟨hv, hitems⟩ := List.forall_mem_cons.1 hitems
      rw [List.map_cons] at hrounds h
      have hlength := length_separated_cons first (chars v) (items.map chars)
      have hpos := length_chars_pos v
      rw [separated_cons] at h
      obtain ⟨c₁, hrest₁, hnext⟩ := nextItem_eq first (starts_chars v) h
      obtain ⟨c₂, hrest₂, hvalue⟩ :=
        hv rounds (by omega) (ends_separated _ (.inl rfl)) hrest₁
      obtain ⟨rounds, rfl⟩ : ∃ k, rounds = k + 1 :=
        Nat.exists_eq_succ_of_ne_zero (by omega)
      obtain ⟨c₃, hrest₃, hrec⟩ := ih false (v :: read) hitems hrest₂ rounds (by omega)
      refine ⟨c₃, hrest₃, ?_⟩
      rw [itemRounds, hnext]
      simp only [bind, Except.bind, if_true, hvalue, hrec, List.reverse_cons, List.append_assoc,
        List.singleton_append]

/-- **The fields of an object are read one after the other**, if the value of each is read. -/
theorem fieldRounds_eq (first : Bool) (read : Fields) (hsorted : Fields.Ascending (read ++ fields))
    (hfields : ∀ f ∈ fields, ∀ rounds, 2 * (chars f.2).length ≤ rounds →
      Reads (valueRounds rounds room) (chars f.2) f.2)
    (hrounds : 2 * (separated first (fields.map fieldText)).length < rounds)
    (h : c.rest = separated first (fields.map fieldText) ++ '\x7d' :: rest) :
    ∃ c' : Cursor, c'.rest = '\x7d' :: rest ∧
      fieldRounds rounds room first read c = .ok (read ++ fields, c') := by
  obtain ⟨rounds, rfl⟩ := Nat.exists_eq_succ_of_ne_zero (Nat.ne_zero_of_lt hrounds)
  induction fields generalizing first read rounds c with
  | nil =>
      refine ⟨c, h, ?_⟩
      rw [fieldRounds, nextKey_end first h, List.append_nil]
      rfl
  | cons f fields ih =>
      obtain ⟨key, v⟩ := f
      have hv : ∀ rounds, 2 * (chars v).length ≤ rounds → Reads (valueRounds rounds room) (chars v) v :=
        hfields (key, v) List.mem_cons_self
      rw [List.map_cons] at hrounds h
      have hlength := length_separated_cons first (fieldText (key, v)) (fields.map fieldText)
      have hfield : (fieldText (key, v)).length = (stringText key).length + 1 + (chars v).length := by
        simp only [fieldText, List.length_append, List.length_cons]
        omega
      have hpos := length_chars_pos v
      rw [separated_cons] at h
      -- the key, the colon, the value, and the fields behind them
      obtain ⟨c₁, hrest₁, hnext⟩ := nextKey_eq first key (':' :: chars v) h
      obtain ⟨c₂, hrest₂, hkey⟩ := string_eq key hrest₁
      have hcolon := colon_eq hrest₂
      obtain ⟨c₃, hrest₃, hvalue⟩ :=
        hv rounds (by omega) (ends_separated _ (.inr rfl)) (Cursor.rest_advance hrest₂)
      have hinsert : read.insert key v = read ++ [(key, v)] := by
        refine Fields.insert_eq_append fun f hf => ?_
        exact (List.pairwise_append.1 hsorted).2.2 f hf (key, v) List.mem_cons_self
      obtain ⟨rounds, rfl⟩ : ∃ k, rounds = k + 1 :=
        Nat.exists_eq_succ_of_ne_zero (by omega)
      have hrest : Fields.Ascending (read ++ [(key, v)] ++ fields) := by
        rwa [List.append_assoc, List.singleton_append]
      obtain ⟨c₄, hrest₄, hrec⟩ :=
        ih false _ hrest (fun f hf => hfields f (List.mem_cons_of_mem _ hf)) hrest₃ rounds (by omega)
      refine ⟨c₄, hrest₄, ?_⟩
      rw [fieldRounds, hnext]
      simp only [bind, Except.bind, if_true, hkey, hcolon, hvalue, hinsert, hrec, List.append_assoc,
        List.singleton_append]

end Rounds

/-- A value at its first character is read in one round if it is not nested. -/
theorem reads_of_plainValue? {room rounds : Nat} {v : Json} (h : Reads plainValue? (chars v) (some v))
    (hrounds : 0 < rounds) : Reads (valueRounds rounds room) (chars v) v := by
  intro c rest hrest htext
  obtain ⟨rounds, rfl⟩ := Nat.exists_eq_succ_of_ne_zero (Nat.ne_zero_of_lt hrounds)
  obtain ⟨c', hc', hread⟩ := h hrest htext
  refine ⟨c', hc', ?_⟩
  rw [valueRounds, skipSpace_of_chars htext]
  simp only [hread, bind, Except.bind]

/-- **An array is read** if each of its items is. -/
theorem reads_array {room rounds : Nat} {items : List Json} (hroom : 0 < room)
    (hitems : ∀ v ∈ items, ∀ rounds, 2 * (chars v).length ≤ rounds →
      Reads (valueRounds rounds room) (chars v) v)
    (hrounds : 2 * (chars (.array items)).length ≤ rounds) :
    Reads (valueRounds rounds (room + 1)) (chars (.array items)) (.array items) := by
  intro c rest hrest htext
  have hlength : (chars (.array items)).length = (separated true (items.map chars)).length + 2 := by
    simp only [chars_array, List.length_cons, List.length_append, List.length_nil]
  obtain ⟨rounds, rfl⟩ : ∃ k, rounds = k + 1 := Nat.exists_eq_succ_of_ne_zero (by omega)
  have hform : c.rest = '[' :: (separated true (items.map chars) ++ ']' :: rest) := by
    rw [htext, chars_array, List.cons_append, List.append_assoc, List.singleton_append]
  have henough : 2 * (separated true (items.map chars)).length < rounds := by omega
  obtain ⟨c', hc', hread⟩ := itemRounds_eq true [] hitems henough (Cursor.rest_advance hform)
  refine ⟨c'.advance, Cursor.rest_advance hc', ?_⟩
  have hplain : plainValue? c = .ok (none, c) := by
    rw [plainValue?, Cursor.peek_of_rest hform]
    rfl
  have hbracket : (c.peek == some '[') = true := by
    rw [Cursor.peek_of_rest hform]
    rfl
  rw [valueRounds, Cursor.skipSpace_of_rest hform rfl]
  simp only [hplain, hbracket, enter_eq hroom, hread, bind, Except.bind, if_true, closing,
    endList_eq hc', List.reverse_nil, List.nil_append]

/-- **An object is read** if the value of each of its fields is, and the keys ascend. -/
theorem reads_object {room rounds : Nat} {fields : Fields} (hroom : 0 < room)
    (hsorted : fields.Ascending)
    (hfields : ∀ f ∈ fields, ∀ rounds, 2 * (chars f.2).length ≤ rounds →
      Reads (valueRounds rounds room) (chars f.2) f.2)
    (hrounds : 2 * (chars (.object fields)).length ≤ rounds) :
    Reads (valueRounds rounds (room + 1)) (chars (.object fields)) (.object fields) := by
  intro c rest hrest htext
  have hlength : (chars (.object fields)).length =
      (separated true (fields.map fieldText)).length + 2 := by
    simp only [chars_object, List.length_cons, List.length_append, List.length_nil]
  obtain ⟨rounds, rfl⟩ : ∃ k, rounds = k + 1 := Nat.exists_eq_succ_of_ne_zero (by omega)
  have hform : c.rest = '\x7b' :: (separated true (fields.map fieldText) ++ '\x7d' :: rest) := by
    rw [htext, chars_object, List.cons_append, List.append_assoc, List.singleton_append]
  have henough : 2 * (separated true (fields.map fieldText)).length < rounds := by omega
  obtain ⟨c', hc', hread⟩ := fieldRounds_eq true [] hsorted hfields henough (Cursor.rest_advance hform)
  refine ⟨c'.advance, Cursor.rest_advance hc', ?_⟩
  have hplain : plainValue? c = .ok (none, c) := by
    rw [plainValue?, Cursor.peek_of_rest hform]
    rfl
  have hbracket : (c.peek == some '[') = false := by
    rw [Cursor.peek_of_rest hform]
    rfl
  rw [valueRounds, Cursor.skipSpace_of_rest hform rfl]
  simp only [hplain, hbracket, enter_eq hroom, hread, bind, Except.bind, Bool.false_eq_true, if_false,
    closing, endObject_eq hc', List.nil_append]

/-! ## Readers of one form -/

theorem name_reads (s : String) : name.Reads (stringText s) s := by
  intro c rest _ h
  obtain ⟨c', hc', hread⟩ := string_eq s h
  refine ⟨c', hc', ?_⟩
  rw [name, Cursor.skipSpace_of_rest h rfl, Cursor.peek_of_rest h]
  exact hread

theorem flag_reads (b : Bool) : flag.Reads (chars (.bool b)) b := by
  intro c rest _ h
  cases b with
  | true =>
      rw [flag, Cursor.skipSpace_of_rest h rfl, Cursor.peek_of_rest h]
      exact word_advance_eq _ "rue".toList h
  | false =>
      rw [flag, Cursor.skipSpace_of_rest h rfl, Cursor.peek_of_rest h]
      exact word_advance_eq _ "alse".toList h

/-- A value that is not null is read where null may stand. -/
theorem option_reads {item : Scan α} {v : Json} (hv : v ≠ .null) (h : item.Reads (chars v) a) :
    (option item).Reads (chars v) (some a) := by
  intro c rest hrest htext
  obtain ⟨c', hc', hread⟩ := h hrest htext
  refine ⟨c', hc', ?_⟩
  obtain ⟨ch, s, hchars, hkind⟩ := kindAt?_chars v
  have hfirst : c.peek = some ch := Cursor.peek_of_rest (htext.trans (congrArg (· ++ rest) hchars))
  rw [option, skipSpace_of_chars htext, hfirst]
  split
  · next hnull =>
      -- only null starts with its first letter
      cases hnull
      cases v with
      | null => exact absurd rfl hv
      | _ => cases hkind
  · rw [hread, Except.map]

section List

variable {β : Type} {item : Scan α} {write : β → List Char} {result : β → α} {items : List β}
variable {rounds : Nat}

/-- The items of an array are read in the same way, if each of them is read so. -/
theorem listRounds_eq (first : Bool) (read : List α)
    (hitems : ∀ b ∈ items, Starts (write b) ∧ item.Reads (write b) (result b))
    (hrounds : (separated first (items.map write)).length < rounds)
    (h : c.rest = separated first (items.map write) ++ ']' :: rest) :
    ∃ c' : Cursor, c'.rest = ']' :: rest ∧
      listRounds item rounds first read c = .ok (read.reverse ++ items.map result, c') := by
  obtain ⟨rounds, rfl⟩ := Nat.exists_eq_succ_of_ne_zero (Nat.ne_zero_of_lt hrounds)
  induction items generalizing first read rounds c with
  | nil =>
      refine ⟨c, h, ?_⟩
      rw [listRounds, nextItem_end first h, List.map_nil, List.append_nil]
      rfl
  | cons b items ih =>
      obtain ⟨⟨hstarts, hreads⟩, hitems⟩ := List.forall_mem_cons.1 hitems
      rw [List.map_cons] at hrounds h
      have hlength := length_separated_cons first (write b) (items.map write)
      have hpos : 0 < (write b).length := by
        obtain ⟨ch, s, hwrite, -⟩ := hstarts
        rw [hwrite]
        exact Nat.succ_pos _
      rw [separated_cons] at h
      obtain ⟨c₁, hrest₁, hnext⟩ := nextItem_eq first hstarts h
      obtain ⟨c₂, hrest₂, hvalue⟩ := hreads (ends_separated _ (.inl rfl)) hrest₁
      obtain ⟨rounds, rfl⟩ : ∃ k, rounds = k + 1 :=
        Nat.exists_eq_succ_of_ne_zero (by omega)
      obtain ⟨c₃, hrest₃, hrec⟩ := ih false (result b :: read) hitems hrest₂ rounds (by omega)
      refine ⟨c₃, hrest₃, ?_⟩
      rw [listRounds, hnext]
      simp only [bind, Except.bind, if_true, hvalue, hrec, List.reverse_cons, List.append_assoc,
        List.singleton_append, List.map_cons]

/-- **A list is read from the texts of its items**, if each of them is read. -/
theorem list_reads (item : Nat → Scan α) {room : Nat} (hroom : 0 < room)
    (hitems : ∀ b ∈ items, Starts (write b) ∧ (item room).Reads (write b) (result b)) :
    (list item (room + 1)).Reads ('[' :: (separated true (items.map write) ++ [']']))
      (items.map result) := by
  intro c rest hrest htext
  have hform : c.rest = '[' :: (separated true (items.map write) ++ ']' :: rest) := by
    rw [htext, List.cons_append, List.append_assoc, List.singleton_append]
  have hbehind := Cursor.rest_advance hform
  have henough : (separated true (items.map write)).length < c.advance.rest.length + 1 := by
    rw [hbehind, List.length_append]
    omega
  obtain ⟨c', hc', hread⟩ := listRounds_eq true [] hitems henough hbehind
  refine ⟨c'.advance, Cursor.rest_advance hc', ?_⟩
  rw [list, Cursor.skipSpace_of_rest hform rfl, Cursor.peek_of_rest hform]
  simp only [enter_eq hroom, hread, bind, Except.bind, closing, endList_eq hc', List.reverse_nil,
    List.nil_append]

end List

end Scan

/-! ## Values that a text can say everything of -/

/-- A value that is read again from its compact text, within the given room: its integers are of 64
bits, it has no floating point numbers, its keys ascend and it is not nested too deep. -/
inductive Exact : Nat → Json → Prop where
  | null (room : Nat) : Exact room .null
  | bool (room : Nat) (b : Bool) : Exact room (.bool b)
  | int (room : Nat) (i : Int) (hleast : -9223372036854775808 ≤ i)
      (hgreatest : i ≤ Scan.greatestWord) : Exact room (.int i)
  | string (room : Nat) (s : String) : Exact room (.string s)
  | array (room : Nat) (items : List Json) (hroom : 0 < room) (h : ∀ v ∈ items, Exact room v) :
      Exact (room + 1) (.array items)
  | object (room : Nat) (fields : Fields) (hroom : 0 < room) (hsorted : fields.Ascending)
      (h : ∀ f ∈ fields, Exact room f.2) : Exact (room + 1) (.object fields)

namespace Exact

variable {room : Nat} {v : Json}

/-- With rounds enough, an exact value is read from its compact text, whatever follows. -/
theorem valueRounds_reads (h : Exact room v) :
    ∀ rounds, 2 * (chars v).length ≤ rounds → (Scan.valueRounds rounds room).Reads (chars v) v := by
  have hpos (v : Json) {rounds : Nat} (h : 2 * (chars v).length ≤ rounds) : 0 < rounds := by
    have := length_chars_pos v
    omega
  -- the parts of a container are read in the rounds that its brackets leave
  induction h with
  | null room =>
      exact fun rounds hrounds => Scan.reads_of_plainValue? Scan.plainValue?_null (hpos _ hrounds)
  | bool room b =>
      exact fun rounds hrounds => Scan.reads_of_plainValue? (Scan.plainValue?_bool b) (hpos _ hrounds)
  | int room i hleast hgreatest =>
      exact fun rounds hrounds =>
        Scan.reads_of_plainValue? (Scan.plainValue?_int hleast hgreatest) (hpos _ hrounds)
  | string room s =>
      exact fun rounds hrounds => Scan.reads_of_plainValue? (Scan.plainValue?_string s) (hpos _ hrounds)
  | array room items hroom _ ih => exact fun rounds hrounds => Scan.reads_array hroom ih hrounds
  | object room fields hroom hsorted _ ih =>
      exact fun rounds hrounds => Scan.reads_object hroom hsorted ih hrounds

/-- **An exact value is read from its compact text**, whatever follows. -/
theorem reads (h : Exact room v) : (Scan.value room).Reads (chars v) v := by
  intro c rest hrest htext
  refine h.valueRounds_reads _ ?_ hrest htext
  rw [htext, List.length_append]
  omega

/-- **The compact text of an exact value is read as the value.** -/
theorem ofText_compact (h : Exact room v) : ofText room v.compact = .ok v := by
  refine Scan.Reads.whole ?_
  rw [compact, String.toList_ofList]
  exact h.reads

end Exact

end TestBench.Json
