import Mathlib.Data.Nat.Digits.Defs
import TestBench.Proofs.IdText

/-!
# Which texts are identifiers

This module says of every text what reading makes of it, without the scan that reads it. A text is
read just if it is the tag of the kind, an underscore and 26 digits (`Ulid.IsNumeral`), and its number
is the one that the digits stand for in base 32 (`Ulid.number`), without what is beyond 128 bits. Every
other text is at fault in exactly one of four ways.

`Id.shape_cases` takes a text apart: it is empty, it has no separator, another tag stands before the
first separator, or the right one. For each shape there is one lemma that says what is read, and
`Id.ofText_classified` puts them together.
-/

set_option autoImplicit false

namespace TestBench

namespace Ulid

variable {c : Char} {cs : List Char} {acc : Nat} {t : String} {u : Ulid} {f : Fault}

/-! ## Digits and their number -/

/-- Whether a character is a digit of base 32: a decimal digit, or a letter of either case other than
`I`, `L`, `O` and `U`. -/
def IsDigit (c : Char) : Prop :=
  c.isDigit = true ∨ c.isAlpha = true ∧ c.toUpper ∉ ['I', 'L', 'O', 'U']

instance : DecidablePred IsDigit := fun _ => inferInstanceAs (Decidable (_ ∨ _))

/-- Whether a text has as many characters as an identifier, all of them digits. -/
def IsNumeral (t : String) : Prop := t.toList.length = width ∧ ∀ c ∈ t.toList, IsDigit c

instance : DecidablePred IsNumeral := fun t =>
  have := List.decidableBAll IsDigit t.toList
  inferInstanceAs (Decidable (_ ∧ _))

/-- The value of a digit: its place among the digits. -/
def weight (c : Char) : Nat := alphabet.idxOf c.toUpper

/-- The number that digits stand for, the most significant one first. -/
def number (cs : List Char) : Nat := Nat.ofDigits 32 (cs.reverse.map weight)

/-- **The alphabet has exactly the digits**, in their capital form. -/
theorem toUpper_mem_alphabet_iff : c.toUpper ∈ alphabet ↔ IsDigit c := by
  by_cases hascii : c.toNat < 128
  · -- the characters of one byte are compared one by one
    have hall : ∀ n : Fin 128, (Char.ofNat n).toUpper ∈ alphabet ↔ IsDigit (Char.ofNat n) := by
      decide +kernel
    have hc := hall ⟨c.toNat, hascii⟩
    rwa [Char.ofNat_toNat] at hc
  · -- beyond them there are neither digits nor letters
    have hall : ∀ d ∈ alphabet, d.toNat < 128 := by
      have hbytes : (alphabet.all fun d => decide (d.toNat < 128)) = true := by decide
      simpa only [List.all_eq_true, decide_eq_true_iff] using hbytes
    have hlarge : 128 ≤ c.val.toNat := Nat.le_of_not_lt hascii
    have hupper : c.toUpper = c := by
      delta Char.toUpper
      refine dif_neg fun hlower => ?_
      have := UInt32.le_iff_toNat_le.1 hlower.2
      have hz : ('z' : Char).val.toNat = 122 := rfl
      omega
    refine iff_of_false ?_ ?_
    · rw [hupper]
      exact fun hmem => hascii (hall c hmem)
    · have hnine : ('9' : Char).val.toNat = 57 := rfl
      have hZ : ('Z' : Char).val.toNat = 90 := rfl
      have hz : ('z' : Char).val.toNat = 122 := rfl
      delta IsDigit Char.isDigit Char.isAlpha Char.isUpper Char.isLower
      simp only [Bool.and_eq_true, Bool.or_eq_true, decide_eq_true_eq, UInt32.le_iff_toNat_le,
        ge_iff_le]
      omega

/-- A character has a value if it is a digit, and the value is its weight. -/
theorem digitValue?_eq (c : Char) :
    digitValue? c = if IsDigit c then some (weight c) else none := by
  by_cases hdigit : IsDigit c
  · have hmem : c.toUpper ∈ alphabet := toUpper_mem_alphabet_iff.2 hdigit
    have hlt : weight c < alphabet.length := List.idxOf_lt_length_of_mem hmem
    rw [if_pos hdigit, digitValue?_eq_some_iff]
    refine ⟨hlt, ?_⟩
    rw [digit, List.getD_eq_getElem?_getD, List.getElem?_eq_getElem hlt, Option.getD_some]
    exact (List.getElem_idxOf hlt).symm
  · rw [if_neg hdigit, digitValue?, List.idxOf?_eq_none_iff]
    exact fun hmem => hdigit (toUpper_mem_alphabet_iff.1 hmem)

theorem number_cons (c : Char) (cs : List Char) :
    number (c :: cs) = weight c * 32 ^ cs.length + number cs := by
  rw [number, List.map_reverse, List.map_cons, Nat.ofDigits_reverse_cons, List.length_map, number,
    List.map_reverse, Nat.mul_comm, Nat.add_comm]

/-- **Digits are read as their number**, behind what was read before. -/
theorem valueFrom?_eq (acc : Nat) (h : ∀ c ∈ cs, IsDigit c) :
    valueFrom? acc cs = some (acc * 32 ^ cs.length + number cs) := by
  induction cs generalizing acc with
  | nil => simp [valueFrom?, number]
  | cons c cs ih =>
      obtain ⟨hc, hcs⟩ := List.forall_mem_cons.1 h
      have hshift : (acc * 32 + weight c) * 32 ^ cs.length + number cs =
          acc * 32 ^ (cs.length + 1) + (weight c * 32 ^ cs.length + number cs) := by
        rw [pow_succ]
        ring
      rw [valueFrom?, digitValue?_eq, if_pos hc, Option.bind_some, ih _ hcs, number_cons, hshift,
        List.length_cons]

/-- Nothing but digits is read. -/
theorem forall_isDigit_of_valueFrom? {v : Nat} (h : valueFrom? acc cs = some v) :
    ∀ c ∈ cs, IsDigit c := by
  induction cs generalizing acc with
  | nil => exact fun _ hc => absurd hc List.not_mem_nil
  | cons c cs ih =>
      obtain ⟨d, hd, hrest⟩ := Option.bind_eq_some_iff.1 h
      refine List.forall_mem_cons.2 ⟨?_, ih hrest⟩
      rw [digitValue?_eq] at hd
      by_contra hc
      rw [if_neg hc] at hd
      cases hd

/-! ## Texts of digits -/

/-- **A text is read as a ULID just if it has 26 characters that are digits**, and the ULID is their
number without what is beyond 128 bits. -/
theorem ofText_eq_ok_iff_isNumeral :
    ofText t = .ok u ↔ IsNumeral t ∧ u = BitVec.ofNat 128 (number t.toList) := by
  rw [← String.ofList_toList (s := t), ofText_eq_ok_iff, String.ofList_toList, IsNumeral]
  constructor
  · rintro ⟨hlength, v, hv, rfl⟩
    have hdigits := forall_isDigit_of_valueFrom? hv
    rw [valueFrom?_eq 0 hdigits, Nat.zero_mul, Nat.zero_add, Option.some.injEq] at hv
    exact ⟨⟨hlength, hdigits⟩, by rw [hv]⟩
  · rintro ⟨⟨hlength, hdigits⟩, rfl⟩
    refine ⟨hlength, number t.toList, ?_, rfl⟩
    rw [valueFrom?_eq 0 hdigits, Nat.zero_mul, Nat.zero_add]

/-- **Any other text has a wrong length in bytes**, or a character that is no digit. -/
theorem ofText_eq_error_iff :
    ofText t = .error f ↔
      ¬IsNumeral t ∧ f = if t.utf8ByteSize = width then .character else .length := by
  by_cases hnumeral : IsNumeral t
  · rw [ofText_eq_ok_iff_isNumeral.2 ⟨hnumeral, rfl⟩]
    simp [hnumeral]
  · cases hread : ofText t with
    | ok u => exact absurd (ofText_eq_ok_iff_isNumeral.1 hread).1 hnumeral
    | error e =>
        have he : e = if t.utf8ByteSize = width then .character else .length := by
          rw [ofText] at hread
          split at hread
          · next hbytes =>
              split at hread
              · cases hread
              · cases hread
                rw [if_pos hbytes]
          · next hbytes =>
              cases hread
              rw [if_neg hbytes]
        rw [Except.error.injEq, he]
        simp only [hnumeral, not_false_eq_true, true_and]
        exact eq_comm

end Ulid

namespace Id

variable {kind : Kind} {i : Id kind} {s front rest : String}

/-! ## The shape of a text -/

/-- What stands before the first separator of a text. -/
def Leads (front s : String) : Prop := '_' ∉ front.toList ∧ ∃ rest, s = front ++ "_" ++ rest

theorem append_separator (front rest : String) :
    front ++ "_" ++ rest = String.ofList (front.toList ++ '_' :: rest.toList) := by
  simp [String.ofList_append, String.append_assoc]

/-- The scan for the separator stops at underscores. -/
theorem forall_ne_separator_iff {cs : List Char} :
    (∀ c ∈ cs, (c != '_') = true) ↔ '_' ∉ cs := by
  simp only [bne_iff_ne]
  constructor
  · intro h hmem
    exact h '_' hmem rfl
  · rintro h c hc rfl
    exact h hc

/-- **A text has one of four shapes**: it is empty, it has no separator, another tag leads it, or the
right tag does. -/
theorem shape_cases (kind : Kind) (s : String) :
    s = "" ∨ (s ≠ "" ∧ '_' ∉ s.toList) ∨ (∃ front, Leads front s ∧ front ≠ kind.tag) ∨
      ∃ rest, s = kind.tag ++ "_" ++ rest := by
  obtain ⟨front, rest, hfront, rfl⟩ | hnone := exists_separated_or s
  · have htext := append_separator (String.ofList front) (String.ofList rest)
    rw [String.toList_ofList, String.toList_ofList] at htext
    rw [← htext]
    by_cases htag : String.ofList front = kind.tag
    · exact .inr (.inr (.inr ⟨String.ofList rest, by rw [htag]⟩))
    · refine .inr (.inr (.inl ⟨String.ofList front, ⟨?_, _, rfl⟩, htag⟩))
      rwa [String.toList_ofList, ← forall_ne_separator_iff]
  · rw [forall_ne_separator_iff] at hnone
    by_cases hempty : s = ""
    · exact .inl hempty
    · exact .inr (.inl ⟨hempty, hnone⟩)

/-! ## What is read -/

/-- **What reading makes of a text**, one rule for each outcome. -/
inductive Reading (kind : Kind) : String → Except Fault (Id kind) → Prop where
  /-- There is nothing to read. -/
  | empty : Reading kind "" (.error .empty)
  /-- There is a text, and no separator in it. -/
  | noSeparator {s : String} (hs : s ≠ "") (h : '_' ∉ s.toList) :
      Reading kind s (.error .noSeparator)
  /-- Something else than the tag stands before the first separator. -/
  | wrongTag {front s : String} (h : Leads front s) (hne : front ≠ kind.tag) :
      Reading kind s (.error (.wrongTag kind.tag front))
  /-- The tag leads a text that is no ULID. -/
  | notUlid {t : String} {f : Ulid.Fault} (h : Ulid.ofText t = .error f) :
      Reading kind (kind.tag ++ "_" ++ t) (.error (.notUlid f))
  /-- The tag leads a ULID. -/
  | identifier {t : String} {u : Ulid} (h : Ulid.ofText t = .ok u) :
      Reading kind (kind.tag ++ "_" ++ t) (.ok ⟨u⟩)

theorem ofText_of_notMem (kind : Kind) (hs : s ≠ "") (h : '_' ∉ s.toList) :
    ofText kind s = .error .noSeparator := by
  have hnonempty : s.isEmpty = false := by simpa using hs
  have hdrop : s.toList.dropWhile (· != '_') = [] :=
    List.dropWhile_eq_nil_iff.2 (forall_ne_separator_iff.2 h)
  simp only [ofText, hnonempty, hdrop, Bool.false_eq_true, if_false]

theorem ofText_of_leads (kind : Kind) (h : Leads front s) (hne : front ≠ kind.tag) :
    ofText kind s = .error (.wrongTag kind.tag front) := by
  obtain ⟨hfront, rest, rfl⟩ := h
  rw [append_separator, ofText_separated kind (forall_ne_separator_iff.2 hfront),
    String.ofList_toList, if_neg hne]

theorem ofText_tagged (kind : Kind) (t : String) :
    ofText kind (kind.tag ++ "_" ++ t) =
      match Ulid.ofText t with
      | .ok u => .ok ⟨u⟩
      | .error e => .error (.notUlid e) := by
  rw [append_separator, ofText_separated kind (ne_separator_of_mem_tag kind), String.ofList_toList,
    String.ofList_toList]
  exact if_pos rfl

/-- Every text is read by one of the rules. -/
theorem reading_ofText (kind : Kind) (s : String) : Reading kind s (ofText kind s) := by
  obtain rfl | ⟨hs, hnone⟩ | ⟨front, hfront, hne⟩ | ⟨t, rfl⟩ := shape_cases kind s
  · exact .empty
  · rw [ofText_of_notMem kind hs hnone]
    exact .noSeparator hs hnone
  · rw [ofText_of_leads kind hfront hne]
    exact .wrongTag hfront hne
  · rw [ofText_tagged]
    cases ht : Ulid.ofText t with
    | ok u => exact .identifier ht
    | error f => exact .notUlid ht

/-- **The rules say all about reading**: what they allow is what is read. -/
theorem ofText_eq_iff_reading {r : Except Fault (Id kind)} : ofText kind s = r ↔ Reading kind s r := by
  constructor
  · rintro rfl
    exact reading_ofText kind s
  · intro h
    cases h with
    | empty => rfl
    | noSeparator hs hnone => exact ofText_of_notMem kind hs hnone
    | wrongTag hfront hne => exact ofText_of_leads kind hfront hne
    | notUlid ht => rw [ofText_tagged, ht]
    | identifier ht => rw [ofText_tagged, ht]

/-! ## The texts of each outcome -/

theorem ofText_eq_ok_iff_isNumeral :
    ofText kind s = .ok i ↔
      ∃ t, s = kind.tag ++ "_" ++ t ∧ Ulid.IsNumeral t ∧
        i.ulid = BitVec.ofNat 128 (Ulid.number t.toList) := by
  simp only [ofText_eq_ok_iff, Ulid.ofText_eq_ok_iff_isNumeral]

theorem ofText_eq_empty_iff : ofText kind s = .error .empty ↔ s = "" := by
  rw [ofText_eq_iff_reading]
  constructor
  · intro h
    cases h
    rfl
  · rintro rfl
    exact .empty

theorem ofText_eq_noSeparator_iff :
    ofText kind s = .error .noSeparator ↔ s ≠ "" ∧ '_' ∉ s.toList := by
  rw [ofText_eq_iff_reading]
  constructor
  · intro h
    cases h with
    | noSeparator hs hnone => exact ⟨hs, hnone⟩
  · rintro ⟨hs, hnone⟩
    exact .noSeparator hs hnone

theorem ofText_eq_wrongTag_iff {expected actual : String} :
    ofText kind s = .error (.wrongTag expected actual) ↔
      expected = kind.tag ∧ actual ≠ kind.tag ∧ Leads actual s := by
  rw [ofText_eq_iff_reading]
  constructor
  · intro h
    cases h with
    | wrongTag hfront hne => exact ⟨rfl, hne, hfront⟩
  · rintro ⟨rfl, hne, hfront⟩
    exact .wrongTag hfront hne

theorem ofText_eq_notUlid_iff {f : Ulid.Fault} :
    ofText kind s = .error (.notUlid f) ↔
      ∃ t, s = kind.tag ++ "_" ++ t ∧ ¬Ulid.IsNumeral t ∧
        f = if t.utf8ByteSize = Ulid.width then .character else .length := by
  rw [ofText_eq_iff_reading]
  constructor
  · intro h
    cases h with
    | notUlid ht => exact ⟨_, rfl, Ulid.ofText_eq_error_iff.1 ht⟩
  · rintro ⟨t, rfl, ht⟩
    exact .notUlid (Ulid.ofText_eq_error_iff.2 ht)

/-- The tags tell the kinds apart, so no text is read as both. -/
theorem kind_eq_of_ofText {kind' : Kind} {j : Id kind'} (hi : ofText kind s = .ok i)
    (hj : ofText kind' s = .ok j) : kind = kind' := by
  obtain ⟨t, ht, -⟩ := ofText_eq_ok_iff.1 hi
  obtain ⟨t', ht', -⟩ := ofText_eq_ok_iff.1 hj
  -- the tags have one length, so they are the same beginning of the text
  have hlength (k : Kind) : k.tag.toList.length = 3 := by cases k <;> rfl
  have htext : kind.tag.toList ++ "_".toList ++ t.toList =
      kind'.tag.toList ++ "_".toList ++ t'.toList := by
    rw [← String.toList_append, ← String.toList_append, ← ht, ht', String.toList_append,
      String.toList_append]
  rw [List.append_assoc, List.append_assoc] at htext
  have htag := (List.append_inj htext ((hlength kind).trans (hlength kind').symm)).1
  cases kind <;> cases kind' <;> first | rfl | exact absurd htag (by decide)

/-- **Which texts are identifiers, and what is wrong with the others.** A text is read just if it is the
tag of the kind, a separator and 26 digits, as the number of the digits without what is beyond 128
bits. Otherwise there is one fault: the text is empty; there is no separator in it; what stands before
the first separator is not the tag; or the tag is followed by something that is not 26 digits, which
has a wrong length if it has not 26 bytes, and a wrong character if it has. These are all texts there
are, and none is read as of two kinds. -/
theorem ofText_classified (kind : Kind) (s : String) :
    (∀ i : Id kind, ofText kind s = .ok i ↔
      ∃ t, s = kind.tag ++ "_" ++ t ∧ Ulid.IsNumeral t ∧
        i.ulid = BitVec.ofNat 128 (Ulid.number t.toList)) ∧
    (ofText kind s = .error .empty ↔ s = "") ∧
    (ofText kind s = .error .noSeparator ↔ s ≠ "" ∧ '_' ∉ s.toList) ∧
    (∀ expected actual, ofText kind s = .error (.wrongTag expected actual) ↔
      expected = kind.tag ∧ actual ≠ kind.tag ∧ Leads actual s) ∧
    (∀ f : Ulid.Fault, ofText kind s = .error (.notUlid f) ↔
      ∃ t, s = kind.tag ++ "_" ++ t ∧ ¬Ulid.IsNumeral t ∧
        f.message = if t.utf8ByteSize = 26 then "invalid character" else "invalid length") ∧
    ((∃ t, s = kind.tag ++ "_" ++ t ∧ Ulid.IsNumeral t) ∨ s = "" ∨ (s ≠ "" ∧ '_' ∉ s.toList) ∨
      (∃ actual, actual ≠ kind.tag ∧ Leads actual s) ∨
      ∃ t, s = kind.tag ++ "_" ++ t ∧ ¬Ulid.IsNumeral t) ∧
    ∀ (kind' : Kind) (i : Id kind) (j : Id kind'),
      ofText kind s = .ok i → ofText kind' s = .ok j → kind = kind' := by
  refine ⟨fun i => ofText_eq_ok_iff_isNumeral, ofText_eq_empty_iff, ofText_eq_noSeparator_iff,
    fun expected actual => ofText_eq_wrongTag_iff, fun f => ?_, ?_,
    fun kind' i j => kind_eq_of_ofText⟩
  · -- the two faults of a ULID are told apart by their wording
    have hmessage (t : String) :
        (f = if t.utf8ByteSize = Ulid.width then .character else .length) ↔
          f.message = if t.utf8ByteSize = 26 then "invalid character" else "invalid length" := by
      rw [Ulid.width]
      split <;> cases f <;> simp [Ulid.Fault.message]
    simp only [ofText_eq_notUlid_iff, hmessage]
  · obtain hempty | hnone | ⟨front, hfront, hne⟩ | ⟨t, ht⟩ := shape_cases kind s
    · exact .inr (.inl hempty)
    · exact .inr (.inr (.inl hnone))
    · exact .inr (.inr (.inr (.inl ⟨front, hne, hfront⟩)))
    · by_cases hnumeral : Ulid.IsNumeral t
      · exact .inl ⟨t, ht, hnumeral⟩
      · exact .inr (.inr (.inr (.inr ⟨t, ht, hnumeral⟩)))

/-- A text with a second separator, two with a character of two bytes, which make up 26 bytes and 26
characters, and one that names a target and so no run. -/
theorem ofText_classified_on_near_misses :
    ofText .target "tgt_0_ARZ3NDEKTSV4RRFFQ69G5FAV" = .error (.notUlid .character) ∧
      ofText .target "tgt_01ARZ3NDEKTSV4RRFFQ69G5FÀ" = .error (.notUlid .character) ∧
      ofText .target "tgt_01ARZ3NDEKTSV4RRFFQ69G5FAÀ" = .error (.notUlid .length) ∧
      (∃ i : TargetId, ofText .target "tgt_91arz3ndektsv4rrffq69g5fav" = .ok i) ∧
      ∀ j : RunId, ofText .run "tgt_91arz3ndektsv4rrffq69g5fav" ≠ .ok j := by
  have hfault (s t : String) (f : Ulid.Fault) (hs : s = Kind.target.tag ++ "_" ++ t)
      (hnumeral : ¬Ulid.IsNumeral t)
      (hmessage : f.message = if t.utf8ByteSize = 26 then "invalid character" else "invalid length") :
      ofText .target s = .error (.notUlid f) := by
    obtain ⟨-, -, -, -, hulid, -, -⟩ := ofText_classified .target s
    exact (hulid f).2 ⟨t, hs, hnumeral, hmessage⟩
  obtain ⟨hok, -, -, -, -, -, hkinds⟩ := ofText_classified .target "tgt_91arz3ndektsv4rrffq69g5fav"
  have hread : ofText .target "tgt_91arz3ndektsv4rrffq69g5fav" =
      .ok ⟨BitVec.ofNat 128 (Ulid.number "91arz3ndektsv4rrffq69g5fav".toList)⟩ :=
    (hok _).2 ⟨"91arz3ndektsv4rrffq69g5fav", by decide +kernel, by decide +kernel, rfl⟩
  refine ⟨?_, ?_, ?_, ⟨_, hread⟩, ?_⟩
  · exact hfault _ "0_ARZ3NDEKTSV4RRFFQ69G5FAV" .character (by decide +kernel) (by decide +kernel)
      (by decide +kernel)
  · exact hfault _ "01ARZ3NDEKTSV4RRFFQ69G5FÀ" .character (by decide +kernel) (by decide +kernel)
      (by decide +kernel)
  · exact hfault _ "01ARZ3NDEKTSV4RRFFQ69G5FAÀ" .length (by decide +kernel) (by decide +kernel)
      (by decide +kernel)
  intro j hj
  exact absurd (hkinds .run _ j hread hj) (by decide)

end Id

end TestBench
