import Mathlib.Data.List.Basic
import TestBench.Json.Compact
import TestBench.Json.Text

/-!
# Strings as texts

A string is written between quotation marks with the characters escaped that may not stand for
themselves. Reading undoes this: one round of the reader takes what was written for one character
(`Scan.stringRounds_escapeChar`), so it takes the whole of a string back (`Scan.string_stringText`),
and the compact text of a string is read as the string (`ofText_compact_string`).
-/

set_option autoImplicit false

namespace TestBench.Json

variable {ch : Char} {cs rest : List Char} {c : Cursor} {rounds : Nat}

namespace Cursor

theorem peek_of_rest (h : c.rest = ch :: rest) : c.peek = some ch := by
  rw [peek, h, List.head?_cons]

theorem rest_advance (h : c.rest = ch :: rest) : c.advance.rest = rest := by
  rw [advance]
  split
  · next hend => cases hend.symm.trans h
  · next hline =>
      cases hline.symm.trans h
      rfl
  · next hother =>
      cases hother.symm.trans h
      rfl

theorem skipSpace_of_rest_nil (h : c.rest = []) : c.skipSpace = c := by
  obtain ⟨_, line, column⟩ := c
  cases h
  rw [skipSpace]

theorem skipSpace_of_rest (h : c.rest = ch :: rest) (hspace : isSpace ch = false) :
    c.skipSpace = c := by
  obtain ⟨_, line, column⟩ := c
  cases h
  have hline : ch ≠ '\n' := by
    rintro rfl
    cases hspace
  rw [skipSpace, if_neg hline, if_neg (ne_true_of_eq_false hspace)]

end Cursor

/-- The characters that are written with an escape by a letter, with the letter. -/
theorem escapeChar_eq (ch : Char) :
    (∃ letter, escapeChar ch = ['\\', letter] ∧ letter ≠ 'u' ∧ Scan.letterEscape? letter = some ch) ∨
      (ch.toNat < 0x20 ∧
        escapeChar ch = ['\\', 'u', '0', '0', hexDigit (ch.toNat / 16), hexDigit ch.toNat]) ∨
      (¬ch.toNat < 0x20 ∧ ch ≠ '"' ∧ ch ≠ '\\' ∧ escapeChar ch = [ch]) := by
  unfold escapeChar
  split
  case h_8 hquote hslash _ _ _ _ _ =>
    by_cases hcontrol : ch.toNat < 0x20
    · exact .inr (.inl ⟨hcontrol, if_pos hcontrol⟩)
    · exact .inr (.inr ⟨hcontrol, hquote, hslash, if_neg hcontrol⟩)
  all_goals exact .inl ⟨_, rfl, by decide, rfl⟩

namespace Scan

/-- The two hexadecimal digits of a control character are read as its number. -/
theorem hexValue?_hexDigit (h : ch.toNat < 0x20) :
    ∃ high low, hexValue? (hexDigit (ch.toNat / 16)) = some high ∧
      hexValue? (hexDigit ch.toNat) = some low ∧ high * 16 + low = ch.toNat := by
  have hall : ∀ n : Fin 0x20, hexValue? (hexDigit (n.val / 16)) = some (n.val / 16) ∧
      hexValue? (hexDigit n.val) = some (n.val % 16) := by decide
  obtain ⟨hhigh, hlow⟩ := hall ⟨ch.toNat, h⟩
  exact ⟨_, _, hhigh, hlow, Nat.div_add_mod' _ _⟩

/-- Four hexadecimal digits are read as their number. -/
theorem fourDigits_eq {a b d e : Char} {i j k l : Nat} (h : c.rest = a :: b :: d :: e :: rest)
    (ha : hexValue? a = some i) (hb : hexValue? b = some j) (hd : hexValue? d = some k)
    (he : hexValue? e = some l) :
    fourDigits c = .ok (((i * 16 + j) * 16 + k) * 16 + l, ⟨rest, c.line, c.column + 4⟩) := by
  -- the reader counts bytes, and every character has one at least
  have hbytes : ¬bytesAhead 4 (a :: b :: d :: e :: rest) < 4 := by
    have := a.utf8Size_pos
    have := b.utf8Size_pos
    have := d.utf8Size_pos
    have := e.utf8Size_pos
    simp only [bytesAhead]
    omega
  simp only [fourDigits, h, if_neg hbytes, ha, hb, hd, he]

/-- A numeric escape of a control character is read as the character. -/
theorem unicodeEscape_hexDigit (hcontrol : ch.toNat < 0x20)
    (h : c.rest = '0' :: '0' :: hexDigit (ch.toNat / 16) :: hexDigit ch.toNat :: rest) :
    ∃ c' : Cursor, c'.rest = rest ∧ unicodeEscape c = .ok (ch, c') := by
  obtain ⟨high, low, hhigh, hlow, hvalue⟩ := hexValue?_hexDigit hcontrol
  have hzero : hexValue? '0' = some 0 := by decide
  have hdigits := fourDigits_eq h hzero hzero hhigh hlow
  have hnumber : ((0 * 16 + 0) * 16 + high) * 16 + low = ch.toNat := by omega
  rw [hnumber] at hdigits
  refine ⟨⟨rest, c.line, c.column + 4⟩, rfl, ?_⟩
  -- a control character is no half of a pair
  have hlarge : ¬(0xDC00 ≤ ch.toNat ∧ ch.toNat ≤ 0xDFFF) := by omega
  have hsmall : ch.toNat < 0xD800 ∨ 0xDBFF < ch.toNat := by omega
  simp only [unicodeEscape, hdigits, bind, Except.bind, if_neg hlarge, if_pos hsmall,
    Char.ofNat_toNat]

/-- What was written for a character behind a backslash is read as the character. -/
theorem escape_eq {letter : Char} (hletter : letter ≠ 'u') (hread : letterEscape? letter = some ch)
    (h : c.rest = letter :: rest) : escape c = .ok (ch, c.advance) := by
  rw [escape, Cursor.peek_of_rest h]
  split
  · next hend => cases hend
  · next hmark =>
      cases hmark
      exact absurd rfl hletter
  · next hother =>
      cases hother
      rw [hread]

/-- A round that meets a backslash takes an escape. -/
theorem stringRounds_backslash (rounds : Nat) (read : List Char) (h : c.rest = '\\' :: rest) :
    stringRounds (rounds + 1) read c =
      (escape c.advance).bind fun r => stringRounds rounds (r.1 :: read) r.2 := by
  rw [stringRounds, Cursor.peek_of_rest h]
  rfl

/-- **One round takes what was written for one character.** -/
theorem stringRounds_escapeChar (rounds : Nat) (read : List Char)
    (h : c.rest = escapeChar ch ++ rest) :
    ∃ c' : Cursor, c'.rest = rest ∧
      stringRounds (rounds + 1) read c = stringRounds rounds (ch :: read) c' := by
  obtain ⟨letter, hescape, hletter, hread⟩ | ⟨hcontrol, hescape⟩ | ⟨hcontrol, hquote, hslash, hescape⟩ :=
    escapeChar_eq ch
  · rw [hescape] at h
    have hbehind := Cursor.rest_advance h
    refine ⟨_, Cursor.rest_advance hbehind, ?_⟩
    rw [stringRounds_backslash rounds read h, escape_eq hletter hread hbehind, Except.bind]
  · rw [hescape] at h
    have hbehind := Cursor.rest_advance h
    obtain ⟨c', hrest, hstep⟩ := unicodeEscape_hexDigit hcontrol (Cursor.rest_advance hbehind)
    refine ⟨c', hrest, ?_⟩
    rw [stringRounds_backslash rounds read h, escape, Cursor.peek_of_rest hbehind]
    show (unicodeEscape c.advance.advance).bind _ = _
    rw [hstep, Except.bind]
  · rw [hescape] at h
    refine ⟨_, Cursor.rest_advance h, ?_⟩
    rw [stringRounds, Cursor.peek_of_rest h]
    split
    · next hend => cases hend
    · next hmark =>
        cases hmark
        exact absurd rfl hquote
    · next hmark =>
        cases hmark
        exact absurd rfl hslash
    · next hother =>
        cases hother
        rw [if_neg hcontrol]

/-- With enough rounds, the characters of a string are taken back from what was written for them. -/
theorem stringRounds_flatMap_escapeChar (read : List Char) (hrounds : cs.length < rounds)
    (h : c.rest = cs.flatMap escapeChar ++ '"' :: rest) :
    ∃ c' : Cursor, c'.rest = rest ∧
      stringRounds rounds read c = .ok (String.ofList (read.reverse ++ cs), c') := by
  obtain ⟨rounds, rfl⟩ := Nat.exists_eq_succ_of_ne_zero (Nat.ne_zero_of_lt hrounds)
  -- one round for each character, and the last one for the closing mark
  induction cs generalizing rounds read c with
  | nil =>
      refine ⟨_, Cursor.rest_advance h, ?_⟩
      rw [stringRounds, Cursor.peek_of_rest h, List.append_nil]
      rfl
  | cons ch cs ih =>
      rw [List.flatMap_cons, List.append_assoc] at h
      obtain ⟨c', hrest, hround⟩ := stringRounds_escapeChar rounds read h
      obtain ⟨rounds, rfl⟩ :=
        Nat.exists_eq_succ_of_ne_zero (Nat.ne_zero_of_lt (Nat.lt_of_succ_lt_succ hrounds))
      obtain ⟨c'', hend, hread⟩ := ih (ch :: read) hrest _ (Nat.lt_of_succ_lt_succ hrounds)
      refine ⟨c'', hend, ?_⟩
      rw [hround, hread, List.reverse_cons, List.append_assoc, List.singleton_append]

/-- Nothing is written shorter than it is. -/
theorem length_le_flatMap_escapeChar (cs : List Char) :
    cs.length ≤ (cs.flatMap escapeChar).length := by
  induction cs with
  | nil => exact Nat.le_refl 0
  | cons ch cs ih =>
      have hchar : 1 ≤ (escapeChar ch).length := by
        obtain ⟨letter, hescape, -⟩ | ⟨-, hescape⟩ | ⟨-, -, -, hescape⟩ := escapeChar_eq ch <;>
          simp [hescape]
      rw [List.flatMap_cons, List.length_append, List.length_cons]
      omega

/-- **A string is read from what was written for it**, up to its closing mark. -/
theorem string_stringText (s : String) (h : c.rest = s.toList.flatMap escapeChar ++ '"' :: rest) :
    ∃ c' : Cursor, c'.rest = rest ∧ string c = .ok (s, c') := by
  -- the reader has a round for each character that is written
  have hrounds : s.toList.length < c.rest.length + 1 := by
    have hlength := length_le_flatMap_escapeChar s.toList
    rw [h, List.length_append]
    omega
  obtain ⟨c', hrest, hread⟩ := stringRounds_flatMap_escapeChar [] hrounds h
  refine ⟨c', hrest, ?_⟩
  rw [string, hread, List.reverse_nil, List.nil_append, String.ofList_toList]

end Scan

/-- **A string is read from its compact text**, in any room. -/
theorem ofText_compact_string (room : Nat) (s : String) :
    ofText room (compact (.string s)) = .ok (.string s) := by
  have htext : (Cursor.ofText (compact (.string s))).rest =
      '"' :: (s.toList.flatMap escapeChar ++ '"' :: []) := by
    simp [Cursor.ofText, compact, chars, stringText]
  obtain ⟨c, hrest, hread⟩ := Scan.string_stringText s (Cursor.rest_advance htext)
  have hplain : Scan.plainValue? (Cursor.ofText (compact (.string s))) = .ok (some (.string s), c) := by
    rw [Scan.plainValue?, Cursor.peek_of_rest htext]
    show (Scan.string _).map _ = _
    rw [hread, Except.map]
  have hvalue : Scan.value room (Cursor.ofText (compact (.string s))) = .ok (.string s, c) := by
    rw [Scan.value, Scan.valueRounds, Cursor.skipSpace_of_rest htext (by decide)]
    simp only [hplain, bind, Except.bind]
  have hend : c.skipSpace.peek = none := by
    rw [Cursor.skipSpace_of_rest_nil hrest, Cursor.peek, hrest, List.head?_nil]
  rw [ofText, Scan.whole]
  simp only [hvalue, hend, bind, Except.bind]

end TestBench.Json
