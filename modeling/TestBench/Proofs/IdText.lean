import Mathlib.Data.List.TakeWhile
import TestBench.Id.Basic
import TestBench.Proofs.StringText
import TestBench.Proofs.UlidDigits

/-!
# Identifiers and their texts

What stands before the first underscore of a text decides its kind, and what stands behind is read as
a ULID (`Id.ofText_separated`). The tags have no underscore, so exactly the texts with the tag, an
underscore and the text of a ULID are read (`Id.ofText_eq_ok_iff`).

Writing and reading undo each other as far as they can (`Id.text_round_trips`). Every identifier is
read from its text and from its JSON form. A text that is read is written back with capitals and with
the first of its 26 digits modulo eight, so two texts name one identifier just if they are
`Ulid.Alike`.
-/

set_option autoImplicit false

namespace TestBench

/-- Whether two lists of digits agree up to the case of letters, with the first digits agreeing modulo
eight. -/
def Ulid.Alike : List Char → List Char → Prop
  | c :: cs, d :: ds =>
      (digitValue? c).map (· % 8) = (digitValue? d).map (· % 8) ∧
        cs.map Char.toUpper = ds.map Char.toUpper
  | _, _ => False

namespace Id

variable {kind : Kind} {i j : Id kind} {s t : String} {cs ds : List Char}

/-! ## Tag and number -/

/-- The tags have no separator in them. -/
theorem ne_separator_of_mem_tag (kind : Kind) : ∀ c ∈ kind.tag.toList, (c != '_') = true := by
  rw [← List.all_eq_true]
  cases kind <;> rfl

/-- **A text with a separator** is judged by what stands before the first one, then by what stands
behind it. -/
theorem ofText_separated (kind : Kind) {front : List Char} (hfront : ∀ c ∈ front, (c != '_') = true)
    (rest : List Char) :
    ofText kind (String.ofList (front ++ '_' :: rest)) =
      if String.ofList front = kind.tag then
        match Ulid.ofText (String.ofList rest) with
        | .ok u => .ok ⟨u⟩
        | .error e => .error (.notUlid e)
      else .error (.wrongTag kind.tag (String.ofList front)) := by
  have hnonempty : (String.ofList (front ++ '_' :: rest)).isEmpty = false := by simp
  have htake : (front ++ '_' :: rest).takeWhile (· != '_') = front := by
    rw [List.takeWhile_append_of_pos hfront]
    simp
  have hdrop : (front ++ '_' :: rest).dropWhile (· != '_') = '_' :: rest := by
    rw [List.dropWhile_append_of_pos hfront]
    simp
  cases hu : Ulid.ofText (String.ofList rest) <;>
    simp only [ofText, hnonempty, String.toList_ofList, htake, hdrop, hu, Bool.false_eq_true,
      if_false]

/-- A text has a first separator, or it has none. -/
theorem exists_separated_or (s : String) :
    (∃ front rest, (∀ c ∈ front, (c != '_') = true) ∧ s = String.ofList (front ++ '_' :: rest)) ∨
      ∀ c ∈ s.toList, (c != '_') = true := by
  cases hdrop : s.toList.dropWhile (· != '_') with
  | nil => exact .inr (List.dropWhile_eq_nil_iff.1 hdrop)
  | cons c rest =>
      refine .inl ⟨s.toList.takeWhile (· != '_'), rest, fun _ => List.mem_takeWhile_imp, ?_⟩
      -- what is dropped first is what stops the scan
      have hstop := List.head?_dropWhile_not (· != '_') s.toList
      rw [hdrop] at hstop
      obtain rfl : c = '_' := by simpa using hstop
      rw [← hdrop, List.takeWhile_append_dropWhile, String.ofList_toList]

/-- **A text is read just if it is the tag, a separator and a text that is read as a ULID.** -/
theorem ofText_eq_ok_iff :
    ofText kind s = .ok i ↔ ∃ t, s = kind.tag ++ "_" ++ t ∧ Ulid.ofText t = .ok i.ulid := by
  constructor
  · intro h
    obtain ⟨front, rest, hfront, rfl⟩ | hnone := exists_separated_or s
    · rw [ofText_separated kind hfront rest] at h
      split at h
      · next htag =>
          refine ⟨String.ofList rest, ?_, ?_⟩
          · rw [← htag]
            simp [String.ofList_append, String.append_assoc]
          · cases hu : Ulid.ofText (String.ofList rest) with
            | error e => simp [hu] at h
            | ok u =>
                rw [hu] at h
                cases h
                rfl
      · exact absurd h nofun
    · rw [ofText, List.dropWhile_eq_nil_iff.2 hnone] at h
      split at h <;> exact absurd h nofun
  · rintro ⟨t, rfl, ht⟩
    have htext : kind.tag ++ "_" ++ t = String.ofList (kind.tag.toList ++ '_' :: t.toList) := by
      simp [String.ofList_append, String.append_assoc]
    rw [htext, ofText_separated kind (ne_separator_of_mem_tag kind), String.ofList_toList,
      String.ofList_toList, if_pos rfl, ht]

/-- A list of characters behind the tag is read as its number. -/
theorem ofText_ofList_eq_ok_iff :
    ofText kind (kind.tag ++ "_" ++ String.ofList cs) = .ok i ↔
      Ulid.ofText (String.ofList cs) = .ok i.ulid := by
  rw [ofText_eq_ok_iff]
  constructor
  · rintro ⟨t, htext, ht⟩
    rw [String.append_right_inj] at htext
    rwa [htext]
  · exact fun h => ⟨_, rfl, h⟩

/-! ## There and back -/

/-- **Every identifier is read from its text.** -/
theorem ofText_text (i : Id kind) : ofText kind i.text = .ok i :=
  ofText_eq_ok_iff.2 ⟨i.ulid.text, rfl, Ulid.ofText_text i.ulid⟩

/-- Every identifier is read from its JSON form. -/
theorem ofJson_toJson (i : Id kind) : ofJson kind i.toJson = .ok i := by
  rw [ofJson, toJson, Json.readString, Except.bind, ofText_text]

theorem text_inj : i.text = j.text ↔ i = j := by
  rw [text, text, String.append_right_inj, Ulid.text_inj]
  constructor
  · exact fun h => congrArg mk h
  · exact fun h => congrArg ulid h

/-- **What is read** from digits behind the tag, with the text that it is written back as. -/
theorem exists_text_eq_of_ofText
    (h : ofText kind (kind.tag ++ "_" ++ String.ofList cs) = .ok i) :
    ∃ c rest d, cs = c :: rest ∧ rest.length = 25 ∧ Ulid.digitValue? c = some d ∧
      i.text = kind.tag ++ "_" ++ String.ofList (Ulid.digit (d % 8) :: rest.map Char.toUpper) := by
  -- the first digit is taken off, since the others are kept as they are
  obtain ⟨hlength, v, hv, hu⟩ := Ulid.ofText_eq_ok_iff.1 (ofText_ofList_eq_ok_iff.1 h)
  obtain ⟨c, rest, rfl⟩ := List.exists_cons_of_length_eq_add_one hlength
  obtain ⟨d, hd, hrest⟩ := Option.bind_eq_some_iff.1 hv
  rw [Nat.zero_mul, Nat.zero_add] at hrest
  have hwidth : rest.length = 25 := Nat.succ_injective hlength
  refine ⟨c, rest, d, rfl, hwidth, hd, ?_⟩
  rw [text, hu, Ulid.text_ofNat_eq hwidth hrest]

/-- **Two texts that are read name one identifier just if they are alike.** -/
theorem eq_iff_alike (hi : ofText kind (kind.tag ++ "_" ++ String.ofList cs) = .ok i)
    (hj : ofText kind (kind.tag ++ "_" ++ String.ofList ds) = .ok j) : i = j ↔ Ulid.Alike cs ds := by
  obtain ⟨c, cs, v, rfl, -, hc, hitext⟩ := exists_text_eq_of_ofText hi
  obtain ⟨d, ds, w, rfl, -, hd, hjtext⟩ := exists_text_eq_of_ofText hj
  have hv : v % 8 < 32 := by omega
  have hw : w % 8 < 32 := by omega
  rw [← text_inj, hitext, hjtext, String.append_right_inj, String.ofList_inj, List.cons.injEq,
    Ulid.digit_inj hv hw, Ulid.Alike, hc, hd, Option.map_some, Option.map_some, Option.some.injEq]

/-- **Identifiers and their texts determine each other** as far as the digits do. Every identifier is
read from its text, and from its JSON form, which is itself read from its own text. A text that is read
is the tag, a separator and 26 digits, and its identifier is written with capitals and with the first
digit modulo eight. So two texts that are read name one identifier just if they are alike. -/
theorem text_round_trips (kind : Kind) :
    (∀ i : Id kind, ofText kind i.text = .ok i ∧ ofJson kind i.toJson = .ok i ∧
      Json.ofText Json.Scan.usualRoom i.toJson.compact = .ok i.toJson) ∧
    (∀ (s : String) (i : Id kind), ofText kind s = .ok i →
      ∃ c cs d, s = kind.tag ++ "_" ++ String.ofList (c :: cs) ∧ cs.length = 25 ∧
        Ulid.digitValue? c = some d ∧
        i.text = kind.tag ++ "_" ++ String.ofList (Ulid.digit (d % 8) :: cs.map Char.toUpper)) ∧
    ∀ (cs ds : List Char) (i j : Id kind),
      ofText kind (kind.tag ++ "_" ++ String.ofList cs) = .ok i →
      ofText kind (kind.tag ++ "_" ++ String.ofList ds) = .ok j →
      (i = j ↔ Ulid.Alike cs ds) := by
  refine ⟨fun i => ⟨ofText_text i, ofJson_toJson i, Json.ofText_compact_string _ _⟩, ?_,
    fun cs ds i j => eq_iff_alike⟩
  intro s i hread
  obtain ⟨t, rfl, -⟩ := ofText_eq_ok_iff.1 hread
  rw [← String.ofList_toList (s := t)] at hread ⊢
  obtain ⟨c, cs, d, hchars, hwidth, hd, htext⟩ := exists_text_eq_of_ofText hread
  rw [hchars]
  exact ⟨c, cs, d, rfl, hwidth, hd, htext⟩

/-- Small letters and a first digit that is greater by eight name the same target. -/
theorem text_round_trips_capitals :
    ∃ i : TargetId, ofText .target "tgt_91arz3ndektsv4rrffq69g5fav" = .ok i ∧
      ofText .target "tgt_11ARZ3NDEKTSV4RRFFQ69G5FAV" = .ok i ∧
      Ulid.Alike "91arz3ndektsv4rrffq69g5fav".toList "11ARZ3NDEKTSV4RRFFQ69G5FAV".toList := by
  let i : TargetId := ⟨0x21563e3ab5d3d6764c61efb99302bd5b#128⟩
  have hsmall : ofText .target (Kind.target.tag ++ "_" ++
      String.ofList "91arz3ndektsv4rrffq69g5fav".toList) = .ok i := by decide +kernel
  have htext : i.text = Kind.target.tag ++ "_" ++
      String.ofList "11ARZ3NDEKTSV4RRFFQ69G5FAV".toList := by decide +kernel
  obtain ⟨hread, -, halike⟩ := text_round_trips .target
  have hcapital := (hread i).1
  rw [htext] at hcapital
  exact ⟨i, hsmall, hcapital, (halike _ _ i i hsmall hcapital).1 rfl⟩

end Id

end TestBench
