import TestBench.Proofs.DocumentForms
import TestBench.Proofs.IdGrammar

/-!
# The order of identifiers is the order of their texts

Identifiers are ordered by their numbers, and their texts as all texts are, character by character. The
two orders are the same: all texts of one kind begin alike and have the same number of digits, the most
significant one first, and the digits ascend with their values, across the gap between `9` and `A` and
the letters that are left out (`Ulid.digit_lt_digit_iff`). From one digit to all of them it is an
induction on the number of digits (`Ulid.digits_lt_digits_iff`).

So whoever sorts identifiers sorts their texts (`Id.order_is_text_order`), where the texts are the
canonical ones: what is read with small letters or with a first digit beyond seven is sorted as what
it is written back as (`Id.canonical`).
-/

set_option autoImplicit false

namespace TestBench

namespace Ulid

variable {n v w : Nat} {u u' : Ulid}

/-! ## Digits in order -/

/-- **The digits ascend with their values.** -/
theorem digit_lt_digit_iff (hv : v < 32) (hw : w < 32) : digit v < digit w ↔ v < w := by
  have hall : ∀ v w : Fin 32, digit v.val < digit w.val ↔ v.val < w.val := by decide +kernel
  exact hall ⟨v, hv⟩ ⟨w, hw⟩

/-- A number is less than another if its first digit is, or if the first digits are the same and the
rest of it is. -/
theorem lt_iff_div_mod (v w k : Nat) : v < w ↔ v / k < w / k ∨ v / k = w / k ∧ v % k < w % k := by
  have hv := Nat.div_add_mod v k
  have hw := Nat.div_add_mod w k
  constructor
  · intro h
    rcases Nat.lt_or_eq_of_le (Nat.div_le_div_right (c := k) (Nat.le_of_lt h)) with hlt | heq
    · exact .inl hlt
    · refine .inr ⟨heq, ?_⟩
      rw [heq] at hv
      omega
  · rintro (hlt | ⟨heq, hlt⟩)
    · exact Nat.lt_of_div_lt_div hlt
    · rw [heq] at hv
      omega

/-- **So many digits are in the order of the numbers**, if they have room for both. -/
theorem digits_lt_digits_iff (hv : v < 32 ^ n) (hw : w < 32 ^ n) :
    digits n v < digits n w ↔ v < w := by
  induction n generalizing v w with
  | zero =>
      obtain rfl : v = 0 := Nat.lt_one_iff.1 hv
      obtain rfl : w = 0 := Nat.lt_one_iff.1 hw
      exact iff_of_false (List.lt_irrefl _) (Nat.lt_irrefl 0)
  | succ n ih =>
      -- the first digit decides, and if it does not, the digits of the rest do
      have hpos : 0 < 32 ^ n := Nat.pow_pos (by decide)
      have hfirst {m : Nat} (hm : m < 32 ^ (n + 1)) : m / 32 ^ n < 32 :=
        Nat.div_lt_of_lt_mul (by rwa [← pow_succ])
      have hrest := ih (Nat.mod_lt v hpos) (Nat.mod_lt w hpos)
      rw [digits_mod, digits_mod] at hrest
      rw [digits_succ_eq_cons, digits_succ_eq_cons, List.cons_lt_cons_iff,
        Nat.mod_eq_of_lt (hfirst hv), Nat.mod_eq_of_lt (hfirst hw),
        digit_lt_digit_iff (hfirst hv) (hfirst hw), digit_inj (hfirst hv) (hfirst hw), hrest]
      exact (lt_iff_div_mod v w (32 ^ n)).symm

theorem text_lt_text_iff : u.text < u'.text ↔ u.toNat < u'.toNat := by
  have hroom (u : Ulid) : u.toNat < 32 ^ width := Nat.lt_trans u.isLt (by decide)
  rw [String.lt_iff, text, text, String.toList_ofList, String.toList_ofList,
    digits_lt_digits_iff (hroom u) (hroom u')]

/-- The digits of an identifier as it is written back: with capitals, the first one modulo eight. -/
def canonical : List Char → List Char
  | [] => []
  | c :: cs => digit (weight c % 8) :: cs.map Char.toUpper

end Ulid

namespace Id

variable {kind : Kind} {i j : Id kind} {s : String}

/-! ## Identifiers in order -/

/-- What two texts begin with does not decide their order. -/
theorem append_lt_append_iff {a s t : String} : a ++ s < a ++ t ↔ s < t := by
  have hlists (cs ds es : List Char) : cs ++ ds < cs ++ es ↔ ds < es := by
    induction cs with
    | nil => exact Iff.rfl
    | cons c cs ih => simp [ih]
  simp only [String.lt_iff, String.toList_append, hlists]

theorem text_lt_text_iff : i.text < j.text ↔ i.ulid.toNat < j.ulid.toNat := by
  rw [text, text, append_lt_append_iff, Ulid.text_lt_text_iff]

/-- **Identifiers compare as their texts do.** -/
theorem compare_eq_compare_text (i j : Id kind) : compare i j = compare i.text j.text := by
  have hnumbers : i.ulid.toNat = j.ulid.toNat ↔ i.text = j.text := by
    rw [text_inj, BitVec.toNat_inj]
    constructor
    · exact fun h => congrArg mk h
    · exact fun h => congrArg ulid h
  show compareOfLessAndEq i.ulid.toNat j.ulid.toNat = compareOfLessAndEq i.text j.text
  simp only [compareOfLessAndEq, text_lt_text_iff, hnumbers]

theorem text_le_text_iff : i.text ≤ j.text ↔ i.ulid ≤ j.ulid := by
  rw [← String.not_lt, text_lt_text_iff, Nat.not_lt]
  exact BitVec.le_def.symm

theorem isLE_compare : (compare i j).isLE = decide (i.ulid ≤ j.ulid) := by
  rw [Bool.eq_iff_iff, decide_eq_true_iff, BitVec.le_def]
  exact Nat.isLE_compare

/-! ## Lists of identifiers -/

/-- **Sorting identifiers sorts their texts.** -/
theorem map_text_sort (ids : List (Id kind)) :
    (sort ids).map text = (ids.map text).mergeSort fun s t => decide (s ≤ t) := by
  refine List.map_mergeSort fun i _ j _ => ?_
  rw [decide_eq_decide, text_le_text_iff]

/-- The text that an accepted text is written back as. -/
def canonical (kind : Kind) (s : String) : String :=
  kind.tag ++ "_" ++ String.ofList (Ulid.canonical (s.toList.drop (kind.tag.length + 1)))

/-- **What is read is written in the canonical form** of its text. -/
theorem text_eq_canonical (h : ofText kind s = .ok i) : i.text = canonical kind s := by
  obtain ⟨t, rfl, -⟩ := ofText_eq_ok_iff.1 h
  rw [← String.ofList_toList (s := t)] at h
  obtain ⟨c, rest, d, hchars, -, hd, htext⟩ := exists_text_eq_of_ofText h
  rw [Ulid.digitValue?_eq] at hd
  have hweight : d = Ulid.weight c := by
    split at hd
    · exact (Option.some.inj hd).symm
    · cases hd
  have hbehind : (kind.tag ++ "_" ++ t).toList.drop (kind.tag.length + 1) = c :: rest := by
    rw [← hchars, String.toList_append, String.toList_append, ← String.length_toList]
    exact List.drop_left' (by simp)
  rw [htext, canonical, hbehind, Ulid.canonical, hweight]

/-- **The order of identifiers is the order of their texts.** Two identifiers compare as their texts do
character by character, and they are the same just if their texts are. So texts that are accepted are
all read, and when what is read is sorted by that order and written back, the canonical forms of the
texts stand in ascending order. -/
theorem order_is_text_order (kind : Kind) :
    (∀ i j : Id kind, compare i j = compare i.text j.text ∧ (i = j ↔ i.text = j.text)) ∧
    ∀ ss : List String, (∀ s ∈ ss, ∃ i : Id kind, ofText kind s = .ok i) →
      ∃ ids : List (Id kind), ss.mapM (ofText kind) = .ok ids ∧
        sort ids = (ids.mergeSort fun i j => (compare i j).isLE) ∧
        (sort ids).map text = (ss.map (canonical kind)).mergeSort (fun s t => decide (s ≤ t)) ∧
        ((sort ids).map text).Pairwise (· ≤ ·) := by
  refine ⟨fun i j => ⟨compare_eq_compare_text i j, text_inj.symm⟩, ?_⟩
  intro ss haccepted
  obtain ⟨ids, hread⟩ := Json.exists_mapM_iff.2 haccepted
  -- each identifier is written as the canonical form of the text that it was read from
  have htexts : ids.map text = ss.map (canonical kind) := by
    have hall := Json.mapM_eq_ok_iff.1 hread
    clear hread haccepted
    induction hall with
    | nil => rfl
    | cons hs _ ih => rw [List.map_cons, List.map_cons, text_eq_canonical hs, ih]
  refine ⟨ids, hread, ?_, by rw [map_text_sort, htexts], ?_⟩
  · simp only [sort, isLE_compare]
  · rw [map_text_sort]
    have hsorted : ((ids.map text).mergeSort fun s t => decide (s ≤ t)).Pairwise
        fun s t => decide (s ≤ t) = true := by
      apply List.pairwise_mergeSort
      · intro r s t hrs hst
        rw [decide_eq_true_iff] at hrs hst ⊢
        exact String.le_trans hrs hst
      · intro s t
        rw [Bool.or_eq_true, decide_eq_true_iff, decide_eq_true_iff]
        exact String.le_total s t
    exact hsorted.imp of_decide_eq_true

/-- Small letters, a digit beside a letter, and a first digit whose upper bits are lost: the text that
is the greatest of the three as it was given is the least as it is written back. -/
theorem order_is_text_order_of_overflowing :
    let ss := ["run_8000000000000000000000000a", "run_01ARZ3NDEKTSV4RRFFQ69G5FA9",
      "run_01arz3ndektsv4rrffq69g5fav"]
    (∀ s ∈ ss, ∃ i : RunId, ofText .run s = .ok i) ∧
      ∃ ids : List RunId, ss.mapM (ofText .run) = .ok ids ∧
        (sort ids).map text = ["run_0000000000000000000000000A", "run_01ARZ3NDEKTSV4RRFFQ69G5FA9",
          "run_01ARZ3NDEKTSV4RRFFQ69G5FAV"] := by
  intro ss
  have haccepted : ∀ s ∈ ss, ∃ i : RunId, ofText .run s = .ok i := by
    have hall : ∀ s ∈ ss, (ofText .run s).toBool = true := by decide +kernel
    intro s hs
    have hread := hall s hs
    cases h : ofText .run s with
    | ok i => exact ⟨i, rfl⟩
    | error f =>
        rw [h] at hread
        cases hread
  obtain ⟨ids, hread, -, htexts, -⟩ := (order_is_text_order .run).2 ss haccepted
  refine ⟨haccepted, ids, hread, ?_⟩
  -- the canonical forms are in order as they stand
  have hforms : ss.map (canonical .run) = ["run_0000000000000000000000000A",
      "run_01ARZ3NDEKTSV4RRFFQ69G5FA9", "run_01ARZ3NDEKTSV4RRFFQ69G5FAV"] := by decide +kernel
  rw [htexts, hforms]
  exact List.mergeSort_of_pairwise (by decide +kernel)

end Id

end TestBench
