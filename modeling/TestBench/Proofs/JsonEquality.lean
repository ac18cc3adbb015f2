import TestBench.Json.Basic

/-!
# Equality of JSON values is an equivalence

`Json.same` counts the two zeros as one, so it is not the identity of values. It is an equivalence
all the same: equal values are equal to the same values (`Json.same_congr`), and together with
`Json.same_self` this gives symmetry and transitivity. The parameters of targets and requests are
compared with it.
-/

set_option autoImplicit false

namespace TestBench

namespace Number.Double

/-- Equal doubles are equal to the same doubles. -/
theorem same_congr {x y : Double} (h : x.same y = true) (z : Double) : x.same z = y.same z := by
  rcases same_eq_true_iff.1 h with rfl | ⟨hx, hy⟩
  · rfl
  · rw [Bool.eq_iff_iff, same_eq_true_iff, same_eq_true_iff]
    constructor
    · rintro (rfl | ⟨-, hz⟩)
      · exact .inr ⟨hy, hx⟩
      · exact .inr ⟨hy, hz⟩
    · rintro (rfl | ⟨-, hz⟩)
      · exact .inr ⟨hx, hy⟩
      · exact .inr ⟨hx, hz⟩

end Number.Double

namespace Json

mutual

/-- **Equal values are equal to the same values.** -/
theorem same_congr : ∀ {a b : Json}, same a b = true → ∀ c : Json, same a c = same b c
  | null, b, h, c => by
      cases b with
      | null => rfl
      | _ => simp [same] at h
  | bool x, b, h, c => by
      cases b with
      | bool y =>
          simp only [same, beq_iff_eq] at h
          rw [h]
      | _ => simp [same] at h
  | int x, b, h, c => by
      cases b with
      | int y =>
          simp only [same, beq_iff_eq] at h
          rw [h]
      | _ => simp [same] at h
  | float x, b, h, c => by
      cases b with
      | float y =>
          simp only [same] at h
          cases c with
          | float z => exact Number.Double.same_congr h z
          | _ => rfl
      | _ => simp [same] at h
  | string x, b, h, c => by
      cases b with
      | string y =>
          simp only [same, beq_iff_eq] at h
          rw [h]
      | _ => simp [same] at h
  | array x, b, h, c => by
      cases b with
      | array y =>
          simp only [same] at h
          cases c with
          | array z => exact sameList_congr h z
          | _ => rfl
      | _ => simp [same] at h
  | object x, b, h, c => by
      cases b with
      | object y =>
          simp only [same] at h
          cases c with
          | object z => exact sameFields_congr h z
          | _ => rfl
      | _ => simp [same] at h

/-- Equal sequences are equal to the same sequences. -/
theorem sameList_congr : ∀ {l m : List Json}, sameList l m = true →
    ∀ n : List Json, sameList l n = sameList m n
  | [], m, h, n => by
      cases m with
      | nil => rfl
      | cons b m => simp [sameList] at h
  | a :: l, m, h, n => by
      cases m with
      | nil => simp [sameList] at h
      | cons b m =>
          simp only [sameList, Bool.and_eq_true] at h
          cases n with
          | nil => rfl
          | cons c n => simp only [sameList, same_congr h.1 c, sameList_congr h.2 n]

/-- Equal fields are equal to the same fields. -/
theorem sameFields_congr : ∀ {l m : List (String × Json)}, sameFields l m = true →
    ∀ n : List (String × Json), sameFields l n = sameFields m n
  | [], m, h, n => by
      cases m with
      | nil => rfl
      | cons b m => simp [sameFields] at h
  | (k, a) :: l, m, h, n => by
      cases m with
      | nil => simp [sameFields] at h
      | cons b m =>
          simp only [sameFields, Bool.and_eq_true, beq_iff_eq] at h
          cases n with
          | nil => rfl
          | cons c n =>
              simp only [sameFields, h.1.1, same_congr h.1.2 c.2, sameFields_congr h.2 n]

end

theorem sameFields_symm {l m : List (String × Json)} (h : sameFields l m = true) :
    sameFields m l = true := by
  rw [← sameFields_congr h l]
  exact sameFields_self l

theorem sameFields_trans {l m n : List (String × Json)} (h : sameFields l m = true)
    (h' : sameFields m n = true) : sameFields l n = true := by
  rw [sameFields_congr h n]
  exact h'

end Json

end TestBench
