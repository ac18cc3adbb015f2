/-!
# Classes of characters as ranges of code points

A class of characters is kept as a list of closed ranges of code points. `Text.within` is the one
question that is asked of such a list.
-/

set_option autoImplicit false

namespace TestBench.Text

/-- Whether the character lies in one of the ranges. -/
def within (ranges : List (Nat × Nat)) (c : Char) : Bool :=
  ranges.any fun r => decide (r.1 ≤ c.toNat) && decide (c.toNat ≤ r.2)

/-- **Membership in a class is membership in one of its ranges.** -/
theorem within_eq_true_iff {ranges : List (Nat × Nat)} {c : Char} :
    within ranges c = true ↔ ∃ r ∈ ranges, r.1 ≤ c.toNat ∧ c.toNat ≤ r.2 := by
  simp [within]

end TestBench.Text
