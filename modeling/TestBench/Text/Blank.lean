import TestBench.Text.Range

/-!
# Blank characters and trimming

A character is *blank* when it has the Unicode property White_Space. A text that holds nothing but
blanks counts as absent in several places, and a number written in quotes may be padded with them.
`Text.trim` removes the blanks at both ends and nothing between.
-/

set_option autoImplicit false

namespace TestBench.Text

/-- The 25 blank code points. -/
def blankRanges : List (Nat × Nat) :=
  [(0x09, 0x0D), (0x20, 0x20), (0x85, 0x85), (0xA0, 0xA0), (0x1680, 0x1680), (0x2000, 0x200A),
   (0x2028, 0x2029), (0x202F, 0x202F), (0x205F, 0x205F), (0x3000, 0x3000)]

/-- Whether the character is white space. -/
def isBlank (c : Char) : Bool := within blankRanges c

/-- The text without the blanks at its two ends. -/
def trim (s : List Char) : List Char :=
  ((s.dropWhile isBlank).reverse.dropWhile isBlank).reverse

/-- Whether the text holds nothing but blanks. -/
def isAbsent (s : String) : Bool := s.toList.all isBlank

/-- **A text of blanks trims to nothing.** -/
theorem trim_eq_nil_of_all {s : List Char} (h : s.all isBlank = true) : trim s = [] := by
  have hd : s.dropWhile isBlank = [] := by
    induction s with
    | nil => rfl
    | cons c r ih =>
        simp only [List.all_cons, Bool.and_eq_true] at h
        simp [h.1, ih h.2]
  simp [trim, hd]

end TestBench.Text
