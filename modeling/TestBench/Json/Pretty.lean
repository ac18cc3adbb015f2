import TestBench.Json.Compact

/-!
# The indented text of a value

Values that people read are written over several lines: every item and field on a line of its own, two
spaces deeper than what it belongs to.
-/

set_option autoImplicit false

namespace TestBench.Json

/-- A line break and the spaces before a line. -/
def lineStart (depth : Nat) : List Char := '\n' :: List.replicate (2 * depth) ' '

mutual

/-- The characters of the indented text of a value at some depth. -/
def prettyChars (depth : Nat) : Json → List Char
  | array (a :: as) =>
      ['['] ++ lineStart (depth + 1) ++ prettyChars (depth + 1) a ++ prettyList (depth + 1) as ++
        lineStart depth ++ [']']
  | object ((k, a) :: as) =>
      ['\x7b'] ++ lineStart (depth + 1) ++ stringText k ++ [':', ' '] ++
        prettyChars (depth + 1) a ++ prettyFields (depth + 1) as ++ lineStart depth ++ ['\x7d']
  | j => j.chars

/-- The characters of further items. -/
def prettyList (depth : Nat) : List Json → List Char
  | [] => []
  | a :: as => [','] ++ lineStart depth ++ prettyChars depth a ++ prettyList depth as

/-- The characters of further fields. -/
def prettyFields (depth : Nat) : List (String × Json) → List Char
  | [] => []
  | (k, a) :: as =>
      [','] ++ lineStart depth ++ stringText k ++ [':', ' '] ++ prettyChars depth a ++
        prettyFields depth as

end

/-- The indented text of a value. -/
def pretty (j : Json) : String := String.ofList (j.prettyChars 0)

end TestBench.Json
