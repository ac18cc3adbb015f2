import TestBench.Suite.Criterion

/-!
# Selecting tests

`select` applies a list of criteria to a list of discovered tests. Tests are told apart by their
position, so two tests of one name are counted and left out independently.

The criteria are applied in order, each to the tests in order. An including match raises the number of
copies of the test to the wanted number, if that is greater; the first match that wants any copies
gives the test its place in the result. An excluding match removes the test from the result, whatever
came before or comes after. Tests without metadata are kept as they are.

When no criterion has included anything, the selection falls back to every test that is not excluded.
Every test that does not run is accounted for in `Selection.dropped`, with its reason.
-/

set_option autoImplicit false

namespace TestBench

/-- Why a discovered test does not run. -/
inductive DropReason where
  /-- An excluding criterion matched it. -/
  | excluded
  /-- Some criterion included tests, and none included this one. -/
  | notSelected
  /-- It was selected, and the mode of the run filtered it out. -/
  | deselected
deriving DecidableEq, Repr

/-- The word for a reason in a report. -/
def DropReason.word : DropReason → String
  | .excluded => "excluded"
  | .notSelected => "not_selected"
  | .deselected => "deselected"

/-- A discovered test that does not run. -/
structure Dropped where
  /-- The name of the test. -/
  name : String
  /-- Why it does not run. -/
  reason : DropReason
deriving DecidableEq

/-- The tests to run, and those that do not. -/
structure Selection where
  /-- The tests to run, copies next to each other. -/
  tests : List Case
  /-- The tests that do not run. -/
  dropped : List Dropped
  /-- Whether nothing was included and every test not excluded was kept. -/
  fellBack : Bool
deriving DecidableEq

/-! ## The pass over criteria and tests -/

/-- What the pass has found so far, by position of the tests. -/
structure Tally where
  /-- The included positions with their numbers of copies, in the order of first inclusion. -/
  included : List (Nat × Nat)
  /-- The excluded positions. -/
  excluded : List Nat

namespace Tally

/-- Nothing found. -/
def empty : Tally := ⟨[], []⟩

/-- Whether the position is included. -/
def includes (t : Tally) (position : Nat) : Bool := t.included.any fun e => e.1 == position

/-- Whether the position is excluded. -/
def excludes (t : Tally) (position : Nat) : Bool := t.excluded.contains position

/-- Raises the number of copies of an included position, or gives a position that wants copies a place
at the end. -/
def raise (t : Tally) (position times : Nat) : Tally :=
  if t.includes position then
    { t with included := t.included.map fun e =>
        if e.1 = position then (e.1, max e.2 times) else e }
  else if 0 < times then { t with included := t.included ++ [(position, times)] }
  else t

/-- Excludes a position. -/
def exclude (t : Tally) (position : Nat) : Tally :=
  if t.excludes position then t else { t with excluded := position :: t.excluded }

/-- Applies a criterion to the test at a position. -/
def visit (c : Criterion) (t : Tally) (entry : Case × Nat) : Tally :=
  if c.matchesCase entry.1 then
    if c.exclude then t.exclude entry.2 else t.raise entry.2 c.times.val
  else t

/-- Applies a criterion to all tests. -/
def apply (tests : List Case) (t : Tally) (c : Criterion) : Tally := tests.zipIdx.foldl (visit c) t

/-- Applies all criteria. -/
def ofCriteria (tests : List Case) (criteria : List Criterion) : Tally :=
  criteria.foldl (apply tests) empty

/-! ## The result of the pass -/

/-- The selection of everything that is not excluded. -/
def fallback (t : Tally) (tests : List Case) : Selection where
  tests := (tests.zipIdx.filter fun e => !t.excludes e.2).map (·.1)
  dropped := (tests.zipIdx.filter fun e => t.excludes e.2).map fun e => ⟨e.1.name, .excluded⟩
  fellBack := true

/-- The copies of an included test. -/
def copies (t : Tally) (tests : List Case) (entry : Nat × Nat) : List Case :=
  if t.excludes entry.1 then []
  else
    match tests[entry.1]? with
    | some test => List.replicate entry.2 test
    | none => []

/-- Why a test that takes part in selection does not run, if it does not. -/
def dropReason? (t : Tally) (position : Nat) : Option DropReason :=
  if t.excludes position then some .excluded
  else if t.includes position then none
  else some .notSelected

/-- The selection of what was included. -/
def chosen (t : Tally) (tests : List Case) : Selection where
  tests := t.included.flatMap (t.copies tests) ++ tests.filter fun test => !test.isSelectable
  dropped := tests.zipIdx.filterMap fun e =>
    if e.1.isSelectable then (t.dropReason? e.2).map fun reason => ⟨e.1.name, reason⟩ else none
  fellBack := false

end Tally

/-- The tests to run under the criteria. -/
def select (tests : List Case) (criteria : List Criterion) : Selection :=
  let t := Tally.ofCriteria tests criteria
  if t.included.isEmpty then t.fallback tests else t.chosen tests

namespace Selection

/-- How many copies of tests of a name are selected. -/
def count (s : Selection) (name : String) : Nat := s.tests.countP fun t => t.name == name

/-- The names of the selected tests. -/
def names (s : Selection) : List String := s.tests.map (·.name)

/-- The selection without the tests that bear none of the markers. Each such test is accounted for
once, however many equal copies of it were selected. -/
def restrict (s : Selection) (markers : List String) : Selection where
  tests := s.tests.filter fun t => t.hasAnyMarker markers
  dropped := s.dropped ++
    ((s.tests.filter fun t => !t.hasAnyMarker markers).eraseDups.map fun t =>
      ⟨t.name, .deselected⟩)
  fellBack := s.fellBack

end Selection

end TestBench
