import TestBench.Proofs.SelectionPass

/-!
# Excluding rules act as a filter

Rules that exclude may stand anywhere among the rules that include. This module compares two
selections of the same tests, one under all rules and one under `Declared.including`, the rules that
do not exclude: the first is the second without the tests that some rule leaves out
(`select_eq_filter_including`). An excluding rule neither gives a test its place or its copies nor
takes them from another one, and it has no say in whether the selection falls back.

The two selections have the same places and copies, because an excluding rule never asks for a test.
Only the ranks differ, since the rules that exclude count in them; so the order of the places is
compared rule by rule, by `Declared.sequence_concat`.
-/

set_option autoImplicit false

namespace TestBench

namespace Declared

/-- The rules that do not exclude, in their order. -/
def including (criteria : List Criterion) : List Criterion := criteria.filter fun c => !c.exclude

/-- The entries for the tests that have a reason, in the order of discovery. -/
def entries (tests : List Case) (reason : Case → Option DropReason) : List Dropped :=
  tests.filterMap fun test => (reason test).map fun r => ⟨test.name, r⟩

section Including

variable {tests : List Case} {criteria : List Criterion} {c : Criterion} {test : Case}

/-! ## The judgement of one test -/

theorem wants_eq_false_of_exclude (h : c.exclude = true) : c.wants test = false := by
  simp [Criterion.wants, Criterion.asksFor, h]

/-- Excluding rules include nothing. -/
theorem included_including : included (including criteria) test = included criteria test := by
  have hrule (c : Criterion) : (!c.exclude && c.wants test) = c.wants test := by
    cases hx : c.exclude with
    | false => rfl
    | true => rw [wants_eq_false_of_exclude hx, Bool.and_false]
  simp only [included, including, List.any_filter, hrule]

/-- Excluding rules ask for no copies. -/
theorem copies_including : copies (including criteria) test = copies criteria test := by
  have hrule (c : Criterion) : (c.asksFor test && !c.exclude) = c.asksFor test := by
    rw [Criterion.asksFor, Bool.and_right_comm, Bool.and_self]
  simp only [copies, including, List.filter_filter, hrule]

/-- Without excluding rules nothing is excluded. -/
theorem excluded_including : excluded (including criteria) test = false := by
  rw [excluded, including, List.any_eq_false]
  intro c hc
  have hx := (List.mem_filter.1 hc).2
  simp only [Bool.not_eq_true'] at hx
  simp [Criterion.leavesOut, hx]

/-- Only tests with metadata are excluded. -/
theorem isSelectable_of_excluded (h : excluded criteria test = true) :
    test.isSelectable = true := by
  obtain ⟨c, -, hc⟩ := List.any_eq_true.1 h
  rw [Criterion.leavesOut, Bool.and_eq_true] at hc
  exact Criterion.isSelectable_of_matchesCase hc.2

theorem fallsBack_including : fallsBack tests (including criteria) = fallsBack tests criteria := by
  simp only [fallsBack, included_including]

/-! ## The positions that run -/

/-- **The included positions keep their order** when the excluding rules are taken away. -/
theorem sequence_including (tests : List Case) (criteria : List Criterion) :
    sequence tests (including criteria) = sequence tests criteria := by
  induction criteria using List.reverseRecOn with
  | nil => rfl
  | append_singleton criteria c ih =>
      rw [sequence_concat]
      cases hx : c.exclude with
      | true =>
          -- the rule is taken away, and it would have given no places
          have hsame : including (criteria ++ [c]) = including criteria := by
            simp [including, hx]
          simp [hsame, ih, wants_eq_false_of_exclude hx]
      | false =>
          have hmore : including (criteria ++ [c]) = including criteria ++ [c] := by
            simp [including, hx]
          simp only [hmore, sequence_concat, ih, included_including]

/-- Copies stay together, so filtering the copies is filtering what they are copies of. -/
theorem filter_flatMap_replicate {α : Type} (l : List α) (n : α → Nat) (p : α → Bool) :
    (l.flatMap fun a => List.replicate (n a) a).filter p =
      (l.filter p).flatMap fun a => List.replicate (n a) a := by
  induction l with
  | nil => rfl
  | cons a rest ih =>
      rw [List.flatMap_cons, List.filter_append, ih, List.filter_replicate, List.filter_cons]
      cases hp : p a with
      | true => simp only [if_true, List.flatMap_cons]
      | false => simp only [Bool.false_eq_true, if_false, List.nil_append]

/-- **The positions that run** are those that would run without the excluding rules, but for the
excluded ones. -/
theorem runs_eq_filter_including (tests : List Case) (criteria : List Criterion) :
    runs tests criteria =
      (runs tests (including criteria)).filter fun e => !excluded criteria e.1 := by
  have hnone (l : List (Case × Nat)) :
      (l.filter fun e => !excluded (including criteria) e.1) = l :=
    List.filter_eq_self.2 fun e _ => by rw [excluded_including, Bool.not_false]
  simp only [runs, fallsBack_including, hnone, sequence_including, copies_including]
  split
  · rfl
  · -- tests without metadata are not excluded
    have hplain (e : Case × Nat) :
        (!excluded criteria e.1 && !e.1.isSelectable) = !e.1.isSelectable := by
      cases he : excluded criteria e.1 with
      | false => rfl
      | true => rw [isSelectable_of_excluded he, Bool.not_true, Bool.and_false]
    rw [List.filter_append, filter_flatMap_replicate, List.filter_filter]
    simp only [hplain]

/-! ## The positions that do not run -/

/-- Exclusion comes before every other reason, which the excluding rules do not change. -/
theorem reason?_eq_including :
    reason? tests criteria test =
      if excluded criteria test then some .excluded
      else reason? tests (including criteria) test := by
  simp only [reason?, fallsBack_including, excluded_including, included_including]
  cases he : excluded criteria test with
  | true => simp [isSelectable_of_excluded he]
  | false => simp

/-- Without excluding rules the only reason is that no rule has asked for the test. -/
theorem eq_notSelected_of_reason?_including {reason : DropReason}
    (h : reason? tests (including criteria) test = some reason) : reason = .notSelected := by
  simp only [reason?, excluded_including, Bool.false_eq_true, if_false] at h
  split at h
  · cases h
  · split at h
    · split at h
      · cases h
      · exact (Option.some.inj h).symm
    · cases h

/-- Entries are made position by position. -/
theorem entries_eq_zipIdx (tests : List Case) (reason : Case → Option DropReason) :
    entries tests reason =
      tests.zipIdx.filterMap fun e => (reason e.1).map fun r => ⟨e.1.name, r⟩ := by
  have hfst : tests = tests.zipIdx.map (·.1) := (List.zipIdx_map_fst 0 tests).symm
  conv_lhs => rw [hfst, entries, List.filterMap_map]
  rfl

theorem dropped_selection_eq_entries :
    (selection tests criteria).dropped = entries tests (reason? tests criteria) := by
  rw [Tally.dropped_selection, entries_eq_zipIdx]

theorem mem_entries {reason : Case → Option DropReason} {d : Dropped} :
    d ∈ entries tests reason ↔
      ∃ test ∈ tests, reason test = some d.reason ∧ test.name = d.name := by
  obtain ⟨name, why⟩ := d
  simp [entries, List.mem_filterMap, Option.map_eq_some_iff, and_comm]

end Including

end Declared

/-- **Excluding rules act as a filter**, wherever they stand among the rules. The selected tests are
those that the including rules alone select, without the tests that some rule leaves out, in the
same order and as often as before; the selection falls back exactly if it would without the
excluding rules; and of the dropped tests, one by one in the order of discovery, those that some
rule leaves out are excluded, and the others are the ones that the including rules alone drop, for
the reason they have there, which is never exclusion. -/
theorem select_eq_filter_including (tests : List Case) (criteria : List Criterion) :
    let s := select tests criteria
    let inc := select tests (Declared.including criteria)
    s.tests = (inc.tests.filter fun test => !Declared.excluded criteria test) ∧
    s.fellBack = inc.fellBack ∧
    inc.dropped = Declared.entries tests (Declared.reason? tests (Declared.including criteria)) ∧
    (∀ d ∈ inc.dropped, d.reason = .notSelected) ∧
    s.dropped = Declared.entries tests fun test =>
      if Declared.excluded criteria test then some .excluded
      else Declared.reason? tests (Declared.including criteria) test := by
  intro s inc
  have hs : s = Declared.selection tests criteria := select_eq tests criteria
  have hinc : inc = Declared.selection tests (Declared.including criteria) :=
    select_eq tests (Declared.including criteria)
  rw [hs, hinc]
  refine ⟨?_, Declared.fallsBack_including.symm, Declared.dropped_selection_eq_entries,
    fun d hd => ?_, ?_⟩
  · simp only [Declared.selection]
    rw [Declared.runs_eq_filter_including, List.filter_map]
    rfl
  · rw [Declared.dropped_selection_eq_entries] at hd
    obtain ⟨test, -, hreason, -⟩ := Declared.mem_entries.1 hd
    exact Declared.eq_notSelected_of_reason?_including hreason
  · rw [Declared.dropped_selection_eq_entries]
    congr 1
    funext test
    exact Declared.reason?_eq_including

end TestBench
