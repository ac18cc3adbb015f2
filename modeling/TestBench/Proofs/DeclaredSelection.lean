import TestBench.Suite.Selection
import Mathlib.Data.List.Dedup
import Mathlib.Data.List.Induction

/-!
# The selection that criteria declare

`select` makes one pass over criteria and tests and changes its tally as it goes. This module says
without a pass what the result is. Each position of the discovered tests is judged by itself:

- it is *included* when the test carries metadata and a rule that does not exclude asks for at least
  one copy of it;
- it is *excluded* when an excluding rule matches it;
- its *rank* is the place of the first rule that includes it, and its *copies* are the greatest
  number that any matching rule asks for.

`Declared.runs` lists the positions that run, each as often as it runs, and `Declared.drops` the
positions that do not run, with their reasons. `Declared.selection` reads the selection off the two.

The pass meets one rule after the other, so the lemmas here say how each of these notions changes
when a rule is added at the end (`Declared.sequence_concat`), and that every position is
accounted for exactly once (`Declared.runs_append_drops_perm`). `TestBench.Proofs.SelectionPass`
has the pass itself.
-/

set_option autoImplicit false

namespace TestBench

namespace Criterion

/-- Whether the rule asks for copies of a test, be it for none. -/
def asksFor (c : Criterion) (test : Case) : Bool := !c.exclude && c.matchesCase test

/-- Whether the rule asks for at least one copy of a test. -/
def wants (c : Criterion) (test : Case) : Bool := c.asksFor test && decide (0 < c.times.val)

/-- Whether the rule leaves a test out. -/
def leavesOut (c : Criterion) (test : Case) : Bool := c.exclude && c.matchesCase test

variable {c : Criterion} {test : Case}

/-- Only tests with metadata are matched. -/
theorem isSelectable_of_matchesCase (h : c.matchesCase test = true) : test.isSelectable = true := by
  cases hm : test.metadata with
  | none => rw [matchesCase_of_metadata_eq_none hm] at h; exact absurd h Bool.false_ne_true
  | some m => simp [Case.isSelectable, hm]

theorem isSelectable_of_wants (h : c.wants test = true) : test.isSelectable = true := by
  simp only [wants, asksFor, Bool.and_eq_true] at h
  exact isSelectable_of_matchesCase h.1.2

/-- A rule that wants a test asks for it. -/
theorem asksFor_of_wants (h : c.wants test = true) : c.asksFor test = true := by
  simp only [wants, Bool.and_eq_true] at h
  exact h.1

/-- A rule that asks for a test and does not want it asks for no copies. -/
theorem times_eq_zero (h : c.asksFor test = true) (hw : c.wants test = false) :
    c.times.val = 0 := by
  simp only [wants, h, Bool.true_and, decide_eq_false_iff_not] at hw
  omega

end Criterion

namespace Declared

/-! ## The judgement of one test -/

/-- Whether the rules include a test. -/
def included (criteria : List Criterion) (test : Case) : Bool :=
  test.isSelectable && criteria.any fun c => c.wants test

/-- Whether the rules exclude a test. -/
def excluded (criteria : List Criterion) (test : Case) : Bool :=
  criteria.any fun c => c.leavesOut test

/-- The place of the first rule that includes a test. -/
def rank (criteria : List Criterion) (test : Case) : Nat :=
  criteria.findIdx fun c => c.wants test

/-- The greatest number of copies that any rule asks for. -/
def copies (criteria : List Criterion) (test : Case) : Nat :=
  ((criteria.filter fun c => c.asksFor test).map fun c => c.times.val).foldl max 0

/-! ## The positions that run and those that do not -/

/-- Whether one position runs before another: its rule comes first, or they have the same rule and
it was discovered first. -/
def precedes (criteria : List Criterion) (a b : Case × Nat) : Bool :=
  decide (rank criteria a.1 < rank criteria b.1 ∨
    rank criteria a.1 = rank criteria b.1 ∧ a.2 ≤ b.2)

/-- The included positions in the order in which they run. -/
def sequence (tests : List Case) (criteria : List Criterion) : List (Case × Nat) :=
  (tests.zipIdx.filter fun e => included criteria e.1).mergeSort (precedes criteria)

/-- Whether no position is included. -/
def fallsBack (tests : List Case) (criteria : List Criterion) : Bool :=
  tests.all fun test => !included criteria test

/-- The positions that run, each as often as it runs. -/
def runs (tests : List Case) (criteria : List Criterion) : List (Case × Nat) :=
  if fallsBack tests criteria then tests.zipIdx.filter fun e => !excluded criteria e.1
  else
    (((sequence tests criteria).filter fun e => !excluded criteria e.1).flatMap fun e =>
        List.replicate (copies criteria e.1) e) ++
      tests.zipIdx.filter fun e => !e.1.isSelectable

/-- Why a test does not run, if it does not. -/
def reason? (tests : List Case) (criteria : List Criterion) (test : Case) : Option DropReason :=
  if fallsBack tests criteria then
    if excluded criteria test then some .excluded else none
  else if test.isSelectable then
    if excluded criteria test then some .excluded
    else if included criteria test then none
    else some .notSelected
  else none

/-- The positions that do not run, with their reasons. -/
def drops (tests : List Case) (criteria : List Criterion) : List ((Case × Nat) × DropReason) :=
  tests.zipIdx.filterMap fun e => (reason? tests criteria e.1).map fun reason => (e, reason)

/-- The selection that the rules declare. -/
def selection (tests : List Case) (criteria : List Criterion) : Selection where
  tests := (runs tests criteria).map (·.1)
  dropped := (drops tests criteria).map fun d => ⟨d.1.1.name, d.2⟩
  fellBack := fallsBack tests criteria

/-! ## One more rule -/

section Concat

variable (criteria : List Criterion) (c : Criterion) (test : Case)

theorem included_nil : included [] test = false := by
  simp [included]

theorem included_concat :
    included (criteria ++ [c]) test = (included criteria test || c.wants test) := by
  cases hs : test.isSelectable with
  | true => simp [included, hs]
  | false =>
      have hw : c.wants test = false := by
        by_contra h
        rw [Criterion.isSelectable_of_wants (by simpa using h)] at hs
        exact Bool.noConfusion hs
      simp [included, hs, hw]

theorem excluded_concat :
    excluded (criteria ++ [c]) test = (excluded criteria test || c.leavesOut test) := by
  simp [excluded]

/-- A further rule raises the copies that it asks for. -/
theorem copies_concat :
    copies (criteria ++ [c]) test =
      if c.asksFor test then max (copies criteria test) c.times.val else copies criteria test := by
  cases h : c.asksFor test <;> simp [copies, h]

variable {criteria c test}

/-- An included test is wanted by some rule. -/
theorem any_wants_of_included (h : included criteria test = true) :
    (criteria.any fun c => c.wants test) = true := by
  simp only [included, Bool.and_eq_true] at h
  exact h.2

theorem rank_lt_of_included (h : included criteria test = true) :
    rank criteria test < criteria.length := by
  obtain ⟨c, hc, hw⟩ := List.any_eq_true.1 (any_wants_of_included h)
  exact List.findIdx_lt_length_of_exists ⟨c, hc, hw⟩

/-- A further rule does not change the rank of an included test. -/
theorem rank_concat_of_included (h : included criteria test = true) :
    rank (criteria ++ [c]) test = rank criteria test := by
  have hlt := rank_lt_of_included h
  simp only [rank] at hlt ⊢
  rw [List.findIdx_append, if_pos hlt]

/-- A test that only the last rule wants has the rank of that rule. -/
theorem rank_concat_of_not_included (h : included criteria test = false)
    (hw : c.wants test = true) :
    rank (criteria ++ [c]) test = criteria.length := by
  have hs := Criterion.isSelectable_of_wants hw
  simp only [included, hs, Bool.true_and, List.any_eq_false, Bool.not_eq_true] at h
  have hl := List.findIdx_eq_length.2 h
  simp only [rank]
  rw [List.findIdx_append, hl, if_neg (Nat.lt_irrefl _)]
  simp [List.findIdx_cons, hw]

/-- A test that is not included has no copies. -/
theorem copies_eq_zero_of_not_included (h : included criteria test = false) :
    copies criteria test = 0 := by
  induction criteria using List.reverseRecOn with
  | nil => rfl
  | append_singleton criteria c ih =>
      rw [included_concat, Bool.or_eq_false_iff] at h
      rw [copies_concat, ih h.1]
      split
      · rename_i ha
        rw [Criterion.times_eq_zero ha h.2]
        rfl
      · rfl

/-- An included test has copies. -/
theorem copies_pos_of_included (h : included criteria test = true) : 0 < copies criteria test := by
  induction criteria using List.reverseRecOn with
  | nil => simp [included_nil] at h
  | append_singleton criteria c ih =>
      rw [included_concat, Bool.or_eq_true] at h
      rw [copies_concat]
      rcases h with h | h
      · have := ih h
        split <;> omega
      · rw [if_pos (Criterion.asksFor_of_wants h)]
        simp only [Criterion.wants, Bool.and_eq_true, decide_eq_true_eq] at h
        omega

end Concat

/-! ## The order of the included positions -/

section Order

variable {tests : List Case} {criteria : List Criterion} {c : Criterion} {a b e : Case × Nat}

theorem precedes_iff :
    precedes criteria a b = true ↔
      rank criteria a.1 < rank criteria b.1 ∨
        rank criteria a.1 = rank criteria b.1 ∧ a.2 ≤ b.2 := by
  simp [precedes]

/-- A position holds one test. -/
theorem eq_of_mem_zipIdx (ha : a ∈ tests.zipIdx) (hb : b ∈ tests.zipIdx) (h : a.2 = b.2) :
    a = b := by
  rw [List.mem_zipIdx_iff_getElem?] at ha hb
  rw [h, hb] at ha
  exact Prod.ext (Option.some.inj ha).symm h

/-- Positions ascend in the order of discovery. -/
theorem pairwise_zipIdx (tests : List Case) :
    tests.zipIdx.Pairwise fun a b => a.2 < b.2 := by
  have h : (tests.zipIdx.map fun e => e.2).Pairwise (· < ·) := by
    simp [List.zipIdx_map_snd, List.pairwise_lt_range']
  exact List.pairwise_map.1 h

theorem nodup_zipIdx (tests : List Case) : tests.zipIdx.Nodup := by
  refine List.Pairwise.imp ?_ (pairwise_zipIdx tests)
  intro a b h e
  rw [e] at h
  exact Nat.lt_irrefl _ h

theorem mem_sequence :
    e ∈ sequence tests criteria ↔ e ∈ tests.zipIdx ∧ included criteria e.1 = true := by
  simp [sequence]

theorem pairwise_sequence (tests : List Case) (criteria : List Criterion) :
    (sequence tests criteria).Pairwise fun a b => precedes criteria a b = true := by
  refine List.pairwise_mergeSort (fun a b c => ?_) (fun a b => ?_) _
  · simp only [precedes_iff]
    omega
  · simp only [Bool.or_eq_true, precedes_iff]
    omega

/-- **A further rule puts the positions that it is the first to include at the end**, in the order
of their discovery. -/
theorem sequence_concat (tests : List Case) (criteria : List Criterion) (c : Criterion) :
    sequence tests (criteria ++ [c]) =
      sequence tests criteria ++
        tests.zipIdx.filter fun e => c.wants e.1 && !included criteria e.1 := by
  -- both sides arrange the same positions in the order of the extended rules
  refine @List.Perm.eq_of_pairwise _ (fun a b => precedes (criteria ++ [c]) a b = true) _ _ ?_
    (pairwise_sequence tests (criteria ++ [c])) ?_ ?_
  · -- the order tells positions apart
    intro a b ha hb hab hba
    rw [precedes_iff] at hab hba
    have hb' : b ∈ tests.zipIdx := by
      rcases List.mem_append.1 hb with hb | hb
      · exact (mem_sequence.1 hb).1
      · exact (List.mem_filter.1 hb).1
    exact eq_of_mem_zipIdx (mem_sequence.1 ha).1 hb' (by omega)
  · refine List.pairwise_append.2 ⟨?_, ?_, ?_⟩
    · -- the earlier positions keep their ranks
      refine (pairwise_sequence tests criteria).imp_of_mem fun {a b} ha hb h => ?_
      rw [precedes_iff] at h ⊢
      rwa [rank_concat_of_included (mem_sequence.1 ha).2,
        rank_concat_of_included (mem_sequence.1 hb).2]
    · -- the further positions all have the rank of the further rule
      refine ((pairwise_zipIdx tests).filter _).imp_of_mem fun {a b} ha hb h => ?_
      have ha' := (List.mem_filter.1 ha).2
      have hb' := (List.mem_filter.1 hb).2
      simp only [Bool.and_eq_true, Bool.not_eq_true'] at ha' hb'
      rw [precedes_iff, rank_concat_of_not_included ha'.2 ha'.1,
        rank_concat_of_not_included hb'.2 hb'.1]
      exact .inr ⟨rfl, Nat.le_of_lt h⟩
    · intro a ha b hb
      have hb' := (List.mem_filter.1 hb).2
      simp only [Bool.and_eq_true, Bool.not_eq_true'] at hb'
      have hlt := rank_lt_of_included (mem_sequence.1 ha).2
      rw [precedes_iff, rank_concat_of_included (mem_sequence.1 ha).2,
        rank_concat_of_not_included hb'.2 hb'.1]
      exact .inl hlt
  · -- the positions of the extended rules, split by whether the earlier rules include them
    apply (List.mergeSort_perm _ _).trans
    refine .trans ?_ ((List.mergeSort_perm _ _).symm.append_right _)
    have hp := List.filter_append_perm (fun e : Case × Nat => included criteria e.1)
      (tests.zipIdx.filter fun e => included (criteria ++ [c]) e.1)
    rw [List.filter_filter, List.filter_filter] at hp
    refine hp.symm.trans (List.Perm.of_eq ?_)
    congr 1
    · refine List.filter_congr fun e _ => ?_
      rw [included_concat]
      cases included criteria e.1 <;> rfl
    · refine List.filter_congr fun e _ => ?_
      rw [included_concat]
      cases included criteria e.1 <;> simp

end Order

/-! ## Every position is accounted for -/

section Accounting

variable {tests : List Case} {criteria : List Criterion} {e : Case × Nat}

/-- **A position runs exactly when there is no reason against it.** -/
theorem mem_runs :
    e ∈ runs tests criteria ↔ e ∈ tests.zipIdx ∧ reason? tests criteria e.1 = none := by
  cases hf : fallsBack tests criteria with
  | true =>
      simp only [runs, reason?, hf, if_true, List.mem_filter]
      cases excluded criteria e.1 <;> simp
  | false =>
      simp only [runs, reason?, hf, Bool.false_eq_true, if_false, List.mem_append, List.mem_flatMap,
        List.mem_filter, List.mem_replicate, mem_sequence]
      constructor
      · rintro (⟨x, ⟨⟨hx, hi⟩, he⟩, -, rfl⟩ | ⟨hx, hs⟩)
        · simp only [Bool.not_eq_true'] at he
          exact ⟨hx, by simp [hi, he]⟩
        · exact ⟨hx, if_neg (by simpa using hs)⟩
      · rintro ⟨hx, hr⟩
        cases hs : e.1.isSelectable with
        | false => exact .inr ⟨hx, rfl⟩
        | true =>
            -- without a reason the test is included and not excluded, so it has copies
            simp only [hs, if_true] at hr
            cases he : excluded criteria e.1 <;> cases hi : included criteria e.1 <;>
              simp only [he, hi, if_true, Bool.false_eq_true, if_false, reduceCtorEq] at hr
            have hc := copies_pos_of_included hi
            exact .inl ⟨e, ⟨⟨hx, hi⟩, by simp [he]⟩, by omega, rfl⟩

/-- The dropped positions are those with a reason. -/
theorem map_fst_drops (tests : List Case) (criteria : List Criterion) :
    (drops tests criteria).map (·.1) =
      tests.zipIdx.filter fun e => (reason? tests criteria e.1).isSome := by
  simp only [drops]
  induction tests.zipIdx with
  | nil => rfl
  | cons e l ih =>
      cases hr : reason? tests criteria e.1 with
      | none => simp [hr, ih]
      | some reason => simp [hr, ih]

/-- **Every position is accounted for**: it runs, or it is dropped, and no position is dropped twice
or runs although it is dropped. -/
theorem runs_append_drops_perm (tests : List Case) (criteria : List Criterion) :
    ((runs tests criteria).dedup ++ (drops tests criteria).map (·.1)).Perm tests.zipIdx := by
  rw [map_fst_drops]
  refine (List.perm_ext_iff_of_nodup ?_ (nodup_zipIdx tests)).2 fun e => ?_
  · refine List.nodup_append'.2 ⟨List.nodup_dedup _, (nodup_zipIdx tests).filter _, ?_⟩
    intro e hr hd
    have hn := (mem_runs.1 (List.mem_dedup.1 hr)).2
    have hs := (List.mem_filter.1 hd).2
    rw [hn] at hs
    exact Bool.noConfusion hs
  · rw [List.mem_append, List.mem_dedup, mem_runs, List.mem_filter, ← and_or_left]
    cases reason? tests criteria e.1 <;> simp

end Accounting

end Declared

end TestBench
