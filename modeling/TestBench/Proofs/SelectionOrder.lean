import TestBench.Proofs.SelectionExclusion

/-!
# The order of rules and of discovery

A selection depends on the order of the rules and on the order in which tests were discovered, but
only through the order of its result. This module says what does not depend on them: whether the
selection falls back, how often each test runs, and which tests are dropped for which reasons
(`select_perm`). With the tests in one order the dropped tests are even the same list.

The judgement of one test asks whether some rule wants it, whether some rule leaves it out, and for
the greatest number of copies, none of which has an order in it. What is left of the positions is
that they are arranged, and `Declared.pick` has the tests that run without any arrangement.
-/

set_option autoImplicit false

namespace TestBench

namespace Declared

variable {tests tests' : List Case} {criteria criteria' : List Criterion} {test : Case}

/-! ## The judgement of one test -/

theorem included_perm (h : criteria.Perm criteria') :
    included criteria test = included criteria' test := by
  rw [included, included, h.any_eq]

theorem excluded_perm (h : criteria.Perm criteria') :
    excluded criteria test = excluded criteria' test :=
  h.any_eq

/-- The greatest number of copies is the same in whatever order the rules ask for them. -/
theorem copies_perm (h : criteria.Perm criteria') :
    copies criteria test = copies criteria' test := by
  have hasked := ((h.filter fun c => c.asksFor test).map fun c => c.times.val)
  exact hasked.foldl_eq' (fun a _ b _ m => Nat.max_right_comm m a b) 0

theorem fallsBack_perm (ht : tests.Perm tests') (hc : criteria.Perm criteria') :
    fallsBack tests criteria = fallsBack tests' criteria' := by
  simp only [fallsBack, included_perm hc]
  exact ht.all_eq

theorem reason?_perm (ht : tests.Perm tests') (hc : criteria.Perm criteria') :
    reason? tests criteria test = reason? tests' criteria' test := by
  simp only [reason?, fallsBack_perm ht hc, included_perm hc, excluded_perm hc]

/-! ## The tests that run, in no order -/

/-- The tests that run, each as often as it runs, where they were discovered. -/
def pick (tests : List Case) (criteria : List Criterion) : List Case :=
  if fallsBack tests criteria then tests.filter fun test => !excluded criteria test
  else
    ((tests.filter fun test => included criteria test && !excluded criteria test).flatMap
        fun test => List.replicate (copies criteria test) test) ++
      tests.filter fun test => !test.isSelectable

/-- Filtering positions by their tests is filtering the tests. -/
theorem map_fst_filter_zipIdx (tests : List Case) (p : Case → Bool) :
    (tests.zipIdx.filter fun e => p e.1).map (·.1) = tests.filter p := by
  have hfst : tests = tests.zipIdx.map (·.1) := (List.zipIdx_map_fst 0 tests).symm
  conv_rhs => rw [hfst, List.filter_map]
  rfl

/-- **The positions that run hold the picked tests**, however they are arranged. -/
theorem map_fst_runs_perm (tests : List Case) (criteria : List Criterion) :
    ((runs tests criteria).map (·.1)).Perm (pick tests criteria) := by
  rw [runs, pick]
  split
  · rw [map_fst_filter_zipIdx tests fun test => !excluded criteria test]
  · rw [List.map_append, map_fst_filter_zipIdx tests fun test => !test.isSelectable]
    refine List.Perm.append_right _ ?_
    -- the sequence is the included positions in another order, so it has the same copies
    have hsequence := ((List.mergeSort_perm (tests.zipIdx.filter fun e => included criteria e.1)
      (precedes criteria)).filter fun e => !excluded criteria e.1)
    rw [List.filter_filter] at hsequence
    have hruns := (hsequence.flatMap_right fun e => List.replicate (copies criteria e.1) e).map
      (·.1)
    refine hruns.trans (List.Perm.of_eq ?_)
    simp only [List.map_flatMap, List.map_replicate]
    rw [← map_fst_filter_zipIdx, List.flatMap_map]
    simp only [Bool.and_comm]

theorem pick_perm (ht : tests.Perm tests') (hc : criteria.Perm criteria') :
    (pick tests criteria).Perm (pick tests' criteria') := by
  simp only [pick, fallsBack_perm ht hc, included_perm hc, excluded_perm hc, copies_perm hc]
  split
  · exact ht.filter _
  · exact ((ht.filter _).flatMap_right _).append (ht.filter _)

end Declared

/-- **A selection does not depend on the order of rules or of discovery**, but for the order of its
result. Selected under the same rules in any order, from the same tests in any order, the same tests
run, each as often, the same tests are dropped for the same reasons, and the selection falls back in
both cases or in none. As long as the tests stay in their order, the dropped tests do so too. -/
theorem select_perm {tests tests' : List Case} {criteria criteria' : List Criterion}
    (ht : tests.Perm tests') (hc : criteria.Perm criteria') :
    let s := select tests criteria
    let s' := select tests' criteria'
    s'.fellBack = s.fellBack ∧ s'.tests.Perm s.tests ∧ s'.dropped.Perm s.dropped ∧
      (select tests criteria').dropped = s.dropped := by
  intro s s'
  simp only [s, s', select_eq, Declared.dropped_selection_eq_entries]
  refine ⟨(Declared.fallsBack_perm ht hc).symm, ?_, ?_, ?_⟩
  · calc (Declared.selection tests' criteria').tests.Perm (Declared.pick tests' criteria') :=
        Declared.map_fst_runs_perm tests' criteria'
      List.Perm _ (Declared.pick tests criteria) := (Declared.pick_perm ht hc).symm
      List.Perm _ (Declared.selection tests criteria).tests :=
        (Declared.map_fst_runs_perm tests criteria).symm
  · have hreason : Declared.reason? tests' criteria' = Declared.reason? tests criteria :=
      funext fun test => (Declared.reason?_perm ht hc).symm
    rw [hreason]
    exact ht.symm.filterMap _
  · have hreason : Declared.reason? tests criteria' = Declared.reason? tests criteria :=
      funext fun test => (Declared.reason?_perm (List.Perm.refl _) hc).symm
    rw [hreason]

/-- Equal tests apart from each other, copies topped up in either order, and an exclusion before and
after the rules that include: the result stands in another order, and that is all. -/
theorem select_perm_of_twins :
    let twin : Case := ⟨"twin", some (.basic "net" "io" 1), false, ∅⟩
    let slow : Case := ⟨"slow", some (.basic "net" "io" 2), false, ∅⟩
    let disk : Case := ⟨"disk", some (.basic "disk" "io" 2), false, ∅⟩
    let lint : Case := ⟨"lint", none, false, ∅⟩
    let out : Criterion := { Criterion.blank with name := some "slow", exclude := true }
    let twice : Criterion := { Criterion.blank with area := some "net", times := 2 }
    let never : Criterion := { Criterion.blank with area := some "disk", times := 0 }
    let once : Criterion := { Criterion.blank with category := some "io" }
    let s := select [twin, slow, disk, lint, twin] [out, twice, never, once]
    let s' := select [disk, lint, twin, twin, slow] [once, never, twice, out]
    s.tests = [twin, twin, twin, twin, disk, lint] ∧
      s'.tests = [disk, twin, twin, twin, twin, lint] ∧
      s.dropped = [⟨"slow", .excluded⟩] ∧ s'.fellBack = s.fellBack ∧ s'.tests.Perm s.tests ∧
      s'.dropped.Perm s.dropped := by
  intro twin slow disk lint out twice never once s s'
  have ht : [twin, slow, disk, lint, twin].Perm [disk, lint, twin, twin, slow] := by
    decide +kernel
  have hc : [out, twice, never, once].Perm [once, never, twice, out] := by decide +kernel
  obtain ⟨hback, htests, hdropped, -⟩ := select_perm ht hc
  exact ⟨by decide +kernel, by decide +kernel, by decide +kernel, hback, htests, hdropped⟩

end TestBench
