import TestBench.Proofs.SelectionPass

/-!
# Applying a rule again

`times` is the number of copies that a rule wants, not a number of copies that it adds. So a rule that
has been applied has nothing more to say: applied again, it finds every test that it wants in its
place, with at least the copies that it asks for, and every test that it leaves out left out. This
holds however many other rules stand between, since no rule takes back what an earlier one did.

`Declared.selection_concat_of_mem` says so of one rule at the end, part by part of the declared
selection. `select_append_repeated` is the law for any list of rules that occurred before, by
induction on that list.
-/

set_option autoImplicit false

namespace TestBench

namespace Declared

variable {tests : List Case} {criteria : List Criterion} {c : Criterion} {test : Case}

/-! ## What a rule has said already -/

theorem included_of_wants (hc : c ∈ criteria) (hw : c.wants test = true) :
    included criteria test = true := by
  rw [included, Criterion.isSelectable_of_wants hw, Bool.true_and, List.any_eq_true]
  exact ⟨c, hc, hw⟩

theorem excluded_of_leavesOut (hc : c ∈ criteria) (hl : c.leavesOut test = true) :
    excluded criteria test = true := by
  rw [excluded, List.any_eq_true]
  exact ⟨c, hc, hl⟩

/-- **A rule gets the copies that it asks for**, whatever the rules after it ask for. -/
theorem times_le_copies (hc : c ∈ criteria) (ha : c.asksFor test = true) :
    c.times.val ≤ copies criteria test := by
  -- from the last rule to the first, since the copies only grow
  induction criteria using List.reverseRecOn with
  | nil => exact absurd hc List.not_mem_nil
  | append_singleton criteria last ih =>
      rw [copies_concat]
      rcases List.mem_append.1 hc with hc | hc
      · have hbefore := ih hc
        split
        · exact Nat.le_trans hbefore (Nat.le_max_left _ _)
        · exact hbefore
      · obtain rfl := List.mem_singleton.1 hc
        rw [if_pos ha]
        exact Nat.le_max_right _ _

/-! ## One rule again -/

theorem included_concat_of_mem (hc : c ∈ criteria) :
    included (criteria ++ [c]) test = included criteria test := by
  rw [included_concat]
  cases hw : c.wants test with
  | false => exact Bool.or_false _
  | true => rw [included_of_wants hc hw, Bool.or_true]

theorem excluded_concat_of_mem (hc : c ∈ criteria) :
    excluded (criteria ++ [c]) test = excluded criteria test := by
  rw [excluded_concat]
  cases hl : c.leavesOut test with
  | false => exact Bool.or_false _
  | true => rw [excluded_of_leavesOut hc hl, Bool.or_true]

theorem copies_concat_of_mem (hc : c ∈ criteria) :
    copies (criteria ++ [c]) test = copies criteria test := by
  rw [copies_concat]
  cases ha : c.asksFor test with
  | false => exact if_neg Bool.false_ne_true
  | true => rw [if_pos rfl, Nat.max_eq_left (times_le_copies hc ha)]

/-- **No test gets a new place** from a rule that was applied before. -/
theorem sequence_concat_of_mem (tests : List Case) (hc : c ∈ criteria) :
    sequence tests (criteria ++ [c]) = sequence tests criteria := by
  have hnew : (tests.zipIdx.filter fun e => c.wants e.1 && !included criteria e.1) = [] := by
    rw [List.filter_eq_nil_iff]
    intro e _ he
    rw [Bool.and_eq_true, Bool.not_eq_true'] at he
    rw [included_of_wants hc he.1] at he
    exact Bool.noConfusion he.2
  rw [sequence_concat, hnew, List.append_nil]

theorem fallsBack_concat_of_mem (tests : List Case) (hc : c ∈ criteria) :
    fallsBack tests (criteria ++ [c]) = fallsBack tests criteria := by
  simp only [fallsBack, included_concat_of_mem hc]

/-- **A rule that was applied before changes nothing** when it is applied again. -/
theorem selection_concat_of_mem (tests : List Case) (hc : c ∈ criteria) :
    selection tests (criteria ++ [c]) = selection tests criteria := by
  have hruns : runs tests (criteria ++ [c]) = runs tests criteria := by
    simp only [runs, fallsBack_concat_of_mem tests hc, sequence_concat_of_mem tests hc,
      excluded_concat_of_mem hc, copies_concat_of_mem hc]
  have hdrops : drops tests (criteria ++ [c]) = drops tests criteria := by
    simp only [drops, reason?, fallsBack_concat_of_mem tests hc, included_concat_of_mem hc,
      excluded_concat_of_mem hc]
  simp only [selection, hruns, hdrops, fallsBack_concat_of_mem tests hc]

end Declared

/-- **The number of copies is a target and not an increment.** Rules that all occurred before, be they
including or excluding, in whatever order and however often they are applied again, leave the
selection as it is: the same tests in the same order and as often, the same dropped tests, and the
same word on whether it fell back. -/
theorem select_append_repeated (tests : List Case) (cs ds : List Criterion)
    (hds : ∀ d ∈ ds, d ∈ cs) : select tests (cs ++ ds) = select tests cs := by
  induction ds generalizing cs with
  | nil => rw [List.append_nil]
  | cons d rest ih =>
      obtain ⟨hd, hrest⟩ := List.forall_mem_cons.1 hds
      have hlater : ∀ e ∈ rest, e ∈ cs ++ [d] := by
        intro e he
        exact List.mem_append_left _ (hrest e he)
      calc select tests (cs ++ d :: rest) = select tests (cs ++ [d] ++ rest) := by
            rw [List.append_cons]
        _ = select tests (cs ++ [d]) := ih (cs ++ [d]) hlater
        _ = select tests cs := by
            rw [select_eq, select_eq, Declared.selection_concat_of_mem tests hd]

/-- A rule that asks for fewer copies comes after one that asks for more, one asks for none, and one
leaves out what another includes; all of them again, some twice and in another order. -/
theorem select_append_repeated_overlapping :
    let boot : Case := ⟨"boot", some (.basic "net" "io" 1), false, ∅⟩
    let slow : Case := ⟨"slow", some (.basic "net" "io" 2), false, ∅⟩
    let disk : Case := ⟨"disk", some (.basic "disk" "raw" 2), false, ∅⟩
    let lint : Case := ⟨"lint", none, false, ∅⟩
    let more : Criterion := { Criterion.blank with area := some "net", times := 3 }
    let fewer : Criterion := { Criterion.blank with category := some "io", times := 2 }
    let never : Criterion := { Criterion.blank with area := some "disk", times := 0 }
    let out : Criterion := { Criterion.blank with name := some "slow", exclude := true }
    let cs := [more, fewer, never, out]
    let ds := [out, never, fewer, more, fewer, out]
    let s := select [lint, boot, slow, disk] (cs ++ ds)
    (∀ d ∈ ds, d ∈ cs) ∧ s = select [lint, boot, slow, disk] cs ∧
      s.tests = [boot, boot, boot, lint] ∧
      s.dropped = [⟨"slow", .excluded⟩, ⟨"disk", .notSelected⟩] := by
  intro boot slow disk lint more fewer never out cs ds s
  have hds : ∀ d ∈ ds, d ∈ cs := by decide +kernel
  have hs : s = select [lint, boot, slow, disk] cs := select_append_repeated _ cs ds hds
  exact ⟨hds, hs, by decide +kernel, by decide +kernel⟩

end TestBench
