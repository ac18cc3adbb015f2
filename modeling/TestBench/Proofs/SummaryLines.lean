import Mathlib.Data.List.Basic
import TestBench.Report.Summary

/-!
# What the summary says

The summary of a report is made in passes that look at the outcomes each in its own way: the lines
with all invocations, the lines with those that went wrong, the counts and the word on success. This
module ties them to the list of invocations. `Report.summary_false` and `Report.summary_true` say which
lines there are: those of the invocations that are wanted, in their order, then those of the targets
that were not deleted, then the counts. `Report.counts_eq` reads the counts off the list without a
pass. So the short summary is the long one without the lines of invocations that passed or were
skipped, line by line (`Report.summary_agrees`).
-/

set_option autoImplicit false

namespace TestBench

/-- An outcome has one of four words, and one of two of them if it is a failure. -/
theorem Outcome.status_once (o : Outcome) :
    (if o.status == "passed" then 1 else 0) + (if o.status == "failed" then 1 else 0) +
        (if o.status == "errored" then 1 else 0) + (if o.status == "skipped" then 1 else 0) = 1 ∧
      (if o.status == "failed" then 1 else 0) + (if o.status == "errored" then 1 else 0) =
        if o.isFailure then 1 else 0 := by
  cases o <;> exact ⟨rfl, rfl⟩

/-! ## The line of an invocation -/

namespace InvocationReport

/-- The line of an invocation, whether it is wanted or not. -/
def line (i : InvocationReport) : String :=
  match i.outcome with
  | .passed => s!"PASSED  {i.id}"
  | .skipped reason => s!"SKIPPED {i.id} ({reason})"
  | .failed message => s!"FAILED  {i.id} - {message}"
  | .errored message => s!"ERROR   {i.id} - {message}"

/-- An invocation has its line, unless only failures are wanted and it is none. -/
theorem line?_eq (i : InvocationReport) (failuresOnly : Bool) :
    i.line? failuresOnly = if failuresOnly && !i.outcome.isFailure then none else some i.line := by
  obtain ⟨id, test, target, targetId, outcome⟩ := i
  cases outcome <;> cases failuresOnly <;> rfl

end InvocationReport

namespace Report

variable {r : Report}

/-! ## Counts -/

/-- How many invocations have an outcome with the given word. -/
def number (r : Report) (status : String) : Nat :=
  r.invocations.countP fun i => i.outcome.status == status

/-- Counting goes on from what was counted before. -/
theorem foldl_count (invocations : List InvocationReport) (c : Counts) :
    invocations.foldl count c =
      ⟨c.passed + invocations.countP fun i => i.outcome.status == "passed",
       c.failed + invocations.countP fun i => i.outcome.status == "failed",
       c.errored + invocations.countP fun i => i.outcome.status == "errored",
       c.skipped + invocations.countP fun i => i.outcome.status == "skipped"⟩ := by
  induction invocations generalizing c with
  | nil => rfl
  | cons i rest ih =>
      rw [List.foldl_cons, ih]
      cases h : i.outcome <;> simp [count, h, Outcome.status, Nat.add_assoc, Nat.add_comm 1]

/-- **The counts are those of the outcomes.** -/
theorem counts_eq (r : Report) :
    r.counts = ⟨r.number "passed", r.number "failed", r.number "errored", r.number "skipped"⟩ := by
  rw [counts, foldl_count]
  simp only [number, Nat.zero_add]

/-- Every invocation has one outcome, which is a failure if it failed or came to no verdict. -/
theorem number_add_number (r : Report) :
    r.number "passed" + r.number "failed" + r.number "errored" + r.number "skipped" =
        r.invocations.length ∧
      r.number "failed" + r.number "errored" =
        r.invocations.countP fun i => i.outcome.isFailure := by
  simp only [number]
  induction r.invocations with
  | nil => exact ⟨rfl, rfl⟩
  | cons i rest ih =>
      obtain ⟨htotal, hfailures⟩ := ih
      obtain ⟨hone, hfailure⟩ := i.outcome.status_once
      simp only [List.countP_cons, List.length_cons]
      omega

theorem counts_total (r : Report) : r.counts.total = r.invocations.length := by
  rw [counts_eq, Counts.total]
  exact (number_add_number r).1

/-- **The failures are those that failed and those without a verdict.** -/
theorem counts_failed_add_errored (r : Report) :
    r.counts.failed + r.counts.errored = r.invocations.countP fun i => i.outcome.isFailure := by
  rw [counts_eq]
  exact (number_add_number r).2

/-- **A report of an accepted catalog is a success just if nothing failed or came to no verdict.** -/
theorem isSuccess_iff (h : r.diagnostic = none) :
    r.isSuccess = true ↔ r.counts.failed + r.counts.errored = 0 := by
  rw [counts_failed_add_errored, List.countP_eq_zero, isSuccess, h, Option.isNone_none,
    Bool.true_and, List.all_eq_true]
  simp only [Bool.not_eq_true', Bool.not_eq_true]

/-! ## Lines -/

/-- Why targets were not deleted. -/
def deletionFailures (r : Report) : List String := (r.teardown.map (·.failures)).getD []

/-- The lines behind those of the invocations. -/
def closing (r : Report) : List String :=
  r.deletionFailures.map (fun failure => s!"TEARDOWN {failure}") ++ [r.countsLine]

/-- The invocations that went wrong. -/
def failures (r : Report) : List InvocationReport := r.invocations.filter fun i => i.outcome.isFailure

theorem summary_eq (h : r.diagnostic = none) (failuresOnly : Bool) :
    r.summary failuresOnly = r.invocations.filterMap (·.line? failuresOnly) ++ r.closing := by
  have hclosing : (r.teardown.map TeardownSummary.lines).getD [] =
      r.deletionFailures.map fun failure => s!"TEARDOWN {failure}" := by
    rw [deletionFailures]
    cases r.teardown <;> rfl
  simp only [summary, h, closing, hclosing, List.append_assoc]

/-- **The long summary has a line for each invocation.** -/
theorem summary_false (h : r.diagnostic = none) :
    r.summary false = r.invocations.map InvocationReport.line ++ r.closing := by
  rw [summary_eq h, ← List.filterMap_eq_map]
  congr 2
  funext i
  rw [InvocationReport.line?_eq, Bool.false_and, if_neg Bool.false_ne_true]
  rfl

/-- **The short summary has a line for each failure.** -/
theorem summary_true (h : r.diagnostic = none) :
    r.summary true = r.failures.map InvocationReport.line ++ r.closing := by
  rw [summary_eq h, failures, ← List.filterMap_eq_map, List.filterMap_filter]
  congr 2
  funext i
  rw [InvocationReport.line?_eq, Bool.true_and]
  cases i.outcome.isFailure <;> rfl

/-- Whether a line of the long summary is one of the short summary too. It is, unless an invocation
that did not go wrong has its line there. -/
def keeps (r : Report) (place : Nat) : Bool :=
  match r.invocations[place]? with
  | some i => i.outcome.isFailure
  | none => true

/-- The lines of the invocations that are kept are those of the failures. -/
theorem filter_keeps_lines (r : Report) :
    (((r.invocations.map InvocationReport.line).zipIdx).filter fun l => r.keeps l.2).map (·.1) =
      r.failures.map InvocationReport.line := by
  have hkeeps : ∀ e ∈ r.invocations.zipIdx, r.keeps e.2 = e.1.outcome.isFailure := by
    intro e he
    rw [keeps, List.mem_zipIdx_iff_getElem?.1 he]
  have hfailures : r.failures =
      (r.invocations.zipIdx.filter fun e => e.1.outcome.isFailure).map (·.1) := by
    conv_lhs => rw [failures, ← List.zipIdx_map_fst 0 r.invocations, List.filter_map]
    rfl
  rw [List.zipIdx_map, List.filter_map, List.map_map, hfailures, List.map_map]
  exact congrArg _ (List.filter_congr hkeeps)

/-- All lines behind those of the invocations are kept. -/
theorem filter_keeps_closing (r : Report) :
    ((r.closing.zipIdx r.invocations.length).filter fun l => r.keeps l.2).map (·.1) = r.closing := by
  have hkeeps : ∀ l ∈ r.closing.zipIdx r.invocations.length, r.keeps l.2 = true := by
    intro l hl
    rw [keeps, List.getElem?_eq_none (List.le_snd_of_mem_zipIdx hl)]
  rw [List.filter_eq_self.2 hkeeps, List.zipIdx_map_fst]

/-- **The short summary is the long one without the lines of what did not go wrong.** -/
theorem summary_true_eq_filter (h : r.diagnostic = none) :
    r.summary true = ((r.summary false).zipIdx.filter fun l => r.keeps l.2).map (·.1) := by
  rw [summary_true h, summary_false h, List.zipIdx_append, List.filter_append, List.map_append,
    filter_keeps_lines, List.length_map, Nat.zero_add, filter_keeps_closing]

theorem length_closing (r : Report) : r.closing.length = r.deletionFailures.length + 1 := by
  rw [closing, List.length_append, List.length_map, List.length_singleton]

/-- A rejected catalog is no success, and the reason is all that is said. -/
theorem summary_of_rejected {reason : String} (h : r.diagnostic = some reason) :
    r.isSuccess = false ∧ ∀ failuresOnly, r.summary failuresOnly = [s!"no tests executed: {reason}"] := by
  constructor
  · rw [isSuccess, h, Option.isNone_some, Bool.false_and]
  · intro failuresOnly
    rw [summary, h]

/-- **The summary agrees with the report.** If the catalog was accepted, the long summary has one line
for each invocation, in their order, then one for each target that was not deleted, and the counts;
the short one is the long one without the lines of the invocations that passed or were skipped, so it
has one line for each that failed or came to no verdict. Both are as long as the counts say, and the
run is a success just if nothing failed and nothing came to no verdict. If the catalog was rejected,
the run is no success and both summaries are the reason alone. The counts are always those of the
outcomes and add up to the number of invocations. -/
theorem summary_agrees (r : Report) :
    (r.diagnostic = none →
      r.summary true = ((r.summary false).zipIdx.filter fun l => r.keeps l.2).map (·.1) ∧
      r.summary false = r.invocations.map InvocationReport.line ++
        r.deletionFailures.map (fun failure => s!"TEARDOWN {failure}") ++ [r.countsLine] ∧
      r.summary true = (r.invocations.filter fun i => i.outcome.isFailure).map InvocationReport.line ++
        r.deletionFailures.map (fun failure => s!"TEARDOWN {failure}") ++ [r.countsLine] ∧
      (r.summary true).length =
        r.counts.failed + r.counts.errored + r.deletionFailures.length + 1 ∧
      (r.summary false).length = r.counts.total + r.deletionFailures.length + 1 ∧
      (r.isSuccess = true ↔ r.counts.failed + r.counts.errored = 0)) ∧
    (∀ reason, r.diagnostic = some reason →
      r.isSuccess = false ∧
        ∀ failuresOnly, r.summary failuresOnly = [s!"no tests executed: {reason}"]) ∧
    r.counts = ⟨r.number "passed", r.number "failed", r.number "errored", r.number "skipped"⟩ ∧
    r.counts.total = r.invocations.length := by
  refine ⟨fun h => ⟨summary_true_eq_filter h, ?_, ?_, ?_, ?_, isSuccess_iff h⟩,
    fun reason h => summary_of_rejected h, counts_eq r, counts_total r⟩
  · rw [summary_false h, closing, List.append_assoc]
  · rw [summary_true h, closing, failures, List.append_assoc]
  · rw [summary_true h, List.length_append, List.length_map, length_closing, failures,
      ← List.countP_eq_length_filter, ← counts_failed_add_errored, ← Nat.add_assoc]
  · rw [summary_false h, List.length_append, List.length_map, length_closing, counts_total,
      ← Nat.add_assoc]

/-- Every outcome, the failures apart from each other, and two targets that were not deleted. -/
theorem summary_agrees_on_mixed_outcomes :
    let report (id : String) (outcome : Outcome) : InvocationReport := ⟨id, id, none, none, outcome⟩
    let r : Report :=
      { Report.start ⟨0⟩ with
        invocations := [report "a" (.errored "no capacity"), report "b" .passed,
          report "c" (.skipped "no gpu"), report "d" (.failed "E501")]
        dropped := [⟨"e", .excluded⟩]
        teardown := some ⟨1, 0, ["quota", "quota"]⟩ }
    r.summary true =
        ["ERROR   a - no capacity", "FAILED  d - E501", "TEARDOWN quota", "TEARDOWN quota",
          "1 passed, 1 failed, 1 errors, 1 skipped, 1 deselected"] ∧
      r.summary true = ((r.summary false).zipIdx.filter fun l => r.keeps l.2).map (·.1) ∧
      (r.summary false).length = 7 ∧ r.isSuccess = false ∧
      ({ r with diagnostic := some "test f failed" } : Report).isSuccess = false := by
  intro report r
  obtain ⟨haccepted, -, -, -⟩ := summary_agrees r
  obtain ⟨hshort, -, -, -, hlength, hsuccess⟩ := haccepted rfl
  obtain ⟨-, hrejected, -, -⟩ := summary_agrees { r with diagnostic := some "test f failed" }
  have hfailed : r.isSuccess = false :=
    Bool.eq_false_iff.2 fun h => absurd (hsuccess.1 h) (by decide)
  exact ⟨by decide +kernel, hshort, hlength, hfailed, (hrejected _ rfl).1⟩

end Report

end TestBench
