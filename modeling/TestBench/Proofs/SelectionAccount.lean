import TestBench.Proofs.SelectionPass
import TestBench.Session.Basic

/-!
# The account of a session's selection

A session selects by its playbook, and if only static checks are wanted it takes the other selected
tests out again. Every position of the discovered tests that does not run should then have exactly
one entry among the dropped tests, its own: that is `Session.Accounted`.

The selection itself keeps this account, but the positions are forgotten before the mode of the
session has its say, and tests that are equal are then taken for copies of one. So
`Session.accounted_iff_distinct` says exactly when the account is kept: unless two positions that
the mode takes out hold equal tests. `Session.unaccounted_equal_tests` is a case where two do.
-/

set_option autoImplicit false

namespace TestBench

namespace Session

/-! ## Positions in a session -/

/-- Whether the mode of the session lets a selected test run. -/
def lets (s : Session) (test : Case) : Bool :=
  !s.config.check || test.hasAnyMarker Config.checkMarkers

/-- The positions that run in the session, each as often as it runs. -/
def runs (s : Session) (tests : List Case) : List (Case × Nat) :=
  (Declared.runs tests s.playbook.criteria).filter fun e => s.lets e.1

/-- The positions that do not run in the session, in the order of discovery. -/
def idle (s : Session) (tests : List Case) : List (Case × Nat) :=
  tests.zipIdx.filter fun e => decide (e ∉ s.runs tests)

/-- The positions that are selected and that the mode takes out again. -/
def deselected (s : Session) (tests : List Case) : List (Case × Nat) :=
  tests.zipIdx.filter fun e =>
    (Declared.reason? tests s.playbook.criteria e.1).isNone && !s.lets e.1

/-- The entry of a position that does not run: its test is excluded or not selected by the playbook,
or else deselected by the mode. -/
def entry (s : Session) (tests : List Case) (e : Case × Nat) : Dropped :=
  ⟨e.1.name, (Declared.reason? tests s.playbook.criteria e.1).getD .deselected⟩

/-- Every position that does not run has exactly one entry among the dropped tests, its own, and
there are no other entries. -/
def Accounted (s : Session) (tests : List Case) : Prop :=
  (s.select tests).dropped.Perm ((s.idle tests).map (s.entry tests))

variable {s : Session} {tests : List Case} {e : Case × Nat}

theorem mem_runs :
    e ∈ s.runs tests ↔ e ∈ tests.zipIdx ∧
      Declared.reason? tests s.playbook.criteria e.1 = none ∧ s.lets e.1 = true := by
  rw [runs, List.mem_filter, Declared.mem_runs, and_assoc]

theorem mem_deselected :
    e ∈ s.deselected tests ↔ e ∈ tests.zipIdx ∧
      Declared.reason? tests s.playbook.criteria e.1 = none ∧ s.lets e.1 = false := by
  simp [deselected]

/-- Without a mode no position is taken out. -/
theorem deselected_eq_nil (h : s.config.check = false) : s.deselected tests = [] := by
  simp [deselected, lets, h]

/-! ## The selection by positions -/

/-- The selected tests are those at the positions that run. -/
theorem tests_select (s : Session) (tests : List Case) :
    (s.select tests).tests = (s.runs tests).map (·.1) := by
  rw [select, select_eq]
  cases hc : s.config.check with
  | false => simp [runs, lets, hc, Declared.selection]
  | true =>
      simp only [if_true, Selection.restrict, Declared.selection, runs, lets, hc, Bool.not_true,
        Bool.false_or, List.filter_map]
      rfl

/-- The dropped tests are those of the playbook, and after them the tests that the mode takes out,
equal ones once. -/
theorem dropped_select (s : Session) (tests : List Case) :
    (s.select tests).dropped =
      (Declared.selection tests s.playbook.criteria).dropped ++
        ((((Declared.runs tests s.playbook.criteria).filter fun e => !s.lets e.1).map
          (·.1)).eraseDups.map fun test => ⟨test.name, .deselected⟩) := by
  rw [select, select_eq]
  cases hc : s.config.check with
  | false => simp [lets, hc]
  | true =>
      simp only [if_true, Selection.restrict, Declared.selection, lets, hc, Bool.not_true,
        Bool.false_or, List.filter_map]
      rfl

/-- Nothing is left twice when repetitions are erased. -/
theorem nodup_eraseDups {α : Type} [DecidableEq α] : ∀ l : List α, l.eraseDups.Nodup
  | [] => List.nodup_nil
  | a :: rest => by
      rw [List.eraseDups_cons]
      -- all repetitions of the first item are erased from the rest at once
      refine List.nodup_cons.2 ⟨fun ha => ?_, nodup_eraseDups (rest.filter fun b => !b == a)⟩
      have hne := (List.mem_filter.1 (List.mem_eraseDups.1 ha)).2
      simp at hne
  termination_by l => l.length
  decreasing_by exact Nat.lt_succ_of_le (List.length_filter_le _ _)

/-- What the mode takes out, copies and all, are the tests at the deselected positions. -/
theorem eraseDups_perm_dedup (s : Session) (tests : List Case) :
    (((Declared.runs tests s.playbook.criteria).filter fun e => !s.lets e.1).map
      (·.1)).eraseDups.Perm ((s.deselected tests).map (·.1)).dedup := by
  refine (List.perm_ext_iff_of_nodup (nodup_eraseDups _) (List.nodup_dedup _)).2 fun test => ?_
  rw [List.mem_eraseDups, List.mem_dedup, List.mem_map, List.mem_map]
  refine exists_congr fun e => and_congr_left fun _ => ?_
  rw [List.mem_filter, Declared.mem_runs, mem_deselected, and_assoc, Bool.not_eq_true']

/-- **A position does not run** for a reason of the playbook or because the mode takes it out, and
never for both. -/
theorem idle_perm (s : Session) (tests : List Case) :
    (s.idle tests).Perm
      ((Declared.drops tests s.playbook.criteria).map (·.1) ++ s.deselected tests) := by
  rw [Declared.map_fst_drops]
  have hsplit := List.filter_append_perm
    (fun e : Case × Nat => (Declared.reason? tests s.playbook.criteria e.1).isSome) (s.idle tests)
  rw [idle, List.filter_filter, List.filter_filter] at hsplit
  refine hsplit.symm.trans (List.Perm.of_eq ?_)
  congr 1
  · refine List.filter_congr fun e he => ?_
    simp only [mem_runs, he, true_and]
    cases Declared.reason? tests s.playbook.criteria e.1 <;> simp
  · refine List.filter_congr fun e he => ?_
    simp only [mem_runs, he, true_and]
    cases Declared.reason? tests s.playbook.criteria e.1 <;> simp

/-! ## The account -/

/-- The entries of the positions that do not run: those of the playbook, and one for each position
that the mode takes out. -/
theorem map_entry_idle_perm (s : Session) (tests : List Case) :
    ((s.idle tests).map (s.entry tests)).Perm
      ((Declared.selection tests s.playbook.criteria).dropped ++
        ((s.deselected tests).map (·.1)).map fun test => ⟨test.name, .deselected⟩) := by
  refine ((idle_perm s tests).map (s.entry tests)).trans (List.Perm.of_eq ?_)
  rw [List.map_append, List.map_map, List.map_map]
  congr 1
  · simp only [Declared.selection, Declared.drops, List.map_filterMap, Option.map_map]
    refine List.filterMap_congr fun e _ => ?_
    cases hr : Declared.reason? tests s.playbook.criteria e.1 with
    | none => rfl
    | some reason => simp [entry, hr]
  · refine List.map_congr_left fun e he => ?_
    simp [entry, (mem_deselected.1 he).2.1]

/-- What the session drops: the tests that the playbook drops, each position by itself, and the
tests at the positions that the mode takes out, equal ones once. -/
theorem dropped_select_perm (s : Session) (tests : List Case) :
    (s.select tests).dropped.Perm
      ((Declared.selection tests s.playbook.criteria).dropped ++
        ((s.deselected tests).map (·.1)).dedup.map fun test => ⟨test.name, .deselected⟩) := by
  rw [dropped_select]
  exact ((eraseDups_perm_dedup s tests).map _).append_left _

theorem nodup_of_length_dedup {α : Type} [DecidableEq α] {l : List α}
    (h : l.dedup.length = l.length) : l.Nodup :=
  List.dedup_eq_self.1 ((List.dedup_sublist l).eq_of_length h)

/-- As many tests are dropped as positions do not run exactly if the mode takes out no two equal
tests. -/
theorem length_dropped_eq_iff (s : Session) (tests : List Case) :
    (s.select tests).dropped.length = (s.idle tests).length ↔
      ((s.deselected tests).map (·.1)).Nodup := by
  have hdropped := (dropped_select_perm s tests).length_eq
  have hidle := (map_entry_idle_perm s tests).length_eq
  rw [List.length_append, List.length_map] at hdropped
  rw [List.length_append, List.length_map, List.length_map] at hidle
  constructor
  · intro h
    exact nodup_of_length_dedup (by omega)
  · intro h
    rw [h.dedup] at hdropped
    omega

/-- **A session accounts for every position exactly if it takes out no two equal tests.** Its
selection has the tests at the positions that run; among the dropped tests each position that the
playbook drops has an entry of its own, and of the positions that the mode takes out those with
equal tests have one entry together. So every position that does not run has exactly one entry, or
only as many are dropped as do not run, exactly if the session is not restricted to static checks or
the positions that it takes out hold different tests. -/
theorem accounted_iff_distinct (s : Session) (tests : List Case) :
    (s.select tests).tests = (s.runs tests).map (·.1) ∧
    (s.select tests).dropped.Perm
      (((Declared.drops tests s.playbook.criteria).map fun d => ⟨d.1.1.name, d.2⟩) ++
        ((s.deselected tests).map (·.1)).dedup.map fun test => ⟨test.name, .deselected⟩) ∧
    (s.Accounted tests ↔
      s.config.check = false ∨ ((s.deselected tests).map (·.1)).Nodup) ∧
    ((s.select tests).dropped.length = (s.idle tests).length ↔
      s.config.check = false ∨ ((s.deselected tests).map (·.1)).Nodup) := by
  -- without a mode no position is taken out, so the first case is part of the second
  have hmode : (s.config.check = false ∨ ((s.deselected tests).map (·.1)).Nodup) ↔
      ((s.deselected tests).map (·.1)).Nodup := by
    refine ⟨fun h => h.elim (fun hc => ?_) id, .inr⟩
    rw [deselected_eq_nil hc]
    exact List.nodup_nil
  rw [hmode]
  refine ⟨tests_select s tests, dropped_select_perm s tests, ⟨fun h => ?_, fun h => ?_⟩,
    length_dropped_eq_iff s tests⟩
  · have hlength := h.length_eq
    rw [List.length_map] at hlength
    exact (length_dropped_eq_iff s tests).1 hlength
  · have hdropped := dropped_select_perm s tests
    rw [h.dedup] at hdropped
    exact hdropped.trans (map_entry_idle_perm s tests).symm

/-- Two tests of one name and nothing else are taken out by the mode, and only one is dropped. -/
theorem unaccounted_equal_tests :
    let s : Session := ⟨⟨0⟩, { Config.usual with check := true }, ⟨[], []⟩,
      .empty Registry.builtin false fun n => ⟨BitVec.ofNat 128 n⟩, [], false⟩
    ¬ s.Accounted [.plain "lint", .plain "lint"] := by
  intro s h
  exact absurd h.length_eq (by decide)

end Session

end TestBench
