import TestBench.Proofs.SelectionOrder

/-!
# A rule as several rules

A rule matches a test when any of its conditions holds of the test, so it can be written as several
rules with one condition each (`Criterion.alternatives`). This module says what stays the same when a
rule is written so, wherever it stands among others: whether the selection falls back, which tests
are dropped for which reasons, and how often each test runs (`select_alternatives`). The order in
which tests run may change, since each alternative goes through the tests by itself.

The judgement of one test is put together from judgements under parts of the rules
(`Declared.included_append`, `Declared.copies_append`), so it is enough that a rule and its
alternatives judge alike when they stand alone. A rule without conditions has no alternatives. It
changes nothing at any point of the pass, and without it the selection is the very same.
-/

set_option autoImplicit false

namespace TestBench

namespace Criterion

variable {c p : Criterion} {test : Case}

/-! ## Alternatives -/

/-- The rule without its conditions. -/
def bare (c : Criterion) : Criterion := { blank with times := c.times, exclude := c.exclude }

/-- The rules that have one condition of the rule each, and are otherwise like it. -/
def alternatives (c : Criterion) : List Criterion :=
  (condition? c.name).toList.map (fun part => { c.bare with name := some part }) ++
  (condition? c.area).toList.map (fun area => { c.bare with area := some area }) ++
  (condition? c.category).toList.map (fun category => { c.bare with category := some category }) ++
  c.priority.toList.map (fun priority => { c.bare with priority := some priority }) ++
  c.wantedTags?.toList.map (fun tags => { c.bare with tags := some tags })

/-- The alternatives of a rule, one kind of condition after the other. -/
theorem mem_alternatives_iff :
    p ∈ c.alternatives ↔
      (∃ part, condition? c.name = some part ∧ p = { c.bare with name := some part }) ∨
      (∃ area, condition? c.area = some area ∧ p = { c.bare with area := some area }) ∨
      (∃ category, condition? c.category = some category ∧
        p = { c.bare with category := some category }) ∨
      (∃ priority, c.priority = some priority ∧ p = { c.bare with priority := some priority }) ∨
      ∃ tags, c.wantedTags? = some tags ∧ p = { c.bare with tags := some tags } := by
  simp only [alternatives, List.mem_append, List.mem_map, Option.mem_toList, or_assoc,
    eq_comm (a := p)]

theorem condition?_eq_some_iff {field : Option String} {s : String} :
    condition? field = some s ↔ field = some s ∧ s ≠ "" := by
  rw [condition?, Option.filter_eq_some_iff]
  simp

theorem wantedTags?_eq_some_iff {tags : NameSet} :
    c.wantedTags? = some tags ↔ c.tags = some tags ∧ tags.isEmpty = false := by
  rw [wantedTags?, Option.filter_eq_some_iff]
  simp

/-- Alternatives differ from the rule in nothing but the conditions. -/
theorem times_eq_of_mem_alternatives (h : p ∈ c.alternatives) :
    p.times = c.times ∧ p.exclude = c.exclude := by
  rcases mem_alternatives_iff.1 h with
    ⟨_, -, rfl⟩ | ⟨_, -, rfl⟩ | ⟨_, -, rfl⟩ | ⟨_, -, rfl⟩ | ⟨_, -, rfl⟩ <;> exact ⟨rfl, rfl⟩

/-- **An alternative has one condition**, so it is its own only alternative. -/
theorem alternatives_of_mem_alternatives (h : p ∈ c.alternatives) : p.alternatives = [p] := by
  rcases mem_alternatives_iff.1 h with
    ⟨s, hs, rfl⟩ | ⟨s, hs, rfl⟩ | ⟨s, hs, rfl⟩ | ⟨s, hs, rfl⟩ | ⟨s, hs, rfl⟩
  · have hne := (condition?_eq_some_iff.1 hs).2
    simp [alternatives, bare, blank, condition?, wantedTags?, hne]
  · have hne := (condition?_eq_some_iff.1 hs).2
    simp [alternatives, bare, blank, condition?, wantedTags?, hne]
  · have hne := (condition?_eq_some_iff.1 hs).2
    simp [alternatives, bare, blank, condition?, wantedTags?, hne]
  · simp [alternatives, bare, blank, condition?, wantedTags?]
  · have hne := (wantedTags?_eq_some_iff.1 hs).2
    simp [alternatives, bare, blank, condition?, wantedTags?, hne]

/-- **A rule without conditions is one without alternatives.** -/
theorem alternatives_eq_nil_iff : c.alternatives = [] ↔ c.hasConditions = false := by
  simp [alternatives, hasConditions, and_assoc]

/-! ## What alternatives match -/

/-- Whether a condition holds is whether one of at most one rule with it matches. -/
theorem any_map_toList {α : Type} {condition : Option α} {rule : α → Criterion} (met : α → Bool)
    (h : ∀ a, condition = some a → (rule a).matchesCase test = met a) :
    ((condition.toList.map rule).any fun p => p.matchesCase test) = holds condition met := by
  cases condition with
  | none => rfl
  | some a => simpa [holds] using h a rfl

/-- **A rule matches a test when one of its alternatives does.** -/
theorem any_matchesCase_alternatives (c : Criterion) (test : Case) :
    (c.alternatives.any fun p => p.matchesCase test) = c.matchesCase test := by
  obtain ⟨name, metadata, requiresTarget, markers⟩ := test
  cases metadata with
  | none => simp [matchesCase]
  | some m =>
      simp only [alternatives, List.any_append]
      rw [any_map_toList fun part => Text.holds name.toList part.toList,
        any_map_toList fun area => Text.agree area m.area,
        any_map_toList fun category => Text.agree category m.category,
        any_map_toList fun priority => priority == m.priority,
        any_map_toList fun tags => tags.subset m.tags]
      · rfl
      · intro tags h
        have hne := (wantedTags?_eq_some_iff.1 h).2
        simp [matchesCase, meets, bare, blank, holds, condition?, wantedTags?, hne]
      · intro p h
        simp [matchesCase, meets, bare, blank, holds, condition?, wantedTags?]
      · intro category h
        have hne := (condition?_eq_some_iff.1 h).2
        simp [matchesCase, meets, bare, blank, holds, condition?, wantedTags?, hne]
      · intro area h
        have hne := (condition?_eq_some_iff.1 h).2
        simp [matchesCase, meets, bare, blank, holds, condition?, wantedTags?, hne]
      · intro part h
        have hne := (condition?_eq_some_iff.1 h).2
        simp [matchesCase, meets, bare, blank, holds, condition?, wantedTags?, hne]

/-- **What a rule does with a test its alternatives do together**, if it depends on the match and on
nothing in which they differ from the rule. -/
theorem any_alternatives (does : Criterion → Bool) (h : ∀ p ∈ c.alternatives, does p = does c) :
    (c.alternatives.any fun p => does p && p.matchesCase test) =
      (does c && c.matchesCase test) := by
  have hdoes : (c.alternatives.any fun p => does p && p.matchesCase test) =
      c.alternatives.any fun p => does c && p.matchesCase test := by
    rw [Bool.eq_iff_iff, List.any_eq_true, List.any_eq_true]
    exact exists_congr fun _ => and_congr_right fun hp => by rw [h _ hp]
  rw [hdoes, ← List.and_any_distrib_left, any_matchesCase_alternatives]

theorem any_asksFor_alternatives :
    (c.alternatives.any fun p => p.asksFor test) = c.asksFor test :=
  any_alternatives (fun p => !p.exclude) fun _ hp => by
    rw [(times_eq_of_mem_alternatives hp).2]

theorem any_leavesOut_alternatives :
    (c.alternatives.any fun p => p.leavesOut test) = c.leavesOut test :=
  any_alternatives exclude fun _ hp => (times_eq_of_mem_alternatives hp).2

theorem any_wants_alternatives :
    (c.alternatives.any fun p => p.wants test) = c.wants test := by
  simp only [wants, asksFor, Bool.and_right_comm]
  refine any_alternatives (fun p => !p.exclude && decide (0 < p.times.val)) fun p hp => ?_
  rw [(times_eq_of_mem_alternatives hp).1, (times_eq_of_mem_alternatives hp).2]

end Criterion

namespace Declared

variable {tests : List Case} {criteria criteria' : List Criterion} {c : Criterion} {test : Case}

/-! ## Rules in parts -/

theorem included_append : included (criteria ++ criteria') test =
    (included criteria test || included criteria' test) := by
  rw [included, included, included, List.any_append, Bool.and_or_distrib_left]

theorem excluded_append : excluded (criteria ++ criteria') test =
    (excluded criteria test || excluded criteria' test) := by
  rw [excluded, excluded, excluded, List.any_append]

/-- The copies that two lists of rules ask for are the greater of what each asks for. -/
theorem copies_append : copies (criteria ++ criteria') test =
    max (copies criteria test) (copies criteria' test) := by
  -- on the later list, from the rule that is applied last
  induction criteria' using List.reverseRecOn with
  | nil => simp [copies]
  | append_singleton criteria' c ih =>
      rw [← List.append_assoc, copies_concat, copies_concat, ih]
      split
      · exact Nat.max_assoc _ _ _
      · rfl

/-- Rules that all ask for the same number of copies ask for it together, if any of them asks. -/
theorem copies_of_times_eq {n : Nat} (h : ∀ p ∈ criteria, p.times.val = n) :
    copies criteria test = if criteria.any fun p => p.asksFor test then n else 0 := by
  induction criteria using List.reverseRecOn with
  | nil => rfl
  | append_singleton criteria c ih =>
      obtain ⟨hbefore, hlast⟩ := List.forall_mem_append.1 h
      rw [copies_concat, ih hbefore, hlast c (List.mem_singleton_self c), List.any_append,
        List.any_cons, List.any_nil, Bool.or_false]
      cases criteria.any fun p => p.asksFor test <;> cases c.asksFor test <;> simp

/-! ## Rules that judge alike -/

/-- Two lists of rules come to the same judgement of every test. -/
structure Agree (criteria criteria' : List Criterion) : Prop where
  /-- They include the same tests. -/
  included : ∀ test, included criteria test = included criteria' test
  /-- They exclude the same tests. -/
  excluded : ∀ test, excluded criteria test = excluded criteria' test
  /-- They ask for the same numbers of copies. -/
  copies : ∀ test, copies criteria test = copies criteria' test

/-- Rules that agree do so before and after any others. -/
theorem Agree.between (h : Agree criteria criteria') (before after : List Criterion) :
    Agree (before ++ criteria ++ after) (before ++ criteria' ++ after) where
  included test := by simp only [included_append, h.included]
  excluded test := by simp only [excluded_append, h.excluded]
  copies test := by simp only [copies_append, h.copies]

/-- **Under rules that agree the same tests run, each as often**, and the same tests are dropped. -/
theorem Agree.same_selection (h : Agree criteria criteria') (tests : List Case) :
    (selection tests criteria).fellBack = (selection tests criteria').fellBack ∧
      (selection tests criteria).dropped = (selection tests criteria').dropped ∧
      (selection tests criteria).tests.Perm (selection tests criteria').tests := by
  have hback : fallsBack tests criteria = fallsBack tests criteria' := by
    simp only [fallsBack, h.included]
  have hreason : reason? tests criteria = reason? tests criteria' := by
    funext test
    simp only [reason?, hback, h.included, h.excluded]
  have hpick : pick tests criteria = pick tests criteria' := by
    simp only [pick, hback, h.included, h.excluded, h.copies]
  refine ⟨hback, ?_, ?_⟩
  · simp only [selection, drops, hreason]
  · calc (selection tests criteria).tests.Perm (pick tests criteria) :=
          map_fst_runs_perm tests criteria
      List.Perm _ (pick tests criteria') := List.Perm.of_eq hpick
      List.Perm _ (selection tests criteria').tests := (map_fst_runs_perm tests criteria').symm

/-- **A rule agrees with its alternatives.** -/
theorem agree_alternatives (c : Criterion) : Agree c.alternatives [c] where
  included test := by
    simp only [included, Criterion.any_wants_alternatives, List.any_cons, List.any_nil,
      Bool.or_false]
  excluded test := by
    simp only [excluded, Criterion.any_leavesOut_alternatives, List.any_cons, List.any_nil,
      Bool.or_false]
  copies test := by
    have hparts : ∀ p ∈ c.alternatives, p.times.val = c.times.val :=
      fun p hp => congrArg Fin.val (Criterion.times_eq_of_mem_alternatives hp).1
    have hself : ∀ p ∈ [c], p.times.val = c.times.val := by simp
    rw [copies_of_times_eq hparts, copies_of_times_eq hself, Criterion.any_asksFor_alternatives,
      List.any_cons, List.any_nil, Bool.or_false]

end Declared

namespace Tally

variable {c : Criterion} {tests : List Case}

/-! ## Rules without conditions -/

/-- A rule without conditions leaves the tally as it is. -/
theorem apply_of_not_hasConditions (h : c.hasConditions = false) (t : Tally) :
    apply tests t c = t := by
  have hmatch : ∀ test, c.matchesCase test = false := by
    intro test
    rw [← Criterion.any_matchesCase_alternatives, Criterion.alternatives_eq_nil_iff.2 h,
      List.any_nil]
  have hvisit : ∀ (t : Tally) (e : Case × Nat), visit c t e = t := by
    intro t e
    rw [visit, hmatch]
    rfl
  rw [apply]
  induction tests.zipIdx with
  | nil => rfl
  | cons e rest ih => rw [List.foldl_cons, hvisit, ih]

end Tally

/-- **A rule can be written as its alternatives.** Wherever a rule stands among others, with its
alternatives in its place the selection falls back in the same cases, drops the same tests for the same
reasons, and has the same tests to run, each as often; only their order may be another one. The
alternatives have the rule's number of copies and its exclusion, and one of its conditions each. There
are none just if the rule has no conditions, and without such a rule the selection is the very same. -/
theorem select_alternatives (tests : List Case) (before after : List Criterion) (c : Criterion) :
    let s := select tests (before ++ c :: after)
    let s' := select tests (before ++ c.alternatives ++ after)
    s'.fellBack = s.fellBack ∧ s'.dropped = s.dropped ∧ s'.tests.Perm s.tests ∧
      (∀ p ∈ c.alternatives, p.times = c.times ∧ p.exclude = c.exclude ∧ p.alternatives = [p]) ∧
      (c.alternatives = [] ↔ c.hasConditions = false) ∧
      (c.hasConditions = false → select tests (before ++ after) = s) := by
  intro s s'
  have hagree := (Declared.agree_alternatives c).between before after
  have hsplit : before ++ [c] ++ after = before ++ c :: after := by
    rw [List.append_assoc, List.singleton_append]
  rw [hsplit] at hagree
  obtain ⟨hback, hdropped, htests⟩ := hagree.same_selection tests
  rw [← select_eq, ← select_eq] at hback hdropped htests
  refine ⟨hback, hdropped, htests, fun p hp => ?_, Criterion.alternatives_eq_nil_iff, fun h => ?_⟩
  · obtain ⟨htimes, hexclude⟩ := Criterion.times_eq_of_mem_alternatives hp
    exact ⟨htimes, hexclude, Criterion.alternatives_of_mem_alternatives hp⟩
  · have htally : Tally.ofCriteria tests (before ++ after) =
        Tally.ofCriteria tests (before ++ c :: after) := by
      simp only [Tally.ofCriteria, List.foldl_append, List.foldl_cons,
        Tally.apply_of_not_hasConditions h]
    simp only [s, select, htally]

/-- A rule with three conditions, one of them met by two tests, after an exclusion and before a rule that
tops up: the two tests change places. A rule with nothing but an empty text and an empty set has no
alternatives. -/
theorem select_alternatives_reordered :
    let ping : Case := ⟨"ping", some (.basic "net" "io" 1), true, ∅⟩
    let boot : Case := ⟨"boot", some (.basic "core" "io" 2), true, ∅⟩
    let disk : Case := ⟨"disk", some (.basic "disk" "raw" 2), true, ∅⟩
    let lint : Case := ⟨"lint", none, false, ∅⟩
    let out : Criterion := { Criterion.blank with name := some "disk", exclude := true }
    let any : Criterion :=
      { Criterion.blank with name := some "oo", area := some "NET", priority := some 2, times := 2 }
    let more : Criterion := { Criterion.blank with area := some "core", times := 3 }
    let unset : Criterion := { Criterion.blank with name := some "", tags := some ∅, times := 4 }
    let tests := [ping, boot, disk, lint]
    let s := select tests ([out] ++ any :: [more])
    let s' := select tests ([out] ++ any.alternatives ++ [more])
    s.tests = [ping, ping, boot, boot, boot, lint] ∧ s'.tests = [boot, boot, boot, ping, ping, lint] ∧
      any.alternatives.length = 3 ∧ s'.tests.Perm s.tests ∧ s'.dropped = s.dropped ∧
      unset.alternatives = [] ∧ select tests [out, any] = select tests [out, unset, any] := by
  intro ping boot disk lint out any more unset tests s s'
  obtain ⟨-, hdropped, htests, -, -, -⟩ := select_alternatives tests [out] [more] any
  obtain ⟨-, -, -, -, hnil, hdelete⟩ := select_alternatives tests [out] [any] unset
  have hunset : unset.hasConditions = false := by decide +kernel
  exact ⟨by decide +kernel, by decide +kernel, by decide +kernel, htests, hdropped, hnil.2 hunset,
    hdelete hunset⟩

end TestBench
