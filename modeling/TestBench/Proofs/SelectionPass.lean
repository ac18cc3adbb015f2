import TestBench.Proofs.DeclaredSelection

/-!
# The selection pass

What the pass over criteria and tests leaves in its `Tally`, in terms of the declared selection: the
included positions are those of `Declared.sequence`, in that order and with their `Declared.copies`,
and the excluded positions are the `Declared.excluded` ones. The first is proved rule by rule, since
a rule raises the copies of places that earlier rules have given (`Tally.included_foldl_visit`).

The main statements are `select_eq`, the selection is the declared one, and
`select_declared_and_accounted`, which adds that every position is accounted for.
-/

set_option autoImplicit false

namespace TestBench

namespace Tally

variable {c : Criterion} {t : Tally} {e : Case × Nat} {entries : List (Case × Nat)} {position : Nat}

/-! ## One visit -/

theorem visit_of_not_asksFor (h : c.asksFor e.1 = false) :
    (visit c t e).included = t.included := by
  simp only [visit, exclude]
  cases hm : c.matchesCase e.1 with
  | false => rfl
  | true =>
      have hx : c.exclude = true := by simpa [Criterion.asksFor, hm] using h
      simp only [hx, if_true]
      split <;> rfl

theorem visit_of_asksFor (h : c.asksFor e.1 = true) : visit c t e = t.raise e.2 c.times.val := by
  simp only [Criterion.asksFor, Bool.and_eq_true, Bool.not_eq_true'] at h
  simp [visit, h.1, h.2]

/-- A visit excludes a position exactly when the rule leaves its test out. -/
theorem excludes_visit :
    (visit c t e).excludes position =
      (t.excludes position || (c.leavesOut e.1 && e.2 == position)) := by
  cases hl : c.leavesOut e.1 with
  | true =>
      simp only [Criterion.leavesOut, Bool.and_eq_true] at hl
      simp only [visit, hl.1, hl.2, if_true, exclude, Bool.true_and]
      by_cases hp : e.2 = position
      · -- a position that is excluded already is not noted twice
        subst hp
        cases he : t.excludes e.2 with
        | true => simp [he]
        | false => simp [excludes]
      · cases he : t.excludes e.2 with
        | true => simp [hp]
        | false => simp [excludes, hp, Ne.symm hp]
  | false =>
      simp only [Criterion.leavesOut, Bool.and_eq_false_iff] at hl
      simp only [Bool.false_and, Bool.or_false]
      rcases hl with hx | hm
      · simp only [visit, hx, Bool.false_eq_true, if_false, raise]
        split
        · split
          · rfl
          · split <;> rfl
        · rfl
      · simp [visit, hm]

/-! ## One rule -/

theorem includes_eq_false : t.includes position = false ↔ ∀ x ∈ t.included, x.1 ≠ position := by
  simp [includes]

theorem included_raise_of_includes {times : Nat} (h : t.includes position = true) :
    (t.raise position times).included =
      t.included.map fun x => if x.1 = position then (x.1, max x.2 times) else x := by
  simp [raise, h]

theorem included_raise_of_pos {times : Nat} (h : t.includes position = false) (hn : 0 < times) :
    (t.raise position times).included = t.included ++ [(position, times)] := by
  simp [raise, h, hn]

theorem raise_zero (h : t.includes position = false) : t.raise position 0 = t := by
  simp [raise, h]

/-- Raising one position leaves the others as they are. -/
theorem includes_raise_of_ne {q times : Nat} (h : position ≠ q) :
    (t.raise position times).includes q = t.includes q := by
  cases hi : t.includes position with
  | true =>
      simp only [includes, included_raise_of_includes hi, List.any_map]
      congr 1
      funext x
      simp only [Function.comp]
      split <;> rfl
  | false =>
      by_cases hn : 0 < times
      · simp [includes, included_raise_of_pos hi hn, h]
      · rw [Nat.eq_zero_of_not_pos hn, raise_zero hi]

/-- Whether a rule asks for the test at a position. -/
def asked (c : Criterion) (entries : List (Case × Nat)) (position : Nat) : Bool :=
  entries.any fun e => c.asksFor e.1 && e.2 == position

/-- What a rule does to a place that an earlier rule has given. -/
def raised (c : Criterion) (entries : List (Case × Nat)) (x : Nat × Nat) : Nat × Nat :=
  if asked c entries x.1 then (x.1, max x.2 c.times.val) else x

theorem raised_of_not_asked {x : Nat × Nat} (h : asked c entries x.1 = false) :
    raised c entries x = x := by
  simp [raised, h]

theorem asked_eq_false (h : ∀ e ∈ entries, position ≠ e.2) : asked c entries position = false := by
  rw [asked, List.any_eq_false]
  intro e he
  simp [(h e he).symm]

theorem asked_cons_of_ne (h : e.2 ≠ position) :
    asked c (e :: entries) position = asked c entries position := by
  simp [asked, h]

theorem asked_cons_of_not_asksFor (h : c.asksFor e.1 = false) :
    asked c (e :: entries) position = asked c entries position := by
  simp [asked, h]

theorem asked_cons_self (h : c.asksFor e.1 = true) : asked c (e :: entries) e.2 = true := by
  simp [asked, h]

/-- **A rule raises the places that it asks for and gives places to the tests that it is the first
to want**, in the order in which it meets them. -/
theorem included_foldl_visit (hd : entries.Pairwise fun a b => a.2 ≠ b.2) :
    (entries.foldl (visit c) t).included =
      t.included.map (raised c entries) ++
        (entries.filter fun e => c.wants e.1 && !t.includes e.2).map
          fun e => (e.2, c.times.val) := by
  induction entries generalizing t with
  | nil =>
      have hx : ∀ x ∈ t.included, raised c [] x = x := fun x _ => raised_of_not_asked rfl
      simp [List.map_congr_left hx]
  | cons e rest ih =>
      obtain ⟨he, hrest⟩ := List.pairwise_cons.1 hd
      rw [List.foldl_cons, ih hrest]
      cases ha : c.asksFor e.1 with
      | false =>
          have hw : c.wants e.1 = false := by simp [Criterion.wants, ha]
          have hr : raised c (e :: rest) = raised c rest := by
            funext x
            rw [raised, raised, asked_cons_of_not_asksFor ha]
          simp only [includes, visit_of_not_asksFor ha, List.filter_cons, hw, hr, Bool.false_and,
            Bool.false_eq_true, if_false]
      | true =>
          -- no later test has the position of `e`, so its visit does not matter to them
          have hself : asked c rest e.2 = false := asked_eq_false he
          have hlater : (rest.filter fun x => c.wants x.1 && !(visit c t e).includes x.2) =
              rest.filter fun x => c.wants x.1 && !t.includes x.2 :=
            List.filter_congr fun x hx => by
              rw [visit_of_asksFor ha, includes_raise_of_ne (he x hx)]
          have hold (x : Nat × Nat) (hx : e.2 ≠ x.1) :
              raised c (e :: rest) x = raised c rest x := by
            rw [raised, raised, asked_cons_of_ne hx]
          rw [hlater, visit_of_asksFor ha, List.filter_cons]
          cases hi : t.includes e.2 with
          | true =>
              -- an earlier rule has given the place, and this visit alone raises it
              rw [included_raise_of_includes hi, List.map_map, Bool.not_true, Bool.and_false,
                if_neg Bool.false_ne_true]
              congr 1
              refine List.map_congr_left fun x _ => ?_
              by_cases hx : x.1 = e.2
              · rw [Function.comp, if_pos hx, raised_of_not_asked (hx ▸ hself), raised, hx,
                  asked_cons_self ha, if_pos rfl]
              · rw [Function.comp, if_neg hx, hold x (Ne.symm hx)]
          | false =>
              -- no place is raised here, and one is given if any copy is asked for
              have hmap : t.included.map (raised c (e :: rest)) = t.included.map (raised c rest) :=
                List.map_congr_left fun x hx => hold x (includes_eq_false.1 hi x hx).symm
              rw [hmap]
              by_cases hz : 0 < c.times.val
              · have hw : c.wants e.1 = true := by simp [Criterion.wants, ha, hz]
                rw [included_raise_of_pos hi hz, List.map_append, List.map_singleton,
                  raised_of_not_asked hself, hw]
                simp
              · have hw : c.wants e.1 = false := by simp [Criterion.wants, hz]
                rw [Nat.eq_zero_of_not_pos hz, raise_zero hi, hw]
                simp

theorem excludes_foldl_visit :
    (entries.foldl (visit c) t).excludes position =
      (t.excludes position || entries.any fun e => c.leavesOut e.1 && e.2 == position) := by
  induction entries generalizing t with
  | nil => simp
  | cons e rest ih => rw [List.foldl_cons, ih, excludes_visit, List.any_cons, Bool.or_assoc]

/-! ## All rules -/

variable {tests : List Case} {criteria : List Criterion}

theorem ofCriteria_concat :
    ofCriteria tests (criteria ++ [c]) = apply tests (ofCriteria tests criteria) c := by
  simp [ofCriteria, List.foldl_append]

/-- Of all entries only that of the position decides what happens to it. -/
theorem any_zipIdx (he : e ∈ tests.zipIdx) (p : Case → Bool) :
    (tests.zipIdx.any fun x => p x.1 && x.2 == e.2) = p e.1 := by
  rw [Bool.eq_iff_iff, List.any_eq_true]
  constructor
  · rintro ⟨x, hx, h⟩
    simp only [Bool.and_eq_true, beq_iff_eq] at h
    exact Declared.eq_of_mem_zipIdx hx he h.2 ▸ h.1
  · intro h
    exact ⟨e, he, by simp [h]⟩

/-- A tally with the places of the declared sequence includes the declared positions. -/
theorem includes_of_included_eq
    (h : t.included =
      (Declared.sequence tests criteria).map fun e => (e.2, Declared.copies criteria e.1))
    (he : e ∈ tests.zipIdx) : t.includes e.2 = Declared.included criteria e.1 := by
  rw [Bool.eq_iff_iff, includes, h, List.any_map, List.any_eq_true]
  constructor
  · rintro ⟨x, hx, hp⟩
    obtain ⟨hx, hi⟩ := Declared.mem_sequence.1 hx
    exact Declared.eq_of_mem_zipIdx hx he (by simpa using hp) ▸ hi
  · intro hi
    exact ⟨e, Declared.mem_sequence.2 ⟨he, hi⟩, by simp⟩

/-- **The included positions after all rules** are the declared sequence with the
declared copies. -/
theorem included_ofCriteria (tests : List Case) (criteria : List Criterion) :
    (ofCriteria tests criteria).included =
      (Declared.sequence tests criteria).map fun e => (e.2, Declared.copies criteria e.1) := by
  induction criteria using List.reverseRecOn with
  | nil => simp [ofCriteria, empty, Declared.sequence, Declared.included]
  | append_singleton criteria c ih =>
      have hd : tests.zipIdx.Pairwise fun a b => a.2 ≠ b.2 :=
        (Declared.pairwise_zipIdx tests).imp fun h => Nat.ne_of_lt h
      rw [ofCriteria_concat, apply, included_foldl_visit hd, ih, Declared.sequence_concat,
        List.map_append, List.map_map]
      congr 1
      · -- the places that are there are raised to the copies under the extended rules
        refine List.map_congr_left fun e he => ?_
        have he' := (Declared.mem_sequence.1 he).1
        rw [Function.comp, raised, asked, any_zipIdx he' c.asksFor, Declared.copies_concat]
        split <;> rfl
      · -- the new places are of the positions that no earlier rule includes
        have hnew : (tests.zipIdx.filter fun e =>
              c.wants e.1 && !(ofCriteria tests criteria).includes e.2) =
            tests.zipIdx.filter fun e => c.wants e.1 && !Declared.included criteria e.1 :=
          List.filter_congr fun e he => by rw [includes_of_included_eq ih he]
        rw [hnew]
        refine List.map_congr_left fun e he => ?_
        have hp := (List.mem_filter.1 he).2
        simp only [Bool.and_eq_true, Bool.not_eq_true'] at hp
        rw [Declared.copies_concat, if_pos (Criterion.asksFor_of_wants hp.1),
          Declared.copies_eq_zero_of_not_included hp.2, Nat.zero_max]

theorem includes_ofCriteria (he : e ∈ tests.zipIdx) :
    (ofCriteria tests criteria).includes e.2 = Declared.included criteria e.1 :=
  includes_of_included_eq (included_ofCriteria tests criteria) he

/-- **The excluded positions after all rules** are the declared ones. -/
theorem excludes_ofCriteria (he : e ∈ tests.zipIdx) :
    (ofCriteria tests criteria).excludes e.2 = Declared.excluded criteria e.1 := by
  induction criteria using List.reverseRecOn with
  | nil => simp [ofCriteria, empty, excludes, Declared.excluded]
  | append_singleton criteria c ih =>
      rw [ofCriteria_concat, apply, excludes_foldl_visit, ih, Declared.excluded_concat,
        any_zipIdx he c.leavesOut]

/-! ## The result of the pass -/

theorem included_isEmpty_ofCriteria :
    (ofCriteria tests criteria).included.isEmpty = Declared.fallsBack tests criteria := by
  rw [included_ofCriteria, List.isEmpty_map, Bool.eq_iff_iff, List.isEmpty_iff,
    List.eq_nil_iff_forall_not_mem, Declared.fallsBack, List.all_eq_true]
  constructor
  · intro h test ht
    obtain ⟨i, hi, rfl⟩ := List.mem_iff_getElem.1 ht
    have hz : (tests[i], i) ∈ tests.zipIdx := by simp [List.mk_mem_zipIdx_iff_getElem?]
    cases hin : Declared.included criteria tests[i] with
    | false => rfl
    | true => exact absurd (Declared.mem_sequence.2 ⟨hz, hin⟩) (h _)
  · intro h e he
    obtain ⟨hz, hi⟩ := Declared.mem_sequence.1 he
    have hn := h e.1 (List.fst_mem_of_mem_zipIdx hz)
    rw [hi] at hn
    exact Bool.noConfusion hn

/-- The dropped tests are read off the reasons, position by position. -/
theorem dropped_selection :
    (Declared.selection tests criteria).dropped =
      tests.zipIdx.filterMap fun e =>
        (Declared.reason? tests criteria e.1).map fun reason => ⟨e.1.name, reason⟩ := by
  simp only [Declared.selection, Declared.drops, List.map_filterMap, Option.map_map]
  rfl

theorem fallback_eq_declared (hf : Declared.fallsBack tests criteria = true) :
    (ofCriteria tests criteria).fallback tests = Declared.selection tests criteria := by
  have htests : (tests.zipIdx.filter fun e => !(ofCriteria tests criteria).excludes e.2) =
      Declared.runs tests criteria := by
    rw [Declared.runs, if_pos hf]
    exact List.filter_congr fun e he => by rw [excludes_ofCriteria he]
  have hdropped : ((tests.zipIdx.filter fun e => (ofCriteria tests criteria).excludes e.2).map
        fun e => (⟨e.1.name, .excluded⟩ : Dropped)) =
      (Declared.selection tests criteria).dropped := by
    rw [dropped_selection, ← List.filterMap_eq_map', List.filterMap_filter]
    refine List.filterMap_congr fun e he => ?_
    rw [excludes_ofCriteria he, Declared.reason?, if_pos hf]
    split <;> rfl
  rw [fallback, htests, hdropped]
  simp only [Declared.selection, hf]

/-- The copies of the included places, excluded ones left out, are the declared runs of tests with
metadata. -/
theorem flatMap_copies :
    (ofCriteria tests criteria).included.flatMap ((ofCriteria tests criteria).copies tests) =
      (((Declared.sequence tests criteria).filter fun e => !Declared.excluded criteria e.1).flatMap
        fun e => List.replicate (Declared.copies criteria e.1) e).map (·.1) := by
  -- by induction on any list of positions, since what is copied depends on the position alone
  have hstep : ∀ l : List (Case × Nat), (∀ e ∈ l, e ∈ tests.zipIdx) →
      l.flatMap (fun e => (ofCriteria tests criteria).copies tests
        (e.2, Declared.copies criteria e.1)) =
      ((l.filter fun e => !Declared.excluded criteria e.1).flatMap
        fun e => List.replicate (Declared.copies criteria e.1) e).map (·.1) := by
    intro l hl
    induction l with
    | nil => rfl
    | cons e l ih =>
        obtain ⟨he, hl⟩ := List.forall_mem_cons.1 hl
        have hget : tests[e.2]? = some e.1 := List.mem_zipIdx_iff_getElem?.1 he
        rw [List.flatMap_cons, ih hl, copies, excludes_ofCriteria he, List.filter_cons]
        cases Declared.excluded criteria e.1 with
        | true => rfl
        | false => simp [hget]
  rw [included_ofCriteria, List.flatMap_map]
  exact hstep _ fun e he => (Declared.mem_sequence.1 he).1

theorem chosen_eq_declared (hf : Declared.fallsBack tests criteria = false) :
    (ofCriteria tests criteria).chosen tests = Declared.selection tests criteria := by
  have htests :
      (ofCriteria tests criteria).included.flatMap ((ofCriteria tests criteria).copies tests) ++
        tests.filter (fun test => !test.isSelectable) =
      (Declared.runs tests criteria).map (·.1) := by
    rw [flatMap_copies, Declared.runs, hf, if_neg Bool.false_ne_true, List.map_append]
    congr 1
    have hfst : tests = tests.zipIdx.map (·.1) := (List.zipIdx_map_fst 0 tests).symm
    conv_lhs => rw [hfst, List.filter_map]
    rfl
  have hdropped : (tests.zipIdx.filterMap fun e =>
        if e.1.isSelectable then
          ((ofCriteria tests criteria).dropReason? e.2).map
            fun reason => (⟨e.1.name, reason⟩ : Dropped)
        else none) =
      (Declared.selection tests criteria).dropped := by
    rw [dropped_selection]
    refine List.filterMap_congr fun e he => ?_
    rw [Declared.reason?, hf, if_neg Bool.false_ne_true, dropReason?, excludes_ofCriteria he,
      includes_ofCriteria he]
    split <;> rfl
  rw [chosen, htests, hdropped]
  simp only [Declared.selection, hf]

end Tally

/-- The pass computes the declared selection. -/
theorem select_eq (tests : List Case) (criteria : List Criterion) :
    select tests criteria = Declared.selection tests criteria := by
  simp only [select, Tally.included_isEmpty_ofCriteria]
  cases hf : Declared.fallsBack tests criteria with
  | true => exact Tally.fallback_eq_declared hf
  | false => exact Tally.chosen_eq_declared hf

/-- **Selecting is declarative and loses no test**: the result of the pass is the declared
selection, and of the positions that run and the positions that are dropped, each discovered one is
exactly one. -/
theorem select_declared_and_accounted (tests : List Case) (criteria : List Criterion) :
    select tests criteria = Declared.selection tests criteria ∧
      ((Declared.runs tests criteria).dedup ++ (Declared.drops tests criteria).map (·.1)).Perm
        tests.zipIdx :=
  ⟨select_eq tests criteria, Declared.runs_append_drops_perm tests criteria⟩

end TestBench
