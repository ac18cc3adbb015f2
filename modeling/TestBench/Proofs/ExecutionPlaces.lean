import Mathlib.Algebra.GroupWithZero.Nat
import Mathlib.Data.List.Nodup
import TestBench.Proofs.ExecutionTurns

/-!
# No invocation is lost

Every invocation of a plan has its place. At any time it has not started, or it is in flight, or it
is reported: `Execution.Placed` says so, and that the reports are in the order of the plan. The
operations of a turn keep it.

A measure falls with every step, `Execution.weight`: an invocation weighs as much as there are steps
that it may still take, and a time that somebody waits for weighs one. So a plan of `n` invocations
weighs `6 * n` at its start.
-/

set_option autoImplicit false

namespace TestBench

namespace Execution

variable {plan : List Invocation} {e : Execution} {t : Task}

/-! ## Starting invocations -/

theorem fillFrom_induction {P : Execution → Prop}
    (hbegin : ∀ e i rest, e.unstarted = i :: rest → P e → P { e.begin i with unstarted := rest }) :
    ∀ (l : List Invocation) (e : Execution), P { e with unstarted := l } → P (e.fillFrom l)
  | [], _, h => h
  | i :: rest, e, h => by
      rw [fillFrom]
      split
      · have hnext := hbegin { e with unstarted := i :: rest } i rest rfl h
        exact fillFrom_induction hbegin rest (e.begin i) hnext
      · exact h

/-- **Whatever is kept when an invocation starts is kept when as many start as there is
room for.** -/
theorem fill_induction {P : Execution → Prop} (h : P e)
    (hbegin : ∀ e i rest, e.unstarted = i :: rest → P e → P { e.begin i with unstarted := rest }) :
    P e.fill :=
  fillFrom_induction hbegin e.unstarted e h

/-- There is no room for another invocation, or there is none. -/
def Filled (e : Execution) : Prop := e.unstarted = [] ∨ e.oldest + e.width ≤ e.started

theorem filled_fillFrom : ∀ (l : List Invocation) (e : Execution), (e.fillFrom l).Filled
  | [], _ => .inl rfl
  | i :: rest, e => by
      rw [fillFrom]
      split
      · exact filled_fillFrom rest (e.begin i)
      · next hroom => exact .inr (Nat.le_of_not_lt hroom)

theorem filled_fill (e : Execution) : e.fill.Filled := filled_fillFrom e.unstarted e

/-- With nobody in flight there is room. -/
theorem Filled.unstarted_eq_nil (h : e.Filled) (hwidth : 0 < e.width) (htasks : e.tasks = []) :
    e.unstarted = [] := by
  rcases h with hnone | hroom
  · exact hnone
  · have holdest : e.oldest = e.started := by simp [oldest, htasks]
    omega

/-! ## Places -/

/-- Every invocation of a plan that has started is in flight or reported, at its place in the plan,
and the others are still to come. -/
structure Placed (plan : List Invocation) (e : Execution) : Prop where
  /-- The rest of the plan has not started. -/
  unstarted : e.unstarted = plan.drop e.started
  /-- Each place before it belongs to one invocation in flight or to one report. -/
  places : (e.tasks.map (·.index) ++ e.reports.map (·.1)).Perm (List.range e.started)
  /-- The reports are in the order of the plan. -/
  ordered : (e.reports.map (·.1)).Pairwise (· < ·)
  /-- The invocations in flight are those of the plan. -/
  invocation : ∀ t ∈ e.tasks, plan[t.index]? = some t.invocation
  /-- They are between two turns. -/
  fits : ∀ t ∈ e.tasks, t.progress.Fits t.invocation

namespace Placed

theorem of_eq {f : Execution} (h : Placed plan e) (hunstarted : f.unstarted = e.unstarted)
    (hstarted : f.started = e.started) (htasks : f.tasks = e.tasks)
    (hreports : f.reports = e.reports) :
    Placed plan f := by
  constructor
  case unstarted =>
    rw [hunstarted, hstarted]
    exact h.unstarted
  case places =>
    rw [htasks, hreports, hstarted]
    exact h.places
  case ordered =>
    rw [hreports]
    exact h.ordered
  case invocation =>
    rw [htasks]
    exact h.invocation
  case fits =>
    rw [htasks]
    exact h.fits

theorem nodup (h : Placed plan e) : (e.tasks.map (·.index) ++ e.reports.map (·.1)).Nodup :=
  h.places.nodup_iff.2 List.nodup_range

theorem index_lt (h : Placed plan e) (ht : t ∈ e.tasks) : t.index < e.started := by
  have hmem := List.mem_append_left (e.reports.map (·.1)) (List.mem_map_of_mem (f := Task.index) ht)
  exact List.mem_range.1 (h.places.mem_iff.1 hmem)

/-- An invocation in flight stands between others with other places. -/
theorem split (h : Placed plan e) (ht : t ∈ e.tasks) :
    ∃ before after, e.tasks = before ++ t :: after ∧
      ∀ u ∈ before ++ after, u.index ≠ t.index := by
  obtain ⟨before, after, hsplit⟩ := List.append_of_mem ht
  refine ⟨before, after, hsplit, fun u hu heq => ?_⟩
  have hnodup := (List.nodup_append.1 h.nodup).1
  rw [hsplit, List.map_append, List.map_cons, List.nodup_middle, List.nodup_cons, ← List.map_append]
    at hnodup
  exact hnodup.1 (heq ▸ List.mem_map_of_mem hu)

theorem eq_of_index_eq (h : Placed plan e) {u : Task} (ht : t ∈ e.tasks) (hu : u ∈ e.tasks)
    (heq : u.index = t.index) : u = t := by
  obtain ⟨before, after, hsplit, hne⟩ := h.split ht
  rw [hsplit, List.mem_append, List.mem_cons] at hu
  rcases hu with hu | rfl | hu
  · exact absurd heq (hne u (List.mem_append_left _ hu))
  · rfl
  · exact absurd heq (hne u (List.mem_append_right _ hu))

/-- The invocation whose turn it is is found. -/
theorem find?_eq (h : Placed plan e) (ht : t ∈ e.tasks) :
    (e.tasks.find? fun u => u.index == t.index) = some t := by
  cases hf : e.tasks.find? fun u => u.index == t.index with
  | none => exact absurd (beq_self_eq_true t.index) (List.find?_eq_none.1 hf t ht)
  | some u =>
      have heq : u.index = t.index := by simpa using List.find?_some hf
      rw [h.eq_of_index_eq ht (List.mem_of_find?_eq_some hf) heq]

theorem begin (h : Placed plan e) {i : Invocation} {rest : List Invocation}
    (hi : e.unstarted = i :: rest) : Placed plan { e.begin i with unstarted := rest } := by
  have hdrop : plan.drop e.started = i :: rest := h.unstarted.symm.trans hi
  constructor
  case unstarted =>
    show rest = plan.drop (e.started + 1)
    rw [← List.tail_drop, hdrop, List.tail_cons]
  case places =>
    -- the new task takes the next place, and its place goes past the reports
    show ((e.tasks ++ [(⟨e.started, i, .starting⟩ : Task)]).map (·.index) ++
      e.reports.map (·.1)).Perm (List.range (e.started + 1))
    rw [List.map_append, List.range_succ, List.append_assoc]
    refine (List.perm_append_comm.append_left _).trans ?_
    rw [← List.append_assoc]
    exact h.places.append_right _
  case ordered => exact h.ordered
  case invocation =>
    intro t ht
    rcases List.mem_append.1 ht with ht | ht
    · exact h.invocation t ht
    · rw [List.mem_singleton.1 ht]
      show plan[e.started]? = some i
      rw [← List.head?_drop, hdrop, List.head?_cons]
  case fits =>
    intro t ht
    rcases List.mem_append.1 ht with ht | ht
    · exact h.fits t ht
    · rw [List.mem_singleton.1 ht]
      exact .starting

theorem fill (h : Placed plan e) : Placed plan e.fill :=
  fill_induction h fun _ _ _ hi h => h.begin hi

end Placed

/-! ## Changes that leave the places -/

theorem Placed.enqueue (h : Placed plan e) (index : Nat) (key : SlotKey) :
    Placed plan (e.enqueue index key) :=
  h.of_eq rfl rfl rfl rfl

theorem Placed.passOn (h : Placed plan e) (index : Nat) (key : SlotKey) (pool : Pool) :
    Placed plan (e.passOn index key pool) :=
  h.of_eq rfl rfl rfl rfl

theorem Placed.waitUntil (h : Placed plan e) (index finish : Nat) :
    Placed plan (e.waitUntil index finish) :=
  h.of_eq rfl rfl rfl rfl

theorem Placed.withCalls (h : Placed plan e) (calls : List ExecutorCall) :
    Placed plan { e with calls := calls } :=
  h.of_eq rfl rfl rfl rfl

/-! ## Putting back -/

theorem mem_tasks_put {index : Nat} {progress : Progress} {u : Task} :
    u ∈ (e.put index progress).tasks ↔
      (u ∈ e.tasks ∧ u.index ≠ index) ∨
        ∃ t ∈ e.tasks, t.index = index ∧ u = { t with progress := progress } := by
  simp only [put, List.mem_map]
  constructor
  · rintro ⟨t, ht, rfl⟩
    by_cases hi : t.index = index
    · exact .inr ⟨t, ht, hi, if_pos hi⟩
    · rw [if_neg hi]
      exact .inl ⟨ht, hi⟩
  · rintro (⟨hu, hi⟩ | ⟨t, ht, hi, rfl⟩)
    · exact ⟨u, hu, if_neg hi⟩
    · exact ⟨t, ht, if_pos hi⟩

theorem map_index_put (e : Execution) (index : Nat) (progress : Progress) :
    (e.put index progress).tasks.map (·.index) = e.tasks.map (·.index) := by
  simp only [put, List.map_map]
  refine List.map_congr_left fun t _ => ?_
  simp only [Function.comp]
  split <;> rfl

theorem Placed.put (h : Placed plan e) (ht : t ∈ e.tasks) {progress : Progress}
    (hfits : progress.Fits t.invocation) : Placed plan (e.put t.index progress) := by
  constructor
  case unstarted => exact h.unstarted
  case places =>
    rw [map_index_put]
    exact h.places
  case ordered => exact h.ordered
  case invocation =>
    intro u hu
    rcases mem_tasks_put.1 hu with ⟨hu, -⟩ | ⟨v, hv, -, rfl⟩
    · exact h.invocation u hu
    · exact h.invocation v hv
  case fits =>
    intro u hu
    rcases mem_tasks_put.1 hu with ⟨hu, -⟩ | ⟨v, hv, heq, rfl⟩
    · exact h.fits u hu
    · rw [h.eq_of_index_eq ht hv heq]
      exact hfits

/-- Only the invocation at the place gets another progress. -/
theorem Placed.put_eq (h : Placed plan e) (ht : t ∈ e.tasks) (progress : Progress) :
    ∃ before after, e.tasks = before ++ t :: after ∧
      (e.put t.index progress).tasks = before ++ { t with progress := progress } :: after := by
  obtain ⟨before, after, hsplit, hne⟩ := h.split ht
  have hkeep : ∀ l : List Task, (∀ u ∈ l, u.index ≠ t.index) →
      (l.map fun u => if u.index = t.index then { u with progress := progress } else u) = l := by
    intro l hl
    refine (List.map_congr_left fun u hu => ?_).trans (List.map_id l)
    exact if_neg (hl u hu)
  refine ⟨before, after, hsplit, ?_⟩
  show (e.tasks.map fun u => if u.index = t.index then { u with progress := progress } else u) = _
  rw [hsplit, List.map_append, List.map_cons, if_pos rfl,
    hkeep before fun u hu => hne u (List.mem_append_left _ hu),
    hkeep after fun u hu => hne u (List.mem_append_right _ hu)]

/-! ## Reporting -/

theorem insertReport_perm (index : Nat) (r : InvocationReport)
    (l : List (Nat × InvocationReport)) : (insertReport index r l).Perm ((index, r) :: l) := by
  induction l with
  | nil => exact List.Perm.refl _
  | cons entry rest ih =>
      rw [insertReport]
      split
      · exact List.Perm.refl _
      · exact (ih.cons entry).trans (List.Perm.swap _ _ _)

/-- A report is inserted at its place. -/
theorem ordered_insertReport {index : Nat} (r : InvocationReport)
    {l : List (Nat × InvocationReport)} (h : (l.map (·.1)).Pairwise (· < ·))
    (hnew : index ∉ l.map (·.1)) : ((insertReport index r l).map (·.1)).Pairwise (· < ·) := by
  induction l with
  | nil => exact List.pairwise_singleton _ _
  | cons entry rest ih =>
      rw [List.map_cons, List.pairwise_cons] at h
      rw [List.map_cons, List.mem_cons, not_or] at hnew
      rw [insertReport]
      split
      · next hlt =>
          -- all places in the list are greater than the first one
          refine List.pairwise_cons.2 ⟨fun n hn => ?_, List.pairwise_cons.2 h⟩
          rcases List.mem_cons.1 hn with rfl | hn
          · exact hlt
          · exact Nat.lt_trans hlt (h.1 n hn)
      · next hge =>
          -- the inserted place is greater than the first one too, since it is another one
          refine List.pairwise_cons.2 ⟨fun n hn => ?_, ih h.2 hnew.2⟩
          have hn := ((insertReport_perm index r rest).map (·.1)).mem_iff.1 hn
          rcases List.mem_cons.1 hn with rfl | hn
          · have hne := hnew.1
            simp only at hne ⊢
            omega
          · exact h.1 n hn

/-- The execution after an invocation has been reported, before others start. -/
def retire (e : Execution) (t : Task) (target : Option Target) (outcome : Outcome) : Execution :=
  { e with
    pool := match target with
      | some target => e.pool.release target.serial
      | none => e.pool
    tasks := e.tasks.filter fun u => u.index != t.index
    reports := insertReport t.index
      (t.invocation.report (target.map (·.id)) outcome) e.reports }

theorem conclude_eq_fill (e : Execution) (t : Task) (target : Option Target) (outcome : Outcome) :
    e.conclude t target outcome = (e.retire t target outcome).fill := rfl

theorem mem_tasks_retire {target : Option Target} {outcome : Outcome} {u : Task} :
    u ∈ (e.retire t target outcome).tasks ↔ u ∈ e.tasks ∧ u.index ≠ t.index := by
  simp [retire]

theorem Placed.filter_eq (h : Placed plan e) (ht : t ∈ e.tasks) :
    ∃ before after, e.tasks = before ++ t :: after ∧
      (e.tasks.filter fun u => u.index != t.index) = before ++ after := by
  obtain ⟨before, after, hsplit, hne⟩ := h.split ht
  refine ⟨before, after, hsplit, ?_⟩
  rw [hsplit, List.filter_append, List.filter_cons_of_neg (by simp), ← List.filter_append]
  exact List.filter_eq_self.2 fun u hu => by simpa using hne u hu

theorem Placed.retire (h : Placed plan e) (ht : t ∈ e.tasks) (target : Option Target)
    (outcome : Outcome) : Placed plan (e.retire t target outcome) := by
  obtain ⟨before, after, hsplit, hfilter⟩ := h.filter_eq ht
  have hnew : t.index ∉ e.reports.map (·.1) := fun hin =>
    (List.nodup_append.1 h.nodup).2.2 _ (List.mem_map_of_mem ht) _ hin rfl
  constructor
  case unstarted => exact h.unstarted
  case places =>
    -- the place goes from the tasks to the reports
    show ((e.tasks.filter fun u => u.index != t.index).map (·.index) ++
      (insertReport t.index _ e.reports).map (·.1)).Perm (List.range e.started)
    refine List.Perm.trans ?_ h.places
    rw [hfilter, hsplit]
    refine (((insertReport_perm t.index _ e.reports).map (·.1)).append_left _).trans ?_
    rw [List.map_cons, List.map_append, List.map_append, List.map_cons]
    refine List.perm_middle.trans ?_
    rw [← List.cons_append]
    exact List.perm_middle.symm.append_right _
  case ordered => exact ordered_insertReport _ h.ordered hnew
  case invocation => exact fun u hu => h.invocation u (mem_tasks_retire.1 hu).1
  case fits => exact fun u hu => h.fits u (mem_tasks_retire.1 hu).1

theorem Placed.conclude (h : Placed plan e) (ht : t ∈ e.tasks) (target : Option Target)
    (outcome : Outcome) : Placed plan (e.conclude t target outcome) :=
  (h.retire ht target outcome).fill

end Execution

/-! ## The measure -/

/-- How many steps an invocation may still take, the passing of time until it goes on not counted if
it waits for a time. -/
def Progress.rank : Progress → Nat
  | .starting => 6
  | .resolving _ (.building _) => 3
  | .resolving _ _ => 5
  | .running _ _ _ => 1

theorem Progress.Seeks.three_le_rank {r : Request} {progress : Progress} (h : progress.Seeks r) :
    3 ≤ progress.rank := by
  cases h with
  | starting => show 3 ≤ 6; omega
  | queued => show 3 ≤ 5; omega
  | building finish => exact Nat.le_refl 3

namespace Execution

variable {plan : List Invocation} {e : Execution} {t : Task}

/-- How many steps may still be taken. -/
def weight (e : Execution) : Nat :=
  6 * e.unstarted.length + (e.tasks.map fun t => t.progress.rank).sum + e.timers.length

theorem weight_fill (e : Execution) : e.fill.weight = e.weight := by
  refine fill_induction (P := fun f => f.weight = e.weight) rfl fun f i rest hi h => ?_
  rw [← h]
  show 6 * rest.length + ((f.tasks ++ [(⟨f.started, i, .starting⟩ : Task)]).map fun t =>
    t.progress.rank).sum + f.timers.length = f.weight
  simp only [weight, hi, List.map_append, List.sum_append, List.map_cons, List.map_nil,
    List.sum_cons, List.sum_nil, List.length_cons, Progress.rank]
  omega

theorem weight_put (h : Placed plan e) (ht : t ∈ e.tasks) (progress : Progress) :
    (e.put t.index progress).weight + t.progress.rank = e.weight + progress.rank := by
  obtain ⟨before, after, hsplit, hput⟩ := h.put_eq ht progress
  have htimers : (e.put t.index progress).timers = e.timers := rfl
  have hunstarted : (e.put t.index progress).unstarted = e.unstarted := rfl
  rw [weight, weight, hput, hsplit, htimers, hunstarted]
  simp only [List.map_append, List.map_cons, List.sum_append, List.sum_cons]
  omega

theorem weight_conclude (h : Placed plan e) (ht : t ∈ e.tasks) (target : Option Target)
    (outcome : Outcome) : (e.conclude t target outcome).weight + t.progress.rank = e.weight := by
  obtain ⟨before, after, hsplit, hfilter⟩ := h.filter_eq ht
  rw [conclude_eq_fill, weight_fill]
  simp only [weight, retire, hfilter]
  rw [hsplit]
  simp only [List.map_append, List.map_cons, List.sum_append, List.sum_cons]
  omega

theorem weight_waitUntil (e : Execution) (index finish : Nat) :
    (e.waitUntil index finish).weight = e.weight + 1 := by
  simp only [weight, waitUntil, List.length_append, List.length_cons, List.length_nil]
  omega

/-- A body is over at once, or it leads to a time that is waited for and to one more turn. -/
theorem weight_runBody_le (h : Placed plan e) (ht : t ∈ e.tasks) (target : Option Target) :
    (e.runBody t target).weight + t.progress.rank ≤ e.weight + 2 := by
  have hcalled := h.withCalls (e.calls ++ [⟨t.invocation, target⟩])
  rw [runBody]
  simp only
  split
  · -- the body ends at once, and its invocation is reported
    have hdone := weight_conclude hcalled ht target
      ((e.executor e.calls.length t.invocation target).limited e.limit).2
    change _ = e.weight at hdone
    omega
  · -- the body takes time, so its end is waited for
    have hput := weight_put hcalled ht (.running target
      (e.now + ((e.executor e.calls.length t.invocation target).limited e.limit).1)
      ((e.executor e.calls.length t.invocation target).limited e.limit).2)
    change _ = e.weight + 1 at hput
    rw [weight_waitUntil]
    omega

/-- **A turn lowers the measure.** -/
theorem Turn.weight_lt {events : List Event} {next : Execution} (h : Turn e t events next)
    (hplaced : Placed plan e) (ht : t ∈ e.tasks) : next.weight < e.weight := by
  -- what happens to the pool and to the queue does not change the weight, so only the rank of the
  -- invocation and the times that are waited for are compared
  cases h with
  | enqueued spec hspec hfrom hholder =>
      have hput := weight_put (hplaced.enqueue t.index (t.invocation.request spec).slot) ht
        (.resolving (t.invocation.request spec) .queued)
      rw [hfrom] at hput
      change _ + 6 = e.weight + 5 at hput
      omega
  | entered spec hspec hfrom finish hfinish hholder =>
      have hput := weight_put (hplaced.enqueue t.index (t.invocation.request spec).slot) ht
        (.resolving (t.invocation.request spec) (.building finish))
      rw [hfrom] at hput
      change _ + 6 = e.weight + 3 at hput
      rw [weight_waitUntil]
      omega
  | begins spec hspec hfrom finish hfinish hholder =>
      have hput := weight_put hplaced ht (.resolving (t.invocation.request spec) (.building finish))
      rw [hfrom] at hput
      change _ + 5 = e.weight + 3 at hput
      rw [weight_waitUntil]
      omega
  | refused spec hspec hfrom fault q hq =>
      have hdone := weight_conclude (hplaced.passOn t.index (t.invocation.request spec).slot q) ht
        none (.errored fault.message)
      change _ = e.weight at hdone
      have hrank := hfrom.three_le_rank
      omega
  | served spec hspec hfrom target q hq htarget =>
      have hbody := weight_runBody_le
        (hplaced.passOn t.index (t.invocation.request spec).slot q) ht (some target)
      change _ ≤ e.weight + 2 at hbody
      have hrank := hfrom.three_le_rank
      omega
  | untargeted hspec hfrom =>
      have hbody := weight_runBody_le hplaced ht none
      rw [hfrom] at hbody
      change _ + 6 ≤ e.weight + 2 at hbody
      omega
  | ended target finish outcome hfrom =>
      have hdone := weight_conclude hplaced ht target outcome
      rw [hfrom] at hdone
      change _ + 1 = e.weight at hdone
      omega

end Execution

end TestBench
