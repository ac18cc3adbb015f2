import Mathlib.Data.List.Range
import TestBench.Proofs.ExecutionSchedule
import TestBench.Proofs.ExecutionStory

/-!
# Executions of whole plans

`Execution.Sound` puts together what is known of an execution and its history: the places of the
plan, the lists of those that can go on or wait, the stories, and that as many invocations are in
flight as there is room for. Every step preserves it and lowers the weight of the execution, so a
run of as many steps as the plan allows for comes to its end, and there every invocation is reported
with its story (`Execution.complete_told`).
-/

set_option autoImplicit false

namespace TestBench

namespace Execution

variable {plan : List Invocation} {before : List ExecutorCall} {history events : List Event}
  {e next : Execution} {t : Task}

/-! ## What never changes -/

/-- What stays the same in an execution. -/
structure SameSettings (e f : Execution) : Prop where
  /-- The number of invocations that may be in flight. -/
  width : f.width = e.width
  /-- The time that a body may take. -/
  limit : f.limit = e.limit
  /-- What runs the bodies. -/
  executor : f.executor = e.executor

theorem SameSettings.fill (e : Execution) : SameSettings e e.fill :=
  fill_induction (P := SameSettings e) ⟨rfl, rfl, rfl⟩
    fun _ _ _ _ h => ⟨h.width, h.limit, h.executor⟩

theorem SameSettings.conclude (e : Execution) (t : Task) (target : Option Target)
    (outcome : Outcome) : SameSettings e (e.conclude t target outcome) := by
  have hdone := SameSettings.fill (e.retire t target outcome)
  exact ⟨hdone.width, hdone.limit, hdone.executor⟩

theorem SameSettings.runBody (e : Execution) (t : Task) (target : Option Target) :
    SameSettings e (e.runBody t target) := by
  rw [Execution.runBody]
  simp only
  split
  · have hdone := SameSettings.conclude { e with calls := e.calls ++ [⟨t.invocation, target⟩] } t
      target ((e.executor e.calls.length t.invocation target).limited e.limit).2
    exact ⟨hdone.width, hdone.limit, hdone.executor⟩
  · exact ⟨rfl, rfl, rfl⟩

theorem Turn.sameSettings (h : Turn e t events next) : SameSettings e next := by
  cases h with
  | enqueued spec hspec hfrom hholder => exact ⟨rfl, rfl, rfl⟩
  | entered spec hspec hfrom finish hfinish hholder => exact ⟨rfl, rfl, rfl⟩
  | begins spec hspec hfrom finish hfinish hholder => exact ⟨rfl, rfl, rfl⟩
  | refused spec hspec hfrom fault q hq =>
      have hdone := SameSettings.conclude (e.passOn t.index (t.invocation.request spec).slot q) t
        none (.errored fault.message)
      exact ⟨hdone.width, hdone.limit, hdone.executor⟩
  | served spec hspec hfrom target q hq htarget =>
      have hbody := SameSettings.runBody (e.passOn t.index (t.invocation.request spec).slot q) t
        (some target)
      exact ⟨hbody.width, hbody.limit, hbody.executor⟩
  | untargeted hspec hfrom => exact SameSettings.runBody e t none
  | ended target finish outcome hfrom => exact SameSettings.conclude e t target outcome

/-! ## Places and room after a turn -/

theorem Placed.runBody (h : Placed plan e) (ht : t ∈ e.tasks) (target : Option Target) :
    Placed plan (e.runBody t target) := by
  have hcalled := h.withCalls (e.calls ++ [⟨t.invocation, target⟩])
  rw [Execution.runBody]
  simp only
  split
  · exact hcalled.conclude ht target _
  · refine Placed.waitUntil ?_ _ _
    exact hcalled.put ht (.running target _ _)

/-- **Every invocation keeps its place in every turn.** -/
theorem Turn.placed (h : Turn e t events next) (hplaced : Placed plan e) (ht : t ∈ e.tasks) :
    Placed plan next := by
  cases h with
  | enqueued spec hspec hfrom hholder =>
      exact (hplaced.enqueue _ _).put ht (.queued spec hspec)
  | entered spec hspec hfrom finish hfinish hholder =>
      refine Placed.waitUntil ?_ _ _
      exact (hplaced.enqueue _ _).put ht (.building spec hspec finish)
  | begins spec hspec hfrom finish hfinish hholder =>
      refine Placed.waitUntil ?_ _ _
      exact hplaced.put ht (.building spec hspec finish)
  | refused spec hspec hfrom fault q hq => exact (hplaced.passOn _ _ q).conclude ht none _
  | served spec hspec hfrom target q hq htarget =>
      exact (hplaced.passOn _ _ q).runBody ht (some target)
  | untargeted hspec hfrom => exact hplaced.runBody ht none
  | ended target finish outcome hfrom => exact hplaced.conclude ht target outcome

theorem Filled.put (h : e.Filled) (index : Nat) (progress : Progress) :
    (e.put index progress).Filled := by
  -- the oldest task in flight has the same place, whatever its progress
  have holdest : (e.put index progress).oldest = e.oldest := by
    have hhead := congrArg List.head? (map_index_put e index progress)
    rw [List.head?_map, List.head?_map] at hhead
    rw [oldest, oldest, hhead]
    rfl
  rcases h with hnone | hroom
  · exact .inl hnone
  · exact .inr (by rw [holdest]; exact hroom)

theorem filled_conclude (e : Execution) (t : Task) (target : Option Target) (outcome : Outcome) :
    (e.conclude t target outcome).Filled :=
  filled_fill _

theorem Filled.runBody (h : e.Filled) (t : Task) (target : Option Target) :
    (e.runBody t target).Filled := by
  rw [Execution.runBody]
  simp only
  split
  · exact filled_conclude _ t target _
  · exact Filled.put (e := { e with calls := e.calls ++ [⟨t.invocation, target⟩] }) h t.index _

theorem Turn.filled (h : Turn e t events next) (hfilled : e.Filled) : next.Filled := by
  cases h with
  | enqueued spec hspec hfrom hholder => exact Filled.put (e := e.enqueue _ _) hfilled t.index _
  | entered spec hspec hfrom finish hfinish hholder =>
      exact Filled.put (e := e.enqueue _ _) hfilled t.index _
  | begins spec hspec hfrom finish hfinish hholder => exact hfilled.put t.index _
  | refused spec hspec hfrom fault q hq => exact filled_conclude _ t none _
  | served spec hspec hfrom target q hq htarget =>
      exact Filled.runBody (e := e.passOn _ _ q) hfilled t (some target)
  | untargeted hspec hfrom => exact hfilled.runBody t none
  | ended target finish outcome hfrom => exact filled_conclude e t target outcome

/-! ## Steps -/

/-- What is known of an execution and its history at any time. -/
structure Sound (executor : Executor) (limit : Option Duration) (plan : List Invocation)
    (before : List ExecutorCall) (history : List Event) (e : Execution) : Prop where
  /-- Every invocation has its place. -/
  placed : Placed plan e
  /-- The lists are right. -/
  scheduled : Scheduled e none
  /-- The stories are told. -/
  recounted : Recounted executor limit plan before history e none
  /-- As many invocations have started as there is room for. -/
  filled : e.Filled
  /-- There is room for one. -/
  width : 0 < e.width
  /-- The executor is the one that runs the bodies. -/
  sameExecutor : e.executor = executor
  /-- The limit is the one that is put on the bodies. -/
  sameLimit : e.limit = limit

variable {executor : Executor} {limit : Option Duration}

/-- **A step is a turn of the first in the queue**, or time passes since the queue is empty. -/
theorem Sound.step_cases (h : Sound executor limit plan before history e)
    (hstep : e.step = some next) :
    (∃ t rest, e.ready = t.index :: rest ∧ t ∈ e.tasks ∧ t.CanGo e.pool.slots e.now ∧
      Turn (e.take rest) t e.events next) ∨
    ∃ time, e.ready = [] ∧ e.nextTime? = some time ∧ e.events = [] ∧ next = e.passTo time := by
  cases hready : e.ready with
  | cons i rest =>
      obtain ⟨t, ht, rfl, hgo⟩ := h.scheduled.exists_task hready
      have hfound := h.placed.find?_eq ht
      have hnext : (e.take rest).goOn t = next := by
        simp only [Execution.step, hready, hfound, Option.some.injEq] at hstep
        exact hstep
      have hevents : e.events = (e.take rest).eventsOf t next := by
        simp only [events, current?, hready, List.head?_cons, Option.bind_some, hfound, hstep]
        rfl
      -- an invocation that has just started stands at no slot
      have habsent : t.progress = .starting → ∀ key, (key, t.index) ∉ (e.take rest).pool.slots := by
        intro hstart key hmem
        have hslot := (h.scheduled.standsAt h.placed ht key).1 hmem
        rw [hstart] at hslot
        cases hslot
      have hturn := goOn_turn (e.take rest) t (h.placed.fits t ht) hgo habsent
      rw [hnext, ← hevents] at hturn
      exact .inl ⟨t, rest, rfl, ht, hgo, hturn⟩
  | nil =>
      simp only [Execution.step, hready, Option.map_eq_some_iff] at hstep
      obtain ⟨time, htime, rfl⟩ := hstep
      have hevents : e.events = [] := by
        simp only [events, current?, hready, List.head?_nil, Option.bind_none]
      exact .inr ⟨time, rfl, htime, hevents, rfl⟩

/-- What is known is kept by a turn of the first in the queue. -/
theorem Sound.afterTurn (h : Sound executor limit plan before history e) {rest : List Nat}
    (hready : e.ready = t.index :: rest) (ht : t ∈ e.tasks) (hgo : t.CanGo e.pool.slots e.now)
    (hturn : Turn (e.take rest) t events next) :
    Sound executor limit plan before (history ++ events) next ∧ next.weight < e.weight := by
  have hplaced : Placed plan (e.take rest) := h.placed.of_eq rfl rfl rfl rfl
  have hscheduled := h.scheduled.take h.placed hready ht hgo
  have hrecounted : Recounted executor limit plan before history (e.take rest) (some t.index) :=
    (h.recounted.take t.index).of_eq rfl rfl rfl rfl
  have hstands : (e.take rest).StandsAt t.index t.progress.slot? :=
    h.scheduled.standsAt h.placed ht
  have hsettings := hturn.sameSettings
  refine ⟨?_, hturn.weight_lt hplaced ht⟩
  constructor
  case placed => exact hturn.placed hplaced ht
  case scheduled => exact hturn.scheduled hplaced ht hscheduled hstands
  case recounted =>
    have hself := h.recounted.tasks t ht nofun
    exact hturn.recounted hplaced ht h.sameExecutor h.sameLimit hself hrecounted
  case filled => exact hturn.filled h.filled
  case width =>
    rw [hsettings.width]
    exact h.width
  case sameExecutor => exact hsettings.executor.trans h.sameExecutor
  case sameLimit => exact hsettings.limit.trans h.sameLimit

/-- What is known is kept when time passes. -/
theorem Sound.afterTime (h : Sound executor limit plan before history e) (hready : e.ready = [])
    {time : Nat} (htime : e.nextTime? = some time) :
    Sound executor limit plan before history (e.passTo time) ∧
      (e.passTo time).weight < e.weight := by
  refine ⟨⟨h.placed.of_eq rfl rfl rfl rfl, h.scheduled.passTo hready htime,
    h.recounted.of_eq rfl rfl rfl rfl, h.filled, h.width, h.sameExecutor, h.sameLimit⟩, ?_⟩
  -- at least the first of those that wait for a time does so no longer
  obtain ⟨w, hw, hfirst⟩ := List.mem_map.1 (List.min?_mem htime)
  have hless : (e.timers.filter fun w => !decide (w.1 ≤ time)).length < e.timers.length :=
    List.length_filter_lt_length_iff_exists.2 ⟨w, hw, by simp [hfirst]⟩
  show 6 * e.unstarted.length + _ + _ < 6 * e.unstarted.length + _ + _
  exact Nat.add_lt_add_left hless _

/-- **A step preserves what is known, and lowers the weight.** -/
theorem Sound.step (h : Sound executor limit plan before history e) (hstep : e.step = some next) :
    Sound executor limit plan before (history ++ e.events) next ∧ next.weight < e.weight := by
  rcases h.step_cases hstep with
    ⟨t, rest, hready, ht, hgo, hturn⟩ | ⟨time, hready, htime, hevents, rfl⟩
  · exact h.afterTurn hready ht hgo hturn
  · rw [hevents, List.append_nil]
    exact h.afterTime hready htime

/-! ## Runs -/

theorem run_of_step_eq_none (h : e.step = none) (n : Nat) : e.run n = e := by
  cases n with
  | zero => rfl
  | succ n => simp only [Execution.run, h]

theorem trace_of_step_eq_none (h : e.step = none) (n : Nat) : e.trace n = [] := by
  cases n with
  | zero => rfl
  | succ n => simp only [trace, h]

theorem run_succ (h : e.step = some next) (n : Nat) : e.run (n + 1) = next.run n := by
  simp only [Execution.run, h]

theorem trace_succ (h : e.step = some next) (n : Nat) :
    e.trace (n + 1) = e.events ++ next.trace n := by
  simp only [trace, h]

/-- **Whatever a step preserves with all that is known, a run preserves.** -/
theorem Sound.run_induction {P : List Event → Execution → Prop}
    (hkeep : ∀ history e next, Sound executor limit plan before history e → P history e →
      e.step = some next → P (history ++ e.events) next)
    (h : Sound executor limit plan before history e) (hP : P history e) (n : Nat) :
    Sound executor limit plan before (history ++ e.trace n) (e.run n) ∧
      P (history ++ e.trace n) (e.run n) := by
  induction n generalizing e history with
  | zero =>
      rw [trace, List.append_nil]
      exact ⟨h, hP⟩
  | succ n ih =>
      cases hstep : e.step with
      | none =>
          rw [run_of_step_eq_none hstep, trace_of_step_eq_none hstep, List.append_nil]
          exact ⟨h, hP⟩
      | some next =>
          rw [run_succ hstep, trace_succ hstep, ← List.append_assoc]
          exact ih (h.step hstep).1 (hkeep history e next h hP hstep)

/-- All that is known is kept by a run. -/
theorem Sound.run (h : Sound executor limit plan before history e) (n : Nat) :
    Sound executor limit plan before (history ++ e.trace n) (e.run n) :=
  (h.run_induction (P := fun _ _ => True) (fun _ _ _ _ _ _ => trivial) trivial n).1

/-- **A run comes to its end**, in at most as many steps as its start weighs. -/
theorem Sound.run_ends (h : Sound executor limit plan before history e) {n : Nat}
    (hn : e.weight < n) : (e.run n).step = none := by
  induction n generalizing e history with
  | zero => exact absurd hn (Nat.not_lt_zero _)
  | succ n ih =>
      cases hstep : e.step with
      | none =>
          rw [run_of_step_eq_none hstep]
          exact hstep
      | some next =>
          obtain ⟨hnext, hlower⟩ := h.step hstep
          rw [run_succ hstep]
          exact ih hnext (by omega)

/-- All that is known holds at the start of a plan. -/
theorem sound_start {width : Nat} (limit : Option Duration) (executor : Executor) {pool : Pool}
    (calls : List ExecutorCall) (plan : List Invocation) (hwidth : 0 < width)
    (hslots : pool.slots = []) :
    Sound executor limit plan calls [] (start width limit executor pool calls plan) := by
  let idle : Execution := ⟨width, limit, executor, pool, 0, plan, 0, [], [], [], [], calls⟩
  have hnobody : ∀ u : Task, u ∉ idle.tasks := fun _ => List.not_mem_nil
  have hplaced : Placed plan idle :=
    ⟨rfl, List.Perm.refl _, List.Pairwise.nil, fun u hu => absurd hu (hnobody u),
      fun u hu => absurd hu (hnobody u)⟩
  have hscheduled : Scheduled idle none := scheduled_of_tasks_eq_nil rfl rfl rfl hslots
  have hrecounted : Recounted executor limit plan calls [] idle none :=
    ⟨(List.append_nil _).symm, fun _ he => absurd he List.not_mem_nil,
      fun u hu => absurd hu (hnobody u), fun _ he => absurd he List.not_mem_nil⟩
  have hsame := SameSettings.fill idle
  rw [start]
  exact ⟨hplaced.fill, hscheduled.fill hplaced, hrecounted.fill, filled_fill idle,
    hsame.width.symm ▸ hwidth, hsame.executor, hsame.limit⟩

/-- At the end nobody is in flight. -/
theorem Sound.tasks_eq_nil (h : Sound executor limit plan before history e)
    (hstep : e.step = none) : e.tasks = [] := by
  have hready : e.ready = [] := by
    cases hready : e.ready with
    | nil => rfl
    | cons i rest =>
        simp only [Execution.step, hready] at hstep
        split at hstep <;> cases hstep
  have htimers : e.timers = [] := by
    simp only [Execution.step, hready, Option.map_eq_none_iff, nextTime?, List.min?_eq_none_iff,
      List.map_eq_nil_iff] at hstep
    exact hstep
  exact h.scheduled.tasks_eq_nil hready htimers

/-- With nobody in flight all places that have started are reported. -/
theorem Placed.map_fst_reports (h : Placed plan e) (htasks : e.tasks = []) :
    e.reports.map (·.1) = List.range e.started := by
  have hplaces := h.places
  rw [htasks, List.map_nil, List.nil_append] at hplaces
  exact @List.Perm.eq_of_pairwise _ (· < ·) _ _
    (fun a b _ _ hab hba => absurd hab (Nat.lt_asymm hba)) h.ordered List.pairwise_lt_range hplaces

/-- With nobody in flight the whole plan has started. -/
theorem Sound.started_eq_length (h : Sound executor limit plan before history e)
    (htasks : e.tasks = []) : e.started = plan.length := by
  have hunstarted := h.filled.unstarted_eq_nil h.width htasks
  apply Nat.le_antisymm
  · -- a report has its place in the plan, so no further place has started
    apply Nat.le_of_not_lt
    intro hlt
    have hmem : plan.length ∈ e.reports.map (·.1) := by
      rw [h.placed.map_fst_reports htasks]
      exact List.mem_range.2 hlt
    obtain ⟨entry, hentry, hplace⟩ := List.mem_map.1 hmem
    obtain ⟨i, hi, -⟩ := h.recounted.reports entry hentry
    rw [hplace, List.getElem?_eq_none (Nat.le_refl _)] at hi
    cases hi
  · have hdrop := h.placed.unstarted.symm.trans hunstarted
    exact List.drop_eq_nil_iff.1 hdrop

/-- At the end the whole plan has started, all of its places are reported in order, and all slots
are free. -/
theorem Sound.finished (h : Sound executor limit plan before history e) (hstep : e.step = none) :
    e.started = plan.length ∧ e.reports.map (·.1) = List.range plan.length ∧ e.pool.slots = [] := by
  have htasks := h.tasks_eq_nil hstep
  have hstarted := h.started_eq_length htasks
  refine ⟨hstarted, ?_, ?_⟩
  · rw [h.placed.map_fst_reports htasks, hstarted]
  · apply List.eq_nil_iff_forall_not_mem.2
    rintro ⟨key, j⟩ hmem
    obtain ⟨u, hu, -⟩ := (h.scheduled.slots key j nofun).1 hmem
    rw [htasks] at hu
    cases hu

/-- **A plan is executed to its end**: nothing is left to do after as many steps as it allows for. -/
theorem step_complete {width : Nat} (limit : Option Duration) (executor : Executor) {pool : Pool}
    (calls : List ExecutorCall) (plan : List Invocation) (hwidth : 0 < width)
    (hslots : pool.slots = []) : (complete width limit executor pool calls plan).step = none := by
  have hweight : (start width limit executor pool calls plan).weight < stepBound plan.length := by
    rw [start, weight_fill]
    simp only [weight, stepBound, List.map_nil, List.sum_nil, List.length_nil]
    omega
  exact (sound_start limit executor calls plan hwidth hslots).run_ends hweight

/-- At its end nobody is in flight. -/
theorem tasks_complete {width : Nat} (limit : Option Duration) (executor : Executor) {pool : Pool}
    (calls : List ExecutorCall) (plan : List Invocation) (hwidth : 0 < width)
    (hslots : pool.slots = []) : (complete width limit executor pool calls plan).tasks = [] := by
  have hsound := (sound_start limit executor calls plan hwidth hslots).run (stepBound plan.length)
  exact hsound.tasks_eq_nil (step_complete limit executor calls plan hwidth hslots)

/-- The events of the execution of a plan. -/
def story (width : Nat) (limit : Option Duration) (executor : Executor) (pool : Pool)
    (calls : List ExecutorCall) (plan : List Invocation) : List Event :=
  (start width limit executor pool calls plan).trace (stepBound plan.length)

/-- **Every invocation of a plan is reported at its place, with its story.** There are no events
but those of the stories, the calls to the executor are among them, and all slots are free at
the end. -/
theorem complete_told {width : Nat} (limit : Option Duration) (executor : Executor) {pool : Pool}
    (calls : List ExecutorCall) (plan : List Invocation) (hwidth : 0 < width)
    (hslots : pool.slots = []) :
    let e := complete width limit executor pool calls plan
    let history := story width limit executor pool calls plan
    e.results.length = plan.length ∧
    (∀ (index : Nat) (i : Invocation), plan[index]? = some i →
      ∃ r, e.results[index]? = some r ∧ Told executor limit index i (about index history) r) ∧
    (∀ event ∈ history, event.index < plan.length) ∧
    e.calls.zipIdx = calls.zipIdx ++ history.filterMap Event.call? ∧
    e.pool.slots = [] := by
  intro e history
  have hstart := sound_start limit executor calls plan hwidth hslots
  have hstep : e.step = none := step_complete limit executor calls plan hwidth hslots
  have hsound : Sound executor limit plan calls history e := hstart.run (stepBound plan.length)
  obtain ⟨hstarted, hplaces, hfree⟩ := hsound.finished hstep
  have hplaces : e.reports.map (·.1) = List.range plan.length := hplaces
  -- there is one report for each place, so the report of a place stands at it
  have hlength : e.reports.length = plan.length := by
    rw [← List.length_map (·.1), hplaces, List.length_range]
  refine ⟨?_, fun index i hi => ?_, ?_, hsound.recounted.calls, hfree⟩
  · rw [results, List.length_map, hlength]
  · obtain ⟨hlt, -⟩ := List.getElem?_eq_some_iff.1 hi
    have hlt : index < e.reports.length := hlength.symm ▸ hlt
    have hplace : (e.reports[index]).1 = index := by
      have hget := congrArg (·[index]?) hplaces
      simpa [hlt, hlength ▸ hlt] using hget
    obtain ⟨j, hj, htold⟩ := hsound.recounted.reports e.reports[index] (List.getElem_mem hlt)
    rw [hplace] at hj htold
    rw [hi, Option.some.injEq] at hj
    subst hj
    refine ⟨(e.reports[index]).2, ?_, htold⟩
    rw [results, List.getElem?_map, List.getElem?_eq_getElem hlt]
    rfl
  · intro event he
    rw [← hstarted]
    exact hsound.recounted.started event he

end Execution

end TestBench
