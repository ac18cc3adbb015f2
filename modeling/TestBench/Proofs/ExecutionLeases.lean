import Mathlib.Data.List.Perm.Basic
import TestBench.Proofs.ExecutionPool
import TestBench.Proofs.PoolLeases

/-!
# The leases of an execution

While the body of an invocation runs, the invocation holds the lease on its target. So the leases of
an execution can be read off its invocations in flight, and the leases that were taken off the calls
in its history. `Execution.Counted` says that the connections in the pool agree with both; every
turn keeps it, whether a body passes, breaks down, takes too long or never gets its target.

At the end nobody is in flight, so no lease is left. And a report carries the identifier of a target
just if its invocation was called with that target, so the reports can be counted instead of the
calls (`Execution.countP_targetId_results`).
-/

set_option autoImplicit false

namespace TestBench

/-- The number of a target, as the one lease on it. -/
def leaseOn (target : Option Target) : List Nat := target.toList.map (·.serial)

/-- The target that an invocation holds while its body runs. -/
def Progress.target? : Progress → Option Target
  | .running target _ _ => target
  | _ => none

theorem Progress.Seeks.target?_eq_none {r : Request} {progress : Progress}
    (h : progress.Seeks r) : progress.target? = none := by
  cases h with
  | starting => rfl
  | queued => rfl
  | building finish => rfl

/-- The target that is handed to a body. -/
def Execution.Event.target? : Execution.Event → Option Target
  | .settled _ _ => none
  | .called _ _ call => call.target

namespace Pool

/-- Every pool keeps the targets it has. -/
theorem kept_mem_bare (t : Target) : Kept fun p => t ∈ p.bare where
  slots _ _ h := h
  settled p r answer q hs h := by
    cases hs with
    | unknown hp => exact h
    | reused serial hr =>
        rw [bare_lease]
        exact h
    | built place provider _ _ hp hb => exact hb.extends.bare.subset h
  release p serial h := by
    rw [release, bare_mapConnection]
    exact h

/-- Every pool with ascending numbers has right counts. -/
theorem Numbered.exists_lent {p : Pool} (h : Numbered p) :
    ∃ active opened, Lent p.targets p.built active opened := by
  let count : Nat → Connection := fun n => ((p.target? n).map (·.connection)).getD .unused
  refine ⟨fun n => (count n).active, fun n => (count n).opened, h.ascending, h.lt_built, ?_, ?_⟩
  · intro t ht
    simp only [count, h.target?_eq ht]
    rfl
  · intro n hn
    have hnone : p.target? n = none := by
      apply List.find?_eq_none.2
      intro t ht
      have hne : t.serial ≠ n := Nat.ne_of_lt (Nat.lt_of_lt_of_le (h.lt_built t ht) hn)
      simpa using hne
    simp only [count, hnone]
    exact ⟨rfl, rfl⟩

end Pool

namespace Execution

variable {plan : List Invocation} {history events : List Event} {e next : Execution} {t : Task}
  {active opened : Nat → Nat}

/-! ## Leases in flight -/

/-- The leases that are held by the invocations in flight. -/
def leases (e : Execution) : List Nat := e.tasks.flatMap fun t => leaseOn t.progress.target?

/-- The targets that were handed to bodies. -/
def handed (history : List Event) : List Target := history.filterMap Event.target?

theorem handed_append (history events : List Event) :
    handed (history ++ events) = handed history ++ handed events :=
  List.filterMap_append

theorem leases_fill (e : Execution) : e.fill.leases = e.leases := by
  refine fill_induction (P := fun f => f.leases = e.leases) rfl fun f i rest hi h => ?_
  rw [← h]
  simp [leases, begin, leaseOn, Progress.target?]

theorem count_leases_put (h : Placed plan e) (ht : t ∈ e.tasks) (progress : Progress) (n : Nat) :
    (e.put t.index progress).leases.count n + (leaseOn t.progress.target?).count n =
      e.leases.count n + (leaseOn progress.target?).count n := by
  obtain ⟨before, after, hsplit, hput⟩ := h.put_eq ht progress
  simp only [leases, hput]
  rw [hsplit]
  simp only [List.flatMap_append, List.flatMap_cons, List.count_append]
  omega

theorem count_leases_conclude (h : Placed plan e) (ht : t ∈ e.tasks) (target : Option Target)
    (outcome : Outcome) (n : Nat) :
    (e.conclude t target outcome).leases.count n + (leaseOn t.progress.target?).count n =
      e.leases.count n := by
  obtain ⟨before, after, hsplit, hfilter⟩ := h.filter_eq ht
  rw [conclude_eq_fill, leases_fill]
  simp only [leases, retire, hfilter]
  rw [hsplit]
  simp only [List.flatMap_append, List.flatMap_cons, List.count_append]
  omega

/-! ## Counts during a turn -/

/-- A report drops the lease of its invocation. -/
theorem lent_conclude (h : Pool.Lent e.pool.targets e.pool.built active opened) (t : Task)
    (target : Option Target) (outcome : Outcome) :
    Pool.Lent (e.conclude t target outcome).pool.targets (e.conclude t target outcome).pool.built
      (fun n => active n - (leaseOn target).count n) opened := by
  rw [pool_conclude]
  cases target with
  | none => exact h.congr (fun _ => rfl) fun _ => rfl
  | some target => exact h.closing target.serial

/-- A body is run with a lease on its target, and either it is over at once and the lease is
dropped, or the invocation holds the lease. -/
theorem lent_runBody (hplaced : Placed plan e) (ht : t ∈ e.tasks)
    (hidle : t.progress.target? = none) (target : Option Target)
    (h : Pool.Lent e.pool.targets e.pool.built
      (fun n => active n + e.leases.count n + (leaseOn target).count n) opened) :
    Pool.Lent (e.runBody t target).pool.targets (e.runBody t target).pool.built
      (fun n => active n + (e.runBody t target).leases.count n) opened := by
  have hcalled := hplaced.withCalls (e.calls ++ [⟨t.invocation, target⟩])
  rw [runBody]
  simp only
  split
  · refine (lent_conclude (e := { e with calls := e.calls ++ [⟨t.invocation, target⟩] }) h t target
      _).congr (fun n => ?_) fun _ => rfl
    have hcount := count_leases_conclude hcalled ht target
      ((e.executor e.calls.length t.invocation target).limited e.limit).2 n
    rw [hidle] at hcount
    change _ + 0 = e.leases.count n at hcount
    omega
  · refine h.congr (fun n => ?_) fun _ => rfl
    have hcount := count_leases_put hcalled ht (.running target
      (e.now + ((e.executor e.calls.length t.invocation target).limited e.limit).1)
      ((e.executor e.calls.length t.invocation target).limited e.limit).2) n
    rw [hidle] at hcount
    change _ + 0 = e.leases.count n + (leaseOn target).count n at hcount
    rw [Nat.add_assoc, ← hcount]
    rfl

/-- **Every turn keeps the counts right.** -/
theorem Turn.lent (h : Turn e t events next) (hplaced : Placed plan e) (ht : t ∈ e.tasks)
    (hlent : Pool.Lent e.pool.targets e.pool.built (fun n => active n + e.leases.count n) opened) :
    Pool.Lent next.pool.targets next.pool.built (fun n => active n + next.leases.count n)
      (fun n => opened n + ((handed events).map (·.serial)).count n) := by
  cases h with
  | enqueued spec hspec hfrom hholder =>
      refine hlent.congr (fun n => ?_) fun _ => rfl
      have hcount := count_leases_put
        (hplaced.enqueue t.index (t.invocation.request spec).slot) ht
        (.resolving (t.invocation.request spec) .queued) n
      rw [hfrom] at hcount
      exact congrArg (active n + ·) hcount
  | entered spec hspec hfrom finish hfinish hholder =>
      refine hlent.congr (fun n => ?_) fun _ => rfl
      have hcount := count_leases_put
        (hplaced.enqueue t.index (t.invocation.request spec).slot) ht
        (.resolving (t.invocation.request spec) (.building finish)) n
      rw [hfrom] at hcount
      exact congrArg (active n + ·) hcount
  | begins spec hspec hfrom finish hfinish hholder =>
      refine hlent.congr (fun n => ?_) fun _ => rfl
      have hcount := count_leases_put hplaced ht
        (.resolving (t.invocation.request spec) (.building finish)) n
      rw [hfrom] at hcount
      exact congrArg (active n + ·) hcount
  | refused spec hspec hfrom fault q hq =>
      have hgranted := Pool.Lent.granted [] hlent hq.granted
      have hdone := lent_conclude (e := e.passOn t.index (t.invocation.request spec).slot q)
        hgranted t none (.errored fault.message)
      refine hdone.congr (fun n => ?_) fun _ => rfl
      have hcount := count_leases_conclude
        (hplaced.passOn t.index (t.invocation.request spec).slot q) ht none
        (.errored fault.message) n
      rw [hfrom.target?_eq_none] at hcount
      exact congrArg (active n + ·) hcount
  | served spec hspec hfrom target q hq htarget =>
      have hgranted := Pool.Lent.granted [] hlent hq.granted
      exact lent_runBody (hplaced.passOn t.index (t.invocation.request spec).slot q) ht
        hfrom.target?_eq_none (some target) hgranted
  | untargeted hspec hfrom =>
      exact lent_runBody hplaced ht (by rw [hfrom]; rfl) none hlent
  | ended target finish outcome hfrom =>
      refine (lent_conclude hlent t target outcome).congr (fun n => ?_) fun _ => rfl
      have hcount := count_leases_conclude hplaced ht target outcome n
      rw [hfrom] at hcount
      change _ + (leaseOn target).count n = e.leases.count n at hcount
      omega

/-- **A body is handed an open target** that is in the pool. -/
theorem Turn.handed_open (h : Turn e t events next)
    (hlent : Pool.Lent e.pool.targets e.pool.built active opened) {target : Target}
    (hmem : target ∈ handed events) :
    target.connection.isOpen = true ∧ target.bare ∈ next.pool.bare := by
  cases h with
  | enqueued spec hspec hfrom hholder => cases hmem
  | entered spec hspec hfrom finish hfinish hholder => cases hmem
  | begins spec hspec hfrom finish hfinish hholder => cases hmem
  | refused spec hspec hfrom fault q hq => cases hmem
  | served spec hspec hfrom leased q hq htarget =>
      obtain rfl : target = leased := List.mem_singleton.1 hmem
      have hpooled : target ∈ q.targets := List.mem_of_find?_eq_some htarget
      have hgranted := Pool.Lent.granted [] hlent hq.granted
      constructor
      · -- the lease that has just been taken is counted
        rw [Connection.isOpen, hgranted.connection target hpooled, decide_eq_true_iff]
        simp [Resolution.granted]
      · have hbare : target.bare ∈ q.bare := List.mem_map_of_mem hpooled
        exact kept_runBody (e := e.passOn t.index (t.invocation.request spec).slot q)
          (Pool.kept_mem_bare target.bare) hbare t (some target)
  | untargeted hspec hfrom => cases hmem
  | ended leased finish outcome hfrom => cases hmem

/-! ## Targets in use -/

/-- A body is running on a target. -/
def RunsOn (e : Execution) (target : Target) : Prop :=
  ∃ t ∈ e.tasks, t.progress.target? = some target

variable {target : Target}

theorem runsOn_fill (h : e.fill.RunsOn target) : e.RunsOn target := by
  revert h
  refine fill_induction (P := fun f => f.RunsOn target → e.RunsOn target) id ?_
  rintro f i rest - hf ⟨u, hu, htarget⟩
  rcases List.mem_append.1 hu with hu | hu
  · exact hf ⟨u, hu, htarget⟩
  · -- an invocation that has just started has no body running
    rw [List.mem_singleton.1 hu] at htarget
    cases htarget

theorem runsOn_conclude {leased : Option Target} {outcome : Outcome}
    (h : (e.conclude t leased outcome).RunsOn target) : e.RunsOn target := by
  rw [conclude_eq_fill] at h
  obtain ⟨u, hu, htarget⟩ := runsOn_fill h
  exact ⟨u, (mem_tasks_retire.1 hu).1, htarget⟩

theorem runsOn_put {index : Nat} {progress : Progress}
    (h : (e.put index progress).RunsOn target) :
    e.RunsOn target ∨ progress.target? = some target := by
  obtain ⟨u, hu, htarget⟩ := h
  rcases mem_tasks_put.1 hu with ⟨hu, -⟩ | ⟨v, -, -, rfl⟩
  · exact .inl ⟨u, hu, htarget⟩
  · exact .inr htarget

theorem runsOn_runBody {leased : Option Target} (h : (e.runBody t leased).RunsOn target) :
    e.RunsOn target ∨ leased = some target := by
  rw [runBody] at h
  simp only at h
  split at h
  · exact .inl (runsOn_conclude (e := { e with calls := e.calls ++ [⟨t.invocation, leased⟩] }) h)
  · let called : Execution := { e with calls := e.calls ++ [⟨t.invocation, leased⟩] }
    have hput : (called.put t.index (.running leased _ _)).RunsOn target := h
    exact runsOn_put hput

/-- **A body runs on the target that it was handed**, in this turn or before. -/
theorem Turn.runsOn (h : Turn e t events next) (hruns : next.RunsOn target) :
    e.RunsOn target ∨ target ∈ handed events := by
  cases h with
  | enqueued spec hspec hfrom hholder =>
      exact (runsOn_put (e := e.enqueue _ _) hruns).imp_right nofun
  | entered spec hspec hfrom finish hfinish hholder =>
      exact (runsOn_put (e := e.enqueue _ _) hruns).imp_right nofun
  | begins spec hspec hfrom finish hfinish hholder =>
      exact (runsOn_put (e := e) hruns).imp_right nofun
  | refused spec hspec hfrom fault q hq =>
      exact .inl (runsOn_conclude (e := e.passOn _ _ q) hruns)
  | served spec hspec hfrom leased q hq htarget =>
      refine (runsOn_runBody (e := e.passOn _ _ q) hruns).imp_right fun hleased => ?_
      exact List.mem_singleton.2 (Option.some.inj hleased).symm
  | untargeted hspec hfrom => exact (runsOn_runBody hruns).imp_right nofun
  | ended leased finish outcome hfrom => exact .inl (runsOn_conclude hruns)

/-! ## Counts during a run -/

/-- The connections in the pool agree with the leases of an execution and with its history, on top
of what they were at its start. -/
structure Counted (active opened : Nat → Nat) (history : List Event) (e : Execution) : Prop where
  /-- The counts. -/
  lent : Pool.Lent e.pool.targets e.pool.built (fun n => active n + e.leases.count n)
    fun n => opened n + ((handed history).map (·.serial)).count n
  /-- Every body was handed an open target. -/
  isOpen : ∀ target ∈ handed history, target.connection.isOpen = true
  /-- The target is in the pool. -/
  pooled : ∀ target ∈ handed history, target.bare ∈ e.pool.bare
  /-- The bodies that are running are among them. -/
  runsOn : ∀ target, e.RunsOn target → target ∈ handed history

variable {executor : Executor} {limit : Option Duration} {before : List ExecutorCall}

/-- **A step keeps the counts right.** -/
theorem Counted.step (h : Counted active opened history e)
    (hsound : Sound executor limit plan before history e) (hstep : e.step = some next) :
    Counted active opened (history ++ e.events) next := by
  rcases hsound.step_cases hstep with
    ⟨t, rest, -, ht, -, hturn⟩ | ⟨time, -, -, hevents, rfl⟩
  · have hplaced : Placed plan (e.take rest) := hsound.placed.of_eq rfl rfl rfl rfl
    have hlent : Pool.Lent (e.take rest).pool.targets (e.take rest).pool.built
      (fun n => active n + (e.take rest).leases.count n) _ := h.lent
    constructor
    case lent =>
      refine (hturn.lent hplaced ht hlent).congr (fun _ => rfl) fun n => ?_
      rw [handed_append, List.map_append, List.count_append, Nat.add_assoc]
    case isOpen =>
      intro target hmem
      rw [handed_append, List.mem_append] at hmem
      rcases hmem with hmem | hmem
      · exact h.isOpen target hmem
      · exact (hturn.handed_open hlent hmem).1
    case pooled =>
      intro target hmem
      rw [handed_append, List.mem_append] at hmem
      rcases hmem with hmem | hmem
      · have hbefore : target.bare ∈ (e.take rest).pool.bare := h.pooled target hmem
        exact hturn.kept (Pool.kept_mem_bare target.bare) hbefore
      · exact (hturn.handed_open hlent hmem).2
    case runsOn =>
      intro target hruns
      rw [handed_append, List.mem_append]
      exact (hturn.runsOn hruns).imp_left (h.runsOn target)
  · rw [hevents, List.append_nil]
    exact ⟨h.lent, h.isOpen, h.pooled, h.runsOn⟩

/-- **However far a plan has been executed**, the counts are right. -/
theorem counted_run {width : Nat} (limit : Option Duration) (executor : Executor) {pool : Pool}
    (calls : List ExecutorCall) (plan : List Invocation) (hwidth : 0 < width)
    (hslots : pool.slots = [])
    (hlent : Pool.Lent pool.targets pool.built active opened) (n : Nat) :
    let e := start width limit executor pool calls plan
    Counted active opened (e.trace n) (e.run n) := by
  intro e
  have hsound := sound_start limit executor calls plan hwidth hslots
  have hpool : e.pool = pool := pool_fill _
  have hidle : e.leases = [] := leases_fill _
  have hstart : Counted active opened [] e := by
    constructor
    case lent =>
      rw [hpool, hidle]
      exact hlent.congr (fun _ => rfl) fun _ => rfl
    case isOpen => exact fun _ hmem => absurd hmem List.not_mem_nil
    case pooled => exact fun _ hmem => absurd hmem List.not_mem_nil
    case runsOn =>
      intro target hruns
      obtain ⟨u, hu, -⟩ := runsOn_fill hruns
      exact absurd hu List.not_mem_nil
  exact (hsound.run_induction (P := Counted active opened)
    (fun _ _ _ hs hc hstep => hc.step hs hstep) hstart n).2

/-- While a body runs on a target, that target is in the pool and open. -/
theorem Counted.exists_open {target : Target} (h : Counted active opened history e)
    (hruns : e.RunsOn target) :
    ∃ t ∈ e.pool.targets, t.bare = target.bare ∧ t.connection.isOpen = true := by
  obtain ⟨t, ht, hbare⟩ := List.mem_map.1 (h.pooled target (h.runsOn target hruns))
  refine ⟨t, ht, hbare, ?_⟩
  -- the lease that the body holds is counted
  have hserial : t.serial = target.serial := congrArg (fun u => u.bare.serial) hbare
  obtain ⟨u, hu, htarget⟩ := hruns
  have hleased : t.serial ∈ e.leases := by
    refine List.mem_flatMap.2 ⟨u, hu, ?_⟩
    rw [htarget, hserial]
    exact List.mem_singleton_self _
  have hcount : 0 < e.leases.count t.serial := List.count_pos_iff.2 hleased
  rw [Connection.isOpen, h.lent.connection t ht, decide_eq_true_iff]
  exact Nat.lt_of_lt_of_le hcount (Nat.le_add_left _ _)

/-! ## Reports -/

/-- The events before a place, in the order of the places that they are about. -/
theorem flatMap_about_perm (history : List Event) (count : Nat) :
    ((List.range count).flatMap fun index => about index history).Perm
      (history.filter fun event => decide (event.index < count)) := by
  induction count with
  | zero => simp
  | succ count ih =>
      rw [List.range_succ, List.flatMap_append, List.flatMap_singleton]
      refine (ih.append_right _).trans ?_
      -- the events up to a place are those before it and those about it
      have hsplit := List.filter_append_perm (fun event : Event => decide (event.index < count))
        (history.filter fun event => decide (event.index < count + 1))
      simp only [List.filter_filter] at hsplit
      have hbefore : (history.filter fun event =>
          decide (event.index < count) && decide (event.index < count + 1)) =
            history.filter fun event => decide (event.index < count) := by
        refine List.filter_congr fun event _ => ?_
        rw [← Bool.decide_and, decide_eq_decide]
        omega
      have habout : (history.filter fun event =>
          (!decide (event.index < count)) && decide (event.index < count + 1)) =
            about count history := by
        refine List.filter_congr fun event _ => ?_
        rw [Bool.eq_iff_iff]
        simp
        omega
      rw [hbefore, habout] at hsplit
      exact hsplit

/-- A report carries an identifier just if its invocation was called with a target that has it. -/
theorem Told.countP_targetId {index : Nat} {i : Invocation} {r : InvocationReport}
    (h : Told executor limit index i events r) (id : TargetId) :
    [r].countP (fun r => r.targetId == some id) =
      (handed events).countP fun target => target.id == id := by
  cases h with
  | untargeted h number outcome ho => rfl
  | served spec h target number outcome ho =>
      show _ = [target].countP fun target => target.id == id
      rw [List.countP_singleton, List.countP_singleton]
      rfl
  | refused spec h fault => rfl

/-- **As many reports carry an identifier as bodies were handed a target that has it.** -/
theorem countP_targetId_results {width : Nat} (limit : Option Duration) (executor : Executor)
    {pool : Pool} (calls : List ExecutorCall) (plan : List Invocation) (hwidth : 0 < width)
    (hslots : pool.slots = []) (id : TargetId) :
    (complete width limit executor pool calls plan).results.countP
        (fun r => r.targetId == some id) =
      (handed (story width limit executor pool calls plan)).countP fun target =>
        target.id == id := by
  obtain ⟨hlength, htold, hindex, -, -⟩ :=
    complete_told limit executor calls plan hwidth hslots
  generalize (complete width limit executor pool calls plan).results = results at *
  generalize story width limit executor pool calls plan = history at *
  -- place by place, the report and the story agree
  have hplaces : results.map (List.countP (fun r => r.targetId == some id) ∘ fun r => [r]) =
      (List.range plan.length).map (List.countP (fun target => target.id == id) ∘
        fun index => handed (about index history)) := by
    apply List.ext_getElem
    · rw [List.length_map, List.length_map, List.length_range, hlength]
    · intro index hr hp
      rw [List.length_map] at hr
      have hlt : index < plan.length := hlength ▸ hr
      obtain ⟨r, hresult, hstory⟩ := htold index plan[index] (List.getElem?_eq_getElem hlt)
      rw [List.getElem?_eq_getElem hr, Option.some.injEq] at hresult
      rw [List.getElem_map, List.getElem_map, List.getElem_range, hresult]
      exact hstory.countP_targetId id
  have hall : (history.filter fun event => decide (event.index < plan.length)) = history :=
    List.filter_eq_self.2 fun event he => decide_eq_true (hindex event he)
  have hperm := (flatMap_about_perm history plan.length).filterMap Event.target?
  rw [hall, List.filterMap_flatMap] at hperm
  calc results.countP (fun r => r.targetId == some id)
      = (results.flatMap fun r => [r]).countP fun r => r.targetId == some id := by
        rw [List.flatMap_singleton']
    _ = (results.map (List.countP (fun r => r.targetId == some id) ∘ fun r => [r])).sum :=
        List.countP_flatMap
    _ = ((List.range plan.length).flatMap fun index => handed (about index history)).countP
          fun target => target.id == id := by
        rw [hplaces, List.countP_flatMap]
    _ = (handed history).countP fun target => target.id == id := hperm.countP_eq _

end Execution

end TestBench
