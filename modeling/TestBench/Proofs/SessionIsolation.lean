import TestBench.Fleet.Simulation
import TestBench.Proofs.ExecutionIsolation
import TestBench.Proofs.SessionLeases

/-!
# Failing targets hurt only their own tests

A playbook may list specifications whose platforms never build anything. A session that is opened with
such a playbook is compared with one that is opened without these specifications. Its plan has the
same invocations and some more, which are doomed, and those are reported as errors.

That the other invocations are reported alike is true of their names always. Their targets and
outcomes are the same if both executions keep to their plans (`Execution.complete_serves`), because
then both are as if the same invocations were served one by one. Otherwise a doomed invocation may
delay one that comes after it, until a slow platform has built a target for one before it, and then
the targets are built in another order.
-/

set_option autoImplicit false

namespace TestBench

/-- The playbook without some of its target specifications. -/
def Playbook.without (playbook : Playbook) (broken : TargetSpec → Bool) : Playbook :=
  { playbook with targets := playbook.targets.filter fun spec => !broken spec }

/-- The invocation needs a target of a marked specification. -/
def Invocation.asksFor (broken : TargetSpec → Bool) (i : Invocation) : Bool := i.target.any broken

/-! ## Simulated platforms that fail, or do not wait -/

namespace Simulation

/-- A simulation always fails just if it is set to. One that is only short of features builds
something for requests that name none. -/
theorem fails_iff (s : Simulation) : s.platform.Fails ↔ s.refusesConstruction = true := by
  constructor
  · intro hfails
    obtain ⟨reason, hreason⟩ := hfails [] [] ∅
    have hreason : s.construct [] [] ∅ = .error reason := hreason
    have hmissing : s.missing? ∅ = none := rfl
    rw [construct, hmissing] at hreason
    by_contra hbuilds
    rw [if_neg hbuilds] at hreason
    cases hreason
  · intro hrefuses ledger parameters features
    show ∃ reason, s.construct ledger parameters features = .error reason
    rw [construct, hrefuses]
    split
    · exact ⟨_, rfl⟩
    · exact ⟨_, rfl⟩

theorem prompt (s : Simulation) (h : s.delay = 0) : s.platform.Prompt := fun _ _ _ => h

end Simulation

/-- A body that is not run depends on nothing. -/
theorem Executor.steady_dryRun (limit : Option Duration) : Executor.dryRun.Steady limit where
  number _ _ _ _ := rfl
  target _ _ _ _ _ _ _ := rfl

namespace Session

variable {s : Session} {config : Config} {playbook : Playbook} {registry : Registry} {runId : RunId}
  {ids : Nat → TargetId} {broken : TargetSpec → Bool} {tests : List Case} {catalog : List Entry}

/-! ## Reports with and without the marked specifications -/

/-- If no invocation is doomed, all reports remain. -/
theorem remainingReports_of_forall {doomed : Invocation → Bool} {plan : List Invocation}
    {reports : List InvocationReport} (hlength : reports.length = plan.length)
    (h : ∀ i ∈ plan, doomed i = false) : remainingReports doomed plan reports = reports := by
  have hall : ((plan.zip reports).filter fun entry => !doomed entry.1) = plan.zip reports :=
    List.filter_eq_self.2 fun entry hentry => by simp [h entry.1 (List.of_mem_zip hentry).1]
  rw [remainingReports, hall]
  exact List.map_snd_zip (Nat.le_of_eq hlength)

/-- What reports have in common with their invocations, the remaining ones have. -/
theorem map_remainingReports {α : Type} {doomed : Invocation → Bool} {plan : List Invocation}
    {reports : List InvocationReport} {f : InvocationReport → α} {g : Invocation → α}
    (h : reports.map f = plan.map g) :
    (remainingReports doomed plan reports).map f = (plan.filter fun i => !doomed i).map g := by
  induction plan generalizing reports with
  | nil => simp [remainingReports]
  | cons i rest ih =>
      cases reports with
      | nil => cases h
      | cons r reports =>
          rw [List.map_cons, List.map_cons, List.cons.injEq] at h
          have hrest := ih h.2
          rw [remainingReports] at hrest ⊢
          cases hd : doomed i with
          | true => simpa [hd] using hrest
          | false => simpa [hd, h.1] using hrest

/-- The reports of an execution name their invocations. -/
theorem map_names_execute (hslots : s.pool.slots = []) (executor : Executor)
    (plan : List Invocation) :
    (s.execute executor plan).1.map (fun r => (r.id, r.test, r.target)) =
      plan.map fun i => (i.id, i.test.name, i.target.map (·.name)) := by
  obtain ⟨hlength, htold, -⟩ := Execution.complete_told s.config.testTimeout executor s.calls plan
    (width_pos s.config) hslots
  have hlength : (s.execute executor plan).1.length = plan.length := hlength
  refine List.ext_getElem (by simpa using hlength) fun index hr hp => ?_
  rw [List.length_map] at hr hp
  obtain ⟨r, hresult, hstory⟩ := htold index plan[index] (List.getElem?_eq_getElem hp)
  have hresult : (s.execute executor plan).1[index]? = some r := hresult
  rw [List.getElem?_eq_getElem hr, Option.some.injEq] at hresult
  rw [List.getElem_map, List.getElem_map, hresult]
  exact hstory.names

/-! ## Plans with and without the marked specifications -/

theorem effectiveTargets_of_exists (config : Config)
    (hsome : ∃ spec ∈ playbook.targets, broken spec = false) :
    effectiveTargets playbook config = playbook.targets ∧
      effectiveTargets (playbook.without broken) config =
        playbook.targets.filter fun spec => !broken spec := by
  obtain ⟨spec, hspec, hgood⟩ := hsome
  have hkept : spec ∈ playbook.targets.filter fun spec => !broken spec :=
    List.mem_filter.2 ⟨hspec, by simp [hgood]⟩
  constructor
  · have hne : playbook.targets.isEmpty = false := by
      simpa using List.ne_nil_of_mem hspec
    rw [effectiveTargets, hne]
    rfl
  · have hne : (playbook.without broken).targets.isEmpty = false := by
      simpa [Playbook.without] using List.ne_nil_of_mem hkept
    rw [effectiveTargets, hne]
    rfl

/-- The invocations of a test that do not need a marked specification are those without it. -/
theorem filter_invocations (specs : List TargetSpec) (test : Case) :
    (invocations specs test).filter (fun i => !i.asksFor broken) =
      invocations (specs.filter fun spec => !broken spec) test := by
  simp only [invocations]
  split
  · rw [List.filter_map]
    rfl
  · rfl

theorem mem_specs_of_mem_plan {i : Invocation} {spec : TargetSpec} (h : i ∈ s.plan tests)
    (hspec : i.target = some spec) : spec ∈ s.targetSpecs := by
  obtain ⟨test, -, hi⟩ := List.mem_flatMap.1 h
  rw [invocations] at hi
  split at hi
  · obtain ⟨spec', hmem, rfl⟩ := List.mem_map.1 hi
    exact Option.some.inj hspec ▸ hmem
  · rw [List.mem_singleton.1 hi] at hspec
    cases hspec

/-- The plan without the broken specifications has the invocations that do not need them, in the same
order. -/
theorem plan_without {s' : Session}
    (hspecs : s'.targetSpecs = s.targetSpecs.filter fun spec => !broken spec) (tests : List Case) :
    s'.plan tests = (s.plan tests).filter fun i => !i.asksFor broken := by
  rw [plan, plan, hspecs, List.filter_flatMap]
  exact List.flatMap_congr fun test _ => (filter_invocations s.targetSpecs test).symm

/-! ## Opening -/

/-- A session is opened just if every kind is answered to. -/
theorem withPlaybook_eq_ok_iff : (∃ s, withPlaybook config playbook registry runId ids = .ok s) ↔
    ∀ spec ∈ effectiveTargets playbook config, registry.contains spec.platform = true := by
  rw [withPlaybook]
  split
  · next spec hspec =>
      refine iff_of_false (by rintro ⟨s, ⟨⟩⟩) fun hall => ?_
      have hunknown := List.find?_some hspec
      rw [hall spec (List.mem_of_find?_eq_some hspec)] at hunknown
      cases hunknown
  · next hnone =>
      refine iff_of_true ⟨_, rfl⟩ fun spec hspec => ?_
      simpa using List.find?_eq_none.1 hnone spec hspec

/-- **The session without the broken specifications** can be opened as well. It selects the same
tests and plans the same invocations, but for those that need a broken specification. -/
theorem exists_open_without (hopen : withPlaybook config playbook registry runId ids = .ok s)
    (hsome : ∃ spec ∈ playbook.targets, broken spec = false) :
    ∃ s', withPlaybook config (playbook.without broken) registry runId ids = .ok s' ∧
      s'.select = s.select ∧
      ∀ tests, s'.plan tests = (s.plan tests).filter fun i => !i.asksFor broken := by
  obtain ⟨heffective, hreduced⟩ := effectiveTargets_of_exists config hsome
  have hknown := withPlaybook_eq_ok_iff.1 ⟨s, hopen⟩
  rw [heffective] at hknown
  obtain ⟨s', hopen'⟩ :
      ∃ s', withPlaybook config (playbook.without broken) registry runId ids = .ok s' := by
    rw [withPlaybook_eq_ok_iff, hreduced]
    exact fun spec hspec => hknown spec (List.mem_filter.1 hspec).1
  have hs := open_withPlaybook hopen
  have hs' := open_withPlaybook hopen'
  have hspecs : s'.targetSpecs = s.targetSpecs.filter fun spec => !broken spec := by
    rw [targetSpecs, hs'.playbook, hs'.config, hreduced, targetSpecs, hs.playbook, hs.config,
      heffective]
  refine ⟨s', hopen', ?_, plan_without hspecs⟩
  rw [eq_of_withPlaybook hopen, eq_of_withPlaybook hopen']
  rfl

/-! ## Runs of a valid catalog -/

/-- A run of a valid catalog executes its plan and empties the pool. -/
theorem run_of_validate (htorn : s.tornDown = false) (hvalid : Catalog.validate catalog = .ok tests)
    (executor : Executor) :
    let plan := s.plan (s.select tests).tests
    let executed := s.execute executor plan
    s.run executor catalog = .ok
      ({ (Report.start s.runId).recordSelection (s.select tests) with
          invocations := executed.1 }.finish executed.2.pool.teardown.1, executed.2.close.2) := by
  intro plan executed
  rw [Session.run, htorn, hvalid]
  rfl

/-! ## Executions in a session that was just opened -/

theorem pool_eq_of_withPlaybook (h : withPlaybook config playbook registry runId ids = .ok s) :
    s.pool = .empty registry config.keepTargets ids := by
  rw [eq_of_withPlaybook h]

theorem sterile_of_withPlaybook (h : withPlaybook config playbook registry runId ids = .ok s) :
    s.pool.Sterile := by
  rw [pool_eq_of_withPlaybook h]
  exact fun _ ht => absurd ht List.not_mem_nil

/-- In the plans of a session the invocations that ask for broken specifications are the doomed
ones. -/
theorem dooms_plan (hopen : withPlaybook config playbook registry runId ids = .ok s)
    (hbroken : ∀ spec ∈ effectiveTargets playbook config,
      broken spec = true ↔ registry.Fails spec.platform) (tests : List Case) :
    s.pool.registry.Dooms (s.plan tests) (Invocation.asksFor broken) := by
  have hs := open_withPlaybook hopen
  have hspecs : s.targetSpecs = effectiveTargets playbook config := by
    rw [targetSpecs, hs.playbook, hs.config]
  have hregistry : s.pool.registry = registry := by
    rw [pool_eq_of_withPlaybook hopen]
    rfl
  rw [hregistry]
  constructor
  case fails =>
    intro i hi
    rw [Invocation.asksFor]
    cases hspec : i.target with
    | none => simp
    | some spec =>
        have hmem := hspecs ▸ mem_specs_of_mem_plan hi hspec
        simpa using hbroken spec hmem
  case known =>
    intro i hi spec hspec
    exact withPlaybook_eq_ok_iff.1 ⟨s, hopen⟩ spec (hspecs ▸ mem_specs_of_mem_plan hi hspec)

/-- Nothing overtakes if there is room for one, or the platforms of the other specifications take no
time. -/
theorem unhurried_plan (broken : TargetSpec → Bool)
    (hopen : withPlaybook config playbook registry runId ids = .ok s)
    (hschedule : config.jobs ≤ 1 ∨ ∀ spec ∈ effectiveTargets playbook config,
      broken spec = false → registry.Prompt spec.platform) (tests : List Case) :
    Execution.Unhurried s.pool.registry (s.plan tests) (Invocation.asksFor broken)
      config.width := by
  have hs := open_withPlaybook hopen
  have hspecs : s.targetSpecs = effectiveTargets playbook config := by
    rw [targetSpecs, hs.playbook, hs.config]
  rw [pool_eq_of_withPlaybook hopen]
  refine hschedule.imp (fun hjobs => Nat.max_eq_right hjobs) fun hprompt i hi hgood spec hspec => ?_
  rw [Invocation.asksFor, hspec] at hgood
  exact hprompt spec (hspecs ▸ mem_specs_of_mem_plan hi hspec) hgood

/-- No body was run for a doomed invocation. -/
theorem asksFor_eq_false_of_mem_calls
    (hopen : withPlaybook config playbook registry runId ids = .ok s) {plan : List Invocation}
    (hdooms : s.pool.registry.Dooms plan (Invocation.asksFor broken)) (executor : Executor)
    {call : ExecutorCall} (hcall : call ∈ (s.execute executor plan).2.calls) :
    call.invocation.asksFor broken = false := by
  have horderly := orderly_withPlaybook hopen
  obtain ⟨hprovided, hcalls⟩ := horderly.provided executor plan (Execution.stepBound plan.length)
  have hnone : s.calls = [] := by rw [eq_of_withPlaybook hopen]
  rw [hnone] at hcalls
  obtain ⟨n, hn⟩ := List.getElem?_of_mem hcall
  have hmem : (call, n) ∈ (s.execute executor plan).2.calls.zipIdx := by
    rw [List.mem_zipIdx_iff_getElem?]
    exact hn
  rw [show (s.execute executor plan).2.calls.zipIdx = _ from hcalls] at hmem
  obtain ⟨event, hevent, hsome⟩ := List.mem_filterMap.1 hmem
  cases event with
  | settled index answer => cases hsome
  | called index number call' =>
      cases hsome
      have hplan := (hprovided.calls index n call hevent).1
      cases hd : call.invocation.asksFor broken with
      | false => rfl
      | true =>
          have hnever := (Execution.doomed_complete s.config.testTimeout executor s.calls plan
            (width_pos s.config) horderly.slots (sterile_of_withPlaybook hopen) hdooms hplan hd).2
          exact absurd hevent (hnever n call)

/-- All leases are given back in an execution. -/
theorem active_eq_zero_of_withPlaybook
    (hopen : withPlaybook config playbook registry runId ids = .ok s) (executor : Executor)
    (plan : List Invocation) :
    ∀ t ∈ (s.execute executor plan).2.pool.targets, t.connection.active = 0 := by
  intro t ht
  have hlent := ((returned_withPlaybook hopen).execute executor plan).lent
  rw [hlent.connection t ht]

/-- An execution in a session that was just opened serves its invocations as if one by one, but for
the doomed ones. -/
theorem execute_serves (hopen : withPlaybook config playbook registry runId ids = .ok s)
    {executor : Executor} (hsteady : executor.Steady config.testTimeout)
    {doomed : Invocation → Bool} {plan : List Invocation}
    (hdooms : s.pool.registry.Dooms plan doomed)
    (hunhurried : Execution.Unhurried s.pool.registry plan doomed config.width) :
    let serving := (Pool.empty registry config.keepTargets ids).serveAll executor
      config.testTimeout (plan.filter fun i => !doomed i)
    remainingReports doomed plan (s.execute executor plan).1 = serving.1 ∧
      (s.execute executor plan).2.pool.Alike serving.2 := by
  have horderly := orderly_withPlaybook hopen
  have hsterile := sterile_of_withPlaybook hopen
  obtain rfl := eq_of_withPlaybook hopen
  exact Execution.complete_serves config.testTimeout [] plan (width_pos config) horderly.slots
    horderly.numbered hsterile hsteady hdooms hunhurried

/-- **Two sessions that serve the same invocations report them alike**, and their pools have the same
teardown. -/
theorem execute_eq_of_filter_eq {playbook' : Playbook} {s' : Session}
    (hopen : withPlaybook config playbook registry runId ids = .ok s)
    (hopen' : withPlaybook config playbook' registry runId ids = .ok s') {executor : Executor}
    (hsteady : executor.Steady config.testTimeout) {doomed : Invocation → Bool}
    {plan plan' : List Invocation}
    (hdooms : s.pool.registry.Dooms plan doomed) (hdooms' : s'.pool.registry.Dooms plan' doomed)
    (hunhurried : Execution.Unhurried s.pool.registry plan doomed config.width)
    (hunhurried' : Execution.Unhurried s'.pool.registry plan' doomed config.width)
    (hplans : (plan.filter fun i => !doomed i) = plan'.filter fun i => !doomed i) :
    remainingReports doomed plan (s.execute executor plan).1 =
        remainingReports doomed plan' (s'.execute executor plan').1 ∧
      (s.execute executor plan).2.pool.teardown.1 =
        (s'.execute executor plan').2.pool.teardown.1 := by
  obtain ⟨hreports, halike⟩ := execute_serves hopen hsteady hdooms hunhurried
  obtain ⟨hreports', halike'⟩ := execute_serves hopen' hsteady hdooms' hunhurried'
  rw [hplans] at hreports halike
  have hsterile : (s.execute executor plan).2.pool.Sterile :=
    (Execution.barren_run s.config.testTimeout executor s.calls plan (width_pos s.config)
      (orderly_withPlaybook hopen).slots (sterile_of_withPlaybook hopen) hdooms
      (Execution.stepBound plan.length)).sterile
  exact ⟨hreports.trans hreports'.symm, (halike.trans halike'.symm).teardown hsterile
    (active_eq_zero_of_withPlaybook hopen executor plan)
    (active_eq_zero_of_withPlaybook hopen' executor plan')⟩

/-! ## The main statement -/

/-- **Failing targets hurt only their own tests.** A session that was opened with a playbook in which
some specifications are broken, namely those whose platforms always fail, runs a valid catalog, and
so does the session that is opened without them. Both drop the same tests, and the first one has the
reports of the second one, with the same names in the same order, between those of the invocations
that need a broken specification; each of these is an error without a target, and its body is never
run. And with an executor that is steady under the limit of the session, the reports of the other
invocations are the same in everything, targets and outcomes included, and so is the account of the
teardown, if there is room for one invocation only or no platform of the other specifications takes
time to build, however long the broken ones take to fail. -/
theorem failing_targets_isolated
    (hopen : withPlaybook config playbook registry runId ids = .ok s)
    (hvalid : Catalog.validate catalog = .ok tests) (broken : TargetSpec → Bool)
    (hbroken : ∀ spec ∈ playbook.targets, broken spec = true ↔ registry.Fails spec.platform)
    (hsome : ∃ spec ∈ playbook.targets, broken spec = false) (executor : Executor) :
    let plan := s.plan (s.select tests).tests
    ∃ s' report report' t t',
      withPlaybook config (playbook.without broken) registry runId ids = .ok s' ∧
      s.run executor catalog = .ok (report, t) ∧ s'.run executor catalog = .ok (report', t') ∧
      report.dropped = report'.dropped ∧
      (remainingReports (Invocation.asksFor broken) plan report.invocations).map
          (fun r => (r.id, r.test, r.target)) =
        report'.invocations.map (fun r => (r.id, r.test, r.target)) ∧
      (∀ (index : Nat) (i : Invocation), plan[index]? = some i → i.asksFor broken = true →
        ∃ message, report.invocations[index]? = some (i.report none (.errored message))) ∧
      (∀ call ∈ t.calls, call.invocation.asksFor broken = false) ∧
      (executor.Steady config.testTimeout →
        (config.jobs ≤ 1 ∨ ∀ spec ∈ playbook.targets, broken spec = false →
          registry.Prompt spec.platform) →
        remainingReports (Invocation.asksFor broken) plan report.invocations =
          report'.invocations ∧
        report.teardown = report'.teardown) := by
  intro plan
  obtain ⟨heffective, hreduced⟩ := effectiveTargets_of_exists config hsome
  obtain ⟨s', hopen', hselect, hwithout⟩ := exists_open_without hopen hsome
  have hs := open_withPlaybook hopen
  have hs' := open_withPlaybook hopen'
  let plan' := s'.plan (s'.select tests).tests
  have hplan : plan' = plan.filter fun i => !i.asksFor broken := by
    show s'.plan (s'.select tests).tests = _
    rw [hselect, hwithout]
  have hgood : ∀ i ∈ plan', i.asksFor broken = false := by
    intro i hi
    rw [hplan] at hi
    simpa using (List.mem_filter.1 hi).2
  have hdooms : s.pool.registry.Dooms plan (Invocation.asksFor broken) :=
    dooms_plan hopen (heffective.symm ▸ hbroken) _
  have hbroken' : ∀ spec ∈ effectiveTargets (playbook.without broken) config,
      broken spec = true ↔ registry.Fails spec.platform := by
    rw [hreduced]
    exact fun spec hspec => hbroken spec (List.mem_filter.1 hspec).1
  have hdooms' : s'.pool.registry.Dooms plan' (Invocation.asksFor broken) :=
    dooms_plan hopen' hbroken' _
  have hnames := map_names_execute hs.slots executor plan
  have hnames' := map_names_execute hs'.slots executor plan'
  refine ⟨s', _, _, _, _, hopen', run_of_validate hs.tornDown hvalid executor,
    run_of_validate hs'.tornDown hvalid executor, ?_, ?_, ?_, ?_, ?_⟩
  · exact congrArg Selection.dropped (congrFun hselect tests).symm
  · refine (map_remainingReports hnames).trans ?_
    rw [← hplan]
    exact hnames'.symm
  · intro index i hi hdoomed
    obtain ⟨⟨r, message, hr, rfl⟩, -⟩ := Execution.doomed_complete s.config.testTimeout executor
      s.calls plan (width_pos s.config) hs.slots (sterile_of_withPlaybook hopen) hdooms hi hdoomed
    exact ⟨message, hr⟩
  · exact fun call hcall => asksFor_eq_false_of_mem_calls hopen hdooms executor hcall
  · intro hsteady hschedule
    have hunhurried := unhurried_plan broken hopen (heffective.symm ▸ hschedule)
      (s.select tests).tests
    have hprompt : config.jobs ≤ 1 ∨ ∀ spec ∈ effectiveTargets (playbook.without broken) config,
        broken spec = false → registry.Prompt spec.platform := by
      rw [hreduced]
      exact hschedule.imp_right fun h spec hspec => h spec (List.mem_filter.1 hspec).1
    have hunhurried' := unhurried_plan broken hopen' hprompt (s'.select tests).tests
    have hplans : (plan.filter fun i => !i.asksFor broken) =
        plan'.filter fun i => !i.asksFor broken := by
      rw [← hplan]
      exact (List.filter_eq_self.2 fun i hi => by simp [hgood i hi]).symm
    obtain ⟨hreports, hteardown⟩ := execute_eq_of_filter_eq hopen hopen' hsteady hdooms hdooms'
      hunhurried hunhurried' hplans
    have hlength : (s'.execute executor plan').1.length = plan'.length := by
      simpa using congrArg List.length hnames'
    rw [remainingReports_of_forall hlength hgood] at hreports
    exact ⟨hreports, congrArg (fun done => some (Teardown.summary done)) hteardown⟩

/-- There is room for four invocations, and the platform that never builds anything takes its time
for that, while the built-in one is prompt. -/
theorem failing_targets_isolated_among_prompt :
    let odd : Simulation := { Simulation.basic "odd" with refusesConstruction := true, delay := 5 }
    let registry := Registry.builtin.register "odd" odd.platform
    let config : Config := { Config.usual with jobs := 4 }
    let playbook : Playbook := ⟨[.basic "bad" "odd", .basic "good" "mock"], []⟩
    let broken : TargetSpec → Bool := fun spec => spec.platform == "odd"
    let ids : Nat → TargetId := fun n => ⟨BitVec.ofNat 128 n⟩
    let s : Session := ⟨⟨0⟩, config, playbook, .empty registry false ids, [], false⟩
    let catalog : List Entry := [⟨"boot", none, true, ∅⟩, ⟨"lint", none, false, ∅⟩]
    let tests : List Case := [⟨"boot", none, true, ∅⟩, ⟨"lint", none, false, ∅⟩]
    let plan := s.plan (s.select tests).tests
    withPlaybook config playbook registry ⟨0⟩ ids = .ok s ∧ Catalog.validate catalog = .ok tests ∧
      plan.map (·.id) = ["boot[bad]", "boot[good]", "lint"] ∧
      ∃ s' report report' t t',
        withPlaybook config (playbook.without broken) registry ⟨0⟩ ids = .ok s' ∧
        s.run .dryRun catalog = .ok (report, t) ∧ s'.run .dryRun catalog = .ok (report', t') ∧
        remainingReports (Invocation.asksFor broken) plan report.invocations =
          report'.invocations ∧
        report.teardown = report'.teardown := by
  intro odd registry config playbook broken ids s catalog tests plan
  have hopen : withPlaybook config playbook registry ⟨0⟩ ids = .ok s := by rfl
  have hvalid : Catalog.validate catalog = .ok tests := by rfl
  have hodd : registry.platform? "odd" = some odd.platform := by rfl
  have hmock : registry.platform? "mock" = some (Simulation.basic "mock").platform := by rfl
  have hbroken : ∀ spec ∈ playbook.targets,
      broken spec = true ↔ registry.Fails spec.platform := by
    intro spec hspec
    simp only [playbook, List.mem_cons, List.not_mem_nil, or_false] at hspec
    rcases hspec with rfl | rfl
    · exact iff_of_true rfl ⟨_, hodd, odd.fails_iff.2 rfl⟩
    · refine iff_of_false nofun fun ⟨platform, hplatform, hfails⟩ => ?_
      cases hmock.symm.trans hplatform
      cases (Simulation.basic "mock").fails_iff.1 hfails
  have hgood : TargetSpec.basic "good" "mock" ∈ playbook.targets := by
    simp [playbook]
  have hprompt : ∀ spec ∈ playbook.targets, broken spec = false →
      registry.Prompt spec.platform := by
    intro spec hspec hsound
    simp only [playbook, List.mem_cons, List.not_mem_nil, or_false] at hspec
    rcases hspec with rfl | rfl
    · cases hsound
    · exact ⟨_, hmock, (Simulation.basic "mock").prompt rfl⟩
  obtain ⟨s', report, report', t, t', hopen', hrun, hrun', -, -, -, -, hsame⟩ :=
    failing_targets_isolated hopen hvalid broken hbroken ⟨_, hgood, rfl⟩ .dryRun
  exact ⟨hopen, hvalid, by decide +kernel, s', report, report', t, t', hopen', hrun, hrun',
    hsame (Executor.steady_dryRun _) (.inr hprompt)⟩

/-- **A failing target may change the order in which the others are built.** With room for two, the
invocation that needs the prompt platform starts together with the one that needs the slow platform,
unless the doomed one between them starts first: then it has to wait for the slow one. -/
theorem targets_reordered_by_failing_one :
    let slow : Simulation := { Simulation.basic "slow" with delay := 10 }
    let bad : Simulation := { Simulation.basic "bad" with refusesConstruction := true }
    let registry := ((Registry.builtin.register "slow" slow.platform).register "bad"
      bad.platform).register "fast" (Simulation.basic "fast").platform
    let config : Config := { Config.usual with jobs := 2 }
    let playbook : Playbook :=
      ⟨[.basic "slow" "slow", .basic "bad" "bad", .basic "fast" "fast"], []⟩
    let broken : TargetSpec → Bool := fun spec => spec.platform == "bad"
    let ids : Nat → TargetId := fun n => ⟨BitVec.ofNat 128 n⟩
    let pool : Pool := .empty registry false ids
    let s : Session := ⟨⟨0⟩, config, playbook, pool, [], false⟩
    let s' : Session := ⟨⟨0⟩, config, playbook.without broken, pool, [], false⟩
    let catalog : List Entry := [⟨"a", none, true, ∅⟩]
    let plan := s.plan (s.select [⟨"a", none, true, ∅⟩]).tests
    withPlaybook config playbook registry ⟨0⟩ ids = .ok s ∧
      withPlaybook config (playbook.without broken) registry ⟨0⟩ ids = .ok s' ∧
      (∀ spec ∈ playbook.targets, broken spec = true ↔ registry.Fails spec.platform) ∧
      Catalog.validate catalog = .ok [⟨"a", none, true, ∅⟩] ∧
      (∀ limit, Executor.dryRun.Steady limit) ∧
      ∃ report report' t t',
        s.run .dryRun catalog = .ok (report, t) ∧ s'.run .dryRun catalog = .ok (report', t') ∧
        remainingReports (Invocation.asksFor broken) plan report.invocations ≠
          report'.invocations ∧
        (remainingReports (Invocation.asksFor broken) plan report.invocations).map
          (fun r => (r.id, r.targetId)) = [("a[slow]", some (ids 0)), ("a[fast]", some (ids 1))] ∧
        report'.invocations.map (fun r => (r.id, r.targetId)) =
          [("a[slow]", some (ids 1)), ("a[fast]", some (ids 0))] := by
  intro slow bad registry config playbook broken ids pool s s' catalog plan
  have hopen : withPlaybook config playbook registry ⟨0⟩ ids = .ok s := by rfl
  have hopen' : withPlaybook config (playbook.without broken) registry ⟨0⟩ ids = .ok s' := by rfl
  have hvalid : Catalog.validate catalog = .ok [⟨"a", none, true, ∅⟩] := by rfl
  have hslow : registry.platform? "slow" = some slow.platform := by rfl
  have hbad : registry.platform? "bad" = some bad.platform := by rfl
  have hfast : registry.platform? "fast" = some (Simulation.basic "fast").platform := by rfl
  have hbroken : ∀ spec ∈ playbook.targets,
      broken spec = true ↔ registry.Fails spec.platform := by
    intro spec hspec
    simp only [playbook, List.mem_cons, List.not_mem_nil, or_false] at hspec
    rcases hspec with rfl | rfl | rfl
    · refine iff_of_false nofun fun ⟨platform, hplatform, hfails⟩ => ?_
      cases hslow.symm.trans hplatform
      cases slow.fails_iff.1 hfails
    · exact iff_of_true rfl ⟨_, hbad, bad.fails_iff.2 rfl⟩
    · refine iff_of_false nofun fun ⟨platform, hplatform, hfails⟩ => ?_
      cases hfast.symm.trans hplatform
      cases (Simulation.basic "fast").fails_iff.1 hfails
  exact ⟨hopen, hopen', hbroken, hvalid, Executor.steady_dryRun, _, _, _, _,
    run_of_validate rfl hvalid .dryRun, run_of_validate rfl hvalid .dryRun,
    by decide +kernel, by decide +kernel, by decide +kernel⟩

end Session

end TestBench
