import TestBench.Proofs.FailingPlatforms
import TestBench.Proofs.SessionAfterTeardown
import TestBench.Proofs.SessionIsolation

/-!
# Platforms are checked once

A session is opened just if every target that tests are run on names a registered platform. The plan
and the teardown look platforms up again, by the request and by the kind that is written on a target,
and could find none. `Session.platform_check_suffices` says that they always do. The registry only
gains entries in its ledgers, a target comes into the pool only with the kind that was asked for, and
a plan asks for nothing but what was checked.

The first two are true of a pool through whatever is done with the session (`Pool.Known`), so only the
plan has to be one that the session has made.
-/

set_option autoImplicit false

namespace TestBench

namespace Pool

variable {p q : Pool} {g : Registry} {done done' : Teardown} {t : Target} {r : Request}
  {answer : Except Fault Nat}

/-! ## Known platforms -/

/-- The platforms of a pool are those of a registry, and answer to the kinds of all targets. -/
structure Known (g : Registry) (p : Pool) : Prop where
  /-- The platforms are those of the registry, whatever they were asked. -/
  platforms : p.registry.platform? = g.platform?
  /-- Every target has a platform. -/
  served : p.Served

theorem Known.isSome_provider? (h : p.Known g) (kind : String) :
    (p.registry.provider? kind).isSome = g.contains kind := by
  rw [← Registry.isSome_platform?, h.platforms, Registry.isSome_platform?]
  rfl

/-- The targets in the pool are of registered kinds. -/
theorem Known.contains (h : p.Known g) : ∀ t ∈ p.targets, g.contains t.platform = true :=
  fun t ht => (h.isSome_provider? t.platform).symm.trans (h.served t ht)

theorem known_empty (g : Registry) (keep : Bool) (ids : Nat → TargetId) :
    Known g (.empty g keep ids) :=
  ⟨rfl, fun _ ht => absurd ht List.not_mem_nil⟩

/-- **Resolutions and leases keep the platforms known.** -/
theorem known_kept (g : Registry) : Kept (Known g) where
  slots p slots h := ⟨(platforms_kept g).slots p slots h.platforms, served_kept.slots p slots h.served⟩
  settled p r answer q hs h :=
    ⟨(platforms_kept g).settled p r answer q hs h.platforms,
      served_kept.settled p r answer q hs h.served⟩
  release p serial h :=
    ⟨(platforms_kept g).release p serial h.platforms, served_kept.release p serial h.served⟩

/-! ## Teardowns -/

/-- Dismissing a target changes no platform. -/
theorem Dismissed.platform?_eq (h : Dismissed p done t done' q) :
    q.registry.platform? = p.registry.platform? := by
  cases h with
  | kept h => rfl
  | orphaned hk hp => rfl
  | deleted hk place provider hp h => exact Registry.platform?_note _ _ _
  | undeleted hk place provider reason hp h => exact Registry.platform?_note _ _ _

theorem Known.teardown (h : p.Known g) : p.teardown.2.Known g := by
  refine ⟨?_, p.served_teardown⟩
  apply teardown_induction (P := fun q => q.registry.platform? = g.platform?)
  · exact h.platforms
  · intro _ q t done done' hd hplatforms
    exact hd.platform?_eq.trans hplatforms

/-- **A teardown fails only where a platform does.** -/
theorem Settles.deprovision_of_mem (h : Settles p done q) :
    ∀ fault ∈ done.failures, ∃ target reason, fault = .notDeprovisioned target reason := by
  cases h with
  | kept hkeep => exact List.forall_mem_nil _
  | attempted hkeep attempts registry htargets hattempts =>
      exact List.forall_mem_map.2 fun a _ => ⟨a.target.id, _, rfl⟩

/-! ## Settlements -/

/-- **A request for a known platform is answered by a target, or as the platform builds.** -/
theorem Reached.ok_or_built {now place : Nat} {phase : Resolution} {provider : Provider}
    (h : Reached p r now phase (.settled answer) q)
    (hp : p.registry.provider? r.platform = some (place, provider)) :
    (∃ serial, answer = .ok serial) ∨ answer = (p.build r place provider).1 := by
  cases h with
  | resolved slots =>
      cases hs : p.scan r with
      | some serial => exact .inl ⟨serial, by simp only [resolve, hp, hs]⟩
      | none => exact .inr (by rw [resolve_of_scan_eq_none hp hs])
  | built finish place' provider' slots hphase hp' =>
      cases hp.symm.trans hp'
      exact .inr rfl
  | pending _ slots hnext hbuilding => exact absurd rfl (hnext answer)

/-- **It is never answered that a known platform is unknown.** -/
theorem Reached.ne_unknownPlatform {now : Nat} {phase : Resolution}
    (h : Reached p r now phase (.settled answer) q)
    (hknown : (p.registry.provider? r.platform).isSome = true) (platform registered : String) :
    answer ≠ .error (.unknownPlatform platform registered) := by
  obtain ⟨⟨place, provider⟩, hp⟩ := Option.isSome_iff_exists.1 hknown
  rcases h.ok_or_built hp with ⟨serial, rfl⟩ | rfl
  · exact nofun
  · generalize hb : p.build r place provider = out
    have hbuilt := build_built p r place provider
    rw [hb] at hbuilt
    obtain ⟨answer, q⟩ := out
    cases hbuilt with
    | failed reason hc => exact nofun
    | refused t reason hbare hserial hid hs => exact nofun
    | created t hbare hserial hid hs => exact nofun

end Pool

namespace Execution

variable {e next : Execution} {t : Task} {events : List Event} {index : Nat}
  {answer : Except Pool.Fault Nat}

/-- The resolution of the invocation at a place has settled with an answer, in a pool of which a
property is true. -/
def SettledWhere (P : Pool → Prop) (plan : List Invocation) (index : Nat)
    (answer : Except Pool.Fault Nat) : Prop :=
  ∃ i spec p now phase q, plan[index]? = some i ∧ i.target = some spec ∧ P p ∧
    Pool.Reached p (i.request spec) now phase (.settled answer) q

/-- Whoever is dealt an answer has got there from the pool before. -/
theorem Dealt.reached (h : Dealt e t events next) (hmem : .settled index answer ∈ events) :
    ∃ spec phase q, t.invocation.target = some spec ∧
      e.pool.Reached (t.invocation.request spec) e.now phase (.settled answer) q := by
  cases h with
  | untargeted hspec hfrom hpool hsettled => exact absurd hmem (hsettled index answer)
  | ended target finish outcome hfrom hpool hevents =>
      rw [hevents] at hmem
      cases hmem
  | polled spec hspec phase reached q hfrom hreached hpolled hpool hsettled hcalled hput =>
      obtain ⟨-, rfl⟩ := (hsettled index answer).1 hmem
      exact ⟨spec, phase, q, hspec, hreached⟩

/-- **What is kept in a pool was true whenever a resolution has settled**, in however long a run. -/
theorem settledWhere_run {P : Pool → Prop} (hP : Pool.Kept P) {width : Nat}
    (limit : Option Duration) (executor : Executor) {pool : Pool} (calls : List ExecutorCall)
    (plan : List Invocation) (hwidth : 0 < width) (hslots : pool.slots = []) (h : P pool)
    (hknown : ∀ p, P p → ∀ i ∈ plan, ∀ spec, i.target = some spec →
      (p.registry.provider? spec.platform).isSome = true) (n : Nat)
    (hmem : .settled index answer ∈ (start width limit executor pool calls plan).trace n) :
    SettledWhere P plan index answer := by
  have hsound := sound_start limit executor calls plan hwidth hslots
  have hstart : P (start width limit executor pool calls plan).pool := by
    rw [start, pool_fill]
    exact h
  -- the settlements so far, beside the pool as it is
  let Q : List Event → Execution → Prop := fun history e => P e.pool ∧
    ∀ (index : Nat) (answer : Except Pool.Fault Nat),
      .settled index answer ∈ history → SettledWhere P plan index answer
  have hkeep : ∀ history e next, Sound executor limit plan calls history e → Q history e →
      e.step = some next → Q (history ++ e.events) next := by
    rintro history e next hs ⟨hpool, hhistory⟩ hstep
    rcases hs.step_dealt (hknown e.pool hpool) hstep with ⟨t, rest, ht⟩ | ⟨time, -, hevents, rfl⟩
    · refine ⟨ht.turn.kept hP hpool, fun index answer hmem => ?_⟩
      rcases List.mem_append.1 hmem with hearlier | hnow
      · exact hhistory index answer hearlier
      · obtain rfl : index = t.index := ht.turn.event_index hnow
        obtain ⟨spec, phase, q, hspec, hreached⟩ := ht.dealt.reached hnow
        exact ⟨t.invocation, spec, _, _, phase, q, ht.planned, hspec, hpool, hreached⟩
    · rw [hevents, List.append_nil]
      exact ⟨hpool, hhistory⟩
  have hrun := (hsound.run_induction hkeep ⟨hstart, fun _ _ h => absurd h List.not_mem_nil⟩ n).2
  exact hrun.2 index answer hmem

/-- **Whoever asks for registered kinds is answered by the platforms that were registered**, in
however long a run. -/
theorem reached_of_known {g : Registry} {width : Nat} (limit : Option Duration)
    (executor : Executor) {pool : Pool} (calls : List ExecutorCall) (plan : List Invocation)
    (hwidth : 0 < width) (hslots : pool.slots = []) (hpool : pool.Known g)
    (hplan : ∀ i ∈ plan, ∀ spec, i.target = some spec → g.contains spec.platform = true) (n : Nat)
    (hmem : .settled index answer ∈ (start width limit executor pool calls plan).trace n) :
    ∃ p r now phase q, Pool.Known g p ∧ (p.registry.provider? r.platform).isSome = true ∧
      Pool.Reached p r now phase (.settled answer) q := by
  -- a kind that is registered is answered to in every pool of the execution
  have hprovider : ∀ p : Pool, p.Known g → ∀ i ∈ plan, ∀ spec, i.target = some spec →
      (p.registry.provider? spec.platform).isSome = true := by
    intro p hp i hi spec hspec
    rw [hp.isSome_provider?]
    exact hplan i hi spec hspec
  obtain ⟨i, spec, p, now, phase, q, hi, hspec, hp, hreached⟩ :=
    settledWhere_run (Pool.known_kept g) limit executor calls plan hwidth hslots hpool hprovider n
      hmem
  exact ⟨p, i.request spec, now, phase, q, hp,
    hprovider p hp i (List.mem_of_getElem? hi) spec hspec, hreached⟩

end Execution

namespace Session

variable {s : Session} {config : Config} {playbook : Playbook} {registry : Registry}
  {runId : RunId} {ids : Nat → TargetId}

/-! ## Opening -/

/-- **A session is not opened for the first target whose platform nobody is.** -/
theorem withPlaybook_eq_error_iff {fault : Fault} :
    withPlaybook config playbook registry runId ids = .error fault ↔
      ∃ before spec after, effectiveTargets playbook config = before ++ spec :: after ∧
        (∀ earlier ∈ before, registry.contains earlier.platform = true) ∧
        registry.contains spec.platform = false ∧
        fault = .unknownPlatform spec.name spec.platform registry.kindsText := by
  constructor
  · intro h
    rw [withPlaybook] at h
    split at h
    · next spec hfind =>
        cases h
        obtain ⟨hunknown, before, after, hsplit, hbefore⟩ := List.find?_eq_some_iff_append.1 hfind
        exact ⟨before, spec, after, hsplit, by simpa using hbefore, by simpa using hunknown, rfl⟩
    · cases h
  · rintro ⟨before, spec, after, hsplit, hbefore, hunknown, rfl⟩
    have hnone : before.find? (fun spec => !registry.contains spec.platform) = none :=
      List.find?_eq_none.2 fun earlier he => by simp [hbefore earlier he]
    rw [withPlaybook, hsplit, List.find?_append, hnone, Option.none_or,
      List.find?_cons_of_pos (by simp [hunknown])]

/-! ## What does not change -/

/-- No operation changes what the session is asked to do. -/
theorem settings_perform (s : Session) (operation : Operation) :
    (s.perform operation).config = s.config ∧ (s.perform operation).playbook = s.playbook := by
  cases operation with
  | execute executor plan => exact ⟨rfl, rfl⟩
  | run executor catalog =>
      simp only [perform, Session.run]
      by_cases htorn : s.tornDown = true
      · rw [if_pos htorn]
        exact ⟨rfl, rfl⟩
      · rw [if_neg htorn]
        cases Catalog.validate catalog <;> exact ⟨rfl, rfl⟩
  | use use => exact ⟨rfl, rfl⟩
  | teardown =>
      simp only [perform, Session.teardown]
      by_cases htorn : s.tornDown = true
      · rw [if_pos htorn]
        exact ⟨rfl, rfl⟩
      · rw [if_neg htorn]
        exact ⟨rfl, rfl⟩

theorem targetSpecs_after (s : Session) (operations : List Operation) :
    (s.after operations).targetSpecs = s.targetSpecs := by
  induction operations generalizing s with
  | nil => rfl
  | cons operation rest ih =>
      obtain ⟨hconfig, hplaybook⟩ := s.settings_perform operation
      refine (ih (s.perform operation)).trans ?_
      rw [targetSpecs, targetSpecs, hconfig, hplaybook]

/-- **A session plans the same whatever was done with it.** -/
theorem plan_after (s : Session) (operations : List Operation) :
    (s.after operations).plan = s.plan := by
  funext tests
  rw [plan, plan, targetSpecs_after]

/-- The platforms of a session stay those with which it was opened. -/
theorem known_after (hopen : withPlaybook config playbook registry runId ids = .ok s)
    (operations : List Operation) : (s.after operations).pool.Known registry := by
  have hpool : s.pool.Known registry := by
    rw [pool_eq_of_withPlaybook hopen]
    exact Pool.known_empty registry config.keepTargets ids
  exact (orderly_withPlaybook hopen).kept_after (Pool.known_kept registry)
    (fun _ => Pool.Known.teardown) hpool operations

/-- The specifications in a plan were checked when the session was opened. -/
theorem contains_of_mem_plan (hopen : withPlaybook config playbook registry runId ids = .ok s)
    {tests : List Case} {i : Invocation} {spec : TargetSpec} (hi : i ∈ s.plan tests)
    (hspec : i.target = some spec) : registry.contains spec.platform = true := by
  have hmem : spec ∈ effectiveTargets playbook config := by
    have hspecs := mem_specs_of_mem_plan hi hspec
    rwa [targetSpecs, (open_withPlaybook hopen).playbook, (open_withPlaybook hopen).config] at hspecs
  exact withPlaybook_eq_ok_iff.1 ⟨s, hopen⟩ spec hmem

/-! ## The main statement -/

/-- **The check of the platforms when a session is opened suffices.** A session is opened just if
every target names a registered platform, and otherwise the first one that does not is named. Whatever
was done with the session since, and however the platforms behave, all pooled targets are of registered
kinds, and a teardown, be it at the end of a run, fails only where a platform does. The session still
makes the same plans, and at every point of the execution of what it has planned the pooled targets are
of registered kinds, and no resolution has settled because a platform was unknown. -/
theorem platform_check_suffices (config : Config) (playbook : Playbook) (registry : Registry)
    (runId : RunId) (ids : Nat → TargetId) :
    ((∃ s₀, withPlaybook config playbook registry runId ids = .ok s₀) ↔
      ∀ spec ∈ effectiveTargets playbook config, registry.contains spec.platform = true) ∧
    (∀ fault, withPlaybook config playbook registry runId ids = .error fault ↔
      ∃ before spec after, effectiveTargets playbook config = before ++ spec :: after ∧
        (∀ earlier ∈ before, registry.contains earlier.platform = true) ∧
        registry.contains spec.platform = false ∧
        fault = .unknownPlatform spec.name spec.platform registry.kindsText) ∧
    ∀ s₀, withPlaybook config playbook registry runId ids = .ok s₀ →
      ∀ earlier : List Operation,
        let s := s₀.after earlier
        (∀ t ∈ s.pool.targets, registry.contains t.platform = true) ∧
        (∀ done s', s.teardown = .ok (done, s') →
          ∀ fault ∈ done.failures, ∃ target reason, fault = .notDeprovisioned target reason) ∧
        (∀ executor catalog report s', s.run executor catalog = .ok (report, s') →
          let done := (s.beforeClose executor catalog).pool.teardown.1
          report.teardown = some done.summary ∧
          ∀ fault ∈ done.failures, ∃ target reason, fault = .notDeprovisioned target reason) ∧
        s.plan = s₀.plan ∧
        ∀ (executor : Executor) (plan : List Invocation),
          (∀ i ∈ plan, ∃ tests, i ∈ s₀.plan tests) → ∀ n,
          (∀ t ∈ ((s.begin executor plan).run n).pool.targets,
            registry.contains t.platform = true) ∧
          ∀ (index : Nat) (answer : Except Pool.Fault Nat),
            .settled index answer ∈ (s.begin executor plan).trace n →
            ∀ platform registered, answer ≠ .error (.unknownPlatform platform registered) := by
  refine ⟨withPlaybook_eq_ok_iff, fun fault => withPlaybook_eq_error_iff, ?_⟩
  intro s₀ hopen earlier s
  have horderly : Orderly s := (orderly_withPlaybook hopen).after earlier
  have hknown : s.pool.Known registry := known_after hopen earlier
  refine ⟨hknown.contains, fun done s' h => ?_, fun executor catalog report s' h => ?_,
    plan_after s₀ earlier, fun executor plan hplan n => ⟨?_, ?_⟩⟩
  · rw [Session.teardown] at h
    split at h
    · cases h
    · cases h
      exact hknown.served.settles.deprovision_of_mem
  · intro done
    have htorn : s.tornDown = false := by
      rw [Session.run] at h
      split at h
      · cases h
      · next htorn => exact Bool.eq_false_iff.2 htorn
    obtain ⟨report', hrun, hsummary⟩ := exists_run_eq htorn executor catalog
    cases hrun.symm.trans h
    have hserved : (s.beforeClose executor catalog).pool.Served :=
      horderly.beforeClose_kept Pool.served_kept hknown.served executor catalog
    exact ⟨hsummary, hserved.settles.deprovision_of_mem⟩
  · have hpool := Execution.kept_run (Pool.known_kept registry) s.config.testTimeout executor
      s.calls plan (width_pos s.config) horderly.slots hknown n
    exact hpool.contains
  · intro index answer hmem
    have hregistered : ∀ i ∈ plan, ∀ spec, i.target = some spec →
        registry.contains spec.platform = true := by
      intro i hi spec hspec
      obtain ⟨tests, htests⟩ := hplan i hi
      exact contains_of_mem_plan hopen htests hspec
    obtain ⟨p, r, now, phase, q, -, hprovider, hreached⟩ :=
      Execution.reached_of_known s.config.testTimeout executor s.calls plan (width_pos s.config)
        horderly.slots hknown hregistered n hmem
    exact hreached.ne_unknownPlatform hprovider

/-- One platform writes an unregistered kind on its targets, and another one never deletes any. A plan
was executed before, and a request for an unregistered kind was refused. -/
theorem platform_check_suffices_beside_odd_platform :
    let stuck : Simulation := { Simulation.basic "stuck" with refusesDeletion := true }
    let registry := (Registry.builtin.register "odd" (Simulation.basic "nowhere").platform).register
      "stuck" stuck.platform
    let playbook : Playbook := ⟨[.basic "good" "stuck", .basic "bad" "odd"], []⟩
    let ids : Nat → TargetId := fun n => ⟨BitVec.ofNat 128 n⟩
    let s₀ : Session := ⟨⟨0⟩, .usual, playbook, .empty registry false ids, [], false⟩
    let plan := s₀.plan [⟨"a", none, true, ∅⟩]
    let s := s₀.after [.execute .dryRun plan, .use (.resolve ⟨"nowhere", [], ∅⟩)]
    withPlaybook .usual playbook registry ⟨0⟩ ids = .ok s₀ ∧
      s.pool.targets.map (·.platform) = ["stuck"] ∧
      (∀ t ∈ s.pool.targets, registry.contains t.platform = true) ∧
      (∀ (index : Nat) (answer : Except Pool.Fault Nat),
        .settled index answer ∈ (s.begin .dryRun plan).trace 5 →
        ∀ platform registered, answer ≠ .error (.unknownPlatform platform registered)) ∧
      ∀ done s', s.teardown = .ok (done, s') →
        ∀ fault ∈ done.failures, ∃ target reason, fault = .notDeprovisioned target reason := by
  intro stuck registry playbook ids s₀ plan s
  have hopen : withPlaybook .usual playbook registry ⟨0⟩ ids = .ok s₀ := by rfl
  obtain ⟨-, -, hopened⟩ := platform_check_suffices .usual playbook registry ⟨0⟩ ids
  obtain ⟨htargets, hteardown, -, -, hexecution⟩ :=
    hopened s₀ hopen [.execute .dryRun plan, .use (.resolve ⟨"nowhere", [], ∅⟩)]
  have hplan : ∀ i ∈ plan, ∃ tests, i ∈ s₀.plan tests := fun i hi => ⟨_, hi⟩
  exact ⟨hopen, by decide +kernel, htargets, (hexecution .dryRun plan hplan 5).2, hteardown⟩

end Session

end TestBench
