import TestBench.Proofs.ExecutionAnswers

/-!
# Invocations that cannot get a target

An invocation that asks a platform that always fails gets an error, in every execution and whatever
the others do (`Execution.Barren`). It finds nothing to reuse, since no target of its kind is ever
in the pool.
-/

set_option autoImplicit false

namespace TestBench

/-- Which invocations of a plan ask a platform that always fails. Every kind that is asked for is
answered to. -/
structure Registry.Dooms (g : Registry) (plan : List Invocation) (doomed : Invocation → Bool) :
    Prop where
  /-- Those that are doomed, and no others. -/
  fails : ∀ i ∈ plan, doomed i = true ↔ ∃ spec, i.target = some spec ∧ g.Fails spec.platform
  /-- Nobody asks for an unknown kind. -/
  known : ∀ i ∈ plan, ∀ spec, i.target = some spec → g.contains spec.platform = true

namespace Pool

variable {p q : Pool}

theorem platforms_kept (g : Registry) : Kept fun p => p.registry.platform? = g.platform? where
  slots _ _ h := h
  settled p r answer q hs h := by
    cases hs with
    | unknown hp => exact h
    | reused serial hr => exact h
    | built place provider _ _ hp hb =>
        cases hb with
        | failed reason hc => exact (Registry.platform?_note _ _ _).trans h
        | refused t reason hbare hserial hid hr => exact (Registry.platform?_note _ _ _).trans h
        | created t hbare hserial hid hr => exact (Registry.platform?_note _ _ _).trans h
  release _ _ h := h

end Pool

namespace Execution

variable {plan : List Invocation} {before : List ExecutorCall} {history events : List Event}
  {e next : Execution} {t : Task} {executor : Executor} {limit : Option Duration}
  {g : Registry} {doomed : Invocation → Bool}

/-- A doomed invocation is dealt an error or nothing, and the pool stays alike. -/
theorem Dealt.of_fails (h : Dealt e t events next) (hsterile : e.pool.Sterile)
    {spec : TargetSpec} (hspec : t.invocation.target = some spec)
    (hf : e.pool.registry.Fails spec.platform) :
    next.pool.Alike e.pool ∧ ∀ (index : Nat) (answer : Except Pool.Fault Nat),
      .settled index answer ∈ events → ∃ fault, answer = .error fault := by
  cases h with
  | untargeted hnone hfrom hpool hsettled => cases hspec.symm.trans hnone
  | ended target finish outcome hfrom hpool hevents =>
      refine ⟨hpool, fun index answer hmem => ?_⟩
      rw [hevents] at hmem
      cases hmem
  | polled spec' hspec' phase reached q hfrom hreached hpolled hpool hsettled hcalled hput =>
      obtain rfl : spec = spec' := Option.some.inj (hspec.symm.trans hspec')
      obtain ⟨halike, hanswer⟩ := hsterile.reached_of_fails hf hreached
      refine ⟨hpool.trans halike, fun index answer hmem => ?_⟩
      exact hanswer answer ((hsettled index answer).1 hmem).2

/-- Whatever an invocation is dealt, no target of a doomed kind comes into the pool. -/
theorem Dealt.sterile (h : Dealt e t events next) (hsterile : e.pool.Sterile) :
    next.pool.Sterile := by
  cases h with
  | untargeted hnone hfrom hpool hsettled => exact hpool.sterile hsterile
  | ended target finish outcome hfrom hpool hevents => exact hpool.sterile hsterile
  | polled spec hspec phase reached q hfrom hreached hpolled hpool hsettled hcalled hput =>
      exact hpool.sterile (hsterile.reached hreached)

/-! ## Executions -/

/-- Nothing has come of the platforms that always fail. -/
structure Barren (g : Registry) (plan : List Invocation) (doomed : Invocation → Bool)
    (history : List Event) (e : Execution) : Prop where
  /-- The platforms are those of the registry. -/
  platforms : e.pool.registry.platform? = g.platform?
  /-- There are no targets of theirs. -/
  sterile : e.pool.Sterile
  /-- Whoever asked them got an error. -/
  settled : ∀ (index : Nat) (answer : Except Pool.Fault Nat) (i : Invocation),
    .settled index answer ∈ history → plan[index]? = some i → doomed i = true →
      ∃ fault, answer = .error fault

theorem Barren.known (h : Barren g plan doomed history e) (hdooms : g.Dooms plan doomed) :
    ∀ i ∈ plan, ∀ spec, i.target = some spec →
      (e.pool.registry.provider? spec.platform).isSome = true := by
  intro i hi spec hspec
  rw [← Registry.isSome_platform?, h.platforms, Registry.isSome_platform?]
  exact hdooms.known i hi spec hspec

/-- The platform that a doomed invocation asks always fails. -/
theorem Barren.exists_fails (h : Barren g plan doomed history e) (hdooms : g.Dooms plan doomed)
    {i : Invocation} (hi : i ∈ plan) (hdoomed : doomed i = true) :
    ∃ spec, i.target = some spec ∧ e.pool.registry.Fails spec.platform := by
  obtain ⟨spec, hspec, hf⟩ := (hdooms.fails i hi).1 hdoomed
  refine ⟨spec, hspec, ?_⟩
  rw [Registry.Fails, h.platforms]
  exact hf

/-- A platform that never takes any time still does not. -/
theorem Barren.prompt (h : Barren g plan doomed history e) {kind : String} {place : Nat}
    {provider : Provider} (hp : e.pool.registry.provider? kind = some (place, provider))
    (hprompt : g.Prompt kind) : provider.platform.Prompt := by
  obtain ⟨platform, hplatform, hdelay⟩ := hprompt
  have hsame := (congrFun h.platforms kind).trans hplatform
  rw [Registry.platform?_of_provider? hp, Option.some.injEq] at hsame
  exact hsame ▸ hdelay

/-- **A step preserves that nothing comes of the platforms that always fail.** -/
theorem Barren.step (h : Barren g plan doomed history e) (hdooms : g.Dooms plan doomed)
    (hsound : Sound executor limit plan before history e) (hstep : e.step = some next) :
    Barren g plan doomed (history ++ e.events) next := by
  rcases hsound.step_dealt (h.known hdooms) hstep with
    ⟨t, rest, ht⟩ | ⟨time, -, hevents, rfl⟩
  · have hsterile : (e.take rest).pool.Sterile := h.sterile
    constructor
    case platforms => exact ht.turn.kept (Pool.platforms_kept g) h.platforms
    case sterile => exact ht.dealt.sterile hsterile
    case settled =>
      intro index answer i hmem hi hdoomed
      rcases List.mem_append.1 hmem with hearlier | hnow
      · exact h.settled index answer i hearlier hi hdoomed
      · obtain rfl : index = t.index := ht.turn.event_index hnow
        rw [ht.planned, Option.some.injEq] at hi
        subst hi
        obtain ⟨spec, hspec, hf⟩ :=
          h.exists_fails hdooms (List.mem_of_getElem? ht.planned) hdoomed
        exact (ht.dealt.of_fails hsterile hspec hf).2 _ answer hnow
  · rw [hevents, List.append_nil]
    exact ⟨h.platforms, h.sterile, h.settled⟩

/-- **However far a plan has been executed**, nothing has come of the platforms that always fail. -/
theorem barren_run {width : Nat} (limit : Option Duration) (executor : Executor) {pool : Pool}
    (calls : List ExecutorCall) (plan : List Invocation) (hwidth : 0 < width)
    (hslots : pool.slots = []) (hsterile : pool.Sterile)
    (hdooms : pool.registry.Dooms plan doomed) (n : Nat) :
    let e := start width limit executor pool calls plan
    Barren pool.registry plan doomed (e.trace n) (e.run n) := by
  intro e
  have hsound := sound_start limit executor calls plan hwidth hslots
  have hpool : e.pool = pool := pool_fill _
  have hbarren : Barren pool.registry plan doomed [] e :=
    ⟨by rw [hpool], by rw [hpool]; exact hsterile, fun _ _ _ h => absurd h List.not_mem_nil⟩
  exact (hsound.run_induction (P := Barren pool.registry plan doomed)
    (fun _ _ _ hs hb hstep => hb.step hdooms hs hstep) hbarren n).2

/-- **A doomed invocation is reported as an error, without a target**, and its body is never run,
however many are in flight and however long anything takes. -/
theorem doomed_complete {width : Nat} (limit : Option Duration) (executor : Executor) {pool : Pool}
    (calls : List ExecutorCall) (plan : List Invocation) (hwidth : 0 < width)
    (hslots : pool.slots = []) (hsterile : pool.Sterile)
    (hdooms : pool.registry.Dooms plan doomed) {index : Nat} {i : Invocation}
    (hi : plan[index]? = some i) (hdoomed : doomed i = true) :
    let history := story width limit executor pool calls plan
    (∃ r message, (complete width limit executor pool calls plan).results[index]? = some r ∧
      r = i.report none (.errored message)) ∧
    ∀ (number : Nat) (call : ExecutorCall), .called index number call ∉ history := by
  intro history
  obtain ⟨-, htold, -⟩ := complete_told limit executor calls plan hwidth hslots
  obtain ⟨r, hr, hstory⟩ := htold index i hi
  have hbarren := barren_run limit executor calls plan hwidth hslots hsterile hdooms
    (stepBound plan.length)
  have habout : ∀ event, event ∈ about index history ↔ event ∈ history ∧ event.index = index := by
    intro event
    simp [about]
  generalize hevents : about index (story width limit executor pool calls plan) = events at hstory
  obtain ⟨spec, hspec, -⟩ := (hdooms.fails i (List.mem_of_getElem? hi)).1 hdoomed
  cases hstory with
  | untargeted h number outcome ho => cases hspec.symm.trans h
  | served spec h target number outcome ho =>
      -- it was settled with an error
      have hmem : Event.settled index (.ok target.serial) ∈ about index history := by
        rw [hevents]
        exact List.mem_cons_self
      obtain ⟨fault, herror⟩ := hbarren.settled index _ i ((habout _).1 hmem).1 hi hdoomed
      cases herror
  | refused spec h fault =>
      refine ⟨⟨_, fault.message, hr, rfl⟩, fun number call hmem => ?_⟩
      have hcalled : Event.called index number call ∈ about index history :=
        (habout _).2 ⟨hmem, rfl⟩
      rw [hevents] at hcalled
      cases List.mem_singleton.1 hcalled

end Execution

end TestBench
