import TestBench.Proofs.PoolLedger
import TestBench.Proofs.SessionTeardown

/-!
# A session after its teardown

A session that was torn down refuses to run and to be torn down again. Executing a plan is not
refused, though, and it has requests resolved by the empty pool. `Session.provisioned_iff_asked` says
what this comes to. From the teardown on nothing is built, and the pool stays empty, exactly as long
as no plan is executed with an invocation that asks a registered platform for a target; then the
teardown has settled every target that was ever in the pool. `Session.provisioned_after_teardown` is
a session that executes such a plan: its pool is filled again, and nothing will empty it.

For an execution on an empty pool the same is shown first. Its resolutions find nothing to reuse, so
the first of them that has a platform asks it for a target (`Pool.untouched_kept`).
-/

set_option autoImplicit false

namespace TestBench

namespace Registry

variable {before now : Registry} {kind : String} {place : Nat} {provider : Provider}

/-- A platform was asked for a target since an earlier time. -/
def Consulted (before now : Registry) : Prop :=
  before.Follows now ∧ ∃ (place : Nat) (parameters : Parameters) (features : NameSet)
    (built : Option Target), .construct parameters features built ∈ now.since before place

theorem not_consulted_self (g : Registry) : ¬ Consulted g g := by
  rintro ⟨-, place, parameters, features, built, h⟩
  rw [since_self] at h
  cases h

/-- What was asked stays asked. -/
theorem Consulted.note (h : Consulted before now) (hp : now.provider? kind = some (place, provider))
    (call : PlatformCall) : Consulted before (now.note place call) := by
  obtain ⟨hfollows, i, parameters, features, built, hmem⟩ := h
  refine ⟨hfollows.note hp call, i, parameters, features, built, ?_⟩
  rw [hfollows.since_note hp]
  split
  · exact List.mem_append_left _ hmem
  · exact hmem

theorem consulted_note (hp : before.provider? kind = some (place, provider))
    (parameters : Parameters) (features : NameSet) (built : Option Target) :
    Consulted before (before.note place (.construct parameters features built)) := by
  have hfollows := Follows.refl before
  refine ⟨hfollows.note hp _, place, parameters, features, built, ?_⟩
  rw [hfollows.since_note hp, if_pos rfl]
  exact List.mem_append_right _ (List.mem_singleton_self _)

end Registry

namespace Pool

variable {start p q : Pool} {r : Request} {answer : Except Fault Nat} {place : Nat}
  {provider : Provider} {before : Registry}

theorem Built.consulted (h : Built p r place provider answer q)
    (hp : p.registry.provider? r.platform = some (place, provider)) :
    p.registry.Consulted q.registry := by
  cases h with
  | failed reason hc => exact Registry.consulted_note hp _ _ _
  | refused t reason hbare hserial hid hr => exact Registry.consulted_note hp _ _ _
  | created t hbare hserial hid hr => exact Registry.consulted_note hp _ _ _

theorem consulted_kept (before : Registry) : Kept fun p => before.Consulted p.registry where
  slots _ _ h := h
  settled p r answer q hs h := by
    cases hs with
    | unknown hp => exact h
    | reused serial hr => exact h
    | built place provider _ _ hp hb =>
        cases hb with
        | failed reason hc => exact h.note hp _
        | refused t reason hbare hserial hid hr => exact h.note hp _
        | created t hbare hserial hid hr => exact h.note hp _
  release _ _ h := h

/-- Nothing has changed in a pool but who stands at its slots. -/
def Untouched (start p : Pool) : Prop := p = { start with slots := p.slots }

theorem Untouched.withSlots (h : Untouched start p) (slots : SlotQueue) :
    Untouched start { p with slots := slots } := by
  rw [h]
  rfl

/-- In a pool without targets there is no lease to drop. -/
theorem Untouched.release (h : Untouched start p) (hempty : start.targets = []) (serial : Nat) :
    Untouched start (p.release serial) := by
  have htargets : p.targets = [] := by rw [h]; exact hempty
  have hsame : p.release serial = p := after_release_eq_self htargets [serial]
  rw [hsame]
  exact h

/-- **In an empty pool a resolution either has no platform or asks it for a target.** -/
theorem Untouched.settled (h : Untouched start p) (hempty : start.targets = [])
    (hs : Settled p r answer q) :
    (q = p ∧ (∃ fault, answer = .error fault) ∧ start.registry.provider? r.platform = none) ∨
      ((start.registry.provider? r.platform).isSome = true ∧
        start.registry.Consulted q.registry) := by
  have hregistry : p.registry = start.registry := by rw [h]
  cases hs with
  | unknown hp => exact .inl ⟨rfl, ⟨_, rfl⟩, hregistry ▸ hp⟩
  | reused serial hr =>
      have htargets : p.targets = [] := by rw [h]; exact hempty
      rw [scan, htargets] at hr
      cases hr
  | built place provider _ _ hp hb =>
      refine .inr ⟨?_, hregistry ▸ hb.consulted hp⟩
      rw [← hregistry, hp]
      rfl

/-- **An empty pool is left alone until a platform is asked for a target.** -/
theorem untouched_kept (hempty : start.targets = []) :
    Kept fun p => start.registry.Consulted p.registry ∨ Untouched start p where
  slots p slots h := h.imp_right fun hp => hp.withSlots slots
  settled p r answer q hs h := by
    rcases h with h | h
    · exact .inl ((consulted_kept start.registry).settled p r answer q hs h)
    · rcases h.settled hempty hs with ⟨rfl, -, -⟩ | ⟨-, hq⟩
      · exact .inr h
      · exact .inl hq
  release p serial h := h.imp_right fun hp => hp.release hempty serial

end Pool

/-- The invocation asks for a target of a kind that is answered to. -/
def Invocation.Asks (g : Registry) (i : Invocation) : Prop :=
  ∃ spec, i.target = some spec ∧ g.contains spec.platform = true

namespace Execution

variable {plan : List Invocation} {history events : List Event} {e next : Execution} {t : Task}
  {executor : Executor} {limit : Option Duration} {before : List ExecutorCall} {start : Pool}

/-- A body without a target leaves the pool as it is. -/
theorem pool_runBody_none (e : Execution) (t : Task) : (e.runBody t none).pool = e.pool := by
  rw [runBody]
  simp only
  split
  · exact pool_conclude _ t none _
  · rfl

/-- **A settled resolution had its request**, and what single changes keep of the pool with which it
has settled is kept to the end of the turn. -/
theorem Turn.settled (h : Turn e t events next) {index : Nat} {answer : Except Pool.Fault Nat}
    (hmem : .settled index answer ∈ events) :
    index = t.index ∧ ∃ spec q, t.invocation.target = some spec ∧
      Pool.Settled e.pool (t.invocation.request spec) answer q ∧
      ∀ P : Pool → Prop, Pool.Kept P → P q → P next.pool := by
  cases h with
  | enqueued spec hspec hfrom hholder => cases hmem
  | entered spec hspec hfrom finish hfinish hholder => cases hmem
  | begins spec hspec hfrom finish hfinish hholder => cases hmem
  | refused spec hspec hfrom fault q hq =>
      cases List.mem_singleton.1 hmem
      refine ⟨rfl, spec, q, hspec, hq, fun P hP h => ?_⟩
      apply kept_conclude hP
      exact hP.slots _ _ h
  | served spec hspec hfrom target q hq htarget =>
      rcases List.mem_cons.1 hmem with hmem | hmem
      · cases hmem
        refine ⟨rfl, spec, q, hspec, hq, fun P hP h => ?_⟩
        apply kept_runBody hP
        exact hP.slots _ _ h
      · cases List.mem_singleton.1 hmem
  | untargeted hspec hfrom => cases List.mem_singleton.1 hmem
  | ended target finish outcome hfrom => cases hmem

/-- **A turn of an invocation that asks for nothing leaves an empty pool alone.** -/
theorem Turn.untouched (h : Turn e t events next) (hempty : start.targets = [])
    (hasks : ¬ t.invocation.Asks start.registry) (hpool : start.Untouched e.pool) :
    start.Untouched next.pool := by
  -- a resolution that settles without asking has left the pool as it was
  have hsettled : ∀ {spec answer q}, t.invocation.target = some spec →
      Pool.Settled e.pool (t.invocation.request spec) answer q →
      q = e.pool ∧ ∃ fault, answer = .error fault := by
    intro spec answer q hspec hq
    rcases hpool.settled hempty hq with ⟨hsame, hfault, -⟩ | ⟨hsome, -⟩
    · exact ⟨hsame, hfault⟩
    · exact absurd ⟨spec, hspec, hsome⟩ hasks
  cases h with
  | enqueued spec hspec hfrom hholder => exact hpool.withSlots _
  | entered spec hspec hfrom finish hfinish hholder => exact hpool.withSlots _
  | begins spec hspec hfrom finish hfinish hholder => exact hpool
  | refused spec hspec hfrom fault q hq =>
      obtain ⟨rfl, -⟩ := hsettled hspec hq
      rw [pool_conclude]
      exact hpool.withSlots _
  | served spec hspec hfrom target q hq htarget =>
      obtain ⟨-, fault, heq⟩ := hsettled hspec hq
      cases heq
  | untargeted hspec hfrom =>
      rw [pool_runBody_none]
      exact hpool
  | ended target finish outcome hfrom =>
      rw [pool_conclude]
      cases target with
      | none => exact hpool
      | some target => exact hpool.release hempty _

/-- What is known of an execution on an empty pool: until a platform is asked for a target, every
settled resolution was for a kind that nobody answers to. -/
def Unasked (plan : List Invocation) (start : Pool) (history : List Event) (e : Execution) : Prop :=
  start.registry.Consulted e.pool.registry ∨ (start.Untouched e.pool ∧
    ∀ (index : Nat) (answer : Except Pool.Fault Nat), .settled index answer ∈ history →
      ∃ i spec, plan[index]? = some i ∧ i.target = some spec ∧
        start.registry.provider? spec.platform = none)

theorem Unasked.step (h : Unasked plan start history e) (hempty : start.targets = [])
    (hsound : Sound executor limit plan before history e) (hstep : e.step = some next) :
    Unasked plan start (history ++ e.events) next := by
  rcases hsound.step_cases hstep with
    ⟨t, rest, -, ht, -, hturn⟩ | ⟨time, -, -, hevents, rfl⟩
  · rcases hturn.kept (Pool.untouched_kept hempty) (h.imp_right fun h => h.1) with hnext | hnext
    · exact .inl hnext
    · rcases h with h | ⟨hpool, hhistory⟩
      · exact .inl (hturn.kept (Pool.consulted_kept start.registry) h)
      · by_cases hasked : start.registry.Consulted next.pool.registry
        · exact .inl hasked
        refine .inr ⟨hnext, fun index answer hmem => ?_⟩
        rcases List.mem_append.1 hmem with hearlier | hnow
        · exact hhistory index answer hearlier
        · obtain ⟨rfl, spec, q, hspec, hq, hkept⟩ := hturn.settled hnow
          have hpool : start.Untouched (e.take rest).pool := hpool
          rcases hpool.settled hempty hq with ⟨-, -, hnone⟩ | ⟨-, hconsulted⟩
          · exact ⟨t.invocation, spec, hsound.placed.invocation t ht, hspec, hnone⟩
          · exact absurd (hkept _ (Pool.consulted_kept start.registry) hconsulted) hasked
  · rw [hevents, List.append_nil]
    exact h

/-- **An execution on an empty pool asks a platform for a target just if one of its invocations
does**, and otherwise it leaves the pool as it is. -/
theorem consulted_complete_iff {width : Nat} (limit : Option Duration) (executor : Executor)
    {pool : Pool} (calls : List ExecutorCall) (plan : List Invocation) (hwidth : 0 < width)
    (hslots : pool.slots = []) (hempty : pool.targets = []) :
    let e := complete width limit executor pool calls plan
    ((∃ i ∈ plan, i.Asks pool.registry) → pool.registry.Consulted e.pool.registry) ∧
      ((∀ i ∈ plan, ¬ i.Asks pool.registry) → e.pool = pool) := by
  intro e
  have hsound := sound_start limit executor calls plan hwidth hslots
  have hstart : (Execution.start width limit executor pool calls plan).pool = pool := pool_fill _
  have huntouched : pool.Untouched (Execution.start width limit executor pool calls plan).pool := by
    rw [hstart]
    rfl
  obtain ⟨-, htold, -, -, hfree⟩ := complete_told limit executor calls plan hwidth hslots
  constructor
  · rintro ⟨i, hi, spec, hspec, hcontains⟩
    obtain ⟨-, hunasked⟩ := hsound.run_induction (P := Unasked plan pool)
      (fun _ _ _ hs h hstep => h.step hempty hs hstep)
      (.inr ⟨huntouched, fun _ _ h => absurd h List.not_mem_nil⟩) (stepBound plan.length)
    rcases hunasked with hconsulted | ⟨-, hsettled⟩
    · exact hconsulted
    · -- the story of the invocation has a settlement, which was for a kind with a platform
      obtain ⟨index, hindex⟩ := List.getElem?_of_mem hi
      obtain ⟨r, -, hstory⟩ := htold index i hindex
      have hnone : ∃ answer, .settled index answer ∈
          about index (story width limit executor pool calls plan) := by
        generalize about index _ = events at hstory
        cases hstory with
        | untargeted h number outcome ho => exact nomatch h.symm.trans hspec
        | served spec h target number outcome ho => exact ⟨_, List.mem_cons_self⟩
        | refused spec h fault => exact ⟨_, List.mem_cons_self⟩
      obtain ⟨answer, hmem⟩ := hnone
      obtain ⟨j, spec', hj, hspec', hunknown⟩ :=
        hsettled index answer (List.mem_filter.1 hmem).1
      rw [hindex, Option.some.injEq] at hj
      subst hj
      rw [hspec, Option.some.injEq] at hspec'
      subst hspec'
      rw [Registry.contains, hunknown] at hcontains
      cases hcontains
  · intro hasks
    obtain ⟨-, hpool⟩ := hsound.run_induction (P := fun _ e => pool.Untouched e.pool)
      (fun history e next hs h hstep => by
        rcases hs.step_cases hstep with ⟨t, rest, -, ht, -, hturn⟩ | ⟨time, -, -, -, rfl⟩
        · exact hturn.untouched hempty
            (hasks _ (List.mem_of_getElem? (hs.placed.invocation t ht))) h
        · exact h)
      huntouched (stepBound plan.length)
    have hpool : e.pool = { pool with slots := e.pool.slots } := hpool
    have hfree : e.pool.slots = [] := hfree
    rw [hpool, hfree, ← hslots]

end Execution

namespace Session

variable {s t : Session} {config : Config} {playbook : Playbook} {registry : Registry}
  {runId : RunId} {ids : Nat → TargetId} {P : Pool → Prop}

/-! ## Calls from outside -/

/-- What can be asked of a session. -/
inductive Call where
  /-- Tests are selected. -/
  | select (tests : List Case)
  /-- Tests are planned. -/
  | plan (tests : List Case)
  /-- A plan is executed, whoever made it. -/
  | execute (executor : Executor) (plan : List Invocation)
  /-- A catalog is run. -/
  | run (executor : Executor) (catalog : List Entry)
  /-- The session is torn down. -/
  | teardown

/-- What a call does with the session. Selecting and planning only look at it. -/
def Call.operation? : Call → Option Operation
  | .select _ => none
  | .plan _ => none
  | .execute executor invocations => some (.execute executor invocations)
  | .run executor catalog => some (.run executor catalog)
  | .teardown => some .teardown

/-- A plan is executed of which some invocation asks for a target of a kind that is answered to. -/
def Call.Asks (g : Registry) : Call → Prop
  | .execute _ invocations => ∃ i ∈ invocations, i.Asks g
  | _ => False

/-- The session after some calls, one after the other. -/
def afterCalls (s : Session) (calls : List Call) : Session :=
  s.after (calls.filterMap Call.operation?)

/-- The session after one call. -/
def call (s : Session) (c : Call) : Session := s.afterCalls [c]

/-- The session in a call just before its pool is emptied. -/
def closing (s : Session) : Call → Session
  | .run executor catalog => s.beforeClose executor catalog
  | _ => s

theorem afterCalls_append (s : Session) (calls rest : List Call) :
    s.afterCalls (calls ++ rest) = (s.afterCalls calls).afterCalls rest := by
  rw [afterCalls, List.filterMap_append, after, List.foldl_append]
  rfl

theorem afterCalls_cons (s : Session) (c : Call) (rest : List Call) :
    s.afterCalls (c :: rest) = (s.call c).afterCalls rest :=
  s.afterCalls_append [c] rest

/-! ## Before the teardown -/

/-- Whether the session is over does not change by an execution. -/
theorem tornDown_perform (htorn : s.tornDown = true) (operation : Operation) :
    (s.perform operation).tornDown = true := by
  cases operation with
  | execute executor plan => exact htorn
  | run executor catalog =>
      simp only [perform, Session.run, htorn, if_true]
  | use use => exact htorn
  | teardown => simp only [perform, Session.teardown, htorn, if_true]

theorem tornDown_after (htorn : s.tornDown = true) (operations : List Operation) :
    (s.after operations).tornDown = true := by
  induction operations generalizing s with
  | nil => exact htorn
  | cons operation rest ih => exact ih (tornDown_perform htorn operation)

theorem extends_kept (start : Pool) : Pool.Kept (Pool.Extends start) where
  slots _ _ h := ⟨h.bare, h.provider, h.keep, h.ids⟩
  settled p r answer q hs h := by
    cases hs with
    | unknown hp => exact h
    | reused serial hr => exact h.trans (Pool.extends_mapConnection p serial .opening)
    | built place provider _ _ hp hb => exact h.trans hb.extends
  release p serial h := h.trans (Pool.extends_mapConnection p serial .closing)

/-- A run or a teardown leaves the session torn down. -/
theorem tornDown_run (s : Session) (executor : Executor) (catalog : List Entry) :
    (s.perform (.run executor catalog)).tornDown = true := by
  by_cases htorn : s.tornDown = true
  · exact tornDown_perform htorn _
  · obtain ⟨report, hrun, -⟩ := exists_run_eq (Bool.eq_false_iff.2 htorn) executor catalog
    simp only [perform, hrun]
    rfl

theorem tornDown_teardown (s : Session) : (s.perform .teardown).tornDown = true := by
  by_cases htorn : s.tornDown = true
  · exact tornDown_perform htorn _
  · simp only [perform, Session.teardown, if_neg htorn]
    rfl

theorem Orderly.extends_after (h : Orderly s) (operations : List Operation)
    (htorn : (s.after operations).tornDown = false) :
    s.pool.Extends (s.after operations).pool := by
  induction operations generalizing s with
  | nil => exact Pool.Extends.refl s.pool
  | cons operation rest ih =>
      have hfirst : (s.perform operation).tornDown = false :=
        Bool.eq_false_iff.2 fun h => Bool.eq_false_iff.1 htorn (tornDown_after h rest)
      refine Pool.Extends.trans ?_ (ih (h.perform operation) htorn)
      cases operation with
      | execute executor plan =>
          exact h.kept_execute (extends_kept s.pool) (Pool.Extends.refl s.pool) executor plan
      | run executor catalog => exact nomatch hfirst.symm.trans (s.tornDown_run executor catalog)
      | use use => exact Pool.extends_perform s.pool use
      | teardown => exact nomatch hfirst.symm.trans s.tornDown_teardown

/-- **Before a session is torn down no target leaves its pool.** -/
theorem Orderly.extends_soFar (h : Orderly s) {soFar calls : List Call}
    (hsoFar : soFar <+: calls) (htorn : (s.afterCalls calls).tornDown = false) :
    (s.afterCalls soFar).pool.Extends (s.afterCalls calls).pool := by
  obtain ⟨rest, rfl⟩ := hsoFar
  rw [afterCalls_append] at htorn ⊢
  exact (h.after _).extends_after _ htorn

/-- The call by which a session is torn down empties the pool that it has come to. -/
theorem call_eq_close {c : Call} (hbefore : s.tornDown = false) (hlast : (s.call c).tornDown = true) :
    s.call c = (s.closing c).close.2 := by
  cases c with
  | select tests => exact nomatch hbefore.symm.trans hlast
  | plan tests => exact nomatch hbefore.symm.trans hlast
  | execute executor invocations => exact nomatch hbefore.symm.trans hlast
  | run executor catalog =>
      obtain ⟨report, hrun, -⟩ := exists_run_eq hbefore executor catalog
      show s.perform (.run executor catalog) = _
      simp only [perform, hrun]
      rfl
  | teardown =>
      show s.perform .teardown = _
      simp only [perform, Session.teardown, hbefore]
      rfl

/-! ## After the teardown -/

/-- **A session that is over refuses to run and to be torn down**, and is not changed by that. -/
theorem refuses_of_tornDown (htorn : t.tornDown = true) :
    (∀ executor catalog, t.run executor catalog = .error (.tornDown t.runId) ∧
      t.call (.run executor catalog) = t) ∧
    t.teardown = .error (.tornDown t.runId) ∧ t.call .teardown = t := by
  have hrun : ∀ executor catalog, t.run executor catalog = .error (.tornDown t.runId) := by
    intro executor catalog
    rw [Session.run, if_pos htorn]
  have hteardown : t.teardown = .error (.tornDown t.runId) := by rw [Session.teardown, if_pos htorn]
  refine ⟨fun executor catalog => ⟨hrun executor catalog, ?_⟩, hteardown, ?_⟩
  · show t.perform (.run executor catalog) = t
    simp only [perform, hrun]
  · show t.perform .teardown = t
    simp only [perform, hteardown]

/-- What single changes keep is kept by calls after the teardown. -/
theorem Orderly.kept_afterCalls (h : Orderly t) (htorn : t.tornDown = true) (hP : Pool.Kept P)
    (hpool : P t.pool) (calls : List Call) : P (t.afterCalls calls).pool := by
  induction calls generalizing t with
  | nil => exact hpool
  | cons c rest ih =>
      rw [afterCalls_cons]
      have hrefuses := refuses_of_tornDown htorn
      cases c with
      | select tests => exact ih h htorn hpool
      | plan tests => exact ih h htorn hpool
      | execute executor invocations =>
          exact ih (h.execute executor invocations) htorn (h.kept_execute hP hpool _ _)
      | run executor catalog =>
          rw [(hrefuses.1 executor catalog).2]
          exact ih h htorn hpool
      | teardown =>
          rw [hrefuses.2.2]
          exact ih h htorn hpool

/-- **After the teardown the pool is left alone until a plan asks for a target**, and from then on a
platform was asked for one. -/
theorem Orderly.consulted_afterCalls (h : Orderly t) (htorn : t.tornDown = true)
    (hempty : t.pool.targets = []) (calls : List Call) :
    ((∃ c ∈ calls, c.Asks t.pool.registry) →
      t.pool.registry.Consulted (t.afterCalls calls).pool.registry) ∧
    ((∀ c ∈ calls, ¬ c.Asks t.pool.registry) → (t.afterCalls calls).pool = t.pool) := by
  induction calls generalizing t with
  | nil => exact ⟨fun ⟨c, hc, _⟩ => absurd hc List.not_mem_nil, fun _ => rfl⟩
  | cons c rest ih =>
      rw [afterCalls_cons]
      by_cases hasks : c.Asks t.pool.registry
      · -- only an executed plan asks for anything
        refine ⟨fun _ => ?_, fun hnone => absurd hasks (hnone c List.mem_cons_self)⟩
        cases c with
        | execute executor invocations =>
            have hasked := (Execution.consulted_complete_iff t.config.testTimeout executor t.calls
              invocations (width_pos t.config) h.slots hempty).1 hasks
            exact (h.execute executor invocations).kept_afterCalls htorn
              (Pool.consulted_kept t.pool.registry) hasked rest
        | select tests => cases hasks
        | plan tests => cases hasks
        | run executor catalog => cases hasks
        | teardown => cases hasks
      · have hsame : (t.call c).pool = t.pool ∧ Orderly (t.call c) ∧
            (t.call c).tornDown = true := by
          have hrefuses := refuses_of_tornDown htorn
          cases c with
          | select tests => exact ⟨rfl, h, htorn⟩
          | plan tests => exact ⟨rfl, h, htorn⟩
          | execute executor invocations =>
              have hnone : ∀ i ∈ invocations, ¬ i.Asks t.pool.registry :=
                fun i hi hi' => hasks ⟨i, hi, hi'⟩
              have hpool := (Execution.consulted_complete_iff t.config.testTimeout executor t.calls
                invocations (width_pos t.config) h.slots hempty).2 hnone
              exact ⟨hpool, h.execute executor invocations, htorn⟩
          | run executor catalog =>
              rw [(hrefuses.1 executor catalog).2]
              exact ⟨rfl, h, htorn⟩
          | teardown =>
              rw [hrefuses.2.2]
              exact ⟨rfl, h, htorn⟩
        obtain ⟨hpool, horderly, htorn'⟩ := hsame
        have hrest := ih horderly htorn' (hpool ▸ hempty)
        rw [hpool] at hrest
        refine ⟨?_, fun hnone => hrest.2 fun d hd => hnone d (List.mem_cons_of_mem c hd)⟩
        rintro ⟨d, hd, hd'⟩
        rcases List.mem_cons.1 hd with rfl | hd
        · exact absurd hd' hasks
        · exact hrest.1 ⟨d, hd, hd'⟩

/-! ## The main statement -/

/-- **After its teardown a session provisions nothing just as long as nothing is asked.** A session
was opened with a playbook, with any platforms, and then called in any way, and by the last call it
was torn down, directly or in a run. Then no target had left its pool before, and the teardown has
settled every target in it and emptied it. After any further calls the session refuses to run and to
be torn down, without effect; and its pool is empty and no platform was asked for a target since,
just if no plan was executed of which an invocation asks for a target of a kind that is answered to.
In that case the pool is the one that the teardown has left. -/
theorem provisioned_iff_asked {s₀ : Session}
    (hopen : withPlaybook config playbook registry runId ids = .ok s₀) (earlier : List Call)
    (last : Call) (hbefore : (s₀.afterCalls earlier).tornDown = false)
    (hlast : ((s₀.afterCalls earlier).call last).tornDown = true) (later : List Call) :
    let s := s₀.afterCalls earlier
    let p := (s.closing last).pool
    let t := s.call last
    let u := t.afterCalls later
    (∀ soFar, soFar <+: earlier → (s₀.afterCalls soFar).pool.bare <+: p.bare) ∧
    t = (s.closing last).close.2 ∧ p.Settles (s.closing last).close.1 t.pool ∧
    t.pool.targets = [] ∧ u.tornDown = true ∧
    ((∀ executor catalog, u.run executor catalog = .error (.tornDown u.runId) ∧
        u.call (.run executor catalog) = u) ∧
      u.teardown = .error (.tornDown u.runId) ∧ u.call .teardown = u) ∧
    ((u.pool.targets = [] ∧ ¬ t.pool.registry.Consulted u.pool.registry) ↔
      ∀ c ∈ later, ¬ c.Asks t.pool.registry) ∧
    ((∀ c ∈ later, ¬ c.Asks t.pool.registry) → u.pool = t.pool) := by
  intro s p t u
  have hs₀ : Orderly s₀ := orderly_withPlaybook hopen
  have hs : Orderly s := hs₀.after _
  have ht : Orderly t := hs.after _
  have hclose : t = (s.closing last).close.2 := call_eq_close hbefore hlast
  have hserved : p.Served := by
    have hserved : s.pool.Served := (served_and_keep_after hopen _).1
    cases last with
    | run executor catalog => exact hs.beforeClose_kept Pool.served_kept hserved executor catalog
    | select tests => exact hserved
    | plan tests => exact hserved
    | execute executor invocations => exact hserved
    | teardown => exact hserved
  have hgrown : s.pool.Extends p := by
    cases last with
    | run executor catalog =>
        exact hs.beforeClose_kept (extends_kept s.pool) (Pool.Extends.refl s.pool) executor catalog
    | select tests => exact Pool.Extends.refl s.pool
    | plan tests => exact Pool.Extends.refl s.pool
    | execute executor invocations => exact Pool.Extends.refl s.pool
    | teardown => exact Pool.Extends.refl s.pool
  have hsettles : p.Settles (s.closing last).close.1 t.pool := by
    rw [hclose]
    exact hserved.settles
  have hempty : t.pool.targets = [] := hsettles.targets_eq_nil
  have htorn : u.tornDown = true := tornDown_after hlast _
  obtain ⟨hasked, hsame⟩ := ht.consulted_afterCalls hlast hempty later
  refine ⟨fun soFar hsoFar => ?_, hclose, hsettles, hempty, htorn, refuses_of_tornDown htorn, ?_,
    hsame⟩
  · exact ((hs₀.extends_soFar hsoFar hbefore).trans hgrown).bare
  · constructor
    · rintro ⟨-, hnone⟩ c hc hasks
      exact hnone (hasked ⟨c, hc, hasks⟩)
    · intro hnone
      have hpool : u.pool = t.pool := hsame hnone
      rw [hpool]
      exact ⟨hempty, Registry.not_consulted_self _⟩

/-- A target is built by a plan and another one in a run, which tears the session down; afterwards
it is asked to run again and executes a plan that needs no target. -/
theorem unasked_after_run :
    let registry := Registry.builtin.register "other" (Simulation.basic "other").platform
    let playbook : Playbook := ⟨[.basic "first" "mock", .basic "second" "other"], []⟩
    let ids : Nat → TargetId := fun n => ⟨BitVec.ofNat 128 n⟩
    let s₀ : Session := ⟨⟨0⟩, .usual, playbook, .empty registry false ids, [], false⟩
    let boot : Case := ⟨"boot", none, true, ∅⟩
    let lint : Case := ⟨"lint", none, false, ∅⟩
    let earlier : List Call :=
      [.plan [boot], .execute .dryRun [.of boot (some (.basic "second" "other"))]]
    let last : Call := .run .dryRun [⟨"boot", none, true, ∅⟩]
    let later : List Call := [.run .dryRun [], .execute .dryRun [.of lint none], .teardown]
    withPlaybook .usual playbook registry ⟨0⟩ ids = .ok s₀ ∧
      ((s₀.afterCalls earlier).closing last).close.1.deprovisioned = [ids 0, ids 1] ∧
      (((s₀.afterCalls earlier).call last).afterCalls later).pool.targets = [] ∧
      ¬ ((s₀.afterCalls earlier).call last).pool.registry.Consulted
        (((s₀.afterCalls earlier).call last).afterCalls later).pool.registry := by
  intro registry playbook ids s₀ boot lint earlier last later
  have hopen : withPlaybook .usual playbook registry ⟨0⟩ ids = .ok s₀ := by rfl
  have hbefore : (s₀.afterCalls earlier).tornDown = false := by decide +kernel
  have hlast : ((s₀.afterCalls earlier).call last).tornDown = true := by decide +kernel
  obtain ⟨-, -, -, -, -, -, hiff, -⟩ :=
    provisioned_iff_asked hopen earlier last hbefore hlast later
  have hunasked : ∀ g : Registry, ∀ c ∈ later, ¬ c.Asks g := by
    intro g c hc hasks
    simp only [later, List.mem_cons, List.not_mem_nil, or_false] at hc
    rcases hc with rfl | rfl | rfl
    · exact hasks
    · obtain ⟨i, hi, spec, hspec, -⟩ := hasks
      cases List.mem_singleton.1 hi
      cases hspec
    · exact hasks
  obtain ⟨hempty, hnone⟩ := hiff.2 (hunasked _)
  exact ⟨hopen, by decide +kernel, hempty, hnone⟩

/-- **A session that was torn down provisions a target that nothing will release.** Its pool was
emptied, then a plan is executed, and the built-in platform has built a target that is in the pool;
the session refuses to be torn down again. -/
theorem provisioned_after_teardown :
    let playbook : Playbook := ⟨[], []⟩
    let ids : Nat → TargetId := fun n => ⟨BitVec.ofNat 128 n⟩
    let s₀ : Session := ⟨⟨0⟩, .usual, playbook, .empty .builtin false ids, [], false⟩
    let t := s₀.call .teardown
    let u := t.call (.execute .dryRun (t.plan [⟨"a", none, true, ∅⟩]))
    withPlaybook .usual playbook .builtin ⟨0⟩ ids = .ok s₀ ∧ t.tornDown = true ∧
      t.pool.targets.length = 0 ∧ u.pool.targets.map (·.id) = [ids 0] ∧
      (u.pool.registry.ledger 0).built.map (·.id) = [ids 0] ∧
      (u.pool.registry.ledger 0).deletions.length = 0 ∧
      u.teardown = .error (.tornDown ⟨0⟩) ∧ (u.call .teardown).pool.targets.length = 1 := by
  intro playbook ids s₀ t u
  have hopen : withPlaybook .usual playbook .builtin ⟨0⟩ ids = .ok s₀ := by rfl
  have hrefused : u.teardown = .error (.tornDown ⟨0⟩) := by rfl
  exact ⟨hopen, by decide +kernel, by decide +kernel, by decide +kernel, by decide +kernel,
    by decide +kernel, hrefused, by decide +kernel⟩

end Session

end TestBench
