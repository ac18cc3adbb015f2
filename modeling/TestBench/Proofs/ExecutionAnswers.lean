import TestBench.Proofs.ExecutionPool
import TestBench.Proofs.PoolLikeness

/-!
# The answers in a turn

`Execution.Turn` says what can happen in a turn. Here the turn is tied to the poll that is made in
it: `Execution.Dealt` gives the pool after the turn, but for what does not matter to alike pools,
and says which answer is observed and which target the body is handed, both as the poll has left
them.
-/

set_option autoImplicit false

namespace TestBench

namespace Execution

variable {e next : Execution} {t : Task} {events : List Event}

/-! ## The pool after a turn -/

theorem alike_conclude (e : Execution) (t : Task) (target : Option Target) (outcome : Outcome) :
    (e.conclude t target outcome).pool.Alike e.pool := by
  rw [pool_conclude]
  cases target with
  | none => exact .refl _
  | some target => exact (Pool.Alike.refl _).release target.serial

/-- A body leaves the pool as it was, but for the lease on its target. -/
theorem alike_runBody (e : Execution) (t : Task) (target : Option Target) :
    (e.runBody t target).pool.Alike e.pool := by
  rw [runBody]
  simp only
  split
  · exact alike_conclude { e with calls := e.calls ++ [⟨t.invocation, target⟩] } t target _
  · exact .refl _

theorem pool_wake (e : Execution) (key : SlotKey) (before : Option Nat) :
    (e.wake key before).pool = e.pool := by
  rw [wake_eq]

/-- What is left of going on with getting a target when the poll has been made and others were
woken. -/
def afterPoll (e : Execution) (t : Task) (r : Request) (phase : Resolution) : Execution :=
  match phase with
  | .settled (.ok serial) => e.runBody t (e.pool.target? serial)
  | .settled (.error f) => e.conclude t none (.errored f.message)
  | .building finish => (e.put t.index (.resolving r phase)).waitUntil t.index finish
  | _ => e.put t.index (.resolving r phase)

theorem goOnResolving_eq_afterPoll (e : Execution) (t : Task) (r : Request) (phase : Resolution) :
    e.goOnResolving t r phase =
      ({ e with pool := (e.pool.poll t.index r e.now phase).2 }.wake r.slot
        (e.pool.slots.holder? r.slot)).afterPoll t r (e.pool.poll t.index r e.now phase).1 := rfl

theorem alike_afterPoll (e : Execution) (t : Task) (r : Request) (phase : Resolution) :
    (e.afterPoll t r phase).pool.Alike e.pool := by
  cases phase with
  | settled answer =>
      cases answer with
      | ok serial => exact alike_runBody e t _
      | error f => exact alike_conclude e t none _
  | arriving => exact .refl _
  | wanting => exact .refl _
  | queued => exact .refl _
  | building finish => exact .refl _

/-- A body is run on the target with the number that is the answer. -/
theorem calls_afterPoll (e : Execution) (t : Task) (r : Request) (phase : Resolution) :
    (e.afterPoll t r phase).calls = e.calls ∨ ∃ serial, phase = .settled (.ok serial) ∧
      (e.afterPoll t r phase).calls = e.calls ++ [⟨t.invocation, e.pool.target? serial⟩] := by
  cases phase with
  | settled answer =>
      cases answer with
      | ok serial => exact .inr ⟨serial, rfl, calls_runBody e t _⟩
      | error f => exact .inl (calls_conclude e t none _)
  | arriving => exact .inl rfl
  | wanting => exact .inl rfl
  | queued => exact .inl rfl
  | building finish => exact .inl rfl

/-- A resolution that is not over is put back. -/
theorem exists_mem_afterPoll (ht : t ∈ e.tasks) (r : Request) {phase : Resolution}
    (hphase : ∀ answer, phase ≠ .settled answer) :
    ∃ u ∈ (e.afterPoll t r phase).tasks, u.index = t.index ∧ u.invocation = t.invocation ∧
      u.progress = .resolving r phase := by
  have hput : ∃ u ∈ (e.put t.index (.resolving r phase)).tasks, u.index = t.index ∧
      u.invocation = t.invocation ∧ u.progress = .resolving r phase :=
    ⟨_, mem_tasks_put.2 (.inr ⟨t, ht, rfl, rfl⟩), rfl, rfl, rfl⟩
  cases phase with
  | settled answer => exact absurd rfl (hphase answer)
  | arriving => exact hput
  | wanting => exact hput
  | queued => exact hput
  | building finish => exact hput

/-! ## What is observed -/

theorem settled_mem_eventsOf {index : Nat} {answer : Except Pool.Fault Nat} :
    .settled index answer ∈ e.eventsOf t next ↔
      index = t.index ∧ e.settlement? t = some answer := by
  simp [eventsOf, eq_comm, and_comm]

theorem called_mem_eventsOf {index number : Nat} {call : ExecutorCall}
    (h : .called index number call ∈ e.eventsOf t next) :
    call ∈ next.calls.drop e.calls.length := by
  rw [eventsOf, List.mem_append] at h
  rcases h with h | h
  · obtain ⟨answer, -, heq⟩ := List.mem_map.1 h
    cases heq
  · obtain ⟨c, hc, heq⟩ := List.mem_map.1 h
    cases heq
    exact List.fst_mem_of_mem_zipIdx hc

/-- Every event of a turn is about the invocation whose turn it is. -/
theorem Turn.event_index (h : Turn e t events next) {event : Event} (hmem : event ∈ events) :
    event.index = t.index := by
  cases h with
  | enqueued spec hspec hfrom hholder => cases hmem
  | entered spec hspec hfrom finish hfinish hholder => cases hmem
  | begins spec hspec hfrom finish hfinish hholder => cases hmem
  | refused spec hspec hfrom fault q hq =>
      rw [List.mem_singleton.1 hmem]
      rfl
  | served spec hspec hfrom target q hq htarget =>
      rcases List.mem_cons.1 hmem with rfl | hmem
      · rfl
      · rw [List.mem_singleton.1 hmem]
        rfl
  | untargeted hspec hfrom =>
      rw [List.mem_singleton.1 hmem]
      rfl
  | ended target finish outcome hfrom => cases hmem

/-! ## The turn and its poll -/

/-- What an invocation is dealt in its turn. -/
inductive Dealt (e : Execution) (t : Task) (events : List Event) (next : Execution) : Prop where
  /-- It polls its resolution, with what that has reached and the pool then. -/
  | polled (spec : TargetSpec) (hspec : t.invocation.target = some spec)
      (phase reached : Resolution) (q : Pool)
      (hfrom : t.progress = .starting ∧ phase = .arriving ∨
        t.progress = .resolving (t.invocation.request spec) phase)
      (hreached : e.pool.Reached (t.invocation.request spec) e.now phase reached q)
      (hpolled : e.pool.Polled t.index (t.invocation.request spec) e.now phase reached q)
      (hpool : next.pool.Alike q)
      (hsettled : ∀ (index : Nat) (answer : Except Pool.Fault Nat),
        .settled index answer ∈ events ↔ index = t.index ∧ reached = .settled answer)
      (hcalled : ∀ (index number : Nat) (call : ExecutorCall), .called index number call ∈ events →
        ∃ serial, reached = .settled (.ok serial) ∧ call.target = q.target? serial)
      (hput : (∀ answer, reached ≠ .settled answer) → ∃ u ∈ next.tasks, u.index = t.index ∧
        u.invocation = t.invocation ∧ u.progress = .resolving (t.invocation.request spec) reached)
  /-- It needs no target. -/
  | untargeted (hspec : t.invocation.target = none) (hfrom : t.progress = .starting)
      (hpool : next.pool.Alike e.pool)
      (hsettled : ∀ (index : Nat) (answer : Except Pool.Fault Nat), .settled index answer ∉ events)
  /-- Its body has ended. -/
  | ended (target : Option Target) (finish : Nat) (outcome : Outcome)
      (hfrom : t.progress = .running target finish outcome) (hpool : next.pool.Alike e.pool)
      (hevents : events = [])

/-- What is dealt when a resolution is polled. -/
theorem dealt_of_poll {spec : TargetSpec} {phase : Resolution} (ht : t ∈ e.tasks)
    (hspec : t.invocation.target = some spec)
    (hknown : (e.pool.registry.provider? spec.platform).isSome = true)
    (hfrom : t.progress = .starting ∧ phase = .arriving ∨
      t.progress = .resolving (t.invocation.request spec) phase)
    (hphase : phase = .arriving ∧ (∀ key, (key, t.index) ∉ e.pool.slots) ∨ phase = .queued ∨
      ∃ finish, phase = .building finish) :
    Dealt e t (e.eventsOf t (e.goOnResolving t (t.invocation.request spec) phase))
      (e.goOnResolving t (t.invocation.request spec) phase) := by
  have hpolled := Pool.poll_polled e.pool t.index (t.invocation.request spec) e.now phase hphase
  have hunsettled : ∀ answer, phase ≠ .settled answer := by
    rcases hphase with ⟨rfl, -⟩ | rfl | ⟨finish, rfl⟩ <;> nofun
  have hreached := Pool.poll_reached e.pool t.index (t.invocation.request spec) e.now phase hknown
    hunsettled
  have hsettlement : e.settlement? t =
      (e.pool.poll t.index (t.invocation.request spec) e.now phase).1.answer? := by
    rcases hfrom with ⟨hfrom, rfl⟩ | hfrom
    · simp only [settlement?, hfrom, hspec, Option.bind_some]
    · simp only [settlement?, hfrom]
  rw [goOnResolving_eq_afterPoll]
  generalize e.pool.poll t.index (t.invocation.request spec) e.now phase = out at *
  obtain ⟨reached, q⟩ := out
  let woken := { e with pool := q }.wake (t.invocation.request spec).slot
    (e.pool.slots.holder? (t.invocation.request spec).slot)
  have hpool : woken.pool = q := pool_wake _ _ _
  have hcalls : woken.calls = e.calls := by simp only [woken, wake_eq]
  have htasks : t ∈ woken.tasks := by
    simp only [woken, wake_eq]
    exact ht
  refine .polled spec hspec phase reached q hfrom hreached hpolled ?_ ?_ ?_ ?_
  · have halike := alike_afterPoll woken t (t.invocation.request spec) reached
    rw [hpool] at halike
    exact halike
  · intro index answer
    rw [settled_mem_eventsOf, hsettlement]
    refine and_congr_right fun _ => ?_
    cases reached <;> simp [Resolution.answer?]
  · intro index number call hcall
    have hnew := called_mem_eventsOf hcall
    rcases calls_afterPoll woken t (t.invocation.request spec) reached with hnone | ⟨serial, h, hone⟩
    · rw [hnone, hcalls, List.drop_length] at hnew
      cases hnew
    · rw [hone, hcalls, List.drop_left, List.mem_singleton] at hnew
      rw [hnew, hpool]
      exact ⟨serial, h, rfl⟩
  · exact exists_mem_afterPoll htasks _

/-- **What an invocation is dealt in its turn**, if its kind is answered to. -/
theorem goOn_dealt (ht : t ∈ e.tasks) (hfits : t.progress.Fits t.invocation)
    (hknown : ∀ spec, t.invocation.target = some spec →
      (e.pool.registry.provider? spec.platform).isSome = true)
    (hgo : t.CanGo e.pool.slots e.now)
    (habsent : t.progress = .starting → ∀ key, (key, t.index) ∉ e.pool.slots) :
    Dealt e t (e.eventsOf t (e.goOn t)) (e.goOn t) := by
  generalize hprogress : t.progress = progress at hfits
  cases hfits with
  | starting =>
      cases hspec : t.invocation.target with
      | none =>
          have hnext : e.goOn t = e.runBody t none := by simp only [goOn, hprogress, hspec]
          rw [hnext]
          refine .untargeted hspec hprogress (alike_runBody e t none) fun index answer hmem => ?_
          have hsettlement : e.settlement? t = none := by
            simp only [settlement?, hprogress, hspec, Option.bind_none]
          rw [settled_mem_eventsOf, hsettlement] at hmem
          cases hmem.2
      | some spec =>
          have hnext : e.goOn t = e.goOnResolving t (t.invocation.request spec) .arriving := by
            simp only [goOn, hprogress, hspec]
          rw [hnext]
          exact dealt_of_poll ht hspec (hknown spec hspec) (.inl ⟨hprogress, rfl⟩)
            (.inl ⟨rfl, habsent hprogress⟩)
  | queued spec hspec =>
      have hnext : e.goOn t = e.goOnResolving t (t.invocation.request spec) .queued := by
        simp only [goOn, hprogress]
      rw [hnext]
      exact dealt_of_poll ht hspec (hknown spec hspec) (.inr hprogress) (.inr (.inl rfl))
  | building spec hspec finish =>
      have hnext : e.goOn t = e.goOnResolving t (t.invocation.request spec) (.building finish) := by
        simp only [goOn, hprogress]
      rw [hnext]
      exact dealt_of_poll ht hspec (hknown spec hspec) (.inr hprogress) (.inr (.inr ⟨finish, rfl⟩))
  | running target finish outcome =>
      have hdue : finish ≤ e.now := hgo.time finish (by rw [hprogress]; rfl)
      have hnext : e.goOn t = e.conclude t target outcome := by
        simp only [goOn, hprogress, if_pos hdue]
      rw [hnext]
      refine .ended target finish outcome hprogress (alike_conclude e t target outcome) ?_
      rw [eventsOf_of_calls_eq (calls_conclude _ _ _ _)]
      simp only [settlement?, hprogress]
      rfl

/-! ## Steps -/

variable {plan : List Invocation} {before : List ExecutorCall} {history : List Event}
  {executor : Executor} {limit : Option Duration}

/-- It is the turn of an invocation in flight, before the rest of the queue. -/
structure HasTurn (plan : List Invocation) (e : Execution) (t : Task) (rest : List Nat)
    (next : Execution) : Prop where
  /-- It is the first in the queue. -/
  ready : e.ready = t.index :: rest
  /-- It is in flight. -/
  mem : t ∈ e.tasks
  /-- It has its place in the plan. -/
  planned : plan[t.index]? = some t.invocation
  /-- Nothing keeps it from going on. -/
  canGo : t.CanGo e.pool.slots e.now
  /-- What happens. -/
  turn : Turn (e.take rest) t e.events next
  /-- What it is dealt. -/
  dealt : Dealt (e.take rest) t e.events next

/-- **A step is a turn, with what is dealt in it**, or time passes. -/
theorem Sound.step_dealt (h : Sound executor limit plan before history e)
    (hknown : ∀ i ∈ plan, ∀ spec, i.target = some spec →
      (e.pool.registry.provider? spec.platform).isSome = true)
    (hstep : e.step = some next) :
    (∃ t rest, HasTurn plan e t rest next) ∨
      ∃ time, e.ready = [] ∧ e.events = [] ∧ next = e.passTo time := by
  rcases h.step_cases hstep with ⟨t, rest, hready, ht, hgo, hturn⟩ | ⟨time, hready, -, hevents, rfl⟩
  · have hplan := h.placed.invocation t ht
    refine .inl ⟨t, rest, hready, ht, hplan, hgo, hturn, ?_⟩
    have hfound := h.placed.find?_eq ht
    have hnext : (e.take rest).goOn t = next := by
      simp only [Execution.step, hready, hfound, Option.some.injEq] at hstep
      exact hstep
    have hevents : e.events = (e.take rest).eventsOf t next := by
      simp only [Execution.events, current?, hready, List.head?_cons, Option.bind_some, hfound,
        hstep]
      rfl
    -- an invocation that has just started stands at no slot
    have habsent : t.progress = .starting → ∀ key, (key, t.index) ∉ (e.take rest).pool.slots := by
      intro hstart key hmem
      have hslot := (h.scheduled.standsAt h.placed ht key).1 hmem
      rw [hstart] at hslot
      cases hslot
    have hdealt := goOn_dealt (e := e.take rest) ht (h.placed.fits t ht)
      (hknown t.invocation (List.mem_of_getElem? hplan)) hgo habsent
    rw [hnext, ← hevents] at hdealt
    exact hdealt
  · exact .inr ⟨time, hready, hevents, rfl⟩

end Execution

end TestBench
