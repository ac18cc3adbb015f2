import TestBench.Proofs.ResolutionPolls
import TestBench.Session.Execution

/-!
# The turn of an invocation

An execution goes on by giving turns to its invocations. `Execution.Turn` has a case for everything
that can happen in one turn, with all that is known there, and `Execution.goOn_turn` is the only
place where the definitions behind it are opened.

What can be observed of a turn are its `Execution.Event`s: the resolution of an invocation settles,
and the executor is called. The settlement is read off the poll that the turn makes, and the calls
off the calls that are there after the turn and were not before. `Execution.trace` lists the events
of a run.
-/

set_option autoImplicit false

namespace TestBench

/-! ## Progress -/

namespace Progress

/-- The slot at whose queue an invocation stands. -/
def slot? : Progress → Option SlotKey
  | .resolving r _ => some r.slot
  | _ => none

/-- The slot whose head an invocation waits to become. -/
def awaited? : Progress → Option SlotKey
  | .resolving r .queued => some r.slot
  | _ => none

/-- The time that an invocation waits for. -/
def deadline? : Progress → Option Nat
  | .resolving _ (.building finish) => some finish
  | .running _ finish _ => some finish
  | _ => none

/-- The progress that an invocation can have between its turns. -/
inductive Fits (i : Invocation) : Progress → Prop where
  /-- It has just started. -/
  | starting : Fits i .starting
  /-- It needs a target and is in the queue of the slot. -/
  | queued (spec : TargetSpec) (h : i.target = some spec) :
      Fits i (.resolving (i.request spec) .queued)
  /-- It needs a target, which is being built. -/
  | building (spec : TargetSpec) (h : i.target = some spec) (finish : Nat) :
      Fits i (.resolving (i.request spec) (.building finish))
  /-- Its body is running. -/
  | running (target : Option Target) (finish : Nat) (outcome : Outcome) :
      Fits i (.running target finish outcome)

/-- An invocation that needs a target and has none yet. -/
inductive Seeks (r : Request) : Progress → Prop where
  | starting : Seeks r .starting
  | queued : Seeks r (.resolving r .queued)
  | building (finish : Nat) : Seeks r (.resolving r (.building finish))

end Progress

/-- The answer of a resolution, if it is over. -/
def Resolution.answer? : Resolution → Option (Except Pool.Fault Nat)
  | .settled answer => some answer
  | _ => none

/-- Nothing keeps an invocation from going on at some time: its own time has come, and it is at the
head of its slot. -/
structure Task.CanGo (t : Task) (slots : SlotQueue) (now : Nat) : Prop where
  /-- What it waits for is over. -/
  time : ∀ finish, t.progress.deadline? = some finish → finish ≤ now
  /-- It is at the head of its slot. -/
  slot : ∀ key, t.progress.awaited? = some key → slots.holder? key = some t.index

namespace Execution

variable {e : Execution} {t : Task}

/-! ## Events -/

/-- What can be observed of an execution. -/
inductive Event where
  /-- The resolution of an invocation settles. -/
  | settled (index : Nat) (answer : Except Pool.Fault Nat)
  /-- The executor is called for an invocation, after so many other calls. -/
  | called (index number : Nat) (call : ExecutorCall)

/-- The place of the invocation that an event is about. -/
def Event.index : Event → Nat
  | .settled index _ => index
  | .called index _ _ => index

/-- The call that an event is, with the number of calls before it. -/
def Event.call? : Event → Option (ExecutorCall × Nat)
  | .settled _ _ => none
  | .called _ number call => some (call, number)

/-- The answer with which the resolution of an invocation settles in its turn. -/
def settlement? (e : Execution) (t : Task) : Option (Except Pool.Fault Nat) :=
  match t.progress with
  | .starting =>
      t.invocation.target.bind fun spec =>
        (e.pool.poll t.index (t.invocation.request spec) e.now .arriving).1.answer?
  | .resolving r phase => (e.pool.poll t.index r e.now phase).1.answer?
  | .running _ _ _ => none

/-- The events between two executions, while it is the turn of an invocation. -/
def eventsOf (e : Execution) (t : Task) (next : Execution) : List Event :=
  (e.settlement? t).toList.map (.settled t.index) ++
    ((next.calls.drop e.calls.length).zipIdx e.calls.length).map fun c => .called t.index c.2 c.1

/-- The invocation whose turn it is, if it is not time that passes. -/
def current? (e : Execution) : Option Task :=
  e.ready.head?.bind fun index => e.tasks.find? fun t => t.index == index

/-- The events of one step. -/
def events (e : Execution) : List Event :=
  match e.current?, e.step with
  | some t, some next => e.eventsOf t next
  | _, _ => []

/-- The events of so many steps, or of fewer if nothing is left to do. -/
def trace : Nat → Execution → List Event
  | 0, _ => []
  | n + 1, e =>
      match e.step with
      | none => []
      | some next => e.events ++ trace n next

/-! ## Calls -/

@[simp] theorem calls_fillFrom (l : List Invocation) (e : Execution) :
    (e.fillFrom l).calls = e.calls := by
  induction l generalizing e with
  | nil => rfl
  | cons i rest ih =>
      rw [fillFrom]
      split
      · exact ih (e.begin i)
      · rfl

@[simp] theorem calls_conclude (e : Execution) (t : Task) (target : Option Target)
    (outcome : Outcome) : (e.conclude t target outcome).calls = e.calls :=
  calls_fillFrom _ _

/-- **A body is run by one call.** -/
theorem calls_runBody (e : Execution) (t : Task) (target : Option Target) :
    (e.runBody t target).calls = e.calls ++ [⟨t.invocation, target⟩] := by
  rw [runBody]
  simp only
  split
  · exact calls_conclude _ _ _ _
  · rfl

theorem eventsOf_of_calls_eq {next : Execution} (h : next.calls = e.calls) :
    e.eventsOf t next = (e.settlement? t).toList.map (.settled t.index) := by
  simp [eventsOf, h]

theorem eventsOf_of_calls_concat {next : Execution} {call : ExecutorCall}
    (h : next.calls = e.calls ++ [call]) :
    e.eventsOf t next = (e.settlement? t).toList.map (.settled t.index) ++
      [.called t.index e.calls.length call] := by
  simp [eventsOf, h]

/-! ## Giving up a slot -/

/-- Who has come to the head of a slot, if somebody else was there before. -/
def woken : Option Nat → Option Nat → List Nat
  | some old, some next => if old = next then [] else [next]
  | _, _ => []

theorem wake_eq (e : Execution) (key : SlotKey) (before : Option Nat) :
    e.wake key before =
      { e with ready := e.ready ++ woken before (e.pool.slots.holder? key) } := by
  cases before with
  | none => simp [wake, woken]
  | some old =>
      cases hh : e.pool.slots.holder? key with
      | none => simp [wake, woken, hh]
      | some next =>
          by_cases heq : old = next <;> simp [wake, woken, hh, heq]

/-- The execution after an invocation has joined the queue of a slot. -/
def enqueue (e : Execution) (index : Nat) (key : SlotKey) : Execution :=
  { e with pool := { e.pool with slots := e.pool.slots.join key index } }

/-- Nobody comes to the head of a slot when somebody joins its queue. -/
theorem wake_join (e : Execution) (key : SlotKey) (index : Nat) :
    { e with pool := { e.pool with slots := e.pool.slots.join key index } }.wake key
        (e.pool.slots.holder? key) = e.enqueue index key := by
  rw [wake_eq, enqueue]
  simp only [SlotQueue.holder?_join]
  cases e.pool.slots.holder? key with
  | none => simp [woken]
  | some old => simp [woken]

theorem wake_self (e : Execution) (key : SlotKey) : e.wake key (e.pool.slots.holder? key) = e := by
  rw [wake_eq]
  cases e.pool.slots.holder? key with
  | none => simp [woken]
  | some old => simp [woken]

/-- The execution after the resolution of an invocation has settled with some pool: the slot of the
invocation is free, and the next one there can go on. -/
def passOn (e : Execution) (index : Nat) (key : SlotKey) (pool : Pool) : Execution :=
  { e with
    pool := { pool with slots := e.pool.slots.leave index }
    ready := e.ready ++
      woken (e.pool.slots.holder? key) ((e.pool.slots.leave index).holder? key) }

theorem wake_leave (e : Execution) (key : SlotKey) (index : Nat) (pool : Pool) :
    { e with pool := { pool with slots := e.pool.slots.leave index } }.wake key
        (e.pool.slots.holder? key) = e.passOn index key pool :=
  wake_eq _ _ _

/-! ## One turn -/

/-- Everything that can happen when it is the turn of an invocation: the events, and the execution
after them. -/
inductive Turn (e : Execution) (t : Task) : List Event → Execution → Prop where
  /-- It joins the queue of its slot, which somebody else holds. -/
  | enqueued (spec : TargetSpec) (hspec : t.invocation.target = some spec)
      (hfrom : t.progress = .starting)
      (hholder : (e.pool.slots.join (t.invocation.request spec).slot t.index).holder?
        (t.invocation.request spec).slot ≠ some t.index) :
      Turn e t []
        (put (e.enqueue t.index (t.invocation.request spec).slot) t.index
          (.resolving (t.invocation.request spec) .queued))
  /-- It holds its slot, which was free, and its target is being built. -/
  | entered (spec : TargetSpec) (hspec : t.invocation.target = some spec)
      (hfrom : t.progress = .starting) (finish : Nat) (hfinish : e.now < finish)
      (hholder : (e.pool.slots.join (t.invocation.request spec).slot t.index).holder?
        (t.invocation.request spec).slot = some t.index) :
      Turn e t []
        (waitUntil
          (put (e.enqueue t.index (t.invocation.request spec).slot) t.index
            (.resolving (t.invocation.request spec) (.building finish)))
          t.index finish)
  /-- It has come to the head of its slot, and its target is being built. -/
  | begins (spec : TargetSpec) (hspec : t.invocation.target = some spec)
      (hfrom : t.progress = .resolving (t.invocation.request spec) .queued) (finish : Nat)
      (hfinish : e.now < finish)
      (hholder : e.pool.slots.holder? (t.invocation.request spec).slot = some t.index) :
      Turn e t []
        (waitUntil (put e t.index (.resolving (t.invocation.request spec) (.building finish)))
          t.index finish)
  /-- It gets no target. -/
  | refused (spec : TargetSpec) (hspec : t.invocation.target = some spec)
      (hfrom : t.progress.Seeks (t.invocation.request spec)) (fault : Pool.Fault) (q : Pool)
      (h : Pool.Settled e.pool (t.invocation.request spec) (.error fault) q) :
      Turn e t [.settled t.index (.error fault)]
        (conclude (e.passOn t.index (t.invocation.request spec).slot q) t none
          (.errored fault.message))
  /-- It gets a target, on which its body is run. -/
  | served (spec : TargetSpec) (hspec : t.invocation.target = some spec)
      (hfrom : t.progress.Seeks (t.invocation.request spec)) (target : Target) (q : Pool)
      (h : Pool.Settled e.pool (t.invocation.request spec) (.ok target.serial) q)
      (htarget : q.target? target.serial = some target) :
      Turn e t
        [.settled t.index (.ok target.serial),
          .called t.index e.calls.length ⟨t.invocation, some target⟩]
        (runBody (e.passOn t.index (t.invocation.request spec).slot q) t (some target))
  /-- It needs no target, and its body is run. -/
  | untargeted (hspec : t.invocation.target = none) (hfrom : t.progress = .starting) :
      Turn e t [.called t.index e.calls.length ⟨t.invocation, none⟩] (runBody e t none)
  /-- Its body has ended. -/
  | ended (target : Option Target) (finish : Nat) (outcome : Outcome)
      (hfrom : t.progress = .running target finish outcome) :
      Turn e t [] (conclude e t target outcome)

/-- A turn without settlement and call. -/
theorem Turn.silent {next : Execution} (h : Turn e t [] next) (hsettlement : e.settlement? t = none)
    (hcalls : next.calls = e.calls) : Turn e t (e.eventsOf t next) next := by
  rw [eventsOf_of_calls_eq hcalls, hsettlement]
  exact h

/-- A turn in which a resolution settles. -/
theorem turn_of_settled {spec : TargetSpec} {phase : Resolution} {answer : Except Pool.Fault Nat}
    {q : Pool} (hspec : t.invocation.target = some spec)
    (hfrom : t.progress.Seeks (t.invocation.request spec))
    (hsettlement : e.settlement? t = some answer)
    (h : Pool.Settled e.pool (t.invocation.request spec) answer q)
    (hpoll : e.pool.poll t.index (t.invocation.request spec) e.now phase =
      (.settled answer, { q with slots := e.pool.slots.leave t.index })) :
    Turn e t (e.eventsOf t (e.goOnResolving t (t.invocation.request spec) phase))
      (e.goOnResolving t (t.invocation.request spec) phase) := by
  cases answer with
  | error fault =>
      have hnext : e.goOnResolving t (t.invocation.request spec) phase =
          conclude (e.passOn t.index (t.invocation.request spec).slot q) t none
            (.errored fault.message) := by
        simp only [goOnResolving, hpoll, wake_leave]
      have hcalls : (conclude (e.passOn t.index (t.invocation.request spec).slot q) t none
          (.errored fault.message)).calls = e.calls := calls_conclude _ _ _ _
      rw [hnext, eventsOf_of_calls_eq hcalls, hsettlement]
      exact .refused spec hspec hfrom fault q h
  | ok serial =>
      -- the body is run on the target with the leased number, which is in the pool
      obtain ⟨target, htarget, rfl⟩ := h.exists_target
      have hnext : e.goOnResolving t (t.invocation.request spec) phase =
          runBody (e.passOn t.index (t.invocation.request spec).slot q) t (some target) := by
        simp only [goOnResolving, hpoll, wake_leave]
        exact congrArg (runBody _ t) htarget
      have hcalls : (runBody (e.passOn t.index (t.invocation.request spec).slot q) t
          (some target)).calls = e.calls ++ [⟨t.invocation, some target⟩] := calls_runBody _ _ _
      rw [hnext, eventsOf_of_calls_concat hcalls, hsettlement]
      exact .served spec hspec hfrom target q h htarget

/-- **A turn has these outcomes only.** -/
theorem goOn_turn (e : Execution) (t : Task) (hfits : t.progress.Fits t.invocation)
    (hgo : t.CanGo e.pool.slots e.now)
    (habsent : t.progress = .starting → ∀ key, (key, t.index) ∉ e.pool.slots) :
    Turn e t (e.eventsOf t (e.goOn t)) (e.goOn t) := by
  obtain ⟨index, invocation, progress⟩ := t
  simp only at hfits
  cases hfits with
  | starting =>
      cases hspec : invocation.target with
      | none =>
          have hnext : e.goOn ⟨index, invocation, .starting⟩ =
              e.runBody ⟨index, invocation, .starting⟩ none := by
            simp only [goOn, hspec]
          rw [hnext, eventsOf_of_calls_concat (calls_runBody _ _ _)]
          simp only [settlement?, hspec]
          exact .untargeted hspec rfl
      | some spec =>
          have hnext : e.goOn ⟨index, invocation, .starting⟩ =
              e.goOnResolving ⟨index, invocation, .starting⟩ (invocation.request spec)
                .arriving := by
            simp only [goOn, hspec]
          rw [hnext]
          have hpolled := Pool.poll_polled e.pool index (invocation.request spec) e.now .arriving
            (.inl ⟨rfl, habsent rfl⟩)
          generalize hpoll : e.pool.poll index (invocation.request spec) e.now .arriving = out
            at hpolled
          obtain ⟨next, pool⟩ := out
          have hsettlement : e.settlement? ⟨index, invocation, .starting⟩ = next.answer? := by
            simp only [settlement?, hspec, Option.bind_some, hpoll]
          cases hpolled with
          | settled _ answer q h => exact turn_of_settled hspec .starting hsettlement h hpoll
          | enqueued h =>
              simp only [goOnResolving, hpoll, wake_join]
              exact (Turn.enqueued spec hspec rfl h).silent hsettlement rfl
          | entered finish h hholder =>
              simp only [goOnResolving, hpoll, wake_join]
              exact (Turn.entered spec hspec rfl finish h hholder).silent hsettlement rfl
  | queued spec hspec =>
      have hpolled := Pool.poll_polled e.pool index (invocation.request spec) e.now .queued
        (.inr (.inl rfl))
      generalize hpoll : e.pool.poll index (invocation.request spec) e.now .queued = out at hpolled
      obtain ⟨next, pool⟩ := out
      have hsettlement : e.settlement?
          ⟨index, invocation, .resolving (invocation.request spec) .queued⟩ = next.answer? := by
        simp only [settlement?, hpoll]
      cases hpolled with
      | settled _ answer q h => exact turn_of_settled hspec .queued hsettlement h hpoll
      -- it would not have had its turn before it was at the head
      | waits h => exact absurd (hgo.slot _ rfl) h
      | begins finish h hholder =>
          simp only [goOn, goOnResolving, hpoll, wake_self]
          exact (Turn.begins spec hspec rfl finish h hholder).silent hsettlement rfl
  | building spec hspec finish =>
      have hpolled := Pool.poll_polled e.pool index (invocation.request spec) e.now
        (.building finish) (.inr (.inr ⟨finish, rfl⟩))
      generalize hpoll : e.pool.poll index (invocation.request spec) e.now (.building finish) = out
        at hpolled
      obtain ⟨next, pool⟩ := out
      have hsettlement : e.settlement?
          ⟨index, invocation, .resolving (invocation.request spec) (.building finish)⟩ =
            next.answer? := by
        simp only [settlement?, hpoll]
      cases hpolled with
      | settled _ answer q h => exact turn_of_settled hspec (.building finish) hsettlement h hpoll
      -- nor before its time
      | works _ h => exact absurd (hgo.time finish rfl) (Nat.not_le_of_lt h)
  | running target finish outcome =>
      have hnext : e.goOn ⟨index, invocation, .running target finish outcome⟩ =
          e.conclude ⟨index, invocation, .running target finish outcome⟩ target outcome :=
        if_pos (hgo.time finish rfl)
      rw [hnext]
      exact (Turn.ended target finish outcome rfl).silent rfl (calls_conclude _ _ _ _)

end Execution

end TestBench
