import TestBench.Fleet.Resolution
import TestBench.Session.Invocation

/-!
# Executing a plan

The invocations of a plan run side by side, a limited number of them at a time, and are reported in
the order of the plan. An invocation gets a target if it needs one, runs its body, and drops its lease.
Whatever happens to one of them, the others go on.

An `Execution` is the state in the middle. Invocations that can go on are in a queue, and the first of
them goes on until it is done or has to wait. It may wait for the slot of its request, for its target to
be built, or for its body. When nobody can go on, time passes until the first of those that wait for
it. The next invocation of the plan starts as soon as fewer than the limit are between the first one
that is not done and the last one that was started.
-/

set_option autoImplicit false

namespace TestBench

/-- How far an invocation has come. -/
inductive Progress where
  /-- It has just started. -/
  | starting
  /-- It is getting a target. -/
  | resolving (r : Request) (phase : Resolution)
  /-- Its body is running, until some time and with an outcome that will be. -/
  | running (target : Option Target) (finish : Nat) (outcome : Outcome)

/-- An invocation in flight. -/
structure Task where
  /-- The place of the invocation in the plan. -/
  index : Nat
  /-- The invocation. -/
  invocation : Invocation
  /-- How far it has come. -/
  progress : Progress

/-- A plan that is being executed. -/
structure Execution where
  /-- How many invocations may be in flight. -/
  width : Nat
  /-- The time that a body may take. -/
  limit : Option Duration
  /-- What runs the bodies. -/
  executor : Executor
  /-- Where the targets come from. -/
  pool : Pool
  /-- The time, in milliseconds. -/
  now : Nat
  /-- The invocations that have not started. -/
  unstarted : List Invocation
  /-- How many have started. -/
  started : Nat
  /-- The invocations in flight, in the order of the plan. -/
  tasks : List Task
  /-- The places of those that can go on. -/
  ready : List Nat
  /-- The places of those that wait for a time, in the order in which they began to. -/
  timers : List (Nat × Nat)
  /-- The reports so far, each with its place, in the order of the plan. -/
  reports : List (Nat × InvocationReport)
  /-- The calls to the executor so far. -/
  calls : List ExecutorCall

namespace Execution

/-! ## Starting -/

/-- The place of the first invocation that is not done. -/
def oldest (e : Execution) : Nat := (e.tasks.head?.map (·.index)).getD e.started

/-- Starts an invocation. -/
def begin (e : Execution) (i : Invocation) : Execution :=
  { e with
    tasks := e.tasks ++ [⟨e.started, i, .starting⟩]
    ready := e.ready ++ [e.started]
    started := e.started + 1 }

/-- Starts as many of the given invocations as there is room for. -/
def fillFrom (e : Execution) : List Invocation → Execution
  | [] => { e with unstarted := [] }
  | i :: rest =>
      if e.started < e.oldest + e.width then fillFrom (e.begin i) rest
      else { e with unstarted := i :: rest }

/-- Starts as many invocations as there is room for. -/
def fill (e : Execution) : Execution := e.fillFrom e.unstarted

/-! ## Going on -/

/-- Puts an invocation back, with its progress. -/
def put (e : Execution) (index : Nat) (progress : Progress) : Execution :=
  { e with
    tasks := e.tasks.map fun t => if t.index = index then { t with progress := progress } else t }

/-- Lets an invocation wait for a time. -/
def waitUntil (e : Execution) (index finish : Nat) : Execution :=
  { e with timers := e.timers ++ [(finish, index)] }

/-- The reports with one more at its place. -/
def insertReport (index : Nat) (r : InvocationReport) :
    List (Nat × InvocationReport) → List (Nat × InvocationReport)
  | [] => [(index, r)]
  | (n, s) :: rest =>
      if index < n then (index, r) :: (n, s) :: rest else (n, s) :: insertReport index r rest

/-- Reports an invocation, which is done. -/
def conclude (e : Execution) (t : Task) (target : Option Target) (outcome : Outcome) : Execution :=
  fill { e with
    pool := match target with
      | some target => e.pool.release target.serial
      | none => e.pool
    tasks := e.tasks.filter fun u => u.index != t.index
    reports := insertReport t.index
      (t.invocation.report (target.map (·.id)) outcome) e.reports }

/-- Runs the body of an invocation. -/
def runBody (e : Execution) (t : Task) (target : Option Target) : Execution :=
  let body := e.executor e.calls.length t.invocation target
  let e := { e with calls := e.calls ++ [ExecutorCall.mk t.invocation target] }
  let (wait, outcome) := body.limited e.limit
  if wait = 0 then e.conclude t target outcome
  else (e.put t.index (.running target (e.now + wait) outcome)).waitUntil t.index (e.now + wait)

/-- Lets the one go on that has come to the head of a slot, if somebody else was there before. -/
def wake (e : Execution) (key : SlotKey) (before : Option Nat) : Execution :=
  match before, e.pool.slots.holder? key with
  | some old, some next => if old = next then e else { e with ready := e.ready ++ [next] }
  | _, _ => e

/-- Goes on with getting a target. -/
def goOnResolving (e : Execution) (t : Task) (r : Request) (phase : Resolution) : Execution :=
  let before := e.pool.slots.holder? r.slot
  let (phase, pool) := e.pool.poll t.index r e.now phase
  let e := { e with pool := pool }.wake r.slot before
  match phase with
  | .settled (.ok serial) => e.runBody t (e.pool.target? serial)
  | .settled (.error f) => e.conclude t none (.errored f.message)
  | .building finish => (e.put t.index (.resolving r phase)).waitUntil t.index finish
  | _ => e.put t.index (.resolving r phase)

/-- Goes on with an invocation until it is done or has to wait. -/
def goOn (e : Execution) (t : Task) : Execution :=
  match t.progress with
  | .starting =>
      match t.invocation.target with
      | none => e.runBody t none
      | some spec => e.goOnResolving t (t.invocation.request spec) .arriving
  | .resolving r phase => e.goOnResolving t r phase
  | .running target finish outcome => if finish ≤ e.now then e.conclude t target outcome else e

/-! ## Steps -/

/-- The first time that somebody waits for. -/
def nextTime? (e : Execution) : Option Nat := (e.timers.map (·.1)).min?

/-- Lets time pass. -/
def passTo (e : Execution) (time : Nat) : Execution :=
  { e with
    now := max e.now time
    ready := (e.timers.filter fun w => decide (w.1 ≤ time)).map (·.2)
    timers := e.timers.filter fun w => !decide (w.1 ≤ time) }

/-- One step: the first invocation in the queue goes on, or time passes if the queue is empty. -/
def step (e : Execution) : Option Execution :=
  match e.ready with
  | index :: rest =>
      let e := { e with ready := rest }
      match e.tasks.find? fun t => t.index == index with
      | some t => some (e.goOn t)
      | none => some e
  | [] => e.nextTime?.map e.passTo

/-- So many steps, or fewer if nothing is left to do. -/
def run : Nat → Execution → Execution
  | 0, e => e
  | n + 1, e =>
      match e.step with
      | none => e
      | some e => run n e

/-- The execution of a plan before its first step. -/
def start (width : Nat) (limit : Option Duration) (executor : Executor) (pool : Pool)
    (calls : List ExecutorCall) (plan : List Invocation) : Execution :=
  fill ⟨width, limit, executor, pool, 0, plan, 0, [], [], [], [], calls⟩

/-- How many steps a plan of so many invocations takes at most. Each of them goes on at most four
times, at its start, at the head of its slot, with its target and after its body, and waits for a time
at most twice. -/
def stepBound (count : Nat) : Nat := 6 * count + 1

/-- The execution of a plan after its last step. -/
def complete (width : Nat) (limit : Option Duration) (executor : Executor) (pool : Pool)
    (calls : List ExecutorCall) (plan : List Invocation) : Execution :=
  (start width limit executor pool calls plan).run (stepBound plan.length)

/-- The reports in the order of the plan. -/
def results (e : Execution) : List InvocationReport := e.reports.map (·.2)

end Execution

end TestBench
