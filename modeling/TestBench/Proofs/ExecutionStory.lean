import TestBench.Proofs.ExecutionPlaces

/-!
# What happened to each invocation

The events of an execution that are about one invocation tell its story, and its report follows from
them: `Execution.Told` has the three stories there are. An invocation that needs no target makes one
call; one that gets a target makes one call with it; one that gets none makes no call, and its
report has the text of the fault.

`Execution.Recounted` says of an execution and its history that every report has its story, that the
body of every invocation in flight that has one is running after its story, and that nothing is told
of the others. It is preserved by the operations of a turn, one after the other.
-/

set_option autoImplicit false

namespace TestBench

/-! ## Endings -/

/-- A body ends before a limit. -/
def Body.InTime (b : Body) (limit : Option Duration) : Prop :=
  ∀ d, limit = some d → b.wait ≤ d.ticks

/-- What a body comes to under a limit. -/
inductive Body.EndsAs (b : Body) (limit : Option Duration) : Outcome → Prop where
  /-- A pass is kept. -/
  | passed (htime : b.InTime limit) (h : b.ending = .passed) : EndsAs b limit .passed
  /-- A failure is kept with its text. -/
  | failed (htime : b.InTime limit) (message : String) (h : b.ending = .failed message) :
      EndsAs b limit (.failed message)
  /-- A skip is kept with its text. -/
  | skipped (htime : b.InTime limit) (reason : String) (h : b.ending = .skipped reason) :
      EndsAs b limit (.skipped reason)
  /-- A body without a verdict is an error, with the chain of its causes. -/
  | raised (htime : b.InTime limit) (causes : List String) (h : b.ending = .raised causes) :
      EndsAs b limit (.errored (": ".intercalate causes))
  /-- A body that breaks down is an error. -/
  | brokeDown (htime : b.InTime limit) (h : b.ending = .brokeDown) :
      EndsAs b limit (.errored "test body panicked")
  /-- A body that is late is an error, however it would have ended. -/
  | late (d : Duration) (hlimit : limit = some d) (hlate : d.ticks < b.wait) :
      EndsAs b limit (.errored s!"timed out after {d.text}")

theorem Body.endsAs_of_inTime {b : Body} {limit : Option Duration} (h : b.InTime limit) :
    b.EndsAs limit b.ending.outcome := by
  cases he : b.ending with
  | passed => exact .passed h he
  | failed message => exact .failed h message he
  | skipped reason => exact .skipped h reason he
  | raised causes => exact .raised h causes he
  | brokeDown => exact .brokeDown h he

/-- **A body comes to one of these outcomes.** -/
theorem Body.limited_endsAs (b : Body) (limit : Option Duration) :
    b.EndsAs limit (b.limited limit).2 := by
  cases limit with
  | none => exact endsAs_of_inTime nofun
  | some d =>
      rw [limited]
      split
      · next hle => exact endsAs_of_inTime fun _ heq => Option.some.inj heq ▸ hle
      · next hlate => exact .late d rfl (Nat.lt_of_not_le hlate)

namespace Execution

/-! ## Stories -/

/-- The story of the invocation at a place, and the report that follows from it. -/
inductive Told (executor : Executor) (limit : Option Duration) (index : Nat) (i : Invocation) :
    List Event → InvocationReport → Prop where
  /-- It needs no target, and the executor is called once. -/
  | untargeted (h : i.target = none) (number : Nat) (outcome : Outcome)
      (ho : (executor number i none).EndsAs limit outcome) :
      Told executor limit index i [.called index number ⟨i, none⟩] (i.report none outcome)
  /-- It gets a target, and the executor is called once with that target. -/
  | served (spec : TargetSpec) (h : i.target = some spec) (target : Target) (number : Nat)
      (outcome : Outcome) (ho : (executor number i (some target)).EndsAs limit outcome) :
      Told executor limit index i
        [.settled index (.ok target.serial), .called index number ⟨i, some target⟩]
        (i.report (some target.id) outcome)
  /-- It gets no target, and the executor is not called. -/
  | refused (spec : TargetSpec) (h : i.target = some spec) (fault : Pool.Fault) :
      Told executor limit index i [.settled index (.error fault)]
        (i.report none (.errored fault.message))

/-- The events about the invocation at a place. -/
def about (index : Nat) (history : List Event) : List Event :=
  history.filter fun event => event.index == index

theorem about_append (index : Nat) (history events : List Event) :
    about index (history ++ events) = about index history ++ about index events :=
  List.filter_append _ _

theorem about_eq_self {index : Nat} {events : List Event}
    (h : ∀ event ∈ events, event.index = index) : about index events = events :=
  List.filter_eq_self.2 fun event he => beq_iff_eq.2 (h event he)

theorem about_eq_nil {index : Nat} {events : List Event}
    (h : ∀ event ∈ events, event.index ≠ index) : about index events = [] :=
  List.filter_eq_nil_iff.2 fun event he => by simpa using h event he

/-- What has been told of an invocation in flight: nothing before its body runs, and then its story,
with the report that it will have. -/
def Recounts (executor : Executor) (limit : Option Duration) (t : Task) (events : List Event) :
    Prop :=
  match t.progress with
  | .running target _ outcome =>
      Told executor limit t.index t.invocation events
        (t.invocation.report (target.map (·.id)) outcome)
  | _ => events = []

/-- The history of an execution tells the stories of its invocations, but for the one in hand. -/
structure Recounted (executor : Executor) (limit : Option Duration) (plan : List Invocation)
    (before : List ExecutorCall) (history : List Event) (e : Execution) (hand : Option Nat) :
    Prop where
  /-- The calls in the history have been made, in their order, after the earlier ones. -/
  calls : e.calls.zipIdx = before.zipIdx ++ history.filterMap Event.call?
  /-- Nothing is told of invocations that have not started. -/
  started : ∀ event ∈ history, event.index < e.started
  /-- The invocations in flight. -/
  tasks : ∀ t ∈ e.tasks, hand ≠ some t.index → Recounts executor limit t (about t.index history)
  /-- The reported invocations. -/
  reports : ∀ entry ∈ e.reports, ∃ i, plan[entry.1]? = some i ∧
    Told executor limit entry.1 i (about entry.1 history) entry.2

namespace Recounted

variable {executor : Executor} {limit : Option Duration} {plan : List Invocation}
  {before : List ExecutorCall} {history : List Event} {e f : Execution} {t : Task}

theorem take (h : Recounted executor limit plan before history e none) (i : Nat) :
    Recounted executor limit plan before history e (some i) :=
  ⟨h.calls, h.started, fun u hu _ => h.tasks u hu nofun, h.reports⟩

theorem of_eq {hand : Option Nat} (h : Recounted executor limit plan before history e hand)
    (hcalls : f.calls = e.calls) (hstarted : f.started = e.started) (htasks : f.tasks = e.tasks)
    (hreports : f.reports = e.reports) :
    Recounted executor limit plan before history f hand := by
  constructor
  case calls =>
    rw [hcalls]
    exact h.calls
  case started =>
    rw [hstarted]
    exact h.started
  case tasks =>
    rw [htasks]
    exact h.tasks
  case reports =>
    rw [hreports]
    exact h.reports

theorem enqueue {hand : Option Nat} (h : Recounted executor limit plan before history e hand)
    (index : Nat) (key : SlotKey) :
    Recounted executor limit plan before history (e.enqueue index key) hand :=
  h.of_eq rfl rfl rfl rfl

theorem waitUntil {hand : Option Nat} (h : Recounted executor limit plan before history e hand)
    (index finish : Nat) :
    Recounted executor limit plan before history (e.waitUntil index finish) hand :=
  h.of_eq rfl rfl rfl rfl

/-- Something is observed of the invocation in hand. -/
theorem observe (h : Recounted executor limit plan before history e (some t.index))
    (hplaced : Placed plan e) (ht : t ∈ e.tasks) (events : List Event)
    (hevents : ∀ event ∈ events, event.index = t.index) (calls : List ExecutorCall)
    (hcalls : (e.calls ++ calls).zipIdx = e.calls.zipIdx ++ events.filterMap Event.call?) :
    Recounted executor limit plan before (history ++ events) { e with calls := e.calls ++ calls }
      (some t.index) := by
  -- the other invocations have the stories they had
  have hother : ∀ j, t.index ≠ j → about j (history ++ events) = about j history := by
    intro j hne
    have hnone : about j events = [] := about_eq_nil fun event he heq =>
      hne ((hevents event he).symm.trans heq)
    rw [about_append, hnone, List.append_nil]
  constructor
  case calls =>
    show (e.calls ++ calls).zipIdx = _
    rw [hcalls, h.calls, List.filterMap_append, List.append_assoc]
  case started =>
    intro event he
    rcases List.mem_append.1 he with he | he
    · exact h.started event he
    · rw [hevents event he]
      exact hplaced.index_lt ht
  case tasks =>
    intro u hu hne
    rw [hother u.index fun heq => hne (congrArg some heq)]
    exact h.tasks u hu hne
  case reports =>
    intro entry hentry
    -- a place that is in flight has no report yet
    have hne : t.index ≠ entry.1 := fun heq =>
      (List.nodup_append.1 hplaced.nodup).2.2 _ (List.mem_map_of_mem ht) _
        (List.mem_map_of_mem hentry) heq
    rw [hother entry.1 hne]
    exact h.reports entry hentry

/-- The resolution of the invocation in hand settles, and its slot is passed on. -/
theorem passOn (h : Recounted executor limit plan before history e (some t.index))
    (hplaced : Placed plan e) (ht : t ∈ e.tasks) (answer : Except Pool.Fault Nat) (key : SlotKey)
    (q : Pool) :
    Recounted executor limit plan before (history ++ [.settled t.index answer])
      (e.passOn t.index key q) (some t.index) := by
  have hsettled := h.observe hplaced ht [.settled t.index answer] (by simp [Event.index]) []
    (by simp [Event.call?])
  exact hsettled.of_eq (List.append_nil _).symm rfl rfl rfl

theorem put (h : Recounted executor limit plan before history e (some t.index))
    (hplaced : Placed plan e) (ht : t ∈ e.tasks) {progress : Progress}
    (hnew : Recounts executor limit { t with progress := progress } (about t.index history)) :
    Recounted executor limit plan before history (e.put t.index progress) none := by
  refine ⟨h.calls, h.started, fun u hu _ => ?_, h.reports⟩
  rcases mem_tasks_put.1 hu with ⟨hu, hne⟩ | ⟨v, hv, heq, rfl⟩
  · exact h.tasks u hu fun heq => hne (Option.some.inj heq).symm
  · rw [hplaced.eq_of_index_eq ht hv heq]
    exact hnew

theorem begin (h : Recounted executor limit plan before history e none) (i : Invocation)
    (rest : List Invocation) :
    Recounted executor limit plan before history { e.begin i with unstarted := rest } none := by
  refine ⟨h.calls, fun event he => Nat.lt_succ_of_lt (h.started event he), fun u hu hne => ?_,
    h.reports⟩
  rcases List.mem_append.1 hu with hu | hu
  · exact h.tasks u hu hne
  · rw [List.mem_singleton.1 hu]
    exact about_eq_nil fun event he => Nat.ne_of_lt (h.started event he)

theorem fill (h : Recounted executor limit plan before history e none) :
    Recounted executor limit plan before history e.fill none :=
  fill_induction (P := fun f => Recounted executor limit plan before history f none) h
    fun _ i rest _ hf => hf.begin i rest

theorem conclude (h : Recounted executor limit plan before history e (some t.index))
    (hplaced : Placed plan e) (ht : t ∈ e.tasks) {target : Option Target} {outcome : Outcome}
    (htold : Told executor limit t.index t.invocation (about t.index history)
      (t.invocation.report (target.map (·.id)) outcome)) :
    Recounted executor limit plan before history (e.conclude t target outcome) none := by
  refine Recounted.fill (e := e.retire t target outcome)
    ⟨h.calls, h.started, fun u hu _ => ?_, fun entry hentry => ?_⟩
  · obtain ⟨hu, hne⟩ := mem_tasks_retire.1 hu
    exact h.tasks u hu fun heq => hne (Option.some.inj heq).symm
  · rcases List.mem_cons.1 ((insertReport_perm _ _ _).mem_iff.1 hentry) with rfl | hentry
    · exact ⟨t.invocation, hplaced.invocation t ht, htold⟩
    · exact h.reports entry hentry

/-- The body of the invocation in hand is run by one call, which ends its story. -/
theorem runBody (h : Recounted executor limit plan before history e (some t.index))
    (hplaced : Placed plan e) (ht : t ∈ e.tasks) (hexecutor : e.executor = executor)
    (hlimit : e.limit = limit) (target : Option Target)
    (htold : ∀ outcome, (executor e.calls.length t.invocation target).EndsAs limit outcome →
      Told executor limit t.index t.invocation
        (about t.index history ++ [.called t.index e.calls.length ⟨t.invocation, target⟩])
        (t.invocation.report (target.map (·.id)) outcome)) :
    Recounted executor limit plan before
      (history ++ [.called t.index e.calls.length ⟨t.invocation, target⟩]) (e.runBody t target)
      none := by
  let call : Event := .called t.index e.calls.length ⟨t.invocation, target⟩
  have hcalled := h.observe hplaced ht [call] (by simp [call, Event.index])
    [⟨t.invocation, target⟩] (by simp [call, Event.call?, List.zipIdx_append])
  have hplaced' := hplaced.withCalls (e.calls ++ [⟨t.invocation, target⟩])
  have hends := (executor e.calls.length t.invocation target).limited_endsAs limit
  have habout : about t.index (history ++ [call]) = about t.index history ++ [call] := by
    rw [about_append]
    exact congrArg _ (about_eq_self (by simp [call, Event.index]))
  -- what the body has come to is known now, so the story has its end before the report is made
  have hstory := htold _ hends
  rw [← habout] at hstory
  subst hexecutor hlimit
  rw [Execution.runBody]
  simp only
  split
  · exact hcalled.conclude hplaced' ht hstory
  · refine Recounted.waitUntil ?_ _ _
    exact hcalled.put hplaced' ht hstory

end Recounted

/-- Nothing is told of an invocation before its body runs. -/
theorem Recounts.eq_nil {executor : Executor} {limit : Option Duration} {t : Task} {r : Request}
    {events : List Event} (h : Recounts executor limit t events) (hfrom : t.progress.Seeks r) :
    events = [] := by
  obtain ⟨index, invocation, progress⟩ := t
  cases hfrom with
  | starting => exact h
  | queued => exact h
  | building finish => exact h

/-- **Every turn goes on with the story of its invocation**, and leaves the other stories as they
are. -/
theorem Turn.recounted {executor : Executor} {limit : Option Duration} {plan : List Invocation}
    {before : List ExecutorCall} {history events : List Event} {e next : Execution} {t : Task}
    (h : Turn e t events next) (hplaced : Placed plan e) (ht : t ∈ e.tasks)
    (hexecutor : e.executor = executor) (hlimit : e.limit = limit)
    (hself : Recounts executor limit t (about t.index history))
    (hrecounted : Recounted executor limit plan before history e (some t.index)) :
    Recounted executor limit plan before (history ++ events) next none := by
  -- before its body runs nothing has been told of the invocation, so the events of the turn are its
  -- whole story so far
  cases h with
  | enqueued spec hspec hfrom hholder =>
      have hnil := hself.eq_nil (r := t.invocation.request spec) (hfrom ▸ .starting)
      rw [List.append_nil]
      exact (hrecounted.enqueue _ _).put (hplaced.enqueue _ _) ht hnil
  | entered spec hspec hfrom finish hfinish hholder =>
      have hnil := hself.eq_nil (r := t.invocation.request spec) (hfrom ▸ .starting)
      rw [List.append_nil]
      refine Recounted.waitUntil ?_ _ _
      exact (hrecounted.enqueue _ _).put (hplaced.enqueue _ _) ht hnil
  | begins spec hspec hfrom finish hfinish hholder =>
      have hnil := hself.eq_nil (r := t.invocation.request spec) (hfrom ▸ .queued)
      rw [List.append_nil]
      refine Recounted.waitUntil ?_ _ _
      exact hrecounted.put hplaced ht hnil
  | refused spec hspec hfrom fault q hq =>
      have hnil := hself.eq_nil hfrom
      have hpassed := hrecounted.passOn hplaced ht (.error fault)
        (t.invocation.request spec).slot q
      refine hpassed.conclude (hplaced.passOn _ _ q) ht ?_
      rw [about_append, hnil, List.nil_append, about_eq_self (by simp [Event.index])]
      exact .refused spec hspec fault
  | served spec hspec hfrom target q hq htarget =>
      have hnil := hself.eq_nil hfrom
      have hpassed := hrecounted.passOn hplaced ht (.ok target.serial)
        (t.invocation.request spec).slot q
      have hbody := hpassed.runBody (hplaced.passOn _ _ q) ht hexecutor hlimit (some target)
        fun outcome ho => by
          rw [about_append, hnil, List.nil_append, about_eq_self (by simp [Event.index])]
          exact .served spec hspec target _ outcome ho
      rw [List.append_assoc] at hbody
      exact hbody
  | untargeted hspec hfrom =>
      have hnil : about t.index history = [] :=
        hself.eq_nil (r := ⟨"", [], ∅⟩) (hfrom ▸ .starting)
      refine hrecounted.runBody hplaced ht hexecutor hlimit none fun outcome ho => ?_
      rw [hnil]
      exact .untargeted hspec _ outcome ho
  | ended target finish outcome hfrom =>
      -- the story was over when the body began, and the report is the one it had then
      rw [List.append_nil]
      rw [Recounts, hfrom] at hself
      exact hrecounted.conclude hplaced ht hself

end Execution

end TestBench
