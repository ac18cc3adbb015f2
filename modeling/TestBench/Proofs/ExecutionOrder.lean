import TestBench.Proofs.ExecutionRun

/-!
# The order of first turns

Invocations start in the order of the plan and join the queue as they start. Others come into the
queue too, when a slot or a time that they wait for is free, but only after their first turns. So
the first turns are in the order of the plan: `Execution.InOrder` says which invocation is the next
to have its first turn, and that those after it are in the queue in their order.

With room for one invocation nobody else is in flight, `Execution.Alone`.
-/

set_option autoImplicit false

namespace TestBench

/-- The invocation was getting a target, and nothing is observed of it. -/
def Task.Waits (t : Task) (events : List Execution.Event) : Prop :=
  events = [] ∧
    ∃ spec, t.invocation.target = some spec ∧ t.progress.Seeks (t.invocation.request spec)

namespace Execution

variable {plan : List Invocation} {before : List ExecutorCall} {history events : List Event}
  {e next : Execution} {t u : Task} {executor : Executor} {limit : Option Duration} {s : Nat}

/-! ## What a turn moves -/

/-- Some invocations start, and come last in the queue. -/
structure Filling (e f : Execution) : Prop where
  /-- How many have started. -/
  started : e.started ≤ f.started
  /-- The queue. -/
  ready : f.ready = e.ready ++ List.range' e.started (f.started - e.started)
  /-- Those in flight were there before, or have just started. -/
  tasks : ∀ u ∈ f.tasks, u ∈ e.tasks ∨ e.started ≤ u.index ∧ u.progress = .starting

theorem filling_fill (e : Execution) : Filling e e.fill := by
  refine fill_induction (P := Filling e) ⟨Nat.le_refl _, by simp, fun u hu => .inl hu⟩ ?_
  intro f i rest hi h
  constructor
  case started => exact Nat.le_succ_of_le h.started
  case ready =>
    show f.ready ++ [f.started] = e.ready ++ List.range' e.started (f.started + 1 - e.started)
    rw [h.ready, List.append_assoc, Nat.sub_add_comm h.started, List.range'_concat]
    simp [Nat.add_sub_cancel' h.started]
  case tasks =>
    intro u hu
    rcases List.mem_append.1 hu with hu | hu
    · exact h.tasks u hu
    · rw [List.mem_singleton.1 hu]
      exact .inr ⟨h.started, rfl⟩

/-- What a turn does to the queue and to those in flight. -/
structure Moved (e : Execution) (t : Task) (events : List Event) (next : Execution) : Prop where
  /-- How many have started. -/
  started : e.started ≤ next.started
  /-- Somebody may be woken, and others may start. -/
  ready : ∃ woken, next.ready =
    e.ready ++ woken ++ List.range' e.started (next.started - e.started)
  /-- Those in flight were there before and it was not their turn, or they have just started, or it
  was their turn. In the last case they may have to wait for a target, and then nothing was
  observed. -/
  tasks : ∀ u ∈ next.tasks, u ∈ e.tasks ∧ u.index ≠ t.index ∨
    e.started ≤ u.index ∧ u.progress = .starting ∨
    u.index = t.index ∧ u.invocation = t.invocation ∧ u.progress ≠ .starting ∧
      (u.progress.slot? ≠ none → t.Waits events)

namespace Moved

/-- Whatever happens at the slots before is not seen here. -/
theorem of_eq {f : Execution} (h : Moved f t events next) (hstarted : f.started = e.started)
    (hready : ∃ woken, f.ready = e.ready ++ woken) (htasks : f.tasks = e.tasks) :
    Moved e t events next := by
  obtain ⟨first, hfirst⟩ := hready
  obtain ⟨second, hsecond⟩ := h.ready
  constructor
  case started => exact hstarted ▸ h.started
  case ready =>
    refine ⟨first ++ second, ?_⟩
    rw [hsecond, hfirst, hstarted, List.append_assoc e.ready]
  case tasks =>
    intro u hu
    rw [← htasks, ← hstarted]
    exact h.tasks u hu

/-- The invocation is put back, and may wait for a time. -/
theorem put (hplaced : Placed plan e) (ht : t ∈ e.tasks) (progress : Progress)
    (hstarting : progress ≠ .starting) (hslot : progress.slot? ≠ none → t.Waits events)
    (timers : List (Nat × Nat)) :
    Moved e t events { e.put t.index progress with timers := timers } := by
  constructor
  case started => exact Nat.le_refl _
  case ready => exact ⟨[], by simp [Execution.put]⟩
  case tasks =>
    intro u hu
    rcases mem_tasks_put.1 hu with hother | ⟨v, hv, hi, rfl⟩
    · exact .inl hother
    · rw [hplaced.eq_of_index_eq ht hv hi]
      exact .inr (.inr ⟨rfl, rfl, hstarting, hslot⟩)

/-- The invocation is reported. -/
theorem conclude (e : Execution) (t : Task) (target : Option Target) (outcome : Outcome) :
    Moved e t events (e.conclude t target outcome) := by
  have hfilling := filling_fill (e.retire t target outcome)
  constructor
  case started => exact hfilling.started
  case ready => exact ⟨[], by rw [List.append_nil]; exact hfilling.ready⟩
  case tasks =>
    intro u hu
    rcases hfilling.tasks u hu with hold | hnew
    · exact .inl (mem_tasks_retire.1 hold)
    · exact .inr (.inl hnew)

/-- The body of the invocation is run. -/
theorem runBody (hplaced : Placed plan e) (ht : t ∈ e.tasks) (target : Option Target) :
    Moved e t events (e.runBody t target) := by
  have hcalled := hplaced.withCalls (e.calls ++ [⟨t.invocation, target⟩])
  rw [Execution.runBody]
  simp only
  split
  · exact (conclude { e with calls := e.calls ++ [⟨t.invocation, target⟩] } t target _).of_eq rfl
      ⟨[], (List.append_nil _).symm⟩ rfl
  · refine (put hcalled ht (.running target _ _) (by rintro ⟨⟩) (fun h => absurd rfl h)
      _).of_eq rfl ⟨[], (List.append_nil _).symm⟩ rfl

end Moved

/-- **A turn moves only the invocation whose turn it is**, wakes others, and lets some start. -/
theorem Turn.moved (h : Turn e t events next) (hplaced : Placed plan e) (ht : t ∈ e.tasks) :
    Moved e t events next := by
  cases h with
  | enqueued spec hspec hfrom hholder =>
      exact (Moved.put (hplaced.enqueue _ _) ht (.resolving _ .queued) nofun
        (fun _ => ⟨rfl, spec, hspec, hfrom ▸ .starting⟩) e.timers).of_eq rfl
        ⟨[], (List.append_nil _).symm⟩ rfl
  | entered spec hspec hfrom finish hfinish hholder =>
      exact (Moved.put (hplaced.enqueue _ _) ht (.resolving _ (.building finish)) nofun
        (fun _ => ⟨rfl, spec, hspec, hfrom ▸ .starting⟩) _).of_eq rfl
        ⟨[], (List.append_nil _).symm⟩ rfl
  | begins spec hspec hfrom finish hfinish hholder =>
      exact Moved.put hplaced ht (.resolving _ (.building finish)) nofun
        (fun _ => ⟨rfl, spec, hspec, hfrom ▸ .queued⟩) _
  | refused spec hspec hfrom fault q hq =>
      exact (Moved.conclude (e.passOn _ _ q) t none _).of_eq rfl ⟨_, rfl⟩ rfl
  | served spec hspec hfrom target q hq htarget =>
      exact (Moved.runBody (hplaced.passOn _ _ q) ht (some target)).of_eq rfl ⟨_, rfl⟩ rfl
  | untargeted hspec hfrom => exact Moved.runBody hplaced ht none
  | ended target finish outcome hfrom => exact Moved.conclude e t target outcome

/-! ## First turns -/

/-- The invocation at a place is the next to have its first turn. -/
structure InOrder (e : Execution) (s : Nat) : Prop where
  /-- Those before it have started. -/
  le : s ≤ e.started
  /-- Those in flight from there on have not had a turn. -/
  starting : ∀ u ∈ e.tasks, u.progress = .starting ↔ s ≤ u.index
  /-- They are in the queue in their order. -/
  ready : e.ready.filter (fun i => decide (s ≤ i)) = List.range' s (e.started - s)

/-- At the start of a plan it is the first one. -/
theorem inOrder_start (width : Nat) (limit : Option Duration) (executor : Executor) (pool : Pool)
    (calls : List ExecutorCall) (plan : List Invocation) :
    InOrder (start width limit executor pool calls plan) 0 := by
  have hfilling := filling_fill
    ⟨width, limit, executor, pool, 0, plan, 0, [], [], [], [], calls⟩
  constructor
  case le => exact Nat.zero_le _
  case starting =>
    intro u hu
    rcases hfilling.tasks u hu with hold | hnew
    · cases hold
    · exact iff_of_true hnew.2 (Nat.zero_le _)
  case ready =>
    have hready : (start width limit executor pool calls plan).ready = _ := hfilling.ready
    rw [hready]
    simp
    rfl

/-- **Whoever has a first turn is the next one**, and after it those that follow are in their
order. -/
theorem InOrder.first (h : InOrder e s) {rest : List Nat} (hready : e.ready = t.index :: rest)
    (ht : t ∈ e.tasks) (hfrom : t.progress = .starting) :
    t.index = s ∧ s + 1 ≤ e.started ∧ rest.filter (fun i => decide (s + 1 ≤ i)) =
      List.range' (s + 1) (e.started - (s + 1)) := by
  have hle : s ≤ t.index := (h.starting t ht).1 hfrom
  have hqueue := h.ready
  rw [hready, List.filter_cons, if_pos (decide_eq_true hle)] at hqueue
  obtain ⟨n, hn⟩ : ∃ n, e.started - s = n + 1 := by
    cases hn : e.started - s with
    | zero =>
        rw [hn] at hqueue
        cases hqueue
    | succ n => exact ⟨n, rfl⟩
  rw [hn, List.range'_succ, List.cons.injEq] at hqueue
  obtain ⟨hindex, hrest⟩ := hqueue
  have hcount : e.started - (s + 1) = n := by omega
  refine ⟨hindex, by omega, ?_⟩
  calc rest.filter (fun i => decide (s + 1 ≤ i))
      = (rest.filter fun i => decide (s ≤ i)).filter fun i => decide (s + 1 ≤ i) := by
        rw [List.filter_filter]
        refine List.filter_congr fun i _ => ?_
        rw [← Bool.decide_and, decide_eq_decide]
        omega
    _ = (List.range' (s + 1) n).filter fun i => decide (s + 1 ≤ i) := by rw [hrest]
    _ = List.range' (s + 1) n :=
        List.filter_eq_self.2 fun i hi => decide_eq_true (List.mem_range'_1.1 hi).1
    _ = List.range' (s + 1) (e.started - (s + 1)) := by rw [hcount]

theorem InOrder.later (h : InOrder e s) {rest : List Nat} (hready : e.ready = t.index :: rest)
    (ht : t ∈ e.tasks) (hfrom : t.progress ≠ .starting) :
    t.index < s ∧ rest.filter (fun i => decide (s ≤ i)) = List.range' s (e.started - s) := by
  have hlt : t.index < s := Nat.lt_of_not_le fun hle => hfrom ((h.starting t ht).2 hle)
  have hqueue := h.ready
  rw [hready, List.filter_cons_of_neg (by simpa using hlt)] at hqueue
  exact ⟨hlt, hqueue⟩

/-- Those that are woken come before a place, since from there on everybody is in the queue already
or starts only now. -/
theorem filter_queue {ready woken : List Nat} {started more s : Nat} (hle : s ≤ started)
    (hready : ready.filter (fun i => decide (s ≤ i)) = List.range' s (started - s))
    (hnodup : (ready ++ woken ++ List.range' started more).Nodup)
    (hplaces : ∀ i ∈ woken, i < started + more) :
    (ready ++ woken ++ List.range' started more).filter (fun i => decide (s ≤ i)) =
      List.range' s (started + more - s) := by
  obtain ⟨hold, -, hdisjoint⟩ := List.nodup_append.1 hnodup
  have hwoken : woken.filter (fun i => decide (s ≤ i)) = [] := by
    refine List.filter_eq_nil_iff.2 fun i hi hi' => ?_
    have hi' : s ≤ i := of_decide_eq_true hi'
    have hlt := hplaces i hi
    -- it would be in the queue twice: with those that were there, or with those that start
    by_cases hstarted : i < started
    · have hqueued : i ∈ ready.filter fun i => decide (s ≤ i) := by
        rw [hready, List.mem_range'_1]
        omega
      exact (List.nodup_append.1 hold).2.2 i (List.mem_filter.1 hqueued).1 i hi rfl
    · have hstarts : i ∈ List.range' started more := by
        rw [List.mem_range'_1]
        omega
      exact hdisjoint i (List.mem_append_right _ hi) i hstarts rfl
  have hnew : (List.range' started more).filter (fun i => decide (s ≤ i)) =
      List.range' started more := by
    refine List.filter_eq_self.2 fun i hi => decide_eq_true ?_
    exact Nat.le_trans hle (List.mem_range'_1.1 hi).1
  rw [List.filter_append, List.filter_append, hready, hwoken, hnew, List.append_nil]
  have hall := @List.range'_append_1 s (started - s) more
  have hstart : s + (started - s) = started := by omega
  have hcount : started - s + more = started + more - s := by omega
  rw [hstart, hcount] at hall
  exact hall

/-- Those that are woken have had their first turns. -/
theorem Moved.inOrder (h : Moved e t events next) {s' : Nat}
    (hsound : Sound executor limit plan before history next) (hs : t.index < s')
    (hle : s' ≤ e.started)
    (hothers : ∀ u ∈ e.tasks, u.index ≠ t.index → (u.progress = .starting ↔ s' ≤ u.index))
    (hready : e.ready.filter (fun i => decide (s' ≤ i)) = List.range' s' (e.started - s')) :
    InOrder next s' := by
  constructor
  case le => exact Nat.le_trans hle h.started
  case starting =>
    intro u hu
    rcases h.tasks u hu with ⟨hold, hne⟩ | ⟨hnew, hstarting⟩ | ⟨hindex, -, hstarting, -⟩
    · exact hothers u hold hne
    · exact iff_of_true hstarting (Nat.le_trans hle hnew)
    · exact iff_of_false hstarting (Nat.not_le_of_lt (hindex ▸ hs))
  case ready =>
    obtain ⟨woken, hnext⟩ := h.ready
    have hnodup := hsound.scheduled.readyNodup
    have hcount : e.started + (next.started - e.started) = next.started :=
      Nat.add_sub_cancel' h.started
    have hplaces : ∀ i ∈ woken, i < e.started + (next.started - e.started) := by
      intro i hi
      have hqueued : i ∈ next.ready := by
        rw [hnext]
        exact List.mem_append_left _ (List.mem_append_right _ hi)
      obtain ⟨u, hu, rfl, -⟩ := (hsound.scheduled.ready i).1 hqueued
      exact hcount.symm ▸ hsound.placed.index_lt hu
    rw [hnext] at hnodup ⊢
    rw [filter_queue hle hready hnodup hplaces, hcount]

/-- **The order is kept when time passes.** -/
theorem InOrder.passTo (h : InOrder e s) {time : Nat} (hready : e.ready = [])
    (hsound : Sound executor limit plan before history (e.passTo time)) :
    InOrder (e.passTo time) s := by
  have hnone := h.ready
  rw [hready, List.filter_nil] at hnone
  have hall : e.started - s = 0 := List.range'_eq_nil_iff.1 hnone.symm
  constructor
  case le => exact h.le
  case starting => exact h.starting
  case ready =>
    show (e.passTo time).ready.filter _ = List.range' s (e.started - s)
    rw [hall, List.range'_zero]
    refine List.filter_eq_nil_iff.2 fun i hi hi' => ?_
    have hi' : s ≤ i := of_decide_eq_true hi'
    obtain ⟨u, hu, rfl, -⟩ := (hsound.scheduled.ready i).1 hi
    have hlt : u.index < e.started := hsound.placed.index_lt hu
    omega

/-- **The order is kept by a turn**, after which the next one has its first turn if it was one. -/
theorem InOrder.turn (h : InOrder e s) {rest : List Nat} (hready : e.ready = t.index :: rest)
    (ht : t ∈ e.tasks) (hmoved : Moved (e.take rest) t events next)
    (hsound : Sound executor limit plan before history next) :
    (t.progress = .starting → t.index = s ∧ InOrder next (s + 1)) ∧
      (t.progress ≠ .starting → t.index < s ∧ InOrder next s) := by
  constructor
  · intro hfrom
    obtain ⟨hindex, hle, hrest⟩ := h.first hready ht hfrom
    refine ⟨hindex, hmoved.inOrder hsound (by omega) hle (fun u hu hne => ?_) hrest⟩
    rw [h.starting u hu]
    omega
  · intro hfrom
    obtain ⟨hlt, hrest⟩ := h.later hready ht hfrom
    exact ⟨hlt, hmoved.inOrder hsound hlt h.le (fun u hu _ => h.starting u hu) hrest⟩

/-! ## Room for one -/

/-- With room for one invocation no other is in flight. -/
def Alone (e : Execution) : Prop := e.width = 1 → ∀ t ∈ e.tasks, e.tasks = [t]

theorem alone_fillFrom : ∀ (l : List Invocation) (e : Execution),
    (∀ u ∈ e.tasks, u.index < e.started) → e.Alone → (e.fillFrom l).Alone
  | [], _, _, h => h
  | i :: rest, e, hlt, h => by
      rw [fillFrom]
      split
      · next hroom =>
          refine alone_fillFrom rest (e.begin i) (fun u hu => ?_) fun hwidth => ?_
          · rcases List.mem_append.1 hu with hu | hu
            · exact Nat.lt_succ_of_lt (hlt u hu)
            · rw [List.mem_singleton.1 hu]
              exact Nat.lt_succ_self _
          · -- there was room, so nobody was in flight
            have hwidth : e.width = 1 := hwidth
            have hnobody : e.tasks = [] := by
              cases htasks : e.tasks with
              | nil => rfl
              | cons first others =>
                  have hfirst := hlt first (htasks ▸ List.mem_cons_self)
                  have holdest : e.oldest = first.index := by simp [oldest, htasks]
                  omega
            intro u hu
            have hone : (e.begin i).tasks = [⟨e.started, i, .starting⟩] := by
              simp [Execution.begin, hnobody]
            rw [hone] at hu ⊢
            rw [List.mem_singleton.1 hu]
      · exact h

theorem alone_conclude (hplaced : Placed plan e) (ht : t ∈ e.tasks) (h : e.Alone)
    (target : Option Target) (outcome : Outcome) : (e.conclude t target outcome).Alone := by
  have hretired := hplaced.retire ht target outcome
  refine alone_fillFrom _ (e.retire t target outcome) (fun u hu => hretired.index_lt hu) ?_
  intro hwidth u hu
  -- the one that is reported was the only one
  obtain ⟨hu, hne⟩ := mem_tasks_retire.1 hu
  have hone := h hwidth t ht
  rw [hone] at hu
  exact absurd (congrArg Task.index (List.mem_singleton.1 hu)) hne

theorem alone_put (h : e.Alone) (index : Nat) (progress : Progress) :
    (e.put index progress).Alone := by
  intro hwidth u hu
  obtain ⟨v, hv, rfl⟩ := List.mem_map.1 hu
  show e.tasks.map _ = _
  rw [h hwidth v hv, List.map_singleton]

theorem Turn.alone (h : Turn e t events next) (hplaced : Placed plan e) (ht : t ∈ e.tasks)
    (halone : e.Alone) : next.Alone := by
  have hbody : ∀ {f : Execution}, Placed plan f → t ∈ f.tasks → f.Alone →
      ∀ target, (f.runBody t target).Alone := by
    intro f hplaced ht halone target
    have hcalled := hplaced.withCalls (f.calls ++ [⟨t.invocation, target⟩])
    rw [Execution.runBody]
    simp only
    split
    · exact alone_conclude hcalled ht halone target _
    · exact alone_put (e := { f with calls := f.calls ++ [⟨t.invocation, target⟩] }) halone _ _
  cases h with
  | enqueued spec hspec hfrom hholder => exact alone_put (e := e.enqueue _ _) halone _ _
  | entered spec hspec hfrom finish hfinish hholder =>
      exact alone_put (e := e.enqueue _ _) halone _ _
  | begins spec hspec hfrom finish hfinish hholder => exact alone_put halone _ _
  | refused spec hspec hfrom fault q hq =>
      exact alone_conclude (hplaced.passOn _ _ q) ht halone none _
  | served spec hspec hfrom target q hq htarget =>
      exact hbody (hplaced.passOn _ _ q) ht halone (some target)
  | untargeted hspec hfrom => exact hbody hplaced ht halone none
  | ended target finish outcome hfrom => exact alone_conclude hplaced ht halone target outcome

theorem alone_start (width : Nat) (limit : Option Duration) (executor : Executor) (pool : Pool)
    (calls : List ExecutorCall) (plan : List Invocation) :
    (start width limit executor pool calls plan).Alone :=
  alone_fillFrom plan _ (fun _ hu => absurd hu List.not_mem_nil)
    fun _ _ hu => absurd hu List.not_mem_nil

end Execution

end TestBench
