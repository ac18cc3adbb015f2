import TestBench.Proofs.ExecutionPlaces

/-!
# Nobody waits for ever

An execution keeps three lists of its own: who can go on, who waits for a time, and who stands
at which slot. `Execution.Scheduled` says that they are right. It is preserved by everything
that happens in a turn and when time passes, so an execution never stops while an invocation is
in flight (`Execution.Scheduled.tasks_eq_nil`).

In the middle of a turn one invocation is in hand: it has been taken from the queue, and the lists
say nothing of it until it is put back or reported. Only its slot is known, by `Execution.StandsAt`.
-/

set_option autoImplicit false

namespace TestBench

theorem Progress.slot?_of_awaited? {progress : Progress} {key : SlotKey}
    (h : progress.awaited? = some key) : progress.slot? = some key := by
  cases progress with
  | starting => cases h
  | resolving r phase => cases phase <;> first | exact h | cases h
  | running target finish outcome => cases h

theorem Progress.deadline?_of_awaited? {progress : Progress} {key : SlotKey}
    (h : progress.awaited? = some key) : progress.deadline? = none := by
  cases progress with
  | starting => rfl
  | resolving r phase => cases phase <;> first | rfl | cases h
  | running target finish outcome => cases h

theorem Progress.Seeks.slot?_eq {r : Request} {progress : Progress} (h : progress.Seeks r) :
    ∀ key, progress.slot? = some key → key = r.slot := by
  intro key hkey
  cases h with
  | starting => cases hkey
  | queued => exact (Option.some.inj hkey).symm
  | building finish => exact (Option.some.inj hkey).symm

namespace Execution

variable {plan : List Invocation} {e : Execution} {t : Task} {i : Nat}

/-! ## The schedule -/

/-- The lists of an execution are right, but for the invocation in hand. -/
structure Scheduled (e : Execution) (hand : Option Nat) : Prop where
  /-- Nobody is twice in the queue. -/
  readyNodup : e.ready.Nodup
  /-- Nobody waits for two times. -/
  timersNodup : (e.timers.map (·.2)).Nodup
  /-- Those in the queue are those that can go on. -/
  ready : ∀ i, i ∈ e.ready ↔ ∃ t ∈ e.tasks, t.index = i ∧ hand ≠ some i ∧ t.CanGo e.pool.slots e.now
  /-- Those that wait for a time are those whose time is still to come. -/
  timers : ∀ finish i, (finish, i) ∈ e.timers ↔
    ∃ t ∈ e.tasks, t.index = i ∧ hand ≠ some i ∧ t.progress.deadline? = some finish ∧ e.now < finish
  /-- Those at a slot are those that are getting a target there. -/
  slots : ∀ key i, hand ≠ some i →
    ((key, i) ∈ e.pool.slots ↔ ∃ t ∈ e.tasks, t.index = i ∧ t.progress.slot? = some key)
  /-- Whoever does not wait for a slot where he stands holds it. -/
  holds : ∀ t ∈ e.tasks, hand ≠ some t.index → ∀ key, t.progress.slot? = some key →
    t.progress.awaited? = some key ∨ e.pool.slots.holder? key = some t.index

/-- The slot at which an invocation stands, if it stands at one. -/
def StandsAt (e : Execution) (i : Nat) (slot : Option SlotKey) : Prop :=
  ∀ key, (key, i) ∈ e.pool.slots ↔ slot = some key

/-- **Nobody waits for ever**: with nobody in the queue and no time to wait for, nobody is in
flight. -/
theorem Scheduled.tasks_eq_nil (h : Scheduled e none) (hready : e.ready = [])
    (htimers : e.timers = []) : e.tasks = [] := by
  -- an invocation in flight can only wait for somebody else at the head of its slot
  have hwaits : ∀ t ∈ e.tasks, ∃ key, t.progress.awaited? = some key ∧
      e.pool.slots.holder? key ≠ some t.index := by
    intro t ht
    by_contra hnot
    push Not at hnot
    have hgo : t.CanGo e.pool.slots e.now := by
      refine ⟨fun finish hf => Nat.le_of_not_lt fun hlt => ?_, hnot⟩
      have hmem := (h.timers finish t.index).2 ⟨t, ht, rfl, nofun, hf, hlt⟩
      rw [htimers] at hmem
      cases hmem
    have hmem := (h.ready t.index).2 ⟨t, ht, rfl, nofun, hgo⟩
    rw [hready] at hmem
    cases hmem
  apply List.eq_nil_iff_forall_not_mem.2
  intro t ht
  obtain ⟨key, hkey, -⟩ := hwaits t ht
  -- whoever holds that slot is in flight too, and waits for nobody there
  have hmem := (h.slots key t.index nofun).2 ⟨t, ht, rfl, Progress.slot?_of_awaited? hkey⟩
  obtain ⟨j, hj⟩ := SlotQueue.exists_holder_of_mem hmem
  obtain ⟨u, hu, rfl, hslot⟩ := (h.slots key j nofun).1 (SlotQueue.mem_of_holder? hj)
  obtain ⟨key', hkey', hother⟩ := hwaits u hu
  have hsame := (Progress.slot?_of_awaited? hkey').symm.trans hslot
  rw [Option.some.injEq] at hsame
  exact hother (hsame ▸ hj)

/-- The lists of an execution without anybody are right if they are empty. -/
theorem scheduled_of_tasks_eq_nil (htasks : e.tasks = []) (hready : e.ready = [])
    (htimers : e.timers = []) (hslots : e.pool.slots = []) : Scheduled e none := by
  have hnobody : ∀ {Q : Task → Prop}, ¬ ∃ u ∈ e.tasks, Q u := by
    rintro Q ⟨u, hu, -⟩
    rw [htasks] at hu
    cases hu
  constructor
  case readyNodup => exact hready ▸ List.nodup_nil
  case timersNodup => exact htimers ▸ List.nodup_nil
  case ready =>
    intro i
    rw [hready]
    exact iff_of_false List.not_mem_nil hnobody
  case timers =>
    intro finish i
    rw [htimers]
    exact iff_of_false List.not_mem_nil hnobody
  case slots =>
    intro key i _
    rw [hslots]
    exact iff_of_false List.not_mem_nil hnobody
  case holds =>
    intro u hu
    rw [htasks] at hu
    cases hu

/-! ## Taking an invocation in hand -/

/-- The first in the queue is an invocation in flight that can go on. -/
theorem Scheduled.exists_task (h : Scheduled e none) {rest : List Nat}
    (hready : e.ready = i :: rest) :
    ∃ t ∈ e.tasks, t.index = i ∧ t.CanGo e.pool.slots e.now := by
  obtain ⟨t, ht, hi, -, hgo⟩ := (h.ready i).1 (hready ▸ List.mem_cons_self)
  exact ⟨t, ht, hi, hgo⟩

/-- The execution with the first in the queue taken from it. -/
def take (e : Execution) (rest : List Nat) : Execution := { e with ready := rest }

theorem Scheduled.take (h : Scheduled e none) (hplaced : Placed plan e) {rest : List Nat}
    (hready : e.ready = t.index :: rest) (ht : t ∈ e.tasks) (hgo : t.CanGo e.pool.slots e.now) :
    Scheduled (e.take rest) (some t.index) := by
  have hnodup := h.readyNodup
  rw [hready, List.nodup_cons] at hnodup
  constructor
  case readyNodup => exact hnodup.2
  case timersNodup => exact h.timersNodup
  case ready =>
    intro j
    have hj := h.ready j
    rw [hready, List.mem_cons] at hj
    constructor
    · intro hmem
      obtain ⟨u, hu, hi, -, hugo⟩ := hj.1 (.inr hmem)
      exact ⟨u, hu, hi, fun heq => hnodup.1 (Option.some.inj heq ▸ hmem), hugo⟩
    · rintro ⟨u, hu, hi, hne, hugo⟩
      rcases hj.2 ⟨u, hu, hi, nofun, hugo⟩ with heq | hmem
      · exact absurd (congrArg some heq.symm) hne
      · exact hmem
  case timers =>
    intro finish j
    refine (h.timers finish j).trans ⟨?_, ?_⟩
    · rintro ⟨u, hu, hi, -, hf, hlt⟩
      refine ⟨u, hu, hi, fun heq => ?_, hf, hlt⟩
      -- the invocation in hand can go on, so it waits for no time
      have hut : u = t := hplaced.eq_of_index_eq ht hu (hi.trans (Option.some.inj heq).symm)
      exact absurd (hgo.time finish (hut ▸ hf)) (Nat.not_le_of_lt hlt)
    · rintro ⟨u, hu, hi, -, hf, hlt⟩
      exact ⟨u, hu, hi, nofun, hf, hlt⟩
  case slots => exact fun key j _ => h.slots key j nofun
  case holds => exact fun u hu _ => h.holds u hu nofun

theorem Scheduled.standsAt (h : Scheduled e none) (hplaced : Placed plan e) (ht : t ∈ e.tasks) :
    e.StandsAt t.index t.progress.slot? := by
  intro key
  refine (h.slots key t.index nofun).trans ⟨?_, fun hslot => ⟨t, ht, rfl, hslot⟩⟩
  rintro ⟨u, hu, hi, hslot⟩
  rw [hplaced.eq_of_index_eq ht hu hi] at hslot
  exact hslot

/-! ## Moving at a slot -/

theorem holder?_join_iff {q : SlotQueue} {key k : SlotKey} {j : Nat} (hne : i ≠ j) :
    (q.join key i).holder? k = some j ↔ q.holder? k = some j := by
  rw [SlotQueue.holder?_join]
  cases q.holder? k with
  | some x => exact Iff.rfl
  | none =>
      split
      · simpa using hne
      · exact Iff.rfl

theorem Scheduled.enqueue (h : Scheduled e (some i)) (key : SlotKey) :
    Scheduled (e.enqueue i key) (some i) := by
  -- for the others the slots have not changed
  have hgo : ∀ u : Task, some i ≠ some u.index →
      (u.CanGo (e.pool.slots.join key i) e.now ↔ u.CanGo e.pool.slots e.now) := by
    intro u hne
    have hiff : ∀ k, (e.pool.slots.join key i).holder? k = some u.index ↔
        e.pool.slots.holder? k = some u.index := fun k =>
        holder?_join_iff fun heq => hne (congrArg some heq)
    constructor
    · intro hu
      exact ⟨hu.time, fun k hk => (hiff k).1 (hu.slot k hk)⟩
    · intro hu
      exact ⟨hu.time, fun k hk => (hiff k).2 (hu.slot k hk)⟩
  constructor
  case readyNodup => exact h.readyNodup
  case timersNodup => exact h.timersNodup
  case ready =>
    intro j
    refine (h.ready j).trans ⟨?_, ?_⟩
    · rintro ⟨u, hu, rfl, hne, hugo⟩
      exact ⟨u, hu, rfl, hne, (hgo u hne).2 hugo⟩
    · rintro ⟨u, hu, rfl, hne, hugo⟩
      exact ⟨u, hu, rfl, hne, (hgo u hne).1 hugo⟩
  case timers => exact h.timers
  case slots =>
    intro k j hne
    refine Iff.trans ?_ (h.slots k j hne)
    refine SlotQueue.mem_join.trans ⟨?_, .inl⟩
    rintro (hmem | heq)
    · exact hmem
    · exact absurd (congrArg some (congrArg Prod.snd heq).symm) hne
  case holds =>
    intro u hu hne k hk
    rcases h.holds u hu hne k hk with hawaits | hholder
    · exact .inl hawaits
    · exact .inr ((holder?_join_iff fun heq => hne (congrArg some heq)).2 hholder)

theorem StandsAt.enqueue (h : e.StandsAt i none) (key : SlotKey) :
    (e.enqueue i key).StandsAt i (some key) := by
  intro k
  refine SlotQueue.mem_join.trans ⟨?_, ?_⟩
  · rintro (hmem | heq)
    · exact absurd ((h k).1 hmem) nofun
    · exact congrArg some (congrArg Prod.fst heq).symm
  · intro heq
    exact .inr (by rw [Option.some.inj heq])

theorem mem_woken {a b : Option Nat} {j : Nat} :
    j ∈ woken a b ↔ ∃ old, a = some old ∧ b = some j ∧ old ≠ j := by
  cases a with
  | none => simp [woken]
  | some old =>
      cases b with
      | none => simp [woken]
      | some next =>
          by_cases heq : old = next
          · subst heq
            simp [woken]
          · simp only [woken, if_neg heq, List.mem_singleton, Option.some.injEq, exists_eq_left']
            constructor
            · rintro rfl
              exact ⟨rfl, heq⟩
            · rintro ⟨rfl, -⟩
              rfl

theorem nodup_woken (a b : Option Nat) : (woken a b).Nodup := by
  cases a with
  | none => exact List.nodup_nil
  | some old =>
      cases b with
      | none => exact List.nodup_nil
      | some next =>
          rw [woken]
          split
          · exact List.nodup_nil
          · exact List.nodup_singleton next

/-- **Whoever comes to the head of a slot is woken.** When somebody leaves a slot, the heads of all
slots stay the same, except for the one that has come to the head there. -/
theorem holder?_leave_iff {q : SlotQueue} {key k : SlotKey} {j : Nat} (hne : i ≠ j)
    (hslot : ∀ k, (k, i) ∈ q → k = key) :
    (q.leave i).holder? k = some j ↔
      q.holder? k = some j ∨ k = key ∧ j ∈ woken (q.holder? key) ((q.leave i).holder? key) := by
  constructor
  · intro hnew
    by_cases hk : k = key
    · -- the head of this slot is the old one, or else somebody who was woken
      subst hk
      obtain ⟨old, hold⟩ := SlotQueue.exists_holder_of_mem
        (SlotQueue.mem_leave.1 (SlotQueue.mem_of_holder? hnew)).1
      by_cases heq : old = j
      · exact .inl (heq ▸ hold)
      · exact .inr ⟨rfl, mem_woken.2 ⟨old, hold, hnew, heq⟩⟩
    · rw [SlotQueue.holder?_leave_of_notMem fun hmem => hk (hslot k hmem)] at hnew
      exact .inl hnew
  · rintro (hold | ⟨rfl, hwoken⟩)
    · exact SlotQueue.holder?_leave_of_ne hold fun heq => hne heq.symm
    · obtain ⟨old, -, hnew, -⟩ := mem_woken.1 hwoken
      exact hnew

theorem Scheduled.passOn (h : Scheduled e (some i)) (hplaced : Placed plan e)
    {slot : Option SlotKey} (hstands : e.StandsAt i slot) (key : SlotKey)
    (hslot : ∀ k, slot = some k → k = key) (q : Pool) :
    Scheduled (e.passOn i key q) (some i) := by
  have hown : ∀ k, (k, i) ∈ e.pool.slots → k = key := fun k hmem => hslot k ((hstands k).1 hmem)
  -- one that has come to the head waited for that, and has nothing else to wait for
  have hwoken : ∀ j ∈ woken (e.pool.slots.holder? key) ((e.pool.slots.leave i).holder? key),
      ∃ u ∈ e.tasks, u.index = j ∧ some i ≠ some j ∧ u.progress.awaited? = some key ∧
        e.pool.slots.holder? key ≠ some j ∧ u.CanGo (e.pool.slots.leave i) e.now := by
    intro j hj
    obtain ⟨old, hold, hnew, hdiff⟩ := mem_woken.1 hj
    obtain ⟨hmem, hne⟩ := SlotQueue.mem_leave.1 (SlotQueue.mem_of_holder? hnew)
    have hne : some i ≠ some j := fun heq => hne (Option.some.inj heq).symm
    have hnot : e.pool.slots.holder? key ≠ some j := by
      rw [hold]
      exact fun heq => hdiff (Option.some.inj heq)
    obtain ⟨u, hu, rfl, hk⟩ := (h.slots key j hne).1 hmem
    have hawaits : u.progress.awaited? = some key := by
      rcases h.holds u hu hne key hk with hawaits | hholder
      · exact hawaits
      · exact absurd hholder hnot
    refine ⟨u, hu, rfl, hne, hawaits, hnot, ⟨?_, ?_⟩⟩
    · intro finish hf
      rw [Progress.deadline?_of_awaited? hawaits] at hf
      cases hf
    · intro k hk'
      have hsame := hawaits.symm.trans hk'
      exact Option.some.inj hsame ▸ hnew
  constructor
  case readyNodup =>
    -- one that is woken was not at the head of its slot, so it could not go on and was not queued
    show (e.ready ++ woken _ _).Nodup
    refine List.nodup_append.2 ⟨h.readyNodup, nodup_woken _ _, ?_⟩
    rintro j hj _ hj' rfl
    obtain ⟨u, hu, rfl, -, hgo⟩ := (h.ready j).1 hj
    obtain ⟨v, hv, heq, -, hawaits, hnot, -⟩ := hwoken _ hj'
    rw [hplaced.eq_of_index_eq hu hv heq] at hawaits
    exact hnot (hgo.slot key hawaits)
  case timersNodup => exact h.timersNodup
  case ready =>
    intro j
    show j ∈ e.ready ++ woken _ _ ↔ _
    rw [List.mem_append, h.ready]
    constructor
    · rintro (⟨u, hu, rfl, hne, hgo⟩ | hj)
      · refine ⟨u, hu, rfl, hne, hgo.time, fun k hk => ?_⟩
        exact (holder?_leave_iff (fun heq => hne (congrArg some heq)) hown).2 (.inl (hgo.slot k hk))
      · obtain ⟨u, hu, heq, hne, -, -, hgo⟩ := hwoken j hj
        exact ⟨u, hu, heq, hne, hgo⟩
    · rintro ⟨u, hu, rfl, hne, hgo⟩
      by_cases hj : u.index ∈ woken (e.pool.slots.holder? key) ((e.pool.slots.leave i).holder? key)
      · exact .inr hj
      · refine .inl ⟨u, hu, rfl, hne, hgo.time, fun k hk => ?_⟩
        rcases (holder?_leave_iff (fun heq => hne (congrArg some heq)) hown).1 (hgo.slot k hk) with
          hsame | ⟨-, hin⟩
        · exact hsame
        · exact absurd hin hj
  case timers => exact h.timers
  case slots =>
    intro k j hne
    refine Iff.trans ?_ (h.slots k j hne)
    exact SlotQueue.mem_leave.trans (and_iff_left fun heq => hne (heq ▸ rfl))
  case holds =>
    intro u hu hne k hk
    rcases h.holds u hu hne k hk with hawaits | hholder
    · exact .inl hawaits
    · exact .inr (SlotQueue.holder?_leave_of_ne hholder fun heq => hne (heq ▸ rfl))

theorem standsAt_passOn (e : Execution) (i : Nat) (key : SlotKey) (q : Pool) :
    (e.passOn i key q).StandsAt i none := by
  intro k
  refine ⟨fun hmem => ?_, nofun⟩
  exact absurd rfl (SlotQueue.mem_leave.1 hmem).2

/-! ## Ending a turn -/

/-- For the others it does not matter that an invocation is in hand. -/
theorem exists_hand_iff {j : Nat} {Q : Task → Prop} (hne : i ≠ j) :
    (∃ u ∈ e.tasks, u.index = j ∧ some i ≠ some j ∧ Q u) ↔
      ∃ u ∈ e.tasks, u.index = j ∧ none ≠ some j ∧ Q u := by
  refine exists_congr fun u => and_congr_right fun _ => and_congr_right fun _ => ?_
  exact and_congr_left fun _ => ⟨nofun, fun _ heq => hne (Option.some.inj heq)⟩

/-- When the invocation in hand is put back, the others are where they were. -/
theorem exists_put_of_ne {index j : Nat} {progress : Progress} {Q : Task → Prop} (hne : index ≠ j) :
    (∃ u ∈ (e.put index progress).tasks, u.index = j ∧ Q u) ↔ ∃ u ∈ e.tasks, u.index = j ∧ Q u := by
  constructor
  · rintro ⟨u, hu, rfl, hQ⟩
    rcases mem_tasks_put.1 hu with ⟨hu, -⟩ | ⟨v, hv, heq, rfl⟩
    · exact ⟨u, hu, rfl, hQ⟩
    · exact absurd heq.symm hne
  · rintro ⟨u, hu, rfl, hQ⟩
    exact ⟨u, mem_tasks_put.2 (.inl ⟨hu, fun heq => hne heq.symm⟩), rfl, hQ⟩

theorem exists_put_self (hplaced : Placed plan e) (ht : t ∈ e.tasks) {progress : Progress}
    {Q : Task → Prop} :
    (∃ u ∈ (e.put t.index progress).tasks, u.index = t.index ∧ Q u) ↔
      Q { t with progress := progress } := by
  constructor
  · rintro ⟨u, hu, heq, hQ⟩
    rcases mem_tasks_put.1 hu with ⟨-, hne⟩ | ⟨v, hv, hi, rfl⟩
    · exact absurd heq hne
    · rw [hplaced.eq_of_index_eq ht hv hi] at hQ
      exact hQ
  · intro hQ
    exact ⟨_, mem_tasks_put.2 (.inr ⟨t, ht, rfl, rfl⟩), rfl, hQ⟩

/-- The lists are right when the invocation in hand is put back and goes on later: at its deadline,
or at the head of its slot. -/
theorem Scheduled.put (h : Scheduled e (some t.index)) (hplaced : Placed plan e) (ht : t ∈ e.tasks)
    (progress : Progress) (hstands : e.StandsAt t.index progress.slot?)
    (hholds : ∀ key, progress.slot? = some key →
      progress.awaited? = some key ∨ e.pool.slots.holder? key = some t.index)
    (hwaits : ¬ Task.CanGo { t with progress := progress } e.pool.slots e.now)
    (hlater : ∀ finish, progress.deadline? = some finish → e.now < finish) :
    Scheduled { e.put t.index progress with
      timers := e.timers ++ progress.deadline?.toList.map
        fun finish => (finish, t.index) } none := by
  -- the invocation in hand has waited for no time so far
  have hidle : ∀ finish, (finish, t.index) ∉ e.timers := by
    intro finish hmem
    obtain ⟨u, -, -, hne, -⟩ := (h.timers finish t.index).1 hmem
    exact hne rfl
  constructor
  case readyNodup => exact h.readyNodup
  case timersNodup =>
    show ((e.timers ++ _).map (·.2)).Nodup
    rw [List.map_append, List.nodup_append]
    refine ⟨h.timersNodup, ?_, ?_⟩
    · cases progress.deadline? with
      | none => exact List.nodup_nil
      | some finish => exact List.nodup_singleton _
    · intro j hj k hk heq
      obtain ⟨⟨finish, i⟩, hw, rfl⟩ := List.mem_map.1 hj
      obtain ⟨w', hw', rfl⟩ := List.mem_map.1 hk
      obtain ⟨finish', -, rfl⟩ := List.mem_map.1 hw'
      have hi : i = t.index := heq
      exact hidle finish (hi ▸ hw)
  case ready =>
    intro j
    by_cases hj : t.index = j
    · -- the invocation in hand is not queued, and it has to wait
      subst hj
      refine ⟨fun hmem => ?_, fun hex => ?_⟩
      · obtain ⟨-, -, -, hne, -⟩ := (h.ready t.index).1 hmem
        exact absurd rfl hne
      · exact absurd ((exists_put_self hplaced ht).1 hex).2 hwaits
    · exact ((h.ready j).trans (exists_hand_iff hj)).trans (exists_put_of_ne hj).symm
  case timers =>
    intro finish j
    show (finish, j) ∈ e.timers ++ _ ↔ _
    rw [List.mem_append]
    by_cases hj : t.index = j
    · subst hj
      refine Iff.trans ?_ (exists_put_self hplaced ht).symm
      constructor
      · rintro (hmem | hmem)
        · exact absurd hmem (hidle finish)
        · obtain ⟨finish', hf, hpair⟩ := List.mem_map.1 hmem
          rw [Prod.mk.injEq] at hpair
          have hf := Option.mem_toList.1 hf
          rw [hpair.1] at hf
          exact ⟨nofun, hf, hlater finish hf⟩
      · rintro ⟨-, hf, -⟩
        exact .inr (List.mem_map.2 ⟨finish, Option.mem_toList.2 hf, rfl⟩)
    · refine Iff.trans ?_ (exists_put_of_ne hj).symm
      refine Iff.trans ?_ ((h.timers finish j).trans (exists_hand_iff hj))
      refine or_iff_left fun hmem => ?_
      obtain ⟨_, -, hpair⟩ := List.mem_map.1 hmem
      exact hj (congrArg Prod.snd hpair)
  case slots =>
    intro key j _
    by_cases hj : t.index = j
    · subst hj
      refine (hstands key).trans ?_
      exact (exists_put_self hplaced ht (Q := fun u => u.progress.slot? = some key)).symm
    · refine (h.slots key j fun heq => hj (Option.some.inj heq)).trans ?_
      exact (exists_put_of_ne hj).symm
  case holds =>
    intro u hu _ key hkey
    rcases mem_tasks_put.1 hu with ⟨hu, hne⟩ | ⟨v, hv, hi, rfl⟩
    · exact h.holds u hu (fun heq => hne (Option.some.inj heq).symm) key hkey
    · rcases hholds key hkey with hawaits | hholder
      · exact .inl hawaits
      · exact .inr (hholder.trans (congrArg some hi.symm))

/-- The invocation in hand is put back to wait for its slot. -/
theorem Scheduled.putQueued (h : Scheduled e (some t.index)) (hplaced : Placed plan e)
    (ht : t ∈ e.tasks) {r : Request} (hstands : e.StandsAt t.index (some r.slot))
    (hholder : e.pool.slots.holder? r.slot ≠ some t.index) :
    Scheduled (e.put t.index (.resolving r .queued)) none := by
  have hput := h.put hplaced ht (.resolving r .queued) hstands (fun key hkey => .inl hkey)
    (fun hgo => hholder (hgo.slot _ rfl)) nofun
  have hnone : e.timers ++ (Progress.deadline? (.resolving r .queued)).toList.map
      (fun finish => (finish, t.index)) = e.timers := List.append_nil _
  rw [hnone] at hput
  exact hput

/-- The invocation in hand is put back to wait for its target. -/
theorem Scheduled.putBuilding (h : Scheduled e (some t.index)) (hplaced : Placed plan e)
    (ht : t ∈ e.tasks) {r : Request} (hstands : e.StandsAt t.index (some r.slot)) {finish : Nat}
    (hholder : e.pool.slots.holder? r.slot = some t.index) (hfinish : e.now < finish) :
    Scheduled ((e.put t.index (.resolving r (.building finish))).waitUntil t.index finish)
      none := by
  refine h.put hplaced ht (.resolving r (.building finish)) hstands (fun key hkey => ?_)
    (fun hgo => Nat.not_le_of_lt hfinish (hgo.time finish rfl)) (fun f hf => ?_)
  · exact .inr (Option.some.inj hkey ▸ hholder)
  · exact Option.some.inj hf ▸ hfinish

/-- The invocation in hand is put back to wait for its body. -/
theorem Scheduled.putRunning (h : Scheduled e (some t.index)) (hplaced : Placed plan e)
    (ht : t ∈ e.tasks) (hstands : e.StandsAt t.index none) {target : Option Target} {finish : Nat}
    {outcome : Outcome} (hfinish : e.now < finish) :
    Scheduled ((e.put t.index (.running target finish outcome)).waitUntil t.index finish) none := by
  refine h.put hplaced ht (.running target finish outcome) hstands nofun
    (fun hgo => Nat.not_le_of_lt hfinish (hgo.time finish rfl)) (fun f hf => ?_)
  exact Option.some.inj hf ▸ hfinish

theorem slots_retire (e : Execution) (t : Task) (target : Option Target) (outcome : Outcome) :
    (e.retire t target outcome).pool.slots = e.pool.slots := by
  cases target with
  | none => rfl
  | some target => rfl

/-- The invocation in hand is reported. -/
theorem Scheduled.retire (h : Scheduled e (some t.index)) (hstands : e.StandsAt t.index none)
    (target : Option Target) (outcome : Outcome) :
    Scheduled (e.retire t target outcome) none := by
  -- those in flight afterwards are those that were not in hand
  have hexists : ∀ {j : Nat} {Q : Task → Prop},
      (∃ u ∈ (e.retire t target outcome).tasks, u.index = j ∧ none ≠ some j ∧ Q u) ↔
        ∃ u ∈ e.tasks, u.index = j ∧ some t.index ≠ some j ∧ Q u := by
    intro j Q
    constructor
    · rintro ⟨u, hu, rfl, -, hQ⟩
      obtain ⟨hu, hne⟩ := mem_tasks_retire.1 hu
      exact ⟨u, hu, rfl, fun heq => hne (Option.some.inj heq).symm, hQ⟩
    · rintro ⟨u, hu, rfl, hne, hQ⟩
      exact ⟨u, mem_tasks_retire.2 ⟨hu, fun heq => hne (congrArg some heq.symm)⟩, rfl, nofun, hQ⟩
  constructor
  case readyNodup => exact h.readyNodup
  case timersNodup => exact h.timersNodup
  case ready =>
    intro j
    rw [slots_retire]
    exact (h.ready j).trans hexists.symm
  case timers => exact fun finish j => (h.timers finish j).trans hexists.symm
  case slots =>
    intro key j _
    rw [slots_retire]
    by_cases hj : t.index = j
    · -- the reported invocation stands at no slot, and is not in flight
      subst hj
      refine (hstands key).trans ⟨nofun, ?_⟩
      rintro ⟨u, hu, heq, -⟩
      exact absurd heq (mem_tasks_retire.1 hu).2
    · refine (h.slots key j fun heq => hj (Option.some.inj heq)).trans ?_
      refine exists_congr fun u => and_congr_left fun hu => ?_
      exact (mem_tasks_retire.trans (and_iff_left fun heq => hj (heq.symm.trans hu.1))).symm
  case holds =>
    intro u hu _ key hkey
    rw [slots_retire]
    obtain ⟨hu, hne⟩ := mem_tasks_retire.1 hu
    exact h.holds u hu (fun heq => hne (Option.some.inj heq).symm) key hkey

/-! ## Starting an invocation -/

/-- An invocation that starts comes last in the queue. -/
theorem Scheduled.begin (h : Scheduled e none) (hplaced : Placed plan e) (i : Invocation)
    (rest : List Invocation) : Scheduled { e.begin i with unstarted := rest } none := by
  have hfresh : ∀ u ∈ e.tasks, u.index ≠ e.started := fun u hu => Nat.ne_of_lt (hplaced.index_lt hu)
  have hexists : ∀ {Q : Task → Prop},
      (∃ u ∈ e.tasks ++ [(⟨e.started, i, .starting⟩ : Task)], Q u) ↔
        (∃ u ∈ e.tasks, Q u) ∨ Q ⟨e.started, i, .starting⟩ := by
    intro Q
    constructor
    · rintro ⟨u, hu, hQ⟩
      rcases List.mem_append.1 hu with hu | hu
      · exact .inl ⟨u, hu, hQ⟩
      · exact .inr (List.mem_singleton.1 hu ▸ hQ)
    · rintro (⟨u, hu, hQ⟩ | hQ)
      · exact ⟨u, List.mem_append_left _ hu, hQ⟩
      · exact ⟨_, List.mem_append_right _ List.mem_cons_self, hQ⟩
  constructor
  case readyNodup =>
    show (e.ready ++ [e.started]).Nodup
    refine List.nodup_append.2 ⟨h.readyNodup, List.nodup_singleton _, ?_⟩
    rintro j hj k hk rfl
    obtain ⟨u, hu, rfl, -⟩ := (h.ready j).1 hj
    exact hfresh u hu (List.mem_singleton.1 hk)
  case timersNodup => exact h.timersNodup
  case ready =>
    intro j
    -- the new invocation waits for nothing, so it can go on
    show j ∈ e.ready ++ [e.started] ↔ _
    rw [List.mem_append, List.mem_singleton, h.ready]
    refine Iff.trans ?_ hexists.symm
    refine or_congr Iff.rfl ⟨?_, fun hQ => hQ.1.symm⟩
    rintro rfl
    exact ⟨rfl, nofun, nofun, nofun⟩
  case timers =>
    intro finish j
    refine (h.timers finish j).trans (Iff.trans ?_ hexists.symm)
    exact (or_iff_left nofun).symm
  case slots =>
    intro key j hne
    refine (h.slots key j hne).trans (Iff.trans ?_ hexists.symm)
    exact (or_iff_left nofun).symm
  case holds =>
    intro u hu hne key hkey
    rcases List.mem_append.1 hu with hu | hu
    · exact h.holds u hu hne key hkey
    · rw [List.mem_singleton.1 hu] at hkey
      cases hkey

/-- The lists are right after as many have started as there is room for. -/
theorem Scheduled.fill (h : Scheduled e none) (hplaced : Placed plan e) :
    Scheduled e.fill none := by
  have hboth : Placed plan e.fill ∧ Scheduled e.fill none := by
    refine fill_induction (P := fun f => Placed plan f ∧ Scheduled f none) ⟨hplaced, h⟩ ?_
    intro f i rest hi hf
    exact ⟨hf.1.begin hi, hf.2.begin hf.1 i rest⟩
  exact hboth.2

theorem Scheduled.conclude (h : Scheduled e (some t.index)) (hplaced : Placed plan e)
    (ht : t ∈ e.tasks) (hstands : e.StandsAt t.index none) (target : Option Target)
    (outcome : Outcome) : Scheduled (e.conclude t target outcome) none :=
  (h.retire hstands target outcome).fill (hplaced.retire ht target outcome)

theorem Scheduled.withCalls {hand : Option Nat} (h : Scheduled e hand) (calls : List ExecutorCall) :
    Scheduled { e with calls := calls } hand :=
  ⟨h.readyNodup, h.timersNodup, h.ready, h.timers, h.slots, h.holds⟩

theorem Scheduled.runBody (h : Scheduled e (some t.index)) (hplaced : Placed plan e)
    (ht : t ∈ e.tasks) (hstands : e.StandsAt t.index none) (target : Option Target) :
    Scheduled (e.runBody t target) none := by
  have hcalled := h.withCalls (e.calls ++ [⟨t.invocation, target⟩])
  have hplaced := hplaced.withCalls (e.calls ++ [⟨t.invocation, target⟩])
  rw [Execution.runBody]
  simp only
  split
  · exact hcalled.conclude hplaced ht hstands target _
  · next hwait =>
      exact hcalled.putRunning hplaced ht hstands
        (Nat.lt_add_of_pos_right (Nat.pos_of_ne_zero hwait))

/-! ## Steps -/

/-- **The lists are right after every turn.** -/
theorem Turn.scheduled {events : List Event} {next : Execution} (h : Turn e t events next)
    (hplaced : Placed plan e) (ht : t ∈ e.tasks) (hscheduled : Scheduled e (some t.index))
    (hstands : e.StandsAt t.index t.progress.slot?) : Scheduled next none := by
  -- the operations of the turn one after the other: the invocation moves at its slot while it is in
  -- hand, and at the end it is put back or reported
  cases h with
  | enqueued spec hspec hfrom hholder =>
      have habsent : e.StandsAt t.index none := by
        rw [hfrom] at hstands
        exact hstands
      exact (hscheduled.enqueue _).putQueued (hplaced.enqueue _ _) ht (habsent.enqueue _) hholder
  | entered spec hspec hfrom finish hfinish hholder =>
      have habsent : e.StandsAt t.index none := by
        rw [hfrom] at hstands
        exact hstands
      exact (hscheduled.enqueue _).putBuilding (hplaced.enqueue _ _) ht (habsent.enqueue _) hholder
        hfinish
  | begins spec hspec hfrom finish hfinish hholder =>
      rw [hfrom] at hstands
      exact hscheduled.putBuilding hplaced ht hstands hholder hfinish
  | refused spec hspec hfrom fault q hq =>
      have hpassed := hscheduled.passOn hplaced hstands _ hfrom.slot?_eq q
      exact hpassed.conclude (hplaced.passOn _ _ q) ht (standsAt_passOn _ _ _ q) none _
  | served spec hspec hfrom target q hq htarget =>
      have hpassed := hscheduled.passOn hplaced hstands _ hfrom.slot?_eq q
      exact hpassed.runBody (hplaced.passOn _ _ q) ht (standsAt_passOn _ _ _ q) (some target)
  | untargeted hspec hfrom =>
      rw [hfrom] at hstands
      exact hscheduled.runBody hplaced ht hstands none
  | ended target finish outcome hfrom =>
      rw [hfrom] at hstands
      exact hscheduled.conclude hplaced ht hstands target outcome

/-- The first time that somebody waits for is still to come. -/
theorem Scheduled.lt_of_nextTime? (h : Scheduled e none) {time : Nat}
    (htime : e.nextTime? = some time) : e.now < time := by
  obtain ⟨⟨finish, i⟩, hmem, rfl⟩ := List.mem_map.1 (List.min?_mem htime)
  obtain ⟨u, hu, hi, hne, hf, hlt⟩ := (h.timers finish i).1 hmem
  exact hlt

/-- **The lists are right after time has passed.** -/
theorem Scheduled.passTo (h : Scheduled e none) (hready : e.ready = []) {time : Nat}
    (htime : e.nextTime? = some time) : Scheduled (e.passTo time) none := by
  have hlt := h.lt_of_nextTime? htime
  have hnow : (e.passTo time).now = time := Nat.max_eq_right (Nat.le_of_lt hlt)
  constructor
  case readyNodup => exact (List.filter_sublist.map _).nodup h.timersNodup
  case timersNodup => exact (List.filter_sublist.map _).nodup h.timersNodup
  case ready =>
    intro j
    rw [hnow]
    constructor
    · -- whoever waits for a time does not wait for a slot
      intro hj
      obtain ⟨⟨finish, i⟩, hw, rfl⟩ := List.mem_map.1 hj
      obtain ⟨hw, hle⟩ := List.mem_filter.1 hw
      obtain ⟨u, hu, hi, hne, hf, -⟩ := (h.timers finish i).1 hw
      refine ⟨u, hu, hi, nofun, fun f hf' => ?_, fun key hkey => ?_⟩
      · rw [hf, Option.some.injEq] at hf'
        rw [← hf']
        exact of_decide_eq_true hle
      · rw [Progress.deadline?_of_awaited? hkey] at hf
        cases hf
    · rintro ⟨u, hu, hi, -, hgo⟩
      -- nobody could go on before, so it is its time that has come
      have hbefore : ¬ u.CanGo e.pool.slots e.now := by
        intro hold
        have hmem := (h.ready j).2 ⟨u, hu, hi, nofun, hold⟩
        rw [hready] at hmem
        cases hmem
      cases hf : u.progress.deadline? with
      | none => exact absurd ⟨by rw [hf]; nofun, hgo.slot⟩ hbefore
      | some finish =>
          have hlate : e.now < finish := by
            apply Nat.lt_of_not_le
            intro hle
            refine hbefore ⟨fun f hf' => ?_, hgo.slot⟩
            rw [hf, Option.some.injEq] at hf'
            exact hf' ▸ hle
          have hw := (h.timers finish j).2 ⟨u, hu, hi, nofun, hf, hlate⟩
          exact List.mem_map.2 ⟨(finish, j),
            List.mem_filter.2 ⟨hw, decide_eq_true (hgo.time finish hf)⟩, rfl⟩
  case timers =>
    intro finish j
    rw [hnow]
    refine List.mem_filter.trans ⟨?_, ?_⟩
    · rintro ⟨hw, hnot⟩
      obtain ⟨u, hu, hi, hne, hf, -⟩ := (h.timers finish j).1 hw
      exact ⟨u, hu, hi, hne, hf, by simpa using hnot⟩
    · rintro ⟨u, hu, hi, hne, hf, hlater⟩
      refine ⟨(h.timers finish j).2 ⟨u, hu, hi, hne, hf, Nat.lt_trans hlt hlater⟩, ?_⟩
      simpa using hlater
  case slots => exact h.slots
  case holds => exact h.holds

end Execution

end TestBench
