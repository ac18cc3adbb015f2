import Mathlib.Data.List.Nodup
import TestBench.Proofs.PoolSteps

/-!
# What polling a resolution does

A resolution that is polled settles, or waits in the queue of its slot, or waits for its target to
be built. `Pool.Polled` has a case for each way from one phase to another, and `Pool.poll_polled` is
the only place where the phases are opened. How a resolution settles is `Pool.Settled`, which says
of a resolution among others what `Pool.Answered` says of one that is alone.

Before that come the laws of the queue of the slots: who joins comes last, who leaves makes room for
the next, and nobody else is touched.
-/

set_option autoImplicit false

namespace TestBench

namespace SlotQueue

variable {q : SlotQueue} {key k : SlotKey} {caller j : Nat}

theorem mem_join {e : SlotKey × Nat} : e ∈ q.join key caller ↔ e ∈ q ∨ e = (key, caller) := by
  simp [join]

theorem mem_leave {e : SlotKey × Nat} : e ∈ q.leave caller ↔ e ∈ q ∧ e.2 ≠ caller := by
  simp [leave]

/-- Nothing changes when somebody leaves who was not there. -/
theorem leave_eq_self (h : ∀ key, (key, caller) ∉ q) : q.leave caller = q := by
  refine List.filter_eq_self.2 fun e he => ?_
  have hne : e.2 ≠ caller := fun heq => h e.1 (heq ▸ he)
  simpa using hne

@[simp] theorem leave_join (q : SlotQueue) (key : SlotKey) (caller : Nat) :
    (q.join key caller).leave caller = q.leave caller := by
  simp [leave, join]

theorem mem_of_holder? (h : q.holder? key = some j) : (key, j) ∈ q := by
  obtain ⟨e, he, rfl⟩ := Option.map_eq_some_iff.1 h
  have hkey : e.1 = key := by simpa using List.find?_some he
  rw [← hkey]
  exact List.mem_of_find?_eq_some he

/-- A slot where somebody waits has a holder. -/
theorem exists_holder_of_mem (h : (key, j) ∈ q) : ∃ i, q.holder? key = some i := by
  cases hf : q.find? fun e => e.1 == key with
  | none =>
      have hnot := List.find?_eq_none.1 hf (key, j) h
      exact absurd (beq_self_eq_true key) hnot
  | some e => exact ⟨e.2, by rw [holder?, hf]; rfl⟩

/-- **Who joins comes last.** -/
theorem holder?_join (q : SlotQueue) (key : SlotKey) (caller : Nat) (k : SlotKey) :
    (q.join key caller).holder? k =
      (q.holder? k).or (if key = k then some caller else none) := by
  rw [holder?, join, List.find?_append, holder?]
  cases q.find? fun e => e.1 == k with
  | some e => rfl
  | none => by_cases h : key = k <;> simp [h]

theorem holder?_cons (e : SlotKey × Nat) (q : SlotQueue) (k : SlotKey) :
    holder? (e :: q) k = if e.1 = k then some e.2 else holder? q k := by
  by_cases h : e.1 = k <;> simp [holder?, h]

theorem leave_cons (e : SlotKey × Nat) (q : SlotQueue) (caller : Nat) :
    leave (e :: q) caller = if e.2 = caller then leave q caller else e :: leave q caller := by
  by_cases h : e.2 = caller <;> simp [leave, h]

/-- A holder is not touched when somebody else leaves. -/
theorem holder?_leave_of_ne (h : q.holder? k = some j) (hne : j ≠ caller) :
    (q.leave caller).holder? k = some j := by
  induction q with
  | nil => cases h
  | cons e rest ih =>
      rw [holder?_cons] at h
      rw [leave_cons]
      by_cases hkey : e.1 = k
      · rw [if_pos hkey, Option.some.injEq] at h
        have hstays : e.2 ≠ caller := h ▸ hne
        rw [if_neg hstays, holder?_cons, if_pos hkey, h]
      · rw [if_neg hkey] at h
        split
        · exact ih h
        · rw [holder?_cons, if_neg hkey]
          exact ih h

/-- A slot is not touched when somebody leaves who was not at it. -/
theorem holder?_leave_of_notMem (h : (k, caller) ∉ q) :
    (q.leave caller).holder? k = q.holder? k := by
  cases hq : q.holder? k with
  | some j =>
      -- the holder is somebody else, and stays
      refine holder?_leave_of_ne hq fun hj => h ?_
      rw [← hj]
      exact mem_of_holder? hq
  | none =>
      cases hl : (q.leave caller).holder? k with
      | none => rfl
      | some j =>
          obtain ⟨i, hi⟩ := exists_holder_of_mem (mem_leave.1 (mem_of_holder? hl)).1
          rw [hq] at hi
          cases hi

end SlotQueue

namespace Pool

variable {p q : Pool} {r : Request} {answer : Except Fault Nat} {caller now : Nat}

/-! ## Settling -/

/-- How a resolution settles, apart from its place at a slot. -/
inductive Settled (p : Pool) (r : Request) : Except Fault Nat → Pool → Prop where
  /-- No platform answers to the kind. -/
  | unknown (h : p.registry.provider? r.platform = none) :
      Settled p r (.error (p.unknownPlatform r.platform)) p
  /-- The first target that may serve the request is leased. -/
  | reused (serial : Nat) (h : p.scan r = some serial) : Settled p r (.ok serial) (p.lease serial)
  /-- A platform was asked to build a target. -/
  | built (place : Nat) (provider : Provider) (answer : Except Fault Nat) (q : Pool)
      (hp : p.registry.provider? r.platform = some (place, provider))
      (h : Built p r place provider answer q) : Settled p r answer q

/-- Settling does not look at the slots. -/
theorem Settled.withSlots {slots : SlotQueue} (h : Settled { p with slots := slots } r answer q) :
    Settled p r answer { q with slots := p.slots } := by
  cases h with
  | unknown hp => exact .unknown hp
  | reused serial hs => exact .reused serial hs
  | built place provider _ _ hp hb =>
      refine .built place provider _ _ hp ?_
      cases hb with
      | failed reason hc => exact .failed reason hc
      | refused t reason hbare hserial hid hr hmade =>
          exact .refused t reason hbare hserial hid hr hmade
      | created t hbare hserial hid hr hmade => exact .created t hbare hserial hid hr hmade

/-- A serial number stands for one target. -/
theorem Numbered.target?_eq (h : Numbered p) {t : Target} (ht : t ∈ p.targets) :
    p.target? t.serial = some t := by
  have hnodup : (p.targets.map (·.serial)).Nodup := h.ascending.imp Nat.ne_of_lt
  cases hf : p.target? t.serial with
  | none => exact absurd (beq_self_eq_true t.serial) (List.find?_eq_none.1 hf t ht)
  | some u =>
      have hserial : u.serial = t.serial := by simpa using List.find?_some hf
      rw [List.inj_on_of_nodup_map hnodup (List.mem_of_find?_eq_some hf) ht hserial]

/-- Numbers ascend in the pool with which a resolution has settled. -/
theorem Numbered.settled (h : Numbered p) (hs : Settled p r answer q) : Numbered q := by
  cases hs with
  | unknown hp => exact h
  | reused serial hr => exact h.mapConnection serial .opening
  | built place provider _ _ hp hb => exact h.built hb

/-- **A request is answered by a target of the pool that may serve it**, whether it was found or
built. -/
theorem Settled.exists_mem {serial : Nat} (h : Settled p r (.ok serial) q) :
    ∃ t ∈ q.targets, t.serial = serial ∧ t.satisfies r = true := by
  cases h with
  | reused _ hs =>
      obtain ⟨t, ht, rfl⟩ := Option.map_eq_some_iff.1 hs
      have hleased : t.mapConnection .opening ∈ (p.lease t.serial).targets :=
        List.mem_map.2 ⟨t, List.mem_of_find?_eq_some ht, if_pos rfl⟩
      exact ⟨_, hleased, rfl, by simpa using List.find?_some ht⟩
  | built place provider _ _ hp hb =>
      cases hb with
      | created t hbare hserial hid hr =>
          exact ⟨t.mapConnection .opening, List.mem_append_right _ List.mem_cons_self, rfl, hr⟩

theorem Settled.exists_target {serial : Nat} (h : Settled p r (.ok serial) q) :
    ∃ t, q.target? serial = some t ∧ t.serial = serial := by
  obtain ⟨t, ht, he, -⟩ := h.exists_mem
  cases hf : q.target? serial with
  | none => exact absurd (beq_iff_eq.2 he) (List.find?_eq_none.1 hf t ht)
  | some u =>
      have hu : u.serial = serial := by simpa using List.find?_some hf
      exact ⟨u, rfl, hu⟩

/-- The target with the number that answers a request may serve it, since no other target has the
number. -/
theorem Settled.satisfies {t : Target} (h : Settled p r (.ok t.serial) q) (hn : Numbered p)
    (ht : q.target? t.serial = some t) : t.satisfies r = true := by
  obtain ⟨u, hu, hserial, hr⟩ := h.exists_mem
  have hfound := (hn.settled h).target?_eq hu
  rw [hserial, ht, Option.some.injEq] at hfound
  exact hfound ▸ hr

/-! ## Polling -/

/-- What comes of polling a resolution that arrives, is queued or is building. -/
inductive Polled (p : Pool) (caller : Nat) (r : Request) (now : Nat) :
    Resolution → Resolution → Pool → Prop where
  /-- The resolution is over, and its place at the slot is free. -/
  | settled (phase : Resolution) (answer : Except Fault Nat) (q : Pool) (h : Settled p r answer q) :
      Polled p caller r now phase (.settled answer) { q with slots := p.slots.leave caller }
  /-- Somebody else holds the slot. -/
  | enqueued (h : (p.slots.join r.slot caller).holder? r.slot ≠ some caller) :
      Polled p caller r now .arriving .queued { p with slots := p.slots.join r.slot caller }
  /-- The slot was free, and a target is being built. -/
  | entered (finish : Nat) (h : now < finish)
      (hholder : (p.slots.join r.slot caller).holder? r.slot = some caller) :
      Polled p caller r now .arriving (.building finish)
        { p with slots := p.slots.join r.slot caller }
  /-- Somebody else still holds the slot. -/
  | waits (h : p.slots.holder? r.slot ≠ some caller) : Polled p caller r now .queued .queued p
  /-- The head of the queue is reached, and a target is being built. -/
  | begins (finish : Nat) (h : now < finish) (hholder : p.slots.holder? r.slot = some caller) :
      Polled p caller r now .queued (.building finish) p
  /-- The target is still being built. -/
  | works (finish : Nat) (h : now < finish) :
      Polled p caller r now (.building finish) (.building finish) p

theorem pollFor_settled (n : Nat) (p : Pool) :
    pollFor caller r now n (.settled answer) p = (.settled answer, p) := by
  cases n with
  | zero => rfl
  | succ n => rfl

/-- A resolution that settles in its next phase. -/
theorem Settled.polled_of_advance {phase : Resolution} {n : Nat} (h : Settled p r answer q)
    (ha : p.advance caller r now phase =
      some (.settled answer, { q with slots := p.slots.leave caller })) :
    Polled p caller r now phase (pollFor caller r now (n + 1) phase p).1
      (pollFor caller r now (n + 1) phase p).2 := by
  simp only [pollFor, ha, pollFor_settled]
  exact .settled phase answer q h

theorem polled_building (p : Pool) (caller : Nat) (r : Request) (now finish n : Nat) :
    Polled p caller r now (.building finish) (pollFor caller r now (n + 1) (.building finish) p).1
      (pollFor caller r now (n + 1) (.building finish) p).2 := by
  by_cases hf : finish ≤ now
  · cases hp : p.registry.provider? r.platform with
    | none =>
        refine (Settled.unknown hp).polled_of_advance ?_
        simp only [advance, hf, if_true, hp]
        rfl
    | some found =>
        obtain ⟨place, provider⟩ := found
        have hbuilt := build_built p r place provider
        have hslots : (p.build r place provider).2.slots = p.slots := hbuilt.slots_eq
        refine (Settled.built place provider _ _ hp hbuilt).polled_of_advance ?_
        simp only [advance, hf, if_true, hp, settle, hslots]
  · have ha : p.advance caller r now (.building finish) = none := by simp [advance, hf]
    simp only [pollFor, ha]
    exact .works finish (Nat.lt_of_not_le hf)

theorem polled_queued (p : Pool) (caller : Nat) (r : Request) (now n : Nat) :
    Polled p caller r now .queued (pollFor caller r now (n + 2) .queued p).1
      (pollFor caller r now (n + 2) .queued p).2 := by
  by_cases hholder : p.slots.holder? r.slot = some caller
  · cases hs : p.scan r with
    | some serial =>
        refine (Settled.reused serial hs).polled_of_advance ?_
        simp only [advance, hholder, if_true, hs]
        rfl
    | none =>
        cases hp : p.registry.provider? r.platform with
        | none =>
            refine (Settled.unknown hp).polled_of_advance ?_
            simp only [advance, hholder, if_true, hs, hp]
            rfl
        | some found =>
            obtain ⟨place, provider⟩ := found
            let finish := now + provider.platform.delay provider.ledger r.parameters r.required
            have ha : p.advance caller r now .queued = some (.building finish, p) := by
              simp only [advance, hholder, if_true, hs, hp]
              rfl
            rw [pollFor]
            simp only [ha]
            -- the slot is held, and what is left is a resolution that builds
            have hrest := polled_building p caller r now finish n
            generalize pollFor caller r now (n + 1) (.building finish) p = out at hrest ⊢
            obtain ⟨next, q⟩ := out
            cases hrest with
            | settled _ answer q h => exact .settled .queued answer q h
            | works _ h => exact .begins finish h hholder
  · have ha : p.advance caller r now .queued = none := by simp [advance, hholder]
    simp only [pollFor, ha]
    exact .waits hholder

theorem polled_arriving (p : Pool) (caller : Nat) (r : Request) (now n : Nat)
    (habsent : ∀ key, (key, caller) ∉ p.slots) :
    Polled p caller r now .arriving (pollFor caller r now (n + 4) .arriving p).1
      (pollFor caller r now (n + 4) .arriving p).2 := by
  have hleave : p.slots.leave caller = p.slots := SlotQueue.leave_eq_self habsent
  cases hp : p.registry.provider? r.platform with
  | none =>
      refine (Settled.unknown hp).polled_of_advance ?_
      simp only [advance, hp, hleave]
  | some found =>
      cases hs : p.scan r with
      | some serial =>
          refine (Settled.reused serial hs).polled_of_advance ?_
          simp only [advance, hp, hs, hleave]
          rfl
      | none =>
          have hwant : p.advance caller r now .arriving = some (.wanting, p) := by
            simp only [advance, hp, hs]
          have hjoin : p.advance caller r now .wanting =
              some (.queued, { p with slots := p.slots.join r.slot caller }) := rfl
          rw [pollFor]
          simp only [hwant]
          rw [pollFor]
          simp only [hjoin]
          -- the resolution is in the queue, and what is left is one that is queued
          have hrest := polled_queued { p with slots := p.slots.join r.slot caller } caller r now n
          generalize pollFor caller r now (n + 2) .queued
            { p with slots := p.slots.join r.slot caller } = out at hrest ⊢
          obtain ⟨next, q⟩ := out
          cases hrest with
          | settled _ answer q h =>
              rw [SlotQueue.leave_join]
              exact .settled .arriving answer { q with slots := p.slots } h.withSlots
          | waits h => exact .enqueued h
          | begins finish h hholder => exact .entered finish h hholder

/-- **Polling has these outcomes only.** -/
theorem poll_polled (p : Pool) (caller : Nat) (r : Request) (now : Nat) (phase : Resolution)
    (hphase : phase = .arriving ∧ (∀ key, (key, caller) ∉ p.slots) ∨ phase = .queued ∨
      ∃ finish, phase = .building finish) :
    Polled p caller r now phase (p.poll caller r now phase).1 (p.poll caller r now phase).2 := by
  rcases hphase with ⟨rfl, habsent⟩ | rfl | ⟨finish, rfl⟩
  · exact polled_arriving p caller r now 0 habsent
  · exact polled_queued p caller r now 2
  · exact polled_building p caller r now finish 3

end Pool

end TestBench
