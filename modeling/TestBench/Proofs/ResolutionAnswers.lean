import TestBench.Proofs.ResolutionPolls

/-!
# The answer of a resolution

`Pool.Polled` says what can come of polling a resolution, and leaves open what the platform has
built. When two runs are compared that is not enough, since the same request has to get the same
answer in both. `Pool.Reached` is exact. A resolution that settles does so with the answer and the
pool of `Pool.resolve`, but for who stands at the slots; only one that was building may have missed
a target that came meanwhile, and then it has the answer of `Pool.build`. Before a resolution
settles, nothing happens to the pool but for the slots.

A single phase is described by the same relation as a poll, which is the composition of its phases
(`Pool.Reached.trans`).
-/

set_option autoImplicit false

namespace TestBench

namespace Pool

variable {p q : Pool} {r : Request} {now : Nat} {phase mid next : Resolution}
  {answer : Except Fault Nat}

/-! ## Answers and slots -/

theorem build_withSlots (p : Pool) (r : Request) (place : Nat) (provider : Provider)
    (slots : SlotQueue) :
    { p with slots := slots }.build r place provider =
      ((p.build r place provider).1, { (p.build r place provider).2 with slots := slots }) := by
  simp only [build]
  split
  · rfl
  · simp only [append]
    split <;> rfl

/-- The answer to a request does not depend on who stands at the slots. -/
theorem resolve_withSlots (p : Pool) (r : Request) (slots : SlotQueue) :
    { p with slots := slots }.resolve r =
      ((p.resolve r).1, { (p.resolve r).2 with slots := slots }) := by
  have hscan : { p with slots := slots }.scan r = p.scan r := rfl
  simp only [resolve, hscan]
  split
  · rfl
  · split
    · rfl
    · exact build_withSlots p r _ _ slots

/-- Without a suitable target a request is answered by building. -/
theorem resolve_of_scan_eq_none {place : Nat} {provider : Provider}
    (hp : p.registry.provider? r.platform = some (place, provider)) (hs : p.scan r = none) :
    p.resolve r = p.build r place provider := by
  simp only [resolve, hp, hs]

/-! ## What is reached -/

/-- Where a resolution has got from a phase at some time, and with which pool. -/
inductive Reached (p : Pool) (r : Request) (now : Nat) (phase : Resolution) :
    Resolution → Pool → Prop where
  /-- It has the answer of a resolution that is alone. -/
  | resolved (slots : SlotQueue) :
      Reached p r now phase (.settled (p.resolve r).1) { (p.resolve r).2 with slots := slots }
  /-- It was building, and has what was built. -/
  | built (finish place : Nat) (provider : Provider) (slots : SlotQueue)
      (hphase : phase = .building finish)
      (hp : p.registry.provider? r.platform = some (place, provider)) :
      Reached p r now phase (.settled (p.build r place provider).1)
        { (p.build r place provider).2 with slots := slots }
  /-- It is not over. If it builds, it did so before, or there is no suitable target and the
  platform takes that long. -/
  | pending (next : Resolution) (slots : SlotQueue) (hnext : ∀ answer, next ≠ .settled answer)
      (hbuilding : ∀ finish, next = .building finish → phase = .building finish ∨
        p.scan r = none ∧ ∃ place provider,
          p.registry.provider? r.platform = some (place, provider) ∧
          finish = now + provider.platform.delay provider.ledger r.parameters r.required) :
      Reached p r now phase next { p with slots := slots }

/-- The answer of a resolution that is alone, where it is known. -/
theorem reached_of_resolve (h : p.resolve r = (answer, q)) (slots : SlotQueue) :
    Reached p r now phase (.settled answer) { q with slots := slots } := by
  have hreached : Reached p r now phase _ _ := .resolved slots
  rw [h] at hreached
  exact hreached

theorem Reached.refl (p : Pool) (r : Request) (now : Nat)
    (hphase : ∀ answer, phase ≠ .settled answer) : Reached p r now phase phase p :=
  .pending phase p.slots hphase fun _ heq => .inl heq

/-- What is reached from where a resolution has got to is reached from where it was. -/
theorem Reached.trans {q' : Pool} (h : Reached p r now phase mid q)
    (hmid : ∀ answer, mid ≠ .settled answer) (h' : Reached q r now mid next q') :
    Reached p r now phase next q' := by
  cases h with
  | resolved slots => exact absurd rfl (hmid _)
  | built finish place provider slots hphase hp => exact absurd rfl (hmid _)
  | pending _ slots _ hbuilding =>
      cases h' with
      | resolved slots' =>
          rw [resolve_withSlots]
          exact .resolved slots'
      | built finish place provider slots' hphase hp =>
          rw [build_withSlots]
          have hp : p.registry.provider? r.platform = some (place, provider) := hp
          rcases hbuilding finish hphase with hbefore | ⟨hs, -⟩
          · exact .built finish place provider slots' hbefore hp
          · -- it has begun to build since, and there was no suitable target then
            exact reached_of_resolve (resolve_of_scan_eq_none hp hs) slots'
      | pending _ slots' hnext hbuilding' =>
          refine .pending next slots' hnext fun finish heq => ?_
          rcases hbuilding' finish heq with hbefore | hnow
          · exact hbuilding finish hbefore
          · exact .inr hnow

/-- **What one phase reaches** of a resolution for a kind that is answered to. -/
theorem reached_of_advance {caller : Nat} (hknown : (p.registry.provider? r.platform).isSome = true)
    (h : p.advance caller r now phase = some (next, q)) : Reached p r now phase next q := by
  obtain ⟨⟨place, provider⟩, hp⟩ := Option.isSome_iff_exists.1 hknown
  cases phase with
  | arriving =>
      simp only [advance, hp] at h
      split at h
      · next serial hs =>
          cases h
          exact reached_of_resolve (resolve_of_scan hknown hs) p.slots
      · cases h
        exact .pending .wanting p.slots (by rintro answer ⟨⟩) (by rintro finish ⟨⟩)
  | wanting =>
      cases h
      exact .pending .queued _ (by rintro answer ⟨⟩) (by rintro finish ⟨⟩)
  | queued =>
      simp only [advance, hp] at h
      split at h
      · split at h
        · next serial hs =>
            cases h
            exact reached_of_resolve (resolve_of_scan hknown hs) _
        · next hs =>
            cases h
            refine .pending _ p.slots (by rintro answer ⟨⟩) fun finish heq =>
              .inr ⟨hs, place, provider, hp, ?_⟩
            exact (Resolution.building.inj heq).symm
      · cases h
  | building finish =>
      simp only [advance, hp] at h
      split at h
      · cases h
        exact .built finish place provider _ rfl hp
      · cases h
  | settled answer => cases h

/-- **What polling reaches**, however many phases it goes through. -/
theorem reached_pollFor {caller : Nat} (n : Nat) (p : Pool) (phase : Resolution)
    (hknown : (p.registry.provider? r.platform).isSome = true)
    (hphase : ∀ answer, phase ≠ .settled answer) :
    Reached p r now phase (pollFor caller r now n phase p).1 (pollFor caller r now n phase p).2 := by
  induction n generalizing p phase with
  | zero => exact .refl p r now hphase
  | succ n ih =>
      rw [pollFor]
      cases ha : p.advance caller r now phase with
      | none => exact .refl p r now hphase
      | some reached =>
          obtain ⟨mid, q⟩ := reached
          have hone := reached_of_advance hknown ha
          by_cases hmid : ∃ answer, mid = .settled answer
          · obtain ⟨answer, rfl⟩ := hmid
            simp only [pollFor_settled]
            exact hone
          · have hmid : ∀ answer, mid ≠ .settled answer := fun answer heq => hmid ⟨answer, heq⟩
            -- a resolution that is not over has not touched the platforms
            have hsame : q.registry = p.registry := by
              cases hone with
              | resolved slots => exact absurd rfl (hmid _)
              | built finish place provider slots hfrom hp => exact absurd rfl (hmid _)
              | pending _ slots _ hbuilding => rfl
            exact hone.trans hmid (ih q mid (hsame ▸ hknown) hmid)

/-- **What a poll reaches.** -/
theorem poll_reached (p : Pool) (caller : Nat) (r : Request) (now : Nat) (phase : Resolution)
    (hknown : (p.registry.provider? r.platform).isSome = true)
    (hphase : ∀ answer, phase ≠ .settled answer) :
    Reached p r now phase (p.poll caller r now phase).1 (p.poll caller r now phase).2 :=
  reached_pollFor phaseCount p phase hknown hphase

/-- **A resolution has the answer of one that is alone**, if no suitable target has come while it
was building. -/
theorem Reached.eq_resolve (h : Reached p r now phase (.settled answer) q)
    (hscan : ∀ finish, phase = .building finish → p.scan r = none) :
    answer = (p.resolve r).1 ∧ ∃ slots, q = { (p.resolve r).2 with slots := slots } := by
  cases h with
  | resolved slots => exact ⟨rfl, slots, rfl⟩
  | built finish place provider slots hphase hp =>
      rw [resolve_of_scan_eq_none hp (hscan finish hphase)]
      exact ⟨rfl, slots, rfl⟩
  | pending _ slots hnext hbuilding => exact absurd rfl (hnext answer)

/-- A resolution that builds did so before, or it has found no suitable target. -/
theorem Reached.of_building {finish : Nat} (h : Reached p r now phase (.building finish) q) :
    phase = .building finish ∨ p.scan r = none ∧ ∃ place provider,
      p.registry.provider? r.platform = some (place, provider) ∧
      finish = now + provider.platform.delay provider.ledger r.parameters r.required := by
  cases h with
  | pending _ slots hnext hbuilding => exact hbuilding finish rfl

end Pool

end TestBench
