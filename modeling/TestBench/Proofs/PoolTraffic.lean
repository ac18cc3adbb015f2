import TestBench.Fleet.Teardown
import TestBench.Proofs.PoolRelease
import TestBench.Proofs.ResolutionPolls

/-!
# Traffic at a pool

A pool is used by many at once. A `Traffic` is a pool together with all that goes on at it: the calls
that are getting a target, each at its own phase, and the leases that are held. One `Traffic.Move` is
one thing that happens: a call comes, goes on by one phase or is given up, a request is resolved while
nobody else is resolving, a lease is dropped, or the pool is torn down while all of that is under way.
A list of moves is an interleaving; a move that cannot be made changes nothing.

A teardown takes targets from the pool on which leases are still held. They are remembered in
`Traffic.gone`, since dropping such a lease closes its connection all the same.

What is true of every pool that is reached is shown once for single changes: `Pool.Kept` says that a
property survives everything that resolutions and leases do to a pool, and `Traffic.pool_after` carries
it through any interleaving.
-/

set_option autoImplicit false

namespace TestBench

/-! ## Single changes -/

namespace Pool

variable {p q : Pool} {r : Request} {answer : Except Fault Nat} {caller now : Nat}

/-- A property of pools survives what resolutions and leases do to a pool. -/
structure Kept (P : Pool → Prop) : Prop where
  /-- Somebody joins or leaves the queue of a slot. -/
  slots : ∀ p slots, P p → P { p with slots := slots }
  /-- A resolution settles. -/
  settled : ∀ p r answer q, Settled p r answer q → P p → P q
  /-- A lease is dropped. -/
  release : ∀ p serial, P p → P (p.release serial)

/-- What comes of one phase of a resolution. -/
inductive Advanced (p : Pool) (r : Request) : Resolution → Pool → Prop where
  /-- The resolution is not over, and at most its place at a slot has changed. -/
  | moved (phase : Resolution) (slots : SlotQueue) (h : ∀ answer, phase ≠ .settled answer) :
      Advanced p r phase { p with slots := slots }
  /-- The resolution is over. -/
  | settled (answer : Except Fault Nat) (q : Pool) (slots : SlotQueue) (h : Settled p r answer q) :
      Advanced p r (.settled answer) { q with slots := slots }

/-- **One phase of a resolution has these outcomes only.** -/
theorem advance_advanced {phase next : Resolution}
    (h : p.advance caller r now phase = some (next, q)) : Advanced p r next q := by
  cases phase with
  | arriving =>
      cases hp : p.registry.provider? r.platform with
      | none =>
          simp only [advance, hp, Option.some.injEq, Prod.mk.injEq] at h
          obtain ⟨rfl, rfl⟩ := h
          exact .settled _ p p.slots (.unknown hp)
      | some found =>
          cases hs : p.scan r with
          | some serial =>
              simp only [advance, hp, hs, Option.some.injEq, Prod.mk.injEq] at h
              obtain ⟨rfl, rfl⟩ := h
              exact .settled _ (p.lease serial) p.slots (.reused serial hs)
          | none =>
              simp only [advance, hp, hs, Option.some.injEq, Prod.mk.injEq] at h
              obtain ⟨rfl, rfl⟩ := h
              apply Advanced.moved
              intro answer heq
              cases heq
  | wanting =>
      simp only [advance, Option.some.injEq, Prod.mk.injEq] at h
      obtain ⟨rfl, rfl⟩ := h
      apply Advanced.moved
      intro answer heq
      cases heq
  | queued =>
      by_cases hholder : p.slots.holder? r.slot = some caller
      · cases hs : p.scan r with
        | some serial =>
            simp only [advance, hholder, if_true, hs, settle, Option.some.injEq,
              Prod.mk.injEq] at h
            obtain ⟨rfl, rfl⟩ := h
            exact .settled _ (p.lease serial) _ (.reused serial hs)
        | none =>
            cases hp : p.registry.provider? r.platform with
            | none =>
                simp only [advance, hholder, if_true, hs, hp, settle, Option.some.injEq,
                  Prod.mk.injEq] at h
                obtain ⟨rfl, rfl⟩ := h
                exact .settled _ p _ (.unknown hp)
            | some found =>
                simp only [advance, hholder, if_true, hs, hp, Option.some.injEq,
                  Prod.mk.injEq] at h
                obtain ⟨rfl, rfl⟩ := h
                apply Advanced.moved
                intro answer heq
                cases heq
      · simp [advance, hholder] at h
  | building finish =>
      by_cases hf : finish ≤ now
      · cases hp : p.registry.provider? r.platform with
        | none =>
            simp only [advance, hf, if_true, hp, settle, Option.some.injEq, Prod.mk.injEq] at h
            obtain ⟨rfl, rfl⟩ := h
            exact .settled _ p _ (.unknown hp)
        | some found =>
            obtain ⟨place, provider⟩ := found
            simp only [advance, hf, if_true, hp, settle, Option.some.injEq, Prod.mk.injEq] at h
            obtain ⟨rfl, rfl⟩ := h
            exact .settled _ _ _ (.built place provider _ _ hp (build_built p r place provider))
      · simp [advance, hf] at h
  | settled answer => simp [advance] at h

/-- A resolution that is alone settles like one among others. -/
theorem Answered.settled (h : Answered p r answer q) : Settled p r answer q := by
  cases h with
  | unknown hp => exact .unknown hp
  | reused serial hp hs => exact .reused serial hs
  | built place provider _ _ hp hs hb => exact .built place provider _ _ hp hb

theorem numbered_kept : Kept Numbered where
  slots _ _ h := ⟨h.ascending, h.lt_built⟩
  settled _ _ _ _ hs h := h.settled hs
  release _ serial h := h.mapConnection serial .closing

/-- The kind of every target in the pool is answered to. -/
def Served (p : Pool) : Prop := ∀ t ∈ p.targets, (p.registry.provider? t.platform).isSome = true

theorem Served.mapConnection (h : Served p) (serial : Nat) (f : Connection → Connection) :
    Served (p.mapConnection serial f) := by
  intro t ht
  obtain ⟨u, hu, rfl⟩ := List.mem_map.1 ht
  have hserved := h u hu
  split
  · exact hserved
  · exact hserved

theorem Served.built {place : Nat} {provider : Provider} (h : Served p)
    (hp : p.registry.provider? r.platform = some (place, provider))
    (hb : Built p r place provider answer q) : Served q := by
  cases hb with
  | failed reason hc => exact fun t ht => Registry.isSome_provider?_note (h t ht)
  | refused t reason hbare hserial hid hr =>
      exact fun u hu => Registry.isSome_provider?_note (h u hu)
  | created t hbare hserial hid hr =>
      intro u hu
      apply Registry.isSome_provider?_note
      rcases List.mem_append.1 hu with hu | hu
      · exact h u hu
      · -- the new target has the kind of the request, and that one was answered to
        rw [List.mem_singleton.1 hu]
        have hplatform : t.platform = r.platform := Target.platform_of_satisfies hr
        show (p.registry.provider? t.platform).isSome = true
        rw [hplatform, hp]
        rfl

theorem served_kept : Kept Served where
  slots _ _ h := h
  settled p r answer q hs h := by
    cases hs with
    | unknown hp => exact h
    | reused serial hr => exact h.mapConnection serial .opening
    | built place provider _ _ hp hb => exact h.built hp hb
  release _ serial h := h.mapConnection serial .closing

/-- Whether targets are kept does not change. -/
theorem keep_kept (keep : Bool) : Kept fun p => p.keep = keep where
  slots _ _ h := h
  settled p r answer q hs h := by
    cases hs with
    | unknown hp => exact h
    | reused serial hr => exact h
    | built place provider _ _ hp hb => exact hb.extends.keep.trans h
  release _ _ h := h

/-- Whatever is said of the targets only is true of a pool that was torn down. -/
theorem numbered_teardown (p : Pool) : Numbered p.teardown.2 := by
  obtain ⟨registry, hempty⟩ := p.teardown_exists_registry
  rw [hempty]
  exact ⟨List.Pairwise.nil, fun _ ht => absurd ht List.not_mem_nil⟩

theorem served_teardown (p : Pool) : Served p.teardown.2 := by
  obtain ⟨registry, hempty⟩ := p.teardown_exists_registry
  rw [hempty]
  exact fun _ ht => absurd ht List.not_mem_nil

theorem keep_teardown {keep : Bool} (h : p.keep = keep) : p.teardown.2.keep = keep := by
  obtain ⟨registry, hempty⟩ := p.teardown_exists_registry
  rw [hempty]
  exact h

end Pool

/-! ## Interleavings -/

/-- The leases that a resolution has come to: one if it has settled with a target. -/
def Resolution.granted : Resolution → List Nat
  | .settled (.ok serial) => [serial]
  | _ => []

/-- A pool with all that goes on at it. -/
structure Traffic where
  /-- The pool. -/
  pool : Pool
  /-- The calls so far, each with its request and its phase; one that was given up is absent. -/
  calls : List (Option (Request × Resolution))
  /-- The targets that teardowns have taken from the pool. -/
  gone : List Target
  /-- The serial number of its target for each lease that is held. -/
  held : List Nat
  /-- The serial number of its target for each lease that was ever taken. -/
  taken : List Nat

namespace Traffic

/-- No traffic at an empty pool. -/
def start (registry : Registry) (keep : Bool) (ids : Nat → TargetId) : Traffic :=
  ⟨.empty registry keep ids, [], [], [], []⟩

/-- All targets that were ever in the pool. -/
def targets (T : Traffic) : List Target := T.gone ++ T.pool.targets

/-- The traffic with another pool, in which some leases were taken. -/
def grant (T : Traffic) (pool : Pool) (leases : List Nat) : Traffic :=
  { T with pool := pool, held := T.held ++ leases, taken := T.taken ++ leases }

/-- One thing that happens at a pool. -/
inductive Move where
  /-- Somebody wants a target, and gets the next number as a caller. -/
  | arrive (r : Request)
  /-- A call goes on by one phase, at some time. -/
  | advance (caller now : Nat)
  /-- A call is given up. -/
  | cancel (caller : Nat)
  /-- A request is resolved while nobody else is resolving. -/
  | resolve (r : Request)
  /-- A lease on the target with a serial number is dropped. -/
  | drop (serial : Nat)
  /-- The pool is torn down. -/
  | teardown

/-- A call goes on by one phase, if there is such a call and it need not wait. -/
def advance (T : Traffic) (caller now : Nat) : Traffic :=
  match T.calls[caller]? with
  | some (some (r, phase)) =>
      match T.pool.advance caller r now phase with
      | some (next, pool) =>
          { T.grant pool next.granted with calls := T.calls.set caller (some (r, next)) }
      | none => T
  | _ => T

/-- The traffic after one move. -/
def perform (T : Traffic) : Move → Traffic
  | .arrive r => { T with calls := T.calls ++ [some (r, .arriving)] }
  | .advance caller now => T.advance caller now
  | .cancel caller =>
      { T with pool := T.pool.cancel caller, calls := T.calls.set caller none }
  | .resolve r =>
      if T.pool.slots.isEmpty then
        let (answer, pool) := T.pool.resolve r
        T.grant pool (Resolution.settled answer).granted
      else T
  | .drop serial =>
      if serial ∈ T.held then
        { T with
          pool := T.pool.release serial
          gone := T.gone.map fun t => if t.serial = serial then t.mapConnection .closing else t
          held := T.held.erase serial }
      else T
  | .teardown => { T with pool := T.pool.teardown.2, gone := T.gone ++ T.pool.targets }

/-- The traffic after some moves, one after the other. -/
def after (T : Traffic) (moves : List Move) : Traffic := moves.foldl perform T

variable {T : Traffic}

/-- What comes of a call that goes on. -/
theorem advance_cases (T : Traffic) (caller now : Nat) :
    T.advance caller now = T ∨ ∃ r next pool calls, Pool.Advanced T.pool r next pool ∧
      T.advance caller now = { T.grant pool next.granted with calls := calls } := by
  rw [Traffic.advance]
  split
  · next r phase hcall =>
      split
      · next next pool hadvance =>
          exact .inr ⟨r, next, pool, _, Pool.advance_advanced hadvance, rfl⟩
      · exact .inl rfl
  · exact .inl rfl

/-- **Whatever every move preserves is true after any moves.** -/
theorem after_induction {P : Traffic → Prop} (hkeep : ∀ T move, P T → P (T.perform move))
    (h : P T) (moves : List Move) : P (T.after moves) := by
  induction moves generalizing T with
  | nil => exact h
  | cons move rest ih => exact ih (hkeep T move h)

/-- **A property that is kept by single changes is true of the pool after every move.** -/
theorem pool_perform {P : Pool → Prop} (hkept : Pool.Kept P)
    (hteardown : ∀ p, P p → P p.teardown.2) (h : P T.pool) (move : Move) :
    P (T.perform move).pool := by
  cases move with
  | arrive r => exact h
  | advance caller now =>
      rcases T.advance_cases caller now with heq | ⟨r, next, pool, calls, hadvanced, heq⟩
      · rw [perform, heq]
        exact h
      · rw [perform, heq]
        cases hadvanced with
        | moved phase slots _ => exact hkept.slots _ _ h
        | settled answer q slots hs => exact hkept.slots _ _ (hkept.settled _ _ _ _ hs h)
  | cancel caller => exact hkept.slots _ _ h
  | resolve r =>
      rw [perform]
      split
      · exact hkept.settled _ _ _ _ (Pool.resolve_answered T.pool r).settled h
      · exact h
  | drop serial =>
      rw [perform]
      split
      · exact hkept.release _ _ h
      · exact h
  | teardown => exact hteardown _ h

theorem pool_after {P : Pool → Prop} (hkept : Pool.Kept P)
    (hteardown : ∀ p, P p → P p.teardown.2) (h : P T.pool) (moves : List Move) :
    P (T.after moves).pool :=
  after_induction (P := fun T => P T.pool)
    (fun _ move hP => pool_perform hkept hteardown hP move) h moves

end Traffic

end TestBench
