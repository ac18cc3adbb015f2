import Mathlib.Data.List.Permutation
import TestBench.Fleet.Teardown
import TestBench.Proofs.PoolTraffic
import TestBench.Proofs.ResolutionSteps

/-!
# No target is built twice

Many resolutions at one pool may be in the middle of anything, and the first scan of each of them is
made without any guard. A `Crowd` is a pool with all of its resolutions, each at its stage, and a
`Crowd.Move` is the smallest thing that can happen: one stride of one resolution, one that is given
up, a lease that is dropped, or a step of a teardown, which first takes all targets out of the pool
and then deletes them one by one. So a list of moves is an interleaving of all of that.

The crowd remembers what a pool does not: which resolution each target was built for
(`Crowd.origins`), and who began to build and how that ended (`Crowd.history`). `Crowd.Guarded` is
what every move preserves. Its heart is that nobody else appends a target of a slot while its holder
is building, so that what the holder has seen in the second scan stays true until it appends its own.
-/

set_option autoImplicit false

namespace TestBench

/-- What a target in the pool was built for. -/
structure Origin where
  /-- The number of the resolution. -/
  caller : Nat
  /-- Its request. -/
  request : Request
  /-- The target as it was built. -/
  target : Target

/-- What is remembered of a crowd. -/
inductive Happening where
  /-- The second scan of a resolution has found nothing, and a platform is asked. -/
  | began (caller : Nat) (r : Request)
  /-- The platform has built nothing for it. -/
  | failed (caller : Nat)
  /-- The platform has built a target that may not serve it. -/
  | refused (caller : Nat)
  /-- The resolution was given up. -/
  | gaveUp (caller : Nat)
  /-- A teardown has taken these targets from the pool. -/
  | drained (origins : List Origin)

/-- A pool with all resolutions at it. -/
structure Crowd where
  /-- The pool. -/
  pool : Pool
  /-- The resolutions so far, each with its request and its stage; one that was given up is absent. -/
  calls : List (Option (Request × Stage))
  /-- What the targets in the pool were built for, in their order. -/
  origins : List Origin
  /-- The targets that teardowns have taken from the pool and not yet dealt with. -/
  doomed : List Target
  /-- What has happened, in order. -/
  history : List Happening

namespace Crowd

/-- Nobody at an empty pool. -/
def start (registry : Registry) (keep : Bool) (ids : Nat → TargetId) : Crowd :=
  ⟨.empty registry keep ids, [], [], [], []⟩

/-- A resolution has a request and stands at a stage. -/
def At (C : Crowd) (caller : Nat) (r : Request) (stage : Stage) : Prop :=
  C.calls[caller]? = some (some (r, stage))

/-! ## Moves -/

/-- One thing that happens. -/
inductive Move where
  /-- Somebody wants a target, and gets the next number as a caller. -/
  | arrive (r : Request)
  /-- A resolution takes one step. -/
  | stride (caller : Nat)
  /-- A resolution that has no answer yet is given up. -/
  | cancel (caller : Nat)
  /-- A lease on the target with a serial number is dropped. -/
  | drop (serial : Nat)
  /-- A teardown takes all targets from the pool. -/
  | drain
  /-- A teardown deals with the next target that was taken from the pool. -/
  | dismiss

/-- What the target that is appended between two stages was built for. -/
def appended (caller : Nat) (r : Request) : Stage → Stage → List Origin
  | .built t, .leaving (.ok _) => [⟨caller, r, t⟩]
  | _, _ => []

/-- What is remembered of a step between two stages. -/
def noted (caller : Nat) (r : Request) : Stage → Stage → List Happening
  | .holding, .lacking => [.began caller r]
  | .lacking, .leaving _ => [.failed caller]
  | .built _, .leaving (.error _) => [.refused caller]
  | _, _ => []

/-- A resolution goes from one stage to another, which leaves the pool as given. -/
def move (C : Crowd) (caller : Nat) (r : Request) (stage next : Stage) (pool : Pool) : Crowd :=
  { C with
    pool := pool
    calls := C.calls.set caller (some (r, next))
    origins := C.origins ++ appended caller r stage next
    history := C.history ++ noted caller r stage next }

/-- A resolution takes one step, if it is there and need not wait. -/
def stride (C : Crowd) (caller : Nat) : Crowd :=
  match C.calls[caller]? with
  | some (some (r, stage)) =>
      match C.pool.stride caller r stage with
      | some (next, pool) => C.move caller r stage next pool
      | none => C
  | _ => C

/-- A resolution is given up, if it is there and has no answer. -/
def cancel (C : Crowd) (caller : Nat) : Crowd :=
  match C.calls[caller]? with
  | some (some (_, stage)) =>
      if stage.isAnswered then C
      else
        { C with
          pool := C.pool.cancel caller
          calls := C.calls.set caller none
          history := C.history ++ [.gaveUp caller] }
  | _ => C

/-- The crowd after one move. -/
def perform (C : Crowd) : Move → Crowd
  | .arrive r => { C with calls := C.calls ++ [some (r, .arriving)] }
  | .stride caller => C.stride caller
  | .cancel caller => C.cancel caller
  | .drop serial => { C with pool := C.pool.release serial }
  | .drain =>
      { C with
        pool := { C.pool with targets := [] }
        origins := []
        doomed := C.doomed ++ C.pool.targets
        history := C.history ++ [.drained C.origins] }
  | .dismiss =>
      match C.doomed with
      | [] => C
      | t :: rest => { C with pool := (Pool.dismiss (Teardown.none, C.pool) t).2, doomed := rest }

/-- The crowd after some moves, one after the other. -/
def after (C : Crowd) (moves : List Move) : Crowd := moves.foldl perform C

variable {C : Crowd} {caller j : Nat} {r s : Request} {stage next : Stage} {pool : Pool}

/-- **Whatever every move preserves is true after any moves.** -/
theorem after_induction {P : Crowd → Prop} (hkeep : ∀ C move, P C → P (C.perform move)) (h : P C)
    (moves : List Move) : P (C.after moves) := by
  induction moves generalizing C with
  | nil => exact h
  | cons move rest ih => exact ih (hkeep C move h)

/-! ## What became of a resolution that began to build -/

/-- What somebody has begun to build is not in the pool, and will not be: nothing or something
unsuitable was built, the resolution was given up, or a teardown has taken its target. -/
def Ended (caller : Nat) (later : List Happening) : Prop :=
  .failed caller ∈ later ∨ .refused caller ∈ later ∨ .gaveUp caller ∈ later ∨
    ∃ origins, .drained origins ∈ later ∧ ∃ o ∈ origins, o.caller = caller

theorem Ended.append {later : List Happening} (h : Ended caller later) (rest : List Happening) :
    Ended caller (later ++ rest) := by
  rcases h with h | h | h | ⟨origins, h, ho⟩
  · exact .inl (List.mem_append_left _ h)
  · exact .inr (.inl (List.mem_append_left _ h))
  · exact .inr (.inr (.inl (List.mem_append_left _ h)))
  · exact .inr (.inr (.inr ⟨origins, List.mem_append_left _ h, ho⟩))

/-- An entry of a list with one more at its end is that last one, or stood there before. -/
theorem split_concat {α : Type} {l before later : List α} {e x : α}
    (h : l ++ [e] = before ++ x :: later) :
    (∃ rest, later = rest ++ [e] ∧ l = before ++ x :: rest) ∨
      (later = [] ∧ x = e ∧ before = l) := by
  rcases List.eq_nil_or_concat later with rfl | ⟨rest, y, rfl⟩
  · obtain ⟨hl, hx⟩ := List.append_inj' h rfl
    exact .inr ⟨rfl, (List.cons.inj hx).1.symm, hl.symm⟩
  · have h' : l ++ [e] = (before ++ x :: rest) ++ [y] := by simpa using h
    obtain ⟨hl, hy⟩ := List.append_inj' h' rfl
    exact .inl ⟨rest, by rw [(List.cons.inj hy).1, List.concat_eq_append], hl⟩

/-! ## What every move preserves -/

/-- A resolution is building a target for its request. -/
def Building (C : Crowd) (caller : Nat) (r : Request) : Prop :=
  ∃ stage, C.At caller r stage ∧ stage.builds = true

/-- What somebody has begun to build has ended, is still being built, or is in the pool. -/
def Accounted (C : Crowd) (caller : Nat) (r : Request) (later : List Happening) : Prop :=
  Ended caller later ∨ C.Building caller r ∨ ∃ o ∈ C.origins, o.caller = caller ∧ o.request = r

/-- The slots are guarded. -/
structure Guarded (C : Crowd) : Prop where
  /-- Who has acquired a slot is at the head of its queue. -/
  holder : ∀ caller r stage, C.At caller r stage → stage.holds = true →
    C.pool.slots.holder? r.slot = some caller
  /-- It is known what each target in the pool was built for. -/
  bare : C.pool.bare = C.origins.map fun o => o.target.bare
  /-- Each target in the pool may serve the request that it was built for. -/
  fits : ∀ o ∈ C.origins, o.target.satisfies o.request = true
  /-- While somebody builds, no target of the slot may serve the request. -/
  lacking : ∀ caller r, C.Building caller r →
    ∀ o ∈ C.origins, o.request.slot = r.slot → o.target.satisfies r = false
  /-- Whoever began to build is accounted for. -/
  accounted : ∀ before caller r later, C.history = before ++ .began caller r :: later →
    C.Accounted caller r later
  /-- Nobody begins to build what somebody else has begun to build, unless that has ended. -/
  once : ∀ before caller r between caller' r' later,
    C.history = before ++ .began caller r :: (between ++ .began caller' r' :: later) →
    r'.slot = r.slot → (∀ t : Target, t.satisfies r = true → t.satisfies r' = true) →
    Ended caller between

theorem guarded_start (registry : Registry) (keep : Bool) (ids : Nat → TargetId) :
    Guarded (start registry keep ids) := by
  constructor
  case holder => intro caller r stage h; cases h
  case bare => rfl
  case fits => intro o h; cases h
  case lacking => rintro caller r ⟨stage, h, -⟩; cases h
  case accounted => intro before caller r later h; simp [start] at h
  case once => intro before caller r between caller' r' later h; simp [start] at h

/-- **At most one resolution holds a slot.** -/
theorem Guarded.eq_of_holds (h : Guarded C) {stage' : Stage} (hc : C.At caller r stage)
    (hj : C.At j s stage') (hholds : stage.holds = true) (hholds' : stage'.holds = true)
    (hslot : r.slot = s.slot) : caller = j := by
  have hfirst := h.holder caller r stage hc hholds
  have hsecond := h.holder j s stage' hj hholds'
  rw [hslot, hsecond, Option.some.injEq] at hfirst
  exact hfirst.symm

/-! ### Where the others stand -/

theorem at_unique (h : C.At caller r stage) (h' : C.At caller s next) : r = s ∧ stage = next := by
  rw [At] at h h'
  rw [h, Option.some.injEq, Option.some.injEq, Prod.mk.injEq] at h'
  exact h'

/-- When one call is replaced, the others stand where they stood. -/
theorem at_set_iff {D : Crowd} {call : Option (Request × Stage)} (h : C.At caller r stage)
    (hcalls : D.calls = C.calls.set caller call) :
    D.At j s next ↔ (j = caller ∧ call = some (s, next)) ∨ (j ≠ caller ∧ C.At j s next) := by
  have hlt : caller < C.calls.length := (List.getElem?_eq_some_iff.1 h).1
  rw [At, hcalls]
  by_cases hj : j = caller
  · subst hj
    simp [List.getElem?_set_self hlt]
  · simp [List.getElem?_set_ne fun heq => hj heq.symm, hj, At]

/-- When one call is replaced, the others build if they did. -/
theorem building_set_iff {D : Crowd} {call : Option (Request × Stage)} (h : C.At caller r stage)
    (hcalls : D.calls = C.calls.set caller call) :
    D.Building j s ↔ (j = caller ∧ ∃ next, call = some (s, next) ∧ next.builds = true) ∨
      (j ≠ caller ∧ C.Building j s) := by
  simp only [Building, at_set_iff h hcalls]
  by_cases hj : j = caller <;> simp [hj]

theorem not_building_of_at (h : C.At caller r stage) (hbuilds : stage.builds = false) :
    ¬ C.Building caller s := by
  rintro ⟨stage', h', hbuilds'⟩
  rw [← (at_unique h h').2, hbuilds] at hbuilds'
  cases hbuilds'

/-- Who holds a slot goes on holding it when somebody else moves. -/
theorem Guarded.holder_set {D : Crowd} {call : Option (Request × Stage)} (h : Guarded C)
    (hcaller : C.At caller r stage) (hcalls : D.calls = C.calls.set caller call)
    (hothers : ∀ key j, j ≠ caller → C.pool.slots.holder? key = some j →
      D.pool.slots.holder? key = some j)
    (hself : ∀ s next, call = some (s, next) → next.holds = true →
      D.pool.slots.holder? s.slot = some caller) :
    ∀ j s next, D.At j s next → next.holds = true → D.pool.slots.holder? s.slot = some j := by
  intro j s next hj hholds
  rcases (at_set_iff hcaller hcalls).1 hj with ⟨rfl, hcall⟩ | ⟨hne, hj⟩
  · exact hself s next hcall hholds
  · exact hothers s.slot j hne (h.holder j s next hj hholds)

/-! ### Kinds of moves -/

/-- Where an entry was added to the history, whoever began to build is accounted for if they were
before and the added entry says so of those that begin now. -/
theorem accounted_concat {D : Crowd} {e : Happening} (h : Guarded C)
    (hhistory : D.history = C.history ++ [e])
    (hold : ∀ caller r later, C.Accounted caller r later → D.Accounted caller r (later ++ [e]))
    (hnew : ∀ caller r, e = .began caller r → D.Accounted caller r []) :
    ∀ before caller r later, D.history = before ++ .began caller r :: later →
      D.Accounted caller r later := by
  intro before caller r later hsplit
  rw [hhistory] at hsplit
  rcases split_concat hsplit with ⟨rest, rfl, hbefore⟩ | ⟨rfl, he, -⟩
  · exact hold caller r rest (h.accounted before caller r rest hbefore)
  · exact hnew caller r he.symm

/-- Where an entry was added to the history, only a resolution that begins now could have begun what
somebody else has. -/
theorem once_concat {D : Crowd} {e : Happening} (h : Guarded C)
    (hhistory : D.history = C.history ++ [e])
    (hnew : ∀ caller' r', e = .began caller' r' → ∀ before caller r between,
      C.history = before ++ .began caller r :: between → r'.slot = r.slot →
      (∀ t : Target, t.satisfies r = true → t.satisfies r' = true) → Ended caller between) :
    ∀ before caller r between caller' r' later,
      D.history = before ++ .began caller r :: (between ++ .began caller' r' :: later) →
      r'.slot = r.slot → (∀ t : Target, t.satisfies r = true → t.satisfies r' = true) →
      Ended caller between := by
  intro before caller r between caller' r' later hsplit hslot hle
  have hsplit' : C.history ++ [e] =
      (before ++ .began caller r :: between) ++ .began caller' r' :: later := by
    rw [← hhistory, hsplit]
    simp
  rcases split_concat hsplit' with ⟨rest, -, hbefore⟩ | ⟨-, he, hbefore⟩
  · refine h.once before caller r between caller' r' rest ?_ hslot hle
    rw [hbefore]
    simp
  · exact hnew caller' r' he.symm before caller r between hbefore.symm hslot hle

/-- A move that nobody begins or ends to build by, and that appends and takes no target. -/
theorem Guarded.calm {D : Crowd} (h : Guarded C) (hbare : D.pool.bare = C.pool.bare)
    (horigins : D.origins = C.origins) (hhistory : D.history = C.history)
    (hbuilding : ∀ j s, D.Building j s ↔ C.Building j s)
    (hholder : ∀ j s next, D.At j s next → next.holds = true →
      D.pool.slots.holder? s.slot = some j) : Guarded D := by
  constructor
  case holder => exact hholder
  case bare => rw [hbare, horigins, h.bare]
  case fits => rw [horigins]; exact h.fits
  case lacking =>
    intro j s hj
    rw [horigins]
    exact h.lacking j s ((hbuilding j s).1 hj)
  case accounted =>
    intro before caller r later hsplit
    rw [hhistory] at hsplit
    rw [Accounted, hbuilding, horigins]
    exact h.accounted before caller r later hsplit
  case once => rw [hhistory]; exact h.once

/-- A resolution that was building has failed, was refused or was given up. -/
theorem Guarded.closing {D : Crowd} {e : Happening} (h : Guarded C) (hcaller : C.At caller r stage)
    {call : Option (Request × Stage)} (hcalls : D.calls = C.calls.set caller call)
    (hcall : ∀ s next, call = some (s, next) → next.builds = false)
    (hbare : D.pool.bare = C.pool.bare) (horigins : D.origins = C.origins)
    (hhistory : D.history = C.history ++ [e])
    (hended : Ended caller [e]) (hnew : ∀ j s, e ≠ .began j s)
    (hholder : ∀ j s next, D.At j s next → next.holds = true →
      D.pool.slots.holder? s.slot = some j) : Guarded D := by
  have hbuilding : ∀ {j s}, D.Building j s ↔ j ≠ caller ∧ C.Building j s := by
    intro j s
    rw [building_set_iff hcaller hcalls]
    refine or_iff_right ?_
    rintro ⟨-, next, hnext, hbuilds⟩
    rw [hcall s next hnext] at hbuilds
    cases hbuilds
  constructor
  case holder => exact hholder
  case bare => rw [hbare, horigins, h.bare]
  case fits => rw [horigins]; exact h.fits
  case lacking =>
    intro j s hj
    rw [horigins]
    exact h.lacking j s (hbuilding.1 hj).2
  case accounted =>
    refine accounted_concat h hhistory ?_ fun j s he => absurd he (hnew j s)
    intro j s later hj
    rcases hj with hj | hj | hj
    · exact .inl (hj.append [e])
    · by_cases heq : j = caller
      · -- the one that was building is the one whose end was noted
        subst heq
        refine .inl ?_
        rcases hended with h | h | h | ⟨origins, h, ho⟩
        · exact .inl (List.mem_append_right _ h)
        · exact .inr (.inl (List.mem_append_right _ h))
        · exact .inr (.inr (.inl (List.mem_append_right _ h)))
        · exact .inr (.inr (.inr ⟨origins, List.mem_append_right _ h, ho⟩))
      · exact .inr (.inl (hbuilding.2 ⟨heq, hj⟩))
    · exact .inr (.inr (horigins ▸ hj))
  case once => exact once_concat h hhistory fun j s he => absurd he (hnew j s)

/-! ### Every move -/

theorem bare_append (p : Pool) (t : Target) :
    { p with targets := p.targets ++ [t.mapConnection .opening] : Pool }.bare =
      p.bare ++ [t.bare] := by
  simp [Pool.bare]

/-- Scanning finds nothing if no target that is remembered may serve the request. -/
theorem Guarded.scan_eq_none_iff (h : Guarded C) :
    C.pool.scan r = none ↔ ∀ o ∈ C.origins, o.target.satisfies r = false := by
  rw [Pool.scan_eq_bare, h.bare]
  simp only [Option.map_eq_none_iff, List.find?_eq_none, List.mem_map]
  constructor
  · intro hnone o ho
    exact Bool.eq_false_iff.2 (hnone o.target.bare ⟨o, ho, rfl⟩)
  · rintro hnone _ ⟨o, ho, rfl⟩
    exact Bool.eq_false_iff.1 (hnone o ho)

/-- A resolution begins to build. -/
theorem Guarded.lacks (h : Guarded C) (hcaller : C.At caller r .holding)
    (hscan : C.pool.scan r = none) :
    Guarded (C.move caller r .holding .lacking C.pool) := by
  have hbuilding : ∀ {j s}, (C.move caller r .holding .lacking C.pool).Building j s ↔
      (j = caller ∧ s = r) ∨ (j ≠ caller ∧ C.Building j s) := by
    intro j s
    rw [building_set_iff hcaller rfl]
    refine or_congr_left (and_congr_right fun _ => ?_)
    constructor
    · rintro ⟨next, hnext, -⟩
      cases hnext
      rfl
    · rintro rfl
      exact ⟨.lacking, rfl, rfl⟩
  have hnone := h.scan_eq_none_iff.1 hscan
  constructor
  case holder =>
    refine h.holder_set hcaller rfl (fun _ _ _ hj => hj) fun s next hnext _ => ?_
    cases hnext
    exact h.holder caller r .holding hcaller rfl
  case bare =>
    show C.pool.bare = (C.origins ++ []).map fun o : Origin => o.target.bare
    rw [List.append_nil, h.bare]
  case fits =>
    intro o ho
    exact h.fits o (by simpa [move, appended] using ho)
  case lacking =>
    intro j s hj o ho hslot
    have horigin : o ∈ C.origins := by simpa [move, appended] using ho
    rcases hbuilding.1 hj with ⟨-, rfl⟩ | ⟨-, hj⟩
    · exact hnone o horigin
    · exact h.lacking j s hj o horigin hslot
  case accounted =>
    refine accounted_concat h rfl ?_ ?_
    · intro j s later hj
      rcases hj with hj | hj | ⟨o, ho, horigin⟩
      · exact .inl (hj.append _)
      · refine .inr (.inl (hbuilding.2 (.inr ⟨?_, hj⟩)))
        rintro rfl
        exact not_building_of_at hcaller rfl hj
      · exact .inr (.inr ⟨o, List.mem_append_left _ ho, horigin⟩)
    · rintro j s he
      cases he
      exact .inr (.inl (hbuilding.2 (.inl ⟨rfl, rfl⟩)))
  case once =>
    refine once_concat h rfl ?_
    intro j s he before c rc between hbefore hslot hle
    cases he
    -- an earlier one that still builds would hold the slot, and one whose target is in the pool
    -- would have been found by the scan
    rcases h.accounted before c rc between hbefore with hended | ⟨stage, hc, hbuilds⟩ |
      ⟨o, ho, -, horequest⟩
    · exact hended
    · have hsame := h.eq_of_holds hc hcaller (Stage.holds_of_builds hbuilds) rfl hslot.symm
      subst hsame
      rw [(at_unique hc hcaller).2] at hbuilds
      cases hbuilds
    · have hserves := hle o.target (horequest ▸ h.fits o ho)
      rw [hnone o ho] at hserves
      cases hserves

/-- A resolution appends its target. -/
theorem Guarded.pushes {t : Target} (h : Guarded C) (hcaller : C.At caller r (.built t))
    (hfits : t.satisfies r = true) :
    Guarded (C.move caller r (.built t) (.leaving (.ok t.serial))
      { C.pool with targets := C.pool.targets ++ [t.mapConnection .opening] }) := by
  have hbuilding : ∀ {j s}, (C.move caller r (.built t) (.leaving (.ok t.serial))
      { C.pool with targets := C.pool.targets ++ [t.mapConnection .opening] }).Building j s ↔
      j ≠ caller ∧ C.Building j s := by
    intro j s
    rw [building_set_iff hcaller rfl]
    refine or_iff_right ?_
    rintro ⟨-, next, hnext, hbuilds⟩
    cases hnext
    cases hbuilds
  constructor
  case holder =>
    refine h.holder_set hcaller rfl (fun _ _ _ hj => hj) fun s next hnext _ => ?_
    cases hnext
    exact h.holder caller r _ hcaller rfl
  case bare =>
    refine (bare_append C.pool t).trans ?_
    rw [h.bare]
    simp [move, appended]
  case fits =>
    intro o ho
    rcases List.mem_append.1 ho with ho | ho
    · exact h.fits o ho
    · rw [List.mem_singleton.1 ho]
      exact hfits
  case lacking =>
    intro j s hj o ho hslot
    obtain ⟨hne, hj⟩ := hbuilding.1 hj
    rcases List.mem_append.1 ho with ho | ho
    · exact h.lacking j s hj o ho hslot
    · -- whoever else builds has another slot than the one that appends
      rw [List.mem_singleton.1 ho] at hslot
      obtain ⟨stage, hat, hbuilds⟩ := hj
      exact absurd (h.eq_of_holds hat hcaller (Stage.holds_of_builds hbuilds) rfl hslot.symm) hne
  case accounted =>
    intro before j s later hsplit
    have hsplit : C.history = before ++ .began j s :: later := by
      simpa [move, noted] using hsplit
    rcases h.accounted before j s later hsplit with hended | hj | ⟨o, ho, horigin⟩
    · exact .inl hended
    · by_cases heq : j = caller
      · subst heq
        obtain ⟨stage, hat, -⟩ := hj
        refine .inr (.inr ⟨⟨j, r, t⟩, List.mem_append_right _ (List.mem_singleton_self _), rfl, ?_⟩)
        exact (at_unique hcaller hat).1
      · exact .inr (.inl (hbuilding.2 ⟨heq, hj⟩))
    · exact .inr (.inr ⟨o, List.mem_append_left _ ho, horigin⟩)
  case once =>
    have hhistory : (C.move caller r (.built t) (.leaving (.ok t.serial))
        { C.pool with targets := C.pool.targets ++ [t.mapConnection .opening] }).history =
        C.history := List.append_nil _
    rw [hhistory]
    exact h.once

/-- A teardown takes all targets. -/
theorem Guarded.drain (h : Guarded C) : Guarded (C.perform .drain) := by
  constructor
  case holder => exact h.holder
  case bare => rfl
  case fits => intro o ho; cases ho
  case lacking => intro j s hj o ho; cases ho
  case accounted =>
    refine accounted_concat (C := C) h rfl ?_ fun j s he => by cases he
    intro j s later hj
    rcases hj with hj | hj | ⟨o, ho, hcaller, -⟩
    · exact .inl (hj.append _)
    · exact .inr (.inl hj)
    · refine .inl (.inr (.inr (.inr ⟨C.origins, ?_, o, ho, hcaller⟩)))
      exact List.mem_append_right _ (List.mem_singleton_self _)
  case once => exact once_concat (C := C) h rfl fun j s he => by cases he

/-- A step by which nothing is begun, ended, appended or taken. -/
theorem Guarded.calm_move (h : Guarded C) (hcaller : C.At caller r stage)
    (hbare : pool.bare = C.pool.bare) (happended : appended caller r stage next = [])
    (hnoted : noted caller r stage next = []) (hbuilds : next.builds = stage.builds)
    (hothers : ∀ key j, j ≠ caller → C.pool.slots.holder? key = some j →
      pool.slots.holder? key = some j)
    (hself : next.holds = true → pool.slots.holder? r.slot = some caller) :
    Guarded (C.move caller r stage next pool) := by
  refine h.calm hbare ?_ ?_ ?_ ?_
  · show C.origins ++ appended caller r stage next = C.origins
    rw [happended, List.append_nil]
  · show C.history ++ noted caller r stage next = C.history
    rw [hnoted, List.append_nil]
  · intro j s
    rw [building_set_iff hcaller rfl]
    by_cases hj : j = caller
    · subst hj
      simp only [true_and, ne_eq, not_true_eq_false, false_and, or_false, Option.some.injEq,
        Prod.mk.injEq]
      constructor
      · rintro ⟨_, ⟨rfl, rfl⟩, hb⟩
        exact ⟨stage, hcaller, hbuilds ▸ hb⟩
      · rintro ⟨stage', hat, hb⟩
        obtain ⟨rfl, rfl⟩ := at_unique hcaller hat
        exact ⟨next, ⟨rfl, rfl⟩, hbuilds.trans hb⟩
    · simp [hj]
  · refine h.holder_set hcaller rfl hothers fun s stage' hnext hholds => ?_
    cases hnext
    exact hself hholds

/-- **Every step of a resolution leaves the slots guarded.** -/
theorem Guarded.move (h : Guarded C) (hcaller : C.At caller r stage)
    (hstrode : C.pool.Strode caller r stage next pool) :
    Guarded (C.move caller r stage next pool) := by
  cases hstrode with
  | unknown hp => exact h.calm_move hcaller rfl rfl rfl rfl (fun _ _ _ hj => hj) nofun
  | found serial hs =>
      exact h.calm_move hcaller (C.pool.bare_lease serial) rfl rfl rfl (fun _ _ _ hj => hj) nofun
  | wants hs => exact h.calm_move hcaller rfl rfl rfl rfl (fun _ _ _ hj => hj) nofun
  | joins =>
      refine h.calm_move hcaller rfl rfl rfl rfl (fun key j _ hj => ?_) nofun
      show (C.pool.slots.join r.slot caller).holder? key = some j
      rw [SlotQueue.holder?_join, hj]
      rfl
  | acquires hholder =>
      exact h.calm_move hcaller rfl rfl rfl rfl (fun _ _ _ hj => hj) fun _ => hholder
  | reuses serial hs =>
      exact h.calm_move hcaller (C.pool.bare_lease serial) rfl rfl rfl (fun _ _ _ hj => hj)
        fun _ => h.holder caller r .holding hcaller rfl
  | lacks hs => exact h.lacks hcaller hs
  | fails fault registry =>
      refine h.closing (e := .failed caller) hcaller rfl ?_ rfl (List.append_nil _) rfl
        (.inl (List.mem_singleton_self _)) nofun ?_
      · rintro s next hnext
        cases hnext
        rfl
      · refine h.holder_set hcaller rfl (fun _ _ _ hj => hj) fun s next hnext _ => ?_
        cases hnext
        exact h.holder caller r .lacking hcaller rfl
  | builds t registry =>
      exact h.calm_move hcaller rfl rfl rfl rfl (fun _ _ _ hj => hj)
        fun _ => h.holder caller r .lacking hcaller rfl
  | refuses t fault hs =>
      refine h.closing (e := .refused caller) hcaller rfl ?_ rfl (List.append_nil _) rfl
        (.inr (.inl (List.mem_singleton_self _))) nofun ?_
      · rintro s next hnext
        cases hnext
        rfl
      · refine h.holder_set hcaller rfl (fun _ _ _ hj => hj) fun s next hnext _ => ?_
        cases hnext
        exact h.holder caller r _ hcaller rfl
  | pushes t hs => exact h.pushes hcaller hs
  | leaves answer =>
      refine h.calm_move hcaller rfl rfl rfl rfl (fun key j hne hj => ?_) nofun
      exact SlotQueue.holder?_leave_of_ne hj hne

theorem Guarded.cancel (h : Guarded C) (caller : Nat) : Guarded (C.cancel caller) := by
  rw [Crowd.cancel]
  split
  · next r stage hcaller =>
      split
      · exact h
      · refine h.closing (e := .gaveUp caller) hcaller rfl nofun rfl rfl rfl
          (.inr (.inr (.inl (List.mem_singleton_self _)))) nofun ?_
        refine h.holder_set hcaller rfl (fun key j hne hj => ?_) nofun
        exact SlotQueue.holder?_leave_of_ne hj hne
  · exact h

theorem Guarded.arrive (h : Guarded C) (r : Request) : Guarded (C.perform (.arrive r)) := by
  have hat : ∀ {j s next}, (C.perform (.arrive r)).At j s next ↔
      C.At j s next ∨ (j = C.calls.length ∧ s = r ∧ next = .arriving) := by
    intro j s next
    simp only [At, Crowd.perform, List.getElem?_append, List.getElem?_singleton]
    split
    · next hlt => simp [Nat.ne_of_lt hlt]
    · next hge =>
        have hnone : C.calls[j]? = none := List.getElem?_eq_none (Nat.le_of_not_lt hge)
        simp only [hnone]
        have hj : j - C.calls.length = 0 ↔ j = C.calls.length := by omega
        split
        · next hz => simp [hj.1 hz, eq_comm]
        · next hz => simp [mt hj.2 hz]
  refine h.calm rfl rfl rfl ?_ ?_
  · intro j s
    simp only [Building, hat]
    constructor
    · rintro ⟨stage, hj | ⟨-, -, rfl⟩, hbuilds⟩
      · exact ⟨stage, hj, hbuilds⟩
      · cases hbuilds
    · rintro ⟨stage, hj, hbuilds⟩
      exact ⟨stage, .inl hj, hbuilds⟩
  · intro j s next hj hholds
    rcases hat.1 hj with hj | ⟨-, -, rfl⟩
    · exact h.holder j s next hj hholds
    · cases hholds

/-- **Every move leaves the slots guarded.** -/
theorem Guarded.perform (h : Guarded C) (move : Move) : Guarded (C.perform move) := by
  cases move with
  | arrive r => exact h.arrive r
  | stride caller =>
      show Guarded (C.stride caller)
      rw [Crowd.stride]
      split
      · next r stage hcaller =>
          split
          · next next pool hstride =>
              exact h.move hcaller (Pool.strode_of_stride hstride)
          · exact h
      · exact h
  | cancel caller => exact h.cancel caller
  | drop serial =>
      exact h.calm (Pool.bare_mapConnection _ _ _) rfl rfl (fun _ _ => Iff.rfl) h.holder
  | drain => exact h.drain
  | dismiss =>
      rw [Crowd.perform]
      split
      · exact h
      · next t rest hdoomed =>
          obtain ⟨registry, hpool⟩ :=
            (Pool.dismiss_dismissed C.pool Teardown.none t).exists_registry
          rw [hpool]
          exact h.calm rfl rfl rfl (fun _ _ => Iff.rfl) h.holder

theorem guarded_after (registry : Registry) (keep : Bool) (ids : Nat → TargetId)
    (moves : List Move) : Guarded ((start registry keep ids).after moves) :=
  after_induction (fun _ move h => h.perform move) (guarded_start registry keep ids) moves

/-! ## Teardowns -/

/-- What becomes of the pool does not depend on what was reported before. -/
theorem dismiss_snd (done : Teardown) (p : Pool) (t : Target) :
    (Pool.dismiss (done, p) t).2 = (Pool.dismiss (Teardown.none, p) t).2 := by
  simp only [Pool.dismiss, Pool.deprovision]
  split
  · rfl
  · split
    · rfl
    · split
      · rfl
      · rfl

/-- As many dismissals as there are doomed targets deal with all of them, in their order. -/
theorem pool_after_dismissals (C : Crowd) (done : Teardown) :
    (C.after (List.replicate C.doomed.length .dismiss)).pool =
      (C.doomed.foldl Pool.dismiss (done, C.pool)).2 := by
  generalize hdoomed : C.doomed = ts
  -- each dismissal leaves another crowd, and has its own report
  induction ts generalizing C done with
  | nil => rfl
  | cons t rest ih =>
      have hnext : (C.perform .dismiss).doomed = rest := by simp only [perform, hdoomed]
      have hpool : (C.perform .dismiss).pool = (Pool.dismiss (done, C.pool) t).2 := by
        simp only [perform, hdoomed, dismiss_snd done]
      have hrest := ih (C.perform .dismiss) (Pool.dismiss (done, C.pool) t).1 hnext
      rw [hpool] at hrest
      exact hrest

/-- **A teardown is a drain and as many dismissals as there were targets**, while nothing else
happens. -/
theorem pool_after_teardown (hdoomed : C.doomed = []) :
    (C.after (.drain :: List.replicate C.pool.targets.length .dismiss)).pool =
      C.pool.teardown.2 := by
  have hdrained : (C.perform .drain).doomed = C.pool.targets := by
    show C.doomed ++ C.pool.targets = C.pool.targets
    rw [hdoomed, List.nil_append]
  have hall := pool_after_dismissals (C.perform .drain) Teardown.none
  rw [hdrained] at hall
  exact hall

/-! ## The main statement -/

/-- **Only a resolution that was building appends a target.** -/
theorem eq_of_origins_concat {o : Origin} {move : Move}
    (h : (C.perform move).origins = C.origins ++ [o]) :
    C.At o.caller o.request (.built o.target) := by
  have hne : C.origins ≠ C.origins ++ [o] := by
    intro heq
    have hlength := congrArg List.length heq
    simp at hlength
  cases move with
  | arrive r => exact absurd h hne
  | drop serial => exact absurd h hne
  | drain => exact absurd h.symm (by simp [perform])
  | dismiss =>
      simp only [perform] at h
      split at h
      · exact absurd h hne
      · exact absurd h hne
  | cancel caller =>
      simp only [perform, cancel] at h
      split at h
      · split at h
        · exact absurd h hne
        · exact absurd h hne
      · exact absurd h hne
  | stride caller =>
      simp only [perform, stride] at h
      split at h
      · next r stage hcaller =>
          split at h
          · next next pool hstride =>
              have happended : appended caller r stage next = [o] := List.append_cancel_left h
              unfold appended at happended
              split at happended
              · next t serial =>
                  obtain rfl := List.singleton_inj.1 happended
                  exact hcaller
              · cases happended
          · exact absurd h hne
      · exact absurd h hne

/-- **No target is built twice.** Whatever any number of resolutions do at a pool with any
platforms, in any interleaving of their steps with each other, with resolutions that are given up,
leases that are dropped and steps of teardowns: at most one resolution has acquired a slot and not
given it up; a target that is appended for a request finds no target in the pool that was built for
the same slot and may serve that request; and if a resolution begins to build for a request which
everything serves that serves an earlier one of the same slot, such as the same request again, then
whatever was built for that earlier one has failed, was refused, was given up, or was taken from the
pool by a teardown before. The phases in which resolutions are polled are made of these steps, and so
is a teardown during which nothing else happens. -/
theorem builds_once (registry : Registry) (keep : Bool) (ids : Nat → TargetId)
    (moves : List Move) :
    let C := (start registry keep ids).after moves
    (∀ caller j r s stage stage', C.At caller r stage → C.At j s stage' →
      stage.holds = true → stage'.holds = true → r.slot = s.slot → caller = j) ∧
    ((C.pool.bare = C.origins.map fun o => o.target.bare) ∧
      ∀ move o, (C.perform move).origins = C.origins ++ [o] →
        ∀ u ∈ C.origins, u.request.slot = o.request.slot →
          u.target.satisfies o.request = false) ∧
    (∀ before caller r between caller' r' later,
      C.history = before ++ .began caller r :: (between ++ .began caller' r' :: later) →
      r'.slot = r.slot → (∀ t : Target, t.satisfies r = true → t.satisfies r' = true) →
      Ended caller between) ∧
    (∀ (p q : Pool) (caller : Nat) (r : Request) (now : Nat) (phase next : Resolution),
      p.advance caller r now phase = some (next, q) →
      Pool.Strides caller r (phase.stage, p) (next.stage, q)) ∧
    ∀ D : Crowd, D.doomed = [] →
      (D.after (.drain :: List.replicate D.pool.targets.length .dismiss)).pool =
        D.pool.teardown.2 := by
  intro C
  have hC : Guarded C := guarded_after registry keep ids moves
  refine ⟨?_, ⟨hC.bare, ?_⟩, hC.once, ?_, ?_⟩
  · intro caller j r s stage stage' hcaller hj hholds hholds' hslot
    exact hC.eq_of_holds hcaller hj hholds hholds' hslot
  · intro move o hmove u hu hslot
    exact hC.lacking o.caller o.request ⟨_, eq_of_origins_concat hmove, rfl⟩ u hu hslot
  · intro p q caller r now phase next hadvance
    exact Pool.strides_of_advance hadvance
  · intro D hdoomed
    exact pool_after_teardown hdoomed

/-- Two resolutions of one request have both scanned an empty pool before one of them builds, and the
other one takes its target; a third one builds again, since a teardown has drained the pool, which
deletes the first target only later. Without the third one it would have been a plain teardown. -/
theorem builds_once_after_drain :
    let r : Request := ⟨"mock", [], ∅⟩
    let ids : Nat → TargetId := fun n => ⟨BitVec.ofNat 128 n⟩
    let together : List Move :=
      [.arrive r, .arrive r, .stride 0, .stride 1, .stride 1, .stride 0, .stride 0, .stride 1,
        .stride 0, .stride 1, .stride 1, .stride 0, .stride 0, .stride 1, .stride 1, .stride 1,
        .stride 0, .stride 0, .stride 0]
    let again : List Move :=
      [.arrive r, .drain, .stride 2, .stride 2, .stride 2, .stride 2, .dismiss]
    let C := (start .builtin false ids).after together
    let D := (start .builtin false ids).after (together ++ again)
    let drained : List Happening :=
      [.drained [⟨1, r, ⟨0, ids 0, "mock", [], ∅, "mock-vm-0000", .unused⟩⟩]]
    C.history = [.began 1 r] ∧ C.pool.targets.map (·.connection.active) = [2] ∧
      D.history = [] ++ .began 1 r :: (drained ++ .began 2 r :: []) ∧ Ended 1 drained ∧
      C.doomed = [] ∧
      (C.after (.drain :: List.replicate C.pool.targets.length .dismiss)).pool =
        C.pool.teardown.2 := by
  intro r ids together again C D drained
  have hfirst : C.history = [.began 1 r] := by
    subst C together
    cbv
  have hall : D.history = [] ++ .began 1 r :: (drained ++ .began 2 r :: []) := by
    subst D drained together again
    cbv
  have hdoomed : C.doomed = [] := by
    subst C together
    cbv
  obtain ⟨-, -, honce, -, hteardown⟩ := builds_once .builtin false ids (together ++ again)
  exact ⟨hfirst, by decide +kernel, hall, honce [] 1 r drained 2 r [] hall rfl fun _ h => h,
    hdoomed, hteardown C hdoomed⟩

end Crowd

end TestBench
