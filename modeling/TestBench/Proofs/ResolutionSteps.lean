import Mathlib.Logic.Relation
import TestBench.Proofs.ResolutionPolls

/-!
# The steps of a resolution

`Pool.advance` takes a resolution from one point at which it may have to wait to the next one, and
does in one phase what others could be in the middle of: it takes the slot and scans again, or it
builds, checks, appends and gives the slot up. Here the same parts are put together one by one. A
`Stage` is a place between two of them, `Pool.stride` goes from one stage to the next, and between any
two strides anything else may happen at the pool.

Every phase is some strides of the same resolution (`Pool.strides_of_advance`), so what is true of
all interleavings of strides is true of all interleavings of phases. `Pool.Strode` has one case for
each stride, with everything that is known there.
-/

set_option autoImplicit false

namespace TestBench

/-- Where the resolution of a request stands between two of its steps. -/
inductive Stage where
  /-- The pool has not been scanned. -/
  | arriving
  /-- No target was found in the first scan. -/
  | wanting
  /-- The resolution is in the queue of its slot. -/
  | queued
  /-- The slot is held, and the pool has not been scanned again. -/
  | holding
  /-- No target was found in the second scan, and a platform is asked to build one. -/
  | lacking
  /-- A target was built, which has neither been checked nor appended. -/
  | built (t : Target)
  /-- The answer is there, and the slot is still held. -/
  | leaving (answer : Except Pool.Fault Nat)
  /-- The resolution is over. -/
  | settled (answer : Except Pool.Fault Nat)

namespace Stage

/-- Whether the slot is held: it was acquired and has not been given up. -/
def holds : Stage → Bool
  | .holding | .lacking | .built _ | .leaving _ => true
  | .arriving | .wanting | .queued | .settled _ => false

/-- Whether a platform was asked for a target that has not been appended or refused. -/
def builds : Stage → Bool
  | .lacking | .built _ => true
  | .arriving | .wanting | .queued | .holding | .leaving _ | .settled _ => false

/-- Whether there is an answer. -/
def isAnswered : Stage → Bool
  | .leaving _ | .settled _ => true
  | .arriving | .wanting | .queued | .holding | .lacking | .built _ => false

/-- Who builds holds the slot. -/
theorem holds_of_builds {stage : Stage} (h : stage.builds = true) : stage.holds = true := by
  cases stage with
  | lacking => rfl
  | built t => rfl
  | arriving | wanting | queued | holding | leaving answer | settled answer => cases h

end Stage

/-- The stage at the beginning of a phase. -/
def Resolution.stage : Resolution → Stage
  | .arriving => .arriving
  | .wanting => .wanting
  | .queued => .queued
  | .building _ => .lacking
  | .settled answer => .settled answer

namespace Pool

variable {p q : Pool} {r : Request} {caller now : Nat}

/-- Has the platform at a place build a target, and leaves the rest to be done. -/
def construct (p : Pool) (r : Request) (place : Nat) (provider : Provider) : Stage × Pool :=
  match provider.platform.construct provider.ledger r.parameters r.required with
  | .error reason =>
      (.leaving (.error (.notConstructed r.platform reason)),
        { p with registry := p.registry.note place (.construct r.parameters r.required none) })
  | .ok blueprint =>
      let t := blueprint.target p.built (p.ids p.built)
      (.built t,
        { p with
          registry := p.registry.note place (.construct r.parameters r.required (some t))
          built := p.built + 1 })

/-- One step of a resolution; nothing if it has to wait for the slot or is over. -/
def stride (p : Pool) (caller : Nat) (r : Request) : Stage → Option (Stage × Pool)
  | .arriving =>
      match p.registry.provider? r.platform with
      | none => some (.settled (.error (p.unknownPlatform r.platform)), p)
      | some _ =>
          match p.scan r with
          | some serial => some (.settled (.ok serial), p.lease serial)
          | none => some (.wanting, p)
  | .wanting => some (.queued, { p with slots := p.slots.join r.slot caller })
  | .queued => if p.slots.holder? r.slot = some caller then some (.holding, p) else none
  | .holding =>
      match p.scan r with
      | some serial => some (.leaving (.ok serial), p.lease serial)
      | none => some (.lacking, p)
  | .lacking =>
      match p.registry.provider? r.platform with
      | none => some (.leaving (.error (p.unknownPlatform r.platform)), p)
      | some (place, provider) => some (p.construct r place provider)
  | .built t =>
      let (answer, p) := p.append r t
      some (.leaving answer, p)
  | .leaving answer => some (.settled answer, { p with slots := p.slots.leave caller })
  | .settled _ => none

/-! ## What one step does -/

/-- What comes of one step of a resolution. -/
inductive Strode (p : Pool) (caller : Nat) (r : Request) : Stage → Stage → Pool → Prop where
  /-- No platform answers to the kind. -/
  | unknown (h : p.registry.provider? r.platform = none) :
      Strode p caller r .arriving (.settled (.error (p.unknownPlatform r.platform))) p
  /-- The first scan finds a target, on which a lease is taken. -/
  | found (serial : Nat) (h : p.scan r = some serial) :
      Strode p caller r .arriving (.settled (.ok serial)) (p.lease serial)
  /-- The first scan finds nothing. -/
  | wants (h : p.scan r = none) : Strode p caller r .arriving .wanting p
  /-- The resolution joins the queue of its slot. -/
  | joins : Strode p caller r .wanting .queued { p with slots := p.slots.join r.slot caller }
  /-- The slot is acquired. -/
  | acquires (h : p.slots.holder? r.slot = some caller) : Strode p caller r .queued .holding p
  /-- The second scan finds a target, on which a lease is taken. -/
  | reuses (serial : Nat) (h : p.scan r = some serial) :
      Strode p caller r .holding (.leaving (.ok serial)) (p.lease serial)
  /-- The second scan finds nothing. -/
  | lacks (h : p.scan r = none) : Strode p caller r .holding .lacking p
  /-- No target is built. -/
  | fails (fault : Fault) (registry : Registry) :
      Strode p caller r .lacking (.leaving (.error fault)) { p with registry := registry }
  /-- A target is built. -/
  | builds (t : Target) (registry : Registry) :
      Strode p caller r .lacking (.built t)
        { p with registry := registry, built := p.built + 1 }
  /-- The target may not serve the request. -/
  | refuses (t : Target) (fault : Fault) (h : t.satisfies r = false) :
      Strode p caller r (.built t) (.leaving (.error fault)) p
  /-- The target may serve the request and is appended. -/
  | pushes (t : Target) (h : t.satisfies r = true) :
      Strode p caller r (.built t) (.leaving (.ok t.serial))
        { p with targets := p.targets ++ [t.mapConnection .opening] }
  /-- The slot is given up. -/
  | leaves (answer : Except Fault Nat) :
      Strode p caller r (.leaving answer) (.settled answer)
        { p with slots := p.slots.leave caller }

/-- **One step has these outcomes only.** -/
theorem strode_of_stride {stage next : Stage} (h : p.stride caller r stage = some (next, q)) :
    Strode p caller r stage next q := by
  cases stage with
  | arriving =>
      cases hp : p.registry.provider? r.platform with
      | none =>
          simp only [stride, hp, Option.some.injEq, Prod.mk.injEq] at h
          obtain ⟨rfl, rfl⟩ := h
          exact .unknown hp
      | some found =>
          cases hs : p.scan r with
          | some serial =>
              simp only [stride, hp, hs, Option.some.injEq, Prod.mk.injEq] at h
              obtain ⟨rfl, rfl⟩ := h
              exact .found serial hs
          | none =>
              simp only [stride, hp, hs, Option.some.injEq, Prod.mk.injEq] at h
              obtain ⟨rfl, rfl⟩ := h
              exact .wants hs
  | wanting =>
      simp only [stride, Option.some.injEq, Prod.mk.injEq] at h
      obtain ⟨rfl, rfl⟩ := h
      exact .joins
  | queued =>
      by_cases hholder : p.slots.holder? r.slot = some caller
      · simp only [stride, hholder, if_true, Option.some.injEq, Prod.mk.injEq] at h
        obtain ⟨rfl, rfl⟩ := h
        exact .acquires hholder
      · simp [stride, hholder] at h
  | holding =>
      cases hs : p.scan r with
      | some serial =>
          simp only [stride, hs, Option.some.injEq, Prod.mk.injEq] at h
          obtain ⟨rfl, rfl⟩ := h
          exact .reuses serial hs
      | none =>
          simp only [stride, hs, Option.some.injEq, Prod.mk.injEq] at h
          obtain ⟨rfl, rfl⟩ := h
          exact .lacks hs
  | lacking =>
      cases hp : p.registry.provider? r.platform with
      | none =>
          simp only [stride, hp, Option.some.injEq, Prod.mk.injEq] at h
          obtain ⟨rfl, rfl⟩ := h
          exact .fails _ p.registry
      | some found =>
          obtain ⟨place, provider⟩ := found
          cases hc : provider.platform.construct provider.ledger r.parameters r.required with
          | error reason =>
              simp only [stride, hp, construct, hc, Option.some.injEq, Prod.mk.injEq] at h
              obtain ⟨rfl, rfl⟩ := h
              exact .fails _ _
          | ok blueprint =>
              simp only [stride, hp, construct, hc, Option.some.injEq, Prod.mk.injEq] at h
              obtain ⟨rfl, rfl⟩ := h
              exact .builds _ _
  | built t =>
      cases hs : t.satisfies r with
      | true =>
          simp only [stride, append, hs, if_true, Option.some.injEq, Prod.mk.injEq] at h
          obtain ⟨rfl, rfl⟩ := h
          exact .pushes t hs
      | false =>
          simp only [stride, append, hs, Bool.false_eq_true, if_false, Option.some.injEq,
            Prod.mk.injEq] at h
          obtain ⟨rfl, rfl⟩ := h
          exact .refuses t _ hs
  | leaving answer =>
      simp only [stride, Option.some.injEq, Prod.mk.injEq] at h
      obtain ⟨rfl, rfl⟩ := h
      exact .leaves answer
  | settled answer => simp [stride] at h

/-! ## Phases are made of steps -/

/-- The stages and pools that a resolution reaches by steps of its own. -/
abbrev Strides (caller : Nat) (r : Request) : Stage × Pool → Stage × Pool → Prop :=
  Relation.ReflTransGen fun a b => a.2.stride caller r a.1 = some b

theorem Strides.single {a b : Stage × Pool} (h : a.2.stride caller r a.1 = some b) :
    Strides caller r a b :=
  Relation.ReflTransGen.single h

/-- Who has an answer gives the slot up and is done. -/
theorem strides_settle (p : Pool) (caller : Nat) (r : Request) (answer : Except Fault Nat) :
    Strides caller r (.leaving answer, p)
      (.settled answer, { p with slots := p.slots.leave caller }) :=
  .single rfl

/-- Building is having a target built and then checking and appending it. -/
theorem strides_build (p : Pool) (caller : Nat) (r : Request) {place : Nat} {provider : Provider}
    (hp : p.registry.provider? r.platform = some (place, provider)) :
    Strides caller r (.lacking, p)
      (.leaving (p.build r place provider).1, (p.build r place provider).2) := by
  have hfirst : p.stride caller r .lacking = some (p.construct r place provider) := by
    simp only [stride, hp]
  cases hc : provider.platform.construct provider.ledger r.parameters r.required with
  | error reason =>
      have hlast : p.construct r place provider =
          (.leaving (p.build r place provider).1, (p.build r place provider).2) := by
        simp only [construct, build, hc]
      exact .single (hfirst.trans (congrArg some hlast))
  | ok blueprint =>
      refine (Strides.single hfirst).tail ?_
      simp only [construct, build, hc]
      rfl

/-- Nothing can be built for a kind that no platform answers to. -/
theorem strides_unknown (p : Pool) (caller : Nat) (r : Request)
    (hp : p.registry.provider? r.platform = none) :
    Strides caller r (.lacking, p) (.leaving (.error (p.unknownPlatform r.platform)), p) := by
  refine .single ?_
  simp only [stride, hp]

/-- **A phase of a resolution is some of its steps.** -/
theorem strides_of_advance {phase next : Resolution}
    (h : p.advance caller r now phase = some (next, q)) :
    Strides caller r (phase.stage, p) (next.stage, q) := by
  cases phase with
  | arriving =>
      refine .single ?_
      cases hp : p.registry.provider? r.platform with
      | none =>
          simp only [advance, hp, Option.some.injEq, Prod.mk.injEq] at h
          obtain ⟨rfl, rfl⟩ := h
          simp only [Resolution.stage, stride, hp]
      | some found =>
          cases hs : p.scan r with
          | some serial =>
              simp only [advance, hp, hs, Option.some.injEq, Prod.mk.injEq] at h
              obtain ⟨rfl, rfl⟩ := h
              simp only [Resolution.stage, stride, hp, hs]
          | none =>
              simp only [advance, hp, hs, Option.some.injEq, Prod.mk.injEq] at h
              obtain ⟨rfl, rfl⟩ := h
              simp only [Resolution.stage, stride, hp, hs]
  | wanting =>
      simp only [advance, Option.some.injEq, Prod.mk.injEq] at h
      obtain ⟨rfl, rfl⟩ := h
      exact .single rfl
  | queued =>
      by_cases hholder : p.slots.holder? r.slot = some caller
      · have hacquires : Strides caller r (.queued, p) (.holding, p) := by
          refine .single ?_
          simp only [stride, hholder, if_true]
        cases hs : p.scan r with
        | some serial =>
            simp only [advance, hholder, if_true, hs, settle, Option.some.injEq,
              Prod.mk.injEq] at h
            obtain ⟨rfl, rfl⟩ := h
            have hreuses : p.stride caller r .holding =
                some (.leaving (.ok serial), p.lease serial) := by
              simp only [stride, hs]
            exact (hacquires.tail hreuses).trans (strides_settle _ caller r _)
        | none =>
            have hlacks : p.stride caller r .holding = some (.lacking, p) := by
              simp only [stride, hs]
            have hlacking := hacquires.tail hlacks
            cases hp : p.registry.provider? r.platform with
            | none =>
                simp only [advance, hholder, if_true, hs, hp, settle, Option.some.injEq,
                  Prod.mk.injEq] at h
                obtain ⟨rfl, rfl⟩ := h
                exact (hlacking.trans (strides_unknown p caller r hp)).trans
                  (strides_settle p caller r _)
            | some found =>
                simp only [advance, hholder, if_true, hs, hp, Option.some.injEq,
                  Prod.mk.injEq] at h
                obtain ⟨rfl, rfl⟩ := h
                exact hlacking
      · simp [advance, hholder] at h
  | building finish =>
      by_cases hf : finish ≤ now
      · cases hp : p.registry.provider? r.platform with
        | none =>
            simp only [advance, hf, if_true, hp, settle, Option.some.injEq, Prod.mk.injEq] at h
            obtain ⟨rfl, rfl⟩ := h
            exact (strides_unknown p caller r hp).trans (strides_settle p caller r _)
        | some found =>
            obtain ⟨place, provider⟩ := found
            simp only [advance, hf, if_true, hp, settle, Option.some.injEq, Prod.mk.injEq] at h
            obtain ⟨rfl, rfl⟩ := h
            exact (strides_build p caller r hp).trans (strides_settle _ caller r _)
      · simp [advance, hf] at h
  | settled answer => simp [advance] at h

end Pool

end TestBench
