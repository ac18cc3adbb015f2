import TestBench.Fleet.Registry
import TestBench.Json.Compact

/-!
# The pool of targets

The pool holds the targets of a run in the order in which they were built. A request is answered by
the first target that may serve it; only if there is none is a target built, checked against the
request and appended. So the same requests in the same order always get the same targets, at the price
that a request may take a target that another one could have used better.

Building is guarded by *slots*, one for each platform and set of parameters: whoever wants to build
joins the queue of the slot and builds when it has come to the head. The queue is one list for all
slots; the head of a slot is its first entry.

This module has the parts of a resolution and `Pool.resolve`, the resolution of a request while nobody
else is resolving. `TestBench.Fleet.Resolution` puts the same parts together for requests at the same
time.
-/

set_option autoImplicit false

namespace TestBench

/-- What a slot stands for: a platform, and the text of some parameters. -/
abbrev SlotKey := String × String

/-- The slot of a request. -/
def Request.slot (r : Request) : SlotKey := (r.platform, (Json.object r.parameters).compact)

/-- Who waits at the slots, the first one first. -/
abbrev SlotQueue := List (SlotKey × Nat)

namespace SlotQueue

/-- The one that holds a slot: the head of its queue. -/
def holder? (q : SlotQueue) (key : SlotKey) : Option Nat := (q.find? fun e => e.1 == key).map (·.2)

/-- The queue with one more waiting at a slot. -/
def join (q : SlotQueue) (key : SlotKey) (caller : Nat) : SlotQueue := q ++ [(key, caller)]

/-- The queue without somebody, who gives up the slot or the place before it. -/
def leave (q : SlotQueue) (caller : Nat) : SlotQueue := q.filter fun e => e.2 != caller

end SlotQueue

/-- The targets of a run. -/
structure Pool where
  /-- The platforms. -/
  registry : Registry
  /-- The targets, in the order in which they were built. -/
  targets : List Target
  /-- Whether targets are left running at the end. -/
  keep : Bool
  /-- The identifiers of the targets that are built, in order. -/
  ids : Nat → TargetId
  /-- The number of targets that any platform has built. -/
  built : Nat
  /-- Who waits to build. -/
  slots : SlotQueue

namespace Pool

/-- The pool without targets. -/
def empty (registry : Registry) (keep : Bool) (ids : Nat → TargetId) : Pool :=
  ⟨registry, [], keep, ids, 0, []⟩

/-- Why a request is not answered, or a target not deleted. -/
inductive Fault where
  /-- No platform answers to the kind. -/
  | unknownPlatform (platform registered : String)
  /-- The platform has not built a suitable target. -/
  | notConstructed (platform reason : String)
  /-- The platform has not deleted a target. -/
  | notDeprovisioned (target : TargetId) (reason : String)
deriving DecidableEq

/-- The wording of a fault. -/
def Fault.message : Fault → String
  | .unknownPlatform platform registered =>
      s!"unknown platform '{platform}' (registered: {registered})"
  | .notConstructed platform reason =>
      s!"failed to construct target on platform '{platform}': {reason}"
  | .notDeprovisioned target reason =>
      s!"failed to deprovision target {target.text}: {reason}"

/-- Whether the fault lies in what was asked, and not with a platform. -/
def Fault.isConfiguration : Fault → Bool
  | .unknownPlatform _ _ => true
  | _ => false

/-- The fault that no platform answers to a kind. -/
def unknownPlatform (p : Pool) (kind : String) : Fault :=
  .unknownPlatform kind p.registry.kindsText

/-! ## Leases -/

/-- The target with a serial number. -/
def target? (p : Pool) (serial : Nat) : Option Target := p.targets.find? fun t => t.serial == serial

/-- The pool with the connection of one target changed. -/
def mapConnection (p : Pool) (serial : Nat) (f : Connection → Connection) : Pool :=
  { p with
    targets := p.targets.map fun t => if t.serial = serial then t.mapConnection f else t }

/-- Takes a lease on a target. -/
def lease (p : Pool) (serial : Nat) : Pool := p.mapConnection serial .opening

/-- Drops a lease on a target, if it is still in the pool. -/
def release (p : Pool) (serial : Nat) : Pool := p.mapConnection serial .closing

/-! ## Resolution -/

/-- The first target that may serve a request. -/
def scan (p : Pool) (r : Request) : Option Nat :=
  (p.targets.find? fun t => t.satisfies r).map (·.serial)

/-- Appends a target that was built for a request, and takes a lease on it. A target that may not
serve the request is refused. -/
def append (p : Pool) (r : Request) (t : Target) : Except Fault Nat × Pool :=
  if t.satisfies r then
    (.ok t.serial, { p with targets := p.targets ++ [t.mapConnection .opening] })
  else
    (.error (.notConstructed r.platform
      s!"platform returned target {t.id.text} that does not match the request"), p)

/-- Builds a target for a request with the platform at a place. -/
def build (p : Pool) (r : Request) (place : Nat) (provider : Provider) : Except Fault Nat × Pool :=
  match provider.platform.construct provider.ledger r.parameters r.required with
  | .error reason =>
      (.error (.notConstructed r.platform reason),
        { p with registry := p.registry.note place (.construct r.parameters r.required none) })
  | .ok blueprint =>
      let t := blueprint.target p.built (p.ids p.built)
      append
        { p with
          registry := p.registry.note place (.construct r.parameters r.required (some t))
          built := p.built + 1 }
        r t

/-- Answers a request while nobody else is resolving: the serial number of the target on which a lease
was taken, or a fault. -/
def resolve (p : Pool) (r : Request) : Except Fault Nat × Pool :=
  match p.registry.provider? r.platform with
  | none => (.error (p.unknownPlatform r.platform), p)
  | some (place, provider) =>
      match p.scan r with
      | some serial => (.ok serial, p.lease serial)
      | none => p.build r place provider

end Pool

end TestBench
