import TestBench.Fleet.Pool

/-!
# Requests at the same time

The resolution of a request goes through phases, and other resolutions may run between any two of
them: the pool is scanned, the slot of the request is waited for, the pool is scanned again, since
another resolution may have built a suitable target meanwhile, and only then is a target built. The
slot is held from the second scan on until the resolution is settled.

`Pool.advance` is one phase. `Pool.poll` goes on until the resolution is settled or has to wait.
-/

set_option autoImplicit false

namespace TestBench

/-- How far the resolution of a request has come. -/
inductive Resolution where
  /-- The pool has not been scanned. -/
  | arriving
  /-- No target was found in the first scan. -/
  | wanting
  /-- The resolution is in the queue of its slot. -/
  | queued
  /-- A target is being built, until some time. -/
  | building (finish : Nat)
  /-- The resolution is over. -/
  | settled (answer : Except Pool.Fault Nat)

namespace Pool

/-- Settles a resolution and gives up its place at the slot. -/
def settle (p : Pool) (caller : Nat) (answer : Except Fault Nat) : Resolution × Pool :=
  (.settled answer, { p with slots := p.slots.leave caller })

/-- One phase of a resolution at some time; nothing if it has to wait or is settled. -/
def advance (p : Pool) (caller : Nat) (r : Request) (now : Nat) :
    Resolution → Option (Resolution × Pool)
  | .arriving =>
      match p.registry.provider? r.platform with
      | none => some (.settled (.error (p.unknownPlatform r.platform)), p)
      | some _ =>
          match p.scan r with
          | some serial => some (.settled (.ok serial), p.lease serial)
          | none => some (.wanting, p)
  | .wanting => some (.queued, { p with slots := p.slots.join r.slot caller })
  | .queued =>
      if p.slots.holder? r.slot = some caller then
        match p.scan r with
        | some serial => some ((p.lease serial).settle caller (.ok serial))
        | none =>
            match p.registry.provider? r.platform with
            | none => some (p.settle caller (.error (p.unknownPlatform r.platform)))
            | some (_, provider) =>
                let wait := provider.platform.delay provider.ledger r.parameters r.required
                some (.building (now + wait), p)
      else none
  | .building finish =>
      if finish ≤ now then
        match p.registry.provider? r.platform with
        | none => some (p.settle caller (.error (p.unknownPlatform r.platform)))
        | some (place, provider) =>
            let (answer, p) := p.build r place provider
            some (p.settle caller answer)
      else none
  | .settled _ => none

/-- Gives up a resolution that is not settled: its place at the slot is free again. -/
def cancel (p : Pool) (caller : Nat) : Pool := { p with slots := p.slots.leave caller }

/-- So many phases of a resolution, or fewer if it has to wait. -/
def pollFor (caller : Nat) (r : Request) (now : Nat) :
    Nat → Resolution → Pool → Resolution × Pool
  | 0, phase, p => (phase, p)
  | n + 1, phase, p =>
      match p.advance caller r now phase with
      | none => (phase, p)
      | some (phase, p) => pollFor caller r now n phase p

/-- The number of phases that a resolution can go through. -/
def phaseCount : Nat := 4

/-- Goes on with a resolution until it is settled or has to wait. -/
def poll (p : Pool) (caller : Nat) (r : Request) (now : Nat) (phase : Resolution) :
    Resolution × Pool :=
  pollFor caller r now phaseCount phase p

end Pool

end TestBench
