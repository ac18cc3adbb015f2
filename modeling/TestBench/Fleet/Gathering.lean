import TestBench.Fleet.Resolution

/-!
# Resolving requests together

Several requests are resolved at once, and all leases are held until every resolution is settled. The
resolutions are polled in their order, round after round. When none of them can go on, time passes
until the next one has built its target.
-/

set_option autoImplicit false

namespace TestBench

/-- Resolutions at the same time. -/
structure Gathering where
  /-- The pool they share. -/
  pool : Pool
  /-- The time, in milliseconds. -/
  now : Nat
  /-- The requests, and how far each has come. -/
  calls : List (Request × Resolution)

namespace Gathering

/-- Polls the resolutions in their order, the first of them under the given number. -/
def pollAll (now : Nat) :
    Nat → Pool → List (Request × Resolution) → Pool × List (Request × Resolution)
  | _, p, [] => (p, [])
  | caller, p, (r, phase) :: rest =>
      let (phase, p) := p.poll caller r now phase
      let (p, rest) := pollAll now (caller + 1) p rest
      (p, (r, phase) :: rest)

/-- Whether a resolution could go on. -/
def canAdvance (g : Gathering) : Bool :=
  g.calls.zipIdx.any fun c => (g.pool.advance c.2 c.1.1 g.now c.1.2).isSome

/-- The time at which the next target is built. -/
def nextTime? (g : Gathering) : Option Nat :=
  (g.calls.filterMap fun c =>
    match c.2 with
    | .building finish => some finish
    | _ => none).min?

/-- One round: every resolution is polled if one of them can go on, and otherwise time passes. -/
def round (g : Gathering) : Option Gathering :=
  if g.canAdvance then
    let (p, calls) := pollAll g.now 0 g.pool g.calls
    some { g with pool := p, calls := calls }
  else g.nextTime?.map fun t => { g with now := t }

/-- So many rounds, or fewer if nothing is left to do. -/
def run : Nat → Gathering → Gathering
  | 0, g => g
  | n + 1, g =>
      match g.round with
      | none => g
      | some g => run n g

end Gathering

/-- Resolves requests together. Each resolution takes at most four rounds that bring it on and one
that waits for it, which bounds the number of rounds. -/
def Pool.resolveAll (p : Pool) (requests : List Request) : List (Except Pool.Fault Nat) × Pool :=
  let g := Gathering.run (5 * requests.length + 1) ⟨p, 0, requests.map fun r => (r, .arriving)⟩
  (g.calls.filterMap fun c =>
    match c.2 with
    | .settled answer => some answer
    | _ => none, g.pool)

end TestBench
