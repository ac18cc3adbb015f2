import TestBench.Fleet.Pool

/-!
# The end of a pool

At the end of a run the pool is emptied. Each of its targets is deleted, or kept if targets are to be
kept. A target that cannot be deleted is reported, and the others are attempted all the same.
-/

set_option autoImplicit false

namespace TestBench

/-- What became of the targets of a pool. -/
structure Teardown where
  /-- The targets that were deleted. -/
  deprovisioned : List TargetId
  /-- The targets that were kept. -/
  kept : List TargetId
  /-- Why targets were not deleted. -/
  failures : List Pool.Fault
deriving DecidableEq

namespace Teardown

/-- The teardown of no targets. -/
def none : Teardown := ⟨[], [], []⟩

/-- Whether nothing failed. -/
def isClean (t : Teardown) : Bool := t.failures.isEmpty

end Teardown

namespace Pool

/-- Deletes one target, and notes what became of it. -/
def deprovision (p : Pool) (done : Teardown) (t : Target) : Teardown × Pool :=
  match p.registry.provider? t.platform with
  | none => ({ done with failures := done.failures ++ [p.unknownPlatform t.platform] }, p)
  | some (place, provider) =>
      match provider.platform.deprovision provider.ledger t with
      | .ok () =>
          ({ done with deprovisioned := done.deprovisioned ++ [t.id] },
            { p with registry := p.registry.note place (.deprovision t true) })
      | .error reason =>
          ({ done with failures := done.failures ++ [.notDeprovisioned t.id reason] },
            { p with registry := p.registry.note place (.deprovision t false) })

/-- Deletes or keeps one target. -/
def dismiss (s : Teardown × Pool) (t : Target) : Teardown × Pool :=
  if s.2.keep then ({ s.1 with kept := s.1.kept ++ [t.id] }, s.2) else s.2.deprovision s.1 t

/-- Empties the pool. -/
def teardown (p : Pool) : Teardown × Pool :=
  p.targets.foldl dismiss (Teardown.none, { p with targets := [] })

end Pool

end TestBench
