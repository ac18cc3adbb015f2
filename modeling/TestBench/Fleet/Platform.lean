import TestBench.Fleet.Target

/-!
# Platforms

A platform builds targets and deletes them. What it does may depend on everything it was asked before,
so its three answers are functions of its `Ledger`, the calls made to it so far. Nothing else is
assumed: a platform may fail, take any time, or build something else than it was asked for.

A platform describes what it has built by a `Blueprint`; the identity of the target is not its choice.
-/

set_option autoImplicit false

namespace TestBench

/-- What a platform says of a target it has built. -/
structure Blueprint where
  /-- The kind of platform that it writes on the target. -/
  platform : String
  /-- The parameters it has used. -/
  parameters : Parameters
  /-- The features the target provides. -/
  capabilities : NameSet
  /-- The name it has for the target. -/
  handle : String

/-- The target of a blueprint, before anybody has used it. -/
def Blueprint.target (b : Blueprint) (serial : Nat) (id : TargetId) : Target :=
  ⟨serial, id, b.platform, b.parameters, b.capabilities, b.handle, .unused⟩

/-- A call to a platform, with what came of it. -/
inductive PlatformCall where
  /-- A target was to be built; it is absent if that failed. -/
  | construct (parameters : Parameters) (features : NameSet) (built : Option Target)
  /-- A target was to be deleted. -/
  | deprovision (target : Target) (done : Bool)

/-- The calls made to a platform, in order. -/
abbrev Ledger := List PlatformCall

namespace Ledger

/-- The targets that the platform has built, in order. -/
def built (l : Ledger) : List Target :=
  l.filterMap fun
    | .construct _ _ t => t
    | .deprovision _ _ => none

/-- The targets that the platform was asked to delete, with the answers, in order. -/
def deletions (l : Ledger) : List (Target × Bool) :=
  l.filterMap fun
    | .construct _ _ _ => none
    | .deprovision t done => some (t, done)

/-- The number of targets that the platform has deleted. -/
def deletedCount (l : Ledger) : Nat := (l.deletions.filter (·.2)).length

end Ledger

/-- How a platform behaves. -/
structure Platform where
  /-- How many milliseconds building takes, whether it succeeds or not. -/
  delay : Ledger → Parameters → NameSet → Nat
  /-- What is built with some parameters and features, or why nothing is. -/
  construct : Ledger → Parameters → NameSet → Except String Blueprint
  /-- Whether a target is deleted, or why it is not. -/
  deprovision : Ledger → Target → Except String Unit

end TestBench
