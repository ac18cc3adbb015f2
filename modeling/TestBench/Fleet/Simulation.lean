import TestBench.Fleet.Registry

/-!
# Simulated platforms

The built-in platform provides nothing real: it only records what it was asked for. It writes its kind
on its targets, and can be set to refuse constructions or deletions. The other settings of a
simulation stand for other platforms, which are short of features, wait, or build something else than
they were asked for, so that every way in which a platform can disappoint a pool can be rehearsed.
-/

set_option autoImplicit false

namespace TestBench

/-- How a simulated platform is set. The built-in platform has the first three settings only. -/
structure Simulation where
  /-- The kind it writes on targets. -/
  stamp : String
  /-- Whether it never builds anything. -/
  refusesConstruction : Bool
  /-- Whether it never deletes anything. -/
  refusesDeletion : Bool
  /-- The features it cannot provide. -/
  scarce : NameSet
  /-- The features it provides without being asked. -/
  added : NameSet
  /-- The features it leaves out. -/
  dropped : NameSet
  /-- The parameters it uses in place of those asked for. -/
  parameters : Option Parameters
  /-- How many milliseconds building takes. -/
  delay : Nat

namespace Simulation

/-- The kind of the built-in platform. -/
def builtinKind : String := "mock"

/-- The simulation that does what it is asked. -/
def basic (stamp : String) : Simulation := ⟨stamp, false, false, ∅, ∅, ∅, none, 0⟩

/-- A number with at least four digits. -/
def fourDigits (n : Nat) : String :=
  let digits := Nat.toDigits 10 n
  String.ofList (List.replicate (4 - digits.length) '0' ++ digits)

/-- How many names there are, `2 ^ 64`: targets are counted in 64 bits. -/
def handleCount : Nat := 18446744073709551616

/-- The name of the target that is built after so many others. -/
def handle (n : Nat) : String := "mock-vm-" ++ fourDigits (n % handleCount)

/-- The first required feature that cannot be provided. -/
def missing? (s : Simulation) (features : NameSet) : Option String :=
  features.toList.find? fun f => decide (f ∈ s.scarce)

/-- What is built, or why nothing is. -/
def construct (s : Simulation) (ledger : Ledger) (parameters : Parameters) (features : NameSet) :
    Except String Blueprint :=
  match s.missing? features with
  | some f => .error s!"no capacity for {f}"
  | none =>
      if s.refusesConstruction then .error "Mock platform configured to fail"
      else
        .ok ⟨s.stamp, s.parameters.getD parameters, (features.union s.added).diff s.dropped,
          handle ledger.built.length⟩

/-- Whether a target is deleted, or why it is not. -/
def deprovision (s : Simulation) (t : Target) : Except String Unit :=
  if s.refusesDeletion then .error s!"Mock platform failed to delete {t.handle}" else .ok ()

/-- The platform that behaves as set. -/
def platform (s : Simulation) : Platform where
  delay _ _ _ := s.delay
  construct := s.construct
  deprovision _ t := s.deprovision t

end Simulation

/-- The registry with the built-in platform. -/
def Registry.builtin : Registry :=
  Registry.empty.register Simulation.builtinKind (Simulation.basic Simulation.builtinKind).platform

end TestBench
