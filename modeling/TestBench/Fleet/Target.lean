import TestBench.Id.Basic
import TestBench.NameSet
import TestBench.Playbook.Spec

/-!
# Targets

A target is a resource that a platform has provided. It is asked for by a `Request`, and it may serve
every request for its platform, with its parameters, that needs no more than its capabilities.

While a test uses a target it holds a lease on it. A lease is known by the serial number of its
target; the `Connection` of the target counts the leases that are held and those that ever were.
-/

set_option autoImplicit false

namespace TestBench

/-- What is asked of a target. -/
structure Request where
  /-- The kind of the platform that provides it. -/
  platform : String
  /-- The parameters it has. -/
  parameters : Parameters
  /-- The capabilities it has at least. -/
  required : NameSet

/-- The connection to a target. Leases are counted without a bound; counters of 64 bits show the same
until `2 ^ 64` leases were opened. -/
structure Connection where
  /-- The number of leases that hold it open. -/
  active : Nat
  /-- The number of leases that have opened it so far. -/
  opened : Nat
deriving DecidableEq, Repr

namespace Connection

/-- The connection that nobody has opened. -/
def unused : Connection := ⟨0, 0⟩

/-- The connection with one more lease. -/
def opening (c : Connection) : Connection := ⟨c.active + 1, c.opened + 1⟩

/-- The connection with one lease less. Only a lease that holds it open is dropped, so there is one to
take away. -/
def closing (c : Connection) : Connection := ⟨c.active - 1, c.opened⟩

/-- Whether a lease holds the connection open. -/
def isOpen (c : Connection) : Bool := decide (0 < c.active)

end Connection

/-- A provided resource. -/
structure Target where
  /-- The number of targets built before it; leases know it by this number. -/
  serial : Nat
  /-- Its identifier. -/
  id : TargetId
  /-- The kind of platform that is written on it. -/
  platform : String
  /-- The parameters it was built with. -/
  parameters : Parameters
  /-- The features it provides. -/
  capabilities : NameSet
  /-- The name the platform has for it. -/
  handle : String
  /-- Its connection. -/
  connection : Connection

namespace Target

/-- Whether the target may serve a request. -/
def satisfies (t : Target) (r : Request) : Bool :=
  t.platform == r.platform && Json.sameFields t.parameters r.parameters &&
    r.required.subset t.capabilities

/-- The target with a changed connection. -/
def mapConnection (t : Target) (f : Connection → Connection) : Target :=
  { t with connection := f t.connection }

/-- **Suitability does not depend on the connection.** -/
@[simp] theorem satisfies_mapConnection (t : Target) (f : Connection → Connection) (r : Request) :
    (t.mapConnection f).satisfies r = t.satisfies r := rfl

end Target

end TestBench
