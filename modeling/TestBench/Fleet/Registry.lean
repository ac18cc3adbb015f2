import TestBench.Fleet.Platform

/-!
# Registered platforms

A registry keeps platforms together with their ledgers, and says which of them answers to which kind.
Registering a kind again replaces the platform that answers to it; the replaced one keeps its ledger.
One platform may answer to several kinds.
-/

set_option autoImplicit false

namespace TestBench

/-- A platform with the calls made to it. -/
structure Provider where
  /-- How it behaves. -/
  platform : Platform
  /-- What it was asked so far. -/
  ledger : Ledger

/-- The platforms of a run. -/
structure Registry where
  /-- The platforms, in the order in which they came. -/
  providers : List Provider
  /-- The place of the platform that answers to each kind, in ascending order of the kinds. -/
  places : List (String × Nat)

namespace Registry

/-- No platforms. -/
def empty : Registry := ⟨[], []⟩

instance : EmptyCollection Registry := ⟨empty⟩

/-- The places with one kind set. -/
def setPlace (kind : String) (place : Nat) : List (String × Nat) → List (String × Nat)
  | [] => [(kind, place)]
  | (k, n) :: rest =>
      if kind < k then (kind, place) :: (k, n) :: rest
      else if kind = k then (kind, place) :: rest
      else (k, n) :: setPlace kind place rest

/-- Lets the platform at a place answer to a kind. -/
def assign (r : Registry) (kind : String) (place : Nat) : Registry :=
  { r with places := setPlace kind place r.places }

/-- Adds a platform that answers to a kind. -/
def register (r : Registry) (kind : String) (platform : Platform) : Registry :=
  assign { r with providers := r.providers ++ [⟨platform, []⟩] } kind r.providers.length

/-- The platform that answers to a kind, and its place. -/
def provider? (r : Registry) (kind : String) : Option (Nat × Provider) := do
  let entry ← r.places.find? fun p => p.1 == kind
  let provider ← r.providers[entry.2]?
  return (entry.2, provider)

/-- Whether a platform answers to a kind. -/
def contains (r : Registry) (kind : String) : Bool := (r.provider? kind).isSome

/-- The kinds that are answered to, in ascending order. -/
def kinds (r : Registry) : List String := r.places.map (·.1)

/-- The kinds as they are shown in messages. -/
def kindsText (r : Registry) : String := ", ".intercalate r.kinds

/-- Notes a call to the platform at a place. -/
def note (r : Registry) (place : Nat) (call : PlatformCall) : Registry :=
  { r with
    providers := r.providers.modify place fun p => { p with ledger := p.ledger ++ [call] } }

end Registry

end TestBench
