import TestBench.Suite.Case

/-!
# Test catalogs

A catalog lists the tests that were discovered. An `Entry` is a test whose metadata has not been
looked at yet; `Catalog.validate` turns entries into test cases and fails closed: the first entry
whose metadata has the wrong form, or the right form and a fault, discards the whole catalog.
-/

set_option autoImplicit false

namespace TestBench

/-- A discovered test, its metadata not yet checked. -/
structure Entry where
  /-- The name of the test. -/
  name : String
  /-- The metadata as it was given; null counts as absent. -/
  metadata : Option Json
  /-- Whether the test runs against a target. -/
  requiresTarget : Bool
  /-- Labels of the engine that runs the test. -/
  markers : NameSet

/-- Why the metadata of a test is invalid. -/
inductive MetadataFault where
  /-- It has not the form of metadata. -/
  | form (mismatch : Json.Mismatch)
  /-- It has the form of metadata, and these things are wrong with it. -/
  | content (faults : List String)

/-- The wording of the reason. -/
def MetadataFault.message : MetadataFault → String
  | .form mismatch => mismatch.message
  | .content faults => "\n".intercalate faults

/-- A catalog is discarded because of one test. -/
structure Rejection where
  /-- The name of the test. -/
  test : String
  /-- What is wrong with its metadata. -/
  fault : MetadataFault

/-- The wording of a rejection. -/
def Rejection.message (r : Rejection) : String :=
  s!"test {r.test} failed LISA validation: {r.fault.message}"

namespace Entry

/-- The entry of a finished draft. -/
def ofDraft (d : Case.Draft Json) : Except Json.Mismatch Entry := do
  let name ← Json.required "name" d.name
  return {
    name := name
    metadata := d.metadata.getD none
    requiresTarget := d.requiresTarget.getD false
    markers := d.markers.getD ∅ }

/-- How an entry is read: the fields of a test with any metadata. -/
def record : Json.Record (Case.Draft Json) Entry where
  label := "CatalogEntry"
  closed := false
  fields := Case.fields .ok
  blank := Case.Draft.blank Json
  finish := ofDraft

/-- The entry that a value stands for. -/
def ofJson (v : Json) : Except Json.Mismatch Entry := record.read v

/-- The metadata that a value stands for, if it has the form and no faults. -/
def checkedMetadata (v : Json) : Except MetadataFault Metadata :=
  match Metadata.ofJson v with
  | .error m => .error (.form m)
  | .ok m => if m.faults = [] then .ok m else .error (.content m.faults)

/-- The test case of an entry. -/
def toCase (e : Entry) : Except Rejection Case :=
  let case (metadata : Option Metadata) : Case := ⟨e.name, metadata, e.requiresTarget, e.markers⟩
  match e.metadata with
  | none => .ok (case none)
  | some v =>
      match checkedMetadata v with
      | .ok m => .ok (case (some m))
      | .error fault => .error ⟨e.name, fault⟩

end Entry

namespace Catalog

/-- The test cases of a catalog, or the first entry that discards it. -/
def validate (entries : List Entry) : Except Rejection (List Case) := entries.mapM Entry.toCase

end Catalog

end TestBench
