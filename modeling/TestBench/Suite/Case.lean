import TestBench.Json.Read

/-!
# Test cases

A `Case` is a test as it was discovered: its name, whether it runs against a target, its markers, and
the metadata by which rules select it. Static checks and the like carry no metadata.

`Metadata.faults` lists what is wrong with metadata that has the right form; `Case.toJson` writes a
case, with metadata and description only when they are present, and `Case.ofJson` reads it.
-/

set_option autoImplicit false

namespace TestBench

/-- The range in which priorities are exchanged. -/
abbrev Priority := Fin 256

/-- The least urgent priority that a test may declare. -/
def Priority.lowest : Priority := 5

/-- What a test declares about itself. -/
structure Metadata where
  /-- The functional area, such as a subsystem. -/
  area : String
  /-- The category, such as the style of the test. -/
  category : String
  /-- The priority; zero is the most urgent. -/
  priority : Priority
  /-- Free labels. -/
  tags : NameSet
  /-- What a target must be capable of to run the test. -/
  features : NameSet
  /-- A text for readers. -/
  description : Option String
deriving DecidableEq

/-- A discovered test. -/
structure Case where
  /-- The name, which need not be unique. -/
  name : String
  /-- What the test declares, if it takes part in selection. -/
  metadata : Option Metadata
  /-- Whether the test runs against a target. -/
  requiresTarget : Bool
  /-- Labels of the engine that runs the test. -/
  markers : NameSet
deriving DecidableEq

namespace Metadata

/-- Metadata without tags, features and description. -/
def basic (area category : String) (priority : Priority) : Metadata where
  area := area
  category := category
  priority := priority
  tags := ∅
  features := ∅
  description := none

/-- What is wrong with the metadata, in the order of the fields. -/
def faults (m : Metadata) : List String :=
  (if m.area.isEmpty then ["area: area must not be empty"] else []) ++
  (if m.category.isEmpty then ["category: category must not be empty"] else []) ++
  (if m.priority ≤ Priority.lowest then [] else ["priority: priority must be between 0 and 5"])

/-- **Metadata is without fault** when area and category are there and the priority is in range. -/
theorem faults_eq_nil_iff {m : Metadata} :
    m.faults = [] ↔ m.area ≠ "" ∧ m.category ≠ "" ∧ m.priority ≤ Priority.lowest := by
  simp only [faults, List.append_eq_nil_iff]
  constructor
  · rintro ⟨⟨h₁, h₂⟩, h₃⟩
    refine ⟨fun h => ?_, fun h => ?_, ?_⟩
    · simp [h] at h₁
    · simp [h] at h₂
    · by_cases h : m.priority ≤ Priority.lowest
      · exact h
      · simp [h] at h₃
  · rintro ⟨h₁, h₂, h₃⟩
    refine ⟨⟨?_, ?_⟩, ?_⟩
    · simp [h₁]
    · simp [h₂]
    · simp [h₃]

/-- The fields of metadata read so far. -/
structure Draft where
  /-- The area. -/
  area : Option String
  /-- The category. -/
  category : Option String
  /-- The priority. -/
  priority : Option Priority
  /-- The tags. -/
  tags : Option NameSet
  /-- The features. -/
  features : Option NameSet
  /-- The description, which may be null. -/
  description : Option (Option String)

/-- How metadata is read: six fields and no others. -/
def record : Json.Record Draft Metadata where
  label := "TestMetadata"
  closed := true
  fields :=
    [.at "area" false (·.area) (fun a d => { d with area := some a }) Json.readString,
     .at "category" false (·.category) (fun a d => { d with category := some a }) Json.readString,
     .at "priority" false (·.priority) (fun a d => { d with priority := some a }) (Json.readNat 256),
     .at "tags" true (·.tags) (fun a d => { d with tags := some a }) Json.readNames,
     .at "features" true (·.features) (fun a d => { d with features := some a }) Json.readNames,
     .at "description" true (·.description) (fun a d => { d with description := some a })
       (Json.readOption Json.readString)]
  blank := ⟨none, none, none, none, none, none⟩
  finish d := do
    let area ← Json.required "area" d.area
    let category ← Json.required "category" d.category
    let priority ← Json.required "priority" d.priority
    return {
      area := area
      category := category
      priority := priority
      tags := d.tags.getD ∅
      features := d.features.getD ∅
      description := d.description.getD none }

/-- The metadata that a value stands for. -/
def ofJson (v : Json) : Except Json.Mismatch Metadata := record.read v

/-- The written form of a set of names. -/
def namesJson (names : NameSet) : Json := .array (names.toList.map .string)

/-- The written form of metadata. -/
def toJson (m : Metadata) : Json :=
  .object
    ([("area", .string m.area), ("category", .string m.category)] ++
      (match m.description with
        | some text => [("description", .string text)]
        | none => []) ++
      [("features", namesJson m.features), ("priority", .int m.priority.val),
        ("tags", namesJson m.tags)])

end Metadata

namespace Case

/-- A test with metadata that runs against a target. -/
def targeted (name : String) (metadata : Metadata) : Case where
  name := name
  metadata := some metadata
  requiresTarget := true
  markers := ∅

/-- A test without metadata that needs no target. -/
def plain (name : String) : Case where
  name := name
  metadata := none
  requiresTarget := false
  markers := ∅

/-- The test with one more marker. -/
def mark (c : Case) (marker : String) : Case := { c with markers := c.markers.insert marker }

/-- Whether the test takes part in selection. -/
def isSelectable (c : Case) : Bool := c.metadata.isSome

/-- What a target must be capable of to run the test. -/
def requiredFeatures (c : Case) : NameSet :=
  match c.metadata with
  | some m => m.features
  | none => ∅

/-- Whether the test bears one of the markers. -/
def hasAnyMarker (c : Case) (markers : List String) : Bool :=
  markers.any fun m => decide (m ∈ c.markers)

/-- The fields of a test read so far, its metadata as an `α`. -/
structure Draft (α : Type) where
  /-- The name. -/
  name : Option String
  /-- The metadata, which may be null. -/
  metadata : Option (Option α)
  /-- Whether the test runs against a target. -/
  requiresTarget : Option Bool
  /-- The markers. -/
  markers : Option NameSet

/-- The draft without any field. -/
def Draft.blank (α : Type) : Draft α := ⟨none, none, none, none⟩

/-- The four fields of a test, its metadata read by the given reader. -/
def fields {α : Type} (readMetadata : Json → Except Json.Mismatch α) :
    List (Json.Field (Draft α)) :=
  [.at "name" false (·.name) (fun a d => { d with name := some a }) Json.readString,
   .at "metadata" true (·.metadata) (fun a d => { d with metadata := some a })
     (Json.readOption readMetadata),
   .at "requires_target" true (·.requiresTarget) (fun a d => { d with requiresTarget := some a })
     Json.readBool,
   .at "markers" true (·.markers) (fun a d => { d with markers := some a }) Json.readNames]

/-- How a test is read: four fields, others passed over. -/
def record : Json.Record (Draft Metadata) Case where
  label := "TestCase"
  closed := false
  fields := fields Metadata.ofJson
  blank := Draft.blank Metadata
  finish d := do
    let name ← Json.required "name" d.name
    return {
      name := name
      metadata := d.metadata.getD none
      requiresTarget := d.requiresTarget.getD false
      markers := d.markers.getD ∅ }

/-- The test that a value stands for. Its metadata is not checked for faults. -/
def ofJson (v : Json) : Except Json.Mismatch Case := record.read v

/-- The written form of a test. -/
def toJson (c : Case) : Json :=
  .object
    ([("markers", Metadata.namesJson c.markers)] ++
      (match c.metadata with
        | some m => [("metadata", m.toJson)]
        | none => []) ++
      [("name", .string c.name), ("requires_target", .bool c.requiresTarget)])

end Case

end TestBench
