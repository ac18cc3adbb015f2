import TestBench.Proofs.CatalogAcceptance
import TestBench.Proofs.EntryText

/-!
# Accepted tests written and read again

A test is written as an object, with its metadata and the description in it only when they are
present. It is read in two ways: as a test, its metadata typed at once, and as an entry of a catalog,
its metadata kept as a value until the catalog is validated. By `Case.ofJson_toJson` every written
test is read as it was. Its entry becomes the test again just if it is without fault, and the tests of
a validated catalog are (`Catalog.exists_validate_eq_iff`). So what was accepted once is accepted
again, and as the same, from values and from texts (`Catalog.validated_survives`).
-/

set_option autoImplicit false

namespace TestBench

/-- What stands in an object under a key. -/
def Json.member? (v : Json) (key : String) : Option Json :=
  match v with
  | .object fields => Json.Fields.get? fields key
  | _ => none

/-! ## Metadata -/

namespace Metadata

/-- The description stands in written metadata just if there is one. -/
theorem member?_toJson (m : Metadata) :
    m.toJson.member? "description" = m.description.map .string := by
  obtain ⟨area, category, priority, tags, features, description⟩ := m
  cases description <;> rfl

/-- **Written metadata is read as it was**, with a description or without. -/
theorem ofJson_toJson (m : Metadata) : ofJson m.toJson = .ok m := by
  obtain ⟨area, category, priority, tags, features, description⟩ := m
  have hpriority : Json.readNat 256 (.int (priority.val : Int)) = .ok priority :=
    Json.readNat_eq_ok_iff.2 rfl
  cases description with
  | none =>
      refine (lawful.ofFields_eq_ok_iff ?_).2 ⟨?_, ⟨some area, some category, some priority, some tags,
        some features, none⟩, ?_, rfl⟩
      · show ["area", "category", "features", "priority", "tags"].Nodup
        decide
      · simp [record, Json.Record.keys, Json.Field.at]
      · simp [slots, Json.Slot.Holds, Json.Fields.get?, Json.readString, hpriority,
          Json.readNames_namesJson]
  | some text =>
      refine (lawful.ofFields_eq_ok_iff ?_).2 ⟨?_, ⟨some area, some category, some priority, some tags,
        some features, some (some text)⟩, ?_, rfl⟩
      · show ["area", "category", "description", "features", "priority", "tags"].Nodup
        decide
      · simp [record, Json.Record.keys, Json.Field.at]
      · simp [slots, Json.Slot.Holds, Json.Fields.get?_cons, Json.readString, hpriority,
          Json.readNames_namesJson, Json.readOption, Except.map]

end Metadata

/-! ## Tests -/

namespace Case

/-- The metadata stands in a written test just if there is any. -/
theorem member?_toJson (c : Case) : c.toJson.member? "metadata" = c.metadata.map Metadata.toJson := by
  obtain ⟨name, metadata, requiresTarget, markers⟩ := c
  cases metadata <;> rfl

section Reading

variable {α β : Type} {readMetadata : Json → Except Json.Mismatch α} {r : Json.Record (Draft α) β}

/-- **What is read from a written test**, whatever becomes of its metadata: each field is there again,
and there is metadata just if there was. -/
theorem read_toJson {b : β} (hlawful : r.Lawful (slotsOf readMetadata)) (hopen : r.closed = false)
    (c : Case) (metadata : Option α)
    (hmetadata : c.metadata.map (readMetadata ·.toJson) = metadata.map .ok)
    (hfinish : r.finish ⟨some c.name, metadata.map some, some c.requiresTarget, some c.markers⟩ =
      .ok b) : r.read c.toJson = .ok b := by
  have hknown : ∀ entries : Json.Fields, r.closed = true → ∀ e ∈ entries, e.1 ∈ r.keys := by
    simp [hopen]
  obtain ⟨name, written, requiresTarget, markers⟩ := c
  -- which fields are written depends on the metadata alone
  cases written with
  | none =>
      obtain rfl : metadata = none := by simpa using hmetadata.symm
      refine (hlawful.ofFields_eq_ok_iff ?_).2 ⟨hknown _, _, ?_, hfinish⟩
      · show ["markers", "name", "requires_target"].Nodup
        decide
      · simp [slotsOf, Json.Slot.Holds, Json.Fields.get?, Json.readString, Json.readBool,
          Json.readNames_namesJson]
  | some m =>
      cases metadata with
      | none => cases hmetadata
      | some a =>
          have hread : Json.readOption readMetadata m.toJson = .ok (some a) := by
            have hm : readMetadata m.toJson = .ok a := Option.some.inj hmetadata
            rw [Json.readOption]
            · rw [hm, Except.map]
            · intro hnull
              cases hnull
          refine (hlawful.ofFields_eq_ok_iff ?_).2 ⟨hknown _, _, ?_, hfinish⟩
          · show ["markers", "metadata", "name", "requires_target"].Nodup
            decide
          · simp [slotsOf, Json.Slot.Holds, Json.Fields.get?_cons, Json.readString, Json.readBool,
              Json.readNames_namesJson, hread]

end Reading

/-- **A written test is read as it was**, with metadata or without. -/
theorem ofJson_toJson (c : Case) : ofJson c.toJson = .ok c := by
  refine read_toJson (lawful_slotsOf rfl rfl) rfl c c.metadata ?_ ?_
  · simp [Metadata.ofJson_toJson]
  · obtain ⟨name, metadata, requiresTarget, markers⟩ := c
    cases metadata <;> rfl

/-- **A written test is read as its entry.** -/
theorem ofJson_toJson_entry (c : Case) : Entry.ofJson c.toJson = .ok c.entry := by
  refine read_toJson (lawful_slotsOf rfl rfl) rfl c (c.metadata.map Metadata.toJson) ?_ ?_
  · rw [Option.map_map]
    rfl
  · obtain ⟨name, metadata, requiresTarget, markers⟩ := c
    cases metadata <;> rfl

/-- A test without fault in its metadata. -/
def Faultless (c : Case) : Prop := ∀ m, c.metadata = some m → m.faults = []

/-- **The entry of a test becomes the test again just if it is without fault.** -/
theorem toCase_entry_iff {c : Case} : c.entry.toCase = .ok c ↔ c.Faultless := by
  obtain ⟨name, metadata, requiresTarget, markers⟩ := c
  cases metadata with
  | none =>
      refine iff_of_true rfl ?_
      rintro m ⟨⟩
  | some m =>
      have hchecked : Entry.checkedMetadata m.toJson =
          if m.faults = [] then .ok m else .error (.content m.faults) := by
        rw [Entry.checkedMetadata, m.ofJson_toJson]
      have hentry : (entry ⟨name, some m, requiresTarget, markers⟩).metadata = some m.toJson := rfl
      rw [Entry.toCase, hentry]
      simp only [hchecked, Faultless, Option.some.injEq, forall_eq']
      by_cases hnone : m.faults = []
      · rw [if_pos hnone]
        exact iff_of_true rfl hnone
      · rw [if_neg hnone]
        refine iff_of_false ?_ hnone
        rintro ⟨⟩

/-- What an entry becomes is without fault. -/
theorem faultless_of_toCase {e : Entry} {c : Case} (h : e.toCase = .ok c) : c.Faultless := by
  obtain ⟨name, metadata, requiresTarget, markers⟩ := e
  cases metadata with
  | none =>
      cases h
      rintro m ⟨⟩
  | some v =>
      simp only [Entry.toCase] at h
      cases hchecked : Entry.checkedMetadata v with
      | error fault =>
          rw [hchecked] at h
          cases h
      | ok m =>
          rw [hchecked] at h
          cases h
          rintro m' hm
          cases hm
          exact (Entry.checkedMetadata_eq_ok_iff.1 hchecked).2

end Case

/-! ## Catalogs -/

namespace Catalog

variable {entries : List Entry} {tests : List Case}

/-- The written form of the tests of a catalog. -/
def toJson (tests : List Case) : Json := .array (tests.map Case.toJson)

/-- **Written tests are read as their entries.** -/
theorem readList_toJson (tests : List Case) :
    Json.readList Entry.ofJson (toJson tests) = .ok (tests.map Case.entry) := by
  refine Json.mapM_eq_ok_iff.2 ?_
  rw [List.forall₂_map_left_iff, List.forall₂_map_right_iff]
  exact List.forall₂_same.2 fun c _ => c.ofJson_toJson_entry

/-- **The text of tests is read as their entries.** -/
theorem ofText_compact (tests : List Case) :
    ofText (toJson tests).compact = .ok (tests.map Case.entry) := by
  have hroom : 0 < Json.Scan.usualRoom - 1 := by decide
  have hitems : ∀ c ∈ tests, Json.Scan.Starts c.toJson.chars ∧
      (Entry.scan (Json.Scan.usualRoom - 1)).Reads c.toJson.chars c.entry :=
    fun c _ => ⟨Json.Scan.starts_chars _, c.scan_toJson (by decide)⟩
  have htext : (toJson tests).chars =
      '[' :: (Json.separated true (tests.map fun c => c.toJson.chars) ++ [']']) := by
    rw [toJson, Json.chars_array, List.map_map]
    rfl
  refine Json.Scan.Reads.whole ?_
  rw [Json.compact, String.toList_ofList, htext]
  exact Json.Scan.list_reads Entry.scan hroom hitems

/-- The entries of tests are accepted as these tests just if none of them has a fault. -/
theorem validate_entries_iff :
    validate (tests.map Case.entry) = .ok tests ↔ ∀ c ∈ tests, c.Faultless := by
  rw [validate, Json.mapM_eq_ok_iff, List.forall₂_map_left_iff, List.forall₂_same]
  simp only [Case.toCase_entry_iff]

/-- **Which tests a catalog can have:** those without fault. -/
theorem exists_validate_eq_iff :
    (∃ entries, validate entries = .ok tests) ↔ ∀ c ∈ tests, c.Faultless := by
  constructor
  · rintro ⟨entries, h⟩
    have hboth := (Json.mapM_eq_ok_iff.1 h).flip.imp
      fun _ _ hc => And.intro (Case.faultless_of_toCase hc) hc
    exact ((List.forall₂_and_left _ _).1 hboth).1
  · intro h
    exact ⟨_, validate_entries_iff.2 h⟩

/-- Tests are written as an exact value. -/
theorem exact_toJson {room : Nat} (hroom : 0 < room) (tests : List Case) :
    Json.Exact (room + 4) (toJson tests) := by
  refine .array (room + 3) _ (Nat.succ_pos _) fun v hv => ?_
  obtain ⟨c, -, rfl⟩ := List.mem_map.1 hv
  exact c.exact_toJson hroom

/-- **Accepted tests are accepted again, and as the same.** The written tests have metadata, and a
description in it, just where they had it. They are what their text stands for, and are read as the
tests they were. Read as entries, from values or from the text, they are validated with the tests they
were. -/
theorem validated_survives (h : validate entries = .ok tests) :
    (∀ c ∈ tests, c.toJson.member? "metadata" = c.metadata.map Metadata.toJson ∧
      ∀ m, c.metadata = some m → m.toJson.member? "description" = m.description.map .string) ∧
    Json.ofText Json.Scan.usualRoom (toJson tests).compact = .ok (toJson tests) ∧
    Json.readList Case.ofJson (toJson tests) = .ok tests ∧
    ∃ again, Json.readList Entry.ofJson (toJson tests) = .ok again ∧
      ofText (toJson tests).compact = .ok again ∧ validate again = .ok tests := by
  have hexact : Json.Exact (124 + 4) (toJson tests) := exact_toJson (by decide) tests
  have hagain : validate (tests.map Case.entry) = .ok tests :=
    validate_entries_iff.2 (exists_validate_eq_iff.1 ⟨entries, h⟩)
  exact ⟨fun c _ => ⟨c.member?_toJson, fun m _ => m.member?_toJson⟩, hexact.ofText_compact,
    Json.readList_map Case.ofJson_toJson tests, _, readList_toJson tests, ofText_compact tests, hagain⟩

/-- Metadata in the order of its fields and without a description; an empty description; and no
metadata at all. -/
theorem validated_survives_three_tests :
    let bare : Metadata := Metadata.basic "vm" "boot" 5
    let told : Metadata := ⟨"vm", "boot", 0, .ofList ["slow", "big"], ∅, some ""⟩
    let entries : List Entry :=
      [⟨"a", some (.array [.string "vm", .string "boot", .int 5]), true, ∅⟩,
       ⟨"a", some told.toJson, false, .ofList ["serial"]⟩, ⟨"", none, false, ∅⟩]
    let tests : List Case :=
      [⟨"a", some bare, true, ∅⟩, ⟨"a", some told, false, .ofList ["serial"]⟩, ⟨"", none, false, ∅⟩]
    validate entries = .ok tests ∧ Json.readList Case.ofJson (toJson tests) = .ok tests ∧
      ∃ again, Json.readList Entry.ofJson (toJson tests) = .ok again ∧
        ofText (toJson tests).compact = .ok again ∧ validate again = .ok tests := by
  intro bare told entries tests
  have h : validate entries = .ok tests := rfl
  obtain ⟨-, -, htests, hagain⟩ := validated_survives h
  exact ⟨h, htests, hagain⟩

end Catalog

end TestBench
