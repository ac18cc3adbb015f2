import TestBench.Proofs.DocumentForms
import TestBench.Proofs.ProperDocuments
import TestBench.Suite.Catalog

/-!
# Which catalogs are accepted

A test is accepted if its metadata is well formed (`Metadata.IsWellFormed`) or there is none. The
first part of this module proves that this is what the reader of metadata and the check for faults
decide together; the second part carries it to entries and to lists of them. The reader takes any
priority below 256 and any text, and the check has the bounds, so neither is the form of metadata by
itself.

An entry that is read from a document has no metadata if it stands as null, so a catalog in documents
may say so (`Entry.accepted_iff_of_ofJson`).
-/

set_option autoImplicit false

namespace TestBench

namespace Metadata

/-! ## Well-formed metadata -/

/-- The form of metadata, in the order of the fields. -/
def form : Json.Form :=
  [("area", Json.IsNonEmptyText), ("category", Json.IsNonEmptyText),
   ("priority", Json.IsIntegerWithin 0 5), ("tags", Json.ArrayOf Json.IsText),
   ("features", Json.ArrayOf Json.IsText), ("description", Json.OrNull Json.IsText)]

/-- The keys that metadata must have. -/
def requiredKeys : List String := ["area", "category", "priority"]

/-- Well-formed metadata: an object, or an array with the values in the order of the fields. -/
def IsWellFormed : Json → Prop
  | .object fields => Json.Fields.Distinct fields ∧ form.Admits requiredKeys fields
  | .array items =>
      items.length ≤ form.length ∧ form.Admits requiredKeys ((form.map (·.1)).zip items)
  | _ => False

/-- The places of the fields of metadata. -/
def slots : List (Json.Slot Draft) :=
  [⟨String, "area", false, (·.area), fun a d => { d with area := some a }, Json.readString⟩,
   ⟨String, "category", false, (·.category), fun a d => { d with category := some a },
     Json.readString⟩,
   ⟨Priority, "priority", false, (·.priority), fun a d => { d with priority := some a },
     Json.readNat 256⟩,
   ⟨NameSet, "tags", true, (·.tags), fun a d => { d with tags := some a }, Json.readNames⟩,
   ⟨NameSet, "features", true, (·.features), fun a d => { d with features := some a },
     Json.readNames⟩,
   ⟨Option String, "description", true, (·.description),
     fun a d => { d with description := some a }, Json.readOption Json.readString⟩]

theorem lawful : record.Lawful slots where
  fields := rfl
  keys := by decide
  same := by simp [slots]
  apart := by simp [slots, Json.Slot.Apart]
  blank := by simp [slots, record]
  ext := by
    rintro ⟨area, category, priority, tags, features, description⟩
      ⟨area', category', priority', tags', features', description'⟩ h
    simpa [slots] using h

section Fields

variable {entries : Json.Fields} {m : Metadata}

/-- Metadata is read as soon as it has area, category and priority. -/
theorem finish_isOk_iff (d : Draft) : (∃ m, record.finish d = .ok m) ↔
    ∀ s ∈ slots, s.optional = false → (s.get d).isSome = true := by
  obtain ⟨area, category, priority, tags, features, description⟩ := d
  cases area <;> cases category <;> cases priority <;>
    simp [record, slots, Json.required, bind, Except.bind, pure, Except.pure]

/-- Area, category and priority stand among the fields from which metadata is read. -/
theorem mem_of_ofFields (hdistinct : entries.Distinct) (h : record.ofFields entries = .ok m) :
    ("area", .string m.area) ∈ entries ∧ ("category", .string m.category) ∈ entries ∧
      ("priority", .int m.priority.val) ∈ entries := by
  obtain ⟨-, ⟨area, category, priority, tags, features, description⟩, hholds, hfinish⟩ :=
    (lawful.ofFields_eq_ok_iff hdistinct).1 h
  -- without one of the three fields the record is not finished
  simp only [slots, List.forall_mem_cons] at hholds
  obtain ⟨hareaHeld, hcategoryHeld, hpriorityHeld, -⟩ := hholds
  cases area with
  | none => cases hfinish
  | some area =>
      cases category with
      | none => cases hfinish
      | some category =>
          cases priority with
          | none => cases hfinish
          | some priority =>
              cases hfinish
              obtain ⟨x, hx, harea⟩ := hareaHeld.exists_of_get rfl
              obtain ⟨y, hy, hcategory⟩ := hcategoryHeld.exists_of_get rfl
              obtain ⟨z, hz, hpriority⟩ := hpriorityHeld.exists_of_get rfl
              obtain rfl := Json.readString_eq_ok_iff.1 harea
              obtain rfl := Json.readString_eq_ok_iff.1 hcategory
              obtain rfl := Json.readNat_eq_ok_iff.1 hpriority
              rw [Json.Fields.get?_eq_some_iff hdistinct] at hx hy hz
              exact ⟨hx, hy, hz⟩

/-- Fields of the form can be read. -/
theorem readable_of_admits (h : form.Admits requiredKeys entries) :
    (Json.Record.formOf slots).Admits (Json.Record.requiredOf slots) entries := by
  have htext : ∀ x, Json.IsNonEmptyText x → ∃ s, Json.readString x = .ok s :=
    fun x ⟨s, hx, _⟩ => ⟨s, Json.readString_eq_ok_iff.2 hx⟩
  refine h.mono (by decide) ?_
  refine .cons ⟨rfl, fun x _ => htext x⟩ (.cons ⟨rfl, fun x _ => htext x⟩
    (.cons ⟨rfl, fun x _ hx => ?_⟩ (.cons ⟨rfl, fun x _ => Json.exists_readNames_iff.2⟩
      (.cons ⟨rfl, fun x _ => Json.exists_readNames_iff.2⟩ (.cons ⟨rfl, fun x _ hx => ?_⟩ .nil)))))
  · obtain ⟨i, rfl, hleast, hgreatest⟩ := hx
    exact Json.exists_readNat_iff.2 ⟨i, rfl, hleast, by omega⟩
  · exact Json.exists_readOption_iff.2 (hx.imp_right Json.exists_readString_iff.2)

/-- Fields that can be read are of the form, if the bounds of the check hold. -/
theorem admits_of_readable
    (h : (Json.Record.formOf slots).Admits (Json.Record.requiredOf slots) entries)
    (harea : ∀ x, ("area", x) ∈ entries → Json.IsNonEmptyText x)
    (hcategory : ∀ x, ("category", x) ∈ entries → Json.IsNonEmptyText x)
    (hpriority : ∀ x, ("priority", x) ∈ entries → Json.IsIntegerWithin 0 5 x) :
    form.Admits requiredKeys entries := by
  refine h.mono (by decide) ?_
  refine .cons ⟨rfl, fun x hx _ => harea x hx⟩ (.cons ⟨rfl, fun x hx _ => hcategory x hx⟩
    (.cons ⟨rfl, fun x hx _ => hpriority x hx⟩ (.cons ⟨rfl, fun x _ => Json.exists_readNames_iff.1⟩
      (.cons ⟨rfl, fun x _ => Json.exists_readNames_iff.1⟩ (.cons ⟨rfl, fun x _ hx => ?_⟩ .nil)))))
  exact (Json.exists_readOption_iff.1 hx).imp_right Json.exists_readString_iff.1

/-- **Metadata without faults is read from the fields of its form.** -/
theorem exists_faultless_ofFields_iff (hdistinct : entries.Distinct) :
    (∃ m, record.ofFields entries = .ok m ∧ m.faults = []) ↔ form.Admits requiredKeys entries := by
  have hread := lawful.exists_ofFields_iff rfl finish_isOk_iff hdistinct
  constructor
  · rintro ⟨m, hm, hfaults⟩
    obtain ⟨harea, hcategory, hpriority⟩ := mem_of_ofFields hdistinct hm
    obtain ⟨hnamed, hkind, hrange⟩ := faults_eq_nil_iff.1 hfaults
    have hrange : m.priority.val ≤ 5 := hrange
    apply admits_of_readable (hread.1 ⟨m, hm⟩)
    · exact fun x hx => ⟨m.area, hdistinct.eq_of_mem hx harea, hnamed⟩
    · exact fun x hx => ⟨m.category, hdistinct.eq_of_mem hx hcategory, hkind⟩
    · exact fun x hx => ⟨m.priority.val, hdistinct.eq_of_mem hx hpriority, by omega, by omega⟩
  · intro hform
    obtain ⟨m, hm⟩ := hread.2 (readable_of_admits hform)
    obtain ⟨harea, hcategory, hpriority⟩ := mem_of_ofFields hdistinct hm
    refine ⟨m, hm, faults_eq_nil_iff.2 ⟨?_, ?_, ?_⟩⟩
    · obtain ⟨s, hs, hne⟩ : Json.IsNonEmptyText (.string m.area) :=
        hform.of_mem (by decide) (by simp [form]) harea
      cases hs
      exact hne
    · obtain ⟨s, hs, hne⟩ : Json.IsNonEmptyText (.string m.category) :=
        hform.of_mem (by decide) (by simp [form]) hcategory
      cases hs
      exact hne
    · obtain ⟨i, hi, -, hgreatest⟩ : Json.IsIntegerWithin 0 5 (.int m.priority.val) :=
        hform.of_mem (by decide) (by simp [form]) hpriority
      cases hi
      show m.priority.val ≤ 5
      omega

end Fields

/-- **Metadata without faults is read from well-formed values.** -/
theorem exists_faultless_ofJson_iff {v : Json} :
    (∃ m, ofJson v = .ok m ∧ m.faults = []) ↔ IsWellFormed v := by
  cases v with
  | object fields =>
      constructor
      · rintro ⟨m, hm, hfaults⟩
        have hdistinct := lawful.distinct_of_ofFields rfl hm
        exact ⟨hdistinct, (exists_faultless_ofFields_iff hdistinct).1 ⟨m, hm, hfaults⟩⟩
      · rintro ⟨hdistinct, hform⟩
        exact (exists_faultless_ofFields_iff hdistinct).2 hform
  | array items =>
      -- the items count as fields under the keys of the form
      have hdistinct := (lawful.zip_keys items).1
      constructor
      · rintro ⟨m, hm, hfaults⟩
        obtain ⟨hlength, -, hread⟩ := lawful.ofItems_eq_ok_iff.1 hm
        exact ⟨hlength, (exists_faultless_ofFields_iff hdistinct).1 ⟨m, hread, hfaults⟩⟩
      · rintro ⟨hlength, hform⟩
        obtain ⟨m, hread, hfaults⟩ := (exists_faultless_ofFields_iff hdistinct).2 hform
        refine ⟨m, lawful.ofItems_eq_ok_iff.2 ⟨hlength, ?_, hread⟩, hfaults⟩
        refine lawful.optional_of_required fun s hs hneeded => hform.2 s.key ?_
        have hrequired : Json.Record.requiredOf slots ⊆ requiredKeys := by decide
        apply hrequired
        exact List.mem_map_of_mem (List.mem_filter.2 ⟨hs, by simp [hneeded]⟩)
  | _ => exact iff_of_false (fun ⟨_, h, _⟩ => nomatch h) not_false

end Metadata

/-! ## Tests as objects -/

namespace Case

variable {α β : Type} {readMetadata : Json → Except Json.Mismatch α} {r : Json.Record (Draft α) β}

/-- The places of the fields of a test, its metadata read by the given reader. -/
def slotsOf (readMetadata : Json → Except Json.Mismatch α) : List (Json.Slot (Draft α)) :=
  [⟨String, "name", false, (·.name), fun a d => { d with name := some a }, Json.readString⟩,
   ⟨Option α, "metadata", true, (·.metadata), fun a d => { d with metadata := some a },
     Json.readOption readMetadata⟩,
   ⟨Bool, "requires_target", true, (·.requiresTarget),
     fun a d => { d with requiresTarget := some a }, Json.readBool⟩,
   ⟨NameSet, "markers", true, (·.markers), fun a d => { d with markers := some a },
     Json.readNames⟩]

/-- Whatever is read by the fields of a test has a place for each of them. -/
theorem lawful_slotsOf (hfields : r.fields = fields readMetadata) (hblank : r.blank = Draft.blank α) :
    r.Lawful (slotsOf readMetadata) where
  fields := hfields
  keys := by
    show ["name", "metadata", "requires_target", "markers"].Nodup
    decide
  same := by simp [slotsOf]
  apart := by simp [slotsOf, Json.Slot.Apart]
  blank := by simp [slotsOf, hblank, Draft.blank]
  ext := by
    rintro ⟨name, metadata, requiresTarget, markers⟩
      ⟨name', metadata', requiresTarget', markers'⟩ h
    simpa [slotsOf] using h

end Case

/-! ## Entries -/

namespace Entry

/-- An entry is accepted if its metadata is well formed, or if it has none. -/
def Accepted (e : Entry) : Prop := ∀ v, e.metadata = some v → Metadata.IsWellFormed v

/-- A test is that of an entry. -/
structure Becomes (e : Entry) (c : Case) : Prop where
  /-- It has the name of the entry. -/
  name : c.name = e.name
  /-- It needs a target if the entry says so. -/
  requiresTarget : c.requiresTarget = e.requiresTarget
  /-- It has the markers of the entry. -/
  markers : c.markers = e.markers
  /-- It has metadata if the entry has. -/
  isSome : c.metadata.isSome = e.metadata.isSome
  /-- The metadata is what was read. -/
  metadata : ∀ v m, e.metadata = some v → c.metadata = some m → Metadata.ofJson v = .ok m

variable {e : Entry} {c : Case}

/-- Metadata passes the check if it is read and without faults. -/
theorem checkedMetadata_eq_ok_iff {v : Json} {m : Metadata} :
    checkedMetadata v = .ok m ↔ Metadata.ofJson v = .ok m ∧ m.faults = [] := by
  unfold checkedMetadata
  cases Metadata.ofJson v with
  | error mismatch => exact iff_of_false nofun nofun
  | ok m' =>
      simp only [Except.ok.injEq]
      split
      · next hnone =>
          rw [Except.ok.injEq]
          exact ⟨fun h => ⟨h, h ▸ hnone⟩, And.left⟩
      · next hsome => exact iff_of_false nofun fun ⟨h, hnone⟩ => hsome (h ▸ hnone)

theorem exists_checkedMetadata_iff {v : Json} :
    (∃ m, checkedMetadata v = .ok m) ↔ Metadata.IsWellFormed v := by
  rw [← Metadata.exists_faultless_ofJson_iff]
  exact exists_congr fun _ => checkedMetadata_eq_ok_iff

/-- **Accepted entries become tests.** -/
theorem exists_toCase_iff : (∃ c, e.toCase = .ok c) ↔ e.Accepted := by
  obtain ⟨name, metadata, requiresTarget, markers⟩ := e
  cases metadata with
  | none => exact iff_of_true ⟨_, rfl⟩ nofun
  | some v =>
      have haccepted : Accepted ⟨name, some v, requiresTarget, markers⟩ ↔
          Metadata.IsWellFormed v := by simp [Accepted]
      rw [haccepted, ← exists_checkedMetadata_iff]
      simp only [toCase]
      cases checkedMetadata v with
      | ok m => exact iff_of_true ⟨_, rfl⟩ ⟨m, rfl⟩
      | error fault => exact iff_of_false (fun ⟨_, h⟩ => nomatch h) fun ⟨_, h⟩ => nomatch h

theorem becomes_of_toCase (h : e.toCase = .ok c) : e.Becomes c := by
  obtain ⟨name, metadata, requiresTarget, markers⟩ := e
  cases metadata with
  | none =>
      cases h
      exact ⟨rfl, rfl, rfl, rfl, nofun⟩
  | some v =>
      simp only [toCase] at h
      cases hchecked : checkedMetadata v with
      | error fault =>
          rw [hchecked] at h
          cases h
      | ok m =>
          rw [hchecked] at h
          cases h
          refine ⟨rfl, rfl, rfl, rfl, ?_⟩
          rintro v' m' hv hm
          cases hv
          cases hm
          exact (checkedMetadata_eq_ok_iff.1 hchecked).1

/-- A rejection names the entry. -/
theorem test_of_toCase {r : Rejection} (h : e.toCase = .error r) : r.test = e.name := by
  obtain ⟨name, metadata, requiresTarget, markers⟩ := e
  cases metadata with
  | none => cases h
  | some v =>
      simp only [toCase] at h
      cases hchecked : checkedMetadata v with
      | ok m =>
          rw [hchecked] at h
          cases h
      | error fault =>
          rw [hchecked] at h
          cases h
          rfl

/-! ### Entries in documents -/

/-- The places of the fields of an entry. -/
def slots : List (Json.Slot (Case.Draft Json)) :=
  [⟨String, "name", false, (·.name), fun a d => { d with name := some a }, Json.readString⟩,
   ⟨Option Json, "metadata", true, (·.metadata), fun a d => { d with metadata := some a },
     Json.readOption .ok⟩,
   ⟨Bool, "requires_target", true, (·.requiresTarget),
     fun a d => { d with requiresTarget := some a }, Json.readBool⟩,
   ⟨NameSet, "markers", true, (·.markers), fun a d => { d with markers := some a },
     Json.readNames⟩]

theorem lawful : record.Lawful slots := Case.lawful_slotsOf rfl rfl

/-- The metadata that stands in the document of an entry: under its key, or at its place. -/
def metadataIn : Json → Option Json
  | .object fields => Json.Fields.get? fields "metadata"
  | .array items => items[1]?
  | _ => none

theorem metadata_of_ofFields {entries : Json.Fields} (hdistinct : entries.Distinct)
    (h : record.ofFields entries = .ok e) (v : Json) :
    e.metadata = some v ↔ entries.get? "metadata" = some v ∧ v ≠ .null := by
  obtain ⟨-, ⟨name, metadata, requiresTarget, markers⟩, hholds, hfinish⟩ :=
    (lawful.ofFields_eq_ok_iff hdistinct).1 h
  have hmetadata : (entries.get? "metadata").map (Json.readOption .ok) = metadata.map .ok :=
    hholds _ (List.mem_cons_of_mem _ List.mem_cons_self)
  cases name with
  | none => cases hfinish
  | some name =>
      cases hfinish
      show metadata.getD none = some v ↔ _
      cases hget : entries.get? "metadata" with
      | none =>
          rw [hget] at hmetadata
          cases metadata with
          | none => exact iff_of_false nofun nofun
          | some held => cases hmetadata
      | some x =>
          rw [hget] at hmetadata
          cases metadata with
          | none => cases hmetadata
          | some held =>
              -- null is read as absence, and every other value as itself
              have hread : Json.readOption .ok x = .ok held := Option.some.inj hmetadata
              cases x with
              | null =>
                  cases hread
                  refine iff_of_false nofun ?_
                  rintro ⟨hv, hne⟩
                  exact hne (Option.some.inj hv).symm
              | _ =>
                  cases hread
                  refine ⟨fun hv => ⟨hv, ?_⟩, And.left⟩
                  cases hv
                  nofun

/-- **An entry has the metadata that stands in its document, unless that is null.** -/
theorem metadata_of_ofJson {d : Json} (hproper : d.Proper) (h : ofJson d = .ok e) (v : Json) :
    e.metadata = some v ↔ metadataIn d = some v ∧ v ≠ .null := by
  cases d with
  | object fields => exact metadata_of_ofFields hproper.distinct h v
  | array items =>
      obtain ⟨-, -, hread⟩ := lawful.ofItems_eq_ok_iff.1 h
      rw [metadata_of_ofFields (lawful.zip_keys items).1 hread v]
      have hplace : Json.Fields.get? (record.keys.zip items) "metadata" = items[1]? := by
        rcases items with _ | ⟨first, _ | ⟨second, rest⟩⟩
        · rfl
        · rfl
        · rfl
      rw [hplace]
      rfl
  | _ => cases h

/-- **What is accepted in a document:** no metadata, null or well-formed metadata. -/
theorem accepted_iff_of_ofJson {d : Json} (hproper : d.Proper) (h : ofJson d = .ok e) :
    e.Accepted ↔ ∀ v, metadataIn d = some v → v = .null ∨ Metadata.IsWellFormed v := by
  refine forall_congr' fun v => ?_
  rw [metadata_of_ofJson hproper h v, and_imp]
  exact imp_congr_right fun _ => or_iff_not_imp_left.symm

end Entry

/-! ## Catalogs -/

namespace Catalog

variable {entries : List Entry}

/-- **A catalog is valid if all its entries are accepted.** -/
theorem exists_validate_iff :
    (∃ tests, validate entries = .ok tests) ↔ ∀ e ∈ entries, e.Accepted := by
  rw [validate, Json.exists_mapM_iff]
  exact forall₂_congr fun _ _ => Entry.exists_toCase_iff

/-- A valid catalog has one test for each entry, in their order. -/
theorem becomes_of_validate {tests : List Case} (h : validate entries = .ok tests) :
    List.Forall₂ Entry.Becomes entries tests :=
  (Json.mapM_eq_ok_iff.1 h).imp fun _ _ => Entry.becomes_of_toCase

/-- **Another catalog is rejected because of the first entry that is not accepted.** -/
theorem first_of_validate {r : Rejection} (h : validate entries = .error r) :
    ∃ before e after, entries = before ++ e :: after ∧ (∀ e' ∈ before, e'.Accepted) ∧
      ¬ e.Accepted ∧ r.test = e.name := by
  obtain ⟨before, e, after, hentries, hbefore, he⟩ := Json.exists_of_mapM_eq_error h
  refine ⟨before, e, after, hentries, fun e' he' => ?_, ?_, Entry.test_of_toCase he⟩
  · exact Entry.exists_toCase_iff.1 (hbefore e' he')
  · rw [← Entry.exists_toCase_iff, he]
    rintro ⟨c, hc⟩
    cases hc

/-- **A catalog in documents is valid if no metadata in it is ill-formed;** it may be absent or
null. -/
theorem exists_validate_iff_of_documents {documents : List Json}
    (hproper : ∀ d ∈ documents, d.Proper) (hread : documents.mapM Entry.ofJson = .ok entries) :
    (∃ tests, validate entries = .ok tests) ↔ ∀ d ∈ documents, ∀ v,
      Entry.metadataIn d = some v → v = .null ∨ Metadata.IsWellFormed v := by
  rw [exists_validate_iff]
  have hall := Json.mapM_eq_ok_iff.1 hread
  clear hread
  induction hall with
  | nil => exact iff_of_true (List.forall_mem_nil _) (List.forall_mem_nil _)
  | cons he _ ih =>
      obtain ⟨hfirst, hrest⟩ := List.forall_mem_cons.1 hproper
      rw [List.forall_mem_cons, List.forall_mem_cons]
      exact and_congr (Entry.accepted_iff_of_ofJson hfirst he) (ih hrest)

end Catalog

end TestBench
