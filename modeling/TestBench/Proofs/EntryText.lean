import TestBench.Proofs.CompactReading
import TestBench.Proofs.PlaybookRoundTrip
import TestBench.Suite.CatalogText

/-!
# Entries are read from the texts of tests

A catalog text is typed while it is read: the fields of an entry go into a draft one after the other,
each by its own reader. If each field of a list enters the draft (`Entry.Enters`), the text of an
object with these fields is read as the entry of the last draft (`Entry.scan_reads`). The text of a
test has two to four such fields, and it is read as the entry of the test (`Case.scan_toJson`).
-/

set_option autoImplicit false

namespace TestBench

open Json (Exact Ends separated fieldText chars)
open Json.Scan (Reads)

/-- Names are read from their text. -/
theorem Metadata.names_reads {room : Nat} (hroom : 0 < room) (names : NameSet) :
    (Json.Scan.list (fun _ => Json.Scan.name) (room + 1)).Reads (chars (namesJson names))
      names.toList := by
  have hitems : ∀ s ∈ names.toList,
      Json.Scan.Starts (Json.stringText s) ∧ Json.Scan.name.Reads (Json.stringText s) (id s) :=
    fun s _ => ⟨Json.Scan.starts_chars (.string s), Json.Scan.name_reads s⟩
  have htext : chars (namesJson names) =
      '[' :: (separated true (names.toList.map Json.stringText) ++ [']']) := by
    rw [namesJson, Json.chars_array, List.map_map]
    rfl
  have hread := Json.Scan.list_reads (fun _ => Json.Scan.name) hroom hitems
  rwa [List.map_id, ← htext] at hread

/-! ## Fields into a draft -/

namespace Entry

variable {room rounds : Nat} {d d' : Case.Draft Json} {fields : Json.Fields} {rest : List Char}
variable {c : Json.Cursor}

/-- Fields take a draft to another one, each read from its text. -/
inductive Enters (room : Nat) : Case.Draft Json → Json.Fields → Case.Draft Json → Prop where
  | nil (d : Case.Draft Json) : Enters room d [] d
  | cons (d d' d'' : Case.Draft Json) (key : String) (v : Json) (fields : Json.Fields) (f : TextField)
      (hfind : textFields.find? (·.key == key) = some f) (hfree : f.isSet d = false)
      (hread : (f.enter room d).Reads (chars v) d') (h : Enters room d' fields d'') :
      Enters room d ((key, v) :: fields) d''

/-- What is read from a text enters the draft. -/
theorem entering_reads {α : Type} {set : α → Case.Draft Json → Case.Draft Json}
    {scan : Nat → Json.Scan α} {text : List Char} {a : α} (h : (scan room).Reads text a) :
    (entering set scan room d).Reads text (set a d) := by
  intro c rest hrest htext
  obtain ⟨c', hc', hread⟩ := h hrest htext
  exact ⟨c', hc', by rw [entering, hread, Except.map]⟩

/-- **The fields of an entry are read one after the other.** -/
theorem scanFields_eq (first : Bool) (h : Enters room d fields d')
    (hrounds : (separated first (fields.map fieldText)).length < rounds)
    (htext : c.rest = separated first (fields.map fieldText) ++ '\x7d' :: rest) :
    ∃ c' : Json.Cursor, c'.rest = '\x7d' :: rest ∧
      scanFields rounds room first d c = .ok (.ok d', c') := by
  obtain ⟨rounds, rfl⟩ := Nat.exists_eq_succ_of_ne_zero (Nat.ne_zero_of_lt hrounds)
  induction h generalizing first rounds c with
  | nil d =>
      refine ⟨c, htext, ?_⟩
      rw [scanFields, Json.Scan.nextKey_end first htext]
      rfl
  | cons d d' d'' key v fields f hfind hfree hread _ ih =>
      rw [List.map_cons] at hrounds htext
      have hlength :=
        Json.length_separated_cons first (fieldText (key, v)) (fields.map fieldText)
      have hpos : 0 < (fieldText (key, v)).length := Nat.succ_pos _
      rw [Json.separated_cons] at htext
      obtain ⟨c₁, hrest₁, hnext⟩ := Json.Scan.nextKey_eq first key (':' :: chars v) htext
      obtain ⟨c₂, hrest₂, hkey⟩ := Json.Scan.string_eq key hrest₁
      have hcolon := Json.Scan.colon_eq hrest₂
      obtain ⟨c₃, hrest₃, hvalue⟩ :=
        hread (Json.ends_separated _ (.inr rfl)) (Json.Cursor.rest_advance hrest₂)
      obtain ⟨rounds, rfl⟩ : ∃ k, rounds = k + 1 :=
        Nat.exists_eq_succ_of_ne_zero (by omega)
      obtain ⟨c₄, hrest₄, hrec⟩ := ih false hrest₃ rounds (by omega)
      refine ⟨c₄, hrest₄, ?_⟩
      rw [scanFields, hnext]
      simp only [bind, Except.bind, if_true, hkey, hfind, hfree, hcolon, hvalue, hrec,
        Bool.false_eq_true, if_false]

/-- **An entry is read from the text of an object** whose fields enter a draft of the entry. -/
theorem scan_reads {e : Entry} (hroom : 0 < room)
    (h : Enters room (Case.Draft.blank Json) fields d) (hentry : ofDraft d = .ok e) :
    (scan (room + 1)).Reads (chars (.object fields)) e := by
  intro c rest hrest htext
  have hform : c.rest = '\x7b' :: (separated true (fields.map fieldText) ++ '\x7d' :: rest) := by
    rw [htext, Json.chars_object, List.cons_append, List.append_assoc, List.singleton_append]
  have hbehind := Json.Cursor.rest_advance hform
  have henough : (separated true (fields.map fieldText)).length < c.advance.rest.length + 1 := by
    rw [hbehind, List.length_append]
    omega
  obtain ⟨c', hc', hread⟩ := scanFields_eq true h henough hbehind
  refine ⟨c'.advance, Json.Cursor.rest_advance hc', ?_⟩
  rw [scan, Json.Cursor.skipSpace_of_rest hform rfl, Json.Cursor.peek_of_rest hform]
  simp only [Json.Scan.enter_eq hroom, hread, bind, Except.bind, leave, Json.Scan.endObject_eq hc',
    hentry]

/-! ## The fields of a test -/

section Fields

theorem Enters.name {s : String} (hfree : d.name.isSome = false)
    (h : Enters room { d with name := some s } fields d') :
    Enters room d (("name", .string s) :: fields) d' := by
  have hread : (entering (fun a d => { d with name := some a }) (fun _ => Json.Scan.name) room d).Reads
      (chars (.string s)) { d with name := some s } := entering_reads (Json.Scan.name_reads s)
  exact .cons _ _ _ _ _ _ _ rfl hfree hread h

theorem Enters.metadata {v : Json} (hv : v ≠ .null) (hexact : Exact room v)
    (hfree : d.metadata.isSome = false)
    (h : Enters room { d with metadata := some (some v) } fields d') :
    Enters room d (("metadata", v) :: fields) d' := by
  have hread : (entering (fun a d => { d with metadata := some a })
      (fun room => Json.Scan.option (Json.Scan.value room)) room d).Reads
      (chars v) { d with metadata := some (some v) } :=
    entering_reads (Json.Scan.option_reads hv hexact.reads)
  exact .cons _ _ _ _ _ _ _ rfl hfree hread h

theorem Enters.requiresTarget {b : Bool} (hfree : d.requiresTarget.isSome = false)
    (h : Enters room { d with requiresTarget := some b } fields d') :
    Enters room d (("requires_target", .bool b) :: fields) d' := by
  have hread : (entering (fun a d => { d with requiresTarget := some a }) (fun _ => Json.Scan.flag)
      room d).Reads (chars (.bool b)) { d with requiresTarget := some b } :=
    entering_reads (Json.Scan.flag_reads b)
  exact .cons _ _ _ _ _ _ _ rfl hfree hread h

theorem Enters.markers {names : NameSet} (hroom : 1 < room) (hfree : d.markers.isSome = false)
    (h : Enters room { d with markers := some names } fields d') :
    Enters room d (("markers", Metadata.namesJson names) :: fields) d' := by
  obtain ⟨room, rfl⟩ : ∃ k, room = k + 1 := Nat.exists_eq_succ_of_ne_zero (by omega)
  have hread : (entering (fun a d => { d with markers := some (NameSet.ofList a) })
      (Json.Scan.list fun _ => Json.Scan.name) (room + 1) d).Reads
      (chars (Metadata.namesJson names)) { d with markers := some (NameSet.ofList names.toList) } :=
    entering_reads (Metadata.names_reads (by omega) names)
  rw [NameSet.ofList_toList] at hread
  exact .cons _ _ _ _ _ _ _ rfl hfree hread h

end Fields

end Entry

/-! ## Tests as texts -/

theorem Metadata.exact_namesJson {room : Nat} (hroom : 0 < room) (names : NameSet) :
    Exact (room + 1) (namesJson names) := by
  refine .array room _ hroom fun v hv => ?_
  obtain ⟨s, -, rfl⟩ := List.mem_map.1 hv
  exact .string room s

/-- Metadata is written as an exact value. -/
theorem Metadata.exact_toJson {room : Nat} (hroom : 0 < room) (m : Metadata) :
    Exact (room + 2) m.toJson := by
  obtain ⟨area, category, priority, tags, features, description⟩ := m
  have hpriority : Exact (room + 1) (.int priority.val) := by
    have := priority.isLt
    exact .int _ _ (by omega) (by rw [Json.Scan.greatestWord]; omega)
  refine .object (room + 1) _ (Nat.succ_pos _) ?_ ?_
  · rw [Json.Fields.Ascending, ← List.pairwise_map]
    cases description with
    | none =>
        show ["area", "category", "features", "priority", "tags"].Pairwise (· < ·)
        decide
    | some text =>
        show ["area", "category", "description", "features", "priority", "tags"].Pairwise (· < ·)
        decide
  · cases description with
    | none =>
        simp [exact_namesJson hroom, hpriority, Exact.string]
    | some text =>
        simp [exact_namesJson hroom, hpriority, Exact.string]

namespace Case

variable {room : Nat}

/-- The entry of a test, with its metadata as it is written. -/
def entry (c : Case) : Entry := ⟨c.name, c.metadata.map Metadata.toJson, c.requiresTarget, c.markers⟩

/-- A test is written as an exact value. -/
theorem exact_toJson {room : Nat} (hroom : 0 < room) (c : Case) : Exact (room + 3) c.toJson := by
  obtain ⟨name, metadata, requiresTarget, markers⟩ := c
  have hmarkers : Exact (room + 2) (Metadata.namesJson markers) :=
    Metadata.exact_namesJson (Nat.succ_pos _) markers
  refine .object (room + 2) _ (Nat.succ_pos _) ?_ ?_
  · rw [Json.Fields.Ascending, ← List.pairwise_map]
    cases metadata with
    | none =>
        show ["markers", "name", "requires_target"].Pairwise (· < ·)
        decide
    | some m =>
        show ["markers", "metadata", "name", "requires_target"].Pairwise (· < ·)
        decide
  · cases metadata with
    | none => simp [hmarkers, Exact.string, Exact.bool]
    | some m => simp [hmarkers, m.exact_toJson hroom, Exact.string, Exact.bool]

/-- **The entry of a test is read from the text of the test.** -/
theorem scan_toJson (hroom : 2 < room) (c : Case) :
    (Entry.scan (room + 1)).Reads (chars c.toJson) c.entry := by
  obtain ⟨name, metadata, requiresTarget, markers⟩ := c
  have hmarkers : 1 < room := by omega
  cases metadata with
  | none =>
      refine Entry.scan_reads (by omega)
        (.markers hmarkers rfl (.name rfl (.requiresTarget rfl (.nil _)))) rfl
  | some m =>
      have hexact : Exact room m.toJson := by
        obtain ⟨room, rfl⟩ : ∃ k, room = k + 2 := ⟨room - 2, by omega⟩
        exact m.exact_toJson (by omega)
      have hnull : m.toJson ≠ .null := by
        rintro ⟨⟩
      refine Entry.scan_reads (by omega)
        (.markers hmarkers rfl (.metadata hnull hexact rfl (.name rfl (.requiresTarget rfl (.nil _)))))
        rfl

end Case

end TestBench
