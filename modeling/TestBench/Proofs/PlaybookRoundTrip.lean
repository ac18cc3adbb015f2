import TestBench.Proofs.PlaybookAcceptance

/-!
# Playbooks written and read again

Whatever is read as a playbook is `Playbook.Regular`: targets and platforms have names, no two targets
share one, and no criterion asks for more than a thousand copies. These are all conditions there are.
By `Playbook.ofJson_toJson_iff` a playbook is read from its written form just if it is regular, so
writing what was read gives a document that is read as the same (`Playbook.written_is_read`).

The parts come first. A written target and a written criterion are read as they were, whatever they
are; only the schema asks for more.
-/

set_option autoImplicit false

namespace TestBench

/-! ## Sets of names -/

namespace NameSet

variable {name : String} {l : List String} {s : NameSet}

/-- A name behind all others comes last. -/
theorem insertSorted_eq_append (h : ∀ a ∈ l, a < name) : insertSorted name l = l ++ [name] := by
  induction l with
  | nil => rfl
  | cons b rest ih =>
      obtain ⟨hb, hrest⟩ := List.forall_mem_cons.1 h
      have hne : name ≠ b := fun heq => String.lt_irrefl b (heq ▸ hb)
      rw [insertSorted, if_neg (String.lt_asymm hb), if_neg hne, ih hrest, List.cons_append]

theorem toList_foldl_insert (h : (s.toList ++ l).Pairwise (· < ·)) :
    (l.foldl insert s).toList = s.toList ++ l := by
  induction l generalizing s with
  | nil => exact (List.append_nil _).symm
  | cons name rest ih =>
      have hlast : (s.insert name).toList = s.toList ++ [name] :=
        insertSorted_eq_append fun a ha => (List.pairwise_append.1 h).2.2 a ha name List.mem_cons_self
      rw [List.foldl_cons, ih (by simpa [hlast] using h), hlast, List.append_assoc,
        List.singleton_append]

/-- **A set is made of its members.** -/
theorem ofList_toList (s : NameSet) : ofList s.toList = s := by
  -- the members come in their order, so each of them is inserted at the end
  have hlist : (ofList s.toList).toList = s.toList := toList_foldl_insert s.ascending
  cases s
  cases hset : ofList _
  rw [hset] at hlist
  cases hlist
  rfl

end NameSet

/-! ## Values -/

namespace Json

variable {α : Type} {read : Json → Except Mismatch α} {write : α → Json}

/-- What is written item by item is read item by item. -/
theorem readList_map (h : ∀ a, read (write a) = .ok a) (l : List α) :
    readList read (.array (l.map write)) = .ok l := by
  refine mapM_eq_ok_iff.2 ?_
  rw [List.forall₂_map_left_iff]
  exact List.forall₂_same.2 fun a _ => h a

/-- What the items of a list have in common carries over to what is read from them. -/
theorem forall_mem_of_readList {P : Json → Prop} {Q : α → Prop} {v : Json} {l : List α}
    (hform : ArrayOf P v) (hread : readList read v = .ok l)
    (h : ∀ x a, P x → read x = .ok a → Q a) : ∀ a ∈ l, Q a := by
  obtain ⟨items, rfl, hall⟩ := hform
  have hitems := mapM_eq_ok_iff.1 hread
  clear hread
  -- on the items and what is read from them, side by side
  induction hitems with
  | nil => exact List.forall_mem_nil _
  | cons ha _ ih =>
      obtain ⟨hx, hrest⟩ := List.forall_mem_cons.1 hall
      exact List.forall_mem_cons.2 ⟨h _ _ hx ha, ih hrest⟩

/-- A value that may be unset, if what is written for it is not null. -/
theorem readOption_orNull (h : ∀ a, read (write a) = .ok a) (hnull : ∀ a, write a ≠ .null)
    (o : Option α) : readOption read (Criterion.orNull write o) = .ok o := by
  cases o with
  | none => rfl
  | some a =>
      have hvalue : readOption read (write a) = (read (write a)).map some := by
        rw [readOption]
        exact hnull a
      rw [Criterion.orNull, hvalue, h, Except.map]

theorem readNames_namesJson (names : NameSet) :
    readNames (Metadata.namesJson names) = .ok names := by
  have htexts : readList readString (.array (names.toList.map .string)) = .ok names.toList :=
    readList_map (fun name : String => (rfl : readString (.string name) = .ok name)) _
  rw [readNames, Metadata.namesJson, htexts, Except.map, NameSet.ofList_toList]

/-- What a closed record was read from, without conditions on the fields. -/
theorem Record.Lawful.exists_draft {δ : Type} {r : Record δ α} {slots : List (Slot δ)}
    {entries : Fields} {a : α} (h : r.Lawful slots) (hclosed : r.closed = true)
    (hread : r.ofFields entries = .ok a) :
    entries.Distinct ∧ ∃ d, (∀ s ∈ slots, s.Holds entries d) ∧ r.finish d = .ok a := by
  have hdistinct := h.distinct_of_ofFields hclosed hread
  exact ⟨hdistinct, ((h.ofFields_eq_ok_iff hdistinct).1 hread).2⟩

end Json

/-! ## Targets -/

namespace TargetSpec

variable {v : Json} {t : TargetSpec}

/-- **A written target is read as it was**, its parameters included. -/
theorem ofJson_toJson (t : TargetSpec) : ofJson t.toJson = .ok t := by
  refine (lawful.ofFields_eq_ok_iff ?_).2
    ⟨?_, ⟨some t.name, some t.platform, some t.parameters⟩, ?_, rfl⟩
  · show ["name", "parameters", "platform"].Nodup
    decide
  · simp [record, Json.Record.keys, Json.Field.at]
  · simp [slots, Json.Slot.Holds, Json.Fields.get?_cons, Json.readString, Json.readFields]

/-- The schema lets through written targets that have names. -/
theorem isTarget_toJson (hname : t.name ≠ "") (hplatform : t.platform ≠ "") :
    IsTarget t.toJson := by
  refine ⟨_, rfl, ?_, by simp⟩
  simp [form, Json.IsNonEmptyText, Json.IsMap, hname, hplatform]

/-- What the schema lets through as a target has names. -/
theorem IsTarget.named (h : IsTarget v) (hread : ofJson v = .ok t) :
    t.name ≠ "" ∧ t.platform ≠ "" := by
  obtain ⟨fields, rfl, hfields⟩ := h
  obtain ⟨hdistinct, ⟨name, platform, parameters⟩, hholds, hfinish⟩ :=
    lawful.exists_draft rfl hread
  have hnonempty : ∀ key text, (key, Json.IsNonEmptyText) ∈ form →
      (∃ x, Json.Fields.get? fields key = some x ∧ Json.readString x = .ok text) → text ≠ "" := by
    rintro key text hkey ⟨x, hx, htext⟩
    obtain rfl := Json.readString_eq_ok_iff.1 htext
    obtain ⟨text, heq, hne⟩ : Json.IsNonEmptyText (.string text) :=
      hfields.of_mem (by decide) hkey ((Json.Fields.get?_eq_some_iff hdistinct).1 hx)
    cases heq
    exact hne
  cases name with
  | none => cases hfinish
  | some name =>
      cases platform with
      | none => cases hfinish
      | some platform =>
          cases hfinish
          simp only [slots, List.forall_mem_cons] at hholds
          obtain ⟨hname, hplatform, -⟩ := hholds
          exact ⟨hnonempty "name" name (by simp [form]) (hname.exists_of_get rfl),
            hnonempty "platform" platform (by simp [form]) (hplatform.exists_of_get rfl)⟩

end TargetSpec

/-! ## Criteria -/

namespace Criterion

variable {v : Json} {c : Criterion}

theorem readPriority_orNull (o : Option Priority) :
    readPriority (orNull (fun p => .int p.val) o) = .ok o := by
  cases o with
  | none => rfl
  | some p =>
      have hnumber : Json.readNat 256 (.int (p.val : Int)) = .ok p := Json.readNat_eq_ok_iff.2 rfl
      rw [orNull, readPriority]
      · rw [hnumber]
      all_goals simp

/-- **A written criterion is read as it was**, whether its conditions are set or not. -/
theorem ofJson_toJson (c : Criterion) : ofJson c.toJson = .ok c := by
  refine (lawful.ofFields_eq_ok_iff ?_).2
    ⟨?_, ⟨some c.name, some c.area, some c.category, some c.priority, some c.tags, some c.times,
      some c.exclude⟩, ?_, rfl⟩
  · show ["area", "category", "exclude", "name", "priority", "tags", "times"].Nodup
    decide
  · simp [record, Json.Record.keys, Json.Field.at]
  · have htext : ∀ o, Json.readOption Json.readString (orNull .string o) = .ok o :=
      Json.readOption_orNull (fun _ => rfl) (by rintro s ⟨⟩)
    have htags : Json.readOption Json.readNames (orNull Metadata.namesJson c.tags) = .ok c.tags :=
      Json.readOption_orNull Json.readNames_namesJson (by rintro names ⟨⟩) c.tags
    have htimes : Json.readNat 4294967296 (.int (c.times.val : Int)) = .ok c.times :=
      Json.readNat_eq_ok_iff.2 rfl
    simp [slots, Json.Slot.Holds, Json.Fields.get?_cons, Json.readBool, htext, htags, htimes,
      readPriority_orNull]

/-- The schema lets through written criteria that do not ask for too many copies. -/
theorem isRule_toJson (h : c.times.val ≤ 1000) :
    IsRule (Schema.IsWholeWithin 0 1000) IsLoosePriority c.toJson := by
  have htext : ∀ o, Json.OrNull Json.IsText (orNull .string o) := by
    rintro (- | s)
    · exact .inl rfl
    · exact .inr ⟨s, rfl⟩
  have hpriority : IsLoosePriority (orNull (fun p : Priority => .int p.val) c.priority) := by
    cases c.priority with
    | none => exact .inl rfl
    | some p => exact .inr (.inr (.inl ⟨_, rfl⟩))
  have htags : Json.OrNull (Json.ArrayOf Json.IsText) (orNull Metadata.namesJson c.tags) := by
    cases c.tags with
    | none => exact .inl rfl
    | some names => exact .inr ⟨_, rfl, List.forall_mem_map.2 fun name _ => ⟨name, rfl⟩⟩
  have htimes : Schema.IsWholeWithin 0 1000 (.int (c.times.val : Int)) :=
    .inl ⟨_, rfl, by omega, by omega⟩
  refine ⟨_, rfl, ?_, by simp⟩
  simp [form, htext, hpriority, htags, htimes, Json.IsFlag]

/-- What the schema lets through as a criterion does not ask for too many copies. -/
theorem IsRule.times_le {priority : Json → Prop}
    (h : IsRule (Schema.IsWholeWithin 0 1000) priority v) (hread : ofJson v = .ok c) :
    c.times.val ≤ 1000 := by
  obtain ⟨fields, rfl, hfields⟩ := h
  obtain ⟨hdistinct, ⟨name, area, category, priority', tags, times, exclude⟩, hholds, hfinish⟩ :=
    lawful.exists_draft rfl hread
  cases hfinish
  cases times with
  | none => exact Nat.le_of_ble_eq_true rfl
  | some n =>
      simp only [slots, List.forall_mem_cons] at hholds
      obtain ⟨-, -, -, -, -, htimes, -⟩ := hholds
      obtain ⟨x, hx, hn⟩ := htimes.exists_of_get rfl
      obtain rfl := Json.readNat_eq_ok_iff.1 hn
      -- the schema admits whole floats as well, but they are not read
      have hwhole : Schema.IsWholeWithin 0 1000 (.int (n.val : Int)) :=
        hfields.of_mem (by simp [form]) (by simp [form])
          ((Json.Fields.get?_eq_some_iff hdistinct).1 hx)
      rcases hwhole with ⟨i, heq, -, hle⟩ | ⟨d, heq, -⟩
      · cases heq
        show n.val ≤ 1000
        omega
      · cases heq

end Criterion

/-! ## Playbooks -/

namespace Playbook

variable {d : Json} {p : Playbook}

/-- The conditions that the schema and the check of names put on a playbook. -/
structure Regular (p : Playbook) : Prop where
  /-- Targets and platforms have names. -/
  named : ∀ t ∈ p.targets, t.name ≠ "" ∧ t.platform ≠ ""
  /-- No two targets share a name. -/
  distinct : p.targetNames.Nodup
  /-- No criterion asks for too many copies. -/
  bounded : ∀ c ∈ p.criteria, c.times.val ≤ 1000

/-- A written playbook is read as it was. -/
theorem read_toJson (p : Playbook) : record.read p.toJson = .ok p := by
  refine (lawful.ofFields_eq_ok_iff ?_).2 ⟨?_, ⟨some p.targets, some p.criteria⟩, ?_, rfl⟩
  · show ["criteria", "targets"].Nodup
    decide
  · simp [record, Json.Record.keys, Json.Field.at]
  · simp [slots, Json.Slot.Holds, Json.Fields.get?_cons,
      Json.readList_map TargetSpec.ofJson_toJson, Json.readList_map Criterion.ofJson_toJson]

/-- The schema lets through written playbooks that are regular. -/
theorem Regular.isLoose_toJson (h : p.Regular) : IsLoose p.toJson := by
  have htargets : Json.ArrayOf TargetSpec.IsTarget (.array (p.targets.map TargetSpec.toJson)) := by
    refine ⟨_, rfl, List.forall_mem_map.2 fun t ht => ?_⟩
    obtain ⟨hname, hplatform⟩ := h.named t ht
    exact TargetSpec.isTarget_toJson hname hplatform
  have hcriteria : Json.ArrayOf
      (Criterion.IsRule (Schema.IsWholeWithin 0 1000) Criterion.IsLoosePriority)
      (.array (p.criteria.map Criterion.toJson)) :=
    ⟨_, rfl, List.forall_mem_map.2 fun c hc => Criterion.isRule_toJson (h.bounded c hc)⟩
  refine ⟨_, rfl, ?_, by simp⟩
  simp [form, htargets, hcriteria]

/-- **A regular playbook is read from its written form.** -/
theorem Regular.ofJson_toJson (h : p.Regular) : ofJson p.toJson = .ok p := by
  have hpresent : present p.toJson = p.toJson := rfl
  have hschema : Schema.playbook p.toJson = [] := playbook_eq_nil_iff.2 h.isLoose_toJson
  simp only [ofJson, hpresent, hschema, read_toJson, distinctTargets_of_nodup h.distinct]

/-- What a document has passed on its way to a playbook. -/
theorem gates_of_ofJson (h : ofJson d = .ok p) :
    IsLoose (present d) ∧ record.read (present d) = .ok p ∧ p.targetNames.Nodup := by
  simp only [ofJson] at h
  cases hschema : Schema.playbook (present d) with
  | cons violation rest =>
      rw [hschema] at h
      cases h
  | nil =>
      rw [hschema] at h
      cases hread : record.read (present d) with
      | error m =>
          rw [hread] at h
          cases h
      | ok q =>
          rw [hread] at h
          simp only [distinctTargets] at h
          cases hrepeated : firstRepeated? [] q.targetNames with
          | some name =>
              rw [hrepeated] at h
              cases h
          | none =>
              rw [hrepeated] at h
              cases h
              exact ⟨playbook_eq_nil_iff.1 hschema, rfl, (firstRepeated?_eq_none_iff.1 hrepeated).1⟩

/-- **What is read is regular.** -/
theorem regular_of_ofJson (h : ofJson d = .ok p) : p.Regular := by
  obtain ⟨⟨fields, hfields, hadmits⟩, hread, hnodup⟩ := gates_of_ofJson h
  rw [hfields] at hread
  obtain ⟨hdistinct, ⟨targets, criteria⟩, hholds, hfinish⟩ := lawful.exists_draft rfl hread
  cases hfinish
  simp only [slots, List.forall_mem_cons] at hholds
  obtain ⟨htargets, hcriteria, -⟩ := hholds
  refine ⟨?_, hnodup, ?_⟩
  · cases targets with
    | none => exact List.forall_mem_nil _
    | some specs =>
        obtain ⟨x, hx, hspecs⟩ := htargets.exists_of_get rfl
        have harray : Json.ArrayOf TargetSpec.IsTarget x :=
          hadmits.of_mem (by simp [form]) (by simp [form])
            ((Json.Fields.get?_eq_some_iff hdistinct).1 hx)
        exact Json.forall_mem_of_readList harray hspecs fun v t => TargetSpec.IsTarget.named
  · cases criteria with
    | none => exact List.forall_mem_nil _
    | some rules =>
        obtain ⟨x, hx, hrules⟩ := hcriteria.exists_of_get rfl
        have harray : Json.ArrayOf
            (Criterion.IsRule (Schema.IsWholeWithin 0 1000) Criterion.IsLoosePriority) x :=
          hadmits.of_mem (by simp [form]) (by simp [form])
            ((Json.Fields.get?_eq_some_iff hdistinct).1 hx)
        exact Json.forall_mem_of_readList harray hrules fun v c => Criterion.IsRule.times_le

/-- A playbook is read from its written form just if it is regular. -/
theorem ofJson_toJson_iff : ofJson p.toJson = .ok p ↔ p.Regular :=
  ⟨regular_of_ofJson, Regular.ofJson_toJson⟩

/-- The document in the form in which playbooks are written, if it is a playbook. -/
def normalize (d : Json) : Except Fault Json := (ofJson d).map toJson

/-- **Writing and reading again changes nothing.** The playbooks that are read as they were written
are the regular ones, to which everything belongs that is read from a document; and to normalize a
document a second time changes nothing. -/
theorem written_is_read :
    (∀ p : Playbook, ofJson p.toJson = .ok p ↔ p.Regular) ∧
      (∀ d p, ofJson d = .ok p → p.Regular ∧ ofJson p.toJson = .ok p) ∧
      ∀ d, (normalize d).bind normalize = normalize d := by
  refine ⟨fun p => ofJson_toJson_iff, fun d p h => ?_, fun d => ?_⟩
  · have hregular := regular_of_ofJson h
    exact ⟨hregular, hregular.ofJson_toJson⟩
  · rw [normalize]
    cases hread : ofJson d with
    | error f => rfl
    | ok p =>
        rw [Except.map, Except.bind, normalize, (regular_of_ofJson hread).ofJson_toJson, Except.map]

/-- A playbook with nested parameters, an empty text, an empty set and a rule that includes nothing. -/
theorem written_is_read_nested :
    let p : Playbook :=
      ⟨[⟨"default", "mock", [("ports", .array [.object [("", .null)], .int (-1)])]⟩],
        [{ Criterion.blank with name := some "", priority := some 255, tags := some ∅, times := 0 }]⟩
    ofJson p.toJson = .ok p ∧ (normalize p.toJson).bind normalize = normalize p.toJson := by
  intro p
  refine ⟨(written_is_read.1 p).2 ⟨?_, ?_, ?_⟩, written_is_read.2.2 p.toJson⟩
  · simp [p]
  · simp [p, targetNames]
  · simp [p]

end Playbook

end TestBench
