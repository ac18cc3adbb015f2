import TestBench.Playbook.Basic
import TestBench.Proofs.DocumentForms
import TestBench.Proofs.ProperDocuments

/-!
# Targets and criteria in a playbook

What the schema lets through as a target or as a criterion and what is read as one have the same
shape. For targets they agree, but for empty names, which only the schema stops. For criteria they
differ in two values: the schema takes a floating point number without fraction for an integer, and
asks of a priority no more than that it is an integer, a text or null. So `Criterion.IsRule` is
stated over what counts as a number of copies and as a priority, and `Criterion.IsMisread` says what
lies between the two.
-/

set_option autoImplicit false

namespace TestBench

/-! ## Targets -/

namespace TargetSpec

/-- The form of a target in a playbook. -/
def form : Json.Form :=
  [("name", Json.IsNonEmptyText), ("platform", Json.IsNonEmptyText), ("parameters", Json.IsMap)]

/-- A target in a playbook. -/
def IsTarget (v : Json) : Prop := Json.ObjectOf form ["name", "platform"] v

/-- The places of the fields of a specification. -/
def slots : List (Json.Slot Draft) :=
  [⟨String, "name", false, (·.name), fun a d => { d with name := some a }, Json.readString⟩,
   ⟨String, "platform", false, (·.platform), fun a d => { d with platform := some a },
     Json.readString⟩,
   ⟨Parameters, "parameters", true, (·.parameters), fun a d => { d with parameters := some a },
     Json.readFields⟩]

theorem lawful : record.Lawful slots where
  fields := rfl
  keys := by decide
  same := by simp [slots]
  apart := by simp [slots, Json.Slot.Apart]
  blank := by simp [slots, record]
  ext := by
    rintro ⟨name, platform, parameters⟩ ⟨name', platform', parameters'⟩ h
    simpa [slots] using h

/-- **The schema lets through targets.** -/
theorem target_eq_nil_iff {v : Json} : Schema.target v = [] ↔ IsTarget v := by
  have htext : (fun v => Schema.nonEmptyText v = []) = Json.IsNonEmptyText :=
    funext fun v => propext Schema.nonEmptyText_eq_nil_iff
  have hmap : (fun v => Schema.ofKinds [.object] v = []) = Json.IsMap := by
    funext v
    rw [Schema.ofKinds_eq_nil_iff]
    cases v <;> simp [Json.IsMap, Schema.Kind.admits]
  rw [Schema.target, Schema.closedObject_eq_nil_iff (by decide)]
  simp only [Schema.formOf, List.map_cons, List.map_nil, htext, hmap]
  rfl

/-- **Every target can be read.** -/
theorem IsTarget.exists_ofJson {v : Json} (h : IsTarget v) (hproper : v.Proper) :
    ∃ t, ofJson v = .ok t := by
  obtain ⟨fields, rfl, hfields⟩ := h
  refine (lawful.exists_ofFields_iff rfl ?_ hproper.distinct).2 ?_
  · -- a specification is finished as soon as it has a name and a platform
    rintro ⟨name, platform, parameters⟩
    cases name <;> cases platform <;> simp [record, slots, Json.required, bind, Except.bind, pure,
      Except.pure]
  · refine hfields.mono (by decide) ?_
    have htext : ∀ x, Json.IsNonEmptyText x → ∃ s, Json.readString x = .ok s :=
      fun x ⟨s, hx, _⟩ => ⟨s, by rw [hx]; rfl⟩
    refine .cons ⟨rfl, fun x _ => htext x⟩ (.cons ⟨rfl, fun x _ => htext x⟩ (.cons ⟨rfl, ?_⟩ .nil))
    exact fun x _ hx => Json.exists_readFields_iff.2 hx

/-- The name that a target has. -/
def nameIn : Json → Option String
  | .object fields =>
      match Json.Fields.get? fields "name" with
      | some (.string name) => some name
      | _ => none
  | _ => none

/-- A specification has the name that was written. -/
theorem nameIn_eq {v : Json} {t : TargetSpec} (h : IsTarget v) (hproper : v.Proper)
    (hread : ofJson v = .ok t) : nameIn v = some t.name := by
  obtain ⟨fields, rfl, -⟩ := h
  obtain ⟨-, ⟨name, platform, parameters⟩, hholds, hfinish⟩ :=
    (lawful.ofFields_eq_ok_iff hproper.distinct).1 hread
  have hname : (Json.Fields.get? fields "name").map Json.readString = name.map .ok :=
    hholds _ List.mem_cons_self
  cases name with
  | none => cases hfinish
  | some written =>
      have htname : t.name = written := by
        cases platform with
        | none => cases hfinish
        | some platform =>
            cases hfinish
            rfl
      obtain ⟨x, hx, hstring⟩ := Option.map_eq_some_iff.1 hname
      cases x with
      | string s =>
          cases hstring
          rw [nameIn, hx, htname]
      | _ => cases hstring

end TargetSpec

/-! ## Criteria -/

namespace Criterion

/-- The form of a criterion in a playbook, over what is a number of copies and a priority. -/
def form (times priority : Json → Prop) : Json.Form :=
  [("name", Json.OrNull Json.IsText), ("area", Json.OrNull Json.IsText),
   ("category", Json.OrNull Json.IsText), ("priority", priority),
   ("tags", Json.OrNull (Json.ArrayOf Json.IsText)), ("times", times), ("exclude", Json.IsFlag)]

/-- A criterion in a playbook. -/
def IsRule (times priority : Json → Prop) (v : Json) : Prop :=
  Json.ObjectOf (form times priority) [] v

/-- The places of the fields of a criterion. -/
def slots : List (Json.Slot Draft) :=
  [⟨Option String, "name", true, (·.name), fun a d => { d with name := some a },
     Json.readOption Json.readString⟩,
   ⟨Option String, "area", true, (·.area), fun a d => { d with area := some a },
     Json.readOption Json.readString⟩,
   ⟨Option String, "category", true, (·.category), fun a d => { d with category := some a },
     Json.readOption Json.readString⟩,
   ⟨Option Priority, "priority", true, (·.priority), fun a d => { d with priority := some a },
     readPriority⟩,
   ⟨Option NameSet, "tags", true, (·.tags), fun a d => { d with tags := some a },
     Json.readOption Json.readNames⟩,
   ⟨Fin 4294967296, "times", true, (·.times), fun a d => { d with times := some a },
     Json.readNat 4294967296⟩,
   ⟨Bool, "exclude", true, (·.exclude), fun a d => { d with exclude := some a }, Json.readBool⟩]

theorem lawful : record.Lawful slots where
  fields := rfl
  keys := by decide
  same := by simp [slots]
  apart := by simp [slots, Json.Slot.Apart]
  blank := by simp [slots, record]
  ext := by
    rintro ⟨name, area, category, priority, tags, times, exclude⟩
      ⟨name', area', category', priority', tags', times', exclude'⟩ h
    simpa [slots] using h

/-- What the schema lets through as a priority. -/
def IsLoosePriority (v : Json) : Prop :=
  v = .null ∨ Json.IsText v ∨ (∃ i, v = .int i) ∨ ∃ x, v = .float x ∧ x.isIntegral = true

/-- What is read as a priority. -/
def IsPriority (v : Json) : Prop :=
  v = .null ∨ Json.IsIntegerWithin 0 255 v ∨ ∃ s p, v = .string s ∧ priorityOfText s = .ok p

/-- **The schema lets through criteria**, with loose priorities and whole numbers of copies. -/
theorem criterion_eq_nil_iff {v : Json} :
    Schema.criterion v = [] ↔ IsRule (Schema.IsWholeWithin 0 1000) IsLoosePriority v := by
  have htext : (fun v => Schema.ofKinds [.null, .string] v = []) = Json.OrNull Json.IsText := by
    funext v
    rw [Schema.ofKinds_eq_nil_iff]
    cases v <;> simp [Json.OrNull, Json.IsText, Schema.Kind.admits]
  have hpriority : (fun v => Schema.ofKinds [.integer, .null, .string] v = []) =
      IsLoosePriority := by
    funext v
    rw [Schema.ofKinds_eq_nil_iff]
    cases v <;> simp [IsLoosePriority, Json.IsText, Schema.Kind.admits]
  have hitem : ∀ v, Schema.ofKinds [.string] v = [] ↔ Json.IsText v := by
    intro v
    rw [Schema.ofKinds_eq_nil_iff]
    cases v <;> simp [Json.IsText, Schema.Kind.admits]
  have htags : (fun v => Schema.arrayOf [.array, .null] (Schema.ofKinds [.string]) v = []) =
      Json.OrNull (Json.ArrayOf Json.IsText) := by
    funext v
    rw [Schema.arrayOf_eq_nil_iff]
    simp only [hitem]
    cases v <;> simp [Json.OrNull, Json.ArrayOf, Schema.Kind.admits]
  have htimes : (fun v => Schema.integerWithin 0 1000 v = []) = Schema.IsWholeWithin 0 1000 :=
    funext fun v => propext Schema.integerWithin_eq_nil_iff
  have hflag : (fun v => Schema.ofKinds [.boolean] v = []) = Json.IsFlag := by
    funext v
    rw [Schema.ofKinds_eq_nil_iff]
    cases v <;> simp [Json.IsFlag, Schema.Kind.admits]
  rw [Schema.criterion, Schema.closedObject_eq_nil_iff (by decide)]
  simp only [Schema.formOf, List.map_cons, List.map_nil, htext, hpriority, htags, htimes, hflag]
  rfl

/-- **A priority is read from null, an integer in range, or a text with a priority in it.** -/
theorem exists_readPriority_iff {v : Json} : (∃ p, readPriority v = .ok p) ↔ IsPriority v := by
  cases v with
  | null => exact iff_of_true ⟨none, rfl⟩ (.inl rfl)
  | string s => simp [readPriority, IsPriority, Json.IsIntegerWithin]
  | int i =>
      have hrange : (∃ n, Json.readNat 256 (.int i) = .ok n) ↔
          Json.IsIntegerWithin 0 255 (.int i) := by
        rw [Json.exists_readNat_iff]
        refine exists_congr fun j => and_congr_right fun _ => and_congr_right fun _ => ?_
        omega
      have hpriority : IsPriority (.int i) ↔ Json.IsIntegerWithin 0 255 (.int i) := by
        simp [IsPriority]
      rw [hpriority, ← hrange]
      cases hread : Json.readNat 256 (.int i) with
      | ok n => simp [readPriority, hread]
      | error m => simp [readPriority, hread]
  | _ =>
      apply iff_of_false
      · rintro ⟨p, hp⟩
        cases hp
      · simp [IsPriority, Json.IsIntegerWithin]

/-- What is misread in a criterion: a number of copies or a priority that the schema lets through
although it cannot be read. -/
def IsMisread (v : Json) : Prop :=
  ∃ fields, v = .object fields ∧
    ((∃ x, ("times", .float x) ∈ fields) ∨ (∃ x, ("priority", .float x) ∈ fields) ∨
      (∃ i, ("priority", .int i) ∈ fields ∧ (i < 0 ∨ 255 < i)) ∨
      ∃ s m, ("priority", .string s) ∈ fields ∧ priorityOfText s = .error m)

/-- Criteria over some numbers of copies and priorities are criteria over other ones, if the values
that they have are among those too. -/
theorem IsRule.mono {times times' priority priority' : Json → Prop} {fields : Json.Fields}
    (h : IsRule times priority (.object fields))
    (htimes : ∀ x, ("times", x) ∈ fields → times x → times' x)
    (hpriority : ∀ x, ("priority", x) ∈ fields → priority x → priority' x) :
    IsRule times' priority' (.object fields) := by
  obtain ⟨fields', heq, hfields⟩ := h
  cases heq
  refine ⟨fields, rfl, hfields.mono (List.Subset.refl _) ?_⟩
  exact .cons ⟨rfl, fun _ _ => id⟩ (.cons ⟨rfl, fun _ _ => id⟩ (.cons ⟨rfl, fun _ _ => id⟩
    (.cons ⟨rfl, hpriority⟩ (.cons ⟨rfl, fun _ _ => id⟩ (.cons ⟨rfl, htimes⟩
      (.cons ⟨rfl, fun _ _ => id⟩ .nil))))))

/-- **The schema lets through every criterion that can be read.** -/
theorem IsRule.loose {v : Json} (h : IsRule (Json.IsIntegerWithin 0 1000) IsPriority v) :
    IsRule (Schema.IsWholeWithin 0 1000) IsLoosePriority v := by
  obtain ⟨fields, rfl, -⟩ := id h
  refine h.mono (fun x _ => .inl) ?_
  rintro x - (rfl | ⟨i, rfl, -⟩ | ⟨s, p, rfl, -⟩)
  · exact .inl rfl
  · exact .inr (.inr (.inl ⟨i, rfl⟩))
  · exact .inr (.inl ⟨s, rfl⟩)

/-- A criterion that the schema lets through can be read if nothing in it is misread. -/
theorem IsRule.exact_of_not_isMisread {v : Json}
    (h : IsRule (Schema.IsWholeWithin 0 1000) IsLoosePriority v) (hread : ¬ IsMisread v) :
    IsRule (Json.IsIntegerWithin 0 1000) IsPriority v := by
  obtain ⟨fields, rfl, -⟩ := id h
  apply h.mono
  · rintro x hx (hint | ⟨d, rfl, -⟩)
    · exact hint
    · exact absurd ⟨fields, rfl, .inl ⟨d, hx⟩⟩ hread
  · rintro x hx (rfl | ⟨s, rfl⟩ | ⟨i, rfl⟩ | ⟨d, rfl, -⟩)
    · exact .inl rfl
    · cases hs : priorityOfText s with
      | ok p => exact .inr (.inr ⟨s, p, rfl, hs⟩)
      | error m => exact absurd ⟨fields, rfl, .inr (.inr (.inr ⟨s, m, hx, hs⟩))⟩ hread
    · by_cases hrange : i < 0 ∨ 255 < i
      · exact absurd ⟨fields, rfl, .inr (.inr (.inl ⟨i, hx, hrange⟩))⟩ hread
      · exact .inr (.inl ⟨i, rfl, by omega, by omega⟩)
    · exact absurd ⟨fields, rfl, .inr (.inl ⟨d, hx⟩)⟩ hread

/-- The misread values are not those of criteria that can be read. -/
theorem IsRule.not_isMisread {v : Json}
    (h : IsRule (Json.IsIntegerWithin 0 1000) IsPriority v) : ¬ IsMisread v := by
  obtain ⟨fields, rfl, hfields⟩ := h
  rintro ⟨fields', heq, hmisread⟩
  cases heq
  have hpriority : ∀ x, ("priority", x) ∈ fields → IsPriority x := fun x hx =>
    hfields.of_mem (by decide) (by simp [form]) hx
  rcases hmisread with ⟨d, hx⟩ | ⟨d, hx⟩ | ⟨i, hx, hrange⟩ | ⟨s, m, hx, hs⟩
  · obtain ⟨i, hi, -⟩ : Json.IsIntegerWithin 0 1000 (.float d) :=
      hfields.of_mem (by decide) (by simp [form]) hx
    cases hi
  · rcases hpriority _ hx with h | ⟨_, h, -⟩ | ⟨_, _, h, -⟩
    · cases h
    · cases h
    · cases h
  · rcases hpriority _ hx with h | ⟨j, h, hleast, hgreatest⟩ | ⟨_, _, h, -⟩
    · cases h
    · cases h
      omega
    · cases h
  · rcases hpriority _ hx with h | ⟨_, h, -⟩ | ⟨s', p, h, hp⟩
    · cases h
    · cases h
    · cases h
      rw [hs] at hp
      cases hp

/-- **A criterion that the schema lets through is read unless something in it is misread.** -/
theorem IsRule.exists_ofJson_iff {v : Json}
    (h : IsRule (Schema.IsWholeWithin 0 1000) IsLoosePriority v) (hproper : v.Proper) :
    (∃ c, ofJson v = .ok c) ↔ IsRule (Json.IsIntegerWithin 0 1000) IsPriority v := by
  obtain ⟨fields, rfl, hfields⟩ := h
  have htext : ∀ x, (∃ a, Json.readOption Json.readString x = .ok a) ↔
      Json.OrNull Json.IsText x := by
    intro x
    rw [Json.exists_readOption_iff]
    exact or_congr_right Json.exists_readString_iff
  have htags : ∀ x, (∃ a, Json.readOption Json.readNames x = .ok a) ↔
      Json.OrNull (Json.ArrayOf Json.IsText) x := by
    intro x
    rw [Json.exists_readOption_iff]
    exact or_congr_right Json.exists_readNames_iff
  have htimes : ∀ x, ("times", x) ∈ fields →
      ((∃ n, Json.readNat 4294967296 x = .ok n) ↔ Json.IsIntegerWithin 0 1000 x) := by
    intro x hx
    have hwhole : Schema.IsWholeWithin 0 1000 x := hfields.of_mem (by decide) (by simp [form]) hx
    rw [Json.exists_readNat_iff]
    constructor
    · rintro ⟨i, rfl, -, -⟩
      rcases hwhole with hint | ⟨d, hd, -⟩
      · exact hint
      · cases hd
    · rintro ⟨i, rfl, hleast, hgreatest⟩
      exact ⟨i, rfl, hleast, by omega⟩
  have hsame : (Json.Record.formOf slots).Admits [] fields ↔
      (form (Json.IsIntegerWithin 0 1000) IsPriority).Admits [] fields := by
    apply Json.Form.admits_congr
    exact .cons ⟨rfl, fun x _ => htext x⟩ (.cons ⟨rfl, fun x _ => htext x⟩
      (.cons ⟨rfl, fun x _ => htext x⟩ (.cons ⟨rfl, fun x _ => exists_readPriority_iff⟩
        (.cons ⟨rfl, fun x _ => htags x⟩ (.cons ⟨rfl, htimes⟩
          (.cons ⟨rfl, fun x _ => Json.exists_readBool_iff⟩ .nil))))))
  rw [IsRule, Json.objectOf_object_iff, ← hsame]
  -- a criterion is finished without any field
  have hfinish : ∀ d, (∃ c, record.finish d = .ok c) ↔
      ∀ s ∈ slots, s.optional = false → (s.get d).isSome = true :=
    fun d => iff_of_true ⟨_, rfl⟩ (by simp [slots])
  exact lawful.exists_ofFields_iff rfl hfinish hproper.distinct

end Criterion

end TestBench
