import TestBench.Playbook.Load
import TestBench.Proofs.PlaybookForms

/-!
# Which documents are playbooks

A document passes three gates on its way to a playbook: the schema, the readers, and the check that
no two targets share a name. `Playbook.ofJson_classified` says which documents pass all of them, and
which gate stops each of the others.
-/

set_option autoImplicit false

namespace TestBench

namespace Playbook

/-! ## Repeated names -/

/-- No name is repeated if the names are distinct, and none was seen before. -/
theorem firstRepeated?_eq_none_iff {seen names : List String} :
    firstRepeated? seen names = none ↔ names.Nodup ∧ ∀ n ∈ names, n ∉ seen := by
  induction names generalizing seen with
  | nil => simp [firstRepeated?]
  | cons name rest ih =>
      rw [firstRepeated?]
      by_cases hseen : name ∈ seen
      · simp [hseen]
      · rw [if_neg hseen, ih]
        simp only [List.nodup_cons, List.mem_cons, not_or, forall_eq_or_imp]
        constructor
        · rintro ⟨hnodup, hfresh⟩
          exact ⟨⟨fun hin => (hfresh name hin).1 rfl, hnodup⟩, hseen, fun n hn => (hfresh n hn).2⟩
        · rintro ⟨⟨hout, hnodup⟩, -, hfresh⟩
          exact ⟨hnodup, fun n hn => ⟨fun heq => hout (heq ▸ hn), hfresh n hn⟩⟩

/-- A name is the first one to be repeated. -/
def FirstRepeated (name : String) (names : List String) : Prop :=
  ∃ before after, names = before ++ name :: after ∧ before.Nodup ∧ name ∈ before

theorem firstRepeated?_append {seen before after : List String} (hnodup : before.Nodup)
    (hfresh : ∀ n ∈ before, n ∉ seen) :
    firstRepeated? seen (before ++ after) = firstRepeated? (before.reverse ++ seen) after := by
  induction before generalizing seen with
  | nil => rfl
  | cons name rest ih =>
      obtain ⟨hout, hnodup⟩ := List.nodup_cons.1 hnodup
      rw [List.cons_append, firstRepeated?, if_neg (hfresh name List.mem_cons_self), ih hnodup]
      · rw [List.reverse_cons, List.append_assoc]
        rfl
      · intro n hn hseen
        rcases List.mem_cons.1 hseen with rfl | hseen
        · exact hout hn
        · exact hfresh n (List.mem_cons_of_mem _ hn) hseen

/-- **The first repeated name is found.** -/
theorem firstRepeated?_eq_some_iff {name : String} {names : List String} :
    firstRepeated? [] names = some name ↔ FirstRepeated name names := by
  constructor
  · intro hfound
    -- the longest beginning without a repeated name ends before the one that is found
    have hgeneral : ∀ (rest before : List String), before.Nodup →
        firstRepeated? before.reverse rest = some name → FirstRepeated name (before ++ rest) := by
      intro rest
      induction rest with
      | nil => exact fun _ _ h => nomatch h
      | cons n rest ih =>
          intro before hnodup hfound
          rw [firstRepeated?] at hfound
          by_cases hseen : n ∈ before.reverse
          · rw [if_pos hseen, Option.some.injEq] at hfound
            subst hfound
            exact ⟨before, rest, rfl, hnodup, List.mem_reverse.1 hseen⟩
          · rw [if_neg hseen] at hfound
            have hlonger : (before ++ [n]).Nodup := by
              refine List.nodup_append.2 ⟨hnodup, List.nodup_singleton n, ?_⟩
              intro a ha b hb hab
              rw [List.mem_singleton.1 hb] at hab
              exact hseen (List.mem_reverse.2 (hab ▸ ha))
            have hreverse : (before ++ [n]).reverse = n :: before.reverse := by
              rw [List.reverse_append]
              rfl
            have hmore := ih (before ++ [n]) hlonger (hreverse ▸ hfound)
            rwa [List.append_assoc, List.singleton_append] at hmore
    exact hgeneral names [] List.nodup_nil hfound
  · rintro ⟨before, after, rfl, hnodup, hmem⟩
    rw [firstRepeated?_append hnodup fun _ _ => List.not_mem_nil, firstRepeated?, if_pos]
    exact List.mem_append_left _ (List.mem_reverse.2 hmem)

/-! ## Documents -/

/-- The form of a playbook, over what is a number of copies and a priority. -/
def form (times priority : Json → Prop) : Json.Form :=
  [("targets", Json.ArrayOf TargetSpec.IsTarget),
   ("criteria", Json.ArrayOf (Criterion.IsRule times priority))]

/-- A document of a playbook. -/
def IsDocument (times priority : Json → Prop) (v : Json) : Prop :=
  Json.ObjectOf (form times priority) [] v

/-- A document that can be read as a playbook. -/
abbrev IsExact : Json → Prop := IsDocument (Json.IsIntegerWithin 0 1000) Criterion.IsPriority

/-- A document that the schema lets through. -/
abbrev IsLoose : Json → Prop :=
  IsDocument (Schema.IsWholeWithin 0 1000) Criterion.IsLoosePriority

/-- A document has a criterion. -/
def HasCriterion (v c : Json) : Prop :=
  ∃ fields criteria, v = .object fields ∧ ("criteria", .array criteria) ∈ fields ∧ c ∈ criteria

/-- A document has a criterion with something misread in it. -/
def IsMisread (v : Json) : Prop := ∃ c, HasCriterion v c ∧ Criterion.IsMisread c

/-- The names of the targets in a document. -/
def namesIn : Json → List String
  | .object fields =>
      match Json.Fields.get? fields "targets" with
      | some (.array targets) => targets.filterMap TargetSpec.nameIn
      | _ => []
  | _ => []

/-- **The schema lets through loose documents.** -/
theorem playbook_eq_nil_iff {v : Json} : Schema.playbook v = [] ↔ IsLoose v := by
  have harray : ∀ (rule : Schema.Rule) (P : Json → Prop), (∀ v, rule v = [] ↔ P v) →
      (fun v => Schema.arrayOf [.array] rule v = []) = Json.ArrayOf P := by
    intro rule P hrule
    funext v
    rw [Schema.arrayOf_eq_nil_iff]
    simp only [hrule]
    cases v <;> simp [Json.ArrayOf, Schema.Kind.admits]
  rw [Schema.playbook, Schema.closedObject_eq_nil_iff (by decide)]
  simp only [Schema.formOf, List.map_cons, List.map_nil,
    harray _ _ fun v => TargetSpec.target_eq_nil_iff,
    harray _ _ fun v => Criterion.criterion_eq_nil_iff]
  rfl

/-- The places of the fields of a playbook. -/
def slots : List (Json.Slot Draft) :=
  [⟨List TargetSpec, "targets", true, (·.targets), fun a d => { d with targets := some a },
     Json.readList TargetSpec.ofJson⟩,
   ⟨List Criterion, "criteria", true, (·.criteria), fun a d => { d with criteria := some a },
     Json.readList Criterion.ofJson⟩]

theorem lawful : record.Lawful slots where
  fields := rfl
  keys := by decide
  same := by simp [slots]
  apart := by simp [slots, Json.Slot.Apart]
  blank := by simp [slots, record]
  ext := by
    rintro ⟨targets, criteria⟩ ⟨targets', criteria'⟩ h
    simpa [slots] using h

/-! ## Criteria in a document -/

section Criteria

variable {times times' priority priority' : Json → Prop} {v c : Json}

/-- The criteria of a document are criteria. -/
theorem IsDocument.isRule (h : IsDocument times priority v) (hc : HasCriterion v c) :
    Criterion.IsRule times priority c := by
  obtain ⟨fields, rfl, hfields⟩ := h
  obtain ⟨fields', criteria, heq, hcriteria, hc⟩ := hc
  cases heq
  obtain ⟨items, hitems, hall⟩ : Json.ArrayOf (Criterion.IsRule times priority) (.array criteria) :=
    hfields.of_mem (by simp [form]) (by simp [form]) hcriteria
  cases hitems
  exact hall c hc

/-- A document of one form is of another one, if its criteria are. -/
theorem IsDocument.mono (h : IsDocument times priority v)
    (hcriteria : ∀ c, HasCriterion v c → Criterion.IsRule times' priority' c) :
    IsDocument times' priority' v := by
  obtain ⟨fields, rfl, hfields⟩ := h
  refine ⟨fields, rfl, hfields.mono (List.Subset.refl _) ?_⟩
  refine .cons ⟨rfl, fun _ _ => id⟩ (.cons ⟨rfl, fun x hx harray => ?_⟩ .nil)
  refine harray.mono fun items hitems c hc _ => ?_
  subst hitems
  exact hcriteria c ⟨fields, items, rfl, hx, hc⟩

/-- **The schema lets through every document that can be read.** -/
theorem IsExact.isLoose (h : IsExact v) : IsLoose v :=
  h.mono fun _ hc => (h.isRule hc).loose

/-- **What is misread is all that lies between the schema and the readers.** -/
theorem IsLoose.isExact_iff (h : IsLoose v) : IsExact v ↔ ¬ IsMisread v := by
  constructor
  · rintro hexact ⟨c, hc, hmisread⟩
    exact (hexact.isRule hc).not_isMisread hmisread
  · intro hread
    apply h.mono
    intro c hc
    exact (h.isRule hc).exact_of_not_isMisread fun hmisread => hread ⟨c, hc, hmisread⟩

end Criteria

/-! ## Reading -/

section Reading

variable {v : Json}

/-- **A document that the schema lets through is read unless something in it is misread.** -/
theorem IsLoose.exists_read_iff (h : IsLoose v) (hproper : v.Proper) :
    (∃ p, record.read v = .ok p) ↔ IsExact v := by
  obtain ⟨fields, rfl, hfields⟩ := id h
  have htargets : ∀ x, ("targets", x) ∈ fields →
      ((∃ l, Json.readList TargetSpec.ofJson x = .ok l) ↔ Json.ArrayOf TargetSpec.IsTarget x) := by
    intro x hx
    have harray : Json.ArrayOf TargetSpec.IsTarget x :=
      hfields.of_mem (by simp [form]) (by simp [form]) hx
    -- the schema asks more of a target than the reader does
    refine iff_of_true (Json.exists_readList_iff.2 ?_) harray
    refine harray.mono fun items hitems t ht htarget => ?_
    subst hitems
    exact htarget.exists_ofJson ((hproper.value hx).item ht)
  have hcriteria : ∀ x, ("criteria", x) ∈ fields →
      ((∃ l, Json.readList Criterion.ofJson x = .ok l) ↔
        Json.ArrayOf (Criterion.IsRule (Json.IsIntegerWithin 0 1000) Criterion.IsPriority) x) := by
    intro x hx
    -- every criterion is loose, so it is read just if it is exact
    have hrule : ∀ items, x = .array items → ∀ c ∈ items, ((∃ r, Criterion.ofJson c = .ok r) ↔
        Criterion.IsRule (Json.IsIntegerWithin 0 1000) Criterion.IsPriority c) := by
      rintro items rfl c hc
      exact (h.isRule ⟨fields, items, rfl, hx, hc⟩).exists_ofJson_iff ((hproper.value hx).item hc)
    rw [Json.exists_readList_iff]
    constructor
    · exact fun harray => harray.mono fun items hitems c hc => (hrule items hitems c hc).1
    · exact fun harray => harray.mono fun items hitems c hc => (hrule items hitems c hc).2
  have hsame : (Json.Record.formOf slots).Admits [] fields ↔
      (form (Json.IsIntegerWithin 0 1000) Criterion.IsPriority).Admits [] fields :=
    Json.Form.admits_congr (.cons ⟨rfl, htargets⟩ (.cons ⟨rfl, hcriteria⟩ .nil))
  rw [IsExact, IsDocument, Json.objectOf_object_iff, ← hsame]
  -- a playbook is finished without any field
  have hfinish : ∀ d, (∃ p, record.finish d = .ok p) ↔
      ∀ s ∈ slots, s.optional = false → (s.get d).isSome = true :=
    fun d => iff_of_true ⟨_, rfl⟩ (by simp [slots])
  exact lawful.exists_ofFields_iff rfl hfinish hproper.distinct

/-- Targets have the names that were written. -/
theorem targetNames_eq {targets : List Json} {specs : List TargetSpec}
    (hspecs : List.Forall₂ (fun v t => TargetSpec.ofJson v = .ok t) targets specs)
    (htargets : ∀ t ∈ targets, TargetSpec.IsTarget t ∧ t.Proper) :
    targets.filterMap TargetSpec.nameIn = specs.map (·.name) := by
  induction hspecs with
  | nil => rfl
  | cons hread _ ih =>
      obtain ⟨htarget, hproper⟩ := htargets _ List.mem_cons_self
      rw [List.filterMap_cons_some (TargetSpec.nameIn_eq htarget hproper hread), List.map_cons,
        ih fun t ht => htargets t (List.mem_cons_of_mem _ ht)]

/-- **A playbook has the targets that the document names.** -/
theorem IsLoose.targetNames_eq {p : Playbook} (h : IsLoose v) (hproper : v.Proper)
    (hread : record.read v = .ok p) : p.targetNames = namesIn v := by
  obtain ⟨fields, rfl, hfields⟩ := h
  obtain ⟨-, ⟨targets, criteria⟩, hholds, hfinish⟩ :=
    (lawful.ofFields_eq_ok_iff hproper.distinct).1 hread
  cases hfinish
  have htargets : (Json.Fields.get? fields "targets").map (Json.readList TargetSpec.ofJson) =
      targets.map .ok := hholds _ List.mem_cons_self
  rw [namesIn, targetNames]
  cases hget : Json.Fields.get? fields "targets" with
  | none =>
      -- no targets are written, and none are read
      cases targets with
      | none => rfl
      | some specs =>
          rw [hget] at htargets
          cases htargets
  | some x =>
      have hx : ("targets", x) ∈ fields := (Json.Fields.get?_eq_some_iff hproper.distinct).1 hget
      obtain ⟨items, rfl, hall⟩ : Json.ArrayOf TargetSpec.IsTarget x :=
        hfields.of_mem (by simp [form]) (by simp [form]) hx
      rw [hget] at htargets
      cases targets with
      | none => cases htargets
      | some specs =>
          have hspecs : items.mapM TargetSpec.ofJson = .ok specs := Option.some.inj htargets
          exact (Playbook.targetNames_eq (Json.mapM_eq_ok_iff.1 hspecs) fun t ht =>
            ⟨hall t ht, (hproper.value hx).item ht⟩).symm

end Reading

/-! ## The three gates -/

/-- A playbook is kept if its targets have distinct names. -/
theorem distinctTargets_of_nodup {p : Playbook} (h : p.targetNames.Nodup) :
    distinctTargets p = .ok p := by
  have hnone : firstRepeated? [] p.targetNames = none :=
    firstRepeated?_eq_none_iff.2 ⟨h, fun _ _ => List.not_mem_nil⟩
  rw [distinctTargets, hnone]

/-- Otherwise the first repeated name is reported. -/
theorem distinctTargets_of_not_nodup {p : Playbook} (h : ¬ p.targetNames.Nodup) :
    ∃ name, FirstRepeated name p.targetNames ∧
      distinctTargets p = .error (.duplicateTarget name) := by
  cases hfound : firstRepeated? [] p.targetNames with
  | none => exact absurd (firstRepeated?_eq_none_iff.1 hfound).1 h
  | some name =>
      refine ⟨name, firstRepeated?_eq_some_iff.1 hfound, ?_⟩
      rw [distinctTargets, hfound]

theorem FirstRepeated.not_nodup {name : String} {names : List String}
    (h : FirstRepeated name names) : ¬ names.Nodup := by
  obtain ⟨before, after, rfl, -, hmem⟩ := h
  intro hnodup
  exact (List.nodup_append.1 hnodup).2.2 name hmem name List.mem_cons_self rfl

section Gates

variable {d : Json}

theorem present_of_ne_null (h : d ≠ .null) : present d = d := by
  cases d with
  | null => exact absurd rfl h
  | _ => rfl

/-- The schema stops what is not loose. -/
theorem ofJson_of_not_isLoose (h : ¬ IsLoose (present d)) :
    ∃ messages, ofJson d = .error (.violations messages) := by
  rw [ofJson]
  cases hfound : Schema.playbook (present d) with
  | nil => exact absurd (playbook_eq_nil_iff.1 hfound) h
  | cons violation rest => exact ⟨_, rfl⟩

/-- The readers stop what is misread. -/
theorem ofJson_of_isMisread (h : IsLoose (present d)) (hproper : (present d).Proper)
    (hmisread : IsMisread (present d)) : ∃ reason, ofJson d = .error (.shape reason) := by
  have hunread : ¬ ∃ p, record.read (present d) = .ok p := by
    rw [h.exists_read_iff hproper, h.isExact_iff, not_not]
    exact hmisread
  simp only [ofJson, playbook_eq_nil_iff.2 h]
  cases hread : record.read (present d) with
  | ok p => exact absurd ⟨p, hread⟩ hunread
  | error m => exact ⟨m.message, rfl⟩

/-- Only repeated names stop the others. -/
theorem ofJson_of_isExact (h : IsExact (present d)) (hproper : (present d).Proper) :
    ∃ p : Playbook, p.targetNames = namesIn (present d) ∧ ofJson d = distinctTargets p := by
  obtain ⟨p, hread⟩ := (h.isLoose.exists_read_iff hproper).2 h
  refine ⟨p, h.isLoose.targetNames_eq hproper hread, ?_⟩
  simp only [ofJson, playbook_eq_nil_iff.2 h.isLoose, hread]

/-- **Every document is stopped at one gate, or passes all three.** -/
theorem ofJson_cases (hproper : (present d).Proper) :
    (¬ IsLoose (present d) ∧ ∃ messages, ofJson d = .error (.violations messages)) ∨
      (IsLoose (present d) ∧ IsMisread (present d) ∧
        ∃ reason, ofJson d = .error (.shape reason)) ∨
      (IsExact (present d) ∧ ∃ name, FirstRepeated name (namesIn (present d)) ∧
        ofJson d = .error (.duplicateTarget name)) ∨
      (IsExact (present d) ∧ (namesIn (present d)).Nodup ∧ ∃ p, ofJson d = .ok p) := by
  by_cases hloose : IsLoose (present d)
  · by_cases hmisread : IsMisread (present d)
    · exact .inr (.inl ⟨hloose, hmisread, ofJson_of_isMisread hloose hproper hmisread⟩)
    · have hexact := hloose.isExact_iff.2 hmisread
      obtain ⟨p, hnames, hp⟩ := ofJson_of_isExact hexact hproper
      rw [hp, ← hnames]
      by_cases hnodup : p.targetNames.Nodup
      · exact .inr (.inr (.inr ⟨hexact, hnodup, p, distinctTargets_of_nodup hnodup⟩))
      · exact .inr (.inr (.inl ⟨hexact, distinctTargets_of_not_nodup hnodup⟩))
  · exact .inl ⟨hloose, ofJson_of_not_isLoose hloose⟩

/-- **Which documents are playbooks.** -/
theorem exists_ofJson_iff (hproper : d.Proper) :
    (∃ p, ofJson d = .ok p) ↔ d = .null ∨ IsExact d ∧ (namesIn d).Nodup := by
  by_cases hnull : d = .null
  · subst hnull
    exact iff_of_true ⟨∅, rfl⟩ (.inl rfl)
  · have hcases := ofJson_cases (d := d)
    rw [present_of_ne_null hnull] at hcases
    rcases hcases hproper with ⟨hstrict, messages, h⟩ | ⟨hloose, hmisread, reason, h⟩ |
      ⟨-, name, hrepeated, h⟩ | ⟨hexact, hnodup, p, h⟩
    · have hinexact : ¬ IsExact d := fun hexact => hstrict hexact.isLoose
      simp [h, hnull, hinexact]
    · have hinexact : ¬ IsExact d := fun hexact => hloose.isExact_iff.1 hexact hmisread
      simp [h, hnull, hinexact]
    · simp [h, hnull, hrepeated.not_nodup]
    · simp [h, hexact, hnodup]

/-- **Which texts are playbooks.** Documents that are read from a text have each key once. -/
theorem exists_ofText_iff {text : String} :
    (∃ p, ofText text = .ok p) ↔ Text.isAbsent text = true ∨
      ∃ d, Yaml.ofText text = .ok d ∧ (d = .null ∨ IsExact d ∧ (namesIn d).Nodup) := by
  rw [ofText]
  by_cases habsent : Text.isAbsent text = true
  · rw [if_pos habsent]
    exact iff_of_true ⟨∅, rfl⟩ (.inl habsent)
  · rw [if_neg habsent, or_iff_right habsent]
    cases hread : Yaml.ofText text with
    | error f => simp
    | ok d =>
        simp only [Except.ok.injEq, exists_eq_left']
        exact exists_ofJson_iff (Yaml.proper_of_ofText hread)

end Gates

/-- **Which documents are playbooks, and what is wrong with the others.** The absent document is
one, and so is every document whose parts can all be read and whose targets have distinct names. The
others violate the schema; or the schema lets them through and a number of copies or a priority is
misread; or nothing is misread and a name of a target is repeated, the first of which is reported.
Objects have each key once, as they do in all documents that are read from a text. -/
theorem ofJson_classified {d : Json} (hproper : d.Proper) :
    ((∃ p, ofJson d = .ok p) ↔ d = .null ∨ IsExact d ∧ (namesIn d).Nodup) ∧
      ((∃ messages, ofJson d = .error (.violations messages)) ↔ d ≠ .null ∧ ¬ IsLoose d) ∧
      ((∃ reason, ofJson d = .error (.shape reason)) ↔ IsLoose d ∧ IsMisread d) ∧
      (∀ name, ofJson d = .error (.duplicateTarget name) ↔
        IsLoose d ∧ ¬ IsMisread d ∧ FirstRepeated name (namesIn d)) ∧
      ∀ fault, ofJson d = .error fault → (∃ messages, fault = .violations messages) ∨
        (∃ reason, fault = .shape reason) ∨ ∃ name, fault = .duplicateTarget name := by
  refine ⟨exists_ofJson_iff hproper, ?_⟩
  by_cases hnull : d = .null
  · subst hnull
    have hnone : ¬ IsLoose .null := fun ⟨_, h, _⟩ => nomatch h
    have hempty : ofJson .null = .ok ∅ := rfl
    simp [hempty, hnone]
  · have hcases := ofJson_cases (d := d)
    rw [present_of_ne_null hnull] at hcases
    rcases hcases hproper with ⟨hstrict, messages, h⟩ | ⟨hloose, hmisread, reason, h⟩ |
      ⟨hexact, name, hrepeated, h⟩ | ⟨hexact, hnodup, p, h⟩
    -- in each case one equivalence has both sides true, and the others have both sides false
    · simp [h, hnull, hstrict]
    · simp [h, hnull, hloose, hmisread]
    · have hread := hexact.isLoose.isExact_iff.1 hexact
      have hsame : ∀ other, FirstRepeated other (namesIn d) ↔ name = other := by
        intro other
        rw [← firstRepeated?_eq_some_iff, firstRepeated?_eq_some_iff.2 hrepeated, Option.some.injEq]
      simp [h, hnull, hexact.isLoose, hread, hsame]
    · have hread := hexact.isLoose.isExact_iff.1 hexact
      have hnone : ∀ name, ¬ FirstRepeated name (namesIn d) := fun _ hname => hname.not_nodup hnodup
      simp [h, hexact.isLoose, hread, hnone]

/-- Two targets of one name, and a criterion with a priority. -/
def twins (priority : Int) : Json :=
  let target : Json := .object [("name", .string "web"), ("platform", .string "mock")]
  .object
    [("criteria", .array [.object [("priority", .int priority)]]),
     ("targets", .array [target, target])]

theorem proper_twins (priority : Int) : (twins priority).Proper := by
  have hpair : ∀ {α : Type} {P : α → Prop} {a b : α}, P a → P b → ∀ x ∈ [a, b], P x :=
    fun ha hb => List.forall_mem_cons.2 ⟨ha, List.forall_mem_singleton.2 hb⟩
  have htarget :
      (Json.object [("name", .string "web"), ("platform", .string "mock")]).Proper := by
    refine .object _ (by simp [Json.Fields.Distinct]) ?_
    exact hpair (.string "web") (.string "mock")
  have hcriterion : (Json.object [("priority", .int priority)]).Proper := by
    refine .object _ (by simp [Json.Fields.Distinct]) ?_
    exact List.forall_mem_singleton.2 (.int priority)
  refine .object _ (by simp [Json.Fields.Distinct]) ?_
  apply hpair
  · exact .array _ (List.forall_mem_singleton.2 hcriterion)
  · exact .array _ (hpair htarget htarget)

/-- A priority out of range is met before the repeated name. -/
theorem ofJson_classified_on_twins :
    (IsLoose (twins 256) ∧ IsMisread (twins 256)) ∧
      IsLoose (twins 255) ∧ ¬ IsMisread (twins 255) ∧ FirstRepeated "web" (namesIn (twins 255)) := by
  obtain ⟨-, -, hshape, -, -⟩ := ofJson_classified (proper_twins 256)
  obtain ⟨-, -, -, hrepeated, -⟩ := ofJson_classified (proper_twins 255)
  exact ⟨hshape.1 ⟨_, rfl⟩, (hrepeated "web").1 rfl⟩

end Playbook

end TestBench
