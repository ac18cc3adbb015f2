import TestBench.Playbook.Basic
import TestBench.Proofs.DocumentForms

/-!
# Every violation is reported

The rules of a schema are put together from small ones, and each of them could stop at what it finds
first, or find the same thing twice. This module takes the schema of playbooks apart again. A
`Schema.Keyword` is a single demand on a value, and finds what is wrong with it whatever the other
demands find. A `Schema.Outline` lists the known keys of an object in ascending order, each with its
keywords, and the required keys. `Schema.closedObject_eq_lines` says that a rule for objects finds
just what its outline finds.

So the violations of a playbook can be read off its parts, which is `Schema.violations_by_part`:
those of each criterion as if it were the only one, those of each target as if it were the only one,
and one for the unexpected keys. In the same way a criterion or a target is read off its keys, and
the value under a key off the keywords.

The keys of an object ascend and so do those of an outline, so it does not matter which of the two is
followed (`shared_comm`).
-/

set_option autoImplicit false

namespace TestBench

/-! ## Lists by key -/

/-- The value that stands with a key. -/
def valueAt? {α : Type} (l : List (String × α)) (key : String) : Option α :=
  (l.find? fun p => p.1 == key).map (·.2)

section Join

variable {α β γ : Type} {l : List (String × α)} {m : List (String × β)} {p : String × α}
  {key : String}

theorem valueAt?_cons (p : String × α) (l : List (String × α)) (key : String) :
    valueAt? (p :: l) key = if p.1 = key then some p.2 else valueAt? l key := by
  by_cases h : p.1 = key <;> simp [valueAt?, h]

theorem valueAt?_eq_none_iff : valueAt? l key = none ↔ ∀ p ∈ l, p.1 ≠ key := by
  simp [valueAt?]

/-- What is made of the keys that two lists share, in the order of the first list. -/
def shared (f : α → β → List γ) (l : List (String × α)) (m : List (String × β)) : List γ :=
  l.flatMap fun p => (valueAt? m p.1).toList.flatMap (f p.2)

theorem shared_cons (f : α → β → List γ) (p : String × α) (l : List (String × α))
    (m : List (String × β)) :
    shared f (p :: l) m = (valueAt? m p.1).toList.flatMap (f p.2) ++ shared f l m := rfl

theorem shared_nil_right (f : α → β → List γ) (l : List (String × α)) : shared f l [] = [] := by
  apply List.flatMap_eq_nil_iff.2
  intro p _
  rfl

/-- A key that the first list has not changes nothing. -/
theorem shared_cons_right (f : α → β → List γ) {q : String × β} (h : ∀ p ∈ l, p.1 ≠ q.1) :
    shared f l (q :: m) = shared f l m := by
  induction l with
  | nil => rfl
  | cons p rest ih =>
      obtain ⟨hp, hrest⟩ := List.forall_mem_cons.1 h
      rw [shared_cons, shared_cons, ih hrest, valueAt?_cons, if_neg (Ne.symm hp)]

/-- The keys behind the first one of an ascending list are others. -/
theorem ne_of_ascending (h : (p :: l).Pairwise fun a b => a.1 < b.1) (hkey : key ≤ p.1) :
    ∀ q ∈ l, q.1 ≠ key := by
  intro q hq heq
  have hlt : p.1 < q.1 := (List.pairwise_cons.1 h).1 q hq
  rw [heq] at hlt
  exact absurd hkey (String.not_le.2 hlt)

/-- A value of an ascending list is found by its key. -/
theorem valueAt?_of_mem (hl : l.Pairwise fun a b => a.1 < b.1) (hp : p ∈ l) :
    valueAt? l p.1 = some p.2 := by
  induction l with
  | nil => cases hp
  | cons q rest ih =>
      obtain ⟨hfirst, hrest⟩ := List.pairwise_cons.1 hl
      rw [valueAt?_cons]
      rcases List.mem_cons.1 hp with rfl | hp
      · exact if_pos rfl
      · rw [if_neg (Std.ne_of_lt (hfirst p hp))]
        exact ih hrest hp

/-- **Of two ascending lists it does not matter which one is followed.** The induction is the one of
a merge: the lesser of the two first keys is dealt with. -/
theorem shared_comm (f : α → β → List γ) (hl : l.Pairwise fun a b => a.1 < b.1)
    (hm : m.Pairwise fun a b => a.1 < b.1) : shared f l m = shared (fun b a => f a b) m l := by
  induction l generalizing m with
  | nil => exact (shared_nil_right _ m).symm
  | cons p l ih =>
      have hrest := (List.pairwise_cons.1 hl).2
      induction m with
      | nil => exact shared_nil_right f _
      | cons q m ihm =>
          have hothers := (List.pairwise_cons.1 hm).2
          by_cases hlt : p.1 < q.1
          · -- the first key of the first list is not in the second one
            have habsent : ∀ b ∈ q :: m, b.1 ≠ p.1 :=
              List.forall_mem_cons.2 ⟨(Std.ne_of_lt hlt).symm, ne_of_ascending hm (Std.le_of_lt hlt)⟩
            rw [shared_cons, valueAt?_eq_none_iff.2 habsent, shared_cons_right _ habsent]
            exact ih hrest hm
          · have hle : q.1 ≤ p.1 := String.not_lt.1 hlt
            have hlater : ∀ a ∈ l, a.1 ≠ q.1 := ne_of_ascending hl hle
            by_cases heq : p.1 = q.1
            · have hlater' : ∀ b ∈ m, b.1 ≠ p.1 := ne_of_ascending hm (Std.le_of_eq heq)
              rw [shared_cons, shared_cons, valueAt?_cons, valueAt?_cons, if_pos heq.symm,
                if_pos heq, shared_cons_right _ hlater, shared_cons_right _ hlater',
                ih hrest hothers]
              rfl
            · have habsent : ∀ a ∈ p :: l, a.1 ≠ q.1 := List.forall_mem_cons.2 ⟨heq, hlater⟩
              rw [shared_cons_right _ habsent, shared_cons _ q, valueAt?_eq_none_iff.2 habsent]
              exact ihm hothers

end Join

namespace Schema

/-! ## Keywords -/

/-- A single demand on a value. -/
inductive Keyword where
  /-- The value is of one of the kinds. -/
  | among (kinds : List Kind)
  /-- A text has a character at least. -/
  | filled
  /-- A number is not below a bound. -/
  | least (minimum : Int)
  /-- A number is not above a bound. -/
  | greatest (maximum : Int)
  /-- The items of an array follow a rule. -/
  | each (rule : Rule)

/-- What a keyword finds wrong with a value. What it does not speak of is right. -/
def Keyword.lines : Keyword → Rule
  | .among kinds, v => if kinds.any fun k => k.admits v then [] else [.wrongKind v kinds]
  | .filled, .string s => if s.isEmpty then [.emptyText (.string s)] else []
  | .least minimum, v => if lessThan v minimum then [.belowMinimum v minimum] else []
  | .greatest maximum, v => if greaterThan v maximum then [.aboveMaximum v maximum] else []
  | .each rule, .array items => items.flatMap rule
  | _, _ => []

/-- What some keywords find wrong with a value, each by itself. -/
def byKeyword (keywords : List Keyword) : Rule := fun v => keywords.flatMap fun k => k.lines v

/-- The known keys of an object, in ascending order and each with its keywords, and the keys that it
must have. -/
structure Outline where
  /-- The keys that are known. -/
  known : List (String × List Keyword)
  /-- The keys that may not be left out. -/
  required : List String

/-- The keys of an object that are not among the known ones. -/
def straying (known : List String) (fields : Json.Fields) : List String :=
  (fields.map (·.1)).filter fun key => decide (key ∉ known)

/-- One line for all unexpected keys, if there are any. -/
def strayLine (known : List String) (fields : Json.Fields) : List Violation :=
  if straying known fields = [] then [] else [.unexpectedKeys (straying known fields)]

/-- One line for each required key that an object has not. -/
def missingLines (required : List String) (fields : Json.Fields) : List Violation :=
  (required.filter fun key => decide (key ∉ fields.map (·.1))).map .missingKey

/-- What an outline finds wrong with the fields of an object. -/
def Outline.lines (o : Outline) (fields : Json.Fields) : List Violation :=
  (o.known.flatMap fun p => (fields.get? p.1).toList.flatMap (byKeyword p.2)) ++
    strayLine (o.known.map (·.1)) fields ++ missingLines o.required fields

/-- An outline has the properties of a rule for objects, in ascending order. -/
structure Outline.Describes (o : Outline) (properties : List (String × Rule)) : Prop where
  /-- No property has two rules. -/
  distinct : (properties.map (·.1)).Nodup
  /-- The keys of the outline ascend. -/
  ascending : o.known.Pairwise fun p q => p.1 < q.1
  /-- Every property is known. -/
  known : properties.map (·.1) ⊆ o.known.map (·.1)
  /-- The keywords of a key come to its rule. -/
  rules : ∀ p ∈ o.known, (p.1, byKeyword p.2) ∈ properties

namespace Outline.Describes

variable {o : Outline} {properties : List (String × Rule)} {fields : Json.Fields}

theorem ruleOf_eq (h : o.Describes properties) (key : String) :
    ruleOf properties key = (valueAt? o.known key).map byKeyword := by
  cases hfind : o.known.find? fun p => p.1 == key with
  | some p =>
      have hkey : p.1 = key := by simpa using List.find?_some hfind
      have hrule := h.rules p (List.mem_of_find?_eq_some hfind)
      rw [hkey] at hrule
      rw [valueAt?, hfind]
      exact (ruleOf_eq_some_iff h.distinct).2 hrule
  | none =>
      have habsent : ∀ p ∈ o.known, p.1 ≠ key := by simpa using List.find?_eq_none.1 hfind
      rw [valueAt?, hfind]
      apply Option.eq_none_iff_forall_not_mem.2
      intro rule hrule
      have hproperty := (ruleOf_eq_some_iff h.distinct).1 hrule
      obtain ⟨p, hp, heq⟩ := List.mem_map.1 (h.known (List.mem_map_of_mem hproperty))
      exact habsent p hp heq

theorem unexpected_eq (h : o.Describes properties) (fields : Json.Fields) :
    unexpected properties fields = straying (o.known.map (·.1)) fields := by
  rw [unexpected, straying, List.filter_map]
  apply congrArg
  apply List.filter_congr
  intro f _
  rw [Function.comp, Bool.eq_iff_iff, Option.isNone_iff_eq_none, h.ruleOf_eq,
    Option.map_eq_none_iff, valueAt?_eq_none_iff, decide_eq_true_iff, List.mem_map]
  constructor
  · rintro habsent ⟨p, hp, heq⟩
    exact habsent p hp heq
  · intro hstray p hp heq
    exact hstray ⟨p, hp, heq⟩

/-- **A rule for objects finds what its outline finds**, in an object whose keys ascend. -/
theorem closedObject_eq_lines (h : o.Describes properties) (hfields : fields.Ascending) :
    closedObject properties o.required (.object fields) = o.lines fields := by
  have hknown : fields.flatMap (fieldViolations properties) =
      o.known.flatMap fun p => (fields.get? p.1).toList.flatMap (byKeyword p.2) := by
    calc fields.flatMap (fieldViolations properties)
        = shared (fun v keywords => byKeyword keywords v) fields o.known := by
          apply congrArg (fields.flatMap ·)
          funext f
          rw [fieldViolations, h.ruleOf_eq]
          cases valueAt? o.known f.1 <;> simp
      _ = _ := shared_comm _ hfields h.ascending
  have hmissing : (lacking o.required fields).map .missingKey = missingLines o.required fields := by
    apply congrArg
    apply List.filter_congr
    intro key _
    rw [Bool.eq_iff_iff, Option.isNone_iff_eq_none, Json.Fields.get?_eq_none_iff,
      decide_eq_true_iff]
  rw [closedObject, hknown, hmissing, h.unexpected_eq, lines, strayLine]
  split
  · next hnone => rw [if_pos hnone]
  · next hsome => rw [if_neg hsome]

/-- **A known key that is alone has the faults that its keywords find**, and then the required keys
are missing. -/
theorem lines_alone (h : o.Describes properties) {p : String × List Keyword} (hp : p ∈ o.known)
    (v : Json) :
    o.lines [(p.1, v)] = byKeyword p.2 v ++ missingLines o.required [(p.1, v)] := by
  have hvalue : valueAt? o.known p.1 = some p.2 := valueAt?_of_mem h.ascending hp
  have hknown : (o.known.flatMap fun q =>
      (Json.Fields.get? [(p.1, v)] q.1).toList.flatMap (byKeyword q.2)) = byKeyword p.2 v := by
    calc (o.known.flatMap fun q =>
          (Json.Fields.get? [(p.1, v)] q.1).toList.flatMap (byKeyword q.2))
        = shared (fun x keywords => byKeyword keywords x) [(p.1, v)] o.known :=
          (shared_comm _ (List.pairwise_singleton _ _) h.ascending).symm
      _ = byKeyword p.2 v := by simp [shared, hvalue]
  have hstray : straying (o.known.map (·.1)) [(p.1, v)] = [] := by
    apply List.filter_eq_nil_iff.2
    intro key hkey
    rw [List.mem_singleton.1 hkey, decide_eq_true_iff, not_not]
    exact List.mem_map_of_mem hp
  rw [lines, hknown, strayLine, if_pos hstray, List.append_nil]

end Outline.Describes

/-- A value that is no object has no other fault. -/
theorem closedObject_of_not_object {properties : List (String × Rule)} {required : List String}
    {v : Json} (h : ∀ fields, v ≠ .object fields) :
    closedObject properties required v = [.wrongKind v [.object]] := by
  cases v with
  | object fields => exact absurd rfl (h fields)
  | _ => rfl

/-! ## The outlines of a playbook and its parts -/

variable {fields : Json.Fields}

/-- The document with a single element under a key. -/
def lone (key : String) (element : Json) : Json := .object [(key, .array [element])]

/-- What an outline says of the elements under a key: whatever is wrong with an element is found as
well when it is the only one in the document. -/
structure Outline.Reports (o : Outline) (key : String) : Prop where
  /-- An element that is no object has this one fault. -/
  other : ∀ v, (∀ fields, v ≠ .object fields) →
    playbook (lone key v) = [.wrongKind v [.object]]
  /-- An object has the faults of its known keys, one line for all unexpected keys, and one for each
  required key that is missing. -/
  object : ∀ fields : Json.Fields, fields.Ascending →
    playbook (lone key (.object fields)) = o.lines fields
  /-- A known key has the same faults when it is the only one. -/
  alone : ∀ p ∈ o.known, ∀ v,
    playbook (lone key (.object [(p.1, v)])) =
      byKeyword p.2 v ++ missingLines o.required [(p.1, v)]

theorem Outline.Describes.reports {o : Outline} {properties : List (String × Rule)} {key : String}
    (h : o.Describes properties)
    (hlone : ∀ v, playbook (lone key v) = closedObject properties o.required v) :
    o.Reports key where
  other v hv := by rw [hlone, closedObject_of_not_object hv]
  object fields hfields := by rw [hlone, h.closedObject_eq_lines hfields]
  alone p hp v := by
    rw [hlone, h.closedObject_eq_lines (List.pairwise_singleton _ _), h.lines_alone hp]

end Schema

end TestBench
