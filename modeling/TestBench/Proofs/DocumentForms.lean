import TestBench.Playbook.Schema
import TestBench.Proofs.RecordReading

/-!
# Forms of documents

What a document looks like is said by predicates on values: a text, a list of values of one kind, or
an object whose keys are known and whose values follow a form (`Json.ObjectOf`). Both the rules of a
schema and the readers of the library decide such predicates, and this module has a lemma for each
of them that says which. So what a schema lets through and what a reader accepts can be compared
without opening either.
-/

set_option autoImplicit false

namespace TestBench.Json

/-! ## Values -/

/-- A text. -/
def IsText (v : Json) : Prop := ∃ s, v = .string s

/-- A text that is not empty. -/
def IsNonEmptyText (v : Json) : Prop := ∃ s, v = .string s ∧ s ≠ ""

/-- A truth value. -/
def IsFlag (v : Json) : Prop := ∃ b, v = .bool b

/-- Values by key, whatever they are. -/
def IsMap (v : Json) : Prop := ∃ fields, v = .object fields

/-- A number without fraction and exponent, within bounds. -/
def IsIntegerWithin (least greatest : Int) (v : Json) : Prop :=
  ∃ i, v = .int i ∧ least ≤ i ∧ i ≤ greatest

/-- The absent value, or a value of some kind. -/
def OrNull (P : Json → Prop) (v : Json) : Prop := v = .null ∨ P v

/-- A list of values of one kind. -/
def ArrayOf (P : Json → Prop) (v : Json) : Prop := ∃ items, v = .array items ∧ ∀ x ∈ items, P x

/-- The keys that an object may have, each with the kind of its value. -/
abbrev Form := List (String × (Json → Prop))

/-- Fields of the form, with all required keys. -/
def Form.Admits (form : Form) (required : List String) (fields : Fields) : Prop :=
  (∀ f ∈ fields, ∃ p ∈ form, p.1 = f.1 ∧ p.2 f.2) ∧ ∀ key ∈ required, key ∈ fields.map (·.1)

/-- An object of the form, with all required keys. -/
def ObjectOf (form : Form) (required : List String) (v : Json) : Prop :=
  ∃ fields, v = .object fields ∧ form.Admits required fields

theorem ArrayOf.mono {P Q : Json → Prop} {v : Json} (h : ArrayOf P v)
    (himp : ∀ items, v = .array items → ∀ x ∈ items, P x → Q x) : ArrayOf Q v := by
  obtain ⟨items, hv, hall⟩ := h
  exact ⟨items, hv, fun x hx => himp items hv x hx (hall x hx)⟩

/-- Fields of one form are of another one with the same keys, if the values that they have are. -/
theorem Form.Admits.mono {form form' : Form} {required required' : List String} {fields : Fields}
    (h : form.Admits required fields) (hrequired : required' ⊆ required)
    (himp : List.Forall₂ (fun p q : String × (Json → Prop) =>
      p.1 = q.1 ∧ ∀ x, (p.1, x) ∈ fields → p.2 x → q.2 x) form form') :
    form'.Admits required' fields := by
  refine ⟨fun f hf => ?_, fun key hkey => h.2 key (hrequired hkey)⟩
  obtain ⟨p, hp, hkey, hpf⟩ := h.1 f hf
  obtain ⟨key, x⟩ := f
  simp only at hkey hpf
  subst hkey
  clear h
  induction himp with
  | nil => cases hp
  | cons hpq _ ih =>
      rcases List.mem_cons.1 hp with rfl | hp
      · exact ⟨_, List.mem_cons_self, hpq.1.symm, hpq.2 x hf hpf⟩
      · obtain ⟨q, hq, hfit⟩ := ih hp
        exact ⟨q, List.mem_cons_of_mem _ hq, hfit⟩

/-- Forms with the same keys admit the same fields, if they agree on the values that those have. -/
theorem Form.admits_congr {form form' : Form} {required : List String} {fields : Fields}
    (h : List.Forall₂ (fun p q : String × (Json → Prop) =>
      p.1 = q.1 ∧ ∀ x, (p.1, x) ∈ fields → (p.2 x ↔ q.2 x)) form form') :
    form.Admits required fields ↔ form'.Admits required fields := by
  constructor
  · intro hform
    apply hform.mono (List.Subset.refl _)
    exact h.imp fun p q hpq => ⟨hpq.1, fun x hx => (hpq.2 x hx).1⟩
  · intro hform
    apply hform.mono (List.Subset.refl _)
    refine h.flip.imp fun q p hpq => ⟨hpq.1.symm, fun x hx => ?_⟩
    rw [← hpq.1] at hx
    exact (hpq.2 x hx).2

theorem objectOf_object_iff {form : Form} {required : List String} {fields : Fields} :
    ObjectOf form required (.object fields) ↔ form.Admits required fields := by
  constructor
  · rintro ⟨fields', heq, h⟩
    cases heq
    exact h
  · exact fun h => ⟨fields, rfl, h⟩

/-- What the form says of the value under a key. -/
theorem Form.Admits.of_mem {form : Form} {required : List String} {fields : Fields} {key : String}
    {P : Json → Prop} {x : Json} (h : form.Admits required fields)
    (hkeys : (form.map (·.1)).Nodup) (hP : (key, P) ∈ form) (hx : (key, x) ∈ fields) : P x := by
  obtain ⟨p, hp, hkey, hpx⟩ := h.1 _ hx
  obtain rfl := List.inj_on_of_nodup_map hkeys hp hP hkey
  exact hpx

/-! ## Readers -/

section Readers

variable {α : Type} {read : Json → Except Mismatch α} {v : Json}

theorem readString_eq_ok_iff {s : String} : readString v = .ok s ↔ v = .string s := by
  cases v with
  | string t => rw [readString, Except.ok.injEq, Json.string.injEq]
  | _ => exact iff_of_false nofun nofun

theorem exists_readString_iff : (∃ s, readString v = .ok s) ↔ IsText v :=
  exists_congr fun _ => readString_eq_ok_iff

theorem exists_readBool_iff : (∃ b, readBool v = .ok b) ↔ IsFlag v := by
  cases v with
  | bool b => exact iff_of_true ⟨b, rfl⟩ ⟨b, rfl⟩
  | _ => exact iff_of_false (fun ⟨_, h⟩ => nomatch h) fun ⟨_, h⟩ => nomatch h

theorem exists_readFields_iff : (∃ fields, readFields v = .ok fields) ↔ IsMap v := by
  cases v with
  | object fields => exact iff_of_true ⟨fields, rfl⟩ ⟨fields, rfl⟩
  | _ => exact iff_of_false (fun ⟨_, h⟩ => nomatch h) fun ⟨_, h⟩ => nomatch h

theorem exists_map_iff {ε β : Type} {e : Except ε α} {f : α → β} :
    (∃ b, e.map f = .ok b) ↔ ∃ a, e = .ok a := by
  cases e with
  | ok a => exact iff_of_true ⟨f a, rfl⟩ ⟨a, rfl⟩
  | error m => exact iff_of_false (fun ⟨_, h⟩ => nomatch h) fun ⟨_, h⟩ => nomatch h

theorem exists_readOption_iff :
    (∃ a, readOption read v = .ok a) ↔ OrNull (fun v => ∃ a, read v = .ok a) v := by
  cases v with
  | null => exact iff_of_true ⟨none, rfl⟩ (.inl rfl)
  | _ => exact exists_map_iff.trans (or_iff_right nofun).symm

/-- A natural number below a bound is read from an integer in range. -/
theorem readNat_eq_ok_iff {bound : Nat} {n : Fin bound} :
    readNat bound v = .ok n ↔ v = .int (n.val : Int) := by
  cases v with
  | int i =>
      rw [readNat]
      split
      · next h =>
          rw [Except.ok.injEq, Json.int.injEq, Fin.ext_iff]
          constructor
          · intro hn
            have hi : i.toNat = n.val := hn
            omega
          · rintro rfl
            exact Int.toNat_natCast n.val
      · next h =>
          refine iff_of_false nofun fun hi => h ?_
          rw [Json.int.injEq] at hi
          have hn := n.isLt
          omega
  | _ => exact iff_of_false nofun nofun

theorem exists_readNat_iff {bound : Nat} :
    (∃ n, readNat bound v = .ok n) ↔ ∃ i, v = .int i ∧ 0 ≤ i ∧ i < bound := by
  constructor
  · rintro ⟨n, hn⟩
    have hbound := n.isLt
    exact ⟨_, readNat_eq_ok_iff.1 hn, by omega, by omega⟩
  · rintro ⟨i, rfl, hleast, hbound⟩
    have hlt : i.toNat < bound := by omega
    refine ⟨⟨i.toNat, hlt⟩, readNat_eq_ok_iff.2 ?_⟩
    rw [Json.int.injEq]
    exact (Int.toNat_of_nonneg hleast).symm

/-- The items are read one by one. -/
theorem mapM_eq_ok_iff {β ε : Type} {f : β → Except ε α} {items : List β} {l : List α} :
    items.mapM f = .ok l ↔ List.Forall₂ (fun x a => f x = .ok a) items l := by
  induction items generalizing l with
  | nil =>
      rw [List.mapM_nil, List.forall₂_nil_left_iff]
      exact ⟨fun h => (Except.ok.inj h).symm, fun h => congrArg Except.ok h.symm⟩
  | cons x rest ih =>
      rw [List.mapM_cons, List.forall₂_cons_left_iff]
      cases hx : f x with
      | error m => exact iff_of_false nofun fun ⟨_, _, h, _⟩ => nomatch h
      | ok a =>
          constructor
          · intro h
            cases hrest : rest.mapM f with
            | error m =>
                rw [hrest] at h
                cases h
            | ok as =>
                rw [hrest] at h
                exact ⟨a, as, rfl, ih.1 hrest, (Except.ok.inj h).symm⟩
          · rintro ⟨b, bs, hb, hbs, rfl⟩
            rw [ih.2 hbs, Except.ok.inj hb]
            rfl

/-- The first item that cannot be read is reported. -/
theorem exists_of_mapM_eq_error {β ε : Type} {f : β → Except ε α} {items : List β} {e : ε}
    (h : items.mapM f = .error e) : ∃ before x after, items = before ++ x :: after ∧
      (∀ y ∈ before, ∃ a, f y = .ok a) ∧ f x = .error e := by
  induction items with
  | nil => cases h
  | cons x rest ih =>
      rw [List.mapM_cons] at h
      cases hx : f x with
      | error e' =>
          rw [hx] at h
          cases h
          exact ⟨[], x, rest, rfl, List.forall_mem_nil _, hx⟩
      | ok a =>
          rw [hx] at h
          cases hrest : rest.mapM f with
          | ok as =>
              rw [hrest] at h
              cases h
          | error e' =>
              rw [hrest] at h
              cases h
              obtain ⟨before, y, after, rfl, hread, hy⟩ := ih hrest
              exact ⟨x :: before, y, after, rfl, List.forall_mem_cons.2 ⟨⟨a, hx⟩, hread⟩, hy⟩

theorem exists_mapM_iff {β ε : Type} {f : β → Except ε α} {items : List β} :
    (∃ l, items.mapM f = .ok l) ↔ ∀ x ∈ items, ∃ a, f x = .ok a := by
  constructor
  · rintro ⟨l, hl⟩ x hx
    have hall := mapM_eq_ok_iff.1 hl
    clear hl
    induction hall with
    | nil => cases hx
    | cons ha _ ih =>
        rcases List.mem_cons.1 hx with rfl | hx
        · exact ⟨_, ha⟩
        · exact ih hx
  · intro hall
    induction items with
    | nil => exact ⟨[], rfl⟩
    | cons x rest ih =>
        obtain ⟨a, ha⟩ := hall x List.mem_cons_self
        obtain ⟨l, hl⟩ := ih fun y hy => hall y (List.mem_cons_of_mem _ hy)
        exact ⟨a :: l, mapM_eq_ok_iff.2 (.cons ha (mapM_eq_ok_iff.1 hl))⟩

theorem exists_readList_iff :
    (∃ l, readList read v = .ok l) ↔ ArrayOf (fun v => ∃ a, read v = .ok a) v := by
  cases v with
  | array items =>
      refine exists_mapM_iff.trans ⟨fun h => ⟨items, rfl, h⟩, ?_⟩
      rintro ⟨items', heq, hall⟩
      cases heq
      exact hall
  | _ => exact iff_of_false (fun ⟨_, h⟩ => nomatch h) fun ⟨_, h, _⟩ => nomatch h

theorem exists_readNames_iff : (∃ names, readNames v = .ok names) ↔ ArrayOf IsText v := by
  have htext : (fun v => ∃ s, readString v = .ok s) = IsText :=
    funext fun v => propext exists_readString_iff
  rw [← htext]
  exact exists_map_iff.trans exists_readList_iff

end Readers

/-! ## Records -/

namespace Record

variable {δ α : Type} {r : Record δ α} {slots : List (Slot δ)} {entries : Fields}

/-- The form of the fields from which a record is read: each key with what can be read there. -/
def formOf (slots : List (Slot δ)) : Form :=
  slots.map fun s => (s.key, fun x => ∃ b, s.read x = .ok b)

/-- The keys of the fields that may not be left out. -/
def requiredOf (slots : List (Slot δ)) : List String :=
  (slots.filter fun s => !s.optional).map (·.key)

/-- **A closed record is read from the fields of its form**, if it is finished as soon as it has all
required ones. -/
theorem Lawful.exists_ofFields_iff (h : r.Lawful slots) (hclosed : r.closed = true)
    (hfinish : ∀ d, (∃ a, r.finish d = .ok a) ↔
      ∀ s ∈ slots, s.optional = false → (s.get d).isSome = true)
    (hdistinct : entries.Distinct) :
    (∃ a, r.ofFields entries = .ok a) ↔ (formOf slots).Admits (requiredOf slots) entries := by
  have hheld : ∀ d, (∀ s ∈ slots, s.Holds entries d) → ∀ s ∈ slots,
      (s.get d).isSome = true ↔ s.key ∈ entries.map (·.1) := by
    intro d hholds s hs
    have hmap := congrArg Option.isSome (hholds s hs)
    rw [Option.isSome_map, Option.isSome_map] at hmap
    rw [← hmap, ← not_iff_not, Bool.not_eq_true, Option.isSome_eq_false_iff,
      Option.isNone_iff_eq_none, Fields.get?_eq_none_iff]
  constructor
  · rintro ⟨a, hread⟩
    obtain ⟨hknown, d, hholds, hdone⟩ := (h.ofFields_eq_ok_iff hdistinct).1 hread
    constructor
    · intro f hf
      have hkey := hknown hclosed f hf
      rw [h.map_key] at hkey
      obtain ⟨s, hs, heq⟩ := List.mem_map.1 hkey
      refine ⟨_, List.mem_map_of_mem hs, heq, ?_⟩
      have hmem : (s.key, f.2) ∈ entries := heq ▸ hf
      have hvalue := hholds s hs
      rw [Slot.Holds, (Fields.get?_eq_some_iff hdistinct).2 hmem] at hvalue
      obtain ⟨b, -, hb⟩ := Option.map_eq_some_iff.1 hvalue.symm
      exact ⟨b, hb.symm⟩
    · intro key hkey
      obtain ⟨s, hs, rfl⟩ := List.mem_map.1 hkey
      obtain ⟨hs, hneeded⟩ := List.mem_filter.1 hs
      have hset := (hfinish d).1 ⟨a, hdone⟩ s hs (by simpa using hneeded)
      exact (hheld d hholds s hs).1 hset
  · rintro ⟨hfields, hrequired⟩
    have hknown : ∀ e ∈ entries, e.1 ∈ r.keys := by
      intro e he
      obtain ⟨p, hp, hkey, -⟩ := hfields e he
      obtain ⟨s, hs, rfl⟩ := List.mem_map.1 hp
      rw [h.map_key]
      exact List.mem_map.2 ⟨s, hs, hkey⟩
    have hread : ∀ s ∈ slots, ∀ x, (s.key, x) ∈ entries → ∃ b, s.read x = .ok b := by
      intro s hs x hx
      obtain ⟨p, hp, hkey, hb⟩ := hfields _ hx
      obtain ⟨t, ht, rfl⟩ := List.mem_map.1 hp
      obtain rfl := h.eq_of_key_eq ht hs hkey
      exact hb
    obtain ⟨d, hfold⟩ := h.exists_foldlM_visit hdistinct (fun s hs _ => h.blank s hs)
      (fun _ => hknown) hread
    have hholds := ((h.foldlM_visit_eq_ok_iff hdistinct fun s hs _ => h.blank s hs).1 hfold).2
    obtain ⟨a, ha⟩ := (hfinish d).2 fun s hs hneeded => by
      have hkey : s.key ∈ requiredOf slots :=
        List.mem_map_of_mem (List.mem_filter.2 ⟨hs, by simp [hneeded]⟩)
      exact (hheld d (fun s hs => (h.holdsOver_blank_iff hs).1 (hholds s hs)) s hs).2
        (hrequired _ hkey)
    refine ⟨a, ?_⟩
    rw [ofFields, hfold]
    exact ha

end Record

end TestBench.Json

/-! ## Rules of a schema -/

namespace TestBench.Schema

variable {v : Json} {kinds : List Kind} {rule : Rule}

/-- A number without fraction, within bounds; a floating point number may be one. -/
def IsWholeWithin (least greatest : Int) (v : Json) : Prop :=
  Json.IsIntegerWithin least greatest v ∨
    ∃ x, v = .float x ∧ x.isIntegral = true ∧ x.ltInt least = false ∧ x.gtInt greatest = false

theorem ofKinds_eq_nil_iff : ofKinds kinds v = [] ↔ ∃ k ∈ kinds, k.admits v = true := by
  rw [ofKinds]
  split
  · next h =>
      obtain ⟨k, hk, hadmits⟩ := List.any_eq_true.1 h
      exact iff_of_true rfl ⟨k, hk, hadmits⟩
  · next h =>
      apply iff_of_false nofun
      rintro ⟨k, hk, hadmits⟩
      exact h (List.any_eq_true.2 ⟨k, hk, hadmits⟩)

theorem nonEmptyText_eq_nil_iff : nonEmptyText v = [] ↔ Json.IsNonEmptyText v := by
  unfold nonEmptyText
  rw [List.append_eq_nil_iff, ofKinds_eq_nil_iff]
  cases v with
  | string s =>
      by_cases hs : s = ""
      · simp [Json.IsNonEmptyText, hs]
      · simp [Json.IsNonEmptyText, hs, Kind.admits]
  | _ => simp [Json.IsNonEmptyText, Kind.admits]

theorem integerWithin_eq_nil_iff {least greatest : Int} :
    integerWithin least greatest v = [] ↔ IsWholeWithin least greatest v := by
  unfold integerWithin
  rw [List.append_eq_nil_iff, List.append_eq_nil_iff, ofKinds_eq_nil_iff]
  cases v with
  | int i => simp [IsWholeWithin, Json.IsIntegerWithin, lessThan, greaterThan, Kind.admits]
  | float x =>
      have hless : x.ltInt least = lessThan (.float x) least := rfl
      have hgreater : x.gtInt greatest = greaterThan (.float x) greatest := rfl
      simp [IsWholeWithin, Json.IsIntegerWithin, Kind.admits, hless, hgreater]
      tauto
  | _ => simp [IsWholeWithin, Json.IsIntegerWithin, Kind.admits]

theorem arrayOf_eq_nil_iff :
    arrayOf kinds rule v = [] ↔
      (∃ k ∈ kinds, k.admits v = true) ∧ ∀ items, v = .array items → ∀ x ∈ items, rule x = [] := by
  unfold arrayOf
  rw [List.append_eq_nil_iff, ofKinds_eq_nil_iff]
  refine and_congr_right fun _ => ?_
  cases v with
  | array items => simp
  | _ => simp

/-- The form of the objects that follow the rules of their properties. -/
def formOf (properties : List (String × Rule)) : Json.Form :=
  properties.map fun p => (p.1, fun v => p.2 v = [])

theorem ruleOf_eq_some_iff {properties : List (String × Rule)}
    (hkeys : (properties.map (·.1)).Nodup) {key : String} :
    ruleOf properties key = some rule ↔ (key, rule) ∈ properties := by
  rw [ruleOf, Option.map_eq_some_iff]
  constructor
  · rintro ⟨p, hp, rfl⟩
    have hkey : p.1 = key := by simpa using List.find?_some hp
    rw [← hkey]
    exact List.mem_of_find?_eq_some hp
  · intro hmem
    cases hfind : properties.find? fun p => p.1 == key with
    | none => exact absurd (beq_self_eq_true key) (List.find?_eq_none.1 hfind _ hmem)
    | some p =>
        have hkey : p.1 = key := by simpa using List.find?_some hfind
        have heq := List.inj_on_of_nodup_map hkeys (List.mem_of_find?_eq_some hfind) hmem hkey
        exact ⟨p, rfl, congrArg Prod.snd heq⟩

theorem closedObject_object_eq_nil_iff {properties : List (String × Rule)}
    {required : List String} {fields : Json.Fields} :
    closedObject properties required (.object fields) = [] ↔
      fields.flatMap (fieldViolations properties) = [] ∧ unexpected properties fields = [] ∧
        lacking required fields = [] := by
  unfold closedObject
  cases hkeys : unexpected properties fields with
  | nil => simp [hkeys]
  | cons key rest => simp [hkeys]

/-- **A rule for objects lets through the objects of its form.** -/
theorem closedObject_eq_nil_iff {properties : List (String × Rule)} {required : List String}
    (hkeys : (properties.map (·.1)).Nodup) :
    closedObject properties required v = [] ↔ Json.ObjectOf (formOf properties) required v := by
  cases v with
  | object fields =>
      rw [Json.objectOf_object_iff, closedObject_object_eq_nil_iff, ← and_assoc,
        List.flatMap_eq_nil_iff]
      refine and_congr ?_ ?_
      · rw [unexpected, List.map_eq_nil_iff, List.filter_eq_nil_iff, ← forall₂_and]
        refine forall₂_congr fun f _ => ?_
        -- a known key has one rule, and an unknown one has none
        cases hrule : ruleOf properties f.1 with
        | none =>
            refine iff_of_false (fun h => h.2 rfl) ?_
            rintro ⟨p, hp, hkey, -⟩
            obtain ⟨q, hq, rfl⟩ := List.mem_map.1 hp
            have hsome := (ruleOf_eq_some_iff hkeys).2 (hkey ▸ hq : (f.1, q.2) ∈ properties)
            rw [hrule] at hsome
            cases hsome
        | some rule =>
            have hmem := (ruleOf_eq_some_iff hkeys).1 hrule
            rw [fieldViolations, hrule]
            constructor
            · rintro ⟨hnone, -⟩
              exact ⟨_, List.mem_map_of_mem hmem, rfl, hnone⟩
            · rintro ⟨p, hp, hkey, hfit⟩
              obtain ⟨q, hq, rfl⟩ := List.mem_map.1 hp
              obtain rfl := List.inj_on_of_nodup_map hkeys hq hmem hkey
              exact ⟨hfit, nofun⟩
      · rw [lacking, List.filter_eq_nil_iff]
        refine forall₂_congr fun key _ => ?_
        rw [Option.isNone_iff_eq_none, Json.Fields.get?_eq_none_iff, not_not]
  | _ => exact iff_of_false nofun fun ⟨_, h, _⟩ => nomatch h

end TestBench.Schema
