import Mathlib.Data.List.Nodup
import Mathlib.Data.List.Pairwise
import TestBench.Json.Read

/-!
# From which values records are read

A record is read field by field into a draft, and which fault is met first depends on the order of
the fields. Whether there is one does not. For a record whose fields go to different places of its
draft (`Json.Record.Lawful`), `Json.Record.Lawful.ofFields_eq_ok_iff` says from which fields it is
read and as what: the keys are known, and the draft holds at each place just what is read from
the value under the key. By `Json.Record.Lawful.ofItems_eq_ok_iff` an array is read like the
object that has its items under the keys of the fields, in the order of their declaration.
-/

set_option autoImplicit false

namespace TestBench.Json

/-! ## Fields by key -/

namespace Fields

variable {fields : Fields} {key : String} {x : Json}

/-- No key stands twice. -/
def Distinct (fields : Fields) : Prop := (fields.map (·.1)).Nodup

theorem get?_cons (f : String × Json) (fields : Fields) (key : String) :
    get? (f :: fields) key = if f.1 = key then some f.2 else get? fields key := by
  by_cases h : f.1 = key <;> simp [get?, h]

theorem get?_eq_none_iff : fields.get? key = none ↔ key ∉ fields.map (·.1) := by
  induction fields with
  | nil => simp [get?]
  | cons f rest ih =>
      rw [get?_cons, List.map_cons, List.mem_cons, not_or]
      by_cases hkey : f.1 = key
      · simp [hkey]
      · rw [if_neg hkey, ih]
        exact (and_iff_right fun h => hkey h.symm).symm

/-- **The value under a key is the one that stands with it.** -/
theorem get?_eq_some_iff (h : fields.Distinct) : fields.get? key = some x ↔ (key, x) ∈ fields := by
  induction fields with
  | nil => simp [get?]
  | cons f rest ih =>
      obtain ⟨hfirst, hrest⟩ := List.nodup_cons.1 h
      rw [get?_cons, List.mem_cons]
      by_cases hkey : f.1 = key
      · subst hkey
        rw [if_pos rfl, Option.some.injEq]
        constructor
        · rintro rfl
          exact .inl rfl
        · rintro (heq | hmem)
          · exact congrArg Prod.snd heq.symm
          · exact absurd (List.mem_map_of_mem hmem) hfirst
      · rw [if_neg hkey, ih hrest]
        constructor
        · exact .inr
        · rintro (heq | hmem)
          · exact absurd (congrArg Prod.fst heq).symm hkey
          · exact hmem

theorem Distinct.eq_of_mem (h : fields.Distinct) {y : Json} (hx : (key, x) ∈ fields)
    (hy : (key, y) ∈ fields) : x = y := by
  rw [← get?_eq_some_iff h] at hx hy
  exact Option.some.inj (hx.symm.trans hy)

/-- Keys that have values, as far as there are values. -/
theorem map_fst_zip_eq_take : ∀ (keys : List String) (items : List Json),
    (keys.zip items).map (·.1) = keys.take items.length
  | [], _ => by rw [List.take_nil]; rfl
  | _ :: _, [] => rfl
  | key :: keys, _ :: items => congrArg (key :: ·) (map_fst_zip_eq_take keys items)

end Fields

/-! ## Places of a draft -/

/-- A place of a draft, with what is known of the field that goes there. -/
structure Slot (δ : Type) where
  /-- What the field is read as. -/
  β : Type
  /-- The key of the field. -/
  key : String
  /-- Whether the field may be left out. -/
  optional : Bool
  /-- What the draft holds. -/
  get : δ → Option β
  /-- The draft with something else at the place. -/
  set : β → δ → δ
  /-- How the field is read. -/
  read : Json → Except Mismatch β

namespace Slot

variable {δ : Type}

/-- The field that goes to the place. -/
def field (s : Slot δ) : Field δ := .at s.key s.optional s.get s.set s.read

/-- The draft holds at the place what is read from the value under its key, and nothing if there is
no such value. -/
def Holds (s : Slot δ) (entries : Fields) (d : δ) : Prop :=
  (entries.get? s.key).map s.read = (s.get d).map .ok

/-- The same for a draft that was begun before the entries were visited. -/
def HoldsOver (s : Slot δ) (start : δ) (entries : Fields) (d : δ) : Prop :=
  ((entries.get? s.key).map s.read).or ((s.get start).map .ok) = (s.get d).map .ok

/-- Neither of two places changes with the other one. -/
def Apart (s t : Slot δ) : Prop :=
  (∀ b d, s.get (t.set b d) = s.get d) ∧ ∀ b d, t.get (s.set b d) = t.get d

/-- What the draft holds was read from the value under the key. -/
theorem Holds.exists_of_get {s : Slot δ} {entries : Fields} {d : δ} {b : s.β}
    (h : s.Holds entries d) (hget : s.get d = some b) :
    ∃ x, entries.get? s.key = some x ∧ s.read x = .ok b := by
  rw [Holds, hget] at h
  exact Option.map_eq_some_iff.1 h

instance : Std.Symm (@Apart δ) := ⟨fun _ _ h => h.symm⟩

end Slot

namespace Record

variable {δ α : Type} {r : Record δ α} {slots : List (Slot δ)} {entries : Fields} {s : Slot δ}
  {start d : δ}

/-- The fields of a record go to different places of its draft, and there is nothing else in the
draft. -/
structure Lawful (r : Record δ α) (slots : List (Slot δ)) : Prop where
  /-- Each field has its place. -/
  fields : r.fields = slots.map Slot.field
  /-- The keys tell the fields apart. -/
  keys : (slots.map (·.key)).Nodup
  /-- What is put somewhere is there. -/
  same : ∀ s ∈ slots, ∀ b d, s.get (s.set b d) = some b
  /-- It changes nothing elsewhere. -/
  apart : slots.Pairwise Slot.Apart
  /-- Before anything is visited nothing is there. -/
  blank : ∀ s ∈ slots, s.get r.blank = none
  /-- A draft is what it holds. -/
  ext : ∀ d e, (∀ s ∈ slots, s.get d = s.get e) → d = e

namespace Lawful

theorem map_key (h : r.Lawful slots) : r.keys = slots.map (·.key) := by
  rw [Record.keys, h.fields, List.map_map]
  rfl

theorem eq_of_key_eq (h : r.Lawful slots) {t : Slot δ} (hs : s ∈ slots) (ht : t ∈ slots)
    (hkey : s.key = t.key) : s = t :=
  List.inj_on_of_nodup_map h.keys hs ht hkey

/-- A field changes nothing at the places of other fields. -/
theorem get_set (h : r.Lawful slots) {t : Slot δ} (hs : s ∈ slots) (ht : t ∈ slots)
    (hkey : s.key ≠ t.key) (b : t.β) (d : δ) : s.get (t.set b d) = s.get d := by
  have hne : s ≠ t := fun heq => hkey (congrArg Slot.key heq)
  exact (h.apart.forall hs ht hne).1 b d

theorem field?_eq_some (h : r.Lawful slots) (hs : s ∈ slots) :
    r.field? s.key = some s.field := by
  rw [field?, h.fields, List.find?_map, Option.map_eq_some_iff]
  refine ⟨s, ?_, rfl⟩
  have hmem : ∃ t, (slots.find? fun t => t.key == s.key) = some t := by
    apply Option.isSome_iff_exists.1
    exact List.find?_isSome.2 ⟨s, hs, beq_self_eq_true _⟩
  obtain ⟨t, ht⟩ := hmem
  have hkey : t.key = s.key := by simpa using List.find?_some ht
  rw [h.eq_of_key_eq (List.mem_of_find?_eq_some ht) hs hkey] at ht
  exact ht

theorem field?_eq_none {key : String} (hkey : key ∉ r.keys) : r.field? key = none := by
  apply List.find?_eq_none.2
  intro f hf heq
  exact hkey (List.mem_map.2 ⟨f, hf, by simpa using heq⟩)

/-! ## One entry -/

/-- A field whose place is empty is read. -/
theorem visit_of_get_eq_none (h : r.Lawful slots) (hs : s ∈ slots) (hempty : s.get d = none)
    (x : Json) : r.visit d (s.key, x) = (s.read x).map fun b => s.set b d := by
  have hunset : s.field.isSet d = false := by
    show (s.get d).isSome = false
    rw [hempty]
    rfl
  rw [visit, h.field?_eq_some hs]
  simp only [hunset, Bool.false_eq_true, if_false]
  rfl

/-- A field whose place is taken is a fault. -/
theorem visit_of_isSome (h : r.Lawful slots) (hs : s ∈ slots) (hset : (s.get d).isSome = true)
    (x : Json) : r.visit d (s.key, x) = .error (.duplicate s.key) := by
  have hset : s.field.isSet d = true := hset
  rw [visit, h.field?_eq_some hs]
  simp only [hset, if_true]
  rfl

/-- An entry that is no field is a fault in a closed record, and passed over in an open one. -/
theorem visit_of_notMem {key : String} (hkey : key ∉ r.keys) (x : Json) :
    r.visit d (key, x) = if r.closed then .error (.unknown key r.keys) else .ok d := by
  rw [visit, field?_eq_none hkey]

/-! ## All entries -/

/-- **Which draft the entries make.** No key stands twice among them, and the places of their fields
are empty at the start. -/
theorem foldlM_visit_eq_ok_iff (h : r.Lawful slots) (hdistinct : entries.Distinct)
    (hempty : ∀ s ∈ slots, s.key ∈ entries.map (·.1) → s.get start = none) :
    entries.foldlM r.visit start = .ok d ↔
      (r.closed = true → ∀ e ∈ entries, e.1 ∈ r.keys) ∧
        ∀ s ∈ slots, s.HoldsOver start entries d := by
  induction entries generalizing start with
  | nil =>
      have hholds : (∀ s ∈ slots, s.HoldsOver start [] d) ↔ start = d := by
        constructor
        · intro hall
          refine h.ext start d fun s hs => ?_
          exact Option.map_injective (fun _ _ => Except.ok.inj) (hall s hs)
        · rintro rfl s hs
          rfl
      rw [hholds]
      simp [pure, Except.pure]
  | cons e rest ih =>
      obtain ⟨key, x⟩ := e
      obtain ⟨hfresh, hrest⟩ := List.nodup_cons.1 hdistinct
      rw [List.foldlM_cons]
      by_cases hkey : key ∈ r.keys
      · rw [h.map_key] at hkey
        obtain ⟨t, ht, rfl⟩ := List.mem_map.1 hkey
        have hnone : t.get start = none := hempty t ht List.mem_cons_self
        rw [h.visit_of_get_eq_none ht hnone]
        cases hread : t.read x with
        | error m =>
            -- nothing is read from the value, so no draft can hold it
            refine iff_of_false nofun ?_
            rintro ⟨-, hall⟩
            have hholds := hall t ht
            rw [Slot.HoldsOver, Fields.get?_cons, if_pos rfl] at hholds
            cases hd : t.get d <;> simp [hread, hd] at hholds
        | ok b =>
            -- the place that is taken now is that of no later entry
            have hlater : ∀ s ∈ slots, s.key ∈ rest.map (·.1) →
                s.get (t.set b start) = none := by
              intro s hs hin
              have hne : s.key ≠ t.key := fun heq => hfresh (heq ▸ hin)
              rw [h.get_set hs ht hne]
              exact hempty s hs (List.mem_cons_of_mem _ hin)
            refine (ih hrest hlater).trans (and_congr ?_ (forall₂_congr fun s hs => ?_))
            · refine imp_congr_right fun _ => ?_
              rw [List.forall_mem_cons, h.map_key]
              exact (and_iff_right hkey).symm
            · -- the place of the entry holds it from now on, and the other places are as before
              rw [Slot.HoldsOver, Slot.HoldsOver, Fields.get?_cons]
              by_cases heq : t.key = s.key
              · obtain rfl := h.eq_of_key_eq ht hs heq
                rw [if_pos rfl, Fields.get?_eq_none_iff.2 hfresh, h.same t ht]
                simp [hread]
              · rw [if_neg heq, h.get_set hs ht fun he => heq he.symm]
      · rw [visit_of_notMem hkey]
        cases hclosed : r.closed with
        | true =>
            refine iff_of_false nofun ?_
            rintro ⟨hknown, -⟩
            exact hkey (hknown rfl _ List.mem_cons_self)
        | false =>
            have hlater : ∀ s ∈ slots, s.key ∈ rest.map (·.1) → s.get start = none :=
              fun s hs hin => hempty s hs (List.mem_cons_of_mem _ hin)
            refine (ih hrest hlater).trans (and_congr ?_ (forall₂_congr fun s hs => ?_))
            · simp [hclosed]
            · have hne : key ≠ s.key := by
                rintro rfl
                rw [h.map_key] at hkey
                exact hkey (List.mem_map_of_mem hs)
              rw [Slot.HoldsOver, Slot.HoldsOver, Fields.get?_cons, if_neg hne]

/-- **There is a draft** as soon as each field can be read. -/
theorem exists_foldlM_visit (h : r.Lawful slots) (hdistinct : entries.Distinct)
    (hempty : ∀ s ∈ slots, s.key ∈ entries.map (·.1) → s.get start = none)
    (hknown : r.closed = true → ∀ e ∈ entries, e.1 ∈ r.keys)
    (hread : ∀ s ∈ slots, ∀ x, (s.key, x) ∈ entries → ∃ b, s.read x = .ok b) :
    ∃ d, entries.foldlM r.visit start = .ok d := by
  induction entries generalizing start with
  | nil => exact ⟨start, rfl⟩
  | cons e rest ih =>
      obtain ⟨key, x⟩ := e
      obtain ⟨hfresh, hrest⟩ := List.nodup_cons.1 hdistinct
      have hknown' : r.closed = true → ∀ e ∈ rest, e.1 ∈ r.keys :=
        fun hc e he => hknown hc e (List.mem_cons_of_mem _ he)
      have hread' : ∀ s ∈ slots, ∀ x, (s.key, x) ∈ rest → ∃ b, s.read x = .ok b :=
        fun s hs x hx => hread s hs x (List.mem_cons_of_mem _ hx)
      rw [List.foldlM_cons]
      by_cases hkey : key ∈ r.keys
      · rw [h.map_key] at hkey
        obtain ⟨t, ht, rfl⟩ := List.mem_map.1 hkey
        obtain ⟨b, hb⟩ := hread t ht x List.mem_cons_self
        rw [h.visit_of_get_eq_none ht (hempty t ht List.mem_cons_self), hb]
        refine ih hrest (fun s hs hin => ?_) hknown' hread'
        have hne : s.key ≠ t.key := fun heq => hfresh (heq ▸ hin)
        rw [h.get_set hs ht hne]
        exact hempty s hs (List.mem_cons_of_mem _ hin)
      · have hopen : r.closed = false := by
          apply Bool.eq_false_iff.2
          exact fun hc => hkey (hknown hc _ List.mem_cons_self)
        rw [visit_of_notMem hkey, hopen]
        exact ih hrest (fun s hs hin => hempty s hs (List.mem_cons_of_mem _ hin)) hknown' hread'

/-- A closed record is read from distinct keys only, and from none whose place was taken. -/
theorem distinct_of_foldlM_visit (h : r.Lawful slots) (hclosed : r.closed = true)
    (hread : entries.foldlM r.visit start = .ok d) :
    entries.Distinct ∧ ∀ s ∈ slots, (s.get start).isSome = true → s.key ∉ entries.map (·.1) := by
  induction entries generalizing start with
  | nil => exact ⟨List.nodup_nil, fun _ _ _ => List.not_mem_nil⟩
  | cons e rest ih =>
      obtain ⟨key, x⟩ := e
      rw [List.foldlM_cons] at hread
      by_cases hkey : key ∈ r.keys
      · rw [h.map_key] at hkey
        obtain ⟨t, ht, rfl⟩ := List.mem_map.1 hkey
        cases hget : t.get start with
        | some b =>
            rw [h.visit_of_isSome ht (by rw [hget]; rfl)] at hread
            cases hread
        | none =>
            rw [h.visit_of_get_eq_none ht hget] at hread
            cases hb : t.read x with
            | error m =>
                rw [hb] at hread
                cases hread
            | ok b =>
                rw [hb] at hread
                obtain ⟨hrest, htaken⟩ := ih hread
                -- the place is taken from now on, so the key does not come again
                have hfresh : t.key ∉ rest.map (·.1) :=
                  htaken t ht (by rw [h.same t ht]; rfl)
                refine ⟨List.nodup_cons.2 ⟨hfresh, hrest⟩, fun s hs hset hin => ?_⟩
                have hne : s.key ≠ t.key := by
                  intro heq
                  rw [h.eq_of_key_eq hs ht heq, hget] at hset
                  cases hset
                rcases List.mem_cons.1 hin with heq | hin
                · exact hne heq
                · exact htaken s hs (by rw [h.get_set hs ht hne]; exact hset) hin
      · rw [visit_of_notMem hkey, hclosed] at hread
        cases hread

/-! ## Objects -/

/-- Over the blank draft nothing is held before. -/
theorem holdsOver_blank_iff (h : r.Lawful slots) (hs : s ∈ slots) :
    s.HoldsOver r.blank entries d ↔ s.Holds entries d := by
  rw [Slot.HoldsOver, h.blank s hs, Option.map_none, Option.or_none]
  rfl

/-- **From which fields a record is read, and as what.** -/
theorem ofFields_eq_ok_iff {a : α} (h : r.Lawful slots) (hdistinct : entries.Distinct) :
    r.ofFields entries = .ok a ↔
      (r.closed = true → ∀ e ∈ entries, e.1 ∈ r.keys) ∧
        ∃ d, (∀ s ∈ slots, s.Holds entries d) ∧ r.finish d = .ok a := by
  have hdraft : ∀ d, entries.foldlM r.visit r.blank = .ok d ↔
      (r.closed = true → ∀ e ∈ entries, e.1 ∈ r.keys) ∧ ∀ s ∈ slots, s.Holds entries d := by
    intro d
    rw [h.foldlM_visit_eq_ok_iff hdistinct fun s hs _ => h.blank s hs]
    exact and_congr_right fun _ => forall₂_congr fun s hs => h.holdsOver_blank_iff hs
  rw [ofFields]
  constructor
  · intro hread
    cases hfold : entries.foldlM r.visit r.blank with
    | error m =>
        rw [hfold] at hread
        cases hread
    | ok d =>
        rw [hfold] at hread
        obtain ⟨hknown, hholds⟩ := (hdraft d).1 hfold
        exact ⟨hknown, d, hholds, hread⟩
  · rintro ⟨hknown, d, hholds, hfinish⟩
    rw [(hdraft d).2 ⟨hknown, hholds⟩]
    exact hfinish

/-- Fields that a closed record is read from have distinct keys. -/
theorem distinct_of_ofFields {a : α} (h : r.Lawful slots) (hclosed : r.closed = true)
    (hread : r.ofFields entries = .ok a) : entries.Distinct := by
  rw [ofFields] at hread
  cases hfold : entries.foldlM r.visit r.blank with
  | error m =>
      rw [hfold] at hread
      cases hread
  | ok d => exact (h.distinct_of_foldlM_visit hclosed hfold).1

/-! ## Arrays -/

/-- **Items are entered like entries** under the keys of the fields, and what is left over is
returned. -/
theorem visitItems_eq_ok_iff (h : r.Lawful slots) {later : List (Slot δ)} (hlater : later ⊆ slots)
    (hkeys : (later.map (·.key)).Nodup) (hempty : ∀ s ∈ later, s.get start = none) (place : Nat)
    (items rest : List Json) :
    r.visitItems place (later.map Slot.field) items start = .ok (d, rest) ↔
      rest = items.drop later.length ∧ (∀ s ∈ later.drop items.length, s.optional = true) ∧
        ((later.map (·.key)).zip items).foldlM r.visit start = .ok d := by
  induction later generalizing start items place with
  | nil =>
      show Except.ok (start, items) = .ok (d, rest) ↔ rest = items ∧ _ ∧ Except.ok start = .ok d
      rw [Except.ok.injEq, Except.ok.injEq, Prod.mk.injEq, and_comm, eq_comm (a := items)]
      simp
  | cons s later ih =>
      obtain ⟨hfresh, hkeys'⟩ := List.nodup_cons.1 hkeys
      obtain ⟨hs, hsub⟩ := List.cons_subset.1 hlater
      have hafter : ∀ t ∈ later, t.get start = none :=
        fun t ht => hempty t (List.mem_cons_of_mem _ ht)
      cases items with
      | nil =>
          have hmissing := ih hsub hkeys' hafter (place + 1) []
          rw [List.map_cons, visitItems]
          cases hoptional : s.optional with
          | true =>
              have hfield : s.field.optional = true := hoptional
              rw [if_pos hfield, hmissing]
              simp [hoptional]
          | false =>
              have hfield : ¬ s.field.optional = true := by
                show ¬ s.optional = true
                simp [hoptional]
              rw [if_neg hfield]
              simp [hoptional]
      | cons x items =>
          rw [List.map_cons, visitItems, List.map_cons, List.zip_cons_cons, List.foldlM_cons,
            h.visit_of_get_eq_none hs (hempty s List.mem_cons_self)]
          show ((s.read x).map fun b => s.set b start) >>= _ = _ ↔ _
          cases hb : s.read x with
          | error m => exact iff_of_false nofun fun hall => nomatch hall.2.2
          | ok b =>
              refine ih hsub hkeys' (fun t ht => ?_) (place + 1) items
              have hne : t.key ≠ s.key := fun heq => hfresh (List.mem_map.2 ⟨t, ht, heq⟩)
              rw [h.get_set (hsub ht) hs hne]
              exact hafter t ht

/-- **An array is read like an object** that has its items under the keys of the fields. It has no
more items than there are fields, and only optional fields are missing. -/
theorem ofItems_eq_ok_iff {a : α} (h : r.Lawful slots) {items : List Json} :
    r.ofItems items = .ok a ↔
      items.length ≤ slots.length ∧ (∀ s ∈ slots.drop items.length, s.optional = true) ∧
        r.ofFields (r.keys.zip items) = .ok a := by
  have hitems : ∀ d rest, r.visitItems 0 (slots.map Slot.field) items r.blank = .ok (d, rest) ↔ _ :=
    fun d rest => h.visitItems_eq_ok_iff (List.Subset.refl slots) h.keys h.blank 0 items rest
  rw [ofItems, ofFields, h.fields, h.map_key]
  constructor
  · intro hread
    cases hvisit : r.visitItems 0 (slots.map Slot.field) items r.blank with
    | error m =>
        rw [hvisit] at hread
        cases hread
    | ok out =>
        obtain ⟨d, rest⟩ := out
        obtain ⟨hrest, hoptional, hfold⟩ := (hitems d rest).1 hvisit
        rw [hvisit] at hread
        cases hfinish : r.finish d with
        | error m =>
            simp only [bind, Except.bind, hfinish] at hread
            cases hread
        | ok b =>
            simp only [bind, Except.bind, hfinish] at hread
            split at hread
            · next hnone =>
                rw [hrest, List.isEmpty_iff, List.drop_eq_nil_iff] at hnone
                refine ⟨hnone, hoptional, ?_⟩
                rw [hfold]
                exact hfinish.trans hread
            · cases hread
  · rintro ⟨hlength, hoptional, hread⟩
    cases hfold : ((slots.map (·.key)).zip items).foldlM r.visit r.blank with
    | error m =>
        rw [hfold] at hread
        cases hread
    | ok d =>
        rw [hfold] at hread
        have hfinish : r.finish d = .ok a := hread
        have hnone : items.drop slots.length = [] := List.drop_eq_nil_iff.2 hlength
        rw [(hitems d []).2 ⟨hnone.symm, hoptional, hfold⟩]
        simp only [bind, Except.bind, hfinish]
        rfl

/-- If all required keys have an item, then only optional fields are missing. -/
theorem optional_of_required (h : r.Lawful slots) {items : List Json}
    (hrequired : ∀ s ∈ slots, s.optional = false → s.key ∈ (r.keys.zip items).map (·.1)) :
    ∀ s ∈ slots.drop items.length, s.optional = true := by
  intro s hs
  by_contra hneeded
  have hbefore := hrequired s (List.mem_of_mem_drop hs) (Bool.eq_false_iff.2 hneeded)
  rw [Fields.map_fst_zip_eq_take, h.map_key] at hbefore
  -- a key that has an item does not stand behind all items
  have hbehind : s.key ∈ (slots.map (·.key)).drop items.length := by
    rw [← List.map_drop]
    exact List.mem_map_of_mem hs
  exact List.disjoint_take_drop h.keys (Nat.le_refl _) hbefore hbehind

/-- The keys of the fields are distinct and known. -/
theorem zip_keys (h : r.Lawful slots) (items : List Json) :
    Fields.Distinct (r.keys.zip items) ∧ ∀ e ∈ r.keys.zip items, e.1 ∈ r.keys := by
  constructor
  · have hkeys : r.keys.Nodup := h.map_key ▸ h.keys
    rw [Fields.Distinct, Fields.map_fst_zip_eq_take]
    exact hkeys.sublist (List.take_sublist _ _)
  · exact fun e he => (List.of_mem_zip he).1

end Lawful

end Record

end TestBench.Json
