import TestBench.Proofs.RecordReading
import TestBench.Yaml.Value

/-!
# Documents with each key once

An object has each key once, at every depth of a document (`Json.Proper`). The readers take any list
of fields, so what is said of documents is said of the proper ones. Nothing else comes out of a text:
the mappings of a text may repeat a key, but the last value counts and the fields are put in order, so
every document that is read is proper (`Yaml.proper_of_ofText`).
-/

set_option autoImplicit false

namespace TestBench

namespace Json

/-- In every object each key stands once. -/
inductive Proper : Json → Prop where
  | null : Proper .null
  | bool (b : Bool) : Proper (.bool b)
  | int (i : Int) : Proper (.int i)
  | float (x : Number.Double) : Proper (.float x)
  | string (s : String) : Proper (.string s)
  | array (items : List Json) (h : ∀ x ∈ items, Proper x) : Proper (.array items)
  | object (fields : Fields) (hdistinct : fields.Distinct) (h : ∀ f ∈ fields, Proper f.2) :
      Proper (.object fields)

namespace Proper

variable {items : List Json} {fields : Fields}

theorem item (h : Proper (.array items)) {x : Json} (hx : x ∈ items) : Proper x := by
  cases h with
  | array _ hall => exact hall x hx

theorem distinct (h : Proper (.object fields)) : fields.Distinct := by
  cases h with
  | object _ hdistinct _ => exact hdistinct

theorem value (h : Proper (.object fields)) {key : String} {x : Json} (hx : (key, x) ∈ fields) :
    Proper x := by
  cases h with
  | object _ _ hall => exact hall _ hx

end Proper

/-! ## Fields in order -/

namespace Fields

theorem Ascending.distinct {fields : Fields} (h : fields.Ascending) : fields.Distinct := by
  rw [Distinct, List.Nodup, List.pairwise_map]
  exact h.imp Std.ne_of_lt

/-- A field of the extended list is the new one or was there before. -/
theorem mem_insert {key : String} {value : Json} {fields : Fields} {p : String × Json}
    (h : p ∈ fields.insert key value) : p = (key, value) ∨ p ∈ fields := by
  induction fields with
  | nil => exact .inl (List.mem_singleton.1 h)
  | cons q rest ih =>
      rw [insert] at h
      split at h
      · exact List.mem_cons.1 h
      · split at h
        · exact (List.mem_cons.1 h).imp_right (List.mem_cons_of_mem _)
        · rcases List.mem_cons.1 h with rfl | h
          · exact .inr List.mem_cons_self
          · exact (ih h).imp_right (List.mem_cons_of_mem _)

/-- The fields that are built from a list come from the list. -/
theorem mem_of_mem_ofList {pairs : List (String × Json)} {p : String × Json}
    (h : p ∈ ofList pairs) : p ∈ pairs := by
  have hgeneral : ∀ (pairs : List (String × Json)) (fields : Fields),
      p ∈ pairs.foldl (fun fields p => fields.insert p.1 p.2) fields → p ∈ fields ∨ p ∈ pairs := by
    intro pairs
    induction pairs with
    | nil => exact fun _ h => .inl h
    | cons q rest ih =>
        intro fields h
        rcases ih _ h with h | h
        · rcases mem_insert h with rfl | h
          · exact .inr List.mem_cons_self
          · exact .inl h
        · exact .inr (List.mem_cons_of_mem _ h)
  exact (hgeneral pairs [] h).resolve_left List.not_mem_nil

/-- **An object built from proper values is proper.** -/
theorem proper_ofList {pairs : List (String × Json)} (h : ∀ p ∈ pairs, p.2.Proper) :
    (Json.object (ofList pairs)).Proper :=
  .object _ (ascending_ofList pairs).distinct fun p hp => h p (mem_of_mem_ofList hp)

end Fields

end Json

namespace Yaml

/-! ## Scalars -/

theorem Scalar.proper_float? {text : String} {v : Json} (h : float? text = some v) : v.Proper := by
  unfold float? at h
  split at h
  · cases h
    exact .null
  · obtain ⟨x, -, rfl⟩ := Option.map_eq_some_iff.1 h
    exact .float x

theorem Scalar.proper_intValue {i : Int} {v : Json} (h : intValue i = .ok v) : v.Proper := by
  unfold intValue at h
  split at h
  · cases h
    exact .int i
  · cases h

theorem Scalar.proper_plain {text : String} {v : Json} (h : plain text = .ok v) : v.Proper := by
  unfold plain at h
  split at h
  · cases h
    exact .null
  · split at h
    · cases h
      exact .bool _
    · exact proper_intValue h
    · split at h
      · cases h
        exact .string text
      · cases h
        cases hfloat : float? text with
        | none => exact .string text
        | some x => exact proper_float? hfloat

theorem Scalar.proper_forced {text : String} {f : Forced} {v : Json} (h : forced text f = .ok v) :
    v.Proper := by
  cases f with
  | bool =>
      rw [forced] at h
      split at h
      · cases h
        exact .bool _
      · cases h
  | int =>
      rw [forced] at h
      split at h
      · exact proper_intValue h
      · cases h
  | float =>
      rw [forced] at h
      split at h
      · next hfloat =>
          cases h
          exact proper_float? hfloat
      · cases h
  | null =>
      rw [forced] at h
      split at h
      · cases h
        exact .null
      · cases h

/-- Scalars stand for proper values. -/
theorem proper_scalarValue {tag : TagMeaning} {text : String} {style : Style} {v : Json}
    (h : scalarValue tag text style = .ok v) : v.Proper := by
  unfold scalarValue at h
  split at h
  · cases h
  · exact Scalar.proper_forced h
  · cases h
    exact .string text
  · split at h
    · exact Scalar.proper_plain h
    · cases h
      exact .string text
  · split at h
    · exact Scalar.proper_plain h
    · cases h
      exact .string text

/-! ## Nodes -/

namespace Repeating

variable {α β : Type} {P : α → Prop} {Q : β → Prop}

/-- Whatever a computation results in has a property. -/
def Yields (P : α → Prop) (c : Repeating α) : Prop := ∀ n out, c n = .ok out → P out.1

theorem Yields.fault (f : Fault) : Yields P (throw f : Repeating α) := fun _ _ h => nomatch h

theorem Yields.pure {a : α} (h : P a) : Yields P (pure a : Repeating α) := by
  intro n out hout
  cases hout
  exact h

theorem Yields.lift {e : Except Fault α} (h : ∀ a, e = .ok a → P a) :
    Yields P (e : Repeating α) := by
  intro n out hout
  cases e with
  | error f => cases hout
  | ok a =>
      cases hout
      exact h a rfl

theorem Yields.bind {c : Repeating α} {f : α → Repeating β} (hc : Yields P c)
    (hf : ∀ a, P a → Yields Q (f a)) : Yields Q (c >>= f) := by
  intro n out hout
  cases hfirst : c n with
  | error e =>
      have hnone : (c >>= f) n = .error e := by
        show (c n >>= fun r => f r.1 r.2) = _
        rw [hfirst]
        rfl
      rw [hnone] at hout
      cases hout
  | ok first =>
      have hrest : (c >>= f) n = f first.1 first.2 := by
        show (c n >>= fun r => f r.1 r.2) = _
        rw [hfirst]
        rfl
      exact hf first.1 (hc n first hfirst) first.2 out (hrest ▸ hout)

/-- A computation that goes on unless something is wrong. -/
theorem Yields.unless {p : Prop} [Decidable p] {f : Fault} {c : Unit → Repeating α}
    (h : Yields P (c ())) :
    Yields P (if p then do { let r ← throw f; c r } else c ()) := by
  split
  · exact (Yields.fault (P := fun _ => False) f).bind fun _ hnone => hnone.elim
  · exact h

theorem Yields.mapM {γ : Type} {f : γ → Repeating α} {l : List γ} (h : ∀ x ∈ l, Yields P (f x)) :
    Yields (fun as => ∀ a ∈ as, P a) (l.mapM f) := by
  induction l with
  | nil => exact .pure fun _ ha => nomatch ha
  | cons x rest ih =>
      rw [List.mapM_cons]
      refine (h x List.mem_cons_self).bind fun a ha => ?_
      refine (ih fun y hy => h y (List.mem_cons_of_mem _ hy)).bind fun as has => ?_
      exact .pure (List.forall_mem_cons.2 ⟨ha, has⟩)

theorem Yields.of_run' {c : Repeating α} (h : Yields P c) {n : Nat} {a : α}
    (hrun : c.run' n = .ok a) : P a := by
  have hmap : (c n).map (·.1) = .ok a := hrun
  cases hout : c n with
  | error f =>
      rw [hout] at hmap
      cases hmap
  | ok out =>
      rw [hout] at hmap
      cases hmap
      exact h n out hout

/-- **Nodes stand for proper values.** The induction is on the room for nested collections, since a
node may be repeated inside of itself. -/
theorem proper_value (anchors : List (Nat × Node)) (room : Nat) (n : Node) :
    Yields Json.Proper (value anchors room n) := by
  -- which node is meant and what a key says does not matter
  have hany : ∀ {α : Type} (c : Repeating α), Yields (fun _ => True) c :=
    fun _ _ _ _ => trivial
  induction room generalizing n with
  | zero =>
      rw [value]
      refine (hany _).bind fun n _ => ?_
      cases n with
      | reference id => exact .fault _
      | scalar p text style => exact .lift fun v hv => proper_scalarValue hv
      -- there is no room left for collections
      | sequence p items => exact .unless (.fault _)
      | mapping p entries => exact .unless (.fault _)
  | succ room ih =>
      rw [value]
      refine (hany _).bind fun n _ => ?_
      cases n with
      | reference id => exact .fault _
      | scalar p text style => exact .lift fun v hv => proper_scalarValue hv
      | sequence p items =>
          refine .unless ?_
          refine (Yields.mapM fun x _ => ih x).bind fun xs hxs => ?_
          exact .pure (.array xs hxs)
      | mapping p entries =>
          refine .unless ?_
          have hpairs : ∀ e ∈ entries, Yields (fun p : String × Json => p.2.Proper)
              (do return (← key anchors e.1, ← value anchors room e.2)) := by
            intro e _
            refine (hany _).bind fun name _ => ?_
            refine (ih e.2).bind fun v hv => ?_
            exact .pure hv
          refine (Yields.mapM hpairs).bind fun pairs hproper => ?_
          exact .pure (Json.Fields.proper_ofList hproper)

end Repeating

/-- **Documents that are read are proper.** -/
theorem proper_of_ofText {text : String} {d : Json} (h : ofText text = .ok d) : d.Proper := by
  cases htokens : tokens text.toList with
  | error f =>
      simp only [ofText, htokens, bind, Except.bind] at h
      cases h
  | ok found =>
      cases hnode : document found with
      | error f =>
          simp only [ofText, htokens, hnode, bind, Except.bind] at h
          cases h
      | ok n? =>
          simp only [ofText, htokens, hnode, bind, Except.bind] at h
          cases n? with
          | none =>
              cases h
              exact .null
          | some n => exact (Repeating.proper_value n.anchored usualRoom n).of_run' h

end Yaml

end TestBench
