import TestBench.Number.Decimal

/-!
# JSON values

A value of the data format in which tests, playbooks and reports are exchanged. Integers and floating
point numbers are kept apart: `1` and `1.0` are different values, also when the parameters of two
targets are compared. The fields of an object are an association list in ascending order of its keys;
`Json.Fields.insert` builds such lists, and a key that is inserted again takes the last value.

`Json.same` is the comparison of values. It is structural except that the two zeros of the floating
point format are equal.
-/

set_option autoImplicit false

namespace TestBench

/-- A JSON value. -/
inductive Json where
  /-- The absent value. -/
  | null
  /-- A truth value. -/
  | bool (b : Bool)
  /-- A number without fraction and exponent. -/
  | int (i : Int)
  /-- A number with a fraction or an exponent. -/
  | float (x : Number.Double)
  /-- A text. -/
  | string (s : String)
  /-- A sequence of values. -/
  | array (items : List Json)
  /-- Values by key, in ascending order of the keys. -/
  | object (fields : List (String × Json))

instance : Inhabited Json := ⟨.null⟩

namespace Json

/-- The fields of an object. -/
abbrev Fields := List (String × Json)

/-! ## Fields in the order of their keys -/

namespace Fields

/-- The fields with one key set to a value, every other field kept and the keys in order. -/
def insert (key : String) (value : Json) : Fields → Fields
  | [] => [(key, value)]
  | (k, v) :: rest =>
      if key < k then (key, value) :: (k, v) :: rest
      else if key = k then (key, value) :: rest
      else (k, v) :: insert key value rest

/-- The fields given in any order; of equal keys the last counts. -/
def ofList (pairs : List (String × Json)) : Fields :=
  pairs.foldl (fun fields p => fields.insert p.1 p.2) []

/-- The value under a key. -/
def get? (fields : Fields) (key : String) : Option Json :=
  (fields.find? fun p => p.1 == key).map (·.2)

/-- The keys are in ascending order, each once. -/
def Ascending (fields : Fields) : Prop := fields.Pairwise fun p q => p.1 < q.1

/-- A key of the extended list is the new one or was there before. -/
theorem mem_insert_key {key : String} {value : Json} {fields : Fields} {p : String × Json}
    (h : p ∈ fields.insert key value) : p.1 = key ∨ p ∈ fields := by
  induction fields with
  | nil => simp [insert] at h; simp [h]
  | cons q rest ih =>
      simp only [insert] at h
      split at h
      · rcases List.mem_cons.1 h with h | h
        · exact .inl (by rw [h])
        · exact .inr h
      · split at h
        · rcases List.mem_cons.1 h with h | h
          · exact .inl (by rw [h])
          · exact .inr (List.mem_cons_of_mem _ h)
        · rcases List.mem_cons.1 h with h | h
          · exact .inr (h ▸ List.mem_cons_self)
          · exact (ih h).imp_right (List.mem_cons_of_mem _)

/-- **Insertion keeps the order of the keys.** -/
theorem Ascending.insert {fields : Fields} (h : fields.Ascending) (key : String) (value : Json) :
    (fields.insert key value).Ascending := by
  induction fields with
  | nil => simp [Fields.insert, Ascending]
  | cons q rest ih =>
      obtain ⟨hq, hr⟩ := List.pairwise_cons.1 h
      simp only [Fields.insert]
      split
      · rename_i hlt
        refine List.pairwise_cons.2 ⟨fun p hp => ?_, h⟩
        rcases List.mem_cons.1 hp with hp | hp
        · exact hp ▸ hlt
        · exact String.lt_trans hlt (hq p hp)
      · split
        · rename_i heq
          exact List.pairwise_cons.2 ⟨fun p hp => heq ▸ hq p hp, hr⟩
        · rename_i hlt hne
          refine List.pairwise_cons.2 ⟨fun p hp => ?_, ih hr⟩
          rcases mem_insert_key hp with hp | hp
          · rw [hp]
            exact Std.lt_of_le_of_ne (String.not_lt.1 hlt) fun e => hne e.symm
          · exact hq p hp

/-- **Fields built from a list are in order.** -/
theorem ascending_ofList (pairs : List (String × Json)) : (ofList pairs).Ascending := by
  have step : ∀ (l : List (String × Json)) (fields : Fields), fields.Ascending →
      (l.foldl (fun fields p => fields.insert p.1 p.2) fields).Ascending := by
    intro l
    induction l with
    | nil => exact fun _ h => h
    | cons p l ih => exact fun _ h => ih _ (h.insert p.1 p.2)
  exact step pairs [] List.Pairwise.nil

end Fields

/-! ## Comparison -/

mutual

/-- Equality of values, the two zeros counted as one. -/
def same : Json → Json → Bool
  | null, null => true
  | bool a, bool b => a == b
  | int a, int b => a == b
  | float a, float b => a.same b
  | string a, string b => a == b
  | array a, array b => sameList a b
  | object a, object b => sameFields a b
  | _, _ => false

/-- Equality of sequences, item by item. -/
def sameList : List Json → List Json → Bool
  | [], [] => true
  | a :: as, b :: bs => same a b && sameList as bs
  | _, _ => false

/-- Equality of fields, key by key. -/
def sameFields : List (String × Json) → List (String × Json) → Bool
  | [], [] => true
  | (k, a) :: as, (l, b) :: bs => k == l && same a b && sameFields as bs
  | _, _ => false

end

mutual

/-- Every value is equal to itself. -/
theorem same_self : ∀ a : Json, same a a = true
  | null => rfl
  | bool b => by simp [same]
  | int i => by simp [same]
  | float x => by simp [same, Number.Double.same]
  | string s => by simp [same]
  | array items => by simp [same, sameList_self items]
  | object fields => by simp [same, sameFields_self fields]

/-- Every sequence is equal to itself. -/
theorem sameList_self : ∀ l : List Json, sameList l l = true
  | [] => rfl
  | a :: l => by simp [sameList, same_self a, sameList_self l]

/-- Every list of fields is equal to itself. -/
theorem sameFields_self : ∀ l : List (String × Json), sameFields l l = true
  | [] => rfl
  | (k, a) :: l => by simp [sameFields, same_self a, sameFields_self l]

end

end Json

end TestBench
