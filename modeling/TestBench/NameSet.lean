/-!
# Sets of names

Tags, features, markers and capabilities are sets of names. A `NameSet` is the list of its members in
strictly ascending order, so equal sets are equal lists, and a set is shown, walked and compared in
one order only.
-/

set_option autoImplicit false

namespace TestBench

/-- A finite set of names, in ascending order. -/
structure NameSet where
  /-- The members, least first. -/
  toList : List String
  /-- Each member once, in ascending order. -/
  ascending : toList.Pairwise (· < ·)
deriving DecidableEq

namespace NameSet

/-- A list of names with one more name at its place in the order. -/
def insertSorted (name : String) : List String → List String
  | [] => [name]
  | a :: rest =>
      if name < a then name :: a :: rest
      else if name = a then a :: rest
      else a :: insertSorted name rest

/-- **The members after an insertion** are the new name and those before. -/
theorem mem_insertSorted {a name : String} {l : List String} :
    a ∈ insertSorted name l ↔ a = name ∨ a ∈ l := by
  induction l with
  | nil => simp [insertSorted]
  | cons b rest ih =>
      simp only [insertSorted]
      split
      · simp
      · split
        · rename_i h
          subst h
          simp
        · simp only [List.mem_cons, ih]
          exact or_left_comm

/-- Insertion keeps the order. -/
theorem ascending_insertSorted {name : String} {l : List String} (h : l.Pairwise (· < ·)) :
    (insertSorted name l).Pairwise (· < ·) := by
  induction l with
  | nil => simp [insertSorted]
  | cons b rest ih =>
      obtain ⟨hb, hr⟩ := List.pairwise_cons.1 h
      simp only [insertSorted]
      split
      · rename_i hlt
        refine List.pairwise_cons.2 ⟨fun a ha => ?_, h⟩
        rcases List.mem_cons.1 ha with ha | ha
        · exact ha ▸ hlt
        · exact String.lt_trans hlt (hb a ha)
      · split
        · exact h
        · rename_i hlt hne
          refine List.pairwise_cons.2 ⟨fun a ha => ?_, ih hr⟩
          rcases mem_insertSorted.1 ha with ha | ha
          · rw [ha]
            exact Std.lt_of_le_of_ne (String.not_lt.1 hlt) fun e => hne e.symm
          · exact hb a ha

/-- The set without members. -/
def empty : NameSet := ⟨[], List.Pairwise.nil⟩

instance : EmptyCollection NameSet := ⟨empty⟩

instance : Inhabited NameSet := ⟨empty⟩

/-- The set with one more member. -/
def insert (s : NameSet) (name : String) : NameSet :=
  ⟨insertSorted name s.toList, ascending_insertSorted s.ascending⟩

/-- The set of the names in a list. -/
def ofList (names : List String) : NameSet := names.foldl insert ∅

instance : Membership String NameSet := ⟨fun s a => a ∈ s.toList⟩

instance (a : String) (s : NameSet) : Decidable (a ∈ s) :=
  inferInstanceAs (Decidable (a ∈ s.toList))

/-- Whether the set has no members. -/
def isEmpty (s : NameSet) : Bool := s.toList.isEmpty

/-- Whether every member of one set is a member of the other. -/
def subset (s t : NameSet) : Bool := s.toList.all fun a => decide (a ∈ t)

/-- The members of either set. -/
def union (s t : NameSet) : NameSet := t.toList.foldl insert s

/-- The members of the one set that are not members of the other. -/
def diff (s t : NameSet) : NameSet :=
  ⟨s.toList.filter fun a => decide (a ∉ t), s.ascending.filter _⟩

variable {s t : NameSet} {a name : String}

@[simp] theorem not_mem_empty : a ∉ (∅ : NameSet) := by
  intro h
  exact absurd h (List.not_mem_nil)

@[simp] theorem mem_insert : a ∈ s.insert name ↔ a = name ∨ a ∈ s := mem_insertSorted

theorem mem_foldl_insert {l : List String} : a ∈ l.foldl insert s ↔ a ∈ l ∨ a ∈ s := by
  induction l generalizing s with
  | nil => simp
  | cons b l ih =>
      simp only [List.foldl_cons, ih, mem_insert, List.mem_cons]
      constructor
      · rintro (h | h | h)
        · exact .inl (.inr h)
        · exact .inl (.inl h)
        · exact .inr h
      · rintro ((h | h) | h)
        · exact .inr (.inl h)
        · exact .inl h
        · exact .inr (.inr h)

@[simp] theorem mem_ofList {l : List String} : a ∈ ofList l ↔ a ∈ l := by
  simp [ofList, mem_foldl_insert]

@[simp] theorem mem_union : a ∈ s.union t ↔ a ∈ s ∨ a ∈ t := by
  simp only [union, mem_foldl_insert]
  exact or_comm

@[simp] theorem mem_diff : a ∈ s.diff t ↔ a ∈ s ∧ a ∉ t := by
  change a ∈ s.toList.filter _ ↔ _
  simp only [List.mem_filter, decide_eq_true_eq]
  exact Iff.rfl

/-- **The subset test decides inclusion.** -/
theorem subset_eq_true_iff : s.subset t = true ↔ ∀ a ∈ s, a ∈ t := by
  simp only [subset, List.all_eq_true, decide_eq_true_eq]
  exact Iff.rfl

end NameSet

end TestBench
