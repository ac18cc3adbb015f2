import Mathlib.Data.List.Induction
import TestBench.Fleet.Simulation
import TestBench.Proofs.PoolSteps

/-!
# Platforms that build what they are asked for

A platform may build anything. One that is not short of anything and does not fail builds a target
of its own kind with just the parameters and features that it is asked for: that is
`Platform.BuildsAsAsked`, and `Registry.BuildsAsAsked` says it of all platforms of a registry, each
under the kind that it answers to.

`Registry.simulated` registers simulated platforms under their own kinds, and
`Registry.buildsAsAsked_simulated` says that all of them are of this sort.
-/

set_option autoImplicit false

namespace TestBench

/-! ## One platform -/

/-- The platform builds, whatever it was asked before, a target of a kind with just the parameters
and features that it is asked for. -/
def Platform.BuildsAsAsked (p : Platform) (kind : String) : Prop :=
  ∀ ledger parameters features, ∃ handle,
    p.construct ledger parameters features = .ok ⟨kind, parameters, features, handle⟩

theorem NameSet.diff_empty (s : NameSet) : s.diff ∅ = s := by
  obtain ⟨names, ascending⟩ := s
  simp only [diff, NameSet.mk.injEq]
  exact List.filter_eq_self.2 fun a _ => decide_eq_true NameSet.not_mem_empty

/-- The simulation that does what it is asked is such a platform. -/
theorem Simulation.basic_buildsAsAsked (kind : String) :
    (Simulation.basic kind).platform.BuildsAsAsked kind := by
  intro ledger parameters features
  have hmissing : (Simulation.basic kind).missing? features = none :=
    List.find?_eq_none.2 fun f _ => by simp [Simulation.basic]
  have hfeatures : (features.union ∅).diff ∅ = features := NameSet.diff_empty features
  refine ⟨Simulation.handle ledger.built.length, ?_⟩
  simp only [platform, construct, hmissing]
  simp [Simulation.basic, hfeatures]

/-! ## All platforms of a registry -/

namespace Registry

variable {g : Registry} {kind k : String} {place : Nat} {platform : Platform}

/-- Every platform builds what it is asked for, under the kind that it answers to. -/
def BuildsAsAsked (g : Registry) : Prop :=
  ∀ kind place provider, g.provider? kind = some (place, provider) →
    provider.platform.BuildsAsAsked kind

/-- Noting a call changes no platform. -/
theorem BuildsAsAsked.note (h : g.BuildsAsAsked) (place : Nat) (call : PlatformCall) :
    (g.note place call).BuildsAsAsked := by
  intro kind i provider hp
  obtain ⟨hplace, hprovider⟩ := provider?_eq_some_iff.1 hp
  obtain ⟨before, hbefore, hsame⟩ := exists_of_providers_note hprovider
  rw [← hsame]
  exact h kind i before (provider?_eq_some_iff.2 ⟨hplace, hbefore⟩)

/-- Only the kind that is set gets another place. -/
theorem find?_setPlace (kind : String) (place : Nat) (l : List (String × Nat)) (k : String) :
    (setPlace kind place l).find? (fun p => p.1 == k) =
      if kind = k then some (kind, place) else l.find? fun p => p.1 == k := by
  induction l with
  | nil => by_cases hk : kind = k <;> simp [setPlace, hk]
  | cons e rest ih =>
      obtain ⟨name, n⟩ := e
      simp only [setPlace]
      split
      · by_cases hk : kind = k <;> simp [hk]
      · split
        · next heq => by_cases hk : kind = k <;> simp [← heq, hk]
        · next hne =>
            -- the entry stays, and it is of another kind than the one that is set
            rw [List.find?_cons, List.find?_cons, ih]
            by_cases hk : kind = k
            · have hname : (name == k) = false := by simpa using fun h => hne (hk.trans h.symm)
              simp only [hname, hk, if_true]
            · simp only [hk, if_false]

/-- The simulated platforms of some kinds, each registered under its own kind. -/
def simulated (kinds : List String) : Registry :=
  kinds.foldl (fun g kind => g.register kind (Simulation.basic kind).platform) ∅

/-- Every place is that of a platform. -/
def Complete (g : Registry) : Prop := ∀ entry ∈ g.places, entry.2 < g.providers.length

theorem mem_setPlace {entry : String × Nat} {l : List (String × Nat)}
    (h : entry ∈ setPlace kind place l) : entry = (kind, place) ∨ entry ∈ l := by
  induction l with
  | nil => exact .inl (List.mem_singleton.1 h)
  | cons e rest ih =>
      simp only [setPlace] at h
      split at h
      · rcases List.mem_cons.1 h with h | h
        · exact .inl h
        · exact .inr h
      · split at h
        · rcases List.mem_cons.1 h with h | h
          · exact .inl h
          · exact .inr (List.mem_cons_of_mem _ h)
        · rcases List.mem_cons.1 h with h | h
          · exact .inr (h ▸ List.mem_cons_self)
          · exact (ih h).imp_right (List.mem_cons_of_mem _)

theorem Complete.register (h : g.Complete) (kind : String) (platform : Platform) :
    (g.register kind platform).Complete := by
  intro entry he
  have hlength : (g.register kind platform).providers.length = g.providers.length + 1 := by
    simp [Registry.register, assign]
  rw [hlength]
  rcases mem_setPlace he with rfl | he
  · exact Nat.lt_succ_self _
  · exact Nat.lt_succ_of_lt (h entry he)

/-- A registered platform answers to its kind, and the others to theirs. -/
theorem provider?_register (h : g.Complete) (kind : String) (platform : Platform) (k : String) :
    (g.register kind platform).provider? k =
      if kind = k then some (g.providers.length, ⟨platform, []⟩) else g.provider? k := by
  simp only [provider?, Registry.register, assign, find?_setPlace]
  by_cases hk : kind = k
  · simp [hk]
  · simp only [hk, if_false]
    cases hf : g.places.find? fun p => p.1 == k with
    | none => rfl
    | some entry =>
        have hlt := h entry (List.mem_of_find?_eq_some hf)
        simp [List.getElem?_append_left hlt]

theorem BuildsAsAsked.register (h : g.BuildsAsAsked) (hg : g.Complete)
    (hp : platform.BuildsAsAsked kind) : (g.register kind platform).BuildsAsAsked := by
  intro k place provider hprovider
  rw [provider?_register hg] at hprovider
  split at hprovider
  · next hk =>
      cases hprovider
      exact hk ▸ hp
  · exact h k place provider hprovider

/-- **Simulated platforms under their own kinds build what they are asked for**, and they answer to
those kinds and no others. -/
theorem buildsAsAsked_simulated (kinds : List String) :
    (simulated kinds).BuildsAsAsked ∧
      ∀ kind, (simulated kinds).contains kind = true ↔ kind ∈ kinds := by
  have hrun : (simulated kinds).Complete ∧ (simulated kinds).BuildsAsAsked ∧
      ∀ kind, (simulated kinds).contains kind = true ↔ kind ∈ kinds := by
    induction kinds using List.reverseRecOn with
    | nil =>
        refine ⟨fun entry he => absurd he List.not_mem_nil, fun kind place provider hp => ?_,
          fun kind => ?_⟩
        · cases hp
        · exact ⟨fun hc => absurd hc Bool.false_ne_true, fun hk => absurd hk List.not_mem_nil⟩
    | append_singleton kinds kind ih =>
        obtain ⟨hcomplete, hasked, hcontains⟩ := ih
        have hlast : simulated (kinds ++ [kind]) =
            (simulated kinds).register kind (Simulation.basic kind).platform := by
          simp [simulated, List.foldl_append]
        rw [hlast]
        refine ⟨hcomplete.register _ _,
          hasked.register hcomplete (Simulation.basic_buildsAsAsked kind), fun k => ?_⟩
        rw [contains, provider?_register hcomplete, List.mem_append, List.mem_singleton,
          ← hcontains k]
        by_cases hk : kind = k
        · simp [hk]
        · simp [hk, Ne.symm hk, contains]
  exact hrun.2

end Registry

end TestBench
