import TestBench.Proofs.PoolSteps

/-!
# What platforms were asked for

Every call to a platform is noted in its ledger, so what has become of a target can be read off the
ledgers. `Registry.since` is the part of a ledger that was written since an earlier time.

The main result of this module is an account of a pool in use, `Pool.Accounted`: which targets each
platform has built since the beginning, which of them are in the pool, and which were refused, since
they may not serve the request they were built for. `Pool.accounted_after` says that the account is
right in every pool that is reached by its use.
-/

set_option autoImplicit false

namespace TestBench

namespace Ledger

@[simp] theorem built_append (l m : Ledger) : built (l ++ m) = built l ++ built m :=
  List.filterMap_append

@[simp] theorem deletions_append (l m : Ledger) : deletions (l ++ m) = deletions l ++ deletions m :=
  List.filterMap_append

@[simp] theorem built_construct (parameters : Parameters) (features : NameSet) (t : Option Target) :
    built [.construct parameters features t] = t.toList := by
  cases t <;> rfl

@[simp] theorem deletions_construct (parameters : Parameters) (features : NameSet)
    (t : Option Target) : deletions [.construct parameters features t] = [] := rfl

@[simp] theorem built_deprovision (t : Target) (done : Bool) :
    built [.deprovision t done] = [] := rfl

@[simp] theorem deletions_deprovision (t : Target) (done : Bool) :
    deletions [.deprovision t done] = [(t, done)] := rfl

end Ledger

/-! ## Ledgers of a registry -/

namespace Registry

variable {g before now : Registry} {kind : String} {place : Nat} {provider : Provider}

/-- The calls made to the platform at a place. -/
def ledger (g : Registry) (place : Nat) : Ledger := ((g.providers[place]?).map (·.ledger)).getD []

theorem ledger_note (hp : g.provider? kind = some (place, provider)) (call : PlatformCall)
    (i : Nat) :
    (g.note place call).ledger i = if place = i then g.ledger i ++ [call] else g.ledger i := by
  have hprovider := (provider?_eq_some_iff.1 hp).2
  by_cases hi : place = i
  · subst hi
    simp [ledger, getElem?_providers_note, hprovider]
  · simp [ledger, getElem?_providers_note, hi]

/-- The calls made to the platform at a place since an earlier time. -/
def since (now before : Registry) (place : Nat) : Ledger :=
  (now.ledger place).drop (before.ledger place).length

@[simp] theorem since_self (g : Registry) (place : Nat) : g.since g place = [] := List.drop_length

/-- A registry comes from an earlier one by calls to its platforms. -/
structure Follows (before now : Registry) : Prop where
  /-- The same kinds are answered to, at the same places. -/
  places : now.places = before.places
  /-- No call is forgotten. -/
  ledger : ∀ i, before.ledger i <+: now.ledger i

theorem Follows.refl (g : Registry) : Follows g g := ⟨rfl, fun _ => List.prefix_rfl⟩

theorem Follows.note (h : Follows before now) (hp : now.provider? kind = some (place, provider))
    (call : PlatformCall) : Follows before (now.note place call) := by
  refine ⟨h.places, fun i => ?_⟩
  rw [ledger_note hp]
  split
  · exact (h.ledger i).trans (List.prefix_append _ _)
  · exact h.ledger i

/-- **A noted call is the latest one** at its place, and nothing else changes. -/
theorem Follows.since_note (h : Follows before now)
    (hp : now.provider? kind = some (place, provider)) (call : PlatformCall) (i : Nat) :
    (now.note place call).since before i =
      if place = i then now.since before i ++ [call] else now.since before i := by
  simp only [since, ledger_note hp]
  split
  · exact List.drop_append_of_le_length (h.ledger i).length_le
  · rfl

theorem Follows.built_note_construct (h : Follows before now)
    (hp : now.provider? kind = some (place, provider)) (parameters : Parameters)
    (features : NameSet) (t : Option Target) (i : Nat) :
    ((now.note place (.construct parameters features t)).since before i).built =
      (now.since before i).built ++ if place = i then t.toList else [] := by
  rw [h.since_note hp]
  split <;> simp

theorem Follows.deletions_note_construct (h : Follows before now)
    (hp : now.provider? kind = some (place, provider)) (parameters : Parameters)
    (features : NameSet) (t : Option Target) (i : Nat) :
    ((now.note place (.construct parameters features t)).since before i).deletions =
      (now.since before i).deletions := by
  rw [h.since_note hp]
  split <;> simp

end Registry

namespace Pool

variable {p q : Pool} {r : Request} {start : Registry} {refused : List Nat}
  {answer : Except Fault Nat} {place : Nat} {provider : Provider}

/-! ## Refused targets -/

/-- The number of the target that was built in vain while a request got an answer: the answer is a
fault, and yet a platform has built something. -/
def refusal (p q : Pool) : Except Fault Nat → List Nat
  | .ok _ => []
  | .error _ => if p.built < q.built then [p.built] else []

/-- The number of the target that is built in vain by one use. -/
def refusedBy (p : Pool) : Use → List Nat
  | .resolve r => refusal p (p.resolve r).2 (p.resolve r).1
  | .release _ => []

/-- The numbers of the targets that are built in vain by some uses, one after the other. -/
def refusals (p : Pool) : List Use → List Nat
  | [] => []
  | use :: rest => p.refusedBy use ++ (p.perform use).refusals rest

/-! ## The account -/

/-- What the ledgers say of the targets that were built since the beginning, when so many have been
built in all. -/
structure Recorded (start now : Registry) (built : Nat) : Prop where
  /-- The platforms are those of the beginning. -/
  follows : start.Follows now
  /-- No platform was asked to delete a target. -/
  undeleted : ∀ i, (now.since start i).deletions = []
  /-- The numbers of the targets that a platform has built ascend. -/
  ascending : ∀ i, ((now.since start i).built.map (·.serial)).Pairwise (· < ·)
  /-- They are below the number of all targets. -/
  below : ∀ i, ∀ t ∈ (now.since start i).built, t.serial < built

/-- The account of a pool: what has become of every target that was built since the beginning. -/
structure Accounted (start : Registry) (refused : List Nat) (p : Pool) : Prop where
  /-- The ledgers are in order. -/
  recorded : Recorded start p.registry p.built
  /-- A refused target was built by a platform. -/
  refusedBuilt : ∀ n ∈ refused, ∃ i, ∃ t ∈ (p.registry.since start i).built, t.serial = n
  /-- What a platform has built is in the pool, in the same order, unless it was refused. -/
  accepted : ∀ i, (p.registry.since start i).built.filter (fun t => decide (t.serial ∉ refused)) =
    p.bare.filter fun t => p.registry.place? t.platform == some i
  /-- The pool has every target that was built and not refused. -/
  numbers : p.bare.map (·.serial) = (List.range p.built).filter fun n => decide (n ∉ refused)
  /-- The platform of a target in the pool is registered. -/
  served : ∀ t ∈ p.bare, (p.registry.provider? t.platform).isSome = true
  /-- The targets have the identifiers that were meant for them. -/
  named : ∀ t ∈ p.bare, t.id = p.ids t.serial

theorem accounted_empty (registry : Registry) (keep : Bool) (ids : Nat → TargetId) :
    Accounted registry [] (empty registry keep ids) where
  recorded :=
    { follows := Registry.Follows.refl registry
      undeleted := fun _ => by simp [empty, Ledger.deletions]
      ascending := fun _ => by simp [empty, Ledger.built]
      below := fun _ => by simp [empty, Ledger.built] }
  refusedBuilt _ hn := absurd hn List.not_mem_nil
  accepted _ := by simp [empty, Ledger.built, Pool.bare]
  numbers := rfl
  served _ ht := absurd ht List.not_mem_nil
  named _ ht := absurd ht List.not_mem_nil

theorem Recorded.failed {now : Registry} {built : Nat} (h : Recorded start now built)
    (hp : now.provider? r.platform = some (place, provider)) :
    Recorded start (now.note place (.construct r.parameters r.required none)) built := by
  have hbuilt := h.follows.built_note_construct hp r.parameters r.required none
  simp only [Option.toList_none, ite_self, List.append_nil] at hbuilt
  refine ⟨h.follows.note hp _, fun i => ?_, fun i => ?_, fun i => ?_⟩
  · rw [h.follows.deletions_note_construct hp]
    exact h.undeleted i
  · rw [hbuilt]
    exact h.ascending i
  · rw [hbuilt]
    exact h.below i

theorem Recorded.constructed {now : Registry} {built : Nat} {t : Target}
    (h : Recorded start now built) (hp : now.provider? r.platform = some (place, provider))
    (ht : t.serial = built) :
    Recorded start (now.note place (.construct r.parameters r.required (some t))) (built + 1) := by
  have hbuilt := h.follows.built_note_construct hp r.parameters r.required (some t)
  refine ⟨h.follows.note hp _, fun i => ?_, fun i => ?_, fun i => ?_⟩
  · rw [h.follows.deletions_note_construct hp]
    exact h.undeleted i
  · rw [hbuilt, List.map_append, List.pairwise_append]
    refine ⟨h.ascending i, by split <;> simp, fun a ha b hb => ?_⟩
    obtain ⟨u, hu, rfl⟩ := List.mem_map.1 ha
    -- the new target is the latest in the ledger of its platform, and no other ledger has it
    have hb : b = t.serial := by
      split at hb
      · simpa using hb
      · simp at hb
    rw [hb, ht]
    exact h.below i u hu
  · intro u hu
    rw [hbuilt, List.mem_append] at hu
    rcases hu with hu | hu
    · exact Nat.lt_succ_of_lt (h.below i u hu)
    · have hu : u = t := by
        split at hu
        · simpa using hu
        · simp at hu
      rw [hu, ht]
      exact Nat.lt_succ_self built

/-- A number that is above all others is not missed among them. -/
theorem filter_notMem_concat {α : Type} {f : α → Nat} {l : List α} {n : Nat} (refused : List Nat)
    (h : ∀ a ∈ l, f a < n) :
    l.filter (fun a => decide (f a ∉ refused ++ [n])) =
      l.filter fun a => decide (f a ∉ refused) := by
  refine List.filter_congr fun a ha => ?_
  have hne : f a ≠ n := Nat.ne_of_lt (h a ha)
  simp [hne]

namespace Accounted

theorem refused_lt (h : Accounted start refused p) {n : Nat} (hn : n ∈ refused) : n < p.built := by
  obtain ⟨i, t, ht, rfl⟩ := h.refusedBuilt n hn
  exact h.recorded.below i t ht

theorem mapConnection (h : Accounted start refused p) (serial : Nat) (f : Connection → Connection) :
    Accounted start refused (p.mapConnection serial f) where
  recorded := h.recorded
  refusedBuilt := h.refusedBuilt
  accepted i := by rw [bare_mapConnection]; exact h.accepted i
  numbers := by rw [bare_mapConnection]; exact h.numbers
  served t ht := h.served t (by rwa [bare_mapConnection] at ht)
  named t ht := h.named t (by rwa [bare_mapConnection] at ht)

/-- The account is right after a target was built, or not built, for a request. -/
theorem built (h : Accounted start refused p)
    (hp : p.registry.provider? r.platform = some (place, provider))
    (hb : Built p r place provider answer q) :
    Accounted start (refused ++ refusal p q answer) q := by
  cases hb with
  | failed reason hc =>
      have hbuilt := h.recorded.follows.built_note_construct hp r.parameters r.required none
      simp only [Option.toList_none, ite_self, List.append_nil] at hbuilt
      simp only [refusal, Nat.lt_irrefl, if_false, List.append_nil]
      refine ⟨h.recorded.failed hp, fun n hn => ?_, fun i => ?_, h.numbers,
        fun t ht => Registry.isSome_provider?_note (h.served t ht), h.named⟩
      · obtain ⟨i, hi⟩ := h.refusedBuilt n hn
        exact ⟨i, by rw [hbuilt]; exact hi⟩
      · rw [hbuilt]
        exact h.accepted i
  | refused t reason hbare hserial hid hr =>
      have hbuilt := h.recorded.follows.built_note_construct hp r.parameters r.required (some t)
      simp only [refusal, Nat.lt_succ_self, if_true]
      refine ⟨h.recorded.constructed hp hserial, fun n hn => ?_, fun i => ?_, ?_,
        fun u hu => Registry.isSome_provider?_note (h.served u hu), h.named⟩
      · rcases List.mem_append.1 hn with hn | hn
        · obtain ⟨i, u, hu, he⟩ := h.refusedBuilt n hn
          exact ⟨i, u, by rw [hbuilt]; exact List.mem_append_left _ hu, he⟩
        · refine ⟨place, t, by rw [hbuilt, if_pos rfl]; simp, ?_⟩
          rw [hserial, List.mem_singleton.1 hn]
      · -- the refused target is left out, and no earlier one has its number
        have hold := filter_notMem_concat refused (h.recorded.below i)
        have hnew : (if place = i then (some t).toList else []).filter
            (fun u => decide (u.serial ∉ refused ++ [p.built])) = [] := by
          split <;> simp [hserial]
        rw [hbuilt, List.filter_append, hold, hnew, List.append_nil]
        exact h.accepted i
      · have hold := filter_notMem_concat (f := fun n => n) refused
          (fun n (hn : n ∈ List.range p.built) => List.mem_range.1 hn)
        have hnew : [p.built].filter (fun n => decide (n ∉ refused ++ [p.built])) = [] := by simp
        rw [List.range_succ, List.filter_append, hold, hnew, List.append_nil]
        exact h.numbers
  | created t hbare hserial hid hr =>
      have hbuilt := h.recorded.follows.built_note_construct hp r.parameters r.required (some t)
      -- refused numbers are below the number of targets built, so the new one is not among them
      have hnotrefused : p.built ∉ refused := fun hn => Nat.lt_irrefl _ (h.refused_lt hn)
      have hfresh : t.serial ∉ refused := hserial ▸ hnotrefused
      have hplatform : t.platform = r.platform := Target.platform_of_satisfies hr
      have hplace : p.registry.place? t.platform = some place :=
        hplatform ▸ (Registry.provider?_eq_some_iff.1 hp).1
      have hgrown := bare_concat p
        (p.registry.note place (.construct r.parameters r.required (some t))) (p.built + 1) hbare
      simp only [refusal, List.append_nil]
      refine ⟨h.recorded.constructed hp hserial, fun n hn => ?_, fun i => ?_, ?_, fun u hu => ?_,
        fun u hu => ?_⟩
      · obtain ⟨i, u, hu, he⟩ := h.refusedBuilt n hn
        exact ⟨i, u, by rw [hbuilt]; exact List.mem_append_left _ hu, he⟩
      · -- the target is at the place of its platform in the ledgers and in the pool
        have hnew : (if place = i then (some t).toList else []).filter
            (fun u => decide (u.serial ∉ refused)) =
              [t].filter fun u => p.registry.place? u.platform == some i := by
          by_cases hi : place = i <;> simp [hi, hfresh, hplace]
        rw [hbuilt, List.filter_append, h.accepted i, hnew, hgrown, List.filter_append]
        rfl
      · rw [hgrown, List.map_append, List.range_succ, List.filter_append, ← h.numbers]
        simp [hserial, hnotrefused]
      · rw [hgrown] at hu
        rcases List.mem_append.1 hu with hu | hu
        · exact Registry.isSome_provider?_note (h.served u hu)
        · rw [List.mem_singleton.1 hu, hplatform]
          exact Registry.isSome_provider?_note (by rw [hp]; rfl)
      · rw [hgrown] at hu
        rcases List.mem_append.1 hu with hu | hu
        · exact h.named u hu
        · rw [List.mem_singleton.1 hu, hid, hserial]

/-- The account is right after a request was answered. -/
theorem answered (h : Accounted start refused p) (ha : Answered p r answer q) :
    Accounted start (refused ++ refusal p q answer) q := by
  cases ha with
  | unknown hp =>
      simp only [refusal, Nat.lt_irrefl, if_false, List.append_nil]
      exact h
  | reused serial hp hs =>
      simp only [refusal, List.append_nil]
      exact h.mapConnection serial .opening
  | built place provider _ _ hp hs hb => exact h.built hp hb

theorem perform (h : Accounted start refused p) (use : Use) :
    Accounted start (refused ++ p.refusedBy use) (p.perform use) := by
  cases use with
  | resolve r => exact h.answered (resolve_answered p r)
  | release serial =>
      rw [refusedBy, List.append_nil]
      exact h.mapConnection serial .closing

/-- **The account is right in every pool that is reached by its use.** -/
theorem after (h : Accounted start refused p) (uses : List Use) :
    Accounted start (refused ++ p.refusals uses) (p.after uses) := by
  induction uses generalizing p refused with
  | nil =>
      rw [refusals, List.append_nil]
      exact h
  | cons use rest ih =>
      rw [refusals, ← List.append_assoc]
      exact ih (h.perform use)

end Accounted

/-- The account of a pool that was empty in the beginning. -/
theorem accounted_after (registry : Registry) (keep : Bool) (ids : Nat → TargetId)
    (uses : List Use) :
    Accounted registry ((empty registry keep ids).refusals uses)
      ((empty registry keep ids).after uses) :=
  (accounted_empty registry keep ids).after uses

end Pool

end TestBench
