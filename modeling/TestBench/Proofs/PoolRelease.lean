import Mathlib.Data.List.Nodup
import TestBench.Fleet.Simulation
import TestBench.Fleet.Teardown
import TestBench.Proofs.PoolLedger

/-!
# What becomes of the targets that are built

Whoever builds a target owes its deletion. `Pool.released_iff_accepted` says how far a pool meets
this debt: the teardown passes exactly those targets to the deletion of their platforms that were
not refused when they were built, each once and in the order in which they were built, or lists them
as kept. So nothing leaks exactly if no target was refused, and `Pool.leak_of_short_platform` is a
run where one was.

One target is dismissed in four ways, the cases of `Pool.Dismissed`; a whole teardown follows by
induction on the targets.
-/

set_option autoImplicit false

namespace TestBench

namespace Pool

variable {p q : Pool} {start : Registry} {t : Target} {done done' : Teardown}

/-! ## One target -/

/-- What comes of dismissing one target. -/
inductive Dismissed (p : Pool) (done : Teardown) (t : Target) : Teardown → Pool → Prop where
  /-- Targets are kept. -/
  | kept (h : p.keep = true) : Dismissed p done t { done with kept := done.kept ++ [t.id] } p
  /-- No platform answers to the kind of the target. -/
  | orphaned (hk : p.keep = false) (hp : p.registry.provider? t.platform = none) :
      Dismissed p done t
        { done with failures := done.failures ++ [p.unknownPlatform t.platform] } p
  /-- The platform deletes the target. -/
  | deleted (hk : p.keep = false) (place : Nat) (provider : Provider)
      (hp : p.registry.provider? t.platform = some (place, provider))
      (h : provider.platform.deprovision provider.ledger t = .ok ()) :
      Dismissed p done t { done with deprovisioned := done.deprovisioned ++ [t.id] }
        { p with registry := p.registry.note place (.deprovision t true) }
  /-- The platform does not delete the target. -/
  | undeleted (hk : p.keep = false) (place : Nat) (provider : Provider) (reason : String)
      (hp : p.registry.provider? t.platform = some (place, provider))
      (h : provider.platform.deprovision provider.ledger t = .error reason) :
      Dismissed p done t { done with failures := done.failures ++ [.notDeprovisioned t.id reason] }
        { p with registry := p.registry.note place (.deprovision t false) }

theorem dismiss_of_keep (h : p.keep = true) :
    dismiss (done, p) t = ({ done with kept := done.kept ++ [t.id] }, p) := if_pos h

theorem dismiss_of_delete (h : p.keep = false) : dismiss (done, p) t = p.deprovision done t :=
  if_neg (by simp [h])

/-- **Dismissing a target has these outcomes only.** -/
theorem dismiss_dismissed (p : Pool) (done : Teardown) (t : Target) :
    Dismissed p done t (dismiss (done, p) t).1 (dismiss (done, p) t).2 := by
  cases hk : p.keep with
  | true =>
      rw [dismiss_of_keep hk]
      exact .kept hk
  | false =>
      rw [dismiss_of_delete hk]
      cases hp : p.registry.provider? t.platform with
      | none =>
          simp only [deprovision, hp]
          exact .orphaned hk hp
      | some found =>
          obtain ⟨place, provider⟩ := found
          cases hd : provider.platform.deprovision provider.ledger t with
          | ok done =>
              simp only [deprovision, hp, hd]
              exact .deleted hk place provider hp hd
          | error reason =>
              simp only [deprovision, hp, hd]
              exact .undeleted hk place provider reason hp hd

/-- Dismissing a target changes the ledgers at most. -/
theorem Dismissed.exists_registry (h : Dismissed p done t done' q) :
    ∃ registry, q = { p with registry := registry } := by
  cases h with
  | kept h => exact ⟨p.registry, rfl⟩
  | orphaned hk hp => exact ⟨p.registry, rfl⟩
  | deleted hk place provider hp h => exact ⟨_, rfl⟩
  | undeleted hk place provider reason hp h => exact ⟨_, rfl⟩

/-! ## A whole teardown -/

/-- **What is true of the emptied pool and what every dismissal keeps** is true after a teardown. -/
theorem teardown_induction {P : Pool → Prop} (p : Pool) (hempty : P { p with targets := [] })
    (hkeep : ∀ p q t done done', Dismissed p done t done' q → P p → P q) : P p.teardown.2 := by
  have hfold : ∀ (ts : List Target) (s : Teardown × Pool), P s.2 → P (ts.foldl dismiss s).2 := by
    intro ts
    induction ts with
    | nil =>
        intro s hs
        exact hs
    | cons t rest ih =>
        intro s hs
        apply ih
        exact hkeep _ _ t _ _ (dismiss_dismissed s.2 s.1 t) hs
  exact hfold p.targets (Teardown.none, { p with targets := [] }) hempty

/-- **A teardown takes all targets from the pool** and changes nothing else but the ledgers. -/
theorem teardown_exists_registry (p : Pool) :
    ∃ registry, p.teardown.2 = { p with targets := [], registry := registry } := by
  apply teardown_induction (P := fun q => ∃ registry, q = { p with
    targets := [], registry := registry })
  · exact ⟨p.registry, rfl⟩
  · rintro _ q t done done' hd ⟨first, rfl⟩
    obtain ⟨last, rfl⟩ := hd.exists_registry
    exact ⟨last, rfl⟩

/-- The platforms were asked to delete some targets, each its own ones in their order, and nothing
else was asked of them. -/
structure Swept (start : Registry) (ts : List Target) (p q : Pool) : Prop where
  /-- The platforms are those of the beginning. -/
  follows : start.Follows q.registry
  /-- Nothing is built. -/
  built : ∀ i, (q.registry.since start i).built = (p.registry.since start i).built
  /-- Each target is passed to its platform once. -/
  deletions : ∀ i, (q.registry.since start i).deletions.map (·.1) =
    (p.registry.since start i).deletions.map (·.1) ++
      ts.filter fun t => p.registry.place? t.platform == some i
  /-- Targets are still not kept. -/
  keep : q.keep = p.keep
  /-- No kind has lost its platform. -/
  provider : ∀ kind, (p.registry.provider? kind).isSome = true →
    (q.registry.provider? kind).isSome = true
  /-- The places are the same. -/
  place : ∀ kind, q.registry.place? kind = p.registry.place? kind

theorem Swept.note {place : Nat} {provider : Provider} (hf : start.Follows p.registry)
    (hp : p.registry.provider? t.platform = some (place, provider)) (answer : Bool) :
    Swept start [t] p { p with registry := p.registry.note place (.deprovision t answer) } := by
  have hplace : p.registry.place? t.platform = some place := (Registry.provider?_eq_some_iff.1 hp).1
  refine ⟨hf.note hp _, fun i => ?_, fun i => ?_, rfl,
    fun kind hk => Registry.isSome_provider?_note hk, fun kind => rfl⟩
  · rw [hf.since_note hp]
    split <;> simp
  · rw [hf.since_note hp]
    by_cases hi : place = i <;> simp [hi, hplace]

theorem Swept.trans {ts us : List Target} {m : Pool} (h : Swept start ts p q)
    (h' : Swept start us q m) : Swept start (ts ++ us) p m where
  follows := h'.follows
  built i := (h'.built i).trans (h.built i)
  deletions i := by
    rw [h'.deletions i, h.deletions i, List.filter_append, List.append_assoc]
    simp only [h.place]
  keep := h'.keep.trans h.keep
  provider kind hk := h'.provider kind (h.provider kind hk)
  place kind := (h'.place kind).trans (h.place kind)

/-- A target with a platform is passed to it, unless targets are kept. -/
theorem Dismissed.swept (h : Dismissed p done t done' q) (hf : start.Follows p.registry)
    (hk : p.keep = false) (hp : (p.registry.provider? t.platform).isSome = true) :
    Swept start [t] p q := by
  cases h with
  | kept h => exact absurd (hk.symm.trans h) Bool.false_ne_true
  | orphaned _ hn => simp [hn] at hp
  | deleted _ place provider hp h => exact Swept.note hf hp true
  | undeleted _ place provider reason hp h => exact Swept.note hf hp false

/-- **Every target is passed to its platform once**, in the order of the targets, whatever the
platforms answer. -/
theorem foldl_dismiss_swept (ts : List Target) (s : Teardown × Pool)
    (hf : start.Follows s.2.registry) (hk : s.2.keep = false)
    (hp : ∀ t ∈ ts, (s.2.registry.provider? t.platform).isSome = true) :
    Swept start ts s.2 (ts.foldl dismiss s).2 := by
  induction ts generalizing s with
  | nil => exact ⟨hf, fun _ => rfl, fun _ => by simp, rfl, fun _ h => h, fun _ => rfl⟩
  | cons t rest ih =>
      have hfirst : Swept start [t] s.2 (dismiss s t).2 :=
        (dismiss_dismissed s.2 s.1 t).swept hf hk (hp t List.mem_cons_self)
      have hrest := ih (dismiss s t) hfirst.follows (hfirst.keep.trans hk)
        fun u hu => hfirst.provider _ (hp u (List.mem_cons_of_mem _ hu))
      exact hfirst.trans hrest

/-- Kept targets are listed, and no platform is asked for anything. -/
theorem foldl_dismiss_of_keep (ts : List Target) (done : Teardown) (hk : p.keep = true) :
    ts.foldl dismiss (done, p) = ({ done with kept := done.kept ++ ts.map (·.id) }, p) := by
  induction ts generalizing done with
  | nil => simp
  | cons t rest ih =>
      rw [List.foldl_cons, dismiss_of_keep hk, ih]
      simp

/-! ## The debt -/

/-- Nothing leaks when a pool is used and torn down: every target that a platform has built since
the beginning was passed to its deletion exactly once; or, if targets are kept, every one is listed
as kept. -/
def LeaksNothing (registry : Registry) (keep : Bool) (ids : Nat → TargetId) (uses : List Use) :
    Prop :=
  let p := (empty registry keep ids).after uses
  if keep = true then p.teardown.1.kept = (List.range p.built).map ids
  else
    ∀ i, ∀ t ∈ (p.teardown.2.registry.since registry i).built,
      ((p.teardown.2.registry.since registry i).deletions.map (·.1.serial)).count t.serial = 1

/-- The targets in the pool are deleted where they were built. -/
theorem Accounted.deletions_teardown {refused : List Nat} (h : Accounted start refused p)
    (hk : p.keep = false) (i : Nat) :
    (p.teardown.2.registry.since start i).built = (p.registry.since start i).built ∧
    (p.teardown.2.registry.since start i).deletions.map (·.1.bare) =
      (p.registry.since start i).built.filter fun t => decide (t.serial ∉ refused) := by
  have hserved : ∀ t ∈ p.targets, (p.registry.provider? t.platform).isSome = true :=
    fun t ht => h.served t.bare (List.mem_map_of_mem ht)
  have hswept : Swept start p.targets { p with targets := [] } p.teardown.2 :=
    foldl_dismiss_swept p.targets (Teardown.none, { p with targets := [] }) h.recorded.follows hk
      hserved
  refine ⟨hswept.built i, ?_⟩
  -- up to here nothing was deleted, so all deletions are those of the teardown
  have hdeleted := congrArg (List.map Target.bare) (hswept.deletions i)
  simp only [h.recorded.undeleted i, List.map_nil, List.nil_append, List.map_map] at hdeleted
  calc (p.teardown.2.registry.since start i).deletions.map (·.1.bare)
      = (p.targets.filter fun t => p.registry.place? t.platform == some i).map Target.bare :=
        hdeleted
    _ = p.bare.filter fun t => p.registry.place? t.platform == some i := by
        rw [bare, List.filter_map]
        rfl
    _ = _ := (h.accepted i).symm

/-- Kept targets are listed by their identifiers. -/
theorem Accounted.kept_teardown {refused : List Nat} (h : Accounted start refused p)
    (hk : p.keep = true) :
    p.teardown.1.kept = ((List.range p.built).filter fun n => decide (n ∉ refused)).map p.ids ∧
    p.teardown.2.registry = p.registry := by
  have hall : p.teardown = ({ Teardown.none with kept := p.targets.map (·.id) },
      { p with targets := [] }) :=
    foldl_dismiss_of_keep p.targets Teardown.none hk
  refine ⟨?_, by rw [hall]⟩
  calc p.teardown.1.kept = p.bare.map (·.id) := by
        rw [hall, bare, List.map_map]
        rfl
    _ = p.bare.map fun t => p.ids t.serial := List.map_congr_left h.named
    _ = (p.bare.map (·.serial)).map p.ids := by rw [List.map_map]; rfl
    _ = _ := by rw [h.numbers]

/-- **Nothing leaks exactly if no target was built in vain.** -/
theorem leaksNothing_iff (registry : Registry) (keep : Bool) (ids : Nat → TargetId)
    (uses : List Use) :
    LeaksNothing registry keep ids uses ↔ (empty registry keep ids).refusals uses = [] := by
  have haccount := accounted_after registry keep ids uses
  have hgrown : Extends (empty registry keep ids) _ := extends_after _ uses
  have hids : ((empty registry keep ids).after uses).ids = ids := hgrown.ids
  cases keep with
  | true =>
      obtain ⟨hkept, -⟩ := haccount.kept_teardown hgrown.keep
      simp only [LeaksNothing, if_true, hkept, hids]
      constructor
      · -- as many targets are listed as were built, so none of their numbers was left out
        intro hall
        have hlen := congrArg List.length hall
        rw [List.length_map, List.length_map, List.length_filter_eq_length_iff] at hlen
        apply List.eq_nil_iff_forall_not_mem.2
        intro n hn
        have hnot := hlen n (List.mem_range.2 (haccount.refused_lt hn))
        exact of_decide_eq_true hnot hn
      · intro hnone
        rw [hnone, List.filter_eq_self.2 fun n _ => by simp]
  | false =>
      have hdeleted := haccount.deletions_teardown hgrown.keep
      simp only [LeaksNothing, Bool.false_eq_true, if_false, (hdeleted _).1]
      generalize (empty registry false ids).after uses = p at *
      -- the numbers of the targets that the platform at a place is asked to delete
      have hserials : ∀ i, (p.teardown.2.registry.since registry i).deletions.map (·.1.serial) =
          ((p.registry.since registry i).built.filter fun t =>
            decide (t.serial ∉ (empty registry false ids).refusals uses)).map (·.serial) := by
        intro i
        rw [← (hdeleted i).2, List.map_map]
        rfl
      simp only [hserials]
      constructor
      · -- a refused target was built and is not among the deleted ones
        intro hall
        apply List.eq_nil_iff_forall_not_mem.2
        intro n hn
        obtain ⟨i, t, ht, rfl⟩ := haccount.refusedBuilt n hn
        have hone := hall i t ht
        have hmem := List.count_pos_iff.1 (Nat.lt_of_lt_of_eq Nat.one_pos hone.symm)
        obtain ⟨u, hu, he⟩ := List.mem_map.1 hmem
        have hnot := (List.mem_filter.1 hu).2
        rw [he] at hnot
        exact of_decide_eq_true hnot hn
      · -- all targets are deleted, and their numbers tell them apart
        intro hnone i t ht
        have hnodup : ((p.registry.since registry i).built.map (·.serial)).Nodup :=
          (haccount.recorded.ascending i).imp Nat.ne_of_lt
        rw [hnone, List.filter_eq_self.2 fun u _ => by simp]
        exact List.count_eq_one_of_mem hnodup (List.mem_map_of_mem ht)

/-- **Exactly the accepted targets are released.** When a pool over any platforms is used in any way
and torn down, each platform is asked to delete the targets it has built and that were not refused,
each once and in their order; or, if targets are kept, those are listed and no platform is asked for
anything. So nothing leaks exactly if no target was built in vain. -/
theorem released_iff_accepted (registry : Registry) (keep : Bool) (ids : Nat → TargetId)
    (uses : List Use) :
    let p := (empty registry keep ids).after uses
    let refused := (empty registry keep ids).refusals uses
    (if keep = true then
      p.teardown.1.kept = ((List.range p.built).filter fun n => decide (n ∉ refused)).map ids ∧
        ∀ i, (p.teardown.2.registry.since registry i).deletions = []
    else
      ∀ i, (p.teardown.2.registry.since registry i).deletions.map (·.1.bare) =
        (p.teardown.2.registry.since registry i).built.filter
          fun t => decide (t.serial ∉ refused)) ∧
    (LeaksNothing registry keep ids uses ↔ refused = []) := by
  intro p refused
  have haccount : Accounted registry refused p := accounted_after registry keep ids uses
  have hgrown : Extends (empty registry keep ids) p := extends_after _ uses
  refine ⟨?_, leaksNothing_iff registry keep ids uses⟩
  cases keep with
  | true =>
      obtain ⟨hkept, hregistry⟩ := haccount.kept_teardown hgrown.keep
      rw [if_pos rfl]
      refine ⟨by rw [hkept, hgrown.ids]; rfl, fun i => ?_⟩
      rw [hregistry]
      exact haccount.recorded.undeleted i
  | false =>
      rw [if_neg Bool.false_ne_true]
      intro i
      obtain ⟨hbuilt, hdeleted⟩ := haccount.deletions_teardown hgrown.keep i
      rw [hbuilt]
      exact hdeleted

/-- A platform that cannot provide a feature builds a target without it, the pool refuses the
target, and nobody deletes it. -/
theorem leak_of_short_platform :
    let short : Simulation := { Simulation.basic "mock" with dropped := .ofList ["gpu"] }
    let registry := Registry.empty.register "mock" short.platform
    let uses : List Use := [.resolve ⟨"mock", [], .ofList ["gpu"]⟩]
    ¬ LeaksNothing registry false (fun n => ⟨BitVec.ofNat 128 n⟩) uses := by
  intro short registry uses hall
  have hrefused := (leaksNothing_iff registry false (fun n => ⟨BitVec.ofNat 128 n⟩) uses).1 hall
  exact absurd hrefused (by decide)

end Pool

end TestBench
