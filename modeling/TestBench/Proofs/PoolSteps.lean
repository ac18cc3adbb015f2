import TestBench.Fleet.Resolution
import TestBench.Proofs.JsonEquality

/-!
# What resolving a request does to a pool

`Pool.resolve` looks for a platform, scans the targets and, if none of them may serve the request,
builds one. This module says once what can come of it: `Pool.Answered` has one case for each way
out, with everything that is known there, and `Pool.resolve_answered` is the only place where the
definition is opened. `Pool.Built` does the same for the part that builds a target, which
resolutions at the same time share.

Two things are carried through every step. Serial numbers ascend in the pool, so that a lease stands
for one target (`Pool.Numbered`), and a pool only ever grows: no target leaves it, moves or changes
but for its connection, and no kind loses its platform (`Pool.Extends`).
-/

set_option autoImplicit false

namespace TestBench

/-- The target as it was built, whatever has happened on its connection since. -/
def Target.bare (t : Target) : Target := t.mapConnection fun _ => .unused

namespace Target

@[simp] theorem bare_mapConnection (t : Target) (f : Connection → Connection) :
    (t.mapConnection f).bare = t.bare := rfl

@[simp] theorem bare_serial (t : Target) : t.bare.serial = t.serial := rfl

end Target

/-! ## Requests that ask for no more -/

/-- One request asks for no more than another: the same platform, equal parameters, and only
capabilities that the other one requires. -/
structure Request.Le (s r : Request) : Prop where
  /-- The same platform. -/
  platform : s.platform = r.platform
  /-- Equal parameters. -/
  parameters : Json.sameFields s.parameters r.parameters = true
  /-- No further capabilities. -/
  required : s.required.subset r.required = true

/-- **A target that serves a request serves every request that asks for no more.** -/
theorem Target.satisfies_of_le {t : Target} {r s : Request} (h : t.satisfies r = true)
    (hle : Request.Le s r) : t.satisfies s = true := by
  simp only [satisfies, Bool.and_eq_true, beq_iff_eq] at h ⊢
  refine ⟨⟨h.1.1.trans hle.platform.symm, ?_⟩, ?_⟩
  · exact Json.sameFields_trans h.1.2 (Json.sameFields_symm hle.parameters)
  · have hr := NameSet.subset_eq_true_iff.1 hle.required
    have ht := NameSet.subset_eq_true_iff.1 h.2
    exact NameSet.subset_eq_true_iff.2 fun a ha => ht a (hr a ha)

theorem Target.platform_of_satisfies {t : Target} {r : Request} (h : t.satisfies r = true) :
    t.platform = r.platform := by
  simp only [satisfies, Bool.and_eq_true, beq_iff_eq] at h
  exact h.1.1

/-! ## Noting calls -/

namespace Registry

/-- The place of the platform that answers to a kind. -/
def place? (g : Registry) (kind : String) : Option Nat :=
  (g.places.find? fun p => p.1 == kind).map (·.2)

theorem provider?_eq_some_iff {g : Registry} {kind : String} {place : Nat} {provider : Provider} :
    g.provider? kind = some (place, provider) ↔
      g.place? kind = some place ∧ g.providers[place]? = some provider := by
  simp only [provider?, place?, Option.bind_eq_bind, Option.bind_eq_some_iff,
    Option.map_eq_some_iff, Option.pure_def, Option.some.injEq, Prod.mk.injEq]
  constructor
  · rintro ⟨entry, he, provider', hp, rfl, rfl⟩
    exact ⟨⟨entry, he, rfl⟩, hp⟩
  · rintro ⟨⟨entry, he, rfl⟩, hp⟩
    exact ⟨entry, he, provider, hp, rfl, rfl⟩

theorem getElem?_providers_note (g : Registry) (place i : Nat) (call : PlatformCall) :
    (g.note place call).providers[i]? =
      (g.providers[i]?).map fun v =>
        if place = i then { v with ledger := v.ledger ++ [call] } else v := by
  simp only [note, List.getElem?_modify]
  split <;> simp

/-- Noting a call changes no platform. -/
theorem platform_providers_note (g : Registry) (place i : Nat) (call : PlatformCall) :
    ((g.note place call).providers[i]?).map (·.platform) = (g.providers[i]?).map (·.platform) := by
  rw [getElem?_providers_note, Option.map_map]
  apply congrArg (Option.map · g.providers[i]?)
  funext v
  rw [Function.comp]
  split
  · rfl
  · rfl

/-- Whoever is registered after a call was registered before it, with the same platform. -/
theorem exists_of_providers_note {g : Registry} {place i : Nat} {call : PlatformCall}
    {provider : Provider} (h : (g.note place call).providers[i]? = some provider) :
    ∃ before, g.providers[i]? = some before ∧ before.platform = provider.platform := by
  have hsame := platform_providers_note g place i call
  rw [h, Option.map_some] at hsame
  exact Option.map_eq_some_iff.1 hsame.symm

/-- **Noting a call takes no platform away.** -/
theorem isSome_provider?_note {g : Registry} {place : Nat} {call : PlatformCall} {kind : String}
    (h : (g.provider? kind).isSome = true) :
    ((g.note place call).provider? kind).isSome = true := by
  obtain ⟨⟨i, provider⟩, hp⟩ := Option.isSome_iff_exists.1 h
  obtain ⟨hplace, hprovider⟩ := provider?_eq_some_iff.1 hp
  have hnoted := getElem?_providers_note g place i call
  rw [hprovider, Option.map_some] at hnoted
  exact Option.isSome_iff_exists.2 ⟨_, provider?_eq_some_iff.2 ⟨hplace, hnoted⟩⟩

end Registry

namespace Pool

variable {p q : Pool} {r s : Request} {t : Target} {serial place : Nat} {provider : Provider}
  {answer : Except Fault Nat}

/-! ## Targets without their connections -/

/-- The targets of the pool as they were built. -/
def bare (p : Pool) : List Target := p.targets.map Target.bare

@[simp] theorem bare_mapConnection (p : Pool) (serial : Nat) (f : Connection → Connection) :
    (p.mapConnection serial f).bare = p.bare := by
  simp only [bare, mapConnection, List.map_map]
  refine List.map_congr_left fun t _ => ?_
  simp only [Function.comp]
  split <;> rfl

@[simp] theorem bare_lease (p : Pool) (serial : Nat) : (p.lease serial).bare = p.bare :=
  bare_mapConnection p serial .opening

/-- The scan does not look at connections. -/
theorem scan_eq_bare (p : Pool) (r : Request) :
    p.scan r = (p.bare.find? fun t => t.satisfies r).map (·.serial) := by
  simp only [scan, bare, List.find?_map, Option.map_map]
  rfl

/-- An appended target is the last one. -/
theorem bare_concat (p : Pool) (registry : Registry) (built : Nat) {t : Target} (h : t.bare = t) :
    { p with
      registry := registry
      built := built
      targets := p.targets ++ [t.mapConnection .opening] : Pool }.bare = p.bare ++ [t] := by
  simp [bare, h]

theorem map_serial_bare (p : Pool) : p.bare.map (·.serial) = p.targets.map (·.serial) := by
  simp only [bare, List.map_map]
  rfl

theorem scan_eq_none_iff : p.scan r = none ↔ ∀ t ∈ p.targets, t.satisfies r = false := by
  simp [scan]

/-! ## Building a target -/

/-- The target that the platform describes when it is asked for one, with the next number and the
identifier that goes with it. -/
def Made (p : Pool) (r : Request) (provider : Provider) (t : Target) : Prop :=
  ∃ blueprint, provider.platform.construct provider.ledger r.parameters r.required = .ok blueprint ∧
    t = blueprint.target p.built (p.ids p.built)

/-- What comes of building a target for a request with the platform at a place. -/
inductive Built (p : Pool) (r : Request) (place : Nat) (provider : Provider) :
    Except Fault Nat → Pool → Prop where
  /-- The platform builds nothing. -/
  | failed (reason : String)
      (h : provider.platform.construct provider.ledger r.parameters r.required = .error reason) :
      Built p r place provider (.error (.notConstructed r.platform reason))
        { p with registry := p.registry.note place (.construct r.parameters r.required none) }
  /-- The platform builds something that may not serve the request. -/
  | refused (t : Target) (reason : String) (hbare : t.bare = t) (hserial : t.serial = p.built)
      (hid : t.id = p.ids p.built) (h : t.satisfies r = false) (hmade : Made p r provider t) :
      Built p r place provider (.error (.notConstructed r.platform reason))
        { p with
          registry := p.registry.note place (.construct r.parameters r.required (some t))
          built := p.built + 1 }
  /-- The platform builds a target that serves the request. -/
  | created (t : Target) (hbare : t.bare = t) (hserial : t.serial = p.built)
      (hid : t.id = p.ids p.built) (h : t.satisfies r = true) (hmade : Made p r provider t) :
      Built p r place provider (.ok t.serial)
        { p with
          registry := p.registry.note place (.construct r.parameters r.required (some t))
          built := p.built + 1
          targets := p.targets ++ [t.mapConnection .opening] }

/-- **Building has these outcomes only.** -/
theorem build_built (p : Pool) (r : Request) (place : Nat) (provider : Provider) :
    Built p r place provider (p.build r place provider).1 (p.build r place provider).2 := by
  cases hc : provider.platform.construct provider.ledger r.parameters r.required with
  | error reason =>
      simp only [build, hc]
      exact .failed reason hc
  | ok blueprint =>
      simp only [build, hc, append]
      cases hs : (blueprint.target p.built (p.ids p.built)).satisfies r with
      | true => exact .created _ rfl rfl rfl hs ⟨blueprint, hc, rfl⟩
      | false => exact .refused _ _ rfl rfl rfl hs ⟨blueprint, hc, rfl⟩

/-- Building does not touch the slots. -/
theorem Built.slots_eq (h : Built p r place provider answer q) : q.slots = p.slots := by
  cases h with
  | failed reason hc => rfl
  | refused t reason hbare hserial hid hs => rfl
  | created t hbare hserial hid hs => rfl

/-! ## Resolving a request -/

/-- What comes of resolving a request while nobody else is resolving. -/
inductive Answered (p : Pool) (r : Request) : Except Fault Nat → Pool → Prop where
  /-- No platform answers to the kind. -/
  | unknown (h : p.registry.provider? r.platform = none) :
      Answered p r (.error (p.unknownPlatform r.platform)) p
  /-- The first target that may serve the request is leased. -/
  | reused (serial : Nat) (hp : (p.registry.provider? r.platform).isSome = true)
      (h : p.scan r = some serial) : Answered p r (.ok serial) (p.lease serial)
  /-- No target may serve the request, and a platform is asked to build one. -/
  | built (place : Nat) (provider : Provider) (answer : Except Fault Nat) (q : Pool)
      (hp : p.registry.provider? r.platform = some (place, provider)) (hs : p.scan r = none)
      (h : Built p r place provider answer q) : Answered p r answer q

/-- **Resolving a request has these outcomes only.** -/
theorem resolve_answered (p : Pool) (r : Request) :
    Answered p r (p.resolve r).1 (p.resolve r).2 := by
  cases hp : p.registry.provider? r.platform with
  | none =>
      simp only [resolve, hp]
      exact .unknown hp
  | some found =>
      obtain ⟨place, provider⟩ := found
      cases hs : p.scan r with
      | some serial =>
          simp only [resolve, hp, hs]
          exact .reused serial (by rw [hp]; rfl) hs
      | none =>
          simp only [resolve, hp, hs]
          exact .built place provider _ _ hp hs (build_built p r place provider)

/-- Whoever resolves alone leaves the slots as they are. -/
theorem Answered.slots_eq (h : Answered p r answer q) : q.slots = p.slots := by
  cases h with
  | unknown hp => rfl
  | reused serial hp hs => rfl
  | built place provider _ _ hp hs hb => exact hb.slots_eq

/-- A request that a target in the pool may serve is answered by the first such target, and nothing
is built. -/
theorem resolve_of_scan (hp : (p.registry.provider? r.platform).isSome = true)
    (hs : p.scan r = some serial) : p.resolve r = (.ok serial, p.lease serial) := by
  obtain ⟨⟨place, provider⟩, hp⟩ := Option.isSome_iff_exists.1 hp
  simp only [resolve, hp, hs]

/-! ## Serial numbers -/

/-- The serial numbers of the targets ascend, and they are below the number of targets built. -/
structure Numbered (p : Pool) : Prop where
  /-- In the order in which the targets were built. -/
  ascending : (p.targets.map (·.serial)).Pairwise (· < ·)
  /-- The next target gets a greater number. -/
  lt_built : ∀ t ∈ p.targets, t.serial < p.built

theorem numbered_empty (registry : Registry) (keep : Bool) (ids : Nat → TargetId) :
    Numbered (empty registry keep ids) :=
  ⟨List.Pairwise.nil, fun _ h => absurd h List.not_mem_nil⟩

theorem map_serial_mapConnection (p : Pool) (serial : Nat) (f : Connection → Connection) :
    (p.mapConnection serial f).targets.map (·.serial) = p.targets.map (·.serial) := by
  rw [← map_serial_bare, bare_mapConnection, map_serial_bare]

theorem Numbered.mapConnection (h : Numbered p) (serial : Nat) (f : Connection → Connection) :
    Numbered (p.mapConnection serial f) := by
  refine ⟨by rw [map_serial_mapConnection]; exact h.ascending, fun t ht => ?_⟩
  have hs := List.mem_map_of_mem (f := fun t : Target => t.serial) ht
  rw [map_serial_mapConnection] at hs
  obtain ⟨u, hu, he⟩ := List.mem_map.1 hs
  exact he ▸ h.lt_built u hu

theorem Numbered.built (h : Numbered p) (hb : Built p r place provider answer q) : Numbered q := by
  cases hb with
  | failed reason hc => exact ⟨h.ascending, h.lt_built⟩
  | refused t reason hbare hserial hid hs =>
      exact ⟨h.ascending, fun u hu => Nat.lt_succ_of_lt (h.lt_built u hu)⟩
  | created t hbare hserial hid hs =>
      refine ⟨?_, fun u hu => ?_⟩
      · -- the new number is the number of targets built so far, so it is above the others
        rw [List.map_append, List.pairwise_append]
        refine ⟨h.ascending, List.pairwise_singleton _ _, fun a ha b hb => ?_⟩
        obtain ⟨u, hu, rfl⟩ := List.mem_map.1 ha
        have hb : b = t.serial := List.mem_singleton.1 hb
        rw [hb, hserial]
        exact h.lt_built u hu
      · rcases List.mem_append.1 hu with hu | hu
        · exact Nat.lt_succ_of_lt (h.lt_built u hu)
        · rw [List.mem_singleton.1 hu]
          exact Nat.lt_succ_of_le (Nat.le_of_eq hserial)

theorem Numbered.answered (h : Numbered p) (ha : Answered p r answer q) : Numbered q := by
  cases ha with
  | unknown hp => exact h
  | reused serial hp hs => exact h.mapConnection serial .opening
  | built place provider _ _ hp hs hb => exact h.built hb

/-! ## Growth -/

/-- A pool has grown from another one: targets were appended, no platform was taken away, and the
pool is still used in the same way. -/
structure Extends (p q : Pool) : Prop where
  /-- The earlier targets are there, in their places, and only their connections may differ. -/
  bare : p.bare <+: q.bare
  /-- Kinds that were answered to still are. -/
  provider : ∀ kind, (p.registry.provider? kind).isSome = true →
    (q.registry.provider? kind).isSome = true
  /-- Targets are kept or not, as before. -/
  keep : q.keep = p.keep
  /-- The identifiers are the same. -/
  ids : q.ids = p.ids

theorem Extends.refl (p : Pool) : Extends p p := ⟨List.prefix_rfl, fun _ h => h, rfl, rfl⟩

theorem Extends.trans {p q m : Pool} (h : Extends p q) (h' : Extends q m) : Extends p m :=
  ⟨h.bare.trans h'.bare, fun kind hk => h'.provider kind (h.provider kind hk),
    h'.keep.trans h.keep, h'.ids.trans h.ids⟩

theorem extends_mapConnection (p : Pool) (serial : Nat) (f : Connection → Connection) :
    Extends p (p.mapConnection serial f) :=
  ⟨(bare_mapConnection p serial f).symm ▸ List.prefix_rfl, fun _ h => h, rfl, rfl⟩

theorem Built.extends (h : Built p r place provider answer q) : Extends p q := by
  cases h with
  | failed reason hc =>
      exact ⟨List.prefix_rfl, fun _ hk => Registry.isSome_provider?_note hk, rfl, rfl⟩
  | refused t reason hbare hserial hid hs =>
      exact ⟨List.prefix_rfl, fun _ hk => Registry.isSome_provider?_note hk, rfl, rfl⟩
  | created t hbare hserial hid hs =>
      refine ⟨?_, fun _ hk => Registry.isSome_provider?_note hk, rfl, rfl⟩
      rw [bare_concat _ _ _ hbare]
      exact List.prefix_append _ _

theorem Answered.extends (h : Answered p r answer q) : Extends p q := by
  cases h with
  | unknown hp => exact Extends.refl p
  | reused serial hp hs => exact extends_mapConnection p serial .opening
  | built place provider _ _ hp hs hb => exact hb.extends

/-- **What the scan has found it finds again** in every pool that has grown from this one. -/
theorem Extends.scan (h : Extends p q) (hs : p.scan r = some serial) :
    q.scan r = some serial := by
  rw [scan_eq_bare, Option.map_eq_some_iff] at hs ⊢
  obtain ⟨t, ht, rfl⟩ := hs
  obtain ⟨l, hl⟩ := h.bare
  exact ⟨t, by rw [← hl, List.find?_append, ht]; rfl, rfl⟩

/-! ## The use of a pool -/

/-- What the users of a pool do with it while it is there: they have requests resolved, which may
fail, and drop the leases they have got. -/
inductive Use where
  /-- A request is resolved. -/
  | resolve (r : Request)
  /-- A lease is dropped. -/
  | release (serial : Nat)

/-- The pool after one use. -/
def perform (p : Pool) : Use → Pool
  | .resolve r => (p.resolve r).2
  | .release serial => p.release serial

/-- The pool after some uses, one after the other. -/
def after (p : Pool) (uses : List Use) : Pool := uses.foldl perform p

theorem slots_perform (p : Pool) (use : Use) : (p.perform use).slots = p.slots := by
  cases use with
  | resolve r => exact (resolve_answered p r).slots_eq
  | release serial => rfl

theorem Numbered.perform (h : Numbered p) (use : Use) : Numbered (p.perform use) := by
  cases use with
  | resolve r => exact h.answered (resolve_answered p r)
  | release serial => exact h.mapConnection serial .closing

/-- **Serial numbers ascend** in every pool that is reached by its use. -/
theorem Numbered.after (h : Numbered p) (uses : List Use) : Numbered (p.after uses) := by
  induction uses generalizing p with
  | nil => exact h
  | cons use rest ih => exact ih (h.perform use)

theorem extends_perform (p : Pool) (use : Use) : Extends p (p.perform use) := by
  cases use with
  | resolve r => exact (resolve_answered p r).extends
  | release serial => exact extends_mapConnection p serial .closing

/-- **A pool only grows** while it is used. -/
theorem extends_after (p : Pool) (uses : List Use) : Extends p (p.after uses) := by
  induction uses generalizing p with
  | nil => exact Extends.refl p
  | cons use rest ih => exact (extends_perform p use).trans (ih (p.perform use))

end Pool

end TestBench
