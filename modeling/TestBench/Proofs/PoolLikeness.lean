import Mathlib.Data.Option.Basic
import TestBench.Fleet.Teardown
import TestBench.Proofs.ResolutionAnswers

/-!
# Pools that differ only in failed attempts

A platform that always fails to build leaves a trace in a pool all the same: its ledger has the
attempts. `Pool.Alike` says that two pools differ in such ledgers at most, and in what passes
anyway, namely who stands at the slots and which leases are held. Requests for other platforms get
the same answers from alike pools, and leave them alike (`Pool.Alike.resolve`); a request for a
platform that always fails leaves a pool alike to what it was (`Pool.Sterile.resolve_of_fails`).

That no target is of a kind whose platform always fails is `Pool.Sterile`. It is needed twice: a
request for such a kind finds nothing to reuse, and a teardown asks nothing of such a platform, so
alike pools whose leases were all given back have the same teardown (`Pool.Alike.teardown`).
-/

set_option autoImplicit false

namespace TestBench

/-! ## Platforms that always fail -/

/-- The platform never builds anything, whatever it was asked before. -/
def Platform.Fails (p : Platform) : Prop :=
  ∀ ledger parameters features, ∃ reason, p.construct ledger parameters features = .error reason

/-- The platform never takes any time to build something. -/
def Platform.Prompt (p : Platform) : Prop :=
  ∀ ledger parameters features, p.delay ledger parameters features = 0

/-- One platform with two ledgers, which differ only if the platform always fails. -/
structure Provider.Alike (a b : Provider) : Prop where
  /-- The same platform. -/
  platform : a.platform = b.platform
  /-- It always fails, or it was asked for the same. -/
  ledger : a.platform.Fails ∨ a.ledger = b.ledger

namespace Provider.Alike

variable {a b c : Provider}

theorem refl (a : Provider) : Alike a a := ⟨rfl, .inr rfl⟩

theorem symm (h : Alike a b) : Alike b a :=
  ⟨h.platform.symm, h.ledger.imp (fun hf => h.platform ▸ hf) Eq.symm⟩

theorem trans (h : Alike a b) (h' : Alike b c) : Alike a c := by
  refine ⟨h.platform.trans h'.platform, ?_⟩
  rcases h.ledger with hf | hl
  · exact .inl hf
  · rcases h'.ledger with hf | hl'
    · exact .inl (h.platform ▸ hf)
    · exact .inr (hl.trans hl')

/-- Nothing tells apart two providers whose platform builds something now and then. -/
theorem eq_of_not_fails (h : Alike a b) (hf : ¬ a.platform.Fails) : a = b := by
  obtain ⟨platform, ledger⟩ := a
  obtain ⟨platform', ledger'⟩ := b
  obtain rfl : platform = platform' := h.platform
  obtain rfl : ledger = ledger' := h.ledger.resolve_left hf
  rfl

theorem note (h : Alike a b) (call : PlatformCall) :
    Alike { a with ledger := a.ledger ++ [call] } { b with ledger := b.ledger ++ [call] } :=
  ⟨h.platform, h.ledger.imp_right fun hl => by rw [hl]⟩

theorem note_left (h : Alike a b) (hf : a.platform.Fails) (call : PlatformCall) :
    Alike { a with ledger := a.ledger ++ [call] } b :=
  ⟨h.platform, .inl hf⟩

end Provider.Alike

namespace Registry

variable {g g' g'' : Registry} {kind : String} {place : Nat} {provider : Provider}

/-- The platform that answers to a kind. -/
def platform? (g : Registry) (kind : String) : Option Platform :=
  (g.provider? kind).map (·.2.platform)

/-- The platform that answers to a kind always fails. -/
def Fails (g : Registry) (kind : String) : Prop :=
  ∃ platform, g.platform? kind = some platform ∧ platform.Fails

/-- The platform that answers to a kind never takes any time. -/
def Prompt (g : Registry) (kind : String) : Prop :=
  ∃ platform, g.platform? kind = some platform ∧ platform.Prompt

theorem isSome_platform? (g : Registry) (kind : String) :
    (g.platform? kind).isSome = (g.provider? kind).isSome :=
  Option.isSome_map

theorem platform?_of_provider? (h : g.provider? kind = some (place, provider)) :
    g.platform? kind = some provider.platform := by
  rw [platform?, h]
  rfl

theorem fails_iff (h : g.provider? kind = some (place, provider)) :
    g.Fails kind ↔ provider.platform.Fails := by
  simp [Fails, platform?_of_provider? h]

/-! ## Alike registries -/

/-- The same platforms answer to the same kinds, and only those that always fail may have other
ledgers. -/
structure Alike (g g' : Registry) : Prop where
  /-- The same kinds and places. -/
  places : g.places = g'.places
  /-- The platforms at the places. -/
  providers : ∀ place : Nat, Option.Rel Provider.Alike g.providers[place]? g'.providers[place]?

namespace Alike

theorem refl (g : Registry) : Alike g g := by
  refine ⟨rfl, fun place => ?_⟩
  cases g.providers[place]? with
  | none => exact .none
  | some a => exact .some (.refl a)

theorem symm (h : Alike g g') : Alike g' g := by
  refine ⟨h.places.symm, fun place => ?_⟩
  have hab := h.providers place
  generalize g.providers[place]? = a, g'.providers[place]? = b at hab ⊢
  cases hab with
  | none => exact .none
  | some hab => exact .some hab.symm

theorem trans (h : Alike g g') (h' : Alike g' g'') : Alike g g'' := by
  refine ⟨h.places.trans h'.places, fun place => ?_⟩
  have hab := h.providers place
  have hbc := h'.providers place
  generalize g.providers[place]? = a, g'.providers[place]? = b, g''.providers[place]? = c
    at hab hbc ⊢
  cases hab with
  | none =>
      cases hbc with
      | none => exact .none
  | some hab =>
      cases hbc with
      | some hbc => exact .some (hab.trans hbc)

/-- Alike platforms answer to a kind. -/
theorem exists_provider? (h : Alike g g') (hp : g.provider? kind = some (place, provider)) :
    ∃ provider', g'.provider? kind = some (place, provider') ∧ provider.Alike provider' := by
  obtain ⟨hplace, hprovider⟩ := provider?_eq_some_iff.1 hp
  have hrel := h.providers place
  rw [hprovider] at hrel
  generalize hother : g'.providers[place]? = other at hrel
  cases hrel with
  | @some _ provider' halike =>
      refine ⟨provider', provider?_eq_some_iff.2 ⟨?_, hother⟩, halike⟩
      rw [place?, ← h.places]
      exact hplace

theorem provider?_eq_none (h : Alike g g') (hp : g.provider? kind = none) :
    g'.provider? kind = none := by
  cases hp' : g'.provider? kind with
  | none => rfl
  | some found =>
      obtain ⟨place, provider⟩ := found
      obtain ⟨provider', hp'', -⟩ := h.symm.exists_provider? hp'
      rw [hp] at hp''
      cases hp''

/-- **The same platform answers to a kind.** -/
theorem platform?_eq (h : Alike g g') : g.platform? = g'.platform? := by
  funext kind
  cases hp : g.provider? kind with
  | none => rw [platform?, platform?, hp, h.provider?_eq_none hp]
  | some found =>
      obtain ⟨place, provider⟩ := found
      obtain ⟨provider', hp', halike⟩ := h.exists_provider? hp
      rw [platform?_of_provider? hp, platform?_of_provider? hp', halike.platform]

theorem kindsText_eq (h : Alike g g') : g.kindsText = g'.kindsText := by
  rw [kindsText, kindsText, kinds, kinds, h.places]

theorem note (h : Alike g g') (place : Nat) (call : PlatformCall) :
    Alike (g.note place call) (g'.note place call) := by
  refine ⟨h.places, fun i => ?_⟩
  rw [getElem?_providers_note, getElem?_providers_note]
  have hab := h.providers i
  generalize g.providers[i]? = a, g'.providers[i]? = b at hab ⊢
  cases hab with
  | none => exact .none
  | some hab =>
      refine .some ?_
      split
      · exact hab.note call
      · exact hab

/-- Calls to a platform that always fails make no difference. -/
theorem note_left (h : Alike g g') (hplace : g.providers[place]? = some provider)
    (hf : provider.platform.Fails) (call : PlatformCall) : Alike (g.note place call) g' := by
  refine ⟨h.places, fun i => ?_⟩
  rw [getElem?_providers_note]
  have hrel := h.providers i
  by_cases hi : place = i
  · subst hi
    rw [hplace] at hrel ⊢
    generalize g'.providers[place]? = other at hrel ⊢
    cases hrel with
    | some hab =>
        rw [Option.map_some, if_pos rfl]
        exact .some (hab.note_left hf call)
  · have hsame : (g.providers[i]?).map (fun v =>
        if place = i then { v with ledger := v.ledger ++ [call] } else v) = g.providers[i]? := by
      simp [hi]
    rw [hsame]
    exact hrel

end Alike

theorem platform?_eq_bind (g : Registry) (kind : String) : g.platform? kind =
    (g.places.find? fun p => p.1 == kind).bind fun p => g.providers[p.2]?.map (·.platform) := by
  simp only [platform?, provider?, Option.bind_eq_bind, Option.map_bind]
  congr 1
  funext p
  simp only [Function.comp, Option.map_bind]
  cases g.providers[p.2]? <;> rfl

/-- **Noting a call changes no platform.** -/
theorem platform?_note (g : Registry) (place : Nat) (call : PlatformCall) :
    (g.note place call).platform? = g.platform? := by
  funext kind
  rw [platform?_eq_bind, platform?_eq_bind]
  simp only [platform_providers_note]
  rfl

theorem fails_note (g : Registry) (place : Nat) (call : PlatformCall) :
    (g.note place call).Fails = g.Fails := by
  funext kind
  rw [Fails, platform?_note, Fails]

end Registry

/-! ## Targets at rest -/

namespace Target

/-- The target with no lease on it, whoever holds one. -/
def idle (t : Target) : Target := t.mapConnection fun c => ⟨0, c.opened⟩

@[simp] theorem idle_serial (t : Target) : t.idle.serial = t.serial := rfl

/-- A target on which there is no lease is at rest. -/
theorem idle_eq_self {t : Target} (h : t.connection.active = 0) : t.idle = t := by
  obtain ⟨serial, id, platform, parameters, capabilities, handle, active, opened⟩ := t
  obtain rfl : active = 0 := h
  rfl

end Target

namespace Pool

variable {p q m : Pool} {r : Request} {serial : Nat} {t : Target}

/-- The targets of the pool at rest. -/
def idle (p : Pool) : List Target := p.targets.map Target.idle

/-- Taking a lease on a target that is at rest. -/
theorem idle_lease (p : Pool) (serial : Nat) :
    (p.lease serial).idle = p.idle.map fun t =>
      if t.serial = serial then t.mapConnection fun c => ⟨0, c.opened + 1⟩ else t := by
  simp only [idle, lease, mapConnection, List.map_map]
  refine List.map_congr_left fun t _ => ?_
  simp only [Function.comp]
  rw [Target.idle_serial]
  split <;> rfl

@[simp] theorem idle_release (p : Pool) (serial : Nat) : (p.release serial).idle = p.idle := by
  simp only [idle, release, mapConnection, List.map_map]
  refine List.map_congr_left fun t _ => ?_
  simp only [Function.comp]
  split <;> rfl

theorem scan_eq_idle (p : Pool) (r : Request) :
    p.scan r = (p.idle.find? fun t => t.satisfies r).map (·.serial) := by
  simp only [scan, idle, List.find?_map, Option.map_map]
  rfl

theorem map_idle_target? (p : Pool) (serial : Nat) :
    (p.target? serial).map Target.idle = p.idle.find? fun t => t.serial == serial := by
  simp only [target?, idle, List.find?_map]
  rfl

/-! ## Alike pools -/

/-- Two pools differ only in the ledgers of platforms that always fail, in the leases that are held,
and in who stands at the slots. -/
structure Alike (p q : Pool) : Prop where
  /-- The platforms. -/
  registry : p.registry.Alike q.registry
  /-- The targets, but for the leases that are held. -/
  idle : p.idle = q.idle
  /-- Targets are kept or not. -/
  keep : p.keep = q.keep
  /-- The identifiers. -/
  ids : p.ids = q.ids
  /-- The number of targets that were built. -/
  built : p.built = q.built

namespace Alike

theorem refl (p : Pool) : Alike p p := ⟨.refl _, rfl, rfl, rfl, rfl⟩

theorem symm (h : Alike p q) : Alike q p :=
  ⟨h.registry.symm, h.idle.symm, h.keep.symm, h.ids.symm, h.built.symm⟩

theorem trans (h : Alike p q) (h' : Alike q m) : Alike p m :=
  ⟨h.registry.trans h'.registry, h.idle.trans h'.idle, h.keep.trans h'.keep, h.ids.trans h'.ids,
    h.built.trans h'.built⟩

theorem withSlots (h : Alike p q) (slots : SlotQueue) : Alike { p with slots := slots } q :=
  ⟨h.registry, h.idle, h.keep, h.ids, h.built⟩

theorem release (h : Alike p q) (serial : Nat) : Alike (p.release serial) q :=
  ⟨h.registry, (idle_release p serial).trans h.idle, h.keep, h.ids, h.built⟩

theorem lease (h : Alike p q) (serial : Nat) : Alike (p.lease serial) (q.lease serial) :=
  ⟨h.registry, by rw [idle_lease, idle_lease, h.idle], h.keep, h.ids, h.built⟩

theorem scan_eq (h : Alike p q) (r : Request) : p.scan r = q.scan r := by
  rw [scan_eq_idle, scan_eq_idle, h.idle]

/-- Targets with the same number differ in their leases only. -/
theorem exists_target? (h : Alike p q) (ht : p.target? serial = some t) :
    ∃ u, q.target? serial = some u ∧ t.idle = u.idle := by
  have hidle : (p.target? serial).map Target.idle = (q.target? serial).map Target.idle := by
    rw [map_idle_target?, map_idle_target?, h.idle]
  rw [ht, Option.map_some] at hidle
  obtain ⟨u, hu, heq⟩ := Option.map_eq_some_iff.1 hidle.symm
  exact ⟨u, hu, heq.symm⟩

/-- The same platform builds the same for alike pools. -/
theorem build (h : Alike p q) (r : Request) (place : Nat) (provider : Provider) :
    (p.build r place provider).1 = (q.build r place provider).1 ∧
      Alike (p.build r place provider).2 (q.build r place provider).2 := by
  cases hc : provider.platform.construct provider.ledger r.parameters r.required with
  | error reason =>
      simp only [Pool.build, hc]
      exact ⟨trivial, h.registry.note place _, h.idle, h.keep, h.ids, h.built⟩
  | ok blueprint =>
      simp only [Pool.build, hc, append, h.ids, h.built]
      split
      · refine ⟨rfl, h.registry.note place _, ?_, h.keep, rfl, rfl⟩
        show List.map _ _ = List.map _ _
        rw [List.map_append, List.map_append]
        exact congrArg (· ++ _) h.idle
      · exact ⟨rfl, h.registry.note place _, h.idle, h.keep, rfl, rfl⟩

/-- **Alike pools give the same answers**, but for kinds whose platform always fails, and stay
alike. -/
theorem resolve (h : Alike p q) (hf : ¬ p.registry.Fails r.platform) :
    (p.resolve r).1 = (q.resolve r).1 ∧ Alike (p.resolve r).2 (q.resolve r).2 := by
  cases hp : p.registry.provider? r.platform with
  | none =>
      have hq := h.registry.provider?_eq_none hp
      simp only [Pool.resolve, hp, hq, unknownPlatform, h.registry.kindsText_eq]
      exact ⟨trivial, h⟩
  | some found =>
      obtain ⟨place, provider⟩ := found
      obtain ⟨provider', hq, halike⟩ := h.registry.exists_provider? hp
      rw [Registry.fails_iff hp] at hf
      -- the platform was asked for the same by both pools, so it gives the same answer
      obtain rfl := halike.eq_of_not_fails hf
      have hscan := h.scan_eq r
      cases hs : p.scan r with
      | some serial =>
          rw [resolve_of_scan (by rw [hp]; rfl) hs, resolve_of_scan (by rw [hq]; rfl) (hscan ▸ hs)]
          exact ⟨rfl, h.lease serial⟩
      | none =>
          rw [resolve_of_scan_eq_none hp hs, resolve_of_scan_eq_none hq (hscan ▸ hs)]
          exact h.build r place provider

end Alike

/-! ## Pools without targets of failing kinds -/

/-- No target is of a kind whose platform always fails. -/
def Sterile (p : Pool) : Prop := ∀ t ∈ p.targets, ¬ p.registry.Fails t.platform

namespace Sterile

/-- Nothing is found for a kind whose platform always fails. -/
theorem scan_eq_none (h : Sterile p) (hf : p.registry.Fails r.platform) : p.scan r = none := by
  rw [scan_eq_none_iff]
  intro t ht
  rw [Bool.eq_false_iff]
  intro hr
  exact h t ht (Target.platform_of_satisfies hr ▸ hf)

/-- A platform that always fails has built nothing. -/
theorem build_of_fails {place : Nat} {provider : Provider}
    (hp : p.registry.provider? r.platform = some (place, provider))
    (hf : provider.platform.Fails) :
    (∃ fault, (p.build r place provider).1 = .error fault) ∧
      Alike (p.build r place provider).2 p ∧ (p.build r place provider).2.targets = p.targets := by
  obtain ⟨reason, hc⟩ := hf provider.ledger r.parameters r.required
  obtain ⟨-, hprovider⟩ := Registry.provider?_eq_some_iff.1 hp
  simp only [Pool.build, hc]
  exact ⟨⟨_, rfl⟩, ⟨(Registry.Alike.refl _).note_left hprovider hf _, rfl, rfl, rfl, rfl⟩, trivial⟩

/-- **A request for a platform that always fails** is not answered, and leaves a pool alike to what
it was. -/
theorem resolve_of_fails (h : Sterile p) (hf : p.registry.Fails r.platform) :
    (∃ fault, (p.resolve r).1 = .error fault) ∧ Alike (p.resolve r).2 p := by
  cases hp : p.registry.provider? r.platform with
  | none =>
      simp only [Pool.resolve, hp]
      exact ⟨⟨_, rfl⟩, .refl p⟩
  | some found =>
      obtain ⟨place, provider⟩ := found
      rw [resolve_of_scan_eq_none hp (h.scan_eq_none hf)]
      obtain ⟨hanswer, halike, -⟩ := build_of_fails hp ((Registry.fails_iff hp).1 hf)
      exact ⟨hanswer, halike⟩

theorem of_targets_eq (h : Sterile p) (htargets : q.targets = p.targets)
    (hfails : q.registry.Fails = p.registry.Fails) : Sterile q := by
  intro t ht
  rw [hfails]
  exact h t (htargets ▸ ht)

theorem mapConnection (h : Sterile p) (serial : Nat) (f : Connection → Connection) :
    Sterile (p.mapConnection serial f) := by
  intro t ht
  obtain ⟨u, hu, rfl⟩ := List.mem_map.1 ht
  have hkind : (if u.serial = serial then u.mapConnection f else u).platform = u.platform := by
    split <;> rfl
  rw [hkind]
  exact h u hu

/-- What a platform has built is of a kind whose platform does not always fail. -/
theorem build (h : Sterile p) {place : Nat} {provider : Provider}
    (hp : p.registry.provider? r.platform = some (place, provider)) :
    Sterile (p.build r place provider).2 := by
  by_cases hf : provider.platform.Fails
  · obtain ⟨-, halike, htargets⟩ := build_of_fails hp hf
    refine h.of_targets_eq htargets ?_
    funext kind
    rw [Registry.Fails, halike.registry.platform?_eq, Registry.Fails]
  · -- whatever is appended satisfies the request, and so is of the kind that was asked for
    have hnew : ∀ t : Target, t.satisfies r = true → ¬ p.registry.Fails t.platform := by
      intro t ht
      rw [Target.platform_of_satisfies ht, Registry.fails_iff hp]
      exact hf
    generalize hb : p.build r place provider = out
    have hbuilt := build_built p r place provider
    rw [hb] at hbuilt
    obtain ⟨answer, q⟩ := out
    cases hbuilt with
    | failed reason hc => exact h.of_targets_eq rfl (Registry.fails_note _ _ _)
    | refused t reason hbare hserial hid hr =>
        exact h.of_targets_eq rfl (Registry.fails_note _ _ _)
    | created t hbare hserial hid hr =>
        intro u hu
        rw [Registry.fails_note]
        rcases List.mem_append.1 hu with hu | hu
        · exact h u hu
        · rw [List.mem_singleton.1 hu]
          exact hnew t hr

theorem resolve (h : Sterile p) (r : Request) : Sterile (p.resolve r).2 := by
  cases hp : p.registry.provider? r.platform with
  | none =>
      simp only [Pool.resolve, hp]
      exact h
  | some found =>
      obtain ⟨place, provider⟩ := found
      cases hs : p.scan r with
      | some serial =>
          rw [resolve_of_scan (by rw [hp]; rfl) hs]
          exact h.mapConnection serial .opening
      | none =>
          rw [resolve_of_scan_eq_none hp hs]
          exact h.build hp

/-- **No resolution adds a target of a kind whose platform always fails.** -/
theorem reached {now : Nat} {phase next : Resolution} (h : Sterile p)
    (hreached : Reached p r now phase next q) : Sterile q := by
  cases hreached with
  | resolved slots => exact h.resolve r
  | built finish place provider slots hphase hp => exact h.build hp
  | pending _ slots hnext hbuilding => exact h

/-- **A resolution for a platform that always fails** gets no target, however far it has come, and
leaves a pool alike to what it was. -/
theorem reached_of_fails {now : Nat} {phase next : Resolution} (h : Sterile p)
    (hf : p.registry.Fails r.platform) (hreached : Reached p r now phase next q) :
    Alike q p ∧ ∀ answer, next = .settled answer → ∃ fault, answer = .error fault := by
  cases hreached with
  | resolved slots =>
      obtain ⟨hanswer, halike⟩ := h.resolve_of_fails hf
      refine ⟨halike.withSlots slots, fun answer heq => ?_⟩
      exact Resolution.settled.inj heq ▸ hanswer
  | built finish place provider slots hphase hp =>
      obtain ⟨hanswer, halike, -⟩ := build_of_fails hp ((Registry.fails_iff hp).1 hf)
      refine ⟨halike.withSlots slots, fun answer heq => ?_⟩
      exact Resolution.settled.inj heq ▸ hanswer
  | pending _ slots hnext hbuilding =>
      exact ⟨(Alike.refl p).withSlots slots, fun answer heq => absurd heq (hnext answer)⟩

end Sterile

/-- Alike pools have targets of the same kinds. -/
theorem Alike.sterile (h : Alike p q) (hq : Sterile q) : Sterile p := by
  intro t ht
  have hidle : t.idle ∈ q.idle := h.idle ▸ List.mem_map_of_mem ht
  obtain ⟨u, hu, heq⟩ := List.mem_map.1 hidle
  have hkind : u.idle.platform = t.idle.platform := congrArg Target.platform heq
  rw [Registry.Fails, h.registry.platform?_eq]
  exact fun hf => hq u hu (hkind.symm ▸ hf)

/-! ## Teardowns -/

/-- One target is dismissed in the same way from alike pools. -/
theorem Alike.dismiss (h : Alike p q) (hf : ¬ p.registry.Fails t.platform) (done : Teardown) :
    (Pool.dismiss (done, p) t).1 = (Pool.dismiss (done, q) t).1 ∧
      Alike (Pool.dismiss (done, p) t).2 (Pool.dismiss (done, q) t).2 := by
  simp only [Pool.dismiss, ← h.keep]
  split
  · exact ⟨rfl, h⟩
  · cases hp : p.registry.provider? t.platform with
    | none =>
        have hq := h.registry.provider?_eq_none hp
        simp only [deprovision, hp, hq, unknownPlatform, h.registry.kindsText_eq]
        exact ⟨trivial, h⟩
    | some found =>
        obtain ⟨place, provider⟩ := found
        obtain ⟨provider', hq, halike⟩ := h.registry.exists_provider? hp
        rw [Registry.fails_iff hp] at hf
        obtain rfl := halike.eq_of_not_fails hf
        simp only [deprovision, hp, hq]
        split
        · exact ⟨rfl, h.registry.note place _, h.idle, h.keep, h.ids, h.built⟩
        · exact ⟨rfl, h.registry.note place _, h.idle, h.keep, h.ids, h.built⟩

/-- Dismissing a target changes no platform. -/
theorem fails_dismiss (p : Pool) (done : Teardown) (t : Target) :
    (Pool.dismiss (done, p) t).2.registry.Fails = p.registry.Fails := by
  simp only [Pool.dismiss]
  split
  · rfl
  · simp only [deprovision]
    split
    · rfl
    · split <;> exact Registry.fails_note _ _ _

theorem Alike.foldl_dismiss (ts : List Target) (h : Alike p q)
    (hf : ∀ t ∈ ts, ¬ p.registry.Fails t.platform) (done : Teardown) :
    (ts.foldl Pool.dismiss (done, p)).1 = (ts.foldl Pool.dismiss (done, q)).1 := by
  -- every dismissal is noted in both ledgers, so the induction is over all alike pools
  induction ts generalizing p q done with
  | nil => rfl
  | cons t rest ih =>
      obtain ⟨hdone, halike⟩ := h.dismiss (hf t List.mem_cons_self) done
      have hrest : ∀ u ∈ rest, ¬ (Pool.dismiss (done, p) t).2.registry.Fails u.platform := by
        rw [fails_dismiss]
        exact fun u hu => hf u (List.mem_cons_of_mem t hu)
      rw [List.foldl_cons, List.foldl_cons]
      generalize Pool.dismiss (done, p) t = a, Pool.dismiss (done, q) t = b at hdone halike hrest
      obtain ⟨done', p'⟩ := a
      obtain ⟨done'', q'⟩ := b
      obtain rfl : done' = done'' := hdone
      exact ih halike hrest done'

/-- **Alike pools have the same teardown** when no lease is held. -/
theorem Alike.teardown (h : Alike p q) (hsterile : Sterile p)
    (hp : ∀ t ∈ p.targets, t.connection.active = 0)
    (hq : ∀ t ∈ q.targets, t.connection.active = 0) : p.teardown.1 = q.teardown.1 := by
  have hrest : ∀ {l : List Target}, (∀ t ∈ l, t.connection.active = 0) → l.map Target.idle = l :=
    fun hl => (List.map_congr_left fun t ht => Target.idle_eq_self (hl t ht)).trans (List.map_id _)
  -- without leases a target is at rest already
  have htargets : p.targets = q.targets := by
    rw [← hrest hp, ← hrest hq]
    exact h.idle
  rw [Pool.teardown, Pool.teardown, ← htargets]
  have hempty : Alike { p with targets := [] } { q with targets := [] } :=
    ⟨h.registry, rfl, h.keep, h.ids, h.built⟩
  exact hempty.foldl_dismiss p.targets hsterile Teardown.none

end Pool

end TestBench
