import TestBench.Fleet.Simulation
import TestBench.Proofs.PoolSteps

/-!
# Reuse of targets

The pool answers a request by the first target that may serve it. The main statement,
`Pool.reuse_stable_and_first_fit`, says what users can rely on, whatever platforms do: resolving a
request leaves the targets as they are or appends one that serves the request; and a request that
was answered once is answered by the same target ever after, with nothing built, as is every request
that asks for no more, by that target or an earlier one.

Positions are compared through `Pool.position?`. That a scan finds a target in the first
position that serves the request is `Pool.position?_of_scan`; it needs the serial numbers to
tell targets apart.
-/

set_option autoImplicit false

namespace TestBench

namespace Pool

variable {p q : Pool} {r s : Request} {serial : Nat}

/-- The position of the target with a serial number in the order of creation. -/
def position? (p : Pool) (serial : Nat) : Option Nat :=
  p.bare.findIdx? fun t => t.serial == serial

/-- A target that is in the pool keeps its position when the pool grows. -/
theorem Extends.position? {i : Nat} (h : Extends p q) (hi : p.position? serial = some i) :
    q.position? serial = some i := by
  obtain ⟨l, hl⟩ := h.bare
  rw [Pool.position?] at hi ⊢
  rw [← hl, List.findIdx?_append, hi]
  rfl

/-- Serial numbers tell the positions of targets apart. -/
theorem Numbered.eq_of_serial_eq (h : Numbered p) {i j : Nat} (hi : i < p.bare.length)
    (hj : j < p.bare.length) (he : p.bare[i].serial = p.bare[j].serial) : i = j := by
  have hp := h.ascending
  rw [← map_serial_bare, List.pairwise_map, List.pairwise_iff_getElem] at hp
  rcases Nat.lt_trichotomy i j with hlt | heq | hgt
  · have hs := hp i j hi hj hlt
    omega
  · exact heq
  · have hs := hp j i hj hi hgt
    omega

/-- **A scan finds the target in the first position that serves the request.** -/
theorem position?_of_scan (hn : Numbered p) (h : p.scan r = some serial) :
    ∃ i, p.position? serial = some i ∧ (p.bare.findIdx? fun t => t.satisfies r) = some i := by
  rw [scan_eq_bare, Option.map_eq_some_iff] at h
  obtain ⟨t, ht, rfl⟩ := h
  obtain ⟨hs, i, hi, rfl, hfirst⟩ := List.find?_eq_some_iff_getElem.1 ht
  refine ⟨i, List.findIdx?_eq_some_iff_getElem.2 ⟨hi, by simp, fun j hj => ?_⟩,
    List.findIdx?_eq_some_iff_getElem.2 ⟨hi, hs, fun j hj => by simpa using hfirst j hj⟩⟩
  intro he
  have heq := hn.eq_of_serial_eq (Nat.lt_trans hj hi) hi (by simpa using he)
  omega

/-- A request that asks for no more than one that a target serves is served at the same position or
before. -/
theorem exists_scan_of_le (hn : Numbered p) (h : p.scan r = some serial) (hle : Request.Le s r) :
    ∃ earlier i j, p.scan s = some earlier ∧ p.position? earlier = some i ∧
      p.position? serial = some j ∧ i ≤ j := by
  obtain ⟨j, hj, hfit⟩ := position?_of_scan hn h
  obtain ⟨hlt, hsat, -⟩ := List.findIdx?_eq_some_iff_getElem.1 hfit
  have hserves : p.bare[j].satisfies s = true := Target.satisfies_of_le hsat hle
  cases hs : p.scan s with
  | none =>
      rw [scan_eq_bare, Option.map_eq_none_iff, List.find?_eq_none] at hs
      exact absurd hserves (hs _ (List.getElem_mem hlt))
  | some earlier =>
      -- nothing before the first fit serves the smaller request, and `j` does
      obtain ⟨i, hi, hfirst⟩ := position?_of_scan hn hs
      obtain ⟨hilt, -, hmin⟩ := List.findIdx?_eq_some_iff_getElem.1 hfirst
      refine ⟨earlier, i, j, rfl, hi, hj, Nat.le_of_not_lt fun hji => ?_⟩
      exact absurd hserves (hmin j hji)

/-! ## One resolution -/

/-- **Resolving a request leaves the targets as they are**, or it appends one target that serves the
request, and that only if there was none. -/
theorem Answered.bare_eq {answer : Except Fault Nat} (h : Answered p r answer q) :
    q.bare = p.bare ∨
      (∀ t ∈ p.targets, t.satisfies r = false) ∧
        ∃ t, t.satisfies r = true ∧ answer = .ok t.serial ∧ q.bare = p.bare ++ [t] := by
  cases h with
  | unknown hp => exact .inl rfl
  | reused serial hp hs => exact .inl (bare_lease p serial)
  | built place provider _ _ hp hs hb =>
      cases hb with
      | failed reason hc => exact .inl rfl
      | refused t reason hbare hserial hid hr => exact .inl rfl
      | created t hbare hserial hid hr =>
          exact .inr ⟨scan_eq_none_iff.1 hs, t, hr, rfl, bare_concat p _ _ hbare⟩

/-- A fault leaves the targets untouched, connections included. -/
theorem Answered.targets_eq_of_error {fault : Fault} (h : Answered p r (.error fault) q) :
    q.targets = p.targets := by
  cases h with
  | unknown hp => rfl
  | built place provider _ _ hp hs hb =>
      cases hb with
      | failed reason hc => rfl
      | refused t reason hbare hserial hid hr => rfl

/-- The target that answers a request is the first that serves it from then on, and its platform is
still there. -/
theorem Answered.scan (h : Answered p r (.ok serial) q) :
    q.scan r = some serial ∧ (q.registry.provider? r.platform).isSome = true := by
  have hext := h.extends
  cases h with
  | reused serial hp hs => exact ⟨hext.scan hs, hp⟩
  | built place provider _ _ hp hs hb =>
      refine ⟨?_, hext.provider _ (by rw [hp]; rfl)⟩
      cases hb with
      | created t hbare hserial hid hr =>
          -- no earlier target serves the request, so the scan comes to the appended one
          have hnone : (p.bare.find? fun u => u.satisfies r) = none := by
            rw [scan_eq_bare, Option.map_eq_none_iff] at hs
            exact hs
          rw [scan_eq_bare, bare_concat p _ _ hbare, List.find?_append, hnone]
          simp [hr]

/-! ## All later resolutions -/

/-- **Reuse is stable and first-fit.** In every pool that is reached by its use, resolving a request
leaves the targets as they are, or appends one that serves the request where none did; a fault
leaves them untouched. Once a request is answered, then after any further use it is answered by the
same target in the same position and nothing is built; and a request that asks for no more is
answered, with nothing built, by a target that is in no later position. -/
theorem reuse_stable_and_first_fit (registry : Registry) (keep : Bool) (ids : Nat → TargetId)
    (before later : List Use) (r : Request) :
    let p := (empty registry keep ids).after before
    let q := (p.resolve r).2
    let final := q.after later
    (q.bare = p.bare ∨
      (∀ t ∈ p.targets, t.satisfies r = false) ∧
        ∃ t, t.satisfies r = true ∧ (p.resolve r).1 = .ok t.serial ∧ q.bare = p.bare ++ [t]) ∧
    (∀ fault, (p.resolve r).1 = .error fault → q.targets = p.targets) ∧
    ∀ serial, (p.resolve r).1 = .ok serial →
      final.resolve r = (.ok serial, final.lease serial) ∧
      final.position? serial = q.position? serial ∧
      ∀ s, Request.Le s r → ∃ earlier i j,
        final.resolve s = (.ok earlier, final.lease earlier) ∧
        final.position? earlier = some i ∧ final.position? serial = some j ∧ i ≤ j := by
  intro p q final
  have hanswered := resolve_answered p r
  refine ⟨hanswered.bare_eq, fun fault hf => ?_, fun serial hs => ?_⟩
  · rw [hf] at hanswered
    exact hanswered.targets_eq_of_error
  · have hnumbered : Numbered q :=
      ((numbered_empty registry keep ids).after before).answered hanswered
    rw [hs] at hanswered
    obtain ⟨hscan, hprovider⟩ := hanswered.scan
    -- the target is found again, since the pool has only grown
    have hext : Extends q final := extends_after q later
    have hprovider' := hext.provider _ hprovider
    refine ⟨resolve_of_scan hprovider' (hext.scan hscan), ?_, fun s hle => ?_⟩
    · obtain ⟨i, hi, -⟩ := position?_of_scan hnumbered hscan
      rw [hi, hext.position? hi]
    · obtain ⟨earlier, i, j, he, hi, hj, hij⟩ :=
        exists_scan_of_le (hnumbered.after later) (hext.scan hscan) hle
      exact ⟨earlier, i, j, resolve_of_scan (hle.platform ▸ hprovider') he, hi, hj, hij⟩

/-- A request for one capability is answered by the same target after a request that needs a second
target, one for a platform that nobody has registered, and a dropped lease; and so is the request
for no capability at all. -/
theorem reuse_after_other_requests :
    let ids : Nat → TargetId := fun n => ⟨BitVec.ofNat 128 n⟩
    let r : Request := ⟨"mock", [], .ofList ["gpu"]⟩
    let q := ((empty Registry.builtin false ids).resolve r).2
    let final := q.after
      [.resolve ⟨"mock", [], .ofList ["gpu", "sriov"]⟩, .resolve ⟨"hyperv", [], ∅⟩, .release 0]
    ((empty Registry.builtin false ids).resolve r).1 = .ok 0 ∧
      Request.Le ⟨"mock", [], ∅⟩ r ∧
      final.resolve r = (.ok 0, final.lease 0) ∧
      ∃ earlier i j, final.resolve ⟨"mock", [], ∅⟩ = (.ok earlier, final.lease earlier) ∧
        final.position? earlier = some i ∧ final.position? 0 = some j ∧ i ≤ j := by
  intro ids r q final
  have hr : ((empty Registry.builtin false ids).resolve r).1 = .ok 0 := by rfl
  have hle : Request.Le ⟨"mock", [], ∅⟩ r := ⟨rfl, rfl, rfl⟩
  obtain ⟨hsame, -, hless⟩ :=
    (reuse_stable_and_first_fit Registry.builtin false ids []
      [.resolve ⟨"mock", [], .ofList ["gpu", "sriov"]⟩, .resolve ⟨"hyperv", [], ∅⟩, .release 0]
      r).2.2 0 hr
  exact ⟨hr, hle, hsame, hless _ hle⟩

end Pool

end TestBench
