import TestBench.Proofs.PlatformsAsAsked
import TestBench.Proofs.PoolReuse

/-!
# Which targets a pool has built

A request asks for a shape, that is a platform and its parameters, and for capabilities. When every
platform builds just what it is asked for, the requests alone decide which targets there are: a
target is built for a request exactly if no earlier request for the shape required all that it
requires. `uncovered` picks these requests out of a history without a pool.

The main statement, `Pool.allotted_by_shape`, says so for every shape by itself, and also which
target answers a request: the first one of its shape that has all that is required, in the order of
creation. Requests for other shapes occur on neither side, so they have no influence on it.

What one resolution does to the targets of a shape is `Pool.capabilitiesOf_resolve`; the whole
history follows by induction on the uses of the pool.
-/

set_option autoImplicit false

namespace TestBench

/-! ## Shapes -/

/-- What a request asks for apart from capabilities: a platform and its parameters. -/
structure Shape where
  /-- The kind of the platform. -/
  platform : String
  /-- The parameters. -/
  parameters : Parameters

/-- Whether two shapes are the same, with parameters up to equality. -/
def Shape.same (a b : Shape) : Bool :=
  a.platform == b.platform && Json.sameFields a.parameters b.parameters

/-- The shape that a request asks for. -/
def Request.shape (r : Request) : Shape := ⟨r.platform, r.parameters⟩

/-- The shape that a target has. -/
def Target.shape (t : Target) : Shape := ⟨t.platform, t.parameters⟩

theorem Shape.same_self (a : Shape) : a.same a = true := by
  simp [same, Json.sameFields_self]

/-- Shapes that are the same are the same as the same shapes. -/
theorem Shape.same_congr {a b : Shape} (h : a.same b = true) (c : Shape) :
    a.same c = b.same c := by
  simp only [same, Bool.and_eq_true, beq_iff_eq] at h
  rw [same, same, h.1, Json.sameFields_congr h.2]

/-- A target serves a request if it has the shape and all required capabilities. -/
theorem Target.satisfies_eq (t : Target) (r : Request) :
    t.satisfies r = (t.shape.same r.shape && r.required.subset t.capabilities) := rfl

/-- Of the targets of a shape those serve a request for the shape that have all required
capabilities, and the others do not. -/
theorem Target.satisfies_of_shape (t : Target) {r : Request} {shape : Shape}
    (h : r.shape.same shape = true) :
    t.satisfies r = (t.shape.same shape && r.required.subset t.capabilities) := by
  have hshape : t.shape.same r.shape = t.shape.same shape := by
    rw [Bool.eq_iff_iff]
    constructor
    · intro ht
      rwa [Shape.same_congr ht]
    · intro ht
      -- both are the same as the shape, so each is the same as the other
      have hr := Shape.same_congr h r.shape
      rw [Shape.same_self] at hr
      rw [Shape.same_congr ht, ← hr]
  rw [satisfies_eq, hshape]

/-! ## Sets that no earlier set covers -/

theorem NameSet.subset_trans {s t u : NameSet} (h : s.subset t = true) (h' : t.subset u = true) :
    s.subset u = true := by
  rw [subset_eq_true_iff] at h h' ⊢
  exact fun a ha => h' a (h a ha)

theorem NameSet.subset_self (s : NameSet) : s.subset s = true :=
  subset_eq_true_iff.2 fun _ h => h

/-- The sets of a list that are not contained in any earlier one, in their order. -/
def uncovered (sets : List NameSet) : List NameSet :=
  (sets.zipIdx.filter fun e => (sets.take e.2).all fun earlier => !e.1.subset earlier).map (·.1)

/-- A further set counts unless one of the others contains it. -/
theorem uncovered_concat (sets : List NameSet) (s : NameSet) :
    uncovered (sets ++ [s]) = uncovered sets ++ if sets.any s.subset then [] else [s] := by
  have hold : (sets.zipIdx.filter fun e =>
        ((sets ++ [s]).take e.2).all fun earlier => !e.1.subset earlier) =
      sets.zipIdx.filter fun e => (sets.take e.2).all fun earlier => !e.1.subset earlier := by
    refine List.filter_congr fun e he => ?_
    have hlt : e.2 < sets.length := by
      have hget := List.mem_zipIdx_iff_getElem?.1 he
      exact (List.getElem?_eq_some_iff.1 hget).1
    rw [List.take_append_of_le_length (Nat.le_of_lt hlt)]
  rw [uncovered, List.zipIdx_append, List.filter_append, hold, List.map_append, uncovered]
  congr 1
  have hnew : (sets.all fun earlier => !s.subset earlier) = !sets.any s.subset := by
    rw [List.not_any_eq_all_not]
  cases ha : sets.any s.subset <;> simp [hnew, ha]

/-- **What some set contains, an uncovered one contains.** -/
theorem any_uncovered (sets : List NameSet) (s : NameSet) :
    (uncovered sets).any s.subset = sets.any s.subset := by
  induction sets using List.reverseRecOn with
  | nil => rfl
  | append_singleton sets t ih =>
      rw [uncovered_concat, List.any_append, List.any_append, ih]
      cases ht : sets.any t.subset with
      | false => rfl
      | true =>
          -- what `t` contains, an earlier set contains as well
          obtain ⟨u, hu, htu⟩ := List.any_eq_true.1 ht
          cases hs : s.subset t with
          | false => simp [hs]
          | true =>
              have hsome : sets.any s.subset = true :=
                List.any_eq_true.2 ⟨u, hu, NameSet.subset_trans hs htu⟩
              simp [hsome]

namespace Pool

variable {p q : Pool} {r : Request} {shape : Shape}

/-! ## The targets of a shape -/

/-- The targets of a shape, in the order of creation. -/
def ofShape (p : Pool) (shape : Shape) : List Target := p.bare.filter fun t => t.shape.same shape

/-- What the targets of a shape are capable of, in the order of creation. -/
def capabilitiesOf (p : Pool) (shape : Shape) : List NameSet :=
  (p.ofShape shape).map (·.capabilities)

/-- What the requests for a shape require, in the order of the requests. -/
def requiredOf (shape : Shape) (uses : List Use) : List NameSet :=
  uses.filterMap fun
    | .resolve r => if r.shape.same shape then some r.required else none
    | .release _ => none

/-- A request for a shape is answered with a target of the shape, the first one that is capable of
all that is required; so there is one exactly if the scan finds one. -/
theorem scan_eq_ofShape (h : r.shape.same shape = true) :
    p.scan r =
      ((p.ofShape shape).find? fun t => r.required.subset t.capabilities).map (·.serial) := by
  simp only [scan_eq_bare, ofShape, List.find?_filter, Bool.decide_and, Bool.decide_eq_true,
    fun t : Target => t.satisfies_of_shape h]

theorem isSome_scan (h : r.shape.same shape = true) :
    (p.scan r).isSome = (p.capabilitiesOf shape).any r.required.subset := by
  rw [Bool.eq_iff_iff, scan_eq_ofShape h, Option.isSome_map, List.find?_isSome, capabilitiesOf,
    List.any_map, List.any_eq_true]
  rfl

/-- Every platform builds what it is asked for, after a request as before it. -/
theorem Answered.buildsAsAsked {answer : Except Fault Nat} (h : Answered p r answer q)
    (hp : p.registry.BuildsAsAsked) : q.registry.BuildsAsAsked := by
  cases h with
  | unknown hnone => exact hp
  | reused serial hsome hs => exact hp
  | built place provider _ _ hprovider hs hb =>
      cases hb with
      | failed reason hc => exact hp.note _ _
      | refused t reason hbare hserial hid hr => exact hp.note _ _
      | created t hbare hserial hid hr => exact hp.note _ _

/-- A target that is built as asked is appended, and serves the request. -/
theorem build_asked {provider : Provider} (p : Pool) (place : Nat)
    (h : provider.platform.BuildsAsAsked r.platform) :
    ∃ t : Target, t.shape = r.shape ∧ t.capabilities = r.required ∧
      (p.build r place provider).1 = .ok t.serial ∧
      (p.build r place provider).2.bare = p.bare ++ [t] := by
  obtain ⟨handle, hc⟩ := h provider.ledger r.parameters r.required
  let t := Blueprint.target ⟨r.platform, r.parameters, r.required, handle⟩ p.built (p.ids p.built)
  have hserves : t.satisfies r = true := by
    rw [Target.satisfies_eq, Bool.and_eq_true]
    exact ⟨Shape.same_self r.shape, NameSet.subset_self r.required⟩
  refine ⟨t, rfl, rfl, ?_, ?_⟩
  · simp only [build, hc, append]
    rw [if_pos hserves]
  · simp only [build, hc, append]
    rw [if_pos hserves]
    exact bare_concat p _ _ rfl

/-- **A request for a registered kind is answered**, if platforms build what they are asked for. -/
theorem exists_resolve_eq_ok (hp : p.registry.BuildsAsAsked)
    (hr : p.registry.contains r.platform = true) : ∃ serial, (p.resolve r).1 = .ok serial := by
  obtain ⟨⟨place, provider⟩, hprovider⟩ := Option.isSome_iff_exists.1 hr
  cases hs : p.scan r with
  | some serial => exact ⟨serial, by simp only [resolve, hprovider, hs]⟩
  | none =>
      obtain ⟨t, -, -, hanswer, -⟩ := build_asked p place (hp _ _ _ hprovider)
      exact ⟨t.serial, by simp only [resolve, hprovider, hs, hanswer]⟩

/-- **What one request does to the targets of a shape**: a target with the required capabilities is
appended if the request is for the shape and no target of the shape is capable of them, and nothing
else changes. -/
theorem capabilitiesOf_resolve (hp : p.registry.BuildsAsAsked)
    (hshape : p.registry.contains shape.platform = true) (r : Request) :
    (p.resolve r).2.capabilitiesOf shape = p.capabilitiesOf shape ++
      if r.shape.same shape && !(p.capabilitiesOf shape).any r.required.subset then [r.required]
      else [] := by
  cases hprovider : p.registry.provider? r.platform with
  | none =>
      -- the kind of the shape is registered, so the request is for another one
      have hother : r.shape.same shape = false := by
        rw [Bool.eq_false_iff]
        intro hsame
        simp only [Shape.same, Bool.and_eq_true, beq_iff_eq] at hsame
        rw [← hsame.1, Registry.contains] at hshape
        simp [Request.shape, hprovider] at hshape
      simp [resolve, hprovider, hother]
  | some found =>
      obtain ⟨place, provider⟩ := found
      cases hs : p.scan r with
      | some serial =>
          have hsame : (p.lease serial).capabilitiesOf shape = p.capabilitiesOf shape := by
            rw [capabilitiesOf, ofShape, bare_lease]
            rfl
          have hnothing :
              (r.shape.same shape && !(p.capabilitiesOf shape).any r.required.subset) = false := by
            cases hr : r.shape.same shape with
            | false => rfl
            | true => rw [← isSome_scan hr, hs]; rfl
          simp [resolve, hprovider, hs, hsame, hnothing]
      | none =>
          obtain ⟨t, htshape, htcap, -, hbare⟩ := build_asked p place (hp _ _ _ hprovider)
          have hq : (p.resolve r).2.bare = p.bare ++ [t] := by
            simp only [resolve, hprovider, hs, hbare]
          rw [capabilitiesOf, ofShape, hq, List.filter_append, List.map_append]
          congr 1
          cases hr : r.shape.same shape with
          | false => simp [htshape, hr]
          | true =>
              have hnone : (p.capabilitiesOf shape).any r.required.subset = false := by
                rw [← isSome_scan hr, hs]
                rfl
              simp [htshape, htcap, hr, hnone]

/-! ## Whole histories -/

theorem requiredOf_concat (shape : Shape) (uses : List Use) (use : Use) :
    requiredOf shape (uses ++ [use]) = requiredOf shape uses ++ requiredOf shape [use] :=
  List.filterMap_append

theorem after_concat (p : Pool) (uses : List Use) (use : Use) :
    p.after (uses ++ [use]) = (p.after uses).perform use := by
  simp [after, List.foldl_append]

theorem buildsAsAsked_after (hp : p.registry.BuildsAsAsked) (uses : List Use) :
    (p.after uses).registry.BuildsAsAsked := by
  induction uses generalizing p with
  | nil => exact hp
  | cons use rest ih =>
      cases use with
      | resolve r => exact ih ((resolve_answered p r).buildsAsAsked hp)
      | release serial => exact ih (p := p.release serial) hp

/-- **The targets of a shape are those of the uncovered requests for it.** -/
theorem capabilitiesOf_after {registry : Registry} (hasked : registry.BuildsAsAsked)
    (hshape : registry.contains shape.platform = true) (keep : Bool) (ids : Nat → TargetId)
    (uses : List Use) :
    ((empty registry keep ids).after uses).capabilitiesOf shape =
      uncovered (requiredOf shape uses) := by
  induction uses using List.reverseRecOn with
  | nil => rfl
  | append_singleton uses use ih =>
      rw [after_concat, requiredOf_concat]
      cases use with
      | release serial =>
          have hnone : requiredOf shape [.release serial] = [] := rfl
          rw [hnone, List.append_nil, ← ih, perform, release, capabilitiesOf, ofShape,
            bare_mapConnection]
          rfl
      | resolve r =>
          have hpool : ((empty registry keep ids).after uses).registry.BuildsAsAsked :=
            buildsAsAsked_after (p := empty registry keep ids) hasked uses
          have hkind := (extends_after (empty registry keep ids) uses).provider _ hshape
          rw [perform, capabilitiesOf_resolve hpool hkind, ih, any_uncovered]
          cases hr : r.shape.same shape with
          | false => simp [requiredOf, hr]
          | true =>
              have hone : requiredOf shape [.resolve r] = [r.required] := by
                simp [requiredOf, hr]
              rw [hone, uncovered_concat]
              cases (requiredOf shape uses).any r.required.subset <;> rfl

/-- **Targets are allotted shape by shape, to the requests that no earlier one covers.** Over
platforms that build what they are asked for, and for a shape of a registered kind: after any uses
of a pool that was empty, the targets of the shape are capable, in the order of creation, of just
what those requests for the shape required that required something that no earlier request for the
shape did cover. And every request for the shape among the uses was answered, by the target at the
first of these places that has all that it required. Requests for other shapes do not occur in
`requiredOf`, so neither the number of targets of the shape nor their choice depends on them. -/
theorem allotted_by_shape {registry : Registry} (hasked : registry.BuildsAsAsked)
    (hshape : registry.contains shape.platform = true) (keep : Bool) (ids : Nat → TargetId)
    (uses : List Use) :
    let final := (empty registry keep ids).after uses
    final.capabilitiesOf shape = uncovered (requiredOf shape uses) ∧
    ∀ before r later, uses = before ++ .resolve r :: later → r.shape.same shape = true →
      ∃ i t, (uncovered (requiredOf shape uses)).findIdx? r.required.subset = some i ∧
        (final.ofShape shape)[i]? = some t ∧
        (((empty registry keep ids).after before).resolve r).1 = .ok t.serial := by
  intro final
  have hcapabilities := capabilitiesOf_after hasked hshape keep ids uses
  refine ⟨hcapabilities, fun before r later huses hr => ?_⟩
  let p := (empty registry keep ids).after before
  -- the request is answered when it is made
  have hkind : registry.contains r.platform = true := by
    rw [Shape.same, Bool.and_eq_true, beq_iff_eq] at hr
    have hplatform : r.platform = shape.platform := hr.1
    rw [hplatform]
    exact hshape
  have hcontains : p.registry.contains r.platform = true :=
    (extends_after (empty registry keep ids) before).provider _ hkind
  have hpool : p.registry.BuildsAsAsked :=
    buildsAsAsked_after (p := empty registry keep ids) hasked before
  obtain ⟨serial, hserial⟩ := exists_resolve_eq_ok hpool hcontains
  -- and the answer is still the first fit at the end
  have hanswered := resolve_answered p r
  rw [hserial] at hanswered
  have hfinal : final = (p.resolve r).2.after later := by
    simp only [final, p, huses, after, List.foldl_append, List.foldl_cons]
    rfl
  have hscan : final.scan r = some serial := by
    rw [hfinal]
    exact (extends_after _ later).scan hanswered.scan.1
  rw [scan_eq_ofShape hr, Option.map_eq_some_iff] at hscan
  obtain ⟨t, ht, rfl⟩ := hscan
  obtain ⟨hserves, i, hi, rfl, hfirst⟩ := List.find?_eq_some_iff_getElem.1 ht
  refine ⟨i, (final.ofShape shape)[i], ?_, List.getElem?_eq_getElem hi, hserial⟩
  rw [← hcapabilities, capabilitiesOf, List.findIdx?_map, List.findIdx?_eq_some_iff_getElem]
  exact ⟨hi, hserves, fun j hj => by simpa using hfirst j hj⟩

/-- Two shapes by turns: of the requests for one of them the first two are not covered by earlier
ones, and the third is answered by the target that was built for the first. -/
theorem allotted_among_other_shapes :
    let registry := Registry.simulated ["mock", "qemu"]
    let shape : Shape := ⟨"mock", []⟩
    let ids : Nat → TargetId := fun n => ⟨BitVec.ofNat 128 n⟩
    let before : List Use :=
      [.resolve ⟨"qemu", [], ∅⟩, .resolve ⟨"mock", [], .ofList ["gpu"]⟩,
        .resolve ⟨"qemu", [], .ofList ["gpu"]⟩, .resolve ⟨"mock", [], .ofList ["gpu", "sriov"]⟩]
    let r : Request := ⟨"mock", [], ∅⟩
    let final := (empty registry false ids).after (before ++ [.resolve r])
    registry.BuildsAsAsked ∧ registry.contains shape.platform = true ∧
      final.capabilitiesOf shape = [.ofList ["gpu"], .ofList ["gpu", "sriov"]] ∧
      r.shape.same shape = true ∧
      ∃ i t, (uncovered (requiredOf shape (before ++ [.resolve r]))).findIdx? r.required.subset =
          some i ∧
        (final.ofShape shape)[i]? = some t ∧
        (((empty registry false ids).after before).resolve r).1 = .ok t.serial := by
  intro registry shape ids before r final
  obtain ⟨hasked, hkinds⟩ := Registry.buildsAsAsked_simulated ["mock", "qemu"]
  have hshape : registry.contains shape.platform = true := (hkinds "mock").2 List.mem_cons_self
  have hr : r.shape.same shape = true := Shape.same_self shape
  obtain ⟨hcapabilities, hanswers⟩ :=
    allotted_by_shape hasked hshape false ids (before ++ [.resolve r])
  refine ⟨hasked, hshape, hcapabilities.trans ?_, hr, hanswers before r [] rfl hr⟩
  rfl

end Pool

end TestBench
