import TestBench.Fleet.Gathering
import TestBench.Proofs.CompactText
import TestBench.Proofs.CrowdedPool
import TestBench.Proofs.JsonEquality
import TestBench.Proofs.PlatformsAsAsked
import TestBench.Proofs.ResolutionPolls

/-!
# What the slots of requests stand for

Two requests could share a target when they ask for one platform and for equal parameters, as
`Json.sameFields` compares them. Their slots are compared as texts. The two comparisons agree on
everything but the sign of zero: `0.0` and `-0.0` are equal parameters with different texts.

A compact text determines its value (`Json.compact_inj`), and a value is determined by what it is
equal to and by the signs of its zeros (`Json.eq_iff_same`). So requests that contend for a slot could
share a target, and requests that could share a target contend exactly when the zeros of their
parameters have the same signs (`Request.slot_canonical_up_to_zero_signs`). Requests that do not
contend may both be building a target at one time (`Crowd.building_side_by_side`).
-/

set_option autoImplicit false

namespace TestBench

namespace Json

variable {a b : Json}

/-! ## The signs of zeros -/

mutual

/-- Whether the zeros among the floating point numbers of a value are negative, in their order. -/
def zeroSigns : Json → List Bool
  | float x => if x.isZero then [x.negative] else []
  | array items => zeroSignsList items
  | object fields => zeroSignsFields fields
  | _ => []

/-- The signs of the zeros of a sequence. -/
def zeroSignsList : List Json → List Bool
  | [] => []
  | a :: as => zeroSigns a ++ zeroSignsList as

/-- The signs of the zeros of fields. -/
def zeroSignsFields : List (String × Json) → List Bool
  | [] => []
  | (_, a) :: fields => zeroSigns a ++ zeroSignsFields fields

end

mutual

/-- **Equal values with equal signs at their zeros are identical.** The signs are compared with those
that stand behind them, so that a sequence can be taken item by item. -/
theorem eq_of_same : ∀ {a b : Json} {signs signs' : List Bool}, same a b = true →
    zeroSigns a ++ signs = zeroSigns b ++ signs' → a = b ∧ signs = signs'
  | null, b, signs, signs', h, hsigns => by
      cases b with
      | null => exact ⟨rfl, hsigns⟩
      | _ => simp [same] at h
  | bool x, b, signs, signs', h, hsigns => by
      cases b with
      | bool y =>
          simp only [same, beq_iff_eq] at h
          exact ⟨congrArg bool h, hsigns⟩
      | _ => simp [same] at h
  | int i, b, signs, signs', h, hsigns => by
      cases b with
      | int j =>
          simp only [same, beq_iff_eq] at h
          exact ⟨congrArg int h, hsigns⟩
      | _ => simp [same] at h
  | float x, b, signs, signs', h, hsigns => by
      cases b with
      | float y =>
          simp only [same] at h
          rcases Number.Double.same_eq_true_iff.1 h with rfl | ⟨hx, hy⟩
          · exact ⟨rfl, List.append_cancel_left hsigns⟩
          · -- two zeros, each with its sign
            simp only [zeroSigns, hx, hy, if_true] at hsigns
            obtain ⟨hnegative, hbehind⟩ := List.cons.inj hsigns
            have hxy : x = y := by
              rw [Number.Double.eq_zero_of_isZero hx, Number.Double.eq_zero_of_isZero hy, hnegative]
            exact ⟨congrArg float hxy, hbehind⟩
      | _ => simp [same] at h
  | string s, b, signs, signs', h, hsigns => by
      cases b with
      | string t =>
          simp only [same, beq_iff_eq] at h
          exact ⟨congrArg string h, hsigns⟩
      | _ => simp [same] at h
  | array items, b, signs, signs', h, hsigns => by
      cases b with
      | array items' =>
          simp only [same] at h
          simp only [zeroSigns] at hsigns
          obtain ⟨hitems, hbehind⟩ := eq_of_sameList h hsigns
          exact ⟨congrArg array hitems, hbehind⟩
      | _ => simp [same] at h
  | object fields, b, signs, signs', h, hsigns => by
      cases b with
      | object fields' =>
          simp only [same] at h
          simp only [zeroSigns] at hsigns
          obtain ⟨hfields, hbehind⟩ := eq_of_sameFields h hsigns
          exact ⟨congrArg object hfields, hbehind⟩
      | _ => simp [same] at h

/-- Equal sequences with equal signs at their zeros are identical. -/
theorem eq_of_sameList : ∀ {l m : List Json} {signs signs' : List Bool}, sameList l m = true →
    zeroSignsList l ++ signs = zeroSignsList m ++ signs' → l = m ∧ signs = signs'
  | [], m, signs, signs', h, hsigns => by
      cases m with
      | nil => exact ⟨rfl, hsigns⟩
      | cons b m => simp [sameList] at h
  | a :: l, m, signs, signs', h, hsigns => by
      cases m with
      | nil => simp [sameList] at h
      | cons b m =>
          simp only [sameList, Bool.and_eq_true] at h
          simp only [zeroSignsList, List.append_assoc] at hsigns
          obtain ⟨rfl, htail⟩ := eq_of_same h.1 hsigns
          obtain ⟨rfl, hbehind⟩ := eq_of_sameList h.2 htail
          exact ⟨rfl, hbehind⟩

/-- Equal fields with equal signs at their zeros are identical. -/
theorem eq_of_sameFields : ∀ {l m : List (String × Json)} {signs signs' : List Bool},
    sameFields l m = true → zeroSignsFields l ++ signs = zeroSignsFields m ++ signs' →
      l = m ∧ signs = signs'
  | [], m, signs, signs', h, hsigns => by
      cases m with
      | nil => exact ⟨rfl, hsigns⟩
      | cons b m => simp [sameFields] at h
  | (k, a) :: l, m, signs, signs', h, hsigns => by
      cases m with
      | nil => simp [sameFields] at h
      | cons q m =>
          obtain ⟨k', b⟩ := q
          simp only [sameFields, Bool.and_eq_true, beq_iff_eq] at h
          obtain ⟨⟨rfl, hvalue⟩, hrest⟩ := h
          simp only [zeroSignsFields, List.append_assoc] at hsigns
          obtain ⟨rfl, htail⟩ := eq_of_same hvalue hsigns
          obtain ⟨rfl, hbehind⟩ := eq_of_sameFields hrest htail
          exact ⟨rfl, hbehind⟩

end

/-- Equality of values is identity up to the signs of zeros. -/
theorem eq_iff_same : a = b ↔ same a b = true ∧ zeroSigns a = zeroSigns b := by
  constructor
  · rintro rfl
    exact ⟨same_self a, rfl⟩
  · rintro ⟨hsame, hsigns⟩
    have happend : zeroSigns a ++ [] = zeroSigns b ++ [] := by rw [hsigns]
    exact (eq_of_same hsame happend).1

/-- **Compact texts are equal exactly for equal values with the same signs at their zeros.** -/
theorem compact_eq_iff : a.compact = b.compact ↔ same a b = true ∧ zeroSigns a = zeroSigns b := by
  rw [← eq_iff_same]
  exact ⟨compact_inj, congrArg compact⟩

end Json

/-! ## Resolutions side by side -/

namespace Crowd

variable {C : Crowd} {caller : Nat} {r s : Request} {stage next : Stage} {p q : Pool}

/-- One stride of a resolution that need not wait. -/
theorem at_stride (hat : C.At caller r stage) (hpool : C.pool = p)
    (hstep : p.stride caller r stage = some (next, q)) :
    (C.stride caller).At caller r next ∧ (C.stride caller).pool = q ∧
      ∀ j, j ≠ caller → (C.stride caller).calls[j]? = C.calls[j]? := by
  have hmove : C.stride caller = C.move caller r stage next q := by
    rw [At] at hat
    simp only [stride, hat, hpool, hstep]
  have hlength : caller < C.calls.length := (List.getElem?_eq_some_iff.1 hat).1
  rw [hmove]
  refine ⟨List.getElem?_set_self hlength, rfl, fun j hj => ?_⟩
  exact List.getElem?_set_ne hj.symm

/-- A resolution that finds no target and meets nobody at its slot is building after four strides,
and its place in the queue is all that has changed. -/
theorem at_lacking_of_free (hat : C.At caller r .arriving) (htargets : C.pool.targets = [])
    (hknown : C.pool.registry.contains r.platform = true)
    (hfree : C.pool.slots.holder? r.slot = none) :
    ∃ D, C.after (List.replicate 4 (.stride caller)) = D ∧ D.At caller r .lacking ∧
      D.pool = { C.pool with slots := C.pool.slots.join r.slot caller } ∧
        ∀ j, j ≠ caller → D.calls[j]? = C.calls[j]? := by
  obtain ⟨entry, hentry⟩ := Option.isSome_iff_exists.1 hknown
  have hscan : C.pool.scan r = none := by
    rw [Pool.scan, htargets]
    rfl
  have hfirst : C.pool.stride caller r .arriving = some (.wanting, C.pool) := by
    simp only [Pool.stride, hentry, hscan]
  -- from here on it is at the head of the queue of its slot
  let q := { C.pool with slots := C.pool.slots.join r.slot caller }
  have hhead : q.slots.holder? r.slot = some caller := by
    rw [SlotQueue.holder?_join, hfree, if_pos rfl]
    rfl
  have hsecond : C.pool.stride caller r .wanting = some (.queued, q) := rfl
  have hthird : q.stride caller r .queued = some (.holding, q) := if_pos hhead
  have hagain : q.scan r = none := hscan
  have hfourth : q.stride caller r .holding = some (.lacking, q) := by
    simp only [Pool.stride, hagain]
  obtain ⟨hat₁, hpool₁, hcalls₁⟩ := at_stride hat rfl hfirst
  obtain ⟨hat₂, hpool₂, hcalls₂⟩ := at_stride hat₁ hpool₁ hsecond
  obtain ⟨hat₃, hpool₃, hcalls₃⟩ := at_stride hat₂ hpool₂ hthird
  obtain ⟨hat₄, hpool₄, hcalls₄⟩ := at_stride hat₃ hpool₃ hfourth
  refine ⟨_, rfl, hat₄, hpool₄, fun j hj => ?_⟩
  rw [← hcalls₁ j hj, ← hcalls₂ j hj, ← hcalls₃ j hj, ← hcalls₄ j hj]
  rfl

/-- Two requests arrive, and the resolution of each goes on four times. -/
def sideBySide (r s : Request) : List Move :=
  [.arrive r, .arrive s] ++ List.replicate 4 (.stride 0) ++ List.replicate 4 (.stride 1)

/-- **Two targets may be built at one time for requests with different slots**, whatever targets
could serve them. -/
theorem building_side_by_side (registry : Registry) (keep : Bool) (ids : Nat → TargetId)
    (hr : registry.contains r.platform = true) (hs : registry.contains s.platform = true)
    (hslot : r.slot ≠ s.slot) :
    let C := (start registry keep ids).after (sideBySide r s)
    C.At 0 r .lacking ∧ C.At 1 s .lacking := by
  intro C
  -- the first one has gone on before the second one starts
  have hboth : ((start registry keep ids).after [.arrive r, .arrive s]).At 0 r .arriving := rfl
  obtain ⟨D, hfirst, hlacking, hpool, hcalls⟩ := at_lacking_of_free hboth rfl hr rfl
  have harrived : D.At 1 s .arriving := by
    rw [At, hcalls 1 (by decide)]
    rfl
  have hfree : D.pool.slots.holder? s.slot = none := by
    rw [hpool, SlotQueue.holder?_join, if_neg hslot]
    rfl
  have htargets : D.pool.targets = [] := by
    rw [hpool]
    rfl
  have hknown : D.pool.registry.contains s.platform = true := by
    rw [hpool]
    exact hs
  obtain ⟨E, hsecond, hlacking', -, hcalls'⟩ := at_lacking_of_free harrived htargets hknown hfree
  have hrun : C = E := by
    rw [← hsecond, ← hfirst]
    simp only [C, after, sideBySide, List.foldl_append]
  rw [hrun]
  refine ⟨?_, hlacking'⟩
  rw [At, hcalls' 0 (by decide)]
  exact hlacking

end Crowd

/-! ## Requests -/

namespace Request

variable {r s : Request}

/-- Some target may serve both requests. -/
def CouldShare (r s : Request) : Prop := ∃ t : Target, t.satisfies r = true ∧ t.satisfies s = true

/-- Resolutions of the two requests never hold what each has locked at one time, at whatever pool and
in whatever interleaving with others. -/
def Contends (r s : Request) : Prop :=
  ∀ (registry : Registry) (keep : Bool) (ids : Nat → TargetId) (moves : List Crowd.Move),
    let C := (Crowd.start registry keep ids).after moves
    ∀ caller j stage stage', C.At caller r stage → C.At j s stage' →
      stage.holds = true → stage'.holds = true → caller = j

/-- The signs of the zeros among the parameters, in the order of their keys. -/
def zeroSigns (r : Request) : List Bool := Json.zeroSignsFields r.parameters

/-- Requests could share a target exactly when they ask for one platform and for equal parameters,
whatever they require. -/
theorem couldShare_iff : r.CouldShare s ↔
    r.platform = s.platform ∧ Json.sameFields r.parameters s.parameters = true := by
  constructor
  · rintro ⟨t, hr, hs⟩
    simp only [Target.satisfies, Bool.and_eq_true, beq_iff_eq] at hr hs
    exact ⟨hr.1.1.symm.trans hs.1.1, Json.sameFields_trans (Json.sameFields_symm hr.1.2) hs.1.2⟩
  · rintro ⟨hplatform, hparameters⟩
    -- what was built for the one request, with the capabilities that either requires
    refine ⟨⟨0, ⟨0⟩, r.platform, r.parameters, r.required.union s.required, "", .unused⟩, ?_, ?_⟩
    · have hrequired : r.required.subset (r.required.union s.required) = true :=
        NameSet.subset_eq_true_iff.2 fun a ha => NameSet.mem_union.2 (.inl ha)
      simp only [Target.satisfies, hrequired, Json.sameFields_self, beq_self_eq_true, Bool.and_self]
    · have hrequired : s.required.subset (r.required.union s.required) = true :=
        NameSet.subset_eq_true_iff.2 fun a ha => NameSet.mem_union.2 (.inr ha)
      simp only [Target.satisfies, hrequired, hparameters, hplatform, beq_self_eq_true,
        Bool.and_self]

/-- **Requests contend exactly for one slot.** -/
theorem contends_iff : r.Contends s ↔ r.slot = s.slot := by
  constructor
  · intro h
    -- otherwise both get through to building where either platform is known
    by_contra hslot
    have hknown := (Registry.buildsAsAsked_simulated [r.platform, s.platform]).2
    have hr := (hknown r.platform).2 (by simp)
    have hs := (hknown s.platform).2 (by simp)
    obtain ⟨hfirst, hsecond⟩ := Crowd.building_side_by_side _ false (fun _ => ⟨0⟩) hr hs hslot
    exact absurd (h _ _ _ _ _ _ _ _ hfirst hsecond rfl rfl) (by decide)
  · intro hslot registry keep ids moves C caller j stage stage' hcaller hj hholds hholds'
    exact (Crowd.guarded_after registry keep ids moves).eq_of_holds hcaller hj hholds hholds' hslot

theorem compact_parameters_eq_iff :
    (Json.object r.parameters).compact = (Json.object s.parameters).compact ↔
      Json.sameFields r.parameters s.parameters = true ∧ r.zeroSigns = s.zeroSigns :=
  Json.compact_eq_iff

theorem contends_iff_couldShare :
    r.Contends s ↔ r.CouldShare s ∧ r.zeroSigns = s.zeroSigns := by
  rw [contends_iff, couldShare_iff, slot, slot, Prod.mk.injEq, compact_parameters_eq_iff, and_assoc]

/-- **Slots are canonical up to the signs of zeros.** The texts of parameters are equal exactly for
equal parameters whose zeros have the same signs; so requests that contend could share a target, and
those that could share one contend if the signs agree. The texts are equal just for equal parameters,
and requests contend just if they could share a target, unless the parameters are equal and differ
in the sign of a zero. -/
theorem slot_canonical_up_to_zero_signs (r s : Request) :
    ((Json.object r.parameters).compact = (Json.object s.parameters).compact ↔
        Json.sameFields r.parameters s.parameters = true ∧ r.zeroSigns = s.zeroSigns) ∧
      (r.Contends s ↔ r.CouldShare s ∧ r.zeroSigns = s.zeroSigns) ∧
      ((((Json.object r.parameters).compact = (Json.object s.parameters).compact ↔
            Json.sameFields r.parameters s.parameters = true) ∧
          (r.Contends s ↔ r.CouldShare s)) ↔
        (Json.sameFields r.parameters s.parameters = true → r.zeroSigns = s.zeroSigns)) := by
  refine ⟨compact_parameters_eq_iff, contends_iff_couldShare, ?_⟩
  rw [compact_parameters_eq_iff, contends_iff_couldShare]
  constructor
  · rintro ⟨htexts, -⟩ hsame
    exact (htexts.2 hsame).2
  · intro hsigns
    refine ⟨⟨And.left, fun hsame => ⟨hsame, hsigns hsame⟩⟩, And.left, fun hshare => ?_⟩
    exact ⟨hshare, hsigns (couldShare_iff.1 hshare).2⟩

/-- A request with one parameter, the zero of the given sign. -/
def forZero (negative : Bool) : Request :=
  ⟨"mock", [("x", .float (Number.Double.zero negative))], ∅⟩

/-- Requests for `0.0` and for `-0.0` could share a target and do not contend. Where building takes
time, resolving them together builds two targets, and one is built for a request that is made
twice. -/
theorem signed_zeros_do_not_contend :
    let slow : Simulation := { Simulation.basic "mock" with delay := 10 }
    let registry := Registry.empty.register "mock" slow.platform
    let p := Pool.empty registry false fun n => ⟨BitVec.ofNat 128 n⟩
    Json.sameFields (forZero false).parameters (forZero true).parameters = true ∧
      (forZero false).CouldShare (forZero true) ∧
      (Json.object (forZero false).parameters).compact ≠
        (Json.object (forZero true).parameters).compact ∧
      ¬(forZero false).Contends (forZero true) ∧
      (p.resolveAll [forZero false, forZero true]).2.targets.length = 2 ∧
      (p.resolveAll [forZero false, forZero false]).2.targets.length = 1 := by
  intro slow registry p
  have hsame : Json.sameFields (forZero false).parameters (forZero true).parameters = true := by
    decide
  have hsigns : (forZero false).zeroSigns ≠ (forZero true).zeroSigns := by
    decide
  refine ⟨hsame, couldShare_iff.2 ⟨rfl, hsame⟩, fun htext => ?_, fun hcontends => ?_, ?_, ?_⟩
  · exact hsigns (compact_parameters_eq_iff.1 htext).2
  · exact hsigns (contends_iff_couldShare.1 hcontends).2
  · decide +kernel
  · decide +kernel

end Request

end TestBench
