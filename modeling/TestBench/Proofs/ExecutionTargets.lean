import TestBench.Proofs.ExecutionPool

/-!
# The targets that bodies run on

Platforms are not trusted: what one builds may bear another kind, have other parameters or lack a
feature. `ExecutorCall.Suits` says what a call to the executor has to hand over all the same. It has
a target just if its invocation names a specification; then the target has the platform and the
parameters of the specification, and every feature that the metadata of the test lists.

`Execution.Provided` says this of all calls so far. What carries it from step to step is that a
lease stands for one target: a resolution is answered with a serial number by one target that was
compared with the request, in the first scan, in the second or after it was built, and the body is
handed the target found under that number. So the numbers have to ascend in the pool, which is kept
by every turn.
-/

set_option autoImplicit false

namespace TestBench

/-- A call hands to the body what its invocation needs. -/
inductive ExecutorCall.Suits : ExecutorCall → Prop where
  /-- The invocation needs no target, and gets none. -/
  | untargeted (i : Invocation) (h : i.target = none) : Suits ⟨i, none⟩
  /-- The invocation gets a target of its specification with the features of its test. -/
  | targeted (i : Invocation) (spec : TargetSpec) (t : Target) (h : i.target = some spec)
      (hplatform : t.platform = spec.platform)
      (hparameters : Json.sameFields t.parameters spec.parameters = true)
      (hfeatures : ∀ m, i.test.metadata = some m → ∀ f ∈ m.features, f ∈ t.capabilities) :
      Suits ⟨i, some t⟩

/-- A suitable call comes without a target just if its invocation needs none. -/
theorem ExecutorCall.Suits.target_eq_none_iff {call : ExecutorCall} (h : call.Suits) :
    call.target = none ↔ call.invocation.target = none := by
  cases h with
  | untargeted i hi => exact iff_of_true rfl hi
  | targeted i spec t hi hplatform hparameters hfeatures =>
      have hsome : i.target ≠ none := fun hnone => Option.some_ne_none spec (hi.symm.trans hnone)
      exact iff_of_false (Option.some_ne_none t) hsome

/-- **What the pool compares is what the invocation needs.** -/
theorem Invocation.suits_of_satisfies {i : Invocation} {spec : TargetSpec} {t : Target}
    (hspec : i.target = some spec) (h : t.satisfies (i.request spec) = true) :
    ExecutorCall.Suits ⟨i, some t⟩ := by
  simp only [Target.satisfies, Invocation.request, Bool.and_eq_true, beq_iff_eq] at h
  obtain ⟨⟨hplatform, hparameters⟩, hrequired⟩ := h
  refine .targeted i spec t hspec hplatform hparameters fun m hm f hf => ?_
  have hneeded : f ∈ i.test.requiredFeatures := by
    rw [Case.requiredFeatures, hm]
    exact hf
  exact NameSet.subset_eq_true_iff.1 hrequired f hneeded

namespace Execution

variable {plan : List Invocation} {history events : List Event} {e next : Execution} {t : Task}

/-! ## The calls of a turn -/

/-- **A call that is made in a turn suits its invocation**, which is the one whose turn it is. -/
theorem Turn.suits (h : Turn e t events next) (hn : e.pool.Numbered) {index number : Nat}
    {call : ExecutorCall} (hcall : .called index number call ∈ events) :
    index = t.index ∧ call.invocation = t.invocation ∧ call.Suits := by
  cases h with
  | enqueued spec hspec hfrom hholder => cases hcall
  | entered spec hspec hfrom finish hfinish hholder => cases hcall
  | begins spec hspec hfrom finish hfinish hholder => cases hcall
  | refused spec hspec hfrom fault q hq =>
      -- the settlement is the only event
      cases List.mem_singleton.1 hcall
  | served spec hspec hfrom target q hq htarget =>
      rcases List.mem_cons.1 hcall with hsettled | hcall
      · cases hsettled
      · cases List.mem_singleton.1 hcall
        have hsatisfies := hq.satisfies hn htarget
        exact ⟨rfl, rfl, Invocation.suits_of_satisfies hspec hsatisfies⟩
  | untargeted hspec hfrom =>
      cases List.mem_singleton.1 hcall
      exact ⟨rfl, rfl, .untargeted t.invocation hspec⟩
  | ended target finish outcome hfrom => cases hcall

/-! ## The calls of a run -/

/-- Up to now every call was made for the invocation at its place in the plan and suited it, and
leases stand for one target each. -/
structure Provided (plan : List Invocation) (history : List Event) (e : Execution) : Prop where
  /-- Numbers ascend in the pool. -/
  numbered : e.pool.Numbered
  /-- The calls. -/
  calls : ∀ (index number : Nat) (call : ExecutorCall), .called index number call ∈ history →
    plan[index]? = some call.invocation ∧ call.Suits

variable {executor : Executor} {limit : Option Duration} {before : List ExecutorCall}

/-- **A step preserves that all calls were suitable.** -/
theorem Provided.step (h : Provided plan history e)
    (hsound : Sound executor limit plan before history e) (hstep : e.step = some next) :
    Provided plan (history ++ e.events) next := by
  rcases hsound.step_cases hstep with
    ⟨t, rest, -, ht, -, hturn⟩ | ⟨time, -, -, hevents, rfl⟩
  · have hn : (e.take rest).pool.Numbered := h.numbered
    refine ⟨hturn.kept Pool.numbered_kept hn, fun index number call hcall => ?_⟩
    rcases List.mem_append.1 hcall with hearlier | hnow
    · exact h.calls index number call hearlier
    · obtain ⟨rfl, hinvocation, hsuits⟩ := hturn.suits hn hnow
      exact ⟨hinvocation ▸ hsound.placed.invocation t ht, hsuits⟩
  · rw [hevents, List.append_nil]
    exact ⟨h.numbered, h.calls⟩

/-- **However far a plan has been executed**, all calls so far were suitable, and they are the calls
that the execution has noted. -/
theorem provided_run {width : Nat} (limit : Option Duration) (executor : Executor) {pool : Pool}
    (calls : List ExecutorCall) (plan : List Invocation) (hwidth : 0 < width)
    (hslots : pool.slots = []) (hn : pool.Numbered) (n : Nat) :
    let e := start width limit executor pool calls plan
    Provided plan (e.trace n) (e.run n) ∧
      (e.run n).calls.zipIdx = calls.zipIdx ++ (e.trace n).filterMap Event.call? := by
  intro e
  have hsound := sound_start limit executor calls plan hwidth hslots
  have hpool : e.pool = pool := pool_fill _
  have hprovided : Provided plan [] e :=
    ⟨hpool ▸ hn, fun _ _ _ hcall => absurd hcall List.not_mem_nil⟩
  obtain ⟨hends, hkept⟩ := hsound.run_induction (P := Provided plan)
    (fun _ _ _ hs hp hstep => hp.step hs hstep) hprovided n
  exact ⟨hkept, hends.recounted.calls⟩

end Execution

end TestBench
