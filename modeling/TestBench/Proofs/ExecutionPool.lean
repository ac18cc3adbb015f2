import TestBench.Proofs.ExecutionRun
import TestBench.Proofs.PoolTraffic

/-!
# The pool of an execution

An execution does nothing to its pool but what resolutions and leases do: somebody joins or leaves
the queue of a slot, a resolution settles, a lease is dropped. So whatever is kept by these is kept
by every turn (`Execution.Turn.kept`) and by a run of any length (`Execution.kept_run`).
-/

set_option autoImplicit false

namespace TestBench

namespace Execution

variable {e next : Execution} {t : Task} {events : List Event} {P : Pool → Prop}

@[simp] theorem pool_fill (e : Execution) : e.fill.pool = e.pool :=
  fill_induction (P := fun f => f.pool = e.pool) rfl fun _ _ _ _ h => h

/-- A report gives the lease back, if there was one. -/
theorem pool_conclude (e : Execution) (t : Task) (target : Option Target) (outcome : Outcome) :
    (e.conclude t target outcome).pool =
      match target with
      | some target => e.pool.release target.serial
      | none => e.pool := by
  rw [conclude_eq_fill, pool_fill]
  rfl

theorem kept_conclude (hP : Pool.Kept P) (h : P e.pool) (t : Task) (target : Option Target)
    (outcome : Outcome) : P (e.conclude t target outcome).pool := by
  rw [pool_conclude]
  cases target with
  | none => exact h
  | some target => exact hP.release _ _ h

theorem kept_runBody (hP : Pool.Kept P) (h : P e.pool) (t : Task) (target : Option Target) :
    P (e.runBody t target).pool := by
  rw [runBody]
  simp only
  split
  · exact kept_conclude (e := { e with calls := e.calls ++ [⟨t.invocation, target⟩] }) hP h t
      target _
  · exact h

/-- **A turn keeps what resolutions and leases keep.** -/
theorem Turn.kept (hturn : Turn e t events next) (hP : Pool.Kept P) (h : P e.pool) :
    P next.pool := by
  cases hturn with
  | enqueued spec hspec hfrom hholder => exact hP.slots _ _ h
  | entered spec hspec hfrom finish hfinish hholder => exact hP.slots _ _ h
  | begins spec hspec hfrom finish hfinish hholder => exact h
  | refused spec hspec hfrom fault q hq =>
      apply kept_conclude hP
      exact hP.slots _ _ (hP.settled _ _ _ _ hq h)
  | served spec hspec hfrom target q hq htarget =>
      apply kept_runBody hP
      exact hP.slots _ _ (hP.settled _ _ _ _ hq h)
  | untargeted hspec hfrom => exact kept_runBody hP h t none
  | ended target finish outcome hfrom => exact kept_conclude hP h t target outcome

/-- **A run keeps what resolutions and leases keep**, however far it goes. -/
theorem kept_run (hP : Pool.Kept P) {width : Nat} (limit : Option Duration) (executor : Executor)
    {pool : Pool} (calls : List ExecutorCall) (plan : List Invocation) (hwidth : 0 < width)
    (hslots : pool.slots = []) (h : P pool) (n : Nat) :
    P ((start width limit executor pool calls plan).run n).pool := by
  have hsound := sound_start limit executor calls plan hwidth hslots
  have hstart : P (start width limit executor pool calls plan).pool := by
    rw [start, pool_fill]
    exact h
  refine (hsound.run_induction (P := fun _ e => P e.pool) ?_ hstart n).2
  intro history e next hs he hstep
  rcases hs.step_cases hstep with ⟨t, rest, -, -, -, hturn⟩ | ⟨time, -, -, -, rfl⟩
  · exact hturn.kept hP he
  · exact he

end Execution

end TestBench
