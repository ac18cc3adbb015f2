import TestBench.Proofs.PoolTraffic

/-!
# The teardown of a pool

A teardown goes through the targets in the order in which they were built. If targets are kept it
lists them and asks the platforms for nothing; otherwise it attempts to delete each of them once,
whatever came of the ones before it. `Registry.Attempts` is the chain of these attempts with the
ledgers between them, and `Pool.Settles` says what a teardown comes to in both cases.

A target whose kind nobody answers to could not be attempted. There are none in a pool that was
filled by resolutions, since a target has the kind it was asked for (`Pool.Served`).
-/

set_option autoImplicit false

namespace TestBench

/-- An attempt to delete a target, and what the platform answered. -/
structure Attempt where
  /-- The target. -/
  target : Target
  /-- The answer. -/
  answer : Except String Unit

namespace Attempt

/-- Whether the target was deleted. -/
def isDone (a : Attempt) : Bool := a.answer.isOk

/-- Why the target was not deleted. -/
def fault (a : Attempt) : Pool.Fault :=
  .notDeprovisioned a.target.id
    (match a.answer with
    | .ok _ => ""
    | .error reason => reason)

/-- The identifiers of the targets that were deleted. -/
def deleted (attempts : List Attempt) : List TargetId :=
  (attempts.filter fun a => a.isDone).map (·.target.id)

/-- The faults of the other targets, which name them. -/
def faults (attempts : List Attempt) : List Pool.Fault :=
  (attempts.filter fun a => !a.isDone).map fault

/-- A target was deleted or has a fault. -/
theorem length_deleted_add_length_faults (attempts : List Attempt) :
    (deleted attempts).length + (faults attempts).length = attempts.length := by
  have hsplit := (List.filter_append_perm (fun a : Attempt => a.isDone) attempts).length_eq
  rw [List.length_append] at hsplit
  rw [deleted, faults, List.length_map, List.length_map]
  exact hsplit

end Attempt

/-- A chain of attempts to delete targets. Each is made to the platform that answers to the kind of
its target, and noted in the ledger before the next one. -/
inductive Registry.Attempts : Registry → List Attempt → Registry → Prop where
  /-- Nothing is attempted. -/
  | none (g : Registry) : Attempts g [] g
  /-- A target is attempted, and then others are. -/
  | next (g last : Registry) (t : Target) (place : Nat) (provider : Provider)
      (answer : Except String Unit) (rest : List Attempt)
      (hprovider : g.provider? t.platform = some (place, provider))
      (hanswer : provider.platform.deprovision provider.ledger t = answer)
      (hrest : Attempts (g.note place (.deprovision t answer.isOk)) rest last) :
      Attempts g (⟨t, answer⟩ :: rest) last

namespace Pool

variable {p q : Pool} {done : Teardown}

/-- What a teardown comes to. -/
inductive Settles (p : Pool) : Teardown → Pool → Prop where
  /-- The targets are listed, and nothing else happens. -/
  | kept (hkeep : p.keep = true) :
      Settles p ⟨[], p.targets.map (·.id), []⟩ { p with targets := [] }
  /-- The targets are attempted one after the other, each once. -/
  | attempted (hkeep : p.keep = false) (attempts : List Attempt) (registry : Registry)
      (htargets : attempts.map Attempt.target = p.targets)
      (hattempts : p.registry.Attempts attempts registry) :
      Settles p ⟨Attempt.deleted attempts, [], Attempt.faults attempts⟩
        { p with targets := [], registry := registry }

/-! ## What follows from it -/

/-- **Every target is accounted for**: it was deleted, kept or has a fault. -/
theorem Settles.length_eq (h : Settles p done q) :
    done.deprovisioned.length + done.kept.length + done.failures.length = p.targets.length := by
  cases h with
  | kept hkeep => simp
  | attempted hkeep attempts registry htargets hattempts =>
      rw [← htargets, List.length_map, ← Attempt.length_deleted_add_length_faults attempts]
      rfl

/-! ## Teardowns -/

/-- **Every target with a platform is attempted once**, in the order of the targets and whatever
came of the attempts before. -/
theorem foldl_dismiss_attempts (ts : List Target) (done : Teardown) (hkeep : p.keep = false)
    (hserved : ∀ t ∈ ts, (p.registry.provider? t.platform).isSome = true) :
    ∃ attempts registry, attempts.map Attempt.target = ts ∧
      p.registry.Attempts attempts registry ∧
      ts.foldl dismiss (done, p) =
        (⟨done.deprovisioned ++ Attempt.deleted attempts, done.kept,
          done.failures ++ Attempt.faults attempts⟩, { p with registry := registry }) := by
  induction ts generalizing p done with
  | nil =>
      refine ⟨[], p.registry, rfl, .none _, ?_⟩
      simp [Attempt.deleted, Attempt.faults]
  | cons t rest ih =>
      obtain ⟨⟨place, provider⟩, hprovider⟩ :=
        Option.isSome_iff_exists.1 (hserved t List.mem_cons_self)
      rw [List.foldl_cons, dismiss_of_delete hkeep]
      -- noting a call takes no platform away, so the other targets still have theirs
      have hrest : ∀ call, ∀ u ∈ rest,
          ((p.registry.note place call).provider? u.platform).isSome = true :=
        fun call u hu => Registry.isSome_provider?_note (hserved u (List.mem_cons_of_mem _ hu))
      cases hanswer : provider.platform.deprovision provider.ledger t with
      | ok _ =>
          obtain ⟨attempts, registry, htargets, hattempts, hfold⟩ :=
            ih (p := { p with registry := p.registry.note place (.deprovision t true) })
              { done with deprovisioned := done.deprovisioned ++ [t.id] } hkeep (hrest _)
          refine ⟨⟨t, .ok ()⟩ :: attempts, registry, congrArg (t :: ·) htargets,
            .next _ _ t place provider _ attempts hprovider hanswer hattempts, ?_⟩
          simp only [deprovision, hprovider, hanswer]
          rw [hfold, List.append_assoc]
          rfl
      | error reason =>
          obtain ⟨attempts, registry, htargets, hattempts, hfold⟩ :=
            ih (p := { p with registry := p.registry.note place (.deprovision t false) })
              { done with failures := done.failures ++ [.notDeprovisioned t.id reason] } hkeep
              (hrest _)
          refine ⟨⟨t, .error reason⟩ :: attempts, registry, congrArg (t :: ·) htargets,
            .next _ _ t place provider _ attempts hprovider hanswer hattempts, ?_⟩
          simp only [deprovision, hprovider, hanswer]
          rw [hfold, List.append_assoc]
          rfl

/-- **A teardown settles every target once.** -/
theorem Served.settles (h : Served p) : Settles p p.teardown.1 p.teardown.2 := by
  cases hkeep : p.keep with
  | true =>
      have hall : p.teardown = ({ Teardown.none with kept := [] ++ p.targets.map (·.id) },
          { p with targets := [] }) :=
        foldl_dismiss_of_keep p.targets Teardown.none hkeep
      rw [hall]
      exact .kept hkeep
  | false =>
      obtain ⟨attempts, registry, htargets, hattempts, hfold⟩ :=
        foldl_dismiss_attempts (p := { p with targets := [] }) p.targets Teardown.none hkeep h
      have hall : p.teardown = _ := hfold
      rw [hall]
      exact .attempted hkeep attempts registry htargets hattempts

/-- **Nothing is left for a second teardown.** -/
theorem teardown_of_targets_eq_nil (h : p.targets = []) : p.teardown = (Teardown.none, p) := by
  rw [teardown, h, List.foldl_nil, ← h]

theorem Settles.targets_eq_nil (h : Settles p done q) : q.targets = [] := by
  cases h with
  | kept hkeep => rfl
  | attempted hkeep attempts registry htargets hattempts => rfl

/-- Dropping leases changes nothing in a pool without targets. -/
theorem after_release_eq_self (h : p.targets = []) (drops : List Nat) :
    p.after (drops.map .release) = p := by
  induction drops with
  | nil => rfl
  | cons serial rest ih =>
      have hone : p.release serial = p := by
        rw [release, mapConnection, h, List.map_nil, ← h]
      rw [List.map_cons, after, List.foldl_cons]
      show (p.release serial).after (rest.map .release) = p
      rw [hone]
      exact ih

end Pool

namespace Traffic

/-- In every pool that is reached by traffic, numbers ascend, every kind is answered to, and targets
are kept or not as it was said. -/
theorem pool_facts_after (registry : Registry) (keep : Bool) (ids : Nat → TargetId)
    (moves : List Move) :
    let p := ((start registry keep ids).after moves).pool
    p.Numbered ∧ p.Served ∧ p.keep = keep := by
  refine ⟨?_, ?_, ?_⟩
  · exact pool_after Pool.numbered_kept (fun p _ => p.numbered_teardown)
      (Pool.numbered_empty registry keep ids) moves
  · exact pool_after Pool.served_kept (fun p _ => p.served_teardown)
      (fun _ ht => absurd ht List.not_mem_nil) moves
  · exact pool_after (Pool.keep_kept keep) (fun _ => Pool.keep_teardown) rfl moves

end Traffic

end TestBench
