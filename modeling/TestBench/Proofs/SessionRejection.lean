import TestBench.Proofs.CatalogAcceptance
import TestBench.Proofs.PoolTeardown
import TestBench.Proofs.SessionRun

/-!
# A rejected catalog runs nothing

One test with ill-formed metadata discards the whole catalog. `Session.catalog_valid_or_discarded`
says which catalogs are valid and what becomes of the others: the rejection names the first test that
is not accepted, and a run ends with it. No platform is asked for a target and no executor for a
test, and the session is over.
-/

set_option autoImplicit false

namespace TestBench

namespace Session

variable {s : Session} {config : Config} {playbook : Playbook} {registry : Registry} {runId : RunId}
  {ids : Nat → TargetId} {entries : List Entry} {r : Rejection}

/-- **A run with a rejected catalog ends at once.** There is no target to settle then. -/
theorem run_of_validate_eq_error (htorn : s.tornDown = false) (htargets : s.pool.targets = [])
    (hreject : Catalog.validate entries = .error r) (executor : Executor) :
    s.run executor entries = .ok
      ((Report.discarded s.runId r.message).finish Teardown.none, { s with tornDown := true }) := by
  have hclose : s.close = (Teardown.none, { s with tornDown := true }) := by
    rw [close, Pool.teardown_of_targets_eq_nil htargets]
  rw [Session.run, htorn, hreject]
  simp only [Bool.false_eq_true, if_false, hclose]

/-- A session that is over runs nothing. -/
theorem run_of_tornDown (htorn : s.tornDown = true) (executor : Executor) :
    s.run executor entries = .error (.tornDown s.runId) := by
  rw [Session.run, if_pos htorn]

/-- **A catalog is valid, or it is discarded as a whole.** It is valid if every entry has no metadata
or well-formed metadata; in the documents of the entries the metadata may stand as null as well. A
valid catalog has one test for each entry, in their order. Another one is rejected because of the
first entry that is not accepted. A run of a session that was just opened ends with the rejection:
its report has the text of the rejection and is no success, nothing was executed and no test was
dropped, the pool is as it was, so no platform has been asked for anything, and so are the calls of
executors. After that the session runs nothing. -/
theorem catalog_valid_or_discarded
    (hopen : withPlaybook config playbook registry runId ids = .ok s) (entries : List Entry) :
    ((∃ tests, Catalog.validate entries = .ok tests) ↔ ∀ e ∈ entries, e.Accepted) ∧
      (∀ documents : List Json, (∀ d ∈ documents, d.Proper) →
        documents.mapM Entry.ofJson = .ok entries →
          ((∃ tests, Catalog.validate entries = .ok tests) ↔ ∀ d ∈ documents, ∀ v,
            Entry.metadataIn d = some v → v = .null ∨ Metadata.IsWellFormed v)) ∧
      (∀ tests, Catalog.validate entries = .ok tests →
        List.Forall₂ Entry.Becomes entries tests) ∧
      ∀ r, Catalog.validate entries = .error r →
        (∃ before e after, entries = before ++ e :: after ∧ (∀ e' ∈ before, e'.Accepted) ∧
          ¬ e.Accepted ∧ r.test = e.name) ∧
        ∀ executor : Executor, ∃ report s', s.run executor entries = .ok (report, s') ∧
          report.invocations = [] ∧ report.dropped = [] ∧ report.diagnostic = some r.message ∧
          report.isSuccess = false ∧ s'.pool = .empty registry config.keepTargets ids ∧
          s'.calls = [] ∧ s'.tornDown = true ∧
          ∀ (executor' : Executor) (entries' : List Entry),
            s'.run executor' entries' = .error (.tornDown runId) := by
  refine ⟨Catalog.exists_validate_iff, fun documents hproper hread => ?_, fun tests hvalid => ?_,
    fun r hreject => ⟨Catalog.first_of_validate hreject, fun executor => ?_⟩⟩
  · exact Catalog.exists_validate_iff_of_documents hproper hread
  · exact Catalog.becomes_of_validate hvalid
  · obtain rfl := eq_of_withPlaybook hopen
    refine ⟨_, _, run_of_validate_eq_error rfl rfl hreject executor, rfl, rfl, rfl, rfl, rfl, rfl,
      rfl, fun executor' entries' => ?_⟩
    exact run_of_tornDown rfl executor'

/-- The second of three tests has a priority out of range. -/
theorem catalog_discarded_for_priority :
    let metadata (priority : Int) : Json := .object
      [("area", .string "net"), ("category", .string "basic"), ("priority", .int priority)]
    let entries : List Entry :=
      [⟨"a", some (metadata 5), true, ∅⟩, ⟨"b", some (metadata 6), true, ∅⟩, ⟨"c", none, false, ∅⟩]
    let ids : Nat → TargetId := fun n => ⟨BitVec.ofNat 128 n⟩
    let s : Session := ⟨⟨0⟩, .usual, ∅, .empty .builtin false ids, [], false⟩
    withPlaybook .usual ∅ .builtin ⟨0⟩ ids = .ok s ∧
      ∃ report s', s.run .dryRun entries = .ok (report, s') ∧ report.invocations = [] ∧
        report.diagnostic =
          some "test b failed LISA validation: priority: priority must be between 0 and 5" := by
  intro metadata entries ids s
  have hopen : withPlaybook .usual ∅ .builtin ⟨0⟩ ids = .ok s := by rfl
  obtain ⟨-, -, -, hdiscarded⟩ := catalog_valid_or_discarded hopen entries
  let r : Rejection := ⟨"b", .content ["priority: priority must be between 0 and 5"]⟩
  have hreject : Catalog.validate entries = .error r := by rfl
  obtain ⟨report, s', hrun, hnone, -, hdiagnostic, -⟩ := (hdiscarded r hreject).2 .dryRun
  exact ⟨hopen, report, s', hrun, hnone, hdiagnostic⟩

end Session

end TestBench
