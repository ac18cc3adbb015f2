import Mathlib
import TestBench.Console.Program
import TestBench.Proofs.PoolAllotment
import TestBench.Proofs.SessionPlatforms
import TestBench.Proofs.SessionRejection

/-!
# What the exit code says

The program runs no bodies, and its platform builds what it is asked for. So its exit code depends on
what it was given, and not on how the run went: a run that starts with a catalog that is accepted
passes, whatever is selected and however many invocations are in flight.

The reason is that every answer to an invocation is a target (`Execution.passed_complete`). This is
true of every registry whose platforms build as asked, as long as the plan asks for kinds that are
registered, and those of a session do (`Session.run_dryRun`). `Program.exit_code_decided` adds what
comes before the session and after its report.
-/

set_option autoImplicit false

namespace TestBench

/-- A body that passes at once is in time for every limit. -/
theorem Body.EndsAs.eq_passed {limit : Option Duration} {outcome : Outcome}
    (h : (Body.mk 0 .passed).EndsAs limit outcome) : outcome = .passed := by
  cases h with
  | passed htime h => rfl
  | failed htime message h => cases h
  | skipped htime reason h => cases h
  | raised htime causes h => cases h
  | brokeDown htime h => cases h
  | late d hlimit hlate => exact absurd hlate (Nat.not_lt_zero d.ticks)

namespace Pool

variable {p q : Pool} {g : Registry} {r : Request}

/-- Platforms that build what they are asked for still do, whatever was done with the pool. -/
theorem Known.buildsAsAsked (h : p.Known g) (hasked : g.BuildsAsAsked) :
    p.registry.BuildsAsAsked := by
  intro kind place provider hp
  have hplatform : g.platform? kind = some provider.platform :=
    (congrFun h.platforms kind).symm.trans (Registry.platform?_of_provider? hp)
  obtain ⟨⟨place', provider'⟩, hp', hsame⟩ := Option.map_eq_some_iff.1 hplatform
  exact hsame ▸ hasked kind place' provider' hp'

/-- **A resolution settles with a target**, if platforms build what they are asked for. -/
theorem Reached.exists_ok {now : Nat} {phase : Resolution} {answer : Except Fault Nat}
    (h : Reached p r now phase (.settled answer) q) (hasked : p.registry.BuildsAsAsked)
    (hknown : (p.registry.provider? r.platform).isSome = true) : ∃ serial, answer = .ok serial := by
  obtain ⟨⟨place, provider⟩, hp⟩ := Option.isSome_iff_exists.1 hknown
  rcases h.ok_or_built hp with hok | rfl
  · exact hok
  · obtain ⟨t, -, -, hbuilt, -⟩ := build_asked p place (hasked _ _ _ hp)
    exact ⟨t.serial, hbuilt⟩

end Pool

namespace Execution

/-- **Every invocation passes** if its body is not run, and platforms build what they are asked
for. -/
theorem passed_complete {width : Nat} (limit : Option Duration) {pool : Pool} {g : Registry}
    (calls : List ExecutorCall) (plan : List Invocation) (hwidth : 0 < width)
    (hslots : pool.slots = []) (hpool : pool.Known g) (hasked : g.BuildsAsAsked)
    (hknown : ∀ i ∈ plan, ∀ spec, i.target = some spec → g.contains spec.platform = true) :
    ∀ r ∈ (complete width limit .dryRun pool calls plan).results, r.outcome = .passed := by
  intro r hr
  obtain ⟨hlength, htold, -⟩ := complete_told limit .dryRun calls plan hwidth hslots
  obtain ⟨index, hlt, rfl⟩ := List.mem_iff_getElem.1 hr
  obtain ⟨r', hr', hstory⟩ := htold index plan[index] (List.getElem?_eq_getElem (hlength ▸ hlt))
  rw [List.getElem?_eq_getElem hlt, Option.some.injEq] at hr'
  rw [hr']
  generalize hevents : about index (story width limit .dryRun pool calls plan) = events at hstory
  cases hstory with
  | untargeted h number outcome ho => exact ho.eq_passed
  | served spec h target number outcome ho => exact ho.eq_passed
  | refused spec h fault =>
      -- the story has an answer that is no target
      have hmem : Event.settled index (.error fault) ∈
          about index (story width limit .dryRun pool calls plan) := by
        rw [hevents]
        exact List.mem_cons_self
      obtain ⟨p, r, now, phase, q, hp, hprovider, hreached⟩ :=
        reached_of_known limit .dryRun calls plan hwidth hslots hpool hknown
          (stepBound plan.length) (List.mem_of_mem_filter hmem)
      obtain ⟨serial, hserial⟩ := hreached.exists_ok (hp.buildsAsAsked hasked) hprovider
      cases hserial

end Execution

namespace Session

variable {s : Session} {config : Config} {playbook : Playbook} {registry : Registry}
  {runId : RunId} {ids : Nat → TargetId}

/-- A report is a success if no catalog was discarded and everything has passed. -/
theorem isSuccess_of_passed {report : Report} (hdiagnostic : report.diagnostic = none)
    (hpassed : ∀ i ∈ report.invocations, i.outcome = .passed) : report.isSuccess = true := by
  rw [Report.isSuccess, hdiagnostic, Option.isNone_none, Bool.true_and, List.all_eq_true]
  intro i hi
  rw [hpassed i hi]
  rfl

/-- **A run without bodies passes**, if platforms build what they are asked for, and is a success just
if its catalog is accepted. -/
theorem run_dryRun (hopen : withPlaybook config playbook registry runId ids = .ok s)
    (hasked : registry.BuildsAsAsked) (catalog : List Entry) :
    ∃ report s', s.run .dryRun catalog = .ok (report, s') ∧
      (∀ i ∈ report.invocations, i.outcome = .passed) ∧
      (report.isSuccess = true ↔ ∀ e ∈ catalog, e.Accepted) := by
  have hs := open_withPlaybook hopen
  have hpool := pool_eq_of_withPlaybook hopen
  cases hvalid : Catalog.validate catalog with
  | error r =>
      -- nothing was executed, so there is nothing that could not pass
      have htargets : s.pool.targets = [] := by
        rw [hpool]
        rfl
      refine ⟨_, _, run_of_validate_eq_error hs.tornDown htargets hvalid .dryRun,
        fun i hi => absurd hi List.not_mem_nil, iff_of_false nofun fun hall => ?_⟩
      obtain ⟨tests, htests⟩ := Catalog.exists_validate_iff.2 hall
      cases hvalid.symm.trans htests
  | ok tests =>
      have hslots : s.pool.slots = [] := by
        rw [hpool]
        rfl
      have hpassed : ∀ r ∈ (s.execute .dryRun (s.plan (s.select tests).tests)).1,
          r.outcome = .passed :=
        Execution.passed_complete s.config.testTimeout s.calls _ (width_pos s.config) hslots
          (known_after hopen []) hasked fun i hi spec hspec => contains_of_mem_plan hopen hi hspec
      exact ⟨_, _, run_of_validate hs.tornDown hvalid .dryRun, hpassed,
        iff_of_true (isSuccess_of_passed rfl hpassed) (Catalog.exists_validate_iff.1 ⟨tests, hvalid⟩)⟩

end Session

namespace Console

/-- Every text can be written at a path. -/
def Directory.Writable (d : Directory) (path : String) : Prop :=
  ∀ text, ∃ written, d.write path text = .ok written

/-- Whatever stands at a name, the name can be written at. -/
theorem Directory.writable_of_place {d : Directory} {path name : String}
    (h : d.place path = .name name) : d.Writable path :=
  fun text => ⟨d.set name text, by simp only [write, h]⟩

namespace Program

/-! ## What the program is given -/

/-- The catalog of a command line is a list of these entries. -/
def Lists (read : Storage.Reader) (line : CommandLine) (entries : List Entry) : Prop :=
  ∃ text, read line.tests = .ok text ∧ Catalog.ofText text = .ok entries

/-- The run of a command line cannot start. -/
inductive Refused (read : Storage.Reader) (line : CommandLine) : Prop where
  /-- The catalog cannot be read as a list of entries. -/
  | unlisted (h : ¬ ∃ entries, Lists read line entries)
  /-- The playbook is rejected. -/
  | unplayable (h : ¬ ∃ playbook, Playbook.load read line.config.playbook = .ok playbook)
  /-- There is a target on a platform that is not the built-in one. -/
  | unplaced (playbook : Playbook) (hload : Playbook.load read line.config.playbook = .ok playbook)
      (spec : TargetSpec) (hspec : spec ∈ Session.effectiveTargets playbook line.config)
      (h : spec.platform ≠ Simulation.builtinKind)

/-- The catalog of a command line has an entry with ill-formed metadata. -/
def Discarded (read : Storage.Reader) (line : CommandLine) : Prop :=
  ∃ entries, Lists read line entries ∧ ∃ e ∈ entries, ¬ e.Accepted

variable {read : Storage.Reader} {line : CommandLine} {runId : RunId} {ids : Nat → TargetId}

theorem Lists.unique {entries entries' : List Entry} (h : Lists read line entries)
    (h' : Lists read line entries') : entries = entries' := by
  obtain ⟨text, hread, htext⟩ := h
  obtain ⟨text', hread', htext'⟩ := h'
  cases hread.symm.trans hread'
  exact Except.ok.inj (htext.symm.trans htext')

theorem loadCatalog_eq_ok_iff {entries : List Entry} :
    Session.loadCatalog read line.tests = .ok entries ↔ Lists read line entries := by
  rw [Session.loadCatalog, Lists]
  cases hread : read line.tests with
  | error fault => simp
  | ok text =>
      cases htext : Catalog.ofText text with
      | error fault => simp [htext]
      | ok entries' => simp [htext]

/-- The built-in registry has one platform, which builds what it is asked for. -/
theorem builtin_asked : Registry.builtin.BuildsAsAsked ∧
    ∀ kind, Registry.builtin.contains kind = true ↔ kind = Simulation.builtinKind := by
  obtain ⟨hasked, hkinds⟩ := Registry.buildsAsAsked_simulated [Simulation.builtinKind]
  exact ⟨hasked, fun kind => (hkinds kind).trans List.mem_singleton⟩

/-- Without a playbook the only target is the one that stands in, so a run with the usual platform
starts as soon as there is a catalog. -/
theorem not_refused_of_lists {entries : List Entry} (hlists : Lists read line entries)
    (hplaybook : line.config.playbook = none)
    (hdefault : line.config.defaultPlatform = Simulation.builtinKind) : ¬ Refused read line := by
  rintro (h | h | ⟨playbook, hload, spec, hspec, h⟩)
  · exact h ⟨entries, hlists⟩
  · rw [hplaybook] at h
    exact h ⟨∅, rfl⟩
  · rw [hplaybook] at hload
    obtain rfl : ∅ = playbook := Except.ok.inj hload
    obtain rfl := List.mem_singleton.1 hspec
    exact h hdefault

/-! ## The report -/

/-- A report is made of a catalog by a session. -/
theorem conduct_eq_ok_iff {report : Report} : conduct read line runId ids = .ok report ↔
    ∃ entries s s', Lists read line entries ∧
      Session.start read line.config Registry.builtin runId ids = .ok s ∧
      s.run .dryRun entries = .ok (report, s') := by
  simp only [← loadCatalog_eq_ok_iff, conduct]
  cases Session.loadCatalog read line.tests with
  | error fault => simp [Except.mapError, bind, Except.bind]
  | ok entries =>
      cases Session.start read line.config Registry.builtin runId ids with
      | error fault => simp [Except.mapError, bind, Except.bind]
      | ok s =>
          cases hrun : s.run .dryRun entries with
          | error fault => simp [Except.mapError, bind, Except.bind, hrun]
          | ok r => simp [Except.mapError, bind, Except.bind, hrun, pure, Except.pure, Prod.ext_iff]

/-- A session is opened with the playbook that the settings name. -/
theorem start_eq_ok_iff {registry : Registry} {s : Session} :
    Session.start read line.config registry runId ids = .ok s ↔
      ∃ playbook, Playbook.load read line.config.playbook = .ok playbook ∧
        Session.withPlaybook line.config playbook registry runId ids = .ok s := by
  rw [Session.start]
  cases Playbook.load read line.config.playbook with
  | error fault => simp
  | ok playbook => simp

/-- Without a catalog and a session there is no report. -/
theorem conduct_of_refused (runId : RunId) (ids : Nat → TargetId) (h : Refused read line) :
    ∃ c, conduct read line runId ids = .error c := by
  cases hconduct : conduct read line runId ids with
  | error c => exact ⟨c, rfl⟩
  | ok report =>
      obtain ⟨entries, s, s', hlists, hstart, -⟩ := conduct_eq_ok_iff.1 hconduct
      obtain ⟨playbook, hload, hopen⟩ := start_eq_ok_iff.1 hstart
      cases h with
      | unlisted h => exact absurd ⟨entries, hlists⟩ h
      | unplayable h => exact absurd ⟨playbook, hload⟩ h
      | unplaced playbook' hload' spec hspec h =>
          cases hload.symm.trans hload'
          have hcontains := Session.withPlaybook_eq_ok_iff.1 ⟨s, hopen⟩ spec hspec
          exact absurd ((builtin_asked.2 spec.platform).1 hcontains) h

/-- **A run that starts reports that everything has passed**, and is a success unless its catalog is
discarded. -/
theorem conduct_of_not_refused (runId : RunId) (ids : Nat → TargetId) (h : ¬ Refused read line) :
    ∃ report, conduct read line runId ids = .ok report ∧
      (∀ i ∈ report.invocations, i.outcome = .passed) ∧
      (report.isSuccess = true ↔ ¬ Discarded read line) := by
  -- each reason for a refusal that does not hold gives one thing that is needed
  obtain ⟨entries, hlists⟩ := Classical.not_not.1 fun hnone => h (.unlisted hnone)
  obtain ⟨playbook, hload⟩ := Classical.not_not.1 fun hnone => h (.unplayable hnone)
  have hplaced : ∀ spec ∈ Session.effectiveTargets playbook line.config,
      Registry.builtin.contains spec.platform = true := fun spec hspec =>
    (builtin_asked.2 spec.platform).2
      (Classical.not_not.1 fun hother => h (.unplaced playbook hload spec hspec hother))
  obtain ⟨s, hopen⟩ :
      ∃ s, Session.withPlaybook line.config playbook Registry.builtin runId ids = .ok s :=
    Session.withPlaybook_eq_ok_iff.2 hplaced
  obtain ⟨report, s', hrun, hpassed, hsuccess⟩ := Session.run_dryRun hopen builtin_asked.1 entries
  refine ⟨report, conduct_eq_ok_iff.2
    ⟨entries, s, s', hlists, start_eq_ok_iff.2 ⟨playbook, hload, hopen⟩, hrun⟩, hpassed, ?_⟩
  rw [hsuccess]
  constructor
  · rintro haccepted ⟨entries', hlists', e, he, hfaulty⟩
    obtain rfl := hlists.unique hlists'
    exact hfaulty (haccepted e he)
  · intro hkept e he
    exact Classical.not_not.1 fun hfaulty => hkept ⟨entries, hlists, e, he, hfaulty⟩

/-- The exit code that follows from a report that is a success unless the catalog is discarded. -/
theorem exitCode_conclude {report : Report}
    (hsuccess : report.isSuccess = true ↔ ¬ Discarded read line) (config : Config) :
    (conclude config report).exitCode ≠ 2 ∧
      ((conclude config report).exitCode = 1 ↔ Discarded read line) ∧
      ((conclude config report).exitCode = 0 ↔ ¬ Discarded read line) := by
  have hcode : (conclude config report).exitCode = if report.isSuccess then 0 else 1 := rfl
  have hfaulty : Discarded read line ↔ report.isSuccess = false := by
    rw [← Bool.not_eq_true, hsuccess, Classical.not_not]
  rw [hcode, ← hsuccess, hfaulty]
  cases report.isSuccess <;> decide

/-! ## The main statement -/

/-- What a run leaves behind whose report is written where it is wanted. -/
theorem run_of_report {words : List String} {env : Environment} {d : Directory} {report : Report}
    (hparse : CommandLine.parse env words = .ok line)
    (hwritable : ∀ path, line.config.effectiveReportPath = some path → d.Writable path)
    (hconduct : conduct d.read line runId ids = .ok report) (colours : Bool) :
    ∃ written, run words env colours d runId ids =
      (conclude line.config report, some report, written) := by
  simp only [run, hparse, hconduct]
  cases hpath : line.config.effectiveReportPath with
  | none => exact ⟨d, rfl⟩
  | some path =>
      obtain ⟨written, hwrite⟩ := hwritable path hpath (stored report)
      exact ⟨written, by simp only [hwrite]⟩

/-- **The exit code is decided by what the program is given.** Whatever is found at the paths that a
command line names, there is no report just if the run is refused; in a report all invocations have
passed, and the exit code that follows from it is one if an entry of the catalog has ill-formed
metadata, and zero if not. So the program ends with two just if the run is refused, with one just if
it is not and the catalog is discarded, and otherwise with zero, if there is no path for the report
or one at which it can be written. -/
theorem exit_code_decided (line : CommandLine) (runId : RunId) (ids : Nat → TargetId) :
    (∀ read : Storage.Reader,
      ((∃ c, conduct read line runId ids = .error c) ↔ Refused read line) ∧
      ∀ report, conduct read line runId ids = .ok report →
        (∀ i ∈ report.invocations, i.outcome = .passed) ∧
        ((conclude line.config report).exitCode = 1 ↔ Discarded read line) ∧
        ((conclude line.config report).exitCode = 0 ↔ ¬ Discarded read line)) ∧
    ∀ (words : List String) (env : Environment) (colours : Bool) (d : Directory),
      CommandLine.parse env words = .ok line →
      (∀ path, line.config.effectiveReportPath = some path → d.Writable path) →
      let r := run words env colours d runId ids
      (r.1.exitCode = 2 ↔ Refused d.read line) ∧
      (r.1.exitCode = 1 ↔ ¬ Refused d.read line ∧ Discarded d.read line) ∧
      (r.1.exitCode = 0 ↔ ¬ Refused d.read line ∧ ¬ Discarded d.read line) ∧
      ∀ report, r.2.1 = some report → ∀ i ∈ report.invocations, i.outcome = .passed := by
  refine ⟨fun read => ?_, fun words env colours d hparse hwritable => ?_⟩
  · by_cases h : Refused read line
    · obtain ⟨c, hc⟩ := conduct_of_refused runId ids h
      exact ⟨iff_of_true ⟨c, hc⟩ h, fun report hreport => nomatch hc.symm.trans hreport⟩
    · obtain ⟨report, hconduct, hpassed, hsuccess⟩ := conduct_of_not_refused runId ids h
      refine ⟨iff_of_false (fun ⟨c, hc⟩ => nomatch hc.symm.trans hconduct) h, ?_⟩
      intro report' hreport
      cases hconduct.symm.trans hreport
      exact ⟨hpassed, (exitCode_conclude hsuccess line.config).2⟩
  · by_cases h : Refused d.read line
    · obtain ⟨c, hc⟩ := conduct_of_refused runId ids h
      have hrun : run words env colours d runId ids = (failed colours c, none, d) := by
        simp only [run, hparse, hc]
      rw [hrun]
      exact ⟨iff_of_true rfl h, iff_of_false nofun fun h' => h'.1 h,
        iff_of_false nofun fun h' => h'.1 h, nofun⟩
    · obtain ⟨report, hconduct, hpassed, hsuccess⟩ := conduct_of_not_refused runId ids h
      obtain ⟨written, hrun⟩ := run_of_report hparse hwritable hconduct colours
      obtain ⟨htwo, hone, hzero⟩ := exitCode_conclude hsuccess line.config
      rw [hrun]
      refine ⟨iff_of_false htwo h, hone.trans (and_iff_right h).symm,
        hzero.trans (and_iff_right h).symm, ?_⟩
      rintro report' ⟨⟩
      exact hpassed

/-- Three runs in one directory: a demonstration, a run of a test of priority seven, and one whose
default platform is not registered. -/
theorem exit_code_decided_three_times :
    let d : Directory :=
      [("good.json", "[\x7b\"name\": \"a\", \"requires_target\": true\x7d]"),
        ("faulty.json", "[\x7b\"name\": \"a\", \"metadata\": \x7b\"priority\": 7\x7d\x7d]")]
    let exitCode (words : List String) : Nat :=
      (run words (fun _ => none) false d ⟨0⟩ fun n => ⟨BitVec.ofNat 128 n⟩).1.exitCode
    exitCode ["--tests", "good.json", "--demo", "-j", "4"] = 0 ∧
      exitCode ["--tests", "faulty.json"] = 1 ∧
      exitCode ["--tests", "good.json", "--default-platform", "azure"] = 2 := by
  intro d exitCode
  have hreadGood : d.read "good.json" =
      .ok "[\x7b\"name\": \"a\", \"requires_target\": true\x7d]" := by decide +kernel
  have hreadFaulty : d.read "faulty.json" =
      .ok "[\x7b\"name\": \"a\", \"metadata\": \x7b\"priority\": 7\x7d\x7d]" := by decide +kernel
  have hgood : ∀ config, Lists d.read ⟨"good.json", config⟩ [⟨"a", none, true, ∅⟩] :=
    fun _ => ⟨_, hreadGood, by cbv⟩
  have hfaulty : ∀ config, Lists d.read ⟨"faulty.json", config⟩
      [⟨"a", some (.object [("priority", .int 7)]), false, ∅⟩] :=
    fun _ => ⟨_, hreadFaulty, by cbv⟩
  refine ⟨?_, ?_, ?_⟩
  · let line : CommandLine := ⟨"good.json", { Config.usual with demo := true, jobs := 4 }⟩
    have hwritable : ∀ path, line.config.effectiveReportPath = some path → d.Writable path := by
      rintro path ⟨⟩
      exact Directory.writable_of_place (by decide +kernel : d.place "demo.json" = .name "demo.json")
    have hkept : ¬ Discarded d.read line := by
      rintro ⟨entries, hlists, e, he, hnot⟩
      obtain rfl := (hgood line.config).unique hlists
      obtain rfl := List.mem_singleton.1 he
      exact hnot (by rintro v ⟨⟩)
    have hparse : CommandLine.parse (fun _ => none)
        ["--tests", "good.json", "--demo", "-j", "4"] = .ok line := by decide +kernel
    obtain ⟨-, -, hzero, -⟩ :=
      (exit_code_decided line ⟨0⟩ _).2 _ _ false d hparse hwritable
    exact hzero.2 ⟨not_refused_of_lists (hgood line.config) rfl rfl, hkept⟩
  · let line : CommandLine := ⟨"faulty.json", .usual⟩
    have hdiscarded : Discarded d.read line := by
      refine ⟨_, hfaulty line.config, _, List.mem_singleton_self _, fun h => ?_⟩
      obtain ⟨c, hc⟩ := Entry.exists_toCase_iff.2 h
      cases hc
    have hparse : CommandLine.parse (fun _ => none)
        ["--tests", "faulty.json"] = .ok line := by decide +kernel
    obtain ⟨-, hone, -⟩ :=
      (exit_code_decided line ⟨0⟩ _).2 _ _ false d hparse (by rintro path ⟨⟩)
    exact hone.2 ⟨not_refused_of_lists (hfaulty line.config) rfl rfl, hdiscarded⟩
  · let line : CommandLine := ⟨"good.json", { Config.usual with defaultPlatform := "azure" }⟩
    have hrefused : Refused d.read line :=
      .unplaced ∅ rfl (.basic Session.defaultTargetName "azure") (List.mem_singleton_self _)
        (by decide)
    have hparse : CommandLine.parse (fun _ => none)
        ["--tests", "good.json", "--default-platform", "azure"] = .ok line := by decide +kernel
    obtain ⟨htwo, -⟩ :=
      (exit_code_decided line ⟨0⟩ _).2 _ _ false d hparse (by rintro path ⟨⟩)
    exact htwo.2 hrefused

end Program

end Console

end TestBench
