import TestBench.Proofs.ExecutionStory
import TestBench.Proofs.PoolLikeness
import TestBench.Proofs.PoolTraffic

/-!
# Invocations served one by one

The reports of an execution can be compared with those of the simplest one, in which each invocation
is served before the next one starts: `Pool.serve` resolves its request, runs its body on the target
and drops the lease. That the reports agree needs outcomes that do not depend on how many calls were
made before, and on the target only as far as the other bodies do not change it, `Executor.Steady`.
Then what an invocation is dealt is all that matters, and `Pool.Yields` says what that is at a given
pool.
-/

set_option autoImplicit false

namespace TestBench

/-! ## Steady executors -/

/-- What a call comes to under a limit: given the number of calls before, the invocation, and the
target. -/
def Executor.outcome (x : Executor) (limit : Option Duration) (number : Nat) (i : Invocation)
    (target : Option Target) : Outcome :=
  ((x number i target).limited limit).2

/-- What a call comes to under a limit depends on the invocation and on the target only, and of the
leases on the target only on whether there is one now and on how many there were. A body may take
longer in one call than in another, as long as that does not change what it comes to. -/
structure Executor.Steady (x : Executor) (limit : Option Duration) : Prop where
  /-- It does not matter how many calls were made before. -/
  number : ∀ (m n : Nat) (i : Invocation) (target : Option Target),
    x.outcome limit m i target = x.outcome limit n i target
  /-- It does not matter how many leases there are, as long as there is one. -/
  target : ∀ (n : Nat) (i : Invocation) (t u : Target), t.idle = u.idle →
    t.connection.isOpen = true → u.connection.isOpen = true →
    x.outcome limit n i (some t) = x.outcome limit n i (some u)

theorem Body.limited_of_inTime {b : Body} {limit : Option Duration} (h : b.InTime limit) :
    b.limited limit = (b.wait, b.ending.outcome) := by
  cases limit with
  | none => rfl
  | some d => rw [limited, if_pos (h d rfl)]

/-- A body comes to one outcome. -/
theorem Body.EndsAs.eq_limited {b : Body} {limit : Option Duration} {outcome : Outcome}
    (h : b.EndsAs limit outcome) : outcome = (b.limited limit).2 := by
  cases h with
  | passed htime h => rw [limited_of_inTime htime, h]; rfl
  | failed htime message h => rw [limited_of_inTime htime, h]; rfl
  | skipped htime reason h => rw [limited_of_inTime htime, h]; rfl
  | raised htime causes h => rw [limited_of_inTime htime, h]; rfl
  | brokeDown htime h => rw [limited_of_inTime htime, h]; rfl
  | late d hlimit hlate => rw [hlimit, limited, if_neg (Nat.not_le_of_lt hlate)]

namespace Pool

variable {p q : Pool} {r : Request} {serial : Nat} {executor : Executor} {limit : Option Duration}
  {doomed : Invocation → Bool} {plan : List Invocation} {i : Invocation}

/-- Whoever gets a target has it open. -/
theorem Numbered.exists_open (hn : Numbered p) (h : (p.resolve r).1 = .ok serial) :
    ∃ t, (p.resolve r).2.target? serial = some t ∧ t.connection.isOpen = true := by
  have hanswered := resolve_answered p r
  have hnumbered := hn.answered hanswered
  rw [h] at hanswered
  have hmem : ∃ t ∈ (p.resolve r).2.targets, t.serial = serial ∧ t.connection.isOpen = true := by
    generalize (p.resolve r).2 = q at hanswered
    cases hanswered with
    | reused _ hp hs =>
        obtain ⟨t, ht, rfl⟩ := Option.map_eq_some_iff.1 hs
        refine ⟨t.mapConnection .opening, ?_, rfl, rfl⟩
        exact List.mem_map.2 ⟨t, List.mem_of_find?_eq_some ht, if_pos rfl⟩
    | built place provider _ _ hp hs hb =>
        cases hb with
        | created t hbare hserial hid hr =>
            exact ⟨t.mapConnection .opening, List.mem_append_right _ List.mem_cons_self, rfl, rfl⟩
  obtain ⟨t, ht, rfl, hopen⟩ := hmem
  exact ⟨t, hnumbered.target?_eq ht, hopen⟩

/-! ## Serving -/

/-- Serves one invocation while nobody else is there. -/
def serve (executor : Executor) (limit : Option Duration) (p : Pool) (i : Invocation) :
    InvocationReport × Pool :=
  match i.target with
  | none => (i.report none (executor.outcome limit 0 i none), p)
  | some spec =>
      match p.resolve (i.request spec) with
      | (.error fault, q) => (i.report none (.errored fault.message), q)
      | (.ok serial, q) =>
          (i.report ((q.target? serial).map (·.id))
            (executor.outcome limit 0 i (q.target? serial)), q.release serial)

/-- Serves some invocations, one after the other. -/
def serveAll (executor : Executor) (limit : Option Duration) (p : Pool) :
    List Invocation → List InvocationReport × Pool
  | [] => ([], p)
  | i :: rest =>
      let (report, q) := serve executor limit p i
      let (reports, q) := serveAll executor limit q rest
      (report :: reports, q)

/-- The pool after those invocations before a place in a plan were served that are not doomed. -/
def served (executor : Executor) (limit : Option Duration) (doomed : Invocation → Bool)
    (plan : List Invocation) (p : Pool) (k : Nat) : Pool :=
  (serveAll executor limit p ((plan.take k).filter fun i => !doomed i)).2

theorem serve_of_target_eq_none (h : i.target = none) :
    serve executor limit p i = (i.report none (executor.outcome limit 0 i none), p) := by
  simp only [serve, h]

theorem serve_of_error {spec : TargetSpec} {fault : Fault} (h : i.target = some spec)
    (hr : (p.resolve (i.request spec)).1 = .error fault) :
    (serve executor limit p i).1 = i.report none (.errored fault.message) := by
  simp only [serve, h]
  generalize p.resolve (i.request spec) = out at hr
  obtain ⟨answer, q⟩ := out
  subst hr
  rfl

theorem serve_of_ok {spec : TargetSpec} {u : Target} (h : i.target = some spec)
    (hr : (p.resolve (i.request spec)).1 = .ok serial)
    (hu : (p.resolve (i.request spec)).2.target? serial = some u) :
    (serve executor limit p i).1 =
      i.report (some u.id) (executor.outcome limit 0 i (some u)) := by
  simp only [serve, h]
  generalize p.resolve (i.request spec) = out at hr hu
  obtain ⟨answer, q⟩ := out
  subst hr
  simp only [hu]
  rfl

/-- Serving an invocation leaves the pool with which its request is resolved, but for the lease. -/
theorem alike_serve {spec : TargetSpec} (h : i.target = some spec) :
    (serve executor limit p i).2.Alike (p.resolve (i.request spec)).2 := by
  simp only [serve, h]
  generalize p.resolve (i.request spec) = out
  obtain ⟨answer, q⟩ := out
  cases answer with
  | error fault => exact .refl q
  | ok serial => exact (Alike.refl q).release serial

theorem Numbered.serve (h : Numbered p) (executor : Executor) (limit : Option Duration)
    (i : Invocation) : Numbered (serve executor limit p i).2 := by
  simp only [Pool.serve]
  split
  · exact h
  · next spec hspec =>
      have hq := h.answered (resolve_answered p (i.request spec))
      generalize p.resolve (i.request spec) = out at hq ⊢
      obtain ⟨answer, q⟩ := out
      cases answer with
      | error fault => exact hq
      | ok serial => exact hq.mapConnection serial .closing

theorem Numbered.serveAll (h : Numbered p) (executor : Executor) (limit : Option Duration)
    (l : List Invocation) : Numbered (serveAll executor limit p l).2 := by
  induction l generalizing p with
  | nil => exact h
  | cons i rest ih => exact ih (h.serve executor limit i)

theorem serveAll_concat (executor : Executor) (limit : Option Duration) (p : Pool)
    (l : List Invocation) (i : Invocation) :
    (serveAll executor limit p (l ++ [i])).2 =
      (serve executor limit (serveAll executor limit p l).2 i).2 := by
  induction l generalizing p with
  | nil => rfl
  | cons j rest ih => exact ih (serve executor limit p j).2

/-- **The next one in the plan is served**, if it is not doomed. -/
theorem served_succ {k : Nat} (hi : plan[k]? = some i) :
    served executor limit doomed plan p (k + 1) =
      if doomed i then served executor limit doomed plan p k
      else (serve executor limit (served executor limit doomed plan p k) i).2 := by
  have htake : plan.take (k + 1) = plan.take k ++ [i] := by
    rw [List.take_add_one, hi]
    rfl
  rw [served, htake, List.filter_append]
  cases hd : doomed i with
  | true => simp [hd, served]
  | false =>
      have hone : [i].filter (fun i => !doomed i) = [i] := by simp [hd]
      rw [hone, serveAll_concat]
      rfl

/-- Those that were served up to the end of a plan are all that are not doomed. -/
theorem served_length (executor : Executor) (limit : Option Duration)
    (doomed : Invocation → Bool) (plan : List Invocation) (p : Pool) :
    served executor limit doomed plan p plan.length =
      (serveAll executor limit p (plan.filter fun i => !doomed i)).2 := by
  rw [served, List.take_length]

theorem served_cons_succ (executor : Executor) (limit : Option Duration)
    (doomed : Invocation → Bool) (i : Invocation) (rest : List Invocation) (p : Pool) (k : Nat) :
    served executor limit doomed (i :: rest) p (k + 1) =
      served executor limit doomed rest
        (if doomed i then p else (serve executor limit p i).2) k := by
  cases hd : doomed i with
  | true => simp [served, hd]
  | false => simp [served, hd, serveAll]

end Pool

/-- The reports of those invocations of a plan that are not doomed. -/
def remainingReports (doomed : Invocation → Bool) (plan : List Invocation)
    (reports : List InvocationReport) : List InvocationReport :=
  ((plan.zip reports).filter fun entry => !doomed entry.1).map (·.2)

namespace Pool

variable {p q : Pool} {r : Request} {serial : Nat} {executor : Executor} {limit : Option Duration}
  {doomed : Invocation → Bool} {plan : List Invocation} {i : Invocation}

/-- **The reports are those of serving one by one**, if each of them is the one of serving its
invocation at its place. -/
theorem remainingReports_eq {reports : List InvocationReport}
    (hlength : reports.length = plan.length)
    (h : ∀ (k : Nat) (i : Invocation), plan[k]? = some i → doomed i = false →
      reports[k]? = some (serve executor limit (served executor limit doomed plan p k) i).1) :
    remainingReports doomed plan reports =
      (serveAll executor limit p (plan.filter fun i => !doomed i)).1 := by
  induction plan generalizing p reports with
  | nil => simp [remainingReports, serveAll]
  | cons i rest ih =>
      cases reports with
      | nil => cases hlength
      | cons r reports =>
          have hrest : ∀ (k : Nat) (j : Invocation), rest[k]? = some j → doomed j = false →
              reports[k]? = some (serve executor limit (served executor limit doomed rest
                (if doomed i then p else (serve executor limit p i).2) k) j).1 := by
            intro k j hj hgood
            have hnext := h (k + 1) j hj hgood
            rw [served_cons_succ] at hnext
            exact hnext
          have hreports := ih (Nat.succ.inj hlength) hrest
          cases hd : doomed i with
          | true =>
              rw [if_pos hd] at hreports
              simpa [remainingReports, hd] using hreports
          | false =>
              have hfirst : r = (serve executor limit p i).1 :=
                Option.some.inj (h 0 i rfl hd)
              rw [if_neg (by simp [hd])] at hreports
              simp only [remainingReports] at hreports
              simp [remainingReports, hd, serveAll, hfirst, hreports]

/-! ## What serving yields -/

/-- An event that is observed when a pool serves a request. -/
def Yields (p : Pool) (r : Request) : Execution.Event → Prop
  | .settled _ answer => answer = (p.resolve r).1
  | .called _ _ call => ∃ serial t u, (p.resolve r).1 = .ok serial ∧ call.target = some t ∧
      (p.resolve r).2.target? serial = some u ∧ t.idle = u.idle ∧
      t.connection.isOpen = true ∧ u.connection.isOpen = true

/-- An alike pool hands the same target to a body, and it is open. -/
theorem Alike.exists_handed (h : Alike p q) (hp : Numbered p) (hq : Numbered q)
    (hf : ¬ p.registry.Fails r.platform) (hok : (p.resolve r).1 = .ok serial) :
    ∃ t u, (p.resolve r).2.target? serial = some t ∧ (q.resolve r).2.target? serial = some u ∧
      t.idle = u.idle ∧ t.connection.isOpen = true ∧ u.connection.isOpen = true := by
  obtain ⟨hanswer, halike⟩ := h.resolve hf
  obtain ⟨t, ht, hopen⟩ := hp.exists_open hok
  obtain ⟨u, hu, hopen'⟩ := hq.exists_open (hanswer ▸ hok)
  obtain ⟨u', hu', hidle⟩ := halike.exists_target? ht
  rw [hu, Option.some.injEq] at hu'
  exact ⟨t, u, ht, hu, hu' ▸ hidle, hopen, hopen'⟩

end Pool

/-- **An invocation whose story is the one of being served has that report.** -/
theorem Execution.Told.eq_serve {executor : Executor} {limit : Option Duration} {index : Nat}
    {i : Invocation} {events : List Execution.Event} {r : InvocationReport} {p : Pool}
    (h : Execution.Told executor limit index i events r) (hsteady : executor.Steady limit)
    (hyields : ∀ event ∈ events, ∀ spec, i.target = some spec →
      p.Yields (i.request spec) event) :
    r = (p.serve executor limit i).1 := by
  cases h with
  | untargeted hspec number outcome ho =>
      have houtcome : outcome = executor.outcome limit number i none := ho.eq_limited
      rw [Pool.serve_of_target_eq_none hspec, houtcome, hsteady.number number 0]
  | served spec hspec target number outcome ho =>
      have hcalled := hyields _ (List.mem_cons_of_mem _ (List.mem_singleton_self _)) spec hspec
      obtain ⟨serial, t, u, hok, htarget, hu, hidle, hopen, hopen'⟩ := hcalled
      obtain rfl : target = t := Option.some.inj htarget
      have hid : target.id = u.id := congrArg (fun t => t.idle.id) hidle
      have houtcome : outcome = executor.outcome limit 0 i (some u) := by
        calc outcome
            = executor.outcome limit number i (some target) := ho.eq_limited
          _ = executor.outcome limit 0 i (some target) := hsteady.number number 0 i _
          _ = executor.outcome limit 0 i (some u) := hsteady.target 0 i target u hidle hopen hopen'
      rw [houtcome, hid, Pool.serve_of_ok hspec hok hu]
  | refused spec hspec fault =>
      have hanswer := hyields _ List.mem_cons_self spec hspec
      rw [Pool.serve_of_error hspec hanswer.symm]

end TestBench
