import TestBench.Proofs.ExecutionOrder
import TestBench.Proofs.ExecutionTargets
import TestBench.Proofs.FailingPlatforms
import TestBench.Proofs.SerialService

/-!
# Executions that keep to the plan

Invocations that are not doomed get the same targets and have the same reports as if they were
served one by one in the order of the plan, if nothing overtakes: there is room for one invocation
only, or no platform that builds anything takes time for it. Doomed invocations between them make no
difference, however long their platforms take to fail.

`Execution.InStep` is what carries this from step to step. The pool is alike to the one after
serving the invocations up to a mark, which is the next one to have its first turn. Only if there is
room for one does the mark stay behind while that one has its target built.
-/

set_option autoImplicit false

namespace TestBench

/-- An invocation stands at the slot of the request that it makes. -/
theorem Progress.Fits.exists_spec {i : Invocation} {progress : Progress} {key : SlotKey}
    (h : progress.Fits i) (hslot : progress.slot? = some key) :
    ∃ spec, i.target = some spec ∧ key = (i.request spec).slot := by
  cases h with
  | starting => cases hslot
  | queued spec hspec => exact ⟨spec, hspec, (Option.some.inj hslot).symm⟩
  | building spec hspec finish => exact ⟨spec, hspec, (Option.some.inj hslot).symm⟩
  | running target finish outcome => cases hslot

namespace Execution

variable {plan : List Invocation} {before : List ExecutorCall} {history events : List Event}
  {e next : Execution} {t : Task} {executor : Executor} {limit : Option Duration}
  {g : Registry} {doomed : Invocation → Bool} {served : Nat → Pool} {s m : Nat}

/-! ## The invariant -/

/-- What was observed of the invocations that are not doomed is what serving them yields. -/
def Heard (served : Nat → Pool) (plan : List Invocation) (doomed : Invocation → Bool)
    (history : List Event) : Prop :=
  ∀ event ∈ history, ∀ i spec, plan[event.index]? = some i → doomed i = false →
    i.target = some spec → (served event.index).Yields (i.request spec) event

/-- What is observed in the turn of an invocation that is not doomed is what serving it yields. -/
def TurnYields (served : Nat → Pool) (doomed : Invocation → Bool) (t : Task)
    (events : List Event) : Prop :=
  doomed t.invocation = false → ∀ spec, t.invocation.target = some spec →
    ∀ event ∈ events, (served t.index).Yields (t.invocation.request spec) event

/-- How far serving has come, when an invocation is the next to have its first turn. -/
inductive Mark (doomed : Invocation → Bool) (e : Execution) (s m : Nat) : Prop where
  /-- Up to that one. None of those that are not doomed is getting a target. -/
  | level (h : m = s)
      (hnobody : ∀ u ∈ e.tasks, doomed u.invocation = false → u.progress.slot? = none)
  /-- Up to the one before, which has its target built and is alone. -/
  | behind (h : m + 1 = s) (hwidth : e.width = 1) (u : Task) (hu : u ∈ e.tasks)
      (hindex : u.index = m) (hgood : doomed u.invocation = false) (spec : TargetSpec)
      (hspec : u.invocation.target = some spec) (finish : Nat)
      (hprogress : u.progress = .resolving (u.invocation.request spec) (.building finish))
      (hscan : e.pool.scan (u.invocation.request spec) = none)

/-- An execution serves the invocations that are not doomed in the order of the plan. -/
structure InStep (served : Nat → Pool) (plan : List Invocation) (doomed : Invocation → Bool)
    (history : List Event) (e : Execution) (s m : Nat) : Prop where
  /-- First turns are in order. -/
  order : InOrder e s
  /-- With room for one there is only one. -/
  alone : e.Alone
  /-- A serial number stands for one target. -/
  numbered : e.pool.Numbered
  /-- The mark. -/
  mark : Mark doomed e s m
  /-- The pool is that after serving up to the mark. -/
  alike : e.pool.Alike (served m)
  /-- The others were observed as if they were served. -/
  heard : Heard served plan doomed history

/-- The pools of a plan that is served, one place after the other. -/
structure Serves (served : Nat → Pool) (plan : List Invocation)
    (doomed : Invocation → Bool) : Prop where
  /-- A serial number stands for one target. -/
  numbered : ∀ k, (served k).Numbered
  /-- Doomed invocations, and those that need no target, are left out. -/
  skip : ∀ (k : Nat) (i : Invocation), plan[k]? = some i → (doomed i = true ∨ i.target = none) →
    served (k + 1) = served k
  /-- The requests of the others are resolved. -/
  resolve : ∀ (k : Nat) (i : Invocation) (spec : TargetSpec), plan[k]? = some i →
    doomed i = false → i.target = some spec →
      (served (k + 1)).Alike ((served k).resolve (i.request spec)).2

/-- Nothing overtakes: there is room for one, or building takes no time, but for the doomed. -/
def Unhurried (g : Registry) (plan : List Invocation) (doomed : Invocation → Bool) (width : Nat) :
    Prop :=
  width = 1 ∨ ∀ i ∈ plan, doomed i = false → ∀ spec, i.target = some spec → g.Prompt spec.platform

/-! ## The parts of a turn -/

theorem Heard.append {rest : List Nat} (h : Heard served plan doomed history)
    (ht : HasTurn plan e t rest next)
    (hnew : TurnYields served doomed t e.events) :
    Heard served plan doomed (history ++ e.events) := by
  intro event hmem i spec hi hgood hspec
  rcases List.mem_append.1 hmem with hearlier | hnow
  · exact h event hearlier i spec hi hgood hspec
  · rw [ht.turn.event_index hnow] at hi ⊢
    rw [ht.planned, Option.some.injEq] at hi
    subst hi
    exact hnew hgood spec hspec event hnow

/-- After a turn nobody is getting a target but who was before, unless the one whose turn it was
still waits. -/
theorem Moved.nobody (h : Moved e t events next)
    (hothers : ∀ u ∈ e.tasks, u.index ≠ t.index → doomed u.invocation = false →
      u.progress.slot? = none)
    (hself : doomed t.invocation = false → ¬ t.Waits events) :
    ∀ u ∈ next.tasks, doomed u.invocation = false → u.progress.slot? = none := by
  intro u hu hgood
  rcases h.tasks u hu with ⟨hold, hne⟩ | ⟨-, hstarting⟩ | ⟨-, hinvocation, -, hwaits⟩
  · exact hothers u hold hne hgood
  · rw [hstarting]
    rfl
  · by_contra hslot
    exact hself (hinvocation ▸ hgood) (hwaits hslot)

/-- **What is observed when a resolution settles is what serving yields**, at an alike pool and if
no suitable target has come while one was built. -/
theorem yields_of_reached {S q : Pool} {r : Request} {now : Nat} {phase reached : Resolution}
    (hreached : e.pool.Reached r now phase reached q) (halike : e.pool.Alike S)
    (hn : e.pool.Numbered) (hS : S.Numbered) (hf : ¬ e.pool.registry.Fails r.platform)
    (hscan : ∀ finish, phase = .building finish → e.pool.scan r = none) {index : Nat}
    (hsettled : ∀ (j : Nat) (answer : Except Pool.Fault Nat), .settled j answer ∈ events ↔
      j = index ∧ reached = .settled answer)
    (hcalled : ∀ (j number : Nat) (call : ExecutorCall), .called j number call ∈ events →
      ∃ serial, reached = .settled (.ok serial) ∧ call.target = q.target? serial) :
    ∀ event ∈ events, S.Yields r event := by
  intro event hmem
  cases event with
  | settled j answer =>
      obtain ⟨-, rfl⟩ := (hsettled j answer).1 hmem
      obtain ⟨rfl, -⟩ := hreached.eq_resolve hscan
      exact (halike.resolve hf).1
  | called j number call =>
      obtain ⟨serial, rfl, htarget⟩ := hcalled j number call hmem
      obtain ⟨hok, slots, rfl⟩ := hreached.eq_resolve hscan
      obtain ⟨t, u, ht, hu, hidle, hopen, hopen'⟩ := halike.exists_handed hn hS hf hok.symm
      exact ⟨serial, t, u, (halike.resolve hf).1.symm.trans hok.symm, htarget.trans ht, hu, hidle,
        hopen, hopen'⟩

/-- The slot of an invocation that has its first turn is free: those that are doomed stand at other
slots. -/
theorem Sound.holder?_eq_none (hsound : Sound executor limit plan before history e)
    (hdooms : g.Dooms plan doomed)
    (hnobody : ∀ u ∈ e.tasks, doomed u.invocation = false → u.progress.slot? = none)
    (ht : t ∈ e.tasks) (hgood : doomed t.invocation = false) {spec : TargetSpec}
    (hspec : t.invocation.target = some spec) :
    e.pool.slots.holder? (t.invocation.request spec).slot = none := by
  by_contra hsome
  obtain ⟨j, hj⟩ := Option.ne_none_iff_exists'.1 hsome
  obtain ⟨u, hu, rfl, hslot⟩ :=
    (hsound.scheduled.slots _ _ nofun).1 (SlotQueue.mem_of_holder? hj)
  cases hd : doomed u.invocation with
  | false =>
      rw [hnobody u hu hd] at hslot
      cases hslot
  | true =>
      -- whoever stands there asks for the same kind, so both are doomed
      have hplan : ∀ v ∈ e.tasks, v.invocation ∈ plan := fun v hv =>
        List.mem_of_getElem? (hsound.placed.invocation v hv)
      obtain ⟨spec', hspec', hkey⟩ := (hsound.placed.fits u hu).exists_spec hslot
      have hkind : spec.platform = spec'.platform := congrArg Prod.fst hkey
      obtain ⟨spec'', hspec'', hf⟩ := (hdooms.fails _ (hplan u hu)).1 hd
      rw [hspec', Option.some.injEq] at hspec''
      subst hspec''
      have hdoomed := (hdooms.fails _ (hplan t ht)).2 ⟨spec, hspec, hkind ▸ hf⟩
      rw [hgood] at hdoomed
      cases hdoomed

namespace InStep

variable {rest : List Nat}

/-- What has happened in a turn is put together. -/
theorem afterTurn (h : InStep served plan doomed history e s m) (ht : HasTurn plan e t rest next)
    (hplaced : Placed plan e) {s' m' : Nat} (horder : InOrder next s')
    (hmark : Mark doomed next s' m')
    (halike : next.pool.Alike (served m'))
    (hnew : TurnYields served doomed t e.events) :
    ∃ s m, InStep served plan doomed (history ++ e.events) next s m := by
  have hplaced' : Placed plan (e.take rest) := hplaced.of_eq rfl rfl rfl rfl
  have halone : (e.take rest).Alone := h.alone
  have hnumbered : (e.take rest).pool.Numbered := h.numbered
  exact ⟨s', m', horder, ht.turn.alone hplaced' ht.mem halone,
    ht.turn.kept Pool.numbered_kept hnumbered, hmark, halike, h.heard.append ht hnew⟩

/-- While the mark is behind, it is the turn of the one that has its target built. -/
theorem eq_of_behind (h : InStep served plan doomed history e s m) (ht : t ∈ e.tasks) {u : Task}
    (hwidth : e.width = 1) (hu : u ∈ e.tasks) : u = t := by
  have hone := h.alone hwidth t ht
  rw [hone] at hu
  exact List.mem_singleton.1 hu

/-- **The turn of a doomed invocation** changes nothing for the others. -/
theorem doomedTurn (h : InStep served plan doomed history e s m) (ht : HasTurn plan e t rest next)
    (hserves : Serves served plan doomed) (hplaced : Placed plan e)
    (hnext : Sound executor limit plan before (history ++ e.events) next)
    (hd : doomed t.invocation = true) (halike : next.pool.Alike e.pool) :
    ∃ s m, InStep served plan doomed (history ++ e.events) next s m := by
  have hmoved := ht.turn.moved (hplaced.of_eq rfl rfl rfl rfl) ht.mem
  obtain ⟨hfirst, hlater⟩ := h.order.turn ht.ready ht.mem hmoved hnext
  have hgood : doomed t.invocation ≠ false := by simp [hd]
  cases h.mark with
  | behind hm hwidth u hu hindex hgood' spec hspec finish hprogress hscan =>
      obtain rfl := h.eq_of_behind ht.mem hwidth hu
      exact absurd hgood' hgood
  | level hm hnobody =>
      subst hm
      have hlevel : ∀ u ∈ next.tasks, doomed u.invocation = false → u.progress.slot? = none :=
        hmoved.nobody (fun u hu _ => hnobody u hu) fun hf => absurd hf hgood
      -- its first turn moves the mark past it, where the pool is the same
      by_cases hfrom : t.progress = .starting
      · obtain ⟨hindex, horder⟩ := hfirst hfrom
        refine h.afterTurn ht hplaced horder (.level rfl hlevel) ?_ fun hf => absurd hf hgood
        rw [hserves.skip m t.invocation (hindex ▸ ht.planned) (.inl hd)]
        exact halike.trans h.alike
      · exact h.afterTurn ht hplaced (hlater hfrom).2 (.level rfl hlevel) (halike.trans h.alike)
          fun hf => absurd hf hgood

/-- **The turn of an invocation that has no target to get**, or no longer. -/
theorem otherTurn (h : InStep served plan doomed history e s m) (ht : HasTurn plan e t rest next)
    (hserves : Serves served plan doomed) (hplaced : Placed plan e)
    (hnext : Sound executor limit plan before (history ++ e.events) next)
    (hother : t.invocation.target = none ∧ t.progress = .starting ∨
      e.events = [] ∧ ∃ target finish outcome, t.progress = .running target finish outcome)
    (halike : next.pool.Alike e.pool) :
    ∃ s m, InStep served plan doomed (history ++ e.events) next s m := by
  have hmoved := ht.turn.moved (hplaced.of_eq rfl rfl rfl rfl) ht.mem
  obtain ⟨hfirst, hlater⟩ := h.order.turn ht.ready ht.mem hmoved hnext
  have hwaits : ¬ t.Waits e.events := by
    rintro ⟨-, spec, hspec, hseeks⟩
    rcases hother with ⟨hnone, -⟩ | ⟨-, target, finish, outcome, hrunning⟩
    · cases hspec.symm.trans hnone
    · rw [hrunning] at hseeks
      cases hseeks
  have hnew : TurnYields served doomed t e.events := by
    intro _ spec hspec event hmem
    rcases hother with ⟨hnone, -⟩ | ⟨hevents, -⟩
    · cases hspec.symm.trans hnone
    · rw [hevents] at hmem
      cases hmem
  cases h.mark with
  | behind hm hwidth u hu hindex hgood spec hspec finish hprogress hscan =>
      obtain rfl := h.eq_of_behind ht.mem hwidth hu
      rcases hother with ⟨hnone, -⟩ | ⟨-, target, finish', outcome, hrunning⟩
      · cases hspec.symm.trans hnone
      · cases hprogress.symm.trans hrunning
  | level hm hnobody =>
      subst hm
      have hlevel : ∀ u ∈ next.tasks, doomed u.invocation = false → u.progress.slot? = none :=
        hmoved.nobody (fun u hu _ => hnobody u hu) fun _ => hwaits
      rcases hother with ⟨hnone, hfrom⟩ | ⟨-, target, finish, outcome, hrunning⟩
      · obtain ⟨hindex, horder⟩ := hfirst hfrom
        refine h.afterTurn ht hplaced horder (.level rfl hlevel) ?_ hnew
        rw [hserves.skip m t.invocation (hindex ▸ ht.planned) (.inr hnone)]
        exact halike.trans h.alike
      · have hfrom : t.progress ≠ .starting := by
          rw [hrunning]
          nofun
        exact h.afterTurn ht hplaced (hlater hfrom).2 (.level rfl hlevel) (halike.trans h.alike)
          hnew

/-- **The turn in which an invocation gets its target**, or a fault. The mark moves past it. -/
theorem settledTurn (h : InStep served plan doomed history e s m) (ht : HasTurn plan e t rest next)
    (hserves : Serves served plan doomed) (hplaced : Placed plan e)
    (hnext : Sound executor limit plan before (history ++ e.events) next)
    (hgood : doomed t.invocation = false) {spec : TargetSpec}
    (hspec : t.invocation.target = some spec) (hm : m = t.index)
    (halike : next.pool.Alike ((served m).resolve (t.invocation.request spec)).2)
    (hevents : e.events ≠ [])
    (hnew : TurnYields served doomed t e.events) :
    ∃ s m, InStep served plan doomed (history ++ e.events) next s m := by
  have hmoved := ht.turn.moved (hplaced.of_eq rfl rfl rfl rfl) ht.mem
  obtain ⟨hfirst, hlater⟩ := h.order.turn ht.ready ht.mem hmoved hnext
  have hpool : next.pool.Alike (served (m + 1)) :=
    halike.trans (hserves.resolve m t.invocation spec (hm ▸ ht.planned) hgood hspec).symm
  have hwaits : ¬ t.Waits e.events := fun hw => hevents hw.1
  cases h.mark with
  | level hlevel hnobody =>
      have hothers := hmoved.nobody (fun u hu _ => hnobody u hu) fun _ => hwaits
      by_cases hfrom : t.progress = .starting
      · obtain ⟨hindex, horder⟩ := hfirst hfrom
        exact h.afterTurn ht hplaced horder (.level (by omega) hothers) hpool hnew
      · -- the next one to have its first turn is not behind the mark
        have hlt := (hlater hfrom).1
        omega
  | behind hbehind hwidth u hu hindex hgood' spec' hspec' finish hprogress hscan =>
      obtain rfl := h.eq_of_behind ht.mem hwidth hu
      have hfrom : u.progress ≠ .starting := by
        rw [hprogress]
        nofun
      have hothers : ∀ v ∈ next.tasks, doomed v.invocation = false → v.progress.slot? = none := by
        refine hmoved.nobody (fun v hv hne _ => ?_) fun _ => hwaits
        exact absurd (congrArg Task.index (h.eq_of_behind ht.mem hwidth hv)) hne
      exact h.afterTurn ht hplaced (hlater hfrom).2 (.level hbehind hothers) hpool hnew

/-- An invocation that is getting a target is at the mark. If it has one built, no suitable one has
come meanwhile. -/
theorem at_mark (h : InStep served plan doomed history e s m) (ht : HasTurn plan e t rest next)
    (hgood : doomed t.invocation = false) {r : Request} {phase : Resolution}
    (hfirst : t.progress = .starting → t.index = s)
    (hfrom : t.progress = .starting ∧ phase = .arriving ∨ t.progress = .resolving r phase) :
    m = t.index ∧ ∀ finish, phase = .building finish → e.pool.scan r = none := by
  cases h.mark with
  | level hlevel hnobody =>
      rcases hfrom with ⟨hstart, rfl⟩ | hresolving
      · exact ⟨hlevel.trans (hfirst hstart).symm, nofun⟩
      · have hslot := hnobody t ht.mem hgood
        rw [hresolving] at hslot
        cases hslot
  | behind hbehind hwidth u hu hindex hgood' spec hspec finish hprogress hscan =>
      obtain rfl := h.eq_of_behind ht.mem hwidth hu
      rcases hfrom with ⟨hstart, -⟩ | hresolving
      · cases hprogress.symm.trans hstart
      · rw [(Progress.resolving.inj (hresolving.symm.trans hprogress)).1]
        exact ⟨hindex.symm, fun _ _ => hscan⟩

/-- **The turn after which an invocation waits for its target.** It has one built, which takes time,
so there is room for one only. The mark stays behind. -/
theorem waitingTurn (h : InStep served plan doomed history e s m) (ht : HasTurn plan e t rest next)
    (hdooms : g.Dooms plan doomed) (hbarren : Barren g plan doomed history e)
    (hunhurried : Unhurried g plan doomed e.width)
    (hsound : Sound executor limit plan before history e)
    (hnext : Sound executor limit plan before (history ++ e.events) next)
    (hgood : doomed t.invocation = false) {spec : TargetSpec}
    (hspec : t.invocation.target = some spec) {phase reached : Resolution} {q : Pool}
    (hfrom : t.progress = .starting ∧ phase = .arriving ∨
      t.progress = .resolving (t.invocation.request spec) phase)
    (hreached : e.pool.Reached (t.invocation.request spec) e.now phase reached q)
    (hpolled : e.pool.Polled t.index (t.invocation.request spec) e.now phase reached q)
    (hpool : next.pool.Alike q) (hwaits : ∀ answer, reached ≠ .settled answer)
    (hput : ∃ u ∈ next.tasks, u.index = t.index ∧ u.invocation = t.invocation ∧
      u.progress = .resolving (t.invocation.request spec) reached)
    (hnew : TurnYields served doomed t e.events) :
    ∃ s m, InStep served plan doomed (history ++ e.events) next s m := by
  have hmoved := ht.turn.moved (hsound.placed.of_eq rfl rfl rfl rfl) ht.mem
  have hfirst := (h.order.turn ht.ready ht.mem hmoved hnext).1
  cases h.mark with
  | behind hbehind hwidth u hu hindex hgood' spec' hspec' finish hprogress hscan =>
      obtain rfl := h.eq_of_behind ht.mem hwidth hu
      have hphase : phase = .building finish := by
        rcases hfrom with ⟨hstart, -⟩ | hresolving
        · cases hprogress.symm.trans hstart
        · exact (Progress.resolving.inj (hresolving.symm.trans hprogress)).2
      subst hphase
      -- it has its turn because its time has come
      have hdue : finish ≤ e.now := ht.canGo.time finish (by rw [hprogress]; rfl)
      cases hpolled with
      | settled _ answer q hq => exact absurd rfl (hwaits answer)
      | works _ hlt => exact absurd hdue (Nat.not_le_of_lt hlt)
  | level hlevel hnobody =>
      have hstarting : t.progress = .starting ∧ phase = .arriving := by
        refine hfrom.resolve_right fun hresolving => ?_
        have hslot := hnobody t ht.mem hgood
        rw [hresolving] at hslot
        cases hslot
      obtain ⟨hstart, rfl⟩ := hstarting
      -- it does not queue behind anybody: it holds its slot as soon as it arrives
      have hfree := hsound.holder?_eq_none hdooms hnobody ht.mem hgood hspec
      have hholds : (e.pool.slots.join (t.invocation.request spec).slot t.index).holder?
          (t.invocation.request spec).slot = some t.index := by
        rw [SlotQueue.holder?_join, hfree, if_pos rfl]
        rfl
      cases hpolled with
      | settled _ answer q hq => exact absurd rfl (hwaits answer)
      | enqueued hother => exact absurd hholds hother
      | entered finish hlt hholder =>
          rcases hreached.of_building with hbefore | ⟨hnone, place, provider, hp, hfinish⟩
          · cases hbefore
          have hwidth : e.width = 1 := by
            refine hunhurried.resolve_right fun hprompt => ?_
            have hplan : t.invocation ∈ plan := List.mem_of_getElem? ht.planned
            have hdelay := hbarren.prompt hp (hprompt _ hplan hgood spec hspec)
            rw [hdelay] at hfinish
            omega
          have hkept : next.pool.Alike e.pool := hpool.trans ((Pool.Alike.refl _).withSlots _)
          obtain ⟨hindex, horder⟩ := hfirst hstart
          obtain ⟨u, hu, huindex, hinvocation, hprogress⟩ := hput
          refine h.afterTurn ht hsound.placed horder ?_ (hkept.trans h.alike) hnew
          refine .behind (by omega) (ht.turn.sameSettings.width.trans hwidth) u hu (by omega)
            (hinvocation ▸ hgood) spec (hinvocation ▸ hspec) finish (hinvocation ▸ hprogress) ?_
          rw [hinvocation, hkept.scan_eq]
          exact hnone

/-- **The turn of an invocation that is getting a target.** Either it gets one, or it is alone and
has one built. -/
theorem targetTurn (h : InStep served plan doomed history e s m) (ht : HasTurn plan e t rest next)
    (hserves : Serves served plan doomed) (hdooms : g.Dooms plan doomed)
    (hbarren : Barren g plan doomed history e) (hunhurried : Unhurried g plan doomed e.width)
    (hsound : Sound executor limit plan before history e)
    (hnext : Sound executor limit plan before (history ++ e.events) next)
    (hgood : doomed t.invocation = false) {spec : TargetSpec}
    (hspec : t.invocation.target = some spec) {phase reached : Resolution} {q : Pool}
    (hfrom : t.progress = .starting ∧ phase = .arriving ∨
      t.progress = .resolving (t.invocation.request spec) phase)
    (hreached : e.pool.Reached (t.invocation.request spec) e.now phase reached q)
    (hpolled : e.pool.Polled t.index (t.invocation.request spec) e.now phase reached q)
    (hpool : next.pool.Alike q)
    (hsettled : ∀ (index : Nat) (answer : Except Pool.Fault Nat),
      .settled index answer ∈ e.events ↔ index = t.index ∧ reached = .settled answer)
    (hcalled : ∀ (index number : Nat) (call : ExecutorCall), .called index number call ∈ e.events →
      ∃ serial, reached = .settled (.ok serial) ∧ call.target = q.target? serial)
    (hput : (∀ answer, reached ≠ .settled answer) → ∃ u ∈ next.tasks, u.index = t.index ∧
      u.invocation = t.invocation ∧ u.progress = .resolving (t.invocation.request spec) reached) :
    ∃ s m, InStep served plan doomed (history ++ e.events) next s m := by
  have hmoved := ht.turn.moved (hsound.placed.of_eq rfl rfl rfl rfl) ht.mem
  have hfirst := (h.order.turn ht.ready ht.mem hmoved hnext).1
  have hf : ¬ e.pool.registry.Fails spec.platform := by
    rw [Registry.Fails, hbarren.platforms]
    intro hf
    rw [(hdooms.fails _ (List.mem_of_getElem? ht.planned)).2 ⟨spec, hspec, hf⟩] at hgood
    cases hgood
  obtain ⟨hm, hscan⟩ := h.at_mark ht hgood (fun hstart => (hfirst hstart).1) hfrom
  have hnew : TurnYields served doomed t e.events := by
    intro _ spec' hspec'
    obtain rfl : spec = spec' := Option.some.inj (hspec.symm.trans hspec')
    exact yields_of_reached hreached (hm ▸ h.alike) h.numbered (hserves.numbered _) hf hscan
      hsettled hcalled
  by_cases hover : ∃ answer, reached = .settled answer
  · obtain ⟨answer, rfl⟩ := hover
    obtain ⟨-, slots, rfl⟩ := hreached.eq_resolve hscan
    have hresolved := (h.alike.resolve (r := t.invocation.request spec) hf).2
    have hevents : e.events ≠ [] := List.ne_nil_of_mem ((hsettled _ answer).2 ⟨rfl, rfl⟩)
    exact h.settledTurn ht hserves hsound.placed hnext hgood hspec hm
      (hpool.trans (hresolved.withSlots slots)) hevents hnew
  · have hwaits : ∀ answer, reached ≠ .settled answer := fun answer heq => hover ⟨answer, heq⟩
    exact h.waitingTurn ht hdooms hbarren hunhurried hsound hnext hgood hspec hfrom hreached
      hpolled hpool hwaits (hput hwaits) hnew

end InStep

/-! ## Runs -/

/-- **A step keeps to the plan.** -/
theorem InStep.step (h : InStep served plan doomed history e s m)
    (hserves : Serves served plan doomed) (hdooms : g.Dooms plan doomed)
    (hbarren : Barren g plan doomed history e) (hunhurried : Unhurried g plan doomed e.width)
    (hsound : Sound executor limit plan before history e) (hstep : e.step = some next) :
    ∃ s m, InStep served plan doomed (history ++ e.events) next s m := by
  have hnext := (hsound.step hstep).1
  rcases hsound.step_dealt (hbarren.known hdooms) hstep with
    ⟨t, rest, ht⟩ | ⟨time, hready, hevents, rfl⟩
  · cases hd : doomed t.invocation with
    | true =>
        obtain ⟨spec, hspec, hf⟩ :=
          hbarren.exists_fails hdooms (List.mem_of_getElem? ht.planned) hd
        have halike := (ht.dealt.of_fails hbarren.sterile hspec hf).1
        exact h.doomedTurn ht hserves hsound.placed hnext hd halike
    | false =>
        cases ht.dealt with
        | polled spec hspec phase reached q hfrom hreached hpolled hpool hsettled hcalled hput =>
            exact h.targetTurn ht hserves hdooms hbarren hunhurried hsound hnext hd hspec hfrom
              hreached hpolled hpool hsettled hcalled hput
        | untargeted hspec hfrom hpool hsettled =>
            exact h.otherTurn ht hserves hsound.placed hnext (.inl ⟨hspec, hfrom⟩) hpool
        | ended target finish outcome hfrom hpool hevents =>
            exact h.otherTurn ht hserves hsound.placed hnext
              (.inr ⟨hevents, target, finish, outcome, hfrom⟩) hpool
  · refine ⟨s, m, h.order.passTo hready hnext, h.alone, h.numbered, ?_, h.alike, ?_⟩
    · cases h.mark with
      | level hm hnobody => exact .level hm hnobody
      | behind hm hwidth u hu hindex hgood spec hspec finish hprogress hscan =>
          exact .behind hm hwidth u hu hindex hgood spec hspec finish hprogress hscan
    · rw [hevents, List.append_nil]
      exact h.heard

/-- The pools of serving one by one. -/
theorem serves_served {pool : Pool} (hn : pool.Numbered) (executor : Executor)
    (limit : Option Duration) (doomed : Invocation → Bool) (plan : List Invocation) :
    Serves (pool.served executor limit doomed plan) plan doomed := by
  constructor
  case numbered => exact fun k => hn.serveAll executor limit _
  case skip =>
    intro k i hi hskip
    rw [Pool.served_succ hi]
    split
    · rfl
    · next hgood =>
        have hnone := hskip.resolve_left hgood
        rw [Pool.serve_of_target_eq_none hnone]
  case resolve =>
    intro k i spec hi hgood hspec
    rw [Pool.served_succ hi, if_neg (by simp [hgood])]
    exact Pool.alike_serve hspec

theorem Sound.sameSettings (h : Sound executor limit plan before history e)
    (hstep : e.step = some next) : SameSettings e next := by
  rcases h.step_cases hstep with ⟨t, rest, -, -, -, hturn⟩ | ⟨time, -, -, -, rfl⟩
  · have hsame := hturn.sameSettings
    exact ⟨hsame.width, hsame.limit, hsame.executor⟩
  · exact ⟨rfl, rfl, rfl⟩

/-- **However far a plan has been executed**, it was kept to. -/
theorem inStep_run {width : Nat} (limit : Option Duration) (executor : Executor) {pool : Pool}
    (calls : List ExecutorCall) (plan : List Invocation) (hwidth : 0 < width)
    (hslots : pool.slots = []) (hn : pool.Numbered) (hsterile : pool.Sterile)
    (hdooms : pool.registry.Dooms plan doomed)
    (hunhurried : Unhurried pool.registry plan doomed width) (n : Nat) :
    let e := start width limit executor pool calls plan
    ∃ s m, InStep (pool.served executor limit doomed plan) plan doomed (e.trace n) (e.run n) s
      m := by
  intro e
  have hsound := sound_start limit executor calls plan hwidth hslots
  have hserves := serves_served hn executor limit doomed plan
  have hpool : e.pool = pool := pool_fill _
  have hsame := SameSettings.fill ⟨width, limit, executor, pool, 0, plan, 0, [], [], [], [], calls⟩
  have hbarren : Barren pool.registry plan doomed [] e :=
    barren_run limit executor calls plan hwidth hslots hsterile hdooms 0
  have horder : InOrder e 0 := inOrder_start width limit executor pool calls plan
  have hstart : InStep (pool.served executor limit doomed plan) plan doomed [] e 0 0 := by
    constructor
    case order => exact horder
    case alone => exact alone_start width limit executor pool calls plan
    case numbered => exact hpool ▸ hn
    case mark =>
      refine .level rfl fun u hu _ => ?_
      rw [(horder.starting u hu).2 (Nat.zero_le _)]
      rfl
    case alike =>
      rw [hpool]
      exact .refl pool
    case heard => exact fun _ hmem => absurd hmem List.not_mem_nil
  exact (hsound.run_induction
    (P := fun history e => Barren pool.registry plan doomed history e ∧ e.width = width ∧
      ∃ s m, InStep (pool.served executor limit doomed plan) plan doomed history e s m)
    (fun history f next hs hf hstep => by
      obtain ⟨hb, hw, s, m, hin⟩ := hf
      exact ⟨hb.step hdooms hs hstep, (hs.sameSettings hstep).width.trans hw,
        hin.step hserves hdooms hb (hw.symm ▸ hunhurried) hs hstep⟩)
    ⟨hbarren, hsame.width, 0, 0, hstart⟩ n).2.2.2

/-- **A plan is executed as if its invocations were served one by one**, but for the doomed ones:
the others have the same reports, and the pool is alike in the end. -/
theorem complete_serves {width : Nat} (limit : Option Duration) {executor : Executor} {pool : Pool}
    (calls : List ExecutorCall) (plan : List Invocation) (hwidth : 0 < width)
    (hslots : pool.slots = []) (hn : pool.Numbered) (hsterile : pool.Sterile)
    (hsteady : executor.Steady limit) (hdooms : pool.registry.Dooms plan doomed)
    (hunhurried : Unhurried pool.registry plan doomed width) :
    let e := complete width limit executor pool calls plan
    let serving := pool.serveAll executor limit (plan.filter fun i => !doomed i)
    remainingReports doomed plan e.results = serving.1 ∧ e.pool.Alike serving.2 := by
  intro e serving
  have hstep : e.step = none := step_complete limit executor calls plan hwidth hslots
  have hsound : Sound executor limit plan calls (story width limit executor pool calls plan) e :=
    (sound_start limit executor calls plan hwidth hslots).run (stepBound plan.length)
  obtain ⟨hlength, htold, -⟩ := complete_told limit executor calls plan hwidth hslots
  obtain ⟨s, m, hin⟩ := inStep_run limit executor calls plan hwidth hslots hn hsterile hdooms
    hunhurried (stepBound plan.length)
  constructor
  · -- each report is told by what was observed of its invocation, which serving yields as well
    refine Pool.remainingReports_eq hlength fun k i hi hgood => ?_
    obtain ⟨r, hr, hstory⟩ := htold k i hi
    refine hr.trans (congrArg some (hstory.eq_serve hsteady fun event hmem spec hspec => ?_))
    obtain ⟨htraced, hindex⟩ := List.mem_filter.1 hmem
    obtain rfl : event.index = k := beq_iff_eq.1 hindex
    exact hin.heard event htraced i spec hi hgood hspec
  · -- nobody is in flight any more, so the mark is at the end of the plan
    have htasks : e.tasks = [] := hsound.tasks_eq_nil hstep
    have hmark : m = plan.length := by
      cases hin.mark with
      | behind hm hwidth u hu =>
          have hu : u ∈ e.tasks := hu
          rw [htasks] at hu
          cases hu
      | level hm hnobody =>
          have hready : e.ready = [] := by
            refine List.eq_nil_iff_forall_not_mem.2 fun i hi => ?_
            obtain ⟨u, hu, -⟩ := (hsound.scheduled.ready i).1 hi
            rw [htasks] at hu
            cases hu
          have hqueue : e.ready.filter (fun i => decide (s ≤ i)) = List.range' s (e.started - s) :=
            hin.order.ready
          rw [hready, List.filter_nil, eq_comm, List.range'_eq_nil_iff] at hqueue
          have hle : s ≤ e.started := hin.order.le
          have hstarted := (hsound.finished hstep).1
          omega
    have halike := hin.alike
    rw [hmark, Pool.served_length] at halike
    exact halike

end Execution

end TestBench
