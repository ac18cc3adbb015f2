import TestBench.Proofs.PoolTraffic

/-!
# The count of leases

The connection of a target counts the leases that are held and those that were ever taken.
`Pool.Lent` says of some targets that both counts are right, for given numbers of leases by serial
number: settling a resolution adds the lease it has come to, and dropping a lease takes it away.

For a pool at which anything goes on, the numbers are read off its traffic. By
`Traffic.balanced_after` a target counts as many leases as are held on it and as were ever taken on
it, after any moves; so it is open just if a lease on it is held, and whoever drops a lease finds a
count above zero.
-/

set_option autoImplicit false

namespace TestBench

/-- The targets with the connection of one of them changed. -/
def Target.changing (ts : List Target) (serial : Nat) (f : Connection → Connection) : List Target :=
  ts.map fun t => if t.serial = serial then t.mapConnection f else t

namespace Target

variable {ts : List Target} {serial : Nat} {f : Connection → Connection}

theorem map_serial_changing (ts : List Target) (serial : Nat) (f : Connection → Connection) :
    (changing ts serial f).map (·.serial) = ts.map (·.serial) := by
  rw [changing, List.map_map]
  refine List.map_congr_left fun t _ => ?_
  simp only [Function.comp]
  split <;> rfl

/-- Nothing changes if no target has the number. -/
theorem changing_eq_self (h : ∀ t ∈ ts, t.serial ≠ serial) : changing ts serial f = ts := by
  refine (List.map_congr_left fun t ht => ?_).trans (List.map_id ts)
  exact if_neg (h t ht)

/-- A changed target has its number, and the change is made on its connection only. -/
theorem mem_changing {t : Target} :
    t ∈ changing ts serial f ↔
      (t ∈ ts ∧ t.serial ≠ serial) ∨ ∃ u ∈ ts, u.serial = serial ∧ t = u.mapConnection f := by
  simp only [changing, List.mem_map]
  constructor
  · rintro ⟨u, hu, rfl⟩
    by_cases hs : u.serial = serial
    · exact .inr ⟨u, hu, hs, if_pos hs⟩
    · rw [if_neg hs]
      exact .inl ⟨hu, hs⟩
  · rintro (⟨ht, hs⟩ | ⟨u, hu, hs, rfl⟩)
    · exact ⟨t, ht, if_neg hs⟩
    · exact ⟨u, hu, if_pos hs⟩

end Target

namespace Pool

variable {p q : Pool} {r : Request} {answer : Except Fault Nat}

/-! ## Answers and targets -/

/-- What an answer means for the targets of the pool. -/
inductive Granted (p q : Pool) : Except Fault Nat → Prop where
  /-- A fault comes without a lease. -/
  | nothing (fault : Fault) (htargets : q.targets = p.targets) (hbuilt : p.built ≤ q.built) :
      Granted p q (.error fault)
  /-- A lease is taken on a target of the pool. -/
  | shared (t : Target) (ht : t ∈ p.targets)
      (htargets : q.targets = Target.changing p.targets t.serial .opening)
      (hbuilt : q.built = p.built) : Granted p q (.ok t.serial)
  /-- A lease is taken on a target that nobody has used. -/
  | fresh (t : Target) (hunused : t.connection = .unused) (hserial : t.serial = p.built)
      (htargets : q.targets = p.targets ++ [t.mapConnection .opening])
      (hbuilt : q.built = p.built + 1) : Granted p q (.ok t.serial)

/-- **A settled resolution has come to one lease, or to a fault and none.** -/
theorem Settled.granted (h : Settled p r answer q) : Granted p q answer := by
  cases h with
  | unknown hp => exact .nothing _ rfl (Nat.le_refl _)
  | reused serial hs =>
      obtain ⟨t, ht, rfl⟩ := Option.map_eq_some_iff.1 hs
      exact .shared t (List.mem_of_find?_eq_some ht) rfl rfl
  | built place provider _ _ hp hb =>
      cases hb with
      | failed reason hc => exact .nothing _ rfl (Nat.le_refl _)
      | refused t reason hbare hserial hid hr => exact .nothing _ rfl (Nat.le_succ _)
      | created t hbare hserial hid hr =>
          have hunused : t.connection = .unused := congrArg Target.connection hbare.symm
          exact .fresh t hunused hserial rfl rfl

/-! ## Counted leases -/

/-- Among targets with ascending numbers, the number of a target tells how many leases on it are
active and how many were opened; the number of a target that is still to be built tells none. -/
structure Lent (ts : List Target) (built : Nat) (active opened : Nat → Nat) : Prop where
  /-- In the order in which the targets were built. -/
  ascending : (ts.map (·.serial)).Pairwise (· < ·)
  /-- The next target gets a greater number. -/
  lt_built : ∀ t ∈ ts, t.serial < built
  /-- Both counts are right. -/
  connection : ∀ t ∈ ts, t.connection = ⟨active t.serial, opened t.serial⟩
  /-- There are no leases on targets that are not built. -/
  unbuilt : ∀ n, built ≤ n → active n = 0 ∧ opened n = 0

namespace Lent

variable {ts : List Target} {built : Nat} {active opened : Nat → Nat}

theorem congr {active' opened' : Nat → Nat} (h : Lent ts built active opened)
    (hactive : ∀ n, active' n = active n) (hopened : ∀ n, opened' n = opened n) :
    Lent ts built active' opened' := by
  rw [funext hactive, funext hopened]
  exact h

theorem nodup (h : Lent ts built active opened) : (ts.map (·.serial)).Nodup :=
  h.ascending.imp Nat.ne_of_lt

theorem mono {built' : Nat} (h : Lent ts built active opened) (hbuilt : built ≤ built') :
    Lent ts built' active opened :=
  ⟨h.ascending, fun t ht => Nat.lt_of_lt_of_le (h.lt_built t ht) hbuilt, h.connection,
    fun n hn => h.unbuilt n (Nat.le_trans hbuilt hn)⟩

/-- The counts of one target are changed. -/
theorem changing {active' opened' : Nat → Nat} {f : Connection → Connection}
    (h : Lent ts built active opened) (serial : Nat)
    (hone : f ⟨active serial, opened serial⟩ = ⟨active' serial, opened' serial⟩)
    (hothers : ∀ n, n ≠ serial → active' n = active n ∧ opened' n = opened n)
    (hunbuilt : built ≤ serial → active' serial = 0 ∧ opened' serial = 0) :
    Lent (Target.changing ts serial f) built active' opened' := by
  constructor
  case ascending =>
    rw [Target.map_serial_changing]
    exact h.ascending
  case lt_built =>
    intro t ht
    rcases Target.mem_changing.1 ht with ⟨ht, -⟩ | ⟨u, hu, -, rfl⟩
    · exact h.lt_built t ht
    · exact h.lt_built u hu
  case connection =>
    intro t ht
    rcases Target.mem_changing.1 ht with ⟨ht, hne⟩ | ⟨u, hu, rfl, rfl⟩
    · rw [h.connection t ht, (hothers t.serial hne).1, (hothers t.serial hne).2]
    · show f u.connection = ⟨active' u.serial, opened' u.serial⟩
      rw [h.connection u hu, hone]
  case unbuilt =>
    intro n hn
    by_cases hs : n = serial
    · rw [hs] at hn ⊢
      exact hunbuilt hn
    · rw [(hothers n hs).1, (hothers n hs).2]
      exact h.unbuilt n hn

/-- A lease is taken on a target that is there. -/
theorem opening {t : Target} (h : Lent ts built active opened) (ht : t ∈ ts) :
    Lent (Target.changing ts t.serial .opening) built
      (fun n => active n + [t.serial].count n) (fun n => opened n + [t.serial].count n) := by
  refine h.changing t.serial ?_ (fun n hne => ?_) fun hle => ?_
  · simp [Connection.opening]
  · simp [hne.symm]
  · exact absurd (h.lt_built t ht) (Nat.not_lt_of_le hle)

/-- A lease is dropped. -/
theorem closing (h : Lent ts built active opened) (serial : Nat) :
    Lent (Target.changing ts serial .closing) built (fun n => active n - [serial].count n)
      opened := by
  refine h.changing serial ?_ (fun n hne => ?_) fun hle => ?_
  · simp [Connection.closing]
  · simp [hne.symm]
  · simp [h.unbuilt serial hle]

/-- A lease is taken on a target that has just been built. -/
theorem concat {t : Target} (h : Lent ts built active opened) (hunused : t.connection = .unused)
    (hserial : t.serial = built) :
    Lent (ts ++ [t.mapConnection .opening]) (built + 1)
      (fun n => active n + [t.serial].count n) (fun n => opened n + [t.serial].count n) := by
  subst hserial
  have hnone := h.unbuilt t.serial (Nat.le_refl _)
  constructor
  case ascending =>
    rw [List.map_append, List.pairwise_append]
    refine ⟨h.ascending, List.pairwise_singleton _ _, fun a ha b hb => ?_⟩
    obtain ⟨u, hu, rfl⟩ := List.mem_map.1 ha
    rw [List.mem_singleton.1 hb]
    exact h.lt_built u hu
  case lt_built =>
    intro u hu
    rcases List.mem_append.1 hu with hu | hu
    · exact Nat.lt_succ_of_lt (h.lt_built u hu)
    · rw [List.mem_singleton.1 hu]
      exact Nat.lt_succ_self _
  case connection =>
    intro u hu
    rcases List.mem_append.1 hu with hu | hu
    · -- the number of the new target is greater than the others
      have hne : t.serial ≠ u.serial := Nat.ne_of_gt (h.lt_built u hu)
      rw [h.connection u hu]
      simp [hne]
    · rw [List.mem_singleton.1 hu]
      show t.connection.opening = _
      rw [hunused]
      simp [Connection.opening, Connection.unused, Target.mapConnection, hnone]
  case unbuilt =>
    intro n hn
    have hne : t.serial ≠ n := Nat.ne_of_lt hn
    simp [h.unbuilt n (Nat.le_of_succ_le hn), hne]

/-- **Settling a resolution adds the lease it has come to**, and touches no target that has left the
pool. -/
theorem granted (gone : List Target) (h : Lent (gone ++ p.targets) p.built active opened)
    (hg : Granted p q answer) :
    Lent (gone ++ q.targets) q.built
      (fun n => active n + (Resolution.settled answer).granted.count n)
      (fun n => opened n + (Resolution.settled answer).granted.count n) := by
  cases hg with
  | nothing fault htargets hbuilt =>
      rw [htargets]
      exact (h.mono hbuilt).congr (fun _ => rfl) fun _ => rfl
  | shared t ht htargets hbuilt =>
      -- a target that has left the pool has another number
      have hgone : ∀ u ∈ gone, u.serial ≠ t.serial := by
        intro u hu
        have hascending := h.ascending
        rw [List.map_append, List.pairwise_append] at hascending
        have hlt := hascending.2.2 _ (List.mem_map_of_mem hu) _ (List.mem_map_of_mem ht)
        exact Nat.ne_of_lt hlt
      have hopening := h.opening (List.mem_append_right gone ht)
      rw [Target.changing, List.map_append] at hopening
      rw [htargets, hbuilt, ← Target.changing_eq_self (f := .opening) hgone]
      exact hopening
  | fresh t hunused hserial htargets hbuilt =>
      rw [htargets, hbuilt, ← List.append_assoc]
      exact h.concat hunused hserial

end Lent

end Pool

namespace Traffic

variable {T : Traffic}

/-- The books of a pool and its traffic are balanced. -/
structure Balanced (T : Traffic) : Prop where
  /-- Every target counts the leases that are held on it and those that were taken on it. -/
  lent : Pool.Lent T.targets T.pool.built (T.held.count ·) (T.taken.count ·)
  /-- Every lease that was taken is on a target. -/
  target : ∀ n ∈ T.taken, n ∈ T.targets.map (·.serial)
  /-- Whoever holds a lease has taken it. -/
  held : ∀ n ∈ T.held, n ∈ T.taken

theorem balanced_start (registry : Registry) (keep : Bool) (ids : Nat → TargetId) :
    Balanced (start registry keep ids) := by
  have hnobody : ∀ t : Target, t ∉ (start registry keep ids).targets := fun _ => List.not_mem_nil
  refine ⟨⟨List.Pairwise.nil, fun t ht => absurd ht (hnobody t),
    fun t ht => absurd ht (hnobody t), fun n _ => ⟨rfl, rfl⟩⟩, ?_, ?_⟩
  · exact fun _ hn => absurd hn List.not_mem_nil
  · exact fun _ hn => absurd hn List.not_mem_nil

/-- Balanced books do not depend on who stands at a slot, and on the calls. -/
theorem Balanced.of_eq {U : Traffic} (h : Balanced T) (hpool : U.pool.targets = T.pool.targets)
    (hbuilt : U.pool.built = T.pool.built) (hgone : U.gone = T.gone) (hheld : U.held = T.held)
    (htaken : U.taken = T.taken) : Balanced U := by
  have htargets : U.targets = T.targets := by rw [targets, hgone, hpool, targets]
  constructor
  case lent =>
    rw [htargets, hbuilt, hheld, htaken]
    exact h.lent
  case target =>
    rw [htargets, htaken]
    exact h.target
  case held =>
    rw [hheld, htaken]
    exact h.held

/-- The lease that a resolution has come to is entered. -/
theorem Balanced.grant {r : Request} {answer : Except Pool.Fault Nat} {q : Pool} (h : Balanced T)
    (hs : Pool.Settled T.pool r answer q) :
    Balanced (T.grant q (Resolution.settled answer).granted) := by
  have hgranted := hs.granted
  constructor
  case lent =>
    have hlent := Pool.Lent.granted T.gone h.lent hgranted
    exact hlent.congr (fun _ => List.count_append) fun _ => List.count_append
  case target =>
    intro n hn
    have hkept : n ∈ T.targets.map (·.serial) → n ∈ (T.gone ++ q.targets).map (·.serial) := by
      intro hin
      rw [targets, List.map_append, List.mem_append] at hin
      rw [List.map_append, List.mem_append]
      refine hin.imp_right fun hin => ?_
      cases hgranted with
      | nothing fault htargets hbuilt => exact htargets ▸ hin
      | shared t ht htargets hbuilt =>
          rw [htargets, Target.map_serial_changing]
          exact hin
      | fresh t hunused hserial htargets hbuilt =>
          rw [htargets, List.map_append]
          exact List.mem_append_left _ hin
    rcases List.mem_append.1 hn with hn | hn
    · exact hkept (h.target n hn)
    · -- the lease is on the target that has answered the request
      cases answer with
      | error fault => cases hn
      | ok serial =>
          obtain ⟨t, ht, hserial, -⟩ := hs.exists_mem
          rw [List.mem_singleton.1 hn, ← hserial]
          exact List.mem_map_of_mem (List.mem_append_right T.gone ht)
  case held =>
    intro n hn
    rcases List.mem_append.1 hn with hn | hn
    · exact List.mem_append_left _ (h.held n hn)
    · exact List.mem_append_right _ hn

/-- A lease that is held is dropped. -/
theorem Balanced.drop {serial : Nat} (h : Balanced T) (hheld : serial ∈ T.held) :
    Balanced (T.perform (.drop serial)) := by
  rw [perform, if_pos hheld]
  have htargets : Target.changing T.gone serial .closing ++ (T.pool.release serial).targets =
      Target.changing T.targets serial .closing := by
    rw [targets, Target.changing, Target.changing, List.map_append]
    rfl
  constructor
  case lent =>
    have hclosed := h.lent.closing serial
    rw [← htargets] at hclosed
    refine hclosed.congr (fun n => ?_) fun _ => rfl
    show (T.held.erase serial).count n = T.held.count n - [serial].count n
    rw [List.count_erase, List.count_singleton]
  case target =>
    intro n hn
    show n ∈ (Target.changing T.gone serial .closing ++ (T.pool.release serial).targets).map
      (·.serial)
    rw [htargets, Target.map_serial_changing]
    exact h.target n hn
  case held => exact fun n hn => h.held n (List.mem_of_mem_erase hn)

/-- The targets of the pool are taken from it. -/
theorem Balanced.teardown (h : Balanced T) : Balanced (T.perform .teardown) := by
  obtain ⟨registry, hempty⟩ := T.pool.teardown_exists_registry
  have htargets : (T.perform .teardown).targets = T.targets := by
    simp only [targets, perform, hempty, List.append_nil]
  have hbuilt : (T.perform .teardown).pool.built = T.pool.built := by
    simp only [perform, hempty]
  constructor
  case lent =>
    rw [htargets, hbuilt]
    exact h.lent
  case target =>
    rw [htargets]
    exact h.target
  case held => exact h.held

/-- **Every move keeps the books balanced.** -/
theorem Balanced.perform (h : Balanced T) (move : Move) : Balanced (T.perform move) := by
  cases move with
  | arrive r => exact h.of_eq rfl rfl rfl rfl rfl
  | advance caller now =>
      rcases T.advance_cases caller now with heq | ⟨r, next, pool, calls, hadvanced, heq⟩
      · rw [Traffic.perform, heq]
        exact h
      · rw [Traffic.perform, heq]
        cases hadvanced with
        | moved phase slots hphase =>
            -- a resolution that is not over has come to no lease
            have hnone : next.granted = [] := by
              cases next with
              | settled answer => exact absurd rfl (hphase answer)
              | _ => rfl
            rw [hnone]
            exact h.of_eq rfl rfl rfl (List.append_nil _) (List.append_nil _)
        | settled answer q slots hs => exact (h.grant hs).of_eq rfl rfl rfl rfl rfl
  | cancel caller => exact h.of_eq rfl rfl rfl rfl rfl
  | resolve r =>
      rw [Traffic.perform]
      split
      · exact h.grant (Pool.resolve_answered T.pool r).settled
      · exact h
  | drop serial =>
      by_cases hheld : serial ∈ T.held
      · exact h.drop hheld
      · rw [Traffic.perform, if_neg hheld]
        exact h
  | teardown => exact h.teardown

/-- **The books are balanced after any interleaving.** -/
theorem balanced_after (registry : Registry) (keep : Bool) (ids : Nat → TargetId)
    (moves : List Move) : Balanced ((start registry keep ids).after moves) :=
  after_induction (fun _ move h => h.perform move) (balanced_start registry keep ids) moves

/-- A target is open just if a lease on it is held. -/
theorem Balanced.isOpen_iff {t : Target} (h : Balanced T) (ht : t ∈ T.targets) :
    t.connection.isOpen = true ↔ t.serial ∈ T.held := by
  rw [Connection.isOpen, decide_eq_true_iff, h.lent.connection t ht, List.count_pos_iff]

/-- **Whoever drops a lease finds a count above zero.** -/
theorem Balanced.exists_active {n : Nat} (h : Balanced T) (hn : n ∈ T.held) :
    ∃ t ∈ T.targets, t.serial = n ∧ 0 < t.connection.active := by
  obtain ⟨t, ht, rfl⟩ := List.mem_map.1 (h.target n (h.held n hn))
  refine ⟨t, ht, rfl, ?_⟩
  rw [h.lent.connection t ht]
  exact List.count_pos_iff.2 hn

end Traffic

end TestBench
