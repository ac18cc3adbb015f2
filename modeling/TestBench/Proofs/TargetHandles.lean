import Mathlib.Data.List.Induction
import Mathlib.Data.List.Nodup
import TestBench.Fleet.Simulation
import TestBench.Proofs.PoolLeases

/-!
# No two targets have the same name

A simulated platform names its targets by their number, and several platforms may use the same
names. What tells two targets apart is the kind and the name together. `Traffic.handles_unique` says
that these two are enough for all targets that ever enter a pool over simulated platforms, whichever
kinds the platforms answer to, whatever was refused or failed, and however often the pool was torn
down.

The argument has three parts. Different numbers have different names, also where four digits are not
enough (`Simulation.handle_inj`). A target enters the pool only if its kind is the one that was asked
for, so all targets of a kind come from the one platform that answers to it (`Registry.Issued`). A
platform numbers its targets by its ledger, which only grows (`Registry.Named`). The numbers begin
again after `2 ^ 64` targets, so there may not be more requests than that (`Traffic.after_budget`).
-/

set_option autoImplicit false

namespace TestBench

/-! ## Names -/

namespace Simulation

/-- Zeros before a number do not change it. -/
theorem ofDigitChars_zeros (k : Nat) (digits : List Char) :
    Nat.ofDigitChars 10 (List.replicate k '0' ++ digits) 0 = Nat.ofDigitChars 10 digits 0 := by
  induction k with
  | zero => rfl
  | succ k ih =>
      rw [List.replicate_succ, List.cons_append, Nat.ofDigitChars_cons]
      exact ih

/-- **A number is read back from its digits**, however many there are. -/
theorem ofDigitChars_fourDigits (n : Nat) :
    Nat.ofDigitChars 10 (fourDigits n).toList 0 = n := by
  rw [fourDigits, String.toList_ofList, ofDigitChars_zeros]
  exact Nat.ofDigitChars_ten_toDigits

/-- The digits follow the common beginning of all names. -/
theorem toList_handle (n : Nat) :
    (handle n).toList = "mock-vm-".toList ++ (fourDigits (n % handleCount)).toList :=
  String.toList_append

/-- **Different numbers have different names**, up to the number of names. -/
theorem handle_inj {m n : Nat} (h : handle m = handle n) : m % handleCount = n % handleCount := by
  have hlists := congrArg String.toList h
  rw [toList_handle, toList_handle] at hlists
  have hdigits := List.append_cancel_left hlists
  calc m % handleCount
      = Nat.ofDigitChars 10 (fourDigits (m % handleCount)).toList 0 :=
        (ofDigitChars_fourDigits _).symm
    _ = Nat.ofDigitChars 10 (fourDigits (n % handleCount)).toList 0 := by rw [hdigits]
    _ = n % handleCount := ofDigitChars_fourDigits _

/-- The name has four digits first and more of them later. -/
example : handle 9999 = "mock-vm-9999" ∧ handle 10000 = "mock-vm-10000" := by decide

/-- Among as many numbers in a row as there are names, no two have the same one. -/
theorem eq_of_handle_eq {first m n : Nat} (h : handle m = handle n) (hm : first ≤ m)
    (hm' : m < first + handleCount) (hn : first ≤ n) (hn' : n < first + handleCount) : m = n := by
  have hmod := handle_inj h
  have hcount : handleCount = 18446744073709551616 := rfl
  rw [hcount] at hmod hm' hn'
  omega

/-- A target is named by the number of those that the platform has built before. -/
theorem handle_of_construct {s : Simulation} {ledger : Ledger} {parameters : Parameters}
    {features : NameSet} {b : Blueprint} (h : s.construct ledger parameters features = .ok b) :
    b.handle = handle ledger.built.length := by
  rw [construct] at h
  split at h
  · cases h
  · split at h
    · cases h
    · cases h
      rfl

end Simulation

/-! ## Ledgers of simulated platforms -/

namespace Registry

variable {start now later g : Registry} {kind : String} {place : Nat} {provider : Provider}
  {t : Target}

/-- All platforms are simulated ones. Each may answer to any kinds and may have been used before. -/
def OnlySimulated (g : Registry) : Prop :=
  ∀ provider ∈ g.providers, ∃ s : Simulation, provider.platform = s.platform

theorem OnlySimulated.note (h : g.OnlySimulated) (place : Nat) (call : PlatformCall) :
    (g.note place call).OnlySimulated := by
  intro provider hprovider
  obtain ⟨i, hi⟩ := List.mem_iff_getElem?.1 hprovider
  obtain ⟨before, hbefore, hsame⟩ := exists_of_providers_note hi
  rw [← hsame]
  exact h before (List.mem_of_getElem? hbefore)

theorem ledger_eq (hp : g.provider? kind = some (place, provider)) :
    g.ledger place = provider.ledger := by
  rw [ledger, (provider?_eq_some_iff.1 hp).2]
  rfl

/-- The number of targets that the platform at a place has built. -/
def count (g : Registry) (place : Nat) : Nat := (g.ledger place).built.length

theorem built_ledger_note (hp : g.provider? kind = some (place, provider)) (call : PlatformCall)
    (i : Nat) :
    ((g.note place call).ledger i).built =
      (g.ledger i).built ++ if place = i then Ledger.built [call] else [] := by
  rw [ledger_note hp]
  split
  · exact Ledger.built_append _ _
  · exact (List.append_nil _).symm

/-- A call builds one target at most. -/
theorem length_built_le (call : PlatformCall) : (Ledger.built [call]).length ≤ 1 :=
  List.length_filterMap_le _ _

/-- What the ledgers say of the names: since an earlier time, every target was named by the number
of those that stand before it in the ledger of its platform. -/
structure Named (start now : Registry) : Prop where
  /-- The platforms are those of the earlier time. -/
  follows : start.Follows now
  /-- All of them are simulated. -/
  simulated : now.OnlySimulated
  /-- A target has the name of its number. -/
  handle : ∀ place n t, start.count place ≤ n → (now.ledger place).built[n]? = some t →
    t.handle = Simulation.handle n

theorem named_self (h : g.OnlySimulated) : g.Named g := by
  refine ⟨Follows.refl g, h, ?_⟩
  intro place n t hn ht
  -- there is nothing behind the end of a ledger
  rw [List.getElem?_eq_none hn] at ht
  cases ht

/-- **A call is noted**, by which a target with the name of the next number is built, or none. -/
theorem Named.note (h : Named start now) (hp : now.provider? kind = some (place, provider))
    {call : PlatformCall}
    (hcall : ∀ t ∈ Ledger.built [call], t.handle = Simulation.handle (now.count place)) :
    Named start (now.note place call) := by
  refine ⟨h.follows.note hp call, h.simulated.note place call, ?_⟩
  intro i n t hn ht
  rw [built_ledger_note hp, List.getElem?_append] at ht
  split at ht
  · exact h.handle i n t hn ht
  · next hge =>
      -- behind the old entries there is the new one only, and that stands at its place
      split at ht
      · next heq =>
          subst heq
          have hlt := (List.getElem?_eq_some_iff.1 ht).1
          have hone := length_built_le call
          have hnumber : n = now.count place := by
            rw [count]
            omega
          rw [hnumber]
          exact hcall t (List.mem_of_getElem? ht)
      · cases ht

/-- A target was built since an earlier time, and by the platform that answers to its kind. -/
def Issued (start now : Registry) (t : Target) : Prop :=
  ∃ place n, start.place? t.platform = some place ∧ start.count place ≤ n ∧
    (now.ledger place).built[n]? = some t

/-- No ledger forgets a target. -/
theorem Issued.note (h : Issued start now t) (hp : now.provider? kind = some (place, provider))
    (call : PlatformCall) : Issued start (now.note place call) t := by
  obtain ⟨i, n, hplace, hn, ht⟩ := h
  refine ⟨i, n, hplace, hn, ?_⟩
  have hlt := (List.getElem?_eq_some_iff.1 ht).1
  rw [built_ledger_note hp, List.getElem?_append_left hlt]
  exact ht

/-- **Kind and name are enough to tell issued targets apart**, as long as no platform has used up
all names. -/
theorem Named.eq_of_handle_eq {u : Target} (h : Named start now) (ht : Issued start now t)
    (hu : Issued start now u)
    (hcount : ∀ place, now.count place ≤ start.count place + Simulation.handleCount)
    (hplatform : t.platform = u.platform) (hhandle : t.handle = u.handle) : t = u := by
  obtain ⟨place, m, hplace, hm, ht⟩ := ht
  obtain ⟨place', n, hplace', hn, hu⟩ := hu
  -- the kinds are the same, so both stand in one ledger
  rw [hplatform, hplace', Option.some.injEq] at hplace
  subst hplace
  rw [h.handle _ m t hm ht, h.handle _ n u hn hu] at hhandle
  have hbound := hcount place'
  have hm' : m < now.count place' := (List.getElem?_eq_some_iff.1 ht).1
  have hn' : n < now.count place' := (List.getElem?_eq_some_iff.1 hu).1
  have hnumber : m = n :=
    Simulation.eq_of_handle_eq hhandle hm (by omega) hn (by omega)
  rw [hnumber, hu, Option.some.injEq] at ht
  exact ht.symm

end Registry

namespace Pool

variable {p q : Pool} {r : Request} {start : Registry} {known : List Target} {kind : String}
  {place : Nat} {provider : Provider} {t : Target} {done done' : Teardown}
  {answer : Except Fault Nat}

/-! ## Targets that enter a pool -/

/-- A simulated platform names what it builds by the number of targets in its ledger. -/
theorem Made.handle (h : Made p r provider t) (hg : p.registry.OnlySimulated)
    (hp : p.registry.provider? r.platform = some (place, provider)) :
    t.handle = Simulation.handle (p.registry.count place) := by
  obtain ⟨blueprint, hbuilt, rfl⟩ := h
  have hprovider := (Registry.provider?_eq_some_iff.1 hp).2
  obtain ⟨s, hs⟩ := hg provider (List.mem_of_getElem? hprovider)
  rw [hs] at hbuilt
  rw [Registry.count, Registry.ledger_eq hp]
  exact Simulation.handle_of_construct hbuilt

/-- The targets in the pool, and some that were known before, are in the ledgers of the platforms
that answer to their kinds. -/
structure Listed (start : Registry) (known : List Target) (p : Pool) : Prop where
  /-- The platforms have named the targets by their numbers. -/
  named : start.Named p.registry
  /-- Every target was built since the beginning. -/
  issued : ∀ t ∈ known ++ p.bare, start.Issued p.registry t
  /-- No platform has built more targets than were counted. -/
  count : ∀ place, p.registry.count place ≤ start.count place + p.built

theorem listed_empty {registry : Registry} (h : registry.OnlySimulated) (keep : Bool)
    (ids : Nat → TargetId) : Listed registry [] (empty registry keep ids) where
  named := Registry.named_self h
  issued _ ht := absurd ht List.not_mem_nil
  count _ := Nat.le_refl _

/-- **A call is noted**, and at most the target that it has built enters the pool. -/
theorem Listed.note {targets : List Target} {built : Nat} {call : PlatformCall}
    (h : Listed start known p) (hp : p.registry.provider? kind = some (place, provider))
    (hcall : ∀ t ∈ Ledger.built [call], t.handle = Simulation.handle (p.registry.count place))
    (hbuilt : p.built + (Ledger.built [call]).length ≤ built)
    (htargets : ∀ t ∈ targets.map Target.bare, t ∈ p.bare ∨ t.platform = kind ∧
      Ledger.built [call] = [t]) :
    Listed start known
      { p with registry := p.registry.note place call, built := built, targets := targets } := by
  constructor
  case named => exact h.named.note hp hcall
  case issued =>
    intro t ht
    have hcases : t ∈ known ++ p.bare ∨ t.platform = kind ∧ Ledger.built [call] = [t] := by
      rcases List.mem_append.1 ht with ht | ht
      · exact .inl (List.mem_append_left _ ht)
      · exact (htargets t ht).imp_left (List.mem_append_right _)
    rcases hcases with ht | ⟨hkind, hone⟩
    · exact (h.issued t ht).note hp call
    · -- the new target is the last one in the ledger of the platform that was asked
      refine ⟨place, p.registry.count place, ?_, ?_, ?_⟩
      · have hplace := (Registry.provider?_eq_some_iff.1 hp).1
        rw [Registry.place?, h.named.follows.places] at hplace
        rw [hkind]
        exact hplace
      · exact ((h.named.follows.ledger place).filterMap _).length_le
      · rw [Registry.built_ledger_note hp, if_pos rfl, hone]
        exact List.getElem?_concat_length
  case count =>
    intro i
    have hlast := h.count i
    rw [Registry.count, Registry.built_ledger_note hp, List.length_append]
    rw [Registry.count] at hlast
    show _ ≤ start.count i + built
    split
    · omega
    · rw [List.length_nil]
      omega

/-- What is known is still known when targets leave the pool or change their connections. -/
theorem Listed.of_bare {targets : List Target} (h : Listed start known p)
    (htargets : ∀ t ∈ targets.map Target.bare, t ∈ p.bare) (slots : SlotQueue) :
    Listed start known { p with targets := targets, slots := slots } where
  named := h.named
  issued t ht := by
    rcases List.mem_append.1 ht with ht | ht
    · exact h.issued t (List.mem_append_left _ ht)
    · exact h.issued t (List.mem_append_right _ (htargets t ht))
  count := h.count

theorem Listed.built (h : Listed start known p)
    (hp : p.registry.provider? r.platform = some (place, provider))
    (hb : Built p r place provider answer q) : Listed start known q := by
  cases hb with
  | failed reason hc => exact h.note hp nofun (Nat.le_refl _) fun t ht => .inl ht
  | refused t reason hbare hserial hid hr hmade =>
      refine h.note hp ?_ (Nat.le_refl _) fun u hu => .inl hu
      intro u hu
      rw [List.mem_singleton.1 hu]
      exact hmade.handle h.named.simulated hp
  | created t hbare hserial hid hr hmade =>
      refine h.note hp ?_ (Nat.le_refl _) ?_
      · intro u hu
        rw [List.mem_singleton.1 hu]
        exact hmade.handle h.named.simulated hp
      · intro u hu
        rw [List.map_append, List.mem_append] at hu
        rcases hu with hu | hu
        · exact .inl hu
        · -- only a target of the kind that was asked for is appended
          have heq : u = t := (List.mem_singleton.1 hu).trans hbare
          rw [heq]
          exact .inr ⟨Target.platform_of_satisfies hr, rfl⟩

/-- **Resolutions and leases keep the targets listed.** -/
theorem listed_kept (start : Registry) (known : List Target) : Kept (Listed start known) where
  slots p slots h := h.of_bare (fun _ ht => ht) slots
  settled p r answer q hs h := by
    cases hs with
    | unknown hp => exact h
    | reused serial hr =>
        apply h.of_bare _ p.slots
        intro t ht
        rwa [← bare_lease p serial]
    | built place provider _ _ hp hb => exact h.built hp hb
  release p serial h := by
    apply h.of_bare _ p.slots
    intro t ht
    rwa [← bare_mapConnection p serial .closing]

theorem Listed.dismissed (h : Listed start known p) (hd : Dismissed p done t done' q) :
    Listed start known q := by
  cases hd with
  | kept hk => exact h
  | orphaned hk hp => exact h
  | deleted hk place provider hp hok =>
      exact h.note hp nofun (Nat.le_refl _) fun u hu => .inl hu
  | undeleted hk place provider reason hp herror =>
      exact h.note hp nofun (Nat.le_refl _) fun u hu => .inl hu

/-- **Teardowns keep them listed**: they only ask for deletions. -/
theorem Listed.teardown (h : Listed start known p) : Listed start known p.teardown.2 := by
  apply p.teardown_induction
  · exact h.of_bare (fun _ ht => absurd ht List.not_mem_nil) p.slots
  · intro _ q t done done' hd hlisted
    exact hlisted.dismissed hd

/-- More targets may count as known if they were known or are in the pool. -/
theorem Listed.remember {known' : List Target} (h : Listed start known p)
    (hknown : ∀ t ∈ known', t ∈ known ∨ t ∈ p.bare) : Listed start known' p where
  named := h.named
  issued t ht := by
    apply h.issued t
    rcases List.mem_append.1 ht with ht | ht
    · exact List.mem_append.2 (hknown t ht)
    · exact List.mem_append_right _ ht
  count := h.count

/-- A resolution that settles leaves the targets as they were built, and builds one more at most. -/
theorem Settled.grows (h : Settled p r answer q) :
    p.bare <+: q.bare ∧ q.built ≤ p.built + 1 := by
  cases h with
  | unknown hp => exact ⟨List.prefix_rfl, Nat.le_succ _⟩
  | reused serial hs => exact ⟨(extends_mapConnection p serial .opening).bare, Nat.le_succ _⟩
  | built place provider _ _ hp hb =>
      refine ⟨hb.extends.bare, ?_⟩
      cases hb with
      | failed reason hc => exact Nat.le_succ _
      | refused t reason hbare hserial hid hr hmade => exact Nat.le_refl _
      | created t hbare hserial hid hr hmade => exact Nat.le_refl _

end Pool

/-! ## Requests -/

/-- The resolution is not over. -/
def Resolution.isPending : Resolution → Bool
  | .settled _ => false
  | _ => true

namespace Traffic

variable {T : Traffic} {move : Move} {moves : List Move} {registry : Registry} {t : Target}

/-- A request is made. -/
def Move.asks : Move → Bool
  | .arrive _ | .resolve _ => true
  | _ => false

/-- The number of calls that may still build a target. -/
def pending (T : Traffic) : Nat := T.calls.countP (·.any (·.2.isPending))

/-- A call that goes on is pending until it is over. -/
theorem pending_set {caller : Nat} {r : Request} {phase : Resolution} (next : Resolution)
    (hcall : T.calls[caller]? = some (some (r, phase))) (hphase : phase.isPending = true) :
    pending { T with calls := T.calls.set caller (some (r, next)) } + 1 =
      T.pending + if next.isPending then 1 else 0 := by
  obtain ⟨hlt, hget⟩ := List.getElem?_eq_some_iff.1 hcall
  -- the call itself is one of those that are pending
  have hpos : 0 < T.pending := by
    rw [pending, List.countP_pos_iff]
    exact ⟨_, List.mem_of_getElem? hcall, hphase⟩
  have hset : pending { T with calls := T.calls.set caller (some (r, next)) } =
      T.pending - 1 + if next.isPending then 1 else 0 := by
    rw [pending, List.countP_set hlt, hget, Option.any_some, hphase, if_pos rfl]
    rfl
  omega

/-- **A call that goes on stops being pending when it builds a target.** -/
theorem advance_budget (T : Traffic) (caller now : Nat) :
    (T.advance caller now).pool.built + (T.advance caller now).pending ≤
      T.pool.built + T.pending := by
  rw [Traffic.advance]
  split
  · next r phase hcall =>
      split
      · next next pool hadvance =>
          have hphase : phase.isPending = true := by
            cases phase with
            | settled answer => cases hadvance
            | _ => rfl
          have hset := pending_set next hcall hphase
          show pool.built + pending { T with calls := T.calls.set caller (some (r, next)) } ≤ _
          cases Pool.advance_advanced hadvance with
          | moved phase slots h =>
              show T.pool.built + _ ≤ _
              split at hset <;> omega
          | settled answer q slots h =>
              -- the target is paid for by the call, which is over
              have hbuilt : q.built ≤ T.pool.built + 1 := h.grows.2
              change _ + 1 = T.pending at hset
              show q.built + _ ≤ _
              omega
      · exact Nat.le_refl _
  · exact Nat.le_refl _

/-- A call that is given up is not pending any more. -/
theorem pending_cancel_le (T : Traffic) (caller : Nat) :
    (T.perform (.cancel caller)).pending ≤ T.pending := by
  show (T.calls.set caller none).countP _ ≤ T.calls.countP _
  by_cases hlt : caller < T.calls.length
  · rw [List.countP_set hlt]
    exact Nat.sub_le _ _
  · -- there is no such call
    have hsame : T.calls.set caller none = T.calls :=
      List.set_eq_of_length_le (Nat.le_of_not_lt hlt)
    exact Nat.le_of_eq (congrArg (List.countP _) hsame)

/-- **Targets that are built and calls that may still build one are paid for by requests.** -/
theorem perform_budget (T : Traffic) (move : Move) :
    (T.perform move).pool.built + (T.perform move).pending ≤
      T.pool.built + T.pending + [move].countP Move.asks := by
  cases move with
  | arrive r =>
      show T.pool.built + List.countP _ (T.calls ++ [some (r, Resolution.arriving)]) ≤ _
      rw [List.countP_append]
      exact Nat.le_refl _
  | advance caller now => exact T.advance_budget caller now
  | cancel caller => exact Nat.add_le_add_left (T.pending_cancel_le caller) _
  | resolve r =>
      rw [perform]
      split
      · have hbuilt := (Pool.resolve_answered T.pool r).settled.grows.2
        show (T.pool.resolve r).2.built + T.pending ≤ T.pool.built + T.pending + 1
        omega
      · exact Nat.le_succ _
  | drop serial =>
      rw [perform]
      split
      · exact Nat.le_refl _
      · exact Nat.le_refl _
  | teardown =>
      obtain ⟨registry, hempty⟩ := T.pool.teardown_exists_registry
      have hbuilt : T.pool.teardown.2.built = T.pool.built := by rw [hempty]
      exact Nat.le_of_eq (congrArg (· + T.pending) hbuilt)

/-- **There are never more targets than requests.** -/
theorem after_budget (moves : List Move) (T : Traffic) :
    (T.after moves).pool.built + (T.after moves).pending ≤
      T.pool.built + T.pending + moves.countP Move.asks := by
  induction moves generalizing T with
  | nil => exact Nat.le_refl _
  | cons move rest ih =>
      have hstep := T.perform_budget move
      have hrest := ih (T.perform move)
      rw [List.countP_cons]
      rw [List.countP_singleton] at hstep
      show ((T.perform move).after rest).pool.built + ((T.perform move).after rest).pending ≤ _
      omega

/-! ## All targets that ever entered -/

/-- Only a teardown takes targets from the pool. -/
theorem bare_perform (hmove : move ≠ .teardown) :
    (T.perform move).gone.map Target.bare = T.gone.map Target.bare ∧
      T.pool.bare <+: (T.perform move).pool.bare := by
  cases move with
  | arrive r => exact ⟨rfl, List.prefix_rfl⟩
  | advance caller now =>
      rcases T.advance_cases caller now with heq | ⟨r, next, pool, calls, hadvanced, heq⟩
      · rw [perform, heq]
        exact ⟨rfl, List.prefix_rfl⟩
      · rw [perform, heq]
        cases hadvanced with
        | moved phase slots _ => exact ⟨rfl, List.prefix_rfl⟩
        | settled answer q slots hs => exact ⟨rfl, hs.grows.1⟩
  | cancel caller => exact ⟨rfl, List.prefix_rfl⟩
  | resolve r =>
      rw [perform]
      split
      · exact ⟨rfl, (Pool.resolve_answered T.pool r).settled.grows.1⟩
      · exact ⟨rfl, List.prefix_rfl⟩
  | drop serial =>
      rw [perform]
      split
      · refine ⟨?_, (Pool.extends_mapConnection T.pool serial .closing).bare⟩
        rw [List.map_map]
        apply List.map_congr_left
        intro t _
        rw [Function.comp]
        split
        · exact Target.bare_mapConnection t .closing
        · rfl
      · exact ⟨rfl, List.prefix_rfl⟩
  | teardown => exact absurd rfl hmove

/-- A target is remembered after a move just if it was remembered before or is in the pool. -/
theorem mem_targets_perform (T : Traffic) (move : Move) :
    t ∈ (T.perform move).targets.map Target.bare ↔
      t ∈ T.targets.map Target.bare ∨ t ∈ (T.perform move).pool.bare := by
  by_cases hmove : move = .teardown
  · subst hmove
    obtain ⟨registry, hempty⟩ := T.pool.teardown_exists_registry
    have hpool : (T.perform .teardown).pool.targets = [] := by
      rw [perform, hempty]
    have hgone : (T.perform .teardown).gone = T.targets := rfl
    rw [targets, Pool.bare, hpool, hgone, List.append_nil, List.map_nil]
    exact (or_iff_left List.not_mem_nil).symm
  · obtain ⟨hgone, hpool⟩ := T.bare_perform hmove
    rw [targets, targets, List.map_append, List.map_append, hgone, List.mem_append,
      List.mem_append, or_assoc]
    -- what was in the pool still is
    exact or_congr_right (or_iff_right_of_imp (hpool.subset ·)).symm

/-- **Nothing that ever entered the pool is forgotten, and nothing else is remembered.** -/
theorem mem_targets_after (registry : Registry) (keep : Bool) (ids : Nat → TargetId)
    (moves : List Move) :
    t ∈ ((start registry keep ids).after moves).targets.map Target.bare ↔
      ∃ earlier, earlier <+: moves ∧ t ∈ ((start registry keep ids).after earlier).pool.bare := by
  induction moves using List.reverseRecOn with
  | nil =>
      constructor
      · exact fun ht => absurd ht List.not_mem_nil
      · rintro ⟨earlier, hearlier, ht⟩
        rw [List.prefix_nil.1 hearlier] at ht
        exact ht
  | append_singleton rest move ih =>
      have hlast : (start registry keep ids).after (rest ++ [move]) =
          ((start registry keep ids).after rest).perform move := List.foldl_concat ..
      rw [hlast, mem_targets_perform, ih, ← hlast]
      constructor
      · rintro (⟨earlier, hearlier, ht⟩ | ht)
        · exact ⟨earlier, hearlier.trans (List.prefix_append _ _), ht⟩
        · exact ⟨_, List.prefix_rfl, ht⟩
      · rintro ⟨earlier, hearlier, ht⟩
        rcases List.prefix_concat_iff.1 hearlier with rfl | hearlier
        · exact .inr ht
        · exact .inl ⟨earlier, hearlier, ht⟩

/-- **All targets that ever entered are listed by the platforms of their kinds.** -/
theorem listed_perform {start : Registry}
    (h : Pool.Listed start (T.targets.map Target.bare) T.pool) (move : Move) :
    Pool.Listed start ((T.perform move).targets.map Target.bare) (T.perform move).pool := by
  have hkept := pool_perform (Pool.listed_kept start (T.targets.map Target.bare))
    (fun _ hp => hp.teardown) h move
  apply hkept.remember
  intro t ht
  exact (T.mem_targets_perform move).1 ht

theorem listed_after (h : registry.OnlySimulated) (keep : Bool) (ids : Nat → TargetId)
    (moves : List Move) :
    Pool.Listed registry (((start registry keep ids).after moves).targets.map Target.bare)
      ((start registry keep ids).after moves).pool :=
  after_induction (P := fun T => Pool.Listed registry (T.targets.map Target.bare) T.pool)
    (fun _ move h => listed_perform h move) (T := start registry keep ids)
    (Pool.listed_empty h keep ids) moves

/-- **No two targets that ever entered a pool over simulated platforms have both the same kind and
the same name**, if there are not more requests than names. The targets are those that were in the
pool after any of the moves, each of them once. -/
theorem handles_unique (h : registry.OnlySimulated) (keep : Bool) (ids : Nat → TargetId)
    (hcount : moves.countP Move.asks ≤ Simulation.handleCount) :
    let T := (start registry keep ids).after moves
    (∀ t, t ∈ T.targets.map Target.bare ↔
      ∃ earlier, earlier <+: moves ∧ t ∈ ((start registry keep ids).after earlier).pool.bare) ∧
    (T.targets.map fun t => (t.platform, t.handle)).Nodup := by
  intro T
  refine ⟨fun t => mem_targets_after registry keep ids moves, ?_⟩
  have hlisted : Pool.Listed registry (T.targets.map Target.bare) T.pool :=
    listed_after h keep ids moves
  have hserials : (T.targets.map (·.serial)).Nodup :=
    (balanced_after registry keep ids moves).lent.nodup
  have hbudget : T.pool.built + T.pending ≤ 0 + 0 + moves.countP Move.asks :=
    after_budget moves (start registry keep ids)
  have hissued : ∀ t ∈ T.targets, registry.Issued T.pool.registry t.bare := by
    intro t ht
    exact hlisted.issued _ (List.mem_append_left _ (List.mem_map_of_mem ht))
  apply List.Nodup.map_on _ hserials.of_map
  intro t ht u hu heq
  obtain ⟨hplatform, hhandle⟩ := Prod.mk.inj heq
  have hbare : t.bare = u.bare := by
    apply hlisted.named.eq_of_handle_eq (hissued t ht) (hissued u hu) _ hplatform hhandle
    intro place
    have hbuilt := hlisted.count place
    omega
  -- the same number is the same target, whatever leases were taken on it
  have hserial : t.serial = u.serial := congrArg (·.serial) hbare
  exact List.inj_on_of_nodup_map hserials ht hu hserial

/-- The built-in platform answers to a second kind also, and another platform writes the kind of the
built-in one. What they build for other kinds is refused, so no target is called `mock-vm-0001`. -/
theorem handles_unique_under_foreign_keys :
    let failing : Simulation := { Simulation.basic "failing" with refusesConstruction := true }
    let registry : Registry := ((Registry.builtin.assign "alias" 0).register "other"
      (Simulation.basic "mock").platform).register "failing" failing.platform
    let r (kind : String) : Request := ⟨kind, [], ∅⟩
    let moves : List Move :=
      [.resolve (r "mock"), .resolve (r "alias"), .resolve (r "other"), .resolve (r "failing"),
        .teardown, .resolve (r "mock")]
    let T := (start registry false fun n => ⟨BitVec.ofNat 128 n⟩).after moves
    registry.OnlySimulated ∧ moves.countP Move.asks ≤ Simulation.handleCount ∧
      (T.targets.map fun t => (t.platform, t.handle)) =
        [("mock", "mock-vm-0000"), ("mock", "mock-vm-0002")] ∧
      (T.targets.map fun t => (t.platform, t.handle)).Nodup := by
  intro failing registry r moves T
  have hsimulated : registry.OnlySimulated := by
    intro provider hprovider
    rcases List.mem_cons.1 hprovider with rfl | hprovider
    · exact ⟨Simulation.basic "mock", rfl⟩
    · rcases List.mem_cons.1 hprovider with rfl | hprovider
      · exact ⟨Simulation.basic "mock", rfl⟩
      · rw [List.mem_singleton.1 hprovider]
        exact ⟨failing, rfl⟩
  have hcount : moves.countP Move.asks ≤ Simulation.handleCount := by decide +kernel
  exact ⟨hsimulated, hcount, by decide +kernel, (handles_unique hsimulated false _ hcount).2⟩

end Traffic

end TestBench
