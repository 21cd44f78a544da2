import Lunar.Dispatches

namespace Lunar

open CircularScan Word64

-- A task allowed on cpu waits in the queue of tier t of c.
def Waits (s : Sched) (cpu t c : Nat) : Prop :=
  ∃ p ∈ s.dsq (getCpuDsqFromType t c), s.allowedOn cpu p

instance (s : Sched) (cpu t c : Nat) : Decidable (Waits s cpu t c) :=
  inferInstanceAs (Decidable (∃ p ∈ _, _))

-- The first task of that queue allowed on cpu went to the local DSQ of cpu, and
-- the clock of the queue was stamped.
def TakenFrom (m : Machine) (s : Sched) (cpu t c now : Nat) (s' : Sched) : Prop :=
  ∃ p, (s.dsq (getCpuDsqFromType t c)).find? (s.allowedOn cpu) = some p ∧
    s' = (s.moveTo cpu (getCpuDsqFromType t c) p).updDispatchCtx m c
      fun dctx => stampTierHeadTs dctx t now

-- As far as the queues go: the first task of a queue allowed on cpu is now in
-- the local DSQ of cpu.
def MovedFrom (s : Sched) (cpu t c : Nat) (s' : Sched) : Prop :=
  ∃ p, (s.dsq (getCpuDsqFromType t c)).find? (s.allowedOn cpu) = some p ∧
    s'.dsq = (s.moveTo cpu (getCpuDsqFromType t c) p).dsq

-- The cpus a scan for tasks of the same or of other LLCs looks at.
def OtherCpu (m : Machine) (cpu : Nat) (sameLLC : Bool) (c : Nat) : Prop :=
  c < m.nrCpuIds ∧ c ≠ cpu ∧ cpuIsOnline m c ∧
    (sameLLC = true ↔ cpuLlcId m c = cpuLlcId m cpu)

instance (m : Machine) (cpu : Nat) (sameLLC : Bool) (c : Nat) : Decidable (OtherCpu m cpu sameLLC c) :=
  inferInstanceAs (Decidable (_ ∧ _))

-- A cpu of the LLC that an RT task has taken, as far as try_acquire_from_rt_cpu sees it.
def RtTaken (m : Machine) (s : Sched) (cpu c : Nat) : Prop :=
  OtherCpu m cpu true c ∧ s.nrRtBusy ≠ 0 ∧ (s.dispatchState c).rtBusy ∧ cpuTakenByRt s c

instance (m : Machine) (s : Sched) (cpu c : Nat) : Decidable (RtTaken m s cpu c) :=
  inferInstanceAs (Decidable (_ ∧ _))

-- The common shape of the functions that take a task of tier t for cpu: `src`
-- are the cpus whose queues they look at.
def Takes (m : Machine) (s : Sched) (cpu t now : Nat) (src : Nat → Prop)
    (take : Option Sched) : Prop :=
  (∀ s', take = some s' → ∃ c, src c ∧ TakenFrom m s cpu t c now s') ∧
    (take = none → ∀ c, src c → ¬Waits s cpu t c)

theorem Waits.of_takenFrom {m : Machine} {s s' : Sched} {cpu t c now : Nat}
    (h : TakenFrom m s cpu t c now s') : Waits s cpu t c := by
  obtain ⟨p, hp, -⟩ := h
  exact ⟨p, List.mem_of_find?_eq_some hp, List.find?_some hp⟩

-- All takes come down to this one: a move, and a stamp if it succeeded.
def takeAt (m : Machine) (s : Sched) (cpu t now c : Nat) : Option Sched :=
  (s.dsqMoveToLocal cpu (getCpuDsqFromType t c)).map fun s =>
    s.updDispatchCtx m c fun dctx => stampTierHeadTs dctx t now

theorem takeAt_eq_some {m : Machine} {s s' : Sched} {cpu t now c : Nat} :
    takeAt m s cpu t now c = some s' ↔ TakenFrom m s cpu t c now s' := by
  simp only [takeAt, Sched.dsqMoveToLocal, Option.map_map, Option.map_eq_some_iff, TakenFrom,
    Function.comp_apply]
  constructor
  · rintro ⟨p, hp, rfl⟩
    exact ⟨p, hp, rfl⟩
  · rintro ⟨p, hp, rfl⟩
    exact ⟨p, hp, rfl⟩

theorem takeAt_eq_none {m : Machine} {s : Sched} {cpu t now c : Nat} :
    takeAt m s cpu t now c = none ↔ ¬Waits s cpu t c := by
  simp only [takeAt, Sched.dsqMoveToLocal, Option.map_eq_none_iff, List.find?_eq_none, Waits,
    not_exists, not_and]

-- A queue with nothing in it has nothing to take, so the length test before
-- each move decides nothing.
theorem takeAt_eq_none_of_empty {m : Machine} {s : Sched} {cpu t now c : Nat}
    (h : dsqQueued s (getCpuDsqFromType t c) = 0) : takeAt m s cpu t now c = none := by
  rw [takeAt_eq_none]
  rintro ⟨p, hp, -⟩
  rw [dsqQueued, List.length_eq_zero_iff] at h
  rw [h] at hp
  cases hp

theorem takeFromLocalTier_eq (m : Machine) (s : Sched) (t cpu now : Nat) :
    takeFromLocalTier m s t cpu now = takeAt m s cpu t now cpu := by
  unfold takeFromLocalTier
  dsimp only
  split
  · rename_i h
    exact (takeAt_eq_none_of_empty h).symm
  · rfl

theorem acquireFrom_eq_some {m : Machine} {s s' : Sched} {t cpu now c : Nat} {sameLLC : Bool}
    (hc : c < m.nrCpuIds) (h : acquireFrom m s t cpu sameLLC now c = some s') :
    OtherCpu m cpu sameLLC c ∧ TakenFrom m s cpu t c now s' := by
  simp only [acquireFrom] at h
  split_ifs at h with h1 h2 h3
  have h1' : c ≠ cpu ∧ cpuIsOnline m c = true := by simpa using h1
  refine ⟨⟨hc, h1'.1, h1'.2, ?_⟩, takeAt_eq_some.mp h⟩
  cases sameLLC with
  | true => simpa using h2
  | false => simpa using h3

theorem acquireFrom_eq_none {m : Machine} {s : Sched} {t cpu now c : Nat} {sameLLC : Bool}
    (h : acquireFrom m s t cpu sameLLC now c = none) (hsrc : OtherCpu m cpu sameLLC c) :
    ¬Waits s cpu t c := by
  obtain ⟨-, hne, hon, hllc⟩ := hsrc
  have htake : takeAt m s cpu t now c = none := by
    unfold acquireFrom at h
    by_cases hq : dsqQueued s (getCpuDsqFromType t c) = 0
    · exact takeAt_eq_none_of_empty hq
    · cases sameLLC with
      | true => simpa [hne, hon, hllc.mp rfl, hq, takeAt] using h
      | false =>
          have hn : cpuLlcId m c ≠ cpuLlcId m cpu := fun he => by simpa using hllc.mpr he
          simpa [hne, hon, hn, hq, takeAt] using h
  exact takeAt_eq_none.mp htake

theorem takes_local (m : Machine) (s : Sched) (t cpu now : Nat) :
    Takes m s cpu t now (· = cpu) (takeFromLocalTier m s t cpu now) := by
  rw [takeFromLocalTier_eq]
  constructor
  · intro s' h
    exact ⟨cpu, rfl, takeAt_eq_some.mp h⟩
  · rintro h c rfl
    exact takeAt_eq_none.mp h

theorem takes_other (m : Machine) (rnd : Nat) (s : Sched) (t cpu now : Nat) (thisLLC : Bool)
    (ht : IsTier t) :
    Takes m s cpu t now (OtherCpu m cpu thisLLC)
      (takeFromOtherTier m rnd s t cpu now thisLLC) := by
  have hne : t ≠ DSQ_TYPE_EMPTY := by
    have := tier_values
    have := ht.2
    omega
  unfold takeFromOtherTier tryAcquireTaskFromOtherCpu
  constructor
  · intro s' h
    split at h
    · rename_i s'' hscan
      obtain ⟨c, hc, hs⟩ := exists_of_findSome?_visits hscan
      have he : s'' = s' := by simpa [hne] using h
      exact ⟨c, acquireFrom_eq_some hc (he ▸ hs)⟩
    · simp at h
  · intro h c hsrc
    split at h
    · simp [hne] at h
    · rename_i hscan
      exact acquireFrom_eq_none ((findSome?_visits_eq_none _ _ _).mp hscan c hsrc.1) hsrc

theorem acquireFromRt_eq_some {m : Machine} {s s' : Sched} {t cpu now c : Nat}
    (hc : c < m.nrCpuIds) (hbusy : s.nrRtBusy ≠ 0) (h : acquireFromRt m s t cpu now c = some s') :
    RtTaken m s cpu c ∧ TakenFrom m s cpu t c now s' := by
  simp only [acquireFromRt, Sched.getDispatchCtx, hc, if_true] at h
  split_ifs at h with h1 h2 h3
  have h3' : dsqQueued s (getCpuDsqFromType t c) ≠ 0 ∧ cpuTakenByRt s c = true := by
    simpa using h3
  refine ⟨⟨⟨hc, ?_, ?_, ?_⟩, hbusy, by simpa using h2, h3'.2⟩, takeAt_eq_some.mp h⟩
  · tauto
  · by_contra hn
    exact h1 (Or.inr (Or.inl (by simpa using hn)))
  · simp only [true_iff]
    tauto

theorem acquireFromRt_eq_none {m : Machine} {s : Sched} {t cpu now c : Nat}
    (h : acquireFromRt m s t cpu now c = none) (hsrc : RtTaken m s cpu c) :
    ¬Waits s cpu t c := by
  obtain ⟨⟨hc, hne, hon, hllc⟩, -, hbusy, hrt⟩ := hsrc
  have htake : takeAt m s cpu t now c = none := by
    by_cases hq : dsqQueued s (getCpuDsqFromType t c) = 0
    · exact takeAt_eq_none_of_empty hq
    · simpa [acquireFromRt, Sched.getDispatchCtx, hc, hne, hon, hllc.mp rfl, hbusy, hrt, hq,
        takeAt] using h
  exact takeAt_eq_none.mp htake

theorem takes_rt (m : Machine) (rnd : Nat) (s : Sched) (t cpu now : Nat) :
    Takes m s cpu t now (RtTaken m s cpu) (tryAcquireFromRtCpu m rnd s t cpu now) := by
  unfold tryAcquireFromRtCpu
  by_cases hbusy : s.nrRtBusy = 0
  · simp only [hbusy, if_true]
    constructor
    · intro s' h
      cases h
    · intro _ c hsrc
      exact absurd hbusy hsrc.2.1
  · simp only [hbusy, if_false]
    constructor
    · intro s' h
      obtain ⟨c, hc, hs⟩ := exists_of_findSome?_visits h
      exact ⟨c, acquireFromRt_eq_some hc hbusy hs⟩
    · intro h c hsrc
      exact acquireFromRt_eq_none ((findSome?_visits_eq_none _ _ _).mp h c hsrc.1.1) hsrc

-- The rule for one line of the cascade.
theorem returnIf_rule {P : Nat × Sched → Prop} {t : Nat} {take : Option Sched}
    {rest : Nat × Sched} (hsome : ∀ s', take = some s' → P (t, s'))
    (hnone : take = none → P rest) : P (returnIf t take rest) := by
  cases take with
  | some s' => exact hsome s' rfl
  | none => exact hnone rfl

@[simp] theorem endOverride_dsq (m : Machine) (s : Sched) (cpu : Nat) :
    (endOverride m s cpu).dsq = s.dsq := by simp [endOverride]

@[simp] theorem endOverride_task (m : Machine) (s : Sched) (cpu : Nat) :
    (endOverride m s cpu).task = s.task := by simp [endOverride]

@[simp] theorem endOverride_taskCtxStore (m : Machine) (s : Sched) (cpu : Nat) :
    (endOverride m s cpu).taskCtxStore = s.taskCtxStore := by simp [endOverride]

@[simp] theorem endOverride_nrRtBusy (m : Machine) (s : Sched) (cpu : Nat) :
    (endOverride m s cpu).nrRtBusy = s.nrRtBusy := by simp [endOverride]

@[simp] theorem endOverride_cpuCurr (m : Machine) (s : Sched) (cpu : Nat) :
    (endOverride m s cpu).cpuCurr = s.cpuCurr := by simp [endOverride]

@[simp] theorem endOverride_effects (m : Machine) (s : Sched) (cpu : Nat) :
    (endOverride m s cpu).effects = s.effects := by simp [endOverride]

@[simp] theorem endOverride_allowedOn (m : Machine) (s : Sched) (cpu c : Nat) :
    (endOverride m s cpu).allowedOn c = s.allowedOn c := by
  funext p
  simp [Sched.allowedOn]

@[simp] theorem waits_endOverride (m : Machine) (s : Sched) (cpu c t d : Nat) :
    Waits (endOverride m s cpu) c t d ↔ Waits s c t d := by
  simp [Waits]

@[simp] theorem rtTaken_endOverride (m : Machine) (s : Sched) (cpu c d : Nat) :
    RtTaken m (endOverride m s cpu) c d ↔ RtTaken m s c d := by
  have hbusy : ((endOverride m s cpu).dispatchState d).rtBusy = (s.dispatchState d).rtBusy := by
    unfold endOverride
    rw [Sched.updDispatchCtx_dispatchState]
    split
    · rename_i h
      rw [h.1]
    · rfl
  simp [RtTaken, cpuTakenByRt, hbusy]

end Lunar
