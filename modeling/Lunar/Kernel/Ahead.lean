import Lunar.Dispatches.Strict
import Lunar.Kernel.Boost

namespace Lunar

-- A task waits for cpu in a better tier, on cpu itself or on another one of its LLC.
def BetterWaits (m : Machine) (s : Sched) (cpu tier : Nat) : Prop :=
  ∃ t c, IsTier t ∧ t < tier ∧ (c = cpu ∨ OtherCpu m cpu true c) ∧ Waits s cpu t c

-- The task_ctx of a task once the time it ran is accounted for, its boost aside.
def unboostedCtx (task : TaskStruct) (now : Nat) (tctx : TaskCtx) : TaskCtx :=
  reevaluate task now { dutyAccount tctx (elapsed now tctx.startedAt) 0 with startedAt := now }

-- The tier the task is in then, without its boost.
def unboostedTier (s : Sched) (now : Nat) (p : Task) : Nat :=
  match s.taskCtxStore p with
  | none => DSQ_TYPE_GREEDY
  | some tctx => sanitizeTier (unboostedCtx (s.task p) now tctx).currentDsqType

-- A preemption is pending on cpu, so the boost of p still counts in the selection although
-- its budget is used up. A task waits between the boosted tier, in which p is selected,
-- and the tier in which p goes on.
structure PassedOver (m : Machine) (s : Sched) (now cpu : Nat) (p : Task) : Prop where
  pending : (s.dispatchState cpu).preemptPending
  usedUp : WAKE_BOOST_BUDGET_NS ≤ (s.view p).charged (elapsed now (s.view p).startedAt)
  between : ∃ t, IsTier t ∧ t < unboostedTier s now p ∧
    ((s.view p).boost < t ∧ Waits s cpu t cpu ∨
      (s.view p).boost ≤ t ∧ ∃ c, OtherCpu m cpu true c ∧ Waits s cpu t c)

section Tiers

variable (task : TaskStruct) (tctx : TaskCtx) (now boost used : Nat)

-- Neither the duty nor the tier of a task depends on its boost.
theorem dutyAccount_setBoost (run slept : Nat) :
    dutyAccount { tctx with boostDsqType := boost, boostUsed := used } run slept =
      { dutyAccount tctx run slept with boostDsqType := boost, boostUsed := used } := by
  unfold dutyAccount
  dsimp only
  split_ifs
  all_goals rfl

theorem updateTaskDsqType_setBoost :
    updateTaskDsqType task { tctx with boostDsqType := boost, boostUsed := used } now =
      { updateTaskDsqType task tctx now with boostDsqType := boost, boostUsed := used } := by
  have hcrit : calcCrit { tctx with boostDsqType := boost, boostUsed := used } now =
      calcCrit tctx now := rfl
  simp only [updateTaskDsqType, hcrit]
  split_ifs
  all_goals rfl

theorem chargePrev_eq (pending : Bool) :
    let charged := tctx.view.charged (elapsed now tctx.startedAt)
    chargePrev task pending now tctx =
      { unboostedCtx task now tctx with
        boostDsqType := if !pending ∧ WAKE_BOOST_BUDGET_NS ≤ charged then DSQ_TYPE_EMPTY
          else tctx.boostDsqType
        boostUsed := charged } := by
  have hended (charged : Nat) : (if !pending ∧ charged ≥ WAKE_BOOST_BUDGET_NS then
        { tctx with boostUsed := charged, boostDsqType := DSQ_TYPE_EMPTY }
      else { tctx with boostUsed := charged }) =
      { tctx with
        boostDsqType := if !pending ∧ WAKE_BOOST_BUDGET_NS ≤ charged then DSQ_TYPE_EMPTY
          else tctx.boostDsqType
        boostUsed := charged } := by
    split_ifs
    · rfl
    · rfl
  unfold chargePrev chargePrevBoost reevaluate
  dsimp only
  rw [chargeWakeBoost_frame]
  generalize tctx.view.charged (elapsed now tctx.startedAt) = charged
  rw [hended, dutyAccount_setBoost]
  exact updateTaskDsqType_setBoost task
    { dutyAccount tctx (elapsed now tctx.startedAt) 0 with
      startedAt := now
      duty := taskDuty (dutyAccount tctx (elapsed now tctx.startedAt) 0) } now _ charged

end Tiers

-- The tier in which a prev that is not replaced goes on.
def keptTier (pctx : TaskCtx) : Nat :=
  if pctx.boostDsqType ≠ DSQ_TYPE_EMPTY ∧ pctx.boostUsed ≥ WAKE_BOOST_BUDGET_NS then
    sanitizeTier pctx.currentDsqType
  else effectiveTier (some pctx)

theorem grantSlice_tier {m : Machine} {s : Sched} {cpu tier : Nat} {p : Task} {pctx : TaskCtx}
    (hcpu : cpu < m.nrCpuIds) (htier : effectiveTier (some pctx) = tier) :
    let s' := grantSlice m cpu p tier pctx s
    (s'.view p).tier = tier ∧ (s'.dispatchState cpu).currentTaskDsqType = tier := by
  dsimp only [grantSlice]
  constructor
  · rw [Sched.view_congr (Sched.updDispatchCtx_taskCtxStore ..), Sched.view_setTaskCtx,
      Function.update_self, ← htier]
    rfl
  · rw [Sched.updDispatchCtx_same _ _ _ _ hcpu]

theorem continuePrev_tier {m : Machine} {cpu : Nat} (hcpu : cpu < m.nrCpuIds) (p : Task)
    (pctx : TaskCtx) (s : Sched) :
    let s' := continuePrev m cpu p pctx s
    (s'.view p).tier = keptTier pctx ∧
      (s'.dispatchState cpu).currentTaskDsqType = keptTier pctx := by
  unfold continuePrev keptTier
  split_ifs with hended
  · exact grantSlice_tier hcpu (effectiveTier_unboosted pctx)
  · exact grantSlice_tier hcpu rfl

-- The tier prev is selected in is only left by the end of a boost that counted until then.
theorem keptTier_cases (task : TaskStruct) (pending : Bool) (now : Nat) (pctx : TaskCtx) :
    let charged := pctx.view.charged (elapsed now pctx.startedAt)
    let own := sanitizeTier (unboostedCtx task now pctx).currentDsqType
    let pctx' := chargePrev task pending now pctx
    let lost := pending ∧ WAKE_BOOST_BUDGET_NS ≤ charged ∧ pctx.boostDsqType < own
    lost ∧ effectiveTier (some pctx') = pctx.boostDsqType ∧ keptTier pctx' = own ∨
      ¬lost ∧ keptTier pctx' = effectiveTier (some pctx') := by
  have hvalues := tier_values
  have hown := (sanitizeTier_isTier (unboostedCtx task now pctx).currentDsqType).2
  dsimp only [keptTier, effectiveTier]
  rw [chargePrev_eq]
  generalize pctx.view.charged (elapsed now pctx.startedAt) = charged
  dsimp only
  generalize sanitizeTier (unboostedCtx task now pctx).currentDsqType = own at hown ⊢
  by_cases hover : WAKE_BOOST_BUDGET_NS ≤ charged
  · cases pending with
    | false => exact Or.inr (by simp [hover])
    | true =>
        by_cases hboost : pctx.boostDsqType < own
        · have hne : pctx.boostDsqType ≠ DSQ_TYPE_EMPTY := by omega
          exact Or.inl (by simp [hover, hboost, hne])
        · exact Or.inr (by simp [hover, hboost])
  · exact Or.inr (by simp [hover])

theorem continuePrev_allowedOn (m : Machine) (cpu : Nat) (p : Task) (pctx : TaskCtx) (s : Sched) :
    (continuePrev m cpu p pctx s).allowedOn = s.allowedOn := by
  funext c q
  unfold continuePrev
  by_cases hq : q = p
  · subst hq
    split_ifs
    all_goals simp [grantSlice, Sched.allowedOn]
  · split_ifs
    all_goals simp [grantSlice, Sched.allowedOn, hq]

section Order

variable {m : Machine} {s : Sched} {k : Call} {now cpu : Nat} {rnd : Nat → Nat} {p : Task}

-- A prev that is given a new slice was not replaced, and its tier and the queues are as
-- the selection has left them.
theorem kept_of_givenSlices (hcpu : cpu < m.nrCpuIds)
    (hgiven : givenSlices (lunarDispatch m k now rnd cpu (some p) s) ≠ givenSlices s) :
    let s' := lunarDispatch m k now rnd cpu (some p) s
    ∃ pctx, s.taskCtxStore p = some pctx ∧
      let pctx' := chargePrev (s.task p) (s.dispatchState cpu).preemptPending k.now pctx
      (∃ s1, Unmoved s s1 ∧
        (dispatchDsqPerCpu m rnd s1 cpu (effectiveTier (some pctx')) now).1 = DSQ_TYPE_EMPTY) ∧
      (s'.view p).tier = keptTier pctx' ∧ (s'.dispatchState cpu).currentTaskDsqType = keptTier pctx' ∧
      s'.dsq = s.dsq ∧ s'.allowedOn = s.allowedOn := by
  have hunmoved := dispatchArgs_unmoved m k cpu (some p) s
  have hslices := dispatched_givenSlices m k now rnd cpu (some p) s
  rcases lunarDispatch_eq m k now rnd cpu (some p) s with ⟨-, h⟩ | ⟨q, pctx, hq, hr, h⟩
  · exact absurd (h ▸ hslices) hgiven
  obtain ⟨hqp, -, hctx⟩ := queuedCtx_eq_some.mp hq
  cases hqp
  have hargs : dispatchArgs m k cpu (some p) s =
      (effectiveTier (some (accountPrev m k cpu p pctx s).1), (accountPrev m k cpu p pctx s).2) := by
    simp only [dispatchArgs, hq]
  have hkept := ((dispatchDsqPerCpu_dispatched m rnd _ cpu _ now).eq_endOverride
    (by rw [hr]; decide)).2
  rw [h, hkept]
  have htier := continuePrev_tier hcpu p (accountPrev m k cpu p pctx s).1
    (endOverride m (dispatchArgs m k cpu (some p) s).2 cpu)
  rw [accountPrev_fst k hcpu] at htier hargs ⊢
  refine ⟨pctx, hctx, ⟨_, hunmoved, ?_⟩, htier.1, htier.2, ?_, ?_⟩
  · rw [hargs] at hr ⊢
    exact hr
  · rw [continuePrev_dsq, endOverride_dsq, hunmoved.dsq]
  · rw [continuePrev_allowedOn, ← hunmoved.allowedOn]
    funext c q
    simp [Sched.allowedOn]

-- The tasks that wait for cpu after the selection: those of its own queues are of a worse
-- tier than `tier`, those of its LLC of no better one.
def Selected (m : Machine) (s : Sched) (cpu tier : Nat) : Prop :=
  ∀ t c, IsTier t → Waits s cpu t c → (c = cpu → tier < t) ∧ (OtherCpu m cpu true c → tier ≤ t)

theorem Selected.of_empty {tier : Nat} (htier : tier ≤ DSQ_TYPE_GREEDY)
    (hallowed : ∀ t, IsTier t → ∀ q ∈ s.dsq (getCpuDsqFromType t cpu), s.allowedOn cpu q)
    (hr : (dispatchDsqPerCpu m rnd s cpu tier now).1 = DSQ_TYPE_EMPTY) : Selected m s cpu tier := by
  obtain ⟨hown, hllc⟩ := dispatchDsqPerCpu_eq_empty htier hallowed hr
  intro t c ht hw
  constructor
  · rintro rfl
    by_contra hle
    obtain ⟨q, hq, -⟩ := hw
    rw [hown t (Nat.le_of_not_lt hle) ht] at hq
    cases hq
  · intro hc
    by_contra hlt
    exact hllc t (Nat.lt_of_not_le hlt) ⟨ht, c, hc, hw⟩

-- Only tasks between the tier prev is selected in and the one it goes on in are better
-- and still wait.
theorem Selected.betterWaits_iff {pctx : TaskCtx} (hctx : s.taskCtxStore p = some pctx) {now : Nat} :
    let pctx' := chargePrev (s.task p) (s.dispatchState cpu).preemptPending now pctx
    Selected m s cpu (effectiveTier (some pctx')) →
      (BetterWaits m s cpu (keptTier pctx') ↔ PassedOver m s now cpu p) := by
  have hview := Sched.view_of_some hctx
  have hown : unboostedTier s now p =
      sanitizeTier (unboostedCtx (s.task p) now pctx).currentDsqType := by
    simp only [unboostedTier, hctx]
  have hcases := keptTier_cases (s.task p) (s.dispatchState cpu).preemptPending now pctx
  dsimp only at hcases ⊢
  rw [← hown] at hcases
  intro hselected
  constructor
  · rintro ⟨t, c, ht, hlt, hc, hw⟩
    have hleft := hselected t c ht hw
    rcases hcases with ⟨⟨hpending, husedUp, -⟩, hselect, hkept⟩ | ⟨-, hkept⟩
    · rw [hkept] at hlt
      rw [hselect] at hleft
      refine ⟨hpending, hview ▸ husedUp, t, ht, hlt, ?_⟩
      rw [hview]
      rcases hc with rfl | hc
      · exact Or.inl ⟨hleft.1 rfl, hw⟩
      · exact Or.inr ⟨hleft.2 hc, c, hc, hw⟩
    · rw [hkept] at hlt
      rcases hc with rfl | hc
      · exact absurd (hleft.1 rfl) hlt.asymm
      · exact absurd (hleft.2 hc) hlt.not_ge
  · rintro ⟨hpending, husedUp, t, ht, hlt, hbetween⟩
    rw [hview] at husedUp hbetween
    have hle : pctx.boostDsqType ≤ t := by
      rcases hbetween with ⟨hlt', -⟩ | ⟨hle, -⟩
      · exact hlt'.le
      · exact hle
    have hkept : keptTier (chargePrev (s.task p) (s.dispatchState cpu).preemptPending now pctx) =
        unboostedTier s now p := by
      rcases hcases with ⟨-, -, hkept⟩ | ⟨hnot, -⟩
      · exact hkept
      · exact absurd ⟨hpending, husedUp, hle.trans_lt hlt⟩ hnot
    rw [hkept]
    rcases hbetween with ⟨-, hw⟩ | ⟨-, c, hc, hw⟩
    · exact ⟨t, cpu, ht, hlt, Or.inl rfl, hw⟩
    · exact ⟨t, c, ht, hlt, Or.inr hc, hw⟩

end Order

theorem kept_in_order {m : Machine} {start sys : Sys} (hstart : Sys.Start m start)
    (hreach : (lunarSys m).Reaches start sys) {k : Call} {now cpu : Nat} {rnd : Nat → Nat} {p : Task}
    (hcpu : cpu < m.nrCpuIds)
    (hgiven : givenSlices (lunarDispatch m k now rnd cpu (some p) sys.sched) ≠
      givenSlices sys.sched) :
    let s' := lunarDispatch m k now rnd cpu (some p) sys.sched
    (s'.dispatchState cpu).currentTaskDsqType = (s'.view p).tier ∧
        ¬BetterWaits m s' cpu (s'.view p).tier ↔
      ¬PassedOver m sys.sched k.now cpu p := by
  have hallowed := (Inv.reaches hstart hreach).own_allowed hcpu
  obtain ⟨pctx, hctx, ⟨s1, hunmoved, hr⟩, htier, hcurrent, hdsq, hsame⟩ :=
    kept_of_givenSlices hcpu hgiven
  have hselected : Selected m s1 cpu (effectiveTier (some (chargePrev (sys.sched.task p)
      (sys.sched.dispatchState cpu).preemptPending k.now pctx))) :=
    .of_empty (effectiveTier_le _) (by rw [hunmoved.dsq, hunmoved.allowedOn]; exact hallowed) hr
  have hwaits (t c : Nat) : Waits (lunarDispatch m k now rnd cpu (some p) sys.sched) cpu t c ↔
      Waits sys.sched cpu t c := by
    simp [Waits, hdsq, hsame]
  dsimp only
  rw [htier, hcurrent, and_iff_right rfl]
  simp only [BetterWaits, hwaits]
  simp only [Selected, hunmoved.waits] at hselected
  exact not_congr (Selected.betterWaits_iff hctx hselected)

section LcTaken

-- Task 2 is a kernel thread.
def sharedTask (p : Task) : TaskStruct :=
  { TaskStruct.zeroed with
    pid := p
    kthread := p = 2
    nrCpusAllowed := 2
    cpusPtr := fun cpu => cpu < 2 }

def sharedBoot : Sys := .boot twoCpus 10 sharedTask

-- Task 4 runs on cpu 1. The LC task 2 preempts the boosted task 1 on cpu 0, but cpu 1
-- takes it over before cpu 0 gets to it.
def lcTaken (before : List Event) : List Event :=
  boostedRun ++ .initTask (.task 404000000 1 0) 4 :: wakeUp (.task 404000000 1 0) 4 1 ++
    pickNext (.task 404000000 1 0) 4 ++ before ++ wakeUp (.task 404850000 1 4) 2 0 ++
    [.consumeSlice 4 0, .dispatch (.task 404850000 1 4) 1 (some 4) fun _ => 0, .consumeSlice 1 0]

def lcTakenState (before : List Event) : Sys :=
  (lunarSys twoCpus).final sharedBoot (lcTaken before)

-- What task 1 was preempted for is gone.
def emptyHandedCall : Call := .task 404850000 0 1

-- Nothing else waits.
theorem kept_in_order_lcTaken :
    let s := (lcTakenState []).sched
    let s' := lunarDispatch twoCpus emptyHandedCall 404850000 (fun _ => 0) 0 (some 1) s
    (s.dispatchState 0).preemptPending ∧ givenSlices s' ≠ givenSlices s ∧
      (s'.dispatchState 0).currentTaskDsqType = (s'.view 1).tier ∧
      ¬BetterWaits twoCpus s' 0 (s'.view 1).tier := by
  have hstart : Sys.Start twoCpus sharedBoot := Sys.start_boot twoCpus (by decide) fun _ => rfl
  have hreach : (lunarSys twoCpus).Reaches sharedBoot (lcTakenState []) :=
    ⟨lcTaken [], by decide +kernel, rfl⟩
  have hgiven : givenSlices (lunarDispatch twoCpus emptyHandedCall 404850000 (fun _ => 0) 0 (some 1)
      (lcTakenState []).sched) ≠ givenSlices (lcTakenState []).sched := by decide +kernel
  have hempty : ∀ c < 2, ∀ t < 5, (lcTakenState []).sched.dsq (getCpuDsqFromType t c) = [] := by
    decide +kernel
  have hnone : ¬PassedOver twoCpus (lcTakenState []).sched emptyHandedCall.now 0 1 := by
    rintro ⟨-, -, t, ht, -, ⟨-, q, hq, -⟩ | ⟨-, c, hc, q, hq, -⟩⟩
    · simp [hempty 0 (by decide) t (Nat.lt_succ_of_le ht.2)] at hq
    · simp [hempty c hc.1 t (Nat.lt_succ_of_le ht.2)] at hq
  exact ⟨by decide +kernel, hgiven, (kept_in_order hstart hreach (by decide) hgiven).mpr hnone⟩

-- The NORMAL task 3 waits on cpu 1, and task 1, boosted to NORMAL until then, goes on as a
-- GREEDY one.
theorem kept_ahead_of_normal : ∃ sys, Sys.Start twoCpus sharedBoot ∧
    (lunarSys twoCpus).Reaches sharedBoot sys ∧
    (lunarSys twoCpus).enabled sys (.dispatch emptyHandedCall 0 (some 1) fun _ => 0) ∧
    let s' := lunarDispatch twoCpus emptyHandedCall 404850000 (fun _ => 0) 0 (some 1) sys.sched
    givenSlices s' ≠ givenSlices sys.sched ∧ (s'.view 1).tier = DSQ_TYPE_GREEDY ∧
      BetterWaits twoCpus s' 0 (s'.view 1).tier := by
  have hreach : (lunarSys twoCpus).Reaches sharedBoot
      (lcTakenState (wakeUp (.task 404000000 1 4) 3 1)) :=
    ⟨lcTaken (wakeUp (.task 404000000 1 4) 3 1), by decide +kernel, rfl⟩
  refine ⟨lcTakenState (wakeUp (.task 404000000 1 4) 3 1),
    Sys.start_boot twoCpus (by decide) fun _ => rfl, hreach, by decide +kernel, by decide +kernel,
    by decide +kernel, DSQ_TYPE_NORMAL, 1, by decide, by decide +kernel, Or.inr ?_, 3,
    by decide +kernel, by decide +kernel⟩
  exact ⟨by decide, by decide, by decide, by decide⟩

end LcTaken

end Lunar
