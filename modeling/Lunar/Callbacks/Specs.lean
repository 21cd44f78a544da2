import Lunar.Callbacks.Views

namespace Lunar

-- One specification for each callback: what it does to the queues, the tasks, the
-- views and the cpus. Later proofs use these and do not unfold the callbacks.

theorem Sched.updDispatchCtx_eq {m : Machine} (s : Sched) {cpu : Nat} (hcpu : cpu < m.nrCpuIds)
    (f : DispatchCtx → DispatchCtx) :
    (s.updDispatchCtx m cpu f).dispatchState =
      Function.update s.dispatchState cpu (f (s.dispatchState cpu)) := by
  simp [Sched.updDispatchCtx, hcpu]

-- One pass over the cpus, as lunar_init makes it.
theorem foldl_updDispatchCtx (m : Machine) (f : Nat → DispatchCtx → DispatchCtx) {cpus : List Nat}
    (hnodup : cpus.Nodup) (s : Sched) :
    let s' := cpus.foldl (fun s cpu => s.updDispatchCtx m cpu (f cpu)) s
    s'.dsq = s.dsq ∧ s'.task = s.task ∧ s'.taskCtxStore = s.taskCtxStore ∧ s'.effects = s.effects ∧
      ∀ d, s'.dispatchState d =
        if d ∈ cpus ∧ d < m.nrCpuIds then f d (s.dispatchState d) else s.dispatchState d := by
  induction cpus generalizing s with
  | nil => simp
  | cons cpu rest ih =>
      obtain ⟨hcpu, hrest⟩ := List.nodup_cons.mp hnodup
      obtain ⟨hdsq, htask, hctx, heffects, hstate⟩ := ih hrest (s.updDispatchCtx m cpu (f cpu))
      refine ⟨hdsq.trans (by simp), htask.trans (by simp), hctx.trans (by simp),
        heffects.trans (by simp), fun d => (hstate d).trans ?_⟩
      by_cases hd : d = cpu
      · subst hd
        simp [hcpu, Sched.updDispatchCtx_dispatchState]
      · simp [hd, Sched.updDispatchCtx_other]

-- What lunar_init leaves behind.
structure Initialized (m : Machine) (now : Nat → Nat) (s s' : Sched) : Prop where
  dsq : s'.dsq = s.dsq
  task : s'.task = s.task
  taskCtxStore : s'.taskCtxStore = s.taskCtxStore
  effects : s'.effects = s.effects
  dispatchState : ∀ d < m.nrCpuIds, s'.dispatchState d =
    { s.dispatchState d with
      currentTaskDsqType := DSQ_TYPE_EMPTY
      tierHeadTs := fun t =>
        if t = DSQ_TYPE_INTERACTIVE ∨ t = DSQ_TYPE_NORMAL ∨ t = DSQ_TYPE_GREEDY then now d
        else (s.dispatchState d).tierHeadTs t
      lastOverrideTs := now d
      overrideTier := DSQ_TYPE_EMPTY
      overrideLeft := 0
      preemptPending := false }

theorem lunarInit_spec (m : Machine) (now : Nat → Nat) (s : Sched) :
    Initialized m now s (lunarInit m now s) := by
  unfold lunarInit
  obtain ⟨hdsq, htask, hctx, heffects, hstate⟩ := foldl_updDispatchCtx m (fun cpu dctx =>
    { dctx with
      currentTaskDsqType := DSQ_TYPE_EMPTY
      tierHeadTs := fun t =>
        if t = DSQ_TYPE_INTERACTIVE ∨ t = DSQ_TYPE_NORMAL ∨ t = DSQ_TYPE_GREEDY then now cpu
        else dctx.tierHeadTs t
      lastOverrideTs := now cpu
      overrideTier := DSQ_TYPE_EMPTY
      overrideLeft := 0
      preemptPending := false }) (List.nodup_range (n := m.nrCpuIds)) s
  exact ⟨hdsq, htask, hctx, heffects, fun d hd =>
    (hstate d).trans (if_pos ⟨List.mem_range.mpr hd, hd⟩)⟩

-- A wake boost takes over the tier of a waker, or leaves the task as it is.
def Boosted (s : Sched) (v v' : TaskView) : Prop :=
  v' = v ∨ ∃ w, (s.view w).tier < v.boost ∧
    v' = { v with tier := (s.view w).tier, boost := (s.view w).tier, boostUsed := 0 }

theorem applyWakeBoost_boosted (k : Call) (s : Sched) (p : Task) (tctx : TaskCtx) :
    Boosted s tctx.view (applyWakeBoost k s p tctx).view := by
  unfold applyWakeBoost
  dsimp only
  split_ifs
  · exact Or.inl rfl
  · exact Or.inl rfl
  · exact Or.inl rfl
  split
  · exact Or.inl rfl
  · rename_i wctx hw
    split_ifs with h
    · refine Or.inr ⟨k.current, ?_, ?_⟩
      · rw [Sched.view_of_some hw]
        exact h.2
      · rw [Sched.view_of_some hw]
        have htier : effectiveTier (some { tctx with
            boostDsqType := effectiveTier (some wctx)
            boostUsed := 0 }) = effectiveTier (some wctx) := if_pos h.1
        ext <;> first | rfl | exact htier
    · exact Or.inl rfl

-- Only the task_ctx of p changed, and with it its view.
structure OnlyCtx (s : Sched) (p : Task) (v' : TaskView) (s' : Sched) : Prop where
  view : s'.view = Function.update s.view p v'
  dsq : s'.dsq = s.dsq
  task : s'.task = s.task
  dispatchState : s'.dispatchState = s.dispatchState

theorem onlyCtx_setTaskCtx (s : Sched) (p : Task) {tctx : TaskCtx} {v' : TaskView}
    (hv : tctx.view = v') : OnlyCtx s p v' (s.setTaskCtx p tctx) where
  view := by rw [Sched.view_setTaskCtx, hv]
  dsq := rfl
  task := rfl
  dispatchState := rfl

theorem OnlyCtx.refl (s : Sched) (p : Task) : OnlyCtx s p (s.view p) s :=
  ⟨by simp, rfl, rfl, rfl⟩

theorem OnlyCtx.trans {s s1 s2 : Sched} {p : Task} {v1 v2 : TaskView} (h : OnlyCtx s p v1 s1)
    (h' : OnlyCtx s1 p v2 s2) : OnlyCtx s p v2 s2 where
  view := by rw [h'.view, h.view, Function.update_idem]
  dsq := h'.dsq.trans h.dsq
  task := h'.task.trans h.task
  dispatchState := h'.dispatchState.trans h.dispatchState

theorem recordWaker_spec (k : Call) (p : Task) (s : Sched) :
    OnlyCtx s p (s.view p) (recordWaker k p s) ∧ (recordWaker k p s).effects = s.effects := by
  have hview := recordWaker_view k p s
  unfold recordWaker at hview ⊢
  dsimp only at hview ⊢
  split_ifs at hview ⊢
  · exact ⟨.refl s p, rfl⟩
  · exact ⟨.refl s p, rfl⟩
  split at hview
  · exact ⟨.refl s p, rfl⟩
  · exact ⟨⟨by simpa using hview, rfl, rfl, rfl⟩, rfl⟩

section Tasks

variable (m : Machine) (k : Call) (p : Task) (s : Sched)

theorem lunarInitTask_spec : ∃ v', OnlyCtx s p v' (lunarInitTask k p s) ∧
    (lunarInitTask k p s).effects = s.effects ∧
    v'.present ∧ v'.boost = DSQ_TYPE_EMPTY ∧ v'.resumeSlice = 0 ∧
    v'.blockedAt = (s.view p).blockedAt := by
  have hblocked : ((s.taskCtxStore p).getD .zeroed).blockedAt = (s.view p).blockedAt := by
    unfold Sched.view
    cases s.taskCtxStore p with
    | none => rfl
    | some tctx => rfl
  refine ⟨_, onlyCtx_setTaskCtx s p rfl, rfl, rfl, ?_⟩
  split_ifs
  · exact ⟨rfl, rfl, hblocked⟩
  · exact ⟨rfl, rfl, hblocked⟩

theorem boostWoken_spec (wakeup : Bool) : (∃ v', OnlyCtx s p v' (boostWoken k wakeup p s) ∧
    Boosted s (s.view p) v') ∧ (boostWoken k wakeup p s).effects = s.effects := by
  unfold boostWoken
  split
  · rename_i tctx hctx
    cases wakeup with
    | false => exact ⟨⟨_, .refl s p, Or.inl rfl⟩, rfl⟩
    | true =>
        refine ⟨⟨_, onlyCtx_setTaskCtx s p rfl, ?_⟩, rfl⟩
        rw [Sched.view_of_some hctx]
        exact applyWakeBoost_boosted k s p tctx
  · exact ⟨⟨_, .refl s p, Or.inl rfl⟩, rfl⟩

theorem lunarSelectCpu_spec (ttwu : Bool) (dfl : Nat × Bool) :
    let s' := (lunarSelectCpu m k ttwu dfl p s).2
    (∃ v', s'.view = Function.update s.view p v' ∧ Boosted s (s.view p) v') ∧
      (lunarSelectCpu m k ttwu dfl p s).1 = dfl.1 ∧
      s'.dsq = s.dsq ∧ s'.dispatchState = s.dispatchState ∧ s'.effects = s.effects ∧
      (s'.task = s.task ∨ s'.task =
        Function.update s.task p { s.task p with slice := SLICE_NS, ddspLocal := true }) := by
  obtain ⟨⟨v', h, hv⟩, heffects⟩ := boostWoken_spec k p s ttwu
  unfold lunarSelectCpu
  dsimp only
  split_ifs
  · refine ⟨⟨v', ?_, hv⟩, rfl, h.dsq, h.dispatchState, heffects, Or.inr ?_⟩
    · exact (Sched.view_congr rfl).trans h.view
    · rw [Sched.setTask_task, h.task]
  · exact ⟨⟨v', h.view, hv⟩, rfl, h.dsq, h.dispatchState, heffects, Or.inl h.task⟩

theorem lunarQuiescent_spec (sleep : Bool) (hp : (s.view p).present) :
    ∃ tier, OnlyCtx s p { s.view p with
        tier := tier
        boost := DSQ_TYPE_EMPTY
        resumeSlice := 0
        blockedAt := if sleep then k.now else 0 } (lunarQuiescent k sleep p s) ∧
      (lunarQuiescent k sleep p s).effects = s.effects := by
  obtain ⟨tctx, hctx, hview⟩ := Sched.exists_of_present hp
  simp only [lunarQuiescent, hctx, hview]
  exact ⟨_, onlyCtx_setTaskCtx s p rfl, rfl⟩

-- The statistics of p and of its waker change too, but not the views.
theorem lunarRunnable_spec (wakeup : Bool) (hp : (s.view p).present) :
    ∃ tier, OnlyCtx s p { s.view p with tier := tier, blockedAt := 0 } (lunarRunnable k wakeup p s) ∧
      (lunarRunnable k wakeup p s).effects =
        if (s.view p).blockedAt ≠ 0 then
          .dutyAccount p 0 (elapsed k.now (s.view p).blockedAt) :: s.effects
        else s.effects := by
  obtain ⟨tctx, hctx, hview⟩ := Sched.exists_of_present hp
  simp only [lunarRunnable, accountSleep_eq, hctx, hview]
  generalize htctx : (if wakeup then { tctx with
      waitInterval := exponentiallyWeightedMovingAvg tctx.waitInterval
        (clampInterval (elapsed k.now tctx.lastWokenAt)), lastWokenAt := k.now } else tctx) = tctx'
  have hview' : tctx'.view = s.view p := by
    rw [hview, ← htctx]
    split_ifs <;> rfl
  have hblocked : tctx'.blockedAt = tctx.view.blockedAt := by
    rw [← hview, ← hview']
    rfl
  -- Up to here nothing shows.
  have hs1 : OnlyCtx s p (s.view p) (if wakeup then recordWaker k p (s.setTaskCtx p tctx')
      else s.setTaskCtx p tctx') ∧ (if wakeup then recordWaker k p (s.setTaskCtx p tctx')
      else s.setTaskCtx p tctx').effects = s.effects := by
    have hset := onlyCtx_setTaskCtx s p hview'
    have hsame : (s.setTaskCtx p tctx').view p = s.view p := by rw [hset.view, Function.update_self]
    cases wakeup with
    | false => exact ⟨hset, rfl⟩
    | true =>
        obtain ⟨hrec, heffects⟩ := recordWaker_spec k p (s.setTaskCtx p tctx')
        exact ⟨hsame ▸ hset.trans hrec, heffects⟩
  obtain ⟨hs1, heffects⟩ := hs1
  generalize (if wakeup then recordWaker k p (s.setTaskCtx p tctx')
    else s.setTaskCtx p tctx') = s1 at hs1 heffects ⊢
  rw [hblocked]
  split_ifs with h
  · obtain ⟨tier, hsleep⟩ := chargeSleep_view (s1.task p) tctx' k.now
    refine ⟨tier, hs1.trans ⟨?_, rfl, rfl, rfl⟩, by simp [heffects]⟩
    rw [Sched.view_setTaskCtx, Sched.view_congr (s1.emit_taskCtxStore _), hsleep, hview', hview]
  · refine ⟨tctx.view.tier, ?_, heffects⟩
    have hzero : tctx.view.blockedAt = 0 := by simpa using h
    have hsame : { tctx.view with blockedAt := 0 } = tctx.view := by
      rw [← hzero]
    rw [hsame, ← hview]
    exact hs1

theorem lunarRunning_spec (hp : (s.view p).present) (hproc : k.proc < m.nrCpuIds) :
    let s' := lunarRunning m k p s
    s'.view = Function.update s.view p
        { s.view p with startedAt := k.now, grantedSlice := (s.task p).slice } ∧
      s'.dispatchState = Function.update s.dispatchState k.proc
        { s.dispatchState k.proc with
          currentTaskDsqType := (s.view p).tier
          preemptPending := false } ∧
      s'.dsq = s.dsq ∧ s'.task = s.task ∧ s'.effects = s.effects := by
  obtain ⟨tctx, hctx, hview⟩ := Sched.exists_of_present hp
  simp only [lunarRunning, hctx, hview, Sched.getDispatchCtx, hproc, if_true]
  refine ⟨?_, ?_, ?_, ?_, ?_⟩
  · rw [Sched.view_setTaskCtx, Sched.view_congr (s.updDispatchCtx_taskCtxStore ..),
      Sched.updDispatchCtx_task]
    rfl
  · rw [Sched.setTaskCtx_dispatchState, Sched.updDispatchCtx_eq s hproc]
    rfl
  · simp
  · simp
  · simp

-- The view of a task that stopped after running for `used`.
def TaskView.stopped (v : TaskView) (task : TaskStruct) (runnable pending : Bool) (used tier : Nat) :
    TaskView :=
  { v with
    tier := tier
    boostUsed := v.charged used
    resumeSlice := v.resumed task runnable pending used
    boost := if v.resumed task runnable pending used = 0 ∧
        (!runnable ∨ WAKE_BOOST_BUDGET_NS ≤ v.charged used) then DSQ_TYPE_EMPTY
      else v.boost }

theorem lunarStopping_spec (runnable : Bool) (hp : (s.view p).present)
    (hcpu : (s.task p).cpu < m.nrCpuIds) :
    let s' := lunarStopping m k p runnable s
    let used := elapsed k.now (s.view p).startedAt
    let dctx := s.dispatchState (s.task p).cpu
    (∃ tier, s'.view = Function.update s.view p
        ((s.view p).stopped (s.task p) runnable dctx.preemptPending used tier)) ∧
      s'.dispatchState = Function.update s.dispatchState (s.task p).cpu
        { chargeOverride dctx (s.view p).tier used with
          preemptPending := false
          currentTaskDsqType := DSQ_TYPE_EMPTY } ∧
      s'.dsq = s.dsq ∧ s'.task = s.task ∧ s'.effects = .dutyAccount p used 0 :: s.effects := by
  obtain ⟨tctx, hctx, hview⟩ := Sched.exists_of_present hp
  have hpending : (chargeOverride (s.dispatchState (s.task p).cpu) (effectiveTier (some tctx))
      (elapsed k.now tctx.startedAt)).preemptPending =
      (s.dispatchState (s.task p).cpu).preemptPending := by
    rw [chargeOverride_eq]
  simp only [lunarStopping, accountStopped_eq, hctx, hview, Sched.getDispatchCtx, hcpu, if_true, Sched.emit_task,
    Sched.updDispatchCtx_task, Sched.emit_dispatchState, Sched.updDispatchCtx_same m s _ _ hcpu,
    hpending]
  refine ⟨?_, ?_, ?_, ?_, ?_⟩
  · obtain ⟨tier, hcharge⟩ := chargeStopped_view (s.task p) tctx k.now
    have hresumed : (chargeStopped (s.task p) k.now tctx).view.resumed (s.task p) runnable
        (s.dispatchState (s.task p).cpu).preemptPending (elapsed k.now tctx.startedAt) =
        tctx.view.resumed (s.task p) runnable
          (s.dispatchState (s.task p).cpu).preemptPending (elapsed k.now tctx.startedAt) := by
      rw [hcharge]
      rfl
    have hboostUsed : (chargeStopped (s.task p) k.now tctx).boostUsed =
        tctx.view.charged (elapsed k.now tctx.startedAt) := congrArg TaskView.boostUsed hcharge
    obtain ⟨tier', hsettle⟩ := settleStopped_view (s.task p) (chargeStopped (s.task p) k.now tctx)
      (elapsed k.now tctx.startedAt) runnable (s.dispatchState (s.task p).cpu).preemptPending
    rw [hresumed, hboostUsed, hcharge] at hsettle
    refine ⟨tier', ?_⟩
    rw [Sched.view_congr (Sched.updDispatchCtx_taskCtxStore ..), Sched.view_setTaskCtx, hsettle,
      Sched.view_congr (Sched.emit_taskCtxStore ..),
      Sched.view_congr (Sched.updDispatchCtx_taskCtxStore ..)]
    rfl
  · rw [Sched.updDispatchCtx_eq _ hcpu, Sched.setTaskCtx_dispatchState, Sched.emit_dispatchState,
      Sched.updDispatchCtx_eq _ hcpu, Function.update_idem, Function.update_self]
    rfl
  · simp
  · simp
  · simp [TaskCtx.view]

-- Nothing but rt_busy and the kicks.
structure OnlyRt (s s' : Sched) : Prop where
  view : s'.view = s.view
  dsq : s'.dsq = s.dsq
  task : s'.task = s.task
  accounts : s'.accounts = s.accounts
  dispatchState : ∀ d, ∃ rt, s'.dispatchState d = { s.dispatchState d with rtBusy := rt }

theorem OnlyRt.refl (s : Sched) : OnlyRt s s := ⟨rfl, rfl, rfl, rfl, fun _ => ⟨_, rfl⟩⟩

theorem OnlyRt.emit {s s' : Sched} (h : OnlyRt s s') {effect : Effect}
    (he : ∀ p run slept, effect ≠ .dutyAccount p run slept) : OnlyRt s (s'.emit effect) where
  view := h.view
  dsq := h.dsq
  task := h.task
  dispatchState := h.dispatchState
  accounts := by
    rw [← h.accounts]
    unfold Sched.accounts Sched.emit
    cases effect with
    | dutyAccount p run slept => exact absurd rfl (he p run slept)
    | _ => rfl

theorem OnlyRt.kickIdleForWaiting {s s' : Sched} (h : OnlyRt s s') (idle : Task → Option Nat)
    (cpu : Nat) : OnlyRt s (kickIdleForWaiting idle cpu s') := by
  unfold Lunar.kickIdleForWaiting
  dsimp only
  split
  · exact h
  · split
    · exact h.emit (by simp)
    · exact h

theorem onlyRt_setRtBusy (cpu : Nat) (rt : Bool) : OnlyRt s (setRtBusy m cpu rt s) where
  view := Sched.view_congr (s.updDispatchCtx_taskCtxStore ..)
  dsq := s.updDispatchCtx_dsq ..
  task := s.updDispatchCtx_task ..
  accounts := Sched.accounts_congr (s.updDispatchCtx_effects ..)
  dispatchState := by
    intro d
    unfold setRtBusy
    dsimp only
    rw [Sched.updDispatchCtx_dispatchState]
    split_ifs with hd
    · rw [hd.1]
      exact ⟨_, rfl⟩
    · exact ⟨_, rfl⟩

theorem lunarSchedSwitch_spec (idle : Task → Option Nat) (next : Task) :
    OnlyRt s (lunarSchedSwitch m k idle next s) := by
  unfold lunarSchedSwitch
  dsimp only
  split
  · exact .refl s
  · rename_i dctx _
    have h : OnlyRt s (if isRtTask (s.task next) ≠ dctx.rtBusy then
        setRtBusy m k.proc (isRtTask (s.task next)) s else s) := by
      split_ifs
      · exact onlyRt_setRtBusy m s k.proc _
      · exact .refl s
    generalize (if isRtTask (s.task next) ≠ dctx.rtBusy then
        setRtBusy m k.proc (isRtTask (s.task next)) s else s) = s1 at h ⊢
    split_ifs
    · exact h
    · exact (h.emit (by simp)).kickIdleForWaiting idle k.proc
    · exact h.kickIdleForWaiting idle k.proc

end Tasks

section Dispatch

-- The view of a prev that lunar_dispatch has accounted for.
def TaskView.accounted (v : TaskView) (pending : Bool) (used now tier : Nat) : TaskView :=
  { v with
    tier := tier
    boostUsed := v.charged used
    boost := if !pending ∧ WAKE_BOOST_BUDGET_NS ≤ v.charged used then DSQ_TYPE_EMPTY else v.boost
    startedAt := now }

-- The state when dispatch_dsq_per_cpu is called for a prev that is queued; `tier` is
-- the tier of prev then.
structure Accounted (k : Call) (cpu : Nat) (p : Task) (tier : Nat) (s s1 : Sched) : Prop where
  view : s1.view = Function.update s.view p ((s.view p).accounted
    (s.dispatchState cpu).preemptPending (elapsed k.now (s.view p).startedAt) k.now tier)
  dispatchState : s1.dispatchState = Function.update s.dispatchState cpu
    (chargeOverride (s.dispatchState cpu) (s.view p).tier (elapsed k.now (s.view p).startedAt))
  dsq : s1.dsq = s.dsq
  task : s1.task = s.task
  effects : s1.effects = .dutyAccount p (elapsed k.now (s.view p).startedAt) 0 :: s.effects

theorem accountPrev_fst {m : Machine} {s : Sched} {p : Task} {pctx : TaskCtx} {cpu : Nat} (k : Call)
    (hcpu : cpu < m.nrCpuIds) : (accountPrev m k cpu p pctx s).1 =
      chargePrev (s.task p) (s.dispatchState cpu).preemptPending k.now pctx := by
  have hpending : ((s.updDispatchCtx m cpu fun dctx => chargeOverride dctx (effectiveTier (some pctx))
      (elapsed k.now pctx.startedAt)).getDispatchCtx m cpu).any (·.preemptPending) =
      (s.dispatchState cpu).preemptPending := by
    rw [Sched.getDispatchCtx, if_pos hcpu, Sched.updDispatchCtx_same m s _ _ hcpu, chargeOverride_eq]
    rfl
  simp only [accountPrev_eq, hpending, Sched.updDispatchCtx_task]

theorem accountPrev_spec {m : Machine} {s : Sched} {p : Task} {pctx : TaskCtx} {cpu : Nat} (k : Call)
    (hctx : s.taskCtxStore p = some pctx) (hcpu : cpu < m.nrCpuIds) :
    ∃ tier, Accounted k cpu p tier s (accountPrev m k cpu p pctx s).2 ∧
      (accountPrev m k cpu p pctx s).1.view = (s.view p).accounted
        (s.dispatchState cpu).preemptPending (elapsed k.now (s.view p).startedAt) k.now tier := by
  have hview := Sched.view_of_some hctx
  obtain ⟨tier, hcharge⟩ := chargePrev_view (s.task p) pctx k.now (s.dispatchState cpu).preemptPending
  have haccounted : (accountPrev m k cpu p pctx s).1.view = (s.view p).accounted
      (s.dispatchState cpu).preemptPending (elapsed k.now (s.view p).startedAt) k.now tier := by
    rw [accountPrev_fst k hcpu, hcharge, hview]
    rfl
  refine ⟨tier, ⟨?_, ?_, ?_, ?_, ?_⟩, haccounted⟩
  · rw [← haccounted]
    simp only [accountPrev_eq]
    rw [Sched.view_setTaskCtx, Sched.view_congr (Sched.emit_taskCtxStore ..),
      Sched.view_congr (Sched.updDispatchCtx_taskCtxStore ..)]
  · simp only [accountPrev_eq]
    rw [Sched.setTaskCtx_dispatchState, Sched.emit_dispatchState, Sched.updDispatchCtx_eq s hcpu, hview]
    rfl
  · simp [accountPrev_eq]
  · simp [accountPrev_eq]
  · simp [accountPrev_eq, hview, TaskCtx.view]

-- prev goes on; s1 is the state dispatch_dsq_per_cpu was called in.
structure Continued (cpu : Nat) (p : Task) (tier : Nat) (s1 s' : Sched) : Prop where
  view : s'.view = Function.update s1.view p
    { s1.view p with
      tier := tier
      boost := if (s1.view p).boost ≠ DSQ_TYPE_EMPTY ∧ WAKE_BOOST_BUDGET_NS ≤ (s1.view p).boostUsed
        then DSQ_TYPE_EMPTY else (s1.view p).boost
      grantedSlice := SLICE_NS }
  dispatchState : s'.dispatchState = Function.update s1.dispatchState cpu
    { s1.dispatchState cpu with
      overrideLeft := 0
      currentTaskDsqType := tier
      preemptPending := false }
  dsq : s'.dsq = s1.dsq
  task : s'.task = Function.update s1.task p { s1.task p with slice := SLICE_NS }
  accounts : s'.accounts = s1.accounts

theorem effectiveTier_unboosted (tctx : TaskCtx) :
    effectiveTier (some { tctx with boostDsqType := DSQ_TYPE_EMPTY }) =
      sanitizeTier tctx.currentDsqType := by
  have hvalues := tier_values
  have h := (sanitizeTier_isTier tctx.currentDsqType).2
  exact if_neg (by dsimp only; omega)

theorem grantSlice_spec {m : Machine} {s : Sched} {p : Task} {pctx : TaskCtx} {cpu : Nat} (boost : Nat)
    (hcpu : cpu < m.nrCpuIds)
    (hview : pctx.view = { s.view p with tier := effectiveTier (some pctx), boost := boost })
    (hboost : boost = if (s.view p).boost ≠ DSQ_TYPE_EMPTY ∧
        WAKE_BOOST_BUDGET_NS ≤ (s.view p).boostUsed then DSQ_TYPE_EMPTY else (s.view p).boost) :
    Continued cpu p (effectiveTier (some pctx)) s
      (grantSlice m cpu p (effectiveTier (some pctx)) pctx (endOverride m s cpu)) where
  view := by
    have hctx : ({ pctx with grantedSlice := SLICE_NS } : TaskCtx).view =
        { pctx.view with grantedSlice := SLICE_NS } := rfl
    simp only [grantSlice]
    rw [Sched.view_congr (Sched.updDispatchCtx_taskCtxStore ..), Sched.view_setTaskCtx,
      Sched.view_congr (Sched.emit_taskCtxStore ..), Sched.view_congr (Sched.setTask_taskCtxStore ..),
      Sched.view_congr (endOverride_taskCtxStore ..), hctx, hview, hboost]
  dispatchState := by
    simp only [grantSlice]
    rw [Sched.updDispatchCtx_eq _ hcpu, Sched.setTaskCtx_dispatchState, Sched.emit_dispatchState,
      Sched.setTask_dispatchState, endOverride, Sched.updDispatchCtx_eq _ hcpu, Function.update_idem,
      Function.update_self]
  dsq := by simp [grantSlice]
  task := by simp [grantSlice]
  accounts := by
    refine (Sched.accounts_congr ?_ : _ = (s.emit (.setSlice p SLICE_NS)).accounts)
    simp [grantSlice]

theorem continuePrev_spec {m : Machine} {s : Sched} {p : Task} {pctx : TaskCtx} {cpu : Nat}
    (hcpu : cpu < m.nrCpuIds) (hview : s.view p = pctx.view) :
    ∃ tier, Continued cpu p tier s (continuePrev m cpu p pctx (endOverride m s cpu)) := by
  unfold continuePrev
  split_ifs with hended
  · rw [← effectiveTier_unboosted]
    refine ⟨_, grantSlice_spec DSQ_TYPE_EMPTY hcpu ?_ ?_⟩
    · rw [hview]
      rfl
    · rw [hview]
      exact (if_pos hended).symm
  · refine ⟨_, grantSlice_spec pctx.boostDsqType hcpu ?_ ?_⟩
    · rw [hview]
      rfl
    · rw [hview]
      exact (if_neg hended).symm

-- What one call of lunar_dispatch does: nothing is accounted if prev is not queued,
-- and prev is either replaced or goes on if it is.
inductive DispatchOutcome (m : Machine) (k : Call) (now cpu : Nat) (prev : Option Task)
    (path : OverridePath) (s s' : Sched) : Prop where
  | idle {r : Nat} (hprev : queuedCtx s prev = none)
      (h : Dispatched m s cpu DSQ_TYPE_EMPTY now path r s')
  | replaced {p : Task} {pctx : TaskCtx} {tier r : Nat} {s1 : Sched}
      (hprev : queuedCtx s prev = some (p, pctx)) (hacc : Accounted k cpu p tier s s1)
      (htier : tier ≤ DSQ_TYPE_GREEDY) (hr : r ≠ DSQ_TYPE_EMPTY)
      (h : Dispatched m s1 cpu tier now path r s')
  | continued {p : Task} {pctx : TaskCtx} {tier tier' : Nat} {s1 : Sched}
      (hprev : queuedCtx s prev = some (p, pctx)) (hacc : Accounted k cpu p tier s s1)
      (hpath : path = .none) (h : Continued cpu p tier' s1 s')

theorem queuedCtx_eq_some {s : Sched} {prev : Option Task} {p : Task} {pctx : TaskCtx} :
    queuedCtx s prev = some (p, pctx) ↔
      prev = some p ∧ (s.task p).queued ∧ s.taskCtxStore p = some pctx := by
  unfold queuedCtx
  cases prev with
  | none => simp
  | some q =>
      simp only [Option.bind_some, Option.some.injEq]
      split_ifs with h
      · simp only [Option.map_eq_some_iff, Prod.mk.injEq]
        constructor
        · rintro ⟨pctx', h', rfl, rfl⟩
          exact ⟨rfl, h, h'⟩
        · rintro ⟨rfl, -, h'⟩
          exact ⟨pctx, h', rfl, rfl⟩
      · constructor
        · intro h'
          cases h'
        · rintro ⟨rfl, h', -⟩
          exact absurd h' h

theorem lunarDispatch_spec (m : Machine) (k : Call) (now : Nat) (rnd : Nat → Nat) (cpu : Nat)
    (prev : Option Task) (s : Sched) (hcpu : cpu < m.nrCpuIds) :
    DispatchOutcome m k now cpu prev (overridePath m rnd (dispatchArgs m k cpu prev s).2 cpu now) s
      (lunarDispatch m k now rnd cpu prev s) := by
  cases hq : queuedCtx s prev with
  | none =>
      simp only [lunarDispatch, dispatchArgs, hq]
      exact .idle hq (dispatchDsqPerCpu_dispatched ..)
  | some prevCtx =>
      obtain ⟨p, pctx⟩ := prevCtx
      obtain ⟨-, -, hctx⟩ := queuedCtx_eq_some.mp hq
      obtain ⟨tier, hacc, hview⟩ := accountPrev_spec k hctx hcpu
      have htier : effectiveTier (some (accountPrev m k cpu p pctx s).1) = tier :=
        congrArg TaskView.tier hview
      have hdispatched := dispatchDsqPerCpu_dispatched m rnd (accountPrev m k cpu p pctx s).2 cpu
        tier now
      simp only [lunarDispatch, dispatchArgs, hq, htier]
      split_ifs with hr
      · exact .replaced hq hacc (htier ▸ effectiveTier_le _) hr hdispatched
      · have hover := hdispatched.eq_endOverride (by rw [not_not.mp hr]; decide)
        rw [hover.2]
        have hsame : (accountPrev m k cpu p pctx s).2.view p = (accountPrev m k cpu p pctx s).1.view := by
          rw [hacc.view, Function.update_self, hview]
        obtain ⟨tier', h⟩ := continuePrev_spec hcpu hsame
        exact .continued hq hacc hover.1 h

end Dispatch

section Enqueue

-- The scan only ever settles on a cpu it has found allowed.
theorem pickScan_best (m : Machine) (s : Sched) (p : Task) (cpu tier budget : Nat) {P : Nat → Prop}
    {cpus : List Nat} (hcpus : ∀ c ∈ cpus, (s.task p).cpusPtr c → P c) {sc : PickScratch}
    (hsc : P sc.best) : P (pickScan m s p cpu tier budget cpus sc).best := by
  induction cpus generalizing sc with
  | nil => exact hsc
  | cons other rest ih =>
      have hrest {sc' : PickScratch} (h : P sc'.best) :
          P (pickScan m s p cpu tier budget rest sc').best :=
        ih (fun c hc => hcpus c (List.mem_cons_of_mem _ hc)) h
      unfold pickScan
      split_ifs with hskip hallowed
      · exact hrest hsc
      · exact hrest hsc
      · have hother : P other := hcpus other (by simp) (by simpa using hallowed)
        have hsc' : P (if cpuLoadAhead m s other tier < sc.bestLoad then
            { sc with bestLoad := cpuLoadAhead m s other tier, best := other } else sc).best := by
          split_ifs
          · exact hother
          · exact hsc
        dsimp only
        generalize (if cpuLoadAhead m s other tier < sc.bestLoad then
          { sc with bestLoad := cpuLoadAhead m s other tier, best := other } else sc) = sc' at hsc' ⊢
        split_ifs
        · exact hsc'
        · exact hsc'
        · exact hrest hsc'

theorem pickEnqueueCpu_spec (m : Machine) (env : PickEnv) (s : Sched) (p : Task) (tctx : TaskCtx)
    (tier cpu now : Nat)
    (hidle : ∀ idle, env.idle = some idle → idle < m.nrCpuIds ∧ (s.task p).cpusPtr idle) :
    let r := pickEnqueueCpu m env s p tctx tier cpu now
    (r.1 = cpu ∨ r.1 < m.nrCpuIds ∧ (s.task p).cpusPtr r.1) ∧ r.2.view = tctx.view := by
  have hmigrated (target : Nat) :
      (if target ≠ cpu then { tctx with lastMigratedAt := now } else tctx).view = tctx.view := by
    split_ifs <;> rfl
  unfold pickEnqueueCpu
  dsimp only
  split
  · exact ⟨Or.inl rfl, rfl⟩
  split
  · exact ⟨Or.inl rfl, rfl⟩
  split
  · rename_i idle hi
    exact ⟨Or.inr (hidle idle hi), hmigrated idle⟩
  split
  · exact ⟨Or.inl rfl, rfl⟩
  · refine ⟨pickScan_best m s p cpu tier _
      (P := fun c => c = cpu ∨ c < m.nrCpuIds ∧ (s.task p).cpusPtr c) ?_ (Or.inl rfl), hmigrated _⟩
    intro c hc hallowed
    exact Or.inr ⟨(CircularScan.mem_visits _ _ c).mp hc, hallowed⟩

theorem Sched.view_isTier {s : Sched} {p : Task} (h : DSQ_TYPE_LC ≤ (s.view p).boost) :
    IsTier (s.view p).tier := by
  rw [Sched.view_tier]
  refine ⟨?_, effectiveTier_le _⟩
  cases hctx : s.taskCtxStore p with
  | none => decide
  | some tctx =>
      rw [Sched.view_of_some hctx] at h
      have := (sanitizeTier_isTier tctx.currentDsqType).1
      unfold effectiveTier
      dsimp only
      split
      · exact h
      · exact this

-- p went to a queue of target, of the tier of its view v.
structure Enqueued (k : Call) (p : Task) (v : TaskView) (target slice : Nat) (head : Bool)
    (s s' : Sched) : Prop where
  view : s'.view = Function.update s.view p { v with resumeSlice := 0 }
  dsq : s'.dsq = Function.update s.dsq (getCpuDsqFromType v.tier target)
    (if head then p :: s.dsq (getCpuDsqFromType v.tier target)
      else s.dsq (getCpuDsqFromType v.tier target) ++ [p])
  task : s'.task = Function.update s.task p { s.task p with slice := slice }
  accounts : s'.accounts = s.accounts
  dispatchState : ∀ d, ∃ pending, s'.dispatchState d =
    { s.dispatchState d with
      preemptPending := pending
      tierHeadTs := fun t => if d = target ∧ t = v.tier ∧ v.tier ≠ DSQ_TYPE_LC ∧
          s.dsq (getCpuDsqFromType v.tier target) = [] then k.now
        else (s.dispatchState d).tierHeadTs t }

theorem stampAndInsert_spec {m : Machine} (k : Call) {p : Task} {v : TaskView} {target : Nat}
    (slice : Nat) (head : Bool) {s s1 : Sched} (htarget : target < m.nrCpuIds) (htier : IsTier v.tier)
    (hs1 : OnlyCtx s p { v with resumeSlice := 0 } s1) (heffects : s1.effects = s.effects) :
    Enqueued k p v target slice head s (stampAndInsert m k p v.tier target slice head s1) := by
  have hempty : dsqQueued s1 (getCpuDsqFromType v.tier target) = 0 ↔
      s.dsq (getCpuDsqFromType v.tier target) = [] := by
    simp [dsqQueued, hs1.dsq]
  unfold stampAndInsert
  dsimp only
  generalize hs2 : (if v.tier ≠ DSQ_TYPE_LC ∧ dsqQueued s1 (getCpuDsqFromType v.tier target) = 0 then
    s1.updDispatchCtx m target fun dctx => stampTierHeadTs dctx v.tier k.now else s1) = s2
  have hsame : s2.taskCtxStore = s1.taskCtxStore ∧ s2.dsq = s1.dsq ∧ s2.task = s1.task ∧
      s2.effects = s1.effects := by
    rw [← hs2]
    split_ifs <;> simp
  obtain ⟨hctx, hdsq, htask, heff⟩ := hsame
  constructor
  · exact (Sched.view_congr hctx).trans hs1.view
  · simp [Sched.dsqInsert, hdsq, hs1.dsq]
  · simp [Sched.dsqInsert, htask, hs1.task]
  · exact Sched.accounts_congr (heff.trans heffects)
  · intro d
    have hfield : s2.dispatchState d = { s.dispatchState d with
        tierHeadTs := fun t => if d = target ∧ t = v.tier ∧ v.tier ≠ DSQ_TYPE_LC ∧
          s.dsq (getCpuDsqFromType v.tier target) = [] then k.now
        else (s.dispatchState d).tierHeadTs t } := by
      rw [← hs2]
      split_ifs with hstamp
      all_goals rw [hempty] at hstamp
      · rw [Sched.updDispatchCtx_dispatchState, hs1.dispatchState]
        split_ifs with hd
        · rw [stampTierHeadTs_eq _ htier, hd.1]
          simp [hstamp]
        · have hne : d ≠ target := fun he => hd ⟨he, htarget⟩
          simp [hne]
      · have hno (t : Nat) : ¬(d = target ∧ t = v.tier ∧ v.tier ≠ DSQ_TYPE_LC ∧
            s.dsq (getCpuDsqFromType v.tier target) = []) := fun h => hstamp h.2.2
        simp [hno, hs1.dispatchState]
    exact ⟨_, hfield⟩

theorem Enqueued.emit {k : Call} {p : Task} {v : TaskView} {target slice : Nat} {head : Bool}
    {s s' : Sched} (h : Enqueued k p v target slice head s s') (cpu : Nat) (flag : KickFlag) :
    Enqueued k p v target slice head s (s'.emit (.kick cpu flag)) where
  view := h.view
  dsq := h.dsq
  task := h.task
  accounts := h.accounts
  dispatchState := h.dispatchState

theorem Enqueued.setPending {m : Machine} {k : Call} {p : Task} {v : TaskView} {target slice : Nat}
    {head : Bool} {s s' : Sched} (h : Enqueued k p v target slice head s s') (cpu : Nat) :
    Enqueued k p v target slice head s
      (s'.updDispatchCtx m cpu fun dctx => { dctx with preemptPending := true }) where
  view := (Sched.view_congr (s'.updDispatchCtx_taskCtxStore ..)).trans h.view
  dsq := (s'.updDispatchCtx_dsq ..).trans h.dsq
  task := (s'.updDispatchCtx_task ..).trans h.task
  accounts := (Sched.accounts_congr (s'.updDispatchCtx_effects ..)).trans h.accounts
  dispatchState := by
    intro d
    obtain ⟨pending, hd⟩ := h.dispatchState d
    rw [Sched.updDispatchCtx_dispatchState]
    split_ifs with hc
    · rw [← hc.1, hd]
      exact ⟨true, rfl⟩
    · exact ⟨pending, hd⟩

theorem enqueueOn_spec {m : Machine} (k : Call) (flags : EnqFlags) {p : Task} {v : TaskView}
    {target : Nat} {s s1 : Sched} (htier : IsTier v.tier)
    (hs1 : OnlyCtx s p { v with resumeSlice := 0 } s1) (heffects : s1.effects = s.effects)
    (hcpu : (s.task p).cpu < m.nrCpuIds) (honline : cpuIsOnline m (s.task p).cpu)
    (htarget : target = (s.task p).cpu ∨ target < m.nrCpuIds ∧ (s.task p).cpusPtr target) :
    ∃ target', target' < m.nrCpuIds ∧ cpuIsOnline m target' ∧
      (target' = (s.task p).cpu ∨ (s.task p).cpusPtr target') ∧
      Enqueued k p v target' SLICE_NS flags.head s (enqueueOn m k flags p v.tier target s1) := by
  unfold enqueueOn
  dsimp only
  rw [hs1.task]
  generalize ht' : (if !cpuIsOnline m target then (s.task p).cpu else target) = target'
  have hplace : target' < m.nrCpuIds ∧ cpuIsOnline m target' ∧
      (target' = (s.task p).cpu ∨ (s.task p).cpusPtr target') := by
    rw [← ht']
    split_ifs with hoff
    · exact ⟨hcpu, honline, Or.inl rfl⟩
    · have hon : cpuIsOnline m target := by simpa using hoff
      rcases htarget with rfl | ⟨hlt, hallowed⟩
      · exact ⟨hcpu, honline, Or.inl rfl⟩
      · exact ⟨hlt, hon, Or.inr hallowed⟩
  refine ⟨target', hplace.1, hplace.2.1, hplace.2.2, ?_⟩
  have henq := stampAndInsert_spec k SLICE_NS flags.head hplace.1 htier hs1 heffects
  split
  · exact henq.emit ..
  · split_ifs
    · exact henq.emit ..
    · exact (henq.setPending target').emit ..
    · exact henq

-- Where lunar_enqueue puts p, with which slice, and with which view: the wake boost
-- comes first, then a preempted task goes to the head of its own queue with the rest
-- of its slice, unless its cpu is taken by an RT task.
theorem lunarEnqueue_spec {m : Machine} (k : Call) (env : PickEnv) (flags : EnqFlags) {p : Task}
    {s : Sched} (hp : (s.view p).present) (hboost : ∀ q, DSQ_TYPE_LC ≤ (s.view q).boost)
    (hcpu : (s.task p).cpu < m.nrCpuIds) (honline : cpuIsOnline m (s.task p).cpu)
    (hidle : ∀ idle, env.idle = some idle → idle < m.nrCpuIds ∧ (s.task p).cpusPtr idle) :
    ∃ v target slice head, Boosted s (s.view p) v ∧ (flags.wakeup = false → v = s.view p) ∧
      target < m.nrCpuIds ∧ cpuIsOnline m target ∧
      (target = (s.task p).cpu ∨ (s.task p).cpusPtr target) ∧
      (v.resumeSlice ≠ 0 ∧ cpuTakenByRt s (s.task p).cpu = false ∧ slice = v.resumeSlice ∨
        (v.resumeSlice = 0 ∨ cpuTakenByRt s (s.task p).cpu) ∧ slice = SLICE_NS) ∧
      Enqueued k p v target slice head s (lunarEnqueue m k env flags p s) := by
  obtain ⟨tctx, hctx, hview⟩ := Sched.exists_of_present hp
  simp only [lunarEnqueue, hctx]
  generalize ht1 : (if flags.wakeup then applyWakeBoost k s p tctx else tctx) = tctx1
  have hboosted : Boosted s (s.view p) tctx1.view := by
    rw [← ht1, hview]
    split_ifs
    · exact applyWakeBoost_boosted k s p tctx
    · exact Or.inl rfl
  have hsame (h : flags.wakeup = false) : tctx1.view = s.view p := by
    rw [← ht1, hview, h]
    rfl
  have htier : IsTier tctx1.view.tier := by
    rcases hboosted with h | ⟨w, -, h⟩
    · rw [h]
      exact Sched.view_isTier (hboost p)
    · rw [h]
      exact Sched.view_isTier (hboost w)
  by_cases hresume : tctx1.resumeSlice ≠ 0 ∧ cpuTakenByRt s (s.task p).cpu = false
  · have htctx2 : (if tctx1.resumeSlice ≠ 0 ∧ cpuTakenByRt s (s.task p).cpu = true then
        { tctx1 with resumeSlice := 0 } else tctx1) = tctx1 := if_neg (by simp [hresume.2])
    rw [htctx2, if_pos hresume.1]
    refine ⟨tctx1.view, (s.task p).cpu, tctx1.resumeSlice, true, hboosted, hsame, hcpu, honline,
      Or.inl rfl, Or.inl ⟨hresume.1, hresume.2, rfl⟩, ?_⟩
    exact stampAndInsert_spec k tctx1.resumeSlice true hcpu htier (onlyCtx_setTaskCtx s p rfl) rfl
  · -- Either way no slice to go on with is left.
    generalize htctx2 : (if tctx1.resumeSlice ≠ 0 ∧ cpuTakenByRt s (s.task p).cpu = true then
        { tctx1 with resumeSlice := 0 } else tctx1) = tctx2
    have hview2 : tctx2.view = { tctx1.view with resumeSlice := 0 } := by
      rw [← htctx2]
      split_ifs with h
      · rfl
      · have hzero : tctx1.resumeSlice = 0 := by
          by_contra hne
          exact hresume ⟨hne, by simpa [hne] using h⟩
        ext <;> first | rfl | exact hzero
    have hzero : tctx2.resumeSlice = 0 := congrArg TaskView.resumeSlice hview2
    rw [if_neg (by simp [hzero])]
    obtain ⟨hpick, hpickView⟩ := pickEnqueueCpu_spec m env s p tctx2 (effectiveTier (some tctx1))
      (s.task p).cpu k.now hidle
    obtain ⟨target, hlt, hon, hallowed, henq⟩ := enqueueOn_spec k flags htier
      (onlyCtx_setTaskCtx s p (hpickView.trans hview2)) rfl hcpu honline hpick
    refine ⟨tctx1.view, target, SLICE_NS, flags.head, hboosted, hsame, hlt, hon, hallowed,
      Or.inr ⟨?_, rfl⟩, henq⟩
    by_cases hz : tctx1.resumeSlice = 0
    · exact Or.inl hz
    · exact Or.inr (by simpa [hz] using hresume)

end Enqueue

end Lunar
