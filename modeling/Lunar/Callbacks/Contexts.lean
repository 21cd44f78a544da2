import Lunar.Callbacks.Placement

namespace Lunar

-- What a callback can do to the task_ctx of a task, and which calls of duty_account it
-- records. The statistics of a task are followed with this and without the callbacks.

-- The task_ctx lunar_init_task leaves behind; blocked_at is the one field it does not set.
def initTaskCtx (task : TaskStruct) (now : Nat) (old : TaskCtx) : TaskCtx :=
  let tctx := { old with
    currentDsqType := DSQ_TYPE_GREEDY
    boostDsqType := DSQ_TYPE_EMPTY
    boostUsed := 0
    startedAt := now
    runAcc := DUTY_INIT_RUN_NS
    sleepAcc := 0
    dutySamples := 0
    grantedSlice := 0
    resumeSlice := 0
    lastMigratedAt := 0
    waitInterval := CRIT_INTERVAL_REF
    wakeInterval := CRIT_INTERVAL_REF
    lastWokenAt := now
    lastWakeAt := now
    crit := 0
    duty := (DUTY_RANGE / 2 : Nat) }
  if task.kthread then
    let runAcc := KTHREAD_INIT_DUTY_PCT * DUTY_WINDOW_NS / 100
    let tctx := { tctx with
      runAcc := runAcc
      sleepAcc := DUTY_WINDOW_NS - runAcc
      dutySamples := DUTY_SAMPLES_NEEDED }
    { tctx with duty := taskDuty tctx, currentDsqType := DSQ_TYPE_INTERACTIVE }
  else tctx

theorem lunarInitTask_eq (k : Call) (p : Task) (s : Sched) :
    lunarInitTask k p s =
      s.setTaskCtx p (initTaskCtx (s.task p) k.now ((s.taskCtxStore p).getD .zeroed)) := rfl

-- The statistics of a task that is woken up, and of the task that wakes it.

def TaskCtx.woken (k : Call) (wakeup : Bool) (tctx : TaskCtx) : TaskCtx :=
  if wakeup then
    { tctx with
      waitInterval := exponentiallyWeightedMovingAvg tctx.waitInterval
        (clampInterval (elapsed k.now tctx.lastWokenAt))
      lastWokenAt := k.now }
  else tctx

def TaskCtx.waker (k : Call) (wctx : TaskCtx) : TaskCtx :=
  { wctx with
    wakeInterval := exponentiallyWeightedMovingAvg wctx.wakeInterval
      (clampInterval (elapsed k.now wctx.lastWakeAt))
    lastWakeAt := k.now }

-- The boost is kept or over.
def Ends (boost boost' : Nat) : Prop := boost' = boost ∨ boost' = DSQ_TYPE_EMPTY

section Charges

variable (task : TaskStruct) (now : Nat) (tctx : TaskCtx)

-- The charges of a task that ran: the boost is paid for first, and may end. The run is
-- accounted, and the tier is evaluated for what it makes of the duty.

theorem chargePrev_accounted (pending : Bool) : ∃ boost used, Ends tctx.boostDsqType boost ∧
    let before : TaskCtx := { tctx with boostDsqType := boost, boostUsed := used }
    let accounted := { dutyAccount before (elapsed now tctx.startedAt) 0 with startedAt := now }
    chargePrev task pending now tctx =
      updateTaskDsqType task { accounted with duty := taskDuty accounted } now := by
  unfold chargePrev chargePrevBoost reevaluate
  dsimp only
  rw [chargeWakeBoost_frame]
  split_ifs
  · exact ⟨DSQ_TYPE_EMPTY, _, Or.inr rfl, rfl⟩
  · exact ⟨tctx.boostDsqType, _, Or.inl rfl, rfl⟩

theorem chargeStopped_accounted : ∃ used,
    let before : TaskCtx := { tctx with boostUsed := used }
    let accounted := dutyAccount before (elapsed now tctx.startedAt) 0
    chargeStopped task now tctx =
      updateTaskDsqType task { accounted with duty := taskDuty accounted } now := by
  unfold chargeStopped reevaluate
  dsimp only
  rw [chargeWakeBoost_frame]
  exact ⟨_, rfl⟩

end Charges

inductive CtxStep (s : Sched) (p : Task) : Callback → Option TaskCtx → List (Nat × Nat) → Prop where
  | same {event : Callback} : CtxStep s p event (s.taskCtxStore p) []
  | initTask {k : Call} : CtxStep s p (.initTask k p)
      (some (initTaskCtx (s.task p) k.now ((s.taskCtxStore p).getD .zeroed))) []
  | selectCpu {k : Call} {ttwu : Bool} {dfl : Nat × Bool} {tctx : TaskCtx}
      (hctx : s.taskCtxStore p = some tctx) :
      CtxStep s p (.selectCpu k ttwu dfl p)
        (some (if ttwu then applyWakeBoost k s p tctx else tctx)) []
  | enqueue {k : Call} {env : PickEnv} {flags : EnqFlags} {tctx : TaskCtx} {resume migrated : Nat}
      (hctx : s.taskCtxStore p = some tctx) :
      CtxStep s p (.enqueue k env flags p)
        (some { (if flags.wakeup then applyWakeBoost k s p tctx else tctx) with
          resumeSlice := resume, lastMigratedAt := migrated }) []
  | dispatch {k : Call} {now : Nat} {rnd : Nat → Nat} {cpu : Nat} {tctx : TaskCtx} {pending : Bool}
      {boost granted : Nat} (hctx : s.taskCtxStore p = some tctx)
      (hboost : Ends (chargePrev (s.task p) pending k.now tctx).boostDsqType boost) :
      CtxStep s p (.dispatch k now rnd cpu (some p))
        (some { chargePrev (s.task p) pending k.now tctx with
          boostDsqType := boost, grantedSlice := granted })
        [(elapsed k.now tctx.startedAt, 0)]
  | running {k : Call} {tctx : TaskCtx} {granted : Nat} (hctx : s.taskCtxStore p = some tctx) :
      CtxStep s p (.running k p) (some { tctx with startedAt := k.now, grantedSlice := granted }) []
  | stopping {k : Call} {runnable : Bool} {tctx : TaskCtx} {resume boost : Nat}
      (hctx : s.taskCtxStore p = some tctx)
      (hboost : Ends (chargeStopped (s.task p) k.now tctx).boostDsqType boost) :
      CtxStep s p (.stopping k p runnable)
        (some { chargeStopped (s.task p) k.now tctx with
          resumeSlice := resume, boostDsqType := boost })
        [(elapsed k.now tctx.startedAt, 0)]
  | quiescent {k : Call} {sleep : Bool} {tctx : TaskCtx} {blocked : Nat}
      (hctx : s.taskCtxStore p = some tctx) :
      CtxStep s p (.quiescent k sleep p)
        (some { tctx with resumeSlice := 0, boostDsqType := DSQ_TYPE_EMPTY, blockedAt := blocked }) []
  -- p becomes runnable, without and after a sleep
  | woken {k : Call} {wakeup : Bool} {tctx : TaskCtx} (hctx : s.taskCtxStore p = some tctx) :
      CtxStep s p (.runnable k wakeup p) (some (tctx.woken k wakeup)) []
  | slept {k : Call} {wakeup : Bool} {tctx : TaskCtx} (hctx : s.taskCtxStore p = some tctx) :
      CtxStep s p (.runnable k wakeup p)
        (some (chargeSleep (s.task p) k.now (tctx.woken k wakeup)))
        [(0, elapsed k.now tctx.blockedAt)]
  -- p wakes q
  | waker {k : Call} {q : Task} {wctx : TaskCtx} (hctx : s.taskCtxStore p = some wctx)
      (hwaker : k.current = p) : CtxStep s p (.runnable k true q) (some (wctx.waker k)) []

-- There is no task_ctx before init_task.
theorem CtxStep.of_none {s : Sched} {p : Task} {event : Callback} {ctx : Option TaskCtx}
    {log : List (Nat × Nat)} (hstep : CtxStep s p event ctx log) (hnone : s.taskCtxStore p = none)
    (hinit : ∀ k, event ≠ .initTask k p) : ctx = none := by
  cases hstep with
  | same => exact hnone
  | initTask => exact absurd rfl (hinit _)
  | selectCpu hctx | enqueue hctx | dispatch hctx | running hctx | stopping hctx | quiescent hctx
  | woken hctx | slept hctx | waker hctx => simp [hnone] at hctx

-- What a part of the program keeps that writes no task_ctx.
structure SameCtx (s s' : Sched) : Prop extends Outside s s' where
  accounts : s'.accounts = s.accounts

-- The task_ctx of p was written, and these calls of duty_account were made for it.
structure Wrote (p : Task) (tctx : TaskCtx) (log : List (Nat × Nat)) (s s' : Sched) : Prop where
  taskCtxStore : s'.taskCtxStore = Function.update s.taskCtxStore p (some tctx)
  kthread : ∀ q, (s'.task q).kthread = (s.task q).kthread
  accounts : s'.accounts = log.map (p, ·) ++ s.accounts

section Same

variable {s s1 s2 : Sched}

theorem SameCtx.refl (s : Sched) : SameCtx s s := ⟨⟨rfl, fun _ => rfl⟩, rfl⟩

theorem SameCtx.trans (h : SameCtx s s1) (h' : SameCtx s1 s2) : SameCtx s s2 :=
  ⟨⟨h'.taskCtxStore.trans h.taskCtxStore, fun p => (h'.kthread p).trans (h.kthread p)⟩,
    h'.accounts.trans h.accounts⟩

theorem SameCtx.of_same (hctx : s1.taskCtxStore = s.taskCtxStore) (htask : s1.task = s.task)
    (heffects : s1.effects = s.effects) : SameCtx s s1 :=
  ⟨⟨hctx, fun p => by rw [htask]⟩, Sched.accounts_congr heffects⟩

theorem sameCtx_kick (s : Sched) (cpu : Nat) (flag : KickFlag) : SameCtx s (s.emit (.kick cpu flag)) :=
  ⟨⟨rfl, fun _ => rfl⟩, rfl⟩

theorem sameCtx_setTask (s : Sched) (p : Task) (task : TaskStruct)
    (htask : task.kthread = (s.task p).kthread) : SameCtx s (s.setTask p task) := by
  refine ⟨⟨rfl, fun q => ?_⟩, rfl⟩
  rw [Sched.setTask_task, Function.update_apply]
  split_ifs with hq
  · rw [hq]
    exact htask
  · rfl

theorem sameCtx_updDispatchCtx (m : Machine) (s : Sched) (cpu : Nat) (f : DispatchCtx → DispatchCtx) :
    SameCtx s (s.updDispatchCtx m cpu f) := .of_same (by simp) (by simp) (by simp)

theorem sameCtx_dsqInsert (s : Sched) (p : Task) (id : DsqId) (slice : Nat) (head : Bool) :
    SameCtx s (s.dsqInsert p id slice head) :=
  (sameCtx_setTask s p { s.task p with slice := slice } rfl).trans (.of_same rfl rfl rfl)

theorem sameCtx_stampAndInsert (m : Machine) (k : Call) (p : Task) (tier target slice : Nat)
    (head : Bool) (s : Sched) : SameCtx s (stampAndInsert m k p tier target slice head s) := by
  unfold stampAndInsert
  dsimp only
  apply SameCtx.trans _ (sameCtx_dsqInsert _ p _ slice head)
  split_ifs
  · exact sameCtx_updDispatchCtx ..
  · exact .refl s

theorem sameCtx_enqueueOn (m : Machine) (k : Call) (flags : EnqFlags) (p : Task) (tier target : Nat)
    (s : Sched) : SameCtx s (enqueueOn m k flags p tier target s) := by
  unfold enqueueOn
  dsimp only
  generalize (if !cpuIsOnline m target then (s.task p).cpu else target) = target'
  apply SameCtx.trans (sameCtx_stampAndInsert m k p tier target' SLICE_NS flags.head s)
  split
  · exact sameCtx_kick ..
  split_ifs
  · exact sameCtx_kick ..
  · exact (sameCtx_updDispatchCtx ..).trans (sameCtx_kick ..)
  · exact .refl _

theorem Dispatched.sameCtx {m : Machine} {cpu prevTier now r : Nat} {path : OverridePath}
    (h : Dispatched m s cpu prevTier now path r s1) : SameCtx s s1 := by
  refine ⟨⟨h.sameOutside.taskCtxStore, fun p => ?_⟩, Sched.accounts_congr h.sameOutside.effects⟩
  rcases h.moved_or_unmoved with ⟨c, q, hm⟩ | ⟨-, hu⟩
  · rw [hm.task]
    exact (sameCtx_setTask s q { s.task q with cpu := cpu } rfl).kthread p
  · rw [hu.task]

theorem sameCtx_lunarSchedSwitch (m : Machine) (k : Call) (idle : Task → Option Nat) (next : Task)
    (s : Sched) : SameCtx s (lunarSchedSwitch m k idle next s) := by
  have hkick (s' : Sched) : SameCtx s' (kickIdleForWaiting idle k.proc s') := by
    unfold kickIdleForWaiting
    dsimp only
    split
    · exact .refl s'
    · split
      · exact sameCtx_kick ..
      · exact .refl s'
  unfold lunarSchedSwitch
  dsimp only
  split
  · exact .refl s
  rename_i dctx _
  have hbusy : SameCtx s (if isRtTask (s.task next) ≠ dctx.rtBusy then
      setRtBusy m k.proc (isRtTask (s.task next)) s else s) := by
    split_ifs
    · exact (sameCtx_updDispatchCtx ..).trans (.of_same rfl rfl rfl)
    · exact .refl s
  generalize (if isRtTask (s.task next) ≠ dctx.rtBusy then
      setRtBusy m k.proc (isRtTask (s.task next)) s else s) = s1 at hbusy ⊢
  split_ifs
  · exact hbusy
  · have hreenqueue : SameCtx s1 (s1.emit (.reenqueueLocal k.proc)) := ⟨⟨rfl, fun _ => rfl⟩, rfl⟩
    exact (hbusy.trans hreenqueue).trans (hkick _)
  · exact hbusy.trans (hkick s1)

end Same

section Wrote

variable {s s1 s2 : Sched} {p : Task} {tctx tctx' : TaskCtx} {log : List (Nat × Nat)}

theorem wrote_setTaskCtx (s : Sched) (p : Task) (tctx : TaskCtx) : Wrote p tctx [] s (s.setTaskCtx p tctx) :=
  ⟨rfl, fun _ => rfl, rfl⟩

theorem wrote_account (s : Sched) (p : Task) (tctx : TaskCtx) (run slept : Nat) :
    Wrote p tctx [(run, slept)] s ((s.emit (.dutyAccount p run slept)).setTaskCtx p tctx) :=
  ⟨rfl, fun _ => rfl, rfl⟩

theorem Wrote.trans_same (h : Wrote p tctx log s s1) (h' : SameCtx s1 s2) : Wrote p tctx log s s2 :=
  ⟨h'.taskCtxStore.trans h.taskCtxStore, fun q => (h'.kthread q).trans (h.kthread q),
    h'.accounts.trans h.accounts⟩

theorem SameCtx.trans_wrote (h : SameCtx s s1) (h' : Wrote p tctx log s1 s2) : Wrote p tctx log s s2 := by
  refine ⟨?_, fun q => (h'.kthread q).trans (h.kthread q), ?_⟩
  · rw [h'.taskCtxStore, h.taskCtxStore]
  · rw [h'.accounts, h.accounts]

-- A second write replaces the first.
theorem Wrote.trans {log' : List (Nat × Nat)} (h : Wrote p tctx log s s1) (h' : Wrote p tctx' log' s1 s2) :
    Wrote p tctx' (log' ++ log) s s2 := by
  refine ⟨?_, fun q => (h'.kthread q).trans (h.kthread q), ?_⟩
  · rw [h'.taskCtxStore, h.taskCtxStore, Function.update_idem]
  · rw [h'.accounts, h.accounts, List.map_append, List.append_assoc]

theorem wrote_self (hctx : s.taskCtxStore p = some tctx) : Wrote p tctx [] s s := by
  refine ⟨?_, fun _ => rfl, rfl⟩
  rw [← hctx]
  exact (Function.update_eq_self p s.taskCtxStore).symm

end Wrote

section Callbacks

variable {s : Sched} {p : Task} {tctx : TaskCtx}

theorem boostWoken_wrote (hctx : s.taskCtxStore p = some tctx) (k : Call) (wakeup : Bool) :
    Wrote p (if wakeup then applyWakeBoost k s p tctx else tctx) [] s (boostWoken k wakeup p s) := by
  unfold boostWoken
  rw [hctx]
  dsimp only
  split_ifs
  · exact wrote_setTaskCtx ..
  · exact wrote_self hctx

theorem lunarSelectCpu_same (m : Machine) (k : Call) (ttwu : Bool) (dfl : Nat × Bool) (p : Task)
    (s : Sched) : SameCtx (boostWoken k ttwu p s) (lunarSelectCpu m k ttwu dfl p s).2 := by
  unfold lunarSelectCpu
  dsimp only
  split_ifs
  · exact sameCtx_setTask _ p _ rfl
  · exact .refl _

theorem boostWoken_none (hctx : s.taskCtxStore p = none) (k : Call) (wakeup : Bool) :
    boostWoken k wakeup p s = s := by
  unfold boostWoken
  rw [hctx]

theorem pickEnqueueCpu_frame (m : Machine) (env : PickEnv) (s : Sched) (p : Task) (tctx : TaskCtx)
    (tier cpu now : Nat) : ∃ migrated,
      (pickEnqueueCpu m env s p tctx tier cpu now).2 = { tctx with lastMigratedAt := migrated } := by
  rw [pickEnqueueCpu_migrated]
  split_ifs
  · exact ⟨now, rfl⟩
  · exact ⟨tctx.lastMigratedAt, rfl⟩

theorem lunarEnqueue_wrote (m : Machine) (hctx : s.taskCtxStore p = some tctx) (k : Call) (env : PickEnv)
    (flags : EnqFlags) : ∃ resume migrated,
      Wrote p { (if flags.wakeup then applyWakeBoost k s p tctx else tctx) with
        resumeSlice := resume, lastMigratedAt := migrated } [] s (lunarEnqueue m k env flags p s) := by
  unfold lunarEnqueue
  rw [hctx]
  dsimp only
  generalize (if flags.wakeup then applyWakeBoost k s p tctx else tctx) = tctx1
  -- Whether the token is dropped or used, only resume_slice changes.
  obtain ⟨resume, hresume⟩ : ∃ resume, (if tctx1.resumeSlice ≠ 0 ∧ cpuTakenByRt s (s.task p).cpu then
      { tctx1 with resumeSlice := 0 } else tctx1) = { tctx1 with resumeSlice := resume } := by
    split_ifs
    · exact ⟨0, rfl⟩
    · exact ⟨tctx1.resumeSlice, rfl⟩
  rw [hresume]
  split_ifs
  · exact ⟨0, tctx1.lastMigratedAt,
      (wrote_setTaskCtx s p _).trans_same (sameCtx_stampAndInsert ..)⟩
  · obtain ⟨migrated, hpick⟩ := pickEnqueueCpu_frame m env s p { tctx1 with resumeSlice := resume }
      (effectiveTier (some tctx1)) (s.task p).cpu k.now
    rw [hpick]
    exact ⟨resume, migrated, (wrote_setTaskCtx s p _).trans_same (sameCtx_enqueueOn ..)⟩

theorem lunarEnqueue_none (m : Machine) (hctx : s.taskCtxStore p = none) (k : Call) (env : PickEnv)
    (flags : EnqFlags) : SameCtx s (lunarEnqueue m k env flags p s) := by
  unfold lunarEnqueue
  rw [hctx]
  exact sameCtx_enqueueOn ..

theorem accountPrev_wrote (m : Machine) (k : Call) (cpu : Nat) (p : Task) (tctx : TaskCtx) (s : Sched) :
    ∃ pending, (accountPrev m k cpu p tctx s).1 = chargePrev (s.task p) pending k.now tctx ∧
      Wrote p (chargePrev (s.task p) pending k.now tctx) [(elapsed k.now tctx.startedAt, 0)] s
        (accountPrev m k cpu p tctx s).2 := by
  rw [accountPrev_eq]
  dsimp only
  rw [Sched.updDispatchCtx_task]
  exact ⟨_, rfl, (sameCtx_updDispatchCtx m s cpu _).trans_wrote (wrote_account ..)⟩

theorem continuePrev_wrote (m : Machine) (cpu : Nat) (prev : Task) (pctx : TaskCtx) (s : Sched) :
    ∃ boost, Ends pctx.boostDsqType boost ∧
      Wrote prev { pctx with boostDsqType := boost, grantedSlice := SLICE_NS } [] s
        (continuePrev m cpu prev pctx s) := by
  have hgrant (tier : Nat) (pctx : TaskCtx) : Wrote prev { pctx with grantedSlice := SLICE_NS } [] s
      (grantSlice m cpu prev tier pctx s) := by
    unfold grantSlice
    dsimp only
    have hslice : SameCtx s ((s.setTask prev { s.task prev with slice := SLICE_NS }).emit
        (.setSlice prev SLICE_NS)) :=
      (sameCtx_setTask s prev { s.task prev with slice := SLICE_NS } rfl).trans
        ⟨⟨rfl, fun _ => rfl⟩, rfl⟩
    exact (hslice.trans_wrote (wrote_setTaskCtx ..)).trans_same (sameCtx_updDispatchCtx ..)
  unfold continuePrev
  split_ifs
  · exact ⟨DSQ_TYPE_EMPTY, Or.inr rfl, hgrant _ { pctx with boostDsqType := DSQ_TYPE_EMPTY }⟩
  · exact ⟨pctx.boostDsqType, Or.inl rfl, hgrant _ pctx⟩

theorem lunarDispatch_wrote (m : Machine) (k : Call) (now : Nat) (rnd : Nat → Nat) (cpu : Nat)
    {prev : Option Task} (hq : queuedCtx s prev = some (p, tctx)) :
    ∃ pending boost granted, Ends (chargePrev (s.task p) pending k.now tctx).boostDsqType boost ∧
      Wrote p { chargePrev (s.task p) pending k.now tctx with
          boostDsqType := boost, grantedSlice := granted } [(elapsed k.now tctx.startedAt, 0)] s
        (lunarDispatch m k now rnd cpu prev s) := by
  obtain ⟨pending, hfst, hacc⟩ := accountPrev_wrote m k cpu p tctx s
  unfold lunarDispatch
  rw [hq]
  dsimp only
  generalize haccounted : accountPrev m k cpu p tctx s = accounted at hfst hacc
  obtain ⟨pctx, s1⟩ := accounted
  obtain rfl : pctx = _ := hfst
  have hsame := (dispatchDsqPerCpu_dispatched m rnd s1 cpu
    (effectiveTier (some (chargePrev (s.task p) pending k.now tctx))) now).sameCtx
  dsimp only
  split_ifs
  · exact ⟨pending, _, _, Or.inl rfl, hacc.trans_same hsame⟩
  · obtain ⟨boost, hboost, hcontinued⟩ := continuePrev_wrote m cpu p
      (chargePrev (s.task p) pending k.now tctx) (dispatchDsqPerCpu m rnd s1 cpu
        (effectiveTier (some (chargePrev (s.task p) pending k.now tctx))) now).2
    exact ⟨pending, boost, SLICE_NS, hboost, (hacc.trans_same hsame).trans hcontinued⟩

theorem lunarRunning_wrote (m : Machine) (hctx : s.taskCtxStore p = some tctx) (k : Call) :
    lunarRunning m k p s = s ∨ ∃ granted,
      Wrote p { tctx with startedAt := k.now, grantedSlice := granted } [] s (lunarRunning m k p s) := by
  unfold lunarRunning
  rw [hctx]
  dsimp only
  split
  · exact Or.inl rfl
  · exact Or.inr ⟨_, (sameCtx_updDispatchCtx ..).trans_wrote (wrote_setTaskCtx ..)⟩

theorem settleStopped_frame (task : TaskStruct) (runnable pending : Bool) (usedNs : Nat)
    (tctx : TaskCtx) : ∃ resume boost, Ends tctx.boostDsqType boost ∧
      settleStopped task runnable pending usedNs tctx =
        { tctx with resumeSlice := resume, boostDsqType := boost } := by
  unfold settleStopped
  dsimp only
  split_ifs
  · exact ⟨_, _, Or.inr rfl, rfl⟩
  · exact ⟨_, _, Or.inl rfl, rfl⟩
  · exact ⟨tctx.resumeSlice, _, Or.inr rfl, rfl⟩
  · exact ⟨tctx.resumeSlice, _, Or.inl rfl, rfl⟩

theorem lunarStopping_wrote (m : Machine) (hctx : s.taskCtxStore p = some tctx) (k : Call)
    (runnable : Bool) : ∃ resume boost, Ends (chargeStopped (s.task p) k.now tctx).boostDsqType boost ∧
      Wrote p { chargeStopped (s.task p) k.now tctx with
          resumeSlice := resume, boostDsqType := boost } [(elapsed k.now tctx.startedAt, 0)] s
        (lunarStopping m k p runnable s) := by
  unfold lunarStopping
  rw [hctx]
  dsimp only [accountStopped_eq]
  have hcharge := sameCtx_updDispatchCtx m s (s.task p).cpu fun dctx =>
    chargeOverride dctx (effectiveTier (some tctx)) (elapsed k.now tctx.startedAt)
  simp only [Sched.emit_task, Sched.updDispatchCtx_task]
  split
  · exact ⟨_, _, Or.inl rfl, hcharge.trans_wrote (wrote_account ..)⟩
  · rename_i dctx _
    obtain ⟨resume, boost, hboost, hsettle⟩ := settleStopped_frame (s.task p) runnable
      dctx.preemptPending (elapsed k.now tctx.startedAt) (chargeStopped (s.task p) k.now tctx)
    refine ⟨resume, boost, hboost, ?_⟩
    rw [← hsettle]
    exact (hcharge.trans_wrote (wrote_account ..)).trans_same (sameCtx_updDispatchCtx ..)

theorem recordWaker_wrote (k : Call) (p : Task) (s : Sched) :
    recordWaker k p s = s ∨ k.current ≠ p ∧ ∃ wctx, s.taskCtxStore k.current = some wctx ∧
      Wrote k.current (wctx.waker k) [] s (recordWaker k p s) := by
  unfold recordWaker
  dsimp only
  split_ifs with hinterrupt hpid
  · exact Or.inl rfl
  · exact Or.inl rfl
  split
  · exact Or.inl rfl
  · rename_i wctx hw
    exact Or.inr ⟨fun he => hpid (by rw [he]), wctx, hw, wrote_setTaskCtx ..⟩

end Callbacks

-- Where a callback does what CtxStep says to the task_ctx of every task.
structure CtxStepped (s : Sched) (event : Callback) (s' : Sched) : Prop where
  step : ∀ p, ∃ log, CtxStep s p event (s'.taskCtxStore p) log ∧ s'.charges p = log ++ s.charges p
  kthread : ∀ p, (s'.task p).kthread = (s.task p).kthread

theorem SameCtx.stepped {s s' : Sched} (h : SameCtx s s') (event : Callback) : CtxStepped s event s' := by
  refine ⟨fun p => ⟨[], ?_, Sched.charges_congr h.accounts⟩, h.kthread⟩
  rw [h.taskCtxStore]
  exact .same

theorem Wrote.charges {s s' : Sched} {p : Task} {tctx : TaskCtx} {log : List (Nat × Nat)}
    (h : Wrote p tctx log s s') (q : Task) :
    s'.charges q = (if q = p then log else []) ++ s.charges q := by
  unfold Sched.charges
  rw [h.accounts, List.filter_append, List.map_append]
  congr 1
  split_ifs with hq
  · simp [List.filter_map, Function.comp_def, hq]
  · simp [List.filter_map, Function.comp_def, Ne.symm hq]

theorem Wrote.stepped {s s' : Sched} {p : Task} {tctx : TaskCtx} {log : List (Nat × Nat)}
    (h : Wrote p tctx log s s') {event : Callback} (hstep : CtxStep s p event (some tctx) log) :
    CtxStepped s event s' := by
  refine ⟨fun q => ⟨_, ?_, h.charges q⟩, h.kthread⟩
  rw [h.taskCtxStore, Function.update_apply]
  split_ifs with hq
  · rw [hq]
    exact hstep
  · exact .same

-- Two tasks are written by one callback.
theorem Wrote.stepped_pair {s s1 s2 : Sched} {a b : Task} {actx bctx : TaskCtx}
    {alog blog : List (Nat × Nat)} (ha : Wrote a actx alog s s1) (hb : Wrote b bctx blog s1 s2)
    (hne : a ≠ b) {event : Callback} (hstepA : CtxStep s a event (some actx) alog)
    (hstepB : CtxStep s b event (some bctx) blog) : CtxStepped s event s2 := by
  have hcharges (q : Task) : s2.charges q =
      (if q = b then blog else []) ++ ((if q = a then alog else []) ++ s.charges q) := by
    rw [hb.charges, ha.charges]
  refine ⟨fun q => ?_, fun q => (hb.kthread q).trans (ha.kthread q)⟩
  rw [hb.taskCtxStore, ha.taskCtxStore, hcharges]
  by_cases hqb : q = b
  · subst hqb
    rw [Function.update_self, if_pos rfl, if_neg hne.symm]
    exact ⟨blog, hstepB, rfl⟩
  · rw [Function.update_of_ne hqb, if_neg hqb]
    by_cases hqa : q = a
    · subst hqa
      rw [Function.update_self, if_pos rfl]
      exact ⟨alog, hstepA, rfl⟩
    · rw [Function.update_of_ne hqa, if_neg hqa]
      exact ⟨[], .same, rfl⟩

-- A write between two writes of another task might as well have come first.
theorem Wrote.between {s s1 s2 s3 : Sched} {p w : Task} {tctx tctx' wctx : TaskCtx}
    {log : List (Nat × Nat)} (h : Wrote p tctx [] s s1) (hw : Wrote w wctx [] s1 s2)
    (h' : Wrote p tctx' log s2 s3) (hne : w ≠ p) : Wrote p tctx' log (s.setTaskCtx w wctx) s3 := by
  refine ⟨?_, fun q => ?_, ?_⟩
  · rw [h'.taskCtxStore, hw.taskCtxStore, h.taskCtxStore, Sched.setTaskCtx_taskCtxStore,
      Function.update_comm hne.symm, Function.update_idem]
  · rw [h'.kthread, hw.kthread, h.kthread]
    rfl
  · rw [h'.accounts, hw.accounts, h.accounts]
    rfl

theorem lunarRunnable_stepped (k : Call) (wakeup : Bool) (p : Task) (s : Sched) :
    CtxStepped s (.runnable k wakeup p) (lunarRunnable k wakeup p s) := by
  unfold lunarRunnable
  cases hctx : s.taskCtxStore p with
  | none => exact (SameCtx.refl s).stepped _
  | some tctx =>
      dsimp only
      change CtxStepped s (.runnable k wakeup p)
        (if (tctx.woken k wakeup).blockedAt ≠ 0 then
          (((if wakeup then recordWaker k p (s.setTaskCtx p (tctx.woken k wakeup))
            else s.setTaskCtx p (tctx.woken k wakeup)).emit
              (.dutyAccount p 0 (elapsed k.now (tctx.woken k wakeup).blockedAt))).setTaskCtx p
            (chargeSleep ((if wakeup then recordWaker k p (s.setTaskCtx p (tctx.woken k wakeup))
              else s.setTaskCtx p (tctx.woken k wakeup)).task p) k.now (tctx.woken k wakeup)))
        else if wakeup then recordWaker k p (s.setTaskCtx p (tctx.woken k wakeup))
          else s.setTaskCtx p (tctx.woken k wakeup))
      have hblocked : (tctx.woken k wakeup).blockedAt = tctx.blockedAt := by
        unfold TaskCtx.woken
        split_ifs <;> rfl
      have hwoken := wrote_setTaskCtx s p (tctx.woken k wakeup)
      generalize hs1 : s.setTaskCtx p (tctx.woken k wakeup) = s1 at hwoken ⊢
      have htask : (if wakeup then recordWaker k p s1 else s1).task = s.task := by
        rw [← hs1]
        split_ifs
        · exact (recordWaker_spec k p _).1.task
        · rfl
      -- The waker is another task, and it only has its own statistics written.
      have hwaker : (if wakeup then recordWaker k p s1 else s1) = s1 ∨
          wakeup ∧ k.current ≠ p ∧ ∃ wctx, s.taskCtxStore k.current = some wctx ∧
            Wrote k.current (wctx.waker k) [] s1 (if wakeup then recordWaker k p s1 else s1) := by
        cases wakeup with
        | false => exact Or.inl rfl
        | true =>
            rcases recordWaker_wrote k p s1 with hsame | ⟨hne, wctx, hw, hwrote⟩
            · exact Or.inl hsame
            · rw [hwoken.taskCtxStore, Function.update_of_ne hne] at hw
              exact Or.inr ⟨rfl, hne, wctx, hw, hwrote⟩
      generalize (if wakeup then recordWaker k p s1 else s1) = s2 at htask hwaker ⊢
      rw [htask, hblocked]
      have hslept := wrote_account s2 p (chargeSleep (s.task p) k.now (tctx.woken k wakeup)) 0
        (elapsed k.now tctx.blockedAt)
      rcases hwaker with rfl | ⟨rfl, hne, wctx, hw, hwrote⟩
      · split_ifs
        · exact (hwoken.trans hslept).stepped (.slept hctx)
        · exact hwoken.stepped (.woken hctx)
      · split_ifs
        · exact (wrote_setTaskCtx s k.current (wctx.waker k)).stepped_pair
            (hwoken.between hwrote hslept hne) hne (.waker hw rfl) (.slept hctx)
        · exact hwoken.stepped_pair hwrote hne.symm (.woken hctx) (.waker hw rfl)

-- The kernel leaves the record of the calls alone too.
def Callback.KeepsRecord (s : Sched) : Callback → Prop
  | .kernel s' => s'.effects = s.effects
  | _ => True

theorem callbacks_stepped {m : Machine} {s : Sched} {event : Callback}
    (he : (callbacks m).enabled s event) (hrecord : event.KeepsRecord s) :
    CtxStepped s event ((callbacks m).exec s event) := by
  cases event with
  | init now =>
      have hinit := lunarInit_spec m now s
      exact (SameCtx.of_same hinit.taskCtxStore hinit.task hinit.effects).stepped _
  | initTask k p => exact (wrote_setTaskCtx s p _).stepped .initTask
  | selectCpu k ttwu dfl p =>
      have hsame := lunarSelectCpu_same m k ttwu dfl p s
      cases hctx : s.taskCtxStore p with
      | none =>
          rw [boostWoken_none hctx] at hsame
          exact hsame.stepped _
      | some tctx => exact ((boostWoken_wrote hctx k ttwu).trans_same hsame).stepped (.selectCpu hctx)
  | enqueue k env flags p =>
      cases hctx : s.taskCtxStore p with
      | none => exact (lunarEnqueue_none m hctx k env flags).stepped _
      | some tctx =>
          obtain ⟨resume, migrated, h⟩ := lunarEnqueue_wrote m hctx k env flags
          exact h.stepped (.enqueue hctx)
  | dispatch k now rnd cpu prev =>
      cases hq : queuedCtx s prev with
      | none =>
          refine SameCtx.stepped ?_ _
          change SameCtx s (lunarDispatch m k now rnd cpu prev s)
          unfold lunarDispatch
          rw [hq]
          exact (dispatchDsqPerCpu_dispatched ..).sameCtx
      | some prevCtx =>
          obtain ⟨p, tctx⟩ := prevCtx
          obtain ⟨rfl, -, hctx⟩ := queuedCtx_eq_some.mp hq
          obtain ⟨pending, boost, granted, hboost, h⟩ := lunarDispatch_wrote m k now rnd cpu hq
          exact h.stepped (.dispatch hctx hboost)
  | running k p =>
      cases hctx : s.taskCtxStore p with
      | none =>
          have hnone : lunarRunning m k p s = s := by
            unfold lunarRunning
            rw [hctx]
          change CtxStepped s _ (lunarRunning m k p s)
          rw [hnone]
          exact (SameCtx.refl s).stepped _
      | some tctx =>
          change CtxStepped s _ (lunarRunning m k p s)
          rcases lunarRunning_wrote m hctx k with hsame | ⟨granted, h⟩
          · rw [hsame]
            exact (SameCtx.refl s).stepped _
          · exact h.stepped (.running hctx)
  | stopping k p runnable =>
      change CtxStepped s _ (lunarStopping m k p runnable s)
      cases hctx : s.taskCtxStore p with
      | none =>
          unfold lunarStopping
          rw [hctx]
          exact (SameCtx.refl s).stepped _
      | some tctx =>
          obtain ⟨resume, boost, hboost, h⟩ := lunarStopping_wrote m hctx k runnable
          exact h.stepped (.stopping hctx hboost)
  | quiescent k sleep p =>
      change CtxStepped s _ (lunarQuiescent k sleep p s)
      unfold lunarQuiescent
      cases hctx : s.taskCtxStore p with
      | none => exact (SameCtx.refl s).stepped _
      | some tctx => exact (wrote_setTaskCtx s p _).stepped (.quiescent hctx)
  | runnable k wakeup p => exact lunarRunnable_stepped k wakeup p s
  | schedSwitch k idle next => exact (sameCtx_lunarSchedSwitch m k idle next s).stepped _
  | kernel s' => exact SameCtx.stepped ⟨he, Sched.accounts_congr hrecord⟩ _

-- Without the record, the kernel can do more.
theorem callbacks_step {m : Machine} {s : Sched} {event : Callback}
    (he : (callbacks m).enabled s event) (p : Task) :
    (∃ log, CtxStep s p event (((callbacks m).exec s event).taskCtxStore p) log) ∧
      (((callbacks m).exec s event).task p).kthread = (s.task p).kthread := by
  by_cases hkernel : ∃ s', event = .kernel s'
  · obtain ⟨s', rfl⟩ := hkernel
    have hout : Outside s s' := he
    refine ⟨⟨[], ?_⟩, hout.kthread p⟩
    change CtxStep s p _ (s'.taskCtxStore p) []
    rw [hout.taskCtxStore]
    exact .same
  · have hrecord : event.KeepsRecord s := by
      cases event with
      | kernel s' => exact absurd ⟨s', rfl⟩ hkernel
      | _ => trivial
    have hstepped := callbacks_stepped he hrecord
    obtain ⟨log, hstep, -⟩ := hstepped.step p
    exact ⟨⟨log, hstep⟩, hstepped.kthread p⟩

-- What a step keeps of a task_ctx holds of every task_ctx at any time.
theorem ctx_of_reaches {m : Machine} {P : TaskCtx → Prop}
    (hkeep : ∀ {s : Sched} {p : Task} {event : Callback} {ctx : Option TaskCtx} {log : List (Nat × Nat)},
      CtxStep s p event ctx log → (∀ tctx, s.taskCtxStore p = some tctx → P tctx) →
      ∀ tctx', ctx = some tctx' → P tctx')
    {start s : Sched} (hstart : ∀ p, start.taskCtxStore p = none) (hreach : (callbacks m).Reaches start s) :
    ∀ p tctx, s.taskCtxStore p = some tctx → P tctx := by
  apply (callbacks m).invariant_of_reaches
    (P := fun s => ∀ p tctx, s.taskCtxStore p = some tctx → P tctx) ?_ ?_ hreach
  · intro s event h he p tctx' hctx'
    obtain ⟨⟨log, hstep⟩, -⟩ := callbacks_step he p
    exact hkeep hstep (h p) tctx' hctx'
  · intro p tctx hctx
    simp [hstart p] at hctx

end Lunar
