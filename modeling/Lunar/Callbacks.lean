import Lunar.Tiers
import Lunar.Dispatches
import Lunar.Library.Run

namespace Lunar

open Word64

-- The callbacks, in the order of lunar.bpf.c. `k` is the call: the clock, the cpu
-- the callback runs on and the task that is current there.

-- The loop reads the clock for every cpu. Creating the DSQs leaves them empty, as
-- they are here from the start.
def lunarInit (m : Machine) (now : Nat → Nat) (s : Sched) : Sched :=
  (List.range m.nrCpuIds).foldl (fun s cpu =>
    s.updDispatchCtx m cpu fun dctx =>
      { dctx with
        currentTaskDsqType := DSQ_TYPE_EMPTY
        tierHeadTs := fun t =>
          if t = DSQ_TYPE_INTERACTIVE ∨ t = DSQ_TYPE_NORMAL ∨ t = DSQ_TYPE_GREEDY then now cpu
          else dctx.tierHeadTs t
        lastOverrideTs := now cpu
        overrideTier := DSQ_TYPE_EMPTY
        overrideLeft := 0
        preemptPending := false }) s

-- The storage of a new task is zeroed.
def lunarInitTask (k : Call) (p : Task) (s : Sched) : Sched :=
  let tctx := (s.taskCtxStore p).getD .zeroed
  let tctx := { tctx with
    currentDsqType := DSQ_TYPE_GREEDY
    boostDsqType := DSQ_TYPE_EMPTY
    boostUsed := 0
    startedAt := k.now
    runAcc := DUTY_INIT_RUN_NS
    sleepAcc := 0
    dutySamples := 0
    grantedSlice := 0
    resumeSlice := 0
    lastMigratedAt := 0
    waitInterval := CRIT_INTERVAL_REF
    wakeInterval := CRIT_INTERVAL_REF
    lastWokenAt := k.now
    lastWakeAt := k.now
    crit := 0
    duty := (DUTY_RANGE / 2 : Nat) }
  let tctx : TaskCtx :=
    if (s.task p).kthread then
      let runAcc := KTHREAD_INIT_DUTY_PCT * DUTY_WINDOW_NS / 100
      let tctx := { tctx with
        runAcc := runAcc
        sleepAcc := DUTY_WINDOW_NS - runAcc
        dutySamples := DUTY_SAMPLES_NEEDED }
      { tctx with duty := taskDuty tctx, currentDsqType := DSQ_TYPE_INTERACTIVE }
    else tctx
  s.setTaskCtx p tctx

-- The wake boost of a task that is woken up.
def boostWoken (k : Call) (wakeup : Bool) (p : Task) (s : Sched) : Sched :=
  match s.taskCtxStore p with
  | some tctx => if wakeup then s.setTaskCtx p (applyWakeBoost k s p tctx) else s
  | none => s

-- `ttwu` is wake_flags & SCX_WAKE_TTWU, `dfl` what scx_bpf_select_cpu_dfl returns
-- and stores in is_idle.
def lunarSelectCpu (m : Machine) (k : Call) (ttwu : Bool) (dfl : Nat × Bool) (p : Task)
    (s : Sched) : Nat × Sched :=
  let s := boostWoken k ttwu p s
  let (cpu, isIdle) := dfl
  if isIdle ∧ cpuLoadAhead m s cpu (effectiveTier (s.taskCtxStore p)) = 0 then
    (cpu, s.setTask p { s.task p with slice := SLICE_NS, ddspLocal := true })
  else (cpu, s)

-- The clock of a queue that was empty, and the insert, which both ways through lunar_enqueue share.
def stampAndInsert (m : Machine) (k : Call) (p : Task) (tier target slice : Nat) (head : Bool)
    (s : Sched) : Sched :=
  let dsq := getCpuDsqFromType tier target
  let s :=
    if tier ≠ DSQ_TYPE_LC ∧ dsqQueued s dsq = 0 then
      s.updDispatchCtx m target fun dctx => stampTierHeadTs dctx tier k.now
    else s
  s.dsqInsert p dsq slice head

-- The end of lunar_enqueue: the task goes to a queue of target.
def enqueueOn (m : Machine) (k : Call) (flags : EnqFlags) (p : Task) (tier target : Nat)
    (s : Sched) : Sched :=
  let target := if !cpuIsOnline m target then (s.task p).cpu else target
  let s := stampAndInsert m k p tier target SLICE_NS flags.head s
  match s.getDispatchCtx m target with
  | none => s.emit (.kick target .idle)
  | some dctx =>
      let running := dctx.currentTaskDsqType
      if running = DSQ_TYPE_EMPTY then s.emit (.kick target .idle)
      else if tier = DSQ_TYPE_LC ∧ flags.wakeup ∧ running > tier then
        (s.updDispatchCtx m target fun dctx => { dctx with preemptPending := true }).emit
          (.kick target .preempt)
      else s

def lunarEnqueue (m : Machine) (k : Call) (env : PickEnv) (flags : EnqFlags) (p : Task)
    (s : Sched) : Sched :=
  let cpu := (s.task p).cpu
  match s.taskCtxStore p with
  | none => enqueueOn m k flags p (effectiveTier none) cpu s
  | some tctx =>
      let tctx := if flags.wakeup then applyWakeBoost k s p tctx else tctx
      let tier := effectiveTier (some tctx)
      let tctx := if tctx.resumeSlice ≠ 0 ∧ cpuTakenByRt s cpu then { tctx with resumeSlice := 0 }
        else tctx
      if tctx.resumeSlice ≠ 0 then
        stampAndInsert m k p tier cpu tctx.resumeSlice true
          (s.setTaskCtx p { tctx with resumeSlice := 0 })
      else
        let (target, tctx) := pickEnqueueCpu m env s p tctx tier cpu k.now
        enqueueOn m k flags p tier target (s.setTaskCtx p tctx)

-- duty_account for p. The call and its arguments are recorded.
def accountDuty (p : Task) (run slept : Nat) (tctx : TaskCtx) (s : Sched) : TaskCtx × Sched :=
  (dutyAccount tctx run slept, s.emit (.dutyAccount p run slept))

-- The duty and the tier of a task whose time has been accounted.
def reevaluate (task : TaskStruct) (now : Nat) (tctx : TaskCtx) : TaskCtx :=
  updateTaskDsqType task { tctx with duty := taskDuty tctx } now

-- The wake boost of prev. `pending` is preempt_pending.
def chargePrevBoost (pending : Bool) (used : Nat) (pctx : TaskCtx) : TaskCtx :=
  let pctx := chargeWakeBoost pctx used
  if !pending ∧ pctx.boostUsed ≥ WAKE_BOOST_BUDGET_NS then
    { pctx with boostDsqType := DSQ_TYPE_EMPTY }
  else pctx

-- prev goes on in its tier for a new slice.
def grantSlice (m : Machine) (cpu : Nat) (prev : Task) (prevTier : Nat) (pctx : TaskCtx) (s : Sched) :
    Sched :=
  let s := s.setTask prev { s.task prev with slice := SLICE_NS }
  let s := (s.emit (.setSlice prev SLICE_NS)).setTaskCtx prev { pctx with grantedSlice := SLICE_NS }
  s.updDispatchCtx m cpu fun dctx =>
    { dctx with currentTaskDsqType := prevTier, preemptPending := false }

def continuePrev (m : Machine) (cpu : Nat) (prev : Task) (pctx : TaskCtx) (s : Sched) : Sched :=
  if pctx.boostDsqType ≠ DSQ_TYPE_EMPTY ∧ pctx.boostUsed ≥ WAKE_BOOST_BUDGET_NS then
    grantSlice m cpu prev (sanitizeTier pctx.currentDsqType)
      { pctx with boostDsqType := DSQ_TYPE_EMPTY } s
  else grantSlice m cpu prev (effectiveTier (some pctx)) pctx s

-- The task_ctx lunar_dispatch accounts to: there is none if prev is not queued.
def queuedCtx (s : Sched) (prev : Option Task) : Option (Task × TaskCtx) :=
  prev.bind fun p => if (s.task p).queued then (s.taskCtxStore p).map fun pctx => (p, pctx) else none

-- The state and the tier of prev that dispatch_dsq_per_cpu gets.
def accountPrev (m : Machine) (k : Call) (cpu : Nat) (p : Task) (pctx : TaskCtx) (s : Sched) :
    TaskCtx × Sched :=
  let used := elapsed k.now pctx.startedAt
  let s := s.updDispatchCtx m cpu fun dctx => chargeOverride dctx (effectiveTier (some pctx)) used
  let pending := (s.getDispatchCtx m cpu).any (·.preemptPending)
  let (pctx, s) := accountDuty p used 0 (chargePrevBoost pending used pctx) s
  let pctx := reevaluate (s.task p) k.now { pctx with startedAt := k.now }
  (pctx, s.setTaskCtx p pctx)

-- The task_ctx of prev that comes out of it.
def chargePrev (task : TaskStruct) (pending : Bool) (now : Nat) (pctx : TaskCtx) : TaskCtx :=
  let used := elapsed now pctx.startedAt
  reevaluate task now
    { dutyAccount (chargePrevBoost pending used pctx) used 0 with startedAt := now }

theorem accountPrev_eq (m : Machine) (k : Call) (cpu : Nat) (p : Task) (pctx : TaskCtx) (s : Sched) :
    accountPrev m k cpu p pctx s =
      let used := elapsed k.now pctx.startedAt
      let s := s.updDispatchCtx m cpu fun dctx => chargeOverride dctx (effectiveTier (some pctx)) used
      let pending := (s.getDispatchCtx m cpu).any (·.preemptPending)
      let pctx := chargePrev (s.task p) pending k.now pctx
      (pctx, (s.emit (.dutyAccount p used 0)).setTaskCtx p pctx) :=
  rfl

-- `now` is the second time the clock is read, in dispatch_dsq_per_cpu.
def lunarDispatch (m : Machine) (k : Call) (now : Nat) (rnd : Nat → Nat) (cpu : Nat)
    (prev : Option Task) (s : Sched) : Sched :=
  match queuedCtx s prev with
  | none => (dispatchDsqPerCpu m rnd s cpu DSQ_TYPE_EMPTY now).2
  | some (p, pctx) =>
      let (pctx, s) := accountPrev m k cpu p pctx s
      let (tier, s) := dispatchDsqPerCpu m rnd s cpu (effectiveTier (some pctx)) now
      if tier ≠ DSQ_TYPE_EMPTY then s else continuePrev m cpu p pctx s

def lunarRunning (m : Machine) (k : Call) (p : Task) (s : Sched) : Sched :=
  match s.taskCtxStore p with
  | none => s
  | some context =>
      let cpu := k.proc
      match s.getDispatchCtx m cpu with
      | none => s
      | some _ =>
          let s := s.updDispatchCtx m cpu fun dispatchCtx =>
            { dispatchCtx with
              currentTaskDsqType := effectiveTier (some context)
              preemptPending := false }
          s.setTaskCtx p { context with startedAt := k.now, grantedSlice := (s.task p).slice }

-- The slice given back to a preempted task, and the end of a wake boost.
def settleStopped (task : TaskStruct) (runnable pending : Bool) (usedNs : Nat) (tctx : TaskCtx) :
    TaskCtx :=
  let tctx : TaskCtx :=
    if pending ∧ runnable ∧ task.slice = 0 ∧ tctx.grantedSlice > usedNs + RESUME_SLICE_MIN_NS then
      { tctx with resumeSlice := tctx.grantedSlice - usedNs }
    else tctx
  if tctx.resumeSlice = 0 ∧ (!runnable ∨ tctx.boostUsed ≥ WAKE_BOOST_BUDGET_NS) then
    { tctx with boostDsqType := DSQ_TYPE_EMPTY }
  else tctx

-- What lunar_stopping charges and re-evaluates in any case.
def accountStopped (k : Call) (task : Task) (tctx : TaskCtx) (s : Sched) : TaskCtx × Sched :=
  let usedNs := elapsed k.now tctx.startedAt
  let (tctx, s) := accountDuty task usedNs 0 (chargeWakeBoost tctx usedNs) s
  (reevaluate (s.task task) k.now tctx, s)

-- The task_ctx that comes out of it.
def chargeStopped (task : TaskStruct) (now : Nat) (tctx : TaskCtx) : TaskCtx :=
  let usedNs := elapsed now tctx.startedAt
  reevaluate task now (dutyAccount (chargeWakeBoost tctx usedNs) usedNs 0)

theorem accountStopped_eq (k : Call) (task : Task) (tctx : TaskCtx) (s : Sched) :
    accountStopped k task tctx s = (chargeStopped (s.task task) k.now tctx,
      s.emit (.dutyAccount task (elapsed k.now tctx.startedAt) 0)) :=
  rfl

def lunarStopping (m : Machine) (k : Call) (task : Task) (runnable : Bool) (s : Sched) : Sched :=
  match s.taskCtxStore task with
  | none => s
  | some tctx =>
      let usedNs := elapsed k.now tctx.startedAt
      let cpu := (s.task task).cpu
      let s := s.updDispatchCtx m cpu fun dctx => chargeOverride dctx (effectiveTier (some tctx)) usedNs
      let (tctx, s) := accountStopped k task tctx s
      match s.getDispatchCtx m cpu with
      | none => s.setTaskCtx task tctx
      | some dctx =>
          let tctx := settleStopped (s.task task) runnable dctx.preemptPending usedNs tctx
          (s.setTaskCtx task tctx).updDispatchCtx m cpu fun dctx =>
            { dctx with preemptPending := false, currentTaskDsqType := DSQ_TYPE_EMPTY }

-- `sleep` is deq_flags & SCX_DEQ_SLEEP.
def lunarQuiescent (k : Call) (sleep : Bool) (p : Task) (s : Sched) : Sched :=
  match s.taskCtxStore p with
  | none => s
  | some tctx => s.setTaskCtx p
      { tctx with
        resumeSlice := 0
        boostDsqType := DSQ_TYPE_EMPTY
        blockedAt := if sleep then k.now else 0 }

def countSample (tctx : TaskCtx) : TaskCtx :=
  let samples := tctx.dutySamples + 1
  { tctx with
    dutySamples := if samples > DUTY_SAMPLES_MAX then DUTY_SAMPLES_MAX else samples
    blockedAt := 0 }

def accountSleep (k : Call) (p : Task) (tctx : TaskCtx) (s : Sched) : TaskCtx × Sched :=
  let (tctx, s) := accountDuty p 0 (elapsed k.now tctx.blockedAt) tctx s
  (reevaluate (s.task p) k.now (countSample tctx), s)

-- The task_ctx that comes out of it.
def chargeSleep (task : TaskStruct) (now : Nat) (tctx : TaskCtx) : TaskCtx :=
  reevaluate task now (countSample (dutyAccount tctx 0 (elapsed now tctx.blockedAt)))

theorem accountSleep_eq (k : Call) (p : Task) (tctx : TaskCtx) (s : Sched) :
    accountSleep k p tctx s = (chargeSleep (s.task p) k.now tctx,
      s.emit (.dutyAccount p 0 (elapsed k.now tctx.blockedAt))) :=
  rfl

-- record_waker leaves p alone, so the source's pointer to the task_ctx of p still
-- shows what was written before it.
def lunarRunnable (k : Call) (wakeup : Bool) (p : Task) (s : Sched) : Sched :=
  match s.taskCtxStore p with
  | none => s
  | some tctx =>
      let tctx := if wakeup then
          { tctx with
            waitInterval := exponentiallyWeightedMovingAvg tctx.waitInterval
              (clampInterval (elapsed k.now tctx.lastWokenAt))
            lastWokenAt := k.now }
        else tctx
      let s := s.setTaskCtx p tctx
      let s := if wakeup then recordWaker k p s else s
      if tctx.blockedAt ≠ 0 then
        let (tctx, s) := accountSleep k p tctx s
        s.setTaskCtx p tctx
      else s

-- A change of rt_busy, and the count that goes with it; nr_rt_busy is a word.
def setRtBusy (m : Machine) (cpu : Nat) (rt : Bool) (s : Sched) : Sched :=
  let s := s.updDispatchCtx m cpu fun dctx => { dctx with rtBusy := rt }
  { s with nrRtBusy := if rt then wrap (s.nrRtBusy + 1) else sub s.nrRtBusy 1 }

-- `idle` is what scx_bpf_pick_idle_cpu answers for a task.
def lunarSchedSwitch (m : Machine) (k : Call) (idle : Task → Option Nat) (next : Task) (s : Sched) :
    Sched :=
  let cpu := k.proc
  match s.getDispatchCtx m cpu with
  | none => s
  | some dctx =>
      let rt := isRtTask (s.task next)
      let s := if rt ≠ dctx.rtBusy then setRtBusy m cpu rt s else s
      if !rt then s
      else
        let s := if dsqQueued s (.localOn cpu) ≠ 0 then s.emit (.reenqueueLocal cpu) else s
        kickIdleForWaiting idle cpu s

-- The callbacks in any order at all, more than the kernel can produce. What holds of
-- these runs needs nothing from the kernel.

inductive Callback where
  | init (now : Nat → Nat)
  | initTask (k : Call) (p : Task)
  | selectCpu (k : Call) (ttwu : Bool) (dfl : Nat × Bool) (p : Task)
  | enqueue (k : Call) (env : PickEnv) (flags : EnqFlags) (p : Task)
  | dispatch (k : Call) (now : Nat) (rnd : Nat → Nat) (cpu : Nat) (prev : Option Task)
  | running (k : Call) (p : Task)
  | stopping (k : Call) (p : Task) (runnable : Bool)
  | quiescent (k : Call) (sleep : Bool) (p : Task)
  | runnable (k : Call) (wakeup : Bool) (p : Task)
  | schedSwitch (k : Call) (idle : Task → Option Nat) (next : Task)
  -- whatever happens outside of lunar
  | kernel (s' : Sched)

-- The kernel leaves the task_ctx of a task and its PF_KTHREAD alone.
structure Outside (s s' : Sched) : Prop where
  taskCtxStore : s'.taskCtxStore = s.taskCtxStore
  kthread : ∀ p, (s'.task p).kthread = (s.task p).kthread

def callbacks (m : Machine) : TransitionSystem Sched Callback where
  enabled s
    | .kernel s' => Outside s s'
    | _ => True
  exec s
    | .init now => lunarInit m now s
    | .initTask k p => lunarInitTask k p s
    | .selectCpu k ttwu dfl p => (lunarSelectCpu m k ttwu dfl p s).2
    | .enqueue k env flags p => lunarEnqueue m k env flags p s
    | .dispatch k now rnd cpu prev => lunarDispatch m k now rnd cpu prev s
    | .running k p => lunarRunning m k p s
    | .stopping k p runnable => lunarStopping m k p runnable s
    | .quiescent k sleep p => lunarQuiescent k sleep p s
    | .runnable k wakeup p => lunarRunnable k wakeup p s
    | .schedSwitch k idle next => lunarSchedSwitch m k idle next s
    | .kernel s' => s'

end Lunar
