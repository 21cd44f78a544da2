import Lunar.Helpers
import Lunar.Library.Scan

namespace Lunar

open CircularScan Word64

-- Placement (enqueue side)

def cpuLoadAhead (m : Machine) (s : Sched) (cpu tier : Nat) : Nat :=
  let running :=
    match s.getDispatchCtx m cpu with
    | some dctx =>
        if dctx.currentTaskDsqType ≤ tier then 1
        else if cpuTakenByRt s cpu then RT_CPU_LOAD else 0
    | none => if cpuTakenByRt s cpu then RT_CPU_LOAD else 0
  let queued (t : Nat) := dsqQueued s (getCpuDsqFromType t cpu)
  running + dsqQueued s (.localOn cpu) + queued DSQ_TYPE_LC +
    (if tier ≥ DSQ_TYPE_INTERACTIVE then queued DSQ_TYPE_INTERACTIVE else 0) +
    (if tier ≥ DSQ_TYPE_NORMAL then queued DSQ_TYPE_NORMAL else 0) +
    (if tier ≥ DSQ_TYPE_GREEDY then queued DSQ_TYPE_GREEDY else 0)

structure PickScratch where
  bestLoad : Nat
  sampled : Nat
  best : Nat
deriving DecidableEq, Repr

-- What pick_enqueue_cpu gets from the kernel: the answer of
-- scx_bpf_pick_idle_cpu (none for a negative one) and a random number.
structure PickEnv where
  idle : Option Nat
  rnd : Nat
deriving DecidableEq, Repr

-- The loop of pick_enqueue_cpu over the cpus in the order it visits them.
def pickScan (m : Machine) (s : Sched) (p : Task) (cpu tier budget : Nat) :
    List Nat → PickScratch → PickScratch
  | [], sc => sc
  | other :: rest, sc =>
      if other = cpu ∨ cpuLlcId m other ≠ cpuLlcId m cpu ∨ !cpuIsOnline m other then
        pickScan m s p cpu tier budget rest sc
      else if !(s.task p).cpusPtr other then
        pickScan m s p cpu tier budget rest sc
      else
        let load := cpuLoadAhead m s other tier
        let better := load < sc.bestLoad
        let sc := if better then { sc with bestLoad := load, best := other } else sc
        if better ∧ load = 0 then sc
        else
          let sc := { sc with sampled := sc.sampled + 1 }
          if sc.sampled ≥ budget then sc
          else pickScan m s p cpu tier budget rest sc

-- The cpu and the new task_ctx: the source writes last_migrated_at through the
-- pointer. Clearing the idle bit of the own cpu has no effect lunar sees, and
-- the lookup of the one element of the scratch map cannot fail.
def pickEnqueueCpu (m : Machine) (env : PickEnv) (s : Sched) (p : Task) (tctx : TaskCtx)
    (tier cpu now : Nat) : Nat × TaskCtx :=
  let bestLoad := cpuLoadAhead m s cpu tier
  if bestLoad = 0 then (cpu, tctx)
  else if (s.task p).nrCpusAllowed = 1 then (cpu, tctx)
  else
    match env.idle with
    | some idle => (idle, if idle ≠ cpu then { tctx with lastMigratedAt := now } else tctx)
    | none =>
        let latencyTier := tier ≤ DSQ_TYPE_INTERACTIVE
        if ¬latencyTier ∧ sub now tctx.lastMigratedAt < BALANCE_INTERVAL_NS ∧
            !cpuTakenByRt s cpu then (cpu, tctx)
        else
          let budget := if latencyTier then m.nrCpuIds else BALANCE_SAMPLES
          let sc := pickScan m s p cpu tier budget (visits (env.rnd % m.nrCpuIds) m.nrCpuIds)
            { bestLoad := bestLoad, sampled := 0, best := cpu }
          (sc.best, if sc.best ≠ cpu then { tctx with lastMigratedAt := now } else tctx)

-- Dispatch. Each function that may move a task to the local DSQ of the calling
-- cpu gives `some` of the state after the move, and `none` if it moved nothing
-- and so changed nothing.

-- One turn of the loop of try_acquire_task_from_other_cpu.
def acquireFrom (m : Machine) (s : Sched) (dsqType cpu : Nat) (sameLLC : Bool) (now other : Nat) :
    Option Sched :=
  if other = cpu ∨ !cpuIsOnline m other then none
  else if sameLLC ∧ cpuLlcId m other ≠ cpuLlcId m cpu then none
  else if !sameLLC ∧ cpuLlcId m other = cpuLlcId m cpu then none
  else
    let dsq := getCpuDsqFromType dsqType other
    if dsqQueued s dsq ≠ 0 then
      (s.dsqMoveToLocal cpu dsq).map fun s =>
        s.updDispatchCtx m other fun victim => stampTierHeadTs victim dsqType now
    else none

def tryAcquireTaskFromOtherCpu (m : Machine) (rnd : Nat) (s : Sched) (dsqType cpu : Nat)
    (sameLLC : Bool) (now : Nat) : Nat × Sched :=
  match (visits (rnd % m.nrCpuIds) m.nrCpuIds).findSome?
      (acquireFrom m s dsqType cpu sameLLC now) with
  | some s' => (dsqType, s')
  | none => (DSQ_TYPE_EMPTY, s)

-- One turn of the loop of try_acquire_from_rt_cpu.
def acquireFromRt (m : Machine) (s : Sched) (dsqType cpu now other : Nat) : Option Sched :=
  if other = cpu ∨ !cpuIsOnline m other ∨ cpuLlcId m other ≠ cpuLlcId m cpu then none
  else
    match s.getDispatchCtx m other with
    | none => none
    | some victim =>
        if !victim.rtBusy then none
        else
          let dsq := getCpuDsqFromType dsqType other
          if dsqQueued s dsq = 0 ∨ !cpuTakenByRt s other then none
          else
            (s.dsqMoveToLocal cpu dsq).map fun s =>
              s.updDispatchCtx m other fun victim => stampTierHeadTs victim dsqType now

def tryAcquireFromRtCpu (m : Machine) (rnd : Nat) (s : Sched) (dsqType cpu now : Nat) :
    Option Sched :=
  if s.nrRtBusy = 0 then none
  else (visits (rnd % m.nrCpuIds) m.nrCpuIds).findSome? (acquireFromRt m s dsqType cpu now)

-- The kick for the first task of the first queue that is not headed by a task
-- bound to its cpu; `idle` is the answer of scx_bpf_pick_idle_cpu for a task.
def kickIdleForWaiting (idle : Task → Option Nat) (cpu : Nat) (s : Sched) : Sched :=
  let movable := [DSQ_TYPE_LC, DSQ_TYPE_INTERACTIVE, DSQ_TYPE_NORMAL, DSQ_TYPE_GREEDY].findSome?
    fun tier =>
      match s.dsq (getCpuDsqFromType tier cpu) with
      | [] => none
      | p :: _ => if (s.task p).nrCpusAllowed > 1 then some p else none
  match movable with
  | none => s
  | some p =>
      match idle p with
      | some idle => s.emit (.kick idle .idle)
      | none => s

def tierOverrun (s : Sched) (dctx : DispatchCtx) (dsqType cpu now budget : Nat) : Int :=
  if dsqQueued s (getCpuDsqFromType dsqType cpu) = 0 then 0
  else toSigned (sub (sub now (dctx.tierHeadTs dsqType)) budget)

def mostStarvedTier (s : Sched) (dctx : DispatchCtx) (cpu now : Nat) : Nat :=
  if sub now dctx.lastOverrideTs < STARVE_OVERRIDE_COOLDOWN_NS then DSQ_TYPE_EMPTY
  else
    let overrun := tierOverrun s dctx DSQ_TYPE_INTERACTIVE cpu now STARVE_BUDGET_INTERACTIVE_NS
    let worst : Int × Nat :=
      if overrun > 0 then (overrun, DSQ_TYPE_INTERACTIVE) else (0, DSQ_TYPE_EMPTY)
    let overrun := tierOverrun s dctx DSQ_TYPE_NORMAL cpu now STARVE_BUDGET_NORMAL_NS
    let worst := if overrun > worst.1 then (overrun, DSQ_TYPE_NORMAL) else worst
    let overrun := tierOverrun s dctx DSQ_TYPE_GREEDY cpu now STARVE_BUDGET_GREEDY_NS
    let worst := if overrun > worst.1 then (overrun, DSQ_TYPE_GREEDY) else worst
    worst.2

def takeFromLocalTier (m : Machine) (s : Sched) (dsqType cpu now : Nat) : Option Sched :=
  let dsq := getCpuDsqFromType dsqType cpu
  if dsqQueued s dsq = 0 then none
  else (s.dsqMoveToLocal cpu dsq).map fun s =>
    s.updDispatchCtx m cpu fun dctx => stampTierHeadTs dctx dsqType now

def takeFromOtherTier (m : Machine) (rnd : Nat) (s : Sched) (dsqType cpu now : Nat)
    (thisLLC : Bool) : Option Sched :=
  let taken := tryAcquireTaskFromOtherCpu m rnd s dsqType cpu thisLLC now
  if taken.1 ≠ DSQ_TYPE_EMPTY then some taken.2 else none

-- "if (take) return tier;" followed by the rest of the function
def returnIf (tier : Nat) (take : Option Sched) (rest : Nat × Sched) : Nat × Sched :=
  match take with
  | some s => (tier, s)
  | none => rest

def armOverride (dctx : DispatchCtx) (tier now : Nat) : DispatchCtx :=
  { dctx with
    lastOverrideTs := now
    overrideTier := tier
    overrideLeft := STARVE_OVERRIDE_BUDGET_NS }

-- The start of an override in dispatch_dsq_per_cpu.
def startOverride (m : Machine) (s : Sched) (cpu now : Nat) : Option (Nat × Sched) :=
  match s.getDispatchCtx m cpu with
  | none => none
  | some dctx =>
      let starved := mostStarvedTier s dctx cpu now
      if starved = DSQ_TYPE_EMPTY then none
      else (takeFromLocalTier m s starved cpu now).map fun s =>
        (starved, s.updDispatchCtx m cpu fun dctx => armOverride dctx starved now)

-- The next take of an override in progress.
def continueOverride (m : Machine) (s : Sched) (cpu now : Nat) : Option (Nat × Sched) :=
  match s.getDispatchCtx m cpu with
  | none => none
  | some dctx =>
      let tier := dctx.overrideTier
      if dctx.overrideLeft ≠ 0 ∧ tier ≥ DSQ_TYPE_INTERACTIVE ∧ tier ≤ DSQ_TYPE_GREEDY then
        (takeFromLocalTier m s tier cpu now).map fun s => (tier, s)
      else none

-- An override that found nothing to take is over.
def endOverride (m : Machine) (s : Sched) (cpu : Nat) : Sched :=
  s.updDispatchCtx m cpu fun dctx => { dctx with overrideLeft := 0 }

-- The best tier the cpu could run next without taking anything over.
def localBest (s : Sched) (cpu prevTier : Nat) : Nat :=
  let best := if prevTier ≤ DSQ_TYPE_GREEDY then prevTier else DSQ_TYPE_EMPTY
  let queued (t : Nat) := dsqQueued s (getCpuDsqFromType t cpu)
  if best > DSQ_TYPE_INTERACTIVE ∧ queued DSQ_TYPE_INTERACTIVE ≠ 0 then DSQ_TYPE_INTERACTIVE
  else if best > DSQ_TYPE_NORMAL ∧ queued DSQ_TYPE_NORMAL ≠ 0 then DSQ_TYPE_NORMAL
  else if best > DSQ_TYPE_GREEDY ∧ queued DSQ_TYPE_GREEDY ≠ 0 then DSQ_TYPE_GREEDY
  else best

-- The end of dispatch_dsq_per_cpu: stealing, of a cpu with nothing of its own.
def stealTiers (m : Machine) (rnd : Nat → Nat) (s : Sched) (cpu now : Nat) : Nat × Sched :=
  let take (i tier : Nat) (thisLLC : Bool) := takeFromOtherTier m (rnd i) s tier cpu now thisLLC
  returnIf DSQ_TYPE_LC (take 7 DSQ_TYPE_LC true) <|
  returnIf DSQ_TYPE_INTERACTIVE (take 8 DSQ_TYPE_INTERACTIVE true) <|
  returnIf DSQ_TYPE_NORMAL (take 9 DSQ_TYPE_NORMAL true) <|
  returnIf DSQ_TYPE_GREEDY (take 10 DSQ_TYPE_GREEDY true) <|
  if m.nrLlcs > 1 then
    returnIf DSQ_TYPE_LC (take 11 DSQ_TYPE_LC false) <|
    returnIf DSQ_TYPE_INTERACTIVE (take 12 DSQ_TYPE_INTERACTIVE false) <|
    returnIf DSQ_TYPE_NORMAL (take 13 DSQ_TYPE_NORMAL false) <|
    returnIf DSQ_TYPE_GREEDY (take 14 DSQ_TYPE_GREEDY false) <|
    (DSQ_TYPE_EMPTY + 1, s)
  else (DSQ_TYPE_EMPTY + 1, s)

-- The own tiers of the cpu, each after the tasks of that tier waiting on a cpu
-- taken by an RT task.
def ownTiers (m : Machine) (rnd : Nat → Nat) (s : Sched) (cpu prevTier now : Nat) : Nat × Sched :=
  let takeRt (i tier : Nat) := tryAcquireFromRtCpu m (rnd i) s tier cpu now
  let takeLocal (tier : Nat) := takeFromLocalTier m s tier cpu now
  if prevTier < DSQ_TYPE_INTERACTIVE then (DSQ_TYPE_EMPTY, s) else
  returnIf DSQ_TYPE_INTERACTIVE (takeRt 4 DSQ_TYPE_INTERACTIVE) <|
  returnIf DSQ_TYPE_INTERACTIVE (takeLocal DSQ_TYPE_INTERACTIVE) <|
  if prevTier < DSQ_TYPE_NORMAL then (DSQ_TYPE_EMPTY, s) else
  returnIf DSQ_TYPE_NORMAL (takeRt 5 DSQ_TYPE_NORMAL) <|
  returnIf DSQ_TYPE_NORMAL (takeLocal DSQ_TYPE_NORMAL) <|
  if prevTier < DSQ_TYPE_GREEDY then (DSQ_TYPE_EMPTY, s) else
  returnIf DSQ_TYPE_GREEDY (takeRt 6 DSQ_TYPE_GREEDY) <|
  returnIf DSQ_TYPE_GREEDY (takeLocal DSQ_TYPE_GREEDY) <|
  if prevTier ≤ DSQ_TYPE_GREEDY then (DSQ_TYPE_EMPTY, s) else
  stealTiers m rnd s cpu now

-- Tasks of a better tier than the cpu has itself, waiting on a cpu of the LLC.
def strictTiers (m : Machine) (rnd : Nat → Nat) (s : Sched) (cpu prevTier now : Nat) :
    Nat × Sched :=
  let best := localBest s cpu prevTier
  let take (i tier : Nat) :=
    if best ≠ DSQ_TYPE_EMPTY ∧ best > tier then takeFromOtherTier m (rnd i) s tier cpu now true
    else none
  returnIf DSQ_TYPE_LC (take 1 DSQ_TYPE_LC) <|
  returnIf DSQ_TYPE_INTERACTIVE (take 2 DSQ_TYPE_INTERACTIVE) <|
  returnIf DSQ_TYPE_NORMAL (take 3 DSQ_TYPE_NORMAL) <|
  ownTiers m rnd s cpu prevTier now

-- `rnd i` is what bpf_get_prandom_u32 returns at the i-th place of the function
-- that draws a scan start; each place is passed at most once in a call.
def dispatchDsqPerCpu (m : Machine) (rnd : Nat → Nat) (s : Sched) (cpu prevTier now : Nat) :
    Nat × Sched :=
  returnIf DSQ_TYPE_LC (tryAcquireFromRtCpu m (rnd 0) s DSQ_TYPE_LC cpu now) <|
  returnIf DSQ_TYPE_LC (takeFromLocalTier m s DSQ_TYPE_LC cpu now) <|
  match continueOverride m s cpu now with
  | some taken => taken
  | none =>
      let s := endOverride m s cpu
      match startOverride m s cpu now with
      | some taken => taken
      | none => strictTiers m rnd s cpu prevTier now

end Lunar
