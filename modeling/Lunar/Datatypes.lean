import Lunar.Defines
import Mathlib.Logic.Function.Basic

namespace Lunar

-- Stands for the address of a task_struct.
abbrev Task := Nat

-- The tables userspace fills in before the program is loaded.
structure Rodata where
  nrLlcs : Nat
  cpuToLlc : Nat → Nat
  cpuOnline : Nat → Bool

def Rodata.zeroed : Rodata := ⟨1, fun _ => 0, fun _ => false⟩

-- nrCpuIds is scx_bpf_nr_cpu_ids(). Userspace refuses to load the program on a
-- machine with more than MAX_CPUS cpu ids, so such a machine is not one here.
structure Machine extends Rodata where
  nrCpuIds : Nat
  nrCpuIds_pos : 0 < nrCpuIds
  nrCpuIds_le : nrCpuIds ≤ MAX_CPUS

-- All cpus online and in one LLC.
def Machine.uniform (nrCpuIds : Nat) (hpos : 0 < nrCpuIds) (hle : nrCpuIds ≤ MAX_CPUS) : Machine where
  nrLlcs := 1
  cpuToLlc := fun _ => 0
  cpuOnline := fun cpu => cpu < nrCpuIds
  nrCpuIds := nrCpuIds
  nrCpuIds_pos := hpos
  nrCpuIds_le := hle

def oneCpu : Machine := .uniform 1 (by decide) (by decide)

def twoCpus : Machine := .uniform 2 (by decide) (by decide)

-- DSQs lunar creates have a number, the local DSQ of a cpu is SCX_DSQ_LOCAL_ON | cpu.
inductive DsqId where
  | user (id : Nat)
  | localOn (cpu : Nat)
deriving DecidableEq, Repr

-- What lunar and the kernel functions it calls use of a task_struct.
structure TaskStruct where
  pid : Nat
  -- flags & PF_KTHREAD, flags & PF_IDLE
  kthread : Bool
  idle : Bool
  policy : Nat
  nrCpusAllowed : Nat
  cpusPtr : Nat → Bool
  -- scx_bpf_task_cpu()
  cpu : Nat
  -- scx.slice
  slice : Nat
  -- scx.flags & SCX_TASK_QUEUED
  queued : Bool
  -- scx.ddsp_dsq_id is SCX_DSQ_LOCAL: an insert from select_cpu, which the kernel
  -- carries out once the task is runnable
  ddspLocal : Bool

structure TaskCtx where
  currentDsqType : Nat
  boostDsqType : Nat
  boostUsed : Nat
  blockedAt : Nat
  duty : Int
  runAcc : Nat
  sleepAcc : Nat
  startedAt : Nat
  dutySamples : Nat
  grantedSlice : Nat
  resumeSlice : Nat
  lastMigratedAt : Nat
  waitInterval : Nat
  wakeInterval : Nat
  lastWokenAt : Nat
  lastWakeAt : Nat
  crit : Nat
deriving DecidableEq, Repr

structure DispatchCtx where
  currentTaskDsqType : Nat
  tierHeadTs : Nat → Nat
  lastOverrideTs : Nat
  overrideTier : Nat
  overrideLeft : Nat
  rtBusy : Bool
  preemptPending : Bool

inductive KickFlag where
  | idle
  | preempt
deriving DecidableEq, Repr

-- Calls that the maps and queues do not record, or do not tell apart from others:
-- kicks, slices given to a running task, and the arguments duty_account was
-- called with. Written by the program and never read by it.
inductive Effect where
  | kick (cpu : Nat) (flag : KickFlag)
  | reenqueueLocal (cpu : Nat)
  | setSlice (task : Task) (slice : Nat)
  | dutyAccount (task : Task) (run slept : Nat)
deriving DecidableEq, Repr

-- The maps of the program, the DSQs, and the kernel state it reads.
structure Sched where
  task : Task → TaskStruct
  taskCtxStore : Task → Option TaskCtx
  dispatchState : Nat → DispatchCtx
  nrRtBusy : Nat
  dsq : DsqId → List Task
  cpuCurr : Nat → Option Task
  effects : List Effect

def TaskStruct.zeroed : TaskStruct where
  pid := 0
  kthread := false
  idle := false
  policy := 0
  nrCpusAllowed := 0
  cpusPtr := fun _ => false
  cpu := 0
  slice := 0
  queued := false
  ddspLocal := false

def TaskCtx.zeroed : TaskCtx where
  currentDsqType := 0
  boostDsqType := 0
  boostUsed := 0
  blockedAt := 0
  duty := 0
  runAcc := 0
  sleepAcc := 0
  startedAt := 0
  dutySamples := 0
  grantedSlice := 0
  resumeSlice := 0
  lastMigratedAt := 0
  waitInterval := 0
  wakeInterval := 0
  lastWokenAt := 0
  lastWakeAt := 0
  crit := 0

def DispatchCtx.zeroed : DispatchCtx where
  currentTaskDsqType := 0
  tierHeadTs := fun _ => 0
  lastOverrideTs := 0
  overrideTier := 0
  overrideLeft := 0
  rtBusy := false
  preemptPending := false

-- The maps as the kernel creates them.
def Sched.zeroed : Sched where
  task := fun _ => .zeroed
  taskCtxStore := fun _ => none
  dispatchState := fun _ => .zeroed
  nrRtBusy := 0
  dsq := fun _ => []
  cpuCurr := fun _ => none
  effects := []

-- What a callback finds out about the place it is called from.
structure Call where
  -- bpf_ktime_get_ns()
  now : Nat
  -- bpf_get_smp_processor_id()
  proc : Nat
  inTask : Bool
  inInterrupt : Bool
  -- bpf_get_current_task_btf()
  current : Task
deriving DecidableEq, Repr

-- A call in the context of a task.
def Call.task (now proc : Nat) (current : Task) : Call := ⟨now, proc, true, false, current⟩

-- enq_flags & SCX_ENQ_WAKEUP, enq_flags & SCX_ENQ_HEAD
structure EnqFlags where
  wakeup : Bool
  head : Bool
deriving DecidableEq, Repr

namespace Sched

def setTaskCtx (s : Sched) (p : Task) (tctx : TaskCtx) : Sched :=
  { s with taskCtxStore := Function.update s.taskCtxStore p (some tctx) }

def setTask (s : Sched) (p : Task) (task : TaskStruct) : Sched :=
  { s with task := Function.update s.task p task }

def setDsq (s : Sched) (id : DsqId) (tasks : List Task) : Sched :=
  { s with dsq := Function.update s.dsq id tasks }

def emit (s : Sched) (effect : Effect) : Sched :=
  { s with effects := effect :: s.effects }

-- get_dispatch_ctx: the map has an element for every possible cpu.
def getDispatchCtx (m : Machine) (s : Sched) (cpu : Nat) : Option DispatchCtx :=
  if cpu < m.nrCpuIds then some (s.dispatchState cpu) else none

-- A write through the pointer get_dispatch_ctx returns, if there is one.
def updDispatchCtx (m : Machine) (s : Sched) (cpu : Nat) (f : DispatchCtx → DispatchCtx) : Sched :=
  if cpu < m.nrCpuIds then
    { s with dispatchState := Function.update s.dispatchState cpu (f (s.dispatchState cpu)) }
  else s

section Fields

variable (m : Machine) (s : Sched) (p : Task) (tctx : TaskCtx) (task : TaskStruct) (id : DsqId)
  (tasks : List Task) (effect : Effect) (cpu : Nat) (f : DispatchCtx → DispatchCtx)

@[simp] theorem setTaskCtx_task : (s.setTaskCtx p tctx).task = s.task := rfl

@[simp] theorem setTaskCtx_taskCtxStore :
    (s.setTaskCtx p tctx).taskCtxStore = Function.update s.taskCtxStore p (some tctx) := rfl

@[simp] theorem setTaskCtx_dispatchState :
    (s.setTaskCtx p tctx).dispatchState = s.dispatchState := rfl

@[simp] theorem setTaskCtx_nrRtBusy : (s.setTaskCtx p tctx).nrRtBusy = s.nrRtBusy := rfl

@[simp] theorem setTaskCtx_dsq : (s.setTaskCtx p tctx).dsq = s.dsq := rfl

@[simp] theorem setTaskCtx_cpuCurr : (s.setTaskCtx p tctx).cpuCurr = s.cpuCurr := rfl

@[simp] theorem setTaskCtx_effects : (s.setTaskCtx p tctx).effects = s.effects := rfl

@[simp] theorem setTask_task : (s.setTask p task).task = Function.update s.task p task := rfl

@[simp] theorem setTask_taskCtxStore : (s.setTask p task).taskCtxStore = s.taskCtxStore := rfl

@[simp] theorem setTask_dispatchState : (s.setTask p task).dispatchState = s.dispatchState := rfl

@[simp] theorem setTask_nrRtBusy : (s.setTask p task).nrRtBusy = s.nrRtBusy := rfl

@[simp] theorem setTask_dsq : (s.setTask p task).dsq = s.dsq := rfl

@[simp] theorem setTask_cpuCurr : (s.setTask p task).cpuCurr = s.cpuCurr := rfl

@[simp] theorem setTask_effects : (s.setTask p task).effects = s.effects := rfl

@[simp] theorem setDsq_task : (s.setDsq id tasks).task = s.task := rfl

@[simp] theorem setDsq_taskCtxStore : (s.setDsq id tasks).taskCtxStore = s.taskCtxStore := rfl

@[simp] theorem setDsq_dispatchState : (s.setDsq id tasks).dispatchState = s.dispatchState := rfl

@[simp] theorem setDsq_nrRtBusy : (s.setDsq id tasks).nrRtBusy = s.nrRtBusy := rfl

@[simp] theorem setDsq_dsq : (s.setDsq id tasks).dsq = Function.update s.dsq id tasks := rfl

@[simp] theorem setDsq_cpuCurr : (s.setDsq id tasks).cpuCurr = s.cpuCurr := rfl

@[simp] theorem setDsq_effects : (s.setDsq id tasks).effects = s.effects := rfl

@[simp] theorem emit_task : (s.emit effect).task = s.task := rfl

@[simp] theorem emit_taskCtxStore : (s.emit effect).taskCtxStore = s.taskCtxStore := rfl

@[simp] theorem emit_dispatchState : (s.emit effect).dispatchState = s.dispatchState := rfl

@[simp] theorem emit_nrRtBusy : (s.emit effect).nrRtBusy = s.nrRtBusy := rfl

@[simp] theorem emit_dsq : (s.emit effect).dsq = s.dsq := rfl

@[simp] theorem emit_cpuCurr : (s.emit effect).cpuCurr = s.cpuCurr := rfl

@[simp] theorem emit_effects : (s.emit effect).effects = effect :: s.effects := rfl

@[simp] theorem updDispatchCtx_task : (s.updDispatchCtx m cpu f).task = s.task := by
  unfold updDispatchCtx; split <;> rfl

@[simp] theorem updDispatchCtx_taskCtxStore :
    (s.updDispatchCtx m cpu f).taskCtxStore = s.taskCtxStore := by
  unfold updDispatchCtx; split <;> rfl

@[simp] theorem updDispatchCtx_nrRtBusy : (s.updDispatchCtx m cpu f).nrRtBusy = s.nrRtBusy := by
  unfold updDispatchCtx; split <;> rfl

@[simp] theorem updDispatchCtx_dsq : (s.updDispatchCtx m cpu f).dsq = s.dsq := by
  unfold updDispatchCtx; split <;> rfl

@[simp] theorem updDispatchCtx_cpuCurr : (s.updDispatchCtx m cpu f).cpuCurr = s.cpuCurr := by
  unfold updDispatchCtx; split <;> rfl

@[simp] theorem updDispatchCtx_effects : (s.updDispatchCtx m cpu f).effects = s.effects := by
  unfold updDispatchCtx; split <;> rfl

theorem updDispatchCtx_dispatchState (other : Nat) :
    (s.updDispatchCtx m cpu f).dispatchState other =
      if other = cpu ∧ cpu < m.nrCpuIds then f (s.dispatchState cpu) else s.dispatchState other := by
  unfold updDispatchCtx
  by_cases hc : cpu < m.nrCpuIds
  · by_cases ho : other = cpu
    · subst ho; simp [hc]
    · simp [hc, ho]
  · simp [hc]

theorem updDispatchCtx_same (hcpu : cpu < m.nrCpuIds) :
    (s.updDispatchCtx m cpu f).dispatchState cpu = f (s.dispatchState cpu) := by
  simp [updDispatchCtx_dispatchState, hcpu]

theorem updDispatchCtx_other {other : Nat} (h : other ≠ cpu) :
    (s.updDispatchCtx m cpu f).dispatchState other = s.dispatchState other := by
  simp [updDispatchCtx_dispatchState, h]

-- A field that a change of a dispatch_ctx keeps, it keeps on every cpu.
theorem updDispatchCtx_field {β : Type} (field : DispatchCtx → β)
    (hf : ∀ dctx, field (f dctx) = field dctx) (other : Nat) :
    field ((s.updDispatchCtx m cpu f).dispatchState other) = field (s.dispatchState other) := by
  rw [updDispatchCtx_dispatchState]
  split
  · rename_i h
    rw [hf, h.1]
  · rfl

end Fields

-- The kernel functions lunar calls.

-- scx_bpf_dsq_insert, to the tail or with SCX_ENQ_HEAD to the head
def dsqInsert (s : Sched) (p : Task) (id : DsqId) (slice : Nat) (head : Bool) : Sched :=
  let s := s.setTask p { s.task p with slice := slice }
  s.setDsq id (if head then p :: s.dsq id else s.dsq id ++ [p])

def allowedOn (s : Sched) (cpu : Nat) (p : Task) : Bool := (s.task p).cpusPtr cpu

-- A task of a queue moves to the local DSQ of cpu, which makes cpu its cpu.
def moveTo (s : Sched) (cpu : Nat) (id : DsqId) (p : Task) : Sched :=
  let s := s.setDsq id ((s.dsq id).eraseP (s.allowedOn cpu))
  let s := s.setTask p { s.task p with cpu := cpu }
  s.setDsq (.localOn cpu) (s.dsq (.localOn cpu) ++ [p])

-- scx_bpf_dsq_move_to_local on cpu: moves the first task of the queue allowed
-- there. `none` stands for a return value of false, which leaves everything as
-- it was.
def dsqMoveToLocal (s : Sched) (cpu : Nat) (id : DsqId) : Option Sched :=
  (s.dsq id).find? (s.allowedOn cpu) |>.map (s.moveTo cpu id)

end Sched

end Lunar
