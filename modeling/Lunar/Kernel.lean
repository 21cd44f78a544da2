import Lunar.Callbacks.Specs
import Lunar.Library.Run

namespace Lunar

-- The part of sched_ext that calls lunar: in which order the callbacks of a task can
-- come, and when the kernel moves tasks without asking lunar.

-- How a task that is not runnable got there.
inductive Origin where
  -- it sleeps, or it is new
  | sleep
  -- it was taken out of the queue it waited in, to be changed
  | waiting
  -- it was taken off the cpu it ran on, to be changed
  | running
deriving DecidableEq, Repr

inductive Phase where
  -- not under lunar
  | none
  | dequeued (origin : Origin)
  -- after runnable(), before it is put anywhere
  | runnable (origin : Origin)
  -- in a tier queue or a local DSQ
  | queued
  | running
  -- after stopping(), still runnable
  | stopped
  -- after stopping(), not runnable any more
  | leaving
deriving DecidableEq, Repr

structure Sys where
  sched : Sched
  clock : Nat
  phase : Task → Phase
  -- the task of lunar that runs on a cpu
  onCpu : Nat → Option Task
  -- a dispatch has found a task to replace the one that runs
  switching : Nat → Bool

-- What can be changed of a task that is not runnable.
structure Attributes where
  policy : Nat
  nrCpusAllowed : Nat
  cpusPtr : Nat → Bool

inductive Event where
  | initTask (k : Call) (p : Task)
  | setAttributes (p : Task) (attr : Attributes)
  | selectCpu (k : Call) (p : Task) (ttwu : Bool) (dfl : Nat × Bool)
  | runnable (k : Call) (p : Task) (wakeup : Bool) (cpu : Nat)
  | enqueue (k : Call) (p : Task) (flags : EnqFlags) (env : PickEnv)
  -- a task that exits or must not migrate, which the kernel does not show to lunar_enqueue:
  -- it goes straight to the local DSQ, with a slice of the kernel's choice
  | enqueueLocal (p : Task) (slice : Nat)
  -- the insert that select_cpu asked for
  | insertDirect (p : Task)
  -- back to the local DSQ, to go on where it ran before it was changed
  | restore (p : Task)
  -- a task that stopped before its slice was over goes back to the local DSQ
  | putBack (p : Task)
  -- the kernel takes used time, or with a kick all of it, off the slice
  | consumeSlice (p : Task) (left : Nat)
  | dispatch (k : Call) (cpu : Nat) (prev : Option Task) (rnd : Nat → Nat)
  | running (k : Call) (p : Task)
  | stopping (k : Call) (p : Task) (runnable : Bool)
  | quiescent (k : Call) (p : Task) (sleep : Bool)
  | schedSwitch (k : Call) (next : Task) (idle : Task → Option Nat)

-- A callback takes no time. What the kernel does by itself is not timed.
def Event.time (clock : Nat) : Event → Nat
  | .initTask k _ | .selectCpu k _ _ _ | .runnable k _ _ _ | .enqueue k _ _ _ | .dispatch k _ _ _
  | .running k _ | .stopping k _ _ | .quiescent k _ _ | .schedSwitch k _ _ => k.now
  | .setAttributes _ _ | .enqueueLocal _ _ | .insertDirect _ | .restore _ | .putBack _
  | .consumeSlice _ _ => clock

namespace Sys

def cpuOf (sys : Sys) (p : Task) : Nat := (sys.sched.task p).cpu

def localDsq (sys : Sys) (cpu : Nat) : List Task := sys.sched.dsq (.localOn cpu)

-- When an event can happen. enqueue is called for a task that has become runnable, for
-- one that has used up its slice, and for one that is taken off a local DSQ again, unless
-- the kernel keeps it from lunar; dispatch for a cpu with nothing in its local DSQ and no
-- slice left.
def guard (m : Machine) (sys : Sys) : Event → Prop
  | .initTask _ p => sys.phase p = .none
  | .setAttributes p _ =>
      sys.phase p = .none ∨ sys.phase p = .dequeued .sleep ∨ sys.phase p = .dequeued .waiting ∨
        sys.phase p = .dequeued .running
  | .selectCpu _ p _ dfl => sys.phase p = .dequeued .sleep ∧ dfl.1 < m.nrCpuIds
  | .runnable _ p wakeup cpu =>
      cpu < m.nrCpuIds ∧
        (sys.phase p = .dequeued .sleep ∨ sys.phase p = .dequeued .waiting ∧ !wakeup ∨
          sys.phase p = .dequeued .running ∧ !wakeup ∧ cpu = sys.cpuOf p)
  | .enqueue _ p flags env =>
      (sys.cpuOf p < m.nrCpuIds ∧ cpuIsOnline m (sys.cpuOf p) ∧
          sys.sched.allowedOn (sys.cpuOf p) p ∧
          ∀ idle ∈ env.idle, idle < m.nrCpuIds ∧ sys.sched.allowedOn idle p) ∧
        ((sys.phase p = .runnable .sleep ∨ sys.phase p = .runnable .waiting ∧ !flags.wakeup) ∧
            !(sys.sched.task p).ddspLocal ∨
          sys.phase p = .stopped ∧ (sys.sched.task p).slice = 0 ∧ !flags.wakeup ∨
          p ∈ sys.localDsq (sys.cpuOf p) ∧ !flags.wakeup)
  | .enqueueLocal p _ =>
      sys.phase p = .runnable .sleep ∨ sys.phase p = .runnable .waiting ∨ sys.phase p = .stopped ∨
        p ∈ sys.localDsq (sys.cpuOf p)
  | .insertDirect p =>
      (sys.phase p = .runnable .sleep ∨ sys.phase p = .runnable .waiting) ∧
        (sys.sched.task p).ddspLocal
  | .restore p => sys.phase p = .runnable .running
  | .putBack p => sys.phase p = .stopped ∧ (sys.sched.task p).slice ≠ 0
  | .consumeSlice p left => sys.phase p = .running ∧ left ≤ (sys.sched.task p).slice
  | .dispatch _ cpu prev _ =>
      cpu < m.nrCpuIds ∧ sys.localDsq cpu = [] ∧ !sys.switching cpu ∧
        (sys.onCpu cpu = none ∧ (∀ p ∈ prev, !(sys.sched.task p).queued) ∨
          sys.onCpu cpu ≠ none ∧ prev = sys.onCpu cpu ∧ ∀ p ∈ prev, (sys.sched.task p).slice = 0)
  | .running k p =>
      k.proc < m.nrCpuIds ∧ p ∈ sys.localDsq (sys.cpuOf p) ∧ sys.onCpu (sys.cpuOf p) = none
  | .stopping _ p _ => sys.phase p = .running
  | .quiescent _ p _ => sys.phase p = .leaving ∨ sys.phase p = .queued
  | .schedSwitch _ _ _ => True

instance decidableGuard (m : Machine) (sys : Sys) : ∀ event, Decidable (sys.guard m event)
  | .initTask _ _ => inferInstanceAs (Decidable (_ = _))
  | .setAttributes _ _ => inferInstanceAs (Decidable (_ ∨ _))
  | .selectCpu _ _ _ _ => inferInstanceAs (Decidable (_ ∧ _))
  | .runnable _ _ _ _ => inferInstanceAs (Decidable (_ ∧ _))
  | .enqueue _ _ _ _ => inferInstanceAs (Decidable (_ ∧ _))
  | .enqueueLocal _ _ => inferInstanceAs (Decidable (_ ∨ _))
  | .insertDirect _ => inferInstanceAs (Decidable (_ ∧ _))
  | .restore _ => inferInstanceAs (Decidable (_ = _))
  | .putBack _ => inferInstanceAs (Decidable (_ ∧ _))
  | .consumeSlice _ _ => inferInstanceAs (Decidable (_ ∧ _))
  | .dispatch _ _ _ _ => inferInstanceAs (Decidable (_ ∧ _))
  | .running _ _ => inferInstanceAs (Decidable (_ ∧ _))
  | .stopping _ _ _ => inferInstanceAs (Decidable (_ = _))
  | .quiescent _ _ _ => inferInstanceAs (Decidable (_ ∨ _))
  | .schedSwitch _ _ _ => inferInstanceAs (Decidable True)

def setPhase (sys : Sys) (p : Task) (phase : Phase) : Sys :=
  { sys with phase := Function.update sys.phase p phase }

-- Takes p off the DSQ it is in, if any.
def unlink (sys : Sys) (p : Task) : Sys :=
  { sys with sched := { sys.sched with dsq := fun id => (sys.sched.dsq id).filter (· ≠ p) } }

def setSlice (sys : Sys) (p : Task) (slice : Nat) : Sys :=
  { sys with sched := sys.sched.setTask p { sys.sched.task p with slice := slice } }

-- Puts p in the local DSQ of its cpu.
def insertLocal (sys : Sys) (p : Task) (head : Bool) : Sys :=
  let id := DsqId.localOn (sys.cpuOf p)
  let tasks := sys.sched.dsq id
  { sys with
    sched := (sys.sched.setTask p { sys.sched.task p with ddspLocal := false }).setDsq id
      (if head then p :: tasks else tasks ++ [p])
    phase := Function.update sys.phase p .queued }

def exec (m : Machine) (sys : Sys) : Event → Sys
  | .initTask k p =>
      { sys with sched := lunarInitTask k p sys.sched }.setPhase p (.dequeued .sleep)
  | .setAttributes p attr =>
      { sys with sched := sys.sched.setTask p { sys.sched.task p with
          policy := attr.policy
          nrCpusAllowed := attr.nrCpusAllowed
          cpusPtr := attr.cpusPtr } }
  | .selectCpu k p ttwu dfl =>
      let (cpu, s) := lunarSelectCpu m k ttwu dfl p sys.sched
      { sys with sched := s.setTask p { s.task p with cpu := cpu } }
  | .runnable k p wakeup cpu =>
      let s := sys.sched.setTask p { sys.sched.task p with cpu := cpu, queued := true }
      let origin :=
        match sys.phase p with
        | .dequeued origin => origin
        | _ => .sleep
      { sys with sched := lunarRunnable k wakeup p s }.setPhase p (.runnable origin)
  | .enqueue k p flags env =>
      let sys := sys.unlink p
      { sys with sched := lunarEnqueue m k env flags p sys.sched }.setPhase p .queued
  | .enqueueLocal p slice => ((sys.unlink p).setSlice p slice).insertLocal p false
  | .insertDirect p => sys.insertLocal p false
  | .restore p => sys.insertLocal p false
  | .putBack p => sys.insertLocal p true
  | .consumeSlice p left => sys.setSlice p left
  | .dispatch k cpu prev rnd =>
      let s := lunarDispatch m k k.now rnd cpu prev sys.sched
      { sys with
        sched := s
        switching := Function.update sys.switching cpu
          ((sys.onCpu cpu).isSome && !(s.dsq (.localOn cpu)).isEmpty) }
  | .running k p =>
      let sys := sys.unlink p
      { sys with
        sched := lunarRunning m k p sys.sched
        onCpu := Function.update sys.onCpu (sys.cpuOf p) (some p) }.setPhase p .running
  | .stopping k p runnable =>
      { sys with
        sched := lunarStopping m k p runnable sys.sched
        onCpu := Function.update sys.onCpu (sys.cpuOf p) none
        switching := Function.update sys.switching (sys.cpuOf p) false }.setPhase p
          (if runnable then .stopped else .leaving)
  | .quiescent k p sleep =>
      let origin := if sleep then .sleep else if sys.phase p = .leaving then .running else .waiting
      let sys := sys.unlink p
      let s := lunarQuiescent k sleep p sys.sched
      { sys with sched := s.setTask p { s.task p with queued := false } }.setPhase p (.dequeued origin)
  | .schedSwitch k next idle =>
      let s := { sys.sched with cpuCurr := Function.update sys.sched.cpuCurr k.proc (some next) }
      { sys with sched := lunarSchedSwitch m k idle next s }

-- The state right after lunar_init: no tasks yet, and whatever sched_switch has
-- already recorded about RT tasks. The clock of a running system is not 0.
structure Start (m : Machine) (sys : Sys) : Prop where
  sched : ∃ s now, sys.sched = lunarInit m now s ∧ (∀ id, s.dsq id = []) ∧
    (∀ p, s.taskCtxStore p = none) ∧ s.effects = [] ∧ ∀ cpu, now cpu ≤ sys.clock
  clock : 0 < sys.clock
  ddsp : ∀ p, (sys.sched.task p).ddspLocal = false
  phase : ∀ p, sys.phase p = .none
  onCpu : ∀ cpu, sys.onCpu cpu = none
  switching : ∀ cpu, sys.switching cpu = false

-- Such a state, for a machine with the given tasks.
def boot (m : Machine) (clock : Nat) (task : Task → TaskStruct) : Sys where
  sched := lunarInit m (fun _ => clock) { Sched.zeroed with task := task }
  clock := clock
  phase := fun _ => .none
  onCpu := fun _ => none
  switching := fun _ => false

theorem start_boot (m : Machine) {clock : Nat} (hclock : 0 < clock) {task : Task → TaskStruct}
    (htask : ∀ p, (task p).ddspLocal = false) : Start m (boot m clock task) where
  sched := ⟨_, _, rfl, fun _ => rfl, fun _ => rfl, rfl, fun _ => Nat.le_refl _⟩
  clock := hclock
  ddsp := by
    intro p
    change ((lunarInit m _ _).task p).ddspLocal = false
    rw [(lunarInit_spec m _ _).task]
    exact htask p
  phase := fun _ => rfl
  onCpu := fun _ => rfl
  switching := fun _ => rfl

end Sys

def lunarSys (m : Machine) : TransitionSystem Sys Event where
  enabled sys event := sys.clock ≤ event.time sys.clock ∧ sys.guard m event
  exec sys event := { sys.exec m event with clock := event.time sys.clock }

instance (m : Machine) (sys : Sys) (event : Event) : Decidable ((lunarSys m).enabled sys event) :=
  inferInstanceAs (Decidable (_ ∧ _))

-- Events that come together.

-- p is woken up by the current task, on cpu, where no other cpu is idle.
def wakeUp (k : Call) (p : Task) (cpu : Nat) : List Event :=
  [.runnable k p true cpu, .enqueue k p ⟨true, false⟩ ⟨none, 0⟩]

-- A cpu with nothing to run finds p.
def pickNext (k : Call) (p : Task) : List Event :=
  [.dispatch k k.proc none fun _ => 0, .running k p]

def goToSleep (k : Call) (p : Task) : List Event := [.stopping k p false, .quiescent k p true]

-- p is changed while it runs.
def changeRunning (k : Call) (p : Task) (attr : Attributes) (cpu : Nat) : List Event :=
  [.stopping k p false, .quiescent k p false, .setAttributes p attr, .runnable k p false cpu,
    .restore p, .running k p]

end Lunar
