import Lunar.Kernel.Drain

namespace Lunar

-- The tasks in the tier queues of a cpu, in the order of service.
def waiting (s : Sched) (cpu : Nat) : List Task :=
  Levels.content (tiersUpTo DSQ_TYPE_GREEDY) (tierQueue s cpu)

def movable (s : Sched) (p : Task) : Bool := (s.task p).nrCpusAllowed > 1

def firstMovable (s : Sched) (cpu : Nat) : Option Task := (waiting s cpu).find? (movable s)

def kickFor (s : Sched) : Option Nat → Sched
  | some idle => s.emit (.kick idle .idle)
  | none => s

-- What the kick is there for: an idle cpu is woken for the first waiting task that may run
-- elsewhere, whatever scx_bpf_pick_idle_cpu answers.
def KicksFirst (s : Sched) (cpu : Nat) : Prop :=
  ∀ idle, kickIdleForWaiting idle cpu s = kickFor s ((firstMovable s cpu).bind idle)

-- No task bound to the cpu waits in front of that task in its own queue.
def MovableHead (s : Sched) (cpu : Nat) : Prop :=
  ∀ t, IsTier t → (∃ p ∈ tierQueue s cpu t, movable s p) →
    (∀ t', IsTier t' → t' < t → ∀ p ∈ tierQueue s cpu t', ¬ movable s p) →
    ∃ p ∈ (tierQueue s cpu t).head?, movable s p

-- The kick shows which cpu was picked.
theorem kickFor_inj {s : Sched} {a b : Option Nat} (h : kickFor s a = kickFor s b) : a = b := by
  have heffects := congrArg Sched.effects h
  cases a with
  | none =>
      cases b with
      | none => rfl
      | some b => simp [kickFor] at heffects
  | some a =>
      cases b with
      | none => simp [kickFor] at heffects
      | some b => simpa [kickFor] using heffects

section Kick

variable {s : Sched} {cpu : Nat}

theorem movableHead_iff :
    MovableHead s cpu ↔ Levels.BestHead (tiersUpTo DSQ_TYPE_GREEDY) (tierQueue s cpu) (movable s) := by
  unfold MovableHead Levels.BestHead
  simp only [mem_tiersUpTo_greedy]

-- The loops over the tiers and the queues look at the heads only.
theorem kickIdleForWaiting_eq (idle : Task → Option Nat) :
    kickIdleForWaiting idle cpu s = kickFor s
      ((Levels.firstHead (tiersUpTo DSQ_TYPE_GREEDY) (tierQueue s cpu) (movable s)).bind idle) := by
  have htiers : tiersUpTo DSQ_TYPE_GREEDY =
    [DSQ_TYPE_LC, DSQ_TYPE_INTERACTIVE, DSQ_TYPE_NORMAL, DSQ_TYPE_GREEDY] := rfl
  unfold kickIdleForWaiting
  dsimp only
  generalize hsearch : List.findSome? _ _ = found
  have hfound : Levels.firstHead (tiersUpTo DSQ_TYPE_GREEDY) (tierQueue s cpu) (movable s) = found := by
    rw [← hsearch, Levels.firstHead, htiers]
    congr 1
    funext tier
    unfold tierQueue movable
    cases s.dsq (getCpuDsqFromType tier cpu) with
    | nil => rfl
    | cons p rest => simp [Option.filter_some]
  rw [hfound]
  cases found with
  | none => rfl
  | some p =>
      rw [Option.bind_some]
      dsimp only
      cases idle p with
      | none => rfl
      | some c => rfl

-- Which task the search finds shows in the answers for that task and for the others.
theorem kicksFirst_iff : KicksFirst s cpu ↔
    Levels.firstHead (tiersUpTo DSQ_TYPE_GREEDY) (tierQueue s cpu) (movable s) = firstMovable s cpu := by
  constructor
  · intro h
    have hbind (idle : Task → Option Nat) :
        (Levels.firstHead (tiersUpTo DSQ_TYPE_GREEDY) (tierQueue s cpu) (movable s)).bind idle =
          (firstMovable s cpu).bind idle := by
      have hkick := h idle
      rw [kickIdleForWaiting_eq] at hkick
      exact kickFor_inj hkick
    simpa using hbind some
  · intro h idle
    rw [kickIdleForWaiting_eq, h]

theorem kickIdleForWaiting_cases (idle : Task → Option Nat) : kickIdleForWaiting idle cpu s = s ∨
    ∃ p ∈ waiting s cpu, movable s p ∧ ∃ c, idle p = some c ∧
      kickIdleForWaiting idle cpu s = s.emit (.kick c .idle) := by
  rw [kickIdleForWaiting_eq]
  cases hfound : Levels.firstHead (tiersUpTo DSQ_TYPE_GREEDY) (tierQueue s cpu) (movable s) with
  | none => exact Or.inl rfl
  | some p =>
      rw [Option.bind_some]
      cases hidle : idle p with
      | none => exact Or.inl rfl
      | some c =>
          obtain ⟨t, ht, hhead⟩ := List.exists_of_findSome?_eq_some hfound
          obtain ⟨hhead, hmovable⟩ := Option.filter_eq_some_iff.mp hhead
          have hmem : p ∈ waiting s cpu := Levels.mem_content.mpr ⟨t, ht, List.mem_of_mem_head? hhead⟩
          exact Or.inr ⟨p, hmem, hmovable, c, hidle, rfl⟩

end Kick

-- At most one cpu is woken, for a waiting task that may run elsewhere. It is the first of
-- these if none that is bound to the cpu waits in front of it in its queue, and where no
-- task waits twice, only then.
theorem kicks_first_waiting_iff (s : Sched) (cpu : Nat) :
    (MovableHead s cpu → KicksFirst s cpu) ∧
    ((waiting s cpu).Nodup → (KicksFirst s cpu ↔ MovableHead s cpu)) ∧
    ∀ idle, kickIdleForWaiting idle cpu s = s ∨
      ∃ p ∈ waiting s cpu, movable s p ∧ ∃ c, idle p = some c ∧
        kickIdleForWaiting idle cpu s = s.emit (.kick c .idle) := by
  have hsorted := tiersUpTo_sorted DSQ_TYPE_GREEDY
  rw [kicksFirst_iff, movableHead_iff]
  exact ⟨Levels.firstHead_eq hsorted, fun hnodup =>
    ⟨Levels.bestHead_of_firstHead hsorted hnodup, Levels.firstHead_eq hsorted⟩, kickIdleForWaiting_cases⟩

-- No task waits twice in a run of the kernel.
theorem Inv.waiting_nodup {m : Machine} {sys : Sys} (h : Inv m sys) {cpu : Nat} (hcpu : cpu < MAX_CPUS) :
    (waiting sys.sched cpu).Nodup :=
  (List.nodup_append.mp (h.workAhead_nodup hcpu DSQ_TYPE_GREEDY)).2.1

section Pinned

-- Task 1 is bound to cpu 0, and task 4 is an RT task.
def waitingTask (p : Task) : TaskStruct :=
  { TaskStruct.zeroed with
    pid := p
    policy := if p = 4 then SCHED_FIFO else 0
    nrCpusAllowed := if p = 1 then 1 else 2
    cpusPtr := fun cpu => cpu < if p = 1 then 1 else 2 }

def waitingBoot : Sys := .boot twoCpus 100000000 waitingTask

-- Task 2 moves to cpu 0 while task 3 keeps cpu 1 busy. A millisecond later cpu 1 has nothing
-- to do, and tasks 1 and 2 are woken up on cpu 0, in the given order.
def waitingRun (woken : List Task) : List Event :=
  let k (us proc : Nat) (current : Task) : Call := .task (200000000 + us * NS_PER_US) proc current
  [.initTask (k 0 0 0) 1, .initTask (k 0 0 0) 2, .initTask (k 0 0 0) 3] ++
    wakeUp (k 0 1 0) 3 1 ++ pickNext (k 0 1 0) 3 ++
    [.runnable (k 1 1 3) 2 true 1, .enqueue (k 1 1 3) 2 ⟨true, false⟩ ⟨some 0, 0⟩] ++
    pickNext (k 2 0 0) 2 ++ goToSleep (k 900 0 2) 2 ++ goToSleep (k 950 1 3) 3 ++
    [.dispatch (k 960 1 0) 1 none fun _ => 0] ++ woken.flatMap fun p => wakeUp (k 1000 0 0) p 0

def waitingSys (woken : List Task) : Sys := (lunarSys twoCpus).final waitingBoot (waitingRun woken)

-- The RT task takes cpu 0, with cpu 1 idle.
def rtTakesCpu : Event := .schedSwitch (.task 201000000 0 0) 4 fun _ => some 1

theorem kicks_first_waiting_inFront : KicksFirst (waitingSys [2, 1]).sched 0 ∧
    ((lunarSys twoCpus).exec (waitingSys [2, 1]) rtTakesCpu).sched.effects =
      .kick 1 .idle :: (waitingSys [2, 1]).sched.effects := by
  have hstart : Sys.Start twoCpus waitingBoot := Sys.start_boot twoCpus (by decide) fun _ => rfl
  have hreach : (lunarSys twoCpus).Reaches waitingBoot (waitingSys [2, 1]) :=
    ⟨waitingRun [2, 1], by decide +kernel, rfl⟩
  have hnodup := (Inv.reaches hstart hreach).waiting_nodup (show 0 < MAX_CPUS by decide)
  have hqueue : ∀ t < 5, 0 < t →
      tierQueue (waitingSys [2, 1]).sched 0 t = if t = DSQ_TYPE_GREEDY then [2, 1] else [] := by
    decide +kernel
  have hhead : MovableHead (waitingSys [2, 1]).sched 0 := by
    intro t ht hsome _
    rw [hqueue t (Nat.lt_succ_of_le ht.2) ht.1] at hsome ⊢
    split_ifs at hsome ⊢ with hgreedy
    · exact ⟨2, rfl, by decide +kernel⟩
    · simp at hsome
  exact ⟨((kicks_first_waiting_iff _ _).2.1 hnodup).mpr hhead, by decide +kernel⟩

-- Task 2 may run on cpu 1, but waits behind task 1, and cpu 1 is left idle.
theorem kicks_nobody_behind_pinned : ∃ sys, Sys.Start twoCpus waitingBoot ∧
    (lunarSys twoCpus).Reaches waitingBoot sys ∧ (lunarSys twoCpus).enabled sys rtTakesCpu ∧
    waiting sys.sched 0 = [1, 2] ∧ firstMovable sys.sched 0 = some 2 ∧
    ((lunarSys twoCpus).exec sys rtTakesCpu).sched.effects = sys.sched.effects ∧
    ¬KicksFirst sys.sched 0 := by
  have hreach : (lunarSys twoCpus).Reaches waitingBoot (waitingSys [1, 2]) :=
    ⟨waitingRun [1, 2], by decide +kernel, rfl⟩
  have hfirst : firstMovable (waitingSys [1, 2]).sched 0 = some 2 := by decide +kernel
  refine ⟨waitingSys [1, 2], Sys.start_boot twoCpus (by decide) fun _ => rfl, hreach, by decide +kernel,
    by decide +kernel, hfirst, by decide +kernel, fun h => ?_⟩
  have hkick := kicksFirst_iff.mp h
  rw [hfirst] at hkick
  exact absurd hkick (by decide +kernel)

end Pinned

end Lunar
