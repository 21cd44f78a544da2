import Lunar.Kernel.Life

namespace Lunar

-- The slice a running task was last given.
structure Grant where
  since : Nat
  slice : Nat
  -- a dispatch at a later moment found another task to run
  interrupted : Bool
deriving DecidableEq, Repr

def noGrants (_ : Task) : Grant := ⟨0, 0, false⟩

-- Slices are given by running(), and by a dispatch that lets the task go on.
def watchGrants (grants : Task → Grant) (sys : Sys) (event : Event) (sys' : Sys) : Task → Grant :=
  match event with
  | .running k p => Function.update grants p ⟨k.now, (sys.sched.task p).slice, false⟩
  | .dispatch k cpu _ _ =>
      match sys.onCpu cpu with
      | none => grants
      | some p =>
          Function.update grants p
            (if (sys'.sched.task p).slice ≠ 0 then ⟨k.now, (sys'.sched.task p).slice, false⟩
            else { grants p with
              interrupted := (grants p).interrupted || decide ((grants p).since < k.now) })
  | _ => grants

theorem watchGrants_same {grants : Task → Grant} {sys sys' : Sys} {event : Event} {p : Task}
    (h : event.subject sys ≠ some p) : watchGrants grants sys event sys' p = grants p := by
  cases event with
  | running k q =>
      have hp : p ≠ q := fun he => h (by rw [he]; rfl)
      exact Function.update_of_ne hp _ _
  | dispatch k cpu prev rnd =>
      cases hq : sys.onCpu cpu with
      | none => simp only [watchGrants, hq]
      | some q =>
          have hp : p ≠ q := fun he => h (by rw [he]; exact hq)
          simp only [watchGrants, hq, Function.update_of_ne hp]
  | _ => rfl

theorem watchGrants_replaced (grants : Task → Grant) {sys sys' : Sys} {k : Call} {cpu : Nat}
    {prev : Option Task} {rnd : Nat → Nat} {p : Task} (honCpu : sys.onCpu cpu = some p)
    (hslice : (sys'.sched.task p).slice = 0) :
    watchGrants grants sys (.dispatch k cpu prev rnd) sys' p = { grants p with
      interrupted := (grants p).interrupted || decide ((grants p).since < k.now) } := by
  simp [watchGrants, honCpu, hslice]

theorem watchGrants_continued (grants : Task → Grant) {sys sys' : Sys} {k : Call} {cpu : Nat}
    {prev : Option Task} {rnd : Nat → Nat} {p : Task} (honCpu : sys.onCpu cpu = some p)
    (hslice : (sys'.sched.task p).slice = SLICE_NS) :
    watchGrants grants sys (.dispatch k cpu prev rnd) sys' p = ⟨k.now, SLICE_NS, false⟩ := by
  simp only [watchGrants, honCpu, hslice, Function.update_self]
  exact if_pos (by decide)

theorem watchGrants_running (grants : Task → Grant) {sys sys' : Sys} {k : Call} {p : Task} :
    watchGrants grants sys (.running k p) sys' p = ⟨k.now, (sys.sched.task p).slice, false⟩ :=
  Function.update_self ..

-- The phases in which a resume_slice can be left from an earlier preemption: lunar_enqueue
-- and lunar_quiescent take it away, but the kernel can let the task run again without them.
def Phase.holdsToken : Phase → Bool
  | .queued | .running | .stopped | .leaving => true
  | _ => false

-- The slice a task runs in, in every state that can be reached.
structure SliceOk (life : Life) (grant : Grant) (clock : Nat) : Prop where
  resume : life.view.resumeSlice ≠ 0 → life.phase.holdsToken
  granted : life.phase = .running → life.view.grantedSlice = grant.slice
  started : life.phase = .running → grant.since ≤ life.view.startedAt ∧
    life.view.startedAt ≤ clock ∧ (grant.interrupted ↔ grant.since < life.view.startedAt)

namespace SliceOk

variable {m : Machine} {sys sys' : Sys} {grants : Task → Grant} {event : Event} {p : Task}
  {life life' : Life} {grant grant' : Grant} {clock clock' : Nat}

theorem start (h : Sys.Start m sys) (p : Task) (grant : Grant) :
    SliceOk (sys.life p) grant sys.clock := by
  obtain ⟨s, now, hsched, -, hctx, -, -⟩ := h.sched
  have hresume : (sys.life p).view.resumeSlice = 0 := by
    simp [Sys.life, Sched.view, hsched, (lunarInit_spec m now s).taskCtxStore, hctx]
  have hphase : (sys.life p).phase = .none := h.phase p
  exact ⟨fun hr => absurd hresume hr, by simp [hphase], by simp [hphase]⟩

theorem later (h : SliceOk life grant clock) (hle : clock ≤ clock') : SliceOk life grant clock' :=
  ⟨h.resume, h.granted, fun hp =>
    ⟨(h.started hp).1, Nat.le_trans (h.started hp).2.1 hle, (h.started hp).2.2⟩⟩

theorem resume_zero (h : SliceOk life grant clock) (hphase : life.phase.holdsToken = false) :
    life.view.resumeSlice = 0 := by
  by_contra hr
  simp [h.resume hr] at hphase

-- A task that does not run afterwards.
theorem off (hphase : life'.phase ≠ .running)
    (hresume : life'.view.resumeSlice ≠ 0 → life'.phase.holdsToken) : SliceOk life' grant' clock' :=
  ⟨hresume, fun hp => absurd hp hphase, fun hp => absurd hp hphase⟩

-- One that has no slice to get back either.
theorem off_zero (hphase : life'.phase ≠ .running) (hresume : life'.view.resumeSlice = 0) :
    SliceOk life' grant' clock' :=
  off hphase fun hr => absurd hresume hr

theorem boosted_resume {s : Sched} {v v' : TaskView} (hv : Boosted s v v') :
    v'.resumeSlice = v.resumeSlice := by
  rcases hv with rfl | ⟨w, -, rfl⟩
  · rfl
  · rfl

-- A dispatch finds another task, and lunar_dispatch has accounted for p.
theorem replaced (h : SliceOk life grant clock) (hphase : life.phase = .running)
    (hclock : clock ≤ clock') (pending : Bool) (used tier : Nat) (charges : List (Nat × Nat)) :
    SliceOk { life with view := life.view.accounted pending used clock' tier, charges := charges }
      { grant with interrupted := grant.interrupted || decide (grant.since < clock') } clock' := by
  obtain ⟨hsince, hstarted, hinterrupted⟩ := h.started hphase
  refine ⟨h.resume, h.granted, fun _ => ⟨by dsimp only [TaskView.accounted]; omega, Nat.le_refl _, ?_⟩⟩
  simp only [TaskView.accounted, Bool.or_eq_true, decide_eq_true_eq]
  constructor
  · rintro (hi | hlt)
    · exact Nat.lt_of_lt_of_le (hinterrupted.mp hi) (by omega)
    · exact hlt
  · exact Or.inr

-- A dispatch lets p go on.
theorem continued (h : SliceOk life grant clock) (pending : Bool) (used tier tier' : Nat)
    (charges : List (Nat × Nat)) :
    SliceOk { life with
      view := (life.view.accounted pending used clock' tier).continued tier'
      slice := SLICE_NS
      charges := charges } ⟨clock', SLICE_NS, false⟩ clock' :=
  ⟨h.resume, fun _ => rfl,
    fun _ => ⟨Nat.le_refl _, Nat.le_refl _, by simp [TaskView.continued, TaskView.accounted]⟩⟩

theorem running (life : Life) (slice clock : Nat) :
    SliceOk { life with
      phase := .running
      view := { life.view with startedAt := clock, grantedSlice := slice } } ⟨clock, slice, false⟩ clock :=
  ⟨fun _ => rfl, fun _ => rfl, fun _ => ⟨Nat.le_refl _, Nat.le_refl _, by simp⟩⟩

theorem step (grants : Task → Grant) (h : SliceOk (sys.life p) (grants p) sys.clock)
    (hl : LifeStep sys p (sys'.life p) event) (hclock : sys.clock ≤ sys'.clock)
    (htime : sys'.clock = event.time sys.clock) :
    SliceOk (sys'.life p) (watchGrants grants sys event sys' p) sys'.clock := by
  cases hl with
  | same hsubject h' =>
      rw [h', watchGrants_same hsubject]
      exact h.later hclock
  | initTask hphase h' _ hresume _ =>
      rw [h']
      exact off_zero (by simp) hresume
  | selectCpu hphase h' hv hslice =>
      rw [h']
      refine off_zero (by simp [Sys.life, hphase]) ((boosted_resume hv).trans ?_)
      exact h.resume_zero (by simp [Sys.life, hphase, Phase.holdsToken])
  | runnable hphase h' =>
      rw [h']
      exact off_zero (by simp) (h.resume_zero (by simp [Sys.life, hphase, Phase.holdsToken]))
  | enqueue _ _ _ _ h' =>
      rw [h']
      exact off_zero (by simp) rfl
  | enqueueLocal _ h' =>
      rw [h']
      exact off (by simp) fun _ => rfl
  | insertDirect _ _ h' =>
      rw [h']
      exact off (by simp) fun _ => rfl
  | restore _ h' =>
      rw [h']
      exact off (by simp) fun _ => rfl
  | putBack _ _ h' =>
      rw [h']
      exact off (by simp) fun _ => rfl
  | consumeSlice _ _ h' =>
      rw [h']
      have hlater := h.later hclock
      exact ⟨hlater.resume, hlater.granted, hlater.started⟩
  | @replaced k cpu _ _ _ honCpu hphase hslice h' =>
      have hnow : sys'.clock = k.now := htime
      have hkept : (sys'.sched.task p).slice = 0 := (congrArg Life.slice h').trans hslice
      rw [watchGrants_replaced grants honCpu hkept, h', ← hnow]
      exact h.replaced hphase hclock _ _ _ _
  | @continued k cpu _ _ _ _ honCpu hphase hslice h' =>
      have hnow : sys'.clock = k.now := htime
      have hgiven : (sys'.sched.task p).slice = SLICE_NS := congrArg Life.slice h'
      rw [watchGrants_continued grants honCpu hgiven, h', ← hnow]
      exact h.continued _ _ _ _ _
  | @running k hphase h' =>
      have hnow : sys'.clock = k.now := htime
      rw [watchGrants_running grants, h', ← hnow]
      exact running (sys.life p) (sys.sched.task p).slice sys'.clock
  | @stopping k runnable tier hphase h' =>
      rw [h']
      cases runnable
      · exact off (by simp) fun _ => rfl
      · exact off (by simp) fun _ => rfl
  | quiescent hphase _ h' =>
      rw [h']
      exact off_zero (by simp) rfl

end SliceOk

-- lunar_stopping gives back what it takes for the rest of the slice: a preemption is
-- pending, its kick has taken the slice, and more than RESUME_SLICE_MIN_NS seems left.
def GivesBack (sys : Sys) (now : Nat) (p : Task) : Prop :=
  sys.pending p ∧ (sys.sched.task p).slice = 0 ∧
    elapsed now (sys.sched.view p).startedAt + RESUME_SLICE_MIN_NS < (sys.sched.view p).grantedSlice

instance (sys : Sys) (now : Nat) (p : Task) : Decidable (GivesBack sys now p) :=
  inferInstanceAs (Decidable (_ ∧ _))

section Preempted

-- Task 2 is a kernel thread.
def oneCpuTask (p : Task) : TaskStruct :=
  { TaskStruct.zeroed with
    pid := p
    kthread := p = 2
    nrCpusAllowed := 1
    cpusPtr := fun cpu => cpu = 0 }

def oneCpuBoot : Sys := .boot oneCpu 10 oneCpuTask

-- Task 2 wakes thirteen tasks and goes to sleep. When it is woken up after 100 ms it
-- is LC.
def becomesLc (now : Nat) : List Event :=
  .initTask (.task now 0 0) 2 :: wakeUp (.task now 0 0) 2 0 ++ pickNext (.task now 0 0) 2 ++
    (List.range 13).flatMap (fun i =>
      [.initTask (.task now 0 2) (10 + i), .runnable (.task now 0 2) (10 + i) true 0]) ++
    goToSleep (.task now 0 2) 2

-- Task 1 runs, and after 900 us of its slice task 2 preempts it.
def preempted : List Event :=
  becomesLc 10 ++ .initTask (.task 50 0 0) 1 :: wakeUp (.task 100000000 0 0) 1 0 ++
    pickNext (.task 100000000 0 0) 1 ++ wakeUp (.task 100900000 0 0) 2 0 ++ [.consumeSlice 1 0]

-- Where the switch is made.
def preemptingCall : Call := .task 100900000 0 1

-- The kernel asks lunar what to run next.
def preemptedByDispatch : List Event :=
  preempted ++ [.dispatch preemptingCall 0 (some 1) fun _ => 0]

end Preempted

end Lunar
