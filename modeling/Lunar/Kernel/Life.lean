import Lunar.Kernel.Invariant

namespace Lunar

-- All of the state that is about one task, but for the place it is in.
@[ext]
structure Life where
  phase : Phase
  view : TaskView
  slice : Nat
  ddsp : Bool
  charges : List (Nat × Nat)

def Sys.life (sys : Sys) (p : Task) : Life where
  phase := sys.phase p
  view := sys.sched.view p
  slice := (sys.sched.task p).slice
  ddsp := (sys.sched.task p).ddspLocal
  charges := sys.sched.charges p

-- The task whose life an event is part of. The next task of a dispatch is not: it only
-- changes its place.
def Event.subject (sys : Sys) : Event → Option Task
  | .initTask _ p | .selectCpu _ p _ _ | .runnable _ p _ _ | .enqueue _ p _ _ | .enqueueLocal p _
  | .insertDirect p | .restore p | .putBack p | .consumeSlice p _ | .running _ p | .stopping _ p _
  | .quiescent _ p _ => some p
  | .dispatch _ cpu _ _ => sys.onCpu cpu
  | .setAttributes _ _ | .schedSwitch _ _ _ => none

-- The view of a prev that goes on.
def TaskView.continued (v : TaskView) (tier : Nat) : TaskView :=
  { v with
    tier := tier
    boost := if v.boost ≠ DSQ_TYPE_EMPTY ∧ WAKE_BOOST_BUDGET_NS ≤ v.boostUsed then DSQ_TYPE_EMPTY
      else v.boost
    grantedSlice := SLICE_NS }

-- preempt_pending of the cpu of a task
def Sys.pending (sys : Sys) (p : Task) : Bool := (sys.sched.dispatchState (sys.cpuOf p)).preemptPending

-- What an event does to the life of p, and when it can.
inductive LifeStep (sys : Sys) (p : Task) (life' : Life) : Event → Prop where
  | same {event : Event} (hsubject : event.subject sys ≠ some p) (h : life' = sys.life p) :
      LifeStep sys p life' event
  | initTask {k : Call} {v : TaskView} (hphase : sys.phase p = .none)
      (h : life' = { sys.life p with phase := .dequeued .sleep, view := v })
      (hboost : v.boost = DSQ_TYPE_EMPTY) (hresume : v.resumeSlice = 0)
      (hblocked : v.blockedAt = (sys.sched.view p).blockedAt) :
      LifeStep sys p life' (.initTask k p)
  | selectCpu {k : Call} {ttwu : Bool} {dfl : Nat × Bool} {v : TaskView} {slice : Nat} {ddsp : Bool}
      (hphase : sys.phase p = .dequeued .sleep)
      (h : life' = { sys.life p with view := v, slice := slice, ddsp := ddsp })
      (hv : Boosted sys.sched (sys.sched.view p) v)
      (hslice : ddsp = (sys.life p).ddsp ∧ slice = (sys.life p).slice ∨ slice = SLICE_NS) :
      LifeStep sys p life' (.selectCpu k p ttwu dfl)
  | runnable {k : Call} {wakeup : Bool} {cpu : Nat} {origin : Origin} {tier : Nat}
      (hphase : sys.phase p = .dequeued origin)
      (h : life' = { sys.life p with
        phase := .runnable origin
        view := { sys.sched.view p with tier := tier, blockedAt := 0 }
        charges := if (sys.sched.view p).blockedAt ≠ 0 then
            (0, elapsed k.now (sys.sched.view p).blockedAt) :: sys.sched.charges p
          else sys.sched.charges p }) :
      LifeStep sys p life' (.runnable k p wakeup cpu)
  | enqueue {k : Call} {flags : EnqFlags} {env : PickEnv} {v : TaskView} {slice : Nat}
      (hphase : (sys.phase p = .runnable .sleep ∨ sys.phase p = .runnable .waiting) ∨
        sys.phase p = .stopped ∧ (sys.sched.task p).slice = 0 ∨ sys.phase p = .queued)
      (hv : Boosted sys.sched (sys.sched.view p) v)
      (hsame : sys.phase p ≠ .runnable .sleep → v = sys.sched.view p)
      (hslice : v.resumeSlice ≠ 0 ∧ slice = v.resumeSlice ∧ cpuTakenByRt sys.sched (sys.cpuOf p) = false ∨
        (v.resumeSlice = 0 ∨ cpuTakenByRt sys.sched (sys.cpuOf p)) ∧ slice = SLICE_NS)
      (h : life' = { sys.life p with
        phase := .queued, view := { v with resumeSlice := 0 }, slice := slice }) :
      LifeStep sys p life' (.enqueue k p flags env)
  | enqueueLocal {slice : Nat}
      (hphase : (sys.phase p = .runnable .sleep ∨ sys.phase p = .runnable .waiting) ∨
        sys.phase p = .stopped ∨ sys.phase p = .queued)
      (h : life' = { sys.life p with phase := .queued, slice := slice, ddsp := false }) :
      LifeStep sys p life' (.enqueueLocal p slice)
  | insertDirect (hphase : sys.phase p = .runnable .sleep ∨ sys.phase p = .runnable .waiting)
      (hddsp : (sys.sched.task p).ddspLocal)
      (h : life' = { sys.life p with phase := .queued, ddsp := false }) :
      LifeStep sys p life' (.insertDirect p)
  | restore (hphase : sys.phase p = .runnable .running)
      (h : life' = { sys.life p with phase := .queued, ddsp := false }) :
      LifeStep sys p life' (.restore p)
  | putBack (hphase : sys.phase p = .stopped) (hslice : (sys.sched.task p).slice ≠ 0)
      (h : life' = { sys.life p with phase := .queued, ddsp := false }) :
      LifeStep sys p life' (.putBack p)
  | consumeSlice {left : Nat} (hphase : sys.phase p = .running)
      (hleft : left ≤ (sys.sched.task p).slice) (h : life' = { sys.life p with slice := left }) :
      LifeStep sys p life' (.consumeSlice p left)
  -- a dispatch finds another task
  | replaced {k : Call} {cpu : Nat} {prev : Option Task} {rnd : Nat → Nat} {tier : Nat}
      (honCpu : sys.onCpu cpu = some p) (hphase : sys.phase p = .running)
      (hslice : (sys.sched.task p).slice = 0)
      (h : life' = { sys.life p with
        view := (sys.sched.view p).accounted (sys.pending p)
          (elapsed k.now (sys.sched.view p).startedAt) k.now tier
        charges := (elapsed k.now (sys.sched.view p).startedAt, 0) :: sys.sched.charges p }) :
      LifeStep sys p life' (.dispatch k cpu prev rnd)
  -- a dispatch lets p go on
  | continued {k : Call} {cpu : Nat} {prev : Option Task} {rnd : Nat → Nat} {tier tier' : Nat}
      (honCpu : sys.onCpu cpu = some p) (hphase : sys.phase p = .running)
      (hslice : (sys.sched.task p).slice = 0)
      (h : life' = { sys.life p with
        view := ((sys.sched.view p).accounted (sys.pending p)
          (elapsed k.now (sys.sched.view p).startedAt) k.now tier).continued tier'
        slice := SLICE_NS
        charges := (elapsed k.now (sys.sched.view p).startedAt, 0) :: sys.sched.charges p }) :
      LifeStep sys p life' (.dispatch k cpu prev rnd)
  | running {k : Call} (hphase : sys.phase p = .queued)
      (h : life' = { sys.life p with
        phase := .running
        view := { sys.sched.view p with startedAt := k.now, grantedSlice := (sys.sched.task p).slice } }) :
      LifeStep sys p life' (.running k p)
  | stopping {k : Call} {runnable : Bool} {tier : Nat} (hphase : sys.phase p = .running)
      (h : life' = { sys.life p with
        phase := if runnable then .stopped else .leaving
        view := (sys.sched.view p).stopped (sys.sched.task p) runnable (sys.pending p)
          (elapsed k.now (sys.sched.view p).startedAt) tier
        charges := (elapsed k.now (sys.sched.view p).startedAt, 0) :: sys.sched.charges p }) :
      LifeStep sys p life' (.stopping k p runnable)
  | quiescent {k : Call} {sleep : Bool} {tier : Nat} {origin : Origin}
      (hphase : sys.phase p = .leaving ∨ sys.phase p = .queued)
      (horigin : origin = if sleep then .sleep else if sys.phase p = .leaving then .running else .waiting)
      (h : life' = { sys.life p with
        phase := .dequeued origin
        view := { sys.sched.view p with
          tier := tier
          boost := DSQ_TYPE_EMPTY
          resumeSlice := 0
          blockedAt := if sleep then k.now else 0 } }) :
      LifeStep sys p life' (.quiescent k p sleep)

namespace Changed

variable {sys sys' : Sys} {p q : Task} {phase : Phase} {v : TaskView} {task : TaskStruct}

theorem life_self (h : Changed sys sys' p phase v task) :
    sys'.life p = ⟨phase, v, task.slice, task.ddspLocal, sys'.sched.charges p⟩ := by
  simp [Sys.life, h.phase, h.view, h.task]

theorem life_other (h : Changed sys sys' p phase v task) (hq : q ≠ p)
    (hcharges : sys'.sched.charges q = sys.sched.charges q) : sys'.life q = sys.life q := by
  simp [Sys.life, h.phase, h.view, h.task, hq, hcharges]

-- An event of p, by what it does to p.
theorem lifeStep {event : Event} {charges : List (Nat × Nat)} (h : Changed sys sys' p phase v task)
    (hsubject : event.subject sys = some p) (hself : sys'.sched.charges p = charges)
    (hother : ∀ q ≠ p, sys'.sched.charges q = sys.sched.charges q)
    (hstep : LifeStep sys p ⟨phase, v, task.slice, task.ddspLocal, charges⟩ event) (q : Task) :
    LifeStep sys q (sys'.life q) event := by
  by_cases hq : q = p
  · subst hq
    rw [h.life_self, hself]
    exact hstep
  · refine .same ?_ (h.life_other hq (hother q hq))
    rw [hsubject]
    simpa using Ne.symm hq

-- The same if nothing is accounted for.
theorem lifeStep_quiet {event : Event} (h : Changed sys sys' p phase v task)
    (hsubject : event.subject sys = some p) (haccounts : sys'.sched.accounts = sys.sched.accounts)
    (hstep : LifeStep sys p ⟨phase, v, task.slice, task.ddspLocal, sys.sched.charges p⟩ event)
    (q : Task) : LifeStep sys q (sys'.life q) event :=
  h.lifeStep hsubject (Sched.charges_congr haccounts) (fun _ _ => Sched.charges_congr haccounts) hstep q

end Changed

-- The running task of a dispatch. s1 is the state in which it is accounted for.
theorem Accounted.life {m : Machine} {sys : Sys} {k : Call} {cpu tier : Nat} {p : Task} {s1 : Sched}
    (hinv : Inv m sys) (hp : sys.onCpu cpu = some p) (hacc : Accounted k cpu p tier sys.sched s1) :
    s1.view p = (sys.sched.view p).accounted (sys.pending p)
        (elapsed k.now (sys.sched.view p).startedAt) k.now tier ∧
      s1.charges p = (elapsed k.now (sys.sched.view p).startedAt, 0) :: sys.sched.charges p := by
  have hcpu : sys.cpuOf p = cpu := ((hinv.onCpu cpu p).mp hp).2
  constructor
  · rw [hacc.view, Function.update_self, Sys.pending, hcpu]
  · exact Sched.charges_self (Sched.accounts_emit sys.sched p _ _ rfl hacc.effects)

theorem Accounted.life_other {k : Call} {cpu tier : Nat} {p q : Task} {s s1 : Sched}
    (hacc : Accounted k cpu p tier s s1) (hq : q ≠ p) :
    s1.view q = s.view q ∧ s1.charges q = s.charges q := by
  constructor
  · rw [hacc.view, Function.update_of_ne hq]
  · exact Sched.charges_other (Sched.accounts_emit s p _ _ rfl hacc.effects) hq

-- The task that a dispatch moves changes its cpu and nothing else.
theorem Moved.slice {m : Machine} {s s' : Sched} {cpu t c now : Nat} {q : Task}
    (h : Moved m s cpu t c now q s') (p : Task) :
    (s'.task p).slice = (s.task p).slice ∧ (s'.task p).ddspLocal = (s.task p).ddspLocal := by
  have htask : s'.task = Function.update s.task q { s.task q with cpu := cpu } := h.task
  rw [htask, Function.update_apply]
  split_ifs with hp
  · rw [hp]
    exact ⟨rfl, rfl⟩
  · exact ⟨rfl, rfl⟩

theorem DispatchStep.life {m : Machine} {sys sys' : Sys} {k : Call} {cpu : Nat} {prev : Option Task}
    {rnd : Nat → Nat} {path : OverridePath} (hs : DispatchStep m k cpu path sys sys') (hinv : Inv m sys)
    (hphase : sys'.phase = sys.phase) (p : Task) :
    LifeStep sys p (sys'.life p) (.dispatch k cpu prev rnd) := by
  cases hs with
  | idle hidle hd _ =>
      refine .same (by simp [Event.subject, hidle]) ?_
      have hview := congrFun (Sched.view_congr hd.sameOutside.taskCtxStore) p
      have hcharges : sys'.sched.charges p = sys.sched.charges p :=
        Sched.charges_congr (Sched.accounts_congr hd.sameOutside.effects)
      have htask : (sys'.sched.task p).slice = (sys.sched.task p).slice ∧
          (sys'.sched.task p).ddspLocal = (sys.sched.task p).ddspLocal := by
        rcases hd.moved_or_unmoved with ⟨c, q, hm⟩ | ⟨-, hu⟩
        · exact hm.slice p
        · rw [hu.task]
          exact ⟨rfl, rfl⟩
      simp only [Sys.life, hphase, hview, hcharges, htask]
  | @replaced r q tier _ _ s1 hr hslice hacc hd hm _ =>
      have hview := congrFun (Sched.view_congr hd.sameOutside.taskCtxStore) p
      have hcharges : sys'.sched.charges p = s1.charges p :=
        Sched.charges_congr (Sched.accounts_congr hd.sameOutside.effects)
      have htask := hm.slice p
      rw [hacc.task] at htask
      by_cases hp : p = r
      · subst hp
        obtain ⟨hv, hc⟩ := hacc.life hinv hr
        rw [hv] at hview
        rw [hc] at hcharges
        exact .replaced hr ((hinv.onCpu cpu p).mp hr).1 hslice
          (Life.ext (congrFun hphase p) hview htask.1 htask.2 hcharges)
      · obtain ⟨hv, hc⟩ := hacc.life_other hp
        refine .same (by simpa [Event.subject, hr] using Ne.symm hp) ?_
        simp only [Sys.life, hphase, hview, hcharges, htask, hv, hc]
  | @continued r tier tier' s1 hr hslice hacc _ hc _ =>
      have hcharges : sys'.sched.charges p = s1.charges p := Sched.charges_congr hc.accounts
      by_cases hp : p = r
      · subst hp
        obtain ⟨hv, hcs⟩ := hacc.life hinv hr
        have hview : sys'.sched.view p = (s1.view p).continued tier' := by
          rw [hc.view, Function.update_self]
          rfl
        rw [hv] at hview
        rw [hcs] at hcharges
        have htask : sys'.sched.task p = { sys.sched.task p with slice := SLICE_NS } := by
          rw [hc.task, Function.update_self, hacc.task]
        exact .continued hr ((hinv.onCpu cpu p).mp hr).1 hslice
          (Life.ext (congrFun hphase p) hview (by simp [Sys.life, htask]) (by simp [Sys.life, htask])
            hcharges)
      · obtain ⟨hv, hcs⟩ := hacc.life_other hp
        refine .same (by simpa [Event.subject, hr] using Ne.symm hp) ?_
        simp only [Sys.life, hphase, hc.view, hc.task, hcharges, Function.update_of_ne hp, hv, hcs,
          hacc.task]

theorem Step.life {m : Machine} {sys sys' : Sys} {event : Event} (hs : Step m sys sys' event)
    (hinv : Inv m sys) (q : Task) : LifeStep sys q (sys'.life q) event := by
  cases hs with
  | initTask hphase h _ hqueues _ hboost hresume hblocked =>
      exact h.lifeStep_quiet rfl hqueues.accounts (.initTask hphase rfl hboost hresume hblocked) q
  | @setAttributes p _ hphase h _ hqueues =>
      have hcharges (r : Task) := Sched.charges_congr (p := r) hqueues.accounts
      refine .same (by simp [Event.subject]) ?_
      by_cases hq : q = p
      · subst hq
        rw [h.life_self, hcharges]
        rfl
      · exact h.life_other hq (hcharges q)
  | selectCpu hphase h _ hqueues hv htask =>
      exact h.lifeStep_quiet rfl hqueues.accounts (.selectCpu hphase (by rw [← hphase]; rfl) hv htask) q
  | @runnable k p _ _ _ _ hphase _ h _ _ haccounts =>
      have hself : sys'.sched.charges p = if (sys.sched.view p).blockedAt ≠ 0 then
          (0, elapsed k.now (sys.sched.view p).blockedAt) :: sys.sched.charges p
          else sys.sched.charges p := by
        split_ifs at haccounts ⊢
        · exact Sched.charges_self haccounts
        · exact Sched.charges_congr haccounts
      refine h.lifeStep rfl hself (fun r hr => ?_) (.runnable hphase rfl) q
      split_ifs at haccounts
      · exact Sched.charges_other haccounts hr
      · exact Sched.charges_congr haccounts
  | enqueue hphase hv hsame _ hslice h _ _ henq =>
      refine h.lifeStep_quiet rfl henq.accounts (.enqueue ?_ hv hsame hslice rfl) q
      rcases hphase with hp | hp | ⟨hp, -⟩
      · exact Or.inl hp
      · exact Or.inr (Or.inl hp)
      · exact Or.inr (Or.inr hp)
  | enqueueLocal hphase h _ _ haccounts =>
      exact h.lifeStep_quiet rfl haccounts
        (.enqueueLocal (hphase.imp_right fun hp => hp.imp_right And.left) rfl) q
  | insertDirect hphase hddsp h =>
      exact h.changed.lifeStep_quiet rfl h.accounts (.insertDirect hphase hddsp rfl) q
  | restore hphase h => exact h.changed.lifeStep_quiet rfl h.accounts (.restore hphase rfl) q
  | putBack hphase hslice h =>
      exact h.changed.lifeStep_quiet rfl h.accounts (.putBack hphase hslice rfl) q
  | consumeSlice hphase hleft h _ hqueues =>
      exact h.lifeStep_quiet rfl hqueues.accounts
        (.consumeSlice hphase hleft (by rw [← hphase]; rfl)) q
  | dispatch _ _ _ hphase _ hd => exact hd.life hinv hphase q
  | running _ _ hphase _ h _ _ _ _ haccounts =>
      exact h.lifeStep_quiet rfl haccounts (.running hphase rfl) q
  | stopping hphase h _ _ _ _ haccounts =>
      exact h.lifeStep rfl (Sched.charges_self haccounts)
        (fun _ hr => Sched.charges_other haccounts hr) (.stopping hphase rfl) q
  | quiescent hphase horigin h _ _ haccounts =>
      exact h.lifeStep_quiet rfl haccounts (.quiescent hphase horigin rfl) q
  | schedSwitch hphase _ _ hrt =>
      refine .same (by simp [Event.subject]) ?_
      simp only [Sys.life, hphase, hrt.view, hrt.task, Sched.charges_congr hrt.accounts]

end Lunar
