import Lunar.Kernel.Limits

namespace Lunar

-- Boosted tasks. A task that runs boosted can still use up its slice, so the rest of
-- the slice counts as well.
structure BoostOk (limit : Nat) (life : Life) (grant : Grant) (ran clock : Nat) : Prop where
  bound : ran ≤ WAKE_BOOST_BUDGET_NS + limit
  off : life.view.boost ≠ DSQ_TYPE_EMPTY → life.phase ≠ .running → ran = life.view.boostUsed
  on : life.view.boost ≠ DSQ_TYPE_EMPTY → life.phase = .running →
    ran + life.view.startedAt = life.view.boostUsed + clock ∧
      ran + grant.slice + grant.since ≤ WAKE_BOOST_BUDGET_NS + limit + clock
  woken : life.view.boost ≠ DSQ_TYPE_EMPTY →
    (life.phase = .none ∨ (∃ origin, life.phase = .dequeued origin) ∨
      ∃ origin, life.phase = .runnable origin) → life.view.boostUsed = 0
  queued : life.view.boost ≠ DSQ_TYPE_EMPTY → life.phase = .queued →
    life.view.boostUsed + life.slice ≤ WAKE_BOOST_BUDGET_NS + limit
  stopped : life.view.boost ≠ DSQ_TYPE_EMPTY → life.phase = .stopped →
    life.view.boostUsed + life.view.resumeSlice ≤ WAKE_BOOST_BUDGET_NS + limit ∧
      life.view.boostUsed + life.slice ≤ WAKE_BOOST_BUDGET_NS + limit

namespace BoostOk

variable {m : Machine} {sys sys' : Sys} {event : Event} {p : Task} {limit : Nat} {life life' : Life}
  {grant : Grant} {ran clock now : Nat}

-- A task that is not boosted.
theorem ended (hbound : ran ≤ WAKE_BOOST_BUDGET_NS + limit) (h : life.view.boost = DSQ_TYPE_EMPTY) :
    BoostOk limit life grant ran clock :=
  ⟨hbound, fun hb => absurd h hb, fun hb => absurd h hb, fun hb => absurd h hb, fun hb => absurd h hb,
    fun hb => absurd h hb⟩

theorem start (h : Sys.Start m sys) (p : Task) (grant : Grant) :
    BoostOk limit (sys.life p) grant 0 sys.clock := by
  obtain ⟨s, now, hsched, -, hctx, -, -⟩ := h.sched
  exact ended (Nat.zero_le _)
    (by simp [Sys.life, Sched.view, hsched, (lunarInit_spec m now s).taskCtxStore, hctx])

-- Time passes before the event.
theorem tick (h : BoostOk limit life grant ran clock) (hclock : clock ≤ now)
    (hslice : life.phase = .running → now ≤ grant.since + grant.slice) :
    BoostOk limit life grant (if life.view.boost = DSQ_TYPE_EMPTY then 0
      else ran + if life.phase = .running then now - clock else 0) now := by
  by_cases hb : life.view.boost = DSQ_TYPE_EMPTY
  · exact ended (by simp [hb]) hb
  by_cases hp : life.phase = .running
  · have hon := h.on hb hp
    have hend := hslice hp
    simp only [hb, hp, if_true, if_false]
    refine ⟨by omega, fun _ hn => absurd hp hn, fun _ _ => by omega, h.woken, h.queued, h.stopped⟩
  · simp only [hb, hp, if_false, Nat.add_zero]
    exact ⟨h.bound, h.off, fun _ hr => absurd hr hp, h.woken, h.queued, h.stopped⟩

-- A task that waits.
theorem waiting (hbound : ran ≤ WAKE_BOOST_BUDGET_NS + limit) (hphase : life.phase = .queued)
    (h : life.view.boost ≠ DSQ_TYPE_EMPTY → ran = life.view.boostUsed ∧
      life.view.boostUsed + life.slice ≤ WAKE_BOOST_BUDGET_NS + limit) :
    BoostOk limit life grant ran clock :=
  ⟨hbound, fun hb _ => (h hb).1, by simp [hphase], by simp [hphase], fun hb _ => (h hb).2,
    by simp [hphase]⟩

-- A task that runs.
theorem onCpu (hbound : ran ≤ WAKE_BOOST_BUDGET_NS + limit) (hphase : life.phase = .running)
    (h : life.view.boost ≠ DSQ_TYPE_EMPTY → ran + life.view.startedAt = life.view.boostUsed + clock ∧
      ran + grant.slice + grant.since ≤ WAKE_BOOST_BUDGET_NS + limit + clock) :
    BoostOk limit life grant ran clock :=
  ⟨hbound, fun _ hn => absurd hphase hn, fun hb _ => h hb, by simp [hphase], by simp [hphase],
    by simp [hphase]⟩

-- A task that has not run since it was woken up.
theorem fresh {s : Sched} {v : TaskView} (h : BoostOk limit life grant ran clock)
    (hzero : life.view.boost = DSQ_TYPE_EMPTY → ran = 0)
    (hphase : life.phase = .none ∨ (∃ origin, life.phase = .dequeued origin) ∨
      ∃ origin, life.phase = .runnable origin)
    (hv : Boosted s life.view v) (hb : v.boost ≠ DSQ_TYPE_EMPTY) : v.boostUsed = 0 ∧ ran = 0 := by
  have hran : ran = 0 := by
    by_cases hold : life.view.boost = DSQ_TYPE_EMPTY
    · exact hzero hold
    · have hoff : life.phase ≠ .running := by
        rcases hphase with hp | ⟨_, hp⟩ | ⟨_, hp⟩ <;> simp [hp]
      rw [h.off hold hoff, h.woken hold hphase]
  rcases hv with rfl | ⟨w, -, rfl⟩
  · exact ⟨h.woken hb hphase, hran⟩
  · exact ⟨rfl, hran⟩

-- What a callback charges to a boosted task makes the count of the code right.
theorem charged (h : BoostOk limit life grant ran now) (hs : SliceOk life grant clock)
    (hclock : clock ≤ now) (hphase : life.phase = .running) (hb : life.view.boost ≠ DSQ_TYPE_EMPTY) :
    life.view.charged (elapsed now life.view.startedAt) = ran := by
  have hstarted := (hs.started hphase).2.1
  have hon := (h.on hb hphase).1
  rw [elapsed_eq, TaskView.charged, if_pos hb]
  omega

-- A dispatch finds another task, and p keeps what is left of its slice.
theorem replaced (h : BoostOk limit life grant ran now) (hs : SliceOk life grant clock)
    (hclock : clock ≤ now) (hphase : life.phase = .running) (pending interrupted : Bool) (tier : Nat)
    (charges : List (Nat × Nat)) :
    BoostOk limit { life with
      view := life.view.accounted pending (elapsed now life.view.startedAt) now tier
      charges := charges } { grant with interrupted := interrupted } ran now := by
  refine onCpu h.bound hphase fun hb => ?_
  have hold := accounted_boost hb
  have hran := h.charged hs hclock hphase hold
  exact ⟨congrArg (· + now) hran.symm, (h.on hold hphase).2⟩

-- A dispatch lets p go on: the boost does so only within the budget.
theorem continued (h : BoostOk limit life grant ran now) (hs : SliceOk life grant clock)
    (hclock : clock ≤ now) (hphase : life.phase = .running) (hlimit : SLICE_NS ≤ limit) (pending : Bool)
    (tier tier' : Nat) (charges : List (Nat × Nat)) :
    BoostOk limit { life with
      view := (life.view.accounted pending (elapsed now life.view.startedAt) now tier).continued tier'
      slice := SLICE_NS
      charges := charges } ⟨now, SLICE_NS, false⟩ ran now := by
  refine onCpu h.bound hphase fun hb => ?_
  obtain ⟨hb, hless⟩ := continued_boost hb
  have hran := h.charged hs hclock hphase (accounted_boost hb)
  change life.view.charged (elapsed now life.view.startedAt) < WAKE_BOOST_BUDGET_NS at hless
  refine ⟨congrArg (· + now) hran.symm, ?_⟩
  dsimp only
  omega

-- The slice that lunar_stopping gives back fits in the budget with what is charged.
theorem resumed_fits {log : BoostLog} {k : Call} (h : BoostOk limit (sys.life p) (log.grants p) ran k.now)
    (hs : SliceOk (sys.life p) (log.grants p) sys.clock) (hle : SliceLe limit (sys.life p) (log.grants p))
    (hphase : sys.phase p = .running) (hb : (sys.sched.view p).boost ≠ DSQ_TYPE_EMPTY)
    (hran : (sys.sched.view p).charged (elapsed k.now (sys.sched.view p).startedAt) = ran)
    (hbudget : BudgetKept limit (sys, log) (.stopping k p true)) :
    ran + (sys.sched.view p).resumed (sys.sched.task p) true (sys.pending p)
      (elapsed k.now (sys.sched.view p).startedAt) ≤ WAKE_BOOST_BUDGET_NS + limit := by
  have hgranted : (sys.sched.view p).grantedSlice = (log.grants p).slice := hs.granted hphase
  have hgrant : (log.grants p).slice ≤ limit := hle.granted (Or.inl hb) hphase
  have hstarted : (log.grants p).since ≤ (sys.sched.view p).startedAt ∧
      (sys.sched.view p).startedAt ≤ sys.clock ∧
      ((log.grants p).interrupted ↔ (log.grants p).since < (sys.sched.view p).startedAt) :=
    hs.started hphase
  have hon : ran + (log.grants p).slice + (log.grants p).since ≤ WAKE_BOOST_BUDGET_NS + limit + k.now :=
    (h.on hb hphase).2
  have hbound := h.bound
  have hzero : (sys.sched.view p).resumeSlice = 0 := by
    by_contra hne
    have := (hle.token hb hne).1
    simp [Sys.life, hphase] at this
  unfold TaskView.resumed
  split_ifs with hback
  · have hgives : GivesBack sys k.now p := ⟨hback.1, hback.2.2.1, hback.2.2.2⟩
    by_cases hi : (log.grants p).interrupted
    · have hless := hbudget hb rfl hgives hi
      rw [TaskView.charged, if_pos hb] at hran
      dsimp only at hless
      omega
    · have hsame : (sys.sched.view p).startedAt = (log.grants p).since := by
        have := mt hstarted.2.2.mpr hi
        omega
      have hleft := hback.2.2.2
      rw [elapsed_eq] at hleft ⊢
      omega
  · omega

-- lunar_stopping.
theorem stops {log : BoostLog} {k : Call} {runnable : Bool} {tier : Nat} {charges : List (Nat × Nat)}
    (h : BoostOk limit (sys.life p) (log.grants p) ran k.now)
    (hs : SliceOk (sys.life p) (log.grants p) sys.clock) (hle : SliceLe limit (sys.life p) (log.grants p))
    (hclock : sys.clock ≤ k.now) (hphase : sys.phase p = .running)
    (hkept : SlicesKept m (sys, log) (.stopping k p runnable))
    (hbudget : BudgetKept limit (sys, log) (.stopping k p runnable)) :
    BoostOk limit { sys.life p with
      phase := if runnable then .stopped else .leaving
      view := (sys.sched.view p).stopped (sys.sched.task p) runnable (sys.pending p)
        (elapsed k.now (sys.sched.view p).startedAt) tier
      charges := charges } (log.grants p) ran k.now := by
  have hused : (sys.sched.task p).slice + (k.now - (log.grants p).since) ≤ (log.grants p).slice :=
    hkept.2
  have hran (hb : (sys.sched.view p).boost ≠ DSQ_TYPE_EMPTY) :
      (sys.sched.view p).charged (elapsed k.now (sys.sched.view p).startedAt) = ran :=
    h.charged hs hclock hphase hb
  cases runnable with
  | false =>
      -- No slice is given back, so the boost ends.
      refine ended h.bound ?_
      by_contra hb
      have hold := stopped_boost hb
      have hzero : (sys.sched.view p).resumeSlice = 0 := by
        by_contra hne
        have := (hle.token hold hne).1
        simp [Sys.life, hphase] at this
      simp [TaskView.stopped, TaskView.resumed, hzero] at hb
  | true =>
      refine ⟨h.bound, fun hb _ => (hran (stopped_boost hb)).symm, by simp, by simp, by simp, fun hb _ => ?_⟩
      have hb := stopped_boost hb
      have hon : ran + (log.grants p).slice + (log.grants p).since ≤
          WAKE_BOOST_BUDGET_NS + limit + k.now := (h.on hb hphase).2
      dsimp only [TaskView.stopped, Sys.life]
      rw [hran hb]
      have hbound := h.bound
      exact ⟨h.resumed_fits hs hle hphase hb (hran hb) hbudget, by omega⟩

-- A boosted task that is enqueued: a new slice only goes to a task within its budget.
theorem enqueued {slice : Nat} {v : TaskView} (h : BoostOk limit (sys.life p) grant ran clock)
    (hzero : (sys.life p).view.boost = DSQ_TYPE_EMPTY → ran = 0)
    (hle : SliceLe limit (sys.life p) grant) (hlimit : SLICE_NS ≤ limit)
    (hphase : (sys.phase p = .runnable .sleep ∨ sys.phase p = .runnable .waiting) ∨
      sys.phase p = .stopped ∧ (sys.sched.task p).slice = 0 ∨ sys.phase p = .queued)
    (hv : Boosted sys.sched (sys.sched.view p) v)
    (hsame : sys.phase p ≠ .runnable .sleep → v = sys.sched.view p)
    (hslice : v.resumeSlice ≠ 0 ∧ slice = v.resumeSlice ∧ cpuTakenByRt sys.sched (sys.cpuOf p) = false ∨
      (v.resumeSlice = 0 ∨ cpuTakenByRt sys.sched (sys.cpuOf p)) ∧ slice = SLICE_NS)
    (hsliced : slice ≤ limit)
    (hbudget : (sys.sched.view p).boost ≠ DSQ_TYPE_EMPTY →
      WAKE_BOOST_BUDGET_NS < (sys.sched.view p).boostUsed →
      (sys.sched.view p).resumeSlice ≠ 0 ∧ cpuTakenByRt sys.sched (sys.cpuOf p) = false)
    (hb : v.boost ≠ DSQ_TYPE_EMPTY) :
    ran = v.boostUsed ∧ v.boostUsed + slice ≤ WAKE_BOOST_BUDGET_NS + limit := by
  have hnew (hsame : v = sys.sched.view p) (hno : v.resumeSlice = 0 ∨
      cpuTakenByRt sys.sched (sys.cpuOf p)) : v.boostUsed ≤ WAKE_BOOST_BUDGET_NS := by
    subst hsame
    by_contra hover
    obtain ⟨hresume, hrt⟩ := hbudget hb (Nat.lt_of_not_ge hover)
    rcases hno with hno | hno
    · exact hresume hno
    · exact absurd (hrt ▸ hno) (by decide)
  rcases hphase with hp | ⟨hp, -⟩ | hp
  · have hrunnable : ∃ origin, (sys.life p).phase = .runnable origin := by
      rcases hp with hp | hp <;> exact ⟨_, hp⟩
    obtain ⟨hused, hran⟩ := h.fresh hzero (Or.inr (Or.inr hrunnable)) hv hb
    omega
  · obtain rfl := hsame (by simp [hp])
    have hran : ran = (sys.sched.view p).boostUsed := h.off hb (by simp [Sys.life, hp])
    rcases hslice with ⟨-, rfl, -⟩ | ⟨hno, rfl⟩
    · exact ⟨hran, (h.stopped hb hp).1⟩
    · have := hnew rfl hno
      omega
  · obtain rfl := hsame (by simp [hp])
    have hran : ran = (sys.sched.view p).boostUsed := h.off hb (by simp [Sys.life, hp])
    have hresume : (sys.sched.view p).resumeSlice = 0 := by
      by_contra hne
      have := (hle.token hb hne).1
      simp [Sys.life, hp] at this
    have := hnew rfl (Or.inl hresume)
    omega

-- The event itself takes no time.
theorem effect (log : BoostLog) (h : BoostOk limit (sys.life p) (log.grants p) ran sys'.clock)
    (hzero : (sys.life p).view.boost = DSQ_TYPE_EMPTY → ran = 0) (hlimit : SLICE_NS ≤ limit)
    (hs : SliceOk (sys.life p) (log.grants p) sys.clock) (hle : SliceLe limit (sys.life p) (log.grants p))
    (hl : LifeStep sys p (sys'.life p) event) (hclock : sys.clock ≤ sys'.clock)
    (htime : sys'.clock = event.time sys.clock) (hkept : SlicesKept m (sys, log) event)
    (hbudget : BudgetKept limit (sys, log) event) :
    BoostOk limit (sys'.life p) (watchGrants log.grants sys event sys' p) ran sys'.clock := by
  cases hl with
  | same hsubject h' =>
      rw [h', watchGrants_same hsubject]
      exact h
  | initTask _ h' hboost _ _ =>
      rw [h']
      exact ended h.bound hboost
  | @selectCpu _ _ _ v _ _ hphase h' hv _ =>
      have hfresh (hb : v.boost ≠ DSQ_TYPE_EMPTY) :=
        h.fresh hzero (Or.inr (Or.inl ⟨_, hphase⟩)) hv hb
      rw [h']
      refine ⟨h.bound, fun hb _ => (hfresh hb).2.trans (hfresh hb).1.symm, fun _ hp => ?_,
        fun hb _ => (hfresh hb).1, fun _ hp => ?_, fun _ hp => ?_⟩
      all_goals simp [Sys.life, hphase] at hp
  | @runnable _ _ _ origin _ hphase h' =>
      have hold : (sys.life p).phase ≠ .running := by simp [Sys.life, hphase]
      rw [h']
      exact ⟨h.bound, fun hb _ => h.off hb hold, by simp,
        fun hb _ => h.woken hb (Or.inr (Or.inl ⟨origin, hphase⟩)), by simp, by simp⟩
  | @enqueue _ _ _ v _ hphase hv hsame hslice h' =>
      rw [h']
      exact waiting h.bound rfl fun hb => h.enqueued (v := v) hzero hle hlimit hphase hv hsame hslice
        (hle.enqueued hs hlimit hv hsame hslice (Or.inl hb)) hbudget hb
  | enqueueLocal hphase h' =>
      have hoff : (sys.life p).phase ≠ .running := by
        rcases hphase with (hp | hp) | hp | hp <;> simp [Sys.life, hp]
      rw [h']
      refine waiting h.bound rfl fun hb => ⟨h.off hb hoff, ?_⟩
      have hgiven := hbudget hb
      exact Nat.add_le_add hgiven.1 hgiven.2.2
  | insertDirect hphase hddsp h' =>
      have hsliced := hle.slice (Or.inr hddsp)
      have hrunnable : ∃ origin, (sys.life p).phase = .runnable origin := by
        rcases hphase with hp | hp <;> exact ⟨_, hp⟩
      rw [h']
      refine waiting h.bound rfl fun hb => ?_
      obtain ⟨hused, hran⟩ :=
        h.fresh (s := sys.sched) hzero (Or.inr (Or.inr hrunnable)) (Or.inl rfl) hb
      dsimp only
      omega
  | restore hphase h' =>
      rw [h']
      exact ended h.bound (by_contra fun hb => (hle.woken hb).2 hphase)
  | putBack hphase _ h' =>
      rw [h']
      exact waiting h.bound rfl fun hb =>
        ⟨h.off hb (by simp [Sys.life, hphase]), (h.stopped hb hphase).2⟩
  | consumeSlice hphase _ h' =>
      rw [h']
      exact onCpu h.bound hphase fun hb => h.on hb hphase
  | @replaced k _ _ _ tier honCpu hphase hslice h' =>
      have hnow : sys'.clock = k.now := htime
      have hkeep : (sys'.sched.task p).slice = 0 := (congrArg Life.slice h').trans hslice
      rw [watchGrants_replaced log.grants honCpu hkeep, h', ← hnow]
      exact h.replaced hs hclock hphase _ _ _ _
  | @continued k _ _ _ tier tier' honCpu hphase hslice h' =>
      have hnow : sys'.clock = k.now := htime
      have hgiven : (sys'.sched.task p).slice = SLICE_NS := congrArg Life.slice h'
      rw [watchGrants_continued log.grants honCpu hgiven, h', ← hnow]
      exact h.continued hs hclock hphase hlimit _ _ _ _
  | @running k hphase h' =>
      have hnow : sys'.clock = k.now := htime
      rw [watchGrants_running log.grants, h', ← hnow]
      refine onCpu h.bound rfl fun hb => ?_
      have hran : ran = (sys.sched.view p).boostUsed := h.off hb (by simp [Sys.life, hphase])
      have hqueued : (sys.sched.view p).boostUsed + (sys.sched.task p).slice ≤
          WAKE_BOOST_BUDGET_NS + limit := h.queued hb hphase
      dsimp only
      omega
  | @stopping k runnable tier hphase h' =>
      have hnow : sys'.clock = k.now := htime
      rw [hnow] at h hclock ⊢
      rw [h']
      exact h.stops hs hle hclock hphase hkept hbudget
  | quiescent _ _ h' =>
      rw [h']
      exact ended h.bound rfl

end BoostOk

-- All that is known of the slices and the boost of a task.
structure WithinLimit (limit : Nat) (life : Life) (grant : Grant) (ran clock : Nat) : Prop where
  slices : SliceOk life grant clock
  limited : SliceLe limit life grant
  boosted : BoostOk limit life grant ran clock

namespace WithinLimit

variable {m : Machine} {sys sys' : Sys} {event : Event} {p : Task} {limit : Nat}

theorem start (h : Sys.Start m sys) (p : Task) (grant : Grant) :
    WithinLimit limit (sys.life p) grant 0 sys.clock :=
  ⟨.start h p grant, .start h p grant, .start h p grant⟩

theorem step (log : BoostLog) (hlimit : SLICE_NS ≤ limit) (hinv : Inv m sys)
    (h : WithinLimit limit (sys.life p) (log.grants p) (log.ran p) sys.clock)
    (hl : LifeStep sys p (sys'.life p) event) (hclock : sys.clock ≤ sys'.clock)
    (htime : sys'.clock = event.time sys.clock) (hkept : SlicesKept m (sys, log) event)
    (hbudget : BudgetKept limit (sys, log) event) :
    WithinLimit limit (sys'.life p) ((watchBoosts log sys event sys').grants p)
      ((watchBoosts log sys event sys').ran p) sys'.clock := by
  have hticked := h.boosted.tick hclock fun hp => by
    have hcpu := (hinv.tasks p).cpu (by rw [show sys.phase p = .running from hp]; rfl)
    rw [htime]
    exact hkept.1 (sys.cpuOf p) hcpu p ((hinv.onCpu _ p).mpr ⟨hp, rfl⟩)
  exact ⟨h.slices.step log.grants hl hclock htime, h.limited.step hlimit h.slices hl hbudget,
    .effect log hticked (fun hb => if_pos hb) hlimit h.slices h.limited hl hclock htime hkept hbudget⟩

end WithinLimit

def BoostLog.empty : BoostLog := ⟨noGrants, fun _ => 0⟩

-- No boost lasts longer than its budget and one slice, as long as a boosted task over
-- its budget gets no more than the rest of its slice, and none a longer slice from the
-- kernel.
theorem boosted_time_le {m : Machine} {start : Sys} {state : Sys × BoostLog}
    (hstart : Sys.Start m start)
    (hreach : (((lunarSys m).observe watchBoosts).restrict fun state event =>
      SlicesKept m state event ∧ BudgetKept SLICE_NS state event).Reaches (start, .empty) state)
    (p : Task) : state.2.ran p ≤ WAKE_BOOST_BUDGET_NS + SLICE_NS := by
  have h := Inv.always (P := fun sys log => ∀ p,
      WithinLimit SLICE_NS (sys.life p) (log.grants p) (log.ran p) sys.clock)
    (fun sys sys' log event hinv hok hs hclock htime hcond p =>
      (hok p).step log (Nat.le_refl _) hinv (hs.life hinv p) hclock htime hcond.1 hcond.2)
    hstart (fun p => WithinLimit.start hstart p _) hreach
  exact (h.2 p).boosted.bound

section Overrun

-- Task 3 wakes up and goes to sleep again.
def nap (now : Nat) : List Event :=
  wakeUp (.task now 0 0) 3 0 ++ pickNext (.task now 0 0) 3 ++ goToSleep (.task now 0 3) 3

-- The slice of task 1 is over.
def sliceEnd (now : Nat) : List Event :=
  [.consumeSlice 1 0, .dispatch (.task now 0 1) 0 (some 1) fun _ => 0]

-- Task 3, which has become NORMAL, wakes task 1. That one yields once and then uses three
-- whole slices, within the budget.
def boostedRun : List Event :=
  .initTask (.task 10 0 0) 3 :: nap 100000000 ++ nap 200000000 ++ nap 300000000 ++
    becomesLc 300000000 ++ wakeUp (.task 400000000 0 0) 3 0 ++ pickNext (.task 400000000 0 0) 3 ++
    .initTask (.task 400000000 0 3) 1 :: wakeUp (.task 400000000 0 3) 1 0 ++
    goToSleep (.task 400000000 0 3) 3 ++ pickNext (.task 400000000 0 0) 1 ++ sliceEnd 400950000 ++
    sliceEnd 401950000 ++ sliceEnd 402950000 ++ sliceEnd 403950000

-- Task 2, which is LC, preempts it for a moment, and it gets a whole slice back.
def overrun : List Event :=
  boostedRun ++ wakeUp (.task 404850000 0 0) 2 0 ++ sliceEnd 404850000 ++
    [.stopping (.task 404850000 0 1) 1 true, .enqueue (.task 404850000 0 1) 1 ⟨false, false⟩ ⟨none, 0⟩,
      .running (.task 404850000 0 1) 2] ++
    goToSleep (.task 404850000 0 2) 2 ++ pickNext (.task 404850000 0 0) 1 ++ sliceEnd 405850000

def boostedState : Sys × BoostLog :=
  ((lunarSys oneCpu).observe watchBoosts).final (oneCpuBoot, .empty) boostedRun

theorem boosted_time_le_boostedRun :
    boostedState.2.ran 1 = 3950000 ∧ boostedState.2.ran 1 ≤ WAKE_BOOST_BUDGET_NS + SLICE_NS := by
  have hreach : (((lunarSys oneCpu).observe watchBoosts).restrict fun state event =>
      SlicesKept oneCpu state event ∧ BudgetKept SLICE_NS state event).Reaches (oneCpuBoot, .empty) boostedState :=
    ⟨boostedRun, by decide +kernel, rfl⟩
  have hstart : Sys.Start oneCpu oneCpuBoot := Sys.start_boot oneCpu (by decide) fun _ => rfl
  exact ⟨by decide +kernel, boosted_time_le hstart hreach 1⟩

theorem boosted_time_overrun : ∃ state, Sys.Start oneCpu oneCpuBoot ∧
    (((lunarSys oneCpu).observe watchBoosts).restrict (SlicesKept oneCpu)).Reaches
      (oneCpuBoot, .empty) state ∧
    state.2.ran 1 = 5850000 ∧ WAKE_BOOST_BUDGET_NS + SLICE_NS < 5850000 :=
  ⟨_, Sys.start_boot oneCpu (by decide) fun _ => rfl, ⟨overrun, by decide +kernel, rfl⟩,
    by decide +kernel, by decide⟩

end Overrun

end Lunar
