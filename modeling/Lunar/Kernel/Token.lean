import Lunar.Kernel.Boost

namespace Lunar

-- Whether the last stopping() of a task has set its resume_slice.
def watchPreempted (log : Task → Bool) (sys : Sys) (event : Event) (_ : Sys) : Task → Bool :=
  match event with
  | .stopping k p runnable =>
      Function.update log p (runnable && decide (GivesBack sys k.now p))
  | _ => log

-- lunar_enqueue takes the way back to the head of the queue.
def resumesAtHead (s : Sched) (p : Task) : Bool :=
  (s.taskCtxStore p).any (·.resumeSlice ≠ 0) && !cpuTakenByRt s (s.task p).cpu

-- boost_used after the charge of a stop at now.
def boostUsedAt (sys : Sys) (now : Nat) (p : Task) : Nat :=
  (sys.sched.view p).charged (elapsed now (sys.sched.view p).startedAt)

-- The resume_slice that acts is the one of the last stop.
def TokenFresh (m : Machine) (state : Sys × (Task → Bool)) : Event → Prop
  | .enqueue _ p _ _ => resumesAtHead state.1.sched p → state.2 p
  | .stopping k p runnable =>
      let v := ((lunarStopping m k p runnable state.1.sched).view p)
      WAKE_BOOST_BUDGET_NS ≤ v.boostUsed ∧ v.boost ≠ DSQ_TYPE_EMPTY →
        runnable ∧ GivesBack state.1 k.now p
  | _ => True

-- No stop with a resume_slice from before, unless it sets it anew, or the task is not
-- runnable any more, which clears it, and has no boost that is used up.
def StopsClean (state : Sys × (Task → Bool)) : Event → Prop
  | .stopping k p runnable =>
      (state.1.sched.view p).resumeSlice = 0 ∨ runnable ∧ GivesBack state.1 k.now p ∨
        !runnable ∧ ((state.1.sched.view p).boost = DSQ_TYPE_EMPTY ∨
          boostUsedAt state.1 k.now p < WAKE_BOOST_BUDGET_NS)
  | _ => True

instance (state : Sys × (Task → Bool)) : ∀ event, Decidable (StopsClean state event)
  | .stopping _ _ _ => inferInstanceAs (Decidable (_ ∨ _))
  | .initTask _ _ | .setAttributes _ _ | .selectCpu _ _ _ _ | .runnable _ _ _ _ | .enqueue _ _ _ _
  | .enqueueLocal _ _ | .insertDirect _ | .restore _ | .putBack _ | .consumeSlice _ _
  | .dispatch _ _ _ _ | .running _ _ | .quiescent _ _ _ | .schedSwitch _ _ _ =>
      inferInstanceAs (Decidable True)

section Enqueue

variable {m : Machine} {s : Sched} {p : Task}

theorem wakeBoost_resumeSlice (k : Call) (s : Sched) (p : Task) (tctx : TaskCtx) (wakeup : Bool) :
    (if wakeup then applyWakeBoost k s p tctx else tctx).resumeSlice = tctx.resumeSlice := by
  split_ifs
  · rcases applyWakeBoost_boosted k s p tctx with h | ⟨w, -, h⟩
    all_goals exact congrArg TaskView.resumeSlice h
  · rfl

-- Nothing but what task_ctx_store holds.
structure OnlyStore (s s' : Sched) : Prop where
  dsq : s'.dsq = s.dsq
  task : s'.task = s.task
  dispatchState : s'.dispatchState = s.dispatchState
  effects : s'.effects = s.effects

-- Only then it inserts at the head by itself.
theorem lunarEnqueue_resumes (k : Call) (env : PickEnv) (flags : EnqFlags)
    (h : resumesAtHead s p) : ∃ tctx s', OnlyStore s s' ∧ lunarEnqueue m k env flags p s =
      stampAndInsert m k p (effectiveTier (some tctx)) (s.task p).cpu tctx.resumeSlice true s' := by
  simp only [resumesAtHead, Bool.and_eq_true, Option.any_eq_true, decide_eq_true_eq] at h
  obtain ⟨⟨tctx, hctx, hresume⟩, hrt⟩ := h
  have hrt : cpuTakenByRt s (s.task p).cpu = false := by simpa using hrt
  have hkept := wakeBoost_resumeSlice k s p tctx flags.wakeup
  simp only [lunarEnqueue, hctx]
  generalize (if flags.wakeup then applyWakeBoost k s p tctx else tctx) = tctx1 at hkept ⊢
  have hfree : (if tctx1.resumeSlice ≠ 0 ∧ cpuTakenByRt s (s.task p).cpu = true then
      { tctx1 with resumeSlice := 0 } else tctx1) = tctx1 := if_neg (by simp [hrt])
  rw [hfree, if_pos (by rwa [hkept])]
  exact ⟨tctx1, s.setTaskCtx p _, ⟨rfl, rfl, rfl, rfl⟩, rfl⟩

-- Otherwise p is enqueued with the tier of its view v.
theorem lunarEnqueue_places (k : Call) (env : PickEnv) (flags : EnqFlags) (hp : (s.view p).present)
    (h : resumesAtHead s p = false) : ∃ v target s', OnlyStore s s' ∧ Boosted s (s.view p) v ∧
      (∃ tctx, target = (pickEnqueueCpu m env s p tctx v.tier (s.task p).cpu k.now).1) ∧
      lunarEnqueue m k env flags p s = enqueueOn m k flags p v.tier target s' := by
  obtain ⟨tctx, hctx, hview⟩ := Sched.exists_of_present hp
  simp only [lunarEnqueue, hctx]
  have hkept := wakeBoost_resumeSlice k s p tctx flags.wakeup
  have hboosted : Boosted s (s.view p) (if flags.wakeup then applyWakeBoost k s p tctx else tctx).view := by
    rw [hview]
    split_ifs
    · exact applyWakeBoost_boosted k s p tctx
    · exact Or.inl rfl
  generalize (if flags.wakeup then applyWakeBoost k s p tctx else tctx) = tctx1 at hkept hboosted ⊢
  have hno : (if tctx1.resumeSlice ≠ 0 ∧ cpuTakenByRt s (s.task p).cpu then
      { tctx1 with resumeSlice := 0 } else tctx1).resumeSlice = 0 := by
    simp only [resumesAtHead, hctx, Option.any_some, Bool.and_eq_false_iff] at h
    split_ifs with hrt
    · rfl
    · by_contra hne
      rcases h with h | h
      · simp [← hkept, hne] at h
      · exact hrt ⟨hne, by simpa using h⟩
  rw [if_neg (by rw [hno]; simp)]
  exact ⟨_, _, s.setTaskCtx p _, ⟨rfl, rfl, rfl, rfl⟩, hboosted, ⟨_, rfl⟩, rfl⟩

end Enqueue

theorem watchPreempted_same {log : Task → Bool} {sys sys' : Sys} {e : Event} {p : Task}
    (h : ∀ k runnable, e ≠ .stopping k p runnable) :
    watchPreempted log sys e sys' p = log p := by
  cases e with
  | stopping k q runnable =>
      have hp : p ≠ q := fun he => h k runnable (by rw [he])
      exact Function.update_of_ne hp _ _
  | _ => rfl

-- A resume_slice is the one of the last stop, until the task leaves.
def TokenOk (life : Life) (preempted : Bool) : Prop :=
  life.view.resumeSlice ≠ 0 → life.phase ≠ .leaving → preempted

namespace TokenOk

variable {m : Machine} {sys sys' : Sys} {log : Task → Bool} {p : Task}

theorem start (h : Sys.Start m sys) (p : Task) (preempted : Bool) : TokenOk (sys.life p) preempted := by
  obtain ⟨s, now, hsched, -, hctx, -, -⟩ := h.sched
  intro hresume
  simp [Sys.life, Sched.view, hsched, (lunarInit_spec m now s).taskCtxStore, hctx] at hresume

theorem stops {k : Call} {runnable : Bool} {tier : Nat}
    (hclean : StopsClean (sys, log) (.stopping k p runnable))
    (hlife : sys'.life p = { sys.life p with
      phase := if runnable then .stopped else .leaving
      view := (sys.sched.view p).stopped (sys.sched.task p) runnable (sys.pending p)
        (elapsed k.now (sys.sched.view p).startedAt) tier
      charges := (elapsed k.now (sys.sched.view p).startedAt, 0) :: sys.sched.charges p }) :
    TokenOk (sys'.life p) (runnable && decide (GivesBack sys k.now p)) := by
  rw [hlife]
  intro hresume hleft
  have hrunnable : runnable := by
    by_contra hr
    exact hleft (if_neg hr)
  simp only [TaskView.stopped, TaskView.resumed] at hresume
  split_ifs at hresume with hback
  · have hgives : GivesBack sys k.now p := ⟨hback.1, hback.2.2⟩
    simp [hrunnable, hgives]
  · rcases hclean with hz | ⟨-, hgives⟩ | ⟨hr, -⟩
    · exact absurd hz hresume
    · exact absurd ⟨hgives.1, hrunnable, hgives.2⟩ hback
    · simp [hrunnable] at hr

theorem step {e : Event} (hl : LifeStep sys p (sys'.life p) e) (h : TokenOk (sys.life p) (log p))
    (hclean : StopsClean (sys, log) e) :
    TokenOk (sys'.life p) (watchPreempted log sys e sys' p) := by
  cases hl with
  | same hsubject h' =>
      rw [h', watchPreempted_same (fun k runnable he => hsubject (by rw [he]; rfl))]
      exact h
  | initTask _ h' _ hresume _ =>
      rw [h']
      exact fun hr => absurd hresume hr
  | selectCpu hphase h' hv _ =>
      rw [h']
      rcases hv with rfl | ⟨w, -, rfl⟩
      · exact h
      · exact h
  | runnable hphase h' =>
      rw [h']
      exact fun hr _ => h hr (by simp [Sys.life, hphase])
  | enqueue _ _ _ _ h' =>
      rw [h']
      exact fun hr => absurd rfl hr
  | enqueueLocal hphase h' =>
      rw [h']
      exact fun hr _ => h hr (by rcases hphase with (hp | hp) | hp | hp <;> simp [Sys.life, hp])
  | insertDirect hphase _ h' =>
      rw [h']
      exact fun hr _ => h hr (by rcases hphase with hp | hp <;> simp [Sys.life, hp])
  | restore hphase h' =>
      rw [h']
      exact fun hr _ => h hr (by simp [Sys.life, hphase])
  | putBack hphase _ h' =>
      rw [h']
      exact fun hr _ => h hr (by simp [Sys.life, hphase])
  | consumeSlice hphase _ h' =>
      rw [h']
      exact h
  | replaced _ _ _ h' =>
      rw [h']
      exact h
  | continued _ _ _ h' =>
      rw [h']
      exact h
  | running hphase h' =>
      rw [h']
      exact fun hr _ => h hr (by simp [Sys.life, hphase])
  | stopping _ h' =>
      have hstops := stops hclean h'
      simpa only [watchPreempted, Function.update_self] using hstops
  | quiescent _ _ h' =>
      rw [h']
      exact fun hr => absurd rfl hr

end TokenOk

theorem enqueue_fresh {m : Machine} {sys : Sys} {log : Task → Bool} {k : Call} {p : Task}
    {flags : EnqFlags} {env : PickEnv} (hinv : Inv m sys) (hok : TokenOk (sys.life p) (log p))
    (hg : sys.guard m (.enqueue k p flags env)) :
    TokenFresh m (sys, log) (.enqueue k p flags env) := by
  intro hresumes
  have hleft : (sys.life p).phase ≠ .leaving := by
    change sys.phase p ≠ .leaving
    rcases hg.2 with ⟨(hp | ⟨hp, -⟩), -⟩ | ⟨hp, -⟩ | ⟨hp, -⟩
    · simp [hp]
    · simp [hp]
    · simp [hp]
    · simp [(hinv.members _ p hp).phase]
  simp only [resumesAtHead, Bool.and_eq_true, Option.any_eq_true, decide_eq_true_eq] at hresumes
  obtain ⟨⟨tctx, hctx, hresume⟩, -⟩ := hresumes
  refine hok ?_ hleft
  change (sys.sched.view p).resumeSlice ≠ 0
  rw [Sched.view_of_some hctx]
  exact hresume

theorem stopping_fresh {m : Machine} {sys : Sys} {log : Task → Bool} {k : Call} {p : Task}
    {runnable : Bool} (hinv : Inv m sys) (hg : sys.guard m (.stopping k p runnable))
    (hclean : StopsClean (sys, log) (.stopping k p runnable)) :
    TokenFresh m (sys, log) (.stopping k p runnable) := by
  have hphase : sys.phase p = .running := hg
  have hpresent := hinv.present (p := p) (by simp [hphase])
  have hcpu := (hinv.tasks p).cpu (by simp [hphase, Phase.active])
  obtain ⟨⟨tier, hview⟩, -⟩ := lunarStopping_spec m k p sys.sched runnable hpresent hcpu
  rintro ⟨hspent, hboost⟩
  have hview := congrFun hview p
  rw [Function.update_self] at hview
  rw [hview] at hspent hboost
  have hspent : WAKE_BOOST_BUDGET_NS ≤ boostUsedAt sys k.now p := hspent
  by_contra hback
  -- Nothing is given back, so the boost could only be kept for an older resume_slice.
  have hresumed : (sys.sched.view p).resumed (sys.sched.task p) runnable (sys.pending p)
      (elapsed k.now (sys.sched.view p).startedAt) = (sys.sched.view p).resumeSlice :=
    if_neg fun h => hback ⟨h.2.1, h.1, h.2.2⟩
  rcases hclean with hz | hgives | ⟨-, hnone | hlt⟩
  · refine hboost (if_pos ⟨?_, Or.inr hspent⟩)
    exact hresumed.trans hz
  · exact hback hgives
  · refine hboost ?_
    simp only [TaskView.stopped]
    split_ifs
    · rfl
    · exact hnone
  · exact Nat.not_lt.mpr hspent hlt

def freshSys (m : Machine) : TransitionSystem (Sys × (Task → Bool)) Event :=
  ((lunarSys m).observe watchPreempted).restrict StopsClean

instance (m : Machine) (state : Sys × (Task → Bool)) (event : Event) :
    Decidable ((freshSys m).enabled state event) := inferInstanceAs (Decidable (_ ∧ _))

theorem freshSys_reaches {m : Machine} {start state : Sys × (Task → Bool)}
    (hstart : Sys.Start m start.1) (hreach : (freshSys m).Reaches start state) :
    Inv m state.1 ∧ ∀ p, TokenOk (state.1.life p) (state.2 p) := by
  refine TransitionSystem.invariant_of_reaches _
    (P := fun state => Inv m state.1 ∧ ∀ p, TokenOk (state.1.life p) (state.2 p)) ?_
    ⟨Inv.start hstart, fun p => TokenOk.start hstart p _⟩ hreach
  rintro ⟨sys, log⟩ event ⟨hinv, hok⟩ ⟨he, hclean⟩
  have hs : Step m sys ((lunarSys m).exec sys event) event := hinv.stepped he
  exact ⟨hinv.step hs, fun p => (hok p).step (hs.life hinv p) hclean⟩

-- In a run in which every stop is clean, a task goes back to the head of its queue only
-- right after the preemption that gave it the rest of its slice, and only that keeps a
-- boost that is used up.
theorem token_fresh {m : Machine} {start state : Sys × (Task → Bool)} {event : Event}
    (hstart : Sys.Start m start.1) (hreach : (freshSys m).Reaches start state)
    (he : (freshSys m).enabled state event) : TokenFresh m state event := by
  obtain ⟨hinv, hok⟩ := freshSys_reaches hstart hreach
  obtain ⟨⟨-, hg⟩, hclean⟩ := he
  cases event with
  | enqueue k p flags env => exact enqueue_fresh hinv (hok p) hg
  | stopping k p runnable => exact stopping_fresh hinv hg hclean
  | _ => trivial

-- The condition leaves out no more than it has to: a stop that is not clean keeps a boost
-- that is used up, or leaves a resume_slice that the next enqueue acts on.
theorem unclean_stop {m : Machine} {sys : Sys} {log : Task → Bool} {k : Call} {p : Task}
    {runnable : Bool} (hinv : Inv m sys) (hg : sys.guard m (.stopping k p runnable))
    (hclean : ¬StopsClean (sys, log) (.stopping k p runnable)) :
    ¬TokenFresh m (sys, log) (.stopping k p runnable) ∨
      let after := ((lunarSys m).observe watchPreempted).exec (sys, log) (.stopping k p runnable)
      cpuTakenByRt after.1.sched (after.1.cpuOf p) = false →
        ∀ k' flags env, ¬TokenFresh m after (.enqueue k' p flags env) := by
  have hphase : sys.phase p = .running := hg
  have hpresent := hinv.present (p := p) (by simp [hphase])
  have hcpu := (hinv.tasks p).cpu (by simp [hphase, Phase.active])
  obtain ⟨⟨tier, hview⟩, -⟩ := lunarStopping_spec m k p sys.sched runnable hpresent hcpu
  have hview := congrFun hview p
  rw [Function.update_self] at hview
  simp only [StopsClean, not_or] at hclean
  obtain ⟨hstale, hback, hkept⟩ := hclean
  have hresumed : (sys.sched.view p).resumed (sys.sched.task p) runnable (sys.pending p)
      (elapsed k.now (sys.sched.view p).startedAt) = (sys.sched.view p).resumeSlice :=
    if_neg fun h => hback ⟨h.2.1, h.1, h.2.2⟩
  by_cases hspent : (sys.sched.view p).boost ≠ DSQ_TYPE_EMPTY ∧
      WAKE_BOOST_BUDGET_NS ≤ boostUsedAt sys k.now p
  · refine Or.inl fun hfresh => hback (hfresh ?_)
    rw [hview]
    refine ⟨hspent.2, ?_⟩
    have hboost : ((sys.sched.view p).stopped (sys.sched.task p) runnable (sys.pending p)
        (elapsed k.now (sys.sched.view p).startedAt) tier).boost = (sys.sched.view p).boost :=
      if_neg fun h => hstale (hresumed.symm.trans h.1)
    exact hboost.symm ▸ hspent.1
  · have hrunnable : runnable := by
      by_contra hr
      refine hkept ⟨by simpa using hr, ?_⟩
      by_cases hnone : (sys.sched.view p).boost = DSQ_TYPE_EMPTY
      · exact Or.inl hnone
      · exact Or.inr (Nat.not_le.mp fun hle => hspent ⟨hnone, hle⟩)
    refine Or.inr fun hrt k' flags env hfresh => ?_
    have hpresent' : ((lunarStopping m k p runnable sys.sched).view p).present := by
      rw [hview]
      exact hpresent
    obtain ⟨tctx, hctx, hview'⟩ := Sched.exists_of_present hpresent'
    have hresume : tctx.resumeSlice ≠ 0 := by
      have h := congrArg TaskView.resumeSlice (hview'.symm.trans hview)
      rw [show tctx.resumeSlice = _ from h.trans hresumed]
      exact hstale
    have hresumes : resumesAtHead (lunarStopping m k p runnable sys.sched) p := by
      have hfree : cpuTakenByRt (lunarStopping m k p runnable sys.sched)
          ((lunarStopping m k p runnable sys.sched).task p).cpu = false := hrt
      simp [resumesAtHead, hctx, hresume, hfree]
    have hlog := hfresh hresumes
    simp only [TransitionSystem.observe, watchPreempted, Function.update_self, Bool.and_eq_true,
      decide_eq_true_eq] at hlog
    exact hback hlog

section Stale

-- Task 1 must not migrate any more when task 2 preempts it.
def wentDirect : List Event :=
  preemptedByDispatch ++ [.stopping preemptingCall 1 true, .enqueueLocal 1 20000000,
    .running preemptingCall 2] ++ goToSleep (.task 100900000 0 2) 2 ++
    [.running (.task 100900000 0 0) 1]

-- It is preempted once more.
def preemptedAgain : List Event :=
  wentDirect ++ (wakeUp (.task 101500000 0 0) 2 0 ++ sliceEnd 101500000 ++
    [.stopping (.task 101500000 0 1) 1 true])

def againState : Sys × (Task → Bool) :=
  (freshSys oneCpu).final (oneCpuBoot, fun _ => false) preemptedAgain

theorem token_fresh_again : resumesAtHead againState.1.sched 1 ∧
    TokenFresh oneCpu againState (.enqueue (.task 101500000 0 1) 1 ⟨false, false⟩ ⟨none, 0⟩) := by
  have hreach : (freshSys oneCpu).Reaches (oneCpuBoot, fun _ => false) againState :=
    ⟨preemptedAgain, by decide +kernel, rfl⟩
  have hstart : Sys.Start oneCpu oneCpuBoot := Sys.start_boot oneCpu (by decide) fun _ => rfl
  exact ⟨by decide +kernel, token_fresh hstart hreach (by decide +kernel)⟩

-- It uses its slice up, and task 5 comes next.
def stale : List Event :=
  wentDirect ++ (.initTask (.task 110000000 0 1) 5 :: wakeUp (.task 110000000 0 1) 5 0 ++
    sliceEnd 120900000 ++ [.stopping (.task 120900000 0 1) 1 true])

theorem token_stale : ∃ state, Sys.Start oneCpu oneCpuBoot ∧
    ((lunarSys oneCpu).observe watchPreempted).Reaches (oneCpuBoot, fun _ => false) state ∧
    ((lunarSys oneCpu).observe watchPreempted).enabled state
      (.enqueue (.task 120900000 0 1) 1 ⟨false, false⟩ ⟨none, 0⟩) ∧
    ¬TokenFresh oneCpu state (.enqueue (.task 120900000 0 1) 1 ⟨false, false⟩ ⟨none, 0⟩) := by
  refine ⟨_, Sys.start_boot oneCpu (by decide) fun _ => rfl, ⟨stale, by decide +kernel, rfl⟩,
    by decide +kernel, fun hfresh => ?_⟩
  have hlog := hfresh (by decide +kernel)
  revert hlog
  decide +kernel

end Stale

end Lunar
