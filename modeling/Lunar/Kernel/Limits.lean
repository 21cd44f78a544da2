import Lunar.Kernel.Slices

namespace Lunar

-- What an observer of the wake boosts notes: the slices, and for how long each task has
-- run boosted. The count of a boost starts when the boost does, and stands until the
-- event after its end.
structure BoostLog where
  grants : Task → Grant
  ran : Task → Nat

def watchBoosts (log : BoostLog) (sys : Sys) (event : Event) (sys' : Sys) : BoostLog where
  grants := watchGrants log.grants sys event sys'
  ran := fun p =>
    if (sys.sched.view p).boost = DSQ_TYPE_EMPTY then 0
    else log.ran p + if sys.phase p = .running then sys'.clock - sys.clock else 0

-- The kernel lets no task run for longer than the slice it was last given, and has taken
-- what was used off the slice when the task stops.
def SlicesKept (m : Machine) (state : Sys × BoostLog) (event : Event) : Prop :=
  (∀ c < m.nrCpuIds, ∀ p ∈ state.1.onCpu c,
      event.time state.1.clock ≤ (state.2.grants p).since + (state.2.grants p).slice) ∧
    match event with
    | .stopping k p _ =>
        (state.1.sched.task p).slice + (k.now - (state.2.grants p).since) ≤ (state.2.grants p).slice
    | _ => True

-- A boosted task over its budget does not get more than the rest of its slice: neither
-- from lunar_stopping after a dispatch has reset started_at, nor from lunar_enqueue on any
-- other path than the one for preempted tasks. What the kernel gives a boosted task by
-- itself is within the limit.
def BudgetKept (limit : Nat) (state : Sys × BoostLog) : Event → Prop
  | .stopping k p runnable =>
      (state.1.sched.view p).boost ≠ DSQ_TYPE_EMPTY → runnable → GivesBack state.1 k.now p →
        (state.2.grants p).interrupted →
        (state.1.sched.view p).boostUsed + elapsed k.now (state.1.sched.view p).startedAt ≤
          WAKE_BOOST_BUDGET_NS
  | .enqueue _ p _ _ =>
      (state.1.sched.view p).boost ≠ DSQ_TYPE_EMPTY →
        WAKE_BOOST_BUDGET_NS < (state.1.sched.view p).boostUsed →
        (state.1.sched.view p).resumeSlice ≠ 0 ∧ cpuTakenByRt state.1.sched (state.1.cpuOf p) = false
  | .enqueueLocal p slice =>
      (state.1.sched.view p).boost ≠ DSQ_TYPE_EMPTY →
        (state.1.sched.view p).boostUsed ≤ WAKE_BOOST_BUDGET_NS ∧
          (state.1.sched.view p).resumeSlice = 0 ∧ slice ≤ limit
  | _ => True

instance (m : Machine) (state : Sys × BoostLog) : ∀ event, Decidable (SlicesKept m state event)
  | .stopping _ _ _ => inferInstanceAs (Decidable (_ ∧ _))
  | .initTask _ _ | .setAttributes _ _ | .selectCpu _ _ _ _ | .runnable _ _ _ _ | .enqueue _ _ _ _
  | .enqueueLocal _ _ | .insertDirect _ | .restore _ | .putBack _ | .consumeSlice _ _
  | .dispatch _ _ _ _ | .running _ _ | .quiescent _ _ _ | .schedSwitch _ _ _ =>
      inferInstanceAs (Decidable (_ ∧ True))

instance (limit : Nat) (state : Sys × BoostLog) : ∀ event, Decidable (BudgetKept limit state event)
  | .stopping _ _ _ | .enqueue _ _ _ _ | .enqueueLocal _ _ => inferInstanceAs (Decidable (_ → _))
  | .initTask _ _ | .setAttributes _ _ | .selectCpu _ _ _ _ | .runnable _ _ _ _ | .insertDirect _
  | .restore _ | .putBack _ | .consumeSlice _ _ | .dispatch _ _ _ _ | .running _ _
  | .quiescent _ _ _ | .schedSwitch _ _ _ => inferInstanceAs (Decidable True)

-- The phases in which the slice of a task is the one it was last given.
def Phase.sliced : Phase → Bool
  | .queued | .running | .stopped => true
  | _ => false

-- The slices of a boosted task, and of one that is to be inserted from select_cpu. Only a
-- wakeup boosts a task, so what the kernel gave it before has been replaced by then.
structure SliceLe (limit : Nat) (life : Life) (grant : Grant) : Prop where
  slice : life.view.boost ≠ DSQ_TYPE_EMPTY ∧ life.phase.sliced ∨ life.ddsp → life.slice ≤ limit
  granted : life.view.boost ≠ DSQ_TYPE_EMPTY ∨ life.ddsp → life.phase = .running → grant.slice ≤ limit
  resume : life.view.boost ≠ DSQ_TYPE_EMPTY ∨ life.ddsp → life.view.resumeSlice ≤ limit
  token : life.view.boost ≠ DSQ_TYPE_EMPTY → life.view.resumeSlice ≠ 0 →
    life.phase = .stopped ∧ life.slice = 0
  woken : life.view.boost ≠ DSQ_TYPE_EMPTY →
    life.phase ≠ .dequeued .running ∧ life.phase ≠ .runnable .running

theorem accounted_boost {v : TaskView} {pending : Bool} {used now tier : Nat}
    (h : (v.accounted pending used now tier).boost ≠ DSQ_TYPE_EMPTY) : v.boost ≠ DSQ_TYPE_EMPTY := by
  dsimp only [TaskView.accounted] at h
  split_ifs at h
  · exact absurd rfl h
  · exact h

theorem continued_boost {v : TaskView} {tier : Nat} (h : (v.continued tier).boost ≠ DSQ_TYPE_EMPTY) :
    v.boost ≠ DSQ_TYPE_EMPTY ∧ v.boostUsed < WAKE_BOOST_BUDGET_NS := by
  dsimp only [TaskView.continued] at h
  split_ifs at h with hended
  · exact absurd rfl h
  · exact ⟨h, Nat.lt_of_not_le fun hover => hended ⟨h, hover⟩⟩

theorem stopped_boost {v : TaskView} {task : TaskStruct} {runnable pending : Bool} {used tier : Nat}
    (h : (v.stopped task runnable pending used tier).boost ≠ DSQ_TYPE_EMPTY) :
    v.boost ≠ DSQ_TYPE_EMPTY := by
  dsimp only [TaskView.stopped] at h
  split_ifs at h
  · exact absurd rfl h
  · exact h

-- A slice that is given back is less than the one that was given.
theorem resumed_le (v : TaskView) (task : TaskStruct) (runnable pending : Bool) (used : Nat) :
    v.resumed task runnable pending used ≤ max v.grantedSlice v.resumeSlice := by
  unfold TaskView.resumed
  split_ifs
  · omega
  · omega

namespace SliceLe

variable {limit : Nat} {life life' : Life} {grant grant' : Grant}

theorem start {m : Machine} {sys : Sys} (h : Sys.Start m sys) (p : Task) (grant : Grant) :
    SliceLe limit (sys.life p) grant := by
  obtain ⟨s, now, hsched, -, hctx, -, -⟩ := h.sched
  have hview : sys.sched.view p = ⟨false, DSQ_TYPE_GREEDY, DSQ_TYPE_EMPTY, 0, 0, 0, 0, 0⟩ := by
    simp [Sched.view, hsched, (lunarInit_spec m now s).taskCtxStore, hctx]
  have hddsp : (sys.sched.task p).ddspLocal = false := h.ddsp p
  constructor
  all_goals simp [Sys.life, hview, hddsp]

-- A task that neither runs nor has a slice to get back.
theorem idle (hphase : life'.phase ≠ .running) (hresume : life'.view.resumeSlice = 0)
    (hslice : life'.view.boost ≠ DSQ_TYPE_EMPTY ∧ life'.phase.sliced ∨ life'.ddsp → life'.slice ≤ limit)
    (hwoken : life'.view.boost ≠ DSQ_TYPE_EMPTY →
      life'.phase ≠ .dequeued .running ∧ life'.phase ≠ .runnable .running) :
    SliceLe limit life' grant' :=
  ⟨hslice, fun _ hp => absurd hp hphase, fun _ => hresume ▸ Nat.zero_le _, fun _ hr => absurd hresume hr,
    hwoken⟩

-- A task that the kernel puts in a local DSQ.
theorem put (hphase : life'.phase = .queued) (hddsp : life'.ddsp = false)
    (h : life'.view.boost ≠ DSQ_TYPE_EMPTY → life'.view.resumeSlice = 0 ∧ life'.slice ≤ limit) :
    SliceLe limit life' grant' := by
  refine ⟨?_, by simp [hphase], ?_, fun hb hr => absurd (h hb).1 hr, by simp [hphase]⟩
  · rintro (⟨hb, -⟩ | hd)
    · exact (h hb).2
    · simp [hddsp] at hd
  · rintro (hb | hd)
    · exact (h hb).1 ▸ Nat.zero_le _
    · simp [hddsp] at hd

-- A task that runs and goes on, in the slice it has or in a new one.
theorem goesOn (h : SliceLe limit life grant) (hphase : life.phase = .running)
    (hphase' : life'.phase = .running) (hddsp : life'.ddsp = life.ddsp)
    (hboost : life'.view.boost ≠ DSQ_TYPE_EMPTY → life.view.boost ≠ DSQ_TYPE_EMPTY)
    (hresume : life'.view.resumeSlice = life.view.resumeSlice)
    (hslice : life.slice ≤ limit → life'.slice ≤ limit) (hgrant : grant.slice ≤ limit → grant'.slice ≤ limit) :
    SliceLe limit life' grant' := by
  have hlimited (h' : life'.view.boost ≠ DSQ_TYPE_EMPTY ∨ life'.ddsp) :
      life.view.boost ≠ DSQ_TYPE_EMPTY ∨ life.ddsp := h'.imp hboost fun hd => hddsp ▸ hd
  refine ⟨fun h' => hslice (h.slice ?_), fun h' _ => hgrant (h.granted (hlimited h') hphase),
    fun h' => hresume ▸ h.resume (hlimited h'), fun hb hr => ?_, by simp [hphase']⟩
  · rcases h' with ⟨hb, -⟩ | hd
    · exact Or.inl ⟨hboost hb, by rw [hphase]; rfl⟩
    · exact Or.inr (hddsp ▸ hd)
  · have := (h.token (hboost hb) (hresume ▸ hr)).1
    simp [hphase] at this

-- lunar_stopping. What it gives back is less than what the task was given.
theorem stops {clock used tier : Nat} {task : TaskStruct} {runnable pending : Bool}
    {charges : List (Nat × Nat)} (h : SliceLe limit life grant) (hs : SliceOk life grant clock)
    (hphase : life.phase = .running) (htask : task.slice = life.slice) :
    SliceLe limit { life with
      phase := if runnable then .stopped else .leaving
      view := life.view.stopped task runnable pending used tier
      charges := charges } grant' := by
  have hnew : (if runnable then Phase.stopped else .leaving) ≠ .running := by cases runnable <;> decide
  have hgranted := hs.granted hphase
  have hresumed := resumed_le life.view task runnable pending used
  refine ⟨fun h' => h.slice ?_, fun _ hp => absurd hp hnew, fun h' => ?_, fun hb hr => ?_, fun _ => ?_⟩
  · exact h'.imp_left fun hb => ⟨stopped_boost hb.1, by rw [hphase]; rfl⟩
  · have hlimited : life.view.boost ≠ DSQ_TYPE_EMPTY ∨ life.ddsp := h'.imp_left stopped_boost
    have hgrant := h.granted hlimited hphase
    have hresume := h.resume hlimited
    dsimp only [TaskView.stopped]
    omega
  · have hzero : life.view.resumeSlice = 0 := by
      by_contra hne
      have := (h.token (stopped_boost hb) hne).1
      simp [hphase] at this
    simp only [TaskView.stopped, TaskView.resumed, hzero] at hr
    split_ifs at hr with hback
    · exact ⟨if_pos hback.2.1, htask ▸ hback.2.2.1⟩
    · exact absurd rfl hr
  · cases runnable
    all_goals simp

variable {m : Machine} {sys sys' : Sys} {log : BoostLog} {event : Event} {p : Task}

-- A boosted task gets the rest of its slice back or a new one.
theorem enqueued {v : TaskView} {slice : Nat} (h : SliceLe limit (sys.life p) grant)
    (hs : SliceOk (sys.life p) grant sys.clock) (hlimit : SLICE_NS ≤ limit)
    (hv : Boosted sys.sched (sys.sched.view p) v)
    (hsame : sys.phase p ≠ .runnable .sleep → v = sys.sched.view p)
    (hslice : v.resumeSlice ≠ 0 ∧ slice = v.resumeSlice ∧ cpuTakenByRt sys.sched (sys.cpuOf p) = false ∨
      (v.resumeSlice = 0 ∨ cpuTakenByRt sys.sched (sys.cpuOf p)) ∧ slice = SLICE_NS)
    (hb : v.boost ≠ DSQ_TYPE_EMPTY ∨ (sys.sched.task p).ddspLocal) : slice ≤ limit := by
  rcases hslice with ⟨hne, rfl, -⟩ | ⟨-, rfl⟩
  · have hphase : sys.phase p ≠ .runnable .sleep := by
      intro hp
      rw [SliceOk.boosted_resume hv] at hne
      exact hne (hs.resume_zero (by simp [Sys.life, hp, Phase.holdsToken]))
    obtain rfl := hsame hphase
    exact h.resume hb
  · exact hlimit

theorem step (hlimit : SLICE_NS ≤ limit) (h : SliceLe limit (sys.life p) (log.grants p))
    (hs : SliceOk (sys.life p) (log.grants p) sys.clock) (hl : LifeStep sys p (sys'.life p) event)
    (hbudget : BudgetKept limit (sys, log) event) :
    SliceLe limit (sys'.life p) (watchGrants log.grants sys event sys' p) := by
  cases hl with
  | same hsubject h' =>
      rw [h', watchGrants_same hsubject]
      exact h
  | initTask hphase h' hboost hresume _ =>
      rw [h']
      exact idle (by simp) hresume (fun hd => h.slice (Or.inr (hd.resolve_left fun hb => hb.1 hboost)))
        fun hb => absurd hboost hb
  | selectCpu hphase h' hv hslice =>
      have hresume : (sys.life p).view.resumeSlice = 0 :=
        hs.resume_zero (by simp [Sys.life, hphase, Phase.holdsToken])
      rw [h']
      refine idle (by simp [Sys.life, hphase]) ((SliceOk.boosted_resume hv).trans hresume) (fun hd => ?_)
        (fun _ => by simp [Sys.life, hphase])
      have hd := hd.resolve_left fun hb => by simp [Sys.life, hphase, Phase.sliced] at hb
      rcases hslice with ⟨hsame, rfl⟩ | rfl
      · exact h.slice (Or.inr (hsame ▸ hd))
      · exact hlimit
  | @runnable _ _ _ origin _ hphase h' =>
      have hresume : (sys.life p).view.resumeSlice = 0 :=
        hs.resume_zero (by simp [Sys.life, hphase, Phase.holdsToken])
      rw [h']
      refine idle (by simp) hresume (fun hd => h.slice (Or.inr ?_)) fun hb => ?_
      · exact hd.resolve_left fun hb => by simp [Phase.sliced] at hb
      · have hwoken := (h.woken hb).1
        simpa [Sys.life, hphase] using hwoken
  | @enqueue _ _ _ v slice _ hv hsame hslice h' =>
      rw [h']
      exact idle (by simp) rfl (fun hd => h.enqueued hs hlimit hv hsame hslice (hd.imp_left And.left))
        (by simp)
  | enqueueLocal _ h' =>
      rw [h']
      exact put rfl rfl fun hb => (hbudget hb).2
  | insertDirect hphase hddsp h' =>
      have hresume : (sys.life p).view.resumeSlice = 0 :=
        hs.resume_zero (by rcases hphase with hp | hp <;> simp [Sys.life, hp, Phase.holdsToken])
      rw [h']
      exact put rfl rfl fun _ => ⟨hresume, h.slice (Or.inr hddsp)⟩
  | restore hphase h' =>
      rw [h']
      exact put rfl rfl fun hb => absurd hphase (h.woken hb).2
  | putBack hphase hslice h' =>
      rw [h']
      refine put rfl rfl fun hb => ⟨?_, h.slice (Or.inl ⟨hb, by simp [Sys.life, hphase, Phase.sliced]⟩)⟩
      by_contra hr
      exact hslice (h.token hb hr).2
  | consumeSlice hphase hleft h' =>
      rw [h']
      exact h.goesOn hphase hphase rfl id rfl (Nat.le_trans hleft) id
  | @replaced k cpu _ _ _ honCpu hphase hslice h' =>
      have hkept : (sys'.sched.task p).slice = 0 := (congrArg Life.slice h').trans hslice
      rw [watchGrants_replaced log.grants honCpu hkept, h']
      exact h.goesOn hphase hphase rfl accounted_boost rfl id id
  | @continued k cpu _ _ _ _ honCpu hphase hslice h' =>
      have hgiven : (sys'.sched.task p).slice = SLICE_NS := congrArg Life.slice h'
      rw [watchGrants_continued log.grants honCpu hgiven, h']
      exact h.goesOn hphase hphase rfl (fun hb => accounted_boost (continued_boost hb).1) rfl
        (fun _ => hlimit) (fun _ => hlimit)
  | running hphase h' =>
      have hslice (hb : (sys.sched.view p).boost ≠ DSQ_TYPE_EMPTY ∨ (sys.sched.task p).ddspLocal) :
          (sys.sched.task p).slice ≤ limit :=
        h.slice (hb.imp_left fun hb => ⟨hb, by simp [Sys.life, hphase, Phase.sliced]⟩)
      rw [watchGrants_running log.grants, h']
      refine ⟨fun hb => hslice (hb.imp_left And.left), fun hb _ => hslice hb, h.resume, fun hb hr => ?_,
        by simp⟩
      have := (h.token hb hr).1
      simp [Sys.life, hphase] at this
  | stopping hphase h' =>
      rw [h']
      exact h.stops hs hphase rfl
  | quiescent _ _ h' =>
      rw [h']
      exact idle (by simp) rfl (fun hd => h.slice (Or.inr (hd.resolve_left fun hb => hb.1 rfl)))
        fun hb => absurd rfl hb

end SliceLe

end Lunar
