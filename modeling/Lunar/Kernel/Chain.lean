import Lunar.Kernel.Boost
import Mathlib.Algebra.BigOperators.Ring.Finset
import Mathlib.Algebra.Order.BigOperators.Group.Finset

namespace Lunar

-- Boosts that are passed on: a boosted task wakes another one and lends it the tier that
-- it has been lent itself.

-- The tier a task has earned.
def ownTier (s : Sched) (p : Task) : Nat :=
  match s.taskCtxStore p with
  | some tctx => sanitizeTier tctx.currentDsqType
  | none => DSQ_TYPE_GREEDY

-- For a part of a run: how long each task has run in an effective tier better than k, and
-- how often it was boosted to such a tier.
structure AboveLog where
  boosts : BoostLog
  spent : Task → Nat
  given : Task → Nat

def AboveLog.start (boosts : BoostLog) : AboveLog := ⟨boosts, fun _ => 0, fun _ => 0⟩

def watchAbove (k : Nat) (log : AboveLog) (sys : Sys) (event : Event) (sys' : Sys) : AboveLog where
  boosts := watchBoosts log.boosts sys event sys'
  spent := fun p => log.spent p +
    if sys.phase p = .running ∧ (sys.sched.view p).tier < k then sys'.clock - sys.clock else 0
  given := fun p => log.given p +
    if (sys'.sched.view p).boost < (sys.sched.view p).boost ∧ (sys'.sched.view p).boost < k then 1 else 0

-- No preemption is pending, and all tasks are among the given ones.
def Unkicked (m : Machine) (tasks : Finset Task) (sys : Sys) (event : Event) : Prop :=
  (∀ c < m.nrCpuIds, (sys.sched.dispatchState c).preemptPending = false) ∧
    match event with
    | .initTask _ p => p ∈ tasks
    | _ => True

instance (m : Machine) (tasks : Finset Task) (sys : Sys) : ∀ event, Decidable (Unkicked m tasks sys event)
  | .initTask _ _ => inferInstanceAs (Decidable (_ ∧ _))
  | .setAttributes _ _ | .selectCpu _ _ _ _ | .runnable _ _ _ _ | .enqueue _ _ _ _ | .enqueueLocal _ _
  | .insertDirect _ | .restore _ | .putBack _ | .consumeSlice _ _ | .dispatch _ _ _ _ | .running _ _
  | .stopping _ _ _ | .quiescent _ _ _ | .schedSwitch _ _ _ => inferInstanceAs (Decidable (_ ∧ True))

-- The kernel gives no boosted task a longer slice than the limit by itself.
def LocalKept (limit : Nat) (sys : Sys) : Event → Prop
  | .enqueueLocal p slice => (sys.sched.view p).boost ≠ DSQ_TYPE_EMPTY → slice ≤ limit
  | _ => True

instance (limit : Nat) (sys : Sys) : ∀ event, Decidable (LocalKept limit sys event)
  | .enqueueLocal _ _ => inferInstanceAs (Decidable (_ → _))
  | .initTask _ _ | .setAttributes _ _ | .selectCpu _ _ _ _ | .runnable _ _ _ _ | .enqueue _ _ _ _
  | .insertDirect _ | .restore _ | .putBack _ | .consumeSlice _ _ | .dispatch _ _ _ _ | .running _ _
  | .stopping _ _ _ | .quiescent _ _ _ | .schedSwitch _ _ _ => inferInstanceAs (Decidable True)

-- The runs before the part.
def unkickedSys (m : Machine) (tasks : Finset Task) (limit : Nat) :
    TransitionSystem (Sys × BoostLog) Event :=
  ((lunarSys m).observe watchBoosts).restrict fun state event =>
    SlicesKept m state event ∧ Unkicked m tasks state.1 event ∧ LocalKept limit state.1 event

-- The part, in which no task has a tier better than k of its own.
def aboveSys (m : Machine) (tasks : Finset Task) (limit k : Nat) :
    TransitionSystem (Sys × AboveLog) Event :=
  ((lunarSys m).observe (watchAbove k)).restrict fun state event =>
    (SlicesKept m (state.1, state.2.boosts) event ∧ Unkicked m tasks state.1 event ∧
        LocalKept limit state.1 event) ∧
      ∀ p ∈ tasks, k ≤ ownTier state.1.sched p

instance (m : Machine) (tasks : Finset Task) (limit : Nat) (state : Sys × BoostLog) (event : Event) :
    Decidable ((unkickedSys m tasks limit).enabled state event) :=
  inferInstanceAs (Decidable (_ ∧ _ ∧ _ ∧ _))

instance (m : Machine) (tasks : Finset Task) (limit k : Nat) (state : Sys × AboveLog) (event : Event) :
    Decidable ((aboveSys m tasks limit k).enabled state event) :=
  inferInstanceAs (Decidable (_ ∧ (_ ∧ _ ∧ _) ∧ _))

-- A task in a run without preemptions: no slice is ever given back, so a boost ends at
-- the first stop at which its budget is used up.
structure Calm (life : Life) : Prop where
  absent : life.phase = .none → life.view.tier = DSQ_TYPE_GREEDY ∧ life.view.boost = DSQ_TYPE_EMPTY
  resume : life.view.resumeSlice = 0
  off : life.view.boost ≠ DSQ_TYPE_EMPTY → life.phase ≠ .running →
    life.view.boostUsed < WAKE_BOOST_BUDGET_NS

namespace Calm

variable {m : Machine} {sys sys' : Sys} {event : Event} {p : Task}

-- A task that is not boosted, or has just been.
theorem unused {life : Life} (hphase : life.phase ≠ .none) (hresume : life.view.resumeSlice = 0)
    (h : life.view.boost ≠ DSQ_TYPE_EMPTY → life.view.boostUsed = 0) : Calm life :=
  ⟨fun hp => absurd hp hphase, hresume, fun hb _ => by rw [h hb]; decide⟩

-- A task with the same boost, if it was not running.
theorem same_boost {life life' : Life} (h : Calm life) (hphase : life'.phase ≠ .none)
    (hold : life.phase ≠ .running) (hresume : life'.view.resumeSlice = 0)
    (hboost : life'.view.boost = life.view.boost) (hused : life'.view.boostUsed = life.view.boostUsed) :
    Calm life' :=
  ⟨fun hp => absurd hp hphase, hresume, fun hb _ => by rw [hused]; exact h.off (hboost ▸ hb) hold⟩

theorem boosted {s : Sched} {life life' : Life} {v : TaskView} (h : Calm life)
    (hphase : life'.phase ≠ .none) (hold : life.phase ≠ .running) (hv : Boosted s life.view v)
    (hresume : life'.view.resumeSlice = 0) (hboost : life'.view.boost = v.boost)
    (hused : life'.view.boostUsed = v.boostUsed) : Calm life' := by
  rcases hv with rfl | ⟨w, -, rfl⟩
  · exact h.same_boost hphase hold hresume hboost hused
  · exact unused hphase hresume fun _ => hused

theorem step (h : Calm (sys.life p)) (hl : LifeStep sys p (sys'.life p) event)
    (hpending : sys.phase p = .running → sys.pending p = false) : Calm (sys'.life p) := by
  have hresume : (sys.sched.view p).resumeSlice = 0 := h.resume
  cases hl with
  | same _ h' => exact h' ▸ h
  | initTask _ h' hboost hresume' _ =>
      rw [h']
      exact unused (by simp) hresume' fun hb => absurd hboost hb
  | @selectCpu _ _ _ v _ _ hphase h' hv _ =>
      have hresume' : v.resumeSlice = 0 := by
        rcases hv with rfl | ⟨w, -, rfl⟩
        all_goals exact hresume
      rw [h']
      exact h.boosted (s := sys.sched) (v := v) (by simp [Sys.life, hphase])
        (by simp [Sys.life, hphase]) hv hresume' rfl rfl
  | runnable hphase h' =>
      rw [h']
      exact h.same_boost (by simp) (by simp [Sys.life, hphase]) hresume rfl rfl
  | @enqueue _ _ _ v _ hphase hv _ _ h' =>
      have hold : (sys.life p).phase ≠ .running := by
        rcases hphase with (hp | hp) | ⟨hp, -⟩ | hp
        all_goals simp [Sys.life, hp]
      rw [h']
      exact h.boosted (s := sys.sched) (v := v) (by simp) hold hv rfl rfl rfl
  | enqueueLocal hphase h' =>
      rw [h']
      exact h.same_boost (by simp) (by rcases hphase with (hp | hp) | hp | hp <;> simp [Sys.life, hp])
        hresume rfl rfl
  | insertDirect hphase _ h' =>
      rw [h']
      exact h.same_boost (by simp) (by rcases hphase with hp | hp <;> simp [Sys.life, hp]) hresume rfl rfl
  | restore hphase h' =>
      rw [h']
      exact h.same_boost (by simp) (by simp [Sys.life, hphase]) hresume rfl rfl
  | putBack hphase _ h' =>
      rw [h']
      exact h.same_boost (by simp) (by simp [Sys.life, hphase]) hresume rfl rfl
  | consumeSlice hphase _ h' =>
      rw [h']
      exact ⟨fun hp => by simp [Sys.life, hphase] at hp, hresume, fun _ hp => absurd hphase hp⟩
  | replaced _ hphase _ h' =>
      rw [h']
      exact ⟨fun hp => by simp [Sys.life, hphase] at hp, hresume, fun _ hp => absurd hphase hp⟩
  | continued _ hphase _ h' =>
      rw [h']
      exact ⟨fun hp => by simp [Sys.life, hphase] at hp, hresume, fun _ hp => absurd hphase hp⟩
  | running _ h' =>
      rw [h']
      exact ⟨by simp, hresume, by simp⟩
  | @stopping k runnable tier hphase h' =>
      have hnone := hpending hphase
      rw [h', hnone]
      refine ⟨fun hp => ?_, ?_, fun hb _ => ?_⟩
      · cases runnable
        all_goals simp at hp
      · simp [TaskView.stopped, TaskView.resumed, hresume]
      · simp only [TaskView.stopped, TaskView.resumed, hresume, Bool.false_eq_true, false_and, if_false,
          true_and] at hb ⊢
        split_ifs at hb with hend
        · exact absurd rfl hb
        · by_contra hover
          exact hend (Or.inr (Nat.le_of_not_lt hover))
  | quiescent _ _ h' =>
      rw [h']
      exact unused (by simp) rfl fun hb => absurd rfl hb

end Calm

-- What happens to a boost: it goes on, it ends, or it is replaced by the tier of a waker.
theorem LifeStep.boost {sys : Sys} {p : Task} {life' : Life} {event : Event}
    (hl : LifeStep sys p life' event) :
    life'.view.boost = (sys.sched.view p).boost ∨ life'.view.boost = DSQ_TYPE_EMPTY ∨
      ∃ w, life'.view.boost = (sys.sched.view w).tier ∧
        (sys.sched.view w).tier < (sys.sched.view p).boost := by
  have hwoken {v : TaskView} (hv : Boosted sys.sched (sys.sched.view p) v) :
      v.boost = (sys.sched.view p).boost ∨ v.boost = DSQ_TYPE_EMPTY ∨
        ∃ w, v.boost = (sys.sched.view w).tier ∧ (sys.sched.view w).tier < (sys.sched.view p).boost := by
    rcases hv with rfl | ⟨w, hlt, rfl⟩
    · exact Or.inl rfl
    · exact Or.inr (Or.inr ⟨w, rfl, hlt⟩)
  cases hl with
  | same _ h' => exact Or.inl (by rw [h']; rfl)
  | initTask _ h' hboost _ _ => exact Or.inr (Or.inl (by rw [h']; exact hboost))
  | selectCpu _ h' hv _ =>
      rw [h']
      exact hwoken hv
  | enqueue _ hv _ _ h' =>
      have h := hwoken hv
      rw [h']
      exact h
  | enqueueLocal _ h' => exact Or.inl (by rw [h']; rfl)
  | insertDirect _ _ h' => exact Or.inl (by rw [h']; rfl)
  | restore _ h' => exact Or.inl (by rw [h']; rfl)
  | putBack _ _ h' => exact Or.inl (by rw [h']; rfl)
  | runnable _ h' => exact Or.inl (by rw [h'])
  | consumeSlice _ _ h' => exact Or.inl (by rw [h']; rfl)
  | running _ h' => exact Or.inl (by rw [h'])
  | replaced _ _ _ h' =>
      rw [h']
      dsimp only [TaskView.accounted]
      split_ifs
      · exact Or.inr (Or.inl rfl)
      · exact Or.inl rfl
  | continued _ _ _ h' =>
      rw [h']
      dsimp only [TaskView.continued, TaskView.accounted]
      split_ifs
      all_goals first | exact Or.inr (Or.inl rfl) | exact Or.inl rfl
  | stopping _ h' =>
      rw [h']
      dsimp only [TaskView.stopped]
      split_ifs
      · exact Or.inr (Or.inl rfl)
      · exact Or.inl rfl
  | quiescent _ _ h' => exact Or.inr (Or.inl (by rw [h']))

theorem boost_change {sys sys' : Sys} {p : Task} {event : Event}
    (hl : LifeStep sys p (sys'.life p) event) :
    (sys'.sched.view p).boost = (sys.sched.view p).boost ∨ (sys'.sched.view p).boost = DSQ_TYPE_EMPTY ∨
      ∃ w, (sys'.sched.view p).boost = (sys.sched.view w).tier ∧
        (sys.sched.view w).tier < (sys.sched.view p).boost := hl.boost

-- What is known in a run without preemptions: every boost keeps its budget.
structure ChainOk (tasks : Finset Task) (limit : Nat) (sys : Sys) (boosts : BoostLog) : Prop where
  budgets : ∀ p, WithinLimit limit (sys.life p) (boosts.grants p) (boosts.ran p) sys.clock
  calm : ∀ p, Calm (sys.life p)
  members : ∀ p ∉ tasks, sys.phase p = .none

namespace ChainOk

variable {m : Machine} {tasks : Finset Task} {limit : Nat} {sys sys' : Sys} {boosts : BoostLog}
  {event : Event}

-- A boosted task that waits is within its budget, and none gets a slice back.
theorem budgetKept (h : ChainOk tasks limit sys boosts) (hinv : Inv m sys) (hs : Step m sys sys' event)
    (hun : Unkicked m tasks sys event) (hlocal : LocalKept limit sys event) :
    BudgetKept limit (sys, boosts) event := by
  cases hs with
  | @stopping k p runnable tier hphase =>
      intro _ _ hback _
      have hcpu := (hinv.tasks p).cpu (by rw [hphase]; rfl)
      have hnone : sys.pending p = false := hun.1 (sys.cpuOf p) hcpu
      exact absurd hback.1 (by simp [hnone])
  | @enqueue k p _ _ _ _ _ _ hphase =>
      intro hb hover
      have hoff : (sys.life p).phase ≠ .running := by
        rcases hphase with (hp | hp) | ⟨hp, -⟩ | ⟨hp, -⟩
        all_goals simp [Sys.life, hp]
      have hless : (sys.sched.view p).boostUsed < WAKE_BOOST_BUDGET_NS := (h.calm p).off hb hoff
      dsimp only at hover
      omega
  | @enqueueLocal p _ hphase =>
      intro hb
      have hoff : (sys.life p).phase ≠ .running := by
        rcases hphase with (hp | hp) | hp | ⟨hp, -⟩
        all_goals simp [Sys.life, hp]
      exact ⟨Nat.le_of_lt ((h.calm p).off hb hoff), (h.calm p).resume, hlocal hb⟩
  | _ => trivial

theorem step (hlimit : SLICE_NS ≤ limit) (h : ChainOk tasks limit sys boosts) (hinv : Inv m sys)
    (hs : Step m sys sys' event) (hclock : sys.clock ≤ sys'.clock)
    (htime : sys'.clock = event.time sys.clock) (hkept : SlicesKept m (sys, boosts) event)
    (hun : Unkicked m tasks sys event) (hlocal : LocalKept limit sys event) :
    ChainOk tasks limit sys' (watchBoosts boosts sys event sys') := by
  have hbudget := h.budgetKept hinv hs hun hlocal
  refine ⟨fun p => ?_, fun p => ?_, fun p hp => ?_⟩
  · exact (h.budgets p).step boosts hlimit hinv (hs.life hinv p) hclock htime hkept hbudget
  · refine (h.calm p).step (hs.life hinv p) fun hphase => ?_
    exact hun.1 (sys.cpuOf p) ((hinv.tasks p).cpu (by rw [hphase]; rfl))
  · have hnone := h.members p hp
    have hl := hs.life hinv p
    generalize hlife : sys'.life p = life' at hl
    change (sys'.life p).phase = .none
    rw [hlife]
    cases hl with
    | same _ h' => exact h' ▸ hnone
    | initTask => exact absurd hun.2 hp
    | insertDirect hphase | enqueueLocal hphase => simp [hnone] at hphase
    | enqueue hphase => simp [hnone] at hphase
    | quiescent hphase => simp [hnone] at hphase
    | replaced _ hphase | continued _ hphase => simp [hnone] at hphase
    | selectCpu hphase | runnable hphase | restore hphase | putBack hphase | consumeSlice hphase
    | running hphase | stopping hphase => simp [hnone] at hphase

theorem start (h : Sys.Start m sys) : ChainOk tasks limit sys .empty where
  budgets := fun p => .start h p _
  calm := by
    obtain ⟨s, now, hsched, -, hctx, -, -⟩ := h.sched
    have hview (p : Task) : sys.sched.view p = ⟨false, DSQ_TYPE_GREEDY, DSQ_TYPE_EMPTY, 0, 0, 0, 0, 0⟩ := by
      simp [Sched.view, hsched, (lunarInit_spec m now s).taskCtxStore, hctx]
    intro p
    refine ⟨fun _ => ?_, ?_, fun hb => absurd ?_ hb⟩
    all_goals simp [Sys.life, hview]
  members := fun p _ => h.phase p

end ChainOk

-- What a task has run above k is paid for by the boosts it was given, but for the boost
-- it had at the start. As long as a boost above k lasts, only what it has been used for.
def SpentOk (limit k boost ran spent given : Nat) : Prop :=
  spent ≤ given * (WAKE_BOOST_BUDGET_NS + limit) +
    if boost < k then ran else WAKE_BOOST_BUDGET_NS + limit

-- With a tier of its own that is not better than k, a task only runs above k boosted.
theorem boost_lt_of_tier_lt {s : Sched} {p : Task} {k : Nat} (hown : k ≤ ownTier s p)
    (htier : (s.view p).tier < k) : (s.view p).boost < k := by
  rw [Sched.view_tier] at htier
  unfold ownTier at hown
  cases hctx : s.taskCtxStore p with
  | none =>
      rw [hctx] at hown htier
      exact absurd hown (Nat.not_le.mpr htier)
  | some tctx =>
      rw [hctx] at hown htier
      rw [Sched.view_of_some hctx]
      dsimp only [effectiveTier, TaskCtx.view] at hown htier ⊢
      split_ifs at htier <;> omega

theorem SpentOk.step {sys sys' : Sys} {event : Event} {p : Task} {limit k : Nat} {log : AboveLog}
    (h : SpentOk limit k (sys.sched.view p).boost (log.boosts.ran p) (log.spent p) (log.given p))
    (hl : LifeStep sys p (sys'.life p) event) (hk : k ≤ DSQ_TYPE_GREEDY)
    (hown : k ≤ ownTier sys.sched p)
    (hbound : (watchBoosts log.boosts sys event sys').ran p ≤ WAKE_BOOST_BUDGET_NS + limit) :
    SpentOk limit k (sys'.sched.view p).boost ((watchAbove k log sys event sys').boosts.ran p)
      ((watchAbove k log sys event sys').spent p) ((watchAbove k log sys event sys').given p) := by
  have hvalues := tier_values
  have htier : (sys.sched.view p).tier < k → (sys.sched.view p).boost < k := boost_lt_of_tier_lt hown
  unfold SpentOk at h ⊢
  dsimp only [watchAbove, watchBoosts] at hbound ⊢
  -- The time until the event.
  have hticked : log.spent p + (if sys.phase p = .running ∧ (sys.sched.view p).tier < k then
        sys'.clock - sys.clock else 0) ≤
      log.given p * (WAKE_BOOST_BUDGET_NS + limit) + if (sys.sched.view p).boost < k then
        (if (sys.sched.view p).boost = DSQ_TYPE_EMPTY then 0
          else log.boosts.ran p + if sys.phase p = .running then sys'.clock - sys.clock else 0)
        else WAKE_BOOST_BUDGET_NS + limit := by
    by_cases hb : (sys.sched.view p).boost < k
    · rw [if_pos hb] at h
      rw [if_pos hb, if_neg (show (sys.sched.view p).boost ≠ DSQ_TYPE_EMPTY by omega)]
      by_cases hrun : sys.phase p = .running
      · simp only [hrun, true_and, if_true]
        split_ifs <;> omega
      · simp only [hrun, false_and, if_false]
        omega
    · rw [if_neg hb] at h
      rw [if_neg hb, if_neg fun hrun => hb (htier hrun.2)]
      exact h
  generalize hran : (if (sys.sched.view p).boost = DSQ_TYPE_EMPTY then 0
    else log.boosts.ran p + if sys.phase p = .running then sys'.clock - sys.clock else 0) = ran'
    at hbound hticked ⊢
  generalize hspent : log.spent p + (if sys.phase p = .running ∧ (sys.sched.view p).tier < k then
        sys'.clock - sys.clock else 0) = spent' at hticked ⊢
  -- The event itself.
  rcases boost_change hl with hsame | hended | ⟨w, hw, hlt⟩
  · rw [hsame, if_neg (fun hless => absurd hless.1 (Nat.lt_irrefl _))]
    exact hticked
  · rw [hended, if_neg (by omega), if_neg (by omega), Nat.add_zero]
    split_ifs at hticked <;> omega
  · rw [hw]
    by_cases hless : (sys.sched.view w).tier < k
    · rw [if_pos ⟨hlt, hless⟩, if_pos hless, Nat.succ_mul]
      split_ifs at hticked <;> omega
    · rw [if_neg fun hboth => hless hboth.2, if_neg hless]
      rw [if_neg (by omega)] at hticked
      exact hticked

-- Nothing is boosted above k, so that nothing can pass such a boost on.
theorem nothing_above {tasks : Finset Task} {sys sys' : Sys} {boosts : BoostLog} {event : Event}
    {limit k : Nat} (h : ChainOk tasks limit sys boosts) (hk : k ≤ DSQ_TYPE_GREEDY) (hown : ∀ p ∈ tasks, k ≤ ownTier sys.sched p)
    (hnone : ∀ p, k ≤ (sys.sched.view p).boost) {p : Task} (hl : LifeStep sys p (sys'.life p) event) :
    k ≤ (sys.sched.view p).tier ∧ k ≤ (sys'.sched.view p).boost := by
  have hvalues := tier_values
  have htier (w : Task) : k ≤ (sys.sched.view w).tier := by
    by_cases hw : w ∈ tasks
    · by_contra hlt
      have := boost_lt_of_tier_lt (hown w hw) (Nat.lt_of_not_le hlt)
      exact absurd (hnone w) (Nat.not_le.mpr this)
    · have habsent : (sys.sched.view w).tier = DSQ_TYPE_GREEDY := ((h.calm w).absent (h.members w hw)).1
      omega
  refine ⟨htier p, ?_⟩
  rcases boost_change hl with hsame | hended | ⟨w, hw, -⟩
  · rw [hsame]
    exact hnone p
  · omega
  · rw [hw]
    exact htier w

-- While no task has earned a tier better than k, every boost above k lasts for its budget
-- and one slice at most, be it of lunar or of the kernel, the tasks that are boosted above k
-- are the only ones that can pass the boost on, and it is gone for good once none of them is
-- left.
theorem boost_passed_on {m : Machine} (tasks : Finset Task) {limit k : Nat} {start : Sys}
    {before : Sys × BoostLog} {after : Sys × AboveLog} (hstart : Sys.Start m start) (hk : IsTier k)
    (hlimit : SLICE_NS ≤ limit) (hbefore : (unkickedSys m tasks limit).Reaches (start, .empty) before)
    (hpart : (aboveSys m tasks limit k).Reaches (before.1, .start before.2) after) :
    ∑ p ∈ tasks, after.2.spent p ≤
      (tasks.card + ∑ p ∈ tasks, after.2.given p) * (WAKE_BOOST_BUDGET_NS + limit) ∧
    ((∀ p ∈ tasks, k ≤ (before.1.sched.view p).boost) →
      ∑ p ∈ tasks, after.2.spent p = 0 ∧ ∑ p ∈ tasks, after.2.given p = 0) := by
  obtain ⟨hinv, hok⟩ := Inv.always (P := ChainOk tasks limit)
    (fun sys sys' boosts event hinv hok hs hclock htime hcond =>
      hok.step hlimit hinv hs hclock htime hcond.1 hcond.2.1 hcond.2.2) hstart (.start hstart) hbefore
  have hinv' : Inv m (before.1, AboveLog.start before.2).1 := hinv
  constructor
  · obtain ⟨-, hok', hspent⟩ := Inv.always_from (P := fun sys log => ChainOk tasks limit sys log.boosts ∧
      ∀ p ∈ tasks, SpentOk limit k (sys.sched.view p).boost (log.boosts.ran p) (log.spent p) (log.given p))
      (fun sys sys' log event hinv hP hs hclock htime hcond => by
        have hok' := hP.1.step hlimit hinv hs hclock htime hcond.1.1 hcond.1.2.1 hcond.1.2.2
        exact ⟨hok', fun p hp => (hP.2 p hp).step (hs.life hinv p) hk.2 (hcond.2 p hp)
          (hok'.budgets p).boosted.bound⟩)
      hinv' ⟨hok, fun p _ => Nat.zero_le _⟩ hpart
    have htask (p : Task) (hp : p ∈ tasks) : after.2.spent p ≤
        (1 + after.2.given p) * (WAKE_BOOST_BUDGET_NS + limit) := by
      have hp := hspent p hp
      have hbound := (hok'.budgets p).boosted.bound
      unfold SpentOk at hp
      rw [Nat.add_mul, Nat.one_mul]
      split_ifs at hp <;> omega
    calc
      ∑ p ∈ tasks, after.2.spent p ≤
          ∑ p ∈ tasks, (1 + after.2.given p) * (WAKE_BOOST_BUDGET_NS + limit) :=
        Finset.sum_le_sum htask
      _ = (tasks.card + ∑ p ∈ tasks, after.2.given p) * (WAKE_BOOST_BUDGET_NS + limit) := by
        rw [← Finset.sum_mul, Finset.sum_add_distrib, ← Finset.card_eq_sum_ones]
  · intro hnone
    have hall (p : Task) : k ≤ (before.1.sched.view p).boost := by
      by_cases hp : p ∈ tasks
      · exact hnone p hp
      · have habsent : (before.1.sched.view p).boost = DSQ_TYPE_EMPTY :=
          ((hok.calm p).absent (hok.members p hp)).2
        exact habsent ▸ Nat.le_succ_of_le hk.2
    obtain ⟨-, -, hzero⟩ := Inv.always_from (P := fun sys log => ChainOk tasks limit sys log.boosts ∧
      ∀ p, k ≤ (sys.sched.view p).boost ∧ log.spent p = 0 ∧ log.given p = 0)
      (fun sys sys' log event hinv hP hs hclock htime hcond => by
        refine ⟨hP.1.step hlimit hinv hs hclock htime hcond.1.1 hcond.1.2.1 hcond.1.2.2, fun p => ?_⟩
        obtain ⟨htier, hboost⟩ := nothing_above hP.1 hk.2 hcond.2 (fun q => (hP.2 q).1) (hs.life hinv p)
        obtain ⟨-, hspent, hgiven⟩ := hP.2 p
        refine ⟨hboost, ?_, ?_⟩
        · dsimp only [watchAbove]
          rw [if_neg fun hrun => absurd htier (Nat.not_le.mpr hrun.2), hspent]
        · dsimp only [watchAbove]
          rw [if_neg fun hless => absurd hboost (Nat.not_le.mpr hless.2), hgiven])
      hinv' ⟨hok, fun p => ⟨hall p, rfl, rfl⟩⟩ hpart
    exact ⟨Finset.sum_eq_zero fun p _ => (hzero p).2.1, Finset.sum_eq_zero fun p _ => (hzero p).2.2⟩

section PingPong

-- Task 3 becomes NORMAL and wakes task 1 in its place; then it is GREEDY again, as it was
-- not woken up for seven seconds.
def handOver : List Event :=
  .initTask (.task 10 0 0) 3 :: nap 100000000 ++ nap 200000000 ++ nap 300000000 ++
    wakeUp (.task 400000000 0 0) 3 0 ++ pickNext (.task 7400000000 0 0) 3 ++
    .initTask (.task 7400000000 0 3) 1 :: .initTask (.task 7400000000 0 3) 4 ::
    wakeUp (.task 7400000000 0 3) 1 0 ++ goToSleep (.task 7400000000 0 3) 3

-- Task p runs for 1 ms, wakes q and sleeps.
def passOn (now : Nat) (p q : Task) : List Event :=
  pickNext (.task now 0 0) p ++ wakeUp (.task (now + 1000000) 0 p) q 0 ++ [.consumeSlice p 0] ++
    goToSleep (.task (now + 1000000) 0 p) p

def pingPong (start : Nat) (rounds : Nat) : List Event :=
  (List.range rounds).flatMap fun i =>
    passOn (start + 2 * i * 1000000) 1 4 ++ passOn (start + (2 * i + 1) * 1000000) 4 1

def handedOver : Sys × BoostLog :=
  ((lunarSys oneCpu).observe watchBoosts).final (oneCpuBoot, .empty) handOver

def pingPonged (rounds : Nat) : Sys × AboveLog :=
  ((lunarSys oneCpu).observe (watchAbove DSQ_TYPE_GREEDY)).final (handedOver.1, .start handedOver.2)
    (pingPong 7400000000 rounds)

-- Tasks 1 and 4 keep the boost alive, for 16 ms after eight rounds.
theorem boost_kept_alive : ∃ start before after, Sys.Start oneCpu start ∧
    (unkickedSys oneCpu {1, 3, 4} SLICE_NS).Reaches (start, .empty) before ∧
    (aboveSys oneCpu {1, 3, 4} SLICE_NS DSQ_TYPE_GREEDY).Reaches (before.1, .start before.2) after ∧
    ({1, 3, 4} : Finset Task).card * (WAKE_BOOST_BUDGET_NS + SLICE_NS) <
      ∑ p ∈ {1, 3, 4}, after.2.spent p :=
  ⟨oneCpuBoot, handedOver, pingPonged 8, Sys.start_boot oneCpu (by decide) fun _ => rfl,
    ⟨handOver, by decide +kernel, rfl⟩, ⟨pingPong 7400000000 8, by decide +kernel, rfl⟩,
    by decide +kernel⟩

theorem boost_passed_on_once : (∑ p ∈ {1, 3, 4}, (pingPonged 1).2.given p) = 2 ∧
    ∑ p ∈ {1, 3, 4}, (pingPonged 1).2.spent p ≤ (3 + 2) * (WAKE_BOOST_BUDGET_NS + SLICE_NS) := by
  have hgiven : (∑ p ∈ {1, 3, 4}, (pingPonged 1).2.given p) = 2 := by decide +kernel
  have hpassed := (boost_passed_on (m := oneCpu) {1, 3, 4} (k := DSQ_TYPE_GREEDY)
    (Sys.start_boot oneCpu (by decide) fun _ => rfl) (by decide) (Nat.le_refl SLICE_NS)
    ⟨handOver, by decide +kernel, rfl⟩ (show (aboveSys oneCpu {1, 3, 4} SLICE_NS DSQ_TYPE_GREEDY).Reaches (handedOver.1, .start handedOver.2)
      (pingPonged 1) from ⟨pingPong 7400000000 1, by decide +kernel, rfl⟩)).1
  rw [hgiven] at hpassed
  exact ⟨hgiven, hpassed⟩

-- The kernel puts task 1 back by itself, for 20 ms.
def kernelSlice : List Event :=
  pickNext (.task 7400000000 0 0) 1 ++
    [.consumeSlice 1 0, .stopping (.task 7401000000 0 1) 1 true, .enqueueLocal 1 20000000,
      .running (.task 7401000000 0 1) 1, .consumeSlice 1 0, .stopping (.task 7421000000 0 1) 1 true]

-- With slices of lunar alone, three tasks and no new boost would stay below this.
example :
    let after := (aboveSys oneCpu {1, 3, 4} 20000000 DSQ_TYPE_GREEDY).final
      (handedOver.1, .start handedOver.2) kernelSlice
    (aboveSys oneCpu {1, 3, 4} 20000000 DSQ_TYPE_GREEDY).Runs
        (handedOver.1, .start handedOver.2) kernelSlice ∧
      (∑ p ∈ {1, 3, 4}, after.2.given p) = 0 ∧
      3 * (WAKE_BOOST_BUDGET_NS + SLICE_NS) < ∑ p ∈ {1, 3, 4}, after.2.spent p := by
  decide +kernel

end PingPong

end Lunar
