import Lunar.Classification

namespace Lunar

-- The two callbacks of a wakeup of p that look for a boost.
def Callback.Boosts (k : Call) (p : Task) (event : Callback) : Prop :=
  (∃ dfl, event = .selectCpu k true dfl p) ∨ ∃ env head, event = .enqueue k env ⟨true, head⟩ p

-- Who can lend p its tier.
structure Lends (k : Call) (s : Sched) (p : Task) (wctx : TaskCtx) : Prop where
  inTask : k.inTask
  other : k.current ≠ p
  idle : (s.task k.current).idle = false
  kthread : (s.task k.current).kthread = false
  ctx : s.taskCtxStore k.current = some wctx

-- The own tier is left alone, and a boost only gives way to a better one.
inductive Lifted (tctx : TaskCtx) : TaskCtx → Prop where
  | kept {tctx' : TaskCtx} (htier : tctx'.currentDsqType = tctx.currentDsqType)
      (hboost : tctx'.boostDsqType = tctx.boostDsqType) (hused : tctx'.boostUsed = tctx.boostUsed) :
      Lifted tctx tctx'
  | better {tctx' : TaskCtx} (htier : tctx'.currentDsqType = tctx.currentDsqType)
      (hboost : tctx'.boostDsqType < tctx.boostDsqType) : Lifted tctx tctx'

theorem applyWakeBoost_cases (k : Call) (s : Sched) (p : Task) (tctx : TaskCtx) :
    applyWakeBoost k s p tctx = tctx ∨
      ∃ wctx, Lends k s p wctx ∧ effectiveTier (some wctx) < tctx.boostDsqType ∧
        applyWakeBoost k s p tctx =
          { tctx with boostDsqType := effectiveTier (some wctx), boostUsed := 0 } := by
  unfold applyWakeBoost
  dsimp only
  split_ifs with htask hself hkthread
  · exact Or.inl rfl
  · exact Or.inl rfl
  · exact Or.inl rfl
  split
  · exact Or.inl rfl
  · rename_i wctx hw
    split_ifs with hbetter
    · have hlends : Lends k s p wctx := by
        rw [not_or] at hself
        refine ⟨by simpa using htask, hself.1, by simpa using hself.2, ?_, hw⟩
        simpa [WAKE_BOOST_FROM_KTHREADS] using hkthread
      exact Or.inr ⟨wctx, hlends, hbetter.2, rfl⟩
    · exact Or.inl rfl

theorem applyWakeBoost_lifted (k : Call) (s : Sched) (p : Task) (tctx : TaskCtx) :
    Lifted tctx (applyWakeBoost k s p tctx) := by
  rcases applyWakeBoost_cases k s p tctx with h | ⟨wctx, -, hbetter, h⟩
  · rw [h]
    exact .kept rfl rfl rfl
  · rw [h]
    exact .better rfl hbetter

section Charges

variable (task : TaskStruct) (now : Nat) (tctx : TaskCtx)

theorem updateTaskDsqType_boost :
    (updateTaskDsqType task tctx now).boostDsqType = tctx.boostDsqType ∧
      (updateTaskDsqType task tctx now).boostUsed = tctx.boostUsed := by
  obtain ⟨tier, crit, h⟩ := updateTaskDsqType_frame task tctx now
  rw [h]
  exact ⟨rfl, rfl⟩

theorem chargePrev_ends (pending : Bool) :
    Ends tctx.boostDsqType (chargePrev task pending now tctx).boostDsqType := by
  obtain ⟨boost, used, hends, h⟩ := chargePrev_accounted task now tctx pending
  rw [h, (updateTaskDsqType_boost ..).1]
  dsimp only
  rw [dutyAccount_boost]
  exact hends

theorem chargeStopped_boost : (chargeStopped task now tctx).boostDsqType = tctx.boostDsqType := by
  obtain ⟨used, h⟩ := chargeStopped_accounted task now tctx
  rw [h, (updateTaskDsqType_boost ..).1]
  exact dutyAccount_boost ..

theorem chargeSleep_boost : (chargeSleep task now tctx).boostDsqType = tctx.boostDsqType ∧
    (chargeSleep task now tctx).boostUsed = tctx.boostUsed := by
  obtain ⟨runAcc, sleepAcc, h⟩ := dutyAccount_frame tctx 0 (elapsed now tctx.blockedAt)
  unfold chargeSleep reevaluate countSample
  dsimp only
  rw [h]
  exact updateTaskDsqType_boost ..

theorem TaskCtx.woken_boost (k : Call) (wakeup : Bool) :
    (tctx.woken k wakeup).boostDsqType = tctx.boostDsqType := by
  unfold TaskCtx.woken
  split_ifs
  · rfl
  · rfl

theorem Ends.trans {boost boost' boost'' : Nat} (h : Ends boost boost') (h' : Ends boost' boost'') :
    Ends boost boost'' := by
  rcases h' with rfl | rfl
  · exact h
  · exact Or.inr rfl

end Charges

-- Where the boost of a task comes from in a callback.
inductive BoostStep (s : Sched) (p : Task) (event : Callback) (boost : Nat) : Prop where
  | none (hboost : boost = DSQ_TYPE_EMPTY)
  | kept {tctx : TaskCtx} (hctx : s.taskCtxStore p = some tctx) (hboost : boost = tctx.boostDsqType)
  | lent {k : Call} {wctx : TaskCtx} (hevent : event.Boosts k p) (hlends : Lends k s p wctx)
      (hboost : boost = effectiveTier (some wctx))

theorem Ends.boostStep {s : Sched} {p : Task} {event : Callback} {tctx : TaskCtx} {boost : Nat}
    (h : Ends tctx.boostDsqType boost) (hctx : s.taskCtxStore p = some tctx) :
    BoostStep s p event boost := by
  rcases h with hboost | hboost
  · exact .kept hctx hboost
  · exact .none hboost

theorem CtxStep.boostStep {s : Sched} {p : Task} {event : Callback} {ctx : Option TaskCtx}
    {log : List (Nat × Nat)} (hstep : CtxStep s p event ctx log) {tctx' : TaskCtx}
    (hctx' : ctx = some tctx') : BoostStep s p event tctx'.boostDsqType := by
  have happly {k : Call} {wakeup : Bool} {tctx : TaskCtx} (hctx : s.taskCtxStore p = some tctx)
      (hevent : wakeup → event.Boosts k p) : BoostStep s p event
        (if wakeup then applyWakeBoost k s p tctx else tctx).boostDsqType := by
    split_ifs with hwakeup
    · rcases applyWakeBoost_cases k s p tctx with h | ⟨wctx, hlends, -, h⟩
      · rw [h]
        exact .kept hctx rfl
      · rw [h]
        exact .lent (hevent hwakeup) hlends rfl
    · exact .kept hctx rfl
  cases hstep with
  | same => exact .kept hctx' rfl
  | initTask =>
      cases hctx'
      apply BoostStep.none
      unfold initTaskCtx
      dsimp only
      split_ifs
      · rfl
      · rfl
  | @selectCpu k ttwu dfl tctx hctx =>
      cases hctx'
      exact happly hctx fun hwakeup => Or.inl ⟨dfl, by rw [hwakeup]⟩
  | @enqueue k env flags tctx _ _ hctx =>
      cases hctx'
      exact happly hctx fun hwakeup => Or.inr ⟨env, flags.head, by rw [← hwakeup]⟩
  | @dispatch k _ _ _ tctx pending _ _ hctx hboost =>
      cases hctx'
      exact ((chargePrev_ends (s.task p) k.now tctx pending).trans hboost).boostStep hctx
  | @running _ tctx _ hctx =>
      cases hctx'
      exact .kept hctx rfl
  | @stopping k _ tctx _ _ hctx hboost =>
      cases hctx'
      rw [chargeStopped_boost] at hboost
      exact hboost.boostStep hctx
  | quiescent =>
      cases hctx'
      exact .none rfl
  | @woken k wakeup tctx hctx =>
      cases hctx'
      rw [TaskCtx.woken_boost]
      exact .kept hctx rfl
  | @slept k wakeup tctx hctx =>
      cases hctx'
      rw [(chargeSleep_boost ..).1, TaskCtx.woken_boost]
      exact .kept hctx rfl
  | @waker _ _ wctx hctx _ =>
      cases hctx'
      exact .kept hctx rfl

section Provenance

variable {m : Machine} {start : Sched}

-- Some task had this tier as its own, at the end of the run or earlier in it.
def HadTier (m : Machine) (start : Sched) (events : List Callback) (tier : Nat) : Prop :=
  ∃ before after, events = before ++ after ∧ ∃ q qctx,
    ((callbacks m).final start before).taskCtxStore q = some qctx ∧ qctx.currentDsqType = tier

theorem HadTier.grow {events : List Callback} {tier : Nat} (h : HadTier m start events tier)
    (event : Callback) : HadTier m start (events ++ [event]) tier := by
  obtain ⟨before, after, rfl, hseen⟩ := h
  exact ⟨before, after ++ [event], List.append_assoc .., hseen⟩

theorem sanitizeTier_eq {tier : Nat} (h : IsTier tier) : sanitizeTier tier = tier := by
  unfold IsTier at h
  unfold sanitizeTier
  rw [if_neg (by omega)]

-- The tier a task runs in is its own, or the boost of a boosted task.
theorem effectiveTier_cases (tctx : TaskCtx) (htier : IsTier tctx.currentDsqType) :
    effectiveTier (some tctx) = tctx.currentDsqType ∨
      effectiveTier (some tctx) = tctx.boostDsqType ∧ tctx.boostDsqType ≠ DSQ_TYPE_EMPTY := by
  have hvalues := tier_values
  have hmost := htier.2
  unfold effectiveTier
  dsimp only
  rw [sanitizeTier_eq htier]
  split_ifs
  · exact Or.inr ⟨rfl, by omega⟩
  · exact Or.inl rfl

-- What a task runs in, if its boost is a tier some task had.
theorem HadTier.effectiveTier {s : Sched} {events : List Callback}
    (hfinal : (callbacks m).final start events = s) (hall : AllClassified s) {p : Task} {tctx : TaskCtx}
    (hctx : s.taskCtxStore p = some tctx)
    (hboost : tctx.boostDsqType ≠ DSQ_TYPE_EMPTY → HadTier m start events tctx.boostDsqType) :
    HadTier m start events (effectiveTier (some tctx)) := by
  rcases effectiveTier_cases tctx (hall p tctx hctx).tier with h | ⟨h, hne⟩
  · rw [h]
    refine ⟨events, [], (List.append_nil _).symm, p, tctx, ?_, rfl⟩
    rw [hfinal, hctx]
  · rw [h]
    exact hboost hne

-- A boost is a tier some task had: a waker passes on its own, or what it was lent itself.
theorem boosts_had (hstart : ∀ p, start.taskCtxStore p = none) {events : List Callback}
    (hruns : (callbacks m).Runs start events) :
    ∀ p tctx, ((callbacks m).final start events).taskCtxStore p = some tctx →
      tctx.boostDsqType ≠ DSQ_TYPE_EMPTY → HadTier m start events tctx.boostDsqType := by
  apply (callbacks m).history_of_runs (P := fun events =>
    ∀ p tctx, ((callbacks m).final start events).taskCtxStore p = some tctx →
      tctx.boostDsqType ≠ DSQ_TYPE_EMPTY → HadTier m start events tctx.boostDsqType) ?_ ?_ hruns
  · intro p tctx hctx
    simp [hstart p] at hctx
  · intro events event ih hbefore he p tctx' hctx' hne
    have hall := allClassified_reaches hstart ⟨events, hbefore, rfl⟩
    rw [TransitionSystem.final_append] at hctx'
    obtain ⟨⟨log, hstep⟩, -⟩ := callbacks_step he p
    cases hstep.boostStep hctx' with
    | none hboost => exact absurd hboost hne
    | @kept tctx hctx hboost =>
        rw [hboost] at hne ⊢
        exact (ih p tctx hctx hne).grow event
    | @lent k wctx _ hlends hboost =>
        rw [hboost]
        exact (HadTier.effectiveTier rfl hall hlends.ctx (ih _ wctx hlends.ctx)).grow event

end Provenance

section Wakeup

variable {tctx tctx1 tctx2 : TaskCtx}

theorem effectiveTier_eq_min (tctx : TaskCtx) :
    effectiveTier (some tctx) = min tctx.boostDsqType (sanitizeTier tctx.currentDsqType) := by
  unfold effectiveTier
  dsimp only
  split_ifs <;> omega

theorem Lifted.boost_le (h : Lifted tctx tctx1) : tctx1.boostDsqType ≤ tctx.boostDsqType := by
  cases h with
  | kept _ hboost _ => exact Nat.le_of_eq hboost
  | better _ hboost => exact Nat.le_of_lt hboost

theorem Lifted.tier (h : Lifted tctx tctx1) : tctx1.currentDsqType = tctx.currentDsqType := by
  cases h with
  | kept htier _ _ => exact htier
  | better htier _ => exact htier

theorem Lifted.boostUsed (h : Lifted tctx tctx1) (hboost : tctx1.boostDsqType = tctx.boostDsqType) :
    tctx1.boostUsed = tctx.boostUsed := by
  cases h with
  | kept _ _ hused => exact hused
  | better _ hbetter => exact absurd hboost (Nat.ne_of_lt hbetter)

theorem Lifted.effectiveTier_le (h : Lifted tctx tctx1) :
    effectiveTier (some tctx1) ≤ effectiveTier (some tctx) := by
  have hboost := h.boost_le
  rw [effectiveTier_eq_min, effectiveTier_eq_min, h.tier]
  omega

-- The callbacks a task gets that is not about to become runnable.
def Callback.Concerns (p : Task) : Callback → Prop
  | .initTask _ q | .selectCpu _ _ _ q | .enqueue _ _ _ q | .running _ q | .stopping _ q _
  | .quiescent _ _ q => q = p
  | .dispatch _ _ _ _ prev => prev = some p
  | _ => False

-- The callbacks between select_cpu and enqueue of one wakeup: runnable, and any of other tasks.
def inWakeup (m : Machine) (p : Task) : TransitionSystem Sched Callback :=
  (callbacks m).restrict fun _ event => ¬ event.Concerns p

-- They may change the own tier of the task, but not its boost.
structure SameBoost (tctx tctx' : TaskCtx) : Prop where
  boost : tctx'.boostDsqType = tctx.boostDsqType
  used : tctx'.boostUsed = tctx.boostUsed

theorem CtxStep.sameBoost {s : Sched} {p : Task} {event : Callback} {ctx : Option TaskCtx}
    {log : List (Nat × Nat)} (hstep : CtxStep s p event ctx log) (hother : ¬ event.Concerns p)
    (hctx : s.taskCtxStore p = some tctx) : ∃ tctx', ctx = some tctx' ∧ SameBoost tctx tctx' := by
  have hsame {tctx0 : TaskCtx} (h : s.taskCtxStore p = some tctx0) : tctx0 = tctx :=
    Option.some.inj (h.symm.trans hctx)
  have hwoken (k : Call) (wakeup : Bool) : SameBoost tctx (tctx.woken k wakeup) := by
    unfold TaskCtx.woken
    split_ifs
    · exact ⟨rfl, rfl⟩
    · exact ⟨rfl, rfl⟩
  cases hstep with
  | same => exact ⟨tctx, hctx, rfl, rfl⟩
  | initTask | selectCpu | enqueue | dispatch | running | stopping | quiescent =>
      exact absurd rfl hother
  | @woken k wakeup tctx0 h =>
      obtain rfl := hsame h
      exact ⟨_, rfl, hwoken k wakeup⟩
  | @slept k wakeup tctx0 h =>
      obtain rfl := hsame h
      obtain ⟨hboost, hused⟩ := chargeSleep_boost (s.task p) k.now (tctx0.woken k wakeup)
      have hstats := hwoken k wakeup
      exact ⟨_, rfl, hboost.trans hstats.boost, hused.trans hstats.used⟩
  | @waker _ _ wctx h _ =>
      obtain rfl := hsame h
      exact ⟨_, rfl, rfl, rfl⟩

theorem CtxStep.lifted {s : Sched} {p : Task} {event : Callback} {ctx : Option TaskCtx}
    {log : List (Nat × Nat)} {k : Call} (hstep : CtxStep s p event ctx log) (hevent : event.Boosts k p)
    (hctx : s.taskCtxStore p = some tctx) : ∃ tctx', ctx = some tctx' ∧ Lifted tctx tctx' := by
  have hsame {tctx0 : TaskCtx} (h : s.taskCtxStore p = some tctx0) : tctx0 = tctx :=
    Option.some.inj (h.symm.trans hctx)
  have happly (k : Call) (wakeup : Bool) :
      Lifted tctx (if wakeup then applyWakeBoost k s p tctx else tctx) := by
    split_ifs
    · exact applyWakeBoost_lifted k s p tctx
    · exact .kept rfl rfl rfl
  rcases hevent with ⟨dfl, rfl⟩ | ⟨env, head, rfl⟩
  · cases hstep with
    | same => exact ⟨tctx, hctx, .kept rfl rfl rfl⟩
    | @selectCpu _ _ _ tctx0 h =>
        obtain rfl := hsame h
        exact ⟨_, rfl, happly k true⟩
  · cases hstep with
    | same => exact ⟨tctx, hctx, .kept rfl rfl rfl⟩
    | @enqueue _ _ _ tctx0 resume migrated h =>
        obtain rfl := hsame h
        have hlifted := happly k true
        refine ⟨_, rfl, ?_⟩
        cases hlifted with
        | kept htier hboost hused => exact .kept htier hboost hused
        | better htier hboost => exact .better htier hboost

theorem inWakeup_runs {m : Machine} {p : Task} {s : Sched} (hctx : s.taskCtxStore p = some tctx)
    {events : List Callback} (hruns : (inWakeup m p).Runs s events) :
    ∃ tctx', ((inWakeup m p).final s events).taskCtxStore p = some tctx' ∧ SameBoost tctx tctx' := by
  apply (inWakeup m p).invariant_of_runs
    (P := fun s' => ∃ tctx', s'.taskCtxStore p = some tctx' ∧ SameBoost tctx tctx') ?_
    ⟨tctx, hctx, rfl, rfl⟩ hruns
  rintro s' event ⟨tctx1, hctx1, hsame⟩ ⟨he, hother⟩
  obtain ⟨⟨log, hstep⟩, -⟩ := callbacks_step he p
  obtain ⟨tctx2, hctx2, hsame'⟩ := hstep.sameBoost hother hctx1
  exact ⟨tctx2, hctx2, hsame'.boost.trans hsame.boost, hsame'.used.trans hsame.used⟩

end Wakeup

-- However tasks wake each other: a task runs in a tier that some task has or had as its own, a
-- boost is taken from a user task that is not idle and wakes p itself, and when both callbacks
-- of a wakeup look for one, the second call takes nothing away that the first one gave.
theorem boost_from_waker {m : Machine} {start : Sched} (hstart : ∀ p, start.taskCtxStore p = none)
    {events : List Callback} (hruns : (callbacks m).Runs start events) :
    let s := (callbacks m).final start events
    (∀ p tctx, s.taskCtxStore p = some tctx → ∃ before after, events = before ++ after ∧ ∃ q qctx,
      ((callbacks m).final start before).taskCtxStore q = some qctx ∧
      qctx.currentDsqType = effectiveTier (some tctx)) ∧
    (∀ event, (callbacks m).enabled s event → ∀ p tctx',
      ((callbacks m).exec s event).taskCtxStore p = some tctx' →
      tctx'.boostDsqType ≠ DSQ_TYPE_EMPTY →
      (∀ tctx, s.taskCtxStore p = some tctx → tctx'.boostDsqType ≠ tctx.boostDsqType) →
      ∃ k wctx, event.Boosts k p ∧ k.inTask ∧ k.current ≠ p ∧ (s.task k.current).idle = false ∧
        (s.task k.current).kthread = false ∧ s.taskCtxStore k.current = some wctx ∧
        tctx'.boostDsqType = effectiveTier (some wctx)) ∧
    ∀ p tctx, s.taskCtxStore p = some tctx →
      ∀ k first, (callbacks m).enabled s first → first.Boosts k p →
      ∀ between, (inWakeup m p).Runs ((callbacks m).exec s first) between →
      ∀ k' second, second.Boosts k' p →
      let s1 := (callbacks m).exec s first
      let s2 := (callbacks m).final s1 between
      let s3 := (callbacks m).exec s2 second
      (callbacks m).enabled s2 second →
      ∃ tctx1 tctx2 tctx3, s1.taskCtxStore p = some tctx1 ∧ s2.taskCtxStore p = some tctx2 ∧
        s3.taskCtxStore p = some tctx3 ∧
        effectiveTier (some tctx1) ≤ effectiveTier (some tctx) ∧
        effectiveTier (some tctx3) ≤ effectiveTier (some tctx2) ∧
        tctx3.boostDsqType ≤ tctx1.boostDsqType ∧
        (tctx3.boostDsqType = tctx1.boostDsqType → tctx3.boostUsed = tctx1.boostUsed) ∧
        -- Only runnable can have made an own tier worse that no boost was in the way of.
        (effectiveTier (some tctx3) ≤ effectiveTier (some tctx1) ∨
          tctx1.currentDsqType < tctx2.currentDsqType ∧ tctx1.currentDsqType ≤ tctx1.boostDsqType) := by
  have hall := allClassified_reaches hstart ⟨events, hruns, rfl⟩
  refine ⟨fun p tctx hctx => ?_, fun event he p tctx' hctx' hne hnew => ?_, ?_⟩
  · exact HadTier.effectiveTier rfl hall hctx (boosts_had hstart hruns p tctx hctx)
  · obtain ⟨⟨log, hstep⟩, -⟩ := callbacks_step he p
    cases hstep.boostStep hctx' with
    | none hboost => exact absurd hboost hne
    | @kept tctx hctx hboost => exact absurd hboost (hnew tctx hctx)
    | @lent k wctx hevent hlends hboost =>
        exact ⟨k, wctx, hevent, hlends.inTask, hlends.other, hlends.idle, hlends.kthread, hlends.ctx,
          hboost⟩
  · intro p tctx hctx k first he hfirst between hbetween k' second hsecond
    dsimp only
    intro he'
    obtain ⟨⟨log, hstep⟩, -⟩ := callbacks_step he p
    obtain ⟨tctx1, hctx1, hlifted1⟩ := hstep.lifted hfirst hctx
    obtain ⟨tctx2, hctx2, hsame⟩ := inWakeup_runs hctx1 hbetween
    obtain ⟨⟨log', hstep'⟩, -⟩ := callbacks_step he' p
    obtain ⟨tctx3, hctx3, hlifted3⟩ := hstep'.lifted hsecond hctx2
    have hboost := hlifted3.boost_le
    rw [hsame.boost] at hboost
    refine ⟨tctx1, tctx2, tctx3, hctx1, hctx2, hctx3, hlifted1.effectiveTier_le,
      hlifted3.effectiveTier_le, hboost, fun heq => ?_, ?_⟩
    · rw [hlifted3.boostUsed (heq.trans hsame.boost.symm), hsame.used]
    · have hall1 := allClassified_step hall he
      have hall2 := (callbacks m).invariant_of_runs (P := AllClassified)
        (fun _ _ h he => allClassified_step h he) hall1 ((callbacks m).runs_of_restrict _ hbetween)
      have htier1 := sanitizeTier_eq (hall1 p tctx1 hctx1).tier
      have htier2 := sanitizeTier_eq (hall2 p tctx2 hctx2).tier
      rw [effectiveTier_eq_min, effectiveTier_eq_min, hlifted3.tier, htier1, htier2]
      omega

-- Task 1 sleeps for nearly a tenth of a second eight times, and then wakes task 2, which is new.

def lentBefore : Sched := { Sched.zeroed with task := fun p => { TaskStruct.zeroed with pid := p } }

def lentRun : List Callback :=
  let k (ms : Nat) (current : Task) : Call := .task (ms * NS_PER_MS) 0 current
  [.initTask (k 1 9) 1, .initTask (k 1 9) 2] ++
    (List.range' 1 8).flatMap fun i =>
      [.runnable (k (100 * i) 9) true 1, .running (k (100 * i) 1) 1,
        .stopping (k (100 * i + 1) 1) 1 false, .quiescent (k (100 * i + 1) 1) true 1]

def lentSched : Sched := (callbacks oneCpu).final lentBefore lentRun

def lentCall : Call := .task (900 * NS_PER_MS) 0 1

def lentSelect : Callback := .selectCpu lentCall true (0, false) 2

def lentEnqueue : Callback := .enqueue lentCall ⟨none, 0⟩ ⟨true, false⟩ 2

theorem boost_from_waker_lent : ∃ tctx2 tctx3,
    ((callbacks oneCpu).final ((callbacks oneCpu).exec lentSched lentSelect)
      [.runnable lentCall true 2]).taskCtxStore 2 = some tctx2 ∧
    ((callbacks oneCpu).exec ((callbacks oneCpu).final ((callbacks oneCpu).exec lentSched lentSelect)
      [.runnable lentCall true 2]) lentEnqueue).taskCtxStore 2 = some tctx3 ∧
    effectiveTier (some tctx3) ≤ effectiveTier (some tctx2) := by
  have hruns : (callbacks oneCpu).Runs lentBefore lentRun := by
    simp [callbacks, lentRun, TransitionSystem.Runs, List.range'_succ]
  have hctx : (lentSched.taskCtxStore 2).isSome := by decide +kernel
  obtain ⟨tctx, hctx⟩ := Option.isSome_iff_exists.mp hctx
  have hfinal : (callbacks oneCpu).final lentBefore lentRun = lentSched := rfl
  obtain ⟨-, -, hwakeup⟩ := boost_from_waker (fun _ => rfl) hruns
  dsimp only at hwakeup
  rw [hfinal] at hwakeup
  have hbetween : (inWakeup oneCpu 2).Runs ((callbacks oneCpu).exec lentSched lentSelect)
      [.runnable lentCall true 2] := ⟨⟨trivial, fun h => h⟩, trivial⟩
  obtain ⟨tctx1, tctx2, tctx3, -, hctx2, hctx3, -, hle, -⟩ := hwakeup 2 tctx hctx lentCall lentSelect trivial
    (Or.inl ⟨(0, false), rfl⟩) [.runnable lentCall true 2] hbetween lentCall lentEnqueue
    (Or.inr ⟨⟨none, 0⟩, false, rfl⟩) trivial
  exact ⟨tctx2, tctx3, hctx2, hctx3, hle⟩

end Lunar
