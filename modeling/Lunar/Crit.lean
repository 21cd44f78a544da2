import Lunar.Callbacks.Contexts
import Lunar.Helpers.Crit
import Lunar.Tiers.Table
import Lunar.Library.Run

namespace Lunar

open Hysteresis

-- p is woken up, or wakes a task.
def Callback.Wakes (p : Task) : Callback → Prop
  | .runnable k wakeup q => wakeup ∧ (q = p ∨ k.current = p)
  | _ => False

instance (p : Task) : ∀ event : Callback, Decidable (event.Wakes p)
  | .runnable _ _ _ => inferInstanceAs (Decidable (_ ∧ _))
  | .init _ | .initTask _ _ | .selectCpu _ _ _ _ | .enqueue _ _ _ _ | .dispatch _ _ _ _ _ | .running _ _
  | .stopping _ _ _ | .quiescent _ _ _ | .schedSwitch _ _ _ | .kernel _ => inferInstanceAs (Decidable False)

-- The crit score of a task is the same at every time.
structure SameCrit (tctx tctx' : TaskCtx) : Prop where
  waitInterval : tctx'.waitInterval = tctx.waitInterval
  wakeInterval : tctx'.wakeInterval = tctx.wakeInterval
  lastWokenAt : tctx'.lastWokenAt = tctx.lastWokenAt
  lastWakeAt : tctx'.lastWakeAt = tctx.lastWakeAt

namespace SameCrit

variable {tctx tctx1 tctx2 : TaskCtx}

theorem trans (h : SameCrit tctx tctx1) (h' : SameCrit tctx1 tctx2) : SameCrit tctx tctx2 :=
  ⟨h'.1.trans h.1, h'.2.trans h.2, h'.3.trans h.3, h'.4.trans h.4⟩

theorem calcCrit (h : SameCrit tctx tctx1) (now : Nat) : calcCrit tctx1 now = Lunar.calcCrit tctx now := by
  rw [calcCrit_eq, calcCrit_eq, h.waitInterval, h.wakeInterval, h.lastWokenAt, h.lastWakeAt]

theorem critOk (h : SameCrit tctx tctx1) (hok : CritOk tctx) : CritOk tctx1 := by
  refine ⟨?_, ?_⟩
  · rw [h.waitInterval]
    exact hok.wait
  · rw [h.wakeInterval]
    exact hok.wake

end SameCrit

section Charges

variable (task : TaskStruct) (now : Nat) (tctx : TaskCtx)

theorem updateTaskDsqType_sameCrit : SameCrit tctx (updateTaskDsqType task tctx now) := by
  obtain ⟨tier, crit, h⟩ := updateTaskDsqType_frame task tctx now
  rw [h]
  exact ⟨rfl, rfl, rfl, rfl⟩

theorem dutyAccount_sameCrit (run slept : Nat) : SameCrit tctx (dutyAccount tctx run slept) := by
  obtain ⟨runAcc, sleepAcc, h⟩ := dutyAccount_frame tctx run slept
  rw [h]
  exact ⟨rfl, rfl, rfl, rfl⟩

-- Each of the charges evaluates the tier last, for the crit score the task had before.

theorem chargePrev_update (pending : Bool) : ∃ charged, SameCrit tctx charged ∧
    chargePrev task pending now tctx = updateTaskDsqType task charged now := by
  obtain ⟨boost, used, -, h⟩ := chargePrev_accounted task now tctx pending
  have hduty := dutyAccount_sameCrit { tctx with boostDsqType := boost, boostUsed := used }
    (elapsed now tctx.startedAt) 0
  refine ⟨_, ?_, h⟩
  exact ⟨hduty.1, hduty.2, hduty.3, hduty.4⟩

theorem chargeStopped_update : ∃ charged, SameCrit tctx charged ∧
    chargeStopped task now tctx = updateTaskDsqType task charged now := by
  obtain ⟨used, h⟩ := chargeStopped_accounted task now tctx
  have hduty := dutyAccount_sameCrit { tctx with boostUsed := used } (elapsed now tctx.startedAt) 0
  refine ⟨_, ?_, h⟩
  exact ⟨hduty.1, hduty.2, hduty.3, hduty.4⟩

theorem chargeSleep_update : ∃ charged, SameCrit tctx charged ∧
    chargeSleep task now tctx = updateTaskDsqType task charged now := by
  unfold chargeSleep reevaluate countSample
  dsimp only
  have hduty := dutyAccount_sameCrit tctx 0 (elapsed now tctx.blockedAt)
  refine ⟨_, ?_, rfl⟩
  exact ⟨hduty.1, hduty.2, hduty.3, hduty.4⟩

-- A crit score of 0 leaves nothing but GREEDY to a user task.
theorem updateTaskDsqType_zero (huser : task.kthread = false) (hcrit : calcCrit tctx now = 0) :
    (updateTaskDsqType task tctx now).currentDsqType = DSQ_TYPE_GREEDY := by
  have htarget (duty : Int) : targetTier (0 : Nat) duty = DSQ_TYPE_GREEDY := by
    have hcap := (tierCapFromDuty_isTier duty).2
    have hwanted : tierFromCrit (0 : Nat) = DSQ_TYPE_GREEDY := by decide
    rw [targetTier_eq, hwanted, Nat.max_eq_left hcap]
  rw [updateTaskDsqType_eq]
  dsimp only
  rw [if_neg (by simp [huser]), hcrit]
  unfold bandTier
  split_ifs
  · rfl
  · rw [htarget, htarget]
    have hband := hold_mem (Nat.le_refl DSQ_TYPE_GREEDY) tctx.currentDsqType
    exact Nat.le_antisymm hband.2 hband.1

end Charges

-- An interval is kept, or a new sample enters it.
def Sampled (interval interval' : Nat) : Prop :=
  interval' = interval ∨
    ∃ sample, interval' = exponentiallyWeightedMovingAvg interval (clampInterval sample)

theorem Sampled.isInterval {interval interval' : Nat} (h : Sampled interval interval')
    (hinterval : IsInterval interval) : IsInterval interval' := by
  rcases h with rfl | ⟨sample, rfl⟩
  · exact hinterval
  · exact hinterval.sampled sample

-- What a callback can do to the crit score of p. init_task starts it anew, at 0.
inductive CritStep (p : Task) (event : Callback) (ctx : Option TaskCtx) (tctx' : TaskCtx) : Prop where
  | fresh (hwait : tctx'.waitInterval = CRIT_INTERVAL_REF) (hwake : tctx'.wakeInterval = CRIT_INTERVAL_REF)
  | kept {tctx : TaskCtx} (hctx : ctx = some tctx) (hsame : SameCrit tctx tctx')
  | sampled {tctx : TaskCtx} (hctx : ctx = some tctx) (hwakes : event.Wakes p)
      (hwait : Sampled tctx.waitInterval tctx'.waitInterval)
      (hwake : Sampled tctx.wakeInterval tctx'.wakeInterval)

theorem CtxStep.critStep {s : Sched} {p : Task} {event : Callback} {ctx : Option TaskCtx}
    {log : List (Nat × Nat)} (hstep : CtxStep s p event ctx log) {tctx' : TaskCtx}
    (hctx' : ctx = some tctx') : CritStep p event (s.taskCtxStore p) tctx' := by
  have happly (k : Call) (wakeup : Bool) (tctx : TaskCtx) :
      SameCrit tctx (if wakeup then applyWakeBoost k s p tctx else tctx) := by
    obtain ⟨boost, used, h⟩ := applyWakeBoost_frame k s p tctx
    rw [h]
    split_ifs
    · exact ⟨rfl, rfl, rfl, rfl⟩
    · exact ⟨rfl, rfl, rfl, rfl⟩
  have hwoken (k : Call) (wakeup : Bool) {tctx after : TaskCtx} (hctx : s.taskCtxStore p = some tctx)
      (hafter : SameCrit (tctx.woken k wakeup) after) :
      CritStep p (.runnable k wakeup p) (s.taskCtxStore p) after := by
    cases wakeup with
    | false => exact .kept hctx hafter
    | true =>
        have hwakes : (Callback.runnable k true p).Wakes p := ⟨rfl, Or.inl rfl⟩
        exact .sampled hctx hwakes (Or.inr ⟨_, hafter.waitInterval⟩) (Or.inl hafter.wakeInterval)
  cases hstep with
  | same => exact .kept hctx' ⟨rfl, rfl, rfl, rfl⟩
  | @initTask k =>
      cases hctx'
      refine .fresh ?_ ?_
      · unfold initTaskCtx
        dsimp only
        split_ifs
        · rfl
        · rfl
      · unfold initTaskCtx
        dsimp only
        split_ifs
        · rfl
        · rfl
  | @selectCpu k ttwu _ tctx hctx =>
      cases hctx'
      exact .kept hctx (happly k ttwu tctx)
  | @enqueue k _ flags tctx _ _ hctx =>
      cases hctx'
      exact .kept hctx ((happly k flags.wakeup tctx).trans ⟨rfl, rfl, rfl, rfl⟩)
  | @dispatch k _ _ _ tctx pending _ _ hctx _ =>
      cases hctx'
      obtain ⟨charged, hcharged, hupdate⟩ := chargePrev_update (s.task p) k.now tctx pending
      rw [hupdate]
      have hsame := hcharged.trans (updateTaskDsqType_sameCrit (s.task p) k.now charged)
      exact .kept hctx (hsame.trans ⟨rfl, rfl, rfl, rfl⟩)
  | @running _ tctx _ hctx =>
      cases hctx'
      exact .kept hctx ⟨rfl, rfl, rfl, rfl⟩
  | @stopping k _ tctx _ _ hctx _ =>
      cases hctx'
      obtain ⟨charged, hcharged, hupdate⟩ := chargeStopped_update (s.task p) k.now tctx
      rw [hupdate]
      have hsame := hcharged.trans (updateTaskDsqType_sameCrit (s.task p) k.now charged)
      exact .kept hctx (hsame.trans ⟨rfl, rfl, rfl, rfl⟩)
  | @quiescent _ _ tctx _ hctx =>
      cases hctx'
      exact .kept hctx ⟨rfl, rfl, rfl, rfl⟩
  | @woken k wakeup tctx hctx =>
      cases hctx'
      exact hwoken k wakeup hctx ⟨rfl, rfl, rfl, rfl⟩
  | @slept k wakeup tctx hctx =>
      cases hctx'
      obtain ⟨charged, hcharged, hupdate⟩ := chargeSleep_update (s.task p) k.now (tctx.woken k wakeup)
      rw [hupdate]
      exact hwoken k wakeup hctx (hcharged.trans (updateTaskDsqType_sameCrit (s.task p) k.now charged))
  | @waker k q wctx hctx hwaker =>
      cases hctx'
      have hwakes : (Callback.runnable k true q).Wakes p := ⟨rfl, Or.inr hwaker⟩
      exact .sampled hctx hwakes (Or.inl rfl) (Or.inr ⟨_, rfl⟩)

theorem CtxStep.critOk {s : Sched} {p : Task} {event : Callback} {ctx : Option TaskCtx}
    {log : List (Nat × Nat)} (hstep : CtxStep s p event ctx log)
    (h : ∀ tctx, s.taskCtxStore p = some tctx → CritOk tctx) : ∀ tctx', ctx = some tctx' → CritOk tctx' := by
  intro tctx' hctx'
  cases hstep.critStep hctx' with
  | fresh hwait hwake =>
      refine ⟨?_, ?_⟩
      · rw [hwait]
        exact isInterval_ref
      · rw [hwake]
        exact isInterval_ref
  | @kept tctx hctx hsame => exact hsame.critOk (h tctx hctx)
  | @sampled tctx hctx _ hwait hwake =>
      have hok := h tctx hctx
      exact ⟨hwait.isInterval hok.wait, hwake.isInterval hok.wake⟩

section Runs

variable {m : Machine} {s : Sched}

-- The callbacks in which p is neither woken up nor wakes a task.
def noWakeup (m : Machine) (p : Task) : TransitionSystem Sched Callback :=
  (callbacks m).restrict fun _ event => ¬ event.Wakes p

-- From now on, crit is at no time above the bound.
def CritBelow (bound now : Nat) (tctx : TaskCtx) : Prop := ∀ now', now ≤ now' → calcCrit tctx now' ≤ bound

theorem critBelow_step {p : Task} {bound now : Nat} {event : Callback}
    (he : (noWakeup m p).enabled s event)
    (h : ∀ tctx, s.taskCtxStore p = some tctx → CritBelow bound now tctx) :
    ∀ tctx', ((noWakeup m p).exec s event).taskCtxStore p = some tctx' → CritBelow bound now tctx' := by
  intro tctx' hctx' now' hnow
  obtain ⟨⟨log, hstep⟩, -⟩ := callbacks_step he.1 p
  cases hstep.critStep hctx' with
  | fresh hwait hwake =>
      -- The intervals are the longest there are.
      have hterm (last : Nat) : critTerm CRIT_INTERVAL_REF last now' = 0 := by
        have hclamp : effectiveInterval CRIT_INTERVAL_REF last now' = CRIT_INTERVAL_REF := by
          rw [isInterval_ref.effectiveInterval_eq]
          apply clampInterval_of_ref_le
          split_ifs <;> omega
        rw [critTerm, hclamp, Nat.div_self (by decide), Nat.log_one_right]
      rw [calcCrit_eq, hwait, hwake, hterm, hterm]
      exact Nat.zero_le _
  | @kept tctx hctx hsame =>
      rw [hsame.calcCrit]
      exact h tctx hctx now' hnow
  | sampled _ hwakes _ _ => exact absurd hwakes he.2

end Runs

theorem charges_zero (task : TaskStruct) (huser : task.kthread = false) {tctx : TaskCtx} {now : Nat}
    (hcrit : calcCrit tctx now = 0) :
    (updateTaskDsqType task tctx now).currentDsqType = DSQ_TYPE_GREEDY ∧
    (∀ pending, (chargePrev task pending now tctx).currentDsqType = DSQ_TYPE_GREEDY) ∧
    (chargeStopped task now tctx).currentDsqType = DSQ_TYPE_GREEDY ∧
    (chargeSleep task now tctx).currentDsqType = DSQ_TYPE_GREEDY := by
  refine ⟨updateTaskDsqType_zero task now tctx huser hcrit, fun pending => ?_, ?_, ?_⟩
  · obtain ⟨charged, hsame, hupdate⟩ := chargePrev_update task now tctx pending
    rw [hupdate]
    exact updateTaskDsqType_zero task now charged huser (by rw [hsame.calcCrit, hcrit])
  · obtain ⟨charged, hsame, hupdate⟩ := chargeStopped_update task now tctx
    rw [hupdate]
    exact updateTaskDsqType_zero task now charged huser (by rw [hsame.calcCrit, hcrit])
  · obtain ⟨charged, hsame, hupdate⟩ := chargeSleep_update task now tctx
    rw [hupdate]
    exact updateTaskDsqType_zero task now charged huser (by rw [hsame.calcCrit, hcrit])

-- Whatever wakes whom and when: crit is the sum of two logarithms and at most 32, it falls until
-- the next wakeup, and it ends at 0, which makes a user task GREEDY wherever its tier is evaluated.
theorem crit_decays {m : Machine} {start s : Sched} (hstart : ∀ p, start.taskCtxStore p = none)
    (hreach : (callbacks m).Reaches start s) {p : Task} {tctx : TaskCtx}
    (hctx : s.taskCtxStore p = some tctx) :
    (CRIT_INTERVAL_MIN ≤ tctx.waitInterval ∧ tctx.waitInterval ≤ CRIT_INTERVAL_REF) ∧
    (CRIT_INTERVAL_MIN ≤ tctx.wakeInterval ∧ tctx.wakeInterval ≤ CRIT_INTERVAL_REF) ∧
    (∀ now,
      let wait := effectiveInterval tctx.waitInterval tctx.lastWokenAt now
      let wake := effectiveInterval tctx.wakeInterval tctx.lastWakeAt now
      let crit := Nat.log 2 (CRIT_INTERVAL_REF / wait) + Nat.log 2 (CRIT_INTERVAL_REF / wake)
      tctx.waitInterval * 8 < 2 ^ 64 ∧ tctx.wakeInterval * 8 < 2 ^ 64 ∧ 0 < wait ∧ 0 < wake ∧
      calcCrit tctx now = crit ∧ crit ≤ 32) ∧
    (∀ events, (noWakeup m p).Runs s events →
      ∀ tctx', ((noWakeup m p).final s events).taskCtxStore p = some tctx' →
        ∀ now now', now ≤ now' → calcCrit tctx' now' ≤ calcCrit tctx now) ∧
    ∀ now, tctx.lastWokenAt + 8 * CRIT_INTERVAL_REF < now →
      tctx.lastWakeAt + 8 * CRIT_INTERVAL_REF < now →
      calcCrit tctx now = 0 ∧ ∀ task : TaskStruct, task.kthread = false →
        (updateTaskDsqType task tctx now).currentDsqType = DSQ_TYPE_GREEDY ∧
        (∀ pending, (chargePrev task pending now tctx).currentDsqType = DSQ_TYPE_GREEDY) ∧
        (chargeStopped task now tctx).currentDsqType = DSQ_TYPE_GREEDY ∧
        (chargeSleep task now tctx).currentDsqType = DSQ_TYPE_GREEDY := by
  have hok := ctx_of_reaches CtxStep.critOk hstart hreach p tctx hctx
  refine ⟨hok.wait, hok.wake, fun now => ?_, fun events hruns tctx' hctx' now now' hnow => ?_,
    fun now hwoken hwake => ?_⟩
  · have hpos (avg last : Nat) : 0 < effectiveInterval avg last now :=
      Nat.lt_of_lt_of_le (by decide) (effectiveInterval_isInterval avg last now).1
    have hle := calcCrit_le tctx now
    have heq := calcCrit_eq tctx now
    exact ⟨hok.wait.fits, hok.wake.fits, hpos _ _, hpos _ _, heq, heq ▸ hle⟩
  · have hbelow := (noWakeup m p).invariant_of_runs
      (P := fun s => ∀ tctx', s.taskCtxStore p = some tctx' → CritBelow (calcCrit tctx now) now tctx')
      (fun _ _ h he => critBelow_step he h)
      (fun tctx2 hctx2 now2 hnow2 => by
        rw [hctx] at hctx2
        obtain rfl := Option.some.inj hctx2
        exact hok.calcCrit_antitone hnow2) hruns
    exact hbelow tctx' hctx' now' hnow
  · have hcrit := hok.calcCrit_stale hwoken hwake
    exact ⟨hcrit, fun task huser => charges_zero task huser hcrit⟩

-- A task that is woken up every millisecond, runs once more, and then nothing happens for a while.
def critRun : List Callback :=
  .initTask (.task 1 0 9) 1 :: (List.range 8).map fun i => .runnable (.task ((i + 1) * NS_PER_MS) 0 9) true 1

def critSched : Sched := (callbacks oneCpu).final .zeroed critRun

theorem crit_decays_woken : ∃ tctx tctx',
    critSched.taskCtxStore 1 = some tctx ∧ 0 < calcCrit tctx (8 * NS_PER_MS) ∧
      ((callbacks oneCpu).exec critSched (.running (.task (9 * NS_PER_MS) 0 1) 1)).taskCtxStore 1 =
        some tctx' ∧
      calcCrit tctx' (9 * NS_PER_MS) ≤ calcCrit tctx (8 * NS_PER_MS) ∧
      calcCrit tctx (8009 * NS_PER_MS) = 0 := by
  have hreach : (callbacks oneCpu).Reaches .zeroed critSched :=
    ⟨critRun, by simp [callbacks, critRun, TransitionSystem.Runs, List.range_succ], rfl⟩
  have hwoken : (critSched.taskCtxStore 1).any fun tctx =>
      0 < calcCrit tctx (8 * NS_PER_MS) ∧ tctx.lastWokenAt = 8 * NS_PER_MS ∧ tctx.lastWakeAt = 1 := by
    decide +kernel
  obtain ⟨tctx, hctx, hpos⟩ := (Option.any_eq_true ..).mp hwoken
  obtain ⟨hpos, hlastWoken, hlastWake⟩ := of_decide_eq_true hpos
  have hran : (((callbacks oneCpu).exec critSched
      (.running (.task (9 * NS_PER_MS) 0 1) 1)).taskCtxStore 1).isSome := by
    decide +kernel
  obtain ⟨tctx', hctx'⟩ := Option.isSome_iff_exists.mp hran
  obtain ⟨-, -, -, hfalls, hends⟩ := crit_decays (fun _ => rfl) hreach hctx
  have hruns : (noWakeup oneCpu 1).Runs critSched [.running (.task (9 * NS_PER_MS) 0 1) 1] :=
    ⟨⟨trivial, fun h => h⟩, trivial⟩
  refine ⟨tctx, tctx', hctx, hpos, hctx', hfalls _ hruns tctx' hctx' _ _ (by decide), ?_⟩
  refine (hends (8009 * NS_PER_MS) ?_ ?_).1
  · rw [hlastWoken]
    decide
  · rw [hlastWake]
    decide

end Lunar
