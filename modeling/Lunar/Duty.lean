import Lunar.Callbacks.Contexts
import Lunar.Helpers.Duty
import Lunar.Library.Run
import Lunar.Tiers.Table

namespace Lunar

open Hysteresis

theorem initTaskCtx_dutyOk (task : TaskStruct) (now : Nat) (old : TaskCtx) :
    DutyOk (initTaskCtx task now old) := by
  have hvalues := duty_values
  have hkernel : KTHREAD_INIT_DUTY_PCT * DUTY_WINDOW_NS / 100 = 8000000 := rfl
  unfold initTaskCtx
  dsimp only
  split_ifs
  · constructor
    · dsimp only
      omega
    · dsimp only
      omega
  · constructor
    · dsimp only
      omega
    · dsimp only
      omega

-- From lunar_init_task on, whatever duty_account is called with, the accumulators stay in
-- the window, and once they have been halved they fill half of it. So nothing overflows, and
-- task_duty is the share of the run time as a fraction of 1024.
theorem duty_window (k : Call) (p : Task) (s : Sched) {tctx : TaskCtx}
    (hinit : (lunarInitTask k p s).taskCtxStore p = some tctx) (calls : List (Nat × Nat)) :
    let last := accountAll tctx calls
    DUTY_INIT_RUN_NS ≤ last.runAcc + last.sleepAcc ∧ last.runAcc + last.sleepAcc ≤ 2 * DUTY_WINDOW_NS ∧
    (∀ before call after, calls = before ++ call :: after →
      Halves (accountAll tctx before) call.1 call.2 → DUTY_WINDOW_NS ≤ last.runAcc + last.sleepAcc) ∧
    (∀ run slept, last.runAcc + min run DUTY_WINDOW_NS < 2 ^ 64 ∧
      last.sleepAcc + min slept DUTY_WINDOW_NS < 2 ^ 64 ∧
      (last.runAcc + min run DUTY_WINDOW_NS) + (last.sleepAcc + min slept DUTY_WINDOW_NS) < 2 ^ 64) ∧
    last.runAcc <<< 10 < 2 ^ 64 ∧ 0 < last.runAcc + last.sleepAcc + 1 ∧
    last.runAcc + last.sleepAcc + 1 < 2 ^ 64 ∧
    taskDuty last = last.runAcc * 1024 / (last.runAcc + last.sleepAcc + 1) ∧ taskDuty last ≤ 1023 := by
  have hfirst : DutyOk tctx := by
    rw [lunarInitTask_eq, Sched.setTaskCtx_taskCtxStore, Function.update_self] at hinit
    cases hinit
    exact initTaskCtx_dutyOk ..
  have hlast := hfirst.accountAll calls
  obtain ⟨hshift, hsum⟩ := hlast.duty_fits
  dsimp only
  refine ⟨hlast.least, hlast.most, fun before call after hcalls hhalves => ?_, hlast.fits, hshift,
    Nat.succ_pos _, hsum, hlast.taskDuty_eq, ?_⟩
  · have hbefore := hfirst.accountAll before
    rw [hcalls, accountAll_concat]
    exact (hbefore.account call.1 call.2).accountAll_window (hbefore.window_of_halves hhalves) after
  · have hlt := DutyOk.duty_lt (accountAll tctx calls)
    rw [hlast.taskDuty_eq]
    omega

-- A kernel thread that has used 150 ms, and then slept for ever.
theorem duty_window_kthread :
    let s : Sched := { Sched.zeroed with task := fun _ => { TaskStruct.zeroed with kthread := true } }
    let tctx := initTaskCtx { TaskStruct.zeroed with kthread := true } 0 .zeroed
    let calls := [(90 * NS_PER_MS, 0), (60 * NS_PER_MS, 0), (0, 2 ^ 64 - 1)]
    (lunarInitTask (.task 0 0 0) 1 s).taskCtxStore 1 = some tctx ∧
      Halves (accountAll tctx [(90 * NS_PER_MS, 0)]) (60 * NS_PER_MS) 0 ∧
      DUTY_WINDOW_NS ≤ (accountAll tctx calls).runAcc + (accountAll tctx calls).sleepAcc := by
  intro s tctx calls
  have hinit : (lunarInitTask (.task 0 0 0) 1 s).taskCtxStore 1 = some tctx := by
    rw [lunarInitTask_eq, Sched.setTaskCtx_taskCtxStore, Function.update_self]
    rfl
  have hhalves : Halves (accountAll tctx [(90 * NS_PER_MS, 0)]) (60 * NS_PER_MS) 0 := by decide +kernel
  exact ⟨hinit, hhalves, (duty_window (.task 0 0 0) 1 s hinit calls).2.2.1 [(90 * NS_PER_MS, 0)]
    (60 * NS_PER_MS, 0) [(0, 2 ^ 64 - 1)] rfl hhalves⟩

-- What one callback does to the accumulators and the tier of a task.

-- A duty above the cap of NORMAL leaves only GREEDY, for a kernel thread too.
theorem updateTaskDsqType_greedy (task : TaskStruct) {tctx : TaskCtx} (now : Nat)
    (hduty : (DUTY_CAP_NORMAL + DUTY_HYST : Nat) ≤ tctx.duty) :
    (updateTaskDsqType task tctx now).currentDsqType = DSQ_TYPE_GREEDY := by
  have hvalues : DUTY_CAP_INTERACTIVE = 102 ∧ DUTY_CAP_NORMAL = 819 ∧ DUTY_HYST = 10 := ⟨rfl, rfl, rfl⟩
  have hcap : tierCapFromDuty (tctx.duty - DUTY_HYST) = DSQ_TYPE_GREEDY := by
    have hlc : DUTY_CAP_LC = 51 := rfl
    unfold tierCapFromDuty
    rw [if_neg (by omega), if_neg (by omega), if_neg (by omega)]
  have hlow : DSQ_TYPE_GREEDY ≤ targetTier (calcCrit tctx now) (tctx.duty - DUTY_HYST) := by
    rw [targetTier_eq, hcap]
    exact Nat.le_max_right ..
  rw [updateTaskDsqType_eq]
  dsimp only
  rw [if_neg (by omega)]
  apply Nat.le_antisymm (bandTier_isTier ..).2
  unfold bandTier
  split_ifs
  · exact Nat.le_refl _
  · have hband := hold_mem (targetTier_mono (calcCrit tctx now)
      (show tctx.duty - DUTY_HYST ≤ tctx.duty + DUTY_HYST by omega)) tctx.currentDsqType
    exact Nat.le_trans hlow hband.1

theorem dutyAccount_accs {tctx tctx' : TaskCtx} (hrun : tctx'.runAcc = tctx.runAcc)
    (hsleep : tctx'.sleepAcc = tctx.sleepAcc) (run slept : Nat) :
    (dutyAccount tctx' run slept).runAcc = (dutyAccount tctx run slept).runAcc ∧
      (dutyAccount tctx' run slept).sleepAcc = (dutyAccount tctx run slept).sleepAcc := by
  unfold dutyAccount
  rw [hrun, hsleep]
  dsimp only
  split_ifs
  all_goals exact ⟨rfl, rfl⟩

theorem taskDuty_accs {tctx tctx' : TaskCtx} (hrun : tctx'.runAcc = tctx.runAcc)
    (hsleep : tctx'.sleepAcc = tctx.sleepAcc) : taskDuty tctx' = taskDuty tctx := by
  rw [taskDuty, hrun, hsleep]
  rfl

-- The tier is evaluated with each call of duty_account, and only then.
inductive DutyStep (tctx tctx' : TaskCtx) : List (Nat × Nat) → Prop where
  | kept (hrun : tctx'.runAcc = tctx.runAcc) (hsleep : tctx'.sleepAcc = tctx.sleepAcc)
      (htier : tctx'.currentDsqType = tctx.currentDsqType) : DutyStep tctx tctx' []
  | charged {run slept : Nat} (hrun : tctx'.runAcc = (dutyAccount tctx run slept).runAcc)
      (hsleep : tctx'.sleepAcc = (dutyAccount tctx run slept).sleepAcc)
      (htier : DUTY_CAP_NORMAL + DUTY_HYST ≤ taskDuty tctx' → tctx'.currentDsqType = DSQ_TYPE_GREEDY) :
      DutyStep tctx tctx' [(run, slept)]

section Charges

variable {tctx tctx' : TaskCtx} (task : TaskStruct) (now : Nat)

-- What the three charges of the callbacks end with.
theorem DutyStep.of_update {before accounted : TaskCtx} {run slept : Nat}
    (hbefore : before.runAcc = tctx.runAcc ∧ before.sleepAcc = tctx.sleepAcc)
    (hrun : accounted.runAcc = (dutyAccount before run slept).runAcc)
    (hsleep : accounted.sleepAcc = (dutyAccount before run slept).sleepAcc)
    (hduty : accounted.duty = taskDuty accounted) :
    DutyStep tctx (updateTaskDsqType task accounted now) [(run, slept)] := by
  obtain ⟨tier, crit, hframe⟩ := updateTaskDsqType_frame task accounted now
  obtain ⟨hrun', hsleep'⟩ := dutyAccount_accs hbefore.1 hbefore.2 run slept
  have hkept : (updateTaskDsqType task accounted now).runAcc = accounted.runAcc ∧
      (updateTaskDsqType task accounted now).sleepAcc = accounted.sleepAcc := by
    rw [hframe]
    exact ⟨rfl, rfl⟩
  refine .charged (hkept.1.trans (hrun.trans hrun')) (hkept.2.trans (hsleep.trans hsleep')) ?_
  intro hcap
  rw [taskDuty_accs hkept.1 hkept.2] at hcap
  exact updateTaskDsqType_greedy task now (by omega)

theorem DutyStep.of_same {log : List (Nat × Nat)} {after : TaskCtx} (h : DutyStep tctx tctx' log)
    (hrun : after.runAcc = tctx'.runAcc) (hsleep : after.sleepAcc = tctx'.sleepAcc)
    (htier : after.currentDsqType = tctx'.currentDsqType) : DutyStep tctx after log := by
  cases h with
  | kept hrun' hsleep' htier' =>
      exact .kept (hrun.trans hrun') (hsleep.trans hsleep') (htier.trans htier')
  | charged hrun' hsleep' htier' =>
      refine .charged (hrun.trans hrun') (hsleep.trans hsleep') fun hcap => ?_
      rw [taskDuty_accs hrun hsleep] at hcap
      exact htier.trans (htier' hcap)

theorem DutyStep.after_kept {first : TaskCtx} {log : List (Nat × Nat)} (h : DutyStep tctx first [])
    (h' : DutyStep first tctx' log) : DutyStep tctx tctx' log := by
  cases h with
  | kept hrun hsleep htier =>
      cases h' with
      | kept hrun' hsleep' htier' =>
          exact .kept (hrun'.trans hrun) (hsleep'.trans hsleep) (htier'.trans htier)
      | @charged run slept hrun' hsleep' htier' =>
          obtain ⟨hruns, hsleeps⟩ := dutyAccount_accs hrun hsleep run slept
          exact .charged (hrun'.trans hruns) (hsleep'.trans hsleeps) htier'

theorem chargePrev_dutyStep (pending : Bool) :
    DutyStep tctx (chargePrev task pending now tctx) [(elapsed now tctx.startedAt, 0)] := by
  obtain ⟨boost, used, -, h⟩ := chargePrev_accounted task now tctx pending
  rw [h]
  refine .of_update task now ?_ rfl rfl rfl
  exact ⟨rfl, rfl⟩

theorem chargeStopped_dutyStep :
    DutyStep tctx (chargeStopped task now tctx) [(elapsed now tctx.startedAt, 0)] := by
  obtain ⟨used, h⟩ := chargeStopped_accounted task now tctx
  rw [h]
  refine .of_update task now ?_ rfl rfl rfl
  exact ⟨rfl, rfl⟩

theorem chargeSleep_dutyStep :
    DutyStep tctx (chargeSleep task now tctx) [(0, elapsed now tctx.blockedAt)] := by
  unfold chargeSleep reevaluate countSample
  dsimp only
  exact .of_update task now ⟨rfl, rfl⟩ rfl rfl rfl

end Charges

theorem CtxStep.dutyStep {s : Sched} {p : Task} {event : Callback} {ctx : Option TaskCtx}
    {log : List (Nat × Nat)} {tctx : TaskCtx} (hstep : CtxStep s p event ctx log)
    (hlasting : ∀ k, event ≠ .initTask k p) (hctx : s.taskCtxStore p = some tctx) :
    ∃ tctx', ctx = some tctx' ∧ DutyStep tctx tctx' log := by
  have hsame {tctx0 : TaskCtx} (h : s.taskCtxStore p = some tctx0) : tctx0 = tctx :=
    Option.some.inj (h.symm.trans hctx)
  have happly (k : Call) (wakeup : Bool) :
      DutyStep tctx (if wakeup then applyWakeBoost k s p tctx else tctx) [] := by
    obtain ⟨boost, used, hboost⟩ := applyWakeBoost_frame k s p tctx
    rw [hboost]
    split_ifs
    · exact .kept rfl rfl rfl
    · exact .kept rfl rfl rfl
  have hwoken (k : Call) (wakeup : Bool) : DutyStep tctx (tctx.woken k wakeup) [] := by
    unfold TaskCtx.woken
    split_ifs
    · exact .kept rfl rfl rfl
    · exact .kept rfl rfl rfl
  cases hstep with
  | same => exact ⟨tctx, hctx, .kept rfl rfl rfl⟩
  | initTask => exact absurd rfl (hlasting _)
  | @selectCpu k ttwu _ tctx0 h =>
      obtain rfl := hsame h
      exact ⟨_, rfl, happly k ttwu⟩
  | @enqueue k _ flags tctx0 _ _ h =>
      obtain rfl := hsame h
      exact ⟨_, rfl, (happly k flags.wakeup).of_same rfl rfl rfl⟩
  | @dispatch k _ _ _ tctx0 pending _ _ h _ =>
      obtain rfl := hsame h
      exact ⟨_, rfl, (chargePrev_dutyStep (s.task p) k.now pending).of_same rfl rfl rfl⟩
  | @running _ tctx0 _ h =>
      obtain rfl := hsame h
      exact ⟨_, rfl, .kept rfl rfl rfl⟩
  | @stopping k _ tctx0 _ _ h _ =>
      obtain rfl := hsame h
      exact ⟨_, rfl, (chargeStopped_dutyStep (s.task p) k.now).of_same rfl rfl rfl⟩
  | @quiescent _ _ tctx0 _ h =>
      obtain rfl := hsame h
      exact ⟨_, rfl, .kept rfl rfl rfl⟩
  | @woken k wakeup tctx0 h =>
      obtain rfl := hsame h
      exact ⟨_, rfl, hwoken k wakeup⟩
  | @slept k wakeup tctx0 h =>
      obtain rfl := hsame h
      have hblocked : (tctx0.woken k wakeup).blockedAt = tctx0.blockedAt := by
        unfold TaskCtx.woken
        split_ifs
        · rfl
        · rfl
      refine ⟨_, rfl, ?_⟩
      rw [← hblocked]
      exact (hwoken k wakeup).after_kept (chargeSleep_dutyStep (s.task p) k.now)
  | @waker _ _ wctx h _ =>
      obtain rfl := hsame h
      exact ⟨_, rfl, .kept rfl rfl rfl⟩

theorem CtxStep.dutyOk {s : Sched} {p : Task} {event : Callback} {ctx : Option TaskCtx}
    {log : List (Nat × Nat)} (hstep : CtxStep s p event ctx log)
    (h : ∀ tctx, s.taskCtxStore p = some tctx → DutyOk tctx) : ∀ tctx', ctx = some tctx' → DutyOk tctx' := by
  intro tctx' hctx'
  by_cases hinit : ∃ k, event = .initTask k p
  · obtain ⟨k, rfl⟩ := hinit
    cases hstep with
    | same => exact h tctx' hctx'
    | initTask =>
        cases hctx'
        exact initTaskCtx_dutyOk ..
  · have hlasting : ∀ k, event ≠ .initTask k p := fun k he => hinit ⟨k, he⟩
    cases hctx : s.taskCtxStore p with
    | none => exact absurd (hstep.of_none hctx hlasting) (by simp [hctx'])
    | some tctx =>
        obtain ⟨tctx2, hctx2, hduty⟩ := hstep.dutyStep hlasting hctx
        obtain rfl : tctx2 = tctx' := Option.some.inj (hctx2.symm.trans hctx')
        have hok := h tctx hctx
        cases hduty with
        | kept hrun hsleep _ => exact hok.of_accs hrun hsleep
        | @charged run slept hrun hsleep _ => exact (hok.account run slept).of_accs hrun hsleep

section Potential

variable {tctx tctx' : TaskCtx}

-- What a halving can cost the sum of the accumulators, next to the run it came with.
def HALVING_LOSS_NS : Nat := DUTY_WINDOW_NS + DUTY_WINDOW_NS / 2 + 1

-- A task that was charged this much without a sleep. Each halving lets the sum fall behind what
-- was charged by a bounded amount, so that total bounds their number from below, and each
-- halves what is left of the sleep.
structure Hogging (total : Nat) (tctx : TaskCtx) : Prop where
  ok : DutyOk tctx
  halvings : ∃ n, tctx.sleepAcc * 2 ^ n ≤ 2 * DUTY_WINDOW_NS ∧
    total + DUTY_INIT_RUN_NS ≤ tctx.runAcc + tctx.sleepAcc + n * HALVING_LOSS_NS ∧
    (n ≠ 0 → DUTY_WINDOW_NS ≤ tctx.runAcc + tctx.sleepAcc)

-- The sleep before is forgotten: what is left of it is at most an eighth of what is known.
structure Spent (tctx : TaskCtx) : Prop where
  ok : DutyOk tctx
  sleep : 8 * tctx.sleepAcc ≤ DUTY_WINDOW_NS
  window : DUTY_WINDOW_NS ≤ tctx.runAcc + tctx.sleepAcc

theorem DutyOk.hogging (h : DutyOk tctx) : Hogging 0 tctx := by
  have hleast := h.least
  have hmost := h.most
  refine ⟨h, 0, ?_, ?_, fun hne => absurd rfl hne⟩
  · omega
  · omega

theorem Hogging.charge {total run : Nat} (h : Hogging total tctx) (hsmall : run ≤ DUTY_WINDOW_NS)
    (hrun : tctx'.runAcc = (dutyAccount tctx run 0).runAcc)
    (hsleep : tctx'.sleepAcc = (dutyAccount tctx run 0).sleepAcc) : Hogging (total + run) tctx' := by
  obtain ⟨n, hleft, htotal, hwindow⟩ := h.halvings
  have hok := (h.ok.account run 0).of_accs hrun hsleep
  have hvalues := duty_values
  have hmost := h.ok.most
  have hloss : HALVING_LOSS_NS = 150000001 := rfl
  rw [h.ok.dutyAccount_eq, Nat.min_eq_left hsmall, Nat.min_eq_left (Nat.zero_le _)] at hrun hsleep
  refine ⟨hok, ?_⟩
  by_cases hhalves : Halves tctx run 0
  · rw [if_pos hhalves] at hrun hsleep
    dsimp only at hrun hsleep
    have hfull := hhalves
    unfold Halves at hfull
    refine ⟨n + 1, ?_, ?_, fun _ => ?_⟩
    · calc tctx'.sleepAcc * 2 ^ (n + 1) = tctx'.sleepAcc * 2 * 2 ^ n := by
            rw [Nat.pow_succ', Nat.mul_assoc]
        _ ≤ tctx.sleepAcc * 2 ^ n := Nat.mul_le_mul_right _ (by omega)
        _ ≤ 2 * DUTY_WINDOW_NS := hleft
    · rw [Nat.succ_mul]
      omega
    · omega
  · rw [if_neg hhalves] at hrun hsleep
    dsimp only at hrun hsleep
    refine ⟨n, ?_, ?_, fun hne => ?_⟩
    · rw [hsleep]
      exact hleft
    · omega
    · have := hwindow hne
      omega

-- 600 ms are more than three halvings can hide.
theorem Hogging.spent {total : Nat} (h : Hogging total tctx) (htotal : 600 * NS_PER_MS ≤ total) :
    Spent tctx := by
  obtain ⟨n, hleft, hsum, hwindow⟩ := h.halvings
  have hvalues := duty_values
  have hmost := h.ok.most
  have hloss : HALVING_LOSS_NS = 150000001 := rfl
  have hms : NS_PER_MS = 1000000 := rfl
  have hmany : 4 ≤ n := by
    by_contra hfew
    have : n * HALVING_LOSS_NS ≤ 3 * HALVING_LOSS_NS := Nat.mul_le_mul_right _ (by omega)
    omega
  have hpow : tctx.sleepAcc * 2 ^ 4 ≤ tctx.sleepAcc * 2 ^ n :=
    Nat.mul_le_mul_left _ (Nat.pow_le_pow_right (by omega) hmany)
  exact ⟨h.ok, by omega, hwindow (by omega)⟩

theorem Spent.charge {run : Nat} (h : Spent tctx) (hrun : tctx'.runAcc = (dutyAccount tctx run 0).runAcc)
    (hsleep : tctx'.sleepAcc = (dutyAccount tctx run 0).sleepAcc) : Spent tctx' := by
  have hok := (h.ok.account run 0).of_accs hrun hsleep
  have hwindow := h.ok.window run 0 h.window
  have hleft := h.sleep
  rw [← hrun, ← hsleep] at hwindow
  refine ⟨hok, ?_, hwindow⟩
  rw [h.ok.dutyAccount_eq, Nat.min_eq_left (Nat.zero_le _)] at hsleep
  split_ifs at hsleep
  · dsimp only at hsleep
    omega
  · dsimp only at hsleep
    omega

theorem Spent.duty (h : Spent tctx) : DUTY_CAP_NORMAL + DUTY_HYST ≤ taskDuty tctx := by
  have hvalues := duty_values
  have hcaps : DUTY_CAP_NORMAL = 819 ∧ DUTY_HYST = 10 := ⟨rfl, rfl⟩
  have hsleep := h.sleep
  have hwindow := h.window
  rw [h.ok.taskDuty_eq, hcaps.1, hcaps.2, Nat.le_div_iff_mul_le (Nat.succ_pos _)]
  omega

end Potential

section Steps

variable {tctx tctx' : TaskCtx} {log : List (Nat × Nat)}

theorem Spent.step (h : Spent tctx) (hlog : ∀ c ∈ log, c.2 = 0) (hstep : DutyStep tctx tctx' log) :
    Spent tctx' := by
  cases hstep with
  | kept hrun hsleep _ =>
      obtain ⟨hok, hleft, hwindow⟩ := h
      refine ⟨hok.of_accs hrun hsleep, ?_, ?_⟩
      · rwa [hsleep]
      · rwa [hrun, hsleep]
  | @charged run slept hrun hsleep _ =>
      obtain rfl : slept = 0 := hlog (run, slept) (List.mem_singleton_self _)
      exact h.charge hrun hsleep

theorem Spent.greedy (h : Spent tctx) (hlog : ∀ c ∈ log, c.2 = 0) (hstep : DutyStep tctx tctx' log)
    (hgreedy : tctx.currentDsqType = DSQ_TYPE_GREEDY) : tctx'.currentDsqType = DSQ_TYPE_GREEDY := by
  have hspent := h.step hlog hstep
  cases hstep with
  | kept _ _ htier => rw [htier, hgreedy]
  | charged _ _ htier => exact htier hspent.duty

-- A task that has been charged new since it last slept.
structure Hog (new : List (Nat × Nat)) (tctx : TaskCtx) : Prop where
  hogging : Hogging (new.map (·.1)).sum tctx
  greedy : 600 * NS_PER_MS ≤ (new.map (·.1)).sum → tctx.currentDsqType = DSQ_TYPE_GREEDY

theorem Hog.step {new : List (Nat × Nat)} (h : Hog new tctx)
    (hlog : ∀ c ∈ log, c.2 = 0 ∧ c.1 ≤ DUTY_WINDOW_NS) (hstep : DutyStep tctx tctx' log) :
    Hog (log ++ new) tctx' := by
  cases hstep with
  | kept hrun hsleep htier =>
      obtain ⟨⟨hok, hhalvings⟩, hgreedy⟩ := h
      refine ⟨⟨hok.of_accs hrun hsleep, ?_⟩, ?_⟩
      · rwa [hrun, hsleep]
      · rwa [htier]
  | @charged run slept hrun hsleep htier =>
      obtain ⟨hslept, hsmall⟩ := hlog (run, slept) (List.mem_singleton_self _)
      obtain rfl : slept = 0 := hslept
      have hhog := h.hogging.charge hsmall hrun hsleep
      rw [Nat.add_comm] at hhog
      exact ⟨hhog, fun htotal => htier (hhog.spent htotal).duty⟩

end Steps

-- The callbacks in the lifetime of p: it is not set up anew.
def lasting (m : Machine) (p : Task) : TransitionSystem Sched Callback :=
  (callbacks m).restrict fun s event => event.KeepsRecord s ∧ ∀ k, event ≠ .initTask k p

section Runs

variable {m : Machine} {p : Task} {s : Sched}

theorem lasting_step {event : Callback} (he : (lasting m p).enabled s event) {tctx : TaskCtx}
    (hctx : s.taskCtxStore p = some tctx) :
    ∃ tctx' log, ((lasting m p).exec s event).taskCtxStore p = some tctx' ∧
      ((lasting m p).exec s event).charges p = log ++ s.charges p ∧ DutyStep tctx tctx' log := by
  obtain ⟨hcallback, hrecord, hlasting⟩ := he
  obtain ⟨log, hstep, hcharges⟩ := (callbacks_stepped hcallback hrecord).step p
  obtain ⟨tctx', hctx', hduty⟩ := hstep.dutyStep hlasting hctx
  exact ⟨tctx', log, hctx', hcharges, hduty⟩

-- What holds of a task_ctx and the charges since the run began, if every step keeps it for
-- the charges it makes. Charges outside the condition put an end to it.
theorem lasting_runs {charge : Nat × Nat → Prop} {P : List (Nat × Nat) → TaskCtx → Prop}
    (hstep : ∀ {new log tctx tctx'}, P new tctx → (∀ c ∈ log, charge c) → DutyStep tctx tctx' log →
      P (log ++ new) tctx')
    {tctx : TaskCtx} (hctx : s.taskCtxStore p = some tctx) (hstart : P [] tctx)
    {events : List Callback} (hruns : (lasting m p).Runs s events) {new : List (Nat × Nat)}
    (hnew : ((lasting m p).final s events).charges p = new ++ s.charges p)
    (hcharge : ∀ c ∈ new, charge c) :
    ∃ tctx', ((lasting m p).final s events).taskCtxStore p = some tctx' ∧ P new tctx' := by
  have hinv := (lasting m p).invariant_of_runs
    (P := fun s' => ∃ tctx' new, s'.taskCtxStore p = some tctx' ∧ s'.charges p = new ++ s.charges p ∧
      ((∀ c ∈ new, charge c) → P new tctx')) ?_ ⟨tctx, [], hctx, rfl, fun _ => hstart⟩ hruns
  · obtain ⟨tctx', new', hctx', hnew', hP⟩ := hinv
    rw [hnew] at hnew'
    obtain rfl := List.append_cancel_right hnew'
    exact ⟨tctx', hctx', hP hcharge⟩
  · rintro s' event ⟨tctx', new', hctx', hnew', hP⟩ he
    obtain ⟨tctx2, log, hctx2, hcharges, hduty⟩ := lasting_step he hctx'
    refine ⟨tctx2, log ++ new', hctx2, ?_, fun hall => ?_⟩
    · rw [hcharges, hnew', List.append_assoc]
    · rw [List.forall_mem_append] at hall
      exact hstep (hP hall.2) hall.1 hduty

end Runs

-- Whatever a task did before: charged 600 ms without a sleep, in runs of at most the window, it
-- is GREEDY, and it stays so for as long as no sleep is credited to it.
theorem hog_greedy {m : Machine} {start s : Sched} (hstart : ∀ p, start.taskCtxStore p = none)
    (hreach : (callbacks m).Reaches start s) {p : Task} {tctx : TaskCtx}
    (hctx : s.taskCtxStore p = some tctx) {events : List Callback}
    (hruns : (lasting m p).Runs s events) {charges : List (Nat × Nat)}
    (hcharges : ((lasting m p).final s events).charges p = charges ++ s.charges p)
    (hrun : ∀ c ∈ charges, c.2 = 0 ∧ c.1 ≤ DUTY_WINDOW_NS)
    (htotal : 600 * NS_PER_MS ≤ (charges.map (·.1)).sum) :
    let s1 := (lasting m p).final s events
    (∃ tctx1, s1.taskCtxStore p = some tctx1 ∧ tctx1.currentDsqType = DSQ_TYPE_GREEDY) ∧
    ∀ (more : List Callback) (later : List (Nat × Nat)), (lasting m p).Runs s1 more →
      ((lasting m p).final s1 more).charges p = later ++ s1.charges p → (∀ c ∈ later, c.2 = 0) →
      ∃ tctx2, ((lasting m p).final s1 more).taskCtxStore p = some tctx2 ∧
        tctx2.currentDsqType = DSQ_TYPE_GREEDY := by
  have hok := ctx_of_reaches CtxStep.dutyOk hstart hreach p tctx hctx
  obtain ⟨tctx1, hctx1, hhog, hgreedy⟩ := lasting_runs (P := Hog) (fun h hlog => h.step hlog) hctx
    ⟨hok.hogging, fun h => absurd h (by decide)⟩ hruns hcharges hrun
  refine ⟨⟨tctx1, hctx1, hgreedy htotal⟩, fun more later hmore hlater hslept => ?_⟩
  obtain ⟨tctx2, hctx2, -, hgreedy2⟩ := lasting_runs
    (P := fun _ tctx => Spent tctx ∧ tctx.currentDsqType = DSQ_TYPE_GREEDY)
    (fun h hlog hstep => ⟨h.1.step hlog hstep, h.1.greedy hlog hstep h.2⟩) hctx1
    ⟨hhog.spent htotal, hgreedy htotal⟩ hmore hlater hslept
  exact ⟨tctx2, hctx2, hgreedy2⟩

-- A kernel thread sleeps for half a second, then it runs for six whole windows, and goes on.

def hogSleeps : List Callback :=
  [.initTask (.task 1 0 9) 1, .quiescent (.task 2 0 1) true 1,
    .runnable (.task (500 * NS_PER_MS) 0 9) true 1]

def hogBefore : Sched :=
  { Sched.zeroed with task := fun _ => { TaskStruct.zeroed with kthread := true } }

def hogAwake : Sched := (callbacks oneCpu).final hogBefore hogSleeps

def hogRuns (windows : List Nat) : List Callback :=
  windows.flatMap fun i =>
    [.running (.task (i * DUTY_WINDOW_NS) 0 1) 1, .stopping (.task ((i + 1) * DUTY_WINDOW_NS) 0 1) 1 true]

def hogWindows : List (Nat × Nat) := List.replicate 6 (DUTY_WINDOW_NS, 0)

theorem hog_greedy_kthread :
    (hogAwake.taskCtxStore 1).map (·.currentDsqType) = some DSQ_TYPE_INTERACTIVE ∧
      ∃ tctx, ((lasting oneCpu 1).final ((lasting oneCpu 1).final hogAwake (hogRuns [5, 6, 7, 8, 9, 10]))
        (hogRuns [11])).taskCtxStore 1 = some tctx ∧ tctx.currentDsqType = DSQ_TYPE_GREEDY := by
  have hreach : (callbacks oneCpu).Reaches hogBefore hogAwake :=
    ⟨hogSleeps, by simp [callbacks, hogSleeps, TransitionSystem.Runs], rfl⟩
  have hruns (s : Sched) (windows : List Nat) : (lasting oneCpu 1).Runs s (hogRuns windows) := by
    induction windows generalizing s with
    | nil => trivial
    | cons i rest ih =>
        have hevent (k : Call) (s : Sched) : (lasting oneCpu 1).enabled s (.running k 1) ∧
            (lasting oneCpu 1).enabled s (.stopping k 1 true) := by
          simp [lasting, TransitionSystem.restrict, callbacks, Callback.KeepsRecord]
        exact ⟨(hevent _ _).1, (hevent _ _).2, ih _⟩
  have hinteractive : (hogAwake.taskCtxStore 1).map (·.currentDsqType) = some DSQ_TYPE_INTERACTIVE := by
    decide +kernel
  obtain ⟨tctx, hctx, -⟩ := Option.map_eq_some_iff.mp hinteractive
  have hcharges : ((lasting oneCpu 1).final hogAwake (hogRuns [5, 6, 7, 8, 9, 10])).charges 1 =
      hogWindows ++ hogAwake.charges 1 := by
    decide +kernel
  have hlater : ((lasting oneCpu 1).final ((lasting oneCpu 1).final hogAwake
      (hogRuns [5, 6, 7, 8, 9, 10])) (hogRuns [11])).charges 1 =
      [(DUTY_WINDOW_NS, 0)] ++ ((lasting oneCpu 1).final hogAwake (hogRuns [5, 6, 7, 8, 9, 10])).charges 1 := by
    decide +kernel
  exact ⟨hinteractive, (hog_greedy (fun _ => rfl) hreach hctx (hruns _ _) hcharges (by decide)
    (by decide)).2 (hogRuns [11]) [(DUTY_WINDOW_NS, 0)] (hruns _ _) hlater (by decide)⟩

end Lunar
