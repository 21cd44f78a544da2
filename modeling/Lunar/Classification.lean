import Lunar.Callbacks.Contexts
import Lunar.Tiers.Table

namespace Lunar

open Hysteresis

-- The tiers a boost can lift a task into, and none.
def IsBoost (tier : Nat) : Prop :=
  tier = DSQ_TYPE_LC ∨ tier = DSQ_TYPE_INTERACTIVE ∨ tier = DSQ_TYPE_NORMAL ∨ tier = DSQ_TYPE_EMPTY

-- A task_ctx agrees with the table of the tiers, up to the hysteresis.
structure Classified (kthread : Bool) (tctx : TaskCtx) : Prop where
  unknown : kthread = false → tctx.dutySamples < DUTY_SAMPLES_NEEDED →
    tctx.currentDsqType = DSQ_TYPE_GREEDY
  known : kthread = false → DUTY_SAMPLES_NEEDED ≤ tctx.dutySamples →
    targetTier tctx.crit (tctx.duty - DUTY_HYST) ≤ tctx.currentDsqType ∧
      tctx.currentDsqType ≤ targetTier tctx.crit (tctx.duty + DUTY_HYST)
  kernel : kthread = true → tctx.duty < DUTY_CAP_INTERACTIVE →
    tctx.currentDsqType ≤ DSQ_TYPE_INTERACTIVE
  tier : IsTier tctx.currentDsqType
  boost : IsBoost tctx.boostDsqType

section Tiers

theorem updateTaskDsqType_classified (task : TaskStruct) {tctx : TaskCtx} (now : Nat)
    (hboost : IsBoost tctx.boostDsqType) :
    Classified task.kthread (updateTaskDsqType task tctx now) := by
  have htier := bandTier_isTier (calcCrit tctx now) tctx.duty tctx.dutySamples tctx.currentDsqType
  have hvalues := tier_values
  rw [updateTaskDsqType_eq]
  refine ⟨fun huser hfew => ?_, fun huser hmany => ?_, fun hkernel hduty => ?_, ?_, hboost⟩
  · dsimp only at hfew ⊢
    rw [if_neg (by simp [huser]), bandTier, if_pos hfew]
  · dsimp only at hmany ⊢
    rw [if_neg (by simp [huser]), bandTier, if_neg (Nat.not_lt.mpr hmany)]
    exact hold_mem (targetTier_mono _ (by omega)) _
  · dsimp only at hduty ⊢
    rw [if_pos ⟨hkernel, hduty⟩]
    exact Nat.min_le_right ..
  · dsimp only
    unfold IsTier at htier ⊢
    split_ifs <;> omega

theorem Classified.effectiveTier {kthread : Bool} {tctx : TaskCtx} (h : Classified kthread tctx) :
    IsTier (effectiveTier (some tctx)) := by
  refine ⟨?_, effectiveTier_le _⟩
  have hvalues := tier_values
  have hboost := h.boost
  have hsane := (sanitizeTier_isTier tctx.currentDsqType).1
  unfold IsBoost at hboost
  simp only [Lunar.effectiveTier]
  split_ifs <;> omega

-- The boost is no part of the table.
theorem Classified.setBoost {kthread : Bool} {tctx : TaskCtx} (h : Classified kthread tctx)
    {boost : Nat} (hboost : IsBoost boost) (used : Nat) :
    Classified kthread { tctx with boostDsqType := boost, boostUsed := used } :=
  ⟨h.unknown, h.known, h.kernel, h.tier, hboost⟩

theorem isBoost_empty : IsBoost DSQ_TYPE_EMPTY := Or.inr (Or.inr (Or.inr rfl))

end Tiers

-- Every task there is a task_ctx of.
def AllClassified (s : Sched) : Prop :=
  ∀ p tctx, s.taskCtxStore p = some tctx → Classified (s.task p).kthread tctx

section Step

variable {s : Sched}

-- A waker lends a tier it runs in itself, and only one better than GREEDY.
theorem applyWakeBoost_classified (h : AllClassified s) (k : Call) {p : Task} {tctx : TaskCtx}
    (hp : Classified (s.task p).kthread tctx) :
    Classified (s.task p).kthread (applyWakeBoost k s p tctx) := by
  unfold applyWakeBoost
  dsimp only
  split_ifs
  · exact hp
  · exact hp
  · exact hp
  split
  · exact hp
  · rename_i wctx hw
    split_ifs with hbetter
    · have hvalues := tier_values
      have hwaker := (h k.current wctx hw).effectiveTier
      have hsane := (sanitizeTier_isTier tctx.currentDsqType).2
      refine hp.setBoost ?_ 0
      unfold IsTier at hwaker
      unfold IsBoost
      omega
    · exact hp

theorem initTaskCtx_classified (task : TaskStruct) (now : Nat) (old : TaskCtx) :
    Classified task.kthread (initTaskCtx task now old) := by
  have hinteractive : IsTier DSQ_TYPE_INTERACTIVE := by decide
  have hgreedy : IsTier DSQ_TYPE_GREEDY := by decide
  unfold initTaskCtx
  dsimp only
  split_ifs with hkernel
  · refine ⟨fun huser => ?_, fun huser => ?_, fun _ _ => Nat.le_refl _, hinteractive, isBoost_empty⟩
    all_goals exact absurd huser (by simp [hkernel])
  · refine ⟨fun _ _ => rfl, fun _ hmany => ?_, fun hkernel' => absurd hkernel' hkernel, hgreedy,
      isBoost_empty⟩
    exact absurd hmany (Nat.not_le.mpr (show 0 < DUTY_SAMPLES_NEEDED by decide))

-- Charging leaves the boost alone, so that the tier is evaluated next to one that is allowed.
theorem dutyAccount_boost (tctx : TaskCtx) (run slept : Nat) :
    (dutyAccount tctx run slept).boostDsqType = tctx.boostDsqType := by
  obtain ⟨runAcc, sleepAcc, h⟩ := dutyAccount_frame tctx run slept
  rw [h]

theorem Ends.isBoost {boost boost' : Nat} (h : Ends boost boost') (hboost : IsBoost boost) :
    IsBoost boost' := by
  rcases h with rfl | rfl
  · exact hboost
  · exact isBoost_empty

theorem chargePrev_classified (task : TaskStruct) (pending : Bool) (now : Nat) {pctx : TaskCtx}
    (hboost : IsBoost pctx.boostDsqType) : Classified task.kthread (chargePrev task pending now pctx) := by
  obtain ⟨boost, used, hends, h⟩ := chargePrev_accounted task now pctx pending
  rw [h]
  refine updateTaskDsqType_classified task now ?_
  dsimp only
  rw [dutyAccount_boost]
  exact hends.isBoost hboost

theorem chargeStopped_classified (task : TaskStruct) (now : Nat) {tctx : TaskCtx}
    (hboost : IsBoost tctx.boostDsqType) : Classified task.kthread (chargeStopped task now tctx) := by
  obtain ⟨used, h⟩ := chargeStopped_accounted task now tctx
  rw [h]
  refine updateTaskDsqType_classified task now ?_
  dsimp only
  rw [dutyAccount_boost]
  exact hboost

theorem chargeSleep_classified (task : TaskStruct) (now : Nat) {tctx : TaskCtx}
    (hboost : IsBoost tctx.boostDsqType) : Classified task.kthread (chargeSleep task now tctx) := by
  refine updateTaskDsqType_classified task now ?_
  dsimp only [countSample]
  rw [dutyAccount_boost]
  exact hboost

theorem CtxStep.classified {p : Task} {event : Callback} {log : List (Nat × Nat)} {ctx : Option TaskCtx}
    (hstep : CtxStep s p event ctx log) (h : AllClassified s) :
    ∀ tctx, ctx = some tctx → Classified (s.task p).kthread tctx := by
  -- What the table does not look at may change.
  have hframe {tctx tctx' : TaskCtx} (hp : Classified (s.task p).kthread tctx)
      (hcurrent : tctx'.currentDsqType = tctx.currentDsqType) (hcrit : tctx'.crit = tctx.crit)
      (hduty : tctx'.duty = tctx.duty) (hsamples : tctx'.dutySamples = tctx.dutySamples)
      (hboost : IsBoost tctx'.boostDsqType) : Classified (s.task p).kthread tctx' := by
    obtain ⟨hunknown, hknown, hkernel, htier, -⟩ := hp
    constructor
    · rwa [hsamples, hcurrent]
    · rwa [hsamples, hcurrent, hcrit, hduty]
    · rwa [hduty, hcurrent]
    · rwa [hcurrent]
    · exact hboost
  have hwoken {tctx : TaskCtx} (hp : Classified (s.task p).kthread tctx) (k : Call) (wakeup : Bool) :
      Classified (s.task p).kthread (tctx.woken k wakeup) := by
    unfold TaskCtx.woken
    split_ifs
    · exact hframe hp rfl rfl rfl rfl hp.boost
    · exact hp
  have happly {tctx : TaskCtx} (hp : Classified (s.task p).kthread tctx) (k : Call) (wakeup : Bool) :
      Classified (s.task p).kthread (if wakeup then applyWakeBoost k s p tctx else tctx) := by
    split_ifs
    · exact applyWakeBoost_classified h k hp
    · exact hp
  rintro tctx' htctx'
  cases hstep with
  | same => exact h p tctx' htctx'
  | initTask =>
      cases htctx'
      exact initTaskCtx_classified ..
  | @selectCpu k ttwu _ tctx hctx =>
      cases htctx'
      exact happly (h p tctx hctx) k ttwu
  | @enqueue k _ flags tctx _ _ hctx =>
      cases htctx'
      have hp := happly (h p tctx hctx) k flags.wakeup
      exact hframe hp rfl rfl rfl rfl hp.boost
  | @dispatch k _ _ _ tctx pending _ _ hctx hboost =>
      cases htctx'
      have hp := chargePrev_classified (s.task p) pending k.now (h p tctx hctx).boost
      exact hframe hp rfl rfl rfl rfl (hboost.isBoost hp.boost)
  | @running _ tctx _ hctx =>
      cases htctx'
      have hp := h p tctx hctx
      exact hframe hp rfl rfl rfl rfl hp.boost
  | @stopping k _ tctx _ _ hctx hboost =>
      cases htctx'
      have hp := chargeStopped_classified (s.task p) k.now (h p tctx hctx).boost
      exact hframe hp rfl rfl rfl rfl (hboost.isBoost hp.boost)
  | @quiescent _ _ tctx _ hctx =>
      cases htctx'
      exact hframe (h p tctx hctx) rfl rfl rfl rfl isBoost_empty
  | @woken k wakeup tctx hctx =>
      cases htctx'
      exact hwoken (h p tctx hctx) k wakeup
  | @slept k wakeup tctx hctx =>
      cases htctx'
      exact chargeSleep_classified (s.task p) k.now (hwoken (h p tctx hctx) k wakeup).boost
  | @waker _ _ wctx hctx _ =>
      cases htctx'
      have hp := h p wctx hctx
      exact hframe hp rfl rfl rfl rfl hp.boost

theorem allClassified_step {m : Machine} (h : AllClassified s) {event : Callback}
    (he : (callbacks m).enabled s event) : AllClassified ((callbacks m).exec s event) := by
  intro p tctx hctx
  obtain ⟨⟨log, hstep⟩, hkthread⟩ := callbacks_step he p
  rw [hkthread]
  exact hstep.classified h tctx hctx

theorem allClassified_reaches {m : Machine} {start : Sched} (hstart : ∀ p, start.taskCtxStore p = none)
    (hreach : (callbacks m).Reaches start s) : AllClassified s :=
  (callbacks m).invariant_of_reaches (P := AllClassified) (fun _ _ h he => allClassified_step h he)
    (fun p tctx hctx => by simp [hstart p] at hctx) hreach

end Step

-- In whatever order the callbacks come, the tier of a task is the one the table gives
-- for its crit and duty, within the hysteresis.
theorem task_classified {m : Machine} {start s : Sched} (hstart : ∀ p, start.taskCtxStore p = none)
    (hreach : (callbacks m).Reaches start s) :
    (∀ p, IsTier (effectiveTier (s.taskCtxStore p))) ∧
    ∀ p tctx, s.taskCtxStore p = some tctx →
      ((s.task p).kthread = false → tctx.dutySamples < DUTY_SAMPLES_NEEDED →
        tctx.currentDsqType = DSQ_TYPE_GREEDY) ∧
      ((s.task p).kthread = false → DUTY_SAMPLES_NEEDED ≤ tctx.dutySamples →
        (targetTier tctx.crit (tctx.duty - DUTY_HYST) ≤ tctx.currentDsqType ∧
          tctx.currentDsqType ≤ targetTier tctx.crit (tctx.duty + DUTY_HYST)) ∧
        ∀ row ∈ tierRows,
          (tctx.currentDsqType ≤ row.tier → row.edge ≤ tctx.crit ∧ tctx.duty < row.cap + DUTY_HYST) ∧
          (row.edge ≤ tctx.crit → tctx.duty < row.cap - DUTY_HYST → tctx.currentDsqType ≤ row.tier)) ∧
      ((s.task p).kthread → tctx.duty < DUTY_CAP_INTERACTIVE →
        tctx.currentDsqType ≤ DSQ_TYPE_INTERACTIVE) ∧
      IsTier tctx.currentDsqType ∧ IsBoost tctx.boostDsqType := by
  have hall := allClassified_reaches hstart hreach
  refine ⟨fun p => ?_, fun p tctx hctx => ?_⟩
  · cases hctx : s.taskCtxStore p with
    | none => decide
    | some tctx => exact (hall p tctx hctx).effectiveTier
  · have h := hall p tctx hctx
    refine ⟨h.unknown, fun huser hmany => ⟨h.known huser hmany, fun row hrow => ?_⟩, h.kernel, h.tier,
      h.boost⟩
    obtain ⟨hlo, hhi⟩ := h.known huser hmany
    constructor
    · intro hle
      have := (targetTier_le_iff hrow).mp (Nat.le_trans hlo hle)
      omega
    · intro hedge hduty
      have hcap : targetTier tctx.crit (tctx.duty + DUTY_HYST) ≤ row.tier :=
        (targetTier_le_iff hrow).mpr ⟨by omega, by omega⟩
      exact Nat.le_trans hhi hcap

-- A user task and a kernel thread are woken up, run and sleep, three times over.
def classifiedRun : List Callback :=
  let k (ms : Nat) : Call := .task (ms * NS_PER_MS) 0 9
  let round (p : Task) (ms : Nat) : List Callback :=
    [.runnable (k ms) true p, .enqueue (k ms) ⟨none, 0⟩ ⟨true, false⟩ p,
      .dispatch (k ms) (ms * NS_PER_MS) (fun _ => 0) 0 none, .running (k ms) p,
      .stopping (k (ms + 1)) p false, .quiescent (k (ms + 1)) true p]
  [.init fun _ => 0, .initTask (k 1) 1, .initTask (k 1) 2] ++
    round 1 10 ++ round 2 20 ++ round 1 120 ++ round 2 130 ++ round 1 240 ++ round 2 250 ++ round 1 360

def classifiedStart : Sched :=
  { Sched.zeroed with task := fun p => { TaskStruct.zeroed with
      pid := p, kthread := p == 2, nrCpusAllowed := 1, cpusPtr := fun _ => true } }

def classifiedEnd : Sched := (callbacks oneCpu).final classifiedStart classifiedRun

theorem task_classified_run : ∃ tctx kctx,
    classifiedEnd.taskCtxStore 1 = some tctx ∧ classifiedEnd.taskCtxStore 2 = some kctx ∧
      DUTY_SAMPLES_NEEDED ≤ tctx.dutySamples ∧
      targetTier tctx.crit (tctx.duty - DUTY_HYST) ≤ tctx.currentDsqType ∧
      tctx.currentDsqType ≤ targetTier tctx.crit (tctx.duty + DUTY_HYST) ∧
      kctx.duty < DUTY_CAP_INTERACTIVE ∧ kctx.currentDsqType ≤ DSQ_TYPE_INTERACTIVE := by
  have hreach : (callbacks oneCpu).Reaches classifiedStart classifiedEnd :=
    ⟨classifiedRun, by simp [callbacks, classifiedRun, TransitionSystem.Runs], rfl⟩
  obtain ⟨-, hall⟩ := task_classified (fun _ => rfl) hreach
  have huser : (classifiedEnd.taskCtxStore 1).any (DUTY_SAMPLES_NEEDED ≤ ·.dutySamples) := by
    decide +kernel
  have hkernel : (classifiedEnd.taskCtxStore 2).any fun kctx =>
      kctx.duty < (DUTY_CAP_INTERACTIVE : Int) := by
    decide +kernel
  obtain ⟨tctx, htctx, hmany⟩ := (Option.any_eq_true ..).mp huser
  obtain ⟨kctx, hkctx, hduty⟩ := (Option.any_eq_true ..).mp hkernel
  have hmany : DUTY_SAMPLES_NEEDED ≤ tctx.dutySamples := by simpa using hmany
  have hduty : kctx.duty < DUTY_CAP_INTERACTIVE := by simpa using hduty
  obtain ⟨-, hknown, -⟩ := hall 1 tctx htctx
  obtain ⟨-, -, hcapped, -⟩ := hall 2 kctx hkctx
  obtain ⟨hlo, hhi⟩ := (hknown (by decide +kernel) hmany).1
  exact ⟨tctx, kctx, htctx, hkctx, hmany, hlo, hhi, hduty, hcapped (by decide +kernel) hduty⟩

end Lunar
