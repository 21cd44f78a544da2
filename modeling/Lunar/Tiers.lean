import Lunar.Helpers

namespace Lunar

def tierFromCrit (crit : Int) : Nat :=
  if crit ≥ CRIT_EDGE_LC then DSQ_TYPE_LC
  else if crit ≥ CRIT_EDGE_INTERACTIVE then DSQ_TYPE_INTERACTIVE
  else if crit ≥ CRIT_EDGE_NORMAL then DSQ_TYPE_NORMAL
  else DSQ_TYPE_GREEDY

def tierCapFromDuty (duty : Int) : Nat :=
  if duty < DUTY_CAP_LC then DSQ_TYPE_LC
  else if duty < DUTY_CAP_INTERACTIVE then DSQ_TYPE_INTERACTIVE
  else if duty < DUTY_CAP_NORMAL then DSQ_TYPE_NORMAL
  else DSQ_TYPE_GREEDY

def targetTier (crit duty : Int) : Nat :=
  let wanted := tierFromCrit crit
  let allowed := tierCapFromDuty duty
  if wanted > allowed then wanted else allowed

def sanitizeTier (tier : Nat) : Nat :=
  if tier < DSQ_TYPE_LC ∨ tier > DSQ_TYPE_GREEDY then DSQ_TYPE_GREEDY else tier

def updateTaskDsqType (task : TaskStruct) (tctx : TaskCtx) (now : Nat) : TaskCtx :=
  let old := tctx.currentDsqType
  let tctx := { tctx with crit := calcCrit tctx now }
  let tctx : TaskCtx :=
    if tctx.dutySamples < DUTY_SAMPLES_NEEDED then
      { tctx with currentDsqType := DSQ_TYPE_GREEDY }
    else
      let pessimistic := targetTier tctx.crit (tctx.duty + DUTY_HYST)
      let optimistic := targetTier tctx.crit (tctx.duty - DUTY_HYST)
      if pessimistic < old then { tctx with currentDsqType := pessimistic }
      else if optimistic > old then { tctx with currentDsqType := optimistic }
      else tctx
  if task.kthread ∧ tctx.duty < DUTY_CAP_INTERACTIVE ∧
      tctx.currentDsqType > DSQ_TYPE_INTERACTIVE then
    { tctx with currentDsqType := DSQ_TYPE_INTERACTIVE }
  else tctx

-- Tier the task runs in now: its own tier, or a better one after a wake boost.
def effectiveTier (tctx : Option TaskCtx) : Nat :=
  match tctx with
  | none => DSQ_TYPE_GREEDY
  | some tctx =>
      let tier := sanitizeTier tctx.currentDsqType
      if tctx.boostDsqType < tier then tctx.boostDsqType else tier

-- The waker is never a null pointer, the source's check for one cannot fail.
def applyWakeBoost (k : Call) (s : Sched) (p : Task) (tctx : TaskCtx) : TaskCtx :=
  let waker := k.current
  if !k.inTask then tctx
  else if waker = p ∨ (s.task waker).idle then tctx
  else if !WAKE_BOOST_FROM_KTHREADS ∧ (s.task waker).kthread then tctx
  else
    match s.taskCtxStore waker with
    | none => tctx
    | some wctx =>
        let wakerTier := effectiveTier (some wctx)
        if wakerTier < sanitizeTier tctx.currentDsqType ∧ wakerTier < tctx.boostDsqType then
          { tctx with boostDsqType := wakerTier, boostUsed := 0 }
        else tctx

def recordWaker (k : Call) (p : Task) (s : Sched) : Sched :=
  let waker := k.current
  if k.inInterrupt then s
  else if (s.task waker).pid = (s.task p).pid then s
  else
    match s.taskCtxStore waker with
    | none => s
    | some wctx => s.setTaskCtx waker
        { wctx with
          wakeInterval := exponentiallyWeightedMovingAvg wctx.wakeInterval
            (clampInterval (elapsed k.now wctx.lastWakeAt))
          lastWakeAt := k.now }

theorem sanitizeTier_isTier (tier : Nat) : IsTier (sanitizeTier tier) := by
  have := tier_values
  unfold sanitizeTier IsTier
  split <;> omega

theorem effectiveTier_le (tctx : Option TaskCtx) : effectiveTier tctx ≤ DSQ_TYPE_GREEDY := by
  cases tctx with
  | none => exact Nat.le_refl _
  | some tctx =>
      have h := (sanitizeTier_isTier tctx.currentDsqType).2
      simp only [effectiveTier]
      split <;> omega

-- Everything an update of the tier leaves alone.
theorem updateTaskDsqType_frame (task : TaskStruct) (tctx : TaskCtx) (now : Nat) :
    ∃ tier crit, updateTaskDsqType task tctx now =
      { tctx with currentDsqType := tier, crit := crit } := by
  simp only [updateTaskDsqType]
  split_ifs <;> exact ⟨_, _, rfl⟩

theorem applyWakeBoost_frame (k : Call) (s : Sched) (p : Task) (tctx : TaskCtx) :
    ∃ boost used, applyWakeBoost k s p tctx =
      { tctx with boostDsqType := boost, boostUsed := used } := by
  simp only [applyWakeBoost]
  split_ifs <;> first | exact ⟨_, _, rfl⟩ | skip
  cases s.taskCtxStore k.current with
  | none => exact ⟨_, _, rfl⟩
  | some wctx =>
      dsimp only
      split_ifs <;> exact ⟨_, _, rfl⟩

end Lunar
