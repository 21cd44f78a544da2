import Lunar.Callbacks.Dispatch

namespace Lunar

-- What the runs of a task depend on of its task_ctx. The statistics (duty, crit and
-- the intervals) only enter through the tier.
@[ext]
structure TaskView where
  -- there is a task_ctx
  present : Bool
  tier : Nat
  boost : Nat
  boostUsed : Nat
  blockedAt : Nat
  startedAt : Nat
  grantedSlice : Nat
  resumeSlice : Nat
deriving DecidableEq, Repr

def TaskCtx.view (tctx : TaskCtx) : TaskView where
  present := true
  tier := effectiveTier (some tctx)
  boost := tctx.boostDsqType
  boostUsed := tctx.boostUsed
  blockedAt := tctx.blockedAt
  startedAt := tctx.startedAt
  grantedSlice := tctx.grantedSlice
  resumeSlice := tctx.resumeSlice

-- A task without a task_ctx counts as GREEDY.
def Sched.view (s : Sched) (p : Task) : TaskView :=
  ((s.taskCtxStore p).map TaskCtx.view).getD ⟨false, DSQ_TYPE_GREEDY, DSQ_TYPE_EMPTY, 0, 0, 0, 0, 0⟩

theorem Sched.view_tier (s : Sched) (p : Task) :
    (s.view p).tier = effectiveTier (s.taskCtxStore p) := by
  unfold Sched.view
  cases s.taskCtxStore p with
  | none => rfl
  | some tctx => rfl

theorem Sched.view_of_some {s : Sched} {p : Task} {tctx : TaskCtx}
    (h : s.taskCtxStore p = some tctx) : s.view p = tctx.view := by
  simp [Sched.view, h]

theorem Sched.exists_of_present {s : Sched} {p : Task} (h : (s.view p).present) :
    ∃ tctx, s.taskCtxStore p = some tctx ∧ s.view p = tctx.view := by
  cases hctx : s.taskCtxStore p with
  | none => simp [Sched.view, hctx] at h
  | some tctx => exact ⟨tctx, rfl, Sched.view_of_some hctx⟩

theorem Sched.view_congr {s s' : Sched} (h : s'.taskCtxStore = s.taskCtxStore) :
    s'.view = s.view := by
  funext p
  simp [Sched.view, h]

theorem Sched.view_setTaskCtx (s : Sched) (p : Task) (tctx : TaskCtx) :
    (s.setTaskCtx p tctx).view = Function.update s.view p tctx.view := by
  funext q
  by_cases hq : q = p
  · subst hq
    simp [Sched.view]
  · simp [Sched.view, hq]

-- The statistics of a waker are no part of the view.
theorem recordWaker_view (k : Call) (p : Task) (s : Sched) : (recordWaker k p s).view = s.view := by
  unfold recordWaker
  dsimp only
  split_ifs
  · rfl
  · rfl
  split
  · rfl
  · rename_i wctx hw
    rw [Sched.view_setTaskCtx]
    exact (Function.update_eq_self_iff).mpr (by rw [Sched.view_of_some hw]; rfl)

-- The calls of duty_account so far, newest first: the task and the two arguments.
def Sched.accounts (s : Sched) : List (Task × Nat × Nat) :=
  s.effects.filterMap fun effect =>
    match effect with
    | .dutyAccount p run slept => some (p, run, slept)
    | _ => none

theorem Sched.accounts_congr {s s' : Sched} (h : s'.effects = s.effects) :
    s'.accounts = s.accounts := by
  rw [Sched.accounts, h]
  rfl

theorem Sched.accounts_emit (s : Sched) (p : Task) (run slept : Nat) {effects : List Effect}
    (h : effects = .dutyAccount p run slept :: s.effects) {s' : Sched} (hs' : s'.effects = effects) :
    s'.accounts = (p, run, slept) :: s.accounts := by
  simp [Sched.accounts, hs', h]

-- The calls of duty_account for one task so far, newest first: the two arguments.
def Sched.charges (s : Sched) (p : Task) : List (Nat × Nat) :=
  (s.accounts.filter (·.1 = p)).map (·.2)

section Accounts

variable {s s' : Sched} {p q : Task} {run slept : Nat}

theorem Sched.charges_congr (h : s'.accounts = s.accounts) : s'.charges p = s.charges p := by
  rw [Sched.charges, h]
  rfl

theorem Sched.charges_self (h : s'.accounts = (p, run, slept) :: s.accounts) :
    s'.charges p = (run, slept) :: s.charges p := by
  simp [Sched.charges, h]

theorem Sched.charges_other (h : s'.accounts = (p, run, slept) :: s.accounts) (hq : q ≠ p) :
    s'.charges q = s.charges q := by
  simp [Sched.charges, h, hq.symm]

end Accounts

-- What the charges and re-evaluations do to the view. The new tier is left open.

-- boost_used after a charge.
def TaskView.charged (v : TaskView) (used : Nat) : Nat :=
  v.boostUsed + if v.boost ≠ DSQ_TYPE_EMPTY then used else 0

section Charges

variable (task : TaskStruct) (tctx : TaskCtx) (now used slept : Nat)

theorem dutyAccount_frame : ∃ runAcc sleepAcc,
    dutyAccount tctx used slept = { tctx with runAcc := runAcc, sleepAcc := sleepAcc } := by
  unfold dutyAccount
  dsimp only
  split_ifs
  all_goals exact ⟨_, _, rfl⟩

theorem updateTaskDsqType_view :
    ∃ tier, (updateTaskDsqType task tctx now).view = { tctx.view with tier := tier } := by
  obtain ⟨tier, crit, h⟩ := updateTaskDsqType_frame task tctx now
  rw [h]
  exact ⟨_, rfl⟩

theorem chargeWakeBoost_frame : chargeWakeBoost tctx used =
    { tctx with boostUsed := tctx.view.charged used } := by
  unfold chargeWakeBoost TaskView.charged TaskCtx.view
  dsimp only
  split_ifs
  · rfl
  · rfl

-- The prologue of lunar_dispatch.
theorem chargePrev_view (pending : Bool) :
    let charged := tctx.view.charged (elapsed now tctx.startedAt)
    ∃ tier, (chargePrev task pending now tctx).view =
      { tctx.view with
        tier := tier
        boostUsed := charged
        boost := if !pending ∧ WAKE_BOOST_BUDGET_NS ≤ charged then DSQ_TYPE_EMPTY
          else tctx.view.boost
        startedAt := now } := by
  unfold chargePrev chargePrevBoost reevaluate
  dsimp only
  rw [chargeWakeBoost_frame]
  generalize tctx.view.charged (elapsed now tctx.startedAt) = charged
  obtain ⟨runAcc, sleepAcc, hduty⟩ := dutyAccount_frame
    (if !pending ∧ charged ≥ WAKE_BOOST_BUDGET_NS then
      { tctx with boostUsed := charged, boostDsqType := DSQ_TYPE_EMPTY }
    else { tctx with boostUsed := charged }) (elapsed now tctx.startedAt) 0
  rw [hduty]
  obtain ⟨tier, h⟩ := updateTaskDsqType_view task _ now
  refine ⟨tier, h.trans ?_⟩
  split_ifs
  · rfl
  · rfl

-- The part of lunar_stopping that is always done.
theorem chargeStopped_view :
    ∃ tier, (chargeStopped task now tctx).view =
      { tctx.view with
        tier := tier
        boostUsed := tctx.view.charged (elapsed now tctx.startedAt) } := by
  unfold chargeStopped reevaluate
  dsimp only
  rw [chargeWakeBoost_frame]
  obtain ⟨runAcc, sleepAcc, hduty⟩ := dutyAccount_frame
    { tctx with boostUsed := tctx.view.charged (elapsed now tctx.startedAt) }
    (elapsed now tctx.startedAt) 0
  rw [hduty]
  obtain ⟨tier, h⟩ := updateTaskDsqType_view task _ now
  exact ⟨tier, h⟩

-- The slice given back and the boost kept by a task that stopped.
def TaskView.resumed (v : TaskView) (task : TaskStruct) (runnable pending : Bool) (used : Nat) : Nat :=
  if pending ∧ runnable ∧ task.slice = 0 ∧ v.grantedSlice > used + RESUME_SLICE_MIN_NS then
    v.grantedSlice - used
  else v.resumeSlice

theorem settleStopped_view (runnable pending : Bool) :
    ∃ tier, (settleStopped task runnable pending used tctx).view =
      { tctx.view with
        tier := tier
        resumeSlice := tctx.view.resumed task runnable pending used
        boost := if tctx.view.resumed task runnable pending used = 0 ∧
            (!runnable ∨ WAKE_BOOST_BUDGET_NS ≤ tctx.boostUsed) then DSQ_TYPE_EMPTY
          else tctx.view.boost } := by
  have hresume : (if pending ∧ runnable ∧ task.slice = 0 ∧
      tctx.grantedSlice > used + RESUME_SLICE_MIN_NS then
        { tctx with resumeSlice := tctx.grantedSlice - used } else tctx) =
      { tctx with resumeSlice := tctx.view.resumed task runnable pending used } := by
    unfold TaskView.resumed TaskCtx.view
    dsimp only
    split_ifs
    · rfl
    · rfl
  unfold settleStopped
  dsimp only
  rw [hresume]
  generalize tctx.view.resumed task runnable pending used = resume
  dsimp only
  split_ifs
  · exact ⟨_, rfl⟩
  · exact ⟨_, rfl⟩

theorem chargeSleep_view :
    ∃ tier, (chargeSleep task now tctx).view =
      { tctx.view with tier := tier, blockedAt := 0 } := by
  unfold chargeSleep reevaluate countSample
  dsimp only
  obtain ⟨runAcc, sleepAcc, hduty⟩ := dutyAccount_frame tctx 0 (elapsed now tctx.blockedAt)
  rw [hduty]
  obtain ⟨tier, h⟩ := updateTaskDsqType_view task _ now
  exact ⟨tier, h⟩

end Charges

end Lunar
