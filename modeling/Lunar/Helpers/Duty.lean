import Lunar.Helpers

namespace Lunar

open Word64

theorem duty_values : DUTY_WINDOW_NS = 100000000 ∧ DUTY_INIT_RUN_NS = 80000000 := ⟨rfl, rfl⟩

-- What the accumulators of a task_ctx add up to, whatever has been accounted to it.
structure DutyOk (tctx : TaskCtx) : Prop where
  least : DUTY_INIT_RUN_NS ≤ tctx.runAcc + tctx.sleepAcc
  most : tctx.runAcc + tctx.sleepAcc ≤ 2 * DUTY_WINDOW_NS

-- The accumulators are halved by an account of run and slept.
def Halves (tctx : TaskCtx) (run slept : Nat) : Prop :=
  2 * DUTY_WINDOW_NS <
    (tctx.runAcc + min run DUTY_WINDOW_NS) + (tctx.sleepAcc + min slept DUTY_WINDOW_NS)

instance (tctx : TaskCtx) (run slept : Nat) : Decidable (Halves tctx run slept) :=
  inferInstanceAs (Decidable (_ < _))

namespace DutyOk

variable {tctx : TaskCtx}

theorem of_accs {tctx' : TaskCtx} (h : DutyOk tctx) (hrun : tctx'.runAcc = tctx.runAcc)
    (hsleep : tctx'.sleepAcc = tctx.sleepAcc) : DutyOk tctx' := by
  refine ⟨?_, ?_⟩
  · rw [hrun, hsleep]
    exact h.least
  · rw [hrun, hsleep]
    exact h.most

-- Nothing is lost in the additions of duty_account.
theorem fits (h : DutyOk tctx) (run slept : Nat) :
    tctx.runAcc + min run DUTY_WINDOW_NS < 2 ^ 64 ∧ tctx.sleepAcc + min slept DUTY_WINDOW_NS < 2 ^ 64 ∧
      (tctx.runAcc + min run DUTY_WINDOW_NS) + (tctx.sleepAcc + min slept DUTY_WINDOW_NS) < 2 ^ 64 := by
  have := h.most
  have := duty_values
  omega

theorem dutyAccount_eq (h : DutyOk tctx) (run slept : Nat) :
    dutyAccount tctx run slept =
      if Halves tctx run slept then
        { tctx with
          runAcc := (tctx.runAcc + min run DUTY_WINDOW_NS) / 2
          sleepAcc := (tctx.sleepAcc + min slept DUTY_WINDOW_NS) / 2 }
      else
        { tctx with
          runAcc := tctx.runAcc + min run DUTY_WINDOW_NS
          sleepAcc := tctx.sleepAcc + min slept DUTY_WINDOW_NS } := by
  have hclamp (time : Nat) :
      (if time > DUTY_WINDOW_NS then DUTY_WINDOW_NS else time) = min time DUTY_WINDOW_NS := by
    split_ifs <;> omega
  have hhalf (n : Nat) : n >>> 1 = n / 2 := Nat.shiftRight_eq_div_pow n 1
  obtain ⟨hrun, hsleep, hsum⟩ := h.fits run slept
  unfold dutyAccount Halves
  dsimp only
  rw [hclamp, hclamp, wrap_eq hrun, wrap_eq hsleep, wrap_eq hsum, hhalf, hhalf]
  exact if_congr Iff.rfl rfl rfl

-- The sum stays in the window. Halving rounds each accumulator down on its own, but a sum
-- above 2 * DUTY_WINDOW_NS leaves at least DUTY_WINDOW_NS.
theorem account (h : DutyOk tctx) (run slept : Nat) : DutyOk (dutyAccount tctx run slept) := by
  have hleast := h.least
  have hmost := h.most
  have hvalues := duty_values
  rw [h.dutyAccount_eq]
  split_ifs with hhalves
  · unfold Halves at hhalves
    constructor
    · dsimp only
      omega
    · dsimp only
      omega
  · unfold Halves at hhalves
    constructor
    · dsimp only
      omega
    · dsimp only
      omega

theorem window_of_halves (h : DutyOk tctx) {run slept : Nat} (hhalves : Halves tctx run slept) :
    DUTY_WINDOW_NS ≤ (dutyAccount tctx run slept).runAcc + (dutyAccount tctx run slept).sleepAcc := by
  have hvalues := duty_values
  rw [h.dutyAccount_eq, if_pos hhalves]
  unfold Halves at hhalves
  dsimp only
  omega

theorem window (h : DutyOk tctx) (run slept : Nat)
    (hwindow : DUTY_WINDOW_NS ≤ tctx.runAcc + tctx.sleepAcc) :
    DUTY_WINDOW_NS ≤ (dutyAccount tctx run slept).runAcc + (dutyAccount tctx run slept).sleepAcc := by
  by_cases hhalves : Halves tctx run slept
  · exact h.window_of_halves hhalves
  · rw [h.dutyAccount_eq, if_neg hhalves]
    dsimp only
    omega

theorem duty_fits (h : DutyOk tctx) :
    tctx.runAcc <<< 10 < 2 ^ 64 ∧ tctx.runAcc + tctx.sleepAcc + 1 < 2 ^ 64 := by
  have := h.most
  have := duty_values
  rw [Nat.shiftLeft_eq]
  omega

theorem duty_lt (tctx : TaskCtx) :
    tctx.runAcc * 1024 / (tctx.runAcc + tctx.sleepAcc + 1) < 1024 := by
  apply Nat.div_lt_of_lt_mul
  omega

theorem taskDuty_eq (h : DutyOk tctx) :
    taskDuty tctx = tctx.runAcc * 1024 / (tctx.runAcc + tctx.sleepAcc + 1) := by
  obtain ⟨hshift, hsum⟩ := h.duty_fits
  have hlt := duty_lt tctx
  unfold taskDuty
  rw [wrap_eq hshift, wrap_eq hsum, Nat.shiftLeft_eq, show 2 ^ 10 = 1024 from rfl]
  exact Nat.mod_eq_of_lt (by omega)

end DutyOk

-- The calls of duty_account with these arguments, one after another.
def accountAll (tctx : TaskCtx) (calls : List (Nat × Nat)) : TaskCtx :=
  calls.foldl (fun tctx call => dutyAccount tctx call.1 call.2) tctx

theorem accountAll_concat (tctx : TaskCtx) (before : List (Nat × Nat)) (call : Nat × Nat)
    (after : List (Nat × Nat)) : accountAll tctx (before ++ call :: after) =
      accountAll (dutyAccount (accountAll tctx before) call.1 call.2) after := by
  simp [accountAll]

theorem DutyOk.accountAll {tctx : TaskCtx} (h : DutyOk tctx) (calls : List (Nat × Nat)) :
    DutyOk (accountAll tctx calls) := by
  induction calls generalizing tctx with
  | nil => exact h
  | cons call rest ih => exact ih (h.account call.1 call.2)

theorem DutyOk.accountAll_window {tctx : TaskCtx} (h : DutyOk tctx)
    (hwindow : DUTY_WINDOW_NS ≤ tctx.runAcc + tctx.sleepAcc) (calls : List (Nat × Nat)) :
    DUTY_WINDOW_NS ≤ (Lunar.accountAll tctx calls).runAcc + (Lunar.accountAll tctx calls).sleepAcc := by
  induction calls generalizing tctx with
  | nil => exact hwindow
  | cons call rest ih => exact ih (h.account call.1 call.2) (h.window call.1 call.2 hwindow)

end Lunar
