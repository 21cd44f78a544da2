import Lunar.Tiers
import Lunar.Library.Hysteresis

namespace Lunar

open Hysteresis

theorem tierCapFromDuty_mono {duty duty' : Int} (h : duty ≤ duty') :
    tierCapFromDuty duty ≤ tierCapFromDuty duty' := by
  have hvalues := tier_values
  have hcaps : DUTY_CAP_LC = 51 ∧ DUTY_CAP_INTERACTIVE = 102 ∧ DUTY_CAP_NORMAL = 819 := ⟨rfl, rfl, rfl⟩
  unfold tierCapFromDuty
  split_ifs <;> omega

-- The table of the tiers: crit has to reach the edge of a tier, and duty to stay under its
-- cap. Every task may be GREEDY.
structure TierRow where
  tier : Nat
  edge : Nat
  cap : Nat

def tierRows : List TierRow :=
  [⟨DSQ_TYPE_LC, CRIT_EDGE_LC, DUTY_CAP_LC⟩,
    ⟨DSQ_TYPE_INTERACTIVE, CRIT_EDGE_INTERACTIVE, DUTY_CAP_INTERACTIVE⟩,
    ⟨DSQ_TYPE_NORMAL, CRIT_EDGE_NORMAL, DUTY_CAP_NORMAL⟩]

theorem tierFromCrit_isTier (crit : Int) : IsTier (tierFromCrit crit) := by
  unfold tierFromCrit
  split_ifs <;> decide

theorem tierCapFromDuty_isTier (duty : Int) : IsTier (tierCapFromDuty duty) := by
  unfold tierCapFromDuty
  split_ifs <;> decide

theorem targetTier_eq (crit duty : Int) :
    targetTier crit duty = max (tierFromCrit crit) (tierCapFromDuty duty) := by
  unfold targetTier
  dsimp only
  split_ifs <;> omega

theorem targetTier_le_iff {crit duty : Int} {row : TierRow} (hrow : row ∈ tierRows) :
    targetTier crit duty ≤ row.tier ↔ row.edge ≤ crit ∧ duty < row.cap := by
  have hvalues := tier_values
  have hedges : CRIT_EDGE_LC = 5 ∧ CRIT_EDGE_INTERACTIVE = 3 ∧ CRIT_EDGE_NORMAL = 1 := ⟨rfl, rfl, rfl⟩
  have hcaps : DUTY_CAP_LC = 51 ∧ DUTY_CAP_INTERACTIVE = 102 ∧ DUTY_CAP_NORMAL = 819 := ⟨rfl, rfl, rfl⟩
  rw [targetTier_eq, Nat.max_le]
  unfold tierRows at hrow
  simp only [List.mem_cons, List.not_mem_nil, or_false] at hrow
  refine and_congr ?_ ?_
  · unfold tierFromCrit
    rcases hrow with rfl | rfl | rfl
    all_goals
      dsimp only
      split_ifs <;> omega
  · unfold tierCapFromDuty
    rcases hrow with rfl | rfl | rfl
    all_goals
      dsimp only
      split_ifs <;> omega

theorem targetTier_isTier (crit duty : Int) : IsTier (targetTier crit duty) := by
  have hcrit := tierFromCrit_isTier crit
  have hcap := tierCapFromDuty_isTier duty
  rw [targetTier_eq]
  exact ⟨Nat.le_trans hcrit.1 (Nat.le_max_left ..), Nat.max_le.mpr ⟨hcrit.2, hcap.2⟩⟩

theorem targetTier_mono (crit : Int) {duty duty' : Int} (h : duty ≤ duty') :
    targetTier crit duty ≤ targetTier crit duty' := by
  rw [targetTier_eq, targetTier_eq]
  have hcap := tierCapFromDuty_mono h
  omega

-- The tier before PF_KTHREAD is looked at: GREEDY, or the old one held in the band.
def bandTier (crit duty : Int) (dutySamples old : Nat) : Nat :=
  if dutySamples < DUTY_SAMPLES_NEEDED then DSQ_TYPE_GREEDY
  else hold (targetTier crit (duty - DUTY_HYST)) (targetTier crit (duty + DUTY_HYST)) old

theorem updateTaskDsqType_eq (task : TaskStruct) (tctx : TaskCtx) (now : Nat) :
    updateTaskDsqType task tctx now =
      let crit := calcCrit tctx now
      let tier := bandTier crit tctx.duty tctx.dutySamples tctx.currentDsqType
      { tctx with
        crit := crit
        currentDsqType := if task.kthread ∧ tctx.duty < DUTY_CAP_INTERACTIVE then
          min tier DSQ_TYPE_INTERACTIVE else tier } := by
  unfold updateTaskDsqType
  dsimp only
  generalize hband : (if tctx.dutySamples < DUTY_SAMPLES_NEEDED then
      { tctx with crit := calcCrit tctx now, currentDsqType := DSQ_TYPE_GREEDY }
    else _) = banded
  have heq : banded = { tctx with
      crit := calcCrit tctx now
      currentDsqType := bandTier (calcCrit tctx now) tctx.duty tctx.dutySamples
        tctx.currentDsqType } := by
    rw [← hband]
    unfold bandTier hold
    split_ifs <;> rfl
  rw [heq]
  dsimp only
  split_ifs with h1 h2 h2
  · rw [Nat.min_eq_right (by omega)]
  · exact absurd ⟨h1.1, h1.2.1⟩ h2
  · have hle : bandTier (calcCrit tctx now) tctx.duty tctx.dutySamples tctx.currentDsqType ≤
        DSQ_TYPE_INTERACTIVE := by
      by_contra hgt
      exact h1 ⟨h2.1, h2.2, by omega⟩
    rw [Nat.min_eq_left hle]
  · rfl

theorem bandTier_isTier (crit duty : Int) (dutySamples old : Nat) :
    IsTier (bandTier crit duty dutySamples old) := by
  unfold bandTier
  split_ifs
  · decide
  · have hmem := hold_mem (targetTier_mono crit
      (show duty - DUTY_HYST ≤ duty + DUTY_HYST by omega)) old
    exact ⟨Nat.le_trans (targetTier_isTier ..).1 hmem.1, Nat.le_trans hmem.2 (targetTier_isTier ..).2⟩

end Lunar
