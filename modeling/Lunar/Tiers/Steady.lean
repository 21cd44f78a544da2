import Lunar.Tiers.Table

namespace Lunar

open Hysteresis

-- A call of update_task_dsq_type. The tier before the call is the one the call before it
-- left, everything else of the task_ctx may have changed.
structure TierUpdate where
  task : TaskStruct
  tctx : TaskCtx
  now : Nat

def TierUpdate.crit (update : TierUpdate) : Nat := calcCrit update.tctx update.now

def TierUpdate.tier (update : TierUpdate) (old : Nat) : Nat :=
  (updateTaskDsqType update.task { update.tctx with currentDsqType := old } update.now).currentDsqType

def tiersAfter (old : Nat) : List TierUpdate → List Nat
  | [] => [old]
  | update :: rest => old :: tiersAfter (update.tier old) rest

-- Neither PF_KTHREAD nor missing samples overrule the hysteresis.
structure TierUpdate.Settled (update : TierUpdate) : Prop where
  user : update.task.kthread = false
  samples : DUTY_SAMPLES_NEEDED ≤ update.tctx.dutySamples

-- The tiers the hysteresis lets stand.
def TierUpdate.band (update : TierUpdate) : Nat × Nat :=
  (targetTier update.crit (update.tctx.duty - DUTY_HYST),
    targetTier update.crit (update.tctx.duty + DUTY_HYST))

theorem TierUpdate.band_le (update : TierUpdate) : update.band.1 ≤ update.band.2 :=
  targetTier_mono update.crit (by omega)

theorem TierUpdate.Settled.tier_eq {update : TierUpdate} (h : update.Settled) (old : Nat) :
    update.tier old = hold update.band.1 update.band.2 old := by
  have hcrit : calcCrit { update.tctx with currentDsqType := old } update.now = update.crit := rfl
  rw [TierUpdate.tier, updateTaskDsqType_eq]
  dsimp only
  rw [if_neg (by simp [h.user]), bandTier, if_neg (Nat.not_lt.mpr h.samples), hcrit]
  rfl

theorem tiersAfter_eq {updates : List TierUpdate} (h : ∀ update ∈ updates, update.Settled)
    (old : Nat) : tiersAfter old updates = holds old (updates.map TierUpdate.band) := by
  induction updates generalizing old with
  | nil => rfl
  | cons update rest ih =>
      have hupdate := h update List.mem_cons_self
      rw [tiersAfter, hupdate.tier_eq, ih fun other hother => h other (List.mem_cons_of_mem _ hother)]
      rfl

-- Two bands around duties at most twice DUTY_HYST apart have a tier in common.
theorem meet_bands {updates : List TierUpdate} {crit : Nat} {a b : Int}
    (hwidth : b - a ≤ 2 * DUTY_HYST)
    (h : ∀ update ∈ updates, update.crit = crit ∧ a ≤ update.tctx.duty ∧ update.tctx.duty ≤ b) :
    Meet (updates.map TierUpdate.band) := by
  intro band hband band' hband'
  obtain ⟨update, hmem, rfl⟩ := List.mem_map.mp hband
  obtain ⟨update', hmem', rfl⟩ := List.mem_map.mp hband'
  obtain ⟨hcrit, -, hle⟩ := h update hmem
  obtain ⟨hcrit', hge', -⟩ := h update' hmem'
  unfold TierUpdate.band
  rw [hcrit, hcrit']
  apply targetTier_mono
  omega

-- While crit stays and duty moves by no more than twice DUTY_HYST, the tier only ever
-- changes in one direction, and an update that brings nothing new does not change it.
theorem tier_steady :
    (∀ (updates : List TierUpdate) (crit : Nat) (a b : Int), b - a ≤ 2 * DUTY_HYST →
      (∀ update ∈ updates, update.Settled ∧ update.crit = crit ∧ a ≤ update.tctx.duty ∧
        update.tctx.duty ≤ b) →
      ∀ old, (tiersAfter old updates).Pairwise (· ≤ ·) ∨ (tiersAfter old updates).Pairwise (· ≥ ·)) ∧
    ∀ first again : TierUpdate, first.Settled → again.Settled → again.crit = first.crit →
      again.tctx.duty = first.tctx.duty →
      ∀ old, again.tier (first.tier old) = first.tier old := by
  constructor
  · intro updates crit a b hwidth h old
    have hsettled : ∀ update ∈ updates, update.Settled := fun update hmem => (h update hmem).1
    have hmeet := meet_bands hwidth fun update hmem => (h update hmem).2
    rw [tiersAfter_eq hsettled]
    exact holds_monotone hmeet old
  · intro first again hfirst hagain hcrit hduty old
    have hband : again.band = first.band := by
      unfold TierUpdate.band
      rw [hcrit, hduty]
    rw [hagain.tier_eq, hfirst.tier_eq, hband]
    exact hold_hold first.band_le old

-- A NORMAL task whose duty moves around the cap of its tier.
def normalUpdate (duty : Int) : TierUpdate where
  task := .zeroed
  tctx := { TaskCtx.zeroed with
    duty := duty, dutySamples := 10, waitInterval := 100 * NS_PER_MS, wakeInterval := 100 * NS_PER_MS }
  now := 0

theorem tier_steady_around_cap :
    tiersAfter DSQ_TYPE_NORMAL ([815, 829, 811, 828, 809].map normalUpdate) = [3, 3, 4, 4, 4, 4] ∧
      ((tiersAfter DSQ_TYPE_NORMAL ([815, 829, 811, 828, 809].map normalUpdate)).Pairwise (· ≤ ·) ∨
        (tiersAfter DSQ_TYPE_NORMAL ([815, 829, 811, 828, 809].map normalUpdate)).Pairwise (· ≥ ·)) := by
  have hwidth : (829 : Int) - 809 ≤ 2 * DUTY_HYST := by decide
  refine ⟨by decide +kernel, tier_steady.1 _ (normalUpdate 809).crit 809 829 hwidth ?_ _⟩
  intro update hmem
  obtain ⟨duty, hduty, rfl⟩ := List.mem_map.mp hmem
  have hrange : 809 ≤ duty ∧ duty ≤ 829 := by
    simp only [List.mem_cons, List.not_mem_nil, or_false] at hduty
    omega
  exact ⟨⟨rfl, show 3 ≤ 10 by decide⟩, rfl, hrange⟩

end Lunar
