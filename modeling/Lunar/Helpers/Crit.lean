import Lunar.Helpers.Average
import Lunar.Library.Estimates

namespace Lunar

open BinaryLog MovingAverage Word64

-- The steps of the search set bits of their own.
theorem or_shifts {a b c d e : Nat} (ha : a = 16 ∨ a = 0) (hb : b = 8 ∨ b = 0) (hc : c = 4 ∨ c = 0)
    (hd : d = 2 ∨ d = 0) (he : e = 1 ∨ e = 0) : a ||| b ||| c ||| d ||| e = a + (b + (c + (d + e))) := by
  rcases ha with rfl | rfl <;> rcases hb with rfl | rfl <;> rcases hc with rfl | rfl <;>
    rcases hd with rfl | rfl <;> rcases he with rfl | rfl <;> rfl

theorem log2U32_eq {v : Nat} (hv : v < 2 ^ 32) : log2U32 v = Nat.log 2 v := by
  have h16 := shiftRight_shift_lt (w := 16) hv
  have hlog16 := log_eq_shift_add 16 v
  have hsplit : log2U32 v = let v1 := v >>> shift 16 v
      let v2 := v1 >>> shift 8 v1
      let v3 := v2 >>> shift 4 v2
      shift 16 v ||| shift 8 v1 ||| shift 4 v2 ||| shift 2 v3 ||| (v3 >>> shift 2 v3) >>> 1 := rfl
  dsimp only at hsplit
  generalize v >>> shift 16 v = v1 at h16 hlog16 hsplit
  have h8 := shiftRight_shift_lt (w := 8) h16
  have hlog8 := log_eq_shift_add 8 v1
  generalize v1 >>> shift 8 v1 = v2 at h8 hlog8 hsplit
  have h4 := shiftRight_shift_lt (w := 4) h8
  have hlog4 := log_eq_shift_add 4 v2
  generalize v2 >>> shift 4 v2 = v3 at h4 hlog4 hsplit
  have h2 := shiftRight_shift_lt (w := 2) h4
  have hlog2 := log_eq_shift_add 2 v3
  have hlast := log_eq_shiftRight_one h2
  have hbit : (v3 >>> shift 2 v3) >>> 1 = 1 ∨ (v3 >>> shift 2 v3) >>> 1 = 0 := by
    rw [Nat.shiftRight_eq_div_pow _ 1]
    omega
  rw [hsplit, or_shifts (shift_or 16 v) (shift_or 8 v1) (shift_or 4 v2) (shift_or 2 v3) hbit, ← hlast,
    hlog16, hlog8, hlog4, hlog2]

theorem log2U64_eq {v : Nat} (hv : v < 2 ^ 64) : log2U64 v = Nat.log 2 v + 1 := by
  have hshift : v >>> 32 = v / 2 ^ 32 := Nat.shiftRight_eq_div_pow v 32
  have hhi : v / 2 ^ 32 < 2 ^ 32 := Nat.div_lt_of_lt_mul hv
  unfold log2U64
  dsimp only
  rw [hshift, Nat.mod_eq_of_lt hhi]
  split_ifs with hupper
  · have hlog : 32 ≤ Nat.log 2 v := Nat.le_log_of_pow_le Nat.one_lt_two (by omega)
    rw [log2U32_eq hhi, Nat.log_div_base_pow]
    omega
  · have hlow : v < 2 ^ 32 := by omega
    rw [Nat.mod_eq_of_lt hlow, log2U32_eq hlow]

theorem ilog2_eq {v : Nat} (hv : v < 2 ^ 64) : ilog2 v = Nat.log 2 v := by
  unfold ilog2
  split_ifs with hne
  · rw [log2U64_eq hv]
    rfl
  · rw [Decidable.not_not.mp hne, Nat.log_zero_right]

theorem interval_values : CRIT_INTERVAL_MIN = 10000 ∧ CRIT_INTERVAL_REF = 1000000000 := ⟨rfl, rfl⟩

-- The band the intervals of a task stay in.
def IsInterval (interval : Nat) : Prop := CRIT_INTERVAL_MIN ≤ interval ∧ interval ≤ CRIT_INTERVAL_REF

theorem isInterval_ref : IsInterval CRIT_INTERVAL_REF := ⟨by decide, Nat.le_refl _⟩

theorem clampInterval_isInterval (interval : Nat) : IsInterval (clampInterval interval) := by
  have hvalues := interval_values
  unfold clampInterval IsInterval
  split_ifs <;> omega

theorem clampInterval_mono {interval interval' : Nat} (h : interval ≤ interval') :
    clampInterval interval ≤ clampInterval interval' := by
  have hvalues := interval_values
  unfold clampInterval
  split_ifs <;> omega

theorem clampInterval_of_ref_le {interval : Nat} (h : CRIT_INTERVAL_REF ≤ interval) :
    clampInterval interval = CRIT_INTERVAL_REF := by
  have hvalues := interval_values
  unfold clampInterval
  split_ifs <;> omega

-- A new sample keeps the average in the band.
theorem IsInterval.sampled {avg : Nat} (h : IsInterval avg) (sample : Nat) :
    IsInterval (exponentiallyWeightedMovingAvg avg (clampInterval sample)) := by
  have hvalues := interval_values
  have hsample := clampInterval_isInterval sample
  have havg := h.2
  have hclamped := hsample.2
  rw [exponentiallyWeightedMovingAvg_eq (by omega) (by omega)]
  exact average_mem (by decide) h hsample

section Effective

variable {avg last now : Nat}

theorem IsInterval.fits (h : IsInterval avg) : avg * 8 < 2 ^ 64 := by
  have hvalues := interval_values
  have := h.2
  omega

theorem IsInterval.effectiveInterval_eq (h : IsInterval avg) (last now : Nat) :
    effectiveInterval avg last now = clampInterval (if now - last > avg * 8 then now - last else avg) := by
  unfold effectiveInterval
  dsimp only
  rw [elapsed_eq, wrap_eq h.fits]

theorem effectiveInterval_isInterval (avg last now : Nat) : IsInterval (effectiveInterval avg last now) :=
  clampInterval_isInterval _

-- The average counts until eight times as much has passed, and from then on what has passed.
theorem IsInterval.effectiveInterval_mono (h : IsInterval avg) {now' : Nat} (hnow : now ≤ now') :
    effectiveInterval avg last now ≤ effectiveInterval avg last now' := by
  rw [h.effectiveInterval_eq, h.effectiveInterval_eq]
  apply clampInterval_mono
  split_ifs <;> omega

theorem IsInterval.effectiveInterval_stale (h : IsInterval avg) (hstale : last + 8 * CRIT_INTERVAL_REF < now) :
    effectiveInterval avg last now = CRIT_INTERVAL_REF := by
  have hvalues := interval_values
  have hmost := h.2
  rw [h.effectiveInterval_eq, if_pos (by omega)]
  exact clampInterval_of_ref_le (by omega)

-- One of the two terms of the crit score.
def critTerm (avg last now : Nat) : Nat := Nat.log 2 (CRIT_INTERVAL_REF / effectiveInterval avg last now)

theorem ilog2_effectiveInterval (avg last now : Nat) :
    ilog2 (CRIT_INTERVAL_REF / effectiveInterval avg last now) = critTerm avg last now := by
  have hsmall : CRIT_INTERVAL_REF / effectiveInterval avg last now < 2 ^ 64 :=
    Nat.lt_of_le_of_lt (Nat.div_le_self ..) (by decide)
  exact ilog2_eq hsmall

-- CRIT_INTERVAL_REF is less than 2 ^ 17 times CRIT_INTERVAL_MIN.
theorem critTerm_le (avg last now : Nat) : critTerm avg last now ≤ 16 := by
  have hleast := (effectiveInterval_isInterval avg last now).1
  have hratio : CRIT_INTERVAL_REF / effectiveInterval avg last now < 2 ^ 17 := by
    have hvalues := interval_values
    apply Nat.div_lt_of_lt_mul
    omega
  exact Nat.lt_succ_iff.mp (Nat.log_lt_of_lt_pow' (by decide) hratio)

theorem IsInterval.critTerm_antitone (h : IsInterval avg) (last : Nat) {now' : Nat} (hnow : now ≤ now') :
    critTerm avg last now' ≤ critTerm avg last now := by
  have hpos : 0 < effectiveInterval avg last now :=
    Nat.lt_of_lt_of_le (by decide) (effectiveInterval_isInterval avg last now).1
  exact log_antitone_div hpos (h.effectiveInterval_mono hnow)

theorem IsInterval.critTerm_stale (h : IsInterval avg) (hstale : last + 8 * CRIT_INTERVAL_REF < now) :
    critTerm avg last now = 0 := by
  rw [critTerm, h.effectiveInterval_stale hstale, Nat.div_self (by decide), Nat.log_one_right]

end Effective

-- So crit never gets to CRIT_MAX.
theorem calcCrit_eq (tctx : TaskCtx) (now : Nat) :
    calcCrit tctx now = critTerm tctx.waitInterval tctx.lastWokenAt now +
      critTerm tctx.wakeInterval tctx.lastWakeAt now := by
  have hwait := critTerm_le tctx.waitInterval tctx.lastWokenAt now
  have hwake := critTerm_le tctx.wakeInterval tctx.lastWakeAt now
  have hmax : CRIT_MAX = 40 := rfl
  unfold calcCrit
  dsimp only
  rw [ilog2_effectiveInterval, ilog2_effectiveInterval, if_neg (by omega)]

theorem calcCrit_le (tctx : TaskCtx) (now : Nat) : calcCrit tctx now ≤ 32 := by
  have hwait := critTerm_le tctx.waitInterval tctx.lastWokenAt now
  have hwake := critTerm_le tctx.wakeInterval tctx.lastWakeAt now
  rw [calcCrit_eq]
  omega

-- What record_waker and lunar_runnable leave behind.
structure CritOk (tctx : TaskCtx) : Prop where
  wait : IsInterval tctx.waitInterval
  wake : IsInterval tctx.wakeInterval

namespace CritOk

variable {tctx : TaskCtx}

theorem calcCrit_antitone (h : CritOk tctx) {now now' : Nat} (hnow : now ≤ now') :
    calcCrit tctx now' ≤ calcCrit tctx now := by
  rw [calcCrit_eq, calcCrit_eq]
  exact Nat.add_le_add (h.wait.critTerm_antitone _ hnow) (h.wake.critTerm_antitone _ hnow)

theorem calcCrit_stale (h : CritOk tctx) {now : Nat} (hwoken : tctx.lastWokenAt + 8 * CRIT_INTERVAL_REF < now)
    (hwake : tctx.lastWakeAt + 8 * CRIT_INTERVAL_REF < now) : calcCrit tctx now = 0 := by
  rw [calcCrit_eq, h.wait.critTerm_stale hwoken, h.wake.critTerm_stale hwake]

end CritOk

end Lunar
