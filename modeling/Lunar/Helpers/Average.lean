import Lunar.Helpers
import Lunar.Library.Estimates

namespace Lunar

open MovingAverage Word64

theorem shiftRight_two (n : Nat) : n >>> 2 = n / 4 := Nat.shiftRight_eq_div_pow n 2

-- Three quarters of a word and a quarter of a word are a word.
theorem average_lt {old sample : Nat} (hold : old < 2 ^ 64) (hsample : sample < 2 ^ 64) :
    average 4 old sample < 2 ^ 64 := by
  unfold average
  omega

theorem exponentiallyWeightedMovingAvg_eq {old sample : Nat} (hold : old < 2 ^ 64)
    (hsample : sample < 2 ^ 64) :
    exponentiallyWeightedMovingAvg old sample = average 4 old sample := by
  unfold exponentiallyWeightedMovingAvg
  rw [shiftRight_two, shiftRight_two]
  exact wrap_eq (average_lt hold hsample)

-- The averages when the same interval is measured again and again.
def repeatedAvg (sample old n : Nat) : Nat := (exponentiallyWeightedMovingAvg · sample)^[n] old

theorem repeatedAvg_succ (sample old n : Nat) :
    repeatedAvg sample old (n + 1) = exponentiallyWeightedMovingAvg (repeatedAvg sample old n) sample :=
  Function.iterate_succ_apply' ..

theorem repeatedAvg_eq {old sample : Nat} (hold : old < 2 ^ 64) (hsample : sample < 2 ^ 64) (n : Nat) :
    repeatedAvg sample old n = averages 4 sample old n ∧ averages 4 sample old n < 2 ^ 64 := by
  induction n with
  | zero => exact ⟨rfl, hold⟩
  | succ n ih =>
      obtain ⟨heq, hlt⟩ := ih
      rw [repeatedAvg_succ, averages_succ, heq]
      exact ⟨exponentiallyWeightedMovingAvg_eq hlt hsample, average_lt hlt hsample⟩

-- The average never overflows, follows both arguments, and goes straight to the block of
-- four values the sample is in, where it stays.
theorem moving_average_converges {old sample : Nat} (hold : old < 2 ^ 64) (hsample : sample < 2 ^ 64) :
    old - (old >>> 2) + (sample >>> 2) < 2 ^ 64 ∧
    (∀ old' < 2 ^ 64, ∀ sample' < 2 ^ 64, old ≤ old' → sample ≤ sample' →
      exponentiallyWeightedMovingAvg old sample ≤ exponentiallyWeightedMovingAvg old' sample') ∧
    (sample >>> 2 < old >>> 2 → sample ≤ exponentiallyWeightedMovingAvg old sample) ∧
    (old >>> 2 < sample >>> 2 → exponentiallyWeightedMovingAvg old sample ≤ sample) ∧
    (∃ n, exponentiallyWeightedMovingAvg (repeatedAvg sample old n) sample = repeatedAvg sample old n ∧
      repeatedAvg sample old n >>> 2 = sample >>> 2 ∧
      repeatedAvg sample old n ≤ sample + 3 ∧ sample ≤ repeatedAvg sample old n + 3) ∧
    (sample ≤ old → Antitone (repeatedAvg sample old) ∧ ∀ n, sample ≤ repeatedAvg sample old n) ∧
    (old ≤ sample → Monotone (repeatedAvg sample old) ∧ ∀ n, repeatedAvg sample old n ≤ sample) := by
  have hfour : 0 < 4 := by decide
  have hone := exponentiallyWeightedMovingAvg_eq hold hsample
  have hrepeated : repeatedAvg sample old = averages 4 sample old :=
    funext fun n => (repeatedAvg_eq hold hsample n).1
  have hfall (h : sample ≤ old) := averages_fall hfour h
  have hrise (h : old ≤ sample) := averages_rise hfour h
  simp only [shiftRight_two]
  refine ⟨average_lt hold hsample, fun old' hold' sample' hsample' ho hs => ?_, fun habove => ?_,
    fun hbelow => ?_, ?_, fun h => ?_, fun h => ?_⟩
  · rw [hone, exponentiallyWeightedMovingAvg_eq hold' hsample']
    exact average_mono hfour ho hs
  · rw [hone]
    exact le_average_of_le hfour (by omega)
  · rw [hone]
    exact average_le_of_le hfour (by omega)
  · have hblock : ∃ n, averages 4 sample old n / 4 = sample / 4 := by
      rcases Nat.le_total sample old with h | h
      · exact (hfall h).2.2
      · exact (hrise h).2.2
    obtain ⟨n, hn⟩ := hblock
    have hlt := (repeatedAvg_eq hold hsample n).2
    have hfix : exponentiallyWeightedMovingAvg (averages 4 sample old n) sample =
        averages 4 sample old n := by
      rw [exponentiallyWeightedMovingAvg_eq hlt hsample]
      exact average_eq_self_iff.mpr hn
    rw [hrepeated]
    exact ⟨n, hfix, hn, by omega, by omega⟩
  · rw [hrepeated]
    exact ⟨(hfall h).1, (hfall h).2.1⟩
  · rw [hrepeated]
    exact ⟨(hrise h).1, (hrise h).2.1⟩

theorem moving_average_converges_down : ∃ n,
    exponentiallyWeightedMovingAvg (repeatedAvg 10000 (2 ^ 64 - 1) n) 10000 =
      repeatedAvg 10000 (2 ^ 64 - 1) n ∧ repeatedAvg 10000 (2 ^ 64 - 1) n >>> 2 = 10000 >>> 2 := by
  obtain ⟨-, -, -, -, ⟨n, hfix, hblock, -⟩, -⟩ :=
    moving_average_converges (show 2 ^ 64 - 1 < 2 ^ 64 by decide) (show 10000 < 2 ^ 64 by decide)
  exact ⟨n, hfix, hblock⟩

end Lunar
