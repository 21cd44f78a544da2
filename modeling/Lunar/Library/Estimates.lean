import Mathlib.Algebra.Order.Ring.Nat
import Mathlib.Algebra.Ring.Nat
import Mathlib.Data.Nat.Log
import Mathlib.Logic.Function.Iterate
import Mathlib.Order.Monotone.Basic
import Mathlib.Tactic.Common
import Mathlib.Tactic.Ring

-- The moving average of integers that gives a new sample the weight 1 / d: both parts are
-- rounded down on their own.

namespace MovingAverage

-- A function that lowers a measure wherever it moves a value comes to a fixed point.
theorem exists_iterate_fixed {α : Type*} {f : α → α} {I : α → Prop} (μ : α → Nat)
    (hkeep : ∀ x, I x → I (f x)) (hless : ∀ x, I x → f x ≠ x → μ (f x) < μ x) {x : α} (hx : I x) :
    ∃ n, f (f^[n] x) = f^[n] x := by
  generalize hm : μ x = m
  induction m using Nat.strong_induction_on generalizing x with
  | _ m ih =>
      by_cases hfix : f x = x
      · exact ⟨0, hfix⟩
      · obtain ⟨n, hn⟩ := ih (μ (f x)) (hm ▸ hless x hx hfix) (hkeep x hx) rfl
        exact ⟨n + 1, hn⟩

theorem iterate_invariant {α : Type*} {f : α → α} {I : α → Prop} (hkeep : ∀ x, I x → I (f x)) {x : α}
    (hx : I x) (n : Nat) : I (f^[n] x) := by
  induction n with
  | zero => exact hx
  | succ n ih =>
      rw [Function.iterate_succ_apply']
      exact hkeep _ ih

def average (d old sample : Nat) : Nat := old - old / d + sample / d

variable {d old sample : Nat}

@[simp] theorem average_self (d x : Nat) : average d x x = x := by
  have := Nat.div_le_self x d
  unfold average
  omega

theorem average_mono (hd : 0 < d) {old' sample' : Nat} (hold : old ≤ old') (hsample : sample ≤ sample') :
    average d old sample ≤ average d old' sample' := by
  have hpart : sample / d ≤ sample' / d := Nat.div_le_div_right hsample
  have hself := Nat.div_le_self old d
  -- old' / d exceeds old / d by no more than old' exceeds old.
  have hstep : old' / d ≤ old / d + (old' - old) := by
    rw [← Nat.lt_add_one_iff, Nat.div_lt_iff_lt_mul hd]
    have hlt := Nat.lt_div_mul_add (a := old) hd
    have hgap : old' - old ≤ (old' - old) * d := Nat.le_mul_of_pos_right _ hd
    have hexpand : (old / d + (old' - old) + 1) * d = old / d * d + d + (old' - old) * d := by ring
    omega
  unfold average
  omega

-- So the average never passes the sample.
theorem le_average_of_le (hd : 0 < d) (h : sample ≤ old) : sample ≤ average d old sample := by
  simpa using average_mono hd h (Nat.le_refl sample)

theorem average_le_of_le (hd : 0 < d) (h : old ≤ sample) : average d old sample ≤ sample := by
  simpa using average_mono hd h (Nat.le_refl sample)

-- And a band that holds the average and the samples keeps holding it.
theorem average_mem (hd : 0 < d) {lo hi : Nat} (hold : lo ≤ old ∧ old ≤ hi)
    (hsample : lo ≤ sample ∧ sample ≤ hi) :
    lo ≤ average d old sample ∧ average d old sample ≤ hi := by
  constructor
  · simpa using average_mono hd hold.1 hsample.1
  · simpa using average_mono hd hold.2 hsample.2

-- It only stands still in the block of d values the sample is in.
theorem average_eq_self_iff : average d old sample = old ↔ old / d = sample / d := by
  have := Nat.div_le_self old d
  unfold average
  omega

theorem average_le (h : sample ≤ old) : average d old sample ≤ old := by
  have := Nat.div_le_self old d
  have := Nat.div_le_div_right (c := d) h
  unfold average
  omega

theorem le_average (h : old ≤ sample) : old ≤ average d old sample := by
  have := Nat.div_le_div_right (c := d) h
  unfold average
  omega

section Iterate

-- The averages when the same sample comes again and again.
def averages (d sample old n : Nat) : Nat := (average d · sample)^[n] old

theorem averages_succ (old n : Nat) :
    averages d sample old (n + 1) = average d (averages d sample old n) sample :=
  Function.iterate_succ_apply' ..

theorem averages_fall (hd : 0 < d) (h : sample ≤ old) :
    Antitone (averages d sample old) ∧ (∀ n, sample ≤ averages d sample old n) ∧
      ∃ n, averages d sample old n / d = sample / d := by
  have hkeep (x : Nat) (hx : sample ≤ x) : sample ≤ average d x sample := le_average_of_le hd hx
  have hall := iterate_invariant hkeep h
  refine ⟨?_, hall, ?_⟩
  · apply antitone_nat_of_succ_le
    intro n
    rw [averages_succ]
    exact average_le (hall n)
  · have hless (x : Nat) (hx : sample ≤ x) (hmove : average d x sample ≠ x) :
        average d x sample < x := Nat.lt_of_le_of_ne (average_le hx) hmove
    obtain ⟨n, hn⟩ := exists_iterate_fixed (fun x => x) hkeep hless h
    exact ⟨n, average_eq_self_iff.mp hn⟩

theorem averages_rise (hd : 0 < d) (h : old ≤ sample) :
    Monotone (averages d sample old) ∧ (∀ n, averages d sample old n ≤ sample) ∧
      ∃ n, averages d sample old n / d = sample / d := by
  have hkeep (x : Nat) (hx : x ≤ sample) : average d x sample ≤ sample := average_le_of_le hd hx
  have hall := iterate_invariant hkeep h
  refine ⟨?_, hall, ?_⟩
  · apply monotone_nat_of_le_succ
    intro n
    rw [averages_succ]
    exact le_average (hall n)
  · have hless (x : Nat) (hx : x ≤ sample) (hmove : average d x sample ≠ x) :
        sample - average d x sample < sample - x := by
      have := le_average (d := d) hx
      have := hkeep x hx
      omega
    obtain ⟨n, hn⟩ := exists_iterate_fixed (sample - ·) hkeep hless h
    exact ⟨n, average_eq_self_iff.mp hn⟩

end Iterate

end MovingAverage

-- The position of the highest bit, found by halving the width it is searched in.

namespace BinaryLog

-- What is left of a word of 2 * w bits once its upper half has been looked at.
def shift (w v : Nat) : Nat := if v > 2 ^ w - 1 then w else 0

variable {w v : Nat}

theorem shift_or (w v : Nat) : shift w v = w ∨ shift w v = 0 := by
  unfold shift
  split_ifs
  · exact Or.inl rfl
  · exact Or.inr rfl

theorem shiftRight_shift_lt (h : v < 2 ^ (2 * w)) : v >>> shift w v < 2 ^ w := by
  have hpos := Nat.two_pow_pos w
  unfold shift
  split_ifs
  · rw [Nat.shiftRight_eq_div_pow, Nat.div_lt_iff_lt_mul hpos, ← Nat.pow_add, ← Nat.two_mul]
    exact h
  · rw [Nat.shiftRight_zero]
    omega

-- The shift is the part of the logarithm that is already known.
theorem log_eq_shift_add (w v : Nat) : Nat.log 2 v = shift w v + Nat.log 2 (v >>> shift w v) := by
  have hpos := Nat.two_pow_pos w
  unfold shift
  split_ifs with hupper
  · have hlog : w ≤ Nat.log 2 v := Nat.le_log_of_pow_le Nat.one_lt_two (by omega)
    rw [Nat.shiftRight_eq_div_pow, Nat.log_div_base_pow]
    omega
  · rw [Nat.shiftRight_zero, Nat.zero_add]

-- Two bits are left at the end.
theorem log_eq_shiftRight_one (h : v < 2 ^ 2) : Nat.log 2 v = v >>> 1 := by
  have hsmall : v = 0 ∨ v = 1 ∨ v = 2 ∨ v = 3 := by omega
  rcases hsmall with rfl | rfl | rfl | rfl
  all_goals decide

theorem log_antitone_div {ref x y : Nat} (hx : 0 < x) (h : x ≤ y) :
    Nat.log 2 (ref / y) ≤ Nat.log 2 (ref / x) :=
  Nat.log_mono_right (Nat.div_le_div_left h hx)

end BinaryLog
