import Mathlib.Algebra.Ring.Int.Defs
import Mathlib.Algebra.Ring.Nat
import Mathlib.Data.List.Pairwise
import Mathlib.Tactic.Common

-- 64-bit words as natural numbers: what the arithmetic of the machine does to
-- results that do not fit.

namespace Word64

def wrap (n : Nat) : Nat := n % 2 ^ 64

-- Subtraction of unsigned words.
def sub (a b : Nat) : Nat := (a + (2 ^ 64 - b % 2 ^ 64)) % 2 ^ 64

-- The same bits read as a signed word.
def toSigned (n : Nat) : Int := if n < 2 ^ 63 then n else (n : Int) - 2 ^ 64

-- Where the difference is not negative, wrapping can only lower it.
theorem sub_le_of_le {a b : Nat} (h : b ≤ a) : sub a b ≤ a - b := by
  have hb : b % 2 ^ 64 + 2 ^ 64 * (b / 2 ^ 64) = b := Nat.mod_add_div b (2 ^ 64)
  have hmod := Nat.mod_lt b (show 0 < 2 ^ 64 by decide)
  have heq : a + (2 ^ 64 - b % 2 ^ 64) = (a - b) + 2 ^ 64 * (b / 2 ^ 64 + 1) := by
    rw [Nat.mul_add]
    omega
  unfold sub
  rw [heq, Nat.add_mul_mod_self_left]
  exact Nat.mod_le _ _

theorem sub_eq_of_le {a b : Nat} (h : b ≤ a) (ha : a < 2 ^ 64) : sub a b = a - b := by
  unfold sub
  rw [Nat.mod_eq_of_lt (show b < 2 ^ 64 by omega), show a + (2 ^ 64 - b) = a - b + 2 ^ 64 by omega,
    Nat.add_mod_right, Nat.mod_eq_of_lt (by omega)]

theorem sub_lt (a b : Nat) : sub a b < 2 ^ 64 := Nat.mod_lt _ (by decide)

-- The signed difference of two words where the unsigned one fits.
theorem toSigned_sub_pos_iff {a b : Nat} (ha : a < 2 ^ 64) (hb : b < 2 ^ 63) :
    0 < toSigned (sub a b) ↔ b < a ∧ a < 2 ^ 63 + b := by
  unfold toSigned
  by_cases hle : b ≤ a
  · rw [sub_eq_of_le hle ha]
    split_ifs <;> omega
  · have hsub : sub a b = a + 2 ^ 64 - b := by
      unfold sub
      rw [Nat.mod_eq_of_lt (show b < 2 ^ 64 by omega), Nat.mod_eq_of_lt (by omega)]
      omega
    rw [hsub]
    split_ifs <;> omega

theorem toSigned_sub {a b : Nat} (ha : a < 2 ^ 64) (hle : b ≤ a) (hlt : a < 2 ^ 63 + b) :
    toSigned (sub a b) = (a - b : Nat) := by
  rw [sub_eq_of_le hle ha, toSigned, if_pos (by omega)]

theorem wrap_eq {n : Nat} (h : n < 2 ^ 64) : wrap n = n := Nat.mod_eq_of_lt h

end Word64

-- Intervals of time, closed on the left and open on the right.

structure TimeInterval where
  start : Nat
  stop : Nat
deriving DecidableEq, Repr

namespace TimeInterval

def length (i : TimeInterval) : Nat := i.stop - i.start

-- No moment is in both.
def Apart (i j : TimeInterval) : Prop := i.stop ≤ j.start ∨ j.stop ≤ i.start

theorem Apart.symm {i j : TimeInterval} (h : i.Apart j) : j.Apart i := Or.symm h

-- An interval that comes after all others can be put anywhere in their list.
theorem pairwise_insert {l r : List TimeInterval} {i : TimeInterval}
    (h : (l ++ r).Pairwise Apart) (hlate : ∀ j ∈ l ++ r, j.stop ≤ i.start) :
    (l ++ i :: r).Pairwise Apart := by
  have hcons : (i :: (l ++ r)).Pairwise Apart :=
    List.pairwise_cons.mpr ⟨fun j hj => Or.inr (hlate j hj), h⟩
  exact (List.perm_middle.pairwise_iff Apart.symm).mpr hcons

end TimeInterval
