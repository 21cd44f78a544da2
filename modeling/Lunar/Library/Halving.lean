import Mathlib.Data.List.Basic
import Mathlib.Tactic.Common
import Mathlib.Tactic.Ring

-- Two sums that are halved together as soon as they come to more than two windows. What was
-- added long ago fades, and their ratio is the one of what was added of late.

namespace Halving

variable {w p q : Nat} {acc part : Nat × Nat} {parts : List (Nat × Nat)}

def add (w : Nat) (acc part : Nat × Nat) : Nat × Nat :=
  if 2 * w < (acc.1 + part.1) + (acc.2 + part.2) then ((acc.1 + part.1) / 2, (acc.2 + part.2) / 2)
  else (acc.1 + part.1, acc.2 + part.2)

-- The latest part is the first.
def addAll (w : Nat) (acc : Nat × Nat) (parts : List (Nat × Nat)) : Nat × Nat :=
  parts.foldr (fun part acc => add w acc part) acc

def firsts (parts : List (Nat × Nat)) : Nat := (parts.map Prod.fst).sum

def seconds (parts : List (Nat × Nat)) : Nat := (parts.map Prod.snd).sum

-- The share of the first sum, as a fraction of g.
def share (g : Nat) (acc : Nat × Nat) : Nat := acc.1 * g / (acc.1 + acc.2 + 1)

@[simp] theorem firsts_cons : firsts (part :: parts) = part.1 + firsts parts := rfl

@[simp] theorem seconds_cons : seconds (part :: parts) = part.2 + seconds parts := rfl

-- The two sums are treated alike.

theorem add_swap (w : Nat) (acc part : Nat × Nat) : add w acc.swap part.swap = (add w acc part).swap := by
  have hsum : (acc.2 + part.2) + (acc.1 + part.1) = (acc.1 + part.1) + (acc.2 + part.2) := Nat.add_comm ..
  simp only [add, Prod.fst_swap, Prod.snd_swap, hsum]
  split_ifs <;> rfl

theorem addAll_swap (w : Nat) (acc : Nat × Nat) (parts : List (Nat × Nat)) :
    addAll w acc.swap (parts.map Prod.swap) = (addAll w acc parts).swap := by
  induction parts with
  | nil => rfl
  | cons part rest ih => exact (congrArg (add w · part.swap) ih).trans (add_swap ..)

theorem firsts_swap (parts : List (Nat × Nat)) : firsts (parts.map Prod.swap) = seconds parts := by
  rw [firsts, seconds, List.map_map]
  rfl

theorem seconds_swap (parts : List (Nat × Nat)) : seconds (parts.map Prod.swap) = firsts parts := by
  rw [firsts, seconds, List.map_map]
  rfl

section Ahead

-- How far the first sum is ahead of q to p: a bucket that p fills and q drains.
def ahead (p q : Nat) (parts : List (Nat × Nat)) : Nat :=
  parts.foldr (fun part level => level + p * part.1 - q * part.2) 0

theorem ahead_cons : ahead p q (part :: parts) = ahead p q parts + p * part.1 - q * part.2 := rfl

-- It holds no more than the burst that was allowed in all stretches up to now.
theorem ahead_le {burst : Nat}
    (h : ∀ recent, recent <+: parts → p * firsts recent ≤ q * seconds recent + burst) :
    ahead p q parts ≤ burst := by
  induction parts generalizing burst with
  | nil => exact Nat.zero_le _
  | cons part rest ih =>
      have hpart := h [part] (by simp)
      have hrest : ahead p q rest ≤ burst + q * part.2 - p * part.1 := by
        apply ih
        intro recent hrecent
        have hlonger := h (part :: recent) (List.cons_prefix_cons.mpr ⟨rfl, hrecent⟩)
        simp only [firsts_cons, seconds_cons, Nat.mul_add] at hlonger
        omega
      simp only [firsts, seconds, List.map_cons, List.map_nil, List.sum_cons, List.sum_nil,
        Nat.add_zero] at hpart
      rw [ahead_cons]
      omega

end Ahead

-- A larger factor says more.
theorem mul_le_mul_add_of_le {n k x y c : Nat} (hn : n ≤ k) (h : k * x ≤ k * y + c) :
    n * x ≤ n * y + c := by
  rcases Nat.le_total x y with hxy | hxy
  · exact Nat.le_add_right_of_le (Nat.mul_le_mul_left n hxy)
  · obtain ⟨d, rfl⟩ := Nat.exists_eq_add_of_le hxy
    have hd := Nat.mul_le_mul_right d hn
    rw [Nat.mul_add] at h ⊢
    omega

-- Sums that started with first, after this much was added to them and owed is ahead. Each
-- halving halves what is left of first, and it lets the sums fall behind what was added by a
-- bounded amount. So what was added tells how little of first is left.
structure Fades (w p q first added owed : Nat) (acc : Nat × Nat) : Prop where
  le : acc.1 + acc.2 ≤ 2 * w
  halvings : ∃ n, 2 ^ n * (p * acc.1) ≤ 2 ^ n * (q * acc.2 + q + owed) + p * first ∧
    added ≤ acc.1 + acc.2 + n * (2 * w + 1) ∧ (n ≠ 0 → w ≤ acc.1 + acc.2)

namespace Fades

variable {first added owed : Nat}

theorem start (hacc : acc.1 + acc.2 ≤ 2 * w) : Fades w p q acc.1 0 0 acc := by
  refine ⟨hacc, 0, ?_, Nat.zero_le _, fun h => absurd rfl h⟩
  rw [pow_zero, Nat.one_mul, Nat.one_mul]
  exact Nat.le_add_left ..

-- The ratio before the sums are halved, if they are.
private theorem sum_ratio {n : Nat} (part : Nat × Nat)
    (h : 2 ^ n * (p * acc.1) ≤ 2 ^ n * (q * acc.2 + q + owed) + p * first) :
    2 ^ n * (p * (acc.1 + part.1)) ≤
      2 ^ n * (q * (acc.2 + part.2) + q + (owed + p * part.1 - q * part.2)) + p * first := by
  have hbucket : q * acc.2 + q + owed + p * part.1 ≤
      q * (acc.2 + part.2) + q + (owed + p * part.1 - q * part.2) := by
    rw [Nat.mul_add]
    omega
  calc 2 ^ n * (p * (acc.1 + part.1)) = 2 ^ n * (p * acc.1) + 2 ^ n * (p * part.1) := by ring
    _ ≤ 2 ^ n * (q * acc.2 + q + owed) + p * first + 2 ^ n * (p * part.1) := Nat.add_le_add_right h _
    _ = 2 ^ n * (q * acc.2 + q + owed + p * part.1) + p * first := by ring
    _ ≤ _ := Nat.add_le_add_right (Nat.mul_le_mul_left _ hbucket) _

-- What the second sum loses by rounding is paid for by the q that is left over.
private theorem half_ratio {n a b : Nat} (h : 2 ^ n * (p * a) ≤ 2 ^ n * (q * b + q + owed) + p * first) :
    2 ^ (n + 1) * (p * (a / 2)) ≤ 2 ^ (n + 1) * (q * (b / 2) + q + owed) + p * first := by
  have ha : 2 * (a / 2) ≤ a := Nat.mul_div_le a 2
  have hb : b ≤ 2 * (b / 2) + 1 := by omega
  have hrounded : q * b + q + owed ≤ 2 * (q * (b / 2) + q + owed) := by
    have := Nat.mul_le_mul_left q hb
    rw [Nat.mul_add, Nat.mul_left_comm] at this
    omega
  calc 2 ^ (n + 1) * (p * (a / 2)) = 2 ^ n * (p * (2 * (a / 2))) := by ring
    _ ≤ 2 ^ n * (p * a) := Nat.mul_le_mul_left _ (Nat.mul_le_mul_left _ ha)
    _ ≤ 2 ^ n * (q * b + q + owed) + p * first := h
    _ ≤ 2 ^ n * (2 * (q * (b / 2) + q + owed)) + p * first :=
        Nat.add_le_add_right (Nat.mul_le_mul_left _ hrounded) _
    _ = 2 ^ (n + 1) * (q * (b / 2) + q + owed) + p * first := by ring

theorem add (h : Fades w p q first added owed acc) (hpart : part.1 ≤ w ∧ part.2 ≤ w) :
    Fades w p q first (added + (part.1 + part.2)) (owed + p * part.1 - q * part.2) (Halving.add w acc part) := by
  obtain ⟨hle, n, hratio, hadded, hwindow⟩ := h
  have hsum := sum_ratio part hratio
  unfold Halving.add
  split_ifs with hfull
  · refine ⟨?_, n + 1, half_ratio hsum, ?_, fun _ => ?_⟩
    · dsimp only
      omega
    · rw [Nat.succ_mul]
      dsimp only
      omega
    · dsimp only
      omega
  · refine ⟨?_, n, hsum, ?_, fun hn => ?_⟩
    · dsimp only
      omega
    · dsimp only
      omega
    · have := hwindow hn
      dsimp only
      omega

theorem addAll (h : Fades w p q first added 0 acc) (hparts : ∀ part ∈ parts, part.1 ≤ w ∧ part.2 ≤ w) :
    Fades w p q first (added + (firsts parts + seconds parts)) (ahead p q parts)
      (Halving.addAll w acc parts) := by
  induction parts with
  | nil => exact h
  | cons part rest ih =>
      obtain ⟨hpart, hrest⟩ := List.forall_mem_cons.mp hparts
      have hstep := (ih hrest).add hpart
      rw [show added + (firsts rest + seconds rest) + (part.1 + part.2) =
        added + (firsts (part :: rest) + seconds (part :: rest)) by simp; omega] at hstep
      exact hstep

end Fades

-- After that much, at least n + 1 halvings have been made. What was first is forgotten but for
-- a 2 ^ (n + 1)th, and the ratio of the sums is the one all stretches up to now had, but for
-- the burst.
theorem addAll_ratio {n burst : Nat} (hacc : acc.1 + acc.2 ≤ 2 * w)
    (hparts : ∀ part ∈ parts, part.1 ≤ w ∧ part.2 ≤ w)
    (htotal : 2 * w + n * (2 * w + 1) < firsts parts + seconds parts)
    (hrate : ∀ recent, recent <+: parts → p * firsts recent ≤ q * seconds recent + burst) :
    2 ^ (n + 1) * (p * (addAll w acc parts).1) ≤
        2 ^ (n + 1) * (q * (addAll w acc parts).2 + q + burst) + p * acc.1 ∧
      w ≤ (addAll w acc parts).1 + (addAll w acc parts).2 := by
  obtain ⟨hle, k, hratio, hbehind, hwindow⟩ := (Fades.start (p := p) (q := q) hacc).addAll hparts
  have hmany : n < k := by
    by_contra hfew
    have := Nat.mul_le_mul_right (2 * w + 1) (Nat.not_lt.mp hfew)
    omega
  have hratio := mul_le_mul_add_of_le (Nat.pow_le_pow_right (by decide) hmany) hratio
  refine ⟨hratio.trans ?_, hwindow (by omega)⟩
  exact Nat.add_le_add_right (Nat.mul_le_mul_left _ (Nat.add_le_add_left (ahead_le hrate) _)) _

theorem addAll_ratio_swap {n burst : Nat} (hacc : acc.1 + acc.2 ≤ 2 * w)
    (hparts : ∀ part ∈ parts, part.1 ≤ w ∧ part.2 ≤ w)
    (htotal : 2 * w + n * (2 * w + 1) < firsts parts + seconds parts)
    (hrate : ∀ recent, recent <+: parts → q * seconds recent ≤ p * firsts recent + burst) :
    2 ^ (n + 1) * (q * (addAll w acc parts).2) ≤
        2 ^ (n + 1) * (p * (addAll w acc parts).1 + p + burst) + q * acc.2 ∧
      w ≤ (addAll w acc parts).1 + (addAll w acc parts).2 := by
  have hacc' : acc.swap.1 + acc.swap.2 ≤ 2 * w := Nat.add_comm .. ▸ hacc
  have hparts' : ∀ part ∈ parts.map Prod.swap, part.1 ≤ w ∧ part.2 ≤ w := by
    intro part hpart
    obtain ⟨part, hmem, rfl⟩ := List.mem_map.mp hpart
    exact (hparts part hmem).symm
  have htotal' : 2 * w + n * (2 * w + 1) <
      firsts (parts.map Prod.swap) + seconds (parts.map Prod.swap) := by
    rw [firsts_swap, seconds_swap, Nat.add_comm (seconds parts)]
    exact htotal
  have hrate' : ∀ recent, recent <+: parts.map Prod.swap → q * firsts recent ≤ p * seconds recent + burst := by
    intro recent hrecent
    obtain ⟨recent, hprefix, rfl⟩ := List.prefix_map_iff.mp hrecent
    rw [firsts_swap, seconds_swap]
    exact hrate recent hprefix
  have h := addAll_ratio hacc' hparts' htotal' hrate'
  rw [addAll_swap] at h
  exact ⟨h.1, Nat.add_comm .. ▸ h.2⟩

section Share

variable {g n owed first : Nat}

theorem mul_share_le (g : Nat) (acc : Nat × Nat) :
    share g acc * (acc.1 + acc.2 + 1) ≤ g * acc.1 := by
  rw [Nat.mul_comm g]
  exact Nat.div_mul_le_self ..

theorem lt_mul_share (g : Nat) (acc : Nat × Nat) :
    g * acc.1 < (share g acc + 1) * (acc.1 + acc.2 + 1) := by
  rw [Nat.mul_comm g, Nat.mul_comm _ (acc.1 + acc.2 + 1)]
  exact Nat.lt_mul_div_succ _ (Nat.succ_pos _)

theorem share_le (hratio : n * (p * acc.1) ≤ n * (q * acc.2 + q + owed) + p * first)
    (hwindow : w ≤ acc.1 + acc.2) :
    n * ((p + q) * share g acc * w) ≤ n * (g * (q * w + owed)) + g * (p * first) := by
  obtain ⟨a, b⟩ := acc
  have hshare := mul_share_le g (a, b)
  dsimp only at hratio hwindow hshare
  generalize share g (a, b) = d at hshare ⊢
  -- All of it in sums as they are, which are at least a window.
  have hsums : (a + b + 1) * (n * ((p + q) * d)) ≤ (a + b + 1) * (n * (g * q)) + g * (n * owed + p * first) :=
    calc (a + b + 1) * (n * ((p + q) * d)) = n * (p + q) * (d * (a + b + 1)) := by ring
      _ ≤ n * (p + q) * (g * a) := Nat.mul_le_mul_left _ hshare
      _ = g * (n * (p * a)) + g * (n * (q * a)) := by ring
      _ ≤ g * (n * (q * b + q + owed) + p * first) + g * (n * (q * a)) :=
          Nat.add_le_add_right (Nat.mul_le_mul_left _ hratio) _
      _ = (a + b + 1) * (n * (g * q)) + g * (n * owed + p * first) := by ring
  have hw := mul_le_mul_add_of_le (Nat.le_succ_of_le hwindow) hsums
  calc n * ((p + q) * d * w) = w * (n * ((p + q) * d)) := by ring
    _ ≤ w * (n * (g * q)) + g * (n * owed + p * first) := hw
    _ = n * (g * (q * w + owed)) + g * (p * first) := by ring

theorem le_share (hratio : n * (q * acc.2) ≤ n * (p * acc.1 + p + owed) + q * first)
    (hwindow : w ≤ acc.1 + acc.2) :
    n * (g * (q * w)) ≤ n * ((p + q) * (share g acc + 1) * w + g * (p + q + owed)) + g * (q * first) := by
  obtain ⟨a, b⟩ := acc
  have hshare := (lt_mul_share g (a, b)).le
  dsimp only at hratio hwindow hshare
  generalize share g (a, b) = d at hshare ⊢
  have hsums : (a + b + 1) * (n * (g * q)) ≤
      (a + b + 1) * (n * ((p + q) * (d + 1))) + g * (n * (p + q + owed) + q * first) :=
    calc (a + b + 1) * (n * (g * q)) = g * (n * (q * b)) + g * (n * (q * a + q)) := by ring
      _ ≤ g * (n * (p * a + p + owed) + q * first) + g * (n * (q * a + q)) :=
          Nat.add_le_add_right (Nat.mul_le_mul_left _ hratio) _
      _ = n * (p + q) * (g * a) + g * (n * (p + q + owed) + q * first) := by ring
      _ ≤ n * (p + q) * ((d + 1) * (a + b + 1)) + g * (n * (p + q + owed) + q * first) :=
          Nat.add_le_add_right (Nat.mul_le_mul_left _ hshare) _
      _ = (a + b + 1) * (n * ((p + q) * (d + 1))) + g * (n * (p + q + owed) + q * first) := by ring
  have hw := mul_le_mul_add_of_le (Nat.le_succ_of_le hwindow) hsums
  calc n * (g * (q * w)) = w * (n * (g * q)) := by ring
    _ ≤ w * (n * ((p + q) * (d + 1))) + g * (n * (p + q + owed) + q * first) := hw
    _ = n * ((p + q) * (d + 1) * w + g * (p + q + owed)) + g * (q * first) := by ring

end Share

end Halving
