import Mathlib.Data.List.Chain
import Mathlib.Order.Lattice

-- A value that is only moved when it leaves a band, and then only to its edge.

namespace Hysteresis

variable {α : Type*} [LinearOrder α] {lo hi : α}

def hold (lo hi old : α) : α := if hi < old then hi else if old < lo then lo else old

theorem hold_mem (h : lo ≤ hi) (old : α) : lo ≤ hold lo hi old ∧ hold lo hi old ≤ hi := by
  unfold hold
  split_ifs with hhi hlo
  · exact ⟨h, le_refl hi⟩
  · exact ⟨le_refl lo, h⟩
  · exact ⟨not_lt.mp hlo, not_lt.mp hhi⟩

theorem hold_of_gt {old : α} (h : hi < old) : hold lo hi old = hi := by rw [hold, if_pos h]

theorem hold_of_lt {old : α} (hband : lo ≤ hi) (h : old < lo) : hold lo hi old = lo := by
  rw [hold, if_neg (not_lt.mpr (h.le.trans hband)), if_pos h]

theorem hold_of_mem {old : α} (hlo : lo ≤ old) (hhi : old ≤ hi) : hold lo hi old = old := by
  rw [hold, if_neg (not_lt.mpr hhi), if_neg (not_lt.mpr hlo)]

theorem hold_hold (h : lo ≤ hi) (old : α) : hold lo hi (hold lo hi old) = hold lo hi old :=
  hold_of_mem (hold_mem h old).1 (hold_mem h old).2

-- The values one after another, held in a band that moves.
def holds (old : α) : List (α × α) → List α
  | [] => [old]
  | band :: rest => old :: holds (hold band.1 band.2 old) rest

theorem isChain_holds {R : α → α → Prop} {old next : α} {band : α × α} {rest : List (α × α)}
    (hnext : hold band.1 band.2 old = next) (hfirst : R old next)
    (hrest : (holds next rest).IsChain R) : (holds old (band :: rest)).IsChain R := by
  subst hnext
  unfold holds
  cases rest with
  | nil => exact .cons_cons hfirst hrest
  | cons band' more => exact .cons_cons hfirst hrest

-- Each two of the bands have a value in common.
def Meet (bands : List (α × α)) : Prop := ∀ b ∈ bands, ∀ b' ∈ bands, b.1 ≤ b'.2

variable {band : α × α} {rest bands : List (α × α)}

theorem Meet.tail (h : Meet (band :: rest)) : Meet rest :=
  fun b hb b' hb' => h b (List.mem_cons_of_mem band hb) b' (List.mem_cons_of_mem band hb')

theorem Meet.self (h : Meet (band :: rest)) : band.1 ≤ band.2 :=
  h band List.mem_cons_self band List.mem_cons_self

theorem Meet.lo_le (h : Meet (band :: rest)) : ∀ b ∈ rest, band.1 ≤ b.2 :=
  fun b hb => h band List.mem_cons_self b (List.mem_cons_of_mem band hb)

theorem Meet.le_hi (h : Meet (band :: rest)) : ∀ b ∈ rest, b.1 ≤ band.2 :=
  fun b hb => h b (List.mem_cons_of_mem band hb) band List.mem_cons_self

-- A value that is above none of the bands can only rise, and is above none of them then.
theorem holds_rise (hmeet : Meet bands) {old : α} (hbelow : ∀ b ∈ bands, old ≤ b.2) :
    (holds old bands).IsChain (· ≤ ·) := by
  induction bands generalizing old with
  | nil => exact .singleton old
  | cons band rest ih =>
      have hle : old ≤ band.2 := hbelow band List.mem_cons_self
      rcases lt_or_ge old band.1 with hlt | hge
      · apply isChain_holds (hold_of_lt hmeet.self hlt) hlt.le
        exact ih hmeet.tail hmeet.lo_le
      · apply isChain_holds (hold_of_mem hge hle) le_rfl
        exact ih hmeet.tail fun b hb => hbelow b (List.mem_cons_of_mem band hb)

theorem holds_fall (hmeet : Meet bands) {old : α} (habove : ∀ b ∈ bands, b.1 ≤ old) :
    (holds old bands).IsChain (· ≥ ·) := by
  induction bands generalizing old with
  | nil => exact .singleton old
  | cons band rest ih =>
      have hge : band.1 ≤ old := habove band List.mem_cons_self
      rcases lt_or_ge band.2 old with hlt | hle
      · apply isChain_holds (hold_of_gt hlt) hlt.le
        exact ih hmeet.tail hmeet.le_hi
      · apply isChain_holds (hold_of_mem hge hle) (show old ≥ old from le_rfl)
        exact ih hmeet.tail fun b hb => habove b (List.mem_cons_of_mem band hb)

-- So the value moves in one direction only: the first band that moves it decides which.
theorem holds_monotone (hmeet : Meet bands) (old : α) :
    (holds old bands).Pairwise (· ≤ ·) ∨ (holds old bands).Pairwise (· ≥ ·) := by
  rw [← List.isChain_iff_pairwise, ← List.isChain_iff_pairwise]
  induction bands generalizing old with
  | nil => exact Or.inl (.singleton old)
  | cons band rest ih =>
      rcases lt_or_ge band.2 old with hgt | hle
      · right
        apply isChain_holds (hold_of_gt hgt) hgt.le
        exact holds_fall hmeet.tail hmeet.le_hi
      rcases lt_or_ge old band.1 with hlt | hge
      · left
        apply isChain_holds (hold_of_lt hmeet.self hlt) hlt.le
        exact holds_rise hmeet.tail hmeet.lo_le
      · have hsame := hold_of_mem hge hle
        rcases ih hmeet.tail old with hrise | hfall
        · exact Or.inl (isChain_holds hsame le_rfl hrise)
        · exact Or.inr (isChain_holds hsame (show old ≥ old from le_rfl) hfall)

end Hysteresis
