import Mathlib.Data.Int.Notation
import Mathlib.Data.List.Basic
import Mathlib.Data.List.Induction
import Mathlib.Data.List.Nodup
import Mathlib.Data.List.Pairwise
import Mathlib.Data.List.Range

-- A scan over the indices below `n` that starts anywhere and wraps around.

namespace CircularScan

def visits (start n : Nat) : List Nat := (List.range n).map fun i => (start + i) % n

theorem mem_visits (start n : Nat) (i : Nat) : i ∈ visits start n ↔ i < n := by
  simp only [visits, List.mem_map, List.mem_range]
  constructor
  · rintro ⟨j, hj, rfl⟩
    exact Nat.mod_lt _ (by omega)
  · intro hi
    have hn : 0 < n := by omega
    have hs := Nat.mod_lt start hn
    by_cases hle : start % n ≤ i
    · refine ⟨i - start % n, by omega, ?_⟩
      rw [Nat.add_mod, Nat.mod_eq_of_lt (show i - start % n < n by omega),
        Nat.add_sub_of_le hle, Nat.mod_eq_of_lt hi]
    · refine ⟨n + i - start % n, by omega, ?_⟩
      rw [Nat.add_mod, Nat.mod_eq_of_lt (show n + i - start % n < n by omega),
        show start % n + (n + i - start % n) = n + i by omega, Nat.add_mod_left,
        Nat.mod_eq_of_lt hi]

-- The scan stops at the first index that yields something; the starting point
-- decides which one, but not whether there is one.
theorem findSome?_visits_eq_none {α : Type*} (f : Nat → Option α) (start n : Nat) :
    (visits start n).findSome? f = none ↔ ∀ i < n, f i = none := by
  simp only [List.findSome?_eq_none_iff, mem_visits]

theorem exists_of_findSome?_visits {α : Type*} {f : Nat → Option α} {start n : Nat} {a : α}
    (h : (visits start n).findSome? f = some a) : ∃ i < n, f i = some a := by
  obtain ⟨i, hi, ha⟩ := List.exists_of_findSome?_eq_some h
  exact ⟨i, (mem_visits start n i).mp hi, ha⟩

end CircularScan

-- A search for the largest value of a list that keeps the first of equal ones, and
-- starts from a value that has to be exceeded.

namespace FirstMax

variable {α : Type*}

def search (f : α → ℤ) (l : List α) (first : ℤ × α) : ℤ × α :=
  l.foldl (fun best a => if f a > best.1 then (f a, a) else best) first

@[simp] theorem search_nil (f : α → ℤ) (first : ℤ × α) : search f [] first = first := rfl

theorem search_cons (f : α → ℤ) (a : α) (l : List α) (first : ℤ × α) :
    search f (a :: l) first = search f l (if f a > first.1 then (f a, a) else first) := rfl

-- Either nothing exceeds the start, or the result is larger than all before it and not
-- smaller than those behind it.
theorem search_spec (f : α → ℤ) (l : List α) (first : ℤ × α) :
    (search f l first = first ∧ ∀ a ∈ l, f a ≤ first.1) ∨
      ∃ front a back, l = front ++ a :: back ∧ search f l first = (f a, a) ∧ first.1 < f a ∧
        (∀ b ∈ front, f b < f a) ∧ ∀ b ∈ back, f b ≤ f a := by
  induction l generalizing first with
  | nil => exact Or.inl ⟨rfl, by simp⟩
  | cons b rest ih =>
      by_cases hb : f b > first.1
      · have hstep : search f (b :: rest) first = search f rest (f b, b) := by
          simp [search, hb]
        rcases ih (f b, b) with ⟨hr, hle⟩ | ⟨front, a, back, rfl, hr, hlt, hfront, hback⟩
        · exact Or.inr ⟨[], b, rest, rfl, hstep.trans hr, hb, by simp, hle⟩
        · refine Or.inr ⟨b :: front, a, back, rfl, hstep.trans hr, Int.lt_trans hb hlt, ?_, hback⟩
          intro c hc
          rcases List.mem_cons.mp hc with rfl | hc
          · exact hlt
          · exact hfront c hc
      · have hstep : search f (b :: rest) first = search f rest first := by
          simp [search, hb]
        rcases ih first with ⟨hr, hle⟩ | ⟨front, a, back, rfl, hr, hlt, hfront, hback⟩
        · refine Or.inl ⟨hstep.trans hr, ?_⟩
          intro c hc
          rcases List.mem_cons.mp hc with rfl | hc
          · exact Int.not_lt.mp hb
          · exact hle c hc
        · refine Or.inr ⟨b :: front, a, back, rfl, hstep.trans hr, hlt, ?_, hback⟩
          intro c hc
          rcases List.mem_cons.mp hc with rfl | hc
          · exact Int.lt_of_le_of_lt (Int.not_lt.mp hb) hlt
          · exact hfront c hc

-- The result is the largest value, the start included, and the start itself if that is
-- as large.
theorem le_search (f : α → ℤ) (l : List α) (first : ℤ × α) :
    first.1 ≤ (search f l first).1 ∧ ∀ a ∈ l, f a ≤ (search f l first).1 := by
  rcases search_spec f l first with ⟨hr, hle⟩ | ⟨front, a, back, rfl, hr, hlt, hfront, hback⟩
  · rw [hr]
    exact ⟨Int.le_refl _, hle⟩
  · rw [hr]
    refine ⟨Int.le_of_lt hlt, ?_⟩
    intro b hb
    rcases List.mem_append.mp hb with hb | hb
    · exact Int.le_of_lt (hfront b hb)
    · rcases List.mem_cons.mp hb with rfl | hb
      · exact Int.le_refl _
      · exact hback b hb

theorem search_eq_first {f : α → ℤ} {l : List α} {first : ℤ × α} (h : ∀ a ∈ l, f a ≤ first.1) :
    search f l first = first := by
  rcases search_spec f l first with ⟨hr, -⟩ | ⟨front, a, back, rfl, -, hlt, -, -⟩
  · exact hr
  · exact absurd (h a (by simp)) (Int.not_le.mpr hlt)

-- What the result is the value of.
theorem search_value {f : α → ℤ} {l : List α} {first : ℤ × α} (h : first.1 = f first.2) :
    (search f l first).1 = f (search f l first).2 := by
  rcases search_spec f l first with ⟨hr, -⟩ | ⟨front, a, back, rfl, hr, -, -, -⟩
  · rw [hr, h]
  · rw [hr]

theorem search_mem (f : α → ℤ) (l : List α) (first : ℤ × α) :
    search f l first = first ∨ (search f l first).2 ∈ l ∧ first.1 < (search f l first).1 := by
  rcases search_spec f l first with ⟨hr, -⟩ | ⟨front, a, back, rfl, hr, hlt, -, -⟩
  · exact Or.inl hr
  · exact Or.inr (by rw [hr]; exact ⟨by simp, hlt⟩)

end FirstMax

-- The elements of a list in the order in which they first come up, as the keys of a map
-- that gives each new key its current size.

namespace FirstSeen

variable {α : Type*} [DecidableEq α]

def add (seen : List α) (a : α) : List α := if a ∈ seen then seen else seen ++ [a]

def order (l : List α) : List α := l.foldl add []

theorem mem_add {seen : List α} {a b : α} : b ∈ add seen a ↔ b ∈ seen ∨ b = a := by
  unfold add
  split_ifs with ha
  · constructor
    · exact Or.inl
    · rintro (hb | rfl)
      · exact hb
      · exact ha
  · simp

theorem nodup_add {seen : List α} (h : seen.Nodup) (a : α) : (add seen a).Nodup := by
  unfold add
  split_ifs with ha
  · exact h
  · rw [List.nodup_append]
    refine ⟨h, List.nodup_singleton a, ?_⟩
    intro b hb c hc hbc
    rw [List.mem_singleton.mp hc] at hbc
    exact ha (hbc ▸ hb)

-- An element keeps its place.
theorem idxOf_add {seen : List α} {a b : α} (hb : b ∈ seen) : (add seen a).idxOf b = seen.idxOf b := by
  unfold add
  split_ifs
  · rfl
  · exact List.idxOf_append_of_mem hb

-- A new one gets the next.
theorem idxOf_add_new {seen : List α} {a : α} (ha : a ∉ seen) : (add seen a).idxOf a = seen.length := by
  rw [add, if_neg ha, List.idxOf_append_of_notMem ha]
  simp

theorem order_concat (l : List α) (a : α) : order (l ++ [a]) = add (order l) a := by
  simp [order]

@[simp] theorem mem_order {l : List α} {a : α} : a ∈ order l ↔ a ∈ l := by
  induction l using List.reverseRecOn with
  | nil => simp [order]
  | append_singleton l b ih => rw [order_concat, mem_add, ih, List.mem_append, List.mem_singleton]

theorem nodup_order (l : List α) : (order l).Nodup := by
  induction l using List.reverseRecOn with
  | nil => exact List.nodup_nil
  | append_singleton l b ih => exact order_concat l b ▸ nodup_add ih b

theorem idxOf_order_lt_length {l : List α} {a : α} (ha : a ∈ l) :
    (order l).idxOf a < (order l).length := List.idxOf_lt_length_of_mem (mem_order.mpr ha)

theorem idxOf_order_inj {l : List α} {a b : α} (ha : a ∈ l) :
    (order l).idxOf a = (order l).idxOf b ↔ a = b := List.idxOf_inj (mem_order.mpr ha)

theorem exists_idxOf_order {l : List α} {i : Nat} (hi : i < (order l).length) :
    ∃ a ∈ l, (order l).idxOf a = i :=
  ⟨(order l)[i], mem_order.mp (List.getElem_mem hi), (nodup_order l).idxOf_getElem i hi⟩

-- The places are in the order of the first occurrences.
theorem idxOf_order_lt_iff {l : List α} {a b : α} (ha : a ∈ l) (hb : b ∈ l) :
    (order l).idxOf a < (order l).idxOf b ↔ l.idxOf a < l.idxOf b := by
  induction l using List.reverseRecOn with
  | nil => simp at ha
  | append_singleton l c ih =>
      rw [order_concat]
      by_cases hal : a ∈ l
      · have haord := mem_order.mpr hal
        rw [idxOf_add haord, List.idxOf_append_of_mem hal]
        by_cases hbl : b ∈ l
        · rw [idxOf_add (mem_order.mpr hbl), List.idxOf_append_of_mem hbl]
          exact ih hal hbl
        · obtain rfl : b = c := by simpa [hbl] using hb
          rw [idxOf_add_new (fun h => hbl (mem_order.mp h)), List.idxOf_append_of_notMem hbl]
          have hold := List.idxOf_lt_length_of_mem hal
          have hnew := List.idxOf_lt_length_of_mem haord
          omega
      · obtain rfl : a = c := by simpa [hal] using ha
        rw [idxOf_add_new (fun h => hal (mem_order.mp h)), List.idxOf_append_of_notMem hal]
        by_cases hbl : b ∈ l
        · rw [idxOf_add (mem_order.mpr hbl), List.idxOf_append_of_mem hbl]
          have hold := List.idxOf_lt_length_of_mem hbl
          have hnew := List.idxOf_lt_length_of_mem (mem_order.mpr hbl)
          omega
        · obtain rfl : b = a := by simpa [hbl] using hb
          rw [idxOf_add_new (fun h => hbl (mem_order.mp h)), List.idxOf_append_of_notMem hbl]
          simp

end FirstSeen

-- A cascade tries the entries of a list in order. An entry either hits, which
-- ends the cascade with a result, or misses; if all miss the result is `last`.

inductive Cascade {α β : Type*} (hit : α → β → Prop) (miss : α → Prop) (last : β) :
    List α → β → Prop where
  | here {a : α} {rest : List α} {b : β} (h : hit a b) : Cascade hit miss last (a :: rest) b
  | skip {a : α} {rest : List α} {b : β} (h : miss a) (hrest : Cascade hit miss last rest b) :
      Cascade hit miss last (a :: rest) b
  | nothing : Cascade hit miss last [] last

namespace Cascade

variable {α β : Type*} {hit : α → β → Prop} {miss : α → Prop} {last b : β}

theorem of_forall_miss {as : List α} (h : ∀ a ∈ as, miss a) : Cascade hit miss last as last := by
  induction as with
  | nil => exact .nothing
  | cons a rest ih => exact .skip (h a (by simp)) (ih fun a' ha => h a' (List.mem_cons_of_mem _ ha))

-- In a part of the list ordered by `before`, every entry misses except the one
-- that hits and those it comes before; if none hits, the cascade goes on behind it.
theorem hit_or_continue {front back : List α} {before : α → α → Prop}
    (hsorted : front.Pairwise before) (h : Cascade hit miss last (front ++ back) b) :
    (∃ a ∈ front, hit a b ∧ ∀ a' ∈ front, a' = a ∨ before a a' ∨ miss a') ∨
      (∀ a ∈ front, miss a) ∧ Cascade hit miss last back b := by
  induction front with
  | nil => exact Or.inr ⟨by simp, h⟩
  | cons a rest ih =>
      cases h with
      | here h =>
          refine Or.inl ⟨a, by simp, h, ?_⟩
          intro a' ha'
          rcases List.mem_cons.mp ha' with rfl | ha'
          · exact Or.inl rfl
          · exact Or.inr (Or.inl (List.rel_of_pairwise_cons hsorted ha'))
      | skip h hrest =>
          rcases ih hsorted.of_cons hrest with ⟨a', ha', hhit, hother⟩ | ⟨hmiss, hback⟩
          · refine Or.inl ⟨a', List.mem_cons_of_mem _ ha', hhit, ?_⟩
            intro a'' ha''
            rcases List.mem_cons.mp ha'' with rfl | ha''
            · exact Or.inr (Or.inr h)
            · exact hother a'' ha''
          · exact Or.inr ⟨by simpa using ⟨h, hmiss⟩, hback⟩

-- A part of the list where nothing can hit is passed over.
theorem of_append {front back : List α} (hnot : ∀ a ∈ front, ∀ b, ¬hit a b)
    (h : Cascade hit miss last (front ++ back) b) : Cascade hit miss last back b := by
  induction front with
  | nil => exact h
  | cons a rest ih =>
      cases h with
      | here hhit => exact absurd hhit (hnot a (by simp) b)
      | skip _ hrest => exact ih (fun a ha => hnot a (List.mem_cons_of_mem _ ha)) hrest

-- Where nothing can hit, the cascade ends with `last`.
theorem eq_last {as : List α} (hnot : ∀ a ∈ as, ∀ b, ¬hit a b)
    (h : Cascade hit miss last as b) : b = last := by
  induction h with
  | here hhit => exact absurd hhit (hnot _ (by simp) _)
  | skip _ _ ih => exact ih fun a ha => hnot a (List.mem_cons_of_mem _ ha)
  | nothing => rfl

-- Where nothing has hit with this result, everything has missed.
theorem forall_miss {as : List α} (hnot : ∀ a ∈ as, ¬hit a b)
    (h : Cascade hit miss last as b) : ∀ a ∈ as, miss a := by
  induction h with
  | here hhit => exact absurd hhit (hnot _ (by simp))
  | skip hmiss _ ih =>
      intro a' ha'
      rcases List.mem_cons.mp ha' with rfl | ha'
      · exact hmiss
      · exact ih (fun a ha => hnot a (List.mem_cons_of_mem _ ha)) a' ha'
  | nothing => simp

end Cascade
