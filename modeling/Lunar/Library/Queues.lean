import Lunar.Library.Run
import Mathlib.Algebra.Ring.Nat
import Mathlib.Data.List.Nodup

-- Queues that values enter at either end, are taken out of by consumers that may not
-- handle all of them, and leave again. A consumer takes the first value it may handle and
-- puts it at the end of another queue.

namespace Queues

inductive Move (ι α : Type*) where
  | push (i : ι) (head : Bool) (a : α)
  | remove (a : α)
  | take (i j : ι) (may : α → Bool)

section WellFormed

variable {ι α : Type*}

-- No value is in two places.
structure WellFormed (queues : ι → List α) : Prop where
  nodup : ∀ i, (queues i).Nodup
  unique : ∀ i j a, a ∈ queues i → a ∈ queues j → i = j

theorem WellFormed.sublist {queues queues' : ι → List α} (h : WellFormed queues)
    (hsub : ∀ j, (queues' j).Sublist (queues j)) : WellFormed queues' where
  nodup j := (hsub j).nodup (h.nodup j)
  unique j k b hj hk := h.unique j k b ((hsub j).subset hj) ((hsub k).subset hk)

theorem not_mem_eraseP_of_find? {l : List α} {b : α} {may : α → Bool} (hnodup : l.Nodup)
    (h : l.find? may = some b) : b ∉ l.eraseP may := by
  induction l with
  | nil => simp
  | cons c rest ih =>
      obtain ⟨hc, hrest⟩ := List.nodup_cons.mp hnodup
      by_cases hmay : may c
      · rw [List.find?_cons_of_pos hmay] at h
        rw [List.eraseP_cons_of_pos hmay, ← Option.some.inj h]
        exact hc
      · rw [List.find?_cons_of_neg hmay] at h
        rw [List.eraseP_cons_of_neg hmay, List.mem_cons, not_or]
        refine ⟨?_, ih hrest h⟩
        rintro rfl
        exact hmay (List.find?_some h)

theorem mem_eraseP_of_find? {l : List α} {a b : α} {may : α → Bool} (h : l.find? may = some b)
    (ha : a ∈ l) (hne : a ≠ b) : a ∈ l.eraseP may := by
  induction l with
  | nil => cases ha
  | cons c rest ih =>
      by_cases hmay : may c
      · rw [List.find?_cons_of_pos hmay] at h
        rw [List.eraseP_cons_of_pos hmay]
        refine (List.mem_cons.mp ha).resolve_left fun hac => hne ?_
        rw [hac, Option.some.inj h]
      · rw [List.find?_cons_of_neg hmay] at h
        rw [List.eraseP_cons_of_neg hmay]
        rcases List.mem_cons.mp ha with rfl | ha
        · exact List.mem_cons_self
        · exact List.mem_cons_of_mem _ (ih h ha)

-- The first value that may be handled is the head, if the head is one of them.
theorem find?_eq_head? {l : List α} {a : α} {may : α → Bool} (h : l.find? may = some a)
    (hhead : ∀ b ∈ l.head?, may b) : l.head? = some a := by
  cases l with
  | nil => simp at h
  | cons b rest => rwa [List.find?_cons_of_pos (hhead b rfl)] at h

theorem eraseP_head?_ne {l : List α} {a : α} {may : α → Bool} (hnodup : l.Nodup)
    (h : l.find? may = some a) (hhead : l.head? = some a) : (l.eraseP may).head? ≠ l.head? := by
  intro he
  exact not_mem_eraseP_of_find? hnodup h (List.mem_of_mem_head? (he.trans hhead))

-- A head that may not be handled stays.
theorem eraseP_head?_of_not {l : List α} {a : α} {may : α → Bool} (hhead : l.head? = some a)
    (ha : ¬may a) : (l.eraseP may).head? = l.head? := by
  cases l with
  | nil => rfl
  | cons b rest =>
      obtain rfl : b = a := Option.some.inj hhead
      rw [List.eraseP_cons_of_neg ha, List.head?_cons, List.head?_cons]

end WellFormed

variable {ι α : Type*} [DecidableEq ι] [DecidableEq α]

-- A value enters one queue at a time, and there is something to take.
def enabled (queues : ι → List α) : Move ι α → Prop
  | .push _ _ a => ∀ i, a ∉ queues i
  | .remove _ => True
  | .take i j may => i ≠ j ∧ ∃ a ∈ queues i, may a

def exec (queues : ι → List α) : Move ι α → ι → List α
  | .push i head a => Function.update queues i (if head then a :: queues i else queues i ++ [a])
  | .remove a => fun i => (queues i).filter (· ≠ a)
  | .take i j may =>
      match (queues i).find? may with
      | none => queues
      | some a =>
          let queues := Function.update queues i ((queues i).eraseP may)
          Function.update queues j (queues j ++ [a])

def system : TransitionSystem (ι → List α) (Move ι α) where
  enabled := enabled
  exec := exec

-- A value that is taken out of queue i by a consumer that may also handle a.
def served (i : ι) (a : α) : Move ι α → Nat
  | .take i' _ may => if i' = i ∧ may a then 1 else 0
  | .push .. | .remove _ => 0

-- A value that is put in front of all others of queue i.
def jumped (i : ι) : Move ι α → Nat
  | .push i' head _ => if i' = i ∧ head then 1 else 0
  | .remove _ | .take .. => 0

section Lists

variable {l : List α} {a b : α} {may : α → Bool}

theorem idxOf_append_singleton (ha : a ∈ l) : (l ++ [b]).idxOf a = l.idxOf a :=
  List.idxOf_append_of_mem ha

-- What leaves from before a lets it move up.
theorem idxOf_filter_le (keep : α → Bool) (ha : a ∈ l.filter keep) :
    (l.filter keep).idxOf a ≤ l.idxOf a := by
  induction l with
  | nil => cases ha
  | cons b rest ih =>
      by_cases hb : keep b
      · rw [List.filter_cons_of_pos hb] at ha ⊢
        by_cases he : b = a
        · simp [he]
        · rw [List.idxOf_cons_ne _ he, List.idxOf_cons_ne _ he]
          have hrest := ih ((List.mem_cons.mp ha).resolve_left (Ne.symm he))
          omega
      · rw [List.filter_cons_of_neg hb] at ha ⊢
        have hne : b ≠ a := by
          rintro rfl
          exact hb (List.mem_filter.mp ha).2
        rw [List.idxOf_cons_ne _ hne]
        exact Nat.le_succ_of_le (ih ha)

-- The first value that may be handled is before a, if a is one of them.
theorem idxOf_eraseP_le (hnodup : l.Nodup) (ha : a ∈ l.eraseP may) :
    (l.eraseP may).idxOf a + (if may a then 1 else 0) ≤ l.idxOf a := by
  induction l with
  | nil => cases ha
  | cons b rest ih =>
      obtain ⟨hb, hrest⟩ := List.nodup_cons.mp hnodup
      by_cases hmay : may b
      · rw [List.eraseP_cons_of_pos hmay] at ha ⊢
        have hne : b ≠ a := by
          rintro rfl
          exact hb ha
        rw [List.idxOf_cons_ne _ hne]
        split <;> omega
      · rw [List.eraseP_cons_of_neg hmay] at ha ⊢
        by_cases he : b = a
        · subst he
          simp [hmay]
        · rw [List.idxOf_cons_ne _ he, List.idxOf_cons_ne _ he]
          have := ih hrest ((List.mem_cons.mp ha).resolve_left (Ne.symm he))
          omega

end Lists

variable {queues : ι → List α} {move : Move ι α} {i : ι} {a : α}

theorem exec_take {j : ι} {may : α → Bool} {b : α} (hij : i ≠ j) (h : (queues i).find? may = some b) :
    exec queues (.take i j may) =
      Function.update (Function.update queues i ((queues i).eraseP may)) j (queues j ++ [b]) := by
  simp [exec, h, Function.update_of_ne hij.symm]

theorem mem_push {head : Bool} {j : ι} {b : α} :
    b ∈ exec queues (.push i head a) j ↔ b = a ∧ j = i ∨ b ∈ queues j := by
  simp only [exec, Function.update_apply]
  split_ifs with hj hhead
  · simp [hj]
  · simp [hj, or_comm]
  · simp [hj]

theorem mem_remove {j : ι} {b : α} : b ∈ exec queues (.remove a) j ↔ b ≠ a ∧ b ∈ queues j := by
  simp [exec, and_comm]

theorem WellFormed.push (h : WellFormed queues) {head : Bool} (hout : ∀ j, a ∉ queues j) :
    WellFormed (exec queues (.push i head a)) := by
  constructor
  · intro j
    simp only [exec, Function.update_apply]
    split_ifs
    · exact List.nodup_cons.mpr ⟨hout i, h.nodup i⟩
    · refine List.nodup_append.mpr ⟨h.nodup i, by simp, ?_⟩
      intro b hb c hc
      rw [List.mem_singleton.mp hc]
      rintro rfl
      exact hout i hb
    · exact h.nodup j
  · intro j k b hj hk
    rcases mem_push.mp hj with ⟨rfl, rfl⟩ | hj'
    · rcases mem_push.mp hk with ⟨-, rfl⟩ | hk'
      · rfl
      · exact absurd hk' (hout k)
    · rcases mem_push.mp hk with ⟨rfl, -⟩ | hk'
      · exact absurd hj' (hout j)
      · exact h.unique j k b hj' hk'

theorem WellFormed.exec (h : WellFormed queues) (he : enabled queues move) :
    WellFormed (exec queues move) := by
  cases move with
  | push i head a => exact h.push he
  | remove a => exact h.sublist fun _ => List.filter_sublist
  | take i j may =>
      obtain ⟨hij, a, ha, hmay⟩ := he
      obtain ⟨b, hb⟩ := Option.isSome_iff_exists.mp (List.find?_isSome.mpr ⟨a, ha, hmay⟩)
      have hsub (k : ι) : (Function.update queues i ((queues i).eraseP may) k).Sublist (queues k) := by
        rw [Function.update_apply]
        split_ifs with hk
        · rw [hk]
          exact List.eraseP_sublist
        · exact List.Sublist.refl _
      -- The value that is taken is nowhere while it moves.
      have hout (k : ι) : b ∉ Function.update queues i ((queues i).eraseP may) k := by
        rw [Function.update_apply]
        split_ifs with hk
        · exact not_mem_eraseP_of_find? (h.nodup i) hb
        · exact fun hmem => hk (h.unique k i b hmem (List.mem_of_find?_eq_some hb))
      have hpush : WellFormed (Queues.exec _ (.push j false b)) := (h.sublist hsub).push hout
      rw [exec_take hij hb]
      simpa [Queues.exec, Function.update_of_ne hij.symm] using hpush

-- Where a move puts values.
def Move.Into (P : ι → Prop) : Move ι α → Prop
  | .push i _ _ => P i
  | .remove _ => True
  | .take _ j _ => P j

theorem exec_into {queues : ι → List α} {P : ι → Prop} {move : Move ι α} (h : ∀ i, queues i ≠ [] → P i)
    (hinto : move.Into P) : ∀ i, exec queues move i ≠ [] → P i := by
  intro k hne
  cases move with
  | push i head a =>
      by_cases hk : k = i
      · exact hk ▸ hinto
      · rw [exec, Function.update_of_ne hk] at hne
        exact h k hne
  | remove a =>
      refine h k fun hnil => hne ?_
      simp [exec, hnil]
  | take i j may =>
      by_cases hk : k = j
      · exact hk ▸ hinto
      · refine h k fun hnil => hne ?_
        simp only [exec]
        cases hb : (queues i).find? may with
        | none => exact hnil
        | some b =>
            dsimp only
            rw [Function.update_of_ne hk, Function.update_apply]
            split_ifs with hi
            · rw [← hi, hnil]
              rfl
            · exact hnil

theorem final_into {queues : ι → List α} {P : ι → Prop} {moves : List (Move ι α)}
    (h : ∀ i, queues i ≠ [] → P i) (hinto : ∀ move ∈ moves, move.Into P) :
    ∀ i, system.final queues moves i ≠ [] → P i := by
  induction moves generalizing queues with
  | nil => exact h
  | cons move rest ih =>
      obtain ⟨hmove, hrest⟩ := List.forall_mem_cons.mp hinto
      exact ih (exec_into h hmove) hrest

-- A value is in some queue.
def Present (queues : ι → List α) (a : α) : Prop := ∃ i, a ∈ queues i

theorem present_push {head : Bool} {b : α} :
    Present (exec queues (.push i head a)) b ↔ b = a ∨ Present queues b := by
  constructor
  · rintro ⟨j, hj⟩
    rcases mem_push.mp hj with ⟨hb, -⟩ | hj
    · exact Or.inl hb
    · exact Or.inr ⟨j, hj⟩
  · rintro (rfl | ⟨j, hj⟩)
    · exact ⟨i, mem_push.mpr (Or.inl ⟨rfl, rfl⟩)⟩
    · exact ⟨j, mem_push.mpr (Or.inr hj)⟩

theorem present_remove {b : α} : Present (exec queues (.remove a)) b ↔ b ≠ a ∧ Present queues b := by
  simp only [Present, mem_remove, exists_and_left]

-- A take loses nothing.
theorem present_take {j : ι} {may : α → Bool} {b : α} (he : enabled queues (.take i j may)) :
    Present (exec queues (.take i j may)) b ↔ Present queues b := by
  obtain ⟨hij, a, ha, hmay⟩ := he
  obtain ⟨c, hc⟩ := Option.isSome_iff_exists.mp (List.find?_isSome.mpr ⟨a, ha, hmay⟩)
  have hmem : c ∈ queues i := List.mem_of_find?_eq_some hc
  rw [exec_take hij hc]
  constructor
  · rintro ⟨k, hk⟩
    simp only [Function.update_apply] at hk
    split_ifs at hk with hkj hki
    · rcases List.mem_append.mp hk with hk | hk
      · exact ⟨j, hk⟩
      · rw [List.mem_singleton.mp hk]
        exact ⟨i, hmem⟩
    · exact ⟨i, List.mem_of_mem_eraseP hk⟩
    · exact ⟨k, hk⟩
  · rintro ⟨k, hk⟩
    by_cases hbc : b = c
    · refine ⟨j, ?_⟩
      rw [Function.update_self, hbc]
      simp
    · by_cases hkj : k = j
      · refine ⟨j, ?_⟩
        rw [Function.update_self]
        exact List.mem_append_left _ (hkj ▸ hk)
      · refine ⟨k, ?_⟩
        rw [Function.update_of_ne hkj]
        by_cases hki : k = i
        · rw [hki, Function.update_self]
          exact mem_eraseP_of_find? hc (hki ▸ hk) hbc
        · rwa [Function.update_of_ne hki]

-- As long as a value stays in its queue it only falls back by what is put in front of it,
-- and each value taken by a consumer that may handle it lets it move up.
theorem idxOf_exec (h : WellFormed queues) (he : enabled queues move) (ha : a ∈ queues i)
    (hstay : a ∈ exec queues move i) :
    (exec queues move i).idxOf a + served i a move ≤ (queues i).idxOf a + jumped i move := by
  cases move with
  | push j head b =>
      have hne : b ≠ a := by
        rintro rfl
        exact he i ha
      simp only [exec, served, jumped, Function.update_apply]
      by_cases hj : i = j
      · subst hj
        cases head with
        | true => simp [List.idxOf_cons_ne _ hne]
        | false => simp [idxOf_append_singleton ha]
      · simp [hj]
  | remove b =>
      simp only [exec, served, jumped] at hstay ⊢
      exact idxOf_filter_le _ hstay
  | take j k may =>
      obtain ⟨hjk, c, hc, hmay⟩ := he
      obtain ⟨b, hb⟩ := Option.isSome_iff_exists.mp (List.find?_isSome.mpr ⟨c, hc, hmay⟩)
      rw [exec_take hjk hb] at hstay ⊢
      simp only [served, jumped, Function.update_apply] at hstay ⊢
      by_cases hj : j = i
      · subst hj
        rw [if_neg hjk, if_pos rfl] at hstay ⊢
        have hle := idxOf_eraseP_le (h.nodup j) hstay
        simpa using hle
      · by_cases hk : i = k
        · subst hk
          simp [hj, idxOf_append_singleton ha]
        · simp [hj, hk, Ne.symm hj]

-- So no more values are taken before it than were in front of it and jumped the queue.
theorem idxOf_final {start : ι → List α} {moves : List (Move ι α)} (h : WellFormed start)
    (ha : a ∈ start i)
    (hruns : (system.restrict fun queues move => a ∈ exec queues move i).Runs start moves) :
    (system.final start moves i).idxOf a + (moves.map (served i a)).sum ≤
      (start i).idxOf a + (moves.map (jumped i)).sum := by
  induction moves generalizing start with
  | nil => simp
  | cons move rest ih =>
      obtain ⟨⟨he, hstay⟩, hrest⟩ := hruns
      have hstep := idxOf_exec h he ha hstay
      have hend := ih (h.exec he) hstay hrest
      simp only [List.map_cons, List.sum_cons, TransitionSystem.final_cons]
      change (system.final (exec start move) rest i).idxOf a + _ ≤ _ at hend
      change (system.final (exec start move) rest i).idxOf a + _ ≤ _
      omega

end Queues
