import Mathlib.Data.List.Nodup
import Mathlib.Data.List.Pairwise
import Mathlib.Order.Lattice

-- Queues served by strict priority: a queue is only served while all queues of better
-- levels are empty. What they hold together is one list, in the order of service.

namespace Levels

variable {ι α : Type*}

def content (levels : List ι) (queues : ι → List α) : List α := levels.flatMap queues

variable {levels : List ι} {queues queues' : ι → List α}

@[simp] theorem content_nil : content [] queues = [] := rfl

theorem content_cons (i : ι) (rest : List ι) :
    content (i :: rest) queues = queues i ++ content rest queues := List.flatMap_cons

theorem content_congr (h : ∀ i ∈ levels, queues' i = queues i) :
    content levels queues' = content levels queues := List.flatMap_congr h

theorem content_eq_nil : content levels queues = [] ↔ ∀ i ∈ levels, queues i = [] := by
  simp [content]

theorem content_filter (keep : α → Bool) :
    content levels (fun i => (queues i).filter keep) = (content levels queues).filter keep := by
  simp [content, List.filter_flatMap]

theorem mem_content {a : α} : a ∈ content levels queues ↔ ∃ i ∈ levels, a ∈ queues i := List.mem_flatMap

theorem content_nodup (hlevels : levels.Nodup) (hqueues : ∀ i ∈ levels, (queues i).Nodup)
    (hunique : ∀ i ∈ levels, ∀ j ∈ levels, ∀ a, a ∈ queues i → a ∈ queues j → i = j) :
    (content levels queues).Nodup := by
  refine List.nodup_flatMap.mpr ⟨hqueues, List.Pairwise.imp_of_mem ?_ hlevels⟩
  intro i j hi hj hne a hai haj
  exact hne (hunique i hi j hj a hai haj)

theorem find_content_of_none {keep : α → Bool} {i : ι} (hnone : ∀ a ∈ queues i, ¬ keep a) (rest : List ι) :
    (content (i :: rest) queues).find? keep = (content rest queues).find? keep := by
  rw [content_cons, List.find?_append, List.find?_eq_none.mpr hnone, Option.none_or]

section Order

variable [LinearOrder ι] {i : ι} {a : α} {keep : α → Bool}

-- The head of the best queue that is not empty is served first.
theorem content_pop (hsorted : levels.Pairwise (· < ·)) (hi : i ∈ levels)
    (hbest : ∀ j ∈ levels, j < i → queues j = []) (hpop : queues i = a :: queues' i)
    (hsame : ∀ j ∈ levels, j ≠ i → queues' j = queues j) :
    content levels queues = a :: content levels queues' := by
  induction levels with
  | nil => cases hi
  | cons j rest ih =>
      rw [content_cons, content_cons]
      rcases List.mem_cons.mp hi with rfl | hi
      · have hrest : content rest queues' = content rest queues := content_congr fun k hk =>
          hsame k (List.mem_cons_of_mem _ hk) (List.rel_of_pairwise_cons hsorted hk).ne'
        rw [hrest, hpop, List.cons_append]
      · have hlt : j < i := List.rel_of_pairwise_cons hsorted hi
        have hempty : queues j = [] := hbest j List.mem_cons_self hlt
        rw [hsame j List.mem_cons_self hlt.ne, hempty, List.nil_append, List.nil_append]
        exact ih hsorted.of_cons hi (fun k hk => hbest k (List.mem_cons_of_mem _ hk))
          (fun k hk => hsame k (List.mem_cons_of_mem _ hk))

-- What is added to the worst queue is served last.
theorem content_push (hsorted : levels.Pairwise (· < ·)) (hi : i ∈ levels)
    (hworst : ∀ j ∈ levels, j ≤ i) (hpush : queues' i = queues i ++ [a])
    (hsame : ∀ j ∈ levels, j ≠ i → queues' j = queues j) :
    content levels queues' = content levels queues ++ [a] := by
  induction levels with
  | nil => cases hi
  | cons j rest ih =>
      rw [content_cons, content_cons]
      rcases List.mem_cons.mp hi with rfl | hi
      · have hnone : rest = [] := by
          rw [List.eq_nil_iff_forall_not_mem]
          intro k hk
          exact (List.rel_of_pairwise_cons hsorted hk).not_ge (hworst k (List.mem_cons_of_mem _ hk))
        rw [hnone, hpush, content_nil, content_nil, List.append_nil, List.append_nil]
      · have hlt : j < i := List.rel_of_pairwise_cons hsorted hi
        rw [hsame j List.mem_cons_self hlt.ne, List.append_assoc]
        exact congrArg (queues j ++ ·) (ih hsorted.of_cons hi
          (fun k hk => hworst k (List.mem_cons_of_mem _ hk))
          (fun k hk => hsame k (List.mem_cons_of_mem _ hk)))

-- The best level that holds a value worth keeping has such a value at its head.
def BestHead (levels : List ι) (queues : ι → List α) (keep : α → Bool) : Prop :=
  ∀ i ∈ levels, (∃ a ∈ queues i, keep a) → (∀ j ∈ levels, j < i → ∀ a ∈ queues j, ¬ keep a) →
    ∃ a ∈ (queues i).head?, keep a

-- The search that looks at the heads only.
def firstHead (levels : List ι) (queues : ι → List α) (keep : α → Bool) : Option α :=
  levels.findSome? fun i => (queues i).head?.filter keep

theorem find_content (hsorted : levels.Pairwise (· < ·)) (hi : i ∈ levels) (hsome : ∃ a ∈ queues i, keep a)
    (hbetter : ∀ j ∈ levels, j < i → ∀ a ∈ queues j, ¬ keep a) :
    (content levels queues).find? keep = (queues i).find? keep := by
  induction levels with
  | nil => cases hi
  | cons j rest ih =>
      rcases List.mem_cons.mp hi with rfl | hi
      · obtain ⟨a, ha⟩ := Option.isSome_iff_exists.mp (List.find?_isSome.mpr hsome)
        rw [content_cons, List.find?_append, ha, Option.some_or]
      · have hlt : j < i := List.rel_of_pairwise_cons hsorted hi
        rw [find_content_of_none (hbetter j List.mem_cons_self hlt)]
        exact ih hsorted.of_cons hi fun k hk => hbetter k (List.mem_cons_of_mem _ hk)

theorem firstHead_eq (hsorted : levels.Pairwise (· < ·)) (h : BestHead levels queues keep) :
    firstHead levels queues keep = (content levels queues).find? keep := by
  induction levels with
  | nil => rfl
  | cons i rest ih =>
      unfold firstHead
      rw [List.findSome?_cons]
      by_cases hsome : ∃ a ∈ queues i, keep a
      · have hbetter : ∀ j ∈ i :: rest, j < i → ∀ a ∈ queues j, ¬ keep a := by
          intro j hj hlt
          rcases List.mem_cons.mp hj with rfl | hj
          · exact absurd hlt (lt_irrefl _)
          · exact absurd (List.rel_of_pairwise_cons hsorted hj) hlt.not_gt
        obtain ⟨a, ha, hkeep⟩ := h i List.mem_cons_self hsome hbetter
        rw [find_content hsorted List.mem_cons_self hsome hbetter, ha]
        obtain ⟨rest', hqueue⟩ := List.head?_eq_some_iff.mp ha
        rw [hqueue, List.find?_cons_of_pos hkeep, Option.filter_some, if_pos hkeep]
      · have hnone : ∀ a ∈ queues i, ¬ keep a := fun a ha hkeep => hsome ⟨a, ha, hkeep⟩
        have hhead : (queues i).head?.filter keep = none := by
          rw [Option.filter_eq_none_iff]
          exact fun a ha => hnone a (List.mem_of_mem_head? ha)
        rw [find_content_of_none hnone, hhead]
        apply ih hsorted.of_cons
        intro j hj hsome' hbetter
        refine h j (List.mem_cons_of_mem _ hj) hsome' fun k hk hlt => ?_
        rcases List.mem_cons.mp hk with rfl | hk
        · exact hnone
        · exact hbetter k hk hlt

-- Where no value is held twice, it finds the first value worth keeping only then.
theorem bestHead_of_firstHead (hsorted : levels.Pairwise (· < ·)) (hnodup : (content levels queues).Nodup)
    (h : firstHead levels queues keep = (content levels queues).find? keep) :
    BestHead levels queues keep := by
  intro i hi hsome hbetter
  obtain ⟨a, ha⟩ := Option.isSome_iff_exists.mp (List.find?_isSome.mpr hsome)
  rw [find_content hsorted hi hsome hbetter, ha] at h
  obtain ⟨j, hj, hhead⟩ := List.exists_of_findSome?_eq_some h
  obtain ⟨hhead, hkeep⟩ := Option.filter_eq_some_iff.mp hhead
  have hmem : a ∈ queues j := List.mem_of_mem_head? hhead
  have hij : j = i := by
    by_contra hne
    have hdisjoint := (List.nodup_flatMap.mp hnodup).2
    have hsymm : Std.Symm (Function.onFun List.Disjoint queues) := ⟨fun _ _ hd _ ha hb => hd hb ha⟩
    exact hdisjoint.forall hj hi hne hmem (List.mem_of_find?_eq_some ha)
  exact ⟨a, hij ▸ hhead, hkeep⟩

end Order

end Levels
