import Mathlib.Data.List.Nodup

-- Names that are claimed one after the other, each at most once, and each only if there is
-- room for it.

namespace Registry

variable {ι ε : Type*} {full inUse : ε} {room : ι → Bool} {ids taken taken' : List ι}
  {claim : List ι → ι → Except ε (List ι)}

-- What a function that claims a name promises. Where both errors are in place it may
-- return either of them.
structure Claims (full inUse : ε) (room : ι → Bool) (claim : List ι → ι → Except ε (List ι)) :
    Prop where
  ok : ∀ {taken id taken'}, claim taken id = .ok taken' ↔ room id ∧ id ∉ taken ∧ taken' = id :: taken
  error : ∀ {taken id e}, claim taken id = .error e → e = full ∧ !room id ∨ e = inUse ∧ id ∈ taken

-- One that looks for room first.
def claimOne [DecidableEq ι] (full inUse : ε) (room : ι → Bool) (taken : List ι) (id : ι) :
    Except ε (List ι) :=
  if !room id then .error full else if id ∈ taken then .error inUse else .ok (id :: taken)

theorem claims_claimOne [DecidableEq ι] (full inUse : ε) (room : ι → Bool) :
    Claims full inUse room (claimOne full inUse room) where
  ok {taken id taken'} := by
    unfold claimOne
    by_cases hroom : room id
    · by_cases hid : id ∈ taken
      · simp [hroom, hid]
      · simp [hroom, hid, eq_comm]
    · simp [hroom]
  error {taken id e} h := by
    unfold claimOne at h
    split_ifs at h with hroom hid
    · exact Or.inl ⟨(Except.error.inj h).symm, hroom⟩
    · exact Or.inr ⟨(Except.error.inj h).symm, hid⟩

namespace Claims

-- All of them are claimed if and only if there is room for all and none is claimed twice.
theorem foldlM_ok (hc : Claims full inUse room claim) (h : taken.Nodup) :
    ids.foldlM claim taken = .ok taken' ↔
      (∀ id ∈ ids, room id) ∧ (ids.reverse ++ taken).Nodup ∧ taken' = ids.reverse ++ taken := by
  induction ids generalizing taken with
  | nil =>
      rw [List.foldlM_nil]
      constructor
      · intro hok
        exact ⟨nofun, h, (Except.ok.inj hok).symm⟩
      · rintro ⟨-, -, rfl⟩
        rfl
  | cons id rest ih =>
      have hperm : ((id :: rest).reverse ++ taken) = rest.reverse ++ id :: taken := by simp
      rw [List.foldlM_cons, hperm, List.forall_mem_cons]
      cases hclaim : claim taken id with
      | error e =>
          refine iff_of_false nofun ?_
          rintro ⟨⟨hroom, -⟩, hnodup, -⟩
          rcases hc.error hclaim with ⟨-, hno⟩ | ⟨-, hid⟩
          · simp [hroom] at hno
          · exact (List.nodup_cons.mp (List.nodup_append.mp hnodup).2.1).1 hid
      | ok t1 =>
          obtain ⟨hroom, hid, rfl⟩ := hc.ok.mp hclaim
          have hrest := ih (List.nodup_cons.mpr ⟨hid, h⟩)
          simp only [hroom, true_and]
          exact hrest

theorem foldlM_error {e : ε} (hc : Claims full inUse room claim)
    (he : ids.foldlM claim taken = .error e) :
    e = full ∧ (∃ id ∈ ids, !room id) ∨ e = inUse ∧ ¬(ids.reverse ++ taken).Nodup := by
  induction ids generalizing taken with
  | nil => cases he
  | cons id rest ih =>
      have hperm : ((id :: rest).reverse ++ taken) = rest.reverse ++ id :: taken := by simp
      rw [List.foldlM_cons] at he
      cases hclaim : claim taken id with
      | error e' =>
          rw [hclaim] at he
          obtain rfl : e' = e := Except.error.inj he
          rcases hc.error hclaim with ⟨rfl, hno⟩ | ⟨rfl, hid⟩
          · exact Or.inl ⟨rfl, id, List.mem_cons_self, hno⟩
          · refine Or.inr ⟨rfl, fun hnodup => ?_⟩
            rw [hperm] at hnodup
            exact (List.nodup_cons.mp (List.nodup_append.mp hnodup).2.1).1 hid
      | ok t1 =>
          obtain ⟨-, -, rfl⟩ := hc.ok.mp hclaim
          rw [hclaim] at he
          rcases ih he with ⟨rfl, id', hid', hno⟩ | ⟨rfl, hnodup⟩
          · exact Or.inl ⟨rfl, id', List.mem_cons_of_mem _ hid', hno⟩
          · exact Or.inr ⟨rfl, by rwa [hperm]⟩

end Claims

end Registry
