import Lunar.Callbacks
import Lunar.Dispatches.Moves

namespace Lunar

-- What dispatch_dsq_per_cpu is called with: the tier of prev and the state.
def dispatchArgs (m : Machine) (k : Call) (cpu : Nat) (prev : Option Task) (s : Sched) :
    Nat × Sched :=
  match queuedCtx s prev with
  | none => (DSQ_TYPE_EMPTY, s)
  | some (p, pctx) =>
      let accounted := accountPrev m k cpu p pctx s
      (effectiveTier (some accounted.1), accounted.2)

-- The slices given to running tasks so far.
def givenSlices (s : Sched) : List (Task × Nat) :=
  s.effects.filterMap fun effect =>
    match effect with
    | .setSlice p slice => some (p, slice)
    | _ => none

theorem accountPrev_unmoved (m : Machine) (k : Call) (cpu : Nat) (p : Task) (pctx : TaskCtx)
    (s : Sched) : Unmoved s (accountPrev m k cpu p pctx s).2 where
  dsq := by simp [accountPrev_eq]
  task := by simp [accountPrev_eq]
  heads := s.updDispatchCtx_field m cpu _ (·.tierHeadTs) fun dctx => by
    rw [chargeOverride_eq]

theorem dispatchArgs_unmoved (m : Machine) (k : Call) (cpu : Nat) (prev : Option Task) (s : Sched) :
    Unmoved s (dispatchArgs m k cpu prev s).2 := by
  unfold dispatchArgs
  split
  · exact ⟨rfl, rfl, fun _ => rfl⟩
  · exact accountPrev_unmoved ..

theorem dispatchArgs_tier (m : Machine) (k : Call) (cpu : Nat) (prev : Option Task) (s : Sched) :
    (dispatchArgs m k cpu prev s).1 =
      DSQ_TYPE_EMPTY ∧ queuedCtx s prev = none ∨
    (dispatchArgs m k cpu prev s).1 ≤ DSQ_TYPE_GREEDY ∧ queuedCtx s prev ≠ none := by
  unfold dispatchArgs
  split
  · rename_i h
    exact Or.inl ⟨rfl, h⟩
  · rename_i h
    dsimp only
    exact Or.inr ⟨effectiveTier_le _, by simp [h]⟩

theorem Unmoved.trans {s s1 s2 : Sched} (h : Unmoved s s1) (h' : Unmoved s1 s2) : Unmoved s s2 where
  dsq := h'.dsq.trans h.dsq
  task := h'.task.trans h.task
  heads := fun d => (h'.heads d).trans (h.heads d)

theorem Unmoved.allowedOn {s s1 : Sched} (h : Unmoved s s1) : s1.allowedOn = s.allowedOn := by
  funext cpu p
  simp [Sched.allowedOn, h.task]

theorem Unmoved.moved {m : Machine} {s s1 s' : Sched} {cpu t c now : Nat} {q : Task}
    (h : Unmoved s s1) (h' : Moved m s1 cpu t c now q s') : Moved m s cpu t c now q s' where
  tier := h'.tier
  source := h'.source
  first := by rw [← h.dsq, ← h.allowedOn]; exact h'.first
  dsq := by rw [h'.dsq]; simp [Sched.moveTo, h.dsq, h.allowedOn]
  task := by rw [h'.task]; simp [Sched.moveTo, h.task]
  heads := by
    intro d t'
    rw [h'.heads, h.heads]

theorem Unmoved.waits {s s1 : Sched} (h : Unmoved s s1) (cpu t c : Nat) :
    Waits s1 cpu t c ↔ Waits s cpu t c := by
  simp [Waits, h.dsq, h.allowedOn]

-- The two ends of lunar_dispatch.
theorem lunarDispatch_eq (m : Machine) (k : Call) (now : Nat) (rnd : Nat → Nat) (cpu : Nat)
    (prev : Option Task) (s : Sched) :
    let args := dispatchArgs m k cpu prev s
    let r := dispatchDsqPerCpu m rnd args.2 cpu args.1 now
    ((queuedCtx s prev = none ∨ r.1 ≠ DSQ_TYPE_EMPTY) ∧
      lunarDispatch m k now rnd cpu prev s = r.2) ∨
    ∃ p pctx, queuedCtx s prev = some (p, pctx) ∧ r.1 = DSQ_TYPE_EMPTY ∧
      lunarDispatch m k now rnd cpu prev s =
        continuePrev m cpu p (accountPrev m k cpu p pctx s).1 r.2 := by
  cases hq : queuedCtx s prev with
  | none => simp [lunarDispatch, dispatchArgs, hq]
  | some prevCtx =>
      obtain ⟨p, pctx⟩ := prevCtx
      simp only [lunarDispatch, dispatchArgs, hq]
      by_cases hr : (dispatchDsqPerCpu m rnd (accountPrev m k cpu p pctx s).2 cpu
          (effectiveTier (some (accountPrev m k cpu p pctx s).1)) now).1 = DSQ_TYPE_EMPTY
      · exact Or.inr ⟨p, pctx, rfl, hr, by simp [hr]⟩
      · exact Or.inl ⟨Or.inr hr, by simp [hr]⟩

theorem continuePrev_dsq (m : Machine) (cpu : Nat) (p : Task) (pctx : TaskCtx) (s : Sched) :
    (continuePrev m cpu p pctx s).dsq = s.dsq := by
  unfold continuePrev
  split_ifs
  · simp [grantSlice]
  · simp [grantSlice]

theorem continuePrev_givenSlices (m : Machine) (cpu : Nat) (p : Task) (pctx : TaskCtx) (s : Sched) :
    givenSlices (continuePrev m cpu p pctx s) = (p, SLICE_NS) :: givenSlices s := by
  unfold continuePrev
  split_ifs
  · simp [grantSlice, givenSlices]
  · simp [grantSlice, givenSlices]

theorem dispatchArgs_givenSlices (m : Machine) (k : Call) (cpu : Nat) (prev : Option Task)
    (s : Sched) : givenSlices (dispatchArgs m k cpu prev s).2 = givenSlices s := by
  unfold dispatchArgs
  split
  · rfl
  · simp [accountPrev_eq, givenSlices]

theorem dispatched_givenSlices (m : Machine) (k : Call) (now : Nat) (rnd : Nat → Nat) (cpu : Nat)
    (prev : Option Task) (s : Sched) :
    givenSlices (dispatchDsqPerCpu m rnd (dispatchArgs m k cpu prev s).2 cpu
      (dispatchArgs m k cpu prev s).1 now).2 = givenSlices s := by
  rw [← dispatchArgs_givenSlices m k cpu prev s]
  exact congrArg (List.filterMap _) (dispatchDsqPerCpu_dispatched m rnd _ cpu _ now).sameOutside.effects

theorem Sched.moveTo_dsq {s : Sched} {cpu : Nat} {id : DsqId} {p : Task}
    (hid : id ≠ .localOn cpu) :
    (s.moveTo cpu id p).dsq = Function.update (Function.update s.dsq id
      ((s.dsq id).eraseP (s.allowedOn cpu))) (.localOn cpu) (s.dsq (.localOn cpu) ++ [p]) := by
  simp [Sched.moveTo, Function.update_of_ne hid.symm]

section Moved

variable {m : Machine} {s s' : Sched} {cpu t c now : Nat} {q : Task}

theorem Source.lt (h : Source m cpu c) (hcpu : cpu < m.nrCpuIds) : c < m.nrCpuIds := by
  rcases h with rfl | h
  · exact hcpu
  · exact h.1

theorem Moved.localDsq (h : Moved m s cpu t c now q s') :
    s'.dsq (.localOn cpu) = s.dsq (.localOn cpu) ++ [q] := by
  rw [h.dsq, Sched.moveTo_dsq (getCpuDsqFromType_ne_localOn t c cpu), Function.update_self]

theorem Moved.dsq_ne (h : Moved m s cpu t c now q s') : s'.dsq ≠ s.dsq := by
  intro he
  have := h.localDsq
  rw [he] at this
  simp at this

-- Any other queue is as it was.
theorem Moved.dsq_other (h : Moved m s cpu t c now q s') {id : DsqId}
    (hlocal : id ≠ .localOn cpu) (hid : id ≠ getCpuDsqFromType t c) : s'.dsq id = s.dsq id := by
  rw [h.dsq, Sched.moveTo_dsq (getCpuDsqFromType_ne_localOn t c cpu),
    Function.update_of_ne hlocal, Function.update_of_ne hid]

theorem Moved.dsq_source (h : Moved m s cpu t c now q s') :
    s'.dsq (getCpuDsqFromType t c) =
      (s.dsq (getCpuDsqFromType t c)).eraseP (s.allowedOn cpu) := by
  rw [h.dsq, Sched.moveTo_dsq (getCpuDsqFromType_ne_localOn t c cpu),
    Function.update_of_ne (getCpuDsqFromType_ne_localOn t c cpu), Function.update_self]

theorem Moved.movedFrom (h : Moved m s cpu t c now q s') : MovedFrom s cpu t c s' :=
  ⟨q, h.first, h.dsq⟩

-- The queue a task was moved out of is one task shorter, so there is only one such queue.
theorem Moved.source_unique {t' c' : Nat} (h : Moved m s cpu t c now q s')
    (hcpu : cpu < m.nrCpuIds) (h' : MovedFrom s cpu t' c' s') (ht' : IsTier t')
    (hc' : c' < m.nrCpuIds) : t' = t ∧ c' = c := by
  by_contra hne
  obtain ⟨q', hfirst, hdsq⟩ := h'
  have hc := h.source.lt hcpu
  have hmax := m.nrCpuIds_le
  have hlocal := getCpuDsqFromType_ne_localOn t' c' cpu
  have hid : getCpuDsqFromType t' c' ≠ getCpuDsqFromType t c := fun he =>
    hne (getCpuDsqFromType_inj ht' h.tier (by omega) (by omega) he)
  have hkeep := h.dsq_other hlocal hid
  rw [hdsq, Sched.moveTo_dsq hlocal, Function.update_of_ne hlocal, Function.update_self] at hkeep
  have hlen := congrArg List.length hkeep
  have hmem := List.mem_of_find?_eq_some hfirst
  rw [List.length_eraseP_of_mem hmem (List.find?_some hfirst)] at hlen
  have := List.length_pos_of_mem hmem
  omega

end Moved

end Lunar
