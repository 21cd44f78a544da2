import Lunar.Dispatches.Outcome

namespace Lunar

open Word64

-- What a dispatch on cpu that moved a task did to the queues, the tasks and the
-- starvation clocks.
structure Moved (m : Machine) (s : Sched) (cpu t c now : Nat) (q : Task) (s' : Sched) : Prop where
  tier : IsTier t
  source : Source m cpu c
  first : (s.dsq (getCpuDsqFromType t c)).find? (s.allowedOn cpu) = some q
  dsq : s'.dsq = (s.moveTo cpu (getCpuDsqFromType t c) q).dsq
  task : s'.task = (s.moveTo cpu (getCpuDsqFromType t c) q).task
  heads : ∀ d t', (s'.dispatchState d).tierHeadTs t' =
    if d = c ∧ c < m.nrCpuIds ∧ t' = t ∧ t ≠ DSQ_TYPE_LC then now
    else (s.dispatchState d).tierHeadTs t'

-- The same, when nothing moved.
structure Unmoved (s s' : Sched) : Prop where
  dsq : s'.dsq = s.dsq
  task : s'.task = s.task
  heads : ∀ d, (s'.dispatchState d).tierHeadTs = (s.dispatchState d).tierHeadTs

-- What dispatch_dsq_per_cpu leaves alone.
structure SameOutside (s s' : Sched) : Prop where
  taskCtxStore : s'.taskCtxStore = s.taskCtxStore
  nrRtBusy : s'.nrRtBusy = s.nrRtBusy
  cpuCurr : s'.cpuCurr = s.cpuCurr
  effects : s'.effects = s.effects
  current : ∀ d, (s'.dispatchState d).currentTaskDsqType = (s.dispatchState d).currentTaskDsqType
  pending : ∀ d, (s'.dispatchState d).preemptPending = (s.dispatchState d).preemptPending
  rtBusy : ∀ d, (s'.dispatchState d).rtBusy = (s.dispatchState d).rtBusy

-- Nothing about the override of a cpu changed.
structure SameOverride (dctx dctx' : DispatchCtx) : Prop where
  left : dctx'.overrideLeft = dctx.overrideLeft
  tier : dctx'.overrideTier = dctx.overrideTier
  last : dctx'.lastOverrideTs = dctx.lastOverrideTs

-- What a dispatch on a cpu does to its override.
inductive OverrideChange (now r : Nat) (dctx dctx' : DispatchCtx) : OverridePath → Prop where
  -- another task came first
  | kept (h : SameOverride dctx dctx') : OverrideChange now r dctx dctx' .none
  | ended (h : SameOverride { dctx with overrideLeft := 0 } dctx') :
      OverrideChange now r dctx dctx' .none
  | continued (htier : r = dctx.overrideTier) (hleft : dctx.overrideLeft ≠ 0)
      (h : SameOverride dctx dctx') : OverrideChange now r dctx dctx' .continued
  | started (hrange : DSQ_TYPE_INTERACTIVE ≤ r ∧ r ≤ DSQ_TYPE_GREEDY)
      (hcool : STARVE_OVERRIDE_COOLDOWN_NS ≤ sub now dctx.lastOverrideTs)
      (h : SameOverride (armOverride dctx r now) dctx') : OverrideChange now r dctx dctx' .started

theorem stampTierHeadTs_tierHeadTs (dctx : DispatchCtx) {t : Nat} (ht : IsTier t) (now t' : Nat) :
    (stampTierHeadTs dctx t now).tierHeadTs t' =
      if t' = t ∧ t ≠ DSQ_TYPE_LC then now else dctx.tierHeadTs t' := by
  unfold stampTierHeadTs
  rcases isTier_cases ht with rfl | rfl | rfl | rfl
  · simp [DSQ_TYPE_LC, DSQ_TYPE_INTERACTIVE, DSQ_TYPE_NORMAL, DSQ_TYPE_GREEDY]
  all_goals
    simp [Function.update_apply, DSQ_TYPE_LC, DSQ_TYPE_INTERACTIVE, DSQ_TYPE_NORMAL, DSQ_TYPE_GREEDY]

theorem stampTierHeadTs_eq (dctx : DispatchCtx) {t : Nat} (ht : IsTier t) (now : Nat) :
    stampTierHeadTs dctx t now = { dctx with tierHeadTs := fun t' =>
      if t' = t ∧ t ≠ DSQ_TYPE_LC then now else dctx.tierHeadTs t' } := by
  rw [← funext (stampTierHeadTs_tierHeadTs dctx ht now)]
  unfold stampTierHeadTs
  split
  · rfl
  · rfl

theorem unmoved_endOverride (m : Machine) (s : Sched) (cpu : Nat) :
    Unmoved s (endOverride m s cpu) where
  dsq := by simp
  task := by simp
  heads := s.updDispatchCtx_field m cpu _ (·.tierHeadTs) fun _ => rfl

theorem sameOutside_endOverride (m : Machine) (s : Sched) (cpu : Nat) :
    SameOutside s (endOverride m s cpu) where
  taskCtxStore := by simp
  nrRtBusy := by simp
  cpuCurr := by simp
  effects := by simp
  current := s.updDispatchCtx_field m cpu _ (·.currentTaskDsqType) fun _ => rfl
  pending := s.updDispatchCtx_field m cpu _ (·.preemptPending) fun _ => rfl
  rtBusy := s.updDispatchCtx_field m cpu _ (·.rtBusy) fun _ => rfl

theorem SameOutside.trans {s s1 s2 : Sched} (h : SameOutside s s1) (h' : SameOutside s1 s2) :
    SameOutside s s2 where
  taskCtxStore := h'.taskCtxStore.trans h.taskCtxStore
  nrRtBusy := h'.nrRtBusy.trans h.nrRtBusy
  cpuCurr := h'.cpuCurr.trans h.cpuCurr
  effects := h'.effects.trans h.effects
  current := fun d => (h'.current d).trans (h.current d)
  pending := fun d => (h'.pending d).trans (h.pending d)
  rtBusy := fun d => (h'.rtBusy d).trans (h.rtBusy d)

section Taken

variable {m : Machine} {s s1 s' : Sched} {cpu t c now : Nat}

theorem TakenFrom.moved (h : TakenFrom m s1 cpu t c now s') (hs : Unmoved s s1) (ht : IsTier t)
    (hsrc : Source m cpu c) : ∃ q, Moved m s cpu t c now q s' := by
  obtain ⟨q, hq, rfl⟩ := h
  have hallowed : s1.allowedOn cpu = s.allowedOn cpu := by
    funext p
    simp [Sched.allowedOn, hs.task]
  rw [hs.dsq, hallowed] at hq
  refine ⟨q, ht, hsrc, hq, ?_, ?_, ?_⟩
  · simp [Sched.moveTo, hs.dsq, hallowed]
  · simp [Sched.moveTo, hs.task]
  · intro d t'
    rw [Sched.updDispatchCtx_dispatchState]
    by_cases hd : d = c ∧ c < m.nrCpuIds
    · rw [if_pos hd, stampTierHeadTs_tierHeadTs _ ht]
      simp [Sched.moveTo, hs.heads, hd.1, hd.2]
    · rw [if_neg hd, if_neg fun h => hd ⟨h.1, h.2.1⟩]
      simp [Sched.moveTo, hs.heads]

theorem TakenFrom.sameOutside (h : TakenFrom m s cpu t c now s') : SameOutside s s' := by
  obtain ⟨q, -, rfl⟩ := h
  have hfield {β : Type} (field : DispatchCtx → β)
      (hstamp : ∀ dctx, field (stampTierHeadTs dctx t now) = field dctx) (d : Nat) :=
    (s.moveTo cpu (getCpuDsqFromType t c) q).updDispatchCtx_field m c _ field hstamp d
  constructor
  · simp [Sched.moveTo]
  · simp [Sched.moveTo]
  · simp [Sched.moveTo]
  · simp [Sched.moveTo]
  · exact hfield (·.currentTaskDsqType) fun _ => by simp
  · exact hfield (·.preemptPending) fun _ => by simp
  · exact hfield (·.rtBusy) fun _ => by simp

theorem TakenFrom.override (h : TakenFrom m s cpu t c now s') (d : Nat) :
    SameOverride (s.dispatchState d) (s'.dispatchState d) := by
  obtain ⟨q, -, rfl⟩ := h
  have hfield (field : DispatchCtx → Nat)
      (hstamp : ∀ dctx, field (stampTierHeadTs dctx t now) = field dctx) :=
    (s.moveTo cpu (getCpuDsqFromType t c) q).updDispatchCtx_field m c _ field hstamp d
  exact ⟨hfield (·.overrideLeft) fun _ => by simp, hfield (·.overrideTier) fun _ => by simp,
    hfield (·.lastOverrideTs) fun _ => by simp⟩

end Taken

section Outcome

variable {m : Machine} {s s' : Sched} {cpu prevTier now r : Nat} {path : OverridePath}

-- An override takes a task of the cpu itself.
theorem Dispatched.moved_of_path (h : Dispatched m s cpu prevTier now path r s')
    (hpath : path ≠ .none) : ∃ q, Moved m s cpu r cpu now q s' := by
  have hvalues := tier_values
  cases h with
  | lc _ _ | taken _ _ _ | kept _ | idle _ => exact absurd rfl hpath
  | continued _ _ hrange _ htake =>
      exact htake.moved ⟨rfl, rfl, fun _ => rfl⟩ ⟨by omega, hrange.2⟩ (Or.inl rfl)
  | started _ hrange _ htake =>
      obtain ⟨q, hmoved⟩ :=
        htake.moved (unmoved_endOverride m s cpu) ⟨by omega, hrange.2⟩ (Or.inl rfl)
      refine ⟨q, hmoved.tier, hmoved.source, hmoved.first, ?_, ?_, ?_⟩
      · simpa using hmoved.dsq
      · simpa using hmoved.task
      · intro d t'
        rw [← hmoved.heads d t']
        exact congrFun (Sched.updDispatchCtx_field m _ cpu (armOverride · r now) (·.tierHeadTs)
          (fun _ => rfl) d) t'

theorem Dispatched.moved_or_unmoved (h : Dispatched m s cpu prevTier now path r s') :
    (∃ c q, Moved m s cpu r c now q s') ∨ r = unserved prevTier ∧ Unmoved s s' := by
  have hown := h.moved_of_path
  cases h with
  | lc hsrc htake => exact Or.inl ⟨_, htake.moved ⟨rfl, rfl, fun _ => rfl⟩ (by decide) hsrc⟩
  | continued _ _ _ _ _ => exact Or.inl ⟨cpu, hown (by simp)⟩
  | started _ _ _ _ => exact Or.inl ⟨cpu, hown (by simp)⟩
  | taken htier hsrc htake =>
      exact Or.inl ⟨_, htake.moved (unmoved_endOverride m s cpu) htier hsrc⟩
  | kept hprev => exact Or.inr ⟨by simp [unserved, hprev], unmoved_endOverride m s cpu⟩
  | idle hprev =>
      exact Or.inr ⟨by simp [unserved, Nat.not_le.mpr hprev], unmoved_endOverride m s cpu⟩

-- A number that is no tier says that nothing was taken.
theorem Dispatched.eq_endOverride (h : Dispatched m s cpu prevTier now path r s')
    (hr : DSQ_TYPE_GREEDY < r) : path = .none ∧ s' = endOverride m s cpu := by
  have hvalues := tier_values
  cases h with
  | lc _ _ => omega
  | continued _ _ hrange _ _ => omega
  | started _ hrange _ _ => omega
  | taken htier _ _ => exact absurd htier.2 (by omega)
  | kept _ => exact ⟨rfl, rfl⟩
  | idle _ => exact ⟨rfl, rfl⟩

theorem Dispatched.sameOutside (h : Dispatched m s cpu prevTier now path r s') : SameOutside s s' := by
  cases h with
  | lc _ htake => exact htake.sameOutside
  | continued _ _ _ _ htake => exact htake.sameOutside
  | @started _ s1 _ _ _ htake =>
      have hfield {β : Type} (field : DispatchCtx → β)
          (harm : ∀ dctx, field (armOverride dctx r now) = field dctx) (d : Nat) :=
        s1.updDispatchCtx_field m cpu _ field harm d
      refine ((sameOutside_endOverride m s cpu).trans htake.sameOutside).trans ?_
      exact ⟨by simp, by simp, by simp, by simp, hfield (·.currentTaskDsqType) fun _ => rfl,
        hfield (·.preemptPending) fun _ => rfl, hfield (·.rtBusy) fun _ => rfl⟩
  | taken _ _ htake => exact (sameOutside_endOverride m s cpu).trans htake.sameOutside
  | kept _ => exact sameOutside_endOverride m s cpu
  | idle _ => exact sameOutside_endOverride m s cpu

theorem SameOverride.refl (dctx : DispatchCtx) : SameOverride dctx dctx := ⟨rfl, rfl, rfl⟩

theorem SameOverride.trans {dctx dctx1 dctx2 : DispatchCtx} (h : SameOverride dctx dctx1)
    (h' : SameOverride dctx1 dctx2) : SameOverride dctx dctx2 where
  left := h'.left.trans h.left
  tier := h'.tier.trans h.tier
  last := h'.last.trans h.last

theorem Dispatched.override (h : Dispatched m s cpu prevTier now path r s') (hcpu : cpu < m.nrCpuIds) :
    OverrideChange now r (s.dispatchState cpu) (s'.dispatchState cpu) path := by
  have hended : (endOverride m s cpu).dispatchState cpu =
      { s.dispatchState cpu with overrideLeft := 0 } := Sched.updDispatchCtx_same m s _ _ hcpu
  cases h with
  | lc _ htake => exact .kept (htake.override cpu)
  | continued _ htier _ hleft htake => exact .continued htier hleft (htake.override cpu)
  | @started _ s1 _ hrange hcool htake =>
      have hsame := htake.override cpu
      rw [hended] at hsame
      refine .started hrange hcool ?_
      rw [Sched.updDispatchCtx_same _ _ _ _ hcpu]
      exact ⟨rfl, rfl, rfl⟩
  | taken _ _ htake =>
      have hsame := htake.override cpu
      rw [hended] at hsame
      exact .ended hsame
  | kept _ => exact .ended (hended ▸ .refl _)
  | idle _ => exact .ended (hended ▸ .refl _)

theorem Dispatched.override_other (h : Dispatched m s cpu prevTier now path r s') {d : Nat}
    (hd : d ≠ cpu) : SameOverride (s.dispatchState d) (s'.dispatchState d) := by
  have hended : SameOverride (s.dispatchState d) ((endOverride m s cpu).dispatchState d) := by
    rw [endOverride, Sched.updDispatchCtx_other _ _ _ _ hd]
    exact .refl _
  cases h with
  | lc _ htake => exact htake.override d
  | continued _ _ _ _ htake => exact htake.override d
  | @started _ s1 _ _ _ htake =>
      rw [Sched.updDispatchCtx_other _ _ _ _ hd]
      exact hended.trans (htake.override d)
  | taken _ _ htake => exact hended.trans (htake.override d)
  | kept _ => exact hended
  | idle _ => exact hended

end Outcome

end Lunar
