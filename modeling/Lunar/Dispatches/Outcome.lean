import Lunar.Dispatches.Takes
import Lunar.Library.Scan

namespace Lunar

open Word64

-- The queues a dispatch on cpu may take from.
def Source (m : Machine) (cpu c : Nat) : Prop :=
  c = cpu ∨ c < m.nrCpuIds ∧ c ≠ cpu ∧ cpuIsOnline m c

-- What a dispatch does for a starved tier.
inductive OverridePath where
  | none
  -- the next take of an override in progress
  | continued
  -- the first take of a new one
  | started
deriving DecidableEq, Repr

def overridePath (m : Machine) (rnd : Nat → Nat) (s : Sched) (cpu now : Nat) : OverridePath :=
  if (tryAcquireFromRtCpu m (rnd 0) s DSQ_TYPE_LC cpu now).isSome then .none
  else if (takeFromLocalTier m s DSQ_TYPE_LC cpu now).isSome then .none
  else if (continueOverride m s cpu now).isSome then .continued
  else if (startOverride m (endOverride m s cpu) cpu now).isSome then .started
  else .none

-- What dispatch_dsq_per_cpu can return, and the state it leaves then.
inductive Dispatched (m : Machine) (s : Sched) (cpu prevTier now : Nat) :
    OverridePath → Nat → Sched → Prop where
  -- an LC task, before any override is looked at
  | lc {c : Nat} {s' : Sched} (hsrc : Source m cpu c)
      (htake : TakenFrom m s cpu DSQ_TYPE_LC c now s') :
      Dispatched m s cpu prevTier now .none DSQ_TYPE_LC s'
  -- the next task of an override in progress
  | continued {t : Nat} {s' : Sched} (hcpu : cpu < m.nrCpuIds)
      (htier : t = (s.dispatchState cpu).overrideTier)
      (hrange : DSQ_TYPE_INTERACTIVE ≤ t ∧ t ≤ DSQ_TYPE_GREEDY)
      (hleft : (s.dispatchState cpu).overrideLeft ≠ 0)
      (htake : TakenFrom m s cpu t cpu now s') :
      Dispatched m s cpu prevTier now .continued t s'
  -- the first task of a new override
  | started {t : Nat} {s' : Sched} (hcpu : cpu < m.nrCpuIds)
      (hrange : DSQ_TYPE_INTERACTIVE ≤ t ∧ t ≤ DSQ_TYPE_GREEDY)
      (hcool : STARVE_OVERRIDE_COOLDOWN_NS ≤ sub now (s.dispatchState cpu).lastOverrideTs)
      (htake : TakenFrom m (endOverride m s cpu) cpu t cpu now s') :
      Dispatched m s cpu prevTier now .started t
        (s'.updDispatchCtx m cpu fun dctx => armOverride dctx t now)
  -- any other take
  | taken {t c : Nat} {s' : Sched} (htier : IsTier t) (hsrc : Source m cpu c)
      (htake : TakenFrom m (endOverride m s cpu) cpu t c now s') :
      Dispatched m s cpu prevTier now .none t s'
  -- nothing moved, prev goes on
  | kept (hprev : prevTier ≤ DSQ_TYPE_GREEDY) :
      Dispatched m s cpu prevTier now .none DSQ_TYPE_EMPTY (endOverride m s cpu)
  -- nothing moved, and no prev to go on
  | idle (hprev : DSQ_TYPE_GREEDY < prevTier) :
      Dispatched m s cpu prevTier now .none (DSQ_TYPE_EMPTY + 1) (endOverride m s cpu)

theorem OtherCpu.source {m : Machine} {cpu c : Nat} {sameLLC : Bool}
    (h : OtherCpu m cpu sameLLC c) : Source m cpu c :=
  Or.inr ⟨h.1, h.2.1, h.2.2.1⟩

theorem RtTaken.source {m : Machine} {s : Sched} {cpu c : Nat} (h : RtTaken m s cpu c) :
    Source m cpu c := h.1.source

theorem mostStarvedTier_spec {s : Sched} {dctx : DispatchCtx} {cpu now : Nat}
    (h : mostStarvedTier s dctx cpu now ≠ DSQ_TYPE_EMPTY) :
    STARVE_OVERRIDE_COOLDOWN_NS ≤ sub now dctx.lastOverrideTs ∧
      DSQ_TYPE_INTERACTIVE ≤ mostStarvedTier s dctx cpu now ∧
      mostStarvedTier s dctx cpu now ≤ DSQ_TYPE_GREEDY := by
  have := tier_values
  by_cases hcool : sub now dctx.lastOverrideTs < STARVE_OVERRIDE_COOLDOWN_NS
  · simp [mostStarvedTier, hcool] at h
  · refine ⟨by omega, ?_⟩
    simp only [mostStarvedTier, hcool, if_false] at h ⊢
    split_ifs at h ⊢ <;> dsimp only at h ⊢ <;> omega

theorem continueOverride_eq_some {m : Machine} {s : Sched} {cpu now : Nat} {r : Nat × Sched}
    (h : continueOverride m s cpu now = some r) (prevTier : Nat) :
    Dispatched m s cpu prevTier now .continued r.1 r.2 := by
  simp only [continueOverride, Sched.getDispatchCtx] at h
  by_cases hcpu : cpu < m.nrCpuIds
  · simp only [hcpu, if_true] at h
    split_ifs at h with hcond
    obtain ⟨s', hs, rfl⟩ := Option.map_eq_some_iff.mp h
    obtain ⟨c, rfl, htake⟩ := (takes_local _ _ _ _ _).1 s' hs
    exact .continued hcpu rfl ⟨hcond.2.1, hcond.2.2⟩ hcond.1 htake
  · simp [hcpu] at h

theorem continueOverride_le {m : Machine} {s : Sched} {cpu now : Nat} {r : Nat × Sched}
    (h : continueOverride m s cpu now = some r) : r.1 ≤ DSQ_TYPE_GREEDY := by
  unfold continueOverride at h
  split at h
  · cases h
  · dsimp only at h
    split_ifs at h with hcond
    obtain ⟨s', -, rfl⟩ := Option.map_eq_some_iff.mp h
    exact hcond.2.2

theorem startOverride_le {m : Machine} {s : Sched} {cpu now : Nat} {r : Nat × Sched}
    (h : startOverride m s cpu now = some r) : r.1 ≤ DSQ_TYPE_GREEDY := by
  unfold startOverride at h
  split at h
  · cases h
  · dsimp only at h
    split_ifs at h with hnone
    obtain ⟨s', -, rfl⟩ := Option.map_eq_some_iff.mp h
    exact (mostStarvedTier_spec hnone).2.2

theorem startOverride_eq_some {m : Machine} {s : Sched} {cpu now : Nat} {r : Nat × Sched}
    (h : startOverride m (endOverride m s cpu) cpu now = some r) (prevTier : Nat) :
    Dispatched m s cpu prevTier now .started r.1 r.2 := by
  simp only [startOverride, Sched.getDispatchCtx] at h
  by_cases hcpu : cpu < m.nrCpuIds
  · simp only [hcpu, if_true] at h
    split_ifs at h with hnone
    obtain ⟨s', hs, rfl⟩ := Option.map_eq_some_iff.mp h
    obtain ⟨c, rfl, htake⟩ := (takes_local _ _ _ _ _).1 s' hs
    obtain ⟨hcool, hrange⟩ := mostStarvedTier_spec hnone
    refine .started hcpu hrange ?_ htake
    simpa [endOverride, Sched.updDispatchCtx_same, hcpu] using hcool
  · simp [hcpu] at h

-- The order in which a cpu looks for its next task, as a list of places: a tier
-- and the cpus whose queues of that tier are looked at.
abbrev Place := Nat × (Nat → Prop)

def Misses (s : Sched) (cpu : Nat) (place : Place) : Prop :=
  ∀ c, place.2 c → ¬Waits s cpu place.1 c

def Serves (m : Machine) (s : Sched) (cpu now : Nat) (place : Place) (r : Nat × Sched) : Prop :=
  r.1 = place.1 ∧ ∃ c, place.2 c ∧ TakenFrom m s cpu place.1 c now r.2

-- The first place where a task allowed on the cpu waits is served; if there is
-- none the state stays as it is and `fallback` is returned.
abbrev FirstServed (m : Machine) (s : Sched) (cpu now fallback : Nat) :
    List Place → Nat × Sched → Prop :=
  Cascade (Serves m s cpu now) (Misses s cpu) (fallback, s)

def stealPlaces (m : Machine) (cpu prevTier : Nat) : List Place :=
  let llc (c : Nat) := DSQ_TYPE_GREEDY < prevTier ∧ OtherCpu m cpu true c
  let far (c : Nat) := DSQ_TYPE_GREEDY < prevTier ∧ 1 < m.nrLlcs ∧ OtherCpu m cpu false c
  [(DSQ_TYPE_LC, llc), (DSQ_TYPE_INTERACTIVE, llc), (DSQ_TYPE_NORMAL, llc), (DSQ_TYPE_GREEDY, llc),
    (DSQ_TYPE_LC, far), (DSQ_TYPE_INTERACTIVE, far), (DSQ_TYPE_NORMAL, far), (DSQ_TYPE_GREEDY, far)]

def ownPlaces (m : Machine) (s : Sched) (cpu prevTier : Nat) : List Place :=
  let rt (t c : Nat) := t ≤ prevTier ∧ RtTaken m s cpu c
  let own (t c : Nat) := t ≤ prevTier ∧ c = cpu
  [(DSQ_TYPE_INTERACTIVE, rt DSQ_TYPE_INTERACTIVE), (DSQ_TYPE_INTERACTIVE, own DSQ_TYPE_INTERACTIVE),
    (DSQ_TYPE_NORMAL, rt DSQ_TYPE_NORMAL), (DSQ_TYPE_NORMAL, own DSQ_TYPE_NORMAL),
    (DSQ_TYPE_GREEDY, rt DSQ_TYPE_GREEDY), (DSQ_TYPE_GREEDY, own DSQ_TYPE_GREEDY)]

def strictPlaces (m : Machine) (s : Sched) (cpu prevTier : Nat) : List Place :=
  let best := localBest s cpu prevTier
  let better (t c : Nat) := best ≠ DSQ_TYPE_EMPTY ∧ t < best ∧ OtherCpu m cpu true c
  [(DSQ_TYPE_LC, better DSQ_TYPE_LC), (DSQ_TYPE_INTERACTIVE, better DSQ_TYPE_INTERACTIVE),
    (DSQ_TYPE_NORMAL, better DSQ_TYPE_NORMAL)]

-- Both places of a tier other than LC are in the list.
theorem mem_ownPlaces {m : Machine} {s : Sched} {cpu prevTier t : Nat} (ht : IsTier t)
    (hlc : t ≠ DSQ_TYPE_LC) :
    (t, fun c => t ≤ prevTier ∧ RtTaken m s cpu c) ∈ ownPlaces m s cpu prevTier ∧
      (t, fun c => t ≤ prevTier ∧ c = cpu) ∈ ownPlaces m s cpu prevTier := by
  rcases isTier_cases ht with rfl | rfl | rfl | rfl
  · exact absurd rfl hlc
  all_goals simp [ownPlaces]

theorem mem_stealPlaces {m : Machine} {cpu prevTier t : Nat} (ht : IsTier t) :
    (t, fun c => DSQ_TYPE_GREEDY < prevTier ∧ OtherCpu m cpu true c) ∈
        stealPlaces m cpu prevTier ∧
      (t, fun c => DSQ_TYPE_GREEDY < prevTier ∧ 1 < m.nrLlcs ∧ OtherCpu m cpu false c) ∈
        stealPlaces m cpu prevTier := by
  rcases isTier_cases ht with rfl | rfl | rfl | rfl
  all_goals simp [stealPlaces]

-- What is returned when nothing was moved.
def unserved (prevTier : Nat) : Nat :=
  if prevTier ≤ DSQ_TYPE_GREEDY then DSQ_TYPE_EMPTY else DSQ_TYPE_EMPTY + 1

section Cascade

variable {m : Machine} {s : Sched} {cpu now fallback : Nat}

theorem FirstServed.returnIf {t : Nat} {src : Nat → Prop} {take : Option Sched}
    {places : List Place} {rest : Nat × Sched} (htakes : Takes m s cpu t now src take)
    (hrest : FirstServed m s cpu now fallback places rest) :
    FirstServed m s cpu now fallback ((t, src) :: places) (returnIf t take rest) := by
  cases take with
  | some s' => exact .here ⟨rfl, htakes.1 s' rfl⟩
  | none => exact .skip (htakes.2 rfl) hrest

-- Places that look at no queue at all.
theorem FirstServed.vacuous {places : List Place} (h : ∀ place ∈ places, ∀ c, ¬place.2 c) :
    FirstServed m s cpu now fallback places (fallback, s) :=
  Cascade.of_forall_miss fun place hp c hc => absurd hc (h place hp c)

theorem Takes.of_guard {t : Nat} {src : Nat → Prop} {take : Option Sched} {guard : Prop}
    (hguard : guard) (h : Takes m s cpu t now src take) :
    Takes m s cpu t now (fun c => guard ∧ src c) take :=
  ⟨fun s' hs => (h.1 s' hs).imp fun _ hc => ⟨⟨hguard, hc.1⟩, hc.2⟩, fun hn c hc => h.2 hn c hc.2⟩

end Cascade

theorem stealTiers_served (m : Machine) (rnd : Nat → Nat) (s : Sched) (cpu prevTier now : Nat)
    (hprev : DSQ_TYPE_GREEDY < prevTier) :
    FirstServed m s cpu now (DSQ_TYPE_EMPTY + 1) (stealPlaces m cpu prevTier)
      (stealTiers m rnd s cpu now) := by
  have hllc (i t : Nat) (ht : IsTier t) :=
    (takes_other m (rnd i) s t cpu now true ht).of_guard hprev
  refine FirstServed.returnIf (hllc 7 _ (by decide)) <| FirstServed.returnIf (hllc 8 _ (by decide)) <|
    FirstServed.returnIf (hllc 9 _ (by decide)) <| FirstServed.returnIf (hllc 10 _ (by decide)) ?_
  by_cases hmany : 1 < m.nrLlcs
  · have hfar (i t : Nat) (ht : IsTier t) :=
      ((takes_other m (rnd i) s t cpu now false ht).of_guard hmany).of_guard hprev
    rw [if_pos hmany]
    exact FirstServed.returnIf (hfar 11 _ (by decide)) <| FirstServed.returnIf (hfar 12 _ (by decide)) <|
      FirstServed.returnIf (hfar 13 _ (by decide)) <| FirstServed.returnIf (hfar 14 _ (by decide)) .nothing
  · rw [if_neg hmany]
    apply FirstServed.vacuous
    simp [hmany]

theorem ownTiers_served (m : Machine) (rnd : Nat → Nat) (s : Sched) (cpu prevTier now : Nat) :
    FirstServed m s cpu now (unserved prevTier)
      (ownPlaces m s cpu prevTier ++ stealPlaces m cpu prevTier)
      (ownTiers m rnd s cpu prevTier now) := by
  have hvalues := tier_values
  have hrt (i t : Nat) (ht : t ≤ prevTier) := (takes_rt m (rnd i) s t cpu now).of_guard ht
  have hown (t : Nat) (ht : t ≤ prevTier) := (takes_local m s t cpu now).of_guard ht
  -- Each test on prevTier lets the next two places through or shuts all that follow.
  have hshut (places : List Place) (hle : prevTier ≤ DSQ_TYPE_GREEDY)
      (h : ∀ place ∈ places, ∀ c, ¬place.2 c) :
      FirstServed m s cpu now (unserved prevTier) places (DSQ_TYPE_EMPTY, s) := by
    rw [unserved, if_pos hle]
    exact FirstServed.vacuous h
  unfold ownTiers
  by_cases hi : prevTier < DSQ_TYPE_INTERACTIVE
  · rw [if_pos hi]
    apply hshut _ (by omega)
    have h1 : ¬DSQ_TYPE_INTERACTIVE ≤ prevTier := by omega
    have h2 : ¬DSQ_TYPE_NORMAL ≤ prevTier := by omega
    have h3 : ¬DSQ_TYPE_GREEDY ≤ prevTier := by omega
    have h4 : ¬DSQ_TYPE_GREEDY < prevTier := by omega
    simp [ownPlaces, stealPlaces, h1, h2, h3, h4]
  rw [if_neg hi]
  refine FirstServed.returnIf (hrt 4 _ (by omega)) <| FirstServed.returnIf (hown _ (by omega)) ?_
  by_cases hn : prevTier < DSQ_TYPE_NORMAL
  · rw [if_pos hn]
    apply hshut _ (by omega)
    have h2 : ¬DSQ_TYPE_NORMAL ≤ prevTier := by omega
    have h3 : ¬DSQ_TYPE_GREEDY ≤ prevTier := by omega
    have h4 : ¬DSQ_TYPE_GREEDY < prevTier := by omega
    simp [stealPlaces, h2, h3, h4]
  rw [if_neg hn]
  refine FirstServed.returnIf (hrt 5 _ (by omega)) <| FirstServed.returnIf (hown _ (by omega)) ?_
  by_cases hg : prevTier < DSQ_TYPE_GREEDY
  · rw [if_pos hg]
    apply hshut _ (by omega)
    have h3 : ¬DSQ_TYPE_GREEDY ≤ prevTier := by omega
    have h4 : ¬DSQ_TYPE_GREEDY < prevTier := by omega
    simp [stealPlaces, h3, h4]
  rw [if_neg hg]
  refine FirstServed.returnIf (hrt 6 _ (by omega)) <| FirstServed.returnIf (hown _ (by omega)) ?_
  by_cases he : prevTier ≤ DSQ_TYPE_GREEDY
  · rw [if_pos he]
    apply hshut _ he
    simp [stealPlaces, Nat.not_lt.mpr he]
  rw [if_neg he, unserved, if_neg he]
  exact stealTiers_served m rnd s cpu prevTier now (by omega)

theorem strictTiers_served (m : Machine) (rnd : Nat → Nat) (s : Sched) (cpu prevTier now : Nat) :
    FirstServed m s cpu now (unserved prevTier)
      (strictPlaces m s cpu prevTier ++ (ownPlaces m s cpu prevTier ++ stealPlaces m cpu prevTier))
      (strictTiers m rnd s cpu prevTier now) := by
  -- A line of the strict part is passed over when the cpu has something as good itself.
  have hstrict (i t : Nat) (ht : IsTier t) :
      Takes m s cpu t now (fun c => localBest s cpu prevTier ≠ DSQ_TYPE_EMPTY ∧
          t < localBest s cpu prevTier ∧ OtherCpu m cpu true c)
        (if localBest s cpu prevTier ≠ DSQ_TYPE_EMPTY ∧ localBest s cpu prevTier > t then
          takeFromOtherTier m (rnd i) s t cpu now true else none) := by
    by_cases h : localBest s cpu prevTier ≠ DSQ_TYPE_EMPTY ∧ localBest s cpu prevTier > t
    · rw [if_pos h]
      exact ((takes_other m (rnd i) s t cpu now true ht).of_guard h.2).of_guard h.1
    · rw [if_neg h]
      constructor
      · intro s' hs
        cases hs
      · rintro - c ⟨h1, h2, -⟩
        exact absurd ⟨h1, h2⟩ h
  exact FirstServed.returnIf (hstrict 1 _ (by decide)) <| FirstServed.returnIf (hstrict 2 _ (by decide)) <|
    FirstServed.returnIf (hstrict 3 _ (by decide)) (ownTiers_served m rnd s cpu prevTier now)

-- In the state it looks at, a served place is a place of the list, and every
-- tier and source in the lists is one a dispatch may take from.
theorem FirstServed.dispatched {m : Machine} {s s1 : Sched} {cpu prevTier now fallback : Nat}
    {places : List Place} {r : Nat × Sched}
    (h : FirstServed m s1 cpu now fallback places r) (hs1 : s1 = endOverride m s cpu)
    (hplaces : ∀ place ∈ places, IsTier place.1 ∧ ∀ c, place.2 c → Source m cpu c)
    (hfallback : Dispatched m s cpu prevTier now .none fallback s1) :
    Dispatched m s cpu prevTier now .none r.1 r.2 := by
  induction h with
  | @here place rest r h =>
      obtain ⟨hr, c, hsrc, htake⟩ := h
      obtain ⟨ht, hc⟩ := hplaces place (by simp)
      rw [hr]
      exact .taken ht (hc c hsrc) (hs1 ▸ htake)
  | skip _ _ ih => exact ih fun place hp => hplaces place (List.mem_cons_of_mem _ hp)
  | nothing => exact hfallback

theorem places_source (m : Machine) (s : Sched) (cpu prevTier : Nat) :
    ∀ place ∈ strictPlaces m s cpu prevTier ++
        (ownPlaces m s cpu prevTier ++ stealPlaces m cpu prevTier),
      IsTier place.1 ∧ ∀ c, place.2 c → Source m cpu c := by
  have hllc (c : Nat) (h : OtherCpu m cpu true c) := h.source
  have hfar (c : Nat) (h : OtherCpu m cpu false c) := h.source
  have hrt (c : Nat) (h : RtTaken m s cpu c) := h.source
  have hown (c : Nat) (h : c = cpu) : Source m cpu c := Or.inl h
  simp only [strictPlaces, ownPlaces, stealPlaces, List.cons_append, List.nil_append,
    List.forall_mem_cons, List.not_mem_nil, false_implies, implies_true, and_true]
  refine ⟨⟨by decide, fun c h => hllc c h.2.2⟩, ⟨by decide, fun c h => hllc c h.2.2⟩,
    ⟨by decide, fun c h => hllc c h.2.2⟩, ⟨by decide, fun c h => hrt c h.2⟩,
    ⟨by decide, fun c h => hown c h.2⟩, ⟨by decide, fun c h => hrt c h.2⟩,
    ⟨by decide, fun c h => hown c h.2⟩, ⟨by decide, fun c h => hrt c h.2⟩,
    ⟨by decide, fun c h => hown c h.2⟩, ⟨by decide, fun c h => hllc c h.2⟩,
    ⟨by decide, fun c h => hllc c h.2⟩, ⟨by decide, fun c h => hllc c h.2⟩,
    ⟨by decide, fun c h => hllc c h.2⟩, ⟨by decide, fun c h => hfar c h.2.2⟩,
    ⟨by decide, fun c h => hfar c h.2.2⟩, ⟨by decide, fun c h => hfar c h.2.2⟩,
    ⟨by decide, fun c h => hfar c h.2.2⟩⟩

theorem dispatched_unserved (m : Machine) (s : Sched) (cpu prevTier now : Nat) :
    Dispatched m s cpu prevTier now .none (unserved prevTier) (endOverride m s cpu) := by
  unfold unserved
  split
  · rename_i h
    exact .kept h
  · rename_i h
    exact .idle (Nat.lt_of_not_ge h)

theorem dispatchDsqPerCpu_dispatched (m : Machine) (rnd : Nat → Nat) (s : Sched)
    (cpu prevTier now : Nat) :
    Dispatched m s cpu prevTier now (overridePath m rnd s cpu now)
      (dispatchDsqPerCpu m rnd s cpu prevTier now).1
      (dispatchDsqPerCpu m rnd s cpu prevTier now).2 := by
  unfold overridePath
  refine returnIf_rule (P := fun r => Dispatched m s cpu prevTier now _ r.1 r.2) ?_ fun hrt => ?_
  · intro s' h
    obtain ⟨c, hc, htake⟩ := (takes_rt m (rnd 0) s DSQ_TYPE_LC cpu now).1 s' h
    rw [h]
    exact .lc hc.source htake
  rw [hrt, if_neg (by simp)]
  refine returnIf_rule (P := fun r => Dispatched m s cpu prevTier now _ r.1 r.2) ?_ fun hlc => ?_
  · intro s' h
    obtain ⟨c, hc, htake⟩ := (takes_local m s DSQ_TYPE_LC cpu now).1 s' h
    rw [h]
    exact .lc (Or.inl hc) htake
  rw [hlc, if_neg (by simp)]
  cases hcontinue : continueOverride m s cpu now with
  | some taken => exact continueOverride_eq_some hcontinue prevTier
  | none =>
      dsimp only
      cases hstart : startOverride m (endOverride m s cpu) cpu now with
      | some taken => exact startOverride_eq_some hstart prevTier
      | none =>
          exact (strictTiers_served m rnd (endOverride m s cpu) cpu prevTier now).dispatched rfl
            (places_source m (endOverride m s cpu) cpu prevTier)
            (dispatched_unserved m s cpu prevTier now)

end Lunar
