import Lunar.Dispatches.Outcome
import Mathlib.Order.Bounds.Basic

namespace Lunar

-- The tiers cpu has itself: prev, or a queue of its own.
def OwnTier (s : Sched) (cpu prevTier t : Nat) : Prop :=
  t = prevTier ∧ prevTier ≤ DSQ_TYPE_GREEDY ∨
    IsTier t ∧ s.dsq (getCpuDsqFromType t cpu) ≠ []

-- The tiers with a task for cpu waiting on another cpu of its LLC.
def LlcTier (m : Machine) (s : Sched) (cpu t : Nat) : Prop :=
  IsTier t ∧ ∃ c, OtherCpu m cpu true c ∧ Waits s cpu t c

def RtTier (m : Machine) (s : Sched) (cpu t : Nat) : Prop :=
  IsTier t ∧ ∃ c, RtTaken m s cpu c ∧ Waits s cpu t c

-- No starvation override is under way or due.
def NoOverride (s : Sched) (cpu now : Nat) : Prop :=
  ((s.dispatchState cpu).overrideLeft = 0 ∨
      s.dsq (getCpuDsqFromType (s.dispatchState cpu).overrideTier cpu) = []) ∧
    mostStarvedTier s (s.dispatchState cpu) cpu now = DSQ_TYPE_EMPTY

-- The tier a cpu serves next, given what dispatch_dsq_per_cpu returned.
def servedTier (prevTier returned : Nat) : Nat :=
  if returned = DSQ_TYPE_EMPTY then prevTier else returned

theorem TakenFrom.movedFrom {m : Machine} {s s' : Sched} {cpu t c now : Nat}
    (h : TakenFrom m s cpu t c now s') : MovedFrom s cpu t c s' := by
  obtain ⟨p, hp, rfl⟩ := h
  exact ⟨p, hp, by simp⟩

theorem TakenFrom.movedFrom_endOverride {m : Machine} {s s' : Sched} {cpu d t c now : Nat}
    (h : TakenFrom m (endOverride m s d) cpu t c now s') : MovedFrom s cpu t c s' := by
  obtain ⟨p, hp, rfl⟩ := h
  refine ⟨p, by simpa using hp, ?_⟩
  simp [Sched.moveTo]

theorem mostStarvedTier_endOverride (m : Machine) (s : Sched) (cpu now : Nat)
    (hcpu : cpu < m.nrCpuIds) :
    mostStarvedTier (endOverride m s cpu) ((endOverride m s cpu).dispatchState cpu) cpu now =
      mostStarvedTier s (s.dispatchState cpu) cpu now := by
  simp [mostStarvedTier, tierOverrun, dsqQueued, endOverride, Sched.updDispatchCtx_same, hcpu]

theorem continueOverride_eq_none {m : Machine} {s : Sched} {cpu now : Nat} (hcpu : cpu < m.nrCpuIds)
    (h : (s.dispatchState cpu).overrideLeft = 0 ∨
      s.dsq (getCpuDsqFromType (s.dispatchState cpu).overrideTier cpu) = []) :
    continueOverride m s cpu now = none := by
  simp only [continueOverride, Sched.getDispatchCtx, hcpu, if_true]
  split_ifs with hcond
  · rcases h with h0 | h0
    · exact absurd h0 hcond.1
    · simp [takeFromLocalTier, dsqQueued, h0]
  · rfl

-- dispatch_dsq_per_cpu without the overrides: only the LC takes come before the strict part.
def lcThenStrict (m : Machine) (rnd : Nat → Nat) (s : Sched) (cpu prevTier now : Nat) : Nat × Sched :=
  returnIf DSQ_TYPE_LC (tryAcquireFromRtCpu m (rnd 0) s DSQ_TYPE_LC cpu now) <|
  returnIf DSQ_TYPE_LC (takeFromLocalTier m s DSQ_TYPE_LC cpu now) <|
  strictTiers m rnd (endOverride m s cpu) cpu prevTier now

theorem dispatchDsqPerCpu_of_noOverride (m : Machine) (rnd : Nat → Nat) (s : Sched)
    (cpu prevTier now : Nat) (hcpu : cpu < m.nrCpuIds) (hover : NoOverride s cpu now) :
    dispatchDsqPerCpu m rnd s cpu prevTier now = lcThenStrict m rnd s cpu prevTier now := by
  have hcontinue : continueOverride m s cpu now = none := continueOverride_eq_none hcpu hover.1
  have hstart : startOverride m (endOverride m s cpu) cpu now = none := by
    simp only [startOverride, Sched.getDispatchCtx, hcpu, if_true,
      mostStarvedTier_endOverride m s cpu now hcpu, hover.2]
  simp [dispatchDsqPerCpu, lcThenStrict, hcontinue, hstart]

-- The same if an override could be made but an LC task comes first.
theorem dispatchDsqPerCpu_of_path {m : Machine} {rnd : Nat → Nat} {s : Sched} {cpu now : Nat}
    (hpath : overridePath m rnd s cpu now = .none) (prevTier : Nat) :
    dispatchDsqPerCpu m rnd s cpu prevTier now = lcThenStrict m rnd s cpu prevTier now := by
  unfold overridePath at hpath
  unfold dispatchDsqPerCpu lcThenStrict
  cases hrt : tryAcquireFromRtCpu m (rnd 0) s DSQ_TYPE_LC cpu now with
  | some s' => rfl
  | none =>
      cases hlc : takeFromLocalTier m s DSQ_TYPE_LC cpu now with
      | some s' => rfl
      | none =>
          cases hcontinue : continueOverride m s cpu now with
          | some r => simp [hrt, hlc, hcontinue] at hpath
          | none =>
              cases hstart : startOverride m (endOverride m s cpu) cpu now with
              | some r => simp [hrt, hlc, hcontinue, hstart] at hpath
              | none => simp [hstart]

-- An LC task comes first, from a cpu lost to an RT task if one has any.
theorem lcThenStrict_cases (m : Machine) (rnd : Nat → Nat) (s : Sched) (cpu prevTier now : Nat) :
    let r := lcThenStrict m rnd s cpu prevTier now
    (r.1 = DSQ_TYPE_LC ∧ ∃ c, (RtTaken m s cpu c ∨ ¬RtTier m s cpu DSQ_TYPE_LC ∧ c = cpu) ∧
      TakenFrom m s cpu DSQ_TYPE_LC c now r.2) ∨
    ¬RtTier m s cpu DSQ_TYPE_LC ∧ ¬Waits s cpu DSQ_TYPE_LC cpu ∧
      r = strictTiers m rnd (endOverride m s cpu) cpu prevTier now := by
  have hrt := takes_rt m (rnd 0) s DSQ_TYPE_LC cpu now
  have hlocal := takes_local m s DSQ_TYPE_LC cpu now
  unfold lcThenStrict
  cases hrtTake : tryAcquireFromRtCpu m (rnd 0) s DSQ_TYPE_LC cpu now with
  | some s' =>
      obtain ⟨c, hc, htake⟩ := hrt.1 s' hrtTake
      exact Or.inl ⟨rfl, c, Or.inl hc, htake⟩
  | none =>
      have hnrt : ¬RtTier m s cpu DSQ_TYPE_LC := fun ⟨_, c, hc, hw⟩ => hrt.2 hrtTake c hc hw
      cases hlocalTake : takeFromLocalTier m s DSQ_TYPE_LC cpu now with
      | some s' =>
          obtain ⟨c, rfl, htake⟩ := hlocal.1 s' hlocalTake
          exact Or.inl ⟨rfl, c, Or.inr ⟨hnrt, rfl⟩, htake⟩
      | none => exact Or.inr ⟨hnrt, hlocal.2 hlocalTake cpu rfl, rfl⟩

-- The else-if chain for local_best finds the best tier the cpu has itself.
theorem localBest_isLeast (s : Sched) (cpu prevTier : Nat) (hprev : DSQ_TYPE_LC ≤ prevTier)
    (hlc : s.dsq (getCpuDsqFromType DSQ_TYPE_LC cpu) = [])
    (hown : ∃ t, OwnTier s cpu prevTier t) :
    IsLeast {t | OwnTier s cpu prevTier t} (localBest s cpu prevTier) := by
  have hvalues := tier_values
  have hqueued (t : Nat) : dsqQueued s (getCpuDsqFromType t cpu) ≠ 0 ↔
      s.dsq (getCpuDsqFromType t cpu) ≠ [] := by
    simp [dsqQueued]
  have htiers (t : Nat) (ht : OwnTier s cpu prevTier t) :
      t = prevTier ∧ prevTier ≤ DSQ_TYPE_GREEDY ∨
      t = DSQ_TYPE_INTERACTIVE ∧ s.dsq (getCpuDsqFromType DSQ_TYPE_INTERACTIVE cpu) ≠ [] ∨
      t = DSQ_TYPE_NORMAL ∧ s.dsq (getCpuDsqFromType DSQ_TYPE_NORMAL cpu) ≠ [] ∨
      t = DSQ_TYPE_GREEDY ∧ s.dsq (getCpuDsqFromType DSQ_TYPE_GREEDY cpu) ≠ [] := by
    rcases ht with h | ⟨ht, hq⟩
    · exact Or.inl h
    · rcases isTier_cases ht with rfl | rfl | rfl | rfl
      · exact absurd hlc hq
      all_goals tauto
  have hi : IsTier DSQ_TYPE_INTERACTIVE := by decide
  have hn : IsTier DSQ_TYPE_NORMAL := by decide
  have hg : IsTier DSQ_TYPE_GREEDY := by decide
  unfold localBest
  simp only [hqueued]
  constructor
  · obtain ⟨t, ht⟩ := hown
    have := htiers t ht
    simp only [Set.mem_ofPred_eq, OwnTier]
    split_ifs <;> grind
  · intro t ht
    have := htiers t ht
    split_ifs <;> grind

section OwnWork

variable {m : Machine} {s : Sched} {cpu prevTier now : Nat}

-- With nothing better waiting in the LLC, the best own tier is the best of all.
private theorem isLeast_own {best : Nat} (hbest : IsLeast {t | OwnTier s cpu prevTier t} best)
    (hllc : ∀ t < best, ¬LlcTier m s cpu t) :
    IsLeast {t | OwnTier s cpu prevTier t ∨ LlcTier m s cpu t} best := by
  refine ⟨Or.inl hbest.1, ?_⟩
  rintro t (ht | ht)
  · exact hbest.2 ht
  · exact Nat.le_of_not_lt fun hlt => hllc t hlt ht

-- A tier better than the best own one, the best of those waiting in the LLC.
private theorem isLeast_llc {best t : Nat} (hbest : IsLeast {t | OwnTier s cpu prevTier t} best)
    (hlt : t < best) (ht : LlcTier m s cpu t) (hllc : ∀ t' < t, ¬LlcTier m s cpu t') :
    IsLeast {t | OwnTier s cpu prevTier t ∨ LlcTier m s cpu t} t := by
  refine ⟨Or.inr ht, ?_⟩
  rintro t' (ht' | ht')
  · exact (Nat.le_of_lt hlt).trans (hbest.2 ht')
  · exact Nat.le_of_not_lt fun hlt' => hllc t' hlt' ht'

-- The strict part serves the best tier waiting in the LLC that beats all own
-- tiers, or there is no such tier.
private theorem strictPlaces_served {r : Nat × Sched} {back : List Place} {fallback : Nat}
    (hbest : localBest s cpu prevTier ≤ DSQ_TYPE_GREEDY)
    (h : FirstServed m s cpu now fallback (strictPlaces m s cpu prevTier ++ back) r) :
    (r.1 < localBest s cpu prevTier ∧ LlcTier m s cpu r.1 ∧ (∀ t < r.1, ¬LlcTier m s cpu t) ∧
      ∃ c, TakenFrom m s cpu r.1 c now r.2) ∨
    (∀ t < localBest s cpu prevTier, ¬LlcTier m s cpu t) ∧
      FirstServed m s cpu now fallback back r := by
  have hvalues := tier_values
  have hsorted : (strictPlaces m s cpu prevTier).Pairwise fun a b => a.1 < b.1 := by
    simp [strictPlaces, DSQ_TYPE_LC, DSQ_TYPE_INTERACTIVE, DSQ_TYPE_NORMAL]
  -- A place of the list that misses has no task of its tier waiting in the LLC.
  have hmiss (t : Nat) (hlt : t < localBest s cpu prevTier)
      (hm : ∀ place ∈ strictPlaces m s cpu prevTier, place.1 = t → Misses s cpu place) :
      ¬LlcTier m s cpu t := by
    rintro ⟨ht, c, hc, hw⟩
    have hopen : localBest s cpu prevTier ≠ DSQ_TYPE_EMPTY := by omega
    have hplace : (t, fun c => localBest s cpu prevTier ≠ DSQ_TYPE_EMPTY ∧
        t < localBest s cpu prevTier ∧ OtherCpu m cpu true c) ∈ strictPlaces m s cpu prevTier := by
      rcases isTier_cases ht with rfl | rfl | rfl | rfl
      · simp [strictPlaces]
      · simp [strictPlaces]
      · simp [strictPlaces]
      · omega
    exact hm _ hplace rfl c ⟨hopen, hlt, hc⟩ hw
  rcases h.hit_or_continue hsorted with ⟨place, hp, ⟨hr, c, hc, htake⟩, hother⟩ | ⟨hnone, hback⟩
  · have htier : IsTier place.1 := (places_source m s cpu prevTier place (by simp [hp])).1
    have hsrc : place.2 c → place.1 < localBest s cpu prevTier ∧ OtherCpu m cpu true c := by
      simp only [strictPlaces, List.mem_cons, List.not_mem_nil, or_false] at hp
      rcases hp with rfl | rfl | rfl
      all_goals exact fun h => h.2
    obtain ⟨hlt, hllc⟩ := hsrc hc
    rw [hr]
    refine Or.inl ⟨hlt, ⟨htier, c, hllc, .of_takenFrom htake⟩, ?_, c, htake⟩
    intro t ht
    refine hmiss t (by omega) fun other ho heq => ?_
    rcases hother other ho with rfl | hbefore | hm
    · omega
    · omega
    · exact hm
  · exact Or.inr ⟨fun t ht => hmiss t ht fun place hp _ => hnone place hp, hback⟩

-- The own part goes tier by tier, and within a tier looks at the own queue last.
private theorem ownPlaces_sorted : (ownPlaces m s cpu prevTier).Pairwise
    fun a b => a.1 < b.1 ∨ a.1 = b.1 ∧ ∀ c, b.2 c → c = cpu := by
  simp [ownPlaces, DSQ_TYPE_INTERACTIVE, DSQ_TYPE_NORMAL, DSQ_TYPE_GREEDY]

private theorem ownPlaces_cases {place : Place} {c : Nat}
    (hp : place ∈ ownPlaces m s cpu prevTier) (hc : place.2 c) :
    IsTier place.1 ∧ place.1 ≠ DSQ_TYPE_LC ∧ place.1 ≤ prevTier ∧
      (RtTaken m s cpu c ∨ c = cpu) := by
  have hvalues := tier_values
  refine ⟨(places_source m s cpu prevTier place (by simp [hp])).1, ?_⟩
  simp only [ownPlaces, List.mem_cons, List.not_mem_nil, or_false] at hp
  rcases hp with rfl | rfl | rfl | rfl | rfl | rfl
  · exact ⟨by dsimp only; omega, hc.1, Or.inl hc.2⟩
  · exact ⟨by dsimp only; omega, hc.1, Or.inr hc.2⟩
  · exact ⟨by dsimp only; omega, hc.1, Or.inl hc.2⟩
  · exact ⟨by dsimp only; omega, hc.1, Or.inr hc.2⟩
  · exact ⟨by dsimp only; omega, hc.1, Or.inl hc.2⟩
  · exact ⟨by dsimp only; omega, hc.1, Or.inr hc.2⟩

-- With nothing better waiting in the LLC, the own part serves the best own tier,
-- from a cpu taken by an RT task if one has a task of it; prev is kept only if it
-- is the best.
private theorem ownPlaces_served {r : Nat × Sched} {best : Nat}
    (hallowed : ∀ t, IsTier t → ∀ p ∈ s.dsq (getCpuDsqFromType t cpu), s.allowedOn cpu p)
    (hlc : s.dsq (getCpuDsqFromType DSQ_TYPE_LC cpu) = [])
    (hrtlc : ¬RtTier m s cpu DSQ_TYPE_LC)
    (hbest : IsLeast {t | OwnTier s cpu prevTier t} best)
    (hllc : ∀ t < best, ¬LlcTier m s cpu t)
    (h : FirstServed m s cpu now (unserved prevTier)
      (ownPlaces m s cpu prevTier ++ stealPlaces m cpu prevTier) r) :
    (r.1 = best ∧ IsTier best ∧ ∃ c, (RtTaken m s cpu c ∨ ¬RtTier m s cpu best ∧ c = cpu) ∧
      TakenFrom m s cpu best c now r.2) ∨
    best = prevTier ∧ prevTier ≤ DSQ_TYPE_GREEDY ∧ ¬RtTier m s cpu best ∧
      r = (DSQ_TYPE_EMPTY, s) := by
  have hvalues := tier_values
  have hlePrev : best ≤ prevTier := by
    rcases hbest.1 with ⟨h, -⟩ | ⟨h, -⟩
    · omega
    · by_cases hp : prevTier ≤ DSQ_TYPE_GREEDY
      · exact hbest.2 (Or.inl ⟨rfl, hp⟩)
      · have := h.2
        omega
  -- A tier of an own queue cannot miss at its own place.
  have hqueue : ¬(best = prevTier ∧ prevTier ≤ DSQ_TYPE_GREEDY) →
      IsTier best ∧ best ≠ DSQ_TYPE_LC ∧ ¬Misses s cpu (best, fun c => best ≤ prevTier ∧ c = cpu) := by
    intro hnot
    rcases hbest.1 with h | ⟨ht, hq⟩
    · exact absurd h hnot
    · obtain ⟨p, hp⟩ := List.exists_mem_of_ne_nil _ hq
      refine ⟨ht, ?_, fun hm => hm cpu ⟨hlePrev, rfl⟩ ⟨p, hp, hallowed best ht p hp⟩⟩
      rintro rfl
      exact hq hlc
  rcases h.hit_or_continue ownPlaces_sorted with
    ⟨place, hp, ⟨hr, c, hc, htake⟩, hother⟩ | ⟨hnone, hback⟩
  · obtain ⟨htier, hnlc, hle, hsrc⟩ := ownPlaces_cases hp hc
    have hge : best ≤ place.1 := by
      rcases hsrc with hrt | rfl
      · exact Nat.le_of_not_lt fun hlt => hllc _ hlt ⟨htier, c, hrt.1, .of_takenFrom htake⟩
      · obtain ⟨p, hp, -⟩ := Waits.of_takenFrom htake
        exact hbest.2 (Or.inr ⟨htier, List.ne_nil_of_mem hp⟩)
    have heq : place.1 = best := by
      by_contra hne
      obtain ⟨ht, hn, hmiss⟩ := hqueue (by omega)
      rcases hother _ (mem_ownPlaces ht hn).2 with h | h | h
      · exact hne (congrArg Prod.fst h).symm
      · rcases h with h | ⟨h, -⟩
        · exact absurd h (by dsimp only; omega)
        · exact hne h
      · exact hmiss h
    rw [heq] at htier hnlc htake hr
    refine Or.inl ⟨hr, htier, c, ?_, htake⟩
    by_cases hrt : RtTier m s cpu best
    · obtain ⟨-, c', hc', hw⟩ := hrt
      rcases hother _ (mem_ownPlaces htier hnlc).1 with h | h | h
      · rw [← h] at hc
        exact Or.inl hc.2
      · rcases h with h | ⟨-, h⟩
        · exact absurd h (by dsimp only; omega)
        · exact absurd (h c' ⟨hlePrev, hc'⟩) hc'.1.2.1
      · exact absurd hw (h c' ⟨hlePrev, hc'⟩)
    · exact hsrc.imp_right fun h => ⟨hrt, h⟩
  · have hprev : best = prevTier ∧ prevTier ≤ DSQ_TYPE_GREEDY := by
      by_contra hnot
      obtain ⟨ht, hn, hmiss⟩ := hqueue hnot
      exact hmiss (hnone _ (mem_ownPlaces ht hn).2)
    refine Or.inr ⟨hprev.1, hprev.2, ?_, ?_⟩
    · rintro ⟨ht, c, hc, hw⟩
      by_cases hn : best = DSQ_TYPE_LC
      · exact hrtlc (hn ▸ ⟨ht, c, hc, hw⟩)
      · exact hnone _ (mem_ownPlaces ht hn).1 c ⟨hlePrev, hc⟩ hw
    · have hshut : ∀ place ∈ stealPlaces m cpu prevTier, ∀ c, ¬place.2 c := by
        simp [stealPlaces, Nat.not_lt.mpr hprev.2]
      have hlast := hback.eq_last fun place hp _ hserves => by
        obtain ⟨-, c, hc, -⟩ := hserves
        exact hshut place hp c hc
      rw [hlast, unserved, if_pos hprev.2]

end OwnWork

@[simp] theorem ownTier_endOverride (m : Machine) (s : Sched) (cpu prevTier t d : Nat) :
    OwnTier (endOverride m s d) cpu prevTier t ↔ OwnTier s cpu prevTier t := by
  simp [OwnTier]

@[simp] theorem llcTier_endOverride (m : Machine) (s : Sched) (cpu t d : Nat) :
    LlcTier m (endOverride m s d) cpu t ↔ LlcTier m s cpu t := by
  simp [LlcTier]

@[simp] theorem rtTier_endOverride (m : Machine) (s : Sched) (cpu t d : Nat) :
    RtTier m (endOverride m s d) cpu t ↔ RtTier m s cpu t := by
  simp [RtTier]

@[simp] theorem localBest_endOverride (m : Machine) (s : Sched) (cpu prevTier d : Nat) :
    localBest (endOverride m s d) cpu prevTier = localBest s cpu prevTier := by
  simp [localBest, dsqQueued]

theorem returnIf_eq_rest {tier : Nat} {take : Option Sched} {rest : Nat × Sched}
    (h : (returnIf tier take rest).1 ≠ tier) : take = none ∧ returnIf tier take rest = rest := by
  cases take with
  | some s' => exact absurd rfl h
  | none => exact ⟨rfl, rfl⟩

-- If prev goes on, nothing was found on any of the ways.
theorem strictTiers_of_empty {m : Machine} {rnd : Nat → Nat} {s : Sched} {cpu prevTier now : Nat}
    (h : (dispatchDsqPerCpu m rnd s cpu prevTier now).1 = DSQ_TYPE_EMPTY) :
    takeFromLocalTier m s DSQ_TYPE_LC cpu now = none ∧
      (strictTiers m rnd (endOverride m s cpu) cpu prevTier now).1 = DSQ_TYPE_EMPTY := by
  have hvalues := tier_values
  have hne : DSQ_TYPE_EMPTY ≠ DSQ_TYPE_LC := by decide
  unfold dispatchDsqPerCpu at h
  rw [(returnIf_eq_rest (h ▸ hne)).2] at h
  obtain ⟨hlocal, hrest⟩ := returnIf_eq_rest (h ▸ hne)
  rw [hrest] at h
  refine ⟨hlocal, ?_⟩
  cases hcontinue : continueOverride m s cpu now with
  | some taken =>
      have hle : taken.1 ≤ DSQ_TYPE_GREEDY := continueOverride_le hcontinue
      simp only [hcontinue] at h
      omega
  | none =>
      simp only [hcontinue] at h
      cases hstart : startOverride m (endOverride m s cpu) cpu now with
      | some taken =>
          have hle : taken.1 ≤ DSQ_TYPE_GREEDY := startOverride_le hstart
          simp only [hstart] at h
          omega
      | none =>
          simp only [hstart] at h
          exact h

-- So cpu has nothing in its own queues up to the tier of prev, and nothing better waits
-- in the LLC.
theorem dispatchDsqPerCpu_eq_empty {m : Machine} {rnd : Nat → Nat} {s : Sched}
    {cpu prevTier now : Nat} (hprev : prevTier ≤ DSQ_TYPE_GREEDY)
    (hallowed : ∀ t, IsTier t → ∀ p ∈ s.dsq (getCpuDsqFromType t cpu), s.allowedOn cpu p)
    (h : (dispatchDsqPerCpu m rnd s cpu prevTier now).1 = DSQ_TYPE_EMPTY) :
    (∀ t ≤ prevTier, IsTier t → s.dsq (getCpuDsqFromType t cpu) = []) ∧
      ∀ t < prevTier, ¬LlcTier m s cpu t := by
  have hvalues := tier_values
  obtain ⟨hlc, hstrict⟩ := strictTiers_of_empty h
  have hmiss := (strictTiers_served m rnd (endOverride m s cpu) cpu prevTier now).forall_miss (by
    rintro place hp ⟨hr, -⟩
    have htier := (places_source m (endOverride m s cpu) cpu prevTier place hp).1.2
    omega)
  have hown (t : Nat) (hle : t ≤ prevTier) (ht : IsTier t) :
      s.dsq (getCpuDsqFromType t cpu) = [] := by
    rw [List.eq_nil_iff_forall_not_mem]
    intro p hp
    have hwaits : Waits s cpu t cpu := ⟨p, hp, hallowed t ht p hp⟩
    by_cases hn : t = DSQ_TYPE_LC
    · exact (takes_local m s DSQ_TYPE_LC cpu now).2 hlc cpu rfl (hn ▸ hwaits)
    · exact hmiss _ (List.mem_append_right _ (List.mem_append_left _ (mem_ownPlaces ht hn).2)) cpu
        ⟨hle, rfl⟩ (by simpa using hwaits)
  have hbest : localBest (endOverride m s cpu) cpu prevTier = prevTier := by
    have hempty (t : Nat) (ht : IsTier t) :
        ¬(prevTier > t ∧ dsqQueued s (getCpuDsqFromType t cpu) ≠ 0) :=
      fun hq => hq.2 (by simp [dsqQueued, hown t hq.1.le ht])
    rw [localBest_endOverride]
    simp only [localBest, hprev, if_true, hempty DSQ_TYPE_INTERACTIVE (by decide),
      hempty DSQ_TYPE_NORMAL (by decide), hempty DSQ_TYPE_GREEDY (by decide), if_false]
  refine ⟨hown, ?_⟩
  rintro t hlt ⟨ht, c, hc, hwaits⟩
  have hplace : (t, fun c => localBest (endOverride m s cpu) cpu prevTier ≠ DSQ_TYPE_EMPTY ∧
      t < localBest (endOverride m s cpu) cpu prevTier ∧ OtherCpu m cpu true c) ∈
      strictPlaces m (endOverride m s cpu) cpu prevTier := by
    rcases isTier_cases ht with rfl | rfl | rfl | rfl
    · simp [strictPlaces]
    · simp [strictPlaces]
    · simp [strictPlaces]
    · omega
  exact hmiss _ (List.mem_append_left _ hplace) c ⟨by omega, by omega, hc⟩ (by simpa using hwaits)

-- A cpu with work of its own serves the best tier it could serve, and takes a
-- task of its best own tier from a cpu lost to an RT task if it can, else from its
-- own queue.
theorem lcThenStrict_serves_best (m : Machine) (rnd : Nat → Nat) (s : Sched) (cpu prevTier now : Nat)
    (hprev : DSQ_TYPE_LC ≤ prevTier)
    (hallowed : ∀ t, IsTier t → ∀ p ∈ s.dsq (getCpuDsqFromType t cpu), s.allowedOn cpu p)
    (hown : ∃ t, OwnTier s cpu prevTier t) :
    let r := lcThenStrict m rnd s cpu prevTier now
    let served := servedTier prevTier r.1
    IsLeast {t | OwnTier s cpu prevTier t ∨ LlcTier m s cpu t} served ∧
      (r.1 = DSQ_TYPE_EMPTY ∧ r.2.dsq = s.dsq ∨ IsTier r.1 ∧ ∃ c, MovedFrom s cpu r.1 c r.2) ∧
      (OwnTier s cpu prevTier served → RtTier m s cpu served →
        ∃ c, RtTaken m s cpu c ∧ MovedFrom s cpu served c r.2) ∧
      (OwnTier s cpu prevTier served → ¬RtTier m s cpu served → IsTier r.1 →
        MovedFrom s cpu served cpu r.2) := by
  have hvalues := tier_values
  have isTierLC : IsTier DSQ_TYPE_LC := by decide
  have hfirst := lcThenStrict_cases m rnd s cpu prevTier now
  dsimp only at hfirst ⊢
  generalize lcThenStrict m rnd s cpu prevTier now = r at hfirst ⊢
  have hserved (h : IsTier r.1) : servedTier prevTier r.1 = r.1 := by
    have := h.2
    exact if_neg (by omega)
  have hleast (t : Nat) (ht : OwnTier s cpu prevTier t ∨ LlcTier m s cpu t) : DSQ_TYPE_LC ≤ t := by
    rcases ht with (⟨rfl, -⟩ | ⟨ht, -⟩) | ⟨ht, -⟩
    · exact hprev
    · exact ht.1
    · exact ht.1
  rcases hfirst with ⟨hr, c, hc, htake⟩ | ⟨hnrt, hnlc, hr⟩
  · have htier : IsTier r.1 := hr ▸ isTierLC
    have hmove : MovedFrom s cpu r.1 c r.2 := hr ▸ htake.movedFrom
    rw [hserved htier]
    refine ⟨⟨?_, fun t ht => hr ▸ hleast t ht⟩, Or.inr ⟨htier, c, hmove⟩, ?_, ?_⟩
    · have hw := Waits.of_takenFrom htake
      rw [hr]
      rcases hc with hrt | ⟨-, rfl⟩
      · exact Or.inr ⟨isTierLC, c, hrt.1, hw⟩
      · obtain ⟨p, hp, -⟩ := hw
        exact Or.inl (Or.inr ⟨isTierLC, List.ne_nil_of_mem hp⟩)
    · intro _ hrtTier
      rcases hc with hrt | ⟨hnrt, -⟩
      · exact ⟨c, hrt, hmove⟩
      · exact absurd (hr ▸ hrtTier) hnrt
    · intro _ hnrtTier _
      rcases hc with hrt | ⟨-, rfl⟩
      · exact absurd ⟨htier, c, hrt, hr ▸ .of_takenFrom htake⟩ hnrtTier
      · exact hmove
  have hlc : s.dsq (getCpuDsqFromType DSQ_TYPE_LC cpu) = [] := by
    rw [List.eq_nil_iff_forall_not_mem]
    exact fun p hp => hnlc ⟨p, hp, hallowed _ isTierLC p hp⟩
  have hbest := localBest_isLeast s cpu prevTier hprev hlc hown
  have hle : localBest s cpu prevTier ≤ DSQ_TYPE_GREEDY := by
    rcases hbest.1 with ⟨h, hp⟩ | ⟨h, -⟩
    · exact h.trans_le hp
    · exact h.2
  have hstrict := strictTiers_served m rnd (endOverride m s cpu) cpu prevTier now
  rw [← hr] at hstrict
  rcases strictPlaces_served (by simpa using hle) hstrict with
    ⟨hlt, hllc, hnone, c, htake⟩ | ⟨hnone, hrest⟩
  · simp only [localBest_endOverride, llcTier_endOverride] at hlt hllc hnone
    have htier : IsTier r.1 := hllc.1
    rw [hserved htier]
    refine ⟨isLeast_llc hbest hlt hllc hnone,
      Or.inr ⟨htier, c, htake.movedFrom_endOverride⟩, fun h => ?_, fun h => ?_⟩
    · exact absurd (hbest.2 h) (by omega)
    · exact absurd (hbest.2 h) (by omega)
  · simp only [localBest_endOverride, llcTier_endOverride] at hnone
    have hserve := ownPlaces_served (by simpa using hallowed) (by simpa using hlc)
      (by simpa using hnrt) (by simpa using hbest) (by simpa using hnone) hrest
    simp only [rtTier_endOverride, rtTaken_endOverride] at hserve
    rcases hserve with ⟨hr2, htier, c, hc, htake⟩ | ⟨hbp, hp, hnot, hr2⟩
    · rw [hserved (hr2 ▸ htier), hr2]
      refine ⟨isLeast_own hbest hnone, Or.inr ⟨htier, c, htake.movedFrom_endOverride⟩, ?_, ?_⟩
      · intro _ hrtTier
        rcases hc with hc | ⟨hc, -⟩
        · exact ⟨c, hc, htake.movedFrom_endOverride⟩
        · exact absurd hrtTier hc
      · intro _ hnrtTier _
        rcases hc with hc | ⟨-, rfl⟩
        · exact absurd ⟨htier, c, hc, by simpa using Waits.of_takenFrom htake⟩ hnrtTier
        · exact htake.movedFrom_endOverride
    · subst hr2
      have hkept : servedTier prevTier DSQ_TYPE_EMPTY = localBest s cpu prevTier := by
        rw [servedTier, if_pos rfl, hbp]
      rw [hkept]
      exact ⟨isLeast_own hbest hnone, Or.inl ⟨rfl, by simp⟩, fun _ h => absurd h hnot,
        fun _ _ h => absurd h (show ¬IsTier DSQ_TYPE_EMPTY by decide)⟩

theorem dispatchDsqPerCpu_serves_best (m : Machine) (rnd : Nat → Nat) (s : Sched)
    (cpu prevTier now : Nat) (hcpu : cpu < m.nrCpuIds) (hprev : DSQ_TYPE_LC ≤ prevTier)
    (hallowed : ∀ t, IsTier t → ∀ p ∈ s.dsq (getCpuDsqFromType t cpu), s.allowedOn cpu p)
    (hover : NoOverride s cpu now) (hown : ∃ t, OwnTier s cpu prevTier t) :
    let r := dispatchDsqPerCpu m rnd s cpu prevTier now
    let served := servedTier prevTier r.1
    IsLeast {t | OwnTier s cpu prevTier t ∨ LlcTier m s cpu t} served ∧
      (r.1 = DSQ_TYPE_EMPTY ∧ r.2.dsq = s.dsq ∨ IsTier r.1 ∧ ∃ c, MovedFrom s cpu r.1 c r.2) ∧
      (OwnTier s cpu prevTier served → RtTier m s cpu served →
        ∃ c, RtTaken m s cpu c ∧ MovedFrom s cpu served c r.2) := by
  rw [dispatchDsqPerCpu_of_noOverride m rnd s cpu prevTier now hcpu hover]
  have hserves := lcThenStrict_serves_best m rnd s cpu prevTier now hprev hallowed hown
  exact ⟨hserves.1, hserves.2.1, hserves.2.2.1⟩

-- Three cpus. Cpu 1 is taken by an RT task and has a GREEDY task waiting, cpu 2
-- has an LC task waiting.
def lcBehindRt : Sched :=
  { Sched.zeroed with
    task := fun p =>
      if p = 9 then { TaskStruct.zeroed with policy := SCHED_FIFO, cpu := 1 }
      else { TaskStruct.zeroed with nrCpusAllowed := 3, cpusPtr := fun _ => true }
    dispatchState := fun cpu => { DispatchCtx.zeroed with rtBusy := cpu = 1 }
    nrRtBusy := 1
    cpuCurr := fun cpu => if cpu = 1 then some 9 else none
    dsq := fun id =>
      if id = getCpuDsqFromType DSQ_TYPE_GREEDY 1 then [8]
      else if id = getCpuDsqFromType DSQ_TYPE_LC 2 then [7] else [] }

def threeCpus : Machine := .uniform 3 (by decide) (by decide)

-- With a GREEDY prev, cpu 0 takes the LC task from cpu 2.
theorem dispatchDsqPerCpu_serves_best_lcBehindRt :
    let r := dispatchDsqPerCpu threeCpus (fun _ => 0) lcBehindRt 0 DSQ_TYPE_GREEDY 0
    IsLeast {t | OwnTier lcBehindRt 0 DSQ_TYPE_GREEDY t ∨ LlcTier threeCpus lcBehindRt 0 t}
      (servedTier DSQ_TYPE_GREEDY r.1) ∧ r.1 = DSQ_TYPE_LC := by
  have hallowed : ∀ t, IsTier t → ∀ p ∈ lcBehindRt.dsq (getCpuDsqFromType t 0),
      lcBehindRt.allowedOn 0 p := by
    intro t ht
    rcases isTier_cases ht with rfl | rfl | rfl | rfl
    all_goals decide
  have hover : NoOverride lcBehindRt 0 0 := ⟨by decide, by decide⟩
  exact ⟨(dispatchDsqPerCpu_serves_best threeCpus (fun _ => 0) lcBehindRt 0 DSQ_TYPE_GREEDY 0
    (by decide) (by decide) hallowed hover ⟨DSQ_TYPE_GREEDY, Or.inl ⟨rfl, by decide⟩⟩).1, by decide⟩

section NoOwnWork

variable {m : Machine} {s : Sched} {cpu : Nat}

-- A cpu with nothing queued has nothing an override could serve.
theorem noOverride_of_empty (now : Nat)
    (hempty : ∀ t, IsTier t → s.dsq (getCpuDsqFromType t cpu) = []) : NoOverride s cpu now := by
  have hoverrun (t budget : Nat) (ht : IsTier t) :
      tierOverrun s (s.dispatchState cpu) t cpu now budget = 0 := by
    simp [tierOverrun, dsqQueued, hempty t ht]
  constructor
  · right
    -- every other number stands for GREEDY
    by_cases h : IsTier (s.dispatchState cpu).overrideTier
    · exact hempty _ h
    · have hgreedy : getCpuDsqFromType (s.dispatchState cpu).overrideTier cpu =
          getCpuDsqFromType DSQ_TYPE_GREEDY cpu := by
        have hvalues := tier_values
        unfold IsTier at h
        unfold getCpuDsqFromType
        split_ifs <;> first | rfl | omega
      rw [hgreedy]
      exact hempty _ (by decide)
  · simp [mostStarvedTier, hoverrun _ _ (show IsTier DSQ_TYPE_INTERACTIVE by decide),
      hoverrun _ _ (show IsTier DSQ_TYPE_NORMAL by decide),
      hoverrun _ _ (show IsTier DSQ_TYPE_GREEDY by decide)]

-- The stealing takes the best tier waiting in the LLC, if any waits there.
private theorem stealPlaces_served {r : Nat × Sched} {now last : Nat}
    (h : FirstServed m s cpu now last (stealPlaces m cpu DSQ_TYPE_EMPTY) r)
    (hllc : ∃ t, LlcTier m s cpu t) :
    IsLeast {t | LlcTier m s cpu t} r.1 ∧ ∃ c, TakenFrom m s cpu r.1 c now r.2 := by
  let llc (t : Nat) : Place := (t, fun c => DSQ_TYPE_GREEDY < DSQ_TYPE_EMPTY ∧ OtherCpu m cpu true c)
  have hmiss (t : Nat) (h : Misses s cpu (llc t)) : ¬LlcTier m s cpu t := by
    rintro ⟨-, c, hc, hw⟩
    exact h c ⟨by decide, hc⟩ hw
  have hmem (t : Nat) (ht : IsTier t) : llc t ∈
      [llc DSQ_TYPE_LC, llc DSQ_TYPE_INTERACTIVE, llc DSQ_TYPE_NORMAL, llc DSQ_TYPE_GREEDY] := by
    rcases isTier_cases ht with rfl | rfl | rfl | rfl
    all_goals simp
  have hsorted : [llc DSQ_TYPE_LC, llc DSQ_TYPE_INTERACTIVE, llc DSQ_TYPE_NORMAL,
      llc DSQ_TYPE_GREEDY].Pairwise fun a b => a.1 < b.1 := by
    simp [llc, DSQ_TYPE_LC, DSQ_TYPE_INTERACTIVE, DSQ_TYPE_NORMAL, DSQ_TYPE_GREEDY]
  rcases Cascade.hit_or_continue hsorted h with ⟨place, hp, ⟨hr, c, hc, htake⟩, hother⟩ | ⟨hnone, -⟩
  · have hplace : IsTier place.1 ∧ OtherCpu m cpu true c := by
      simp only [List.mem_cons, List.not_mem_nil, or_false] at hp
      rcases hp with rfl | rfl | rfl | rfl
      · exact ⟨show IsTier DSQ_TYPE_LC by decide, hc.2⟩
      · exact ⟨show IsTier DSQ_TYPE_INTERACTIVE by decide, hc.2⟩
      · exact ⟨show IsTier DSQ_TYPE_NORMAL by decide, hc.2⟩
      · exact ⟨show IsTier DSQ_TYPE_GREEDY by decide, hc.2⟩
    rw [hr]
    refine ⟨⟨⟨hplace.1, c, hplace.2, .of_takenFrom htake⟩, ?_⟩, c, htake⟩
    intro t ht
    by_contra hlt
    rcases hother _ (hmem t ht.1) with h | h | h
    · exact hlt (congrArg Prod.fst h).ge
    · exact hlt h.le
    · exact hmiss t h ht
  · obtain ⟨t, ht⟩ := hllc
    exact absurd ht (hmiss t (hnone _ (hmem t ht.1)))

-- A cpu with nothing of its own first serves the cpus lost to RT tasks, of all
-- tiers, and then the LLC.
theorem dispatchDsqPerCpu_of_empty (rnd : Nat → Nat) (now : Nat) (hcpu : cpu < m.nrCpuIds)
    (hempty : ∀ t, IsTier t → s.dsq (getCpuDsqFromType t cpu) = [])
    (hllc : ∃ t, LlcTier m s cpu t) :
    let r := dispatchDsqPerCpu m rnd s cpu DSQ_TYPE_EMPTY now
    (∃ c, MovedFrom s cpu r.1 c r.2) ∧
      (IsLeast {t | RtTier m s cpu t} r.1 ∨
        (∀ t, ¬RtTier m s cpu t) ∧ IsLeast {t | LlcTier m s cpu t} r.1) := by
  have hvalues := tier_values
  have hfirst := lcThenStrict_cases m rnd s cpu DSQ_TYPE_EMPTY now
  rw [dispatchDsqPerCpu_of_noOverride m rnd s cpu DSQ_TYPE_EMPTY now hcpu
    (noOverride_of_empty now hempty)]
  dsimp only at hfirst ⊢
  generalize lcThenStrict m rnd s cpu DSQ_TYPE_EMPTY now = r at hfirst ⊢
  have hnoOwn (t : Nat) (ht : IsTier t) : ¬Waits s cpu t cpu := by
    rintro ⟨p, hp, -⟩
    simp [hempty t ht] at hp
  rcases hfirst with ⟨hr, c, hc, htake⟩ | ⟨hnrt, -, hr⟩
  · rcases hc with hc | ⟨-, rfl⟩
    · refine ⟨⟨c, hr ▸ htake.movedFrom⟩, Or.inl ⟨?_, fun t ht => hr ▸ ht.1.1⟩⟩
      exact hr ▸ ⟨by decide, c, hc, .of_takenFrom htake⟩
    · exact absurd (.of_takenFrom htake) (hnoOwn _ (by decide))
  -- Nothing own is better, so the strict part looks at no queue.
  have hbest : localBest s cpu DSQ_TYPE_EMPTY = DSQ_TYPE_EMPTY := by
    simp [localBest, dsqQueued, hempty _ (show IsTier DSQ_TYPE_INTERACTIVE by decide),
      hempty _ (show IsTier DSQ_TYPE_NORMAL by decide),
      hempty _ (show IsTier DSQ_TYPE_GREEDY by decide)]
  have hserved := strictTiers_served m rnd (endOverride m s cpu) cpu DSQ_TYPE_EMPTY now
  rw [← hr] at hserved
  replace hserved := hserved.of_append (by simp [strictPlaces, hbest, Serves])
  rcases hserved.hit_or_continue ownPlaces_sorted with
    ⟨place, hp, ⟨hr, c, hc, htake⟩, hother⟩ | ⟨hnone, hsteal⟩
  · obtain ⟨htier, hnlc, hle, hsrc⟩ := ownPlaces_cases hp hc
    have hw : Waits s cpu place.1 c := by simpa using Waits.of_takenFrom htake
    rw [hr]
    refine ⟨⟨c, htake.movedFrom_endOverride⟩, Or.inl ⟨?_, ?_⟩⟩
    · rcases hsrc with hrt | rfl
      · exact ⟨htier, c, by simpa using hrt, hw⟩
      · exact absurd hw (hnoOwn _ htier)
    · rintro t ⟨ht, c', hc', hw'⟩
      by_contra hlt
      have hn : t ≠ DSQ_TYPE_LC := fun h => hnrt (h ▸ ⟨ht, c', hc', hw'⟩)
      rcases hother _ (mem_ownPlaces ht hn).1 with h | (h | ⟨h, -⟩) | h
      · exact hlt (congrArg Prod.fst h).ge
      · exact hlt h.le
      · exact hlt h.le
      · exact h c' ⟨by have := ht.2; omega, by simpa using hc'⟩ (by simpa using hw')
  have hnoRt (t : Nat) : ¬RtTier m s cpu t := by
    rintro ⟨ht, c, hc, hw⟩
    by_cases hn : t = DSQ_TYPE_LC
    · exact hnrt (hn ▸ ⟨ht, c, hc, hw⟩)
    · exact hnone _ (mem_ownPlaces ht hn).1 c ⟨by have := ht.2; omega, by simpa using hc⟩
        (by simpa using hw)
  obtain ⟨hleast, c, htake⟩ := stealPlaces_served hsteal (by simpa using hllc)
  simp only [llcTier_endOverride] at hleast
  exact ⟨⟨c, htake.movedFrom_endOverride⟩, Or.inr ⟨hnoRt, hleast⟩⟩

-- So it keeps the order of the tiers in the LLC exactly if the cpus lost to RT
-- tasks have the best of them.
theorem dispatchDsqPerCpu_idle_strict_iff (rnd : Nat → Nat) (now : Nat) (hcpu : cpu < m.nrCpuIds)
    (hempty : ∀ t, IsTier t → s.dsq (getCpuDsqFromType t cpu) = [])
    (hllc : ∃ t, LlcTier m s cpu t) :
    let r := dispatchDsqPerCpu m rnd s cpu DSQ_TYPE_EMPTY now
    ((∃ t c, MovedFrom s cpu t c r.2) → IsLeast {t | LlcTier m s cpu t} r.1) ↔
      ∀ t, IsLeast {t | RtTier m s cpu t} t → IsLeast {t | LlcTier m s cpu t} t := by
  obtain ⟨⟨c, hmoved⟩, htier⟩ := dispatchDsqPerCpu_of_empty rnd now hcpu hempty hllc
  intro r
  constructor
  · intro h t ht
    have hleast := h ⟨_, c, hmoved⟩
    rcases htier with hrt | ⟨hnone, -⟩
    · exact ht.unique hrt ▸ hleast
    · exact absurd ht.1 (hnone t)
  · intro h _
    rcases htier with hrt | ⟨-, hleast⟩
    · exact h _ hrt
    · exact hleast

end NoOwnWork

-- The idle cpu 0 takes the GREEDY task while the LC task waits.
theorem dispatchDsqPerCpu_lcBehindRt_not_least :
    let r := dispatchDsqPerCpu threeCpus (fun _ => 0) lcBehindRt 0 DSQ_TYPE_EMPTY 0
    (∃ t, LlcTier threeCpus lcBehindRt 0 t) ∧ MovedFrom lcBehindRt 0 DSQ_TYPE_GREEDY 1 r.2 ∧
      r.1 = DSQ_TYPE_GREEDY ∧ LlcTier threeCpus lcBehindRt 0 DSQ_TYPE_LC ∧
      ¬IsLeast {t | LlcTier threeCpus lcBehindRt 0 t} r.1 := by
  have hlc : LlcTier threeCpus lcBehindRt 0 DSQ_TYPE_LC :=
    ⟨by decide, 2, ⟨by decide, by decide, by decide, by decide⟩, 7, by decide, by decide⟩
  have hr : (dispatchDsqPerCpu threeCpus (fun _ => 0) lcBehindRt 0 DSQ_TYPE_EMPTY 0).1 =
      DSQ_TYPE_GREEDY := by decide
  refine ⟨⟨_, hlc⟩, ⟨8, by decide, ?_⟩, hr, hlc, ?_⟩
  · rfl
  · intro h
    rw [hr] at h
    exact absurd (h.2 hlc) (by decide)

-- The same with the GREEDY task bound to cpu 1: nothing comes before the LC task.
def lcBesideRt : Sched :=
  lcBehindRt.setTask 8 { TaskStruct.zeroed with nrCpusAllowed := 1, cpusPtr := fun cpu => cpu = 1 }

theorem dispatchDsqPerCpu_idle_strict_lcBesideRt :
    let r := dispatchDsqPerCpu threeCpus (fun _ => 0) lcBesideRt 0 DSQ_TYPE_EMPTY 0
    IsLeast {t | LlcTier threeCpus lcBesideRt 0 t} r.1 := by
  have hlc : LlcTier threeCpus lcBesideRt 0 DSQ_TYPE_LC :=
    ⟨by decide, 2, ⟨by decide, by decide, by decide, by decide⟩, 7, by decide, by decide⟩
  have hempty : ∀ t, IsTier t → lcBesideRt.dsq (getCpuDsqFromType t 0) = [] := by
    intro t ht
    rcases isTier_cases ht with rfl | rfl | rfl | rfl
    all_goals decide
  have hnoRt : ∀ t, ¬RtTier threeCpus lcBesideRt 0 t := by
    rintro t ⟨ht, c, hc, p, hp, hallowed⟩
    have hpinned : ∀ c < 3, (lcBesideRt.dispatchState c).rtBusy →
        ∀ p ∈ lcBesideRt.dsq (getCpuDsqFromType t c), lcBesideRt.allowedOn 0 p = false := by
      rcases isTier_cases ht with rfl | rfl | rfl | rfl
      all_goals decide
    simp [hpinned c hc.1.1 hc.2.2.1 p hp] at hallowed
  refine (dispatchDsqPerCpu_idle_strict_iff (fun _ => 0) 0 (by decide) hempty ⟨_, hlc⟩).mpr
    (fun t ht => absurd ht.1 (hnoRt t)) ⟨DSQ_TYPE_LC, 2, 7, by decide, rfl⟩

end Lunar
