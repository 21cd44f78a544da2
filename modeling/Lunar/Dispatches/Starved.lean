import Lunar.Dispatches.Moves
import Lunar.Dispatches.Strict
import Lunar.Library.Scan

namespace Lunar

open Word64

def starveBudget (t : Nat) : Nat :=
  if t = DSQ_TYPE_INTERACTIVE then STARVE_BUDGET_INTERACTIVE_NS
  else if t = DSQ_TYPE_NORMAL then STARVE_BUDGET_NORMAL_NS
  else STARVE_BUDGET_GREEDY_NS

-- How long a tier has not been served, as a word.
def unservedFor (dctx : DispatchCtx) (now t : Nat) : Nat := sub now (dctx.tierHeadTs t)

-- A tier with tasks in the queue of cpu that has not been served for longer than its
-- budget. The overrun is a signed word.
structure Starved (s : Sched) (dctx : DispatchCtx) (cpu now t : Nat) : Prop where
  tier : DSQ_TYPE_INTERACTIVE ≤ t ∧ t ≤ DSQ_TYPE_GREEDY
  queued : s.dsq (getCpuDsqFromType t cpu) ≠ []
  unserved : starveBudget t < unservedFor dctx now t
  signed : unservedFor dctx now t < 2 ^ 63 + starveBudget t

-- By how much.
def overdue (dctx : DispatchCtx) (now t : Nat) : Nat := unservedFor dctx now t - starveBudget t

-- The one with the largest overrun, or the best of these.
structure MostStarved (s : Sched) (dctx : DispatchCtx) (cpu now t : Nat) : Prop where
  starved : Starved s dctx cpu now t
  most : ∀ t', Starved s dctx cpu now t' → overdue dctx now t' ≤ overdue dctx now t
  first : ∀ t', Starved s dctx cpu now t' → overdue dctx now t' = overdue dctx now t → t ≤ t'

-- The clock when a dispatch reads it.
structure ClockOk (dctx : DispatchCtx) (now : Nat) : Prop where
  word : now < 2 ^ 64
  last : dctx.lastOverrideTs ≤ now

section Search

variable {s : Sched} {dctx : DispatchCtx} {cpu now t : Nat}

theorem starveBudget_lt (t : Nat) : starveBudget t < 2 ^ 63 := by
  unfold starveBudget
  split_ifs <;> decide

theorem unservedFor_of_past (hword : now < 2 ^ 64) (hpast : dctx.tierHeadTs t ≤ now) :
    unservedFor dctx now t = now - dctx.tierHeadTs t := sub_eq_of_le hpast hword

-- A tier stamped after now, by another cpu, counts as just served. Only a stamp that is
-- almost 2^63 ns later looks old.
theorem not_starved_of_later (hword : dctx.tierHeadTs t < 2 ^ 64) (hlater : now < dctx.tierHeadTs t)
    (hle : dctx.tierHeadTs t + starveBudget t ≤ now + 2 ^ 63) : ¬Starved s dctx cpu now t := by
  intro h
  have hsigned := h.signed
  have hunserved : unservedFor dctx now t = 2 ^ 64 - (dctx.tierHeadTs t - now) := by
    unfold unservedFor sub
    rw [Nat.mod_eq_of_lt hword, Nat.mod_eq_of_lt (by omega)]
    omega
  omega

theorem tierOverrun_of_starved (h : Starved s dctx cpu now t) :
    tierOverrun s dctx t cpu now (starveBudget t) = overdue dctx now t := by
  have hqueued : dsqQueued s (getCpuDsqFromType t cpu) ≠ 0 := by simpa [dsqQueued] using h.queued
  rw [tierOverrun, if_neg hqueued]
  exact toSigned_sub (sub_lt _ _) (Nat.le_of_lt h.unserved) h.signed

theorem tierOverrun_pos_iff (ht : DSQ_TYPE_INTERACTIVE ≤ t ∧ t ≤ DSQ_TYPE_GREEDY) :
    0 < tierOverrun s dctx t cpu now (starveBudget t) ↔ Starved s dctx cpu now t := by
  have hpos := toSigned_sub_pos_iff (sub_lt now (dctx.tierHeadTs t)) (starveBudget_lt t)
  unfold tierOverrun
  split_ifs with hqueued
  · refine iff_of_false (Int.lt_irrefl 0) fun h => h.queued ?_
    simpa [dsqQueued] using hqueued
  · rw [hpos]
    constructor
    · rintro ⟨hunserved, hsigned⟩
      exact ⟨ht, by simpa [dsqQueued] using hqueued, hunserved, hsigned⟩
    · intro h
      exact ⟨h.unserved, h.signed⟩

theorem mostStarvedTier_eq_search (hcool : STARVE_OVERRIDE_COOLDOWN_NS ≤ sub now dctx.lastOverrideTs) :
    mostStarvedTier s dctx cpu now =
      (FirstMax.search (fun t => tierOverrun s dctx t cpu now (starveBudget t))
        [DSQ_TYPE_INTERACTIVE, DSQ_TYPE_NORMAL, DSQ_TYPE_GREEDY] (0, DSQ_TYPE_EMPTY)).2 := by
  rw [mostStarvedTier, if_neg (Nat.not_lt.mpr hcool)]
  rfl

-- What the three comparisons of most_starved_tier find.
theorem mostStarvedTier_cases (hclock : ClockOk dctx now)
    (hcool : STARVE_OVERRIDE_COOLDOWN_NS ≤ now - dctx.lastOverrideTs) :
    (mostStarvedTier s dctx cpu now = DSQ_TYPE_EMPTY ∧ ∀ t, ¬Starved s dctx cpu now t) ∨
      MostStarved s dctx cpu now (mostStarvedTier s dctx cpu now) := by
  have hsub : sub now dctx.lastOverrideTs = now - dctx.lastOverrideTs :=
    sub_eq_of_le hclock.last hclock.word
  rw [mostStarvedTier_eq_search (by rwa [hsub])]
  have hvalues := tier_values
  have hmem {t : Nat} : t ∈ [DSQ_TYPE_INTERACTIVE, DSQ_TYPE_NORMAL, DSQ_TYPE_GREEDY] ↔
      DSQ_TYPE_INTERACTIVE ≤ t ∧ t ≤ DSQ_TYPE_GREEDY := by
    simp only [List.mem_cons, List.not_mem_nil, or_false]
    omega
  have hsorted : [DSQ_TYPE_INTERACTIVE, DSQ_TYPE_NORMAL, DSQ_TYPE_GREEDY].Pairwise (· < ·) := by decide
  have hspec := FirstMax.search_spec (fun t => tierOverrun s dctx t cpu now (starveBudget t))
    [DSQ_TYPE_INTERACTIVE, DSQ_TYPE_NORMAL, DSQ_TYPE_GREEDY] (0, DSQ_TYPE_EMPTY)
  generalize [DSQ_TYPE_INTERACTIVE, DSQ_TYPE_NORMAL, DSQ_TYPE_GREEDY] = tiers at hspec hmem hsorted ⊢
  rcases hspec with ⟨hr, hle⟩ | ⟨front, a, back, rfl, hr, hpos, hfront, hback⟩
  · refine Or.inl ⟨by rw [hr], fun t ht => ?_⟩
    have hpos := (tierOverrun_pos_iff ht.tier).mpr ht
    exact absurd hpos (Int.not_lt.mpr (hle t (hmem.mpr ht.tier)))
  · rw [hr]
    dsimp only
    have hstarved := (tierOverrun_pos_iff (hmem.mp (by simp))).mp hpos
    simp only [tierOverrun_of_starved hstarved] at hfront hback
    refine Or.inr ⟨hstarved, fun t' ht' => ?_, fun t' ht' heq => ?_⟩
    · have hvalue := tierOverrun_of_starved ht'
      rcases List.mem_append.mp (hmem.mpr ht'.tier) with hin | hin
      · have := hfront t' hin
        omega
      · rcases List.mem_cons.mp hin with rfl | hin
        · exact Nat.le_refl _
        · have := hback t' hin
          omega
    · rcases List.mem_append.mp (hmem.mpr ht'.tier) with hin | hin
      · have hless := hfront t' hin
        rw [tierOverrun_of_starved ht', heq] at hless
        exact absurd hless (Int.lt_irrefl _)
      · rcases List.mem_cons.mp hin with rfl | hin
        · exact Nat.le_refl _
        · exact Nat.le_of_lt (List.rel_of_pairwise_cons (List.pairwise_append.mp hsorted).2.1 hin)

end Search

section Start

variable {m : Machine} {s : Sched} {cpu now : Nat}

-- No override is in progress: nothing is left of it, or its tier has no task.
def NotInProgress (s : Sched) (cpu : Nat) : Prop :=
  (s.dispatchState cpu).overrideLeft = 0 ∨
    s.dsq (getCpuDsqFromType (s.dispatchState cpu).overrideTier cpu) = []

-- With no LC task to take and no override in progress it is up to start_override.
theorem dispatchDsqPerCpu_of_notInProgress (rnd : Nat → Nat) (prevTier now : Nat)
    (hcpu : cpu < m.nrCpuIds) (hrt : ¬RtTier m s cpu DSQ_TYPE_LC) (hlc : ¬Waits s cpu DSQ_TYPE_LC cpu)
    (hprogress : NotInProgress s cpu) :
    dispatchDsqPerCpu m rnd s cpu prevTier now =
        (startOverride m (endOverride m s cpu) cpu now).getD
          (strictTiers m rnd (endOverride m s cpu) cpu prevTier now) ∧
      (overridePath m rnd s cpu now = .started ↔
        (startOverride m (endOverride m s cpu) cpu now).isSome) := by
  have hrtTake : tryAcquireFromRtCpu m (rnd 0) s DSQ_TYPE_LC cpu now = none := by
    by_contra hne
    obtain ⟨s', hs'⟩ := Option.ne_none_iff_exists'.mp hne
    obtain ⟨c, hc, htake⟩ := (takes_rt m (rnd 0) s DSQ_TYPE_LC cpu now).1 s' hs'
    exact hrt ⟨by decide, c, hc, .of_takenFrom htake⟩
  have hlcTake : takeFromLocalTier m s DSQ_TYPE_LC cpu now = none := by
    rw [takeFromLocalTier_eq]
    exact takeAt_eq_none.mpr hlc
  have hcontinue : continueOverride m s cpu now = none := continueOverride_eq_none hcpu hprogress
  constructor
  · simp only [dispatchDsqPerCpu, hrtTake, hlcTake, hcontinue, returnIf]
    cases startOverride m (endOverride m s cpu) cpu now with
    | some taken => rfl
    | none => rfl
  · simp [overridePath, hrtTake, hlcTake, hcontinue, Option.isSome_iff_ne_none]

-- p, the head of the queue of the starved tier t, has moved to the local DSQ, and the
-- override has begun.
def overrideStarted (m : Machine) (s : Sched) (cpu now t : Nat) (p : Task) : Sched :=
  (s.moveTo cpu (getCpuDsqFromType t cpu) p).updDispatchCtx m cpu fun dctx =>
    { dctx with
      tierHeadTs := Function.update dctx.tierHeadTs t now
      lastOverrideTs := now
      overrideTier := t
      overrideLeft := STARVE_OVERRIDE_BUDGET_NS }

theorem takeAt_head {t : Nat} {p : Task} {rest : List Task}
    (hqueue : s.dsq (getCpuDsqFromType t cpu) = p :: rest) (hallowed : s.allowedOn cpu p) :
    takeAt m s cpu t now cpu =
      some ((s.moveTo cpu (getCpuDsqFromType t cpu) p).updDispatchCtx m cpu fun dctx =>
        stampTierHeadTs dctx t now) := by
  refine takeAt_eq_some.mpr ⟨p, ?_, rfl⟩
  rw [hqueue, List.find?_cons_of_pos hallowed]

theorem armOverride_stamped (hcpu : cpu < m.nrCpuIds) {t : Nat}
    (ht : DSQ_TYPE_INTERACTIVE ≤ t ∧ t ≤ DSQ_TYPE_GREEDY) (p : Task) :
    (((endOverride m s cpu).moveTo cpu (getCpuDsqFromType t cpu) p).updDispatchCtx m cpu fun dctx =>
      stampTierHeadTs dctx t now).updDispatchCtx m cpu (fun dctx => armOverride dctx t now) =
    overrideStarted m s cpu now t p := by
  have hvalues := tier_values
  have hheads (dctx : DispatchCtx) : stampTierHeadTs dctx t now =
      { dctx with tierHeadTs := Function.update dctx.tierHeadTs t now } := by
    rw [stampTierHeadTs_eq dctx ⟨by omega, ht.2⟩]
    congr 1
    funext t'
    rw [Function.update_apply]
    exact if_congr (and_iff_left (by omega)) rfl rfl
  simp only [overrideStarted, endOverride, Sched.updDispatchCtx, if_pos hcpu, hheads, armOverride,
    Sched.moveTo, Sched.setTask, Sched.setDsq, Function.update_idem, Function.update_self]
  rfl

theorem startOverride_of_starved (hcpu : cpu < m.nrCpuIds)
    (hallowed : ∀ t, IsTier t → ∀ p ∈ s.dsq (getCpuDsqFromType t cpu), s.allowedOn cpu p) {t : Nat}
    (ht : Starved s (s.dispatchState cpu) cpu now t)
    (hmost : mostStarvedTier s (s.dispatchState cpu) cpu now = t) :
    ∃ p rest, s.dsq (getCpuDsqFromType t cpu) = p :: rest ∧
      startOverride m (endOverride m s cpu) cpu now = some (t, overrideStarted m s cpu now t p) := by
  have hvalues := tier_values
  have htier := ht.tier
  obtain ⟨p, rest, hqueue⟩ := List.exists_cons_of_ne_nil ht.queued
  have hp : s.allowedOn cpu p := hallowed t ⟨by omega, htier.2⟩ p (hqueue ▸ List.mem_cons_self)
  refine ⟨p, rest, hqueue, ?_⟩
  have hchosen := (mostStarvedTier_endOverride m s cpu now hcpu).trans hmost
  have htake : takeAt m (endOverride m s cpu) cpu t now cpu = _ :=
    takeAt_head (by simpa using hqueue) (by simpa using hp)
  unfold startOverride
  rw [Sched.getDispatchCtx, if_pos hcpu]
  dsimp only
  rw [hchosen, if_neg (by omega), takeFromLocalTier_eq, htake, Option.map_some,
    armOverride_stamped hcpu htier]

theorem endOverride_idem (m : Machine) (s : Sched) (cpu : Nat) :
    endOverride m (endOverride m s cpu) cpu = endOverride m s cpu := by
  unfold endOverride Sched.updDispatchCtx
  split_ifs
  · simp [Function.update_idem]
  · rfl

-- What comes after the override leaves it alone.
theorem strictTiers_sameOverride (rnd : Nat → Nat) (prevTier : Nat) (hcpu : cpu < m.nrCpuIds) :
    SameOverride { s.dispatchState cpu with overrideLeft := 0 }
      ((strictTiers m rnd (endOverride m s cpu) cpu prevTier now).2.dispatchState cpu) := by
  have hended : (endOverride m s cpu).dispatchState cpu =
      { s.dispatchState cpu with overrideLeft := 0 } := Sched.updDispatchCtx_same m s _ _ hcpu
  have hserved := (strictTiers_served m rnd (endOverride m s cpu) cpu prevTier now).dispatched
    (endOverride_idem m s cpu).symm (places_source m (endOverride m s cpu) cpu prevTier)
    (by simpa only [endOverride_idem] using
      dispatched_unserved m (endOverride m s cpu) cpu prevTier now)
  have hchange := hserved.override hcpu
  rw [hended] at hchange
  cases hchange with
  | kept h => exact h
  | ended h => exact h

end Start

-- With no LC task to take and no override in progress, a dispatch starts an override if
-- and only if a tier is starved and the last override is long enough ago, whatever runs
-- and waits otherwise. The most starved tier gets it.
theorem starvation_override {m : Machine} {s : Sched} {cpu now : Nat} (rnd : Nat → Nat) (prevTier : Nat)
    (hcpu : cpu < m.nrCpuIds) (hclock : ClockOk (s.dispatchState cpu) now)
    (hallowed : ∀ t, IsTier t → ∀ p ∈ s.dsq (getCpuDsqFromType t cpu), s.allowedOn cpu p)
    (hrt : ¬RtTier m s cpu DSQ_TYPE_LC) (hlc : ¬Waits s cpu DSQ_TYPE_LC cpu)
    (hprogress : NotInProgress s cpu) :
    let dctx := s.dispatchState cpu
    let r := dispatchDsqPerCpu m rnd s cpu prevTier now
    (overridePath m rnd s cpu now = .started ↔
      STARVE_OVERRIDE_COOLDOWN_NS ≤ now - dctx.lastOverrideTs ∧ ∃ t, Starved s dctx cpu now t) ∧
    (overridePath m rnd s cpu now = .started → ∃ t p rest, MostStarved s dctx cpu now t ∧
      s.dsq (getCpuDsqFromType t cpu) = p :: rest ∧ r = (t, overrideStarted m s cpu now t p)) ∧
    (overridePath m rnd s cpu now ≠ .started →
      SameOverride { dctx with overrideLeft := 0 } (r.2.dispatchState cpu)) := by
  obtain ⟨hr, hpath⟩ :=
    dispatchDsqPerCpu_of_notInProgress rnd prevTier now hcpu hrt hlc hprogress
  have hchosen := mostStarvedTier_endOverride m s cpu now hcpu
  -- Where no tier is chosen, the override of before is over and no other begins.
  have hnone (h : mostStarvedTier s (s.dispatchState cpu) cpu now = DSQ_TYPE_EMPTY) :
      startOverride m (endOverride m s cpu) cpu now = none := by
    rw [startOverride, Sched.getDispatchCtx, if_pos hcpu]
    dsimp only
    rw [hchosen, if_pos h]
  have hsome (h : MostStarved s (s.dispatchState cpu) cpu now
      (mostStarvedTier s (s.dispatchState cpu) cpu now)) :
      ∃ t p rest, MostStarved s (s.dispatchState cpu) cpu now t ∧
        s.dsq (getCpuDsqFromType t cpu) = p :: rest ∧
        startOverride m (endOverride m s cpu) cpu now = some (t, overrideStarted m s cpu now t p) := by
    obtain ⟨p, rest, hqueue, hstart⟩ := startOverride_of_starved hcpu hallowed h.starved rfl
    exact ⟨_, p, rest, h, hqueue, hstart⟩
  have hkept (h : startOverride m (endOverride m s cpu) cpu now = none) :
      overridePath m rnd s cpu now ≠ .started ∧ SameOverride { s.dispatchState cpu with overrideLeft := 0 }
        ((dispatchDsqPerCpu m rnd s cpu prevTier now).2.dispatchState cpu) := by
    rw [Ne, hpath, hr, h]
    exact ⟨by simp, strictTiers_sameOverride rnd prevTier hcpu⟩
  dsimp only
  by_cases hcool : STARVE_OVERRIDE_COOLDOWN_NS ≤ now - (s.dispatchState cpu).lastOverrideTs
  · rcases mostStarvedTier_cases hclock hcool with ⟨hempty, hno⟩ | hmost
    · obtain ⟨hnot, hsame⟩ := hkept (hnone hempty)
      exact ⟨iff_of_false hnot fun h => h.2.elim hno, fun h => absurd h hnot, fun _ => hsame⟩
    · obtain ⟨t, p, rest, ht, hqueue, hstart⟩ := hsome hmost
      have hstarted : overridePath m rnd s cpu now = .started := hpath.mpr (by rw [hstart]; rfl)
      refine ⟨iff_of_true hstarted ⟨hcool, t, ht.starved⟩, fun _ => ⟨t, p, rest, ht, hqueue, ?_⟩,
        fun h => absurd hstarted h⟩
      rw [hr, hstart]
      rfl
  · have hearly : mostStarvedTier s (s.dispatchState cpu) cpu now = DSQ_TYPE_EMPTY := by
      rw [mostStarvedTier, if_pos]
      rw [sub_eq_of_le hclock.last hclock.word]
      omega
    obtain ⟨hnot, hsame⟩ := hkept (hnone hearly)
    exact ⟨iff_of_false hnot fun h => hcool h.1, fun h => absurd h hnot, fun _ => hsame⟩

section Starving

-- On cpu 0 task 5 is INTERACTIVE, the tasks 1 and 2 are GREEDY. Of the clocks only that of
-- INTERACTIVE was set after the start.
def starving : Sched :=
  { Sched.zeroed with
    task := fun _ => { TaskStruct.zeroed with cpusPtr := fun _ => true }
    dispatchState := fun _ => { DispatchCtx.zeroed with
      tierHeadTs := fun t => if t = DSQ_TYPE_INTERACTIVE then 90 * NS_PER_MS else 0 }
    dsq := fun id =>
      if id = getCpuDsqFromType DSQ_TYPE_INTERACTIVE 0 then [5]
      else if id = getCpuDsqFromType DSQ_TYPE_GREEDY 0 then [1, 2]
      else [] }

theorem starving_allowed (p : Task) : starving.allowedOn 0 p := rfl

theorem starving_no_lc : ¬RtTier threeCpus starving 0 DSQ_TYPE_LC ∧ ¬Waits starving 0 DSQ_TYPE_LC 0 := by
  constructor
  · rintro ⟨-, c, hrt, -⟩
    exact hrt.2.1 rfl
  · rintro ⟨p, hp, -⟩
    revert hp
    exact List.not_mem_nil

theorem starving_clock {now : Nat} (hword : now < 2 ^ 64) : ClockOk (starving.dispatchState 0) now where
  word := hword
  last := Nat.zero_le now

-- After 100 ms GREEDY is served first, although an INTERACTIVE task waits.
theorem starvation_override_starving :
    ∃ t p rest, MostStarved starving (starving.dispatchState 0) 0 (100 * NS_PER_MS) t ∧
      starving.dsq (getCpuDsqFromType t 0) = p :: rest ∧
      dispatchDsqPerCpu threeCpus (fun _ => 0) starving 0 DSQ_TYPE_GREEDY (100 * NS_PER_MS) =
        (t, overrideStarted threeCpus starving 0 (100 * NS_PER_MS) t p) :=
  (starvation_override (fun _ => 0) DSQ_TYPE_GREEDY (by decide) (starving_clock (by decide))
    (fun _ _ p _ => starving_allowed p) starving_no_lc.1 starving_no_lc.2 (Or.inl rfl)).2.1
    (by decide +kernel)

-- After 2^63 + 2^62 ns it is not, as the signed difference is negative.
theorem starvation_override_negative : ∃ now < 2 ^ 64, ClockOk (starving.dispatchState 0) now ∧
    (∀ t, IsTier t → ∀ p ∈ starving.dsq (getCpuDsqFromType t 0), starving.allowedOn 0 p) ∧
    ¬RtTier threeCpus starving 0 DSQ_TYPE_LC ∧ ¬Waits starving 0 DSQ_TYPE_LC 0 ∧
    NotInProgress starving 0 ∧
    STARVE_OVERRIDE_COOLDOWN_NS ≤ now - (starving.dispatchState 0).lastOverrideTs ∧
    starving.dsq (getCpuDsqFromType DSQ_TYPE_GREEDY 0) ≠ [] ∧
    STARVE_BUDGET_GREEDY_NS < now - (starving.dispatchState 0).tierHeadTs DSQ_TYPE_GREEDY ∧
    let r := dispatchDsqPerCpu threeCpus (fun _ => 0) starving 0 DSQ_TYPE_EMPTY now
    overridePath threeCpus (fun _ => 0) starving 0 now ≠ .started ∧ r.1 = DSQ_TYPE_INTERACTIVE ∧
      (r.2.dispatchState 0).lastOverrideTs = 0 ∧ (r.2.dispatchState 0).overrideLeft = 0 :=
  ⟨2 ^ 63 + 2 ^ 62, by decide, starving_clock (by decide), fun _ _ p _ => starving_allowed p,
    starving_no_lc.1, starving_no_lc.2, Or.inl rfl, by decide, by decide, by decide,
    by decide +kernel, by decide +kernel, by decide +kernel, by decide +kernel⟩

end Starving

end Lunar
