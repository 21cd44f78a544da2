import Lunar.Dispatches.Starved
import Lunar.Kernel.OverrideBudget
import Lunar.Library.Counting
import Mathlib.Order.Interval.Finset.Nat

namespace Lunar

-- Whose turn it is when an override starts: a tier that waits past its budget lets every
-- other tier go first at most once.

structure TurnLog where
  -- the tiers that overrides were started for, the latest first
  served : List Nat
  -- dispatches that could not but start an override
  due : Nat
deriving DecidableEq, Repr

def TurnLog.empty : TurnLog := ⟨[], 0⟩

-- No LC task can be taken, no override is in progress, and the last one is long enough ago.
def OverrideDue (m : Machine) (c : Nat) (sys : Sys) : Event → Prop
  | .dispatch k cpu prev _ =>
      let s := (dispatchArgs m k c prev sys.sched).2
      cpu = c ∧ (∀ d < m.nrCpuIds, RtTaken m s c d → ¬Waits s c DSQ_TYPE_LC d) ∧
        ¬Waits s c DSQ_TYPE_LC c ∧ NotInProgress s c ∧
        STARVE_OVERRIDE_COOLDOWN_NS ≤ k.now - (s.dispatchState c).lastOverrideTs
  | .initTask .. | .setAttributes .. | .selectCpu .. | .runnable .. | .enqueue .. | .enqueueLocal ..
  | .insertDirect .. | .restore .. | .putBack .. | .consumeSlice .. | .running .. | .stopping ..
  | .quiescent .. | .schedSwitch .. => False

instance (s : Sched) (cpu : Nat) : Decidable (NotInProgress s cpu) := inferInstanceAs (Decidable (_ ∨ _))

instance (m : Machine) (c : Nat) (sys : Sys) : ∀ event, Decidable (OverrideDue m c sys event)
  | .dispatch _ _ _ _ => inferInstanceAs (Decidable (_ ∧ _))
  | .initTask .. | .setAttributes .. | .selectCpu .. | .runnable .. | .enqueue .. | .enqueueLocal ..
  | .insertDirect .. | .restore .. | .putBack .. | .consumeSlice .. | .running .. | .stopping ..
  | .quiescent .. | .schedSwitch .. => inferInstanceAs (Decidable False)

def StartsOverride (m : Machine) (c : Nat) (sys : Sys) : Event → Prop
  | .dispatch k cpu prev rnd => cpu = c ∧ sys.overridePath m k c prev rnd = .started
  | .initTask .. | .setAttributes .. | .selectCpu .. | .runnable .. | .enqueue .. | .enqueueLocal ..
  | .insertDirect .. | .restore .. | .putBack .. | .consumeSlice .. | .running .. | .stopping ..
  | .quiescent .. | .schedSwitch .. => False

instance (m : Machine) (c : Nat) (sys : Sys) : ∀ event, Decidable (StartsOverride m c sys event)
  | .dispatch _ _ _ _ => inferInstanceAs (Decidable (_ ∧ _))
  | .initTask .. | .setAttributes .. | .selectCpu .. | .runnable .. | .enqueue .. | .enqueueLocal ..
  | .insertDirect .. | .restore .. | .putBack .. | .consumeSlice .. | .running .. | .stopping ..
  | .quiescent .. | .schedSwitch .. => inferInstanceAs (Decidable False)

def watchTurns (m : Machine) (c : Nat) (log : TurnLog) (sys : Sys) (event : Event) (sys' : Sys) :
    TurnLog where
  served := if StartsOverride m c sys event then (sys'.sched.dispatchState c).overrideTier :: log.served
    else log.served
  due := log.due + if OverrideDue m c sys event then 1 else 0

-- The tier keeps tasks in its queue, and none of them is taken.
def GoesUnserved (m : Machine) (t c : Nat) (state : Sys × TurnLog) (event : Event) : Prop :=
  let sys' := (lunarSys m).exec state.1 event
  sys'.queue t c ≠ [] ∧ sys'.headTs t c = state.1.headTs t c

instance (m : Machine) (t c : Nat) (state : Sys × TurnLog) (event : Event) :
    Decidable (GoesUnserved m t c state event) := inferInstanceAs (Decidable (_ ∧ _))

def turnSys (m : Machine) (t c : Nat) : TransitionSystem (Sys × TurnLog) Event :=
  ((lunarSys m).observe (watchTurns m c)).restrict (GoesUnserved m t c)

instance (m : Machine) (t c : Nat) (state : Sys × TurnLog) (event : Event) :
    Decidable ((turnSys m t c).enabled state event) := inferInstanceAs (Decidable (_ ∧ _))

-- When the turn of a tier comes.
def Sys.turnDue (sys : Sys) (c t : Nat) : Nat := sys.headTs t c + starveBudget t

section Search

variable {m : Machine} {s : Sched} {dctx : DispatchCtx} {cpu now : Nat}

-- What a dispatch that starts an override takes.
theorem dispatchDsqPerCpu_of_started {rnd : Nat → Nat} (h : overridePath m rnd s cpu now = .started)
    (prevTier : Nat) : startOverride m (endOverride m s cpu) cpu now =
      some (dispatchDsqPerCpu m rnd s cpu prevTier now) := by
  unfold overridePath at h
  unfold dispatchDsqPerCpu
  cases hrt : tryAcquireFromRtCpu m (rnd 0) s DSQ_TYPE_LC cpu now with
  | some s' => simp [hrt] at h
  | none =>
      cases hlc : takeFromLocalTier m s DSQ_TYPE_LC cpu now with
      | some s' => simp [hrt, hlc] at h
      | none =>
          cases hcontinue : continueOverride m s cpu now with
          | some r => simp [hrt, hlc, hcontinue] at h
          | none =>
              cases hstart : startOverride m (endOverride m s cpu) cpu now with
              | none => simp [hrt, hlc, hcontinue, hstart] at h
              | some r => simp [returnIf, hstart]

-- The tier whose turn was due first gets the override, and then waits for its next turn.
theorem startOverride_first (hcpu : cpu < m.nrCpuIds) (hword : now < 2 ^ 63)
    (hlast : (s.dispatchState cpu).lastOverrideTs ≤ now)
    (hheads : ∀ t, Starvable t → (s.dispatchState cpu).tierHeadTs t ≤ now)
    (hallowed : ∀ t, IsTier t → ∀ p ∈ s.dsq (getCpuDsqFromType t cpu), s.allowedOn cpu p) {t : Nat}
    (ht : Starved s (s.dispatchState cpu) cpu now t) :
    (STARVE_OVERRIDE_COOLDOWN_NS ≤ now - (s.dispatchState cpu).lastOverrideTs →
      (startOverride m (endOverride m s cpu) cpu now).isSome) ∧
    ∀ taken, startOverride m (endOverride m s cpu) cpu now = some taken →
      Starvable taken.1 ∧
      (s.dispatchState cpu).tierHeadTs taken.1 + starveBudget taken.1 ≤
        (s.dispatchState cpu).tierHeadTs t + starveBudget t ∧
      (taken.2.dispatchState cpu).tierHeadTs taken.1 = now ∧
      (taken.2.dispatchState cpu).overrideTier = taken.1 := by
  have hvalues := tier_values
  by_cases hcool : STARVE_OVERRIDE_COOLDOWN_NS ≤ now - (s.dispatchState cpu).lastOverrideTs
  · rcases mostStarvedTier_cases ⟨by omega, hlast⟩ hcool with ⟨-, hnone⟩ | hmost
    · exact absurd ht (hnone t)
    · obtain ⟨p, rest, -, hstart⟩ := startOverride_of_starved hcpu hallowed hmost.starved rfl
      refine ⟨fun _ => by rw [hstart]; rfl, fun taken htaken => ?_⟩
      obtain rfl := Option.some.inj (hstart.symm.trans htaken)
      have hless := hmost.most t ht
      have hunserved := hmost.starved.unserved
      have htunserved := ht.unserved
      have hheadOf {r : Nat} (hr : Starvable r) :=
        unservedFor_of_past (by omega : now < 2 ^ 64) (hheads r hr)
      unfold overdue at hless
      rw [hheadOf hmost.starved.tier] at hless hunserved
      rw [hheadOf ht.tier] at hless htunserved
      refine ⟨hmost.starved.tier, by dsimp only; omega, ?_, ?_⟩
      · simp [overrideStarted, Sched.updDispatchCtx_same m _ _ _ hcpu]
      · simp [overrideStarted, Sched.updDispatchCtx_same m _ _ _ hcpu]
  · refine ⟨fun h => absurd h hcool, fun taken htaken => ?_⟩
    have hearly : mostStarvedTier s (s.dispatchState cpu) cpu now = DSQ_TYPE_EMPTY := by
      rw [mostStarvedTier, if_pos]
      rw [Word64.sub_eq_of_le hlast (by omega)]
      omega
    rw [startOverride, Sched.getDispatchCtx, if_pos hcpu] at htaken
    dsimp only at htaken
    rw [mostStarvedTier_endOverride m s cpu now hcpu, if_pos hearly] at htaken
    cases htaken

end Search

section Turns

variable {m : Machine} {sys sys' : Sys} {event : Event} {t c : Nat}

theorem DispatchStep.restamped {k : Call} {cpu : Nat} {path : OverridePath}
    (hs : DispatchStep m k cpu path sys sys') :
    sys'.headTs t c = sys.headTs t c ∨ sys'.headTs t c = k.now := by
  have hstamp {s s' : Sched} {r d : Nat} {q : Task} (hm : Moved m s cpu r d k.now q s') :
      (s'.dispatchState c).tierHeadTs t = (s.dispatchState c).tierHeadTs t ∨
        (s'.dispatchState c).tierHeadTs t = k.now := by
    rw [hm.heads]
    split_ifs
    · exact Or.inr rfl
    · exact Or.inl rfl
  cases hs with
  | idle _ hd _ =>
      rcases hd.moved_or_unmoved with ⟨d, q, hm⟩ | ⟨-, hu⟩
      · exact hstamp hm
      · exact Or.inl (congrFun (hu.heads c) t)
  | replaced _ _ hacc _ hm _ => exact hstamp (hacc.unmoved.moved hm)
  | continued _ _ hacc _ hc _ =>
      refine Or.inl (congrFun (Eq.trans ?_ (hacc.unmoved.heads c)) t)
      rw [hc.dispatchState]
      by_cases he : c = cpu
      · rw [he, Function.update_self]
      · rw [Function.update_of_ne he]

-- A head is stamped with the time of the event, if at all.
theorem Step.restamped (hs : Step m sys sys' event) (hinv : Inv m sys)
    (htime : sys'.clock = event.time sys.clock) (ht : Starvable t) :
    sys'.headTs t c = sys.headTs t c ∨ sys'.headTs t c = sys'.clock := by
  by_cases htakes : TakesHeads m sys sys' event
  · rcases hs.stamped (c := c) hinv htime htakes ht with hsame | ⟨hnow, -⟩
    · exact Or.inl hsame
    · exact Or.inr hnow
  · cases hs with
    | dispatch _ _ _ _ _ h =>
        rw [htime]
        exact h.restamped
    | _ => exact absurd trivial htakes

-- The clocks of a cpu never show a time to come.
structure TurnsOk (c : Nat) (sys : Sys) : Prop where
  rate : ∃ log, RateOk (sys.sched.dispatchState c) log sys.clock
  heads : ∀ t, Starvable t → sys.headTs t c ≤ sys.clock

theorem TurnsOk.step (h : TurnsOk c sys) (hinv : Inv m sys) (hc : c < m.nrCpuIds) (hs : Step m sys sys' event)
    (hclock : sys.clock ≤ sys'.clock) (htime : sys'.clock = event.time sys.clock) : TurnsOk c sys' where
  rate := by
    obtain ⟨log, hrate⟩ := h.rate
    exact ⟨_, hrate.step hinv hc hs hclock htime⟩
  heads t ht := by
    rcases hs.restamped (c := c) hinv htime ht with hsame | hnow
    · exact hsame ▸ Nat.le_trans (h.heads t ht) hclock
    · exact Nat.le_of_eq hnow

theorem TurnsOk.reaches {start : Sys} (hstart : Sys.Start m start) (hc : c < m.nrCpuIds)
    (hreach : (lunarSys m).Reaches start sys) : TurnsOk c sys := by
  suffices h : Inv m sys ∧ TurnsOk c sys from h.2
  have hheads : HeadsOk m start fun _ _ => 0 := HeadsOk.start hstart
  refine (lunarSys m).invariant_of_reaches (P := fun sys => Inv m sys ∧ TurnsOk c sys) ?_
    ⟨Inv.start hstart, ⟨_, RateOk.start hstart hc⟩,
      fun t ht => hheads.past t c ht hc⟩ hreach
  rintro state event ⟨hinv, hok⟩ he
  have hs := hinv.stepped he
  exact ⟨hinv.step hs, hok.step hinv hc hs he.1 rfl⟩

theorem dispatchArgs_lastOverrideTs (k : Call) (cpu : Nat) (prev : Option Task) (s : Sched) :
    ((dispatchArgs m k cpu prev s).2.dispatchState c).lastOverrideTs = (s.dispatchState c).lastOverrideTs := by
  unfold dispatchArgs
  split
  · rfl
  · exact s.updDispatchCtx_field m cpu _ (·.lastOverrideTs) (fun dctx => by rw [chargeOverride_eq]) c

-- A dispatch of a cpu where t starves.
theorem Inv.turn (h : Inv m sys) (hok : TurnsOk c sys) (hc : c < m.nrCpuIds)
    {k : Call} {prev : Option Task} {rnd : Nat → Nat}
    (he : (lunarSys m).enabled sys (.dispatch k c prev rnd)) (hword : k.now < 2 ^ 63) (ht : Starvable t)
    (hqueue : sys.queue t c ≠ []) (hlate : sys.turnDue c t < k.now) :
    let sys' := (lunarSys m).exec sys (.dispatch k c prev rnd)
    (OverrideDue m c sys (.dispatch k c prev rnd) → sys.overridePath m k c prev rnd = .started) ∧
    (sys.overridePath m k c prev rnd = .started → ∃ r, Starvable r ∧
      (sys'.sched.dispatchState c).overrideTier = r ∧ sys.turnDue c r ≤ sys.turnDue c t ∧
      sys'.headTs r c = k.now) := by
  have hnow : sys.clock ≤ k.now := he.1
  have hvalues := tier_values
  obtain ⟨s, hs⟩ : ∃ s, s = (dispatchArgs m k c prev sys.sched).2 := ⟨_, rfl⟩
  have hu : Unmoved sys.sched s := hs ▸ dispatchArgs_unmoved m k c prev sys.sched
  have hhead (t : Nat) : (s.dispatchState c).tierHeadTs t = sys.headTs t c := congrFun (hu.heads c) t
  have hlast : (s.dispatchState c).lastOverrideTs ≤ k.now := by
    obtain ⟨log, hrate⟩ := hok.rate
    rw [hs, dispatchArgs_lastOverrideTs]
    exact Nat.le_trans hrate.past hnow
  have hallowed (r : Nat) (hr : IsTier r) (p : Task) (hp : p ∈ s.dsq (getCpuDsqFromType r c)) :
      s.allowedOn c p := by
    rw [hu.dsq] at hp
    have := h.own_allowed hc r hr p hp
    rwa [Sched.allowedOn, hu.task]
  have hstarved : Starved s (s.dispatchState c) c k.now t := by
    have hpast : (s.dispatchState c).tierHeadTs t ≤ k.now :=
      (hhead t).symm ▸ Nat.le_trans (hok.heads t ht) hnow
    have hunserved := unservedFor_of_past (by omega : k.now < 2 ^ 64) hpast
    rw [hhead] at hunserved
    unfold Sys.turnDue at hlate
    exact ⟨ht, by rwa [hu.dsq], by omega, by omega⟩
  obtain ⟨hdue, hfirst⟩ := startOverride_first (m := m) hc hword hlast
    (fun r hr => (hhead r).symm ▸ Nat.le_trans (hok.heads r hr) hnow) hallowed hstarved
  dsimp only
  constructor
  · rintro ⟨-, hrt, hlc, hprogress, hcool⟩
    rw [← hs] at hrt hlc hprogress hcool
    have hnrt : ¬RtTier m s c DSQ_TYPE_LC := by
      rintro ⟨-, d, hd, hw⟩
      exact hrt d hd.1.1 hd hw
    obtain ⟨-, hpath⟩ := dispatchDsqPerCpu_of_notInProgress rnd
      (dispatchArgs m k c prev sys.sched).1 k.now hc hnrt hlc hprogress
    rw [Sys.overridePath, ← hs]
    exact hpath.mpr (hdue hcool)
  · intro hpath
    rw [Sys.overridePath, ← hs] at hpath
    have htaken := dispatchDsqPerCpu_of_started hpath (dispatchArgs m k c prev sys.sched).1
    obtain ⟨hr, hle, hstamp, htier⟩ := hfirst _ htaken
    simp only [hhead] at hle
    refine ⟨_, hr, ?_⟩
    rw [hs] at hr hle hstamp htier ⊢
    have hsched : ((lunarSys m).exec sys (.dispatch k c prev rnd)).sched =
        (dispatchDsqPerCpu m rnd (dispatchArgs m k c prev sys.sched).2 c
          (dispatchArgs m k c prev sys.sched).1 k.now).2 := by
      rcases lunarDispatch_eq m k k.now rnd c prev sys.sched with ⟨-, hd⟩ | ⟨p, pctx, -, hd, -⟩
      · exact hd
      · rw [hd] at hr
        have := hr.2
        omega
    unfold Sys.headTs
    rw [hsched]
    exact ⟨htier, hle, hstamp⟩

-- The tiers that had a turn while t starves, and how often that was.
structure TurnsFair (t c : Nat) (sys : Sys) (log : TurnLog) : Prop extends TurnsOk c sys where
  queue : sys.queue t c ≠ []
  late : sys.turnDue c t < sys.clock
  fair : Aging.Fair (sys.turnDue c) t log.served
  tiers : ∀ r ∈ log.served, Starvable r
  due : log.due ≤ log.served.length

-- Only a dispatch of the cpu starts an override.
theorem watchTurns_other (log : TurnLog) (sys sys' : Sys) (hevent : ¬∃ k prev rnd, event = .dispatch k c prev rnd) :
    watchTurns m c log sys event sys' = log := by
  have hstarts : ¬StartsOverride m c sys event := by
    cases event with
    | dispatch k cpu prev rnd =>
        rintro ⟨rfl, -⟩
        exact hevent ⟨k, prev, rnd, rfl⟩
    | _ => exact id
  have hdue : ¬OverrideDue m c sys event := by
    cases event with
    | dispatch k cpu prev rnd =>
        rintro ⟨rfl, -⟩
        exact hevent ⟨k, prev, rnd, rfl⟩
    | _ => exact id
  rw [watchTurns, if_neg hstarts, if_neg hdue, Nat.add_zero]

theorem TurnsFair.step {log : TurnLog} (h : TurnsFair t c sys log) (hinv : Inv m sys) (hc : c < m.nrCpuIds)
    (ht : Starvable t) (he : (lunarSys m).enabled sys event) (hstay : GoesUnserved m t c (sys, log) event)
    (hword : ((lunarSys m).exec sys event).clock < 2 ^ 63) :
    TurnsFair t c ((lunarSys m).exec sys event)
      (watchTurns m c log sys event ((lunarSys m).exec sys event)) := by
  have hs := hinv.stepped he
  have hclock : sys.clock ≤ ((lunarSys m).exec sys event).clock := he.1
  obtain ⟨hqueue, hhead⟩ := hstay
  have hsame : ((lunarSys m).exec sys event).turnDue c t = sys.turnDue c t := by
    unfold Sys.turnDue
    rw [hhead]
  have hlate := h.late
  have hback (r : Nat) (hr : r ∈ log.served) :
      sys.turnDue c r ≤ ((lunarSys m).exec sys event).turnDue c r := by
    have hpast := h.heads r (h.tiers r hr)
    unfold Sys.turnDue
    rcases hs.restamped (c := c) hinv rfl (h.tiers r hr) with hsame | hnow
    · omega
    · omega
  have hok : TurnsOk c ((lunarSys m).exec sys event) := h.toTurnsOk.step hinv hc hs hclock rfl
  by_cases hevent : ∃ k prev rnd, event = .dispatch k c prev rnd
  · obtain ⟨k, prev, rnd, rfl⟩ := hevent
    have hlate' : sys.turnDue c t < k.now := Nat.lt_of_lt_of_le hlate hclock
    obtain ⟨hdue, hfirst⟩ := hinv.turn h.toTurnsOk hc he hword ht h.queue hlate'
    by_cases hpath : sys.overridePath m k c prev rnd = .started
    · obtain ⟨r, hr, htier, hle, hstamp⟩ := hfirst hpath
      have hserved : (watchTurns m c log sys (.dispatch k c prev rnd)
          ((lunarSys m).exec sys (.dispatch k c prev rnd))).served = r :: log.served := by
        rw [watchTurns, if_pos ⟨rfl, hpath⟩, htier]
      refine ⟨hok, hqueue, hsame ▸ hlate', ?_, ?_, ?_⟩
      · rw [hserved]
        refine h.fair.pick hle hsame hback ?_
        rw [Sys.turnDue, Sys.turnDue, hstamp]
        unfold Sys.turnDue at hlate'
        omega
      · rw [hserved]
        exact List.forall_mem_cons.mpr ⟨hr, h.tiers⟩
      · rw [hserved, List.length_cons]
        have := h.due
        simp only [watchTurns]
        split_ifs
        · omega
        · omega
    · have hserved : (watchTurns m c log sys (.dispatch k c prev rnd)
          ((lunarSys m).exec sys (.dispatch k c prev rnd))).served = log.served := by
        rw [watchTurns, if_neg fun hstarts => hpath hstarts.2]
      refine ⟨hok, hqueue, hsame ▸ hlate', ?_, hserved ▸ h.tiers, ?_⟩
      · rw [hserved]
        exact h.fair.wait hsame hback
      · rw [hserved]
        simp only [watchTurns, if_neg fun hd => hpath (hdue hd), Nat.add_zero]
        exact h.due
  · have hquiet := watchTurns_other (m := m) (c := c) log sys ((lunarSys m).exec sys event) hevent
    rw [hquiet]
    exact ⟨hok, hqueue, hsame ▸ Nat.lt_of_lt_of_le hlate hclock, h.fair.wait hsame hback, h.tiers, h.due⟩

end Turns

section Starving

variable {m : Machine} {start before : Sys} {after : Sys × TurnLog} {t c : Nat}

-- While a tier that waits past its budget is not served, every other tier gets at most one
-- override, so an override can be due only twice.
theorem starved_next_but_two (hstart : Sys.Start m start) (hreach : (lunarSys m).Reaches start before)
    (ht : Starvable t) (hc : c < m.nrCpuIds) (hqueue : before.queue t c ≠ [])
    (hlate : before.turnDue c t < before.clock) (hwaits : (turnSys m t c).Reaches (before, .empty) after)
    (hword : after.1.clock < 2 ^ 63) :
    after.2.served.Nodup ∧ t ∉ after.2.served ∧ after.2.served.length ≤ 2 ∧
      after.2.due ≤ after.2.served.length := by
  have hvalues := tier_values
  have hfair : Inv m after.1 ∧ (after.1.clock < 2 ^ 63 → TurnsFair t c after.1 after.2) := by
    refine TransitionSystem.invariant_of_reaches _ (P := fun state : Sys × TurnLog =>
      Inv m state.1 ∧ (state.1.clock < 2 ^ 63 → TurnsFair t c state.1 state.2)) ?_
      ⟨Inv.reaches hstart hreach, fun _ => ?_⟩ hwaits
    · rintro ⟨sys, log⟩ event ⟨hinv, hfair⟩ ⟨he, hstay⟩
      refine ⟨hinv.step (hinv.stepped he), fun hword => ?_⟩
      exact (hfair (Nat.lt_of_le_of_lt he.1 hword)).step hinv hc ht he hstay hword
    · exact ⟨.reaches hstart hc hreach, hqueue, hlate, .start, nofun, Nat.le_refl _⟩
  have h := hfair.2 hword
  have hmem (r : Nat) (hr : Starvable r) : r ∈ Finset.Icc DSQ_TYPE_INTERACTIVE DSQ_TYPE_GREEDY :=
    Finset.mem_Icc.mpr hr
  have hlen := h.fair.length_le fun r hr => hmem r (h.tiers r hr)
  rw [Finset.card_erase_of_mem (hmem t ht), Nat.card_Icc] at hlen
  exact ⟨h.fair.nodup, h.fair.not_mem le_rfl, by omega, h.due⟩

-- Thread 2 is INTERACTIVE and task 1 GREEDY, and both wait from the beginning.
def bothStarve : List Event :=
  [.initTask (.task 10 0 0) 1, .initTask (.task 10 0 0) 2] ++ wakeUp (.task 10 0 0) 1 0 ++
    wakeUp (.task 10 0 0) 2 0 ++ [.initTask (.task 80000000 0 0) 4]

def starvingBoot : Sys := .boot oneCpu 10 fun p => { oneCpuTask p with kthread := p = 2 }

def bothStarved : Sys := (lunarSys oneCpu).final starvingBoot bothStarve

def interactiveFirst : List Event := pickNext (.task 80000001 0 0) 2

theorem starved_next_but_two_first :
    let after := (turnSys oneCpu DSQ_TYPE_GREEDY 0).final (bothStarved, .empty) interactiveFirst
    after.2.served = [DSQ_TYPE_INTERACTIVE] ∧ after.2.due = 1 ∧ after.2.due ≤ after.2.served.length := by
  have hstart : Sys.Start oneCpu starvingBoot := Sys.start_boot oneCpu (by decide) fun _ => rfl
  have hreach : (lunarSys oneCpu).Reaches starvingBoot bothStarved := ⟨bothStarve, by decide +kernel, rfl⟩
  have hbound := starved_next_but_two hstart hreach (t := DSQ_TYPE_GREEDY) (c := 0)
    ⟨by decide, by decide⟩ (by decide) (by decide +kernel) (by decide +kernel)
    ⟨interactiveFirst, by decide +kernel, rfl⟩ (by decide +kernel)
  exact ⟨by decide +kernel, by decide +kernel, hbound.2.2.2⟩

end Starving

end Lunar
