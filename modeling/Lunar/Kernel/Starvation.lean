import Lunar.Conservation
import Lunar.Dispatches.Lookups
import Lunar.Kernel.Tiers

namespace Lunar

def Sys.queue (sys : Sys) (t c : Nat) : List Task := sys.sched.dsq (getCpuDsqFromType t c)

-- tier_head_ts of a queue
def Sys.headTs (sys : Sys) (t c : Nat) : Nat := (sys.sched.dispatchState c).tierHeadTs t

-- The tiers with a starvation clock.
def Starvable (t : Nat) : Prop := DSQ_TYPE_INTERACTIVE ≤ t ∧ t ≤ DSQ_TYPE_GREEDY

theorem Starvable.isTier {t : Nat} (h : Starvable t) : IsTier t := by
  have hvalues := tier_values
  exact ⟨Nat.le_trans (by omega) h.1, h.2⟩

-- Since when the head of a queue has been its head.
def watchHeads (since : Nat → Nat → Nat) (sys : Sys) (_ : Event) (sys' : Sys) : Nat → Nat → Nat :=
  fun t c => if (sys'.queue t c).head? = (sys.queue t c).head? then since t c else sys'.clock

-- If a dispatch without an override comes, in the order in which it looks at the queues, to
-- one with a clock, its cpu may run the head, or the queue was stamped at this moment.
def HeadsMovable (m : Machine) (sys : Sys) : Event → Prop
  | .dispatch k cpu prev rnd =>
      let args := dispatchArgs m k cpu prev sys.sched
      sys.overridePath m k cpu prev rnd = .none →
        ∀ place ∈ firstLookup m rnd args.2 cpu args.1, Starvable place.1 →
          (∀ head ∈ (sys.queue place.1 place.2).head?, sys.sched.allowedOn cpu head) ∨
            sys.headTs place.1 place.2 = k.now
  | _ => True

instance (t : Nat) : Decidable (Starvable t) := inferInstanceAs (Decidable (_ ∧ _))

instance (m : Machine) (sys : Sys) : ∀ event, Decidable (HeadsMovable m sys event)
  | .dispatch _ _ _ _ => inferInstanceAs (Decidable (_ → ∀ _ ∈ _, _ → _ ∨ _))
  | .initTask _ _ | .setAttributes _ _ | .selectCpu _ _ _ _ | .runnable _ _ _ _ | .enqueue _ _ _ _
  | .enqueueLocal _ _ | .insertDirect _ | .restore _ | .putBack _ | .consumeSlice _ _ | .running _ _
  | .stopping _ _ _ | .quiescent _ _ _ | .schedSwitch _ _ _ => inferInstanceAs (Decidable True)

section Stamps

variable {m : Machine} {sys sys' : Sys} {event : Event} {t c : Nat}

-- A dispatch that takes a task out of a queue with a clock takes the head, or does not move
-- the clock.
def TakesHeads (m : Machine) (sys sys' : Sys) : Event → Prop
  | .dispatch k cpu _ _ => ∀ t c q, Moved m sys.sched cpu t c k.now q sys'.sched → Starvable t →
      (sys.queue t c).head? = some q ∨ sys.headTs t c = k.now
  | _ => True

-- Without an override, a dispatch takes a task from the first queue that has one.
theorem lunarDispatch_first {k : Call} {cpu : Nat} {prev : Option Task} {rnd : Nat → Nat} {s : Sched}
    (hpath : overridePath m rnd (dispatchArgs m k cpu prev s).2 cpu k.now = .none) :
    let args := dispatchArgs m k cpu prev s
    let s' := lunarDispatch m k k.now rnd cpu prev s
    (∃ place, firstLookup m rnd args.2 cpu args.1 = some place ∧ IsTier place.1 ∧
      Source m cpu place.2 ∧ MovedFrom s cpu place.1 place.2 s') ∨
    firstLookup m rnd args.2 cpu args.1 = none ∧ s'.dsq = s.dsq := by
  have hu := dispatchArgs_unmoved m k cpu prev s
  have hdsq := lunarDispatch_dsq m k k.now rnd cpu prev s
  dsimp only at hdsq ⊢
  rw [dispatchDsqPerCpu_of_path hpath] at hdsq
  rcases lcThenStrict_first m rnd (dispatchArgs m k cpu prev s).2 cpu (dispatchArgs m k cpu prev s).1
    k.now with ⟨place, q, hfirst, -, hmoved⟩ | ⟨hfirst, hnone⟩
  · obtain ⟨q, hallowed, hfrom⟩ := (hu.moved hmoved).movedFrom
    exact Or.inl ⟨place, hfirst, hmoved.tier, hmoved.source, q, hallowed, hdsq.trans hfrom⟩
  · exact Or.inr ⟨hfirst, hdsq.trans (hu.trans hnone).dsq⟩

-- The queue that a dispatch takes a task from: one of its own for an override.
theorem dispatch_source {k : Call} {cpu : Nat} {prev : Option Task} {rnd : Nat → Nat} {q : Task}
    (hcpu : cpu < m.nrCpuIds) (hm : Moved m sys.sched cpu t c k.now q
      ((lunarSys m).exec sys (.dispatch k cpu prev rnd)).sched) :
    (sys.overridePath m k cpu prev rnd = .none →
      firstLookup m rnd (dispatchArgs m k cpu prev sys.sched).2 cpu
        (dispatchArgs m k cpu prev sys.sched).1 = some (t, c)) ∧
    (sys.overridePath m k cpu prev rnd ≠ .none → c = cpu) := by
  constructor
  · intro hpath
    rcases lunarDispatch_first hpath with ⟨place, hfirst, htier, hsrc, hfrom⟩ | ⟨-, hdsq⟩
    · obtain ⟨rfl, rfl⟩ := hm.source_unique hcpu hfrom htier (hsrc.lt hcpu)
      exact hfirst
    · exact absurd hdsq hm.dsq_ne
  · intro hpath
    have hu := dispatchArgs_unmoved m k cpu prev sys.sched
    have hdsq := lunarDispatch_dsq m k k.now rnd cpu prev sys.sched
    obtain ⟨q', hown⟩ := (dispatchDsqPerCpu_dispatched m rnd (dispatchArgs m k cpu prev sys.sched).2 cpu
      (dispatchArgs m k cpu prev sys.sched).1 k.now).moved_of_path hpath
    obtain ⟨q', hallowed, hfrom⟩ := (hu.moved hown).movedFrom
    exact (hm.source_unique hcpu ⟨q', hallowed, hdsq.trans hfrom⟩ hown.tier hcpu).2.symm

theorem HeadsMovable.takesHeads (hcond : HeadsMovable m sys event) (hinv : Inv m sys)
    (he : (lunarSys m).enabled sys event) : TakesHeads m sys ((lunarSys m).exec sys event) event := by
  cases event with
  | dispatch k cpu prev rnd =>
      intro t c q hm ht
      obtain ⟨hfirst, hown⟩ := dispatch_source he.2.1 hm
      by_cases hpath : sys.overridePath m k cpu prev rnd = .none
      · exact (hcond hpath (t, c) (hfirst hpath) ht).imp_left (Queues.find?_eq_head? hm.first)
      · obtain rfl := hown hpath
        refine Or.inl (Queues.find?_eq_head? hm.first fun head hhead => ?_)
        exact hinv.own_allowed he.2.1 t ht.isTier head (List.mem_of_mem_head? hhead)
  | _ => trivial

-- A dispatch only moves the clock of a queue that it takes the head of.
theorem Moved.stamped {s s' : Sched} {cpu r d now : Nat} {q : Task} (hm : Moved m s cpu r d now q s')
    (hhead : Starvable r → (s.dsq (getCpuDsqFromType r d)).head? = some q ∨
      (s.dispatchState d).tierHeadTs r = now)
    (hnodup : (s.dsq (getCpuDsqFromType r d)).Nodup) (ht : Starvable t) :
    (s'.dispatchState c).tierHeadTs t = (s.dispatchState c).tierHeadTs t ∨
      (s'.dispatchState c).tierHeadTs t = now ∧
        (s'.dsq (getCpuDsqFromType t c)).head? ≠ (s.dsq (getCpuDsqFromType t c)).head? := by
  rw [hm.heads]
  split_ifs with hstamp
  · obtain ⟨rfl, -, rfl, -⟩ := hstamp
    rcases hhead ht with hhead | hnow
    · refine Or.inr ⟨rfl, ?_⟩
      rw [hm.dsq_source]
      exact Queues.eraseP_head?_ne hnodup hm.first hhead
    · exact Or.inl hnow.symm
  · exact Or.inl rfl

theorem Starvable.mem {t : Nat} (h : Starvable t) :
    t ∈ [DSQ_TYPE_INTERACTIVE, DSQ_TYPE_NORMAL, DSQ_TYPE_GREEDY] := by
  have hvalues := tier_values
  have hlc : t ≠ DSQ_TYPE_LC := by
    have := h.1
    omega
  rcases isTier_cases h.isTier with ht | ht | ht | ht
  · exact absurd ht hlc
  all_goals simp [ht]

-- What is charged to an override does not show in the queues.
theorem Accounted.unmoved {k : Call} {cpu : Nat} {p : Task} {tier : Nat} {s s1 : Sched}
    (h : Accounted k cpu p tier s s1) : Unmoved s s1 where
  dsq := h.dsq
  task := h.task
  heads := by
    intro d
    rw [h.dispatchState]
    by_cases hd : d = cpu
    · rw [hd, Function.update_self, chargeOverride_eq]
    · rw [Function.update_of_ne hd]

theorem DispatchStep.moves {k : Call} {cpu : Nat} {path : OverridePath}
    (h : DispatchStep m k cpu path sys sys') :
    (∃ t c q, Moved m sys.sched cpu t c k.now q sys'.sched) ∨ sys'.sched.dsq = sys.sched.dsq := by
  cases h with
  | idle _ hd _ =>
      rcases hd.moved_or_unmoved with ⟨c, q, hm⟩ | ⟨-, hu⟩
      · exact Or.inl ⟨_, c, q, hm⟩
      · exact Or.inr hu.dsq
  | replaced _ _ hacc _ hm _ => exact Or.inl ⟨_, _, _, hacc.unmoved.moved hm⟩
  | continued _ _ hacc _ hc _ => exact Or.inr (hc.dsq.trans hacc.dsq)

theorem DispatchStep.stamped {k : Call} {cpu : Nat} {prev : Option Task} {rnd : Nat → Nat}
    {path : OverridePath} (hs : DispatchStep m k cpu path sys sys') (hinv : Inv m sys)
    (htakes : TakesHeads m sys sys' (.dispatch k cpu prev rnd)) (ht : Starvable t) :
    sys'.headTs t c = sys.headTs t c ∨
      sys'.headTs t c = k.now ∧ (sys'.queue t c).head? ≠ (sys.queue t c).head? := by
  cases hs with
  | idle _ hd _ =>
      rcases hd.moved_or_unmoved with ⟨d, q, hm⟩ | ⟨-, hu⟩
      · exact hm.stamped (htakes _ _ _ hm) (hinv.nodup _) ht
      · exact Or.inl (congrFun (hu.heads c) t)
  | replaced _ _ hacc _ hm _ =>
      have hm' := hacc.unmoved.moved hm
      exact hm'.stamped (htakes _ _ _ hm') (hinv.nodup _) ht
  | continued _ _ hacc _ hc _ =>
      refine Or.inl (congrFun (Eq.trans ?_ (hacc.unmoved.heads c)) t)
      rw [hc.dispatchState]
      by_cases he : c = cpu
      · rw [he, Function.update_self]
      · rw [Function.update_of_ne he]

-- tier_head_ts only moves with the head of the queue.
theorem Step.stamped (hs : Step m sys sys' event) (hinv : Inv m sys)
    (htime : sys'.clock = event.time sys.clock) (htakes : TakesHeads m sys sys' event)
    (ht : Starvable t) :
    sys'.headTs t c = sys.headTs t c ∨
      sys'.headTs t c = sys'.clock ∧ (sys'.queue t c).head? ≠ (sys.queue t c).head? := by
  have hcpus (h : SameCpus sys sys') : sys'.headTs t c = sys.headTs t c := by
    rw [Sys.headTs, h.dispatchState]
    rfl
  cases hs with
  | initTask _ _ h _ _ _ _ _ => exact Or.inl (hcpus h)
  | setAttributes _ _ h _ => exact Or.inl (hcpus h)
  | selectCpu _ _ h _ _ _ => exact Or.inl (hcpus h)
  | runnable _ _ _ h _ _ => exact Or.inl (hcpus h)
  | @enqueue k p _ _ v target slice head hphase hv _ htarget _ _ _ _ henq =>
      obtain ⟨pending, hstate⟩ := henq.dispatchState c
      rw [Sys.headTs, hstate]
      dsimp only
      split_ifs with hstamp
      · obtain ⟨rfl, rfl, -, hempty⟩ := hstamp
        refine Or.inr ⟨htime.symm, ?_⟩
        -- p itself was not in the queue.
        have hout : p ∉ sys.queue v.tier c := by
          rcases hphase with hp | ⟨hp, -⟩ | ⟨-, hlocal⟩
          · exact hinv.not_mem_of_phase (by rcases hp with hp | hp <;> simp [hp]) _
          · exact hinv.not_mem_of_phase (by simp [hp]) _
          · intro hmem
            exact getCpuDsqFromType_ne_localOn _ _ _ (hinv.unique _ _ p hmem hlocal)
        have hold : sys.queue v.tier c = [] := by
          refine List.eq_nil_iff_forall_not_mem.mpr fun a ha => ?_
          have hne : a ≠ p := fun he => hout (he ▸ ha)
          have hmem : a ∈ (sys.unlink p).sched.dsq (getCpuDsqFromType v.tier c) :=
            List.mem_filter.mpr ⟨ha, by simpa using hne⟩
          rw [hempty] at hmem
          exact List.not_mem_nil hmem
        rw [hold, Sys.queue, henq.dsq, Function.update_self, hempty]
        cases head <;> simp
      · exact Or.inl rfl
  | enqueueLocal _ _ h _ _ => exact Or.inl (hcpus h)
  | insertDirect _ _ h => exact Or.inl (hcpus h.cpus)
  | restore _ h => exact Or.inl (hcpus h.cpus)
  | putBack _ _ h => exact Or.inl (hcpus h.cpus)
  | consumeSlice _ _ _ h _ => exact Or.inl (hcpus h)
  | @dispatch k cpu prev rnd _ _ _ _ _ h =>
      have hnow : sys'.clock = k.now := htime
      rw [hnow]
      exact h.stamped hinv htakes ht
  | @running k p _ _ _ _ _ _ _ hstate _ _ =>
      refine Or.inl ?_
      rw [Sys.headTs, hstate]
      by_cases he : c = k.proc
      · rw [he, Function.update_self]
        rfl
      · rw [Function.update_of_ne he]
        rfl
  | @stopping k p _ _ _ _ _ _ hstate _ _ =>
      refine Or.inl ?_
      rw [Sys.headTs, hstate, chargeOverride_eq]
      by_cases he : c = sys.cpuOf p
      · rw [he, Function.update_self]
        rfl
      · rw [Function.update_of_ne he]
        rfl
  | quiescent _ _ _ h _ _ => exact Or.inl (hcpus h)
  | schedSwitch _ _ _ hrt =>
      obtain ⟨rt, hstate⟩ := hrt.dispatchState c
      refine Or.inl ?_
      rw [Sys.headTs, hstate]
      rfl

end Stamps

-- No queue is believed to have been served after its head got there.
structure HeadsOk (m : Machine) (sys : Sys) (since : Nat → Nat → Nat) : Prop where
  past : ∀ t c, Starvable t → c < m.nrCpuIds → sys.headTs t c ≤ sys.clock
  waited : ∀ t c, Starvable t → c < m.nrCpuIds → sys.queue t c ≠ [] → sys.headTs t c ≤ since t c

namespace HeadsOk

variable {m : Machine} {sys sys' : Sys} {event : Event} {since : Nat → Nat → Nat}

theorem step (h : HeadsOk m sys since) (hinv : Inv m sys) (hs : Step m sys sys' event)
    (hclock : sys.clock ≤ sys'.clock) (htime : sys'.clock = event.time sys.clock)
    (htakes : TakesHeads m sys sys' event) : HeadsOk m sys' (watchHeads since sys event sys') := by
  constructor
  · intro t c ht hc
    rcases hs.stamped (c := c) hinv htime htakes ht with hsame | ⟨hnow, -⟩
    · rw [hsame]
      exact Nat.le_trans (h.past t c ht hc) hclock
    · rw [hnow]
  · intro t c ht hc hne
    unfold watchHeads
    rcases hs.stamped (c := c) hinv htime htakes ht with hsame | ⟨hnow, hhead⟩
    · rw [hsame]
      split_ifs with hhead
      · refine h.waited t c ht hc fun hempty => hne ?_
        rw [hempty] at hhead
        exact List.head?_eq_none_iff.mp hhead
      · exact Nat.le_trans (h.past t c ht hc) hclock
    · rw [if_neg hhead, hnow]

theorem start (h : Sys.Start m sys) : HeadsOk m sys since := by
  obtain ⟨s, now, hsched, hdsq, -, -, hnow⟩ := h.sched
  have hinit := lunarInit_spec m now s
  constructor
  · intro t c ht hc
    have hstamp := ht.mem
    simp only [List.mem_cons, List.not_mem_nil, or_false] at hstamp
    rw [Sys.headTs, hsched, hinit.dispatchState c hc]
    dsimp only
    rw [if_pos hstamp]
    exact hnow c
  · intro t c _ _ hne
    rw [Sys.queue, hsched, hinit.dsq, hdsq] at hne
    exact absurd rfl hne

end HeadsOk

-- As long as no dispatch reaches past the head of the queue it comes to, tier_head_ts stays
-- while the head does, and is at least as old as the head.
theorem head_wait_measured {m : Machine} {start : Sys} {state : Sys × (Nat → Nat → Nat)}
    (hstart : Sys.Start m start)
    (hreach : (((lunarSys m).observe watchHeads).restrict fun state event =>
      HeadsMovable m state.1 event).Reaches (start, fun _ _ => 0) state)
    {t c : Nat} (ht : Starvable t) (hc : c < m.nrCpuIds) :
    (∀ event, (lunarSys m).enabled state.1 event → HeadsMovable m state.1 event →
      (((lunarSys m).exec state.1 event).queue t c).head? = (state.1.queue t c).head? →
      ((lunarSys m).exec state.1 event).headTs t c = state.1.headTs t c) ∧
    (state.1.queue t c ≠ [] → ∀ now, state.1.clock ≤ now →
      now - state.2 t c ≤ now - state.1.headTs t c) := by
  obtain ⟨hinv, hok⟩ : Inv m state.1 ∧ HeadsOk m state.1 state.2 := by
    refine TransitionSystem.invariant_of_reaches _
      (P := fun state => Inv m state.1 ∧ HeadsOk m state.1 state.2) ?_
      ⟨Inv.start hstart, HeadsOk.start hstart⟩ hreach
    rintro ⟨sys, since⟩ event ⟨hinv, hok⟩ ⟨he, hcond⟩
    have hs := hinv.stepped he
    exact ⟨hinv.step hs, hok.step hinv hs he.1 rfl (hcond.takesHeads hinv he)⟩
  constructor
  · intro event he hcond hhead
    rcases (hinv.stepped he).stamped (c := c) hinv rfl (hcond.takesHeads hinv he) ht with hsame | ⟨-, hne⟩
    · exact hsame
    · exact absurd hhead hne
  · intro hne now _
    exact Nat.sub_le_sub_left (hok.waited t c ht hc hne) now

-- The condition leaves out no more than it has to: any other dispatch moves the clock of a
-- queue and leaves its head there.
theorem head_wait_broken {m : Machine} {sys : Sys} {event : Event} (hinv : Inv m sys)
    (he : (lunarSys m).enabled sys event) (hcond : ¬HeadsMovable m sys event) :
    let sys' := (lunarSys m).exec sys event
    ∃ t c, Starvable t ∧ c < m.nrCpuIds ∧ sys.queue t c ≠ [] ∧
      (sys'.queue t c).head? = (sys.queue t c).head? ∧ sys'.headTs t c ≠ sys.headTs t c := by
  intro sys'
  have hs : Step m sys sys' event := hinv.stepped he
  cases event with
  | dispatch k cpu prev rnd =>
      have hcpu : cpu < m.nrCpuIds := he.2.1
      simp only [HeadsMovable, not_forall, not_or] at hcond
      obtain ⟨hpath, ⟨t, c⟩, hfirst, ht, ⟨head, hhead, hpinned⟩, hold⟩ := hcond
      obtain ⟨r, d, q, hm⟩ : ∃ r d q, Moved m sys.sched cpu r d k.now q sys'.sched := by
        cases hs with
        | dispatch _ _ _ _ _ hd =>
            rcases hd.moves with hm | hdsq
            · exact hm
            · rcases lunarDispatch_first hpath with ⟨place, -, -, -, hfrom⟩ | ⟨hnone, -⟩
              · exact absurd hdsq hfrom.dsq_ne
              · exact absurd (hnone.symm.trans hfirst) (by simp)
      have hsource := (dispatch_source hcpu hm).1 hpath
      rw [hfirst] at hsource
      obtain ⟨rfl, rfl⟩ := Prod.mk.inj (Option.some.inj hsource)
      refine ⟨t, c, ht, hm.source.lt hcpu, ?_, ?_, ?_⟩
      · exact List.ne_nil_of_mem (List.mem_of_mem_head? hhead)
      · rw [Sys.queue, hm.dsq_source]
        exact Queues.eraseP_head?_of_not hhead hpinned
      · have hlc : t ≠ DSQ_TYPE_LC := by
          have hvalues := tier_values
          have := ht.1
          omega
        have hnow : sys'.headTs t c = k.now :=
          (hm.heads c t).trans (if_pos ⟨rfl, hm.source.lt hcpu, rfl, hlc⟩)
        rw [hnow]
        exact Ne.symm hold
  | _ => exact absurd trivial hcond

section PinnedHead

-- Task 1 may only run on cpu 0.
def pinnedBoot : Sys := .boot twoCpus 10 fun p =>
  if p = 1 then { userTask with nrCpusAllowed := 1, cpusPtr := fun cpu => cpu = 0 } else userTask

-- Task 1 and behind it task 2 wait on cpu 0.
def pinnedWaits : List Event :=
  [.initTask (.task 10 0 0) 1, .initTask (.task 10 0 0) 2] ++ wakeUp (.task 10 0 0) 1 0 ++
    wakeUp (.task 10 0 0) 2 0

-- cpu 1 has nothing to do.
def idleDispatch : Event := .dispatch (.task 20 1 0) 1 none fun _ => 0

def pinnedState : Sys × (Nat → Nat → Nat) :=
  ((lunarSys twoCpus).observe watchHeads).final (pinnedBoot, fun _ _ => 0) pinnedWaits

-- cpu 0 takes task 1, and cpu 1 task 2 when it is the head.
def servedRun : List Event := pinnedWaits ++ pickNext (.task 20 0 0) 1 ++ [idleDispatch] ++
  [.initTask (.task 25 0 0) 3] ++ wakeUp (.task 25 0 0) 3 0

def servedState : Sys × (Nat → Nat → Nat) :=
  ((lunarSys twoCpus).observe watchHeads).final (pinnedBoot, fun _ _ => 0) servedRun

theorem head_wait_measured_served :
    (servedState.1.queue DSQ_TYPE_GREEDY 0).head? = some 3 ∧
      30 - servedState.2 DSQ_TYPE_GREEDY 0 ≤ 30 - servedState.1.headTs DSQ_TYPE_GREEDY 0 := by
  have hreach : (((lunarSys twoCpus).observe watchHeads).restrict fun state event =>
      HeadsMovable twoCpus state.1 event).Reaches (pinnedBoot, fun _ _ => 0) servedState :=
    ⟨servedRun, by decide +kernel, rfl⟩
  have hstart : Sys.Start twoCpus pinnedBoot :=
    Sys.start_boot twoCpus (by decide) fun p => by split_ifs <;> rfl
  exact ⟨by decide +kernel, (head_wait_measured hstart hreach (t := DSQ_TYPE_GREEDY) (c := 0)
    ⟨by decide, by decide⟩ (by decide)).2 (by decide +kernel) 30 (by decide +kernel)⟩

-- cpu 1 takes task 2, and the wait of task 1 starts again.
theorem head_wait_restarted :
    Sys.Start twoCpus pinnedBoot ∧
      ((lunarSys twoCpus).observe watchHeads).Reaches (pinnedBoot, fun _ _ => 0) pinnedState ∧
      (lunarSys twoCpus).enabled pinnedState.1 idleDispatch ∧
      let state := ((lunarSys twoCpus).observe watchHeads).exec pinnedState idleDispatch
      (pinnedState.1.queue DSQ_TYPE_GREEDY 0).head? = some 1 ∧
      (state.1.queue DSQ_TYPE_GREEDY 0).head? = some 1 ∧
      pinnedState.1.headTs DSQ_TYPE_GREEDY 0 = 10 ∧ state.1.headTs DSQ_TYPE_GREEDY 0 = 20 ∧
      state.2 DSQ_TYPE_GREEDY 0 = 10 :=
  ⟨Sys.start_boot twoCpus (by decide) fun p => by split_ifs <;> rfl,
    ⟨pinnedWaits, by decide +kernel, rfl⟩, by decide +kernel, by decide +kernel, by decide +kernel,
    by decide +kernel, by decide +kernel, by decide +kernel⟩

end PinnedHead

end Lunar
