import Lunar.Kernel.Slices
import Lunar.Kernel.Tiers
import Lunar.Dispatches.Strict
import Lunar.Library.Levels

namespace Lunar

def tiersUpTo (t : Nat) : List Nat :=
  [DSQ_TYPE_LC, DSQ_TYPE_INTERACTIVE, DSQ_TYPE_NORMAL, DSQ_TYPE_GREEDY].filter (· ≤ t)

def tierQueue (s : Sched) (c t : Nat) : List Task := s.dsq (getCpuDsqFromType t c)

-- c would take over a task of tier t from d, because nothing of its own is as good.
def TakesOver (m : Machine) (s : Sched) (c t d : Nat) : Prop :=
  OtherCpu m c true d ∧ Waits s c t d ∧ Levels.content (tiersUpTo t) (tierQueue s c) = []

instance (m : Machine) (s : Sched) (c t d : Nat) : Decidable (TakesOver m s c t d) :=
  inferInstanceAs (Decidable (_ ∧ _))

-- What waits on c before a task that is added to its queue of tier t.
def workAhead (s : Sched) (c t : Nat) : List Task :=
  s.dsq (.localOn c) ++ Levels.content (tiersUpTo t) (tierQueue s c)

theorem tiersUpTo_sorted (t : Nat) : (tiersUpTo t).Pairwise (· < ·) :=
  List.Pairwise.filter _ (by decide)

theorem mem_tiersUpTo {t t' : Nat} : t' ∈ tiersUpTo t ↔ IsTier t' ∧ t' ≤ t := by
  have hmem : t' ∈ [DSQ_TYPE_LC, DSQ_TYPE_INTERACTIVE, DSQ_TYPE_NORMAL, DSQ_TYPE_GREEDY] ↔
      IsTier t' := by
    constructor
    · intro h
      simp only [List.mem_cons, List.not_mem_nil, or_false] at h
      rcases h with rfl | rfl | rfl | rfl
      all_goals decide
    · intro h
      rcases isTier_cases h with rfl | rfl | rfl | rfl
      all_goals decide
  rw [tiersUpTo, List.mem_filter, hmem, decide_eq_true_eq]

theorem mem_tiersUpTo_greedy {t : Nat} : t ∈ tiersUpTo DSQ_TYPE_GREEDY ↔ IsTier t :=
  mem_tiersUpTo.trans (and_iff_left_of_imp And.right)

-- cpu_load_ahead counts these and the task that runs.
theorem cpuLoadAhead_eq {m : Machine} {s : Sched} {c t : Nat} (hc : c < m.nrCpuIds) (ht : IsTier t)
    (hrt : cpuTakenByRt s c = false) :
    cpuLoadAhead m s c t = (workAhead s c t).length +
      if (s.dispatchState c).currentTaskDsqType ≤ t then 1 else 0 := by
  have hlength : (workAhead s c t).length = dsqQueued s (.localOn c) +
      dsqQueued s (getCpuDsqFromType DSQ_TYPE_LC c) +
      (if t ≥ DSQ_TYPE_INTERACTIVE then dsqQueued s (getCpuDsqFromType DSQ_TYPE_INTERACTIVE c) else 0) +
      (if t ≥ DSQ_TYPE_NORMAL then dsqQueued s (getCpuDsqFromType DSQ_TYPE_NORMAL c) else 0) +
      (if t ≥ DSQ_TYPE_GREEDY then dsqQueued s (getCpuDsqFromType DSQ_TYPE_GREEDY c) else 0) := by
    have hvalues := tier_values
    have hlc : tiersUpTo DSQ_TYPE_LC = [DSQ_TYPE_LC] := rfl
    have hi : tiersUpTo DSQ_TYPE_INTERACTIVE = [DSQ_TYPE_LC, DSQ_TYPE_INTERACTIVE] := rfl
    have hn : tiersUpTo DSQ_TYPE_NORMAL = [DSQ_TYPE_LC, DSQ_TYPE_INTERACTIVE, DSQ_TYPE_NORMAL] := rfl
    have hg : tiersUpTo DSQ_TYPE_GREEDY =
      [DSQ_TYPE_LC, DSQ_TYPE_INTERACTIVE, DSQ_TYPE_NORMAL, DSQ_TYPE_GREEDY] := rfl
    unfold workAhead
    rcases isTier_cases ht with rfl | rfl | rfl | rfl
    · rw [hlc, if_neg (by omega), if_neg (by omega), if_neg (by omega)]
      simp [Levels.content_cons, tierQueue, dsqQueued]
    · rw [hi, if_pos (by omega), if_neg (by omega), if_neg (by omega)]
      simp [Levels.content_cons, tierQueue, dsqQueued, Nat.add_assoc]
    · rw [hn, if_pos (by omega), if_pos (by omega), if_neg (by omega)]
      simp [Levels.content_cons, tierQueue, dsqQueued, Nat.add_assoc]
    · rw [hg, if_pos (by omega), if_pos (by omega), if_pos (by omega)]
      simp [Levels.content_cons, tierQueue, dsqQueued, Nat.add_assoc]
  rw [hlength]
  simp only [cpuLoadAhead, Sched.getDispatchCtx, hc, if_true, hrt, Bool.false_eq_true, if_false]
  omega

section Dispatch

variable {m : Machine} {s : Sched} {k : Call} {now c t : Nat} {rnd : Nat → Nat}

-- A queue of tasks that are all allowed on the cpu is served from its head.
theorem Moved.pop_head {s' : Sched} {cpu d : Nat} {q : Task} (h : Moved m s cpu t d now q s')
    (hallowed : ∀ p ∈ s.dsq (getCpuDsqFromType t d), s.allowedOn cpu p) :
    tierQueue s d t = q :: tierQueue s' d t := by
  have hfirst := h.first
  unfold tierQueue
  rw [h.dsq_source]
  cases hqueue : s.dsq (getCpuDsqFromType t d) with
  | nil => simp [hqueue] at hfirst
  | cons p rest =>
      have hp : s.allowedOn cpu p := hallowed p (by simp [hqueue])
      rw [hqueue, List.find?_cons_of_pos hp] at hfirst
      cases hfirst
      rw [List.eraseP_cons_of_pos hp]

-- With nothing to take over, a dispatch serves the best of the own queues.
theorem dispatch_own (hc : c < m.nrCpuIds)
    (hallowed : ∀ t, IsTier t → ∀ p ∈ s.dsq (getCpuDsqFromType t c), s.allowedOn c p)
    (hrt : ∀ d, ¬RtTaken m s c d) (hover : ∀ t, IsTier t → ∀ d, ¬TakesOver m s c t d)
    (hpath : overridePath m rnd s c now = .none) (ht : IsTier t) (hqueue : tierQueue s c t ≠ []) :
    let r := dispatchDsqPerCpu m rnd s c DSQ_TYPE_EMPTY now
    (∃ q, Moved m s c r.1 c now q r.2) ∧ ∀ t, IsTier t → tierQueue s c t ≠ [] → r.1 ≤ t := by
  have hvalues := tier_values
  have hserves := lcThenStrict_serves_best m rnd s c DSQ_TYPE_EMPTY now (by omega) hallowed
    ⟨t, Or.inr ⟨ht, hqueue⟩⟩
  have houtcome := (dispatchDsqPerCpu_dispatched m rnd s c DSQ_TYPE_EMPTY now).moved_or_unmoved
  rw [← dispatchDsqPerCpu_of_path hpath] at hserves
  dsimp only at hserves ⊢
  generalize dispatchDsqPerCpu m rnd s c DSQ_TYPE_EMPTY now = r at hserves houtcome ⊢
  obtain ⟨hleast, -, -, hown⟩ := hserves
  have hbest (t : Nat) (ht : IsTier t) (hq : tierQueue s c t ≠ []) :
      servedTier DSQ_TYPE_EMPTY r.1 ≤ t := hleast.2 (Or.inl (Or.inr ⟨ht, hq⟩))
  rcases houtcome with ⟨d, q, hmoved⟩ | ⟨hr, -⟩
  · have hserved : servedTier DSQ_TYPE_EMPTY r.1 = r.1 :=
      if_neg (by have := hmoved.tier.2; omega)
    rw [hserved] at hleast hown hbest
    have hownTier : OwnTier s c DSQ_TYPE_EMPTY r.1 := by
      rcases hleast.1 with h | ⟨-, d', hd', hw⟩
      · exact h
      · have hne : Levels.content (tiersUpTo r.1) (tierQueue s c) ≠ [] := fun h =>
          hover r.1 hmoved.tier d' ⟨hd', hw, h⟩
        obtain ⟨t2, ht2, hq2⟩ : ∃ t2 ∈ tiersUpTo r.1, tierQueue s c t2 ≠ [] := by
          simpa [Levels.content_eq_nil] using hne
        obtain ⟨ht2, hle2⟩ := mem_tiersUpTo.mp ht2
        have heq : t2 = r.1 := hle2.antisymm (hbest t2 ht2 hq2)
        exact Or.inr ⟨hmoved.tier, heq ▸ hq2⟩
    have hnrt : ¬RtTier m s c r.1 := by
      rintro ⟨-, d', hd', -⟩
      exact hrt d' hd'
    obtain rfl : c = d := (hmoved.source_unique hc (hown hownTier hnrt hmoved.tier) hmoved.tier hc).2
    exact ⟨⟨q, hmoved⟩, hbest⟩
  · have hserved : servedTier DSQ_TYPE_EMPTY r.1 = DSQ_TYPE_EMPTY + 1 := by
      rw [hr]
      rfl
    have hle := hbest t ht hqueue
    have := ht.2
    omega

-- A dispatch of c moves the first of them to the local DSQ.
theorem dispatch_workAhead {prev : Option Task} (hc : c < m.nrCpuIds)
    (hallowed : ∀ t, IsTier t → ∀ p ∈ s.dsq (getCpuDsqFromType t c), s.allowedOn c p)
    (hrt : ∀ d, ¬RtTaken m s c d) (hover : ∀ t, IsTier t → ∀ d, ¬TakesOver m s c t d)
    (hprev : queuedCtx s prev = none) (hpath : overridePath m rnd s c now = .none)
    (hlocal : s.dsq (.localOn c) = []) (hwork : workAhead s c t ≠ []) :
    let s' := lunarDispatch m k now rnd c prev s
    ∃ q, s'.dsq (.localOn c) = [q] ∧ workAhead s' c t = workAhead s c t := by
  have hmax := m.nrCpuIds_le
  have hdispatch : lunarDispatch m k now rnd c prev s =
      (dispatchDsqPerCpu m rnd s c DSQ_TYPE_EMPTY now).2 := by
    simp only [lunarDispatch, hprev]
  obtain ⟨t1, ht1, hq1⟩ : ∃ t1 ∈ tiersUpTo t, tierQueue s c t1 ≠ [] := by
    rw [workAhead, hlocal, List.nil_append] at hwork
    simpa [Levels.content_eq_nil] using hwork
  obtain ⟨ht1, hle1⟩ := mem_tiersUpTo.mp ht1
  obtain ⟨⟨q, hmoved⟩, hbest⟩ := dispatch_own hc hallowed hrt hover hpath ht1 hq1
  rw [hdispatch]
  generalize dispatchDsqPerCpu m rnd s c DSQ_TYPE_EMPTY now = r at hmoved hbest ⊢
  have hpop := hmoved.pop_head (hallowed r.1 hmoved.tier)
  have hle : r.1 ≤ t := (hbest t1 ht1 hq1).trans hle1
  have hlocal' : r.2.dsq (.localOn c) = [q] := by rw [hmoved.localDsq, hlocal, List.nil_append]
  refine ⟨q, hlocal', ?_⟩
  rw [workAhead, workAhead, hlocal', hlocal, List.nil_append]
  symm
  apply Levels.content_pop (tiersUpTo_sorted t) (mem_tiersUpTo.mpr ⟨hmoved.tier, hle⟩) _ hpop
  · intro t2 ht2 hne
    apply hmoved.dsq_other (getCpuDsqFromType_ne_localOn t2 c c)
    intro heq
    apply hne
    exact (getCpuDsqFromType_inj (mem_tiersUpTo.mp ht2).1 hmoved.tier (by omega) (by omega) heq).1
  · intro t2 ht2 hlt
    by_contra hq2
    exact hlt.not_ge (hbest t2 (mem_tiersUpTo.mp ht2).1 hq2)

end Dispatch

-- Nothing comes into the DSQs of c and nothing leaves them.
def SameWork (m : Machine) (c : Nat) (sys : Sys) (event : Event) : Prop :=
  let sys' := (lunarSys m).exec sys event
  sys'.localDsq c = sys.localDsq c ∧ ∀ t ∈ tiersUpTo DSQ_TYPE_GREEDY,
    tierQueue sys'.sched c t = tierQueue sys.sched c t

-- A dispatch of c on its own: the task that ran there sleeps, there is nothing to take over
-- from another cpu, and no starved tier comes first.
def DispatchesAlone (m : Machine) (c : Nat) (sys : Sys) (k : Call) (prev : Option Task)
    (rnd : Nat → Nat) : Prop :=
  queuedCtx sys.sched prev = none ∧
    (∀ t ∈ tiersUpTo DSQ_TYPE_GREEDY, ∀ p ∈ tierQueue sys.sched c t, sys.sched.allowedOn c p) ∧
    (∀ d < m.nrCpuIds, ¬RtTaken m sys.sched c d) ∧
    (∀ d < m.nrCpuIds, ∀ t ∈ tiersUpTo DSQ_TYPE_GREEDY, ¬TakesOver m sys.sched c t d) ∧
    sys.overridePath m k c prev rnd = .none

-- Only c takes tasks out of its DSQs, and no task comes into them, not even one that ran
-- on c before.
def Alone (m : Machine) (c : Nat) (sys : Sys) (event : Event) : Prop :=
  SameWork m c sys event ∨
    match event with
    | .dispatch k cpu prev rnd => cpu = c ∧ DispatchesAlone m c sys k prev rnd
    | .running _ p => sys.cpuOf p = c
    | _ => False

instance (m : Machine) (c : Nat) (sys : Sys) (event : Event) : Decidable (SameWork m c sys event) :=
  inferInstanceAs (Decidable (_ ∧ _))

instance (m : Machine) (c : Nat) (sys : Sys) (k : Call) (prev : Option Task) (rnd : Nat → Nat) :
    Decidable (DispatchesAlone m c sys k prev rnd) := inferInstanceAs (Decidable (_ ∧ _))

instance (m : Machine) (c : Nat) (sys : Sys) : ∀ event, Decidable (Alone m c sys event)
  | .dispatch _ _ _ _ => inferInstanceAs (Decidable (_ ∨ _ ∧ _))
  | .running _ _ => inferInstanceAs (Decidable (_ ∨ _ = _))
  | .initTask _ _ | .setAttributes _ _ | .selectCpu _ _ _ _ | .runnable _ _ _ _ | .enqueue _ _ _ _
  | .enqueueLocal _ _ | .insertDirect _ | .restore _ | .putBack _ | .consumeSlice _ _
  | .stopping _ _ _ | .quiescent _ _ _ | .schedSwitch _ _ _ => inferInstanceAs (Decidable (_ ∨ False))

-- The tasks that started to run on c, in this order.
def watchRan (c : Nat) (ran : List Task) (sys : Sys) (event : Event) (_ : Sys) : List Task :=
  match event with
  | .running _ p => if sys.cpuOf p = c then ran ++ [p] else ran
  | _ => ran

-- x has not run yet. What has run and what comes before x is what was there before x; with
-- x in the local DSQ nothing of it is left.
structure Draining (c t : Nat) (x : Task) (work : List Task) (state : Sys × List Task) : Prop where
  served : (state.2 ++ workAhead state.1.sched c t).Perm (work ++ [x])
  last : ∃ front, workAhead state.1.sched c t = front ++ [x]
  next : x ∈ state.1.localDsq c → workAhead state.1.sched c t = [x]

-- x has run, right after what was there before it.
def HasRun (x : Task) (work log : List Task) : Prop :=
  ∃ ran later, log = ran ++ x :: later ∧ ran.Perm work

section Drain

variable {m : Machine} {sys : Sys} {event : Event} {c t : Nat} {x : Task} {work log : List Task}

theorem Alone.cases (h : Alone m c sys event) (log : List Task) :
    SameWork m c sys event ∧ (∀ sys', watchRan c log sys event sys' = log) ∨
      (∃ k prev rnd, event = .dispatch k c prev rnd ∧ DispatchesAlone m c sys k prev rnd) ∨
      ∃ k p, event = .running k p ∧ sys.cpuOf p = c := by
  cases event with
  | dispatch k cpu prev rnd =>
      rcases h with h | ⟨rfl, h⟩
      · exact Or.inl ⟨h, fun _ => rfl⟩
      · exact Or.inr (Or.inl ⟨k, prev, rnd, rfl, h⟩)
  | running k p =>
      by_cases hp : sys.cpuOf p = c
      · exact Or.inr (Or.inr ⟨k, p, rfl, hp⟩)
      · exact Or.inl ⟨h.resolve_right hp, fun _ => if_neg hp⟩
  | _ => exact Or.inl ⟨h.resolve_right id, fun _ => rfl⟩

theorem watchRan_grows (c : Nat) (log : List Task) (sys : Sys) (event : Event) (sys' : Sys) :
    ∃ more, watchRan c log sys event sys' = log ++ more := by
  cases event with
  | running k p =>
      by_cases hp : sys.cpuOf p = c
      · exact ⟨[p], if_pos hp⟩
      · exact ⟨[], by simp [watchRan, hp]⟩
  | _ => exact ⟨[], by simp [watchRan]⟩

theorem SameWork.workAhead (h : SameWork m c sys event) (t : Nat) :
    workAhead ((lunarSys m).exec sys event).sched c t = workAhead sys.sched c t := by
  have hlocal : ((lunarSys m).exec sys event).sched.dsq (.localOn c) = sys.sched.dsq (.localOn c) := h.1
  have hqueues : Levels.content (tiersUpTo t) (tierQueue ((lunarSys m).exec sys event).sched c) =
      Levels.content (tiersUpTo t) (tierQueue sys.sched c) :=
    Levels.content_congr fun t' ht' => h.2 t' (mem_tiersUpTo_greedy.mpr (mem_tiersUpTo.mp ht').1)
  rw [Lunar.workAhead, Lunar.workAhead, hlocal, hqueues]

theorem Draining.nodup (h : Draining c t x work (sys, log)) (hnodup : (work ++ [x]).Nodup) :
    (workAhead sys.sched c t).Nodup :=
  (List.nodup_append.mp (h.served.nodup_iff.mpr hnodup)).2.1

theorem Draining.notYet (h : Draining c t x work (sys, log)) (hnodup : (work ++ [x]).Nodup) :
    x ∉ log := by
  obtain ⟨front, hlast⟩ := h.last
  intro hx
  exact (List.nodup_append.mp (h.served.nodup_iff.mpr hnodup)).2.2 x hx x (by simp [hlast]) rfl

theorem Draining.length_le (h : Draining c t x work (sys, log)) : log.length ≤ work.length := by
  obtain ⟨front, hlast⟩ := h.last
  have hlength := h.served.length_eq
  rw [hlast] at hlength
  simp only [List.length_append, List.length_singleton] at hlength
  omega

-- As long as x has not run, c gets a task from every dispatch.
theorem Draining.dispatched {k : Call} {prev : Option Task} {rnd : Nat → Nat} (hc : c < m.nrCpuIds)
    (h : Draining c t x work (sys, log)) (he : (lunarSys m).enabled sys (.dispatch k c prev rnd))
    (halone : DispatchesAlone m c sys k prev rnd) :
    let sys' := (lunarSys m).exec sys (.dispatch k c prev rnd)
    (∃ q, sys'.localDsq c = [q]) ∧ workAhead sys'.sched c t = workAhead sys.sched c t := by
  obtain ⟨hprev, hallowed, hrt, hover, hpath⟩ := halone
  have hlocal : sys.sched.dsq (.localOn c) = [] := he.2.2.1
  have hwork : workAhead sys.sched c t ≠ [] := by
    obtain ⟨front, hlast⟩ := h.last
    rw [hlast]
    simp
  have hpath' : overridePath m rnd sys.sched c k.now = .none := by
    simpa only [Sys.overridePath, dispatchArgs, hprev] using hpath
  obtain ⟨q, hq, hsame⟩ := dispatch_workAhead (t := t) (k := k) hc
    (fun t' ht' => hallowed t' (mem_tiersUpTo_greedy.mpr ht')) (fun d hd => hrt d hd.1.1 hd)
    (fun t' ht' d hd => hover d hd.1.1 t' (mem_tiersUpTo_greedy.mpr ht') hd) hprev hpath' hlocal hwork
  exact ⟨⟨q, hq⟩, hsame⟩

theorem Draining.dispatch {k : Call} {prev : Option Task} {rnd : Nat → Nat} (hc : c < m.nrCpuIds)
    (hnodup : (work ++ [x]).Nodup) (h : Draining c t x work (sys, log))
    (he : (lunarSys m).enabled sys (.dispatch k c prev rnd))
    (halone : DispatchesAlone m c sys k prev rnd) :
    Draining c t x work ((lunarSys m).exec sys (.dispatch k c prev rnd), log) := by
  obtain ⟨⟨q, hq⟩, hsame⟩ := h.dispatched hc he halone
  obtain ⟨front, hlast⟩ := h.last
  have hunique : (front ++ [x]).Nodup := hlast ▸ h.nodup hnodup
  have hhead : workAhead ((lunarSys m).exec sys (.dispatch k c prev rnd)).sched c t = q ::
      Levels.content (tiersUpTo t)
        (tierQueue ((lunarSys m).exec sys (.dispatch k c prev rnd)).sched c) :=
    congrArg (· ++ _) hq
  refine ⟨?_, ⟨front, ?_⟩, fun hx => ?_⟩
  · rw [hsame]
    exact h.served
  · rw [hsame]
    exact hlast
  · -- x is the head and the last of a list without duplicates.
    rw [hq, List.mem_singleton] at hx
    subst hx
    rw [hsame, hlast] at hhead ⊢
    cases front with
    | nil => rfl
    | cons y rest =>
        obtain ⟨rfl, -⟩ := List.cons.inj hhead
        simp at hunique

theorem running_dsq {k : Call} {p : Task} :
    ((lunarSys m).exec sys (.running k p)).sched.dsq =
      fun id => (sys.sched.dsq id).filter (· ≠ p) := by
  have hrunning (s : Sched) : (lunarRunning m k p s).dsq = s.dsq := by
    unfold lunarRunning
    split
    · rfl
    · dsimp only
      split
      · rfl
      · simp
  exact hrunning (sys.unlink p).sched

theorem running_workAhead {k : Call} {p : Task} (t : Nat) :
    workAhead ((lunarSys m).exec sys (.running k p)).sched c t =
      (workAhead sys.sched c t).filter (· ≠ p) := by
  have hqueue : tierQueue ((lunarSys m).exec sys (.running k p)).sched c =
      fun t' => (tierQueue sys.sched c t').filter (· ≠ p) := by
    funext t'
    rw [tierQueue, running_dsq]
    rfl
  rw [workAhead, workAhead, hqueue, Levels.content_filter, running_dsq, List.filter_append]

theorem Draining.running {k : Call} {p : Task} (hnodup : (work ++ [x]).Nodup)
    (h : Draining c t x work (sys, log)) (he : (lunarSys m).enabled sys (.running k p))
    (hp : sys.cpuOf p = c) :
    Draining c t x work ((lunarSys m).exec sys (.running k p), log ++ [p]) ∨
      HasRun x work (log ++ [p]) := by
  have hp' : p ∈ sys.localDsq c := hp ▸ he.2.2.1
  have hmem : p ∈ workAhead sys.sched c t := List.mem_append_left _ hp'
  have hunique : (workAhead sys.sched c t).Nodup := h.nodup hnodup
  have herase : (workAhead sys.sched c t).filter (· ≠ p) = (workAhead sys.sched c t).erase p := by
    rw [hunique.erase_eq_filter]
    exact List.filter_congr fun q _ => by simp [bne, beq_eq_decide]
  by_cases hx : p = x
  · subst hx
    refine Or.inr ⟨log, [], rfl, ?_⟩
    have hserved := h.served
    rw [h.next hp'] at hserved
    exact (List.perm_append_right_iff _).mp hserved
  · left
    have hleft : workAhead ((lunarSys m).exec sys (.running k p)).sched c t =
        (workAhead sys.sched c t).filter (· ≠ p) := running_workAhead t
    refine ⟨?_, ?_, ?_⟩
    · rw [hleft, List.append_assoc]
      refine (List.Perm.append_left log ?_).trans h.served
      rw [herase]
      exact (List.perm_cons_erase hmem).symm
    · obtain ⟨front, hlast⟩ := h.last
      refine ⟨front.filter (· ≠ p), ?_⟩
      rw [hleft, hlast, List.filter_append]
      simp [Ne.symm hx]
    · intro hlocal
      rw [Sys.localDsq, running_dsq] at hlocal
      have hwork := h.next (List.mem_filter.mp hlocal).1
      rw [hwork, List.mem_singleton] at hmem
      exact absurd hmem hx

theorem HasRun.step (h : HasRun x work log) (sys' : Sys) :
    HasRun x work (watchRan c log sys event sys') := by
  obtain ⟨ran, later, rfl, hran⟩ := h
  obtain ⟨more, hmore⟩ := watchRan_grows c (ran ++ x :: later) sys event sys'
  exact ⟨ran, later ++ more, by simp [hmore], hran⟩

theorem Draining.step (hc : c < m.nrCpuIds) (hnodup : (work ++ [x]).Nodup)
    (h : Draining c t x work (sys, log)) (he : (lunarSys m).enabled sys event)
    (halone : Alone m c sys event) :
    let sys' := (lunarSys m).exec sys event
    Draining c t x work (sys', watchRan c log sys event sys') ∨
      HasRun x work (watchRan c log sys event sys') := by
  rcases halone.cases log with ⟨hsame, hlog⟩ | ⟨k, prev, rnd, rfl, hdispatch⟩ | ⟨k, p, rfl, hp⟩
  · have hkept := hsame.workAhead t
    have hlocal : ((lunarSys m).exec sys event).localDsq c = sys.localDsq c := hsame.1
    refine Or.inl ⟨?_, ?_, ?_⟩
    · rw [hlog, hkept]
      exact h.served
    · rw [hkept]
      exact h.last
    · rw [hkept, hlocal]
      exact h.next
  · exact Or.inl (h.dispatch hc hnodup he hdispatch)
  · have hlog : watchRan c log sys (.running k p) ((lunarSys m).exec sys (.running k p)) =
        log ++ [p] := if_pos hp
    dsimp only
    rw [hlog]
    exact h.running hnodup he hp

end Drain

-- x is put at the end of the queue of its tier on c.
def Appended (before after : Sys) (c t : Nat) (x : Task) : Prop :=
  after.sched.dsq = Function.update before.sched.dsq (getCpuDsqFromType t c)
    (before.sched.dsq (getCpuDsqFromType t c) ++ [x])

theorem Appended.workAhead {before after : Sys} {c t : Nat} {x : Task}
    (h : Appended before after c t x) (hc : c < MAX_CPUS) (ht : IsTier t) :
    workAhead after.sched c t = workAhead before.sched c t ++ [x] := by
  have hlocal : after.sched.dsq (.localOn c) = before.sched.dsq (.localOn c) := by
    rw [h, Function.update_of_ne (getCpuDsqFromType_ne_localOn t c c).symm]
  have hown : tierQueue after.sched c t = tierQueue before.sched c t ++ [x] := by
    rw [tierQueue, h, Function.update_self]
    rfl
  have hother (t' : Nat) (ht' : t' ∈ tiersUpTo t) (hne : t' ≠ t) :
      tierQueue after.sched c t' = tierQueue before.sched c t' := by
    refine (congrFun h _).trans (Function.update_of_ne (fun heq => hne ?_) _ _)
    exact (getCpuDsqFromType_inj (mem_tiersUpTo.mp ht').1 ht hc hc heq).1
  have hpush : Levels.content (tiersUpTo t) (tierQueue after.sched c) =
      Levels.content (tiersUpTo t) (tierQueue before.sched c) ++ [x] :=
    Levels.content_push (tiersUpTo_sorted t) (mem_tiersUpTo.mpr ⟨ht, Nat.le_refl t⟩)
      (fun t' ht' => (mem_tiersUpTo.mp ht').2) hown hother
  rw [Lunar.workAhead, Lunar.workAhead, hlocal, hpush, List.append_assoc]

section Enqueue

variable {m : Machine} {sys : Sys} {c : Nat}

-- No task waits on c twice.
theorem Inv.workAhead_nodup (h : Inv m sys) (hc : c < MAX_CPUS) (t : Nat) :
    (workAhead sys.sched c t).Nodup := by
  refine List.nodup_append.mpr ⟨h.nodup (.localOn c), ?_, ?_⟩
  · refine Levels.content_nodup ((tiersUpTo_sorted t).imp ne_of_lt) (fun t' _ => h.nodup _) ?_
    intro t1 ht1 t2 ht2 p h1 h2
    exact (getCpuDsqFromType_inj (mem_tiersUpTo.mp ht1).1 (mem_tiersUpTo.mp ht2).1 hc hc
      (h.unique _ _ p h1 h2)).1
  · rintro p hp q hq rfl
    obtain ⟨t', -, hq⟩ := Levels.mem_content.mp hq
    exact getCpuDsqFromType_ne_localOn t' c c (h.unique _ _ p hq hp)

-- Just before p is put into a queue.
theorem Inv.unlink_nodup (h : Inv m sys) (hc : c < MAX_CPUS) (t : Nat) (p : Task) :
    (workAhead (sys.unlink p).sched c t ++ [p]).Nodup := by
  refine ((h.unlink p).workAhead_nodup hc t).append (List.nodup_singleton p) ?_
  rw [List.disjoint_singleton]
  intro hp
  rcases List.mem_append.mp hp with hp | hp
  · exact not_mem_unlink sys p _ hp
  · obtain ⟨t', -, hp⟩ := Levels.mem_content.mp hp
    exact not_mem_unlink sys p _ hp

-- lunar_enqueue puts p at one of the ends of a queue of its tier.
theorem Inv.enqueue_appended (h : Inv m sys) {k : Call} {p : Task} {flags : EnqFlags} {env : PickEnv}
    (he : (lunarSys m).enabled sys (.enqueue k p flags env)) {sys' : Sys}
    (hsys' : (lunarSys m).exec sys (.enqueue k p flags env) = sys') :
    ∃ c < m.nrCpuIds, Appended (sys.unlink p) sys' c (sys'.sched.view p).tier p ∨
      (sys'.sched.dsq (getCpuDsqFromType (sys'.sched.view p).tier c)).head? = some p := by
  have hs := h.step_enqueue he.2
  rw [hsys'] at hs
  cases hs with
  | @enqueue _ _ _ _ v target slice head _ _ _ htarget _ _ _ _ henq =>
      have ht : (sys'.sched.view p).tier = v.tier := by
        rw [henq.view, Function.update_self]
      refine ⟨target, htarget.1, ?_⟩
      rw [ht]
      cases head with
      | false => exact Or.inl henq.dsq
      | true =>
          right
          rw [henq.dsq, Function.update_self]
          rfl

end Enqueue

-- As many tasks run on c before x as cpu_load_ahead has counted, the one that runs already
-- included if it is of the tier of x or a better one.
theorem load_ahead_exact {m : Machine} {c t : Nat} {x : Task} {before after : Sys}
    (hc : c < m.nrCpuIds) (ht : IsTier t)
    (hcurrent : (before.sched.dispatchState c).currentTaskDsqType = before.runningTier c)
    (hrt : cpuTakenByRt before.sched c = false)
    (hnodup : (workAhead before.sched c t ++ [x]).Nodup) (happend : Appended before after c t x)
    {state : Sys × List Task}
    (hreach : (((lunarSys m).observe (watchRan c)).restrict fun state event =>
      Alone m c state.1 event).Reaches (after, []) state) :
    let n := cpuLoadAhead m before.sched c t
    let running := if before.runningTier c ≤ t then 1 else 0
    (x ∈ state.2 → ∃ ran later, state.2 = ran ++ x :: later ∧ x ∉ ran ∧
      ran.Perm (workAhead before.sched c t) ∧ ran.length + running = n) ∧
    (x ∉ state.2 → state.2.length + running ≤ n ∧
      ∀ k prev rnd, (lunarSys m).enabled state.1 (.dispatch k c prev rnd) →
        DispatchesAlone m c state.1 k prev rnd →
        ((lunarSys m).exec state.1 (.dispatch k c prev rnd)).localDsq c ≠ []) := by
  intro n running
  have hn : n = (workAhead before.sched c t).length + running := by
    have hload := cpuLoadAhead_eq hc ht hrt
    rw [hcurrent] at hload
    exact hload
  have hafter := happend.workAhead (hc.trans_le m.nrCpuIds_le) ht
  have hstart : Draining c t x (workAhead before.sched c t) (after, []) := by
    refine ⟨by rw [hafter]; rfl, ⟨_, hafter⟩, fun hx => ?_⟩
    have hlocal : after.localDsq c = before.localDsq c := by
      rw [Sys.localDsq, happend, Function.update_of_ne (getCpuDsqFromType_ne_localOn t c c).symm]
      rfl
    rw [hlocal] at hx
    have hmem : x ∈ workAhead before.sched c t := List.mem_append_left _ hx
    exact absurd rfl ((List.nodup_append.mp hnodup).2.2 x hmem x List.mem_cons_self)
  have hinv := TransitionSystem.invariant_of_reaches _
    (P := fun state => Draining c t x (workAhead before.sched c t) state ∨
      HasRun x (workAhead before.sched c t) state.2)
    (fun state event h he => by
      rcases h with h | h
      · exact h.step hc hnodup he.1 he.2
      · exact Or.inr (h.step ((lunarSys m).exec state.1 event)))
    (Or.inl hstart) hreach
  have hnew : x ∉ workAhead before.sched c t := fun hx =>
    (List.nodup_append.mp hnodup).2.2 x hx x List.mem_cons_self rfl
  rcases hinv with hdrain | ⟨ran, later, hlog, hperm⟩
  · refine ⟨fun hx => absurd hx (hdrain.notYet hnodup), fun _ => ⟨?_, ?_⟩⟩
    · have := hdrain.length_le
      omega
    · intro k prev rnd he halone
      obtain ⟨⟨q, hq⟩, -⟩ := hdrain.dispatched hc he halone
      rw [hq]
      exact List.cons_ne_nil q []
  · refine ⟨fun _ => ⟨ran, later, hlog, fun hx => hnew (hperm.mem_iff.mp hx), hperm, ?_⟩, fun hx => ?_⟩
    · have := hperm.length_eq
      omega
    · rw [hlog] at hx
      simp at hx

section LastCome

-- Task 1 runs, the kernel thread 2 and task 3 wait, and task 4 is woken up.
def beforeLast : List Event :=
  [.initTask (.task 10 0 0) 1, .initTask (.task 10 0 0) 2, .initTask (.task 10 0 0) 3,
    .initTask (.task 10 0 0) 4] ++ wakeUp (.task 10 0 0) 1 0 ++ pickNext (.task 10 0 0) 1 ++
    wakeUp (.task 20 0 1) 2 0 ++ wakeUp (.task 20 0 1) 3 0 ++ [.runnable (.task 30 0 1) 4 true 0]

def lastCome : Sys := (lunarSys oneCpu).final oneCpuBoot beforeLast

def lastQueued : Sys :=
  (lunarSys oneCpu).exec lastCome (.enqueue (.task 30 0 1) 4 ⟨true, false⟩ ⟨none, 0⟩)

def drain : List Event :=
  goToSleep (.task 40 0 1) 1 ++ pickNext (.task 40 0 0) 2 ++ goToSleep (.task 50 0 2) 2 ++
    pickNext (.task 50 0 0) 3 ++ goToSleep (.task 60 0 3) 3 ++ pickNext (.task 60 0 0) 4

theorem load_ahead_exact_lastCome :
    let state := ((lunarSys oneCpu).observe (watchRan 0)).final (lastQueued, []) drain
    cpuLoadAhead oneCpu (lastCome.unlink 4).sched 0 DSQ_TYPE_GREEDY = 3 ∧ lastCome.onCpu 0 = some 1 ∧
      ∃ ran later, state.2 = ran ++ 4 :: later ∧ ran.Perm [2, 3] := by
  have hreach : (lunarSys oneCpu).Reaches oneCpuBoot lastCome := ⟨beforeLast, by decide +kernel, rfl⟩
  have hinv := Inv.reaches (Sys.start_boot oneCpu (by decide) fun _ => rfl) hreach
  have htier : (lastQueued.sched.view 4).tier = DSQ_TYPE_GREEDY := by decide +kernel
  have hqueue : (lastQueued.sched.dsq (getCpuDsqFromType DSQ_TYPE_GREEDY 0)).head? = some 3 := by
    decide +kernel
  have happend : Appended (lastCome.unlink 4) lastQueued 0 DSQ_TYPE_GREEDY 4 := by
    have he : (lunarSys oneCpu).enabled lastCome
        (.enqueue (.task 30 0 1) 4 ⟨true, false⟩ ⟨none, 0⟩) := by decide +kernel
    have hsys' : (lunarSys oneCpu).exec lastCome
        (.enqueue (.task 30 0 1) 4 ⟨true, false⟩ ⟨none, 0⟩) = lastQueued := by rw [lastQueued]
    obtain ⟨c, hc, h⟩ := hinv.enqueue_appended he hsys'
    obtain rfl : c = 0 := Nat.lt_one_iff.mp hc
    rw [htier, hqueue] at h
    exact h.resolve_right (by decide)
  have hwork : workAhead (lastCome.unlink 4).sched 0 DSQ_TYPE_GREEDY = [2, 3] := by decide +kernel
  have hexact := (load_ahead_exact (m := oneCpu) (by decide) (by decide) (by decide +kernel)
    (by decide +kernel) (hinv.unlink_nodup (by decide) DSQ_TYPE_GREEDY 4) happend
    ⟨drain, by decide +kernel, rfl⟩).1 (by decide +kernel)
  obtain ⟨ran, later, hlog, -, hperm, -⟩ := hexact
  exact ⟨by decide +kernel, by decide +kernel, ran, later, hlog, hwork ▸ hperm⟩

end LastCome

end Lunar
