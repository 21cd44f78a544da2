import Lunar.Callbacks.Specs
import Lunar.Library.Scan

namespace Lunar

open CircularScan Word64

-- The cpus the scan of pick_enqueue_cpu compares with the own cpu of p.
def Comparable (m : Machine) (s : Sched) (p : Task) (cpu c : Nat) : Prop :=
  c ≠ cpu ∧ cpuLlcId m c = cpuLlcId m cpu ∧ cpuIsOnline m c ∧ (s.task p).cpusPtr c

instance (m : Machine) (s : Sched) (p : Task) (cpu c : Nat) : Decidable (Comparable m s p cpu c) :=
  inferInstanceAs (Decidable (_ ∧ _))

-- The own cpu, and the allowed online cpus of its LLC.
def Candidate (m : Machine) (s : Sched) (p : Task) (cpu c : Nat) : Prop :=
  c = cpu ∨ c < m.nrCpuIds ∧ Comparable m s p cpu c

-- Nothing on c runs before a task that is put into its queue of `tier` now.
structure Free (m : Machine) (s : Sched) (tier c : Nat) : Prop where
  running : ∀ dctx, s.getDispatchCtx m c = some dctx → tier < dctx.currentTaskDsqType
  noRt : cpuTakenByRt s c = false
  localDsq : s.dsq (.localOn c) = []
  queues : ∀ t ≤ tier, IsTier t → s.dsq (getCpuDsqFromType t c) = []

section Scan

variable {m : Machine} {s : Sched} {p : Task} {cpu tier budget : Nat}

-- A lower load is a larger value.
def relief (m : Machine) (s : Sched) (tier c : Nat) : ℤ := -(cpuLoadAhead m s c tier : ℤ)

theorem pickScan_skip {other : Nat} (h : ¬Comparable m s p cpu other) (rest : List Nat)
    (sc : PickScratch) :
    pickScan m s p cpu tier budget (other :: rest) sc = pickScan m s p cpu tier budget rest sc := by
  rw [pickScan]
  split_ifs with hother hallowed
  · rfl
  · rfl
  · refine absurd ⟨?_, ?_, ?_, ?_⟩ h <;> simp_all

theorem pickScan_compare {other : Nat} (h : Comparable m s p cpu other) (rest : List Nat)
    (sc : PickScratch) :
    pickScan m s p cpu tier budget (other :: rest) sc =
      let load := cpuLoadAhead m s other tier
      let better := load < sc.bestLoad
      let sc := if better then { sc with bestLoad := load, best := other } else sc
      if better ∧ load = 0 then sc
      else
        let sc := { sc with sampled := sc.sampled + 1 }
        if sc.sampled ≥ budget then sc else pickScan m s p cpu tier budget rest sc := by
  obtain ⟨hne, hllc, honline, hallowed⟩ := h
  rw [pickScan, if_neg (by simp [hne, hllc, honline]), if_neg (by simp [hallowed])]

-- The scan is a search for the first cpu with the least load among as many as it may
-- compare. That it ends early at a cpu without any load makes no difference.
theorem pickScan_best_eq (cpus : List Nat) {sc : PickScratch} (hsampled : sc.sampled < budget) :
    (pickScan m s p cpu tier budget cpus sc).best =
      (FirstMax.search (relief m s tier)
        ((cpus.filter (Comparable m s p cpu ·)).take (budget - sc.sampled))
        (-(sc.bestLoad : ℤ), sc.best)).2 := by
  induction cpus generalizing sc with
  | nil => simp [pickScan]
  | cons other rest ih =>
      by_cases h : Comparable m s p cpu other
      · obtain ⟨n, hn⟩ : ∃ n, budget - sc.sampled = n + 1 := ⟨budget - sc.sampled - 1, by omega⟩
        rw [pickScan_compare h, List.filter_cons_of_pos (by simpa using h), hn, List.take_succ_cons,
          FirstMax.search_cons]
        have hbetter : relief m s tier other > -(sc.bestLoad : ℤ) ↔
            cpuLoadAhead m s other tier < sc.bestLoad := by
          unfold relief
          omega
        have hgo (sc' : PickScratch) (hsame : sc'.sampled = sc.sampled) :
            (if sc'.sampled + 1 ≥ budget then { sc' with sampled := sc'.sampled + 1 }
              else pickScan m s p cpu tier budget rest { sc' with sampled := sc'.sampled + 1 }).best =
            (FirstMax.search (relief m s tier) ((rest.filter (Comparable m s p cpu ·)).take n)
              (-(sc'.bestLoad : ℤ), sc'.best)).2 := by
          split_ifs with hend
          · have hzero : n = 0 := by omega
            simp [hzero]
          · rw [ih (by dsimp only; omega)]
            dsimp only
            rw [show budget - (sc'.sampled + 1) = n by omega]
        by_cases hb : cpuLoadAhead m s other tier < sc.bestLoad
        · simp only [hb, if_true, hbetter, true_and]
          by_cases hzero : cpuLoadAhead m s other tier = 0
          · rw [if_pos hzero, FirstMax.search_eq_first]
            intro c _
            unfold relief
            omega
          · rw [if_neg hzero]
            exact hgo { sc with bestLoad := cpuLoadAhead m s other tier, best := other } rfl
        · simp only [hb, if_false, hbetter, false_and]
          exact hgo sc rfl
      · rw [pickScan_skip h, ih hsampled, List.filter_cons_of_neg (by simpa using h)]

-- What such a search settles on.
theorem search_placed {l : List Nat} (hl : ∀ c ∈ l, Candidate m s p cpu c) :
    let r := (FirstMax.search (relief m s tier) l (relief m s tier cpu, cpu)).2
    Candidate m s p cpu r ∧ (∀ c, c = cpu ∨ c ∈ l → cpuLoadAhead m s r tier ≤ cpuLoadAhead m s c tier) ∧
      (r = cpu ∨ cpuLoadAhead m s r tier < cpuLoadAhead m s cpu tier) := by
  intro r
  have hvalue : (FirstMax.search (relief m s tier) l (relief m s tier cpu, cpu)).1 =
      relief m s tier r := FirstMax.search_value rfl
  obtain ⟨hfirst, hall⟩ := FirstMax.le_search (relief m s tier) l (relief m s tier cpu, cpu)
  have hmem := FirstMax.search_mem (relief m s tier) l (relief m s tier cpu, cpu)
  rw [hvalue] at hfirst hall hmem
  have hle (c : Nat) (h : relief m s tier c ≤ relief m s tier r) :
      cpuLoadAhead m s r tier ≤ cpuLoadAhead m s c tier := by
    unfold relief at h
    omega
  refine ⟨?_, ?_, ?_⟩
  · rcases hmem with h | ⟨h, -⟩
    · exact Or.inl (congrArg Prod.snd h)
    · exact hl r h
  · rintro c (rfl | hc)
    · exact hle c hfirst
    · exact hle c (hall c hc)
  · rcases hmem with h | ⟨-, hlt⟩
    · exact Or.inl (congrArg Prod.snd h)
    · unfold relief at hlt
      exact Or.inr (by omega)

end Scan

-- A cpu that pick_enqueue_cpu gives for p when no cpu is idle.
structure Placed (m : Machine) (s : Sched) (p : Task) (tier cpu r : Nat) : Prop where
  candidate : Candidate m s p cpu r
  le_own : cpuLoadAhead m s r tier ≤ cpuLoadAhead m s cpu tier
  moved : r = cpu ∨ cpuLoadAhead m s r tier < cpuLoadAhead m s cpu tier
  least : tier ≤ DSQ_TYPE_INTERACTIVE → (s.task p).nrCpusAllowed ≠ 1 →
    ∀ c, Candidate m s p cpu c → cpuLoadAhead m s r tier ≤ cpuLoadAhead m s c tier

section Pick

variable {m : Machine} {env : PickEnv} {s : Sched} {p : Task} {tctx : TaskCtx} {tier cpu now : Nat}

-- The cpus pick_enqueue_cpu compares, in the order in which it meets them.
def comparedCpus (m : Machine) (env : PickEnv) (s : Sched) (p : Task) (tier cpu : Nat) : List Nat :=
  ((visits (env.rnd % m.nrCpuIds) m.nrCpuIds).filter (Comparable m s p cpu ·)).take
    (if tier ≤ DSQ_TYPE_INTERACTIVE then m.nrCpuIds else BALANCE_SAMPLES)

-- The ways through pick_enqueue_cpu.
theorem pickEnqueueCpu_cases (m : Machine) (env : PickEnv) (s : Sched) (p : Task) (tctx : TaskCtx)
    (tier cpu now : Nat) :
    let r := pickEnqueueCpu m env s p tctx tier cpu now
    r.1 = cpu ∧ (cpuLoadAhead m s cpu tier = 0 ∨ (s.task p).nrCpusAllowed = 1 ∨
        DSQ_TYPE_INTERACTIVE < tier) ∨
      env.idle = some r.1 ∨
      env.idle = none ∧ r.1 = (FirstMax.search (relief m s tier) (comparedCpus m env s p tier cpu)
        (relief m s tier cpu, cpu)).2 := by
  unfold pickEnqueueCpu
  dsimp only
  by_cases hzero : cpuLoadAhead m s cpu tier = 0
  · rw [if_pos hzero]
    exact Or.inl ⟨rfl, Or.inl hzero⟩
  by_cases hone : (s.task p).nrCpusAllowed = 1
  · rw [if_neg hzero, if_pos hone]
    exact Or.inl ⟨rfl, Or.inr (Or.inl hone)⟩
  rw [if_neg hzero, if_neg hone]
  cases hidle : env.idle with
  | some idle => exact Or.inr (Or.inl rfl)
  | none =>
      dsimp only
      by_cases hrate : ¬tier ≤ DSQ_TYPE_INTERACTIVE ∧
          sub now tctx.lastMigratedAt < BALANCE_INTERVAL_NS ∧ !cpuTakenByRt s cpu
      · rw [if_pos hrate]
        exact Or.inl ⟨rfl, Or.inr (Or.inr (Nat.lt_of_not_le hrate.1))⟩
      · have hbudget : 0 < if tier ≤ DSQ_TYPE_INTERACTIVE then m.nrCpuIds else BALANCE_SAMPLES := by
          split_ifs
          · exact m.nrCpuIds_pos
          · decide
        rw [if_neg hrate]
        exact Or.inr (Or.inr ⟨rfl, pickScan_best_eq _ hbudget⟩)

-- last_migrated_at says when a task was last moved.
theorem pickEnqueueCpu_migrated :
    let r := pickEnqueueCpu m env s p tctx tier cpu now
    r.2 = if r.1 ≠ cpu then { tctx with lastMigratedAt := now } else tctx := by
  have hstay : (if cpu ≠ cpu then { tctx with lastMigratedAt := now } else tctx) = tctx :=
    if_neg (not_not.mpr rfl)
  unfold pickEnqueueCpu
  dsimp only
  by_cases hzero : cpuLoadAhead m s cpu tier = 0
  · rw [if_pos hzero, hstay]
  by_cases hone : (s.task p).nrCpusAllowed = 1
  · rw [if_neg hzero, if_pos hone, hstay]
  rw [if_neg hzero, if_neg hone]
  cases env.idle with
  | some idle => rfl
  | none =>
      dsimp only
      by_cases hrate : ¬tier ≤ DSQ_TYPE_INTERACTIVE ∧
          sub now tctx.lastMigratedAt < BALANCE_INTERVAL_NS ∧ !cpuTakenByRt s cpu
      · rw [if_pos hrate, hstay]
      · rw [if_neg hrate]

theorem mem_comparedCpus {c : Nat} (hc : c ∈ comparedCpus m env s p tier cpu) :
    Candidate m s p cpu c := by
  have hf := List.mem_filter.mp (List.mem_of_mem_take hc)
  exact Or.inr ⟨(mem_visits _ _ c).mp hf.1, by simpa using hf.2⟩

-- LC and INTERACTIVE tasks may be compared with as many cpus as there are.
theorem mem_comparedCpus_of_latency (hlatency : tier ≤ DSQ_TYPE_INTERACTIVE) {c : Nat}
    (hc : Candidate m s p cpu c) : c = cpu ∨ c ∈ comparedCpus m env s p tier cpu := by
  refine hc.imp_right fun hc => ?_
  unfold comparedCpus
  rw [if_pos hlatency, List.take_of_length_le]
  · exact List.mem_filter.mpr ⟨(mem_visits _ _ c).mpr hc.1, by simpa using hc.2⟩
  · exact (List.length_filter_le _ _).trans (by simp [visits])

theorem pickEnqueueCpu_placed (hidle : env.idle = none) :
    Placed m s p tier cpu (pickEnqueueCpu m env s p tctx tier cpu now).1 := by
  rcases pickEnqueueCpu_cases m env s p tctx tier cpu now with ⟨hr, hwhy⟩ | hr | ⟨-, hr⟩
  · rw [hr]
    refine ⟨Or.inl rfl, Nat.le_refl _, Or.inl rfl, fun hlatency hmany c _ => ?_⟩
    rcases hwhy with hzero | hone | hbulk
    · rw [hzero]
      exact Nat.zero_le _
    · exact absurd hone hmany
    · exact absurd hlatency (Nat.not_le_of_lt hbulk)
  · rw [hidle] at hr
    cases hr
  · rw [hr]
    obtain ⟨hcandidate, hleast, hmoved⟩ := search_placed fun c hc => mem_comparedCpus hc
    exact ⟨hcandidate, hleast cpu (Or.inl rfl), hmoved, fun hlatency _ c hc =>
      hleast c (mem_comparedCpus_of_latency hlatency hc)⟩

end Pick

theorem cpuLoadAhead_eq_zero {m : Machine} {s : Sched} {tier c : Nat} (htier : IsTier tier) :
    cpuLoadAhead m s c tier = 0 ↔ Free m s tier c := by
  have hqueue (t : Nat) : (if tier ≥ t then dsqQueued s (getCpuDsqFromType t c) else 0) = 0 ↔
      (t ≤ tier → s.dsq (getCpuDsqFromType t c) = []) := by
    simp [dsqQueued]
  have hlc : dsqQueued s (getCpuDsqFromType DSQ_TYPE_LC c) = 0 ↔
      (DSQ_TYPE_LC ≤ tier → s.dsq (getCpuDsqFromType DSQ_TYPE_LC c) = []) := by
    simp [dsqQueued, htier.1]
  have hlocal : dsqQueued s (.localOn c) = 0 ↔ s.dsq (.localOn c) = [] := by simp [dsqQueued]
  have hqueues : (∀ t ≤ tier, IsTier t → s.dsq (getCpuDsqFromType t c) = []) ↔
      (DSQ_TYPE_LC ≤ tier → s.dsq (getCpuDsqFromType DSQ_TYPE_LC c) = []) ∧
      (DSQ_TYPE_INTERACTIVE ≤ tier → s.dsq (getCpuDsqFromType DSQ_TYPE_INTERACTIVE c) = []) ∧
      (DSQ_TYPE_NORMAL ≤ tier → s.dsq (getCpuDsqFromType DSQ_TYPE_NORMAL c) = []) ∧
      (DSQ_TYPE_GREEDY ≤ tier → s.dsq (getCpuDsqFromType DSQ_TYPE_GREEDY c) = []) := by
    constructor
    · intro h
      exact ⟨fun hle => h _ hle (by decide), fun hle => h _ hle (by decide),
        fun hle => h _ hle (by decide), fun hle => h _ hle (by decide)⟩
    · rintro ⟨h1, h2, h3, h4⟩ t hle ht
      rcases isTier_cases ht with rfl | rfl | rfl | rfl
      · exact h1 hle
      · exact h2 hle
      · exact h3 hle
      · exact h4 hle
  have hfree : Free m s tier c ↔
      ((∀ dctx, s.getDispatchCtx m c = some dctx → tier < dctx.currentTaskDsqType) ∧
        cpuTakenByRt s c = false) ∧ s.dsq (.localOn c) = [] ∧
        ∀ t ≤ tier, IsTier t → s.dsq (getCpuDsqFromType t c) = [] :=
    ⟨fun h => ⟨⟨h.running, h.noRt⟩, h.localDsq, h.queues⟩,
      fun h => ⟨h.1.1, h.1.2, h.2.1, h.2.2⟩⟩
  rw [hfree, hqueues]
  unfold cpuLoadAhead
  dsimp only
  split
  · rename_i dctx hctx
    have hrunning : (if dctx.currentTaskDsqType ≤ tier then 1
        else if cpuTakenByRt s c then RT_CPU_LOAD else 0) = 0 ↔
        (∀ dctx', some dctx = some dctx' → tier < dctx'.currentTaskDsqType) ∧
          cpuTakenByRt s c = false := by
      by_cases hle : dctx.currentTaskDsqType ≤ tier
      · simp [hle]
      · simp [hle, Nat.lt_of_not_le hle, RT_CPU_LOAD]
    rw [hctx]
    simp only [Nat.add_eq_zero_iff, hrunning, hlocal, hlc, hqueue, and_assoc]
  · rename_i hctx
    have hrunning : (if cpuTakenByRt s c then RT_CPU_LOAD else 0) = 0 ↔
        (∀ dctx', (none : Option DispatchCtx) = some dctx' → tier < dctx'.currentTaskDsqType) ∧
          cpuTakenByRt s c = false := by
      simp [RT_CPU_LOAD]
    rw [hctx]
    simp only [Nat.add_eq_zero_iff, hrunning, hlocal, hlc, hqueue, and_assoc]

-- The queue after an insert.
def inserted (head : Bool) (p : Task) (tasks : List Task) : List Task :=
  if head then p :: tasks else tasks ++ [p]

-- Where lunar_enqueue puts a p that does not go on with the rest of a slice.
structure EnqueuedAt (m : Machine) (k : Call) (env : PickEnv) (head : Bool) (p : Task)
    (tier target : Nat) (s s' : Sched) : Prop where
  lt : target < m.nrCpuIds
  online : cpuIsOnline m target
  allowed : target = (s.task p).cpu ∨ (s.task p).cpusPtr target
  dsq : s'.dsq = Function.update s.dsq (getCpuDsqFromType tier target)
    (inserted head p (s.dsq (getCpuDsqFromType tier target)))
  -- pick_enqueue_cpu decides it for a task with a task_ctx
  picked : s.taskCtxStore p = none ∧ target = (s.task p).cpu ∨
    ∃ tctx, let r := pickEnqueueCpu m env s p tctx tier (s.task p).cpu k.now
      target = (if cpuIsOnline m r.1 then r.1 else (s.task p).cpu) ∧ s'.taskCtxStore p = some r.2

theorem stampAndInsert_frame (m : Machine) (k : Call) (p : Task) (tier target slice : Nat)
    (head : Bool) (s : Sched) :
    let s' := stampAndInsert m k p tier target slice head s
    s'.dsq = Function.update s.dsq (getCpuDsqFromType tier target)
        (inserted head p (s.dsq (getCpuDsqFromType tier target))) ∧
      s'.taskCtxStore = s.taskCtxStore := by
  unfold stampAndInsert
  dsimp only
  generalize hs1 : (if tier ≠ DSQ_TYPE_LC ∧ dsqQueued s (getCpuDsqFromType tier target) = 0 then
    s.updDispatchCtx m target fun dctx => stampTierHeadTs dctx tier k.now else s) = s1
  have hsame : s1.dsq = s.dsq ∧ s1.taskCtxStore = s.taskCtxStore := by
    rw [← hs1]
    split_ifs <;> simp
  simp [Sched.dsqInsert, inserted, hsame.1, hsame.2]

theorem enqueueOn_frame (m : Machine) (k : Call) (flags : EnqFlags) (p : Task) (tier target : Nat)
    (s : Sched) :
    let target' := if cpuIsOnline m target then target else (s.task p).cpu
    let s' := enqueueOn m k flags p tier target s
    s'.dsq = Function.update s.dsq (getCpuDsqFromType tier target')
        (inserted flags.head p (s.dsq (getCpuDsqFromType tier target'))) ∧
      s'.taskCtxStore = s.taskCtxStore := by
  intro target'
  have htarget : (if !cpuIsOnline m target then (s.task p).cpu else target) = target' := by
    cases honline : cpuIsOnline m target with
    | true => simp [target', honline]
    | false => simp [target', honline]
  have hinsert := stampAndInsert_frame m k p tier target' SLICE_NS flags.head s
  unfold enqueueOn
  dsimp only
  rw [htarget]
  split
  · exact hinsert
  · split_ifs
    · exact hinsert
    · simpa using hinsert
    · exact hinsert

theorem lunarEnqueue_at {m : Machine} {env : PickEnv} {s : Sched} {p : Task}
    (hcpu : (s.task p).cpu < m.nrCpuIds) (honline : cpuIsOnline m (s.task p).cpu)
    (hidle : ∀ idle, env.idle = some idle → idle < m.nrCpuIds ∧ (s.task p).cpusPtr idle) (k : Call)
    (flags : EnqFlags)
    (hfresh : (s.view p).resumeSlice = 0 ∨ cpuTakenByRt s (s.task p).cpu) :
    ∃ tier target, EnqueuedAt m k env flags.head p tier target s (lunarEnqueue m k env flags p s) := by
  unfold lunarEnqueue
  dsimp only
  cases hctx : s.taskCtxStore p with
  | none =>
      have htarget : (if cpuIsOnline m (s.task p).cpu then (s.task p).cpu else (s.task p).cpu) =
          (s.task p).cpu := ite_self _
      have hframe := enqueueOn_frame m k flags p (effectiveTier none) (s.task p).cpu s
      rw [htarget] at hframe
      exact ⟨_, _, hcpu, honline, Or.inl rfl, hframe.1, Or.inl ⟨hctx, rfl⟩⟩
  | some tctx =>
      dsimp only
      -- The wake boost comes first and has no part in this.
      generalize htctx1 : (if flags.wakeup then applyWakeBoost k s p tctx else tctx) = tctx1
      have hsame : tctx1.resumeSlice = (s.view p).resumeSlice := by
        obtain ⟨boost, used, hboost⟩ := applyWakeBoost_frame k s p tctx
        rw [← htctx1, Sched.view_of_some hctx, hboost]
        split_ifs
        · rfl
        · rfl
      generalize htctx2 : (if tctx1.resumeSlice ≠ 0 ∧ cpuTakenByRt s (s.task p).cpu then
        { tctx1 with resumeSlice := 0 } else tctx1) = tctx2
      have hzero : tctx2.resumeSlice = 0 := by
        rw [← htctx2]
        split_ifs with h
        · rfl
        · rw [hsame] at h ⊢
          by_contra hne
          exact h ⟨hne, hfresh.resolve_left hne⟩
      rw [if_neg (not_not.mpr hzero)]
      have hpick := (pickEnqueueCpu_spec m env s p tctx2 (effectiveTier (some tctx1)) (s.task p).cpu
        k.now hidle).1
      have hframe := enqueueOn_frame m k flags p (effectiveTier (some tctx1))
        (pickEnqueueCpu m env s p tctx2 (effectiveTier (some tctx1)) (s.task p).cpu k.now).1
        (s.setTaskCtx p
          (pickEnqueueCpu m env s p tctx2 (effectiveTier (some tctx1)) (s.task p).cpu k.now).2)
      generalize hr : pickEnqueueCpu m env s p tctx2 (effectiveTier (some tctx1)) (s.task p).cpu k.now =
        r at hpick hframe ⊢
      have hplace (target : Nat) (htarget : (if cpuIsOnline m r.1 then r.1 else (s.task p).cpu) = target) :
          target < m.nrCpuIds ∧ cpuIsOnline m target ∧
            (target = (s.task p).cpu ∨ (s.task p).cpusPtr target) := by
        rw [← htarget]
        split_ifs with hon
        · rcases hpick with hown | ⟨hlt, hallowed⟩
          · rw [hown]
            exact ⟨hcpu, honline, Or.inl rfl⟩
          · exact ⟨hlt, hon, Or.inr hallowed⟩
        · exact ⟨hcpu, honline, Or.inl rfl⟩
      obtain ⟨hlt, hon, hallowed⟩ := hplace _ rfl
      refine ⟨_, _, hlt, hon, hallowed, hframe.1, Or.inr ⟨tctx2, ?_, ?_⟩⟩
      · rw [hr]
      · rw [hframe.2, hr]
        simp

-- Placement: a queue of an online cpu that p may run on, and if no cpu is idle one with no
-- more work ahead of p than there is on the own cpu. LC and INTERACTIVE tasks find the
-- least work of the LLC, and no task is moved for nothing.
theorem lunarEnqueue_least_loaded {m : Machine} {env : PickEnv} {s : Sched} {p : Task}
    (hcpu : (s.task p).cpu < m.nrCpuIds) (honline : cpuIsOnline m (s.task p).cpu)
    (hidle : ∀ idle, env.idle = some idle → idle < m.nrCpuIds ∧ (s.task p).cpusPtr idle) :
    let cpu := (s.task p).cpu
    (∀ k flags, (s.view p).resumeSlice = 0 ∨ cpuTakenByRt s cpu →
      ∃ tier target, EnqueuedAt m k env flags.head p tier target s (lunarEnqueue m k env flags p s)) ∧
    ∀ tctx tier now, IsTier tier →
      let r := pickEnqueueCpu m env s p tctx tier cpu now
      (env.idle = none →
        cpuLoadAhead m s r.1 tier ≤ cpuLoadAhead m s cpu tier ∧
        (tier ≤ DSQ_TYPE_INTERACTIVE → (s.task p).nrCpusAllowed ≠ 1 →
          Candidate m s p cpu r.1 ∧
          (∀ c, Candidate m s p cpu c → cpuLoadAhead m s r.1 tier ≤ cpuLoadAhead m s c tier) ∧
          ((∃ c, Candidate m s p cpu c ∧ Free m s tier c) → Free m s tier r.1)) ∧
        ((∀ c, Candidate m s p cpu c → cpuLoadAhead m s cpu tier ≤ cpuLoadAhead m s c tier) →
          r.1 = cpu)) ∧
      r.2 = if r.1 ≠ cpu then { tctx with lastMigratedAt := now } else tctx := by
  refine ⟨fun k flags => lunarEnqueue_at hcpu honline hidle k flags, ?_⟩
  intro tctx tier now htier r
  refine ⟨fun hnone => ?_, pickEnqueueCpu_migrated⟩
  have hplaced : Placed m s p tier (s.task p).cpu r.1 := pickEnqueueCpu_placed hnone
  refine ⟨hplaced.le_own, fun hlatency hmany => ?_, fun hleast => ?_⟩
  · have hleast := hplaced.least hlatency hmany
    refine ⟨hplaced.candidate, hleast, ?_⟩
    rintro ⟨c, hc, hfree⟩
    have hzero := hleast c hc
    rw [(cpuLoadAhead_eq_zero htier).mpr hfree] at hzero
    exact (cpuLoadAhead_eq_zero htier).mp (Nat.le_zero.mp hzero)
  · rcases hplaced.moved with h | h
    · exact h
    · exact absurd (hleast r.1 hplaced.candidate) (Nat.not_le_of_lt h)

section Crowded

def fourCpus : Machine := .uniform 4 (by decide) (by decide)

-- Task 7 is to be placed, on cpu 0 until now. LC tasks wait on the cpus 0 and 1, cpu 2 runs
-- a NORMAL task, and cpu 3 is not for task 7.
def crowded : Sched :=
  { Sched.zeroed with
    task := fun p =>
      { TaskStruct.zeroed with
        nrCpusAllowed := 3
        cpusPtr := fun cpu => p ≠ 7 || cpu < 3 }
    taskCtxStore := fun p => if p = 7 then some TaskCtx.zeroed else none
    dispatchState := fun cpu => { DispatchCtx.zeroed with
      currentTaskDsqType := if cpu = 2 then DSQ_TYPE_NORMAL else DSQ_TYPE_EMPTY }
    dsq := fun id =>
      if id = getCpuDsqFromType DSQ_TYPE_LC 0 then [8]
      else if id = getCpuDsqFromType DSQ_TYPE_LC 1 then [9] else [] }

-- As an INTERACTIVE task it goes to cpu 2.
theorem lunarEnqueue_least_loaded_crowded :
    let r := pickEnqueueCpu fourCpus ⟨none, 1⟩ crowded 7 TaskCtx.zeroed DSQ_TYPE_INTERACTIVE 0 100
    r.1 = 2 ∧ Free fourCpus crowded DSQ_TYPE_INTERACTIVE r.1 ∧ r.2.lastMigratedAt = 100 := by
  intro r
  have hidle : ∀ idle, (⟨none, 1⟩ : PickEnv).idle = some idle →
      idle < fourCpus.nrCpuIds ∧ (crowded.task 7).cpusPtr idle := by simp
  have hplaced := (lunarEnqueue_least_loaded (by decide) (by decide) hidle).2 TaskCtx.zeroed
    DSQ_TYPE_INTERACTIVE 100 (by decide)
  have hfree : Free fourCpus crowded DSQ_TYPE_INTERACTIVE 2 :=
    (cpuLoadAhead_eq_zero (by decide)).mp (by decide)
  have hleast := ((hplaced.1 rfl).2.1 (by decide) (by decide)).2.2
  have hr : r.1 = 2 := by decide
  refine ⟨hr, hleast ⟨2, Or.inr ⟨by decide, by decide⟩, hfree⟩, ?_⟩
  have hmigrated : r.2 = if r.1 ≠ 0 then { TaskCtx.zeroed with lastMigratedAt := 100 }
      else TaskCtx.zeroed := hplaced.2
  rw [hmigrated, hr]
  rfl

end Crowded

end Lunar
