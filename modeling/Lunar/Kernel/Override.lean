import Lunar.Kernel.OverrideBudget

namespace Lunar

-- A take of the cpu runs. While it is being replaced all of it has been charged.
structure Serving (c : Nat) (sys : Sys) (log : OverrideLog) (now since : Nat) (p : Task) : Prop where
  onCpu : sys.onCpu c = some p
  started : since ≤ (sys.sched.view p).startedAt ∧ (sys.sched.view p).startedAt ≤ now ∧
    now ≤ since + SLICE_NS
  budget : BudgetOk (sys.sched.dispatchState c) log (now - (sys.sched.view p).startedAt) now
  switching : sys.switching c → (sys.sched.view p).startedAt = now
  tier : sys.switching c = false →
    log.spent < STARVE_OVERRIDE_BUDGET_NS + (now - (sys.sched.view p).startedAt) ∧
      ((sys.sched.dispatchState c).overrideLeft ≠ 0 →
        (sys.sched.view p).tier = (sys.sched.dispatchState c).overrideTier)

-- A task that was taken will run next, and was taken within the budget.
structure Taken (c : Nat) (sys : Sys) (log : OverrideLog) (q : Task) : Prop where
  mem : q ∈ sys.localDsq c
  spent : log.spent < STARVE_OVERRIDE_BUDGET_NS
  tier : (sys.sched.dispatchState c).overrideLeft ≠ 0 →
    (sys.sched.view q).tier = (sys.sched.dispatchState c).overrideTier
  switching : log.serving ≠ none → sys.switching c

structure OverrideOk (c : Nat) (sys : Sys) (log : OverrideLog) (now : Nat) : Prop where
  idle : log.serving = none → BudgetOk (sys.sched.dispatchState c) log 0 now
  serving : ∀ since, log.serving = some since → ∃ p, Serving c sys log now since p
  taken : ∀ q, log.taken = some q → Taken c sys log q

namespace OverrideOk

variable {m : Machine} {c now : Nat} {sys sys' : Sys} {log : OverrideLog} {p : Task}

theorem budget (h : OverrideOk c sys log now) :
    ∃ uncharged, BudgetOk (sys.sched.dispatchState c) log uncharged now := by
  cases hs : log.serving with
  | none => exact ⟨_, h.idle hs⟩
  | some since =>
      obtain ⟨p, hp⟩ := h.serving since hs
      exact ⟨_, hp.budget⟩

theorem serving_none (h : OverrideOk c sys log now) (hidle : sys.onCpu c = none) : log.serving = none := by
  cases hs : log.serving with
  | none => rfl
  | some since =>
      obtain ⟨p, hp⟩ := h.serving since hs
      simp [hp.onCpu] at hidle

-- Time passes.
theorem tick (h : OverrideOk c sys log now) {now' : Nat} (hnow : now ≤ now')
    (hserving : ∀ since ∈ log.serving, now' ≤ since + SLICE_NS)
    (hswitching : sys.switching c → now' = now) : OverrideOk c sys (log.tick (now' - now)) now' := by
  obtain ⟨time, rfl⟩ := Nat.exists_eq_add_of_le hnow
  rw [Nat.add_sub_cancel_left]
  have hspent := log.spent_tick_le time
  constructor
  · intro hs
    rw [OverrideLog.tick_serving] at hs
    rw [log.tick_of_none hs]
    exact (h.idle hs).wait hnow
  · intro since hs
    rw [OverrideLog.tick_serving] at hs
    obtain ⟨p, hp⟩ := h.serving since hs
    have hslice := hserving since hs
    have hstarted := hp.started
    have hlt := hp.budget.spent_lt
    have hin : log.spent + time < STARVE_OVERRIDE_BUDGET_NS + SLICE_NS := by
      cases hsw : sys.switching c with
      | true =>
          have := hswitching hsw
          omega
      | false =>
          have := (hp.tier hsw).1
          omega
    refine ⟨p, hp.onCpu, by omega, ?_, fun hsw => ?_, fun hsw => ?_⟩
    · rw [Nat.sub_add_comm hstarted.2.1]
      exact hp.budget.tick time hin
    · rw [hswitching hsw]
      exact hp.switching hsw
    · obtain ⟨hless, htier⟩ := hp.tier hsw
      exact ⟨by omega, htier⟩
  · intro q hq
    rw [OverrideLog.tick_taken] at hq
    obtain ⟨hmem, hless, htier, hsw⟩ := h.taken q hq
    refine ⟨hmem, ?_, htier, by rw [OverrideLog.tick_serving]; exact hsw⟩
    cases hs : log.serving with
    | none => rwa [log.tick_of_none hs]
    | some since =>
        have := hswitching (hsw (by simp [hs]))
        omega

-- Nothing changed that matters for the override of the cpu.
theorem frame (h : OverrideOk c sys log now)
    (hsame : SameOverride (sys.sched.dispatchState c) (sys'.sched.dispatchState c))
    (honCpu : sys'.onCpu c = sys.onCpu c) (hswitching : sys'.switching c = sys.switching c)
    (hview : ∀ p, sys.onCpu c = some p ∨ log.taken = some p →
      (sys'.sched.view p).startedAt = (sys.sched.view p).startedAt ∧
        (sys'.sched.view p).tier = (sys.sched.view p).tier)
    (hlocal : ∀ p, log.taken = some p → p ∈ sys.localDsq c → p ∈ sys'.localDsq c) :
    OverrideOk c sys' log now := by
  constructor
  · intro hs
    exact (h.idle hs).same hsame
  · intro since hs
    obtain ⟨p, hp⟩ := h.serving since hs
    obtain ⟨hstarted, htier⟩ := hview p (Or.inl hp.onCpu)
    refine ⟨p, honCpu ▸ hp.onCpu, ?_, ?_, ?_, ?_⟩
    · rw [hstarted]
      exact hp.started
    · rw [hstarted]
      exact hp.budget.same hsame
    · rw [hstarted, hswitching]
      exact hp.switching
    · rw [hstarted, htier, hswitching, hsame.left, hsame.tier]
      exact hp.tier
  · intro q hq
    obtain ⟨hmem, hspent, htier, hsw⟩ := h.taken q hq
    refine ⟨hlocal q hq hmem, hspent, ?_, by rw [hswitching]; exact hsw⟩
    rw [(hview q (Or.inr hq)).2, hsame.left, hsame.tier]
    exact htier

-- A task changes that neither runs on the cpu nor was taken for it.
theorem change (h : OverrideOk c sys log now) {phase : Phase} {v : TaskView} {task : TaskStruct}
    (hc : Changed sys sys' p phase v task)
    (hp : sys.onCpu c ≠ some p ∧ log.taken ≠ some p ∨ v = sys.sched.view p)
    (hsame : SameOverride (sys.sched.dispatchState c) (sys'.sched.dispatchState c))
    (honCpu : sys'.onCpu c = sys.onCpu c) (hswitching : sys'.switching c = sys.switching c)
    (hlocal : ∀ q, log.taken = some q → q ∈ sys.localDsq c → q ∈ sys'.localDsq c) :
    OverrideOk c sys' log now := by
  refine h.frame hsame honCpu hswitching (fun q hq => ?_) hlocal
  rw [hc.view, Function.update_apply]
  split_ifs with he
  · subst he
    rcases hp with hp | hp
    · rcases hq with hq | hq
      · exact absurd hq hp.1
      · exact absurd hq hp.2
    · rw [hp]
      exact ⟨rfl, rfl⟩
  · exact ⟨rfl, rfl⟩

theorem change_same (h : OverrideOk c sys log now) {phase : Phase} {v : TaskView} {task : TaskStruct}
    (hc : Changed sys sys' p phase v task)
    (hp : sys.onCpu c ≠ some p ∧ log.taken ≠ some p ∨ v = sys.sched.view p) (hcpus : SameCpus sys sys')
    (hlocal : ∀ q, log.taken = some q → q ∈ sys.localDsq c → q ∈ sys'.localDsq c) :
    OverrideOk c sys' log now :=
  h.change hc hp (hcpus.dispatchState ▸ .refl _) (congrFun hcpus.onCpu c) (congrFun hcpus.switching c)
    hlocal

theorem inserted (h : OverrideOk c sys log now) {head : Bool} (hi : Inserted sys sys' p head) :
    OverrideOk c sys' log now := by
  refine h.change_same hi.changed (Or.inr rfl) hi.cpus fun q _ hq => ?_
  rw [Sys.localDsq, hi.dsq, Function.update_apply]
  by_cases hc : c = sys.cpuOf p
  · subst hc
    rw [if_pos rfl]
    split_ifs
    · exact List.mem_cons_of_mem _ hq
    · exact List.mem_append_left _ hq
  · rw [if_neg fun he => hc (DsqId.localOn.inj he)]
    exact hq

-- A task that waits nowhere and does not run.
theorem off (h : OverrideOk c sys log now) (hinv : Inv m sys) (hp : sys.phase p ≠ .running)
    (hq : sys.phase p ≠ .queued) : sys.onCpu c ≠ some p ∧ log.taken ≠ some p :=
  ⟨fun hc => hp ((hinv.onCpu c p).mp hc).1,
    fun ht => hq (hinv.members _ p (h.taken p ht).mem).phase⟩

-- The task that was taken is not taken any more.
theorem leave (h : OverrideOk c sys log now) (p : Task) :
    OverrideOk c sys (log.leave p) now ∧ (log.leave p).taken ≠ some p := by
  unfold OverrideLog.leave
  split_ifs with ht
  · refine ⟨⟨fun hs => (h.idle hs).log_same rfl, fun since hs => ?_, by simp⟩, by simp⟩
    obtain ⟨q, hq⟩ := h.serving since hs
    exact ⟨q, hq.onCpu, hq.started, hq.budget.log_same rfl, hq.switching, hq.tier⟩
  · exact ⟨h, ht⟩

-- The task that a dispatch has found is alone in the local DSQ, in the tier it was found in.
theorem next {k : Call} {r d : Nat} {q : Task} (hinv : Inv m sys)
    (hm : Moved m sys.sched c r d k.now q sys'.sched) (hlt : c < m.nrCpuIds)
    (hlocal : sys.localDsq c = []) : sys'.localDsq c = [q] ∧ sys.phase q = .queued ∧
      (sys.sched.view q).tier = r := by
  have hmax := m.nrCpuIds_le
  have hmember := hinv.members _ q (List.mem_of_find?_eq_some hm.first)
  have hd := hm.source.lt hlt
  refine ⟨?_, hmember.phase, (hmember.tier r d hm.tier (by omega) rfl).1⟩
  rw [Sys.localDsq, hm.localDsq, show sys.sched.dsq (.localOn c) = [] from hlocal]
  rfl

-- What a dispatch leaves when all has been charged before it looks for the next task.
theorem after {log' : OverrideLog} {path : OverridePath} {r : Nat} {goesOn : Bool}
    {dctx : DispatchCtx} (hb : BudgetOk dctx log 0 now)
    (hlog' : log' = log.dispatched path now (sys'.localDsq c).head? goesOn)
    (hc : OverrideChange now r dctx (sys'.sched.dispatchState c) path) (hnone : log.taken = none)
    (hserving : ∀ since, log'.serving = some since → ∃ p, sys'.onCpu c = some p ∧
      since ≤ now ∧ now ≤ since + SLICE_NS ∧ (sys'.sched.view p).startedAt = now ∧ sys'.switching c)
    (hnext : path ≠ .none → ∃ q, sys'.localDsq c = [q] ∧ (sys'.sched.view q).tier = r) :
    OverrideOk c sys' log' now := by
  obtain ⟨hbudget, hpath⟩ := hb.change hc (sys'.localDsq c).head? goesOn
  rw [← hlog'] at hbudget hpath
  constructor
  · intro _
    exact hbudget
  · intro since hs
    obtain ⟨p, honCpu, hsince, hslice, hstarted, hsw⟩ := hserving since hs
    refine ⟨p, honCpu, by omega, ?_, fun _ => hstarted, by simp [hsw]⟩
    rw [hstarted, Nat.sub_self]
    exact hbudget
  · intro q hq
    have hne : path ≠ .none := by
      rintro rfl
      simp [hlog', hnone] at hq
    obtain ⟨q', hlocal, htier⟩ := hnext hne
    have hq' : q = q' := by simpa [hlog', hne, hlocal] using hq.symm
    subst hq'
    refine ⟨by simp [hlocal], (hpath hne).1, fun _ => htier.trans (hpath hne).2, fun hs => ?_⟩
    obtain ⟨since, hs⟩ := Option.ne_none_iff_exists'.mp hs
    obtain ⟨p, -, -, -, -, hsw⟩ := hserving since hs
    exact hsw

-- The task that runs is charged for its time.
theorem charged (h : OverrideOk c sys log now) (hp : sys.onCpu c = some p) :
    BudgetOk (chargeOverride (sys.sched.dispatchState c) (sys.sched.view p).tier
      (elapsed now (sys.sched.view p).startedAt)) log 0 now := by
  cases hs : log.serving with
  | none => exact (h.idle hs).charge (by simp)
  | some since =>
      obtain ⟨q, hq⟩ := h.serving since hs
      obtain rfl : p = q := Option.some.inj (hp.symm.trans hq.onCpu)
      refine hq.budget.charge fun hleft huncharged => ?_
      cases hsw : sys.switching c with
      | true =>
          have := hq.switching hsw
          omega
      | false => exact ⟨(hq.tier hsw).2 hleft, by rw [elapsed_eq]⟩

theorem dispatched {k : Call} {path : OverridePath} (h : OverrideOk c sys log k.now) (hinv : Inv m sys)
    (hlt : c < m.nrCpuIds) (hlocal : sys.localDsq c = []) (honCpu : sys'.onCpu = sys.onCpu)
    (hs : DispatchStep m k c path sys sys') :
    OverrideOk c sys' (log.dispatched path k.now (sys'.localDsq c).head?
      ((sys.onCpu c).any fun p => (sys'.sched.task p).slice ≠ 0)) k.now := by
  have hnone : log.taken = none := by
    cases ht : log.taken with
    | none => rfl
    | some q =>
        have hmem := (h.taken q ht).mem
        rw [hlocal] at hmem
        cases hmem
  cases hs with
  | idle hidle hd _ =>
      have hserving := h.serving_none hidle
      refine after (h.idle hserving) rfl (hd.override hlt) hnone (by simp [hserving]) fun hpath => ?_
      obtain ⟨q, hm⟩ := hd.moved_of_path hpath
      obtain ⟨hnext, -, htier⟩ := next hinv hm hlt hlocal
      exact ⟨q, hnext, by rw [Sched.view_congr hd.sameOutside.taskCtxStore, htier]⟩
  | @replaced p q tier r d s1 hp hslice hacc hd hm hswitching =>
      have hview : sys'.sched.view = _ := (Sched.view_congr hd.sameOutside.taskCtxStore).trans hacc.view
      have hb := h.charged hp
      have hstate : s1.dispatchState c = _ := (congrFun hacc.dispatchState c).trans (Function.update_self ..)
      have hslice' : (sys'.sched.task p).slice = 0 := by rw [(hm.slice p).1, hacc.task, hslice]
      rw [← hstate] at hb
      refine after hb rfl (hd.override hlt) hnone (fun since hs => ?_) fun _ => ?_
      · have hs : log.serving = some since := by simpa [hp, hslice'] using hs
        obtain ⟨p', hp'⟩ := h.serving since hs
        have hstarted := hp'.started
        refine ⟨p, by rw [honCpu, hp], by omega, hstarted.2.2, ?_, by simp [hswitching]⟩
        rw [hview, Function.update_self]
        rfl
      · obtain ⟨hnext, hphase, htier⟩ := next hinv (hacc.unmoved.moved hm) hlt hlocal
        have hne : q ≠ p := by
          rintro rfl
          simp [((hinv.onCpu c q).mp hp).1] at hphase
        exact ⟨q, hnext, by rw [hview, Function.update_of_ne hne, htier]⟩
  | @continued p tier tier' s1 hp _ hacc hpath hc _ =>
      have hb := h.charged hp
      have hstate : s1.dispatchState c = _ := (congrFun hacc.dispatchState c).trans (Function.update_self ..)
      have hslice' : (sys'.sched.task p).slice = SLICE_NS := by rw [hc.task, Function.update_self]
      rw [← hstate] at hb
      subst hpath
      refine after (r := 0) hb rfl (.ended ?_) hnone ?_ (by simp)
      · rw [hc.dispatchState, Function.update_self]
        exact ⟨rfl, rfl, rfl⟩
      · have hgoes : SLICE_NS ≠ 0 := by decide
        simp [hp, hslice', hgoes]

-- A dispatch on another cpu.
theorem elsewhere {k : Call} {cpu : Nat} {path : OverridePath} (h : OverrideOk c sys log now)
    (hinv : Inv m sys) (hc : c ≠ cpu) (honCpu : sys'.onCpu = sys.onCpu)
    (hsame : SameOverride (sys.sched.dispatchState c) (sys'.sched.dispatchState c))
    (hs : DispatchStep m k cpu path sys sys') : OverrideOk c sys' log now := by
  -- What runs on cpu neither runs on c nor waits there.
  have hother (p : Task) (hp : sys.onCpu cpu = some p) (q : Task)
      (hq : sys.onCpu c = some q ∨ log.taken = some q) : q ≠ p := by
    have hrun := (hinv.onCpu cpu p).mp hp
    rintro rfl
    rcases hq with hq | hq
    · exact hc (((hinv.onCpu c q).mp hq).2.symm.trans hrun.2)
    · have := (hinv.members _ q (h.taken q hq).mem).phase
      simp [hrun.1] at this
  have hlocal {t d now : Nat} {q : Task} (hm : Moved m sys.sched cpu t d now q sys'.sched) :
      sys'.localDsq c = sys.localDsq c :=
    hm.dsq_other (fun he => hc (DsqId.localOn.inj he)) (getCpuDsqFromType_ne_localOn t d c).symm
  cases hs with
  | idle hidle hd hswitching =>
      have hview := Sched.view_congr hd.sameOutside.taskCtxStore
      refine h.frame hsame (congrFun honCpu c) (congrFun hswitching c)
        (fun q _ => by rw [hview]; exact ⟨rfl, rfl⟩) fun q _ hq => ?_
      rcases hd.moved_or_unmoved with ⟨d, q', hm⟩ | ⟨-, hu⟩
      · rw [hlocal hm]
        exact hq
      · rw [Sys.localDsq, hu.dsq]
        exact hq
  | @replaced p q tier r d s1 hp _ hacc hd hm hswitching =>
      refine h.frame hsame (congrFun honCpu c) (by rw [hswitching, Function.update_of_ne hc])
        (fun q hq => ?_) fun q _ hq => ?_
      · rw [Sched.view_congr hd.sameOutside.taskCtxStore, hacc.view,
          Function.update_of_ne (hother p hp q hq)]
        exact ⟨rfl, rfl⟩
      · rw [hlocal (hacc.unmoved.moved hm)]
        exact hq
  | @continued p tier tier' s1 hp _ hacc _ hcont hswitching =>
      refine h.frame hsame (congrFun honCpu c) (congrFun hswitching c) (fun q hq => ?_) fun q _ hq => ?_
      · rw [hcont.view, hacc.view, Function.update_idem, Function.update_of_ne (hother p hp q hq)]
        exact ⟨rfl, rfl⟩
      · rw [Sys.localDsq, hcont.dsq, hacc.dsq]
        exact hq

theorem mem_unlink {q : Task} (hq : q ∈ sys.localDsq c) (hne : q ≠ p) :
    q ∈ (sys.unlink p).sched.dsq (.localOn c) := List.mem_filter.mpr ⟨hq, by simpa using hne⟩

theorem ran {k : Call} (h : OverrideOk c sys log k.now) (hinv : Inv m sys)
    (hs : Step m sys sys' (.running k p)) : OverrideOk c sys' (log.run p k.now) k.now := by
  have hsame := hs.sameOverride (c := c) id
  cases hs with
  | running hproc hmem hphase hidle hc honCpu hswitching hstate hdsq _ =>
    have hlocal (q : Task) (hne : q ≠ p) (hq : q ∈ sys.localDsq c) : q ∈ sys'.localDsq c := by
      rw [Sys.localDsq, hdsq]
      exact mem_unlink hq hne
    unfold OverrideLog.run
    split_ifs with ht
    · -- The take starts to run.
      have htaken := h.taken p ht
      have hcpu : sys.cpuOf p = c := (hinv.members _ p htaken.mem).localCpu c rfl
      rw [hcpu] at hidle honCpu
      have hbudget := h.idle (h.serving_none hidle)
      have hsw : sys.switching c = false := by
        cases hsw : sys.switching c with
        | false => rfl
        | true => exact absurd hidle (hinv.switching c hsw)
      have hstarted : (sys'.sched.view p).startedAt = k.now := by rw [hc.view, Function.update_self]
      have htier : (sys'.sched.view p).tier = (sys.sched.view p).tier := by
        rw [hc.view, Function.update_self]
      refine ⟨by simp, fun since hs => ⟨p, ?_⟩, by simp⟩
      obtain rfl : k.now = since := Option.some.inj hs
      refine ⟨by rw [honCpu, Function.update_self], by omega, ?_, fun _ => hstarted, fun _ => ?_⟩
      · rw [hstarted, Nat.sub_self]
        exact (hbudget.same hsame).log_same rfl
      · rw [hstarted, htier, hsame.left, hsame.tier, Nat.sub_self]
        exact ⟨htaken.spent, htaken.tier⟩
    · by_cases hcpu : c = sys.cpuOf p
      · rw [← hcpu] at hidle
        have hserving := h.serving_none hidle
        refine ⟨fun hs => (h.idle hs).same hsame, by simp [hserving], fun q hq => ?_⟩
        obtain ⟨hm, hspent, htier, hsw⟩ := h.taken q hq
        have hne : q ≠ p := fun he => ht (he ▸ hq)
        refine ⟨hlocal q hne hm, hspent, ?_, by simp [hserving]⟩
        rw [hc.view, Function.update_of_ne hne, hsame.left, hsame.tier]
        exact htier
      · refine h.change hc (Or.inl ⟨fun hon => ?_, ht⟩) hsame
          (by rw [honCpu, Function.update_of_ne hcpu]) (congrFun hswitching c)
          fun q hq hm => hlocal q (fun he => ht (he ▸ hq)) hm
        have := ((hinv.onCpu c p).mp hon).1
        simp [hphase] at this

theorem halted {k : Call} {runnable : Bool} (h : OverrideOk c sys log k.now) (hinv : Inv m sys)
    (hs : Step m sys sys' (.stopping k p runnable)) :
    OverrideOk c sys' (if sys.onCpu c = some p then { log with serving := none } else log) k.now := by
  have hs' := hs
  cases hs with
  | stopping hphase hc honCpu hswitching hstate hdsq _ =>
    have hne (q : Task) (hq : log.taken = some q) : q ≠ p := by
      have := (hinv.members _ q (h.taken q hq).mem).phase
      rintro rfl
      simp [hphase] at this
    split_ifs with hon
    · have hcpu : sys.cpuOf p = c := ((hinv.onCpu c p).mp hon).2
      rw [hcpu] at hstate
      have hcharged := h.charged hon
      have hsame : SameOverride (chargeOverride (sys.sched.dispatchState c) (sys.sched.view p).tier
          (elapsed k.now (sys.sched.view p).startedAt)) (sys'.sched.dispatchState c) := by
        rw [hstate, Function.update_self]
        exact ⟨rfl, rfl, rfl⟩
      refine ⟨fun _ => (hcharged.same hsame).log_same rfl, by simp, fun q hq => ?_⟩
      obtain ⟨hm, hspent, htier, -⟩ := h.taken q hq
      refine ⟨by rw [Sys.localDsq, hdsq]; exact hm, hspent, ?_, by simp⟩
      rw [hc.view, Function.update_of_ne (hne q hq), hsame.left, hsame.tier, chargeOverride_eq]
      exact fun hl => htier (by dsimp only at hl; omega)
    · have hcpu : c ≠ sys.cpuOf p := fun he => hon ((hinv.onCpu c p).mpr ⟨hphase, he.symm⟩)
      exact h.change hc (Or.inl ⟨hon, fun ht => hne p ht rfl⟩) (hs'.sameOverride (Ne.symm hcpu))
        (by rw [honCpu, Function.update_of_ne hcpu]) (by rw [hswitching, Function.update_of_ne hcpu])
        fun q _ hq => by rw [Sys.localDsq, hdsq]; exact hq

theorem step (h : OverrideOk c sys log sys.clock) (hinv : Inv m sys) (hlt : c < m.nrCpuIds)
    {event : Event} (hs : Step m sys sys' event) (hclock : sys.clock ≤ sys'.clock)
    (htime : sys'.clock = event.time sys.clock) (hkept : TakesKept c (sys, log) event) :
    OverrideOk c sys' (watchOverrides m c log sys event sys') sys'.clock := by
  have h1 : OverrideOk c sys (log.tick (sys'.clock - sys.clock)) sys'.clock :=
    h.tick hclock (htime ▸ hkept.1) (htime ▸ hkept.2)
  unfold watchOverrides
  generalize log.tick (sys'.clock - sys.clock) = log at h1
  have hs' := hs
  cases hs with
  | initTask hphase hc hcpus hqueues _ _ _ _ =>
      exact h1.change_same hc (Or.inl (h1.off hinv (by simp [hphase]) (by simp [hphase]))) hcpus
        fun q _ hq => by rw [Sys.localDsq, hqueues.dsq]; exact hq
  | setAttributes _ hc hcpus hqueues =>
      exact h1.change_same hc (Or.inr rfl) hcpus
        fun q _ hq => by rw [Sys.localDsq, hqueues.dsq]; exact hq
  | selectCpu hphase hc hcpus hqueues _ _ =>
      exact h1.change_same hc (Or.inl (h1.off hinv (by simp [hphase]) (by simp [hphase]))) hcpus
        fun q _ hq => by rw [Sys.localDsq, hqueues.dsq]; exact hq
  | runnable hphase _ hc hcpus hdsq _ =>
      exact h1.change_same hc (Or.inl (h1.off hinv (by simp [hphase]) (by simp [hphase]))) hcpus
        fun q _ hq => by rw [Sys.localDsq, hdsq]; exact hq
  | @enqueue k p _ _ v target _ _ hphase _ _ _ _ hc honCpu hswitching henq =>
      obtain ⟨h2, htaken⟩ := h1.leave p
      have hon : sys.onCpu c ≠ some p := fun hon => by
        have := ((hinv.onCpu c p).mp hon).1
        rcases hphase with (hp | hp) | ⟨hp, -⟩ | ⟨hp, -⟩ <;> simp [hp] at this
      refine h2.change hc (Or.inl ⟨hon, htaken⟩) (hs'.sameOverride id) (congrFun honCpu c)
        (congrFun hswitching c) fun q hq hmem => ?_
      rw [Sys.localDsq, henq.dsq,
        Function.update_of_ne (getCpuDsqFromType_ne_localOn v.tier target c).symm]
      exact mem_unlink hmem fun he => htaken (he ▸ hq)
  | @enqueueLocal p _ hphase hc hcpus hdsq _ =>
      obtain ⟨h2, htaken⟩ := h1.leave p
      have hon : sys.onCpu c ≠ some p := fun hon => by
        have := ((hinv.onCpu c p).mp hon).1
        rcases hphase with (hp | hp) | hp | ⟨hp, -⟩ <;> simp [hp] at this
      refine h2.change_same hc (Or.inl ⟨hon, htaken⟩) hcpus fun q hq hmem => ?_
      have hout : q ∈ (sys.unlink p).localDsq c := mem_unlink hmem fun he => htaken (he ▸ hq)
      rw [Sys.localDsq, hdsq, Function.update_apply]
      split_ifs with he
      · rw [← DsqId.localOn.inj he]
        exact List.mem_append_left _ hout
      · exact hout
  | insertDirect _ _ hi => exact h1.inserted hi
  | restore _ hi => exact h1.inserted hi
  | putBack _ _ hi => exact h1.inserted hi
  | consumeSlice _ _ hc hcpus hqueues =>
      exact h1.change_same hc (Or.inr rfl) hcpus
        fun q _ hq => by rw [Sys.localDsq, hqueues.dsq]; exact hq
  | @dispatch k cpu prev rnd _ hlocal _ _ honCpu hd =>
      have hnow : sys'.clock = k.now := htime
      rw [hnow] at h1 ⊢
      dsimp only
      split_ifs with he
      · subst he
        exact h1.dispatched hinv hlt hlocal honCpu hd
      · exact h1.elsewhere hinv (Ne.symm he) honCpu (hs'.sameOverride he) hd
  | running =>
      rw [show sys'.clock = _ from htime] at h1 ⊢
      exact h1.ran hinv hs'
  | stopping =>
      rw [show sys'.clock = _ from htime] at h1 ⊢
      exact h1.halted hinv hs'
  | @quiescent k p _ _ _ hphase _ hc hcpus hdsq _ =>
      obtain ⟨h2, htaken⟩ := h1.leave p
      have hon : sys.onCpu c ≠ some p := fun hon => by
        have := ((hinv.onCpu c p).mp hon).1
        rcases hphase with hp | hp <;> simp [hp] at this
      refine h2.change_same hc (Or.inl ⟨hon, htaken⟩) hcpus fun q hq hmem => ?_
      rw [Sys.localDsq, hdsq]
      exact mem_unlink hmem fun he => htaken (he ▸ hq)
  | schedSwitch _ honCpu hswitching hrt =>
      refine h1.frame (hs'.sameOverride id) (congrFun honCpu c) (congrFun hswitching c)
        (fun q _ => by rw [hrt.view]; exact ⟨rfl, rfl⟩) fun q _ hq => ?_
      rw [Sys.localDsq, hrt.dsq]
      exact hq

theorem start (h : Sys.Start m sys) (hlt : c < m.nrCpuIds) : OverrideOk c sys .empty sys.clock := by
  obtain ⟨s, now, hsched, -, -, -, -⟩ := h.sched
  have hleft : (sys.sched.dispatchState c).overrideLeft = 0 := by
    rw [hsched, (lunarInit_spec m now s).dispatchState c hlt]
  exact ⟨fun _ => ⟨RateOk.start h hlt, nofun, fun hl => absurd hleft hl⟩, nofun, nofun⟩

end OverrideOk

-- Overrides of a cpu are a cooldown apart, and override_left stays within the budget and
-- belongs to one of the three tiers. No override gets more cpu time than its budget and
-- less than a slice, if the kernel keeps to the slices.
theorem override_bounded {m : Machine} {start : Sys} {c : Nat} {events : List Event}
    (hstart : Sys.Start m start) (hlt : c < m.nrCpuIds)
    (hruns : ((lunarSys m).observe (watchOverrides m c)).Runs (start, .empty) events) :
    let state := ((lunarSys m).observe (watchOverrides m c)).final (start, .empty) events
    (state.2.starts.Pairwise fun later earlier => earlier + STARVE_OVERRIDE_COOLDOWN_NS ≤ later) ∧
      ((state.1.sched.dispatchState c).overrideLeft ≤ STARVE_OVERRIDE_BUDGET_NS ∧
        ((state.1.sched.dispatchState c).overrideLeft ≠ 0 →
          Starvable (state.1.sched.dispatchState c).overrideTier)) ∧
      ((((lunarSys m).observe (watchOverrides m c)).restrict (TakesKept c)).Runs (start, .empty) events →
        ∀ o ∈ state.2.overrides, o.spent < STARVE_OVERRIDE_BUDGET_NS + SLICE_NS) := by
  dsimp only
  have hrate := Inv.always_observed (P := fun sys log => RateOk (sys.sched.dispatchState c) log sys.clock)
    (fun _ _ _ _ hinv hok hs hclock htime => hok.step hinv hlt hs hclock htime)
    hstart (RateOk.start hstart hlt) ⟨events, hruns, rfl⟩
  refine ⟨hrate.2.apart, ⟨hrate.2.left, hrate.2.tier⟩, fun hkept => ?_⟩
  have hbudget := Inv.always (P := fun sys log => OverrideOk c sys log sys.clock)
    (fun _ _ _ _ hinv hok hs hclock htime hcond => hok.step hinv hlt hs hclock htime hcond)
    hstart (OverrideOk.start hstart hlt) ⟨events, hkept, rfl⟩
  obtain ⟨uncharged, hb⟩ := hbudget.2.budget
  exact hb.bound

section Starved

-- Task 1 has waited until it is starved, and is taken. Task 3, which has woken up since,
-- is taken next, with what is left of the budget.
def starvedRun : List Event :=
  .initTask (.task 10 0 0) 1 :: wakeUp (.task 10 0 0) 1 0 ++ pickNext (.task 80000000 0 0) 1 ++
    [.initTask (.task 80000000 0 1) 3] ++ wakeUp (.task 80000000 0 1) 3 0 ++
    [.consumeSlice 1 0, .dispatch (.task 80900000 0 1) 0 (some 1) fun _ => 0,
      .stopping (.task 80900000 0 1) 1 true, .running (.task 80900000 0 1) 3,
      .stopping (.task 81800000 0 3) 3 false]

def starvedState : Sys × OverrideLog :=
  ((lunarSys oneCpu).observe (watchOverrides oneCpu 0)).final (oneCpuBoot, .empty) starvedRun

theorem override_bounded_starved :
    starvedState.2.overrides = [⟨80000000, 1800000⟩] ∧
      ∀ o ∈ starvedState.2.overrides, o.spent < STARVE_OVERRIDE_BUDGET_NS + SLICE_NS := by
  have hruns : (((lunarSys oneCpu).observe (watchOverrides oneCpu 0)).restrict (TakesKept 0)).Runs
      (oneCpuBoot, .empty) starvedRun := by decide +kernel
  have hstart : Sys.Start oneCpu oneCpuBoot := Sys.start_boot oneCpu (by decide) fun _ => rfl
  exact ⟨by decide +kernel,
    (override_bounded hstart (by decide) (TransitionSystem.runs_of_restrict _ _ hruns)).2.2 hruns⟩

end Starved

end Lunar
