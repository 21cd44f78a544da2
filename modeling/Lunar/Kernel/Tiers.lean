import Lunar.Kernel.Invariant

namespace Lunar

section Woken

-- A task that may run on both cpus.
def userTask : TaskStruct :=
  { TaskStruct.zeroed with nrCpusAllowed := 2, cpusPtr := fun cpu => cpu < 2 }

def twoCpusBoot : Sys := .boot twoCpus 10 fun _ => userTask

-- Task 7 is woken up on cpu 1.
def wokenOnOne : List Event := .initTask (.task 10 0 0) 7 :: wakeUp (.task 10 0 0) 7 1

-- It runs there.
def runningOnOne : List Event := wokenOnOne ++ pickNext (.task 20 1 0) 7

-- cpu 0 binds it to cpu 1.
def boundByZero : List Event := runningOnOne ++ changeRunning (.task 40 0 0) 7 ⟨0, 1, (· = 1)⟩ 1

end Woken

-- A task waits in the queue of the tier it is entitled to, on a cpu it may run on.
theorem queued_tier_agrees {m : Machine} {start sys : Sys} (hstart : Sys.Start m start)
    (hreach : (lunarSys m).Reaches start sys) {t c : Nat} (ht : IsTier t) (hc : c < MAX_CPUS)
    {p : Task} (hp : p ∈ sys.sched.dsq (getCpuDsqFromType t c)) :
    effectiveTier (sys.sched.taskCtxStore p) = t ∧ c < m.nrCpuIds ∧ cpuIsOnline m c ∧
      sys.sched.allowedOn c p := by
  obtain ⟨htier, hlt, honline, hallowed⟩ :=
    ((Inv.reaches hstart hreach).members _ p hp).tier t c ht hc rfl
  exact ⟨by rw [← Sched.view_tier, htier], hlt, honline, hallowed⟩

theorem queued_tier_agrees_woken :
    let sys := (lunarSys twoCpus).final twoCpusBoot wokenOnOne
    7 ∈ sys.sched.dsq (getCpuDsqFromType DSQ_TYPE_GREEDY 1) ∧ cpuIsOnline twoCpus 1 ∧
      effectiveTier (sys.sched.taskCtxStore 7) = DSQ_TYPE_GREEDY := by
  have hmem : 7 ∈ ((lunarSys twoCpus).final twoCpusBoot wokenOnOne).sched.dsq
      (getCpuDsqFromType DSQ_TYPE_GREEDY 1) := by decide +kernel
  have h := queued_tier_agrees (Sys.start_boot twoCpus (by decide) fun _ => rfl) ⟨_, by decide +kernel, rfl⟩
    (by decide) (by decide) hmem
  exact ⟨hmem, h.2.2.1, h.1⟩

-- The tier of the task of lunar that runs on a cpu.
def Sys.runningTier (sys : Sys) (c : Nat) : Nat :=
  match sys.onCpu c with
  | some p => effectiveTier (sys.sched.taskCtxStore p)
  | none => DSQ_TYPE_EMPTY

-- running() is called on the cpu that the task runs on.
def RunsInPlace (sys : Sys) : Event → Prop
  | .running k p => k.proc = sys.cpuOf p
  | _ => True

instance (sys : Sys) : ∀ event, Decidable (RunsInPlace sys event)
  | .running _ _ => inferInstanceAs (Decidable (_ = _))
  | .initTask _ _ | .setAttributes _ _ | .selectCpu _ _ _ _ | .runnable _ _ _ _ | .enqueue _ _ _ _
  | .enqueueLocal _ _ | .insertDirect _ | .restore _ | .putBack _ | .consumeSlice _ _
  | .dispatch _ _ _ _ | .stopping _ _ _ | .quiescent _ _ _ | .schedSwitch _ _ _ =>
      inferInstanceAs (Decidable True)

-- current_task_dsq_type of every cpu that is not just switching tasks.
def CurrentTier (m : Machine) (sys : Sys) : Prop :=
  ∀ c < m.nrCpuIds, sys.switching c = false →
    (sys.sched.dispatchState c).currentTaskDsqType = sys.runningTier c

theorem Sys.runningTier_of_some {sys : Sys} {c : Nat} {p : Task} (h : sys.onCpu c = some p) :
    sys.runningTier c = (sys.sched.view p).tier := by
  rw [Sched.view_tier]
  simp [Sys.runningTier, h]

theorem Sys.runningTier_of_none {sys : Sys} {c : Nat} (h : sys.onCpu c = none) :
    sys.runningTier c = DSQ_TYPE_EMPTY := by
  simp [Sys.runningTier, h]

theorem Sys.runningTier_congr {sys sys' : Sys} {c : Nat} (honCpu : sys'.onCpu c = sys.onCpu c)
    (hview : ∀ p, sys.onCpu c = some p → (sys'.sched.view p).tier = (sys.sched.view p).tier) :
    sys'.runningTier c = sys.runningTier c := by
  cases hc : sys.onCpu c with
  | none => rw [Sys.runningTier_of_none hc, Sys.runningTier_of_none (honCpu.trans hc)]
  | some p => rw [Sys.runningTier_of_some hc, Sys.runningTier_of_some (honCpu.trans hc), hview p hc]

namespace CurrentTier

variable {m : Machine} {sys sys' : Sys}

-- A task changes that does not run.
theorem change (h : CurrentTier m sys) (hinv : Inv m sys) {p : Task} {phase : Phase} {v : TaskView}
    {task : TaskStruct} (hc : Changed sys sys' p phase v task)
    (hp : sys.phase p ≠ .running ∨ v.tier = (sys.sched.view p).tier)
    (honCpu : sys'.onCpu = sys.onCpu) (hswitching : sys'.switching = sys.switching)
    (hcurrent : ∀ c, (sys'.sched.dispatchState c).currentTaskDsqType =
      (sys.sched.dispatchState c).currentTaskDsqType) : CurrentTier m sys' := by
  intro c hlt hsw
  rw [hcurrent, h c hlt (hswitching ▸ hsw)]
  refine (Sys.runningTier_congr (congrFun honCpu c) fun q hq => ?_).symm
  rw [hc.view, Function.update_apply]
  split_ifs with he
  · subst he
    rcases hp with hp | hp
    · exact absurd ((hinv.onCpu c q).mp hq).1 hp
    · exact hp
  · rfl

theorem change_same (h : CurrentTier m sys) (hinv : Inv m sys) {p : Task} {phase : Phase}
    {v : TaskView} {task : TaskStruct} (hc : Changed sys sys' p phase v task)
    (hp : sys.phase p ≠ .running ∨ v.tier = (sys.sched.view p).tier) (hcpus : SameCpus sys sys') :
    CurrentTier m sys' :=
  h.change hinv hc hp hcpus.onCpu hcpus.switching fun c => by rw [hcpus.dispatchState]

-- What happens on another cpu, to a task that runs on none but cpu.
theorem other {cpu c : Nat} {p : Task} {v : TaskView} (h : CurrentTier m sys)
    (hc : c ≠ cpu) (hlt : c < m.nrCpuIds) (hsw : sys.switching c = false)
    (hview : sys'.sched.view = Function.update sys.sched.view p v)
    (hp : ∀ d, sys.onCpu d = some p → d = cpu)
    (honCpu : sys'.onCpu c = sys.onCpu c)
    (hcurrent : (sys'.sched.dispatchState c).currentTaskDsqType =
      (sys.sched.dispatchState c).currentTaskDsqType) :
    (sys'.sched.dispatchState c).currentTaskDsqType = sys'.runningTier c := by
  rw [hcurrent, h c hlt hsw]
  refine (Sys.runningTier_congr honCpu fun q hq => ?_).symm
  rw [hview, Function.update_of_ne]
  rintro rfl
  exact hc (hp c hq)

theorem dispatched (h : CurrentTier m sys) (hinv : Inv m sys) {k : Call} {cpu : Nat}
    {path : OverridePath} (honCpu : sys'.onCpu = sys.onCpu) (hs : DispatchStep m k cpu path sys sys') :
    CurrentTier m sys' := by
  intro c hlt hsw
  cases hs with
  | idle _ hd hswitching =>
      rw [hd.sameOutside.current, h c hlt (hswitching ▸ hsw)]
      exact (Sys.runningTier_congr (congrFun honCpu c) fun q _ => by
        rw [Sched.view_congr hd.sameOutside.taskCtxStore]).symm
  | @replaced p q tier r d s1 hp _ hacc hd _ hswitching =>
      rw [hswitching] at hsw
      by_cases he : c = cpu
      · simp [he] at hsw
      · rw [Function.update_of_ne he] at hsw
        refine h.other he hlt hsw ((Sched.view_congr hd.sameOutside.taskCtxStore).trans hacc.view)
          (fun d hd => ?_) (congrFun honCpu c) ?_
        · rw [← ((hinv.onCpu d p).mp hd).2, ((hinv.onCpu cpu p).mp hp).2]
        · rw [hd.sameOutside.current, hacc.dispatchState, Function.update_of_ne he]
  | @continued p tier tier' s1 hp _ hacc _ hc hswitching =>
      by_cases he : c = cpu
      · subst he
        rw [Sys.runningTier_of_some (by rw [honCpu, hp]), hc.dispatchState, hc.view,
          Function.update_self, Function.update_self]
      · refine h.other he hlt (hswitching ▸ hsw)
          (hc.view.trans (by rw [hacc.view, Function.update_idem]))
          (fun d hd => ?_) (congrFun honCpu c) ?_
        · rw [← ((hinv.onCpu d p).mp hd).2, ((hinv.onCpu cpu p).mp hp).2]
        · rw [hc.dispatchState, Function.update_of_ne he, hacc.dispatchState, Function.update_of_ne he]

theorem step (h : CurrentTier m sys) (hinv : Inv m sys) {event : Event}
    (hs : Step m sys sys' event) (hplace : RunsInPlace sys event) : CurrentTier m sys' := by
  cases hs with
  | initTask hphase hc hcpus _ _ _ _ _ =>
      exact h.change_same hinv hc (Or.inl (by simp [hphase])) hcpus
  | setAttributes _ hc hcpus _ => exact h.change_same hinv hc (Or.inr rfl) hcpus
  | selectCpu hphase hc hcpus _ _ _ => exact h.change_same hinv hc (Or.inl (by simp [hphase])) hcpus
  | runnable hphase _ hc hcpus _ _ => exact h.change_same hinv hc (Or.inl (by simp [hphase])) hcpus
  | enqueue hphase _ _ _ _ hc honCpu hswitching henq =>
      refine h.change hinv hc (Or.inl ?_) honCpu hswitching fun c => ?_
      · rcases hphase with (hp | hp) | ⟨hp, -⟩ | ⟨hp, -⟩ <;> simp [hp]
      · obtain ⟨pending, hstate⟩ := henq.dispatchState c
        rw [hstate]
        rfl
  | enqueueLocal _ hc hcpus _ _ => exact h.change_same hinv hc (Or.inr rfl) hcpus
  | insertDirect _ _ hi => exact h.change_same hinv hi.changed (Or.inr rfl) hi.cpus
  | restore _ hi => exact h.change_same hinv hi.changed (Or.inr rfl) hi.cpus
  | putBack _ _ hi => exact h.change_same hinv hi.changed (Or.inr rfl) hi.cpus
  | consumeSlice _ _ hc hcpus _ => exact h.change_same hinv hc (Or.inr rfl) hcpus
  | dispatch _ _ _ _ honCpu hd => exact h.dispatched hinv honCpu hd
  | @running k p _ _ hphase _ hc honCpu hswitching hstate _ _ =>
      intro c hlt hsw
      have hproc : k.proc = sys.cpuOf p := hplace
      rw [hproc] at hstate
      by_cases he : c = sys.cpuOf p
      · rw [Sys.runningTier_of_some (p := p) (by rw [honCpu, he, Function.update_self]), hstate, he,
          hc.view, Function.update_self, Function.update_self]
      · refine h.other he hlt (hswitching ▸ hsw) hc.view (fun d hd => ?_) ?_ ?_
        · have := ((hinv.onCpu d p).mp hd).1
          simp [hphase] at this
        · rw [honCpu, Function.update_of_ne he]
        · rw [hstate, Function.update_of_ne he]
  | @stopping k p _ _ hphase hc honCpu hswitching hstate _ _ =>
      intro c hlt hsw
      by_cases he : c = sys.cpuOf p
      · rw [Sys.runningTier_of_none (by rw [honCpu, he, Function.update_self]), hstate, he,
          Function.update_self]
      · rw [hswitching, Function.update_of_ne he] at hsw
        refine h.other he hlt hsw hc.view (fun d hd => ((hinv.onCpu d p).mp hd).2.symm) ?_ ?_
        · rw [honCpu, Function.update_of_ne he]
        · rw [hstate, Function.update_of_ne he]
  | quiescent hphase _ hc hcpus _ _ =>
      refine h.change_same hinv hc (Or.inl ?_) hcpus
      rcases hphase with hp | hp <;> simp [hp]
  | schedSwitch _ honCpu hswitching hrt =>
      intro c hlt hsw
      obtain ⟨rt, hstate⟩ := hrt.dispatchState c
      rw [hstate, Sys.runningTier_congr (congrFun honCpu c) fun q _ => by rw [hrt.view]]
      exact h c hlt (hswitching ▸ hsw)

theorem start (h : Sys.Start m sys) : CurrentTier m sys := by
  obtain ⟨s, now, hsched, -, -, -, -⟩ := h.sched
  intro c hc _
  rw [Sys.runningTier_of_none (h.onCpu c), hsched, (lunarInit_spec m now s).dispatchState c hc]

end CurrentTier

-- What a cpu publishes about the task it runs is right as long as running() is only
-- ever called on the cpu the task runs on.
theorem current_tier_agrees {m : Machine} {start sys : Sys} (hstart : Sys.Start m start)
    (hreach : ((lunarSys m).restrict RunsInPlace).Reaches start sys) :
    ∀ c < m.nrCpuIds, sys.switching c = false →
      (sys.sched.dispatchState c).currentTaskDsqType = sys.runningTier c := by
  have h : Inv m sys ∧ CurrentTier m sys := by
    refine TransitionSystem.invariant_of_reaches _ (P := fun sys => Inv m sys ∧ CurrentTier m sys)
      ?_ ⟨Inv.start hstart, CurrentTier.start hstart⟩ hreach
    intro state event hinv he
    have hs := hinv.1.stepped he.1
    exact ⟨hinv.1.step hs, hinv.2.step hinv.1 hs he.2⟩
  exact h.2

theorem current_tier_agrees_woken :
    let sys := (lunarSys twoCpus).final twoCpusBoot runningOnOne
    sys.onCpu 1 = some 7 ∧ (sys.sched.dispatchState 1).currentTaskDsqType = sys.runningTier 1 :=
  ⟨by decide +kernel, current_tier_agrees (Sys.start_boot twoCpus (by decide) fun _ => rfl)
    ⟨runningOnOne, by decide +kernel, rfl⟩ 1 (by decide) (by decide +kernel)⟩

-- lunar_stopping clears the field of the cpu the task runs on, and lunar_running sets
-- that of the cpu it is called on.
theorem current_tier_lost_remotely : ∃ sys, (lunarSys twoCpus).Reaches twoCpusBoot sys ∧
    Sys.Start twoCpus twoCpusBoot ∧ sys.switching 1 = false ∧ sys.onCpu 1 = some 7 ∧
    (sys.sched.dispatchState 1).currentTaskDsqType = DSQ_TYPE_EMPTY ∧
    sys.runningTier 1 = DSQ_TYPE_GREEDY :=
  ⟨_, ⟨boundByZero, by decide +kernel, rfl⟩, Sys.start_boot twoCpus (by decide) fun _ => rfl, by decide +kernel,
    by decide +kernel, by decide +kernel, by decide +kernel⟩

end Lunar
