import Lunar.Kernel

namespace Lunar

def Phase.active : Phase → Bool
  | .runnable _ | .queued | .running | .stopped | .leaving => true
  | .none | .dequeued _ => false

-- What is true of every task.
structure TaskOk (m : Machine) (phase : Phase) (v : TaskView) (task : TaskStruct) : Prop where
  present : phase ≠ .none → v.present
  boost : DSQ_TYPE_LC ≤ v.boost
  cpu : phase.active → task.cpu < m.nrCpuIds
  onRq : phase.active → task.queued

-- A task that is neither in a DSQ nor on a cpu has no cpu to be on.
theorem TaskOk.off {m : Machine} {phase : Phase} {v : TaskView} {task : TaskStruct}
    (hpresent : phase ≠ .none → v.present) (hboost : DSQ_TYPE_LC ≤ v.boost)
    (hoff : phase.active = false) : TaskOk m phase v task :=
  ⟨hpresent, hboost, fun ha => absurd ha (by simp [hoff]), fun ha => absurd ha (by simp [hoff])⟩

-- What is true of a task in a DSQ.
structure Member (m : Machine) (id : DsqId) (phase : Phase) (v : TaskView) (task : TaskStruct) :
    Prop where
  phase : phase = .queued
  localCpu : ∀ c, id = .localOn c → task.cpu = c
  tier : ∀ t c, IsTier t → c < MAX_CPUS → id = getCpuDsqFromType t c →
    v.tier = t ∧ c < m.nrCpuIds ∧ cpuIsOnline m c ∧ task.cpusPtr c

-- Where tasks are and what is true of them there, in every state that can be reached.
structure Inv (m : Machine) (sys : Sys) : Prop where
  tasks : ∀ p, TaskOk m (sys.phase p) (sys.sched.view p) (sys.sched.task p)
  members : ∀ id p, p ∈ sys.sched.dsq id →
    Member m id (sys.phase p) (sys.sched.view p) (sys.sched.task p)
  unique : ∀ id id' p, p ∈ sys.sched.dsq id → p ∈ sys.sched.dsq id' → id = id'
  nodup : ∀ id, (sys.sched.dsq id).Nodup
  onCpu : ∀ c p, sys.onCpu c = some p ↔ sys.phase p = .running ∧ sys.cpuOf p = c
  switching : ∀ c, sys.switching c → sys.onCpu c ≠ none

-- What an event can do to the state. Invariants are proved from this and do not look
-- into the callbacks again.

-- Of all tasks only p changed.
structure Changed (sys sys' : Sys) (p : Task) (phase : Phase) (v : TaskView) (task : TaskStruct) :
    Prop where
  phase : sys'.phase = Function.update sys.phase p phase
  view : sys'.sched.view = Function.update sys.sched.view p v
  task : sys'.sched.task = Function.update sys.sched.task p task

-- No cpu changed.
structure SameCpus (sys sys' : Sys) : Prop where
  onCpu : sys'.onCpu = sys.onCpu
  switching : sys'.switching = sys.switching
  dispatchState : sys'.sched.dispatchState = sys.sched.dispatchState

-- Nothing was put in a queue or accounted for.
structure SameQueues (sys sys' : Sys) : Prop where
  dsq : sys'.sched.dsq = sys.sched.dsq
  accounts : sys'.sched.accounts = sys.sched.accounts

-- p went to the local DSQ of its cpu.
structure Inserted (sys sys' : Sys) (p : Task) (head : Bool) : Prop where
  changed : Changed sys sys' p .queued (sys.sched.view p)
    { sys.sched.task p with ddspLocal := false }
  cpus : SameCpus sys sys'
  dsq : sys'.sched.dsq = Function.update sys.sched.dsq (.localOn (sys.cpuOf p))
    (if head then p :: sys.localDsq (sys.cpuOf p) else sys.localDsq (sys.cpuOf p) ++ [p])
  accounts : sys'.sched.accounts = sys.sched.accounts

-- A dispatch, by what it finds on the cpu.
inductive DispatchStep (m : Machine) (k : Call) (cpu : Nat) (path : OverridePath) (sys sys' : Sys) :
    Prop where
  -- nothing runs there
  | idle {r : Nat} (hidle : sys.onCpu cpu = none)
      (h : Dispatched m sys.sched cpu DSQ_TYPE_EMPTY k.now path r sys'.sched)
      (hswitching : sys'.switching = sys.switching)
  -- p runs, and q comes next
  | replaced {p q : Task} {tier r c : Nat} {s1 : Sched} (hp : sys.onCpu cpu = some p)
      (hslice : (sys.sched.task p).slice = 0) (hacc : Accounted k cpu p tier sys.sched s1)
      (h : Dispatched m s1 cpu tier k.now path r sys'.sched)
      (hmoved : Moved m s1 cpu r c k.now q sys'.sched)
      (hswitching : sys'.switching = Function.update sys.switching cpu true)
  -- p runs and goes on
  | continued {p : Task} {tier tier' : Nat} {s1 : Sched} (hp : sys.onCpu cpu = some p)
      (hslice : (sys.sched.task p).slice = 0) (hacc : Accounted k cpu p tier sys.sched s1)
      (hpath : path = .none) (h : Continued cpu p tier' s1 sys'.sched)
      (hswitching : sys'.switching = sys.switching)

def Sys.overridePath (m : Machine) (sys : Sys) (k : Call) (cpu : Nat) (prev : Option Task)
    (rnd : Nat → Nat) : OverridePath :=
  Lunar.overridePath m rnd (dispatchArgs m k cpu prev sys.sched).2 cpu k.now

inductive Step (m : Machine) (sys sys' : Sys) : Event → Prop where
  | initTask {k : Call} {p : Task} {v : TaskView} (hphase : sys.phase p = .none)
      (h : Changed sys sys' p (.dequeued .sleep) v (sys.sched.task p)) (hcpus : SameCpus sys sys')
      (hqueues : SameQueues sys sys') (hpresent : v.present) (hboost : v.boost = DSQ_TYPE_EMPTY)
      (hresume : v.resumeSlice = 0) (hblocked : v.blockedAt = (sys.sched.view p).blockedAt) :
      Step m sys sys' (.initTask k p)
  | setAttributes {p : Task} {attr : Attributes}
      (hphase : sys.phase p = .none ∨ ∃ origin, sys.phase p = .dequeued origin)
      (h : Changed sys sys' p (sys.phase p) (sys.sched.view p) { sys.sched.task p with
        policy := attr.policy, nrCpusAllowed := attr.nrCpusAllowed, cpusPtr := attr.cpusPtr })
      (hcpus : SameCpus sys sys') (hqueues : SameQueues sys sys') :
      Step m sys sys' (.setAttributes p attr)
  | selectCpu {k : Call} {p : Task} {ttwu : Bool} {dfl : Nat × Bool} {v : TaskView}
      {task : TaskStruct} (hphase : sys.phase p = .dequeued .sleep)
      (h : Changed sys sys' p (.dequeued .sleep) v task) (hcpus : SameCpus sys sys')
      (hqueues : SameQueues sys sys') (hv : Boosted sys.sched (sys.sched.view p) v)
      (htask : task.ddspLocal = (sys.sched.task p).ddspLocal ∧ task.slice = (sys.sched.task p).slice ∨
        task.slice = SLICE_NS) :
      Step m sys sys' (.selectCpu k p ttwu dfl)
  | runnable {k : Call} {p : Task} {wakeup : Bool} {cpu : Nat} {origin : Origin} {tier : Nat}
      (hphase : sys.phase p = .dequeued origin) (hcpu : cpu < m.nrCpuIds)
      (h : Changed sys sys' p (.runnable origin)
        { sys.sched.view p with tier := tier, blockedAt := 0 }
        { sys.sched.task p with cpu := cpu, queued := true })
      (hcpus : SameCpus sys sys') (hdsq : sys'.sched.dsq = sys.sched.dsq)
      (haccounts : sys'.sched.accounts = if (sys.sched.view p).blockedAt ≠ 0 then
        (p, 0, elapsed k.now (sys.sched.view p).blockedAt) :: sys.sched.accounts
        else sys.sched.accounts) :
      Step m sys sys' (.runnable k p wakeup cpu)
  | enqueue {k : Call} {p : Task} {flags : EnqFlags} {env : PickEnv} {v : TaskView}
      {target slice : Nat} {head : Bool}
      (hphase : (sys.phase p = .runnable .sleep ∨ sys.phase p = .runnable .waiting) ∨
        sys.phase p = .stopped ∧ (sys.sched.task p).slice = 0 ∨
        sys.phase p = .queued ∧ p ∈ sys.localDsq (sys.cpuOf p))
      (hv : Boosted sys.sched (sys.sched.view p) v)
      (hsame : sys.phase p ≠ .runnable .sleep → v = sys.sched.view p)
      (htarget : target < m.nrCpuIds ∧ cpuIsOnline m target ∧ (sys.sched.task p).cpusPtr target)
      (hslice : v.resumeSlice ≠ 0 ∧ slice = v.resumeSlice ∧ cpuTakenByRt sys.sched (sys.cpuOf p) = false ∨
        (v.resumeSlice = 0 ∨ cpuTakenByRt sys.sched (sys.cpuOf p)) ∧ slice = SLICE_NS)
      (h : Changed sys sys' p .queued { v with resumeSlice := 0 }
        { sys.sched.task p with slice := slice })
      (honCpu : sys'.onCpu = sys.onCpu) (hswitching : sys'.switching = sys.switching)
      (henq : Enqueued k p v target slice head (sys.unlink p).sched sys'.sched) :
      Step m sys sys' (.enqueue k p flags env)
  | enqueueLocal {p : Task} {slice : Nat}
      (hphase : (sys.phase p = .runnable .sleep ∨ sys.phase p = .runnable .waiting) ∨
        sys.phase p = .stopped ∨ sys.phase p = .queued ∧ p ∈ sys.localDsq (sys.cpuOf p))
      (h : Changed sys sys' p .queued (sys.sched.view p)
        { sys.sched.task p with slice := slice, ddspLocal := false })
      (hcpus : SameCpus sys sys')
      (hdsq : sys'.sched.dsq = Function.update (sys.unlink p).sched.dsq (.localOn (sys.cpuOf p))
        ((sys.unlink p).localDsq (sys.cpuOf p) ++ [p]))
      (haccounts : sys'.sched.accounts = sys.sched.accounts) :
      Step m sys sys' (.enqueueLocal p slice)
  | insertDirect {p : Task} (hphase : sys.phase p = .runnable .sleep ∨ sys.phase p = .runnable .waiting)
      (hddsp : (sys.sched.task p).ddspLocal) (h : Inserted sys sys' p false) :
      Step m sys sys' (.insertDirect p)
  | restore {p : Task} (hphase : sys.phase p = .runnable .running) (h : Inserted sys sys' p false) :
      Step m sys sys' (.restore p)
  | putBack {p : Task} (hphase : sys.phase p = .stopped) (hslice : (sys.sched.task p).slice ≠ 0)
      (h : Inserted sys sys' p true) : Step m sys sys' (.putBack p)
  | consumeSlice {p : Task} {left : Nat} (hphase : sys.phase p = .running)
      (hleft : left ≤ (sys.sched.task p).slice)
      (h : Changed sys sys' p .running (sys.sched.view p) { sys.sched.task p with slice := left })
      (hcpus : SameCpus sys sys') (hqueues : SameQueues sys sys') :
      Step m sys sys' (.consumeSlice p left)
  | dispatch {k : Call} {cpu : Nat} {prev : Option Task} {rnd : Nat → Nat} (hcpu : cpu < m.nrCpuIds)
      (hlocal : sys.localDsq cpu = []) (hidle : sys.switching cpu = false)
      (hphase : sys'.phase = sys.phase) (honCpu : sys'.onCpu = sys.onCpu)
      (h : DispatchStep m k cpu (sys.overridePath m k cpu prev rnd) sys sys') :
      Step m sys sys' (.dispatch k cpu prev rnd)
  | running {k : Call} {p : Task} (hproc : k.proc < m.nrCpuIds)
      (hmem : p ∈ sys.localDsq (sys.cpuOf p)) (hphase : sys.phase p = .queued)
      (hidle : sys.onCpu (sys.cpuOf p) = none)
      (h : Changed sys sys' p .running { sys.sched.view p with
        startedAt := k.now, grantedSlice := (sys.sched.task p).slice } (sys.sched.task p))
      (honCpu : sys'.onCpu = Function.update sys.onCpu (sys.cpuOf p) (some p))
      (hswitching : sys'.switching = sys.switching)
      (hstate : sys'.sched.dispatchState = Function.update sys.sched.dispatchState k.proc
        { sys.sched.dispatchState k.proc with
          currentTaskDsqType := (sys.sched.view p).tier
          preemptPending := false })
      (hdsq : sys'.sched.dsq = (sys.unlink p).sched.dsq)
      (haccounts : sys'.sched.accounts = sys.sched.accounts) :
      Step m sys sys' (.running k p)
  | stopping {k : Call} {p : Task} {runnable : Bool} {tier : Nat} (hphase : sys.phase p = .running)
      (h : Changed sys sys' p (if runnable then .stopped else .leaving)
        ((sys.sched.view p).stopped (sys.sched.task p) runnable
          (sys.sched.dispatchState (sys.cpuOf p)).preemptPending
          (elapsed k.now (sys.sched.view p).startedAt) tier) (sys.sched.task p))
      (honCpu : sys'.onCpu = Function.update sys.onCpu (sys.cpuOf p) none)
      (hswitching : sys'.switching = Function.update sys.switching (sys.cpuOf p) false)
      (hstate : sys'.sched.dispatchState = Function.update sys.sched.dispatchState (sys.cpuOf p)
        { chargeOverride (sys.sched.dispatchState (sys.cpuOf p)) (sys.sched.view p).tier
            (elapsed k.now (sys.sched.view p).startedAt) with
          preemptPending := false
          currentTaskDsqType := DSQ_TYPE_EMPTY })
      (hdsq : sys'.sched.dsq = sys.sched.dsq)
      (haccounts : sys'.sched.accounts =
        (p, elapsed k.now (sys.sched.view p).startedAt, 0) :: sys.sched.accounts) :
      Step m sys sys' (.stopping k p runnable)
  | quiescent {k : Call} {p : Task} {sleep : Bool} {tier : Nat} {origin : Origin}
      (hphase : sys.phase p = .leaving ∨ sys.phase p = .queued)
      (horigin : origin = if sleep then .sleep else if sys.phase p = .leaving then .running else .waiting)
      (h : Changed sys sys' p (.dequeued origin) { sys.sched.view p with
          tier := tier
          boost := DSQ_TYPE_EMPTY
          resumeSlice := 0
          blockedAt := if sleep then k.now else 0 }
        { sys.sched.task p with queued := false })
      (hcpus : SameCpus sys sys') (hdsq : sys'.sched.dsq = (sys.unlink p).sched.dsq)
      (haccounts : sys'.sched.accounts = sys.sched.accounts) :
      Step m sys sys' (.quiescent k p sleep)
  | schedSwitch {k : Call} {next : Task} {idle : Task → Option Nat} (hphase : sys'.phase = sys.phase)
      (honCpu : sys'.onCpu = sys.onCpu) (hswitching : sys'.switching = sys.switching)
      (h : OnlyRt sys.sched sys'.sched) :
      Step m sys sys' (.schedSwitch k next idle)

namespace Inv

variable {m : Machine} {sys : Sys}

theorem not_mem_of_phase (h : Inv m sys) {p : Task} (hp : sys.phase p ≠ .queued) (id : DsqId) :
    p ∉ sys.sched.dsq id := fun hmem => hp (h.members id p hmem).phase

theorem present (h : Inv m sys) {p : Task} (hp : sys.phase p ≠ .none) : (sys.sched.view p).present :=
  (h.tasks p).present hp

theorem boost_le (h : Inv m sys) (q : Task) : DSQ_TYPE_LC ≤ (sys.sched.view q).boost :=
  (h.tasks q).boost

theorem inserted (p : Task) (head : Bool) (clock : Nat) :
    Inserted sys { sys.insertLocal p head with clock := clock } p head where
  changed := ⟨rfl, (Function.update_eq_self p sys.sched.view).symm, rfl⟩
  cpus := ⟨rfl, rfl, rfl⟩
  dsq := rfl
  accounts := rfl

theorem step_initTask {k : Call} {p : Task} (hg : sys.guard m (.initTask k p)) :
    Step m sys ((lunarSys m).exec sys (.initTask k p)) (.initTask k p) := by
  obtain ⟨v, hs, heffects, hpresent, hboost, hresume, hblocked⟩ := lunarInitTask_spec k p sys.sched
  exact .initTask hg ⟨rfl, hs.view, hs.task.trans (by simp)⟩ ⟨rfl, rfl, hs.dispatchState⟩
    ⟨hs.dsq, Sched.accounts_congr heffects⟩ hpresent hboost hresume hblocked

theorem step_setAttributes {p : Task} {attr : Attributes} (hg : sys.guard m (.setAttributes p attr)) :
    Step m sys ((lunarSys m).exec sys (.setAttributes p attr)) (.setAttributes p attr) := by
  have hphase : sys.phase p = .none ∨ ∃ origin, sys.phase p = .dequeued origin := by
    rcases hg with hg | hg | hg | hg
    · exact Or.inl hg
    all_goals exact Or.inr ⟨_, hg⟩
  refine .setAttributes hphase ⟨?_, ?_, rfl⟩ ⟨rfl, rfl, rfl⟩ ⟨rfl, rfl⟩
  · exact (Function.update_eq_self p sys.phase).symm
  · exact (Function.update_eq_self p sys.sched.view).symm

theorem step_selectCpu {k : Call} {p : Task} {ttwu : Bool} {dfl : Nat × Bool}
    (hg : sys.guard m (.selectCpu k p ttwu dfl)) :
    Step m sys ((lunarSys m).exec sys (.selectCpu k p ttwu dfl)) (.selectCpu k p ttwu dfl) := by
  obtain ⟨⟨v, hview, hv⟩, -, hdsq, hstate, heffects, htask⟩ :=
    lunarSelectCpu_spec m k p sys.sched ttwu dfl
  have hphase : sys.phase p = .dequeued .sleep := hg.1
  have hphases : sys.phase = Function.update sys.phase p (.dequeued .sleep) := by
    rw [← hphase]
    exact (Function.update_eq_self p sys.phase).symm
  have htasks : ((lunarSys m).exec sys (.selectCpu k p ttwu dfl)).sched.task =
      Function.update (lunarSelectCpu m k ttwu dfl p sys.sched).2.task p
        { (lunarSelectCpu m k ttwu dfl p sys.sched).2.task p with
          cpu := (lunarSelectCpu m k ttwu dfl p sys.sched).1 } := rfl
  rcases htask with ht | ht
  · rw [ht] at htasks
    exact .selectCpu hphase ⟨hphases, (Sched.view_congr rfl).trans hview, htasks⟩ ⟨rfl, rfl, hstate⟩
      ⟨hdsq, Sched.accounts_congr heffects⟩ hv (Or.inl ⟨rfl, rfl⟩)
  · rw [ht, Function.update_idem, Function.update_self] at htasks
    exact .selectCpu hphase ⟨hphases, (Sched.view_congr rfl).trans hview, htasks⟩ ⟨rfl, rfl, hstate⟩
      ⟨hdsq, Sched.accounts_congr heffects⟩ hv (Or.inr rfl)

theorem step_runnable (h : Inv m sys) {k : Call} {p : Task} {wakeup : Bool} {cpu : Nat}
    (hg : sys.guard m (.runnable k p wakeup cpu)) :
    Step m sys ((lunarSys m).exec sys (.runnable k p wakeup cpu)) (.runnable k p wakeup cpu) := by
  obtain ⟨hcpu, hg⟩ := hg
  obtain ⟨origin, hphase⟩ : ∃ origin, sys.phase p = .dequeued origin := by
    rcases hg with hg | ⟨hg, -⟩ | ⟨hg, -⟩
    all_goals exact ⟨_, hg⟩
  have hpresent := h.present (p := p) (by simp [hphase])
  obtain ⟨tier, hs, heffects⟩ := lunarRunnable_spec k p
    (sys.sched.setTask p { sys.sched.task p with cpu := cpu, queued := true }) wakeup hpresent
  refine .runnable hphase hcpu ⟨?_, hs.view, hs.task⟩ ⟨rfl, rfl, hs.dispatchState⟩ hs.dsq ?_
  · change Function.update sys.phase p _ = _
    rw [hphase]
  · have hblocked : ((sys.sched.setTask p { sys.sched.task p with cpu := cpu, queued := true }).view
        p).blockedAt = (sys.sched.view p).blockedAt := rfl
    rw [hblocked] at heffects
    split_ifs at heffects ⊢
    · exact Sched.accounts_emit sys.sched p _ _ rfl heffects
    · exact Sched.accounts_congr heffects

theorem step_enqueue (h : Inv m sys) {k : Call} {p : Task} {flags : EnqFlags} {env : PickEnv}
    (hg : sys.guard m (.enqueue k p flags env)) :
    Step m sys ((lunarSys m).exec sys (.enqueue k p flags env)) (.enqueue k p flags env) := by
  obtain ⟨⟨hcpu, honline, hallowed, hidle⟩, hfrom⟩ := hg
  have hphase : (sys.phase p = .runnable .sleep ∨ sys.phase p = .runnable .waiting) ∨
      sys.phase p = .stopped ∧ (sys.sched.task p).slice = 0 ∨
      sys.phase p = .queued ∧ p ∈ sys.localDsq (sys.cpuOf p) := by
    rcases hfrom with ⟨hf | ⟨hf, -⟩, -⟩ | ⟨hf, hz, -⟩ | ⟨hf, -⟩
    · exact Or.inl (Or.inl hf)
    · exact Or.inl (Or.inr hf)
    · exact Or.inr (Or.inl ⟨hf, hz⟩)
    · exact Or.inr (Or.inr ⟨(h.members _ p hf).phase, hf⟩)
  have hwakeup (hne : sys.phase p ≠ .runnable .sleep) : flags.wakeup = false := by
    rcases hfrom with ⟨hf | ⟨-, hw⟩, -⟩ | ⟨-, -, hw⟩ | ⟨-, hw⟩
    · exact absurd hf hne
    all_goals simpa using hw
  have hpresent : ((sys.unlink p).sched.view p).present := h.present (p := p) (by
    rcases hphase with (hp | hp) | ⟨hp, -⟩ | ⟨hp, -⟩ <;> simp [hp])
  obtain ⟨v, target, slice, head, hv, hsame, htarget, hon, hplace, hslice, henq⟩ :=
    lunarEnqueue_spec (s := (sys.unlink p).sched) k env flags hpresent h.boost_le hcpu honline
      fun idle hi => hidle idle hi
  refine .enqueue hphase hv (fun hne => hsame (hwakeup hne)) ⟨htarget, hon, ?_⟩ ?_
    ⟨rfl, henq.view, henq.task⟩ rfl rfl henq
  · rcases hplace with rfl | hp
    · exact hallowed
    · exact hp
  · rcases hslice with ⟨hr, hrt, hs⟩ | hs
    · exact Or.inl ⟨hr, hs, hrt⟩
    · exact Or.inr hs

theorem step_running (h : Inv m sys) {k : Call} {p : Task} (hg : sys.guard m (.running k p)) :
    Step m sys ((lunarSys m).exec sys (.running k p)) (.running k p) := by
  obtain ⟨hproc, hmem, hidle⟩ := hg
  have hphase : sys.phase p = .queued := (h.members _ p hmem).phase
  have hpresent : ((sys.unlink p).sched.view p).present := h.present (p := p) (by simp [hphase])
  obtain ⟨hview, hstate, hdsq, htask, heffects⟩ :=
    lunarRunning_spec m k p (sys.unlink p).sched hpresent hproc
  exact .running hproc hmem hphase hidle ⟨rfl, hview, htask.trans (by simp [Sys.unlink])⟩ rfl rfl
    hstate hdsq (Sched.accounts_congr heffects)

theorem step_stopping (h : Inv m sys) {k : Call} {p : Task} {runnable : Bool}
    (hg : sys.guard m (.stopping k p runnable)) :
    Step m sys ((lunarSys m).exec sys (.stopping k p runnable)) (.stopping k p runnable) := by
  have hphase : sys.phase p = .running := hg
  have hpresent := h.present (p := p) (by simp [hphase])
  have hcpu := (h.tasks p).cpu (by simp [hphase, Phase.active])
  obtain ⟨⟨tier, hview⟩, hstate, hdsq, htask, heffects⟩ :=
    lunarStopping_spec m k p sys.sched runnable hpresent hcpu
  exact .stopping hphase ⟨rfl, hview, htask.trans (by simp)⟩ rfl rfl hstate hdsq
    (Sched.accounts_emit sys.sched p _ _ rfl heffects)

theorem step_quiescent (h : Inv m sys) {k : Call} {p : Task} {sleep : Bool}
    (hg : sys.guard m (.quiescent k p sleep)) :
    Step m sys ((lunarSys m).exec sys (.quiescent k p sleep)) (.quiescent k p sleep) := by
  have hpresent : ((sys.unlink p).sched.view p).present := h.present (p := p) (by
    rcases hg with hg | hg <;> simp [hg])
  obtain ⟨tier, hs, heffects⟩ := lunarQuiescent_spec k p (sys.unlink p).sched sleep hpresent
  refine .quiescent hg rfl ⟨rfl, (Sched.view_congr rfl).trans hs.view, ?_⟩
    ⟨rfl, rfl, hs.dispatchState⟩ hs.dsq (Sched.accounts_congr heffects)
  exact congrArg (fun task => Function.update task p { task p with queued := false }) hs.task

theorem step_dispatch (h : Inv m sys) {k : Call} {cpu : Nat} {prev : Option Task} {rnd : Nat → Nat}
    (hg : sys.guard m (.dispatch k cpu prev rnd)) :
    Step m sys ((lunarSys m).exec sys (.dispatch k cpu prev rnd)) (.dispatch k cpu prev rnd) := by
  obtain ⟨hcpu, hlocal, hsw, hprev⟩ := hg
  have hsw : sys.switching cpu = false := by simpa using hsw
  -- switching is set if something runs and the local DSQ is not empty any more.
  have hkeep (b : Bool) (hb : b = false) : Function.update sys.switching cpu b = sys.switching := by
    rw [hb, ← hsw]
    exact Function.update_eq_self cpu sys.switching
  refine .dispatch hcpu hlocal hsw rfl rfl ?_
  rcases hprev with ⟨hidle, hprev⟩ | ⟨hbusy, rfl, hslice⟩
  · have hnone : queuedCtx sys.sched prev = none := by
      cases prev with
      | none => rfl
      | some p => simp [queuedCtx, show (sys.sched.task p).queued = false by simpa using hprev p rfl]
    cases lunarDispatch_spec m k k.now rnd cpu prev sys.sched hcpu with
    | idle _ hd => exact .idle hidle hd (hkeep _ (by simp [hidle]))
    | replaced hq _ _ _ _ => simp [hnone] at hq
    | continued hq _ _ _ => simp [hnone] at hq
  · obtain ⟨p, hp⟩ := Option.ne_none_iff_exists'.mp hbusy
    have hrun := (h.onCpu cpu p).mp hp
    have hqueued := (h.tasks p).onRq (by rw [hrun.1]; rfl)
    obtain ⟨pctx, hctx, -⟩ := Sched.exists_of_present (h.present (p := p) (by simp [hrun.1]))
    have hsome : queuedCtx sys.sched (sys.onCpu cpu) = some (p, pctx) :=
      queuedCtx_eq_some.mpr ⟨hp, hqueued, hctx⟩
    cases lunarDispatch_spec m k k.now rnd cpu (sys.onCpu cpu) sys.sched hcpu with
    | idle hq _ => simp [hsome] at hq
    | replaced hq hacc htier hr hd =>
        rw [hsome] at hq
        cases hq
        rcases hd.moved_or_unmoved with ⟨c, q, hm⟩ | ⟨hu, -⟩
        · refine .replaced hp (hslice p hp) hacc hd hm (congrArg (Function.update sys.switching cpu) ?_)
          rw [hm.dsq, Sched.moveTo_dsq (getCpuDsqFromType_ne_localOn _ c cpu), Function.update_self]
          simp [hp]
        · exact absurd (hu.trans (if_pos htier)) hr
    | continued hq hacc hpath hc =>
        rw [hsome] at hq
        cases hq
        refine .continued hp (hslice p hp) hacc hpath hc (hkeep _ ?_)
        rw [hc.dsq, hacc.dsq, show sys.sched.dsq (.localOn cpu) = [] from hlocal]
        simp

theorem step_enqueueLocal (h : Inv m sys) {p : Task} {slice : Nat}
    (hg : sys.guard m (.enqueueLocal p slice)) :
    Step m sys ((lunarSys m).exec sys (.enqueueLocal p slice)) (.enqueueLocal p slice) := by
  refine .enqueueLocal ?_ ⟨rfl, (Function.update_eq_self p sys.sched.view).symm, ?_⟩ ⟨rfl, rfl, rfl⟩ ?_ rfl
  · rcases hg with hp | hp | hp | hp
    · exact Or.inl (Or.inl hp)
    · exact Or.inl (Or.inr hp)
    · exact Or.inr (Or.inl hp)
    · exact Or.inr (Or.inr ⟨(h.members _ p hp).phase, hp⟩)
  · simp [lunarSys, Sys.exec, Sys.insertLocal, Sys.setSlice, Sys.unlink]
  · simp [lunarSys, Sys.exec, Sys.insertLocal, Sys.setSlice, Sys.unlink, Sys.localDsq, Sys.cpuOf]

theorem stepped (h : Inv m sys) {event : Event} (he : (lunarSys m).enabled sys event) :
    Step m sys ((lunarSys m).exec sys event) event := by
  have hg := he.2
  cases event with
  | initTask k p => exact step_initTask hg
  | setAttributes p attr => exact step_setAttributes hg
  | selectCpu k p ttwu dfl => exact step_selectCpu hg
  | runnable k p wakeup cpu => exact h.step_runnable hg
  | enqueue k p flags env => exact h.step_enqueue hg
  | enqueueLocal p slice => exact h.step_enqueueLocal hg
  | insertDirect p => exact .insertDirect hg.1 hg.2 (inserted p false _)
  | restore p => exact .restore hg (inserted p false _)
  | putBack p => exact .putBack hg.1 hg.2 (inserted p true _)
  | consumeSlice p left =>
      have hphases : sys.phase = Function.update sys.phase p .running := by
        rw [← show sys.phase p = .running from hg.1]
        exact (Function.update_eq_self p sys.phase).symm
      exact .consumeSlice hg.1 hg.2 ⟨hphases, (Function.update_eq_self p sys.sched.view).symm, rfl⟩
        ⟨rfl, rfl, rfl⟩ ⟨rfl, rfl⟩
  | dispatch k cpu prev rnd => exact h.step_dispatch hg
  | running k p => exact h.step_running hg
  | stopping k p runnable => exact h.step_stopping hg
  | quiescent k p sleep => exact h.step_quiescent hg
  | schedSwitch k next idle =>
      have hs := lunarSchedSwitch_spec m k
        { sys.sched with cpuCurr := Function.update sys.sched.cpuCurr k.proc (some next) } idle next
      exact .schedSwitch rfl rfl rfl ⟨hs.view, hs.dsq, hs.task, hs.accounts, hs.dispatchState⟩

end Inv

end Lunar
