import Lunar.Callbacks.Specs
import Lunar.Library.Counting

namespace Lunar

open CircularScan FlagCount Word64

-- lunar_sched_switch on several cpus at the same time. A cpu writes its own rt_busy
-- first and nr_rt_busy afterwards, and anything can happen in between.

-- Where a cpu is in lunar_sched_switch, with the local variable rt.
inductive SwitchPc where
  | outside
  | count (rt : Bool)
  | rest (rt : Bool)
deriving DecidableEq, Repr

structure RtSys where
  sched : Sched
  pc : Nat → SwitchPc
  -- the task last switched in, as it was then
  lastIn : Nat → Option TaskStruct

inductive RtEvent where
  | enter (cpu : Nat) (next : Task)
  | count (cpu : Nat)
  | leave (cpu : Nat) (idle : Task → Option Nat)
  -- one turn of the loop of lunar_init
  | init (cpu now : Nat)
  -- any of the other callbacks, or the kernel
  | other (s' : Sched)

-- Nothing about RT tasks changed.
structure SameRt (s s' : Sched) : Prop where
  nrRtBusy : s'.nrRtBusy = s.nrRtBusy
  rtBusy : ∀ cpu, (s'.dispatchState cpu).rtBusy = (s.dispatchState cpu).rtBusy

def writeRtBusy (m : Machine) (cpu : Nat) (rt : Bool) (s : Sched) : Sched :=
  s.updDispatchCtx m cpu fun dctx => { dctx with rtBusy := rt }

def countRtBusy (rt : Bool) (s : Sched) : Sched :=
  { s with nrRtBusy := if rt then wrap (s.nrRtBusy + 1) else sub s.nrRtBusy 1 }

-- The end of lunar_sched_switch.
def leaveSwitch (idle : Task → Option Nat) (cpu : Nat) (rt : Bool) (s : Sched) : Sched :=
  if !rt then s
  else
    let s := if dsqQueued s (.localOn cpu) ≠ 0 then s.emit (.reenqueueLocal cpu) else s
    kickIdleForWaiting idle cpu s

def initTurn (m : Machine) (cpu now : Nat) (s : Sched) : Sched :=
  s.updDispatchCtx m cpu fun dctx =>
    { dctx with
      currentTaskDsqType := DSQ_TYPE_EMPTY
      tierHeadTs := fun t =>
        if t = DSQ_TYPE_INTERACTIVE ∨ t = DSQ_TYPE_NORMAL ∨ t = DSQ_TYPE_GREEDY then now
        else dctx.tierHeadTs t
      lastOverrideTs := now
      overrideTier := DSQ_TYPE_EMPTY
      overrideLeft := 0
      preemptPending := false }

def rtSys (m : Machine) : TransitionSystem RtSys RtEvent where
  enabled sys
    | .enter cpu _ => sys.pc cpu = .outside
    | .count cpu => ∃ rt, sys.pc cpu = .count rt
    | .leave cpu _ => ∃ rt, sys.pc cpu = .rest rt
    | .init _ _ => True
    | .other s' => SameRt sys.sched s'
  exec sys
    | .enter cpu next =>
        match sys.sched.getDispatchCtx m cpu with
        | none => sys
        | some dctx =>
            let rt := isRtTask (sys.sched.task next)
            let lastIn := Function.update sys.lastIn cpu (some (sys.sched.task next))
            if rt ≠ dctx.rtBusy then
              ⟨writeRtBusy m cpu rt sys.sched, Function.update sys.pc cpu (.count rt), lastIn⟩
            else ⟨sys.sched, Function.update sys.pc cpu (.rest rt), lastIn⟩
    | .count cpu =>
        match sys.pc cpu with
        | .count rt =>
            { sys with
              sched := countRtBusy rt sys.sched
              pc := Function.update sys.pc cpu (.rest rt) }
        | _ => sys
    | .leave cpu idle =>
        match sys.pc cpu with
        | .rest rt =>
            { sys with
              sched := leaveSwitch idle cpu rt sys.sched
              pc := Function.update sys.pc cpu .outside }
        | _ => sys
    | .init cpu now => { sys with sched := initTurn m cpu now sys.sched }
    | .other s' => { sys with sched := s' }

-- The maps as they are created, and no cpu in lunar_sched_switch.
structure RtStart (sys : RtSys) : Prop where
  nrRtBusy : sys.sched.nrRtBusy = 0
  rtBusy : ∀ cpu, (sys.sched.dispatchState cpu).rtBusy = false
  pc : ∀ cpu, sys.pc cpu = .outside
  lastIn : ∀ cpu, sys.lastIn cpu = none

-- The steps are those of lunar_init and lunar_sched_switch.

theorem lunarInit_eq_turns (m : Machine) (now : Nat → Nat) (s : Sched) :
    lunarInit m now s = (List.range m.nrCpuIds).foldl (fun s cpu => initTurn m cpu (now cpu) s) s := rfl

theorem lunarSchedSwitch_eq (m : Machine) (k : Call) (idle : Task → Option Nat) (next : Task)
    (s : Sched) {dctx : DispatchCtx} (hdctx : s.getDispatchCtx m k.proc = some dctx) :
    let rt := isRtTask (s.task next)
    lunarSchedSwitch m k idle next s = leaveSwitch idle k.proc rt
      (if rt ≠ dctx.rtBusy then countRtBusy rt (writeRtBusy m k.proc rt s) else s) := by
  simp only [lunarSchedSwitch, hdctx]
  rfl

section Steps

variable {m : Machine} {sys : RtSys} {cpu : Nat} {next : Task}

theorem exec_enter (sys : RtSys) (next : Task) (hcpu : cpu < m.nrCpuIds) :
    let rt := isRtTask (sys.sched.task next)
    let lastIn := Function.update sys.lastIn cpu (some (sys.sched.task next))
    (rt ≠ (sys.sched.dispatchState cpu).rtBusy ∧ (rtSys m).exec sys (.enter cpu next) =
      ⟨writeRtBusy m cpu rt sys.sched, Function.update sys.pc cpu (.count rt), lastIn⟩) ∨
    (rt = (sys.sched.dispatchState cpu).rtBusy ∧ (rtSys m).exec sys (.enter cpu next) =
      ⟨sys.sched, Function.update sys.pc cpu (.rest rt), lastIn⟩) := by
  by_cases hrt : isRtTask (sys.sched.task next) = (sys.sched.dispatchState cpu).rtBusy
  · exact Or.inr ⟨hrt, by simp [rtSys, Sched.getDispatchCtx, hcpu, hrt]⟩
  · exact Or.inl ⟨hrt, by simp [rtSys, Sched.getDispatchCtx, hcpu, hrt]⟩

theorem exec_count {rt : Bool} (hpc : sys.pc cpu = .count rt) : (rtSys m).exec sys (.count cpu) =
    ⟨countRtBusy rt sys.sched, Function.update sys.pc cpu (.rest rt), sys.lastIn⟩ := by
  simp [rtSys, hpc]

theorem exec_leave {rt : Bool} {idle : Task → Option Nat} (hpc : sys.pc cpu = .rest rt) :
    (rtSys m).exec sys (.leave cpu idle) =
      ⟨leaveSwitch idle cpu rt sys.sched, Function.update sys.pc cpu .outside, sys.lastIn⟩ := by
  simp [rtSys, hpc]

-- Without an interruption the steps of a cpu make up lunar_sched_switch.
theorem lunarSchedSwitch_run (k : Call) (idle : Task → Option Nat) (hpc : sys.pc k.proc = .outside)
    (hproc : k.proc < m.nrCpuIds) :
    ∃ events, (rtSys m).Runs sys events ∧
      ((rtSys m).final sys events).sched = lunarSchedSwitch m k idle next sys.sched ∧
      ((rtSys m).final sys events).pc = sys.pc := by
  have hdctx : sys.sched.getDispatchCtx m k.proc = some (sys.sched.dispatchState k.proc) := if_pos hproc
  have hback : Function.update sys.pc k.proc .outside = sys.pc := by
    rw [← hpc, Function.update_eq_self]
  rw [lunarSchedSwitch_eq m k idle next sys.sched hdctx]
  rcases exec_enter sys next hproc with ⟨hrt, henter⟩ | ⟨hrt, henter⟩
  · rw [if_pos hrt]
    refine ⟨[.enter k.proc next, .count k.proc, .leave k.proc idle], ⟨hpc, ?_⟩, ?_⟩
    · rw [henter]
      refine ⟨⟨_, Function.update_self ..⟩, ?_⟩
      rw [exec_count (Function.update_self ..)]
      exact ⟨⟨_, Function.update_self ..⟩, trivial⟩
    · simp only [TransitionSystem.final_cons, TransitionSystem.final_nil, henter]
      rw [exec_count (Function.update_self ..), exec_leave (Function.update_self ..)]
      exact ⟨rfl, by simp [hback]⟩
  · rw [if_neg (not_not.mpr hrt)]
    refine ⟨[.enter k.proc next, .leave k.proc idle], ⟨hpc, ?_⟩, ?_⟩
    · rw [henter]
      exact ⟨⟨_, Function.update_self ..⟩, trivial⟩
    · simp only [TransitionSystem.final_cons, TransitionSystem.final_nil, henter]
      rw [exec_leave (Function.update_self ..)]
      exact ⟨rfl, by simp [hback]⟩

end Steps

namespace SameRt

variable {s s1 s2 : Sched}

theorem refl (s : Sched) : SameRt s s := ⟨rfl, fun _ => rfl⟩

theorem trans (h : SameRt s s1) (h' : SameRt s1 s2) : SameRt s s2 :=
  ⟨h'.nrRtBusy.trans h.nrRtBusy, fun cpu => (h'.rtBusy cpu).trans (h.rtBusy cpu)⟩

theorem setTaskCtx (h : SameRt s s1) (p : Task) (tctx : TaskCtx) : SameRt s (s1.setTaskCtx p tctx) :=
  ⟨h.nrRtBusy, h.rtBusy⟩

theorem setTask (h : SameRt s s1) (p : Task) (task : TaskStruct) : SameRt s (s1.setTask p task) :=
  ⟨h.nrRtBusy, h.rtBusy⟩

theorem emit (h : SameRt s s1) (effect : Effect) : SameRt s (s1.emit effect) :=
  ⟨h.nrRtBusy, h.rtBusy⟩

theorem updDispatchCtx (h : SameRt s s1) (m : Machine) (cpu : Nat) {f : DispatchCtx → DispatchCtx}
    (hf : ∀ dctx, (f dctx).rtBusy = dctx.rtBusy) : SameRt s (s1.updDispatchCtx m cpu f) :=
  ⟨(s1.updDispatchCtx_nrRtBusy m cpu f).trans h.nrRtBusy,
    fun d => (s1.updDispatchCtx_field m cpu f (·.rtBusy) hf d).trans (h.rtBusy d)⟩

end SameRt

theorem sameRt_initTurn (m : Machine) (cpu now : Nat) (s : Sched) : SameRt s (initTurn m cpu now s) :=
  SameRt.updDispatchCtx (.refl s) m cpu fun _ => rfl

theorem sameRt_leaveSwitch (idle : Task → Option Nat) (cpu : Nat) (rt : Bool) (s : Sched) :
    SameRt s (leaveSwitch idle cpu rt s) := by
  have hkick (s' : Sched) : SameRt s' (kickIdleForWaiting idle cpu s') := by
    unfold kickIdleForWaiting
    dsimp only
    split
    · exact .refl s'
    · split
      · exact (SameRt.refl s').emit _
      · exact .refl s'
  unfold leaveSwitch
  dsimp only
  split_ifs
  · exact .refl s
  · exact ((SameRt.refl s).emit _).trans (hkick _)
  · exact hkick s

-- The other callbacks are steps that have nothing to do with RT tasks.

section Others

variable (m : Machine) (k : Call) (p : Task) (s : Sched)

theorem sameRt_lunarInit (now : Nat → Nat) : SameRt s (lunarInit m now s) := by
  rw [lunarInit_eq_turns]
  generalize List.range m.nrCpuIds = cpus
  induction cpus generalizing s with
  | nil => exact .refl s
  | cons cpu rest ih => exact (sameRt_initTurn m cpu (now cpu) s).trans (ih _)

theorem sameRt_boostWoken (wakeup : Bool) : SameRt s (boostWoken k wakeup p s) := by
  unfold boostWoken
  split
  · split_ifs
    · exact (SameRt.refl s).setTaskCtx _ _
    · exact .refl s
  · exact .refl s

theorem sameRt_lunarSelectCpu (ttwu : Bool) (dfl : Nat × Bool) :
    SameRt s (lunarSelectCpu m k ttwu dfl p s).2 := by
  have hboost := sameRt_boostWoken k p s ttwu
  unfold lunarSelectCpu
  dsimp only
  split_ifs
  · exact hboost.setTask _ _
  · exact hboost

theorem sameRt_stampAndInsert (tier target slice : Nat) (head : Bool) :
    SameRt s (stampAndInsert m k p tier target slice head s) := by
  have hinsert {s' : Sched} (h : SameRt s s') (id : DsqId) : SameRt s (s'.dsqInsert p id slice head) :=
    ⟨h.nrRtBusy, h.rtBusy⟩
  unfold stampAndInsert
  dsimp only
  refine hinsert ?_ _
  split_ifs
  · exact (SameRt.refl s).updDispatchCtx m target fun dctx => by simp
  · exact .refl s

theorem sameRt_enqueueOn (flags : EnqFlags) (tier target : Nat) :
    SameRt s (enqueueOn m k flags p tier target s) := by
  unfold enqueueOn
  dsimp only
  generalize (if !cpuIsOnline m target then (s.task p).cpu else target) = target'
  have hinsert := sameRt_stampAndInsert m k p s tier target' SLICE_NS flags.head
  split
  · exact hinsert.emit _
  split_ifs
  · exact hinsert.emit _
  · refine SameRt.emit ?_ _
    exact hinsert.updDispatchCtx m target' fun _ => rfl
  · exact hinsert

theorem sameRt_lunarEnqueue (env : PickEnv) (flags : EnqFlags) :
    SameRt s (lunarEnqueue m k env flags p s) := by
  have hset (tctx : TaskCtx) : SameRt s (s.setTaskCtx p tctx) := (SameRt.refl s).setTaskCtx p tctx
  unfold lunarEnqueue
  dsimp only
  split
  · exact sameRt_enqueueOn ..
  generalize (if flags.wakeup then applyWakeBoost k s p _ else _) = tctx
  generalize (if tctx.resumeSlice ≠ 0 ∧ cpuTakenByRt s (s.task p).cpu then
      { tctx with resumeSlice := 0 } else tctx) = tctx'
  split_ifs
  · exact (hset _).trans (sameRt_stampAndInsert ..)
  · exact (hset _).trans (sameRt_enqueueOn ..)

theorem sameRt_dispatched {cpu prevTier now r : Nat} {path : OverridePath} {s' : Sched}
    (h : Dispatched m s cpu prevTier now path r s') : SameRt s s' :=
  ⟨h.sameOutside.nrRtBusy, h.sameOutside.rtBusy⟩

theorem sameRt_continuePrev (cpu : Nat) (prev : Task) (pctx : TaskCtx) :
    SameRt s (continuePrev m cpu prev pctx s) := by
  have hgrant (tier : Nat) (pctx : TaskCtx) : SameRt s (grantSlice m cpu prev tier pctx s) := by
    have hset := (((SameRt.refl s).setTask prev { s.task prev with slice := SLICE_NS }).emit
      (.setSlice prev SLICE_NS)).setTaskCtx prev { pctx with grantedSlice := SLICE_NS }
    unfold grantSlice
    exact hset.updDispatchCtx m cpu fun _ => rfl
  unfold continuePrev
  split_ifs
  · exact hgrant _ _
  · exact hgrant _ _

theorem sameRt_lunarDispatch (now : Nat) (rnd : Nat → Nat) (cpu : Nat) (prev : Option Task) :
    SameRt s (lunarDispatch m k now rnd cpu prev s) := by
  have hargs : SameRt s (dispatchArgs m k cpu prev s).2 := by
    unfold dispatchArgs
    split
    · exact .refl s
    · rename_i q pctx _
      have hcharge : SameRt s (s.updDispatchCtx m cpu fun dctx =>
          chargeOverride dctx (effectiveTier (some pctx)) (elapsed k.now pctx.startedAt)) :=
        (SameRt.refl s).updDispatchCtx m cpu fun dctx => by rw [chargeOverride_eq]
      exact (hcharge.emit _).setTaskCtx q _
  have hdispatched := hargs.trans (sameRt_dispatched m _ (dispatchDsqPerCpu_dispatched m rnd
    (dispatchArgs m k cpu prev s).2 cpu (dispatchArgs m k cpu prev s).1 now))
  rcases lunarDispatch_eq m k now rnd cpu prev s with ⟨-, heq⟩ | ⟨q, pctx, -, -, heq⟩
  · rw [heq]
    exact hdispatched
  · rw [heq]
    exact hdispatched.trans (sameRt_continuePrev ..)

theorem sameRt_lunarRunning : SameRt s (lunarRunning m k p s) := by
  unfold lunarRunning
  split
  · exact .refl s
  dsimp only
  split
  · exact .refl s
  · refine SameRt.setTaskCtx ?_ p _
    exact (SameRt.refl s).updDispatchCtx m k.proc fun _ => rfl

theorem sameRt_lunarStopping (runnable : Bool) : SameRt s (lunarStopping m k p runnable s) := by
  unfold lunarStopping
  split
  · exact .refl s
  rename_i tctx _
  have hcharge : SameRt s (s.updDispatchCtx m (s.task p).cpu fun dctx =>
      chargeOverride dctx (effectiveTier (some tctx)) (elapsed k.now tctx.startedAt)) :=
    (SameRt.refl s).updDispatchCtx m _ fun dctx => by rw [chargeOverride_eq]
  dsimp only
  split
  · exact (hcharge.emit _).setTaskCtx p _
  · exact ((hcharge.emit _).setTaskCtx p _).updDispatchCtx m _ fun _ => rfl

theorem sameRt_lunarQuiescent (sleep : Bool) : SameRt s (lunarQuiescent k sleep p s) := by
  unfold lunarQuiescent
  split
  · exact .refl s
  · exact (SameRt.refl s).setTaskCtx p _

theorem sameRt_recordWaker : SameRt s (recordWaker k p s) := by
  unfold recordWaker
  dsimp only
  split_ifs
  · exact .refl s
  · exact .refl s
  split
  · exact .refl s
  · exact (SameRt.refl s).setTaskCtx _ _

theorem sameRt_lunarRunnable (wakeup : Bool) : SameRt s (lunarRunnable k wakeup p s) := by
  unfold lunarRunnable
  split
  · exact .refl s
  dsimp only
  generalize (if wakeup then _ else _ : TaskCtx) = tctx
  have hset := (SameRt.refl s).setTaskCtx p tctx
  have hwaker : SameRt s (if wakeup then recordWaker k p (s.setTaskCtx p tctx)
      else s.setTaskCtx p tctx) := by
    split_ifs
    · exact hset.trans (sameRt_recordWaker ..)
    · exact hset
  split_ifs at hwaker ⊢
  all_goals first | exact hwaker | exact (hwaker.emit _).setTaskCtx p _

end Others

-- No callback but sched_switch writes what is counted.
theorem sameRt_callback (m : Machine) (s : Sched) {event : Callback}
    (hswitch : ∀ k idle next, event ≠ .schedSwitch k idle next) (hkernel : ∀ s', event ≠ .kernel s') :
    SameRt s ((callbacks m).exec s event) := by
  cases event with
  | init now => exact sameRt_lunarInit m s now
  | initTask k p => exact (SameRt.refl s).setTaskCtx p _
  | selectCpu k ttwu dfl p => exact sameRt_lunarSelectCpu m k p s ttwu dfl
  | enqueue k env flags p => exact sameRt_lunarEnqueue m k p s env flags
  | dispatch k now rnd cpu prev => exact sameRt_lunarDispatch m k s now rnd cpu prev
  | running k p => exact sameRt_lunarRunning m k p s
  | stopping k p runnable => exact sameRt_lunarStopping m k p s runnable
  | quiescent k sleep p => exact sameRt_lunarQuiescent k p s sleep
  | runnable k wakeup p => exact sameRt_lunarRunnable k p s wakeup
  | schedSwitch k idle next => exact absurd rfl (hswitch k idle next)
  | kernel s' => exact absurd rfl (hkernel s')

-- What a cpu has been counted as: as long as the count is behind, as the opposite of rt_busy.
def countedAs (sys : RtSys) (cpu : Nat) : Bool :=
  match sys.pc cpu with
  | .count rt => !rt
  | .outside | .rest _ => (sys.sched.dispatchState cpu).rtBusy

structure RtInv (m : Machine) (sys : RtSys) : Prop where
  count : sys.sched.nrRtBusy = number m.nrCpuIds (countedAs sys)
  pc : ∀ cpu, sys.pc cpu ≠ .outside → cpu < m.nrCpuIds
  rtBusy : ∀ cpu rt, sys.pc cpu = .count rt → (sys.sched.dispatchState cpu).rtBusy = rt
  lastIn : ∀ cpu < m.nrCpuIds, (sys.sched.dispatchState cpu).rtBusy = (sys.lastIn cpu).any isRtTask

namespace RtInv

variable {m : Machine} {sys : RtSys}

-- Only the flags count, for a cpu that stays where it is.
theorem countedAs_congr {sys' : RtSys} {cpu : Nat} (hpc : sys'.pc cpu = sys.pc cpu)
    (hbusy : (sys'.sched.dispatchState cpu).rtBusy = (sys.sched.dispatchState cpu).rtBusy) :
    countedAs sys' cpu = countedAs sys cpu := by
  simp only [countedAs, hpc, hbusy]

theorem countedAs_count {cpu : Nat} {rt : Bool} (hpc : sys.pc cpu = .count rt) :
    countedAs sys cpu = !rt := by
  simp only [countedAs, hpc]

theorem countedAs_settled {cpu : Nat} (hpc : ∀ rt, sys.pc cpu ≠ .count rt) :
    countedAs sys cpu = (sys.sched.dispatchState cpu).rtBusy := by
  unfold countedAs
  split
  · rename_i rt hcount
    exact absurd hcount (hpc rt)
  · rfl
  · rfl

theorem same (h : RtInv m sys) {s' : Sched} (hs : SameRt sys.sched s') :
    RtInv m { sys with sched := s' } where
  count := by
    refine (hs.nrRtBusy.trans h.count).trans (number_congr fun cpu _ => ?_).symm
    exact countedAs_congr rfl (hs.rtBusy cpu)
  pc := h.pc
  rtBusy := fun cpu rt hpc => (hs.rtBusy cpu).trans (h.rtBusy cpu rt hpc)
  lastIn := fun cpu hcpu => (hs.rtBusy cpu).trans (h.lastIn cpu hcpu)

-- A cpu is told apart from the others, which stay as they are.
theorem of_cpu (h : RtInv m sys) {sys' : RtSys} {cpu : Nat} (hcpu : cpu < m.nrCpuIds)
    (hcount : sys'.sched.nrRtBusy =
      number m.nrCpuIds (Function.update (countedAs sys) cpu (countedAs sys' cpu)))
    (hbusy : ∀ rt, sys'.pc cpu = .count rt → (sys'.sched.dispatchState cpu).rtBusy = rt)
    (hlast : (sys'.sched.dispatchState cpu).rtBusy = (sys'.lastIn cpu).any isRtTask)
    (hother : ∀ c ≠ cpu, sys'.pc c = sys.pc c ∧ sys'.lastIn c = sys.lastIn c ∧
      (sys'.sched.dispatchState c).rtBusy = (sys.sched.dispatchState c).rtBusy) : RtInv m sys' where
  count := by
    refine hcount.trans (number_congr fun c _ => ?_)
    by_cases hc : c = cpu
    · rw [hc, Function.update_self]
    · rw [Function.update_of_ne hc]
      exact (countedAs_congr (hother c hc).1 (hother c hc).2.2).symm
  pc := by
    intro c hpc
    by_cases hc : c = cpu
    · exact hc ▸ hcpu
    · exact h.pc c ((hother c hc).1 ▸ hpc)
  rtBusy := by
    intro c rt hpc
    by_cases hc : c = cpu
    · exact hc ▸ hbusy rt (hc ▸ hpc)
    · rw [(hother c hc).2.2]
      exact h.rtBusy c rt ((hother c hc).1 ▸ hpc)
  lastIn := by
    intro c hlt
    by_cases hc : c = cpu
    · exact hc ▸ hlast
    · rw [(hother c hc).2.1, (hother c hc).2.2]
      exact h.lastIn c hlt

-- Between the two writes a cpu is still counted as what it was before.
theorem step_enter (h : RtInv m sys) {cpu : Nat} (next : Task) (hpc : sys.pc cpu = .outside) :
    RtInv m ((rtSys m).exec sys (.enter cpu next)) := by
  by_cases hcpu : cpu < m.nrCpuIds
  swap
  · simp only [rtSys, Sched.getDispatchCtx, hcpu, if_false]
    exact h
  have hbefore : countedAs sys cpu = (sys.sched.dispatchState cpu).rtBusy :=
    countedAs_settled (by simp [hpc])
  rcases exec_enter sys next hcpu with ⟨hrt, henter⟩ | ⟨hrt, henter⟩
  · rw [henter]
    have hbusy : ((writeRtBusy m cpu (isRtTask (sys.sched.task next)) sys.sched).dispatchState cpu).rtBusy =
        isRtTask (sys.sched.task next) := by
      rw [writeRtBusy, Sched.updDispatchCtx_same _ _ _ _ hcpu]
    refine h.of_cpu hcpu ?_ ?_ (hbusy.trans (by simp)) fun c hc => ⟨?_, ?_, ?_⟩
    · have hsame : (!isRtTask (sys.sched.task next)) = countedAs sys cpu := by
        rw [hbefore]
        exact (Bool.eq_not_of_ne hrt.symm).symm
      rw [countedAs_count (Function.update_self ..), hsame, Function.update_eq_self]
      exact (Sched.updDispatchCtx_nrRtBusy ..).trans h.count
    · intro rt hcount
      have hrt : isRtTask (sys.sched.task next) = rt := by simpa using hcount
      rw [← hrt]
      exact hbusy
    · exact Function.update_of_ne hc ..
    · exact Function.update_of_ne hc ..
    · rw [writeRtBusy, Sched.updDispatchCtx_other _ _ _ _ hc]
  · rw [henter]
    refine h.of_cpu hcpu ?_ (fun rt hcount => by simp at hcount) ?_ fun c hc => ⟨?_, ?_, rfl⟩
    · rw [countedAs_settled (by simp), ← hbefore, Function.update_eq_self]
      exact h.count
    · simpa using hrt.symm
    · exact Function.update_of_ne hc ..
    · exact Function.update_of_ne hc ..

theorem step_count (h : RtInv m sys) {cpu : Nat} {rt : Bool} (hpc : sys.pc cpu = .count rt) :
    RtInv m ((rtSys m).exec sys (.count cpu)) := by
  have hcpu := h.pc cpu (by simp [hpc])
  have hbusy := h.rtBusy cpu rt hpc
  have hbefore := countedAs_count hpc
  have hcount := h.count
  have hmax : m.nrCpuIds ≤ 512 := m.nrCpuIds_le
  have hle : number m.nrCpuIds (countedAs sys) ≤ m.nrCpuIds := number_le
  rw [exec_count hpc]
  refine h.of_cpu hcpu ?_ (fun rt hcount => by simp at hcount) (h.lastIn cpu hcpu) fun c hc =>
    ⟨Function.update_of_ne hc .., rfl, rfl⟩
  have hafter : countedAs ⟨countRtBusy rt sys.sched, Function.update sys.pc cpu (.rest rt), sys.lastIn⟩
      cpu = rt := by
    rw [countedAs_settled (by simp)]
    exact hbusy
  rw [hafter]
  cases rt with
  | true =>
      rw [number_set hcpu hbefore, ← h.count]
      simp only [countRtBusy, if_true]
      exact wrap_eq (by omega)
  | false =>
      have hpos := number_pos hcpu hbefore
      rw [number_clear hcpu hbefore, ← h.count]
      simp only [countRtBusy, Bool.false_eq_true, if_false]
      exact sub_eq_of_le (by omega) (by omega)

theorem step_leave (h : RtInv m sys) {cpu : Nat} {rt : Bool} (idle : Task → Option Nat)
    (hpc : sys.pc cpu = .rest rt) : RtInv m ((rtSys m).exec sys (.leave cpu idle)) := by
  have hcpu := h.pc cpu (by simp [hpc])
  have hs := sameRt_leaveSwitch idle cpu rt sys.sched
  have hsame : countedAs ⟨leaveSwitch idle cpu rt sys.sched, Function.update sys.pc cpu .outside,
      sys.lastIn⟩ cpu = countedAs sys cpu := by
    rw [countedAs_settled (by simp), countedAs_settled (by simp [hpc])]
    exact hs.rtBusy cpu
  rw [exec_leave hpc]
  refine h.of_cpu hcpu ?_ (fun rt hcount => by simp at hcount) ?_ fun c hc =>
    ⟨Function.update_of_ne hc .., rfl, hs.rtBusy c⟩
  · rw [hsame, Function.update_eq_self]
    exact hs.nrRtBusy.trans h.count
  · exact (hs.rtBusy cpu).trans (h.lastIn cpu hcpu)

theorem step (h : RtInv m sys) {event : RtEvent} (he : (rtSys m).enabled sys event) :
    RtInv m ((rtSys m).exec sys event) := by
  cases event with
  | enter cpu next => exact h.step_enter next he
  | count cpu =>
      obtain ⟨rt, hpc⟩ := he
      exact h.step_count hpc
  | leave cpu idle =>
      obtain ⟨rt, hpc⟩ := he
      exact h.step_leave idle hpc
  | init cpu now => exact h.same (sameRt_initTurn m cpu now sys.sched)
  | other s' => exact h.same he

theorem start (h : RtStart sys) : RtInv m sys where
  count := by
    refine h.nrRtBusy.trans (number_eq_zero_iff.mpr fun cpu _ => ?_).symm
    simp [countedAs, h.pc, h.rtBusy]
  pc := fun cpu hpc => absurd (h.pc cpu) hpc
  rtBusy := fun cpu rt hpc => by simp [h.pc] at hpc
  lastIn := fun cpu _ => by simp [h.rtBusy, h.lastIn]

end RtInv

-- try_acquire_from_rt_cpu without the early exit.
def scanRtCpus (m : Machine) (rnd : Nat) (s : Sched) (dsqType cpu now : Nat) : Option Sched :=
  (visits (rnd % m.nrCpuIds) m.nrCpuIds).findSome? (acquireFromRt m s dsqType cpu now)

-- Where no cpu has seen an RT task the scan finds nothing.
theorem tryAcquireFromRtCpu_eq_scan {m : Machine} {s : Sched}
    (hcount : s.nrRtBusy = number m.nrCpuIds fun cpu => (s.dispatchState cpu).rtBusy)
    (rnd dsqType cpu now : Nat) :
    tryAcquireFromRtCpu m rnd s dsqType cpu now = scanRtCpus m rnd s dsqType cpu now := by
  unfold tryAcquireFromRtCpu
  by_cases hzero : s.nrRtBusy = 0
  · have hidle := number_eq_zero_iff.mp (hcount ▸ hzero)
    rw [if_pos hzero]
    refine ((findSome?_visits_eq_none ..).mpr fun other hother => ?_).symm
    unfold acquireFromRt
    simp [Sched.getDispatchCtx, hother, hidle other hother]
  · rw [if_neg hzero]
    rfl

-- However the cpus are interleaved, and wherever lunar_init comes in: nr_rt_busy is
-- never taken below zero, and it is the number of cpus an RT task was switched in on
-- whenever no cpu has only done the first of its two writes.
theorem rt_counted {m : Machine} {start sys : RtSys} (hstart : RtStart start)
    (hreach : (rtSys m).Reaches start sys) :
    (∀ cpu, sys.pc cpu = .count false → 0 < sys.sched.nrRtBusy) ∧ sys.sched.nrRtBusy ≤ m.nrCpuIds ∧
    (∀ cpu < m.nrCpuIds,
      (sys.sched.dispatchState cpu).rtBusy = (sys.lastIn cpu).any isRtTask) ∧
    ((∀ cpu rt, sys.pc cpu ≠ .count rt) →
      sys.sched.nrRtBusy = ((Finset.range m.nrCpuIds).filter fun cpu =>
        (sys.sched.dispatchState cpu).rtBusy).card ∧
      ∀ rnd dsqType cpu now, tryAcquireFromRtCpu m rnd sys.sched dsqType cpu now =
        scanRtCpus m rnd sys.sched dsqType cpu now) := by
  have h : RtInv m sys := (rtSys m).invariant_of_reaches (P := RtInv m) (fun _ _ h he => h.step he)
    (.start hstart) hreach
  refine ⟨fun cpu hpc => ?_, h.count ▸ number_le, h.lastIn, fun hquiet => ?_⟩
  · rw [h.count]
    exact number_pos (h.pc cpu (by simp [hpc])) (RtInv.countedAs_count hpc)
  · have hcount : sys.sched.nrRtBusy =
        number m.nrCpuIds fun cpu => (sys.sched.dispatchState cpu).rtBusy := by
      exact h.count.trans (number_congr fun cpu _ => RtInv.countedAs_settled (hquiet cpu))
    exact ⟨hcount, tryAcquireFromRtCpu_eq_scan hcount⟩

-- Two cpus switch in an RT task at the same time, and the second is the first to count
-- it; then the first goes back to an ordinary task.
def rtRun : List RtEvent :=
  [.enter 0 1, .enter 1 2, .count 1, .init 1 5, .count 0, .leave 0 fun _ => none, .enter 0 3,
    .leave 1 fun _ => none, .count 0]

def rtStart : RtSys where
  sched := { Sched.zeroed with task := fun p =>
    { TaskStruct.zeroed with policy := if p = 3 then 0 else SCHED_FIFO } }
  pc := fun _ => .outside
  lastIn := fun _ => none

def rtEnd : RtSys := (rtSys twoCpus).final rtStart rtRun

theorem rt_counted_two : rtEnd.sched.nrRtBusy = 1 ∧ rtEnd.sched.nrRtBusy =
      ((Finset.range 2).filter fun cpu => (rtEnd.sched.dispatchState cpu).rtBusy).card ∧
    ∀ rnd dsqType cpu now, tryAcquireFromRtCpu twoCpus rnd rtEnd.sched dsqType cpu now =
      scanRtCpus twoCpus rnd rtEnd.sched dsqType cpu now := by
  have hruns : (rtSys twoCpus).Runs rtStart rtRun :=
    ⟨rfl, rfl, ⟨true, rfl⟩, trivial, ⟨true, rfl⟩, ⟨true, rfl⟩, rfl, ⟨true, rfl⟩, ⟨false, rfl⟩, trivial⟩
  obtain ⟨-, -, -, hquiet⟩ := rt_counted (m := twoCpus) ⟨rfl, fun _ => rfl, fun _ => rfl, fun _ => rfl⟩
    ⟨rtRun, hruns, rfl⟩
  have hsettled (cpu : Nat) (rt : Bool) : rtEnd.pc cpu ≠ .count rt := by
    rcases cpu with _ | _ | cpu
    · exact fun h => nomatch (show SwitchPc.rest false = .count rt from h)
    · exact fun h => nomatch (show SwitchPc.outside = .count rt from h)
    · exact fun h => nomatch (show SwitchPc.outside = .count rt from h)
  exact ⟨by decide +kernel, hquiet hsettled⟩

end Lunar
