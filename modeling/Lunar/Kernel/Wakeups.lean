import Lunar.Conservation
import Lunar.Kernel.Queues
import Lunar.Kernel.Tiers

namespace Lunar

-- No cpu is left without a dispatch while a task waits in one of its queues.

def Effect.kicks (c : Nat) : Effect → Bool
  | .kick cpu _ => cpu = c
  | .reenqueueLocal _ | .setSlice _ _ | .dutyAccount _ _ _ => false

-- An event kicks a cpu.
def kicked (sys sys' : Sys) (c : Nat) : Bool :=
  (sys'.sched.effects.take (sys'.sched.effects.length - sys.sched.effects.length)).any (·.kicks c)

structure WakeLog where
  -- the kernel has to look for a task for the cpu
  due : Nat → Bool
  -- tasks that stopped and were not put anywhere since
  stopped : List Task

def WakeLog.empty : WakeLog := ⟨fun _ => false, []⟩

-- The kernel looks for a task for a cpu that was kicked, whose task stopped, or that got a
-- task in its local DSQ, until one runs there or a dispatch comes back with nothing.
def watchWakes (log : WakeLog) (sys : Sys) (event : Event) (sys' : Sys) : WakeLog :=
  let due c := log.due c || kicked sys sys' c
  match event with
  | .enqueue _ p _ _ => ⟨due, log.stopped.filter (· ≠ p)⟩
  | .insertDirect p | .restore p => ⟨Function.update due (sys.cpuOf p) true, log.stopped⟩
  | .enqueueLocal p _ | .putBack p =>
      ⟨Function.update due (sys.cpuOf p) true, log.stopped.filter (· ≠ p)⟩
  | .dispatch _ cpu _ _ =>
      if (sys.onCpu cpu).isSome then ⟨due, log.stopped⟩
      else ⟨Function.update due cpu !(sys'.localDsq cpu).isEmpty, log.stopped⟩
  | .running _ p => ⟨Function.update due (sys.cpuOf p) false, log.stopped⟩
  | .stopping _ p runnable =>
      ⟨Function.update due (sys.cpuOf p) true, if runnable then p :: log.stopped else log.stopped⟩
  | .initTask _ _ | .setAttributes _ _ | .selectCpu _ _ _ _ | .runnable _ _ _ _ | .consumeSlice _ _
  | .quiescent _ _ _ | .schedSwitch _ _ _ => ⟨due, log.stopped⟩

-- The kernel puts the task that stopped on a cpu back before it asks for the next one.
def PutsBackFirst (state : Sys × WakeLog) : Event → Prop
  | .dispatch _ cpu _ _ => ∀ p ∈ state.2.stopped, state.1.cpuOf p ≠ cpu
  | .initTask .. | .setAttributes .. | .selectCpu .. | .runnable .. | .enqueue .. | .enqueueLocal ..
  | .insertDirect .. | .restore .. | .putBack .. | .consumeSlice .. | .running .. | .stopping ..
  | .quiescent .. | .schedSwitch .. => True

instance (state : Sys × WakeLog) : ∀ event, Decidable (PutsBackFirst state event)
  | .dispatch _ _ _ _ => inferInstanceAs (Decidable (∀ p ∈ _, _))
  | .initTask .. | .setAttributes .. | .selectCpu .. | .runnable .. | .enqueue .. | .enqueueLocal ..
  | .insertDirect .. | .restore .. | .putBack .. | .consumeSlice .. | .running .. | .stopping ..
  | .quiescent .. | .schedSwitch .. => inferInstanceAs (Decidable True)

def wakeSys (m : Machine) : TransitionSystem (Sys × WakeLog) Event :=
  ((lunarSys m).observe watchWakes).restrict fun state event =>
    RunsInPlace state.1 event ∧ PutsBackFirst state event

instance (m : Machine) (state : Sys × WakeLog) (event : Event) :
    Decidable ((wakeSys m).enabled state event) := inferInstanceAs (Decidable (_ ∧ _ ∧ _))

section Kicks

variable {m : Machine} {s : Sched} {p : Task}

-- A cpu that runs nothing is kicked for a task that is put in one of its queues.
theorem enqueueOn_kicks (k : Call) (flags : EnqFlags) (tier target : Nat) {c : Nat}
    (hc : c = if cpuIsOnline m target then target else (s.task p).cpu) (hlt : c < m.nrCpuIds)
    (hempty : (s.dispatchState c).currentTaskDsqType = DSQ_TYPE_EMPTY) :
    (enqueueOn m k flags p tier target s).effects = .kick c .idle :: s.effects := by
  have htarget : (if !cpuIsOnline m target then (s.task p).cpu else target) = c := by
    rw [hc]
    cases cpuIsOnline m target with
    | true => rfl
    | false => rfl
  have hinsert : (stampAndInsert m k p tier c SLICE_NS flags.head s).effects = s.effects ∧
      ((stampAndInsert m k p tier c SLICE_NS flags.head s).dispatchState c).currentTaskDsqType =
        DSQ_TYPE_EMPTY := by
    unfold stampAndInsert
    dsimp only
    split_ifs
    · refine ⟨by simp [Sched.dsqInsert], ?_⟩
      simp [Sched.dsqInsert, Sched.updDispatchCtx_same m s _ _ hlt, hempty]
    · exact ⟨rfl, hempty⟩
  unfold enqueueOn
  dsimp only
  rw [htarget, Sched.getDispatchCtx, if_pos hlt]
  dsimp only
  rw [if_pos hinsert.2, Sched.emit_effects, hinsert.1]

-- lunar_enqueue kicks the cpu it puts p on, if that runs nothing and p does not go on there.
theorem lunarEnqueue_kicks (k : Call) {env : PickEnv} (flags : EnqFlags) (hp : (s.view p).present)
    (hcpu : (s.task p).cpu < m.nrCpuIds)
    (hidle : ∀ idle, env.idle = some idle → idle < m.nrCpuIds ∧ (s.task p).cpusPtr idle)
    (hnew : resumesAtHead s p = false) {t c : Nat} (hc : c < m.nrCpuIds)
    (hout : ∀ id, p ∉ s.dsq id)
    (hmem : p ∈ (lunarEnqueue m k env flags p s).dsq (getCpuDsqFromType t c))
    (hempty : (s.dispatchState c).currentTaskDsqType = DSQ_TYPE_EMPTY) :
    (lunarEnqueue m k env flags p s).effects = .kick c .idle :: s.effects := by
  obtain ⟨v, target, s1, hs1, -, ⟨tctx, hpick⟩, h⟩ := lunarEnqueue_places (m := m) k env flags hp hnew
  have hmax := m.nrCpuIds_le
  have hframe := (enqueueOn_frame m k flags p v.tier target s1).1
  obtain ⟨d, hd⟩ : ∃ d, d = if cpuIsOnline m target then target else (s1.task p).cpu := ⟨_, rfl⟩
  rw [← hd] at hframe
  have hdlt : d < m.nrCpuIds := by
    have hplace := (pickEnqueueCpu_spec m env s p tctx v.tier (s.task p).cpu k.now hidle).1
    rw [← hpick] at hplace
    rw [hd, hs1.task]
    split_ifs
    · rcases hplace with rfl | ⟨hlt, -⟩
      · exact hcpu
      · exact hlt
    · exact hcpu
  have hid : getCpuDsqFromType t c = getCpuDsqFromType v.tier d := by
    by_contra hne
    rw [h, hframe, Function.update_of_ne hne, hs1.dsq] at hmem
    exact hout _ hmem
  obtain rfl := getCpuDsqFromType_cpu (by omega) (by omega) hid
  rw [h, enqueueOn_kicks k flags v.tier target hd hc (by rw [hs1.dispatchState]; exact hempty), hs1.effects]

theorem kicked_of_effects {sys sys' : Sys} {c : Nat} {flag : KickFlag}
    (h : sys'.sched.effects = .kick c flag :: sys.sched.effects) : kicked sys sys' c := by
  simp [kicked, h, Effect.kicks]

end Kicks

-- Tasks wait for a cpu.
def HasWork (sys : Sys) (c : Nat) : Prop :=
  sys.localDsq c ≠ [] ∨ ∃ t, IsTier t ∧ sys.queue t c ≠ []

-- A cpu runs a task, and is looked at once it stops, or a dispatch is due there.
def LookedAt (sys : Sys) (log : WakeLog) (c : Nat) : Prop := sys.onCpu c ≠ none ∨ log.due c

structure Awake (m : Machine) (sys : Sys) (log : WakeLog) : Prop where
  waiting : ∀ c < m.nrCpuIds, HasWork sys c → LookedAt sys log c
  stopped : ∀ p, sys.phase p = .stopped → p ∈ log.stopped ∧ LookedAt sys log (sys.cpuOf p)

namespace Awake

variable {m : Machine} {sys sys' : Sys} {log log' : WakeLog} {p : Task}

-- Everything but a dispatch that finds nothing leaves the cpus that are looked at so.
theorem next (h : Awake m sys log) (hlook : ∀ c, LookedAt sys log c → LookedAt sys' log' c)
    (hwork : ∀ c < m.nrCpuIds, HasWork sys' c → HasWork sys c ∨ LookedAt sys' log' c)
    (hstopped : ∀ q, sys'.phase q = .stopped →
      sys.phase q = .stopped ∧ sys'.cpuOf q = sys.cpuOf q ∧ (q ∈ log.stopped → q ∈ log'.stopped) ∨
        q ∈ log'.stopped ∧ LookedAt sys' log' (sys'.cpuOf q)) : Awake m sys' log' where
  waiting c hc hw := by
    rcases hwork c hc hw with hw | hl
    · exact hlook c (h.waiting c hc hw)
    · exact hl
  stopped q hq := by
    rcases hstopped q hq with ⟨hq, hcpu, hmem⟩ | hnew
    · obtain ⟨hin, hl⟩ := h.stopped q hq
      exact ⟨hmem hin, hcpu ▸ hlook _ hl⟩
    · exact hnew

theorem hasWork_of_subset_at {c : Nat} (hsub : ∀ id, (id = .localOn c ∨ ∃ t, id = getCpuDsqFromType t c) →
    sys'.sched.dsq id ⊆ sys.sched.dsq id) (h : HasWork sys' c) : HasWork sys c := by
  have hne {id : DsqId} (hc : id = .localOn c ∨ ∃ t, id = getCpuDsqFromType t c)
      (hid : sys'.sched.dsq id ≠ []) : sys.sched.dsq id ≠ [] := by
    obtain ⟨q, hq⟩ := List.exists_mem_of_ne_nil _ hid
    exact List.ne_nil_of_mem (hsub id hc hq)
  rcases h with h | ⟨t, ht, h⟩
  · exact Or.inl (hne (Or.inl rfl) h)
  · exact Or.inr ⟨t, ht, hne (Or.inr ⟨t, rfl⟩) h⟩

theorem hasWork_of_subset (hsub : ∀ id, sys'.sched.dsq id ⊆ sys.sched.dsq id) {c : Nat}
    (h : HasWork sys' c) : HasWork sys c :=
  hasWork_of_subset_at (fun id _ => hsub id) h

-- A task that is not stopped afterwards changes.
theorem stopped_other {phase : Phase} {v : TaskView} {task : TaskStruct}
    (hc : Changed sys sys' p phase v task) (hphase : phase ≠ .stopped)
    (hmem : ∀ q ≠ p, q ∈ log.stopped → q ∈ log'.stopped) (q : Task) (hq : sys'.phase q = .stopped) :
    sys.phase q = .stopped ∧ sys'.cpuOf q = sys.cpuOf q ∧ (q ∈ log.stopped → q ∈ log'.stopped) ∨
      q ∈ log'.stopped ∧ LookedAt sys' log' (sys'.cpuOf q) := by
  have hne : q ≠ p := by
    rintro rfl
    rw [hc.phase, Function.update_self] at hq
    exact hphase hq
  refine Or.inl ⟨?_, ?_, hmem q hne⟩
  · rwa [hc.phase, Function.update_of_ne hne] at hq
  · rw [Sys.cpuOf, hc.task, Function.update_of_ne hne]
    rfl

theorem quiet (h : Awake m sys log) {phase : Phase} {v : TaskView} {task : TaskStruct}
    (hc : Changed sys sys' p phase v task) (hphase : phase ≠ .stopped) (honCpu : sys'.onCpu = sys.onCpu)
    (hsub : ∀ id, sys'.sched.dsq id ⊆ sys.sched.dsq id) (hdue : ∀ c, log.due c → log'.due c)
    (hstopped : log'.stopped = log.stopped) : Awake m sys' log' :=
  h.next (fun c hl => hl.imp (by rw [honCpu]; exact id) (hdue c))
    (fun _ _ hw => Or.inl (hasWork_of_subset hsub hw))
    (stopped_other hc hphase fun _ _ hq => hstopped ▸ hq)

-- A task comes to the local DSQ of its cpu, whatever DSQ it was in.
theorem put_local {v : TaskView} {task : TaskStruct} (h : Awake m sys log)
    (hc : Changed sys sys' p .queued v task) (honCpu : sys'.onCpu = sys.onCpu)
    (hsub : ∀ id, id ≠ .localOn (sys.cpuOf p) → sys'.sched.dsq id ⊆ sys.sched.dsq id)
    (hdue : ∀ c, log.due c → log'.due c) (hp : log'.due (sys.cpuOf p))
    (hstopped : ∀ q ≠ p, q ∈ log.stopped → q ∈ log'.stopped) : Awake m sys' log' := by
  refine h.next (fun c hl => hl.imp (by rw [honCpu]; exact id) (hdue c)) (fun c _ hw => ?_)
    (stopped_other hc (by simp) hstopped)
  by_cases hcpu : c = sys.cpuOf p
  · exact Or.inr (Or.inr (hcpu ▸ hp))
  · refine Or.inl (hasWork_of_subset_at (fun id hid => hsub id ?_) hw)
    rcases hid with rfl | ⟨t, rfl⟩
    · simpa using hcpu
    · exact getCpuDsqFromType_ne_localOn t c _

theorem inserted {head : Bool} (h : Awake m sys log) (hi : Inserted sys sys' p head)
    (hdue : ∀ c, log.due c → log'.due c) (hp : log'.due (sys.cpuOf p))
    (hstopped : ∀ q ≠ p, q ∈ log.stopped → q ∈ log'.stopped) : Awake m sys' log' := by
  refine h.put_local hi.changed hi.cpus.onCpu (fun id hid => ?_) hdue hp hstopped
  rw [hi.dsq, Function.update_of_ne hid]
  exact List.Subset.refl _

theorem ran {k : Call} (h : Awake m sys log) (hs : Step m sys sys' (.running k p)) :
    Awake m sys' (watchWakes log sys (.running k p) sys') := by
  cases hs with
  | running _ _ _ _ hc honCpu _ _ hdsq _ =>
      refine h.next (fun c hl => ?_) (fun _ _ hw => Or.inl (hasWork_of_subset ?_ hw))
        (stopped_other hc (by simp) fun _ _ hq => hq)
      · unfold LookedAt at hl ⊢
        by_cases hcpu : c = sys.cpuOf p
        · exact Or.inl (by simp [honCpu, hcpu])
        · rcases hl with hl | hl
          · exact Or.inl (by simpa [honCpu, hcpu] using hl)
          · exact Or.inr (by simp [watchWakes, hcpu, hl])
      · intro id
        rw [hdsq]
        exact List.filter_subset_self _

theorem halted {k : Call} {runnable : Bool} (h : Awake m sys log)
    (hs : Step m sys sys' (.stopping k p runnable)) :
    Awake m sys' (watchWakes log sys (.stopping k p runnable) sys') := by
  cases hs with
  | stopping _ hc honCpu _ _ hdsq _ =>
      have hdue : (watchWakes log sys (.stopping k p runnable) sys').due (sys.cpuOf p) := by
        simp [watchWakes]
      refine h.next (fun c hl => ?_)
        (fun _ _ hw => Or.inl (hasWork_of_subset (fun id => by rw [hdsq]; exact List.Subset.refl _) hw))
        (fun q hq => ?_)
      · unfold LookedAt at hl ⊢
        by_cases hcpu : c = sys.cpuOf p
        · exact Or.inr (hcpu ▸ hdue)
        · rcases hl with hl | hl
          · exact Or.inl (by simpa [honCpu, hcpu] using hl)
          · exact Or.inr (by simp [watchWakes, hcpu, hl])
      · have hcpus : sys'.cpuOf q = sys.cpuOf q := by
          rw [Sys.cpuOf, hc.task, Function.update_apply]
          split_ifs with he
          · rw [he]
            rfl
          · rfl
        cases runnable with
        | false => exact stopped_other hc (by simp) (fun _ _ hq => by simpa [watchWakes] using hq) q hq
        | true =>
            by_cases he : q = p
            · subst he
              exact Or.inr ⟨by simp [watchWakes], Or.inr (hcpus ▸ hdue)⟩
            · rw [hc.phase, Function.update_of_ne he] at hq
              exact Or.inl ⟨hq, hcpus, fun hm => List.mem_cons_of_mem _ hm⟩

-- A dispatch of a cpu that runs nothing leaves nothing in its own queues if it moves nothing.
theorem fruitless {k : Call} {cpu : Nat} {prev : Option Task} {rnd : Nat → Nat} (hinv : Inv m sys)
    (hcpu : cpu < m.nrCpuIds) (hprev : queuedCtx sys.sched prev = none)
    (hdsq : (lunarDispatch m k k.now rnd cpu prev sys.sched).dsq = sys.sched.dsq) :
    ∀ t, IsTier t → sys.queue t cpu = [] := by
  have hargs : dispatchArgs m k cpu prev sys.sched = (DSQ_TYPE_EMPTY, sys.sched) := by
    simp only [dispatchArgs, hprev]
  have hresult := lunarDispatch_dsq m k k.now rnd cpu prev sys.sched
  rw [hdsq, hargs] at hresult
  have hmisses := dispatchDsqPerCpu_misses ((dispatchDsqPerCpu_returns_unserved m rnd cpu DSQ_TYPE_EMPTY
    k.now (s := sys.sched) ⟨rfl, rfl, fun _ => rfl⟩ (by decide)).mpr ⟨hresult.symm, by decide⟩)
  intro t ht
  by_contra hne
  obtain ⟨q, hq⟩ := List.exists_mem_of_ne_nil _ hne
  have hwaits : Waits sys.sched cpu t cpu := ⟨q, hq, hinv.own_allowed hcpu t ht q hq⟩
  by_cases hlc : t = DSQ_TYPE_LC
  · exact hmisses.1 (hlc ▸ hwaits)
  · have hle : t ≤ DSQ_TYPE_EMPTY := ht.2.trans (by decide)
    exact hmisses.2 _ (List.mem_append_left _ (mem_ownPlaces ht hlc).2) cpu ⟨hle, rfl⟩ hwaits

section Dispatch

variable {k : Call} {cpu : Nat} {prev : Option Task} {rnd : Nat → Nat} {path : OverridePath}

theorem moved_subset {s s' : Sched} {t c now : Nat} {q : Task} (hm : Moved m s cpu t c now q s')
    {id : DsqId} (hid : id ≠ .localOn cpu) : s'.dsq id ⊆ s.dsq id := by
  by_cases he : id = getCpuDsqFromType t c
  · rw [he, hm.dsq_source]
    exact List.eraseP_subset
  · rw [hm.dsq_other hid he]
    exact List.Subset.refl _

theorem moved_cpuOf {s s' : Sched} {t c now : Nat} {q r : Task} (hm : Moved m s cpu t c now q s')
    (hr : r ≠ q) : (s'.task r).cpu = (s.task r).cpu := by
  have htask : s'.task = Function.update s.task q { s.task q with cpu := cpu } := hm.task
  rw [htask, Function.update_of_ne hr]

-- The DSQs other than the local one of cpu only lose tasks.
theorem dispatch_hasWork (hd : DispatchStep m k cpu path sys sys') {c : Nat} (hw : HasWork sys' c) :
    HasWork sys c ∨ c = cpu ∧ sys'.localDsq cpu ≠ [] := by
  have hsub (id : DsqId) (hid : id ≠ .localOn cpu) (hne : sys'.sched.dsq id ≠ []) :
      sys.sched.dsq id ≠ [] := by
    obtain ⟨q, hq⟩ := List.exists_mem_of_ne_nil _ hne
    rcases hd.moves with ⟨t, c, r, hm⟩ | hdsq
    · exact List.ne_nil_of_mem (moved_subset hm hid hq)
    · rwa [hdsq] at hne
  rcases hw with hw | ⟨t, ht, hw⟩
  · by_cases hc : c = cpu
    · exact Or.inr ⟨hc, hc ▸ hw⟩
    · exact Or.inl (Or.inl (hsub _ (by simpa using hc) hw))
  · exact Or.inl (Or.inr ⟨t, ht, hsub _ (getCpuDsqFromType_ne_localOn t c cpu) hw⟩)

theorem dispatch_cpuOf (hd : DispatchStep m k cpu path sys sys') (hinv : Inv m sys) {q : Task}
    (hq : sys.phase q ≠ .queued) : sys'.cpuOf q = sys.cpuOf q := by
  have hne {t c : Nat} {r : Task} (hm : (sys.sched.dsq (getCpuDsqFromType t c)).find?
      (sys.sched.allowedOn cpu) = some r) : q ≠ r := by
    rintro rfl
    exact hq (hinv.members _ q (List.mem_of_find?_eq_some hm)).phase
  cases hd with
  | idle _ hd _ =>
      rcases hd.moved_or_unmoved with ⟨c, r, hm⟩ | ⟨-, hu⟩
      · exact moved_cpuOf hm (hne hm.first)
      · rw [Sys.cpuOf, hu.task]
        rfl
  | replaced _ _ hacc _ hm _ =>
      have hm := hacc.unmoved.moved hm
      exact moved_cpuOf hm (hne hm.first)
  | continued _ _ hacc _ hc _ =>
      rw [Sys.cpuOf, hc.task, hacc.task, Function.update_apply]
      split_ifs with he
      · rw [he]
        rfl
      · rfl

theorem dispatched_busy (h : Awake m sys log) (hinv : Inv m sys) (hbusy : sys.onCpu cpu ≠ none)
    (hs : Step m sys sys' (.dispatch k cpu prev rnd)) :
    Awake m sys' (watchWakes log sys (.dispatch k cpu prev rnd) sys') := by
  have hlog : watchWakes log sys (.dispatch k cpu prev rnd) sys' =
      ⟨fun c => log.due c || kicked sys sys' c, log.stopped⟩ :=
    if_pos (Option.isSome_iff_ne_none.mpr hbusy)
  rw [hlog]
  cases hs with
  | dispatch _ _ _ hphase honCpu hd =>
      refine h.next (fun c hl => hl.imp (by rw [honCpu]; exact id) fun hdue => by simp [hdue])
        (fun c _ hw => (dispatch_hasWork hd hw).imp id fun hc => Or.inl ?_) (fun q hq => Or.inl ?_)
      · rw [honCpu, hc.1]
        exact hbusy
      · rw [hphase] at hq
        exact ⟨hq, dispatch_cpuOf hd hinv (by simp [hq]), id⟩

theorem dispatched_idle (h : Awake m sys log) (hinv : Inv m sys) (hidle : sys.onCpu cpu = none)
    (hs : Step m sys sys' (.dispatch k cpu prev rnd))
    (hnothing : sys'.sched.dsq = sys.sched.dsq → ∀ t, IsTier t → sys.queue t cpu = [])
    (hfirst : PutsBackFirst (sys, log) (.dispatch k cpu prev rnd)) :
    Awake m sys' (watchWakes log sys (.dispatch k cpu prev rnd) sys') := by
  have hlog : watchWakes log sys (.dispatch k cpu prev rnd) sys' =
      ⟨Function.update (fun c => log.due c || kicked sys sys' c) cpu !(sys'.localDsq cpu).isEmpty,
        log.stopped⟩ := if_neg (by simp [hidle])
  rw [hlog]
  cases hs with
  | dispatch hcpu hlocal _ hphase honCpu hd =>
      have hother {c : Nat} (hc : c ≠ cpu) (hl : LookedAt sys log c) : LookedAt sys'
          ⟨Function.update (fun c => log.due c || kicked sys sys' c) cpu !(sys'.localDsq cpu).isEmpty,
            log.stopped⟩ c :=
        hl.imp (by rw [honCpu]; exact id) fun hdue => by simp [hc, hdue]
      constructor
      · intro c hc hw
        by_cases he : c = cpu
        · subst he
          refine Or.inr ?_
          by_contra hdue
          have hempty : sys'.localDsq c = [] := by simpa using hdue
          rcases hd.moves with ⟨t, d, q, hm⟩ | hdsq
          · have hlocal' := hm.localDsq
            rw [show sys'.sched.dsq (.localOn c) = [] from hempty] at hlocal'
            simp at hlocal'
          · rcases dispatch_hasWork hd hw with (hw | ⟨t, ht, hw⟩) | ⟨-, hw⟩
            · exact hw hlocal
            · exact hw (hnothing hdsq t ht)
            · exact hw hempty
        · rcases dispatch_hasWork hd hw with hw | ⟨hc', -⟩
          · exact hother he (h.waiting c hc hw)
          · exact absurd hc' he
      · intro q hq
        rw [hphase] at hq
        obtain ⟨hmem, hl⟩ := h.stopped q hq
        refine ⟨hmem, ?_⟩
        rw [dispatch_cpuOf hd hinv (by simp [hq])]
        exact hother (hfirst q hmem) hl

theorem dispatched (h : Awake m sys log) (hinv : Inv m sys)
    (he : (lunarSys m).enabled sys (.dispatch k cpu prev rnd))
    (hfirst : PutsBackFirst (sys, log) (.dispatch k cpu prev rnd)) :
    Awake m ((lunarSys m).exec sys (.dispatch k cpu prev rnd))
      (watchWakes log sys (.dispatch k cpu prev rnd)
        ((lunarSys m).exec sys (.dispatch k cpu prev rnd))) := by
  have hs := hinv.stepped he
  obtain ⟨hcpu, -, -, hprev⟩ := he.2
  by_cases hidle : sys.onCpu cpu = none
  · have hnone : queuedCtx sys.sched prev = none := by
      rcases hprev with ⟨-, hprev⟩ | ⟨hbusy, -⟩
      · cases prev with
        | none => rfl
        | some p => simp [queuedCtx, show (sys.sched.task p).queued = false by simpa using hprev p rfl]
      · exact absurd hidle hbusy
    exact h.dispatched_idle hinv hidle hs (fun hdsq => fruitless hinv hcpu hnone hdsq) hfirst
  · exact h.dispatched_busy hinv hidle hs

end Dispatch

-- A task that goes on with its slice is put back on its own cpu.
theorem resumed_target {k : Call} {flags : EnqFlags} {env : PickEnv} {v : TaskView} {target slice : Nat}
    {head : Bool} (hr : resumesAtHead sys.sched p) (hcpu : sys.cpuOf p < MAX_CPUS) (htarget : target < MAX_CPUS)
    (hdsq : sys'.sched.dsq = (lunarEnqueue m k env flags p (sys.unlink p).sched).dsq)
    (henq : Enqueued k p v target slice head (sys.unlink p).sched sys'.sched) :
    target = sys.cpuOf p ∧ (sys.sched.view p).resumeSlice ≠ 0 := by
  constructor
  · obtain ⟨tctx, s1, hs1, hresumes⟩ :=
      lunarEnqueue_resumes (m := m) (s := (sys.unlink p).sched) k env flags hr
    have hframe := (stampAndInsert_frame m k p (effectiveTier (some tctx)) (sys.cpuOf p)
      tctx.resumeSlice true s1).1
    rw [hs1.dsq] at hframe
    have hinserted := henq.dsq.symm.trans (hdsq.trans ((congrArg Sched.dsq hresumes).trans hframe))
    exact getCpuDsqFromType_cpu htarget hcpu (insert_inj (Inv.not_mem_unlink sys p) hinserted)
  · simp only [resumesAtHead, Bool.and_eq_true, Option.any_eq_true, decide_eq_true_eq] at hr
    obtain ⟨⟨tctx, hctx, hresume⟩, -⟩ := hr
    rw [Sched.view_of_some hctx]
    exact hresume

-- The other cpus get nothing.
theorem hasWork_of_inserted {t target c : Nat} {tasks : List Task}
    (hdsq : sys'.sched.dsq = Function.update (sys.unlink p).sched.dsq (getCpuDsqFromType t target) tasks)
    (hne : c ≠ target) (hc : c < MAX_CPUS) (htarget : target < MAX_CPUS) (hw : HasWork sys' c) :
    HasWork sys c := by
  have hother (t' : Nat) : getCpuDsqFromType t' c ≠ getCpuDsqFromType t target := fun he =>
    hne (getCpuDsqFromType_cpu hc htarget he)
  suffices hunlink : HasWork (sys.unlink p) c from
    hasWork_of_subset (fun id => List.filter_subset_self _) hunlink
  unfold HasWork Sys.localDsq Sys.queue at hw ⊢
  rw [hdsq] at hw
  simpa [hother, (getCpuDsqFromType_ne_localOn t target c).symm] using hw

-- A task that has a resume_slice when it is enqueued has stopped or is in the local DSQ of its
-- cpu, which is looked at.
theorem token_lookedAt (h : Awake m sys log) (hcpu : sys.cpuOf p < m.nrCpuIds)
    (htoken : (sys.phase p).holdsToken)
    (hphase : (sys.phase p = .runnable .sleep ∨ sys.phase p = .runnable .waiting) ∨
      sys.phase p = .stopped ∧ (sys.sched.task p).slice = 0 ∨
      sys.phase p = .queued ∧ p ∈ sys.localDsq (sys.cpuOf p)) : LookedAt sys log (sys.cpuOf p) := by
  rcases hphase with (hp | hp) | ⟨hp, -⟩ | ⟨-, hmem⟩
  · simp [hp, Phase.holdsToken] at htoken
  · simp [hp, Phase.holdsToken] at htoken
  · exact (h.stopped p hp).2
  · exact h.waiting _ hcpu (Or.inl (List.ne_nil_of_mem hmem))

-- A task that is enqueued goes to a cpu that is looked at: it runs something, or is kicked, or
-- it is the cpu the task goes on with its slice on.
theorem enqueued {k : Call} {flags : EnqFlags} {env : PickEnv} (h : Awake m sys log) (hinv : Inv m sys)
    (hcurrent : CurrentTier m sys)
    (hresume : (sys.sched.view p).resumeSlice ≠ 0 → (sys.phase p).holdsToken)
    (he : (lunarSys m).enabled sys (.enqueue k p flags env)) :
    Awake m ((lunarSys m).exec sys (.enqueue k p flags env))
      (watchWakes log sys (.enqueue k p flags env) ((lunarSys m).exec sys (.enqueue k p flags env))) := by
  have hs := hinv.stepped he
  have hmax := m.nrCpuIds_le
  have hout := Inv.not_mem_unlink sys p
  have hpresent : ((sys.unlink p).sched.view p).present := hinv.present (enqueue_phase hinv he.2)
  obtain ⟨⟨hcpu, -, -, hidle⟩, -⟩ := he.2
  have hdsq : ((lunarSys m).exec sys (.enqueue k p flags env)).sched.dsq =
    (lunarEnqueue m k env flags p (sys.unlink p).sched).dsq := rfl
  have heffects : ((lunarSys m).exec sys (.enqueue k p flags env)).sched.effects =
    (lunarEnqueue m k env flags p (sys.unlink p).sched).effects := rfl
  have honCpu : ((lunarSys m).exec sys (.enqueue k p flags env)).onCpu = sys.onCpu := rfl
  generalize (lunarSys m).exec sys (.enqueue k p flags env) = sys' at hs hdsq heffects honCpu ⊢
  have hlook (c : Nat) (hl : LookedAt sys log c) :
      LookedAt sys' (watchWakes log sys (.enqueue k p flags env) sys') c :=
    hl.imp (by rw [honCpu]; exact id) fun hdue => by simp [watchWakes, hdue]
  cases hs with
  | @enqueue _ _ _ _ v target slice head hphase _ _ htarget _ hc _ _ henq =>
      refine h.next hlook (fun c hlt hw => ?_)
        (stopped_other hc (by simp) fun q hq hm => by simp [watchWakes, hm, hq])
      by_cases hct : c = target
      · subst hct
        refine Or.inr ?_
        cases hr : resumesAtHead sys.sched p with
        | true =>
            obtain ⟨rfl, hne⟩ := resumed_target hr (by omega) (by omega) hdsq henq
            exact hlook _ (h.token_lookedAt hcpu (hresume hne) hphase)
        | false =>
            by_cases hempty : (sys.sched.dispatchState c).currentTaskDsqType = DSQ_TYPE_EMPTY
            · have hmem : p ∈ sys'.sched.dsq (getCpuDsqFromType v.tier c) := by
                rw [henq.dsq, Function.update_self]
                cases head <;> simp
              have hkick := lunarEnqueue_kicks (m := m) (s := (sys.unlink p).sched) k flags hpresent hcpu
                hidle hr hlt hout (hdsq ▸ hmem) hempty
              have hkicked : kicked sys sys' c := kicked_of_effects (heffects.trans hkick)
              exact Or.inr (by simp [watchWakes, hkicked])
            · refine Or.inl ?_
              rw [honCpu]
              cases hsw : sys.switching c with
              | true => exact hinv.switching c hsw
              | false =>
                  intro hnone
                  exact hempty ((hcurrent c hlt hsw).trans (Sys.runningTier_of_none hnone))
      · exact Or.inl (hasWork_of_inserted henq.dsq hct (by omega) (by omega) hw)

theorem start (h : Sys.Start m sys) : Awake m sys .empty where
  waiting c hc hw := by
    obtain ⟨s, now, hsched, hdsq, -, -, -⟩ := h.sched
    have hempty (id : DsqId) : sys.sched.dsq id = [] := by
      rw [hsched, (lunarInit_spec m now s).dsq, hdsq]
    rcases hw with hw | ⟨t, -, hw⟩
    · exact absurd (hempty _) hw
    · exact absurd (hempty _) hw
  stopped p hp := by simp [h.phase p] at hp

theorem step {event : Event} (h : Awake m sys log) (hinv : Inv m sys) (hcurrent : CurrentTier m sys)
    (hresume : ∀ p, (sys.sched.view p).resumeSlice ≠ 0 → (sys.phase p).holdsToken)
    (he : (lunarSys m).enabled sys event) (hfirst : PutsBackFirst (sys, log) event) :
    Awake m ((lunarSys m).exec sys event) (watchWakes log sys event ((lunarSys m).exec sys event)) := by
  have hdue {c : Nat} (hd : log.due c) : (log.due c || kicked sys ((lunarSys m).exec sys event) c) := by
    simp [hd]
  have hdueAt {c d : Nat} (hd : log.due c) : Function.update
      (fun c => log.due c || kicked sys ((lunarSys m).exec sys event) c) d true c := by
    rw [Function.update_apply]
    split_ifs
    · rfl
    · exact hdue hd
  have hsame {dsq : DsqId → List Task} (hdsq : dsq = sys.sched.dsq) (id : DsqId) :
      dsq id ⊆ sys.sched.dsq id := by
    rw [hdsq]
    exact List.Subset.refl _
  have hs := hinv.stepped he
  have hs' := hs
  cases hs with
  | initTask _ hc hcpus hq _ _ _ _ =>
      exact h.quiet hc (by simp) hcpus.onCpu (hsame hq.dsq) (fun _ => hdue) rfl
  | setAttributes hphase hc hcpus hq =>
      refine h.quiet hc ?_ hcpus.onCpu (hsame hq.dsq) (fun _ => hdue) rfl
      rcases hphase with hp | ⟨origin, hp⟩ <;> simp [hp]
  | selectCpu _ hc hcpus hq _ _ =>
      exact h.quiet hc (by simp) hcpus.onCpu (hsame hq.dsq) (fun _ => hdue) rfl
  | runnable _ _ hc hcpus hdsq _ =>
      exact h.quiet hc (by simp) hcpus.onCpu (hsame hdsq) (fun _ => hdue) rfl
  | enqueue => exact h.enqueued hinv hcurrent (hresume _) he
  | @enqueueLocal p _ _ hc hcpus hdsq _ =>
      refine h.put_local hc hcpus.onCpu (fun id hid => ?_) (fun _ => hdueAt) (by simp [watchWakes])
        fun q hq hm => by simp [watchWakes, hm, hq]
      rw [hdsq, Function.update_of_ne hid]
      exact List.filter_subset_self _
  | insertDirect _ _ hi =>
      exact h.inserted hi (fun _ => hdueAt) (by simp [watchWakes]) fun _ _ hm => hm
  | restore _ hi => exact h.inserted hi (fun _ => hdueAt) (by simp [watchWakes]) fun _ _ hm => hm
  | putBack _ _ hi =>
      exact h.inserted hi (fun _ => hdueAt) (by simp [watchWakes]) fun q hq hm => by
        simp [watchWakes, hm, hq]
  | consumeSlice _ _ hc hcpus hq =>
      exact h.quiet hc (by simp) hcpus.onCpu (hsame hq.dsq) (fun _ => hdue) rfl
  | dispatch => exact h.dispatched hinv he hfirst
  | running => exact h.ran hs'
  | stopping => exact h.halted hs'
  | quiescent _ _ hc hcpus hdsq _ =>
      refine h.quiet hc (by simp) hcpus.onCpu (fun id => ?_) (fun _ => hdue) rfl
      rw [hdsq]
      exact List.filter_subset_self _
  | schedSwitch hphase honCpu _ hrt =>
      refine h.next (fun c hl => hl.imp (by rw [honCpu]; exact id) hdue)
        (fun _ _ hw => Or.inl (hasWork_of_subset (hsame hrt.dsq) hw)) (fun q hq => Or.inl ⟨?_, ?_, id⟩)
      · rwa [hphase] at hq
      · rw [Sys.cpuOf, hrt.task]
        rfl

end Awake

-- No wakeup is lost: whenever a task waits for a cpu, that cpu runs a task or a dispatch is
-- due there, as long as running() is only called on the cpu the task runs on and the kernel
-- puts a task that stopped back before it asks for the next one.
theorem no_lost_wakeup {m : Machine} {start : Sys} {state : Sys × WakeLog} (hstart : Sys.Start m start)
    (hreach : (wakeSys m).Reaches (start, .empty) state) {c : Nat} (hc : c < m.nrCpuIds)
    (hwork : state.1.localDsq c ≠ [] ∨ ∃ t, IsTier t ∧ state.1.queue t c ≠ []) :
    state.1.onCpu c ≠ none ∨ state.2.due c := by
  have h : Inv m state.1 ∧ CurrentTier m state.1 ∧ Awake m state.1 state.2 ∧
      ∀ p, ∃ grant, SliceOk (state.1.life p) grant state.1.clock := by
    refine TransitionSystem.invariant_of_reaches _ (P := fun state : Sys × WakeLog =>
      Inv m state.1 ∧ CurrentTier m state.1 ∧ Awake m state.1 state.2 ∧
        ∀ p, ∃ grant, SliceOk (state.1.life p) grant state.1.clock) ?_
      ⟨Inv.start hstart, CurrentTier.start hstart, Awake.start hstart,
        fun p => ⟨⟨0, 0, false⟩, SliceOk.start hstart p _⟩⟩ hreach
    rintro ⟨sys, log⟩ event ⟨hinv, hcurrent, hawake, hslices⟩ ⟨he, hplace, hfirst⟩
    have hs := hinv.stepped he
    have hresume (p : Task) (hr : (sys.sched.view p).resumeSlice ≠ 0) : (sys.phase p).holdsToken := by
      obtain ⟨grant, hslice⟩ := hslices p
      exact hslice.resume hr
    refine ⟨hinv.step hs, hcurrent.step hinv hs hplace, hawake.step hinv hcurrent hresume he hfirst,
      fun p => ?_⟩
    obtain ⟨grant, hslice⟩ := hslices p
    exact ⟨_, SliceOk.step (fun _ => grant) hslice (hs.life hinv p) he.1 rfl⟩
  exact h.2.2.1.waiting c hc hwork

-- Task 7 waits on cpu 1, which runs nothing.
def wokenLog : Sys × WakeLog := (wakeSys twoCpus).final (twoCpusBoot, .empty) wokenOnOne

theorem no_lost_wakeup_woken : wokenLog.1.queue DSQ_TYPE_GREEDY 1 = [7] ∧ wokenLog.2.due 1 := by
  have hreach : (wakeSys twoCpus).Reaches (twoCpusBoot, .empty) wokenLog :=
    ⟨wokenOnOne, by decide +kernel, rfl⟩
  have hqueue : wokenLog.1.queue DSQ_TYPE_GREEDY 1 = [7] := by decide +kernel
  have hidle : wokenLog.1.onCpu 1 = none := by decide +kernel
  have hlooked := no_lost_wakeup (Sys.start_boot twoCpus (by decide) fun _ => rfl) hreach (c := 1)
    (by decide) (Or.inr ⟨DSQ_TYPE_GREEDY, by decide, by rw [hqueue]; simp⟩)
  exact ⟨hqueue, hlooked.resolve_left (by rw [hidle]; simp)⟩

-- After running() was called on cpu 0 for a task of cpu 1, the next task of cpu 0 is not
-- noticed there.
def runsElsewhere : List Event :=
  wokenOnOne ++ [.dispatch (.task 20 1 0) 1 none fun _ => 0, .running (.task 20 0 0) 7] ++
    .initTask (.task 30 0 0) 8 :: wakeUp (.task 30 0 0) 8 0

example : ∃ state, Sys.Start twoCpus twoCpusBoot ∧
    (((lunarSys twoCpus).observe watchWakes).restrict PutsBackFirst).Reaches (twoCpusBoot, .empty) state ∧
    state.1.queue DSQ_TYPE_GREEDY 0 = [8] ∧ state.1.onCpu 0 = none ∧ state.2.due 0 = false :=
  ⟨_, Sys.start_boot twoCpus (by decide) fun _ => rfl, ⟨runsElsewhere, by decide +kernel, rfl⟩,
    by decide +kernel, by decide +kernel, by decide +kernel⟩

end Lunar
