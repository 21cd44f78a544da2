import Lunar.Kernel.Steps
import Lunar.Library.Queues

namespace Lunar

namespace Inv

variable {m : Machine} {sys sys' : Sys} {p : Task} {phase : Phase} {v : TaskView} {task : TaskStruct}

-- A task that is in no DSQ changes.
theorem change (h : Inv m sys) (hc : Changed sys sys' p phase v task)
    (hdsq : sys'.sched.dsq = sys.sched.dsq) (hout : ∀ id, p ∉ sys.sched.dsq id)
    (hok : TaskOk m phase v task)
    (honCpu : ∀ c, sys'.onCpu c = some p ↔ phase = .running ∧ task.cpu = c)
    (honOther : ∀ c q, q ≠ p → (sys'.onCpu c = some q ↔ sys.onCpu c = some q))
    (hswitching : ∀ c, sys'.switching c → sys'.onCpu c ≠ none) : Inv m sys' where
  tasks := by
    intro q
    rw [hc.phase, hc.view, hc.task]
    by_cases hq : q = p
    · subst hq
      simpa only [Function.update_self] using hok
    · simpa only [Function.update_of_ne hq] using h.tasks q
  members := by
    intro id q hmem
    rw [hdsq] at hmem
    have hq : q ≠ p := fun he => hout id (he ▸ hmem)
    rw [hc.phase, hc.view, hc.task]
    simpa only [Function.update_of_ne hq] using h.members id q hmem
  unique := by rw [hdsq]; exact h.unique
  nodup := by rw [hdsq]; exact h.nodup
  onCpu := by
    intro c q
    rw [hc.phase, Sys.cpuOf, hc.task]
    by_cases hq : q = p
    · subst hq
      simpa only [Function.update_self] using honCpu c
    · rw [Function.update_of_ne hq, Function.update_of_ne hq, honOther c q hq]
      exact h.onCpu c q
  switching := hswitching

-- The same if nothing changes on the cpus and p does not run.
theorem change_off (h : Inv m sys) (hc : Changed sys sys' p phase v task)
    (hdsq : sys'.sched.dsq = sys.sched.dsq) (hout : ∀ id, p ∉ sys.sched.dsq id)
    (hok : TaskOk m phase v task) (honCpu : sys'.onCpu = sys.onCpu)
    (hswitching : sys'.switching = sys.switching) (hold : sys.phase p ≠ .running)
    (hnew : phase ≠ .running) : Inv m sys' := by
  refine h.change hc hdsq hout hok (fun c => ?_) (fun c q _ => by rw [honCpu]) ?_
  · rw [honCpu, h.onCpu]
    exact iff_of_false (fun hr => hold hr.1) (fun hr => hnew hr.1)
  · rw [hswitching, honCpu]
    exact h.switching

-- Nothing but tasks leaving their DSQs.
theorem sublist (h : Inv m sys) (hphase : sys'.phase = sys.phase)
    (hview : sys'.sched.view = sys.sched.view) (htask : sys'.sched.task = sys.sched.task)
    (honCpu : sys'.onCpu = sys.onCpu) (hswitching : sys'.switching = sys.switching)
    (hdsq : ∀ id, (sys'.sched.dsq id).Sublist (sys.sched.dsq id)) : Inv m sys' where
  tasks := by rw [hphase, hview, htask]; exact h.tasks
  members := by
    intro id p hp
    rw [hphase, hview, htask]
    exact h.members id p ((hdsq id).subset hp)
  unique := fun id id' p hp hp' => h.unique id id' p ((hdsq id).subset hp) ((hdsq id').subset hp')
  nodup := fun id => (hdsq id).nodup (h.nodup id)
  onCpu := by
    intro c p
    rw [honCpu, hphase, Sys.cpuOf, htask]
    exact h.onCpu c p
  switching := by rw [hswitching, honCpu]; exact h.switching

theorem unlink (h : Inv m sys) (p : Task) : Inv m (sys.unlink p) :=
  h.sublist rfl rfl rfl rfl rfl fun _ => List.filter_sublist

theorem not_mem_unlink (sys : Sys) (p : Task) (id : DsqId) : p ∉ (sys.unlink p).sched.dsq id := by
  simp [Sys.unlink]

-- A task that is in no DSQ goes to one.
theorem insert (h : Inv m sys) (id : DsqId) {tasks : List Task}
    (hphase : sys'.phase = sys.phase) (hview : sys'.sched.view = sys.sched.view)
    (htask : sys'.sched.task = sys.sched.task) (honCpu : sys'.onCpu = sys.onCpu)
    (hswitching : sys'.switching = sys.switching)
    (hdsq : sys'.sched.dsq = Function.update sys.sched.dsq id tasks)
    (htasks : tasks = p :: sys.sched.dsq id ∨ tasks = sys.sched.dsq id ++ [p])
    (hout : ∀ id, p ∉ sys.sched.dsq id)
    (hmember : Member m id (sys.phase p) (sys.sched.view p) (sys.sched.task p)) : Inv m sys' := by
  have hmem (id' : DsqId) (q : Task) (hq : q ∈ sys'.sched.dsq id') :
      q = p ∧ id' = id ∨ q ∈ sys.sched.dsq id' := by
    rw [hdsq] at hq
    by_cases hid : id' = id
    · subst hid
      rw [Function.update_self] at hq
      rcases htasks with rfl | rfl
      · rcases List.mem_cons.mp hq with rfl | hq
        · exact Or.inl ⟨rfl, rfl⟩
        · exact Or.inr hq
      · rcases List.mem_append.mp hq with hq | hq
        · exact Or.inr hq
        · exact Or.inl ⟨List.mem_singleton.mp hq, rfl⟩
    · rw [Function.update_of_ne hid] at hq
      exact Or.inr hq
  constructor
  · rw [hphase, hview, htask]
    exact h.tasks
  · intro id' q hq
    rw [hphase, hview, htask]
    rcases hmem id' q hq with ⟨rfl, rfl⟩ | hq
    · exact hmember
    · exact h.members id' q hq
  · intro id1 id2 q h1 h2
    rcases hmem id1 q h1 with ⟨rfl, rfl⟩ | h1
    · rcases hmem id2 q h2 with ⟨-, rfl⟩ | h2
      · rfl
      · exact absurd h2 (hout id2)
    · rcases hmem id2 q h2 with ⟨rfl, -⟩ | h2
      · exact absurd h1 (hout id1)
      · exact h.unique id1 id2 q h1 h2
  · intro id'
    rw [hdsq]
    by_cases hid : id' = id
    · subst hid
      rw [Function.update_self]
      rcases htasks with rfl | rfl
      · exact List.nodup_cons.mpr ⟨hout id', h.nodup id'⟩
      · exact List.nodup_append.mpr ⟨h.nodup id', by simp, fun a ha b hb => by
          rw [List.mem_singleton.mp hb]
          exact fun he => hout id' (he ▸ ha)⟩
    · rw [Function.update_of_ne hid]
      exact h.nodup id'
  · intro c q
    rw [honCpu, hphase, Sys.cpuOf, htask]
    exact h.onCpu c q
  · rw [hswitching, honCpu]
    exact h.switching

-- The state without the last insert, which Inv is proved for first.
private def withDsq (sys : Sys) (dsq : DsqId → List Task) : Sys :=
  { sys with sched := { sys.sched with dsq := dsq } }

-- A task that is in no DSQ and on no cpu goes to the local DSQ of its cpu.
theorem put_local {slice : Nat} (h : Inv m sys) (head : Bool)
    (hc : Changed sys sys' p .queued (sys.sched.view p)
      { sys.sched.task p with slice := slice, ddspLocal := false })
    (honCpu : sys'.onCpu = sys.onCpu) (hswitching : sys'.switching = sys.switching)
    (hdsq : sys'.sched.dsq = Function.update sys.sched.dsq (.localOn (sys.cpuOf p))
      (if head then p :: sys.localDsq (sys.cpuOf p) else sys.localDsq (sys.cpuOf p) ++ [p]))
    (hout : ∀ id, p ∉ sys.sched.dsq id) (hrunning : sys.phase p ≠ .running)
    (hactive : (sys.phase p).active) : Inv m sys' := by
  have hok := h.tasks p
  have hpresent : (sys.sched.view p).present := h.present fun hn => by simp [hn, Phase.active] at hactive
  have h1 : Inv m (withDsq sys' sys.sched.dsq) :=
    h.change_off ⟨hc.phase, hc.view, hc.task⟩ rfl hout
      ⟨fun _ => hpresent, hok.boost, fun _ => hok.cpu hactive, fun _ => hok.onRq hactive⟩
      honCpu hswitching hrunning (by simp)
  refine h1.insert (p := p) _ rfl rfl rfl rfl rfl hdsq ?_ hout ⟨?_, ?_, ?_⟩
  · cases head
    · exact Or.inr rfl
    · exact Or.inl rfl
  · exact (congrFun hc.phase p).trans (Function.update_self ..)
  · intro c hid
    cases hid
    change (sys'.sched.task p).cpu = sys.cpuOf p
    rw [hc.task, Function.update_self]
    rfl
  · intro t c _ _ hid
    exact absurd hid.symm (getCpuDsqFromType_ne_localOn t c _)

theorem inserted_local {head : Bool} (h : Inv m sys) (hi : Inserted sys sys' p head)
    (hqueued : sys.phase p ≠ .queued) (hrunning : sys.phase p ≠ .running)
    (hactive : (sys.phase p).active) : Inv m sys' :=
  h.put_local head hi.changed hi.cpus.onCpu hi.cpus.switching hi.dsq (h.not_mem_of_phase hqueued) hrunning
    hactive

theorem boosted {s : Sched} (hboost : ∀ q, DSQ_TYPE_LC ≤ (s.view q).boost) {p : Task} {v : TaskView}
    (hpresent : (s.view p).present) (h : Boosted s (s.view p) v) :
    v.present ∧ DSQ_TYPE_LC ≤ v.boost ∧ IsTier v.tier := by
  rcases h with rfl | ⟨w, -, rfl⟩
  · exact ⟨hpresent, hboost p, Sched.view_isTier (hboost p)⟩
  · have htier := Sched.view_isTier (hboost w)
    exact ⟨hpresent, htier.1, htier⟩

theorem enqueued (h : Inv m sys) {k : Call} {flags : EnqFlags} {env : PickEnv}
    (hs : Step m sys sys' (.enqueue k p flags env)) : Inv m sys' := by
  cases hs with
  | @enqueue _ _ _ _ v target slice head hphase hv _ htarget _ hc honCpu hswitching henq =>
    have hoff : sys.phase p ≠ .none ∧ sys.phase p ≠ .running ∧ (sys.phase p).active := by
      rcases hphase with (hp | hp) | ⟨hp, -⟩ | ⟨hp, -⟩ <;> rw [hp] <;> decide
    obtain ⟨hpresent, hboost, htier⟩ := boosted h.boost_le (h.present hoff.1) hv
    have hok := h.tasks p
    have h1 : Inv m (withDsq sys' (sys.unlink p).sched.dsq) :=
      (h.unlink p).change_off (p := p) ⟨hc.phase, hc.view, hc.task⟩ rfl (not_mem_unlink sys p)
        ⟨fun _ => hpresent, hboost, fun _ => hok.cpu hoff.2.2, fun _ => hok.onRq hoff.2.2⟩
        honCpu hswitching hoff.2.1 (by simp)
    refine h1.insert (p := p) _ rfl rfl rfl rfl rfl henq.dsq ?_ (not_mem_unlink sys p) ⟨?_, ?_, ?_⟩
    · cases head
      · exact Or.inr rfl
      · exact Or.inl rfl
    · exact (congrFun hc.phase p).trans (Function.update_self ..)
    · intro c hid
      exact absurd hid (getCpuDsqFromType_ne_localOn _ _ c)
    · intro t c ht hlt hid
      have hmax := m.nrCpuIds_le
      obtain ⟨rfl, rfl⟩ := getCpuDsqFromType_inj htier ht (by omega) hlt hid
      have hview : sys'.sched.view p = { v with resumeSlice := 0 } := by
        rw [hc.view, Function.update_self]
      have htask : (sys'.sched.task p).cpusPtr = (sys.sched.task p).cpusPtr := by
        rw [hc.task, Function.update_self]
      have htier : (sys'.sched.view p).tier = v.tier := by rw [hview]
      exact ⟨htier, htarget.1, htarget.2.1,
        (congrFun htask target).trans htarget.2.2⟩

-- A task moves from a tier queue to the local DSQ of cpu.
theorem moved (h : Inv m sys) {cpu t c now : Nat} {q : Task} (hcpu : cpu < m.nrCpuIds)
    (hm : Moved m sys.sched cpu t c now q sys'.sched) (hview : sys'.sched.view = sys.sched.view)
    (hphases : sys'.phase = sys.phase) (honCpu : sys'.onCpu = sys.onCpu)
    (hswitching : sys'.switching = sys.switching) : Inv m sys' := by
  have hq := List.mem_of_find?_eq_some hm.first
  have hphase : sys.phase q = .queued := (h.members _ q hq).phase
  have hactive : (sys.phase q).active := by rw [hphase]; rfl
  have hok := h.tasks q
  have hlocal := getCpuDsqFromType_ne_localOn t c cpu
  let rest := (sys.sched.dsq (getCpuDsqFromType t c)).eraseP (sys.sched.allowedOn cpu)
  -- out of its queue
  let sys1 := withDsq sys (Function.update sys.sched.dsq (getCpuDsqFromType t c) rest)
  have h1 : Inv m sys1 := by
    refine h.sublist rfl (Sched.view_congr rfl) rfl rfl rfl fun id => ?_
    simp only [sys1, withDsq, Function.update_apply]
    split_ifs with hid
    · rw [hid]
      exact List.eraseP_sublist
    · exact List.Sublist.refl _
  have hout (id : DsqId) : q ∉ sys1.sched.dsq id := by
    simp only [sys1, withDsq, Function.update_apply]
    split_ifs with hid
    · exact Queues.not_mem_eraseP_of_find? (h.nodup _) hm.first
    · exact fun hmem => hid (h.unique _ _ q hmem hq)
  -- to cpu
  have htasks : sys'.sched.task = Function.update sys.sched.task q { sys.sched.task q with cpu := cpu } :=
    hm.task
  have h2 : Inv m (withDsq sys' sys1.sched.dsq) := by
    have hc : Changed sys1 (withDsq sys' sys1.sched.dsq) q .queued (sys.sched.view q)
        { sys.sched.task q with cpu := cpu } := by
      refine ⟨?_, hview.trans (Function.update_eq_self q sys.sched.view).symm, htasks⟩
      rw [← hphase]
      exact hphases.trans (Function.update_eq_self q sys.phase).symm
    exact h1.change_off hc rfl hout
      ⟨fun _ => hok.present (by simp [hphase]), hok.boost, fun _ => hcpu, fun _ => hok.onRq hactive⟩
      honCpu hswitching (by simp [sys1, withDsq, hphase]) (by simp)
  -- and into the local DSQ
  refine h2.insert (p := q) (.localOn cpu) rfl rfl rfl rfl rfl ?_ (Or.inr rfl) hout ⟨?_, ?_, ?_⟩
  · refine hm.dsq.trans (Sched.moveTo_dsq hlocal) |>.trans ?_
    simp [sys1, withDsq, Function.update_of_ne hlocal.symm, rest]
  · exact (congrFun hphases q).trans hphase
  · intro d hd
    cases hd
    exact congrArg TaskStruct.cpu ((congrFun htasks q).trans (Function.update_self ..))
  · intro t' c' _ _ hid
    exact absurd hid.symm (getCpuDsqFromType_ne_localOn t' c' cpu)

theorem setSwitching (h : Inv m sys) (hphase : sys'.phase = sys.phase)
    (hsched : sys'.sched = sys.sched) (honCpu : sys'.onCpu = sys.onCpu)
    (hs : ∀ c, sys'.switching c → sys.onCpu c ≠ none) : Inv m sys' where
  tasks := by rw [hphase, hsched]; exact h.tasks
  members := by rw [hphase, hsched]; exact h.members
  unique := by rw [hsched]; exact h.unique
  nodup := by rw [hsched]; exact h.nodup
  onCpu := by
    intro c p
    rw [honCpu, hphase, Sys.cpuOf, hsched]
    exact h.onCpu c p
  switching := by rw [honCpu]; exact hs

-- The running task is accounted for.
theorem accounted (h : Inv m sys) {k : Call} {cpu tier : Nat} {s1 : Sched}
    (hp : sys.onCpu cpu = some p) (hacc : Accounted k cpu p tier sys.sched s1) :
    Inv m { sys with sched := s1 } := by
  have hrun := (h.onCpu cpu p).mp hp
  have hok := h.tasks p
  refine h.change ⟨(Function.update_eq_self p sys.phase).symm, hacc.view,
    hacc.task.trans (Function.update_eq_self p sys.sched.task).symm⟩ hacc.dsq
    (h.not_mem_of_phase (by simp [hrun.1])) ⟨hok.present, ?_, hok.cpu, hok.onRq⟩
    (fun c => h.onCpu c p) (fun _ _ _ => Iff.rfl) h.switching
  simp only [TaskView.accounted]
  split_ifs
  · decide
  · exact hok.boost

theorem dispatched (h : Inv m sys) {k : Call} {cpu : Nat} {path : OverridePath} (hcpu : cpu < m.nrCpuIds)
    (hphase : sys'.phase = sys.phase) (honCpu : sys'.onCpu = sys.onCpu)
    (hs : DispatchStep m k cpu path sys sys') : Inv m sys' := by
  cases hs with
  | idle _ hd hswitching =>
      have hview := Sched.view_congr hd.sameOutside.taskCtxStore
      rcases hd.moved_or_unmoved with ⟨c, q, hm⟩ | ⟨-, hu⟩
      · exact h.moved hcpu hm hview hphase honCpu hswitching
      · exact h.sublist hphase hview hu.task honCpu hswitching fun id => by rw [hu.dsq]
  | @replaced p q tier r c s1 hp _ hacc hd hm hswitching =>
      have hview := Sched.view_congr hd.sameOutside.taskCtxStore
      have h1 : Inv m { sys' with switching := sys.switching } :=
        (h.accounted hp hacc).moved hcpu hm hview hphase honCpu rfl
      refine h1.setSwitching rfl rfl rfl fun c hc => ?_
      rw [hswitching] at hc
      by_cases he : c = cpu
      · simp [honCpu, he, hp]
      · rw [Function.update_of_ne he] at hc
        exact h1.switching c hc
  | @continued p tier tier' s1 hp _ hacc _ hc hswitching =>
      have h1 := h.accounted hp hacc
      have hrun := (h.onCpu cpu p).mp hp
      have hok := h1.tasks p
      refine h1.change ⟨hphase.trans (Function.update_eq_self p sys.phase).symm, hc.view, hc.task⟩ hc.dsq
        (h1.not_mem_of_phase (by simp [hrun.1])) ⟨hok.present, ?_, hok.cpu, hok.onRq⟩ ?_
        (fun _ _ _ => by rw [honCpu]) ?_
      · dsimp only
        split_ifs
        · decide
        · exact hok.boost
      · rw [honCpu]
        exact fun c => h1.onCpu c p
      · rw [hswitching, honCpu]
        exact h.switching

theorem ran (h : Inv m sys) {k : Call} (hs : Step m sys sys' (.running k p)) : Inv m sys' := by
  cases hs with
  | running _ _ hphase hidle hc honCpu hswitching _ hdsq _ =>
    have hok := h.tasks p
    have hactive : (sys.phase p).active := by simp [hphase, Phase.active]
    refine (h.unlink p).change (p := p) ⟨hc.phase, hc.view, hc.task⟩ hdsq (not_mem_unlink sys p)
      ⟨fun _ => h.present (by simp [hphase]), hok.boost, fun _ => hok.cpu hactive,
        fun _ => hok.onRq hactive⟩ ?_ ?_ ?_
    · intro c
      rw [honCpu]
      by_cases he : c = sys.cpuOf p
      · rw [he, Function.update_self]
        exact iff_of_true rfl ⟨rfl, rfl⟩
      · rw [Function.update_of_ne he, h.onCpu, hphase]
        exact iff_of_false (fun hc => by simp at hc) (fun hc => he hc.2.symm)
    · intro c q hq
      rw [honCpu]
      by_cases he : c = sys.cpuOf p
      · rw [he, Function.update_self]
        exact iff_of_false (fun hc => hq (Option.some.inj hc).symm)
          (fun hc => by simp [Sys.unlink, hidle] at hc)
      · rw [Function.update_of_ne he]
        rfl
    · intro c hc
      rw [honCpu]
      by_cases he : c = sys.cpuOf p
      · rw [he, Function.update_self]
        simp
      · rw [Function.update_of_ne he]
        exact h.switching c (hswitching ▸ hc)

theorem halted (h : Inv m sys) {k : Call} {runnable : Bool}
    (hs : Step m sys sys' (.stopping k p runnable)) : Inv m sys' := by
  cases hs with
  | stopping hphase hc honCpu hswitching _ hdsq _ =>
    have hok := h.tasks p
    have hactive : (sys.phase p).active := by simp [hphase, Phase.active]
    have hself : sys.onCpu (sys.cpuOf p) = some p := (h.onCpu _ p).mpr ⟨hphase, rfl⟩
    have hnew : (if runnable then Phase.stopped else .leaving) ≠ .running := by
      cases runnable <;> decide
    refine h.change hc hdsq (h.not_mem_of_phase (by simp [hphase]))
      ⟨fun _ => h.present (by simp [hphase]), ?_, fun _ => hok.cpu hactive,
        fun _ => hok.onRq hactive⟩ ?_ ?_ ?_
    · simp only [TaskView.stopped]
      split_ifs
      · decide
      · exact hok.boost
    · intro c
      refine iff_of_false (fun hc => ?_) (fun hr => hnew hr.1)
      rw [honCpu] at hc
      by_cases he : c = sys.cpuOf p
      · simp [he] at hc
      · rw [Function.update_of_ne he] at hc
        exact he ((h.onCpu c p).mp hc).2.symm
    · intro c q hq
      rw [honCpu]
      by_cases he : c = sys.cpuOf p
      · rw [he, Function.update_self, hself]
        simpa using hq.symm
      · rw [Function.update_of_ne he]
    · intro c hc
      rw [hswitching] at hc
      rw [honCpu]
      by_cases he : c = sys.cpuOf p
      · simp [he] at hc
      · rw [Function.update_of_ne he] at hc ⊢
        exact h.switching c hc

theorem step (h : Inv m sys) {event : Event} (hs : Step m sys sys' event) : Inv m sys' := by
  have hs' := hs
  cases hs with
  | initTask hphase hc hcpus hqueues hpresent hboost _ _ =>
      exact h.change_off hc hqueues.dsq (h.not_mem_of_phase (by simp [hphase]))
        (.off (fun _ => hpresent) (by rw [hboost]; decide) rfl) hcpus.onCpu hcpus.switching
        (by simp [hphase]) (by simp)
  | @setAttributes p _ hphase hc hcpus hqueues =>
      have hoff : sys.phase p ≠ .queued ∧ sys.phase p ≠ .running ∧ (sys.phase p).active = false := by
        rcases hphase with hp | ⟨origin, hp⟩
        · rw [hp]; decide
        · rw [hp]; simp [Phase.active]
      have hok := h.tasks p
      exact h.change_off hc hqueues.dsq (h.not_mem_of_phase hoff.1)
        (.off hok.present hok.boost hoff.2.2) hcpus.onCpu hcpus.switching hoff.2.1 hoff.2.1
  | selectCpu hphase hc hcpus hqueues hv _ =>
      obtain ⟨hpresent, hboost, -⟩ := boosted h.boost_le (h.present (by simp [hphase])) hv
      exact h.change_off hc hqueues.dsq (h.not_mem_of_phase (by simp [hphase]))
        (.off (fun _ => hpresent) hboost rfl) hcpus.onCpu hcpus.switching (by simp [hphase])
        (by simp)
  | runnable hphase hcpu hc hcpus hdsq _ =>
      exact h.change_off hc hdsq (h.not_mem_of_phase (by simp [hphase]))
        ⟨fun _ => h.present (by simp [hphase]), h.boost_le _, fun _ => hcpu, fun _ => rfl⟩
        hcpus.onCpu hcpus.switching (by simp [hphase]) (by simp)
  | enqueue => exact h.enqueued hs'
  | @enqueueLocal p _ hphase hc hcpus hdsq _ =>
      have hoff : sys.phase p ≠ .running ∧ (sys.phase p).active := by
        rcases hphase with (hp | hp) | hp | ⟨hp, -⟩ <;> rw [hp] <;> decide
      exact (h.unlink p).put_local (p := p) false ⟨hc.phase, hc.view, hc.task⟩ hcpus.onCpu
        hcpus.switching hdsq (not_mem_unlink sys p) hoff.1 hoff.2
  | insertDirect hphase _ hi =>
      rcases hphase with hp | hp
      all_goals exact h.inserted_local hi (by simp [hp]) (by simp [hp]) (by simp [hp, Phase.active])
  | restore hp hi =>
      exact h.inserted_local hi (by simp [hp]) (by simp [hp]) (by simp [hp, Phase.active])
  | putBack hp _ hi =>
      exact h.inserted_local hi (by simp [hp]) (by simp [hp]) (by simp [hp, Phase.active])
  | @consumeSlice p _ hphase _ hc hcpus hqueues =>
      have hok := h.tasks p
      rw [hphase] at hok
      refine h.change hc hqueues.dsq (h.not_mem_of_phase (by simp [hphase]))
        ⟨hok.present, hok.boost, hok.cpu, hok.onRq⟩ ?_ (fun _ _ _ => by rw [hcpus.onCpu]) ?_
      · intro c
        rw [hcpus.onCpu, h.onCpu, hphase]
        rfl
      · rw [hcpus.switching, hcpus.onCpu]
        exact h.switching
  | dispatch hcpu _ _ hphase honCpu hd => exact h.dispatched hcpu hphase honCpu hd
  | running => exact h.ran hs'
  | stopping => exact h.halted hs'
  | @quiescent _ p _ _ _ hphase _ hc hcpus hdsq _ =>
      have hoff : sys.phase p ≠ .none ∧ sys.phase p ≠ .running := by
        rcases hphase with hp | hp <;> rw [hp] <;> decide
      exact (h.unlink p).change_off (p := p) ⟨hc.phase, hc.view, hc.task⟩ hdsq (not_mem_unlink sys p)
        (.off (fun _ => h.present hoff.1) (show DSQ_TYPE_LC ≤ DSQ_TYPE_EMPTY by decide) rfl)
        hcpus.onCpu hcpus.switching hoff.2 (by simp)
  | schedSwitch hphase honCpu hswitching hrt =>
      exact h.sublist hphase hrt.view hrt.task honCpu hswitching fun id => by rw [hrt.dsq]

theorem start (h : Sys.Start m sys) : Inv m sys := by
  obtain ⟨s, now, hsched, hdsq, hctx, -, -⟩ := h.sched
  have hinit := lunarInit_spec m now s
  have hempty (id : DsqId) : sys.sched.dsq id = [] := by rw [hsched, hinit.dsq, hdsq]
  have hview (p : Task) : (sys.sched.view p).boost = DSQ_TYPE_EMPTY := by
    simp [Sched.view, hsched, hinit.taskCtxStore, hctx]
  constructor
  · intro p
    rw [h.phase p]
    exact .off (fun hp => absurd rfl hp) (by rw [hview]; decide) rfl
  · simp [hempty]
  · simp [hempty]
  · simp [hempty]
  · simp [h.onCpu, h.phase]
  · simp [h.switching]

-- The tasks in the queues of a cpu are allowed there.
theorem own_allowed (h : Inv m sys) {cpu : Nat} (hcpu : cpu < m.nrCpuIds) :
    ∀ t, IsTier t → ∀ p ∈ sys.sched.dsq (getCpuDsqFromType t cpu), sys.sched.allowedOn cpu p := by
  intro t ht p hp
  exact ((h.members _ p hp).tier t cpu ht (Nat.lt_of_lt_of_le hcpu m.nrCpuIds_le) rfl).2.2.2

theorem reaches {start : Sys} (hstart : Sys.Start m start) (h : (lunarSys m).Reaches start sys) :
    Inv m sys :=
  (lunarSys m).invariant_of_reaches (fun _ _ hinv he => hinv.step (hinv.stepped he))
    (Inv.start hstart) h

-- The rule for everything else that holds in every state of the runs in which each
-- event meets a condition, from any state the invariant holds in. An observer may have
-- noted what the state does not hold.
theorem always_from {γ : Type} {watch : γ → Sys → Event → Sys → γ} {cond : Sys × γ → Event → Prop}
    {P : Sys → γ → Prop}
    (hstep : ∀ sys sys' g event, Inv m sys → P sys g → Step m sys sys' event →
      sys.clock ≤ sys'.clock → sys'.clock = event.time sys.clock → cond (sys, g) event →
      P sys' (watch g sys event sys'))
    {start state : Sys × γ} (hinv : Inv m start.1) (hP : P start.1 start.2)
    (hreach : (((lunarSys m).observe watch).restrict cond).Reaches start state) :
    Inv m state.1 ∧ P state.1 state.2 := by
  refine TransitionSystem.invariant_of_reaches _
    (P := fun state => Inv m state.1 ∧ P state.1 state.2) ?_ ⟨hinv, hP⟩ hreach
  intro state event hinv he
  have hs := hinv.1.stepped he.1
  exact ⟨hinv.1.step hs, hstep _ _ _ _ hinv.1 hinv.2 hs he.1.1 rfl he.2⟩

theorem always {γ : Type} {watch : γ → Sys → Event → Sys → γ} {cond : Sys × γ → Event → Prop}
    {P : Sys → γ → Prop}
    (hstep : ∀ sys sys' g event, Inv m sys → P sys g → Step m sys sys' event →
      sys.clock ≤ sys'.clock → sys'.clock = event.time sys.clock → cond (sys, g) event →
      P sys' (watch g sys event sys'))
    {start state : Sys × γ} (hstart : Sys.Start m start.1) (hP : P start.1 start.2)
    (hreach : (((lunarSys m).observe watch).restrict cond).Reaches start state) :
    Inv m state.1 ∧ P state.1 state.2 :=
  always_from hstep (Inv.start hstart) hP hreach

-- The same without a condition.
theorem always_observed {γ : Type} {watch : γ → Sys → Event → Sys → γ} {P : Sys → γ → Prop}
    (hstep : ∀ sys sys' g event, Inv m sys → P sys g → Step m sys sys' event →
      sys.clock ≤ sys'.clock → sys'.clock = event.time sys.clock → P sys' (watch g sys event sys'))
    {start state : Sys × γ} (hstart : Sys.Start m start.1) (hP : P start.1 start.2)
    (hreach : ((lunarSys m).observe watch).Reaches start state) :
    Inv m state.1 ∧ P state.1 state.2 := by
  have hreach' := ((lunarSys m).observe watch).reaches_restrict (fun _ _ => trivial) hreach
  exact always (fun sys sys' g event hinv hp hs hclock htime _ =>
    hstep sys sys' g event hinv hp hs hclock htime) hstart hP hreach'

end Inv

end Lunar
