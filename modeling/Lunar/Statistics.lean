import Lunar.Classification
import Lunar.Library.Run

namespace Lunar

-- What a task is classified by, and how little it takes to know it.

-- The task_ctx without the boost, the slices and the migrations.
def TaskCtx.statistics (tctx : TaskCtx) : TaskCtx :=
  { tctx with boostDsqType := 0, boostUsed := 0, grantedSlice := 0, resumeSlice := 0, lastMigratedAt := 0 }

-- What happens to a task itself.
inductive Note where
  | initTask (now : Nat)
  | runnable (now : Nat) (wakeup : Bool)
  -- it wakes another task
  | wakes (now : Nat)
  | running (now : Nat)
  -- a dispatch on its cpu finds it running
  | dispatched (now : Nat)
  | stopping (now : Nat)
  | quiescent (now : Nat) (sleep : Bool)
deriving DecidableEq, Repr

-- A run up to now, and the tier the task has for it.
def TaskCtx.ran (task : TaskStruct) (now : Nat) (tctx : TaskCtx) : TaskCtx :=
  reevaluate task now (dutyAccount tctx (elapsed now tctx.startedAt) 0)

-- A wakeup, and the sleep before it if there was one.
def TaskCtx.resumed (task : TaskStruct) (k : Call) (wakeup : Bool) (tctx : TaskCtx) : TaskCtx :=
  let tctx := tctx.woken k wakeup
  if tctx.blockedAt ≠ 0 then chargeSleep task k.now tctx else tctx

-- Nothing but PF_KTHREAD is known of the task.
def bareTask (kthread : Bool) : TaskStruct := { TaskStruct.zeroed with kthread := kthread }

def Note.record (kthread : Bool) (note : Note) (old : Option TaskCtx) : Option TaskCtx :=
  match note with
  | .initTask now => some (initTaskCtx (bareTask kthread) now (old.getD .zeroed)).statistics
  | .runnable now wakeup => old.map (TaskCtx.resumed (bareTask kthread) (.task now 0 0) wakeup)
  | .wakes now => old.map (TaskCtx.waker (.task now 0 0))
  | .running now => old.map fun tctx => { tctx with startedAt := now }
  | .dispatched now => old.map fun tctx =>
      { tctx.ran (bareTask kthread) now with startedAt := now }
  | .stopping now => old.map (TaskCtx.ran (bareTask kthread) now)
  | .quiescent now sleep => old.map fun tctx => { tctx with blockedAt := if sleep then now else 0 }

-- The statistics of p, and the flag they depend on.
def Sched.statistics (s : Sched) (p : Task) : Bool × Option TaskCtx :=
  ((s.task p).kthread, (s.taskCtxStore p).map TaskCtx.statistics)

def recordNote (note : Note) (statistics : Bool × Option TaskCtx) : Bool × Option TaskCtx :=
  (statistics.1, note.record statistics.1 statistics.2)

-- What a callback is to p.
def Callback.note (m : Machine) (p : Task) (s : Sched) : Callback → Option Note
  | .initTask k q => if q = p then some (.initTask k.now) else none
  | .dispatch k _ _ _ prev =>
      if prev = some p ∧ (s.task p).queued then some (.dispatched k.now) else none
  | .running k q => if q = p ∧ k.proc < m.nrCpuIds then some (.running k.now) else none
  | .stopping k q _ => if q = p then some (.stopping k.now) else none
  | .quiescent k sleep q => if q = p then some (.quiescent k.now sleep) else none
  | .runnable k wakeup q =>
      if q = p then some (.runnable k.now wakeup)
      else if wakeup ∧ (s.taskCtxStore q).isSome ∧ k.current = p ∧ !k.inInterrupt ∧
          (s.task p).pid ≠ (s.task q).pid then some (.wakes k.now)
      else none
  | .init _ | .selectCpu _ _ _ _ | .enqueue _ _ _ _ | .schedSwitch _ _ _ | .kernel _ => none

section Forget

variable (task : TaskStruct) (now : Nat) (tctx : TaskCtx)

-- None of the functions of a task_ctx looks at what is forgotten.

theorem updateTaskDsqType_statistics : (updateTaskDsqType task tctx now).statistics =
    updateTaskDsqType (bareTask task.kthread) tctx.statistics now := by
  rw [updateTaskDsqType_eq, updateTaskDsqType_eq]
  rfl

theorem reevaluate_statistics : (reevaluate task now tctx).statistics =
    reevaluate (bareTask task.kthread) now tctx.statistics := by
  unfold reevaluate
  rw [updateTaskDsqType_statistics]
  rfl

theorem dutyAccount_statistics (run slept : Nat) : (dutyAccount tctx run slept).statistics =
    dutyAccount tctx.statistics run slept := by
  unfold dutyAccount
  dsimp only [TaskCtx.statistics]
  split_ifs
  all_goals rfl

theorem ran_statistics :
    (tctx.ran task now).statistics = tctx.statistics.ran (bareTask task.kthread) now := by
  have hduty := dutyAccount_statistics tctx (elapsed now tctx.startedAt) 0
  unfold TaskCtx.ran
  rw [reevaluate_statistics, hduty]
  rfl

theorem chargePrev_statistics (pending : Bool) : (chargePrev task pending now tctx).statistics =
    { tctx.statistics.ran (bareTask task.kthread) now with startedAt := now } := by
  obtain ⟨boost, used, -, h⟩ := chargePrev_accounted task now tctx pending
  have hran := ran_statistics task now { tctx with boostDsqType := boost, boostUsed := used }
  -- started_at is no part of what the tier is evaluated from.
  have hprev : chargePrev task pending now tctx =
      { TaskCtx.ran task now { tctx with boostDsqType := boost, boostUsed := used } with
        startedAt := now } := by
    rw [h, TaskCtx.ran, reevaluate, updateTaskDsqType_eq, updateTaskDsqType_eq]
    rfl
  rw [hprev]
  exact congrArg (fun tctx : TaskCtx => { tctx with startedAt := now }) hran

theorem chargeStopped_statistics : (chargeStopped task now tctx).statistics =
    tctx.statistics.ran (bareTask task.kthread) now := by
  obtain ⟨used, h⟩ := chargeStopped_accounted task now tctx
  rw [h]
  exact ran_statistics task now { tctx with boostUsed := used }

theorem chargeSleep_statistics : (chargeSleep task now tctx).statistics =
    chargeSleep (bareTask task.kthread) now tctx.statistics := by
  have hduty := dutyAccount_statistics tctx 0 (elapsed now tctx.blockedAt)
  unfold chargeSleep
  rw [reevaluate_statistics, show tctx.statistics.blockedAt = tctx.blockedAt from rfl, ← hduty]
  rfl

theorem initTaskCtx_statistics (old : TaskCtx) : (initTaskCtx task now old).statistics =
    (initTaskCtx (bareTask task.kthread) now old.statistics).statistics := by
  unfold initTaskCtx bareTask
  dsimp only
  cases task.kthread with
  | true => rfl
  | false => rfl

theorem applyWakeBoost_statistics (k : Call) (s : Sched) (p : Task) :
    (applyWakeBoost k s p tctx).statistics = tctx.statistics := by
  obtain ⟨boost, used, h⟩ := applyWakeBoost_frame k s p tctx
  rw [h]
  rfl

theorem woken_statistics (k : Call) (wakeup : Bool) : (tctx.woken k wakeup).statistics =
    tctx.statistics.woken (.task k.now 0 0) wakeup := by
  unfold TaskCtx.woken
  split_ifs
  · rfl
  · rfl

theorem resumed_statistics (k : Call) (wakeup : Bool) : (tctx.resumed task k wakeup).statistics =
    tctx.statistics.resumed (bareTask task.kthread) (.task k.now 0 0) wakeup := by
  unfold TaskCtx.resumed
  dsimp only
  rw [← woken_statistics]
  by_cases hblocked : (tctx.woken k wakeup).blockedAt ≠ 0
  · rw [if_pos hblocked, if_pos (show (tctx.woken k wakeup).statistics.blockedAt ≠ 0 from hblocked)]
    exact chargeSleep_statistics task k.now (tctx.woken k wakeup)
  · rw [if_neg hblocked, if_neg (show ¬(tctx.woken k wakeup).statistics.blockedAt ≠ 0 from hblocked)]

end Forget

-- The statistics of p are those before, with what was noted of p.
def Noted (s s' : Sched) (p : Task) (note : Option Note) : Prop :=
  s'.statistics p = note.elim (s.statistics p) (recordNote · (s.statistics p))

section Step

variable {s s' : Sched} {p q : Task} {tctx tctx' : TaskCtx} {log : List (Nat × Nat)} {note : Note}

theorem SameCtx.noted_none (h : SameCtx s s') (p : Task) : Noted s s' p none := by
  unfold Noted Sched.statistics
  rw [h.kthread, h.taskCtxStore]
  rfl

-- Nothing is recorded for a task there is no task_ctx of.
theorem SameCtx.noted (h : SameCtx s s') (hctx : s.taskCtxStore q = none)
    (hnote : ∀ kthread, note.record kthread none = none) (p : Task) :
    Noted s s' p (if q = p then some note else none) := by
  split_ifs with hp
  · subst hp
    unfold Noted Sched.statistics
    rw [h.kthread, h.taskCtxStore, hctx]
    exact congrArg (Prod.mk _) (hnote _).symm
  · exact h.noted_none p

theorem Wrote.noted_other (h : Wrote q tctx' log s s') (hp : q ≠ p) : Noted s s' p none := by
  unfold Noted Sched.statistics
  rw [h.kthread, h.taskCtxStore, Function.update_of_ne (Ne.symm hp)]
  rfl

theorem noted_self (hkthread : (s'.task q).kthread = (s.task q).kthread)
    (hctx' : s'.taskCtxStore q = some tctx')
    (hnote : note.record (s.task q).kthread ((s.taskCtxStore q).map TaskCtx.statistics) =
      some tctx'.statistics) : Noted s s' q (some note) := by
  unfold Noted Sched.statistics
  rw [hkthread, hctx']
  exact congrArg (Prod.mk _) hnote.symm

theorem Wrote.noted (h : Wrote q tctx' log s s')
    (hnote : note.record (s.task q).kthread ((s.taskCtxStore q).map TaskCtx.statistics) =
      some tctx'.statistics) (p : Task) : Noted s s' p (if q = p then some note else none) := by
  split_ifs with hp
  · subst hp
    exact noted_self (h.kthread q) (by rw [h.taskCtxStore, Function.update_self]) hnote
  · exact h.noted_other hp

-- A write of something else than statistics.
theorem Wrote.noted_none (h : Wrote q tctx' log s s') (hctx : s.taskCtxStore q = some tctx)
    (hsame : tctx'.statistics = tctx.statistics) (p : Task) : Noted s s' p none := by
  by_cases hp : q = p
  · subst hp
    unfold Noted Sched.statistics
    rw [h.kthread, h.taskCtxStore, Function.update_self, hctx]
    exact congrArg (fun tctx => (_, some tctx)) hsame
  · exact h.noted_other hp

theorem lunarRunning_noted (m : Machine) (k : Call) (q : Task) (s : Sched) (p : Task) :
    Noted s (lunarRunning m k q s) p ((Callback.running k q).note m p s) := by
  unfold lunarRunning
  by_cases hproc : k.proc < m.nrCpuIds
  · have hnote : (Callback.running k q).note m p s = if q = p then some (.running k.now) else none := by
      simp [Callback.note, hproc]
    rw [hnote]
    cases hctx : s.taskCtxStore q with
    | none => exact (SameCtx.refl s).noted hctx (fun _ => rfl) p
    | some tctx =>
        simp only [Sched.getDispatchCtx, hproc, if_true]
        refine ((sameCtx_updDispatchCtx ..).trans_wrote (wrote_setTaskCtx ..)).noted ?_ p
        rw [hctx]
        rfl
  · have hnote : (Callback.running k q).note m p s = none := by simp [Callback.note, hproc]
    rw [hnote]
    cases s.taskCtxStore q with
    | none => exact (SameCtx.refl s).noted_none p
    | some tctx =>
        simp only [Sched.getDispatchCtx, hproc, if_false]
        exact (SameCtx.refl s).noted_none p

theorem lunarDispatch_noted (m : Machine) (k : Call) (now : Nat) (rnd : Nat → Nat) (cpu : Nat)
    (prev : Option Task) (s : Sched) (p : Task) :
    Noted s (lunarDispatch m k now rnd cpu prev s) p ((Callback.dispatch k now rnd cpu prev).note m p s) := by
  unfold Callback.note
  cases hq : queuedCtx s prev with
  | none =>
      have hsame : SameCtx s (lunarDispatch m k now rnd cpu prev s) := by
        unfold lunarDispatch
        rw [hq]
        exact (dispatchDsqPerCpu_dispatched ..).sameCtx
      dsimp only
      split_ifs with hp
      · obtain ⟨rfl, hqueued⟩ := hp
        have hctx : s.taskCtxStore p = none := by
          cases hctx : s.taskCtxStore p with
          | none => rfl
          | some tctx => rw [queuedCtx_eq_some.mpr ⟨rfl, hqueued, hctx⟩] at hq; cases hq
        have hnone (kthread : Bool) : (Note.dispatched k.now).record kthread none = none := rfl
        have hnoted := hsame.noted hctx hnone p
        rwa [if_pos rfl] at hnoted
      · exact hsame.noted_none p
  | some prevCtx =>
      obtain ⟨q, tctx⟩ := prevCtx
      obtain ⟨pending, boost, granted, -, h⟩ := lunarDispatch_wrote m k now rnd cpu hq
      obtain ⟨rfl, hqueued, hctx⟩ := queuedCtx_eq_some.mp hq
      have hprev : (some q = some p ∧ (s.task p).queued) ↔ q = p :=
        ⟨fun hp => Option.some.inj hp.1, fun hp => ⟨congrArg some hp, hp ▸ hqueued⟩⟩
      simp only [hprev]
      refine h.noted ?_ p
      rw [hctx]
      exact congrArg some (chargePrev_statistics (s.task q) k.now tctx pending).symm

theorem recordWaker_noted (k : Call) (q : Task) (s : Sched) (p : Task) :
    Noted s (recordWaker k q s) p (if k.current = p ∧ !k.inInterrupt ∧ (s.task p).pid ≠ (s.task q).pid then
      some (.wakes k.now) else none) := by
  unfold recordWaker
  dsimp only
  by_cases hinterrupt : k.inInterrupt
  · rw [if_pos hinterrupt, if_neg (by simp [hinterrupt])]
    exact (SameCtx.refl s).noted_none p
  rw [if_neg hinterrupt]
  by_cases hpid : (s.task k.current).pid = (s.task q).pid
  · rw [if_pos hpid, if_neg (by rintro ⟨rfl, -, hne⟩; exact hne hpid)]
    exact (SameCtx.refl s).noted_none p
  have hwaker : (k.current = p ∧ !k.inInterrupt ∧ (s.task p).pid ≠ (s.task q).pid) ↔ k.current = p :=
    ⟨fun h => h.1, fun h => ⟨h, by simp [hinterrupt], h ▸ hpid⟩⟩
  rw [if_neg hpid]
  simp only [hwaker]
  cases hctx : s.taskCtxStore k.current with
  | none => exact (SameCtx.refl s).noted hctx (fun _ => rfl) p
  | some wctx =>
      refine (wrote_setTaskCtx s k.current _).noted ?_ p
      rw [hctx]
      rfl

-- record_waker writes another task, and could as well be called last.
theorem lunarRunnable_eq (hctx : s.taskCtxStore q = some tctx) (k : Call) (wakeup : Bool) :
    let s1 := s.setTaskCtx q (tctx.woken k wakeup)
    let s2 := if wakeup then recordWaker k q s1 else s1
    (lunarRunnable k wakeup q s).task = s.task ∧ (lunarRunnable k wakeup q s).taskCtxStore =
      Function.update s2.taskCtxStore q (some (tctx.resumed (s.task q) k wakeup)) := by
  intro s1 s2
  have htask : s2.task = s.task := by
    dsimp only [s2]
    split_ifs
    · exact (recordWaker_spec k q s1).1.task
    · rfl
  have hself : s2.taskCtxStore q = some (tctx.woken k wakeup) := by
    have hs1 : s1.taskCtxStore q = some (tctx.woken k wakeup) := Function.update_self ..
    dsimp only [s2]
    split_ifs
    · rcases recordWaker_wrote k q s1 with hsame | ⟨hne, wctx, -, hwrote⟩
      · rw [hsame, hs1]
      · rw [hwrote.taskCtxStore, Function.update_of_ne (Ne.symm hne), hs1]
    · exact hs1
  have hrunnable : lunarRunnable k wakeup q s = if (tctx.woken k wakeup).blockedAt ≠ 0 then
      (s2.emit (.dutyAccount q 0 (elapsed k.now (tctx.woken k wakeup).blockedAt))).setTaskCtx q
        (chargeSleep (s2.task q) k.now (tctx.woken k wakeup)) else s2 := by
    unfold lunarRunnable
    rw [hctx]
    rfl
  rw [hrunnable, htask, TaskCtx.resumed]
  split_ifs
  · exact ⟨htask, rfl⟩
  · exact ⟨htask, hself ▸ (Function.update_eq_self q s2.taskCtxStore).symm⟩

theorem lunarRunnable_noted (m : Machine) (k : Call) (wakeup : Bool) (q : Task) (s : Sched) (p : Task) :
    Noted s (lunarRunnable k wakeup q s) p ((Callback.runnable k wakeup q).note m p s) := by
  unfold Callback.note
  cases hctx : s.taskCtxStore q with
  | none =>
      have hsame : lunarRunnable k wakeup q s = s := by
        unfold lunarRunnable
        rw [hctx]
      have hnone (kthread : Bool) : (Note.runnable k.now wakeup).record kthread none = none := rfl
      have hnoted := (SameCtx.refl s).noted hctx hnone p
      rw [hsame]
      simpa [hctx] using hnoted
  | some tctx =>
      obtain ⟨htask, hstore⟩ := lunarRunnable_eq hctx k wakeup
      by_cases hp : q = p
      · subst hp
        dsimp only
        rw [if_pos rfl]
        refine noted_self (by rw [htask]) (by rw [hstore, Function.update_self]) ?_
        rw [hctx]
        exact congrArg some (resumed_statistics (s.task q) tctx k wakeup).symm
      · have hfirst : _ = s.statistics p := (wrote_setTaskCtx s q (tctx.woken k wakeup)).noted_other hp
        have hwaker := recordWaker_noted k q (s.setTaskCtx q (tctx.woken k wakeup)) p
        generalize hs1 : s.setTaskCtx q (tctx.woken k wakeup) = s1 at hstore hfirst hwaker
        have htask1 : s1.task = s.task := by rw [← hs1]; rfl
        have hlast {s2 : Sched} (htask2 : s2.task = s.task)
            (hstore2 : (lunarRunnable k wakeup q s).taskCtxStore p = s2.taskCtxStore p) :
            (lunarRunnable k wakeup q s).statistics p = s2.statistics p := by
          rw [Sched.statistics, Sched.statistics, htask, htask2, hstore2]
        dsimp only
        rw [if_neg hp]
        cases wakeup with
        | false =>
            rw [if_neg (by simp)]
            exact (hlast htask1 (by rw [hstore, Function.update_of_ne (Ne.symm hp)]; rfl)).trans hfirst
        | true =>
            have htask2 := (recordWaker_spec k q s1).1.task.trans htask1
            have hlast := hlast htask2 (by rw [hstore, Function.update_of_ne (Ne.symm hp)]; rfl)
            unfold Noted at hwaker ⊢
            rw [htask1, hfirst] at hwaker
            rw [hlast, hwaker]
            simp [hctx]

theorem callback_noted {m : Machine} {event : Callback} (he : (callbacks m).enabled s event) (p : Task) :
    Noted s ((callbacks m).exec s event) p (event.note m p s) := by
  have happly (k : Call) (wakeup : Bool) (q : Task) (tctx : TaskCtx) :
      (if wakeup then applyWakeBoost k s q tctx else tctx).statistics = tctx.statistics := by
    split_ifs
    · exact applyWakeBoost_statistics tctx k s q
    · rfl
  cases event with
  | init now =>
      have hinit := lunarInit_spec m now s
      exact (SameCtx.of_same hinit.taskCtxStore hinit.task hinit.effects).noted_none p
  | initTask k q =>
      have hwrote : Wrote q (initTaskCtx (s.task q) k.now ((s.taskCtxStore q).getD .zeroed)) [] s
          (lunarInitTask k q s) := wrote_setTaskCtx ..
      refine hwrote.noted ?_ p
      rw [initTaskCtx_statistics]
      cases s.taskCtxStore q with
      | none => rfl
      | some tctx => rfl
  | selectCpu k ttwu dfl q =>
      have hsame := lunarSelectCpu_same m k ttwu dfl q s
      cases hctx : s.taskCtxStore q with
      | none =>
          rw [boostWoken_none hctx] at hsame
          exact hsame.noted_none p
      | some tctx =>
          exact ((boostWoken_wrote hctx k ttwu).trans_same hsame).noted_none hctx (happly k ttwu q tctx) p
  | enqueue k env flags q =>
      cases hctx : s.taskCtxStore q with
      | none => exact (lunarEnqueue_none m hctx k env flags).noted_none p
      | some tctx =>
          obtain ⟨resume, migrated, h⟩ := lunarEnqueue_wrote m hctx k env flags
          exact h.noted_none hctx (happly k flags.wakeup q tctx) p
  | dispatch k now rnd cpu prev => exact lunarDispatch_noted m k now rnd cpu prev s p
  | running k q => exact lunarRunning_noted m k q s p
  | stopping k q runnable =>
      change Noted s (lunarStopping m k q runnable s) p _
      cases hctx : s.taskCtxStore q with
      | none =>
          unfold lunarStopping
          rw [hctx]
          exact (SameCtx.refl s).noted hctx (fun _ => rfl) p
      | some tctx =>
          obtain ⟨resume, boost, -, h⟩ := lunarStopping_wrote m hctx k runnable
          refine h.noted ?_ p
          rw [hctx]
          exact congrArg some (chargeStopped_statistics (s.task q) k.now tctx).symm
  | quiescent k sleep q =>
      change Noted s (lunarQuiescent k sleep q s) p _
      unfold lunarQuiescent
      cases hctx : s.taskCtxStore q with
      | none => exact (SameCtx.refl s).noted hctx (fun _ => rfl) p
      | some tctx =>
          refine (wrote_setTaskCtx s q _).noted ?_ p
          rw [hctx]
          rfl
  | runnable k wakeup q => exact lunarRunnable_noted m k wakeup q s p
  | schedSwitch k idle next => exact (sameCtx_lunarSchedSwitch m k idle next s).noted_none p
  | kernel s' =>
      have hout : Outside s s' := he
      change Noted s s' p none
      unfold Noted Sched.statistics
      rw [hout.kthread, hout.taskCtxStore]
      rfl

end Step

-- The statistics of a task are a part of the state that only its own notes change.
def statisticsPart (m : Machine) (p : Task) : (callbacks m).Part recordNote where
  view s := s.statistics p
  note := fun s event => event.note m p s
  step _ _ he := callback_noted he p

-- What happened to p in a run.
def history (m : Machine) (p : Task) (start : Sched) (events : List Callback) : List Note :=
  (statisticsPart m p).history start events

-- The tier of a task, and everything it is decided by, depends on its own history only. Two
-- tasks with the same history have the same tier, on whatever machines they run, next to
-- whatever other tasks, in whatever queues and on whatever cpus they wait and run, and
-- whatever slices and boosts they are given.
theorem tier_of_history {m m' : Machine} {start start' : Sched} {events events' : List Callback}
    {p p' : Task} (hstart : start.taskCtxStore p = none) (hstart' : start'.taskCtxStore p' = none)
    (hkthread : (start.task p).kthread = (start'.task p').kthread)
    (hruns : (callbacks m).Runs start events) (hruns' : (callbacks m').Runs start' events')
    (hhistory : history m p start events = history m' p' start' events') :
    let s := (callbacks m).final start events
    let s' := (callbacks m').final start' events'
    s.statistics p = TransitionSystem.Part.replay recordNote ((start.task p).kthread, none)
        (history m p start events) ∧
      (s.taskCtxStore p).map (·.statistics) = (s'.taskCtxStore p').map (·.statistics) ∧
      (s.taskCtxStore p).map (·.currentDsqType) = (s'.taskCtxStore p').map (·.currentDsqType) := by
  intro s s'
  have hview : start.statistics p = ((start.task p).kthread, none) := by
    rw [Sched.statistics, hstart]
    rfl
  have hview' : start.statistics p = start'.statistics p' := by
    rw [hview, hkthread, Sched.statistics, hstart']
    rfl
  have hfinal := (statisticsPart m p).view_final hruns
  have hsame := (statisticsPart m p).view_congr (statisticsPart m' p') hruns hruns' hview' hhistory
  have hstatistics : (s.taskCtxStore p).map (·.statistics) = (s'.taskCtxStore p').map (·.statistics) :=
    congrArg Prod.snd hsame
  refine ⟨hfinal.trans (by rw [← hview]; rfl), hstatistics, ?_⟩
  have htier := congrArg (Option.map (·.currentDsqType)) hstatistics
  rwa [Option.map_map, Option.map_map] at htier

-- Task 1 of classifiedRun without the other task, on the second of two cpus.
def soloRun : List Callback :=
  let k (ms : Nat) : Call := .task (ms * NS_PER_MS) 1 5
  let round (ms : Nat) : List Callback :=
    [.runnable (k ms) true 1, .running (k ms) 1, .stopping (k (ms + 1)) 1 true,
      .quiescent (k (ms + 1)) true 1]
  [.init fun _ => 7, .initTask (k 1) 1] ++ round 10 ++ round 120 ++ round 240 ++ round 360

theorem tier_of_history_soloRun :
    (((callbacks oneCpu).final classifiedStart classifiedRun).taskCtxStore 1).map (·.currentDsqType) =
      (((callbacks twoCpus).final Sched.zeroed soloRun).taskCtxStore 1).map (·.currentDsqType) := by
  have hruns : (callbacks oneCpu).Runs classifiedStart classifiedRun := by
    simp [callbacks, classifiedRun, TransitionSystem.Runs]
  have hruns' : (callbacks twoCpus).Runs Sched.zeroed soloRun := by
    simp [callbacks, soloRun, TransitionSystem.Runs]
  have hhistory : history oneCpu 1 classifiedStart classifiedRun =
      history twoCpus 1 Sched.zeroed soloRun := by decide +kernel
  have hkthread : (classifiedStart.task 1).kthread = (Sched.zeroed.task 1).kthread := rfl
  exact (tier_of_history rfl rfl hkthread hruns hruns' hhistory).2.2

end Lunar
