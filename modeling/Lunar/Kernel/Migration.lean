import Lunar.Kernel.Callbacks
import Lunar.Kernel.Queues
import Lunar.Library.Counting

namespace Lunar

open Word64 RateLimit

-- lunar_enqueue moves a task of the lower tiers only once in a while: last_migrated_at
-- remembers every move, also those that are not limited.

section Enqueue

variable {m : Machine} {env : PickEnv} {s : Sched} {p : Task} {tctx : TaskCtx} {tier cpu now : Nat}

-- The limit of pick_enqueue_cpu.
theorem pickEnqueueCpu_limited (hmoved : (pickEnqueueCpu m env s p tctx tier cpu now).1 ≠ cpu)
    (hidle : env.idle = none) (htier : DSQ_TYPE_INTERACTIVE < tier) (hrt : cpuTakenByRt s cpu = false) :
    BALANCE_INTERVAL_NS ≤ sub now tctx.lastMigratedAt := by
  by_contra hlt
  apply hmoved
  unfold pickEnqueueCpu
  rw [hidle]
  dsimp only
  by_cases hzero : cpuLoadAhead m s cpu tier = 0
  · rw [if_pos hzero]
  by_cases hone : (s.task p).nrCpusAllowed = 1
  · rw [if_neg hzero, if_pos hone]
  rw [if_neg hzero, if_neg hone, if_pos ⟨Nat.not_le_of_lt htier, Nat.lt_of_not_le hlt, by rw [hrt]; rfl⟩]

-- What lunar_enqueue makes of last_migrated_at, and what it says when p waits on another
-- cpu afterwards.
structure MigratedBy (m : Machine) (k : Call) (env : PickEnv) (p : Task) (s s' : Sched)
    (tctx tctx' : TaskCtx) : Prop where
  last : tctx'.lastMigratedAt = tctx.lastMigratedAt ∨ tctx'.lastMigratedAt = k.now
  moved : ∀ t c, c < m.nrCpuIds → c ≠ (s.task p).cpu → p ∈ s'.dsq (getCpuDsqFromType t c) →
    tctx'.lastMigratedAt = k.now ∧
      (env.idle = none → DSQ_TYPE_INTERACTIVE < effectiveTier (some tctx') →
        cpuTakenByRt s (s.task p).cpu = false → BALANCE_INTERVAL_NS ≤ sub k.now tctx.lastMigratedAt)

-- A task that was nowhere only waits where it was put.
theorem mem_inserted_cpu {dsq : DsqId → List Task} {t t' c c' : Nat} {head : Bool}
    (hout : ∀ id, p ∉ dsq id) (hc : c < MAX_CPUS) (hc' : c' < MAX_CPUS)
    (hmem : p ∈ Function.update dsq (getCpuDsqFromType t' c')
      (inserted head p (dsq (getCpuDsqFromType t' c'))) (getCpuDsqFromType t c)) : c = c' := by
  by_contra hne
  have hid : getCpuDsqFromType t c ≠ getCpuDsqFromType t' c' := fun he =>
    hne (getCpuDsqFromType_cpu hc hc' he)
  rw [Function.update_of_ne hid] at hmem
  exact hout _ hmem

-- A task that resumes stays where it is.
theorem stampAndInsert_migrated {old : TaskCtx} (hlast : tctx.lastMigratedAt = old.lastMigratedAt)
    (hout : ∀ id, p ∉ s.dsq id) (hcpu : (s.task p).cpu < m.nrCpuIds) (k : Call) (slice : Nat) (head : Bool) :
    let s' := stampAndInsert m k p tier (s.task p).cpu slice head (s.setTaskCtx p tctx)
    s'.taskCtxStore p = some tctx ∧ MigratedBy m k env p s s' old tctx := by
  have hmax := m.nrCpuIds_le
  obtain ⟨hdsq, hstore⟩ := stampAndInsert_frame m k p tier (s.task p).cpu slice head (s.setTaskCtx p tctx)
  refine ⟨by rw [hstore]; simp, Or.inl hlast, ?_⟩
  intro t c hc hne hmem
  rw [hdsq] at hmem
  exact absurd (mem_inserted_cpu hout (by omega) (by omega) hmem) hne

-- One that is placed moves only with last_migrated_at.
theorem enqueueOn_migrated {old : TaskCtx} (hlast : tctx.lastMigratedAt = old.lastMigratedAt)
    (hout : ∀ id, p ∉ s.dsq id) (hcpu : (s.task p).cpu < m.nrCpuIds)
    (hidle : ∀ idle, env.idle = some idle → idle < m.nrCpuIds ∧ (s.task p).cpusPtr idle) (k : Call)
    (flags : EnqFlags) :
    let tier := effectiveTier (some tctx)
    let r := pickEnqueueCpu m env s p tctx tier (s.task p).cpu k.now
    let s' := enqueueOn m k flags p tier r.1 (s.setTaskCtx p r.2)
    s'.taskCtxStore p = some r.2 ∧ MigratedBy m k env p s s' old r.2 := by
  have hmax := m.nrCpuIds_le
  dsimp only
  have hpick := (pickEnqueueCpu_spec m env s p tctx (effectiveTier (some tctx)) (s.task p).cpu k.now hidle).1
  generalize hr : pickEnqueueCpu m env s p tctx (effectiveTier (some tctx)) (s.task p).cpu k.now = r
    at hpick ⊢
  have hmigrated : r.2 = if r.1 ≠ (s.task p).cpu then { tctx with lastMigratedAt := k.now } else tctx := by
    rw [← hr]
    exact pickEnqueueCpu_migrated
  obtain ⟨hdsq, hstore⟩ := enqueueOn_frame m k flags p (effectiveTier (some tctx)) r.1 (s.setTaskCtx p r.2)
  refine ⟨by rw [hstore]; simp, ?_, ?_⟩
  · rw [hmigrated]
    by_cases hstays : r.1 ≠ (s.task p).cpu
    · rw [if_pos hstays]
      exact Or.inr rfl
    · rw [if_neg hstays]
      exact Or.inl hlast
  · intro t c hc hne hmem
    have hlt : r.1 < m.nrCpuIds := hpick.elim (fun h => h ▸ hcpu) And.left
    have htarget : c = if cpuIsOnline m r.1 then r.1 else (s.task p).cpu := by
      rw [hdsq] at hmem
      refine mem_inserted_cpu hout (by omega) ?_ hmem
      split_ifs <;> omega
    have hmoved : r.1 ≠ (s.task p).cpu := by
      rintro he
      rw [he, ite_self] at htarget
      exact hne htarget
    rw [if_pos hmoved] at hmigrated
    refine ⟨by rw [hmigrated], fun hnone hlow hrt => ?_⟩
    -- last_migrated_at has no part in the tier.
    have hlow : DSQ_TYPE_INTERACTIVE < effectiveTier (some tctx) := by
      rw [hmigrated] at hlow
      exact hlow
    rw [← hr] at hmoved
    rw [← hlast]
    exact pickEnqueueCpu_limited hmoved hnone hlow hrt

theorem lunarEnqueue_migrated (hctx : s.taskCtxStore p = some tctx) (hout : ∀ id, p ∉ s.dsq id)
    (hcpu : (s.task p).cpu < m.nrCpuIds)
    (hidle : ∀ idle, env.idle = some idle → idle < m.nrCpuIds ∧ (s.task p).cpusPtr idle) (k : Call)
    (flags : EnqFlags) :
    ∃ tctx', (lunarEnqueue m k env flags p s).taskCtxStore p = some tctx' ∧
      MigratedBy m k env p s (lunarEnqueue m k env flags p s) tctx tctx' := by
  unfold lunarEnqueue
  dsimp only
  rw [hctx]
  dsimp only
  -- Neither the wake boost nor resume_slice has a part in this.
  generalize htctx1 : (if flags.wakeup then applyWakeBoost k s p tctx else tctx) = tctx1
  have hlast1 : tctx1.lastMigratedAt = tctx.lastMigratedAt := by
    obtain ⟨boost, used, hboost⟩ := applyWakeBoost_frame k s p tctx
    rw [← htctx1, hboost]
    split_ifs <;> rfl
  generalize htctx2 : (if tctx1.resumeSlice ≠ 0 ∧ cpuTakenByRt s (s.task p).cpu then
    { tctx1 with resumeSlice := 0 } else tctx1) = tctx2
  have hlast2 : tctx2.lastMigratedAt = tctx.lastMigratedAt := by
    rw [← hlast1, ← htctx2]
    split_ifs <;> rfl
  have htier : effectiveTier (some tctx1) = effectiveTier (some tctx2) := by
    rw [← htctx2]
    split_ifs <;> rfl
  rw [htier]
  by_cases hresume : tctx2.resumeSlice ≠ 0
  · rw [if_pos hresume]
    have hlast : { tctx2 with resumeSlice := 0 }.lastMigratedAt = tctx.lastMigratedAt := hlast2
    exact ⟨_, stampAndInsert_migrated hlast hout hcpu k tctx2.resumeSlice true⟩
  · rw [if_neg hresume]
    exact ⟨_, enqueueOn_migrated hlast2 hout hcpu hidle k flags⟩

end Enqueue

-- last_migrated_at of a task
def Sched.lastMigratedAt (s : Sched) (p : Task) : Nat := (s.taskCtxStore p).elim 0 (·.lastMigratedAt)

theorem Sched.lastMigratedAt_of_some {s : Sched} {p : Task} {tctx : TaskCtx}
    (h : s.taskCtxStore p = some tctx) : s.lastMigratedAt p = tctx.lastMigratedAt := by
  rw [Sched.lastMigratedAt, h]
  rfl

-- p waits on another cpu than before.
def Sys.MovedAway (m : Machine) (sys sys' : Sys) (p : Task) : Prop :=
  ∃ t ∈ [DSQ_TYPE_LC, DSQ_TYPE_INTERACTIVE, DSQ_TYPE_NORMAL, DSQ_TYPE_GREEDY],
    ∃ c ∈ List.range m.nrCpuIds, c ≠ sys.cpuOf p ∧ p ∈ sys'.queue t c

instance (m : Machine) (sys sys' : Sys) (p : Task) : Decidable (sys.MovedAway m sys' p) :=
  inferInstanceAs (Decidable (∃ _ ∈ _, _))

-- The moves of p by lunar_enqueue. Limited are those of a NORMAL or GREEDY task for which no
-- idle cpu was found, and whose own cpu is not taken by an RT task.
def watchMoves (m : Machine) (p : Task) (moves : List Act) (sys : Sys) (event : Event) (sys' : Sys) :
    List Act :=
  match event with
  | .enqueue k q _ env =>
      if q = p ∧ sys.MovedAway m sys' p then
        ⟨k.now, env.idle.isNone && decide (DSQ_TYPE_INTERACTIVE < effectiveTier (sys'.sched.taskCtxStore p)) &&
          !cpuTakenByRt sys.sched (sys.cpuOf p)⟩ :: moves
      else moves
  | _ => moves

-- last_migrated_at is only written by these.
def Callback.Migrates (p : Task) : Callback → Prop
  | .initTask _ q | .enqueue _ _ _ q => q = p
  | _ => False

def Event.Migrates (p : Task) : Event → Prop
  | .initTask _ q | .enqueue _ q _ _ => q = p
  | _ => False

section Frame

variable {s : Sched} {p : Task}

@[simp] theorem updateTaskDsqType_lastMigratedAt (task : TaskStruct) (tctx : TaskCtx) (now : Nat) :
    (updateTaskDsqType task tctx now).lastMigratedAt = tctx.lastMigratedAt := by
  obtain ⟨tier, crit, htier⟩ := updateTaskDsqType_frame task tctx now
  rw [htier]

@[simp] theorem dutyAccount_lastMigratedAt (tctx : TaskCtx) (run slept : Nat) :
    (dutyAccount tctx run slept).lastMigratedAt = tctx.lastMigratedAt := by
  obtain ⟨runAcc, sleepAcc, haccount⟩ := dutyAccount_frame tctx run slept
  rw [haccount]

theorem CtxStep.lastMigratedAt {event : Callback} {ctx : Option TaskCtx} {log : List (Nat × Nat)}
    (h : CtxStep s p event ctx log) (hevent : ¬event.Migrates p) :
    ctx.elim 0 (·.lastMigratedAt) = s.lastMigratedAt p := by
  have hlast {tctx tctx' : TaskCtx} (hctx : s.taskCtxStore p = some tctx)
      (hsame : tctx'.lastMigratedAt = tctx.lastMigratedAt) : tctx'.lastMigratedAt = s.lastMigratedAt p := by
    rw [hsame, Sched.lastMigratedAt_of_some hctx]
  have hwoken (k : Call) (wakeup : Bool) (tctx : TaskCtx) :
      (tctx.woken k wakeup).lastMigratedAt = tctx.lastMigratedAt := by
    unfold TaskCtx.woken
    split_ifs <;> rfl
  cases h with
  | same => rfl
  | initTask => exact absurd rfl hevent
  | enqueue => exact absurd rfl hevent
  | @selectCpu k ttwu _ tctx hctx =>
      refine hlast hctx ?_
      obtain ⟨boost, used, hboost⟩ := applyWakeBoost_frame k s p tctx
      rw [hboost]
      split_ifs <;> rfl
  | @dispatch k _ _ _ tctx pending _ _ hctx =>
      obtain ⟨boost, used, -, hcharged⟩ := chargePrev_accounted (s.task p) k.now tctx pending
      refine hlast hctx ?_
      simp [hcharged]
  | running hctx => exact hlast hctx rfl
  | @stopping k _ tctx _ _ hctx =>
      obtain ⟨used, hcharged⟩ := chargeStopped_accounted (s.task p) k.now tctx
      refine hlast hctx ?_
      simp [hcharged]
  | quiescent hctx => exact hlast hctx rfl
  | @woken k wakeup tctx hctx => exact hlast hctx (hwoken k wakeup tctx)
  | @slept k wakeup tctx hctx =>
      refine hlast hctx ?_
      unfold chargeSleep reevaluate countSample
      simp [hwoken]
  | waker hctx => exact hlast hctx rfl

-- So the callbacks of the other events keep it.
theorem callbacks_lastMigratedAt {m : Machine} {events : List Callback}
    (hruns : (callbacks m).Runs s events) (hevents : ∀ event ∈ events, ¬event.Migrates p) :
    ((callbacks m).final s events).lastMigratedAt p = s.lastMigratedAt p := by
  induction events generalizing s with
  | nil => rfl
  | cons event rest ih =>
      obtain ⟨hevent, hrest⟩ := List.forall_mem_cons.mp hevents
      obtain ⟨⟨log, hstep⟩, -⟩ := callbacks_step hruns.1 p
      exact (ih hruns.2 hrest).trans (hstep.lastMigratedAt hevent)

theorem Event.callbacks_keep {event : Event} (m : Machine) (sys : Sys) (hevent : ¬event.Migrates p) :
    ∀ callback ∈ event.callbacks m sys, ¬callback.Migrates p := by
  cases event with
  | initTask k q => simpa [Event.callbacks, Callback.Migrates] using show ¬q = p from hevent
  | enqueue k q flags env => simpa [Event.callbacks, Callback.Migrates] using show ¬q = p from hevent
  | _ => simp [Event.callbacks, Callback.Migrates]

theorem exec_lastMigratedAt (m : Machine) (sys : Sys) {event : Event} (hevent : ¬event.Migrates p) :
    ((lunarSys m).exec sys event).sched.lastMigratedAt p = sys.sched.lastMigratedAt p := by
  obtain ⟨hruns, hfinal⟩ := event.callbacks_run m sys
  rw [← hfinal]
  exact callbacks_lastMigratedAt hruns (Event.callbacks_keep m sys hevent)

end Frame

-- A task stays under lunar.
theorem Step.phase_ne_none {m : Machine} {sys sys' : Sys} {event : Event} (hs : Step m sys sys' event)
    (hinv : Inv m sys) {p : Task} (hp : sys.phase p ≠ .none) : sys'.phase p ≠ .none := by
  change (sys'.life p).phase ≠ .none
  have hl := hs.life hinv p
  generalize sys'.life p = life' at hl
  cases hl with
  | same _ h => exact h ▸ hp
  | selectCpu _ h | consumeSlice _ _ h | replaced _ _ _ h | continued _ _ _ h => exact h ▸ hp
  | @stopping _ runnable _ _ h => cases runnable <;> simp [h]
  | initTask _ h | runnable _ h | enqueueLocal _ h | insertDirect _ _ h | restore _ h | putBack _ _ h
  | running _ h => simp [h]
  | enqueue _ _ _ _ h | quiescent _ _ h => simp [h]

-- last_migrated_at knows of every move.
structure MovesOk (p : Task) (sys : Sys) (moves : List Act) : Prop where
  kept : Kept BALANCE_INTERVAL_NS moves (sys.sched.lastMigratedAt p)
  past : sys.sched.lastMigratedAt p ≤ sys.clock
  fresh : sys.phase p = .none → moves = []

namespace MovesOk

variable {m : Machine} {p : Task} {sys : Sys} {moves : List Act}

theorem start (h : Sys.Start m sys) : MovesOk p sys [] where
  kept := .start
  past := by
    obtain ⟨s, now, hsched, -, hctx, -, -⟩ := h.sched
    simp [Sched.lastMigratedAt, hsched, (lunarInit_spec m now s).taskCtxStore, hctx]
  fresh _ := rfl

theorem initTask (h : MovesOk p sys moves) {k : Call}
    (he : (lunarSys m).enabled sys (.initTask k p)) :
    MovesOk p ((lunarSys m).exec sys (.initTask k p)) moves := by
  have hlast : ((lunarSys m).exec sys (.initTask k p)).sched.lastMigratedAt p = 0 := by
    change (lunarInitTask k p sys.sched).lastMigratedAt p = 0
    rw [lunarInitTask_eq, Sched.lastMigratedAt, Sched.setTaskCtx_taskCtxStore, Function.update_self]
    unfold initTaskCtx
    dsimp only
    split_ifs <;> rfl
  obtain rfl : moves = [] := h.fresh he.2
  exact ⟨.start, hlast ▸ Nat.zero_le _, fun _ => rfl⟩

theorem enqueue (h : MovesOk p sys moves) {k : Call} {flags : EnqFlags} {env : PickEnv} (hinv : Inv m sys)
    (he : (lunarSys m).enabled sys (.enqueue k p flags env)) :
    MovesOk p ((lunarSys m).exec sys (.enqueue k p flags env))
      (watchMoves m p moves sys (.enqueue k p flags env) ((lunarSys m).exec sys (.enqueue k p flags env))) := by
  have hphase := (hinv.stepped he).phase_ne_none hinv (enqueue_phase hinv he.2)
  obtain ⟨tctx, hctx, -⟩ := Sched.exists_of_present (hinv.present (enqueue_phase hinv he.2))
  obtain ⟨⟨hcpu, -, -, hidle⟩, -⟩ := he.2
  obtain ⟨tctx', hctx', hby⟩ := lunarEnqueue_migrated (s := (sys.unlink p).sched) hctx
    (Inv.not_mem_unlink sys p) hcpu (fun idle hi => hidle idle hi) k flags
  have hnow : sys.clock ≤ k.now := he.1
  have hkept := h.kept
  have hpast := h.past
  rw [Sched.lastMigratedAt_of_some hctx] at hkept hpast
  generalize hsys' : (lunarSys m).exec sys (.enqueue k p flags env) = sys' at hphase ⊢
  have hsched : lunarEnqueue m k env flags p (sys.unlink p).sched = sys'.sched := by
    rw [← hsys']
    rfl
  have hclock : sys'.clock = k.now := by
    rw [← hsys']
    rfl
  rw [hsched] at hctx' hby
  have hlast' := Sched.lastMigratedAt_of_some hctx'
  refine ⟨?_, ?_, fun hp => absurd hp hphase⟩
  · rw [hlast']
    unfold watchMoves
    dsimp only
    split_ifs with hmoved
    · obtain ⟨-, t, -, c, hc, hne, hmem⟩ := hmoved
      obtain ⟨hnew, hlimit⟩ := hby.moved t c (List.mem_range.mp hc) hne hmem
      rw [hnew]
      refine hkept.act (Nat.le_trans hpast hnow) fun hlimited => ?_
      simp only [Bool.and_eq_true, Option.isNone_iff_eq_none, decide_eq_true_eq, Bool.not_eq_true',
        hctx'] at hlimited
      have hsub := hlimit hlimited.1.1 hlimited.1.2 hlimited.2
      have hle := sub_le_of_le (Nat.le_trans hpast hnow)
      omega
    · rcases hby.last with hl | hl
      · exact hl ▸ hkept
      · exact hl ▸ hkept.wait (Nat.le_trans hpast hnow)
  · rw [hlast', hclock]
    rcases hby.last with hl | hl
    · exact hl ▸ Nat.le_trans hpast hnow
    · exact hl.le

theorem step (h : MovesOk p sys moves) {event : Event} (hinv : Inv m sys)
    (he : (lunarSys m).enabled sys event) :
    MovesOk p ((lunarSys m).exec sys event)
      (watchMoves m p moves sys event ((lunarSys m).exec sys event)) := by
  by_cases hevent : event.Migrates p
  · cases event with
    | initTask k q =>
        obtain rfl : q = p := hevent
        exact h.initTask he
    | enqueue k q flags env =>
        obtain rfl : q = p := hevent
        exact h.enqueue hinv he
    | _ => exact absurd hevent id
  · have hlast := exec_lastMigratedAt m sys hevent
    have hmoves : watchMoves m p moves sys event ((lunarSys m).exec sys event) = moves := by
      cases event with
      | enqueue k q flags env => exact if_neg fun hq => hevent hq.1
      | _ => rfl
    rw [hmoves]
    refine ⟨hlast ▸ h.kept, hlast ▸ Nat.le_trans h.past he.1, fun hphase => h.fresh ?_⟩
    by_contra hp
    exact (hinv.stepped he).phase_ne_none hinv hp hphase

end MovesOk

-- Where no idle cpu is found and no RT task is in the way, a NORMAL or GREEDY task is not
-- moved again before its interval is over, whatever moved it last. So lunar_enqueue moves it
-- at most once per interval.
theorem moves_rate_limited {m : Machine} {start : Sys} {p : Task} {state : Sys × List Act}
    (hstart : Sys.Start m start)
    (hreach : ((lunarSys m).observe (watchMoves m p)).Reaches (start, []) state) :
    (state.2.Pairwise fun later earlier => later.limited → earlier.time + BALANCE_INTERVAL_NS ≤ later.time) ∧
      ∀ a b, (state.2.filter fun move => move.limited ∧ a ≤ move.time ∧ move.time ≤ b).length ≤
        (b - a) / BALANCE_INTERVAL_NS + 1 := by
  have hok : Inv m state.1 ∧ MovesOk p state.1 state.2 := by
    refine TransitionSystem.invariant_of_reaches _
      (P := fun state => Inv m state.1 ∧ MovesOk p state.1 state.2) ?_
      ⟨Inv.start hstart, MovesOk.start hstart⟩ hreach
    rintro state event ⟨hinv, hmoves⟩ he
    exact ⟨hinv.step (hinv.stepped he), hmoves.step hinv he⟩
  exact ⟨hok.2.kept.apart, fun a b => hok.2.kept.count_le (by decide) a b⟩

-- Task 1 runs on cpu 0. Task 2 is woken up there three times, after 20, 25 and 35 ms, while
-- cpu 1 has nothing to do.
def movedTwice : List Event :=
  .initTask (.task 10 0 0) 1 :: wakeUp (.task 10 0 0) 1 0 ++ pickNext (.task 10 0 0) 1 ++
    .initTask (.task 10 0 0) 2 :: wakeUp (.task 20000000 0 0) 2 0 ++
    .quiescent (.task 20000000 0 0) 2 true :: wakeUp (.task 25000000 0 0) 2 0 ++
    .quiescent (.task 25000000 0 0) 2 true :: wakeUp (.task 35000000 0 0) 2 0

def movedTwiceState : Sys × List Act :=
  ((lunarSys twoCpus).observe (watchMoves twoCpus 2)).final (twoCpusBoot, []) movedTwice

theorem moves_rate_limited_movedTwice :
    movedTwiceState.2 = [⟨35000000, true⟩, ⟨20000000, true⟩] ∧
      (movedTwiceState.2.filter fun move => move.limited ∧ 20000000 ≤ move.time ∧ move.time ≤ 25000000).length ≤
        (25000000 - 20000000) / BALANCE_INTERVAL_NS + 1 := by
  have hstart : Sys.Start twoCpus twoCpusBoot := Sys.start_boot twoCpus (by decide) fun _ => rfl
  have hreach : ((lunarSys twoCpus).observe (watchMoves twoCpus 2)).Reaches (twoCpusBoot, [])
      movedTwiceState := ⟨movedTwice, by decide +kernel, rfl⟩
  exact ⟨by decide +kernel, (moves_rate_limited hstart hreach).2 _ _⟩

end Lunar
