import Lunar.Conservation
import Lunar.Kernel.Queues

namespace Lunar

-- What a task waits for in the queue of a tier: only for what is in front of it.

structure RankLog where
  -- dispatches that took a task out of the queue, for a cpu the waiting task may run on
  taken : Nat
  -- dispatches of the cpu of the queue that had no LC task of a cpu taken by an RT task to
  -- take first
  turns : Nat
  -- tasks put in front of the queue
  jumped : Nat
deriving DecidableEq, Repr

def RankLog.empty : RankLog := ⟨0, 0, 0⟩

-- The dispatch of c looks at its own LC queue before anything else.
def OwnTurn (m : Machine) (c : Nat) (sys : Sys) : Event → Prop
  | .dispatch _ cpu _ _ => cpu = c ∧
      ∀ d < m.nrCpuIds, RtTaken m sys.sched c d → ¬Waits sys.sched c DSQ_TYPE_LC d
  | .initTask .. | .setAttributes .. | .selectCpu .. | .runnable .. | .enqueue .. | .enqueueLocal ..
  | .insertDirect .. | .restore .. | .putBack .. | .consumeSlice .. | .running .. | .stopping ..
  | .quiescent .. | .schedSwitch .. => False

instance (m : Machine) (c : Nat) (sys : Sys) : ∀ event, Decidable (OwnTurn m c sys event)
  | .dispatch _ _ _ _ => inferInstanceAs (Decidable (_ ∧ _))
  | .initTask .. | .setAttributes .. | .selectCpu .. | .runnable .. | .enqueue .. | .enqueueLocal ..
  | .insertDirect .. | .restore .. | .putBack .. | .consumeSlice .. | .running .. | .stopping ..
  | .quiescent .. | .schedSwitch .. => inferInstanceAs (Decidable False)

def TakesFrom (t c : Nat) (p : Task) (sys sys' : Sys) : Event → Prop
  | .dispatch _ cpu _ _ =>
      sys.sched.allowedOn cpu p ∧ (sys'.queue t c).length < (sys.queue t c).length
  | .initTask .. | .setAttributes .. | .selectCpu .. | .runnable .. | .enqueue .. | .enqueueLocal ..
  | .insertDirect .. | .restore .. | .putBack .. | .consumeSlice .. | .running .. | .stopping ..
  | .quiescent .. | .schedSwitch .. => False

instance (t c : Nat) (p : Task) (sys sys' : Sys) : ∀ event, Decidable (TakesFrom t c p sys sys' event)
  | .dispatch _ _ _ _ => inferInstanceAs (Decidable (_ ∧ _))
  | .initTask .. | .setAttributes .. | .selectCpu .. | .runnable .. | .enqueue .. | .enqueueLocal ..
  | .insertDirect .. | .restore .. | .putBack .. | .consumeSlice .. | .running .. | .stopping ..
  | .quiescent .. | .schedSwitch .. => inferInstanceAs (Decidable False)

-- A task that comes to a queue with a task in it is its head only if it jumped it.
def JumpsTo (t c : Nat) (sys' : Sys) : Event → Prop
  | .enqueue _ q _ _ => (sys'.queue t c).head? = some q
  | .initTask .. | .setAttributes .. | .selectCpu .. | .runnable .. | .enqueueLocal ..
  | .insertDirect .. | .restore .. | .putBack .. | .consumeSlice .. | .dispatch .. | .running ..
  | .stopping .. | .quiescent .. | .schedSwitch .. => False

instance (t c : Nat) (sys' : Sys) : ∀ event, Decidable (JumpsTo t c sys' event)
  | .enqueue _ _ _ _ => inferInstanceAs (Decidable (_ = _))
  | .initTask .. | .setAttributes .. | .selectCpu .. | .runnable .. | .enqueueLocal ..
  | .insertDirect .. | .restore .. | .putBack .. | .consumeSlice .. | .dispatch .. | .running ..
  | .stopping .. | .quiescent .. | .schedSwitch .. => inferInstanceAs (Decidable False)

def watchRank (m : Machine) (t c : Nat) (p : Task) (log : RankLog) (sys : Sys) (event : Event)
    (sys' : Sys) : RankLog where
  taken := log.taken + if TakesFrom t c p sys sys' event then 1 else 0
  turns := log.turns + if OwnTurn m c sys event then 1 else 0
  jumped := log.jumped + if JumpsTo t c sys' event then 1 else 0

-- p stays where it is.
def StaysIn (m : Machine) (t c : Nat) (p : Task) (state : Sys × RankLog) (event : Event) : Prop :=
  p ∈ ((lunarSys m).exec state.1 event).queue t c

instance (m : Machine) (t c : Nat) (p : Task) (state : Sys × RankLog) (event : Event) :
    Decidable (StaysIn m t c p state event) := inferInstanceAs (Decidable (_ ∈ _))

-- The runs in which p waits in the queue of tier t of c.
def waitSys (m : Machine) (t c : Nat) (p : Task) : TransitionSystem (Sys × RankLog) Event :=
  ((lunarSys m).observe (watchRank m t c p)).restrict (StaysIn m t c p)

instance (m : Machine) (t c : Nat) (p : Task) (state : Sys × RankLog) (event : Event) :
    Decidable ((waitSys m t c p).enabled state event) := inferInstanceAs (Decidable (_ ∧ _))

section Rank

variable {m : Machine} {sys sys' : Sys} {event : Event} {moves : List (Queues.Move DsqId Task)}
  {t c : Nat} {p : Task}

theorem Inv.wellFormed (h : Inv m sys) : Queues.WellFormed sys.sched.dsq := ⟨h.nodup, h.unique⟩

-- Only an event that is not about p itself leaves it there.
theorem QueueMoves.stays (hmoves : QueueMoves m sys event moves) (hinv : Inv m sys)
    (hg : sys.guard m event) (hruns : Queues.system.Runs sys.sched.dsq moves) (hp : p ∈ sys.queue t c)
    (hstay : p ∈ Queues.system.final sys.sched.dsq moves (getCpuDsqFromType t c)) :
    (Queues.system.restrict fun queues move =>
      p ∈ Queues.exec queues move (getCpuDsqFromType t c)).Runs sys.sched.dsq moves := by
  cases hmoves with
  | quiet _ => trivial
  | fruitless => trivial
  | insertDirect => exact ⟨⟨hruns.1, hstay⟩, trivial⟩
  | restore => exact ⟨⟨hruns.1, hstay⟩, trivial⟩
  | putBack => exact ⟨⟨hruns.1, hstay⟩, trivial⟩
  | dispatch _ _ => exact ⟨⟨hruns.1, hstay⟩, trivial⟩
  | running => exact ⟨⟨hruns.1, hstay⟩, trivial⟩
  | quiescent => exact ⟨⟨hruns.1, hstay⟩, trivial⟩
  | @enqueueLocal q slice =>
      have hphase : sys.phase p = .queued := (hinv.members _ p hp).phase
      have hne : p ≠ q := by
        rintro rfl
        rcases hg with hq | hq | hq | hq
        · simp [hphase] at hq
        · simp [hphase] at hq
        · simp [hphase] at hq
        · exact getCpuDsqFromType_ne_localOn t c _ (hinv.unique _ _ p hp hq)
      exact ⟨⟨hruns.1, Queues.mem_remove.mpr ⟨hne, hp⟩⟩, ⟨hruns.2.1, hstay⟩, trivial⟩
  | @enqueue k q flags env _ _ _ _ _ _ =>
      have hphase : sys.phase p = .queued := (hinv.members _ p hp).phase
      have hne : p ≠ q := by
        rintro rfl
        rcases hg.2 with ⟨(hq | ⟨hq, -⟩), -⟩ | ⟨hq, -⟩ | ⟨hq, -⟩
        · simp [hphase] at hq
        · simp [hphase] at hq
        · simp [hphase] at hq
        · exact getCpuDsqFromType_ne_localOn t c _ (hinv.unique _ _ p hp hq)
      exact ⟨⟨hruns.1, Queues.mem_remove.mpr ⟨hne, hp⟩⟩, ⟨hruns.2.1, hstay⟩, trivial⟩

-- A move of a tier queue takes something out of it.
theorem exec_take_length {dsq : DsqId → List Task} {id : DsqId} {cpu : Nat} {may : Task → Bool}
    (hlt : (Queues.exec dsq (.take id (.localOn cpu) may) (getCpuDsqFromType t c)).length <
      (dsq (getCpuDsqFromType t c)).length) : id = getCpuDsqFromType t c := by
  by_contra hid
  cases hfind : (dsq id).find? may with
  | none =>
      simp only [Queues.exec, hfind] at hlt
      exact lt_irrefl _ hlt
  | some q =>
      simp only [Queues.exec, hfind] at hlt
      rw [Function.update_of_ne (getCpuDsqFromType_ne_localOn t c cpu), Function.update_of_ne (Ne.symm hid)]
        at hlt
      exact lt_irrefl _ hlt

-- What the observer counts is what the moves say.
theorem QueueMoves.counted (hmoves : QueueMoves m sys event moves)
    (hfinal : Queues.system.final sys.sched.dsq moves = sys'.sched.dsq) :
    (if TakesFrom t c p sys sys' event then 1 else 0) ≤
        (moves.map (Queues.served (getCpuDsqFromType t c) p)).sum ∧
      (moves.map (Queues.jumped (getCpuDsqFromType t c))).sum ≤
        if JumpsTo t c sys' event then 1 else 0 := by
  have hlocal (d : Nat) (head : Bool) (q : Task) :
      ([Queues.Move.push (.localOn d) head q].map (Queues.jumped (getCpuDsqFromType t c))).sum = 0 := by
    have hne := (getCpuDsqFromType_ne_localOn t c d).symm
    simp [Queues.jumped, hne]
  cases hmoves with
  | @quiet event hquiet =>
      refine ⟨?_, Nat.zero_le _⟩
      rw [if_neg]
      · exact Nat.zero_le _
      · cases event <;> first | exact id | exact hquiet.elim
  | @enqueueLocal q slice =>
      refine ⟨Nat.zero_le _, ?_⟩
      rw [List.map_cons, List.sum_cons, hlocal]
      exact Nat.zero_le _
  | insertDirect => exact ⟨Nat.zero_le _, (hlocal _ _ _).le⟩
  | restore => exact ⟨Nat.zero_le _, (hlocal _ _ _).le⟩
  | putBack => exact ⟨Nat.zero_le _, (hlocal _ _ _).le⟩
  | fruitless =>
      refine ⟨?_, Nat.zero_le _⟩
      rw [if_neg]
      · exact Nat.zero_le _
      · intro hlt
        have hsame : sys'.sched.dsq = sys.sched.dsq := hfinal.symm
        have hlen := hlt.2
        simp [Sys.queue, hsame] at hlen
  | @dispatch k cpu prev rnd t' c' _ _ =>
      refine ⟨?_, Nat.zero_le _⟩
      by_cases hlt : TakesFrom t c p sys sys' (.dispatch k cpu prev rnd)
      · have hid : getCpuDsqFromType t' c' = getCpuDsqFromType t c := exec_take_length (by
          have hlen := hlt.2
          unfold Sys.queue at hlen
          rwa [← hfinal] at hlen)
        have hallowed := hlt.1
        rw [if_pos hlt]
        simp [Queues.served, hid, hallowed]
      · rw [if_neg hlt]
        exact Nat.zero_le _
  | running => exact ⟨Nat.zero_le _, Nat.zero_le _⟩
  | quiescent => exact ⟨Nat.zero_le _, Nat.zero_le _⟩
  | @enqueue k q flags env t' c' _ _ _ _ =>
      refine ⟨Nat.zero_le _, ?_⟩
      simp only [List.map_cons, List.map_nil, Queues.jumped, List.sum_cons, List.sum_nil, zero_add, add_zero]
      split_ifs with hjump hlog
      · exact le_rfl
      · refine absurd ?_ hlog
        obtain ⟨hid, hhead⟩ := hjump
        change (sys'.sched.dsq (getCpuDsqFromType t c)).head? = some q
        rw [← hfinal, ← hid]
        simp [Queues.system, Queues.exec, hhead]
      · exact Nat.zero_le _
      · exact le_rfl

theorem Inv.rank_step (h : Inv m sys) (he : (lunarSys m).enabled sys event) (hp : p ∈ sys.queue t c)
    {log : RankLog} (hstay : StaysIn m t c p (sys, log) event) :
    let sys' := (lunarSys m).exec sys event
    let log' := watchRank m t c p log sys event sys'
    (sys'.queue t c).idxOf p + log'.taken + log.jumped ≤ (sys.queue t c).idxOf p + log.taken + log'.jumped := by
  dsimp only
  obtain ⟨moves, hmoves, hruns, hfinal⟩ := h.matched he
  obtain ⟨htaken, hjumped⟩ := hmoves.counted (t := t) (c := c) (p := p) hfinal
  have hstays := hmoves.stays h he.2 hruns hp (by rw [hfinal]; exact hstay)
  have hrank := Queues.idxOf_final h.wellFormed hp hstays
  rw [hfinal] at hrank
  simp only [watchRank]
  change (((lunarSys m).exec sys event).queue t c).idxOf p + _ ≤ (sys.queue t c).idxOf p + _ at hrank
  omega

end Rank

section Turns

variable {m : Machine} {sys : Sys} {c : Nat} {p : Task}

theorem RtTaken.of_dispatchArgs {k : Call} {prev : Option Task} {cpu d : Nat} {s : Sched}
    (h : RtTaken m (dispatchArgs m k cpu prev s).2 c d) : RtTaken m s c d := by
  unfold dispatchArgs at h
  split at h
  · exact h
  · rename_i q qctx _
    obtain ⟨hother, hbusy, hrt, htaken⟩ := h
    refine ⟨hother, by simpa [accountPrev_eq] using hbusy, ?_, ?_⟩
    · have hsame := s.updDispatchCtx_field m cpu
        (fun dctx => chargeOverride dctx (effectiveTier (some qctx)) (elapsed k.now qctx.startedAt))
        (·.rtBusy) (fun dctx => by rw [chargeOverride_eq]) d
      exact hsame ▸ hrt
    · simpa [accountPrev_eq, cpuTakenByRt] using htaken

-- A dispatch serves the own LC queue of the cpu, if there is nothing to take over.
theorem Inv.own_turn (h : Inv m sys) (hc : c < m.nrCpuIds) (hp : p ∈ sys.queue DSQ_TYPE_LC c)
    {event : Event} (hturn : OwnTurn m c sys event) :
    TakesFrom DSQ_TYPE_LC c p sys ((lunarSys m).exec sys event) event := by
  cases event with
  | dispatch k cpu prev rnd =>
      obtain ⟨rfl, hrt⟩ := hturn
      have hallowed : sys.sched.allowedOn cpu p := h.own_allowed hc DSQ_TYPE_LC (by decide) p hp
      refine ⟨hallowed, ?_⟩
      have hu := dispatchArgs_unmoved m k cpu prev sys.sched
      have hdsq : ((lunarSys m).exec sys (.dispatch k cpu prev rnd)).sched.dsq = _ :=
        lunarDispatch_dsq m k k.now rnd cpu prev sys.sched
      have hwaits : Waits (dispatchArgs m k cpu prev sys.sched).2 cpu DSQ_TYPE_LC cpu :=
        (hu.waits cpu DSQ_TYPE_LC cpu).mpr ⟨p, hp, hallowed⟩
      have hnone : tryAcquireFromRtCpu m (rnd 0) (dispatchArgs m k cpu prev sys.sched).2 DSQ_TYPE_LC cpu
          k.now = none := by
        by_contra hsome
        obtain ⟨s', hs'⟩ := Option.ne_none_iff_exists'.mp hsome
        obtain ⟨d, hd, htake⟩ := (takes_rt m (rnd 0) _ DSQ_TYPE_LC cpu k.now).1 s' hs'
        exact hrt d hd.1.1 hd.of_dispatchArgs ((hu.waits cpu DSQ_TYPE_LC d).mp (.of_takenFrom htake))
      obtain ⟨s', hs'⟩ : ∃ s', takeFromLocalTier m (dispatchArgs m k cpu prev sys.sched).2 DSQ_TYPE_LC
          cpu k.now = some s' := by
        by_contra hno
        exact (takes_local m _ DSQ_TYPE_LC cpu k.now).2
          (Option.eq_none_iff_forall_ne_some.mpr fun s' hs' => hno ⟨s', hs'⟩) cpu rfl hwaits
      obtain ⟨d, rfl, htake⟩ := (takes_local m _ DSQ_TYPE_LC cpu k.now).1 s' hs'
      obtain ⟨q, hm⟩ := htake.moved ⟨rfl, rfl, fun _ => rfl⟩ (by decide) (Or.inl rfl)
      have hm := hu.moved hm
      have hresult : dispatchDsqPerCpu m rnd (dispatchArgs m k d prev sys.sched).2 d
          (dispatchArgs m k d prev sys.sched).1 k.now = (DSQ_TYPE_LC, s') := by
        simp only [dispatchDsqPerCpu, returnIf, hnone, hs']
      have hmem := List.mem_of_find?_eq_some hm.first
      unfold Sys.queue
      rw [hdsq, hresult, hm.dsq_source, List.length_eraseP_of_mem hmem (List.find?_some hm.first)]
      exact Nat.sub_lt (List.length_pos_of_mem hmem) Nat.one_pos
  | _ => exact hturn.elim

end Turns

section Waiting

variable {m : Machine} {start before : Sys} {after : Sys × RankLog} {t c : Nat} {p : Task}

theorem Inv.ranked (hinv : Inv m before) (hp : p ∈ before.queue t c)
    (hwaits : (waitSys m t c p).Reaches (before, .empty) after) :
    Inv m after.1 ∧ p ∈ after.1.queue t c ∧
      (after.1.queue t c).idxOf p + after.2.taken ≤ (before.queue t c).idxOf p + after.2.jumped := by
  refine TransitionSystem.invariant_of_reaches _ (P := fun state : Sys × RankLog =>
    Inv m state.1 ∧ p ∈ state.1.queue t c ∧
      (state.1.queue t c).idxOf p + state.2.taken ≤ (before.queue t c).idxOf p + state.2.jumped)
    ?_ ⟨hinv, hp, le_rfl⟩ hwaits
  rintro ⟨sys, log⟩ event ⟨hinv, hp, hle⟩ ⟨he, hstay⟩
  have hrank := hinv.rank_step he hp hstay
  refine ⟨hinv.step (hinv.stepped he), hstay, ?_⟩
  dsimp only at hle hrank ⊢
  change (((lunarSys m).exec sys event).queue t c).idxOf p +
      (watchRank m t c p log sys event ((lunarSys m).exec sys event)).taken ≤
    _ + (watchRank m t c p log sys event ((lunarSys m).exec sys event)).jumped
  omega

-- In every run in which p stays in a queue, no more tasks are taken out of it for cpus p
-- may run on than were in front of p and jumped the queue: nothing else overtakes p.
theorem overtaken_bounded (hstart : Sys.Start m start) (hreach : (lunarSys m).Reaches start before)
    (hp : p ∈ before.queue t c) (hwaits : (waitSys m t c p).Reaches (before, .empty) after) :
    (after.1.queue t c).idxOf p + after.2.taken ≤ (before.queue t c).idxOf p + after.2.jumped := by
  obtain ⟨-, -, hrank⟩ := (Inv.reaches hstart hreach).ranked hp hwaits
  exact hrank

-- Task 4 waits behind task 3, which goes first, after what is ahead of both.
def behindThird : List Event := beforeLast ++ [.enqueue (.task 30 0 1) 4 ⟨true, false⟩ ⟨none, 0⟩]

def queuedBehind : Sys := (lunarSys oneCpu).final oneCpuBoot behindThird

def thirdServed : List Event :=
  goToSleep (.task 40 0 1) 1 ++ pickNext (.task 40 0 0) 2 ++ goToSleep (.task 50 0 2) 2 ++
    pickNext (.task 50 0 0) 3

theorem overtaken_bounded_thirdServed :
    let after := (waitSys oneCpu DSQ_TYPE_GREEDY 0 4).final (queuedBehind, .empty) thirdServed
    queuedBehind.queue DSQ_TYPE_GREEDY 0 = [3, 4] ∧ after.2.taken = 1 ∧
      (after.1.queue DSQ_TYPE_GREEDY 0).idxOf 4 + after.2.taken ≤ 1 + after.2.jumped := by
  have hstart : Sys.Start oneCpu oneCpuBoot := Sys.start_boot oneCpu (by decide) fun _ => rfl
  have hreach : (lunarSys oneCpu).Reaches oneCpuBoot queuedBehind := ⟨behindThird, by decide +kernel, rfl⟩
  have hqueue : queuedBehind.queue DSQ_TYPE_GREEDY 0 = [3, 4] := by decide +kernel
  have hbound := overtaken_bounded hstart hreach (t := DSQ_TYPE_GREEDY) (c := 0) (p := 4)
    (by rw [hqueue]; simp) ⟨thirdServed, by decide +kernel, rfl⟩
  rw [hqueue] at hbound
  exact ⟨hqueue, by decide +kernel, hbound⟩

-- A task in the LC queue of a cpu waits at most for the tasks in front of it and those that
-- jump the queue, one dispatch of the cpu for each, but for dispatches that take an LC task
-- over from a cpu taken by an RT task.
theorem lc_served_in_turn (hstart : Sys.Start m start) (hreach : (lunarSys m).Reaches start before)
    (hc : c < m.nrCpuIds) (hp : p ∈ before.queue DSQ_TYPE_LC c)
    (hwaits : (waitSys m DSQ_TYPE_LC c p).Reaches (before, .empty) after) :
    (after.1.queue DSQ_TYPE_LC c).idxOf p + after.2.turns ≤
      (before.queue DSQ_TYPE_LC c).idxOf p + after.2.jumped := by
  have hinv := Inv.reaches hstart hreach
  have hturns : Inv m after.1 ∧ p ∈ after.1.queue DSQ_TYPE_LC c ∧ after.2.turns ≤ after.2.taken := by
    refine TransitionSystem.invariant_of_reaches _ (P := fun state : Sys × RankLog =>
      Inv m state.1 ∧ p ∈ state.1.queue DSQ_TYPE_LC c ∧ state.2.turns ≤ state.2.taken)
      ?_ ⟨hinv, hp, le_rfl⟩ hwaits
    rintro ⟨sys, log⟩ event ⟨hinv, hp, hle⟩ ⟨he, hstay⟩
    refine ⟨hinv.step (hinv.stepped he), hstay, Nat.add_le_add hle ?_⟩
    by_cases hturn : OwnTurn m c sys event
    · rw [if_pos hturn, if_pos (hinv.own_turn hc hp hturn)]
    · rw [if_neg hturn]
      exact Nat.zero_le _
  obtain ⟨-, -, hrank⟩ := hinv.ranked hp hwaits
  omega

-- Threads 2 and 3 have woken many tasks, and are both woken up later.
def threadsBoot : Sys := .boot oneCpu 10 fun p => { oneCpuTask p with kthread := true }

def wakesMany (now : Nat) (p first : Task) : List Event :=
  .initTask (.task now 0 0) p :: wakeUp (.task now 0 0) p 0 ++ pickNext (.task now 0 0) p ++
    (List.range 13).flatMap (fun i =>
      [.initTask (.task now 0 p) (first + i), .runnable (.task now 0 p) (first + i) true 0]) ++
    goToSleep (.task now 0 p) p

def bothWoken : List Event :=
  wakesMany 10 2 10 ++ wakesMany 10 3 30 ++ wakeUp (.task 100000000 0 0) 2 0 ++
    wakeUp (.task 100000000 0 0) 3 0

def bothWaiting : Sys := (lunarSys oneCpu).final threadsBoot bothWoken

def otherServed : List Event := pickNext (.task 100000002 0 0) 2 ++ goToSleep (.task 100000003 0 2) 2

theorem lc_served_in_turn_otherServed :
    let after := (waitSys oneCpu DSQ_TYPE_LC 0 3).final (bothWaiting, .empty) otherServed
    bothWaiting.queue DSQ_TYPE_LC 0 = [2, 3] ∧ after.2.turns = 1 ∧
      (after.1.queue DSQ_TYPE_LC 0).idxOf 3 + after.2.turns ≤ 1 + after.2.jumped := by
  have hstart : Sys.Start oneCpu threadsBoot := Sys.start_boot oneCpu (by decide) fun _ => rfl
  have hreach : (lunarSys oneCpu).Reaches threadsBoot bothWaiting := ⟨bothWoken, by decide +kernel, rfl⟩
  have hqueue : bothWaiting.queue DSQ_TYPE_LC 0 = [2, 3] := by decide +kernel
  have hbound := lc_served_in_turn hstart hreach (c := 0) (p := 3) (by decide) (by rw [hqueue]; simp)
    ⟨otherServed, by decide +kernel, rfl⟩
  rw [hqueue] at hbound
  exact ⟨hqueue, by decide +kernel, hbound⟩

end Waiting

end Lunar
