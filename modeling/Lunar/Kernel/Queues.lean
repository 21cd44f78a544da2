import Lunar.Callbacks.Placement
import Lunar.Kernel.Token
import Lunar.Kernel.Drain
import Lunar.Kernel.Starvation
import Lunar.Library.Run

namespace Lunar

-- The DSQs as an abstract set of queues: what every event does to them, in the terms of
-- Queues.

-- No task goes to a DSQ or leaves one.
def Event.keepsQueues : Event → Prop
  | .initTask _ _ | .setAttributes _ _ | .selectCpu _ _ _ _ | .runnable _ _ _ _ | .consumeSlice _ _
  | .stopping _ _ _ | .schedSwitch _ _ _ => True
  | .enqueue _ _ _ _ | .enqueueLocal _ _ | .insertDirect _ | .restore _ | .putBack _
  | .dispatch _ _ _ _ | .running _ _ | .quiescent _ _ _ => False

inductive QueueMoves (m : Machine) (sys : Sys) : Event → List (Queues.Move DsqId Task) → Prop where
  | quiet {event : Event} (h : event.keepsQueues) : QueueMoves m sys event []
  -- off the local DSQ, if the kernel took it off there, and into a queue of a tier
  | enqueue {k : Call} {p : Task} {flags : EnqFlags} {env : PickEnv} {t c : Nat} (ht : IsTier t)
      (hc : c < m.nrCpuIds) (honline : cpuIsOnline m c) (hallowed : sys.sched.allowedOn c p) :
      QueueMoves m sys (.enqueue k p flags env)
        [.remove p, .push (getCpuDsqFromType t c) (resumesAtHead sys.sched p || flags.head) p]
  | enqueueLocal {p : Task} {slice : Nat} :
      QueueMoves m sys (.enqueueLocal p slice) [.remove p, .push (.localOn (sys.cpuOf p)) false p]
  | insertDirect {p : Task} :
      QueueMoves m sys (.insertDirect p) [.push (.localOn (sys.cpuOf p)) false p]
  | restore {p : Task} : QueueMoves m sys (.restore p) [.push (.localOn (sys.cpuOf p)) false p]
  | putBack {p : Task} : QueueMoves m sys (.putBack p) [.push (.localOn (sys.cpuOf p)) true p]
  | dispatch {k : Call} {cpu : Nat} {prev : Option Task} {rnd : Nat → Nat} {t c : Nat} (ht : IsTier t)
      (hsource : Source m cpu c) :
      QueueMoves m sys (.dispatch k cpu prev rnd)
        [.take (getCpuDsqFromType t c) (.localOn cpu) (sys.sched.allowedOn cpu)]
  | fruitless {k : Call} {cpu : Nat} {prev : Option Task} {rnd : Nat → Nat} :
      QueueMoves m sys (.dispatch k cpu prev rnd) []
  | running {k : Call} {p : Task} : QueueMoves m sys (.running k p) [.remove p]
  | quiescent {k : Call} {p : Task} {sleep : Bool} : QueueMoves m sys (.quiescent k p sleep) [.remove p]

-- The moves of an event lead from the queues before it to those after it.
def Matched (m : Machine) (sys sys' : Sys) (event : Event) : Prop :=
  ∃ moves, QueueMoves m sys event moves ∧ Queues.system.Runs sys.sched.dsq moves ∧
    Queues.system.final sys.sched.dsq moves = sys'.sched.dsq

section Matched

variable {m : Machine} {sys sys' : Sys} {k : Call} {p : Task}

theorem Moved.exec_take {s s' : Sched} {cpu t c now : Nat} {q : Task} (h : Moved m s cpu t c now q s') :
    Queues.exec s.dsq (.take (getCpuDsqFromType t c) (.localOn cpu) (s.allowedOn cpu)) = s'.dsq := by
  have hne := getCpuDsqFromType_ne_localOn t c cpu
  rw [Queues.exec_take hne h.first, h.dsq, Sched.moveTo_dsq hne]

-- At which end lunar_enqueue puts a task.
theorem lunarEnqueue_inserts {s : Sched} (k : Call) (env : PickEnv) (flags : EnqFlags)
    (hp : (s.view p).present) :
    ∃ id, (lunarEnqueue m k env flags p s).dsq =
      Function.update s.dsq id (inserted (resumesAtHead s p || flags.head) p (s.dsq id)) := by
  cases hr : resumesAtHead s p with
  | true =>
      obtain ⟨tctx, s1, hs1, h⟩ := lunarEnqueue_resumes (m := m) k env flags hr
      refine ⟨getCpuDsqFromType (effectiveTier (some tctx)) (s.task p).cpu, ?_⟩
      rw [h, (stampAndInsert_frame ..).1, hs1.dsq]
      rfl
  | false =>
      obtain ⟨v, target, s1, hs1, -, -, h⟩ := lunarEnqueue_places (m := m) k env flags hp hr
      have hframe := (enqueueOn_frame m k flags p v.tier target s1).1
      rw [hs1.dsq] at hframe
      exact ⟨_, h ▸ hframe⟩

-- The queue of an insert is the one the task is in afterwards.
theorem insert_inj {dsq : DsqId → List Task} {id id' : DsqId} {head head' : Bool}
    (hout : ∀ i, p ∉ dsq i) (h : Function.update dsq id (inserted head p (dsq id)) =
      Function.update dsq id' (inserted head' p (dsq id'))) : id = id' := by
  by_contra hne
  have hmem : p ∈ Function.update dsq id (inserted head p (dsq id)) id := by
    rw [Function.update_self]
    cases head <;> simp [inserted]
  rw [h, Function.update_of_ne hne] at hmem
  exact hout id hmem

theorem enqueue_phase (h : Inv m sys) {flags : EnqFlags} {env : PickEnv}
    (hg : sys.guard m (.enqueue k p flags env)) : sys.phase p ≠ .none := by
  rcases hg.2 with ⟨(hp | ⟨hp, -⟩), -⟩ | ⟨hp, -⟩ | ⟨hp, -⟩
  · simp [hp]
  · simp [hp]
  · simp [hp]
  · simp [(h.members _ p hp).phase]

theorem Inv.matched_enqueue (h : Inv m sys) {flags : EnqFlags} {env : PickEnv}
    (he : (lunarSys m).enabled sys (.enqueue k p flags env)) :
    Matched m sys ((lunarSys m).exec sys (.enqueue k p flags env)) (.enqueue k p flags env) := by
  have hs := h.stepped he
  have hpresent : ((sys.unlink p).sched.view p).present := h.present (enqueue_phase h he.2)
  obtain ⟨id, hinsert⟩ := lunarEnqueue_inserts (m := m) k env flags hpresent
  have hout := Inv.not_mem_unlink sys p
  generalize hsys' : (lunarSys m).exec sys (.enqueue k p flags env) = sys' at hs ⊢
  have hdsq : sys'.sched.dsq = Function.update (sys.unlink p).sched.dsq id
      (Lunar.inserted (resumesAtHead sys.sched p || flags.head) p ((sys.unlink p).sched.dsq id)) := by
    rw [← hsys']
    exact hinsert
  cases hs with
  | @enqueue _ _ _ _ v target slice head _ hv _ htarget _ _ _ _ henq =>
      have hid : id = getCpuDsqFromType v.tier target := insert_inj hout (hdsq.symm.trans henq.dsq)
      obtain ⟨-, -, htier⟩ := Inv.boosted h.boost_le hpresent hv
      refine ⟨_, .enqueue htier htarget.1 htarget.2.1 htarget.2.2, ⟨trivial, hout, trivial⟩, ?_⟩
      rw [hdsq, hid]
      rfl

theorem Inv.matched_inserted (h : Inv m sys) {head : Bool} (hi : Inserted sys sys' p head)
    (hp : sys.phase p ≠ .queued) :
    Queues.system.Runs sys.sched.dsq [.push (.localOn (sys.cpuOf p)) head p] ∧
      Queues.system.final sys.sched.dsq [.push (.localOn (sys.cpuOf p)) head p] = sys'.sched.dsq :=
  ⟨⟨h.not_mem_of_phase hp, trivial⟩, hi.dsq.symm⟩

theorem Inv.matched (h : Inv m sys) {event : Event} (he : (lunarSys m).enabled sys event) :
    Matched m sys ((lunarSys m).exec sys event) event := by
  have hs := h.stepped he
  cases hs with
  | initTask _ _ _ hqueues _ _ _ _ => exact ⟨[], .quiet trivial, trivial, hqueues.dsq.symm⟩
  | setAttributes _ _ _ hqueues => exact ⟨[], .quiet trivial, trivial, hqueues.dsq.symm⟩
  | selectCpu _ _ _ hqueues _ _ => exact ⟨[], .quiet trivial, trivial, hqueues.dsq.symm⟩
  | runnable _ _ _ _ hdsq _ => exact ⟨[], .quiet trivial, trivial, hdsq.symm⟩
  | enqueue => exact h.matched_enqueue he
  | @enqueueLocal p _ _ _ _ hdsq _ =>
      exact ⟨_, .enqueueLocal, ⟨trivial, Inv.not_mem_unlink sys p, trivial⟩, hdsq.symm⟩
  | insertDirect hp _ hi =>
      exact ⟨_, .insertDirect, h.matched_inserted hi (by rcases hp with hp | hp <;> simp [hp])⟩
  | restore hp hi => exact ⟨_, .restore, h.matched_inserted hi (by simp [hp])⟩
  | putBack hp _ hi => exact ⟨_, .putBack, h.matched_inserted hi (by simp [hp])⟩
  | consumeSlice _ _ _ _ hqueues => exact ⟨[], .quiet trivial, trivial, hqueues.dsq.symm⟩
  | dispatch _ _ _ _ _ hd =>
      rcases hd.moves with ⟨t, c, q, hm⟩ | hdsq
      · have hmem := List.mem_of_find?_eq_some hm.first
        exact ⟨_, .dispatch hm.tier hm.source,
          ⟨⟨getCpuDsqFromType_ne_localOn t c _, q, hmem, List.find?_some hm.first⟩, trivial⟩,
          hm.exec_take⟩
      · exact ⟨[], .fruitless, trivial, hdsq.symm⟩
  | running _ _ _ _ _ _ _ _ hdsq _ => exact ⟨_, .running, ⟨trivial, trivial⟩, hdsq.symm⟩
  | stopping _ _ _ _ _ hdsq _ => exact ⟨[], .quiet trivial, trivial, hdsq.symm⟩
  | quiescent _ _ _ _ hdsq _ => exact ⟨_, .quiescent, ⟨trivial, trivial⟩, hdsq.symm⟩
  | schedSwitch _ _ _ hrt => exact ⟨[], .quiet trivial, trivial, hrt.dsq.symm⟩

end Matched

theorem lunar_queues (m : Machine) :
    (lunarSys m).Refines Queues.system (·.sched.dsq) (Inv m) (QueueMoves m) where
  keeps _ _ hinv he := hinv.step (hinv.stepped he)
  matched _ _ hinv he := hinv.matched he

-- Whatever the callbacks and the kernel do in a run, the DSQs only go through moves of
-- plain queues, beginning with empty ones.
theorem lunar_refines_queues {m : Machine} {start : Sys} (hstart : Sys.Start m start)
    {events : List Event} (hruns : (lunarSys m).Runs start events) :
    ∃ trace, (lunarSys m).Labelled (QueueMoves m) start events trace ∧
      Queues.system.Runs (fun _ => []) trace.flatten ∧
      Queues.system.final (fun _ => []) trace.flatten =
        ((lunarSys m).final start events).sched.dsq := by
  have hempty : start.sched.dsq = fun _ => [] := by
    obtain ⟨s, now, hsched, hdsq, -, -, -⟩ := hstart.sched
    rw [hsched, (lunarInit_spec m now s).dsq]
    exact funext hdsq
  rw [← hempty]
  exact (lunar_queues m).runs (Inv.start hstart) hruns

-- Task 1 runs on the only cpu, and tasks 2 and 3 wait for it.
theorem lunar_refines_queues_lastCome : ∃ trace,
    (lunarSys oneCpu).Labelled (QueueMoves oneCpu) oneCpuBoot beforeLast trace ∧
      Queues.system.final (fun _ => []) trace.flatten (getCpuDsqFromType DSQ_TYPE_GREEDY 0) = [3] := by
  obtain ⟨trace, htrace, -, hfinal⟩ := lunar_refines_queues
    (Sys.start_boot oneCpu (by decide) fun _ => rfl) (show (lunarSys oneCpu).Runs oneCpuBoot beforeLast by
      decide +kernel)
  refine ⟨trace, htrace, ?_⟩
  rw [hfinal]
  decide +kernel

section Conserved

-- The task that an event puts in a DSQ, and the one it takes out of the DSQs.
def Event.arrives : Event → Option Task
  | .enqueue _ p _ _ | .enqueueLocal p _ | .insertDirect p | .restore p | .putBack p => some p
  | .initTask _ _ | .setAttributes _ _ | .selectCpu _ _ _ _ | .runnable _ _ _ _ | .consumeSlice _ _
  | .dispatch _ _ _ _ | .running _ _ | .stopping _ _ _ | .quiescent _ _ _ | .schedSwitch _ _ _ => none

def Event.leaves : Event → Option Task
  | .running _ p | .quiescent _ p _ => some p
  | .initTask _ _ | .setAttributes _ _ | .selectCpu _ _ _ _ | .runnable _ _ _ _ | .enqueue _ _ _ _
  | .enqueueLocal _ _ | .insertDirect _ | .restore _ | .putBack _ | .consumeSlice _ _
  | .dispatch _ _ _ _ | .stopping _ _ _ | .schedSwitch _ _ _ => none

variable {m : Machine} {sys sys' : Sys} {event : Event}

theorem Event.keepsQueues.quiet (h : event.keepsQueues) : event.arrives = none ∧ event.leaves = none := by
  cases event with
  | enqueue | enqueueLocal | insertDirect | restore | putBack | dispatch | running | quiescent =>
      exact h.elim
  | _ => exact ⟨rfl, rfl⟩

-- A push after the task was taken out.
private theorem present_again {dsq : DsqId → List Task} {id : DsqId} {head : Bool} {p q : Task} :
    Queues.Present (Queues.system.final dsq [.remove p, .push id head p]) q ↔
      some p = some q ∨ none ≠ some q ∧ Queues.Present dsq q := by
  have hremove : Queues.Present (Queues.exec dsq (.remove p)) q ↔ _ := Queues.present_remove
  refine Queues.present_push.trans ((or_congr_right hremove).trans ?_)
  rw [Option.some.injEq, eq_comm]
  by_cases hq : p = q
  · exact iff_of_true (Or.inl hq) (Or.inl hq)
  · simp [hq, Ne.symm hq]

theorem Matched.present_iff (h : Matched m sys sys' event) (q : Task) :
    Queues.Present sys'.sched.dsq q ↔
      event.arrives = some q ∨ event.leaves ≠ some q ∧ Queues.Present sys.sched.dsq q := by
  obtain ⟨moves, hmoves, hruns, hfinal⟩ := h
  rw [← hfinal]
  cases hmoves with
  | quiet hquiet => simp [hquiet.quiet]
  | enqueue _ _ _ _ => exact present_again
  | enqueueLocal => exact present_again
  | insertDirect => exact Queues.present_push.trans (by simp [Event.arrives, Event.leaves, eq_comm])
  | restore => exact Queues.present_push.trans (by simp [Event.arrives, Event.leaves, eq_comm])
  | putBack => exact Queues.present_push.trans (by simp [Event.arrives, Event.leaves, eq_comm])
  | dispatch _ _ =>
      exact (Queues.present_take hruns.1).trans (by simp [Event.arrives, Event.leaves])
  | fruitless => simp [Event.arrives, Event.leaves]
  | running => exact Queues.present_remove.trans (by simp [Event.arrives, Event.leaves, eq_comm])
  | quiescent => exact Queues.present_remove.trans (by simp [Event.arrives, Event.leaves, eq_comm])

-- The phases tell the same.
theorem Step.queued_iff (hs : Step m sys sys' event) (q : Task) :
    sys'.phase q = .queued ↔
      event.arrives = some q ∨ event.leaves ≠ some q ∧ sys.phase q = .queued := by
  have hchanged {p : Task} {phase : Phase} {v : TaskView} {task : TaskStruct}
      (hc : Changed sys sys' p phase v task)
      (hself : phase = .queued ↔ event.arrives = some p ∨ event.leaves ≠ some p ∧ sys.phase p = .queued)
      (hother : q ≠ p → event.arrives ≠ some q ∧ event.leaves ≠ some q) :
      sys'.phase q = .queued ↔ event.arrives = some q ∨ event.leaves ≠ some q ∧ sys.phase q = .queued := by
    rw [hc.phase, Function.update_apply]
    split_ifs with hq
    · rw [hq]
      exact hself
    · simp [hother hq]
  have hne {p : Task} (hq : q ≠ p) : some p ≠ some q := fun he => hq (Option.some.inj he).symm
  cases hs with
  | initTask hphase h _ _ _ _ _ _ =>
      exact hchanged h (by simp [hphase, Event.arrives]) fun _ => by simp [Event.arrives, Event.leaves]
  | setAttributes _ h _ _ =>
      exact hchanged h (by simp [Event.arrives, Event.leaves]) fun _ => by
        simp [Event.arrives, Event.leaves]
  | selectCpu hphase h _ _ _ _ =>
      exact hchanged h (by simp [hphase, Event.arrives]) fun _ => by simp [Event.arrives, Event.leaves]
  | runnable hphase _ h _ _ _ =>
      exact hchanged h (by simp [hphase, Event.arrives]) fun _ => by simp [Event.arrives, Event.leaves]
  | enqueue _ _ _ _ _ h _ _ _ =>
      exact hchanged h (by simp [Event.arrives]) fun hq => ⟨hne hq, by simp [Event.leaves]⟩
  | enqueueLocal _ h _ _ _ =>
      exact hchanged h (by simp [Event.arrives]) fun hq => ⟨hne hq, by simp [Event.leaves]⟩
  | insertDirect _ _ hi =>
      exact hchanged hi.changed (by simp [Event.arrives]) fun hq => ⟨hne hq, by simp [Event.leaves]⟩
  | restore _ hi =>
      exact hchanged hi.changed (by simp [Event.arrives]) fun hq => ⟨hne hq, by simp [Event.leaves]⟩
  | putBack _ _ hi =>
      exact hchanged hi.changed (by simp [Event.arrives]) fun hq => ⟨hne hq, by simp [Event.leaves]⟩
  | consumeSlice hphase _ h _ _ =>
      exact hchanged h (by simp [hphase, Event.arrives]) fun _ => by simp [Event.arrives, Event.leaves]
  | dispatch _ _ _ hphase _ _ => simp [hphase, Event.arrives, Event.leaves]
  | running _ _ _ _ h _ _ _ _ _ =>
      exact hchanged h (by simp [Event.arrives, Event.leaves]) fun hq => ⟨by simp [Event.arrives], hne hq⟩
  | @stopping _ _ runnable _ hphase h _ _ _ _ _ =>
      refine hchanged h ?_ fun _ => by simp [Event.arrives, Event.leaves]
      cases runnable <;> simp [hphase, Event.arrives]
  | quiescent _ _ h _ _ _ =>
      exact hchanged h (by simp [Event.arrives, Event.leaves]) fun hq => ⟨by simp [Event.arrives], hne hq⟩
  | schedSwitch hphase _ _ _ => simp [hphase, Event.arrives, Event.leaves]

-- The tasks that wait for a cpu are those in the DSQs.
def AllPlaced (sys : Sys) : Prop :=
  ∀ p, sys.phase p = .queued ↔ Queues.Present sys.sched.dsq p

theorem AllPlaced.reaches {start : Sys} (hstart : Sys.Start m start)
    (hreach : (lunarSys m).Reaches start sys) : Inv m sys ∧ AllPlaced sys := by
  have hinv := Inv.start hstart
  refine (lunarSys m).invariant_of_reaches (P := fun sys => Inv m sys ∧ AllPlaced sys) ?_ ⟨hinv, ?_⟩ hreach
  · rintro state event ⟨hinv, hplaced⟩ he
    have hs := hinv.stepped he
    refine ⟨hinv.step hs, fun p => ?_⟩
    rw [hs.queued_iff, (hinv.matched he).present_iff, hplaced p]
  · intro p
    rw [hstart.phase p]
    exact iff_of_false (by simp) fun ⟨id, hid⟩ => by simpa [hstart.phase p] using (hinv.members id p hid).phase

-- No task gets lost or is there twice: in every reachable state, a task that waits for a
-- cpu is in one DSQ, once, a task that runs is on one cpu, and no other is anywhere.
theorem tasks_conserved {start : Sys} (hstart : Sys.Start m start)
    (hreach : (lunarSys m).Reaches start sys) (p : Task) :
    (sys.phase p = .queued → (∃! id, p ∈ sys.sched.dsq id) ∧
      ∀ id, p ∈ sys.sched.dsq id → (sys.sched.dsq id).count p = 1) ∧
    (sys.phase p = .running → ∃! c, sys.onCpu c = some p) ∧
    (sys.phase p ≠ .queued → ∀ id, p ∉ sys.sched.dsq id) ∧
    (sys.phase p ≠ .running → ∀ c, sys.onCpu c ≠ some p) := by
  obtain ⟨hinv, hplaced⟩ := AllPlaced.reaches hstart hreach
  refine ⟨fun hp => ⟨?_, ?_⟩, fun hp => ?_, ?_, ?_⟩
  · obtain ⟨id, hid⟩ := (hplaced p).mp hp
    exact ⟨id, hid, fun id' hid' => hinv.unique id' id p hid' hid⟩
  · intro id hid
    exact List.count_eq_one_of_mem (hinv.nodup id) hid
  · refine ⟨sys.cpuOf p, (hinv.onCpu _ p).mpr ⟨hp, rfl⟩, fun c hc => ?_⟩
    exact ((hinv.onCpu c p).mp hc).2.symm
  · exact fun hp id => hinv.not_mem_of_phase hp id
  · exact fun hp c hc => hp ((hinv.onCpu c p).mp hc).1

theorem tasks_conserved_lastCome :
    (∃! id, 3 ∈ lastCome.sched.dsq id) ∧ (∃! c, lastCome.onCpu c = some 1) ∧ lastCome.onCpu 0 ≠ some 4 := by
  have hstart : Sys.Start oneCpu oneCpuBoot := Sys.start_boot oneCpu (by decide) fun _ => rfl
  have hreach : (lunarSys oneCpu).Reaches oneCpuBoot lastCome := ⟨beforeLast, by decide +kernel, rfl⟩
  refine ⟨((tasks_conserved hstart hreach 3).1 ?_).1, (tasks_conserved hstart hreach 1).2.1 ?_,
    (tasks_conserved hstart hreach 4).2.2.2 ?_ 0⟩
  · decide +kernel
  · decide +kernel
  · decide +kernel

end Conserved

end Lunar
