import Lunar.Kernel.Accounting
import Lunar.Library.Counting
import Mathlib.Algebra.Order.BigOperators.Group.Finset
import Mathlib.Algebra.Group.Action.Defs

namespace Lunar

-- The time a task has run so far: what was accounted to it, and, while it runs, what has
-- still to be accounted.
def Life.used (life : Life) (clock : Nat) : Nat :=
  life.accounted + if life.phase = .running then clock - life.view.startedAt else 0

-- An observer with a watch for each cpu, that goes while the cpu runs one of the tasks.
def watchBusy (tasks : Finset Task) (busy : Nat → Nat) (sys : Sys) (_ : Event) (sys' : Sys) : Nat → Nat :=
  fun cpu => busy cpu + if ∃ p ∈ tasks, sys.onCpu cpu = some p then sys'.clock - sys.clock else 0

-- started_at of a running task is not ahead of the clock.
def Life.Started (life : Life) (clock : Nat) : Prop :=
  life.phase = .running → life.view.startedAt ≤ clock

-- The time between two states was given to the task if it ran.
structure Life.Passed (life life' : Life) (clock clock' : Nat) : Prop where
  used : life'.used clock' = life.used clock + if life.phase = .running then clock' - clock else 0
  started : life'.Started clock'

section Used

variable {sys sys' : Sys} {p : Task} {event : Event} {life life' : Life} {clock clock' : Nat}

theorem Life.used_off (h : life.phase ≠ .running) : life.used clock = life.accounted := by
  simp [Life.used, h]

theorem Life.used_running (h : life.phase = .running) :
    life.used clock = life.accounted + (clock - life.view.startedAt) := by
  simp [Life.used, h]

theorem Life.accounted_same (h : life'.charges = life.charges) : life'.accounted = life.accounted := by
  rw [Life.accounted, h]
  rfl

theorem Life.Passed.quiet (haccounted : life'.accounted = life.accounted) (hold : life.phase ≠ .running)
    (hnew : life'.phase ≠ .running) : life.Passed life' clock clock' where
  used := by rw [if_neg hold, used_off hold, used_off hnew, haccounted, Nat.add_zero]
  started hr := absurd hr hnew

-- A task that runs on is not accounted to yet.
theorem Life.Passed.on (hcharges : life'.charges = life.charges) (hold : life.phase = .running)
    (hnew : life'.phase = .running) (hsame : life'.view.startedAt = life.view.startedAt)
    (hstarted : life.Started clock) (hclock : clock ≤ clock') : life.Passed life' clock clock' where
  used := by
    have hle := hstarted hold
    rw [if_pos hold, used_running hold, used_running hnew, accounted_same hcharges, hsame]
    omega
  started _ := hsame ▸ Nat.le_trans (hstarted hold) hclock

-- One that is accounted to stops, or goes on from there.
theorem Life.Passed.charge
    (hcharges : life'.charges = (elapsed clock' life.view.startedAt, 0) :: life.charges)
    (hold : life.phase = .running) (hnew : life'.phase = .running → life'.view.startedAt = clock')
    (hstarted : life.Started clock) (hclock : clock ≤ clock') : life.Passed life' clock clock' where
  used := by
    have hle := hstarted hold
    have hself : life'.used clock' = life'.accounted := by
      by_cases hphase : life'.phase = .running
      · rw [used_running hphase, hnew hphase, Nat.sub_self, Nat.add_zero]
      · exact used_off hphase
    have haccounted : life'.accounted = life.accounted + (clock' - life.view.startedAt) := by
      simp [Life.accounted, hcharges, elapsed_eq, Nat.add_comm]
    rw [if_pos hold, hself, haccounted, used_running hold]
    omega
  started hr := Nat.le_of_eq (hnew hr)

theorem LifeStep.passed (hl : LifeStep sys p (sys'.life p) event) (hclock : sys.clock ≤ sys'.clock)
    (htime : sys'.clock = event.time sys.clock) (hstarted : (sys.life p).Started sys.clock) :
    (sys.life p).Passed (sys'.life p) sys.clock sys'.clock := by
  cases hl with
  | same _ h' =>
      by_cases hphase : sys.phase p = .running
      · exact .on (by rw [h']) hphase (by rw [h']; exact hphase) (by rw [h']) hstarted hclock
      · exact .quiet (by rw [h']) hphase (by rw [h']; exact hphase)
  | initTask hphase h' =>
      exact .quiet (Life.accounted_same (by rw [h'])) (by simp [Sys.life, hphase]) (by simp [h'])
  | selectCpu hphase h' =>
      have hoff : (sys.life p).phase ≠ .running := by simp [Sys.life, hphase]
      exact .quiet (Life.accounted_same (by rw [h'])) hoff (by rw [h']; exact hoff)
  | runnable hphase h' =>
      refine .quiet ?_ (by simp [Sys.life, hphase]) (by simp [h'])
      rw [h']
      dsimp only [Life.accounted]
      split_ifs <;> simp [Sys.life]
  | enqueue hphase _ _ _ h' =>
      refine .quiet (Life.accounted_same (by rw [h'])) ?_ (by simp [h'])
      rcases hphase with (hp | hp) | ⟨hp, -⟩ | hp <;> simp [Sys.life, hp]
  | enqueueLocal hphase h' =>
      refine .quiet (Life.accounted_same (by rw [h'])) ?_ (by simp [h'])
      rcases hphase with (hp | hp) | hp | hp <;> simp [Sys.life, hp]
  | insertDirect hphase _ h' =>
      refine .quiet (Life.accounted_same (by rw [h'])) ?_ (by simp [h'])
      rcases hphase with hp | hp <;> simp [Sys.life, hp]
  | restore hphase h' =>
      exact .quiet (Life.accounted_same (by rw [h'])) (by simp [Sys.life, hphase]) (by simp [h'])
  | putBack hphase _ h' =>
      exact .quiet (Life.accounted_same (by rw [h'])) (by simp [Sys.life, hphase]) (by simp [h'])
  | consumeSlice hphase _ h' =>
      exact .on (by rw [h']) hphase (by rw [h']; exact hphase) (by rw [h']) hstarted hclock
  | @replaced k _ _ _ _ _ hphase _ h' =>
      have hnow : sys'.clock = k.now := htime
      rw [← hnow] at h'
      exact .charge (by rw [h']; rfl) hphase (fun _ => by rw [h']; rfl) hstarted hclock
  | @continued k _ _ _ _ _ _ hphase _ h' =>
      have hnow : sys'.clock = k.now := htime
      rw [← hnow] at h'
      exact .charge (by rw [h']; rfl) hphase (fun _ => by rw [h']; rfl) hstarted hclock
  | @running k hphase h' =>
      have hnow : sys'.clock = k.now := htime
      rw [← hnow] at h'
      have hold : (sys.life p).phase ≠ .running := by simp [Sys.life, hphase]
      have hstart : (sys'.life p).view.startedAt = sys'.clock := by rw [h']
      have haccounted : (sys'.life p).accounted = (sys.life p).accounted := Life.accounted_same (by rw [h'])
      refine ⟨?_, fun _ => Nat.le_of_eq hstart⟩
      rw [if_neg hold, Life.used_running (by rw [h']), hstart, Nat.sub_self, Life.used_off hold, haccounted]
  | @stopping k runnable _ hphase h' =>
      have hnow : sys'.clock = k.now := htime
      rw [← hnow] at h'
      refine .charge (by rw [h']; rfl) hphase (fun hr => ?_) hstarted hclock
      rw [h'] at hr
      cases runnable <;> simp at hr
  | quiescent hphase _ h' =>
      refine .quiet (Life.accounted_same (by rw [h'])) ?_ (by simp [h'])
      rcases hphase with hp | hp <;> simp [Sys.life, hp]

end Used

-- What the watches show agrees with the tasks.
structure BusyOk (m : Machine) (tasks : Finset Task) (origin : Nat) (sys : Sys) (busy : Nat → Nat) :
    Prop where
  started : ∀ p, (sys.life p).Started sys.clock
  sum : (tasks.sum fun p => (sys.life p).used sys.clock) = (Finset.range m.nrCpuIds).sum busy
  elapsed : ∀ cpu, busy cpu + origin ≤ sys.clock

theorem BusyOk.start {m : Machine} {sys : Sys} (h : Sys.Start m sys) (tasks : Finset Task) :
    BusyOk m tasks sys.clock sys fun _ => 0 where
  started p hr := by simp [Sys.life, h.phase] at hr
  sum := by
    have hused (p : Task) : (sys.life p).used sys.clock = 0 := by
      have hledger := LedgerOk.start h p
      rw [Life.used_off (by simp [Sys.life, h.phase]), (hledger.off rfl).2]
      rfl
    simp [hused]
  elapsed := by simp

theorem BusyOk.step {m : Machine} {tasks : Finset Task} {origin : Nat} {sys sys' : Sys} {busy : Nat → Nat}
    {event : Event} (h : BusyOk m tasks origin sys busy) (hinv : Inv m sys) (hs : Step m sys sys' event)
    (hclock : sys.clock ≤ sys'.clock) (htime : sys'.clock = event.time sys.clock) :
    BusyOk m tasks origin sys' (watchBusy tasks busy sys event sys') where
  started p := ((hs.life hinv p).passed hclock htime (h.started p)).started
  sum := by
    have hused (p : Task) := ((hs.life hinv p).passed hclock htime (h.started p)).used
    have hcpu (p : Task) (hp : sys.phase p = .running) : sys.cpuOf p ∈ Finset.range m.nrCpuIds :=
      Finset.mem_range.mpr ((hinv.tasks p).cpu (by simp [hp, Phase.active]))
    exact Serving.sum_conserved hinv.onCpu hcpu hused (fun _ => rfl) h.sum
  elapsed cpu := by
    have hcpu := h.elapsed cpu
    unfold watchBusy
    split_ifs <;> omega

-- Cpu time is neither made nor lost: what any tasks have run together is what the cpus
-- spent on them, and no cpu spends more time than there is.
theorem cpu_time_shared {m : Machine} {start : Sys} {tasks : Finset Task} {state : Sys × (Nat → Nat)}
    (hstart : Sys.Start m start)
    (hreach : ((lunarSys m).observe (watchBusy tasks)).Reaches (start, fun _ => 0) state) :
    (tasks.sum fun p => (state.1.life p).used state.1.clock) =
        ((Finset.range m.nrCpuIds).sum fun cpu => state.2 cpu) ∧
      (∀ cpu, state.2 cpu ≤ state.1.clock - start.clock) ∧
      (tasks.sum fun p => (state.1.life p).accounted) ≤ m.nrCpuIds * (state.1.clock - start.clock) := by
  have h := (Inv.always_observed (P := BusyOk m tasks start.clock)
    (fun _ _ _ _ hinv hok hs hclock htime => hok.step hinv hs hclock htime) hstart
    (BusyOk.start hstart tasks) hreach).2
  have hbusy (cpu : Nat) : state.2 cpu ≤ state.1.clock - start.clock := Nat.le_sub_of_add_le (h.elapsed cpu)
  refine ⟨h.sum, hbusy, ?_⟩
  calc (tasks.sum fun p => (state.1.life p).accounted)
      ≤ tasks.sum fun p => (state.1.life p).used state.1.clock :=
        Finset.sum_le_sum fun p _ => Nat.le_add_right ..
    _ = (Finset.range m.nrCpuIds).sum state.2 := h.sum
    _ ≤ (Finset.range m.nrCpuIds).card • (state.1.clock - start.clock) :=
        Finset.sum_le_card_nsmul _ _ _ fun cpu _ => hbusy cpu
    _ = m.nrCpuIds * (state.1.clock - start.clock) := by rw [Finset.card_range, smul_eq_mul]

def runThenSleepBusy : Sys × (Nat → Nat) :=
  ((lunarSys oneCpu).observe (watchBusy {1})).final (oneCpuBoot, fun _ => 0) runThenSleep

theorem cpu_time_shared_runThenSleep :
    runThenSleepBusy.2 0 = 1500000 ∧ (runThenSleepBusy.1.life 1).used runThenSleepBusy.1.clock = 1500000 ∧
      (runThenSleepBusy.1.life 1).accounted ≤ 1 * (runThenSleepBusy.1.clock - oneCpuBoot.clock) := by
  have hreach : ((lunarSys oneCpu).observe (watchBusy {1})).Reaches (oneCpuBoot, fun _ => 0)
      runThenSleepBusy := ⟨runThenSleep, by decide +kernel, rfl⟩
  have hstart : Sys.Start oneCpu oneCpuBoot := Sys.start_boot oneCpu (by decide) fun _ => rfl
  obtain ⟨hsum, -, hle⟩ := cpu_time_shared hstart hreach
  have hbusy : runThenSleepBusy.2 0 = 1500000 := by decide +kernel
  have hone : oneCpu.nrCpuIds = 1 := rfl
  rw [Finset.sum_singleton, hone, Finset.sum_range_one] at hsum
  rw [Finset.sum_singleton, hone] at hle
  exact ⟨hbusy, hsum.trans hbusy, hle⟩

end Lunar
