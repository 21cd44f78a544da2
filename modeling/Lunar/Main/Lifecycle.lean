import Lunar.Main

namespace Lunar

section Lifecycle

variable {fields : ExitFields} {proc : Proc} {log : ProcLog}

-- main is not between two calls of run_once, and not over.
def Pc.inRunOnce : Pc → Bool
  | .opening | .preparing | .topology | .loading | .attaching | .polling | .looking | .reporting _
  | .restarting | .destroying _ | .aborted => true
  | .announcing _ | .looping _ | .exited _ => false

-- What run_once returned so far, as main goes on with it at every statement.
def Pc.Followed (stop : Bool) (results : List RunResult) : Pc → Prop
  | .announcing result | .looping result =>
      ∃ rest, results = result :: rest ∧ ∀ r ∈ rest, r = .restart
  | .exited code => ∃ last rest, results = last :: rest ∧ (∀ r ∈ rest, r = .restart) ∧
      code = (if last = .failed then 1 else 0) ∧ (last = .restart → stop)
  | _ => ∀ r ∈ results, r = .restart

structure LifeOk (proc : Proc) (log : ProcLog) : Prop where
  balance : log.opened = log.destroyed + if proc.skel.isSome then 1 else 0
  results : proc.pc.Followed proc.stop log.results

theorem LifeOk.start : LifeOk .start .empty := ⟨rfl, by simp [Proc.start, ProcLog.empty, Pc.Followed]⟩

theorem Pc.Followed.signal {pc : Pc} {stop : Bool} {results : List RunResult} (h : pc.Followed stop results) :
    pc.Followed true results := by
  cases pc with
  | exited code =>
      obtain ⟨last, rest, hlast, hrest, hcode, -⟩ := h
      exact ⟨last, rest, hlast, hrest, hcode, fun _ => rfl⟩
  | _ => exact h

-- main only calls run_once again after a restart.
theorem Pc.Followed.restarted {pc : Pc} {stop : Bool} {results : List RunResult}
    (h : pc.Followed stop results) :
    (∀ r ∈ results.tail, r = .restart) ∧ (pc.inRunOnce → ∀ r ∈ results, r = .restart) := by
  cases pc with
  | announcing | looping =>
      obtain ⟨rest, rfl, hrest⟩ := h
      exact ⟨hrest, nofun⟩
  | exited code =>
      obtain ⟨last, rest, rfl, hrest, -⟩ := h
      exact ⟨hrest, nofun⟩
  | _ => exact ⟨fun r hr => h r (List.mem_of_mem_tail hr), fun _ => h⟩

theorem LifeOk.step (h : LifeOk proc log) (hok : ProcOk fields proc) {event : ProcEvent}
    (hg : proc.guard event) :
    LifeOk (proc.exec fields event) (watchProc log proc event (proc.exec fields event)) := by
  obtain ⟨hbalance, hresults⟩ := h
  have hs := hok.step hg
  generalize proc.exec fields event = proc' at hs ⊢
  cases hs with
  | @signal pc =>
      refine ⟨hbalance, ?_⟩
      cases pc with
      | announcing result => simpa [watchProc] using hresults.signal
      | _ => exact hresults.signal
  | @exit pc | @record pc =>
      have hready := (hok.held _ rfl).2
      cases pc with
      | opening | announcing | looping | exited => exact hready.elim
      | _ => exact ⟨hbalance, hresults⟩
  | opened => exact ⟨congrArg (· + 1) hbalance, hresults⟩
  | refused | destroyed => exact ⟨hbalance, log.results, rfl, hresults⟩
  | announced | prepared | aborted | tables | noTables | loaded | notLoaded | attached | notAttached | stopped | polled | unseen
  | found | printed | reported | decided => exact ⟨hbalance, hresults⟩
  | again =>
      obtain ⟨rest, hlast, hrest⟩ := hresults
      refine ⟨hbalance, ?_⟩
      change ∀ r ∈ log.results, r = .restart
      rw [hlast]
      exact List.forall_mem_cons.mpr ⟨rfl, hrest⟩
  | ended hlast =>
      obtain ⟨rest, hresult, hrest⟩ := hresults
      exact ⟨hbalance, _, rest, hresult, hrest, rfl, hlast⟩

-- Every program that was opened is destroyed once, before main opens the next one or ends, but
-- for the one that is open when SCX_BUG_ON ends the process. It is only loaded with the tables
-- of the machine. run_once is only called again after the kernel asked for a restart, and main
-- fails if and only if the last call failed.
theorem run_once_lifecycle {state : Proc × ProcLog}
    (hreach : ((mainSys fields).observe watchProc).Reaches (.start, .empty) state) :
    state.2.opened = state.2.destroyed + (if state.1.skel.isSome then 1 else 0) ∧
    (∀ skel, state.1.skel = some skel → skel.loaded → HasTables skel) ∧
    (state.1.pc = .opening → state.1.skel = none) ∧
    (state.1.pc = .aborted → state.1.skel.isSome) ∧
    (∀ r ∈ state.2.results.tail, r = .restart) ∧
    (state.1.pc.inRunOnce → ∀ r ∈ state.2.results, r = .restart) ∧
    ∀ code, state.1.pc = .exited code → state.1.skel = none ∧ ∃ last rest,
      state.2.results = last :: rest ∧ (∀ r ∈ rest, r = .restart) ∧
      code = (if last = .failed then 1 else 0) ∧ (last = .restart → state.1.stop) := by
  have h : ProcOk fields state.1 ∧ LifeOk state.1 state.2 := by
    refine TransitionSystem.invariant_of_reaches _ (P := fun state : Proc × ProcLog =>
      ProcOk fields state.1 ∧ LifeOk state.1 state.2) ?_ ⟨.start, .start⟩ hreach
    rintro ⟨proc, log⟩ event ⟨hok, hlife⟩ hg
    exact ⟨hok.exec hg, hlife.step hok hg⟩
  obtain ⟨hok, hbalance, hresults⟩ := h
  refine ⟨hbalance, fun skel hs hl => ?_, fun hpc => ?_, fun hpc => ?_, ?_, ?_, fun code hpc => ?_⟩
  · have hready := (hok.held skel hs).2
    cases hpc : state.1.pc with
    | opening | announcing | looping | exited =>
        rw [hpc] at hready
        exact hready.elim
    | preparing | topology | loading =>
        rw [hpc] at hready
        simp [hready.2] at hl
    | aborted =>
        rw [hpc] at hready
        exact absurd hl (by simp [show skel.loaded = false from hready])
    | attaching | polling | looking | reporting | restarting =>
        rw [hpc] at hready
        exact hready.1
    | destroying =>
        rw [hpc] at hready
        exact hready hl
  · exact hok.free_iff.mpr (by rw [hpc]; rfl)
  · rw [Option.isSome_iff_ne_none]
    intro hnone
    simpa [hpc, Pc.outside] using hok.free hnone
  · exact hresults.restarted.1
  · exact hresults.restarted.2
  · rw [hpc] at hresults
    exact ⟨hok.free_iff.mpr (by rw [hpc]; rfl), hresults⟩

-- The kernel asks for a restart, and then does not take the scheduler again.
def loadedOnce : List ProcEvent :=
  ejectedRun ++ [.goes, .goes, .goes] ++
    [.opens true, .prepares none, .readsTopology oneCpuSysfs, .loads (-22), .goes, .goes, .goes]

def loadedOnceProc : Proc × ProcLog :=
  ((mainSys ⟨true, true⟩).observe watchProc).final (.start, .empty) loadedOnce

theorem run_once_lifecycle_once : loadedOnceProc.1.pc = .exited 1 ∧ loadedOnceProc.1.skel = none ∧
    loadedOnceProc.2.opened = 2 ∧ loadedOnceProc.2.destroyed = 2 ∧
    loadedOnceProc.2.results = [.failed, .restart] := by
  have hreach : ((mainSys ⟨true, true⟩).observe watchProc).Reaches (.start, .empty) loadedOnceProc :=
    ⟨loadedOnce, by decide +kernel, rfl⟩
  have hpc : loadedOnceProc.1.pc = .exited 1 := by decide +kernel
  have hopened : loadedOnceProc.2.opened = 2 := by decide +kernel
  obtain ⟨hbalance, -, -, -, -, -, hexited⟩ := run_once_lifecycle hreach
  obtain ⟨hskel, -⟩ := hexited 1 hpc
  rw [hskel, hopened] at hbalance
  exact ⟨hpc, hskel, hopened, hbalance.symm, by decide +kernel⟩

end Lifecycle

section Stop

variable {fields : ExitFields} {proc : Proc}

-- A step of the process, and not of the kernel or a signal.
def ProcEvent.own : ProcEvent → Bool
  | .opens _ | .prepares _ | .readsTopology _ | .loads _ | .attaches _ | .goes => true
  | .signal | .exit _ | .record => false

-- How many statements are left once stop is set.
def Pc.left : Pc → Nat
  | .exited _ | .aborted => 0
  | .looping _ => 1
  | .announcing _ => 2
  | .destroying _ => 3
  | .restarting => 4
  | .reporting parts => parts.length + 5
  | .polling => 4
  | .looking => 11
  | .attaching => 5
  | .loading => 6
  | .topology => 7
  | .preparing => 8
  | .opening => 9

-- Once stop is set, every statement of the process is one less to come.
theorem ProcStep.left {proc' : Proc} {event : ProcEvent} (hs : ProcStep fields proc event proc')
    (hstop : proc.stop) : proc'.stop ∧ proc'.pc.left + (if event.own then 1 else 0) ≤ proc.pc.left := by
  cases hs with
  | signal => exact ⟨rfl, le_rfl⟩
  | exit | record => exact ⟨hstop, le_rfl⟩
  | polled | again => exact absurd hstop Bool.false_ne_true
  | opened | refused | announced | ended | prepared | aborted | tables | noTables | loaded | notLoaded
  | attached | notAttached | stopped | unseen | found | printed | reported | decided | destroyed =>
      exact ⟨hstop, by simp [Pc.left, ProcEvent.own, reportParts]⟩

-- The process never waits for anyone.
theorem Proc.goes_on (proc : Proc) (h : ∀ code, proc.pc ≠ .exited code) (habort : proc.pc ≠ .aborted) :
    ∃ event, event.own ∧ proc.guard event := by
  cases hpc : proc.pc with
  | exited code => exact absurd hpc (h code)
  | aborted => exact absurd hpc habort
  | opening => exact ⟨.opens true, rfl, hpc⟩
  | preparing => exact ⟨.prepares none, rfl, hpc⟩
  | topology => exact ⟨.readsTopology oneCpuSysfs, rfl, hpc⟩
  | loading => exact ⟨.loads 0, rfl, hpc⟩
  | attaching => exact ⟨.attaches 0, rfl, hpc⟩
  | _ => exact ⟨.goes, rfl, by simp [Proc.guard, hpc, Pc.goesOn]⟩

-- After a signal, the process is never stuck, and ends with its next pc.left steps at the latest,
-- whatever the kernel does in between and whatever it answers.
theorem signal_ends_main (hreach : (mainSys fields).Reaches .start proc) (hstop : proc.stop)
    {events : List ProcEvent} (hruns : (mainSys fields).Runs proc events) :
    ((mainSys fields).final proc events).pc.left + events.countP (·.own) ≤ proc.pc.left ∧
      ((∃ code, ((mainSys fields).final proc events).pc = .exited code) ∨
        ((mainSys fields).final proc events).pc = .aborted ∨
        ∃ event, event.own ∧ (mainSys fields).enabled ((mainSys fields).final proc events) event) := by
  have hok : ProcOk fields proc :=
    (mainSys fields).invariant_of_reaches (fun _ _ hok hg => hok.exec hg) .start hreach
  have hstep (state : Proc) (event : ProcEvent) (h : ProcOk fields state ∧ state.stop)
      (hg : (mainSys fields).enabled state event) :
      (ProcOk fields ((mainSys fields).exec state event) ∧ ((mainSys fields).exec state event).stop) ∧
        ((mainSys fields).exec state event).pc.left + (if event.own then 1 else 0) ≤ state.pc.left :=
    ⟨⟨h.1.exec hg, ((h.1.step hg).left h.2).1⟩, ((h.1.step hg).left h.2).2⟩
  refine ⟨(mainSys fields).countP_le_of_runs (P := fun state => ProcOk fields state ∧ state.stop)
    ProcEvent.own (·.pc.left) hstep ⟨hok, hstop⟩ hruns, ?_⟩
  by_cases hexited : ∃ code, ((mainSys fields).final proc events).pc = .exited code
  · exact Or.inl hexited
  · refine Or.inr (or_iff_not_imp_left.mpr fun habort => ?_)
    exact Proc.goes_on _ (fun code hcode => hexited ⟨code, hcode⟩) habort

-- SIGTERM comes while the report is printed, and main does not restart.
def signalledProc : Proc := (mainSys ⟨true, true⟩).final .start (ejectedRun.take 18 ++ [.signal])

theorem signal_ends_main_signalled :
    let events := List.replicate 9 ProcEvent.goes
    signalledProc.stop ∧ signalledProc.pc = .reporting (reportParts.drop 1) ∧
      ((mainSys ⟨true, true⟩).final signalledProc events).pc = .exited 0 ∧
      events.countP (·.own) ≤ signalledProc.pc.left := by
  have hreach : (mainSys ⟨true, true⟩).Reaches .start signalledProc :=
    ⟨ejectedRun.take 18 ++ [.signal], by decide +kernel, rfl⟩
  have hpc : signalledProc.pc = .reporting (reportParts.drop 1) := by decide +kernel
  have hruns : (mainSys ⟨true, true⟩).Runs signalledProc (List.replicate 9 .goes) := by decide +kernel
  have hbound := (signal_ends_main hreach (by decide +kernel) hruns).1
  exact ⟨by decide +kernel, hpc, by decide +kernel, by omega⟩

end Stop

end Lunar
