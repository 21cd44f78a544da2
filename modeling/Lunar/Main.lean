import Lunar.Library.Run
import Lunar.Topology
import Lunar.UserExitInfo

namespace Lunar

-- The userspace process: run_once and main, beside the kernel, which calls lunar_exit, and
-- signals, which come at any time.

inductive RunResult where
  -- SIGINT/SIGTERM
  | stopped
  -- kernel asked for a restart (e.g. CPU hotplug)
  | restart
  | failed
deriving DecidableEq, Repr

-- The statement the process is at, with what it has in its local variables.
inductive Pc where
  -- run_once up to the loop
  | opening
  -- SCX_ENUM_INIT, scx_hotplug_seq and UEI_SET_SIZE
  | preparing
  | topology
  | loading
  | attaching
  -- while (!stop)
  | polling
  -- UEI_EXITED
  | looking
  -- UEI_REPORT, with the parts to come
  | reporting (parts : List ReportPart)
  | restarting
  | destroying (result : RunResult)
  -- main, after run_once
  | announcing (result : RunResult)
  | looping (result : RunResult)
  | exited (code : Nat)
  -- SCX_BUG_ON, which ends the process with EXIT_FAILURE
  | aborted
deriving DecidableEq, Repr

-- The process goes on by itself, without asking the system for something that may fail.
def Pc.goesOn : Pc → Bool
  | .polling | .looking | .reporting _ | .restarting | .destroying _ | .announcing _ | .looping _ => true
  | .opening | .preparing | .topology | .loading | .attaching | .exited _ | .aborted => false

-- What there is of one lunar_bpf__open, in the process and in the kernel.
structure Skel where
  rodata : Rodata
  dumpLen : Nat
  loaded : Bool
  uei : UserExitInfo
  -- what lunar_exit was called with, and its statements to come
  exit : Option ScxExitInfo
  todo : List (UserExitInfo → UserExitInfo)

-- lunar_ops sets no exit_dump_len.
def Skel.opened : Skel := ⟨.zeroed, UEI_DUMP_DFL_LEN, false, .zeroed, none, []⟩

structure Proc where
  pc : Pc
  stop : Bool
  skel : Option Skel
  -- cout and cerr
  out : List String
  err : List String

inductive ProcEvent where
  | signal
  -- the kernel calls lunar_exit, and lunar_exit gets on
  | exit (ei : ScxExitInfo)
  | record
  -- the next statement of the process, where it asks the system for something
  | opens (ok : Bool)
  -- with what SCX_BUG_ON prints if the types of the kernel or its hotplug_seq can't be read
  | prepares (bug : Option String)
  | readsTopology (sysfs : Sysfs)
  | loads (err : Int)
  | attaches (err : Int)
  -- or not
  | goes

namespace Proc

def start : Proc := ⟨.opening, false, none, [], []⟩

def updSkel (proc : Proc) (f : Skel → Skel) : Proc := { proc with skel := proc.skel.map f }

def fail (proc : Proc) (text : List String) : Proc :=
  { proc with err := proc.err ++ text, pc := .destroying .failed }

-- What the process does by itself.
def go (proc : Proc) : Proc :=
  match proc.pc with
  | .polling => { proc with pc := if proc.stop then .destroying .stopped else .looking }
  | .looking =>
      match proc.skel with
      | none => proc
      | some skel => { proc with pc := if ueiExited skel.uei then .reporting reportParts else .polling }
  | .reporting [] => { proc with pc := .restarting }
  | .reporting (part :: parts) =>
      match proc.skel with
      | none => proc
      | some skel => { proc with err := proc.err ++ part.text skel.uei, pc := .reporting parts }
  | .restarting =>
      match proc.skel with
      | none => proc
      | some skel =>
          { proc with pc := .destroying <|
              if ueiEcodeRestart (ecodeOf skel.uei.exitCode) then .restart else .failed }
  | .destroying result => { proc with skel := none, pc := .announcing result }
  | .announcing result =>
      { proc with
        out := proc.out ++ if result = .restart ∧ !proc.stop then
          ["Kernel requested a restart (e.g. CPU hotplug), restarting...\n"] else []
        pc := .looping result }
  | .looping result =>
      if result = .restart ∧ !proc.stop then { proc with pc := .opening }
      else
        { proc with
          out := proc.out ++ ["Shutting down and restoring default kernel scheduler...\n"]
          pc := .exited (if result = .failed then 1 else 0) }
  | .opening | .preparing | .topology | .loading | .attaching | .exited _ | .aborted => proc

def exec (fields : ExitFields) (proc : Proc) : ProcEvent → Proc
  | .signal => { proc with stop := true }
  | .exit ei => proc.updSkel fun skel =>
      { skel with exit := some ei, todo := ueiRecord fields skel.dumpLen ei }
  | .record => proc.updSkel fun skel =>
      match skel.todo with
      | [] => skel
      | write :: rest => { skel with uei := write skel.uei, todo := rest }
  | .opens ok =>
      if ok then { proc with skel := some .opened, pc := .preparing }
      else { proc with err := proc.err ++ ["Failed to create BPF skeleton.\n"], pc := .announcing .failed }
  | .prepares bug =>
      match bug with
      | none => { proc with pc := .topology }
      | some text => { proc with err := proc.err ++ [text], pc := .aborted }
  | .readsTopology sysfs =>
      match proc.skel with
      | none => proc
      | some skel =>
          match setupLunarTopology sysfs skel.rodata with
          | .error _ => proc.fail ["Failed to load llc information.\n"]
          | .ok rodata => { proc with skel := some { skel with rodata := rodata }, pc := .loading }
  | .loads err =>
      if err ≠ 0 then proc.fail ["Failed to load scheduler: " ++ toString err ++ "\n"]
      else
        { proc.updSkel fun skel => { skel with loaded := true } with
          err := proc.err ++ ["Successfully opened and loaded the lunar scheduler.\n"]
          out := proc.out ++ ["Attaching sched_ext scheduler...\n"]
          pc := .attaching }
  | .attaches err =>
      if err ≠ 0 then proc.fail ["Failed to attach BPF programs: " ++ toString err ++ "\n"]
      else { proc with out := proc.out ++ ["lunar scheduler is successfully running!\n"], pc := .polling }
  | .goes => proc.go

-- The kernel calls lunar_exit once for a scheduler that was loaded, and gives a reason.
def guard (proc : Proc) : ProcEvent → Prop
  | .signal => True
  | .exit ei => ei.kind ≠ 0 ∧ ∃ skel ∈ proc.skel, skel.loaded ∧ skel.exit = none
  | .record => ∃ skel ∈ proc.skel, skel.todo ≠ []
  | .opens _ => proc.pc = .opening
  | .prepares _ => proc.pc = .preparing
  | .readsTopology _ => proc.pc = .topology
  | .loads _ => proc.pc = .loading
  | .attaches _ => proc.pc = .attaching
  | .goes => proc.pc.goesOn

end Proc

instance (proc : Proc) : ∀ event, Decidable (proc.guard event)
  | .signal => inferInstanceAs (Decidable True)
  | .exit ei =>
      match h : proc.skel with
      | none => isFalse (by simp [Proc.guard, h])
      | some skel => decidable_of_iff (ei.kind ≠ 0 ∧ skel.loaded ∧ skel.exit = none) (by simp [Proc.guard, h])
  | .record =>
      match h : proc.skel with
      | none => isFalse (by simp [Proc.guard, h])
      | some skel => decidable_of_iff (skel.todo.isEmpty = false) (by simp [Proc.guard, h])
  | .opens _ | .prepares _ | .readsTopology _ | .loads _ | .attaches _ => inferInstanceAs (Decidable (_ = _))
  | .goes => inferInstanceAs (Decidable (_ = _))

def mainSys (fields : ExitFields) : TransitionSystem Proc ProcEvent where
  enabled := Proc.guard
  exec := Proc.exec fields

instance (fields : ExitFields) (proc : Proc) (event : ProcEvent) :
    Decidable ((mainSys fields).enabled proc event) := inferInstanceAs (Decidable (proc.guard event))

-- What an observer notes.

-- The end of a run_once that found the scheduler out: what lunar_exit had been called with,
-- what was printed, and what run_once returns.
structure Ejection where
  exit : Option ScxExitInfo
  printed : List String
  result : RunResult
deriving DecidableEq, Repr

structure ProcLog where
  -- calls of lunar_bpf__open that gave a program, and of lunar_bpf__destroy
  opened : Nat
  destroyed : Nat
  -- what run_once returned, the latest first
  results : List RunResult
  -- what was printed since the scheduler was found out
  printed : List String
  ejections : List Ejection
deriving DecidableEq, Repr

def ProcLog.empty : ProcLog := ⟨0, 0, [], [], []⟩

def watchProc (log : ProcLog) (proc : Proc) (event : ProcEvent) (proc' : Proc) : ProcLog where
  opened :=
    match event with
    | .opens true => log.opened + 1
    | _ => log.opened
  destroyed :=
    match event, proc.pc with
    | .goes, .destroying _ => log.destroyed + 1
    | _, _ => log.destroyed
  results :=
    match proc'.pc with
    | .announcing result => if proc.pc = proc'.pc then log.results else result :: log.results
    | _ => log.results
  printed :=
    match event, proc.pc with
    | .goes, .looking => []
    | .goes, .reporting _ => log.printed ++ proc'.err.drop proc.err.length
    | _, _ => log.printed
  ejections :=
    match event, proc.pc, proc'.pc with
    | .goes, .restarting, .destroying result =>
        ⟨proc.skel.bind (·.exit), log.printed, result⟩ :: log.ejections
    | _, _, _ => log.ejections

section Skel

variable {fields : ExitFields} {skel : Skel}

-- lunar_exit is not there yet, is writing the record, or is done with it.
structure SkelOk (fields : ExitFields) (skel : Skel) : Prop where
  dumpLen : skel.dumpLen = UEI_DUMP_DFL_LEN
  quiet : skel.exit = none → skel.uei = .zeroed ∧ skel.todo = []
  writing : ∀ ei, skel.exit = some ei →
    Publication.Writing ueiExited (ueiRecorded fields UEI_DUMP_DFL_LEN ei) skel.uei skel.todo

theorem SkelOk.opened : SkelOk fields .opened := ⟨rfl, fun _ => ⟨rfl, rfl⟩, nofun⟩

theorem SkelOk.exit (h : SkelOk fields skel) (ei : ScxExitInfo) (hnone : skel.exit = none) :
    SkelOk fields { skel with exit := some ei, todo := ueiRecord fields skel.dumpLen ei } where
  dumpLen := h.dumpLen
  quiet := nofun
  writing ei' hei := by
    obtain rfl := Option.some.inj hei
    rw [(h.quiet hnone).1, h.dumpLen]
    exact ueiRecord_writing ..

theorem SkelOk.record {write : UserExitInfo → UserExitInfo} {rest : List (UserExitInfo → UserExitInfo)}
    (h : SkelOk fields skel) (htodo : skel.todo = write :: rest) :
    SkelOk fields { skel with uei := write skel.uei, todo := rest } where
  dumpLen := h.dumpLen
  quiet hnone := by simp [(h.quiet hnone).2] at htodo
  writing ei hei := by
    have hwriting := h.writing ei hei
    rw [htodo] at hwriting
    exact hwriting.write

-- Userspace that finds the kind set finds the whole record, and nobody writes to it any more.
theorem SkelOk.exited (h : SkelOk fields skel) (hexited : ueiExited skel.uei) :
    ∃ ei, skel.exit = some ei ∧ skel.todo = [] ∧ skel.uei = ueiRecorded fields UEI_DUMP_DFL_LEN ei := by
  cases hexit : skel.exit with
  | none =>
      rw [(h.quiet hexit).1] at hexited
      exact absurd rfl hexited
  | some ei => exact ⟨ei, rfl, (h.writing ei hexit).complete_of_shown hexited⟩

-- The tables of the program are those of a machine it can run on.
def HasTables (skel : Skel) : Prop := ∃ sysfs, setupLunarTopology sysfs .zeroed = .ok skel.rodata

-- How far the program is at every statement that has one.
def Pc.Ready (skel : Skel) : Pc → Prop
  | .opening | .announcing _ | .looping _ | .exited _ => False
  | .preparing | .topology => skel.rodata = .zeroed ∧ skel.loaded = false
  | .aborted => skel.loaded = false
  | .loading => HasTables skel ∧ skel.loaded = false
  | .attaching | .polling | .looking => HasTables skel ∧ skel.loaded
  | .reporting _ | .restarting => HasTables skel ∧ skel.loaded ∧ ueiExited skel.uei
  | .destroying _ => skel.loaded → HasTables skel

-- The kernel only touches what lunar_exit writes.
theorem Pc.Ready.update {pc : Pc} {skel' : Skel} (h : pc.Ready skel) (hrodata : skel'.rodata = skel.rodata)
    (hloaded : skel'.loaded = skel.loaded) (hexited : ueiExited skel.uei → ueiExited skel'.uei) :
    pc.Ready skel' := by
  have htables : HasTables skel → HasTables skel' := by
    rintro ⟨sysfs, hsysfs⟩
    exact ⟨sysfs, hrodata ▸ hsysfs⟩
  cases pc with
  | opening | announcing | looping | exited => exact h
  | preparing | topology => exact ⟨hrodata.trans h.1, hloaded.trans h.2⟩
  | aborted => exact hloaded.trans h
  | loading => exact ⟨htables h.1, hloaded.trans h.2⟩
  | attaching | polling | looking => exact ⟨htables h.1, hloaded.trans h.2⟩
  | reporting | restarting => exact ⟨htables h.1, hloaded.trans h.2.1, hexited h.2.2⟩
  | destroying => exact fun hl => htables (h (hloaded ▸ hl))

end Skel

section Proc

variable {fields : ExitFields} {proc : Proc}

def Pc.outside : Pc → Bool
  | .opening | .announcing _ | .looping _ | .exited _ => true
  | .preparing | .topology | .loading | .attaching | .polling | .looking | .reporting _ | .restarting
  | .destroying _ | .aborted => false

structure ProcOk (fields : ExitFields) (proc : Proc) : Prop where
  free : proc.skel = none → proc.pc.outside
  held : ∀ skel, proc.skel = some skel → SkelOk fields skel ∧ proc.pc.Ready skel

theorem ProcOk.free_iff (h : ProcOk fields proc) : proc.skel = none ↔ proc.pc.outside := by
  refine ⟨h.free, fun hout => ?_⟩
  cases hs : proc.skel with
  | none => rfl
  | some skel =>
      have hready := (h.held skel hs).2
      cases hpc : proc.pc <;> simp [hpc, Pc.outside, Pc.Ready] at hout hready

theorem ProcOk.of_none (hs : proc.skel = none) (hout : proc.pc.outside) : ProcOk fields proc :=
  ⟨fun _ => hout, fun skel hskel => by simp [hs] at hskel⟩

theorem ProcOk.of_some {skel : Skel} (hs : proc.skel = some skel) (hok : SkelOk fields skel)
    (hready : proc.pc.Ready skel) : ProcOk fields proc := by
  refine ⟨fun hnone => by simp [hs] at hnone, fun skel' hs' => ?_⟩
  obtain rfl := Option.some.inj (hs.symm.trans hs')
  exact ⟨hok, hready⟩

theorem ProcOk.start : ProcOk fields .start := .of_none rfl rfl

-- What a step does, with all that decides it. Of what is printed only the report is told.
inductive ProcStep (fields : ExitFields) : Proc → ProcEvent → Proc → Prop where
  | signal {pc stop held out err} :
      ProcStep fields ⟨pc, stop, held, out, err⟩ .signal ⟨pc, true, held, out, err⟩
  | exit {pc stop skel out err ei} (hnone : skel.exit = none) :
      ProcStep fields ⟨pc, stop, some skel, out, err⟩ (.exit ei)
        ⟨pc, stop, some { skel with exit := some ei, todo := ueiRecord fields skel.dumpLen ei }, out, err⟩
  | record {pc stop skel out err write rest} (htodo : skel.todo = write :: rest) :
      ProcStep fields ⟨pc, stop, some skel, out, err⟩ .record
        ⟨pc, stop, some { skel with uei := write skel.uei, todo := rest }, out, err⟩
  -- between two calls of run_once
  | opened {stop out err} :
      ProcStep fields ⟨.opening, stop, none, out, err⟩ (.opens true)
        ⟨.preparing, stop, some .opened, out, err⟩
  | refused {stop out err err'} :
      ProcStep fields ⟨.opening, stop, none, out, err⟩ (.opens false)
        ⟨.announcing .failed, stop, none, out, err'⟩
  | announced {stop out err out' result} :
      ProcStep fields ⟨.announcing result, stop, none, out, err⟩ .goes ⟨.looping result, stop, none, out', err⟩
  | again {out err} :
      ProcStep fields ⟨.looping .restart, false, none, out, err⟩ .goes ⟨.opening, false, none, out, err⟩
  | ended {stop : Bool} {out err out' result} (hlast : result = .restart → stop) :
      ProcStep fields ⟨.looping result, stop, none, out, err⟩ .goes
        ⟨.exited (if result = .failed then 1 else 0), stop, none, out', err⟩
  -- run_once up to the loop
  | prepared {stop skel out err} :
      ProcStep fields ⟨.preparing, stop, some skel, out, err⟩ (.prepares none)
        ⟨.topology, stop, some skel, out, err⟩
  | aborted {stop skel out err err' text} :
      ProcStep fields ⟨.preparing, stop, some skel, out, err⟩ (.prepares (some text))
        ⟨.aborted, stop, some skel, out, err'⟩
  | tables {stop skel out err sysfs rodata} (hset : setupLunarTopology sysfs skel.rodata = .ok rodata) :
      ProcStep fields ⟨.topology, stop, some skel, out, err⟩ (.readsTopology sysfs)
        ⟨.loading, stop, some { skel with rodata := rodata }, out, err⟩
  | noTables {stop skel out err err' sysfs} :
      ProcStep fields ⟨.topology, stop, some skel, out, err⟩ (.readsTopology sysfs)
        ⟨.destroying .failed, stop, some skel, out, err'⟩
  | loaded {stop skel out err out' err'} :
      ProcStep fields ⟨.loading, stop, some skel, out, err⟩ (.loads 0)
        ⟨.attaching, stop, some { skel with loaded := true }, out', err'⟩
  | notLoaded {stop skel out err err' e} :
      ProcStep fields ⟨.loading, stop, some skel, out, err⟩ (.loads e)
        ⟨.destroying .failed, stop, some skel, out, err'⟩
  | attached {stop skel out err out'} :
      ProcStep fields ⟨.attaching, stop, some skel, out, err⟩ (.attaches 0) ⟨.polling, stop, some skel, out', err⟩
  | notAttached {stop skel out err err' e} :
      ProcStep fields ⟨.attaching, stop, some skel, out, err⟩ (.attaches e)
        ⟨.destroying .failed, stop, some skel, out, err'⟩
  -- the loop and what comes after it
  | stopped {skel out err} :
      ProcStep fields ⟨.polling, true, some skel, out, err⟩ .goes ⟨.destroying .stopped, true, some skel, out, err⟩
  | polled {skel out err} :
      ProcStep fields ⟨.polling, false, some skel, out, err⟩ .goes ⟨.looking, false, some skel, out, err⟩
  | unseen {stop skel out err} :
      ProcStep fields ⟨.looking, stop, some skel, out, err⟩ .goes ⟨.polling, stop, some skel, out, err⟩
  | found {stop skel out err} (hexited : ueiExited skel.uei) :
      ProcStep fields ⟨.looking, stop, some skel, out, err⟩ .goes
        ⟨.reporting reportParts, stop, some skel, out, err⟩
  | printed {stop skel out err part parts} :
      ProcStep fields ⟨.reporting (part :: parts), stop, some skel, out, err⟩ .goes
        ⟨.reporting parts, stop, some skel, out, err ++ part.text skel.uei⟩
  | reported {stop skel out err} :
      ProcStep fields ⟨.reporting [], stop, some skel, out, err⟩ .goes ⟨.restarting, stop, some skel, out, err⟩
  | decided {stop skel out err} :
      ProcStep fields ⟨.restarting, stop, some skel, out, err⟩ .goes
        ⟨.destroying (if ueiEcodeRestart (ecodeOf skel.uei.exitCode) then .restart else .failed), stop,
          some skel, out, err⟩
  | destroyed {stop skel out err result} :
      ProcStep fields ⟨.destroying result, stop, some skel, out, err⟩ .goes
        ⟨.announcing result, stop, none, out, err⟩

theorem ProcOk.step_of_none {pc : Pc} {stop : Bool} {out err : List String}
    (h : ProcOk fields ⟨pc, stop, none, out, err⟩) {event : ProcEvent}
    (hg : Proc.guard ⟨pc, stop, none, out, err⟩ event) :
    ProcStep fields ⟨pc, stop, none, out, err⟩ event (Proc.exec fields ⟨pc, stop, none, out, err⟩ event) := by
  have hout := h.free rfl
  cases event with
  | signal => exact .signal
  | exit ei =>
      obtain ⟨-, skel, hskel, -⟩ := hg
      cases hskel
  | record =>
      obtain ⟨skel, hskel, -⟩ := hg
      cases hskel
  | opens ok =>
      obtain rfl : pc = .opening := hg
      cases ok with
      | true => exact .opened
      | false => exact .refused
  | prepares | readsTopology | loads | attaches =>
      obtain rfl : pc = _ := hg
      cases hout
  | goes =>
      cases pc with
      | opening | exited | aborted => cases hg
      | preparing | topology | loading | attaching | polling | looking | reporting | restarting | destroying =>
          cases hout
      | announcing result => exact .announced
      | looping result =>
          by_cases hagain : result = .restart ∧ !stop
          · obtain ⟨rfl, hstop⟩ := hagain
            obtain rfl : stop = false := by simpa using hstop
            exact .again
          · simp only [Proc.exec, Proc.go, if_neg hagain]
            exact .ended fun hresult => by simpa [hresult] using hagain

theorem ProcOk.step_of_some {pc : Pc} {stop : Bool} {skel : Skel} {out err : List String}
    (h : ProcOk fields ⟨pc, stop, some skel, out, err⟩) {event : ProcEvent}
    (hg : Proc.guard ⟨pc, stop, some skel, out, err⟩ event) :
    ProcStep fields ⟨pc, stop, some skel, out, err⟩ event
      (Proc.exec fields ⟨pc, stop, some skel, out, err⟩ event) := by
  have hready := (h.held skel rfl).2
  cases event with
  | signal => exact .signal
  | exit ei =>
      obtain ⟨-, skel', hskel, -, hnone⟩ := hg
      cases hskel
      exact .exit hnone
  | record =>
      obtain ⟨skel', hskel, htodo⟩ := hg
      cases hskel
      obtain ⟨write, rest, hrest⟩ := List.exists_cons_of_ne_nil htodo
      simp only [Proc.exec, Proc.updSkel, Option.map_some, hrest]
      exact .record hrest
  | opens ok =>
      obtain rfl : pc = .opening := hg
      exact hready.elim
  | prepares bug =>
      obtain rfl : pc = .preparing := hg
      cases bug with
      | none => exact .prepared
      | some text => exact .aborted
  | readsTopology sysfs =>
      obtain rfl : pc = .topology := hg
      cases hset : setupLunarTopology sysfs skel.rodata with
      | error e =>
          simp only [Proc.exec, hset]
          exact .noTables
      | ok rodata =>
          simp only [Proc.exec, hset]
          exact .tables hset
  | loads e =>
      obtain rfl : pc = .loading := hg
      by_cases he : e ≠ 0
      · simp only [Proc.exec, if_pos he]
        exact .notLoaded
      · obtain rfl : e = 0 := not_not.mp he
        exact .loaded
  | attaches e =>
      obtain rfl : pc = .attaching := hg
      by_cases he : e ≠ 0
      · simp only [Proc.exec, if_pos he]
        exact .notAttached
      · obtain rfl : e = 0 := not_not.mp he
        exact .attached
  | goes =>
      cases pc with
      | preparing | topology | loading | attaching | aborted => cases hg
      | opening | announcing | looping | exited => exact hready.elim
      | polling =>
          cases stop with
          | true => exact .stopped
          | false => exact .polled
      | looking =>
          by_cases he : ueiExited skel.uei
          · simp only [Proc.exec, Proc.go, if_pos he]
            exact .found he
          · simp only [Proc.exec, Proc.go, if_neg he]
            exact .unseen
      | reporting parts =>
          cases parts with
          | nil => exact .reported
          | cons part parts => exact .printed
      | restarting => exact .decided
      | destroying result => exact .destroyed

theorem ProcOk.step (h : ProcOk fields proc) {event : ProcEvent} (hg : proc.guard event) :
    ProcStep fields proc event (proc.exec fields event) := by
  obtain ⟨pc, stop, _ | skel, out, err⟩ := proc
  · exact h.step_of_none hg
  · exact h.step_of_some hg

-- There is nothing left to write once the kind is set.
theorem SkelOk.not_exited {skel : Skel} {write : UserExitInfo → UserExitInfo}
    {rest : List (UserExitInfo → UserExitInfo)} (h : SkelOk fields skel) (htodo : skel.todo = write :: rest) :
    ¬ueiExited skel.uei := by
  intro hexited
  obtain ⟨-, -, hnil, -⟩ := h.exited hexited
  simp [hnil] at htodo

theorem ProcOk.of_step {proc' : Proc} {event : ProcEvent} (h : ProcOk fields proc)
    (hs : ProcStep fields proc event proc') : ProcOk fields proc' := by
  cases hs with
  | signal => exact ⟨h.free, h.held⟩
  | exit hnone =>
      obtain ⟨hok, hready⟩ := h.held _ rfl
      exact .of_some rfl (hok.exit _ hnone) (hready.update rfl rfl id)
  | record htodo =>
      obtain ⟨hok, hready⟩ := h.held _ rfl
      exact .of_some rfl (hok.record htodo) (hready.update rfl rfl fun he => absurd he (hok.not_exited htodo))
  | opened => exact .of_some rfl .opened ⟨rfl, rfl⟩
  | refused | announced | again | ended | destroyed => exact .of_none rfl rfl
  | tables hset =>
      obtain ⟨hok, hzero, hnot⟩ := h.held _ rfl
      exact .of_some rfl ⟨hok.dumpLen, hok.quiet, hok.writing⟩ ⟨⟨_, hzero ▸ hset⟩, hnot⟩
  | noTables =>
      obtain ⟨hok, -, hnot⟩ := h.held _ rfl
      exact .of_some rfl hok fun hl => by simp [hnot] at hl
  | loaded =>
      obtain ⟨hok, ht, -⟩ := h.held _ rfl
      exact .of_some rfl ⟨hok.dumpLen, hok.quiet, hok.writing⟩ ⟨ht, rfl⟩
  | notLoaded | notAttached | stopped | decided =>
      obtain ⟨hok, ht, -⟩ := h.held _ rfl
      exact .of_some rfl hok fun _ => ht
  | aborted =>
      obtain ⟨hok, -, hnot⟩ := h.held _ rfl
      exact .of_some rfl hok hnot
  | prepared | attached | polled | unseen | printed | reported =>
      obtain ⟨hok, hready⟩ := h.held _ rfl
      exact .of_some rfl hok hready
  | found hexited =>
      obtain ⟨hok, ht, hl⟩ := h.held _ rfl
      exact .of_some rfl hok ⟨ht, hl, hexited⟩

theorem ProcOk.exec (h : ProcOk fields proc) {event : ProcEvent} (hg : proc.guard event) :
    ProcOk fields (proc.exec fields event) := h.of_step (h.step hg)

-- What is true of an ejection: the whole record was printed, and decides the result.
def Reported (fields : ExitFields) (e : Ejection) : Prop :=
  ∃ ei, e.exit = some ei ∧ e.printed = ueiReport (ueiRecorded fields UEI_DUMP_DFL_LEN ei) ∧
    e.result =
      if ueiEcodeRestart (ecodeOf (ueiRecorded fields UEI_DUMP_DFL_LEN ei).exitCode) then .restart else .failed

-- What is printed at every statement of UEI_REPORT.
def Pc.Printed (skel : Skel) (log : ProcLog) : Pc → Prop
  | .reporting parts => log.printed ++ parts.flatMap (ReportPart.text skel.uei) = ueiReport skel.uei
  | .restarting => log.printed = ueiReport skel.uei
  | _ => True

structure ReportOk (fields : ExitFields) (proc : Proc) (log : ProcLog) : Prop where
  done : ∀ e ∈ log.ejections, Reported fields e
  printing : ∀ skel, proc.skel = some skel → proc.pc.Printed skel log

theorem ReportOk.start : ReportOk fields .start .empty :=
  ⟨by simp [ProcLog.empty], by simp [Proc.start]⟩

-- Until its kind is set, the kernel writes the record, and nothing of it is printed.
theorem Pc.Ready.printed {pc : Pc} {skel skel' : Skel} {log : ProcLog} (hready : pc.Ready skel)
    (hhidden : ¬ueiExited skel.uei) : pc.Printed skel' log := by
  cases pc with
  | reporting | restarting => exact absurd hready.2.2 hhidden
  | _ => trivial

theorem ReportOk.step {log : ProcLog} (h : ReportOk fields proc log) (hok : ProcOk fields proc)
    {event : ProcEvent} (hg : proc.guard event) :
    ReportOk fields (proc.exec fields event)
      (watchProc log proc event (proc.exec fields event)) := by
  have hdone := h.done
  have hs := hok.step hg
  generalize proc.exec fields event = proc' at hs ⊢
  cases hs with
  | signal => exact ⟨hdone, h.printing⟩
  | exit hnone =>
      obtain ⟨hskel, hready⟩ := hok.held _ rfl
      have hhidden : ¬ueiExited _ := fun he => he (congrArg UserExitInfo.kind (hskel.quiet hnone).1)
      exact ⟨hdone, fun _ _ => hready.printed hhidden⟩
  | record htodo =>
      obtain ⟨hskel, hready⟩ := hok.held _ rfl
      exact ⟨hdone, fun _ _ => hready.printed (hskel.not_exited htodo)⟩
  | opened | refused | announced | again | ended | prepared | aborted | tables | noTables | loaded
  | notLoaded | attached | notAttached | stopped | polled | unseen | destroyed =>
      exact ⟨hdone, fun _ _ => trivial⟩
  | found =>
      refine ⟨hdone, fun skel hskel => ?_⟩
      cases hskel
      exact List.nil_append _
  | printed | reported =>
      have hprinted := h.printing _ rfl
      refine ⟨hdone, fun skel hskel => ?_⟩
      cases hskel
      simpa [Pc.Printed, watchProc] using hprinted
  | @decided stop skel out err =>
      obtain ⟨hskel, -, -, hexited⟩ := hok.held skel rfl
      obtain ⟨ei, hexit, -, huei⟩ := hskel.exited hexited
      have hprinted : log.printed = ueiReport skel.uei := h.printing skel rfl
      have hreported : Reported fields ⟨skel.exit, log.printed,
          if ueiEcodeRestart (ecodeOf skel.uei.exitCode) then .restart else .failed⟩ :=
        ⟨ei, hexit, huei ▸ hprinted, huei ▸ rfl⟩
      exact ⟨List.forall_mem_cons.mpr ⟨hreported, hdone⟩, fun _ _ => trivial⟩

end Proc

section Exit

variable {fields : ExitFields} {state : Proc × ProcLog}

-- Whenever run_once finds the scheduler out, whatever the kernel, the signals and the process
-- did in between, it prints all that lunar_exit was called with in this run and nothing of
-- an earlier one, and returns what the exit code asks for.
theorem exit_reported (hreach : ((mainSys fields).observe watchProc).Reaches (.start, .empty) state) :
    ∀ e ∈ state.2.ejections, Reported fields e := by
  have h : ProcOk fields state.1 ∧ ReportOk fields state.1 state.2 := by
    refine TransitionSystem.invariant_of_reaches _ (P := fun state : Proc × ProcLog =>
      ProcOk fields state.1 ∧ ReportOk fields state.1 state.2) ?_ ⟨.start, .start⟩ hreach
    rintro ⟨proc, log⟩ event ⟨hok, hreport⟩ hg
    exact ⟨hok.exec hg, hreport.step hok hg⟩
  exact h.2.done

def oneCpuSysfs : Sysfs := ⟨some [0], some [0], fun _ => none, fun _ => []⟩

-- What the kernel gives when a cpu comes online.
def hotplugged : ScxExitInfo where
  kind := 65
  exitCode := 2 ^ 48 + 2 ^ 32
  exitCpu := 0
  reason := "unregistered from the main kernel"
  msg := "cpu 1 going online, exiting scheduler"
  dump := ""

-- lunar_exit is halfway when the process looks for the first time.
def ejectedRun : List ProcEvent :=
  [.opens true, .prepares none, .readsTopology oneCpuSysfs, .loads 0, .attaches 0, .exit hotplugged, .record,
    .record, .goes, .record, .goes, .record, .record, .record, .record, .goes, .goes, .goes, .goes, .goes,
    .goes, .goes, .goes, .goes]

def ejectedProc : Proc × ProcLog :=
  ((mainSys ⟨true, true⟩).observe watchProc).final (.start, .empty) ejectedRun

theorem exit_reported_hotplug : ∃ e, ejectedProc.2.ejections = [e] ∧ e.exit = some hotplugged ∧
    e.result = .restart ∧ e.printed = ueiReport (ueiRecorded ⟨true, true⟩ UEI_DUMP_DFL_LEN hotplugged) := by
  have hreach : ((mainSys ⟨true, true⟩).observe watchProc).Reaches (.start, .empty) ejectedProc :=
    ⟨ejectedRun, by decide +kernel, rfl⟩
  have hends : ejectedProc.2.ejections.map (fun e => (e.exit, e.result)) = [(some hotplugged, .restart)] := by
    decide +kernel
  obtain ⟨e, he, hpair⟩ := List.map_eq_singleton_iff.mp hends
  obtain ⟨hexit, hresult⟩ := Prod.mk.inj hpair
  obtain ⟨ei, hei, hprinted, -⟩ := exit_reported hreach e (by rw [he]; exact List.mem_singleton_self e)
  obtain rfl := Option.some.inj (hexit.symm.trans hei)
  exact ⟨e, he, hexit, hresult, hprinted⟩

end Exit

end Lunar
