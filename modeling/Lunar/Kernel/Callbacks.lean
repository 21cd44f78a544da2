import Lunar.Callbacks.Contexts
import Lunar.Kernel
import Lunar.Library.Run

namespace Lunar

-- The kernel calls lunar in an order in which its callbacks may come. So whatever is proved
-- of the callbacks in any order holds of the runs of the kernel.

-- The callbacks of an event, and what the kernel does before and after them by itself.
def Event.callbacks (m : Machine) (sys : Sys) (event : Event) : List Callback :=
  match event with
  | .initTask k p => [.initTask k p]
  | .selectCpu k p ttwu dfl => [.selectCpu k ttwu dfl p, .kernel (sys.exec m event).sched]
  | .runnable k p wakeup cpu =>
      [.kernel (sys.sched.setTask p { sys.sched.task p with cpu := cpu, queued := true }),
        .runnable k wakeup p]
  | .enqueue k p flags env => [.kernel (sys.unlink p).sched, .enqueue k env flags p]
  | .dispatch k cpu prev rnd => [.dispatch k k.now rnd cpu prev]
  | .running k p => [.kernel (sys.unlink p).sched, .running k p]
  | .stopping k p ready => [.stopping k p ready]
  | .quiescent k p sleep =>
      [.kernel (sys.unlink p).sched, .quiescent k sleep p, .kernel (sys.exec m event).sched]
  | .schedSwitch k next idle =>
      [.kernel { sys.sched with cpuCurr := Function.update sys.sched.cpuCurr k.proc (some next) },
        .schedSwitch k idle next]
  | .setAttributes _ _ | .enqueueLocal _ _ | .insertDirect _ | .restore _ | .putBack _
  | .consumeSlice _ _ => [.kernel (sys.exec m event).sched]

-- PF_KTHREAD is no part of what the kernel writes of a task here.
theorem outside_setTask (s : Sched) (p : Task) (task : TaskStruct)
    (hkthread : task.kthread = (s.task p).kthread) : Outside s (s.setTask p task) := by
  refine ⟨rfl, fun q => ?_⟩
  rw [Sched.setTask_task]
  by_cases hq : q = p
  · rw [hq, Function.update_self, hkthread]
  · rw [Function.update_of_ne hq]

theorem Outside.trans {s s' s'' : Sched} (h : Outside s s') (h' : Outside s' s'') : Outside s s'' :=
  ⟨h'.taskCtxStore.trans h.taskCtxStore, fun p => (h'.kthread p).trans (h.kthread p)⟩

theorem outside_unlink (sys : Sys) (p : Task) : Outside sys.sched (sys.unlink p).sched :=
  ⟨rfl, fun _ => rfl⟩

theorem outside_insertLocal (sys : Sys) (p : Task) (head : Bool) :
    Outside sys.sched (sys.insertLocal p head).sched :=
  ⟨rfl, (outside_setTask sys.sched p { sys.sched.task p with ddspLocal := false } rfl).kthread⟩

theorem Event.callbacks_run (m : Machine) (sys : Sys) (event : Event) :
    (Lunar.callbacks m).Runs sys.sched (event.callbacks m sys) ∧
      (Lunar.callbacks m).final sys.sched (event.callbacks m sys) =
        ((lunarSys m).exec sys event).sched := by
  cases event with
  | initTask k p => exact ⟨⟨trivial, trivial⟩, rfl⟩
  | setAttributes p attr => exact ⟨⟨outside_setTask _ p _ rfl, trivial⟩, rfl⟩
  | selectCpu k p ttwu dfl => exact ⟨⟨trivial, outside_setTask _ p _ rfl, trivial⟩, rfl⟩
  | runnable k p wakeup cpu => exact ⟨⟨outside_setTask _ p _ rfl, trivial, trivial⟩, rfl⟩
  | enqueue k p flags env => exact ⟨⟨outside_unlink sys p, trivial, trivial⟩, rfl⟩
  | enqueueLocal p slice =>
      have hslice : Outside (sys.unlink p).sched ((sys.unlink p).setSlice p slice).sched :=
        outside_setTask _ p _ rfl
      have hinsert := outside_insertLocal ((sys.unlink p).setSlice p slice) p false
      exact ⟨⟨(outside_unlink sys p).trans (hslice.trans hinsert), trivial⟩, rfl⟩
  | insertDirect p => exact ⟨⟨outside_insertLocal sys p false, trivial⟩, rfl⟩
  | restore p => exact ⟨⟨outside_insertLocal sys p false, trivial⟩, rfl⟩
  | putBack p => exact ⟨⟨outside_insertLocal sys p true, trivial⟩, rfl⟩
  | consumeSlice p left => exact ⟨⟨outside_setTask _ p _ rfl, trivial⟩, rfl⟩
  | dispatch k cpu prev rnd => exact ⟨⟨trivial, trivial⟩, rfl⟩
  | running k p => exact ⟨⟨outside_unlink sys p, trivial, trivial⟩, rfl⟩
  | stopping k p runnable => exact ⟨⟨trivial, trivial⟩, rfl⟩
  | quiescent k p sleep =>
      exact ⟨⟨outside_unlink sys p, trivial, outside_setTask _ p _ rfl, trivial⟩, rfl⟩
  | schedSwitch k next idle => exact ⟨⟨⟨rfl, fun _ => rfl⟩, trivial, trivial⟩, rfl⟩

theorem lunarSys_refines (m : Machine) : (lunarSys m).Refines (callbacks m) Sys.sched (fun _ => True)
    (fun sys event labels => labels = event.callbacks m sys) where
  keeps _ _ _ _ := trivial
  matched sys event _ _ := ⟨_, rfl, event.callbacks_run m sys⟩

theorem Sys.callbacks_reaches {m : Machine} {start sys : Sys} (h : (lunarSys m).Reaches start sys) :
    (callbacks m).Reaches start.sched sys.sched := by
  obtain ⟨events, hruns, rfl⟩ := h
  obtain ⟨trace, -, hcallbacks, hfinal⟩ := (lunarSys_refines m).runs trivial hruns
  exact ⟨trace.flatten, hcallbacks, hfinal⟩

end Lunar
