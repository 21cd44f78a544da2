import Lunar.Kernel.Slices
import Lunar.Kernel.Starvation

namespace Lunar

open Word64

structure Override where
  start : Nat
  -- the cpu time of its takes
  spent : Nat
deriving DecidableEq, Repr

-- What an observer notes of the overrides of one cpu. A take counts from running() to
-- stopping(), or to the next slice that a dispatch gives to the task.
structure OverrideLog where
  -- the latest first
  overrides : List Override
  -- a task that was taken for an override and has not run yet
  taken : Option Task
  -- since when such a task runs
  serving : Option Nat
deriving DecidableEq, Repr

namespace OverrideLog

def empty : OverrideLog := ⟨[], none, none⟩

def spent (log : OverrideLog) : Nat := (log.overrides.map (·.spent)).headD 0

def starts (log : OverrideLog) : List Nat := log.overrides.map (·.start)

def tick (log : OverrideLog) (time : Nat) : OverrideLog :=
  match log.serving, log.overrides with
  | some _, last :: rest =>
      { log with overrides := { last with spent := last.spent + time } :: rest }
  | _, _ => log

-- The task that ran before may have got a new slice.
def dispatched (log : OverrideLog) (path : OverridePath) (now : Nat) (next : Option Task)
    (goesOn : Bool) : OverrideLog :=
  let log := if goesOn then { log with serving := none } else log
  match path with
  | .none => log
  | .continued => { log with taken := next }
  | .started => { log with overrides := ⟨now, 0⟩ :: log.overrides, taken := next }

@[simp] theorem tick_taken (log : OverrideLog) (time : Nat) : (log.tick time).taken = log.taken := by
  unfold OverrideLog.tick
  split <;> rfl

@[simp] theorem tick_serving (log : OverrideLog) (time : Nat) :
    (log.tick time).serving = log.serving := by
  unfold OverrideLog.tick
  split <;> rfl

theorem tick_of_none (log : OverrideLog) {time : Nat} (h : log.serving = none) : log.tick time = log := by
  simp [tick, h]

theorem spent_tick_le (log : OverrideLog) (time : Nat) : (log.tick time).spent ≤ log.spent + time := by
  unfold OverrideLog.tick
  split
  · rename_i hoverrides
    simp [spent, hoverrides]
  · exact Nat.le_add_right _ _

theorem tick_starts (log : OverrideLog) (time : Nat) : (log.tick time).starts = log.starts := by
  unfold OverrideLog.tick
  split
  · rename_i hoverrides
    simp [starts, hoverrides]
  · rfl

theorem dispatched_overrides (log : OverrideLog) {path : OverridePath} (hpath : path ≠ .started)
    (now : Nat) (next : Option Task) (goesOn : Bool) :
    (log.dispatched path now next goesOn).overrides = log.overrides := by
  cases path with
  | started => exact absurd rfl hpath
  | none => cases goesOn <;> rfl
  | continued => cases goesOn <;> rfl

theorem dispatched_overrides_started (log : OverrideLog) (now : Nat) (next : Option Task) (goesOn : Bool) :
    (log.dispatched .started now next goesOn).overrides = ⟨now, 0⟩ :: log.overrides := by
  cases goesOn <;> rfl

theorem dispatched_starts (log : OverrideLog) {path : OverridePath} (hpath : path ≠ .started)
    (now : Nat) (next : Option Task) (goesOn : Bool) :
    (log.dispatched path now next goesOn).starts = log.starts := by
  rw [starts, log.dispatched_overrides hpath]
  rfl

theorem dispatched_starts_started (log : OverrideLog) (now : Nat) (next : Option Task) (goesOn : Bool) :
    (log.dispatched .started now next goesOn).starts = now :: log.starts := by
  rw [starts, log.dispatched_overrides_started]
  rfl

@[simp] theorem dispatched_taken (log : OverrideLog) (path : OverridePath) (now : Nat)
    (next : Option Task) (goesOn : Bool) : (log.dispatched path now next goesOn).taken =
      if path = .none then log.taken else next := by
  cases path <;> cases goesOn <;> rfl

@[simp] theorem dispatched_serving (log : OverrideLog) (path : OverridePath) (now : Nat)
    (next : Option Task) (goesOn : Bool) : (log.dispatched path now next goesOn).serving =
      if goesOn then none else log.serving := by
  cases path <;> cases goesOn <;> rfl

def leave (log : OverrideLog) (p : Task) : OverrideLog :=
  if log.taken = some p then { log with taken := none } else log

def run (log : OverrideLog) (p : Task) (now : Nat) : OverrideLog :=
  if log.taken = some p then { log with taken := none, serving := some now } else log

theorem leave_starts (log : OverrideLog) (p : Task) : (log.leave p).starts = log.starts := by
  unfold leave
  split_ifs <;> rfl

theorem run_starts (log : OverrideLog) (p : Task) (now : Nat) : (log.run p now).starts = log.starts := by
  unfold run
  split_ifs <;> rfl

end OverrideLog

def watchOverrides (m : Machine) (c : Nat) (log : OverrideLog) (sys : Sys) (event : Event) (sys' : Sys) :
    OverrideLog :=
  let log := log.tick (sys'.clock - sys.clock)
  match event with
  | .dispatch k cpu prev rnd =>
      if cpu = c then
        log.dispatched (sys.overridePath m k c prev rnd) k.now (sys'.localDsq c).head?
          ((sys.onCpu c).any fun p => (sys'.sched.task p).slice ≠ 0)
      else log
  | .running k p => log.run p k.now
  | .stopping _ p _ => if sys.onCpu c = some p then { log with serving := none } else log
  | .enqueue _ p _ _ | .enqueueLocal p _ | .quiescent _ p _ => log.leave p
  | _ => log

-- The kernel runs a take for one slice at most, and no time passes between a dispatch
-- that finds another task and the end of the task that runs.
def TakesKept (c : Nat) (state : Sys × OverrideLog) (event : Event) : Prop :=
  (∀ since ∈ state.2.serving, event.time state.1.clock ≤ since + SLICE_NS) ∧
    (state.1.switching c → event.time state.1.clock = state.1.clock)

instance (c : Nat) (state : Sys × OverrideLog) (event : Event) : Decidable (TakesKept c state event) :=
  inferInstanceAs (Decidable (_ ∧ _))

-- Whether an event lets time count against an override of the cpu, or starts one.
def Event.overrides (sys : Sys) (c : Nat) : Event → Prop
  | .dispatch _ cpu _ _ => cpu = c
  | .stopping _ p _ => sys.cpuOf p = c
  | _ => False

theorem Step.sameOverride {m : Machine} {sys sys' : Sys} {event : Event} {c : Nat}
    (hs : Step m sys sys' event) (hevent : ¬event.overrides sys c) :
    SameOverride (sys.sched.dispatchState c) (sys'.sched.dispatchState c) := by
  have hcpus (h : SameCpus sys sys') :
      SameOverride (sys.sched.dispatchState c) (sys'.sched.dispatchState c) := by
    rw [h.dispatchState]
    exact .refl _
  cases hs with
  | initTask _ _ h _ _ _ _ _ => exact hcpus h
  | setAttributes _ _ h _ => exact hcpus h
  | selectCpu _ _ h _ _ _ => exact hcpus h
  | runnable _ _ _ h _ _ => exact hcpus h
  | enqueue _ _ _ _ _ _ _ _ henq =>
      obtain ⟨pending, hstate⟩ := henq.dispatchState c
      rw [hstate]
      exact ⟨rfl, rfl, rfl⟩
  | enqueueLocal _ _ h _ _ => exact hcpus h
  | insertDirect _ _ h => exact hcpus h.cpus
  | restore _ h => exact hcpus h.cpus
  | putBack _ _ h => exact hcpus h.cpus
  | consumeSlice _ _ _ h _ => exact hcpus h
  | @dispatch k cpu _ _ _ _ _ _ _ hd =>
      have hc : c ≠ cpu := fun he => hevent he.symm
      have hcharged {p : Task} {tier : Nat} {s1 : Sched} (hacc : Accounted k cpu p tier sys.sched s1) :
          s1.dispatchState c = sys.sched.dispatchState c := by
        rw [hacc.dispatchState, Function.update_of_ne hc]
      cases hd with
      | idle _ hd _ => exact hd.override_other hc
      | replaced _ _ hacc hd _ _ => exact hcharged hacc ▸ hd.override_other hc
      | continued _ _ hacc _ hcont _ =>
          rw [hcont.dispatchState, Function.update_of_ne hc, hcharged hacc]
          exact .refl _
  | @running k _ _ _ _ _ _ _ _ hstate _ _ =>
      rw [hstate]
      by_cases he : c = k.proc
      · rw [he, Function.update_self]
        exact ⟨rfl, rfl, rfl⟩
      · rw [Function.update_of_ne he]
        exact .refl _
  | stopping _ _ _ _ hstate _ _ =>
      rw [hstate, Function.update_of_ne fun he => hevent he.symm]
      exact .refl _
  | quiescent _ _ _ h _ _ => exact hcpus h
  | schedSwitch _ _ _ hrt =>
      obtain ⟨rt, hstate⟩ := hrt.dispatchState c
      rw [hstate]
      exact ⟨rfl, rfl, rfl⟩

-- How often overrides start, and how much budget they have left.
structure RateOk (dctx : DispatchCtx) (log : OverrideLog) (now : Nat) : Prop where
  left : dctx.overrideLeft ≤ STARVE_OVERRIDE_BUDGET_NS
  tier : dctx.overrideLeft ≠ 0 → Starvable dctx.overrideTier
  past : dctx.lastOverrideTs ≤ now
  apart : log.starts.Pairwise fun later earlier => earlier + STARVE_OVERRIDE_COOLDOWN_NS ≤ later
  latest : ∀ start ∈ log.starts, start ≤ dctx.lastOverrideTs

namespace RateOk

variable {dctx dctx' : DispatchCtx} {log : OverrideLog} {now r : Nat} {path : OverridePath}

theorem same (h : RateOk dctx log now) (hs : SameOverride dctx dctx') : RateOk dctx' log now where
  left := hs.left ▸ h.left
  tier := by rw [hs.left, hs.tier]; exact h.tier
  past := hs.last ▸ h.past
  apart := h.apart
  latest := hs.last ▸ h.latest

theorem log_same {log' : OverrideLog} (h : RateOk dctx log now) (hlog : log'.starts = log.starts) :
    RateOk dctx log' now where
  left := h.left
  tier := h.tier
  past := h.past
  apart := hlog ▸ h.apart
  latest := hlog ▸ h.latest

theorem wait (h : RateOk dctx log now) {now' : Nat} (hnow : now ≤ now') : RateOk dctx log now' :=
  { h with past := Nat.le_trans h.past hnow }

theorem charge (h : RateOk dctx log now) (tier used : Nat) :
    RateOk (chargeOverride dctx tier used) log now := by
  rw [chargeOverride_eq]
  have hleft := h.left
  refine ⟨?_, fun hl => h.tier ?_, h.past, h.apart, h.latest⟩
  · dsimp only
    omega
  · dsimp only at hl
    omega

theorem change (h : RateOk dctx log now) (hc : OverrideChange now r dctx dctx' path)
    (next : Option Task) (goesOn : Bool) : RateOk dctx' (log.dispatched path now next goesOn) now := by
  cases hc with
  | kept hs => exact (h.same hs).log_same (log.dispatched_starts (by simp) ..)
  | ended hs =>
      have hzero : RateOk { dctx with overrideLeft := 0 } log now :=
        { h with left := Nat.zero_le _, tier := by simp }
      exact (hzero.same hs).log_same (log.dispatched_starts (by simp) ..)
  | continued _ _ hs => exact (h.same hs).log_same (log.dispatched_starts (by simp) ..)
  | started hrange hcool hs =>
      have hlast := Nat.le_trans hcool (sub_le_of_le h.past)
      have harmed : RateOk (armOverride dctx r now) (log.dispatched .started now next goesOn) now := by
        refine ⟨Nat.le_refl _, fun _ => hrange, Nat.le_refl _, ?_, ?_⟩
        all_goals rw [log.dispatched_starts_started]
        · refine List.pairwise_cons.mpr ⟨fun start hstart => ?_, h.apart⟩
          have := h.latest start hstart
          have := h.past
          omega
        · exact List.forall_mem_cons.mpr
            ⟨Nat.le_refl _, fun start hstart => Nat.le_trans (h.latest start hstart) h.past⟩
      exact harmed.same hs

theorem step {m : Machine} {c : Nat} {sys sys' : Sys} {event : Event}
    (h : RateOk (sys.sched.dispatchState c) log sys.clock) (hinv : Inv m sys) (hlt : c < m.nrCpuIds)
    (hs : Step m sys sys' event) (hclock : sys.clock ≤ sys'.clock)
    (htime : sys'.clock = event.time sys.clock) :
    RateOk (sys'.sched.dispatchState c) (watchOverrides m c log sys event sys') sys'.clock := by
  have h1 := (h.wait hclock).log_same (log.tick_starts (sys'.clock - sys.clock))
  unfold watchOverrides
  generalize log.tick (sys'.clock - sys.clock) = log at h1
  have hsame (hevent : ¬event.overrides sys c) := h1.same (hs.sameOverride hevent)
  cases hs with
  | @dispatch k cpu prev rnd _ _ _ _ _ hd =>
      have hnow : sys'.clock = k.now := htime
      dsimp only
      split_ifs with he
      · subst he
        rw [hnow] at h1 ⊢
        have hcharged {p : Task} {tier : Nat} {s1 : Sched} (hacc : Accounted k cpu p tier sys.sched s1) :
            RateOk (s1.dispatchState cpu) log k.now := by
          rw [hacc.dispatchState, Function.update_self]
          exact h1.charge _ _
        cases hd with
        | idle _ hd _ => exact h1.change (hd.override hlt) _ _
        | replaced _ _ hacc hd _ _ => exact (hcharged hacc).change (hd.override hlt) _ _
        | continued _ _ hacc hpath hcont _ =>
            have hended := (hcharged hacc).change (r := 0) (.ended (.refl _)) (sys'.localDsq cpu).head?
              ((sys.onCpu cpu).any fun p => (sys'.sched.task p).slice ≠ 0)
            rw [hpath, hcont.dispatchState, Function.update_self]
            exact hended.same ⟨rfl, rfl, rfl⟩
      · exact hsame he
  | @stopping k p _ _ hphase _ _ _ hstate _ _ =>
      dsimp only
      split_ifs with hon
      · have hcpu : sys.cpuOf p = c := ((hinv.onCpu c p).mp hon).2
        rw [hcpu] at hstate
        have hcharged : RateOk (chargeOverride (sys.sched.dispatchState c) (sys.sched.view p).tier
            (elapsed k.now (sys.sched.view p).startedAt)) { log with serving := none } sys'.clock :=
          (h1.charge _ _).log_same rfl
        rw [hstate, Function.update_self]
        exact hcharged.same ⟨rfl, rfl, rfl⟩
      · exact hsame fun he => hon ((hinv.onCpu c p).mpr ⟨hphase, he⟩)
  | enqueue | enqueueLocal | quiescent => exact (hsame id).log_same (log.leave_starts _)
  | running => exact (hsame id).log_same (log.run_starts ..)
  | initTask | setAttributes | selectCpu | runnable | insertDirect | restore | putBack | consumeSlice
  | schedSwitch => exact hsame id

theorem start {m : Machine} {c : Nat} {sys : Sys} (h : Sys.Start m sys) (hlt : c < m.nrCpuIds) :
    RateOk (sys.sched.dispatchState c) .empty sys.clock := by
  obtain ⟨s, now, hsched, -, -, -, hnow⟩ := h.sched
  rw [hsched, (lunarInit_spec m now s).dispatchState c hlt]
  exact ⟨Nat.zero_le _, fun hl => absurd rfl hl, hnow c, .nil, nofun⟩

end RateOk

-- The time that overrides took, of which some may not have been charged yet.
structure BudgetOk (dctx : DispatchCtx) (log : OverrideLog) (uncharged now : Nat) : Prop extends
    RateOk dctx log now where
  bound : ∀ o ∈ log.overrides, o.spent < STARVE_OVERRIDE_BUDGET_NS + SLICE_NS
  budget : dctx.overrideLeft ≠ 0 →
    log.spent + dctx.overrideLeft ≤ STARVE_OVERRIDE_BUDGET_NS + uncharged

namespace BudgetOk

variable {dctx dctx' : DispatchCtx} {log : OverrideLog} {uncharged now r : Nat} {path : OverridePath}

theorem same (h : BudgetOk dctx log uncharged now) (hs : SameOverride dctx dctx') :
    BudgetOk dctx' log uncharged now where
  toRateOk := h.toRateOk.same hs
  bound := h.bound
  budget := by rw [hs.left]; exact h.budget

theorem log_same {log' : OverrideLog} (h : BudgetOk dctx log uncharged now)
    (hlog : log'.overrides = log.overrides) : BudgetOk dctx log' uncharged now where
  toRateOk := h.toRateOk.log_same (by rw [OverrideLog.starts, hlog]; rfl)
  bound := hlog ▸ h.bound
  budget := by
    rw [show log'.spent = log.spent by rw [OverrideLog.spent, hlog]; rfl]
    exact h.budget

theorem spent_lt (h : BudgetOk dctx log uncharged now) :
    log.spent < STARVE_OVERRIDE_BUDGET_NS + SLICE_NS := by
  have hvalues := slice_values
  unfold OverrideLog.spent
  cases ho : log.overrides with
  | nil => simp; omega
  | cons o rest => simpa using h.bound o (by simp [ho])

-- Time passes without a take running.
theorem wait (h : BudgetOk dctx log uncharged now) {now' : Nat} (hnow : now ≤ now') :
    BudgetOk dctx log uncharged now' :=
  { h with toRateOk := h.toRateOk.wait hnow }

theorem tick (h : BudgetOk dctx log uncharged now) (time : Nat)
    (hspent : log.spent + time < STARVE_OVERRIDE_BUDGET_NS + SLICE_NS) :
    BudgetOk dctx (log.tick time) (uncharged + time) (now + time) where
  toRateOk := (h.toRateOk.wait (Nat.le_add_right _ _)).log_same (log.tick_starts time)
  bound := by
    unfold OverrideLog.tick
    split
    · rename_i last rest _ hoverrides
      have hlast : log.spent = last.spent := by simp [OverrideLog.spent, hoverrides]
      have hbound := h.bound
      rw [hoverrides, List.forall_mem_cons] at hbound
      exact List.forall_mem_cons.mpr ⟨by dsimp only; omega, hbound.2⟩
    · exact h.bound
  budget := by
    intro hl
    have hbudget := h.budget hl
    have := log.spent_tick_le time
    omega

-- Whatever is charged covers what was not charged yet.
theorem charge (h : BudgetOk dctx log uncharged now) {tier used : Nat}
    (hused : dctx.overrideLeft ≠ 0 → uncharged ≠ 0 → tier = dctx.overrideTier ∧ uncharged ≤ used) :
    BudgetOk (chargeOverride dctx tier used) log 0 now := by
  refine ⟨h.toRateOk.charge tier used, h.bound, ?_⟩
  rw [chargeOverride_eq]
  intro hl
  dsimp only at hl ⊢
  have hl' : dctx.overrideLeft ≠ 0 := by omega
  have hbudget := h.budget hl'
  by_cases hz : uncharged = 0
  · omega
  · obtain ⟨ht, hu⟩ := hused hl' hz
    rw [if_pos ht] at hl ⊢
    omega

-- A dispatch, with everything charged. A task that is taken for an override is taken
-- within the budget.
theorem change (h : BudgetOk dctx log 0 now) (hc : OverrideChange now r dctx dctx' path)
    (next : Option Task) (goesOn : Bool) :
    BudgetOk dctx' (log.dispatched path now next goesOn) 0 now ∧
      (path ≠ .none → (log.dispatched path now next goesOn).spent < STARVE_OVERRIDE_BUDGET_NS ∧
        r = dctx'.overrideTier) := by
  have hvalues := slice_values
  have hrate := h.toRateOk.change hc next goesOn
  have hsame (hpath : path ≠ .started) : (log.dispatched path now next goesOn).overrides = log.overrides :=
    log.dispatched_overrides hpath ..
  have hspent (hpath : path ≠ .started) : (log.dispatched path now next goesOn).spent = log.spent := by
    rw [OverrideLog.spent, hsame hpath]
    rfl
  cases hc with
  | kept hs =>
      refine ⟨⟨hrate, by rw [hsame (by simp)]; exact h.bound, ?_⟩, by simp⟩
      rw [hspent (by simp), hs.left]
      exact h.budget
  | ended hs =>
      refine ⟨⟨hrate, by rw [hsame (by simp)]; exact h.bound, fun hl => ?_⟩, by simp⟩
      exact absurd hs.left hl
  | continued htier hleft hs =>
      have hbudget := h.budget hleft
      refine ⟨⟨hrate, by rw [hsame (by simp)]; exact h.bound, ?_⟩, fun _ => ⟨?_, by rw [htier, hs.tier]⟩⟩
      · rw [hspent (by simp), hs.left]
        exact h.budget
      · rw [hspent (by simp)]
        omega
  | started _ _ hs =>
      have hnew := log.dispatched_overrides_started now next goesOn
      have hzero : (log.dispatched .started now next goesOn).spent = 0 := by
        rw [OverrideLog.spent, hnew]
        rfl
      refine ⟨⟨hrate, ?_, fun _ => ?_⟩, fun _ => ⟨by omega, hs.tier.symm⟩⟩
      · rw [hnew]
        exact List.forall_mem_cons.mpr ⟨by dsimp only; omega, h.bound⟩
      · rw [hzero, hs.left]
        exact Nat.le_of_eq (Nat.zero_add _)

end BudgetOk

end Lunar
