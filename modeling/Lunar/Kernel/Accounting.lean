import Lunar.Kernel.Slices
import Lunar.Library.Word

namespace Lunar

-- All run and all slept arguments of the calls of duty_account so far.

def Life.accounted (life : Life) : Nat := (life.charges.map (·.1)).sum

def Life.slept (life : Life) : Nat := (life.charges.map (·.2)).sum

-- From running() to stopping(), with what was accounted to the task in between.
structure Run extends TimeInterval where
  accounted : Nat
  -- what was added to boost_used
  boostCharged : Nat
  -- what was accounted while the task was boosted
  boosted : Nat
deriving DecidableEq, Repr

-- The totals at the beginning of a run.
structure OpenRun where
  start : Nat
  accounted : Nat
  boostUsed : Nat
  boosted : Nat
deriving DecidableEq, Repr

-- What an observer notes of one task. He looks at a clock of his own, and at the calls of
-- duty_account and the value of boost_used.
structure Ledger where
  -- all that was accounted while the task was boosted
  boosted : Nat
  opened : Option OpenRun
  -- since when the task sleeps
  asleep : Option Nat
  runs : List Run
  sleeps : List TimeInterval

def Ledger.empty : Ledger := ⟨0, none, none, [], []⟩

def Ledger.intervals (ledger : Ledger) : List TimeInterval :=
  ledger.runs.map (·.toTimeInterval) ++ ledger.sleeps

def Ledger.startRun (ledger : Ledger) (now : Nat) (life : Life) : Ledger :=
  { ledger with opened := some ⟨now, life.accounted, life.view.boostUsed, ledger.boosted⟩ }

def Ledger.endRun (ledger : Ledger) (now : Nat) (life : Life) : Ledger :=
  match ledger.opened with
  | none => ledger
  | some run =>
      { ledger with
        opened := none
        runs :=
          { start := run.start
            stop := now
            accounted := life.accounted - run.accounted
            boostCharged := life.view.boostUsed - run.boostUsed
            boosted := ledger.boosted - run.boosted } :: ledger.runs }

def Ledger.endSleep (ledger : Ledger) (now : Nat) : Ledger :=
  match ledger.asleep with
  | none => ledger
  | some start => { ledger with asleep := none, sleeps := ⟨start, now⟩ :: ledger.sleeps }

-- What was accounted to the task between two states of it.
def Ledger.charge (before after : Life) (ledger : Ledger) : Ledger :=
  { ledger with
    boosted := ledger.boosted +
      if before.view.boost ≠ DSQ_TYPE_EMPTY then after.accounted - before.accounted else 0 }

def Ledger.note (p : Task) (after : Life) (event : Event) (ledger : Ledger) : Ledger :=
  match event with
  | .running k q => if q = p then ledger.startRun k.now after else ledger
  | .stopping k q _ => if q = p then ledger.endRun k.now after else ledger
  | .quiescent k q sleep => if q = p ∧ sleep then { ledger with asleep := some k.now } else ledger
  | .runnable k q _ _ => if q = p then ledger.endSleep k.now else ledger
  | _ => ledger

def watchLedgers (ledgers : Task → Ledger) (sys : Sys) (event : Event) (sys' : Sys) : Task → Ledger :=
  fun p => ((ledgers p).charge (sys.life p) (sys'.life p)).note p (sys'.life p) event

-- What the ledger of a task says agrees with the state of the task.
structure LedgerOk (life : Life) (ledger : Ledger) (clock : Nat) : Prop where
  closed : ∀ run ∈ ledger.runs, run.accounted = run.length ∧ run.boostCharged = run.boosted
  slept : life.slept = (ledger.sleeps.map TimeInterval.length).sum
  apart : ledger.intervals.Pairwise TimeInterval.Apart
  ordered : ∀ i ∈ ledger.intervals, i.start ≤ i.stop ∧ i.stop ≤ clock
  opened : ∀ run, ledger.opened = some run → life.phase = .running ∧
    (∀ i ∈ ledger.intervals, i.stop ≤ run.start) ∧
    run.start ≤ life.view.startedAt ∧ life.view.startedAt ≤ clock ∧
    life.accounted = run.accounted + (life.view.startedAt - run.start) ∧
    run.accounted = (ledger.runs.map (·.length)).sum ∧
    run.boosted ≤ ledger.boosted ∧
    life.view.boostUsed = run.boostUsed + (ledger.boosted - run.boosted)
  off : ledger.opened = none → life.phase ≠ .running ∧
    life.accounted = (ledger.runs.map (·.length)).sum
  asleep : ∀ t, ledger.asleep = some t → life.phase = .dequeued .sleep ∧
    (∀ i ∈ ledger.intervals, i.stop ≤ t) ∧ life.view.blockedAt = t ∧ 0 < t ∧ t ≤ clock
  awake : ledger.asleep = none → life.view.blockedAt = 0
  pos : 0 < clock

theorem Ledger.charge_none {before after : Life} (ledger : Ledger)
    (h : after.accounted = before.accounted) : ledger.charge before after = ledger := by
  simp [Ledger.charge, h]

theorem Ledger.charge_same {before after : Life} (ledger : Ledger)
    (h : after.charges = before.charges) : ledger.charge before after = ledger :=
  ledger.charge_none (congrArg (fun charges => (charges.map (·.1)).sum) h)

theorem Ledger.note_same {sys : Sys} {event : Event} {p : Task} (ledger : Ledger) (after : Life)
    (h : event.subject sys ≠ some p) : ledger.note p after event = ledger := by
  have hne {q : Task} (he : event.subject sys = some q) : q ≠ p := fun hq => h (hq ▸ he)
  cases event with
  | running k q => exact if_neg (hne rfl)
  | stopping k q runnable => exact if_neg (hne rfl)
  | quiescent k q sleep => exact if_neg fun hq => hne rfl hq.1
  | runnable k q wakeup cpu => exact if_neg (hne rfl)
  | _ => rfl

namespace LedgerOk

variable {m : Machine} {sys sys' : Sys} {event : Event} {p : Task} {life life' : Life}
  {ledger : Ledger} {clock clock' : Nat}

theorem later (h : LedgerOk life ledger clock) (hclock : clock ≤ clock') :
    LedgerOk life ledger clock' where
  closed := h.closed
  slept := h.slept
  apart := h.apart
  ordered := fun i hi => ⟨(h.ordered i hi).1, Nat.le_trans (h.ordered i hi).2 hclock⟩
  opened := fun run hr => by
    obtain ⟨hp, hi, hs, hc, hrest⟩ := h.opened run hr
    exact ⟨hp, hi, hs, Nat.le_trans hc hclock, hrest⟩
  off := h.off
  asleep := fun t ht => by
    obtain ⟨hp, hi, hb, h0, hc⟩ := h.asleep t ht
    exact ⟨hp, hi, hb, h0, Nat.le_trans hc hclock⟩
  awake := h.awake
  pos := Nat.lt_of_lt_of_le h.pos hclock

theorem opened_of_running (h : LedgerOk life ledger clock) (hphase : life.phase = .running) :
    ∃ run, ledger.opened = some run := by
  cases ho : ledger.opened with
  | none => exact absurd hphase (h.off ho).1
  | some run => exact ⟨run, rfl⟩

theorem not_opened (h : LedgerOk life ledger clock) (hphase : life.phase ≠ .running) :
    ledger.opened = none := by
  cases ho : ledger.opened with
  | none => rfl
  | some run => exact absurd (h.opened run ho).1 hphase

theorem not_asleep (h : LedgerOk life ledger clock) (hphase : life.phase ≠ .dequeued .sleep) :
    ledger.asleep = none := by
  cases ha : ledger.asleep with
  | none => rfl
  | some t => exact absurd (h.asleep t ha).1 hphase

-- A task that does not run and is not accounted to.
theorem quiet (h : LedgerOk life ledger clock) (hcharges : life'.charges = life.charges)
    (hblocked : life'.view.blockedAt = life.view.blockedAt) (hold : life.phase ≠ .running)
    (hnew : life'.phase ≠ .running)
    (hsleep : life.phase = .dequeued .sleep → life'.phase = .dequeued .sleep) :
    LedgerOk life' ledger clock where
  closed := h.closed
  slept := by
    rw [Life.slept, hcharges]
    exact h.slept
  apart := h.apart
  ordered := h.ordered
  opened := fun run hr => by simp [h.not_opened hold] at hr
  off := fun ho => ⟨hnew, by rw [Life.accounted, hcharges]; exact (h.off ho).2⟩
  asleep := fun t ht => by
    obtain ⟨hp, hi, hb, hrest⟩ := h.asleep t ht
    exact ⟨hsleep hp, hi, hblocked.trans hb, hrest⟩
  awake := fun ha => hblocked.trans (h.awake ha)
  pos := h.pos

theorem start (h : Sys.Start m sys) (p : Task) : LedgerOk (sys.life p) .empty sys.clock := by
  obtain ⟨s, now, hsched, -, hctx, heffects, -⟩ := h.sched
  have hinit := lunarInit_spec m now s
  have hcharges : (sys.life p).charges = [] := by
    simp [Sys.life, Sched.charges, Sched.accounts, hsched, hinit.effects, heffects]
  have hblocked : (sys.life p).view.blockedAt = 0 := by
    simp [Sys.life, Sched.view, hsched, hinit.taskCtxStore, hctx]
  constructor
  · simp [Ledger.empty]
  · simp [Life.slept, hcharges, Ledger.empty]
  · simp [Ledger.intervals, Ledger.empty]
  · simp [Ledger.intervals, Ledger.empty]
  · simp [Ledger.empty]
  · simp [Sys.life, h.phase, Life.accounted, Ledger.empty, show sys.sched.charges p = [] from hcharges]
  · simp [Ledger.empty]
  · exact fun _ => hblocked
  · exact h.clock

-- A running task is accounted to, up to now.
theorem charge (h : LedgerOk life ledger clock) (hclock : clock ≤ clock')
    (hphase : life.phase = .running) (hphase' : life'.phase = .running)
    (hcharges : life'.charges = (elapsed clock' life.view.startedAt, 0) :: life.charges)
    (hstarted : life'.view.startedAt = clock')
    (hused : life'.view.boostUsed = life.view.charged (elapsed clock' life.view.startedAt))
    (hblocked : life'.view.blockedAt = life.view.blockedAt) :
    LedgerOk life' (ledger.charge life life') clock' := by
  obtain ⟨run, hrun⟩ := h.opened_of_running hphase
  obtain ⟨-, hi, hstart, hle, haccounted, hsum, hboosted, hboostUsed⟩ := h.opened run hrun
  have hasleep := h.not_asleep (by simp [hphase])
  have haccounted' : life'.accounted = life.accounted + (clock' - life.view.startedAt) := by
    simp [Life.accounted, hcharges, elapsed_eq, Nat.add_comm]
  have hslept' : life'.slept = life.slept := by simp [Life.slept, hcharges]
  have hlater := h.later hclock
  refine ⟨h.closed, hslept'.trans h.slept, h.apart, hlater.ordered, fun run' hr => ?_,
    fun ho => ?_, fun t ht => ?_, fun ha => hblocked.trans (h.awake ha), hlater.pos⟩
  · have he : run' = run := Option.some.inj (hr.symm.trans hrun)
    subst he
    refine ⟨hphase', hi, by omega, by omega, ?_, hsum, ?_, ?_⟩
    · rw [haccounted', haccounted, hstarted]
      omega
    · exact Nat.le_trans hboosted (Nat.le_add_right _ _)
    · rw [hused, TaskView.charged, hboostUsed, elapsed_eq]
      dsimp only [Ledger.charge]
      split_ifs
      · omega
      · rfl
  · rw [show ledger.opened = none from ho] at hrun
    cases hrun
  · rw [show ledger.asleep = some t from ht] at hasleep
    cases hasleep

-- A run ends, with everything accounted for.
theorem endRun (h : LedgerOk life ledger clock) (hphase : life.phase = .running)
    (hstarted : life.view.startedAt = clock) (hphase' : life'.phase ≠ .running)
    (hcharges : life'.charges = life.charges) (hused : life'.view.boostUsed = life.view.boostUsed)
    (hblocked : life'.view.blockedAt = life.view.blockedAt) :
    LedgerOk life' (ledger.endRun clock life') clock := by
  obtain ⟨run, hrun⟩ := h.opened_of_running hphase
  obtain ⟨-, hi, hstart, hle, haccounted, hsum, hboosted, hboostUsed⟩ := h.opened run hrun
  have hasleep := h.not_asleep (by simp [hphase])
  have haccounted' : life'.accounted = life.accounted := by rw [Life.accounted, hcharges]; rfl
  have hslept' : life'.slept = life.slept := by rw [Life.slept, hcharges]; rfl
  simp only [Ledger.endRun, hrun]
  refine ⟨?_, hslept'.trans h.slept, ?_, ?_, ?_, ?_, ?_, fun ha => hblocked.trans (h.awake ha), h.pos⟩
  · rintro r hr
    rcases List.mem_cons.mp hr with rfl | hr
    · dsimp only [TimeInterval.length]
      rw [haccounted', hused]
      omega
    · exact h.closed r hr
  · exact TimeInterval.pairwise_insert (l := []) h.apart hi
  · intro i hmem
    rcases List.mem_cons.mp hmem with rfl | hmem
    · exact ⟨by dsimp only; omega, Nat.le_refl _⟩
    · exact h.ordered i hmem
  · intro run' hr
    cases hr
  · intro _
    refine ⟨hphase', ?_⟩
    change life'.accounted = clock - run.start + (ledger.runs.map (·.length)).sum
    omega
  · intro t ht
    rw [show ledger.asleep = some t from ht] at hasleep
    cases hasleep

-- What lunar_stopping does: the same as a dispatch first, and then the end of the run.
theorem stops (h : LedgerOk life ledger clock) (hclock : clock ≤ clock')
    (hphase : life.phase = .running) (hphase' : life'.phase ≠ .running)
    (hcharges : life'.charges = (elapsed clock' life.view.startedAt, 0) :: life.charges)
    (hused : life'.view.boostUsed = life.view.charged (elapsed clock' life.view.startedAt))
    (hblocked : life'.view.blockedAt = life.view.blockedAt) :
    LedgerOk life' ((ledger.charge life life').endRun clock' life') clock' := by
  let atEnd : Life := { life' with
    phase := .running, view := { life'.view with startedAt := clock' } }
  have hcharged : LedgerOk atEnd (ledger.charge life atEnd) clock' :=
    h.charge hclock hphase rfl hcharges rfl hused hblocked
  exact hcharged.endRun rfl rfl hphase' rfl rfl rfl

theorem startRun (h : LedgerOk life ledger clock) (hphase : life.phase = .queued)
    (hphase' : life'.phase = .running) (hstarted : life'.view.startedAt = clock)
    (hcharges : life'.charges = life.charges)
    (hblocked : life'.view.blockedAt = life.view.blockedAt) :
    LedgerOk life' (ledger.startRun clock life') clock := by
  have hasleep := h.not_asleep (by simp [hphase])
  have haccounted' : life'.accounted = life.accounted := by rw [Life.accounted, hcharges]; rfl
  have hslept' : life'.slept = life.slept := by rw [Life.slept, hcharges]; rfl
  have hsum := (h.off (h.not_opened (by simp [hphase]))).2
  refine ⟨h.closed, hslept'.trans h.slept, h.apart, h.ordered, ?_, ?_, ?_,
    fun ha => hblocked.trans (h.awake ha), h.pos⟩
  · rintro run hr
    obtain rfl := Option.some.inj hr
    refine ⟨hphase', fun i hi => (h.ordered i hi).2, by dsimp only; omega, by omega, ?_, ?_,
      Nat.le_refl _, by simp [Ledger.startRun]⟩
    · dsimp only
      omega
    · exact haccounted'.trans hsum
  · intro ho
    cases ho
  · intro t ht
    rw [show ledger.asleep = some t from ht] at hasleep
    cases hasleep

-- A task that is runnable again. A sleep is accounted to it if there was one.
theorem endSleep (h : LedgerOk life ledger clock) {origin : Origin}
    (hphase : life.phase = .dequeued origin) (hphase' : life'.phase = .runnable origin)
    (hcharges : life'.charges = if life.view.blockedAt ≠ 0 then
      (0, elapsed clock life.view.blockedAt) :: life.charges else life.charges)
    (hblocked : life'.view.blockedAt = 0) : LedgerOk life' (ledger.endSleep clock) clock := by
  have hopened := h.not_opened (by simp [hphase])
  have hsum := (h.off hopened).2
  cases ha : ledger.asleep with
  | none =>
      rw [if_neg (by simp [h.awake ha])] at hcharges
      have hsame : ledger.endSleep clock = ledger := by simp [Ledger.endSleep, ha]
      rw [hsame]
      refine ⟨h.closed, ?_, h.apart, h.ordered, ?_, ?_, ?_, fun _ => hblocked, h.pos⟩
      · rw [Life.slept, hcharges]
        exact h.slept
      · simp [hopened]
      · intro _
        refine ⟨by simp [hphase'], ?_⟩
        rw [Life.accounted, hcharges]
        exact hsum
      · simp [ha]
  | some t =>
      obtain ⟨-, hi, hb, hpos, hle⟩ := h.asleep t ha
      rw [if_pos (by omega), hb, elapsed_eq] at hcharges
      simp only [Ledger.endSleep, ha]
      refine ⟨h.closed, ?_, ?_, ?_, ?_, ?_, ?_, fun _ => hblocked, h.pos⟩
      · have hslept := h.slept
        rw [Life.slept] at hslept
        simp [Life.slept, hcharges, TimeInterval.length, hslept]
      · exact TimeInterval.pairwise_insert h.apart hi
      · intro i hmem
        rcases List.mem_append.mp hmem with hmem | hmem
        · exact h.ordered i (List.mem_append_left _ hmem)
        · rcases List.mem_cons.mp hmem with rfl | hmem
          · exact ⟨hle, Nat.le_refl _⟩
          · exact h.ordered i (List.mem_append_right _ hmem)
      · simp [hopened]
      · intro _
        refine ⟨by simp [hphase'], ?_⟩
        rw [Life.accounted] at hsum
        simp [Life.accounted, hcharges, hsum]
      · simp

-- A task goes to sleep, or is only taken out.
theorem dequeue (h : LedgerOk life ledger clock) {sleep : Bool} {origin : Origin}
    (hphase : life.phase ≠ .running) (hdequeued : life.phase ≠ .dequeued .sleep)
    (hphase' : life'.phase = .dequeued origin) (horigin : sleep → origin = .sleep)
    (hcharges : life'.charges = life.charges)
    (hblocked : life'.view.blockedAt = if sleep then clock else 0) :
    LedgerOk life' (if sleep then { ledger with asleep := some clock } else ledger) clock := by
  have hopened := h.not_opened hphase
  have hasleep := h.not_asleep hdequeued
  have hslept' : life'.slept = life.slept := by rw [Life.slept, hcharges]; rfl
  have hoff : life'.phase ≠ .running ∧ life'.accounted = (ledger.runs.map (·.length)).sum := by
    refine ⟨by simp [hphase'], ?_⟩
    rw [Life.accounted, hcharges]
    exact (h.off hopened).2
  cases sleep with
  | false =>
      exact ⟨h.closed, hslept'.trans h.slept, h.apart, h.ordered, by simp [hopened], fun _ => hoff,
        by simp [hasleep], fun _ => hblocked, h.pos⟩
  | true =>
      refine ⟨h.closed, hslept'.trans h.slept, h.apart, h.ordered, by simp [hopened], fun _ => hoff, ?_,
        by simp, h.pos⟩
      intro t ht
      obtain rfl := Option.some.inj ht
      exact ⟨by rw [hphase', horigin rfl], fun i hi => (h.ordered i hi).2, hblocked, h.pos,
        Nat.le_refl _⟩

theorem step (ledgers : Task → Ledger) (h : LedgerOk (sys.life p) (ledgers p) sys.clock)
    (hl : LifeStep sys p (sys'.life p) event) (hclock : sys.clock ≤ sys'.clock)
    (htime : sys'.clock = event.time sys.clock) :
    LedgerOk (sys'.life p) (watchLedgers ledgers sys event sys' p) sys'.clock := by
  have hlater := h.later hclock
  cases hl with
  | same hsubject h' =>
      rw [watchLedgers, Ledger.note_same _ _ hsubject, Ledger.charge_same _ (by rw [h']), h']
      exact hlater
  | initTask hphase h' _ _ hblocked =>
      rw [watchLedgers, Ledger.charge_same _ (by rw [h']), h']
      exact hlater.quiet rfl hblocked (by simp [Sys.life, hphase]) (by simp) (by simp)
  | selectCpu hphase h' hv _ =>
      rw [watchLedgers, Ledger.charge_same _ (by rw [h']), h']
      refine hlater.quiet rfl ?_ (by simp [Sys.life, hphase]) (by simp [Sys.life, hphase]) (by simp)
      rcases hv with rfl | ⟨w, -, rfl⟩ <;> rfl
  | @runnable k _ _ origin tier hphase h' =>
      have hnow : sys'.clock = k.now := htime
      rw [← hnow] at h'
      have hnone : (sys'.life p).accounted = (sys.life p).accounted := by
        rw [h']
        dsimp only [Life.accounted]
        split_ifs <;> simp [Sys.life]
      rw [watchLedgers, Ledger.charge_none _ hnone]
      simp only [Ledger.note, if_true, ← hnow]
      exact hlater.endSleep hphase (by rw [h']) (by rw [h']; rfl) (by rw [h'])
  | enqueue hphase hv _ _ h' =>
      have hoff : sys.phase p ≠ .running ∧ sys.phase p ≠ .dequeued .sleep := by
        rcases hphase with (hp | hp) | ⟨hp, -⟩ | hp <;> simp [hp]
      rw [watchLedgers, Ledger.charge_same _ (by rw [h']), h']
      refine hlater.quiet rfl ?_ hoff.1 (by simp) fun hs => absurd hs hoff.2
      rcases hv with rfl | ⟨w, -, rfl⟩ <;> rfl
  | enqueueLocal hphase h' =>
      have hoff : sys.phase p ≠ .running ∧ sys.phase p ≠ .dequeued .sleep := by
        rcases hphase with (hp | hp) | hp | hp <;> simp [hp]
      rw [watchLedgers, Ledger.charge_same _ (by rw [h']), h']
      exact hlater.quiet rfl rfl hoff.1 (by simp) fun hs => absurd hs hoff.2
  | insertDirect hphase _ h' =>
      have hoff : sys.phase p ≠ .running ∧ sys.phase p ≠ .dequeued .sleep := by
        rcases hphase with hp | hp <;> simp [hp]
      rw [watchLedgers, Ledger.charge_same _ (by rw [h']), h']
      exact hlater.quiet rfl rfl hoff.1 (by simp) fun hs => absurd hs hoff.2
  | restore hphase h' =>
      rw [watchLedgers, Ledger.charge_same _ (by rw [h']), h']
      exact hlater.quiet rfl rfl (by simp [Sys.life, hphase]) (by simp) (by simp [Sys.life, hphase])
  | putBack hphase _ h' =>
      rw [watchLedgers, Ledger.charge_same _ (by rw [h']), h']
      exact hlater.quiet rfl rfl (by simp [Sys.life, hphase]) (by simp) (by simp [Sys.life, hphase])
  | consumeSlice hphase _ h' =>
      rw [watchLedgers, Ledger.charge_same _ (by rw [h']), h']
      exact ⟨hlater.closed, hlater.slept, hlater.apart, hlater.ordered, hlater.opened, hlater.off,
        hlater.asleep, hlater.awake, hlater.pos⟩
  | @replaced k _ _ _ _ _ hphase _ h' =>
      have hnow : sys'.clock = k.now := htime
      rw [← hnow] at h'
      exact h.charge hclock hphase (by rw [h']; exact hphase) (by rw [h']; rfl) (by rw [h']; rfl)
        (by rw [h']; rfl) (by rw [h']; rfl)
  | @continued k _ _ _ _ _ _ hphase _ h' =>
      have hnow : sys'.clock = k.now := htime
      rw [← hnow] at h'
      exact h.charge hclock hphase (by rw [h']; exact hphase) (by rw [h']; rfl) (by rw [h']; rfl)
        (by rw [h']; rfl) (by rw [h']; rfl)
  | @running k hphase h' =>
      have hnow : sys'.clock = k.now := htime
      rw [watchLedgers, Ledger.charge_same _ (by rw [h'])]
      simp only [Ledger.note, if_true, ← hnow]
      rw [← hnow] at h'
      exact hlater.startRun hphase (by rw [h']) (by rw [h']) (by rw [h']) (by rw [h']; rfl)
  | @stopping k runnable tier hphase h' =>
      have hnow : sys'.clock = k.now := htime
      rw [← hnow] at h'
      have hnew : (sys'.life p).phase ≠ .running := by
        rw [h']
        cases runnable <;> simp
      rw [watchLedgers]
      simp only [Ledger.note, if_true, ← hnow]
      exact h.stops hclock hphase hnew (by rw [h']; rfl) (by rw [h']; rfl) (by rw [h']; rfl)
  | @quiescent k sleep tier origin hphase horigin h' =>
      have hnow : sys'.clock = k.now := htime
      have hoff : sys.phase p ≠ .running ∧ sys.phase p ≠ .dequeued .sleep := by
        rcases hphase with hp | hp <;> simp [hp]
      rw [watchLedgers, Ledger.charge_same _ (by rw [h'])]
      simp only [Ledger.note, true_and, ← hnow]
      rw [← hnow] at h'
      have hdequeued : (sys'.life p).phase = .dequeued origin := by rw [h']
      refine hlater.dequeue hoff.1 hoff.2 hdequeued (fun hs => ?_) (by rw [h']) (by rw [h'])
      rw [horigin, if_pos hs]

end LedgerOk

-- No nanosecond is lost or counted twice.
theorem time_conserved {m : Machine} {start : Sys} {state : Sys × (Task → Ledger)}
    (hstart : Sys.Start m start)
    (hreach : ((lunarSys m).observe watchLedgers).Reaches (start, fun _ => .empty) state) (p : Task) :
    (∀ run ∈ (state.2 p).runs, run.accounted = run.length ∧ run.boostCharged = run.boosted) ∧
      (state.1.phase p ≠ .running →
        (state.1.life p).accounted = ((state.2 p).runs.map (·.length)).sum) ∧
      (state.1.life p).slept = ((state.2 p).sleeps.map TimeInterval.length).sum ∧
      (∀ i ∈ (state.2 p).intervals, i.start ≤ i.stop ∧ i.stop ≤ state.1.clock) ∧
      (state.2 p).intervals.Pairwise TimeInterval.Apart := by
  have h := Inv.always_observed (P := fun sys ledgers => ∀ p, LedgerOk (sys.life p) (ledgers p) sys.clock)
    (fun sys sys' ledgers event hinv hok hs hclock htime p =>
      (hok p).step ledgers (hs.life hinv p) hclock htime)
    hstart (fun p => LedgerOk.start hstart p) hreach
  have hp := h.2 p
  exact ⟨hp.closed, fun hoff => (hp.off (hp.not_opened hoff)).2, hp.slept, hp.ordered, hp.apart⟩

section RunThenSleep

-- Task 1 runs for a slice and a half, sleeps and is woken up.
def runThenSleep : List Event :=
  .initTask (.task 10 0 0) 1 :: wakeUp (.task 10 0 0) 1 0 ++ pickNext (.task 20 0 0) 1 ++
    [.consumeSlice 1 0, .dispatch (.task 1000020 0 1) 0 (some 1) fun _ => 0] ++
    goToSleep (.task 1500020 0 1) 1 ++ wakeUp (.task 3500020 0 0) 1 0

def runThenSleepState : Sys × (Task → Ledger) :=
  ((lunarSys oneCpu).observe watchLedgers).final (oneCpuBoot, fun _ => .empty) runThenSleep

theorem time_conserved_runThenSleep :
    (runThenSleepState.2 1).intervals = [⟨20, 1500020⟩, ⟨1500020, 3500020⟩] ∧
      (runThenSleepState.1.life 1).slept =
        ((runThenSleepState.2 1).sleeps.map TimeInterval.length).sum ∧
      (runThenSleepState.2 1).intervals.Pairwise TimeInterval.Apart := by
  have hreach : ((lunarSys oneCpu).observe watchLedgers).Reaches (oneCpuBoot, fun _ => .empty)
      runThenSleepState := ⟨runThenSleep, by decide +kernel, rfl⟩
  have hstart : Sys.Start oneCpu oneCpuBoot := Sys.start_boot oneCpu (by decide) fun _ => rfl
  have h := time_conserved hstart hreach 1
  exact ⟨by decide +kernel, h.2.2.1, h.2.2.2.2⟩

end RunThenSleep

end Lunar
