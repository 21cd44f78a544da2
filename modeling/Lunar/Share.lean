import Lunar.Classification
import Lunar.Duty
import Lunar.Library.Halving
import Mathlib.Data.List.Infix

namespace Lunar

open Halving

-- The duty of a task against what it did of late with its time.

def TaskCtx.accs (tctx : TaskCtx) : Nat × Nat := (tctx.runAcc, tctx.sleepAcc)

-- What duty_account makes of its arguments: one run and one sleep count for at most
-- DUTY_WINDOW_NS each, however long they were.
def credited (charge : Nat × Nat) : Nat × Nat := (min charge.1 DUTY_WINDOW_NS, min charge.2 DUTY_WINDOW_NS)

def creditedRun (charges : List (Nat × Nat)) : Nat := firsts (charges.map credited)

def creditedSleep (charges : List (Nat × Nat)) : Nat := seconds (charges.map credited)

section Accounts

variable {tctx tctx' : TaskCtx}

theorem DutyOk.accs_account (h : DutyOk tctx) (run slept : Nat) :
    (dutyAccount tctx run slept).accs = add DUTY_WINDOW_NS tctx.accs (credited (run, slept)) := by
  have hfull : Halves tctx run slept ↔ 2 * DUTY_WINDOW_NS <
      (tctx.accs.1 + (credited (run, slept)).1) + (tctx.accs.2 + (credited (run, slept)).2) := Iff.rfl
  rw [h.dutyAccount_eq, add]
  by_cases hhalves : Halves tctx run slept
  · rw [if_pos hhalves, if_pos (hfull.mp hhalves)]
    rfl
  · rw [if_neg hhalves, if_neg (hfull.not.mp hhalves)]
    rfl

-- A task_ctx, by what was accounted to it since it was tctx.
structure Credited (tctx : TaskCtx) (charges : List (Nat × Nat)) (tctx' : TaskCtx) : Prop where
  ok : DutyOk tctx'
  accs : tctx'.accs = addAll DUTY_WINDOW_NS tctx.accs (charges.map credited)
  duty : charges ≠ [] → tctx'.duty = taskDuty tctx'

theorem DutyOk.credited (h : DutyOk tctx) : Credited tctx [] tctx := ⟨h, rfl, fun hne => absurd rfl hne⟩

-- Every charge evaluates duty anew, and nothing else writes it.
theorem CtxStep.duty {s : Sched} {p : Task} {event : Callback} {ctx : Option TaskCtx}
    {log : List (Nat × Nat)} (hstep : CtxStep s p event ctx log) (hlasting : ∀ k, event ≠ .initTask k p)
    (hctx : s.taskCtxStore p = some tctx) (hctx' : ctx = some tctx') :
    (log = [] → tctx'.duty = tctx.duty) ∧ (log ≠ [] → tctx'.duty = taskDuty tctx') := by
  have hkept {after : TaskCtx} (hduty : after.duty = tctx.duty) :
      ([] = ([] : List (Nat × Nat)) → after.duty = tctx.duty) ∧
        ([] ≠ ([] : List (Nat × Nat)) → after.duty = taskDuty after) :=
    ⟨fun _ => hduty, fun hne => absurd rfl hne⟩
  -- What a charge ends with: the tier has no part in the duty.
  have hcharged (now : Nat) {charge : Nat × Nat} {accounted after : TaskCtx}
      (hduty : accounted.duty = taskDuty accounted)
      (hafter : ∃ boost granted resume, after = { updateTaskDsqType (s.task p) accounted now with
        boostDsqType := boost, grantedSlice := granted, resumeSlice := resume }) :
      ([charge] = [] → after.duty = tctx.duty) ∧ ([charge] ≠ [] → after.duty = taskDuty after) := by
    obtain ⟨boost, granted, resume, rfl⟩ := hafter
    obtain ⟨tier, crit, hframe⟩ := updateTaskDsqType_frame (s.task p) accounted now
    rw [hframe]
    exact ⟨fun h => absurd h (by simp), fun _ => hduty⟩
  have hwoken (k : Call) (wakeup : Bool) : (tctx.woken k wakeup).duty = tctx.duty := by
    unfold TaskCtx.woken
    split_ifs <;> rfl
  have happly (k : Call) (wakeup : Bool) :
      (if wakeup then applyWakeBoost k s p tctx else tctx).duty = tctx.duty := by
    obtain ⟨boost, used, hboost⟩ := applyWakeBoost_frame k s p tctx
    rw [hboost]
    split_ifs <;> rfl
  have hsame {tctx0 : TaskCtx} (h : s.taskCtxStore p = some tctx0) : tctx0 = tctx :=
    Option.some.inj (h.symm.trans hctx)
  cases hstep with
  | same => exact hkept (congrArg TaskCtx.duty (hsame hctx'))
  | initTask => exact absurd rfl (hlasting _)
  | @selectCpu k ttwu _ tctx0 h =>
      obtain rfl := hsame h
      cases hctx'
      exact hkept (happly k ttwu)
  | @enqueue k _ flags tctx0 _ _ h =>
      obtain rfl := hsame h
      cases hctx'
      exact hkept (happly k flags.wakeup)
  | @dispatch k _ _ _ tctx0 pending _ _ h _ =>
      obtain rfl := hsame h
      cases hctx'
      obtain ⟨_, _, -, haccounted⟩ := chargePrev_accounted (s.task p) k.now tctx0 pending
      rw [haccounted]
      exact hcharged k.now rfl ⟨_, _, _, rfl⟩
  | @running _ tctx0 _ h =>
      obtain rfl := hsame h
      cases hctx'
      exact hkept rfl
  | @stopping k _ tctx0 _ _ h _ =>
      obtain rfl := hsame h
      cases hctx'
      obtain ⟨_, haccounted⟩ := chargeStopped_accounted (s.task p) k.now tctx0
      rw [haccounted]
      exact hcharged k.now rfl ⟨_, _, _, rfl⟩
  | @quiescent _ _ tctx0 _ h =>
      obtain rfl := hsame h
      cases hctx'
      exact hkept rfl
  | @woken k wakeup tctx0 h =>
      obtain rfl := hsame h
      cases hctx'
      exact hkept (hwoken k wakeup)
  | @slept k wakeup tctx0 h =>
      cases hctx'
      unfold chargeSleep reevaluate countSample
      exact hcharged k.now rfl ⟨_, _, _, rfl⟩
  | @waker _ _ wctx h _ =>
      obtain rfl := hsame h
      cases hctx'
      exact hkept rfl

theorem Credited.step {first : TaskCtx} {charges log : List (Nat × Nat)} (h : Credited first charges tctx)
    (hstep : DutyStep tctx tctx' log)
    (hduty : (log = [] → tctx'.duty = tctx.duty) ∧ (log ≠ [] → tctx'.duty = taskDuty tctx')) :
    Credited first (log ++ charges) tctx' := by
  cases hstep with
  | kept hrun hsleep _ =>
      refine ⟨h.ok.of_accs hrun hsleep, ?_, fun hne => ?_⟩
      · exact (Prod.ext hrun hsleep : tctx'.accs = tctx.accs).trans h.accs
      · rw [hduty.1 rfl, h.duty hne, taskDuty_accs hrun hsleep]
  | @charged run slept hrun hsleep _ =>
      refine ⟨(h.ok.account run slept).of_accs hrun hsleep, ?_, fun _ => hduty.2 (by simp)⟩
      calc tctx'.accs = (dutyAccount tctx run slept).accs := Prod.ext hrun hsleep
        _ = add DUTY_WINDOW_NS tctx.accs (credited (run, slept)) := h.ok.accs_account run slept
        _ = add DUTY_WINDOW_NS (addAll DUTY_WINDOW_NS first.accs (charges.map credited)) (credited (run, slept)) := by
            rw [h.accs]

end Accounts

section Runs

variable {m : Machine} {p : Task} {s : Sched} {tctx : TaskCtx}

-- What a task_ctx is after a run is what was charged in it, on top of what it was before.
theorem credited_runs (hctx : s.taskCtxStore p = some tctx) (hok : DutyOk tctx) {events : List Callback}
    (hruns : (lasting m p).Runs s events) {charges : List (Nat × Nat)}
    (hcharges : ((lasting m p).final s events).charges p = charges ++ s.charges p) :
    ∃ tctx', ((lasting m p).final s events).taskCtxStore p = some tctx' ∧ Credited tctx charges tctx' := by
  have hinv := (lasting m p).invariant_of_runs
    (P := fun s' => ∃ tctx' new, s'.taskCtxStore p = some tctx' ∧ s'.charges p = new ++ s.charges p ∧
      Credited tctx new tctx') ?_ ⟨tctx, [], hctx, rfl, hok.credited⟩ hruns
  · obtain ⟨tctx', new, hctx', hnew, h⟩ := hinv
    rw [hcharges] at hnew
    obtain rfl := List.append_cancel_right hnew
    exact ⟨tctx', hctx', h⟩
  · rintro s' event ⟨tctx1, new, hctx1, hnew, h⟩ ⟨hcallback, hrecord, hlasting⟩
    obtain ⟨log, hstep, hlog⟩ := (callbacks_stepped hcallback hrecord).step p
    obtain ⟨tctx2, hctx2, hduty⟩ := hstep.dutyStep hlasting hctx1
    refine ⟨tctx2, log ++ new, hctx2, ?_, h.step hduty (hstep.duty hlasting hctx1 hctx2)⟩
    exact hlog.trans (by rw [hnew, List.append_assoc])

end Runs

section Bounds

variable {tctx tctx' : TaskCtx} {charges : List (Nat × Nat)} {q r burst : Nat}

theorem credited_le (charges : List (Nat × Nat)) :
    ∀ part ∈ charges.map credited, part.1 ≤ DUTY_WINDOW_NS ∧ part.2 ≤ DUTY_WINDOW_NS := by
  intro part hpart
  obtain ⟨charge, -, rfl⟩ := List.mem_map.mp hpart
  exact ⟨Nat.min_le_right .., Nat.min_le_right ..⟩

-- 2500 ms are more than eleven halvings can hide.
theorem enough_windows {time : Nat} (htime : 2500 * NS_PER_MS ≤ time) :
    2 * DUTY_WINDOW_NS + 11 * (2 * DUTY_WINDOW_NS + 1) < time := by
  have hvalues := duty_values
  have hms : NS_PER_MS = 1000000 := rfl
  omega

-- Twelve of them leave less than a 1024th of what the accumulators were before.
theorem faded_away {x y c first : Nat} (hfirst : first ≤ 2 * DUTY_WINDOW_NS)
    (h : 2 ^ (11 + 1) * x ≤ 2 ^ (11 + 1) * y + 1024 * (c * first)) : 2 * x ≤ 2 * y + c * DUTY_WINDOW_NS := by
  have hc := Nat.mul_le_mul_left c hfirst
  rw [Nat.mul_left_comm] at hc
  omega

theorem DutyOk.accs_le (h : DutyOk tctx) : tctx.accs.1 + tctx.accs.2 ≤ 2 * DUTY_WINDOW_NS := h.most

theorem Credited.duty_le (h : Credited tctx charges tctx') (hok : DutyOk tctx)
    (htotal : 2500 * NS_PER_MS ≤ creditedRun charges + creditedSleep charges)
    (hrate : ∀ recent, recent <+: charges → r * creditedRun recent ≤ q * creditedSleep recent + burst) :
    (q + r) * taskDuty tctx' * DUTY_WINDOW_NS ≤
      1024 * (q * DUTY_WINDOW_NS + burst) + (q + r) * DUTY_WINDOW_NS := by
  have hparts : ∀ recent, recent <+: charges.map credited →
      r * firsts recent ≤ q * seconds recent + burst := by
    intro recent hrecent
    obtain ⟨recent, hprefix, rfl⟩ := List.prefix_map_iff.mp hrecent
    exact hrate recent hprefix
  obtain ⟨hratio, hwindow⟩ := addAll_ratio hok.accs_le (credited_le charges) (enough_windows htotal) hparts
  rw [← show tctx'.accs = _ from h.accs] at hratio hwindow
  have hshare := faded_away (Nat.le_trans (Nat.le_add_right ..) hok.accs_le) (share_le (g := 1024) hratio hwindow)
  have hsum : (q + r) * DUTY_WINDOW_NS = r * DUTY_WINDOW_NS + q * DUTY_WINDOW_NS := by
    rw [Nat.add_comm, Nat.add_mul]
  rw [show taskDuty tctx' = share 1024 tctx'.accs from h.ok.taskDuty_eq, hsum, Nat.add_comm q r]
  omega

theorem Credited.le_duty (h : Credited tctx charges tctx') (hok : DutyOk tctx)
    (htotal : 2500 * NS_PER_MS ≤ creditedRun charges + creditedSleep charges)
    (hrate : ∀ recent, recent <+: charges → q * creditedSleep recent ≤ r * creditedRun recent + burst) :
    1024 * (q * DUTY_WINDOW_NS) ≤ (q + r) * (taskDuty tctx' + 2) * DUTY_WINDOW_NS + 1024 * burst := by
  have hparts : ∀ recent, recent <+: charges.map credited →
      q * seconds recent ≤ r * firsts recent + burst := by
    intro recent hrecent
    obtain ⟨recent, hprefix, rfl⟩ := List.prefix_map_iff.mp hrecent
    exact hrate recent hprefix
  obtain ⟨hratio, hwindow⟩ :=
    addAll_ratio_swap hok.accs_le (credited_le charges) (enough_windows htotal) hparts
  rw [← show tctx'.accs = _ from h.accs] at hratio hwindow
  have hshare := faded_away (Nat.le_trans (Nat.le_add_left ..) hok.accs_le) (le_share (g := 1024) hratio hwindow)
  have hwide : 2048 * (q + r) ≤ q * DUTY_WINDOW_NS + r * DUTY_WINDOW_NS := by
    rw [← Nat.add_mul, Nat.mul_comm]
    exact Nat.mul_le_mul_left _ (by decide)
  have hnext : (q + r) * (share 1024 tctx'.accs + 2) * DUTY_WINDOW_NS =
      (r + q) * (share 1024 tctx'.accs + 1) * DUTY_WINDOW_NS + r * DUTY_WINDOW_NS + q * DUTY_WINDOW_NS := by
    ring
  rw [show taskDuty tctx' = share 1024 tctx'.accs from h.ok.taskDuty_eq, hnext]
  omega

end Bounds

-- A task that a row of the table does not have in its tier, or in a better one.
theorem Classified.lt_of_duty {tctx : TaskCtx} (h : Classified false tctx) {row : TierRow}
    (hrow : row ∈ tierRows) (hduty : (row.cap + DUTY_HYST : Nat) ≤ tctx.duty) :
    row.tier < tctx.currentDsqType := by
  by_contra hle
  by_cases hmany : DUTY_SAMPLES_NEEDED ≤ tctx.dutySamples
  · have hband := (h.known rfl hmany).1
    have hcap := ((targetTier_le_iff hrow).mp (Nat.le_trans hband (Nat.not_lt.mp hle))).2
    omega
  · have hgreedy := h.unknown rfl (Nat.not_le.mp hmany)
    have hbetter : ∀ row ∈ tierRows, row.tier < DSQ_TYPE_GREEDY := by decide
    exact hle (hgreedy ▸ hbetter row hrow)

-- Whatever a task did before: once it has been accounted 2500 ms, its duty says what it does
-- with its time, as a fraction of 1024. If in all stretches up to now it ran no more than q ns
-- for r ns of sleep, apart from a burst, duty is at most q / (q + r), and what the burst is of
-- a window. If it slept no more than r ns for q ns of run, duty is at least that, and no crit
-- gets it a tier whose cap is lower. All amounts are credited ones: what a single run or sleep
-- lasts beyond DUTY_WINDOW_NS is not seen by duty_account.
theorem duty_follows_share {m : Machine} {start s : Sched} (hstart : ∀ p, start.taskCtxStore p = none)
    (hreach : (callbacks m).Reaches start s) {p : Task} {tctx : TaskCtx}
    (hctx : s.taskCtxStore p = some tctx) {events : List Callback}
    (hruns : (lasting m p).Runs s events) {charges : List (Nat × Nat)}
    (hcharges : ((lasting m p).final s events).charges p = charges ++ s.charges p)
    (htotal : 2500 * NS_PER_MS ≤ creditedRun charges + creditedSleep charges) :
    let s' := (lasting m p).final s events
    ∃ tctx', s'.taskCtxStore p = some tctx' ∧ tctx'.duty = taskDuty tctx' ∧ ∀ q r burst : Nat,
      ((∀ recent, recent <+: charges → r * creditedRun recent ≤ q * creditedSleep recent + burst) →
        (q + r) * taskDuty tctx' * DUTY_WINDOW_NS ≤
          1024 * (q * DUTY_WINDOW_NS + burst) + (q + r) * DUTY_WINDOW_NS) ∧
      ((∀ recent, recent <+: charges → q * creditedSleep recent ≤ r * creditedRun recent + burst) →
        1024 * (q * DUTY_WINDOW_NS) ≤ (q + r) * (taskDuty tctx' + 2) * DUTY_WINDOW_NS + 1024 * burst ∧
        ((s'.task p).kthread = false → ∀ row ∈ tierRows,
          (q + r) * (row.cap + DUTY_HYST + 2) * DUTY_WINDOW_NS + 1024 * burst < 1024 * (q * DUTY_WINDOW_NS) →
            row.tier < tctx'.currentDsqType)) := by
  have hok := ctx_of_reaches CtxStep.dutyOk hstart hreach p tctx hctx
  obtain ⟨tctx', hctx', h⟩ := credited_runs hctx hok hruns hcharges
  have hne : charges ≠ [] := by
    rintro rfl
    exact absurd htotal (by decide)
  have hduty := h.duty hne
  have hclassified := (lasting m p).invariant_of_runs (P := AllClassified)
    (fun _ _ h he => allClassified_step h he.1) (allClassified_reaches hstart hreach) hruns p tctx' hctx'
  refine ⟨tctx', hctx', hduty, fun q r burst => ⟨h.duty_le hok htotal, fun hrate => ?_⟩⟩
  have hle := h.le_duty hok htotal hrate
  refine ⟨hle, fun huser row hrow hshare => ?_⟩
  rw [huser] at hclassified
  apply hclassified.lt_of_duty hrow
  by_contra hlow
  have hlow : taskDuty tctx' + 2 ≤ row.cap + DUTY_HYST + 2 := by
    rw [hduty] at hlow
    omega
  have := Nat.mul_le_mul_right DUTY_WINDOW_NS (Nat.mul_le_mul_left (q + r) hlow)
  omega

-- A user task that uses 50 ms of every 100 ms, for two and a half seconds.

def halfBorn : Sched := (callbacks oneCpu).final Sched.zeroed [.initTask (.task 0 0 9) 1]

def halfRuns (turns : List Nat) : List Callback :=
  turns.flatMap fun i =>
    let k (ms : Nat) : Call := .task ((100 * i + ms) * NS_PER_MS) 0 1
    [.running (k 1) 1, .stopping (k 51) 1 false, .quiescent (k 51) true 1, .runnable (k 101) true 1]

def halfCharges : List (Nat × Nat) :=
  (List.replicate 25 [(0, 50 * NS_PER_MS), (50 * NS_PER_MS, 0)]).flatten

theorem duty_follows_share_half : ∃ tctx,
    ((lasting oneCpu 1).final halfBorn (halfRuns (List.range 25))).taskCtxStore 1 = some tctx ∧
      2 * taskDuty tctx * DUTY_WINDOW_NS ≤ 1024 * DUTY_WINDOW_NS + 2 * DUTY_WINDOW_NS ∧
      DSQ_TYPE_INTERACTIVE < tctx.currentDsqType := by
  have hreach : (callbacks oneCpu).Reaches Sched.zeroed halfBorn :=
    ⟨[.initTask (.task 0 0 9) 1], ⟨trivial, trivial⟩, rfl⟩
  have hruns (s : Sched) (turns : List Nat) : (lasting oneCpu 1).Runs s (halfRuns turns) := by
    induction turns generalizing s with
    | nil => trivial
    | cons i rest ih =>
        have hevent (k : Call) (s : Sched) : (lasting oneCpu 1).enabled s (.running k 1) ∧
            (lasting oneCpu 1).enabled s (.stopping k 1 false) ∧
            (lasting oneCpu 1).enabled s (.quiescent k true 1) ∧
            (lasting oneCpu 1).enabled s (.runnable k true 1) := by
          simp [lasting, TransitionSystem.restrict, callbacks, Callback.KeepsRecord]
        exact ⟨(hevent _ _).1, (hevent _ _).2.1, (hevent _ _).2.2.1, (hevent _ _).2.2.2, ih _⟩
  have hcharges : ((lasting oneCpu 1).final halfBorn (halfRuns (List.range 25))).charges 1 =
      halfCharges ++ halfBorn.charges 1 := by
    decide +kernel
  have hrates (recent : List (Nat × Nat)) (h : recent <+: halfCharges) :
      1 * creditedRun recent ≤ 1 * creditedSleep recent + 0 ∧
        1 * creditedSleep recent ≤ 1 * creditedRun recent + 50 * NS_PER_MS := by
    have hall : ∀ recent ∈ halfCharges.inits, 1 * creditedRun recent ≤ 1 * creditedSleep recent + 0 ∧
        1 * creditedSleep recent ≤ 1 * creditedRun recent + 50 * NS_PER_MS := by decide +kernel
    exact hall recent ((List.mem_inits ..).mpr h)
  obtain ⟨tctx, hctx, -, hbounds⟩ := duty_follows_share (fun _ => rfl) hreach rfl (hruns _ _) hcharges
    (by decide +kernel)
  have hupper := (hbounds 1 1 0).1 fun recent h => (hrates recent h).1
  obtain ⟨-, hrows⟩ := (hbounds 1 1 (50 * NS_PER_MS)).2 fun recent h => (hrates recent h).2
  exact ⟨tctx, hctx, hupper, hrows (by decide +kernel)
    ⟨DSQ_TYPE_INTERACTIVE, CRIT_EDGE_INTERACTIVE, DUTY_CAP_INTERACTIVE⟩ (by simp [tierRows])
    (by decide +kernel)⟩

end Lunar
