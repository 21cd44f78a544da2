import Lunar.Datatypes
import Lunar.Library.Word

namespace Lunar

open Word64

def getCpuDsqFromType (dsqType : Nat) (cpu : Nat) : DsqId :=
  if dsqType = DSQ_TYPE_LC then .user (DSQ_CPU_QUEUE_BASE_LC + cpu)
  else if dsqType = DSQ_TYPE_INTERACTIVE then .user (DSQ_CPU_QUEUE_BASE_INTERACTIVE + cpu)
  else if dsqType = DSQ_TYPE_NORMAL then .user (DSQ_CPU_QUEUE_BASE_NORMAL + cpu)
  else .user (DSQ_CPU_QUEUE_BASE_GREEDY + cpu)

-- A DSQ that was never created stays empty, as the error code it gives counts as 0.
def dsqQueued (s : Sched) (id : DsqId) : Nat := (s.dsq id).length

def stampTierHeadTs (dctx : DispatchCtx) (dsqType now : Nat) : DispatchCtx :=
  if dsqType = DSQ_TYPE_INTERACTIVE ∨ dsqType = DSQ_TYPE_NORMAL ∨ dsqType = DSQ_TYPE_GREEDY then
    { dctx with tierHeadTs := Function.update dctx.tierHeadTs dsqType now }
  else dctx

def cpuLlcId (m : Machine) (cpu : Nat) : Nat := m.cpuToLlc (cpu &&& (MAX_CPUS - 1))

def cpuIsOnline (m : Machine) (cpu : Nat) : Bool := m.cpuOnline (cpu &&& (MAX_CPUS - 1))

def isPercpuKthread (p : TaskStruct) : Bool := p.kthread && p.nrCpusAllowed == 1

def isRtTask (p : TaskStruct) : Bool :=
  !isPercpuKthread p &&
    (p.policy == SCHED_FIFO || p.policy == SCHED_RR || p.policy == SCHED_DEADLINE)

def cpuTakenByRt (s : Sched) (cpu : Nat) : Bool :=
  match s.cpuCurr cpu with
  | some curr => isRtTask (s.task curr)
  | none => false

def chargeOverride (dctx : DispatchCtx) (tier used : Nat) : DispatchCtx :=
  if dctx.overrideLeft = 0 ∨ tier ≠ dctx.overrideTier then dctx
  else { dctx with overrideLeft :=
    if dctx.overrideLeft > used then dctx.overrideLeft - used else 0 }

def chargeWakeBoost (tctx : TaskCtx) (used : Nat) : TaskCtx :=
  if tctx.boostDsqType ≠ DSQ_TYPE_EMPTY then { tctx with boostUsed := tctx.boostUsed + used }
  else tctx

-- The result is a u32.
def taskDuty (tctx : TaskCtx) : Nat :=
  wrap (tctx.runAcc <<< 10) / wrap (tctx.runAcc + tctx.sleepAcc + 1) % 2 ^ 32

def dutyAccount (tctx : TaskCtx) (run slept : Nat) : TaskCtx :=
  let run := if run > DUTY_WINDOW_NS then DUTY_WINDOW_NS else run
  let slept := if slept > DUTY_WINDOW_NS then DUTY_WINDOW_NS else slept
  let runAcc := wrap (tctx.runAcc + run)
  let sleepAcc := wrap (tctx.sleepAcc + slept)
  if wrap (runAcc + sleepAcc) > 2 * DUTY_WINDOW_NS then
    { tctx with runAcc := runAcc >>> 1, sleepAcc := sleepAcc >>> 1 }
  else { tctx with runAcc := runAcc, sleepAcc := sleepAcc }

-- Latency criticality

def exponentiallyWeightedMovingAvg (old sample : Nat) : Nat :=
  wrap (old - (old >>> 2) + (sample >>> 2))

def log2U32 (v : Nat) : Nat :=
  let r := if v > 0xFFFF then 16 else 0
  let v := v >>> r
  let shift := if v > 0xFF then 8 else 0
  let v := v >>> shift
  let r := r ||| shift
  let shift := if v > 0xF then 4 else 0
  let v := v >>> shift
  let r := r ||| shift
  let shift := if v > 0x3 then 2 else 0
  let v := v >>> shift
  let r := r ||| shift
  r ||| (v >>> 1)

def log2U64 (v : Nat) : Nat :=
  let hi := (v >>> 32) % 2 ^ 32
  if hi ≠ 0 then log2U32 hi + 32 + 1 else log2U32 (v % 2 ^ 32) + 1

def ilog2 (v : Nat) : Nat := if v ≠ 0 then log2U64 v - 1 else 0

def elapsed (now last : Nat) : Nat := if now > last then now - last else 0

def clampInterval (interval : Nat) : Nat :=
  if interval < CRIT_INTERVAL_MIN then CRIT_INTERVAL_MIN
  else if interval > CRIT_INTERVAL_REF then CRIT_INTERVAL_REF
  else interval

def effectiveInterval (avg last now : Nat) : Nat :=
  let since := elapsed now last
  clampInterval (if since > wrap (avg * 8) then since else avg)

def calcCrit (tctx : TaskCtx) (now : Nat) : Nat :=
  let crit :=
    ilog2 (CRIT_INTERVAL_REF / effectiveInterval tctx.waitInterval tctx.lastWokenAt now) +
      ilog2 (CRIT_INTERVAL_REF / effectiveInterval tctx.wakeInterval tctx.lastWakeAt now)
  if crit > CRIT_MAX then CRIT_MAX else crit

theorem elapsed_eq (now last : Nat) : elapsed now last = now - last := by
  unfold elapsed
  split <;> omega

-- The ranges of DSQ numbers the four tiers use do not meet.
theorem getCpuDsqFromType_inj {t t' : Nat} {c c' : Nat} (ht : IsTier t) (ht' : IsTier t')
    (hc : c < MAX_CPUS) (hc' : c' < MAX_CPUS)
    (h : getCpuDsqFromType t c = getCpuDsqFromType t' c') : t = t' ∧ c = c' := by
  unfold MAX_CPUS at hc hc'
  rcases isTier_cases ht with rfl | rfl | rfl | rfl <;>
    rcases isTier_cases ht' with rfl | rfl | rfl | rfl <;>
    simp only [getCpuDsqFromType, DSQ_TYPE_LC, DSQ_TYPE_INTERACTIVE, DSQ_TYPE_NORMAL,
      DSQ_TYPE_GREEDY, DSQ_CPU_QUEUE_BASE_LC, DSQ_CPU_QUEUE_BASE_INTERACTIVE,
      DSQ_CPU_QUEUE_BASE_NORMAL, DSQ_CPU_QUEUE_BASE_GREEDY, Nat.reduceEqDiff, ite_true,
      ite_false, DsqId.user.injEq] at h <;>
    first | exact ⟨rfl, by omega⟩ | (exfalso; omega)

-- A number that is no tier counts as GREEDY.
theorem getCpuDsqFromType_cpu {t t' c c' : Nat} (hc : c < MAX_CPUS) (hc' : c' < MAX_CPUS)
    (h : getCpuDsqFromType t c = getCpuDsqFromType t' c') : c = c' := by
  have htier (t : Nat) : ∃ t1, IsTier t1 ∧ ∀ c, getCpuDsqFromType t c = getCpuDsqFromType t1 c := by
    by_cases ht : IsTier t
    · exact ⟨t, ht, fun _ => rfl⟩
    · refine ⟨DSQ_TYPE_GREEDY, by decide, fun c => ?_⟩
      have hne (t1 : Nat) (ht1 : IsTier t1) : t ≠ t1 := fun he => ht (he ▸ ht1)
      simp [getCpuDsqFromType, hne DSQ_TYPE_LC (by decide), hne DSQ_TYPE_INTERACTIVE (by decide),
        hne DSQ_TYPE_NORMAL (by decide), show ¬DSQ_TYPE_GREEDY = DSQ_TYPE_LC by decide,
        show ¬DSQ_TYPE_GREEDY = DSQ_TYPE_INTERACTIVE by decide,
        show ¬DSQ_TYPE_GREEDY = DSQ_TYPE_NORMAL by decide]
  obtain ⟨t1, ht1, heq1⟩ := htier t
  obtain ⟨t2, ht2, heq2⟩ := htier t'
  rw [heq1, heq2] at h
  exact (getCpuDsqFromType_inj ht1 ht2 hc hc' h).2

theorem getCpuDsqFromType_ne_localOn (t : Nat) (c cpu : Nat) :
    getCpuDsqFromType t c ≠ .localOn cpu := by
  unfold getCpuDsqFromType
  split_ifs <;> simp

@[simp] theorem stampTierHeadTs_currentTaskDsqType (dctx : DispatchCtx) (dsqType now : Nat) :
    (stampTierHeadTs dctx dsqType now).currentTaskDsqType = dctx.currentTaskDsqType := by
  unfold stampTierHeadTs; split <;> rfl

@[simp] theorem stampTierHeadTs_lastOverrideTs (dctx : DispatchCtx) (dsqType now : Nat) :
    (stampTierHeadTs dctx dsqType now).lastOverrideTs = dctx.lastOverrideTs := by
  unfold stampTierHeadTs; split <;> rfl

@[simp] theorem stampTierHeadTs_overrideTier (dctx : DispatchCtx) (dsqType now : Nat) :
    (stampTierHeadTs dctx dsqType now).overrideTier = dctx.overrideTier := by
  unfold stampTierHeadTs; split <;> rfl

@[simp] theorem stampTierHeadTs_overrideLeft (dctx : DispatchCtx) (dsqType now : Nat) :
    (stampTierHeadTs dctx dsqType now).overrideLeft = dctx.overrideLeft := by
  unfold stampTierHeadTs; split <;> rfl

@[simp] theorem stampTierHeadTs_rtBusy (dctx : DispatchCtx) (dsqType now : Nat) :
    (stampTierHeadTs dctx dsqType now).rtBusy = dctx.rtBusy := by
  unfold stampTierHeadTs; split <;> rfl

@[simp] theorem stampTierHeadTs_preemptPending (dctx : DispatchCtx) (dsqType now : Nat) :
    (stampTierHeadTs dctx dsqType now).preemptPending = dctx.preemptPending := by
  unfold stampTierHeadTs; split <;> rfl

-- A charge only ever lowers what an override has left.
theorem chargeOverride_eq (dctx : DispatchCtx) (tier used : Nat) :
    chargeOverride dctx tier used =
      { dctx with overrideLeft := dctx.overrideLeft - if tier = dctx.overrideTier then used else 0 } := by
  unfold chargeOverride
  by_cases ht : tier = dctx.overrideTier
  · by_cases hl : dctx.overrideLeft = 0
    · cases dctx
      simp_all
    · have hmin : (if dctx.overrideLeft > used then dctx.overrideLeft - used else 0) =
          dctx.overrideLeft - used := by split <;> omega
      simp [ht, hl, hmin]
  · simp [ht]

end Lunar
