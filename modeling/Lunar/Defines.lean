import Mathlib.Algebra.Ring.Nat
import Mathlib.Tactic.Common

namespace Lunar

def NS_PER_US : Nat := 1000

def NS_PER_MS : Nat := 1000 * NS_PER_US

def STARVE_BUDGET_INTERACTIVE_NS : Nat := 25 * NS_PER_MS

def STARVE_BUDGET_NORMAL_NS : Nat := 50 * NS_PER_MS

def STARVE_BUDGET_GREEDY_NS : Nat := 75 * NS_PER_MS

def STARVE_OVERRIDE_COOLDOWN_NS : Nat := 10 * NS_PER_MS

def SLICE_NS : Nat := 1000 * NS_PER_US

def STARVE_OVERRIDE_BUDGET_NS : Nat := SLICE_NS

def RESUME_SLICE_MIN_NS : Nat := 50 * NS_PER_US

def BALANCE_INTERVAL_NS : Nat := 10 * NS_PER_MS

def BALANCE_SAMPLES : Nat := 2

-- Duty

def DUTY_INIT_RUN_NS : Nat := 80 * NS_PER_MS

def DUTY_WINDOW_NS : Nat := 100 * NS_PER_MS

def DUTY_SAMPLES_NEEDED : Nat := 3

def DUTY_SAMPLES_MAX : Nat := 1000

def DUTY_RANGE : Nat := 1024

def DUTY_CAP_LC : Nat := (5 * DUTY_RANGE) / 100

def DUTY_CAP_INTERACTIVE : Nat := (10 * DUTY_RANGE) / 100

def DUTY_CAP_NORMAL : Nat := (80 * DUTY_RANGE) / 100

def DUTY_HYST : Nat := (1 * DUTY_RANGE) / 100

def KTHREAD_INIT_DUTY_PCT : Nat := 8

-- Latency criticality

def CRIT_INTERVAL_REF : Nat := 1000 * NS_PER_MS

def CRIT_INTERVAL_MIN : Nat := 10 * NS_PER_US

def CRIT_MAX : Nat := 40

def CRIT_EDGE_LC : Nat := 5

def CRIT_EDGE_INTERACTIVE : Nat := 3

def CRIT_EDGE_NORMAL : Nat := 1

-- Tiers and DSQs. A smaller tier is a better one; the source compares and
-- stores tiers as plain u64 numbers and returns `DSQ_TYPE_EMPTY + 1` as a
-- sentinel, so they stay numbers here.

def DSQ_TYPE_LC : Nat := 1

def DSQ_TYPE_INTERACTIVE : Nat := 2

def DSQ_TYPE_NORMAL : Nat := 3

def DSQ_TYPE_GREEDY : Nat := 4

def DSQ_TYPE_EMPTY : Nat := 5

def DSQ_CPU_QUEUE_BASE_LC : Nat := 1536

def DSQ_CPU_QUEUE_BASE_INTERACTIVE : Nat := 2048

def DSQ_CPU_QUEUE_BASE_NORMAL : Nat := 2560

def DSQ_CPU_QUEUE_BASE_GREEDY : Nat := 3072

def MAX_CPUS : Nat := 512

def WAKE_BOOST_FROM_KTHREADS : Bool := false

def WAKE_BOOST_BUDGET_NS : Nat := 4 * NS_PER_MS

def RT_CPU_LOAD : Nat := 2

def SCHED_FIFO : Nat := 1

def SCHED_RR : Nat := 2

def SCHED_DEADLINE : Nat := 6

-- The values, in the form linear arithmetic uses them.

theorem tier_values : DSQ_TYPE_LC = 1 ∧ DSQ_TYPE_INTERACTIVE = 2 ∧ DSQ_TYPE_NORMAL = 3 ∧
    DSQ_TYPE_GREEDY = 4 ∧ DSQ_TYPE_EMPTY = 5 := ⟨rfl, rfl, rfl, rfl, rfl⟩

theorem slice_values : SLICE_NS = 1000000 ∧ STARVE_OVERRIDE_BUDGET_NS = 1000000 ∧
    RESUME_SLICE_MIN_NS = 50000 ∧ WAKE_BOOST_BUDGET_NS = 4000000 ∧
    STARVE_OVERRIDE_COOLDOWN_NS = 10000000 := ⟨rfl, rfl, rfl, rfl, rfl⟩

-- The four tiers a task can wait or run in.
def IsTier (tier : Nat) : Prop := DSQ_TYPE_LC ≤ tier ∧ tier ≤ DSQ_TYPE_GREEDY

instance (tier : Nat) : Decidable (IsTier tier) := inferInstanceAs (Decidable (_ ∧ _))

theorem isTier_cases {tier : Nat} (h : IsTier tier) : tier = DSQ_TYPE_LC ∨
    tier = DSQ_TYPE_INTERACTIVE ∨ tier = DSQ_TYPE_NORMAL ∨ tier = DSQ_TYPE_GREEDY := by
  unfold IsTier at h
  have := tier_values
  omega

end Lunar
