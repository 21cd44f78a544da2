import Lunar.Callbacks.Dispatch
import Lunar.Topology

namespace Lunar

-- A dispatch for a cpu with no prev that moved nothing has looked everywhere.
theorem dispatchDsqPerCpu_misses {m : Machine} {rnd : Nat → Nat} {s : Sched} {cpu now : Nat}
    (h : (dispatchDsqPerCpu m rnd s cpu DSQ_TYPE_EMPTY now).1 = DSQ_TYPE_EMPTY + 1) :
    ¬Waits s cpu DSQ_TYPE_LC cpu ∧
      ∀ place ∈ ownPlaces m (endOverride m s cpu) cpu DSQ_TYPE_EMPTY ++
        stealPlaces m cpu DSQ_TYPE_EMPTY, Misses s cpu place := by
  have hvalues := tier_values
  unfold dispatchDsqPerCpu returnIf at h
  split at h
  · exact absurd h (by dsimp only; omega)
  split at h
  · exact absurd h (by dsimp only; omega)
  rename_i hlocal
  refine ⟨(takes_local m s DSQ_TYPE_LC cpu now).2 hlocal cpu rfl, ?_⟩
  split at h
  · rename_i taken htaken
    have := continueOverride_le htaken
    omega
  dsimp only at h
  split at h
  · rename_i taken htaken
    have := startOverride_le htaken
    omega
  · have hserved := strictTiers_served m rnd (endOverride m s cpu) cpu DSQ_TYPE_EMPTY now
    have hmiss := hserved.forall_miss fun place hp ⟨hr, _⟩ => by
      have := (places_source m (endOverride m s cpu) cpu DSQ_TYPE_EMPTY place hp).1.2
      omega
    intro place hp c hc hw
    exact hmiss place (List.mem_append_right _ hp) c hc (by simpa using hw)

section Topology

variable {sysfs : Sysfs} {m : Machine} {s : Sched} {cpu : Nat}

theorem cpuIsOnline_eq {c : Nat} (hc : c < m.nrCpuIds) : cpuIsOnline m c = m.cpuOnline c := by
  have hmask : c &&& (MAX_CPUS - 1) = c % 2 ^ 9 := Nat.and_two_pow_sub_one_eq_mod c 9
  have hmax : m.nrCpuIds ≤ 512 := m.nrCpuIds_le
  rw [cpuIsOnline, hmask, Nat.mod_eq_of_lt (by omega)]

theorem cpuLlcId_eq {c : Nat} (hc : c < m.nrCpuIds) : cpuLlcId m c = m.cpuToLlc c := by
  have hmask : c &&& (MAX_CPUS - 1) = c % 2 ^ 9 := Nat.and_two_pow_sub_one_eq_mod c 9
  have hmax : m.nrCpuIds ≤ 512 := m.nrCpuIds_le
  rw [cpuLlcId, hmask, Nat.mod_eq_of_lt (by omega)]

-- The own queue, the queues of the LLC and those of the other LLCs are all there
-- are: if nr_llcs is 1, no online cpu is in another LLC.
theorem no_task_waits (htopo : setupLunarTopology sysfs Rodata.zeroed = .ok m.toRodata)
    (hcpu : cpu < m.nrCpuIds) (honline : cpuIsOnline m cpu)
    {s1 : Sched} (hlc : ¬Waits s cpu DSQ_TYPE_LC cpu)
    (hmiss : ∀ place ∈ ownPlaces m s1 cpu DSQ_TYPE_EMPTY ++ stealPlaces m cpu DSQ_TYPE_EMPTY,
      Misses s cpu place) {t c : Nat} (ht : IsTier t) (hc : c < m.nrCpuIds)
    (hcOnline : cpuIsOnline m c) : ¬Waits s cpu t c := by
  have hsteal : DSQ_TYPE_GREEDY < DSQ_TYPE_EMPTY := by decide
  by_cases hself : c = cpu
  · subst hself
    by_cases hn : t = DSQ_TYPE_LC
    · exact hn ▸ hlc
    · have hle : t ≤ DSQ_TYPE_EMPTY := ht.2.trans (by decide)
      exact hmiss _ (List.mem_append_left _ (mem_ownPlaces ht hn).2) c ⟨hle, rfl⟩
  by_cases hllc : cpuLlcId m c = cpuLlcId m cpu
  · have hother : OtherCpu m cpu true c := ⟨hc, hself, hcOnline, by simpa using hllc⟩
    exact hmiss _ (List.mem_append_right _ (mem_stealPlaces ht).1) c ⟨hsteal, hother⟩
  · have hother : OtherCpu m cpu false c := ⟨hc, hself, hcOnline, by simpa using hllc⟩
    have hmany : 1 < m.nrLlcs := by
      by_contra hsingle
      rw [cpuIsOnline_eq hc] at hcOnline
      rw [cpuIsOnline_eq hcpu] at honline
      rw [cpuLlcId_eq hc, cpuLlcId_eq hcpu] at hllc
      exact hllc (setupLunarTopology_single_llc htopo hsingle hcOnline honline)
    exact hmiss _ (List.mem_append_right _ (mem_stealPlaces ht).2) c ⟨hsteal, hmany, hother⟩

end Topology

section Exact

variable (m : Machine) (rnd : Nat → Nat) {s s1 : Sched} (cpu prevTier now : Nat)

-- Seen from a state s with the queues and tasks of the state s1 of the call.
theorem dispatchDsqPerCpu_moved_or (h : Unmoved s s1) :
    let r := dispatchDsqPerCpu m rnd s1 cpu prevTier now
    (∃ c q, Moved m s cpu r.1 c now q r.2) ∨ r.1 = unserved prevTier ∧ Unmoved s r.2 := by
  intro r
  rcases (dispatchDsqPerCpu_dispatched m rnd s1 cpu prevTier now).moved_or_unmoved with
    ⟨c, q, hmoved⟩ | ⟨hr, hunmoved⟩
  · exact Or.inl ⟨c, q, h.moved hmoved⟩
  · exact Or.inr ⟨hr, h.trans hunmoved⟩

theorem MovedFrom.dsq_ne {s s' : Sched} {cpu t c : Nat} (h : MovedFrom s cpu t c s') :
    s'.dsq ≠ s.dsq := by
  obtain ⟨q, -, hdsq⟩ := h
  intro he
  have hlocal := congrFun (he.symm.trans hdsq) (.localOn cpu)
  rw [Sched.moveTo_dsq (getCpuDsqFromType_ne_localOn t c cpu), Function.update_self] at hlocal
  simp at hlocal

theorem dispatchDsqPerCpu_returns_tier (hcpu : cpu < m.nrCpuIds) (h : Unmoved s s1) {t : Nat}
    (ht : IsTier t) :
    let r := dispatchDsqPerCpu m rnd s1 cpu prevTier now
    r.1 = t ↔ ∃ c < m.nrCpuIds, MovedFrom s cpu t c r.2 := by
  have hvalues := tier_values
  intro r
  rcases dispatchDsqPerCpu_moved_or m rnd cpu prevTier now h with ⟨c, q, hmoved⟩ | ⟨hr, hunmoved⟩
  · constructor
    · intro hr
      exact ⟨c, hmoved.source.lt hcpu, hr ▸ hmoved.movedFrom⟩
    · rintro ⟨c', hc', hfrom⟩
      exact (hmoved.source_unique hcpu hfrom ht hc').1.symm
  · constructor
    · intro hrt
      have := ht.2
      have hno : unserved prevTier ≠ t := by
        unfold unserved
        split <;> omega
      exact absurd (hr.symm.trans hrt) hno
    · rintro ⟨c, -, hfrom⟩
      exact absurd hunmoved.dsq hfrom.dsq_ne

-- If nothing moved, the number returned is the one for prevTier.
theorem dispatchDsqPerCpu_returns_unserved (h : Unmoved s s1) {n : Nat} (hn : ¬IsTier n) :
    let r := dispatchDsqPerCpu m rnd s1 cpu prevTier now
    r.1 = n ↔ r.2.dsq = s.dsq ∧ unserved prevTier = n := by
  intro r
  rcases dispatchDsqPerCpu_moved_or m rnd cpu prevTier now h with ⟨c, q, hmoved⟩ | ⟨hr, hunmoved⟩
  · constructor
    · rintro rfl
      exact absurd hmoved.tier hn
    · rintro ⟨hdsq, -⟩
      exact absurd hdsq hmoved.dsq_ne
  · constructor
    · intro hrn
      exact ⟨hunmoved.dsq, hr.symm.trans hrn⟩
    · rintro ⟨-, hu⟩
      exact hr.trans hu

end Exact

section Dispatch

variable (m : Machine) (k : Call) (now : Nat) (rnd : Nat → Nat) (cpu : Nat) (prev : Option Task)
  (s : Sched)

theorem lunarDispatch_dsq :
    let args := dispatchArgs m k cpu prev s
    (lunarDispatch m k now rnd cpu prev s).dsq =
      (dispatchDsqPerCpu m rnd args.2 cpu args.1 now).2.dsq := by
  rcases lunarDispatch_eq m k now rnd cpu prev s with ⟨-, h⟩ | ⟨p, pctx, -, -, h⟩
  · rw [h]
  · rw [h, continuePrev_dsq]

theorem dispatchArgs_tier_cases : let args := dispatchArgs m k cpu prev s
    unserved args.1 = DSQ_TYPE_EMPTY ∧ args.1 ≤ DSQ_TYPE_GREEDY ∧ queuedCtx s prev ≠ none ∨
      unserved args.1 = DSQ_TYPE_EMPTY + 1 ∧ args.1 = DSQ_TYPE_EMPTY ∧ queuedCtx s prev = none := by
  rcases dispatchArgs_tier m k cpu prev s with ⟨h, hnone⟩ | ⟨h, hsome⟩
  · exact Or.inr ⟨by rw [h]; decide, h, hnone⟩
  · exact Or.inl ⟨if_pos h, h, hsome⟩

-- Only a prev that is queued and not replaced gets a new slice.
theorem lunarDispatch_givenSlices :
    let s' := lunarDispatch m k now rnd cpu prev s
    (∀ p pctx, queuedCtx s prev = some (p, pctx) → s'.dsq = s.dsq →
      givenSlices s' = (p, SLICE_NS) :: givenSlices s) ∧
    (queuedCtx s prev = none ∨ s'.dsq ≠ s.dsq → givenSlices s' = givenSlices s) := by
  have hargs := dispatchArgs_unmoved m k cpu prev s
  have hslices := dispatched_givenSlices m k now rnd cpu prev s
  have hempty := dispatchDsqPerCpu_returns_unserved m rnd cpu (dispatchArgs m k cpu prev s).1 now
    hargs (show ¬IsTier DSQ_TYPE_EMPTY by decide)
  have hdsq := lunarDispatch_dsq m k now rnd cpu prev s
  have htier := dispatchArgs_tier_cases m k cpu prev s
  dsimp only at hempty hdsq htier ⊢
  rw [hdsq]
  rcases lunarDispatch_eq m k now rnd cpu prev s with ⟨hreturn, h⟩ | ⟨p, pctx, hsome, hr, h⟩
  · rw [h]
    refine ⟨fun p pctx hsome hkeep => ?_, fun _ => hslices⟩
    have hr := hempty.mpr ⟨hkeep, by simp_all⟩
    rcases hreturn with hnone | hreturn
    · simp [hsome] at hnone
    · exact absurd hr hreturn
  · rw [h, continuePrev_givenSlices, hslices]
    refine ⟨fun p' pctx' hsome' _ => ?_, fun hno => ?_⟩
    · rw [hsome] at hsome'
      cases hsome'
      rfl
    · rcases hno with hno | hno
      · simp [hsome] at hno
      · exact absurd (hempty.mp hr).1 hno

end Dispatch

-- One call of lunar_dispatch moves at most one task, the number
-- dispatch_dsq_per_cpu returns says exactly which of the three things happened, and
-- a cpu is left without a task only if no task waits for it anywhere.
theorem lunarDispatch_work_conserving (sysfs : Sysfs) (m : Machine)
    (htopo : setupLunarTopology sysfs Rodata.zeroed = .ok m.toRodata) (k : Call) (now : Nat)
    (rnd : Nat → Nat) (cpu : Nat) (hcpu : cpu < m.nrCpuIds) (honline : cpuIsOnline m cpu)
    (prev : Option Task) (s : Sched) :
    let args := dispatchArgs m k cpu prev s
    let r := dispatchDsqPerCpu m rnd args.2 cpu args.1 now
    let s' := lunarDispatch m k now rnd cpu prev s
    (s'.dsq = s.dsq ∨ ∃ t c, IsTier t ∧ c < m.nrCpuIds ∧ MovedFrom s cpu t c s') ∧
    (∀ t, IsTier t → (r.1 = t ↔ ∃ c < m.nrCpuIds, MovedFrom s cpu t c r.2)) ∧
    (r.1 = DSQ_TYPE_EMPTY ↔ r.2.dsq = s.dsq ∧ args.1 ≤ DSQ_TYPE_GREEDY) ∧
    (r.1 = DSQ_TYPE_EMPTY + 1 ↔ r.2.dsq = s.dsq ∧ args.1 = DSQ_TYPE_EMPTY) ∧
    (∀ p pctx, queuedCtx s prev = some (p, pctx) → s'.dsq = s.dsq →
      givenSlices s' = (p, SLICE_NS) :: givenSlices s) ∧
    (queuedCtx s prev = none ∨ s'.dsq ≠ s.dsq → givenSlices s' = givenSlices s) ∧
    (s'.dsq = s.dsq → queuedCtx s prev = none →
      ∀ t c, IsTier t → c < m.nrCpuIds → cpuIsOnline m c → ¬Waits s cpu t c) := by
  intro args r s'
  have hargs : Unmoved s args.2 := dispatchArgs_unmoved m k cpu prev s
  have hdsq : s'.dsq = r.2.dsq := lunarDispatch_dsq m k now rnd cpu prev s
  have hunserved (n : Nat) (hn : ¬IsTier n) : r.1 = n ↔ r.2.dsq = s.dsq ∧ unserved args.1 = n :=
    dispatchDsqPerCpu_returns_unserved m rnd cpu args.1 now hargs hn
  have htier : unserved args.1 = DSQ_TYPE_EMPTY ∧ args.1 ≤ DSQ_TYPE_GREEDY ∧
        queuedCtx s prev ≠ none ∨
      unserved args.1 = DSQ_TYPE_EMPTY + 1 ∧ args.1 = DSQ_TYPE_EMPTY ∧ queuedCtx s prev = none :=
    dispatchArgs_tier_cases m k cpu prev s
  have hslices := lunarDispatch_givenSlices m k now rnd cpu prev s
  refine ⟨?_, ?_, ?_, ?_, hslices.1, hslices.2, ?_⟩
  · rcases dispatchDsqPerCpu_moved_or m rnd cpu args.1 now hargs with ⟨c, q, h⟩ | ⟨-, h⟩
    · exact Or.inr ⟨r.1, c, h.tier, h.source.lt hcpu, q, h.first, hdsq.trans h.dsq⟩
    · exact Or.inl (hdsq.trans h.dsq)
  · intro t ht
    exact dispatchDsqPerCpu_returns_tier m rnd cpu args.1 now hcpu hargs ht
  · rw [hunserved _ (by decide)]
    refine and_congr_right fun _ => ?_
    rcases htier with ⟨h, hle, -⟩ | ⟨h, he, -⟩
    · simp [h, hle]
    · rw [h, he]
      decide
  · rw [hunserved _ (by decide)]
    refine and_congr_right fun _ => ?_
    rcases htier with ⟨h, hle, -⟩ | ⟨h, he, -⟩
    · rw [h]
      have hvalues := tier_values
      omega
    · exact iff_of_true h he
  · intro hkeep hnone
    have hempty : args = (DSQ_TYPE_EMPTY, s) := by
      simp only [args, dispatchArgs, hnone]
    have hr : r.1 = DSQ_TYPE_EMPTY + 1 := by
      rw [hunserved _ (by decide), hempty]
      exact ⟨hdsq.symm.trans hkeep, show unserved DSQ_TYPE_EMPTY = _ by decide⟩
    simp only [r, hempty] at hr
    obtain ⟨hlc, hmiss⟩ := dispatchDsqPerCpu_misses hr
    intro t c ht hc hcOnline
    exact no_task_waits htopo hcpu honline hlc hmiss ht hc hcOnline

-- On a machine with two LLCs of one cpu each, cpu 1 steals from cpu 0.
def twoLlcs : Sysfs where
  online := some [0, 1]
  possible := some [0, 1]
  physicalPackageId := fun _ => some 0
  cache := fun cpu => [⟨some 3, some cpu, none⟩]

def farTask : Sched :=
  { Sched.zeroed with
    task := fun _ => { TaskStruct.zeroed with nrCpusAllowed := 2, cpusPtr := fun _ => true }
    dsq := fun id => if id = getCpuDsqFromType DSQ_TYPE_GREEDY 0 then [7] else [] }

-- The tables as the loops of read_topology and setup_lunar_topology fill them.
def twoLlcMachine : Machine where
  nrLlcs := 2
  cpuToLlc := fun cpu =>
    if cpu < 2 then Function.update (Function.update (fun _ => 0) 0 0) 1 1 cpu else 0
  cpuOnline := fun cpu =>
    if cpu < 2 then Function.update (Function.update (fun _ => false) 0 true) 1 true cpu else false
  nrCpuIds := 2
  nrCpuIds_pos := twoCpus.nrCpuIds_pos
  nrCpuIds_le := twoCpus.nrCpuIds_le

theorem lunarDispatch_work_conserving_farTask :
    let k : Call := ⟨5, 1, false, false, 0⟩
    let s' := lunarDispatch twoLlcMachine k 5 (fun _ => 0) 1 none farTask
    (s'.dsq = farTask.dsq ∨ ∃ t c, IsTier t ∧ c < twoLlcMachine.nrCpuIds ∧
      MovedFrom farTask 1 t c s') ∧ s'.dsq (.localOn 1) = [7] :=
  ⟨(lunarDispatch_work_conserving twoLlcs twoLlcMachine rfl ⟨5, 1, false, false, 0⟩ 5 (fun _ => 0)
    1 (by decide) (by decide) none farTask).1, by decide⟩

end Lunar
