import Lunar.Conservation
import Lunar.Dispatches.Strict

namespace Lunar

-- Which tasks a dispatch takes from another LLC.

-- The cpu itself and the online cpus of its LLC.
def NearCpu (m : Machine) (cpu c : Nat) : Prop := c = cpu ∨ OtherCpu m cpu true c

-- The tiers with a task for cpu waiting on an online cpu of another LLC.
def FarTier (m : Machine) (s : Sched) (cpu t : Nat) : Prop :=
  IsTier t ∧ ∃ c, OtherCpu m cpu false c ∧ Waits s cpu t c

-- All tiers of the same cpus, one after the other.
def tierPlaces (src : Nat → Prop) : List Place :=
  [DSQ_TYPE_LC, DSQ_TYPE_INTERACTIVE, DSQ_TYPE_NORMAL, DSQ_TYPE_GREEDY].map fun t => (t, src)

def llcPlaces (m : Machine) (cpu prevTier : Nat) : List Place :=
  tierPlaces fun c => DSQ_TYPE_GREEDY < prevTier ∧ OtherCpu m cpu true c

def farPlaces (m : Machine) (cpu prevTier : Nat) : List Place :=
  tierPlaces fun c => DSQ_TYPE_GREEDY < prevTier ∧ 1 < m.nrLlcs ∧ OtherCpu m cpu false c

-- The places a dispatch looks at before it looks at another LLC.
def nearPlaces (m : Machine) (s : Sched) (cpu prevTier : Nat) : List Place :=
  strictPlaces m s cpu prevTier ++ (ownPlaces m s cpu prevTier ++ llcPlaces m cpu prevTier)

section Places

variable {m : Machine} {s : Sched} {cpu now prevTier last : Nat} {r : Nat × Sched} {src : Nat → Prop}

theorem mem_tierPlaces {t : Nat} (ht : IsTier t) : (t, src) ∈ tierPlaces src := by
  rcases isTier_cases ht with rfl | rfl | rfl | rfl
  all_goals simp [tierPlaces]

theorem tierPlaces_cases {place : Place} (h : place ∈ tierPlaces src) :
    IsTier place.1 ∧ place.2 = src := by
  simp only [tierPlaces, List.map_cons, List.map_nil, List.mem_cons, List.not_mem_nil, or_false] at h
  rcases h with rfl | rfl | rfl | rfl
  · exact ⟨show IsTier DSQ_TYPE_LC by decide, rfl⟩
  · exact ⟨show IsTier DSQ_TYPE_INTERACTIVE by decide, rfl⟩
  · exact ⟨show IsTier DSQ_TYPE_NORMAL by decide, rfl⟩
  · exact ⟨show IsTier DSQ_TYPE_GREEDY by decide, rfl⟩

-- Of these the best tier that waits is served.
theorem FirstServed.tiers (h : FirstServed m s cpu now last (tierPlaces src) r) :
    (IsLeast {t | IsTier t ∧ ∃ c, src c ∧ Waits s cpu t c} r.1 ∧
        ∃ c, src c ∧ TakenFrom m s cpu r.1 c now r.2) ∨
      (∀ t c, IsTier t → src c → ¬Waits s cpu t c) ∧ r = (last, s) := by
  have hsorted : (tierPlaces src).Pairwise fun a b => a.1 < b.1 := by
    simp [tierPlaces, DSQ_TYPE_LC, DSQ_TYPE_INTERACTIVE, DSQ_TYPE_NORMAL, DSQ_TYPE_GREEDY]
  rw [← List.append_nil (tierPlaces src)] at h
  rcases h.hit_or_continue hsorted with ⟨place, hp, ⟨hr, c, hc, htake⟩, hother⟩ | ⟨hmiss, hback⟩
  · obtain ⟨htier, hsrc⟩ := tierPlaces_cases hp
    rw [hsrc] at hc
    rw [hr]
    refine Or.inl ⟨⟨⟨htier, c, hc, .of_takenFrom htake⟩, ?_⟩, c, hc, htake⟩
    rintro t ⟨ht, c', hc', hw⟩
    by_contra hlt
    rcases hother _ (mem_tierPlaces ht) with he | he | he
    · exact hlt (congrArg Prod.fst he).ge
    · exact hlt he.le
    · exact he c' hc' hw
  · refine Or.inr ⟨fun t c ht hc hw => hmiss _ (mem_tierPlaces ht) c hc hw, ?_⟩
    cases hback
    rfl

theorem nearPlaces_near : ∀ place ∈ nearPlaces m s cpu prevTier,
    IsTier place.1 ∧ ∀ c, place.2 c → NearCpu m cpu c := by
  intro place hp
  rcases List.mem_append.mp hp with hp | hp
  · refine ⟨(places_source m s cpu prevTier place (by simp [hp])).1, fun c hc => Or.inr ?_⟩
    simp only [strictPlaces, List.mem_cons, List.not_mem_nil, or_false] at hp
    rcases hp with rfl | rfl | rfl
    all_goals exact hc.2.2
  rcases List.mem_append.mp hp with hp | hp
  · refine ⟨(places_source m s cpu prevTier place (by simp [hp])).1, fun c hc => ?_⟩
    simp only [ownPlaces, List.mem_cons, List.not_mem_nil, or_false] at hp
    rcases hp with rfl | rfl | rfl | rfl | rfl | rfl
    · exact Or.inr hc.2.1
    · exact Or.inl hc.2
    · exact Or.inr hc.2.1
    · exact Or.inl hc.2
    · exact Or.inr hc.2.1
    · exact Or.inl hc.2
  · obtain ⟨ht, hsrc⟩ := tierPlaces_cases hp
    refine ⟨ht, fun c hc => Or.inr ?_⟩
    rw [hsrc] at hc
    exact hc.2

-- A cpu with no prev has looked everywhere in its LLC once all of them have missed.
theorem nearPlaces_misses (hprev : DSQ_TYPE_GREEDY < prevTier)
    (hmiss : ∀ place ∈ nearPlaces m s cpu prevTier, Misses s cpu place)
    (hlc : ¬Waits s cpu DSQ_TYPE_LC cpu) {t c : Nat} (ht : IsTier t) (hc : NearCpu m cpu c) :
    ¬Waits s cpu t c := by
  rcases hc with rfl | hc
  · by_cases hn : t = DSQ_TYPE_LC
    · exact hn ▸ hlc
    · have hle : t ≤ prevTier := Nat.le_of_lt (Nat.lt_of_le_of_lt ht.2 hprev)
      exact hmiss _ (List.mem_append_right _ (List.mem_append_left _ (mem_ownPlaces ht hn).2)) c ⟨hle, rfl⟩
  · exact hmiss _ (List.mem_append_right _ (List.mem_append_right _ (mem_tierPlaces ht))) c ⟨hprev, hc⟩

end Places

-- How far a dispatch went for what it moved.
inductive Reached (m : Machine) (s : Sched) (cpu prevTier now : Nat) (r : Nat × Sched) : Prop where
  | near {t c : Nat} {q : Task} (hnear : NearCpu m cpu c) (hmoved : Moved m s cpu t c now q r.2)
  | far {c : Nat} {q : Task} (hfar : OtherCpu m cpu false c) (hmoved : Moved m s cpu r.1 c now q r.2)
      (hprev : DSQ_TYPE_GREEDY < prevTier) (hllcs : 1 < m.nrLlcs)
      (hnear : ∀ t c, IsTier t → NearCpu m cpu c → ¬Waits s cpu t c)
      (hleast : IsLeast {t | FarTier m s cpu t} r.1)
  | nothing (hdsq : r.2.dsq = s.dsq)
      (hfar : DSQ_TYPE_GREEDY < prevTier → 1 < m.nrLlcs → ∀ t, ¬FarTier m s cpu t)

section Reached

variable {m : Machine} {s : Sched} {cpu now prevTier : Nat}

-- s1 is the state the places are looked at in.
theorem FirstServed.reached {s1 : Sched} {last : Nat} {r : Nat × Sched} (hs1 : Unmoved s s1)
    (hlc : ¬Waits s cpu DSQ_TYPE_LC cpu)
    (h : FirstServed m s1 cpu now last
      (nearPlaces m s1 cpu prevTier ++ farPlaces m cpu prevTier) r) :
    Reached m s cpu prevTier now r := by
  have hwaits (t c : Nat) := hs1.waits cpu t c
  have hsorted : (nearPlaces m s1 cpu prevTier).Pairwise fun _ _ => True :=
    List.pairwise_of_forall fun _ _ => trivial
  rcases h.hit_or_continue hsorted with ⟨place, hp, ⟨-, c, hc, htake⟩, -⟩ | ⟨hmiss, hback⟩
  · obtain ⟨ht, hnear⟩ := nearPlaces_near place hp
    have hsrc : Source m cpu c := (hnear c hc).imp_right fun ho => ⟨ho.1, ho.2.1, ho.2.2.1⟩
    obtain ⟨q, hmoved⟩ := htake.moved hs1 ht hsrc
    exact .near (hnear c hc) hmoved
  rcases FirstServed.tiers hback with ⟨hleast, c, ⟨hprev, hllcs, hfar⟩, htake⟩ | ⟨hnone, rfl⟩
  · obtain ⟨q, hmoved⟩ := htake.moved hs1 hleast.1.1 hfar.source
    refine .far hfar hmoved hprev hllcs (fun t c ht hc => ?_) ?_
    · rw [← hwaits]
      exact nearPlaces_misses hprev hmiss (mt (hwaits _ _).mp hlc) ht hc
    · simpa [FarTier, hprev, hllcs, hwaits] using hleast
  · refine .nothing hs1.dsq fun hprev hllcs t => ?_
    rintro ⟨ht, c, hc, hw⟩
    exact hnone t c ht ⟨hprev, hllcs, hc⟩ ((hwaits t c).mpr hw)

theorem Dispatched.own_of_path {path : OverridePath} {t : Nat} {s' : Sched}
    (h : Dispatched m s cpu prevTier now path t s') (hpath : path ≠ .none) :
    cpu < m.nrCpuIds ∧ MovedFrom s cpu t cpu s' := by
  cases h with
  | continued hcpu _ _ _ htake => exact ⟨hcpu, htake.movedFrom⟩
  | started hcpu _ _ htake =>
      obtain ⟨q, hfirst, hdsq⟩ := htake.movedFrom_endOverride
      exact ⟨hcpu, q, hfirst, by rw [Sched.updDispatchCtx_dsq, hdsq]⟩
  | lc | taken | kept | idle => exact absurd rfl hpath

theorem dispatchDsqPerCpu_reached (m : Machine) (rnd : Nat → Nat) (s : Sched) (cpu prevTier now : Nat) :
    Reached m s cpu prevTier now (dispatchDsqPerCpu m rnd s cpu prevTier now) := by
  have hself : Unmoved s s := ⟨rfl, rfl, fun _ => rfl⟩
  by_cases hpath : overridePath m rnd s cpu now = .none
  · have hcases := lcThenStrict_cases m rnd s cpu prevTier now
    rw [dispatchDsqPerCpu_of_path hpath]
    rcases hcases with ⟨-, c, hc, htake⟩ | ⟨-, hlc, hr⟩
    · have hnear : NearCpu m cpu c := hc.symm.imp And.right And.left
      have hsrc : Source m cpu c := hnear.imp_right fun ho => ⟨ho.1, ho.2.1, ho.2.2.1⟩
      obtain ⟨q, hmoved⟩ := htake.moved hself (by decide) hsrc
      exact .near hnear hmoved
    · have hserved := strictTiers_served m rnd (endOverride m s cpu) cpu prevTier now
      rw [← hr] at hserved
      have hplaces : strictPlaces m (endOverride m s cpu) cpu prevTier ++
          (ownPlaces m (endOverride m s cpu) cpu prevTier ++ stealPlaces m cpu prevTier) =
          nearPlaces m (endOverride m s cpu) cpu prevTier ++ farPlaces m cpu prevTier := by
        rw [nearPlaces, List.append_assoc, List.append_assoc]
        rfl
      exact (hplaces ▸ hserved).reached (unmoved_endOverride m s cpu) hlc
  · have hd := dispatchDsqPerCpu_dispatched m rnd s cpu prevTier now
    generalize dispatchDsqPerCpu m rnd s cpu prevTier now = r at hd
    obtain ⟨q, hmoved⟩ := hd.moved_of_path hpath
    -- An override takes from the own queues.
    obtain ⟨hcpu, hown⟩ := hd.own_of_path hpath
    have hc := (hmoved.source_unique hcpu hown hmoved.tier hcpu).2
    exact .near (Or.inl hc.symm) hmoved

end Reached

-- A dispatch takes a task from another LLC exactly if the cpu has no prev to go on with and
-- nothing for it waits in its own LLC, and then one of the best tier that waits there.
theorem lunarDispatch_leaves_llc_iff (m : Machine) (k : Call) (now : Nat) (rnd : Nat → Nat) (cpu : Nat)
    (hcpu : cpu < m.nrCpuIds) (prev : Option Task) (s : Sched) :
    let s' := lunarDispatch m k now rnd cpu prev s
    ((∃ t c, IsTier t ∧ OtherCpu m cpu false c ∧ MovedFrom s cpu t c s') ↔
      queuedCtx s prev = none ∧ 1 < m.nrLlcs ∧
        (∀ t c, IsTier t → NearCpu m cpu c → ¬Waits s cpu t c) ∧ ∃ t, FarTier m s cpu t) ∧
    ∀ t c, IsTier t → OtherCpu m cpu false c → MovedFrom s cpu t c s' →
      IsLeast {t | FarTier m s cpu t} t := by
  intro s'
  have hargs := dispatchArgs_unmoved m k cpu prev s
  have htier := dispatchArgs_tier m k cpu prev s
  have hreached := dispatchDsqPerCpu_reached m rnd (dispatchArgs m k cpu prev s).2 cpu
    (dispatchArgs m k cpu prev s).1 now
  have hdsq : s'.dsq = _ := lunarDispatch_dsq m k now rnd cpu prev s
  generalize dispatchArgs m k cpu prev s = args at hargs htier hreached hdsq
  generalize dispatchDsqPerCpu m rnd args.2 cpu args.1 now = r at hreached hdsq
  have hprev : DSQ_TYPE_GREEDY < args.1 ↔ queuedCtx s prev = none := by
    rcases htier with ⟨h, hnone⟩ | ⟨h, hsome⟩
    · exact iff_of_true (h ▸ by decide) hnone
    · exact iff_of_false (Nat.not_lt.mpr h) hsome
  have hfarTier (t : Nat) : FarTier m args.2 cpu t ↔ FarTier m s cpu t := by
    simp [FarTier, hargs.waits]
  have hfrom (t c : Nat) : MovedFrom s cpu t c s' ↔ MovedFrom s cpu t c r.2 := by
    simp [MovedFrom, hdsq]
  simp only [hfrom]
  cases hreached with
  | @near t c q hnear hmoved =>
      have hmoved := hargs.moved hmoved
      have hnot (t' c' : Nat) (ht' : IsTier t') (hc' : OtherCpu m cpu false c') :
          ¬MovedFrom s cpu t' c' r.2 := by
        intro h
        obtain ⟨-, rfl⟩ := hmoved.source_unique hcpu h ht' hc'.1
        rcases hnear with rfl | hnear
        · exact hc'.2.1 rfl
        · exact absurd (hnear.2.2.2.mp rfl) (mt hc'.2.2.2.mpr (by decide))
      refine ⟨iff_of_false ?_ ?_, fun t' c' ht' hc' h => absurd h (hnot t' c' ht' hc')⟩
      · rintro ⟨t', c', ht', hc', h⟩
        exact hnot t' c' ht' hc' h
      · rintro ⟨-, -, hnone, -⟩
        exact hnone t c hmoved.tier hnear
          ⟨q, List.mem_of_find?_eq_some hmoved.first, List.find?_some hmoved.first⟩
  | @far c q hfar hmoved hidle hllcs hnear hleast =>
      have hmoved := hargs.moved hmoved
      simp only [hargs.waits] at hnear
      simp only [hfarTier] at hleast
      refine ⟨iff_of_true ⟨r.1, c, hmoved.tier, hfar, hmoved.movedFrom⟩
        ⟨hprev.mp hidle, hllcs, hnear, r.1, hleast.1⟩, fun t' c' ht' hc' h => ?_⟩
      obtain ⟨rfl, -⟩ := hmoved.source_unique hcpu h ht' hc'.1
      exact hleast
  | nothing hsame hnone =>
      have hnot (t c : Nat) : ¬MovedFrom s cpu t c r.2 := fun h => h.dsq_ne (hsame.trans hargs.dsq)
      refine ⟨iff_of_false ?_ ?_, fun t c _ _ h => absurd h (hnot t c)⟩
      · rintro ⟨t, c, -, -, h⟩
        exact hnot t c h
      · rintro ⟨hidle, hllcs, -, t, ht⟩
        exact hnone (hprev.mpr hidle) hllcs t ((hfarTier t).mpr ht)

-- Cpu 1 is the only one of its LLC.
theorem lunarDispatch_leaves_llc_iff_farTask :
    let k : Call := ⟨5, 1, false, false, 0⟩
    let s' := lunarDispatch twoLlcMachine k 5 (fun _ => 0) 1 none farTask
    (∃ t c, IsTier t ∧ OtherCpu twoLlcMachine 1 false c ∧ MovedFrom farTask 1 t c s') ∧
      s'.dsq (.localOn 1) = [7] := by
  have hllc (c : Nat) (hc : c < 2) : ¬OtherCpu twoLlcMachine 1 true c := by
    revert c
    decide
  have hempty (t : Nat) (ht : IsTier t) : farTask.dsq (getCpuDsqFromType t 1) = [] := by
    rcases isTier_cases ht with rfl | rfl | rfl | rfl
    all_goals decide
  have h := (lunarDispatch_leaves_llc_iff twoLlcMachine ⟨5, 1, false, false, 0⟩ 5 (fun _ => 0) 1
    (by decide) none farTask).1
  refine ⟨h.mpr ⟨rfl, by decide, fun t c ht hc => ?_, DSQ_TYPE_GREEDY, by decide, 0, by decide,
    7, by decide, by decide⟩, by decide⟩
  rcases hc with rfl | hc
  · rintro ⟨p, hp, -⟩
    simp [hempty t ht] at hp
  · exact absurd hc (hllc c hc.1)

end Lunar
