import Lunar.Dispatches.Moves
import Lunar.Dispatches.Strict

namespace Lunar

open CircularScan

-- The queues that dispatch_dsq_per_cpu looks at when no override takes a task, one after the
-- other, with the start of every scan. The first one with a task for the cpu is served.

-- A queue, by its tier and its cpu.
abbrev Lookup := Nat × Nat

def Lookup.waits (s : Sched) (cpu : Nat) (place : Lookup) : Bool := Waits s cpu place.1 place.2

-- The queues of tier t that a scan goes through.
def scanned (m : Machine) (rnd : Nat) (src : Nat → Prop) [DecidablePred src] (t : Nat) : List Lookup :=
  ((visits (rnd % m.nrCpuIds) m.nrCpuIds).filter src).map (t, ·)

def stealLookups (m : Machine) (rnd : Nat → Nat) (cpu : Nat) : List Lookup :=
  let llc (i t : Nat) := scanned m (rnd i) (OtherCpu m cpu true) t
  let far (i t : Nat) := scanned m (rnd i) (OtherCpu m cpu false) t
  llc 7 DSQ_TYPE_LC ++ (llc 8 DSQ_TYPE_INTERACTIVE ++ (llc 9 DSQ_TYPE_NORMAL ++
    (llc 10 DSQ_TYPE_GREEDY ++
      if m.nrLlcs > 1 then
        far 11 DSQ_TYPE_LC ++ (far 12 DSQ_TYPE_INTERACTIVE ++ (far 13 DSQ_TYPE_NORMAL ++
          far 14 DSQ_TYPE_GREEDY))
      else [])))

def ownLookups (m : Machine) (rnd : Nat → Nat) (s : Sched) (cpu prevTier : Nat) : List Lookup :=
  let rt (i t : Nat) := scanned m (rnd i) (RtTaken m s cpu) t
  if prevTier < DSQ_TYPE_INTERACTIVE then [] else
  rt 4 DSQ_TYPE_INTERACTIVE ++ ([(DSQ_TYPE_INTERACTIVE, cpu)] ++
  if prevTier < DSQ_TYPE_NORMAL then [] else
  rt 5 DSQ_TYPE_NORMAL ++ ([(DSQ_TYPE_NORMAL, cpu)] ++
  if prevTier < DSQ_TYPE_GREEDY then [] else
  rt 6 DSQ_TYPE_GREEDY ++ ([(DSQ_TYPE_GREEDY, cpu)] ++
  if prevTier ≤ DSQ_TYPE_GREEDY then [] else
  stealLookups m rnd cpu)))

def strictLookups (m : Machine) (rnd : Nat → Nat) (s : Sched) (cpu prevTier : Nat) : List Lookup :=
  let best := localBest s cpu prevTier
  let better (i t : Nat) :=
    if best ≠ DSQ_TYPE_EMPTY ∧ best > t then scanned m (rnd i) (OtherCpu m cpu true) t else []
  better 1 DSQ_TYPE_LC ++ (better 2 DSQ_TYPE_INTERACTIVE ++ (better 3 DSQ_TYPE_NORMAL ++
    ownLookups m rnd s cpu prevTier))

def lcLookups (m : Machine) (rnd : Nat → Nat) (s : Sched) (cpu : Nat) : List Lookup :=
  scanned m (rnd 0) (RtTaken m s cpu) DSQ_TYPE_LC ++ [(DSQ_TYPE_LC, cpu)]

-- The queue that is served.
def firstLookup (m : Machine) (rnd : Nat → Nat) (s : Sched) (cpu prevTier : Nat) : Option Lookup :=
  (lcLookups m rnd s cpu ++ strictLookups m rnd s cpu prevTier).find? (Lookup.waits s cpu)

-- Every queue of the list belongs to a tier and to a cpu that cpu may take from.
def Sourced (m : Machine) (cpu : Nat) (places : List Lookup) : Prop :=
  ∀ place ∈ places, IsTier place.1 ∧ Source m cpu place.2

namespace Sourced

variable {m : Machine} {rnd : Nat → Nat} {s : Sched} {cpu prevTier t : Nat} {places more : List Lookup}

theorem nil : Sourced m cpu [] := nofun

theorem append (h : Sourced m cpu places) (hmore : Sourced m cpu more) :
    Sourced m cpu (places ++ more) :=
  List.forall_mem_append.mpr ⟨h, hmore⟩

theorem single (ht : IsTier t) : Sourced m cpu [(t, cpu)] := by
  simpa [Sourced] using ⟨ht, Or.inl rfl⟩

theorem scan {n : Nat} {src : Nat → Prop} [DecidablePred src] (ht : IsTier t)
    (hsrc : ∀ c, src c → Source m cpu c) : Sourced m cpu (scanned m n src t) := by
  intro place hp
  simp only [scanned, List.mem_map, List.mem_filter, decide_eq_true_eq] at hp
  obtain ⟨c, ⟨-, hc⟩, rfl⟩ := hp
  exact ⟨ht, hsrc c hc⟩

theorem other (n : Nat) (sameLLC : Bool) (ht : IsTier t) :
    Sourced m cpu (scanned m n (OtherCpu m cpu sameLLC) t) := scan ht fun _ hc => hc.source

-- The queues of a tier behind those of the cpus taken by an RT task, and what follows.
theorem own (n : Nat) (ht : IsTier t) (hmore : Sourced m cpu more) :
    Sourced m cpu (scanned m n (RtTaken m s cpu) t ++ ([(t, cpu)] ++ more)) :=
  (scan ht fun _ hc => hc.source).append ((single ht).append hmore)

theorem steal : Sourced m cpu (stealLookups m rnd cpu) := by
  refine (other _ true (by decide)).append <| (other _ true (by decide)).append <|
    (other _ true (by decide)).append <| (other _ true (by decide)).append ?_
  split_ifs
  · exact (other _ false (by decide)).append <| (other _ false (by decide)).append <|
      (other _ false (by decide)).append (other _ false (by decide))
  · exact nil

theorem ownTiers : Sourced m cpu (ownLookups m rnd s cpu prevTier) := by
  unfold ownLookups
  dsimp only
  split_ifs
  · exact nil
  · exact own _ (by decide) nil
  · exact own _ (by decide) (own _ (by decide) nil)
  · exact own _ (by decide) (own _ (by decide) (own _ (by decide) nil))
  · exact own _ (by decide) (own _ (by decide) (own _ (by decide) steal))

theorem lookups : Sourced m cpu (lcLookups m rnd s cpu ++ strictLookups m rnd s cpu prevTier) := by
  have hbetter (i t : Nat) (ht : IsTier t) : Sourced m cpu
      (if localBest s cpu prevTier ≠ DSQ_TYPE_EMPTY ∧ localBest s cpu prevTier > t
        then scanned m (rnd i) (OtherCpu m cpu true) t else []) := by
    split_ifs
    · exact other _ true ht
    · exact nil
  rw [lcLookups, List.append_assoc]
  exact own _ (by decide) <| (hbetter 1 _ (by decide)).append <| (hbetter 2 _ (by decide)).append <|
    (hbetter 3 _ (by decide)).append ownTiers

end Sourced

section Take

variable (m : Machine) (s : Sched) (cpu now : Nat)

-- The first take that succeeds, with its tier.
def takeFirst (places : List Lookup) : Option (Nat × Sched) :=
  places.findSome? fun place => (takeAt m s cpu place.1 now place.2).map (place.1, ·)

-- The result of a part of dispatch_dsq_per_cpu that looks at some queues.
def takeOr (fallback : Nat) (places : List Lookup) : Nat × Sched :=
  (takeFirst m s cpu now places).getD (fallback, s)

variable {m s cpu now} {places more : List Lookup} {fallback : Nat}

theorem takeFirst_append :
    takeFirst m s cpu now (places ++ more) =
      (takeFirst m s cpu now places).or (takeFirst m s cpu now more) :=
  List.findSome?_append

-- One line of the function.
theorem returnIf_takeOr {t : Nat} {take : Option Sched} {rest : Nat × Sched}
    (htake : take.map (t, ·) = takeFirst m s cpu now places)
    (hrest : rest = takeOr m s cpu now fallback more) :
    returnIf t take rest = takeOr m s cpu now fallback (places ++ more) := by
  rw [takeOr, takeFirst_append, ← htake, hrest]
  cases take with
  | none => rfl
  | some s' => rfl

theorem returnIf_takeLast {t : Nat} {take : Option Sched}
    (htake : take.map (t, ·) = takeFirst m s cpu now places) :
    returnIf t take (fallback, s) = takeOr m s cpu now fallback places := by
  rw [takeOr, ← htake]
  cases take with
  | none => rfl
  | some s' => rfl

theorem takeFirst_eq_none : takeFirst m s cpu now places = none ↔
    ∀ place ∈ places, ¬Waits s cpu place.1 place.2 := by
  simp only [takeFirst, List.findSome?_eq_none_iff, Option.map_eq_none_iff, takeAt_eq_none]

-- It is the take from the first queue with a task for the cpu.
theorem takeFirst_eq_some {r : Nat × Sched} (h : takeFirst m s cpu now places = some r) :
    ∃ place, places.find? (Lookup.waits s cpu) = some place ∧ r.1 = place.1 ∧
      TakenFrom m s cpu place.1 place.2 now r.2 := by
  induction places with
  | nil => cases h
  | cons place rest ih =>
      cases htake : takeAt m s cpu place.1 now place.2 with
      | none =>
          have hskip : Lookup.waits s cpu place = false := decide_eq_false (takeAt_eq_none.mp htake)
          have hrest : takeFirst m s cpu now rest = some r := by
            simpa [takeFirst, htake] using h
          obtain ⟨place', hfirst, hr⟩ := ih hrest
          exact ⟨place', by rwa [List.find?_cons_of_neg (by simp [hskip])], hr⟩
      | some s' =>
          have htaken := takeAt_eq_some.mp htake
          have hhit : Lookup.waits s cpu place = true := decide_eq_true (.of_takenFrom htaken)
          obtain rfl : (place.1, s') = r := by simpa [takeFirst, htake] using h
          exact ⟨place, List.find?_cons_of_pos hhit, rfl, htaken⟩

end Take

section Scan

variable {m : Machine} {s : Sched} {cpu t now rnd : Nat}

-- A scan that takes from the cpus of src only.
theorem takeFirst_scanned (src : Nat → Prop) [DecidablePred src] {turn : Nat → Option Sched}
    (hturn : ∀ c < m.nrCpuIds, turn c = if src c then takeAt m s cpu t now c else none) :
    ((visits (rnd % m.nrCpuIds) m.nrCpuIds).findSome? turn).map (t, ·) =
      takeFirst m s cpu now (scanned m rnd src t) := by
  have hcpus (c : Nat) (hc : c ∈ visits (rnd % m.nrCpuIds) m.nrCpuIds) :=
    hturn c ((mem_visits _ _ c).mp hc)
  rw [takeFirst, scanned, List.findSome?_map]
  generalize visits (rnd % m.nrCpuIds) m.nrCpuIds = cpus at hcpus ⊢
  induction cpus with
  | nil => rfl
  | cons c rest ih =>
      have hrest := ih fun c hc => hcpus c (List.mem_cons_of_mem _ hc)
      rw [List.findSome?_cons, hcpus c (by simp), List.filter_cons]
      by_cases hc : src c
      · rw [if_pos hc, if_pos (by simpa using hc), List.findSome?_cons]
        cases htake : takeAt m s cpu t now c with
        | none => simpa [htake] using hrest
        | some s' => simp [htake]
      · rw [if_neg hc, if_neg (by simpa using hc)]
        exact hrest

variable (m s cpu now)

theorem takeFirst_local (t : Nat) :
    (takeFromLocalTier m s t cpu now).map (t, ·) = takeFirst m s cpu now [(t, cpu)] := by
  rw [takeFromLocalTier_eq]
  cases h : takeAt m s cpu t now cpu with
  | none => simp [takeFirst, h]
  | some s' => simp [takeFirst, h]

variable {m s cpu now} in
theorem acquireFrom_eq {sameLLC : Bool} {c : Nat} (hc : c < m.nrCpuIds) :
    acquireFrom m s t cpu sameLLC now c =
      if OtherCpu m cpu sameLLC c then takeAt m s cpu t now c else none := by
  cases h : acquireFrom m s t cpu sameLLC now c with
  | some s' =>
      obtain ⟨hsrc, htake⟩ := acquireFrom_eq_some hc h
      rw [if_pos hsrc, takeAt_eq_some.mpr htake]
  | none =>
      split_ifs with hsrc
      · exact (takeAt_eq_none.mpr (acquireFrom_eq_none h hsrc)).symm
      · rfl

theorem takeFirst_other (rnd : Nat) (sameLLC : Bool) (ht : IsTier t) :
    (takeFromOtherTier m rnd s t cpu now sameLLC).map (t, ·) =
      takeFirst m s cpu now (scanned m rnd (OtherCpu m cpu sameLLC) t) := by
  have hne : t ≠ DSQ_TYPE_EMPTY := by
    have := tier_values
    have := ht.2
    omega
  rw [← takeFirst_scanned (OtherCpu m cpu sameLLC) fun c hc => acquireFrom_eq hc]
  unfold takeFromOtherTier tryAcquireTaskFromOtherCpu
  cases (visits (rnd % m.nrCpuIds) m.nrCpuIds).findSome? (acquireFrom m s t cpu sameLLC now) with
  | none => simp
  | some s' => simp [hne]

theorem takeFirst_rt (rnd t : Nat) :
    (tryAcquireFromRtCpu m rnd s t cpu now).map (t, ·) =
      takeFirst m s cpu now (scanned m rnd (RtTaken m s cpu) t) := by
  unfold tryAcquireFromRtCpu
  by_cases hbusy : s.nrRtBusy = 0
  · have hnone : scanned m rnd (RtTaken m s cpu) t = [] := by
      rw [scanned, List.map_eq_nil_iff, List.filter_eq_nil_iff]
      intro c _
      simp [RtTaken, hbusy]
    rw [hnone, if_pos hbusy]
    rfl
  · rw [if_neg hbusy]
    refine takeFirst_scanned (RtTaken m s cpu) fun c hc => ?_
    cases h : acquireFromRt m s t cpu now c with
    | some s' =>
        obtain ⟨hsrc, htake⟩ := acquireFromRt_eq_some hc hbusy h
        rw [if_pos hsrc, takeAt_eq_some.mpr htake]
    | none =>
        split_ifs with hsrc
        · exact (takeAt_eq_none.mpr (acquireFromRt_eq_none h hsrc)).symm
        · rfl

end Scan

section Parts

variable (m : Machine) (rnd : Nat → Nat) (s : Sched) (cpu prevTier now : Nat)

theorem stealTiers_eq : stealTiers m rnd s cpu now =
    takeOr m s cpu now (DSQ_TYPE_EMPTY + 1) (stealLookups m rnd cpu) := by
  have htake (i t : Nat) (sameLLC : Bool) (ht : IsTier t) :=
    takeFirst_other m s cpu now (rnd i) sameLLC ht
  refine returnIf_takeOr (htake 7 _ true (by decide)) <| returnIf_takeOr (htake 8 _ true (by decide)) <|
    returnIf_takeOr (htake 9 _ true (by decide)) <| returnIf_takeOr (htake 10 _ true (by decide)) ?_
  split_ifs
  · exact returnIf_takeOr (htake 11 _ false (by decide)) <|
      returnIf_takeOr (htake 12 _ false (by decide)) <|
      returnIf_takeOr (htake 13 _ false (by decide)) <|
      returnIf_takeLast (htake 14 _ false (by decide))
  · rfl

theorem ownTiers_eq : ownTiers m rnd s cpu prevTier now =
    takeOr m s cpu now (unserved prevTier) (ownLookups m rnd s cpu prevTier) := by
  have hvalues := tier_values
  have hkept (hle : prevTier ≤ DSQ_TYPE_GREEDY) :
      (DSQ_TYPE_EMPTY, s) = takeOr m s cpu now (unserved prevTier) [] := by
    rw [unserved, if_pos hle]
    rfl
  have hrt (i t : Nat) := takeFirst_rt m s cpu now (rnd i) t
  have hown (t : Nat) := takeFirst_local m s cpu now t
  unfold ownTiers ownLookups
  dsimp only
  -- Each test on prevTier ends the function and the list at the same place.
  split_ifs with hi hn hg hprev
  · exact hkept (by omega)
  · exact returnIf_takeOr (hrt 4 _) (returnIf_takeOr (hown _) (hkept (by omega)))
  · exact returnIf_takeOr (hrt 4 _) <| returnIf_takeOr (hown _) <| returnIf_takeOr (hrt 5 _) <|
      returnIf_takeOr (hown _) (hkept (by omega))
  · exact returnIf_takeOr (hrt 4 _) <| returnIf_takeOr (hown _) <| returnIf_takeOr (hrt 5 _) <|
      returnIf_takeOr (hown _) <| returnIf_takeOr (hrt 6 _) <| returnIf_takeOr (hown _) (hkept hprev)
  · refine returnIf_takeOr (hrt 4 _) <| returnIf_takeOr (hown _) <| returnIf_takeOr (hrt 5 _) <|
      returnIf_takeOr (hown _) <| returnIf_takeOr (hrt 6 _) <| returnIf_takeOr (hown _) ?_
    rw [unserved, if_neg hprev]
    exact stealTiers_eq m rnd s cpu now

theorem strictTiers_eq : strictTiers m rnd s cpu prevTier now =
    takeOr m s cpu now (unserved prevTier) (strictLookups m rnd s cpu prevTier) := by
  have hbetter (i t : Nat) (ht : IsTier t) :
      (if localBest s cpu prevTier ≠ DSQ_TYPE_EMPTY ∧ localBest s cpu prevTier > t then
        takeFromOtherTier m (rnd i) s t cpu now true else none).map (t, ·) =
      takeFirst m s cpu now (if localBest s cpu prevTier ≠ DSQ_TYPE_EMPTY ∧ localBest s cpu prevTier > t
        then scanned m (rnd i) (OtherCpu m cpu true) t else []) := by
    split_ifs
    · exact takeFirst_other m s cpu now (rnd i) true ht
    · rfl
  exact returnIf_takeOr (hbetter 1 _ (by decide)) <| returnIf_takeOr (hbetter 2 _ (by decide)) <|
    returnIf_takeOr (hbetter 3 _ (by decide)) (ownTiers_eq m rnd s cpu prevTier now)

theorem lcThenStrict_eq : lcThenStrict m rnd s cpu prevTier now =
    (takeFirst m s cpu now (lcLookups m rnd s cpu)).getD
      (takeOr m (endOverride m s cpu) cpu now (unserved prevTier)
        (strictLookups m rnd (endOverride m s cpu) cpu prevTier)) := by
  unfold lcThenStrict lcLookups
  rw [takeFirst_append, ← takeFirst_rt, ← takeFirst_local, strictTiers_eq]
  cases tryAcquireFromRtCpu m (rnd 0) s DSQ_TYPE_LC cpu now with
  | some s' => rfl
  | none =>
      cases takeFromLocalTier m s DSQ_TYPE_LC cpu now with
      | some s' => rfl
      | none => rfl

end Parts

section Served

variable {m : Machine} {rnd : Nat → Nat} {s : Sched} {cpu prevTier now : Nat}

@[simp] theorem lookup_waits_endOverride (d : Nat) :
    Lookup.waits (endOverride m s d) cpu = Lookup.waits s cpu := by
  funext place
  simp [Lookup.waits]

@[simp] theorem strictLookups_endOverride (d : Nat) :
    strictLookups m rnd (endOverride m s d) cpu prevTier = strictLookups m rnd s cpu prevTier := by
  simp [strictLookups, ownLookups, scanned]

-- A part of the function takes the task from the first of its queues that has one. It may
-- start in a state in which an override has ended.
theorem takeFirst_first {s1 : Sched} {places : List Lookup} (now : Nat) (hu : Unmoved s s1)
    (hwaits : Lookup.waits s1 cpu = Lookup.waits s cpu) (hsrc : Sourced m cpu places) :
    (∃ place q s', places.find? (Lookup.waits s cpu) = some place ∧
      takeFirst m s1 cpu now places = some (place.1, s') ∧ Moved m s cpu place.1 place.2 now q s') ∨
    places.find? (Lookup.waits s cpu) = none ∧ takeFirst m s1 cpu now places = none := by
  cases htake : takeFirst m s1 cpu now places with
  | none =>
      refine Or.inr ⟨?_, rfl⟩
      rw [← hwaits, List.find?_eq_none]
      intro place hp
      simpa [Lookup.waits] using takeFirst_eq_none.mp htake place hp
  | some taken =>
      obtain ⟨place, hfirst, htier, htaken⟩ := takeFirst_eq_some htake
      rw [hwaits] at hfirst
      obtain ⟨ht, hc⟩ := hsrc place (List.mem_of_find?_eq_some hfirst)
      obtain ⟨q, hmoved⟩ := htaken.moved hu ht hc
      exact Or.inl ⟨place, q, taken.2, hfirst, by rw [← htier], hmoved⟩

-- Without an override, the task comes out of the first queue that has one.
theorem lcThenStrict_first (m : Machine) (rnd : Nat → Nat) (s : Sched) (cpu prevTier now : Nat) :
    let r := lcThenStrict m rnd s cpu prevTier now
    (∃ place q, firstLookup m rnd s cpu prevTier = some place ∧ r.1 = place.1 ∧
      Moved m s cpu place.1 place.2 now q r.2) ∨
    firstLookup m rnd s cpu prevTier = none ∧ Unmoved s r.2 := by
  intro r
  have hr : r = _ := lcThenStrict_eq m rnd s cpu prevTier now
  rw [strictLookups_endOverride] at hr
  obtain ⟨hlc, hstrict⟩ : Sourced m cpu (lcLookups m rnd s cpu) ∧
      Sourced m cpu (strictLookups m rnd s cpu prevTier) := List.forall_mem_append.mp Sourced.lookups
  rw [firstLookup, List.find?_append]
  rcases takeFirst_first now ⟨rfl, rfl, fun _ => rfl⟩ rfl hlc with
    ⟨place, q, s', hfirst, htake, hmoved⟩ | ⟨hskip, hmiss⟩
  · rw [htake, Option.getD_some] at hr
    rw [hr, hfirst]
    exact Or.inl ⟨place, q, rfl, rfl, hmoved⟩
  · rw [hmiss, Option.getD_none, takeOr] at hr
    rw [hskip, Option.none_or]
    rcases takeFirst_first now (unmoved_endOverride m s cpu) (lookup_waits_endOverride cpu) hstrict with
      ⟨place, q, s', hfirst, htake, hmoved⟩ | ⟨hnone, hmiss⟩
    · rw [htake, Option.getD_some] at hr
      rw [hr, hfirst]
      exact Or.inl ⟨place, q, rfl, rfl, hmoved⟩
    · rw [hmiss, Option.getD_none] at hr
      rw [hr]
      exact Or.inr ⟨hnone, unmoved_endOverride m s cpu⟩

end Served

end Lunar
