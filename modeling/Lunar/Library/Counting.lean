import Mathlib.Algebra.BigOperators.Group.Finset.Basic
import Mathlib.Algebra.BigOperators.Group.Finset.Piecewise
import Mathlib.Algebra.BigOperators.Group.Finset.Sigma
import Mathlib.Data.Finset.Card
import Mathlib.Data.Finset.Range
import Mathlib.Data.List.Basic
import Mathlib.Data.List.Nodup
import Mathlib.Logic.Function.Basic
import Mathlib.Tactic.Common

-- How many of the first `n` flags are set, and what a change of one flag does to that.

namespace FlagCount

variable {n i : Nat} {flag flag' : Nat → Bool}

def number (n : Nat) (flag : Nat → Bool) : Nat := ((Finset.range n).filter (flag ·)).card

theorem number_le : number n flag ≤ n := by
  calc
    number n flag ≤ (Finset.range n).card := Finset.card_filter_le ..
    _ = n := Finset.card_range n

theorem number_congr (h : ∀ i < n, flag' i = flag i) : number n flag' = number n flag := by
  unfold number
  congr 1
  apply Finset.filter_congr
  intro i hi
  rw [h i (Finset.mem_range.mp hi)]

theorem number_eq_zero_iff : number n flag = 0 ↔ ∀ i < n, flag i = false := by
  simp [number, Finset.filter_eq_empty_iff]

theorem number_pos (hi : i < n) (hf : flag i = true) : 0 < number n flag := by
  by_contra hzero
  have h := number_eq_zero_iff.mp (Nat.eq_zero_of_not_pos hzero) i hi
  rw [hf] at h
  cases h

theorem number_set (hi : i < n) (hf : flag i = false) :
    number n (Function.update flag i true) = number n flag + 1 := by
  have heq : (Finset.range n).filter (Function.update flag i true ·) =
      insert i ((Finset.range n).filter (flag ·)) := by
    ext j
    by_cases hj : j = i
    · simp [hj, hi]
    · simp [hj]
  unfold number
  rw [heq, Finset.card_insert_of_notMem (by simp [hf])]

theorem number_clear (hi : i < n) (hf : flag i = true) :
    number n (Function.update flag i false) = number n flag - 1 := by
  have heq : (Finset.range n).filter (Function.update flag i false ·) =
      ((Finset.range n).filter (flag ·)).erase i := by
    ext j
    by_cases hj : j = i
    · simp [hj]
    · simp [hj]
  unfold number
  rw [heq, Finset.card_erase_of_mem (by simp [hi, hf])]

end FlagCount

-- Clients that are served by servers. A client is with one server at a time, and a server
-- has one client at a time.

namespace Serving

variable {κ ι : Type*} [DecidableEq κ] [DecidableEq ι] {client : ι → Option κ} {served : κ → Prop}
  [DecidablePred served] {server : κ → ι} {clients : Finset κ} {servers : Finset ι}

-- The served clients among some, and the servers that are busy with one of them, are as many.
theorem sum_served (h : ∀ i k, client i = some k ↔ served k ∧ server k = i)
    (hserver : ∀ k, served k → server k ∈ servers) (d : Nat) :
    (clients.sum fun k => if served k then d else 0) =
      servers.sum fun i => if ∃ k ∈ clients, client i = some k then d else 0 := by
  have hclient (k : κ) : (if served k then d else 0) =
      servers.sum fun i => if client i = some k then d else 0 := by
    by_cases hk : served k
    · simp [h, hk, hserver k hk]
    · simp [h, hk]
  have hbusy (i : ι) : (clients.sum fun k => if client i = some k then d else 0) =
      if ∃ k ∈ clients, client i = some k then d else 0 := by
    cases client i with
    | none => simp
    | some k => simp
  calc (clients.sum fun k => if served k then d else 0)
      = clients.sum fun k => servers.sum fun i => if client i = some k then d else 0 :=
        Finset.sum_congr rfl fun k _ => hclient k
    _ = servers.sum fun i => clients.sum fun k => if client i = some k then d else 0 :=
        Finset.sum_comm
    _ = servers.sum fun i => if ∃ k ∈ clients, client i = some k then d else 0 :=
        Finset.sum_congr rfl fun i _ => hbusy i

-- If the clients get what they are served and nothing else, they get what the servers spend.
theorem sum_conserved {got got' : κ → Nat} {spent spent' : ι → Nat} {d : Nat}
    (h : ∀ i k, client i = some k ↔ served k ∧ server k = i)
    (hserver : ∀ k, served k → server k ∈ servers)
    (hgot : ∀ k, got' k = got k + if served k then d else 0)
    (hspent : ∀ i, spent' i = spent i + if ∃ k ∈ clients, client i = some k then d else 0)
    (hsum : clients.sum got = servers.sum spent) : clients.sum got' = servers.sum spent' := by
  calc clients.sum got'
      = clients.sum got + clients.sum fun k => if served k then d else 0 := by
        rw [← Finset.sum_add_distrib]
        exact Finset.sum_congr rfl fun k _ => hgot k
    _ = servers.sum spent + servers.sum fun i => if ∃ k ∈ clients, client i = some k then d else 0 := by
        rw [hsum, sum_served h hserver]
    _ = servers.sum spent' := by
        rw [← Finset.sum_add_distrib]
        exact Finset.sum_congr rfl fun i _ => (hspent i).symm

end Serving

-- Classes that wait for service, each with a time when its turn is due. Whoever picks one
-- picks the one due first, and its next turn is due later than that of those that waited.

namespace Aging

variable {ι : Type*} {due due' : ι → Nat} {t i : ι} {served : List ι}

-- The classes that were served since t began to wait, the latest first.
structure Fair (due : ι → Nat) (t : ι) (served : List ι) : Prop where
  nodup : served.Nodup
  later : ∀ i ∈ served, due t < due i

theorem Fair.start : Fair due t [] := ⟨.nil, nofun⟩

-- The turns of those that were served can only move back.
theorem Fair.wait (h : Fair due t served) (hsame : due' t = due t) (hback : ∀ i ∈ served, due i ≤ due' i) :
    Fair due' t served where
  nodup := h.nodup
  later i hi := by
    have := h.later i hi
    have := hback i hi
    omega

theorem Fair.not_mem (h : Fair due t served) (hfirst : due i ≤ due t) : i ∉ served := by
  intro hi
  have := h.later i hi
  omega

theorem Fair.pick (h : Fair due t served) (hfirst : due i ≤ due t) (hsame : due' t = due t)
    (hback : ∀ i ∈ served, due i ≤ due' i) (hnext : due t < due' i) : Fair due' t (i :: served) where
  nodup := List.nodup_cons.mpr ⟨h.not_mem hfirst, h.nodup⟩
  later := List.forall_mem_cons.mpr ⟨hsame ▸ hnext, (h.wait hsame hback).later⟩

-- So every class but t has at most one turn while t waits.
theorem Fair.length_le [DecidableEq ι] (h : Fair due t served) {classes : Finset ι}
    (hclasses : ∀ i ∈ served, i ∈ classes) : served.length ≤ (classes.erase t).card := by
  rw [← List.toFinset_card_of_nodup h.nodup]
  refine Finset.card_le_card fun i hi => ?_
  rw [List.mem_toFinset] at hi
  refine Finset.mem_erase.mpr ⟨?_, hclasses i hi⟩
  rintro rfl
  exact Nat.lt_irrefl _ (h.later i hi)

end Aging

-- A limiter that knows when something was last done: what it limits is done only once
-- enough time has passed since, and it may be done unlimited at any time.

namespace RateLimit

structure Act where
  time : Nat
  limited : Bool
deriving DecidableEq, Repr

-- The acts, the latest first, with a limiter that remembers the time last.
structure Kept (gap : Nat) (acts : List Act) (last : Nat) : Prop where
  past : ∀ act ∈ acts, act.time ≤ last
  apart : acts.Pairwise fun later earlier => later.limited → earlier.time + gap ≤ later.time

variable {gap last now : Nat} {acts : List Act}

theorem Kept.start : Kept gap [] last := ⟨nofun, .nil⟩

theorem Kept.wait (h : Kept gap acts last) (hnow : last ≤ now) : Kept gap acts now :=
  ⟨fun act hact => Nat.le_trans (h.past act hact) hnow, h.apart⟩

theorem Kept.act (h : Kept gap acts last) {limited : Bool} (hnow : last ≤ now)
    (hgap : limited → last + gap ≤ now) : Kept gap (⟨now, limited⟩ :: acts) now where
  past := List.forall_mem_cons.mpr ⟨Nat.le_refl now, (h.wait hnow).past⟩
  apart := by
    refine List.pairwise_cons.mpr ⟨fun earlier hearlier hlimited => ?_, h.apart⟩
    have hpast := h.past earlier hearlier
    have hfree := hgap hlimited
    dsimp only
    omega

-- Times at least a gap apart take up room.
theorem length_mul_le {times : List Nat} {a b : Nat}
    (h : times.Pairwise fun later earlier => earlier + gap ≤ later)
    (hin : ∀ time ∈ times, a ≤ time ∧ time ≤ b) : times.length * gap ≤ b - a + gap := by
  induction times generalizing b with
  | nil => simp
  | cons later rest ih =>
      obtain ⟨hfirst, hrest⟩ := List.pairwise_cons.mp h
      obtain ⟨hlater, hbefore⟩ := List.forall_mem_cons.mp hin
      rw [List.length_cons, Nat.add_one_mul]
      cases rest with
      | nil => simp
      | cons earlier rest =>
          have hroom := ih (b := later - gap) hrest fun time htime =>
            ⟨(hbefore time htime).1, Nat.le_sub_of_add_le (hfirst time htime)⟩
          have hearlier := hfirst earlier List.mem_cons_self
          have hafter := (hbefore earlier List.mem_cons_self).1
          omega

-- In no window are there more limited acts than gaps fit in it, and one.
theorem Kept.count_le (h : Kept gap acts last) (hgap : 0 < gap) (a b : Nat) :
    (acts.filter fun act => act.limited ∧ a ≤ act.time ∧ act.time ≤ b).length ≤ (b - a) / gap + 1 := by
  generalize hacts : acts.filter (fun act => act.limited ∧ a ≤ act.time ∧ act.time ≤ b) = inside
  have hmem (act : Act) (hact : act ∈ inside) : act.limited ∧ a ≤ act.time ∧ act.time ≤ b := by
    rw [← hacts] at hact
    simpa using (List.mem_filter.mp hact).2
  have hapart : (inside.map Act.time).Pairwise fun later earlier => earlier + gap ≤ later := by
    rw [List.pairwise_map]
    have hinside : inside.Pairwise fun later earlier => later.limited → earlier.time + gap ≤ later.time :=
      hacts ▸ h.apart.filter _
    exact hinside.imp_of_mem fun hlater _ himp => himp (hmem _ hlater).1
  have hroom := length_mul_le hapart (a := a) (b := b) (by
    intro time htime
    obtain ⟨act, hact, rfl⟩ := List.mem_map.mp htime
    exact (hmem act hact).2)
  rw [List.length_map] at hroom
  rw [← Nat.add_div_right _ hgap]
  exact (Nat.le_div_iff_mul_le hgap).mpr hroom

end RateLimit
