import Mathlib.Data.List.Induction
import Mathlib.Tactic.Common

-- Guarded transition systems: which event may happen in a state, and what it
-- does there. A run is a list of events, so that a run can be evaluated.

structure TransitionSystem (σ ε : Type*) where
  enabled : σ → ε → Prop
  exec : σ → ε → σ

namespace TransitionSystem

variable {σ ε γ : Type*}

-- Every event of the list is enabled in the state the events before it lead to.
def Runs (sys : TransitionSystem σ ε) : σ → List ε → Prop
  | _, [] => True
  | state, event :: rest => sys.enabled state event ∧ sys.Runs (sys.exec state event) rest

def final (sys : TransitionSystem σ ε) (state : σ) (events : List ε) : σ :=
  events.foldl sys.exec state

def Reaches (sys : TransitionSystem σ ε) (start state : σ) : Prop :=
  ∃ events, sys.Runs start events ∧ sys.final start events = state

instance decidableRuns (sys : TransitionSystem σ ε)
    [∀ state event, Decidable (sys.enabled state event)] :
    ∀ state events, Decidable (sys.Runs state events)
  | _, [] => inferInstanceAs (Decidable True)
  | state, event :: rest =>
      have := decidableRuns sys (sys.exec state event) rest
      inferInstanceAs (Decidable (_ ∧ _))

@[simp] theorem final_nil (sys : TransitionSystem σ ε) (state : σ) :
    sys.final state [] = state := rfl

@[simp] theorem final_cons (sys : TransitionSystem σ ε) (state : σ) (event : ε)
    (rest : List ε) :
    sys.final state (event :: rest) = sys.final (sys.exec state event) rest := rfl

-- What holds at the start and is kept by every enabled event holds after every run.
theorem invariant_of_runs (sys : TransitionSystem σ ε) {P : σ → Prop}
    (hstep : ∀ state event, P state → sys.enabled state event → P (sys.exec state event))
    {start : σ} (hstart : P start) {events : List ε} (hruns : sys.Runs start events) :
    P (sys.final start events) := by
  induction events generalizing start with
  | nil => exact hstart
  | cons event rest ih => exact ih (hstep start event hstart hruns.1) hruns.2

theorem invariant_of_reaches (sys : TransitionSystem σ ε) {P : σ → Prop}
    (hstep : ∀ state event, P state → sys.enabled state event → P (sys.exec state event))
    {start state : σ} (hstart : P start) (hreach : sys.Reaches start state) : P state := by
  obtain ⟨events, hruns, rfl⟩ := hreach
  exact sys.invariant_of_runs hstep hstart hruns

@[simp] theorem final_append (sys : TransitionSystem σ ε) (state : σ) (before after : List ε) :
    sys.final state (before ++ after) = sys.final (sys.final state before) after :=
  List.foldl_append

theorem runs_append (sys : TransitionSystem σ ε) {start : σ} {before after : List ε} :
    sys.Runs start (before ++ after) ↔ sys.Runs start before ∧ sys.Runs (sys.final start before) after := by
  induction before generalizing start with
  | nil => exact ⟨fun h => ⟨trivial, h⟩, fun h => h.2⟩
  | cons event rest ih =>
      rw [List.cons_append, Runs, ih, Runs, final_cons, and_assoc]

-- What holds of the run without events and is kept as the run grows holds of every run.
theorem history_of_runs (sys : TransitionSystem σ ε) {start : σ} {P : List ε → Prop} (hnil : P [])
    (hstep : ∀ events event, P events → sys.Runs start events →
      sys.enabled (sys.final start events) event → P (events ++ [event]))
    {events : List ε} (hruns : sys.Runs start events) : P events := by
  induction events using List.reverseRecOn with
  | nil => exact hnil
  | append_singleton events event ih =>
      obtain ⟨hbefore, hlast⟩ := sys.runs_append.mp hruns
      exact hstep events event (ih hbefore) hbefore hlast.1

-- A run has no more events of a kind than a measure allows that each of them lowers and no
-- other event raises.
theorem countP_le_of_runs (sys : TransitionSystem σ ε) {P : σ → Prop} (own : ε → Bool) (left : σ → Nat)
    (hstep : ∀ state event, P state → sys.enabled state event →
      P (sys.exec state event) ∧ left (sys.exec state event) + (if own event then 1 else 0) ≤ left state)
    {start : σ} (hstart : P start) {events : List ε} (hruns : sys.Runs start events) :
    left (sys.final start events) + events.countP own ≤ left start := by
  induction events generalizing start with
  | nil => simp
  | cons event rest ih =>
      obtain ⟨hnext, hless⟩ := hstep start event hstart hruns.1
      have hrest := ih hnext hruns.2
      rw [final_cons, List.countP_cons]
      omega

-- Only the events that meet a further condition.
def restrict (sys : TransitionSystem σ ε) (cond : σ → ε → Prop) : TransitionSystem σ ε where
  enabled state event := sys.enabled state event ∧ cond state event
  exec := sys.exec

instance (sys : TransitionSystem σ ε) (cond : σ → ε → Prop)
    [∀ state event, Decidable (sys.enabled state event)]
    [∀ state event, Decidable (cond state event)] (state : σ) (event : ε) :
    Decidable ((sys.restrict cond).enabled state event) := inferInstanceAs (Decidable (_ ∧ _))

theorem runs_of_restrict (sys : TransitionSystem σ ε) (cond : σ → ε → Prop) {start : σ}
    {events : List ε} (hruns : (sys.restrict cond).Runs start events) :
    sys.Runs start events := by
  induction events generalizing start with
  | nil => trivial
  | cons event rest ih => exact ⟨hruns.1.1, ih hruns.2⟩

-- A condition that every event meets is none.
theorem runs_restrict (sys : TransitionSystem σ ε) {cond : σ → ε → Prop}
    (h : ∀ state event, cond state event) {start : σ} {events : List ε} (hruns : sys.Runs start events) :
    (sys.restrict cond).Runs start events := by
  induction events generalizing start with
  | nil => trivial
  | cons event rest ih => exact ⟨⟨hruns.1, h start event⟩, ih hruns.2⟩

theorem reaches_restrict (sys : TransitionSystem σ ε) {cond : σ → ε → Prop}
    (h : ∀ state event, cond state event) {start state : σ} (hreach : sys.Reaches start state) :
    (sys.restrict cond).Reaches start state := by
  obtain ⟨events, hruns, hfinal⟩ := hreach
  exact ⟨events, sys.runs_restrict h hruns, hfinal⟩

-- The system together with an observer, which sees each event and the states
-- before and after it and never influences the run.
def observe (sys : TransitionSystem σ ε) (watch : γ → σ → ε → σ → γ) :
    TransitionSystem (σ × γ) ε where
  enabled state event := sys.enabled state.1 event
  exec state event :=
    (sys.exec state.1 event, watch state.2 state.1 event (sys.exec state.1 event))

instance (sys : TransitionSystem σ ε) (watch : γ → σ → ε → σ → γ)
    [∀ state event, Decidable (sys.enabled state event)] (state : σ × γ) (event : ε) :
    Decidable ((sys.observe watch).enabled state event) :=
  inferInstanceAs (Decidable (sys.enabled state.1 event))

section Refinement

-- Refinement: what an event of one transition system does is what a list of events of
-- another one does, seen through a function on the states.

variable {τ δ : Type*}

structure Refines (conc : TransitionSystem σ ε) (abs : TransitionSystem τ δ) (view : σ → τ)
    (inv : σ → Prop) (label : σ → ε → List δ → Prop) : Prop where
  keeps : ∀ state event, inv state → conc.enabled state event → inv (conc.exec state event)
  matched : ∀ state event, inv state → conc.enabled state event →
    ∃ labels, label state event labels ∧ abs.Runs (view state) labels ∧
      abs.final (view state) labels = view (conc.exec state event)

-- A list of labels for each event of a run.
inductive Labelled (conc : TransitionSystem σ ε) (label : σ → ε → List δ → Prop) :
    σ → List ε → List (List δ) → Prop where
  | nil {state : σ} : Labelled conc label state [] []
  | cons {state : σ} {event : ε} {labels : List δ} {rest : List ε} {trace : List (List δ)}
      (h : label state event labels) (hrest : Labelled conc label (conc.exec state event) rest trace) :
      Labelled conc label state (event :: rest) (labels :: trace)

-- So a whole run is, label by label, a run of the abstract system.
theorem Refines.runs {conc : TransitionSystem σ ε} {abs : TransitionSystem τ δ} {view : σ → τ}
    {inv : σ → Prop} {label : σ → ε → List δ → Prop} (h : Refines conc abs view inv label)
    {start : σ} (hinv : inv start) {events : List ε} (hruns : conc.Runs start events) :
    ∃ trace, Labelled conc label start events trace ∧ abs.Runs (view start) trace.flatten ∧
      abs.final (view start) trace.flatten = view (conc.final start events) := by
  induction events generalizing start with
  | nil => exact ⟨[], .nil, trivial, rfl⟩
  | cons event rest ih =>
      obtain ⟨henabled, hrest⟩ := hruns
      obtain ⟨labels, hlabel, hlabels, hfinal⟩ := h.matched start event hinv henabled
      obtain ⟨trace, htrace, habs, hend⟩ := ih (h.keeps start event hinv henabled) hrest
      refine ⟨labels :: trace, .cons hlabel htrace, ?_, ?_⟩
      · rw [List.flatten_cons, runs_append, hfinal]
        exact ⟨hlabels, habs⟩
      · rw [List.flatten_cons, final_append, hfinal, hend]
        rfl

end Refinement

section Replay

-- A part of the state of a system that changes only by notes, which are taken of some events.

variable {τ ν : Type*}

structure Part (sys : TransitionSystem σ ε) (apply : ν → τ → τ) where
  view : σ → τ
  note : σ → ε → Option ν
  step : ∀ state event, sys.enabled state event →
    view (sys.exec state event) = (note state event).elim (view state) (apply · (view state))

namespace Part

variable {sys : TransitionSystem σ ε} {apply : ν → τ → τ}

-- The notes of a run.
def history (part : sys.Part apply) : σ → List ε → List ν
  | _, [] => []
  | state, event :: rest => (part.note state event).toList ++ part.history (sys.exec state event) rest

theorem history_cons (part : sys.Part apply) (state : σ) (event : ε) (rest : List ε) :
    part.history state (event :: rest) =
      (part.note state event).toList ++ part.history (sys.exec state event) rest := rfl

def replay (apply : ν → τ → τ) (start : τ) (notes : List ν) : τ :=
  notes.foldl (fun state note => apply note state) start

-- The part can be told from the notes alone.
theorem view_final (part : sys.Part apply) {start : σ} {events : List ε} (hruns : sys.Runs start events) :
    part.view (sys.final start events) = replay apply (part.view start) (part.history start events) := by
  induction events generalizing start with
  | nil => rfl
  | cons event rest ih =>
      rw [final_cons, ih hruns.2, part.step start event hruns.1, history_cons]
      unfold replay
      rw [List.foldl_append]
      cases part.note start event with
      | none => rfl
      | some n => rfl

-- Whatever else is different between two runs makes no difference to the part.
theorem view_congr {σ' ε' : Type*} {sys' : TransitionSystem σ' ε'} (part : sys.Part apply)
    (part' : sys'.Part apply) {start : σ} {start' : σ'} {events : List ε} {events' : List ε'}
    (hruns : sys.Runs start events) (hruns' : sys'.Runs start' events')
    (hstart : part.view start = part'.view start')
    (hhistory : part.history start events = part'.history start' events') :
    part.view (sys.final start events) = part'.view (sys'.final start' events') := by
  rw [part.view_final hruns, part'.view_final hruns', hstart, hhistory]

end Part

end Replay

end TransitionSystem

-- A record that one party writes step by step and shows with its last write, and that
-- another party looks at only once it is shown.

namespace Publication

variable {ρ : Type*} {shown : ρ → Prop} {complete record : ρ} {next : ρ → ρ} {todo : List (ρ → ρ)}

def finish (record : ρ) (todo : List (ρ → ρ)) : ρ := todo.foldl (fun r w => w r) record

-- What is true between two writes, with the writes to come.
structure Writing (shown : ρ → Prop) (complete record : ρ) (todo : List (ρ → ρ)) : Prop where
  finishes : finish record todo = complete
  hidden : todo ≠ [] → ¬shown record
  early : ∀ w ∈ todo.dropLast, ∀ r, ¬shown r → ¬shown (w r)

theorem Writing.start (hhidden : ¬shown record) (hearly : ∀ w ∈ todo.dropLast, ∀ r, ¬shown r → ¬shown (w r)) :
    Writing shown (finish record todo) record todo := ⟨rfl, fun _ => hhidden, hearly⟩

theorem Writing.write (h : Writing shown complete record (next :: todo)) :
    Writing shown complete (next record) todo where
  finishes := h.finishes
  hidden hne := by
    refine h.early next ?_ record (h.hidden (by simp))
    rw [List.dropLast_cons_of_ne_nil hne]
    exact List.mem_cons_self
  early w hw := by
    refine h.early w ?_
    rw [List.dropLast_cons_of_ne_nil (by rintro rfl; cases hw)]
    exact List.mem_cons_of_mem _ hw

-- Whoever finds the record shown finds all of it.
theorem Writing.complete_of_shown (h : Writing shown complete record todo) (hshown : shown record) :
    todo = [] ∧ record = complete := by
  have hnil : todo = [] := by
    by_contra hne
    exact h.hidden hne hshown
  refine ⟨hnil, ?_⟩
  have hfinishes := h.finishes
  rwa [hnil] at hfinishes

end Publication
