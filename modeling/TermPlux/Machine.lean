/-
This file is the run library. A machine is a start state, a step function and a
guard saying which event can happen in which state; a run is a list of events
each of which is enabled in the state it finds. The rules below turn a fact
about one step into a fact about every run: an invariant of the start state
that every enabled step keeps holds after every run. Restricting a machine
strengthens the guard, so "every run whose steps all meet a condition" is a run
of the restricted machine.
-/

import Mathlib.Data.List.Basic
import Mathlib.Logic.Basic

namespace TermPlux

/-- A machine: where it starts, which events can happen in a state, and what they do. -/
structure Machine (State Event : Type) where
  start : State
  enabled : State → Event → Prop
  step : State → Event → State

namespace Machine

variable {State Event : Type}

/-- The state reached from `state` by a list of events. -/
def afterFrom (machine : Machine State Event) (state : State) (events : List Event) : State :=
  events.foldl machine.step state

/-- The state reached from the start by a list of events. -/
def after (machine : Machine State Event) (events : List Event) : State :=
  machine.afterFrom machine.start events

/-- Every event of the list is enabled in the state it finds. -/
def RunFrom (machine : Machine State Event) : State → List Event → Prop
  | _, [] => True
  | state, event :: rest =>
    machine.enabled state event ∧ machine.RunFrom (machine.step state event) rest

/-- A run of the machine: every event is enabled in the state it finds. -/
def Run (machine : Machine State Event) (events : List Event) : Prop :=
  machine.RunFrom machine.start events

/-- The property holds in every state that the events pass through. -/
def AlwaysFrom (machine : Machine State Event) (good : State → Prop) : State → List Event → Prop
  | state, [] => good state
  | state, event :: rest =>
    good state ∧ machine.AlwaysFrom good (machine.step state event) rest

/-- The property holds in every state that the events pass through from the start. -/
def Always (machine : Machine State Event) (good : State → Prop) (events : List Event) : Prop :=
  machine.AlwaysFrom good machine.start events

/-- The machine in which an event must also meet a condition on the state it finds. -/
def restrict (machine : Machine State Event) (condition : State → Event → Prop) :
    Machine State Event where
  start := machine.start
  enabled state event := machine.enabled state event ∧ condition state event
  step := machine.step

instance decidableRunFrom (machine : Machine State Event)
    [decidableEnabled : ∀ state event, Decidable (machine.enabled state event)] :
    ∀ state events, Decidable (machine.RunFrom state events)
  | _, [] => .isTrue trivial
  | state, event :: rest =>
    haveI := decidableRunFrom machine (machine.step state event) rest
    inferInstanceAs (Decidable (_ ∧ _))

instance decidableRun (machine : Machine State Event)
    [decidableEnabled : ∀ state event, Decidable (machine.enabled state event)]
    (events : List Event) : Decidable (machine.Run events) :=
  decidableRunFrom machine machine.start events

instance decidableAlwaysFrom (machine : Machine State Event) (good : State → Prop)
    [decidableGood : DecidablePred good] :
    ∀ state events, Decidable (machine.AlwaysFrom good state events)
  | state, [] => decidableGood state
  | state, event :: rest =>
    haveI := decidableAlwaysFrom machine good (machine.step state event) rest
    inferInstanceAs (Decidable (_ ∧ _))

instance decidableAlways (machine : Machine State Event) (good : State → Prop)
    [decidableGood : DecidablePred good] (events : List Event) :
    Decidable (machine.Always good events) :=
  decidableAlwaysFrom machine good machine.start events

instance decidableRestrict (machine : Machine State Event) (condition : State → Event → Prop)
    [decidableEnabled : ∀ state event, Decidable (machine.enabled state event)]
    [decidableCondition : ∀ state event, Decidable (condition state event)]
    (state : State) (event : Event) :
    Decidable ((machine.restrict condition).enabled state event) :=
  inferInstanceAs (Decidable (_ ∧ _))

/-- Two conditions that mean the same restrict a machine to the same runs. -/
theorem restrict_run_congr {machine : Machine State Event}
    {condition other : State → Event → Prop}
    (same : ∀ state event, condition state event ↔ other state event) {events : List Event} :
    (machine.restrict condition).Run events ↔ (machine.restrict other).Run events := by
  have equal : condition = other :=
    funext fun state => funext fun event => propext (same state event)
  rw [equal]

theorem after_concat (machine : Machine State Event) (events : List Event) (event : Event) :
    machine.after (events ++ [event]) = machine.step (machine.after events) event :=
  List.foldl_append

/-- An invariant that every enabled step keeps holds after every run. -/
theorem RunFrom.invariant (machine : Machine State Event) (holds : State → Prop)
    (kept : ∀ state event, holds state → machine.enabled state event →
      holds (machine.step state event)) {events : List Event} :
    ∀ {state : State}, holds state → machine.RunFrom state events →
      holds (machine.afterFrom state events) := by
  induction events with
  | nil => intro _ initially _; exact initially
  | cons event rest inductionHypothesis =>
    intro state initially run
    exact inductionHypothesis (kept state event initially run.1) run.2

/-- Where every event is always enabled, every list of events is a run. -/
theorem Run.of_enabled {machine : Machine State Event}
    (always : ∀ state event, machine.enabled state event) (events : List Event) :
    machine.Run events := by
  have general (events : List Event) : ∀ state, machine.RunFrom state events := by
    induction events with
    | nil => exact fun _ => trivial
    | cons event rest inductionHypothesis =>
      exact fun state => ⟨always state event, inductionHypothesis (machine.step state event)⟩
  exact general events machine.start

/-- The invariant rule from the start state. -/
theorem Run.invariant {machine : Machine State Event} (holds : State → Prop)
    (initially : holds machine.start)
    (kept : ∀ state event, holds state → machine.enabled state event →
      holds (machine.step state event)) {events : List Event} (run : machine.Run events) :
    holds (machine.after events) :=
  RunFrom.invariant machine holds kept initially run

theorem RunFrom.history (machine : Machine State Event) (holds : List Event → State → Prop)
    (kept : ∀ past state event, holds past state → machine.enabled state event →
      holds (past ++ [event]) (machine.step state event)) {events : List Event} :
    ∀ {past : List Event} {state : State}, holds past state → machine.RunFrom state events →
      holds (past ++ events) (machine.afterFrom state events) := by
  induction events with
  | nil =>
    intro past state initially _
    rw [List.append_nil]
    exact initially
  | cons event rest inductionHypothesis =>
    intro past state initially run
    have later := inductionHypothesis (kept past state event initially run.1) run.2
    rw [List.append_assoc] at later
    exact later

/-- The invariant rule for the runs whose steps all meet a condition. -/
theorem Run.invariant_of_condition {machine : Machine State Event}
    {condition : State → Event → Prop} (holds : State → Prop) (initially : holds machine.start)
    (kept : ∀ state event, holds state → machine.enabled state event → condition state event →
      holds (machine.step state event)) {events : List Event}
    (run : (machine.restrict condition).Run events) : holds (machine.after events) :=
  RunFrom.invariant (machine.restrict condition) holds
    (fun state event held allowed => kept state event held allowed.1 allowed.2) initially run

/-- The invariant rule for facts about a state and the events that led to it. -/
theorem Run.history {machine : Machine State Event} (holds : List Event → State → Prop)
    (initially : holds [] machine.start)
    (kept : ∀ past state event, holds past state → machine.enabled state event →
      holds (past ++ [event]) (machine.step state event)) {events : List Event}
    (run : machine.Run events) : holds events (machine.after events) :=
  RunFrom.history machine holds kept initially run

/-- The same rule for the runs whose steps all meet a condition. -/
theorem Run.history_of_condition {machine : Machine State Event}
    {condition : State → Event → Prop} (holds : List Event → State → Prop)
    (initially : holds [] machine.start)
    (kept : ∀ past state event, holds past state → machine.enabled state event →
      condition state event → holds (past ++ [event]) (machine.step state event))
    {events : List Event} (run : (machine.restrict condition).Run events) :
    holds events (machine.after events) :=
  RunFrom.history (machine.restrict condition) holds
    (fun past state event held allowed => kept past state event held allowed.1 allowed.2)
    initially run

/-- Where a step keeps a property just when the property and a condition hold before it, a run
has the property just when each of its steps meets the condition. -/
theorem Run.good_iff {machine : Machine State Event} {condition : State → Event → Prop}
    (holds good : State → Prop) (initially : holds machine.start) (fresh : good machine.start)
    (kept : ∀ state event, holds state → machine.enabled state event →
      holds (machine.step state event))
    (exact : ∀ state event, holds state → machine.enabled state event →
      (good (machine.step state event) ↔ good state ∧ condition state event))
    {events : List Event} (run : machine.Run events) :
    good (machine.after events) ↔ (machine.restrict condition).Run events := by
  have general (events : List Event) : ∀ state, holds state → machine.RunFrom state events →
      (good (machine.afterFrom state events) ↔
        good state ∧ (machine.restrict condition).RunFrom state events) := by
    induction events with
    | nil => exact fun _ _ _ => (and_iff_left trivial).symm
    | cons event rest inductionHypothesis =>
      intro state held run
      refine (inductionHypothesis _ (kept state event held run.1) run.2).trans ?_
      rw [exact state event held run.1, and_assoc]
      refine and_congr_right fun _ => ?_
      constructor
      · rintro ⟨met, others⟩
        exact ⟨⟨run.1, met⟩, others⟩
      · rintro ⟨⟨-, met⟩, others⟩
        exact ⟨met, others⟩
  exact (general events machine.start initially run).trans (and_iff_right fresh)

theorem AlwaysFrom.first {machine : Machine State Event} {good : State → Prop} {state : State}
    {events : List Event} (always : machine.AlwaysFrom good state events) : good state := by
  cases events with
  | nil => exact always
  | cons event rest => exact always.1

/-- Where a step from a good state leads to a good one just when a condition holds before it, and
the invariant behind this is kept by the steps that meet the condition, a run is good all along
just when each of its steps meets the condition. -/
theorem Run.always_iff {machine : Machine State Event} {condition : State → Event → Prop}
    (holds good : State → Prop) (initially : holds machine.start) (fresh : good machine.start)
    (kept : ∀ state event, holds state → machine.enabled state event → condition state event →
      holds (machine.step state event))
    (exact : ∀ state event, holds state → good state → machine.enabled state event →
      (good (machine.step state event) ↔ condition state event))
    {events : List Event} (run : machine.Run events) :
    machine.Always good events ↔ (machine.restrict condition).Run events := by
  have general (events : List Event) : ∀ state, holds state → good state →
      machine.RunFrom state events →
      (machine.AlwaysFrom good state events ↔
        (machine.restrict condition).RunFrom state events) := by
    induction events with
    | nil => exact fun _ _ fine _ => iff_of_true fine trivial
    | cons event rest inductionHypothesis =>
      intro state held fine run
      have next := exact state event held fine run.1
      constructor
      · rintro ⟨-, later⟩
        have met := next.mp later.first
        have keeps := kept state event held run.1 met
        exact ⟨⟨run.1, met⟩, (inductionHypothesis _ keeps later.first run.2).mp later⟩
      · rintro ⟨⟨-, met⟩, others⟩
        have keeps := kept state event held run.1 met
        exact ⟨fine, (inductionHypothesis _ keeps (next.mpr met) run.2).mpr others⟩
  exact general events machine.start initially fresh run

end Machine

end TermPlux
