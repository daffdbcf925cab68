/-
This file models `LiveRequest`, the queue on which the receiver thread waits for
an answer from the user interface. A requester empties the queue, fires the
event and then blocks in `take`; the completion handler of the owning scope
offers the cancellation value once. Each of these is one step of a machine, so
a run is an interleaving of the requester's thread with the threads that offer
and cancel.

The cancellation value travels through the queue that a request starts by
clearing. A request that starts after the scope is gone therefore discards it
and blocks for good. As long as no request starts after the cancellation, every
outstanding request has an answer waiting for it.
-/

import Mathlib.Tactic.Common
import TermPlux.Machine

namespace TermPlux.LiveRequest

/-! ### The request queue and its steps -/

/-- Where a requester stands inside `requestResponse`. At most one thread requests at a
time. -/
inductive Requester (RequestType : Type)
  /-- Outside of `requestResponse`. -/
  | idle
  /-- The queue is cleared, the event is not fired yet. -/
  | cleared (value : RequestType)
  /-- The event is fired: the requester is in `responses.take()`. -/
  | taking
  deriving DecidableEq

/-- A `LiveRequest` with an owning scope. `offered` logs what `offerResponse` was given and
`returned` what `requestResponse` returned, both latest first. -/
structure State (RequestType ResponseType : Type) where
  cancellationValue : ResponseType
  responses : List ResponseType
  requester : Requester RequestType
  scopeCancelled : Bool
  fired : List RequestType
  offered : List ResponseType
  returned : List ResponseType

variable {RequestType ResponseType : Type}

/-- `LinkedBlockingQueue.offer`: the queue is unbounded, so the offer always succeeds. -/
def State.offer (state : State RequestType ResponseType) (response : ResponseType) :
    State RequestType ResponseType :=
  { state with responses := state.responses ++ [response] }

/-- `responses.clear()`, the first step of `requestResponse`. -/
def State.clear (state : State RequestType ResponseType) (value : RequestType) :
    State RequestType ResponseType :=
  { state with responses := [], requester := .cleared value }

/-- `fireAsync(value)`, the second step of `requestResponse`. -/
def State.fireAsync (state : State RequestType ResponseType) :
    State RequestType ResponseType :=
  match state.requester with
  | .cleared value => { state with requester := .taking, fired := value :: state.fired }
  | _ => state

/-- `responses.take()`, the last step of `requestResponse`. On an empty queue the requester
stays blocked. -/
def State.take (state : State RequestType ResponseType) : State RequestType ResponseType :=
  match state.responses with
  | [] => state
  | response :: rest =>
    { state with
      responses := rest, requester := .idle, returned := response :: state.returned }

def State.offerResponse (state : State RequestType ResponseType) (response : ResponseType) :
    State RequestType ResponseType :=
  { state.offer response with offered := response :: state.offered }

def State.cancelRequest (state : State RequestType ResponseType) :
    State RequestType ResponseType :=
  state.offer state.cancellationValue

/-- The scope is cancelled and the completion handler of its awaiting job runs. -/
def State.cancelScope (state : State RequestType ResponseType) :
    State RequestType ResponseType :=
  { state.cancelRequest with scopeCancelled := true }

/-- The steps of the threads that share a `LiveRequest`. -/
inductive Event (RequestType ResponseType : Type)
  | clear (value : RequestType)
  | fireAsync
  | take
  | offerResponse (response : ResponseType)
  | cancelRequest
  | cancelScope

/-- A requester takes its three steps in order, and `take` returns only from a non-empty
queue. The completion handler runs once. -/
def Event.enabled (state : State RequestType ResponseType) : Event RequestType ResponseType → Bool
  | .clear _ => (state.requester matches .idle)
  | .fireAsync => (state.requester matches .cleared _)
  | .take => (state.requester matches .taking) && !state.responses.isEmpty
  | .offerResponse _ => true
  | .cancelRequest => true
  | .cancelScope => !state.scopeCancelled

def State.step (state : State RequestType ResponseType) :
    Event RequestType ResponseType → State RequestType ResponseType
  | .clear value => state.clear value
  | .fireAsync => state.fireAsync
  | .take => state.take
  | .offerResponse response => state.offerResponse response
  | .cancelRequest => state.cancelRequest
  | .cancelScope => state.cancelScope

/-- A fresh `LiveRequest` whose scope is alive. -/
def machine (RequestType : Type) {ResponseType : Type} (cancellationValue : ResponseType) :
    Machine (State RequestType ResponseType) (Event RequestType ResponseType) where
  start :=
    { cancellationValue, responses := [], requester := .idle, scopeCancelled := false,
      fired := [], offered := [], returned := [] }
  enabled := fun state event => event.enabled state = true
  step := State.step

instance (cancellationValue : ResponseType) (state : State RequestType ResponseType)
    (event : Event RequestType ResponseType) :
    Decidable ((machine RequestType cancellationValue).enabled state event) :=
  inferInstanceAs (Decidable (event.enabled state = true))

/-! ### No requester is stranded -/

/-- The hang: the scope is gone, nothing is queued, and a requester waits in `take`. -/
def State.Stranded (state : State RequestType ResponseType) : Prop :=
  state.scopeCancelled = true ∧ state.responses = [] ∧ state.requester = .taking

/-- An answer `requestResponse` may return: one that was offered, or the cancellation value. -/
def State.Answer (state : State RequestType ResponseType) (answer : ResponseType) : Prop :=
  answer = state.cancellationValue ∨ answer ∈ state.offered

/-- A request starts only while the scope is alive. -/
def StartsBeforeCancellation (state : State RequestType ResponseType) :
    Event RequestType ResponseType → Prop
  | .clear _ => state.scopeCancelled = false
  | _ => True

/-- What a run keeps as long as no request starts after the cancellation: an outstanding
request of a cancelled scope finds an answer in the queue. -/
structure State.Served (state : State RequestType ResponseType) : Prop where
  waiting : state.scopeCancelled = true → state.requester ≠ .idle → state.responses ≠ []
  queued : ∀ response ∈ state.responses, state.Answer response
  given : ∀ response ∈ state.returned, state.Answer response

theorem served_clear {state : State RequestType ResponseType} (value : RequestType)
    (served : state.Served) (alive : state.scopeCancelled = false) :
    (state.clear value).Served where
  waiting cancelled := absurd (alive.symm.trans cancelled) (by decide)
  queued := by simp [State.clear]
  given := served.given

theorem served_fireAsync {state : State RequestType ResponseType} (served : state.Served) :
    state.fireAsync.Served := by
  unfold State.fireAsync
  split
  · rename_i value phase
    exact ⟨fun cancelled _ => served.waiting cancelled (by simp [phase]), served.queued,
      served.given⟩
  · exact served

theorem served_take {state : State RequestType ResponseType} (served : state.Served) :
    state.take.Served := by
  unfold State.take
  split
  · exact served
  · rename_i response rest queue
    have answers := served.queued
    rw [queue] at answers
    refine ⟨fun _ busy => absurd rfl busy, fun other member => ?_, fun other member => ?_⟩
    · exact answers other (List.mem_cons_of_mem _ member)
    · rcases List.mem_cons.mp member with rfl | earlier
      · exact answers other List.mem_cons_self
      · exact served.given other earlier

/-- Offering anything keeps the queue non-empty, so it serves whoever waits. -/
theorem served_offer {state : State RequestType ResponseType} (served : state.Served)
    (response : ResponseType) (answer : state.Answer response) :
    (state.offer response).Served where
  waiting _ _ := by simp [State.offer]
  queued other member := by
    rcases List.mem_append.mp member with queued | new
    · exact served.queued other queued
    · rw [List.mem_singleton.mp new]
      exact answer
  given := served.given

theorem served_offerResponse {state : State RequestType ResponseType} (served : state.Served)
    (response : ResponseType) : (state.offerResponse response).Served := by
  have logged : (({ state with offered := response :: state.offered } :
      State RequestType ResponseType)).Served :=
    ⟨served.waiting, fun other member => (served.queued other member).imp_right
        (List.mem_cons_of_mem _),
      fun other member => (served.given other member).imp_right (List.mem_cons_of_mem _)⟩
  exact served_offer logged response (Or.inr List.mem_cons_self)

theorem served_cancelScope {state : State RequestType ResponseType} (served : state.Served) :
    state.cancelScope.Served := by
  have offered := served_offer served state.cancellationValue (Or.inl rfl)
  exact ⟨fun _ _ => by simp [State.cancelScope, State.cancelRequest, State.offer],
    offered.queued, offered.given⟩

/-- Every step that does not start a request of a cancelled scope keeps the requester
served. -/
theorem served_step {state : State RequestType ResponseType}
    (event : Event RequestType ResponseType) (served : state.Served)
    (condition : StartsBeforeCancellation state event) : (state.step event).Served := by
  cases event with
  | clear value => exact served_clear value served condition
  | fireAsync => exact served_fireAsync served
  | take => exact served_take served
  | offerResponse response => exact served_offerResponse served response
  | cancelRequest => exact served_offer served state.cancellationValue (Or.inl rfl)
  | cancelScope => exact served_cancelScope served

theorem served_start (cancellationValue : ResponseType) :
    (machine RequestType cancellationValue).start.Served where
  waiting cancelled := Bool.noConfusion cancelled
  queued := by simp [machine]
  given := by simp [machine]

theorem served_run {cancellationValue : ResponseType}
    {events : List (Event RequestType ResponseType)}
    (run : ((machine RequestType cancellationValue).restrict StartsBeforeCancellation).Run events) :
    ((machine RequestType cancellationValue).after events).Served :=
  run.invariant_of_condition State.Served (served_start cancellationValue)
    fun _ event served _ condition => served_step event served condition

/-- In every run whose requests all start before the scope is cancelled, no state strands
the requester, and what a request returned is an offered response or the cancellation
value. -/
theorem requester_never_stranded (cancellationValue : ResponseType)
    (events : List (Event RequestType ResponseType))
    (run : ((machine RequestType cancellationValue).restrict StartsBeforeCancellation).Run events) :
    ¬ ((machine RequestType cancellationValue).after events).Stranded ∧
      ∀ response ∈ ((machine RequestType cancellationValue).after events).returned,
        ((machine RequestType cancellationValue).after events).Answer response := by
  have served := served_run run
  refine ⟨fun ⟨cancelled, empty, taking⟩ => ?_, served.given⟩
  exact served.waiting cancelled (by simp [taking]) empty

/-- A request that is outstanding when the scope is cancelled returns the cancellation
value. -/
theorem requester_never_stranded_outstanding :
    ¬ ((machine Unit false).after [.clear (), .fireAsync, .cancelScope]).Stranded ∧
      ∀ response ∈ ((machine Unit false).after [.clear (), .fireAsync, .cancelScope]).returned,
        ((machine Unit false).after [.clear (), .fireAsync, .cancelScope]).Answer response :=
  requester_never_stranded false [.clear (), .fireAsync, .cancelScope]
    ⟨⟨by decide, rfl⟩, ⟨by decide, trivial⟩, ⟨by decide, trivial⟩, trivial⟩

/-- A request that starts after the cancellation clears the cancellation value away and
blocks for good. -/
theorem requester_stranded_after_cancellation :
    (machine Unit false).Run [.cancelScope, .clear (), .fireAsync] ∧
      ((machine Unit false).after [.cancelScope, .clear (), .fireAsync]).Stranded :=
  ⟨by decide, rfl, rfl, rfl⟩

end TermPlux.LiveRequest
