/-
This file models `LiveEvent`, an observable whose events are handled by one
observer each. An event is the value of a `LiveData` together with a flag that the
first observer to be notified of it sets. Events that are fired asynchronously are
posted and set later by the main thread.

Seen from outside this is a `Delivery`: the value that is not consumed yet waits,
the pending one is posted. No event is handled twice, and none is lost as long as
none is fired over one that waits for an observer, or posted over a pending one.
-/

import TermPlux.Delivery
import TermPlux.LiveData
import TermPlux.Machine

namespace TermPlux.LiveEvent

/-! ### Events and observers -/

/-- An event is told apart from others by how many were fired before it. -/
structure WrappedData (T : Type) where
  event : Nat
  data : T
  consumed : Bool := false

/-- Every call of `observe` wraps its observer anew. -/
structure WrappedObserver (Observer : Type) where
  identity : Nat
  observer : Observer
  deriving DecidableEq

/-- An observer handled an event. -/
structure Handling (Observer T : Type) where
  observer : Observer
  event : Nat
  data : T

/-- A `LiveEvent`. `fired` and `handled` are history, oldest first. -/
structure State (Observer T : Type) where
  liveData : LiveData (WrappedObserver Observer) (WrappedData T)
  wrappedObservers : List (Observer × WrappedObserver Observer)
  nextIdentity : Nat
  fired : List T
  handled : List (Handling Observer T)

variable {Observer T : Type}

/-- `onChanged` of a wrapped observer, on the value and what was handled so far. -/
def WrappedObserver.onChanged (current : WrappedData T × List (Handling Observer T))
    (wrapped : WrappedObserver Observer) : WrappedData T × List (Handling Observer T) :=
  if !current.1.consumed then
    ({ current.1 with consumed := true },
      current.2 ++ [⟨wrapped.observer, current.1.event, current.1.data⟩])
  else current

namespace State

/-- Calls the notified observers with the value. -/
def deliver (state : State Observer T)
    (notified : List (WrappedObserver Observer) ×
      LiveData (WrappedObserver Observer) (WrappedData T)) : State Observer T :=
  match notified.2.value with
  | none => { state with liveData := notified.2 }
  | some value =>
    let changed := notified.1.foldl WrappedObserver.onChanged (value, state.handled)
    { state with
      liveData := { notified.2 with value := some changed.1 }
      handled := changed.2 }

def wrap (state : State Observer T) (data : T) : WrappedData T :=
  { event := state.fired.length, data }

def fire (state : State Observer T) (data : T) : State Observer T :=
  { state with fired := state.fired ++ [data] }.deliver (state.liveData.setValue (state.wrap data))

def fireAsync (state : State Observer T) (data : T) : State Observer T :=
  { state with
    fired := state.fired ++ [data]
    liveData := state.liveData.postValue (state.wrap data) }

variable [DecidableEq Observer]

/-- Where the owner of an observer stands when it begins to observe. -/
inductive Lifecycle
  | destroyed
  | inactive
  | active
  deriving DecidableEq

/-- `observe`, and `observeForever` with an owner that is always active. A destroyed owner only
leaves its observer in the map. -/
def observe (state : State Observer T) (observer : Observer) (owner : Lifecycle) :
    State Observer T :=
  let wrapped : WrappedObserver Observer := ⟨state.nextIdentity, observer⟩
  let entered :=
    { state with
      nextIdentity := state.nextIdentity + 1
      wrappedObservers :=
        (observer, wrapped) :: state.wrappedObservers.filter (·.1 ≠ observer) }
  match owner with
  | .destroyed => entered
  | .inactive => { entered with liveData := state.liveData.observe wrapped }
  | .active =>
    entered.deliver ((state.liveData.observe wrapped).activeStateChanged wrapped true)

def removeObserver (state : State Observer T) (observer : Observer) : State Observer T :=
  match state.wrappedObservers.find? (·.1 = observer) with
  | none => state
  | some (_, wrapped) =>
    { state with
      wrappedObservers := state.wrappedObservers.filter (·.1 ≠ observer)
      liveData := state.liveData.removeObserver wrapped }

end State

/-! ### Runs -/

inductive Event (Observer T : Type)
  | fire (data : T)
  | fireAsync (data : T)
  /-- The main thread sets the pending value. -/
  | runPosted
  | observe (observer : Observer) (owner : State.Lifecycle)
  | removeObserver (observer : Observer)
  /-- The owner of an observer becomes active, inactive or is destroyed. -/
  | activate (wrapped : WrappedObserver Observer)
  | deactivate (wrapped : WrappedObserver Observer)
  | destroy (wrapped : WrappedObserver Observer)

variable [DecidableEq Observer]

def State.step (state : State Observer T) : Event Observer T → State Observer T
  | .fire data => state.fire data
  | .fireAsync data => state.fireAsync data
  | .runPosted => state.deliver state.liveData.runPosted
  | .observe observer owner => state.observe observer owner
  | .removeObserver observer => state.removeObserver observer
  | .activate wrapped => state.deliver (state.liveData.activeStateChanged wrapped true)
  | .deactivate wrapped => state.deliver (state.liveData.activeStateChanged wrapped false)
  | .destroy wrapped => { state with liveData := state.liveData.removeObserver wrapped }

/-- A fresh `LiveEvent` and everything that can happen to it. The main thread has something to run
while a value is pending. -/
def machine (Observer T : Type) [DecidableEq Observer] :
    Machine (State Observer T) (Event Observer T) where
  start :=
    { liveData := {}, wrappedObservers := [], nextIdentity := 0, fired := [], handled := [] }
  enabled state
    | .runPosted => state.liveData.pending.isSome
    | _ => True
  step := State.step

/-! ### A live event is a delivery -/

/-- The event that waits for an observer: the current one, unless it is consumed. -/
def State.waiting (state : State Observer T) : Option (WrappedData T) :=
  state.liveData.value.filter fun value => !value.consumed

/-- What a `LiveEvent` is for. -/
def State.delivery (state : State Observer T) : Delivery where
  sent := state.fired.length
  posted := state.liveData.pending.map (·.event)
  waiting := state.waiting.map (·.event)
  handled := state.handled.map (·.event)

variable {state : State Observer T}

omit [DecidableEq Observer] in
@[simp] theorem onChanged_consumed {value : WrappedData T} (done : value.consumed = true)
    (handled : List (Handling Observer T)) (wrapped : WrappedObserver Observer) :
    WrappedObserver.onChanged (value, handled) wrapped = (value, handled) :=
  if_neg (by rw [done]; decide)

omit [DecidableEq Observer] in
theorem foldl_onChanged_consumed {value : WrappedData T} (done : value.consumed = true)
    (handled : List (Handling Observer T)) (notified : List (WrappedObserver Observer)) :
    notified.foldl WrappedObserver.onChanged (value, handled) = (value, handled) := by
  induction notified with
  | nil => rfl
  | cons wrapped rest inductionHypothesis =>
    rw [List.foldl_cons, onChanged_consumed done]
    exact inductionHypothesis

omit [DecidableEq Observer] in
/-- Only the first of the observers that are called handles an event that is not consumed. -/
theorem foldl_onChanged_fresh {value : WrappedData T} (fresh : value.consumed = false)
    (handled : List (Handling Observer T)) (wrapped : WrappedObserver Observer)
    (rest : List (WrappedObserver Observer)) :
    (wrapped :: rest).foldl WrappedObserver.onChanged (value, handled) =
      ({ value with consumed := true },
        handled ++ [⟨wrapped.observer, value.event, value.data⟩]) := by
  have first : WrappedObserver.onChanged (value, handled) wrapped =
      ({ value with consumed := true },
        handled ++ [⟨wrapped.observer, value.event, value.data⟩]) :=
    if_pos (by rw [fresh]; rfl)
  rw [List.foldl_cons, first]
  exact foldl_onChanged_consumed rfl _ rest

/-- What holds in every run: how far observers have come, where events are, and that an event
keeps its data. -/
structure State.Tidy (state : State Observer T) : Prop where
  timely : state.liveData.Timely
  unseen : state.waiting ≠ none → state.liveData.Unseen
  set : state.liveData.value ≠ none → 0 < state.liveData.version
  sound : state.delivery.Sound
  current : ∀ value ∈ state.liveData.value, state.fired[value.event]? = some value.data
  pending : ∀ value ∈ state.liveData.pending,
    value.consumed = false ∧ state.fired[value.event]? = some value.data
  genuine : ∀ handling ∈ state.handled, state.fired[handling.event]? = some handling.data

/-- The state with this data in the place of its own. -/
def State.holding (state : State Observer T)
    (data : LiveData (WrappedObserver Observer) (WrappedData T)) : State Observer T :=
  { state with liveData := data }

/-- What holds of the data before the observers it notified are called: they alone can have taken
note of an event that waits. -/
structure State.Due (state : State Observer T) (called : List (WrappedObserver Observer)) :
    Prop where
  timely : state.liveData.Timely
  unseen : state.waiting ≠ none → called = [] → state.liveData.Unseen
  set : state.liveData.value ≠ none → 0 < state.liveData.version
  sound : state.delivery.Sound
  current : ∀ value ∈ state.liveData.value, state.fired[value.event]? = some value.data
  pending : ∀ value ∈ state.liveData.pending,
    value.consumed = false ∧ state.fired[value.event]? = some value.data
  genuine : ∀ handling ∈ state.handled, state.fired[handling.event]? = some handling.data

omit [DecidableEq Observer] in
theorem waiting_eq_some_iff {value : WrappedData T} :
    state.waiting = some value ↔ state.liveData.value = some value ∧ value.consumed = false := by
  unfold State.waiting
  rw [Option.filter_eq_some_iff, Bool.not_eq_true']

section Deliver

variable {data : LiveData (WrappedObserver Observer) (WrappedData T)}
  {called : List (WrappedObserver Observer)}

omit [DecidableEq Observer] in
/-- Where nobody is called, or no event waits, nothing is handled. -/
theorem deliver_eq_holding
    (unneeded : called = [] ∨ (state.holding data).waiting = none) :
    state.deliver (called, data) = state.holding data := by
  unfold State.deliver
  dsimp only
  split
  · rfl
  · next value held =>
    have unchanged : called.foldl WrappedObserver.onChanged (value, state.handled) =
        (value, state.handled) := by
      rcases unneeded with rfl | none
      · rfl
      · refine foldl_onChanged_consumed (Bool.of_not_eq_false fun fresh => ?_) _ _
        have waits : (state.holding data).waiting = some value :=
          waiting_eq_some_iff.mpr ⟨held, fresh⟩
        rw [none] at waits
        cases waits
    rw [unchanged]
    show state.holding { data with value := some value } = _
    rw [← held]

omit [DecidableEq Observer] in
/-- The first observer that is called handles the event that waits. -/
theorem deliver_of_waiting {value : WrappedData T}
    (waits : (state.holding data).waiting = some value) (wrapped : WrappedObserver Observer)
    (rest : List (WrappedObserver Observer)) :
    state.deliver (wrapped :: rest, data) =
      { state with
        liveData := { data with value := some { value with consumed := true } }
        handled := state.handled ++ [⟨wrapped.observer, value.event, value.data⟩] } := by
  obtain ⟨held, fresh⟩ := waiting_eq_some_iff.mp waits
  unfold State.deliver
  rw [show data.value = some value from held]
  dsimp only
  rw [foldl_onChanged_fresh fresh]

omit [DecidableEq Observer] in
theorem delivery_deliver :
    (state.deliver (called, data)).delivery =
      (state.holding data).delivery.settle (!called.isEmpty) := by
  rcases waits : (state.holding data).waiting with _ | value
  · rw [deliver_eq_holding (.inr waits)]
    exact (Delivery.settle_of_free (congrArg (Option.map _) waits) _).symm
  · cases called with
    | nil =>
      rw [deliver_eq_holding (.inl rfl)]
      rfl
    | cons wrapped rest =>
      rw [deliver_of_waiting waits]
      unfold Delivery.settle State.delivery
      rw [waits]
      simp [State.waiting, State.holding]

omit [DecidableEq Observer] in
/-- Calling the notified observers settles the delivery if there are any. -/
theorem deliver_spec {notified : List (WrappedObserver Observer) ×
      LiveData (WrappedObserver Observer) (WrappedData T)}
    (due : (state.holding notified.2).Due notified.1) :
    (state.deliver notified).Tidy ∧
      (state.deliver notified).delivery =
        (state.holding notified.2).delivery.settle (!notified.1.isEmpty) := by
  obtain ⟨called, data⟩ := notified
  have settled := @delivery_deliver _ _ state data called
  refine ⟨?_, settled⟩
  by_cases unneeded : called = [] ∨ (state.holding data).waiting = none
  · rw [deliver_eq_holding unneeded]
    exact
      { due with
        unseen := fun waits => due.unseen waits (unneeded.resolve_right waits) }
  · obtain ⟨someone, something⟩ := not_or.mp unneeded
    obtain ⟨wrapped, rest, rfl⟩ := List.exists_cons_of_ne_nil someone
    obtain ⟨value, waits⟩ := Option.ne_none_iff_exists'.mp something
    have held := (waiting_eq_some_iff.mp waits).1
    have recorded := due.current value held
    have sound := settled ▸ (Delivery.sound_settle _).mpr due.sound
    rw [deliver_of_waiting waits] at sound ⊢
    exact
      { timely := due.timely
        unseen := fun waiting => by simp [State.waiting] at waiting
        set := fun _ => due.set (by rw [held]; exact Option.some_ne_none value)
        sound
        current := fun other member => by
          cases member
          exact recorded
        pending := due.pending
        genuine := fun handling member => by
          rcases List.mem_append.mp member with old | new
          · exact due.genuine handling old
          · rw [List.mem_singleton.mp new]
            exact recorded }

end Deliver

/-! ### Runs of a live event -/

/-- What an event does to the delivery. -/
def Event.Delivers (listening : Bool) (before after : Delivery) : Event Observer T → Prop
  | .fire _ => after = before.send listening
  | .fireAsync _ => after = before.post
  | .runPosted => after = before.runPosted listening
  | _ => after = before.settle listening

omit [DecidableEq Observer] in
/-- An event that was fired keeps its data when another is fired. -/
theorem fired_append {event : Nat} {data : T} (fired : state.fired[event]? = some data)
    (newer : T) : (state.fired ++ [newer])[event]? = some data := by
  obtain ⟨bound, -⟩ := List.getElem?_eq_some_iff.mp fired
  rwa [List.getElem?_append_left bound]

omit [DecidableEq Observer] in
theorem tidy_fire (tidy : state.Tidy) (data : T) :
    (state.fire data).Tidy ∧
      ∃ listening, (state.fire data).delivery = state.delivery.send listening := by
  let newer : State Observer T := { state with fired := state.fired ++ [data] }
  have set : (newer.holding (state.liveData.setValue (state.wrap data)).2).delivery =
      { state.delivery with
        sent := state.delivery.sent + 1, waiting := some state.delivery.sent } := by
    unfold State.delivery
    rw [show (newer.holding _).fired = state.fired ++ [data] from rfl, List.length_append]
    rfl
  have due : (newer.holding (state.liveData.setValue (state.wrap data)).2).Due
      (state.liveData.setValue (state.wrap data)).1 :=
    { timely := tidy.timely.setValue _
      unseen := fun _ nobody => LiveData.unseen_setValue tidy.timely _
        ((LiveData.setValue_notifies tidy.timely _).mp nobody)
      set := fun _ => Nat.succ_pos _
      sound := set ▸ Delivery.sound_send false tidy.sound
      current := fun value member => by
        cases member
        exact List.getElem?_concat_length
      pending := fun value member =>
        (tidy.pending value member).imp_right fun fired => fired_append fired data
      genuine := fun handling member => fired_append (tidy.genuine handling member) data }
  obtain ⟨tidied, delivered⟩ := deliver_spec due
  exact ⟨tidied, _, delivered.trans (congrArg (Delivery.settle _) set)⟩

omit [DecidableEq Observer] in
theorem tidy_fireAsync (tidy : state.Tidy) (data : T) :
    (state.fireAsync data).Tidy ∧ (state.fireAsync data).delivery = state.delivery.post := by
  have posted : (state.fireAsync data).delivery = state.delivery.post := by
    unfold State.delivery State.fireAsync
    rw [List.length_append]
    rfl
  refine ⟨⟨tidy.timely, tidy.unseen, tidy.set, posted ▸ Delivery.sound_post tidy.sound, ?_, ?_, ?_⟩,
    posted⟩
  · exact fun value member => fired_append (tidy.current value member) data
  · intro value member
    cases member
    refine ⟨rfl, ?_⟩
    simp [State.fireAsync, State.wrap]
  · exact fun handling member => fired_append (tidy.genuine handling member) data

omit [DecidableEq Observer] in
theorem tidy_runPosted (tidy : state.Tidy) (pending : state.liveData.pending.isSome) :
    (state.deliver state.liveData.runPosted).Tidy ∧
      ∃ listening, (state.deliver state.liveData.runPosted).delivery =
        state.delivery.runPosted listening := by
  obtain ⟨value, posted⟩ := Option.isSome_iff_exists.mp pending
  obtain ⟨fresh, recorded⟩ := tidy.pending value posted
  let rest : LiveData (WrappedObserver Observer) (WrappedData T) :=
    { state.liveData with pending := none }
  have timely : rest.Timely := tidy.timely
  have taken : state.liveData.runPosted = rest.setValue value := by
    unfold LiveData.runPosted
    rw [posted]
  have runs (listening : Bool) : state.delivery.runPosted listening =
      Delivery.settle listening
        { state.delivery with posted := none, waiting := some value.event } := by
    unfold Delivery.runPosted State.delivery
    rw [posted]
    rfl
  have set : (state.holding (rest.setValue value).2).delivery =
      { state.delivery with posted := none, waiting := some value.event } := by
    have waits : (state.holding (rest.setValue value).2).waiting = some value :=
      waiting_eq_some_iff.mpr ⟨rfl, fresh⟩
    unfold State.delivery
    rw [waits]
    rfl
  have sound := Delivery.sound_runPosted false tidy.sound
  rw [runs false] at sound
  have due : (state.holding (rest.setValue value).2).Due (rest.setValue value).1 :=
    { timely := timely.setValue value
      unseen := fun _ nobody => LiveData.unseen_setValue timely value
        ((LiveData.setValue_notifies timely value).mp nobody)
      set := fun _ => Nat.succ_pos _
      sound := by
        rw [set]
        exact sound
      current := fun other member => by
        cases member
        exact recorded
      pending := fun other member => by cases member
      genuine := tidy.genuine }
  obtain ⟨tidied, delivered⟩ := deliver_spec due
  rw [set, ← runs] at delivered
  rw [taken]
  exact ⟨tidied, _, delivered⟩

/-- An observer that becomes active or inactive. -/
theorem tidy_activeStateChanged (tidy : state.Tidy) (wrapped : WrappedObserver Observer)
    (active : Bool) :
    (state.deliver (state.liveData.activeStateChanged wrapped active)).Tidy ∧
      ∃ listening, (state.deliver (state.liveData.activeStateChanged wrapped active)).delivery =
        state.delivery.settle listening := by
  obtain ⟨value, version, pending⟩ := @LiveData.activeStateChanged_value _ _ _
    state.liveData wrapped active
  have waiting : (state.holding (state.liveData.activeStateChanged wrapped active).2).waiting =
      state.waiting := congrArg (Option.filter _) value
  have same : (state.holding (state.liveData.activeStateChanged wrapped active).2).delivery =
      state.delivery := by
    unfold State.delivery
    rw [waiting, show (state.holding _).liveData.pending = _ from pending]
    rfl
  have due : (state.holding (state.liveData.activeStateChanged wrapped active).2).Due
      (state.liveData.activeStateChanged wrapped active).1 :=
    { timely := tidy.timely.activeStateChanged wrapped active
      unseen := fun waits nobody => by
        have unseen := tidy.unseen (waiting ▸ waits)
        refine unseen.activeStateChanged ?_
        cases active with
        | false => exact .inl rfl
        | true => exact .inr ((LiveData.activeStateChanged_notifies unseen wrapped).mp nobody)
      set := by
        show (LiveData.activeStateChanged _ _ _).2.value ≠ none → _ < (LiveData.version _)
        rw [value, show (state.holding _).liveData.version = _ from version]
        exact tidy.set
      sound := same ▸ tidy.sound
      current := fun current member => tidy.current current (value ▸ member)
      pending := fun posted member => tidy.pending posted (pending ▸ member)
      genuine := tidy.genuine }
  obtain ⟨tidied, delivered⟩ := deliver_spec due
  exact ⟨tidied, _, delivered.trans (congrArg (Delivery.settle _) same)⟩

omit [DecidableEq Observer] in
/-- Observers that come and go without being notified change nothing else. -/
theorem tidy_observers (tidy : state.Tidy) {after : State Observer T}
    (fired : after.fired = state.fired) (handled : after.handled = state.handled)
    (values : after.liveData.value = state.liveData.value ∧
      after.liveData.version = state.liveData.version ∧
      after.liveData.pending = state.liveData.pending)
    (timely : after.liveData.Timely)
    (unseen : state.liveData.Unseen → 0 < state.liveData.version → after.liveData.Unseen) :
    after.Tidy ∧ after.delivery = state.delivery := by
  obtain ⟨value, version, pending⟩ := values
  have waiting : after.waiting = state.waiting := by
    unfold State.waiting
    rw [value]
  have same : after.delivery = state.delivery := by
    unfold State.delivery
    rw [waiting, pending, fired, handled]
  refine ⟨⟨timely, fun waits => ?_, ?_, ?_, ?_, ?_, ?_⟩, same⟩
  · rw [waiting] at waits
    refine unseen (tidy.unseen waits) (tidy.set fun none => waits ?_)
    unfold State.waiting
    rw [none]
    rfl
  · rw [value, version]
    exact tidy.set
  · rw [same]
    exact tidy.sound
  · rw [value, fired]
    exact tidy.current
  · rw [pending, fired]
    exact tidy.pending
  · rw [handled, fired]
    exact tidy.genuine

/-- An observer is added before it is active. -/
theorem tidy_observe (tidy : state.Tidy) (observer : Observer) :
    (state.observe observer .inactive).Tidy ∧
      (state.observe observer .inactive).delivery = state.delivery :=
  tidy_observers tidy rfl rfl (LiveData.observe_value _) (tidy.timely.observe _)
    fun unseen set => unseen.observe set _

/-- One step of a live event is one step of the delivery. -/
theorem tidy_step {event : Event Observer T} (tidy : state.Tidy)
    (enabled : (machine Observer T).enabled state event) :
    (state.step event).Tidy ∧
      ∃ listening, event.Delivers listening state.delivery (state.step event).delivery := by
  cases event with
  | fire data => exact tidy_fire tidy data
  | fireAsync data => exact ⟨(tidy_fireAsync tidy data).1, false, (tidy_fireAsync tidy data).2⟩
  | runPosted => exact tidy_runPosted tidy enabled
  | observe observer owner =>
    cases owner with
    | destroyed =>
      have quiet := @tidy_observers _ _ state tidy (state.observe observer .destroyed) rfl rfl
        ⟨rfl, rfl, rfl⟩ tidy.timely fun unseen _ => unseen
      exact ⟨quiet.1, false, quiet.2⟩
    | inactive =>
      have quiet := tidy_observe tidy observer
      exact ⟨quiet.1, false, quiet.2⟩
    | active =>
      have quiet := tidy_observe tidy observer
      have notified := tidy_activeStateChanged quiet.1 ⟨state.nextIdentity, observer⟩ true
      rw [quiet.2] at notified
      exact notified
  | removeObserver observer =>
    show (state.removeObserver observer).Tidy ∧
      ∃ listening, (state.removeObserver observer).delivery = state.delivery.settle listening
    unfold State.removeObserver
    split
    · exact ⟨tidy, false, rfl⟩
    · next wrapped _ =>
      have quiet := @tidy_observers _ _ state tidy
        { state with
          wrappedObservers := state.wrappedObservers.filter (·.1 ≠ observer)
          liveData := state.liveData.removeObserver wrapped } rfl rfl ⟨rfl, rfl, rfl⟩
        (tidy.timely.removeObserver _) fun unseen _ => unseen.removeObserver _
      exact ⟨quiet.1, false, quiet.2⟩
  | activate wrapped => exact tidy_activeStateChanged tidy wrapped true
  | deactivate wrapped => exact tidy_activeStateChanged tidy wrapped false
  | destroy wrapped =>
    have quiet := @tidy_observers _ _ state tidy (state.step (.destroy wrapped)) rfl rfl
      ⟨rfl, rfl, rfl⟩ (tidy.timely.removeObserver _) fun unseen _ => unseen.removeObserver _
    exact ⟨quiet.1, false, quiet.2⟩

theorem tidy_start : (machine Observer T).start.Tidy where
  timely := fun _ member => by cases member
  unseen := fun waits => absurd rfl waits
  set := fun held => absurd rfl held
  sound := ⟨List.nodup_nil, fun _ member => by cases member⟩
  current := fun _ member => by cases member
  pending := fun _ member => by cases member
  genuine := fun _ member => by cases member

/-- No event is fired over one that waits for an observer, or posted over a pending one. -/
def KeepsEvents (state : State Observer T) : Event Observer T → Prop
  | .fire _ | .runPosted => state.waiting = none
  | .fireAsync _ => state.liveData.pending = none
  | _ => True

/-- A step loses an event just when it is not of the kind above. -/
theorem complete_step {event : Event Observer T} (tidy : state.Tidy)
    (enabled : (machine Observer T).enabled state event) :
    (state.step event).delivery.Complete ↔ state.delivery.Complete ∧ KeepsEvents state event := by
  obtain ⟨-, listening, delivers⟩ := tidy_step tidy enabled
  have sound := tidy.sound
  have waits : state.delivery.waiting = none ↔ state.waiting = none := Option.map_eq_none_iff
  cases event with
  | fire data =>
    rw [show (state.step (.fire data)).delivery = _ from delivers]
    exact (Delivery.complete_send listening sound).trans (and_congr_right fun _ => waits)
  | fireAsync data =>
    rw [show (state.step (.fireAsync data)).delivery = _ from delivers]
    exact (Delivery.complete_post sound).trans (and_congr_right fun _ => Option.map_eq_none_iff)
  | runPosted =>
    rw [show (state.step .runPosted).delivery = _ from delivers]
    refine (Delivery.complete_runPosted listening sound fun none => ?_).trans
      (and_congr_right fun _ => waits)
    have pending : state.liveData.pending.isSome := enabled
    rw [Option.map_eq_none_iff.mp none] at pending
    cases pending
  | observe _ _ | removeObserver _ | activate _ | deactivate _ | destroy _ =>
    rw [show (state.step _).delivery = state.delivery.settle listening from delivers]
    exact (Delivery.complete_settle listening).trans (and_iff_left trivial).symm

/-- Every event was handled by one observer once, or is pending, or waits while no observer is
active. Events are handled with the data they were fired with. -/
structure State.Delivered (state : State Observer T) : Prop where
  once : (state.handled.map (·.event)).Nodup
  genuine : ∀ handling ∈ state.handled, state.fired[handling.event]? = some handling.data
  delivered : ∀ event < state.fired.length, event ∈ state.handled.map (·.event) ∨
    (∃ value ∈ state.liveData.pending, value.event = event) ∨
    ∃ value ∈ state.waiting, value.event = event ∧ state.liveData.listening = false

omit [DecidableEq Observer] in
theorem State.Tidy.once (tidy : state.Tidy) : (state.handled.map (·.event)).Nodup := by
  have distinct := tidy.sound.distinct
  unfold Delivery.places at distinct
  exact distinct.of_append_left.of_append_left

omit [DecidableEq Observer] in
theorem delivered_iff_complete (tidy : state.Tidy) :
    state.Delivered ↔ state.delivery.Complete := by
  have silent : state.waiting ≠ none → state.liveData.listening = false := by
    intro waits
    refine List.any_eq_false.mpr fun observation inside => ?_
    rw [(tidy.unseen waits observation inside).1]
    decide
  constructor
  · rintro ⟨-, -, delivered⟩ event fired
    refine Delivery.mem_places.mpr ?_
    rcases delivered event fired with handled | ⟨value, pending, rfl⟩ | ⟨value, waits, rfl, -⟩
    · exact .inl handled
    · exact .inr (.inr (congrArg (Option.map _) pending))
    · exact .inr (.inl (congrArg (Option.map _) waits))
  · intro complete
    refine ⟨tidy.once, tidy.genuine, fun event fired => ?_⟩
    rcases Delivery.mem_places.mp (complete event fired) with handled | waits | pending
    · exact .inl handled
    · obtain ⟨value, held, same⟩ := Option.map_eq_some_iff.mp waits
      exact .inr (.inr ⟨value, held, same, silent (by rw [held]; simp)⟩)
    · obtain ⟨value, held, same⟩ := Option.map_eq_some_iff.mp pending
      exact .inr (.inl ⟨value, held, same⟩)

/-- In every run no event is handled twice, and every event is delivered just when none is fired
over one that waits, or posted over a pending one. -/
theorem delivered_iff (events : List (Event Observer T))
    (run : (machine Observer T).Run events) :
    (((machine Observer T).after events).handled.map (·.event)).Nodup ∧
      (((machine Observer T).after events).Delivered ↔
        ((machine Observer T).restrict KeepsEvents).Run events) := by
  have tidy : ((machine Observer T).after events).Tidy :=
    run.invariant State.Tidy tidy_start fun _ _ held enabled => (tidy_step held enabled).1
  have complete := run.good_iff State.Tidy (·.delivery.Complete) tidy_start
    (fun _ sent => absurd sent (Nat.not_lt_zero _))
    (fun _ _ held enabled => (tidy_step held enabled).1)
    fun _ _ held enabled => complete_step held enabled
  exact ⟨tidy.once, (delivered_iff_complete tidy).trans complete⟩

omit [DecidableEq Observer] in
instance (state : State Observer T) : Decidable (state.waiting = none) :=
  decidable_of_iff (state.waiting.isNone = true) Option.isNone_iff_eq_none

omit [DecidableEq Observer] in
instance (state : State Observer T) : Decidable (state.liveData.pending = none) :=
  decidable_of_iff (state.liveData.pending.isNone = true) Option.isNone_iff_eq_none

omit [DecidableEq Observer] in
instance (state : State Observer T) : ∀ event, Decidable (KeepsEvents state event)
  | .fire _ | .runPosted => inferInstanceAs (Decidable (state.waiting = none))
  | .fireAsync _ => inferInstanceAs (Decidable (state.liveData.pending = none))
  | .observe _ _ | .removeObserver _ | .activate _ | .deactivate _ | .destroy _ => .isTrue trivial

instance (state : State Observer T) :
    ∀ event, Decidable ((machine Observer T).enabled state event)
  | .runPosted => inferInstanceAs (Decidable (_ = true))
  | .fire _ | .fireAsync _ | .observe _ _ | .removeObserver _ | .activate _ | .deactivate _
  | .destroy _ => .isTrue trivial

/-- Two observers, an event before them, and two while both are active. -/
def observed : List (Event Nat String) :=
  [.fire "login", .observe 0 .active, .observe 1 .active, .fireAsync "connected", .runPosted,
    .removeObserver 0, .fire "disconnected"]

theorem delivered_observed : ((machine Nat String).after observed).Delivered :=
  (delivered_iff observed (by decide)).2.mpr (by decide)

/-- Of two events that are fired before there is an observer, the first is lost. -/
theorem event_lost_unobserved :
    (machine Nat String).Run [.fire "login", .fire "connected", .observe 0 .active] ∧
      ¬((machine Nat String).after
        [.fire "login", .fire "connected", .observe 0 .active]).Delivered := by
  refine ⟨by decide, fun delivered => ?_⟩
  rcases delivered.delivered 0 (by decide) with handled | ⟨value, pending, -⟩ | ⟨value, waits, -⟩
  · exact absurd handled (by decide)
  · cases pending
  · cases waits

end TermPlux.LiveEvent
