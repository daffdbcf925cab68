/-
This file models the touch listener of a repeatable virtual key. A press posts a
delayed callback on the view, and a callback that still finds the repeat flag set
clicks and posts itself again. The flag is shared by all presses and a release
does not remove the callback that waits, so a press that finds such a callback
revives it: from then on two callbacks click, one of them for a press that has
ended. As long as each press finds no callback waiting, there is one chain of
callbacks at most and it ends with its press.
-/

import TermPlux.Machine
import TermPlux.MessageQueue
import TermPlux.TouchHandler

namespace TermPlux.VirtualKeys

/-- `android.view.ViewConfiguration`, in milliseconds. -/
structure ViewConfiguration where
  keyRepeatTimeout : Nat
  keyRepeatDelay : Nat

/-- A click made by a callback: the number of the press that the callback goes back to, and of
the last press that had ended by then. -/
structure Click where
  press : Nat
  ended : Nat
  deriving DecidableEq

/-- The flag of the listener and the callbacks posted on its view. A callback carries the number
of the press it goes back to; these numbers and the clicks are the record of the run, and no
function of the listener reads them. -/
structure RepeatableKey where
  doRepeat : Bool
  callbacks : MessageQueue Nat
  presses : Nat
  ended : Nat
  clicks : List Click

namespace RepeatableKey

def initial : RepeatableKey where
  doRepeat := false
  callbacks := .empty 0
  presses := 0
  ended := 0
  clicks := []

/-! ### The listener -/

variable (configuration : ViewConfiguration)

/-- `repeat`, run by a callback that goes back to a press. -/
def repeatClick (key : RepeatableKey) (press : Nat) : RepeatableKey :=
  if key.doRepeat then
    { key with
      clicks := key.clicks ++ [⟨press, key.ended⟩]
      callbacks := key.callbacks.postDelayed press configuration.keyRepeatDelay }
  else key

def onTouch (key : RepeatableKey) : MotionAction → RepeatableKey
  | .down =>
    { key with
      doRepeat := true
      presses := key.presses + 1
      callbacks := key.callbacks.postDelayed (key.presses + 1) configuration.keyRepeatTimeout }
  | .pointerDown => { key with doRepeat := false }
  | .up | .cancel => { key with doRepeat := false, ended := key.presses }
  | _ => key

/-- The looper takes the callback that may run now off the queue, and runs it. -/
def runCallback (key : RepeatableKey) : RepeatableKey :=
  match key.callbacks.next with
  | some press => repeatClick configuration { key with callbacks := key.callbacks.rest } press
  | none => key

end RepeatableKey

/-- What happens on the thread of the view. -/
inductive Event
  | onTouch (action : MotionAction)
  | runCallback
  | elapse (time : Nat)
  deriving DecidableEq

def step (configuration : ViewConfiguration) (key : RepeatableKey) : Event → RepeatableKey
  | .onTouch action => key.onTouch configuration action
  | .runCallback => key.runCallback configuration
  | .elapse time => { key with callbacks := key.callbacks.elapse time }

/-- A callback runs once it is due, in the order of the queue; touches come at any time. -/
def machine (configuration : ViewConfiguration) : Machine RepeatableKey Event where
  start := .initial
  enabled key event := match event with
    | .runCallback => key.callbacks.next.isSome
    | _ => True
  step := step configuration

instance (configuration : ViewConfiguration) (key : RepeatableKey) (event : Event) :
    Decidable ((machine configuration).enabled key event) :=
  match event with
  | .runCallback => inferInstanceAs (Decidable (_ = true))
  | .onTouch _ | .elapse _ => instDecidableTrue

/-! ### Chains and clicks -/

namespace RepeatableKey

variable {configuration : ViewConfiguration} {key : RepeatableKey}

/-- The callbacks that click and post themselves again when they run. -/
def chains (key : RepeatableKey) : List (Delayed Nat) :=
  if key.doRepeat then key.callbacks.messages else []

/-- There is one chain at most, and no click came from a press that had ended. -/
def EndsWithPress (key : RepeatableKey) : Prop :=
  key.chains.length ≤ 1 ∧ ∀ click ∈ key.clicks, click.ended < click.press

instance : DecidablePred EndsWithPress :=
  fun _ => inferInstanceAs (Decidable (_ ∧ _))

/-- A press finds no callback waiting. -/
def Fresh (key : RepeatableKey) (event : Event) : Prop :=
  event = .onTouch .down → key.callbacks.messages = []

instance (key : RepeatableKey) (event : Event) : Decidable (key.Fresh event) :=
  inferInstanceAs (Decidable (_ → _))

/-- At most one callback waits, and while the flag is set it goes back to a press that has not
ended. -/
structure OneChain (key : RepeatableKey) : Prop where
  single : key.callbacks.messages.length ≤ 1
  current : key.doRepeat = true → ∀ delayed ∈ key.callbacks.messages, key.ended < delayed.message
  counted : key.ended ≤ key.presses

theorem OneChain.initial : OneChain .initial where
  single := Nat.zero_le 1
  current := fun unset => nomatch unset
  counted := Nat.le_refl 0

theorem OneChain.chains_length_le (one : key.OneChain) : key.chains.length ≤ 1 := by
  unfold chains
  split
  · exact one.single
  · exact Nat.zero_le 1

theorem OneChain.onTouch_down (one : key.OneChain) (fresh : key.callbacks.messages = []) :
    (key.onTouch configuration .down).OneChain where
  single := by
    refine (MessageQueue.length_postDelayed _ _ _).le.trans ?_
    rw [fresh, List.length_nil]
  current := by
    rintro - delayed member
    rcases MessageQueue.mem_postDelayed.mp member with rfl | member
    · exact Nat.lt_succ_of_le one.counted
    · rw [fresh] at member
      exact absurd member List.not_mem_nil
  counted := one.counted.trans (Nat.le_succ _)

theorem OneChain.onTouch_of_ne_down (one : key.OneChain) {action : MotionAction}
    (other : action ≠ .down) : (key.onTouch configuration action).OneChain := by
  cases action with
  | down => exact absurd rfl other
  | up | cancel => exact ⟨one.single, fun unset => (nomatch unset), Nat.le_refl _⟩
  | pointerDown => exact ⟨one.single, fun unset => (nomatch unset), one.counted⟩
  | move | pointerUp | hoverMove | scroll | buttonPress | buttonRelease | other => exact one

/-- What a callback does where one chain is at work: it was the only one that waited, and it
clicks for a press that has not ended. -/
theorem OneChain.runCallback_eq (one : key.OneChain) {press : Nat}
    (ready : key.callbacks.next = some press) :
    key.callbacks.rest.messages = [] ∧ (key.doRepeat = true → key.ended < press) := by
  obtain ⟨due, waiting⟩ := MessageQueue.exists_of_next ready
  have single := one.single
  rw [waiting, List.length_cons] at single
  refine ⟨List.eq_nil_of_length_eq_zero (by omega), fun repeats => ?_⟩
  exact one.current repeats ⟨due, press⟩ (by rw [waiting]; exact List.mem_cons_self)

theorem OneChain.runCallback (one : key.OneChain) (ready : key.callbacks.next.isSome) :
    (key.runCallback configuration).OneChain := by
  obtain ⟨press, ready⟩ := Option.isSome_iff_exists.mp ready
  obtain ⟨alone, current⟩ := one.runCallback_eq ready
  unfold RepeatableKey.runCallback
  rw [ready]
  unfold repeatClick
  dsimp only
  split
  next repeats =>
    refine ⟨?_, fun _ delayed member => ?_, one.counted⟩
    · refine (MessageQueue.length_postDelayed _ _ _).le.trans ?_
      rw [alone, List.length_nil]
    · rcases MessageQueue.mem_postDelayed.mp member with rfl | member
      · exact current repeats
      · rw [alone] at member
        exact absurd member List.not_mem_nil
  next stopped =>
    refine ⟨?_, fun repeats => absurd repeats stopped, one.counted⟩
    rw [alone]
    exact Nat.zero_le 1

/-- The clicks of a callback where one chain is at work. -/
theorem OneChain.clicks_runCallback (one : key.OneChain) {click : Click}
    (made : click ∈ (key.runCallback configuration).clicks) :
    click ∈ key.clicks ∨ click.ended < click.press := by
  unfold RepeatableKey.runCallback at made
  split at made
  next press ready =>
    unfold repeatClick at made
    dsimp only at made
    split at made
    next repeats =>
      refine (List.mem_append.mp made).imp_right fun last => ?_
      rw [List.mem_singleton.mp last]
      exact (one.runCallback_eq ready).2 repeats
    next => exact .inl made
  next => exact .inl made

theorem clicks_onTouch (key : RepeatableKey) (action : MotionAction) :
    (key.onTouch configuration action).clicks = key.clicks := by
  cases action <;> rfl

end RepeatableKey

/-! ### The runs of a repeatable key -/

section Runs

variable {configuration : ViewConfiguration} {key : RepeatableKey}

theorem oneChain_step (one : key.OneChain) {event : Event}
    (enabled : (machine configuration).enabled key event) (fresh : key.Fresh event) :
    ((machine configuration).step key event).OneChain := by
  cases event with
  | onTouch action =>
    by_cases press : action = .down
    · subst press
      exact one.onTouch_down (fresh rfl)
    · exact one.onTouch_of_ne_down press
  | runCallback => exact one.runCallback enabled
  | elapse time => exact ⟨one.single, one.current, one.counted⟩

theorem clicks_step (one : key.OneChain) {event : Event} {click : Click}
    (made : click ∈ ((machine configuration).step key event).clicks) :
    click ∈ key.clicks ∨ click.ended < click.press := by
  cases event with
  | onTouch action =>
    exact .inl (RepeatableKey.clicks_onTouch key action ▸ made)
  | runCallback => exact one.clicks_runCallback made
  | elapse time => exact .inl made

/-- A press that finds a callback waiting leaves two chains. -/
theorem fresh_of_endsWithPress {event : Event}
    (ends : ((machine configuration).step key event).EndsWithPress) : key.Fresh event := by
  rintro rfl
  have single : (key.onTouch configuration .down).callbacks.messages.length ≤ 1 := ends.1
  refine List.eq_nil_of_length_eq_zero (Nat.le_zero.mp (Nat.le_of_succ_le_succ ?_))
  exact (MessageQueue.length_postDelayed _ _ _).ge.trans single

/-- No repeat outlives its press, all along a run, just when each press finds no callback
waiting. -/
theorem repeat_ends_iff (configuration : ViewConfiguration) (events : List Event)
    (run : (machine configuration).Run events) :
    (machine configuration).Always RepeatableKey.EndsWithPress events ↔
      ((machine configuration).restrict RepeatableKey.Fresh).Run events := by
  refine Machine.Run.always_iff RepeatableKey.OneChain RepeatableKey.EndsWithPress .initial
    ⟨RepeatableKey.OneChain.initial.chains_length_le, fun _ none => absurd none List.not_mem_nil⟩
    (fun _ _ one enabled fresh => oneChain_step one enabled fresh)
    (fun key event one ends enabled => ⟨fresh_of_endsWithPress, fun fresh => ?_⟩) run
  refine ⟨(oneChain_step one enabled fresh).chains_length_le, fun click made => ?_⟩
  rcases clicks_step one made with earlier | current
  · exact ends.2 click earlier
  · exact current

/-- A press held until its callback has clicked once, and a second press after the callback that
waited at the release has run. -/
theorem repeat_ends_second_press :
    (machine ⟨400, 50⟩).Always RepeatableKey.EndsWithPress
      [.onTouch .down, .elapse 400, .runCallback, .onTouch .up, .elapse 50, .runCallback,
        .onTouch .down] :=
  (repeat_ends_iff ⟨400, 50⟩ _ (by decide)).mpr (by decide)

/-- Two quick presses. The callback of the first one, which has ended, clicks during the second
one and posts itself again, beside the callback of the second press. -/
theorem repeat_outlives_press :
    let events : List Event :=
      [.onTouch .down, .elapse 100, .onTouch .up, .elapse 100, .onTouch .down, .elapse 200,
        .runCallback]
    (machine ⟨400, 50⟩).Run events ∧
      ((machine ⟨400, 50⟩).after events).chains.length = 2 ∧
      ((machine ⟨400, 50⟩).after events).clicks = [⟨1, 1⟩] ∧
      ¬(machine ⟨400, 50⟩).Always RepeatableKey.EndsWithPress events := by
  decide

end Runs

end TermPlux.VirtualKeys
