/-
This file follows the scroll distance through a mode of the dispatcher. Every call
adds its deltas to the accumulators and drains them by clicks of the wheel
buttons, so the clicks and what is left account for all deltas. The calls are
replayed together with the buttons that they click.
-/

import TermPlux.Dispatcher
import TermPlux.Machine
import Mathlib.Algebra.BigOperators.Group.List.Basic
import Mathlib.Tactic.LinearCombination

namespace TermPlux.Dispatcher

/-! ### Recording clicks -/

/-- A dispatcher, and the buttons of the clicks it was asked for. -/
structure Recorded where
  dispatcher : Dispatcher
  clicks : List PointerButton

namespace Recorded

def doClick (recorded : Recorded) (mode : Mode) (button : PointerButton) (p : PointF) :
    Recorded where
  dispatcher := recorded.dispatcher.doClick mode button p
  clicks := recorded.clicks ++ [button]

def drainClicks (recorded : Recorded) (mode : Mode) (above below : PointerButton)
    (focus : PointF) (accumulated : ℚ) : ℚ × Recorded :=
  drain deltaPerScroll_pos (·.doClick mode above focus) (·.doClick mode below focus) accumulated
    recorded

def doRemoteScroll (recorded : Recorded) (mode : Mode) (focus : PointF) (dx dy : ℚ) : Recorded :=
  let horizontal := recorded.drainClicks mode .wheelLeft .wheelRight focus
    ((recorded.dispatcher.accumulated mode).accumulatedDx + dx)
  let vertical := horizontal.2.drainClicks mode .wheelUp .wheelDown focus
    ((recorded.dispatcher.accumulated mode).accumulatedDy +
      dy * recorded.dispatcher.yScrollDirection)
  { vertical.2 with
    dispatcher := vertical.2.dispatcher.setAccumulated mode ⟨horizontal.1, vertical.1⟩ }

variable (recorded : Recorded) (mode : Mode) (above below : PointerButton) (focus : PointF)

theorem drainClicks_dispatcher (accumulated : ℚ) :
    ((recorded.drainClicks mode above below focus accumulated).1,
        (recorded.drainClicks mode above below focus accumulated).2.dispatcher) =
      recorded.dispatcher.drainClicks mode above below focus accumulated :=
  drain_map deltaPerScroll_pos Recorded.dispatcher (fun _ => rfl) (fun _ => rfl) accumulated
    recorded

/-- Recording the clicks does not change what a call does. -/
theorem doRemoteScroll_dispatcher (dx dy : ℚ) :
    (recorded.doRemoteScroll mode focus dx dy).dispatcher =
      recorded.dispatcher.doRemoteScroll mode focus dx dy := by
  unfold doRemoteScroll Dispatcher.doRemoteScroll
  dsimp only
  rw [← drainClicks_dispatcher recorded]
  dsimp only
  rw [← drainClicks_dispatcher]

/-! ### The clicks of a call -/

/-- The clicks that drain an accumulator. -/
def drained (above below : PointerButton) (accumulated : ℚ) : List PointerButton :=
  List.replicate (rounds deltaPerScroll accumulated) (if 0 < accumulated then above else below)

theorem iterate_doClick (button : PointerButton) (count : ℕ) :
    ((·.doClick mode button focus)^[count] recorded).clicks =
      recorded.clicks ++ List.replicate count button := by
  induction count generalizing recorded with
  | zero => exact (List.append_nil _).symm
  | succ count inductionHypothesis =>
    rw [Function.iterate_succ_apply, inductionHypothesis, List.replicate_succ]
    exact List.append_assoc ..

theorem drainClicks_clicks (accumulated : ℚ) :
    (recorded.drainClicks mode above below focus accumulated).2.clicks =
      recorded.clicks ++ drained above below accumulated := by
  unfold drainClicks drained
  rw [drain_eq]
  split <;> exact iterate_doClick ..

/-- The clicks and what is left account for the accumulator. -/
theorem drainClicks_balance (different : above ≠ below) (accumulated : ℚ) :
    deltaPerScroll * (((drained above below accumulated).count above : ℚ) -
        (drained above below accumulated).count below) +
      (recorded.drainClicks mode above below focus accumulated).1 = accumulated := by
  unfold drainClicks drained
  rw [drain_eq]
  split
  · simp [List.count_replicate, different]
    ring
  · simp [List.count_replicate, Ne.symm different]
    ring

theorem doRemoteScroll_clicks (dx dy : ℚ) :
    (recorded.doRemoteScroll mode focus dx dy).clicks = recorded.clicks ++
      (drained .wheelLeft .wheelRight
          ((recorded.dispatcher.accumulated mode).accumulatedDx + dx) ++
        drained .wheelUp .wheelDown
          ((recorded.dispatcher.accumulated mode).accumulatedDy +
            dy * recorded.dispatcher.yScrollDirection)) := by
  unfold doRemoteScroll
  rw [drainClicks_clicks, drainClicks_clicks, List.append_assoc]

end Recorded

/-- Neither axis is clicked in both directions. -/
def OneWay (clicks : List PointerButton) : Prop :=
  ¬(.wheelLeft ∈ clicks ∧ .wheelRight ∈ clicks) ∧ ¬(.wheelUp ∈ clicks ∧ .wheelDown ∈ clicks)

theorem oneWay_drained (horizontal vertical : ℚ) :
    OneWay (Recorded.drained .wheelLeft .wheelRight horizontal ++
      Recorded.drained .wheelUp .wheelDown vertical) := by
  unfold OneWay Recorded.drained
  simp only [List.mem_append, List.mem_replicate]
  split <;> split <;> simp

/-! ### Calls in a row -/

/-- What happens to a dispatcher: a call on the mode, or anything else. -/
inductive ScrollEvent
  | doRemoteScroll (focus : PointF) (dx dy : ℚ)
  | doRemoteScrollFromMouse (p : PointF) (hs vs : ℚ)
  | between (next : Dispatcher)

/-- The horizontal and vertical deltas that an event scrolls by. -/
def ScrollEvent.dx : ScrollEvent → ℚ
  | .doRemoteScroll _ dx _ => dx
  | .doRemoteScrollFromMouse _ hs _ => hs * deltaPerScroll
  | .between _ => 0

def ScrollEvent.dy : ScrollEvent → ℚ
  | .doRemoteScroll _ _ dy => dy
  | .doRemoteScrollFromMouse _ _ vs => vs * deltaPerScroll
  | .between _ => 0

/-- A dispatcher, and the clicks of each call so far. -/
structure ScrollState where
  dispatcher : Dispatcher
  calls : List (List PointerButton)

def ScrollState.call (state : ScrollState) (mode : Mode) (focus : PointF) (dx dy : ℚ) :
    ScrollState :=
  let recorded := Recorded.doRemoteScroll ⟨state.dispatcher, []⟩ mode focus dx dy
  { dispatcher := recorded.dispatcher, calls := state.calls ++ [recorded.clicks] }

/-- The calls on a mode of a dispatcher. Whatever else happens to the dispatcher leaves the
accumulators of the mode and the preferences alone. -/
def scrolling (mode : Mode) (start : Dispatcher) : Machine ScrollState ScrollEvent where
  start := { dispatcher := start, calls := [] }
  enabled state
    | .between next => next.accumulated mode = state.dispatcher.accumulated mode ∧
        next.pref = state.dispatcher.pref
    | _ => True
  step state
    | .doRemoteScroll focus dx dy => state.call mode focus dx dy
    | .doRemoteScrollFromMouse p hs vs =>
      state.call mode p (hs * deltaPerScroll) (vs * deltaPerScroll)
    | .between next => { state with dispatcher := next }

/-- What an event does to the dispatcher itself. -/
def ScrollEvent.apply (mode : Mode) (dispatcher : Dispatcher) : ScrollEvent → Dispatcher
  | .doRemoteScroll focus dx dy => dispatcher.doRemoteScroll mode focus dx dy
  | .doRemoteScrollFromMouse p hs vs => dispatcher.doRemoteScrollFromMouse mode p hs vs
  | .between next => next

/-- The calls are those of the dispatcher. -/
theorem scrolling_step_dispatcher (mode : Mode) (start : Dispatcher) (state : ScrollState)
    (event : ScrollEvent) :
    ((scrolling mode start).step state event).dispatcher = event.apply mode state.dispatcher := by
  cases event with
  | doRemoteScroll focus dx dy => exact Recorded.doRemoteScroll_dispatcher _ mode focus _ _
  | doRemoteScrollFromMouse p hs vs => exact Recorded.doRemoteScroll_dispatcher _ mode p _ _
  | between next => rfl

theorem scrolling_after_dispatcher (mode : Mode) (start : Dispatcher) (events : List ScrollEvent) :
    ((scrolling mode start).after events).dispatcher =
      events.foldl (ScrollEvent.apply mode) start := by
  have general (state : ScrollState) : ((scrolling mode start).afterFrom state events).dispatcher =
      events.foldl (ScrollEvent.apply mode) state.dispatcher := by
    induction events generalizing state with
    | nil => rfl
    | cons event rest inductionHypothesis =>
      have later := inductionHypothesis ((scrolling mode start).step state event)
      rw [scrolling_step_dispatcher] at later
      exact later
  exact general _

/-- How often a button was clicked. -/
def ScrollState.count (state : ScrollState) (button : PointerButton) : ℚ :=
  state.calls.flatten.count button

/-- The accumulators hold less than one scroll, the clicks and the accumulators account for the
deltas of the events, and no call clicks both directions of an axis. -/
structure ScrollState.Conserves (state : ScrollState) (mode : Mode) (direction : ℚ)
    (events : List ScrollEvent) : Prop where
  shortDx : |(state.dispatcher.accumulated mode).accumulatedDx| < deltaPerScroll
  shortDy : |(state.dispatcher.accumulated mode).accumulatedDy| < deltaPerScroll
  horizontal : deltaPerScroll * (state.count .wheelLeft - state.count .wheelRight) +
    (state.dispatcher.accumulated mode).accumulatedDx = (events.map ScrollEvent.dx).sum
  vertical : deltaPerScroll * (state.count .wheelUp - state.count .wheelDown) +
    (state.dispatcher.accumulated mode).accumulatedDy =
      (events.map (·.dy * direction)).sum
  oneWay : ∀ clicks ∈ state.calls, OneWay clicks

/-! ### What a call changes -/

theorem doClick_pref (dispatcher : Dispatcher) (mode : Mode) (button : PointerButton)
    (p : PointF) : (dispatcher.doClick mode button p).pref = dispatcher.pref := by
  have sent (dispatcher : Dispatcher) (send : Messenger → PointF → Messenger) :
      (dispatcher.sendAt mode p send).pref = dispatcher.pref := by
    unfold sendAt
    split <;> rfl
  have delayed (dispatcher : Dispatcher) :
      (dispatcher.delayButtonUp button).pref = dispatcher.pref := by
    unfold delayButtonUp
    split <;> rfl
  exact (sent _ _).trans ((delayed _).trans (sent _ _))

theorem doRemoteScroll_pref (dispatcher : Dispatcher) (mode : Mode) (focus : PointF)
    (dx dy : ℚ) : (dispatcher.doRemoteScroll mode focus dx dy).pref = dispatcher.pref := by
  have drainedPref (dispatcher : Dispatcher) (above below : PointerButton) (accumulated : ℚ) :
      (dispatcher.drainClicks mode above below focus accumulated).2.pref = dispatcher.pref :=
    drain_keeps (·.pref = dispatcher.pref)
      (fun state kept => (doClick_pref state mode above focus).trans kept)
      (fun state kept => (doClick_pref state mode below focus).trans kept) accumulated dispatcher
      rfl
  have set (dispatcher : Dispatcher) (accumulated : Accumulated) :
      (dispatcher.setAccumulated mode accumulated).pref = dispatcher.pref := by
    cases mode <;> rfl
  exact (set _ _).trans ((drainedPref _ _ _ _).trans (drainedPref _ _ _ _))

theorem call_pref (state : ScrollState) (mode : Mode) (focus : PointF) (dx dy : ℚ) :
    (state.call mode focus dx dy).dispatcher.pref = state.dispatcher.pref := by
  unfold ScrollState.call
  dsimp only
  rw [Recorded.doRemoteScroll_dispatcher, doRemoteScroll_pref]

theorem accumulated_setAccumulated (dispatcher : Dispatcher) (mode : Mode)
    (accumulated : Accumulated) :
    (dispatcher.setAccumulated mode accumulated).accumulated mode = accumulated := by
  cases mode <;> rfl

theorem count_call (state : ScrollState) (mode : Mode) (focus : PointF) (dx dy : ℚ)
    (button : PointerButton) :
    (state.call mode focus dx dy).count button = state.count button +
      ((Recorded.drained .wheelLeft .wheelRight
          ((state.dispatcher.accumulated mode).accumulatedDx + dx)).count button +
        (Recorded.drained .wheelUp .wheelDown
          ((state.dispatcher.accumulated mode).accumulatedDy +
            dy * state.dispatcher.yScrollDirection)).count button : ℕ) := by
  unfold ScrollState.count ScrollState.call
  rw [List.flatten_append, List.flatten_singleton, List.count_append,
    Recorded.doRemoteScroll_clicks, List.nil_append, List.count_append, Nat.cast_add]

theorem count_drained_of_ne {above below button : PointerButton} (accumulated : ℚ)
    (notAbove : button ≠ above) (notBelow : button ≠ below) :
    (Recorded.drained above below accumulated).count button = 0 := by
  unfold Recorded.drained
  rw [List.count_replicate, if_neg]
  split
  · simpa using notAbove.symm
  · simpa using notBelow.symm

/-- A call conserves the distance. -/
theorem conserves_call {state : ScrollState} {mode : Mode} {direction : ℚ}
    {past : List ScrollEvent} {event : ScrollEvent}
    (conserves : state.Conserves mode direction past)
    (directed : state.dispatcher.yScrollDirection = direction) (focus : PointF) :
    (state.call mode focus event.dx event.dy).Conserves mode direction (past ++ [event]) := by
  subst directed
  have accumulated : (state.call mode focus event.dx event.dy).dispatcher.accumulated mode = _ :=
    accumulated_setAccumulated _ mode _
  have leftRight := Recorded.drainClicks_balance ⟨state.dispatcher, []⟩ mode .wheelLeft .wheelRight
    focus (by decide) ((state.dispatcher.accumulated mode).accumulatedDx + event.dx)
  have upDown := Recorded.drainClicks_balance
    (Recorded.drainClicks ⟨state.dispatcher, []⟩ mode .wheelLeft .wheelRight focus
      ((state.dispatcher.accumulated mode).accumulatedDx + event.dx)).2 mode .wheelUp .wheelDown
    focus (by decide) ((state.dispatcher.accumulated mode).accumulatedDy +
      event.dy * state.dispatcher.yScrollDirection)
  constructor
  · rw [accumulated]
    exact abs_drain_lt deltaPerScroll_pos _ _ _ _
  · rw [accumulated]
    exact abs_drain_lt deltaPerScroll_pos _ _ _ _
  · have before := conserves.horizontal
    rw [accumulated, count_call, count_call, List.map_append, List.sum_append,
      @count_drained_of_ne .wheelUp .wheelDown .wheelLeft _ (by decide) (by decide),
      @count_drained_of_ne .wheelUp .wheelDown .wheelRight _ (by decide) (by decide)]
    simp only [Nat.add_zero, List.map_cons, List.map_nil, List.sum_singleton]
    linear_combination before + leftRight
  · have before := conserves.vertical
    rw [accumulated, count_call, count_call, List.map_append, List.sum_append,
      @count_drained_of_ne .wheelLeft .wheelRight .wheelUp _ (by decide) (by decide),
      @count_drained_of_ne .wheelLeft .wheelRight .wheelDown _ (by decide) (by decide)]
    simp only [Nat.zero_add, List.map_cons, List.map_nil, List.sum_singleton]
    linear_combination before + upDown
  · intro clicks member
    rcases List.mem_append.mp member with earlier | last
    · exact conserves.oneWay clicks earlier
    · rw [List.mem_singleton.mp last, Recorded.doRemoteScroll_clicks, List.nil_append]
      exact oneWay_drained _ _

/-- What else happens scrolls by nothing. -/
theorem conserves_between {state : ScrollState} {mode : Mode} {direction : ℚ}
    {past : List ScrollEvent} {next : Dispatcher} (conserves : state.Conserves mode direction past)
    (same : next.accumulated mode = state.dispatcher.accumulated mode) :
    ({ state with dispatcher := next } : ScrollState).Conserves mode direction
      (past ++ [.between next]) := by
  obtain ⟨shortDx, shortDy, horizontal, vertical, oneWay⟩ := conserves
  rw [← same] at shortDx shortDy horizontal vertical
  refine ⟨shortDx, shortDy, ?_, ?_, oneWay⟩
  · rw [List.map_append, List.sum_append, ← horizontal]
    simp only [List.map_cons, List.map_nil, List.sum_singleton, ScrollEvent.dx, add_zero]
    rfl
  · rw [List.map_append, List.sum_append, ← vertical]
    simp only [List.map_cons, List.map_nil, List.sum_singleton, ScrollEvent.dy, zero_mul, add_zero]
    rfl

/-- In every run of calls on a mode of a fresh dispatcher, the scroll distance is conserved, and
the dispatcher is the one that the calls leave. -/
theorem scroll_conserved (mode : Mode) (profile : Profile) (pref : InputPref)
    (frameState : FrameState) (messenger : Messenger) (events : List ScrollEvent)
    (run : (scrolling mode (create profile pref frameState messenger)).Run events) :
    let state := (scrolling mode (create profile pref frameState messenger)).after events
    state.Conserves mode (if pref.gesture.invertVerticalScrolling then -1 else 1) events ∧
      state.dispatcher =
        events.foldl (ScrollEvent.apply mode) (create profile pref frameState messenger) := by
  refine ⟨?_, scrolling_after_dispatcher mode _ events⟩
  have fresh : (create profile pref frameState messenger).accumulated mode = {} := by
    cases mode <;> rfl
  have initially : (scrolling mode (create profile pref frameState messenger)).start.Conserves mode
      (if pref.gesture.invertVerticalScrolling then -1 else 1) [] := by
    constructor <;> simp [scrolling, fresh, ScrollState.count, deltaPerScroll]
  refine (run.history (fun past (state : ScrollState) => state.Conserves mode
    (if pref.gesture.invertVerticalScrolling then -1 else 1) past ∧ state.dispatcher.pref = pref)
    ⟨initially, rfl⟩ ?_).1
  rintro past state event ⟨conserves, kept⟩ enabled
  have directed : state.dispatcher.yScrollDirection =
      if pref.gesture.invertVerticalScrolling then -1 else 1 := by
    unfold yScrollDirection
    rw [kept]
  cases event with
  | doRemoteScroll focus dx dy =>
    exact ⟨@conserves_call _ _ _ _ (.doRemoteScroll focus dx dy) conserves directed focus,
      (call_pref state mode focus dx dy).trans kept⟩
  | doRemoteScrollFromMouse p hs vs =>
    exact ⟨@conserves_call _ _ _ _ (.doRemoteScrollFromMouse p hs vs) conserves directed p,
      (call_pref state mode p _ _).trans kept⟩
  | between next => exact ⟨conserves_between conserves enabled.1, enabled.2.trans kept⟩

/-- The preferences of a user who has inverted vertical scrolling. -/
def inverted : InputPref where
  gesture :=
    { style := "touchscreen", tap2 := "open-keyboard", doubleTap := "double-click"
      longPress := "right-click", swipe1 := "pan", swipe2 := "remote-scroll"
      doubleTapSwipe := "remote-drag", longPressSwipe := "none", swipeSensitivity := 1
      invertVerticalScrolling := true }
  mousePassthrough := true
  mouseBack := "right-click"

/-- The calls on the direct mode of a new activity with a framebuffer of 100 by 100. -/
abbrev invertedScrolling : Machine ScrollState ScrollEvent :=
  scrolling .direct
    (create { gestureStyle := "auto", fButtonUpDelay := false, fZoomLocked := false } inverted
      { prefs := .defaults, fbWidth := 100, fbHeight := 100 }
      { client := { pointerX := 0, pointerY := 0, ignorePointerMovesByServer := false }
        queue := [], isShutdown := false, pointerButtonMask := 0 })

/-- A gesture scrolls, the frame is panned, and a wheel scrolls back. -/
def gestureAndWheel : List ScrollEvent :=
  [.doRemoteScroll ⟨10, 10⟩ 45 (-30),
    .between ((invertedScrolling.after [.doRemoteScroll ⟨10, 10⟩ 45 (-30)]).dispatcher.panFrame 5 5),
    .doRemoteScrollFromMouse ⟨20, 20⟩ (-3 / 2) 2]

theorem scroll_conserved_gestureAndWheel :
    let state := invertedScrolling.after gestureAndWheel
    state.Conserves .direct (-1) gestureAndWheel ∧
      state.dispatcher =
        gestureAndWheel.foldl (ScrollEvent.apply .direct) invertedScrolling.start.dispatcher :=
  scroll_conserved .direct _ inverted _ _ gestureAndWheel ⟨trivial, ⟨rfl, rfl⟩, trivial, trivial⟩

end TermPlux.Dispatcher
