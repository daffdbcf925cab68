/-
This file follows the flag that makes the client ignore pointer moves by the
server. The relative mode sets it when a gesture starts and clears it when one
stops, and nothing else touches it. A gesture that is started in relative mode and
stopped in direct mode, because the gesture style was changed in between, leaves it
set.
-/

import TermPlux.PointerBounds

namespace TermPlux

namespace Messenger

variable (messenger : Messenger)

def ignoresMoves : Bool := messenger.client.ignorePointerMovesByServer

@[simp] theorem ignoresMoves_execute (task : SenderTask) :
    (messenger.execute task).ignoresMoves = messenger.ignoresMoves := by
  unfold execute
  split <;> rfl

@[simp] theorem ignoresMoves_setPointerButtonMask (mask : ButtonMask) (p : PointF) :
    (messenger.setPointerButtonMask mask p).ignoresMoves = messenger.ignoresMoves :=
  ignoresMoves_execute _ _

@[simp] theorem ignoresMoves_sendPointerButtonRelease (p : PointF) :
    (messenger.sendPointerButtonRelease p).ignoresMoves = messenger.ignoresMoves := by
  unfold sendPointerButtonRelease
  split
  · exact messenger.ignoresMoves_setPointerButtonMask 0 p
  · rfl

end Messenger

namespace Dispatcher

/-! ### What leaves the flag alone -/

def ignoresMoves (dispatcher : Dispatcher) : Bool := dispatcher.messenger.ignoresMoves

variable (dispatcher : Dispatcher) (mode : Mode)

theorem ignoresMoves_sendAt (p : PointF) {send : Messenger → PointF → Messenger}
    (keeps : ∀ point,
      (send dispatcher.messenger point).ignoresMoves = dispatcher.messenger.ignoresMoves) :
    (dispatcher.sendAt mode p send).ignoresMoves = dispatcher.ignoresMoves := by
  unfold sendAt
  split
  · exact keeps _
  · rfl

@[simp] theorem ignoresMoves_doButtonDown (button : PointerButton) (p : PointF) :
    (dispatcher.doButtonDown mode button p).ignoresMoves = dispatcher.ignoresMoves :=
  dispatcher.ignoresMoves_sendAt mode p fun _ => Messenger.ignoresMoves_setPointerButtonMask _ _ _

@[simp] theorem ignoresMoves_doButtonUp (button : PointerButton) (p : PointF) :
    (dispatcher.doButtonUp mode button p).ignoresMoves = dispatcher.ignoresMoves :=
  dispatcher.ignoresMoves_sendAt mode p fun _ => Messenger.ignoresMoves_setPointerButtonMask _ _ _

@[simp] theorem ignoresMoves_doButtonRelease (p : PointF) :
    (dispatcher.doButtonRelease mode p).ignoresMoves = dispatcher.ignoresMoves :=
  dispatcher.ignoresMoves_sendAt mode p fun _ =>
    Messenger.ignoresMoves_sendPointerButtonRelease _ _

@[simp] theorem ignoresMoves_delayButtonUp (button : PointerButton) :
    (dispatcher.delayButtonUp button).ignoresMoves = dispatcher.ignoresMoves := by
  unfold delayButtonUp
  split
  · exact Messenger.ignoresMoves_execute _ _
  · rfl

@[simp] theorem ignoresMoves_doClick (button : PointerButton) (p : PointF) :
    (dispatcher.doClick mode button p).ignoresMoves = dispatcher.ignoresMoves := by
  unfold doClick
  rw [ignoresMoves_doButtonUp, ignoresMoves_delayButtonUp, ignoresMoves_doButtonDown]

@[simp] theorem ignoresMoves_drainClicks (above below : PointerButton) (focus : PointF)
    (accumulated : ℚ) :
    (dispatcher.drainClicks mode above below focus accumulated).2.ignoresMoves =
      dispatcher.ignoresMoves :=
  drain_keeps (·.ignoresMoves = dispatcher.ignoresMoves)
    (fun state kept => (state.ignoresMoves_doClick mode above focus).trans kept)
    (fun state kept => (state.ignoresMoves_doClick mode below focus).trans kept) accumulated
    dispatcher rfl

@[simp] theorem ignoresMoves_doRemoteScroll (focus : PointF) (dx dy : ℚ) :
    (dispatcher.doRemoteScroll mode focus dx dy).ignoresMoves = dispatcher.ignoresMoves := by
  have set (dispatcher : Dispatcher) (accumulated : Accumulated) :
      (dispatcher.setAccumulated mode accumulated).ignoresMoves = dispatcher.ignoresMoves := by
    cases mode <;> rfl
  unfold doRemoteScroll
  rw [set, ignoresMoves_drainClicks, ignoresMoves_drainClicks]

@[simp] theorem ignoresMoves_doMovePointer (p : PointF) (dx dy : ℚ) :
    (dispatcher.doMovePointer mode p dx dy).ignoresMoves = dispatcher.ignoresMoves := by
  unfold doMovePointer
  split
  · exact ignoresMoves_doButtonDown _ _ _ _
  · split
    · rfl
    · exact ignoresMoves_doButtonDown _ _ _ _

@[simp] theorem ignoresMoves_doRemoteDrag (button : PointerButton) (p : PointF) (dx dy : ℚ) :
    (dispatcher.doRemoteDrag mode button p dx dy).ignoresMoves = dispatcher.ignoresMoves := by
  unfold doRemoteDrag
  split
  · exact ignoresMoves_doButtonDown _ _ _ _
  · rw [ignoresMoves_doMovePointer, ignoresMoves_doButtonDown]

@[simp] theorem ignoresMoves_pointAction (action : PointAction) (p : PointF) :
    (dispatcher.pointAction action p).ignoresMoves = dispatcher.ignoresMoves := by
  unfold pointAction
  split
  · exact ignoresMoves_doClick _ _ _ _
  · unfold doDoubleClick
    rw [ignoresMoves_doClick, ignoresMoves_doClick]
  · rfl
  · rfl

@[simp] theorem ignoresMoves_swipeAction (action : SwipeAction) (sp cp : PointF) (dx dy : ℚ) :
    (dispatcher.swipeAction action sp cp dx dy).ignoresMoves = dispatcher.ignoresMoves := by
  unfold swipeAction
  split
  · rfl
  · exact ignoresMoves_doMovePointer _ _ _ _ _
  · exact ignoresMoves_doRemoteScroll _ _ _ _ _
  · exact ignoresMoves_doRemoteDrag _ _ _ _ _ _
  · rfl

@[simp] theorem ignoresMoves_updateZoom (scaleFactor fx fy : ℚ) :
    (dispatcher.updateZoom scaleFactor fx fy).ignoresMoves = dispatcher.ignoresMoves := by
  unfold updateZoom
  split <;> rfl

/-- Only the relative mode sets the flag. -/
theorem ignoresMoves_onGestureStart :
    dispatcher.onGestureStart.ignoresMoves =
      if dispatcher.config.defaultMode = .relative then true else dispatcher.ignoresMoves := by
  unfold onGestureStart modeGestureStart
  cases dispatcher.config.defaultMode <;> rfl

/-- Only the relative mode clears the flag. -/
theorem ignoresMoves_onGestureStop (p : PointF) :
    (dispatcher.onGestureStop p).ignoresMoves =
      if dispatcher.config.defaultMode = .relative then false else dispatcher.ignoresMoves := by
  unfold onGestureStop modeGestureStop
  cases dispatcher.config.defaultMode with
  | direct => exact dispatcher.ignoresMoves_doButtonRelease .direct p
  | relative => rfl

end Dispatcher

namespace PointerMoves

open Dispatcher PointerBounds

/-! ### Gestures in progress -/

/-- A dispatcher with the number of gestures in progress, and whether relative mode has started
a gesture and stopped none since. -/
structure Gestures where
  dispatcher : Dispatcher
  inProgress : Nat
  unstopped : Bool

def Gestures.step (state : Gestures) (input : PointerStep) : Gestures :=
  { dispatcher := react state.dispatcher input
    inProgress :=
      match input with
      | .receive .onGestureStart => state.inProgress + 1
      | .receive (.onGestureStop _) => state.inProgress - 1
      | _ => state.inProgress
    unstopped :=
      match input with
      | .receive .onGestureStart =>
        if state.dispatcher.config.defaultMode = .relative then true else state.unstopped
      | .receive (.onGestureStop _) =>
        if state.dispatcher.config.defaultMode = .relative then false else state.unstopped
      | _ => state.unstopped }

/-- A new activity on any frame, for a client that does not ignore pointer moves yet. -/
def gesturing (profile : Profile) (pref : InputPref) (frameState : FrameState)
    (pointerX pointerY : Int) : Machine Gestures PointerStep where
  start :=
    { dispatcher := .create profile pref frameState
        { client := { pointerX, pointerY, ignorePointerMovesByServer := false }
          queue := [], isShutdown := false, pointerButtonMask := 0 }
      inProgress := 0
      unstopped := false }
  enabled _ _ := True
  step := Gestures.step

/-- While no gesture is in progress, the moves of the server are followed. -/
def FollowsServer (state : Gestures) : Prop :=
  state.inProgress = 0 → state.dispatcher.ignoresMoves = false

/-- The last gesture in progress stops in relative mode, unless relative mode has stopped every
gesture that it started. -/
def StopsInMode (state : Gestures) : PointerStep → Prop
  | .receive (.onGestureStop _) =>
    state.inProgress ≤ 1 →
      state.dispatcher.config.defaultMode = .relative ∨ state.unstopped = false
  | _ => True

/-- The flag tells whether relative mode has left a gesture unstopped. -/
def Marked (state : Gestures) : Prop := state.dispatcher.ignoresMoves = state.unstopped

theorem marked_step {state : Gestures} (marked : Marked state) (input : PointerStep) :
    Marked (state.step input) := by
  unfold Marked at marked ⊢
  cases input with
  | receive receiver =>
    cases receiver with
    | onGestureStart =>
      refine (ignoresMoves_onGestureStart _).trans ?_
      rw [marked]
      rfl
    | onGestureStop p =>
      refine (ignoresMoves_onGestureStop _ p).trans ?_
      rw [marked]
      rfl
    | onTap1 p | onTap2 p | onDoubleTap p | onLongPress p | onMouseBack p =>
      exact (ignoresMoves_pointAction _ _ p).trans marked
    | onSwipe1 sp cp dx dy | onSwipe2 sp cp dx dy | onDoubleTapSwipe sp cp dx dy
    | onLongPressSwipe sp cp dx dy =>
      exact (ignoresMoves_swipeAction _ _ sp cp dx dy).trans marked
    | onScale scaleFactor fx fy =>
      exact (ignoresMoves_updateZoom _ scaleFactor fx fy).trans marked
    | onMouseButtonDown button p => exact (ignoresMoves_doButtonDown _ _ button p).trans marked
    | onMouseButtonUp button p => exact (ignoresMoves_doButtonUp _ _ button p).trans marked
    | onMouseMove p => exact (ignoresMoves_doMovePointer _ _ p 0 0).trans marked
    | onMouseScroll p hs vs => exact (ignoresMoves_doRemoteScroll _ _ p _ _).trans marked
    | onStylusTap p | onStylusLongPress p => exact (ignoresMoves_doClick _ _ _ p).trans marked
    | onStylusDoubleTap p =>
      refine Eq.trans ?_ marked
      exact (ignoresMoves_doClick _ _ _ p).trans (ignoresMoves_doClick _ _ _ p)
    | onStylusScroll p => exact (ignoresMoves_doButtonDown _ _ _ p).trans marked
  | gestureStyleChanged gestureStyle => exact marked
  | frame operation => exact marked
  | serverPointerMove x y =>
    refine Eq.trans ?_ marked
    show (VncClient.cbHandleCursorPos _ x y).ignorePointerMovesByServer = _
    unfold VncClient.cbHandleCursorPos
    split <;> rfl

theorem followsServer_iff {state : Gestures} (marked : Marked state) :
    FollowsServer state ↔ (state.inProgress = 0 → state.unstopped = false) := by
  unfold FollowsServer
  rw [show state.dispatcher.ignoresMoves = state.unstopped from marked]

/-- A step leads from a state that follows the server to another one just when it meets the
condition. -/
theorem followsServer_step_iff {state : Gestures} (marked : Marked state)
    (follows : FollowsServer state) (input : PointerStep) :
    FollowsServer (state.step input) ↔ StopsInMode state input := by
  rw [followsServer_iff (marked_step marked input)]
  rw [followsServer_iff marked] at follows
  cases input with
  | receive receiver =>
    cases receiver with
    | onGestureStart => exact iff_of_true (fun none => absurd none (Nat.succ_ne_zero _)) trivial
    | onGestureStop p =>
      show (state.inProgress - 1 = 0 →
        (if state.dispatcher.config.defaultMode = .relative then false else state.unstopped) =
          false) ↔ (state.inProgress ≤ 1 → _ ∨ _)
      rw [Nat.sub_eq_zero_iff_le]
      refine imp_congr_right fun _ => ?_
      split
      next relative => exact iff_of_true rfl (.inl relative)
      next direct => exact (or_iff_right direct).symm
    | _ => exact iff_of_true follows trivial
  | gestureStyleChanged _ | frame _ | serverPointerMove _ _ => exact iff_of_true follows trivial

/-- In every run from a new activity, the moves of the server are followed whenever no gesture is
in progress, just as long as the last gesture in progress stops in relative mode when relative
mode has started one. -/
theorem followsServer_always_iff (profile : Profile) (pref : InputPref)
    (frameState : FrameState) (pointerX pointerY : Int) (inputs : List PointerStep) :
    (gesturing profile pref frameState pointerX pointerY).Always FollowsServer inputs ↔
      ((gesturing profile pref frameState pointerX pointerY).restrict StopsInMode).Run inputs := by
  have run : (gesturing profile pref frameState pointerX pointerY).Run inputs :=
    .of_enabled (fun _ _ => trivial) inputs
  refine run.always_iff Marked FollowsServer ?_ ?_
    (fun _ input marked _ _ => marked_step marked input)
    fun _ input marked follows _ => followsServer_step_iff marked follows input
  · rfl
  · exact fun _ => rfl

/-- An activity in touchpad style. -/
abbrev touchpad : Machine Gestures PointerStep :=
  gesturing { gestureStyle := "touchpad", fButtonUpDelay := false, fZoomLocked := false }
    TouchHandler.defaultInput { prefs := .defaults, fbWidth := 100, fbHeight := 100 } 0 0

/-- The style is changed while a gesture of the touchpad is in progress. -/
def styleChangedInGesture : List PointerStep :=
  [.receive .onGestureStart, .gestureStyleChanged "touchscreen", .receive (.onGestureStop ⟨10, 10⟩)]

theorem moves_ignored_after_gesture :
    (touchpad.after styleChangedInGesture).inProgress = 0 ∧
      (touchpad.after styleChangedInGesture).dispatcher.ignoresMoves = true ∧
      ¬touchpad.Always FollowsServer styleChangedInGesture := by
  have idle : (touchpad.after styleChangedInGesture).inProgress = 0 := by decide +kernel
  have ignores : (touchpad.after styleChangedInGesture).dispatcher.ignoresMoves = true := by
    decide +kernel
  refine ⟨idle, ignores, fun always => ?_⟩
  have follows : FollowsServer (touchpad.after styleChangedInGesture) := always.2.2.2
  exact absurd (ignores.symm.trans (follows idle)) Bool.true_eq_false.mp

end PointerMoves

end TermPlux
