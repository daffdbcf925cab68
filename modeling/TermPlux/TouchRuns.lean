/-
This file runs `TouchHandler` on touch, stylus and mouse events in any order,
together with what else moves the frame or the pointer: changes of the gesture
style, of the frame state, and pointer moves by the server.

A button event is dropped where the mode maps its point to nothing. Clicks are
dropped as a whole, but the end of a drag and the release of a mouse button are
dropped alone. In the runs where that does not happen, the pressed mouse buttons
cover the mask whenever no gesture is in progress.
-/

import TermPlux.Machine
import TermPlux.TouchHandler

namespace TermPlux.TouchHandler

open BitMask Dispatcher

/-! ### Inputs -/

/-- A button of a device. -/
structure DeviceButton where
  device : InputDevice
  actionButton : BitVec 32
  deriving DecidableEq

/-- The button that an event presses or releases. -/
def buttonOf (event : MotionEvent) : DeviceButton :=
  { device := event.device, actionButton := event.actionButton }

/-- Everything that touches the pointer or the frame. Events come with what the platform's
detectors report for them; their later reports come alone. -/
inductive PointerInput
  | touch (event : MotionEvent) (calls : Detected)
  | genericMotion (event : MotionEvent) (calls : List StylusCall)
  | hover (event : MotionEvent)
  | stylusTimeout (call : StylusCall)
  | tapTimeout (call : TapCall)
  | mouseBack
  | gestureStyleChanged (gestureStyle : String)
  | frame (operation : FrameState.Operation)
  | serverPointerMove (x y : Int)

/-- The handler, the devices with a gesture in progress, and the pressed buttons. -/
structure PointerState where
  handler : TouchHandler
  gestures : List Nat
  pressed : List DeviceButton

namespace PointerState

def dispatcher (state : PointerState) : Dispatcher := state.handler.dispatcher

def messenger (state : PointerState) : Messenger := state.handler.dispatcher.messenger

end PointerState

variable (settings : TouchSettings)

def setGestureStyle (dispatcher : Dispatcher) (gestureStyle : String) : Dispatcher :=
  { dispatcher with profile.gestureStyle := gestureStyle }.onGestureStyleChanged

def react (handler : TouchHandler) (input : PointerInput) : TouchHandler :=
  match input with
  | .touch event calls => (handler.onTouchEvent settings event calls).1
  | .genericMotion event calls => (handler.onGenericMotionEvent settings event calls).1
  | .hover event => (handler.onHoverEvent event).1
  | .stylusTimeout call => handler.onStylusCall call
  | .tapTimeout call => handler.onTapCall settings call
  | .mouseBack => handler.onMouseBack
  | .gestureStyleChanged gestureStyle =>
    handler.dispatch (setGestureStyle handler.dispatcher gestureStyle)
  | .frame operation =>
    { handler with dispatcher.frameState := handler.dispatcher.frameState.apply operation }
  | .serverPointerMove x y =>
    { handler with
      dispatcher.messenger.client := handler.dispatcher.messenger.client.cbHandleCursorPos x y }

def gesturesAfter (gestures : List Nat) (event : MotionEvent) : List Nat :=
  match event.action with
  | .down => event.device.id :: gestures
  | .up | .cancel => gestures.erase event.device.id
  | _ => gestures

def buttonsAfter (pressed : List DeviceButton) (event : MotionEvent) : List DeviceButton :=
  match event.action with
  | .buttonPress => buttonOf event :: pressed
  | .buttonRelease => pressed.erase (buttonOf event)
  | _ => pressed

def step (state : PointerState) (input : PointerInput) : PointerState :=
  { handler := state.handler.react settings input
    gestures :=
      match input with
      | .touch event _ => gesturesAfter state.gestures event
      | _ => state.gestures
    pressed :=
      match input with
      | .touch event _ | .genericMotion event _ => buttonsAfter state.pressed event
      | _ => state.pressed }

/-! ### Which events can happen -/

/-- A button goes down when it is up, and up when it is down. -/
def ButtonsAgree (pressed : List DeviceButton) (event : MotionEvent) : Prop :=
  (event.action = .buttonPress → buttonOf event ∉ pressed) ∧
    (event.action = .buttonRelease → buttonOf event ∈ pressed)

/-- The contract of the platform. A gesture of a device goes from its down to its up or cancel,
and the events between them arrive as touches; a detector reports movements for a move and not
after a timeout. -/
def Enabled (state : PointerState) (input : PointerInput) : Prop :=
  match input with
  | .touch event calls =>
    (event.action = .down → event.device.id ∉ state.gestures) ∧
      (event.action.isTouch = true → event.action ≠ .down → event.device.id ∈ state.gestures) ∧
      (calls.isMovement = true → event.action = .move) ∧ ButtonsAgree state.pressed event
  | .genericMotion event calls =>
    event.action.isTouch = false ∧ calls.any StylusCall.isScroll = false ∧
      ButtonsAgree state.pressed event
  | .stylusTimeout call => call.isScroll = false
  | _ => True

instance : ∀ state input, Decidable (Enabled state input)
  | state, .touch event _ =>
    haveI : Decidable (ButtonsAgree state.pressed event) := inferInstanceAs (Decidable (_ ∧ _))
    inferInstanceAs (Decidable (_ ∧ _ ∧ _ ∧ _))
  | state, .genericMotion event _ =>
    haveI : Decidable (ButtonsAgree state.pressed event) := inferInstanceAs (Decidable (_ ∧ _))
    inferInstanceAs (Decidable (_ ∧ _ ∧ _))
  | _, .stylusTimeout _ => inferInstanceAs (Decidable (_ = _))
  | _, .hover _ | _, .tapTimeout _ | _, .mouseBack | _, .gestureStyleChanged _ | _, .frame _
  | _, .serverPointerMove _ _ => .isTrue trivial

/-- A new activity on any frame, and all that can happen to its pointer. -/
def pointers (profile : Profile) (pref : InputPref) (frameState : FrameState)
    (client : VncClient) : Machine PointerState PointerInput where
  start :=
    { handler :=
        { dispatcher := .create profile pref frameState
            { client, queue := [], isShutdown := false, pointerButtonMask := 0 } }
      gestures := []
      pressed := [] }
  enabled := Enabled
  step := step settings

instance (profile : Profile) (pref : InputPref) (frameState : FrameState) (client : VncClient) :
    ∀ state input,
      Decidable ((pointers settings profile pref frameState client).enabled state input) :=
  fun state input => inferInstanceAs (Decidable (Enabled state input))

/-- The bits that the pressed buttons may hold. -/
def heldMask (pressed : List DeviceButton) : ButtonMask :=
  union (pressed.map fun button => buttonMask settings button.device button.actionButton)

/-- The last gesture in progress stops where the default mode maps its point, or the buttons
that stay pressed cover the mask. -/
def StopsMapped (state : PointerState) (event : MotionEvent) : Prop :=
  state.gestures.erase event.device.id = [] →
    (state.dispatcher.transformPoint state.dispatcher.config.defaultMode event.point).isSome ∨
      Within state.messenger.pointerButtonMask (heldMask settings state.pressed)

/-- A button that goes up while no gesture is in progress does so inside the framebuffer, or
the buttons that stay pressed cover the mask. -/
def ReleasesMapped (state : PointerState) (event : MotionEvent) : Prop :=
  state.gestures = [] →
    (state.dispatcher.transformPoint .direct event.point).isSome ∨
      Within state.messenger.pointerButtonMask
        (heldMask settings (state.pressed.erase (buttonOf event)))

def Undisturbed (state : PointerState) (input : PointerInput) : Prop :=
  match input with
  | .touch event _ =>
    (event.action = .up ∨ event.action = .cancel → StopsMapped settings state event) ∧
      (event.action = .buttonRelease → ReleasesMapped settings state event)
  | .genericMotion event _ =>
    event.action = .buttonRelease → ReleasesMapped settings state event
  | _ => True

instance (state : PointerState) (event : MotionEvent) :
    Decidable (StopsMapped settings state event) := inferInstanceAs (Decidable (_ → _ ∨ _))

instance (state : PointerState) (event : MotionEvent) :
    Decidable (ReleasesMapped settings state event) := inferInstanceAs (Decidable (_ → _ ∨ _))

instance : ∀ state input, Decidable (Undisturbed settings state input)
  | _, .touch _ _ => inferInstanceAs (Decidable ((_ → _) ∧ (_ → _)))
  | _, .genericMotion _ _ => inferInstanceAs (Decidable (_ → _))
  | _, .hover _ | _, .stylusTimeout _ | _, .tapTimeout _ | _, .mouseBack
  | _, .gestureStyleChanged _ | _, .frame _ | _, .serverPointerMove _ _ => .isTrue trivial

/-- What a run of such events keeps: the server is informed of the mask, and while no gesture
is in progress the pressed buttons cover it. -/
structure Covered (state : PointerState) : Prop where
  synced : state.messenger.Synced
  mask : state.gestures = [] →
    Within state.messenger.pointerButtonMask (heldMask settings state.pressed)

/-! ### One step -/

variable {settings} {handler : TouchHandler} {state : PointerState}

theorem heldMask_erase {pressed : List DeviceButton} {button : DeviceButton}
    (member : button ∈ pressed) :
    heldMask settings pressed = buttonMask settings button.device button.actionButton |||
      heldMask settings (pressed.erase button) :=
  union_perm ((List.perm_cons_erase member).map _)

/-- The mouse's handler keeps the mask covered by the pressed buttons. -/
theorem within_afterMouse {pressed : List DeviceButton} {event : MotionEvent}
    (covered : Within handler.dispatcher.messenger.pointerButtonMask (heldMask settings pressed))
    (agree : ButtonsAgree pressed event)
    (release : event.action = .buttonRelease →
      (handler.dispatcher.transformPoint .direct event.point).isSome ∨
        Within handler.dispatcher.messenger.pointerButtonMask
          (heldMask settings (pressed.erase (buttonOf event)))) :
    Within (handler.afterMouse settings event).dispatcher.messenger.pointerButtonMask
      (heldMask settings (buttonsAfter pressed event)) := by
  unfold buttonsAfter
  split
  · rename_i down
    exact (within_afterMouse_press down).trans (covered.press _)
  · rename_i up
    rcases release up with mapped | rest
    · rw [heldMask_erase (agree.2 up)] at covered
      exact (within_afterMouse_release_of_mapped up mapped).trans covered.release
    · exact (within_afterMouse_release up).trans rest
  · rename_i noPress noRelease
    exact (still_afterMouse noPress noRelease).mask.trans covered

theorem received_handleGestureStartStop (event : MotionEvent) :
    Received handler.dispatcher (handler.handleGestureStartStop event).dispatcher := by
  unfold handleGestureStartStop
  split
  · exact received _ .onGestureStart
  · exact received _ (.onGestureStop event.point)
  · exact received _ (.onGestureStop event.point)
  · exact .refl _

theorem received_onTouchEvent (event : MotionEvent) (calls : Detected) :
    Received handler.dispatcher (handler.onTouchEvent settings event calls).1.dispatcher :=
  (received_handleEvent event calls).trans (received_handleGestureStartStop event)

/-- Something else than a button or gesture event keeps the mask covered. -/
theorem covered_of_quiet {input : PointerInput} (covered : Covered settings state)
    (quiet : Quiet state.dispatcher (step settings state input).dispatcher)
    (gestures : (step settings state input).gestures = state.gestures)
    (pressed : (step settings state input).pressed = state.pressed) :
    Covered settings (step settings state input) where
  synced := quiet.informed covered.synced
  mask idle := pressed ▸ quiet.mask.trans (covered.mask (gestures ▸ idle))

theorem covered_genericMotion {event : MotionEvent} {calls : List StylusCall}
    (covered : Covered settings state) (enabled : Enabled state (.genericMotion event calls))
    (undisturbed : Undisturbed settings state (.genericMotion event calls)) :
    Covered settings (step settings state (.genericMotion event calls)) := by
  obtain ⟨-, taps, agree⟩ := enabled
  have still : Still (state.handler.afterMouse settings event).dispatcher
      (step settings state (.genericMotion event calls)).dispatcher :=
    still_onGenericMotionEvent taps
  refine ⟨still.informed ((received_afterMouse event).informed covered.synced), fun idle => ?_⟩
  exact still.mask.trans (within_afterMouse (covered.mask idle) agree
    fun release => undisturbed release idle)

/-- A touch that ends a gesture, or comes without one, reports no movement. -/
theorem isMovement_of_idle {event : MotionEvent} {calls : Detected}
    (enabled : Enabled state (.touch event calls))
    (idle : (event.action = .up ∨ event.action = .cancel) ∨ state.gestures = []) :
    calls.isMovement = false := by
  refine Bool.eq_false_iff.mpr fun movement => ?_
  have moves := enabled.2.2.1 movement
  rcases idle with (up | cancel) | none
  · cases moves.symm.trans up
  · cases moves.symm.trans cancel
  · have member := enabled.2.1 (by rw [moves]; rfl) (by rw [moves]; decide)
    rw [none] at member
    exact List.not_mem_nil member

/-- The last gesture stops: its buttons are released, or the pressed ones cover them. -/
theorem covered_touch_stop {event : MotionEvent} {calls : Detected}
    (enabled : Enabled state (.touch event calls))
    (stop : event.action = .up ∨ event.action = .cancel)
    (mapped : (state.dispatcher.transformPoint state.dispatcher.config.defaultMode
        event.point).isSome ∨
      Within state.messenger.pointerButtonMask (heldMask settings state.pressed)) :
    Within (step settings state (.touch event calls)).messenger.pointerButtonMask
      (heldMask settings state.pressed) := by
  have still : Still state.dispatcher
      (state.handler.handleEvent settings event calls).1.dispatcher := by
    have tap := isMovement_of_idle enabled (.inl stop)
    refine (still_afterMouse ?_ ?_).trans (still_handleEvent tap)
    · rcases stop with same | same <;> simp [same]
    · rcases stop with same | same <;> simp [same]
  have stopped : (step settings state (.touch event calls)).dispatcher =
      (state.handler.handleEvent settings event calls).1.dispatcher.onGestureStop event.point := by
    show ((state.handler.handleEvent settings event calls).1.handleGestureStartStop
      event).dispatcher = _
    rcases stop with up | cancel
    · rw [handleGestureStartStop, up]
      rfl
    · rw [handleGestureStartStop, cancel]
      rfl
  show Within (step settings state (.touch event calls)).dispatcher.messenger.pointerButtonMask _
  rw [stopped]
  rcases mapped with inside | rest
  · rw [onGestureStop_mask _ event.point]
    · exact within_zero
    · rw [still.isSome_transformPoint, still.config]
      exact inside
  · exact ((quiet_onGestureStop _ event.point).mask.trans still.mask).trans rest

/-- A touch in the middle of no gesture does what the mouse's handler does. -/
theorem covered_touch_other {event : MotionEvent} {calls : Detected}
    (covered : Covered settings state) (enabled : Enabled state (.touch event calls))
    (undisturbed : Undisturbed settings state (.touch event calls))
    (noStop : ¬(event.action = .up ∨ event.action = .cancel)) (noDown : event.action ≠ .down)
    (none : state.gestures = []) :
    Within (step settings state (.touch event calls)).messenger.pointerButtonMask
      (heldMask settings (buttonsAfter state.pressed event)) := by
  have still : Still (state.handler.afterMouse settings event).dispatcher
      (state.handler.handleEvent settings event calls).1.dispatcher :=
    still_handleEvent (isMovement_of_idle enabled (.inr none))
  have unchanged : (step settings state (.touch event calls)).handler =
      (state.handler.handleEvent settings event calls).1 := by
    show (state.handler.handleEvent settings event calls).1.handleGestureStartStop event = _
    unfold handleGestureStartStop
    split
    · exact absurd ‹_› noDown
    · exact absurd (.inl ‹_›) noStop
    · exact absurd (.inr ‹_›) noStop
    · rfl
  rw [PointerState.messenger, unchanged]
  exact still.mask.trans (within_afterMouse (covered.mask none) enabled.2.2.2
    fun release => undisturbed.2 release none)

theorem covered_touch {event : MotionEvent} {calls : Detected}
    (covered : Covered settings state) (enabled : Enabled state (.touch event calls))
    (undisturbed : Undisturbed settings state (.touch event calls)) :
    Covered settings (step settings state (.touch event calls)) := by
  refine ⟨(received_onTouchEvent event calls).informed covered.synced, fun idle => ?_⟩
  replace idle : gesturesAfter state.gestures event = [] := idle
  show Within _ (heldMask settings (buttonsAfter state.pressed event))
  by_cases stop : event.action = .up ∨ event.action = .cancel
  · have erased : state.gestures.erase event.device.id = [] := by
      rcases stop with same | same <;> simpa [gesturesAfter, same] using idle
    have same : buttonsAfter state.pressed event = state.pressed := by
      rcases stop with same | same <;> simp [buttonsAfter, same]
    rw [same]
    exact covered_touch_stop enabled stop (undisturbed.1 stop erased)
  · have noDown : event.action ≠ .down := fun down => by simp [gesturesAfter, down] at idle
    have none : state.gestures = [] := by
      unfold gesturesAfter at idle
      split at idle
      · cases idle
      · exact absurd (.inl ‹_›) stop
      · exact absurd (.inr ‹_›) stop
      · exact idle
    exact covered_touch_other covered enabled undisturbed stop noDown none

theorem covered_step {input : PointerInput} (covered : Covered settings state)
    (enabled : Enabled state input) (undisturbed : Undisturbed settings state input) :
    Covered settings (step settings state input) := by
  cases input with
  | touch event calls => exact covered_touch covered enabled undisturbed
  | genericMotion event calls => exact covered_genericMotion covered enabled undisturbed
  | hover event =>
    have hovered : Still state.dispatcher (state.handler.onHoverEvent event).1.dispatcher := by
      unfold onHoverEvent
      split
      · exact still_onMouseMove _ event.point
      · exact .refl _
    exact covered_of_quiet covered hovered.toQuiet rfl rfl
  | stylusTimeout call =>
    exact covered_of_quiet covered (still_onStylusCall enabled).toQuiet rfl rfl
  | tapTimeout call => exact covered_of_quiet covered (still_onTapCall call).toQuiet rfl rfl
  | mouseBack => exact covered_of_quiet covered (still_pointAction _ _ _).toQuiet rfl rfl
  | gestureStyleChanged gestureStyle =>
    exact covered_of_quiet covered (quiet_of_client rfl) rfl rfl
  | frame operation => exact covered_of_quiet covered (quiet_of_client rfl) rfl rfl
  | serverPointerMove x y => exact covered_of_quiet covered (quiet_of_client rfl) rfl rfl

theorem covered_start (settings : TouchSettings) (profile : Profile) (pref : InputPref)
    (frameState : FrameState) (client : VncClient) :
    Covered settings (pointers settings profile pref frameState client).start where
  synced := ⟨rfl, fun _ queued => by cases queued⟩
  mask _ := within_zero

/-- In every run whose releases are mapped, once no gesture is in progress and no button is
pressed, the mask is zero and, if any other mask was queued, zero was queued last; and in every
state a click of one button leaves the bits of the others as they are. -/
theorem buttons_released (settings : TouchSettings) (profile : Profile) (pref : InputPref)
    (frameState : FrameState) (client : VncClient) (events : List PointerInput)
    (run : ((pointers settings profile pref frameState client).restrict
      (Undisturbed settings)).Run events) :
    let state := (pointers settings profile pref frameState client).after events
    (state.gestures = [] → state.pressed = [] →
        state.messenger.pointerButtonMask = 0 ∧
          ((∃ mask ∈ state.messenger.masks, mask ≠ 0) →
            state.messenger.masks.getLast? = some 0)) ∧
      ∀ (mode : Mode) (button : PointerButton) (p : PointF) (index : Nat),
        button.bitMask.getLsbD index = false →
          (state.dispatcher.doClick mode button p).messenger.pointerButtonMask.getLsbD index =
            state.messenger.pointerButtonMask.getLsbD index := by
  intro state
  have covered : Covered settings state := run.invariant_of_condition (Covered settings)
    (covered_start settings profile pref frameState client)
    fun _ _ covered enabled undisturbed => covered_step covered enabled undisturbed
  refine ⟨fun idle released => ?_, fun mode button p index other =>
    doClick_getLsbD state.dispatcher mode button p other⟩
  have bound := covered.mask idle
  rw [released] at bound
  have none : state.messenger.pointerButtonMask = 0 := bound.eq_zero
  refine ⟨none, fun ⟨mask, member, _⟩ => ?_⟩
  have last := List.getLast?_eq_some_getLast (List.ne_nil_of_mem member)
  rw [last, (covered.synced.last _ last).trans none]

/-! ### A mouse and a stylus -/

/-- The default preferences, as far as they matter below. -/
def defaultInput : InputPref where
  gesture :=
    { style := "touchscreen", tap2 := "open-keyboard", doubleTap := "double-click"
      longPress := "right-click", swipe1 := "pan", swipe2 := "remote-scroll"
      doubleTapSwipe := "remote-drag", longPressSwipe := "none", swipeSensitivity := 1
      invertVerticalScrolling := false }
  mousePassthrough := true
  mouseBack := "right-click"

def defaultSettings : TouchSettings := .of defaultInput 34 300 fun _ _ => 0

/-- An activity with a framebuffer of 100 by 100 in the corner of its viewport. -/
abbrev cornerPointers : Machine PointerState PointerInput :=
  pointers defaultSettings
    { gestureStyle := "auto", fButtonUpDelay := false, fZoomLocked := false } defaultInput
    { prefs := .defaults, fbWidth := 100, fbHeight := 100 }
    { pointerX := 0, pointerY := 0, ignorePointerMovesByServer := false }

def mouseEvent (action : MotionAction) (x y : ℚ) (actionButton : BitVec 32) : MotionEvent :=
  { device := { id := 1, isStylus := false, isMouse := true, toolType := .mouse }
    action, first := { id := 0, point := ⟨x, y⟩ }, actionButton }

def stylusEvent (action : MotionAction) (x y : ℚ) : MotionEvent :=
  { device := { id := 2, isStylus := true, isMouse := false, toolType := .stylus }
    action, first := { id := 0, point := ⟨x, y⟩ } }

/-- The right mouse button pressed and released during a drag by the stylus. -/
def stylusAndMouse : List PointerInput :=
  [.touch (stylusEvent .down 10 10) { stylus := [.onDown] },
    .genericMotion (mouseEvent .buttonPress 20 20 MotionEvent.buttonSecondary) [],
    .touch (stylusEvent .move 30 30)
      { stylus := [.onScroll ⟨some (stylusEvent .down 10 10), stylusEvent .move 30 30, 20, 20⟩] },
    .genericMotion (mouseEvent .buttonRelease 20 20 MotionEvent.buttonSecondary) [],
    .touch (stylusEvent .up 40 40) {}]

/-- Both are released inside the framebuffer. -/
theorem buttons_released_inside :
    (cornerPointers.after stylusAndMouse).messenger.pointerButtonMask = 0 :=
  ((buttons_released defaultSettings _ _ _ _ stylusAndMouse (by decide +kernel)).1
    (by decide +kernel) (by decide +kernel)).1

/-- The left mouse button dragged out of the framebuffer and released there. -/
def mouseDraggedOut : List PointerInput :=
  [.touch (mouseEvent .down 10 10 0) {},
    .genericMotion (mouseEvent .buttonPress 10 10 MotionEvent.buttonPrimary) [],
    .touch (mouseEvent .move 500 10 0) {},
    .genericMotion (mouseEvent .buttonRelease 500 10 MotionEvent.buttonPrimary) [],
    .touch (mouseEvent .up 500 10 0) {}]

/-- Neither its release nor the end of its gesture reaches the messenger. -/
theorem button_stuck_outside :
    cornerPointers.Run mouseDraggedOut ∧
      (cornerPointers.after mouseDraggedOut).gestures = [] ∧
      (cornerPointers.after mouseDraggedOut).pressed = [] ∧
      (cornerPointers.after mouseDraggedOut).messenger.pointerButtonMask = 1 ∧
      (cornerPointers.after mouseDraggedOut).messenger.masks.getLast? = some 1 := by
  decide +kernel

end TermPlux.TouchHandler
