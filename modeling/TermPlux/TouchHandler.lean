/-
This file models `TouchHandler`: how stylus, mouse and finger events become
actions of the dispatcher.

The platform's own gesture detectors are not part of the program. What they report
for an event comes with the event, and what they report later, when a timeout has
passed, is an event of its own. `GestureDetectorEx` and `SwipeVsScale`, which
refine them, are modelled here.
-/

import TermPlux.Dispatcher

namespace TermPlux

/-! ### Motion events -/

inductive ToolType
  | unknown
  | finger
  | stylus
  | mouse
  | eraser
  deriving DecidableEq

/-- The device of an event, as far as its events are told apart by it. -/
structure InputDevice where
  id : Nat
  isStylus : Bool
  isMouse : Bool
  toolType : ToolType
  deriving DecidableEq

/-- `MotionEvent.getActionMasked`. -/
inductive MotionAction
  | down
  | up
  | move
  | cancel
  | pointerDown
  | pointerUp
  | hoverMove
  | scroll
  | buttonPress
  | buttonRelease
  | other
  deriving DecidableEq

/-- The actions of a gesture, from its first finger down to its last finger up. -/
def MotionAction.isTouch (action : MotionAction) : Bool :=
  action ∈ [.down, .up, .move, .cancel, .pointerDown, .pointerUp]

/-- One finger of an event. -/
structure Pointer where
  id : Int
  point : PointF
  deriving DecidableEq

/-- `android.view.MotionEvent`, as far as it is read. It has at least one pointer. -/
structure MotionEvent where
  device : InputDevice
  action : MotionAction
  first : Pointer
  others : List Pointer := []
  actionButton : BitVec 32 := 0
  buttonState : BitVec 32 := 0
  eventTime : Int := 0
  hScroll : ℚ := 0
  vScroll : ℚ := 0
  deriving DecidableEq

namespace MotionEvent

def buttonPrimary : BitVec 32 := 1
def buttonSecondary : BitVec 32 := 2
def buttonTertiary : BitVec 32 := 4
def buttonStylusPrimary : BitVec 32 := 32

def point (event : MotionEvent) : PointF := event.first.point

def pointers (event : MotionEvent) : List Pointer := event.first :: event.others

def pointerCount (event : MotionEvent) : Nat := event.pointers.length

/-- The position of the pointer with the id, if it has one. -/
def findPointer (event : MotionEvent) (id : Int) : Option PointF :=
  (event.pointers.find? (·.id == id)).map Pointer.point

end MotionEvent

/-! ### Reports of the platform's detectors -/

/-- An `onScroll` of a detector. -/
structure Scroll where
  e1 : Option MotionEvent
  e2 : MotionEvent
  distanceX : ℚ
  distanceY : ℚ

/-- What the stylus detector reports. -/
inductive StylusCall
  | onDown
  | onSingleTapConfirmed (e : MotionEvent)
  | onDoubleTap (e : MotionEvent)
  | onLongPress (e : MotionEvent)
  | onScroll (scroll : Scroll)

/-- What `innerDetector1` reports. -/
inductive TapCall
  | onSingleTapConfirmed (e : MotionEvent)
  | onLongPress (e : MotionEvent)

/-- What `innerDetector2` reports. An `onDoubleTapEvent` goes on to `innerDetector3`, which
reports scrolls. -/
inductive DoubleTapCall
  | onDoubleTap
  | onDoubleTapEvent (scrolls : List Scroll)
  | onScroll (scroll : Scroll)

/-- An `onScale` of the scale detector. -/
structure Scale where
  scaleFactor : ℚ
  focusX : ℚ
  focusY : ℚ

/-- What the detectors report for one event. -/
structure Detected where
  stylus : List StylusCall := []
  scales : List Scale := []
  taps : List TapCall := []
  doubleTaps : List DoubleTapCall := []

def StylusCall.isScroll : StylusCall → Bool
  | .onScroll _ => true
  | _ => false

def DoubleTapCall.isScroll : DoubleTapCall → Bool
  | .onDoubleTap => false
  | .onDoubleTapEvent scrolls => !scrolls.isEmpty
  | .onScroll _ => true

/-- Whether some detector reports a movement. -/
def Detected.isMovement (calls : Detected) : Bool :=
  calls.stylus.any StylusCall.isScroll || !calls.scales.isEmpty ||
    calls.doubleTaps.any DoubleTapCall.isScroll

/-! ### The state -/

/-- The platform and the preferences that a handler reads when it is made. -/
structure TouchSettings where
  sdkInt : Int
  mousePassthrough : Bool
  longPressSwipeEnabled : Bool
  swipeSensitivity : ℚ
  swipeVsScaleEnabled : Bool
  doubleTapTimeout : Int
  theta : PointF → PointF → ℚ

def TouchSettings.of (pref : InputPref) (sdkInt doubleTapTimeout : Int)
    (theta : PointF → PointF → ℚ) : TouchSettings :=
  { sdkInt, doubleTapTimeout, theta, mousePassthrough := pref.mousePassthrough
    longPressSwipeEnabled := pref.gesture.longPressSwipeEnabled
    swipeSensitivity := pref.gesture.swipeSensitivity
    swipeVsScaleEnabled := pref.gesture.swipe2 == "remote-scroll" }

structure GestureDetectorEx where
  longPressDetected : Bool := false
  doubleTapDetected : Bool := false
  scrolling : Bool := false
  maxFingerDown : Nat := 0
  currentDownEvent : Option MotionEvent := none

structure SwipeVsScale where
  detecting : Bool := false
  scaleDetected : Bool := false
  swipeDetected : Bool := false
  f1Id : Int := 0
  f2Id : Int := 0
  f1Start : PointF := ⟨0, 0⟩
  f2Start : PointF := ⟨0, 0⟩
  f1Current : PointF := ⟨0, 0⟩
  f2Current : PointF := ⟨0, 0⟩

structure TouchHandler where
  dispatcher : Dispatcher
  lastHoverPoint : PointF := ⟨0, 0⟩
  stylusScrolling : Bool := false
  gestureDetector : GestureDetectorEx := {}
  swipeVsScale : SwipeVsScale := {}

namespace TouchHandler

variable (settings : TouchSettings)

def dispatch (handler : TouchHandler) (dispatcher : Dispatcher) : TouchHandler :=
  { handler with dispatcher }

/-! ### Swipe against scale -/

def swipeVsScaleTouch (handler : TouchHandler) (e : MotionEvent) : TouchHandler :=
  if !settings.swipeVsScaleEnabled then handler
  else
    match e.action, e.others with
    | .down, _ | .cancel, _ | .up, _ | .pointerUp, _ =>
      { handler with
        swipeVsScale.detecting := false
        swipeVsScale.scaleDetected := false
        swipeVsScale.swipeDetected := false }
    | .pointerDown, [second] =>
      { handler with
        swipeVsScale.detecting := true
        swipeVsScale.f1Id := e.first.id
        swipeVsScale.f2Id := second.id
        swipeVsScale.f1Start := e.first.point
        swipeVsScale.f2Start := second.point
        swipeVsScale.f1Current := e.first.point
        swipeVsScale.f2Current := second.point }
    | .pointerDown, _ => { handler with swipeVsScale.detecting := false }
    | .move, _ =>
      if handler.swipeVsScale.detecting then
        match e.findPointer handler.swipeVsScale.f1Id, e.findPointer handler.swipeVsScale.f2Id with
        | some f1, some f2 =>
          { handler with swipeVsScale.f1Current := f1, swipeVsScale.f2Current := f2 }
        | _, _ => handler
      else handler
    | _, _ => handler

/-- The angle between the paths of the two fingers. -/
def pathAngle (swipeVsScale : SwipeVsScale) : ℚ :=
  |settings.theta swipeVsScale.f1Start swipeVsScale.f1Current -
    settings.theta swipeVsScale.f2Start swipeVsScale.f2Current|

def decideSwipeVsScale (handler : TouchHandler) : TouchHandler :=
  if !handler.swipeVsScale.detecting then handler
  else
    { handler with
      swipeVsScale.scaleDetected := decide (45 < pathAngle settings handler.swipeVsScale)
      swipeVsScale.swipeDetected := decide (pathAngle settings handler.swipeVsScale < 30) }

/-- The answers of `shouldScale` and `shouldSwipe` once `decide` has run. -/
def shouldScale (handler : TouchHandler) : Bool :=
  !settings.swipeVsScaleEnabled ||
    (handler.swipeVsScale.detecting && handler.swipeVsScale.scaleDetected)

def shouldSwipe (handler : TouchHandler) : Bool :=
  !settings.swipeVsScaleEnabled ||
    (handler.swipeVsScale.detecting && handler.swipeVsScale.swipeDetected)

def onScale (handler : TouchHandler) (scale : Scale) : TouchHandler :=
  let decided := handler.decideSwipeVsScale settings
  if decided.shouldScale settings then
    decided.dispatch (decided.dispatcher.onScale scale.scaleFactor scale.focusX scale.focusY)
  else decided

/-! ### Stylus -/

def takesStylusEvent (device : InputDevice) : Bool :=
  device.isStylus && device.toolType == .stylus

def onStylusScrollFrom (handler : TouchHandler) (e1 : MotionEvent) : TouchHandler :=
  if !handler.stylusScrolling then
    { handler with
      stylusScrolling := true
      dispatcher := handler.dispatcher.onStylusScroll e1.point }
  else handler

/-- `StylusGestureListener`. -/
def onStylusCall (handler : TouchHandler) (call : StylusCall) : TouchHandler :=
  match call with
  | .onDown => { handler with stylusScrolling := false }
  | .onSingleTapConfirmed e => handler.dispatch (handler.dispatcher.onStylusTap e.point)
  | .onDoubleTap e => handler.dispatch (handler.dispatcher.onStylusDoubleTap e.point)
  | .onLongPress e => handler.dispatch (handler.dispatcher.onStylusLongPress e.point)
  | .onScroll scroll =>
    match scroll.e1 with
    | some e1 =>
      if scroll.e2.buttonState &&& MotionEvent.buttonStylusPrimary = 0 then
        let begun := handler.onStylusScrollFrom e1
        begun.dispatch (begun.dispatcher.onStylusScroll scroll.e2.point)
      else handler
    | none => handler

def onStylusCalls (handler : TouchHandler) (calls : List StylusCall) : TouchHandler :=
  calls.foldl onStylusCall handler

/-! ### Mouse -/

def takesMouseEvent (device : InputDevice) : Bool :=
  decide (23 ≤ settings.sdkInt) && settings.mousePassthrough && device.isMouse

def convertButton (button : BitVec 32) : PointerButton :=
  if button = MotionEvent.buttonPrimary then .left
  else if button = MotionEvent.buttonSecondary then .right
  else if button = MotionEvent.buttonTertiary then .middle
  else .none

def onMouseAction (handler : TouchHandler) (e : MotionEvent) : TouchHandler :=
  match e.action with
  | .buttonPress =>
    handler.dispatch (handler.dispatcher.onMouseButtonDown (convertButton e.actionButton) e.point)
  | .buttonRelease =>
    handler.dispatch (handler.dispatcher.onMouseButtonUp (convertButton e.actionButton) e.point)
  | .move => handler.dispatch (handler.dispatcher.onMouseMove e.point)
  | .scroll => handler.dispatch (handler.dispatcher.onMouseScroll e.point e.hScroll e.vScroll)
  | _ => handler

/-- Whether the event is handled as well says the second component. -/
def handleMouseEvent (handler : TouchHandler) (e : MotionEvent) : TouchHandler × Bool :=
  if takesMouseEvent settings e.device then
    (handler.onMouseAction e, !(e.buttonState == 0 && e.device.toolType != .mouse))
  else (handler, false)

/-! ### Fingers -/

/-- `FingerGestureListener.onScroll`. -/
def onFingerScroll (handler : TouchHandler) (e1 e2 : MotionEvent) (dx dy : ℚ) : TouchHandler :=
  if e2.pointerCount = 1 then
    handler.dispatch (handler.dispatcher.onSwipe1 e1.point e2.point
      (dx * settings.swipeSensitivity) (dy * settings.swipeSensitivity))
  else if e2.pointerCount = 2 then
    let decided := handler.decideSwipeVsScale settings
    if decided.shouldSwipe settings then
      decided.dispatch (decided.dispatcher.onSwipe2 e1.point e2.point
        (dx * settings.swipeSensitivity) (dy * settings.swipeSensitivity))
    else decided
  else handler

def callOnScroll (handler : TouchHandler) (e1 e2 : MotionEvent) (dx dy : ℚ) : TouchHandler :=
  if handler.gestureDetector.doubleTapDetected then
    handler.dispatch (handler.dispatcher.onDoubleTapSwipe e1.point e2.point dx dy)
  else if handler.gestureDetector.longPressDetected then
    handler.dispatch (handler.dispatcher.onLongPressSwipe e1.point e2.point dx dy)
  else handler.onFingerScroll settings e1 e2 dx dy

def beginScroll (handler : TouchHandler) (e1 : MotionEvent) : TouchHandler :=
  if !handler.gestureDetector.scrolling then
    { handler with gestureDetector.scrolling := true }.callOnScroll settings e1 e1 0 0
  else handler

def handleScroll (handler : TouchHandler) (scroll : Scroll) : TouchHandler :=
  match scroll.e1 with
  | some e1 =>
    (handler.beginScroll settings e1).callOnScroll settings e1 scroll.e2 (-scroll.distanceX)
      (-scroll.distanceY)
  | none => handler

/-- `InnerListener1`. -/
def onTapCall (handler : TouchHandler) (call : TapCall) : TouchHandler :=
  match call with
  | .onSingleTapConfirmed e => handler.dispatch (handler.dispatcher.onTap1 e.point)
  | .onLongPress e =>
    if handler.gestureDetector.doubleTapDetected then handler
    else
      { handler with
        gestureDetector.longPressDetected := true
        dispatcher :=
          if !settings.longPressSwipeEnabled then handler.dispatcher.onLongPress e.point
          else handler.dispatcher }

/-- `InnerListener2`. -/
def onDoubleTapCall (handler : TouchHandler) (call : DoubleTapCall) : TouchHandler :=
  match call with
  | .onDoubleTap => { handler with gestureDetector.doubleTapDetected := true }
  | .onDoubleTapEvent scrolls => scrolls.foldl (handleScroll settings) handler
  | .onScroll scroll => handler.handleScroll settings scroll

def confirmLongPress (handler : TouchHandler) (downEvent : MotionEvent) : TouchHandler :=
  if handler.gestureDetector.longPressDetected ∧ !handler.gestureDetector.doubleTapDetected ∧
      !handler.gestureDetector.scrolling ∧ handler.gestureDetector.maxFingerDown ≤ 1 ∧
      settings.longPressSwipeEnabled then
    handler.dispatch (handler.dispatcher.onLongPress downEvent.point)
  else handler

def confirmDoubleTap (handler : TouchHandler) (downEvent : MotionEvent) : TouchHandler :=
  if handler.gestureDetector.doubleTapDetected ∧ !handler.gestureDetector.longPressDetected ∧
      !handler.gestureDetector.scrolling ∧ handler.gestureDetector.maxFingerDown ≤ 1 then
    handler.dispatch (handler.dispatcher.onDoubleTap downEvent.point)
  else handler

/-- Of the taps by several fingers, the one by two is dispatched. -/
def confirmMultiFingerTap (handler : TouchHandler) (e downEvent : MotionEvent) : TouchHandler :=
  if 1 < handler.gestureDetector.maxFingerDown ∧ !handler.gestureDetector.scrolling ∧
      e.eventTime - downEvent.eventTime < settings.doubleTapTimeout ∧
      handler.gestureDetector.maxFingerDown = 2 then
    handler.dispatch (handler.dispatcher.onTap2 downEvent.point)
  else handler

def confirmTaps (handler : TouchHandler) (e : MotionEvent) : TouchHandler :=
  match handler.gestureDetector.currentDownEvent with
  | some downEvent =>
    ((handler.confirmLongPress settings downEvent).confirmDoubleTap
      downEvent).confirmMultiFingerTap settings e downEvent
  | none => handler

def resetGestureDetector (handler : TouchHandler) : TouchHandler :=
  { handler with gestureDetector := {} }

/-- The rest of `GestureDetectorEx.onTouchEvent`, once the inner detectors have reported. -/
def gestureDetectorAction (handler : TouchHandler) (e : MotionEvent) : TouchHandler :=
  match e.action with
  | .down =>
    { handler with
      gestureDetector.maxFingerDown := 1
      gestureDetector.currentDownEvent := some e }
  | .pointerDown =>
    { handler with
      gestureDetector.maxFingerDown := max handler.gestureDetector.maxFingerDown e.pointerCount }
  | .up => (handler.confirmTaps settings e).resetGestureDetector
  | .cancel => handler.resetGestureDetector
  | _ => handler

def handleGestureEvent (handler : TouchHandler) (event : MotionEvent) (calls : Detected) :
    TouchHandler :=
  let scaled := calls.scales.foldl (onScale settings) (handler.swipeVsScaleTouch settings event)
  let tapped := calls.taps.foldl (onTapCall settings) scaled
  (calls.doubleTaps.foldl (onDoubleTapCall settings) tapped).gestureDetectorAction settings event

/-! ### Event receivers -/

def handleGestureStartStop (handler : TouchHandler) (event : MotionEvent) : TouchHandler :=
  match event.action with
  | .down => handler.dispatch handler.dispatcher.onGestureStart
  | .up | .cancel => handler.dispatch (handler.dispatcher.onGestureStop event.point)
  | _ => handler

/-- The handler that takes a touch event: the stylus', the mouse's, or the gestures'. -/
def handleEvent (handler : TouchHandler) (event : MotionEvent) (calls : Detected) :
    TouchHandler × Bool :=
  if takesStylusEvent event.device then (handler.onStylusCalls calls.stylus, true)
  else
    let mouse := handler.handleMouseEvent settings event
    if mouse.2 then mouse else (mouse.1.handleGestureEvent settings event calls, true)

def onTouchEvent (handler : TouchHandler) (event : MotionEvent) (calls : Detected) :
    TouchHandler × Bool :=
  let handled := handler.handleEvent settings event calls
  (handled.1.handleGestureStartStop event, handled.2)

def onHoverEvent (handler : TouchHandler) (event : MotionEvent) : TouchHandler × Bool :=
  if event.action = .hoverMove then
    ({ handler with
        lastHoverPoint := event.point
        dispatcher := handler.dispatcher.onMouseMove event.point }, true)
  else (handler, false)

def onGenericMotionEvent (handler : TouchHandler) (event : MotionEvent) (calls : List StylusCall) :
    TouchHandler × Bool :=
  if event.action = .hoverMove then handler.onHoverEvent event
  else if takesStylusEvent event.device then (handler.onStylusCalls calls, true)
  else handler.handleMouseEvent settings event

def onMouseBack (handler : TouchHandler) : TouchHandler :=
  handler.dispatch (handler.dispatcher.onMouseBack handler.lastHoverPoint)

/-! ### What events do to the buttons -/

open BitMask Dispatcher

variable {settings} {handler : TouchHandler}

theorem still_foldl {Call : Type} {step : TouchHandler → Call → TouchHandler} {calls : List Call}
    (each : ∀ current, ∀ call ∈ calls, Still current.dispatcher (step current call).dispatcher) :
    Still handler.dispatcher (calls.foldl step handler).dispatcher :=
  List.foldlRecOn calls step (motive := fun current => Still handler.dispatcher current.dispatcher)
    (.refl _) fun current still call member => still.trans (each current call member)

theorem received_foldl {Call : Type} {step : TouchHandler → Call → TouchHandler}
    {calls : List Call}
    (each : ∀ current call, Received current.dispatcher (step current call).dispatcher) :
    Received handler.dispatcher (calls.foldl step handler).dispatcher :=
  List.foldlRecOn calls step
    (motive := fun current => Received handler.dispatcher current.dispatcher) (.refl _)
    fun current received call _ => received.trans (each current call)

theorem still_onStylusCall {call : StylusCall} (tap : call.isScroll = false) :
    Still handler.dispatcher (handler.onStylusCall call).dispatcher := by
  cases call with
  | onDown => exact .refl _
  | onSingleTapConfirmed e => exact still_doClick _ .direct .left e.point
  | onDoubleTap e => exact still_doDoubleClick _ .direct .left e.point
  | onLongPress e => exact still_doClick _ .direct .right e.point
  | onScroll scroll => cases tap

theorem received_onStylusScrollFrom (e1 : MotionEvent) :
    Received handler.dispatcher (handler.onStylusScrollFrom e1).dispatcher := by
  unfold onStylusScrollFrom
  split
  · exact received _ (.onStylusScroll e1.point)
  · exact .refl _

theorem received_onStylusCall (call : StylusCall) :
    Received handler.dispatcher (handler.onStylusCall call).dispatcher := by
  cases call with
  | onDown => exact .refl _
  | onSingleTapConfirmed e => exact received _ (.onStylusTap e.point)
  | onDoubleTap e => exact received _ (.onStylusDoubleTap e.point)
  | onLongPress e => exact received _ (.onStylusLongPress e.point)
  | onScroll scroll =>
    unfold onStylusCall
    dsimp only
    split
    · split
      · exact (received_onStylusScrollFrom _).trans (received _ (.onStylusScroll scroll.e2.point))
      · exact .refl _
    · exact .refl _

theorem still_onStylusCalls {calls : List StylusCall}
    (taps : calls.any StylusCall.isScroll = false) :
    Still handler.dispatcher (handler.onStylusCalls calls).dispatcher :=
  still_foldl fun _ call member => still_onStylusCall
    (Bool.eq_false_iff.mpr (List.any_eq_false.mp taps call member))

theorem received_onMouseAction (e : MotionEvent) :
    Received handler.dispatcher (handler.onMouseAction e).dispatcher := by
  unfold onMouseAction
  split
  · exact received _ (.onMouseButtonDown _ e.point)
  · exact received _ (.onMouseButtonUp _ e.point)
  · exact received _ (.onMouseMove e.point)
  · exact received _ (.onMouseScroll e.point e.hScroll e.vScroll)
  · exact .refl _

/-- A mouse event that presses and releases no button. -/
theorem still_onMouseAction {e : MotionEvent} (press : e.action ≠ .buttonPress)
    (release : e.action ≠ .buttonRelease) :
    Still handler.dispatcher (handler.onMouseAction e).dispatcher := by
  unfold onMouseAction
  split
  · rename_i pressed
    exact absurd pressed press
  · rename_i released
    exact absurd released release
  · exact still_onMouseMove _ e.point
  · exact still_onMouseScroll _ e.point e.hScroll e.vScroll
  · exact .refl _

theorem received_decideSwipeVsScale :
    Received handler.dispatcher (handler.decideSwipeVsScale settings).dispatcher := by
  unfold decideSwipeVsScale
  split <;> exact .refl _

@[simp] theorem swipeVsScaleTouch_dispatcher (e : MotionEvent) :
    (handler.swipeVsScaleTouch settings e).dispatcher = handler.dispatcher := by
  unfold swipeVsScaleTouch
  repeat' split
  all_goals rfl

theorem received_onScale (scale : Scale) :
    Received handler.dispatcher (handler.onScale settings scale).dispatcher := by
  unfold onScale
  dsimp only
  split
  · exact received_decideSwipeVsScale.trans
      (received _ (.onScale scale.scaleFactor scale.focusX scale.focusY))
  · exact received_decideSwipeVsScale

theorem received_onFingerScroll (e1 e2 : MotionEvent) (dx dy : ℚ) :
    Received handler.dispatcher (handler.onFingerScroll settings e1 e2 dx dy).dispatcher := by
  unfold onFingerScroll
  dsimp only
  split
  · exact received _ (.onSwipe1 e1.point e2.point _ _)
  · split
    · split
      · exact received_decideSwipeVsScale.trans (received _ (.onSwipe2 e1.point e2.point _ _))
      · exact received_decideSwipeVsScale
    · exact .refl _

theorem received_callOnScroll (handler : TouchHandler) (e1 e2 : MotionEvent) (dx dy : ℚ) :
    Received handler.dispatcher (handler.callOnScroll settings e1 e2 dx dy).dispatcher := by
  unfold callOnScroll
  split
  · exact received _ (.onDoubleTapSwipe e1.point e2.point dx dy)
  · split
    · exact received _ (.onLongPressSwipe e1.point e2.point dx dy)
    · exact received_onFingerScroll e1 e2 dx dy

theorem received_handleScroll (scroll : Scroll) :
    Received handler.dispatcher (handler.handleScroll settings scroll).dispatcher := by
  unfold handleScroll
  split
  · rename_i e1 _
    have begun : Received handler.dispatcher (handler.beginScroll settings e1).dispatcher := by
      unfold beginScroll
      split
      · exact received_callOnScroll { handler with gestureDetector.scrolling := true } e1 e1 0 0
      · exact .refl _
    exact begun.trans (received_callOnScroll _ e1 scroll.e2 _ _)
  · exact .refl _

theorem still_onTapCall (call : TapCall) :
    Still handler.dispatcher (handler.onTapCall settings call).dispatcher := by
  cases call with
  | onSingleTapConfirmed e => exact still_pointAction _ _ e.point
  | onLongPress e =>
    unfold onTapCall
    dsimp only
    split
    · exact .refl _
    · dsimp only
      split
      · exact still_pointAction _ _ e.point
      · exact .refl _

theorem still_onDoubleTapCall {call : DoubleTapCall} (tap : call.isScroll = false) :
    Still handler.dispatcher (handler.onDoubleTapCall settings call).dispatcher := by
  cases call with
  | onDoubleTap => exact .refl _
  | onDoubleTapEvent scrolls =>
    cases scrolls with
    | nil => exact .refl _
    | cons => cases tap
  | onScroll scroll => cases tap

theorem received_onTapCall (call : TapCall) :
    Received handler.dispatcher (handler.onTapCall settings call).dispatcher := by
  cases call with
  | onSingleTapConfirmed e => exact received _ (.onTap1 e.point)
  | onLongPress e =>
    unfold onTapCall
    dsimp only
    split
    · exact .refl _
    · dsimp only
      split
      · exact received _ (.onLongPress e.point)
      · exact .refl _

theorem received_onDoubleTapCall (call : DoubleTapCall) :
    Received handler.dispatcher (handler.onDoubleTapCall settings call).dispatcher := by
  cases call with
  | onDoubleTap => exact .refl _
  | onDoubleTapEvent scrolls => exact received_foldl fun _ scroll => received_handleScroll scroll
  | onScroll scroll => exact received_handleScroll scroll

theorem received_confirmTaps (e : MotionEvent) :
    Received handler.dispatcher (handler.confirmTaps settings e).dispatcher := by
  unfold confirmTaps
  split
  · rename_i downEvent _
    have longPress : Received handler.dispatcher
        (handler.confirmLongPress settings downEvent).dispatcher := by
      unfold confirmLongPress
      split
      · exact received _ (.onLongPress downEvent.point)
      · exact .refl _
    have doubleTap : Received (handler.confirmLongPress settings downEvent).dispatcher
        ((handler.confirmLongPress settings downEvent).confirmDoubleTap downEvent).dispatcher := by
      unfold confirmDoubleTap
      split
      · exact received _ (.onDoubleTap downEvent.point)
      · exact .refl _
    refine (longPress.trans doubleTap).trans ?_
    unfold confirmMultiFingerTap
    split
    · exact received _ (.onTap2 downEvent.point)
    · exact .refl _
  · exact .refl _

theorem received_gestureDetectorAction (e : MotionEvent) :
    Received handler.dispatcher (handler.gestureDetectorAction settings e).dispatcher := by
  unfold gestureDetectorAction
  split
  · exact .refl _
  · exact .refl _
  · exact received_confirmTaps e
  · exact .refl _
  · exact .refl _

theorem still_confirmTaps (e : MotionEvent) :
    Still handler.dispatcher (handler.confirmTaps settings e).dispatcher := by
  unfold confirmTaps
  split
  · rename_i downEvent _
    have longPress : Still handler.dispatcher
        (handler.confirmLongPress settings downEvent).dispatcher := by
      unfold confirmLongPress
      split
      · exact still_pointAction _ _ _
      · exact .refl _
    have doubleTap : Still (handler.confirmLongPress settings downEvent).dispatcher
        ((handler.confirmLongPress settings downEvent).confirmDoubleTap downEvent).dispatcher := by
      unfold confirmDoubleTap
      split
      · exact still_pointAction _ _ _
      · exact .refl _
    refine (longPress.trans doubleTap).trans ?_
    unfold confirmMultiFingerTap
    split
    · exact still_pointAction _ _ _
    · exact .refl _
  · exact .refl _

theorem still_gestureDetectorAction (e : MotionEvent) :
    Still handler.dispatcher (handler.gestureDetectorAction settings e).dispatcher := by
  unfold gestureDetectorAction
  split
  · exact .refl _
  · exact .refl _
  · exact still_confirmTaps e
  · exact .refl _
  · exact .refl _

theorem still_swipeVsScaleTouch (e : MotionEvent) :
    Still handler.dispatcher (handler.swipeVsScaleTouch settings e).dispatcher := by
  rw [swipeVsScaleTouch_dispatcher]
  exact .refl _

theorem still_handleGestureEvent {event : MotionEvent} {calls : Detected}
    (tap : calls.isMovement = false) :
    Still handler.dispatcher (handler.handleGestureEvent settings event calls).dispatcher := by
  obtain ⟨before, noScroll⟩ := Bool.or_eq_false_iff.mp tap
  have unscaled : calls.scales = [] := by simpa using (Bool.or_eq_false_iff.mp before).2
  have tapped (current : TouchHandler) :
      Still current.dispatcher (calls.taps.foldl (onTapCall settings) current).dispatcher :=
    still_foldl fun _ call _ => still_onTapCall call
  have doubleTapped (current : TouchHandler) : Still current.dispatcher
      (calls.doubleTaps.foldl (onDoubleTapCall settings) current).dispatcher :=
    still_foldl fun _ call member => still_onDoubleTapCall
      (Bool.eq_false_iff.mpr (List.any_eq_false.mp noScroll call member))
  unfold handleGestureEvent
  rw [unscaled]
  exact (((still_swipeVsScaleTouch event).trans (tapped _)).trans (doubleTapped _)).trans
    (still_gestureDetectorAction event)

theorem received_handleGestureEvent (event : MotionEvent) (calls : Detected) :
    Received handler.dispatcher (handler.handleGestureEvent settings event calls).dispatcher := by
  have touched : Received handler.dispatcher
      (handler.swipeVsScaleTouch settings event).dispatcher := by
    rw [swipeVsScaleTouch_dispatcher]
    exact .refl _
  have scaled (current : TouchHandler) :
      Received current.dispatcher (calls.scales.foldl (onScale settings) current).dispatcher :=
    received_foldl fun _ scale => received_onScale scale
  have tapped (current : TouchHandler) :
      Received current.dispatcher (calls.taps.foldl (onTapCall settings) current).dispatcher :=
    received_foldl fun _ call => received_onTapCall call
  have doubleTapped (current : TouchHandler) : Received current.dispatcher
      (calls.doubleTaps.foldl (onDoubleTapCall settings) current).dispatcher :=
    received_foldl fun _ call => received_onDoubleTapCall call
  exact (((touched.trans (scaled _)).trans (tapped _)).trans (doubleTapped _)).trans
    (received_gestureDetectorAction event)

/-- Whether the buttons of a device go to the server. -/
def passesButtons (settings : TouchSettings) (device : InputDevice) : Bool :=
  !takesStylusEvent device && takesMouseEvent settings device

/-- The handler once the mouse's handler has seen the event, if it is for it. -/
def afterMouse (settings : TouchSettings) (handler : TouchHandler) (event : MotionEvent) :
    TouchHandler :=
  if passesButtons settings event.device then handler.onMouseAction event else handler

theorem afterMouse_of_stylus {event : MotionEvent} (stylus : takesStylusEvent event.device = true) :
    handler.afterMouse settings event = handler := by
  rw [afterMouse, passesButtons, stylus]
  rfl

theorem handleMouseEvent_eq {event : MotionEvent}
    (other : takesStylusEvent event.device ≠ true) :
    (handler.handleMouseEvent settings event).1 = handler.afterMouse settings event := by
  rw [afterMouse, passesButtons, Bool.eq_false_iff.mpr other, handleMouseEvent, Bool.not_false,
    Bool.true_and]
  split <;> rfl

theorem received_afterMouse (event : MotionEvent) :
    Received handler.dispatcher (handler.afterMouse settings event).dispatcher := by
  unfold afterMouse
  split
  · exact received_onMouseAction event
  · exact .refl _

/-- Beyond what the mouse's handler does, an event without movement is still. -/
theorem still_handleEvent {event : MotionEvent} {calls : Detected}
    (tap : calls.isMovement = false) :
    Still (handler.afterMouse settings event).dispatcher
      (handler.handleEvent settings event calls).1.dispatcher := by
  unfold handleEvent
  dsimp only
  split
  · rename_i stylus
    rw [afterMouse_of_stylus stylus]
    exact still_onStylusCalls (Bool.or_eq_false_iff.mp (Bool.or_eq_false_iff.mp tap).1).1
  · rename_i other
    rw [← handleMouseEvent_eq other]
    split
    · exact .refl _
    · exact still_handleGestureEvent tap

theorem received_handleEvent (event : MotionEvent) (calls : Detected) :
    Received handler.dispatcher (handler.handleEvent settings event calls).1.dispatcher := by
  unfold handleEvent
  dsimp only
  split
  · exact received_foldl fun _ call => received_onStylusCall call
  · rename_i other
    have mouse : Received handler.dispatcher (handler.afterMouse settings event).dispatcher :=
      received_afterMouse event
    rw [← handleMouseEvent_eq other] at mouse
    split
    · exact mouse
    · exact mouse.trans (received_handleGestureEvent event calls)

theorem received_onHoverEvent (event : MotionEvent) :
    Received handler.dispatcher (handler.onHoverEvent event).1.dispatcher := by
  unfold onHoverEvent
  split
  · exact received _ (.onMouseMove event.point)
  · exact .refl _

theorem received_onGenericMotionEvent (event : MotionEvent) (calls : List StylusCall) :
    Received handler.dispatcher
      (handler.onGenericMotionEvent settings event calls).1.dispatcher := by
  unfold onGenericMotionEvent
  split
  · exact received_onHoverEvent event
  · split
    · exact received_foldl fun _ call => received_onStylusCall call
    · next other =>
      rw [handleMouseEvent_eq other]
      exact received_afterMouse event

/-- Beyond what the mouse's handler does, an event that is not a touch is still without scrolls. -/
theorem still_onGenericMotionEvent {event : MotionEvent} {calls : List StylusCall}
    (taps : calls.any StylusCall.isScroll = false) :
    Still (handler.afterMouse settings event).dispatcher
      (handler.onGenericMotionEvent settings event calls).1.dispatcher := by
  unfold onGenericMotionEvent
  split
  · rename_i hover
    have untouched : (handler.afterMouse settings event) = handler := by
      rw [afterMouse, onMouseAction, hover, ite_self]
    rw [untouched, onHoverEvent, if_pos hover]
    exact still_onMouseMove _ event.point
  · split
    · rename_i stylus
      rw [afterMouse_of_stylus stylus]
      exact still_onStylusCalls taps
    · rename_i other
      rw [← handleMouseEvent_eq other]
      exact .refl _

/-- The bits of a button of a device, as far as they go to the server. -/
def buttonMask (settings : TouchSettings) (device : InputDevice) (actionButton : BitVec 32) :
    ButtonMask :=
  if passesButtons settings device then (convertButton actionButton).bitMask else 0

theorem still_afterMouse {event : MotionEvent} (press : event.action ≠ .buttonPress)
    (release : event.action ≠ .buttonRelease) :
    Still handler.dispatcher (handler.afterMouse settings event).dispatcher := by
  unfold afterMouse
  split
  · exact still_onMouseAction press release
  · exact .refl _

theorem within_afterMouse_press {event : MotionEvent} (press : event.action = .buttonPress) :
    Within (handler.afterMouse settings event).dispatcher.messenger.pointerButtonMask
      (handler.dispatcher.messenger.pointerButtonMask |||
        buttonMask settings event.device event.actionButton) := by
  unfold afterMouse buttonMask
  split
  · rw [onMouseAction, press]
    exact within_doButtonDown _ .direct _ event.point
  · rw [BitVec.ofNat_eq_ofNat, BitVec.or_zero]
    exact within_refl

theorem within_afterMouse_release {event : MotionEvent} (release : event.action = .buttonRelease) :
    Within (handler.afterMouse settings event).dispatcher.messenger.pointerButtonMask
      handler.dispatcher.messenger.pointerButtonMask := by
  unfold afterMouse
  split
  · rw [onMouseAction, release]
    exact within_doButtonUp _ .direct _ event.point
  · exact within_refl

/-- A button that goes up at a point inside the framebuffer loses its bits. -/
theorem within_afterMouse_release_of_mapped {event : MotionEvent}
    (release : event.action = .buttonRelease)
    (mapped : (handler.dispatcher.transformPoint .direct event.point).isSome) :
    Within (handler.afterMouse settings event).dispatcher.messenger.pointerButtonMask
      (handler.dispatcher.messenger.pointerButtonMask &&&
        ~~~buttonMask settings event.device event.actionButton) := by
  unfold afterMouse buttonMask
  split
  · rw [onMouseAction, release]
    exact (doButtonUp_mask _ mapped) ▸ within_refl
  · rw [BitVec.ofNat_eq_ofNat, BitVec.not_zero, BitVec.and_allOnes]
    exact within_refl

end TouchHandler

end TermPlux
