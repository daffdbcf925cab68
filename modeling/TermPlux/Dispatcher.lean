/-
This file models `Dispatcher`: the actions that the preferences select for each
gesture, and the two modes that say where an action happens. In direct mode it
happens under the finger, and not at all outside of the framebuffer; in relative
mode at a pointer position that swipes move.

What an action does to the pressed buttons comes in three strengths. A still
action leaves the frame alone and presses nothing for good, a quiet one may move
the frame, and any action keeps the server informed of the mask.
-/

import Mathlib.Algebra.Order.Archimedean.Basic
import Mathlib.Data.Rat.Floor
import TermPlux.Drain
import TermPlux.FrameState
import TermPlux.Messenger

namespace TermPlux

open BitMask

/-! ### Action configuration -/

/-- The part of a server profile that input handling reads. -/
structure Profile where
  gestureStyle : String
  fButtonUpDelay : Bool
  fZoomLocked : Bool

/-- The gesture preferences. -/
structure GesturePref where
  style : String
  tap1 : String := "left-click"
  tap2 : String
  doubleTap : String
  longPress : String
  swipe1 : String
  swipe2 : String
  doubleTapSwipe : String
  longPressSwipe : String
  swipeSensitivity : ℚ
  invertVerticalScrolling : Bool

def GesturePref.longPressSwipeEnabled (pref : GesturePref) : Bool := pref.longPressSwipe != "none"

/-- The input preferences. -/
structure InputPref where
  gesture : GesturePref
  mousePassthrough : Bool
  mouseBack : String

inductive PointAction
  | click (button : PointerButton)
  | doubleClick (button : PointerButton)
  | openKeyboard
  | nothing
  deriving DecidableEq

def selectPointAction (actionName : String) : PointAction :=
  match actionName with
  | "left-click" => .click .left
  | "double-click" => .doubleClick .left
  | "middle-click" => .click .middle
  | "right-click" => .click .right
  | "open-keyboard" => .openKeyboard
  | _ => .nothing

inductive SwipeAction
  | pan
  | movePointer
  | remoteScroll
  | remoteDrag (button : PointerButton)
  | nothing
  deriving DecidableEq

def selectSwipeAction (actionName : String) : SwipeAction :=
  match actionName with
  | "pan" => .pan
  | "move-pointer" => .movePointer
  | "remote-scroll" => .remoteScroll
  | "remote-drag" => .remoteDrag .left
  | "remote-drag-middle" => .remoteDrag .middle
  | _ => .nothing

inductive Mode
  | direct
  | relative
  deriving DecidableEq

structure Config where
  defaultMode : Mode
  tap1Action : PointAction
  tap2Action : PointAction
  doubleTapAction : PointAction
  longPressAction : PointAction
  swipe1Action : SwipeAction
  swipe2Action : SwipeAction
  doubleTapSwipeAction : SwipeAction
  longPressSwipeAction : SwipeAction
  mouseBackAction : PointAction
  deriving DecidableEq

def gestureStyle (profile : Profile) (pref : InputPref) : String :=
  if profile.gestureStyle = "auto" then pref.gesture.style else profile.gestureStyle

def Config.of (profile : Profile) (pref : InputPref) : Config where
  defaultMode := if gestureStyle profile pref = "touchscreen" then .direct else .relative
  tap1Action := selectPointAction pref.gesture.tap1
  tap2Action := selectPointAction pref.gesture.tap2
  doubleTapAction := selectPointAction pref.gesture.doubleTap
  longPressAction := selectPointAction pref.gesture.longPress
  swipe1Action := selectSwipeAction
    (if gestureStyle profile pref = "touchpad" then "move-pointer" else pref.gesture.swipe1)
  swipe2Action := selectSwipeAction pref.gesture.swipe2
  doubleTapSwipeAction := selectSwipeAction pref.gesture.doubleTapSwipe
  longPressSwipeAction := selectSwipeAction pref.gesture.longPressSwipe
  mouseBackAction := selectPointAction pref.mouseBack

/-! ### The state -/

/-- The scroll distance that a mode has not turned into clicks yet. -/
structure Accumulated where
  accumulatedDx : ℚ := 0
  accumulatedDy : ℚ := 0
  deriving DecidableEq

/-- The dispatcher with its two mode objects, the frame and the messenger. -/
structure Dispatcher where
  profile : Profile
  pref : InputPref
  config : Config
  directMode : Accumulated
  relativeMode : Accumulated
  pointerPosition : PointF
  frameState : FrameState
  messenger : Messenger

namespace Dispatcher

/-- The dispatcher of a new activity. -/
def create (profile : Profile) (pref : InputPref) (frameState : FrameState)
    (messenger : Messenger) : Dispatcher :=
  { profile, pref, frameState, messenger, config := .of profile pref, directMode := {}
    relativeMode := {}, pointerPosition := ⟨0, 0⟩ }

def onGestureStyleChanged (dispatcher : Dispatcher) : Dispatcher :=
  { dispatcher with config := .of dispatcher.profile dispatcher.pref }

/-! ### Actions at a point -/

/-- Where an action of the mode at `p` happens, if anywhere. -/
def transformPoint (dispatcher : Dispatcher) (mode : Mode) (p : PointF) : Option PointF :=
  match mode with
  | .direct => dispatcher.frameState.toFb p
  | .relative => some dispatcher.pointerPosition

def withMessenger (dispatcher : Dispatcher) (messenger : Messenger) : Dispatcher :=
  { dispatcher with messenger }

/-- Sends where an action of the mode at `p` happens, and nothing when it happens nowhere. -/
def sendAt (dispatcher : Dispatcher) (mode : Mode) (p : PointF)
    (send : Messenger → PointF → Messenger) : Dispatcher :=
  match dispatcher.transformPoint mode p with
  | some point => dispatcher.withMessenger (send dispatcher.messenger point)
  | none => dispatcher

def doButtonDown (dispatcher : Dispatcher) (mode : Mode) (button : PointerButton) (p : PointF) :
    Dispatcher :=
  dispatcher.sendAt mode p (·.sendPointerButtonDown button ·)

def doButtonUp (dispatcher : Dispatcher) (mode : Mode) (button : PointerButton) (p : PointF) :
    Dispatcher :=
  dispatcher.sendAt mode p (·.sendPointerButtonUp button ·)

def doButtonRelease (dispatcher : Dispatcher) (mode : Mode) (p : PointF) : Dispatcher :=
  dispatcher.sendAt mode p Messenger.sendPointerButtonRelease

/-- The delay between the two halves of a left click, where the profile asks for it. -/
def delayButtonUp (dispatcher : Dispatcher) (button : PointerButton) : Dispatcher :=
  if button = .left ∧ dispatcher.profile.fButtonUpDelay then
    dispatcher.withMessenger dispatcher.messenger.insertButtonUpDelay
  else dispatcher

def doClick (dispatcher : Dispatcher) (mode : Mode) (button : PointerButton) (p : PointF) :
    Dispatcher :=
  ((dispatcher.doButtonDown mode button p).delayButtonUp button).doButtonUp mode button p

def doDoubleClick (dispatcher : Dispatcher) (mode : Mode) (button : PointerButton) (p : PointF) :
    Dispatcher :=
  (dispatcher.doClick mode button p).doClick mode button p

/-! ### Scrolling -/

def deltaPerScroll : ℚ := 20

theorem deltaPerScroll_pos : 0 < deltaPerScroll := by decide

def yScrollDirection (dispatcher : Dispatcher) : ℚ :=
  if dispatcher.pref.gesture.invertVerticalScrolling then -1 else 1

def accumulated (dispatcher : Dispatcher) (mode : Mode) : Accumulated :=
  match mode with
  | .direct => dispatcher.directMode
  | .relative => dispatcher.relativeMode

def setAccumulated (dispatcher : Dispatcher) (mode : Mode) (accumulated : Accumulated) :
    Dispatcher :=
  match mode with
  | .direct => { dispatcher with directMode := accumulated }
  | .relative => { dispatcher with relativeMode := accumulated }

/-- Drains one axis by clicks of its two wheel buttons: what is left, and the dispatcher. -/
def drainClicks (dispatcher : Dispatcher) (mode : Mode) (above below : PointerButton)
    (focus : PointF) (accumulated : ℚ) : ℚ × Dispatcher :=
  drain deltaPerScroll_pos (·.doClick mode above focus) (·.doClick mode below focus) accumulated
    dispatcher

def doRemoteScroll (dispatcher : Dispatcher) (mode : Mode) (focus : PointF) (dx dy : ℚ) :
    Dispatcher :=
  let horizontal := dispatcher.drainClicks mode .wheelLeft .wheelRight focus
    ((dispatcher.accumulated mode).accumulatedDx + dx)
  let vertical := horizontal.2.drainClicks mode .wheelUp .wheelDown focus
    ((dispatcher.accumulated mode).accumulatedDy + dy * dispatcher.yScrollDirection)
  vertical.2.setAccumulated mode ⟨horizontal.1, vertical.1⟩

def doRemoteScrollFromMouse (dispatcher : Dispatcher) (mode : Mode) (p : PointF) (hs vs : ℚ) :
    Dispatcher :=
  dispatcher.doRemoteScroll mode p (hs * deltaPerScroll) (vs * deltaPerScroll)

/-! ### Moving and dragging -/

/-- `VncViewModel.panFrame`. -/
def panFrame (dispatcher : Dispatcher) (deltaX deltaY : ℚ) : Dispatcher :=
  { dispatcher with frameState := dispatcher.frameState.pan deltaX deltaY }

/-- `VncViewModel.updateZoom`. -/
def updateZoom (dispatcher : Dispatcher) (scaleFactor fx fy : ℚ) : Dispatcher :=
  if dispatcher.profile.fZoomLocked then dispatcher
  else
    let zoomed := dispatcher.frameState.updateZoom scaleFactor
    let dfx := (fx - zoomed.1.frameX) * (zoomed.2 - 1)
    let dfy := (fy - zoomed.1.frameY) * (zoomed.2 - 1)
    { dispatcher with frameState := zoomed.1.pan (-dfx) (-dfy) }

/-- The pointer position shifted inside the framebuffer. -/
def offsetPointer (dispatcher : Dispatcher) (dx dy : ℚ) : Dispatcher :=
  { dispatcher with
    pointerPosition :=
      ⟨coerceIn (dispatcher.pointerPosition.x + dx) 0 (dispatcher.frameState.fbWidth - 1),
        coerceIn (dispatcher.pointerPosition.y + dy) 0 (dispatcher.frameState.fbHeight - 1)⟩ }

/-- Pans the frame to keep the pointer centred on the screen. -/
def centerPointer (dispatcher : Dispatcher) : Dispatcher :=
  dispatcher.panFrame
    (dispatcher.frameState.safeArea.centerX -
      (dispatcher.frameState.toVP dispatcher.pointerPosition).x)
    (dispatcher.frameState.safeArea.centerY -
      (dispatcher.frameState.toVP dispatcher.pointerPosition).y)

def doMovePointer (dispatcher : Dispatcher) (mode : Mode) (p : PointF) (dx dy : ℚ) :
    Dispatcher :=
  match mode with
  | .direct => dispatcher.doButtonDown .direct .none p
  | .relative =>
    if dispatcher.frameState.fbWidth - 1 < 0 ∨ dispatcher.frameState.fbHeight - 1 < 0 then
      dispatcher
    else
      let moved := dispatcher.offsetPointer dx dy
      (moved.doButtonDown .relative .none moved.pointerPosition).centerPointer

def doRemoteDrag (dispatcher : Dispatcher) (mode : Mode) (button : PointerButton) (p : PointF)
    (dx dy : ℚ) : Dispatcher :=
  match mode with
  | .direct => dispatcher.doButtonDown .direct button p
  | .relative => (dispatcher.doButtonDown .relative button p).doMovePointer .relative p dx dy

def modeGestureStart (dispatcher : Dispatcher) (mode : Mode) : Dispatcher :=
  match mode with
  | .direct => dispatcher
  | .relative =>
    { dispatcher with
      pointerPosition :=
        ⟨dispatcher.messenger.client.pointerX, dispatcher.messenger.client.pointerY⟩
      messenger.client.ignorePointerMovesByServer := true }

def modeGestureStop (dispatcher : Dispatcher) (mode : Mode) (p : PointF) : Dispatcher :=
  match mode with
  | .direct => dispatcher.doButtonRelease .direct p
  | .relative =>
    let released := dispatcher.doButtonRelease .relative p
    { released with messenger.client.ignorePointerMovesByServer := false }

/-! ### Event receivers -/

/-- `showKeyboard` changes nothing here. -/
def pointAction (dispatcher : Dispatcher) (action : PointAction) (p : PointF) : Dispatcher :=
  match action with
  | .click button => dispatcher.doClick dispatcher.config.defaultMode button p
  | .doubleClick button => dispatcher.doDoubleClick dispatcher.config.defaultMode button p
  | .openKeyboard => dispatcher
  | .nothing => dispatcher

/-- A swipe from `sp` at `cp` that has moved by `dx` and `dy`. -/
def swipeAction (dispatcher : Dispatcher) (action : SwipeAction) (sp cp : PointF) (dx dy : ℚ) :
    Dispatcher :=
  match action with
  | .pan => dispatcher.panFrame dx dy
  | .movePointer => dispatcher.doMovePointer dispatcher.config.defaultMode cp dx dy
  | .remoteScroll => dispatcher.doRemoteScroll dispatcher.config.defaultMode sp dx dy
  | .remoteDrag button => dispatcher.doRemoteDrag dispatcher.config.defaultMode button cp dx dy
  | .nothing => dispatcher

def onGestureStart (dispatcher : Dispatcher) : Dispatcher :=
  dispatcher.modeGestureStart dispatcher.config.defaultMode

def onGestureStop (dispatcher : Dispatcher) (p : PointF) : Dispatcher :=
  dispatcher.modeGestureStop dispatcher.config.defaultMode p

def onTap1 (dispatcher : Dispatcher) (p : PointF) : Dispatcher :=
  dispatcher.pointAction dispatcher.config.tap1Action p

def onTap2 (dispatcher : Dispatcher) (p : PointF) : Dispatcher :=
  dispatcher.pointAction dispatcher.config.tap2Action p

def onDoubleTap (dispatcher : Dispatcher) (p : PointF) : Dispatcher :=
  dispatcher.pointAction dispatcher.config.doubleTapAction p

def onLongPress (dispatcher : Dispatcher) (p : PointF) : Dispatcher :=
  dispatcher.pointAction dispatcher.config.longPressAction p

def onSwipe1 (dispatcher : Dispatcher) (sp cp : PointF) (dx dy : ℚ) : Dispatcher :=
  dispatcher.swipeAction dispatcher.config.swipe1Action sp cp dx dy

def onSwipe2 (dispatcher : Dispatcher) (sp cp : PointF) (dx dy : ℚ) : Dispatcher :=
  dispatcher.swipeAction dispatcher.config.swipe2Action sp cp dx dy

def onDoubleTapSwipe (dispatcher : Dispatcher) (sp cp : PointF) (dx dy : ℚ) : Dispatcher :=
  dispatcher.swipeAction dispatcher.config.doubleTapSwipeAction sp cp dx dy

def onLongPressSwipe (dispatcher : Dispatcher) (sp cp : PointF) (dx dy : ℚ) : Dispatcher :=
  dispatcher.swipeAction dispatcher.config.longPressSwipeAction sp cp dx dy

def onScale (dispatcher : Dispatcher) (scaleFactor fx fy : ℚ) : Dispatcher :=
  dispatcher.updateZoom scaleFactor fx fy

def onMouseButtonDown (dispatcher : Dispatcher) (button : PointerButton) (p : PointF) :
    Dispatcher :=
  dispatcher.doButtonDown .direct button p

def onMouseButtonUp (dispatcher : Dispatcher) (button : PointerButton) (p : PointF) :
    Dispatcher :=
  dispatcher.doButtonUp .direct button p

def onMouseMove (dispatcher : Dispatcher) (p : PointF) : Dispatcher :=
  dispatcher.doMovePointer .direct p 0 0

def onMouseScroll (dispatcher : Dispatcher) (p : PointF) (hs vs : ℚ) : Dispatcher :=
  dispatcher.doRemoteScrollFromMouse .direct p hs vs

def onMouseBack (dispatcher : Dispatcher) (p : PointF) : Dispatcher :=
  dispatcher.pointAction dispatcher.config.mouseBackAction p

def onStylusTap (dispatcher : Dispatcher) (p : PointF) : Dispatcher :=
  dispatcher.doClick .direct .left p

def onStylusDoubleTap (dispatcher : Dispatcher) (p : PointF) : Dispatcher :=
  dispatcher.doDoubleClick .direct .left p

def onStylusLongPress (dispatcher : Dispatcher) (p : PointF) : Dispatcher :=
  dispatcher.doClick .direct .right p

def onStylusScroll (dispatcher : Dispatcher) (p : PointF) : Dispatcher :=
  dispatcher.doButtonDown .direct .left p

/-- The event receivers and what they are given. -/
inductive Receiver
  | onGestureStart
  | onGestureStop (p : PointF)
  | onTap1 (p : PointF)
  | onTap2 (p : PointF)
  | onDoubleTap (p : PointF)
  | onLongPress (p : PointF)
  | onSwipe1 (sp cp : PointF) (dx dy : ℚ)
  | onSwipe2 (sp cp : PointF) (dx dy : ℚ)
  | onDoubleTapSwipe (sp cp : PointF) (dx dy : ℚ)
  | onLongPressSwipe (sp cp : PointF) (dx dy : ℚ)
  | onScale (scaleFactor fx fy : ℚ)
  | onMouseButtonDown (button : PointerButton) (p : PointF)
  | onMouseButtonUp (button : PointerButton) (p : PointF)
  | onMouseMove (p : PointF)
  | onMouseScroll (p : PointF) (hs vs : ℚ)
  | onMouseBack (p : PointF)
  | onStylusTap (p : PointF)
  | onStylusDoubleTap (p : PointF)
  | onStylusLongPress (p : PointF)
  | onStylusScroll (p : PointF)

def receive (dispatcher : Dispatcher) : Receiver → Dispatcher
  | .onGestureStart => dispatcher.onGestureStart
  | .onGestureStop p => dispatcher.onGestureStop p
  | .onTap1 p => dispatcher.onTap1 p
  | .onTap2 p => dispatcher.onTap2 p
  | .onDoubleTap p => dispatcher.onDoubleTap p
  | .onLongPress p => dispatcher.onLongPress p
  | .onSwipe1 sp cp dx dy => dispatcher.onSwipe1 sp cp dx dy
  | .onSwipe2 sp cp dx dy => dispatcher.onSwipe2 sp cp dx dy
  | .onDoubleTapSwipe sp cp dx dy => dispatcher.onDoubleTapSwipe sp cp dx dy
  | .onLongPressSwipe sp cp dx dy => dispatcher.onLongPressSwipe sp cp dx dy
  | .onScale scaleFactor fx fy => dispatcher.onScale scaleFactor fx fy
  | .onMouseButtonDown button p => dispatcher.onMouseButtonDown button p
  | .onMouseButtonUp button p => dispatcher.onMouseButtonUp button p
  | .onMouseMove p => dispatcher.onMouseMove p
  | .onMouseScroll p hs vs => dispatcher.onMouseScroll p hs vs
  | .onMouseBack p => dispatcher.onMouseBack p
  | .onStylusTap p => dispatcher.onStylusTap p
  | .onStylusDoubleTap p => dispatcher.onStylusDoubleTap p
  | .onStylusLongPress p => dispatcher.onStylusLongPress p
  | .onStylusScroll p => dispatcher.onStylusScroll p

/-- What some receivers make of a dispatcher, one after another. -/
def Received (before after : Dispatcher) : Prop :=
  ∃ receivers : List Receiver, after = receivers.foldl receive before

/-! ### What actions do to the buttons -/

/-- The server stays informed of the mask. -/
def Informed (before after : Dispatcher) : Prop :=
  before.messenger.Synced → after.messenger.Synced

/-- Nothing is pressed for good. -/
structure Quiet (before after : Dispatcher) : Prop where
  informed : Informed before after
  mask : Within after.messenger.pointerButtonMask before.messenger.pointerButtonMask

/-- Nothing is pressed for good, and the frame stays where it is. -/
structure Still (before after : Dispatcher) : Prop extends Quiet before after where
  config : after.config = before.config
  frameState : after.frameState = before.frameState

variable {before middle after dispatcher : Dispatcher} {mode : Mode}

theorem Informed.trans (first : Informed before middle) (second : Informed middle after) :
    Informed before after := fun synced => second (first synced)

theorem Quiet.trans (first : Quiet before middle) (second : Quiet middle after) :
    Quiet before after := ⟨first.informed.trans second.informed, second.mask.trans first.mask⟩

theorem Still.refl (dispatcher : Dispatcher) : Still dispatcher dispatcher :=
  ⟨⟨id, within_refl⟩, rfl, rfl⟩

theorem Still.trans (first : Still before middle) (second : Still middle after) :
    Still before after :=
  ⟨first.toQuiet.trans second.toQuiet, second.config.trans first.config,
    second.frameState.trans first.frameState⟩

theorem Still.isSome_transformPoint (still : Still before after) (mode : Mode) (p : PointF) :
    (after.transformPoint mode p).isSome = (before.transformPoint mode p).isSome := by
  cases mode with
  | direct =>
    show (after.frameState.toFb p).isSome = _
    rw [still.frameState]
    rfl
  | relative => rfl

/-- Of the messenger at most its client changes. -/
theorem quiet_of_client {client : VncClient}
    (same : after.messenger = { before.messenger with client }) : Quiet before after := by
  refine ⟨fun synced => ?_, ?_⟩
  · rw [same]
    exact ⟨synced.running, synced.last⟩
  · rw [same]
    exact within_refl

theorem still_withMessenger {messenger : Messenger}
    (synced : dispatcher.messenger.Synced → messenger.Synced)
    (mask : Within messenger.pointerButtonMask dispatcher.messenger.pointerButtonMask) :
    Still dispatcher (dispatcher.withMessenger messenger) := ⟨⟨synced, mask⟩, rfl, rfl⟩

theorem sendAt_of_some {p point : PointF} (send : Messenger → PointF → Messenger)
    (mapped : dispatcher.transformPoint mode p = some point) :
    dispatcher.sendAt mode p send =
      dispatcher.withMessenger (send dispatcher.messenger point) := by
  rw [sendAt, mapped]

theorem sendAt_of_none {p : PointF} (send : Messenger → PointF → Messenger)
    (missed : dispatcher.transformPoint mode p = none) :
    dispatcher.sendAt mode p send = dispatcher := by
  rw [sendAt, missed]

@[simp] theorem sendAt_config (dispatcher : Dispatcher) (mode : Mode) (p : PointF)
    (send : Messenger → PointF → Messenger) :
    (dispatcher.sendAt mode p send).config = dispatcher.config := by
  unfold sendAt
  split <;> rfl

@[simp] theorem sendAt_frameState (dispatcher : Dispatcher) (mode : Mode) (p : PointF)
    (send : Messenger → PointF → Messenger) :
    (dispatcher.sendAt mode p send).frameState = dispatcher.frameState := by
  unfold sendAt
  split <;> rfl

theorem informed_sendAt (dispatcher : Dispatcher) (mode : Mode) (p : PointF)
    {send : Messenger → PointF → Messenger}
    (synced : ∀ point, dispatcher.messenger.Synced → (send dispatcher.messenger point).Synced) :
    Informed dispatcher (dispatcher.sendAt mode p send) := by
  unfold sendAt
  split
  · exact synced _
  · exact id

theorem informed_doButtonDown (dispatcher : Dispatcher) (mode : Mode) (button : PointerButton)
    (p : PointF) : Informed dispatcher (dispatcher.doButtonDown mode button p) :=
  dispatcher.informed_sendAt mode p fun _ synced => Messenger.synced_setPointerButtonMask synced _ _

theorem informed_doButtonUp (dispatcher : Dispatcher) (mode : Mode) (button : PointerButton)
    (p : PointF) : Informed dispatcher (dispatcher.doButtonUp mode button p) :=
  dispatcher.informed_sendAt mode p fun _ synced => Messenger.synced_setPointerButtonMask synced _ _

theorem doButtonUp_mask {p : PointF} (button : PointerButton)
    (mapped : (dispatcher.transformPoint mode p).isSome) :
    (dispatcher.doButtonUp mode button p).messenger.pointerButtonMask =
      dispatcher.messenger.pointerButtonMask &&& ~~~button.bitMask := by
  obtain ⟨point, somewhere⟩ := Option.isSome_iff_exists.mp mapped
  rw [doButtonUp, sendAt_of_some _ somewhere]
  exact Messenger.setPointerButtonMask_mask _ _ _

theorem within_doButtonDown (dispatcher : Dispatcher) (mode : Mode) (button : PointerButton)
    (p : PointF) :
    Within (dispatcher.doButtonDown mode button p).messenger.pointerButtonMask
      (dispatcher.messenger.pointerButtonMask ||| button.bitMask) := by
  cases mapped : dispatcher.transformPoint mode p with
  | none =>
    rw [doButtonDown, sendAt_of_none _ mapped, BitVec.or_comm]
    exact within_refl.or_left _
  | some point =>
    rw [doButtonDown, sendAt_of_some _ mapped]
    exact (Messenger.setPointerButtonMask_mask _ _ _).symm ▸ within_refl

theorem within_doButtonUp (dispatcher : Dispatcher) (mode : Mode) (button : PointerButton)
    (p : PointF) :
    Within (dispatcher.doButtonUp mode button p).messenger.pointerButtonMask
      dispatcher.messenger.pointerButtonMask := by
  cases mapped : dispatcher.transformPoint mode p with
  | none =>
    rw [doButtonUp, sendAt_of_none _ mapped]
    exact within_refl
  | some point =>
    rw [doButtonUp_mask button (Option.isSome_of_eq_some mapped)]
    exact (within_refl.or_left _).release

theorem still_sendAt {p : PointF} {send : Messenger → PointF → Messenger}
    (quiet : Quiet dispatcher (dispatcher.sendAt mode p send)) :
    Still dispatcher (dispatcher.sendAt mode p send) :=
  ⟨quiet, sendAt_config dispatcher mode p send, sendAt_frameState dispatcher mode p send⟩

/-- No button goes down. -/
theorem still_doButtonDown_none (dispatcher : Dispatcher) (mode : Mode) (p : PointF) :
    Still dispatcher (dispatcher.doButtonDown mode .none p) := by
  have mask := within_doButtonDown dispatcher mode .none p
  rw [PointerButton.bitMask, BitVec.ofNat_eq_ofNat, BitVec.or_zero] at mask
  exact still_sendAt ⟨informed_doButtonDown dispatcher mode .none p, mask⟩

theorem delayButtonUp_mask (dispatcher : Dispatcher) (button : PointerButton) :
    (dispatcher.delayButtonUp button).messenger.pointerButtonMask =
      dispatcher.messenger.pointerButtonMask := by
  unfold delayButtonUp
  split
  · exact Messenger.execute_mask _ _
  · rfl

theorem delayButtonUp_transformPoint (dispatcher : Dispatcher) (button : PointerButton)
    (p : PointF) : (dispatcher.delayButtonUp button).transformPoint mode p =
      dispatcher.transformPoint mode p := by
  unfold delayButtonUp
  split <;> cases mode <;> rfl

theorem still_delayButtonUp (dispatcher : Dispatcher) (button : PointerButton) :
    Still dispatcher (dispatcher.delayButtonUp button) := by
  unfold delayButtonUp
  split
  · exact still_withMessenger Messenger.synced_insertButtonUpDelay
      ((Messenger.execute_mask _ _).symm ▸ within_refl)
  · exact .refl dispatcher

/-- A click that happens somewhere sets the button and clears it. -/
theorem doClick_mask_of_some {p point : PointF} (button : PointerButton)
    (mapped : dispatcher.transformPoint mode p = some point) :
    (dispatcher.doClick mode button p).messenger.pointerButtonMask =
      (dispatcher.messenger.pointerButtonMask ||| button.bitMask) &&& ~~~button.bitMask := by
  have still : ((dispatcher.doButtonDown mode button p).delayButtonUp button).transformPoint
      mode p = some point := by
    rw [delayButtonUp_transformPoint, doButtonDown, sendAt_of_some _ mapped, ← mapped]
    cases mode <;> rfl
  rw [doClick, doButtonUp, sendAt_of_some _ still]
  show (Messenger.sendPointerButtonUp _ _ _).pointerButtonMask = _
  rw [Messenger.sendPointerButtonUp, Messenger.setPointerButtonMask_mask, delayButtonUp_mask,
    doButtonDown, sendAt_of_some _ mapped]
  exact congrArg (· &&& ~~~button.bitMask) (Messenger.setPointerButtonMask_mask _ _ _)

/-- A click that happens nowhere does nothing to the buttons. -/
theorem doClick_of_none {p : PointF} (button : PointerButton)
    (missed : dispatcher.transformPoint mode p = none) :
    dispatcher.doClick mode button p = dispatcher.delayButtonUp button := by
  have still : (dispatcher.delayButtonUp button).transformPoint mode p = none :=
    (delayButtonUp_transformPoint dispatcher button p).trans missed
  rw [doClick, doButtonDown, sendAt_of_none _ missed, doButtonUp, sendAt_of_none _ still]

theorem still_doClick (dispatcher : Dispatcher) (mode : Mode) (button : PointerButton)
    (p : PointF) : Still dispatcher (dispatcher.doClick mode button p) := by
  cases mapped : dispatcher.transformPoint mode p with
  | none =>
    rw [doClick_of_none button mapped]
    exact still_delayButtonUp dispatcher button
  | some point =>
    have delayed := still_delayButtonUp (dispatcher.doButtonDown mode button p) button
    refine ⟨⟨?_, ?_⟩, ?_, ?_⟩
    · exact ((informed_doButtonDown dispatcher mode button p).trans delayed.informed).trans
        (informed_doButtonUp _ mode button p)
    · rw [doClick_mask_of_some button mapped]
      exact within_click _ _
    · exact (sendAt_config _ _ _ _).trans (delayed.config.trans (sendAt_config _ _ _ _))
    · exact (sendAt_frameState _ _ _ _).trans
        (delayed.frameState.trans (sendAt_frameState _ _ _ _))

/-- A click of one button leaves the bits of the others as they are. -/
theorem doClick_getLsbD (dispatcher : Dispatcher) (mode : Mode) (button : PointerButton)
    (p : PointF) {index : Nat} (other : button.bitMask.getLsbD index = false) :
    (dispatcher.doClick mode button p).messenger.pointerButtonMask.getLsbD index =
      dispatcher.messenger.pointerButtonMask.getLsbD index := by
  cases mapped : dispatcher.transformPoint mode p with
  | none => rw [doClick_of_none button mapped, delayButtonUp_mask]
  | some point =>
    rw [doClick_mask_of_some button mapped, BitVec.getLsbD_and, BitVec.getLsbD_or,
      BitVec.getLsbD_not, other]
    by_cases small : index < 32
    · simp [small]
    · simp [BitVec.getLsbD_of_ge _ _ (Nat.le_of_not_lt small)]

theorem still_doDoubleClick (dispatcher : Dispatcher) (mode : Mode) (button : PointerButton)
    (p : PointF) : Still dispatcher (dispatcher.doDoubleClick mode button p) :=
  (still_doClick dispatcher mode button p).trans (still_doClick _ mode button p)

theorem still_drainClicks (dispatcher : Dispatcher) (mode : Mode) (above below : PointerButton)
    (focus : PointF) (accumulated : ℚ) :
    Still dispatcher (dispatcher.drainClicks mode above below focus accumulated).2 :=
  drain_keeps (Still dispatcher) (fun _ still => still.trans (still_doClick _ mode above focus))
    (fun _ still => still.trans (still_doClick _ mode below focus)) accumulated dispatcher
    (.refl dispatcher)

theorem still_setAccumulated (dispatcher : Dispatcher) (mode : Mode) (accumulated : Accumulated) :
    Still dispatcher (dispatcher.setAccumulated mode accumulated) := by
  cases mode <;> exact ⟨quiet_of_client rfl, rfl, rfl⟩

theorem still_doRemoteScroll (dispatcher : Dispatcher) (mode : Mode) (focus : PointF)
    (dx dy : ℚ) : Still dispatcher (dispatcher.doRemoteScroll mode focus dx dy) :=
  ((still_drainClicks dispatcher mode _ _ focus _).trans
    (still_drainClicks _ mode _ _ focus _)).trans (still_setAccumulated _ mode _)

theorem still_onMouseMove (dispatcher : Dispatcher) (p : PointF) :
    Still dispatcher (dispatcher.onMouseMove p) := still_doButtonDown_none dispatcher .direct p

theorem still_onMouseScroll (dispatcher : Dispatcher) (p : PointF) (hs vs : ℚ) :
    Still dispatcher (dispatcher.onMouseScroll p hs vs) :=
  still_doRemoteScroll dispatcher .direct p _ _

theorem still_pointAction (dispatcher : Dispatcher) (action : PointAction) (p : PointF) :
    Still dispatcher (dispatcher.pointAction action p) := by
  cases action with
  | click button => exact still_doClick dispatcher _ button p
  | doubleClick button => exact still_doDoubleClick dispatcher _ button p
  | openKeyboard => exact .refl dispatcher
  | nothing => exact .refl dispatcher

theorem quiet_updateZoom (dispatcher : Dispatcher) (scaleFactor fx fy : ℚ) :
    Quiet dispatcher (dispatcher.updateZoom scaleFactor fx fy) := by
  unfold updateZoom
  split
  · exact (Still.refl dispatcher).toQuiet
  · exact quiet_of_client rfl

theorem quiet_doMovePointer (dispatcher : Dispatcher) (mode : Mode) (p : PointF) (dx dy : ℚ) :
    Quiet dispatcher (dispatcher.doMovePointer mode p dx dy) := by
  cases mode with
  | direct => exact (still_doButtonDown_none dispatcher .direct p).toQuiet
  | relative =>
    unfold doMovePointer
    dsimp only
    split
    · exact (Still.refl dispatcher).toQuiet
    · have moved : Quiet dispatcher (dispatcher.offsetPointer dx dy) := quiet_of_client rfl
      have sent := moved.trans (still_doButtonDown_none _ .relative
        (dispatcher.offsetPointer dx dy).pointerPosition).toQuiet
      exact sent.trans (quiet_of_client rfl)

theorem informed_doRemoteDrag (dispatcher : Dispatcher) (mode : Mode) (button : PointerButton)
    (p : PointF) (dx dy : ℚ) :
    Informed dispatcher (dispatcher.doRemoteDrag mode button p dx dy) := by
  cases mode with
  | direct => exact informed_doButtonDown dispatcher .direct button p
  | relative =>
    exact (informed_doButtonDown dispatcher .relative button p).trans
      (quiet_doMovePointer _ .relative p dx dy).informed

theorem informed_swipeAction (dispatcher : Dispatcher) (action : SwipeAction) (sp cp : PointF)
    (dx dy : ℚ) : Informed dispatcher (dispatcher.swipeAction action sp cp dx dy) := by
  cases action with
  | pan => exact id
  | movePointer => exact (quiet_doMovePointer dispatcher _ cp dx dy).informed
  | remoteScroll => exact (still_doRemoteScroll dispatcher _ sp dx dy).informed
  | remoteDrag button => exact informed_doRemoteDrag dispatcher _ button cp dx dy
  | nothing => exact id

theorem quiet_onGestureStart (dispatcher : Dispatcher) :
    Quiet dispatcher dispatcher.onGestureStart := by
  unfold onGestureStart modeGestureStart
  split
  · exact (Still.refl dispatcher).toQuiet
  · exact quiet_of_client rfl

theorem doButtonRelease_mask {p : PointF} (mapped : (dispatcher.transformPoint mode p).isSome) :
    (dispatcher.doButtonRelease mode p).messenger.pointerButtonMask = 0 := by
  obtain ⟨point, somewhere⟩ := Option.isSome_iff_exists.mp mapped
  rw [doButtonRelease, sendAt_of_some _ somewhere]
  exact Messenger.sendPointerButtonRelease_mask _ _

theorem still_doButtonRelease (dispatcher : Dispatcher) (mode : Mode) (p : PointF) :
    Still dispatcher (dispatcher.doButtonRelease mode p) := by
  refine still_sendAt ⟨dispatcher.informed_sendAt mode p fun _ synced =>
    Messenger.synced_sendPointerButtonRelease synced _, ?_⟩
  cases mapped : dispatcher.transformPoint mode p with
  | none =>
    rw [sendAt_of_none _ mapped]
    exact within_refl
  | some point =>
    have released := doButtonRelease_mask (Option.isSome_of_eq_some mapped)
    rw [doButtonRelease] at released
    rw [released]
    exact within_zero

/-- A gesture stop releases every button where the default mode maps its point. -/
theorem onGestureStop_mask (dispatcher : Dispatcher) (p : PointF)
    (mapped : (dispatcher.transformPoint dispatcher.config.defaultMode p).isSome) :
    (dispatcher.onGestureStop p).messenger.pointerButtonMask = 0 := by
  unfold onGestureStop modeGestureStop
  split
  · rename_i direct
    exact doButtonRelease_mask (direct ▸ mapped)
  · exact doButtonRelease_mask rfl

theorem quiet_onGestureStop (dispatcher : Dispatcher) (p : PointF) :
    Quiet dispatcher (dispatcher.onGestureStop p) := by
  unfold onGestureStop modeGestureStop
  split
  · exact (still_doButtonRelease dispatcher .direct p).toQuiet
  · exact (still_doButtonRelease dispatcher .relative p).toQuiet.trans (quiet_of_client rfl)

/-! ### Receivers -/

theorem Received.refl (dispatcher : Dispatcher) : Received dispatcher dispatcher := ⟨[], rfl⟩

theorem Received.trans (first : Received before middle) (second : Received middle after) :
    Received before after := by
  obtain ⟨receivers, rfl⟩ := first
  obtain ⟨others, rfl⟩ := second
  exact ⟨receivers ++ others, (List.foldl_append ..).symm⟩

theorem received (dispatcher : Dispatcher) (receiver : Receiver) :
    Received dispatcher (dispatcher.receive receiver) := ⟨[receiver], rfl⟩

theorem informed_receive (dispatcher : Dispatcher) (receiver : Receiver) :
    Informed dispatcher (dispatcher.receive receiver) := by
  cases receiver with
  | onGestureStart => exact (quiet_onGestureStart dispatcher).informed
  | onGestureStop p => exact (quiet_onGestureStop dispatcher p).informed
  | onTap1 p | onTap2 p | onDoubleTap p | onLongPress p | onMouseBack p =>
    exact (still_pointAction dispatcher _ p).informed
  | onSwipe1 sp cp dx dy | onSwipe2 sp cp dx dy | onDoubleTapSwipe sp cp dx dy
  | onLongPressSwipe sp cp dx dy => exact informed_swipeAction dispatcher _ sp cp dx dy
  | onScale scaleFactor fx fy => exact (quiet_updateZoom dispatcher scaleFactor fx fy).informed
  | onMouseButtonDown button p => exact informed_doButtonDown dispatcher .direct button p
  | onMouseButtonUp button p => exact informed_doButtonUp dispatcher .direct button p
  | onMouseMove p => exact (still_onMouseMove dispatcher p).informed
  | onMouseScroll p hs vs => exact (still_onMouseScroll dispatcher p hs vs).informed
  | onStylusTap p => exact (still_doClick dispatcher .direct .left p).informed
  | onStylusDoubleTap p => exact (still_doDoubleClick dispatcher .direct .left p).informed
  | onStylusLongPress p => exact (still_doClick dispatcher .direct .right p).informed
  | onStylusScroll p => exact informed_doButtonDown dispatcher .direct .left p

/-- The server stays informed whatever is received. -/
theorem Received.informed (receives : Received before after) : Informed before after := by
  obtain ⟨receivers, rfl⟩ := receives
  exact List.foldlRecOn receivers receive (motive := fun current => Informed before current)
    (fun synced => synced) fun current informed receiver _ =>
      informed.trans (informed_receive current receiver)

end Dispatcher

end TermPlux
