/-
This file says which inputs bring a pointer outside of the framebuffer. Two
positions are remembered: that of the relative mode, and that of the client, which
the start of a gesture copies to it. Whatever the receivers do keeps both inside,
since what they send happens inside, and a swipe clamps the position it moves.

So a position gets outside just when the server moves the pointer there, or when
the framebuffer is resized around it.
-/

import TermPlux.PointerBounds

namespace TermPlux.PointerBounds

open Dispatcher

variable {dispatcher : Dispatcher} {fs : FrameState} {mode : Mode}

/-! ### Remembered positions -/

/-- Where the client has the pointer. -/
def clientPosition (messenger : Messenger) : PointF :=
  ⟨messenger.client.pointerX, messenger.client.pointerY⟩

/-- The framebuffer has the size of a frame, and both positions lie inside it. -/
structure Rests (fs : FrameState) (dispatcher : Dispatcher) : Prop where
  size : SameSize fs dispatcher.frameState
  mode : Covers fs dispatcher.pointerPosition
  client : Covers fs (clientPosition dispatcher.messenger)

/-- Both positions lie inside a framebuffer that is not empty. -/
def PositionsInside (dispatcher : Dispatcher) : Prop :=
  NonEmpty dispatcher.frameState → Rests dispatcher.frameState dispatcher

theorem covers_of_sameSize {first second : FrameState} (same : SameSize first second)
    {point : PointF} : Covers second point ↔ Covers first point := by
  unfold Covers
  rw [same.width, same.height]

theorem Covers.toInt {point : PointF} (covers : Covers fs point) :
    Covers fs ⟨toInt point.x, toInt point.y⟩ := by
  obtain ⟨⟨left, right⟩, top, bottom⟩ := covers
  obtain ⟨leftInt, rightInt⟩ := toInt_inside left right
  obtain ⟨topInt, bottomInt⟩ := toInt_inside top bottom
  exact ⟨⟨Int.cast_nonneg leftInt, rightInt⟩, Int.cast_nonneg topInt, bottomInt⟩

/-! ### What is sent -/

/-- What sends at a point leaves the client where it was, or brings it to the point. -/
def MovesClient (send : Messenger → PointF → Messenger) : Prop :=
  ∀ messenger point, clientPosition (send messenger point) = clientPosition messenger ∨
    clientPosition (send messenger point) = ⟨toInt point.x, toInt point.y⟩

@[simp] theorem clientPosition_execute (messenger : Messenger) (task : SenderTask) :
    clientPosition (messenger.execute task) = clientPosition messenger := by
  unfold Messenger.execute
  split <;> rfl

theorem clientPosition_setPointerButtonMask (messenger : Messenger) (mask : ButtonMask)
    (point : PointF) :
    clientPosition (messenger.setPointerButtonMask mask point) =
      ⟨toInt point.x, toInt point.y⟩ :=
  clientPosition_execute _ _

theorem movesClient_down (button : PointerButton) :
    MovesClient (·.sendPointerButtonDown button ·) :=
  fun messenger point => .inr (clientPosition_setPointerButtonMask messenger _ point)

theorem movesClient_up (button : PointerButton) : MovesClient (·.sendPointerButtonUp button ·) :=
  fun messenger point => .inr (clientPosition_setPointerButtonMask messenger _ point)

theorem movesClient_release : MovesClient Messenger.sendPointerButtonRelease := by
  intro messenger point
  unfold Messenger.sendPointerButtonRelease
  split
  · exact .inr (clientPosition_setPointerButtonMask messenger 0 point)
  · exact .inl rfl

/-- An action happens inside the framebuffer, or nowhere. -/
theorem Rests.covers_transformPoint (rests : Rests fs dispatcher) {p point : PointF}
    (happens : dispatcher.transformPoint mode p = some point) : Covers fs point := by
  cases mode with
  | direct => exact (covers_of_sameSize rests.size).mp (covers_of_toFb happens)
  | relative =>
    cases happens
    exact rests.mode

theorem Rests.sendAt (rests : Rests fs dispatcher) (mode : Mode) (p : PointF)
    {send : Messenger → PointF → Messenger} (moves : MovesClient send) :
    Rests fs (dispatcher.sendAt mode p send) := by
  unfold Dispatcher.sendAt
  split
  · next point happens =>
    refine ⟨rests.size, rests.mode, ?_⟩
    show Covers fs (clientPosition (send dispatcher.messenger point))
    rcases moves dispatcher.messenger point with stays | moved
    · rw [stays]
      exact rests.client
    · rw [moved]
      exact (rests.covers_transformPoint happens).toInt
  · exact rests

theorem Rests.doButtonDown (rests : Rests fs dispatcher) (mode : Mode) (button : PointerButton)
    (p : PointF) : Rests fs (dispatcher.doButtonDown mode button p) :=
  rests.sendAt mode p (movesClient_down button)

theorem Rests.doClick (rests : Rests fs dispatcher) (mode : Mode) (button : PointerButton)
    (p : PointF) : Rests fs (dispatcher.doClick mode button p) := by
  have down := rests.doButtonDown mode button p
  have delayed : Rests fs ((dispatcher.doButtonDown mode button p).delayButtonUp button) := by
    unfold delayButtonUp
    split
    · refine ⟨down.size, down.mode, ?_⟩
      show Covers fs (clientPosition (Messenger.execute _ _))
      rw [clientPosition_execute]
      exact down.client
    · exact down
  exact delayed.sendAt mode p (movesClient_up button)

theorem Rests.drainClicks (rests : Rests fs dispatcher) (mode : Mode)
    (above below : PointerButton) (focus : PointF) (accumulated : ℚ) :
    Rests fs (dispatcher.drainClicks mode above below focus accumulated).2 :=
  drain_keeps (Rests fs) (fun _ kept => kept.doClick mode above focus)
    (fun _ kept => kept.doClick mode below focus) accumulated dispatcher rests

theorem Rests.setAccumulated (rests : Rests fs dispatcher) (mode : Mode)
    (accumulated : Accumulated) : Rests fs (dispatcher.setAccumulated mode accumulated) := by
  cases mode <;> exact ⟨rests.size, rests.mode, rests.client⟩

theorem Rests.doRemoteScroll (rests : Rests fs dispatcher) (mode : Mode) (focus : PointF)
    (dx dy : ℚ) : Rests fs (dispatcher.doRemoteScroll mode focus dx dy) :=
  ((rests.drainClicks mode .wheelLeft .wheelRight focus _).drainClicks mode .wheelUp .wheelDown
    focus _).setAccumulated mode _

/-! ### What is moved -/

theorem Rests.panFrame (rests : Rests fs dispatcher) (dx dy : ℚ) :
    Rests fs (dispatcher.panFrame dx dy) :=
  ⟨⟨rests.size.width, rests.size.height⟩, rests.mode, rests.client⟩

theorem Rests.doMovePointer (rests : Rests fs dispatcher) (mode : Mode) (p : PointF)
    (dx dy : ℚ) : Rests fs (dispatcher.doMovePointer mode p dx dy) := by
  cases mode with
  | direct => exact rests.doButtonDown .direct .none p
  | relative =>
    unfold Dispatcher.doMovePointer
    dsimp only
    split
    · exact rests
    · next nonempty =>
      obtain ⟨width, height⟩ := not_or.mp nonempty
      have covers := covers_offsetPointer dispatcher dx dy (not_lt.mp width) (not_lt.mp height)
      have moved : Rests fs (dispatcher.offsetPointer dx dy) :=
        ⟨rests.size, (covers_of_sameSize rests.size).mp covers, rests.client⟩
      exact (moved.doButtonDown .relative .none _).panFrame _ _

theorem Rests.pointAction (rests : Rests fs dispatcher) (action : PointAction) (p : PointF) :
    Rests fs (dispatcher.pointAction action p) := by
  cases action with
  | click button => exact rests.doClick _ button p
  | doubleClick button => exact (rests.doClick _ button p).doClick _ button p
  | openKeyboard => exact rests
  | nothing => exact rests

theorem Rests.swipeAction (rests : Rests fs dispatcher) (action : SwipeAction)
    (sp cp : PointF) (dx dy : ℚ) : Rests fs (dispatcher.swipeAction action sp cp dx dy) := by
  cases action with
  | pan => exact rests.panFrame dx dy
  | movePointer => exact rests.doMovePointer _ cp dx dy
  | remoteScroll => exact rests.doRemoteScroll _ sp dx dy
  | remoteDrag button =>
    unfold Dispatcher.swipeAction Dispatcher.doRemoteDrag
    dsimp only
    split
    · exact rests.doButtonDown .direct button cp
    · exact (rests.doButtonDown .relative button cp).doMovePointer .relative cp dx dy
  | nothing => exact rests

/-- The start of a gesture copies the position of the client. -/
theorem Rests.onGestureStart (rests : Rests fs dispatcher) :
    Rests fs dispatcher.onGestureStart := by
  unfold Dispatcher.onGestureStart modeGestureStart
  split
  · exact rests
  · exact ⟨rests.size, rests.client, rests.client⟩

theorem Rests.onGestureStop (rests : Rests fs dispatcher) (p : PointF) :
    Rests fs (dispatcher.onGestureStop p) := by
  unfold Dispatcher.onGestureStop modeGestureStop
  split
  · exact rests.sendAt .direct p movesClient_release
  · have released := rests.sendAt .relative p movesClient_release
    exact ⟨released.size, released.mode, released.client⟩

theorem Rests.onScale (rests : Rests fs dispatcher) (scaleFactor fx fy : ℚ) :
    Rests fs (dispatcher.onScale scaleFactor fx fy) := by
  unfold Dispatcher.onScale updateZoom
  split
  · exact rests
  · refine ⟨?_, rests.mode, rests.client⟩
    unfold FrameState.updateZoom FrameState.setZoomScale
    split <;> exact ⟨rests.size.width, rests.size.height⟩

/-- Every receiver keeps both positions inside. -/
theorem Rests.receive (rests : Rests fs dispatcher) (receiver : Receiver) :
    Rests fs (dispatcher.receive receiver) := by
  cases receiver with
  | onGestureStart => exact rests.onGestureStart
  | onGestureStop p => exact rests.onGestureStop p
  | onTap1 p | onTap2 p | onDoubleTap p | onLongPress p | onMouseBack p =>
    exact rests.pointAction _ p
  | onSwipe1 sp cp dx dy | onSwipe2 sp cp dx dy | onDoubleTapSwipe sp cp dx dy
  | onLongPressSwipe sp cp dx dy => exact rests.swipeAction _ sp cp dx dy
  | onScale scaleFactor fx fy => exact rests.onScale scaleFactor fx fy
  | onMouseButtonDown button p => exact rests.doButtonDown .direct button p
  | onMouseButtonUp button p => exact rests.sendAt .direct p (movesClient_up button)
  | onMouseMove p => exact rests.doMovePointer .direct p 0 0
  | onMouseScroll p hs vs => exact rests.doRemoteScroll .direct p _ _
  | onStylusTap p => exact rests.doClick .direct .left p
  | onStylusDoubleTap p => exact (rests.doClick .direct .left p).doClick .direct .left p
  | onStylusLongPress p => exact rests.doClick .direct .right p
  | onStylusScroll p => exact rests.doButtonDown .direct .left p

/-! ### Which inputs bring a position outside -/

/-- The server moves the pointer into the framebuffer unless it is ignored, and a new size of the
framebuffer leaves both positions inside. -/
def KeepsPositions (dispatcher : Dispatcher) : PointerStep → Prop
  | .serverPointerMove x y =>
    dispatcher.messenger.client.ignorePointerMovesByServer = false →
      NonEmpty dispatcher.frameState → Covers dispatcher.frameState ⟨x, y⟩
  | .frame (.setFramebufferSize w h) =>
    0 < w ∧ 0 < h →
      ∀ point ∈ [dispatcher.pointerPosition, clientPosition dispatcher.messenger],
        (0 ≤ point.x ∧ point.x < w) ∧ 0 ≤ point.y ∧ point.y < h
  | _ => True

theorem sameSize_receive (dispatcher : Dispatcher) (receiver : Receiver) :
    SameSize dispatcher.frameState (dispatcher.receive receiver).frameState := by
  obtain ⟨acts, stays⟩ := queuesBy_receive dispatcher receiver
  by_cases uses : UsesPointer dispatcher receiver
  · obtain ⟨_, queues, -⟩ := acts uses
    exact queues.size
  · obtain ⟨_, queues, -⟩ := stays uses
    exact queues.size

/-- Both positions stay inside where they stay and the framebuffer keeps its size. -/
theorem PositionsInside.of_same {before after : Dispatcher} (inside : PositionsInside before)
    (size : SameSize before.frameState after.frameState)
    (kept : Rests before.frameState before → Rests before.frameState after) :
    PositionsInside after := by
  intro nonempty
  have filled : NonEmpty before.frameState := by
    unfold NonEmpty at nonempty ⊢
    rwa [size.width, size.height] at nonempty
  obtain ⟨-, mode, client⟩ := kept (inside filled)
  exact ⟨⟨rfl, rfl⟩, (covers_of_sameSize size).mpr mode, (covers_of_sameSize size).mpr client⟩

theorem positionsInside_frame {dispatcher : Dispatcher} (inside : PositionsInside dispatcher)
    (operation : FrameState.Operation)
    (size : SameSize dispatcher.frameState (dispatcher.frameState.apply operation)) :
    PositionsInside (react dispatcher (.frame operation)) :=
  inside.of_same size fun rests => ⟨size, rests.mode, rests.client⟩

theorem sameSize_calculateBaseScale (fs : FrameState) : SameSize fs fs.calculateBaseScale := by
  unfold FrameState.calculateBaseScale
  split <;> exact ⟨rfl, rfl⟩

theorem sameSize_setFramebufferSize (fs : FrameState) (w h : ℚ) :
    SameSize { fs with fbWidth := w, fbHeight := h } (fs.setFramebufferSize w h) := by
  obtain ⟨width, height⟩ := sameSize_calculateBaseScale { fs with fbWidth := w, fbHeight := h }
  exact ⟨width, height⟩

/-- Only one operation changes the size of the framebuffer. -/
theorem sameSize_apply (fs : FrameState) :
    ∀ operation : FrameState.Operation, (∀ w h, operation ≠ .setFramebufferSize w h) →
      SameSize fs (fs.apply operation)
  | .setFramebufferSize w h, other => absurd rfl (other w h)
  | .setWindowSize w h, _ => by
    obtain ⟨width, height⟩ :=
      sameSize_calculateBaseScale { fs with windowWidth := w, windowHeight := h }
    exact ⟨width, height⟩
  | .updateZoom scaleFactor, _ => by
    unfold FrameState.apply FrameState.updateZoom FrameState.setZoomScale
    dsimp only
    split <;> exact ⟨rfl, rfl⟩
  | .setViewportSize _ _, _ | .setSafeArea _, _ | .setZoom _ _, _ | .pan _ _, _
  | .moveTo _ _, _ => ⟨rfl, rfl⟩

/-- A new size of the framebuffer keeps both positions inside where they are inside it. -/
theorem positionsInside_setFramebufferSize (w h : ℚ) :
    PositionsInside (react dispatcher (.frame (.setFramebufferSize w h))) ↔
      KeepsPositions dispatcher (.frame (.setFramebufferSize w h)) := by
  have size := sameSize_setFramebufferSize dispatcher.frameState w h
  have filled : NonEmpty (dispatcher.frameState.setFramebufferSize w h) ↔ 0 < w ∧ 0 < h := by
    unfold NonEmpty
    rw [size.width, size.height]
  have covers (point : PointF) : Covers (dispatcher.frameState.setFramebufferSize w h) point ↔
      (0 ≤ point.x ∧ point.x < w) ∧ 0 ≤ point.y ∧ point.y < h := covers_of_sameSize size
  refine imp_congr filled ⟨?_, fun each => ?_⟩
  · rintro ⟨-, mode, client⟩
    exact List.forall_mem_cons.mpr
      ⟨(covers _).mp mode, List.forall_mem_singleton.mpr ((covers _).mp client)⟩
  · have mode := each dispatcher.pointerPosition (by simp)
    have client := each (clientPosition dispatcher.messenger) (by simp)
    exact ⟨⟨rfl, rfl⟩, (covers _).mpr mode, (covers _).mpr client⟩

theorem positionsInside_serverPointerMove (inside : PositionsInside dispatcher) (x y : Int) :
    PositionsInside (react dispatcher (.serverPointerMove x y)) ↔
      KeepsPositions dispatcher (.serverPointerMove x y) := by
  cases ignored : dispatcher.messenger.client.ignorePointerMovesByServer with
  | true =>
    have same :
        dispatcher.messenger.client.cbHandleCursorPos x y = dispatcher.messenger.client := by
      unfold VncClient.cbHandleCursorPos
      rw [ignored]
      rfl
    refine iff_of_true (inside.of_same ⟨rfl, rfl⟩ fun rests => ⟨rests.size, rests.mode, ?_⟩)
      fun open_ => absurd (ignored.symm.trans open_) Bool.noConfusion
    show Covers _ ⟨(dispatcher.messenger.client.cbHandleCursorPos x y).pointerX,
      (dispatcher.messenger.client.cbHandleCursorPos x y).pointerY⟩
    rw [same]
    exact rests.client
  | false =>
    have moved : dispatcher.messenger.client.cbHandleCursorPos x y =
        dispatcher.messenger.client.moveClientPointer x y := by
      unfold VncClient.cbHandleCursorPos
      rw [ignored]
      rfl
    constructor
    · intro kept _ nonempty
      have covers : Covers dispatcher.frameState
        ⟨(dispatcher.messenger.client.cbHandleCursorPos x y).pointerX,
          (dispatcher.messenger.client.cbHandleCursorPos x y).pointerY⟩ := (kept nonempty).client
      rwa [moved] at covers
    · intro keeps nonempty
      refine ⟨⟨rfl, rfl⟩, (inside nonempty).mode, ?_⟩
      show Covers dispatcher.frameState
        ⟨(dispatcher.messenger.client.cbHandleCursorPos x y).pointerX,
          (dispatcher.messenger.client.cbHandleCursorPos x y).pointerY⟩
      rw [moved]
      exact keeps ignored nonempty

/-- A step keeps both positions inside just where it is none of those that bring one outside. -/
theorem positionsInside_react_iff (inside : PositionsInside dispatcher) (input : PointerStep) :
    PositionsInside (react dispatcher input) ↔ KeepsPositions dispatcher input := by
  cases input with
  | receive receiver =>
    exact iff_of_true
      (inside.of_same (sameSize_receive dispatcher receiver) (·.receive receiver)) trivial
  | gestureStyleChanged gestureStyle =>
    refine iff_of_true (inside.of_same ⟨rfl, rfl⟩ fun rests => ?_) trivial
    exact ⟨rests.size, rests.mode, rests.client⟩
  | frame operation =>
    cases operation with
    | setFramebufferSize w h => exact positionsInside_setFramebufferSize w h
    | setViewportSize _ _ | setWindowSize _ _ | setSafeArea _ | updateZoom _ | setZoom _ _
    | pan _ _ | moveTo _ _ =>
      refine iff_of_true (positionsInside_frame inside _ (sameSize_apply _ _ ?_)) trivial
      exact fun _ _ same => nomatch same
  | serverPointerMove x y => exact positionsInside_serverPointerMove inside x y

/-- From a new activity whose client has the pointer inside, no pointer event strays as long as
the server moves the pointer inside and no new size leaves a position outside. -/
theorem inside_of_keepsPositions (profile : Profile) (pref : InputPref) (frameState : FrameState)
    (client : VncClient) (inputs : List PointerStep)
    (placed : NonEmpty frameState → Covers frameState ⟨client.pointerX, client.pointerY⟩)
    (run : ((pointers profile pref frameState client).restrict fun state =>
      KeepsPositions state.dispatcher).Run inputs) :
    ((pointers profile pref frameState client).after inputs).outside = [] := by
  refine (run.invariant_of_condition (fun state => state.dispatcher.messenger.isShutdown = false ∧
    PositionsInside state.dispatcher ∧ state.outside = []) ⟨rfl, fun nonempty => ?_, rfl⟩ ?_).2.2
  · exact ⟨⟨rfl, rfl⟩, ⟨⟨le_refl 0, nonempty.1⟩, le_refl 0, nonempty.2⟩, placed nonempty⟩
  · rintro state input ⟨running, inside, none⟩ - keeps
    refine ⟨running_watch state input running,
      (positionsInside_react_iff inside input).mpr keeps, ?_⟩
    refine (watch_outside_iff state input running).mpr ⟨none, ?_⟩
    cases input with
    | receive receiver =>
      intro _ nonempty
      obtain ⟨⟨left, right⟩, top, bottom⟩ := (inside nonempty).mode
      exact ⟨toInt_inside left right, toInt_inside top bottom⟩
    | gestureStyleChanged _ | frame _ | serverPointerMove _ _ => trivial

end TermPlux.PointerBounds
