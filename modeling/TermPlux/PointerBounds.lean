/-
This file runs the event receivers of `Dispatcher` in any order, together with
changes of the gesture style and of the frame, and with pointer moves by the
server, and watches where the queued pointer events happen.

In direct mode an event happens inside the framebuffer or not at all. In relative
mode it happens at the pointer position, which is clamped only when a swipe moves
it: the server and a smaller framebuffer can leave it outside. The queued events
stay inside just as long as nothing acts at a pointer that is outside.
-/

import TermPlux.TouchRuns

namespace TermPlux.PointerBounds

open Dispatcher

/-! ### Queued tasks -/

/-- Two frames whose framebuffers have the same size. -/
structure SameSize (first second : FrameState) : Prop where
  width : second.fbWidth = first.fbWidth
  height : second.fbHeight = first.fbHeight

/-- The point lies inside the framebuffer. -/
def InFramebuffer (fs : FrameState) (x y : Int) : Prop :=
  (0 ≤ x ∧ (x : ℚ) < fs.fbWidth) ∧ 0 ≤ y ∧ (y : ℚ) < fs.fbHeight

instance (fs : FrameState) (x y : Int) : Decidable (InFramebuffer fs x y) :=
  inferInstanceAs (Decidable ((_ ∧ _) ∧ _ ∧ _))

/-- A task that sends no pointer event to a point outside of the framebuffer. -/
def Inside (fs : FrameState) : SenderTask → Prop
  | .sendPointerEvent x y _ => InFramebuffer fs x y
  | .sleep _ => True

instance (fs : FrameState) : ∀ task : SenderTask, Decidable (Inside fs task)
  | .sendPointerEvent x y _ => inferInstanceAs (Decidable (InFramebuffer fs x y))
  | .sleep _ => .isTrue trivial

/-- A task that sends no pointer event to another point than the given one. -/
def HappensAt (point : PointF) : SenderTask → Prop
  | .sendPointerEvent x y _ => x = toInt point.x ∧ y = toInt point.y
  | .sleep _ => True

theorem inside_of_sameSize {first second : FrameState} (same : SameSize first second)
    (task : SenderTask) : Inside second task ↔ Inside first task := by
  cases task with
  | sendPointerEvent x y mask =>
    unfold Inside InFramebuffer
    rw [same.width, same.height]
  | sleep milliseconds => exact Iff.rfl

/-- The sender thread stays alive and is given the tasks, and the framebuffer keeps its size. -/
structure Queues (tasks : List SenderTask) (before after : Dispatcher) : Prop where
  running : before.messenger.isShutdown = false → after.messenger.isShutdown = false
  queue : before.messenger.isShutdown = false →
    after.messenger.queue = before.messenger.queue ++ tasks
  size : SameSize before.frameState after.frameState

/-- Besides, the pointer position stays. -/
structure Clicks (tasks : List SenderTask) (before after : Dispatcher) : Prop
    extends Queues tasks before after where
  frameState : after.frameState = before.frameState
  pointer : after.pointerPosition = before.pointerPosition

variable {before middle after dispatcher : Dispatcher} {tasks more : List SenderTask}
  {mode : Mode}

theorem Queues.trans (first : Queues tasks before middle) (second : Queues more middle after) :
    Queues (tasks ++ more) before after where
  running alive := second.running (first.running alive)
  queue alive := by
    rw [second.queue (first.running alive), first.queue alive, List.append_assoc]
  size := ⟨second.size.width.trans first.size.width, second.size.height.trans first.size.height⟩

theorem Queues.refl (dispatcher : Dispatcher) : Queues [] dispatcher dispatcher where
  running := id
  queue _ := (List.append_nil _).symm
  size := ⟨rfl, rfl⟩

theorem Clicks.trans (first : Clicks tasks before middle) (second : Clicks more middle after) :
    Clicks (tasks ++ more) before after where
  toQueues := first.toQueues.trans second.toQueues
  frameState := second.frameState.trans first.frameState
  pointer := second.pointer.trans first.pointer

theorem Clicks.refl (dispatcher : Dispatcher) : Clicks [] dispatcher dispatcher :=
  ⟨.refl dispatcher, rfl, rfl⟩

/-- Some tasks, all of a kind. -/
def Sends (allowed : SenderTask → Prop) (before after : Dispatcher) : Prop :=
  ∃ tasks, Clicks tasks before after ∧ ∀ task ∈ tasks, allowed task

/-- Some tasks that happen at a point, with at least one pointer event. -/
def Acts (point : PointF) (before after : Dispatcher) : Prop :=
  ∃ tasks, Clicks tasks before after ∧ (∀ task ∈ tasks, HappensAt point task) ∧
    ∃ mask, SenderTask.sendPointerEvent (toInt point.x) (toInt point.y) mask ∈ tasks

variable {allowed : SenderTask → Prop} {point : PointF}

theorem Sends.refl (allowed : SenderTask → Prop) (dispatcher : Dispatcher) :
    Sends allowed dispatcher dispatcher := ⟨[], .refl dispatcher, by simp⟩

theorem Sends.trans (first : Sends allowed before middle) (second : Sends allowed middle after) :
    Sends allowed before after := by
  obtain ⟨tasks, clicks, each⟩ := first
  obtain ⟨more, clicksMore, eachMore⟩ := second
  refine ⟨tasks ++ more, clicks.trans clicksMore, fun task member => ?_⟩
  exact (List.mem_append.mp member).elim (each task) (eachMore task)

theorem Sends.pointer (sends : Sends allowed before after) :
    after.pointerPosition = before.pointerPosition := by
  obtain ⟨_, clicks, -⟩ := sends
  exact clicks.pointer

theorem Sends.frameState (sends : Sends allowed before after) :
    after.frameState = before.frameState := by
  obtain ⟨_, clicks, -⟩ := sends
  exact clicks.frameState

theorem Acts.sends (acts : Acts point before after) : Sends (HappensAt point) before after := by
  obtain ⟨tasks, clicks, each, -⟩ := acts
  exact ⟨tasks, clicks, each⟩

theorem Acts.trans_sends (first : Acts point before middle)
    (second : Sends (HappensAt point) middle after) : Acts point before after := by
  obtain ⟨tasks, clicks, each, mask, acted⟩ := first
  obtain ⟨more, clicksMore, eachMore⟩ := second
  refine ⟨tasks ++ more, clicks.trans clicksMore, fun task member => ?_, mask,
    List.mem_append_left _ acted⟩
  exact (List.mem_append.mp member).elim (each task) (eachMore task)

theorem Sends.trans_acts (first : Sends (HappensAt point) before middle)
    (second : Acts point middle after) : Acts point before after := by
  obtain ⟨tasks, clicks, each⟩ := first
  obtain ⟨more, clicksMore, eachMore, mask, acted⟩ := second
  refine ⟨tasks ++ more, clicks.trans clicksMore, fun task member => ?_, mask,
    List.mem_append_right _ acted⟩
  exact (List.mem_append.mp member).elim (each task) (eachMore task)

/-! ### What the messenger is given -/

theorem execute_queue {messenger : Messenger} (running : messenger.isShutdown = false)
    (task : SenderTask) : (messenger.execute task).queue = messenger.queue ++ [task] := by
  unfold Messenger.execute
  rw [running]
  rfl

theorem setPointerButtonMask_queue {messenger : Messenger} (running : messenger.isShutdown = false)
    (mask : ButtonMask) (p : PointF) :
    (messenger.setPointerButtonMask mask p).queue =
      messenger.queue ++ [.sendPointerEvent (toInt p.x) (toInt p.y) mask] := by
  unfold Messenger.setPointerButtonMask Messenger.sendPointerEvent Messenger.execute
  dsimp only
  rw [running]
  rfl

/-- What a click does at a point: nothing but give tasks to the sender thread. -/
theorem clicks_withMessenger {messenger : Messenger}
    (running : dispatcher.messenger.isShutdown = false → messenger.isShutdown = false)
    (queue : dispatcher.messenger.isShutdown = false →
      messenger.queue = dispatcher.messenger.queue ++ tasks) :
    Clicks tasks dispatcher (dispatcher.withMessenger messenger) :=
  ⟨⟨running, queue, ⟨rfl, rfl⟩⟩, rfl, rfl⟩

theorem clicks_setPointerButtonMask (dispatcher : Dispatcher) (mask : ButtonMask)
    (p : PointF) :
    Clicks [.sendPointerEvent (toInt p.x) (toInt p.y) mask] dispatcher
      (dispatcher.withMessenger (dispatcher.messenger.setPointerButtonMask mask p)) :=
  clicks_withMessenger (fun running => (Messenger.execute_isShutdown _ _).trans running)
    fun running => setPointerButtonMask_queue running mask p

theorem sends_delayButtonUp (dispatcher : Dispatcher) (button : PointerButton)
    (sleep : ∀ milliseconds, allowed (.sleep milliseconds)) :
    Sends allowed dispatcher (dispatcher.delayButtonUp button) := by
  unfold delayButtonUp
  split
  · refine ⟨[.sleep 200], clicks_withMessenger
      (fun running => (Messenger.execute_isShutdown _ _).trans running)
      (fun running => execute_queue running _), fun task member => ?_⟩
    exact List.mem_singleton.mp member ▸ sleep 200
  · exact .refl _ dispatcher

/-! ### Direct mode -/

/-- A coordinate inside a range is inside it as an integer. -/
theorem toInt_inside {value limit : ℚ} (nonneg : 0 ≤ value) (below : value < limit) :
    0 ≤ toInt value ∧ (toInt value : ℚ) < limit := by
  have floored : value.num.tdiv value.den = ⌊value⌋ := by
    rw [Int.tdiv_eq_ediv_of_nonneg (Rat.num_nonneg.mpr nonneg), Rat.floor_def']
  have floor : 0 ≤ ⌊value⌋ := Int.floor_nonneg.mpr nonneg
  unfold toInt
  rw [floored]
  rcases le_or_gt ⌊value⌋ (2 ^ 31 - 1) with small | large
  · rw [coerceIn_of_mem (by omega) small]
    exact ⟨floor, (Int.floor_le value).trans_lt below⟩
  · rw [coerceIn_of_ge large.le (by norm_num)]
    have lower : ((2 ^ 31 - 1 : ℤ) : ℚ) ≤ (⌊value⌋ : ℚ) := Int.cast_le.mpr large.le
    exact ⟨by norm_num, (lower.trans (Int.floor_le value)).trans_lt below⟩

/-- The point lies inside the framebuffer, before it is made an integer. -/
def Covers (fs : FrameState) (point : PointF) : Prop :=
  (0 ≤ point.x ∧ point.x < fs.fbWidth) ∧ 0 ≤ point.y ∧ point.y < fs.fbHeight

theorem Covers.inside {fs : FrameState} (covers : Covers fs point) {task : SenderTask}
    (happens : HappensAt point task) : Inside fs task := by
  cases task with
  | sendPointerEvent x y mask =>
    obtain ⟨rfl, rfl⟩ := happens
    exact ⟨toInt_inside covers.1.1 covers.1.2, toInt_inside covers.2.1 covers.2.2⟩
  | sleep milliseconds => trivial

theorem covers_of_toFb {fs : FrameState} {p : PointF} (mapped : fs.toFb p = some point) :
    Covers fs point := by
  unfold FrameState.toFb at mapped
  split at mapped
  · next valid =>
    cases mapped
    have inside := valid.2
    simp only [FrameState.isValidFbPoint, Bool.and_eq_true, decide_eq_true_eq] at inside
    exact inside
  · cases mapped

/-- A way to give the sender thread tasks that happen at a point. -/
def SendsAt (send : Messenger → PointF → Messenger) : Prop :=
  ∀ dispatcher point, Sends (HappensAt point) dispatcher
    (dispatcher.withMessenger (send dispatcher.messenger point))

theorem sendsAt_setPointerButtonMask (dispatcher : Dispatcher) (mask : ButtonMask)
    (point : PointF) :
    Acts point dispatcher
      (dispatcher.withMessenger (dispatcher.messenger.setPointerButtonMask mask point)) :=
  ⟨_, clicks_setPointerButtonMask dispatcher mask point,
    fun _ member => List.mem_singleton.mp member ▸ ⟨rfl, rfl⟩, mask, List.mem_singleton_self _⟩

theorem sendsAt_down (button : PointerButton) : SendsAt (·.sendPointerButtonDown button ·) :=
  fun dispatcher point => (sendsAt_setPointerButtonMask dispatcher _ point).sends

theorem sendsAt_up (button : PointerButton) : SendsAt (·.sendPointerButtonUp button ·) :=
  fun dispatcher point => (sendsAt_setPointerButtonMask dispatcher _ point).sends

theorem sendsAt_release : SendsAt Messenger.sendPointerButtonRelease := by
  intro dispatcher point
  unfold Messenger.sendPointerButtonRelease
  split
  · exact (sendsAt_setPointerButtonMask dispatcher 0 point).sends
  · exact .refl _ dispatcher

/-- In direct mode whatever is sent happens inside the framebuffer. -/
theorem sends_sendAt_direct {fs : FrameState} (same : dispatcher.frameState = fs) (p : PointF)
    {send : Messenger → PointF → Messenger} (sendsAt : SendsAt send) :
    Sends (Inside fs) dispatcher (dispatcher.sendAt .direct p send) := by
  cases mapped : dispatcher.transformPoint .direct p with
  | none =>
    rw [sendAt_of_none _ mapped]
    exact .refl _ dispatcher
  | some point =>
    rw [sendAt_of_some _ mapped]
    obtain ⟨tasks, clicks, each⟩ := sendsAt dispatcher point
    have covers : Covers fs point := same ▸ covers_of_toFb mapped
    exact ⟨tasks, clicks, fun task member => covers.inside (each task member)⟩

theorem sends_doClick_direct {fs : FrameState} (same : dispatcher.frameState = fs)
    (button : PointerButton) (p : PointF) :
    Sends (Inside fs) dispatcher (dispatcher.doClick .direct button p) := by
  have down : Sends (Inside fs) dispatcher (dispatcher.doButtonDown .direct button p) :=
    sends_sendAt_direct same p (sendsAt_down button)
  have delay : Sends (Inside fs) _ ((dispatcher.doButtonDown .direct button p).delayButtonUp
    button) := sends_delayButtonUp _ button fun _ => trivial
  have still := (down.trans delay).frameState.trans same
  exact (down.trans delay).trans (sends_sendAt_direct still p (sendsAt_up button))

theorem sends_drainClicks_direct {fs : FrameState} (same : dispatcher.frameState = fs)
    (above below : PointerButton) (focus : PointF) (accumulated : ℚ) :
    Sends (Inside fs) dispatcher
      (dispatcher.drainClicks .direct above below focus accumulated).2 :=
  drain_keeps (Sends (Inside fs) dispatcher)
    (fun _ sends => sends.trans
      (sends_doClick_direct (sends.frameState.trans same) above focus))
    (fun _ sends => sends.trans
      (sends_doClick_direct (sends.frameState.trans same) below focus))
    accumulated dispatcher (.refl _ dispatcher)

theorem sends_setAccumulated (dispatcher : Dispatcher) (mode : Mode) (accumulated : Accumulated) :
    Sends allowed dispatcher (dispatcher.setAccumulated mode accumulated) := by
  cases mode <;>
    exact ⟨[], ⟨⟨id, fun _ => (List.append_nil _).symm, ⟨rfl, rfl⟩⟩, rfl, rfl⟩, by simp⟩

theorem sends_doRemoteScroll_direct {fs : FrameState} (same : dispatcher.frameState = fs)
    (focus : PointF) (dx dy : ℚ) :
    Sends (Inside fs) dispatcher (dispatcher.doRemoteScroll .direct focus dx dy) := by
  have horizontal := sends_drainClicks_direct same .wheelLeft .wheelRight focus
    ((dispatcher.accumulated .direct).accumulatedDx + dx)
  have vertical := sends_drainClicks_direct (horizontal.frameState.trans same) .wheelUp .wheelDown
    focus ((dispatcher.accumulated .direct).accumulatedDy + dy * dispatcher.yScrollDirection)
  exact (horizontal.trans vertical).trans (sends_setAccumulated _ .direct _)

/-! ### Relative mode -/

theorem acts_doButtonDown (at' : dispatcher.pointerPosition = point) (button : PointerButton)
    (p : PointF) : Acts point dispatcher (dispatcher.doButtonDown .relative button p) :=
  at' ▸ sendsAt_setPointerButtonMask dispatcher _ dispatcher.pointerPosition

theorem acts_doButtonUp (at' : dispatcher.pointerPosition = point) (button : PointerButton)
    (p : PointF) : Acts point dispatcher (dispatcher.doButtonUp .relative button p) :=
  at' ▸ sendsAt_setPointerButtonMask dispatcher _ dispatcher.pointerPosition

theorem acts_doClick (at' : dispatcher.pointerPosition = point) (button : PointerButton)
    (p : PointF) : Acts point dispatcher (dispatcher.doClick .relative button p) := by
  have down := acts_doButtonDown at' button p
  have delay : Sends (HappensAt point) _ ((dispatcher.doButtonDown .relative button p).delayButtonUp
    button) := sends_delayButtonUp _ button fun _ => trivial
  have up := acts_doButtonUp ((down.sends.trans delay).pointer.trans at') button p
  exact (down.trans_sends delay).trans_sends up.sends

theorem acts_drainClicks (at' : dispatcher.pointerPosition = point)
    (above below : PointerButton) (focus : PointF) {accumulated : ℚ}
    (enough : deltaPerScroll ≤ |accumulated|) :
    Acts point dispatcher (dispatcher.drainClicks .relative above below focus accumulated).2 := by
  have another (button : PointerButton) (state : Dispatcher) (acts : Acts point dispatcher state) :
      Acts point dispatcher (state.doClick .relative button focus) :=
    acts.trans_sends (acts_doClick (acts.sends.pointer.trans at') button focus).sends
  unfold drainClicks
  rw [drain, if_pos enough]
  split
  · exact drain_keeps (Acts point dispatcher) (another above) (another below) _ _
      (acts_doClick at' above focus)
  · exact drain_keeps (Acts point dispatcher) (another above) (another below) _ _
      (acts_doClick at' below focus)

theorem drainClicks_of_short (dispatcher : Dispatcher) (mode : Mode) (above below : PointerButton)
    (focus : PointF) {accumulated : ℚ} (short : ¬ deltaPerScroll ≤ |accumulated|) :
    dispatcher.drainClicks mode above below focus accumulated = (accumulated, dispatcher) := by
  unfold drainClicks
  rw [drain, if_neg short]

theorem sends_drainClicks (at' : dispatcher.pointerPosition = point)
    (above below : PointerButton) (focus : PointF) (accumulated : ℚ) :
    Sends (HappensAt point) dispatcher
      (dispatcher.drainClicks .relative above below focus accumulated).2 := by
  by_cases enough : deltaPerScroll ≤ |accumulated|
  · exact (acts_drainClicks at' above below focus enough).sends
  · rw [drainClicks_of_short dispatcher _ above below focus enough]
    exact .refl _ dispatcher

/-- The scroll makes at least one click. -/
def ScrollsOn (dispatcher : Dispatcher) (dx dy : ℚ) : Prop :=
  deltaPerScroll ≤ |dispatcher.relativeMode.accumulatedDx + dx| ∨
    deltaPerScroll ≤ |dispatcher.relativeMode.accumulatedDy + dy * dispatcher.yScrollDirection|

instance (dispatcher : Dispatcher) (dx dy : ℚ) : Decidable (ScrollsOn dispatcher dx dy) :=
  inferInstanceAs (Decidable (_ ∨ _))

theorem acts_doRemoteScroll (at' : dispatcher.pointerPosition = point) (focus : PointF)
    {dx dy : ℚ} (scrolls : ScrollsOn dispatcher dx dy) :
    Acts point dispatcher (dispatcher.doRemoteScroll .relative focus dx dy) := by
  have horizontal := sends_drainClicks at' .wheelLeft .wheelRight focus
    (dispatcher.relativeMode.accumulatedDx + dx)
  have vertical := sends_drainClicks (horizontal.pointer.trans at') .wheelUp .wheelDown focus
    (dispatcher.relativeMode.accumulatedDy + dy * dispatcher.yScrollDirection)
  rcases scrolls with sideways | upright
  · exact ((acts_drainClicks at' _ _ focus sideways).trans_sends vertical).trans_sends
      (sends_setAccumulated _ .relative _)
  · exact (horizontal.trans_acts (acts_drainClicks (horizontal.pointer.trans at') _ _ focus
      upright)).trans_sends (sends_setAccumulated _ .relative _)

/-- A scroll that makes no click only adds up. -/
theorem doRemoteScroll_of_short (focus : PointF) {dx dy : ℚ}
    (short : ¬ ScrollsOn dispatcher dx dy) :
    dispatcher.doRemoteScroll .relative focus dx dy =
      dispatcher.setAccumulated .relative ⟨dispatcher.relativeMode.accumulatedDx + dx,
        dispatcher.relativeMode.accumulatedDy + dy * dispatcher.yScrollDirection⟩ := by
  have sideways := drainClicks_of_short dispatcher .relative .wheelLeft .wheelRight focus
    fun enough => short (.inl enough)
  have upright := drainClicks_of_short dispatcher .relative .wheelUp .wheelDown focus
    fun enough => short (.inr enough)
  unfold doRemoteScroll
  dsimp only [accumulated]
  rw [sideways, upright]

/-! ### Receivers -/

/-- Nothing happens outside of the framebuffer. -/
def StaysInside (before after : Dispatcher) : Prop :=
  ∃ tasks, Queues tasks before after ∧ ∀ task ∈ tasks, Inside before.frameState task

/-- Something happens at the pointer position, and nothing elsewhere outside of the
framebuffer. -/
def ActsAtPointer (before after : Dispatcher) : Prop :=
  ∃ tasks, Queues tasks before after ∧
    (∀ task ∈ tasks, HappensAt before.pointerPosition task ∨ Inside before.frameState task) ∧
    ∃ mask, SenderTask.sendPointerEvent (toInt before.pointerPosition.x)
      (toInt before.pointerPosition.y) mask ∈ tasks

theorem StaysInside.refl (dispatcher : Dispatcher) : StaysInside dispatcher dispatcher :=
  ⟨[], .refl dispatcher, by simp⟩

theorem Sends.staysInside (sends : Sends (Inside before.frameState) before after) :
    StaysInside before after := by
  obtain ⟨tasks, clicks, each⟩ := sends
  exact ⟨tasks, clicks.toQueues, each⟩

theorem Acts.actsAtPointer (acts : Acts before.pointerPosition before after) :
    ActsAtPointer before after := by
  obtain ⟨tasks, clicks, each, acted⟩ := acts
  exact ⟨tasks, clicks.toQueues, fun task member => .inl (each task member), acted⟩

/-- Of the frame at most its place and zoom change, and of the messenger at most its client. -/
theorem queues_of_sameSize {client : VncClient}
    (messenger : after.messenger = { before.messenger with client })
    (size : SameSize before.frameState after.frameState) : Queues [] before after where
  running alive := by
    rw [messenger]
    exact alive
  queue _ := by
    rw [messenger]
    exact (List.append_nil _).symm
  size := size

theorem queues_panFrame (dispatcher : Dispatcher) (dx dy : ℚ) :
    Queues [] dispatcher (dispatcher.panFrame dx dy) :=
  queues_of_sameSize rfl ⟨rfl, rfl⟩

theorem covers_offsetPointer (dispatcher : Dispatcher) (dx dy : ℚ)
    (width : 0 ≤ dispatcher.frameState.fbWidth - 1)
    (height : 0 ≤ dispatcher.frameState.fbHeight - 1) :
    Covers dispatcher.frameState (dispatcher.offsetPointer dx dy).pointerPosition := by
  refine ⟨⟨low_le_coerceIn _ width, ?_⟩, low_le_coerceIn _ height, ?_⟩
  · exact (coerceIn_le_high _ width).trans_lt (sub_one_lt _)
  · exact (coerceIn_le_high _ height).trans_lt (sub_one_lt _)

theorem staysInside_doMovePointer (dispatcher : Dispatcher) (mode : Mode) (p : PointF)
    (dx dy : ℚ) : StaysInside dispatcher (dispatcher.doMovePointer mode p dx dy) := by
  cases mode with
  | direct => exact (sends_sendAt_direct rfl p (sendsAt_down .none)).staysInside
  | relative =>
    unfold doMovePointer
    dsimp only
    split
    · exact .refl dispatcher
    · next nonempty =>
      obtain ⟨width, height⟩ := not_or.mp nonempty
      have covers := covers_offsetPointer dispatcher dx dy (not_lt.mp width) (not_lt.mp height)
      have moved : Queues [] dispatcher (dispatcher.offsetPointer dx dy) :=
        queues_of_sameSize rfl ⟨rfl, rfl⟩
      obtain ⟨tasks, clicks, each, -⟩ := acts_doButtonDown rfl .none
        (dispatcher.offsetPointer dx dy).pointerPosition
      refine ⟨[] ++ tasks ++ [], ((moved.trans clicks.toQueues).trans (queues_panFrame _ _ _)),
        fun task member => ?_⟩
      rw [List.nil_append, List.append_nil] at member
      exact covers.inside (each task member)

theorem actsAtPointer_doRemoteDrag (dispatcher : Dispatcher) (button : PointerButton)
    (p : PointF) (dx dy : ℚ) :
    ActsAtPointer dispatcher (dispatcher.doRemoteDrag .relative button p dx dy) := by
  obtain ⟨tasks, clicks, each, mask, acted⟩ := acts_doButtonDown rfl button p
  obtain ⟨more, queues, eachMore⟩ := staysInside_doMovePointer
    (dispatcher.doButtonDown .relative button p) .relative p dx dy
  refine ⟨tasks ++ more, clicks.toQueues.trans queues, fun task member => ?_, mask,
    List.mem_append_left _ acted⟩
  rcases List.mem_append.mp member with first | second
  · exact .inl (each task first)
  · exact .inr (clicks.frameState ▸ eachMore task second)

/-- The point action clicks at the pointer position. -/
def PointActs (dispatcher : Dispatcher) (action : PointAction) : Prop :=
  dispatcher.config.defaultMode = .relative ∧ action ≠ .openKeyboard ∧ action ≠ .nothing

/-- The swipe action clicks at the pointer position, or presses a button there. -/
def SwipeActs (dispatcher : Dispatcher) (action : SwipeAction) (dx dy : ℚ) : Prop :=
  dispatcher.config.defaultMode = .relative ∧
    match action with
    | .remoteScroll => ScrollsOn dispatcher dx dy
    | .remoteDrag _ => True
    | _ => False

/-- The receiver acts at the pointer position before it moves it. -/
def UsesPointer (dispatcher : Dispatcher) : Receiver → Prop
  | .onGestureStop _ =>
    dispatcher.config.defaultMode = .relative ∧ dispatcher.messenger.pointerButtonMask ≠ 0
  | .onTap1 _ => PointActs dispatcher dispatcher.config.tap1Action
  | .onTap2 _ => PointActs dispatcher dispatcher.config.tap2Action
  | .onDoubleTap _ => PointActs dispatcher dispatcher.config.doubleTapAction
  | .onLongPress _ => PointActs dispatcher dispatcher.config.longPressAction
  | .onMouseBack _ => PointActs dispatcher dispatcher.config.mouseBackAction
  | .onSwipe1 _ _ dx dy => SwipeActs dispatcher dispatcher.config.swipe1Action dx dy
  | .onSwipe2 _ _ dx dy => SwipeActs dispatcher dispatcher.config.swipe2Action dx dy
  | .onDoubleTapSwipe _ _ dx dy => SwipeActs dispatcher dispatcher.config.doubleTapSwipeAction dx dy
  | .onLongPressSwipe _ _ dx dy => SwipeActs dispatcher dispatcher.config.longPressSwipeAction dx dy
  | _ => False

/-- What a receiver queues: something at the pointer position when it uses it, and nothing
outside of the framebuffer else. -/
def QueuesBy (uses : Prop) (before after : Dispatcher) : Prop :=
  (uses → ActsAtPointer before after) ∧ (¬ uses → StaysInside before after)

theorem queuesBy_of_staysInside {uses : Prop} (never : ¬ uses)
    (stays : StaysInside before after) : QueuesBy uses before after :=
  ⟨fun used => absurd used never, fun _ => stays⟩

theorem queuesBy_of_actsAtPointer {uses : Prop} (used : uses)
    (acts : ActsAtPointer before after) : QueuesBy uses before after :=
  ⟨fun _ => acts, fun unused => absurd used unused⟩

theorem acts_doDoubleClick (at' : dispatcher.pointerPosition = point) (button : PointerButton)
    (p : PointF) : Acts point dispatcher (dispatcher.doDoubleClick .relative button p) := by
  have first := acts_doClick at' button p
  exact first.trans_sends (acts_doClick (first.sends.pointer.trans at') button p).sends

theorem sends_doDoubleClick_direct {fs : FrameState} (same : dispatcher.frameState = fs)
    (button : PointerButton) (p : PointF) :
    Sends (Inside fs) dispatcher (dispatcher.doDoubleClick .direct button p) := by
  have first := sends_doClick_direct same button p
  exact first.trans (sends_doClick_direct (first.frameState.trans same) button p)

theorem queuesBy_pointAction (dispatcher : Dispatcher) (action : PointAction) (p : PointF) :
    QueuesBy (PointActs dispatcher action) dispatcher (dispatcher.pointAction action p) := by
  unfold PointActs pointAction
  cases mode : dispatcher.config.defaultMode with
  | direct =>
    refine queuesBy_of_staysInside (by simp) ?_
    cases action with
    | click button => exact (sends_doClick_direct rfl button p).staysInside
    | doubleClick button => exact (sends_doDoubleClick_direct rfl button p).staysInside
    | openKeyboard | nothing => exact .refl dispatcher
  | relative =>
    cases action with
    | click button =>
      exact queuesBy_of_actsAtPointer (by simp) (acts_doClick rfl button p).actsAtPointer
    | doubleClick button =>
      exact queuesBy_of_actsAtPointer (by simp) (acts_doDoubleClick rfl button p).actsAtPointer
    | openKeyboard | nothing => exact queuesBy_of_staysInside (by simp) (.refl dispatcher)

theorem staysInside_setAccumulated (dispatcher : Dispatcher) (mode : Mode)
    (accumulated : Accumulated) :
    StaysInside dispatcher (dispatcher.setAccumulated mode accumulated) :=
  (sends_setAccumulated dispatcher mode accumulated).staysInside

theorem queuesBy_swipeAction (dispatcher : Dispatcher) (action : SwipeAction) (sp cp : PointF)
    (dx dy : ℚ) :
    QueuesBy (SwipeActs dispatcher action dx dy) dispatcher
      (dispatcher.swipeAction action sp cp dx dy) := by
  cases action with
  | pan =>
    exact queuesBy_of_staysInside (fun acts => acts.2)
      ⟨[], queues_panFrame dispatcher dx dy, by simp⟩
  | movePointer =>
    exact queuesBy_of_staysInside (fun acts => acts.2)
      (staysInside_doMovePointer dispatcher _ cp dx dy)
  | nothing => exact queuesBy_of_staysInside (fun acts => acts.2) (.refl dispatcher)
  | remoteScroll =>
    unfold SwipeActs swipeAction
    dsimp only
    cases mode : dispatcher.config.defaultMode with
    | direct =>
      exact queuesBy_of_staysInside (by simp) (sends_doRemoteScroll_direct rfl sp dx dy).staysInside
    | relative =>
      by_cases scrolls : ScrollsOn dispatcher dx dy
      · exact queuesBy_of_actsAtPointer ⟨rfl, scrolls⟩
          (acts_doRemoteScroll rfl sp scrolls).actsAtPointer
      · refine queuesBy_of_staysInside (fun acts => scrolls acts.2) ?_
        rw [doRemoteScroll_of_short sp scrolls]
        exact staysInside_setAccumulated dispatcher .relative _
  | remoteDrag button =>
    unfold SwipeActs swipeAction
    dsimp only
    cases mode : dispatcher.config.defaultMode with
    | direct =>
      exact queuesBy_of_staysInside (by simp)
        (sends_sendAt_direct rfl cp (sendsAt_down button)).staysInside
    | relative =>
      exact queuesBy_of_actsAtPointer ⟨rfl, trivial⟩
        (actsAtPointer_doRemoteDrag dispatcher button cp dx dy)

theorem acts_doButtonRelease (pressed : dispatcher.messenger.pointerButtonMask ≠ 0)
    (p : PointF) :
    Acts dispatcher.pointerPosition dispatcher (dispatcher.doButtonRelease .relative p) := by
  show Acts _ _ (dispatcher.withMessenger
    (dispatcher.messenger.sendPointerButtonRelease dispatcher.pointerPosition))
  unfold Messenger.sendPointerButtonRelease
  rw [if_pos pressed]
  exact sendsAt_setPointerButtonMask dispatcher 0 dispatcher.pointerPosition

theorem doButtonRelease_of_released (released : dispatcher.messenger.pointerButtonMask = 0)
    (p : PointF) : dispatcher.doButtonRelease .relative p = dispatcher := by
  show dispatcher.withMessenger
    (dispatcher.messenger.sendPointerButtonRelease dispatcher.pointerPosition) = dispatcher
  unfold Messenger.sendPointerButtonRelease
  rw [if_neg (not_not.mpr released)]
  rfl

theorem queuesBy_onGestureStop (dispatcher : Dispatcher) (p : PointF) :
    QueuesBy (UsesPointer dispatcher (.onGestureStop p)) dispatcher
      (dispatcher.onGestureStop p) := by
  unfold UsesPointer onGestureStop modeGestureStop
  dsimp only
  cases mode : dispatcher.config.defaultMode with
  | direct =>
    exact queuesBy_of_staysInside (by simp) (sends_sendAt_direct rfl p sendsAt_release).staysInside
  | relative =>
    by_cases released : dispatcher.messenger.pointerButtonMask = 0
    · refine queuesBy_of_staysInside (fun used => used.2 released) ⟨[], ?_, by simp⟩
      rw [doButtonRelease_of_released released]
      exact queues_of_sameSize rfl ⟨rfl, rfl⟩
    · obtain ⟨tasks, clicks, each, mask, acted⟩ := acts_doButtonRelease released p
      refine queuesBy_of_actsAtPointer ⟨rfl, released⟩ ⟨tasks ++ [], ?_, fun task member => ?_,
        mask, List.mem_append_left _ acted⟩
      · exact clicks.toQueues.trans (queues_of_sameSize rfl ⟨rfl, rfl⟩)
      · exact .inl (each task (List.append_nil tasks ▸ member))

theorem staysInside_onGestureStart (dispatcher : Dispatcher) :
    StaysInside dispatcher dispatcher.onGestureStart := by
  unfold onGestureStart modeGestureStart
  split
  · exact .refl dispatcher
  · exact ⟨[], queues_of_sameSize rfl ⟨rfl, rfl⟩, by simp⟩

theorem staysInside_onScale (dispatcher : Dispatcher) (scaleFactor fx fy : ℚ) :
    StaysInside dispatcher (dispatcher.onScale scaleFactor fx fy) := by
  unfold onScale updateZoom
  split
  · exact .refl dispatcher
  · refine ⟨[], queues_of_sameSize rfl ?_, by simp⟩
    unfold FrameState.updateZoom FrameState.setZoomScale
    split <;> exact ⟨rfl, rfl⟩

/-- Every receiver queues nothing outside of the framebuffer but at a pointer position that it
uses. -/
theorem queuesBy_receive (dispatcher : Dispatcher) (receiver : Receiver) :
    QueuesBy (UsesPointer dispatcher receiver) dispatcher (dispatcher.receive receiver) := by
  cases receiver with
  | onGestureStart => exact queuesBy_of_staysInside id (staysInside_onGestureStart dispatcher)
  | onGestureStop p => exact queuesBy_onGestureStop dispatcher p
  | onTap1 p | onTap2 p | onDoubleTap p | onLongPress p | onMouseBack p =>
    exact queuesBy_pointAction dispatcher _ p
  | onSwipe1 sp cp dx dy | onSwipe2 sp cp dx dy | onDoubleTapSwipe sp cp dx dy
  | onLongPressSwipe sp cp dx dy => exact queuesBy_swipeAction dispatcher _ sp cp dx dy
  | onScale scaleFactor fx fy =>
    exact queuesBy_of_staysInside id (staysInside_onScale dispatcher scaleFactor fx fy)
  | onMouseButtonDown button p =>
    exact queuesBy_of_staysInside id (sends_sendAt_direct rfl p (sendsAt_down button)).staysInside
  | onMouseButtonUp button p =>
    exact queuesBy_of_staysInside id (sends_sendAt_direct rfl p (sendsAt_up button)).staysInside
  | onMouseMove p =>
    exact queuesBy_of_staysInside id (staysInside_doMovePointer dispatcher .direct p 0 0)
  | onMouseScroll p hs vs =>
    exact queuesBy_of_staysInside id (sends_doRemoteScroll_direct rfl p _ _).staysInside
  | onStylusTap p =>
    exact queuesBy_of_staysInside id (sends_doClick_direct rfl .left p).staysInside
  | onStylusDoubleTap p =>
    exact queuesBy_of_staysInside id (sends_doDoubleClick_direct rfl .left p).staysInside
  | onStylusLongPress p =>
    exact queuesBy_of_staysInside id (sends_doClick_direct rfl .right p).staysInside
  | onStylusScroll p =>
    exact queuesBy_of_staysInside id (sends_sendAt_direct rfl p (sendsAt_down .left)).staysInside

/-! ### Runs -/

/-- What happens to a dispatcher, its frame and its pointer. -/
inductive PointerStep
  | receive (receiver : Receiver)
  | gestureStyleChanged (gestureStyle : String)
  | frame (operation : FrameState.Operation)
  | serverPointerMove (x y : Int)

def react (dispatcher : Dispatcher) : PointerStep → Dispatcher
  | .receive receiver => dispatcher.receive receiver
  | .gestureStyleChanged gestureStyle => TouchHandler.setGestureStyle dispatcher gestureStyle
  | .frame operation =>
    { dispatcher with frameState := dispatcher.frameState.apply operation }
  | .serverPointerMove x y =>
    { dispatcher with
      messenger.client := dispatcher.messenger.client.cbHandleCursorPos x y }

/-- The framebuffer has a pixel. -/
def NonEmpty (fs : FrameState) : Prop := 0 < fs.fbWidth ∧ 0 < fs.fbHeight

instance (fs : FrameState) : Decidable (NonEmpty fs) := inferInstanceAs (Decidable (_ ∧ _))

/-- The tasks of one step that send a pointer event outside of a framebuffer that is not
empty. -/
def strays (before after : Dispatcher) : List SenderTask :=
  (after.messenger.queue.drop before.messenger.queue.length).filter fun task =>
    decide (NonEmpty after.frameState ∧ ¬ Inside after.frameState task)

/-- The dispatcher, and all tasks so far that strayed when they were queued. -/
structure WatchedState where
  dispatcher : Dispatcher
  outside : List SenderTask

def watch (state : WatchedState) (input : PointerStep) : WatchedState where
  dispatcher := react state.dispatcher input
  outside := state.outside ++ strays state.dispatcher (react state.dispatcher input)

/-- A new activity on any frame. -/
def pointers (profile : Profile) (pref : InputPref) (frameState : FrameState)
    (client : VncClient) : Machine WatchedState PointerStep where
  start :=
    { dispatcher := .create profile pref frameState
        { client, queue := [], isShutdown := false, pointerButtonMask := 0 }
      outside := [] }
  enabled _ _ := True
  step := watch

/-- Whatever acts at the pointer position finds it inside a framebuffer that is not empty. -/
def PointerInside (state : WatchedState) : PointerStep → Prop
  | .receive receiver =>
    UsesPointer state.dispatcher receiver → NonEmpty state.dispatcher.frameState →
      InFramebuffer state.dispatcher.frameState (toInt state.dispatcher.pointerPosition.x)
        (toInt state.dispatcher.pointerPosition.y)
  | _ => True

theorem strays_eq_nil_iff (queues : Queues tasks before after)
    (running : before.messenger.isShutdown = false) :
    strays before after = [] ↔
      (NonEmpty before.frameState → ∀ task ∈ tasks, Inside before.frameState task) := by
  have same : NonEmpty after.frameState ↔ NonEmpty before.frameState := by
    unfold NonEmpty
    rw [queues.size.width, queues.size.height]
  unfold strays
  rw [queues.queue running, List.drop_left, List.filter_eq_nil_iff]
  simp only [decide_eq_true_eq, same, inside_of_sameSize queues.size]
  constructor
  · intro none nonempty task member
    exact not_not.mp fun strayed => none task member ⟨nonempty, strayed⟩
  · rintro all task member ⟨nonempty, strayed⟩
    exact strayed (all nonempty task member)

theorem strays_receive_eq_nil_iff (dispatcher : Dispatcher) (receiver : Receiver)
    (running : dispatcher.messenger.isShutdown = false) :
    strays dispatcher (dispatcher.receive receiver) = [] ↔
      (UsesPointer dispatcher receiver → NonEmpty dispatcher.frameState →
        InFramebuffer dispatcher.frameState (toInt dispatcher.pointerPosition.x)
          (toInt dispatcher.pointerPosition.y)) := by
  obtain ⟨acts, stays⟩ := queuesBy_receive dispatcher receiver
  by_cases uses : UsesPointer dispatcher receiver
  · obtain ⟨tasks, queues, each, mask, acted⟩ := acts uses
    rw [strays_eq_nil_iff queues running]
    constructor
    · intro all _ nonempty
      exact all nonempty _ acted
    · intro inside nonempty task member
      rcases each task member with happens | already
      · cases task with
        | sendPointerEvent x y mask =>
          obtain ⟨rfl, rfl⟩ := happens
          exact inside uses nonempty
        | sleep milliseconds => trivial
      · exact already
  · obtain ⟨tasks, queues, each⟩ := stays uses
    rw [strays_eq_nil_iff queues running]
    exact ⟨fun _ used => absurd used uses, fun _ _ => each⟩

theorem strays_of_queue {before after : Dispatcher}
    (same : after.messenger.queue = before.messenger.queue) : strays before after = [] := by
  unfold strays
  rw [same, List.drop_length]
  rfl

theorem running_receive (dispatcher : Dispatcher) (receiver : Receiver)
    (running : dispatcher.messenger.isShutdown = false) :
    (dispatcher.receive receiver).messenger.isShutdown = false := by
  obtain ⟨acts, stays⟩ := queuesBy_receive dispatcher receiver
  by_cases uses : UsesPointer dispatcher receiver
  · obtain ⟨_, queues, -⟩ := acts uses
    exact queues.running running
  · obtain ⟨_, queues, -⟩ := stays uses
    exact queues.running running

theorem running_watch (state : WatchedState) (input : PointerStep)
    (running : state.dispatcher.messenger.isShutdown = false) :
    (watch state input).dispatcher.messenger.isShutdown = false := by
  cases input with
  | receive receiver => exact running_receive state.dispatcher receiver running
  | gestureStyleChanged gestureStyle => exact running
  | frame operation => exact running
  | serverPointerMove x y => exact running

/-- A step lets nothing more stray just if what acts at the pointer position finds it inside. -/
theorem watch_outside_iff (state : WatchedState) (input : PointerStep)
    (running : state.dispatcher.messenger.isShutdown = false) :
    (watch state input).outside = [] ↔ state.outside = [] ∧ PointerInside state input := by
  show state.outside ++ strays state.dispatcher (react state.dispatcher input) = [] ↔ _
  rw [List.append_eq_nil_iff]
  refine and_congr_right fun _ => ?_
  cases input with
  | receive receiver => exact strays_receive_eq_nil_iff state.dispatcher receiver running
  | gestureStyleChanged _ | frame _ | serverPointerMove _ _ =>
    exact iff_of_true (strays_of_queue rfl) trivial

/-- In every run from a new activity, no pointer event is queued outside of a framebuffer that is
not empty just as long as whatever acts at the pointer position finds it inside. -/
theorem inside_iff (profile : Profile) (pref : InputPref) (frameState : FrameState)
    (client : VncClient) (inputs : List PointerStep) :
    ((pointers profile pref frameState client).after inputs).outside = [] ↔
      ((pointers profile pref frameState client).restrict PointerInside).Run inputs :=
  Machine.Run.good_iff (fun state => state.dispatcher.messenger.isShutdown = false)
    (fun state => state.outside = []) rfl rfl
    (fun state input running _ => running_watch state input running)
    (fun state input running _ => watch_outside_iff state input running)
    (.of_enabled (fun _ _ => trivial) inputs)

/-! ### A moved pointer and a smaller framebuffer -/

/-- An activity in touchpad style with a framebuffer of 100 by 100. -/
abbrev touchpadPointers : Machine WatchedState PointerStep :=
  pointers { gestureStyle := "touchpad", fButtonUpDelay := false, fZoomLocked := false }
    TouchHandler.defaultInput { prefs := .defaults, fbWidth := 100, fbHeight := 100 }
    { pointerX := 0, pointerY := 0, ignorePointerMovesByServer := false }

/-- The server moves the pointer out of the framebuffer, and a tap clicks there; or the
framebuffer shrinks around a pointer that was inside, and a tap clicks where it was. -/
theorem stray_taps :
    (touchpadPointers.after
      [.serverPointerMove 500 500, .receive .onGestureStart,
        .receive (.onTap1 ⟨10, 10⟩)]).outside =
      [.sendPointerEvent 500 500 1, .sendPointerEvent 500 500 0] ∧
    (touchpadPointers.after
      [.receive .onGestureStart, .receive (.onSwipe1 ⟨0, 0⟩ ⟨80, 80⟩ 80 80),
        .frame (.setFramebufferSize 50 50), .receive (.onTap1 ⟨10, 10⟩)]).outside =
      [.sendPointerEvent 80 80 1, .sendPointerEvent 80 80 0] := by
  decide +kernel

/-! ### Touch events -/

/-- What some steps make of a dispatcher, one after another. -/
def Stepped (before after : Dispatcher) : Prop :=
  ∃ inputs : List PointerStep, after = inputs.foldl react before

theorem stepped (dispatcher : Dispatcher) (input : PointerStep) :
    Stepped dispatcher (react dispatcher input) := ⟨[input], rfl⟩

theorem Stepped.trans (first : Stepped before middle) (second : Stepped middle after) :
    Stepped before after := by
  obtain ⟨inputs, rfl⟩ := first
  obtain ⟨others, rfl⟩ := second
  exact ⟨inputs ++ others, List.foldl_append.symm⟩

theorem Stepped.of_received (receives : Received before after) : Stepped before after := by
  obtain ⟨receivers, rfl⟩ := receives
  refine ⟨receivers.map .receive, ?_⟩
  rw [List.foldl_map]
  rfl

/-- Whatever the handler of touch events does is done by such steps. -/
theorem stepped_react (settings : TouchSettings) (handler : TouchHandler)
    (input : TouchHandler.PointerInput) :
    Stepped handler.dispatcher (handler.react settings input).dispatcher := by
  cases input with
  | touch event calls => exact .of_received (TouchHandler.received_onTouchEvent event calls)
  | genericMotion event calls =>
    exact .of_received (TouchHandler.received_onGenericMotionEvent event calls)
  | hover event => exact .of_received (TouchHandler.received_onHoverEvent event)
  | stylusTimeout call => exact .of_received (TouchHandler.received_onStylusCall call)
  | tapTimeout call => exact .of_received (TouchHandler.received_onTapCall call)
  | mouseBack => exact .of_received (received _ (.onMouseBack handler.lastHoverPoint))
  | gestureStyleChanged gestureStyle => exact stepped _ (.gestureStyleChanged gestureStyle)
  | frame operation => exact stepped _ (.frame operation)
  | serverPointerMove x y => exact stepped _ (.serverPointerMove x y)

/-- A run of touch events therefore is a run of the watched dispatcher. -/
theorem exists_run_of_touches (settings : TouchSettings) (profile : Profile) (pref : InputPref)
    (frameState : FrameState) (client : VncClient) (touches : List TouchHandler.PointerInput) :
    ∃ inputs : List PointerStep,
      ((TouchHandler.pointers settings profile pref frameState client).after
        touches).dispatcher =
        ((pointers profile pref frameState client).after inputs).dispatcher := by
  have steps : Stepped (pointers profile pref frameState client).start.dispatcher
      ((TouchHandler.pointers settings profile pref frameState client).after
        touches).dispatcher :=
    List.foldlRecOn touches (TouchHandler.step settings)
      (motive := fun state => Stepped _ state.dispatcher) ⟨[], rfl⟩
      fun state reached input _ => reached.trans (stepped_react settings state.handler input)
  obtain ⟨inputs, same⟩ := steps
  have watched : ((pointers profile pref frameState client).after inputs).dispatcher =
      inputs.foldl react (pointers profile pref frameState client).start.dispatcher :=
    (@List.foldl_hom _ _ _ WatchedState.dispatcher watch react inputs _ fun _ _ => rfl).symm
  exact ⟨inputs, same.trans watched.symm⟩

end TermPlux.PointerBounds
