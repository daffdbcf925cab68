/-
This file models the pointer part of `Messenger` and `VncClient`: the mask of
pressed buttons, the pointer events queued for the sender thread, and the pointer
position of the client.

Every change of the mask queues an event that carries the new mask, so the last
queued pointer event tells the server the current one.
-/

import TermPlux.BitMask
import TermPlux.Graphics

namespace TermPlux

open BitMask

/-! ### Buttons -/

inductive PointerButton
  | none
  | left
  | middle
  | right
  | wheelUp
  | wheelDown
  | wheelLeft
  | wheelRight
  deriving DecidableEq

/-- The buttons that are down, one bit each. -/
abbrev ButtonMask := BitVec 32

def PointerButton.bitMask : PointerButton → ButtonMask
  | .none => 0
  | .left => 1
  | .middle => 2
  | .right => 4
  | .wheelUp => 8
  | .wheelDown => 16
  | .wheelLeft => 32
  | .wheelRight => 64

/-! ### The client -/

/-- The pointer of a `VncClient`. -/
structure VncClient where
  pointerX : Int
  pointerY : Int
  ignorePointerMovesByServer : Bool
  deriving DecidableEq

namespace VncClient

def moveClientPointer (client : VncClient) (x y : Int) : VncClient :=
  { client with pointerX := x, pointerY := y }

def cbHandleCursorPos (client : VncClient) (x y : Int) : VncClient :=
  if !client.ignorePointerMovesByServer then client.moveClientPointer x y else client

end VncClient

/-! ### The messenger -/

/-- What the sender thread is asked to do. -/
inductive SenderTask
  | sendPointerEvent (x y : Int) (mask : ButtonMask)
  | sleep (milliseconds : Nat)
  deriving DecidableEq

def SenderTask.mask : SenderTask → Option ButtonMask
  | .sendPointerEvent _ _ mask => some mask
  | .sleep _ => none

structure Messenger where
  client : VncClient
  /-- The tasks given to the sender thread, the latest one last. -/
  queue : List SenderTask
  isShutdown : Bool
  pointerButtonMask : ButtonMask
  deriving DecidableEq

namespace Messenger

def execute (messenger : Messenger) (task : SenderTask) : Messenger :=
  if !messenger.isShutdown then { messenger with queue := messenger.queue ++ [task] }
  else messenger

def sendPointerEvent (messenger : Messenger) (mask : ButtonMask) (p : PointF) : Messenger :=
  { messenger with client := messenger.client.moveClientPointer (toInt p.x) (toInt p.y) }.execute
    (.sendPointerEvent (toInt p.x) (toInt p.y) mask)

/-- The two lines that every button event ends with: a new mask, sent. -/
def setPointerButtonMask (messenger : Messenger) (mask : ButtonMask) (p : PointF) : Messenger :=
  { messenger with pointerButtonMask := mask }.sendPointerEvent mask p

def sendPointerButtonDown (messenger : Messenger) (button : PointerButton) (p : PointF) :
    Messenger :=
  messenger.setPointerButtonMask (messenger.pointerButtonMask ||| button.bitMask) p

def sendPointerButtonUp (messenger : Messenger) (button : PointerButton) (p : PointF) :
    Messenger :=
  messenger.setPointerButtonMask (messenger.pointerButtonMask &&& ~~~button.bitMask) p

def sendPointerButtonRelease (messenger : Messenger) (p : PointF) : Messenger :=
  if messenger.pointerButtonMask ≠ 0 then messenger.setPointerButtonMask 0 p else messenger

def insertButtonUpDelay (messenger : Messenger) : Messenger := messenger.execute (.sleep 200)

/-! ### The last queued mask -/

/-- The masks of the queued pointer events. -/
def masks (messenger : Messenger) : List ButtonMask := messenger.queue.filterMap SenderTask.mask

/-- The sender thread runs, and what it sends last is the current mask. -/
structure Synced (messenger : Messenger) : Prop where
  running : messenger.isShutdown = false
  last : ∀ mask, messenger.masks.getLast? = some mask → mask = messenger.pointerButtonMask

@[simp] theorem execute_mask (messenger : Messenger) (task : SenderTask) :
    (messenger.execute task).pointerButtonMask = messenger.pointerButtonMask := by
  unfold execute
  split <;> rfl

@[simp] theorem execute_isShutdown (messenger : Messenger) (task : SenderTask) :
    (messenger.execute task).isShutdown = messenger.isShutdown := by
  unfold execute
  split <;> rfl

theorem masks_execute (messenger : Messenger) (task : SenderTask)
    (running : messenger.isShutdown = false) :
    (messenger.execute task).masks = messenger.masks ++ task.mask.toList := by
  rw [execute, running]
  cases task <;> simp [masks, SenderTask.mask]

@[simp] theorem setPointerButtonMask_mask (messenger : Messenger) (mask : ButtonMask)
    (p : PointF) : (messenger.setPointerButtonMask mask p).pointerButtonMask = mask :=
  execute_mask _ _

/-- A new mask is the one queued last. -/
theorem synced_setPointerButtonMask {messenger : Messenger} (synced : messenger.Synced)
    (mask : ButtonMask) (p : PointF) : (messenger.setPointerButtonMask mask p).Synced := by
  refine ⟨(execute_isShutdown _ _).trans synced.running, fun last queued => ?_⟩
  rw [setPointerButtonMask_mask]
  rw [setPointerButtonMask, sendPointerEvent, masks_execute] at queued
  · simpa [SenderTask.mask, eq_comm] using queued
  · exact synced.running

theorem synced_insertButtonUpDelay {messenger : Messenger} (synced : messenger.Synced) :
    messenger.insertButtonUpDelay.Synced := by
  refine ⟨(execute_isShutdown _ _).trans synced.running, fun last queued => ?_⟩
  rw [insertButtonUpDelay, execute_mask]
  rw [insertButtonUpDelay, masks_execute _ _ synced.running] at queued
  exact synced.last last (by simpa [SenderTask.mask] using queued)

theorem synced_sendPointerButtonRelease {messenger : Messenger} (synced : messenger.Synced)
    (p : PointF) : (messenger.sendPointerButtonRelease p).Synced := by
  unfold sendPointerButtonRelease
  split
  · exact synced_setPointerButtonMask synced 0 p
  · exact synced

@[simp] theorem sendPointerButtonRelease_mask (messenger : Messenger) (p : PointF) :
    (messenger.sendPointerButtonRelease p).pointerButtonMask = 0 := by
  unfold sendPointerButtonRelease
  split
  · exact setPointerButtonMask_mask messenger 0 p
  · rename_i none
    exact not_not.mp none

end Messenger

end TermPlux
