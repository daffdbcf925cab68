/-
This file models the life of a VNC connection in `VncViewModel`, with the four
threads that take part: the main thread, the receiver coroutine, the sender thread
of `Messenger`, and the renderer. Each takes one step at a time, so a run of the
machine is an interleaving of the four.

The connection has two states that are meant to agree: the `state` that activities
observe, and the flag `connected` of the client, which the sender and the renderer
read before they use the native client. The receiver coroutine releases the native
client when the view model is cleared.
-/

import TermPlux.LiveData
import TermPlux.Machine
import TermPlux.Messenger
import TermPlux.ServerProfile

namespace TermPlux.Connection

/-! ### The receiver coroutine -/

/-- `VncViewModel.State` -/
inductive Status
  | Created
  | Connecting
  | Connected
  | Disconnected
  deriving DecidableEq

/-- Where the receiver coroutine stands. -/
inductive Receiver
  /-- `initConnection` has not launched it. -/
  | unlaunched
  | dispatched
  /-- In `serverUnlockRequest.requestResponse`. -/
  | unlocking
  /-- In `sshTunnel.open`. -/
  | opening
  /-- In `nativeInit`, with or without a gate to close afterwards. -/
  | initialising (gate : Bool)
  /-- In `TunnelGate.close`, after a connection that was made or not. -/
  | closingGate (made : Bool)
  /-- Before `state.postValue(State.Connected)`. -/
  | announcing
  /-- At the head of the loop of `processMessages`. -/
  | processing
  /-- In `nativeProcessServerMessage`. -/
  | receiving
  /-- Before `state.postValue(State.Disconnected)`. -/
  | ending
  /-- In `awaitCancellation`. -/
  | awaiting
  /-- Before `sender.shutdown()`. -/
  | shuttingDown
  /-- In `sender.awaitTermination`. -/
  | terminating
  /-- Before `connected = false` in `VncClient.cleanup`. -/
  | disconnecting
  /-- Before `nativeCleanup`. -/
  | releasing
  /-- Before `sshTunnel.close()`. -/
  | closingTunnel
  | completed
  deriving DecidableEq

/-! ### The sender thread and the renderer -/

/-- What `Messenger` hands to its executor. -/
inductive Action
  | pointerEvent (x y : Int) (mask : ButtonMask)
  | keyEvent (keySym xtCode : Int) (isDown : Bool)
  | buttonUpDelay
  | cutText (text : String)
  | desktopSize (width height : Int)
  | refresh
  deriving DecidableEq

/-- Where the sender thread stands in an action. -/
inductive Sender
  | idle
  /-- Before the check of `connected`. -/
  | checking (action : Action)
  /-- In a native method. -/
  | calling (action : Action)
  deriving DecidableEq

/-- Where the renderer stands in `onDrawFrame`. -/
inductive Renderer
  | idle
  /-- Between the check of `connected` and the end of the uploads. -/
  | drawing
  deriving DecidableEq

/-- The shared state of the threads. Activities are numbered. `values` logs what `state` was set
to, `notified` the versions that activities were notified of, `accepted` and `taken` what the
executor was given and what its thread took, `sent` the actions whose native method was called, all
oldest first. -/
structure State where
  live : LiveData Nat Status
  values : List Status
  notified : List (LiveData.Notice Nat)
  launches : Nat
  /-- `viewModelScope.isActive` -/
  active : Bool
  receiver : Receiver
  connected : Bool
  lastCutText : Option String
  /-- `nativeCleanup` was called. -/
  freed : Bool
  /-- `sender.isShutdown` -/
  shutdown : Bool
  queue : List Action
  sender : Sender
  accepted : List Action
  taken : List Action
  sent : List Action
  renderer : Renderer

/-- A new view model. The client is created with it. -/
def State.initial : State where
  live := { value := some .Created, version := 1 }
  values := [.Created]
  notified := []
  launches := 0
  active := true
  receiver := .unlaunched
  connected := false
  lastCutText := none
  freed := false
  shutdown := false
  queue := []
  sender := .idle
  accepted := []
  taken := []
  sent := []
  renderer := .idle

namespace State

/-- `sender.isTerminated` -/
def terminated (state : State) : Bool :=
  state.shutdown && state.queue.isEmpty && decide (state.sender = .idle)

/-! ### Steps of the main thread -/

/-- The activities that an operation of the live data notified. -/
def notify (state : State) (outcome : List Nat × LiveData Nat Status) : State :=
  { state with live := outcome.2, notified := state.notified ++ LiveData.notices outcome }

/-- `state.value = status` -/
def setStatus (state : State) (status : Status) : State :=
  { state.notify (state.live.setValue status) with values := state.values ++ [status] }

def launchConnection (state : State) : State :=
  { state with receiver := .dispatched, launches := state.launches + 1 }

def initConnection (state : State) : State :=
  if state.live.value = some .Created then (state.setStatus .Connecting).launchConnection else state

/-- The main thread runs what `postValue` posted. -/
def runPosted (state : State) : State :=
  match state.live.pending with
  | none => state
  | some status =>
    { state.notify state.live.runPosted with values := state.values ++ [status] }

/-! ### Steps of the receiver coroutine -/

def CHANNEL_TCP : Int32 := 1

def CHANNEL_SSH_TUNNEL : Int32 := 24

/-- How the channel of the profile is opened. -/
def connect (profile : ServerProfile) : Receiver :=
  if profile.channelType = CHANNEL_TCP then .initialising false
  else if profile.channelType = CHANNEL_SSH_TUNNEL then .opening
  else .ending

/-- The next step of the receiver coroutine. `succeeds` is the outcome of what it waits for: the
answer to the unlock request, whether a call succeeded, whether the sender thread terminated in
time. -/
def receive (profile : ServerProfile) (state : State) (succeeds : Bool) : State :=
  match state.receiver with
  | .unlaunched => state
  | .dispatched =>
    -- A coroutine that is cancelled before it starts does not run at all.
    if !state.active then { state with receiver := .completed }
    else if profile.ID ≠ 0 then { state with receiver := .unlocking }
    else { state with receiver := connect profile }
  | .unlocking => { state with receiver := if succeeds then connect profile else .ending }
  | .opening => { state with receiver := if succeeds then .initialising true else .ending }
  | .initialising gate =>
    { state with
      connected := succeeds
      receiver :=
        if gate then .closingGate succeeds else if succeeds then .announcing else .ending }
  | .closingGate made =>
    { state with receiver := if made && succeeds then .announcing else .ending }
  | .announcing =>
    { state with live := state.live.postValue .Connected, receiver := .processing }
  | .processing => { state with receiver := if state.active then .receiving else .ending }
  | .receiving =>
    if !state.connected || succeeds then { state with receiver := .processing }
    else { state with connected := false, receiver := .ending }
  | .ending =>
    { state with live := state.live.postValue .Disconnected, receiver := .awaiting }
  | .awaiting => { state with receiver := .shuttingDown }
  | .shuttingDown => { state with shutdown := true, receiver := .terminating }
  | .terminating => { state with receiver := .disconnecting }
  | .disconnecting => { state with connected := false, receiver := .releasing }
  | .releasing => { state with freed := true, receiver := .closingTunnel }
  | .closingTunnel => { state with receiver := .completed }
  | .completed => state

/-- `awaitCancellation` returns when the scope is cancelled. `awaitTermination` returns when the
executor is terminated, or when it times out. -/
def mayReceive (state : State) (succeeds : Bool) : Bool :=
  match state.receiver with
  | .unlaunched | .completed => false
  | .awaiting => !state.active
  | .terminating => !succeeds || state.terminated
  | _ => true

/-! ### Steps of the other threads -/

/-- `Messenger.execute`. A key event gets here only if `connected` was found true before. -/
def execute (state : State) (action : Action) : State :=
  if state.shutdown then state
  else { state with queue := state.queue ++ [action], accepted := state.accepted ++ [action] }

/-- Whether an action passes the checks of `VncClient` and calls a native method: `ifConnected`,
`ifConnectedAndInteractive`, and those of the method itself. -/
def calls (profile : ServerProfile) (state : State) : Action → Bool
  | .pointerEvent _ _ _ | .keyEvent _ _ _ => state.connected && !profile.viewOnly
  | .buttonUpDelay => false
  | .cutText text =>
    state.connected && !profile.viewOnly && decide (state.lastCutText ≠ some text)
  | .desktopSize width height => state.connected && decide (0 < width) && decide (0 < height)
  | .refresh => state.connected

/-- The next step of the sender thread. `succeeds` is what the native method returns. -/
def send (profile : ServerProfile) (state : State) (succeeds : Bool) : State :=
  match state.sender, state.queue with
  | .idle, [] => state
  | .idle, action :: rest =>
    { state with queue := rest, taken := state.taken ++ [action], sender := .checking action }
  | .checking action, _ =>
    { state with sender := if state.calls profile action then .calling action else .idle }
  | .calling action, _ =>
    { state with
      sender := .idle
      sent := state.sent ++ [action]
      lastCutText :=
        match action with
        | .cutText text => if succeeds then some text else state.lastCutText
        | _ => state.lastCutText }

def maySend (state : State) : Bool :=
  !(decide (state.sender = .idle) && state.queue.isEmpty)

/-- The next step of the renderer. There may be nothing to draw in the viewport. -/
def draw (state : State) (visible : Bool) : State :=
  match state.renderer with
  | .idle => { state with renderer := if state.connected && visible then .drawing else .idle }
  | .drawing => { state with renderer := .idle }

end State

/-! ### The machine -/

inductive Event
  | initConnection
  | runPosted
  /-- The view model is cleared, which cancels its scope. -/
  | clear
  | observe (activity : Nat)
  | activeStateChanged (activity : Nat) (active : Bool)
  | removeObserver (activity : Nat)
  | execute (action : Action)
  | receive (succeeds : Bool)
  /-- `cbGotXCutText` while a message is processed. -/
  | gotCutText (text : String)
  | send (succeeds : Bool)
  | draw (visible : Bool)

/-- An activity that was notified does not observe anew: one that is recreated is another one. -/
def Event.enabled (state : State) : Event → Bool
  | .initConnection => true
  | .runPosted => state.live.pending.isSome
  | .clear => state.active
  | .observe activity => state.notified.all fun notice => decide (notice.observer ≠ activity)
  | .activeStateChanged _ _ | .removeObserver _ | .execute _ | .draw _ => true
  | .receive succeeds => state.mayReceive succeeds
  | .gotCutText _ => decide (state.receiver = .receiving)
  | .send _ => state.maySend

def State.step (profile : ServerProfile) (state : State) : Event → State
  | .initConnection => state.initConnection
  | .runPosted => state.runPosted
  | .clear => { state with active := false }
  | .observe activity => { state with live := state.live.observe activity }
  | .activeStateChanged activity active =>
    state.notify (state.live.activeStateChanged activity active)
  | .removeObserver activity => { state with live := state.live.removeObserver activity }
  | .execute action => state.execute action
  | .receive succeeds => state.receive profile succeeds
  | .gotCutText text => { state with lastCutText := some text }
  | .send succeeds => state.send profile succeeds
  | .draw visible => state.draw visible

def machine (profile : ServerProfile) : Machine State Event where
  start := .initial
  enabled state event := event.enabled state = true
  step := State.step profile

instance (profile : ServerProfile) (state : State) (event : Event) :
    Decidable ((machine profile).enabled state event) :=
  inferInstanceAs (Decidable (event.enabled state = true))

end TermPlux.Connection
