/-
This file models `Discovery`, which starts and stops the service discovery of
`NsdManager` and resolves the services it finds. Commands and callbacks only
enqueue actions, which a single thread executes in order, so a run interleaves
commands, callbacks and executed actions.

The two booleans of the implementation know a start that is outstanding, but not
a stop. A command that is executed while the opposite transition is outstanding is
dropped, and a second stop reaches the manager. As long as no command is executed
in such a moment, discovery agrees with the last command.
-/

import TermPlux.Machine
import TermPlux.ServerProfile

namespace TermPlux.Discovery

/-! ### The service manager -/

structure NsdServiceInfo where
  serviceName : String
  hostAddress : String
  port : Int32
  deriving DecidableEq

/-- The identity of a resolve listener. -/
abbrev ResolveListener := Nat

/-- `NsdManager` as its clients see it: whether it discovers services for the listener, the calls
whose callback is outstanding, and whether a call came at a wrong time. -/
structure NsdManager where
  running : Bool
  startsOutstanding : Nat
  stopsOutstanding : Nat
  resolving : List ResolveListener
  /-- Every service that was handed over for resolution, oldest first. -/
  resolved : List NsdServiceInfo
  misused : Bool

/-- It must not be called while discovery is running or a start is outstanding. -/
def NsdManager.discoverServices (manager : NsdManager) : NsdManager :=
  { manager with
    startsOutstanding := manager.startsOutstanding + 1
    misused := manager.misused || manager.running || decide (0 < manager.startsOutstanding) }

/-- It must not be called while discovery is stopped or a stop is outstanding. -/
def NsdManager.stopServiceDiscovery (manager : NsdManager) : NsdManager :=
  { manager with
    stopsOutstanding := manager.stopsOutstanding + 1
    misused := manager.misused || !manager.running || decide (0 < manager.stopsOutstanding) }

def NsdManager.resolveService (manager : NsdManager) (serviceInfo : NsdServiceInfo)
    (listener : ResolveListener) : NsdManager :=
  { manager with
    resolving := manager.resolving ++ [listener]
    resolved := manager.resolved ++ [serviceInfo] }

/-! ### The implementation -/

inductive Command
  | start
  | stop
  deriving DecidableEq

/-- What the executor can be asked to run. -/
inductive Action
  | start
  | stop
  | onStarted
  | onStopped
  | onStartFailed
  | onServiceFound (serviceInfo : NsdServiceInfo)
  | onServiceLost (serviceInfo : NsdServiceInfo)
  | onResolved (si : NsdServiceInfo)
  | onResolveFinished (finishedResolve : ResolveListener)
  deriving DecidableEq

/-- The implementation with its executor and the manager it talks to. `lastCommand` and
`startFailed` are history: the command given last, and whether a start has failed since a start
was executed last. -/
structure State where
  manager : NsdManager
  queue : List Action
  /-- The two services, which are looked up by the first start. -/
  wifiManager : Bool
  nsdManager : Bool
  /-- Whether the field refers to a lock, and how many locks are held. -/
  multicastLock : Bool
  heldLocks : Nat
  started : Bool
  startRequested : Bool
  pendingResolves : List (ResolveListener × NsdServiceInfo)
  resolvedProfiles : List ServerProfile
  nextListener : ResolveListener
  servers : List ServerProfile
  isRunning : Bool
  lastCommand : Option Command
  startFailed : Bool

namespace State

def execute (state : State) (action : Action) : State :=
  { state with queue := state.queue ++ [action] }

def postResolvedProfiles (state : State) : State :=
  { state with servers := state.resolvedProfiles }

def start (state : State) : State :=
  if state.startRequested || state.started then state
  else
    { state with
      wifiManager := true
      nsdManager := true
      manager := state.manager.discoverServices
      startRequested := true
      resolvedProfiles := [] }.postResolvedProfiles

def stop (state : State) : State :=
  if state.started && state.nsdManager then
    { state with manager := state.manager.stopServiceDiscovery }
  else state

def onStarted (state : State) : State :=
  { state with
    started := true
    startRequested := false
    isRunning := true
    multicastLock := state.wifiManager
    heldLocks := if state.wifiManager then state.heldLocks + 1 else state.heldLocks }

def onStopped (state : State) : State :=
  { state with
    started := false
    isRunning := false
    heldLocks := if state.multicastLock then state.heldLocks - 1 else state.heldLocks
    multicastLock := false }

def onStartFailed (state : State) : State :=
  { state with startRequested := false }

def onServiceFound (state : State) (serviceInfo : NsdServiceInfo) : State :=
  let listener := state.nextListener
  let added :=
    { state with
      nextListener := listener + 1
      pendingResolves := state.pendingResolves ++ [(listener, serviceInfo)] }
  -- only the first pending service starts the chain
  if added.pendingResolves.length = 1 && state.nsdManager then
    { added with manager := added.manager.resolveService serviceInfo listener }
  else added

def onServiceLost (state : State) (serviceInfo : NsdServiceInfo) : State :=
  { state with
    resolvedProfiles :=
      state.resolvedProfiles.filter (·.name ≠ serviceInfo.serviceName) }.postResolvedProfiles

/-- The profile is added to a set, which keeps an equal one that it holds already. -/
def onResolved (state : State) (si : NsdServiceInfo) : State :=
  let profile : ServerProfile := { name := si.serviceName, host := si.hostAddress, port := si.port }
  { state with
    resolvedProfiles :=
      if profile ∈ state.resolvedProfiles then state.resolvedProfiles
      else state.resolvedProfiles ++ [profile] }.postResolvedProfiles

def onResolveFinished (state : State) (finishedResolve : ResolveListener) : State :=
  let removed :=
    { state with
      pendingResolves := state.pendingResolves.filter (·.1 ≠ finishedResolve) }
  match removed.pendingResolves.head? with
  | none => removed
  | some (listener, serviceInfo) =>
    if state.nsdManager then
      { removed with manager := removed.manager.resolveService serviceInfo listener }
    else removed

/-- Runs an action, and notes how the starts fare. -/
def run (state : State) : Action → State
  | .start => { state.start with startFailed := false }
  | .stop => state.stop
  | .onStarted => state.onStarted
  | .onStopped => state.onStopped
  | .onStartFailed => { state.onStartFailed with startFailed := true }
  | .onServiceFound serviceInfo => state.onServiceFound serviceInfo
  | .onServiceLost serviceInfo => state.onServiceLost serviceInfo
  | .onResolved si => state.onResolved si
  | .onResolveFinished finishedResolve => state.onResolveFinished finishedResolve

end State

/-! ### What an action can do -/

/-- A start that is not ignored forgets the profiles. -/
theorem start_eq (state : State) : state.start = state ∨
    state.start =
      { state with
        wifiManager := true
        nsdManager := true
        manager := state.manager.discoverServices
        startRequested := true
        resolvedProfiles := []
        servers := [] } := by
  unfold State.start
  split
  · exact .inl rfl
  · exact .inr rfl

/-- A stop only tells the manager. -/
theorem stop_eq (state : State) : ∃ stopsOutstanding misused,
    state.stop =
      { state with
        manager := { state.manager with
          stopsOutstanding := stopsOutstanding
          misused := misused } } := by
  unfold State.stop
  split
  · exact ⟨_, _, rfl⟩
  · exact ⟨_, _, rfl⟩

/-- A found service is pending, whether or not the manager is told. -/
theorem onServiceFound_eq (state : State) (serviceInfo : NsdServiceInfo) :
    ∃ resolving resolved, state.onServiceFound serviceInfo =
      { state with
        manager := { state.manager with resolving := resolving, resolved := resolved }
        nextListener := state.nextListener + 1
        pendingResolves := state.pendingResolves ++ [(state.nextListener, serviceInfo)] } := by
  unfold State.onServiceFound
  dsimp only
  split
  · exact ⟨_, _, rfl⟩
  · exact ⟨_, _, rfl⟩

/-- A finished resolve is no longer pending, whether or not the manager is told of another. -/
theorem onResolveFinished_eq (state : State) (finishedResolve : ResolveListener) :
    ∃ resolving resolved, state.onResolveFinished finishedResolve =
      { state with
        manager := { state.manager with resolving := resolving, resolved := resolved }
        pendingResolves := state.pendingResolves.filter (·.1 ≠ finishedResolve) } := by
  unfold State.onResolveFinished
  dsimp only
  split
  · exact ⟨_, _, rfl⟩
  · split
    · exact ⟨_, _, rfl⟩
    · exact ⟨_, _, rfl⟩

/-- No action touches the queue or the last command. -/
theorem run_keeps (state : State) (action : Action) :
    (state.run action).queue = state.queue ∧
      (state.run action).lastCommand = state.lastCommand := by
  cases action with
  | start =>
    show state.start.queue = _ ∧ state.start.lastCommand = _
    rcases start_eq state with same | same <;> rw [same] <;> exact ⟨rfl, rfl⟩
  | stop =>
    obtain ⟨_, _, same⟩ := stop_eq state
    show state.stop.queue = _ ∧ state.stop.lastCommand = _
    rw [same]
    exact ⟨rfl, rfl⟩
  | onServiceFound serviceInfo =>
    obtain ⟨_, _, same⟩ := onServiceFound_eq state serviceInfo
    show (state.onServiceFound serviceInfo).queue = _ ∧
      (state.onServiceFound serviceInfo).lastCommand = _
    rw [same]
    exact ⟨rfl, rfl⟩
  | onResolveFinished finishedResolve =>
    obtain ⟨_, _, same⟩ := onResolveFinished_eq state finishedResolve
    show (state.onResolveFinished finishedResolve).queue = _ ∧
      (state.onResolveFinished finishedResolve).lastCommand = _
    rw [same]
    exact ⟨rfl, rfl⟩
  | onStarted | onStopped | onStartFailed | onServiceLost _ | onResolved _ => exact ⟨rfl, rfl⟩

/-! ### Runs -/

inductive Event
  /-- `start()` and `stop()`, called by any thread. -/
  | command (command : Command)
  /-- The executor runs the action at the head of its queue. -/
  | execute
  | onDiscoveryStarted
  | onStartDiscoveryFailed
  | onDiscoveryStopped
  | onStopDiscoveryFailed
  | onServiceFound (serviceInfo : NsdServiceInfo)
  | onServiceLost (serviceInfo : NsdServiceInfo)
  | onServiceResolved (listener : ResolveListener) (serviceInfo : NsdServiceInfo)
  | onResolveFailed (listener : ResolveListener)
  deriving DecidableEq

def Command.action : Command → Action
  | .start => .start
  | .stop => .stop

/-- A callback arrives at most once per outstanding call. -/
def Event.enabled (state : State) : Event → Prop
  | .command _ | .onServiceFound _ | .onServiceLost _ => True
  | .execute => state.queue ≠ []
  | .onDiscoveryStarted | .onStartDiscoveryFailed => 0 < state.manager.startsOutstanding
  | .onDiscoveryStopped | .onStopDiscoveryFailed => 0 < state.manager.stopsOutstanding
  | .onServiceResolved listener _ | .onResolveFailed listener =>
    listener ∈ state.manager.resolving

/-- The manager ends a start, and the listener reports it. -/
def State.startEnds (state : State) (running : Bool) (action : Action) : State :=
  { state with
    manager := { state.manager with
      running := running || state.manager.running
      startsOutstanding := state.manager.startsOutstanding - 1 } }.execute action

/-- The manager ends a stop and forgets the listener, also where it reports a failure. -/
def State.stopEnds (state : State) : State :=
  { state with
    manager := { state.manager with
      running := false
      stopsOutstanding := state.manager.stopsOutstanding - 1 } }.execute .onStopped

def State.resolveEnds (state : State) (listener : ResolveListener) : State :=
  { state with
    manager := { state.manager with resolving := state.manager.resolving.erase listener } }

def State.step (state : State) : Event → State
  | .command command =>
    { state.execute command.action with lastCommand := some command }
  | .execute =>
    match state.queue with
    | [] => state
    | action :: rest => { state with queue := rest }.run action
  | .onDiscoveryStarted => state.startEnds true .onStarted
  | .onStartDiscoveryFailed => state.startEnds false .onStartFailed
  | .onDiscoveryStopped | .onStopDiscoveryFailed => state.stopEnds
  | .onServiceFound serviceInfo => state.execute (.onServiceFound serviceInfo)
  | .onServiceLost serviceInfo => state.execute (.onServiceLost serviceInfo)
  | .onServiceResolved listener serviceInfo =>
    ((state.resolveEnds listener).execute (.onResolved serviceInfo)).execute
      (.onResolveFinished listener)
  | .onResolveFailed listener =>
    (state.resolveEnds listener).execute (.onResolveFinished listener)

theorem step_execute {state : State} {action : Action} {rest : List Action}
    (waiting : state.queue = action :: rest) :
    state.step .execute = ({ state with queue := rest } : State).run action := by
  unfold State.step
  rw [waiting]

/-- A fresh `Discovery` and everything that can happen to it. -/
def machine : Machine State Event where
  start :=
    { manager :=
        { running := false, startsOutstanding := 0, stopsOutstanding := 0, resolving := []
          resolved := [], misused := false }
      queue := []
      wifiManager := false
      nsdManager := false
      multicastLock := false
      heldLocks := 0
      started := false
      startRequested := false
      pendingResolves := []
      resolvedProfiles := []
      nextListener := 0
      servers := []
      isRunning := false
      lastCommand := none
      startFailed := false }
  enabled state event := event.enabled state
  step := State.step

instance (state : State) : ∀ event : Event, Decidable (machine.enabled state event)
  | .command _ | .onServiceFound _ | .onServiceLost _ => .isTrue trivial
  | .execute => inferInstanceAs (Decidable (state.queue ≠ []))
  | .onDiscoveryStarted | .onStartDiscoveryFailed | .onDiscoveryStopped
  | .onStopDiscoveryFailed => inferInstanceAs (Decidable (0 < _))
  | .onServiceResolved _ _ | .onResolveFailed _ => inferInstanceAs (Decidable (_ ∈ _))

/-! ### The phases of a discovery -/

/-- Where a discovery stands whose commands are only executed when no transition they would
interfere with is on its way. -/
inductive Phase
  | idle
  /-- The manager has been asked to start. -/
  | startOutstanding
  /-- It has started, or failed to, and the listener's action is not executed yet. -/
  | startDone
  | startRefused
  | running
  /-- The manager has been asked to stop. -/
  | stopOutstanding
  /-- It has stopped, and the listener's action is not executed yet. -/
  | stopDone
  deriving DecidableEq

namespace Phase

def startRequested : Phase → Bool
  | .startOutstanding | .startDone | .startRefused => true
  | _ => false

def started : Phase → Bool
  | .running | .stopOutstanding | .stopDone => true
  | _ => false

/-- Whether the manager discovers services. -/
def discovering : Phase → Bool
  | .startDone | .running | .stopOutstanding => true
  | _ => false

def startsOutstanding : Phase → Nat
  | .startOutstanding => 1
  | _ => 0

def stopsOutstanding : Phase → Nat
  | .stopOutstanding => 1
  | _ => 0

/-- The actions of the listener that wait to be executed. -/
def notices : Phase → List Action
  | .startDone => [.onStarted]
  | .startRefused => [.onStartFailed]
  | .stopDone => [.onStopped]
  | _ => []

def stopping : Phase → Bool
  | .stopOutstanding | .stopDone => true
  | _ => false

/-- What executing a start makes of a phase, and executing a stop. -/
def start : Phase → Phase
  | .idle => .startOutstanding
  | phase => phase

def stop : Phase → Phase
  | .running => .stopOutstanding
  | phase => phase

/-- The phase is one that the command executed last leads to, unless a start has failed. -/
def Follows (phase : Phase) (startFailed : Bool) : Option Command → Prop
  | some .start => phase.startRequested = true ∨ phase = .running ∨ startFailed = true
  | some .stop | none => phase = .idle ∨ phase.stopping = true

variable {startFailed : Bool}

/-- A transition that the manager ends follows the same command. -/
theorem follows_ended : ∀ {last : Option Command},
    (Phase.startOutstanding.Follows startFailed last →
      Phase.startDone.Follows startFailed last ∧ Phase.startRefused.Follows startFailed last) ∧
      (Phase.stopOutstanding.Follows startFailed last → Phase.stopDone.Follows startFailed last)
  | some .start =>
    ⟨fun _ => ⟨.inl rfl, .inl rfl⟩, fun led => by simpa [Follows, startRequested] using led⟩
  | some .stop | none => ⟨fun led => by simp [Follows, stopping] at led, fun _ => .inr rfl⟩

/-- So does one that the implementation is told of. -/
theorem follows_told : ∀ {last : Option Command},
    (Phase.startDone.Follows startFailed last → Phase.running.Follows startFailed last) ∧
      (Phase.stopDone.Follows startFailed last → Phase.idle.Follows startFailed last)
  | some .start =>
    ⟨fun _ => .inr (.inl rfl), fun led => by simpa [Follows, startRequested] using led⟩
  | some .stop | none => ⟨fun led => by simp [Follows, stopping] at led, fun _ => .inl rfl⟩

/-- Every command is followed by a failed start. -/
theorem follows_failed : ∀ {last : Option Command}, Phase.idle.Follows true last
  | some .start => .inr (.inr rfl)
  | some .stop | none => .inl rfl

end Phase

/-- The actions by which the listener tells the implementation how a call to the manager ended. -/
def Action.isNotice : Action → Bool
  | .onStarted | .onStopped | .onStartFailed => true
  | _ => false

def Action.command : Action → Option Command
  | .start => some .start
  | .stop => some .stop
  | _ => none

/-- A stop is on its way: the manager has not ended it, or the implementation has not been told
yet. -/
def State.Stopping (state : State) : Prop :=
  0 < state.manager.stopsOutstanding ∨ Action.onStopped ∈ state.queue

instance (state : State) : Decidable state.Stopping :=
  inferInstanceAs (Decidable (_ ∨ _))

/-- The next action is no command while a stop is on its way, and no stop while a start is
requested. -/
def State.Admits (state : State) : Option Action → Prop
  | some .start => ¬state.Stopping
  | some .stop => state.startRequested = false ∧ ¬state.Stopping
  | _ => True

def Undisturbed (state : State) : Event → Prop
  | .execute => state.Admits state.queue.head?
  | _ => True

/-- What a state shows of a phase, and what holds besides. -/
structure State.InPhase (state : State) (phase : Phase) : Prop where
  startRequested : state.startRequested = phase.startRequested
  started : state.started = phase.started
  running : state.manager.running = phase.discovering
  starts : state.manager.startsOutstanding = phase.startsOutstanding
  stops : state.manager.stopsOutstanding = phase.stopsOutstanding
  notices : state.queue.filter Action.isNotice = phase.notices
  services : phase ≠ .idle → state.wifiManager = true ∧ state.nsdManager = true
  lock : state.multicastLock = phase.started
  held : state.heldLocks = phase.started.toNat
  proper : state.manager.misused = false

/-- The commands in the queue end with the last one, and where none is left the phase follows
it. -/
structure State.Follows (state : State) (phase : Phase) : Prop where
  last : ∀ command ∈ (state.queue.filterMap Action.command).getLast?,
    state.lastCommand = some command
  settled : state.queue.filterMap Action.command = [] →
    phase.Follows state.startFailed state.lastCommand

variable {state : State} {phase : Phase} {action : Action} {rest : List Action}

theorem State.InPhase.not_stopping (inPhase : state.InPhase phase) (calm : ¬state.Stopping) :
    phase.stopping = false := by
  by_contra stopping
  refine calm ?_
  have notices := inPhase.notices
  have stops := inPhase.stops
  cases phase with
  | stopOutstanding => exact .inl (stops ▸ Nat.one_pos)
  | stopDone =>
    have waits : Action.onStopped ∈ state.queue.filter Action.isNotice :=
      notices ▸ List.mem_singleton.mpr rfl
    exact .inr (List.mem_filter.mp waits).1
  | _ => exact absurd rfl stopping

/-! ### Enqueued actions -/

/-- Enqueueing an action that is no notice does not change the phase. -/
theorem inPhase_execute (inPhase : state.InPhase phase) (plain : action.isNotice = false) :
    (state.execute action).InPhase phase := by
  refine { inPhase with notices := ?_ }
  show (state.queue ++ [action]).filter Action.isNotice = phase.notices
  rw [List.filter_append, inPhase.notices, List.filter_singleton, plain]
  exact List.append_nil _

/-- A step that touches no command, and with it no start that failed. -/
theorem State.Follows.kept {next : State} (follows : state.Follows phase)
    (commands : next.queue.filterMap Action.command = state.queue.filterMap Action.command)
    (last : next.lastCommand = state.lastCommand) (failed : next.startFailed = state.startFailed) :
    next.Follows phase := by
  constructor
  · intro command member
    rw [last]
    exact follows.last command (commands ▸ member)
  · intro settled
    rw [last, failed]
    exact follows.settled (commands.symm.trans settled)

theorem follows_execute (follows : state.Follows phase) (plain : action.command = none) :
    (state.execute action).Follows phase := by
  refine follows.kept ?_ rfl rfl
  show (state.queue ++ [action]).filterMap Action.command = _
  rw [List.filterMap_append, List.filterMap_cons_none plain, List.filterMap_nil, List.append_nil]

/-- A command enters the queue. -/
theorem follows_command (command : Command) :
    ({ state.execute command.action with lastCommand := some command } : State).Follows phase := by
  have entered : (state.queue ++ [command.action]).filterMap Action.command =
      state.queue.filterMap Action.command ++ [command] := by
    rw [List.filterMap_append]
    cases command <;> rfl
  constructor
  · intro other member
    rw [show ({ state.execute command.action with lastCommand := some command } : State).queue =
      state.queue ++ [command.action] from rfl, entered, List.getLast?_concat] at member
    exact congrArg some (Option.mem_some_iff.mp member)
  · intro settled
    exact absurd (entered.symm.trans settled) (List.append_ne_nil_of_right_ne_nil _ (by simp))

/-- The manager ends a start. -/
theorem inPhase_startEnds (inPhase : state.InPhase phase)
    (outstanding : 0 < state.manager.startsOutstanding) :
    phase = .startOutstanding ∧ (state.startEnds true .onStarted).InPhase .startDone ∧
      (state.startEnds false .onStartFailed).InPhase .startRefused := by
  have requested : phase = .startOutstanding := by
    rw [inPhase.starts] at outstanding
    cases phase with
    | startOutstanding => rfl
    | _ => cases outstanding
  subst requested
  have noted (notice : Action) (isNotice : notice.isNotice = true) :
      (state.queue ++ [notice]).filter Action.isNotice = [notice] := by
    rw [List.filter_append, inPhase.notices, List.filter_singleton, isNotice]
    rfl
  have none : state.manager.startsOutstanding - 1 = 0 := by rw [inPhase.starts]; rfl
  have services := inPhase.services (by decide)
  exact ⟨rfl,
    { inPhase with
      running := rfl, starts := none, notices := noted _ rfl, services := fun _ => services },
    { inPhase with starts := none, notices := noted _ rfl, services := fun _ => services }⟩

theorem inPhase_stopEnds (inPhase : state.InPhase phase)
    (outstanding : 0 < state.manager.stopsOutstanding) :
    phase = .stopOutstanding ∧ state.stopEnds.InPhase .stopDone := by
  have requested : phase = .stopOutstanding := by
    rw [inPhase.stops] at outstanding
    cases phase with
    | stopOutstanding => rfl
    | _ => cases outstanding
  subst requested
  refine ⟨rfl, { inPhase with running := rfl, stops := ?_, notices := ?_, services := ?_ }⟩
  · show state.manager.stopsOutstanding - 1 = 0
    rw [inPhase.stops]
    rfl
  · show (state.queue ++ [Action.onStopped]).filter Action.isNotice = [.onStopped]
    rw [List.filter_append, inPhase.notices]
    rfl
  · exact fun _ => inPhase.services (by decide)

/-! ### Executed actions -/

/-- The state whose first action is about to be executed. -/
theorem inPhase_pop (inPhase : state.InPhase phase) (waiting : state.queue = action :: rest)
    (plain : action.isNotice = false) : ({ state with queue := rest } : State).InPhase phase := by
  refine { inPhase with notices := ?_ }
  have notices := inPhase.notices
  rwa [waiting, List.filter_cons_of_neg (by rw [plain]; decide)] at notices

theorem follows_pop (follows : state.Follows phase) (waiting : state.queue = action :: rest)
    (plain : action.command = none) : ({ state with queue := rest } : State).Follows phase := by
  refine follows.kept ?_ rfl rfl
  rw [waiting, List.filterMap_cons_none plain]

/-- After a command was executed its phase follows it, whatever else happened. -/
theorem follows_executed (follows : state.Follows phase) {command : Command} {after : State}
    (waiting : state.queue = action :: rest) (given : action.command = some command)
    (queue : after.queue = rest) (last : after.lastCommand = state.lastCommand)
    {next : Phase} (leads : next.Follows after.startFailed (some command)) :
    after.Follows next := by
  have commands : state.queue.filterMap Action.command =
      command :: rest.filterMap Action.command := by
    rw [waiting, List.filterMap_cons_some given]
  constructor
  · intro other member
    rw [queue] at member
    rw [last]
    refine follows.last other ?_
    rw [commands, List.getLast?_cons, Option.mem_def.mp member]
    rfl
  · intro settled
    rw [queue] at settled
    have latest : state.lastCommand = some command := by
      refine follows.last command ?_
      rw [commands, settled]
      rfl
    rw [last, latest]
    exact leads

/-- Executing a start while no stop is on its way. -/
theorem inPhase_start (inPhase : state.InPhase phase) (calm : phase.stopping = false) :
    state.start.InPhase phase.start ∧ ∀ startFailed,
      phase.start.Follows startFailed (some .start) := by
  have requested := inPhase.startRequested
  have started := inPhase.started
  unfold State.start
  cases phase with
  | idle =>
    rw [if_neg (by rw [requested, started]; decide)]
    refine ⟨{ inPhase with
      startRequested := rfl, starts := ?_, services := fun _ => ⟨rfl, rfl⟩, proper := ?_ },
      fun _ => .inl rfl⟩
    · show state.manager.startsOutstanding + 1 = 1
      rw [inPhase.starts]
      rfl
    · show (state.manager.misused || state.manager.running ||
        decide (0 < state.manager.startsOutstanding)) = false
      rw [inPhase.proper, inPhase.running, inPhase.starts]
      rfl
  | startOutstanding | startDone | startRefused =>
    rw [if_pos (by rw [requested]; rfl)]
    exact ⟨inPhase, fun _ => .inl rfl⟩
  | running =>
    rw [if_pos (by rw [requested, started]; rfl)]
    exact ⟨inPhase, fun _ => .inr (.inl rfl)⟩
  | stopOutstanding | stopDone => cases calm

/-- Executing a stop while no transition is on its way. -/
theorem inPhase_stop (inPhase : state.InPhase phase) (calm : phase.stopping = false)
    (unrequested : state.startRequested = false) :
    state.stop.InPhase phase.stop ∧ ∀ startFailed,
      phase.stop.Follows startFailed (some .stop) := by
  have requested := inPhase.startRequested.symm.trans unrequested
  have started := inPhase.started
  unfold State.stop
  cases phase with
  | idle =>
    rw [if_neg (by rw [started]; exact Bool.false_ne_true)]
    exact ⟨inPhase, fun _ => .inl rfl⟩
  | running =>
    have services := inPhase.services (by decide)
    rw [if_pos (by rw [started, services.2]; rfl)]
    refine ⟨{ inPhase with stops := ?_, services := fun _ => services, proper := ?_ },
      fun _ => .inr rfl⟩
    · show state.manager.stopsOutstanding + 1 = 1
      rw [inPhase.stops]
      rfl
    · show (state.manager.misused || !state.manager.running ||
        decide (0 < state.manager.stopsOutstanding)) = false
      rw [inPhase.proper, inPhase.running, inPhase.stops]
      rfl
  | startOutstanding | startDone | startRefused => cases requested
  | stopOutstanding | stopDone => cases calm

/-- A notice in the queue tells the phase, and that there is no other. -/
theorem phase_of_notice (inPhase : state.InPhase phase) (waiting : state.queue = action :: rest)
    (isNotice : action.isNotice = true) :
    phase.notices = [action] ∧ rest.filter Action.isNotice = [] := by
  have notices := inPhase.notices
  rw [waiting, List.filter_cons_of_pos isNotice] at notices
  cases phase with
  | startDone | startRefused | stopDone =>
    obtain ⟨same, none⟩ := List.cons.inj notices
    exact ⟨same ▸ rfl, none⟩
  | _ => cases notices

/-- The phase that each notice ends. -/
theorem Phase.of_notices :
    (phase.notices = [.onStarted] → phase = .startDone) ∧
      (phase.notices = [.onStopped] → phase = .stopDone) ∧
      (phase.notices = [.onStartFailed] → phase = .startRefused) := by
  cases phase <;> exact ⟨by decide, by decide, by decide⟩

/-- Executing a notice. -/
theorem tracked_notice (inPhase : state.InPhase phase) (follows : state.Follows phase)
    (waiting : state.queue = action :: rest) (isNotice : action.isNotice = true) :
    ∃ next, (({ state with queue := rest } : State).run action).InPhase next ∧
      (({ state with queue := rest } : State).run action).Follows next := by
  obtain ⟨only, others⟩ := phase_of_notice inPhase waiting isNotice
  have popped (plain : action.command = none) := follows_pop follows waiting plain
  cases action with
  | onStarted =>
    obtain rfl := Phase.of_notices.1 only
    have services := inPhase.services (by decide)
    refine ⟨.running, { inPhase with
      startRequested := rfl, started := rfl, notices := others, services := fun _ => services
      lock := services.1, held := ?_ },
      ⟨(popped rfl).last, fun settled => Phase.follows_told.1 ((popped rfl).settled settled)⟩⟩
    show (if state.wifiManager then state.heldLocks + 1 else state.heldLocks) = 1
    rw [if_pos services.1, inPhase.held]
    rfl
  | onStopped =>
    obtain rfl := Phase.of_notices.2.1 only
    refine ⟨.idle, { inPhase with
      started := rfl, notices := others, services := fun busy => absurd rfl busy, lock := rfl
      held := ?_ },
      ⟨(popped rfl).last, fun settled => Phase.follows_told.2 ((popped rfl).settled settled)⟩⟩
    have locked : state.multicastLock = true := inPhase.lock
    show (if state.multicastLock then state.heldLocks - 1 else state.heldLocks) = 0
    rw [if_pos locked, inPhase.held]
    rfl
  | onStartFailed =>
    obtain rfl := Phase.of_notices.2.2 only
    exact ⟨.idle, { inPhase with
      startRequested := rfl, notices := others, services := fun busy => absurd rfl busy },
      ⟨(popped rfl).last, fun _ => Phase.follows_failed⟩⟩
  | _ => cases isNotice

/-- Executing an action about services. -/
theorem tracked_service (inPhase : state.InPhase phase) (follows : state.Follows phase) :
    (∀ serviceInfo, (state.onServiceFound serviceInfo).InPhase phase ∧
        (state.onServiceFound serviceInfo).Follows phase) ∧
      (∀ serviceInfo, (state.onServiceLost serviceInfo).InPhase phase ∧
        (state.onServiceLost serviceInfo).Follows phase) ∧
      (∀ si, (state.onResolved si).InPhase phase ∧ (state.onResolved si).Follows phase) ∧
      (∀ finishedResolve, (state.onResolveFinished finishedResolve).InPhase phase ∧
        (state.onResolveFinished finishedResolve).Follows phase) := by
  refine ⟨fun serviceInfo => ?_, fun serviceInfo => ?_, fun si => ?_, fun finishedResolve => ?_⟩
  · obtain ⟨_, _, same⟩ := onServiceFound_eq state serviceInfo
    rw [same]
    exact ⟨{ inPhase with }, follows.kept rfl rfl rfl⟩
  · exact ⟨{ inPhase with }, follows.kept rfl rfl rfl⟩
  · exact ⟨{ inPhase with }, follows.kept rfl rfl rfl⟩
  · obtain ⟨_, _, same⟩ := onResolveFinished_eq state finishedResolve
    rw [same]
    exact ⟨{ inPhase with }, follows.kept rfl rfl rfl⟩

/-! ### Runs that are not disturbed -/

/-- The state shows some phase, and its commands follow from it. -/
def State.Tracked (state : State) : Prop :=
  ∃ phase, state.InPhase phase ∧ state.Follows phase

/-- Executing an undisturbed action. -/
theorem tracked_run (tracked : state.Tracked) (waiting : state.queue = action :: rest)
    (undisturbed : Undisturbed state .execute) :
    (({ state with queue := rest } : State).run action).Tracked := by
  obtain ⟨phase, inPhase, follows⟩ := tracked
  unfold Undisturbed at undisturbed
  rw [waiting] at undisturbed
  have service (plain : action.isNotice = false) (none : action.command = none) :=
    tracked_service (inPhase_pop inPhase waiting plain) (follows_pop follows waiting none)
  cases action with
  | start =>
    obtain ⟨led, leads⟩ := inPhase_start (inPhase_pop inPhase waiting rfl)
      (inPhase.not_stopping undisturbed)
    have keeps := run_keeps { state with queue := rest } .start
    exact ⟨phase.start, { led with },
      follows_executed follows waiting rfl keeps.1 keeps.2 (leads false)⟩
  | stop =>
    obtain ⟨led, leads⟩ := inPhase_stop (inPhase_pop inPhase waiting rfl)
      (inPhase.not_stopping undisturbed.2) undisturbed.1
    have keeps := run_keeps { state with queue := rest } .stop
    exact ⟨phase.stop, led, follows_executed follows waiting rfl keeps.1 keeps.2 (leads _)⟩
  | onStarted | onStopped | onStartFailed => exact tracked_notice inPhase follows waiting rfl
  | onServiceFound serviceInfo => exact ⟨phase, (service rfl rfl).1 serviceInfo⟩
  | onServiceLost serviceInfo => exact ⟨phase, (service rfl rfl).2.1 serviceInfo⟩
  | onResolved si => exact ⟨phase, (service rfl rfl).2.2.1 si⟩
  | onResolveFinished finishedResolve => exact ⟨phase, (service rfl rfl).2.2.2 finishedResolve⟩

theorem tracked_step {event : Event} (tracked : state.Tracked) (enabled : event.enabled state)
    (undisturbed : Undisturbed state event) : (state.step event).Tracked := by
  obtain ⟨phase, inPhase, follows⟩ := tracked
  cases event with
  | command command =>
    refine ⟨phase, ?_, follows_command command⟩
    exact { inPhase_execute inPhase (by cases command <;> rfl) with }
  | execute =>
    obtain ⟨action, rest, waiting⟩ := List.exists_cons_of_ne_nil enabled
    rw [step_execute waiting]
    exact tracked_run ⟨phase, inPhase, follows⟩ waiting undisturbed
  | onDiscoveryStarted =>
    obtain ⟨rfl, ended, -⟩ := inPhase_startEnds inPhase enabled
    have told := @follows_execute _ _ .onStarted follows rfl
    exact ⟨_, ended, told.last, fun settled => (Phase.follows_ended.1 (told.settled settled)).1⟩
  | onStartDiscoveryFailed =>
    obtain ⟨rfl, -, ended⟩ := inPhase_startEnds inPhase enabled
    have told := @follows_execute _ _ .onStartFailed follows rfl
    exact ⟨_, ended, told.last, fun settled => (Phase.follows_ended.1 (told.settled settled)).2⟩
  | onDiscoveryStopped | onStopDiscoveryFailed =>
    obtain ⟨rfl, ended⟩ := inPhase_stopEnds inPhase enabled
    have told := @follows_execute _ _ .onStopped follows rfl
    exact ⟨_, ended, told.last, fun settled => Phase.follows_ended.2 (told.settled settled)⟩
  | onServiceFound serviceInfo =>
    exact ⟨phase, inPhase_execute inPhase rfl, follows_execute follows rfl⟩
  | onServiceLost serviceInfo =>
    exact ⟨phase, inPhase_execute inPhase rfl, follows_execute follows rfl⟩
  | onServiceResolved listener serviceInfo =>
    have ended : (state.resolveEnds listener).InPhase phase := { inPhase with }
    have led : (state.resolveEnds listener).Follows phase := follows.kept rfl rfl rfl
    exact ⟨phase, inPhase_execute (inPhase_execute ended rfl) rfl,
      follows_execute (follows_execute led rfl) rfl⟩
  | onResolveFailed listener =>
    have ended : (state.resolveEnds listener).InPhase phase := { inPhase with }
    have led : (state.resolveEnds listener).Follows phase := follows.kept rfl rfl rfl
    exact ⟨phase, inPhase_execute ended rfl, follows_execute led rfl⟩

theorem tracked_start : machine.start.Tracked := by
  refine ⟨.idle, ?_, ?_⟩
  · constructor <;> first | rfl | exact fun busy => absurd rfl busy
  · constructor
    · intro command member
      cases member
    · exact fun _ => .inl rfl

/-! ### Agreement with the last command -/

/-- Nothing is queued, and no callback of the manager is pending. -/
def State.Quiescent (state : State) : Prop :=
  state.queue = [] ∧ state.manager.startsOutstanding = 0 ∧ state.manager.stopsOutstanding = 0 ∧
    state.manager.resolving = []

instance (state : State) : Decidable state.Quiescent :=
  inferInstanceAs (Decidable (_ ∧ _ ∧ _ ∧ _))

/-- Discovery runs just when the last command was a start, unless that start failed; the manager
was never called at a wrong time; and the lock is held just while discovery is started. -/
def State.Agrees (state : State) : Prop :=
  (state.Quiescent →
    (state.manager.running = true → state.lastCommand = some .start) ∧
      (state.lastCommand = some .start →
        state.manager.running = true ∨ state.startFailed = true)) ∧
    state.manager.misused = false ∧ state.heldLocks = state.started.toNat

instance (state : State) : Decidable state.Agrees :=
  inferInstanceAs (Decidable ((_ → (_ → _) ∧ (_ → _)) ∧ _ ∧ _))

theorem State.Tracked.agrees (tracked : state.Tracked) : state.Agrees := by
  obtain ⟨phase, inPhase, follows⟩ := tracked
  refine ⟨?_, inPhase.proper, inPhase.started ▸ inPhase.held⟩
  rintro ⟨empty, noStart, noStop, -⟩
  have notices := inPhase.notices
  have led := follows.settled (by rw [empty]; rfl)
  rw [empty] at notices
  rw [inPhase.starts] at noStart
  rw [inPhase.stops] at noStop
  rw [inPhase.running]
  cases phase with
  | idle =>
    refine ⟨fun running => absurd running Bool.false_ne_true, fun given => ?_⟩
    rw [given] at led
    refine .inr ?_
    simpa [Phase.Follows, Phase.startRequested] using led
  | running =>
    refine ⟨fun _ => ?_, fun _ => .inl rfl⟩
    rcases given : state.lastCommand with _ | command
    · simp [given, Phase.Follows, Phase.stopping] at led
    · cases command with
      | start => rfl
      | stop => simp [given, Phase.Follows, Phase.stopping] at led
  | startOutstanding => cases noStart
  | stopOutstanding => cases noStop
  | startDone | startRefused | stopDone => cases notices

/-- In every run in which no command is executed while a stop is on its way, and no stop while a
start is requested, discovery agrees with the last command in every state. -/
theorem agrees_undisturbed (events : List Event)
    (run : (machine.restrict Undisturbed).Run events) : (machine.after events).Agrees :=
  (run.invariant_of_condition State.Tracked tracked_start
    fun _ _ tracked enabled undisturbed => tracked_step tracked enabled undisturbed).agrees

instance (state : State) : ∀ action : Option Action, Decidable (state.Admits action)
  | some .start => inferInstanceAs (Decidable ¬_)
  | some .stop => inferInstanceAs (Decidable (_ ∧ _))
  | some .onStarted | some .onStopped | some .onStartFailed | some (.onServiceFound _)
  | some (.onServiceLost _) | some (.onResolved _) | some (.onResolveFinished _) | none =>
    .isTrue trivial

instance (state : State) : ∀ event : Event, Decidable (Undisturbed state event)
  | .execute => inferInstanceAs (Decidable (state.Admits _))
  | .command _ | .onDiscoveryStarted | .onStartDiscoveryFailed | .onDiscoveryStopped
  | .onStopDiscoveryFailed | .onServiceFound _ | .onServiceLost _ | .onServiceResolved _ _
  | .onResolveFailed _ => .isTrue trivial

/-- Discovery is started, stopped and started again, each time after the last transition. -/
def restarted : List Event :=
  [.command .start, .execute, .onDiscoveryStarted, .execute, .command .stop, .execute,
    .onDiscoveryStopped, .execute, .command .start, .execute, .onDiscoveryStarted, .execute]

theorem agrees_restarted : (machine.after restarted).Agrees :=
  agrees_undisturbed restarted (by decide)

/-- A stop that is executed before the start is reported is lost, and a second stop reaches the
manager while the first is outstanding. -/
theorem stop_lost_and_repeated :
    (machine.Run [.command .start, .execute, .command .stop, .execute, .onDiscoveryStarted,
        .execute] ∧
      ¬(machine.after [.command .start, .execute, .command .stop, .execute, .onDiscoveryStarted,
        .execute]).Agrees) ∧
      machine.Run [.command .start, .execute, .onDiscoveryStarted, .execute, .command .stop,
        .command .stop, .execute, .execute] ∧
      ¬(machine.after [.command .start, .execute, .onDiscoveryStarted, .execute, .command .stop,
        .command .stop, .execute, .execute]).Agrees := by
  refine ⟨⟨by decide, by decide⟩, by decide, by decide⟩

end TermPlux.Discovery
