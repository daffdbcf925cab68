/-
This file proves that the services that `Discovery` finds are resolved one at a
time, each once, in the order in which they were found. The head of the pending
resolves doubles as the mark of the resolve in flight, so the pending resolves
are a serial queue: a found service arrives, and a finished resolve begins the
next one.
-/

import TermPlux.Discovery
import TermPlux.SerialQueue

namespace TermPlux.Discovery

/-! ### Found services and resolves in flight -/

/-- The service that an action adds to the pending resolves. -/
def Action.found : Action → Option NsdServiceInfo
  | .onServiceFound serviceInfo => some serviceInfo
  | _ => none

/-- The resolve whose end an action handles. -/
def Action.finished : Action → Option ResolveListener
  | .onResolveFinished finishedResolve => some finishedResolve
  | _ => none

/-- The service that the manager reports as found. -/
def Event.found : Event → Option NsdServiceInfo
  | .onServiceFound serviceInfo => some serviceInfo
  | _ => none

/-- The services found in a run, in order. -/
def found (events : List Event) : List NsdServiceInfo :=
  events.filterMap Event.found

/-- The found services whose action still waits for the executor. -/
def State.waiting (state : State) : List NsdServiceInfo :=
  state.queue.filterMap Action.found

/-- The resolves in flight: those the manager works on, and those whose end still waits for the
executor. -/
def State.inFlight (state : State) : List ResolveListener :=
  state.manager.resolving ++ state.queue.filterMap Action.finished

/-- The pending resolves as a serial queue. -/
def State.serial (state : State) : SerialQueue NsdServiceInfo where
  pending := state.pendingResolves.map Prod.snd
  begun := state.manager.resolved

/-- Services are only found for a listener, which is handed over together with the first start. -/
def Registered (state : State) : Event → Prop
  | .onServiceFound _ => state.nsdManager = true
  | _ => True

/-- At most one resolve is in flight, there is one just while resolves are pending, and it is for
the oldest of them. The services handed over for resolution are the first of those found, and all
of them when no resolve is pending. -/
structure State.ResolvesInTurn (state : State) (found : List NsdServiceInfo) : Prop where
  single : state.inFlight.length ≤ 1
  busy : state.inFlight ≠ [] ↔ state.pendingResolves ≠ []
  oldest : ∀ listener ∈ state.inFlight, ∃ serviceInfo,
    state.pendingResolves.head? = some (listener, serviceInfo) ∧
      state.manager.resolved.getLast? = some serviceInfo
  order : ∃ handled, found = handled ++ state.waiting ∧ state.manager.resolved <+: handled ∧
    (state.pendingResolves = [] → state.manager.resolved = handled)

/-! ### The invariant -/

/-- The resolve in flight is the head of the pending ones, whose listeners are distinct, and the
queue of services accounts for the services handled so far. -/
structure State.InTurn (state : State) (handled : List NsdServiceInfo) : Prop where
  inFlight : state.inFlight = (state.pendingResolves.head?.map Prod.fst).toList
  fresh : ∀ pending ∈ state.pendingResolves, pending.1 < state.nextListener
  distinct : (state.pendingResolves.map Prod.fst).Nodup
  serves : state.serial.Serves handled
  registered : state.pendingResolves ≠ [] ∨ state.waiting ≠ [] → state.nsdManager = true

variable {state next : State} {handled : List NsdServiceInfo} {action : Action}
  {rest : List Action}

/-- What a step leaves alone that has nothing to do with resolves. -/
structure State.KeepsResolves (state next : State) : Prop where
  inFlight : next.inFlight = state.inFlight
  waiting : next.waiting = state.waiting
  pendingResolves : next.pendingResolves = state.pendingResolves
  nextListener : next.nextListener = state.nextListener
  resolved : next.manager.resolved = state.manager.resolved
  nsdManager : state.nsdManager = true → next.nsdManager = true

theorem State.InTurn.kept (inTurn : state.InTurn handled) (keeps : state.KeepsResolves next) :
    next.InTurn handled where
  inFlight := by rw [keeps.inFlight, keeps.pendingResolves, inTurn.inFlight]
  fresh := by rw [keeps.pendingResolves, keeps.nextListener]; exact inTurn.fresh
  distinct := by rw [keeps.pendingResolves]; exact inTurn.distinct
  serves := by
    unfold State.serial
    rw [keeps.pendingResolves, keeps.resolved]
    exact inTurn.serves
  registered := by
    rw [keeps.pendingResolves, keeps.waiting]
    exact fun busy => keeps.nsdManager (inTurn.registered busy)

/-- Executing an action that neither adds a service nor handles the end of a resolve. -/
theorem keepsResolves_run (executed : state.queue = action :: rest) (quiet : action.found = none)
    (unfinished : action.finished = none) :
    state.KeepsResolves (({ state with queue := rest } : State).run action) := by
  have popped : state.KeepsResolves { state with queue := rest } := by
    constructor <;> simp [State.inFlight, State.waiting, executed, quiet, unfinished]
  cases action with
  | onServiceFound serviceInfo => cases quiet
  | onResolveFinished finishedResolve => cases unfinished
  | start =>
    show state.KeepsResolves { State.start _ with startFailed := false }
    rcases start_eq { state with queue := rest } with same | same
    · rw [same]
      exact { popped with }
    · rw [same]
      exact { popped with nsdManager := fun _ => rfl }
  | stop =>
    obtain ⟨_, _, same⟩ := stop_eq { state with queue := rest }
    show state.KeepsResolves (State.stop _)
    rw [same]
    exact { popped with }
  | onStarted | onStopped | onStartFailed | onServiceLost _ | onResolved _ =>
    exact { popped with }

/-- A new listener differs from those of the pending resolves. -/
theorem State.InTurn.append (inTurn : state.InTurn handled) (serviceInfo : NsdServiceInfo) :
    (∀ pending ∈ state.pendingResolves ++ [(state.nextListener, serviceInfo)],
        pending.1 < state.nextListener + 1) ∧
      ((state.pendingResolves ++ [(state.nextListener, serviceInfo)]).map Prod.fst).Nodup := by
  constructor
  · intro pending member
    rcases List.mem_append.mp member with earlier | new
    · exact Nat.lt_succ_of_lt (inTurn.fresh pending earlier)
    · rw [List.mem_singleton.mp new]
      exact Nat.lt_succ_self _
  · rw [List.map_append, List.nodup_append]
    refine ⟨inTurn.distinct, List.nodup_cons.mpr ⟨List.not_mem_nil, List.nodup_nil⟩, ?_⟩
    intro listener member other new
    obtain ⟨pending, earlier, rfl⟩ := List.mem_map.mp member
    rw [List.mem_singleton.mp new]
    exact Nat.ne_of_lt (inTurn.fresh pending earlier)

/-- Executing an action that adds a service. -/
theorem inTurn_found {serviceInfo : NsdServiceInfo} (inTurn : state.InTurn handled)
    (executed : state.queue = .onServiceFound serviceInfo :: rest) :
    (({ state with queue := rest } : State).onServiceFound serviceInfo).InTurn
      (handled ++ [serviceInfo]) := by
  have registered : state.nsdManager = true := inTurn.registered (.inr (by
    simp [State.waiting, executed, Action.found]))
  have inFlight := inTurn.inFlight
  have served := inTurn.serves.arrive serviceInfo
  obtain ⟨fresh, distinct⟩ := inTurn.append serviceInfo
  simp only [State.inFlight, executed, List.filterMap_cons, Action.finished] at inFlight
  unfold SerialQueue.arrive State.serial at served
  unfold State.onServiceFound
  cases pendings : state.pendingResolves with
  | nil =>
    rw [pendings] at inFlight served fresh distinct
    obtain ⟨idle, unfinished⟩ := List.append_eq_nil_iff.mp inFlight
    rw [if_pos (by simp [registered])]
    refine ⟨?_, fresh, distinct, served, fun _ => registered⟩
    simp [State.inFlight, NsdManager.resolveService, idle, unfinished]
  | cons head others =>
    rw [pendings] at inFlight served fresh distinct
    rw [if_neg (by simp)]
    refine ⟨?_, fresh, distinct, ?_, fun _ => registered⟩
    · simpa [State.inFlight] using inFlight
    · simpa [State.serial] using served

/-- Removing the oldest of several pending resolves leaves the others. -/
theorem filter_oldest {head : ResolveListener × NsdServiceInfo}
    {others : List (ResolveListener × NsdServiceInfo)}
    (distinct : ((head :: others).map Prod.fst).Nodup) :
    (head :: others).filter (·.1 ≠ head.1) = others := by
  obtain ⟨apart, -⟩ := List.nodup_cons.mp distinct
  simp only [ne_eq, decide_not, List.filter_cons, decide_true, Bool.not_true]
  refine List.filter_eq_self.mpr fun pending member => ?_
  have other : pending.1 ≠ head.1 := fun same => apart (same ▸ List.mem_map_of_mem member)
  simpa using other

/-- Executing an action that handles the end of a resolve, which is that of the oldest one. -/
theorem inTurn_finished {finishedResolve : ResolveListener} (inTurn : state.InTurn handled)
    (executed : state.queue = .onResolveFinished finishedResolve :: rest) :
    (({ state with queue := rest } : State).onResolveFinished finishedResolve).InTurn handled := by
  have inFlight := inTurn.inFlight
  have served := inTurn.serves.finish
  have distinct := inTurn.distinct
  simp only [State.inFlight, executed, List.filterMap_cons, Action.finished] at inFlight
  cases pendings : state.pendingResolves with
  | nil => simp [pendings] at inFlight
  | cons head others =>
    have registered : state.nsdManager = true := inTurn.registered (.inl (by simp [pendings]))
    rw [pendings] at inFlight distinct
    obtain ⟨idle, rfl, unfinished⟩ : state.manager.resolving = [] ∧
        finishedResolve = head.1 ∧ rest.filterMap Action.finished = [] := by
      simpa [List.append_eq_singleton_iff] using inFlight
    have distinctOthers := (List.nodup_cons.mp distinct).2
    have fresh : ∀ pending ∈ others, pending.1 < state.nextListener := fun pending member =>
      inTurn.fresh pending (by rw [pendings]; exact List.mem_cons_of_mem _ member)
    unfold SerialQueue.finish State.serial at served
    rw [pendings] at served
    unfold State.onResolveFinished
    dsimp only
    rw [filter_oldest distinct]
    cases others with
    | nil =>
      refine ⟨?_, fresh, distinctOthers, ?_, fun _ => registered⟩
      · simp [State.inFlight, idle, unfinished]
      · simpa [State.serial] using served
    | cons next others =>
      dsimp only [List.head?_cons]
      rw [if_pos registered]
      refine ⟨?_, fresh, distinctOthers, ?_, fun _ => registered⟩
      · simp [State.inFlight, NsdManager.resolveService, idle, unfinished]
      · simpa [State.serial, NsdManager.resolveService] using served

/-! ### Every run -/

/-- The services found so far are those handled, which are served in turn, and those that wait for
the executor. -/
def State.ServesFound (state : State) (services : List NsdServiceInfo) : Prop :=
  ∃ handled, services = handled ++ state.waiting ∧ state.InTurn handled

variable {services : List NsdServiceInfo}

theorem State.ServesFound.kept (serves : state.ServesFound services)
    (keeps : state.KeepsResolves next) : next.ServesFound services := by
  obtain ⟨handled, accounts, inTurn⟩ := serves
  refine ⟨handled, ?_, inTurn.kept keeps⟩
  rw [keeps.waiting]
  exact accounts

theorem servesFound_execute (serves : state.ServesFound services)
    (executed : state.queue = action :: rest) :
    (({ state with queue := rest } : State).run action).ServesFound services := by
  obtain ⟨handled, accounts, inTurn⟩ := serves
  unfold State.waiting at accounts
  rw [executed] at accounts
  cases action with
  | onServiceFound serviceInfo =>
    refine ⟨handled ++ [serviceInfo], ?_, inTurn_found inTurn executed⟩
    unfold State.waiting
    rw [(run_keeps { state with queue := rest } (.onServiceFound serviceInfo)).1,
      List.append_assoc]
    exact accounts
  | onResolveFinished finishedResolve =>
    refine ⟨handled, ?_, inTurn_finished inTurn executed⟩
    unfold State.waiting
    rw [(run_keeps { state with queue := rest } (.onResolveFinished finishedResolve)).1]
    exact accounts
  | start | stop | onStarted | onStopped | onStartFailed | onServiceLost _ | onResolved _ =>
    refine State.ServesFound.kept ⟨handled, ?_, inTurn⟩ (keepsResolves_run executed rfl rfl)
    unfold State.waiting
    rw [executed]
    exact accounts

/-- Queueing an action that neither adds a service nor handles the end of a resolve. -/
theorem keepsResolves_execute (quiet : action.found = none) (unfinished : action.finished = none) :
    state.KeepsResolves (state.execute action) := by
  constructor <;> simp [State.inFlight, State.waiting, State.execute, List.filterMap_append,
    quiet, unfinished]

/-- A found service waits for the executor. -/
theorem servesFound_waits {serviceInfo : NsdServiceInfo} (serves : state.ServesFound services)
    (registered : state.nsdManager = true) :
    (state.execute (.onServiceFound serviceInfo)).ServesFound (services ++ [serviceInfo]) := by
  obtain ⟨handled, rfl, inTurn⟩ := serves
  refine ⟨handled, ?_, { inTurn with inFlight := ?_, registered := fun _ => registered }⟩
  · simp [State.waiting, State.execute, Action.found]
  · refine Eq.trans ?_ inTurn.inFlight
    simp [State.inFlight, State.execute, Action.finished]

/-- A resolve that the manager ends stays in flight until its end is handled. -/
theorem servesFound_ends {listener : ResolveListener} (serves : state.ServesFound services)
    (resolving : listener ∈ state.manager.resolving) :
    ((state.resolveEnds listener).execute (.onResolveFinished listener)).ServesFound services := by
  obtain ⟨handled, accounts, inTurn⟩ := serves
  have inFlight := inTurn.inFlight
  have alone : state.manager.resolving = [listener] ∧
      state.queue.filterMap Action.finished = [] := by
    unfold State.inFlight at inFlight
    cases pendings : state.pendingResolves.head? with
    | none =>
      rw [pendings] at inFlight
      rw [(List.append_eq_nil_iff.mp inFlight).1] at resolving
      cases resolving
    | some head =>
      rw [pendings] at inFlight
      rcases List.append_eq_singleton_iff.mp inFlight with ⟨none, -⟩ | ⟨only, rest⟩
      · rw [none] at resolving
        cases resolving
      · rw [only] at resolving
        exact ⟨List.mem_singleton.mp resolving ▸ only, rest⟩
  refine State.ServesFound.kept ⟨handled, accounts, inTurn⟩ ?_
  constructor <;>
    simp [State.inFlight, State.waiting, State.execute, State.resolveEnds, alone,
      List.filterMap_append, Action.found, Action.finished]

theorem servesFound_step (past : List Event) (event : Event)
    (serves : state.ServesFound (found past)) (enabled : event.enabled state)
    (registered : Registered state event) :
    (state.step event).ServesFound (found (past ++ [event])) := by
  have none_found (quiet : event.found = none)
      (kept : (state.step event).ServesFound (found past)) :
      (state.step event).ServesFound (found (past ++ [event])) := by
    unfold found at kept ⊢
    rw [List.filterMap_append, List.filterMap_cons_none quiet, List.filterMap_nil,
      List.append_nil]
    exact kept
  have queued {action : Action} (quiet : action.found = none)
      (unfinished : action.finished = none) : state.KeepsResolves (state.execute action) :=
    keepsResolves_execute quiet unfinished
  cases event with
  | onServiceFound serviceInfo =>
    unfold found at serves ⊢
    rw [List.filterMap_append]
    exact servesFound_waits serves registered
  | execute =>
    obtain ⟨action, rest, executed⟩ := List.exists_cons_of_ne_nil enabled
    rw [step_execute executed] at none_found ⊢
    exact none_found rfl (servesFound_execute serves executed)
  | onServiceResolved listener serviceInfo =>
    have resolved : (state.execute (.onResolved serviceInfo)).ServesFound (found past) :=
      serves.kept (queued rfl rfl)
    exact none_found rfl (servesFound_ends resolved (show listener ∈ _ from enabled))
  | onResolveFailed listener => exact none_found rfl (servesFound_ends serves enabled)
  | command command =>
    have given : command.action.found = none ∧ command.action.finished = none := by
      cases command <;> exact ⟨rfl, rfl⟩
    exact none_found rfl (serves.kept { queued given.1 given.2 with })
  | onDiscoveryStarted =>
    exact none_found rfl (serves.kept { @queued .onStarted rfl rfl with })
  | onStartDiscoveryFailed =>
    exact none_found rfl (serves.kept { @queued .onStartFailed rfl rfl with })
  | onDiscoveryStopped | onStopDiscoveryFailed =>
    exact none_found rfl (serves.kept { @queued .onStopped rfl rfl with })
  | onServiceLost serviceInfo => exact none_found rfl (serves.kept (queued rfl rfl))

theorem State.InTurn.resolves (inTurn : state.InTurn handled) :
    state.ResolvesInTurn (handled ++ state.waiting) where
  single := by
    rw [inTurn.inFlight]
    cases state.pendingResolves.head? with
    | none => exact Nat.zero_le 1
    | some head => exact Nat.le_refl 1
  busy := by
    rw [inTurn.inFlight]
    cases state.pendingResolves with
    | nil => exact ⟨fun busy => absurd rfl busy, fun busy => absurd rfl busy⟩
    | cons head others => exact ⟨fun _ => List.cons_ne_nil _ _, fun _ => List.cons_ne_nil _ _⟩
  oldest := by
    intro listener member
    rw [inTurn.inFlight] at member
    have current := inTurn.serves.current
    unfold State.serial at current
    cases pendings : state.pendingResolves with
    | nil => simp [pendings] at member
    | cons head others =>
      rw [pendings] at member current
      obtain rfl : listener = head.1 := List.mem_singleton.mp member
      exact ⟨head.2, rfl, current (List.cons_ne_nil _ _)⟩
  order := by
    refine ⟨handled, rfl, inTurn.serves.begun_prefix, fun idle => ?_⟩
    refine inTurn.serves.begun_eq ?_
    unfold State.serial
    rw [idle]
    rfl

/-- In every run, found services are resolved one at a time, each once and in order. -/
theorem resolvesInTurn (events : List Event) (run : (machine.restrict Registered).Run events) :
    (machine.after events).ResolvesInTurn (found events) := by
  have initially : machine.start.ServesFound (found []) :=
    ⟨[], rfl, ⟨rfl, fun _ member => (List.not_mem_nil member).elim, List.nodup_nil,
      ⟨rfl, fun busy => absurd rfl busy⟩,
      fun busy => busy.elim (absurd rfl) (absurd rfl)⟩⟩
  obtain ⟨handled, accounts, inTurn⟩ := run.history_of_condition
    (fun past state => state.ServesFound (found past)) initially
    fun past _ event serves enabled registered =>
      servesFound_step past event serves enabled registered
  rw [accounts]
  exact inTurn.resolves

instance (state : State) : ∀ event : Event, Decidable (Registered state event)
  | .onServiceFound _ => inferInstanceAs (Decidable (_ = true))
  | .command _ | .execute | .onDiscoveryStarted | .onStartDiscoveryFailed | .onDiscoveryStopped
  | .onStopDiscoveryFailed | .onServiceLost _ | .onServiceResolved _ _ | .onResolveFailed _ =>
    .isTrue trivial

def desk : NsdServiceInfo where
  serviceName := "desk"
  hostAddress := "10.0.0.2"
  port := 5900

def tower : NsdServiceInfo where
  serviceName := "tower"
  hostAddress := "10.0.0.3"
  port := 5901

/-- Two services are found; the resolve of the first fails, and that of the second is under way. -/
def twoFound : List Event :=
  [.command .start, .execute, .onDiscoveryStarted, .onServiceFound desk, .onServiceFound tower,
    .execute, .execute, .execute, .onResolveFailed 0, .execute]

theorem resolvesInTurn_twoFound :
    (machine.restrict Registered).Run twoFound ∧
      (machine.after twoFound).ResolvesInTurn [desk, tower] ∧
      (machine.after twoFound).inFlight = [1] := by
  have run : (machine.restrict Registered).Run twoFound := by decide
  exact ⟨run, resolvesInTurn twoFound run, by decide⟩

end TermPlux.Discovery
