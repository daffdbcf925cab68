/-
This file compares the list of discovered profiles with what the manager last
reported about each service. A loss removes the profiles that are listed, but not
the services that still wait to be resolved, so a service that is lost while it
waits is listed once its resolve succeeds. As long as no resolve succeeds for a
service that is lost by then, no lost service is listed.
-/

import TermPlux.ServiceResolution

namespace TermPlux.Discovery

/-! ### What the manager reports -/

/-- A report that a service was found or lost. -/
structure Report where
  serviceName : String
  present : Bool
  deriving DecidableEq

def Action.report : Action → Option Report
  | .onServiceFound serviceInfo => some ⟨serviceInfo.serviceName, true⟩
  | .onServiceLost serviceInfo => some ⟨serviceInfo.serviceName, false⟩
  | _ => none

def Event.report : Event → Option Report
  | .onServiceFound serviceInfo => some ⟨serviceInfo.serviceName, true⟩
  | .onServiceLost serviceInfo => some ⟨serviceInfo.serviceName, false⟩
  | _ => none

/-- The reports of a run, in order. -/
def reports (events : List Event) : List Report :=
  events.filterMap Event.report

/-- The reports that still wait for the executor. -/
def State.unheard (state : State) : List Report :=
  state.queue.filterMap Action.report

/-- The last report about the service is its loss. -/
def Lost (reports : List Report) (serviceName : String) : Prop :=
  (reports.filter (·.serviceName = serviceName)).getLast? = some ⟨serviceName, false⟩

instance (reports : List Report) (serviceName : String) : Decidable (Lost reports serviceName) :=
  inferInstanceAs (Decidable (_ = _))

/-- Once the reports are handled and no resolve is in flight, no lost service is listed. -/
def State.ShowsNoVanished (state : State) (events : List Event) : Prop :=
  state.inFlight = [] → state.unheard = [] →
    ∀ profile ∈ state.servers, ¬Lost (reports events) profile.name

instance (state : State) (events : List Event) : Decidable (state.ShowsNoVanished events) :=
  inferInstanceAs (Decidable (_ → _ → ∀ profile ∈ _, _))

/-- The last report about a service decides, and reports about others do not. -/
theorem lost_append {heard : List Report} {report : Report} {serviceName : String} :
    Lost (heard ++ [report]) serviceName ↔
      if report.serviceName = serviceName then report.present = false
      else Lost heard serviceName := by
  unfold Lost
  rw [List.filter_append]
  split
  next about =>
    subst about
    rw [List.filter_cons_of_pos (by simp), List.filter_nil, List.getLast?_append_cons,
      List.getLast?_singleton, Option.some_inj]
    constructor
    · intro same
      rw [same]
    · intro gone
      rw [← gone]
  next other =>
    rw [List.filter_cons_of_neg (by simpa using other), List.filter_nil, List.append_nil]

/-! ### The reports that were handled -/

/-- A discovery, and the reports that its executor has handled. -/
structure Watched where
  discovery : State
  heard : List Report

def Watched.step (watched : Watched) (event : Event) : Watched where
  discovery := watched.discovery.step event
  heard := match event with
    | .execute => watched.heard ++ (watched.discovery.queue.head?.bind Action.report).toList
    | _ => watched.heard

/-- The machine of the discovery, with the handled reports beside it. -/
def watching : Machine Watched Event where
  start := { discovery := machine.start, heard := [] }
  enabled watched event := machine.enabled watched.discovery event
  step := Watched.step

/-- No resolve succeeds for a service that is lost by then. -/
def Current (watched : Watched) : Event → Prop
  | .execute => ∀ si, watched.discovery.queue.head? = some (.onResolved si) →
    ¬Lost watched.heard si.serviceName
  | _ => True

theorem watching_afterFrom (watched : Watched) (events : List Event) :
    (watching.afterFrom watched events).discovery =
      machine.afterFrom watched.discovery events := by
  induction events generalizing watched with
  | nil => rfl
  | cons event rest inductionHypothesis => exact inductionHypothesis (watched.step event)

theorem watching_after (events : List Event) :
    (watching.after events).discovery = machine.after events :=
  watching_afterFrom watching.start events

/-! ### The invariant -/

/-- The list shows the resolved profiles, none of which is lost; and the reports are those
handled and those that wait. -/
structure Watched.ShowsPresent (watched : Watched) (past : List Event) : Prop where
  shown : watched.discovery.servers = watched.discovery.resolvedProfiles
  present : ∀ profile ∈ watched.discovery.resolvedProfiles, ¬Lost watched.heard profile.name
  reports : reports past = watched.heard ++ watched.discovery.unheard

variable {state : State} {heard : List Report} {action : Action}

/-- An action leaves the profiles and the list alone, or shows the profiles: those that were
resolved before and are not lost, and the one that is resolved. -/
def LeavesOrShows (state : State) (action : Action) (next : State) : Prop :=
  (next.servers = state.servers ∧ next.resolvedProfiles = state.resolvedProfiles ∧
      ∀ si, action ≠ .onServiceLost si) ∨
    (next.servers = next.resolvedProfiles ∧
      ∀ profile ∈ next.resolvedProfiles,
        (profile ∈ state.resolvedProfiles ∧
            ∀ si, action = .onServiceLost si → si.serviceName ≠ profile.name) ∨
          ∃ si, action = .onResolved si ∧ si.serviceName = profile.name)

theorem leavesOrShows_start (state : State) : LeavesOrShows state .start state.start := by
  rcases start_eq state with same | same
  · rw [same]
    exact .inl ⟨rfl, rfl, fun _ => Action.noConfusion⟩
  · rw [same]
    exact .inr ⟨rfl, fun _ member => (List.not_mem_nil member).elim⟩

theorem leavesOrShows_onServiceLost (state : State) (serviceInfo : NsdServiceInfo) :
    LeavesOrShows state (.onServiceLost serviceInfo) (state.onServiceLost serviceInfo) := by
  refine .inr ⟨rfl, fun profile member => .inl ?_⟩
  obtain ⟨listed, other⟩ := List.mem_filter.mp member
  refine ⟨listed, fun si same => ?_⟩
  rw [← Action.onServiceLost.inj same]
  exact fun lost => of_decide_eq_true other lost.symm

theorem leavesOrShows_onResolved (state : State) (si : NsdServiceInfo) :
    LeavesOrShows state (.onResolved si) (state.onResolved si) := by
  refine .inr ⟨rfl, fun profile member => ?_⟩
  change profile ∈ (if _ ∈ state.resolvedProfiles then state.resolvedProfiles
    else state.resolvedProfiles ++ [_]) at member
  split at member
  · exact .inl ⟨member, fun _ => Action.noConfusion⟩
  · rcases List.mem_append.mp member with listed | added
    · exact .inl ⟨listed, fun _ => Action.noConfusion⟩
    · rw [List.mem_singleton.mp added]
      exact .inr ⟨si, rfl, rfl⟩

theorem profiles_run (state : State) (action : Action) :
    LeavesOrShows state action (state.run action) := by
  cases action with
  | start => exact leavesOrShows_start state
  | stop =>
    obtain ⟨_, _, same⟩ := stop_eq state
    show LeavesOrShows state .stop state.stop
    rw [same]
    exact .inl ⟨rfl, rfl, fun _ => Action.noConfusion⟩
  | onServiceFound serviceInfo =>
    obtain ⟨_, _, same⟩ := onServiceFound_eq state serviceInfo
    show LeavesOrShows state (.onServiceFound serviceInfo) (state.onServiceFound serviceInfo)
    rw [same]
    exact .inl ⟨rfl, rfl, fun _ => Action.noConfusion⟩
  | onResolveFinished finishedResolve =>
    obtain ⟨_, _, same⟩ := onResolveFinished_eq state finishedResolve
    show LeavesOrShows state (.onResolveFinished finishedResolve)
      (state.onResolveFinished finishedResolve)
    rw [same]
    exact .inl ⟨rfl, rfl, fun _ => Action.noConfusion⟩
  | onStarted | onStopped | onStartFailed => exact .inl ⟨rfl, rfl, fun _ => Action.noConfusion⟩
  | onServiceLost serviceInfo => exact leavesOrShows_onServiceLost state serviceInfo
  | onResolved si => exact leavesOrShows_onResolved state si

/-- A service that is lost with an action was lost before, unless the action is its loss. -/
theorem lost_of_report {name : String} (lost : Lost (heard ++ action.report.toList) name)
    (others : ∀ si, action = .onServiceLost si → si.serviceName ≠ name) : Lost heard name := by
  cases action with
  | onServiceFound serviceInfo =>
    rw [Action.report, Option.toList_some, lost_append] at lost
    split at lost
    · cases lost
    · exact lost
  | onServiceLost serviceInfo =>
    rw [Action.report, Option.toList_some, lost_append, if_neg (others serviceInfo rfl)] at lost
    exact lost
  | start | stop | onStarted | onStopped | onStartFailed | onResolved _ | onResolveFinished _ =>
    change Lost (heard ++ []) name at lost
    rwa [List.append_nil] at lost

/-- Running an action lists no lost service, and shows what is resolved. -/
theorem present_run (shown : state.servers = state.resolvedProfiles)
    (present : ∀ profile ∈ state.resolvedProfiles, ¬Lost heard profile.name)
    (current : ∀ si, action = .onResolved si → ¬Lost heard si.serviceName) :
    (state.run action).servers = (state.run action).resolvedProfiles ∧
      ∀ profile ∈ (state.run action).resolvedProfiles,
        ¬Lost (heard ++ action.report.toList) profile.name := by
  rcases profiles_run state action with ⟨servers, resolvedProfiles, noLoss⟩ | ⟨shows, origin⟩
  · rw [servers, resolvedProfiles]
    refine ⟨shown, fun profile member lost => present profile member ?_⟩
    exact lost_of_report lost fun si loss => absurd loss (noLoss si)
  · refine ⟨shows, fun profile member lost => ?_⟩
    rcases origin profile member with ⟨before, kept⟩ | ⟨si, rfl, named⟩
    · exact present profile before (lost_of_report lost kept)
    · rw [← named] at lost
      exact current si rfl (lost_of_report lost fun _ => Action.noConfusion)

/-- What an event queues is what it reports. -/
theorem unheard_step {event : Event} (queues : event ≠ .execute) :
    (state.step event).unheard = state.unheard ++ event.report.toList := by
  have queued (action : Action) : (state.queue ++ [action]).filterMap Action.report =
      state.unheard ++ action.report.toList := by
    rw [List.filterMap_append]
    cases hit : action.report <;> simp [State.unheard, hit]
  cases event with
  | execute => exact absurd rfl queues
  | command command => cases command <;> exact queued _
  | onDiscoveryStarted => exact queued .onStarted
  | onStartDiscoveryFailed => exact queued .onStartFailed
  | onDiscoveryStopped | onStopDiscoveryFailed => exact queued .onStopped
  | onServiceFound serviceInfo => exact queued (.onServiceFound serviceInfo)
  | onServiceLost serviceInfo => exact queued (.onServiceLost serviceInfo)
  | onServiceResolved listener serviceInfo =>
    have twice : ((state.queue ++ [Action.onResolved serviceInfo]) ++
        [Action.onResolveFinished listener]).filterMap Action.report = state.unheard ++ [] := by
      rw [List.filterMap_append, queued, List.append_assoc]
      rfl
    exact twice
  | onResolveFailed listener => exact queued (.onResolveFinished listener)

theorem reports_concat (past : List Event) (event : Event) :
    reports (past ++ [event]) = reports past ++ event.report.toList := by
  unfold reports
  rw [List.filterMap_append]
  cases hit : event.report <;> simp [hit]

variable {watched : Watched} {past : List Event}

theorem showsPresent_execute (shows : watched.ShowsPresent past)
    (enabled : watching.enabled watched .execute) (current : Current watched .execute) :
    (watched.step .execute).ShowsPresent (past ++ [.execute]) := by
  obtain ⟨action, rest, executed⟩ := List.exists_cons_of_ne_nil enabled
  have heard : (watched.step .execute).heard = watched.heard ++ action.report.toList := by
    show watched.heard ++ (watched.discovery.queue.head?.bind Action.report).toList = _
    rw [executed]
    rfl
  have ran : (watched.step .execute).discovery =
      ({ watched.discovery with queue := rest } : State).run action := step_execute executed
  have listed := @present_run { watched.discovery with queue := rest } watched.heard action
    shows.shown shows.present fun si same => current si (by rw [executed, same]; rfl)
  have unheard : watched.discovery.unheard =
      action.report.toList ++ (watched.step .execute).discovery.unheard := by
    rw [ran]
    unfold State.unheard
    rw [(run_keeps _ action).1, executed]
    cases hit : action.report <;> simp [hit]
  constructor
  · rw [ran]
    exact listed.1
  · rw [ran, heard]
    exact listed.2
  · rw [reports_concat, heard, List.append_assoc, ← unheard, shows.reports]
    exact List.append_nil _

/-- The other events leave the profiles alone, and their reports wait. -/
theorem showsPresent_queued {event : Event} (shows : watched.ShowsPresent past)
    (queues : event ≠ .execute) : (watched.step event).ShowsPresent (past ++ [event]) := by
  have heard : (watched.step event).heard = watched.heard := by
    cases event <;> first | rfl | exact absurd rfl queues
  have kept : (watched.step event).discovery.servers = watched.discovery.servers ∧
      (watched.step event).discovery.resolvedProfiles = watched.discovery.resolvedProfiles := by
    cases event <;> first | exact ⟨rfl, rfl⟩ | exact absurd rfl queues
  constructor
  · rw [kept.1, kept.2]
    exact shows.shown
  · rw [kept.2, heard]
    exact shows.present
  · rw [reports_concat, heard, shows.reports, List.append_assoc]
    exact congrArg _ (unheard_step queues).symm

theorem showsPresent_step (event : Event) (shows : watched.ShowsPresent past)
    (enabled : watching.enabled watched event) (current : Current watched event) :
    (watched.step event).ShowsPresent (past ++ [event]) := by
  by_cases queues : event = .execute
  · subst queues
    exact showsPresent_execute shows enabled current
  · exact showsPresent_queued shows queues

/-- In every run in which no resolve succeeds for a service that is lost by then, no lost service
is listed in any state. -/
theorem showsNoVanished (events : List Event) (run : (watching.restrict Current).Run events) :
    (machine.after events).ShowsNoVanished events := by
  have initially : watching.start.ShowsPresent [] :=
    ⟨rfl, fun _ member => (List.not_mem_nil member).elim, rfl⟩
  have shows : (watching.after events).ShowsPresent events :=
    run.history_of_condition (fun past watched => watched.ShowsPresent past) initially
      fun _ _ event shows enabled current => showsPresent_step event shows enabled current
  rw [← watching_after]
  intro _ handled profile member
  rw [shows.reports, handled, List.append_nil]
  exact shows.present profile (shows.shown ▸ member)

/-- Once a resolve succeeds for a service that is lost by then, a lost service is listed. -/
theorem lists_lost {watched : Watched} {si : NsdServiceInfo} {rest : List Action}
    (executed : watched.discovery.queue = .onResolved si :: rest)
    (lost : Lost watched.heard si.serviceName) :
    ∃ profile ∈ (watched.step .execute).discovery.servers,
      Lost (watched.step .execute).heard profile.name := by
  have heard : (watched.step .execute).heard = watched.heard := by
    show watched.heard ++ (watched.discovery.queue.head?.bind Action.report).toList = _
    rw [executed]
    exact List.append_nil _
  have ran : (watched.step .execute).discovery =
      ({ watched.discovery with queue := rest } : State).onResolved si := step_execute executed
  refine ⟨{ name := si.serviceName, host := si.hostAddress, port := si.port }, ?_, heard ▸ lost⟩
  rw [ran]
  show _ ∈ (if _ ∈ watched.discovery.resolvedProfiles then watched.discovery.resolvedProfiles
    else watched.discovery.resolvedProfiles ++ [_])
  split
  next listed => exact listed
  next => exact List.mem_append_right _ List.mem_cons_self

instance (watched : Watched) : ∀ event : Event, Decidable (Current watched event)
  | .execute =>
    match head : watched.discovery.queue.head? with
    | some (.onResolved si) =>
      if lost : Lost watched.heard si.serviceName then
        .isFalse fun current => current si head lost
      else .isTrue fun other same => by
        cases head.symm.trans same
        exact lost
    | some .start | some .stop | some .onStarted | some .onStopped | some .onStartFailed
    | some (.onServiceFound _) | some (.onServiceLost _) | some (.onResolveFinished _) | none =>
      .isTrue fun other same => by cases head.symm.trans same
  | .command _ | .onDiscoveryStarted | .onStartDiscoveryFailed | .onDiscoveryStopped
  | .onStopDiscoveryFailed | .onServiceFound _ | .onServiceLost _ | .onServiceResolved _ _
  | .onResolveFailed _ => .isTrue trivial

instance (watched : Watched) (event : Event) : Decidable (watching.enabled watched event) :=
  inferInstanceAs (Decidable (machine.enabled watched.discovery event))

/-- A service is resolved, lost, and found again. -/
def foundAgain : List Event :=
  [.command .start, .execute, .onDiscoveryStarted, .onServiceFound desk, .execute, .execute,
    .onServiceResolved 0 desk, .execute, .execute, .onServiceLost desk, .execute,
    .onServiceFound desk, .execute, .onServiceResolved 1 desk, .execute, .execute]

theorem showsNoVanished_foundAgain :
    (watching.restrict Current).Run foundAgain ∧
      (machine.after foundAgain).ShowsNoVanished foundAgain := by
  have run : (watching.restrict Current).Run foundAgain := by decide
  exact ⟨run, showsNoVanished foundAgain run⟩

/-- A service is lost while it is resolved, and its resolve succeeds. -/
def lostWhileResolving : List Event :=
  [.command .start, .execute, .onDiscoveryStarted, .onServiceFound desk, .execute, .execute,
    .onServiceLost desk, .execute, .onServiceResolved 0 desk, .execute, .execute]

theorem vanished_listed :
    machine.Run lostWhileResolving ∧
      ¬(machine.after lostWhileResolving).ShowsNoVanished lostWhileResolving := by
  refine ⟨by decide, by decide⟩

end TermPlux.Discovery
