/-
This file proves what the clean-up of a VNC connection keeps to, whatever the
interleaving of the threads.

The sender thread takes the actions in the order in which they were handed over,
each at most once. Once the native client is released nobody uses it any more,
unless the release happens while the sender thread or the renderer is in a native
method. The sender thread is out of the way whenever it terminates in time, and
then no action is lost.
-/

import TermPlux.ConnectionRuns

namespace TermPlux.Connection

variable {profile : ServerProfile} {state : State}

/-! ### The order of the actions -/

/-- The action that the sender thread is at. -/
def Sender.current : Sender → List Action
  | .idle => []
  | .checking action | .calling action => [action]

/-- Input to the remote desktop, which a view-only connection does not send. -/
def Action.input : Action → Bool
  | .pointerEvent _ _ _ | .keyEvent _ _ _ | .cutText _ => true
  | .buttonUpDelay | .desktopSize _ _ | .refresh => false

/-- What was taken is what was accepted without what waits, and the native methods were called for
some of it, in that order. -/
structure InOrder (profile : ServerProfile) (state : State) : Prop where
  queued : state.taken ++ state.queue = state.accepted
  sent : ∃ before, state.taken = before ++ state.sender.current ∧ state.sent.Sublist before
  shown : profile.viewOnly = true → ∀ action ∈ state.sent, action.input = false
  calling : profile.viewOnly = true → ∀ action, state.sender = .calling action →
    action.input = false

/-- A step that leaves the sender thread alone. -/
theorem InOrder.of_sender {after : State} (ordered : InOrder profile state)
    (queue : after.queue = state.queue) (sender : after.sender = state.sender)
    (accepted : after.accepted = state.accepted) (taken : after.taken = state.taken)
    (sent : after.sent = state.sent) : InOrder profile after where
  queued := by rw [queue, accepted, taken, ordered.queued]
  sent := by
    rw [sender, taken, sent]
    exact ordered.sent
  shown := sent ▸ ordered.shown
  calling := sender ▸ ordered.calling

theorem ordered_execute (ordered : InOrder profile state) (action : Action) :
    InOrder profile (state.execute action) := by
  unfold State.execute
  split
  · exact ordered
  · refine ⟨?_, ordered.sent, ordered.shown, ordered.calling⟩
    show state.taken ++ (state.queue ++ [action]) = state.accepted ++ [action]
    rw [← List.append_assoc, ordered.queued]

/-- A view-only connection calls no native method for input. -/
theorem input_of_calls {action : Action} (viewOnly : profile.viewOnly = true)
    (calls : state.calls profile action = true) : action.input = false := by
  cases action <;> simp_all [State.calls, Action.input]

theorem ordered_send (ordered : InOrder profile state) (succeeds : Bool) :
    InOrder profile (state.send profile succeeds) := by
  obtain ⟨before, taken, sent⟩ := ordered.sent
  unfold State.send
  split
  · exact ordered
  · next action rest idle waiting =>
    rw [idle, Sender.current, List.append_nil] at taken
    refine ⟨?_, ⟨state.taken, rfl, taken ▸ sent⟩, ordered.shown, ?_⟩
    · show state.taken ++ [action] ++ rest = state.accepted
      rw [← ordered.queued, waiting, List.append_assoc]
      rfl
    · intro _ other absurd
      cases absurd
  · next _ action checking =>
    rw [checking, Sender.current] at taken
    refine ⟨ordered.queued, ?_, ordered.shown, ?_⟩
    · show ∃ before, state.taken = before ++
        (if state.calls profile action then Sender.calling action else .idle).current ∧
          state.sent.Sublist before
      split
      · exact ⟨before, taken, sent⟩
      · exact ⟨state.taken, (List.append_nil _).symm,
          taken ▸ sent.trans (List.sublist_append_left before [action])⟩
    · intro viewOnly other calling
      split at calling
      · next passes =>
        cases calling
        exact input_of_calls viewOnly passes
      · cases calling
  · next _ action calling =>
    rw [calling, Sender.current] at taken
    refine ⟨ordered.queued, ⟨state.taken, (List.append_nil _).symm, ?_⟩, ?_, ?_⟩
    · show (state.sent ++ [action]).Sublist state.taken
      rw [taken]
      exact sent.append (List.Sublist.refl [action])
    · intro viewOnly other member
      rcases List.mem_append.mp member with old | new
      · exact ordered.shown viewOnly other old
      · exact List.mem_singleton.mp new ▸ ordered.calling viewOnly action calling
    · intro _ other absurd
      cases absurd

theorem ordered_step {event : Event} (ordered : InOrder profile state) :
    InOrder profile (state.step profile event) := by
  cases event with
  | execute action => exact ordered_execute ordered action
  | send succeeds => exact ordered_send ordered succeeds
  | initConnection =>
    show InOrder profile state.initConnection
    unfold State.initConnection
    split <;> exact ordered.of_sender rfl rfl rfl rfl rfl
  | runPosted =>
    show InOrder profile state.runPosted
    unfold State.runPosted
    split <;> exact ordered.of_sender rfl rfl rfl rfl rfl
  | receive succeeds =>
    show InOrder profile (state.receive profile succeeds)
    unfold State.receive
    cases state.receiver <;> dsimp only <;> (try split_ifs) <;>
      exact ordered.of_sender rfl rfl rfl rfl rfl
  | draw visible =>
    show InOrder profile (state.draw visible)
    unfold State.draw
    split <;> exact ordered.of_sender rfl rfl rfl rfl rfl
  | clear | observe | activeStateChanged | removeObserver | gotCutText =>
    exact ordered.of_sender rfl rfl rfl rfl rfl

theorem ordered_initial (profile : ServerProfile) : InOrder profile .initial where
  queued := rfl
  sent := ⟨[], rfl, List.Sublist.refl []⟩
  shown _ _ member := absurd member List.not_mem_nil
  calling _ _ calling := by cases calling

/-- In every run the actions are taken in the order in which they were accepted, each once, the
native methods are called for some of them in the same order, and for no input on a view-only
connection. -/
theorem actions_in_order (profile : ServerProfile) {events : List Event}
    (run : (machine profile).Run events) : InOrder profile ((machine profile).after events) :=
  Machine.Run.invariant (InOrder profile) (ordered_initial profile)
    (fun _ _ ordered _ => ordered_step ordered) run

/-- A pointer event is sent, and the view model is cleared while a refresh waits. -/
def clearedRun : List Event :=
  [.initConnection, .receive true, .receive true, .receive true, .runPosted,
   .execute (.pointerEvent 3 4 1), .send true, .execute .refresh, .send true, .send true, .clear,
   .receive true, .receive true, .receive true, .receive true, .send true, .send true,
   .execute .buttonUpDelay, .send true, .receive true, .receive true, .receive true]

theorem actions_in_order_cleared : InOrder {} ((machine {}).after clearedRun) :=
  actions_in_order {} (by decide)

/-! ### The release of the native client -/

/-- The sender thread or the renderer is in a native method. -/
def State.inNative (state : State) : Bool :=
  (match state.sender with
    | .calling _ => true
    | _ => false) || decide (state.renderer = .drawing)

/-- Nobody uses a client that was released. -/
def Unused (state : State) : Prop := state.freed = true → state.inNative = false

/-- The client is released while the sender thread and the renderer are in no native method. -/
def ReleasedUnused (state : State) : Event → Prop
  | .receive _ => state.receiver = .releasing → state.inNative = false
  | _ => True

/-- The client is released once, by a receiver coroutine that cleared the flag before. -/
def Receiver.Release (connected freed : Bool) : Receiver → Prop
  | .releasing => connected = false ∧ freed = false
  | .closingTunnel => connected = false ∧ freed = true
  | .completed => freed = true → connected = false
  | _ => freed = false

def Releases (state : State) : Prop := state.receiver.Release state.connected state.freed

theorem Releases.down (releases : Releases state) (freed : state.freed = true) :
    state.connected = false := by
  unfold Releases at releases
  cases standing : state.receiver <;> rw [standing] at releases
  case closingTunnel => exact releases.1
  case completed => exact releases freed
  case releasing => exact absurd (freed.symm.trans releases.2) (by decide)
  all_goals exact absurd (freed.symm.trans releases) (by decide)

theorem releases_initial : Releases .initial := (rfl : State.initial.freed = false)

theorem release_connect {connected freed : Bool} (fresh : freed = false) :
    (State.connect profile).Release connected freed := by
  unfold State.connect
  split_ifs <;> exact fresh

theorem releases_receive (releases : Releases state) (succeeds : Bool) :
    Releases (state.receive profile succeeds) := by
  unfold Releases at releases ⊢
  unfold State.receive
  cases standing : state.receiver <;> rw [standing] at releases <;> dsimp only
  case unlaunched | completed => exact standing ▸ releases
  case dispatched =>
    have kept : state.freed = false := releases
    split_ifs
    · exact fun freed => absurd (freed.symm.trans kept) (by decide)
    · exact kept
    · exact release_connect kept
  case unlocking =>
    split_ifs
    · exact release_connect releases
    · exact releases
  case opening | initialising | closingGate | processing | receiving =>
    split_ifs <;> exact releases
  case disconnecting => exact ⟨rfl, releases⟩
  case releasing => exact ⟨releases.1, rfl⟩
  case closingTunnel => exact fun _ => releases.1
  all_goals exact releases

theorem releases_step {event : Event} (staged : Staged state) (releases : Releases state) :
    Releases (state.step profile event) := by
  cases event with
  | receive succeeds => exact releases_receive releases succeeds
  | initConnection =>
    show Releases state.initConnection
    unfold State.initConnection
    split
    · next created =>
      unfold Releases at releases
      rw [(staged.unlaunched created).1] at releases
      exact releases
    · exact releases
  | runPosted =>
    show Releases state.runPosted
    unfold State.runPosted
    split <;> exact releases
  | execute action =>
    show Releases (state.execute action)
    unfold State.execute
    split <;> exact releases
  | send succeeds =>
    show Releases (state.send profile succeeds)
    unfold State.send
    split <;> exact releases
  | draw visible =>
    show Releases (state.draw visible)
    unfold State.draw
    split <;> exact releases
  | clear | observe | activeStateChanged | removeObserver | gotCutText => exact releases

/-- The receiver coroutine only endangers the client when it releases it. -/
theorem unused_receive_iff (unused : Unused state) (succeeds : Bool) :
    Unused (state.receive profile succeeds) ↔
      (state.receiver = .releasing → state.inNative = false) := by
  have threads : (state.receive profile succeeds).inNative = state.inNative ∧
      (state.receiver ≠ .releasing → (state.receive profile succeeds).freed = state.freed) := by
    unfold State.receive
    cases state.receiver <;> dsimp only
    case releasing => exact ⟨rfl, fun other => absurd rfl other⟩
    case dispatched | receiving => split_ifs <;> exact ⟨rfl, fun _ => rfl⟩
    all_goals exact ⟨rfl, fun _ => rfl⟩
  unfold Unused
  rw [threads.1]
  by_cases releasing : state.receiver = .releasing
  · have freed : (state.receive profile succeeds).freed = true := by
      unfold State.receive
      rw [releasing]
    rw [freed]
    exact ⟨fun safe _ => safe rfl, fun safe _ => safe releasing⟩
  · rw [threads.2 releasing]
    exact iff_of_true unused fun absurd => (releasing absurd).elim

/-- Once the flag is cleared, nobody enters a native method. -/
theorem inNative_send (down : state.connected = false) (outside : state.inNative = false)
    (succeeds : Bool) : (state.send profile succeeds).inNative = false := by
  unfold State.send
  split
  · exact outside
  · next action rest idle _ =>
    unfold State.inNative at outside ⊢
    rw [idle] at outside
    exact outside
  · next _ action checking =>
    have refused : state.calls profile action = false := by
      cases action <;> simp [State.calls, down]
    unfold State.inNative at outside ⊢
    rw [checking] at outside
    rw [refused]
    exact outside
  · next _ action calling =>
    unfold State.inNative at outside
    rw [calling] at outside
    exact absurd outside (by simp)

theorem inNative_draw (down : state.connected = false) (outside : state.inNative = false)
    (visible : Bool) : (state.draw visible).inNative = false := by
  have sender : (state.draw visible).sender = state.sender := by
    unfold State.draw
    split <;> rfl
  have idle : (state.draw visible).renderer = .idle := by
    unfold State.draw
    split
    · rw [down]
      rfl
    · rfl
  unfold State.inNative at outside ⊢
  rw [Bool.or_eq_false_iff] at outside
  rw [sender, idle, outside.1]
  rfl

theorem unused_step_iff {event : Event} (releases : Releases state) (unused : Unused state) :
    Unused (state.step profile event) ↔ ReleasedUnused state event := by
  cases event with
  | receive succeeds => exact unused_receive_iff unused succeeds
  | send succeeds =>
    have freed : (state.send profile succeeds).freed = state.freed := by
      unfold State.send
      split <;> rfl
    refine iff_of_true (fun gone => ?_) trivial
    have gone' := freed.symm.trans gone
    exact inNative_send (releases.down gone') (unused gone') succeeds
  | draw visible =>
    have freed : (state.draw visible).freed = state.freed := by
      unfold State.draw
      split <;> rfl
    refine iff_of_true (fun gone => ?_) trivial
    have gone' := freed.symm.trans gone
    exact inNative_draw (releases.down gone') (unused gone') visible
  | initConnection =>
    refine iff_of_true (show Unused state.initConnection from ?_) trivial
    unfold State.initConnection
    split <;> exact unused
  | runPosted =>
    refine iff_of_true (show Unused state.runPosted from ?_) trivial
    unfold State.runPosted
    split <;> exact unused
  | execute action =>
    refine iff_of_true (show Unused (state.execute action) from ?_) trivial
    unfold State.execute
    split <;> exact unused
  | clear | observe | activeStateChanged | removeObserver | gotCutText =>
    exact iff_of_true unused trivial

/-- All along a run nobody uses a released client, just when the client is released while the
sender thread and the renderer are in no native method. -/
theorem released_client_unused_iff (profile : ServerProfile) {events : List Event}
    (run : (machine profile).Run events) :
    (machine profile).Always Unused events ↔
      ((machine profile).restrict ReleasedUnused).Run events :=
  Machine.Run.always_iff (fun state => Staged state ∧ Releases state) Unused
    ⟨staged_initial, releases_initial⟩
    (fun absurd => Bool.noConfusion (absurd : false = true))
    (fun _ _ held may _ => ⟨staged_step held.1 may, releases_step held.1 held.2⟩)
    (fun _ _ held unused _ => unused_step_iff held.2 unused) run

instance (state : State) : ∀ event, Decidable (ReleasedUnused state event)
  | .receive _ =>
    inferInstanceAs (Decidable (state.receiver = .releasing → state.inNative = false))
  | .initConnection | .runPosted | .clear | .observe _ | .activeStateChanged _ _
  | .removeObserver _ | .execute _ | .gotCutText _ | .send _ | .draw _ => .isTrue trivial

theorem released_client_unused_cleared : (machine {}).Always Unused clearedRun :=
  (released_client_unused_iff {} (by decide)).mpr (by decide)

/-! ### A clean-up in time -/

/-- `awaitTermination` does not time out. -/
def TerminatesInTime (state : State) : Event → Prop
  | .receive false => state.receiver ≠ .terminating
  | _ => True

/-- Where the receiver coroutine has waited for the sender thread. -/
def Receiver.waited : Receiver → Bool
  | .disconnecting | .releasing | .closingTunnel => true
  | _ => false

/-- The sender thread is done for good before the client is released. -/
structure Drained (state : State) : Prop where
  waited : state.receiver.waited = true → state.terminated = true
  released : state.freed = true → state.terminated = true

theorem terminated_iff : state.terminated = true ↔
    state.shutdown = true ∧ state.queue = [] ∧ state.sender = .idle := by
  simp [State.terminated, and_assoc]

/-- Nothing wakes a sender thread that terminated. -/
theorem terminated_step {event : Event} (done : state.terminated = true) :
    (state.step profile event).terminated = true := by
  obtain ⟨shut, queue, idle⟩ := terminated_iff.mp done
  cases event with
  | execute action =>
    show (state.execute action).terminated = true
    unfold State.execute
    rw [if_pos shut]
    exact done
  | send succeeds =>
    show (state.send profile succeeds).terminated = true
    unfold State.send
    rw [idle, queue]
    exact done
  | receive succeeds =>
    show (state.receive profile succeeds).terminated = true
    unfold State.receive
    cases state.receiver <;> dsimp only
    case shuttingDown => exact terminated_iff.mpr ⟨rfl, queue, idle⟩
    case dispatched | receiving => split_ifs <;> exact done
    all_goals exact done
  | initConnection =>
    show state.initConnection.terminated = true
    unfold State.initConnection
    split <;> exact done
  | runPosted =>
    show state.runPosted.terminated = true
    unfold State.runPosted
    split <;> exact done
  | draw visible =>
    show (state.draw visible).terminated = true
    unfold State.draw
    split <;> exact done
  | clear | observe | activeStateChanged | removeObserver | gotCutText => exact done

/-- Where the coroutine has waited, or has released the client, the sender thread terminated in
time before the step. -/
theorem terminated_of_receive (drained : Drained state) {succeeds : Bool}
    (may : state.mayReceive succeeds = true) (inTime : TerminatesInTime state (.receive succeeds))
    (late : (state.receive profile succeeds).receiver.waited = true ∨
      (state.receive profile succeeds).freed = true) : state.terminated = true := by
  have early (same : (state.receive profile succeeds).freed = state.freed)
      (working : (state.receive profile succeeds).receiver.waited = false) :
      state.terminated = true :=
    late.elim (fun waited => absurd (waited.symm.trans working) (by decide))
      fun freed => drained.released (same.symm.trans freed)
  have channel : (State.connect profile).waited = false := by
    unfold State.connect
    split_ifs <;> rfl
  unfold State.mayReceive at may
  unfold State.receive at early
  cases standing : state.receiver <;> rw [standing] at may early <;> dsimp only at may early
  case disconnecting | releasing | closingTunnel => exact drained.waited (standing ▸ rfl)
  case terminating =>
    cases succeeds with
    | false => exact absurd standing inTime
    | true => exact may
  case dispatched =>
    split_ifs at early
    · exact early rfl rfl
    · exact early rfl rfl
    · exact early rfl channel
  case unlocking =>
    refine early rfl ?_
    split_ifs
    · exact channel
    · rfl
  case opening | initialising | closingGate | processing =>
    refine early rfl ?_
    split_ifs <;> rfl
  case receiving => split_ifs at early <;> exact early rfl rfl
  case unlaunched | completed => exact absurd may (by decide)
  all_goals exact early rfl rfl

theorem drained_step {event : Event} (drained : Drained state) (may : event.enabled state = true)
    (inTime : TerminatesInTime state event) : Drained (state.step profile event) := by
  have before : (state.step profile event).receiver.waited = true ∨
      (state.step profile event).freed = true → state.terminated = true := by
    have still (late : state.receiver.waited = true ∨ state.freed = true) :
        state.terminated = true := late.elim drained.waited drained.released
    cases event with
    | receive succeeds => exact terminated_of_receive drained may inTime
    | initConnection =>
      show state.initConnection.receiver.waited = true ∨ state.initConnection.freed = true → _
      unfold State.initConnection
      split
      · exact fun late => late.elim (fun absurd => Bool.noConfusion absurd) drained.released
      · exact still
    | runPosted =>
      show state.runPosted.receiver.waited = true ∨ state.runPosted.freed = true → _
      unfold State.runPosted
      split <;> exact still
    | execute action =>
      show (state.execute action).receiver.waited = true ∨ (state.execute action).freed = true → _
      unfold State.execute
      split <;> exact still
    | send succeeds =>
      show (state.send profile succeeds).receiver.waited = true ∨
        (state.send profile succeeds).freed = true → _
      unfold State.send
      split <;> exact still
    | draw visible =>
      show (state.draw visible).receiver.waited = true ∨ (state.draw visible).freed = true → _
      unfold State.draw
      split <;> exact still
    | clear | observe | activeStateChanged | removeObserver | gotCutText => exact still
  exact ⟨fun waited => terminated_step (before (.inl waited)),
    fun freed => terminated_step (before (.inr freed))⟩

/-- In a run in which the sender thread terminates in time, every action that was accepted has been
taken when the client is released, and the sender thread is in no native method. -/
theorem cleaned_up_in_time (profile : ServerProfile) {events : List Event}
    (run : ((machine profile).restrict TerminatesInTime).Run events)
    (freed : ((machine profile).after events).freed = true) :
    ((machine profile).after events).taken = ((machine profile).after events).accepted ∧
      ((machine profile).after events).sender = .idle := by
  have held := Machine.Run.invariant_of_condition
    (fun state => Drained state ∧ InOrder profile state)
    ⟨⟨fun absurd => Bool.noConfusion absurd, fun absurd => Bool.noConfusion absurd⟩,
      ordered_initial profile⟩
    (fun _ _ held may inTime => ⟨drained_step held.1 may inTime, ordered_step held.2⟩) run
  obtain ⟨-, queue, idle⟩ := terminated_iff.mp (held.1.released freed)
  refine ⟨?_, idle⟩
  rw [← held.2.queued, queue, List.append_nil]

instance (state : State) : ∀ event, Decidable (TerminatesInTime state event)
  | .receive false => inferInstanceAs (Decidable (state.receiver ≠ .terminating))
  | .receive true | .initConnection | .runPosted | .clear | .observe _ | .activeStateChanged _ _
  | .removeObserver _ | .execute _ | .gotCutText _ | .send _ | .draw _ => .isTrue trivial

theorem cleaned_up_in_time_cleared :
    ((machine {}).after clearedRun).taken = ((machine {}).after clearedRun).accepted ∧
      ((machine {}).after clearedRun).sender = .idle :=
  cleaned_up_in_time {} (by decide) (by decide)

/-! ### The client of a coroutine that never started -/

/-- A completed coroutine has released the client if it reported the end of the connection. -/
def Reported (state : State) : Prop :=
  state.receiver = .completed → (state.freed = true ↔ state.latest = some .Disconnected)

/-- A step that leaves the coroutine, the client and the newest state alone. -/
theorem Reported.of_latest {after : State} (reported : Reported state)
    (receiver : after.receiver = state.receiver) (freed : after.freed = state.freed)
    (latest : after.latest = state.latest) : Reported after := fun completed => by
  rw [freed, latest]
  exact reported (receiver.symm.trans completed)

theorem reported_receive (staged : Staged state) (releases : Releases state) {succeeds : Bool}
    (may : state.mayReceive succeeds = true) : Reported (state.receive profile succeeds) := by
  have due := staged.due
  have channel : State.connect profile ≠ .completed := by
    unfold State.connect
    split_ifs <;> decide
  unfold Releases at releases
  unfold State.mayReceive at may
  unfold Reported State.receive
  cases standing : state.receiver <;> rw [standing] at due releases may <;> dsimp only at may ⊢
  case unlaunched | completed => exact absurd may (by decide)
  case dispatched =>
    split_ifs
    · -- The coroutine was cancelled before it started.
      refine fun _ => iff_of_false (fun freed => ?_) ?_
      · exact absurd (freed.symm.trans releases) (by decide)
      · show ¬state.live.pending.or state.live.value = some .Disconnected
        rw [due.1, due.2]
        decide
    · exact fun absurd => by cases absurd
    · exact fun completed => absurd completed channel
  case unlocking =>
    split_ifs
    · exact fun completed => absurd completed channel
    · exact fun absurd => by cases absurd
  case opening | initialising | closingGate | processing | receiving =>
    split_ifs <;> exact fun absurd => by cases absurd
  case closingTunnel =>
    refine fun _ => iff_of_true releases.2 ?_
    show state.live.pending.or state.live.value = some .Disconnected
    rcases due with ⟨-, pending⟩ | ⟨value, pending⟩
    · rw [pending]
      rfl
    · rw [value, pending]
      rfl
  all_goals exact fun absurd => by cases absurd

theorem reported_step {event : Event} (staged : Staged state) (releases : Releases state)
    (reported : Reported state) (may : event.enabled state = true) :
    Reported (state.step profile event) := by
  cases event with
  | receive succeeds => exact reported_receive staged releases may
  | initConnection =>
    show Reported state.initConnection
    unfold State.initConnection
    split
    · exact fun absurd => by cases absurd
    · exact reported
  | runPosted =>
    show Reported state.runPosted
    unfold State.runPosted
    split
    · exact reported
    · next status posted =>
      refine reported.of_latest rfl rfl ?_
      show state.live.runPosted.2.pending.or state.live.runPosted.2.value =
        state.live.pending.or state.live.value
      unfold LiveData.runPosted
      rw [posted]
      rfl
  | observe activity =>
    have kept := @LiveData.observe_value _ _ _ state.live activity
    exact reported.of_latest rfl rfl (congrArg₂ Option.or kept.2.2 kept.1)
  | activeStateChanged activity active =>
    have kept := @LiveData.activeStateChanged_value _ _ _ state.live activity active
    exact reported.of_latest rfl rfl (congrArg₂ Option.or kept.2.2 kept.1)
  | execute action =>
    show Reported (state.execute action)
    unfold State.execute
    split <;> exact reported.of_latest rfl rfl rfl
  | send succeeds =>
    show Reported (state.send profile succeeds)
    unfold State.send
    split <;> exact reported.of_latest rfl rfl rfl
  | draw visible =>
    show Reported (state.draw visible)
    unfold State.draw
    split <;> exact reported.of_latest rfl rfl rfl
  | clear | removeObserver | gotCutText => exact reported.of_latest rfl rfl rfl

/-- When the receiver coroutine has completed, the native client is released just when the
connection was reported as disconnected. A coroutine that is cancelled before it starts leaves the
client behind. -/
theorem client_released_iff_reported (profile : ServerProfile) {events : List Event}
    (run : (machine profile).Run events)
    (completed : ((machine profile).after events).receiver = .completed) :
    ((machine profile).after events).freed = true ↔
      ((machine profile).after events).latest = some .Disconnected := by
  have held := Machine.Run.invariant
    (fun state => Staged state ∧ Releases state ∧ Reported state)
    ⟨staged_initial, releases_initial, fun absurd => by cases absurd⟩
    (fun _ _ held may => ⟨staged_step held.1 may, releases_step held.1 held.2.1,
      reported_step held.1 held.2.1 held.2.2 may⟩) run
  exact held.2.2 completed

/-- The view model is cleared before the coroutine starts. -/
def leakingRun : List Event := [.initConnection, .clear, .receive true]

theorem client_released_iff_reported_leaking :
    ¬((machine {}).after leakingRun).freed = true :=
  fun freed => absurd
    ((@client_released_iff_reported {} leakingRun (by decide) (by decide)).mp freed)
    (by decide)

end TermPlux.Connection
