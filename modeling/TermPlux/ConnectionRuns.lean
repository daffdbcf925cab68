/-
This file proves what the threads of a VNC connection keep to, whatever their
interleaving.

The state follows the arrows of the lifecycle, and so do the notices that each
activity gets: none of them goes back or repeats itself. The flag of the client
agrees with the state unless a tunnel gate fails to close. The sender thread takes
the actions in the order in which they were handed over, each at most once, and
none of them is lost when the connection is cleaned up in time. The native client
is never used after its release, unless the release happens while the sender
thread or the renderer is in a native method.
-/

import Mathlib.Data.List.Chain
import TermPlux.Connection

namespace TermPlux.Connection

/-! ### The lifecycle -/

/-- The arrows between the states. -/
def Edge : Status → Status → Prop
  | .Created, .Connecting
  | .Connecting, .Connected
  | .Connecting, .Disconnected
  | .Connected, .Disconnected => True
  | _, _ => False

/-- How far a state is in the lifecycle. -/
def Status.rank : Status → Nat
  | .Created => 0
  | .Connecting => 1
  | .Connected => 2
  | .Disconnected => 3

theorem rank_lt_of_edge {before after : Status} (edge : Edge before after) :
    before.rank < after.rank := by
  cases before <;> cases after <;> simp_all [Edge, Status.rank]

/-- The receiver coroutine, as far as it matters for what it posts. -/
inductive Stage
  | unlaunched
  /-- Nothing is posted yet. -/
  | opening
  /-- `Connected` was posted. -/
  | serving
  /-- `Disconnected` is to be posted. -/
  | ending
  /-- `Disconnected` was posted. -/
  | ended
  | completed

def Receiver.stage : Receiver → Stage
  | .unlaunched => .unlaunched
  | .dispatched | .unlocking | .opening | .initialising _ | .closingGate _ | .announcing => .opening
  | .processing | .receiving => .serving
  | .ending => .ending
  | .awaiting | .shuttingDown | .terminating | .disconnecting | .releasing | .closingTunnel =>
    .ended
  | .completed => .completed

/-- The value of the state, and the one posted over it, in each stage. A coroutine that is
cancelled before it starts posts nothing. -/
def Stage.Due (value pending : Option Status) : Stage → Prop
  | .unlaunched => value = some .Created ∧ pending = none
  | .opening => value = some .Connecting ∧ pending = none
  | .serving =>
    value = some .Connecting ∧ pending = some .Connected ∨
      value = some .Connected ∧ pending = none
  | .ending =>
    value = some .Connecting ∧ (pending = none ∨ pending = some .Connected) ∨
      value = some .Connected ∧ pending = none
  | .ended =>
    (value = some .Connecting ∨ value = some .Connected) ∧ pending = some .Disconnected ∨
      value = some .Disconnected ∧ pending = none
  | .completed =>
    (value = some .Connecting ∨ value = some .Connected) ∧ pending = some .Disconnected ∨
      (value = some .Disconnected ∨ value = some .Connecting) ∧ pending = none

/-- The values so far follow the arrows, and what is posted continues them. -/
structure Staged (state : State) : Prop where
  first : state.values.head? = some .Created
  chain : state.values.IsChain Edge
  last : state.values.getLast? = state.live.value
  due : state.receiver.stage.Due state.live.value state.live.pending
  once : state.launches = if state.receiver = .unlaunched then 0 else 1

variable {profile : ServerProfile} {state : State}

/-- A step that leaves the values alone keeps to the lifecycle if it posts what is due. -/
theorem Staged.of_values {after : State} (staged : Staged state)
    (values : after.values = state.values) (value : after.live.value = state.live.value)
    (due : after.receiver.stage.Due after.live.value after.live.pending)
    (once : after.launches = if after.receiver = .unlaunched then 0 else 1) : Staged after where
  first := values ▸ staged.first
  chain := values ▸ staged.chain
  last := by rw [values, value, staged.last]
  due := due
  once := once

/-- The value moves along an arrow. -/
theorem Staged.of_edge {after : State} (staged : Staged state) {before status : Status}
    (value : state.live.value = some before) (edge : Edge before status)
    (values : after.values = state.values ++ [status]) (later : after.live.value = some status)
    (due : after.receiver.stage.Due after.live.value after.live.pending)
    (once : after.launches = if after.receiver = .unlaunched then 0 else 1) : Staged after where
  first := by
    rw [values, List.head?_append, staged.first]
    rfl
  chain := by
    rw [values, List.isChain_append]
    refine ⟨staged.chain, List.isChain_singleton status, ?_⟩
    intro last inLast next inNext
    rw [staged.last, value, Option.mem_some_iff] at inLast
    rw [List.head?_cons, Option.mem_some_iff] at inNext
    exact inLast ▸ inNext ▸ edge
  last := by rw [values, later, List.getLast?_concat]
  due := due
  once := once

/-- Before the connection is initialised, nothing is launched and nothing is posted. -/
theorem Staged.unlaunched (staged : Staged state) (created : state.live.value = some .Created) :
    state.receiver = .unlaunched ∧ state.live.pending = none := by
  have due := staged.due
  rw [created] at due
  cases standing : state.receiver <;> rw [standing] at due
  case unlaunched => exact ⟨rfl, due.2⟩
  all_goals simp [Receiver.stage, Stage.Due] at due

theorem staged_initConnection (staged : Staged state) : Staged state.initConnection := by
  unfold State.initConnection
  split
  · next created =>
    have idle := staged.unlaunched created
    have none := staged.once
    rw [if_pos idle.1] at none
    have launched : (state.setStatus .Connecting).launchConnection.launches = 1 :=
      congrArg (· + 1) none
    exact staged.of_edge created (show Edge .Created .Connecting from trivial) rfl rfl
      ⟨rfl, idle.2⟩ launched
  · exact staged

theorem staged_runPosted (staged : Staged state) : Staged state.runPosted := by
  unfold State.runPosted
  split
  · exact staged
  · next status posted =>
    have due := staged.due
    rw [posted] at due
    have run : state.live.runPosted =
        ({ state.live with pending := none } : LiveData Nat Status).setValue status := by
      unfold LiveData.runPosted
      rw [posted]
    -- What is posted continues the value by an arrow, and nothing is posted afterwards.
    have next : ∃ before, state.live.value = some before ∧ Edge before status ∧
        state.receiver.stage.Due (some status) none := by
      generalize state.receiver.stage = stage at due
      cases stage with
      | unlaunched | opening => exact absurd due.2 (by simp)
      | serving =>
        rcases due with ⟨value, same⟩ | ⟨-, absurd⟩
        · cases same
          exact ⟨.Connecting, value, trivial, .inr ⟨rfl, rfl⟩⟩
        · cases absurd
      | ending =>
        rcases due with ⟨value, absurd | same⟩ | ⟨-, absurd⟩
        · cases absurd
        · cases same
          exact ⟨.Connecting, value, trivial, .inr ⟨rfl, rfl⟩⟩
        · cases absurd
      | ended =>
        rcases due with ⟨value | value, same⟩ | ⟨-, absurd⟩
        · cases same
          exact ⟨.Connecting, value, trivial, .inr ⟨rfl, rfl⟩⟩
        · cases same
          exact ⟨.Connected, value, trivial, .inr ⟨rfl, rfl⟩⟩
        · cases absurd
      | completed =>
        rcases due with ⟨value | value, same⟩ | ⟨-, absurd⟩
        · cases same
          exact ⟨.Connecting, value, trivial, .inr ⟨.inl rfl, rfl⟩⟩
        · cases same
          exact ⟨.Connected, value, trivial, .inr ⟨.inl rfl, rfl⟩⟩
        · cases absurd
    obtain ⟨before, value, edge, later⟩ := next
    refine staged.of_edge value edge rfl ?_ ?_ staged.once
    · show state.live.runPosted.2.value = some status
      rw [run]
      rfl
    · show state.receiver.stage.Due state.live.runPosted.2.value state.live.runPosted.2.pending
      rw [run]
      exact later

/-- Once the receiver coroutine is launched it does not go back, and it leaves the values alone. -/
theorem receive_keeps (profile : ServerProfile) (state : State) (succeeds : Bool) :
    (state.receive profile succeeds).values = state.values ∧
      (state.receive profile succeeds).live.value = state.live.value ∧
      (state.receive profile succeeds).launches = state.launches ∧
      ((state.receive profile succeeds).receiver = .unlaunched ↔ state.receiver = .unlaunched) := by
  have channel : State.connect profile ≠ .unlaunched := by
    unfold State.connect
    split_ifs <;> decide
  unfold State.receive
  cases standing : state.receiver <;> dsimp only <;> (try split_ifs) <;>
    simp_all [LiveData.postValue]

/-- While it opens the connection, the coroutine has posted nothing. -/
theorem due_connect {value pending : Option Status} (due : Stage.Due value pending .opening) :
    (State.connect profile).stage.Due value pending := by
  unfold State.connect
  split
  · exact due
  · split
    · exact due
    · exact .inl ⟨due.1, .inl due.2⟩

/-- The receiver coroutine posts what is due. -/
theorem staged_receive (staged : Staged state) {succeeds : Bool}
    (may : state.mayReceive succeeds = true) : Staged (state.receive profile succeeds) := by
  obtain ⟨values, value, launches, unlaunched⟩ := receive_keeps profile state succeeds
  refine staged.of_values values value ?_ (by rw [launches, staged.once, if_congr unlaunched rfl rfl])
  have due := staged.due
  -- A coroutine that gives up before it announced the connection.
  have failed (opening : Stage.Due state.live.value state.live.pending .opening) :
      Stage.Due state.live.value state.live.pending .ending := .inl ⟨opening.1, .inl opening.2⟩
  unfold State.receive
  unfold State.mayReceive at may
  cases standing : state.receiver <;> rw [standing] at due may <;> dsimp only at may ⊢
  case unlaunched | completed => exact absurd may (by decide)
  case dispatched =>
    split_ifs
    · exact .inr ⟨.inr due.1, due.2⟩
    · exact due
    · exact due_connect due
  case unlocking =>
    split_ifs
    · exact due_connect due
    · exact failed due
  case opening | closingGate =>
    split_ifs
    · exact due
    · exact failed due
  case initialising =>
    split_ifs
    · exact due
    · exact due
    · exact failed due
  case announcing => exact .inl ⟨due.1, rfl⟩
  case processing =>
    split_ifs
    · exact due
    · exact due.imp (fun waiting => ⟨waiting.1, .inr waiting.2⟩) id
  case receiving =>
    split_ifs
    · exact due
    · exact due.imp (fun waiting => ⟨waiting.1, .inr waiting.2⟩) id
  case ending => exact .inl ⟨due.imp And.left And.left, rfl⟩
  case awaiting | shuttingDown | terminating | disconnecting | releasing => exact due
  case closingTunnel => exact due.imp id fun ended => ⟨.inl ended.1, ended.2⟩

theorem staged_step {event : Event} (staged : Staged state) (may : event.enabled state = true) :
    Staged (state.step profile event) := by
  cases event with
  | initConnection => exact staged_initConnection staged
  | runPosted => exact staged_runPosted staged
  | receive succeeds => exact staged_receive staged may
  | observe activity =>
    have kept := @LiveData.observe_value _ _ _ state.live activity
    refine staged.of_values rfl kept.1 ?_ staged.once
    exact kept.1 ▸ kept.2.2 ▸ staged.due
  | activeStateChanged activity active =>
    have kept := @LiveData.activeStateChanged_value _ _ _ state.live activity active
    refine staged.of_values rfl kept.1 ?_ staged.once
    exact kept.1 ▸ kept.2.2 ▸ staged.due
  | clear | removeObserver | gotCutText => exact staged.of_values rfl rfl staged.due staged.once
  | execute action =>
    show Staged (state.execute action)
    unfold State.execute
    split
    · exact staged
    · exact staged.of_values rfl rfl staged.due staged.once
  | send succeeds =>
    show Staged (state.send profile succeeds)
    unfold State.send
    split
    · exact staged
    all_goals exact staged.of_values rfl rfl staged.due staged.once
  | draw visible =>
    show Staged (state.draw visible)
    unfold State.draw
    split <;> exact staged.of_values rfl rfl staged.due staged.once

theorem staged_initial : Staged .initial where
  first := rfl
  chain := List.isChain_singleton _
  last := rfl
  due := ⟨rfl, rfl⟩
  once := rfl

/-! ### What the activities see -/

/-- The notices are logged, and each value of the state has its version. -/
structure Told (state : State) : Prop where
  logged : state.live.Logged state.notified
  versions : state.live.version = state.values.length
  positive : 0 < state.live.version

/-- A step that leaves the live data and the notices alone. -/
theorem Told.of_live {after : State} (told : Told state) (live : after.live = state.live)
    (notified : after.notified = state.notified) (values : after.values = state.values) :
    Told after where
  logged := live ▸ notified ▸ told.logged
  versions := by rw [live, values, told.versions]
  positive := live ▸ told.positive

theorem told_setStatus (told : Told state) (status : Status) : Told (state.setStatus status) where
  logged := told.logged.setValue status
  versions := by
    show state.live.version + 1 = (state.values ++ [status]).length
    rw [told.versions, List.length_append, List.length_singleton]
  positive := Nat.succ_pos _

theorem told_runPosted (told : Told state) : Told state.runPosted := by
  unfold State.runPosted
  split
  · exact told
  · next status posted =>
    refine ⟨told.logged.runPosted, ?_, ?_⟩
    · show state.live.runPosted.2.version = (state.values ++ [status]).length
      rw [List.length_append, List.length_singleton, ← told.versions]
      unfold LiveData.runPosted
      rw [posted]
      rfl
    · show 0 < state.live.runPosted.2.version
      unfold LiveData.runPosted
      rw [posted]
      exact Nat.succ_pos _

theorem told_receive (told : Told state) (succeeds : Bool) :
    Told (state.receive profile succeeds) := by
  unfold State.receive
  cases state.receiver <;> dsimp only
  case announcing | ending => exact ⟨told.logged.postValue _, told.versions, told.positive⟩
  case dispatched | receiving => split_ifs <;> exact told.of_live rfl rfl rfl
  all_goals exact told.of_live rfl rfl rfl

theorem told_step {event : Event} (told : Told state) (may : event.enabled state = true) :
    Told (state.step profile event) := by
  cases event with
  | initConnection =>
    show Told state.initConnection
    unfold State.initConnection
    split
    · exact (told_setStatus told .Connecting).of_live rfl rfl rfl
    · exact told
  | runPosted => exact told_runPosted told
  | receive succeeds => exact told_receive told succeeds
  | observe activity =>
    have kept := @LiveData.observe_value _ _ _ state.live activity
    have fresh : ∀ notice ∈ state.notified, notice.observer ≠ activity := by
      simpa [Event.enabled] using may
    refine ⟨told.logged.observe fresh, ?_, ?_⟩
    · exact kept.2.1.trans told.versions
    · exact kept.2.1 ▸ told.positive
  | activeStateChanged activity active =>
    have kept := @LiveData.activeStateChanged_value _ _ _ state.live activity active
    refine ⟨told.logged.activeStateChanged told.positive activity active, ?_, ?_⟩
    · exact kept.2.1.trans told.versions
    · exact kept.2.1 ▸ told.positive
  | removeObserver activity =>
    exact ⟨told.logged.removeObserver activity, told.versions, told.positive⟩
  | clear | gotCutText => exact told.of_live rfl rfl rfl
  | execute action =>
    show Told (state.execute action)
    unfold State.execute
    split <;> exact told.of_live rfl rfl rfl
  | send succeeds =>
    show Told (state.send profile succeeds)
    unfold State.send
    split <;> exact told.of_live rfl rfl rfl
  | draw visible =>
    show Told (state.draw visible)
    unfold State.draw
    split <;> exact told.of_live rfl rfl rfl

theorem told_initial : Told .initial where
  logged :=
    { distinct := List.nodup_nil
      timely := fun _ member => absurd member List.not_mem_nil
      issued := fun _ member => absurd member List.not_mem_nil
      remembered := fun _ member => absurd member List.not_mem_nil
      increasing := List.Pairwise.nil }
  versions := rfl
  positive := Nat.one_pos

/-- The states that an activity was notified of, oldest first. -/
def State.told (state : State) (activity : Nat) : List Status :=
  (state.notified.filter (·.observer = activity)).filterMap fun notice =>
    state.values[notice.version - 1]?

/-- Nothing goes back: neither the state nor what an activity is told about it. -/
structure Forward (state : State) : Prop where
  first : state.values.head? = some .Created
  chain : state.values.IsChain Edge
  last : state.values.getLast? = state.live.value
  once : state.launches ≤ 1
  told : ∀ activity, (state.told activity).Pairwise fun earlier later => earlier.rank < later.rank

theorem Staged.forward (staged : Staged state) (told : Told state) : Forward state where
  first := staged.first
  chain := staged.chain
  last := staged.last
  once := by
    rw [staged.once]
    split <;> decide
  told activity := by
    have sorted : state.values.Pairwise fun earlier later => earlier.rank < later.rank :=
      haveI : IsTrans Status fun earlier later => earlier.rank < later.rank :=
        ⟨fun _ _ _ => Nat.lt_trans⟩
      List.isChain_iff_pairwise.mp (staged.chain.imp fun _ _ => rank_lt_of_edge)
    rw [State.told, List.pairwise_filterMap]
    refine (told.logged.increasing.filter _).imp_of_mem ?_
    intro earlier later inEarlier inLater increasing status first status' second
    have same : earlier.observer = later.observer := by
      rw [of_decide_eq_true (List.mem_filter.mp inEarlier).2,
        of_decide_eq_true (List.mem_filter.mp inLater).2]
    have positive := (told.logged.issued earlier (List.mem_filter.mp inEarlier).1).1
    have older : earlier.version - 1 < later.version - 1 :=
      Nat.sub_lt_sub_right positive (increasing same)
    obtain ⟨bound, rfl⟩ := List.getElem?_eq_some_iff.mp first
    obtain ⟨bound', rfl⟩ := List.getElem?_eq_some_iff.mp second
    exact List.pairwise_iff_getElem.mp sorted _ _ bound bound' older

/-- In every run the state follows the arrows of the lifecycle, the receiver coroutine is launched
at most once however often the connection is initialised, and each activity is told states further
and further on. -/
theorem connection_moves_forward (profile : ServerProfile) {events : List Event}
    (run : (machine profile).Run events) : Forward ((machine profile).after events) := by
  have both := Machine.Run.invariant (fun state => Staged state ∧ Told state)
    ⟨staged_initial, told_initial⟩
    (fun state event held may => ⟨staged_step held.1 may, told_step held.2 may⟩) run
  exact both.1.forward both.2

/-- A connection that an activity watches until the server closes it. -/
def watchedRun : List Event :=
  [.initConnection, .observe 0, .activeStateChanged 0 true, .receive true, .receive true,
   .receive true, .runPosted, .receive true, .initConnection, .receive false, .receive true,
   .runPosted]

theorem connection_moves_forward_watched :
    Forward ((machine {}).after watchedRun) ∧
      ((machine {}).after watchedRun).told 0 = [.Connecting, .Connected, .Disconnected] :=
  ⟨connection_moves_forward {} (by decide), by decide⟩

/-! ### The flag of the client -/

/-- The newest state, posted or set. -/
def State.latest (state : State) : Option Status := state.live.pending.or state.live.value

/-- The receiver coroutine is not between an update of the flag and one of the state. -/
def Receiver.settled : Receiver → Bool
  | .closingGate _ | .announcing | .ending => false
  | _ => true

/-- While the view model is in use, the flag of the client agrees with the state. -/
structure Synced (state : State) : Prop where
  agrees : state.active = true → state.receiver.settled = true →
    (state.connected = true ↔ state.latest = some .Connected)
  ended : state.active = true → state.receiver = .ending → state.connected = false

/-- The flag where the receiver coroutine stands. -/
def Receiver.Flag (active connected : Bool) : Receiver → Prop
  | .unlaunched | .dispatched | .unlocking | .opening | .initialising _ => connected = false
  | .closingGate made => connected = made
  | .announcing | .processing | .receiving => connected = true
  | .ending | .awaiting => active = true → connected = false
  | .shuttingDown | .terminating | .disconnecting | .releasing | .closingTunnel | .completed =>
    active = false

structure Flagged (state : State) : Prop where
  staged : Staged state
  flag : state.receiver.Flag state.active state.connected

/-- A tunnel gate closes once the connection is made, as long as the view model is in use. -/
def GateCloses (state : State) : Event → Prop
  | .receive false => state.receiver = .closingGate true → state.active = false
  | _ => True

theorem Flagged.synced (flagged : Flagged state) : Synced state := by
  have due := flagged.staged.due
  have flag := flagged.flag
  refine ⟨fun active settled => ?_, fun active ending => ?_⟩
  · have newest : state.latest = state.live.pending.or state.live.value := rfl
    cases standing : state.receiver <;> rw [standing] at due flag settled
    case closingGate | announcing | ending => exact absurd settled Bool.false_ne_true
    case unlaunched | dispatched | unlocking | opening | initialising =>
      rw [newest, due.1, due.2, show state.connected = false from flag]
      decide
    case processing | receiving =>
      rw [newest, show state.connected = true from flag]
      rcases due with ⟨value, pending⟩ | ⟨value, pending⟩ <;> rw [value, pending] <;> decide
    case awaiting =>
      rw [newest, flag active]
      rcases due with ⟨value | value, pending⟩ | ⟨value, pending⟩ <;> rw [value, pending] <;> decide
    all_goals exact absurd (active.symm.trans flag) (by decide)
  · rw [ending] at flag
    exact flag active

theorem flag_connect (active : Bool) : (State.connect profile).Flag active false := by
  unfold State.connect
  split_ifs
  · rfl
  · rfl
  · exact fun _ => rfl

theorem flag_receive (flag : state.receiver.Flag state.active state.connected) {succeeds : Bool}
    (may : state.mayReceive succeeds = true) (closes : GateCloses state (.receive succeeds)) :
    (state.receive profile succeeds).receiver.Flag (state.receive profile succeeds).active
      (state.receive profile succeeds).connected := by
  unfold State.receive
  unfold State.mayReceive at may
  cases standing : state.receiver <;> rw [standing] at flag may <;> dsimp only at may ⊢
  case unlaunched | completed => exact absurd may (by decide)
  case dispatched =>
    have down : state.connected = false := flag
    rw [down]
    split_ifs with inactive
    · exact (Bool.not_eq_true' _).mp inactive
    · rfl
    · exact flag_connect state.active
  case unlocking =>
    have down : state.connected = false := flag
    rw [down]
    split_ifs
    · exact flag_connect state.active
    · exact fun _ => rfl
  case opening =>
    have down : state.connected = false := flag
    rw [down]
    split_ifs
    · rfl
    · exact fun _ => rfl
  case initialising gate =>
    split_ifs with gated made
    · rfl
    · exact made
    · exact fun _ => Bool.not_eq_true _ ▸ made
  case closingGate made =>
    split_ifs with closed
    · exact flag.trans (Bool.and_eq_true_iff.mp closed).1
    · intro active
      -- The gate of a connection that was made does close here.
      cases made with
      | false => exact flag
      | true =>
        cases succeeds with
        | true => exact absurd rfl closed
        | false => exact absurd (active.symm.trans (closes standing)) (by decide)
  case announcing => exact flag
  case processing =>
    split_ifs with active
    · exact flag
    · exact fun alive => absurd alive active
  case receiving =>
    split_ifs
    · exact flag
    · exact fun _ => rfl
  case ending => exact flag
  case awaiting => exact (Bool.not_eq_true' _).mp may
  case shuttingDown | terminating | disconnecting | releasing | closingTunnel => exact flag

/-- Steps of other threads than the receiver coroutine leave the flag alone. -/
theorem flag_step {event : Event} (flagged : Flagged state) (may : event.enabled state = true)
    (closes : GateCloses state event) :
    (state.step profile event).receiver.Flag (state.step profile event).active
      (state.step profile event).connected := by
  have flag := flagged.flag
  cases event with
  | receive succeeds => exact flag_receive flag may closes
  | initConnection =>
    show (state.initConnection).receiver.Flag state.initConnection.active
      state.initConnection.connected
    unfold State.initConnection
    split
    · next created =>
      rw [(flagged.staged.unlaunched created).1] at flag
      exact flag
    · exact flag
  | runPosted =>
    show (state.runPosted).receiver.Flag state.runPosted.active state.runPosted.connected
    unfold State.runPosted
    split <;> exact flag
  | clear =>
    show state.receiver.Flag false state.connected
    cases standing : state.receiver <;> rw [standing] at flag <;>
      first | exact flag | rfl | exact fun alive => absurd alive (by decide)
  | execute action =>
    show (state.execute action).receiver.Flag (state.execute action).active
      (state.execute action).connected
    unfold State.execute
    split <;> exact flag
  | send succeeds =>
    show (state.send profile succeeds).receiver.Flag (state.send profile succeeds).active
      (state.send profile succeeds).connected
    unfold State.send
    split <;> exact flag
  | draw visible =>
    show (state.draw visible).receiver.Flag (state.draw visible).active
      (state.draw visible).connected
    unfold State.draw
    split <;> exact flag
  | observe | activeStateChanged | removeObserver | gotCutText => exact flag

/-- All along a run, the flag of the client agrees with the state as long as the view model is in
use and the receiver coroutine is not between its updates of the two, just when in that time no
tunnel gate fails to close behind a connection that was made. -/
theorem connected_agrees_iff (profile : ServerProfile) {events : List Event}
    (run : (machine profile).Run events) :
    (machine profile).Always Synced events ↔
      ((machine profile).restrict GateCloses).Run events := by
  have start : Flagged .initial := ⟨staged_initial, rfl⟩
  refine Machine.Run.always_iff Flagged Synced start start.synced ?_ ?_ run
  · exact fun state event flagged may closes =>
      ⟨staged_step flagged.staged may, flag_step flagged may closes⟩
  · intro state event flagged _ may
    refine ⟨fun synced => ?_, fun closes =>
      Flagged.synced ⟨staged_step flagged.staged may, flag_step flagged may closes⟩⟩
    cases event with
    | receive succeeds =>
      cases succeeds with
      | true => trivial
      | false =>
        intro standing
        by_contra active
        -- The coroutine gives up with the flag still set.
        have after : (machine profile).step state (.receive false) =
            { state with receiver := .ending } := by
          show state.receive profile false = _
          unfold State.receive
          rw [standing]
          rfl
        rw [after] at synced
        have down := synced.ended (Bool.not_eq_false _ ▸ active) rfl
        have flag := flagged.flag
        rw [standing] at flag
        exact absurd (down.symm.trans flag) (by decide)
    | _ => trivial

instance (state : State) : ∀ event, Decidable (GateCloses state event)
  | .receive false =>
    inferInstanceAs (Decidable (state.receiver = .closingGate true → state.active = false))
  | .receive true | .initConnection | .runPosted | .clear | .observe _ | .activeStateChanged _ _
  | .removeObserver _ | .execute _ | .gotCutText _ | .send _ | .draw _ => .isTrue trivial

/-- A connection through a tunnel whose gate does not close. -/
def tunnelRun : List Event :=
  [.initConnection, .receive true, .receive true, .receive true, .receive false, .receive true]

theorem connected_disagrees_tunnel :
    ¬(machine { channelType := State.CHANNEL_SSH_TUNNEL }).Always Synced tunnelRun :=
  fun always => absurd
    ((connected_agrees_iff { channelType := State.CHANNEL_SSH_TUNNEL } (by decide)).mp always)
    (by decide)

end TermPlux.Connection
