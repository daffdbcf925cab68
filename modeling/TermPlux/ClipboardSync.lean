/-
This file models clipboard synchronisation: `cbGotXCutText` and `sendCutText` of
`VncClient`, `receiveClipboardText` and `sendClipboardText` of `VncViewModel`,
and the clipboard coroutines they start. A focus gain starts a coroutine that
reads the clipboard and hands the text to the sender thread, which compares it
with `lastCutText`; a received text sets `lastCutText` at once and starts a job
that writes the clipboard, unless an earlier job is still running. All of these
interleave freely.

`lastCutText` therefore runs ahead of the clipboard while a job is pending, and
for good when a text is dropped. Two invariants are proved: in every run the
clipboard holds the text of the job started last once no job is pending; and as
long as nothing overlaps a pending job or a waiting send, the clipboard, the
last cut text and every waiting text agree, so nothing is ever sent back.
-/

import Mathlib.Tactic.Common
import TermPlux.Machine

namespace TermPlux.ClipboardSync

/-! ### State -/

/-- The two encodings of a cut text. -/
inductive Charset
  | utf8
  | iso88591
  deriving DecidableEq

/-- `java.nio.charset`: how a charset reads and writes text. -/
structure Charsets where
  decode : Charset → List UInt8 → String
  encode : Charset → String → List UInt8

/-- The parts of `VncClient`, `VncViewModel` and the system that the clipboard touches.

`clipReceiverJob` is the text an active clipboard-writing job will set. `readers` counts the
coroutines of `sendClipboardText` that have not read the clipboard yet, and `outbox` holds the
texts that wait for the sender thread. `sent` logs the calls of `nativeSendCutText`; `received`
is the text most recently received, and `accepted` the text of the job started last. -/
structure State where
  clipboardSync : Bool
  connected : Bool
  viewOnlyMode : Bool
  utf8CutTextSupported : Bool
  lastCutText : Option String
  primaryClip : Option String
  clipReceiverJob : Option String := none
  readers : Nat := 0
  outbox : List String := []
  sent : List (List UInt8 × Bool) := []
  received : Option String := none
  accepted : Option String := none

variable (charsets : Charsets)

/-! ### Receiving -/

/-- `VncViewModel.receiveClipboardText`. A text that arrives while the previous one is still
pending is dropped. -/
def State.receiveClipboardText (state : State) (text : String) : State :=
  if !state.clipboardSync then state
  else if state.clipReceiverJob.isSome then state
  else { state with clipReceiverJob := some text, accepted := some text }

/-- The charset and text of an incoming message. -/
def cutTextOf (bytes : List UInt8) (isUTF8 : Bool) : String :=
  charsets.decode (if isUTF8 then .utf8 else .iso88591) bytes

/-- `VncClient.cbGotXCutText` on the decoded text. -/
def State.gotXCutText (state : State) (cutText : String) : State :=
  if some cutText ≠ state.lastCutText then
    { state with lastCutText := some cutText, received := some cutText }.receiveClipboardText
      cutText
  else { state with received := some cutText }

/-- The clipboard-writing job succeeds and ends. -/
def State.setClipboardText (state : State) : State :=
  match state.clipReceiverJob with
  | some text => { state with primaryClip := some text, clipReceiverJob := none }
  | none => state

/-! ### Sending -/

/-- `VncViewModel.sendClipboardText`, called when the window gains the focus. -/
def State.sendClipboardText (state : State) : State :=
  if state.clipboardSync && state.connected then { state with readers := state.readers + 1 }
  else state

/-- A coroutine of `sendClipboardText` reads the clipboard and hands the text, if there is
any, to the sender thread. -/
def State.getClipboardText (state : State) : State :=
  { state with
    readers := state.readers - 1
    outbox := state.outbox ++ state.primaryClip.toList }

/-- The arguments of `nativeSendCutText`: the encoded text and whether it is UTF-8. -/
def State.cutTextMessage (state : State) (text : String) : List UInt8 × Bool :=
  if state.utf8CutTextSupported then (charsets.encode .utf8 text, true)
  else (charsets.encode .iso88591 text, false)

/-- `VncClient.sendCutText`; `sent` is the result of `nativeSendCutText`. -/
def State.sendCutText (state : State) (text : String) (sent : Bool) : State :=
  if state.connected && !state.viewOnlyMode then
    if some text ≠ state.lastCutText then
      { state with
        sent := state.cutTextMessage charsets text :: state.sent
        lastCutText := if sent then some text else state.lastCutText }
    else state
  else state

/-- The sender thread runs its next message. -/
def State.runSender (state : State) (sent : Bool) : State :=
  match state.outbox with
  | text :: rest => { state with outbox := rest }.sendCutText charsets text sent
  | [] => state

/-! ### The machine -/

inductive Event
  | gotXCutText (bytes : List UInt8) (isUTF8 : Bool)
  | setClipboardText
  | windowFocusGained
  | getClipboardText
  | runSender (sent : Bool)

/-- A job, a reading coroutine or a queued message runs only when there is one. -/
def Event.enabled (state : State) : Event → Bool
  | .gotXCutText _ _ | .windowFocusGained => true
  | .setClipboardText => state.clipReceiverJob.isSome
  | .getClipboardText => decide (0 < state.readers)
  | .runSender _ => !state.outbox.isEmpty

def State.step (state : State) : Event → State
  | .gotXCutText bytes isUTF8 => state.gotXCutText (cutTextOf charsets bytes isUTF8)
  | .setClipboardText => state.setClipboardText
  | .windowFocusGained => state.sendClipboardText
  | .getClipboardText => state.getClipboardText
  | .runSender sent => state.runSender charsets sent

/-- A connected client with clipboard sync enabled whose last cut text is the content of the
clipboard. -/
def synced (viewOnlyMode utf8CutTextSupported : Bool) (primaryClip : Option String) : State where
  clipboardSync := true
  connected := true
  viewOnlyMode
  utf8CutTextSupported
  lastCutText := primaryClip
  primaryClip

def machine (viewOnlyMode utf8CutTextSupported : Bool) (primaryClip : Option String) :
    Machine State Event where
  start := synced viewOnlyMode utf8CutTextSupported primaryClip
  enabled state event := event.enabled state = true
  step := State.step charsets

instance (viewOnlyMode utf8CutTextSupported : Bool) (primaryClip : Option String) (state : State)
    (event : Event) :
    Decidable ((machine charsets viewOnlyMode utf8CutTextSupported primaryClip).enabled state
      event) :=
  inferInstanceAs (Decidable (event.enabled state = true))

/-! ### The clipboard holds the text of the job started last -/

/-- What every run keeps: a pending job writes the accepted text, and once no job is pending
the clipboard holds the accepted text, or what it held at the start. -/
structure State.Written (initial : Option String) (state : State) : Prop where
  idle : state.clipReceiverJob = none → state.primaryClip = (state.accepted <|> initial)
  pending : ∀ text, state.clipReceiverJob = some text → state.accepted = some text

theorem written_receiveClipboardText {initial : Option String} {state : State} (text : String)
    (written : state.Written initial) : (state.receiveClipboardText text).Written initial := by
  unfold State.receiveClipboardText
  split
  · exact written
  · split
    · exact written
    · exact ⟨fun idle => absurd idle (Option.some_ne_none _), fun _ started => started⟩

theorem written_gotXCutText {initial : Option String} {state : State} (cutText : String)
    (written : state.Written initial) : (state.gotXCutText cutText).Written initial := by
  unfold State.gotXCutText
  split
  · exact written_receiveClipboardText cutText ⟨written.idle, written.pending⟩
  · exact ⟨written.idle, written.pending⟩

theorem written_setClipboardText {initial : Option String} {state : State}
    (written : state.Written initial) : state.setClipboardText.Written initial := by
  unfold State.setClipboardText
  split
  · rename_i text pending
    refine ⟨fun _ => ?_, fun _ started => absurd started.symm (Option.some_ne_none _)⟩
    rw [written.pending text pending]
    rfl
  · exact written

theorem written_sendClipboardText {initial : Option String} {state : State}
    (written : state.Written initial) : state.sendClipboardText.Written initial := by
  unfold State.sendClipboardText
  split <;> exact ⟨written.idle, written.pending⟩

theorem written_sendCutText {initial : Option String} {state : State} (text : String)
    (sent : Bool) (written : state.Written initial) :
    (state.sendCutText charsets text sent).Written initial := by
  unfold State.sendCutText
  repeat' split
  all_goals exact ⟨written.idle, written.pending⟩

theorem written_runSender {initial : Option String} {state : State} (sent : Bool)
    (written : state.Written initial) : (state.runSender charsets sent).Written initial := by
  unfold State.runSender
  split
  · exact written_sendCutText charsets _ sent ⟨written.idle, written.pending⟩
  · exact written

theorem written_step {initial : Option String} {state : State} (event : Event)
    (written : state.Written initial) : (state.step charsets event).Written initial := by
  cases event with
  | gotXCutText bytes isUTF8 => exact written_gotXCutText _ written
  | setClipboardText => exact written_setClipboardText written
  | windowFocusGained => exact written_sendClipboardText written
  | getClipboardText => exact ⟨written.idle, written.pending⟩
  | runSender sent => exact written_runSender charsets sent written

/-! ### Nothing is sent back -/

/-- The steps of the synchronisation do not overlap: a new text arrives only when no job is
pending and no text waits for the sender, and the clipboard is read only when no job is
pending. -/
def Undisturbed (state : State) : Event → Prop
  | .gotXCutText bytes isUTF8 =>
    some (cutTextOf charsets bytes isUTF8) ≠ state.lastCutText →
      state.clipReceiverJob = none ∧ state.outbox = []
  | .getClipboardText => state.clipReceiverJob = none
  | _ => True

/-- What a run of such steps keeps: the last cut text is what the clipboard holds, or will
hold, and what every waiting text says. -/
structure State.Agreed (state : State) : Prop where
  enabled : state.clipboardSync = true
  idle : state.clipReceiverJob = none → state.primaryClip = state.lastCutText
  pending : ∀ text, state.clipReceiverJob = some text → state.lastCutText = some text
  waiting : ∀ text ∈ state.outbox, state.lastCutText = some text
  latest : ∀ text, state.received = some text → state.lastCutText = some text
  silent : state.sent = []

theorem agreed_gotXCutText {state : State} (cutText : String) (agreed : state.Agreed)
    (condition : some cutText ≠ state.lastCutText →
      state.clipReceiverJob = none ∧ state.outbox = []) :
    (state.gotXCutText cutText).Agreed := by
  unfold State.gotXCutText
  split
  · rename_i new
    obtain ⟨free, empty⟩ := condition new
    simp only [State.receiveClipboardText, agreed.enabled, free, Option.isSome_none,
      Bool.not_true, Bool.false_eq_true, if_false]
    exact
      { enabled := rfl
        idle := fun idle => absurd idle (Option.some_ne_none _)
        pending := fun _ started => started
        waiting := fun text member => by simp [empty] at member
        latest := fun _ received => received
        silent := agreed.silent }
  · rename_i same
    have known : state.lastCutText = some cutText := (not_not.mp same).symm
    exact
      { enabled := agreed.enabled
        idle := agreed.idle
        pending := agreed.pending
        waiting := agreed.waiting
        latest := fun _ received => known.trans received
        silent := agreed.silent }

theorem agreed_setClipboardText {state : State} (agreed : state.Agreed) :
    state.setClipboardText.Agreed := by
  unfold State.setClipboardText
  split
  · rename_i text pending
    exact
      { enabled := agreed.enabled
        idle := fun _ => (agreed.pending text pending).symm
        pending := fun _ started => absurd started.symm (Option.some_ne_none _)
        waiting := agreed.waiting
        latest := agreed.latest
        silent := agreed.silent }
  · exact agreed

theorem agreed_sendClipboardText {state : State} (agreed : state.Agreed) :
    state.sendClipboardText.Agreed := by
  unfold State.sendClipboardText
  split
  · exact ⟨agreed.enabled, agreed.idle, agreed.pending, agreed.waiting, agreed.latest,
      agreed.silent⟩
  · exact agreed

/-- A text read while no job is pending is the last cut text. -/
theorem agreed_getClipboardText {state : State} (agreed : state.Agreed)
    (free : state.clipReceiverJob = none) : state.getClipboardText.Agreed := by
  refine ⟨agreed.enabled, agreed.idle, agreed.pending, fun text member => ?_, agreed.latest,
    agreed.silent⟩
  rcases List.mem_append.mp member with waiting | read
  · exact agreed.waiting text waiting
  · exact (agreed.idle free).symm.trans (Option.mem_toList.mp read)

/-- A waiting text is the last cut text, so the sender thread sends nothing. -/
theorem agreed_runSender {state : State} (sent : Bool) (agreed : state.Agreed) :
    (state.runSender charsets sent).Agreed := by
  unfold State.runSender
  split
  · rename_i text rest queue
    have waiting := agreed.waiting
    rw [queue] at waiting
    have same : state.lastCutText = some text := waiting text List.mem_cons_self
    have remaining : ({ state with outbox := rest } : State).Agreed :=
      ⟨agreed.enabled, agreed.idle, agreed.pending,
        fun other member => waiting other (List.mem_cons_of_mem _ member), agreed.latest,
        agreed.silent⟩
    unfold State.sendCutText
    rw [if_neg (not_not.mpr same.symm), ite_self]
    exact remaining
  · exact agreed

theorem agreed_step {state : State} (event : Event) (agreed : state.Agreed)
    (condition : Undisturbed charsets state event) : (state.step charsets event).Agreed := by
  cases event with
  | gotXCutText bytes isUTF8 => exact agreed_gotXCutText _ agreed condition
  | setClipboardText => exact agreed_setClipboardText agreed
  | windowFocusGained => exact agreed_sendClipboardText agreed
  | getClipboardText => exact agreed_getClipboardText agreed condition
  | runSender sent => exact agreed_runSender charsets sent agreed

theorem agreed_synced (viewOnlyMode utf8CutTextSupported : Bool) (primaryClip : Option String) :
    (synced viewOnlyMode utf8CutTextSupported primaryClip).Agreed where
  enabled := rfl
  idle _ := rfl
  pending _ started := absurd started.symm (Option.some_ne_none _)
  waiting _ member := absurd member List.not_mem_nil
  latest _ received := absurd received.symm (Option.some_ne_none _)
  silent := rfl

/-- Clipboard synchronisation from a synced state. After every interleaving with no job
pending the clipboard holds the text of the job started last. In every interleaving whose
steps do not overlap nothing is ever sent, and with no job pending the clipboard holds the
text most recently received. -/
theorem clipboard_synchronised (viewOnlyMode utf8CutTextSupported : Bool)
    (primaryClip : Option String) :
    (∀ events, (machine charsets viewOnlyMode utf8CutTextSupported primaryClip).Run events →
      ((machine charsets viewOnlyMode utf8CutTextSupported primaryClip).after events).Written
        primaryClip) ∧
    ∀ events, ((machine charsets viewOnlyMode utf8CutTextSupported primaryClip).restrict
        (Undisturbed charsets)).Run events →
      let state := (machine charsets viewOnlyMode utf8CutTextSupported primaryClip).after events
      state.sent = [] ∧ (state.clipReceiverJob = none →
        ∀ text, state.received = some text → state.primaryClip = some text) := by
  refine ⟨fun events run => ?_, fun events run => ?_⟩
  · exact run.invariant (State.Written primaryClip)
      ⟨fun _ => rfl, fun _ started => absurd started.symm (Option.some_ne_none _)⟩
      fun _ event written _ => written_step charsets event written
  · have agreed := run.invariant_of_condition State.Agreed
      (agreed_synced viewOnlyMode utf8CutTextSupported primaryClip)
      fun _ event agreed _ condition => agreed_step charsets event agreed condition
    exact ⟨agreed.silent, fun free text received =>
      (agreed.idle free).trans (agreed.latest text received)⟩

/-- Both charsets on ASCII. -/
def asciiCharsets : Charsets where
  decode _ bytes := String.ofList (bytes.map fun byte => Char.ofNat byte.toNat)
  encode _ text := text.toList.map fun character => UInt8.ofNat character.toNat

/-- A text that arrives and is written before the next focus gain is not sent back. -/
theorem clipboard_synchronised_in_turn :
    ((machine asciiCharsets false true (some "a")).after
      [.gotXCutText [98] true, .setClipboardText, .windowFocusGained, .getClipboardText,
        .runSender true]).sent = [] :=
  ((clipboard_synchronised asciiCharsets false true (some "a")).2
    [.gotXCutText [98] true, .setClipboardText, .windowFocusGained, .getClipboardText,
      .runSender true]
    ⟨⟨by decide, fun _ => ⟨rfl, rfl⟩⟩, ⟨by decide, trivial⟩, ⟨by decide, trivial⟩,
      ⟨by decide, rfl⟩, ⟨by decide, trivial⟩, trivial⟩).1

/-- A focus gain between the arrival of a text and the end of its job sends the old clipboard
back, and a text that arrives while a job is pending is never written. -/
theorem stale_text_sent :
    (machine asciiCharsets false true (some "a")).Run
        [.gotXCutText [98] true, .windowFocusGained, .getClipboardText, .runSender true] ∧
      ((machine asciiCharsets false true (some "a")).after
        [.gotXCutText [98] true, .windowFocusGained, .getClipboardText,
          .runSender true]).sent = [([97], true)] ∧
      (machine asciiCharsets false true (some "a")).Run
        [.gotXCutText [98] true, .gotXCutText [99] true, .setClipboardText] ∧
      ((machine asciiCharsets false true (some "a")).after
        [.gotXCutText [98] true, .gotXCutText [99] true,
          .setClipboardText]).clipReceiverJob = none ∧
      ((machine asciiCharsets false true (some "a")).after
        [.gotXCutText [98] true, .gotXCutText [99] true,
          .setClipboardText]).received = some "c" ∧
      ((machine asciiCharsets false true (some "a")).after
        [.gotXCutText [98] true, .gotXCutText [99] true,
          .setClipboardText]).primaryClip = some "b" := by
  decide

end TermPlux.ClipboardSync
