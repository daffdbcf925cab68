/-
This file runs `KeyHandler` on key presses and releases in any order and replays
what it emits on the set of held keysyms.

Each event sends one stroke: a keysym, with Shift faked around it or not. The
stroke of an event outside the accent sequence is its own; inside, it is the one
of the composed character. The presses own the keysyms that they send. As long as
every release sends what its press did, no keysym is stuck and no release is a
phantom.
-/

import TermPlux.HeldKeys
import TermPlux.KeyHandler
import TermPlux.Machine

namespace TermPlux.KeyHandler

open HeldKeys

variable (handler : KeyHandler)

/-! ### Strokes -/

/-- The keysym that an event sends, or 0, and whether Shift is faked around it. Shift is faked
for no keysym but a real one. -/
structure Stroke where
  keySym : Int
  fakeShift : Bool
  real : fakeShift = true → keySym ≠ 0

def Stroke.silent : Stroke :=
  { keySym := 0, fakeShift := false, real := fun fakes => absurd fakes Bool.false_ne_true }

theorem uKeySym_ne_zero_of_shouldFakeShift {uChar : Int}
    (fakes : handler.shouldFakeShift uChar = true) : handler.uKeySym uChar ≠ 0 := by
  have range := of_decide_eq_true (Bool.and_eq_true_iff.mp fakes).1
  exact fun zero => absurd (zero ▸ range.1) (by decide)

def shiftKeySym : Int :=
  XKeySymAndroid.getKeySymForAndroidKeyCode handler.keyMap KeyCode.shiftLeft

def keyCodeStroke (keyCode : Int) : Stroke :=
  { keySym := XKeySymAndroid.getKeySymForAndroidKeyCode handler.keyMap keyCode
    fakeShift := false
    real := fun fakes => absurd fakes Bool.false_ne_true }

def charStroke (uChar : Int) : Stroke :=
  { keySym := handler.uKeySym uChar
    fakeShift := handler.shouldFakeShift uChar
    real := handler.uKeySym_ne_zero_of_shouldFakeShift }

/-- The stroke of a key outside the accent sequence. -/
def keyStroke (keyCode uChar : Int) : Stroke :=
  if keyCode ∈ keyCodesOnly then handler.keyCodeStroke keyCode
  else if uChar ≠ 0 then handler.charStroke uChar
  else handler.keyCodeStroke keyCode

/-- The stroke of the character that an accent sequence composes. -/
def composedStroke (accentSequence : List Int) : Stroke :=
  if accentSequence.length ≤ 1 ∨ handler.composed accentSequence = 0 then .silent
  else handler.charStroke (handler.composed accentSequence)

/-- The keysyms that a stroke sends, each with whether it goes down. -/
def sends (stroke : Stroke) (isDown : Bool) : List (Int × Bool) :=
  (if stroke.fakeShift ∧ handler.shiftKeySym ≠ 0 then [(handler.shiftKeySym, true)] else []) ++
    (if stroke.keySym ≠ 0 then [(stroke.keySym, isDown)] else []) ++
    if stroke.fakeShift ∧ handler.shiftKeySym ≠ 0 then [(handler.shiftKeySym, false)] else []

def XKey.sent (key : XKey) : Int × Bool := (key.keySym, key.isDown)

theorem sent_emit (keySym : Int) (isDown : Bool) (xtCode : Int) :
    (handler.emit keySym isDown xtCode).keys.map XKey.sent =
      if keySym ≠ 0 then [(keySym, isDown)] else [] := by
  by_cases silent : keySym = 0
  · simp [emit, silent]
  · simp [emit, silent, XKey.sent]

theorem sent_emitForAndroidKeyCode (keyCode : Int) (isDown : Bool) (xtCode : Int) :
    (handler.emitForAndroidKeyCode keyCode isDown xtCode).keys.map XKey.sent =
      handler.sends (handler.keyCodeStroke keyCode) isDown := by
  rw [emitForAndroidKeyCode, sent_emit, sends, keyCodeStroke]
  simp only [Bool.false_eq_true, false_and, if_false, List.nil_append, List.append_nil]

theorem sent_emitForUnicodeChar (uChar : Int) (isDown : Bool) (xtCode : Int) :
    (handler.emitForUnicodeChar uChar isDown xtCode).keys.map XKey.sent =
      handler.sends (handler.charStroke uChar) isDown := by
  have shift : ∀ goesDown, ((if handler.shouldFakeShift uChar = true then
      (handler.emitForAndroidKeyCode KeyCode.shiftLeft goesDown 0).keys else []).map XKey.sent) =
      if handler.shouldFakeShift uChar ∧ handler.shiftKeySym ≠ 0 then
        [(handler.shiftKeySym, goesDown)] else [] := by
    intro goesDown
    by_cases fakes : handler.shouldFakeShift uChar = true
    · simp only [fakes, if_true, true_and]
      exact handler.sent_emit handler.shiftKeySym goesDown 0
    · simp [fakes]
  rw [emitForUnicodeChar, List.map_append, List.map_append, shift, shift, sent_emit]
  rfl

theorem sent_emitKey (keyCode uChar : Int) (isDown : Bool) (xtCode : Int) :
    (handler.emitKey keyCode uChar isDown xtCode).keys.map XKey.sent =
      handler.sends (handler.keyStroke keyCode uChar) isDown := by
  unfold emitKey keyStroke
  split
  · exact handler.sent_emitForAndroidKeyCode keyCode isDown xtCode
  · split
    · exact handler.sent_emitForUnicodeChar uChar isDown xtCode
    · exact handler.sent_emitForAndroidKeyCode keyCode isDown xtCode

theorem sends_silent (isDown : Bool) : handler.sends .silent isDown = [] := by
  simp [sends, Stroke.silent]

theorem sent_compose (accentSequence : List Int) (uChar : Int) (isDown : Bool) :
    (handler.compose accentSequence uChar isDown).1.map XKey.sent =
      handler.sends (handler.composedStroke accentSequence) isDown := by
  unfold compose composedStroke
  by_cases short : accentSequence.length ≤ 1
  · rw [if_pos short, if_pos (.inl short), sends_silent]
    rfl
  · by_cases none : handler.composed accentSequence = 0
    · rw [if_neg short, if_neg (not_not.mpr none), if_pos (Or.inr none), sends_silent]
      rfl
    · rw [if_neg short, if_pos none, if_neg (not_or.mpr ⟨short, none⟩)]
      exact handler.sent_emitForUnicodeChar _ isDown 0

/-! ### Events -/

def isDown (event : KeyEvent) : Bool := event.action = .down

/-- Whether an event is handled inside the accent sequence. -/
def tracksEvent (accentSequence : List Int) (event : KeyEvent) : Bool :=
  !shouldIgnoreEvent event &&
    tracks accentSequence (handler.preProcessEvent event).keyCode
      (getUnicodeChar (handler.preProcessEvent event)) (isDown event)

/-- The stroke of an event outside the accent sequence. -/
def eventStroke (event : KeyEvent) : Stroke :=
  if shouldIgnoreEvent event then .silent
  else handler.keyStroke (handler.preProcessEvent event).keyCode
    (getUnicodeChar (handler.preProcessEvent event))

/-- The accent sequence that an event inside it composes from. -/
def sequenceOf (accentSequence : List Int) (event : KeyEvent) : List Int :=
  if isDown event then
    accentSequence ++ [maskedChar (getUnicodeChar (handler.preProcessEvent event))]
  else accentSequence

/-- The stroke of an event. -/
def strokeOf (accentSequence : List Int) (event : KeyEvent) : Stroke :=
  if handler.tracksEvent accentSequence event then
    handler.composedStroke (handler.sequenceOf accentSequence event)
  else handler.eventStroke event

def typed (accentSequence : List Int) (event : KeyEvent) : List (Int × Bool) :=
  (handler.onKeyEvent accentSequence event).1.keys.map XKey.sent

theorem preProcessEvent_action (event : KeyEvent) :
    (handler.preProcessEvent event).action = event.action := by
  unfold preProcessEvent
  split <;> rfl

/-- A press or release is an `emitForKeyEvent` of its preprocessed key. -/
theorem handleKeyEvent_eq (accentSequence : List Int) {event : KeyEvent}
    (plain : event.action = .down ∨ event.action = .up) :
    handler.handleKeyEvent accentSequence (handler.preProcessEvent event) =
      handler.emitForKeyEvent accentSequence (handler.preProcessEvent event).keyCode
        (getUnicodeChar (handler.preProcessEvent event)) (isDown event)
        (handler.preProcessEvent event).scanCode := by
  unfold handleKeyEvent isDown
  rw [preProcessEvent_action]
  rcases plain with down | up
  · rw [down]
    rfl
  · rw [up]
    rfl

/-- An event inside the accent sequence. -/
theorem onKeyEvent_of_tracks {accentSequence : List Int} {event : KeyEvent}
    (plain : event.action = .down ∨ event.action = .up)
    (tracked : handler.tracksEvent accentSequence event = true) :
    handler.onKeyEvent accentSequence event =
      let composition := handler.compose (handler.sequenceOf accentSequence event)
        (getUnicodeChar (handler.preProcessEvent event)) (isDown event)
      ({ handled := true, keys := composition.1 }, composition.2) := by
  obtain ⟨heeded, inside⟩ := Bool.and_eq_true_iff.mp tracked
  rw [onKeyEvent, if_neg (by simpa using heeded), handler.handleKeyEvent_eq _ plain,
    emitForKeyEvent, handleDiacritics, if_pos inside]
  rfl

/-- An event outside the accent sequence leaves the sequence alone. -/
theorem onKeyEvent_of_passes {accentSequence : List Int} {event : KeyEvent}
    (plain : event.action = .down ∨ event.action = .up)
    (passed : handler.tracksEvent accentSequence event = false) :
    handler.typed accentSequence event = handler.sends (handler.eventStroke event) (isDown event) ∧
      (handler.onKeyEvent accentSequence event).2 = accentSequence := by
  rw [typed, onKeyEvent, eventStroke]
  by_cases ignored : shouldIgnoreEvent event = true
  · rw [if_pos ignored, if_pos ignored, sends_silent]
    exact ⟨rfl, rfl⟩
  · have outside : ¬tracks accentSequence (handler.preProcessEvent event).keyCode
        (getUnicodeChar (handler.preProcessEvent event)) (isDown event) = true := by
      intro inside
      simp [tracksEvent, ignored, inside] at passed
    rw [if_neg ignored, if_neg ignored, handler.handleKeyEvent_eq _ plain, emitForKeyEvent,
      handleDiacritics, if_neg outside]
    exact ⟨handler.sent_emitKey _ _ _ _, rfl⟩

/-- An event sends its stroke. -/
theorem typed_eq {accentSequence : List Int} {event : KeyEvent}
    (plain : event.action = .down ∨ event.action = .up) :
    handler.typed accentSequence event =
      handler.sends (handler.strokeOf accentSequence event) (isDown event) := by
  rw [strokeOf]
  by_cases tracked : handler.tracksEvent accentSequence event = true
  · rw [if_pos tracked, typed, handler.onKeyEvent_of_tracks plain tracked]
    exact handler.sent_compose _ _ _
  · rw [if_neg tracked]
    exact (handler.onKeyEvent_of_passes plain (Bool.eq_false_iff.mpr tracked)).1

/-- A press inside the accent sequence adds its character. -/
theorem onKeyEvent_press {accentSequence : List Int} {event : KeyEvent}
    (down : event.action = .down) (tracked : handler.tracksEvent accentSequence event = true) :
    (handler.onKeyEvent accentSequence event).2 = handler.sequenceOf accentSequence event := by
  rw [handler.onKeyEvent_of_tracks (.inl down) tracked]
  simp only [compose, isDown, down]
  split <;> rfl

/-- After a release inside the accent sequence nothing is left to be composed. -/
theorem onKeyEvent_release {accentSequence : List Int} {event : KeyEvent}
    (up : event.action = .up) (tracked : handler.tracksEvent accentSequence event = true) :
    handler.composedStroke (handler.onKeyEvent accentSequence event).2 = .silent := by
  rw [handler.onKeyEvent_of_tracks (.inr up) tracked]
  simp only [compose, sequenceOf, isDown, up, composedStroke]
  by_cases short : accentSequence.length ≤ 1
  · simp [short]
  · by_cases none : handler.composed accentSequence = 0
    · by_cases accent : isAccent (getUnicodeChar (handler.preProcessEvent event)) = true <;>
        simp [short, none, accent]
    · simp [short, none]

/-! ### Replaying a stroke -/

/-- A stroke can go down: its keysym is not held, nor is Shift where it is faked. -/
structure Free (replay : Replay Int) (stroke : Stroke) : Prop where
  keySym : stroke.keySym ∉ replay.held
  shift : stroke.fakeShift = true →
    handler.shiftKeySym ∉ replay.held ∧ handler.shiftKeySym ≠ stroke.keySym

instance (replay : Replay Int) (stroke : Stroke) : Decidable (handler.Free replay stroke) :=
  decidable_of_iff (stroke.keySym ∉ replay.held ∧ (stroke.fakeShift = true →
      handler.shiftKeySym ∉ replay.held ∧ handler.shiftKeySym ≠ stroke.keySym))
    ⟨fun free => ⟨free.1, free.2⟩, fun free => ⟨free.keySym, free.shift⟩⟩

theorem events_sends_silent {stroke : Stroke} (silent : stroke.keySym = 0) (replay : Replay Int)
    (isDown : Bool) : replay.events (handler.sends stroke isDown) = replay := by
  have plain : stroke.fakeShift ≠ true := fun fakes => stroke.real fakes silent
  simp [sends, silent, plain]

theorem events_sends_down {stroke : Stroke} {replay : Replay Int} (real : stroke.keySym ≠ 0)
    (free : handler.Free replay stroke) :
    replay.events (handler.sends stroke true) = replay.press stroke.keySym := by
  rw [sends, if_pos real]
  split
  · rename_i fakes
    obtain ⟨shiftFree, different⟩ := free.shift fakes.1
    exact Replay.press_press_release shiftFree free.keySym (Ne.symm different)
  · rfl

theorem events_sends_up {stroke : Stroke} {replay : Replay Int} (real : stroke.keySym ≠ 0)
    (held : stroke.keySym ∈ replay.held)
    (shiftFree : stroke.fakeShift = true → handler.shiftKeySym ∉ replay.held) :
    replay.events (handler.sends stroke false) = replay.release stroke.keySym := by
  rw [sends, if_pos real]
  split
  · rename_i fakes
    exact Replay.press_release_release (shiftFree fakes.1) held
  · rfl

/-! ### Runs -/

/-- A key, by its device and position, and its event. -/
structure KeyInput where
  key : Nat
  event : KeyEvent
  deriving DecidableEq

/-- A key that is down: the event that pressed it, whether that was handled inside the accent
sequence, and the keysym that it sent, or 0. -/
structure Press where
  key : Nat
  event : KeyEvent
  tracked : Bool
  keySym : Int
  deriving DecidableEq

def Press.owns (press : Press) : Option Int :=
  if press.keySym = 0 then none else some press.keySym

/-- The accent sequence, the replay of what was emitted, and the keys that are down. -/
structure Keys where
  accentSequence : List Int
  replay : Replay Int
  pressed : List Press

def KeyInput.press (input : KeyInput) (accentSequence : List Int) : Press :=
  { key := input.key
    event := input.event
    tracked := handler.tracksEvent accentSequence input.event
    keySym := (handler.strokeOf accentSequence input.event).keySym }

def step (state : Keys) (input : KeyInput) : Keys :=
  { accentSequence := (handler.onKeyEvent state.accentSequence input.event).2
    replay := state.replay.events (handler.typed state.accentSequence input.event)
    pressed :=
      if isDown input.event then input.press handler state.accentSequence :: state.pressed
      else state.pressed.eraseP (·.key = input.key) }

/-- A key goes down when it is up, and up with the key code, character and scan code that it
went down with. -/
def Enabled (state : Keys) (input : KeyInput) : Prop :=
  (input.event.action = .down ∧ ∀ press ∈ state.pressed, press.key ≠ input.key) ∨
    input.event.action = .up ∧ ∃ press ∈ state.pressed, press.key = input.key ∧
      press.event.keyCode = input.event.keyCode ∧
      press.event.unicodeChar = input.event.unicodeChar ∧
      press.event.scanCode = input.event.scanCode

instance (state : Keys) (input : KeyInput) : Decidable (Enabled state input) :=
  inferInstanceAs (Decidable (_ ∨ _))

/-- Keys pressed and released in any order, from an empty accent sequence with no key held. -/
def keys : Machine Keys KeyInput where
  start := { accentSequence := [], replay := .empty, pressed := [] }
  enabled := Enabled
  step := handler.step

/-- What a press must find: no key that was pressed inside the accent sequence still holds a
keysym when another joins it, and its stroke can go down. -/
def ClearPress (state : Keys) (input : KeyInput) : Prop :=
  (handler.tracksEvent state.accentSequence input.event = true →
    ∀ press ∈ state.pressed, press.tracked = true → press.keySym = 0) ∧
  handler.Free state.replay (handler.strokeOf state.accentSequence input.event)

/-- What a release must find: a key that holds a keysym is handled where it was pressed.
Outside the accent sequence it stands for the keysym that it holds; inside, no other key that
was pressed there holds one. Shift is not held where it is faked. -/
def ClearRelease (state : Keys) (input : KeyInput) : Prop :=
  (∀ press ∈ state.pressed, press.key = input.key → press.keySym ≠ 0 →
    press.tracked = handler.tracksEvent state.accentSequence input.event) ∧
  (handler.tracksEvent state.accentSequence input.event = false →
    ∀ press ∈ state.pressed, press.key = input.key →
      (handler.eventStroke input.event).keySym = press.keySym) ∧
  (handler.tracksEvent state.accentSequence input.event = true →
    ∀ press ∈ state.pressed, press.key ≠ input.key → press.tracked = true → press.keySym = 0) ∧
  ((handler.strokeOf state.accentSequence input.event).fakeShift = true →
    handler.shiftKeySym ∉ state.replay.held)

def Undisturbed (state : Keys) (input : KeyInput) : Prop :=
  (input.event.action = .down → handler.ClearPress state input) ∧
    (input.event.action = .up → handler.ClearRelease state input)

instance (state : Keys) (input : KeyInput) : Decidable (handler.Undisturbed state input) :=
  haveI : Decidable (handler.ClearPress state input) := inferInstanceAs (Decidable (_ ∧ _))
  haveI : Decidable (handler.ClearRelease state input) := inferInstanceAs (Decidable (_ ∧ _))
  inferInstanceAs (Decidable (_ ∧ _))

instance : ∀ state input, Decidable (handler.keys.enabled state input) := fun state input =>
  inferInstanceAs (Decidable (Enabled state input))

/-- What a run of such events keeps: the keys that are down own the held keysyms, and the
character that the accent sequence composes is held by the one key that was pressed inside
it. -/
structure Paired (state : Keys) : Prop where
  owned : Owned Press.owns state.pressed state.replay
  distinct : (state.pressed.map Press.key).Nodup
  composed : ∀ press ∈ state.pressed, press.tracked = true → press.keySym ≠ 0 →
    press.keySym = (handler.composedStroke state.accentSequence).keySym
  holder : (handler.composedStroke state.accentSequence).keySym ≠ 0 →
    ∃ press ∈ state.pressed, press.tracked = true ∧
      press.keySym = (handler.composedStroke state.accentSequence).keySym

theorem Press.owns_of_ne {press : Press} (real : press.keySym ≠ 0) :
    press.owns = some press.keySym := if_neg real

theorem Press.owns_of_eq {press : Press} (silent : press.keySym = 0) : press.owns = none :=
  if_pos silent

/-- A stroke that can go down is owned by its press. -/
theorem owned_sends_down {pressed : List Press} {replay : Replay Int} {press : Press}
    {stroke : Stroke} (owned : Owned Press.owns pressed replay)
    (same : press.keySym = stroke.keySym) (free : handler.Free replay stroke) :
    Owned Press.owns (press :: pressed) (replay.events (handler.sends stroke true)) := by
  by_cases silent : stroke.keySym = 0
  · rw [handler.events_sends_silent silent]
    exact (Owned.idle_iff (Press.owns_of_eq (same.trans silent))).mpr owned
  · rw [handler.events_sends_down silent free]
    refine owned.press free.keySym ?_
    rw [← same]
    exact Press.owns_of_ne (same ▸ silent)

/-- A press that goes up with the keysym that it owns leaves the others theirs. -/
theorem owned_sends_up {rest : List Press} {replay : Replay Int} {press : Press}
    {stroke : Stroke} (owned : Owned Press.owns (press :: rest) replay)
    (same : stroke.keySym = press.keySym)
    (shiftFree : stroke.fakeShift = true → handler.shiftKeySym ∉ replay.held) :
    Owned Press.owns rest (replay.events (handler.sends stroke false)) := by
  by_cases silent : stroke.keySym = 0
  · rw [handler.events_sends_silent silent]
    exact (Owned.idle_iff (Press.owns_of_eq (same.symm.trans silent))).mp owned
  · have owns : press.owns = some stroke.keySym := by
      rw [same]
      exact Press.owns_of_ne (same ▸ silent)
    rw [handler.events_sends_up silent (owned.mem_held_of_owns owns) shiftFree]
    exact owned.release owns

theorem paired_press {state : Keys} {input : KeyInput} (paired : handler.Paired state)
    (down : input.event.action = .down) (fresh : ∀ press ∈ state.pressed, press.key ≠ input.key)
    (clear : handler.ClearPress state input) : handler.Paired (handler.step state input) := by
  have goesDown : isDown input.event = true := decide_eq_true down
  obtain ⟨alone, free⟩ := clear
  have pressed : (handler.step state input).pressed =
      input.press handler state.accentSequence :: state.pressed := if_pos goesDown
  have owned : Owned Press.owns (handler.step state input).pressed
      (handler.step state input).replay := by
    rw [pressed]
    show Owned _ _ (state.replay.events (handler.typed state.accentSequence input.event))
    rw [handler.typed_eq (.inl down), goesDown]
    exact handler.owned_sends_down paired.owned rfl free
  have distinct : ((handler.step state input).pressed.map Press.key).Nodup := by
    rw [pressed, List.map_cons]
    refine List.nodup_cons.mpr ⟨fun member => ?_, paired.distinct⟩
    obtain ⟨press, pressMember, same⟩ := List.mem_map.mp member
    exact fresh press pressMember same
  by_cases tracked : handler.tracksEvent state.accentSequence input.event = true
  · -- The new press holds what the longer sequence composes, and no other press does.
    have holds : (input.press handler state.accentSequence).keySym =
        (handler.composedStroke (handler.step state input).accentSequence).keySym := by
      show (handler.strokeOf state.accentSequence input.event).keySym =
        (handler.composedStroke (handler.onKeyEvent state.accentSequence input.event).2).keySym
      rw [strokeOf, if_pos tracked, handler.onKeyEvent_press down tracked]
    refine ⟨owned, distinct, fun press member inside real => ?_, fun _ => ?_⟩
    · rw [pressed] at member
      rcases List.mem_cons.mp member with rfl | older
      · exact holds
      · exact absurd (alone tracked press older inside) real
    · exact ⟨_, pressed ▸ List.mem_cons_self, tracked, holds⟩
  · have passed := Bool.eq_false_iff.mpr tracked
    have sequence : (handler.step state input).accentSequence = state.accentSequence :=
      (handler.onKeyEvent_of_passes (.inl down) passed).2
    refine ⟨owned, distinct, fun press member inside real => ?_, fun real => ?_⟩
    · rw [pressed] at member
      rw [sequence]
      rcases List.mem_cons.mp member with rfl | older
      · exact absurd inside tracked
      · exact paired.composed press older inside real
    · rw [sequence] at real ⊢
      obtain ⟨press, older, inside, same⟩ := paired.holder real
      exact ⟨press, pressed ▸ List.mem_cons_of_mem _ older, inside, same⟩

/-- A released key sends the keysym that its press holds. -/
theorem strokeOf_release {state : Keys} {input : KeyInput} {press : Press}
    (paired : handler.Paired state) (up : input.event.action = .up) (member : press ∈ state.pressed)
    (same : press.key = input.key) (clear : handler.ClearRelease state input) :
    (handler.strokeOf state.accentSequence input.event).keySym = press.keySym := by
  obtain ⟨handled, stands, alone, -⟩ := clear
  rw [strokeOf]
  by_cases tracked : handler.tracksEvent state.accentSequence input.event = true
  · have sequence : handler.sequenceOf state.accentSequence input.event = state.accentSequence := by
      rw [sequenceOf, isDown, up]
      rfl
    rw [if_pos tracked, sequence]
    by_cases composes : (handler.composedStroke state.accentSequence).keySym = 0
    · by_cases silent : press.keySym = 0
      · rw [composes, silent]
      · have inside := (handled press member same silent).trans tracked
        exact (paired.composed press member inside silent).symm
    · -- The press that holds the composed character is the one released.
      obtain ⟨holder, held, inside, holds⟩ := paired.holder composes
      have released : holder.key = input.key := by
        by_contra other
        exact composes (holds ▸ alone tracked holder held other inside)
      have theOne : holder = press :=
        List.inj_on_of_nodup_map paired.distinct held member (released.trans same.symm)
      rw [← theOne, holds]
  · rw [if_neg tracked]
    exact stands (Bool.eq_false_iff.mpr tracked) press member same

/-- A key that is down is one press, and the others are what its release leaves. -/
theorem perm_eraseP {pressed : List Press} {key : Nat}
    (known : ∃ press ∈ pressed, press.key = key) :
    ∃ press, press.key = key ∧ pressed.Perm (press :: pressed.eraseP (·.key = key)) := by
  obtain ⟨found, member, same⟩ := known
  obtain ⟨press, before, after, -, released, split, remaining⟩ :=
    List.exists_of_eraseP (p := (·.key = key)) member (by simpa using same)
  refine ⟨press, by simpa using released, ?_⟩
  rw [remaining]
  exact split ▸ List.perm_middle

theorem paired_release {state : Keys} {input : KeyInput} (paired : handler.Paired state)
    (up : input.event.action = .up) (known : ∃ press ∈ state.pressed, press.key = input.key)
    (clear : handler.ClearRelease state input) : handler.Paired (handler.step state input) := by
  have goesUp : isDown input.event = false := by rw [isDown, up]; rfl
  obtain ⟨press, key, reorder⟩ := perm_eraseP known
  have pressed : (handler.step state input).pressed = state.pressed.eraseP (·.key = input.key) := by
    simp [step, goesUp]
  rw [← pressed] at reorder
  have member : press ∈ state.pressed := reorder.mem_iff.mpr List.mem_cons_self
  have rest : ∀ other ∈ (handler.step state input).pressed, other ∈ state.pressed :=
    fun other older => reorder.mem_iff.mpr (List.mem_cons_of_mem _ older)
  obtain ⟨fresh, distinct⟩ := List.nodup_cons.mp ((reorder.map Press.key).nodup_iff.mp
    paired.distinct)
  have others : ∀ other ∈ (handler.step state input).pressed, other.key ≠ input.key :=
    fun other older same => fresh (List.mem_map.mpr ⟨other, older, same.trans key.symm⟩)
  have owned : Owned Press.owns (handler.step state input).pressed
      (handler.step state input).replay := by
    show Owned _ _ (state.replay.events (handler.typed state.accentSequence input.event))
    rw [handler.typed_eq (.inr up), goesUp]
    exact handler.owned_sends_up (paired.owned.reorder reorder)
      (handler.strokeOf_release paired up member key clear) clear.2.2.2
  obtain ⟨handled, -, alone, -⟩ := clear
  by_cases tracked : handler.tracksEvent state.accentSequence input.event = true
  · have silent : (handler.composedStroke (handler.step state input).accentSequence).keySym = 0 :=
      congrArg Stroke.keySym (handler.onKeyEvent_release up tracked)
    refine ⟨owned, distinct, fun other older inside real => ?_,
      fun real => absurd silent real⟩
    exact absurd (alone tracked other (rest other older) (others other older) inside) real
  · have sequence : (handler.step state input).accentSequence = state.accentSequence :=
      (handler.onKeyEvent_of_passes (.inr up) (Bool.eq_false_iff.mpr tracked)).2
    refine ⟨owned, distinct, fun other older inside real => ?_, fun real => ?_⟩
    · rw [sequence]
      exact paired.composed other (rest other older) inside real
    · rw [sequence] at real ⊢
      obtain ⟨holder, held, inside, holds⟩ := paired.holder real
      refine ⟨holder, ?_, inside, holds⟩
      -- The released press was not handled inside the sequence, so the holder is another.
      rcases List.mem_cons.mp (reorder.mem_iff.mp held) with rfl | other
      · exact absurd ((handled holder held key (holds ▸ real)).symm.trans inside) tracked
      · exact other

theorem paired_step {state : Keys} {input : KeyInput} (paired : handler.Paired state)
    (enabled : Enabled state input) (undisturbed : handler.Undisturbed state input) :
    handler.Paired (handler.step state input) := by
  rcases enabled with ⟨down, fresh⟩ | ⟨up, press, member, key, -⟩
  · exact handler.paired_press paired down fresh (undisturbed.1 down)
  · exact handler.paired_release paired up ⟨press, member, key⟩ (undisturbed.2 up)

theorem paired_start : handler.Paired handler.keys.start where
  owned := .empty
  distinct := List.nodup_nil
  composed _ member := absurd member List.not_mem_nil
  holder real := absurd rfl real

/-- In every run of undisturbed presses and releases no keysym is released that is not held,
and once all keys are up no keysym is held. -/
theorem keys_paired (events : List KeyInput)
    (run : (handler.keys.restrict handler.Undisturbed).Run events) :
    (handler.keys.after events).replay.phantom = false ∧
      ((handler.keys.after events).pressed = [] →
        (handler.keys.after events).replay.held = []) := by
  have paired : handler.Paired (handler.keys.after events) :=
    run.invariant_of_condition handler.Paired handler.paired_start
      fun _ _ paired enabled undisturbed => handler.paired_step paired enabled undisturbed
  refine ⟨paired.owned.clean, fun released => ?_⟩
  have owned := paired.owned
  rw [released] at owned
  exact owned.held_eq_nil

/-- A handler without preferences, on a keyboard whose acute accent composes with e. -/
def acute : KeyHandler where
  cfLegacyKeysym := false
  kmBackToEscape := false
  keyMap := XKeySymAndroid.initialKeyMap
  onXKey _ := true
  getDeadChar accent uChar := if accent = 0xb4 ∧ uChar = 0x65 then 0xe9 else 0
  isUpperCase uChar := 0x41 ≤ uChar ∧ uChar ≤ 0x5a
  fromAndroidScancode _ := 0
  virtualUnicodeChar _ := 0

/-- A key of its key code and character. -/
def KeyInput.ofKeyCode (action : KeyAction) (keyCode : Nat) (uChar : Int) : KeyInput :=
  { key := keyCode, event := .ofKeyCode action keyCode uChar }

/-- The acute accent, e inside Shift, and then two keys that overlap. -/
theorem keys_paired_rollover :
    (acute.keys.after
      [.ofKeyCode .down 75 (0xb4 - 2 ^ 31), .ofKeyCode .up 75 (0xb4 - 2 ^ 31),
        .ofKeyCode .down 59 0, .ofKeyCode .down 33 0x65, .ofKeyCode .up 59 0,
        .ofKeyCode .up 33 0x65, .ofKeyCode .down 29 0x61, .ofKeyCode .down 30 0x62,
        .ofKeyCode .up 29 0x61, .ofKeyCode .up 30 0x62]).replay.held = [] :=
  (keys_paired acute
    [.ofKeyCode .down 75 (0xb4 - 2 ^ 31), .ofKeyCode .up 75 (0xb4 - 2 ^ 31),
      .ofKeyCode .down 59 0, .ofKeyCode .down 33 0x65, .ofKeyCode .up 59 0,
      .ofKeyCode .up 33 0x65, .ofKeyCode .down 29 0x61, .ofKeyCode .down 30 0x62,
      .ofKeyCode .up 29 0x61, .ofKeyCode .up 30 0x62] (by decide +kernel)).2 (by decide +kernel)

/-- A key pressed while the composed é is down joins the accent sequence: nothing releases é,
and the release of that key goes out without a press. -/
theorem composed_key_stuck :
    acute.keys.Run
        [.ofKeyCode .down 75 (0xb4 - 2 ^ 31), .ofKeyCode .up 75 (0xb4 - 2 ^ 31),
          .ofKeyCode .down 33 0x65, .ofKeyCode .down 52 0x78, .ofKeyCode .up 33 0x65,
          .ofKeyCode .up 52 0x78] ∧
      (acute.keys.after
        [.ofKeyCode .down 75 (0xb4 - 2 ^ 31), .ofKeyCode .up 75 (0xb4 - 2 ^ 31),
          .ofKeyCode .down 33 0x65, .ofKeyCode .down 52 0x78, .ofKeyCode .up 33 0x65,
          .ofKeyCode .up 52 0x78]).pressed = [] ∧
      (acute.keys.after
        [.ofKeyCode .down 75 (0xb4 - 2 ^ 31), .ofKeyCode .up 75 (0xb4 - 2 ^ 31),
          .ofKeyCode .down 33 0x65, .ofKeyCode .down 52 0x78, .ofKeyCode .up 33 0x65,
          .ofKeyCode .up 52 0x78]).replay = { held := [0xe9], phantom := true } := by
  decide +kernel

end TermPlux.KeyHandler
