/-
This file follows Shift_L through the keys that `KeyHandler` emits, for key events
of every kind and committed texts. No character has its keysym and no key code
but that of the left Shift key is mapped to it, so other keys only touch it by a
faked Shift, which presses it and releases it again. That leaves it as it was
when it was up, and releases it when the user holds it.
-/

import TermPlux.KeyHandlerRuns

namespace TermPlux

/-! ### The keysym of Shift -/

namespace XKeySym

def shiftL : Int := 0xffe1

end XKeySym

namespace XKeySymUnicode

theorem entry_mem (index : Int) : entry index = 0 ∨ entry index ∈ UnicodeToLegacyKeysym := by
  unfold entry
  rw [List.getD_eq_getElem?_getD]
  cases found : UnicodeToLegacyKeysym[index.toNat]? with
  | none => exact .inl rfl
  | some keySym => exact .inr (List.mem_of_getElem? found)

theorem search_mem (uChar low high : Int) :
    search uChar low high = 0 ∨ search uChar low high ∈ UnicodeToLegacyKeysym := by
  fun_induction search uChar low high with
  | case1 low high ordered mid hit => exact entry_mem _
  | case2 low high ordered mid miss below inductionHypothesis => exact inductionHypothesis
  | case3 low high ordered mid miss above inductionHypothesis => exact inductionHypothesis
  | case4 low high crossed => exact .inl rfl

set_option maxRecDepth 4000 in
theorem shiftL_not_legacy : XKeySym.shiftL ∉ UnicodeToLegacyKeysym := by decide +kernel

/-- No character has the keysym of Shift, in either set of keysyms. -/
theorem keySym_ne_shiftL (uChar : Int) :
    getKeySymForUnicodeChar uChar ≠ XKeySym.shiftL ∧
      getLegacyKeySymForUnicodeChar uChar ≠ XKeySym.shiftL := by
  constructor
  · unfold getKeySymForUnicodeChar XKeySym.shiftL
    split <;> omega
  · unfold getLegacyKeySymForUnicodeChar
    split
    · decide
    · rcases search_mem uChar 0 (UnicodeToLegacyKeysym.length / 2 - 1) with none | legacy
      · rw [none]
        decide
      · exact fun same => shiftL_not_legacy (same ▸ legacy)

end XKeySymUnicode

namespace XKeySymAndroid

set_option maxRecDepth 4000 in
theorem initialKeyMap_shift : ∀ index < initialKeyMap.length,
    initialKeyMap.getD index 0 = XKeySym.shiftL ↔ (index : Int) = KeyCode.shiftLeft := by
  decide +kernel

theorem possibleRemaps_shift : ∀ write ∈ possibleRemaps,
    write.1 ≠ KeyCode.shiftLeft ∧ write.2 ≠ XKeySym.shiftL := by
  decide

/-- Whatever sessions remapped, the left Shift key and no other is mapped to Shift_L. -/
theorem getKeySym_eq_shiftL_iff (sessions : List Session) (keyCode : Int) :
    getKeySymForAndroidKeyCode (afterSessions sessions) keyCode = XKeySym.shiftL ↔
      keyCode = KeyCode.shiftLeft := by
  rw [getKeySym_afterSessions, Overwrites.writeAll_apply]
  cases written : Overwrites.lastWrite (remaps sessions) keyCode with
  | none =>
    rw [Option.getD_none]
    unfold getKeySymForAndroidKeyCode
    split
    next inside =>
      have initial := initialKeyMap_shift keyCode.toNat (by omega)
      rwa [Int.toNat_of_nonneg inside.1] at initial
    next outside =>
      refine iff_of_false (by decide) fun same => outside ?_
      rw [same]
      decide +kernel
  | some keySym =>
    obtain ⟨session, -, sessionMember⟩ :=
      List.mem_flatMap.mp (Overwrites.mem_of_lastWrite written)
    obtain ⟨event, -, eventMember⟩ := List.mem_flatMap.mp sessionMember
    have remapped := possibleRemaps_shift _ (mem_possibleRemaps eventMember)
    exact iff_of_false remapped.2 remapped.1

end XKeySymAndroid

namespace KeyHandler

open HeldKeys

variable (handler : KeyHandler)

/-! ### Inputs -/

/-- What a handler is given: a key event, or a text that is committed. -/
inductive Input
  | keyEvent (event : KeyEvent)
  | commitText (text : Option String)

def Input.keyCode : Input → Option Int
  | .keyEvent event => some event.keyCode
  | .commitText _ => none

/-- The accent sequence, and the replay of what was emitted. -/
structure Typing where
  accentSequence : List Int
  replay : Replay Int

/-- The keys that an input emits, and the accent sequence after it. -/
def handle (accentSequence : List Int) : Input → List XKey × List Int
  | .keyEvent event =>
    ((handler.onKeyEvent accentSequence event).1.keys, (handler.onKeyEvent accentSequence event).2)
  | .commitText text => ((handler.onCommitText text).keys, accentSequence)

/-- Inputs of any kind in any order, from an empty accent sequence with no key held. -/
def typing : Machine Typing Input where
  start := { accentSequence := [], replay := .empty }
  enabled _ _ := True
  step state input :=
    { accentSequence := (handler.handle state.accentSequence input).2
      replay :=
        state.replay.events ((handler.handle state.accentSequence input).1.map XKey.sent) }

/-! ### Which inputs fake Shift -/

/-- The stroke of `emitForKeyEvent`. -/
def keyEventStroke (accentSequence : List Int) (keyCode uChar : Int) (isDown : Bool) : Stroke :=
  if tracks accentSequence keyCode uChar isDown then
    handler.composedStroke
      (if isDown then accentSequence ++ [maskedChar uChar] else accentSequence)
  else handler.keyStroke keyCode uChar

/-- The key codes and characters that an event of several characters or keys strikes. -/
def strikes (event : KeyEvent) : List (Int × Int) :=
  if event.keyCode = KeyCode.unknown then event.characters.map fun uChar => (0, uChar)
  else (List.replicate event.repeatCount event.keyCode).map fun keyCode => (keyCode, 0)

/-- Whether Shift is faked when keys are struck one after the other. -/
def strikesFakeShift (accentSequence : List Int) : List (Int × Int) → Bool
  | [] => false
  | (keyCode, uChar) :: rest =>
    let down := handler.emitForKeyEvent accentSequence keyCode uChar true 0
    let up := handler.emitForKeyEvent down.2 keyCode uChar false 0
    (handler.keyEventStroke accentSequence keyCode uChar true).fakeShift ||
      (handler.keyEventStroke down.2 keyCode uChar false).fakeShift ||
      strikesFakeShift up.2 rest

/-- Whether an event fakes Shift, once it is preprocessed. -/
def handlingFakesShift (accentSequence : List Int) (event : KeyEvent) : Bool :=
  match event.action with
  | .down =>
    (handler.keyEventStroke accentSequence event.keyCode (getUnicodeChar event) true).fakeShift
  | .up =>
    (handler.keyEventStroke accentSequence event.keyCode (getUnicodeChar event) false).fakeShift
  | .multiple => handler.strikesFakeShift accentSequence (strikes event)
  | .other => false

/-- Whether an input fakes Shift. -/
def fakesShift (accentSequence : List Int) : Input → Bool
  | .keyEvent event =>
    !shouldIgnoreEvent event &&
      handler.handlingFakesShift accentSequence (handler.preProcessEvent event)
  | .commitText text =>
    (text == some "ç" && handler.shouldFakeShift 0xe7) || text == some "Ç"

/-! ### What the keys do to Shift -/

/-- The left Shift key and no other is mapped to Shift_L. -/
def MapsShift : Prop :=
  ∀ keyCode, XKeySymAndroid.getKeySymForAndroidKeyCode handler.keyMap keyCode = XKeySym.shiftL ↔
    keyCode = KeyCode.shiftLeft

/-- The keys release Shift last where Shift is faked, and do not touch it otherwise. -/
def TouchShift (keys : List XKey) (fakes : Bool) : Prop :=
  Overwrites.lastWrite (keys.map XKey.sent) XKeySym.shiftL = if fakes then some false else none

theorem TouchShift.nil : TouchShift [] false := rfl

theorem TouchShift.append {first second : List XKey} {fakesFirst fakesSecond : Bool}
    (touchFirst : TouchShift first fakesFirst) (touchSecond : TouchShift second fakesSecond) :
    TouchShift (first ++ second) (fakesFirst || fakesSecond) := by
  unfold TouchShift at *
  rw [List.map_append, Overwrites.lastWrite_append, touchFirst, touchSecond]
  cases fakesFirst <;> cases fakesSecond <;> rfl

variable {handler}

theorem MapsShift.shiftKeySym (maps : handler.MapsShift) : handler.shiftKeySym = XKeySym.shiftL :=
  (maps KeyCode.shiftLeft).mpr rfl

/-- A stroke touches Shift when it fakes it, unless its keysym is that of Shift. -/
theorem touchShift_stroke (maps : handler.MapsShift) {stroke : Stroke} {keys : List XKey}
    {isDown : Bool} (sent : keys.map XKey.sent = handler.sends stroke isDown)
    (other : stroke.keySym ≠ XKeySym.shiftL) : TouchShift keys stroke.fakeShift := by
  have real : XKeySym.shiftL ≠ 0 := by decide
  unfold TouchShift
  rw [sent, sends, maps.shiftKeySym]
  by_cases fakes : stroke.fakeShift = true
  · simp [fakes, real, Overwrites.lastWrite_append, Overwrites.lastWrite_cons]
  · by_cases silent : stroke.keySym = 0 <;>
      simp [fakes, silent, other, Overwrites.lastWrite_cons]

theorem charStroke_ne_shiftL (uChar : Int) :
    (handler.charStroke uChar).keySym ≠ XKeySym.shiftL := by
  obtain ⟨unicode, legacy⟩ := XKeySymUnicode.keySym_ne_shiftL uChar
  show handler.uKeySym uChar ≠ XKeySym.shiftL
  unfold uKeySym
  split
  · exact legacy
  · exact unicode

theorem keyCodeStroke_ne_shiftL (maps : handler.MapsShift) {keyCode : Int}
    (other : keyCode ≠ KeyCode.shiftLeft) :
    (handler.keyCodeStroke keyCode).keySym ≠ XKeySym.shiftL :=
  fun same => other ((maps keyCode).mp same)

theorem composedStroke_ne_shiftL (accentSequence : List Int) :
    (handler.composedStroke accentSequence).keySym ≠ XKeySym.shiftL := by
  unfold composedStroke
  split
  · decide
  · exact charStroke_ne_shiftL _

theorem keyEventStroke_ne_shiftL (maps : handler.MapsShift) {keyCode : Int}
    (other : keyCode ≠ KeyCode.shiftLeft) (accentSequence : List Int) (uChar : Int)
    (isDown : Bool) :
    (handler.keyEventStroke accentSequence keyCode uChar isDown).keySym ≠ XKeySym.shiftL := by
  unfold keyEventStroke keyStroke
  split
  · exact composedStroke_ne_shiftL _
  · split
    · exact keyCodeStroke_ne_shiftL maps other
    · split
      · exact charStroke_ne_shiftL uChar
      · exact keyCodeStroke_ne_shiftL maps other

theorem sent_emitForKeyEvent (accentSequence : List Int) (keyCode uChar : Int) (isDown : Bool)
    (scanCode : Int) :
    (handler.emitForKeyEvent accentSequence keyCode uChar isDown scanCode).1.keys.map XKey.sent =
      handler.sends (handler.keyEventStroke accentSequence keyCode uChar isDown) isDown := by
  unfold emitForKeyEvent handleDiacritics keyEventStroke
  by_cases tracked : tracks accentSequence keyCode uChar isDown = true
  · rw [if_pos tracked, if_pos tracked]
    exact handler.sent_compose _ uChar isDown
  · rw [if_neg tracked, if_neg tracked]
    exact handler.sent_emitKey keyCode uChar isDown _

theorem touchShift_emitForKeyEvent (maps : handler.MapsShift) {keyCode : Int}
    (other : keyCode ≠ KeyCode.shiftLeft) (accentSequence : List Int) (uChar : Int)
    (isDown : Bool) (scanCode : Int) :
    TouchShift
      (handler.emitForKeyEvent accentSequence keyCode uChar isDown scanCode).1.keys
      (handler.keyEventStroke accentSequence keyCode uChar isDown).fakeShift :=
  touchShift_stroke maps (sent_emitForKeyEvent accentSequence keyCode uChar isDown scanCode)
    (keyEventStroke_ne_shiftL maps other accentSequence uChar isDown)

/-- Keys that are struck one after the other. -/
theorem touchShift_strikes (maps : handler.MapsShift) {strikes : List (Int × Int)}
    (others : ∀ strike ∈ strikes, strike.1 ≠ KeyCode.shiftLeft) {before : List XKey × List Int}
    {fakes : Bool} (touched : TouchShift before.1 fakes) :
    TouchShift
      (strikes.foldl (fun before strike =>
        handler.emitPressAndRelease strike.1 strike.2 before) before).1
      (fakes || handler.strikesFakeShift before.2 strikes) := by
  induction strikes generalizing before fakes with
  | nil =>
    rw [strikesFakeShift, Bool.or_false]
    exact touched
  | cons strike rest inductionHypothesis =>
    obtain ⟨keyCode, uChar⟩ := strike
    have other : keyCode ≠ KeyCode.shiftLeft := others _ List.mem_cons_self
    have down := touchShift_emitForKeyEvent maps other before.2 uChar true 0
    have up := touchShift_emitForKeyEvent maps other
      (handler.emitForKeyEvent before.2 keyCode uChar true 0).2 uChar false 0
    rw [strikesFakeShift, ← Bool.or_assoc, ← Bool.or_assoc]
    exact inductionHypothesis (fun other member => others other (List.mem_cons_of_mem _ member))
      ((touched.append down).append up)

theorem strikes_ne_shiftLeft {event : KeyEvent} (other : event.keyCode ≠ KeyCode.shiftLeft) :
    ∀ strike ∈ strikes event, strike.1 ≠ KeyCode.shiftLeft := by
  intro strike member
  unfold strikes at member
  split at member
  · obtain ⟨uChar, -, rfl⟩ := List.mem_map.mp member
    exact show (0 : Int) ≠ KeyCode.shiftLeft by decide
  · obtain ⟨keyCode, repeated, rfl⟩ := List.mem_map.mp member
    rw [List.eq_of_mem_replicate repeated]
    exact other

theorem strikes_foldl (event : KeyEvent) (before : List XKey × List Int) :
    (strikes event).foldl (fun before strike =>
        handler.emitPressAndRelease strike.1 strike.2 before) before =
      if event.keyCode = KeyCode.unknown then
        event.characters.foldl (fun before uChar => handler.emitPressAndRelease 0 uChar before)
          before
      else
        (List.replicate event.repeatCount event.keyCode).foldl
          (fun before keyCode => handler.emitPressAndRelease keyCode 0 before) before := by
  unfold strikes
  split <;> exact List.foldl_map

theorem touchShift_handleKeyEvent (maps : handler.MapsShift) {event : KeyEvent}
    (other : event.keyCode ≠ KeyCode.shiftLeft) (accentSequence : List Int) :
    TouchShift (handler.handleKeyEvent accentSequence event).1.keys
      (handler.handlingFakesShift accentSequence event) := by
  unfold handleKeyEvent handlingFakesShift
  cases event.action with
  | down => exact touchShift_emitForKeyEvent maps other accentSequence _ true _
  | up => exact touchShift_emitForKeyEvent maps other accentSequence _ false _
  | multiple =>
    have struck := @touchShift_strikes handler maps _ (strikes_ne_shiftLeft other)
      ([], accentSequence) false TouchShift.nil
    rwa [strikes_foldl, Bool.false_or] at struck
  | other => exact TouchShift.nil

theorem preProcessEvent_ne_shiftLeft {event : KeyEvent}
    (other : event.keyCode ≠ KeyCode.shiftLeft) :
    (handler.preProcessEvent event).keyCode ≠ KeyCode.shiftLeft := by
  unfold preProcessEvent
  split
  · exact show KeyCode.escape ≠ KeyCode.shiftLeft by decide
  · exact other

theorem touchShift_onKeyEvent (maps : handler.MapsShift) {event : KeyEvent}
    (other : event.keyCode ≠ KeyCode.shiftLeft) (accentSequence : List Int) :
    TouchShift (handler.onKeyEvent accentSequence event).1.keys
      (handler.fakesShift accentSequence (.keyEvent event)) := by
  show TouchShift _ (!shouldIgnoreEvent event && _)
  unfold onKeyEvent
  by_cases ignored : shouldIgnoreEvent event = true
  · rw [if_pos ignored, ignored]
    exact TouchShift.nil
  · rw [if_neg ignored, Bool.eq_false_iff.mpr ignored]
    exact touchShift_handleKeyEvent maps (preProcessEvent_ne_shiftLeft other) accentSequence

theorem touchShift_emitForUnicodeChar (maps : handler.MapsShift) (uChar : Int) (isDown : Bool) :
    TouchShift (handler.emitForUnicodeChar uChar isDown 0).keys
      (handler.shouldFakeShift uChar) :=
  touchShift_stroke maps (handler.sent_emitForUnicodeChar uChar isDown 0)
    (charStroke_ne_shiftL uChar)

/-- Keys that end with a release of Shift. -/
theorem touchShift_released (maps : handler.MapsShift) (keys : List XKey) :
    TouchShift (keys ++ (handler.emitForAndroidKeyCode KeyCode.shiftLeft false 0).keys) true := by
  have sent := handler.sent_emitForAndroidKeyCode KeyCode.shiftLeft false 0
  have released : handler.sends (handler.keyCodeStroke KeyCode.shiftLeft) false =
      [(XKeySym.shiftL, false)] := by
    have real : XKeySym.shiftL ≠ 0 := by decide
    simp [sends, keyCodeStroke, (maps KeyCode.shiftLeft).mpr rfl, real]
  unfold TouchShift
  rw [List.map_append, Overwrites.lastWrite_append, sent, released]
  rfl

theorem touchShift_onCommitText (maps : handler.MapsShift) (accentSequence : List Int)
    (text : Option String) :
    TouchShift (handler.onCommitText text).keys
      (handler.fakesShift accentSequence (.commitText text)) := by
  show TouchShift _ ((text == some "ç" && handler.shouldFakeShift 0xe7) || text == some "Ç")
  unfold onCommitText
  by_cases small : text = some "ç"
  · subst small
    have sent := (touchShift_emitForUnicodeChar maps 0xe7 true).append
      (touchShift_emitForUnicodeChar maps 0xe7 false)
    rw [if_pos rfl]
    simpa using sent
  · rw [if_neg small]
    by_cases capital : text = some "Ç"
    · subst capital
      exact touchShift_released maps _
    · rw [if_neg capital, beq_eq_false_iff_ne.mpr small, beq_eq_false_iff_ne.mpr capital]
      exact TouchShift.nil

/-- What an input does to Shift. -/
theorem touchShift_handle (maps : handler.MapsShift) (accentSequence : List Int) {input : Input}
    (other : input.keyCode ≠ some KeyCode.shiftLeft) :
    TouchShift (handler.handle accentSequence input).1 (handler.fakesShift accentSequence input) :=
  match input with
  | .keyEvent _ => touchShift_onKeyEvent maps (fun same => other (congrArg some same)) _
  | .commitText text => touchShift_onCommitText maps accentSequence text

/-! ### Every input -/

theorem typing_nodup (past : List Input) : (handler.typing.after past).replay.held.Nodup := by
  have run : handler.typing.Run past := .of_enabled (fun _ _ => trivial) past
  exact run.invariant (fun state : Typing => state.replay.held.Nodup) List.nodup_nil
    fun _ _ distinct _ => Replay.nodup_events distinct _

/-- After any inputs, one that is not about the left Shift key leaves Shift as it was just when
Shift is up or the input does not fake it. -/
theorem shift_kept_iff (sessions : List XKeySymAndroid.Session)
    (mapped : handler.keyMap = XKeySymAndroid.afterSessions sessions) (past : List Input)
    (input : Input) (other : input.keyCode ≠ some KeyCode.shiftLeft) :
    (XKeySym.shiftL ∈ (handler.typing.after (past ++ [input])).replay.held ↔
        XKeySym.shiftL ∈ (handler.typing.after past).replay.held) ↔
      ¬(XKeySym.shiftL ∈ (handler.typing.after past).replay.held ∧
        handler.fakesShift (handler.typing.after past).accentSequence input = true) := by
  have maps : handler.MapsShift := fun keyCode =>
    mapped ▸ XKeySymAndroid.getKeySym_eq_shiftL_iff sessions keyCode
  have touched := touchShift_handle maps (handler.typing.after past).accentSequence other
  rw [Machine.after_concat]
  refine (iff_congr (Replay.mem_held_events (typing_nodup past) _ _) Iff.rfl).trans ?_
  rw [touched]
  cases handler.fakesShift (handler.typing.after past).accentSequence input <;> simp

/-- A handler that prefers the older keysyms, on a keyboard with the letter Ł. -/
def legacy : KeyHandler where
  cfLegacyKeysym := true
  kmBackToEscape := false
  keyMap := XKeySymAndroid.initialKeyMap
  onXKey _ := true
  getDeadChar _ _ := 0
  isUpperCase uChar := (0x41 ≤ uChar ∧ uChar ≤ 0x5a) ∨ uChar = 0x141
  fromAndroidScancode _ := 0
  virtualUnicodeChar _ := 0

/-- A press of the left Shift key, and of the key of the letter L with some character. -/
def pressShift : Input := .keyEvent (.ofKeyCode .down KeyCode.shiftLeft 0)

def pressL (uChar : Int) : Input := .keyEvent (.ofKeyCode .down 40 uChar)

/-- Shift is faked for Ł but not for L. -/
theorem shift_kept_of_L :
    XKeySym.shiftL ∈ (legacy.typing.after ([pressShift] ++ [pressL 0x4c])).replay.held ↔
      XKeySym.shiftL ∈ (legacy.typing.after [pressShift]).replay.held :=
  (shift_kept_iff [] rfl [pressShift] (pressL 0x4c) (by decide)).mpr (by decide +kernel)

theorem shift_released_by_stroke :
    (pressL 0x141).keyCode ≠ some KeyCode.shiftLeft ∧
      XKeySym.shiftL ∈ (legacy.typing.after [pressShift]).replay.held ∧
      XKeySym.shiftL ∉ (legacy.typing.after ([pressShift] ++ [pressL 0x141])).replay.held := by
  decide +kernel

end KeyHandler

end TermPlux
