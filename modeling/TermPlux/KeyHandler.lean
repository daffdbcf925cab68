/-
This file models `KeyHandler`: how Android key events become X key events. A key
goes out by its Unicode character where it has one, with the older keysyms and a
faked Shift in compatibility mode, and by its key code otherwise. Accents are
collected and composed with the keys that follow them.

What the platform decides is a parameter: dead-key composition, letter case, scan
codes and the characters of the virtual keyboard.
-/

import Mathlib.Algebra.Group.Int.Defs
import Mathlib.Algebra.Group.Nat.Defs
import TermPlux.XKeySymAndroid
import TermPlux.XKeySymUnicode

namespace TermPlux

/-! ### Key events -/

namespace KeyCode

def unknown : Int := 0
def back : Int := 4
def shiftRight : Int := 60
def tab : Int := 61
def space : Int := 62
def sym : Int := 63
def enter : Int := 66
def num : Int := 78
def escape : Int := 111
def ctrlLeft : Int := 113
def ctrlRight : Int := 114
def metaLeft : Int := 117
def metaRight : Int := 118
def function : Int := 119
def numpad0 : Int := 144
def numpad9 : Int := 153
def numpadDot : Int := 158
def numpadEnter : Int := 160

def isModifierKey (keyCode : Int) : Bool :=
  keyCode ∈ [shiftLeft, shiftRight, altLeft, altRight, ctrlLeft, ctrlRight, metaLeft, metaRight,
    sym, num, function]

end KeyCode

inductive KeyAction
  | down
  | up
  | multiple
  | other
  deriving DecidableEq

/-- `android.view.KeyEvent`, as far as it is read. `unicodeCharWithoutAltCtrl` is its character
when Alt and Ctrl are taken out of the meta state, and `characters` are code points. -/
structure KeyEvent where
  action : KeyAction
  keyCode : Int
  scanCode : Int
  unicodeChar : Int
  metaState : Int
  unicodeCharWithoutAltCtrl : Int
  isNumLockOn : Bool
  isVirtualHardKey : Bool
  characters : List Int
  repeatCount : Nat
  deriving DecidableEq

/-- The event of a key code alone, with the character that the virtual keyboard has for it. -/
def KeyEvent.ofKeyCode (action : KeyAction) (keyCode unicodeChar : Int) : KeyEvent :=
  { action, keyCode, unicodeChar, scanCode := 0, metaState := 0
    unicodeCharWithoutAltCtrl := unicodeChar, isNumLockOn := false, isVirtualHardKey := false
    characters := [], repeatCount := 0 }

/-- A key for `Dispatcher.onXKey`. -/
structure XKey where
  keySym : Int
  xtCode : Int
  isDown : Bool
  deriving DecidableEq

/-- The keys that a call emits, and whether it reports to have handled its event. -/
structure Emission where
  handled : Bool
  keys : List XKey
  deriving DecidableEq

/-- The preferences of a `KeyHandler`, the key map, the answer of its dispatcher and the
platform. -/
structure KeyHandler where
  cfLegacyKeysym : Bool
  kmBackToEscape : Bool
  keyMap : KeyMap
  onXKey : XKey → Bool
  getDeadChar : Int → Int → Int
  isUpperCase : Int → Bool
  fromAndroidScancode : Int → Int
  virtualUnicodeChar : Int → Int

namespace KeyHandler

variable (handler : KeyHandler)

/-! ### Emitting keys -/

def emit (keySym : Int) (isDown : Bool) (xtCode : Int) : Emission :=
  if keySym = 0 then { handled := false, keys := [] }
  else { handled := handler.onXKey ⟨keySym, xtCode, isDown⟩, keys := [⟨keySym, xtCode, isDown⟩] }

def emitForAndroidKeyCode (keyCode : Int) (isDown : Bool) (xtCode : Int) : Emission :=
  handler.emit (XKeySymAndroid.getKeySymForAndroidKeyCode handler.keyMap keyCode) isDown xtCode

def uKeySym (uChar : Int) : Int :=
  if handler.cfLegacyKeysym ∧ XKeySymUnicode.getLegacyKeySymForUnicodeChar uChar ≠ 0 then
    XKeySymUnicode.getLegacyKeySymForUnicodeChar uChar
  else XKeySymUnicode.getKeySymForUnicodeChar uChar

/-- The letter case is that of the character cut to 16 bits. -/
def shouldFakeShift (uChar : Int) : Bool :=
  decide (0x100 ≤ handler.uKeySym uChar ∧ handler.uKeySym uChar ≤ 0xfffe) &&
    handler.isUpperCase (uChar % 2 ^ 16)

def emitForUnicodeChar (uChar : Int) (isDown : Bool) (xtCode : Int) : Emission :=
  { handled := true
    keys :=
      (if handler.shouldFakeShift uChar then
        (handler.emitForAndroidKeyCode KeyCode.shiftLeft true 0).keys else []) ++
      (handler.emit (handler.uKeySym uChar) isDown xtCode).keys ++
      if handler.shouldFakeShift uChar then
        (handler.emitForAndroidKeyCode KeyCode.shiftLeft false 0).keys else [] }

/-! ### Diacritics -/

/-- `COMBINING_ACCENT` is the sign bit. -/
def isAccent (uChar : Int) : Bool := uChar < 0

/-- The character under `COMBINING_ACCENT_MASK`. -/
def maskedChar (uChar : Int) : Int := uChar % 2 ^ 31

def composed (accentSequence : List Int) : Int :=
  accentSequence.dropLast.foldl (fun composed accent => handler.getDeadChar accent composed)
    (accentSequence.getLastD 0)

/-- The rest of `handleDiacritics` once it handles the event: what it emits and what is left of
the accent sequence. -/
def compose (accentSequence : List Int) (uChar : Int) (isDown : Bool) : List XKey × List Int :=
  if accentSequence.length ≤ 1 then ([], accentSequence)
  else
    (if handler.composed accentSequence ≠ 0 then
        (handler.emitForUnicodeChar (handler.composed accentSequence) isDown 0).keys
      else [],
      if !isDown ∧ (handler.composed accentSequence ≠ 0 ∨ !isAccent uChar) then []
      else accentSequence)

/-- Whether `handleDiacritics` handles an event. -/
def tracks (accentSequence : List Int) (keyCode uChar : Int) (isDown : Bool) : Bool :=
  if !isAccent uChar ∧ accentSequence = [] then false
  else if !isAccent uChar ∧ !isDown ∧ maskedChar uChar ∉ accentSequence then false
  else !KeyCode.isModifierKey keyCode

/-- `handleDiacritics`, with `none` for an event that it does not handle. -/
def handleDiacritics (accentSequence : List Int) (keyCode uChar : Int) (isDown : Bool) :
    Option (List XKey × List Int) :=
  if tracks accentSequence keyCode uChar isDown then
    some (handler.compose
      (if isDown then accentSequence ++ [maskedChar uChar] else accentSequence) uChar isDown)
  else none

/-! ### Handling events -/

/-- The keys that go out by their key code although they have a character. -/
def keyCodesOnly : List Int := [KeyCode.enter, KeyCode.numpadEnter, KeyCode.space, KeyCode.tab]

/-- The rest of `emitForKeyEvent` for an event without diacritics. -/
def emitKey (keyCode uChar : Int) (isDown : Bool) (xtCode : Int) : Emission :=
  if keyCode ∈ keyCodesOnly then handler.emitForAndroidKeyCode keyCode isDown xtCode
  else if uChar ≠ 0 then handler.emitForUnicodeChar uChar isDown xtCode
  else handler.emitForAndroidKeyCode keyCode isDown xtCode

def emitForKeyEvent (accentSequence : List Int) (keyCode uChar : Int) (isDown : Bool)
    (scanCode : Int) : Emission × List Int :=
  match handler.handleDiacritics accentSequence keyCode uChar isDown with
  | some (keys, accentSequence) => ({ handled := true, keys }, accentSequence)
  | none =>
    (handler.emitKey keyCode uChar isDown
        (if scanCode = 0 then 0 else handler.fromAndroidScancode scanCode),
      accentSequence)

def getUnicodeChar (event : KeyEvent) : Int :=
  if event.unicodeChar ≠ 0 ∨ event.metaState = 0 then event.unicodeChar
  else event.unicodeCharWithoutAltCtrl

def shouldIgnoreEvent (event : KeyEvent) : Bool :=
  (decide (KeyCode.numpad0 ≤ event.keyCode ∧ event.keyCode ≤ KeyCode.numpad9) ||
      event.keyCode == KeyCode.numpadDot) &&
    !event.isNumLockOn

def preProcessEvent (event : KeyEvent) : KeyEvent :=
  if event.keyCode = KeyCode.back ∧ handler.kmBackToEscape ∧ !event.isVirtualHardKey then
    .ofKeyCode event.action KeyCode.escape (handler.virtualUnicodeChar KeyCode.escape)
  else event

/-- A press and a release of the same key code and character. -/
def emitPressAndRelease (keyCode uChar : Int) (before : List XKey × List Int) :
    List XKey × List Int :=
  let (down, accentSequence) := handler.emitForKeyEvent before.2 keyCode uChar true 0
  let (up, accentSequence) := handler.emitForKeyEvent accentSequence keyCode uChar false 0
  (before.1 ++ down.keys ++ up.keys, accentSequence)

def handleKeyEvent (accentSequence : List Int) (event : KeyEvent) : Emission × List Int :=
  match event.action with
  | .down =>
    handler.emitForKeyEvent accentSequence event.keyCode (getUnicodeChar event) true event.scanCode
  | .up =>
    handler.emitForKeyEvent accentSequence event.keyCode (getUnicodeChar event) false event.scanCode
  | .multiple =>
    let (keys, accentSequence) :=
      if event.keyCode = KeyCode.unknown then
        event.characters.foldl (fun before uChar => handler.emitPressAndRelease 0 uChar before)
          ([], accentSequence)
      else
        (List.replicate event.repeatCount event.keyCode).foldl
          (fun before keyCode => handler.emitPressAndRelease keyCode 0 before) ([], accentSequence)
    ({ handled := true, keys }, accentSequence)
  | .other => ({ handled := false, keys := [] }, accentSequence)

def onKeyEvent (accentSequence : List Int) (event : KeyEvent) : Emission × List Int :=
  if shouldIgnoreEvent event then ({ handled := false, keys := [] }, accentSequence)
  else handler.handleKeyEvent accentSequence (handler.preProcessEvent event)

/-- `onCommitText`, by way of `handleCCedilla`. -/
def onCommitText (text : Option String) : Emission :=
  if text = some "ç" then
    { handled := true
      keys := (handler.emitForUnicodeChar 0xe7 true 0).keys ++
        (handler.emitForUnicodeChar 0xe7 false 0).keys }
  else if text = some "Ç" then
    { handled := true
      keys := (handler.emitForAndroidKeyCode KeyCode.shiftLeft true 0).keys ++
        (handler.emitForUnicodeChar 0xc7 true 0).keys ++
        (handler.emitForUnicodeChar 0xc7 false 0).keys ++
        (handler.emitForAndroidKeyCode KeyCode.shiftLeft false 0).keys }
  else { handled := false, keys := [] }

end KeyHandler

end TermPlux
