/-
This file models the input path of the terminal: `terminal.onOutput` of `TermPty`,
which writes to the pty, the re-entrant `keyInput` of the terminal, and
`VirtualKeyboard.call` with its Ctrl-J latch and its sticky modifiers. The input
handler of the terminal package is a parameter.

The pty receives each newline as one Enter key and everything else as UTF-8,
exactly when the text stays inside the basic multilingual plane: the text is
split into single code units before it is encoded.
-/

import TermPlux.Utf16

namespace TermPlux.TermPty

open Utf16

/-! ### The keyboard -/

/-- The keys that the code tells apart. -/
inductive TerminalKey
  | enter
  | keyJ
  | other (index : Nat)
  deriving DecidableEq

structure TerminalKeyboardEvent where
  key : TerminalKey
  ctrl : Bool
  shift : Bool
  alt : Bool

/-- The modifiers of `Global.keyboard`, the latch `Global.maybeCtrlJ`, and the blocks written
to the pty so far. -/
structure State where
  ctrl : Bool
  shift : Bool
  alt : Bool
  maybeCtrlJ : Bool
  written : List (List UInt8)

/-- All bytes that the pty received. -/
def State.bytes (state : State) : List UInt8 := state.written.flatten

def State.write (state : State) (block : List UInt8) : State :=
  { state with written := state.written ++ [block] }

@[simp] theorem State.bytes_write (state : State) (block : List UInt8) :
    (state.write block).bytes = state.bytes ++ block := by
  simp [State.bytes, State.write]

section Terminal

variable (inputHandler : TerminalKeyboardEvent → Option (List UInt16)) (isStickyKey : Bool)

/-- `VirtualKeyboard.call`. -/
def call (state : State) (event : TerminalKeyboardEvent) : Option (List UInt16) × State :=
  let ret := inputHandler
    { event with
      ctrl := event.ctrl || state.ctrl
      shift := event.shift || state.shift
      alt := event.alt || state.alt }
  let state := { state with maybeCtrlJ := event.key = .keyJ }
  (ret, if isStickyKey then state else { state with ctrl := false, shift := false, alt := false })

/-! ### The terminal -/

/-- `keyInput` of the terminal, with the `onOutput` that it calls. -/
def keyInput (onOutput : State → List UInt16 → Option State) (state : State)
    (key : TerminalKey) : Option State :=
  let (output, state) :=
    call inputHandler isStickyKey state { key, ctrl := false, shift := false, alt := false }
  match output with
  | some data => onOutput state data
  | none => some state

/-- The body of the loop of `terminal.onOutput`. -/
def forward (onOutput : State → List UInt16 → Option State) (state : State) (element : UInt16) :
    Option State :=
  if element = 0x0A ∧ state.maybeCtrlJ = false then
    keyInput inputHandler isStickyKey onOutput state .enter
  else some (({ state with maybeCtrlJ := false }).write (toUtf8 [element]))

/-- `terminal.onOutput`. It calls itself through `keyInput`, `depth` levels at most. -/
def onOutput : Nat → State → List UInt16 → Option State
  | 0, _, _ => none
  | depth + 1, state, data =>
    data.foldlM (forward inputHandler isStickyKey (onOutput depth)) state

end Terminal

/-! ### What the pty should receive -/

/-- The bytes for one character, as the first of its text under the latch or not. -/
def forwardedCharacter (latch : Bool) (character : Char) : List UInt8 :=
  if character = '\n' then (if latch then [0x0A] else [0x0D])
  else String.utf8EncodeChar character

/-- The UTF-8 of a text with each newline as a carriage return, except one that comes first
while the latch is set. -/
def forwarded (latch : Bool) : List Char → List UInt8
  | [] => []
  | character :: rest => forwardedCharacter latch character ++ forwarded false rest

theorem forwarded_of_no_newline (latch : Bool) (text : List Char) (noNewline : '\n' ∉ text) :
    forwarded latch text = toUtf8 (encodeText text) := by
  rw [toUtf8_encodeText]
  induction text generalizing latch with
  | nil => rfl
  | cons character rest inductionHypothesis =>
    have different : character ≠ '\n' := fun same => noNewline (same ▸ List.mem_cons_self)
    have restNoNewline : '\n' ∉ rest := fun member => noNewline (List.mem_cons_of_mem _ member)
    rw [forwarded, inductionHypothesis false restNoNewline, forwardedCharacter,
      if_neg different, List.flatMap_cons]

/-! ### What the pty receives -/

/-- The bytes that one code unit puts into the pty. -/
def sentUnit (latch : Bool) (unit : UInt16) : List UInt8 :=
  if unit = 0x0A ∧ latch = false then [0x0D] else toUtf8 [unit]

def sentUnits (latch : Bool) : List UInt16 → List UInt8
  | [] => []
  | unit :: rest => sentUnit latch unit ++ sentUnits false rest

section Sent

variable {inputHandler : TerminalKeyboardEvent → Option (List UInt16)} {isStickyKey : Bool}

/-- Whatever the sticky modifiers are, the input handler turns Enter into a carriage return. -/
def EnterEmitsReturn (inputHandler : TerminalKeyboardEvent → Option (List UInt16)) : Prop :=
  ∀ ctrl shift alt, inputHandler ⟨.enter, ctrl, shift, alt⟩ = some [0x0D]

theorem forward_written (again : State → List UInt16 → Option State) (state : State)
    (unit : UInt16) (passed : ¬(unit = 0x0A ∧ state.maybeCtrlJ = false)) :
    forward inputHandler isStickyKey again state unit =
      some (({ state with maybeCtrlJ := false }).write (toUtf8 [unit])) := if_neg passed

theorem keyInput_enter (emits : EnterEmitsReturn inputHandler) (depth : Nat) (state : State) :
    ∃ after,
      keyInput inputHandler isStickyKey (onOutput inputHandler isStickyKey (depth + 1)) state
        .enter = some after ∧
      after.maybeCtrlJ = false ∧ after.bytes = state.bytes ++ [0x0D] := by
  obtain ⟨released, called, noLatch, sameBytes⟩ : ∃ released : State,
      call inputHandler isStickyKey state ⟨.enter, false, false, false⟩ = (some [0x0D], released) ∧
        released.maybeCtrlJ = false ∧ released.bytes = state.bytes := by
    unfold call
    rw [emits]
    cases isStickyKey <;> exact ⟨_, rfl, rfl, rfl⟩
  refine ⟨released.write [0x0D], ?_, ?_, ?_⟩
  · unfold keyInput
    rw [called]
    show List.foldlM _ released [0x0D] = _
    rw [List.foldlM_cons, forward_written _ _ _ fun enter => absurd enter.1 (by decide)]
    obtain ⟨ctrl, shift, alt, latch, written⟩ := released
    cases noLatch
    rfl
  · exact noLatch
  · rw [State.bytes_write, sameBytes]

theorem forward_sent (emits : EnterEmitsReturn inputHandler) (depth : Nat) (state : State)
    (unit : UInt16) :
    ∃ after,
      forward inputHandler isStickyKey (onOutput inputHandler isStickyKey (depth + 1)) state
        unit = some after ∧
      after.maybeCtrlJ = false ∧ after.bytes = state.bytes ++ sentUnit state.maybeCtrlJ unit := by
  by_cases enter : unit = 0x0A ∧ state.maybeCtrlJ = false
  · rw [forward, if_pos enter, sentUnit, if_pos enter]
    exact keyInput_enter emits depth state
  · rw [forward_written _ _ _ enter, sentUnit, if_neg enter]
    exact ⟨_, rfl, rfl, State.bytes_write _ _⟩

/-- Two levels are enough for any text. -/
theorem onOutput_sent (emits : EnterEmitsReturn inputHandler) (depth : Nat) (state : State)
    (data : List UInt16) :
    ∃ after, onOutput inputHandler isStickyKey (depth + 2) state data = some after ∧
      after.bytes = state.bytes ++ sentUnits state.maybeCtrlJ data := by
  unfold onOutput
  induction data generalizing state with
  | nil => exact ⟨state, rfl, (List.append_nil _).symm⟩
  | cons unit rest inductionHypothesis =>
    obtain ⟨middle, stepped, noLatch, middleBytes⟩ := forward_sent emits depth state unit
    obtain ⟨after, finished, afterBytes⟩ := inductionHypothesis middle
    refine ⟨after, ?_, ?_⟩
    · rw [List.foldlM_cons, stepped]
      exact finished
    · rw [afterBytes, middleBytes, noLatch, List.append_assoc]
      rfl

end Sent

/-! ### Texts -/

/-- The bytes that one character puts into the pty. -/
def sentCharacter (latch : Bool) (character : Char) : List UInt8 :=
  if character.toNat < 0x10000 then forwardedCharacter latch character
  else replacement ++ replacement

def sent (latch : Bool) : List Char → List UInt8
  | [] => []
  | character :: rest => sentCharacter latch character ++ sent false rest

theorem sentUnits_encode_append (latch : Bool) (character : Char) (rest : List UInt16) :
    sentUnits latch (encode character ++ rest) =
      sentCharacter latch character ++ sentUnits false rest := by
  by_cases plane : character.toNat < 0x10000
  · have single : encode character = [UInt16.ofNat character.toNat] := if_pos plane
    rw [single, List.singleton_append, sentUnits, sentCharacter, if_pos plane, forwardedCharacter]
    by_cases newline : character = '\n'
    · subst newline
      rw [if_pos rfl]
      cases latch <;> rfl
    · have other : UInt16.ofNat character.toNat ≠ 0x0A := by
        intro same
        refine newline (Char.toNat_inj.mp ?_)
        rw [← UInt16.toNat_ofNat_of_lt' plane, same]
        rfl
      rw [if_neg newline, sentUnit, if_neg fun enter => other enter.1]
      exact congrArg (· ++ _) (unitToUtf8_of_plane character plane)
  · obtain ⟨high, low, pair, isHigh, isLow, -⟩ := encode_pair character plane
    have highOther : high ≠ 0x0A := by
      rintro rfl
      exact absurd isHigh (by decide)
    have lowOther : low ≠ 0x0A := by
      rintro rfl
      exact absurd isLow (by decide)
    have highBytes : sentUnit latch high = replacement :=
      (if_neg fun enter => highOther enter.1).trans (if_pos (.inl isHigh))
    have lowBytes : sentUnit false low = replacement :=
      (if_neg fun enter => lowOther enter.1).trans (if_pos (.inr isLow))
    rw [pair, sentCharacter, if_neg plane, List.cons_append, List.singleton_append, sentUnits,
      sentUnits, highBytes, lowBytes, List.append_assoc]

theorem sentUnits_encodeText (latch : Bool) (text : List Char) :
    sentUnits latch (encodeText text) = sent latch text := by
  induction text generalizing latch with
  | nil => rfl
  | cons character rest inductionHypothesis =>
    rw [encodeText, List.flatMap_cons, sentUnits_encode_append, sent, ← inductionHypothesis]
    rfl

/-- Two replacements are longer than the UTF-8 of any character. -/
theorem length_forwardedCharacter_lt (latch : Bool) (character : Char)
    (outside : ¬character.toNat < 0x10000) :
    (forwardedCharacter latch character).length < (sentCharacter latch character).length := by
  have different : character ≠ '\n' := by
    rintro rfl
    exact outside (by decide)
  rw [sentCharacter, if_neg outside, forwardedCharacter, if_neg different,
    String.length_utf8EncodeChar]
  exact Nat.lt_of_le_of_lt character.utf8Size_le_four (by decide)

theorem length_forwarded_le (latch : Bool) (text : List Char) :
    (forwarded latch text).length ≤ (sent latch text).length := by
  induction text generalizing latch with
  | nil => exact Nat.le_refl _
  | cons character rest inductionHypothesis =>
    have first : (forwardedCharacter latch character).length ≤
        (sentCharacter latch character).length := by
      by_cases plane : character.toNat < 0x10000
      · exact Nat.le_of_eq (congrArg List.length (if_pos plane).symm)
      · exact Nat.le_of_lt (length_forwardedCharacter_lt latch character plane)
    rw [forwarded, sent, List.length_append, List.length_append]
    exact Nat.add_le_add first (inductionHypothesis false)

theorem sent_eq_forwarded_iff (latch : Bool) (text : List Char) :
    sent latch text = forwarded latch text ↔ ∀ character ∈ text, character.toNat < 0x10000 := by
  induction text generalizing latch with
  | nil => simp [sent, forwarded]
  | cons character rest inductionHypothesis =>
    rw [List.forall_mem_cons, sent, forwarded]
    by_cases plane : character.toNat < 0x10000
    · have same : sentCharacter latch character = forwardedCharacter latch character :=
        if_pos plane
      rw [same, List.append_cancel_left_eq, inductionHypothesis]
      exact (and_iff_right plane).symm
    · refine iff_of_false (fun same => ?_) fun inside => plane inside.1
      have lengths := congrArg List.length same
      rw [List.length_append, List.length_append] at lengths
      have first := length_forwardedCharacter_lt latch character plane
      have others := length_forwarded_le false rest
      omega

/-- The input path is faithful for a text: `onOutput` ends, and the pty has received what it
should, which is the UTF-8 of the text where the text has no newline. -/
def Faithful (inputHandler : TerminalKeyboardEvent → Option (List UInt16)) (isStickyKey : Bool)
    (state : State) (text : List Char) : Prop :=
  ∀ depth, 2 ≤ depth → ∃ after,
    onOutput inputHandler isStickyKey depth state (encodeText text) = some after ∧
      after.bytes = state.bytes ++ forwarded state.maybeCtrlJ text ∧
      ('\n' ∉ text → after.bytes = state.bytes ++ toUtf8 (encodeText text))

/-- The input path is faithful exactly for the texts inside the basic multilingual plane. -/
theorem faithful_iff_plane (inputHandler : TerminalKeyboardEvent → Option (List UInt16))
    (isStickyKey : Bool) (emits : EnterEmitsReturn inputHandler) (state : State)
    (text : List Char) :
    Faithful inputHandler isStickyKey state text ↔
      ∀ character ∈ text, character.toNat < 0x10000 := by
  rw [← sent_eq_forwarded_iff state.maybeCtrlJ, ← sentUnits_encodeText]
  constructor
  · intro faithful
    obtain ⟨after, finished, bytes, -⟩ := faithful 2 (Nat.le_refl _)
    obtain ⟨after', finished', bytes'⟩ :=
      @onOutput_sent inputHandler isStickyKey emits 0 state (encodeText text)
    cases finished.symm.trans finished'
    exact List.append_cancel_left (bytes'.symm.trans bytes)
  · rintro same depth deep
    obtain ⟨extra, rfl⟩ := Nat.exists_eq_add_of_le' deep
    obtain ⟨after, finished, bytes⟩ :=
      @onOutput_sent inputHandler isStickyKey emits extra state (encodeText text)
    rw [same] at bytes
    exact ⟨after, finished, bytes, fun noNewline =>
      forwarded_of_no_newline state.maybeCtrlJ text noNewline ▸ bytes⟩

/-- The handler of the terminal package for Enter and Ctrl-J, in newline-off mode. -/
def plainHandler (event : TerminalKeyboardEvent) : Option (List UInt16) :=
  match event.key with
  | .enter => some [0x0D]
  | .keyJ => if event.ctrl then some [0x0A] else none
  | .other _ => none

/-- A terminal that has not written anything, right after a `j`. -/
def latched : State :=
  { ctrl := false, shift := false, alt := false, maybeCtrlJ := true, written := [] }

/-- A text inside the plane, with a newline that the latch passes and one that it does not. -/
theorem faithful_iff_plane_newlines :
    EnterEmitsReturn plainHandler ∧
      (Faithful plainHandler false latched ['\n', 'é', '\n'] ↔
        ∀ character ∈ ['\n', 'é', '\n'], character.toNat < 0x10000) :=
  ⟨fun _ _ _ => rfl, faithful_iff_plane plainHandler false (fun _ _ _ => rfl) latched _⟩

/-- A character outside the plane arrives as two replacements. -/
theorem grinning_face_replaced : ¬Faithful plainHandler false latched ['😀'] := by
  intro faithful
  obtain ⟨after, finished, -, bytes⟩ := faithful 2 (Nat.le_refl _)
  have received : (onOutput plainHandler false 2 latched (encodeText ['😀'])).map State.bytes =
      some (replacement ++ replacement) := by decide +kernel
  rw [finished, Option.map_some, bytes (by decide)] at received
  exact absurd received (by decide +kernel)

end TermPlux.TermPty
