/-
This file models the key map of `XKeySymAndroid`: the process-wide table from
Android key codes to X keysyms, its lookup, and the three places that overwrite
it -- the custom key mappings of `KeyHandler` and the macOS quirk of
`VncClient`. A process runs one session after the other on the same table.

Nothing restores the table when a session ends. What a key code means in a
session therefore depends on earlier ones, and the file proves exactly when two
histories cannot be told apart: for each key code, either the current session
remaps it itself, or the histories remapped it last alike.
-/

import Mathlib.Tactic.Common
import TermPlux.Overwrites

namespace TermPlux

/-! ### Keysyms and key codes -/

namespace XKeySym

def metaL : Int := 0xffe7
def metaR : Int := 0xffe8
def superL : Int := 0xffeb

end XKeySym

namespace KeyCode

def altLeft : Int := 57
def altRight : Int := 58
def shiftLeft : Int := 59
def languageSwitch : Int := 204

end KeyCode

/-! ### The table -/

/-- `AndroidKeyCodeToXKeySym`, indexed by key code. -/
abbrev KeyMap := List Int

namespace XKeySymAndroid

/-- The table as the process starts with it. -/
def initialKeyMap : KeyMap :=
  [0, 0, 0, 0, 0, 0, 0, 0x30, 0x31, 0x32,  -- 0 to 9
   0x33, 0x34, 0x35, 0x36, 0x37, 0x38, 0x39, 0x2a, 0x23, 0xff52,  -- 10 to 19
   0xff54, 0xff51, 0xff53, 0, 0x1008ff13, 0x1008ff11, 0, 0, 0, 0x61,  -- 20 to 29
   0x62, 0x63, 0x64, 0x65, 0x66, 0x67, 0x68, 0x69, 0x6a, 0x6b,  -- 30 to 39
   0x6c, 0x6d, 0x6e, 0x6f, 0x70, 0x71, 0x72, 0x73, 0x74, 0x75,  -- 40 to 49
   0x76, 0x77, 0x78, 0x79, 0x7a, 0x2c, 0x2e, 0xffe9, 0xffea, 0xffe1,  -- 50 to 59
   0xffe2, 0xff09, 0x20, 0, 0, 0, 0xff0d, 0xff08, 0x60, 0x2d,  -- 60 to 69
   0x3d, 0x5b, 0x5d, 0x5c, 0x3b, 0x27, 0x2f, 0x40, 0, 0,  -- 70 to 79
   0, 0x2b, 0xff67, 0, 0, 0, 0, 0, 0, 0,  -- 80 to 89
   0, 0, 0xff55, 0xff56, 0, 0, 0, 0, 0, 0,  -- 90 to 99
   0, 0, 0, 0, 0, 0, 0, 0, 0, 0,  -- 100 to 109
   0, 0xff1b, 0xffff, 0xffe3, 0xffe4, 0xffe5, 0xff14, 0xffeb, 0xffec, 0,  -- 110 to 119
   0xff15, 0xff6b, 0xff50, 0xff57, 0xff63, 0, 0, 0, 0, 0,  -- 120 to 129
   0, 0xffbe, 0xffbf, 0xffc0, 0xffc1, 0xffc2, 0xffc3, 0xffc4, 0xffc5, 0xffc6,  -- 130 to 139
   0xffc7, 0xffc8, 0xffc9, 0xff7f, 0xffb0, 0xffb1, 0xffb2, 0xffb3, 0xffb4, 0xffb5,  -- 140 to 149
   0xffb6, 0xffb7, 0xffb8, 0xffb9, 0xffaf, 0xffaa, 0xffad, 0xffab, 0xffae, 0xffac,  -- 150 to 159
   0xff8d, 0xffbd, 0, 0, 0x1008ff12, 0, 0, 0, 0, 0,  -- 160 to 169
   0, 0, 0, 0, 0, 0, 0, 0, 0, 0,  -- 170 to 179
   0, 0, 0, 0, 0, 0, 0, 0, 0, 0,  -- 180 to 189
   0, 0, 0, 0, 0, 0, 0, 0, 0, 0,  -- 190 to 199
   0, 0, 0, 0, 0]  -- 200 to 204

def getKeySymForAndroidKeyCode (keyMap : KeyMap) (keyCode : Int) : Int :=
  if 0 ≤ keyCode ∧ keyCode < keyMap.length then keyMap.getD keyCode.toNat 0 else 0

def updateKeyMap (keyMap : KeyMap) (keyCode xKeySym : Int) : KeyMap :=
  if 0 ≤ keyCode ∧ keyCode < keyMap.length then keyMap.set keyCode.toNat xKeySym else keyMap

@[simp] theorem updateKeyMap_length (keyMap : KeyMap) (keyCode xKeySym : Int) :
    (updateKeyMap keyMap keyCode xKeySym).length = keyMap.length := by
  unfold updateKeyMap
  split <;> simp

/-- An update of a key code inside the table changes that slot and no other. -/
theorem getKeySym_updateKeyMap (keyMap : KeyMap) (keyCode xKeySym : Int)
    (inside : 0 ≤ keyCode ∧ keyCode < keyMap.length) :
    getKeySymForAndroidKeyCode (updateKeyMap keyMap keyCode xKeySym) =
      Function.update (getKeySymForAndroidKeyCode keyMap) keyCode xKeySym := by
  funext other
  unfold getKeySymForAndroidKeyCode
  rw [updateKeyMap_length, updateKeyMap, if_pos inside]
  by_cases same : other = keyCode
  · subst same
    have bound : other.toNat < keyMap.length := by omega
    rw [Function.update_self, if_pos inside, List.getD_eq_getElem?_getD,
      List.getElem?_set_self bound, Option.getD_some]
  · rw [Function.update_of_ne same]
    split
    · have different : keyCode.toNat ≠ other.toNat := by omega
      rw [List.getD_eq_getElem?_getD, List.getD_eq_getElem?_getD,
        List.getElem?_set_ne different]
    · rfl

/-! ### Sessions -/

/-- A VNC session: the preferences its `KeyHandler` reads, the kind of its server, and what
happened in it so far. -/
inductive SessionEvent
  /-- `KeyHandler` is constructed, once per activity instance. -/
  | createKeyHandler
  /-- `VncClient.connect` with the result of `nativeInit`. -/
  | connect (connected : Bool)
  deriving DecidableEq

structure Session where
  kmLanguageSwitchToSuper : Bool
  kmRightAltToSuper : Bool
  isServerMacOS : Bool
  events : List SessionEvent

/-- The custom key mappings of the `init` block of `KeyHandler`. -/
def Session.initKeyHandler (session : Session) (keyMap : KeyMap) : KeyMap :=
  let keyMap :=
    if session.kmLanguageSwitchToSuper then
      updateKeyMap keyMap KeyCode.languageSwitch XKeySym.superL
    else keyMap
  if session.kmRightAltToSuper then updateKeyMap keyMap KeyCode.altRight XKeySym.superL
  else keyMap

/-- `VncClient.applyCompatQuirks`. -/
def Session.applyCompatQuirks (session : Session) (keyMap : KeyMap) : KeyMap :=
  if session.isServerMacOS then
    updateKeyMap (updateKeyMap keyMap KeyCode.altLeft XKeySym.metaL) KeyCode.altRight
      XKeySym.metaR
  else keyMap

/-- A failed connection throws before the quirks are applied. -/
def Session.step (session : Session) (keyMap : KeyMap) : SessionEvent → KeyMap
  | .createKeyHandler => session.initKeyHandler keyMap
  | .connect connected => if connected then session.applyCompatQuirks keyMap else keyMap

def Session.run (session : Session) (keyMap : KeyMap) : KeyMap :=
  session.events.foldl session.step keyMap

/-- The table after the sessions of a process, oldest first. -/
def afterSessions (sessions : List Session) : KeyMap :=
  sessions.foldl (fun keyMap session => session.run keyMap) initialKeyMap

/-! ### What a session remaps -/

/-- The key codes an event remaps, with their new keysyms. -/
def Session.remapsOf (session : Session) : SessionEvent → List (Int × Int)
  | .createKeyHandler =>
    (if session.kmLanguageSwitchToSuper then [(KeyCode.languageSwitch, XKeySym.superL)] else []) ++
      if session.kmRightAltToSuper then [(KeyCode.altRight, XKeySym.superL)] else []
  | .connect connected =>
    if connected && session.isServerMacOS then
      [(KeyCode.altLeft, XKeySym.metaL), (KeyCode.altRight, XKeySym.metaR)]
    else []

def Session.remaps (session : Session) : List (Int × Int) :=
  session.events.flatMap session.remapsOf

/-- The remaps of a sequence of sessions, oldest first. -/
def remaps (sessions : List Session) : List (Int × Int) :=
  sessions.flatMap Session.remaps

/-- A list of updates inside the table reads as a log of writes. -/
theorem getKeySym_foldl_updateKeyMap (log : List (Int × Int)) (keyMap : KeyMap)
    (inside : ∀ write ∈ log, 0 ≤ write.1 ∧ write.1 < keyMap.length) :
    getKeySymForAndroidKeyCode
        (log.foldl (fun table write => updateKeyMap table write.1 write.2) keyMap) =
      Overwrites.writeAll (getKeySymForAndroidKeyCode keyMap) log := by
  induction log generalizing keyMap with
  | nil => rfl
  | cons write rest inductionHypothesis =>
    rw [List.foldl_cons, inductionHypothesis _ fun other member => by
        simpa using inside other (List.mem_cons_of_mem _ member),
      getKeySym_updateKeyMap keyMap _ _ (inside write List.mem_cons_self)]
    rfl

theorem step_eq_foldl (session : Session) (keyMap : KeyMap) (event : SessionEvent) :
    session.step keyMap event =
      (session.remapsOf event).foldl (fun table write => updateKeyMap table write.1 write.2)
        keyMap := by
  obtain ⟨language, rightAlt, macOS, events⟩ := session
  cases event with
  | createKeyHandler => cases language <;> cases rightAlt <;> rfl
  | connect connected => cases connected <;> cases macOS <;> rfl

theorem run_eq_foldl (session : Session) (keyMap : KeyMap) :
    session.run keyMap =
      session.remaps.foldl (fun table write => updateKeyMap table write.1 write.2) keyMap := by
  unfold Session.run Session.remaps
  induction session.events generalizing keyMap with
  | nil => rfl
  | cons event rest inductionHypothesis =>
    rw [List.foldl_cons, List.flatMap_cons, List.foldl_append, step_eq_foldl, inductionHypothesis]

theorem afterSessions_eq_foldl (sessions : List Session) :
    afterSessions sessions =
      (remaps sessions).foldl (fun table write => updateKeyMap table write.1 write.2)
        initialKeyMap := by
  unfold afterSessions remaps
  generalize initialKeyMap = keyMap
  induction sessions generalizing keyMap with
  | nil => rfl
  | cons session rest inductionHypothesis =>
    rw [List.foldl_cons, List.flatMap_cons, List.foldl_append, run_eq_foldl, inductionHypothesis]

/-- Every remap there is. -/
def possibleRemaps : List (Int × Int) :=
  [(KeyCode.languageSwitch, XKeySym.superL), (KeyCode.altRight, XKeySym.superL),
    (KeyCode.altLeft, XKeySym.metaL), (KeyCode.altRight, XKeySym.metaR)]

theorem mem_possibleRemaps {session : Session} {event : SessionEvent} {write : Int × Int}
    (member : write ∈ session.remapsOf event) : write ∈ possibleRemaps := by
  unfold possibleRemaps
  cases event with
  | createKeyHandler =>
    rcases List.mem_append.mp member with first | second
    · split at first
      · simp [List.mem_singleton.mp first]
      · cases first
    · split at second
      · simp [List.mem_singleton.mp second]
      · cases second
  | connect connected =>
    obtain ⟨-, written⟩ := List.mem_ite_nil_right.mp member
    exact List.mem_append_right [_, _] written

set_option maxRecDepth 2000 in
/-- A remap stays inside the table, and gives a key code a keysym it does not start with. -/
theorem possibleRemaps_change : ∀ write ∈ possibleRemaps,
    (0 ≤ write.1 ∧ write.1 < initialKeyMap.length) ∧
      write.2 ≠ getKeySymForAndroidKeyCode initialKeyMap write.1 := by
  decide

theorem mem_remaps {sessions : List Session} {write : Int × Int}
    (member : write ∈ remaps sessions) :
    (0 ≤ write.1 ∧ write.1 < initialKeyMap.length) ∧
      write.2 ≠ getKeySymForAndroidKeyCode initialKeyMap write.1 := by
  obtain ⟨session, -, sessionMember⟩ := List.mem_flatMap.mp member
  obtain ⟨event, -, eventMember⟩ := List.mem_flatMap.mp sessionMember
  exact possibleRemaps_change write (mem_possibleRemaps eventMember)

/-- What a key code means after a sequence of sessions. -/
theorem getKeySym_afterSessions (sessions : List Session) :
    getKeySymForAndroidKeyCode (afterSessions sessions) =
      Overwrites.writeAll (getKeySymForAndroidKeyCode initialKeyMap) (remaps sessions) := by
  rw [afterSessions_eq_foldl, getKeySym_foldl_updateKeyMap]
  exact fun write member => (mem_remaps member).1

/-! ### Two histories -/

/-- A current session cannot tell two histories apart: for each key code, either it remaps the
key code itself, or the histories remapped it last alike. -/
def Isolated (first second : List Session) (current : Session) : Prop :=
  ∀ keyCode, (Overwrites.lastWrite current.remaps keyCode).isSome ∨
    Overwrites.lastWrite (remaps first) keyCode = Overwrites.lastWrite (remaps second) keyCode

/-- The key map of the current session is the same after two histories exactly when the
current session cannot tell them apart. -/
theorem keyMap_agrees_iff_isolated (first second : List Session) (current : Session) :
    (∀ keyCode,
      getKeySymForAndroidKeyCode (afterSessions (first ++ [current])) keyCode =
        getKeySymForAndroidKeyCode (afterSessions (second ++ [current])) keyCode) ↔
      Isolated first second current := by
  have split (history : List Session) :
      remaps (history ++ [current]) = remaps history ++ current.remaps := by
    simp [remaps]
  refine forall_congr' fun keyCode => ?_
  rw [getKeySym_afterSessions, getKeySym_afterSessions, split, split]
  refine Overwrites.writeAll_append_eq_iff _ _ _ _ _ fun write member => ?_
  rcases List.mem_append.mp member with inFirst | inSecond
  · exact (mem_remaps inFirst).2
  · exact (mem_remaps inSecond).2

/-- An earlier session to a macOS server leaves left Alt mapped to Meta in a later session to
another server. -/
theorem keyMap_leaks :
    getKeySymForAndroidKeyCode (afterSessions
        ([⟨false, false, true, [.createKeyHandler, .connect true]⟩] ++
          [⟨false, false, false, [.createKeyHandler, .connect true]⟩])) KeyCode.altLeft ≠
      getKeySymForAndroidKeyCode (afterSessions
        ([] ++ [⟨false, false, false, [.createKeyHandler, .connect true]⟩]))
        KeyCode.altLeft := by
  rw [getKeySym_afterSessions, getKeySym_afterSessions]
  decide +kernel

end XKeySymAndroid

end TermPlux
