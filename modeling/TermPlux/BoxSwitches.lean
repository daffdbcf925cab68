/-
This file models the switches for box and for wine on the settings page. Switching
one on suspends its handler until the file system tells whether the program is
there; what follows runs when that answer arrives. Wine checks before it is
suspended that box is on, so box can be switched off in the meantime and wine is
switched on without it. As long as box is still on whenever the handler of wine
stores that wine is on, wine is never on without box.
-/

import TermPlux.Machine

namespace TermPlux.BoxSwitches

/-- The two switches as the preferences hold them, where they are set, and the handlers of each
that are suspended. -/
structure SettingsPage where
  isBoxEnabled : Option Bool
  isWineEnabled : Option Bool
  boxChecks : Nat
  wineChecks : Nat
  deriving DecidableEq

/-- `Util.getGlobal` of a switch, and what is stored afterwards. A switch that was never set is
set to off. -/
def getGlobal (stored : Option Bool) : Bool × Option Bool :=
  match stored with
  | some value => (value, some value)
  | none => (false, some false)

theorem getGlobal_stored (stored : Option Bool) :
    (getGlobal (getGlobal stored).2).1 = (getGlobal stored).1 := by
  cases stored <;> rfl

namespace SettingsPage

def boxEnabled (page : SettingsPage) : Bool := (getGlobal page.isBoxEnabled).1

def wineEnabled (page : SettingsPage) : Bool := (getGlobal page.isWineEnabled).1

/-! ### The handler of box -/

/-- The rest of the handler, once box may be set. -/
def storeBox (page : SettingsPage) (value : Bool) : SettingsPage :=
  if value then { page with isBoxEnabled := some true }
  else
    { page with
      isBoxEnabled := some false
      isWineEnabled :=
        if page.wineEnabled then some false else (getGlobal page.isWineEnabled).2 }

def onBoxChanged (page : SettingsPage) (value : Bool) : SettingsPage :=
  if value then { page with boxChecks := page.boxChecks + 1 } else page.storeBox value

/-- The answer whether `box64` exists. Without it a message is shown. -/
def resumeBox (page : SettingsPage) (exists_ : Bool) : SettingsPage :=
  let resumed := { page with boxChecks := page.boxChecks - 1 }
  if exists_ then resumed.storeBox true else resumed

/-! ### The handler of wine -/

/-- The rest of the handler, which also writes the search path for the shell. -/
def storeWine (page : SettingsPage) (value : Bool) : SettingsPage :=
  { page with isWineEnabled := some value }

/-- Box is read first, and without it a message is shown. -/
def onWineChanged (page : SettingsPage) (value : Bool) : SettingsPage :=
  if value then
    let read := { page with isBoxEnabled := (getGlobal page.isBoxEnabled).2 }
    if page.boxEnabled then { read with wineChecks := page.wineChecks + 1 } else read
  else page.storeWine value

/-- The answer whether wine exists. Without it a message is shown. -/
def resumeWine (page : SettingsPage) (exists_ : Bool) : SettingsPage :=
  let resumed := { page with wineChecks := page.wineChecks - 1 }
  if exists_ then resumed.storeWine true else resumed

end SettingsPage

/-! ### Runs -/

inductive Event
  | onBoxChanged (value : Bool)
  | resumeBox (exists_ : Bool)
  | onWineChanged (value : Bool)
  | resumeWine (exists_ : Bool)
  /-- The app ends, and its suspended handlers with it. -/
  | restart
  deriving DecidableEq

def step (page : SettingsPage) : Event → SettingsPage
  | .onBoxChanged value => page.onBoxChanged value
  | .resumeBox exists_ => page.resumeBox exists_
  | .onWineChanged value => page.onWineChanged value
  | .resumeWine exists_ => page.resumeWine exists_
  | .restart => { page with boxChecks := 0, wineChecks := 0 }

/-- The preferences of a new installation. The switches are used at any time, and a suspended
handler resumes at any later time. -/
def machine : Machine SettingsPage Event where
  start := { isBoxEnabled := none, isWineEnabled := none, boxChecks := 0, wineChecks := 0 }
  enabled page event := match event with
    | .resumeBox _ => 0 < page.boxChecks
    | .resumeWine _ => 0 < page.wineChecks
    | _ => True
  step := step

instance (page : SettingsPage) (event : Event) : Decidable (machine.enabled page event) :=
  match event with
  | .resumeBox _ | .resumeWine _ => inferInstanceAs (Decidable (0 < _))
  | .onBoxChanged _ | .onWineChanged _ | .restart => instDecidableTrue

/-! ### Wine without box -/

def WineImpliesBox (page : SettingsPage) : Prop :=
  page.wineEnabled = true → page.boxEnabled = true

instance : DecidablePred WineImpliesBox := fun _ => inferInstanceAs (Decidable (_ → _))

/-- Box is still on when the handler of wine stores that wine is on. -/
def BoxStillEnabled (page : SettingsPage) : Event → Prop
  | .resumeWine exists_ => exists_ = true → page.boxEnabled = true
  | _ => True

instance (page : SettingsPage) (event : Event) : Decidable (BoxStillEnabled page event) :=
  match event with
  | .resumeWine _ => inferInstanceAs (Decidable (_ → _))
  | .onBoxChanged _ | .resumeBox _ | .onWineChanged _ | .restart => instDecidableTrue

variable {page : SettingsPage}

/-- Storing box keeps the implication: wine goes off together with it. -/
theorem wineImpliesBox_storeBox (page : SettingsPage) (value : Bool) :
    WineImpliesBox (page.storeBox value) := by
  intro enabled
  cases value with
  | true => rfl
  | false =>
    have off : (page.storeBox false).wineEnabled = false := by
      show (getGlobal (if page.wineEnabled then _ else _)).1 = false
      split
      · rfl
      next disabled => exact (getGlobal_stored _).trans (Bool.eq_false_iff.mpr disabled)
    exact absurd (off.symm.trans enabled) Bool.false_ne_true

theorem wineImpliesBox_step_iff (implies : WineImpliesBox page) (event : Event) :
    WineImpliesBox (step page event) ↔ BoxStillEnabled page event := by
  cases event with
  | onBoxChanged value =>
    refine iff_of_true ?_ trivial
    cases value with
    | true => exact implies
    | false => exact wineImpliesBox_storeBox page false
  | resumeBox exists_ =>
    refine iff_of_true ?_ trivial
    cases exists_ with
    | true => exact wineImpliesBox_storeBox _ true
    | false => exact implies
  | onWineChanged value =>
    refine iff_of_true ?_ trivial
    cases value with
    | true =>
      show WineImpliesBox (if page.boxEnabled then _ else _)
      have read : WineImpliesBox { page with isBoxEnabled := (getGlobal page.isBoxEnabled).2 } :=
        fun enabled => (getGlobal_stored _).trans (implies enabled)
      split
      · exact read
      · exact read
    | false => exact fun enabled => absurd enabled Bool.false_ne_true
  | resumeWine exists_ =>
    cases exists_ with
    | true => exact ⟨fun kept _ => kept rfl, fun still _ => still rfl⟩
    | false => exact iff_of_true implies fun absent => absurd absent Bool.false_ne_true
  | restart => exact iff_of_true implies trivial

/-- In every run wine is never on without box just when box is still on whenever the handler of
wine stores that wine is on. -/
theorem wineImpliesBox_iff (events : List Event) (run : machine.Run events) :
    machine.Always WineImpliesBox events ↔ (machine.restrict BoxStillEnabled).Run events := by
  refine run.always_iff (fun _ => True) WineImpliesBox trivial ?_ (fun _ _ _ _ _ => trivial)
    fun _ event _ implies _ => wineImpliesBox_step_iff implies event
  exact fun enabled => absurd enabled Bool.false_ne_true

/-- Both are switched on, one after the other. -/
def bothSwitchedOn : List Event :=
  [.onBoxChanged true, .resumeBox true, .onWineChanged true, .resumeWine true]

theorem wineImpliesBox_bothSwitchedOn : machine.Always WineImpliesBox bothSwitchedOn :=
  (wineImpliesBox_iff bothSwitchedOn (by decide)).mpr (by decide)

/-- Box is switched off while the handler of wine is suspended. -/
def boxSwitchedOff : List Event :=
  [.onBoxChanged true, .resumeBox true, .onWineChanged true, .onBoxChanged false, .resumeWine true]

theorem wine_without_box :
    machine.Run boxSwitchedOff ∧ (machine.after boxSwitchedOff).wineEnabled = true ∧
      (machine.after boxSwitchedOff).boxEnabled = false ∧
      ¬machine.Always WineImpliesBox boxSwitchedOff := by
  decide

end TermPlux.BoxSwitches
