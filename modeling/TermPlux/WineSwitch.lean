/-
This file models what the switch for wine does to the `.bashrc` of the container.
Switching wine on appends a marker line unless `grep` finds the marker; switching
it off runs `sed` when `grep` finds it. The script that `sed` receives ends in
`Default` where a function has to stand, so it does not parse and the marker stays.
Switching on fails too where the marker is appended to an unended line or is
found inside a longer one.
-/

import TermPlux.Machine
import TermPlux.ShellCommands
import Mathlib.Data.List.Count

namespace TermPlux.WineSwitch

open ShellCommands TextLines

/-! ### The words of the scripts -/

/-- A word as the Dart source has it, while `command` has a value. -/
def word (source : String) (command : List Char) : List Char :=
  doubleQuoted (fun name => if name = "command".toList then command else []) 0
    (dartString source.toList)

/-- The line that stands for an enabled wine. -/
def marker : List Char :=
  word r"export PATH=\\\$HOME/.local/share/tiny/cross/wine/bin:\\\$PATH # Auto-generated, do NOT edit" []

/-- The second value of `command` when wine is switched off. -/
def escapedMarker : List Char :=
  word r"export PATH=\\\$HOME/.local/share/tiny/cross/wine/bin:\\\$PATH \\\\# Auto-generated, do NOT edit" []

def sedScript : List Char := word r"\\\\#\$command#Default" escapedMarker

example : marker =
    "export PATH=$HOME/.local/share/tiny/cross/wine/bin:$PATH # Auto-generated, do NOT edit".toList := by
  decide +kernel

theorem newline_not_mem_marker : '\n' ∉ marker := by decide +kernel

/-- After its letter the function of the script goes on. -/
theorem parseDelete_sedScript : parseDelete sedScript = none := by decide +kernel

/-! ### The scripts -/

def enable (bashrc : List Char) : List Char :=
  if grep (word r"\$command" marker) bashrc then bashrc
  else echoAppend (word r"\$command" marker) bashrc

def disable (bashrc : List Char) : List Char :=
  if grep (word r"\$command" marker) bashrc then sed sedScript bashrc else bashrc

theorem word_command : word r"\$command" marker = marker := by decide +kernel

/-- What the handler does to the file when the switch is set to a value. -/
def onChanged (bashrc : List Char) (value : Bool) : List Char :=
  if value then enable bashrc else disable bashrc

theorem disable_eq (bashrc : List Char) : disable bashrc = bashrc := by
  unfold disable
  split
  · exact sed_of_unparsed parseDelete_sedScript bashrc
  · rfl

theorem enable_of_grep {bashrc : List Char} (found : grep marker bashrc = true) :
    enable bashrc = bashrc := by
  rw [enable, word_command, if_pos found]

theorem enable_of_not_grep {bashrc : List Char} (missed : ¬grep marker bashrc = true) :
    enable bashrc = bashrc ++ (marker ++ ['\n']) := by
  rw [enable, word_command, if_neg missed, echoAppend]

/-! ### Clean steps -/

/-- Enabling leaves the marker line in the file and adds no second copy; disabling leaves every
line but the marker line, in order. -/
def TogglesCleanly (bashrc : List Char) (value : Bool) : Prop :=
  if value then
    marker ∈ lines '\n' (onChanged bashrc value) ∧
      (marker ∈ lines '\n' bashrc →
        (lines '\n' (onChanged bashrc value)).count marker ≤ (lines '\n' bashrc).count marker)
  else lines '\n' (onChanged bashrc value) = (lines '\n' bashrc).filter fun line => line ≠ marker

/-- Enabling finds the marker as a line, or finds it nowhere and can append it as one. Disabling
finds no marker line. -/
def Toggleable (bashrc : List Char) (value : Bool) : Prop :=
  if value then
    marker ∈ lines '\n' bashrc ∨
      (∀ line ∈ lines '\n' bashrc, ¬marker <:+: line) ∧ Ended '\n' bashrc
  else marker ∉ lines '\n' bashrc

instance (bashrc : List Char) (value : Bool) : Decidable (TogglesCleanly bashrc value) :=
  inferInstanceAs (Decidable (ite _ _ _))

instance (bashrc : List Char) (value : Bool) : Decidable (Toggleable bashrc value) :=
  inferInstanceAs (Decidable (ite _ _ _))

variable {bashrc : List Char}

theorem grep_of_mem (present : marker ∈ lines '\n' bashrc) : grep marker bashrc = true :=
  grep_iff.mpr ⟨marker, present, List.infix_refl marker⟩

/-- Appended to an unended line, the marker is no line of its own. -/
theorem not_mem_of_unended (missed : ¬grep marker bashrc = true) (unended : ¬Ended '\n' bashrc) :
    marker ∉ lines '\n' (bashrc ++ (marker ++ ['\n'])) := by
  obtain ⟨others, last, some_, before, after⟩ :=
    exists_lines_append_line unended newline_not_mem_marker
  rw [after, List.mem_append, List.mem_singleton]
  rintro (earlier | same)
  · refine missed (grep_of_mem ?_)
    rw [before]
    exact List.mem_append_left _ earlier
  · exact some_ (List.self_eq_append_left.mp same)

theorem enable_clean_iff (bashrc : List Char) :
    TogglesCleanly bashrc true ↔ Toggleable bashrc true := by
  show marker ∈ lines '\n' (enable bashrc) ∧ _ ↔ _
  by_cases found : grep marker bashrc = true
  · rw [onChanged, if_pos rfl, enable_of_grep found]
    have nowhere : ¬∀ line ∈ lines '\n' bashrc, ¬marker <:+: line := by
      obtain ⟨line, member, inside⟩ := grep_iff.mp found
      exact fun outside => outside line member inside
    constructor
    · exact fun clean => Or.inl clean.1
    · rintro (present | ⟨outside, -⟩)
      · exact ⟨present, fun _ => le_rfl⟩
      · exact absurd outside nowhere
  · have absent : marker ∉ lines '\n' bashrc := fun present => found (grep_of_mem present)
    have outside : ∀ line ∈ lines '\n' bashrc, ¬marker <:+: line :=
      fun line member inside => found (grep_iff.mpr ⟨line, member, inside⟩)
    rw [onChanged, if_pos rfl, enable_of_not_grep found]
    constructor
    · intro clean
      refine Or.inr ⟨outside, ?_⟩
      by_contra unended
      exact not_mem_of_unended found unended clean.1
    · rintro (present | ⟨-, ended⟩)
      · exact absurd present absent
      · refine ⟨?_, fun present => absurd present absent⟩
        rw [lines_append_line ended newline_not_mem_marker]
        exact List.mem_append_right _ (List.mem_singleton_self marker)

theorem disable_clean_iff (bashrc : List Char) :
    TogglesCleanly bashrc false ↔ Toggleable bashrc false := by
  show lines '\n' (disable bashrc) = _ ↔ marker ∉ _
  rw [disable_eq]
  constructor
  · intro unchanged present
    rw [unchanged] at present
    have other : marker ≠ marker := of_decide_eq_true (List.mem_filter.mp present).2
    exact other rfl
  · intro absent
    refine (List.filter_eq_self.mpr fun line member => decide_eq_true ?_).symm
    rintro rfl
    exact absent member

/-! ### Runs -/

/-- The file in whose content the switch is used any number of times. -/
def machine (content : List Char) : Machine (List Char) Bool where
  start := content
  enabled _ _ := True
  step := onChanged

instance (content bashrc : List Char) (value : Bool) :
    Decidable ((machine content).enabled bashrc value) :=
  instDecidableTrue

/-- A marker line that is there once stays, and the file never changes again. -/
theorem after_of_mem {content : List Char} (present : marker ∈ lines '\n' content)
    (values : List Bool) : (machine content).after values = content := by
  refine Machine.Run.invariant (fun bashrc => bashrc = content) rfl ?_
    (Machine.Run.of_enabled (fun _ _ => trivial) values)
  rintro _ value rfl -
  cases value with
  | true => exact enable_of_grep (grep_of_mem present)
  | false => exact disable_eq _

/-- Every use of the switch toggles the file cleanly just when every use meets the condition. -/
theorem togglesCleanly_iff (content : List Char) (values : List Bool) :
    ((machine content).restrict TogglesCleanly).Run values ↔
      ((machine content).restrict Toggleable).Run values := by
  refine Machine.restrict_run_congr fun bashrc value => ?_
  cases value with
  | true => exact enable_clean_iff bashrc
  | false => exact disable_clean_iff bashrc

/-- Switched on and off again on an empty file. -/
theorem marker_left_behind :
    ¬((machine []).restrict TogglesCleanly).Run [true, false] ∧
      marker ∈ lines '\n' ((machine []).after [true, false]) := by
  decide +kernel

end TermPlux.WineSwitch
