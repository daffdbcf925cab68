/-
This file is the library for path texts. A text is split into components, and `.`
and `..` are resolved against the directory reached so far. Resolving a list of
components climbs a number of levels and then descends, whatever the directory it
starts from.
-/

import Mathlib.Data.List.Basic
import Mathlib.Data.List.Infix
import Mathlib.Data.List.TakeWhile

namespace TermPlux.Paths

abbrev Name := List Char

/-- An absolute path without `.` and `..`, from the root down. -/
abbrev Path := List Name

instance : LawfulBEq Path := inferInstance

/-! ### Components -/

def components (text : List Char) : List Name := (text.splitOn '/').filter (· ≠ [])

theorem components_append (first second : List Char) :
    components (first ++ '/' :: second) = components first ++ components second := by
  have divided : (first ++ '/' :: second).splitOn '/' = first.splitOn '/' ++ second.splitOn '/' :=
    List.splitOnP_append_cons first second (beq_self_eq_true '/')
  rw [components, divided, List.filter_append]
  rfl

@[simp] theorem components_nil : components [] = [] := rfl

theorem components_of_plain {text : List Char} (plain : '/' ∉ text) :
    components text = if text = [] then [] else [text] := by
  have single : text.splitOn '/' = [text] :=
    List.splitOnP_eq_singleton fun character member =>
      beq_false_of_ne fun same => plain (same ▸ member)
  rw [components, single]
  by_cases empty : text = []
  · simp [empty]
  · simp [empty]

/-- A text up to its last separator. -/
def directoryPart (text : List Char) : List Char :=
  (text.reverse.dropWhile fun character => character ≠ '/').reverse

/-- A text after its last separator. -/
def lastPart (text : List Char) : List Char :=
  (text.reverse.takeWhile fun character => character ≠ '/').reverse

theorem directoryPart_append_lastPart (text : List Char) :
    directoryPart text ++ lastPart text = text := by
  unfold directoryPart lastPart
  rw [← List.reverse_append, List.takeWhile_append_dropWhile, List.reverse_reverse]

theorem lastPart_plain (text : List Char) : '/' ∉ lastPart text := by
  unfold lastPart
  rw [List.mem_reverse]
  intro member
  exact absurd (List.mem_takeWhile_imp member) (by simp)

/-- A directory part is empty or ends in a separator. -/
theorem directoryPart_cases (text : List Char) :
    directoryPart text = [] ∨ ∃ front, directoryPart text = front ++ ['/'] := by
  unfold directoryPart
  cases rest : text.reverse.dropWhile fun character => decide (character ≠ '/') with
  | nil => exact .inl rfl
  | cons character others =>
    have separator : character = '/' := by
      have head := List.head?_dropWhile_not (fun character => decide (character ≠ '/')) text.reverse
      rw [rest] at head
      simpa using head
    exact .inr ⟨others.reverse, by rw [List.reverse_cons, separator]⟩

theorem components_directoryPart_append (text tail : List Char) :
    components (directoryPart text ++ tail) =
      components (directoryPart text) ++ components tail := by
  rcases directoryPart_cases text with empty | ⟨front, ends⟩
  · rw [empty]
    rfl
  · rw [ends, List.append_assoc, List.singleton_append, components_append, components_append,
      components_nil, List.append_nil]

/-! ### Resolution -/

def dot : Name := ['.']

def dotDot : Name := ['.', '.']

def resolveName (path : Path) (name : Name) : Path :=
  if name = dot then path else if name = dotDot then path.dropLast else path ++ [name]

def resolve (base : Path) (names : List Name) : Path := names.foldl resolveName base

/-- The path that an absolute text denotes. -/
def normalise (text : List Char) : Path := resolve [] (components text)

theorem resolve_append (base : Path) (first second : List Name) :
    resolve base (first ++ second) = resolve (resolve base first) second :=
  List.foldl_append

@[simp] theorem resolve_singleton (base : Path) (name : Name) :
    resolve base [name] = resolveName base name := rfl

/-- A list of components in normal form: levels to climb, then names to descend. -/
structure Relative where
  ups : Nat
  names : List Name

def Relative.step (relative : Relative) (name : Name) : Relative :=
  if name = dot then relative
  else if name = dotDot then
    if relative.names = [] then { relative with ups := relative.ups + 1 }
    else { relative with names := relative.names.dropLast }
  else { relative with names := relative.names ++ [name] }

def relativeForm (names : List Name) : Relative := names.foldl Relative.step ⟨0, []⟩

def Relative.apply (relative : Relative) (base : Path) : Path :=
  base.take (base.length - relative.ups) ++ relative.names

theorem Relative.apply_step (relative : Relative) (name : Name) (base : Path) :
    (relative.step name).apply base = resolveName (relative.apply base) name := by
  unfold Relative.step resolveName
  split
  · rfl
  · split
    · unfold Relative.apply
      split
      · next noNames =>
        have levels : min (min (base.length - relative.ups) base.length - 1)
            (base.length - relative.ups) = base.length - (relative.ups + 1) := by omega
        rw [noNames, List.append_nil, List.append_nil, List.dropLast_eq_take, List.take_take,
          List.length_take, levels]
      · next someNames => rw [List.dropLast_append_of_ne_nil someNames]
    · unfold Relative.apply
      rw [List.append_assoc]

theorem resolve_eq_apply (base : Path) (names : List Name) :
    resolve base names = (relativeForm names).apply base := by
  have general (relative : Relative) :
      names.foldl resolveName (relative.apply base) =
        (names.foldl Relative.step relative).apply base := by
    induction names generalizing relative with
    | nil => rfl
    | cons name rest inductionHypothesis =>
      rw [List.foldl_cons, List.foldl_cons, ← Relative.apply_step, inductionHypothesis]
  have start : (⟨0, []⟩ : Relative).apply base = base := by simp [Relative.apply]
  have resolved := general ⟨0, []⟩
  rw [start] at resolved
  exact resolved

end TermPlux.Paths
