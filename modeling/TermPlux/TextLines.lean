/-
This file is the library for texts as lines. A text is a list of symbols in which
a newline ends each line; what follows the last newline is a line too unless it
is empty. Every text is finished lines and an unfinished rest, and the lines of a
text are read off these two. Appending a finished line adds it to the lines of a
text that is empty or ends with a newline, and otherwise makes the unfinished
rest longer.
-/

import Mathlib.Data.List.Basic

namespace TermPlux.TextLines

variable {Symbol : Type} [DecidableEq Symbol] {newline : Symbol}

/-- The lines of a text, without their newlines. -/
def lines (newline : Symbol) (text : List Symbol) : List (List Symbol) :=
  if (text.splitOn newline).getLast? = some [] then (text.splitOn newline).dropLast
  else text.splitOn newline

/-- Nothing follows the last newline. -/
def Ended (newline : Symbol) (text : List Symbol) : Prop :=
  text = [] ∨ text.getLast? = some newline

instance (newline : Symbol) (text : List Symbol) : Decidable (Ended newline text) :=
  inferInstanceAs (Decidable (_ ∨ _))

/-! ### Finished lines and the unfinished rest -/

def joined (newline : Symbol) (finished : List (List Symbol)) (rest : List Symbol) :
    List Symbol :=
  finished.flatMap (fun line => line ++ [newline]) ++ rest

omit [DecidableEq Symbol] in
theorem joined_cons (line : List Symbol) (finished : List (List Symbol)) (rest : List Symbol) :
    joined newline (line :: finished) rest = line ++ newline :: joined newline finished rest := by
  unfold joined
  rw [List.flatMap_cons, List.append_assoc, List.append_assoc, List.singleton_append]

omit [DecidableEq Symbol] in
theorem joined_append_line (finished : List (List Symbol)) (rest line : List Symbol) :
    joined newline finished rest ++ (line ++ [newline]) =
      joined newline (finished ++ [rest ++ line]) [] := by
  simp only [joined, List.flatMap_append, List.flatMap_singleton, List.append_assoc,
    List.append_nil]

theorem exists_joined (newline : Symbol) (text : List Symbol) :
    ∃ finished rest, (∀ line ∈ finished, newline ∉ line) ∧ newline ∉ rest ∧
      joined newline finished rest = text := by
  induction text with
  | nil => exact ⟨[], [], fun _ member => absurd member List.not_mem_nil, List.not_mem_nil, rfl⟩
  | cons symbol text inductionHypothesis =>
    obtain ⟨finished, rest, clean, open_, rfl⟩ := inductionHypothesis
    by_cases ends : symbol = newline
    · subst ends
      refine ⟨[] :: finished, rest, ?_, open_, joined_cons [] finished rest⟩
      exact List.forall_mem_cons.mpr ⟨List.not_mem_nil, clean⟩
    · have longer {line : List Symbol} (outside : newline ∉ line) : newline ∉ symbol :: line :=
        fun member => (List.mem_cons.mp member).elim (fun same => ends same.symm) outside
      cases finished with
      | nil => exact ⟨[], symbol :: rest, clean, longer open_, rfl⟩
      | cons first others =>
        obtain ⟨outside, clean⟩ := List.forall_mem_cons.mp clean
        refine ⟨(symbol :: first) :: others, rest, ?_, open_, ?_⟩
        · exact List.forall_mem_cons.mpr ⟨longer outside, clean⟩
        · rw [joined_cons, joined_cons, List.cons_append]

section

variable {finished : List (List Symbol)} {rest : List Symbol}
  (clean : ∀ line ∈ finished, newline ∉ line) (open_ : newline ∉ rest)

include clean open_

theorem splitOn_joined :
    (joined newline finished rest).splitOn newline = finished ++ [rest] := by
  induction finished with
  | nil => exact List.splitOn_eq_singleton open_
  | cons line others inductionHypothesis =>
    obtain ⟨outside, clean⟩ := List.forall_mem_cons.mp clean
    rw [joined_cons, List.splitOn_append_cons_self_of_not_mem outside,
      inductionHypothesis clean, List.cons_append]

theorem lines_joined :
    lines newline (joined newline finished rest) =
      finished ++ if rest = [] then [] else [rest] := by
  unfold lines
  rw [splitOn_joined clean open_, List.getLast?_concat, List.dropLast_concat]
  by_cases empty : rest = []
  · rw [if_pos (congrArg some empty), if_pos empty, List.append_nil]
  · rw [if_neg fun same => empty (Option.some.inj same), if_neg empty]

omit [DecidableEq Symbol] in
theorem ended_joined_iff : Ended newline (joined newline finished rest) ↔ rest = [] := by
  constructor
  · intro ended
    by_contra some_
    have last : (joined newline finished rest).getLast? = rest.getLast? :=
      List.getLast?_append_of_ne_nil _ some_
    rcases ended with empty | ends
    · exact some_ (List.append_eq_nil_iff.mp empty).2
    · exact open_ (List.mem_of_getLast? (last.symm.trans ends))
  · rintro rfl
    rcases List.eq_nil_or_concat finished with rfl | ⟨others, line, rfl⟩
    · exact Or.inl rfl
    · refine Or.inr ?_
      rw [joined, List.append_nil, List.concat_eq_append, List.flatMap_append,
        List.flatMap_singleton, ← List.append_assoc, List.getLast?_concat]

end

/-! ### Appending a line -/

/-- A line that is appended to a text whose lines are ended becomes its last line. -/
theorem lines_append_line {text line : List Symbol} (ended : Ended newline text)
    (outside : newline ∉ line) :
    lines newline (text ++ (line ++ [newline])) = lines newline text ++ [line] := by
  obtain ⟨finished, rest, clean, open_, rfl⟩ := exists_joined newline text
  obtain rfl := (ended_joined_iff clean open_).mp ended
  have longer : ∀ other ∈ finished ++ [[] ++ line], newline ∉ other :=
    List.forall_mem_append.mpr ⟨clean, List.forall_mem_singleton.mpr outside⟩
  rw [joined_append_line, lines_joined longer open_, lines_joined clean open_, if_pos rfl,
    List.append_nil, List.append_nil, List.nil_append]

/-- Otherwise it goes to the end of the last line. -/
theorem exists_lines_append_line {text line : List Symbol} (unended : ¬Ended newline text)
    (outside : newline ∉ line) :
    ∃ others last, last ≠ [] ∧ lines newline text = others ++ [last] ∧
      lines newline (text ++ (line ++ [newline])) = others ++ [last ++ line] := by
  obtain ⟨finished, rest, clean, open_, rfl⟩ := exists_joined newline text
  have some_ : rest ≠ [] := fun empty => unended ((ended_joined_iff clean open_).mpr empty)
  have longer : ∀ other ∈ finished ++ [rest ++ line], newline ∉ other :=
    List.forall_mem_append.mpr ⟨clean, List.forall_mem_singleton.mpr
      fun member => (List.mem_append.mp member).elim open_ outside⟩
  refine ⟨finished, rest, some_, ?_, ?_⟩
  · rw [lines_joined clean open_, if_neg some_]
  · rw [joined_append_line, lines_joined longer List.not_mem_nil, if_pos rfl, List.append_nil]

/-! ### Deleting lines -/

/-- Deletes lines together with their newlines. -/
def deleteLines (newline : Symbol) (matching : List Symbol → Bool) (text : List Symbol) :
    List Symbol :=
  let pieces := text.splitOn newline
  let rest := pieces.getLastD []
  joined newline (pieces.dropLast.filter fun line => !matching line)
    (if matching rest then [] else rest)

end TermPlux.TextLines
