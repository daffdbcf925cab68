/-
This file is a library for loops that try one candidate after another until one
is free. A loop with a test ends in the state in which the test first fails. If
each candidate that is taken accounts for an item of its own in a list, one of
the first candidates, as many as the list is long and one more, is free.
-/

import Mathlib.Data.List.Nodup
import Mathlib.Data.List.Range
import Mathlib.Data.Nat.Find
import Mathlib.Logic.Function.Iterate
import Mathlib.Order.Basic

namespace TermPlux.CandidateSearch

variable {State Item : Type}

/-- `while (condition) state = body(state)`, for a number of tests of the condition. -/
def whileLoop (condition : State → Bool) (body : State → State) : Nat → State → Option State
  | 0, _ => none
  | tests + 1, state =>
    if condition state then whileLoop condition body tests (body state) else some state

/-- The loop ends in the state in which its test first fails. -/
theorem whileLoop_eq_some {condition : State → Bool} {body : State → State} {rounds : Nat}
    {state : State} (runs : ∀ round < rounds, condition (body^[round] state) = true)
    (stops : condition (body^[rounds] state) = false) {tests : Nat} (enough : rounds < tests) :
    whileLoop condition body tests state = some (body^[rounds] state) := by
  induction rounds generalizing state tests with
  | zero =>
    obtain ⟨more, rfl⟩ := Nat.exists_eq_succ_of_ne_zero (Nat.ne_of_gt enough)
    exact if_neg (Bool.eq_false_iff.mp stops)
  | succ rounds inductionHypothesis =>
    obtain ⟨more, rfl⟩ := Nat.exists_eq_succ_of_ne_zero (Nat.ne_of_gt (Nat.zero_lt_of_lt enough))
    refine (if_pos (runs 0 (Nat.succ_pos rounds))).trans ?_
    refine inductionHypothesis (fun round below => ?_) stops (Nat.lt_of_succ_lt_succ enough)
    exact runs (round + 1) (Nat.succ_lt_succ below)

/-- A list cannot hold more distinct items than it is long. -/
theorem exists_free {taken : Nat → Prop} {item : Nat → Item} {items : List Item}
    (distinct : Function.Injective item) (listed : ∀ number, taken number → item number ∈ items) :
    ∃ number ≤ items.length, ¬taken number := by
  by_contra none
  have all : ∀ number ≤ items.length, taken number := fun number small =>
    not_not.mp fun free => none ⟨number, small, free⟩
  have nodup : ((List.range (items.length + 1)).map item).Nodup :=
    List.nodup_range.map distinct
  have within : (List.range (items.length + 1)).map item ⊆ items := by
    intro held member
    obtain ⟨number, small, rfl⟩ := List.mem_map.mp member
    exact listed number (all number (Nat.lt_succ_iff.mp (List.mem_range.mp small)))
  have tooMany := nodup.length_le_of_subset within
  rw [List.length_map, List.length_range] at tooMany
  exact Nat.not_succ_le_self _ tooMany

/-- The first candidate that is free comes no later than any other free one. -/
theorem exists_first (taken : Nat → Prop) [DecidablePred taken] {number : Nat}
    (free : ¬taken number) : ∃ first ≤ number, ¬taken first ∧ ∀ earlier < first, taken earlier := by
  have some : ∃ number, ¬taken number := ⟨number, free⟩
  refine ⟨Nat.find some, Nat.find_min' some free, Nat.find_spec some, fun earlier before => ?_⟩
  exact not_not.mp (Nat.find_min some before)

end TermPlux.CandidateSearch
