/-
This file is the library for draining an accumulator: as long as it holds at least
one portion, in either direction, a portion is taken out and a step is made for it.
The loop ends because every round takes a whole portion away.
-/

import Mathlib.Algebra.Order.Archimedean.Basic
import Mathlib.Algebra.Order.Floor.Semiring

namespace TermPlux

variable {Scalar State : Type} [Field Scalar] [LinearOrder Scalar]

/-- A whole portion less leaves fewer portions. -/
theorem floor_sub_portion_lt [IsStrictOrderedRing Scalar] [FloorSemiring Scalar]
    {portion amount : Scalar} (positive : 0 < portion) (enough : portion ≤ amount) :
    ⌊(amount - portion) / portion⌋₊ < ⌊amount / portion⌋₊ := by
  have one : 1 ≤ amount / portion := (one_le_div positive).mpr enough
  rw [sub_div, div_self positive.ne', Nat.floor_sub_one]
  exact Nat.sub_lt (Nat.floor_pos.mpr one) Nat.one_pos

/-- Drains the accumulator towards zero, making a step for each portion taken. -/
def drain [IsStrictOrderedRing Scalar] [FloorSemiring Scalar] {portion : Scalar}
    (positive : 0 < portion) (above below : State → State) (accumulated : Scalar)
    (state : State) : Scalar × State :=
  if portion ≤ |accumulated| then
    if 0 < accumulated then
      drain positive above below (accumulated - portion) (above state)
    else drain positive above below (accumulated + portion) (below state)
  else (accumulated, state)
termination_by ⌊|accumulated| / portion⌋₊
decreasing_by
  · rename_i enough up
    rw [abs_of_pos up] at enough ⊢
    rw [abs_of_nonneg (sub_nonneg.mpr enough)]
    exact floor_sub_portion_lt positive enough
  · rename_i enough down
    rw [abs_of_nonpos (not_lt.mp down)] at enough ⊢
    rw [abs_of_nonpos (by linarith), neg_add']
    exact floor_sub_portion_lt positive enough

/-- What every step keeps, draining keeps. -/
theorem drain_keeps [IsStrictOrderedRing Scalar] [FloorSemiring Scalar] {portion : Scalar}
    {positive : 0 < portion} {above below : State → State} (holds : State → Prop)
    (keepsAbove : ∀ state, holds state → holds (above state))
    (keepsBelow : ∀ state, holds state → holds (below state)) (accumulated : Scalar)
    (state : State) (initially : holds state) :
    holds (drain positive above below accumulated state).2 := by
  induction accumulated, state using drain.induct positive above below with
  | case1 accumulated state enough up inductionHypothesis =>
    rw [drain, if_pos enough, if_pos up]
    exact inductionHypothesis (keepsAbove state initially)
  | case2 accumulated state enough down inductionHypothesis =>
    rw [drain, if_pos enough, if_neg down]
    exact inductionHypothesis (keepsBelow state initially)
  | case3 accumulated state short =>
    rw [drain, if_neg short]
    exact initially

/-! ### The rounds -/

variable [IsStrictOrderedRing Scalar] [FloorSemiring Scalar]

/-- The rounds that draining takes. -/
def rounds (portion accumulated : Scalar) : ℕ := ⌊|accumulated| / portion⌋₊

theorem rounds_of_short {portion accumulated : Scalar} (positive : 0 < portion)
    (short : ¬portion ≤ |accumulated|) : rounds portion accumulated = 0 :=
  Nat.floor_eq_zero.mpr ((div_lt_one positive).mpr (not_le.mp short))

theorem rounds_zero (portion : Scalar) : rounds portion (0 : Scalar) = 0 := by
  unfold rounds
  rw [abs_zero, zero_div, Nat.floor_zero]

/-- A round leaves one round less. -/
theorem rounds_succ {portion left accumulated : Scalar} (positive : 0 < portion)
    (less : |left| = |accumulated| - portion) :
    rounds portion accumulated = rounds portion left + 1 := by
  have enough : portion ≤ |accumulated| := by
    have nonneg := abs_nonneg left
    rw [less] at nonneg
    exact sub_nonneg.mp nonneg
  have one : 1 ≤ |accumulated| / portion := (one_le_div positive).mpr enough
  unfold rounds
  rw [less, sub_div, div_self positive.ne', Nat.floor_sub_one]
  exact (Nat.sub_add_cancel (Nat.floor_pos.mpr one)).symm

/-- Draining takes all its portions from one side. -/
theorem drain_eq {portion : Scalar} (positive : 0 < portion) (above below : State → State)
    (accumulated : Scalar) (state : State) :
    drain positive above below accumulated state =
      if 0 < accumulated then
        (accumulated - rounds portion accumulated * portion,
          above^[rounds portion accumulated] state)
      else
        (accumulated + rounds portion accumulated * portion,
          below^[rounds portion accumulated] state) := by
  induction accumulated, state using drain.induct positive above below with
  | case1 accumulated state enough up inductionHypothesis =>
    rw [drain, if_pos enough, if_pos up, if_pos up, inductionHypothesis]
    rw [abs_of_pos up] at enough
    have left : |accumulated - portion| = |accumulated| - portion := by
      rw [abs_of_pos up, abs_of_nonneg (sub_nonneg.mpr enough)]
    rw [rounds_succ positive left]
    split
    · exact Prod.ext (by push_cast; ring) (Function.iterate_succ_apply ..).symm
    next empty =>
      have none : accumulated - portion = 0 := le_antisymm (not_lt.mp empty) (sub_nonneg.mpr enough)
      rw [none, rounds_zero, sub_eq_zero.mp none]
      simp
  | case2 accumulated state enough down inductionHypothesis =>
    rw [drain, if_pos enough, if_neg down, if_neg down, inductionHypothesis]
    rw [abs_of_nonpos (not_lt.mp down)] at enough
    have below : accumulated + portion ≤ 0 := by linarith
    have left : |accumulated + portion| = |accumulated| - portion := by
      rw [abs_of_nonpos (not_lt.mp down), abs_of_nonpos below]
      ring
    rw [rounds_succ positive left, if_neg (not_lt.mpr below)]
    exact Prod.ext (by push_cast; ring) (Function.iterate_succ_apply ..).symm
  | case3 accumulated state short =>
    rw [drain, if_neg short, rounds_of_short positive short]
    split <;> simp

/-- What is left is less than a portion, on the side it was on. -/
theorem abs_drain_lt {portion : Scalar} (positive : 0 < portion) (above below : State → State)
    (accumulated : Scalar) (state : State) :
    |(drain positive above below accumulated state).1| < portion := by
  have taken : (rounds portion accumulated : Scalar) * portion ≤ |accumulated| :=
    (le_div_iff₀ positive).mp (Nat.floor_le (div_nonneg (abs_nonneg _) positive.le))
  have rest : |accumulated| < (rounds portion accumulated + 1 : Scalar) * portion :=
    (div_lt_iff₀ positive).mp (Nat.lt_floor_add_one _)
  rw [drain_eq]
  split
  next up =>
    rw [abs_of_pos up] at taken rest
    rw [abs_lt]
    constructor <;> linarith
  next down =>
    rw [abs_of_nonpos (not_lt.mp down)] at taken rest
    rw [abs_lt]
    constructor <;> linarith

/-- Draining commutes with a map that commutes with the steps. -/
theorem drain_map {Image : Type} {portion : Scalar} (positive : 0 < portion)
    {above below : State → State} {aboveImage belowImage : Image → Image} (image : State → Image)
    (imageAbove : ∀ state, image (above state) = aboveImage (image state))
    (imageBelow : ∀ state, image (below state) = belowImage (image state)) (accumulated : Scalar)
    (state : State) :
    ((drain positive above below accumulated state).1,
        image (drain positive above below accumulated state).2) =
      drain positive aboveImage belowImage accumulated (image state) := by
  rw [drain_eq, drain_eq]
  split
  · exact Prod.ext rfl (Function.Semiconj.iterate_right imageAbove _ state)
  · exact Prod.ext rfl (Function.Semiconj.iterate_right imageBelow _ state)

end TermPlux
