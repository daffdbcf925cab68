/-
This file is the library for native code: the wrap-around of 32-bit `int`
arithmetic and counting loops. A result that fits is not wrapped, and a property
that every iteration carries from its counter to the next one holds after the
loop.
-/

import Mathlib.Algebra.Group.Int.Defs
import Mathlib.Algebra.Group.Nat.Defs
import Mathlib.Tactic.Common

namespace TermPlux.CLoops

/-- The `int` that a 32-bit computation leaves. -/
def wrap32 (value : Int) : Int := (value + 2 ^ 31) % 2 ^ 32 - 2 ^ 31

theorem wrap32_of_fits {value : Int} (above : -2 ^ 31 ≤ value) (below : value < 2 ^ 31) :
    wrap32 value = value := by
  unfold wrap32
  omega

/-- The wrapped sum of an `int` and a small offset is the sum where it is not negative. -/
theorem wrap32_add_of_nonneg {base : Int} {offset : Nat} (above : -2 ^ 31 ≤ base)
    (below : base < 2 ^ 31) (small : offset < 2 ^ 31) (nonneg : 0 ≤ wrap32 (base + offset)) :
    wrap32 (base + offset) = base + offset := by
  unfold wrap32 at *
  omega

theorem wrap32_bounds (value : Int) : -2 ^ 31 ≤ wrap32 value ∧ wrap32 value < 2 ^ 31 := by
  unfold wrap32
  omega

/-- `for (int index = 0; index < count; ++index)`. -/
def forLoop {State : Type} (count : Nat) (body : State → Nat → State) (state : State) : State :=
  match count with
  | 0 => state
  | count + 1 => body (forLoop count body state) count

/-- The rule for a counting loop. -/
theorem forLoop_invariant {State : Type} (holds : Nat → State → Prop) {count : Nat}
    {body : State → Nat → State} {state : State} (initially : holds 0 state)
    (kept : ∀ index < count, ∀ state, holds index state → holds (index + 1) (body state index)) :
    holds count (forLoop count body state) := by
  induction count with
  | zero => exact initially
  | succ count inductionHypothesis =>
    exact kept count (Nat.lt_succ_self count) _
      (inductionHypothesis fun index below => kept index (Nat.lt_succ_of_lt below))

end TermPlux.CLoops
