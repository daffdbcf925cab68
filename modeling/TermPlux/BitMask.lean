/-
This file is the library of bit masks: a mask is within another one when it sets
no other bits. Setting and clearing the bits of a button and the union of several
buttons are described bit by bit.
-/

import Mathlib.Data.BitVec
import Mathlib.Tactic.Common

namespace TermPlux.BitMask

variable {width : Nat} {mask other bound button rest : BitVec width}

/-- Every bit of the mask is one of the bound. -/
def Within (mask bound : BitVec width) : Prop := mask &&& ~~~bound = 0

instance (mask bound : BitVec width) : Decidable (Within mask bound) :=
  inferInstanceAs (Decidable (_ = _))

theorem within_iff :
    Within mask bound ↔ ∀ index, mask.getLsbD index = true → bound.getLsbD index = true := by
  constructor
  · intro within index set
    have bit := congrArg (·.getLsbD index) within
    have small := BitVec.lt_of_getLsbD set
    simpa [set, small] using bit
  · intro every
    ext index small
    have bit := every index
    simp only [BitVec.getLsbD_eq_getElem small] at bit
    simpa using bit

theorem within_zero : Within (0 : BitVec width) bound := within_iff.mpr fun _ set => by simp at set

theorem within_refl : Within mask mask := within_iff.mpr fun _ set => set

theorem Within.trans (first : Within mask other) (second : Within other bound) :
    Within mask bound :=
  within_iff.mpr fun index set => within_iff.mp second index (within_iff.mp first index set)

theorem Within.eq_zero (within : Within mask 0) : mask = 0 := by
  simpa [Within] using within

theorem Within.or_left (button : BitVec width) (within : Within mask bound) :
    Within mask (button ||| bound) :=
  within_iff.mpr fun index set => by
    rw [BitVec.getLsbD_or, within_iff.mp within index set, Bool.or_true]

/-- A button that goes down widens the bound by its bits. -/
theorem Within.press (button : BitVec width) (within : Within mask bound) :
    Within (mask ||| button) (button ||| bound) :=
  within_iff.mpr fun index set => by
    rw [BitVec.getLsbD_or, Bool.or_eq_true_iff] at set
    rw [BitVec.getLsbD_or, Bool.or_eq_true_iff]
    exact set.elim (fun held => .inr (within_iff.mp within index held)) .inl

/-- A button that goes up takes its bits from the bound. -/
theorem Within.release (within : Within mask (button ||| bound)) :
    Within (mask &&& ~~~button) bound :=
  within_iff.mpr fun index set => by
    rw [BitVec.getLsbD_and, BitVec.getLsbD_not, Bool.and_eq_true_iff, Bool.and_eq_true_iff,
      Bool.not_eq_true'] at set
    have either := within_iff.mp within index set.1
    rwa [BitVec.getLsbD_or, set.2.2, Bool.false_or] at either

/-- A button that goes down and up again sets nothing. -/
theorem within_click (mask button : BitVec width) :
    Within ((mask ||| button) &&& ~~~button) mask :=
  (within_refl.press button).release

/-- The bits of several buttons. -/
def union (masks : List (BitVec width)) : BitVec width := masks.foldr (· ||| ·) 0

@[simp] theorem union_cons (mask : BitVec width) (masks : List (BitVec width)) :
    union (mask :: masks) = mask ||| union masks := rfl

theorem union_perm {first second : List (BitVec width)} (same : first.Perm second) :
    union first = union second := by
  induction same with
  | nil => rfl
  | cons mask _ inductionHypothesis => rw [union_cons, union_cons, inductionHypothesis]
  | swap one two rest =>
    simp only [union_cons, ← BitVec.or_assoc, BitVec.or_comm one two]
  | trans _ _ firstHypothesis secondHypothesis => exact firstHypothesis.trans secondHypothesis

end TermPlux.BitMask
