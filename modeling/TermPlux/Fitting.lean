/-
This file is a library for fitting a rectangle into another one by scaling it. The
scales at which it fits are those up to the smaller of the two ratios of the
edges, and at that scale it fills one of the edges.
-/

import Mathlib.Algebra.Order.Field.Basic
import Mathlib.Tactic.Common

namespace TermPlux

variable {Scale : Type} [Field Scale] [LinearOrder Scale] [IsStrictOrderedRing Scale]

/-- A scaled rectangle fits into another one. -/
def Fits (scale width height outerWidth outerHeight : Scale) : Prop :=
  width * scale ≤ outerWidth ∧ height * scale ≤ outerHeight

/-- A scaled rectangle is as wide or as high as another one. -/
def Fills (scale width height outerWidth outerHeight : Scale) : Prop :=
  width * scale = outerWidth ∨ height * scale = outerHeight

/-- The smaller of the two ratios of the edges. -/
def fitScale (width height outerWidth outerHeight : Scale) : Scale :=
  min (outerWidth / width) (outerHeight / height)

variable {scale width height outerWidth outerHeight : Scale}

theorem fits_iff_le_fitScale (wide : 0 < width) (high : 0 < height) :
    Fits scale width height outerWidth outerHeight ↔
      scale ≤ fitScale width height outerWidth outerHeight := by
  unfold Fits fitScale
  rw [le_min_iff, le_div_iff₀ wide, le_div_iff₀ high, mul_comm width, mul_comm height]

theorem fits_fitScale (wide : 0 < width) (high : 0 < height) :
    Fits (fitScale width height outerWidth outerHeight) width height outerWidth outerHeight :=
  (fits_iff_le_fitScale wide high).mpr le_rfl

theorem not_fits_of_fitScale_lt (wide : 0 < width) (high : 0 < height)
    (larger : fitScale width height outerWidth outerHeight < scale) :
    ¬Fits scale width height outerWidth outerHeight := fun fits =>
  not_le_of_gt larger ((fits_iff_le_fitScale wide high).mp fits)

omit [IsStrictOrderedRing Scale] in
theorem fills_fitScale (wide : 0 < width) (high : 0 < height) :
    Fills (fitScale width height outerWidth outerHeight) width height outerWidth outerHeight := by
  unfold Fills fitScale
  rcases min_choice (outerWidth / width) (outerHeight / height) with first | second
  · rw [first]
    exact .inl (mul_div_cancel₀ outerWidth wide.ne')
  · rw [second]
    exact .inr (mul_div_cancel₀ outerHeight high.ne')

end TermPlux
