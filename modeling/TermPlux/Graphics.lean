/-
This file models the points and rectangles of `android.graphics`, with exact
rational coordinates, and the conversion of a coordinate to an integer.
-/

import Mathlib.Data.Rat.Defs
import Mathlib.Algebra.Order.Ring.Rat
import Mathlib.Tactic.NormNum
import TermPlux.Placement

namespace TermPlux

/-! ### Points -/

/-- `android.graphics.PointF`. -/
structure PointF where
  x : ℚ
  y : ℚ
  deriving DecidableEq

/-- `Float.toInt`: towards zero, within 32 bits. -/
def toInt (value : ℚ) : Int := coerceIn (value.num.tdiv value.den) (-2 ^ 31) (2 ^ 31 - 1)

/-! ### Rectangles -/

/-- `android.graphics.RectF`. -/
structure RectF where
  left : ℚ
  top : ℚ
  right : ℚ
  bottom : ℚ
  deriving DecidableEq

namespace RectF

def isEmpty (rect : RectF) : Bool :=
  decide (rect.right ≤ rect.left) || decide (rect.bottom ≤ rect.top)

/-- `RectF.intersect`: the intersection, or nothing when the method returns false and leaves
the rectangle alone. -/
def intersect (rect : RectF) (left top right bottom : ℚ) : Option RectF :=
  if rect.left < right ∧ left < rect.right ∧ rect.top < bottom ∧ top < rect.bottom then
    some
      { left := max rect.left left, top := max rect.top top
        right := min rect.right right, bottom := min rect.bottom bottom }
  else none

def width (rect : RectF) : ℚ := rect.right - rect.left

def height (rect : RectF) : ℚ := rect.bottom - rect.top

def centerX (rect : RectF) : ℚ := (rect.left + rect.right) / 2

def centerY (rect : RectF) : ℚ := (rect.top + rect.bottom) / 2

/-- One rectangle lies entirely on one side of the other. -/
def Apart (first second : RectF) : Prop :=
  first.right ≤ second.left ∨ second.right ≤ first.left ∨
    first.bottom ≤ second.top ∨ second.bottom ≤ first.top

/-- A rectangle that has no negative extent and lies inside another one. -/
structure Within (inner outer : RectF) : Prop where
  left : outer.left ≤ inner.left
  top : outer.top ≤ inner.top
  right : inner.right ≤ outer.right
  bottom : inner.bottom ≤ outer.bottom
  width : inner.left ≤ inner.right
  height : inner.top ≤ inner.bottom

/-- A successful intersection lies inside the given rectangle, provided that neither rectangle
has a negative extent. -/
theorem within_of_intersect {rect result : RectF} {left top right bottom : ℚ}
    (nonempty : rect.isEmpty = false) (width : left ≤ right) (height : top ≤ bottom)
    (intersects : rect.intersect left top right bottom = some result) :
    result.Within ⟨left, top, right, bottom⟩ := by
  simp only [isEmpty, Bool.or_eq_false_iff, decide_eq_false_iff_not, not_le] at nonempty
  unfold intersect at intersects
  split at intersects
  · rename_i overlap
    obtain ⟨beforeRight, afterLeft, beforeBottom, afterTop⟩ := overlap
    cases intersects
    exact
      { left := le_max_right _ _
        top := le_max_right _ _
        right := min_le_right _ _
        bottom := min_le_right _ _
        width := max_le (le_min nonempty.1.le beforeRight.le) (le_min afterLeft.le width)
        height := max_le (le_min nonempty.2.le beforeBottom.le) (le_min afterTop.le height) }
  · cases intersects

theorem intersect_of_apart {rect : RectF} {left top right bottom : ℚ}
    (apart : rect.Apart ⟨left, top, right, bottom⟩) :
    rect.intersect left top right bottom = none := by
  refine if_neg fun ⟨beforeRight, afterLeft, beforeBottom, afterTop⟩ => ?_
  rcases apart with side | side | side | side
  · exact absurd afterLeft (not_lt.mpr side)
  · exact absurd beforeRight (not_lt.mpr side)
  · exact absurd afterTop (not_lt.mpr side)
  · exact absurd beforeBottom (not_lt.mpr side)

end RectF

end TermPlux
