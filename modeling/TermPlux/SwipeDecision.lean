/-
This file asks whether the decision between swipe and scale depends only on the
angle between the paths of the two fingers, that is, whether it survives a turn
of both paths. The detector takes the plain difference of the two directions,
which lie in one full turn. A turn that carries one of them past a full turn but
not the other replaces the difference by what it lacks of a full turn, and then
the decision survives only where both call for a scale.
-/

import TermPlux.TouchRuns
import Mathlib.Data.Rat.Floor
import Mathlib.Tactic.Linarith
import Mathlib.Tactic.LinearCombination

namespace TermPlux

/-! ### Directions -/

/-- A direction in degrees, after a turn by some angle. -/
def turned (angle direction : ℚ) : ℚ := 360 * Int.fract ((direction + angle) / 360)

/-- The full turns that the turned direction leaves out. -/
def fullTurns (angle direction : ℚ) : ℤ := ⌊(direction + angle) / 360⌋

theorem turned_eq (angle direction : ℚ) :
    turned angle direction = direction + angle - 360 * fullTurns angle direction := by
  unfold turned fullTurns
  rw [Int.fract]
  ring

theorem turned_mem (angle direction : ℚ) :
    0 ≤ turned angle direction ∧ turned angle direction < 360 := by
  unfold turned
  have nonneg := Int.fract_nonneg ((direction + angle) / 360)
  have below := Int.fract_lt_one ((direction + angle) / 360)
  constructor <;> linarith

/-- The difference of two turned directions is that of the directions, or what that lacks of a
full turn. -/
theorem abs_turned_sub {first second : ℚ} (firstMem : 0 ≤ first ∧ first < 360)
    (secondMem : 0 ≤ second ∧ second < 360) (angle : ℚ) :
    |turned angle first - turned angle second| =
      if fullTurns angle first = fullTurns angle second then |first - second|
      else 360 - |first - second| := by
  have difference : turned angle first - turned angle second =
      first - second - 360 * ((fullTurns angle first - fullTurns angle second : ℤ) : ℚ) := by
    rw [turned_eq, turned_eq, Int.cast_sub]
    ring
  have firstTurned := turned_mem angle first
  have secondTurned := turned_mem angle second
  split
  next same =>
    rw [difference, same, sub_self, Int.cast_zero, mul_zero, sub_zero]
  next differ =>
    rw [difference]
    generalize turns : fullTurns angle first - fullTurns angle second = count at difference
    have low : -2 < count := by
      have : (-2 : ℚ) < count := by linarith
      exact_mod_cast this
    have high : count < 2 := by
      have : (count : ℚ) < 2 := by linarith
      exact_mod_cast this
    have nonzero : count ≠ 0 := fun none => differ (sub_eq_zero.mp (turns.trans none))
    obtain rfl | rfl : count = 1 ∨ count = -1 := by omega
    · rw [Int.cast_one] at difference ⊢
      rw [abs_of_nonpos (by linarith), abs_of_nonneg (by linarith)]
      ring
    · rw [Int.cast_neg, Int.cast_one] at difference ⊢
      rw [abs_of_nonneg (by linarith), abs_of_nonpos (by linarith)]
      ring

/-- What a difference lacks of a full turn calls for the same gesture just when both call for a
scale. -/
theorem thresholds_iff {difference : ℚ} :
    ((45 < 360 - difference ↔ 45 < difference) ∧ (360 - difference < 30 ↔ difference < 30)) ↔
      45 < difference ∧ difference < 315 := by
  constructor
  · rintro ⟨scale, swipe⟩
    by_cases large : 45 < difference
    · exact ⟨large, by linarith [scale.mpr large]⟩
    · exact absurd (scale.mp (by linarith)) large
  · rintro ⟨low, high⟩
    refine ⟨iff_of_true (by linarith) low, iff_of_false ?_ ?_⟩ <;> exact not_lt.mpr (by linarith)

/-! ### The decision -/

/-- The platform that sees every path turned by an angle. -/
def TouchSettings.turned (settings : TouchSettings) (angle : ℚ) : TouchSettings :=
  { settings with
    theta := fun start current => TermPlux.turned angle (settings.theta start current) }

namespace TouchHandler

/-- What the detector answers once it has decided: whether it is a scale, and a swipe. -/
def decision (settings : TouchSettings) (handler : TouchHandler) : Bool × Bool :=
  ((handler.decideSwipeVsScale settings).shouldScale settings,
    (handler.decideSwipeVsScale settings).shouldSwipe settings)

/-- The directions of the paths of the two fingers. -/
def firstDirection (settings : TouchSettings) (handler : TouchHandler) : ℚ :=
  settings.theta handler.swipeVsScale.f1Start handler.swipeVsScale.f1Current

def secondDirection (settings : TouchSettings) (handler : TouchHandler) : ℚ :=
  settings.theta handler.swipeVsScale.f2Start handler.swipeVsScale.f2Current

variable {settings : TouchSettings} {handler : TouchHandler}

theorem decision_of_disabled (disabled : settings.swipeVsScaleEnabled = false) :
    handler.decision settings = (true, true) := by
  unfold decision shouldScale shouldSwipe
  rw [disabled]
  rfl

theorem decision_of_not_detecting (enabled : settings.swipeVsScaleEnabled = true)
    (idle : handler.swipeVsScale.detecting = false) :
    handler.decision settings = (false, false) := by
  unfold decision shouldScale shouldSwipe decideSwipeVsScale
  simp [enabled, idle]

/-- While two fingers are down, the difference of their directions decides. -/
theorem decision_of_detecting (enabled : settings.swipeVsScaleEnabled = true)
    (detecting : handler.swipeVsScale.detecting = true) :
    ((handler.decision settings).1 = true ↔
        45 < |handler.firstDirection settings - handler.secondDirection settings|) ∧
      ((handler.decision settings).2 = true ↔
        |handler.firstDirection settings - handler.secondDirection settings| < 30) := by
  unfold decision shouldScale shouldSwipe decideSwipeVsScale
  simp only [enabled, detecting, Bool.not_true, Bool.false_or, Bool.true_and, Bool.false_eq_true,
    if_false]
  exact ⟨decide_eq_true_iff, decide_eq_true_iff⟩

/-- The decision survives a turn of both paths just when the detector is off or no two fingers
are down, when the turn leaves out as many full turns of both directions, or when the directions
call for a scale either way round. -/
theorem decision_turned_iff (settings : TouchSettings)
    (oneTurn : ∀ start current, 0 ≤ settings.theta start current ∧
      settings.theta start current < 360) (handler : TouchHandler) (angle : ℚ) :
    handler.decision (settings.turned angle) = handler.decision settings ↔
      settings.swipeVsScaleEnabled = false ∨ handler.swipeVsScale.detecting = false ∨
        fullTurns angle (handler.firstDirection settings) =
          fullTurns angle (handler.secondDirection settings) ∨
        45 < |handler.firstDirection settings - handler.secondDirection settings| ∧
          |handler.firstDirection settings - handler.secondDirection settings| < 315 := by
  by_cases enabled : settings.swipeVsScaleEnabled = true
  · by_cases detecting : handler.swipeVsScale.detecting = true
    · have before := decision_of_detecting enabled detecting
      have after := @decision_of_detecting (settings.turned angle) handler enabled detecting
      have difference : |handler.firstDirection (settings.turned angle) -
          handler.secondDirection (settings.turned angle)| = _ :=
        abs_turned_sub (oneTurn _ _) (oneTurn _ _) angle
      change _ = if fullTurns angle (handler.firstDirection settings) =
          fullTurns angle (handler.secondDirection settings) then
          |handler.firstDirection settings - handler.secondDirection settings|
        else 360 - |handler.firstDirection settings - handler.secondDirection settings|
        at difference
      rw [Prod.ext_iff, Bool.eq_iff_iff, before.1, after.1, Bool.eq_iff_iff, before.2, after.2,
        difference]
      split
      next same => exact iff_of_true ⟨Iff.rfl, Iff.rfl⟩ (.inr (.inr (.inl same)))
      next differ =>
        rw [thresholds_iff]
        simp [enabled, detecting, differ]
    · have idle := Bool.eq_false_iff.mpr detecting
      refine iff_of_true ?_ (.inr (.inl idle))
      exact (@decision_of_not_detecting (settings.turned angle) handler enabled idle).trans
        (decision_of_not_detecting enabled idle).symm
  · have disabled := Bool.eq_false_iff.mpr enabled
    refine iff_of_true ?_ (.inl disabled)
    exact (@decision_of_disabled (settings.turned angle) handler disabled).trans
      (decision_of_disabled disabled).symm

/-- The direction of a path along one of the eight winds. -/
def compass (start current : PointF) : ℚ :=
  if current.y = start.y then if start.x ≤ current.x then 0 else 180
  else if start.y < current.y then
    if current.x = start.x then 90 else if start.x < current.x then 45 else 135
  else if current.x = start.x then 270
  else if start.x < current.x then 315 else 225

def compassSettings : TouchSettings := .of defaultInput 34 300 compass

theorem compass_mem (start current : PointF) :
    0 ≤ compassSettings.theta start current ∧ compassSettings.theta start current < 360 := by
  show 0 ≤ compass start current ∧ compass start current < 360
  unfold compass
  split_ifs <;> decide

def fingersEvent (action : MotionAction) (first second : PointF) : MotionEvent :=
  { device := { id := 3, isStylus := false, isMouse := false, toolType := .finger }
    action, first := { id := 0, point := first }, others := [{ id := 1, point := second }] }

/-- Two fingers are put down, and move to the right and to some point. -/
def twoFingers (second : PointF) : TouchHandler :=
  (cornerPointers.start.handler.swipeVsScaleTouch compassSettings
    (fingersEvent .pointerDown ⟨0, 0⟩ ⟨0, 100⟩)).swipeVsScaleTouch compassSettings
    (fingersEvent .move ⟨50, 0⟩ second)

/-- Fingers that move at a right angle. -/
theorem decision_turned_right_angle :
    (twoFingers ⟨0, 150⟩).decision (compassSettings.turned 300) =
      (twoFingers ⟨0, 150⟩).decision compassSettings :=
  (decision_turned_iff compassSettings compass_mem (twoFingers ⟨0, 150⟩) 300).mpr
    (by decide +kernel)

/-- Fingers that move to the right and to the upper right scale. After a turn by half of a right
angle, they neither scale nor swipe. -/
theorem decision_turned_differs :
    (∀ start current, 0 ≤ compassSettings.theta start current ∧
        compassSettings.theta start current < 360) ∧
      (twoFingers ⟨50, 50⟩).decision compassSettings = (true, false) ∧
      (twoFingers ⟨50, 50⟩).decision (compassSettings.turned 45) = (false, false) :=
  ⟨compass_mem, by decide +kernel, by decide +kernel⟩

end TouchHandler

end TermPlux
