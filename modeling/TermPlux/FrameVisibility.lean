/-
This file proves that every point of the framebuffer can be brought into the safe
area, and that the two coordinate maps of `FrameState` are inverse to each other.
The frame shows the framebuffer on a half-open rectangle of the viewport. The map
to the framebuffer is defined on that rectangle and nowhere else.
-/

import TermPlux.FrameRuns

namespace TermPlux

/-- A point of the closed rectangle. -/
def RectF.Contains (rect : RectF) (p : PointF) : Prop :=
  (rect.left ≤ p.x ∧ p.x ≤ rect.right) ∧ rect.top ≤ p.y ∧ p.y ≤ rect.bottom

namespace FrameState

variable {state : FrameState}

/-- A point of the framebuffer. -/
def IsFbPoint (state : FrameState) (q : PointF) : Prop :=
  (0 ≤ q.x ∧ q.x < state.fbWidth) ∧ 0 ≤ q.y ∧ q.y < state.fbHeight

/-- A point of the viewport where the frame shows the framebuffer. -/
def InFrame (state : FrameState) (p : PointF) : Prop :=
  (state.frameX ≤ p.x ∧ p.x < state.frameX + state.fbWidth * state.scale) ∧
    state.frameY ≤ p.y ∧ p.y < state.frameY + state.fbHeight * state.scale

theorem isValidFbPoint_iff (q : PointF) :
    state.isValidFbPoint q.x q.y = true ↔ state.IsFbPoint q := by
  simp [isValidFbPoint, IsFbPoint]

/-! ### The coordinate maps -/

/-- The point of the framebuffer shown at a point of the viewport, on the screen or not. -/
def unscaled (state : FrameState) (p : PointF) : PointF :=
  ⟨(p.x - state.frameX) / state.scale, (p.y - state.frameY) / state.scale⟩

theorem toFb_eq (positive : 0 < state.scale) (p : PointF) :
    state.toFb p =
      if state.isValidFbPoint (state.unscaled p).x (state.unscaled p).y then
        some (state.unscaled p)
      else none := by
  unfold toFb unscaled
  simp only [ne_eq, positive.ne', not_false_eq_true, true_and]

theorem unscaled_toVP (positive : 0 < state.scale) (q : PointF) :
    state.unscaled (state.toVP q) = q := by
  unfold unscaled toVP
  rw [add_sub_cancel_right, add_sub_cancel_right, mul_div_cancel_right₀ _ positive.ne',
    mul_div_cancel_right₀ _ positive.ne']

theorem toVP_unscaled (positive : 0 < state.scale) (p : PointF) :
    state.toVP (state.unscaled p) = p := by
  unfold unscaled toVP
  rw [div_mul_cancel₀ _ positive.ne', div_mul_cancel₀ _ positive.ne', sub_add_cancel,
    sub_add_cancel]

/-- The frame is the image of the framebuffer. -/
theorem inFrame_toVP_iff (positive : 0 < state.scale) (q : PointF) :
    state.InFrame (state.toVP q) ↔ state.IsFbPoint q := by
  have axis (start coordinate size : ℚ) :
      start ≤ coordinate * state.scale + start ∧
          coordinate * state.scale + start < start + size * state.scale ↔
        0 ≤ coordinate ∧ coordinate < size := by
    rw [le_add_iff_nonneg_left, mul_nonneg_iff_of_pos_right positive, add_comm start,
      add_lt_add_iff_right, mul_lt_mul_iff_left₀ positive]
  exact and_congr (axis _ _ _) (axis _ _ _)

theorem toFb_toVP (positive : 0 < state.scale) {q : PointF} (inside : state.IsFbPoint q) :
    state.toFb (state.toVP q) = some q := by
  rw [toFb_eq positive, unscaled_toVP positive, if_pos ((isValidFbPoint_iff q).mpr inside)]

theorem toVP_of_toFb (positive : 0 < state.scale) {p q : PointF} (mapped : state.toFb p = some q) :
    state.toVP q = p := by
  rw [toFb_eq positive] at mapped
  obtain ⟨-, same⟩ := Option.ite_none_right_eq_some.mp mapped
  rw [← Option.some.inj same, toVP_unscaled positive]

theorem toFb_eq_none_iff (positive : 0 < state.scale) (p : PointF) :
    state.toFb p = none ↔ ¬state.InFrame p := by
  have shown := inFrame_toVP_iff positive (state.unscaled p)
  rw [toVP_unscaled positive, ← isValidFbPoint_iff] at shown
  rw [toFb_eq positive, shown]
  simp

/-! ### Bringing a point into view -/

/-- Some pan brings a point of the framebuffer into the safe area, and leaves that alone. -/
theorem exists_pan (standing : state.Standing) (positive : 0 < state.scale)
    (nonempty : state.safeArea.isEmpty = false) {q : PointF} (inside : state.IsFbPoint q) :
    ∃ deltaX deltaY, (state.pan deltaX deltaY).safeArea = state.safeArea ∧
      state.safeArea.Contains ((state.pan deltaX deltaY).toVP q) := by
  obtain ⟨⟨nonnegX, widthX⟩, nonnegY, heightY⟩ := inside
  have area := nonempty
  simp only [RectF.isEmpty, Bool.or_eq_false_iff, decide_eq_false_iff_not, not_le] at area
  obtain ⟨x, leftX, rightX⟩ := exists_place_mem area.1.le
    (mul_nonneg nonnegX positive.le) (mul_le_mul_of_nonneg_right widthX.le positive.le)
  obtain ⟨y, topY, bottomY⟩ := exists_place_mem area.2.le
    (mul_nonneg nonnegY positive.le) (mul_le_mul_of_nonneg_right heightY.le positive.le)
  refine ⟨x - state.frameX, y - state.frameY, ?_⟩
  have moved : state.pan (x - state.frameX) (y - state.frameY) = state.moveTo x y := by
    show state.moveTo (state.frameX + (x - state.frameX)) (state.frameY + (y - state.frameY)) = _
    rw [add_sub_cancel, add_sub_cancel]
  rw [moved, standing.moveTo_eq nonempty]
  exact ⟨rfl, ⟨leftX, rightX⟩, topY, bottomY⟩

/-- In every state that a run reaches with a positive scale and a safe area, every point of the
framebuffer can be panned into the safe area, and the coordinate maps are inverse between the
framebuffer and the frame. -/
theorem coordinates_inverse (prefs : ZoomPrefs) (operations : List Operation)
    (run : (machine prefs).Run operations)
    (positive : 0 < ((machine prefs).after operations).scale)
    (nonempty : ((machine prefs).after operations).safeArea.isEmpty = false) :
    (∀ q, ((machine prefs).after operations).IsFbPoint q →
        (∃ deltaX deltaY,
          (((machine prefs).after operations).pan deltaX deltaY).safeArea =
              ((machine prefs).after operations).safeArea ∧
            ((machine prefs).after operations).safeArea.Contains
              ((((machine prefs).after operations).pan deltaX deltaY).toVP q)) ∧
          ((machine prefs).after operations).toFb
            (((machine prefs).after operations).toVP q) = some q) ∧
      (∀ p, ((machine prefs).after operations).toFb p = none ↔
        ¬((machine prefs).after operations).InFrame p) ∧
      ∀ p q, ((machine prefs).after operations).toFb p = some q →
        ((machine prefs).after operations).toVP q = p :=
  ⟨fun _ inside => ⟨exists_pan (standing_run run) positive nonempty inside,
      toFb_toVP positive inside⟩,
    toFb_eq_none_iff positive, fun _ _ mapped => toVP_of_toFb positive mapped⟩

/-- A connection, a layout pass with a cutout, and a pinch. -/
def zoomedLayout : List Operation :=
  [.setFramebufferSize 1920 1080, .setWindowSize 800 600, .setViewportSize 800 600,
    .setSafeArea ⟨50, 0, 800, 600⟩, .updateZoom 3]

/-- The last point of the framebuffer can be brought into view there. -/
theorem coordinates_inverse_layout :
    (∃ deltaX deltaY,
        (((machine .defaults).after zoomedLayout).pan deltaX deltaY).safeArea =
            ((machine .defaults).after zoomedLayout).safeArea ∧
          ((machine .defaults).after zoomedLayout).safeArea.Contains
            ((((machine .defaults).after zoomedLayout).pan deltaX deltaY).toVP ⟨1919, 1079⟩)) ∧
      ((machine .defaults).after zoomedLayout).toFb
        (((machine .defaults).after zoomedLayout).toVP ⟨1919, 1079⟩) = some ⟨1919, 1079⟩ :=
  (coordinates_inverse .defaults zoomedLayout (by decide +kernel) (by decide +kernel)
    (by decide +kernel)).1 ⟨1919, 1079⟩ ⟨by decide +kernel, by decide +kernel⟩

end FrameState

end TermPlux
