/-
This file compares `VncViewModel.updateZoom` with what it is for: a pinch keeps
the framebuffer point under its focus fixed, as far as the frame may stand there.

`FrameState.updateZoom` coerces the frame position at the new scale, and the pan
that keeps the focus fixed is computed from the coerced position. On an axis where
the coercion moves the frame, the pinch therefore ends elsewhere, unless the
coercion after the pan takes both positions to the same end.
-/

import TermPlux.FrameRuns
import TermPlux.TouchRuns

namespace TermPlux.PinchZoom

open FrameState

/-! ### Scaling about a focus -/

/-- Where a position goes when the axis is scaled by a factor about a focus. -/
def about (focus factor position : ℚ) : ℚ := focus - (focus - position) * factor

theorem strictMono_about (focus : ℚ) {factor : ℚ} (positive : 0 < factor) :
    StrictMono (about focus factor) := by
  intro first second before
  have scaled := mul_lt_mul_of_pos_right before positive
  unfold about
  linarith

/-- The pan computed from a position takes it to where scaling about the focus does. -/
theorem about_eq_pan (focus factor position : ℚ) :
    position + -((focus - position) * (factor - 1)) = about focus factor position := by
  unfold about
  ring

/-- How much of the scale factor is left once the zoom scale is coerced. -/
def appliedFactor (fs : FrameState) (scaleFactor : ℚ) : ℚ :=
  coerceIn (fs.zoomScale * scaleFactor) fs.prefs.minZoomScale fs.prefs.maxZoomScale / fs.zoomScale

/-- On one axis a segment of the new size keeps its focus: it fits the window, or its old
position is still allowed, or the end of the window that it crosses is one it would be sent back
to anyway. -/
def KeepsFocus (focus factor position size first last : ℚ) : Prop :=
  size ≤ last - first ∨ (last - size ≤ position ∧ position ≤ first) ∨
    (first < position ∧
      (first ≤ about focus factor first ∨ about focus factor position ≤ last - size)) ∨
    (position < last - size ∧
      (first ≤ about focus factor position ∨ about focus factor (last - size) ≤ last - size))

theorem nearestPlaced_about_iff {focus factor : ℚ} (positive : 0 < factor)
    (position size first last : ℚ) :
    NearestPlaced (place (about focus factor (place position size first last)) size first last)
        (about focus factor position) size first last ↔
      KeepsFocus focus factor position size first last := by
  rw [nearestPlaced_iff]
  exact place_move_place_iff (strictMono_about focus positive)

/-! ### Zooming -/

variable {fs : FrameState}

theorem zoomScale_coerceValues_setZoomScale (fs : FrameState) (value : ℚ) :
    (fs.setZoomScale value).coerceValues.zoomScale =
      coerceIn value fs.prefs.minZoomScale fs.prefs.maxZoomScale := by
  unfold setZoomScale
  split
  · next first => exact if_pos first
  · next second => exact if_neg second

theorem updateZoom_snd (fs : FrameState) (scaleFactor : ℚ) :
    (fs.updateZoom scaleFactor).2 = appliedFactor fs scaleFactor :=
  congrArg (· / fs.zoomScale) (zoomScale_coerceValues_setZoomScale fs _)

theorem appliedFactor_pos (standing : fs.Standing) (scaleFactor : ℚ) :
    0 < appliedFactor fs scaleFactor :=
  div_pos (fs.prefs.positive.trans_le (low_le_coerceIn _ fs.prefs.ordered)) standing.zoomScale_pos

theorem updateZoom_scale (standing : fs.Standing) (scaleFactor : ℚ) :
    (fs.updateZoom scaleFactor).1.scale = fs.scale * appliedFactor fs scaleFactor := by
  have base : (fs.updateZoom scaleFactor).1.baseScale = fs.baseScale := by
    show (fs.setZoomScale _).baseScale = fs.baseScale
    unfold setZoomScale
    split <;> rfl
  have zoom : (fs.updateZoom scaleFactor).1.zoomScale =
      fs.zoomScale * appliedFactor fs scaleFactor := by
    rw [appliedFactor, mul_div_cancel₀ _ standing.zoomScale_pos.ne']
    exact zoomScale_coerceValues_setZoomScale fs _
  unfold scale
  rw [base, zoom, mul_assoc]

/-- Zooming coerces the safe area and places the frame at the new scale. -/
theorem updateZoom_eq (fs : FrameState) (scaleFactor : ℚ) :
    (fs.updateZoom scaleFactor).1.safeArea = fs.coercedSafeArea ∧
      (fs.updateZoom scaleFactor).1.fbWidth = fs.fbWidth ∧
      (fs.updateZoom scaleFactor).1.fbHeight = fs.fbHeight ∧
      (fs.updateZoom scaleFactor).1.frameX =
        place fs.frameX (fs.fbWidth * (fs.updateZoom scaleFactor).1.scale)
          fs.coercedSafeArea.left fs.coercedSafeArea.right ∧
      (fs.updateZoom scaleFactor).1.frameY =
        place fs.frameY (fs.fbHeight * (fs.updateZoom scaleFactor).1.scale)
          fs.coercedSafeArea.top fs.coercedSafeArea.bottom := by
  unfold FrameState.updateZoom setZoomScale
  dsimp only
  split <;> exact ⟨rfl, rfl, rfl, rfl, rfl⟩

/-- After zooming nothing is left to coerce but the position. -/
theorem updateZoom_moveTo (standing : fs.Standing) (scaleFactor x y : ℚ) :
    (fs.updateZoom scaleFactor).1.moveTo x y =
      (fs.updateZoom scaleFactor).1.standAt
        (place x (fs.fbWidth * (fs.updateZoom scaleFactor).1.scale)
          fs.coercedSafeArea.left fs.coercedSafeArea.right)
        (place y (fs.fbHeight * (fs.updateZoom scaleFactor).1.scale)
          fs.coercedSafeArea.top fs.coercedSafeArea.bottom) := by
  obtain ⟨area, width, height, -, -⟩ := updateZoom_eq fs scaleFactor
  have zoomed : (fs.updateZoom scaleFactor).1.coerceZoom = (fs.updateZoom scaleFactor).1 := by
    have coerced := coerced_coerceValues (fs.setZoomScale (fs.zoomScale * scaleFactor))
      (by simpa using standing.vpWidth) (by simpa using standing.vpHeight)
    exact coerceZoom_of_within coerced.zoom1 coerced.zoom2
  have safe : (fs.updateZoom scaleFactor).1.coercedSafeArea =
      (fs.updateZoom scaleFactor).1.safeArea := by
    rw [area, ← coercedSafeArea_coerceSafeArea standing.within standing.vpWidth standing.vpHeight]
    unfold FrameState.updateZoom setZoomScale
    dsimp only
    split <;> rfl
  rw [moveTo_eq zoomed safe, area, width, height]

/-- The frame after a pinch. -/
theorem updateZoom_frame {dispatcher : Dispatcher}
    (unlocked : dispatcher.profile.fZoomLocked = false) (scaleFactor fx fy : ℚ) :
    (dispatcher.updateZoom scaleFactor fx fy).frameState =
      (dispatcher.frameState.updateZoom scaleFactor).1.moveTo
        (about fx (appliedFactor dispatcher.frameState scaleFactor)
          (dispatcher.frameState.updateZoom scaleFactor).1.frameX)
        (about fy (appliedFactor dispatcher.frameState scaleFactor)
          (dispatcher.frameState.updateZoom scaleFactor).1.frameY) := by
  rw [← updateZoom_snd, ← about_eq_pan, ← about_eq_pan, Dispatcher.updateZoom, unlocked,
    if_neg Bool.false_ne_true]
  rfl

/-- A pinch moves the frame to the allowed position nearest to the one that keeps its focus
fixed. -/
def FocusFixed (dispatcher : Dispatcher) (scaleFactor fx fy : ℚ) : Prop :=
  let before := dispatcher.frameState
  let after := (dispatcher.updateZoom scaleFactor fx fy).frameState
  let appliedFactor := (before.updateZoom scaleFactor).2
  NearestPlaced after.frameX (fx - (fx - before.frameX) * appliedFactor)
      (after.fbWidth * after.scale) after.safeArea.left after.safeArea.right ∧
    NearestPlaced after.frameY (fy - (fy - before.frameY) * appliedFactor)
      (after.fbHeight * after.scale) after.safeArea.top after.safeArea.bottom

/-- The framebuffer point under a point of the viewport, inside the framebuffer or not. -/
def under (fs : FrameState) (p : PointF) : PointF :=
  ⟨(p.x - fs.frameX) / fs.scale, (p.y - fs.frameY) / fs.scale⟩

/-- On one axis: a position that was not clamped away keeps what lies under the focus. -/
theorem under_about {focus factor position scale : ℚ} (positive : 0 < factor) :
    (focus - about focus factor position) / (scale * factor) = (focus - position) / scale := by
  have distance : focus - about focus factor position = (focus - position) * factor := by
    unfold about
    ring
  rw [distance, mul_div_mul_right _ _ positive.ne']

/-- On one axis: where the position that keeps the focus is allowed, the nearest one keeps what
lies under it. -/
theorem under_of_nearestPlaced {focus factor position moved size first last scale : ℚ}
    (positive : 0 < factor)
    (nearest : NearestPlaced moved (about focus factor position) size first last)
    (allowed : Placed (about focus factor position) size first last) :
    (focus - moved) / (scale * factor) = (focus - position) / scale := by
  have fixed : moved = about focus factor position :=
    (nearestPlaced_iff.mp nearest).trans (place_eq_self_iff.mpr allowed)
  rw [fixed]
  exact under_about positive

theorem after_updateZoom {dispatcher : Dispatcher} (standing : dispatcher.frameState.Standing)
    (unlocked : dispatcher.profile.fZoomLocked = false) (scaleFactor fx fy : ℚ) :
    let fs := dispatcher.frameState
    let after := (dispatcher.updateZoom scaleFactor fx fy).frameState
    let factor := appliedFactor fs scaleFactor
    let area := fs.coercedSafeArea
    after.scale = fs.scale * factor ∧ after.safeArea = area ∧ after.fbWidth = fs.fbWidth ∧
      after.fbHeight = fs.fbHeight ∧
      after.frameX = place (about fx factor (place fs.frameX (fs.fbWidth * (fs.scale * factor))
        area.left area.right)) (fs.fbWidth * (fs.scale * factor)) area.left area.right ∧
      after.frameY = place (about fy factor (place fs.frameY (fs.fbHeight * (fs.scale * factor))
        area.top area.bottom)) (fs.fbHeight * (fs.scale * factor)) area.top area.bottom := by
  intro fs after factor area
  obtain ⟨sameArea, sameWidth, sameHeight, x, y⟩ := updateZoom_eq fs scaleFactor
  have moved : after = _ :=
    (updateZoom_frame unlocked scaleFactor fx fy).trans (updateZoom_moveTo standing _ _ _)
  rw [updateZoom_scale standing] at x y
  rw [updateZoom_scale standing, x, y] at moved
  rw [moved]
  exact ⟨updateZoom_scale standing scaleFactor, sameArea, sameWidth, sameHeight, rfl, rfl⟩

/-- After a pinch with the zoom not locked the frame stands at the allowed position nearest to
the one that fixes the focus just when both axes keep it. Where that is so and the position is
allowed, the framebuffer point under the focus is the same as before. -/
theorem focus_fixed_iff (prefs : ZoomPrefs) (operations : List Operation)
    (run : (machine prefs).Run operations) (dispatcher : Dispatcher)
    (reached : dispatcher.frameState = (machine prefs).after operations)
    (unlocked : dispatcher.profile.fZoomLocked = false) (scaleFactor fx fy : ℚ) :
    let fs := dispatcher.frameState
    let after := (dispatcher.updateZoom scaleFactor fx fy).frameState
    let factor := appliedFactor fs scaleFactor
    let area := fs.coercedSafeArea
    (FocusFixed dispatcher scaleFactor fx fy ↔
        KeepsFocus fx factor fs.frameX (fs.fbWidth * (fs.scale * factor)) area.left area.right ∧
          KeepsFocus fy factor fs.frameY (fs.fbHeight * (fs.scale * factor)) area.top
            area.bottom) ∧
      (FocusFixed dispatcher scaleFactor fx fy →
        (Placed (about fx factor fs.frameX) (after.fbWidth * after.scale) after.safeArea.left
            after.safeArea.right → (under after ⟨fx, fy⟩).x = (under fs ⟨fx, fy⟩).x) ∧
          (Placed (about fy factor fs.frameY) (after.fbHeight * after.scale) after.safeArea.top
            after.safeArea.bottom → (under after ⟨fx, fy⟩).y = (under fs ⟨fx, fy⟩).y)) := by
  intro fs after factor area
  have standing : dispatcher.frameState.Standing := by
    rw [reached]
    exact standing_run run
  have positive : 0 < factor := appliedFactor_pos standing scaleFactor
  obtain ⟨scale, safe, width, height, x, y⟩ := after_updateZoom standing unlocked scaleFactor fx fy
  constructor
  · unfold FocusFixed
    dsimp only
    rw [updateZoom_snd, scale, safe, width, height, x, y]
    exact and_congr (nearestPlaced_about_iff positive _ _ _ _)
      (nearestPlaced_about_iff positive _ _ _ _)
  · rintro ⟨nearestX, nearestY⟩
    rw [updateZoom_snd] at nearestX nearestY
    refine ⟨fun allowed => ?_, fun allowed => ?_⟩
    · show (fx - after.frameX) / after.scale = _
      rw [scale]
      exact under_of_nearestPlaced positive nearestX allowed
    · show (fy - after.frameY) / after.scale = _
      rw [scale]
      exact under_of_nearestPlaced positive nearestY allowed

/-! ### A square frame in a square viewport -/

/-- The dispatcher of an activity that shows a frame. -/
def showing (frameState : FrameState) : Dispatcher :=
  .create { gestureStyle := "auto", fButtonUpDelay := false, fZoomLocked := false }
    TouchHandler.defaultInput frameState
    { client := { pointerX := 0, pointerY := 0, ignorePointerMovesByServer := false }
      queue := [], isShutdown := false, pointerButtonMask := 0 }

/-- A framebuffer of 100 by 100 in a viewport of the same size, zoomed to one and a half. -/
def zoomedIn : List Operation :=
  [.setFramebufferSize 100 100, .setWindowSize 100 100, .setViewportSize 100 100,
    .updateZoom (3 / 2), .pan (-10) (-20)]

/-- A frame that covers the viewport keeps what is in its middle when it grows. -/
theorem focus_fixed_zoomedIn :
    FocusFixed (showing ((machine .defaults).after zoomedIn)) 2 50 50 :=
  (focus_fixed_iff .defaults zoomedIn (by decide +kernel)
    (showing ((machine .defaults).after zoomedIn)) rfl rfl 2 50 50).1.mpr
    ⟨.inr (.inl (by decide +kernel)), .inr (.inl (by decide +kernel))⟩

/-- The same framebuffer zoomed out, so that a margin of 10 is left around the frame. -/
def zoomedOut : List Operation :=
  [.setFramebufferSize 100 100, .setWindowSize 100 100, .setViewportSize 100 100,
    .updateZoom (4 / 5)]

/-- It does not keep what is in its middle when it outgrows the viewport: the frame ends at -50,
though it may stand at -30. -/
theorem focus_lost_zoomedOut :
    (machine .defaults).Run zoomedOut ∧
      0 < ((machine .defaults).after zoomedOut).scale ∧
      ¬FocusFixed (showing ((machine .defaults).after zoomedOut)) 2 50 50 := by
  refine ⟨by decide +kernel, by decide +kernel, fun fixed => ?_⟩
  have nearest := nearestPlaced_iff.mp fixed.1
  exact absurd nearest (by decide +kernel)

end TermPlux.PinchZoom
