/-
This file proves what every run of frame operations keeps, whatever the zoom
preferences are: no size is negative, the base scale is the one of the sizes, the
zoom scales are positive, the safe area lies inside the viewport and the frame is
placed in it. From the first operation on the zoom scales are within the
preferences as well.

Where the safe area is not empty, coercing such a state again changes nothing, so
an operation that only moves the frame places it and leaves the rest alone.
-/

import TermPlux.FrameState

namespace TermPlux

/-! ### Safe areas -/

/-- A rectangle inside another one is all of their intersection. -/
theorem RectF.intersect_of_within {rect : RectF} {left top right bottom : ℚ}
    (nonempty : rect.isEmpty = false) (within : rect.Within ⟨left, top, right, bottom⟩) :
    rect.intersect left top right bottom = some rect := by
  simp only [isEmpty, Bool.or_eq_false_iff, decide_eq_false_iff_not, not_le] at nonempty
  obtain ⟨onLeft, onTop, onRight, onBottom, -, -⟩ := within
  unfold intersect
  rw [if_pos ⟨nonempty.1.trans_le onRight, onLeft.trans_lt nonempty.1,
    nonempty.2.trans_le onBottom, onTop.trans_lt nonempty.2⟩]
  rw [max_eq_left onLeft, max_eq_left onTop, min_eq_left onRight, min_eq_left onBottom]

namespace FrameState

variable {state : FrameState}

theorem coercedSafeArea_of_within (nonempty : state.safeArea.isEmpty = false)
    (within : state.safeArea.Within state.viewport) : state.coercedSafeArea = state.safeArea := by
  unfold coercedSafeArea
  rw [nonempty, RectF.intersect_of_within nonempty within]
  rfl

instance : ∀ operation : Operation, Decidable operation.Sized
  | .setFramebufferSize _ _ | .setViewportSize _ _ | .setWindowSize _ _ =>
    inferInstanceAs (Decidable (_ ∧ _))
  | .setSafeArea _ | .updateZoom _ | .setZoom _ _ | .pan _ _ | .moveTo _ _ => .isTrue trivial

instance (prefs : ZoomPrefs) (state : FrameState) (operation : Operation) :
    Decidable ((machine prefs).enabled state operation) :=
  inferInstanceAs (Decidable operation.Sized)

theorem coercedSafeArea_viewport (width : 0 ≤ state.vpWidth) (height : 0 ≤ state.vpHeight) :
    ({ state with safeArea := state.viewport } : FrameState).coercedSafeArea = state.viewport := by
  by_cases empty : state.viewport.isEmpty = true
  · exact if_pos empty
  · exact @coercedSafeArea_of_within { state with safeArea := state.viewport }
      (Bool.not_eq_true _ ▸ empty) ⟨le_rfl, le_rfl, le_rfl, le_rfl, width, height⟩

/-- A coerced safe area is not changed by coercing it again, where the old one lay inside the
viewport. -/
theorem coercedSafeArea_coerceSafeArea (within : state.safeArea.Within state.viewport)
    (width : 0 ≤ state.vpWidth) (height : 0 ≤ state.vpHeight) :
    state.coerceSafeArea.coercedSafeArea = state.coercedSafeArea := by
  unfold coerceSafeArea
  by_cases empty : state.safeArea.isEmpty = true
  · have whole : state.coercedSafeArea = state.viewport := if_pos empty
    rw [whole]
    exact coercedSafeArea_viewport width height
  · have same : state.coercedSafeArea = state.safeArea :=
      coercedSafeArea_of_within (Bool.not_eq_true _ ▸ empty) within
    rw [same]
    exact same

/-! ### The base scale -/

/-- The base scale of the sizes, or the old one while some of them are not known. -/
def baseScaleOf (fbWidth fbHeight windowWidth windowHeight old : ℚ) : ℚ :=
  if fbHeight = 0 ∨ fbWidth = 0 ∨ windowHeight = 0 then old
  else
    min (max windowWidth windowHeight / max fbWidth fbHeight)
      (min windowWidth windowHeight / min fbWidth fbHeight)

theorem calculateBaseScale_eq (state : FrameState) :
    state.calculateBaseScale =
      { state with
        baseScale := baseScaleOf state.fbWidth state.fbHeight state.windowWidth
          state.windowHeight state.baseScale } := by
  unfold calculateBaseScale baseScaleOf
  split <;> rfl

theorem baseScaleOf_baseScaleOf (fbWidth fbHeight windowWidth windowHeight old : ℚ) :
    baseScaleOf fbWidth fbHeight windowWidth windowHeight
        (baseScaleOf fbWidth fbHeight windowWidth windowHeight old) =
      baseScaleOf fbWidth fbHeight windowWidth windowHeight old := by
  unfold baseScaleOf
  split <;> rfl

theorem baseScaleOf_nonneg {fbWidth fbHeight windowWidth windowHeight old : ℚ}
    (width : 0 ≤ fbWidth) (height : 0 ≤ fbHeight) (across : 0 ≤ windowWidth)
    (down : 0 ≤ windowHeight) (nonneg : 0 ≤ old) :
    0 ≤ baseScaleOf fbWidth fbHeight windowWidth windowHeight old := by
  unfold baseScaleOf
  split
  · exact nonneg
  · exact le_min (div_nonneg (across.trans (le_max_left _ _)) (width.trans (le_max_left _ _)))
      (div_nonneg (le_min across down) (le_min width height))

/-! ### What a run keeps -/

/-- Zoom scales within the preferences are not changed. -/
theorem coerceZoom_of_within
    (zoom1 : state.prefs.minZoomScale ≤ state.zoomScale1 ∧
      state.zoomScale1 ≤ state.prefs.maxZoomScale)
    (zoom2 : state.prefs.minZoomScale ≤ state.zoomScale2 ∧
      state.zoomScale2 ≤ state.prefs.maxZoomScale) : state.coerceZoom = state := by
  unfold coerceZoom
  rw [coerceIn_of_mem zoom1.1 zoom1.2, coerceIn_of_mem zoom2.1 zoom2.2]

/-- The sizes of a state and its base scale. -/
structure Measured (state : FrameState) : Prop where
  fbWidth : 0 ≤ state.fbWidth
  fbHeight : 0 ≤ state.fbHeight
  vpWidth : 0 ≤ state.vpWidth
  vpHeight : 0 ≤ state.vpHeight
  windowWidth : 0 ≤ state.windowWidth
  windowHeight : 0 ≤ state.windowHeight
  baseScale : 0 ≤ state.baseScale
  based : baseScaleOf state.fbWidth state.fbHeight state.windowWidth state.windowHeight
    state.baseScale = state.baseScale

/-- What every run keeps. -/
structure Standing (state : FrameState) : Prop extends Measured state where
  zoom1 : 0 < state.zoomScale1
  zoom2 : 0 < state.zoomScale2
  zoomed : state = { prefs := state.prefs } ∨ state.coerceZoom = state
  within : state.safeArea.Within state.viewport
  horizontal : Placed state.frameX (state.fbWidth * state.scale) state.safeArea.left
    state.safeArea.right
  vertical : Placed state.frameY (state.fbHeight * state.scale) state.safeArea.top
    state.safeArea.bottom

/-- Calculating the base scale measures a state of sizes that are not negative. -/
theorem measured_calculateBaseScale (fbWidth : 0 ≤ state.fbWidth) (fbHeight : 0 ≤ state.fbHeight)
    (vpWidth : 0 ≤ state.vpWidth) (vpHeight : 0 ≤ state.vpHeight)
    (windowWidth : 0 ≤ state.windowWidth) (windowHeight : 0 ≤ state.windowHeight)
    (baseScale : 0 ≤ state.baseScale) : state.calculateBaseScale.Measured := by
  rw [calculateBaseScale_eq]
  exact
    { fbWidth, fbHeight, vpWidth, vpHeight, windowWidth, windowHeight
      baseScale := baseScaleOf_nonneg fbWidth fbHeight windowWidth windowHeight baseScale
      based := baseScaleOf_baseScaleOf _ _ _ _ _ }

/-- Coercing a measured state makes it stand. -/
theorem standing_coerceValues (measured : state.Measured) : state.coerceValues.Standing := by
  have coerced := coerced_coerceValues state measured.vpWidth measured.vpHeight
  exact
    { toMeasured := ⟨measured.fbWidth, measured.fbHeight, measured.vpWidth, measured.vpHeight,
        measured.windowWidth, measured.windowHeight, measured.baseScale, measured.based⟩
      zoom1 := state.prefs.positive.trans_le coerced.zoom1.1
      zoom2 := state.prefs.positive.trans_le coerced.zoom2.1
      zoomed := .inr (coerceZoom_of_within coerced.zoom1 coerced.zoom2)
      within := coerced.safe
      horizontal := coerced.horizontal
      vertical := coerced.vertical }

theorem standing_apply {operation : Operation} (standing : state.Standing)
    (sized : operation.Sized) : (state.apply operation).Standing := by
  obtain ⟨measured, -, -, -, -, -, -⟩ := standing
  cases operation with
  | setFramebufferSize w h =>
    exact standing_coerceValues (measured_calculateBaseScale sized.1 sized.2 measured.vpWidth
      measured.vpHeight measured.windowWidth measured.windowHeight measured.baseScale)
  | setViewportSize w h =>
    exact standing_coerceValues { measured with vpWidth := sized.1, vpHeight := sized.2 }
  | setWindowSize w h =>
    exact standing_coerceValues (measured_calculateBaseScale measured.fbWidth measured.fbHeight
      measured.vpWidth measured.vpHeight sized.1 sized.2 measured.baseScale)
  | setSafeArea rect => exact standing_coerceValues { measured with }
  | updateZoom scaleFactor =>
    refine standing_coerceValues ?_
    unfold setZoomScale
    split <;> exact { measured with }
  | setZoom zoom1 zoom2 => exact standing_coerceValues { measured with }
  | pan deltaX deltaY => exact standing_coerceValues { measured with }
  | moveTo x y => exact standing_coerceValues { measured with }

theorem standing_start (prefs : ZoomPrefs) : (machine prefs).start.Standing where
  fbWidth := le_rfl
  fbHeight := le_rfl
  vpWidth := le_rfl
  vpHeight := le_rfl
  windowWidth := le_rfl
  windowHeight := le_rfl
  baseScale := zero_le_one
  based := if_pos (.inl rfl)
  zoom1 := zero_lt_one
  zoom2 := zero_lt_one
  zoomed := .inl rfl
  within := ⟨le_rfl, le_rfl, le_rfl, le_rfl, le_rfl, le_rfl⟩
  horizontal := by constructor <;> simp [machine]
  vertical := by constructor <;> simp [machine]

theorem standing_run {prefs : ZoomPrefs} {operations : List Operation}
    (run : (machine prefs).Run operations) : ((machine prefs).after operations).Standing :=
  run.invariant Standing (standing_start prefs) fun _ _ standing sized =>
    standing_apply standing sized

theorem Standing.zoomScale_pos (standing : state.Standing) : 0 < state.zoomScale := by
  unfold zoomScale
  split
  · exact standing.zoom1
  · exact standing.zoom2

/-- A state with a safe area has seen an operation, so its zoom scales are coerced. -/
theorem Standing.coerceZoom_eq (standing : state.Standing)
    (nonempty : state.safeArea.isEmpty = false) : state.coerceZoom = state := by
  rcases standing.zoomed with start | zoomed
  · rw [start] at nonempty
    cases nonempty
  · exact zoomed

/-! ### Moving the frame -/

/-- The frame put at a position, with nothing coerced. -/
def standAt (state : FrameState) (x y : ℚ) : FrameState := { state with frameX := x, frameY := y }

/-- With its zoom scales coerced, a state keeps everything but its safe area and the position of
the frame. -/
theorem coerceValues_eq (zoomed : state.coerceZoom = state) :
    state.coerceValues =
      ({ state with safeArea := state.coercedSafeArea } : FrameState).standAt
        (place state.frameX (state.fbWidth * state.scale) state.coercedSafeArea.left
          state.coercedSafeArea.right)
        (place state.frameY (state.fbHeight * state.scale) state.coercedSafeArea.top
          state.coercedSafeArea.bottom) := by
  show state.coerceZoom.coerceSafeArea.coerceFrame = _
  rw [zoomed]
  rfl

/-- Where coercing has nothing left to change, moving the frame places it and leaves the rest
alone. -/
theorem moveTo_eq (zoomed : state.coerceZoom = state)
    (safe : state.coercedSafeArea = state.safeArea) (x y : ℚ) :
    state.moveTo x y =
      state.standAt
        (place x (state.fbWidth * state.scale) state.safeArea.left state.safeArea.right)
        (place y (state.fbHeight * state.scale) state.safeArea.top state.safeArea.bottom) := by
  have sameZoom : (state.standAt x y).coerceZoom = state.standAt x y :=
    congrArg (·.standAt x y) zoomed
  have sameArea : (state.standAt x y).coercedSafeArea = state.safeArea := safe
  show (state.standAt x y).coerceValues = _
  rw [coerceValues_eq sameZoom, sameArea]
  rfl

theorem Standing.moveTo_eq (standing : state.Standing)
    (nonempty : state.safeArea.isEmpty = false) (x y : ℚ) :
    state.moveTo x y =
      state.standAt
        (place x (state.fbWidth * state.scale) state.safeArea.left state.safeArea.right)
        (place y (state.fbHeight * state.scale) state.safeArea.top state.safeArea.bottom) :=
  FrameState.moveTo_eq (standing.coerceZoom_eq nonempty)
    (coercedSafeArea_of_within nonempty standing.within) x y

end FrameState

end TermPlux
