/-
This file models how `VncActivity` carries the view over to a new connection: the
saved frame state, the fresh frame state of the new activity, the restore step and
the layout pass after it.

The saved position is restored while the viewport is still empty and is then
coerced against the whole viewport before the safe area is known. A position that
only the smaller safe area allows is therefore lost, and so is a base scale that
the saved sizes do not determine.
-/

import TermPlux.FrameRuns

namespace TermPlux.Reconnection

open FrameState

/-! ### The reconnection -/

structure SavedFrameState where
  frameX : ℚ
  frameY : ℚ
  zoom1 : ℚ
  zoom2 : ℚ

/-- What `retryConnection` saves. -/
def savedFrameState (frameState : FrameState) : SavedFrameState :=
  { frameX := frameState.frameX, frameY := frameState.frameY
    zoom1 := frameState.zoomScale1, zoom2 := frameState.zoomScale2 }

def restoreFrameState (frameState : FrameState) (saved : SavedFrameState) : FrameState :=
  (frameState.setZoom saved.zoom1 saved.zoom2).pan saved.frameX saved.frameY

/-- What the layout listener does to the frame state. -/
def globalLayout (frameState : FrameState) (windowWidth windowHeight vpWidth vpHeight : ℚ)
    (safeArea : RectF) : FrameState :=
  ((frameState.setWindowSize windowWidth windowHeight).setViewportSize vpWidth
    vpHeight).setSafeArea safeArea

/-- The frame state of the new activity up to the restore step: the zooms of the profile, and the
sizes of window and framebuffer. -/
def connected (prefs : ZoomPrefs) (profileZoom1 profileZoom2 windowWidth windowHeight fbWidth
    fbHeight : ℚ) : FrameState :=
  ((({ prefs } : FrameState).setZoom profileZoom1 profileZoom2).setWindowSize windowWidth
    windowHeight).setFramebufferSize fbWidth fbHeight

/-- The frame state after a reconnection that finds everything else as it was. -/
def reconnect (frameState : FrameState) (profileZoom1 profileZoom2 : ℚ) : FrameState :=
  globalLayout
    (restoreFrameState
      (connected frameState.prefs profileZoom1 profileZoom2 frameState.windowWidth
        frameState.windowHeight frameState.fbWidth frameState.fbHeight)
      (savedFrameState frameState))
    frameState.windowWidth frameState.windowHeight frameState.vpWidth frameState.vpHeight
    frameState.safeArea

/-! ### One axis -/

/-- A position survives the reconnection: the frame fits the safe area and is centred in it, or
it covers the whole viewport, or it fits the viewport and stands as close to the middle of it as
the safe area allows. -/
def Restorable (position size extent first last : ℚ) : Prop :=
  (size ≤ last - first ∧ position = (last - first - size) / 2 + first) ∨
    (extent < size ∧ extent - size ≤ position ∧ position ≤ 0) ∨
    (last - first < size ∧ size ≤ extent ∧
      position = coerceIn ((extent - size) / 2) (last - size) first)

instance (position size extent first last : ℚ) :
    Decidable (Restorable position size extent first last) :=
  inferInstanceAs (Decidable (_ ∨ _ ∨ _))

/-- Where a layout pass takes a position: it is placed against nothing, then against the viewport
and then against the safe area. -/
def laidOut (position size extent first last : ℚ) : ℚ :=
  place (place (place position size 0 0) size 0 extent) size first last

/-- A position that was placed against nothing before goes to the same place. -/
theorem laidOut_place (position size extent first last : ℚ) :
    laidOut (place position size 0 0) size extent first last =
      laidOut position size extent first last := by
  unfold laidOut
  rw [place_place]

/-- A position comes back just when it is restorable. -/
theorem laidOut_eq_self_iff {position size extent first last : ℚ} (start : 0 ≤ first)
    (ordered : first ≤ last) (inside : last ≤ extent) :
    laidOut position size extent first last = position ↔
      Restorable position size extent first last := by
  unfold laidOut Restorable
  rcases le_or_gt size (last - first) with fits | exceeds
  · have small : ¬extent < size := not_lt.mpr (fits.trans (by linarith))
    have notExceeds : ¬last - first < size := not_lt.mpr fits
    simp only [place_of_fits _ fits, fits, small, notExceeds, true_and, false_and, or_false]
    exact eq_comm
  · have notFits : ¬size ≤ last - first := not_le.mpr exceeds
    have safeLow : last - first - size + first = last - size := by ring
    have safeOrdered : last - size ≤ first := by linarith
    rw [place_of_exceeds _ exceeds, safeLow]
    rcases lt_or_ge extent size with large | small
    · have positive : (0 : ℚ) - 0 < size := by linarith
      have covers : extent - 0 < size := by linarith
      have emptyLow : (0 : ℚ) - 0 - size + 0 = -size := by ring
      have viewportLow : extent - 0 - size + 0 = extent - size := by ring
      have low : extent - size ≤ 0 := by linarith
      rw [place_of_exceeds _ covers, place_of_exceeds _ positive, emptyLow, viewportLow]
      have above := low_le_coerceIn (coerceIn position (-size) 0) low
      have below := coerceIn_le_high (coerceIn position (-size) 0) low
      rw [coerceIn_of_mem (by linarith) (below.trans start)]
      simp only [notFits, large, exceeds, not_le.mpr large, true_and, false_and, or_false,
        false_or]
      constructor
      · intro same
        exact ⟨same ▸ above, same ▸ below⟩
      · rintro ⟨after, before⟩
        rw [coerceIn_of_mem (by linarith) before, coerceIn_of_mem after before]
    · have fitsViewport : size ≤ extent - 0 := by linarith
      have middle : (extent - 0 - size) / 2 + 0 = (extent - size) / 2 := by ring
      rw [place_of_fits _ fitsViewport, middle]
      simp only [notFits, not_lt.mpr small, exceeds, small, true_and, false_and, false_or]
      exact eq_comm

/-! ### The fresh frame state -/

/-- A frame state without a viewport, whose frame has not been moved. -/
def blank (prefs : ZoomPrefs) (fbWidth fbHeight windowWidth windowHeight baseScale zoom1 zoom2 : ℚ) :
    FrameState :=
  { prefs, fbWidth, fbHeight, windowWidth, windowHeight, baseScale
    zoomScale1 := coerceIn zoom1 prefs.minZoomScale prefs.maxZoomScale
    zoomScale2 := coerceIn zoom2 prefs.minZoomScale prefs.maxZoomScale }

variable {prefs : ZoomPrefs} {fbWidth fbHeight windowWidth windowHeight baseScale zoom1 zoom2 : ℚ}

theorem blank_coerceZoom :
    (blank prefs fbWidth fbHeight windowWidth windowHeight baseScale zoom1 zoom2).coerceZoom =
      blank prefs fbWidth fbHeight windowWidth windowHeight baseScale zoom1 zoom2 :=
  coerceZoom_of_within
    ⟨low_le_coerceIn _ prefs.ordered, coerceIn_le_high _ prefs.ordered⟩
    ⟨low_le_coerceIn _ prefs.ordered, coerceIn_le_high _ prefs.ordered⟩

theorem blank_coercedSafeArea :
    (blank prefs fbWidth fbHeight windowWidth windowHeight baseScale zoom1
      zoom2).coercedSafeArea = ⟨0, 0, 0, 0⟩ := rfl

theorem place_zero {size : ℚ} (nonneg : 0 ≤ size) : place 0 size 0 0 = 0 := by
  refine place_eq_self_iff.mpr ?_
  rcases nonneg.eq_or_lt with rfl | positive
  · exact (placed_iff_of_fits (by norm_num)).mpr (by norm_num)
  · exact (placed_iff_of_exceeds (by linarith)).mpr ⟨by linarith, le_rfl⟩

theorem blank_scale_nonneg (nonneg : 0 ≤ baseScale) :
    0 ≤ (blank prefs fbWidth fbHeight windowWidth windowHeight baseScale zoom1 zoom2).scale := by
  refine mul_nonneg nonneg ?_
  unfold zoomScale
  split
  · exact (prefs.positive.trans_le (low_le_coerceIn zoom1 prefs.ordered)).le
  · exact (prefs.positive.trans_le (low_le_coerceIn zoom2 prefs.ordered)).le

/-- Coercing a state without a viewport only coerces its zoom scales. -/
theorem coerceValues_blank (width : 0 ≤ fbWidth) (height : 0 ≤ fbHeight)
    (nonneg : 0 ≤ baseScale) :
    ({ prefs, fbWidth, fbHeight, windowWidth, windowHeight, baseScale, zoomScale1 := zoom1
       zoomScale2 := zoom2 } : FrameState).coerceValues =
      blank prefs fbWidth fbHeight windowWidth windowHeight baseScale zoom1 zoom2 := by
  have scaled := @blank_scale_nonneg prefs fbWidth fbHeight windowWidth windowHeight baseScale
    zoom1 zoom2 nonneg
  show (blank prefs fbWidth fbHeight windowWidth windowHeight baseScale zoom1
    zoom2).coerceSafeArea.coerceFrame = _
  unfold coerceSafeArea
  rw [blank_coercedSafeArea]
  exact congrArg₂ (standAt _) (place_zero (mul_nonneg width scaled))
    (place_zero (mul_nonneg height scaled))

/-- The fresh frame state once the saved zooms have replaced those of the profile. -/
theorem setZoom_connected (prefs : ZoomPrefs) (profileZoom1 profileZoom2 zoom1 zoom2 : ℚ)
    (width : 0 ≤ fbWidth) (height : 0 ≤ fbHeight) (across : 0 ≤ windowWidth)
    (down : 0 ≤ windowHeight) :
    (connected prefs profileZoom1 profileZoom2 windowWidth windowHeight fbWidth
        fbHeight).setZoom zoom1 zoom2 =
      blank prefs fbWidth fbHeight windowWidth windowHeight
        (baseScaleOf fbWidth fbHeight windowWidth windowHeight 1) zoom1 zoom2 := by
  have base := baseScaleOf_nonneg width height across down zero_le_one
  have created : ({ prefs } : FrameState).setZoom profileZoom1 profileZoom2 =
      blank prefs 0 0 0 0 1 profileZoom1 profileZoom2 :=
    coerceValues_blank le_rfl le_rfl zero_le_one
  have windowed : (blank prefs 0 0 0 0 1 profileZoom1 profileZoom2).setWindowSize windowWidth
      windowHeight = blank prefs 0 0 windowWidth windowHeight 1 _ _ :=
    coerceValues_blank le_rfl le_rfl zero_le_one
  have sized (first second : ℚ) :
      (blank prefs 0 0 windowWidth windowHeight 1 first second).setFramebufferSize fbWidth
        fbHeight = blank prefs fbWidth fbHeight windowWidth windowHeight
          (baseScaleOf fbWidth fbHeight windowWidth windowHeight 1)
          (coerceIn first prefs.minZoomScale prefs.maxZoomScale)
          (coerceIn second prefs.minZoomScale prefs.maxZoomScale) := by
    unfold setFramebufferSize
    rw [calculateBaseScale_eq]
    exact coerceValues_blank width height base
  unfold connected
  rw [created, windowed, sized]
  exact coerceValues_blank width height base

/-- Restoring a position before there is a viewport. -/
theorem blank_pan (x y : ℚ) :
    (blank prefs fbWidth fbHeight windowWidth windowHeight baseScale zoom1 zoom2).pan x y =
      (blank prefs fbWidth fbHeight windowWidth windowHeight baseScale zoom1 zoom2).standAt
        (place x (fbWidth * (blank prefs fbWidth fbHeight windowWidth windowHeight baseScale zoom1
          zoom2).scale) 0 0)
        (place y (fbHeight * (blank prefs fbWidth fbHeight windowWidth windowHeight baseScale zoom1
          zoom2).scale) 0 0) := by
  have moved := moveTo_eq (@blank_coerceZoom prefs fbWidth fbHeight windowWidth windowHeight
    baseScale zoom1 zoom2) blank_coercedSafeArea (0 + x) (0 + y)
  rw [zero_add x, zero_add y] at moved
  show (blank prefs fbWidth fbHeight windowWidth windowHeight baseScale zoom1 zoom2).moveTo (0 + x)
    (0 + y) = _
  rw [zero_add x, zero_add y]
  exact moved

/-! ### The layout pass -/

section Layout

variable {state : FrameState} (zoomed : state.coerceZoom = state)

include zoomed

/-- Coercing a state whose zoom scales are coerced places its frame in the coerced safe area. -/
theorem coerceValues_standAt {area : RectF} (coerced : state.coercedSafeArea = area) (x y : ℚ) :
    (state.standAt x y).coerceValues =
      ({ state with safeArea := area } : FrameState).standAt
        (place x (state.fbWidth * state.scale) area.left area.right)
        (place y (state.fbHeight * state.scale) area.top area.bottom) := by
  subst coerced
  exact @coerceValues_eq (state.standAt x y) (congrArg (·.standAt x y) zoomed)

theorem setWindowSize_again (noViewport : state.viewport = ⟨0, 0, 0, 0⟩)
    (noArea : state.safeArea = ⟨0, 0, 0, 0⟩)
    (based : baseScaleOf state.fbWidth state.fbHeight state.windowWidth state.windowHeight
      state.baseScale = state.baseScale) :
    state.setWindowSize state.windowWidth state.windowHeight = state.standAt
      (place state.frameX (state.fbWidth * state.scale) 0 0)
      (place state.frameY (state.fbHeight * state.scale) 0 0) := by
  have coerced : state.coercedSafeArea = ⟨0, 0, 0, 0⟩ := by
    unfold coercedSafeArea
    rw [noArea, noViewport]
    rfl
  show state.calculateBaseScale.coerceValues = _
  rw [calculateBaseScale_eq, based]
  refine (coerceValues_standAt zoomed coerced state.frameX state.frameY).trans ?_
  exact congrArg (fun empty => ({ state with safeArea := empty } : FrameState).standAt _ _)
    noArea.symm

/-- Until there is a safe area, the frame is placed in the whole viewport. -/
theorem setViewportSize_eq (noArea : state.safeArea = ⟨0, 0, 0, 0⟩) (x y vpWidth vpHeight : ℚ) :
    (state.standAt x y).setViewportSize vpWidth vpHeight =
      ({ state with vpWidth, vpHeight, safeArea := ⟨0, 0, vpWidth, vpHeight⟩ } :
        FrameState).standAt
        (place x (state.fbWidth * state.scale) 0 vpWidth)
        (place y (state.fbHeight * state.scale) 0 vpHeight) := by
  have whole : ({ state with vpWidth, vpHeight } : FrameState).coercedSafeArea =
      ⟨0, 0, vpWidth, vpHeight⟩ := by
    unfold coercedSafeArea
    rw [show ({ state with vpWidth, vpHeight } : FrameState).safeArea = _ from noArea]
    rfl
  exact coerceValues_standAt
    (congrArg (fun kept : FrameState => { kept with vpWidth, vpHeight }) zoomed) whole x y

/-- The layout pass of a state without a safe area. -/
theorem globalLayout_eq (noViewport : state.viewport = ⟨0, 0, 0, 0⟩)
    (noArea : state.safeArea = ⟨0, 0, 0, 0⟩)
    (based : baseScaleOf state.fbWidth state.fbHeight state.windowWidth state.windowHeight
      state.baseScale = state.baseScale) (vpWidth vpHeight : ℚ) (safeArea : RectF) :
    let laid : FrameState := { state with vpWidth, vpHeight, safeArea }
    let area := laid.coercedSafeArea
    globalLayout state state.windowWidth state.windowHeight vpWidth vpHeight safeArea =
      ({ laid with safeArea := area } : FrameState).standAt
        (laidOut state.frameX (state.fbWidth * state.scale) vpWidth area.left area.right)
        (laidOut state.frameY (state.fbHeight * state.scale) vpHeight area.top area.bottom) := by
  intro laid area
  unfold globalLayout
  rw [setWindowSize_again zoomed noViewport noArea based, setViewportSize_eq zoomed noArea]
  have sameZoom : laid.coerceZoom = laid :=
    congrArg (fun kept : FrameState => { kept with vpWidth, vpHeight, safeArea }) zoomed
  exact coerceValues_standAt sameZoom rfl _ _

end Layout

/-! ### The whole reconnection -/

/-- The base scale is the one a fresh frame state works out for the same sizes, and the zoom scale
in use is one the preferences admit. -/
def ScaleDetermined (state : FrameState) : Prop :=
  (state.fbHeight = 0 ∨ state.fbWidth = 0 ∨ state.windowHeight = 0 → state.baseScale = 1) ∧
    state.prefs.minZoomScale ≤ state.zoomScale ∧ state.zoomScale ≤ state.prefs.maxZoomScale

instance (state : FrameState) : Decidable (ScaleDetermined state) :=
  inferInstanceAs (Decidable (_ ∧ _ ∧ _))

/-- The frame state that a reconnection starts its layout pass from. -/
def restoredZoom (state : FrameState) : FrameState :=
  blank state.prefs state.fbWidth state.fbHeight state.windowWidth state.windowHeight
    (baseScaleOf state.fbWidth state.fbHeight state.windowWidth state.windowHeight 1)
    state.zoomScale1 state.zoomScale2

theorem reconnect_eq {state : FrameState} (measured : state.Measured)
    (profileZoom1 profileZoom2 : ℚ) :
    let area := state.coercedSafeArea
    reconnect state profileZoom1 profileZoom2 =
      ({ restoredZoom state with
          vpWidth := state.vpWidth
          vpHeight := state.vpHeight
          safeArea := area } : FrameState).standAt
        (laidOut state.frameX (state.fbWidth * (restoredZoom state).scale) state.vpWidth area.left
          area.right)
        (laidOut state.frameY (state.fbHeight * (restoredZoom state).scale) state.vpHeight area.top
          area.bottom) := by
  intro area
  have zoomed := setZoom_connected state.prefs profileZoom1 profileZoom2 state.zoomScale1
    state.zoomScale2 measured.fbWidth measured.fbHeight measured.windowWidth measured.windowHeight
  let x := place state.frameX (state.fbWidth * (restoredZoom state).scale) 0 0
  let y := place state.frameY (state.fbHeight * (restoredZoom state).scale) 0 0
  have restored : restoreFrameState (connected state.prefs profileZoom1 profileZoom2
      state.windowWidth state.windowHeight state.fbWidth state.fbHeight) (savedFrameState state) =
        (restoredZoom state).standAt x y :=
    (congrArg (·.pan state.frameX state.frameY) zoomed).trans (blank_pan _ _)
  have laid := @globalLayout_eq ((restoredZoom state).standAt x y)
    (congrArg (fun kept : FrameState => kept.standAt x y) blank_coerceZoom) rfl rfl
    (baseScaleOf_baseScaleOf _ _ _ _ _) state.vpWidth state.vpHeight state.safeArea
  unfold reconnect
  rw [restored]
  exact laid.trans (congrArg₂ (standAt _) (laidOut_place _ _ _ _ _) (laidOut_place _ _ _ _ _))

theorem zoomScale_restoredZoom (state : FrameState) :
    (restoredZoom state).zoomScale =
      coerceIn state.zoomScale state.prefs.minZoomScale state.prefs.maxZoomScale := by
  show (if state.useZoomScale1 then _ else _) = coerceIn (if state.useZoomScale1 then _ else _) _ _
  split <;> rfl

/-- A standing state gets its scale back just when that scale is determined. -/
theorem scale_restoredZoom_iff {state : FrameState} (standing : state.Standing) :
    (restoredZoom state).scale = state.scale ↔ ScaleDetermined state := by
  have base : (restoredZoom state).baseScale = state.baseScale ↔
      (state.fbHeight = 0 ∨ state.fbWidth = 0 ∨ state.windowHeight = 0 → state.baseScale = 1) := by
    have based := standing.based
    show baseScaleOf _ _ _ _ 1 = _ ↔ _
    unfold baseScaleOf at based ⊢
    split_ifs at based ⊢ with unknown
    · simp only [unknown, true_imp_iff]
      exact eq_comm
    · simp only [unknown, false_imp_iff, iff_true]
      exact based
  have within : coerceIn state.zoomScale state.prefs.minZoomScale state.prefs.maxZoomScale =
      state.zoomScale ↔ _ := coerceIn_eq_self_iff state.prefs.ordered
  unfold ScaleDetermined
  rw [← base, ← within, ← zoomScale_restoredZoom]
  show (restoredZoom state).baseScale * (restoredZoom state).zoomScale =
    state.baseScale * state.zoomScale ↔ _
  rcases standing.zoomed with start | zoomed
  · have fresh : (restoredZoom state).baseScale = state.baseScale := by rw [start]; rfl
    have one : state.baseScale = 1 := by rw [start]
    rw [fresh, one]
    simp only [one_mul, true_and]
  · have same : (restoredZoom state).zoomScale = state.zoomScale := by
      show state.coerceZoom.zoomScale = _
      rw [zoomed]
    rw [same]
    simp only [and_true]
    exact mul_left_inj' standing.zoomScale_pos.ne'

/-- What reconnecting is for: the frame stands where it stood, at the scale it had. -/
def ViewRestored (state : FrameState) (profileZoom1 profileZoom2 : ℚ) : Prop :=
  let restored := reconnect state profileZoom1 profileZoom2
  restored.frameX = state.frameX ∧ restored.frameY = state.frameY ∧
    restored.scale = state.scale

/-- The safe area that a layout pass takes over lies inside the viewport. -/
theorem coercedSafeArea_within {state : FrameState} (measured : state.Measured) :
    state.coercedSafeArea.Within state.viewport :=
  (coerced_coerceValues state measured.vpWidth measured.vpHeight).safe

/-- After every run, a reconnection restores the view just when the scale is determined by what
is saved and the position is restorable on both axes. -/
theorem viewRestored_iff (prefs : ZoomPrefs) (operations : List Operation)
    (run : (machine prefs).Run operations) (profileZoom1 profileZoom2 : ℚ) :
    let state := (machine prefs).after operations
    let area := state.coercedSafeArea
    ViewRestored state profileZoom1 profileZoom2 ↔
      ScaleDetermined state ∧
        Restorable state.frameX (state.fbWidth * state.scale) state.vpWidth area.left area.right ∧
        Restorable state.frameY (state.fbHeight * state.scale) state.vpHeight area.top
          area.bottom := by
  intro state area
  have standing : state.Standing := standing_run run
  obtain ⟨onLeft, onTop, onRight, onBottom, across, down⟩ :=
    coercedSafeArea_within standing.toMeasured
  have determined : (reconnect state profileZoom1 profileZoom2).scale = state.scale ↔
      ScaleDetermined state := by
    rw [reconnect_eq standing.toMeasured]
    exact scale_restoredZoom_iff standing
  unfold ViewRestored
  dsimp only
  rw [determined, ← and_assoc, and_comm]
  refine and_congr_right fun holds => ?_
  rw [reconnect_eq standing.toMeasured, (scale_restoredZoom_iff standing).mpr holds]
  exact and_congr (laidOut_eq_self_iff onLeft across onRight)
    (laidOut_eq_self_iff onTop down onBottom)

/-- A framebuffer of 100 by 100 at twice its size in a viewport of 100 by 100, panned. -/
def panned : List Operation :=
  [.setWindowSize 100 100, .setViewportSize 100 100, .setSafeArea ⟨0, 0, 100, 100⟩,
    .setFramebufferSize 100 100, .setZoom 2 2, .pan (-30) (-100)]

/-- Where the whole viewport is safe, a panned frame comes back. -/
theorem viewRestored_panned : ViewRestored ((machine .defaults).after panned) 1 1 :=
  (viewRestored_iff .defaults panned (by decide +kernel) 1 1).mpr
    ⟨by decide +kernel, by decide +kernel, by decide +kernel⟩

/-- The same with a keyboard over the lower part of the viewport, and the frame panned to the
end of what is left. -/
def pannedAboveKeyboard : List Operation :=
  [.setWindowSize 100 100, .setViewportSize 100 100, .setSafeArea ⟨0, 0, 100, 60⟩,
    .setFramebufferSize 100 100, .setZoom 2 2, .pan 0 (-140)]

/-- The frame that stood at -140 comes back at -100, the last position the whole viewport
allows. -/
theorem view_lost_aboveKeyboard :
    (machine .defaults).Run pannedAboveKeyboard ∧
      ¬ViewRestored ((machine .defaults).after pannedAboveKeyboard) 1 1 := by
  refine ⟨by decide +kernel, fun restored => ?_⟩
  exact absurd restored.2.1 (by decide +kernel)

end TermPlux.Reconnection
