/-
This file proves what the base scale is for. It does not depend on how the window
is turned, and where the longer edges of window and framebuffer are aligned it is
the largest scale at which the whole framebuffer fits into the window.

A window without width still counts as known as long as it has a height, and it
makes the base scale zero. The effective scale of a run stays positive just when
no base scale is calculated for such a window.
-/

import TermPlux.Fitting
import TermPlux.FrameRuns

namespace TermPlux.FrameState

variable {state : FrameState}

/-! ### The best fit -/

/-- The longer edge of the window is along the longer edge of the framebuffer. -/
def Aligned (state : FrameState) : Prop :=
  (state.fbHeight ≤ state.fbWidth ∧ state.windowHeight ≤ state.windowWidth) ∨
    (state.fbWidth ≤ state.fbHeight ∧ state.windowWidth ≤ state.windowHeight)

/-- The framebuffer fits into the window at a scale. -/
def FitsWindow (state : FrameState) (scale : ℚ) : Prop :=
  Fits scale state.fbWidth state.fbHeight state.windowWidth state.windowHeight

/-- The framebuffer fills the window on an axis at a scale. -/
def FillsWindow (state : FrameState) (scale : ℚ) : Prop :=
  Fills scale state.fbWidth state.fbHeight state.windowWidth state.windowHeight

/-- With aligned edges the long-edge ratio and the short-edge ratio are those of the axes. -/
theorem baseScaleOf_eq_fitScale {fbWidth fbHeight windowWidth windowHeight old : ℚ}
    (known : ¬(fbHeight = 0 ∨ fbWidth = 0 ∨ windowHeight = 0))
    (aligned : (fbHeight ≤ fbWidth ∧ windowHeight ≤ windowWidth) ∨
      (fbWidth ≤ fbHeight ∧ windowWidth ≤ windowHeight)) :
    baseScaleOf fbWidth fbHeight windowWidth windowHeight old =
      fitScale fbWidth fbHeight windowWidth windowHeight := by
  unfold baseScaleOf fitScale
  rw [if_neg known]
  rcases aligned with ⟨frame, window⟩ | ⟨frame, window⟩
  · rw [max_eq_left frame, min_eq_right frame, max_eq_left window, min_eq_right window]
  · rw [max_eq_right frame, min_eq_left frame, max_eq_right window, min_eq_left window, min_comm]

theorem baseScaleOf_comm {fbWidth fbHeight windowWidth windowHeight old : ℚ}
    (across : windowWidth ≠ 0) (down : windowHeight ≠ 0) :
    baseScaleOf fbWidth fbHeight windowHeight windowWidth old =
      baseScaleOf fbWidth fbHeight windowWidth windowHeight old := by
  unfold baseScaleOf
  rw [max_comm windowHeight, min_comm windowHeight]
  simp only [across, down]

theorem baseScale_setWindowSize (state : FrameState) (w h : ℚ) :
    (state.setWindowSize w h).baseScale =
      baseScaleOf state.fbWidth state.fbHeight w h state.baseScale := by
  show (calculateBaseScale _).baseScale = _
  rw [calculateBaseScale_eq]

theorem baseScale_setFramebufferSize (state : FrameState) (w h : ℚ) :
    (state.setFramebufferSize w h).baseScale =
      baseScaleOf w h state.windowWidth state.windowHeight state.baseScale := by
  show (calculateBaseScale _).baseScale = _
  rw [calculateBaseScale_eq]

/-- After every run, with sizes that are positive, the base scale is that of the turned window
too, and with aligned edges it is the largest scale at which the framebuffer fits. -/
theorem baseScale_optimal (prefs : ZoomPrefs) (operations : List Operation)
    (run : (machine prefs).Run operations)
    (fbWidth : 0 < ((machine prefs).after operations).fbWidth)
    (fbHeight : 0 < ((machine prefs).after operations).fbHeight)
    (windowWidth : 0 < ((machine prefs).after operations).windowWidth)
    (windowHeight : 0 < ((machine prefs).after operations).windowHeight) :
    let state := (machine prefs).after operations
    (state.setWindowSize state.windowHeight state.windowWidth).baseScale = state.baseScale ∧
      (state.Aligned → state.FitsWindow state.baseScale ∧ state.FillsWindow state.baseScale ∧
        ∀ scale > state.baseScale, ¬state.FitsWindow scale) := by
  intro state
  have based := (standing_run run).based
  constructor
  · rw [baseScale_setWindowSize, baseScaleOf_comm windowWidth.ne' windowHeight.ne']
    exact based
  · intro aligned
    have known : ¬(state.fbHeight = 0 ∨ state.fbWidth = 0 ∨ state.windowHeight = 0) := by
      rintro (none | none | none)
      · exact fbHeight.ne' none
      · exact fbWidth.ne' none
      · exact windowHeight.ne' none
    have best : fitScale state.fbWidth state.fbHeight state.windowWidth state.windowHeight =
        state.baseScale := (baseScaleOf_eq_fitScale known aligned).symm.trans based
    rw [← best]
    exact ⟨fits_fitScale fbWidth fbHeight, fills_fitScale fbWidth fbHeight, fun scale larger =>
      not_fits_of_fitScale_lt fbWidth fbHeight larger⟩

/-- A wide framebuffer in a window of the usual shape. -/
def wideConnection : List Operation := [.setFramebufferSize 1920 1080, .setWindowSize 800 600]

theorem baseScale_optimal_wideConnection :
    (((machine .defaults).after wideConnection).setWindowSize 600 800).baseScale = 5 / 12 ∧
      ((machine .defaults).after wideConnection).FitsWindow (5 / 12) := by
  have optimal := baseScale_optimal .defaults wideConnection (by decide +kernel)
    (by decide +kernel) (by decide +kernel) (by decide +kernel) (by decide +kernel)
  have scale : ((machine .defaults).after wideConnection).baseScale = 5 / 12 := by
    decide +kernel
  rw [← scale]
  exact ⟨optimal.1, (optimal.2 (.inl (by decide +kernel))).1⟩

/-! ### A positive scale -/

/-- No base scale is calculated for a window without width. -/
def KeepsWidth (state : FrameState) : Operation → Prop
  | .setFramebufferSize w h =>
    w ≠ 0 ∧ h ≠ 0 ∧ state.windowHeight ≠ 0 → state.windowWidth ≠ 0
  | .setWindowSize w h => state.fbWidth ≠ 0 ∧ state.fbHeight ≠ 0 ∧ h ≠ 0 → w ≠ 0
  | _ => True

instance (state : FrameState) : ∀ operation : Operation, Decidable (state.KeepsWidth operation)
  | .setFramebufferSize _ _ | .setWindowSize _ _ => inferInstanceAs (Decidable (_ → _))
  | .setViewportSize _ _ | .setSafeArea _ | .updateZoom _ | .setZoom _ _ | .pan _ _
  | .moveTo _ _ => .isTrue trivial

/-- Of the sizes that are checked none is zero, so a positive base scale is only lost to the
width of the window, which is not checked. -/
theorem baseScaleOf_pos_iff {fbWidth fbHeight windowWidth windowHeight old : ℚ}
    (width : 0 ≤ fbWidth) (height : 0 ≤ fbHeight) (across : 0 ≤ windowWidth)
    (down : 0 ≤ windowHeight) (positive : 0 < old) :
    0 < baseScaleOf fbWidth fbHeight windowWidth windowHeight old ↔
      (fbWidth ≠ 0 ∧ fbHeight ≠ 0 ∧ windowHeight ≠ 0 → windowWidth ≠ 0) := by
  unfold baseScaleOf
  split
  next unknown =>
    refine iff_of_true positive fun known => ?_
    rcases unknown with none | none | none
    · exact absurd none known.2.1
    · exact absurd none known.1
    · exact absurd none known.2.2
  next known =>
    rw [not_or, not_or] at known
    obtain ⟨fbHeight', fbWidth', windowHeight'⟩ := known
    have wide : 0 < fbWidth := lt_of_le_of_ne width (Ne.symm fbWidth')
    have high : 0 < fbHeight := lt_of_le_of_ne height (Ne.symm fbHeight')
    have tall : 0 < windowHeight := lt_of_le_of_ne down (Ne.symm windowHeight')
    rw [lt_min_iff, div_pos_iff_of_pos_right (lt_max_of_lt_left wide),
      div_pos_iff_of_pos_right (lt_min wide high), lt_min_iff]
    constructor
    · exact fun positives _ => positives.2.1.ne'
    · intro nonzero
      have broad : 0 < windowWidth :=
        lt_of_le_of_ne across (nonzero ⟨fbWidth', fbHeight', windowHeight'⟩).symm
      exact ⟨lt_max_of_lt_left broad, broad, tall⟩

/-- The zoom scales of a run are positive, so the effective scale has the sign of the base
scale. -/
theorem Standing.scale_pos_iff (standing : state.Standing) :
    0 < state.scale ↔ 0 < state.baseScale :=
  mul_pos_iff_of_pos_right standing.zoomScale_pos

/-- An operation keeps the effective scale positive just when it meets the condition. -/
theorem scale_apply_pos_iff {operation : Operation} (standing : state.Standing)
    (positive : 0 < state.scale) (sized : operation.Sized) :
    0 < (state.apply operation).scale ↔ state.KeepsWidth operation := by
  have base : 0 < state.baseScale := standing.scale_pos_iff.mp positive
  rw [(standing_apply standing sized).scale_pos_iff]
  cases operation with
  | setFramebufferSize w h =>
    show 0 < (state.setFramebufferSize w h).baseScale ↔ _
    rw [baseScale_setFramebufferSize]
    exact baseScaleOf_pos_iff sized.1 sized.2 standing.windowWidth standing.windowHeight base
  | setWindowSize w h =>
    show 0 < (state.setWindowSize w h).baseScale ↔ _
    rw [baseScale_setWindowSize]
    exact baseScaleOf_pos_iff standing.fbWidth standing.fbHeight sized.1 sized.2 base
  | updateZoom scaleFactor =>
    have kept : (state.updateZoom scaleFactor).1.baseScale = state.baseScale := by
      show (state.setZoomScale _).baseScale = _
      unfold setZoomScale
      split <;> rfl
    exact iff_of_true (kept.symm ▸ base) trivial
  | setViewportSize w h | setSafeArea rect | setZoom zoom1 zoom2 | pan deltaX deltaY
  | moveTo x y => exact iff_of_true base trivial

/-- The effective scale is positive all along a run just when no base scale is calculated for a
window without width. -/
theorem scale_positive_iff (prefs : ZoomPrefs) (operations : List Operation)
    (run : (machine prefs).Run operations) :
    (machine prefs).Always (fun state => 0 < state.scale) operations ↔
      ((machine prefs).restrict KeepsWidth).Run operations := by
  refine run.always_iff Standing (fun state => 0 < state.scale) (standing_start prefs) ?_
    (fun _ _ standing sized _ => standing_apply standing sized)
    fun _ _ standing positive sized => scale_apply_pos_iff standing positive sized
  exact (standing_start prefs).scale_pos_iff.mpr zero_lt_one

theorem scale_positive_wideConnection :
    (machine .defaults).Always (fun state => 0 < state.scale) wideConnection :=
  (scale_positive_iff .defaults wideConnection (by decide +kernel)).mpr (by decide +kernel)

/-- A framebuffer is shown in a window that has no width yet. -/
def narrowConnection : List Operation := [.setFramebufferSize 100 100, .setWindowSize 0 100]

theorem scale_zero_narrowConnection :
    (machine .defaults).Run narrowConnection ∧
      ¬(machine .defaults).Always (fun state => 0 < state.scale) narrowConnection := by
  refine ⟨by decide +kernel, fun always => ?_⟩
  have shown : 0 < ((machine .defaults).after narrowConnection).scale := always.2.2
  have none : ((machine .defaults).after narrowConnection).scale = 0 := by decide +kernel
  rw [none] at shown
  exact lt_irrefl 0 shown

end TermPlux.FrameState
