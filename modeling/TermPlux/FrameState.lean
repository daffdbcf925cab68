/-
This file models `FrameState`: the framebuffer, viewport and window sizes, the
safe area, the two zoom slots, the derived base scale and the frame position,
with every public operation. Scales and coordinates are exact rationals.

Every operation ends in `coerceValues`, which restores the frame invariant from
any state with non-negative viewport sizes: both zoom scales are within the
preferences, the safe area is inside the viewport, and on each axis the scaled
framebuffer is placed by the rule of `Placement`. A run of operations therefore
keeps the invariant.
-/

import TermPlux.Graphics
import TermPlux.Machine

namespace TermPlux

/-! ### The state -/

/-- The constructor parameters of `FrameState`, which come from the viewer preferences. -/
structure ZoomPrefs where
  minZoomScale : ℚ
  maxZoomScale : ℚ
  usePerOrientationZoom : Bool
  positive : 0 < minZoomScale
  ordered : minZoomScale ≤ maxZoomScale

/-- The default arguments of the constructor. -/
def ZoomPrefs.defaults : ZoomPrefs where
  minZoomScale := 1 / 2
  maxZoomScale := 5
  usePerOrientationZoom := false
  positive := by norm_num
  ordered := by norm_num

structure FrameState where
  prefs : ZoomPrefs
  frameX : ℚ := 0
  frameY : ℚ := 0
  fbWidth : ℚ := 0
  fbHeight : ℚ := 0
  vpWidth : ℚ := 0
  vpHeight : ℚ := 0
  windowWidth : ℚ := 0
  windowHeight : ℚ := 0
  safeArea : RectF := ⟨0, 0, 0, 0⟩
  zoomScale1 : ℚ := 1
  zoomScale2 : ℚ := 1
  baseScale : ℚ := 1

namespace FrameState

def useZoomScale1 (state : FrameState) : Bool :=
  !state.prefs.usePerOrientationZoom || decide (state.windowHeight > state.windowWidth)

def zoomScale (state : FrameState) : ℚ :=
  if state.useZoomScale1 then state.zoomScale1 else state.zoomScale2

/-- The private setter of `zoomScale`. -/
def setZoomScale (state : FrameState) (value : ℚ) : FrameState :=
  if state.useZoomScale1 then { state with zoomScale1 := value }
  else { state with zoomScale2 := value }

def scale (state : FrameState) : ℚ :=
  state.baseScale * state.zoomScale

/-- The viewport as a rectangle. -/
def viewport (state : FrameState) : RectF :=
  ⟨0, 0, state.vpWidth, state.vpHeight⟩

/-! ### Coercion -/

def calculateBaseScale (state : FrameState) : FrameState :=
  if state.fbHeight = 0 ∨ state.fbWidth = 0 ∨ state.windowHeight = 0 then state
  else
    let s1 := max state.windowWidth state.windowHeight / max state.fbWidth state.fbHeight
    let s2 := min state.windowWidth state.windowHeight / min state.fbWidth state.fbHeight
    { state with baseScale := min s1 s2 }

def coercePosition (state : FrameState) (current safeMin safeMax fb : ℚ) : ℚ :=
  let scaledFb := fb * state.scale
  let diff := (safeMax - safeMin) - scaledFb
  if diff ≥ 0 then diff / 2 + safeMin else coerceIn current (diff + safeMin) safeMin

/-- The first two lines of `coerceValues`. -/
def coerceZoom (state : FrameState) : FrameState :=
  { state with
    zoomScale1 := coerceIn state.zoomScale1 state.prefs.minZoomScale state.prefs.maxZoomScale
    zoomScale2 := coerceIn state.zoomScale2 state.prefs.minZoomScale state.prefs.maxZoomScale }

/-- The safe area that `coerceValues` leaves: the part inside the viewport, or the whole
viewport when nothing is left. -/
def coercedSafeArea (state : FrameState) : RectF :=
  if state.safeArea.isEmpty then state.viewport
  else (state.safeArea.intersect 0 0 state.vpWidth state.vpHeight).getD state.viewport

def coerceSafeArea (state : FrameState) : FrameState :=
  { state with safeArea := state.coercedSafeArea }

/-- The last two lines of `coerceValues`. -/
def coerceFrame (state : FrameState) : FrameState :=
  { state with
    frameX := state.coercePosition state.frameX state.safeArea.left state.safeArea.right
      state.fbWidth
    frameY := state.coercePosition state.frameY state.safeArea.top state.safeArea.bottom
      state.fbHeight }

def coerceValues (state : FrameState) : FrameState :=
  state.coerceZoom.coerceSafeArea.coerceFrame

/-! ### Public operations -/

def setFramebufferSize (state : FrameState) (w h : ℚ) : FrameState :=
  { state with fbWidth := w, fbHeight := h }.calculateBaseScale.coerceValues

def setViewportSize (state : FrameState) (w h : ℚ) : FrameState :=
  { state with vpWidth := w, vpHeight := h }.coerceValues

def setWindowSize (state : FrameState) (w h : ℚ) : FrameState :=
  { state with windowWidth := w, windowHeight := h }.calculateBaseScale.coerceValues

def setSafeArea (state : FrameState) (rect : RectF) : FrameState :=
  { state with safeArea := rect }.coerceValues

/-- The new state and how much of the scale factor was applied. -/
def updateZoom (state : FrameState) (scaleFactor : ℚ) : FrameState × ℚ :=
  let oldScale := state.zoomScale
  let updated := (state.setZoomScale (state.zoomScale * scaleFactor)).coerceValues
  (updated, updated.zoomScale / oldScale)

def setZoom (state : FrameState) (zoom1 zoom2 : ℚ) : FrameState :=
  { state with zoomScale1 := zoom1, zoomScale2 := zoom2 }.coerceValues

def pan (state : FrameState) (deltaX deltaY : ℚ) : FrameState :=
  { state with frameX := state.frameX + deltaX, frameY := state.frameY + deltaY }.coerceValues

def moveTo (state : FrameState) (x y : ℚ) : FrameState :=
  { state with frameX := x, frameY := y }.coerceValues

inductive Operation
  | setFramebufferSize (w h : ℚ)
  | setViewportSize (w h : ℚ)
  | setWindowSize (w h : ℚ)
  | setSafeArea (rect : RectF)
  | updateZoom (scaleFactor : ℚ)
  | setZoom (zoom1 zoom2 : ℚ)
  | pan (deltaX deltaY : ℚ)
  | moveTo (x y : ℚ)

/-- Sizes handed to the frame state are never negative. -/
def Operation.Sized : Operation → Prop
  | .setFramebufferSize w h | .setViewportSize w h | .setWindowSize w h => 0 ≤ w ∧ 0 ≤ h
  | _ => True

def apply (state : FrameState) : Operation → FrameState
  | .setFramebufferSize w h => state.setFramebufferSize w h
  | .setViewportSize w h => state.setViewportSize w h
  | .setWindowSize w h => state.setWindowSize w h
  | .setSafeArea rect => state.setSafeArea rect
  | .updateZoom scaleFactor => (state.updateZoom scaleFactor).1
  | .setZoom zoom1 zoom2 => state.setZoom zoom1 zoom2
  | .pan deltaX deltaY => state.pan deltaX deltaY
  | .moveTo x y => state.moveTo x y

/-- A fresh frame state and the operations on it. -/
def machine (prefs : ZoomPrefs) : Machine FrameState Operation where
  start := { prefs }
  enabled _ operation := operation.Sized
  step := apply

/-! ### Points -/

def isValidFbPoint (state : FrameState) (x y : ℚ) : Bool :=
  decide (0 ≤ x ∧ x < state.fbWidth) && decide (0 ≤ y ∧ y < state.fbHeight)

/-- At scale zero the quotients are infinite or not numbers, so no point is valid. -/
def toFb (state : FrameState) (vpPoint : PointF) : Option PointF :=
  if state.scale ≠ 0 ∧ state.isValidFbPoint ((vpPoint.x - state.frameX) / state.scale)
      ((vpPoint.y - state.frameY) / state.scale) then
    some ⟨(vpPoint.x - state.frameX) / state.scale, (vpPoint.y - state.frameY) / state.scale⟩
  else none

def toVP (state : FrameState) (fbPoint : PointF) : PointF :=
  ⟨fbPoint.x * state.scale + state.frameX, fbPoint.y * state.scale + state.frameY⟩

/-! ### The frame invariant -/

/-- What `coerceValues` establishes. -/
structure Coerced (state : FrameState) : Prop where
  zoom1 : state.prefs.minZoomScale ≤ state.zoomScale1 ∧
    state.zoomScale1 ≤ state.prefs.maxZoomScale
  zoom2 : state.prefs.minZoomScale ≤ state.zoomScale2 ∧
    state.zoomScale2 ≤ state.prefs.maxZoomScale
  safe : state.safeArea.Within state.viewport
  horizontal : Placed state.frameX (state.fbWidth * state.scale) state.safeArea.left
    state.safeArea.right
  vertical : Placed state.frameY (state.fbHeight * state.scale) state.safeArea.top
    state.safeArea.bottom

/-- The position formula of the source is `place` on the scaled framebuffer. -/
theorem coercePosition_eq_place (state : FrameState) (current safeMin safeMax fb : ℚ) :
    state.coercePosition current safeMin safeMax fb =
      place current (fb * state.scale) safeMin safeMax := rfl

theorem placed_coercePosition (state : FrameState) (current safeMin safeMax fb : ℚ) :
    Placed (state.coercePosition current safeMin safeMax fb) (fb * state.scale) safeMin
      safeMax := by
  rw [coercePosition_eq_place]
  exact placed_place current (fb * state.scale) safeMin safeMax

theorem coercedSafeArea_within (state : FrameState) (width : 0 ≤ state.vpWidth)
    (height : 0 ≤ state.vpHeight) : state.coercedSafeArea.Within state.viewport := by
  have whole : state.viewport.Within state.viewport :=
    ⟨le_rfl, le_rfl, le_rfl, le_rfl, width, height⟩
  unfold coercedSafeArea
  split
  · exact whole
  · rename_i nonempty
    cases intersects : state.safeArea.intersect 0 0 state.vpWidth state.vpHeight with
    | none => exact whole
    | some result =>
      exact RectF.within_of_intersect (Bool.not_eq_true _ ▸ nonempty) width height intersects

/-- `coerceValues` establishes the frame invariant from any state whose viewport has
non-negative size. -/
theorem coerced_coerceValues (state : FrameState) (width : 0 ≤ state.vpWidth)
    (height : 0 ≤ state.vpHeight) : state.coerceValues.Coerced where
  zoom1 := ⟨low_le_coerceIn _ state.prefs.ordered, coerceIn_le_high _ state.prefs.ordered⟩
  zoom2 := ⟨low_le_coerceIn _ state.prefs.ordered, coerceIn_le_high _ state.prefs.ordered⟩
  safe := coercedSafeArea_within state.coerceZoom width height
  horizontal := placed_coercePosition state.coerceZoom.coerceSafeArea _ _ _ _
  vertical := placed_coercePosition state.coerceZoom.coerceSafeArea _ _ _ _

@[simp] theorem calculateBaseScale_prefs (state : FrameState) :
    state.calculateBaseScale.prefs = state.prefs := by
  unfold calculateBaseScale
  split <;> rfl

@[simp] theorem calculateBaseScale_vpWidth (state : FrameState) :
    state.calculateBaseScale.vpWidth = state.vpWidth := by
  unfold calculateBaseScale
  split <;> rfl

@[simp] theorem calculateBaseScale_vpHeight (state : FrameState) :
    state.calculateBaseScale.vpHeight = state.vpHeight := by
  unfold calculateBaseScale
  split <;> rfl

@[simp] theorem setZoomScale_prefs (state : FrameState) (value : ℚ) :
    (state.setZoomScale value).prefs = state.prefs := by
  unfold setZoomScale
  split <;> rfl

@[simp] theorem setZoomScale_vpWidth (state : FrameState) (value : ℚ) :
    (state.setZoomScale value).vpWidth = state.vpWidth := by
  unfold setZoomScale
  split <;> rfl

@[simp] theorem setZoomScale_vpHeight (state : FrameState) (value : ℚ) :
    (state.setZoomScale value).vpHeight = state.vpHeight := by
  unfold setZoomScale
  split <;> rfl

/-- What a run of operations keeps: the preferences it started with, a viewport of
non-negative size, and the frame invariant. -/
structure Sound (prefs : ZoomPrefs) (state : FrameState) : Prop where
  prefs : state.prefs = prefs
  width : 0 ≤ state.vpWidth
  height : 0 ≤ state.vpHeight
  coerced : state.Coerced

/-- Coercing restores soundness from the preferences and the viewport size alone. -/
theorem sound_coerceValues {prefs : ZoomPrefs} {state : FrameState} (same : state.prefs = prefs)
    (width : 0 ≤ state.vpWidth) (height : 0 ≤ state.vpHeight) : Sound prefs state.coerceValues :=
  ⟨same, width, height, coerced_coerceValues state width height⟩

theorem sound_apply {prefs : ZoomPrefs} {state : FrameState} (operation : Operation)
    (sound : Sound prefs state) (sized : operation.Sized) :
    Sound prefs (state.apply operation) := by
  obtain ⟨same, width, height, -⟩ := sound
  cases operation with
  | setFramebufferSize w h =>
    exact sound_coerceValues (by simpa using same) (by simpa using width) (by simpa using height)
  | setViewportSize w h => exact sound_coerceValues same sized.1 sized.2
  | setWindowSize w h =>
    exact sound_coerceValues (by simpa using same) (by simpa using width) (by simpa using height)
  | setSafeArea rect => exact sound_coerceValues same width height
  | updateZoom scaleFactor =>
    exact sound_coerceValues (by simpa using same) (by simpa using width) (by simpa using height)
  | setZoom zoom1 zoom2 => exact sound_coerceValues same width height
  | pan deltaX deltaY => exact sound_coerceValues same width height
  | moveTo x y => exact sound_coerceValues same width height

/-- A fresh frame state is sound when the preferences allow a zoom scale of one. -/
theorem sound_start (prefs : ZoomPrefs) (below : prefs.minZoomScale ≤ 1)
    (above : 1 ≤ prefs.maxZoomScale) : Sound prefs (machine prefs).start where
  prefs := rfl
  width := le_rfl
  height := le_rfl
  coerced :=
    { zoom1 := ⟨below, above⟩
      zoom2 := ⟨below, above⟩
      safe := ⟨le_rfl, le_rfl, le_rfl, le_rfl, le_rfl, le_rfl⟩
      horizontal := by constructor <;> simp [machine]
      vertical := by constructor <;> simp [machine] }

theorem sound_run {prefs : ZoomPrefs} (below : prefs.minZoomScale ≤ 1)
    (above : 1 ≤ prefs.maxZoomScale) {operations : List Operation}
    (run : (machine prefs).Run operations) : Sound prefs ((machine prefs).after operations) :=
  run.invariant (Sound prefs) (sound_start prefs below above)
    fun _ operation sound sized => sound_apply operation sound sized

/-- Setting an empty safe area, or one that lies beside the viewport, makes the whole viewport
safe. -/
theorem setSafeArea_safeArea_of_outside (state : FrameState) (rect : RectF)
    (outside : rect.isEmpty = true ∨ rect.Apart state.viewport) :
    (state.setSafeArea rect).safeArea = state.viewport := by
  show coercedSafeArea { state with safeArea := rect } = state.viewport
  unfold coercedSafeArea
  rcases outside with empty | apart
  · exact if_pos empty
  · rw [RectF.intersect_of_apart apart]
    exact ite_self _

/-- The frame invariant: after every run of public operations both zoom scales are within the
preferences, the safe area is inside the viewport and the frame is centred in it or covers it
on each axis; and setting a safe area outside of the viewport makes the whole viewport
safe. -/
theorem frame_invariant (prefs : ZoomPrefs) (below : prefs.minZoomScale ≤ 1)
    (above : 1 ≤ prefs.maxZoomScale) (operations : List Operation)
    (run : (machine prefs).Run operations) :
    ((machine prefs).after operations).prefs = prefs ∧
      ((machine prefs).after operations).Coerced ∧
      ∀ rect : RectF,
        rect.isEmpty = true ∨ rect.Apart ((machine prefs).after operations).viewport →
        (((machine prefs).after operations).setSafeArea rect).safeArea =
          (((machine prefs).after operations).setSafeArea rect).viewport := by
  have sound := sound_run below above run
  exact ⟨sound.prefs, sound.coerced, fun rect outside =>
    setSafeArea_safeArea_of_outside _ rect outside⟩

/-- The invariant after a connection, a layout pass with a cutout and a pinch. -/
theorem frame_invariant_layout :
    ((machine .defaults).after [.setFramebufferSize 1920 1080, .setWindowSize 800 600,
      .setViewportSize 800 600, .setSafeArea ⟨50, 0, 800, 600⟩, .updateZoom 3]).Coerced :=
  (frame_invariant .defaults (by norm_num [ZoomPrefs.defaults])
    (by norm_num [ZoomPrefs.defaults])
    [.setFramebufferSize 1920 1080, .setWindowSize 800 600, .setViewportSize 800 600,
      .setSafeArea ⟨50, 0, 800, 600⟩, .updateZoom 3]
    ⟨⟨by norm_num, by norm_num⟩, ⟨by norm_num, by norm_num⟩, ⟨by norm_num, by norm_num⟩,
      trivial, trivial, trivial⟩).2.1

end FrameState

end TermPlux
