/-
This file models `FrameScroller`: the limits between which a fling moves the
frame, computed apart from the coercion of `FrameState`. On each axis the limits
are those of a drag just when the frame fits the safe area, or starts before a
safe area that itself starts at the edge of the viewport. A frame that stands at
the start of the safe area is taken to be centred and is not flung at all, and a
safe area that starts further in is left out of the lower limit, so that the
coercion stops the frame before the fling does.
-/

import Mathlib.Order.Interval.Set.Basic
import TermPlux.FrameRuns

namespace TermPlux.FrameScroller

/-! ### Limits -/

/-- The lower limit on one axis. -/
def minOnAxis (position safeStart safeLength scaledFb : ℚ) : ℚ :=
  if position ≥ safeStart then position else safeLength - scaledFb

/-- The upper limit on one axis. -/
def maxOnAxis (position safeStart : ℚ) : ℚ :=
  if position ≥ safeStart then position else safeStart

variable (fs : FrameState)

def minX : ℚ := minOnAxis fs.frameX fs.safeArea.left fs.safeArea.width (fs.fbWidth * fs.scale)

def maxX : ℚ := maxOnAxis fs.frameX fs.safeArea.left

def minY : ℚ := minOnAxis fs.frameY fs.safeArea.top fs.safeArea.height (fs.fbHeight * fs.scale)

def maxY : ℚ := maxOnAxis fs.frameY fs.safeArea.top

/-- What a `FlingAnimation` is started with. -/
structure FlingAnimation where
  startValue : ℚ
  startVelocity : ℚ
  minValue : ℚ
  maxValue : ℚ
  deriving DecidableEq

/-- The two animations that `fling` starts. -/
def fling (vx vy : ℚ) : FlingAnimation × FlingAnimation :=
  ({ startValue := fs.frameX, startVelocity := vx, minValue := minX fs, maxValue := maxX fs },
    { startValue := fs.frameY, startVelocity := vy, minValue := minY fs, maxValue := maxY fs })

/-- The update listener of `xAnimator`. -/
def xUpdate (x : ℚ) : FrameState := fs.moveTo x fs.frameY

/-- The update listener of `yAnimator`. -/
def yUpdate (y : ℚ) : FrameState := fs.moveTo fs.frameX y

/-! ### The limits of a drag -/

/-- The limits on one axis are those of the position rule just when the segment fits the window,
or starts before a window that starts at zero. -/
theorem limits_eq_placed_iff {position size first last : ℚ}
    (placed : Placed position size first last) :
    Set.Icc (minOnAxis position first (last - first) size) (maxOnAxis position first) =
        {other | Placed other size first last} ↔
      size ≤ last - first ∨ (position < first ∧ first = 0) := by
  rcases le_or_gt size (last - first) with fits | exceeds
  · refine iff_of_true ?_ (.inl fits)
    have centred := (placed_iff_of_fits fits).mp placed
    have after : position ≥ first := by linarith
    rw [minOnAxis, maxOnAxis, if_pos after, if_pos after, Set.Icc_self]
    ext other
    rw [Set.mem_singleton_iff, Set.mem_ofPred_eq, placed_iff_of_fits fits, centred]
  · have allowed : {other | Placed other size first last} = Set.Icc (last - size) first :=
      Set.ext fun other => placed_iff_of_exceeds exceeds
    have wide : last - size < first := by linarith
    rw [allowed, or_iff_right (not_le.mpr exceeds)]
    rcases lt_or_ge position first with before | after
    · rw [minOnAxis, maxOnAxis, if_neg (not_le.mpr before), if_neg (not_le.mpr before),
        and_iff_right before]
      constructor
      · intro same
        have member : last - size ∈ Set.Icc (last - first - size) first :=
          same ▸ Set.left_mem_Icc.mpr wide.le
        have lower := (Set.Icc_subset_Icc_iff (by linarith [member.1])).mp same.subset
        linarith [member.1, lower.1]
      · rintro rfl
        rw [sub_zero]
    · rw [minOnAxis, maxOnAxis, if_pos after, if_pos after, Set.Icc_self]
      refine iff_of_false (fun same => ?_) fun start => absurd start.1 (not_lt.mpr after)
      have lower : last - size = position :=
        Set.mem_singleton_iff.mp (same ▸ Set.left_mem_Icc.mpr wide.le)
      linarith

/-- The limits always hold the position itself. -/
theorem position_mem_limits {position size first last : ℚ} (nonneg : 0 ≤ first)
    (placed : Placed position size first last) :
    position ∈
      Set.Icc (minOnAxis position first (last - first) size) (maxOnAxis position first) := by
  unfold minOnAxis maxOnAxis
  split
  · exact ⟨le_rfl, le_rfl⟩
  · next before =>
    have exceeds : last - first < size := by
      refine not_le.mp fun fits => before ?_
      have centred := (placed_iff_of_fits fits).mp placed
      linarith
    obtain ⟨covers, ends⟩ := placed.covers exceeds
    exact ⟨by linarith, covers⟩

/-- On each axis the limits of a fling are the positions that moving the frame leaves unchanged
just when the frame fits the safe area, or starts before a safe area that starts at the edge of
the viewport. They always hold the position of the frame. -/
theorem limits_agree_iff (prefs : ZoomPrefs) (operations : List FrameState.Operation)
    (run : (FrameState.machine prefs).Run operations) :
    let fs := (FrameState.machine prefs).after operations
    0 < fs.scale → fs.safeArea.isEmpty = false → ∀ vx vy : ℚ,
      (Set.Icc (fling fs vx vy).1.minValue (fling fs vx vy).1.maxValue =
            {x | ∀ y, (fs.moveTo x y).frameX = x} ↔
          fs.fbWidth * fs.scale ≤ fs.safeArea.width ∨
            (fs.frameX < fs.safeArea.left ∧ fs.safeArea.left = 0)) ∧
        (Set.Icc (fling fs vx vy).2.minValue (fling fs vx vy).2.maxValue =
            {y | ∀ x, (fs.moveTo x y).frameY = y} ↔
          fs.fbHeight * fs.scale ≤ fs.safeArea.height ∨
            (fs.frameY < fs.safeArea.top ∧ fs.safeArea.top = 0)) ∧
        fs.frameX ∈ Set.Icc (fling fs vx vy).1.minValue (fling fs vx vy).1.maxValue ∧
        fs.frameY ∈ Set.Icc (fling fs vx vy).2.minValue (fling fs vx vy).2.maxValue := by
  intro fs _ nonempty vx vy
  have standing : fs.Standing := FrameState.standing_run run
  have unchangedX : {x | ∀ y, (fs.moveTo x y).frameX = x} =
      {x | Placed x (fs.fbWidth * fs.scale) fs.safeArea.left fs.safeArea.right} := by
    ext x
    simp only [Set.mem_ofPred_eq, standing.moveTo_eq nonempty, FrameState.standAt, place_eq_self_iff,
      forall_const]
  have unchangedY : {y | ∀ x, (fs.moveTo x y).frameY = y} =
      {y | Placed y (fs.fbHeight * fs.scale) fs.safeArea.top fs.safeArea.bottom} := by
    ext y
    simp only [Set.mem_ofPred_eq, standing.moveTo_eq nonempty, FrameState.standAt, place_eq_self_iff,
      forall_const]
  rw [unchangedX, unchangedY]
  exact ⟨limits_eq_placed_iff standing.horizontal, limits_eq_placed_iff standing.vertical,
    position_mem_limits standing.within.left standing.horizontal,
    position_mem_limits standing.within.top standing.vertical⟩

/-! ### The frame that is flung -/

/-- The limits on one axis lead nowhere that a drag would not just when the segment starts at or
after the start of the window, or the window starts at zero. -/
theorem limits_subset_iff {position size first last : ℚ} (nonneg : 0 ≤ first)
    (placed : Placed position size first last) :
    Set.Icc (minOnAxis position first (last - first) size) (maxOnAxis position first) ⊆
        {other | Placed other size first last} ↔
      first ≤ position ∨ first = 0 := by
  rcases lt_or_ge position first with before | after
  · have exceeds : last - first < size := by
      refine not_le.mp fun fits => ?_
      have centred := (placed_iff_of_fits fits).mp placed
      linarith
    have allowed : {other | Placed other size first last} = Set.Icc (last - size) first :=
      Set.ext fun other => placed_iff_of_exceeds exceeds
    have wide : last - first - size ≤ first := by linarith
    rw [allowed, minOnAxis, maxOnAxis, if_neg (not_le.mpr before), if_neg (not_le.mpr before),
      Set.Icc_subset_Icc_iff wide, or_iff_right (not_le.mpr before)]
    constructor
    · rintro ⟨lower, -⟩
      linarith
    · rintro rfl
      exact ⟨by linarith, le_rfl⟩
  · rw [minOnAxis, maxOnAxis, if_pos after, if_pos after, Set.Icc_self, Set.singleton_subset_iff]
    exact iff_of_true placed (.inl after)

/-- What an animator gives to its update listener. -/
inductive Update
  | x (value : ℚ)
  | y (value : ℚ)

/-- An animator gives no value outside its limits. -/
def Within (animations : FlingAnimation × FlingAnimation) : Update → Prop
  | .x value => value ∈ Set.Icc animations.1.minValue animations.1.maxValue
  | .y value => value ∈ Set.Icc animations.2.minValue animations.2.maxValue

def update : Update → FrameState
  | .x value => xUpdate fs value
  | .y value => yUpdate fs value

/-- The frame put where the animator has come to, with nothing coerced. -/
def follow : Update → FrameState
  | .x value => fs.standAt value fs.frameY
  | .y value => fs.standAt fs.frameX value

/-- Moving the frame along its axis leaves the value unchanged. -/
def Allowed : Update → Prop
  | .x value => Placed value (fs.fbWidth * fs.scale) fs.safeArea.left fs.safeArea.right
  | .y value => Placed value (fs.fbHeight * fs.scale) fs.safeArea.top fs.safeArea.bottom

variable {fs}

theorem update_eq_follow_iff (standing : fs.Standing) (nonempty : fs.safeArea.isEmpty = false)
    (given : Update) : update fs given = follow fs given ↔ Allowed fs given := by
  have stays := standing.moveTo_eq nonempty
  cases given with
  | x value =>
    have other := place_eq_self_iff.mpr standing.vertical
    have moved := stays value fs.frameY
    rw [other] at moved
    refine ⟨fun same => ?_, fun allowed => ?_⟩
    · exact place_eq_self_iff.mp (congrArg FrameState.frameX (moved.symm.trans same))
    · exact moved.trans (congrArg (fs.standAt · fs.frameY) (place_eq_self_iff.mpr allowed))
  | y value =>
    have other := place_eq_self_iff.mpr standing.horizontal
    have moved := stays fs.frameX value
    rw [other] at moved
    refine ⟨fun same => ?_, fun allowed => ?_⟩
    · exact place_eq_self_iff.mp (congrArg FrameState.frameY (moved.symm.trans same))
    · exact moved.trans (congrArg (fs.standAt fs.frameX) (place_eq_self_iff.mpr allowed))

theorem standing_follow (standing : fs.Standing) (nonempty : fs.safeArea.isEmpty = false)
    {given : Update} (allowed : Allowed fs given) : (follow fs given).Standing := by
  rw [← (update_eq_follow_iff standing nonempty given).mpr allowed]
  have moved (x y : ℚ) : (fs.apply (.moveTo x y)).Standing :=
    FrameState.standing_apply standing trivial
  cases given with
  | x value => exact moved value fs.frameY
  | y value => exact moved fs.frameX value

/-- Updates that are allowed are followed one after the other. -/
theorem foldl_update {updates : List Update} :
    ∀ {fs : FrameState}, fs.Standing → fs.safeArea.isEmpty = false →
      (∀ given ∈ updates, Allowed fs given) →
      updates.foldl update fs = updates.foldl follow fs := by
  induction updates with
  | nil => exact fun _ _ _ => rfl
  | cons given updates inductionHypothesis =>
    intro fs standing nonempty allowed
    have first := allowed given List.mem_cons_self
    have followed := (update_eq_follow_iff standing nonempty given).mpr first
    rw [List.foldl_cons, List.foldl_cons, followed]
    -- Following an update moves the frame only, so what is allowed stays the same.
    have same : (follow fs given).safeArea = fs.safeArea ∧
        Allowed (follow fs given) = Allowed fs := by
      cases given <;> exact ⟨rfl, funext fun other => by cases other <;> rfl⟩
    refine inductionHypothesis (standing_follow standing nonempty first) (same.1 ▸ nonempty) ?_
    rw [same.2]
    exact fun other member => allowed other (List.mem_cons_of_mem _ member)

/-- In whatever order the two animators give their values, the frame stands where they have come
to, just when on each axis it starts at or after the start of the safe area, or the safe area
starts at the edge of the viewport. Else the coercion stops the frame short of the limits. -/
theorem fling_followed_iff {prefs : ZoomPrefs} {operations : List FrameState.Operation}
    (run : (FrameState.machine prefs).Run operations) (vx vy : ℚ) :
    let fs := (FrameState.machine prefs).after operations
    fs.safeArea.isEmpty = false →
      ((∀ updates : List Update, (∀ given ∈ updates, Within (fling fs vx vy) given) →
          updates.foldl update fs = updates.foldl follow fs) ↔
        (fs.safeArea.left ≤ fs.frameX ∨ fs.safeArea.left = 0) ∧
          (fs.safeArea.top ≤ fs.frameY ∨ fs.safeArea.top = 0)) := by
  intro fs nonempty
  have standing : fs.Standing := FrameState.standing_run run
  rw [← limits_subset_iff standing.within.left standing.horizontal,
    ← limits_subset_iff standing.within.top standing.vertical]
  constructor
  · intro followed
    have single (given : Update) (within : Within (fling fs vx vy) given) : Allowed fs given :=
      (update_eq_follow_iff standing nonempty given).mp
        (followed [given] (List.forall_mem_singleton.mpr within))
    exact ⟨fun value => single (.x value), fun value => single (.y value)⟩
  · rintro ⟨across, down⟩ updates within
    refine foldl_update standing nonempty fun given member => ?_
    cases given with
    | x value => exact across (within _ member)
    | y value => exact down (within _ member)

variable (fs)

/-! ### A frame twice as large as its viewport -/

/-- Connect, lay out and zoom in: the frame covers the viewport from its start. -/
def zoomedIn : List FrameState.Operation :=
  [.setFramebufferSize 100 100, .setWindowSize 50 50, .setViewportSize 50 50, .updateZoom 2]

/-- The same frame panned away from its start. -/
def pannedAway : List FrameState.Operation := zoomedIn ++ [.pan (-10) (-10)]

/-- Away from its start the frame can be flung as far as it can be dragged. -/
theorem limits_agree_panned :
    let fs := (FrameState.machine .defaults).after pannedAway
    Set.Icc (fling fs 1 0).1.minValue (fling fs 1 0).1.maxValue =
      {x | ∀ y, (fs.moveTo x y).frameX = x} :=
  (limits_agree_iff .defaults pannedAway (by decide +kernel) (by decide +kernel)
    (by decide +kernel) 1 0).1.mpr (.inr (by decide +kernel))

/-- At its start it cannot be flung at all, though it can be dragged. -/
theorem limits_disagree_at_start :
    let fs := (FrameState.machine .defaults).after zoomedIn
    (FrameState.machine .defaults).Run zoomedIn ∧ 0 < fs.scale ∧ fs.safeArea.isEmpty = false ∧
      Set.Icc (fling fs 1 0).1.minValue (fling fs 1 0).1.maxValue ≠
        {x | ∀ y, (fs.moveTo x y).frameX = x} := by
  refine ⟨by decide +kernel, by decide +kernel, by decide +kernel, fun same => ?_⟩
  have dragged : (-10 : ℚ) ∈
      {x | ∀ y, (((FrameState.machine .defaults).after zoomedIn).moveTo x y).frameX = x} := by
    have once : (((FrameState.machine .defaults).after zoomedIn).moveTo (-10) 0).frameX = -10 := by
      decide +kernel
    exact fun _ => once
  rw [← same, Set.mem_Icc] at dragged
  exact absurd dragged (by decide +kernel)

end TermPlux.FrameScroller
