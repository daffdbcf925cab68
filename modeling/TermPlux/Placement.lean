/-
This file is the library for placing a segment of a given length on an axis
relative to a window. A segment no longer than the window is centred in it; a
longer one must cover the window. `place` moves a segment to the nearest position
allowed by that rule, by clamping, and so leaves an allowed position alone.
Everything is stated over an arbitrary ordered field.
-/

import Mathlib.Algebra.Order.Field.Basic
import Mathlib.Algebra.Order.Group.Abs
import Mathlib.Tactic.Linarith
import Mathlib.Tactic.Ring

namespace TermPlux

section Clamping

variable {Scalar : Type} [LinearOrder Scalar]

/-- A value forced into the interval from `low` to `high`. -/
def coerceIn (value low high : Scalar) : Scalar :=
  if value < low then low else if high < value then high else value

theorem low_le_coerceIn (value : Scalar) {low high : Scalar} (ordered : low ≤ high) :
    low ≤ coerceIn value low high := by
  unfold coerceIn
  split
  · exact le_rfl
  · split
    · exact ordered
    · exact not_lt.mp ‹_›

theorem coerceIn_le_high (value : Scalar) {low high : Scalar} (ordered : low ≤ high) :
    coerceIn value low high ≤ high := by
  unfold coerceIn
  split
  · exact ordered
  · split
    · exact le_rfl
    · exact not_lt.mp ‹_›

theorem coerceIn_of_le {value low : Scalar} (high : Scalar) (below : value ≤ low)
    (ordered : low ≤ high) : coerceIn value low high = low := by
  unfold coerceIn
  split
  · rfl
  · next notBelow =>
    have same : value = low := le_antisymm below (not_lt.mp notBelow)
    rw [same, if_neg (not_lt.mpr ordered)]

theorem coerceIn_of_ge {value low high : Scalar} (above : high ≤ value) (ordered : low ≤ high) :
    coerceIn value low high = high := by
  unfold coerceIn
  rw [if_neg (not_lt.mpr (ordered.trans above))]
  split
  · rfl
  · next notAbove => exact le_antisymm (not_lt.mp notAbove) above

theorem coerceIn_of_mem {value low high : Scalar} (above : low ≤ value) (below : value ≤ high) :
    coerceIn value low high = value := by
  unfold coerceIn
  rw [if_neg (not_lt.mpr above), if_neg (not_lt.mpr below)]

/-- Clamping leaves just the values of the interval alone. -/
theorem coerceIn_eq_self_iff {value low high : Scalar} (ordered : low ≤ high) :
    coerceIn value low high = value ↔ low ≤ value ∧ value ≤ high := by
  constructor
  · intro kept
    exact ⟨kept ▸ low_le_coerceIn value ordered, kept ▸ coerceIn_le_high value ordered⟩
  · rintro ⟨above, below⟩
    exact coerceIn_of_mem above below

/-- Clamping sends two values to the same one just when both lie beyond the same end. -/
theorem coerceIn_eq_coerceIn_iff {less more low high : Scalar} (increasing : less < more)
    (ordered : low < high) :
    coerceIn less low high = coerceIn more low high ↔ high ≤ less ∨ more ≤ low := by
  constructor
  · intro same
    by_contra apart
    obtain ⟨short, far⟩ := not_or.mp apart
    have lower : coerceIn less low high = max less low := by
      rcases le_total less low with below | above
      · rw [coerceIn_of_le high below ordered.le, max_eq_right below]
      · rw [coerceIn_of_mem above (not_le.mp short).le, max_eq_left above]
    have upper : coerceIn more low high = min more high := by
      rcases le_total more high with below | above
      · rw [coerceIn_of_mem (not_le.mp far).le below, min_eq_left below]
      · rw [coerceIn_of_ge above ordered.le, min_eq_right above]
    rw [lower, upper] at same
    exact absurd same (max_lt (lt_min increasing (not_le.mp short))
      (lt_min (not_le.mp far) ordered)).ne
  · rintro (far | short)
    · rw [coerceIn_of_ge far ordered.le, coerceIn_of_ge (far.trans increasing.le) ordered.le]
    · rw [coerceIn_of_le high short ordered.le,
        coerceIn_of_le high (increasing.le.trans short) ordered.le]

/-- When clamping before a strictly increasing move makes no difference. -/
theorem coerceIn_move_coerceIn_iff {move : Scalar → Scalar} (increasing : StrictMono move)
    {value low high : Scalar} (ordered : low < high) :
    coerceIn (move (coerceIn value low high)) low high = coerceIn (move value) low high ↔
      (low ≤ value ∧ value ≤ high) ∨
        (high < value ∧ (high ≤ move high ∨ move value ≤ low)) ∨
        (value < low ∧ (high ≤ move value ∨ move low ≤ low)) := by
  rcases lt_or_ge value low with below | above
  · have outside : ¬(low ≤ value ∧ value ≤ high) := fun inside => absurd inside.1 (not_le.mpr below)
    have notAbove : ¬(high < value ∧ (high ≤ move high ∨ move value ≤ low)) := fun beyond =>
      absurd beyond.1 (not_lt.mpr (below.trans ordered).le)
    rw [coerceIn_of_le high below.le ordered.le, eq_comm,
      coerceIn_eq_coerceIn_iff (increasing below) ordered, or_iff_right outside,
      and_iff_right below, or_iff_right notAbove]
  · have notBelow : ¬(value < low ∧ (high ≤ move value ∨ move low ≤ low)) := fun short =>
      absurd short.1 (not_lt.mpr above)
    rcases le_or_gt value high with inside | beyond
    · rw [coerceIn_of_mem above inside]
      exact iff_of_true rfl (.inl ⟨above, inside⟩)
    · have outside : ¬(low ≤ value ∧ value ≤ high) := fun inside =>
        absurd inside.2 (not_le.mpr beyond)
      rw [coerceIn_of_ge beyond.le ordered.le,
        coerceIn_eq_coerceIn_iff (increasing beyond) ordered, or_iff_right outside,
        and_iff_right beyond, or_iff_left notBelow]

end Clamping

variable {Scalar : Type} [Field Scalar] [LinearOrder Scalar] [IsStrictOrderedRing Scalar]

/-- The position rule on one axis: a segment of length `size` starting at `position` is
centred between `first` and `last` when it fits there, and covers that window otherwise. -/
structure Placed (position size first last : Scalar) : Prop where
  centred : size ≤ last - first → position - first = last - (position + size)
  covers : last - first < size → position ≤ first ∧ last ≤ position + size

/-- The position the rule gives to a segment that stands at `current`. -/
def place (current size first last : Scalar) : Scalar :=
  if 0 ≤ last - first - size then (last - first - size) / 2 + first
  else coerceIn current (last - first - size + first) first

theorem place_of_fits (current : Scalar) {size first last : Scalar} (fits : size ≤ last - first) :
    place current size first last = (last - first - size) / 2 + first :=
  if_pos (sub_nonneg.mpr fits)

theorem place_of_exceeds (current : Scalar) {size first last : Scalar}
    (exceeds : last - first < size) :
    place current size first last = coerceIn current (last - first - size + first) first :=
  if_neg (not_le.mpr (sub_neg.mpr exceeds))

/-- Placing a segment puts it where the rule allows. -/
theorem placed_place (current size first last : Scalar) :
    Placed (place current size first last) size first last where
  centred fits := by
    rw [place_of_fits current fits]
    linarith
  covers exceeds := by
    rw [place_of_exceeds current exceeds]
    have ordered : last - first - size + first ≤ first := by linarith
    have lower := low_le_coerceIn current ordered
    have upper := coerceIn_le_high current ordered
    exact ⟨upper, by linarith⟩

theorem placed_iff_of_fits {position size first last : Scalar} (fits : size ≤ last - first) :
    Placed position size first last ↔ position = (last - first - size) / 2 + first := by
  constructor
  · intro placed
    have centred := placed.centred fits
    linarith
  · intro same
    exact same ▸ place_of_fits position fits ▸ placed_place position size first last

theorem placed_iff_of_exceeds {position size first last : Scalar} (exceeds : last - first < size) :
    Placed position size first last ↔ last - size ≤ position ∧ position ≤ first := by
  constructor
  · intro placed
    obtain ⟨before, after⟩ := placed.covers exceeds
    exact ⟨by linarith, before⟩
  · rintro ⟨after, before⟩
    exact ⟨fun fits => absurd fits (not_le.mpr exceeds), fun _ => ⟨before, by linarith⟩⟩

/-- Placing leaves just the allowed positions alone. -/
theorem place_eq_self_iff {position size first last : Scalar} :
    place position size first last = position ↔ Placed position size first last := by
  constructor
  · intro kept
    exact kept ▸ placed_place position size first last
  · intro placed
    rcases le_or_gt size (last - first) with fits | exceeds
    · rw [place_of_fits position fits]
      exact ((placed_iff_of_fits fits).mp placed).symm
    · obtain ⟨after, before⟩ := (placed_iff_of_exceeds exceeds).mp placed
      rw [place_of_exceeds position exceeds]
      exact coerceIn_of_mem (by linarith) before

@[simp] theorem place_place (current size first last : Scalar) :
    place (place current size first last) size first last = place current size first last :=
  place_eq_self_iff.mpr (placed_place current size first last)

/-- Every point of the segment can be brought into the window: in a segment that fits it is
there, and a longer one is moved so that the point is at the start of the window, or as near to
that as its end allows. -/
theorem exists_place_mem {offset size first last : Scalar} (ordered : first ≤ last)
    (nonneg : 0 ≤ offset) (inside : offset ≤ size) :
    ∃ current, first ≤ offset + place current size first last ∧
      offset + place current size first last ≤ last := by
  rcases le_or_gt size (last - first) with fits | exceeds
  · refine ⟨first, ?_⟩
    rw [place_of_fits first fits]
    constructor <;> linarith
  · have before : max (last - size) (first - offset) ≤ first := max_le (by linarith) (by linarith)
    have placed := (placed_iff_of_exceeds exceeds).mpr ⟨le_max_left _ _, before⟩
    refine ⟨max (last - size) (first - offset), ?_⟩
    rw [place_eq_self_iff.mpr placed]
    constructor
    · linarith [le_max_right (last - size) (first - offset)]
    · rcases le_total (last - size) (first - offset) with atStart | atEnd
      · rw [max_eq_right atStart]
        linarith
      · rw [max_eq_left atEnd]
        linarith

/-- An allowed position to which no other allowed one is closer. -/
structure NearestPlaced (position target size first last : Scalar) : Prop where
  placed : Placed position size first last
  nearest : ∀ other, Placed other size first last → |position - target| ≤ |other - target|

/-- Placing moves a segment no further than any other allowed position is. -/
theorem nearestPlaced_place (target size first last : Scalar) :
    NearestPlaced (place target size first last) target size first last where
  placed := placed_place target size first last
  nearest other allowed := by
    rcases le_or_gt size (last - first) with fits | exceeds
    · rw [place_of_fits target fits, (placed_iff_of_fits fits).mp allowed]
    · obtain ⟨after, before⟩ := (placed_iff_of_exceeds exceeds).mp allowed
      have ordered : last - first - size + first ≤ first := by linarith
      rw [place_of_exceeds target exceeds]
      rcases le_total target (last - first - size + first) with short | enough
      · rw [coerceIn_of_le first short ordered, abs_of_nonneg (sub_nonneg.mpr short),
          abs_of_nonneg (by linarith)]
        linarith
      · rcases le_total first target with far | near
        · rw [coerceIn_of_ge far ordered, abs_of_nonpos (sub_nonpos.mpr far),
            abs_of_nonpos (by linarith)]
          linarith
        · rw [coerceIn_of_mem enough near, sub_self, abs_zero]
          exact abs_nonneg _

/-- The nearest allowed position is unique. -/
theorem nearestPlaced_iff {position target size first last : Scalar} :
    NearestPlaced position target size first last ↔ position = place target size first last := by
  constructor
  · rintro ⟨placed, nearest⟩
    have best := nearestPlaced_place target size first last
    have same := le_antisymm (nearest _ best.placed) (best.nearest _ placed)
    rcases le_or_gt size (last - first) with fits | exceeds
    · rw [(placed_iff_of_fits fits).mp placed, place_of_fits target fits]
    · rcases abs_eq_abs.mp same with equal | opposite
      · linarith
      · -- the target lies halfway between the two, so it is allowed itself
        obtain ⟨after, before⟩ := (placed_iff_of_exceeds exceeds).mp placed
        obtain ⟨bestAfter, bestBefore⟩ := (placed_iff_of_exceeds exceeds).mp best.placed
        have inside : Placed target size first last :=
          (placed_iff_of_exceeds exceeds).mpr ⟨by linarith, by linarith⟩
        have kept := place_eq_self_iff.mpr inside
        linarith
  · rintro rfl
    exact nearestPlaced_place target size first last

/-- When placing a segment before a strictly increasing move makes no difference. -/
theorem place_move_place_iff {move : Scalar → Scalar} (increasing : StrictMono move)
    {position size first last : Scalar} :
    place (move (place position size first last)) size first last =
        place (move position) size first last ↔
      size ≤ last - first ∨ (last - size ≤ position ∧ position ≤ first) ∨
        (first < position ∧ (first ≤ move first ∨ move position ≤ last - size)) ∨
        (position < last - size ∧ (first ≤ move position ∨ move (last - size) ≤ last - size)) := by
  rcases le_or_gt size (last - first) with fits | exceeds
  · rw [place_of_fits _ fits, place_of_fits _ fits]
    exact iff_of_true rfl (.inl fits)
  · have lowest : last - first - size + first = last - size := by ring
    rw [place_of_exceeds _ exceeds, place_of_exceeds _ exceeds, place_of_exceeds _ exceeds, lowest,
      coerceIn_move_coerceIn_iff increasing (by linarith), or_iff_right (not_le.mpr exceeds)]

end TermPlux
