/-
This file models how the server library sends a region that was moved on the
screen: as one CopyRect for each rectangle of the region, in an order that depends
on the direction of the move. A region is a list of bands from top to bottom, each
with spans from left to right.

No CopyRect overwrites the source of a later one, so that the client moves the
whole region as if its pixels had been put aside first.
-/

import TermPlux.FramebufferUpdate

namespace TermPlux.Rfb

open Raster

/-! ### Regions -/

/-- An `sraSpan` of the first level, with the spans of the second. -/
structure Band where
  start : Nat
  stop : Nat
  subspan : List (Nat × Nat)

/-- The spans of a band are not empty, and follow each other. -/
structure Band.Proper (band : Band) : Prop where
  some : band.start < band.stop
  someSpans : ∀ span ∈ band.subspan, span.1 < span.2
  sorted : band.subspan.Pairwise fun left right => left.2 ≤ right.1

/-- An `sraRegion`: its bands follow each other. -/
structure Region where
  bands : List Band
  proper : ∀ band ∈ bands, band.Proper
  sorted : bands.Pairwise fun above below => above.stop ≤ below.start

/-- The rectangles of a band. -/
def Band.rectangles (band : Band) (reverseX : Bool) : List Rectangle :=
  (if reverseX then band.subspan.reverse else band.subspan).map fun span =>
    ⟨span.1, band.start, span.2 - span.1, band.stop - band.start⟩

/-- What `sraRgnGetReverseIterator` iterates over. -/
def Region.rectangles (region : Region) (reverseX reverseY : Bool) : List Rectangle :=
  (if reverseY then region.bands.reverse else region.bands).flatMap fun band =>
    band.rectangles reverseX

def Region.Contains (region : Region) (column row : Nat) : Prop :=
  ∃ rectangle ∈ region.rectangles false false, rectangle.Contains column row

theorem Band.mem_rectangles {band : Band} {reverseX : Bool} {rectangle : Rectangle} :
    rectangle ∈ band.rectangles reverseX ↔
      ∃ span ∈ band.subspan,
        (⟨span.1, band.start, span.2 - span.1, band.stop - band.start⟩ : Rectangle) = rectangle := by
  unfold Band.rectangles
  rw [List.mem_map]
  cases reverseX with
  | false => rfl
  | true => simp only [if_true, List.mem_reverse]

/-- The order does not change which rectangles there are. -/
theorem Region.mem_rectangles {region : Region} {reverseX reverseY : Bool} {rectangle : Rectangle} :
    rectangle ∈ region.rectangles reverseX reverseY ↔
      ∃ band ∈ region.bands, ∃ span ∈ band.subspan,
        (⟨span.1, band.start, span.2 - span.1, band.stop - band.start⟩ : Rectangle) = rectangle := by
  unfold Region.rectangles
  rw [List.mem_flatMap]
  cases reverseY with
  | false => simp only [Bool.false_eq_true, if_false, Band.mem_rectangles]
  | true => simp only [if_true, List.mem_reverse, Band.mem_rectangles]

theorem Region.positive (region : Region) {reverseX reverseY : Bool} {rect : Rectangle}
    (member : rect ∈ region.rectangles reverseX reverseY) : 0 < rect.w ∧ 0 < rect.h := by
  obtain ⟨band, inBands, span, inSpans, rfl⟩ := Region.mem_rectangles.mp member
  have proper := region.proper band inBands
  exact ⟨Nat.sub_pos_of_lt (proper.someSpans span inSpans), Nat.sub_pos_of_lt proper.some⟩

theorem Region.contains_iff (region : Region) (reverseX reverseY : Bool) (column row : Nat) :
    region.Contains column row ↔
      ∃ rect ∈ region.rectangles reverseX reverseY, rect.Contains column row := by
  unfold Region.Contains
  simp only [Region.mem_rectangles]

theorem Band.length_rectangles (band : Band) (reverseX : Bool) :
    (band.rectangles reverseX).length = band.subspan.length := by
  unfold Band.rectangles
  cases reverseX with
  | false => exact List.length_map _
  | true => rw [List.length_map, if_pos rfl, List.length_reverse]

/-- The order does not change how many rectangles there are. -/
theorem Region.length_rectangles (region : Region) (reverseX reverseY : Bool) :
    (region.rectangles reverseX reverseY).length = (region.rectangles false false).length := by
  unfold Region.rectangles
  rw [List.length_flatMap, List.length_flatMap]
  simp only [Band.length_rectangles]
  cases reverseY with
  | false => rfl
  | true =>
    rw [if_pos rfl, List.map_reverse, List.sum_reverse]
    rfl

/-! ### The order of the rectangles -/

/-- The source of the later rectangle, which is moved by `dx` and `dy`, meets the earlier one. -/
def Disturbs (dx dy : Int) (earlier later : Rectangle) : Prop :=
  ∃ column row source_x source_y : Nat, later.Contains column row ∧
    (source_x : Int) = column - dx ∧ (source_y : Int) = row - dy ∧
      earlier.Contains source_x source_y

variable {dx dy : Int}

/-- In a band, the spans are moved beginning with the one that is farthest in the direction of the
move. -/
theorem Band.pairwise_rectangles {band : Band} (proper : band.Proper) :
    (band.rectangles (decide (dx > 0))).Pairwise fun earlier later =>
      ¬Disturbs dx dy earlier later := by
  unfold Band.rectangles
  rw [List.pairwise_map]
  split
  · next right =>
    rw [decide_eq_true_iff] at right
    refine List.pairwise_reverse.mpr (proper.sorted.imp_of_mem fun inLeft _ order => ?_)
    have some := proper.someSpans _ inLeft
    rintro ⟨column, row, source_x, source_y, later, moved, -, earlier⟩
    obtain ⟨⟨-, high⟩, -⟩ := later
    obtain ⟨⟨low, -⟩, -⟩ := earlier
    dsimp only at high low
    omega
  · next left =>
    rw [decide_eq_true_iff] at left
    refine proper.sorted.imp_of_mem fun inLeft _ order => ?_
    have some := proper.someSpans _ inLeft
    rintro ⟨column, row, source_x, source_y, later, moved, -, earlier⟩
    obtain ⟨⟨low, -⟩, -⟩ := later
    obtain ⟨⟨-, high⟩, -⟩ := earlier
    dsimp only at high low
    omega

/-- The bands too are moved beginning with the one that is farthest in the direction of the
move. -/
theorem Region.pairwise_rectangles (region : Region) (dx dy : Int) :
    (region.rectangles (decide (dx > 0)) (decide (dy > 0))).Pairwise fun earlier later =>
      ¬Disturbs dx dy earlier later := by
  unfold Region.rectangles
  rw [List.pairwise_flatMap]
  refine ⟨fun band member => Band.pairwise_rectangles (region.proper band ?_), ?_⟩
  · split at member
    · exact List.mem_reverse.mp member
    · exact member
  split
  · next down =>
    rw [decide_eq_true_iff] at down
    refine List.pairwise_reverse.mpr (region.sorted.imp_of_mem fun inAbove _ order => ?_)
    have some := (region.proper _ inAbove).some
    intro earlier inEarlier later inLater
    obtain ⟨_, _, rfl⟩ := Band.mem_rectangles.mp inEarlier
    obtain ⟨_, _, rfl⟩ := Band.mem_rectangles.mp inLater
    rintro ⟨column, row, source_x, source_y, later, -, moved, earlier⟩
    obtain ⟨-, -, high⟩ := later
    obtain ⟨-, low, -⟩ := earlier
    dsimp only at high low
    omega
  · next up =>
    rw [decide_eq_true_iff] at up
    refine region.sorted.imp_of_mem fun inAbove _ order => ?_
    have some := (region.proper _ inAbove).some
    intro earlier inEarlier later inLater
    obtain ⟨_, _, rfl⟩ := Band.mem_rectangles.mp inEarlier
    obtain ⟨_, _, rfl⟩ := Band.mem_rectangles.mp inLater
    rintro ⟨column, row, source_x, source_y, later, -, moved, earlier⟩
    obtain ⟨-, low, -⟩ := later
    obtain ⟨-, -, high⟩ := earlier
    dsimp only at high low
    omega

/-- The rectangles of a region have no pixel in common. -/
theorem Region.pairwise_disjoint (region : Region) (reverseX reverseY : Bool) :
    (region.rectangles reverseX reverseY).Pairwise fun one other =>
      ∀ column row, one.Contains column row → ¬other.Contains column row := by
  unfold Region.rectangles
  rw [List.pairwise_flatMap]
  constructor
  · intro band member
    have proper := region.proper band (by
      split at member
      · exact List.mem_reverse.mp member
      · exact member)
    have apart : band.subspan.Pairwise fun one other => one.2 ≤ other.1 ∨ other.2 ≤ one.1 :=
      proper.sorted.imp .inl
    unfold Band.rectangles
    rw [List.pairwise_map]
    have either : (if reverseX then band.subspan.reverse else band.subspan).Pairwise
        fun one other => one.2 ≤ other.1 ∨ other.2 ≤ one.1 := by
      split
      · exact List.pairwise_reverse.mpr (apart.imp Or.symm)
      · exact apart
    refine either.imp fun order column row inOne inOther => ?_
    unfold Rectangle.Contains at inOne inOther
    dsimp only at inOne inOther
    omega
  · have apart : region.bands.Pairwise fun one other =>
        one.stop ≤ other.start ∨ other.stop ≤ one.start := region.sorted.imp .inl
    have either : (if reverseY then region.bands.reverse else region.bands).Pairwise
        fun one other => one.stop ≤ other.start ∨ other.stop ≤ one.start := by
      split
      · exact List.pairwise_reverse.mpr (apart.imp Or.symm)
      · exact apart
    refine either.imp fun order one inOne other inOther column row contains contains' => ?_
    obtain ⟨_, _, rfl⟩ := Band.mem_rectangles.mp inOne
    obtain ⟨_, _, rfl⟩ := Band.mem_rectangles.mp inOther
    unfold Rectangle.Contains at contains contains'
    dsimp only at contains contains'
    omega

/-! ### Moving rectangles -/

variable {Pixel : Type} [PixelSize Pixel] {buffer : FrameBuffer Pixel}

/-- The rectangles are moved one after the other. -/
def moveRectangles (dx dy : Int) (rectangles : List Rectangle) (buffer : FrameBuffer Pixel) :
    FrameBuffer Pixel :=
  rectangles.foldl (fun current rectangle =>
    current.CopyRectangleFromRectangle (rectangle.x - dx).toNat (rectangle.y - dy).toNat
      rectangle.w rectangle.h rectangle.x rectangle.y) buffer

/-- A rectangle and its source lie in the framebuffer. -/
def Movable (dx dy : Int) (width height : Nat) (rectangle : Rectangle) : Prop :=
  rectangle.Within width height ∧ (0 ≤ rectangle.x - dx ∧ 0 ≤ rectangle.y - dy) ∧
    (⟨(rectangle.x - dx).toNat, (rectangle.y - dy).toNat, rectangle.w, rectangle.h⟩ :
      Rectangle).Within width height

theorem size_moveRectangles (dx dy : Int) (rectangles : List Rectangle)
    (buffer : FrameBuffer Pixel) :
    (moveRectangles dx dy rectangles buffer).width = buffer.width ∧
      (moveRectangles dx dy rectangles buffer).height = buffer.height := by
  unfold moveRectangles
  induction rectangles generalizing buffer with
  | nil => exact ⟨rfl, rfl⟩
  | cons rectangle rest inductionHypothesis =>
    obtain ⟨width, height⟩ := inductionHypothesis (buffer.CopyRectangleFromRectangle
      (rectangle.x - dx).toNat (rectangle.y - dy).toNat rectangle.w rectangle.h rectangle.x
      rectangle.y)
    exact ⟨width.trans (FrameBuffer.width_copyRectangleFromRectangle _ _ _ _ _ _),
      height.trans (FrameBuffer.height_copyRectangleFromRectangle _ _ _ _ _ _)⟩

/-- Where no rectangle disturbs a later one, each pixel of the rectangles is what its source was
before, and the others are left alone. -/
theorem pixel_moveRectangles {rectangles : List Rectangle}
    (movable : ∀ rectangle ∈ rectangles, Movable dx dy buffer.width buffer.height rectangle)
    (order : rectangles.Pairwise fun earlier later => ¬Disturbs dx dy earlier later)
    {column row : Nat} (inside : column < buffer.width) :
    ((∃ rectangle ∈ rectangles, rectangle.Contains column row) →
      (moveRectangles dx dy rectangles buffer).pixel column row =
        buffer.pixel (column - dx).toNat (row - dy).toNat) ∧
      ((∀ rectangle ∈ rectangles, ¬rectangle.Contains column row) →
        (moveRectangles dx dy rectangles buffer).pixel column row = buffer.pixel column row) := by
  induction rectangles generalizing buffer with
  | nil => exact ⟨fun ⟨_, member, _⟩ => absurd member List.not_mem_nil, fun _ => rfl⟩
  | cons rectangle rest inductionHypothesis =>
    obtain ⟨ahead, order⟩ := List.pairwise_cons.mp order
    obtain ⟨within, ⟨left, top⟩, source⟩ := movable rectangle List.mem_cons_self
    have moved := (FrameBuffer.copyRectangleFromRectangle_spec source within).1
    have width := @FrameBuffer.width_copyRectangleFromRectangle _ _ buffer
      (rectangle.x - dx).toNat (rectangle.y - dy).toNat rectangle.w rectangle.h rectangle.x rectangle.y
    have height := @FrameBuffer.height_copyRectangleFromRectangle _ _ buffer
      (rectangle.x - dx).toNat (rectangle.y - dy).toNat rectangle.w rectangle.h rectangle.x rectangle.y
    obtain ⟨later, kept⟩ := @inductionHypothesis (buffer.CopyRectangleFromRectangle
        (rectangle.x - dx).toNat (rectangle.y - dy).toNat rectangle.w rectangle.h rectangle.x
        rectangle.y) (by
      rw [width, height]
      exact fun other member => movable other (List.mem_cons_of_mem rectangle member)) order
      (width.symm ▸ inside)
    constructor
    · rintro ⟨other, member, contains⟩
      by_cases again : ∃ other ∈ rest, other.Contains column row
      · refine (later again).trans ?_
        obtain ⟨other, member, contains⟩ := again
        obtain ⟨-, ⟨left', top'⟩, source'⟩ := movable other (List.mem_cons_of_mem rectangle member)
        obtain ⟨⟨low, high⟩, ⟨low', high'⟩⟩ := contains
        have right := source'.1
        dsimp only at right
        rw [moved _ _ (by omega), if_neg]
        intro disturbed
        exact ahead other member ⟨column, row, _, _, ⟨⟨low, high⟩, low', high'⟩,
          Int.toNat_of_nonneg (by omega), Int.toNat_of_nonneg (by omega), disturbed⟩
      · have own : rectangle.Contains column row := by
          rcases List.mem_cons.mp member with rfl | member
          · exact contains
          · exact absurd ⟨other, member, contains⟩ again
        refine (kept fun other member contains => again ⟨other, member, contains⟩).trans ?_
        rw [moved _ _ inside, if_pos own]
        obtain ⟨⟨low, -⟩, ⟨low', -⟩⟩ := own
        congr 1 <;> omega
    · intro away
      refine (kept fun other member => away other (List.mem_cons_of_mem rectangle member)).trans ?_
      rw [moved _ _ inside, if_neg (away rectangle List.mem_cons_self)]

end TermPlux.Rfb
