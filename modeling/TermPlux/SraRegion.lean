/-
This file models the regions of the server library: lists of bands from top to
bottom, each with a list of spans from left to right. A region is built so that its
bands and spans are in order and none of them is empty, and every operation keeps
it so.

Union, intersection, difference and offset of regions are those of their sets of
pixels, a region is empty just when it contains no pixel, and the bounding box
contains the region.
-/

import TermPlux.CopyRegion
import TermPlux.SpanSets

namespace TermPlux

open SpanList

/-- The spans of a band. -/
abbrev HorizontalSpans := List (Span Unit)

structure SraRegion where
  spans : List (Span HorizontalSpans)
  proper : ∃ low, Above low spans

namespace SraRegion

/-- The region contains a pixel. -/
def Contains (region : SraRegion) (x y : Int) : Prop := Holds region.spans y (x, ())

/-! ### The operations -/

def sraRgnCreate : SraRegion := ⟨[], 0, trivial⟩

theorem above_rect {x1 y1 x2 y2 : Int} (some : x1 < x2 ∧ y1 < y2) :
    Above y1 [(⟨y1, y2, [⟨x1, x2, ()⟩]⟩ : Span HorizontalSpans)] :=
  ⟨⟨le_rfl, some.2, ⟨x1, ⟨le_rfl, some.1, trivial⟩, trivial⟩, List.cons_ne_nil _ _⟩, trivial⟩

def sraRgnCreateRect (x1 y1 x2 y2 : Int) (some : x1 < x2 ∧ y1 < y2) : SraRegion :=
  ⟨[⟨y1, y2, [⟨x1, x2, ()⟩]⟩], y1, above_rect some⟩

def sraRgnOr (dst src : SraRegion) : SraRegion where
  spans := sraSpanListOr dst.spans src.spans
  proper := by
    obtain ⟨_, inDst⟩ := dst.proper
    obtain ⟨_, inSrc⟩ := src.proper
    exact (sraSpanListOr_spec inDst inSrc).1

def sraRgnAnd (dst src : SraRegion) : SraRegion where
  spans := (sraSpanListAnd dst.spans src.spans).1
  proper := by
    obtain ⟨_, inDst⟩ := dst.proper
    obtain ⟨_, inSrc⟩ := src.proper
    exact (sraSpanListAnd_spec inDst inSrc).1

def sraRgnSubtract (dst src : SraRegion) : SraRegion where
  spans := (sraSpanListSubtract dst.spans src.spans).1
  proper := by
    obtain ⟨_, inDst⟩ := dst.proper
    obtain ⟨_, inSrc⟩ := src.proper
    exact (sraSpanListSubtract_spec inDst inSrc).1

/-- The spans of a level are moved, with what is below them. -/
def offsetSpans {Sub : Type} (distance : Int) (below : Sub → Sub) (spans : List (Span Sub)) :
    List (Span Sub) :=
  spans.map fun span => ⟨span.start + distance, span.stop + distance, below span.subspan⟩

section Offset

variable {Sub Point : Type} [Subspan Sub] [LawfulSubspan Sub Point]
variable {distance low coordinate : Int} {below : Sub → Sub} {spans : List (Span Sub)}
variable {point : Point}

theorem above_offsetSpans
    (keeps : ∀ sub, LawfulSubspan.Proper sub → LawfulSubspan.Proper (below sub))
    (above : Above low spans) : Above (low + distance) (offsetSpans distance below spans) := by
  induction spans generalizing low with
  | nil => trivial
  | cons span spans inductionHypothesis =>
    obtain ⟨⟨first, some, proper⟩, later⟩ := above
    exact ⟨⟨by dsimp only; omega, by dsimp only; omega, keeps _ proper⟩, inductionHypothesis later⟩

theorem holds_offsetSpans (back : Point → Point)
    (moves : ∀ sub, LawfulSubspan.Holds (below sub) point ↔ LawfulSubspan.Holds sub (back point)) :
    Holds (offsetSpans distance below spans) coordinate point ↔
      Holds spans (coordinate - distance) (back point) := by
  unfold Holds offsetSpans
  simp only [List.mem_map, exists_exists_and_eq_and]
  refine exists_congr fun span => and_congr_right fun _ => ?_
  unfold Covers
  rw [moves]
  refine and_congr_left fun _ => ?_
  dsimp only
  omega

end Offset

def offsetRow (dx : Int) (row : HorizontalSpans) : HorizontalSpans := offsetSpans dx id row

/-- The sums are of type `int`: the coordinates are those of a screen, and the shift is below
`2 ^ 30`. -/
def sraRgnOffset (dst : SraRegion) (dx dy : Int) : SraRegion where
  spans := offsetSpans dy (offsetRow dx) dst.spans
  proper := by
    obtain ⟨low, above⟩ := dst.proper
    refine ⟨low + dy, above_offsetSpans (fun row proper => ?_) above⟩
    obtain ⟨⟨left, inOrder⟩, some⟩ := proper
    exact ⟨⟨left + dx, above_offsetSpans (fun _ proper => proper) inOrder⟩,
      fun none => some (List.map_eq_nil_iff.mp none)⟩

def sraRgnEmpty (region : SraRegion) : Bool := region.spans.isEmpty

def sraRgnCountRects (region : SraRegion) : Nat :=
  (region.spans.map fun span => span.subspan.length).sum

/-! ### What they do to the pixels -/

variable {dst src region : SraRegion} {x y : Int}

theorem not_contains_create : ¬sraRgnCreate.Contains x y := not_holds_nil

theorem contains_createRect {x1 y1 x2 y2 : Int} (some : x1 < x2 ∧ y1 < y2) :
    (sraRgnCreateRect x1 y1 x2 y2 some).Contains x y ↔
      (x1 ≤ x ∧ x < x2) ∧ y1 ≤ y ∧ y < y2 := by
  have row : LawfulSubspan.Holds ([⟨x1, x2, ()⟩] : HorizontalSpans) (x, ()) ↔ x1 ≤ x ∧ x < x2 := by
    show Holds _ _ _ ↔ _
    rw [holds_cons, or_iff_left not_holds_nil]
    exact and_iff_left trivial
  show Holds _ _ _ ↔ _
  unfold sraRgnCreateRect
  rw [holds_cons, or_iff_left not_holds_nil]
  unfold Covers
  rw [row]
  exact and_comm

theorem contains_or : (sraRgnOr dst src).Contains x y ↔ dst.Contains x y ∨ src.Contains x y := by
  obtain ⟨_, inDst⟩ := dst.proper
  obtain ⟨_, inSrc⟩ := src.proper
  exact (sraSpanListOr_spec inDst inSrc).2 y (x, ())

theorem contains_and : (sraRgnAnd dst src).Contains x y ↔ dst.Contains x y ∧ src.Contains x y := by
  obtain ⟨_, inDst⟩ := dst.proper
  obtain ⟨_, inSrc⟩ := src.proper
  exact (sraSpanListAnd_spec inDst inSrc).2 y (x, ())

theorem contains_subtract :
    (sraRgnSubtract dst src).Contains x y ↔ dst.Contains x y ∧ ¬src.Contains x y := by
  obtain ⟨_, inDst⟩ := dst.proper
  obtain ⟨_, inSrc⟩ := src.proper
  exact (sraSpanListSubtract_spec inDst inSrc).2 y (x, ())

theorem contains_offset (dx dy : Int) :
    (sraRgnOffset region dx dy).Contains x y ↔ region.Contains (x - dx) (y - dy) := by
  refine holds_offsetSpans (fun point => (point.1 - dx, point.2)) fun row => ?_
  exact holds_offsetSpans id fun _ => Iff.rfl

/-- A region that is not empty contains a pixel. -/
theorem sraRgnEmpty_iff : region.sraRgnEmpty = true ↔ ∀ x y, ¬region.Contains x y := by
  unfold sraRgnEmpty
  rw [List.isEmpty_iff]
  constructor
  · intro none x y contains
    exact ne_nil_of_holds contains none
  · intro nowhere
    by_contra some
    obtain ⟨low, above⟩ := region.proper
    obtain ⟨y, ⟨x, ⟨⟩⟩, contains⟩ := above.exists_holds some
    exact nowhere x y contains

/-- Whatever regions are given, the operations are those on their sets of pixels. -/
theorem operations_on_pixels (dst src : SraRegion) (dx dy x y : Int) :
    (((sraRgnOr dst src).Contains x y ↔ dst.Contains x y ∨ src.Contains x y) ∧
        ((sraRgnAnd dst src).Contains x y ↔ dst.Contains x y ∧ src.Contains x y) ∧
          ((sraRgnSubtract dst src).Contains x y ↔ dst.Contains x y ∧ ¬src.Contains x y)) ∧
      ((sraRgnOffset dst dx dy).Contains x y ↔ dst.Contains (x - dx) (y - dy)) ∧
        (dst.sraRgnEmpty = true ↔ ∀ x y, ¬dst.Contains x y) :=
  ⟨⟨contains_or, contains_and, contains_subtract⟩, contains_offset dx dy, sraRgnEmpty_iff⟩

/-! ### The bounding box -/

structure Bounds where
  xmin : Int
  ymin : Int
  xmax : Int
  ymax : Int

/-- `((unsigned int)(int)-1)>>1`. -/
def largestInt : Int := 2 ^ 31 - 1

def Bounds.initial : Bounds := ⟨largestInt, largestInt, 1 - largestInt, 1 - largestInt⟩

def Bounds.addSpan (bounds : Bounds) (hcurr : Span Unit) : Bounds :=
  { bounds with
    xmin := if hcurr.start < bounds.xmin then hcurr.start else bounds.xmin
    xmax := if hcurr.stop > bounds.xmax then hcurr.stop else bounds.xmax }

def Bounds.addBand (bounds : Bounds) (vcurr : Span HorizontalSpans) : Bounds :=
  vcurr.subspan.foldl Bounds.addSpan
    { bounds with
      ymin := if vcurr.start < bounds.ymin then vcurr.start else bounds.ymin
      ymax := if vcurr.stop > bounds.ymax then vcurr.stop else bounds.ymax }

/-- No span is empty, so that a box with an empty side means that there are none. -/
def sraRgnBBox (src : SraRegion) : SraRegion :=
  let bounds := src.spans.foldl Bounds.addBand Bounds.initial
  if some : bounds.xmin < bounds.xmax ∧ bounds.ymin < bounds.ymax then
    sraRgnCreateRect bounds.xmin bounds.ymin bounds.xmax bounds.ymax some
  else sraRgnCreate

/-- The one box lies in the other. -/
def Bounds.Within (inner outer : Bounds) : Prop :=
  (outer.xmin ≤ inner.xmin ∧ inner.xmax ≤ outer.xmax) ∧
    outer.ymin ≤ inner.ymin ∧ inner.ymax ≤ outer.ymax

theorem Bounds.Within.trans {inner middle outer : Bounds} (within : inner.Within middle)
    (more : middle.Within outer) : inner.Within outer := by
  unfold Bounds.Within at *
  omega

theorem Bounds.within_addSpan (bounds : Bounds) (hcurr : Span Unit) :
    bounds.Within (bounds.addSpan hcurr) ∧
      (bounds.addSpan hcurr).xmin ≤ hcurr.start ∧ hcurr.stop ≤ (bounds.addSpan hcurr).xmax := by
  unfold Bounds.Within Bounds.addSpan
  dsimp only
  omega

theorem Bounds.within_foldl {Item : Type} {add : Bounds → Item → Bounds}
    (grows : ∀ (bounds : Bounds) item, bounds.Within (add bounds item)) (items : List Item)
    (bounds : Bounds) : bounds.Within (items.foldl add bounds) := by
  induction items generalizing bounds with
  | nil => exact ⟨⟨le_rfl, le_rfl⟩, le_rfl, le_rfl⟩
  | cons item items inductionHypothesis => exact (grows bounds item).trans (inductionHypothesis _)

/-- A box that is only extended within another one stays in it. -/
theorem Bounds.foldl_within {Item : Type} {add : Bounds → Item → Bounds} {outer : Bounds}
    {items : List Item}
    (stays : ∀ item ∈ items, ∀ bounds : Bounds, bounds.Within outer → (add bounds item).Within outer)
    {bounds : Bounds} (within : bounds.Within outer) : (items.foldl add bounds).Within outer := by
  induction items generalizing bounds with
  | nil => exact within
  | cons item items inductionHypothesis =>
    exact inductionHypothesis (fun other member => stays other (List.mem_cons_of_mem item member))
      (stays item List.mem_cons_self bounds within)

theorem Bounds.within_addBand (bounds : Bounds) (vcurr : Span HorizontalSpans) :
    bounds.Within (bounds.addBand vcurr) ∧
      (bounds.addBand vcurr).ymin ≤ vcurr.start ∧ vcurr.stop ≤ (bounds.addBand vcurr).ymax := by
  have grows := Bounds.within_foldl (fun bounds hcurr => (bounds.within_addSpan hcurr).1)
    vcurr.subspan { bounds with
      ymin := if vcurr.start < bounds.ymin then vcurr.start else bounds.ymin
      ymax := if vcurr.stop > bounds.ymax then vcurr.stop else bounds.ymax }
  unfold Bounds.addBand
  unfold Bounds.Within at *
  dsimp only at grows
  omega

/-- The box reaches around each span that was added. -/
theorem Bounds.addSpan_mem {spans : HorizontalSpans} {hcurr : Span Unit} (member : hcurr ∈ spans)
    (bounds : Bounds) : (spans.foldl Bounds.addSpan bounds).xmin ≤ hcurr.start ∧
      hcurr.stop ≤ (spans.foldl Bounds.addSpan bounds).xmax := by
  induction spans generalizing bounds with
  | nil => exact absurd member List.not_mem_nil
  | cons first spans inductionHypothesis =>
    rcases List.mem_cons.mp member with rfl | member
    · have grows := Bounds.within_foldl (fun bounds hcurr => (bounds.within_addSpan hcurr).1) spans
        (bounds.addSpan hcurr)
      have added := (bounds.within_addSpan hcurr).2
      unfold Bounds.Within at grows
      rw [List.foldl_cons]
      omega
    · exact inductionHypothesis member _

theorem Bounds.addBand_mem {spans : List (Span HorizontalSpans)} {vcurr : Span HorizontalSpans}
    (member : vcurr ∈ spans) {hcurr : Span Unit} (inBand : hcurr ∈ vcurr.subspan) (bounds : Bounds) :
    ((spans.foldl Bounds.addBand bounds).xmin ≤ hcurr.start ∧
        hcurr.stop ≤ (spans.foldl Bounds.addBand bounds).xmax) ∧
      (spans.foldl Bounds.addBand bounds).ymin ≤ vcurr.start ∧
        vcurr.stop ≤ (spans.foldl Bounds.addBand bounds).ymax := by
  induction spans generalizing bounds with
  | nil => exact absurd member List.not_mem_nil
  | cons first spans inductionHypothesis =>
    rcases List.mem_cons.mp member with rfl | member
    · have grows := Bounds.within_foldl (fun bounds vcurr => (bounds.within_addBand vcurr).1) spans
        (bounds.addBand vcurr)
      have rows := (bounds.within_addBand vcurr).2
      have columns : (bounds.addBand vcurr).xmin ≤ hcurr.start ∧
          hcurr.stop ≤ (bounds.addBand vcurr).xmax := Bounds.addSpan_mem inBand _
      unfold Bounds.Within at grows
      rw [List.foldl_cons]
      omega
    · exact inductionHypothesis member _

/-- A pixel of a region lies in one of the spans of one of the bands. -/
theorem contains_iff : region.Contains x y ↔ ∃ vcurr ∈ region.spans, ∃ hcurr ∈ vcurr.subspan,
    (hcurr.start ≤ x ∧ x < hcurr.stop) ∧ vcurr.start ≤ y ∧ y < vcurr.stop := by
  unfold Contains Holds Covers
  refine exists_congr fun vcurr => and_congr_right fun _ => ?_
  constructor
  · rintro ⟨inside, hcurr, member, covers, -⟩
    exact ⟨hcurr, member, covers, inside⟩
  · rintro ⟨hcurr, member, covers, inside⟩
    exact ⟨inside, hcurr, member, covers, trivial⟩

/-- The bounding box of a region contains it. -/
theorem contains_bbox (contains : region.Contains x y) : (sraRgnBBox region).Contains x y := by
  obtain ⟨vcurr, inRegion, hcurr, inBand, inside⟩ := contains_iff.mp contains
  have around := Bounds.addBand_mem inRegion inBand Bounds.initial
  unfold sraRgnBBox
  dsimp only
  rw [dif_pos (by omega), contains_createRect]
  omega

end SraRegion

/-! ### Regions of the screen -/

/-- A region that does not leave the screen. -/
structure ClippedRegion (width height : Nat) extends SraRegion where
  clipped : ∀ {x y}, toSraRegion.Contains x y → (0 ≤ x ∧ x < width) ∧ 0 ≤ y ∧ y < height

namespace ClippedRegion

open Raster Rfb SraRegion

variable {width height : Nat}

def empty (width height : Nat) : ClippedRegion width height :=
  ⟨sraRgnCreate, fun contains => absurd contains not_contains_create⟩

/-- `sraRgnCreateRect` for a rectangle that does not leave the screen. -/
def rect (rectangle : Rectangle) (some : 0 < rectangle.w ∧ 0 < rectangle.h)
    (within : rectangle.Within width height) : ClippedRegion width height where
  toSraRegion := sraRgnCreateRect rectangle.x rectangle.y (rectangle.x + rectangle.w)
    (rectangle.y + rectangle.h) (by omega)
  clipped := by
    intro x y contains
    rw [contains_createRect] at contains
    have right := within.1
    have bottom := within.2
    omega

theorem contains_rect {rectangle : Rectangle} (some : 0 < rectangle.w ∧ 0 < rectangle.h)
    (within : rectangle.Within width height) {x y : Int} :
    (rect rectangle some within).Contains x y ↔
      (rectangle.x ≤ x ∧ x < rectangle.x + rectangle.w) ∧
        rectangle.y ≤ y ∧ y < rectangle.y + rectangle.h :=
  contains_createRect ⟨by omega, by omega⟩

def or (dst src : ClippedRegion width height) : ClippedRegion width height :=
  ⟨sraRgnOr dst.toSraRegion src.toSraRegion, fun contains =>
    (contains_or.mp contains).elim dst.clipped src.clipped⟩

def and (dst : ClippedRegion width height) (src : SraRegion) : ClippedRegion width height :=
  ⟨sraRgnAnd dst.toSraRegion src, fun contains => dst.clipped (contains_and.mp contains).1⟩

def subtract (dst : ClippedRegion width height) (src : SraRegion) : ClippedRegion width height :=
  ⟨sraRgnSubtract dst.toSraRegion src, fun contains => dst.clipped (contains_subtract.mp contains).1⟩

/-- The intersection with a region that does not leave the screen. -/
def andClipped (dst : SraRegion) (src : ClippedRegion width height) : ClippedRegion width height :=
  ⟨sraRgnAnd dst src.toSraRegion, fun contains => src.clipped (contains_and.mp contains).2⟩

variable {region : ClippedRegion width height}

/-- None of the spans leaves the screen. -/
theorem inside {vcurr : Span HorizontalSpans} (inRegion : vcurr ∈ region.spans)
    {hcurr : Span Unit} (inBand : hcurr ∈ vcurr.subspan) :
    ((0 ≤ hcurr.start ∧ hcurr.start < hcurr.stop) ∧ hcurr.stop ≤ width) ∧
      (0 ≤ vcurr.start ∧ vcurr.start < vcurr.stop) ∧ vcurr.stop ≤ height := by
  obtain ⟨_, above⟩ := region.proper
  obtain ⟨rows, ⟨_, inOrder⟩, -⟩ := above.fine_of_mem inRegion
  have columns : hcurr.start < hcurr.stop := (inOrder.fine_of_mem inBand).1
  have first := region.clipped (contains_iff.mpr
    ⟨vcurr, inRegion, hcurr, inBand, ⟨le_rfl, columns⟩, le_rfl, rows⟩)
  have last := region.clipped (contains_iff.mpr
    ⟨vcurr, inRegion, hcurr, inBand, ⟨Int.le_sub_one_of_lt columns, sub_one_lt _⟩,
      Int.le_sub_one_of_lt rows, sub_one_lt _⟩)
  omega

/-- The bounding box does not leave the screen either. -/
def bbox (region : ClippedRegion width height) : ClippedRegion width height where
  toSraRegion := sraRgnBBox region.toSraRegion
  clipped := by
    have inScreen : (region.spans.foldl Bounds.addBand Bounds.initial).Within
        ⟨0, 0, width, height⟩ := by
      refine Bounds.foldl_within (fun vcurr inRegion bounds within => ?_) ?_
      · refine Bounds.foldl_within (fun hcurr inBand bounds within => ?_) ?_
        · have columns := (region.inside inRegion inBand).1
          unfold Bounds.Within Bounds.addSpan at *
          dsimp only at *
          omega
        · obtain ⟨_, above⟩ := region.proper
          obtain ⟨hcurr, others, some⟩ :=
            List.exists_cons_of_ne_nil (above.fine_of_mem inRegion).2.2
          have inBand : hcurr ∈ vcurr.subspan := some ▸ List.mem_cons_self
          have rows := (region.inside inRegion inBand).2
          unfold Bounds.Within at *
          dsimp only at *
          omega
      · unfold Bounds.Within Bounds.initial largestInt
        dsimp only
        omega
    intro x y contains
    unfold sraRgnBBox at contains
    dsimp only at contains
    split at contains
    · rw [contains_createRect] at contains
      unfold Bounds.Within at inScreen
      dsimp only at inScreen
      omega
    · exact absurd contains not_contains_create

/-! ### The rectangles of a region -/

/-- The band of a span of the first level. -/
def band (vcurr : Span HorizontalSpans) : Band where
  start := vcurr.start.toNat
  stop := vcurr.stop.toNat
  subspan := vcurr.subspan.map fun hcurr => (hcurr.start.toNat, hcurr.stop.toNat)

/-- The region, whose coordinates are not negative. -/
def toRegion (region : ClippedRegion width height) : Region where
  bands := region.spans.map band
  proper := by
    intro member inBands
    obtain ⟨vcurr, inRegion, rfl⟩ := List.mem_map.mp inBands
    obtain ⟨_, above⟩ := region.proper
    obtain ⟨rows, ⟨_, inOrder⟩, some⟩ := above.fine_of_mem inRegion
    obtain ⟨hcurr, others, first⟩ := List.exists_cons_of_ne_nil some
    have inBand : hcurr ∈ vcurr.subspan := first ▸ List.mem_cons_self
    have inRows := (region.inside inRegion inBand).2
    refine ⟨?_, fun span inSpans => ?_, ?_⟩
    · show vcurr.start.toNat < vcurr.stop.toNat
      omega
    · obtain ⟨hcurr, inBand, rfl⟩ := List.mem_map.mp inSpans
      have inColumns := (region.inside inRegion inBand).1
      dsimp only
      omega
    · refine List.pairwise_map.mpr (inOrder.pairwise.imp fun order => ?_)
      dsimp only
      omega
  sorted := by
    obtain ⟨_, above⟩ := region.proper
    refine List.pairwise_map.mpr (above.pairwise.imp fun order => ?_)
    unfold band
    dsimp only
    omega

variable {reverseX reverseY : Bool} {rectangle : Rectangle}

/-- Its rectangles lie in the screen. -/
theorem within_rectangles
    (member : rectangle ∈ region.toRegion.rectangles reverseX reverseY) :
    rectangle.Within width height := by
  obtain ⟨_, inBands, _, inSpans, rfl⟩ := Region.mem_rectangles.mp member
  obtain ⟨vcurr, inRegion, rfl⟩ := List.mem_map.mp inBands
  obtain ⟨hcurr, inBand, rfl⟩ := List.mem_map.mp inSpans
  have bounds := region.inside inRegion inBand
  unfold Rectangle.Within band
  dsimp only
  omega

/-- They contain the pixels of the region. -/
theorem contains_toRegion (column row : Nat) :
    region.toRegion.Contains column row ↔ region.Contains column row := by
  rw [contains_iff]
  unfold Region.Contains
  simp only [Region.mem_rectangles]
  constructor
  · rintro ⟨_, ⟨_, inBands, _, inSpans, rfl⟩, contains⟩
    obtain ⟨vcurr, inRegion, rfl⟩ := List.mem_map.mp inBands
    obtain ⟨hcurr, inBand, rfl⟩ := List.mem_map.mp inSpans
    have bounds := region.inside inRegion inBand
    unfold Rectangle.Contains band at contains
    dsimp only at contains
    exact ⟨vcurr, inRegion, hcurr, inBand, by omega⟩
  · rintro ⟨vcurr, inRegion, hcurr, inBand, contains⟩
    have bounds := region.inside inRegion inBand
    refine ⟨_, ⟨band vcurr, List.mem_map_of_mem inRegion,
      _, List.mem_map_of_mem inBand, rfl⟩, ?_⟩
    unfold Rectangle.Contains band
    dsimp only
    omega

/-- The first and the last pixel of a rectangle belong to the region. -/
theorem contains_corners (member : rectangle ∈ region.toRegion.rectangles reverseX reverseY) :
    region.Contains rectangle.x rectangle.y ∧
      region.Contains (rectangle.x + rectangle.w - 1 : Int) (rectangle.y + rectangle.h - 1 : Int) := by
  obtain ⟨some, some'⟩ := Region.positive _ member
  have each {column row : Nat} (contains : rectangle.Contains column row) :
      region.Contains column row := (contains_toRegion column row).mp
    ((Region.contains_iff _ _ _ _ _).mpr ⟨rectangle, member, contains⟩)
  have last := @each (rectangle.x + rectangle.w - 1) (rectangle.y + rectangle.h - 1) (by
    unfold Rectangle.Contains
    omega)
  rw [Nat.cast_sub (by omega), Nat.cast_sub (by omega)] at last
  push_cast at last
  refine ⟨each ?_, last⟩
  unfold Rectangle.Contains
  omega

/-- There are as many as the region counts. -/
theorem length_rectangles (region : ClippedRegion width height) (reverseX reverseY : Bool) :
    (region.toRegion.rectangles reverseX reverseY).length =
      region.sraRgnCountRects := by
  rw [Region.length_rectangles]
  unfold Region.rectangles sraRgnCountRects
  rw [List.length_flatMap]
  simp only [Band.length_rectangles]
  show (List.map _ (List.map band _)).sum = _
  rw [List.map_map]
  congr 1
  refine List.map_congr_left fun vcurr _ => ?_
  exact List.length_map _

/-- In whichever directions a region is iterated, each of its pixels is in exactly one of the
rectangles, and nothing else is in any of them. -/
theorem rectangles_partition (region : ClippedRegion width height) (reverseX reverseY : Bool) :
    ((region.toRegion.rectangles reverseX reverseY).Pairwise fun one other =>
        ∀ column row, one.Contains column row → ¬other.Contains column row) ∧
      (∀ rect ∈ region.toRegion.rectangles reverseX reverseY,
        (0 < rect.w ∧ 0 < rect.h) ∧ rect.Within width height) ∧
        (∀ column row : Nat, region.Contains column row ↔
          ∃ rect ∈ region.toRegion.rectangles reverseX reverseY, rect.Contains column row) ∧
          (region.toRegion.rectangles reverseX reverseY).length = region.sraRgnCountRects :=
  ⟨region.toRegion.pairwise_disjoint reverseX reverseY,
    fun _ member => ⟨Region.positive _ member, within_rectangles member⟩,
    fun column row => (contains_toRegion column row).symm.trans (Region.contains_iff _ _ _ column row),
    length_rectangles region reverseX reverseY⟩

end ClippedRegion

end TermPlux
