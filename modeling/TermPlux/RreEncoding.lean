/-
This file models RRE and CoRRE encoding: the server library sends a rectangle as a
background colour and rectangles of one colour on top of it, and the client library
fills them in the order in which they arrive. CoRRE has small rectangles only, so
that their coordinates fit into a byte each, and splits large ones.

Where the encoding is too large, the server falls back to raw encoding. In either
case the client shows what the server did.
-/

import TermPlux.RawEncoding
import TermPlux.Subrects

namespace TermPlux.Rfb

open Raster Subrects

variable {size : Nat}

/-! ### The background colour -/

/-- How often the colours were seen, and the one that was seen most often first. -/
structure Counted (size : Nat) where
  counts : PixelBytes size → Nat
  maxcount : Nat
  maxclr : PixelBytes size

def Counted.add (counted : Counted size) (pixel : PixelBytes size) : Counted size :=
  let counts := Function.update counted.counts pixel (counted.counts pixel + 1)
  if counts pixel > counted.maxcount then ⟨counts, counts pixel, pixel⟩
  else { counted with counts }

/-- The most prevalent colour where pixels are bytes, and the first one otherwise. -/
def getBgColour (data : List (PixelBytes size)) : PixelBytes size :=
  if size ≠ 1 then pixelOf data 0
  else (data.foldl Counted.add ⟨fun _ => 0, 0, List.Vector.replicate size 0⟩).maxclr

/-! ### The server -/

def sz_rfbRectangle : Nat := 8

def rfbRectangle (rectangle : Rectangle) : List UInt8 :=
  bigEndianBytes 2 rectangle.x ++ (bigEndianBytes 2 rectangle.y ++
    (bigEndianBytes 2 rectangle.w ++ bigEndianBytes 2 rectangle.h))

def sz_rfbCoRRERectangle : Nat := 4

def rfbCoRRERectangle (rectangle : Rectangle) : List UInt8 :=
  bigEndianBytes 1 rectangle.x ++ (bigEndianBytes 1 rectangle.y ++
    (bigEndianBytes 1 rectangle.w ++ bigEndianBytes 1 rectangle.h))

/-- The colours and the rectangles, one after the other. -/
def subrectBytes (rectangleBytes : Rectangle → List UInt8) (subrects : List (Subrect (PixelBytes size))) :
    List UInt8 :=
  subrects.flatMap fun subrect => subrect.colour.toList ++ rectangleBytes subrect.rectangle

/-- Whether so many rectangles are not larger than the pixels, and fit into the buffer. -/
def newLenFits (size sz_rectangle w h afterEncBufSize numsubs : Nat) : Bool :=
  let newLen := size + numsubs * (size + sz_rectangle)
  !(decide (newLen > w * h * size) || decide (newLen > afterEncBufSize))

/-- What follows the header of an RRE or CoRRE rectangle. There is no result where it is too
large. -/
def rreBody (rectangleBytes : Rectangle → List UInt8) (sz_rectangle afterEncBufSize : Nat)
    (beforeEncBuf : List (PixelBytes size)) (w h : Nat) : Option (List UInt8) :=
  let bg := getBgColour beforeEncBuf
  (subrectEncode (pixelOf beforeEncBuf) w h bg
    (newLenFits size sz_rectangle w h afterEncBufSize)).map fun subrects =>
      bigEndianBytes 4 subrects.length ++ (bg.toList ++ subrectBytes rectangleBytes subrects)

def rfbEncodingRRE : Nat := 2

def rfbEncodingCoRRE : Nat := 4

def rfbSendRectEncodingRRE (screen : Screen size) (afterEncBufSize x y w h : Nat) :
    Option (List UInt8) :=
  match rreBody rfbRectangle sz_rfbRectangle afterEncBufSize (translateFn screen x y w h) w h with
  | some body => some (rectHeader x y w h rfbEncodingRRE ++ body)
  | none => rfbSendRectEncodingRaw screen x y w h

/-- A small rectangle, whose size fits into bytes. -/
def rfbSendSmallRectEncodingCoRRE (screen : Screen size) (afterEncBufSize x y w h : Nat) :
    Option (List UInt8) :=
  match rreBody rfbCoRRERectangle sz_rfbCoRRERectangle afterEncBufSize
    (translateFn screen x y w h) w h with
  | some body => some (rectHeader x y w h rfbEncodingCoRRE ++ body)
  | none => rfbSendRectEncodingRaw screen x y w h

def correMaxWidth : Nat := 48

def correMaxHeight : Nat := 48

/-- The small rectangles that `rfbSendRectEncodingCoRRE` calls itself down to. -/
def correRectangles (x y w h : Nat) : List Rectangle :=
  if h > correMaxHeight then
    correRectangles x y w correMaxHeight ++
      correRectangles x (y + correMaxHeight) w (h - correMaxHeight)
  else if w > correMaxWidth then
    correRectangles x y correMaxWidth h ++
      correRectangles (x + correMaxWidth) y (w - correMaxWidth) h
  else [⟨x, y, w, h⟩]
termination_by h + w
decreasing_by all_goals simp only [correMaxHeight, correMaxWidth] at *; omega

/-- It does not look at the results for the small rectangles. -/
def rfbSendRectEncodingCoRRE (screen : Screen size) (afterEncBufSize x y w h : Nat) : List UInt8 :=
  (correRectangles x y w h).flatMap fun small =>
    (rfbSendSmallRectEncodingCoRRE screen afterEncBufSize small.x small.y small.w small.h).getD []

/-! ### The client -/

/-- The loop that reads and fills the rectangles. -/
def rreSubrects (rx ry : Nat) :
    Nat → FrameBuffer (PixelBytes size) → Decoder (FrameBuffer (PixelBytes size))
  | 0, buffer => pure buffer
  | left + 1, buffer =>
    .read size fun pix => .read sz_rfbRectangle fun subrect =>
      rreSubrects rx ry left
        (buffer.FillRectangle (rx + field subrect.toList 0 2) (ry + field subrect.toList 2 2)
          (field subrect.toList 4 2) (field subrect.toList 6 2) pix)

def HandleRRE (rx ry rw rh : Nat) (buffer : FrameBuffer (PixelBytes size)) :
    Decoder (FrameBuffer (PixelBytes size)) :=
  .read 4 fun hdr => .read size fun pix =>
    rreSubrects rx ry (bigEndian hdr.toList) (buffer.FillRectangle rx ry rw rh pix)

/-- The loop over the rectangles in the buffer of the client, which `ptr` points into. -/
def correSubrects (rx ry : Nat) :
    Nat → List UInt8 → FrameBuffer (PixelBytes size) → FrameBuffer (PixelBytes size)
  | 0, _, buffer => buffer
  | left + 1, ptr, buffer =>
    let pix := firstPixel ptr
    let ptr := ptr.drop size
    correSubrects rx ry left (ptr.drop 4)
      (buffer.FillRectangle (rx + field ptr 0 1) (ry + field ptr 1 1) (field ptr 2 1)
        (field ptr 3 1) pix)

/-- The rectangles are read at once, where they fit into the buffer. -/
def readCorreSubrects (rx ry nSubrects : Nat) (filled : FrameBuffer (PixelBytes size)) :
    Decoder (FrameBuffer (PixelBytes size)) :=
  if nSubrects > RFB_BUFFER_SIZE / (4 + size) then .fail
  else
    .read (nSubrects * (4 + size)) fun bytes =>
      pure (correSubrects rx ry nSubrects bytes.toList filled)

def HandleCoRRE (rx ry rw rh : Nat) (buffer : FrameBuffer (PixelBytes size)) :
    Decoder (FrameBuffer (PixelBytes size)) :=
  .read 4 fun hdr => .read size fun pix =>
    readCorreSubrects rx ry (bigEndian hdr.toList) (buffer.FillRectangle rx ry rw rh pix)

theorem readsAtMost_rreSubrects {limit : Nat} (rx ry left : Nat)
    (buffer : FrameBuffer (PixelBytes size)) (pixel : size ≤ limit)
    (rectangle : sz_rfbRectangle ≤ limit) : (rreSubrects rx ry left buffer).ReadsAtMost limit := by
  induction left generalizing buffer with
  | zero => trivial
  | succ left inductionHypothesis =>
    exact ⟨pixel, fun pix => ⟨rectangle, fun subrect => inductionHypothesis _⟩⟩

theorem readsAtMost_handleRRE (rx ry rw rh : Nat) (buffer : FrameBuffer (PixelBytes size))
    (format : size ≤ 4) : (HandleRRE rx ry rw rh buffer).ReadsAtMost RFB_BUFFER_SIZE := by
  have pixel : size ≤ RFB_BUFFER_SIZE := format.trans (by decide)
  exact ⟨by decide, fun hdr => ⟨pixel, fun pix =>
    readsAtMost_rreSubrects rx ry _ _ pixel (by decide)⟩⟩

/-- However many rectangles the server announces, what is read fits into the buffer. -/
theorem readsAtMost_handleCoRRE (rx ry rw rh : Nat) (buffer : FrameBuffer (PixelBytes size))
    (format : size ≤ 4) : (HandleCoRRE rx ry rw rh buffer).ReadsAtMost RFB_BUFFER_SIZE := by
  refine ⟨by decide, fun hdr => ⟨format.trans (by decide), fun pix => ?_⟩⟩
  unfold readCorreSubrects
  split
  · trivial
  · next few =>
    exact ⟨(Nat.le_div_iff_mul_le (by omega)).mp (Nat.not_lt.mp few), fun bytes => trivial⟩

/-! ### Filling rectangles -/

/-- The rectangles of a tile are filled in order. -/
def fillSubrects (rx ry : Nat) (subrects : List (Subrect (PixelBytes size)))
    (buffer : FrameBuffer (PixelBytes size)) : FrameBuffer (PixelBytes size) :=
  subrects.foldl (fun current subrect =>
    current.FillRectangle (rx + subrect.rectangle.x) (ry + subrect.rectangle.y)
      subrect.rectangle.w subrect.rectangle.h subrect.colour) buffer

theorem width_fillSubrects (rx ry : Nat) (subrects : List (Subrect (PixelBytes size)))
    (buffer : FrameBuffer (PixelBytes size)) :
    (fillSubrects rx ry subrects buffer).width = buffer.width ∧
      (fillSubrects rx ry subrects buffer).height = buffer.height := by
  unfold fillSubrects
  induction subrects generalizing buffer with
  | nil => exact ⟨rfl, rfl⟩
  | cons subrect rest inductionHypothesis =>
    rw [List.foldl_cons]
    obtain ⟨width, height⟩ := inductionHypothesis (buffer.FillRectangle (rx + subrect.rectangle.x)
      (ry + subrect.rectangle.y) subrect.rectangle.w subrect.rectangle.h subrect.colour)
    exact ⟨width.trans (FrameBuffer.width_fillRectangle _ _ _ _ _),
      height.trans (FrameBuffer.height_fillRectangle _ _ _ _ _)⟩

/-- The framebuffer shows the tile as it is painted, and is left alone outside of it. -/
theorem pixel_fillSubrects {rx ry rw rh : Nat} {subrects : List (Subrect (PixelBytes size))}
    {buffer : FrameBuffer (PixelBytes size)} (bg : PixelBytes size)
    (within : (⟨rx, ry, rw, rh⟩ : Rectangle).Within buffer.width buffer.height)
    (inside : ∀ subrect ∈ subrects, subrect.rectangle.Within rw rh) {column row : Nat}
    (narrow : column < buffer.width) :
    (fillSubrects rx ry subrects (buffer.FillRectangle rx ry rw rh bg)).pixel column row =
      if (⟨rx, ry, rw, rh⟩ : Rectangle).Contains column row then
        painted bg subrects (column - rx) (row - ry)
      else buffer.pixel column row := by
  induction subrects using List.reverseRecOn with
  | nil => exact FrameBuffer.pixel_fillRectangle within narrow
  | append_singleton subrects subrect inductionHypothesis =>
    have before := inductionHypothesis fun other member =>
      inside other (List.mem_append_left [subrect] member)
    obtain ⟨right, bottom⟩ := inside subrect (List.mem_append_right subrects (List.mem_singleton_self _))
    obtain ⟨right', bottom'⟩ := within
    dsimp only at right' bottom'
    obtain ⟨width, height⟩ := width_fillSubrects rx ry subrects (buffer.FillRectangle rx ry rw rh bg)
    have fits : (⟨rx + subrect.rectangle.x, ry + subrect.rectangle.y, subrect.rectangle.w,
        subrect.rectangle.h⟩ : Rectangle).Within
        (fillSubrects rx ry subrects (buffer.FillRectangle rx ry rw rh bg)).width
        (fillSubrects rx ry subrects (buffer.FillRectangle rx ry rw rh bg)).height := by
      rw [width, height, FrameBuffer.width_fillRectangle, FrameBuffer.height_fillRectangle]
      exact ⟨by dsimp only; omega, by dsimp only; omega⟩
    have narrow' : column <
        (fillSubrects rx ry subrects (buffer.FillRectangle rx ry rw rh bg)).width := by
      rw [width, FrameBuffer.width_fillRectangle]
      exact narrow
    have drawn := @FrameBuffer.pixel_fillRectangle _ _ _ _ _ _ _ subrect.colour fits column row narrow'
    rw [fillSubrects, List.foldl_append, List.foldl_cons, List.foldl_nil, ← fillSubrects, drawn,
      before, painted_append]
    by_cases contains : (⟨rx, ry, rw, rh⟩ : Rectangle).Contains column row
    · rw [if_pos contains, if_pos contains]
      have same : (⟨rx + subrect.rectangle.x, ry + subrect.rectangle.y, subrect.rectangle.w,
          subrect.rectangle.h⟩ : Rectangle).Contains column row ↔
            subrect.rectangle.Contains (column - rx) (row - ry) := by
        unfold Rectangle.Contains at contains ⊢
        dsimp only at contains ⊢
        omega
      exact if_congr same rfl rfl
    · rw [if_neg contains, if_neg contains, if_neg]
      intro other
      unfold Rectangle.Contains at contains other
      dsimp only at contains other
      omega

/-! ### Reading rectangles -/

theorem length_rfbRectangle (rectangle : Rectangle) :
    (rfbRectangle rectangle).length = sz_rfbRectangle := rfl

theorem length_rfbCoRRERectangle (rectangle : Rectangle) :
    (rfbCoRRERectangle rectangle).length = sz_rfbCoRRERectangle := rfl

theorem length_subrectBytes {rectangleBytes : Rectangle → List UInt8} {sz_rectangle : Nat}
    (length : ∀ rectangle, (rectangleBytes rectangle).length = sz_rectangle)
    (subrects : List (Subrect (PixelBytes size))) :
    (subrectBytes rectangleBytes subrects).length = subrects.length * (sz_rectangle + size) := by
  induction subrects with
  | nil => exact (Nat.zero_mul _).symm
  | cons subrect rest inductionHypothesis =>
    rw [subrectBytes, List.flatMap_cons, ← subrectBytes, List.length_append, List.length_append,
      inductionHypothesis, length, subrect.colour.toList_length, List.length_cons, Nat.succ_mul]
    omega

/-- The numbers of a rectangle are below a bound. -/
def Small (bound : Nat) (rectangle : Rectangle) : Prop :=
  (rectangle.x < bound ∧ rectangle.y < bound) ∧ rectangle.w < bound ∧ rectangle.h < bound

theorem field_rfbRectangle {rectangle : Rectangle} (small : Small (256 ^ 2) rectangle) :
    (field (rfbRectangle rectangle) 0 2 = rectangle.x ∧
        field (rfbRectangle rectangle) 2 2 = rectangle.y) ∧
      field (rfbRectangle rectangle) 4 2 = rectangle.w ∧
        field (rfbRectangle rectangle) 6 2 = rectangle.h := by
  obtain ⟨⟨left, top⟩, wide, high⟩ := small
  have length (number : Nat) := length_bigEndianBytes 2 number
  unfold rfbRectangle
  refine ⟨⟨?_, ?_⟩, ?_, ?_⟩
  · rw [field_zero (length _), bigEndian_bigEndianBytes left]
  · rw [show 2 = 2 + 0 from rfl, field_add (length _), field_zero (length _),
      bigEndian_bigEndianBytes top]
  · rw [show 4 = 2 + (2 + 0) from rfl, field_add (length _), field_add (length _),
      field_zero (length _), bigEndian_bigEndianBytes wide]
  · rw [show 6 = 2 + (2 + (2 + 0)) from rfl, field_add (length _), field_add (length _),
      field_add (length _), ← List.append_nil (bigEndianBytes 2 rectangle.h),
      field_zero (length _), bigEndian_bigEndianBytes high]

theorem field_rfbCoRRERectangle {rectangle : Rectangle} (small : Small (256 ^ 1) rectangle)
    (rest : List UInt8) :
    (field (rfbCoRRERectangle rectangle ++ rest) 0 1 = rectangle.x ∧
        field (rfbCoRRERectangle rectangle ++ rest) 1 1 = rectangle.y) ∧
      field (rfbCoRRERectangle rectangle ++ rest) 2 1 = rectangle.w ∧
        field (rfbCoRRERectangle rectangle ++ rest) 3 1 = rectangle.h := by
  obtain ⟨⟨left, top⟩, wide, high⟩ := small
  have length (number : Nat) := length_bigEndianBytes 1 number
  unfold rfbCoRRERectangle
  rw [List.append_assoc, List.append_assoc, List.append_assoc]
  refine ⟨⟨?_, ?_⟩, ?_, ?_⟩
  · rw [field_zero (length _), bigEndian_bigEndianBytes left]
  · rw [show 1 = 1 + 0 from rfl, field_add (length _), field_zero (length _),
      bigEndian_bigEndianBytes top]
  · rw [show 2 = 1 + (1 + 0) from rfl, field_add (length _), field_add (length _),
      field_zero (length _), bigEndian_bigEndianBytes wide]
  · rw [show 3 = 1 + (1 + (1 + 0)) from rfl, field_add (length _), field_add (length _),
      field_add (length _), field_zero (length _), bigEndian_bigEndianBytes high]

/-- The rectangles of RRE encoding are read one after the other. -/
theorem run_rreSubrects (rx ry : Nat) {subrects : List (Subrect (PixelBytes size))}
    (small : ∀ subrect ∈ subrects, Small (256 ^ 2) subrect.rectangle)
    (buffer : FrameBuffer (PixelBytes size)) (rest : List UInt8) :
    (rreSubrects rx ry subrects.length buffer).run (subrectBytes rfbRectangle subrects ++ rest) =
      some (fillSubrects rx ry subrects buffer, rest) := by
  induction subrects generalizing buffer with
  | nil => rfl
  | cons subrect others inductionHypothesis =>
    obtain ⟨⟨x, y⟩, w, h⟩ := field_rfbRectangle (small subrect List.mem_cons_self)
    rw [List.length_cons, rreSubrects, subrectBytes, List.flatMap_cons, ← subrectBytes,
      List.append_assoc, List.append_assoc, Decoder.run_read,
      Decoder.run_read_append _ (length_rfbRectangle subrect.rectangle)]
    show (rreSubrects rx ry others.length (buffer.FillRectangle
      (rx + field (rfbRectangle subrect.rectangle) 0 2)
      (ry + field (rfbRectangle subrect.rectangle) 2 2)
      (field (rfbRectangle subrect.rectangle) 4 2) (field (rfbRectangle subrect.rectangle) 6 2)
      subrect.colour)).run _ = _
    rw [x, y, w, h]
    exact inductionHypothesis (fun other member => small other (List.mem_cons_of_mem _ member)) _

/-- The rectangles of CoRRE encoding are taken out of the buffer. -/
theorem correSubrects_subrectBytes (rx ry : Nat) {subrects : List (Subrect (PixelBytes size))}
    (small : ∀ subrect ∈ subrects, Small (256 ^ 1) subrect.rectangle)
    (buffer : FrameBuffer (PixelBytes size)) :
    correSubrects rx ry subrects.length (subrectBytes rfbCoRRERectangle subrects) buffer =
      fillSubrects rx ry subrects buffer := by
  induction subrects generalizing buffer with
  | nil => rfl
  | cons subrect others inductionHypothesis =>
    have colour : (subrectBytes rfbCoRRERectangle (subrect :: others)) = subrect.colour.toList ++
        (rfbCoRRERectangle subrect.rectangle ++ subrectBytes rfbCoRRERectangle others) := by
      rw [subrectBytes, List.flatMap_cons, ← subrectBytes, List.append_assoc]
    obtain ⟨⟨x, y⟩, w, h⟩ := field_rfbCoRRERectangle (small subrect List.mem_cons_self)
      (subrectBytes rfbCoRRERectangle others)
    rw [List.length_cons, correSubrects, colour, firstPixel_append, List.drop_left' subrect.colour.toList_length, x, y, w, h,
      show 4 = sz_rfbCoRRERectangle from rfl,
      List.drop_left' (length_rfbCoRRERectangle subrect.rectangle)]
    exact inductionHypothesis (fun other member => small other (List.mem_cons_of_mem _ member)) _

/-! ### The round trips -/

variable {screen : Screen size} {x y w h : Nat}

/-- What follows the header says how the rectangle is painted. -/
theorem rreBody_spec {rectangleBytes : Rectangle → List UInt8} {sz_rectangle afterEncBufSize : Nat}
    {body : List UInt8}
    (encoded : rreBody rectangleBytes sz_rectangle afterEncBufSize (translateFn screen x y w h) w h =
      some body) :
    ∃ (bg : PixelBytes size) (subrects : List (Subrect (PixelBytes size))),
      body = bigEndianBytes 4 subrects.length ++ (bg.toList ++ subrectBytes rectangleBytes subrects) ∧
      (∀ subrect ∈ subrects, subrect.rectangle.Within w h) ∧
      (∀ column row, column < w → row < h →
        painted bg subrects column row = screen (x + column) (y + row)) ∧
      subrects.length ≤ w * h ∧
      (subrects = [] ∨ size + subrects.length * (size + sz_rectangle) ≤ w * h * size) := by
  obtain ⟨subrects, searched, rfl⟩ := Option.map_eq_some_iff.mp encoded
  obtain ⟨shapes, paints, fewer, fitted⟩ := subrectEncode_spec searched
  refine ⟨_, subrects, rfl, fun subrect member => (shapes subrect member).1.2,
    fun column row inside below => ?_, fewer.trans (Nat.count_le _), fitted.imp_right fun fits => ?_⟩
  · rw [paints column row inside below, pixelOf_translateFn screen x y inside below]
  · unfold newLenFits at fits
    dsimp only at fits
    rw [Bool.not_eq_true', Bool.or_eq_false_iff, decide_eq_false_iff_not] at fits
    exact Nat.le_of_not_lt fits.1

/-- Rectangles that paint a part of the screen draw it. -/
theorem drawn_fillSubrects {bg : PixelBytes size} {subrects : List (Subrect (PixelBytes size))}
    {buffer : FrameBuffer (PixelBytes size)}
    (within : (⟨x, y, w, h⟩ : Rectangle).Within buffer.width buffer.height)
    (inside : ∀ subrect ∈ subrects, subrect.rectangle.Within w h)
    (paints : ∀ column row, column < w → row < h →
      painted bg subrects column row = screen (x + column) (y + row)) :
    Drawn screen (⟨x, y, w, h⟩ : Rectangle).Contains buffer
      (fillSubrects x y subrects (buffer.FillRectangle x y w h bg)) where
  width := (width_fillSubrects x y subrects _).1.trans (FrameBuffer.width_fillRectangle _ _ _ _ _)
  height := (width_fillSubrects x y subrects _).2.trans (FrameBuffer.height_fillRectangle _ _ _ _ _)
  inside := by
    intro column row narrow contains
    obtain ⟨⟨left, right⟩, top, bottom⟩ := contains
    dsimp only at left right top bottom
    rw [pixel_fillSubrects bg within inside narrow, if_pos ⟨⟨left, right⟩, top, bottom⟩,
      paints _ _ (by omega) (by omega), Nat.add_sub_cancel' left, Nat.add_sub_cancel' top]
  outside := fun column row narrow away => by
    rw [pixel_fillSubrects bg within inside narrow, if_neg away]

theorem small_of_within {bound : Nat} {rectangle : Rectangle} (within : rectangle.Within w h)
    (wide : w < bound) (high : h < bound) : Small bound rectangle := by
  obtain ⟨right, bottom⟩ := within
  exact ⟨⟨by omega, by omega⟩, by omega, by omega⟩

/-- The client shows a rectangle that was sent in RRE encoding, and consumes what was sent. -/
theorem run_handleRRE {afterEncBufSize : Nat} {buffer : FrameBuffer (PixelBytes size)}
    {body : List UInt8}
    (encoded : rreBody rfbRectangle sz_rfbRectangle afterEncBufSize (translateFn screen x y w h) w h =
      some body)
    (within : (⟨x, y, w, h⟩ : Rectangle).Within buffer.width buffer.height)
    (wide : w < 256 ^ 2) (high : h < 256 ^ 2) (rest : List UInt8) :
    ∃ after, (HandleRRE x y w h buffer).run (body ++ rest) = some (after, rest) ∧
      Drawn screen (⟨x, y, w, h⟩ : Rectangle).Contains buffer after := by
  obtain ⟨bg, subrects, rfl, inside, paints, fewer, -⟩ := rreBody_spec encoded
  refine ⟨_, ?_, drawn_fillSubrects within inside paints⟩
  have number : bigEndian (bigEndianBytes 4 subrects.length) = subrects.length := by
    refine bigEndian_bigEndianBytes ?_
    calc subrects.length ≤ w * h := fewer
      _ < 256 ^ 2 * 256 ^ 2 := Nat.mul_lt_mul'' wide high
      _ = 256 ^ 4 := rfl
  rw [HandleRRE, List.append_assoc, List.append_assoc,
    Decoder.run_read_append _ (length_bigEndianBytes 4 _), Decoder.run_read]
  show (rreSubrects x y (bigEndian (bigEndianBytes 4 subrects.length)) _).run _ = _
  rw [number]
  exact run_rreSubrects x y
    (fun subrect member => small_of_within (inside subrect member) wide high) _ rest

/-- The client shows a rectangle that was sent in CoRRE encoding, and consumes what was sent. -/
theorem run_handleCoRRE {afterEncBufSize : Nat} {buffer : FrameBuffer (PixelBytes size)}
    {body : List UInt8}
    (encoded : rreBody rfbCoRRERectangle sz_rfbCoRRERectangle afterEncBufSize
      (translateFn screen x y w h) w h = some body)
    (within : (⟨x, y, w, h⟩ : Rectangle).Within buffer.width buffer.height)
    (wide : w < 256) (high : h < 256) (format : size ≤ 4) (rest : List UInt8) :
    ∃ after, (HandleCoRRE x y w h buffer).run (body ++ rest) = some (after, rest) ∧
      Drawn screen (⟨x, y, w, h⟩ : Rectangle).Contains buffer after := by
  obtain ⟨bg, subrects, rfl, inside, paints, fewer, fitted⟩ := rreBody_spec encoded
  refine ⟨_, ?_, drawn_fillSubrects within inside paints⟩
  have pixels : w * h ≤ 255 * 255 :=
    Nat.mul_le_mul (Nat.le_of_lt_succ wide) (Nat.le_of_lt_succ high)
  have number : bigEndian (bigEndianBytes 4 subrects.length) = subrects.length :=
    bigEndian_bigEndianBytes (by omega)
  -- No more is sent than for the pixels, so that it fits into the buffer of the client.
  have accepted : subrects.length ≤ RFB_BUFFER_SIZE / (4 + size) := by
    refine (Nat.le_div_iff_mul_le (by omega)).mpr ?_
    rcases fitted with rfl | fits
    · rw [List.length_nil, Nat.zero_mul]
      exact Nat.zero_le _
    · calc subrects.length * (4 + size) ≤ w * h * size := by
            rw [Nat.add_comm 4 size]
            exact (Nat.le_add_left _ size).trans fits
        _ ≤ 255 * 255 * 4 := Nat.mul_le_mul pixels format
        _ ≤ RFB_BUFFER_SIZE := by decide
  have length : (subrectBytes rfbCoRRERectangle subrects).length = subrects.length * (4 + size) :=
    length_subrectBytes length_rfbCoRRERectangle subrects
  rw [HandleCoRRE, List.append_assoc, List.append_assoc,
    Decoder.run_read_append _ (length_bigEndianBytes 4 _), Decoder.run_read]
  show (readCorreSubrects x y (bigEndian (bigEndianBytes 4 subrects.length)) _).run _ = _
  rw [number, readCorreSubrects, if_neg (Nat.not_lt.mpr accepted),
    Decoder.run_read_append _ length]
  exact congrArg (fun filled => some (filled, rest)) <| correSubrects_subrectBytes x y
    (fun subrect member => small_of_within (inside subrect member) wide high) _

/-! ### The small rectangles of CoRRE encoding -/

theorem mem_correRectangles {small : Rectangle} (member : small ∈ correRectangles x y w h) :
    small.w ≤ correMaxWidth ∧ small.h ≤ correMaxHeight := by
  fun_induction correRectangles x y w h with
  | case1 x y w h high above below =>
    exact (List.mem_append.mp member).elim above below
  | case2 x y w h _ wide left right =>
    exact (List.mem_append.mp member).elim left right
  | case3 x y w h low narrow =>
    rw [List.mem_singleton.mp member]
    exact ⟨Nat.not_lt.mp narrow, Nat.not_lt.mp low⟩

/-- None of them is empty, where the large rectangle is not. -/
theorem pos_of_mem_correRectangles {small : Rectangle} (member : small ∈ correRectangles x y w h)
    (wide : 0 < w) (high : 0 < h) : 0 < small.w ∧ 0 < small.h := by
  fun_induction correRectangles x y w h with
  | case1 x y w h large above below =>
    rcases List.mem_append.mp member with first | second
    · exact above first wide (by decide)
    · exact below second wide (Nat.sub_pos_of_lt large)
  | case2 x y w h _ large left right =>
    rcases List.mem_append.mp member with first | second
    · exact left first (by decide) high
    · exact right second (Nat.sub_pos_of_lt large) high
  | case3 x y w h low narrow =>
    rw [List.mem_singleton.mp member]
    exact ⟨wide, high⟩

/-- They cover the large one, and nothing else. -/
theorem contains_correRectangles (x y w h column row : Nat) :
    (∃ small ∈ correRectangles x y w h, small.Contains column row) ↔
      (⟨x, y, w, h⟩ : Rectangle).Contains column row := by
  fun_induction correRectangles x y w h with
  | case1 x y w h large above below =>
    simp only [List.mem_append, or_and_right, exists_or, above, below]
    unfold Rectangle.Contains
    dsimp only
    omega
  | case2 x y w h _ large left right =>
    simp only [List.mem_append, or_and_right, exists_or, left, right]
    unfold Rectangle.Contains
    dsimp only
    omega
  | case3 x y w h low narrow =>
    simp only [List.mem_singleton, exists_eq_left]

/-- None of them leaves the large one. -/
theorem within_of_mem_correRectangles {small : Rectangle} {width height : Nat}
    (member : small ∈ correRectangles x y w h)
    (within : (⟨x, y, w, h⟩ : Rectangle).Within width height) : small.Within width height := by
  fun_induction correRectangles x y w h with
  | case1 x y w h large above below =>
    obtain ⟨right, bottom⟩ := within
    dsimp only at right bottom
    rcases List.mem_append.mp member with first | second
    · exact above first ⟨right, by dsimp only; omega⟩
    · exact below second ⟨right, by dsimp only; omega⟩
  | case2 x y w h _ large left right =>
    obtain ⟨wide, bottom⟩ := within
    dsimp only at wide bottom
    rcases List.mem_append.mp member with first | second
    · exact left first ⟨by dsimp only; omega, bottom⟩
    · exact right second ⟨by dsimp only; omega, bottom⟩
  | case3 x y w h low narrow =>
    rw [List.mem_singleton.mp member]
    exact within

/-- There are as many of them as the server announces. -/
theorem length_correRectangles (x y : Nat) {w h : Nat} (wide : 0 < w) (high : 0 < h) :
    (correRectangles x y w h).length =
      ((w - 1) / correMaxWidth + 1) * ((h - 1) / correMaxHeight + 1) := by
  fun_induction correRectangles x y w h with
  | case1 x y w h large above below =>
    have rows : (h - 1) / correMaxHeight = (h - correMaxHeight - 1) / correMaxHeight + 1 := by
      unfold correMaxHeight at large ⊢
      omega
    have one : (correMaxHeight - 1) / correMaxHeight = 0 := rfl
    rw [List.length_append, above wide (by decide), below wide (Nat.sub_pos_of_lt large), one, rows]
    ring
  | case2 x y w h low large left right =>
    have columns : (w - 1) / correMaxWidth = (w - correMaxWidth - 1) / correMaxWidth + 1 := by
      unfold correMaxWidth at large ⊢
      omega
    have one : (correMaxWidth - 1) / correMaxWidth = 0 := rfl
    rw [List.length_append, left (by decide) high, right (Nat.sub_pos_of_lt large) high, one,
      columns]
    ring
  | case3 x y w h low narrow =>
    rw [Nat.div_eq_of_lt (by omega), Nat.div_eq_of_lt (by omega)]
    rfl

end TermPlux.Rfb
