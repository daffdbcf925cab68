/-
This file models how the pixels of a rectangle travel from the server library to
the client library, and raw encoding, the simplest of the encodings: the server
writes all lines, as many at a time as fit into its update buffer, and the client
reads as many at a time as fit into its own.

A pixel is sent as the bytes of the format that the client asked for, and the
client stores these bytes. What the server shows is taken in that format, so that
the translation functions only copy.
-/

import TermPlux.ByteDecoder
import TermPlux.FrameBuffer
import TermPlux.RowMajor

namespace TermPlux

/-- A pixel in the format of the client, which has so many bytes. -/
abbrev PixelBytes (size : Nat) := List.Vector UInt8 size

instance (size : Nat) : PixelSize (PixelBytes size) := ⟨size⟩

namespace Rfb

open Raster

/-- The pixels that the server shows, by column and row. -/
abbrev Screen (size : Nat) := Nat → Nat → PixelBytes size

variable {size : Nat}

/-! ### Pixels and bytes -/

def pixelBytes (pixels : List (PixelBytes size)) : List UInt8 := pixels.flatMap List.Vector.toList

/-- The pixel that a buffer of bytes begins with. Missing bytes are zero. -/
def firstPixel (bytes : List UInt8) : PixelBytes size :=
  ⟨(bytes ++ List.replicate size 0).take size, by
    rw [List.length_take, List.length_append, List.length_replicate]
    exact Nat.min_eq_left (Nat.le_add_left size _)⟩

/-- The pixel at an index of a buffer of bytes. -/
def pixelAt (bytes : List UInt8) (index : Nat) : PixelBytes size :=
  firstPixel (bytes.drop (index * size))

/-- The pixels of a rectangle of the screen, line by line. -/
def translateFn (screen : Screen size) (x y w h : Nat) : List (PixelBytes size) :=
  (List.range h ×ˢ List.range w).map fun cell => screen (x + cell.2) (y + cell.1)

/-- The pixel at an index of a buffer of pixels. -/
def pixelOf (pixels : List (PixelBytes size)) (index : Nat) : PixelBytes size :=
  pixels.getD index (List.Vector.replicate size 0)

theorem length_pixelBytes (pixels : List (PixelBytes size)) :
    (pixelBytes pixels).length = pixels.length * size := by
  induction pixels with
  | nil => exact (Nat.zero_mul size).symm
  | cons pixel rest inductionHypothesis =>
    rw [pixelBytes, List.flatMap_cons, List.length_append, ← pixelBytes, inductionHypothesis,
      List.length_cons, pixel.toList_length, Nat.succ_mul, Nat.add_comm]

theorem firstPixel_append (pixel : PixelBytes size) (rest : List UInt8) :
    firstPixel (pixel.toList ++ rest) = pixel := by
  refine Subtype.ext ?_
  show (pixel.toList ++ rest ++ List.replicate size 0).take size = pixel.toList
  rw [List.append_assoc]
  exact List.take_left' pixel.toList_length

theorem pixelAt_pixelBytes {pixels : List (PixelBytes size)} {index : Nat} {pixel : PixelBytes size}
    (present : pixels[index]? = some pixel) : pixelAt (pixelBytes pixels) index = pixel := by
  induction pixels generalizing index with
  | nil => cases present
  | cons first rest inductionHypothesis =>
    unfold pixelAt pixelBytes at inductionHypothesis ⊢
    rw [List.flatMap_cons]
    cases index with
    | zero =>
      cases present
      rw [Nat.zero_mul, List.drop_zero, firstPixel_append]
    | succ index =>
      rw [Nat.succ_mul, Nat.add_comm, ← List.drop_drop, List.drop_left' first.toList_length]
      exact inductionHypothesis present

theorem length_translateFn (screen : Screen size) (x y w h : Nat) :
    (translateFn screen x y w h).length = h * w := by
  rw [translateFn, List.length_map, List.length_product, List.length_range, List.length_range]

theorem getElem?_translateFn (screen : Screen size) (x y : Nat) {w h column row : Nat}
    (inside : column < w) (below : row < h) :
    (translateFn screen x y w h)[row * w + column]? = some (screen (x + column) (y + row)) := by
  have cell := RowMajor.getElem?_product (List.getElem?_range below) (List.getElem?_range inside)
  rw [List.length_range] at cell
  rw [translateFn, List.getElem?_map, cell, Option.map_some]

theorem pixelOf_translateFn (screen : Screen size) (x y : Nat) {w h column row : Nat}
    (inside : column < w) (below : row < h) :
    pixelOf (translateFn screen x y w h) (row * w + column) = screen (x + column) (y + row) := by
  rw [pixelOf, List.getD_eq_getElem?_getD, getElem?_translateFn screen x y inside below,
    Option.getD_some]

/-- Lines are translated one after the other. -/
theorem translateFn_add (screen : Screen size) (x y w above below : Nat) :
    translateFn screen x y w (above + below) =
      translateFn screen x y w above ++ translateFn screen x (y + above) w below := by
  unfold translateFn
  rw [List.range_add]
  show (List.product _ _).map _ = (List.product _ _).map _ ++ (List.product _ _).map _
  unfold List.product
  rw [List.flatMap_append, List.map_append, List.flatMap_map, List.map_flatMap, List.map_flatMap]
  congr 1
  rw [List.map_flatMap]
  congr 1
  funext row
  rw [List.map_map, List.map_map]
  congr 1
  funext column
  exact congrArg (screen (x + column)) (Nat.add_assoc y above row).symm

/-! ### The server -/

def UPDATE_BUF_SIZE : Nat := 32768

def sz_rfbFramebufferUpdateRectHeader : Nat := 12

/-- The header of a rectangle. -/
def rectHeader (x y w h encoding : Nat) : List UInt8 :=
  bigEndianBytes 2 x ++ (bigEndianBytes 2 y ++ (bigEndianBytes 2 w ++ (bigEndianBytes 2 h ++
    bigEndianBytes 4 encoding)))

/-- The loop that sends `h` lines from line `y` on, `nlines` of them first. There is no result where
the buffer is too small for a line, or where so many rounds are not enough. -/
def sendLines (screen : Screen size) (x w : Nat) :
    (rounds y h nlines : Nat) → Option (List (PixelBytes size))
  | 0, _, _, _ => none
  | rounds + 1, y, h, nlines =>
    let nlines := min nlines h
    let sent := translateFn screen x y w nlines
    let left := h - nlines
    if left = 0 then some sent
    else
      let more := UPDATE_BUF_SIZE / (w * size)
      if more = 0 then none
      else (sendLines screen x w rounds (y + nlines) left more).map (sent ++ ·)

def rfbEncodingRaw : Nat := 0

def rfbSendRectEncodingRaw (screen : Screen size) (x y w h : Nat) : Option (List UInt8) :=
  if h = 0 ∨ w = 0 then some []
  else
    let nlines := (UPDATE_BUF_SIZE - sz_rfbFramebufferUpdateRectHeader) / (w * size)
    (sendLines screen x w (h + 1) y h nlines).map fun pixels =>
      rectHeader x y w h rfbEncodingRaw ++ pixelBytes pixels

/-! ### The client -/

def RFB_BUFFER_SIZE : Nat := 640 * 480

/-- The loop that reads `h` lines from line `y` on. Each round reads one at least. -/
def readLines (x w : Nat) : (rounds linesToRead y h : Nat) → FrameBuffer (PixelBytes size) →
    Decoder (FrameBuffer (PixelBytes size))
  | 0, _, _, _, buffer => pure buffer
  | rounds + 1, linesToRead, y, h, buffer =>
    if linesToRead ≠ 0 ∧ 0 < h then
      let linesToRead := min linesToRead h
      .read (w * size * linesToRead) fun bytes =>
        readLines x w rounds linesToRead (y + linesToRead) (h - linesToRead)
          (buffer.CopyRectangle (pixelAt bytes.toList) x y w linesToRead)
    else pure buffer

def HandleRaw (x y w h : Nat) (buffer : FrameBuffer (PixelBytes size)) :
    Decoder (FrameBuffer (PixelBytes size)) :=
  let bytesPerLine := w * size
  let linesToRead := if bytesPerLine ≠ 0 then RFB_BUFFER_SIZE / bytesPerLine else 0
  readLines x w h linesToRead y h buffer

/-! ### What is drawn -/

/-- The framebuffer shows the screen in a region, and is left alone outside of it. -/
structure Drawn (screen : Screen size) (region : Nat → Nat → Prop)
    (before after : FrameBuffer (PixelBytes size)) : Prop where
  width : after.width = before.width
  height : after.height = before.height
  inside : ∀ column row, column < before.width → region column row →
    after.pixel column row = screen column row
  outside : ∀ column row, column < before.width → ¬region column row →
    after.pixel column row = before.pixel column row

variable {screen : Screen size} {before between after : FrameBuffer (PixelBytes size)}

theorem Drawn.refl (screen : Screen size) (before : FrameBuffer (PixelBytes size)) :
    Drawn screen (fun _ _ => False) before before where
  width := rfl
  height := rfl
  inside := fun _ _ _ absurd => absurd.elim
  outside := fun _ _ _ _ => rfl

theorem Drawn.trans {first second : Nat → Nat → Prop} (drawn : Drawn screen first before between)
    (later : Drawn screen second between after) :
    Drawn screen (fun column row => first column row ∨ second column row) before after where
  width := later.width.trans drawn.width
  height := later.height.trans drawn.height
  inside := by
    intro column row narrow either
    by_cases again : second column row
    · exact later.inside column row (drawn.width ▸ narrow) again
    · rw [later.outside column row (drawn.width ▸ narrow) again]
      exact drawn.inside column row narrow (either.resolve_right again)
  outside := by
    intro column row narrow neither
    rw [not_or] at neither
    rw [later.outside column row (drawn.width ▸ narrow) neither.2]
    exact drawn.outside column row narrow neither.1

/-- Nothing is drawn in an empty rectangle. -/
theorem Drawn.empty (screen : Screen size) (before : FrameBuffer (PixelBytes size)) (x y w : Nat) :
    Drawn screen (⟨x, y, w, 0⟩ : Rectangle).Contains before before where
  width := rfl
  height := rfl
  inside := fun _ _ _ contains => absurd contains.2.2 contains.2.1.not_gt
  outside := fun _ _ _ _ => rfl

theorem Drawn.of_iff {region same : Nat → Nat → Prop} (drawn : Drawn screen region before after)
    (iff : ∀ column row, region column row ↔ same column row) : Drawn screen same before after where
  width := drawn.width
  height := drawn.height
  inside := fun column row narrow member =>
    drawn.inside column row narrow ((iff column row).mpr member)
  outside := fun column row narrow away =>
    drawn.outside column row narrow (mt (iff column row).mp away)

/-- The pixels of a rectangle are copied into the framebuffer. -/
theorem drawn_copyRectangle (screen : Screen size) {buffer : FrameBuffer (PixelBytes size)}
    {x y w h : Nat} (within : (⟨x, y, w, h⟩ : Rectangle).Within buffer.width buffer.height) :
    Drawn screen (⟨x, y, w, h⟩ : Rectangle).Contains buffer
      (buffer.CopyRectangle (pixelAt (pixelBytes (translateFn screen x y w h))) x y w h) where
  width := FrameBuffer.width_copyRectangle _ x y w h
  height := FrameBuffer.height_copyRectangle _ x y w h
  inside := by
    intro column row narrow contains
    obtain ⟨⟨left, right⟩, top, bottom⟩ := contains
    dsimp only at left right top bottom
    rw [FrameBuffer.pixel_copyRectangle within narrow, if_pos ⟨⟨left, right⟩, top, bottom⟩,
      pixelAt_pixelBytes (getElem?_translateFn screen x y (by omega) (by omega)),
      Nat.add_sub_cancel' left, Nat.add_sub_cancel' top]
  outside := by
    intro column row narrow away
    rw [FrameBuffer.pixel_copyRectangle within narrow, if_neg away]

/-! ### The round trip -/

/-- Whatever the server sends at a time, it sends all lines in order. -/
theorem sendLines_spec {x w rounds y h nlines : Nat} {pixels : List (PixelBytes size)}
    (sent : sendLines screen x w rounds y h nlines = some pixels) :
    pixels = translateFn screen x y w h := by
  induction rounds generalizing y h nlines pixels with
  | zero => cases sent
  | succ rounds inductionHypothesis =>
    rw [sendLines] at sent
    dsimp only at sent
    have fewer : min nlines h ≤ h := Nat.min_le_right nlines h
    generalize min nlines h = lines at sent fewer
    split at sent
    · next last =>
      cases sent
      rw [show lines = h by omega]
    · split at sent
      · cases sent
      · obtain ⟨rest, later, rfl⟩ := Option.map_eq_some_iff.mp sent
        rw [inductionHypothesis later, ← translateFn_add, Nat.add_sub_cancel' fewer]

/-- The server sends a rectangle whose lines fit into its buffer. Its first round may send
nothing. -/
theorem sendLines_isSome (screen : Screen size) {x w : Nat} (fits : w * size ≤ UPDATE_BUF_SIZE)
    (positive : 0 < w * size) {rounds y h nlines : Nat} (some : 0 < h)
    (enough : 0 < nlines ∧ h ≤ rounds ∨ h < rounds) :
    (sendLines screen x w rounds y h nlines).isSome = true := by
  induction rounds generalizing y h nlines with
  | zero => omega
  | succ rounds inductionHypothesis =>
    have refill : 0 < UPDATE_BUF_SIZE / (w * size) := Nat.div_pos fits positive
    rw [sendLines]
    dsimp only
    split
    · rfl
    · rw [if_neg refill.ne', Option.isSome_map]
      exact inductionHypothesis (by omega) (.inl ⟨refill, by omega⟩)

/-- The server sends a rectangle in raw encoding if a line fits into its buffer. -/
theorem isSome_rfbSendRectEncodingRaw (screen : Screen size) (format : 0 < size) {x y w h : Nat}
    (fits : w * size ≤ UPDATE_BUF_SIZE) :
    (rfbSendRectEncodingRaw screen x y w h).isSome = true := by
  unfold rfbSendRectEncodingRaw
  split
  · rfl
  · next some =>
    rw [Option.isSome_map]
    exact sendLines_isSome screen fits (Nat.mul_pos (by omega) format) (by omega)
      (.inr (Nat.lt_succ_self h))

/-- The client reads the lines of a rectangle, and draws them. -/
theorem run_readLines (screen : Screen size) {x w : Nat} {rounds linesToRead y h : Nat}
    {buffer : FrameBuffer (PixelBytes size)} (more : 0 < linesToRead) (enough : h ≤ rounds)
    (within : (⟨x, y, w, h⟩ : Rectangle).Within buffer.width buffer.height) (rest : List UInt8) :
    ∃ after, (readLines x w rounds linesToRead y h buffer).run
        (pixelBytes (translateFn screen x y w h) ++ rest) = some (after, rest) ∧
      Drawn screen (⟨x, y, w, h⟩ : Rectangle).Contains buffer after := by
  induction rounds generalizing linesToRead y h buffer with
  | zero =>
    obtain rfl : h = 0 := Nat.le_zero.mp enough
    exact ⟨buffer, rfl, Drawn.empty screen buffer x y w⟩
  | succ rounds inductionHypothesis =>
    rw [readLines]
    split
    · next both =>
      dsimp only
      have fewer : min linesToRead h ≤ h := Nat.min_le_right linesToRead h
      have positive : 0 < min linesToRead h := Nat.lt_min.mpr ⟨more, both.2⟩
      generalize min linesToRead h = lines at fewer positive
      have bottom := within.2
      dsimp only at bottom
      have above : (⟨x, y, w, lines⟩ : Rectangle).Within buffer.width buffer.height :=
        ⟨within.1, by dsimp only; omega⟩
      have drawn := drawn_copyRectangle screen above
      have below : (⟨x, y + lines, w, h - lines⟩ : Rectangle).Within
          (buffer.CopyRectangle (pixelAt (pixelBytes (translateFn screen x y w lines))) x y w
            lines).width
          (buffer.CopyRectangle (pixelAt (pixelBytes (translateFn screen x y w lines))) x y w
            lines).height := by
        rw [drawn.width, drawn.height]
        exact ⟨within.1, by dsimp only; omega⟩
      obtain ⟨after, ran, later⟩ := inductionHypothesis positive (by omega) below
      refine ⟨after, ?_, (drawn.trans later).of_iff fun column row => ?_⟩
      · have length : (pixelBytes (translateFn screen x y w lines)).length = w * size * lines := by
          rw [length_pixelBytes, length_translateFn]
          ring
        have split : translateFn screen x y w h = translateFn screen x y w lines ++
            translateFn screen x (y + lines) w (h - lines) := by
          rw [← translateFn_add, Nat.add_sub_cancel' fewer]
        rw [split, pixelBytes, List.flatMap_append, ← pixelBytes, ← pixelBytes, List.append_assoc,
          Decoder.run_read_append _ length]
        exact ran
      · unfold Rectangle.Contains
        dsimp only
        omega
    · next neither =>
      obtain rfl : h = 0 := by omega
      exact ⟨buffer, rfl, Drawn.empty screen buffer x y w⟩

theorem readsAtMost_readLines {limit x w : Nat} {rounds linesToRead y h : Nat}
    (buffer : FrameBuffer (PixelBytes size)) (fits : w * size * linesToRead ≤ limit) :
    (readLines x w rounds linesToRead y h buffer).ReadsAtMost limit := by
  induction rounds generalizing linesToRead y h buffer with
  | zero => trivial
  | succ rounds inductionHypothesis =>
    rw [readLines]
    split
    · have fewer : w * size * min linesToRead h ≤ limit :=
        (Nat.mul_le_mul_left _ (Nat.min_le_left linesToRead h)).trans fits
      exact ⟨fewer, fun bytes => inductionHypothesis _ fewer⟩
    · trivial

/-- The lines that are read at once fit into the buffer of the client. -/
theorem readsAtMost_handleRaw (x y w h : Nat) (buffer : FrameBuffer (PixelBytes size)) :
    (HandleRaw x y w h buffer).ReadsAtMost RFB_BUFFER_SIZE := by
  refine readsAtMost_readLines buffer ?_
  split
  · exact Nat.mul_div_le RFB_BUFFER_SIZE (w * size)
  · exact Nat.zero_le _

end Rfb

end TermPlux
