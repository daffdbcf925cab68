/-
This file models the framebuffer of the client library and the operations that the
decoders draw with: `FillRectangle`, `CopyRectangle` and
`CopyRectangleFromRectangle`. A pixel is one element of the framebuffer, and a row
of `CopyRectangle` is copied pixel by pixel.

A copy inside the framebuffer behaves as if the source had been put aside first,
however source and destination overlap. None of the operations writes outside of
the framebuffer.
-/

import Mathlib.Tactic.Ring
import TermPlux.Raster

namespace TermPlux

open Raster

/-- A format of pixels, with the number of bytes of a pixel. -/
class PixelSize (Pixel : Type) where
  bytes : Nat

/-- A framebuffer can have this size: it has a column, and its bytes have indices of type `int`,
together with those of one row behind it, where the loops end. -/
structure FrameBuffer.Sized (Pixel : Type) [PixelSize Pixel] (width height : Nat) : Prop where
  wide : 0 < width
  small : width * (height + 1) * max 1 (PixelSize.bytes Pixel) ≤ 2 ^ 31

/-- The framebuffer of a client, with its pixels in row-major order. -/
structure FrameBuffer (Pixel : Type) [PixelSize Pixel] where
  width : Nat
  height : Nat
  pixels : Nat → Pixel
  sized : FrameBuffer.Sized Pixel width height

namespace FrameBuffer

variable {Pixel : Type} [PixelSize Pixel]

instance (width height : Nat) : Decidable (Sized Pixel width height) :=
  decidable_of_iff
    (0 < width ∧ width * (height + 1) * max 1 (PixelSize.bytes Pixel) ≤ 2 ^ 31)
    ⟨fun both => ⟨both.1, both.2⟩, fun sized => ⟨sized.wide, sized.small⟩⟩

/-- What the loops of the drawing operations count is of type `int`: the index of the row, and the
index of the byte, at which they end. -/
theorem Sized.int_indices {x y w h width height : Nat} (sized : Sized Pixel width height)
    (within : (⟨x, y, w, h⟩ : Rectangle).Within width height) :
    (y + h) * width < 2 ^ 31 ∧
      (x < width → x * PixelSize.bytes Pixel + (y + h) * (width * PixelSize.bytes Pixel) < 2 ^ 31) := by
  obtain ⟨wide, small⟩ := sized
  have rows : (y + h) * width ≤ height * width := Nat.mul_le_mul_right width within.2
  have more : height * width < width * (height + 1) := by
    rw [Nat.mul_comm height, Nat.mul_succ]
    exact Nat.lt_add_of_pos_right wide
  have positive : 1 ≤ max 1 (PixelSize.bytes Pixel) := Nat.le_max_left ..
  have pixels : width * (height + 1) ≤ 2 ^ 31 := (Nat.le_mul_of_pos_right _ positive).trans small
  refine ⟨by omega, fun inside => ?_⟩
  have ends : x + (y + h) * width < width * (height + 1) := by
    rw [Nat.mul_succ, Nat.mul_comm width height]
    omega
  calc
    x * PixelSize.bytes Pixel + (y + h) * (width * PixelSize.bytes Pixel)
      = (x + (y + h) * width) * PixelSize.bytes Pixel := by ring
    _ ≤ (x + (y + h) * width) * max 1 (PixelSize.bytes Pixel) :=
      Nat.mul_le_mul_left _ (Nat.le_max_right ..)
    _ < width * (height + 1) * max 1 (PixelSize.bytes Pixel) :=
      Nat.mul_lt_mul_of_pos_right ends positive
    _ ≤ 2 ^ 31 := small

/-- The pixel in a column and a row. -/
def pixel (buffer : FrameBuffer Pixel) (x y : Nat) : Pixel := buffer.pixels (y * buffer.width + x)

/-! ### Drawing operations -/

def CheckRect (buffer : FrameBuffer Pixel) (x y w h : Nat) : Bool :=
  decide (x + w ≤ buffer.width) && decide (y + h ≤ buffer.height)

/-- `j` is the index of the start of a row, and `i` is a column. -/
def FillRectangle (buffer : FrameBuffer Pixel) (x y w h : Nat) (colour : Pixel) :
    FrameBuffer Pixel :=
  if buffer.CheckRect x y w h then
    { buffer with
      pixels :=
        assign false false h w
          (fun row column =>
            let j := (y + row) * buffer.width
            let i := x + column
            j + i)
          (fun _ _ _ => colour) buffer.pixels }
  else buffer

/-- The pixels of the bitmap are in row-major order too. -/
def CopyRectangle (buffer : FrameBuffer Pixel) (bitmap : Nat → Pixel) (x y w h : Nat) :
    FrameBuffer Pixel :=
  if buffer.CheckRect x y w h then
    { buffer with
      pixels :=
        assign false false h w (fun row column => (y + row) * buffer.width + (x + column))
          (fun _ row column => bitmap (row * w + column)) buffer.pixels }
  else buffer

/-- `_buffer` points into the framebuffer, so that the source of a pixel has its index there. -/
def CopyRectangleFromRectangle (buffer : FrameBuffer Pixel) (src_x src_y w h dest_x dest_y : Nat) :
    FrameBuffer Pixel :=
  if !buffer.CheckRect src_x src_y w h then buffer
  else if !buffer.CheckRect dest_x dest_y w h then buffer
  else
    let _buffer : Int := (src_y - dest_y) * buffer.width + src_x - dest_x
    { buffer with
      pixels :=
        assign (!decide (dest_y < src_y)) (!decide (dest_x < src_x)) h w
          (fun row column =>
            let j := (dest_y + row) * buffer.width
            let i := dest_x + column
            j + i)
          (fun current row column =>
            let j := (dest_y + row) * buffer.width
            let i := dest_x + column
            current (_buffer + (j + i)).toNat)
          buffer.pixels }

/-! ### What they draw -/

variable {buffer : FrameBuffer Pixel}

theorem checkRect_iff {x y w h : Nat} :
    buffer.CheckRect x y w h = true ↔
      (⟨x, y, w, h⟩ : Rectangle).Within buffer.width buffer.height := by
  rw [CheckRect, Bool.and_eq_true, decide_eq_true_iff, decide_eq_true_iff]
  rfl

@[simp] theorem width_fillRectangle (x y w h : Nat) (colour : Pixel) :
    (buffer.FillRectangle x y w h colour).width = buffer.width := by
  rw [FillRectangle]
  split <;> rfl

@[simp] theorem height_fillRectangle (x y w h : Nat) (colour : Pixel) :
    (buffer.FillRectangle x y w h colour).height = buffer.height := by
  rw [FillRectangle]
  split <;> rfl

@[simp] theorem width_copyRectangle (bitmap : Nat → Pixel) (x y w h : Nat) :
    (buffer.CopyRectangle bitmap x y w h).width = buffer.width := by
  rw [CopyRectangle]
  split <;> rfl

@[simp] theorem height_copyRectangle (bitmap : Nat → Pixel) (x y w h : Nat) :
    (buffer.CopyRectangle bitmap x y w h).height = buffer.height := by
  rw [CopyRectangle]
  split <;> rfl

@[simp] theorem width_copyRectangleFromRectangle (src_x src_y w h dest_x dest_y : Nat) :
    (buffer.CopyRectangleFromRectangle src_x src_y w h dest_x dest_y).width = buffer.width := by
  rw [CopyRectangleFromRectangle]
  split_ifs <;> rfl

@[simp] theorem height_copyRectangleFromRectangle (src_x src_y w h dest_x dest_y : Nat) :
    (buffer.CopyRectangleFromRectangle src_x src_y w h dest_x dest_y).height = buffer.height := by
  rw [CopyRectangleFromRectangle]
  split_ifs <;> rfl

/-- A rectangle that fits is filled, and the rest of the framebuffer is left alone. -/
theorem pixel_fillRectangle {x y w h : Nat} {colour : Pixel}
    (within : (⟨x, y, w, h⟩ : Rectangle).Within buffer.width buffer.height) {column row : Nat}
    (inside : column < buffer.width) :
    (buffer.FillRectangle x y w h colour).pixel column row =
      if (⟨x, y, w, h⟩ : Rectangle).Contains column row then colour
      else buffer.pixel column row := by
  rw [pixel, width_fillRectangle, FillRectangle, if_pos (checkRect_iff.mpr within)]
  exact (assign_rectangle _ _ _ _ within (fun _ _ _ _ _ _ _ _ _ _ _ => rfl)).1 column row inside

/-- A bitmap that fits is drawn, and the rest of the framebuffer is left alone. -/
theorem pixel_copyRectangle {bitmap : Nat → Pixel} {x y w h : Nat}
    (within : (⟨x, y, w, h⟩ : Rectangle).Within buffer.width buffer.height) {column row : Nat}
    (inside : column < buffer.width) :
    (buffer.CopyRectangle bitmap x y w h).pixel column row =
      if (⟨x, y, w, h⟩ : Rectangle).Contains column row then
        bitmap ((row - y) * w + (column - x))
      else buffer.pixel column row := by
  rw [pixel, width_copyRectangle, CopyRectangle, if_pos (checkRect_iff.mpr within)]
  exact (assign_rectangle _ _ _ _ within (fun _ _ _ _ _ _ _ _ _ _ _ => rfl)).1 column row inside

/-- The source of a pixel, as `_buffer` points to it. -/
theorem source_index {src_x src_y dest_x dest_y width row column : Nat} :
    (((src_y : Int) - dest_y) * width + src_x - dest_x +
        (((dest_y + row) * width : Nat) + (dest_x + column : Nat) : Int)).toNat =
      (src_y + row) * width + (src_x + column) := by
  have same : ((src_y : Int) - dest_y) * width + src_x - dest_x +
      (((dest_y + row) * width : Nat) + (dest_x + column : Nat) : Int) =
        (((src_y + row) * width + (src_x + column) : Nat) : Int) := by
    push_cast
    ring
  rw [same, Int.toNat_natCast]

/-- In the order of the loops, no pixel is overwritten before it is copied. -/
theorem copied_first {src_x src_y dest_x dest_y row column row' column' : Nat}
    (order : Later (!decide (dest_y < src_y)) row row' ∨
      row = row' ∧ Later (!decide (dest_x < src_x)) column column') :
    ¬(src_x + column' = dest_x + column ∧ src_y + row' = dest_y + row) := by
  rintro ⟨columns, rows⟩
  unfold Later at order
  by_cases above : dest_y < src_y <;> by_cases left : dest_x < src_x <;>
    simp [above, left] at order <;> omega

/-- What the loops of a copy inside the framebuffer leave. -/
theorem copyRectangleFromRectangle_spec {src_x src_y w h dest_x dest_y : Nat}
    (source : (⟨src_x, src_y, w, h⟩ : Rectangle).Within buffer.width buffer.height)
    (destination : (⟨dest_x, dest_y, w, h⟩ : Rectangle).Within buffer.width buffer.height) :
    (∀ column row, column < buffer.width →
      (buffer.CopyRectangleFromRectangle src_x src_y w h dest_x dest_y).pixel column row =
        if (⟨dest_x, dest_y, w, h⟩ : Rectangle).Contains column row then
          buffer.pixel (src_x + (column - dest_x)) (src_y + (row - dest_y))
        else buffer.pixel column row) ∧
      ∀ index, buffer.width * buffer.height ≤ index →
        (buffer.CopyRectangleFromRectangle src_x src_y w h dest_x dest_y).pixels index =
          buffer.pixels index := by
  obtain ⟨assigned, kept⟩ := assign_rectangle (!decide (dest_y < src_y)) (!decide (dest_x < src_x))
    (fun current row column => current ((src_y + row) * buffer.width + (src_x + column)))
    buffer.pixels destination (by
      intro row low column left row' low' column' left' order current pixel
      refine Function.update_of_ne ?_ pixel current
      intro same
      have narrow : src_x + column' < buffer.width := by
        have fits := source.1
        dsimp only at fits left'
        omega
      have narrow' : dest_x + column < buffer.width := by
        have fits := destination.1
        dsimp only at fits left
        omega
      exact copied_first order ((index_eq_iff narrow narrow').mp same))
  have loops : (buffer.CopyRectangleFromRectangle src_x src_y w h dest_x dest_y).pixels =
      assign (!decide (dest_y < src_y)) (!decide (dest_x < src_x)) h w
        ((⟨dest_x, dest_y, w, h⟩ : Rectangle).index buffer.width)
        (fun current row column => current ((src_y + row) * buffer.width + (src_x + column)))
        buffer.pixels := by
    rw [CopyRectangleFromRectangle, checkRect_iff.mpr source, checkRect_iff.mpr destination]
    simp only [Bool.not_true, Bool.false_eq_true, if_false, source_index]
    rfl
  constructor
  · intro column row inside
    rw [pixel, width_copyRectangleFromRectangle, loops, assigned column row inside]
    rfl
  · intro index beyond
    rw [loops]
    exact kept index beyond

/-- A copy inside the framebuffer gives every pixel of the destination the pixel that the source
held before the copy, however the two overlap. Where one of them does not fit, nothing changes. -/
theorem pixel_copyRectangleFromRectangle (buffer : FrameBuffer Pixel)
    (src_x src_y w h dest_x dest_y : Nat) {column : Nat} (row : Nat)
    (inside : column < buffer.width) :
    (buffer.CopyRectangleFromRectangle src_x src_y w h dest_x dest_y).pixel column row =
      if (buffer.CheckRect src_x src_y w h && buffer.CheckRect dest_x dest_y w h) = true ∧
          (⟨dest_x, dest_y, w, h⟩ : Rectangle).Contains column row then
        buffer.pixel (src_x + (column - dest_x)) (src_y + (row - dest_y))
      else buffer.pixel column row := by
  by_cases fits : (buffer.CheckRect src_x src_y w h && buffer.CheckRect dest_x dest_y w h) = true
  · rw [Bool.and_eq_true, checkRect_iff, checkRect_iff] at fits
    rw [(copyRectangleFromRectangle_spec fits.1 fits.2).1 column row inside,
      checkRect_iff.mpr fits.1, checkRect_iff.mpr fits.2]
    simp only [Bool.and_self, true_and]
  · have unchanged : buffer.CopyRectangleFromRectangle src_x src_y w h dest_x dest_y = buffer := by
      rw [CopyRectangleFromRectangle]
      by_cases source : buffer.CheckRect src_x src_y w h = true <;> simp_all
    rw [unchanged, if_neg fun both => fits both.1]

/-- Pixels of one byte. -/
instance : PixelSize UInt8 := ⟨1⟩

/-- A framebuffer of nine pixels. -/
def ninePixels : FrameBuffer UInt8 := ⟨3, 3, UInt8.ofNat, by decide⟩

/-- Scrolling by one row and one column, where source and destination overlap. -/
theorem pixel_copyRectangleFromRectangle_scrolled :
    (ninePixels.CopyRectangleFromRectangle 0 0 2 2 1 1).pixel 2 2 = 4 :=
  (pixel_copyRectangleFromRectangle ninePixels 0 0 2 2 1 1 2 (show 2 < 3 by decide)).trans
    (by decide)

/-- Whatever its arguments are, no operation writes outside of the framebuffer. -/
theorem drawing_stays_inside (buffer : FrameBuffer Pixel) {index : Nat}
    (beyond : buffer.width * buffer.height ≤ index) :
    (∀ x y w h colour, (buffer.FillRectangle x y w h colour).pixels index = buffer.pixels index) ∧
      (∀ bitmap x y w h,
        (buffer.CopyRectangle bitmap x y w h).pixels index = buffer.pixels index) ∧
      ∀ src_x src_y w h dest_x dest_y,
        (buffer.CopyRectangleFromRectangle src_x src_y w h dest_x dest_y).pixels index =
          buffer.pixels index := by
  refine ⟨fun x y w h colour => ?_, fun bitmap x y w h => ?_, ?_⟩
  · rw [FillRectangle]
    split
    · next fits =>
      exact (assign_rectangle _ _ _ _ (checkRect_iff.mp fits)
        (fun _ _ _ _ _ _ _ _ _ _ _ => rfl)).2 index beyond
    · rfl
  · rw [CopyRectangle]
    split
    · next fits =>
      exact (assign_rectangle _ _ _ _ (checkRect_iff.mp fits)
        (fun _ _ _ _ _ _ _ _ _ _ _ => rfl)).2 index beyond
    · rfl
  · intro src_x src_y w h dest_x dest_y
    by_cases fits : (buffer.CheckRect src_x src_y w h && buffer.CheckRect dest_x dest_y w h) = true
    · rw [Bool.and_eq_true, checkRect_iff, checkRect_iff] at fits
      exact (copyRectangleFromRectangle_spec fits.1 fits.2).2 index beyond
    · rw [CopyRectangleFromRectangle]
      by_cases source : buffer.CheckRect src_x src_y w h = true <;> simp_all

end FrameBuffer

end TermPlux
