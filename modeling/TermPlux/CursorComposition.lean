/-
This file adds the pixels to the cursor upload of `NativeVnc`: what the blending
loop writes to the scratch buffer, and the texture that the upload leaves.

The loop visits the cursor's pixels over the framebuffer in row-major order, so
the scratch buffer holds the visible part of the cursor row by row. The upload is
the framebuffer with the masked cursor drawn over it, just when no transparent
pixel of the cursor lies over a framebuffer pixel that an `int` cannot number.
-/

import Mathlib.Data.List.Induction
import TermPlux.NativeVnc
import TermPlux.RowMajor

namespace TermPlux.CursorComposition

open CLoops NativeVnc RowMajor

/-! ### Pixels -/

/-- What the buffers hold: pixels of four bytes. -/
structure Contents (client : Client) (cursor : Cursor) where
  fb : List UInt32
  buffer : List UInt32
  scratch : List UInt32
  fb_length : (fb.length : Int) = client.fbRealWidth * client.fbRealHeight
  buffer_length : buffer.length = cursor.buffer
  scratch_length : scratch.length = cursor.scratchBuffer

/-- The loop's variables and the scratch buffer. -/
structure Composition where
  blend : Blend
  scratch : List UInt32

section Upload

variable (client : Client) (cursor : Cursor) (contents : Contents client cursor)

/-- What the loop writes for a pixel. An index outside of a buffer is noted by `blendPixel`. -/
def composedPixel (y x : Nat) : UInt32 :=
  if cursor.mask.getD (cursorIndex cursor y x).toNat 0 ≠ 0 then
    contents.buffer.getD (cursorIndex cursor y x).toNat 0
  else contents.fb.getD (frameIndex client cursor y x).toNat 0

/-- The body of the blending loop, with the pixel that it writes. -/
def composePixel (y : Nat) (composition : Composition) (x : Nat) : Composition where
  blend := blendPixel client cursor y composition.blend x
  scratch :=
    if ColumnVisible client cursor x ∧ RowVisible client cursor y then
      composition.scratch.set composition.blend.z.toNat (composedPixel client cursor contents y x)
    else composition.scratch

def Composition.initial : Composition := { blend := .initial, scratch := contents.scratch }

def composeCursor : Composition :=
  forLoop cursor.height
    (fun composition y =>
      forLoop cursor.width (composePixel client cursor contents y) composition)
    (.initial client cursor contents)

/-- The arguments of `glTexSubImage2D`. -/
structure SubImage where
  left : Int
  top : Int
  width : Int
  height : Int
  pixels : List UInt32

/-- What `nativeUploadCursor` uploads. -/
def uploadedImage : Option SubImage :=
  let composition := composeCursor client cursor contents
  if 0 ≤ composition.blend.left ∧ 0 ≤ composition.blend.top then
    some
      { left := composition.blend.left
        top := composition.blend.top
        width := composition.blend.right - composition.blend.left + 1
        height := composition.blend.bottom - composition.blend.top + 1
        pixels := composition.scratch }
  else none

/-- The pixels of a texture by column and row. -/
abbrev Texture := Int → Int → UInt32

/-- The texture that `nativeUploadFrameTexture` leaves. -/
def frameTexture : Texture := fun x y => contents.fb.getD (y * client.fbRealWidth + x).toNat 0

/-- `glTexSubImage2D`: the image replaces a part of the texture, row by row. -/
def glTexSubImage2D (texture : Texture) (image : SubImage) : Texture := fun x y =>
  if (image.left ≤ x ∧ x < image.left + image.width) ∧
      image.top ≤ y ∧ y < image.top + image.height then
    image.pixels.getD ((y - image.top) * image.width + (x - image.left)).toNat 0
  else texture x y

/-- The texture after both uploads. -/
def uploadedTexture : Texture :=
  match uploadedImage client cursor contents with
  | some image => glTexSubImage2D (frameTexture client cursor contents) image
  | none => frameTexture client cursor contents

end Upload

/-! ### The cursor over the framebuffer -/

/-- A rectangle of pixels, without its right and bottom ends. -/
structure Rect where
  left : Int
  top : Int
  right : Int
  bottom : Int
  deriving DecidableEq

namespace Rect

def inter (first second : Rect) : Rect :=
  ⟨max first.left second.left, max first.top second.top, min first.right second.right,
    min first.bottom second.bottom⟩

def IsEmpty (rect : Rect) : Prop := rect.right ≤ rect.left ∨ rect.bottom ≤ rect.top

def Contains (rect : Rect) (x y : Int) : Prop :=
  (rect.left ≤ x ∧ x < rect.right) ∧ rect.top ≤ y ∧ y < rect.bottom

/-- The rows and columns of the pixels, row by row. -/
def pixels (rect : Rect) : List (Int × Int) :=
  Int.range rect.top rect.bottom ×ˢ Int.range rect.left rect.right

instance (rect : Rect) : Decidable rect.IsEmpty := inferInstanceAs (Decidable (_ ∨ _))

instance (rect : Rect) (x y : Int) : Decidable (rect.Contains x y) :=
  inferInstanceAs (Decidable ((_ ∧ _) ∧ _ ∧ _))

theorem contains_inter {first second : Rect} {x y : Int} :
    (first.inter second).Contains x y ↔ first.Contains x y ∧ second.Contains x y := by
  unfold Contains inter
  dsimp only
  rw [max_le_iff, max_le_iff, lt_min_iff, lt_min_iff]
  tauto

theorem not_isEmpty_of_contains {rect : Rect} {x y : Int} (contains : rect.Contains x y) :
    ¬ rect.IsEmpty := by
  unfold Contains at contains
  unfold IsEmpty
  omega

theorem pixels_of_isEmpty {rect : Rect} (empty : rect.IsEmpty) : rect.pixels = [] := by
  unfold pixels
  rcases empty with narrow | low
  · rw [range_of_le narrow, List.product_nil]
  · rw [range_of_le low, List.nil_product]

theorem head?_pixels {rect : Rect} (nonempty : ¬ rect.IsEmpty) :
    rect.pixels.head? = some (rect.top, rect.left) := by
  obtain ⟨wide, high⟩ := not_or.mp nonempty
  exact head?_product (head?_range (not_le.mp high)) (head?_range (not_le.mp wide))

theorem getLast?_pixels {rect : Rect} (nonempty : ¬ rect.IsEmpty) :
    rect.pixels.getLast? = some (rect.bottom - 1, rect.right - 1) := by
  obtain ⟨wide, high⟩ := not_or.mp nonempty
  exact getLast?_product (getLast?_range (not_le.mp high)) (getLast?_range (not_le.mp wide))

/-- The number of a pixel inside its rectangle. -/
theorem getElem?_pixels {rect : Rect} {x y : Int} (contains : rect.Contains x y) :
    rect.pixels[((y - rect.top) * (rect.right - rect.left) + (x - rect.left)).toNat]? =
      some (y, x) := by
  obtain ⟨column, row⟩ := contains
  have entry := getElem?_product (getElem?_range row) (getElem?_range column)
  have number : ((y - rect.top) * (rect.right - rect.left) + (x - rect.left)).toNat =
      (y - rect.top).toNat * (rect.right - rect.left).toNat + (x - rect.left).toNat := by
    rw [Int.toNat_add (Int.mul_nonneg (by omega) (by omega)) (by omega),
      Int.toNat_mul (by omega) (by omega)]
  rw [length_range] at entry
  rw [number]
  exact entry

end Rect

def SubImage.rect (image : SubImage) : Rect :=
  ⟨image.left, image.top, image.left + image.width, image.top + image.height⟩

section Drawing

variable (client : Client) (cursor : Cursor) (contents : Contents client cursor)

/-- The cursor with its hot spot at the pointer. -/
def cursorRect : Rect :=
  ⟨client.pointerX - cursor.xHot, client.pointerY - cursor.yHot,
    client.pointerX - cursor.xHot + cursor.width, client.pointerY - cursor.yHot + cursor.height⟩

def frameRect : Rect := ⟨0, 0, client.fbRealWidth, client.fbRealHeight⟩

/-- The part of the cursor over the framebuffer. -/
def visibleRect : Rect := (cursorRect client cursor).inter (frameRect client)

/-- The entry of the cursor's pixel over a pixel of the framebuffer. -/
def cursorEntry (x y : Int) : Nat :=
  ((y - (cursorRect client cursor).top) * cursor.width +
    (x - (cursorRect client cursor).left)).toNat

/-- The framebuffer with the masked cursor drawn over it. -/
def drawn : Texture := fun x y =>
  if (cursorRect client cursor).Contains x y ∧
      cursor.mask.getD (cursorEntry client cursor x y) 0 ≠ 0 then
    contents.buffer.getD (cursorEntry client cursor x y) 0
  else frameTexture client cursor contents x y

/-- The upload composes the cursor exactly. -/
structure Exact : Prop where
  rectangle : (uploadedImage client cursor contents).map SubImage.rect =
    if (visibleRect client cursor).IsEmpty then none else some (visibleRect client cursor)
  scratch : (composeCursor client cursor contents).scratch =
    (visibleRect client cursor).pixels.map (fun cell => drawn client cursor contents cell.2 cell.1) ++
      contents.scratch.drop (visibleRect client cursor).pixels.length
  within : ∀ access ∈ uploadCursor client, Within client access
  texture : ∀ x y, (frameRect client).Contains x y →
    uploadedTexture client cursor contents x y = drawn client cursor contents x y

/-- No transparent pixel of the cursor lies over a pixel of the framebuffer whose number is
`2^31` or more. -/
def Numbered : Prop :=
  ∀ cell ∈ (visibleRect client cursor).pixels,
    cursor.mask.getD (cursorEntry client cursor cell.2 cell.1) 0 = 0 →
      cell.1 * client.fbRealWidth + cell.2 < 2 ^ 31

instance : Decidable (Numbered client cursor) :=
  inferInstanceAs (Decidable (∀ _ ∈ _, _ → _))

/-- A client with a cursor, as every run has it once connected, whose pointer leaves room for
the cursor in 32 bits. -/
structure Ready : Prop where
  present : client.cursor = some cursor
  agrees : cursor.Agrees
  small : cursor.width < MAX_CURSOR_SIZE ∧ cursor.height < MAX_CURSOR_SIZE
  frame : ∀ bytes, client.frameBuffer = some bytes →
    (bytes : Int) = client.fbRealWidth * client.fbRealHeight * PixelBytes
  noFrame : client.frameBuffer = none → client.fbRealWidth = 0 ∧ client.fbRealHeight = 0
  real : (0 ≤ client.fbRealWidth ∧ client.fbRealWidth < 65536) ∧
    0 ≤ client.fbRealHeight ∧ client.fbRealHeight < 65536
  columns : -2 ^ 31 ≤ (cursorRect client cursor).left ∧ (cursorRect client cursor).right < 2 ^ 31
  rows : -2 ^ 31 ≤ (cursorRect client cursor).top ∧ (cursorRect client cursor).bottom < 2 ^ 31

end Drawing

/-- In every run the client is ready once it is connected. -/
theorem ready_of_sound {client : Client} {cursor : Cursor} (sound : Sound client)
    (connected : client.connected) (present : client.cursor = some cursor)
    (columns : -2 ^ 31 ≤ (cursorRect client cursor).left ∧
      (cursorRect client cursor).right < 2 ^ 31)
    (rows : -2 ^ 31 ≤ (cursorRect client cursor).top ∧
      (cursorRect client cursor).bottom < 2 ^ 31) : Ready client cursor where
  present := present
  agrees := (sound.cursor cursor present).1
  small := (sound.cursor cursor present).2
  frame := sound.frame connected
  noFrame := sound.noFrame connected
  real := sound.real connected
  columns := columns
  rows := rows

/-! ### What the loop has drawn -/

variable {client : Client} {cursor : Cursor} {contents : Contents client cursor}

/-- The row and the column of the framebuffer under a pixel of the cursor. -/
def place (client : Client) (cursor : Cursor) (cell : Nat × Nat) : Int × Int :=
  (fbY client cursor cell.1, fbX client cursor cell.2)

/-- The loop has drawn these pixels of the cursor, one after another. -/
structure Drawn (contents : Contents client cursor) (cells : List (Nat × Nat))
    (composition : Composition) : Prop where
  z : composition.blend.z = cells.length
  scratch : composition.scratch =
    cells.map (fun cell => composedPixel client cursor contents cell.1 cell.2) ++
      contents.scratch.drop cells.length
  first : (composition.blend.top, composition.blend.left) =
    (cells.map (place client cursor)).head?.getD (-1, -1)
  last : (composition.blend.bottom, composition.blend.right) =
    (cells.map (place client cursor)).getLast?.getD (-1, -1)
  accesses : ∀ access, access ∈ composition.blend.accesses ↔
    (∃ cell ∈ cells, access = .mask (cursorIndex cursor cell.1 cell.2) ∨
      access = pixelAccess client cursor cell.1 cell.2) ∨
    ∃ index : Nat, index < cells.length ∧ access = .scratch index

/-- A pixel of the cursor over the framebuffer. -/
def Visible (client : Client) (cursor : Cursor) (cell : Nat × Nat) : Prop :=
  ColumnVisible client cursor cell.2 ∧ RowVisible client cursor cell.1

theorem drawn_initial : Drawn contents [] (.initial client cursor contents) where
  z := rfl
  scratch := rfl
  first := rfl
  last := rfl
  accesses access := by simp [Composition.initial, Blend.initial]

/-- The loop has set its first corner just when it has drawn a pixel. -/
theorem Drawn.unset_iff {cells : List (Nat × Nat)} {composition : Composition}
    (drawn : Drawn contents cells composition) (each : ∀ cell ∈ cells, Visible client cursor cell) :
    (composition.blend.left = -1 ∧ composition.blend.top = -1) ↔ cells = [] := by
  have corner := drawn.first
  cases cells with
  | nil =>
    obtain ⟨top, left⟩ := Prod.mk.inj corner
    exact iff_of_true ⟨left, top⟩ rfl
  | cons first cells =>
    obtain ⟨-, left⟩ := Prod.mk.inj corner
    have nonneg : 0 ≤ fbX client cursor first.2 := (each first List.mem_cons_self).1.1
    refine iff_of_false (fun none => ?_) (List.cons_ne_nil _ _)
    exact absurd (left.symm.trans none.1) (by omega)

/-- One more pixel of the cursor adds its three accesses. -/
theorem Drawn.mem_accesses {cells : List (Nat × Nat)} {composition : Composition}
    (drawn : Drawn contents cells composition) (cell : Nat × Nat) (access : Access) :
    access ∈ composition.blend.accesses ++ [.mask (cursorIndex cursor cell.1 cell.2),
        pixelAccess client cursor cell.1 cell.2, .scratch cells.length] ↔
      (∃ other ∈ cells ++ [cell], access = .mask (cursorIndex cursor other.1 other.2) ∨
        access = pixelAccess client cursor other.1 other.2) ∨
      ∃ index : Nat, index < (cells ++ [cell]).length ∧ access = .scratch index := by
  rw [List.mem_append, drawn.accesses]
  simp only [List.mem_cons, List.not_mem_nil, or_false, List.mem_append, List.length_append,
    List.length_singleton, Nat.lt_succ_iff_lt_or_eq, or_and_right, exists_or, exists_eq_left]
  constructor
  · rintro ((shown | written) | mask | pixel | scratch)
    · exact .inl (.inl shown)
    · exact .inr (.inl written)
    · exact .inl (.inr (.inl mask))
    · exact .inl (.inr (.inr pixel))
    · exact .inr (.inr scratch)
  · rintro ((shown | mask | pixel) | written | scratch)
    · exact .inl (.inl shown)
    · exact .inr (.inl mask)
    · exact .inr (.inr (.inl pixel))
    · exact .inl (.inr written)
    · exact .inr (.inr (.inr scratch))

theorem drawn_composePixel {cells : List (Nat × Nat)} {cell : Nat × Nat}
    {composition : Composition} (before : Drawn contents cells composition)
    (each : ∀ cell ∈ cells, Visible client cursor cell) (visible : Visible client cursor cell)
    (room : cells.length < contents.scratch.length) (fits : (cells.length : Int) + 1 < 2 ^ 31) :
    Drawn contents (cells ++ [cell])
      (composePixel client cursor contents cell.1 composition cell.2) := by
  have position : composition.blend.z.toNat = cells.length := by
    rw [before.z]
    rfl
  have unset := before.unset_iff each
  have inside : ColumnVisible client cursor cell.2 ∧ RowVisible client cursor cell.1 := visible
  unfold composePixel blendPixel
  rw [if_pos inside, if_pos inside]
  constructor
  · show wrap32 (composition.blend.z + 1) = _
    rw [before.z, List.length_append, wrap32_of_fits (by omega) fits]
    rfl
  · show composition.scratch.set _ _ = _
    have filled := @set_filled _
      (cells.map fun cell => composedPixel client cursor contents cell.1 cell.2) contents.scratch
      (composedPixel client cursor contents cell.1 cell.2) (by rwa [List.length_map])
    rw [List.length_map] at filled
    rw [position, before.scratch, filled, List.map_append, List.length_append]
    rfl
  · show (if _ then fbY client cursor cell.1 else _, if _ then fbX client cursor cell.2 else _) = _
    cases cells with
    | nil =>
      rw [if_pos (unset.mpr rfl), if_pos (unset.mpr rfl)]
      rfl
    | cons first cells =>
      have later := mt unset.mp (List.cons_ne_nil first cells)
      rw [if_neg later, if_neg later]
      exact before.first
  · rw [List.map_append, List.map_singleton, List.getLast?_concat]
    rfl
  · intro access
    have accesses := before.mem_accesses cell access
    rwa [← before.z] at accesses

theorem drawn_foldl (cells : List (Nat × Nat)) (each : ∀ cell ∈ cells, Visible client cursor cell)
    (room : cells.length ≤ contents.scratch.length)
    (fits : (contents.scratch.length : Int) < 2 ^ 31) :
    Drawn contents cells
      (cells.foldl (fun composition cell =>
        composePixel client cursor contents cell.1 composition cell.2)
        (.initial client cursor contents)) := by
  induction cells using List.reverseRecOn with
  | nil => exact drawn_initial
  | append_singleton cells cell inductionHypothesis =>
    rw [List.length_append, List.length_singleton] at room
    have earlier : ∀ cell ∈ cells, Visible client cursor cell :=
      fun other member => each other (List.mem_append_left _ member)
    rw [List.foldl_append]
    exact drawn_composePixel (inductionHypothesis earlier (by omega)) earlier
      (each cell (by simp)) (by omega) (by omega)

/-- The pixels of the cursor over the framebuffer, row by row. -/
def visibleCells (client : Client) (cursor : Cursor) : List (Nat × Nat) :=
  (List.range cursor.height).filter (fun y => decide (RowVisible client cursor y)) ×ˢ
    (List.range cursor.width).filter fun x => decide (ColumnVisible client cursor x)

theorem mem_visibleCells {cell : Nat × Nat} :
    cell ∈ visibleCells client cursor ↔
      (cell.1 < cursor.height ∧ cell.2 < cursor.width) ∧ Visible client cursor cell := by
  unfold visibleCells Visible
  rw [List.mem_product, List.mem_filter, List.mem_filter, List.mem_range, List.mem_range,
    decide_eq_true_eq, decide_eq_true_eq]
  tauto

theorem composeCursor_eq_foldl (contents : Contents client cursor) :
    composeCursor client cursor contents =
      (visibleCells client cursor).foldl (fun composition cell =>
        composePixel client cursor contents cell.1 composition cell.2)
        (.initial client cursor contents) := by
  unfold visibleCells
  rw [← forLoop_forLoop]
  unfold composeCursor
  congr 1
  funext composition y
  congr 1
  funext composition x
  by_cases visible : ColumnVisible client cursor x ∧ RowVisible client cursor y
  · rw [if_pos (by simp [visible])]
  · rw [if_neg (by simpa [and_comm] using visible)]
    unfold composePixel blendPixel
    rw [if_neg visible, if_neg visible]

theorem length_visibleCells (client : Client) (cursor : Cursor) :
    (visibleCells client cursor).length ≤ cursor.width * cursor.height := by
  unfold visibleCells
  rw [List.length_product, Nat.mul_comm cursor.width]
  have rows := List.length_filter_le (fun y => decide (RowVisible client cursor y))
    (List.range cursor.height)
  have columns := List.length_filter_le (fun x => decide (ColumnVisible client cursor x))
    (List.range cursor.width)
  rw [List.length_range] at rows columns
  exact Nat.mul_le_mul rows columns

theorem drawn_composeCursor (ready : Ready client cursor) (contents : Contents client cursor) :
    Drawn contents (visibleCells client cursor) (composeCursor client cursor contents) := by
  have room : contents.scratch.length = cursor.width * cursor.height :=
    contents.scratch_length.trans ready.agrees.scratchBuffer
  have entries := entries_le ready.small
  rw [composeCursor_eq_foldl]
  refine drawn_foldl _ (fun cell member => (mem_visibleCells.mp member).2) ?_ (by omega)
  rw [room]
  exact length_visibleCells client cursor

/-! ### The visible rectangle -/

theorem fbY_eq_of_ready (ready : Ready client cursor) {y : Nat} (low : y < cursor.height) :
    fbY client cursor y = (cursorRect client cursor).top + y := by
  have rows := ready.rows
  unfold cursorRect at *
  dsimp only at *
  unfold fbY fbCursorY
  rw [wrap32_of_fits rows.1 (by omega), wrap32_of_fits (by omega) (by omega)]

theorem fbX_eq_of_ready (ready : Ready client cursor) {x : Nat} (narrow : x < cursor.width) :
    fbX client cursor x = (cursorRect client cursor).left + x := by
  have columns := ready.columns
  unfold cursorRect at *
  dsimp only at *
  unfold fbX fbCursorX
  rw [wrap32_of_fits columns.1 (by omega), wrap32_of_fits (by omega) (by omega)]

/-- The rows and the columns of the visible rectangle, one at a time. -/
theorem map_visible {count : Nat} {start limit : Int} {position : Nat → Int}
    (placed : ∀ index < count, position index = start + index) :
    ((List.range count).filter fun index =>
        decide (0 ≤ position index ∧ position index < limit)).map position =
      Int.range (max start 0) (min (start + count) limit) := by
  have interval : (List.range count).map position = Int.range start (start + count) := by
    unfold Int.range
    rw [add_sub_cancel_left, Int.toNat_natCast]
    exact List.map_congr_left fun index member => placed index (List.mem_range.mp member)
  rw [← filter_range, ← interval, List.filter_map]
  rfl

/-- The places of the visible pixels are the visible rectangle, row by row. -/
theorem map_place_visibleCells (ready : Ready client cursor) :
    (visibleCells client cursor).map (place client cursor) =
      (visibleRect client cursor).pixels := by
  have rows := @map_visible _ _ client.fbRealHeight _
    fun y low => fbY_eq_of_ready (y := y) ready low
  have columns := @map_visible _ _ client.fbRealWidth _
    fun x narrow => fbX_eq_of_ready (x := x) ready narrow
  exact (map_product _ _ _ _).trans (congrArg₂ _ rows columns)

theorem corners_composeCursor (ready : Ready client cursor) (contents : Contents client cursor)
    (nonempty : ¬ (visibleRect client cursor).IsEmpty) :
    let blend := (composeCursor client cursor contents).blend
    (blend.left = (visibleRect client cursor).left ∧ blend.top = (visibleRect client cursor).top) ∧
      blend.right - blend.left + 1 =
        (visibleRect client cursor).right - (visibleRect client cursor).left ∧
      blend.bottom - blend.top + 1 =
        (visibleRect client cursor).bottom - (visibleRect client cursor).top := by
  intro blend
  have composed := drawn_composeCursor ready contents
  have first := composed.first
  have last := composed.last
  rw [map_place_visibleCells ready] at first last
  rw [Rect.head?_pixels nonempty] at first
  rw [Rect.getLast?_pixels nonempty] at last
  obtain ⟨top, left⟩ := Prod.mk.inj first
  obtain ⟨bottom, right⟩ := Prod.mk.inj last
  refine ⟨⟨left, top⟩, ?_, ?_⟩
  · rw [right, left]
    omega
  · rw [bottom, top]
    omega

/-- The uploaded image is the visible rectangle with the scratch buffer. -/
theorem uploadedImage_of_nonempty (ready : Ready client cursor)
    (contents : Contents client cursor) (nonempty : ¬ (visibleRect client cursor).IsEmpty) :
    uploadedImage client cursor contents =
      some
        { left := (visibleRect client cursor).left
          top := (visibleRect client cursor).top
          width := (visibleRect client cursor).right - (visibleRect client cursor).left
          height := (visibleRect client cursor).bottom - (visibleRect client cursor).top
          pixels := (composeCursor client cursor contents).scratch } := by
  obtain ⟨⟨left, top⟩, width, height⟩ := corners_composeCursor ready contents nonempty
  have inside : 0 ≤ (visibleRect client cursor).left ∧ 0 ≤ (visibleRect client cursor).top :=
    ⟨le_max_right _ _, le_max_right _ _⟩
  unfold uploadedImage
  dsimp only
  rw [width, height, left, top, if_pos inside]

theorem corners_of_isEmpty (ready : Ready client cursor) (contents : Contents client cursor)
    (empty : (visibleRect client cursor).IsEmpty) :
    (composeCursor client cursor contents).blend.left = -1 := by
  have first := (drawn_composeCursor ready contents).first
  rw [map_place_visibleCells ready, Rect.pixels_of_isEmpty empty] at first
  exact (Prod.mk.inj first).2

theorem uploadedImage_of_empty (ready : Ready client cursor) (contents : Contents client cursor)
    (empty : (visibleRect client cursor).IsEmpty) :
    uploadedImage client cursor contents = none := by
  unfold uploadedImage
  dsimp only
  rw [corners_of_isEmpty ready contents empty]
  rfl

/-! ### Indices -/

theorem composeCursor_blend (contents : Contents client cursor) :
    (composeCursor client cursor contents).blend = blendCursor client cursor := by
  have row (y : Nat) (composition : Composition) :
      (forLoop cursor.width (composePixel client cursor contents y) composition).blend =
        forLoop cursor.width (blendPixel client cursor y) composition.blend := by
    rw [forLoop_eq_foldl, forLoop_eq_foldl]
    exact (List.foldl_hom Composition.blend fun _ _ => rfl).symm
  unfold composeCursor blendCursor
  rw [forLoop_eq_foldl, forLoop_eq_foldl]
  exact (List.foldl_hom Composition.blend fun composition y => (row y composition).symm).symm

/-- The mask and the buffer are read at the entry of the pixel. -/
theorem cursorEntry_place (ready : Ready client cursor) {cell : Nat × Nat}
    (member : cell ∈ visibleCells client cursor) :
    (cursorIndex cursor cell.1 cell.2).toNat =
      cursorEntry client cursor (fbX client cursor cell.2) (fbY client cursor cell.1) := by
  obtain ⟨low, narrow⟩ := (mem_visibleCells.mp member).1
  unfold cursorEntry
  rw [cursorIndex_eq ready.small narrow low, fbX_eq_of_ready ready narrow,
    fbY_eq_of_ready ready low, add_sub_cancel_left, add_sub_cancel_left]
  norm_cast

theorem contains_place (ready : Ready client cursor) {cell : Nat × Nat}
    (member : cell ∈ visibleCells client cursor) :
    (cursorRect client cursor).Contains (fbX client cursor cell.2) (fbY client cursor cell.1) := by
  obtain ⟨low, narrow⟩ := (mem_visibleCells.mp member).1
  have width : (cursorRect client cursor).right = (cursorRect client cursor).left + cursor.width :=
    rfl
  have height : (cursorRect client cursor).bottom =
      (cursorRect client cursor).top + cursor.height := rfl
  rw [fbX_eq_of_ready ready narrow, fbY_eq_of_ready ready low]
  unfold Rect.Contains
  omega

theorem pixels_bounded (ready : Ready client cursor) :
    client.fbRealWidth * client.fbRealHeight < 2 ^ 32 := by
  obtain ⟨⟨wide, narrow⟩, tall, low⟩ := ready.real
  have bounded : client.fbRealWidth * client.fbRealHeight ≤ 65535 * 65535 :=
    Int.mul_le_mul (by omega) (by omega) tall (by omega)
  omega

/-- The framebuffer is read inside just where its pixel has a number below `2^31`. -/
theorem within_frame_iff (ready : Ready client cursor) {cell : Nat × Nat}
    (visible : Visible client cursor cell) :
    Within client (.frame (frameIndex client cursor cell.1 cell.2)) ↔
      fbY client cursor cell.1 * client.fbRealWidth + fbX client cursor cell.2 < 2 ^ 31 := by
  obtain ⟨nonneg, bounded⟩ := frameNumber_bounds visible.1 visible.2
  have limit := pixels_bounded ready
  unfold frameIndex
  generalize fbY client cursor cell.1 * client.fbRealWidth + fbX client cursor cell.2 = number at *
  cases allocated : client.frameBuffer with
  | none =>
    have empty := ready.noFrame allocated
    rw [empty.1, Int.zero_mul] at bounded
    omega
  | some bytes =>
    have size := ready.frame bytes allocated
    constructor
    · rintro ⟨_, -, inside, -⟩
      unfold wrap32 at inside
      omega
    · intro small
      rw [wrap32_of_fits (by omega) small]
      refine ⟨bytes, allocated, nonneg, ?_⟩
      rw [size]
      exact Int.mul_le_mul_of_nonneg_right (by omega) (by decide)

/-- The pixel that the loop reads is read inside where its number is small or it is not
transparent. -/
theorem within_pixelAccess_iff (ready : Ready client cursor) {cell : Nat × Nat}
    (member : cell ∈ visibleCells client cursor) :
    Within client (pixelAccess client cursor cell.1 cell.2) ↔
      (cursor.mask.getD (cursorIndex cursor cell.1 cell.2).toNat 0 = 0 →
        fbY client cursor cell.1 * client.fbRealWidth + fbX client cursor cell.2 < 2 ^ 31) := by
  obtain ⟨⟨low, narrow⟩, visible⟩ := mem_visibleCells.mp member
  unfold pixelAccess
  split
  · next masked =>
    refine iff_of_true ⟨cursor, ready.present, ?_⟩ fun transparent => absurd transparent masked
    rw [ready.agrees.buffer]
    exact cursorIndex_bounds ready.small narrow low
  · next transparent =>
    rw [within_frame_iff ready visible]
    exact (imp_iff_right (not_not.mp transparent)).symm

theorem numbered_iff (ready : Ready client cursor) :
    Numbered client cursor ↔ ∀ cell ∈ visibleCells client cursor,
      Within client (pixelAccess client cursor cell.1 cell.2) := by
  unfold Numbered
  rw [← map_place_visibleCells ready, List.forall_mem_map]
  refine forall₂_congr fun cell member => ?_
  rw [within_pixelAccess_iff ready member, cursorEntry_place ready member]
  rfl

theorem length_pixels_le (ready : Ready client cursor) :
    (visibleRect client cursor).pixels.length ≤ cursor.scratchBuffer := by
  rw [← map_place_visibleCells ready, List.length_map, ready.agrees.scratchBuffer]
  exact length_visibleCells client cursor

/-- The rectangle fits the scratch buffer. -/
theorem within_scratchTexture (ready : Ready client cursor)
    (nonempty : ¬ (visibleRect client cursor).IsEmpty) :
    Within client (.scratchTexture
      ((visibleRect client cursor).right - (visibleRect client cursor).left)
      ((visibleRect client cursor).bottom - (visibleRect client cursor).top)) := by
  obtain ⟨wide, high⟩ := not_or.mp nonempty
  refine ⟨by omega, by omega, cursor, ready.present, ?_⟩
  have count := length_pixels_le ready
  unfold Rect.pixels at count
  rw [List.length_product, length_range, length_range, Nat.mul_comm] at count
  have entries := Int.ofNat_le.mpr count
  rwa [Int.natCast_mul, Int.toNat_of_nonneg (by omega), Int.toNat_of_nonneg (by omega)] at entries

/-- The upload stays inside the buffers just where the numbers are small. -/
theorem within_uploadCursor_iff (ready : Ready client cursor)
    (contents : Contents client cursor) :
    (∀ access ∈ uploadCursor client, Within client access) ↔ Numbered client cursor := by
  have composed := drawn_composeCursor ready contents
  have blend := composeCursor_blend contents
  unfold uploadCursor
  rw [numbered_iff ready, ready.present]
  dsimp only
  rw [← blend]
  constructor
  · intro within cell member
    exact within _ (List.mem_append_left _ ((composed.accesses _).mpr (.inl ⟨cell, member, .inr rfl⟩)))
  · intro inside access member
    rcases List.mem_append.mp member with blending | uploading
    · rcases (composed.accesses access).mp blending with
        ⟨cell, visible, rfl | rfl⟩ | ⟨index, below, rfl⟩
      · obtain ⟨low, narrow⟩ := (mem_visibleCells.mp visible).1
        refine ⟨cursor, ready.present, ?_⟩
        rw [ready.agrees.mask]
        exact cursorIndex_bounds ready.small narrow low
      · exact inside cell visible
      · refine ⟨cursor, ready.present, Int.natCast_nonneg _, Int.ofNat_lt.mpr ?_⟩
        rw [ready.agrees.scratchBuffer]
        exact below.trans_le (length_visibleCells client cursor)
    · split at uploading
      · next started =>
        cases List.mem_singleton.mp uploading
        by_cases empty : (visibleRect client cursor).IsEmpty
        · rw [corners_of_isEmpty ready contents empty] at started
          exact absurd started.1 (by decide)
        · obtain ⟨-, width, height⟩ := corners_composeCursor ready contents empty
          rw [width, height]
          exact within_scratchTexture ready empty
      · cases uploading

/-! ### The composed pixels -/

theorem composedPixel_eq (ready : Ready client cursor) (contents : Contents client cursor)
    {cell : Nat × Nat} (member : cell ∈ visibleCells client cursor)
    (within : Within client (pixelAccess client cursor cell.1 cell.2)) :
    composedPixel client cursor contents cell.1 cell.2 =
      drawn client cursor contents (fbX client cursor cell.2) (fbY client cursor cell.1) := by
  have contains := contains_place ready member
  have visible := (mem_visibleCells.mp member).2
  unfold composedPixel drawn
  rw [cursorEntry_place ready member]
  split
  · next masked => rw [if_pos ⟨contains, masked⟩]
  · next transparent =>
    have numbered := (within_pixelAccess_iff ready member).mp within
    rw [cursorEntry_place ready member] at numbered
    have nonneg := (frameNumber_bounds visible.1 visible.2).1
    rw [if_neg fun shown => transparent shown.2]
    unfold frameTexture frameIndex
    rw [wrap32_of_fits (by omega) (numbered (not_not.mp transparent))]

theorem scratch_of_numbered (ready : Ready client cursor) (contents : Contents client cursor)
    (numbered : Numbered client cursor) :
    (composeCursor client cursor contents).scratch =
      (visibleRect client cursor).pixels.map
        (fun cell => drawn client cursor contents cell.2 cell.1) ++
        contents.scratch.drop (visibleRect client cursor).pixels.length := by
  have within := (numbered_iff ready).mp numbered
  rw [(drawn_composeCursor ready contents).scratch, ← map_place_visibleCells ready,
    List.length_map, List.map_map]
  congr 1
  exact List.map_congr_left fun cell member =>
    composedPixel_eq ready contents member (within cell member)

/-- Where the cursor does not lie over the framebuffer, the framebuffer is drawn. -/
theorem drawn_of_not_contains (contents : Contents client cursor) {x y : Int}
    (inside : (frameRect client).Contains x y)
    (outside : ¬ (visibleRect client cursor).Contains x y) :
    drawn client cursor contents x y = frameTexture client cursor contents x y := by
  refine if_neg fun ⟨covered, _⟩ => outside ?_
  exact Rect.contains_inter.mpr ⟨covered, inside⟩

theorem texture_of_numbered (ready : Ready client cursor) (contents : Contents client cursor)
    (numbered : Numbered client cursor) {x y : Int} (inside : (frameRect client).Contains x y) :
    uploadedTexture client cursor contents x y = drawn client cursor contents x y := by
  unfold uploadedTexture
  by_cases empty : (visibleRect client cursor).IsEmpty
  · rw [uploadedImage_of_empty ready contents empty]
    exact (drawn_of_not_contains contents inside fun contains =>
      Rect.not_isEmpty_of_contains contains empty).symm
  · rw [uploadedImage_of_nonempty ready contents empty]
    show glTexSubImage2D _ _ x y = _
    unfold glTexSubImage2D
    dsimp only
    rw [add_sub_cancel, add_sub_cancel]
    split
    · next contains =>
      have entry := Rect.getElem?_pixels contains
      have below := (List.getElem?_eq_some_iff.mp entry).1
      rw [scratch_of_numbered ready contents numbered, List.getD_eq_getElem?_getD,
        List.getElem?_append_left (by rwa [List.length_map]), List.getElem?_map, entry]
      rfl
    · next outside => exact (drawn_of_not_contains contents inside outside).symm

theorem rectangle_uploadedImage (ready : Ready client cursor)
    (contents : Contents client cursor) :
    (uploadedImage client cursor contents).map SubImage.rect =
      if (visibleRect client cursor).IsEmpty then none else some (visibleRect client cursor) := by
  split
  · next empty => rw [uploadedImage_of_empty ready contents empty, Option.map_none]
  · next nonempty =>
    rw [uploadedImage_of_nonempty ready contents nonempty, Option.map_some]
    unfold SubImage.rect
    dsimp only
    rw [add_sub_cancel, add_sub_cancel]

/-- The upload draws the masked cursor over the framebuffer, and stays inside the buffers, just
when no transparent pixel of the cursor lies over a pixel of the framebuffer whose number is
`2^31` or more. -/
theorem exact_iff (ready : Ready client cursor) (contents : Contents client cursor) :
    Exact client cursor contents ↔ Numbered client cursor := by
  constructor
  · intro composed
    exact (within_uploadCursor_iff ready contents).mp composed.within
  · intro numbered
    exact
      { rectangle := rectangle_uploadedImage ready contents
        scratch := scratch_of_numbered ready contents numbered
        within := (within_uploadCursor_iff ready contents).mpr numbered
        texture := fun _ _ => texture_of_numbered ready contents numbered }

/-! ### A corner and a huge framebuffer -/

/-- A cursor of two by two pixels whose lower pixels are transparent. -/
def tipCursor : Cursor :=
  { buffer := 4, mask := [1, 1, 0, 0], scratchBuffer := 4, width := 2, height := 2, xHot := 1
    yHot := 1 }

/-- It stands half outside of a framebuffer of three by two pixels. -/
def cornerClient : Client :=
  { width := 3, height := 2, frameBuffer := some 24, fbRealWidth := 3, fbRealHeight := 2
    cursor := some tipCursor, pointerX := 0, pointerY := 1, connected := true, faults := [] }

def cornerContents : Contents cornerClient tipCursor where
  fb := [10, 11, 12, 13, 14, 15]
  buffer := [1, 2, 3, 4]
  scratch := [0, 0, 0, 0]
  fb_length := rfl
  buffer_length := rfl
  scratch_length := rfl

theorem ready_corner : Ready cornerClient tipCursor where
  present := rfl
  agrees := ⟨rfl, rfl, rfl⟩
  small := by decide
  frame bytes same := by
    cases same
    rfl
  noFrame none := by cases none
  real := by decide
  columns := by decide
  rows := by decide

theorem exact_corner : Exact cornerClient tipCursor cornerContents :=
  (exact_iff ready_corner cornerContents).mpr (by decide)

/-- A cursor of one transparent pixel. -/
def clearCursor : Cursor :=
  { buffer := 1, mask := [0], scratchBuffer := 1, width := 1, height := 1, xHot := 0, yHot := 0 }

/-- It lies over the last pixel of a framebuffer of 65535 by 65535. -/
def hugeClient : Client :=
  { width := 65535, height := 65535, frameBuffer := some 17179344900, fbRealWidth := 65535
    fbRealHeight := 65535, cursor := some clearCursor, pointerX := 65534, pointerY := 65534
    connected := true, faults := [] }

def hugeContents : Contents hugeClient clearCursor where
  fb := List.replicate 4294836225 7
  buffer := [0]
  scratch := [0]
  fb_length := by
    rw [List.length_replicate]
    rfl
  buffer_length := rfl
  scratch_length := rfl

/-- The framebuffer is read at a negative index. -/
theorem not_exact_huge :
    Ready hugeClient clearCursor ∧ ¬ Exact hugeClient clearCursor hugeContents := by
  refine ⟨⟨rfl, ⟨rfl, rfl, rfl⟩, by decide, ?_, ?_, by decide, by decide, by decide⟩, ?_⟩
  · intro bytes same
    cases same
    rfl
  · intro none
    cases none
  · intro composed
    have missed : ∃ access ∈ uploadCursor hugeClient, ¬ Within hugeClient access := by
      decide +kernel
    obtain ⟨access, member, outside⟩ := missed
    exact outside (composed.within access member)

end TermPlux.CursorComposition
