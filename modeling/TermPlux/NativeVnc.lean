/-
This file models the buffers of `native-vnc.cpp`: the framebuffer with its real
size, the client-side cursor, their replacement on the receiver thread and the
two uploads of the render thread. A run is any interleaving of server resizes,
allocations, cursor shapes, pointer moves and uploads.

The sizes agree in every run. Every index stays inside its buffer as long as no
framebuffer has more than `2^31` pixels: the index into the framebuffer is
computed in 32-bit arithmetic, while the size to allocate is not.
-/

import TermPlux.Machine
import TermPlux.CLoops

namespace TermPlux.NativeVnc

open CLoops

/-! ### The native state -/

/-- `Cursor`. The buffers are given by their entries: pixels of four bytes in `buffer` and
`scratchBuffer`, bytes in `mask`, whose content decides what is blended. -/
structure Cursor where
  buffer : Nat
  mask : List UInt8
  scratchBuffer : Nat
  width : Nat
  height : Nat
  xHot : Nat
  yHot : Nat

/-- An access of an upload: the entry of a buffer that the blending loop reads or writes, or
the size of what a texture call reads. -/
inductive Access
  | mask (index : Int)
  | buffer (index : Int)
  | scratch (index : Int)
  | frame (index : Int)
  | frameTexture (bytes : Int)
  | scratchTexture (width height : Int)
  deriving DecidableEq

/-- The fields of `rfbClient`, of its `ClientEx` and the pointer of `VncClient`.

`frameBuffer` is the size in bytes of the allocated buffer. `connected` says that an allocation
has succeeded, and `faults` collects the accesses of the uploads that missed their buffers. -/
structure Client where
  width : Nat
  height : Nat
  frameBuffer : Option Nat
  fbRealWidth : Int
  fbRealHeight : Int
  cursor : Option Cursor
  pointerX : Int
  pointerY : Int
  connected : Bool
  faults : List Access

def PixelBytes : Nat := 4

def DefaultCursorMask : List UInt8 :=
  [1, 1, 0, 0, 0, 0, 0, 0, 0, 0, 1, 1, 1, 0, 0, 0, 0, 0, 0, 0, 1, 1, 1, 1, 0, 0, 0, 0, 0, 0, 1, 1,
   1, 1, 1, 0, 0, 0, 0, 0, 1, 1, 1, 1, 1, 1, 0, 0, 0, 0, 1, 1, 1, 1, 1, 1, 1, 0, 0, 0, 1, 1, 1, 1,
   1, 1, 1, 1, 0, 0, 1, 1, 1, 1, 1, 1, 1, 1, 1, 0, 1, 1, 1, 1, 1, 1, 1, 1, 1, 1, 1, 1, 1, 1, 1, 1,
   1, 1, 1, 1, 1, 1, 1, 1, 1, 1, 1, 0, 0, 0, 1, 1, 1, 0, 1, 1, 1, 1, 0, 0, 1, 1, 0, 0, 1, 1, 1, 1,
   0, 0, 0, 0, 0, 0, 0, 1, 1, 1, 1, 0, 0, 0, 0, 0, 0, 1, 1, 1, 1, 0, 0, 0, 0, 0, 0, 0, 1, 1, 0, 0]

/-! ### The receiver thread -/

/-- `newCursor`, with the scratch allocation succeeding. -/
def newCursor : Cursor :=
  { buffer := 160, mask := DefaultCursorMask, scratchBuffer := 160, width := 10, height := 16
    xHot := 1, yHot := 1 }

/-- `updateCursor`, with the scratch allocation of `width * height * PixelBytes` succeeding. -/
def updateCursor (buffer : Nat) (mask : List UInt8) (width height xHot yHot : Nat) : Cursor :=
  { buffer, mask, width, height, xHot, yHot
    scratchBuffer := (wrap32 (width * height * PixelBytes)).toNat / PixelBytes }

def onGotCursorShape (client : Client) (rcSource : Nat) (rcMask : List UInt8)
    (xHot yHot width height : Nat) : Client :=
  { client with
    cursor := client.cursor.map fun _ => updateCursor rcSource rcMask width height xHot yHot }

def MAX_CURSOR_SIZE : Nat := 1024

/-- `HandleCursorShape` of the vendored library, with the buffers it hands over. -/
def handleCursorShape (client : Client) (rcSource : Nat) (rcMask : List UInt8)
    (xHot yHot width height : Nat) : Client :=
  if width * height = 0 then client
  else if MAX_CURSOR_SIZE ≤ width ∨ MAX_CURSOR_SIZE ≤ height then client
  else onGotCursorShape client rcSource rcMask xHot yHot width height

/-- The size to allocate at 32 bits per pixel. Its computation in 64 bits cannot overflow. -/
def requestedSize (client : Client) : Nat := client.width * client.height * 32 / 8

/-- `onMallocFrameBuffer`, with the outcome of the allocation. -/
def onMallocFrameBuffer (sizeMax : Nat) (client : Client) (allocated : Bool) : Client :=
  if sizeMax ≤ requestedSize client then client
  else if allocated then
    { client with
      frameBuffer := some (requestedSize client)
      fbRealWidth := client.width
      fbRealHeight := client.height
      connected := true }
  else { client with frameBuffer := none, fbRealWidth := 0, fbRealHeight := 0 }

/-! ### The render thread -/

/-- `nativeUploadFrameTexture`, as what it reads. -/
def uploadFrameTexture (client : Client) : List Access :=
  match client.frameBuffer with
  | some _ => [.frameTexture (client.fbRealWidth * client.fbRealHeight * PixelBytes)]
  | none => []

/-- The variables of the blending loop, with what it accessed so far. -/
structure Blend where
  z : Int
  left : Int
  top : Int
  right : Int
  bottom : Int
  accesses : List Access

def Blend.initial : Blend :=
  { z := 0, left := -1, top := -1, right := -1, bottom := -1, accesses := [] }

def fbCursorX (client : Client) (cursor : Cursor) : Int := wrap32 (client.pointerX - cursor.xHot)

def fbCursorY (client : Client) (cursor : Cursor) : Int := wrap32 (client.pointerY - cursor.yHot)

/-- The column of the framebuffer under a column of the cursor. -/
def fbX (client : Client) (cursor : Cursor) (x : Nat) : Int := wrap32 (fbCursorX client cursor + x)

def fbY (client : Client) (cursor : Cursor) (y : Nat) : Int := wrap32 (fbCursorY client cursor + y)

def ColumnVisible (client : Client) (cursor : Cursor) (x : Nat) : Prop :=
  0 ≤ fbX client cursor x ∧ fbX client cursor x < client.fbRealWidth

def RowVisible (client : Client) (cursor : Cursor) (y : Nat) : Prop :=
  0 ≤ fbY client cursor y ∧ fbY client cursor y < client.fbRealHeight

instance (client : Client) (cursor : Cursor) (x : Nat) :
    Decidable (ColumnVisible client cursor x) :=
  inferInstanceAs (Decidable (_ ∧ _))

instance (client : Client) (cursor : Cursor) (y : Nat) : Decidable (RowVisible client cursor y) :=
  inferInstanceAs (Decidable (_ ∧ _))

/-- The entry of a pixel in the buffers of the cursor. -/
def cursorIndex (cursor : Cursor) (y x : Nat) : Int := wrap32 (y * cursor.width + x)

/-- The entry of the pixel under it in the framebuffer. -/
def frameIndex (client : Client) (cursor : Cursor) (y x : Nat) : Int :=
  wrap32 (fbY client cursor y * client.fbRealWidth + fbX client cursor x)

/-- What the loop reads to blend a pixel. -/
def pixelAccess (client : Client) (cursor : Cursor) (y x : Nat) : Access :=
  if cursor.mask.getD (cursorIndex cursor y x).toNat 0 ≠ 0 then .buffer (cursorIndex cursor y x)
  else .frame (frameIndex client cursor y x)

/-- The body of the blending loop. -/
def blendPixel (client : Client) (cursor : Cursor) (y : Nat) (blend : Blend) (x : Nat) : Blend :=
  if ColumnVisible client cursor x ∧ RowVisible client cursor y then
    { z := wrap32 (blend.z + 1)
      left := if blend.left = -1 ∧ blend.top = -1 then fbX client cursor x else blend.left
      top := if blend.left = -1 ∧ blend.top = -1 then fbY client cursor y else blend.top
      right := fbX client cursor x
      bottom := fbY client cursor y
      accesses := blend.accesses ++ [.mask (cursorIndex cursor y x), pixelAccess client cursor y x,
        .scratch blend.z] }
  else blend

def blendCursor (client : Client) (cursor : Cursor) : Blend :=
  forLoop cursor.height
    (fun blend y => forLoop cursor.width (blendPixel client cursor y) blend) Blend.initial

/-- `nativeUploadCursor`, as what it accesses. -/
def uploadCursor (client : Client) : List Access :=
  match client.cursor with
  | some cursor =>
    let blend := blendCursor client cursor
    blend.accesses ++
      if 0 ≤ blend.left ∧ 0 ≤ blend.top then
        [.scratchTexture (blend.right - blend.left + 1) (blend.bottom - blend.top + 1)]
      else []
  | none => []

/-! ### Runs -/

/-- An access stays inside its buffer. -/
def Within (client : Client) : Access → Prop
  | .mask index => ∃ cursor ∈ client.cursor, 0 ≤ index ∧ index < cursor.mask.length
  | .buffer index => ∃ cursor ∈ client.cursor, 0 ≤ index ∧ index < cursor.buffer
  | .scratch index => ∃ cursor ∈ client.cursor, 0 ≤ index ∧ index < cursor.scratchBuffer
  | .frame index => ∃ size ∈ client.frameBuffer, 0 ≤ index ∧ (index + 1) * PixelBytes ≤ size
  | .frameTexture bytes => ∃ size ∈ client.frameBuffer, 0 ≤ bytes ∧ bytes ≤ size
  | .scratchTexture width height =>
    0 ≤ width ∧ 0 ≤ height ∧ ∃ cursor ∈ client.cursor, width * height ≤ cursor.scratchBuffer

instance decidableWithin (client : Client) : ∀ access, Decidable (Within client access)
  | .mask _ => inferInstanceAs (Decidable (∃ _ ∈ _, _))
  | .buffer _ => inferInstanceAs (Decidable (∃ _ ∈ _, _))
  | .scratch _ => inferInstanceAs (Decidable (∃ _ ∈ _, _))
  | .frame _ => inferInstanceAs (Decidable (∃ _ ∈ _, _))
  | .frameTexture _ => inferInstanceAs (Decidable (∃ _ ∈ _, _))
  | .scratchTexture _ _ => inferInstanceAs (Decidable (_ ∧ _ ∧ _))

/-- Sizes and hot spots are 16-bit on the wire, and pointer coordinates are `jint`s. -/
inductive Event
  | resize (width height : UInt16)
  | mallocFrameBuffer (allocated : Bool)
  | cursorShape (rcSource : Nat) (rcMask : List UInt8) (xHot yHot width height : UInt16)
  | movePointer (x y : Int32)
  | uploadFrameTexture
  | uploadCursor
  deriving DecidableEq

/-- The library hands over arrays of `width * height` entries, to a client that asked for cursor
shapes. The renderer runs only on a connected client. -/
def enabled (client : Client) : Event → Prop
  | .cursorShape rcSource rcMask _ _ width height =>
    client.cursor.isSome ∧ rcSource = width.toNat * height.toNat ∧
      rcMask.length = width.toNat * height.toNat
  | .uploadFrameTexture | .uploadCursor => client.connected
  | .resize .. | .mallocFrameBuffer _ | .movePointer .. => True

instance (client : Client) : ∀ event, Decidable (enabled client event)
  | .cursorShape .. => inferInstanceAs (Decidable (_ ∧ _ ∧ _))
  | .uploadFrameTexture | .uploadCursor => inferInstanceAs (Decidable (_ = true))
  | .resize .. | .mallocFrameBuffer _ | .movePointer .. => inferInstanceAs (Decidable True)

/-- Run an upload and note the accesses that miss. -/
def Client.perform (client : Client) (accesses : List Access) : Client :=
  { client with
    faults := client.faults ++ accesses.filter fun access => ¬Within client access }

def step (sizeMax : Nat) (client : Client) : Event → Client
  | .resize width height => { client with width := width.toNat, height := height.toNat }
  | .mallocFrameBuffer allocated => onMallocFrameBuffer sizeMax client allocated
  | .cursorShape rcSource rcMask xHot yHot width height =>
    handleCursorShape client rcSource rcMask xHot.toNat yHot.toNat width.toNat height.toNat
  | .movePointer x y => { client with pointerX := x.toInt, pointerY := y.toInt }
  | .uploadFrameTexture => client.perform (uploadFrameTexture client)
  | .uploadCursor => client.perform (uploadCursor client)

/-- A client on a platform with this `SIZE_MAX`, with or without a local cursor. The real sizes
are whatever the memory of the extension held. -/
def machine (sizeMax : Nat) (useLocalCursor : Bool) (garbageWidth garbageHeight : Int) :
    Machine Client Event where
  start :=
    { width := 0, height := 0, frameBuffer := none
      fbRealWidth := garbageWidth, fbRealHeight := garbageHeight
      cursor := if useLocalCursor then some newCursor else none
      pointerX := 0, pointerY := 0, connected := false, faults := [] }
  enabled := enabled
  step := step sizeMax

instance (sizeMax : Nat) (useLocalCursor : Bool) (garbageWidth garbageHeight : Int)
    (client : Client) (event : Event) :
    Decidable ((machine sizeMax useLocalCursor garbageWidth garbageHeight).enabled client event) :=
  inferInstanceAs (Decidable (enabled client event))

/-! ### The sizes agree -/

/-- The buffers of a cursor have `width * height` entries. -/
structure Cursor.Agrees (cursor : Cursor) : Prop where
  buffer : cursor.buffer = cursor.width * cursor.height
  mask : cursor.mask.length = cursor.width * cursor.height
  scratchBuffer : cursor.scratchBuffer = cursor.width * cursor.height

/-- The real sizes of the framebuffer and the sizes of the cursor are those of the buffers. -/
structure SizesAgree (client : Client) : Prop where
  frame : ∀ bytes, client.frameBuffer = some bytes →
    (bytes : Int) = client.fbRealWidth * client.fbRealHeight * PixelBytes
  noFrame : client.frameBuffer = none → client.fbRealWidth = 0 ∧ client.fbRealHeight = 0
  cursor : ∀ cursor, client.cursor = some cursor → cursor.Agrees

/-- What every run keeps. -/
structure Sound (client : Client) : Prop where
  published : client.width < 65536 ∧ client.height < 65536
  pointerX : -2 ^ 31 ≤ client.pointerX ∧ client.pointerX < 2 ^ 31
  pointerY : -2 ^ 31 ≤ client.pointerY ∧ client.pointerY < 2 ^ 31
  cursor : ∀ cursor, client.cursor = some cursor →
    cursor.Agrees ∧ cursor.width < MAX_CURSOR_SIZE ∧ cursor.height < MAX_CURSOR_SIZE
  frame : client.connected → ∀ bytes, client.frameBuffer = some bytes →
    (bytes : Int) = client.fbRealWidth * client.fbRealHeight * PixelBytes
  noFrame : client.connected → client.frameBuffer = none →
    client.fbRealWidth = 0 ∧ client.fbRealHeight = 0
  real : client.connected → (0 ≤ client.fbRealWidth ∧ client.fbRealWidth < 65536) ∧
    0 ≤ client.fbRealHeight ∧ client.fbRealHeight < 65536

theorem Sound.sizesAgree {client : Client} (sound : Sound client) (connected : client.connected) :
    SizesAgree client :=
  ⟨sound.frame connected, sound.noFrame connected, fun cursor same => (sound.cursor cursor same).1⟩

theorem newCursor_agrees : newCursor.Agrees :=
  ⟨rfl, by decide +kernel, rfl⟩

theorem updateCursor_agrees {rcSource : Nat} {rcMask : List UInt8} {width height : Nat}
    (xHot yHot : Nat) (buffer : rcSource = width * height) (mask : rcMask.length = width * height)
    (narrow : width < MAX_CURSOR_SIZE) (low : height < MAX_CURSOR_SIZE) :
    (updateCursor rcSource rcMask width height xHot yHot).Agrees := by
  refine ⟨buffer, mask, ?_⟩
  unfold MAX_CURSOR_SIZE at narrow low
  have small : width * height ≤ 1023 * 1023 := Nat.mul_le_mul (by omega) (by omega)
  show (wrap32 ((width : Int) * height * PixelBytes)).toNat / PixelBytes = width * height
  have product : (width : Int) * height = ((width * height : Nat) : Int) := by push_cast; rfl
  unfold PixelBytes
  rw [product, wrap32_of_fits (by omega) (by omega)]
  omega

theorem sound_start (sizeMax : Nat) (useLocalCursor : Bool) (garbageWidth garbageHeight : Int) :
    Sound (machine sizeMax useLocalCursor garbageWidth garbageHeight).start where
  published := ⟨Nat.zero_lt_succ _, Nat.zero_lt_succ _⟩
  pointerX := ⟨show -2 ^ 31 ≤ (0 : Int) by decide, show (0 : Int) < 2 ^ 31 by decide⟩
  pointerY := ⟨show -2 ^ 31 ≤ (0 : Int) by decide, show (0 : Int) < 2 ^ 31 by decide⟩
  cursor cursor same := by
    cases useLocalCursor with
    | false => cases same
    | true =>
      cases same
      exact ⟨newCursor_agrees, by decide, by decide⟩
  frame connected := absurd connected Bool.false_ne_true
  noFrame connected := absurd connected Bool.false_ne_true
  real connected := absurd connected Bool.false_ne_true

theorem sound_onMallocFrameBuffer (sizeMax : Nat) (allocated : Bool) {client : Client}
    (sound : Sound client) : Sound (onMallocFrameBuffer sizeMax client allocated) := by
  unfold onMallocFrameBuffer
  split
  · exact sound
  · split
    · obtain ⟨narrow, low⟩ := sound.published
      refine ⟨sound.published, sound.pointerX, sound.pointerY, sound.cursor, fun _ bytes same => ?_,
        fun _ none => ?_, fun _ => ?_⟩
      · cases same
        show (requestedSize client : Int) = client.width * client.height * (4 : Nat)
        have product : (client.width : Int) * client.height =
            ((client.width * client.height : Nat) : Int) := by push_cast; rfl
        rw [product, requestedSize]
        omega
      · cases none
      · exact ⟨⟨Int.natCast_nonneg _, Int.ofNat_lt.mpr narrow⟩, Int.natCast_nonneg _,
          Int.ofNat_lt.mpr low⟩
    · refine ⟨sound.published, sound.pointerX, sound.pointerY, sound.cursor,
        fun _ _ same => (nomatch same), fun _ _ => ⟨rfl, rfl⟩, fun _ => ?_⟩
      show (0 ≤ (0 : Int) ∧ (0 : Int) < 65536) ∧ 0 ≤ (0 : Int) ∧ (0 : Int) < 65536
      decide

theorem sound_handleCursorShape {client : Client} (sound : Sound client) {rcSource : Nat}
    {rcMask : List UInt8} (xHot yHot : Nat) {width height : Nat}
    (buffer : rcSource = width * height) (mask : rcMask.length = width * height) :
    Sound (handleCursorShape client rcSource rcMask xHot yHot width height) := by
  unfold handleCursorShape
  split
  · exact sound
  · split
    · exact sound
    · next small =>
      obtain ⟨narrow, low⟩ := not_or.mp small
      refine ⟨sound.published, sound.pointerX, sound.pointerY, fun cursor same => ?_, sound.frame,
        sound.noFrame, sound.real⟩
      obtain ⟨old, -, rfl⟩ := Option.map_eq_some_iff.mp same
      exact ⟨updateCursor_agrees xHot yHot buffer mask (Nat.not_le.mp narrow) (Nat.not_le.mp low),
        Nat.not_le.mp narrow, Nat.not_le.mp low⟩

theorem sound_step (sizeMax : Nat) (client : Client) (event : Event) (sound : Sound client)
    (allowed : enabled client event) : Sound (step sizeMax client event) := by
  cases event with
  | resize width height =>
    exact { sound with published := ⟨width.toNat_lt, height.toNat_lt⟩ }
  | mallocFrameBuffer allocated => exact sound_onMallocFrameBuffer sizeMax allocated sound
  | cursorShape rcSource rcMask xHot yHot width height =>
    exact sound_handleCursorShape sound _ _ allowed.2.1 allowed.2.2
  | movePointer x y =>
    exact { sound with
      pointerX := ⟨x.le_toInt, x.toInt_lt⟩
      pointerY := ⟨y.le_toInt, y.toInt_lt⟩ }
  | uploadFrameTexture => exact { sound with }
  | uploadCursor => exact { sound with }

/-! ### The uploads stay inside -/

/-- The framebuffer has few enough pixels to be indexed by an `int`. -/
def Indexable (client : Client) : Prop :=
  client.connected → client.fbRealWidth * client.fbRealHeight ≤ 2 ^ 31

theorem frameTexture_within {client : Client} (sound : Sound client)
    (connected : client.connected) :
    ∀ access ∈ uploadFrameTexture client, Within client access := by
  intro access member
  unfold uploadFrameTexture at member
  split at member
  · next bytes allocated =>
    cases List.mem_singleton.mp member
    have same := sound.frame connected bytes allocated
    exact ⟨bytes, allocated, by omega, by omega⟩
  · cases member

section Blending

variable {client : Client} {cursor : Cursor}

/-- The loop has not blended any of its pixels before the column `x` of the row `y`. -/
def NothingVisible (client : Client) (cursor : Cursor) (y x : Nat) : Prop :=
  ∀ row column, row < y ∨ row = y ∧ column < x → column < cursor.width →
    ¬(ColumnVisible client cursor column ∧ RowVisible client cursor row)

/-- The rectangle between the first and the last pixel that the loop has blended. -/
structure Rectangle (client : Client) (cursor : Cursor) (blend : Blend)
    (firstX firstY lastX lastY : Nat) : Prop where
  columns : firstX ≤ lastX ∧ lastX < cursor.width
  rows : firstY ≤ lastY ∧ lastY < cursor.height
  left : blend.left = fbX client cursor firstX ∧ 0 ≤ blend.left
  top : blend.top = fbY client cursor firstY ∧ 0 ≤ blend.top
  right : blend.right = fbX client cursor lastX ∧ 0 ≤ blend.right
  bottom : blend.bottom = fbY client cursor lastY ∧ 0 ≤ blend.bottom
  firstColumn : ∀ x < firstX, ¬ColumnVisible client cursor x
  firstRow : ∀ y < firstY, ¬RowVisible client cursor y

/-- The invariant of the blending loop before the column `x` of the row `y`. -/
structure Blended (client : Client) (cursor : Cursor) (y x : Nat) (blend : Blend) : Prop where
  z : 0 ≤ blend.z ∧ blend.z ≤ y * cursor.width + x
  within : ∀ access ∈ blend.accesses, Within client access
  corners : blend.left = -1 ∧ blend.top = -1 ∧ NothingVisible client cursor y x ∨
    ∃ firstX firstY lastX lastY, Rectangle client cursor blend firstX firstY lastX lastY

theorem blended_initial : Blended client cursor 0 0 Blend.initial where
  z := ⟨Int.le_refl _, by simp [Blend.initial]⟩
  within _ member := absurd member List.not_mem_nil
  corners := .inl ⟨rfl, rfl, fun row column before => by omega⟩

theorem Blended.nextRow {y : Nat} {blend : Blend}
    (blended : Blended client cursor y cursor.width blend) :
    Blended client cursor (y + 1) 0 blend where
  z := by
    obtain ⟨nonneg, bounded⟩ := blended.z
    refine ⟨nonneg, ?_⟩
    push_cast
    rw [Int.add_mul, Int.one_mul, Int.add_zero]
    exact bounded
  within := blended.within
  corners := by
    refine blended.corners.imp_left fun ⟨left, top, nothing⟩ => ⟨left, top, ?_⟩
    intro row column before narrow
    refine nothing row column ?_ narrow
    omega

theorem index_lt {x y : Nat} (narrow : x < cursor.width) (low : y < cursor.height) :
    y * cursor.width + x < cursor.width * cursor.height := by
  have rows : (y + 1) * cursor.width ≤ cursor.height * cursor.width :=
    Nat.mul_le_mul_right _ low
  rw [Nat.add_mul, Nat.one_mul] at rows
  rw [Nat.mul_comm cursor.width]
  omega

theorem entries_le (small : cursor.width < MAX_CURSOR_SIZE ∧ cursor.height < MAX_CURSOR_SIZE) :
    cursor.width * cursor.height ≤ 1023 * 1023 :=
  Nat.mul_le_mul (Nat.le_of_lt_succ small.1) (Nat.le_of_lt_succ small.2)

theorem cursorIndex_eq (small : cursor.width < MAX_CURSOR_SIZE ∧ cursor.height < MAX_CURSOR_SIZE)
    {x y : Nat} (narrow : x < cursor.width) (low : y < cursor.height) :
    cursorIndex cursor y x = (y * cursor.width + x : Nat) := by
  have entry := index_lt narrow low
  have entries := entries_le small
  unfold cursorIndex
  push_cast
  exact wrap32_of_fits (by omega) (by omega)

/-- The cursor's own buffers are accessed inside. -/
theorem cursorIndex_bounds
    (small : cursor.width < MAX_CURSOR_SIZE ∧ cursor.height < MAX_CURSOR_SIZE) {x y : Nat}
    (narrow : x < cursor.width) (low : y < cursor.height) :
    0 ≤ cursorIndex cursor y x ∧
      cursorIndex cursor y x < (cursor.width * cursor.height : Nat) := by
  rw [cursorIndex_eq small narrow low]
  exact ⟨Int.natCast_nonneg _, Int.ofNat_lt.mpr (index_lt narrow low)⟩

/-- The number of the framebuffer's pixel under a visible pixel of the cursor. -/
theorem frameNumber_bounds {x y : Nat} (column : ColumnVisible client cursor x)
    (row : RowVisible client cursor y) :
    let number := fbY client cursor y * client.fbRealWidth + fbX client cursor x
    0 ≤ number ∧ number < client.fbRealWidth * client.fbRealHeight := by
  unfold ColumnVisible at column
  unfold RowVisible at row
  have offset : 0 ≤ fbY client cursor y * client.fbRealWidth :=
    Int.mul_nonneg row.1 (by omega)
  have rows : (fbY client cursor y + 1) * client.fbRealWidth ≤
      client.fbRealHeight * client.fbRealWidth :=
    Int.mul_le_mul_of_nonneg_right row.2 (by omega)
  rw [Int.add_mul, Int.one_mul, Int.mul_comm client.fbRealHeight] at rows
  constructor <;> omega

/-- The pixel of the framebuffer under a visible pixel of the cursor. -/
theorem frameIndex_within (sound : Sound client) (connected : client.connected)
    (indexable : Indexable client) {x y : Nat} (column : ColumnVisible client cursor x)
    (row : RowVisible client cursor y) : Within client (.frame (frameIndex client cursor y x)) := by
  obtain ⟨nonneg, bounded⟩ := frameNumber_bounds column row
  have pixels := indexable connected
  obtain ⟨bytes, allocated⟩ : ∃ bytes, client.frameBuffer = some bytes := by
    cases allocated : client.frameBuffer with
    | some bytes => exact ⟨bytes, rfl⟩
    | none =>
      rw [(sound.noFrame connected allocated).2, Int.mul_zero] at bounded
      omega
  have size := sound.frame connected bytes allocated
  unfold frameIndex
  rw [wrap32_of_fits (by omega) (by omega)]
  refine ⟨bytes, allocated, nonneg, ?_⟩
  rw [size]
  exact Int.mul_le_mul_of_nonneg_right (by omega) (by decide)

theorem pixelAccess_within (sound : Sound client) (connected : client.connected)
    (indexable : Indexable client) (present : client.cursor = some cursor) {x y : Nat}
    (narrow : x < cursor.width) (low : y < cursor.height) (column : ColumnVisible client cursor x)
    (row : RowVisible client cursor y) : Within client (pixelAccess client cursor y x) := by
  obtain ⟨agrees, small⟩ := sound.cursor cursor present
  unfold pixelAccess
  split
  · refine ⟨cursor, present, ?_⟩
    rw [agrees.buffer]
    exact cursorIndex_bounds small narrow low
  · exact frameIndex_within sound connected indexable column row

/-- The three accesses of a visible pixel. -/
theorem Blended.within_pixel (sound : Sound client) (connected : client.connected)
    (indexable : Indexable client) (present : client.cursor = some cursor) {y x : Nat}
    {blend : Blend} (low : y < cursor.height) (narrow : x < cursor.width)
    (blended : Blended client cursor y x blend) (column : ColumnVisible client cursor x)
    (row : RowVisible client cursor y) :
    ∀ access ∈ [Access.mask (cursorIndex cursor y x), pixelAccess client cursor y x,
      .scratch blend.z], Within client access := by
  obtain ⟨agrees, small⟩ := sound.cursor cursor present
  have entry := index_lt narrow low
  obtain ⟨zNonneg, zBounded⟩ := blended.z
  simp only [List.forall_mem_cons]
  refine ⟨⟨cursor, present, ?_⟩, ?_, ⟨cursor, present, zNonneg, ?_⟩, by simp⟩
  · rw [agrees.mask]
    exact cursorIndex_bounds small narrow low
  · exact pixelAccess_within sound connected indexable present narrow low column row
  · rw [agrees.scratchBuffer]
    omega

/-- A visible pixel is the last corner, and the first one unless there was one before. -/
theorem Blended.corners_pixel {y x : Nat} {blend : Blend} (low : y < cursor.height)
    (narrow : x < cursor.width) (blended : Blended client cursor y x blend)
    (column : ColumnVisible client cursor x) (row : RowVisible client cursor y) :
    ∃ firstX firstY lastX lastY,
      Rectangle client cursor (blendPixel client cursor y blend x) firstX firstY lastX lastY := by
  have inside : ColumnVisible client cursor x ∧ RowVisible client cursor y := ⟨column, row⟩
  unfold blendPixel
  rw [if_pos inside]
  rcases blended.corners with ⟨noLeft, noTop, nothing⟩ | ⟨firstX, firstY, lastX, lastY, seen⟩
  · have first : blend.left = -1 ∧ blend.top = -1 := ⟨noLeft, noTop⟩
    refine ⟨x, y, x, y, ⟨Nat.le_refl x, narrow⟩, ⟨Nat.le_refl y, low⟩,
      ⟨if_pos first, le_of_le_of_eq column.1 (if_pos first).symm⟩,
      ⟨if_pos first, le_of_le_of_eq row.1 (if_pos first).symm⟩,
      ⟨rfl, column.1⟩, ⟨rfl, row.1⟩,
      fun earlier before visible => ?_, fun earlier before visible => ?_⟩
    · exact nothing y earlier (.inr ⟨rfl, before⟩) (Nat.lt_trans before narrow) ⟨visible, row⟩
    · exact nothing earlier x (.inl before) narrow ⟨column, visible⟩
  · have notFirst : ¬(blend.left = -1 ∧ blend.top = -1) := by
      have nonneg := seen.left.2
      omega
    refine ⟨firstX, firstY, x, y, ⟨?_, narrow⟩, ⟨?_, low⟩,
      ⟨(if_neg notFirst).trans seen.left.1, le_of_le_of_eq seen.left.2 (if_neg notFirst).symm⟩,
      ⟨(if_neg notFirst).trans seen.top.1, le_of_le_of_eq seen.top.2 (if_neg notFirst).symm⟩,
      ⟨rfl, column.1⟩, ⟨rfl, row.1⟩, seen.firstColumn, seen.firstRow⟩
    · exact Nat.not_lt.mp fun before => seen.firstColumn x before column
    · exact Nat.not_lt.mp fun before => seen.firstRow y before row

theorem blended_blendPixel (sound : Sound client) (connected : client.connected)
    (indexable : Indexable client) (present : client.cursor = some cursor) {y x : Nat}
    {blend : Blend} (low : y < cursor.height) (narrow : x < cursor.width)
    (blended : Blended client cursor y x blend) :
    Blended client cursor y (x + 1) (blendPixel client cursor y blend x) := by
  obtain ⟨zNonneg, zBounded⟩ := blended.z
  by_cases visible : ColumnVisible client cursor x ∧ RowVisible client cursor y
  · obtain ⟨column, row⟩ := visible
    have corners := blended.corners_pixel low narrow column row
    have accessed := blended.within_pixel sound connected indexable present low narrow column row
    have entry := index_lt narrow low
    have entries := entries_le (sound.cursor cursor present).2
    unfold blendPixel at corners ⊢
    rw [if_pos ⟨column, row⟩] at corners ⊢
    refine ⟨?_, fun access member => ?_, .inr corners⟩
    · rw [wrap32_of_fits (by omega) (by omega)]
      exact ⟨Int.add_nonneg zNonneg (by decide), by push_cast; omega⟩
    · exact (List.mem_append.mp member).elim (blended.within access) (accessed access)
  · unfold blendPixel
    rw [if_neg visible]
    refine ⟨⟨zNonneg, by omega⟩, blended.within, ?_⟩
    refine blended.corners.imp_left fun ⟨left, top, nothing⟩ => ⟨left, top, ?_⟩
    intro row column before inside
    by_cases same : row = y ∧ column = x
    · obtain ⟨rfl, rfl⟩ := same
      exact visible
    · exact nothing row column (by omega) inside

theorem blended_blendCursor (sound : Sound client) (connected : client.connected)
    (indexable : Indexable client) (present : client.cursor = some cursor) :
    Blended client cursor cursor.height 0 (blendCursor client cursor) := by
  refine forLoop_invariant (Blended client cursor · 0) blended_initial fun y low blend before => ?_
  refine Blended.nextRow (forLoop_invariant (Blended client cursor y) before ?_)
  exact fun x narrow blend => blended_blendPixel sound connected indexable present low narrow

theorem fbX_eq (client : Client) (cursor : Cursor) {x : Nat} (small : x < 2 ^ 31)
    (nonneg : 0 ≤ fbX client cursor x) : fbX client cursor x = fbCursorX client cursor + x :=
  wrap32_add_of_nonneg (wrap32_bounds _).1 (wrap32_bounds _).2 small nonneg

theorem fbY_eq (client : Client) (cursor : Cursor) {y : Nat} (small : y < 2 ^ 31)
    (nonneg : 0 ≤ fbY client cursor y) : fbY client cursor y = fbCursorY client cursor + y :=
  wrap32_add_of_nonneg (wrap32_bounds _).1 (wrap32_bounds _).2 small nonneg

/-- The rectangle uploaded from the scratch buffer is no larger than the cursor. -/
theorem Rectangle.within (sound : Sound client) (present : client.cursor = some cursor)
    {blend : Blend} {firstX firstY lastX lastY : Nat}
    (rectangle : Rectangle client cursor blend firstX firstY lastX lastY) :
    Within client
      (.scratchTexture (blend.right - blend.left + 1) (blend.bottom - blend.top + 1)) := by
  obtain ⟨agrees, narrow, low⟩ := sound.cursor cursor present
  obtain ⟨columns, lastColumn⟩ := rectangle.columns
  obtain ⟨rows, lastRow⟩ := rectangle.rows
  unfold MAX_CURSOR_SIZE at narrow low
  have width : blend.right - blend.left = (lastX - firstX : Nat) := by
    have leftIs := fbX_eq client cursor (by omega) (rectangle.left.1 ▸ rectangle.left.2)
    have rightIs := fbX_eq client cursor (by omega) (rectangle.right.1 ▸ rectangle.right.2)
    rw [rectangle.left.1, rectangle.right.1, leftIs, rightIs]
    omega
  have height : blend.bottom - blend.top = (lastY - firstY : Nat) := by
    have topIs := fbY_eq client cursor (by omega) (rectangle.top.1 ▸ rectangle.top.2)
    have bottomIs := fbY_eq client cursor (by omega) (rectangle.bottom.1 ▸ rectangle.bottom.2)
    rw [rectangle.top.1, rectangle.bottom.1, topIs, bottomIs]
    omega
  rw [width, height]
  refine ⟨by omega, by omega, cursor, present, ?_⟩
  rw [agrees.scratchBuffer]
  have entries : (lastX - firstX + 1) * (lastY - firstY + 1) ≤ cursor.width * cursor.height :=
    Nat.mul_le_mul (by omega) (by omega)
  exact_mod_cast entries

theorem cursorUpload_within (sound : Sound client) (connected : client.connected)
    (indexable : Indexable client) : ∀ access ∈ uploadCursor client, Within client access := by
  intro access member
  unfold uploadCursor at member
  split at member
  · next cursor present =>
    have blended := blended_blendCursor sound connected indexable present
    rcases List.mem_append.mp member with blending | uploading
    · exact blended.within access blending
    · split at uploading
      · next drawn =>
        cases List.mem_singleton.mp uploading
        rcases blended.corners with ⟨noLeft, -, -⟩ | ⟨firstX, firstY, lastX, lastY, rectangle⟩
        · omega
        · exact rectangle.within sound present
      · cases uploading
  · cases member

end Blending

/-! ### Every run -/

/-- The event does not allocate a framebuffer of more than `2^31` pixels. -/
def FewPixels (sizeMax : Nat) (client : Client) (event : Event) : Prop :=
  event = .mallocFrameBuffer true → requestedSize client < sizeMax →
    client.width * client.height ≤ 2 ^ 31

/-- Where `SIZE_MAX` has 32 bits, no larger framebuffer is ever allocated. -/
theorem fewPixels_of_narrow {sizeMax : Nat} (narrow : sizeMax ≤ 2 ^ 32) (client : Client)
    (event : Event) : FewPixels sizeMax client event := by
  intro _ small
  unfold requestedSize at small
  omega

theorem indexable_step (sizeMax : Nat) (client : Client) (event : Event)
    (indexable : Indexable client) (few : FewPixels sizeMax client event) :
    Indexable (step sizeMax client event) := by
  cases event with
  | resize width height => exact indexable
  | mallocFrameBuffer allocated =>
    show Indexable (onMallocFrameBuffer sizeMax client allocated)
    unfold onMallocFrameBuffer
    split
    · exact indexable
    · next small =>
      split
      · next succeeded =>
        subst succeeded
        intro _
        show (client.width : Int) * client.height ≤ 2 ^ 31
        exact_mod_cast few rfl (Nat.not_le.mp small)
      · intro _
        show (0 : Int) * 0 ≤ 2 ^ 31
        decide
  | cursorShape rcSource rcMask xHot yHot width height =>
    show Indexable (handleCursorShape client rcSource rcMask _ _ _ _)
    unfold handleCursorShape
    split
    · exact indexable
    · split <;> exact indexable
  | movePointer x y => exact indexable
  | uploadFrameTexture => exact indexable
  | uploadCursor => exact indexable

theorem faults_perform {client : Client} {accesses : List Access} (clean : client.faults = [])
    (within : ∀ access ∈ accesses, Within client access) :
    (client.perform accesses).faults = [] := by
  unfold Client.perform
  rw [clean, List.nil_append, List.filter_eq_nil_iff]
  intro access member
  simpa using within access member

theorem faults_step (sizeMax : Nat) (client : Client) (event : Event) (sound : Sound client)
    (indexable : Indexable client) (clean : client.faults = [])
    (allowed : enabled client event) : (step sizeMax client event).faults = [] := by
  cases event with
  | resize width height => exact clean
  | mallocFrameBuffer allocated =>
    show (onMallocFrameBuffer sizeMax client allocated).faults = []
    unfold onMallocFrameBuffer
    split
    · exact clean
    · split <;> exact clean
  | cursorShape rcSource rcMask xHot yHot width height =>
    show (handleCursorShape client rcSource rcMask _ _ _ _).faults = []
    unfold handleCursorShape
    split
    · exact clean
    · split <;> exact clean
  | movePointer x y => exact clean
  | uploadFrameTexture => exact faults_perform clean (frameTexture_within sound allowed)
  | uploadCursor => exact faults_perform clean (cursorUpload_within sound allowed indexable)

/-- In every run that allocates no framebuffer of more than `2^31` pixels, the sizes agree in
every state in which the renderer can run, and no upload has missed its buffers. -/
theorem render_within_buffers (sizeMax : Nat) (useLocalCursor : Bool)
    (garbageWidth garbageHeight : Int) (events : List Event)
    (run : ((machine sizeMax useLocalCursor garbageWidth garbageHeight).restrict
      (FewPixels sizeMax)).Run events) :
    let client := (machine sizeMax useLocalCursor garbageWidth garbageHeight).after events
    (client.connected → SizesAgree client) ∧ client.faults = [] := by
  intro client
  have held : Sound client ∧ Indexable client ∧ client.faults = [] := by
    refine Machine.Run.invariant_of_condition
      (fun client => Sound client ∧ Indexable client ∧ client.faults = []) ⟨?_, ?_, rfl⟩ ?_ run
    · exact sound_start sizeMax useLocalCursor garbageWidth garbageHeight
    · exact fun connected => absurd connected Bool.false_ne_true
    · rintro client event ⟨sound, indexable, clean⟩ allowed few
      exact ⟨sound_step sizeMax client event sound allowed,
        indexable_step sizeMax client event indexable few,
        faults_step sizeMax client event sound indexable clean allowed⟩
  exact ⟨held.1.sizesAgree, held.2.2⟩

/-- A run in which the published size changes between the uploads and an allocation fails. -/
def resizedRun : List Event :=
  [.resize 4 3, .mallocFrameBuffer true, .cursorShape 6 [1, 0, 1, 0, 0, 1] 1 1 2 3,
    .movePointer 3 0, .uploadFrameTexture, .resize 2 2, .uploadCursor, .mallocFrameBuffer true,
    .uploadCursor, .mallocFrameBuffer false, .uploadFrameTexture, .uploadCursor]

instance (sizeMax : Nat) (client : Client) (event : Event) :
    Decidable (FewPixels sizeMax client event) :=
  inferInstanceAs (Decidable (_ → _ → _))

theorem render_within_buffers_resized :
    ((machine (2 ^ 64 - 1) true 7 (-1)).restrict (FewPixels (2 ^ 64 - 1))).Run resizedRun ∧
      let client := (machine (2 ^ 64 - 1) true 7 (-1)).after resizedRun
      (client.connected → SizesAgree client) ∧ client.faults = [] :=
  have run : ((machine (2 ^ 64 - 1) true 7 (-1)).restrict (FewPixels (2 ^ 64 - 1))).Run
      resizedRun := by
    decide +kernel
  ⟨run, render_within_buffers _ _ _ _ _ run⟩

/-- A framebuffer of 65535 by 65535 pixels, and a cursor with one transparent pixel over the
last pixel of it. -/
def hugeRun : List Event :=
  [.resize 65535 65535, .mallocFrameBuffer true, .cursorShape 1 [0] 0 0 1 1,
    .movePointer 65534 65534, .uploadCursor]

theorem render_misses_huge_framebuffer :
    (machine (2 ^ 64 - 1) true 0 0).Run hugeRun ∧
      ((machine (2 ^ 64 - 1) true 0 0).after hugeRun).faults ≠ [] := by
  decide +kernel

end TermPlux.NativeVnc
