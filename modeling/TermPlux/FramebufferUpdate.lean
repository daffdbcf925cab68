/-
This file models how the client library handles a framebuffer update of the server:
the message announces a number of rectangles, and each brings its encoding along.
Encodings that need a decompression library, cursor shapes, extensions and the
other messages are a parameter.

Whatever the server sends, the modelled decoders read no block that is larger than
the buffer of the client, and no pixel is written behind the end of the framebuffer.
-/

import TermPlux.HextileEncoding

namespace TermPlux.Rfb

open Raster

variable {size : Nat}

/-! ### The client -/

/-- What a framebuffer update changes in the client. -/
structure RfbClient (size : Nat) where
  buffer : FrameBuffer (PixelBytes size)
  /-- The last position that was passed to `HandleCursorPos`. -/
  cursorPos : Option (Nat × Nat) := none
  CurrentKeyboardLedState : Option Nat := none

/-- What is not modelled of the client: the framebuffers that can be allocated, the foreground
colour of hextile encoding before it is set, the other encodings, and the other messages. -/
structure Surroundings (size : Nat) where
  allocates : Nat → Nat → Bool
  sized : ∀ {width height : Nat}, allocates width height = true →
    FrameBuffer.Sized (PixelBytes size) width height
  unset : PixelBytes size
  handleEncoding : Rectangle → Nat → RfbClient size → Decoder (RfbClient size)
  handleMessage : Nat → RfbClient size → Decoder (RfbClient size)

def rfbEncodingCopyRect : Nat := 1

def rfbEncodingXCursor : Nat := 0xFFFFFF10

def rfbEncodingRichCursor : Nat := 0xFFFFFF11

def rfbEncodingPointerPos : Nat := 0xFFFFFF18

def rfbEncodingLastRect : Nat := 0xFFFFFF20

def rfbEncodingNewFBSize : Nat := 0xFFFFFF21

def rfbEncodingExtDesktopSize : Nat := 0xFFFFFECC

def rfbEncodingKeyboardLedState : Nat := 0xFFFE0000

def rfbEncodingSupportedMessages : Nat := 0xFFFE0001

def rfbEncodingSupportedEncodings : Nat := 0xFFFE0002

def rfbEncodingServerIdentity : Nat := 0xFFFE0003

def rfbEncodingUltraZip : Nat := 0xFFFF0009

def sz_rfbSupportedMessages : Nat := 64

def sz_rfbCopyRect : Nat := 4

/-- `onMallocFrameBuffer` clears the new framebuffer. -/
def RfbClient.ResizeClientBuffer (surroundings : Surroundings size) (width height : Nat)
    (client : RfbClient size) : Decoder (RfbClient size) :=
  if allocated : surroundings.allocates width height then
    pure { client with
      buffer := ⟨width, height, fun _ => List.Vector.replicate size 0, surroundings.sized allocated⟩ }
  else .fail

/-- What is drawn by an encoding of pixels. -/
def drawRectangle (surroundings : Surroundings size) (rect : Rectangle) (encoding : Nat)
    (client : RfbClient size) : Decoder (RfbClient size) :=
  let draw := fun buffer => ({ client with buffer } : RfbClient size)
  if encoding = rfbEncodingRaw then do
    let buffer ← HandleRaw rect.x rect.y rect.w rect.h client.buffer
    pure (draw buffer)
  else if encoding = rfbEncodingCopyRect then
    .read sz_rfbCopyRect fun cr =>
      pure (draw (client.buffer.CopyRectangleFromRectangle (field cr.toList 0 2)
        (field cr.toList 2 2) rect.w rect.h rect.x rect.y))
  else if encoding = rfbEncodingRRE then do
    let buffer ← HandleRRE rect.x rect.y rect.w rect.h client.buffer
    pure (draw buffer)
  else if encoding = rfbEncodingCoRRE then do
    let buffer ← HandleCoRRE rect.x rect.y rect.w rect.h client.buffer
    pure (draw buffer)
  else if encoding = rfbEncodingHextile then do
    let buffer ← HandleHextile surroundings.unset rect.x rect.y rect.w rect.h client.buffer
    pure (draw buffer)
  else surroundings.handleEncoding rect encoding client

/-- What the client does for a rectangle whose header it has read. -/
def handleRectangle (surroundings : Surroundings size) (rect : Rectangle) (encoding : Nat)
    (client : RfbClient size) : Decoder (RfbClient size) :=
  if encoding = rfbEncodingXCursor ∨ encoding = rfbEncodingRichCursor then
    surroundings.handleEncoding rect encoding client
  else if encoding = rfbEncodingPointerPos then
    pure { client with cursorPos := some (rect.x, rect.y) }
  else if encoding = rfbEncodingKeyboardLedState then
    pure { client with CurrentKeyboardLedState := some rect.x }
  else if encoding = rfbEncodingNewFBSize then
    client.ResizeClientBuffer surroundings rect.w rect.h
  else if encoding = rfbEncodingExtDesktopSize then
    surroundings.handleEncoding rect encoding client
  else if encoding = rfbEncodingSupportedMessages then
    .read sz_rfbSupportedMessages fun _ => pure client
  else if encoding = rfbEncodingSupportedEncodings then .read rect.w fun _ => pure client
  else if encoding = rfbEncodingServerIdentity then .read rect.w fun _ => pure client
  else if encoding ≠ rfbEncodingUltraZip ∧
      (rect.x + rect.w > client.buffer.width ∨ rect.y + rect.h > client.buffer.height) then .fail
  else drawRectangle surroundings rect encoding client

/-- The loop over the rectangles, of which so many are announced. -/
def readRectangles (surroundings : Surroundings size) :
    Nat → RfbClient size → Decoder (RfbClient size)
  | 0, client => pure client
  | left + 1, client =>
    .read sz_rfbFramebufferUpdateRectHeader fun rect =>
      let encoding := field rect.toList 8 4
      if encoding = rfbEncodingLastRect then pure client
      else
        handleRectangle surroundings
          ⟨field rect.toList 0 2, field rect.toList 2 2, field rect.toList 4 2, field rect.toList 6 2⟩
          encoding client >>= readRectangles surroundings left

/-- A framebuffer update, whose type was read. -/
def HandleFramebufferUpdate (surroundings : Surroundings size) (client : RfbClient size) :
    Decoder (RfbClient size) :=
  .read 3 fun msg => readRectangles surroundings (field msg.toList 1 2) client

def rfbFramebufferUpdate : Nat := 0

def HandleRFBServerMessage (surroundings : Surroundings size) (client : RfbClient size) :
    Decoder (RfbClient size) :=
  .read 1 fun type =>
    if bigEndian type.toList = rfbFramebufferUpdate then
      HandleFramebufferUpdate surroundings client
    else surroundings.handleMessage (bigEndian type.toList) client

/-- So many messages, one after the other. -/
def handleMessages (surroundings : Surroundings size) :
    Nat → RfbClient size → Decoder (RfbClient size)
  | 0, client => pure client
  | left + 1, client =>
    HandleRFBServerMessage surroundings client >>= handleMessages surroundings left

/-! ### No block is too large -/

variable {surroundings : Surroundings size}

/-- A decoder that is not modelled. -/
def Surroundings.Foreign (surroundings : Surroundings size) (decoder : Decoder (RfbClient size)) :
    Prop :=
  (∃ rect encoding client, surroundings.handleEncoding rect encoding client = decoder) ∨
    ∃ type client, surroundings.handleMessage type client = decoder

/-- The blocks that the modelled decoders read fit into the buffer of the client. -/
def Surroundings.Buffered (surroundings : Surroundings size)
    (decoder : Decoder (RfbClient size)) : Prop :=
  decoder.ReadsWithin RFB_BUFFER_SIZE surroundings.Foreign

theorem buffered_handleEncoding (rect : Rectangle) (encoding : Nat) (client : RfbClient size) :
    surroundings.Buffered (surroundings.handleEncoding rect encoding client) :=
  .of_foreign (Or.inl ⟨rect, encoding, client, rfl⟩)

theorem buffered_drawRectangle (format : size ≤ 4) (rect : Rectangle) (encoding : Nat)
    (client : RfbClient size) :
    surroundings.Buffered (drawRectangle surroundings rect encoding client) := by
  unfold drawRectangle
  dsimp only
  split_ifs
  · exact .of_readsAtMost ((readsAtMost_handleRaw _ _ _ _ _).bind fun _ => trivial)
  · exact .of_readsAtMost ⟨by decide, fun _ => trivial⟩
  · exact .of_readsAtMost ((readsAtMost_handleRRE _ _ _ _ _ format).bind fun _ => trivial)
  · exact .of_readsAtMost ((readsAtMost_handleCoRRE _ _ _ _ _ format).bind fun _ => trivial)
  · exact .of_readsAtMost ((readsAtMost_handleHextile _ _ _ _ _ _ format).bind fun _ => trivial)
  · exact buffered_handleEncoding rect encoding client

theorem buffered_handleRectangle (format : size ≤ 4) {rect : Rectangle}
    (wide : rect.w ≤ RFB_BUFFER_SIZE) (encoding : Nat) (client : RfbClient size) :
    surroundings.Buffered (handleRectangle surroundings rect encoding client) := by
  unfold handleRectangle RfbClient.ResizeClientBuffer
  split_ifs
  · exact buffered_handleEncoding rect encoding client
  · exact .done _
  · exact .done _
  · exact .done _
  · exact .fail
  · exact buffered_handleEncoding rect encoding client
  · exact .read (by decide) fun _ => .done _
  · exact .read wide fun _ => .done _
  · exact .read wide fun _ => .done _
  · exact .fail
  · exact buffered_drawRectangle format rect encoding client

theorem buffered_readRectangles (format : size ≤ 4) (left : Nat) (client : RfbClient size) :
    surroundings.Buffered (readRectangles surroundings left client) := by
  induction left generalizing client with
  | zero => exact .done _
  | succ left inductionHypothesis =>
    refine .read (by decide) fun rect => ?_
    dsimp only
    split
    · exact .done _
    · have wide : field rect.toList 4 2 ≤ RFB_BUFFER_SIZE :=
        (field_lt rect.toList 4 2).le.trans (by decide)
      exact (buffered_handleRectangle format wide _ client).bind inductionHypothesis

theorem buffered_handleMessages (format : size ≤ 4) (left : Nat) (client : RfbClient size) :
    surroundings.Buffered (handleMessages surroundings left client) := by
  induction left generalizing client with
  | zero => exact .done _
  | succ left inductionHypothesis =>
    have first : surroundings.Buffered (HandleRFBServerMessage surroundings client) := by
      refine .read (by decide) fun type => ?_
      split
      · exact .read (by decide) fun msg => buffered_readRectangles format _ client
      · exact .of_foreign (Or.inr ⟨_, client, rfl⟩)
    exact first.bind inductionHypothesis

/-! ### Nothing is written behind the framebuffer -/

/-- A property of framebuffers that no drawing operation destroys. -/
structure Lasting (holds : FrameBuffer (PixelBytes size) → Prop) : Prop where
  fill : ∀ (buffer : FrameBuffer (PixelBytes size)) (x y w h : Nat) (colour : PixelBytes size),
    holds buffer → holds (buffer.FillRectangle x y w h colour)
  copy : ∀ (buffer : FrameBuffer (PixelBytes size)) (bitmap : Nat → PixelBytes size)
    (x y w h : Nat), holds buffer → holds (buffer.CopyRectangle bitmap x y w h)
  move : ∀ (buffer : FrameBuffer (PixelBytes size)) (src_x src_y w h dest_x dest_y : Nat),
    holds buffer →
      holds (buffer.CopyRectangleFromRectangle src_x src_y w h dest_x dest_y)

section Lasting

variable {holds : FrameBuffer (PixelBytes size) → Prop} {buffer : FrameBuffer (PixelBytes size)}

theorem ensures_readLines (lasting : Lasting holds) {x w rounds linesToRead y h : Nat}
    (fine : holds buffer) : (readLines x w rounds linesToRead y h buffer).Ensures holds := by
  induction rounds generalizing linesToRead y h buffer with
  | zero => exact fine
  | succ rounds inductionHypothesis =>
    rw [readLines]
    split
    · exact fun bytes => inductionHypothesis (lasting.copy _ _ _ _ _ _ fine)
    · exact fine

theorem ensures_rreSubrects (lasting : Lasting holds) (rx ry left : Nat) (fine : holds buffer) :
    (rreSubrects rx ry left buffer).Ensures holds := by
  induction left generalizing buffer with
  | zero => exact fine
  | succ left inductionHypothesis =>
    exact fun pix subrect => inductionHypothesis (lasting.fill _ _ _ _ _ _ fine)

theorem holds_correSubrects (lasting : Lasting holds) (rx ry left : Nat) (ptr : List UInt8)
    (fine : holds buffer) : holds (correSubrects rx ry left ptr buffer) := by
  induction left generalizing ptr buffer with
  | zero => exact fine
  | succ left inductionHypothesis => exact inductionHypothesis _ (lasting.fill _ _ _ _ _ _ fine)

theorem ensures_handleCoRRE (lasting : Lasting holds) (rx ry rw rh : Nat) (fine : holds buffer) :
    (HandleCoRRE rx ry rw rh buffer).Ensures holds := by
  intro hdr pix
  unfold readCorreSubrects
  split
  · trivial
  · exact fun bytes => holds_correSubrects lasting _ _ _ _ (lasting.fill _ _ _ _ _ _ fine)

variable {reader : HextileReader size}

theorem holds_hextileSubrects (lasting : Lasting holds) (coloured : Bool) (x y left : Nat)
    (ptr : List UInt8) (fine : holds reader.buffer) :
    holds (hextileSubrects coloured x y left ptr reader).buffer := by
  induction left generalizing ptr reader with
  | zero => exact fine
  | succ left inductionHypothesis => exact inductionHypothesis _ (lasting.fill _ _ _ _ _ _ fine)

theorem ensures_readSubencoded (lasting : Lasting holds) (tile : Rectangle) (flags : UInt8)
    (fine : holds reader.buffer) :
    (readSubencoded tile flags reader).Ensures fun reader => holds reader.buffer := by
  have any (specified : Bool) (last : PixelBytes size) :
      (readPixel specified last).Ensures fun _ => True := by
    cases specified
    · trivial
    · exact fun _ => trivial
  unfold readSubencoded
  split
  · exact fun bytes => lasting.copy _ _ _ _ _ _ fine
  · refine (any _ _).bind fun bg _ => (any _ _).bind fun fg _ => ?_
    split
    · exact lasting.fill _ _ _ _ _ _ fine
    · exact fun nSubrects bytes =>
        holds_hextileSubrects lasting _ _ _ _ _ (lasting.fill _ _ _ _ _ _ fine)

theorem ensures_readTiles (lasting : Lasting holds) (tiles : List Rectangle)
    (fine : holds reader.buffer) :
    (readTiles tiles reader).Ensures fun reader => holds reader.buffer := by
  induction tiles generalizing reader with
  | nil => exact fine
  | cons tile tiles inductionHypothesis =>
    have first : (readTile tile reader).Ensures fun reader => holds reader.buffer :=
      fun _ => ensures_readSubencoded lasting tile _ fine
    exact first.bind fun later kept => inductionHypothesis kept

theorem ensures_drawRectangle (lasting : Lasting holds)
    (others : ∀ rect encoding client, holds client.buffer →
      (surroundings.handleEncoding rect encoding client).Ensures fun client => holds client.buffer)
    (rect : Rectangle) (encoding : Nat) {client : RfbClient size} (fine : holds client.buffer) :
    (drawRectangle surroundings rect encoding client).Ensures fun client => holds client.buffer := by
  unfold drawRectangle
  dsimp only
  split_ifs
  · exact (ensures_readLines lasting fine).bind fun _ kept => kept
  · exact fun cr => lasting.move _ _ _ _ _ _ _ fine
  · have read : (HandleRRE rect.x rect.y rect.w rect.h client.buffer).Ensures holds :=
      fun hdr pix => ensures_rreSubrects lasting _ _ _ (lasting.fill _ _ _ _ _ _ fine)
    exact read.bind fun _ kept => kept
  · exact (ensures_handleCoRRE lasting _ _ _ _ fine).bind fun _ kept => kept
  · have tiles := @ensures_readTiles _ _ ⟨List.Vector.replicate size 0, surroundings.unset,
      client.buffer⟩ lasting (hextiles rect.x rect.y rect.w rect.h) fine
    have read : (HandleHextile surroundings.unset rect.x rect.y rect.w rect.h
        client.buffer).Ensures holds := tiles.bind fun _ kept => kept
    exact read.bind fun _ kept => kept
  · exact others rect encoding client fine

end Lasting

/-- What lies behind the framebuffer is as it was when the framebuffer was allocated. -/
def Untouched (buffer : FrameBuffer (PixelBytes size)) : Prop :=
  ∀ index, buffer.width * buffer.height ≤ index →
    buffer.pixels index = List.Vector.replicate size 0

theorem lasting_untouched : Lasting (@Untouched size) where
  fill := by
    intro buffer x y w h colour untouched index beyond
    rw [FrameBuffer.width_fillRectangle, FrameBuffer.height_fillRectangle] at beyond
    rw [(FrameBuffer.drawing_stays_inside buffer beyond).1]
    exact untouched index beyond
  copy := by
    intro buffer bitmap x y w h untouched index beyond
    rw [FrameBuffer.width_copyRectangle, FrameBuffer.height_copyRectangle] at beyond
    rw [(FrameBuffer.drawing_stays_inside buffer beyond).2.1]
    exact untouched index beyond
  move := by
    intro buffer src_x src_y w h dest_x dest_y untouched index beyond
    rw [FrameBuffer.width_copyRectangleFromRectangle,
      FrameBuffer.height_copyRectangleFromRectangle] at beyond
    rw [(FrameBuffer.drawing_stays_inside buffer beyond).2.2]
    exact untouched index beyond

/-- What is not modelled writes nothing behind the framebuffer either. -/
def Surroundings.Careful (surroundings : Surroundings size) : Prop :=
  (∀ rect encoding client, Untouched client.buffer →
    (surroundings.handleEncoding rect encoding client).Ensures fun client =>
      Untouched client.buffer) ∧
    ∀ type client, Untouched client.buffer →
      (surroundings.handleMessage type client).Ensures fun client => Untouched client.buffer

theorem ensures_handleRectangle (careful : surroundings.Careful) (rect : Rectangle)
    (encoding : Nat) {client : RfbClient size} (fine : Untouched client.buffer) :
    (handleRectangle surroundings rect encoding client).Ensures fun client =>
      Untouched client.buffer := by
  unfold handleRectangle RfbClient.ResizeClientBuffer
  split_ifs
  · exact careful.1 rect encoding client fine
  · exact fine
  · exact fine
  · exact fun _ _ => rfl
  · trivial
  · exact careful.1 rect encoding client fine
  · exact fun _ => fine
  · exact fun _ => fine
  · exact fun _ => fine
  · trivial
  · exact ensures_drawRectangle lasting_untouched careful.1 rect encoding fine

theorem ensures_readRectangles (careful : surroundings.Careful) (left : Nat)
    {client : RfbClient size} (fine : Untouched client.buffer) :
    (readRectangles surroundings left client).Ensures fun client => Untouched client.buffer := by
  induction left generalizing client with
  | zero => exact fine
  | succ left inductionHypothesis =>
    intro rect
    dsimp only
    split
    · exact fine
    · exact (ensures_handleRectangle careful _ _ fine).bind fun _ kept => inductionHypothesis kept

theorem ensures_handleMessages (careful : surroundings.Careful) (left : Nat)
    {client : RfbClient size} (fine : Untouched client.buffer) :
    (handleMessages surroundings left client).Ensures fun client => Untouched client.buffer := by
  induction left generalizing client with
  | zero => exact fine
  | succ left inductionHypothesis =>
    have first : (HandleRFBServerMessage surroundings client).Ensures fun client =>
        Untouched client.buffer := by
      intro type
      dsimp only
      split
      · exact fun msg => ensures_readRectangles careful _ fine
      · exact careful.2 _ client fine
    exact first.bind fun _ kept => inductionHypothesis kept

/-- Whatever the server sends, in however many messages: no block is read that is larger than the
buffer of the client, apart from what is not modelled, and nothing is written behind the end of the
framebuffer. -/
theorem messages_stay_inside (careful : surroundings.Careful) (format : size ≤ 4) (count : Nat)
    {client : RfbClient size} (fine : Untouched client.buffer) :
    (handleMessages surroundings count client).ReadsWithin RFB_BUFFER_SIZE surroundings.Foreign ∧
      ∀ bytes rest later,
        (handleMessages surroundings count client).run bytes = some (later, rest) →
          Untouched later.buffer :=
  ⟨buffered_handleMessages format count client,
    fun _ _ _ ran => (ensures_handleMessages careful count fine).of_run ran⟩

/-- A client that knows no other encodings and messages. -/
def plainSurroundings : Surroundings 1 where
  allocates width height := decide (FrameBuffer.Sized (PixelBytes 1) width height)
  sized := of_decide_eq_true
  unset := List.Vector.replicate 1 0
  handleEncoding := fun _ _ _ => .fail
  handleMessage := fun _ _ => .fail

/-- The framebuffer of a client, before anything is drawn. -/
def clearedClient (width height : Nat) (sized : FrameBuffer.Sized (PixelBytes 1) width height) :
    RfbClient 1 where
  buffer := ⟨width, height, fun _ => List.Vector.replicate 1 0, sized⟩

theorem messages_stay_inside_plain :
    (handleMessages plainSurroundings 3 (clearedClient 2 2 (by decide))).ReadsWithin RFB_BUFFER_SIZE
        plainSurroundings.Foreign ∧
      ∀ bytes rest later,
        (handleMessages plainSurroundings 3 (clearedClient 2 2 (by decide))).run bytes =
            some (later, rest) → Untouched later.buffer := by
  have careful : plainSurroundings.Careful := ⟨fun _ _ _ _ => trivial, fun _ _ _ => trivial⟩
  exact messages_stay_inside careful (by decide) 3 fun _ _ => rfl

end TermPlux.Rfb
