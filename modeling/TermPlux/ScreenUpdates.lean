/-
This file models the framebuffer updates that the server library sends: a region
that was moved on the screen, and a region whose pixels are sent in the encoding
that the client prefers.

A client that shows the screen as it was shows it as it is when it has handled an
update, and so it does after any number of updates: it reads exactly what was sent
for each of them.
-/

import TermPlux.CopyRegion

namespace TermPlux.Rfb

open Raster

variable {size : Nat}

/-! ### The server -/

/-- The encodings of pixels that are modelled. -/
inductive PreferredEncoding
  | raw
  | rre
  | coRRE
  | hextile
  deriving DecidableEq

/-- A rectangle in the encoding that the client prefers. -/
def sendRectangle (encoding : PreferredEncoding) (screen : Screen size) (afterEncBufSize : Nat)
    (rect : Rectangle) : Option (List UInt8) :=
  match encoding with
  | .raw => rfbSendRectEncodingRaw screen rect.x rect.y rect.w rect.h
  | .rre => rfbSendRectEncodingRRE screen afterEncBufSize rect.x rect.y rect.w rect.h
  | .coRRE => some (rfbSendRectEncodingCoRRE screen afterEncBufSize rect.x rect.y rect.w rect.h)
  | .hextile => some (rfbSendRectEncodingHextile screen rect.x rect.y rect.w rect.h)

/-- How many rectangles the client will find. -/
def countRectangle (encoding : PreferredEncoding) (rect : Rectangle) : Nat :=
  match encoding with
  | .coRRE =>
    let rectsPerRow := (rect.w - 1) / correMaxWidth + 1
    let rows := (rect.h - 1) / correMaxHeight + 1
    rectsPerRow * rows
  | _ => 1

/-- The rectangles of a region, unless one cannot be sent. -/
def sendRectangles (encoding : PreferredEncoding) (screen : Screen size) (afterEncBufSize : Nat) :
    List Rectangle → Option (List UInt8)
  | [] => some []
  | rect :: rects =>
    (sendRectangle encoding screen afterEncBufSize rect).bind fun first =>
      (sendRectangles encoding screen afterEncBufSize rects).map (first ++ ·)

/-- A rectangle that was moved by `dx` and `dy`. -/
def sendCopyRect (dx dy : Int) (rect : Rectangle) : List UInt8 :=
  rectHeader rect.x rect.y rect.w rect.h rfbEncodingCopyRect ++
    (bigEndianBytes 2 ((rect.x - dx) % 2 ^ 16).toNat ++
      bigEndianBytes 2 ((rect.y - dy) % 2 ^ 16).toNat)

/-- The rectangles of a region that was moved, behind `ublen` bytes of the buffer. The code does not
check that there is room for them, so that nothing is known where there is none. -/
def rfbSendCopyRegion (ublen : Nat) (region : Region) (dx dy : Int) : Option (List UInt8) :=
  let sent :=
    (region.rectangles (decide (dx > 0)) (decide (dy > 0))).flatMap (sendCopyRect dx dy)
  if ublen + sent.length ≤ UPDATE_BUF_SIZE then some sent else none

/-- What an update says: the screen as it is now, the region that was moved and how far, and the
region whose pixels are sent. -/
structure Update (size : Nat) where
  screen : Screen size
  updateCopyRegion : Region
  dx : Int
  dy : Int
  updateRegion : Region

def rfbSendLastRectMarker : List UInt8 := rectHeader 0 0 0 0 rfbEncodingLastRect

def sz_rfbFramebufferUpdateMsg : Nat := 4

/-- `rfbSendFramebufferUpdate`, as far as it sends. `pad` is not initialized. -/
def Update.send (update : Update size) (encoding : PreferredEncoding) (afterEncBufSize : Nat)
    (pad : UInt8) : Option (List UInt8) :=
  let rects := update.updateRegion.rectangles false false
  let copies := update.updateCopyRegion.rectangles false false
  let nUpdateRegionRects := (rects.map (countRectangle encoding)).sum
  let nRects :=
    if nUpdateRegionRects ≠ 0xFFFF then (copies.length + nUpdateRegionRects) % 2 ^ 16 else 0xFFFF
  (rfbSendCopyRegion sz_rfbFramebufferUpdateMsg update.updateCopyRegion update.dx update.dy).bind
    fun moved =>
      (sendRectangles encoding update.screen afterEncBufSize rects).map fun body =>
        bigEndianBytes 1 rfbFramebufferUpdate ++ ((pad :: bigEndianBytes 2 nRects) ++
          (moved ++ (body ++
            if nUpdateRegionRects = 0xFFFF then rfbSendLastRectMarker else [])))

/-- So many CopyRects are behind the header of an update when its buffer is full. -/
def maxCopyRects : Nat := 2047

/-- A region of few rectangles fits into the buffer, and no other one does. -/
theorem rfbSendCopyRegion_eq (region : Region) (dx dy : Int) :
    rfbSendCopyRegion sz_rfbFramebufferUpdateMsg region dx dy =
      if (region.rectangles false false).length ≤ maxCopyRects then
        some ((region.rectangles (decide (dx > 0)) (decide (dy > 0))).flatMap (sendCopyRect dx dy))
      else none := by
  have length : ((region.rectangles (decide (dx > 0)) (decide (dy > 0))).flatMap
      (sendCopyRect dx dy)).length = 16 * (region.rectangles false false).length := by
    have each (rects : List Rectangle) :
        (rects.flatMap (sendCopyRect dx dy)).length = 16 * rects.length := by
      induction rects with
      | nil => rfl
      | cons rect rects inductionHypothesis =>
        have first : (sendCopyRect dx dy rect).length = 16 := rfl
        rw [List.flatMap_cons, List.length_append, first, inductionHypothesis, List.length_cons]
        omega
    rw [each, region.length_rectangles]
  unfold rfbSendCopyRegion sz_rfbFramebufferUpdateMsg UPDATE_BUF_SIZE maxCopyRects
  dsimp only
  rw [length]
  refine if_congr ?_ rfl rfl
  omega

/-- Whatever the client prefers, a rectangle is sent if a line fits into the buffer. -/
theorem isSome_sendRectangle (format : 0 < size) {encoding : PreferredEncoding} {screen : Screen size}
    {afterEncBufSize : Nat} {rect : Rectangle} (fits : rect.w * size ≤ UPDATE_BUF_SIZE) :
    (sendRectangle encoding screen afterEncBufSize rect).isSome = true := by
  cases encoding with
  | raw => exact isSome_rfbSendRectEncodingRaw screen format fits
  | rre =>
    show (rfbSendRectEncodingRRE _ _ _ _ _ _).isSome = true
    unfold rfbSendRectEncodingRRE
    split
    · rfl
    · exact isSome_rfbSendRectEncodingRaw screen format fits
  | coRRE => rfl
  | hextile => rfl

theorem isSome_sendRectangles (format : 0 < size) {encoding : PreferredEncoding}
    {screen : Screen size} {afterEncBufSize : Nat} {rects : List Rectangle}
    (fit : ∀ rect ∈ rects, rect.w * size ≤ UPDATE_BUF_SIZE) :
    (sendRectangles encoding screen afterEncBufSize rects).isSome = true := by
  induction rects with
  | nil => rfl
  | cons rect rects inductionHypothesis =>
    obtain ⟨first, sent⟩ := Option.isSome_iff_exists.mp (@isSome_sendRectangle _ format encoding
      screen afterEncBufSize rect (fit rect List.mem_cons_self))
    rw [sendRectangles, sent, Option.bind_some, Option.isSome_map]
    exact inductionHypothesis fun other member => fit other (List.mem_cons_of_mem rect member)

/-- An update is sent if its CopyRects fit into the buffer, and the lines of all of its
rectangles. -/
theorem Update.isSome_send (update : Update size) (format : 0 < size) {encoding : PreferredEncoding}
    {afterEncBufSize : Nat} {pad : UInt8}
    (copies : (update.updateCopyRegion.rectangles false false).length ≤ maxCopyRects)
    (fit : ∀ rect ∈ update.updateRegion.rectangles false false, rect.w * size ≤ UPDATE_BUF_SIZE) :
    (update.send encoding afterEncBufSize pad).isSome = true := by
  unfold Update.send
  dsimp only
  rw [rfbSendCopyRegion_eq, if_pos copies, Option.bind_some, Option.isSome_map]
  exact isSome_sendRectangles format fit

/-! ### Reading the header of a rectangle -/

theorem length_rectHeader (x y w h encoding : Nat) :
    (rectHeader x y w h encoding).length = sz_rfbFramebufferUpdateRectHeader := rfl

theorem field_rectHeader {rect : Rectangle} (small : Small (256 ^ 2) rect) {encoding : Nat}
    (known : encoding < 256 ^ 4) :
    ((field (rectHeader rect.x rect.y rect.w rect.h encoding) 0 2 = rect.x ∧
        field (rectHeader rect.x rect.y rect.w rect.h encoding) 2 2 = rect.y) ∧
      field (rectHeader rect.x rect.y rect.w rect.h encoding) 4 2 = rect.w ∧
        field (rectHeader rect.x rect.y rect.w rect.h encoding) 6 2 = rect.h) ∧
      field (rectHeader rect.x rect.y rect.w rect.h encoding) 8 4 = encoding := by
  obtain ⟨⟨left, top⟩, wide, high⟩ := small
  have length (number : Nat) := length_bigEndianBytes 2 number
  unfold rectHeader
  refine ⟨⟨⟨?_, ?_⟩, ?_, ?_⟩, ?_⟩
  · rw [field_zero (length _), bigEndian_bigEndianBytes left]
  · rw [show 2 = 2 + 0 from rfl, field_add (length _), field_zero (length _),
      bigEndian_bigEndianBytes top]
  · rw [show 4 = 2 + (2 + 0) from rfl, field_add (length _), field_add (length _),
      field_zero (length _), bigEndian_bigEndianBytes wide]
  · rw [show 6 = 2 + (2 + (2 + 0)) from rfl, field_add (length _), field_add (length _),
      field_add (length _), field_zero (length _), bigEndian_bigEndianBytes high]
  · rw [show 8 = 2 + (2 + (2 + (2 + 0))) from rfl, field_add (length _), field_add (length _),
      field_add (length _), field_add (length _), ← List.append_nil (bigEndianBytes 4 encoding),
      field_zero (length_bigEndianBytes 4 encoding), bigEndian_bigEndianBytes known]

variable {surroundings : Surroundings size} {client : RfbClient size} {rect : Rectangle}

/-- The client reads the header of a rectangle, and handles it. -/
theorem run_readRectangles (small : Small (256 ^ 2) rect) {encoding : Nat} (drawn : encoding ≤ 5)
    (within : rect.Within client.buffer.width client.buffer.height) (left : Nat)
    (bytes : List UInt8) :
    (readRectangles surroundings (left + 1) client).run
        (rectHeader rect.x rect.y rect.w rect.h encoding ++ bytes) =
      (drawRectangle surroundings rect encoding client >>=
        readRectangles surroundings left).run bytes := by
  obtain ⟨⟨⟨x, y⟩, w, h⟩, number⟩ := field_rectHeader small (show encoding < 256 ^ 4 by omega)
  have handled : handleRectangle surroundings rect encoding client =
      drawRectangle surroundings rect encoding client := by
    have right := within.1
    have bottom := within.2
    unfold handleRectangle rfbEncodingXCursor rfbEncodingRichCursor rfbEncodingPointerPos
      rfbEncodingKeyboardLedState rfbEncodingNewFBSize rfbEncodingExtDesktopSize
      rfbEncodingSupportedMessages rfbEncodingSupportedEncodings rfbEncodingServerIdentity
    rw [if_neg (by omega), if_neg (by omega), if_neg (by omega), if_neg (by omega),
      if_neg (by omega), if_neg (by omega), if_neg (by omega), if_neg (by omega),
      if_neg (by omega)]
  rw [readRectangles, Decoder.run_read_append _ (length_rectHeader _ _ _ _ _)]
  show Decoder.run (if field (rectHeader rect.x rect.y rect.w rect.h encoding) 8 4 =
      rfbEncodingLastRect then _ else handleRectangle surroundings
        ⟨field (rectHeader rect.x rect.y rect.w rect.h encoding) 0 2,
          field (rectHeader rect.x rect.y rect.w rect.h encoding) 2 2,
          field (rectHeader rect.x rect.y rect.w rect.h encoding) 4 2,
          field (rectHeader rect.x rect.y rect.w rect.h encoding) 6 2⟩
        (field (rectHeader rect.x rect.y rect.w rect.h encoding) 8 4) client >>= _) bytes = _
  rw [number, x, y, w, h, if_neg (by unfold rfbEncodingLastRect; omega)]
  rw [← handled]

/-! ### What draws a region -/

/-- A client with a framebuffer of this size reads so many rectangles from these bytes, and draws a
region of the screen. -/
def Draws (surroundings : Surroundings size) (width height : Nat) (screen : Screen size)
    (count : Nat) (bytes : List UInt8) (region : Nat → Nat → Prop) : Prop :=
  ∀ (client : RfbClient size) (left : Nat) (rest : List UInt8),
    client.buffer.width = width → client.buffer.height = height →
      ∃ after, (readRectangles surroundings (count + left) client).run (bytes ++ rest) =
          (readRectangles surroundings left after).run rest ∧
        Drawn screen region client.buffer after.buffer

variable {width height : Nat} {screen : Screen size}

theorem Draws.nil : Draws surroundings width height screen 0 [] fun _ _ => False := by
  intro client left rest _ _
  rw [Nat.zero_add]
  exact ⟨client, rfl, Drawn.refl screen client.buffer⟩

theorem Draws.append {count count' : Nat} {bytes bytes' : List UInt8}
    {region region' : Nat → Nat → Prop}
    (draws : Draws surroundings width height screen count bytes region)
    (draws' : Draws surroundings width height screen count' bytes' region') :
    Draws surroundings width height screen (count + count') (bytes ++ bytes')
      fun column row => region column row ∨ region' column row := by
  intro client left rest wide high
  obtain ⟨between, ran, drawn⟩ := draws client (count' + left) (bytes' ++ rest) wide high
  obtain ⟨after, continued, drawn'⟩ := draws' between left rest (drawn.width.trans wide)
    (drawn.height.trans high)
  refine ⟨after, ?_, drawn.trans drawn'⟩
  rw [List.append_assoc, Nat.add_assoc, ran, continued]

theorem Draws.of_iff {count : Nat} {bytes : List UInt8} {region same : Nat → Nat → Prop}
    (draws : Draws surroundings width height screen count bytes region)
    (iff : ∀ column row, region column row ↔ same column row) :
    Draws surroundings width height screen count bytes same := by
  intro client left rest wide high
  obtain ⟨after, ran, drawn⟩ := draws client left rest wide high
  exact ⟨after, ran, drawn.of_iff iff⟩

/-- A rectangle whose encoding draws it. -/
theorem draws_rectangle (small : Small (256 ^ 2) rect) (within : rect.Within width height)
    {encoding : Nat} (known : encoding ≤ 5) {body : List UInt8}
    (draws : ∀ (client : RfbClient size) (rest : List UInt8), client.buffer.width = width →
      client.buffer.height = height →
        ∃ after, (drawRectangle surroundings rect encoding client).run (body ++ rest) =
            some (after, rest) ∧ Drawn screen rect.Contains client.buffer after.buffer) :
    Draws surroundings width height screen 1
      (rectHeader rect.x rect.y rect.w rect.h encoding ++ body) rect.Contains := by
  intro client left rest wide high
  obtain ⟨after, ran, drawn⟩ := draws client rest wide high
  refine ⟨after, ?_, drawn⟩
  rw [Nat.add_comm 1 left, List.append_assoc, run_readRectangles small known (by
    rw [wide, high]
    exact within), Decoder.run_bind_of_run ran]

/-- A handler of framebuffers, as part of `drawRectangle`. -/
theorem run_draw {handler : Decoder (FrameBuffer (PixelBytes size))} {bytes rest : List UInt8}
    {after : FrameBuffer (PixelBytes size)} (ran : handler.run bytes = some (after, rest)) :
    (handler >>= fun buffer => (pure { client with buffer } : Decoder (RfbClient size))).run bytes =
      some ({ client with buffer := after }, rest) :=
  Decoder.run_bind_of_run ran

/-! ### The encodings -/

/-- Raw encoding draws a rectangle. -/
theorem draws_raw (format : 0 < size ∧ size ≤ 4) (small : Small (256 ^ 2) rect)
    (within : rect.Within width height) (positive : 0 < rect.w ∧ 0 < rect.h) {bytes : List UInt8}
    (sent : rfbSendRectEncodingRaw screen rect.x rect.y rect.w rect.h = some bytes) :
    Draws surroundings width height screen 1 bytes rect.Contains := by
  rw [rfbSendRectEncodingRaw, if_neg (by omega)] at sent
  obtain ⟨pixels, lines, rfl⟩ := Option.map_eq_some_iff.mp sent
  rw [sendLines_spec lines]
  refine draws_rectangle small within (by decide) fun client rest wide high => ?_
  have line : 0 < rect.w * size := Nat.mul_pos positive.1 format.1
  have fits : rect.w * size ≤ RFB_BUFFER_SIZE :=
    (Nat.mul_le_mul small.2.1.le format.2).trans (by decide)
  obtain ⟨after, ran, drawn⟩ := @run_readLines _ screen rect.x rect.w rect.h
    (RFB_BUFFER_SIZE / (rect.w * size)) rect.y rect.h client.buffer (Nat.div_pos fits line) le_rfl
    (by rw [wide, high]; exact within) rest
  refine ⟨{ client with buffer := after }, ?_, drawn⟩
  have read : (HandleRaw rect.x rect.y rect.w rect.h client.buffer).run
      (pixelBytes (translateFn screen rect.x rect.y rect.w rect.h) ++ rest) =
        some (after, rest) := by
    unfold HandleRaw
    dsimp only
    rw [if_pos line.ne']
    exact ran
  exact run_draw read

/-- RRE encoding draws a rectangle, also where it falls back to raw encoding. -/
theorem draws_rre (format : 0 < size ∧ size ≤ 4) (small : Small (256 ^ 2) rect)
    (within : rect.Within width height) (positive : 0 < rect.w ∧ 0 < rect.h)
    {afterEncBufSize : Nat} {bytes : List UInt8}
    (sent : rfbSendRectEncodingRRE screen afterEncBufSize rect.x rect.y rect.w rect.h =
      some bytes) :
    Draws surroundings width height screen 1 bytes rect.Contains := by
  unfold rfbSendRectEncodingRRE at sent
  split at sent
  · next body encoded =>
    cases sent
    refine draws_rectangle small within (by decide) fun client rest wide high => ?_
    obtain ⟨after, ran, drawn⟩ := @run_handleRRE _ screen rect.x rect.y rect.w rect.h _
      client.buffer body encoded (by rw [wide, high]; exact within) small.2.1 small.2.2 rest
    exact ⟨{ client with buffer := after }, run_draw ran, drawn⟩
  · exact draws_raw format small within positive sent

/-- Hextile encoding draws a rectangle. -/
theorem draws_hextile (small : Small (256 ^ 2) rect) (within : rect.Within width height) :
    Draws surroundings width height screen 1
      (rfbSendRectEncodingHextile screen rect.x rect.y rect.w rect.h) rect.Contains := by
  refine draws_rectangle small within (by decide) fun client rest wide high => ?_
  obtain ⟨after, ran, drawn⟩ := @run_handleHextile _ screen surroundings.unset rect.x rect.y rect.w
    rect.h client.buffer (by rw [wide, high]; exact within) rest
  exact ⟨{ client with buffer := after }, run_draw ran, drawn⟩

/-- A small rectangle is always sent in CoRRE encoding, or else in raw encoding. -/
theorem draws_small (format : 0 < size ∧ size ≤ 4) (small : Small (256 ^ 2) rect)
    (within : rect.Within width height) (positive : 0 < rect.w ∧ 0 < rect.h)
    (narrow : rect.w ≤ correMaxWidth) (low : rect.h ≤ correMaxHeight) (afterEncBufSize : Nat) :
    Draws surroundings width height screen 1
      ((rfbSendSmallRectEncodingCoRRE screen afterEncBufSize rect.x rect.y rect.w rect.h).getD [])
      rect.Contains := by
  unfold rfbSendSmallRectEncodingCoRRE
  split
  · next body encoded =>
    refine draws_rectangle small within (by decide) fun client rest wide high => ?_
    obtain ⟨after, ran, drawn⟩ := @run_handleCoRRE _ screen rect.x rect.y rect.w rect.h _
      client.buffer body encoded (by rw [wide, high]; exact within)
      (narrow.trans_lt (by decide)) (low.trans_lt (by decide)) format.2 rest
    exact ⟨{ client with buffer := after }, run_draw ran, drawn⟩
  · have fits : rect.w * size ≤ UPDATE_BUF_SIZE :=
      (Nat.mul_le_mul narrow format.2).trans (by decide)
    obtain ⟨bytes, sent⟩ := Option.isSome_iff_exists.mp
      (@isSome_rfbSendRectEncodingRaw _ screen format.1 rect.x rect.y rect.w rect.h fits)
    rw [sent]
    exact draws_raw format small within positive sent

/-- The small rectangles of CoRRE encoding, one after the other. -/
theorem draws_smallRectangles (format : 0 < size ∧ size ≤ 4) (screen : Screen size)
    (afterEncBufSize : Nat) {rects : List Rectangle}
    (each : ∀ rect ∈ rects, (Small (256 ^ 2) rect ∧ rect.Within width height) ∧
      (0 < rect.w ∧ 0 < rect.h) ∧ rect.w ≤ correMaxWidth ∧ rect.h ≤ correMaxHeight) :
    Draws surroundings width height screen rects.length
      (rects.flatMap fun small =>
        (rfbSendSmallRectEncodingCoRRE screen afterEncBufSize small.x small.y small.w
          small.h).getD [])
      fun column row => ∃ rect ∈ rects, rect.Contains column row := by
  induction rects with
  | nil => exact Draws.nil.of_iff fun _ _ => by simp
  | cons rect rects inductionHypothesis =>
    obtain ⟨⟨small, within⟩, positive, narrow, low⟩ := each rect List.mem_cons_self
    have first : Draws surroundings width height screen 1 _ rect.Contains :=
      draws_small format small within positive narrow low afterEncBufSize
    have later := inductionHypothesis fun other member => each other (List.mem_cons_of_mem _ member)
    rw [List.length_cons, Nat.add_comm, List.flatMap_cons]
    exact (first.append later).of_iff fun column row => by
      rw [List.exists_mem_cons_iff]

/-- CoRRE encoding draws a rectangle, as the small ones that it announces. -/
theorem draws_coRRE (format : 0 < size ∧ size ≤ 4) (bounds : width < 256 ^ 2 ∧ height < 256 ^ 2)
    (within : rect.Within width height) (positive : 0 < rect.w ∧ 0 < rect.h)
    (afterEncBufSize : Nat) :
    Draws surroundings width height screen (countRectangle .coRRE rect)
      (rfbSendRectEncodingCoRRE screen afterEncBufSize rect.x rect.y rect.w rect.h)
      rect.Contains := by
  have each : ∀ part ∈ correRectangles rect.x rect.y rect.w rect.h,
      (Small (256 ^ 2) part ∧ part.Within width height) ∧ (0 < part.w ∧ 0 < part.h) ∧
        part.w ≤ correMaxWidth ∧ part.h ≤ correMaxHeight := by
    intro part member
    have inside := within_of_mem_correRectangles member within
    exact ⟨⟨small_of_within inside bounds.1 bounds.2, inside⟩,
      pos_of_mem_correRectangles member positive.1 positive.2, mem_correRectangles member⟩
  have draws : Draws surroundings width height screen _ _ _ :=
    draws_smallRectangles format screen afterEncBufSize each
  rw [length_correRectangles rect.x rect.y positive.1 positive.2] at draws
  exact draws.of_iff (contains_correRectangles rect.x rect.y rect.w rect.h)

/-- Whatever the client prefers, a rectangle that was sent is drawn. -/
theorem draws_sendRectangle (format : 0 < size ∧ size ≤ 4)
    (bounds : width < 256 ^ 2 ∧ height < 256 ^ 2) (within : rect.Within width height)
    (positive : 0 < rect.w ∧ 0 < rect.h) {encoding : PreferredEncoding} {afterEncBufSize : Nat}
    {bytes : List UInt8}
    (sent : sendRectangle encoding screen afterEncBufSize rect = some bytes) :
    Draws surroundings width height screen (countRectangle encoding rect) bytes rect.Contains := by
  have small := small_of_within within bounds.1 bounds.2
  cases encoding with
  | raw => exact draws_raw format small within positive sent
  | rre => exact draws_rre format small within positive sent
  | coRRE =>
    cases sent
    exact draws_coRRE format bounds within positive afterEncBufSize
  | hextile =>
    cases sent
    exact draws_hextile small within

/-- The rectangles of a region, one after the other. -/
theorem draws_sendRectangles (format : 0 < size ∧ size ≤ 4)
    (bounds : width < 256 ^ 2 ∧ height < 256 ^ 2) {encoding : PreferredEncoding}
    {afterEncBufSize : Nat} {rects : List Rectangle}
    (each : ∀ rect ∈ rects, rect.Within width height ∧ 0 < rect.w ∧ 0 < rect.h)
    {bytes : List UInt8}
    (sent : sendRectangles encoding screen afterEncBufSize rects = some bytes) :
    Draws surroundings width height screen ((rects.map (countRectangle encoding)).sum) bytes
      fun column row => ∃ rect ∈ rects, rect.Contains column row := by
  induction rects generalizing bytes with
  | nil =>
    cases sent
    exact Draws.nil.of_iff fun _ _ => by simp
  | cons rect rects inductionHypothesis =>
    obtain ⟨first, sentFirst, others⟩ := Option.bind_eq_some_iff.mp sent
    obtain ⟨later, sentLater, rfl⟩ := Option.map_eq_some_iff.mp others
    obtain ⟨within, positive⟩ := each rect List.mem_cons_self
    have drawn : Draws surroundings width height screen _ _ _ :=
      (draws_sendRectangle format bounds within positive sentFirst).append
        (inductionHypothesis (fun other member => each other (List.mem_cons_of_mem _ member))
          sentLater)
    exact drawn.of_iff fun column row => by rw [List.exists_mem_cons_iff]

/-! ### Reading a region that was moved -/

/-- The source of a rectangle travels as two numbers. -/
theorem field_copyRect {dx dy : Int} (bounds : width < 256 ^ 2 ∧ height < 256 ^ 2)
    (movable : Movable dx dy width height rect) :
    field (bigEndianBytes 2 ((rect.x - dx) % 2 ^ 16).toNat ++
        bigEndianBytes 2 ((rect.y - dy) % 2 ^ 16).toNat) 0 2 = (rect.x - dx).toNat ∧
      field (bigEndianBytes 2 ((rect.x - dx) % 2 ^ 16).toNat ++
        bigEndianBytes 2 ((rect.y - dy) % 2 ^ 16).toNat) 2 2 = (rect.y - dy).toNat := by
  obtain ⟨-, ⟨left, top⟩, right, bottom⟩ := movable
  dsimp only at right bottom
  have length (number : Nat) := length_bigEndianBytes 2 number
  rw [Int.emod_eq_of_lt left (by omega), Int.emod_eq_of_lt top (by omega)]
  constructor
  · rw [field_zero (length _), bigEndian_bigEndianBytes (by omega)]
  · rw [show 2 = 2 + 0 from rfl, field_add (length _),
      ← List.append_nil (bigEndianBytes 2 (rect.y - dy).toNat), field_zero (length _),
      bigEndian_bigEndianBytes (by omega)]

/-- The client moves a rectangle. -/
theorem run_drawCopyRect {cr : List UInt8} (length : cr.length = sz_rfbCopyRect)
    (rest : List UInt8) :
    (drawRectangle surroundings rect rfbEncodingCopyRect client).run (cr ++ rest) =
      some ({ client with
        buffer := client.buffer.CopyRectangleFromRectangle (field cr 0 2) (field cr 2 2) rect.w
          rect.h rect.x rect.y }, rest) :=
  Decoder.run_read_append _ length rest

/-- The client moves the rectangles of a region, one after the other. -/
theorem run_copyRects {dx dy : Int} (bounds : width < 256 ^ 2 ∧ height < 256 ^ 2)
    {rects : List Rectangle} (movable : ∀ rect ∈ rects, Movable dx dy width height rect)
    (wide : client.buffer.width = width) (high : client.buffer.height = height) (left : Nat)
    (rest : List UInt8) :
    (readRectangles surroundings (rects.length + left) client).run
        (rects.flatMap (sendCopyRect dx dy) ++ rest) =
      (readRectangles surroundings left
        { client with buffer := moveRectangles dx dy rects client.buffer }).run rest := by
  induction rects generalizing client with
  | nil =>
    rw [List.length_nil, Nat.zero_add]
    rfl
  | cons rect rects inductionHypothesis =>
    have first := movable rect List.mem_cons_self
    obtain ⟨x, y⟩ := field_copyRect bounds first
    have count : (rect :: rects).length + left = rects.length + left + 1 := by
      rw [List.length_cons]
      omega
    rw [count, List.flatMap_cons, sendCopyRect, List.append_assoc, List.append_assoc,
      run_readRectangles (small_of_within first.1 bounds.1 bounds.2) (by decide) (by
        rw [wide, high]
        exact first.1), Decoder.run_bind_of_run (run_drawCopyRect rfl _), x, y]
    exact inductionHypothesis (fun other member => movable other (List.mem_cons_of_mem _ member))
      ((FrameBuffer.width_copyRectangleFromRectangle _ _ _ _ _ _).trans wide)
      ((FrameBuffer.height_copyRectangleFromRectangle _ _ _ _ _ _).trans high)

/-! ### An update -/

/-- The CopyRects of an update fit into the buffer, and the number of its rectangles fits into the
message. -/
structure Update.Few (update : Update size) (encoding : PreferredEncoding) : Prop where
  copies : (update.updateCopyRegion.rectangles false false).length ≤ maxCopyRects
  announced : (update.updateCopyRegion.rectangles false false).length +
    ((update.updateRegion.rectangles false false).map (countRectangle encoding)).sum < 0xFFFF

instance (update : Update size) (encoding : PreferredEncoding) :
    Decidable (update.Few encoding) :=
  decidable_of_iff (_ ∧ _) ⟨fun both => ⟨both.1, both.2⟩, fun few => ⟨few.copies, few.announced⟩⟩

/-- An update for a framebuffer of this size: the regions lie inside, and so does what is moved, and
the rectangles are few enough. -/
structure Update.Fits (update : Update size) (encoding : PreferredEncoding) (width height : Nat) :
    Prop where
  movable : ∀ rect ∈ update.updateCopyRegion.rectangles false false,
    Movable update.dx update.dy width height rect
  within : ∀ rect ∈ update.updateRegion.rectangles false false, rect.Within width height
  few : update.Few encoding

/-- What a framebuffer shows after an update: new pixels in the one region, moved pixels in the
other, and what it showed before elsewhere. -/
structure Update.Applied (update : Update size) (before after : FrameBuffer (PixelBytes size)) :
    Prop where
  width : after.width = before.width
  height : after.height = before.height
  new : ∀ column row, column < before.width → update.updateRegion.Contains column row →
    after.pixel column row = update.screen column row
  moved : ∀ column row, column < before.width → ¬update.updateRegion.Contains column row →
    update.updateCopyRegion.Contains column row →
      after.pixel column row =
        before.pixel (column - update.dx).toNat (row - update.dy).toNat
  kept : ∀ column row, column < before.width → ¬update.updateRegion.Contains column row →
    ¬update.updateCopyRegion.Contains column row →
      after.pixel column row = before.pixel column row

variable {update : Update size} {encoding : PreferredEncoding} {afterEncBufSize : Nat} {pad : UInt8}

/-- The region is moved before the new pixels arrive. -/
def Update.move (update : Update size) (buffer : FrameBuffer (PixelBytes size)) :
    FrameBuffer (PixelBytes size) :=
  moveRectangles update.dx update.dy (update.updateCopyRegion.rectangles (decide (update.dx > 0))
    (decide (update.dy > 0))) buffer

theorem Update.Fits.moves (fits : update.Fits encoding width height) {reverseX reverseY : Bool}
    {rect : Rectangle} (member : rect ∈ update.updateCopyRegion.rectangles reverseX reverseY) :
    Movable update.dx update.dy width height rect :=
  fits.movable rect (Region.mem_rectangles.mpr (Region.mem_rectangles.mp member))

/-- The server moves the rectangles in an order in which none is overwritten too early. -/
theorem Update.Fits.pixel_move {buffer : FrameBuffer (PixelBytes size)}
    (fits : update.Fits encoding buffer.width buffer.height) {column row : Nat}
    (inside : column < buffer.width) :
    (update.updateCopyRegion.Contains column row → (update.move buffer).pixel column row =
        buffer.pixel (column - update.dx).toNat (row - update.dy).toNat) ∧
      (¬update.updateCopyRegion.Contains column row →
        (update.move buffer).pixel column row = buffer.pixel column row) := by
  obtain ⟨moved, kept⟩ := @pixel_moveRectangles _ _ _ _ buffer _ (fun _ member => fits.moves member)
    (update.updateCopyRegion.pairwise_rectangles update.dx update.dy) column row inside
  rw [Region.contains_iff _ (decide (update.dx > 0)) (decide (update.dy > 0))]
  refine ⟨moved, fun away => kept fun rect member contains => away ⟨rect, member, contains⟩⟩

/-- The number of rectangles, behind a byte that is not used. -/
theorem field_nRects (pad : UInt8) {count : Nat} (small : count < 256 ^ 2) :
    field (pad :: bigEndianBytes 2 count) 1 2 = count := by
  show field ([pad] ++ bigEndianBytes 2 count) (1 + 0) 2 = count
  rw [field_add (List.length_singleton), ← List.append_nil (bigEndianBytes 2 count),
    field_zero (length_bigEndianBytes 2 count), bigEndian_bigEndianBytes small]

/-- The client reads all of an update that was sent, and applies it. -/
theorem run_update (format : 0 < size ∧ size ≤ 4) (bounds : width < 256 ^ 2 ∧ height < 256 ^ 2)
    (wide : client.buffer.width = width) (high : client.buffer.height = height)
    (fits : update.Fits encoding width height) {message : List UInt8}
    (sent : update.send encoding afterEncBufSize pad = some message) (rest : List UInt8) :
    ∃ after, (HandleRFBServerMessage surroundings client).run (message ++ rest) =
        some (after, rest) ∧ update.Applied client.buffer after.buffer := by
  unfold Update.send at sent
  dsimp only at sent
  have few := fits.few.announced
  rw [rfbSendCopyRegion_eq, if_pos fits.few.copies, Option.bind_some] at sent
  obtain ⟨body, sentBody, rfl⟩ := Option.map_eq_some_iff.mp sent
  generalize counted : ((update.updateRegion.rectangles false false).map
    (countRectangle encoding)).sum = nUpdateRegionRects at few
  rw [if_pos (by omega), if_neg (by omega), List.append_nil, Nat.mod_eq_of_lt (by omega)]
  obtain ⟨sameWidth, sameHeight⟩ : (update.move client.buffer).width = client.buffer.width ∧
      (update.move client.buffer).height = client.buffer.height := size_moveRectangles _ _ _ _
  have copied (left : Nat) (rest : List UInt8) :
      (readRectangles surroundings
          ((update.updateCopyRegion.rectangles false false).length + left) client).run
          ((update.updateCopyRegion.rectangles (decide (update.dx > 0))
            (decide (update.dy > 0))).flatMap (sendCopyRect update.dx update.dy) ++ rest) =
        (readRectangles surroundings left { client with buffer := update.move client.buffer }).run
          rest := by
    rw [← update.updateCopyRegion.length_rectangles (decide (update.dx > 0))
      (decide (update.dy > 0))]
    exact run_copyRects bounds (fun _ member => fits.moves member) wide high left rest
  have draws : Draws surroundings width height update.screen nUpdateRegionRects body
      update.updateRegion.Contains := by
    rw [← counted]
    exact draws_sendRectangles format bounds
      (fun rect member => ⟨fits.within rect member, Region.positive _ member⟩) sentBody
  obtain ⟨after, ran, drawn⟩ := draws { client with buffer := update.move client.buffer } 0 rest
    (sameWidth.trans wide) (sameHeight.trans high)
  refine ⟨after, ?_, ?_⟩
  · rw [List.append_assoc, List.append_assoc, List.append_assoc, HandleRFBServerMessage,
      Decoder.run_read_append _ (length_bigEndianBytes 1 _)]
    show (HandleFramebufferUpdate surroundings client).run _ = _
    have length (count : Nat) : (pad :: bigEndianBytes 2 count).length = 3 := rfl
    rw [HandleFramebufferUpdate, Decoder.run_read_append _ (length _)]
    show (readRectangles surroundings (field (pad :: bigEndianBytes 2 _) 1 2) client).run _ = _
    rw [field_nRects pad (by omega), copied]
    exact ran
  · have pixel {column row : Nat} (inside : column < client.buffer.width) :=
      @Update.Fits.pixel_move _ update encoding client.buffer (by
        rw [wide, high]
        exact fits) column row inside
    exact
      { width := drawn.width.trans sameWidth
        height := drawn.height.trans sameHeight
        new := fun column row inside => drawn.inside column row (sameWidth ▸ inside)
        moved := fun column row inside away member =>
          (drawn.outside column row (sameWidth ▸ inside) away).trans ((pixel inside).1 member)
        kept := fun column row inside away neither =>
          (drawn.outside column row (sameWidth ▸ inside) away).trans ((pixel inside).2 neither) }

/-! ### Any number of updates -/

/-- The framebuffer shows the screen. -/
def Shows (buffer : FrameBuffer (PixelBytes size)) (screen : Screen size) : Prop :=
  ∀ column row, column < buffer.width → row < buffer.height →
    buffer.pixel column row = screen column row

/-- Where an update sends no new pixels, the screen was moved, or is as it was. -/
structure Update.Tells (update : Update size) (old : Screen size) (width height : Nat) : Prop where
  moved : ∀ column row, column < width → row < height →
    ¬update.updateRegion.Contains column row → update.updateCopyRegion.Contains column row →
      update.screen column row = old (column - update.dx).toNat (row - update.dy).toNat
  kept : ∀ column row, column < width → row < height →
    ¬update.updateRegion.Contains column row → ¬update.updateCopyRegion.Contains column row →
      update.screen column row = old column row

/-- A framebuffer that showed the old screen shows the new one. -/
theorem Update.Applied.shows {before after : FrameBuffer (PixelBytes size)}
    (applied : update.Applied before after)
    (fits : update.Fits encoding before.width before.height) {old : Screen size}
    (tells : update.Tells old before.width before.height) (shown : Shows before old) :
    Shows after update.screen := by
  intro column row inside below
  rw [applied.width] at inside
  rw [applied.height] at below
  by_cases new : update.updateRegion.Contains column row
  · exact applied.new column row inside new
  by_cases moves : update.updateCopyRegion.Contains column row
  · rw [applied.moved column row inside new moves, tells.moved column row inside below new moves]
    obtain ⟨rect, member, contains⟩ := moves
    obtain ⟨-, ⟨left, top⟩, right, bottom⟩ := fits.movable rect member
    obtain ⟨⟨low, high⟩, low', high'⟩ := contains
    dsimp only at right bottom
    exact shown _ _ (by omega) (by omega)
  · rw [applied.kept column row inside new moves, tells.kept column row inside below new moves]
    exact shown column row inside below

/-- The updates of a server, one after the other. Each is sent in the encoding that the client
prefers at that time. -/
structure Sent (size : Nat) where
  update : Update size
  encoding : PreferredEncoding
  afterEncBufSize : Nat
  pad : UInt8

/-- Each update fits, and tells what changed since the one before. -/
def Truthful (width height : Nat) : Screen size → List (Sent size) → Prop
  | _, [] => True
  | old, sent :: more =>
    (sent.update.Fits sent.encoding width height ∧ sent.update.Tells old width height) ∧
      Truthful width height sent.update.screen more

def sendUpdates : List (Sent size) → Option (List UInt8)
  | [] => some []
  | sent :: more =>
    (sent.update.send sent.encoding sent.afterEncBufSize sent.pad).bind fun first =>
      (sendUpdates more).map (first ++ ·)

def lastScreen : Screen size → List (Sent size) → Screen size
  | old, [] => old
  | _, sent :: more => lastScreen sent.update.screen more

/-- Whatever the updates are, and in whichever encodings they are sent: the client reads exactly what
the server sent for them, and shows what the server shows. -/
theorem client_shows_updates (format : 0 < size ∧ size ≤ 4)
    (bounds : width < 256 ^ 2 ∧ height < 256 ^ 2) {updates : List (Sent size)} {old : Screen size}
    (truthful : Truthful width height old updates) {bytes : List UInt8}
    (sent : sendUpdates updates = some bytes) {client : RfbClient size}
    (wide : client.buffer.width = width) (high : client.buffer.height = height)
    (shown : Shows client.buffer old) (rest : List UInt8) :
    ∃ after, (handleMessages surroundings updates.length client).run (bytes ++ rest) =
        some (after, rest) ∧ Shows after.buffer (lastScreen old updates) := by
  induction updates generalizing old client bytes with
  | nil =>
    cases sent
    exact ⟨client, rfl, shown⟩
  | cons first more inductionHypothesis =>
    obtain ⟨⟨fits, tells⟩, later⟩ := truthful
    obtain ⟨message, sentFirst, others⟩ := Option.bind_eq_some_iff.mp sent
    obtain ⟨messages, sentMore, rfl⟩ := Option.map_eq_some_iff.mp others
    obtain ⟨between, ran, applied⟩ := @run_update _ surroundings client width height first.update
      first.encoding first.afterEncBufSize first.pad format bounds wide high fits message sentFirst
      (messages ++ rest)
    have shows : Shows between.buffer first.update.screen := by
      subst wide high
      exact applied.shows fits tells shown
    obtain ⟨after, continued, last⟩ := inductionHypothesis later sentMore
      (applied.width.trans wide) (applied.height.trans high) shows
    refine ⟨after, ?_, last⟩
    rw [List.length_cons, handleMessages, List.append_assoc, Decoder.run_bind_of_run ran]
    exact continued

/-- One column of the first row. -/
def columnRegion (column : Nat) : Region where
  bands := [⟨0, 1, [(column, column + 1)]⟩]
  proper := by
    intro band member
    rw [List.mem_singleton.mp member]
    exact ⟨Nat.one_pos, by simp, List.pairwise_singleton _ _⟩
  sorted := List.pairwise_singleton _ _

def noRegion : Region where
  bands := []
  proper := fun _ absurd => (List.not_mem_nil absurd).elim
  sorted := List.Pairwise.nil

theorem rectangles_columnRegion (column : Nat) :
    (columnRegion column).rectangles false false = [⟨column, 0, 1, 1⟩] := by
  simp [Region.rectangles, columnRegion, Band.rectangles]

theorem contains_columnRegion (position column row : Nat) :
    (columnRegion position).Contains column row ↔ column = position ∧ row = 0 := by
  rw [Region.Contains, rectangles_columnRegion]
  simp only [List.mem_singleton, exists_eq_left, Rectangle.Contains]
  omega

theorem not_contains_noRegion (column row : Nat) : ¬noRegion.Contains column row :=
  fun ⟨_, member, _⟩ => List.not_mem_nil member

/-- A pixel is drawn, and then copied to the right. -/
theorem client_shows_updates_copied :
    ∃ after, (handleMessages plainSurroundings 2 (clearedClient 2 1 (by decide))).run
          [0, 0, 0, 1, 0, 0, 0, 0, 0, 1, 0, 1, 0, 0, 0, 0, 7,
            0, 0, 0, 1, 0, 1, 0, 0, 0, 1, 0, 1, 0, 0, 0, 1, 0, 0, 0, 0, 2] = some (after, [2]) ∧
      Shows after.buffer fun _ _ => List.Vector.replicate 1 7 := by
  have drawn : Truthful 2 1 (fun _ _ => List.Vector.replicate 1 0)
      [⟨⟨fun column _ => List.Vector.replicate 1 (if column = 0 then 7 else 0), noRegion, 0, 0,
          columnRegion 0⟩, .raw, 0, 0⟩,
        ⟨⟨fun _ _ => List.Vector.replicate 1 7, columnRegion 1, 1, 0, noRegion⟩, .hextile, 0, 0⟩] := by
    refine ⟨⟨⟨fun _ absurd => (List.not_mem_nil absurd).elim, ?_, by decide⟩,
      ⟨fun column row _ _ _ absurd => (not_contains_noRegion column row absurd).elim, ?_⟩⟩,
      ⟨⟨?_, fun _ absurd => (List.not_mem_nil absurd).elim, by decide⟩, ⟨?_, ?_⟩⟩, trivial⟩
    · rw [rectangles_columnRegion]
      simp [Rectangle.Within]
    · intro column row inside below away _
      rw [contains_columnRegion] at away
      dsimp only
      rw [if_neg (by omega)]
    · rw [rectangles_columnRegion]
      simp [Movable, Rectangle.Within]
    · intro column row inside below _ member
      rw [contains_columnRegion] at member
      obtain ⟨rfl, rfl⟩ := member
      rfl
    · intro column row inside below _ away
      rw [contains_columnRegion] at away
      dsimp only
      rw [if_pos (by omega)]
  exact @client_shows_updates _ plainSurroundings 2 1 (by decide) (by decide) _ _ drawn _ rfl
    (clearedClient 2 1 (by decide)) rfl rfl (fun _ _ _ _ => rfl) [2]

end TermPlux.Rfb
