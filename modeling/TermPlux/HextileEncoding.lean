/-
This file models hextile encoding: a rectangle is sent in tiles of up to 16 by 16
pixels, each with the background and the foreground colour unless the client still
has them from an earlier tile. What the server believes about the client is true
after every tile, so that the client shows what the server does.

A tile with its colours and rectangles never needs more than the space that the
server reserved for it, and the number of its rectangles fits into a byte.
-/

import TermPlux.HextileColours
import TermPlux.RreEncoding

namespace TermPlux.Rfb

open Raster Subrects

variable {size : Nat}

/-! ### Tiles -/

/-- Where the loops `for (x = rx; x < rx+rw; x += 16)` stop by. -/
def tileStarts (start length : Nat) : List Nat :=
  (List.range ((length + 15) / 16)).map fun tile => start + 16 * tile

/-- The tiles of a rectangle, row by row. -/
def hextiles (rx ry rw rh : Nat) : List Rectangle :=
  (tileStarts ry rh).flatMap fun y => (tileStarts rx rw).map fun x =>
    ⟨x, y, min 16 (rx + rw - x), min 16 (ry + rh - y)⟩

/-! ### What says how a tile is encoded -/

def rfbHextileRaw : UInt8 := (1 : UInt8) <<< 0

def rfbHextileBackgroundSpecified : UInt8 := (1 : UInt8) <<< 1

def rfbHextileForegroundSpecified : UInt8 := (1 : UInt8) <<< 2

def rfbHextileAnySubrects : UInt8 := (1 : UInt8) <<< 3

def rfbHextileSubrectsColoured : UInt8 := (1 : UInt8) <<< 4

def rfbHextilePackXY (x y : Nat) : UInt8 := UInt8.ofNat (x <<< 4 ||| y)

def rfbHextilePackWH (w h : Nat) : UInt8 := UInt8.ofNat ((w - 1) <<< 4 ||| (h - 1))

def rfbHextileExtractX (byte : UInt8) : Nat := byte.toNat >>> 4

def rfbHextileExtractY (byte : UInt8) : Nat := byte.toNat &&& 0xf

def rfbHextileExtractW (byte : UInt8) : Nat := (byte.toNat >>> 4) + 1

def rfbHextileExtractH (byte : UInt8) : Nat := (byte.toNat &&& 0xf) + 1

/-! ### The server -/

/-- What the server believes about the colours of the client. -/
structure HextileSender (size : Nat) where
  validBg : Bool
  validFg : Bool
  bg : PixelBytes size
  fg : PixelBytes size

/-- Whether the background colour is to be specified. -/
def HextileSender.background (sender : HextileSender size) (newBg : PixelBytes size) : Bool :=
  !sender.validBg || decide (newBg ≠ sender.bg)

def HextileSender.specifyBg (sender : HextileSender size) (newBg : PixelBytes size) :
    HextileSender size :=
  if sender.background newBg then { sender with validBg := true, bg := newBg } else sender

/-- Whether the foreground colour is to be specified. -/
def HextileSender.foreground (sender : HextileSender size) (newFg : PixelBytes size) : Bool :=
  !sender.validFg || decide (newFg ≠ sender.fg)

def HextileSender.specifyFg (sender : HextileSender size) (newFg : PixelBytes size) :
    HextileSender size :=
  if sender.foreground newFg then { sender with validFg := true, fg := newFg } else sender

/-- A colour where it is to be specified. -/
def putPixel (specified : Bool) (pixel : PixelBytes size) : List UInt8 :=
  if specified then pixel.toList else []

/-- The rectangles of a tile, with their colours unless there is only one. -/
def putSubrects (mono : Bool) (subrects : List (Subrect (PixelBytes size))) : List UInt8 :=
  subrects.flatMap fun subrect =>
    putPixel (!mono) subrect.colour ++
      [rfbHextilePackXY subrect.rectangle.x subrect.rectangle.y,
        rfbHextilePackWH subrect.rectangle.w subrect.rectangle.h]

/-- Whether so many rectangles are not larger than the pixels. -/
def hextileFits (size : Nat) (mono : Bool) (w h numsubs : Nat) : Bool :=
  let newLen := 1 + numsubs * (if mono then 2 else size + 2)
  !decide (newLen > w * h * size)

/-- The first byte of a tile that is not raw. -/
def subencoding (background foreground any coloured : Bool) : UInt8 :=
  (if background then rfbHextileBackgroundSpecified else 0) |||
    (if foreground then rfbHextileForegroundSpecified else 0) |||
    (if any then rfbHextileAnySubrects else 0) |||
    (if coloured then rfbHextileSubrectsColoured else 0)

/-- The number of rectangles and the rectangles. -/
def sendSubrects (mono : Bool) (subrects : List (Subrect (PixelBytes size))) : List UInt8 :=
  UInt8.ofNat subrects.length :: putSubrects mono subrects

/-- One round of `sendHextiles`. -/
def sendTile (sender : HextileSender size) (clientPixelData : List (PixelBytes size)) (w h : Nat) :
    HextileSender size × List UInt8 :=
  let tested := testColours (List.Vector.replicate size 0) clientPixelData
  let background := sender.background tested.bg
  let sender := sender.specifyBg tested.bg
  if tested.solid then
    (sender, subencoding background false false false :: putPixel background sender.bg)
  else
    let foreground := tested.mono && sender.foreground tested.fg
    let sender :=
      if tested.mono then sender.specifyFg tested.fg else { sender with validFg := false }
    match subrectEncode (pixelOf clientPixelData) w h sender.bg
      (hextileFits size tested.mono w h) with
    | some subrects =>
      (sender, subencoding background foreground true (!tested.mono) ::
        (putPixel background sender.bg ++ (putPixel foreground sender.fg ++
          sendSubrects tested.mono subrects)))
    | none =>
      ({ sender with validBg := false, validFg := false },
        rfbHextileRaw :: pixelBytes clientPixelData)

/-- The loops of `sendHextiles`. -/
def sendTiles (screen : Screen size) : List Rectangle → HextileSender size → List UInt8
  | [], _ => []
  | tile :: tiles, sender =>
    let sent := sendTile sender (translateFn screen tile.x tile.y tile.w tile.h) tile.w tile.h
    sent.2 ++ sendTiles screen tiles sent.1

def sendHextiles (screen : Screen size) (rx ry rw rh : Nat) : List UInt8 :=
  sendTiles screen (hextiles rx ry rw rh)
    ⟨false, false, List.Vector.replicate size 0, List.Vector.replicate size 0⟩

def rfbEncodingHextile : Nat := 5

def rfbSendRectEncodingHextile (screen : Screen size) (x y w h : Nat) : List UInt8 :=
  rectHeader x y w h rfbEncodingHextile ++ sendHextiles screen x y w h

/-! ### The client -/

/-- The colours that the client keeps, and its framebuffer. -/
structure HextileReader (size : Nat) where
  bg : PixelBytes size
  fg : PixelBytes size
  buffer : FrameBuffer (PixelBytes size)

/-- The loop over the rectangles in the buffer of the client, which `ptr` points into. Each brings
its colour along where they are coloured. -/
def hextileSubrects (coloured : Bool) (x y : Nat) :
    Nat → List UInt8 → HextileReader size → HextileReader size
  | 0, _, reader => reader
  | left + 1, ptr, reader =>
    let fg := if coloured then firstPixel ptr else reader.fg
    let ptr := if coloured then ptr.drop size else ptr
    let xy := ptr.getD 0 0
    let wh := ptr.getD 1 0
    hextileSubrects coloured x y left (ptr.drop 2)
      { reader with
        fg
        buffer :=
          reader.buffer.FillRectangle (x + rfbHextileExtractX xy) (y + rfbHextileExtractY xy)
            (rfbHextileExtractW wh) (rfbHextileExtractH wh) fg }

/-- A colour where it is specified, and the last one otherwise. -/
def readPixel (specified : Bool) (last : PixelBytes size) : Decoder (PixelBytes size) :=
  if specified then .read size pure else pure last

def readSubrects (coloured : Bool) (x y nSubrects : Nat) (reader : HextileReader size) :
    Decoder (HextileReader size) :=
  .read (nSubrects * (if coloured then 2 + size else 2)) fun bytes =>
    pure (hextileSubrects coloured x y nSubrects bytes.toList reader)

/-- What the client does when it has the first byte of a tile. -/
def readSubencoded (tile : Rectangle) (flags : UInt8) (reader : HextileReader size) :
    Decoder (HextileReader size) :=
  if flags &&& rfbHextileRaw ≠ 0 then
    .read (tile.w * tile.h * size) fun bytes =>
      pure
        { reader with
          buffer :=
            reader.buffer.CopyRectangle (pixelAt bytes.toList) tile.x tile.y tile.w tile.h }
  else do
    let bg ← readPixel (decide (flags &&& rfbHextileBackgroundSpecified ≠ 0)) reader.bg
    let buffer := reader.buffer.FillRectangle tile.x tile.y tile.w tile.h bg
    let fg ← readPixel (decide (flags &&& rfbHextileForegroundSpecified ≠ 0)) reader.fg
    if flags &&& rfbHextileAnySubrects = 0 then pure ⟨bg, fg, buffer⟩
    else
      .read 1 fun nSubrects =>
        readSubrects (decide (flags &&& rfbHextileSubrectsColoured ≠ 0)) tile.x tile.y
          (bigEndian nSubrects.toList) ⟨bg, fg, buffer⟩

def readTile (tile : Rectangle) (reader : HextileReader size) : Decoder (HextileReader size) :=
  .read 1 fun first => readSubencoded tile (first.toList.getD 0 0) reader

/-- The loops of `HandleHextile`. -/
def readTiles : List Rectangle → HextileReader size → Decoder (HextileReader size)
  | [], reader => pure reader
  | tile :: tiles, reader => readTile tile reader >>= readTiles tiles

/-- The foreground colour is not set before the first tile. -/
def HandleHextile (unset : PixelBytes size) (rx ry rw rh : Nat)
    (buffer : FrameBuffer (PixelBytes size)) : Decoder (FrameBuffer (PixelBytes size)) := do
  let reader ← readTiles (hextiles rx ry rw rh) ⟨List.Vector.replicate size 0, unset, buffer⟩
  pure reader.buffer

/-! ### Packed numbers and flags -/

theorem extract_packXY {x y : Nat} (left : x < 16) (top : y < 16) :
    rfbHextileExtractX (rfbHextilePackXY x y) = x ∧ rfbHextileExtractY (rfbHextilePackXY x y) = y := by
  have all : ∀ x < 16, ∀ y < 16, rfbHextileExtractX (rfbHextilePackXY x y) = x ∧
      rfbHextileExtractY (rfbHextilePackXY x y) = y := by decide
  exact all x left y top

theorem extract_packWH {w h : Nat} (wide : 0 < w) (high : 0 < h) (narrow : w ≤ 16) (low : h ≤ 16) :
    rfbHextileExtractW (rfbHextilePackWH w h) = w ∧ rfbHextileExtractH (rfbHextilePackWH w h) = h := by
  obtain ⟨w, rfl⟩ := Nat.exists_eq_succ_of_ne_zero wide.ne'
  obtain ⟨h, rfl⟩ := Nat.exists_eq_succ_of_ne_zero high.ne'
  obtain ⟨x, y⟩ := extract_packXY narrow low
  exact ⟨congrArg Nat.succ x, congrArg Nat.succ y⟩

theorem subencoding_flags (background foreground any coloured : Bool) :
    subencoding background foreground any coloured &&& rfbHextileRaw = 0 ∧
      decide (subencoding background foreground any coloured &&& rfbHextileBackgroundSpecified ≠ 0) =
        background ∧
      decide (subencoding background foreground any coloured &&& rfbHextileForegroundSpecified ≠ 0) =
        foreground ∧
      decide (subencoding background foreground any coloured &&& rfbHextileAnySubrects ≠ 0) = any ∧
      decide (subencoding background foreground any coloured &&& rfbHextileSubrectsColoured ≠ 0) =
        coloured := by
  cases background <;> cases foreground <;> cases any <;> cases coloured <;> decide

/-! ### What the client reads -/

variable {reader : HextileReader size} {tile : Rectangle}

theorem run_readTile_cons (flags : UInt8) (bytes : List UInt8) :
    (readTile tile reader).run (flags :: bytes) = (readSubencoded tile flags reader).run bytes :=
  Decoder.run_read _ (⟨[flags], rfl⟩ : List.Vector UInt8 1) bytes

theorem run_readPixel (specified : Bool) (last pixel : PixelBytes size) (rest : List UInt8) :
    (readPixel specified last).run (putPixel specified pixel ++ rest) =
      some (if specified then pixel else last, rest) := by
  cases specified with
  | false => rfl
  | true => exact Decoder.run_block pixel rest

/-- A tile that is not raw begins with its colours. -/
theorem run_readSubencoded (background foreground any coloured : Bool) (bg fg : PixelBytes size)
    (rest : List UInt8) :
    (readSubencoded tile (subencoding background foreground any coloured) reader).run
        (putPixel background bg ++ (putPixel foreground fg ++ rest)) =
      let bg' := if background then bg else reader.bg
      let fg' := if foreground then fg else reader.fg
      let filled := reader.buffer.FillRectangle tile.x tile.y tile.w tile.h bg'
      if any then
        (Decoder.read 1 fun nSubrects =>
          readSubrects coloured tile.x tile.y (bigEndian nSubrects.toList)
            ⟨bg', fg', filled⟩).run rest
      else some (⟨bg', fg', filled⟩, rest) := by
  obtain ⟨raw, backgroundFlag, foregroundFlag, anyFlag, colouredFlag⟩ :=
    subencoding_flags background foreground any coloured
  rw [readSubencoded, if_neg (not_not.mpr raw), backgroundFlag, foregroundFlag, colouredFlag,
    Decoder.run_bind_of_run (run_readPixel background reader.bg bg _),
    Decoder.run_bind_of_run (run_readPixel foreground reader.fg fg _)]
  cases any with
  | false =>
    rw [if_pos (not_not.mp (of_decide_eq_false anyFlag))]
    rfl
  | true =>
    rw [if_neg (of_decide_eq_true anyFlag)]
    rfl

/-- The rectangles of a tile are taken out of the buffer. Where they are not coloured, they have the
foreground colour. -/
theorem hextileSubrects_putSubrects (mono : Bool) {x y : Nat}
    {subrects : List (Subrect (PixelBytes size))}
    (shapes : ∀ subrect ∈ subrects,
      (0 < subrect.rectangle.w ∧ 0 < subrect.rectangle.h) ∧ subrect.rectangle.Within 16 16)
    (colours : mono = true → ∀ subrect ∈ subrects, subrect.colour = reader.fg) :
    ∃ fg, hextileSubrects (!mono) x y subrects.length (putSubrects mono subrects) reader =
        ⟨reader.bg, fg, fillSubrects x y subrects reader.buffer⟩ ∧
      (mono = true → fg = reader.fg) := by
  induction subrects generalizing reader with
  | nil => exact ⟨reader.fg, rfl, fun _ => rfl⟩
  | cons subrect others inductionHypothesis =>
    obtain ⟨⟨wide, high⟩, right, bottom⟩ := shapes subrect List.mem_cons_self
    obtain ⟨left, top⟩ := @extract_packXY subrect.rectangle.x subrect.rectangle.y
      (by omega) (by omega)
    obtain ⟨width, height⟩ := @extract_packWH subrect.rectangle.w subrect.rectangle.h
      wide high (by omega) (by omega)
    have others' := fun other member => shapes other (List.mem_cons_of_mem subrect member)
    cases mono with
    | false =>
      have split : putSubrects false (subrect :: others) = subrect.colour.toList ++
          ([rfbHextilePackXY subrect.rectangle.x subrect.rectangle.y,
            rfbHextilePackWH subrect.rectangle.w subrect.rectangle.h] ++
              putSubrects false others) := by
        rw [putSubrects, List.flatMap_cons, ← putSubrects, List.append_assoc]
        rfl
      obtain ⟨fg, read, -⟩ := @inductionHypothesis
        ⟨reader.bg, subrect.colour, reader.buffer.FillRectangle (x + subrect.rectangle.x)
          (y + subrect.rectangle.y) subrect.rectangle.w subrect.rectangle.h subrect.colour⟩
        others' nofun
      refine ⟨fg, ?_, nofun⟩
      rw [List.length_cons, hextileSubrects, split]
      simp only [Bool.not_false, if_true, firstPixel_append,
        List.drop_left' subrect.colour.toList_length]
      show hextileSubrects true x y others.length (putSubrects false others)
        ⟨reader.bg, subrect.colour, reader.buffer.FillRectangle
          (x + rfbHextileExtractX (rfbHextilePackXY subrect.rectangle.x subrect.rectangle.y))
          (y + rfbHextileExtractY (rfbHextilePackXY subrect.rectangle.x subrect.rectangle.y))
          (rfbHextileExtractW (rfbHextilePackWH subrect.rectangle.w subrect.rectangle.h))
          (rfbHextileExtractH (rfbHextilePackWH subrect.rectangle.w subrect.rectangle.h))
          subrect.colour⟩ = _
      rw [left, top, width, height]
      exact read
    | true =>
      have colour := colours rfl subrect List.mem_cons_self
      obtain ⟨fg, read, same⟩ := @inductionHypothesis
        ⟨reader.bg, reader.fg, reader.buffer.FillRectangle (x + subrect.rectangle.x)
          (y + subrect.rectangle.y) subrect.rectangle.w subrect.rectangle.h reader.fg⟩
        others' fun _ other member => colours rfl other (List.mem_cons_of_mem subrect member)
      refine ⟨fg, ?_, same⟩
      rw [List.length_cons, hextileSubrects]
      show hextileSubrects false x y others.length (putSubrects true others)
        ⟨reader.bg, reader.fg, reader.buffer.FillRectangle
          (x + rfbHextileExtractX (rfbHextilePackXY subrect.rectangle.x subrect.rectangle.y))
          (y + rfbHextileExtractY (rfbHextilePackXY subrect.rectangle.x subrect.rectangle.y))
          (rfbHextileExtractW (rfbHextilePackWH subrect.rectangle.w subrect.rectangle.h))
          (rfbHextileExtractH (rfbHextilePackWH subrect.rectangle.w subrect.rectangle.h))
          reader.fg⟩ = _
      rw [left, top, width, height]
      have fill : fillSubrects x y (subrect :: others) reader.buffer =
          fillSubrects x y others (reader.buffer.FillRectangle (x + subrect.rectangle.x)
            (y + subrect.rectangle.y) subrect.rectangle.w subrect.rectangle.h reader.fg) := by
        rw [fillSubrects, List.foldl_cons, colour, ← fillSubrects]
      rw [fill]
      exact read

theorem length_putSubrects (mono : Bool) (subrects : List (Subrect (PixelBytes size))) :
    (putSubrects mono subrects).length = subrects.length * if mono then 2 else size + 2 := by
  induction subrects with
  | nil => exact (Nat.zero_mul _).symm
  | cons subrect others inductionHypothesis =>
    rw [putSubrects, List.flatMap_cons, ← putSubrects, List.length_append, List.length_append,
      inductionHypothesis, @List.length_cons _ subrect others, Nat.succ_mul, Nat.add_comm]
    congr 1
    cases mono with
    | false => exact congrArg (· + 2) subrect.colour.toList_length
    | true => rfl

/-! ### What the server knows about a tile -/

theorem mem_translateFn (screen : Screen size) (x y : Nat) {w h column row : Nat}
    (inside : column < w) (below : row < h) :
    screen (x + column) (y + row) ∈ translateFn screen x y w h :=
  List.mem_of_getElem? (getElem?_translateFn screen x y inside below)

/-- The rectangles of a tile are numbered by a byte. -/
theorem length_lt_of_hextileFits {pixels : List (PixelBytes size)} {w h : Nat}
    {subrects : List (Subrect (PixelBytes size))} (length : pixels.length = w * h)
    (narrow : w ≤ 16) (low : h ≤ 16)
    (searched : subrectEncode (pixelOf pixels) w h (testColours (List.Vector.replicate size 0) pixels).bg
      (hextileFits size (testColours (List.Vector.replicate size 0) pixels).mono w h) =
        some subrects) :
    subrects.length < 256 := by
  obtain ⟨-, -, fewer, fitted⟩ := subrectEncode_spec searched
  have area : w * h ≤ 16 * 16 := Nat.mul_le_mul narrow low
  cases mono : (testColours (List.Vector.replicate size 0) pixels).mono with
  | true =>
    -- At most half of the pixels differ from the background.
    have half := TestColours.two_mul_foreground_le mono length
    unfold pixelOf at fewer
    omega
  | false =>
    rcases fitted with rfl | fits
    · exact Nat.zero_lt_succ 255
    · rw [mono, hextileFits] at fits
      have fits : 1 + subrects.length * (size + 2) ≤ w * h * size := by simpa using fits
      have all : w * h * size ≤ 256 * size := Nat.mul_le_mul_right size area
      by_contra many
      have more : 256 * (size + 2) ≤ subrects.length * (size + 2) :=
        Nat.mul_le_mul_right _ (Nat.not_lt.mp many)
      omega

theorem specifyBg_eq (sender : HextileSender size) (newBg : PixelBytes size) :
    sender.specifyBg newBg = { sender with validBg := true, bg := newBg } := by
  unfold HextileSender.specifyBg
  split
  · rfl
  · next known =>
    rw [HextileSender.background, Bool.or_eq_true, not_or, Bool.not_eq_true', Bool.not_eq_false,
      decide_eq_true_iff, not_not] at known
    obtain ⟨valid, same⟩ := known
    cases sender
    cases valid
    cases same
    rfl

theorem specifyFg_eq (sender : HextileSender size) (newFg : PixelBytes size) :
    sender.specifyFg newFg = { sender with validFg := true, fg := newFg } := by
  unfold HextileSender.specifyFg
  split
  · rfl
  · next known =>
    rw [HextileSender.foreground, Bool.or_eq_true, not_or, Bool.not_eq_true', Bool.not_eq_false,
      decide_eq_true_iff, not_not] at known
    obtain ⟨valid, same⟩ := known
    cases sender
    cases valid
    cases same
    rfl

/-- What the server believes about the colours of the client is true. -/
structure Synced (sender : HextileSender size) (reader : HextileReader size) : Prop where
  bg : sender.validBg = true → reader.bg = sender.bg
  fg : sender.validFg = true → reader.fg = sender.fg

variable {sender : HextileSender size}

/-- The client has the background colour of a tile, whether it is specified or not. -/
theorem Synced.background (synced : Synced sender reader) (newBg : PixelBytes size) :
    (if sender.background newBg then newBg else reader.bg) = newBg := by
  split
  · rfl
  · next known =>
    rw [HextileSender.background, Bool.or_eq_true, not_or, Bool.not_eq_true', Bool.not_eq_false,
      decide_eq_true_iff, not_not] at known
    exact (synced.bg known.1).trans known.2.symm

theorem Synced.foreground (synced : Synced sender reader) (newFg : PixelBytes size) :
    (if sender.foreground newFg then newFg else reader.fg) = newFg := by
  split
  · rfl
  · next known =>
    rw [HextileSender.foreground, Bool.or_eq_true, not_or, Bool.not_eq_true', Bool.not_eq_false,
      decide_eq_true_iff, not_not] at known
    exact (synced.fg known.1).trans known.2.symm

/-- The number of rectangles is read, and the rectangles. -/
theorem run_sendSubrects (mono : Bool) {x y : Nat} {subrects : List (Subrect (PixelBytes size))}
    (few : subrects.length < 256)
    (shapes : ∀ subrect ∈ subrects,
      (0 < subrect.rectangle.w ∧ 0 < subrect.rectangle.h) ∧ subrect.rectangle.Within 16 16)
    (colours : mono = true → ∀ subrect ∈ subrects, subrect.colour = reader.fg)
    (rest : List UInt8) :
    ∃ fg,
      (Decoder.read 1 fun nSubrects =>
        readSubrects (!mono) x y (bigEndian nSubrects.toList) reader).run
          (sendSubrects mono subrects ++ rest) =
        some (⟨reader.bg, fg, fillSubrects x y subrects reader.buffer⟩, rest) ∧
      (mono = true → fg = reader.fg) := by
  obtain ⟨fg, read, same⟩ := @hextileSubrects_putSubrects _ reader mono x y subrects shapes colours
  refine ⟨fg, ?_, same⟩
  have number : bigEndian [UInt8.ofNat subrects.length] = subrects.length := by
    show 0 * 256 + (UInt8.ofNat subrects.length).toNat = _
    rw [Nat.zero_mul, Nat.zero_add, UInt8.toNat_ofNat_of_lt' few]
  have length : (putSubrects mono subrects).length =
      subrects.length * if !mono then 2 + size else 2 := by
    rw [length_putSubrects]
    cases mono with
    | false => exact congrArg (subrects.length * ·) (Nat.add_comm size 2)
    | true => rfl
  rw [sendSubrects, List.cons_append]
  refine (Decoder.run_read _ (⟨[UInt8.ofNat subrects.length], rfl⟩ : List.Vector UInt8 1)
    (putSubrects mono subrects ++ rest)).trans ?_
  show (readSubrects (!mono) x y (bigEndian [UInt8.ofNat subrects.length]) reader).run _ = _
  rw [number, readSubrects, Decoder.run_read_append _ length]
  exact congrArg (fun reader => some (reader, rest)) read

/-- A tile of one colour. -/
theorem run_readTile_solid (screen : Screen size) (synced : Synced sender reader)
    (within : tile.Within reader.buffer.width reader.buffer.height) {bg : PixelBytes size}
    (solid : ∀ pixel ∈ translateFn screen tile.x tile.y tile.w tile.h, pixel = bg)
    (rest : List UInt8) :
    ∃ later,
      (readTile tile reader).run
          (subencoding (sender.background bg) false false false ::
            putPixel (sender.background bg) bg ++ rest) = some (later, rest) ∧
        Synced { sender with validBg := true, bg } later ∧
        Drawn screen tile.Contains reader.buffer later.buffer := by
  refine ⟨⟨bg, reader.fg, reader.buffer.FillRectangle tile.x tile.y tile.w tile.h bg⟩, ?_,
    ⟨fun _ => rfl, synced.fg⟩, ?_⟩
  · have read := @run_readSubencoded _ reader tile (sender.background bg) false false false bg bg rest
    dsimp only at read
    rw [synced.background bg] at read
    rw [List.cons_append, run_readTile_cons]
    exact read
  · have none : ∀ subrect ∈ ([] : List (Subrect (PixelBytes size))),
        subrect.rectangle.Within tile.w tile.h := fun _ member => absurd member List.not_mem_nil
    exact @drawn_fillSubrects _ screen tile.x tile.y tile.w tile.h bg [] reader.buffer within none
      fun column row inside below =>
        (solid _ (mem_translateFn screen tile.x tile.y inside below)).symm

/-- A tile that is sent pixel by pixel. -/
theorem run_readTile_raw (screen : Screen size)
    (within : tile.Within reader.buffer.width reader.buffer.height) (rest : List UInt8) :
    ∃ later,
      (readTile tile reader).run (rfbHextileRaw ::
          pixelBytes (translateFn screen tile.x tile.y tile.w tile.h) ++ rest) =
        some (later, rest) ∧
      Drawn screen tile.Contains reader.buffer later.buffer := by
  refine ⟨⟨reader.bg, reader.fg, reader.buffer.CopyRectangle
    (pixelAt (pixelBytes (translateFn screen tile.x tile.y tile.w tile.h))) tile.x tile.y tile.w
    tile.h⟩, ?_, drawn_copyRectangle screen within⟩
  have length : (pixelBytes (translateFn screen tile.x tile.y tile.w tile.h)).length =
      tile.w * tile.h * size := by
    rw [length_pixelBytes, length_translateFn, Nat.mul_comm tile.h]
  rw [List.cons_append, run_readTile_cons, readSubencoded, if_pos (by decide),
    Decoder.run_read_append _ length]
  rfl

/-- A tile of rectangles on a background. -/
theorem run_readTile_subrects {screen : Screen size} (mono : Bool) (synced : Synced sender reader)
    (within : tile.Within reader.buffer.width reader.buffer.height) (narrow : tile.w ≤ 16)
    (low : tile.h ≤ 16) {bg fg : PixelBytes size} {subrects : List (Subrect (PixelBytes size))}
    (few : subrects.length < 256)
    (shapes : ∀ subrect ∈ subrects, (0 < subrect.rectangle.w ∧ 0 < subrect.rectangle.h) ∧
      subrect.rectangle.Within tile.w tile.h)
    (paints : ∀ column row, column < tile.w → row < tile.h →
      painted bg subrects column row = screen (tile.x + column) (tile.y + row))
    (colours : mono = true → ∀ subrect ∈ subrects, subrect.colour = fg) (rest : List UInt8) :
    ∃ later,
      (readTile tile reader).run
          (subencoding (sender.background bg) (mono && sender.foreground fg) true (!mono) ::
            (putPixel (sender.background bg) bg ++
              (putPixel (mono && sender.foreground fg) fg ++ sendSubrects mono subrects)) ++
            rest) = some (later, rest) ∧
        later.bg = bg ∧ (mono = true → later.fg = fg) ∧
        Drawn screen tile.Contains reader.buffer later.buffer := by
  have known : mono = true →
      (if mono && sender.foreground fg then fg else reader.fg) = fg := by
    rintro rfl
    rw [Bool.true_and]
    exact synced.foreground fg
  have shapes16 : ∀ subrect ∈ subrects, (0 < subrect.rectangle.w ∧ 0 < subrect.rectangle.h) ∧
      subrect.rectangle.Within 16 16 := fun subrect member =>
    ⟨(shapes subrect member).1, (shapes subrect member).2.1.trans narrow,
      (shapes subrect member).2.2.trans low⟩
  obtain ⟨last, read, same⟩ := @run_sendSubrects _
    ⟨bg, if mono && sender.foreground fg then fg else reader.fg,
      reader.buffer.FillRectangle tile.x tile.y tile.w tile.h bg⟩
    mono tile.x tile.y subrects few shapes16
    (fun single subrect member => (colours single subrect member).trans (known single).symm) rest
  refine ⟨⟨bg, last, fillSubrects tile.x tile.y subrects
    (reader.buffer.FillRectangle tile.x tile.y tile.w tile.h bg)⟩, ?_, rfl,
    fun single => (same single).trans (known single),
    drawn_fillSubrects within (fun subrect member => (shapes subrect member).2) paints⟩
  have begins := @run_readSubencoded _ reader tile (sender.background bg)
    (mono && sender.foreground fg) true (!mono) bg fg (sendSubrects mono subrects ++ rest)
  dsimp only at begins
  rw [synced.background bg, if_pos rfl] at begins
  rw [List.cons_append, List.append_assoc, List.append_assoc, run_readTile_cons, begins]
  exact read

/-- The rectangles of a tile that were found are few enough, and paint it. -/
theorem subrects_of_searched {screen : Screen size} (narrow : tile.w ≤ 16) (low : tile.h ≤ 16)
    {subrects : List (Subrect (PixelBytes size))} {tested : TestColours (PixelBytes size)}
    (colours : tested = testColours (List.Vector.replicate size 0)
      (translateFn screen tile.x tile.y tile.w tile.h))
    (searched : subrectEncode (pixelOf (translateFn screen tile.x tile.y tile.w tile.h)) tile.w
      tile.h tested.bg (hextileFits size tested.mono tile.w tile.h) = some subrects) :
    subrects.length < 256 ∧
      (∀ subrect ∈ subrects, (0 < subrect.rectangle.w ∧ 0 < subrect.rectangle.h) ∧
        subrect.rectangle.Within tile.w tile.h) ∧
      (∀ column row, column < tile.w → row < tile.h →
        painted tested.bg subrects column row = screen (tile.x + column) (tile.y + row)) ∧
      (tested.mono = true → ∀ subrect ∈ subrects, subrect.colour = tested.fg) := by
  subst colours
  have length : (translateFn screen tile.x tile.y tile.w tile.h).length = tile.w * tile.h := by
    rw [length_translateFn, Nat.mul_comm]
  obtain ⟨shapes, paints, -⟩ := subrectEncode_spec searched
  refine ⟨length_lt_of_hextileFits length narrow low searched,
    fun subrect member => (shapes subrect member).1, fun column row inside below => ?_,
    fun mono subrect member => ?_⟩
  · rw [paints column row inside below, pixelOf_translateFn screen tile.x tile.y inside below]
  · obtain ⟨-, different, index, inside, colour⟩ := shapes subrect member
    have present : subrect.colour ∈ translateFn screen tile.x tile.y tile.w tile.h := by
      rw [← colour, pixelOf, List.getD_eq_getElem?_getD,
        List.getElem?_eq_getElem (length ▸ inside), Option.getD_some]
      exact List.getElem_mem _
    exact (TestColours.bg_or_fg_of_mono mono _ present).resolve_left different

/-- The client shows a tile that was sent, and what the server believes of it stays true. -/
theorem run_readTile (screen : Screen size) (synced : Synced sender reader)
    (within : tile.Within reader.buffer.width reader.buffer.height) (narrow : tile.w ≤ 16)
    (low : tile.h ≤ 16) (rest : List UInt8) :
    ∃ later,
      (readTile tile reader).run
          ((sendTile sender (translateFn screen tile.x tile.y tile.w tile.h) tile.w tile.h).2 ++
            rest) = some (later, rest) ∧
        Synced (sendTile sender (translateFn screen tile.x tile.y tile.w tile.h) tile.w tile.h).1
          later ∧
        Drawn screen tile.Contains reader.buffer later.buffer := by
  unfold sendTile
  dsimp only
  rw [specifyBg_eq, specifyFg_eq]
  split
  · next solid => exact run_readTile_solid screen synced within (TestColours.bg_of_solid solid) rest
  · generalize colours : testColours (List.Vector.replicate size 0)
      (translateFn screen tile.x tile.y tile.w tile.h) = tested
    split
    · next subrects searched =>
      have kept : (if tested.mono = true then
          (⟨true, true, tested.bg, tested.fg⟩ : HextileSender size)
          else ⟨true, false, tested.bg, sender.fg⟩).bg = tested.bg := by
        split <;> rfl
      rw [kept] at searched
      obtain ⟨few, shapes, paints, single⟩ := subrects_of_searched narrow low colours.symm searched
      obtain ⟨later, ran, bg, fg, drawn⟩ := run_readTile_subrects tested.mono synced within narrow
        low few shapes paints single rest
      refine ⟨later, ?_, ?_, drawn⟩
      · cases mono : tested.mono with
        | false =>
          rw [mono] at ran
          exact ran
        | true =>
          rw [mono] at ran
          exact ran
      · cases mono : tested.mono with
        | false => exact ⟨fun _ => bg, nofun⟩
        | true => exact ⟨fun _ => bg, fun _ => fg mono⟩
    · next =>
      obtain ⟨later, ran, drawn⟩ := run_readTile_raw screen within rest
      exact ⟨later, ran, ⟨nofun, nofun⟩, drawn⟩

/-! ### All tiles of a rectangle -/

/-- The tiles of a row or a column cover it. -/
theorem mem_tileStarts (start length position : Nat) :
    (∃ tile ∈ tileStarts start length,
      tile ≤ position ∧ position < tile + min 16 (start + length - tile)) ↔
        start ≤ position ∧ position < start + length := by
  unfold tileStarts
  constructor
  · rintro ⟨tile, member, low, high⟩
    obtain ⟨number, -, rfl⟩ := List.mem_map.mp member
    omega
  · rintro ⟨low, high⟩
    exact ⟨start + 16 * ((position - start) / 16),
      List.mem_map.mpr ⟨(position - start) / 16, List.mem_range.mpr (by omega), rfl⟩,
      by omega, by omega⟩

theorem contains_hextiles (rx ry rw rh column row : Nat) :
    (∃ tile ∈ hextiles rx ry rw rh, tile.Contains column row) ↔
      (⟨rx, ry, rw, rh⟩ : Rectangle).Contains column row := by
  refine Iff.trans ?_ (and_congr (mem_tileStarts rx rw column) (mem_tileStarts ry rh row))
  unfold hextiles
  constructor
  · rintro ⟨tile, member, contains⟩
    obtain ⟨y, inRows, inRow⟩ := List.mem_flatMap.mp member
    obtain ⟨x, inColumns, rfl⟩ := List.mem_map.mp inRow
    exact ⟨⟨x, inColumns, contains.1⟩, ⟨y, inRows, contains.2⟩⟩
  · rintro ⟨⟨x, inColumns, columns⟩, ⟨y, inRows, rows⟩⟩
    exact ⟨⟨x, y, _, _⟩, List.mem_flatMap.mpr ⟨y, inRows, List.mem_map.mpr ⟨x, inColumns, rfl⟩⟩,
      columns, rows⟩

/-- The tiles are small, and lie in the rectangle. -/
theorem mem_hextiles {rx ry rw rh width height : Nat} (member : tile ∈ hextiles rx ry rw rh)
    (within : (⟨rx, ry, rw, rh⟩ : Rectangle).Within width height) :
    (tile.w ≤ 16 ∧ tile.h ≤ 16) ∧ tile.Within width height := by
  obtain ⟨y, inRows, inRow⟩ := List.mem_flatMap.mp member
  obtain ⟨x, inColumns, rfl⟩ := List.mem_map.mp inRow
  obtain ⟨column, before, rfl⟩ := List.mem_map.mp inColumns
  obtain ⟨row, above, rfl⟩ := List.mem_map.mp inRows
  rw [List.mem_range] at before above
  obtain ⟨right, bottom⟩ := within
  dsimp only at right bottom
  exact ⟨⟨Nat.min_le_left _ _, Nat.min_le_left _ _⟩, by dsimp only; omega, by dsimp only; omega⟩

/-- The client shows the tiles that were sent. -/
theorem run_readTiles (screen : Screen size) {tiles : List Rectangle}
    (synced : Synced sender reader)
    (fits : ∀ tile ∈ tiles, (tile.w ≤ 16 ∧ tile.h ≤ 16) ∧
      tile.Within reader.buffer.width reader.buffer.height) (rest : List UInt8) :
    ∃ later,
      (readTiles tiles reader).run (sendTiles screen tiles sender ++ rest) = some (later, rest) ∧
        Drawn screen (fun column row => ∃ tile ∈ tiles, tile.Contains column row) reader.buffer
          later.buffer := by
  induction tiles generalizing sender reader with
  | nil =>
    refine ⟨reader, rfl, (Drawn.refl screen reader.buffer).of_iff fun column row => ?_⟩
    exact iff_of_false id fun ⟨_, member, _⟩ => List.not_mem_nil member
  | cons tile tiles inductionHypothesis =>
    obtain ⟨⟨narrow, low⟩, within⟩ := fits tile List.mem_cons_self
    obtain ⟨next, ran, synced, drawn⟩ := run_readTile screen synced within narrow low
      (sendTiles screen tiles
        (sendTile sender (translateFn screen tile.x tile.y tile.w tile.h) tile.w tile.h).1 ++ rest)
    have fits' : ∀ tile ∈ tiles, (tile.w ≤ 16 ∧ tile.h ≤ 16) ∧
        tile.Within next.buffer.width next.buffer.height := by
      rw [drawn.width, drawn.height]
      exact fun other member => fits other (List.mem_cons_of_mem tile member)
    obtain ⟨later, continued, drawn'⟩ := inductionHypothesis synced fits'
    refine ⟨later, ?_, (drawn.trans drawn').of_iff fun column row => ?_⟩
    · rw [readTiles, sendTiles, List.append_assoc, Decoder.run_bind_of_run ran]
      exact continued
    · simp only [List.mem_cons, or_and_right, exists_or, exists_eq_left]

/-- The client shows a rectangle that was sent in hextile encoding, and consumes what was sent,
whatever its foreground colour is at first. -/
theorem run_handleHextile (screen : Screen size) (unset : PixelBytes size) {x y w h : Nat}
    {buffer : FrameBuffer (PixelBytes size)}
    (within : (⟨x, y, w, h⟩ : Rectangle).Within buffer.width buffer.height) (rest : List UInt8) :
    ∃ after,
      (HandleHextile unset x y w h buffer).run (sendHextiles screen x y w h ++ rest) =
          some (after, rest) ∧
        Drawn screen (⟨x, y, w, h⟩ : Rectangle).Contains buffer after := by
  have synced : Synced ⟨false, false, List.Vector.replicate size 0, List.Vector.replicate size 0⟩
      (⟨List.Vector.replicate size 0, unset, buffer⟩ : HextileReader size) := ⟨nofun, nofun⟩
  obtain ⟨later, ran, drawn⟩ := run_readTiles screen synced
    (fun tile member => mem_hextiles member within) rest
  refine ⟨later.buffer, ?_, drawn.of_iff fun column row => contains_hextiles x y w h column row⟩
  rw [HandleHextile, sendHextiles, Decoder.run_bind_of_run ran]
  rfl

/-! ### How much is read and written -/

theorem readsAtMost_readPixel {limit : Nat} (specified : Bool) (last : PixelBytes size)
    (pixel : size ≤ limit) : (readPixel specified last).ReadsAtMost limit := by
  cases specified with
  | false => trivial
  | true => exact Decoder.readsAtMost_block pixel

theorem readsAtMost_readSubencoded (flags : UInt8) (narrow : tile.w ≤ 16) (low : tile.h ≤ 16)
    (format : size ≤ 4) : (readSubencoded tile flags reader).ReadsAtMost RFB_BUFFER_SIZE := by
  have pixel : size ≤ RFB_BUFFER_SIZE := format.trans (by decide)
  unfold readSubencoded
  split
  · refine ⟨?_, fun bytes => trivial⟩
    calc tile.w * tile.h * size ≤ 16 * 16 * 4 :=
          Nat.mul_le_mul (Nat.mul_le_mul narrow low) format
      _ ≤ RFB_BUFFER_SIZE := by decide
  · refine (readsAtMost_readPixel _ _ pixel).bind fun bg =>
      (readsAtMost_readPixel _ _ pixel).bind fun fg => ?_
    split
    · trivial
    · refine ⟨by decide, fun nSubrects => ⟨?_, fun bytes => trivial⟩⟩
      have few := bigEndian_lt nSubrects.toList
      rw [nSubrects.toList_length] at few
      calc _ ≤ 255 * 6 := Nat.mul_le_mul (Nat.le_of_lt_succ few) (by split <;> omega)
        _ ≤ RFB_BUFFER_SIZE := by decide

theorem readsAtMost_readTiles {tiles : List Rectangle}
    (small : ∀ tile ∈ tiles, tile.w ≤ 16 ∧ tile.h ≤ 16) (format : size ≤ 4) :
    (readTiles tiles reader).ReadsAtMost RFB_BUFFER_SIZE := by
  induction tiles generalizing reader with
  | nil => trivial
  | cons tile tiles inductionHypothesis =>
    obtain ⟨narrow, low⟩ := small tile List.mem_cons_self
    refine Decoder.ReadsAtMost.bind ⟨by decide, fun first =>
      readsAtMost_readSubencoded _ narrow low format⟩ fun later => ?_
    exact inductionHypothesis fun other member => small other (List.mem_cons_of_mem tile member)

theorem readsAtMost_handleHextile (unset : PixelBytes size) (rx ry rw rh : Nat)
    (buffer : FrameBuffer (PixelBytes size)) (format : size ≤ 4) :
    (HandleHextile unset rx ry rw rh buffer).ReadsAtMost RFB_BUFFER_SIZE :=
  (readsAtMost_readTiles (fun tile member =>
    (@mem_hextiles tile rx ry rw rh _ _ member ⟨le_rfl, le_rfl⟩).1) format).bind
      fun _ => trivial

theorem length_putPixel_le (specified : Bool) (pixel : PixelBytes size) :
    (putPixel specified pixel).length ≤ size := by
  cases specified with
  | false => exact Nat.zero_le size
  | true => exact pixel.toList_length.le

theorem length_sendSubrects_le {mono : Bool} {w h : Nat}
    {subrects : List (Subrect (PixelBytes size))}
    (fitted : subrects = [] ∨ hextileFits size mono w h subrects.length = true)
    (some : 0 < w * h * size) : (sendSubrects mono subrects).length ≤ w * h * size := by
  rw [sendSubrects, List.length_cons, length_putSubrects]
  rcases fitted with rfl | fits
  · rw [List.length_nil, Nat.zero_mul]
    exact some
  · unfold hextileFits at fits
    dsimp only at fits
    rw [Bool.not_eq_true', decide_eq_false_iff_not] at fits
    omega

/-- A tile fits into the space that the server made sure of before it wrote it: one byte, two
colours, and sixteen by sixteen pixels. -/
theorem length_sendTile_le (sender : HextileSender size) {pixels : List (PixelBytes size)}
    {w h : Nat} (length : pixels.length = w * h) (narrow : w ≤ 16) (low : h ≤ 16)
    (some : 0 < w * h * size) :
    (sendTile sender pixels w h).2.length ≤ 1 + (2 + 16 * 16) * size := by
  have area : w * h * size ≤ 16 * 16 * size :=
    Nat.mul_le_mul_right size (Nat.mul_le_mul narrow low)
  unfold sendTile
  dsimp only
  split
  · have background := length_putPixel_le (sender.background
      (testColours (List.Vector.replicate size 0) pixels).bg)
      (sender.specifyBg (testColours (List.Vector.replicate size 0) pixels).bg).bg
    rw [List.length_cons]
    omega
  · split
    · next subrects searched =>
      have body := length_sendSubrects_le (subrectEncode_spec searched).2.2.2 some
      rw [List.length_cons, List.length_append, List.length_append]
      refine (Nat.succ_le_succ (Nat.add_le_add (length_putPixel_le _ _)
        (Nat.add_le_add (length_putPixel_le _ _) body))).trans ?_
      omega
    · rw [List.length_cons, length_pixelBytes, length]
      omega

end TermPlux.Rfb
