/-
This file models cut texts on the wire: how the client library sends a text to a
server that takes Latin-1 and to one with the extended clipboard, and how it reads
a cut text of the server. An extended cut text is compressed, has a length below
zero, and carries flags, the size of the text and the text with a null byte. The
compression library is a parameter.
-/

import TermPlux.ByteDecoder

namespace TermPlux.Rfb

/-! ### The compression library -/

/-- How a call of `inflate` turns out. -/
inductive InflateResult
  | Z_OK
  | Z_STREAM_END
  | failed
  deriving DecidableEq

/-- The compression library. What `deflate` writes for some data is read back piece by piece. -/
structure Zlib where
  /-- A stream that is read. -/
  Stream : Type
  compressBound : Nat → Nat
  /-- What a new stream comes to when all data was given to it with `Z_SYNC_FLUSH`, unless so much
  room is not enough. -/
  deflate : (room : Nat) → List UInt8 → Option (List UInt8)
  inflateInit : List UInt8 → Stream
  /-- Reads into so much room. -/
  inflate : Stream → (room : Nat) → InflateResult × List UInt8 × Stream
  bounded : ∀ size, compressBound size ≤ size + size / 1024 + 64
  fits : ∀ {room : Nat} {data bytes : List UInt8},
    deflate room data = some bytes → bytes.length ≤ room
  inflates : ∀ {room : Nat} {first second bytes : List UInt8},
    deflate room (first ++ second) = some bytes → first ≠ [] → second ≠ [] →
      ∃ middle later, inflate (inflateInit bytes) first.length = (.Z_OK, first, middle) ∧
        inflate middle second.length = (.Z_OK, second, later)

/-! ### Sending a cut text -/

def rfbExtendedClipboard_Text : Nat := 1

def rfbExtendedClipboard_Caps : Nat := 1 <<< 24

def rfbExtendedClipboard_Notify : Nat := 1 <<< 27

def rfbExtendedClipboard_Provide : Nat := 1 <<< 28

def rfbClientCutText : Nat := 6

/-- A length below zero, in 32 bits. -/
def negated (length : Nat) : Nat := (2 ^ 32 - length % 2 ^ 32) % 2 ^ 32

/-- A message of type `rfbClientCutText`. -/
def clientCutTextMsg (length : Nat) (bytes : List UInt8) : List UInt8 :=
  bigEndianBytes 1 rfbClientCutText ++
    ([0, 0, 0] ++ (bigEndianBytes 4 length ++ bytes))

def sendExtClientCutTextNotify : List UInt8 :=
  clientCutTextMsg (negated 4)
    (bigEndianBytes 4 (rfbExtendedClipboard_Notify ||| rfbExtendedClipboard_Text))

/-- The message with a text for the extended clipboard. -/
def providedMsg (cbuf : List UInt8) : List UInt8 :=
  clientCutTextMsg (negated (4 + cbuf.length))
    (bigEndianBytes 4 (rfbExtendedClipboard_Provide ||| rfbExtendedClipboard_Text) ++ cbuf)

def CompressClipData (zlib : Zlib) (destLen : Nat) (source : List UInt8) : Option (List UInt8) :=
  zlib.deflate destLen source

/-- What is compressed of a text: its size, the text, and a null byte. -/
def clipData (data : List UInt8) : List UInt8 :=
  bigEndianBytes 4 (data.length + 1) ++ (data ++ [0])

/-- The compressed bytes of a text. -/
def compressedText (zlib : Zlib) (data : List UInt8) : Option (List UInt8) :=
  CompressClipData zlib (zlib.compressBound (4 + (data.length + 1))) (clipData data)

/-- The messages with a text. There are none where the size of the text is no `int`. -/
def sendExtClientCutTextProvide (zlib : Zlib) (data : List UInt8) : Option (List (List UInt8)) :=
  if data.length + 1 < 2 ^ 31 then
    (compressedText zlib data).map fun cbuf =>
      [sendExtClientCutTextNotify, providedMsg cbuf]
  else none

/-- The messages with a text, where the server supports them. -/
def SendClientCutText (supported : Bool) (str : List UInt8) : List (List UInt8) :=
  if supported then [clientCutTextMsg str.length str] else []

def SendClientCutTextUTF8 (zlib : Zlib) (extendedClipboardServerCapabilities : Nat)
    (str : List UInt8) : Option (List (List UInt8)) :=
  if extendedClipboardServerCapabilities ≠ 0 then sendExtClientCutTextProvide zlib str else none

/-! ### A cut text of the server -/

/-- What a cut text of the server comes to. -/
inductive ServerCutText
  /-- A text for `GotXCutTextUTF8` or for `GotXCutText`. -/
  | text (bytes : List UInt8) (isUTF8 : Bool)
  | capabilities
  /-- The client asks for the text that the server notified it of. -/
  | request
  | ignored

/-- `size` is what the memory of the size of the text holds before. -/
def rfbClientProcessExtServerCutText (zlib : Zlib) (size : List UInt8) (data : List UInt8) :
    Option ServerCutText :=
  let flags := field data 0 4
  if data.length < 4 then none
  else if flags &&& rfbExtendedClipboard_Caps ≠ 0 then some .capabilities
  else if flags &&& rfbExtendedClipboard_Text = 0 then some .ignored
  else if flags &&& rfbExtendedClipboard_Notify ≠ 0 then some .request
  else if flags &&& rfbExtendedClipboard_Provide = 0 then some .ignored
  else
    let (opened, first, stream) := zlib.inflate (zlib.inflateInit (data.drop 4)) 4
    let size := field (first ++ size.drop first.length) 0 4
    if opened ≠ .Z_OK then none
    else if size > 2 ^ 20 then none
    else
      let (err, buf, _) := zlib.inflate stream size
      if err = .failed then none
      else if buf.length ≠ size then none
      else some (.text buf true)

/-- The text behind the length. -/
def readCutText (zlib : Zlib) (size : List UInt8) (extended : Bool) (length : Nat) :
    Decoder ServerCutText :=
  if length > 2 ^ 20 then .fail
  else
    .read length fun buffer =>
      if extended then
        match rfbClientProcessExtServerCutText zlib size buffer.toList with
        | some outcome => .done outcome
        | none => .fail
      else .done (.text buffer.toList false)

/-- A message of type `rfbServerCutText`, whose type was read. Its length is below zero for an
extended cut text. -/
def rfbServerCutText (zlib : Zlib) (size : List UInt8) : Decoder ServerCutText :=
  .read 7 fun msg =>
    let ilen := field msg.toList 3 4
    if ilen < 2 ^ 31 then readCutText zlib size false ilen
    else readCutText zlib size true (2 ^ 32 - ilen)

/-! ### Reading what was sent -/

variable {zlib : Zlib} {size data cbuf : List UInt8}

/-- What is behind the header of a message. -/
theorem drop_clientCutTextMsg (length : Nat) (bytes : List UInt8) :
    (clientCutTextMsg length bytes).drop 8 = bytes := by
  have header : (bigEndianBytes 1 rfbClientCutText ++
      ([0, 0, 0] ++ bigEndianBytes 4 length)).length = 8 := by
    rw [List.length_append, List.length_append, length_bigEndianBytes, length_bigEndianBytes]
    rfl
  have message : clientCutTextMsg length bytes =
      (bigEndianBytes 1 rfbClientCutText ++ ([0, 0, 0] ++ bigEndianBytes 4 length)) ++ bytes := by
    rw [clientCutTextMsg, List.append_assoc, List.append_assoc]
  rw [message, List.drop_left' header]

theorem run_rfbServerCutText (zlib : Zlib) (size : List UInt8) {length : Nat}
    (fits : length < 2 ^ 32) (bytes : List UInt8) :
    (rfbServerCutText zlib size).run ((clientCutTextMsg length bytes).drop 1) =
      if length < 2 ^ 31 then (readCutText zlib size false length).run bytes
      else (readCutText zlib size true (2 ^ 32 - length)).run bytes := by
  have header : ([0, 0, 0] ++ bigEndianBytes 4 length).length = 7 := by
    rw [List.length_append, length_bigEndianBytes]
    rfl
  have read : field ([0, 0, 0] ++ bigEndianBytes 4 length) 3 4 = length := by
    have skipped : field ([0, 0, 0] ++ bigEndianBytes 4 length) (3 + 0) 4 = _ :=
      field_add rfl (bigEndianBytes 4 length) 0 4
    rw [skipped, ← List.append_nil (bigEndianBytes 4 length),
      field_zero (length_bigEndianBytes 4 length), bigEndian_bigEndianBytes fits]
  have behind : (clientCutTextMsg length bytes).drop 1 =
      ([0, 0, 0] ++ bigEndianBytes 4 length) ++ bytes := by
    rw [clientCutTextMsg, List.drop_left' (length_bigEndianBytes 1 _), List.append_assoc]
  rw [behind, rfbServerCutText, Decoder.run_read_append _ header]
  dsimp only
  rw [List.Vector.toList_mk, read, apply_ite (fun decoder => Decoder.run decoder bytes)]

/-- A text that is all there is behind the length. -/
theorem run_readCutText (zlib : Zlib) (size : List UInt8) (extended : Bool) (data : List UInt8) :
    (readCutText zlib size extended data.length).run data =
      if 2 ^ 20 < data.length then none
      else if extended then
        (rfbClientProcessExtServerCutText zlib size data).map fun outcome => (outcome, [])
      else some (.text data false, []) := by
  have whole (next : List.Vector UInt8 data.length → Decoder ServerCutText) :
      (Decoder.read data.length next).run data = (next ⟨data, rfl⟩).run [] := by
    rw [← Decoder.run_read_append next rfl, List.append_nil]
  unfold readCutText
  split_ifs with long ext
  · rfl
  · rw [whole, List.Vector.toList_mk]
    cases rfbClientProcessExtServerCutText zlib size data <;> rfl
  · rw [whole, List.Vector.toList_mk]
    rfl

/-- A text that the client sends as Latin-1 comes back as it is, unless it is too long. -/
theorem run_clientCutText (zlib : Zlib) (size : List UInt8) (fits : data.length < 2 ^ 31) :
    (rfbServerCutText zlib size).run ((clientCutTextMsg data.length data).drop 1) =
      if 2 ^ 20 < data.length then none else some (.text data false, []) := by
  rw [run_rfbServerCutText zlib size (fits.trans (by decide)), if_pos fits, run_readCutText]
  rfl

/-- So does an extended cut text. -/
theorem run_extendedCutText (zlib : Zlib) (size : List UInt8) (some_ : 0 < data.length)
    (fits : data.length < 2 ^ 32 - 2 ^ 20) :
    (rfbServerCutText zlib size).run ((clientCutTextMsg (negated data.length) data).drop 1) =
      if 2 ^ 20 < data.length then none
      else (rfbClientProcessExtServerCutText zlib size data).map fun outcome => (outcome, []) := by
  have number : negated data.length = 2 ^ 32 - data.length := by unfold negated; omega
  have below : negated data.length < 2 ^ 32 := by omega
  rw [run_rfbServerCutText zlib size below]
  by_cases short : data.length ≤ 2 ^ 31
  · have back : 2 ^ 32 - negated data.length = data.length := by omega
    rw [if_neg (by omega), back, run_readCutText]
    rfl
  · have long : negated data.length > 2 ^ 20 := by omega
    rw [if_pos (by omega), if_pos (by omega), readCutText, if_pos long]
    rfl

/-- The text that was compressed comes with its null byte, unless it is too long. -/
theorem processExt_provided (size : List UInt8) (compressed : compressedText zlib data = some cbuf)
    (fits : data.length + 1 < 2 ^ 31) :
    rfbClientProcessExtServerCutText zlib size
        (bigEndianBytes 4 (rfbExtendedClipboard_Provide ||| rfbExtendedClipboard_Text) ++ cbuf) =
      if 2 ^ 20 < data.length + 1 then none else some (.text (data ++ [0]) true) := by
  have four (number : Nat) : (bigEndianBytes 4 number).length = 4 := length_bigEndianBytes 4 number
  have flags : field (bigEndianBytes 4 (rfbExtendedClipboard_Provide |||
      rfbExtendedClipboard_Text) ++ cbuf) 0 4 =
      rfbExtendedClipboard_Provide ||| rfbExtendedClipboard_Text := by
    rw [field_zero (four _)]
    exact bigEndian_bigEndianBytes (by decide)
  have nonempty : bigEndianBytes 4 (data.length + 1) ≠ [] :=
    List.ne_nil_of_length_pos (by rw [four]; decide)
  obtain ⟨middle, later, first, second⟩ := zlib.inflates compressed nonempty
    (List.append_ne_nil_of_right_ne_nil data (List.cons_ne_nil 0 []))
  have written : field (bigEndianBytes 4 (data.length + 1) ++
      size.drop (bigEndianBytes 4 (data.length + 1)).length) 0 4 = data.length + 1 := by
    rw [field_zero (four _)]
    exact bigEndian_bigEndianBytes (by omega)
  rw [four] at first written
  rw [List.length_append, List.length_singleton] at second
  unfold rfbClientProcessExtServerCutText
  simp only [flags, List.drop_left' (four _), first, four, written, second]
  rw [if_neg (by rw [List.length_append, four]; omega), if_neg (by decide), if_neg (by decide),
    if_neg (by decide), if_neg (by decide), if_neg (by decide)]
  refine if_congr Iff.rfl rfl ?_
  rw [if_neg (by decide), if_neg fun wrong => wrong (List.length_append ..)]

/-- A text that the client sends to the extended clipboard comes back with a null byte, unless it
is too long. -/
theorem run_providedMsg (size : List UInt8) (compressed : compressedText zlib data = some cbuf)
    (fits : data.length + 1 < 2 ^ 31) :
    (rfbServerCutText zlib size).run ((providedMsg cbuf).drop 1) =
      if 2 ^ 20 < 4 + cbuf.length ∨ 2 ^ 20 < data.length + 1 then none
      else some (.text (data ++ [0]) true, []) := by
  have length : (bigEndianBytes 4 (rfbExtendedClipboard_Provide ||| rfbExtendedClipboard_Text) ++
      cbuf).length = 4 + cbuf.length := by
    rw [List.length_append, length_bigEndianBytes]
  have room : cbuf.length ≤ zlib.compressBound (4 + (data.length + 1)) := zlib.fits compressed
  have bound := zlib.bounded (4 + (data.length + 1))
  rw [providedMsg, ← length, run_extendedCutText zlib size (by omega) (by omega), length,
    processExt_provided size compressed fits]
  by_cases long : 2 ^ 20 < 4 + cbuf.length
  · rw [if_pos long, if_pos (Or.inl long)]
  · rw [if_neg long]
    by_cases large : 2 ^ 20 < data.length + 1
    · rw [if_pos large, if_pos (Or.inr large)]
      rfl
    · rw [if_neg large, if_neg fun either => either.elim long large]
      rfl

end TermPlux.Rfb
