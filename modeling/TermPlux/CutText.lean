/-
This file models how `VncClient` sends and receives cut texts as Java strings,
down to the bytes of the two charsets and to the messages that carry them. The
client remembers a text before it is encoded and compares it with one after it is
decoded. It recognises an echo of its own text on a server that takes Latin-1, just
when Latin-1 can represent the text. The extended clipboard gives every text back
with a null byte, which the client takes for another text.
-/

import TermPlux.ClipboardSync
import TermPlux.CutTextMessages
import TermPlux.Utf16

namespace TermPlux.CutText

open ClipboardSync (Charset)
open Rfb (Zlib)

/-- A Java string. -/
abbrev Text := List UInt16

/-! ### The charsets -/

/-- The question mark, which stands for what a charset cannot represent. -/
def replacement : UInt8 := 0x3F

/-- The bytes of UTF-8 for a character or a surrogate. -/
def utf8Bytes : Utf16.Point → List UInt8
  | .char character => String.utf8EncodeChar character
  | .lone _ => [replacement]

/-- `String.toByteArray`. -/
def toByteArray (charset : Charset) (text : Text) : List UInt8 :=
  match charset with
  | .utf8 => (Utf16.points text).flatMap utf8Bytes
  | .iso88591 =>
    (Utf16.points text).map fun
      | .char character =>
        if character.toNat ≤ 0xFF then UInt8.ofNat character.toNat else replacement
      | .lone _ => replacement

/-- `Charset.decode`. What it makes of bytes that are not UTF-8 is up to the platform. -/
def decode (malformed : List UInt8 → Text) (charset : Charset) (bytes : List UInt8) : Text :=
  match charset with
  | .utf8 =>
    match bytes.toByteArray.utf8Decode? with
    | some characters => Utf16.encodeText characters.toList
    | none => malformed bytes
  | .iso88591 => bytes.map fun byte => UInt16.ofNat byte.toNat

/-- Latin-1 has the first 256 characters. -/
def Latin1 (text : Text) : Prop :=
  ∀ unit ∈ text, unit.toNat ≤ 0xFF

/-! ### The client -/

/-- What is not modelled: the compression library, the decoder of bytes that are not UTF-8, and what
the memory holds into which the size of a text is read. -/
structure Platform where
  zlib : Zlib
  malformed : List UInt8 → Text
  size : List UInt8

/-- The parts of `VncClient` and of the client library that cut texts touch, the messages with cut
texts that were sent, and the calls of `onGotXCutText` of the observer. -/
structure VncClient where
  connected : Bool
  viewOnlyMode : Bool
  extendedClipboardServerCapabilities : Nat
  /-- The server supports messages of type `rfbClientCutText`. -/
  supportsClientCutText : Bool
  lastCutText : Option Text := none
  sent : List (List UInt8) := []
  gotXCutTexts : List Text := []

namespace VncClient

def nativeIsUTF8CutTextSupported (client : VncClient) : Bool :=
  client.extendedClipboardServerCapabilities ≠ 0

/-- The charset of the texts that a server takes. -/
def charset (client : VncClient) : Charset :=
  if client.nativeIsUTF8CutTextSupported then .utf8 else .iso88591

/-- The messages with a text, unless the text could not be sent. `writable` is whether the
connection takes what is written. -/
def nativeSendCutText (platform : Platform) (writable : Bool) (client : VncClient)
    (bytes : List UInt8) (is_utf8 : Bool) : Option (List (List UInt8)) :=
  let messages :=
    if is_utf8 then
      Rfb.SendClientCutTextUTF8 platform.zlib client.extendedClipboardServerCapabilities bytes
    else some (Rfb.SendClientCutText client.supportsClientCutText bytes)
  messages.filter fun messages => messages.isEmpty || writable

def sendCutText (platform : Platform) (writable : Bool) (client : VncClient) (text : Text) :
    VncClient :=
  if client.connected && !client.viewOnlyMode then
    if some text ≠ client.lastCutText then
      let sent :=
        if client.nativeIsUTF8CutTextSupported then
          client.nativeSendCutText platform writable (toByteArray .utf8 text) true
        else client.nativeSendCutText platform writable (toByteArray .iso88591 text) false
      match sent with
      | some messages =>
        { client with sent := client.sent ++ messages, lastCutText := some text }
      | none => client
    else client
  else client

def cbGotXCutText (client : VncClient) (platform : Platform) (bytes : List UInt8)
    (isUTF8 : Bool) : VncClient :=
  let cutText := decode platform.malformed (if isUTF8 then .utf8 else .iso88591) bytes
  if some cutText ≠ client.lastCutText then
    { client with
      lastCutText := some cutText
      gotXCutTexts := client.gotXCutTexts ++ [cutText] }
  else client

/-- `processServerMessage` for a cut text, whose type was read. A message that the client refuses
ends the connection. -/
def processCutText (client : VncClient) (platform : Platform) (message : List UInt8) : VncClient :=
  match (Rfb.rfbServerCutText platform.zlib platform.size).run message with
  | some (.text bytes isUTF8, _) => client.cbGotXCutText platform bytes isUTF8
  | some (.capabilities, _) =>
    { client with
      extendedClipboardServerCapabilities :=
        client.extendedClipboardServerCapabilities ||| Rfb.rfbExtendedClipboard_Text }
  | some (.request, _) => client
  | some (.ignored, _) => client
  | none => { client with connected := false }

end VncClient

/-! ### Through UTF-8 and back -/

/-- The character that UTF-8 sends for a character or a surrogate. -/
def sentCharacter : Utf16.Point → Char
  | .char character => character
  | .lone _ => '?'

theorem decode_utf8 (malformed : List UInt8 → Text) (points : List Utf16.Point) :
    decode malformed .utf8 (points.flatMap utf8Bytes) =
      points.flatMap fun point => Utf16.encode (sentCharacter point) := by
  have bytes : (points.flatMap utf8Bytes).toByteArray =
      (points.map sentCharacter).utf8Encode := by
    unfold List.utf8Encode
    rw [List.flatMap_map]
    refine congrArg _ (List.flatMap_congr fun point _ => ?_)
    cases point with
    | char character => rfl
    | lone unit => rfl
  unfold decode
  rw [bytes, List.utf8Decode?_utf8Encode]
  exact List.flatMap_map ..

/-- A character or a surrogate comes back in as many units. -/
theorem length_sentCharacter (point : Utf16.Point) :
    (Utf16.encode (sentCharacter point)).length = point.units.length := by
  cases point with
  | char character => rfl
  | lone unit => rfl

/-- A text with a null byte comes back through UTF-8 as another text. -/
theorem decode_utf8_null_ne (malformed : List UInt8 → Text) (text : Text) :
    decode malformed .utf8 (toByteArray .utf8 text ++ [0]) ≠ text := by
  have null : toByteArray .utf8 text ++ [0] =
      (Utf16.points text ++ [Utf16.Point.char (Char.ofNat 0)]).flatMap utf8Bytes := by
    rw [List.flatMap_append]
    rfl
  have length : ((Utf16.points text).flatMap fun point =>
      Utf16.encode (sentCharacter point)).length = text.length := by
    conv_rhs => rw [← Utf16.flatMap_units_points text]
    rw [List.length_flatMap, List.length_flatMap]
    exact congrArg List.sum (List.map_congr_left fun point _ => length_sentCharacter point)
  intro same
  have longer := congrArg List.length same
  rw [null, decode_utf8, List.flatMap_append, List.length_append, length] at longer
  exact Nat.succ_ne_self text.length longer

/-! ### Through Latin-1 and back -/

/-- The unit that Latin-1 gives back for a character or a surrogate. -/
def returnedUnit : Utf16.Point → UInt16
  | .char character =>
    UInt16.ofNat
      (if character.toNat ≤ 0xFF then UInt8.ofNat character.toNat else replacement).toNat
  | .lone _ => UInt16.ofNat replacement.toNat

theorem decode_toByteArray_iso88591 (malformed : List UInt8 → Text) (text : Text) :
    decode malformed .iso88591 (toByteArray .iso88591 text) =
      (Utf16.points text).map returnedUnit := by
  unfold decode toByteArray
  rw [List.map_map]
  refine List.map_congr_left fun point _ => ?_
  cases point with
  | char character => rfl
  | lone unit => rfl

theorem returnedUnit_le (point : Utf16.Point) : (returnedUnit point).toNat ≤ 0xFF := by
  have small (byte : UInt8) : (UInt16.ofNat byte.toNat).toNat ≤ 0xFF := by
    have below := byte.toNat_lt
    rw [UInt16.toNat_ofNat_of_lt' (by simp [UInt16.size]; omega)]
    omega
  cases point with
  | char character => exact small _
  | lone unit => exact small _

/-- The first 256 characters come back. -/
theorem returnedUnit_ofUnit {unit : UInt16} (small : unit.toNat ≤ 0xFF) :
    returnedUnit (Utf16.Point.ofUnit unit) = unit := by
  have plain : ¬(Utf16.IsHighSurrogate unit ∨ Utf16.IsLowSurrogate unit) := by
    unfold Utf16.IsHighSurrogate Utf16.IsLowSurrogate
    omega
  have valid : unit.toNat.isValidChar := .inl (by omega)
  unfold Utf16.Point.ofUnit
  rw [if_neg plain]
  unfold returnedUnit
  dsimp only
  rw [Utf16.toNat_ofNat valid, if_pos small, UInt8.toNat_ofNat_of_lt' (by simp [UInt8.size]; omega),
    UInt16.ofNat_toNat]

/-- A text comes back through Latin-1 just when Latin-1 can represent it. -/
theorem decode_iso88591_eq_iff (malformed : List UInt8 → Text) (text : Text) :
    decode malformed .iso88591 (toByteArray .iso88591 text) = text ↔ Latin1 text := by
  rw [decode_toByteArray_iso88591]
  constructor
  · intro same unit member
    rw [← same] at member
    obtain ⟨point, -, rfl⟩ := List.mem_map.mp member
    exact returnedUnit_le point
  · intro small
    induction text using Utf16.points.induct with
    | case1 => rfl
    | case2 unit =>
      exact congrArg (fun unit => [unit]) (returnedUnit_ofUnit (small unit List.mem_cons_self))
    | case3 unit next rest pair inductionHypothesis =>
      have high := pair.1
      have low := small unit List.mem_cons_self
      unfold Utf16.IsHighSurrogate at high
      omega
    | case4 unit next rest apart inductionHypothesis =>
      rw [Utf16.points, if_neg apart, List.map_cons,
        returnedUnit_ofUnit (small unit List.mem_cons_self),
        inductionHypothesis fun other member => small other (List.mem_cons_of_mem _ member)]

/-! ### The echo -/

variable {platform : Platform} {client : VncClient} {text : Text} {message : List UInt8}

/-- The client remembers a text with which it is called just when the observer is not called. -/
theorem gotXCutTexts_cbGotXCutText_iff (client : VncClient) (platform : Platform)
    (bytes : List UInt8) (isUTF8 : Bool) :
    (client.cbGotXCutText platform bytes isUTF8).gotXCutTexts = client.gotXCutTexts ↔
      some (decode platform.malformed (if isUTF8 then .utf8 else .iso88591) bytes) =
        client.lastCutText := by
  unfold VncClient.cbGotXCutText
  by_cases remembered : some (decode platform.malformed (if isUTF8 then .utf8 else .iso88591) bytes) =
      client.lastCutText
  · rw [if_neg (not_not.mpr remembered)]
    exact iff_of_true rfl remembered
  · rw [if_pos remembered]
    refine iff_of_false (fun same => ?_) remembered
    have none := List.append_cancel_left (same.trans (List.append_nil client.gotXCutTexts).symm)
    exact List.cons_ne_nil _ _ none

/-- A client that is connected and interactive sends a text that it does not remember, and this is
the message with the text. A Java array has less than `2 ^ 31` bytes. -/
structure VncClient.Sends (client : VncClient) (platform : Platform) (text : Text)
    (message : List UInt8) : Prop where
  connected : client.connected = true
  interactive : client.viewOnlyMode = false
  new : some text ≠ client.lastCutText
  array : (toByteArray client.charset text).length < 2 ^ 31
  written : ∃ before, client.nativeSendCutText platform true (toByteArray client.charset text)
    client.nativeIsUTF8CutTextSupported = some (before ++ [message])

/-- The client refuses the message: it takes at most `2 ^ 20` bytes behind the header of a message,
and as many of a text for the extended clipboard, with its null byte. -/
def VncClient.Refuses (client : VncClient) (text : Text) (message : List UInt8) : Prop :=
  2 ^ 20 < (message.drop 8).length ∨
    client.charset = .utf8 ∧ 2 ^ 20 < (toByteArray .utf8 text).length + 1

theorem sendCutText_of_sends (sends : client.Sends platform text message) :
    ∃ sent, client.sendCutText platform true text =
      { client with sent := sent, lastCutText := some text } := by
  obtain ⟨before, written⟩ := sends.written
  refine ⟨client.sent ++ (before ++ [message]), ?_⟩
  have native : (if client.nativeIsUTF8CutTextSupported = true then
        client.nativeSendCutText platform true (toByteArray .utf8 text) true
      else client.nativeSendCutText platform true (toByteArray .iso88591 text) false) =
        some (before ++ [message]) := by
    rw [← written]
    unfold VncClient.charset
    split_ifs with supported
    · rw [supported]
    · rw [Bool.not_eq_true] at supported
      rw [supported]
  unfold VncClient.sendCutText
  rw [if_pos (by rw [sends.connected, sends.interactive]; rfl), if_pos sends.new]
  dsimp only
  rw [native]

/-- The messages that are sent. -/
theorem messages_of_sends (sends : client.Sends platform text message) :
    ∃ messages, messages.getLast? = some message ∧
      (if client.nativeIsUTF8CutTextSupported then
        Rfb.SendClientCutTextUTF8 platform.zlib client.extendedClipboardServerCapabilities
          (toByteArray client.charset text)
      else some (Rfb.SendClientCutText client.supportsClientCutText
        (toByteArray client.charset text))) = some messages := by
  obtain ⟨before, written⟩ := sends.written
  exact ⟨before ++ [message], List.getLast?_concat, (Option.filter_eq_some_iff.mp written).1⟩

/-- The message with a text that is sent as Latin-1. -/
theorem message_of_plain (sends : client.Sends platform text message)
    (plain : client.nativeIsUTF8CutTextSupported = false) :
    message = Rfb.clientCutTextMsg (toByteArray client.charset text).length
      (toByteArray client.charset text) := by
  obtain ⟨messages, last, sent⟩ := messages_of_sends sends
  rw [plain, if_neg Bool.false_ne_true, Option.some_inj, Rfb.SendClientCutText] at sent
  rw [← sent] at last
  split at last
  · exact (Option.some.inj last).symm
  · cases last

/-- The message with a text that is sent to the extended clipboard. -/
theorem message_of_extended (sends : client.Sends platform text message)
    (extended : client.nativeIsUTF8CutTextSupported = true) :
    (toByteArray client.charset text).length + 1 < 2 ^ 31 ∧
      ∃ cbuf, Rfb.compressedText platform.zlib (toByteArray client.charset text) = some cbuf ∧
        message = Rfb.providedMsg cbuf := by
  obtain ⟨messages, last, sent⟩ := messages_of_sends sends
  rw [if_pos extended, Rfb.SendClientCutTextUTF8, if_pos (of_decide_eq_true extended),
    Rfb.sendExtClientCutTextProvide] at sent
  split at sent
  next small =>
    obtain ⟨cbuf, compressed, rfl⟩ := Option.map_eq_some_iff.mp sent
    exact ⟨small, cbuf, compressed, (Option.some.inj last).symm⟩
  next => cases sent

/-- A message that the client refuses does not reach the observer. -/
theorem gotXCutTexts_of_refused {bytes : List UInt8}
    (refused : (Rfb.rfbServerCutText platform.zlib platform.size).run bytes = none) :
    (client.processCutText platform bytes).gotXCutTexts = client.gotXCutTexts := by
  rw [VncClient.processCutText, refused]

theorem processCutText_of_text {bytes received rest : List UInt8} {isUTF8 : Bool}
    (ran : (Rfb.rfbServerCutText platform.zlib platform.size).run bytes =
      some (.text received isUTF8, rest)) :
    client.processCutText platform bytes = client.cbGotXCutText platform received isUTF8 := by
  rw [VncClient.processCutText, ran]

theorem echo_ignored_iff_of_plain (sends : client.Sends platform text message)
    (plain : client.nativeIsUTF8CutTextSupported = false) (sent : List (List UInt8)) :
    (({ client with sent := sent, lastCutText := some text } : VncClient).processCutText platform
        (message.drop 1)).gotXCutTexts = client.gotXCutTexts ↔
      Latin1 text ∨ client.Refuses text message := by
  have charset : client.charset = .iso88591 := if_neg (by rw [plain]; decide)
  have array := sends.array
  have echo := Rfb.run_clientCutText platform.zlib platform.size array
  have refuses : client.Refuses text message ↔ 2 ^ 20 < (toByteArray client.charset text).length := by
    rw [VncClient.Refuses, message_of_plain sends plain, Rfb.drop_clientCutTextMsg]
    exact or_iff_left fun both => Charset.noConfusion (charset.symm.trans both.1)
  rw [refuses, message_of_plain sends plain, charset]
  rw [charset] at echo
  by_cases long : 2 ^ 20 < (toByteArray .iso88591 text).length
  · rw [if_pos long] at echo
    exact iff_of_true (gotXCutTexts_of_refused echo) (Or.inr long)
  · rw [if_neg long] at echo
    rw [or_iff_left long, ← decode_iso88591_eq_iff platform.malformed, processCutText_of_text echo]
    exact (gotXCutTexts_cbGotXCutText_iff _ _ _ _).trans Option.some_inj

theorem echo_ignored_iff_of_extended (sends : client.Sends platform text message)
    (extended : client.nativeIsUTF8CutTextSupported = true) (sent : List (List UInt8)) :
    (({ client with sent := sent, lastCutText := some text } : VncClient).processCutText platform
        (message.drop 1)).gotXCutTexts = client.gotXCutTexts ↔ client.Refuses text message := by
  have charset : client.charset = .utf8 := if_pos extended
  obtain ⟨small, cbuf, compressed, written⟩ := message_of_extended sends extended
  have echo := Rfb.run_providedMsg platform.size compressed small
  rw [VncClient.Refuses, charset, and_iff_right rfl, written, Rfb.providedMsg,
    Rfb.drop_clientCutTextMsg, List.length_append, length_bigEndianBytes, ← Rfb.providedMsg]
  rw [charset] at echo
  split at echo
  next long => exact iff_of_true (gotXCutTexts_of_refused echo) long
  next short =>
    refine iff_of_false ?_ short
    rw [processCutText_of_text echo]
    refine (gotXCutTexts_cbGotXCutText_iff _ _ _ _).not.mpr fun same => ?_
    exact decode_utf8_null_ne platform.malformed text (Option.some.inj same)

/-- A text that the client sent and that the server sends back as the same message does not reach
the observer just when the server takes Latin-1 and the text is Latin-1, or the client refuses the
message. -/
theorem echo_ignored_iff (sends : client.Sends platform text message) :
    ((client.sendCutText platform true text).processCutText platform
        (message.drop 1)).gotXCutTexts = client.gotXCutTexts ↔
      client.charset = .iso88591 ∧ Latin1 text ∨ client.Refuses text message := by
  obtain ⟨sent, after⟩ := sendCutText_of_sends sends
  rw [after]
  cases supported : client.nativeIsUTF8CutTextSupported with
  | false =>
    have charset : client.charset = .iso88591 := if_neg (by rw [supported]; decide)
    rw [charset, and_iff_right rfl]
    exact echo_ignored_iff_of_plain sends supported sent
  | true =>
    have charset : client.charset = .utf8 := if_pos supported
    rw [charset, or_iff_right fun both => Charset.noConfusion both.1]
    exact echo_ignored_iff_of_extended sends supported sent

/-- A client of a server that takes Latin-1. -/
def latin1Client : VncClient where
  connected := true
  viewOnlyMode := false
  extendedClipboardServerCapabilities := 0
  supportsClientCutText := true

/-- A client of a server with the extended clipboard. -/
def utf8Client : VncClient :=
  { latin1Client with extendedClipboardServerCapabilities := Rfb.rfbExtendedClipboard_Text }

/-- The size and the bytes of the text "a", with its null byte. -/
def providedA : List UInt8 := [0, 0, 0, 2, 0x61, 0]

/-- What `deflate` makes of them. -/
def compressedA : List UInt8 := [120, 156, 98, 96, 96, 96, 74, 100, 0, 0, 0, 0, 255, 255]

/-- All other data is left as it is, behind a byte. -/
def deflateA (data : List UInt8) : List UInt8 :=
  if data = providedA then compressedA else 0 :: data

def inflateA (bytes : List UInt8) : List UInt8 :=
  if bytes = compressedA then providedA else bytes.drop 1

theorem inflateA_deflateA (data : List UInt8) : inflateA (deflateA data) = data := by
  unfold inflateA deflateA
  by_cases same : data = providedA
  · rw [if_pos same, if_pos rfl, same]
  · have other : (0 :: data : List UInt8) ≠ compressedA := fun equal =>
      absurd (List.cons.inj equal).1 (by decide)
    rw [if_neg same, if_neg other]
    rfl

def plainZlib : Zlib where
  Stream := List UInt8
  compressBound size := size + size / 4096 + size / 16384 + size / 2 ^ 25 + 13
  deflate room data := (some (deflateA data)).filter fun bytes => bytes.length ≤ room
  inflateInit := inflateA
  inflate stream room := (.Z_OK, stream.take room, stream.drop room)
  bounded size := by omega
  fits := by
    intro room data bytes compressed
    exact of_decide_eq_true (Option.filter_eq_some_iff.mp compressed).2
  inflates := by
    intro room first second bytes compressed _ _
    obtain rfl := Option.some.inj (Option.filter_eq_some_iff.mp compressed).1
    refine ⟨second, [], ?_, ?_⟩
    · rw [inflateA_deflateA, List.take_left, List.drop_left]
    · rw [List.take_length, List.drop_length]

def plainPlatform : Platform where
  zlib := plainZlib
  malformed _ := [0xFFFD]
  size := [0, 0, 0, 0]

/-- The text "é" on a server that takes Latin-1. -/
theorem echo_ignored_eAcute :
    ((latin1Client.sendCutText plainPlatform true [0xE9]).processCutText plainPlatform
      ((Rfb.clientCutTextMsg 1 [0xE9]).drop 1)).gotXCutTexts = [] := by
  have sends : latin1Client.Sends plainPlatform [0xE9] (Rfb.clientCutTextMsg 1 [0xE9]) :=
    ⟨rfl, rfl, by decide, by decide, [], by decide⟩
  refine (echo_ignored_iff sends).mpr (Or.inl ⟨rfl, fun unit member => ?_⟩)
  rw [List.mem_singleton.mp member]
  decide

/-- On a server that takes Latin-1 the text "€" comes back as a question mark, and from the
extended clipboard the text "a" comes back with a null byte. -/
theorem echo_observed_euro :
    latin1Client.Sends plainPlatform [0x20AC] (Rfb.clientCutTextMsg 1 [0x3F]) ∧
      ((latin1Client.sendCutText plainPlatform true [0x20AC]).processCutText plainPlatform
        ((Rfb.clientCutTextMsg 1 [0x3F]).drop 1)).gotXCutTexts = [[0x3F]] ∧
      utf8Client.Sends plainPlatform [0x61] (Rfb.providedMsg compressedA) ∧
      ((utf8Client.sendCutText plainPlatform true [0x61]).processCutText plainPlatform
        ((Rfb.providedMsg compressedA).drop 1)).gotXCutTexts = [[0x61, 0]] := by
  refine ⟨⟨rfl, rfl, by decide, by decide, [], by decide⟩, by decide,
    ⟨rfl, rfl, by decide, by decide, [Rfb.sendExtClientCutTextNotify], by decide⟩, by decide⟩

end TermPlux.CutText
