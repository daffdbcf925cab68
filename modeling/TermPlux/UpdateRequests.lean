/-
This file models the requests for updates: the message that the client library
writes, and what the server library makes of it. The server clips the rectangle of a
request to its screen before it adds it to the region that the client asked for.

Whatever rectangle is requested, the region stays within the screen, and a request
for the whole screen is read as such.
-/

import TermPlux.ServerScreen

namespace TermPlux.Rfb

open Raster

variable {size width height : Nat}

/-! ### The client -/

def rfbFramebufferUpdateRequest : Nat := 3

/-- No resize is in progress. -/
def SendFramebufferUpdateRequest (rect : Rectangle) (incremental : Bool) : List UInt8 :=
  bigEndianBytes 1 rfbFramebufferUpdateRequest ++
    (bigEndianBytes 1 (if incremental then 1 else 0) ++ (bigEndianBytes 2 rect.x ++
      (bigEndianBytes 2 rect.y ++ (bigEndianBytes 2 rect.w ++ bigEndianBytes 2 rect.h))))

/-! ### The server -/

def sz_rfbFramebufferUpdateRequestMsg : Nat := 10

/-- A side that is longer than the room for it is cut off. There may be no room at all. -/
def clipSide (side room : Int) : Option Nat :=
  let side := if side > room then room % 2 ^ 16 else side
  if side > room then none else some side.toNat

/-- The screen is not scaled. -/
def rectSwapIfLEAndClip (width height : Nat) (rect : Rectangle) : Option Rectangle :=
  (clipSide rect.w (width - rect.x)).bind fun w =>
    (clipSide rect.h (height - rect.y)).map fun h => ⟨rect.x, rect.y, w, h⟩

theorem clipSide_le {side room : Int} {clipped : Nat} (clips : clipSide side room = some clipped)
    (natural : 0 ≤ side) : (clipped : Int) ≤ room := by
  unfold clipSide at clips
  dsimp only at clips
  split_ifs at clips <;> cases clips <;> omega

/-- What is left of a rectangle lies in the screen. -/
theorem within_rectSwapIfLEAndClip {rect clipped : Rectangle}
    (clips : rectSwapIfLEAndClip width height rect = some clipped) :
    clipped.Within width height := by
  obtain ⟨w, wide, others⟩ := Option.bind_eq_some_iff.mp clips
  obtain ⟨h, high, rfl⟩ := Option.map_eq_some_iff.mp others
  have right := clipSide_le wide (Int.natCast_nonneg _)
  have bottom := clipSide_le high (Int.natCast_nonneg _)
  unfold Rectangle.Within
  dsimp only
  omega

/-- A rectangle that lies in the screen is not clipped. -/
theorem rectSwapIfLEAndClip_of_within {rect : Rectangle} (within : rect.Within width height) :
    rectSwapIfLEAndClip width height rect = some rect := by
  have right := within.1
  have bottom := within.2
  unfold rectSwapIfLEAndClip clipSide
  dsimp only
  rw [if_neg (show ¬(rect.w : Int) > width - rect.x by omega),
    if_neg (show ¬(rect.w : Int) > width - rect.x by omega),
    if_neg (show ¬(rect.h : Int) > height - rect.y by omega),
    if_neg (show ¬(rect.h : Int) > height - rect.y by omega)]
  rfl

/-- The part of `rfbProcessClientNormalMessage` that reads a request. The other messages are a
parameter. A rectangle of which nothing is left would be stored as an empty span, which is not
modelled. -/
def rfbProcessClientNormalMessage
    (others : Nat → ServerClient size width height → Decoder (ServerClient size width height))
    (server : ServerClient size width height) : Decoder (ServerClient size width height) :=
  .read 1 fun type =>
    if bigEndian type.toList = rfbFramebufferUpdateRequest then
      .read (sz_rfbFramebufferUpdateRequestMsg - 1) fun fur =>
        match clips : rectSwapIfLEAndClip width height
          ⟨field fur.toList 1 2, field fur.toList 3 2, field fur.toList 5 2,
            field fur.toList 7 2⟩ with
        | none => pure server
        | some rect =>
          if some : 0 < rect.w ∧ 0 < rect.h then
            pure (server.request (.rect rect some (within_rectSwapIfLEAndClip clips))
              (field fur.toList 0 1 ≠ 0))
          else .fail
    else others (bigEndian type.toList) server

variable {others : Nat → ServerClient size width height → Decoder (ServerClient size width height)}

/-- The fields of a request whose type was read. -/
def requestFields (rect : Rectangle) (incremental : Bool) : List UInt8 :=
  bigEndianBytes 1 (if incremental then 1 else 0) ++ (bigEndianBytes 2 rect.x ++
    (bigEndianBytes 2 rect.y ++ (bigEndianBytes 2 rect.w ++ bigEndianBytes 2 rect.h)))

theorem field_requestFields {rect : Rectangle} (small : Small (256 ^ 2) rect)
    (incremental : Bool) :
    (⟨field (requestFields rect incremental) 1 2, field (requestFields rect incremental) 3 2,
      field (requestFields rect incremental) 5 2, field (requestFields rect incremental) 7 2⟩ :
        Rectangle) = rect ∧
      decide (field (requestFields rect incremental) 0 1 ≠ 0) = incremental := by
  obtain ⟨⟨left, top⟩, wide, high⟩ := small
  have length (number : Nat) := length_bigEndianBytes 2 number
  have flag (number : Nat) := length_bigEndianBytes 1 number
  unfold requestFields
  constructor
  · congr 1
    · rw [show 1 = 1 + 0 from rfl, field_add (flag _), field_zero (length _),
        bigEndian_bigEndianBytes left]
    · rw [show 3 = 1 + (2 + 0) from rfl, field_add (flag _), field_add (length _),
        field_zero (length _), bigEndian_bigEndianBytes top]
    · rw [show 5 = 1 + (2 + (2 + 0)) from rfl, field_add (flag _), field_add (length _),
        field_add (length _), field_zero (length _), bigEndian_bigEndianBytes wide]
    · rw [show 7 = 1 + (2 + (2 + (2 + 0))) from rfl, field_add (flag _), field_add (length _),
        field_add (length _), field_add (length _), ← List.append_nil (bigEndianBytes 2 rect.h),
        field_zero (length _), bigEndian_bigEndianBytes high]
  · rw [field_zero (flag _)]
    cases incremental <;> rfl

/-- The server reads a request for a rectangle of the screen. -/
theorem run_rfbProcessClientNormalMessage (server : ServerClient size width height)
    {rect : Rectangle} (bounds : width < 256 ^ 2 ∧ height < 256 ^ 2)
    (some : 0 < rect.w ∧ 0 < rect.h) (within : rect.Within width height) (incremental : Bool)
    (rest : List UInt8) :
    (rfbProcessClientNormalMessage others server).run
        (SendFramebufferUpdateRequest rect incremental ++ rest) =
      Option.some (server.request (.rect rect some within) incremental, rest) := by
  obtain ⟨sent, flag⟩ := field_requestFields (small_of_within within bounds.1 bounds.2) incremental
  have length : (requestFields rect incremental).length =
      sz_rfbFramebufferUpdateRequestMsg - 1 := rfl
  show (rfbProcessClientNormalMessage others server).run
    (bigEndianBytes 1 rfbFramebufferUpdateRequest ++ requestFields rect incremental ++ rest) = _
  rw [List.append_assoc, rfbProcessClientNormalMessage,
    Decoder.run_read_append _ (length_bigEndianBytes 1 _)]
  show Decoder.run (.read _ _) _ = _
  rw [Decoder.run_read_append _ length]
  dsimp only [List.Vector.toList]
  split
  · next clips =>
    rw [sent, rectSwapIfLEAndClip_of_within within] at clips
    cases clips
  · next clipped clips =>
    have same := clips
    rw [sent, rectSwapIfLEAndClip_of_within within] at same
    cases same
    rw [dif_pos some]
    exact congrArg (fun incremental => Option.some
      (server.request (.rect rect some within) incremental, rest)) flag

end TermPlux.Rfb
