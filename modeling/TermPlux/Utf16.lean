/-
This file is the library for strings of UTF-16 code units and their conversion to
UTF-8. A converter reads a surrogate pair as one character and replaces a lone
surrogate. It therefore gives the UTF-8 of a text when the text is converted in
one piece, and still does so unit by unit as long as the text has no character
outside the basic multilingual plane.
-/

import Mathlib.Tactic.Common

namespace TermPlux.Utf16

/-! ### Code units -/

def IsHighSurrogate (unit : UInt16) : Prop := 0xD800 ≤ unit.toNat ∧ unit.toNat < 0xDC00

def IsLowSurrogate (unit : UInt16) : Prop := 0xDC00 ≤ unit.toNat ∧ unit.toNat < 0xE000

instance (unit : UInt16) : Decidable (IsHighSurrogate unit) := inferInstanceAs (Decidable (_ ∧ _))

instance (unit : UInt16) : Decidable (IsLowSurrogate unit) := inferInstanceAs (Decidable (_ ∧ _))

/-- The character of a surrogate pair. -/
def combine (high low : UInt16) : Char :=
  Char.ofNat (0x10000 + (high.toNat - 0xD800) * 0x400 + (low.toNat - 0xDC00))

/-- The code units of a character. -/
def encode (character : Char) : List UInt16 :=
  if character.toNat < 0x10000 then [UInt16.ofNat character.toNat]
  else
    [UInt16.ofNat (0xD800 + (character.toNat - 0x10000) / 0x400),
      UInt16.ofNat (0xDC00 + (character.toNat - 0x10000) % 0x400)]

/-- A well-formed string of code units. -/
def encodeText (text : List Char) : List UInt16 := text.flatMap encode

/-! ### Conversion to UTF-8 -/

/-- The UTF-8 of `U+FFFD`. -/
def replacement : List UInt8 := [0xEF, 0xBF, 0xBD]

def unitToUtf8 (unit : UInt16) : List UInt8 :=
  if IsHighSurrogate unit ∨ IsLowSurrogate unit then replacement
  else String.utf8EncodeChar (Char.ofNat unit.toNat)

/-- The UTF-8 of a string of code units. -/
def toUtf8 : List UInt16 → List UInt8
  | [] => []
  | [unit] => unitToUtf8 unit
  | unit :: next :: rest =>
    if IsHighSurrogate unit ∧ IsLowSurrogate next then
      String.utf8EncodeChar (combine unit next) ++ toUtf8 rest
    else unitToUtf8 unit ++ toUtf8 (next :: rest)

theorem toNat_lt (character : Char) : character.toNat < 0x110000 := by
  rcases character.valid with below | ⟨-, above⟩
  · exact Nat.lt_trans below (by decide)
  · exact above

theorem not_surrogate (character : Char) (plane : character.toNat < 0x10000) :
    ¬(IsHighSurrogate (UInt16.ofNat character.toNat) ∨
      IsLowSurrogate (UInt16.ofNat character.toNat)) := by
  have unit : (UInt16.ofNat character.toNat).toNat = character.toNat :=
    UInt16.toNat_ofNat_of_lt' plane
  have valid : character.toNat < 0xD800 ∨ 0xDFFF < character.toNat := by
    rcases character.valid with below | ⟨above, -⟩
    · exact .inl below
    · exact .inr above
  unfold IsHighSurrogate IsLowSurrogate
  omega

theorem unitToUtf8_of_plane (character : Char) (plane : character.toNat < 0x10000) :
    unitToUtf8 (UInt16.ofNat character.toNat) = String.utf8EncodeChar character := by
  unfold unitToUtf8
  rw [if_neg (not_surrogate character plane), UInt16.toNat_ofNat_of_lt' plane, Char.ofNat_toNat]

/-- The two code units of a character outside the plane are a surrogate pair of it. -/
theorem encode_pair (character : Char) (outside : ¬character.toNat < 0x10000) :
    ∃ high low, encode character = [high, low] ∧ IsHighSurrogate high ∧ IsLowSurrogate low ∧
      combine high low = character := by
  have bound := toNat_lt character
  refine ⟨_, _, if_neg outside, ?_, ?_, ?_⟩
  · unfold IsHighSurrogate
    rw [UInt16.toNat_ofNat_of_lt' (by simp [UInt16.size]; omega)]
    omega
  · unfold IsLowSurrogate
    rw [UInt16.toNat_ofNat_of_lt' (by simp [UInt16.size]; omega)]
    omega
  · unfold combine
    rw [UInt16.toNat_ofNat_of_lt' (by simp [UInt16.size]; omega),
      UInt16.toNat_ofNat_of_lt' (by simp [UInt16.size]; omega)]
    have same : 0x10000 + (0xD800 + (character.toNat - 0x10000) / 0x400 - 0xD800) * 0x400 +
        (0xDC00 + (character.toNat - 0x10000) % 0x400 - 0xDC00) = character.toNat := by
      omega
    rw [same, Char.ofNat_toNat]

theorem toUtf8_encode_append (character : Char) (rest : List UInt16) :
    toUtf8 (encode character ++ rest) = String.utf8EncodeChar character ++ toUtf8 rest := by
  by_cases plane : character.toNat < 0x10000
  · have single : encode character = [UInt16.ofNat character.toNat] := if_pos plane
    rw [single, List.singleton_append, ← unitToUtf8_of_plane character plane]
    cases rest with
    | nil => simp [toUtf8]
    | cons next rest =>
      exact if_neg fun pair => not_surrogate character plane (.inl pair.1)
  · obtain ⟨high, low, pair, isHigh, isLow, combined⟩ := encode_pair character plane
    rw [pair, ← combined]
    exact if_pos ⟨isHigh, isLow⟩

/-- In one piece, a well-formed string is converted to the UTF-8 of its text. -/
theorem toUtf8_encodeText (text : List Char) :
    toUtf8 (encodeText text) = text.flatMap String.utf8EncodeChar := by
  induction text with
  | nil => rfl
  | cons character rest inductionHypothesis =>
    rw [encodeText, List.flatMap_cons, toUtf8_encode_append, List.flatMap_cons,
      ← inductionHypothesis]
    rfl

/-! ### The characters of a string -/

/-- A character of a string, or a surrogate that has no partner. -/
inductive Point
  | char (character : Char)
  | lone (unit : UInt16)
  deriving DecidableEq

def Point.units : Point → List UInt16
  | .char character => encode character
  | .lone unit => [unit]

def Point.ofUnit (unit : UInt16) : Point :=
  if IsHighSurrogate unit ∨ IsLowSurrogate unit then .lone unit
  else .char (Char.ofNat unit.toNat)

/-- The characters of a string, and the surrogates that have no partner. -/
def points : List UInt16 → List Point
  | [] => []
  | [unit] => [.ofUnit unit]
  | unit :: next :: rest =>
    if IsHighSurrogate unit ∧ IsLowSurrogate next then .char (combine unit next) :: points rest
    else .ofUnit unit :: points (next :: rest)

theorem toNat_ofNat {number : Nat} (valid : number.isValidChar) :
    (Char.ofNat number).toNat = number := by
  unfold Char.ofNat
  rw [dif_pos valid]
  rfl

theorem encode_ofNat {unit : UInt16} (plain : ¬(IsHighSurrogate unit ∨ IsLowSurrogate unit)) :
    encode (Char.ofNat unit.toNat) = [unit] := by
  have below : unit.toNat < 0x10000 := unit.toNat_lt
  have valid : unit.toNat.isValidChar := by
    unfold IsHighSurrogate IsLowSurrogate at plain
    unfold Nat.isValidChar
    omega
  unfold encode
  rw [toNat_ofNat valid, if_pos below, UInt16.ofNat_toNat]

theorem encode_combine {high low : UInt16} (isHigh : IsHighSurrogate high)
    (isLow : IsLowSurrogate low) : encode (combine high low) = [high, low] := by
  unfold IsHighSurrogate at isHigh
  unfold IsLowSurrogate at isLow
  have valid : (0x10000 + (high.toNat - 0xD800) * 0x400 + (low.toNat - 0xDC00)).isValidChar := by
    unfold Nat.isValidChar
    omega
  have first : 0xD800 + (0x10000 + (high.toNat - 0xD800) * 0x400 + (low.toNat - 0xDC00) -
      0x10000) / 0x400 = high.toNat := by omega
  have second : 0xDC00 + (0x10000 + (high.toNat - 0xD800) * 0x400 + (low.toNat - 0xDC00) -
      0x10000) % 0x400 = low.toNat := by omega
  unfold encode combine
  rw [toNat_ofNat valid, if_neg (by omega), first, second, UInt16.ofNat_toNat, UInt16.ofNat_toNat]

theorem units_ofUnit (unit : UInt16) : (Point.ofUnit unit).units = [unit] := by
  unfold Point.ofUnit
  split
  · rfl
  next plain => exact encode_ofNat plain

/-- Taking a string apart loses nothing. -/
theorem flatMap_units_points (text : List UInt16) : (points text).flatMap Point.units = text := by
  induction text using points.induct with
  | case1 => rfl
  | case2 unit => exact (List.append_nil _).trans (units_ofUnit unit)
  | case3 unit next rest pair inductionHypothesis =>
    rw [points, if_pos pair, List.flatMap_cons, inductionHypothesis]
    exact congrArg (· ++ rest) (encode_combine pair.1 pair.2)
  | case4 unit next rest apart inductionHypothesis =>
    rw [points, if_neg apart, List.flatMap_cons, inductionHypothesis, units_ofUnit]
    rfl

end TermPlux.Utf16
