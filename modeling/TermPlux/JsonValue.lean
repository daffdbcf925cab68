/-
This file is a library for the values of JSON documents: scalars, lists, and maps
that keep their keys in the order of insertion. A value is proper where the keys
of each map in it are distinct, as those of a map in memory are. A codec prints
values and parses texts; it is lawful where parsing gives back each proper value
that was printed, and gives proper values only.
-/

import TermPlux.LinkedMap

namespace TermPlux

inductive JsonValue (Number : Type)
  | null
  | boolean (value : Bool)
  | number (value : Number)
  | string (value : String)
  | list (elements : List (JsonValue Number))
  | map (members : List (String × JsonValue Number))

namespace JsonValue

variable {Number : Type}

/-- The keys of each map are distinct. -/
inductive Proper : JsonValue Number → Prop
  | null : Proper null
  | boolean (value : Bool) : Proper (boolean value)
  | number (value : Number) : Proper (number value)
  | string (value : String) : Proper (string value)
  | list {elements : List (JsonValue Number)} (all : ∀ element ∈ elements, Proper element) :
    Proper (list elements)
  | map {members : List (String × JsonValue Number)} (distinct : (LinkedMap.keys members).Nodup)
    (all : ∀ member ∈ members, Proper member.2) : Proper (map members)

variable {members : List (String × JsonValue Number)} {elements : List (JsonValue Number)}
  {key : String} {value : JsonValue Number}

theorem Proper.element (proper : (JsonValue.list elements).Proper) : ∀ element ∈ elements, element.Proper := by
  cases proper with
  | list all => exact all

theorem Proper.lookup (proper : (JsonValue.map members).Proper) (held : members.lookup key = some value) :
    value.Proper := by
  cases proper with
  | map distinct all =>
    obtain ⟨before, after, rfl, -⟩ := List.lookup_eq_some_iff.mp held
    exact all (key, value) (List.mem_append_right _ List.mem_cons_self)

theorem Proper.update (proper : (JsonValue.map members).Proper) (key : String)
    (fits : value.Proper) :
    (JsonValue.map (LinkedMap.update members key value)).Proper := by
  cases proper with
  | map distinct all =>
    refine .map ((LinkedMap.keys_update members key value).symm ▸ distinct) fun member written => ?_
    rcases LinkedMap.mem_update written with rfl | held
    · exact fits
    · exact all member held

theorem Proper.put (proper : (JsonValue.map members).Proper) (key : String)
    (fits : value.Proper) :
    (JsonValue.map (LinkedMap.put members key value)).Proper := by
  cases proper with
  | map distinct all =>
    refine .map (LinkedMap.nodup_keys_put distinct) fun member written => ?_
    rcases LinkedMap.mem_put written with rfl | held
    · exact fits
    · exact all member held

end JsonValue

/-- A printer and a parser of documents. -/
structure JsonCodec (Number : Type) where
  jsonEncode : JsonValue Number → String
  jsonDecode : String → Option (JsonValue Number)

/-- Decoding inverts encoding. -/
structure JsonCodec.Lawful {Number : Type} (codec : JsonCodec Number) : Prop where
  inverts : ∀ value : JsonValue Number, value.Proper →
    codec.jsonDecode (codec.jsonEncode value) = some value
  proper : ∀ text value, codec.jsonDecode text = some value → value.Proper

end TermPlux
