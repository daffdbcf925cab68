/-
This file is a library for maps that keep their keys in the order of insertion,
as lists of entries. Overwriting the value of a key keeps its place, and a new
key comes last. Either way the value of that key is the new one and those of all
other keys are as before, and distinct keys stay distinct. A unique map is one
with distinct keys, into which a log of writes is put and from which keys are
removed. Removing the values of a map from its own keys reads the values while
the map changes, and only its outcome for at most one such key is settled.
-/

import Mathlib.Data.Bool.Basic
import Mathlib.Data.List.Basic
import Mathlib.Data.List.Nodup
import TermPlux.Overwrites

namespace TermPlux.LinkedMap

variable {Key Value : Type} [DecidableEq Key]

def containsKey (entries : List (Key × Value)) (key : Key) : Bool :=
  (entries.lookup key).isSome

/-- Overwrites the value of a key, where the map has it. -/
def update (entries : List (Key × Value)) (key : Key) (value : Value) : List (Key × Value) :=
  entries.map fun entry => if entry.1 = key then (key, value) else entry

/-- Sets the value of a key, which comes last where it is new. -/
def put (entries : List (Key × Value)) (key : Key) (value : Value) : List (Key × Value) :=
  if containsKey entries key then update entries key value else entries ++ [(key, value)]

def keys (entries : List (Key × Value)) : List Key :=
  entries.map Prod.fst

variable {entries : List (Key × Value)} {key other : Key} {value : Value}

/-! ### Reading after writing -/

theorem lookup_update (entries : List (Key × Value)) (key other : Key) (value : Value) :
    (update entries key value).lookup other =
      if other = key then (entries.lookup key).map fun _ => value else entries.lookup other := by
  induction entries with
  | nil => simp [update]
  | cons entry rest inductionHypothesis =>
    obtain ⟨first, held⟩ := entry
    unfold update at inductionHypothesis ⊢
    rw [List.map_cons]
    grind

theorem lookup_update_of_contains (contains : containsKey entries key) :
    (update entries key value).lookup key = some value := by
  obtain ⟨held, found⟩ := Option.isSome_iff_exists.mp contains
  rw [lookup_update, if_pos rfl, found, Option.map_some]

theorem lookup_update_of_ne (different : other ≠ key) :
    (update entries key value).lookup other = entries.lookup other := by
  rw [lookup_update, if_neg different]

theorem lookup_put : (put entries key value).lookup key = some value := by
  unfold put
  split
  next contains => exact lookup_update_of_contains contains
  next absent =>
    rw [List.lookup_append, Option.not_isSome_iff_eq_none.mp absent, Option.none_or,
      List.lookup_cons_self]

theorem lookup_put_of_ne (different : other ≠ key) :
    (put entries key value).lookup other = entries.lookup other := by
  unfold put
  split
  · exact lookup_update_of_ne different
  · have unequal : (other == key) = false := beq_eq_false_iff_ne.mpr different
    rw [List.lookup_append, List.lookup_cons, unequal, List.lookup_nil, Option.or_none]

theorem update_update (entries : List (Key × Value)) (key : Key) (first second : Value) :
    update (update entries key first) key second = update entries key second := by
  unfold update
  rw [List.map_map]
  refine List.map_congr_left fun entry _ => ?_
  by_cases same : entry.1 = key <;> simp [same]

/-! ### The keys -/

theorem keys_update (entries : List (Key × Value)) (key : Key) (value : Value) :
    keys (update entries key value) = keys entries := by
  unfold keys update
  rw [List.map_map]
  refine List.map_congr_left fun entry _ => ?_
  by_cases same : entry.1 = key <;> simp [same]

theorem containsKey_iff : containsKey entries key ↔ key ∈ keys entries := by
  unfold containsKey keys
  rw [List.lookup_isSome_iff, List.mem_map]
  refine exists_congr fun entry => and_congr_right fun _ => ?_
  rw [beq_iff_eq, eq_comm]

theorem nodup_keys_put (distinct : (keys entries).Nodup) :
    (keys (put entries key value)).Nodup := by
  unfold put
  split
  · rw [keys_update]
    exact distinct
  next absent =>
    have fresh : key ∉ keys entries := fun member => absent (containsKey_iff.mpr member)
    have last : keys (entries ++ [(key, value)]) = (keys entries).concat key := by
      unfold keys
      rw [List.map_append, List.concat_eq_append]
      rfl
    rw [last]
    exact distinct.concat fresh

/-- An entry of a map that was written is the new one, or was there before. -/
theorem mem_update {entry : Key × Value} (member : entry ∈ update entries key value) :
    entry = (key, value) ∨ entry ∈ entries := by
  obtain ⟨held, was, rfl⟩ := List.mem_map.mp member
  split
  · exact .inl rfl
  · exact .inr was

theorem mem_put {entry : Key × Value} (member : entry ∈ put entries key value) :
    entry = (key, value) ∨ entry ∈ entries := by
  unfold put at member
  split at member
  · exact mem_update member
  · exact (List.mem_append.mp member).symm.imp_left List.mem_singleton.mp

/-! ### Maps with distinct keys -/

/-- A map in which no key has two entries. -/
structure UniqueMap (Key Value : Type) where
  entries : List (Key × Value)
  distinct : (keys entries).Nodup

namespace UniqueMap

def empty : UniqueMap Key Value := ⟨[], List.nodup_nil⟩

def lookup (map : UniqueMap Key Value) (key : Key) : Option Value := map.entries.lookup key

def keys (map : UniqueMap Key Value) : List Key := LinkedMap.keys map.entries

def values (map : UniqueMap Key Value) : List Value := map.entries.map Prod.snd

def put (map : UniqueMap Key Value) (write : Key × Value) : UniqueMap Key Value :=
  ⟨LinkedMap.put map.entries write.1 write.2, nodup_keys_put map.distinct⟩

def putAll (map : UniqueMap Key Value) (log : List (Key × Value)) : UniqueMap Key Value :=
  log.foldl put map

def removeAll (map : UniqueMap Key Value) (dropped : List Key) : UniqueMap Key Value where
  entries := map.entries.filter fun entry => entry.1 ∉ dropped
  distinct := map.distinct.sublist (List.filter_sublist.map Prod.fst)

variable {map : UniqueMap Key Value}

theorem mem_entries_iff : (key, value) ∈ map.entries ↔ map.lookup key = some value := by
  obtain ⟨entries, distinct⟩ := map
  show _ ↔ entries.lookup key = some value
  induction entries with
  | nil => exact iff_of_false List.not_mem_nil fun found => by cases found
  | cons entry rest inductionHypothesis =>
    obtain ⟨first, held⟩ := entry
    obtain ⟨fresh, others⟩ := List.nodup_cons.mp distinct
    rw [List.mem_cons, inductionHypothesis others, List.lookup_cons, Prod.mk.injEq]
    by_cases same : key = first
    · subst same
      have absent : rest.lookup key ≠ some value := by
        intro found
        have member : (key, value) ∈ rest := (inductionHypothesis others).mpr found
        have kept : key ∈ LinkedMap.keys rest := List.mem_map_of_mem member
        exact fresh kept
      rw [beq_self_eq_true, Option.some_inj, or_iff_left absent, and_iff_right rfl, eq_comm]
    · rw [beq_eq_false_iff_ne.mpr same, or_iff_right fun both => same both.1]

theorem mem_keys_iff : key ∈ map.keys ↔ ∃ value, map.lookup key = some value := by
  rw [keys, ← containsKey_iff, containsKey, Option.isSome_iff_exists, lookup]

theorem mem_values_iff : value ∈ map.values ↔ ∃ key, map.lookup key = some value := by
  rw [values, List.mem_map]
  constructor
  · rintro ⟨⟨key, held⟩, member, rfl⟩
    exact ⟨key, mem_entries_iff.mp member⟩
  · rintro ⟨key, found⟩
    exact ⟨(key, value), mem_entries_iff.mpr found, rfl⟩

theorem lookup_put (map : UniqueMap Key Value) (write : Key × Value) (key : Key) :
    (map.put write).lookup key = if write.1 = key then some write.2 else map.lookup key := by
  split
  next same => exact same ▸ LinkedMap.lookup_put
  next different => exact lookup_put_of_ne (Ne.symm different)

/-- A key has the last value written to it, or the one it had. -/
theorem lookup_putAll (map : UniqueMap Key Value) (log : List (Key × Value)) (key : Key) :
    (map.putAll log).lookup key = (Overwrites.lastWrite log key).or (map.lookup key) := by
  induction log generalizing map with
  | nil => rw [Overwrites.lastWrite_nil, Option.none_or]; rfl
  | cons write rest inductionHypothesis =>
    have tail : (map.putAll (write :: rest)).lookup key = ((map.put write).putAll rest).lookup key :=
      rfl
    rw [tail, inductionHypothesis, lookup_put, Overwrites.lastWrite_cons, Option.or_assoc]
    by_cases same : write.1 = key
    · rw [if_pos same, if_pos same, Option.some_or]
    · rw [if_neg same, if_neg same, Option.none_or]

theorem lookup_removeAll_eq_some_iff {dropped : List Key} :
    (map.removeAll dropped).lookup key = some value ↔
      map.lookup key = some value ∧ key ∉ dropped := by
  rw [← mem_entries_iff, ← mem_entries_iff, removeAll, List.mem_filter, decide_eq_true_eq]

theorem removeAll_congr {dropped other : List Key}
    (same : ∀ key ∈ map.keys, key ∈ dropped ↔ key ∈ other) :
    map.removeAll dropped = map.removeAll other := by
  rw [removeAll, removeAll, mk.injEq]
  refine List.filter_congr fun entry member => ?_
  rw [decide_eq_decide, same entry.1 (List.mem_map_of_mem member)]

theorem removeAll_eq_self {dropped : List Key} (absent : ∀ key ∈ map.keys, key ∉ dropped) :
    map.removeAll dropped = map := by
  obtain ⟨entries, distinct⟩ := map
  rw [removeAll, mk.injEq]
  refine List.filter_eq_self.mpr fun entry member => decide_eq_true ?_
  exact absent entry.1 (List.mem_map_of_mem member)

end UniqueMap

/-! ### Removing the values of a map from its own keys -/

variable {Item : Type} [DecidableEq Item]

/-- At most one key is one of the values. -/
def UniqueMap.AtMostOneShared (map : UniqueMap Item Item) : Prop :=
  ∀ first ∈ map.keys, first ∈ map.values → ∀ second ∈ map.keys, second ∈ map.values →
    second = first

instance (map : UniqueMap Item Item) : Decidable map.AtMostOneShared :=
  inferInstanceAs (Decidable (∀ first ∈ map.keys, first ∈ map.values →
    ∀ second ∈ map.keys, second ∈ map.values → second = first))

/-- A removal of the values of a map from its own keys. The values are read from the map while
keys leave it: where several keys are values, the removal may miss some, or fail. -/
structure LiveRemoval (Item : Type) [DecidableEq Item] where
  removeAllValues : UniqueMap Item Item → Option (UniqueMap Item Item)
  only : ∀ {map left : UniqueMap Item Item} {key value : Item},
    removeAllValues map = some left → left.lookup key = some value → map.lookup key = some value
  settled : ∀ map : UniqueMap Item Item, map.AtMostOneShared →
    ∃ left, removeAllValues map = some left ∧
      ∀ key, left.lookup key = (map.removeAll map.values).lookup key

namespace LiveRemoval

/-- The removal that fails where more than one key is a value. -/
def failing : LiveRemoval Item where
  removeAllValues map := if map.AtMostOneShared then some (map.removeAll map.values) else none
  only := by
    intro map left key value removed found
    split at removed
    · obtain rfl := Option.some.inj removed
      exact (UniqueMap.lookup_removeAll_eq_some_iff.mp found).1
    · cases removed
  settled _ single := ⟨_, if_pos single, fun _ => rfl⟩

theorem removeAllValues_failing {map : UniqueMap Item Item} (several : ¬map.AtMostOneShared) :
    failing.removeAllValues map = none :=
  if_neg several

/-- Removes the value that is now at the index, where there is one. -/
def removeAt (map : UniqueMap Item Item) (index : Nat) : UniqueMap Item Item :=
  map.removeAll map.values[index]?.toList

/-- Reads the values at the first indexes. -/
def removeBelow (map : UniqueMap Item Item) (count : Nat) : UniqueMap Item Item :=
  (List.range count).foldl removeAt map

theorem removeBelow_succ (map : UniqueMap Item Item) (count : Nat) :
    removeBelow map (count + 1) = removeAt (removeBelow map count) count := by
  rw [removeBelow, List.range_succ, List.foldl_append]
  rfl

theorem lookup_of_removeBelow {map : UniqueMap Item Item} {key value : Item} {count : Nat}
    (found : (removeBelow map count).lookup key = some value) : map.lookup key = some value := by
  induction count with
  | zero => exact found
  | succ count inductionHypothesis =>
    rw [removeBelow_succ] at found
    exact inductionHypothesis (UniqueMap.lookup_removeAll_eq_some_iff.mp found).1

/-- Reading by index, nothing is removed up to the one shared key, and nothing after it. -/
theorem removeBelow_of_atMostOneShared {map : UniqueMap Item Item} (single : map.AtMostOneShared)
    (count : Nat) :
    removeBelow map count = map ∧ (∀ value ∈ map.values.take count, value ∉ map.keys) ∨
      removeBelow map count = map.removeAll map.values := by
  induction count with
  | zero => exact Or.inl ⟨rfl, fun value none_ => absurd none_ (by simp)⟩
  | succ count inductionHypothesis =>
    rw [removeBelow_succ, removeAt]
    rcases inductionHypothesis with ⟨whole, before⟩ | cleared
    · rw [whole, List.take_add_one]
      by_cases kept : ∀ value ∈ map.values[count]?.toList, value ∉ map.keys
      · refine Or.inl ⟨UniqueMap.removeAll_eq_self ?_, fun value read => ?_⟩
        · exact fun key present read => kept key read present
        · exact (List.mem_append.mp read).elim (before value) (kept value)
      · push Not at kept
        obtain ⟨value, read, present⟩ := kept
        have found : map.values[count]? = some value := Option.mem_toList.mp read
        have valued : value ∈ map.values := List.mem_of_getElem? found
        refine Or.inr (UniqueMap.removeAll_congr fun key member => ?_)
        rw [found, Option.toList_some, List.mem_singleton]
        constructor
        · rintro rfl
          exact valued
        · exact fun shared => single value present valued key member shared
    · rw [cleared]
      refine Or.inr (UniqueMap.removeAll_eq_self fun key present read => ?_)
      obtain ⟨held, found⟩ := UniqueMap.mem_keys_iff.mp present
      obtain ⟨other, valued⟩ := UniqueMap.mem_values_iff.mp
        (List.mem_of_getElem? (Option.mem_toList.mp read))
      exact (UniqueMap.lookup_removeAll_eq_some_iff.mp found).2
        (UniqueMap.mem_values_iff.mpr
          ⟨other, (UniqueMap.lookup_removeAll_eq_some_iff.mp valued).1⟩)

/-- The removal that reads as many values as there were, by their index. -/
def indexed : LiveRemoval Item where
  removeAllValues map := some (removeBelow map map.values.length)
  only := by
    intro map left key value removed found
    obtain rfl := Option.some.inj removed
    exact lookup_of_removeBelow found
  settled map single := by
    refine ⟨_, rfl, fun key => ?_⟩
    rcases removeBelow_of_atMostOneShared single map.values.length with ⟨whole, before⟩ | cleared
    · rw [List.take_length] at before
      rw [whole, UniqueMap.removeAll_eq_self fun key present valued => before key valued present]
    · rw [cleared]

end LiveRemoval

end TermPlux.LinkedMap
