/-
This file is the library of decoders: programs that read blocks of bytes, each of
a size that may depend on what was read before. A decoder runs over a list of
bytes, or over a source that fetches its blocks in some other way. A source that
delivers a list of bytes piece by piece gives every decoder what the list gives it.

Numbers are read and written in big-endian order.
-/

import Mathlib.Data.List.Induction
import Mathlib.Data.Vector.Basic
import Mathlib.Algebra.Group.Nat.Defs

namespace TermPlux

/-- A program that reads blocks of bytes. -/
inductive Decoder (Value : Type) : Type
  | done (value : Value)
  | fail
  | read (count : Nat) (next : List.Vector UInt8 count → Decoder Value)

namespace Decoder

variable {Value Result Source : Type}

def bind (decoder : Decoder Value) (continuation : Value → Decoder Result) : Decoder Result :=
  match decoder with
  | .done value => continuation value
  | .fail => .fail
  | .read count next => .read count fun block => (next block).bind continuation

instance : Monad Decoder where
  pure := .done
  bind := .bind

/-- The next block of bytes. -/
def block (count : Nat) : Decoder (List.Vector UInt8 count) := .read count .done

/-! ### Running a decoder -/

/-- The value of a decoder on a list of bytes, and the bytes that it leaves. -/
def run : Decoder Value → List UInt8 → Option (Value × List UInt8)
  | .done value, bytes => some (value, bytes)
  | .fail, _ => none
  | .read count next, bytes =>
    if enough : count ≤ bytes.length then
      (next ⟨bytes.take count, by rw [List.length_take, Nat.min_eq_left enough]⟩).run
        (bytes.drop count)
    else none

@[simp] theorem run_pure (value : Value) (bytes : List UInt8) :
    (pure value : Decoder Value).run bytes = some (value, bytes) := rfl

theorem run_bind (decoder : Decoder Value) (continuation : Value → Decoder Result)
    (bytes : List UInt8) :
    (decoder >>= continuation).run bytes =
      (decoder.run bytes).bind fun outcome => (continuation outcome.1).run outcome.2 := by
  show (decoder.bind continuation).run bytes = _
  induction decoder generalizing bytes with
  | done value => rfl
  | fail => rfl
  | read count next inductionHypothesis =>
    rw [Decoder.bind, run, run]
    split
    · exact inductionHypothesis _ _
    · rfl

/-- A decoder whose run is known is followed by its continuation. -/
theorem run_bind_of_run {decoder : Decoder Value} {continuation : Value → Decoder Result}
    {bytes rest : List UInt8} {value : Value} (ran : decoder.run bytes = some (value, rest)) :
    (decoder >>= continuation).run bytes = (continuation value).run rest := by
  rw [run_bind, ran]
  rfl

/-- A decoder that reads a block goes on behind the bytes that begin with it. -/
theorem run_read {count : Nat} (next : List.Vector UInt8 count → Decoder Value)
    (written : List.Vector UInt8 count) (rest : List UInt8) :
    (Decoder.read count next).run (written.toList ++ rest) = (next written).run rest := by
  have length : written.toList.length = count := written.toList_length
  have enough : count ≤ (written.toList ++ rest).length := by
    rw [List.length_append, length]
    exact Nat.le_add_right count rest.length
  have begins : (⟨(written.toList ++ rest).take count,
      by rw [List.length_take, Nat.min_eq_left enough]⟩ : List.Vector UInt8 count) = written :=
    Subtype.ext (List.take_left' length)
  rw [run, dif_pos enough, begins, List.drop_left' length]

theorem run_read_append {count : Nat} (next : List.Vector UInt8 count → Decoder Value)
    {bytes : List UInt8} (length : bytes.length = count) (rest : List UInt8) :
    (Decoder.read count next).run (bytes ++ rest) = (next ⟨bytes, length⟩).run rest :=
  run_read next ⟨bytes, length⟩ rest

theorem run_block {count : Nat} (written : List.Vector UInt8 count) (rest : List UInt8) :
    (block count).run (written.toList ++ rest) = some (written, rest) :=
  run_read .done written rest

/-- Bytes behind those that a decoder reads do not change its value. -/
theorem run_append {decoder : Decoder Value} {bytes rest : List UInt8} {value : Value}
    (ran : decoder.run bytes = some (value, rest)) (more : List UInt8) :
    decoder.run (bytes ++ more) = some (value, rest ++ more) := by
  induction decoder generalizing bytes with
  | done result =>
    cases ran
    rfl
  | fail => cases ran
  | read count next inductionHypothesis =>
    rw [run] at ran
    split at ran
    · next enough =>
      have length : (bytes.take count).length = count := List.length_take_of_le enough
      rw [← List.take_append_drop count bytes, List.append_assoc, run_read_append next length]
      exact inductionHypothesis _ ran
    · cases ran

/-! ### How much is read at once -/

/-- No block that the decoder reads is larger. -/
def ReadsAtMost (limit : Nat) : Decoder Value → Prop
  | .done _ => True
  | .fail => True
  | .read count next => count ≤ limit ∧ ∀ written, (next written).ReadsAtMost limit

theorem ReadsAtMost.bind {limit : Nat} {decoder : Decoder Value}
    {continuation : Value → Decoder Result} (first : decoder.ReadsAtMost limit)
    (later : ∀ value, (continuation value).ReadsAtMost limit) :
    (decoder >>= continuation).ReadsAtMost limit := by
  show (decoder.bind continuation).ReadsAtMost limit
  induction decoder with
  | done value => exact later value
  | fail => trivial
  | read count next inductionHypothesis =>
    exact ⟨first.1, fun written => inductionHypothesis written (first.2 written)⟩

theorem readsAtMost_block {limit count : Nat} (small : count ≤ limit) :
    (block count).ReadsAtMost limit := ⟨small, fun _ => trivial⟩

/-- No block that the decoder reads is larger, apart from those of foreign decoders that it runs. -/
inductive ReadsWithin (limit : Nat) (foreign : Decoder Value → Prop) : Decoder Value → Prop
  | done (value : Value) : ReadsWithin limit foreign (.done value)
  | fail : ReadsWithin limit foreign .fail
  | read {count : Nat} {next : List.Vector UInt8 count → Decoder Value} (small : count ≤ limit)
    (later : ∀ written, ReadsWithin limit foreign (next written)) :
    ReadsWithin limit foreign (.read count next)
  | runs {decoder : Decoder Value} {continuation : Value → Decoder Value}
    (isForeign : foreign decoder) (later : ∀ value, ReadsWithin limit foreign (continuation value)) :
    ReadsWithin limit foreign (decoder.bind continuation)

theorem bind_done (decoder : Decoder Value) : decoder.bind .done = decoder := by
  induction decoder with
  | done value => rfl
  | fail => rfl
  | read count next inductionHypothesis => exact congrArg (Decoder.read count) (funext inductionHypothesis)

theorem bind_bind (decoder : Decoder Value) (first : Value → Decoder Value)
    (second : Value → Decoder Result) :
    (decoder.bind first).bind second = decoder.bind fun value => (first value).bind second := by
  induction decoder with
  | done value => rfl
  | fail => rfl
  | read count next inductionHypothesis => exact congrArg (Decoder.read count) (funext inductionHypothesis)

section ReadsWithin

variable {limit : Nat} {foreign : Decoder Value → Prop} {decoder : Decoder Value}

theorem ReadsWithin.of_foreign (isForeign : foreign decoder) : ReadsWithin limit foreign decoder :=
  decoder.bind_done ▸ .runs isForeign .done

theorem ReadsWithin.of_readsAtMost (small : decoder.ReadsAtMost limit) :
    ReadsWithin limit foreign decoder := by
  induction decoder with
  | done value => exact .done value
  | fail => exact .fail
  | read count next inductionHypothesis =>
    exact .read small.1 fun written => inductionHypothesis written (small.2 written)

theorem ReadsWithin.bind {continuation : Value → Decoder Value}
    (first : ReadsWithin limit foreign decoder)
    (later : ∀ value, ReadsWithin limit foreign (continuation value)) :
    ReadsWithin limit foreign (decoder >>= continuation) := by
  show ReadsWithin limit foreign (decoder.bind continuation)
  induction first with
  | done value => exact later value
  | fail => exact .fail
  | read small _ inductionHypothesis => exact .read small inductionHypothesis
  | runs isForeign _ inductionHypothesis =>
    rw [bind_bind]
    exact .runs isForeign inductionHypothesis

end ReadsWithin

/-! ### What holds of every value -/

/-- Whatever is read, the value satisfies a condition. -/
def Ensures (holds : Value → Prop) : Decoder Value → Prop
  | .done value => holds value
  | .fail => True
  | .read _ next => ∀ written, (next written).Ensures holds

theorem Ensures.bind {before : Value → Prop} {after : Result → Prop} {decoder : Decoder Value}
    {continuation : Value → Decoder Result} (first : decoder.Ensures before)
    (later : ∀ value, before value → (continuation value).Ensures after) :
    (decoder >>= continuation).Ensures after := by
  show (decoder.bind continuation).Ensures after
  induction decoder with
  | done value => exact later value first
  | fail => trivial
  | read count next inductionHypothesis =>
    exact fun written => inductionHypothesis written (first written)

theorem Ensures.of_run {holds : Value → Prop} {decoder : Decoder Value}
    (ensures : decoder.Ensures holds) {bytes rest : List UInt8} {value : Value}
    (ran : decoder.run bytes = some (value, rest)) : holds value := by
  induction decoder generalizing bytes with
  | done result =>
    cases ran
    exact ensures
  | fail => cases ran
  | read count next inductionHypothesis =>
    rw [run] at ran
    split at ran
    · exact inductionHypothesis _ (ensures _) ran
    · cases ran

/-! ### Other sources of bytes -/

/-- The value of a decoder whose blocks are fetched from a source, and the source afterwards. -/
def runFrom (fetch : (count : Nat) → Source → Option (List.Vector UInt8 count × Source)) :
    Decoder Value → Source → Option (Value × Source)
  | .done value, source => some (value, source)
  | .fail, _ => none
  | .read count next, source =>
    (fetch count source).bind fun outcome => (next outcome.1).runFrom fetch outcome.2

/-- Each block that is fetched is the beginning of what the source has to deliver. -/
def Delivers (fetch : (count : Nat) → Source → Option (List.Vector UInt8 count × Source))
    (sound : Source → Prop) (pending : Source → List UInt8) : Prop :=
  ∀ (count : Nat) (source later : Source) (written : List.Vector UInt8 count), sound source →
    fetch count source = some (written, later) →
      sound later ∧ pending source = written.toList ++ pending later

/-- A source that delivers a list of bytes piece by piece gives a decoder what the list gives it. -/
theorem Delivers.runFrom_sound
    {fetch : (count : Nat) → Source → Option (List.Vector UInt8 count × Source)}
    {sound : Source → Prop} {pending : Source → List UInt8}
    (delivers : Delivers fetch sound pending) (decoder : Decoder Value) {source later : Source}
    {value : Value} (fine : sound source) (ran : decoder.runFrom fetch source = some (value, later)) :
    sound later ∧ decoder.run (pending source) = some (value, pending later) := by
  induction decoder generalizing source with
  | done result =>
    cases ran
    exact ⟨fine, rfl⟩
  | fail => cases ran
  | read count next inductionHypothesis =>
    obtain ⟨⟨written, middle⟩, fetched, continued⟩ := Option.bind_eq_some_iff.mp ran
    obtain ⟨kept, split⟩ := delivers count source middle written fine fetched
    rw [split, run_read]
    exact inductionHypothesis written kept continued

/-- A source that fetches every block that it still has to deliver gives a decoder all that the list
gives it. -/
theorem Delivers.runFrom_complete
    {fetch : (count : Nat) → Source → Option (List.Vector UInt8 count × Source)}
    {sound : Source → Prop} {pending : Source → List UInt8}
    (delivers : Delivers fetch sound pending)
    (supplies : ∀ count source, sound source → count ≤ (pending source).length →
      (fetch count source).isSome)
    (decoder : Decoder Value) {source : Source} {value : Value} {rest : List UInt8}
    (fine : sound source) (ran : decoder.run (pending source) = some (value, rest)) :
    ∃ later, decoder.runFrom fetch source = some (value, later) ∧ pending later = rest := by
  induction decoder generalizing source with
  | done result =>
    cases ran
    exact ⟨source, rfl, rfl⟩
  | fail => cases ran
  | read count next inductionHypothesis =>
    have enough : count ≤ (pending source).length := by
      rw [run] at ran
      split at ran
      · assumption
      · cases ran
    obtain ⟨⟨written, middle⟩, fetched⟩ := Option.isSome_iff_exists.mp
      (supplies count source fine enough)
    obtain ⟨kept, split⟩ := delivers count source middle written fine fetched
    rw [split, run_read] at ran
    obtain ⟨later, continued, left⟩ := inductionHypothesis written kept ran
    exact ⟨later, by rw [runFrom, fetched]; exact continued, left⟩

end Decoder

/-! ### Big-endian numbers -/

/-- The number that bytes stand for, the most significant one first. -/
def bigEndian (bytes : List UInt8) : Nat :=
  bytes.foldl (fun number byte => number * 256 + byte.toNat) 0

/-- The bytes of a number, the most significant one first. Higher bytes are cut off. -/
def bigEndianBytes : (count : Nat) → Nat → List UInt8
  | 0, _ => []
  | count + 1, number => bigEndianBytes count (number / 256) ++ [UInt8.ofNat (number % 256)]

theorem length_bigEndianBytes (count number : Nat) : (bigEndianBytes count number).length = count := by
  induction count generalizing number with
  | zero => rfl
  | succ count inductionHypothesis =>
    rw [bigEndianBytes, List.length_append, inductionHypothesis]
    rfl

theorem bigEndian_bigEndianBytes {count number : Nat} (small : number < 256 ^ count) :
    bigEndian (bigEndianBytes count number) = number := by
  induction count generalizing number with
  | zero => exact (Nat.lt_one_iff.mp small).symm
  | succ count inductionHypothesis =>
    have digit : (UInt8.ofNat (number % 256)).toNat = number % 256 :=
      UInt8.toNat_ofNat_of_lt' (Nat.mod_lt number (by decide))
    have rest : bigEndian (bigEndianBytes count (number / 256)) = number / 256 := by
      refine inductionHypothesis (Nat.div_lt_of_lt_mul ?_)
      rw [Nat.mul_comm]
      exact small
    unfold bigEndian at rest ⊢
    rw [bigEndianBytes, List.foldl_append, rest, List.foldl_cons, List.foldl_nil, digit]
    exact Nat.div_add_mod' number 256

theorem bigEndian_lt (bytes : List UInt8) : bigEndian bytes < 256 ^ bytes.length := by
  induction bytes using List.reverseRecOn with
  | nil => exact Nat.zero_lt_one
  | append_singleton bytes byte inductionHypothesis =>
    have digit : byte.toNat < 256 := byte.toNat_lt
    unfold bigEndian at inductionHypothesis ⊢
    rw [List.foldl_append, List.foldl_cons, List.foldl_nil, List.length_append,
      List.length_singleton, Nat.pow_succ]
    omega

/-! ### The fields of a record -/

/-- The number in so many bytes of a record, behind an offset. -/
def field (record : List UInt8) (offset count : Nat) : Nat :=
  bigEndian ((record.drop offset).take count)

theorem field_zero {first : List UInt8} {count : Nat} (length : first.length = count)
    (rest : List UInt8) : field (first ++ rest) 0 count = bigEndian first := by
  rw [field, List.drop_zero, List.take_left' length]

theorem field_add {first : List UInt8} {skipped : Nat} (length : first.length = skipped)
    (rest : List UInt8) (offset count : Nat) :
    field (first ++ rest) (skipped + offset) count = field rest offset count := by
  rw [field, ← List.drop_drop, List.drop_left' length]
  rfl

theorem field_lt (record : List UInt8) (offset count : Nat) :
    field record offset count < 256 ^ count := by
  refine (bigEndian_lt _).trans_le (Nat.pow_le_pow_right (by decide) ?_)
  rw [List.length_take]
  exact Nat.min_le_left count _

end TermPlux
