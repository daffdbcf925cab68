/-
This file is the library of records that are written member by member. A codec
names the columns of a record and says how each of them is written and read; a
column that holds its default is left out, and reading starts from the defaults,
ignores members it does not know and lets a later member of a name win.

What was left out is what reading starts from, so a record that was written reads
back as it was.
-/

import Mathlib.Data.List.Basic
import Mathlib.Logic.Function.Basic

namespace TermPlux

/-- How the columns of a record are named, what they hold by default, and how they are written
and read. -/
structure RecordCodec (Column : Type) (Kind : Column → Type) (Value : Type) where
  columns : List Column
  name : Column → String
  default : ∀ column, Kind column
  write : ∀ column, Kind column → Value
  read : ∀ column, Value → Option (Kind column)

namespace RecordCodec

variable {Column : Type} [DecidableEq Column] {Kind : Column → Type}
  [∀ column, DecidableEq (Kind column)] {Value : Type}

/-- The member of a column, unless it holds its default. -/
def writeMember (codec : RecordCodec Column Kind Value) (record : ∀ column, Kind column)
    (column : Column) : Option (String × Value) :=
  if record column = codec.default column then none
  else some (codec.name column, codec.write column (record column))

def encode (codec : RecordCodec Column Kind Value) (record : ∀ column, Kind column) :
    List (String × Value) :=
  codec.columns.filterMap (codec.writeMember record)

def columnNamed (codec : RecordCodec Column Kind Value) (name : String) : Option Column :=
  codec.columns.find? fun column => codec.name column == name

/-- Reads one member into a record. A member of another name is ignored. -/
def readMember (codec : RecordCodec Column Kind Value) (record : ∀ column, Kind column)
    (member : String × Value) : Option (∀ column, Kind column) :=
  match codec.columnNamed member.1 with
  | none => some record
  | some column => (codec.read column member.2).map (Function.update record column)

def decode (codec : RecordCodec Column Kind Value) (members : List (String × Value)) :
    Option (∀ column, Kind column) :=
  members.foldlM codec.readMember codec.default

/-- Every column is listed and found under its name, and reads back what was written. -/
structure Lawful (codec : RecordCodec Column Kind Value) : Prop where
  complete : ∀ column, column ∈ codec.columns
  named : ∀ column, codec.columnNamed (codec.name column) = some column
  read_write : ∀ column value, codec.read column (codec.write column value) = some value

variable {codec : RecordCodec Column Kind Value}

omit [(column : Column) → DecidableEq (Kind column)] in
/-- A member that was written sets its column. -/
theorem readMember_write (lawful : codec.Lawful) (start : ∀ column, Kind column) (column : Column)
    (value : Kind column) :
    codec.readMember start (codec.name column, codec.write column value) =
      some (Function.update start column value) := by
  unfold readMember
  rw [lawful.named column]
  exact congrArg (Option.map (Function.update start column)) (lawful.read_write column value)

/-- Reading the members of some columns sets those that do not hold their default. -/
theorem foldlM_readMember (lawful : codec.Lawful) (record : ∀ column, Kind column)
    (columns : List Column) (start : ∀ column, Kind column) :
    ∃ result, (columns.filterMap (codec.writeMember record)).foldlM codec.readMember start =
        some result ∧
      ∀ column, result column =
        if column ∈ columns ∧ record column ≠ codec.default column then record column
        else start column := by
  induction columns generalizing start with
  | nil => exact ⟨start, rfl, fun column => by simp⟩
  | cons head rest inductionHypothesis =>
    by_cases default : record head = codec.default head
    · obtain ⟨result, read, holds⟩ := inductionHypothesis start
      have unwritten : codec.writeMember record head = none := if_pos default
      refine ⟨result, by rw [List.filterMap_cons_none unwritten]; exact read, fun column => ?_⟩
      rw [holds column]
      by_cases same : column = head
      · subst same
        simp [default]
      · simp [same]
    · obtain ⟨result, read, holds⟩ :=
        inductionHypothesis (Function.update start head (record head))
      have written : codec.writeMember record head =
          some (codec.name head, codec.write head (record head)) := if_neg default
      refine ⟨result, ?_, fun column => ?_⟩
      · rw [List.filterMap_cons_some written, List.foldlM_cons, readMember_write lawful]
        exact read
      · rw [holds column]
        by_cases same : column = head
        · subst same
          simp [default]
        · simp [same]

/-- A record that was written reads back as it was. -/
theorem decode_encode (lawful : codec.Lawful) (record : ∀ column, Kind column) :
    codec.decode (codec.encode record) = some record := by
  obtain ⟨result, read, holds⟩ := foldlM_readMember lawful record codec.columns codec.default
  have same : result = record := by
    funext column
    rw [holds column]
    split
    · rfl
    · next unset =>
      have default := not_not.mp fun differs => unset ⟨lawful.complete column, differs⟩
      exact default.symm
  exact same ▸ read

end RecordCodec

end TermPlux
