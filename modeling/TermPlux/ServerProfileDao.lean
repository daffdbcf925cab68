/-
This file models the table of profiles and the statements of `ServerProfileDao` on
it. The primary key is generated for a profile without an ID, as the database does
it: one more than the largest ID the table has ever held, and never the same
again. An ID that is in use makes the statement fail.

A statement can fail at any row, and what it did until then is undone by the
transaction around it.
-/

import Mathlib.Data.List.Forall2
import Mathlib.Data.List.Nodup
import TermPlux.ServerProfile

namespace TermPlux

/-! ### The table -/

/-- The table `profiles` with its entry in the table of used IDs. No two rows have the same ID,
no row is without one, and every ID has been noted as used. -/
structure ProfileTable where
  rows : List ServerProfile
  sequence : ℤ
  unique : (rows.map (·.ID)).Nodup
  identified : ∀ row ∈ rows, row.ID ≠ 0
  used : ∀ row ∈ rows, row.ID.toInt ≤ sequence
  started : 0 ≤ sequence

namespace ProfileTable

variable {table after : ProfileTable} {profile : ServerProfile}

@[ext] theorem ext {other : ProfileTable} (rows : table.rows = other.rows)
    (sequence : table.sequence = other.sequence) : table = other := by
  cases table
  cases other
  cases rows
  cases sequence
  rfl

/-- The table before anything has been inserted. -/
def empty : ProfileTable where
  rows := []
  sequence := 0
  unique := List.nodup_nil
  identified := by simp
  used := by simp
  started := le_rfl

/-- The table with one more row, whose ID is new. -/
def append (table : ProfileTable) (row : ServerProfile) (identified : row.ID ≠ 0)
    (absent : row.ID ∉ table.rows.map (·.ID)) : ProfileTable where
  rows := table.rows ++ [row]
  sequence := max table.sequence row.ID.toInt
  unique := by
    rw [List.map_append, List.map_singleton]
    exact table.unique.append (List.nodup_singleton _) (List.disjoint_singleton.mpr absent)
  identified := by
    intro old member
    rcases List.mem_append.mp member with before | new
    · exact table.identified old before
    · exact List.mem_singleton.mp new ▸ identified
  used := by
    intro old member
    rcases List.mem_append.mp member with before | new
    · exact (table.used old before).trans (le_max_left _ _)
    · exact List.mem_singleton.mp new ▸ le_max_right _ _
  started := table.started.trans (le_max_left _ _)

/-- The ID after the last one used, while there is one. -/
def freshID (table : ProfileTable) : Option { id : Int64 // table.sequence < id.toInt } :=
  if bound : table.sequence + 1 < 2 ^ 63 then
    some ⟨Int64.ofInt (table.sequence + 1), by
      have started := table.started
      rw [Int64.toInt_ofInt_of_le (by omega) bound]
      omega⟩
  else none

theorem absent_of_unused {id : Int64} (unused : table.sequence < id.toInt) :
    id ∉ table.rows.map (·.ID) := by
  intro member
  obtain ⟨row, inside, same⟩ := List.mem_map.mp member
  exact absurd (table.used row inside) (not_le.mpr (same ▸ unused))

theorem ne_zero_of_unused {id : Int64} (unused : table.sequence < id.toInt) : id ≠ 0 := by
  rintro rfl
  exact absurd (table.started.trans_lt unused) (by decide)

/-! ### Statements -/

/-- Why an import or an export fails. -/
inductive Failure
  | io (message : String)
  | serialization
  | database
  deriving DecidableEq

/-- What a statement leaves: how it ended, and the table. -/
abbrev Outcome := Except Failure Unit × ProfileTable

/-- Inserts one row. An ID of zero is stored as null, so that one is generated. -/
def insertRow (table : ProfileTable) (profile : ServerProfile) : Option ProfileTable :=
  if unidentified : profile.ID = 0 then
    table.freshID.map fun fresh =>
      table.append { profile with ID := fresh.1 } (ne_zero_of_unused fresh.2)
        (absent_of_unused fresh.2)
  else if present : profile.ID ∈ table.rows.map (·.ID) then none
  else some (table.append profile unidentified present)

/-- Inserts rows one after another. `failsAfter` says after how many rows the storage fails, if
it does. -/
def insertRows : Option Nat → List ServerProfile → ProfileTable → Outcome
  | _, [], table => (.ok (), table)
  | failsAfter, profile :: rest, table =>
    if failsAfter = some 0 then (.error .database, table)
    else
      match table.insertRow profile with
      | none => (.error .database, table)
      | some after => insertRows (failsAfter.map (· - 1)) rest after

/-- Runs statements as one: where they fail, or the commit does, the table is what it was. -/
def withTransaction (commits : Bool) (body : ProfileTable → Outcome) (table : ProfileTable) :
    Outcome :=
  match body table with
  | (.ok (), after) => if commits then (.ok (), after) else (.error .database, table)
  | (.error failure, _) => (.error failure, table)

/-- `deleteAll`: the used IDs stay noted. -/
def deleteAll (fails : Bool) (table : ProfileTable) : Outcome :=
  if fails then (.error .database, table)
  else
    (.ok (),
      { rows := [], sequence := table.sequence, unique := List.nodup_nil, identified := by simp
        used := by simp, started := table.started })

/-- `insert` of a list, which runs in a transaction of its own. -/
def insert (failsAfter : Option Nat) (commits : Bool) (profiles : List ServerProfile) :
    ProfileTable → Outcome :=
  withTransaction commits (insertRows failsAfter profiles)

/-! ### What they do -/

/-- A transaction that fails leaves the table alone. -/
theorem withTransaction_error {commits : Bool} {body : ProfileTable → Outcome} {failure : Failure}
    (failed : withTransaction commits body table = (.error failure, after)) : after = table := by
  unfold withTransaction at failed
  split at failed
  · split at failed
    · cases failed
    · exact (Prod.mk.inj failed).2.symm
  · exact (Prod.mk.inj failed).2.symm

theorem withTransaction_ok {commits : Bool} {body : ProfileTable → Outcome}
    (succeeded : withTransaction commits body table = (.ok (), after)) :
    body table = (.ok (), after) := by
  unfold withTransaction at succeeded
  split at succeeded
  · next ended =>
    split at succeeded
    · exact ended.trans succeeded
    · cases succeeded
  · cases succeeded

/-- A row that stores a profile: the same but for the ID, which is kept where the profile has
one and was not used before where it has none. -/
def Stores (sequence : ℤ) (profile row : ServerProfile) : Prop :=
  row = { profile with ID := row.ID } ∧ (profile.ID ≠ 0 → row.ID = profile.ID) ∧
    (profile.ID = 0 → sequence < row.ID.toInt)

theorem insertRow_stores (inserted : table.insertRow profile = some after) :
    ∃ row, after.rows = table.rows ++ [row] ∧ Stores table.sequence profile row ∧
      table.sequence ≤ after.sequence := by
  unfold insertRow at inserted
  split at inserted
  · next unidentified =>
    obtain ⟨fresh, -, rfl⟩ := Option.map_eq_some_iff.mp inserted
    exact ⟨{ profile with ID := fresh.1 }, rfl,
      ⟨rfl, fun identified => absurd unidentified identified, fun _ => fresh.2⟩, le_max_left _ _⟩
  · next identified =>
    split at inserted
    · cases inserted
    · cases inserted
      exact ⟨profile, rfl, ⟨rfl, fun _ => rfl, fun zero => absurd zero identified⟩,
        le_max_left _ _⟩

theorem Stores.mono {less more : ℤ} {row : ServerProfile} (older : less ≤ more)
    (stores : Stores more profile row) : Stores less profile row :=
  ⟨stores.1, stores.2.1, fun zero => older.trans_lt (stores.2.2 zero)⟩

/-- Rows that were inserted follow the old ones and store the profiles in order. -/
theorem insertRows_stores {profiles : List ServerProfile} {failsAfter : Option Nat}
    (inserted : insertRows failsAfter profiles table = (.ok (), after)) :
    ∃ added, after.rows = table.rows ++ added ∧
      List.Forall₂ (Stores table.sequence) profiles added := by
  induction profiles generalizing failsAfter table with
  | nil =>
    cases inserted
    exact ⟨[], (List.append_nil _).symm, List.Forall₂.nil⟩
  | cons profile rest inductionHypothesis =>
    unfold insertRows at inserted
    split at inserted
    · cases inserted
    · split at inserted
      · cases inserted
      · next middle first =>
        obtain ⟨row, appended, stored, grown⟩ := insertRow_stores first
        obtain ⟨added, rows, stores⟩ := inductionHypothesis inserted
        refine ⟨row :: added, ?_, .cons stored (stores.imp fun _ _ held => held.mono grown)⟩
        rw [rows, appended, List.append_assoc, List.singleton_append]

/-- Profiles with IDs of their own that the table does not hold are inserted as they are. -/
theorem insertRows_distinct {profiles : List ServerProfile}
    (identified : ∀ profile ∈ profiles, profile.ID ≠ 0)
    (distinct : ((table.rows ++ profiles).map (·.ID)).Nodup) :
    ∃ after, insertRows none profiles table = (.ok (), after) ∧
      after.rows = table.rows ++ profiles := by
  induction profiles generalizing table with
  | nil => exact ⟨table, rfl, (List.append_nil _).symm⟩
  | cons profile rest inductionHypothesis =>
    have own : profile.ID ≠ 0 := identified profile List.mem_cons_self
    have absent : profile.ID ∉ table.rows.map (·.ID) := by
      rw [List.map_append, List.map_cons] at distinct
      intro present
      exact (List.nodup_append.mp distinct).2.2 _ present _ List.mem_cons_self rfl
    have inserted : table.insertRow profile = some (table.append profile own absent) := by
      unfold insertRow
      rw [dif_neg own, dif_neg absent]
    have grown : (table.append profile own absent).rows ++ rest =
        table.rows ++ profile :: rest := List.append_cons .. ▸ rfl
    obtain ⟨after, others, rows⟩ :=
      @inductionHypothesis (table.append profile own absent)
        (fun other member => identified other (List.mem_cons_of_mem _ member)) (grown ▸ distinct)
    refine ⟨after, ?_, rows.trans grown⟩
    unfold insertRows
    rw [inserted]
    exact others

end ProfileTable

end TermPlux
