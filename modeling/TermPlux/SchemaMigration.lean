/-
This file is the library for databases of one table that are upgraded version by
version: rows, migrations that copy the common and the renamed columns and fill
the new ones with defaults, and the choice of a path of migrations. What a path
puts into a column is a function of the column's name alone, so it is computed
once as a `Source` -- an old column or a constant -- and a row is never looked at.
-/

import Mathlib.Data.List.Forall2
import Mathlib.Data.List.MinMax
import TermPlux.Overwrites

namespace TermPlux.SchemaMigration

variable {Value : Type}

/-! ### Rows and migrations -/

structure Column (Value : Type) where
  name : String
  defaultValue : Option Value
  deriving DecidableEq

/-- A row as its cells, each under the name of its column. -/
abbrev Row (Value : Type) := List (String × Value)

/-- The row has exactly the columns of the table, in their order. -/
def Row.Fits (columns : List (Column Value)) (row : Row Value) : Prop :=
  row.map Prod.fst = columns.map Column.name

structure RenameColumn where
  fromColumnName : String
  toColumnName : String
  deriving DecidableEq

/-- A migration between two versions, with the updates of a column in all rows that run after
the columns have been copied. -/
structure Migration (Value : Type) where
  fromVersion : Nat
  toVersion : Nat
  renames : List RenameColumn
  onPostMigrate : List (String × Value)
  deriving DecidableEq

/-- The old name of a column. -/
def Migration.oldName (migration : Migration Value) (name : String) : String :=
  ((migration.renames.find? fun rename => rename.toColumnName = name).map
    RenameColumn.fromColumnName).getD name

def Migration.copyCell (migration : Migration Value) (row : Row Value) (column : Column Value) :
    Option (String × Value) :=
  ((row.lookup (migration.oldName column.name)).or column.defaultValue).map (column.name, ·)

/-- The copy of a row into the new table. It fails on a new column without a default. -/
def Migration.copyRow (migration : Migration Value) (columns : List (Column Value))
    (row : Row Value) : Option (Row Value) :=
  columns.mapM (migration.copyCell row)

/-- The effect of an update of one column on a row. -/
def updateColumn (row : Row Value) (update : String × Value) : Row Value :=
  row.map fun cell => (cell.1, if cell.1 = update.1 then update.2 else cell.2)

/-! ### Paths -/

/-- The tables of all versions. -/
abbrev Schema (Value : Type) := Nat → List (Column Value)

section Paths

variable (schema : Schema Value)

def Migration.migrateRow (migration : Migration Value) (row : Row Value) : Option (Row Value) :=
  (migration.copyRow (schema migration.toVersion) row).map fun copy =>
    migration.onPostMigrate.foldl updateColumn copy

def migrateRowAlong : List (Migration Value) → Row Value → Option (Row Value)
  | [], row => some row
  | migration :: rest, row => (migration.migrateRow schema row).bind (migrateRowAlong rest)

/-- A sequence of migrations from one version to another. -/
def IsPath : List (Migration Value) → Nat → Nat → Prop
  | [], version, target => version = target
  | migration :: rest, version, target =>
    migration.fromVersion = version ∧ IsPath rest migration.toVersion target

end Paths

/-- The registered migration that goes furthest without passing the target. -/
def nextMigration (registered : List (Migration Value)) (target version : Nat) :
    Option (Migration Value) :=
  (registered.filter fun migration => migration.fromVersion = version ∧
    version < migration.toVersion ∧ migration.toVersion ≤ target).argmax Migration.toVersion

/-- Every step gets closer to the target, so the distance bounds the number of steps. -/
def findPathWithin (registered : List (Migration Value)) (target : Nat) :
    Nat → Nat → Option (List (Migration Value))
  | 0, version => if version = target then some [] else none
  | steps + 1, version =>
    if version = target then some []
    else (nextMigration registered target version).bind fun migration =>
      (findPathWithin registered target steps migration.toVersion).map (migration :: ·)

def findMigrationPath (registered : List (Migration Value)) (version target : Nat) :
    Option (List (Migration Value)) :=
  findPathWithin registered target (target - version) version

theorem nextMigration_spec {registered : List (Migration Value)} {target version : Nat}
    {migration : Migration Value}
    (chosen : nextMigration registered target version = some migration) :
    migration ∈ registered ∧ migration.fromVersion = version ∧
      version < migration.toVersion ∧ migration.toVersion ≤ target := by
  have member := List.argmax_mem (Option.mem_def.mpr chosen)
  obtain ⟨listed, condition⟩ := List.mem_filter.mp member
  exact ⟨listed, of_decide_eq_true condition⟩

theorem findPathWithin_isPath {registered : List (Migration Value)} {target steps version : Nat}
    {path : List (Migration Value)}
    (found : findPathWithin registered target steps version = some path) :
    IsPath path version target := by
  induction steps generalizing version path with
  | zero =>
    obtain ⟨reached, same⟩ := Option.ite_none_right_eq_some.mp found
    exact Option.some.inj same ▸ reached
  | succ steps inductionHypothesis =>
    unfold findPathWithin at found
    split at found
    · cases found
      assumption
    · obtain ⟨migration, chosen, rest⟩ := Option.bind_eq_some_iff.mp found
      obtain ⟨tail, tailFound, rfl⟩ := Option.map_eq_some_iff.mp rest
      exact ⟨(nextMigration_spec chosen).2.1, inductionHypothesis tailFound⟩

/-! ### Where a cell comes from -/

/-- What ends up in a column: the value of an old column, or a constant. -/
inductive Source (Value : Type)
  | column (name : String)
  | constant (value : Value)
  deriving DecidableEq

def Source.read (row : Row Value) : Source Value → Option Value
  | .column name => row.lookup name
  | .constant value => some value

section Sources

variable (schema : Schema Value)

/-- The source of a column of the copied table among the columns of the old one. -/
def Migration.copySource (migration : Migration Value) (name : String) : Option (Source Value) :=
  if migration.oldName name ∈ (schema migration.fromVersion).map Column.name then
    some (.column (migration.oldName name))
  else
    (((schema migration.toVersion).find? fun column => column.name = name).bind
      Column.defaultValue).map .constant

def Migration.source (migration : Migration Value) (name : String) : Option (Source Value) :=
  ((Overwrites.lastWrite migration.onPostMigrate name).map .constant).or
    (migration.copySource schema name)

def sourceAlong : List (Migration Value) → String → Option (Source Value)
  | [], name => some (.column name)
  | migration :: rest, name =>
    (sourceAlong rest name).bind fun
      | .column later => migration.source schema later
      | .constant value => some (.constant value)

/-- Every column of the new table has a source. -/
def Migration.Complete (migration : Migration Value) : Prop :=
  ∀ column ∈ schema migration.toVersion,
    migration.oldName column.name ∈ (schema migration.fromVersion).map Column.name ∨
      column.defaultValue.isSome

end Sources

/-! ### Rows along a path -/

theorem lookup_isSome_iff (row : Row Value) (name : String) :
    (row.lookup name).isSome ↔ name ∈ row.map Prod.fst := by
  rw [List.lookup_isSome_iff, List.mem_map]
  constructor
  · rintro ⟨cell, member, same⟩
    exact ⟨cell, member, (beq_iff_eq.mp same).symm⟩
  · rintro ⟨cell, member, same⟩
    exact ⟨cell, member, beq_iff_eq.mpr same.symm⟩

theorem updateColumn_names (row : Row Value) (update : String × Value) :
    (updateColumn row update).map Prod.fst = row.map Prod.fst := by
  unfold updateColumn
  rw [List.map_map]
  rfl

theorem lookup_updateColumn (row : Row Value) (update : String × Value) (name : String) :
    (updateColumn row update).lookup name =
      (row.lookup name).map fun value => if update.1 = name then update.2 else value := by
  unfold updateColumn
  induction row with
  | nil => rfl
  | cons cell rest inductionHypothesis =>
    rw [List.map_cons, List.lookup_cons, List.lookup_cons, inductionHypothesis]
    by_cases same : name = cell.1
    · simp [same, eq_comm]
    · rw [beq_false_of_ne same]

theorem foldl_updateColumn_names (updates : List (String × Value)) (row : Row Value) :
    (updates.foldl updateColumn row).map Prod.fst = row.map Prod.fst := by
  induction updates generalizing row with
  | nil => rfl
  | cons update rest inductionHypothesis =>
    rw [List.foldl_cons, inductionHypothesis, updateColumn_names]

/-- A cell holds the last update of its column, or what was there before. -/
theorem lookup_foldl_updateColumn (updates : List (String × Value)) (row : Row Value)
    (name : String) :
    (updates.foldl updateColumn row).lookup name =
      (row.lookup name).map ((Overwrites.lastWrite updates name).getD ·) := by
  induction updates generalizing row with
  | nil => simp
  | cons update rest inductionHypothesis =>
    rw [List.foldl_cons, inductionHypothesis, lookup_updateColumn, Overwrites.lastWrite_cons,
      Option.map_map]
    refine congrArg (Option.map · _) (funext fun value => ?_)
    rw [Function.comp_apply]
    cases Overwrites.lastWrite rest name with
    | some last => rfl
    | none => split <;> rfl

/-- A row is copied cell by cell. -/
theorem copyRow_cons {migration : Migration Value} {column : Column Value}
    {columns : List (Column Value)} {row copy : Row Value}
    (copied : migration.copyRow (column :: columns) row = some copy) :
    ∃ value rest, (row.lookup (migration.oldName column.name)).or column.defaultValue =
        some value ∧
      migration.copyRow columns row = some rest ∧ copy = (column.name, value) :: rest := by
  unfold Migration.copyRow at copied
  rw [List.mapM_cons] at copied
  obtain ⟨cell, cellCopied, copied⟩ := Option.bind_eq_some_iff.mp copied
  obtain ⟨rest, restCopied, copied⟩ := Option.bind_eq_some_iff.mp copied
  obtain ⟨value, valueCopied, rfl⟩ := Option.map_eq_some_iff.mp cellCopied
  cases copied
  exact ⟨value, rest, valueCopied, restCopied, rfl⟩

theorem copyRow_fits {migration : Migration Value} {columns : List (Column Value)}
    {row copy : Row Value} (copied : migration.copyRow columns row = some copy) :
    copy.Fits columns := by
  induction columns generalizing copy with
  | nil =>
    cases copied
    rfl
  | cons column rest inductionHypothesis =>
    obtain ⟨value, tail, -, tailCopied, rfl⟩ := copyRow_cons copied
    exact congrArg (column.name :: ·) (inductionHypothesis tailCopied)

/-- A copied cell holds the old value, or the default where the column is new. -/
theorem lookup_copyRow {migration : Migration Value} {columns : List (Column Value)}
    {row copy : Row Value} (copied : migration.copyRow columns row = some copy) (name : String) :
    copy.lookup name = (columns.find? fun column => column.name = name).bind fun column =>
      (row.lookup (migration.oldName name)).or column.defaultValue := by
  induction columns generalizing copy with
  | nil =>
    cases copied
    rfl
  | cons column rest inductionHypothesis =>
    obtain ⟨value, tail, valueCopied, tailCopied, rfl⟩ := copyRow_cons copied
    by_cases same : column.name = name
    · subst same
      simp [valueCopied]
    · rw [List.lookup_cons, beq_false_of_ne (Ne.symm same), inductionHypothesis tailCopied]
      simp [same]

theorem copyRow_isSome {migration : Migration Value} {columns : List (Column Value)}
    {row : Row Value} (complete : ∀ column ∈ columns,
      (row.lookup (migration.oldName column.name)).isSome ∨ column.defaultValue.isSome) :
    (migration.copyRow columns row).isSome := by
  unfold Migration.copyRow
  induction columns with
  | nil => rfl
  | cons column rest inductionHypothesis =>
    obtain ⟨tail, tailCopied⟩ := Option.isSome_iff_exists.mp
      (inductionHypothesis fun other member => complete other (List.mem_cons_of_mem _ member))
    obtain ⟨value, copied⟩ : ∃ value,
        (row.lookup (migration.oldName column.name)).or column.defaultValue = some value := by
      rw [← Option.isSome_iff_exists, Option.isSome_or]
      simpa using complete column List.mem_cons_self
    rw [List.mapM_cons, tailCopied, Migration.copyCell, copied]
    rfl

section Along

variable {schema : Schema Value}

theorem migrateRow_fits {migration : Migration Value} {row migrated : Row Value}
    (done : migration.migrateRow schema row = some migrated) :
    migrated.Fits (schema migration.toVersion) := by
  obtain ⟨copy, copied, rfl⟩ := Option.map_eq_some_iff.mp done
  exact (foldl_updateColumn_names _ copy).trans (copyRow_fits copied)

theorem migrateRow_isSome {migration : Migration Value} {row : Row Value}
    (complete : migration.Complete schema) (fits : row.Fits (schema migration.fromVersion)) :
    (migration.migrateRow schema row).isSome := by
  unfold Migration.migrateRow
  rw [Option.isSome_map]
  refine copyRow_isSome fun column member => ?_
  rw [lookup_isSome_iff, fits]
  exact complete column member

theorem lookup_copyRow_eq_read {migration : Migration Value} {row copy : Row Value}
    (fits : row.Fits (schema migration.fromVersion))
    (copied : migration.copyRow (schema migration.toVersion) row = some copy) {name : String}
    (member : name ∈ (schema migration.toVersion).map Column.name) :
    copy.lookup name = (migration.copySource schema name).bind (Source.read row) := by
  obtain ⟨column, columnMember, same⟩ := List.mem_map.mp member
  have named : ((schema migration.toVersion).find? fun column => column.name = name).isSome :=
    List.find?_isSome.mpr ⟨column, columnMember, decide_eq_true same⟩
  obtain ⟨found, isFound⟩ := Option.isSome_iff_exists.mp named
  unfold Migration.copySource
  rw [lookup_copyRow copied, isFound, Option.bind_some, Option.bind_some]
  split
  · next old =>
    rw [← fits, ← lookup_isSome_iff] at old
    obtain ⟨value, read⟩ := Option.isSome_iff_exists.mp old
    rw [read]
    exact read.symm
  · next new =>
    rw [← fits, ← lookup_isSome_iff, Option.not_isSome_iff_eq_none] at new
    rw [new, Option.none_or]
    cases found.defaultValue <;> rfl

/-- A migrated row holds in each of its columns what the source of the column says. -/
theorem lookup_migrateRow {migration : Migration Value} {row migrated : Row Value}
    (fits : row.Fits (schema migration.fromVersion))
    (done : migration.migrateRow schema row = some migrated) {name : String}
    (member : name ∈ (schema migration.toVersion).map Column.name) :
    migrated.lookup name = (migration.source schema name).bind (Source.read row) := by
  obtain ⟨copy, copied, rfl⟩ := Option.map_eq_some_iff.mp done
  rw [lookup_foldl_updateColumn]
  unfold Migration.source
  cases Overwrites.lastWrite migration.onPostMigrate name with
  | some value =>
    have present : (copy.lookup name).isSome := by
      rw [lookup_isSome_iff, copyRow_fits copied]
      exact member
    obtain ⟨old, found⟩ := Option.isSome_iff_exists.mp present
    rw [found]
    rfl
  | none =>
    have unchanged : (copy.lookup name).map (Option.getD none ·) = copy.lookup name := by simp
    rw [unchanged, lookup_copyRow_eq_read fits copied member]
    rfl

theorem migrateRowAlong_fits {path : List (Migration Value)} {version target : Nat}
    {row migrated : Row Value} (isPath : IsPath path version target)
    (fits : row.Fits (schema version))
    (done : migrateRowAlong schema path row = some migrated) : migrated.Fits (schema target) := by
  induction path generalizing version row with
  | nil =>
    cases done
    exact isPath ▸ fits
  | cons migration rest inductionHypothesis =>
    obtain ⟨next, first, later⟩ := Option.bind_eq_some_iff.mp done
    exact inductionHypothesis isPath.2 (migrateRow_fits first) later

theorem migrateRowAlong_isSome {path : List (Migration Value)} {version target : Nat}
    {row : Row Value} (isPath : IsPath path version target) (fits : row.Fits (schema version))
    (complete : ∀ migration ∈ path, migration.Complete schema) :
    (migrateRowAlong schema path row).isSome := by
  induction path generalizing version row with
  | nil => rfl
  | cons migration rest inductionHypothesis =>
    obtain ⟨rfl, isPath⟩ := isPath
    obtain ⟨next, done⟩ := Option.isSome_iff_exists.mp
      (migrateRow_isSome (complete migration List.mem_cons_self) fits)
    unfold migrateRowAlong
    rw [done, Option.bind_some]
    exact inductionHypothesis isPath (migrateRow_fits done)
      fun other member => complete other (List.mem_cons_of_mem _ member)

theorem mem_of_sourceAlong {path : List (Migration Value)} {version target : Nat}
    (isPath : IsPath path version target) {name old : String}
    (fromOld : sourceAlong schema path name = some (.column old))
    (member : name ∈ (schema target).map Column.name) :
    old ∈ (schema version).map Column.name := by
  cases path with
  | nil =>
    cases fromOld
    exact isPath ▸ member
  | cons migration rest =>
    obtain ⟨rfl, -⟩ := isPath
    obtain ⟨source, -, fromSource⟩ := Option.bind_eq_some_iff.mp fromOld
    cases source with
    | constant value => cases fromSource
    | column later =>
      rcases Option.or_eq_some_iff.mp fromSource with updated | ⟨-, copied⟩
      · obtain ⟨value, -, same⟩ := Option.map_eq_some_iff.mp updated
        cases same
      · unfold Migration.copySource at copied
        split at copied
        · next listed =>
          cases copied
          exact listed
        · obtain ⟨value, -, same⟩ := Option.map_eq_some_iff.mp copied
          cases same

/-- A row migrated along a path holds in each of its columns what the source of the column
along the path says. -/
theorem lookup_migrateRowAlong {path : List (Migration Value)} {version target : Nat}
    {row migrated : Row Value} (isPath : IsPath path version target)
    (fits : row.Fits (schema version))
    (done : migrateRowAlong schema path row = some migrated) {name : String}
    {source : Source Value} (fromSource : sourceAlong schema path name = some source)
    (member : name ∈ (schema target).map Column.name) :
    migrated.lookup name = source.read row := by
  induction path generalizing version row source with
  | nil =>
    cases done
    cases fromSource
    rfl
  | cons migration rest inductionHypothesis =>
    obtain ⟨rfl, isPath⟩ := isPath
    obtain ⟨next, first, later⟩ := Option.bind_eq_some_iff.mp done
    obtain ⟨middle, fromMiddle, fromSource⟩ := Option.bind_eq_some_iff.mp fromSource
    rw [inductionHypothesis isPath (migrateRow_fits first) later fromMiddle]
    cases middle with
    | constant value =>
      cases fromSource
      rfl
    | column name =>
      have listed := mem_of_sourceAlong isPath fromMiddle member
      have read : migration.source schema name = some source := fromSource
      exact (lookup_migrateRow fits first listed).trans (by rw [read, Option.bind_some])

end Along

end TermPlux.SchemaMigration
