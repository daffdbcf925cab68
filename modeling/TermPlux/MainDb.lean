/-
This file models the upgrade of `MainDb`, the database of server profiles: the
exported schemas of its five versions, the registered auto-migrations with their
specs, and the opening of a database of an older version. From versions 1 to 3 an
upgrade keeps every profile. From version 4 there is none to take: the migration
of `MigrationSpec4to5` is registered from version 3.
-/

import TermPlux.SchemaMigration

namespace TermPlux.MainDb

open SchemaMigration

/-! ### The exported schemas -/

/-- A stored value. A `REAL` is a double, by its bits. -/
inductive Value
  | integer (value : Int)
  | real (bits : BitVec 64)
  | text (value : String)
  deriving DecidableEq

def schema1 : List (Column Value) :=
  [⟨"ID", none⟩, ⟨"name", none⟩, ⟨"host", none⟩, ⟨"port", none⟩, ⟨"username", none⟩,
   ⟨"password", none⟩, ⟨"securityType", none⟩, ⟨"channelType", none⟩, ⟨"colorLevel", none⟩,
   ⟨"imageQuality", none⟩, ⟨"viewOnly", none⟩, ⟨"useLocalCursor", none⟩, ⟨"keyCompatMode", none⟩,
   ⟨"useRepeater", none⟩, ⟨"idOnRepeater", none⟩, ⟨"sshHost", none⟩, ⟨"sshPort", none⟩,
   ⟨"sshUsername", none⟩, ⟨"sshAuthType", none⟩, ⟨"sshPassword", none⟩, ⟨"sshPrivateKey", none⟩,
   ⟨"sshPrivateKeyPassword", none⟩]

def schema2 : List (Column Value) :=
  [⟨"ID", none⟩, ⟨"name", none⟩, ⟨"host", none⟩, ⟨"port", none⟩, ⟨"username", none⟩,
   ⟨"password", none⟩, ⟨"securityType", none⟩, ⟨"channelType", none⟩, ⟨"colorLevel", none⟩,
   ⟨"imageQuality", none⟩, ⟨"useRawEncoding", some (.integer 0)⟩,
   ⟨"zoom1", some (.real 0x3ff0000000000000)⟩, ⟨"zoom2", some (.real 0x3ff0000000000000)⟩,
   ⟨"viewOnly", none⟩, ⟨"useLocalCursor", none⟩, ⟨"keyCompatMode", none⟩,
   ⟨"gestureStyle", some (.text "auto")⟩, ⟨"useRepeater", none⟩, ⟨"idOnRepeater", none⟩,
   ⟨"sshHost", none⟩, ⟨"sshPort", none⟩, ⟨"sshUsername", none⟩, ⟨"sshAuthType", none⟩,
   ⟨"sshPassword", none⟩, ⟨"sshPrivateKey", none⟩, ⟨"sshPrivateKeyPassword", none⟩]

def schema3 : List (Column Value) :=
  [⟨"ID", none⟩, ⟨"name", none⟩, ⟨"host", none⟩, ⟨"port", none⟩, ⟨"username", none⟩,
   ⟨"password", none⟩, ⟨"securityType", none⟩, ⟨"channelType", none⟩, ⟨"colorLevel", none⟩,
   ⟨"imageQuality", none⟩, ⟨"useRawEncoding", some (.integer 0)⟩,
   ⟨"zoom1", some (.real 0x3ff0000000000000)⟩, ⟨"zoom2", some (.real 0x3ff0000000000000)⟩,
   ⟨"viewOnly", none⟩, ⟨"useLocalCursor", none⟩, ⟨"serverTypeHint", some (.text "")⟩,
   ⟨"compatFlags", none⟩, ⟨"gestureStyle", some (.text "auto")⟩,
   ⟨"screenOrientation", some (.text "auto")⟩, ⟨"shortcutRank", some (.integer 0)⟩,
   ⟨"useRepeater", none⟩, ⟨"idOnRepeater", none⟩, ⟨"sshHost", none⟩, ⟨"sshPort", none⟩,
   ⟨"sshUsername", none⟩, ⟨"sshAuthType", none⟩, ⟨"sshPassword", none⟩, ⟨"sshPrivateKey", none⟩,
   ⟨"sshPrivateKeyPassword", none⟩]

def schema4 : List (Column Value) :=
  [⟨"ID", none⟩, ⟨"name", none⟩, ⟨"host", none⟩, ⟨"port", none⟩, ⟨"username", none⟩,
   ⟨"password", none⟩, ⟨"securityType", none⟩, ⟨"channelType", none⟩, ⟨"colorLevel", none⟩,
   ⟨"imageQuality", none⟩, ⟨"useRawEncoding", some (.integer 0)⟩,
   ⟨"zoom1", some (.real 0x3ff0000000000000)⟩, ⟨"zoom2", some (.real 0x3ff0000000000000)⟩,
   ⟨"viewOnly", none⟩, ⟨"useLocalCursor", none⟩, ⟨"serverTypeHint", some (.text "")⟩,
   ⟨"compatFlags", none⟩, ⟨"gestureStyle", some (.text "auto")⟩,
   ⟨"screenOrientation", some (.text "auto")⟩, ⟨"shortcutRank", some (.integer 0)⟩,
   ⟨"useRepeater", none⟩, ⟨"idOnRepeater", none⟩, ⟨"resizeRemoteDesktop", some (.integer 0)⟩,
   ⟨"sshHost", none⟩, ⟨"sshPort", none⟩, ⟨"sshUsername", none⟩, ⟨"sshAuthType", none⟩,
   ⟨"sshPassword", none⟩, ⟨"sshPrivateKey", none⟩, ⟨"sshPrivateKeyPassword", none⟩]

def schema5 : List (Column Value) :=
  [⟨"ID", none⟩, ⟨"name", none⟩, ⟨"host", none⟩, ⟨"port", none⟩, ⟨"username", none⟩,
   ⟨"password", none⟩, ⟨"securityType", none⟩, ⟨"channelType", none⟩, ⟨"colorLevel", none⟩,
   ⟨"imageQuality", none⟩, ⟨"useRawEncoding", some (.integer 0)⟩,
   ⟨"zoom1", some (.real 0x3ff0000000000000)⟩, ⟨"zoom2", some (.real 0x3ff0000000000000)⟩,
   ⟨"viewOnly", none⟩, ⟨"useLocalCursor", none⟩, ⟨"serverTypeHint", some (.text "")⟩,
   ⟨"flags", none⟩, ⟨"gestureStyle", some (.text "auto")⟩,
   ⟨"screenOrientation", some (.text "auto")⟩, ⟨"useCount", none⟩, ⟨"useRepeater", none⟩,
   ⟨"idOnRepeater", none⟩, ⟨"resizeRemoteDesktop", some (.integer 0)⟩, ⟨"sshHost", none⟩,
   ⟨"sshPort", none⟩, ⟨"sshUsername", none⟩, ⟨"sshAuthType", none⟩, ⟨"sshPassword", none⟩,
   ⟨"sshPrivateKey", none⟩, ⟨"sshPrivateKeyPassword", none⟩]

/-- The table `profiles` of each exported version. -/
def schema : Schema Value
  | 1 => schema1
  | 2 => schema2
  | 3 => schema3
  | 4 => schema4
  | 5 => schema5
  | _ => []

/-! ### The migrations -/

def VERSION : Nat := 5

/-- Registered with `MigrationSpec1to2`, which runs `UPDATE profiles SET imageQuality = 5`. -/
def migration1to2 : Migration Value :=
  { fromVersion := 1, toVersion := 2, renames := []
    onPostMigrate := [("imageQuality", .integer 5)] }

/-- Registered with `MigrationSpec2to3`. -/
def migration2to3 : Migration Value :=
  { fromVersion := 2, toVersion := 3, renames := [⟨"keyCompatMode", "compatFlags"⟩]
    onPostMigrate := [] }

def migration3to4 : Migration Value :=
  { fromVersion := 3, toVersion := 4, renames := [], onPostMigrate := [] }

/-- Registered with `MigrationSpec4to5`, but from version 3. -/
def migration3to5 : Migration Value :=
  { fromVersion := 3, toVersion := 5
    renames := [⟨"compatFlags", "flags"⟩, ⟨"shortcutRank", "useCount"⟩]
    onPostMigrate := [] }

def autoMigrations : List (Migration Value) :=
  [migration1to2, migration2to3, migration3to4, migration3to5]

structure Database where
  version : Nat
  profiles : List (Row Value)

/-- Opening a database. Without a path of migrations Room throws, and the database stays as it
is. -/
def openDatabase (database : Database) : Option Database :=
  (findMigrationPath autoMigrations database.version VERSION).bind fun path =>
    (database.profiles.mapM (migrateRowAlong schema path)).map (⟨VERSION, ·⟩)

/-! ### What an upgrade preserves -/

/-- A database that an older version of the app has written. -/
structure ExportedDatabase extends Database where
  exported : 1 ≤ version ∧ version ≤ 4
  fits : ∀ row ∈ profiles, row.Fits (schema version)

/-- The name a column of any version has now. -/
def currentName (name : String) : String :=
  if name = "keyCompatMode" ∨ name = "compatFlags" then "flags"
  else if name = "shortcutRank" then "useCount"
  else name

/-- The default of a column in the version that introduced it. -/
def introducedDefault (name : String) : Option Value :=
  (([1, 2, 3, 4, 5].flatMap schema).find? fun column => currentName column.name = name).bind
    Column.defaultValue

def IsNewSince (version : Nat) (name : String) : Prop :=
  name ∉ (schema version).map fun column => currentName column.name

instance (version : Nat) (name : String) : Decidable (IsNewSince version name) :=
  inferInstanceAs (Decidable (_ ∉ _))

structure RowPreserved (version : Nat) (row upgraded : Row Value) : Prop where
  fits : upgraded.Fits (schema VERSION)
  kept : ∀ column ∈ schema version, column.name ≠ "imageQuality" →
    upgraded.lookup (currentName column.name) = row.lookup column.name
  imageQuality : upgraded.lookup "imageQuality" =
    if version = 1 then some (.integer 5) else row.lookup "imageQuality"
  introduced : ∀ column ∈ schema VERSION, IsNewSince version column.name →
    (introducedDefault column.name).isSome ∧
      upgraded.lookup column.name = introducedDefault column.name

def UpgradePreserved (database : Database) : Prop :=
  ∃ upgraded, openDatabase database = some upgraded ∧ upgraded.version = VERSION ∧
    upgraded.profiles.length = database.profiles.length ∧
    upgraded.profiles.map (·.lookup "ID") = database.profiles.map (·.lookup "ID") ∧
    List.Forall₂ (RowPreserved database.version) database.profiles upgraded.profiles

/-! ### Where each column comes from -/

/-- The path that opening takes from each version that has one. -/
def upgradePath : Nat → List (Migration Value)
  | 1 => [migration1to2, migration2to3, migration3to5]
  | 2 => [migration2to3, migration3to5]
  | 3 => [migration3to5]
  | _ => []

theorem findMigrationPath_eq : ∀ version ∈ [1, 2, 3],
    findMigrationPath autoMigrations version VERSION = some (upgradePath version) := by
  decide +kernel

theorem upgradePath_subset : ∀ version ∈ [1, 2, 3], ∀ migration ∈ upgradePath version,
    migration ∈ autoMigrations := by
  decide +kernel

theorem id_mem_schema : ∀ version ∈ [1, 2, 3], ⟨"ID", none⟩ ∈ schema version := by
  decide +kernel

/-- Every new column of a registered migration has a default. -/
theorem autoMigrations_complete :
    ∀ migration ∈ autoMigrations, migration.Complete schema := by
  unfold Migration.Complete
  decide +kernel

/-- The source along the path of every column that an upgrade is to preserve. -/
def SourcesPreserved (version : Nat) : Prop :=
  (∀ column ∈ schema version, column.name ≠ "imageQuality" →
    currentName column.name ∈ (schema VERSION).map Column.name ∧
      sourceAlong schema (upgradePath version) (currentName column.name) =
        some (.column column.name)) ∧
  sourceAlong schema (upgradePath version) "imageQuality" =
    some (if version = 1 then .constant (.integer 5) else .column "imageQuality") ∧
  ∀ column ∈ schema VERSION, IsNewSince version column.name →
    (introducedDefault column.name).isSome ∧
      sourceAlong schema (upgradePath version) column.name =
        (introducedDefault column.name).map .constant

theorem sourcesPreserved : ∀ version ∈ [1, 2, 3], SourcesPreserved version := by
  unfold SourcesPreserved
  decide +kernel

theorem migrateRowAlong_preserved {version : Nat} (listed : version ∈ [1, 2, 3])
    {row upgraded : Row Value} (fits : row.Fits (schema version))
    (done : migrateRowAlong schema (upgradePath version) row = some upgraded) :
    RowPreserved version row upgraded := by
  have isPath : IsPath (upgradePath version) version VERSION :=
    findPathWithin_isPath (findMigrationPath_eq version listed)
  obtain ⟨keptSource, imageQualitySource, newSource⟩ := sourcesPreserved version listed
  refine ⟨migrateRowAlong_fits isPath fits done, fun column member other => ?_, ?_,
    fun column member isNew => ?_⟩
  · obtain ⟨present, source⟩ := keptSource column member other
    exact lookup_migrateRowAlong isPath fits done source present
  · have present : "imageQuality" ∈ (schema VERSION).map Column.name := by decide +kernel
    rw [lookup_migrateRowAlong isPath fits done imageQualitySource present]
    split <;> rfl
  · obtain ⟨hasDefault, source⟩ := newSource column member isNew
    obtain ⟨value, isDefault⟩ := Option.isSome_iff_exists.mp hasDefault
    rw [isDefault] at source
    rw [lookup_migrateRowAlong isPath fits done source (List.mem_map_of_mem member), isDefault]
    exact ⟨rfl, rfl⟩

/-! ### Opening a database -/

theorem rows_preserved {version : Nat} (listed : version ∈ [1, 2, 3]) (rows : List (Row Value))
    (fits : ∀ row ∈ rows, row.Fits (schema version)) :
    ∃ upgraded, rows.mapM (migrateRowAlong schema (upgradePath version)) = some upgraded ∧
      List.Forall₂ (RowPreserved version) rows upgraded := by
  induction rows with
  | nil => exact ⟨[], rfl, .nil⟩
  | cons row rest inductionHypothesis =>
    have isPath : IsPath (upgradePath version) version VERSION :=
      findPathWithin_isPath (findMigrationPath_eq version listed)
    have rowFits := fits row List.mem_cons_self
    obtain ⟨first, firstDone⟩ := Option.isSome_iff_exists.mp
      (migrateRowAlong_isSome isPath rowFits fun migration member =>
        autoMigrations_complete migration (upgradePath_subset version listed migration member))
    obtain ⟨others, othersDone, othersPreserved⟩ :=
      inductionHypothesis fun other member => fits other (List.mem_cons_of_mem _ member)
    refine ⟨first :: others, ?_,
      .cons (migrateRowAlong_preserved listed rowFits firstDone) othersPreserved⟩
    rw [List.mapM_cons, firstDone, othersDone]
    rfl

theorem ids_preserved {version : Nat} (listed : version ∈ [1, 2, 3])
    {rows upgraded : List (Row Value)}
    (preserved : List.Forall₂ (RowPreserved version) rows upgraded) :
    upgraded.map (·.lookup "ID") = rows.map (·.lookup "ID") := by
  induction preserved with
  | nil => rfl
  | cons first _ inductionHypothesis =>
    have same := first.kept _ (id_mem_schema version listed) (by decide)
    exact congrArg₂ List.cons same inductionHypothesis

/-- An upgrade preserves the profiles exactly from the versions other than 4. -/
theorem upgrade_preserves_iff (database : ExportedDatabase) :
    UpgradePreserved database.toDatabase ↔ database.version ≠ 4 := by
  obtain ⟨⟨version, rows⟩, ⟨above, below⟩, fits⟩ := database
  constructor
  · rintro ⟨upgraded, opened, -⟩ (rfl : version = 4)
    cases opened
  · intro (other : version ≠ 4)
    have listed : version ∈ [1, 2, 3] := by
      have bounds : 1 ≤ version ∧ version ≤ 4 := ⟨above, below⟩
      simp only [List.mem_cons, List.not_mem_nil]
      omega
    obtain ⟨upgraded, migrated, preserved⟩ := rows_preserved listed rows fits
    refine ⟨⟨VERSION, upgraded⟩, ?_, rfl, preserved.length_eq.symm, ids_preserved listed preserved,
      preserved⟩
    unfold openDatabase
    rw [findMigrationPath_eq version listed, Option.bind_some, migrated]
    rfl

/-- A database of version 4 with one profile cannot be opened. -/
theorem upgrade_fails_from_version_four :
    ¬ ∀ database : ExportedDatabase, UpgradePreserved database.toDatabase :=
  fun preserved =>
    have ⟨_, opened, _⟩ := preserved
      { version := 4
        profiles := [schema4.map fun column => (column.name, column.defaultValue.getD (.integer 0))]
        exported := by decide
        fits := fun _ member => List.mem_singleton.mp member ▸ rfl }
    nomatch opened

end TermPlux.MainDb
