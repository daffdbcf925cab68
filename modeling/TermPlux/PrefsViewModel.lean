/-
This file models how `PrefsViewModel` exports the server profiles to a document and
imports them from one. An import reads the text, decodes it, and then inserts the
profiles, either in place of the old ones, in one transaction with their deletion,
or beside them, with their IDs reset. Whatever fails on the way is caught and
reported.

An import is all or nothing: it fails, says so and leaves the table alone, or it
succeeds and the table holds the profiles of the document. Where the old profiles
are replaced the IDs of the document are kept, so a table that was exported comes
back as it was.
-/

import TermPlux.ServerProfileDao

namespace TermPlux.PrefsViewModel

open ServerProfile ProfileTable

/-! ### The data container -/

structure Container where
  version : Int32 := 1
  profiles : List ServerProfile

/-- The serializer of `Container`. The version is left out where it holds its default. -/
def encodeContainer (library : JsonLibrary) (data : Container) : Json :=
  .object
    ((if data.version = 1 then [] else [("version", writeScalar .int data.version)]) ++
      [("profiles", .array (data.profiles.map (ServerProfile.encode library)))])

/-- Reads one member of a container into its version and its profiles. -/
def readContainerMember (library : JsonLibrary)
    (container : Int32 × Option (List ServerProfile)) :
    String × Json → Option (Int32 × Option (List ServerProfile))
  | ("version", value) => (readScalar library .int value).map (·, container.2)
  | ("profiles", .array elements) =>
    (elements.mapM (ServerProfile.decode library)).map (container.1, some ·)
  | ("profiles", _) => none
  | _ => some container

/-- The profiles have no default, so a document without them is refused. -/
def decodeContainer (library : JsonLibrary) : Json → Option Container
  | .object members =>
    (members.foldlM (readContainerMember library) (1, none)).bind fun container =>
      container.2.map (⟨container.1, ·⟩)
  | _ => none

def encodeToString (library : JsonLibrary) (data : Container) : String :=
  library.print (encodeContainer library data)

def decodeFromString (library : JsonLibrary) (json : String) : Option Container :=
  (library.parse json).bind (decodeContainer library)

/-! ### Import and export -/

/-- What is posted when an import or an export ends. -/
structure Report where
  finished : Bool
  error : Option Failure

/-- The report on a result that `runCatching` caught. -/
def report : Except Failure Unit → Report
  | .ok () => { finished := true, error := none }
  | .error failure => { finished := false, error := some failure }

/-- How the database behaves during an import. -/
structure Storage where
  deleteAllFails : Bool
  /-- After how many inserted rows the storage fails, if it does. -/
  insertFailsAfter : Option Nat
  commits : Bool

/-- A storage that does what it is asked to. -/
def Storage.sound : Storage where
  deleteAllFails := false
  insertFailsAfter := none
  commits := true

/-- The two database statements of an import that deletes the current servers. -/
def replaceProfiles (storage : Storage) (profiles : List ServerProfile) (table : ProfileTable) :
    Outcome :=
  match deleteAll storage.deleteAllFails table with
  | (.error failure, after) => (.error failure, after)
  | (.ok (), after) => insert storage.insertFailsAfter true profiles after

/-- What runs inside `runCatching`. Opening the input or reading it may throw, and the resolver
may return no stream. -/
def importData (library : JsonLibrary) (storage : Storage) (input : Except Failure (Option String))
    (deleteCurrentServers : Bool) (table : ProfileTable) : Outcome :=
  match input with
  | .error failure => (.error failure, table)
  | .ok none => (.error (.io "Unable to read the file."), table)
  | .ok (some json) =>
    match decodeFromString library json with
    | none => (.error .serialization, table)
    | some data =>
      if deleteCurrentServers then
        withTransaction storage.commits (replaceProfiles storage data.profiles) table
      else
        insert storage.insertFailsAfter storage.commits
          (data.profiles.map fun profile => { profile with ID := 0 }) table

/-- The import and what it reports. -/
def importProfiles (library : JsonLibrary) (storage : Storage)
    (input : Except Failure (Option String)) (deleteCurrentServers : Bool)
    (table : ProfileTable) : Report × ProfileTable :=
  let outcome := importData library storage input deleteCurrentServers table
  (report outcome.1, outcome.2)

/-- The text that an export of the listed rows writes, and its report. `opened` is what opening
the output gives: nothing, or a stream that is written or throws. -/
def exportProfiles (library : JsonLibrary) (listed : List ServerProfile)
    (opened : Option (Except Failure Unit)) : Report × Option String :=
  match opened with
  | none => (report (.error (.io "Unable to write the file.")), none)
  | some (.error failure) => (report (.error failure), none)
  | some (.ok ()) => (report (.ok ()), some (encodeToString library { profiles := listed }))

/-! ### The document of an export -/

variable {library : JsonLibrary}

theorem mapM_decode_encode (lawful : library.Lawful) (profiles : List ServerProfile) :
    (profiles.map (ServerProfile.encode library)).mapM (ServerProfile.decode library) =
      some profiles := by
  induction profiles with
  | nil => rfl
  | cons profile rest inductionHypothesis =>
    rw [List.map_cons, List.mapM_cons, ServerProfile.decode_encode lawful, inductionHypothesis]
    rfl

theorem decodeContainer_encodeContainer (lawful : library.Lawful)
    (profiles : List ServerProfile) :
    decodeContainer library (encodeContainer library { profiles }) = some { profiles } := by
  have member : readContainerMember library (1, none)
      ("profiles", .array (profiles.map (ServerProfile.encode library))) =
        some (1, some profiles) :=
    congrArg (Option.map ((1 : Int32), some ·)) (mapM_decode_encode lawful profiles)
  show ((([] : List (String × Json)) ++ [("profiles", Json.array
    (profiles.map (ServerProfile.encode library)))]).foldlM (readContainerMember library)
      (1, none)).bind _ = _
  rw [List.nil_append, List.foldlM_cons, member]
  rfl

/-! ### All or nothing -/

/-- The profiles of a document that take the place of the old ones. -/
def Replaced (table : ProfileTable) (profiles : List ServerProfile) (after : ProfileTable) :
    Prop :=
  List.Forall₂ (Stores table.sequence) profiles after.rows

/-- The profiles of a document beside the old ones: each in a row of its own, under an ID that
was never used. -/
def Appended (table : ProfileTable) (profiles : List ServerProfile) (after : ProfileTable) :
    Prop :=
  ∃ added, after.rows = table.rows ++ added ∧
    List.Forall₂ (fun profile row => row = { profile with ID := row.ID } ∧
      table.sequence < row.ID.toInt) profiles added

theorem replaceProfiles_ok {storage : Storage} {profiles : List ServerProfile}
    {table after : ProfileTable}
    (replaced : replaceProfiles storage profiles table = (.ok (), after)) :
    Replaced table profiles after := by
  unfold replaceProfiles deleteAll at replaced
  split at replaced
  · cases replaced
  · next cleared deleted =>
    split at deleted
    · cases deleted
    · cases deleted
      obtain ⟨added, rows, stores⟩ := insertRows_stores (withTransaction_ok replaced)
      unfold Replaced
      rw [rows]
      exact stores

theorem insert_reset_ok {storage : Storage} {profiles : List ServerProfile}
    {table after : ProfileTable}
    (inserted : insert storage.insertFailsAfter storage.commits
      (profiles.map fun profile => { profile with ID := 0 }) table = (.ok (), after)) :
    Appended table profiles after := by
  obtain ⟨added, rows, stores⟩ := insertRows_stores (withTransaction_ok inserted)
  refine ⟨added, rows, (List.forall₂_map_left_iff.mp stores).imp fun profile row held => ?_⟩
  exact ⟨held.1, held.2.2 rfl⟩

/-- An import that fails leaves the table alone. -/
theorem importData_error {storage : Storage} {input : Except Failure (Option String)}
    {deleteCurrentServers : Bool} {table after : ProfileTable} {failure : Failure}
    (outcome : importData library storage input deleteCurrentServers table =
      (.error failure, after)) : after = table := by
  unfold importData at outcome
  split at outcome
  · exact (Prod.mk.inj outcome).2.symm
  · exact (Prod.mk.inj outcome).2.symm
  · split at outcome
    · exact (Prod.mk.inj outcome).2.symm
    · split at outcome
      · exact withTransaction_error outcome
      · exact withTransaction_error outcome

/-- An import that succeeds stores the profiles of the document. -/
theorem importData_ok {storage : Storage} {input : Except Failure (Option String)}
    {deleteCurrentServers : Bool} {table after : ProfileTable}
    (outcome : importData library storage input deleteCurrentServers table = (.ok (), after)) :
    ∃ json data, input = .ok (some json) ∧ decodeFromString library json = some data ∧
      if deleteCurrentServers then Replaced table data.profiles after
      else Appended table data.profiles after := by
  unfold importData at outcome
  split at outcome
  · cases outcome
  · cases outcome
  · next json =>
    split at outcome
    · cases outcome
    · next data decoded =>
      refine ⟨json, data, rfl, decoded, ?_⟩
      split at outcome
      · next deletes =>
        rw [if_pos deletes]
        exact replaceProfiles_ok (withTransaction_ok outcome)
      · next keeps =>
        rw [if_neg keeps]
        exact insert_reset_ok outcome

/-- The rows of a table, listed in any order, come back when the document they were exported to
replaces whatever the table holds by then. -/
theorem importData_exported (lawful : library.Lawful) {listed : List ServerProfile}
    {exported : ProfileTable} (rows : listed.Perm exported.rows)
    (printed : library.parse (library.print (encodeContainer library { profiles := listed })) =
      some (encodeContainer library { profiles := listed })) (table : ProfileTable) :
    ∃ after, importData library .sound (.ok (some (encodeToString library { profiles := listed })))
        true table = (.ok (), after) ∧ after.rows = listed := by
  have decoded : decodeFromString library (encodeToString library { profiles := listed }) =
      some { profiles := listed } := by
    unfold decodeFromString encodeToString
    rw [printed]
    exact decodeContainer_encodeContainer lawful listed
  let cleared : ProfileTable :=
    { rows := [], sequence := table.sequence, unique := List.nodup_nil, identified := by simp
      used := by simp, started := table.started }
  obtain ⟨after, inserted, stored⟩ := @insertRows_distinct cleared listed
    (fun profile member => exported.identified profile (rows.subset member))
    ((rows.map _).nodup_iff.mpr exported.unique)
  have replaced : replaceProfiles .sound listed table = (.ok (), after) := by
    show withTransaction true (insertRows none listed) cleared = _
    unfold withTransaction
    rw [inserted]
    rfl
  refine ⟨after, ?_, stored⟩
  unfold importData
  simp only [decoded]
  show withTransaction true (replaceProfiles .sound listed) table = _
  unfold withTransaction
  rw [replaced]
  rfl

/-- Whatever the text is, an import reports a failure and leaves the table alone, or succeeds
and stores the profiles of the document: in place of the old rows, with the IDs they have, or
beside the old rows, with IDs that were never used. What an export wrote comes back with its
IDs. -/
theorem import_all_or_nothing (library : JsonLibrary) :
    (∀ (storage : Storage) (input : Except Failure (Option String)) (deleteCurrentServers : Bool)
        (table : ProfileTable),
      let ended := importProfiles library storage input deleteCurrentServers table
      (∃ failure, ended.1 = { finished := false, error := some failure } ∧ ended.2 = table) ∨
        (ended.1 = { finished := true, error := none } ∧
          ∃ json data, input = .ok (some json) ∧ decodeFromString library json = some data ∧
            if deleteCurrentServers then Replaced table data.profiles ended.2
            else Appended table data.profiles ended.2)) ∧
      (library.Lawful → ∀ (exported : ProfileTable) (listed : List ServerProfile) (json : String),
        listed.Perm exported.rows → (exportProfiles library listed (some (.ok ()))).2 = some json →
        library.parse json = some (encodeContainer library { profiles := listed }) →
        ∀ table : ProfileTable,
          (importProfiles library .sound (.ok (some json)) true table).1.finished = true ∧
            (importProfiles library .sound (.ok (some json)) true table).2.rows = listed) := by
  constructor
  · intro storage input deleteCurrentServers table
    unfold importProfiles
    rcases outcome : importData library storage input deleteCurrentServers table with
      ⟨failure | ⟨⟩, after⟩
    · exact .inl ⟨failure, rfl, importData_error outcome⟩
    · exact .inr ⟨rfl, importData_ok outcome⟩
  · intro lawful exported listed json rows written parsed table
    cases written
    obtain ⟨after, succeeded, stored⟩ := importData_exported lawful rows parsed table
    unfold importProfiles
    rw [succeeded]
    exact ⟨rfl, stored⟩

/-- The number as one that a `Float` can hold. -/
def floatOf (value : ℚ) : Option FloatNumber :=
  if float : IsFloat value then some ⟨value, float⟩ else none

theorem floatOf_val (value : FloatNumber) : floatOf value = some value := by
  unfold floatOf
  exact dif_pos value.property

/-- A library that knows the text of one document. -/
def knowing (text : String) (document : Json) : JsonLibrary where
  parse json := if json = text then some document else none
  print _ := text
  readInteger
    | .number value => if value.den = 1 then some value.num else none
    | _ => none
  readFloat
    | .number value => floatOf value
    | _ => none
  readBoolean
    | .boolean value => some value
    | _ => none
  readString
    | .string value => some value
    | _ => none

theorem lawful_knowing (text : String) (document : Json) : (knowing text document).Lawful where
  readInteger value := by
    show (if (value : ℚ).den = 1 then some (value : ℚ).num else none) = some value
    rw [if_pos (Rat.den_intCast value), Rat.num_intCast]
  readFloat value := by simp only [knowing, floatOf_val]
  readBoolean _ := rfl
  readString _ := rfl

/-- One profile and the document that it is exported to. -/
def kitchen : ServerProfile := { ID := 3, name := "Kitchen PC" }

def kitchenDocument : Json :=
  .object [("profiles", .array [.object [("ID", .number 3), ("name", .string "Kitchen PC")]])]

def kitchenText : String :=
  "\x7b\n    \"profiles\": [\n        \x7b\n            \"ID\": 3,\n" ++
    "            \"name\": \"Kitchen PC\"\n        \x7d\n    ]\n\x7d"

theorem import_all_or_nothing_kitchen :
    (importProfiles (knowing kitchenText kitchenDocument) .sound (.ok (some kitchenText)) true
      .empty).2.rows = [kitchen] :=
  ((import_all_or_nothing (knowing kitchenText kitchenDocument)).2
    (lawful_knowing kitchenText kitchenDocument)
    (ProfileTable.empty.append kitchen (by decide) (by decide)) [kitchen] kitchenText
    (List.Perm.refl _) rfl rfl .empty).2

/-- A document with a profile that has no ID. -/
def unidentifiedText : String := "\x7b\"profiles\":[\x7b\x7d]\x7d"

def unidentifiedDocument : Json := .object [("profiles", .array [.object []])]

/-- Replacing the old profiles by such a one succeeds, but the row that is stored is not the
profile that was imported: an ID has been generated for it. -/
theorem import_generates_id :
    decodeFromString (knowing unidentifiedText unidentifiedDocument) unidentifiedText =
        some { profiles := [({} : ServerProfile)] } ∧
      (importProfiles (knowing unidentifiedText unidentifiedDocument) .sound
        (.ok (some unidentifiedText)) true .empty).1.finished = true ∧
      (importProfiles (knowing unidentifiedText unidentifiedDocument) .sound
        (.ok (some unidentifiedText)) true .empty).2.rows ≠ [({} : ServerProfile)] := by
  refine ⟨rfl, by decide, by decide⟩

end TermPlux.PrefsViewModel
