/-
This file models the search of `TermPluxDocumentsProvider` over a file system with
symbolic links and unreadable directories: the worklist of files, the filter by
canonical path, and the rows that are found.

The search ends in every finite file system, because the kernel follows only so
many links in a path. It returns the rows of the first matches in breadth-first
order, unless it comes to a directory that cannot be listed before there are enough.
-/

import Mathlib.Data.List.Infix
import TermPlux.DocumentsProvider
import TermPlux.LevelOrder
import TermPlux.LinkedTree

namespace TermPlux.DocumentSearch

open Paths LevelOrder DocumentsProvider

/-! ### Files -/

/-- A `java.io.File`, by the components of its absolute path. -/
abbrev FileNames := List Name

def getAbsolutePath (file : FileNames) : Text :=
  if file = [] then ['/'] else file.flatMap ('/' :: ·)

def getName (file : FileNames) : Name := file.getLast?.getD []

def getParentFile (file : FileNames) : Option FileNames :=
  if file = [] then none else some file.dropLast

/-- The file of a document id. -/
def fileOf (docId : DocumentId) : FileNames :=
  components (DocumentsProvider.File.normalize docId.path)

/-- The platform that the provider runs on: the file system, and what else the search asks for.

`ioError` says that a canonical path cannot be found out. What is in lower case stays as it is,
in part as well. -/
structure Platform where
  tree : LinkedTree
  maxLinks : Nat
  readable : Path → Bool
  ioError : FileNames → Bool
  filesDir : FileNames
  filesDir_names : ∀ name ∈ filesDir, name ≠ [] ∧ '/' ∉ name
  canWrite : FileNames → Bool
  length : FileNames → Nat
  lastModified : FileNames → Nat
  mimeTypeFromExtension : Text → Option Text
  toLowerCase : Text → Text
  lowered : ∀ text factor, factor <:+: toLowerCase text → toLowerCase factor = factor

/-- The row of a document: the values that `includeFile` adds, with the id as a file. -/
structure Row where
  documentId : FileNames
  displayName : Text
  size : Nat
  mimeType : Text
  lastModified : Nat
  flags : Nat
  deriving DecidableEq

inductive Failure
  | fileNotFound (message : Text)
  | nullPointer
  deriving DecidableEq

section Provider

variable (platform : Platform)

def stat (file : FileNames) : Option Path := platform.tree.stat platform.maxLinks file

def canonicalPath (file : FileNames) : Path :=
  platform.tree.canonicalPath platform.maxLinks file

def isDirectory (file : FileNames) : Bool := platform.tree.isDirectory platform.maxLinks file

/-- `File.getCanonicalPath`, which may throw an exception. -/
def getCanonicalPath (file : FileNames) : Option Text :=
  if platform.ioError file then none else some (getAbsolutePath (canonicalPath platform file))

/-- `File.listFiles`, where nothing is null. -/
def listFiles (file : FileNames) : Option (List FileNames) :=
  (stat platform file).bind fun path =>
    if path ∈ platform.tree.directories ∧ platform.readable path then
      some ((platform.tree.listing path).map fun name => file ++ [name])
    else none

def baseDir : FileNames := platform.filesDir ++ ["containers".toList]

def getMimeType (file : FileNames) : Text :=
  if isDirectory platform file then "vnd.android.document/directory".toList
  else
    let mime :=
      if '.' ∈ getName file then
        platform.mimeTypeFromExtension
          (platform.toLowerCase ((getName file).reverse.takeWhile (· ≠ '.')).reverse)
      else none
    mime.getD "application/octet-stream".toList

def FLAG_SUPPORTS_THUMBNAIL : Nat := 1
def FLAG_SUPPORTS_WRITE : Nat := 2
def FLAG_SUPPORTS_DELETE : Nat := 4
def FLAG_DIR_SUPPORTS_CREATE : Nat := 8

/-- The flags of a file that lies in a directory. -/
def flagsOf (file parent : FileNames) : Nat :=
  (if platform.canWrite file then
      if isDirectory platform file then FLAG_DIR_SUPPORTS_CREATE else FLAG_SUPPORTS_WRITE
    else 0) |||
    (if platform.canWrite parent then FLAG_SUPPORTS_DELETE else 0) |||
    if "image/".toList.isPrefixOf (getMimeType platform file) then FLAG_SUPPORTS_THUMBNAIL else 0

def rowOf (file parent : FileNames) : Row where
  documentId := file
  displayName := getName file
  size := platform.length file
  mimeType := getMimeType platform file
  lastModified := platform.lastModified file
  flags := flagsOf platform file parent

/-- `includeFile` for a file, as the row that it adds. -/
def includeFile (file : FileNames) : Except Failure Row :=
  match getParentFile file with
  | none => .error .nullPointer
  | some parent => .ok (rowOf platform file parent)

def getFileForDocId (docId : DocumentId) : Except Failure FileNames :=
  if (stat platform (fileOf docId)).isSome then .ok (fileOf docId)
  else .error (.fileNotFound (getAbsolutePath (fileOf docId) ++ " not found".toList))

/-- The filter by canonical path. It compares texts. -/
def isInsideHome (file : FileNames) : Bool :=
  match getCanonicalPath platform file with
  | some path => (getAbsolutePath (baseDir platform)).isPrefixOf path
  | none => true

/-- The name in lower case contains the query as it is. -/
def nameContains (query : Text) (file : FileNames) : Bool :=
  decide (query <:+: platform.toLowerCase (getName file))

/-- The body of the search's loop, as the files that it adds and the rows. -/
def visit (query : Text) : Visit FileNames Row Failure := fun file =>
  if isInsideHome platform file then
    if isDirectory platform file then
      match listFiles platform file with
      | some files => .ok (files, [])
      | none => .error .nullPointer
    else if nameContains platform query file then
      (includeFile platform file).map fun row => ([], [row])
    else .ok ([], [])
  else .ok ([], [])

def MAX_SEARCH_RESULTS : Nat := 50

/-- `querySearchDocuments`, for a number of rounds of its loop. -/
def querySearchDocuments (rootId : DocumentId) (query : Text) (rounds : Nat) :
    Option (Except Failure (List Row)) :=
  match getFileForDocId platform rootId with
  | .error failure => some (.error failure)
  | .ok parent => search MAX_SEARCH_RESULTS (visit platform query) rounds [parent] []

end Provider

/-! ### The order of the files -/

section Order

variable (platform : Platform)

/-- The file is a directory that the search goes into. -/
def isOpened (file : FileNames) : Bool :=
  isInsideHome platform file && isDirectory platform file

/-- The files that the search goes on to from a file. -/
def children (file : FileNames) : List FileNames :=
  if isOpened platform file then (listFiles platform file).getD [] else []

/-- The file is one that the search finds. -/
def isMatch (query : Text) (file : FileNames) : Bool :=
  isInsideHome platform file && !isDirectory platform file && nameContains platform query file

/-- The file is a directory that the search goes into but that cannot be listed. -/
def IsUnreadable (file : FileNames) : Prop :=
  isOpened platform file = true ∧ listFiles platform file = none

/-- More levels than a path can have that leads somewhere. -/
def levels : Nat := (platform.maxLinks + 1) * (platform.tree.depth + 1) + 2

/-- The files that the search comes to, level by level. -/
def visitOrder (rootId : DocumentId) : List FileNames :=
  levelOrder (children platform) (levels platform) [fileOf rootId]

end Order

variable {platform : Platform} {query : Text}

theorem isDirectory_root (platform : Platform) : isDirectory platform [] = true := by
  refine LinkedTree.isDirectory_iff.mpr ⟨[], ?_, platform.tree.root⟩
  unfold LinkedTree.stat
  rw [LinkedTree.follow_nil, Option.map_some]

theorem ne_nil_of_isMatch {file : FileNames} (found : isMatch platform query file = true) :
    file ≠ [] := by
  rintro rfl
  unfold isMatch at found
  rw [isDirectory_root, Bool.not_true, Bool.and_false, Bool.false_and] at found
  cases found

theorem not_isOpened_of_isMatch {file : FileNames}
    (found : isMatch platform query file = true) : isOpened platform file = false := by
  unfold isMatch at found
  unfold isOpened
  cases directory : isDirectory platform file with
  | true =>
    rw [directory, Bool.not_true, Bool.and_false, Bool.false_and] at found
    cases found
  | false => exact Bool.and_false _

theorem visit_of_isMatch {file : FileNames} (found : isMatch platform query file = true) :
    visit platform query file = .ok ([], [rowOf platform file file.dropLast]) := by
  have notRoot := ne_nil_of_isMatch found
  unfold isMatch at found
  simp only [Bool.and_eq_true, Bool.not_eq_true'] at found
  obtain ⟨⟨inside, noDirectory⟩, contains⟩ := found
  unfold visit includeFile getParentFile
  rw [if_pos inside, noDirectory, if_neg Bool.false_ne_true, if_pos contains, if_neg notRoot]
  rfl

theorem visit_of_isOpened {file : FileNames} (opened : isOpened platform file = true) :
    visit platform query file =
      match listFiles platform file with
      | some files => .ok (files, [])
      | none => .error .nullPointer := by
  obtain ⟨inside, directory⟩ := Bool.and_eq_true_iff.mp opened
  unfold visit
  rw [if_pos inside, if_pos directory]

theorem visit_of_skipped {file : FileNames} (other : isMatch platform query file = false)
    (closed : isOpened platform file = false) : visit platform query file = .ok ([], []) := by
  unfold isMatch at other
  unfold isOpened at closed
  unfold visit
  cases inside : isInsideHome platform file with
  | false => rfl
  | true =>
    rw [inside, Bool.true_and] at closed
    rw [inside, closed] at other
    have missing : nameContains platform query file = false := other
    rw [closed, missing]
    rfl

/-- A visited file is found, is opened, or adds nothing. -/
theorem visit_cases (platform : Platform) (query : Text) (file : FileNames) :
    (isMatch platform query file = true ∧ isOpened platform file = false ∧
        visit platform query file = .ok ([], [rowOf platform file file.dropLast])) ∨
      (isMatch platform query file = false ∧ isOpened platform file = true ∧
        visit platform query file =
          match listFiles platform file with
          | some files => .ok (files, [])
          | none => .error .nullPointer) ∨
      (isMatch platform query file = false ∧ isOpened platform file = false ∧
        visit platform query file = .ok ([], [])) := by
  cases found : isMatch platform query file with
  | true => exact .inl ⟨rfl, not_isOpened_of_isMatch found, visit_of_isMatch found⟩
  | false =>
    cases opened : isOpened platform file with
    | true => exact .inr (.inl ⟨rfl, rfl, visit_of_isOpened opened⟩)
    | false => exact .inr (.inr ⟨rfl, rfl, visit_of_skipped found opened⟩)

theorem expansion_visit (platform : Platform) (query : Text) :
    expansion (visit platform query) = children platform := by
  funext file
  unfold expansion children
  rcases visit_cases platform query file with
    ⟨-, opened, visited⟩ | ⟨-, opened, visited⟩ | ⟨-, opened, visited⟩
  · rw [visited, opened]
    rfl
  · rw [visited, opened]
    cases listFiles platform file <;> rfl
  · rw [visited, opened]
    rfl

theorem rowsOf_visit (file : FileNames) :
    rowsOf (visit platform query) file =
      if isMatch platform query file then [rowOf platform file file.dropLast] else [] := by
  unfold rowsOf
  rcases visit_cases platform query file with
    ⟨found, -, visited⟩ | ⟨found, -, visited⟩ | ⟨found, -, visited⟩
  · rw [visited, found]
    rfl
  · rw [visited, found]
    cases listFiles platform file <;> rfl
  · rw [visited, found]
    rfl

theorem fails_visit_iff (file : FileNames) :
    Fails (visit platform query) file ↔ IsUnreadable platform file := by
  unfold Fails IsUnreadable
  rcases visit_cases platform query file with
    ⟨-, opened, visited⟩ | ⟨-, opened, visited⟩ | ⟨-, opened, visited⟩
  · rw [visited, opened]
    simp
  · rw [visited, opened]
    cases listFiles platform file <;> simp
  · rw [visited, opened]
    simp

/-- The rows of some files are those of the matches among them. -/
theorem flatMap_rowsOf (files : List FileNames) :
    files.flatMap (rowsOf (visit platform query)) =
      (files.filter (isMatch platform query)).map fun file =>
        rowOf platform file file.dropLast := by
  induction files with
  | nil => rfl
  | cons file files inductionHypothesis =>
    rw [List.flatMap_cons, rowsOf_visit, inductionHypothesis]
    cases found : isMatch platform query file with
    | true =>
      rw [List.filter_cons_of_pos found]
      rfl
    | false =>
      rw [List.filter_cons_of_neg (Bool.eq_false_iff.mp found)]
      rfl

/-! ### Files come once -/

theorem mem_children {file next : FileNames} (member : next ∈ children platform file) :
    ∃ path name, stat platform file = some path ∧ path ∈ platform.tree.directories ∧
      name ∈ platform.tree.listing path ∧ next = file ++ [name] := by
  unfold children at member
  split at member
  · unfold listFiles at member
    cases found : stat platform file with
    | none =>
      rw [found] at member
      cases member
    | some path =>
      rw [found, Option.bind_some] at member
      split at member
      · next readable =>
        obtain ⟨name, listed, same⟩ := List.mem_map.mp member
        exact ⟨path, name, rfl, readable.1, listed, same.symm⟩
      · cases member
  · cases member

theorem nodup_children (platform : Platform) (file : FileNames) :
    (children platform file).Nodup := by
  unfold children
  split
  · unfold listFiles
    cases stat platform file with
    | none => exact List.nodup_nil
    | some path =>
      rw [Option.bind_some]
      split
      · refine (platform.tree.listing_nodup path).map fun first second same => ?_
        exact List.cons.inj (List.append_cancel_left same) |>.1
      · exact List.nodup_nil
  · exact List.nodup_nil

/-- A file is one name longer than its only parent. -/
theorem forest_children (platform : Platform) : Forest (children platform) List.length where
  further file next member := by
    obtain ⟨_, name, -, -, -, rfl⟩ := mem_children member
    rw [List.length_append, List.length_singleton]
  parent first second next inFirst inSecond := by
    obtain ⟨_, name, -, -, -, rfl⟩ := mem_children inFirst
    obtain ⟨_, other, -, -, -, same⟩ := mem_children inSecond
    exact List.append_inj_left' same rfl
  each := nodup_children platform

theorem ordered_visitOrder (platform : Platform) (rootId : DocumentId) :
    (visitOrder platform rootId).Pairwise (Earlier (children platform) List.length) :=
  (pairwise_levelOrder (forest_children platform) _ _ (fileOf rootId).length
    (List.pairwise_singleton _ _) fun file member => by rw [List.mem_singleton.mp member]).1

theorem nodup_visitOrder (platform : Platform) (rootId : DocumentId) :
    (visitOrder platform rootId).Nodup :=
  nodup_of_ordered (forest_children platform) (ordered_visitOrder platform rootId)

/-! ### The search ends -/

/-- A file that the search can come to: plain names after the path of the root. -/
def Beneath (rootId : DocumentId) (file : FileNames) : Prop :=
  ∃ names, file = fileOf rootId ++ names ∧ ∀ name ∈ names, FileTree.IsPlain name

theorem plain_of_listing {path : Path} {name : Name}
    (listed : name ∈ platform.tree.listing path) : FileTree.IsPlain name :=
  platform.tree.plain _ ((platform.tree.mem_listing path name).mp listed) name (by simp)

/-- A file beneath the root that leads somewhere has few names more than the root. -/
theorem length_le_of_stat {rootId : DocumentId} {file : FileNames} {path : Path}
    (beneath : Beneath rootId file) (found : stat platform file = some path) :
    file.length + 1 < (fileOf rootId).length + levels platform := by
  obtain ⟨names, rfl, plain⟩ := beneath
  obtain ⟨⟨middle, left⟩, followed, -⟩ := Option.map_eq_some_iff.mp found
  rw [LinkedTree.follow_append] at followed
  obtain ⟨⟨start, links⟩, through, followed⟩ := Option.bind_eq_some_iff.mp followed
  have root : [] ∈ platform.tree.entries := List.mem_append_left _ platform.tree.root
  obtain ⟨inside, fewer⟩ := LinkedTree.entry_of_follow _ _ _ _ root through
  have bound := LinkedTree.length_le_of_follow links names start _ inside plain followed
  have less : links * (platform.tree.depth + 1) ≤
      platform.maxLinks * (platform.tree.depth + 1) := Nat.mul_le_mul_right _ fewer
  unfold levels
  rw [List.length_append, Nat.add_mul, Nat.one_mul]
  omega

theorem ends_visitOrder (platform : Platform) (rootId : DocumentId) :
    Ends (children platform) (levels platform) [fileOf rootId] := by
  refine ends_of_rank (fun file => (fileOf rootId).length + levels platform - 1 - file.length)
    (Beneath rootId) ?_ _ _ ?_
  · rintro file beneath next member
    obtain ⟨path, name, found, directory, listed, rfl⟩ := mem_children member
    have short := length_le_of_stat beneath found
    obtain ⟨names, rfl, plain⟩ := beneath
    refine ⟨⟨names ++ [name], List.append_assoc _ _ _, ?_⟩, ?_⟩
    · intro other within
      rcases List.mem_append.mp within with earlier | last
      · exact plain other earlier
      · exact List.mem_singleton.mp last ▸ plain_of_listing listed
    · rw [List.length_append, List.length_singleton]
      omega
  · intro file member
    rw [List.mem_singleton.mp member]
    refine ⟨⟨[], (List.append_nil _).symm, by simp⟩, ?_⟩
    unfold levels
    omega

/-- The search is a scan of the files in order, once there are enough rounds. -/
theorem querySearchDocuments_eq_scan {rootId : DocumentId}
    (exists' : (stat platform (fileOf rootId)).isSome) :
    ∃ rounds, querySearchDocuments platform rootId query rounds =
      some (scan MAX_SEARCH_RESULTS (visit platform query) (visitOrder platform rootId) []) := by
  have ends := ends_visitOrder platform rootId
  rw [← expansion_visit platform query] at ends
  have scanned := @search_eq_scan _ _ _ MAX_SEARCH_RESULTS _ _ _ ends _ (Nat.lt_succ_self _)
  rw [expansion_visit] at scanned
  refine ⟨(visitOrder platform rootId).length + 1, ?_⟩
  unfold querySearchDocuments getFileForDocId
  rw [if_pos exists']
  exact scanned

theorem querySearchDocuments_of_missing {rootId : DocumentId}
    (missing : ¬ (stat platform (fileOf rootId)).isSome) (rounds : Nat) :
    querySearchDocuments platform rootId query rounds =
      some (.error (.fileNotFound (getAbsolutePath (fileOf rootId) ++ " not found".toList))) := by
  unfold querySearchDocuments getFileForDocId
  rw [if_neg missing]

/-- The search has one outcome. -/
theorem querySearchDocuments_unique {rootId : DocumentId} {first second : Nat}
    {outcome other : Except Failure (List Row)}
    (found : querySearchDocuments platform rootId query first = some outcome)
    (again : querySearchDocuments platform rootId query second = some other) :
    outcome = other := by
  unfold querySearchDocuments at found again
  split at found
  · next failure missing =>
    rw [missing] at again
    exact Option.some.inj (found.symm.trans again)
  · next parent present =>
    rw [present] at again
    exact search_unique found again

/-! ### What is found -/

/-- The search returns rows. -/
def Returns (platform : Platform) (rootId : DocumentId) (query : Text) (rows : List Row) : Prop :=
  ∃ rounds, querySearchDocuments platform rootId query rounds = some (.ok rows)

/-- The files that are found first, as many as the rows may be. -/
def firstMatches (platform : Platform) (rootId : DocumentId) (query : Text) : List FileNames :=
  ((visitOrder platform rootId).filter (isMatch platform query)).take MAX_SEARCH_RESULTS

/-- Before each directory that cannot be listed the search has found enough. -/
def AvoidsUnreadable (platform : Platform) (rootId : DocumentId) (query : Text) : Prop :=
  ∀ before file after, visitOrder platform rootId = before ++ file :: after →
    IsUnreadable platform file →
      MAX_SEARCH_RESULTS ≤ (before.filter (isMatch platform query)).length

theorem avoids_iff {rootId : DocumentId} :
    Avoids MAX_SEARCH_RESULTS (visit platform query) 0 (visitOrder platform rootId) ↔
      AvoidsUnreadable platform rootId query := by
  unfold Avoids AvoidsUnreadable
  simp only [fails_visit_iff, flatMap_rowsOf, List.length_map, Nat.zero_add]

theorem rowsOf_length_le (file : FileNames) :
    (rowsOf (visit platform query) file).length ≤ 1 := by
  rw [rowsOf_visit]
  split
  · exact Nat.le_refl 1
  · exact Nat.zero_le 1

/-- The search of an existing root returns just where it avoids the unreadable directories, and
then the rows of the files that are found first. -/
theorem returns_iff {rootId : DocumentId} {rows : List Row} :
    Returns platform rootId query rows ↔
      (stat platform (fileOf rootId)).isSome ∧ AvoidsUnreadable platform rootId query ∧
        rows = (firstMatches platform rootId query).map fun file =>
          rowOf platform file file.dropLast := by
  by_cases present : (stat platform (fileOf rootId)).isSome
  · obtain ⟨rounds, scanned⟩ := @querySearchDocuments_eq_scan _ query _ present
    have whole (avoids : AvoidsUnreadable platform rootId query) :
        scan MAX_SEARCH_RESULTS (visit platform query) (visitOrder platform rootId) [] =
          .ok ((firstMatches platform rootId query).map fun file =>
            rowOf platform file file.dropLast) := by
      rw [scan_of_avoids rowsOf_length_le _ [] (Nat.zero_le _) (avoids_iff.mpr avoids),
        List.nil_append, flatMap_rowsOf, ← List.map_take]
      rfl
    constructor
    · rintro ⟨other, returned⟩
      have same := querySearchDocuments_unique scanned returned
      have avoids := avoids_iff.mp (avoids_of_scan _ [] rows same)
      exact ⟨present, avoids, (Except.ok.inj ((whole avoids).symm.trans same)).symm⟩
    · rintro ⟨-, avoids, rfl⟩
      exact ⟨rounds, scanned.trans (congrArg some (whole avoids))⟩
  · refine iff_of_false ?_ fun returned => present returned.1
    rintro ⟨rounds, returned⟩
    rw [querySearchDocuments_of_missing present] at returned
    cases returned

/-- The search ends, whatever the files are. -/
theorem querySearchDocuments_ends (platform : Platform) (rootId : DocumentId) (query : Text) :
    ∃ rounds outcome, querySearchDocuments platform rootId query rounds = some outcome := by
  by_cases present : (stat platform (fileOf rootId)).isSome
  · obtain ⟨rounds, scanned⟩ := @querySearchDocuments_eq_scan _ query _ present
    exact ⟨rounds, _, scanned⟩
  · exact ⟨0, _, querySearchDocuments_of_missing present 0⟩

end TermPlux.DocumentSearch
