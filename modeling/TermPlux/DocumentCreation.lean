/-
This file follows `createDocument` to its end: the loop that counts up an `int`
until a name is free, and the creation of the directory or file, which the file
system may refuse. In a parent directory with fewer than `2^31 - 2` entries the
loop ends before the counter overflows, and whatever the file system permits, the
call creates one new child of the parent or nothing, and leaves everything that
existed as it was.
-/

import Mathlib.Logic.Function.Basic
import TermPlux.CLoops
import TermPlux.CandidateSearch
import TermPlux.DocumentsProvider

namespace TermPlux.DocumentCreation

open Paths CLoops CandidateSearch
open DocumentsProvider hiding createDocument

/-- A file system: its tree, and what its files hold. -/
structure Disk where
  tree : FileTree
  contents : Path → List UInt8

structure IOException where

structure FileNotFoundException where
  message : Text

/-! ### Creating files -/

section Calls

variable (permits : Text → Bool) (disk : Disk)

/-- `File.mkdir`. It creates nothing where something is in the way or the file system does not
permit it. -/
def mkdir (path : Text) : Bool × Disk :=
  match disk.tree.create (components path) true with
  | some tree => if permits path then (true, { disk with tree := tree }) else (false, disk)
  | none => (false, disk)

/-- `File.createNewFile`, which creates an empty file. -/
def createNewFile (path : Text) : Except IOException Bool × Disk :=
  if fileExists disk.tree path then (.ok false, disk)
  else
    match disk.tree.create (components path) false with
    | some tree =>
      if permits path then
        (.ok true, { tree := tree, contents := Function.update disk.contents (normalise path) [] })
      else (.error ⟨⟩, disk)
    | none => (.error ⟨⟩, disk)

/-! ### The call -/

/-- `Document.MIME_TYPE_DIR` -/
def MIME_TYPE_DIR : Text := "vnd.android.document/directory".toList

/-- The name with a number, which is written in decimal digits. -/
def conflictName (displayName : Text) (noConflictId : Int) : Text :=
  displayName ++ (" (".toList ++ (toString noConflictId).toList ++ ")".toList)

/-- The variables of the loop. -/
structure Candidate where
  newFile : Text
  noConflictId : Int

def nextCandidate (parentDocumentId : DocumentId) (displayName : Text) (candidate : Candidate) :
    Candidate where
  newFile := File.ofParent parentDocumentId.path (conflictName displayName candidate.noConflictId)
  noConflictId := wrap32 (candidate.noConflictId + 1)

def firstCandidate (parentDocumentId : DocumentId) (displayName : Text) : Candidate where
  newFile := File.ofParent parentDocumentId.path displayName
  noConflictId := 2

/-- The loop, for a number of tests of its condition. -/
def freeCandidate (parentDocumentId : DocumentId) (displayName : Text) (tests : Nat) :
    Option Candidate :=
  whileLoop (fun candidate => fileExists disk.tree candidate.newFile)
    (nextCandidate parentDocumentId displayName) tests
    (firstCandidate parentDocumentId displayName)

/-- What follows the loop. -/
def createFile (mimeType newFile : Text) : Except FileNotFoundException Text × Disk :=
  let created : Except IOException Bool × Disk :=
    if mimeType = MIME_TYPE_DIR then
      (.ok (mkdir permits disk newFile).1, (mkdir permits disk newFile).2)
    else createNewFile permits disk newFile
  match created with
  | (.ok true, after) => (.ok newFile, after)
  | (.ok false, after) | (.error _, after) =>
    (.error ⟨"Failed to create document with id ".toList ++ newFile⟩, after)

def createDocument (parentDocumentId : DocumentId) (mimeType displayName : Text) (tests : Nat) :
    Option (Except FileNotFoundException Text × Disk) :=
  (freeCandidate disk parentDocumentId displayName tests).map fun candidate =>
    createFile permits disk mimeType candidate.newFile

end Calls

/-! ### The candidates -/

/-- The name that the loop tries in a round. -/
def candidateName (displayName : Text) : Nat → Text
  | 0 => displayName
  | round + 1 => displayName ++ conflictSuffix (round + 2)

theorem conflictName_eq (displayName : Text) (number : Nat) :
    conflictName displayName number = displayName ++ conflictSuffix number := rfl

/-- Until the counter overflows, the loop tries the names with the numbers from two on. -/
theorem iterate_nextCandidate (parent : DocumentId) (displayName : Text) {round : Nat}
    (fits : round + 1 < 2 ^ 31) :
    (nextCandidate parent displayName)^[round] (firstCandidate parent displayName) =
      { newFile := File.ofParent parent.path (candidateName displayName round)
        noConflictId := wrap32 (round + 2 : Nat) } := by
  induction round with
  | zero => rfl
  | succ round inductionHypothesis =>
    have counter : wrap32 (round + 2 : Nat) = (round + 2 : Nat) :=
      wrap32_of_fits (by omega) (by omega)
    rw [Function.iterate_succ_apply', inductionHypothesis (by omega), nextCandidate, counter,
      conflictName_eq]
    rfl

theorem candidateName_plain {displayName : Text} (plain : '/' ∉ displayName) (round : Nat) :
    '/' ∉ candidateName displayName round := by
  cases round with
  | zero => exact plain
  | succ round =>
    intro member
    rcases List.mem_append.mp member with front | back
    · exact plain front
    · exact conflictSuffix_plain _ back

section Parent

variable {tree : FileTree} {parent : DocumentId} {directory : Path} {displayName name : Text}

/-- A name without a separator is one more component, unless it is empty. -/
theorem components_ofParent_plain (parent : DocumentId) (plain : '/' ∉ name) (nonempty : name ≠ []) :
    components (File.ofParent parent.path name) = components parent.path ++ [name] := by
  rw [File.components_ofParent, components_of_plain plain, if_neg nonempty]

/-- A free name can be created in the parent directory. -/
theorem canCreate_of_free (found : tree.walk [] (components parent.path) = some directory)
    (inside : directory ∈ tree.directories) (plain : '/' ∉ name)
    (free : fileExists tree (File.ofParent parent.path name) = false) :
    tree.CanCreate (components (File.ofParent parent.path name)) directory name := by
  have missing := Option.not_isSome_iff_eq_none.mp (Bool.eq_false_iff.mp free)
  have nonempty : name ≠ [] := by
    rintro rfl
    rw [File.components_ofParent, components_nil, List.append_nil, found] at missing
    cases missing
  rw [components_ofParent_plain parent plain nonempty] at missing ⊢
  exact FileTree.canCreate_of_missing found inside missing

/-- A name with a number that is taken is an entry of the parent directory. -/
theorem child_of_taken (found : tree.walk [] (components parent.path) = some directory)
    (plain : '/' ∉ displayName) {round : Nat}
    (taken : fileExists tree (File.ofParent parent.path (candidateName displayName (round + 1)))) :
    directory ++ [displayName ++ conflictSuffix (round + 2)] ∈ tree.children directory := by
  have nonempty : displayName ++ conflictSuffix (round + 2) ≠ [] := by
    simp [conflictSuffix]
  obtain ⟨entry, walked⟩ := Option.isSome_iff_exists.mp taken
  rw [components_ofParent_plain parent (candidateName_plain plain (round + 1)) nonempty,
    FileTree.walk_concat found] at walked
  exact FileTree.concat_mem_children
    (FileTree.entry_of_lookupName (conflictSuffix_isPlain _ _) walked)

/-- One of the first candidates is free, as many as the parent directory has entries and two
more. -/
theorem exists_free_candidate (found : tree.walk [] (components parent.path) = some directory)
    (plain : '/' ∉ displayName) :
    ∃ round ≤ (tree.children directory).length + 1,
      fileExists tree (File.ofParent parent.path (candidateName displayName round)) = false ∧
      ∀ earlier < round,
        fileExists tree (File.ofParent parent.path (candidateName displayName earlier)) = true := by
  have distinct : Function.Injective fun round =>
      directory ++ [displayName ++ conflictSuffix (round + 2)] := by
    intro first second same
    have names := List.head_eq_of_cons_eq (List.append_cancel_left same)
    exact Nat.add_right_cancel (conflictSuffix_injective (List.append_cancel_left names))
  obtain ⟨number, small, free⟩ := exists_free distinct fun _ => child_of_taken found plain
  obtain ⟨round, before, isFree, taken⟩ := exists_first
    (fun round =>
      fileExists tree (File.ofParent parent.path (candidateName displayName round)) = true) free
  exact ⟨round, before.trans (Nat.succ_le_succ small), Bool.eq_false_iff.mpr isFree, taken⟩

theorem freeName_eq {round attempts number : Nat}
    (taken : ∀ earlier < round, fileExists tree
      (File.ofParent parent.path (displayName ++ conflictSuffix (number + earlier))) = true)
    (free : fileExists tree
      (File.ofParent parent.path (displayName ++ conflictSuffix (number + round))) = false)
    (enough : round < attempts) :
    freeName tree parent displayName attempts number =
      some (File.ofParent parent.path (displayName ++ conflictSuffix (number + round))) := by
  induction round generalizing attempts number with
  | zero =>
    obtain ⟨more, rfl⟩ := Nat.exists_eq_succ_of_ne_zero (Nat.ne_of_gt enough)
    rw [Nat.add_zero] at free ⊢
    rw [freeName, if_neg (Bool.eq_false_iff.mp free)]
  | succ round inductionHypothesis =>
    obtain ⟨more, rfl⟩ := Nat.exists_eq_succ_of_ne_zero (Nat.ne_of_gt (Nat.zero_lt_of_lt enough))
    have later (offset : Nat) : number + (offset + 1) = number + 1 + offset := by omega
    have first := taken 0 (Nat.succ_pos round)
    rw [Nat.add_zero] at first
    rw [later] at free ⊢
    rw [freeName, if_pos first]
    refine inductionHypothesis (fun earlier before => ?_) free (Nat.lt_of_succ_lt_succ enough)
    rw [← later]
    exact taken (earlier + 1) (Nat.succ_lt_succ before)

/-- The first free candidate is the one that a counter without bounds leads to. -/
theorem newFile_eq {round : Nat}
    (taken : ∀ earlier < round,
      fileExists tree (File.ofParent parent.path (candidateName displayName earlier)) = true)
    (free : fileExists tree (File.ofParent parent.path (candidateName displayName round)) = false)
    (bound : round ≤ (tree.children directory).length + 1) :
    newFile tree parent displayName =
      some (File.ofParent parent.path (candidateName displayName round)) := by
  unfold newFile
  cases round with
  | zero => exact if_neg (Bool.eq_false_iff.mp free)
  | succ round =>
    have first : fileExists tree (File.ofParent parent.path displayName) = true :=
      taken 0 (Nat.succ_pos round)
    rw [if_pos first]
    have tried (offset : Nat) :
        candidateName displayName (offset + 1) = displayName ++ conflictSuffix (2 + offset) := by
      rw [Nat.add_comm 2]
      rfl
    rw [tried] at free ⊢
    refine freeName_eq (fun earlier before => ?_) free ?_
    · rw [← tried]
      exact taken (earlier + 1) (Nat.succ_lt_succ before)
    · have fewer := FileTree.length_children_le tree directory
      omega

/-- The loop ends with the first candidate that is free. -/
theorem freeCandidate_eq {disk : Disk}
    (found : disk.tree.walk [] (components parent.path) = some directory)
    (few : (disk.tree.children directory).length < 2 ^ 31 - 2) (plain : '/' ∉ displayName) :
    ∃ round,
      fileExists disk.tree (File.ofParent parent.path (candidateName displayName round)) = false ∧
      newFile disk.tree parent displayName =
        some (File.ofParent parent.path (candidateName displayName round)) ∧
      ∀ tests, (disk.tree.children directory).length + 2 ≤ tests →
        freeCandidate disk parent displayName tests =
          some ⟨File.ofParent parent.path (candidateName displayName round),
            wrap32 (round + 2 : Nat)⟩ := by
  obtain ⟨round, bound, free, taken⟩ := exists_free_candidate found plain
  have tried (earlier : Nat) (before : earlier ≤ round) :=
    @iterate_nextCandidate parent displayName earlier (by omega)
  refine ⟨round, free, newFile_eq taken free bound, fun tests enough => ?_⟩
  rw [← tried round le_rfl]
  refine whileLoop_eq_some (fun earlier before => ?_) ?_ (by omega)
  · rw [tried earlier before.le]
    exact taken earlier before
  · rw [tried round le_rfl]
    exact free

/-- The counter of the loop does not overflow: the loop finds the file that a counter without
bounds would lead to. -/
theorem freeCandidate_newFile {disk : Disk}
    (found : disk.tree.walk [] (components parent.path) = some directory)
    (few : (disk.tree.children directory).length < 2 ^ 31 - 2) (plain : '/' ∉ displayName)
    {tests : Nat} (enough : (disk.tree.children directory).length + 2 ≤ tests) :
    (freeCandidate disk parent displayName tests).map Candidate.newFile =
      newFile disk.tree parent displayName := by
  obtain ⟨round, -, unbounded, ends⟩ := freeCandidate_eq found few plain
  rw [ends tests enough, unbounded]
  rfl

end Parent

/-! ### What is created -/

/-- The call made one new child of the parent, of the kind it was asked for, and left what existed
as it was. -/
structure Created (disk : Disk) (parent : DocumentId) (mimeType path : Text) (after : Disk) :
    Prop where
  fresh : fileExists disk.tree path = false
  child : ∃ name, normalise path = normalise parent.path ++ [name]
  present : fileExists after.tree path = true
  kind : if mimeType = MIME_TYPE_DIR then normalise path ∈ after.tree.directories
    else normalise path ∈ after.tree.files
  directories : ∀ old ∈ disk.tree.directories, old ∈ after.tree.directories
  files : ∀ old ∈ disk.tree.files, old ∈ after.tree.files ∧ after.contents old = disk.contents old
  others : ∀ entry ∈ after.tree.entries, entry = normalise path ∨ entry ∈ disk.tree.entries

section Insert

variable {disk : Disk} {parent : DocumentId} {directory : Path} {name mimeType path : Text}
  {isDirectory : Bool}

/-- What was inserted is found. -/
theorem fileExists_insert {tree : FileTree}
    (allowed : tree.CanCreate (components path) directory name)
    (inside : directory ∈ tree.directories) (fresh : directory ++ [name] ∉ tree.entries) :
    fileExists (tree.insert directory name isDirectory inside fresh) path = true := by
  have whole := allowed.resolve_eq.1
  obtain ⟨walked, -, isPlain, -, -⟩ := allowed
  have stays : (tree.insert directory name isDirectory inside fresh).walk []
      (components path).dropLast = some directory :=
    FileTree.walk_of_subset
      (fun _ old => (FileTree.mem_directories_insert inside fresh).mpr (.inr old))
      (fun _ old => (FileTree.mem_entries_insert inside fresh).mpr (.inr old)) walked
  unfold fileExists
  rw [whole, FileTree.walk_concat stays, FileTree.lookupName,
    if_pos ((FileTree.mem_directories_insert inside fresh).mpr (.inr inside)), if_neg isPlain.1,
    if_neg isPlain.2, if_pos ((FileTree.mem_entries_insert inside fresh).mpr (.inl rfl))]
  rfl

/-- Inserting the new entry, and filling in at most its contents, creates it. -/
theorem created_insert
    (found : disk.tree.walk [] (components parent.path) = some directory)
    (allowed : disk.tree.CanCreate (components path) directory name)
    (inside : directory ∈ disk.tree.directories) (fresh : directory ++ [name] ∉ disk.tree.entries)
    (asked : isDirectory = true ↔ mimeType = MIME_TYPE_DIR) {contents : Path → List UInt8}
    (kept : ∀ old ∈ disk.tree.files, contents old = disk.contents old) :
    Created disk parent mimeType path
      ⟨disk.tree.insert directory name isDirectory inside fresh, contents⟩ := by
  have named : normalise path = directory ++ [name] := allowed.resolve_eq.2.2
  have isParent : directory = normalise parent.path := FileTree.walk_eq_resolve found
  refine {
    fresh := ?_
    child := ⟨name, isParent ▸ named⟩
    present := fileExists_insert allowed inside fresh
    kind := ?_
    directories := fun old member => (FileTree.mem_directories_insert inside fresh).mpr (.inr member)
    files := fun old member => ⟨(FileTree.mem_files_insert inside fresh).mpr (.inr member), kept old member⟩
    others := fun entry member => ?_ }
  · unfold fileExists
    rw [allowed.missing]
    rfl
  · split
    next wanted => exact (FileTree.mem_directories_insert inside fresh).mpr (.inl ⟨asked.mpr wanted, named⟩)
    next unwanted =>
      have isFile := Bool.eq_false_iff.mpr fun set => unwanted (asked.mp set)
      exact (FileTree.mem_files_insert inside fresh).mpr (.inl ⟨isFile, named⟩)
  · rw [named]
    exact (FileTree.mem_entries_insert inside fresh).mp member

end Insert

section Outcome

variable {disk : Disk} {parent : DocumentId} {directory : Path} {name path : Text}
  (permits : Text → Bool)

theorem mkdir_eq (allowed : disk.tree.CanCreate (components path) directory name) :
    mkdir permits disk path =
      if permits path then
        (true, { disk with
          tree := disk.tree.insert directory name true allowed.2.2.2.1 allowed.2.2.2.2 })
      else (false, disk) := by
  unfold mkdir
  rw [FileTree.create_of_canCreate allowed]

theorem createNewFile_eq (allowed : disk.tree.CanCreate (components path) directory name) :
    createNewFile permits disk path =
      if permits path then
        (.ok true,
          { tree := disk.tree.insert directory name false allowed.2.2.2.1 allowed.2.2.2.2
            contents := Function.update disk.contents (normalise path) [] })
      else (.error ⟨⟩, disk) := by
  have free : fileExists disk.tree path = false := by
    unfold fileExists
    rw [allowed.missing]
    rfl
  unfold createNewFile
  rw [if_neg (Bool.eq_false_iff.mp free), FileTree.create_of_canCreate allowed]

/-- What follows the loop creates the document where the file system permits it, else nothing. -/
theorem createFile_spec (mimeType : Text)
    (found : disk.tree.walk [] (components parent.path) = some directory)
    (allowed : disk.tree.CanCreate (components path) directory name) :
    (permits path = true ∧ ∃ after, createFile permits disk mimeType path = (.ok path, after) ∧
        Created disk parent mimeType path after) ∨
      permits path = false ∧
        ∃ failure, createFile permits disk mimeType path = (.error failure, disk) := by
  have inside := allowed.2.2.2.1
  have fresh := allowed.2.2.2.2
  unfold createFile
  rw [mkdir_eq permits allowed, createNewFile_eq permits allowed]
  by_cases permitted : permits path = true
  · rw [if_pos permitted, if_pos permitted]
    refine .inl ⟨permitted, ?_⟩
    by_cases wanted : mimeType = MIME_TYPE_DIR
    · rw [if_pos wanted]
      exact ⟨_, rfl, created_insert found allowed inside fresh (iff_of_true rfl wanted)
        fun _ _ => rfl⟩
    · rw [if_neg wanted]
      refine ⟨_, rfl, created_insert found allowed inside fresh
        (iff_of_false Bool.false_ne_true wanted) fun old member => Function.update_of_ne ?_ _ _⟩
      rintro rfl
      refine fresh (List.mem_append_right _ ?_)
      rw [← allowed.resolve_eq.2.2]
      exact member
  · rw [if_neg permitted, if_neg permitted]
    refine .inr ⟨Bool.eq_false_iff.mpr permitted,
      ⟨"Failed to create document with id ".toList ++ path⟩, ?_⟩
    split <;> rfl

end Outcome

/-- The loop ends within as many tests as the parent directory has entries and two more. The call
then makes one new child of the parent and leaves everything else as it was, just where the file
system permits the name that the loop ends with; else it fails and leaves everything as it was. -/
theorem createDocument_creates (permits : Text → Bool) (disk : Disk) (parent : DocumentId)
    (mimeType displayName : Text) (directory : Path)
    (found : disk.tree.walk [] (components parent.path) = some directory)
    (inside : directory ∈ disk.tree.directories)
    (few : (disk.tree.children directory).length < 2 ^ 31 - 2) (plain : '/' ∉ displayName) :
    ∃ free outcome after,
      newFile disk.tree parent displayName = some free ∧
      (∀ tests, (disk.tree.children directory).length + 2 ≤ tests →
        createDocument permits disk parent mimeType displayName tests = some (outcome, after)) ∧
      (permits free = true ↔ outcome = .ok free) ∧
      match outcome with
      | .ok path => Created disk parent mimeType path after
      | .error _ => after = disk := by
  obtain ⟨round, free, named, ends⟩ := freeCandidate_eq found few plain
  have allowed := canCreate_of_free found inside (candidateName_plain plain round) free
  have call (tests : Nat) (enough : (disk.tree.children directory).length + 2 ≤ tests) :
      createDocument permits disk parent mimeType displayName tests =
        some (createFile permits disk mimeType
          (File.ofParent parent.path (candidateName displayName round))) :=
    congrArg (Option.map _) (ends tests enough)
  rcases createFile_spec permits mimeType found allowed with
    ⟨permitted, after, same, created⟩ | ⟨refused, failure, same⟩
  · exact ⟨_, _, _, named, fun tests enough => (call tests enough).trans (congrArg some same),
      iff_of_true permitted rfl, created⟩
  · refine ⟨_, _, _, named, fun tests enough => (call tests enough).trans (congrArg some same),
      iff_of_false ?_ (fun impossible => nomatch impossible), rfl⟩
    exact Bool.eq_false_iff.mp refused

/-- A directory with a document and a numbered one. -/
def notes : Disk where
  tree :=
    { directories := [[], ["files".toList], ["files".toList, "containers".toList]]
      files :=
        [["files".toList, "containers".toList, "note".toList],
          ["files".toList, "containers".toList, "note (2)".toList]]
      root := by decide
      closed := by decide +kernel
      separate := by decide +kernel }
  contents _ := [104, 105]

/-- The file system permits every name. -/
def permitsAll (_ : Text) : Bool := true

/-- Both names are taken, so the loop goes on to the next number. -/
theorem createDocument_creates_notes :
    ∃ free outcome after,
      newFile notes.tree containers "note".toList = some free ∧
      (∀ tests, (notes.tree.children ["files".toList, "containers".toList]).length + 2 ≤ tests →
        createDocument permitsAll notes containers "text/plain".toList "note".toList tests =
          some (outcome, after)) ∧
      (permitsAll free = true ↔ outcome = .ok free) ∧
      match outcome with
      | .ok path => Created notes containers "text/plain".toList path after
      | .error _ => after = notes :=
  createDocument_creates permitsAll notes containers "text/plain".toList "note".toList
    ["files".toList, "containers".toList] (by decide +kernel) (by decide +kernel)
    (by decide +kernel) (by decide)

example : (freeCandidate notes containers "note".toList 4).map Candidate.newFile =
    some "/files/containers/note (3)".toList := by
  decide +kernel

end TermPlux.DocumentCreation
