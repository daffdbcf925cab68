/-
This file compares what `DocumentSearch` finds with the files below the containers
directory whose name contains the query ignoring case, where that directory can be
read and has no links below it.

The search never leaves the directory. It lowers the letters of a name but not
those of the query, and it compares the canonical path of a file with a path of
the directory that need not be canonical. It is exact just where neither matters.
-/

import Mathlib.Data.List.Dedup
import TermPlux.DocumentRepeats

namespace TermPlux.DocumentMatches

open Paths LevelOrder DocumentsProvider DocumentSearch DocumentRepeats

/-! ### The published root -/

theorem head?_getAbsolutePath (file : FileNames) :
    (getAbsolutePath file).head? = some '/' := by
  unfold getAbsolutePath
  split
  · rfl
  · next some =>
    obtain ⟨name, names, rfl⟩ := List.exists_cons_of_ne_nil some
    rfl

/-- The root id of `queryRoots`. -/
def publishedRoot (platform : Platform) : DocumentId where
  path := getAbsolutePath (baseDir platform)
  absolute := head?_getAbsolutePath _

theorem components_getAbsolutePath {file : FileNames}
    (names : ∀ name ∈ file, name ≠ [] ∧ '/' ∉ name) :
    components (getAbsolutePath file) = file := by
  have joined : components (file.flatMap ('/' :: ·)) = file := by
    induction file with
    | nil => rfl
    | cons name file inductionHypothesis =>
      obtain ⟨⟨some, plain⟩, others⟩ := List.forall_mem_cons.mp names
      have rest := inductionHypothesis others
      have single : components name = [name] := by rw [components_of_plain plain, if_neg some]
      rw [List.flatMap_cons, List.cons_append, DocumentsProvider.File.components_separator]
      cases file with
      | nil => rw [List.flatMap_nil, List.append_nil, single]
      | cons second file =>
        rw [List.flatMap_cons, List.cons_append] at rest ⊢
        rw [DocumentsProvider.File.components_separator] at rest
        rw [components_append, single, rest]
        rfl
  unfold getAbsolutePath
  split
  · next none => rw [none]; rfl
  · exact joined

theorem fileOf_publishedRoot (platform : Platform) :
    fileOf (publishedRoot platform) = baseDir platform := by
  unfold fileOf publishedRoot
  rw [DocumentsProvider.File.components_normalize]
  refine components_getAbsolutePath fun name member => ?_
  rcases List.mem_append.mp member with inFilesDir | last
  · exact platform.filesDir_names name inFilesDir
  · rw [List.mem_singleton.mp last]
    decide

/-! ### A directory that can be read -/

/-- The containers directory leads to a directory that can be read, with all below it, and there
are no links below it. -/
structure ReadableTree (platform : Platform) (root : Path) : Prop where
  base : stat platform (baseDir platform) = some root
  directory : root ∈ platform.tree.directories
  readable : ∀ path ∈ platform.tree.directories, root <+: path → platform.readable path = true
  noLinks : ∀ file ∈ platform.tree.files, root <+: file → platform.tree.target file = none
  noErrors : ∀ names, platform.ioError (baseDir platform ++ names) = false

variable {platform : Platform} {root : Path} {query : Text}

theorem stat_below (tree : ReadableTree platform root) {names : List Name}
    (entry : root ++ names ∈ platform.tree.entries) :
    stat platform (baseDir platform ++ names) = some (root ++ names) := by
  obtain ⟨⟨path, left⟩, followed, same⟩ := Option.map_eq_some_iff.mp tree.base
  have leads : path = root := same
  unfold stat LinkedTree.stat
  rw [LinkedTree.follow_append, followed, leads, Option.bind_some,
    LinkedTree.follow_of_noLinks tree.directory entry tree.noLinks]
  rfl

theorem canonicalPath_below (tree : ReadableTree platform root) {names : List Name}
    (entry : root ++ names ∈ platform.tree.entries) :
    canonicalPath platform (baseDir platform ++ names) = root ++ names :=
  LinkedTree.canonicalPath_of_stat (stat_below tree entry)

theorem isDirectory_below (tree : ReadableTree platform root) {names : List Name}
    (entry : root ++ names ∈ platform.tree.entries) :
    isDirectory platform (baseDir platform ++ names) = true ↔
      root ++ names ∈ platform.tree.directories := by
  refine LinkedTree.isDirectory_iff.trans ?_
  have leads : platform.tree.stat platform.maxLinks (baseDir platform ++ names) =
      some (root ++ names) := stat_below tree entry
  rw [leads]
  simp

theorem listFiles_below (tree : ReadableTree platform root) {names : List Name}
    (directory : root ++ names ∈ platform.tree.directories) :
    listFiles platform (baseDir platform ++ names) =
      some ((platform.tree.listing (root ++ names)).map fun name =>
        baseDir platform ++ names ++ [name]) := by
  have readable := tree.readable _ directory (List.prefix_append _ _)
  unfold listFiles
  rw [stat_below tree (List.mem_append_left _ directory), Option.bind_some,
    if_pos ⟨directory, readable⟩]

/-- The path of the containers directory is the beginning of its canonical path. -/
def BaseInside (platform : Platform) (root : Path) : Prop :=
  getAbsolutePath (baseDir platform) <+: getAbsolutePath root

instance (platform : Platform) (root : Path) : Decidable (BaseInside platform root) :=
  inferInstanceAs (Decidable (_ <+: _))

theorem getAbsolutePath_append (path names : List Name) :
    getAbsolutePath path <+: getAbsolutePath (path ++ names) := by
  by_cases atRoot : path = []
  · subst atRoot
    obtain ⟨rest, whole⟩ := List.head?_eq_some_iff.mp (head?_getAbsolutePath names)
    rw [List.nil_append, whole]
    exact ⟨rest, rfl⟩
  · have some : path ++ names ≠ [] := List.append_ne_nil_of_left_ne_nil atRoot names
    unfold getAbsolutePath
    rw [if_neg atRoot, if_neg some, List.flatMap_append]
    exact List.prefix_append _ _

theorem isInsideHome_iff (tree : ReadableTree platform root) {names : List Name}
    (entry : root ++ names ∈ platform.tree.entries) :
    isInsideHome platform (baseDir platform ++ names) = true ↔
      getAbsolutePath (baseDir platform) <+: getAbsolutePath (root ++ names) := by
  unfold isInsideHome getCanonicalPath
  rw [tree.noErrors, if_neg Bool.false_ne_true, canonicalPath_below tree entry]
  exact List.isPrefixOf_iff_prefix

/-! ### The files that the search comes to -/

/-- They lie below the directory. -/
theorem below_of_mem_visitOrder (tree : ReadableTree platform root) {file : FileNames}
    (member : file ∈ visitOrder platform (publishedRoot platform)) :
    ∃ names, file = baseDir platform ++ names ∧ root ++ names ∈ platform.tree.entries := by
  obtain ⟨first, start, reaches⟩ := (mem_levelOrder (ends_visitOrder platform _)).mp member
  rw [List.mem_singleton.mp start, fileOf_publishedRoot] at reaches
  clear member
  induction reaches with
  | refl =>
    refine ⟨[], (List.append_nil _).symm, ?_⟩
    rw [List.append_nil]
    exact List.mem_append_left _ tree.directory
  | tail _ expands inductionHypothesis =>
    obtain ⟨path, name, found, -, listed, rfl⟩ := mem_children expands
    obtain ⟨names, rfl, entry⟩ := inductionHypothesis
    rw [stat_below tree entry] at found
    cases found
    refine ⟨names ++ [name], List.append_assoc _ _ _, ?_⟩
    rw [← List.append_assoc]
    exact (platform.tree.mem_listing _ _).mp listed

theorem isInsideHome_below (tree : ReadableTree platform root) (inside : BaseInside platform root)
    {names : List Name} (entry : root ++ names ∈ platform.tree.entries) :
    isInsideHome platform (baseDir platform ++ names) = true :=
  (isInsideHome_iff tree entry).mpr (List.IsPrefix.trans inside (getAbsolutePath_append root names))

/-- And where the search goes into the directory, they are all that lies below it. -/
theorem mem_visitOrder (tree : ReadableTree platform root) (inside : BaseInside platform root)
    {names : List Name} (entry : root ++ names ∈ platform.tree.entries) :
    baseDir platform ++ names ∈ visitOrder platform (publishedRoot platform) := by
  refine (mem_levelOrder (ends_visitOrder platform _)).mpr
    ⟨baseDir platform, List.mem_singleton.mpr (fileOf_publishedRoot platform).symm, ?_⟩
  induction names using List.reverseRecOn with
  | nil => rw [List.append_nil]
  | append_singleton front name inductionHypothesis =>
    rw [← List.append_assoc] at entry ⊢
    have parent : root ++ front ∈ platform.tree.directories := by
      have closed := platform.tree.closed _ entry
      rwa [List.dropLast_concat] at closed
    have above : root ++ front ∈ platform.tree.entries := List.mem_append_left _ parent
    have opened : isOpened platform (baseDir platform ++ front) = true :=
      Bool.and_eq_true_iff.mpr
        ⟨isInsideHome_below tree inside above, (isDirectory_below tree above).mpr parent⟩
    refine (inductionHypothesis above).tail ?_
    unfold children
    rw [if_pos opened, listFiles_below tree parent]
    exact List.mem_map.mpr ⟨name, (platform.tree.mem_listing _ _).mpr entry, rfl⟩

/-- Where the search does not go into the directory, it comes to nothing inside. -/
theorem visitOrder_of_outside (tree : ReadableTree platform root)
    (outside : ¬ BaseInside platform root) {file : FileNames}
    (member : file ∈ visitOrder platform (publishedRoot platform)) :
    isInsideHome platform file = false := by
  have entry : root ++ [] ∈ platform.tree.entries := by
    rw [List.append_nil]
    exact List.mem_append_left _ tree.directory
  have base : isInsideHome platform (baseDir platform) = false := by
    have filter := isInsideHome_iff tree entry
    rw [List.append_nil, List.append_nil] at filter
    exact Bool.eq_false_iff.mpr (mt filter.mp outside)
  obtain ⟨first, start, reaches⟩ := (mem_levelOrder (ends_visitOrder platform _)).mp member
  rw [List.mem_singleton.mp start, fileOf_publishedRoot] at reaches
  rcases Relation.ReflTransGen.cases_head reaches with rfl | ⟨next, expands, -⟩
  · exact base
  · unfold children isOpened at expands
    rw [base, Bool.false_and, if_neg Bool.false_ne_true] at expands
    exact absurd expands List.not_mem_nil

/-! ### What is found -/

/-- The files below the directory whose name contains the query ignoring case. -/
def matchesBelow (platform : Platform) (root : Path) (query : Text) : List Path :=
  platform.tree.files.filter fun path =>
    decide (root <+: path ∧
      platform.toLowerCase query <:+: platform.toLowerCase (getName path))

/-- The files that the search finds. -/
def foundFiles (platform : Platform) (query : Text) : List FileNames :=
  (visitOrder platform (publishedRoot platform)).filter (isMatch platform query)

theorem getName_append {path names : List Name} (some : names ≠ []) :
    getName (path ++ names) = getName names := by
  unfold getName
  rw [List.getLast?_append_of_ne_nil _ some]

/-- Where the search goes into the directory and the query is in lower case, it finds the files
whose name contains it ignoring case. -/
theorem mem_map_foundFiles (tree : ReadableTree platform root) (inside : BaseInside platform root)
    (lower : platform.toLowerCase query = query) {path : Path} :
    path ∈ (foundFiles platform query).map (canonicalPath platform) ↔
      path ∈ matchesBelow platform root query := by
  have notRoot {names : List Name} (file : root ++ names ∈ platform.tree.files) : names ≠ [] := by
    rintro rfl
    rw [List.append_nil] at file
    exact platform.tree.separate root file tree.directory
  unfold foundFiles matchesBelow isMatch nameContains
  simp only [List.mem_map, List.mem_filter, Bool.and_eq_true, Bool.not_eq_true', decide_eq_true_eq,
    lower]
  constructor
  · rintro ⟨file, ⟨visited, ⟨-, noDirectory⟩, contains⟩, rfl⟩
    obtain ⟨names, rfl, entry⟩ := below_of_mem_visitOrder tree visited
    rw [canonicalPath_below tree entry]
    have isFile : root ++ names ∈ platform.tree.files := by
      refine (List.mem_append.mp entry).resolve_left fun directory => ?_
      rw [(isDirectory_below tree entry).mpr directory] at noDirectory
      cases noDirectory
    rw [getName_append (notRoot isFile)] at contains ⊢
    exact ⟨isFile, List.prefix_append _ _, contains⟩
  · rintro ⟨isFile, ⟨names, rfl⟩, contains⟩
    have entry : root ++ names ∈ platform.tree.entries := List.mem_append_right _ isFile
    refine ⟨baseDir platform ++ names, ⟨mem_visitOrder tree inside entry,
      ⟨isInsideHome_below tree inside entry, ?_⟩, ?_⟩, canonicalPath_below tree entry⟩
    · exact Bool.eq_false_iff.mpr fun directory =>
        platform.tree.separate _ isFile ((isDirectory_below tree entry).mp directory)
    · rwa [getName_append (notRoot isFile)] at contains ⊢

/-- Else it finds nothing. -/
theorem foundFiles_eq_nil (tree : ReadableTree platform root)
    (other : ¬ (BaseInside platform root ∧ platform.toLowerCase query = query)) :
    foundFiles platform query = [] := by
  refine List.filter_eq_nil_iff.mpr fun file visited isMatch => ?_
  unfold DocumentSearch.isMatch nameContains at isMatch
  simp only [Bool.and_eq_true, decide_eq_true_eq] at isMatch
  obtain ⟨⟨inside, -⟩, contains⟩ := isMatch
  by_cases base : BaseInside platform root
  · exact other ⟨base, platform.lowered _ _ contains⟩
  · rw [visitOrder_of_outside tree base visited] at inside
    cases inside

theorem nodup_map_foundFiles (tree : ReadableTree platform root) (query : Text) :
    ((foundFiles platform query).map (canonicalPath platform)).Nodup := by
  refine List.Nodup.map_on (fun first inFirst second inSecond same => ?_)
    ((nodup_visitOrder platform _).filter _)
  obtain ⟨names, rfl, entry⟩ := below_of_mem_visitOrder tree (List.mem_of_mem_filter inFirst)
  obtain ⟨others, rfl, second⟩ := below_of_mem_visitOrder tree (List.mem_of_mem_filter inSecond)
  rw [canonicalPath_below tree entry, canonicalPath_below tree second] at same
  rw [List.append_cancel_left same]

/-- Nothing that the search comes to cannot be listed. -/
theorem avoidsUnreadable (tree : ReadableTree platform root) (query : Text) :
    AvoidsUnreadable platform (publishedRoot platform) query := by
  rintro before file after whole ⟨opened, unlisted⟩
  have visited : file ∈ visitOrder platform (publishedRoot platform) := by
    rw [whole]
    simp
  obtain ⟨names, rfl, entry⟩ := below_of_mem_visitOrder tree visited
  have directory := (isDirectory_below tree entry).mp (Bool.and_eq_true_iff.mp opened).2
  rw [listFiles_below tree directory] at unlisted
  cases unlisted

/-- The search returns, once each, the files below the directory whose name contains the query
ignoring case, and comes to nothing outside of the directory. -/
structure ExactSearch (platform : Platform) (root : Path) (query : Text) : Prop where
  found : ∃ rows, Returns platform (publishedRoot platform) query rows ∧
    (rows.map fun row => canonicalPath platform row.documentId).Nodup ∧
      ∀ path, path ∈ (rows.map fun row => canonicalPath platform row.documentId) ↔
        path ∈ matchesBelow platform root query
  inside : ∀ file ∈ visitOrder platform (publishedRoot platform),
    root <+: canonicalPath platform file

theorem returns_publishedRoot (tree : ReadableTree platform root) {rows : List Row} :
    Returns platform (publishedRoot platform) query rows ↔
      rows = ((foundFiles platform query).take MAX_SEARCH_RESULTS).map fun file =>
        rowOf platform file file.dropLast := by
  have present : (stat platform (fileOf (publishedRoot platform))).isSome := by
    rw [fileOf_publishedRoot, tree.base]
    rfl
  rw [returns_iff]
  constructor
  · exact fun returned => returned.2.2
  · exact fun same => ⟨present, avoidsUnreadable tree query, same⟩

theorem inside_below (tree : ReadableTree platform root) {file : FileNames}
    (visited : file ∈ visitOrder platform (publishedRoot platform)) :
    root <+: canonicalPath platform file := by
  obtain ⟨names, rfl, entry⟩ := below_of_mem_visitOrder tree visited
  rw [canonicalPath_below tree entry]
  exact List.prefix_append _ _

/-- Whatever is found, the search is exact just where the found files are the matches, as long as
the rows are enough for them. -/
theorem exactSearch_iff_foundFiles (tree : ReadableTree platform root)
    (few : (foundFiles platform query).length ≤ MAX_SEARCH_RESULTS) :
    ExactSearch platform root query ↔
      ∀ path, path ∈ (foundFiles platform query).map (canonicalPath platform) ↔
        path ∈ matchesBelow platform root query := by
  have rowPaths {rows : List Row} (returned : Returns platform (publishedRoot platform) query rows) :
      rows.map (fun row => canonicalPath platform row.documentId) =
        (foundFiles platform query).map (canonicalPath platform) := by
    rw [(returns_publishedRoot tree).mp returned, List.take_of_length_le few, List.map_map]
    rfl
  constructor
  · rintro ⟨⟨rows, returned, -, same⟩, -⟩
    rw [rowPaths returned] at same
    exact same
  · intro same
    have returned := (@returns_publishedRoot _ _ query tree _).mpr rfl
    refine ⟨⟨_, returned, ?_, ?_⟩, fun file => inside_below tree⟩
    · rw [rowPaths returned]
      exact nodup_map_foundFiles tree query
    · rw [rowPaths returned]
      exact same

/-- Where fewer files match than there may be rows, the search is exact just where the path of the
directory is the beginning of its canonical path and the query is in lower case, or nothing
matches. -/
theorem exactSearch_iff (tree : ReadableTree platform root)
    (fewer : (matchesBelow platform root query).dedup.length < MAX_SEARCH_RESULTS) :
    ExactSearch platform root query ↔
      (BaseInside platform root ∧ platform.toLowerCase query = query) ∨
        matchesBelow platform root query = [] := by
  by_cases good : BaseInside platform root ∧ platform.toLowerCase query = query
  · have same (path : Path) :
        path ∈ (foundFiles platform query).map (canonicalPath platform) ↔
          path ∈ matchesBelow platform root query := mem_map_foundFiles tree good.1 good.2
    have count := (nodup_map_foundFiles tree query).length_le_of_subset fun path member =>
      List.mem_dedup.mpr ((same path).mp member)
    rw [List.length_map] at count
    exact iff_of_true ((exactSearch_iff_foundFiles tree (by omega)).mpr same) (.inl good)
  · have none := foundFiles_eq_nil tree good
    rw [exactSearch_iff_foundFiles tree (none ▸ Nat.zero_le _), none, or_iff_right good,
      List.eq_nil_iff_forall_not_mem]
    refine forall_congr' fun path => ?_
    rw [List.map_nil]
    exact ⟨fun same member => List.not_mem_nil (same.mpr member),
      fun missing => iff_of_false List.not_mem_nil missing⟩

/-! ### A lower-case query, an upper-case query and a linked directory -/

/-- The sample tree without links. -/
def plainPlatform : Platform := samplePlatform (fun _ => none) fun _ => true

theorem readableTree_plain : ReadableTree plainPlatform containersPath where
  base := by decide +kernel
  directory := by decide
  readable _ _ _ := rfl
  noLinks _ _ _ := rfl
  noErrors _ := rfl

theorem exactSearch_plain : ExactSearch plainPlatform containersPath "x".toList :=
  (exactSearch_iff readableTree_plain (by decide +kernel)).mpr
    (.inl ⟨by decide +kernel, by decide +kernel⟩)

/-- A directory `user` that is a link to `data`, where the containers are. -/
def linkedTree : FileTree where
  directories := [[], ["data".toList], ["data".toList, "containers".toList]]
  files := [["user".toList], ["data".toList, "containers".toList, "x".toList]]
  root := by decide
  closed := by decide
  separate := by decide

def linkedPlatform : Platform :=
  { plainPlatform with
    tree := .ofTree linkedTree
      (fun path => if path = ["user".toList] then some ⟨true, ["data".toList]⟩ else none)
      (by decide) (by decide)
    filesDir := ["user".toList]
    filesDir_names := by decide }

/-- The query in upper case does not find the file, and neither does the query in lower case where
a link leads to the containers directory. -/
theorem search_misses :
    ¬ ExactSearch plainPlatform containersPath "X".toList ∧
      ReadableTree linkedPlatform ["data".toList, "containers".toList] ∧
      ¬ ExactSearch linkedPlatform ["data".toList, "containers".toList] "x".toList := by
  refine ⟨?_, ⟨by decide +kernel, by decide, fun _ _ _ => rfl, by decide, fun _ => rfl⟩, ?_⟩
  · rintro ⟨⟨rows, ⟨rounds, returned⟩, -, same⟩, -⟩
    have nothing : querySearchDocuments plainPlatform (publishedRoot plainPlatform) "X".toList 10 =
        some (.ok []) := by decide +kernel
    cases querySearchDocuments_unique nothing returned
    exact List.not_mem_nil ((same (containersPath ++ ["a".toList, "x".toList])).mpr
      (by decide +kernel))
  · rintro ⟨⟨rows, ⟨rounds, returned⟩, -, same⟩, -⟩
    have nothing : querySearchDocuments linkedPlatform (publishedRoot linkedPlatform) "x".toList
        10 = some (.ok []) := by decide +kernel
    cases querySearchDocuments_unique nothing returned
    exact List.not_mem_nil ((same ["data".toList, "containers".toList, "x".toList]).mpr
      (by decide +kernel))

end TermPlux.DocumentMatches
