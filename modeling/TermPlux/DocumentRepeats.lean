/-
This file says when the search of `DocumentSearch` returns and repeats nothing, in
terms of the files alone: which of them the search walks to, and which of these
come earlier in the breadth-first order.

Without links no two paths lead to one file. So where one is found twice, the root
or a link leads to a place that another path leads to as well, and what lies below
that place is found once along each, unless the rows run out before.
-/

import Mathlib
import TermPlux.DocumentSearch

namespace TermPlux.DocumentRepeats

open Paths LevelOrder DocumentsProvider DocumentSearch

/-! ### The files that the search walks to -/

section Files

variable (platform : Platform) (rootId : DocumentId) (query : Text)

/-- From the root a file is walked to, through directories that the search goes into. -/
def Walked (file : FileNames) : Prop :=
  Relation.ReflTransGen (fun file next => next ∈ children platform file) (fileOf rootId) file

/-- So many matches come before a file that the rows run out. -/
def EnoughBefore (file : FileNames) : Prop :=
  EnoughEarlier (children platform) List.length
    (fun other => Walked platform rootId other ∧ isMatch platform query other = true)
    MAX_SEARCH_RESULTS file

/-- The file is an entry of a directory that is a link. -/
def IsLink (file : FileNames) : Prop :=
  ∃ parent name path target, file = parent ++ [name] ∧ stat platform parent = some path ∧
    platform.tree.linkAt (path ++ [name]) = some target

/-- The search walks to the root or a link that leads where another file leads that it walks to. -/
structure Overlap (jump other : FileNames) : Prop where
  walked : Walked platform rootId jump
  walkedToo : Walked platform rootId other
  jumps : jump = fileOf rootId ∨ IsLink platform jump
  different : jump ≠ other
  place : ∃ place, stat platform jump = some place ∧ stat platform other = some place

/-- Where the root or a link leads where another file leads, and the same names lead from both to
matches, the rows run out before one of them. -/
def FoundOnce : Prop :=
  ∀ jump other rest, Overlap platform rootId jump other →
    Walked platform rootId (jump ++ rest) → Walked platform rootId (other ++ rest) →
    isMatch platform query (jump ++ rest) = true → isMatch platform query (other ++ rest) = true →
    -- The kernel may follow the links along one of them only.
    (stat platform (jump ++ rest)).isSome = (stat platform (other ++ rest)).isSome →
    EnoughBefore platform rootId query (jump ++ rest) ∨
      EnoughBefore platform rootId query (other ++ rest)

/-- The root exists, the rows run out before each directory that cannot be listed, and no match is
come to again over the root or a link before they run out. -/
structure Searchable : Prop where
  root : (stat platform (fileOf rootId)).isSome
  readable : ∀ file, Walked platform rootId file → IsUnreadable platform file →
    EnoughBefore platform rootId query file
  once : FoundOnce platform rootId query

end Files

variable {platform : Platform} {rootId : DocumentId} {query : Text}

theorem mem_visitOrder_iff {file : FileNames} :
    file ∈ visitOrder platform rootId ↔ Walked platform rootId file := by
  refine (mem_levelOrder (ends_visitOrder platform rootId)).trans ?_
  simp only [List.mem_singleton, exists_eq_left]
  rfl

/-- A file that is walked to is the root or an entry of a directory that is walked to. -/
theorem Walked.cases {file : FileNames} (walked : Walked platform rootId file) :
    file = fileOf rootId ∨ ∃ parent path name, Walked platform rootId parent ∧
      stat platform parent = some path ∧ path ∈ platform.tree.directories ∧
      name ∈ platform.tree.listing path ∧ file = parent ++ [name] := by
  rcases Relation.ReflTransGen.cases_tail walked with same | ⟨parent, before, expands⟩
  · exact .inl same
  · obtain ⟨path, name, found, directory, listed, rfl⟩ := mem_children expands
    exact .inr ⟨parent, path, name, before, found, directory, listed, rfl⟩

theorem enoughBefore_iff {before after : List FileNames} {file : FileNames}
    (whole : visitOrder platform rootId = before ++ file :: after) :
    EnoughBefore platform rootId query file ↔
      MAX_SEARCH_RESULTS ≤ (before.filter (isMatch platform query)).length := by
  have enough := enoughEarlier_iff (forest_children platform)
    (ordered_visitOrder platform rootId) (isMatch platform query) MAX_SEARCH_RESULTS whole
  simp only [mem_visitOrder_iff] at enough
  exact enough

theorem avoidsUnreadable_iff :
    AvoidsUnreadable platform rootId query ↔
      ∀ file, Walked platform rootId file → IsUnreadable platform file →
        EnoughBefore platform rootId query file := by
  constructor
  · intro avoids file walked unreadable
    obtain ⟨before, after, whole⟩ := List.append_of_mem (mem_visitOrder_iff.mpr walked)
    exact (enoughBefore_iff whole).mpr (avoids before file after whole unreadable)
  · intro enough before file after whole unreadable
    have walked : Walked platform rootId file :=
      mem_visitOrder_iff.mp (whole ▸ List.mem_append_right _ List.mem_cons_self)
    exact (enoughBefore_iff whole).mp (enough file walked unreadable)

/-- The matches that are found are those before which the rows do not run out. -/
theorem mem_firstMatches {file : FileNames} :
    file ∈ firstMatches platform rootId query ↔
      Walked platform rootId file ∧ isMatch platform query file = true ∧
        ¬ EnoughBefore platform rootId query file := by
  unfold firstMatches
  rw [mem_take_filter]
  constructor
  · rintro ⟨before, after, whole, found, few⟩
    refine ⟨mem_visitOrder_iff.mp (whole ▸ List.mem_append_right _ List.mem_cons_self), found, ?_⟩
    rw [enoughBefore_iff whole]
    exact Nat.not_le.mpr few
  · rintro ⟨walked, found, few⟩
    obtain ⟨before, after, whole⟩ := List.append_of_mem (mem_visitOrder_iff.mpr walked)
    rw [enoughBefore_iff whole] at few
    exact ⟨before, after, whole, found, Nat.not_le.mp few⟩

theorem nodup_firstMatches (platform : Platform) (rootId : DocumentId) (query : Text) :
    (firstMatches platform rootId query).Nodup :=
  ((nodup_visitOrder platform rootId).filter _).sublist (List.take_sublist _ _)

/-! ### Where two paths part -/

theorem entry_of_listing {path : Path} {name : Name} (listed : name ∈ platform.tree.listing path) :
    path ++ [name] ∈ platform.tree.entries :=
  (platform.tree.mem_listing path name).mp listed

/-- An entry that leads nowhere is a link. -/
theorem linkAt_of_nowhere {parent : FileNames} {path : Path} {name : Name}
    (found : stat platform parent = some path) (directory : path ∈ platform.tree.directories)
    (listed : name ∈ platform.tree.listing path)
    (nowhere : stat platform (parent ++ [name]) = none) :
    platform.tree.linkAt (path ++ [name]) ≠ none := by
  intro noLink
  have leads := LinkedTree.stat_concat found directory (entry_of_listing listed) noLink
  cases nowhere.symm.trans leads

theorem isLink_or_leads {parent : FileNames} {path : Path} {name : Name}
    (found : stat platform parent = some path) (directory : path ∈ platform.tree.directories)
    (listed : name ∈ platform.tree.listing path) :
    IsLink platform (parent ++ [name]) ∨
      stat platform (parent ++ [name]) = some (path ++ [name]) := by
  cases link : platform.tree.linkAt (path ++ [name]) with
  | none => exact .inr (LinkedTree.stat_concat found directory (entry_of_listing listed) link)
  | some target => exact .inl ⟨parent, name, path, target, rfl, found, link⟩

/-- The files part at a pair of files that overlap, and end in the same names. -/
def PartAt (platform : Platform) (rootId : DocumentId) (first second : FileNames) : Prop :=
  ∃ jump other rest, Overlap platform rootId jump other ∧
    (first = jump ++ rest ∧ second = other ++ rest ∨
      first = other ++ rest ∧ second = jump ++ rest)

theorem PartAt.of_overlap {first second : FileNames}
    (overlap : Overlap platform rootId first second) : PartAt platform rootId first second :=
  ⟨first, second, [], overlap, .inl ⟨(List.append_nil _).symm, (List.append_nil _).symm⟩⟩

theorem PartAt.symm {first second : FileNames} (part : PartAt platform rootId first second) :
    PartAt platform rootId second first := by
  obtain ⟨jump, other, rest, overlap, ⟨left, right⟩ | ⟨left, right⟩⟩ := part
  · exact ⟨jump, other, rest, overlap, .inr ⟨right, left⟩⟩
  · exact ⟨jump, other, rest, overlap, .inl ⟨right, left⟩⟩

theorem PartAt.append {first second : FileNames} (part : PartAt platform rootId first second)
    (name : Name) : PartAt platform rootId (first ++ [name]) (second ++ [name]) := by
  obtain ⟨jump, other, rest, overlap, ⟨rfl, rfl⟩ | ⟨rfl, rfl⟩⟩ := part
  · exact ⟨jump, other, rest ++ [name], overlap,
      .inl ⟨List.append_assoc _ _ _, List.append_assoc _ _ _⟩⟩
  · exact ⟨jump, other, rest ++ [name], overlap,
      .inr ⟨List.append_assoc _ _ _, List.append_assoc _ _ _⟩⟩

/-- Two files that lead to one place part where the root or a link leads to a place that another
file leads to. -/
theorem partAt_of_stat {first : FileNames} (walkedFirst : Walked platform rootId first) :
    ∀ {second : FileNames} {place : Path}, Walked platform rootId second → first ≠ second →
      stat platform first = some place → stat platform second = some place →
      PartAt platform rootId first second := by
  induction walkedFirst with
  | refl =>
    intro second place walked different found again
    exact .of_overlap ⟨.refl, walked, .inl rfl, different, place, found, again⟩
  | @tail parent first before expands inductionHypothesis =>
    intro second place walked different found again
    have walkedFirst : Walked platform rootId first := before.tail expands
    obtain ⟨path, name, leads, directory, listed, rfl⟩ := mem_children expands
    rcases isLink_or_leads leads directory listed with link | whole
    · exact .of_overlap ⟨walkedFirst, walked, .inr link, different, place, found, again⟩
    rcases walked.cases with
      root | ⟨other, otherPath, otherName, below, leadsToo, within, named, rfl⟩
    · exact (PartAt.of_overlap
        ⟨walked, walkedFirst, .inl root, different.symm, place, again, found⟩).symm
    rcases isLink_or_leads leadsToo within named with link | wholeToo
    · exact (PartAt.of_overlap
        ⟨walked, walkedFirst, .inr link, different.symm, place, again, found⟩).symm
    -- Without a link both have one name more than parents that lead to one place.
    have same : path ++ [name] = otherPath ++ [otherName] :=
      Option.some.inj (whole.symm.trans (found.trans (again.symm.trans wholeToo)))
    obtain ⟨rfl, last⟩ := List.append_inj' same rfl
    obtain rfl := (List.cons.inj last).1
    have apart : parent ≠ other := fun same => different (by rw [same])
    exact (inductionHypothesis below apart leads leadsToo).append name

theorem canonicalPath_of_stat {file : FileNames} {path : Path}
    (found : stat platform file = some path) : canonicalPath platform file = path :=
  LinkedTree.canonicalPath_of_stat found

/-- A file that leads nowhere is an entry of a directory, and has its name there. -/
theorem Walked.nowhere (root : (stat platform (fileOf rootId)).isSome) {file : FileNames}
    (walked : Walked platform rootId file) (nowhere : stat platform file = none) :
    ∃ parent path name, Walked platform rootId parent ∧ stat platform parent = some path ∧
      file = parent ++ [name] ∧ canonicalPath platform file = path ++ [name] ∧
      platform.tree.linkAt (path ++ [name]) ≠ none := by
  rcases walked.cases with rfl | ⟨parent, path, name, below, found, directory, listed, rfl⟩
  · rw [nowhere] at root
    cases root
  · exact ⟨parent, path, name, below, found, rfl,
      LinkedTree.canonicalPath_concat found (plain_of_listing listed) nowhere,
      linkAt_of_nowhere found directory listed nowhere⟩

/-- What leads somewhere and what leads nowhere are not the same file. -/
theorem canonicalPath_ne (root : (stat platform (fileOf rootId)).isSome) {first second : FileNames}
    {path : Path} (found : stat platform first = some path)
    (walked : Walked platform rootId second) (nowhere : stat platform second = none) :
    canonicalPath platform first ≠ canonicalPath platform second := by
  intro same
  obtain ⟨parent, above, name, -, -, -, canonical, link⟩ := walked.nowhere root nowhere
  rw [canonicalPath_of_stat found, canonical] at same
  exact link (same ▸ LinkedTree.linkAt_of_stat found)

/-- Two paths to one file both lead somewhere or both nowhere, and part where the root or a link
leads to a place that another file leads to. -/
theorem partAt_of_canonicalPath (root : (stat platform (fileOf rootId)).isSome)
    {first second : FileNames} (walked : Walked platform rootId first)
    (walkedToo : Walked platform rootId second) (different : first ≠ second)
    (same : canonicalPath platform first = canonicalPath platform second) :
    PartAt platform rootId first second ∧
      (stat platform first).isSome = (stat platform second).isSome := by
  cases found : stat platform first with
  | some path =>
    cases again : stat platform second with
    | some other =>
      rw [canonicalPath_of_stat found, canonicalPath_of_stat again] at same
      exact ⟨partAt_of_stat walked walkedToo different found (same ▸ again), rfl⟩
    | none => exact absurd same (canonicalPath_ne root found walkedToo again)
  | none =>
    cases again : stat platform second with
    | some other => exact absurd same.symm (canonicalPath_ne root again walked found)
    | none =>
      obtain ⟨parent, path, name, below, leads, rfl, canonical, -⟩ := walked.nowhere root found
      obtain ⟨other, otherPath, otherName, belowToo, leadsToo, rfl, canonicalToo, -⟩ :=
        walkedToo.nowhere root again
      rw [canonical, canonicalToo] at same
      obtain ⟨rfl, last⟩ := List.append_inj' same rfl
      obtain rfl := (List.cons.inj last).1
      have apart : parent ≠ other := fun same => different (by rw [same])
      exact ⟨(partAt_of_stat below belowToo apart leads leadsToo).append name, rfl⟩

/-- And below a pair of files that overlap the same names lead to the same file. -/
theorem canonicalPath_of_overlap (root : (stat platform (fileOf rootId)).isSome)
    {jump other rest : FileNames} (overlap : Overlap platform rootId jump other)
    (walked : Walked platform rootId (jump ++ rest))
    (walkedToo : Walked platform rootId (other ++ rest))
    (alike : (stat platform (jump ++ rest)).isSome = (stat platform (other ++ rest)).isSome) :
    canonicalPath platform (jump ++ rest) = canonicalPath platform (other ++ rest) := by
  obtain ⟨place, leads, leadsToo⟩ := overlap.place
  cases found : stat platform (jump ++ rest) with
  | some path =>
    rw [found] at alike
    obtain ⟨end', again⟩ := Option.isSome_iff_exists.mp alike.symm
    rw [canonicalPath_of_stat found, canonicalPath_of_stat again]
    exact LinkedTree.stat_append_unique leads leadsToo found again
  | none =>
    rw [found] at alike
    have again : stat platform (other ++ rest) = none :=
      Option.not_isSome_iff_eq_none.mp (Bool.eq_false_iff.mp alike.symm)
    obtain ⟨parent, path, name, -, above, last, canonical, -⟩ := walked.nowhere root found
    obtain ⟨parentToo, pathToo, nameToo, -, aboveToo, lastToo, canonicalToo, -⟩ :=
      walkedToo.nowhere root again
    rw [canonical, canonicalToo]
    rcases List.eq_nil_or_concat' rest with rfl | ⟨front, ending, rfl⟩
    · rw [List.append_nil] at found
      cases leads.symm.trans found
    · rw [← List.append_assoc] at last lastToo
      obtain ⟨rfl, end'⟩ := List.append_inj' last rfl
      obtain ⟨rfl, endToo⟩ := List.append_inj' lastToo rfl
      obtain rfl := (List.cons.inj end').1
      obtain rfl := (List.cons.inj endToo).1
      rw [LinkedTree.stat_append_unique leads leadsToo above aboveToo]

/-! ### What is found once -/

/-- No two of the files that are found are the same one just where none is come to again over the
root or a link. -/
theorem nodup_canonicalPath_iff (root : (stat platform (fileOf rootId)).isSome) :
    ((firstMatches platform rootId query).map (canonicalPath platform)).Nodup ↔
      FoundOnce platform rootId query := by
  constructor
  · intro distinct jump other rest overlap walked walkedToo found foundToo alike
    by_contra both
    obtain ⟨few, fewToo⟩ := not_or.mp both
    have same := canonicalPath_of_overlap root overlap walked walkedToo alike
    have one := List.inj_on_of_nodup_map distinct (mem_firstMatches.mpr ⟨walked, found, few⟩)
      (mem_firstMatches.mpr ⟨walkedToo, foundToo, fewToo⟩) same
    exact overlap.different (List.append_cancel_right one)
  · intro once
    refine (nodup_firstMatches platform rootId query).map_on ?_
    intro first inFirst second inSecond same
    obtain ⟨walked, found, few⟩ := mem_firstMatches.mp inFirst
    obtain ⟨walkedToo, foundToo, fewToo⟩ := mem_firstMatches.mp inSecond
    by_contra different
    obtain ⟨⟨jump, other, rest, overlap, parted⟩, alike⟩ :=
      partAt_of_canonicalPath root walked walkedToo different same
    rcases parted with ⟨rfl, rfl⟩ | ⟨rfl, rfl⟩
    · exact (once jump other rest overlap walked walkedToo found foundToo alike).elim few fewToo
    · exact (once jump other rest overlap walkedToo walked foundToo found alike.symm).elim
        fewToo few

/-- The search returns no more rows than it may, and no file twice. -/
def RepeatsNothing (platform : Platform) (rootId : DocumentId) (query : Text) : Prop :=
  ∃ rows, Returns platform rootId query rows ∧ rows.length ≤ MAX_SEARCH_RESULTS ∧
    (rows.map fun row => canonicalPath platform row.documentId).Nodup

/-- The search always ends, with no more rows than it may return; it returns them, and no file
twice, just where the root exists, the rows run out before each directory that cannot be listed,
and no match is come to again over the root or a link before they run out. -/
theorem repeatsNothing_iff (platform : Platform) (rootId : DocumentId) (query : Text) :
    (∃ rounds outcome, querySearchDocuments platform rootId query rounds = some outcome ∧
        ∀ rows, outcome = .ok rows → rows.length ≤ MAX_SEARCH_RESULTS) ∧
      (RepeatsNothing platform rootId query ↔ Searchable platform rootId query) := by
  have few : ((firstMatches platform rootId query).map fun file =>
      rowOf platform file file.dropLast).length ≤ MAX_SEARCH_RESULTS := by
    unfold firstMatches
    rw [List.length_map]
    exact List.length_take_le _ _
  have paths : ((firstMatches platform rootId query).map fun file =>
      rowOf platform file file.dropLast).map (fun row => canonicalPath platform row.documentId) =
        (firstMatches platform rootId query).map (canonicalPath platform) := by
    rw [List.map_map]
    rfl
  constructor
  · obtain ⟨rounds, outcome, ended⟩ := querySearchDocuments_ends platform rootId query
    refine ⟨rounds, outcome, ended, ?_⟩
    rintro rows rfl
    rw [(returns_iff.mp ⟨rounds, ended⟩).2.2]
    exact few
  · constructor
    · rintro ⟨rows, returned, -, distinct⟩
      obtain ⟨root, avoids, rfl⟩ := returns_iff.mp returned
      rw [paths] at distinct
      exact ⟨root, avoidsUnreadable_iff.mp avoids, (nodup_canonicalPath_iff root).mp distinct⟩
    · rintro ⟨root, readable, once⟩
      refine ⟨_, returns_iff.mpr ⟨root, avoidsUnreadable_iff.mpr readable, rfl⟩, few, ?_⟩
      rw [paths]
      exact (nodup_canonicalPath_iff root).mpr once

/-- Without links a file leads as far below the root's place as it is below the root. -/
theorem Walked.stat_of_noLinks {place : Path} (root : stat platform (fileOf rootId) = some place)
    (noLinks : ∀ file, Walked platform rootId file → ¬ IsLink platform file) {file : FileNames}
    (walked : Walked platform rootId file) :
    ∃ names, file = fileOf rootId ++ names ∧ stat platform file = some (place ++ names) := by
  induction walked with
  | refl => exact ⟨[], (List.append_nil _).symm, by rw [List.append_nil]; exact root⟩
  | @tail parent file before expands inductionHypothesis =>
    have walked : Walked platform rootId file := before.tail expands
    obtain ⟨names, rfl, leads⟩ := inductionHypothesis
    obtain ⟨path, name, found, directory, listed, rfl⟩ := mem_children expands
    obtain rfl := Option.some.inj (leads.symm.trans found)
    refine ⟨names ++ [name], List.append_assoc _ _ _, ?_⟩
    rw [← List.append_assoc]
    exact (isLink_or_leads found directory listed).resolve_left (noLinks _ walked)

/-- So it is enough that the search walks to no link and to nothing that cannot be listed. -/
theorem searchable_of_noLinks (query : Text) (root : (stat platform (fileOf rootId)).isSome)
    (readable : ∀ file, Walked platform rootId file → ¬ IsUnreadable platform file)
    (noLinks : ∀ file, Walked platform rootId file → ¬ IsLink platform file) :
    Searchable platform rootId query where
  root := root
  readable file walked unreadable := absurd unreadable (readable file walked)
  once jump other rest overlap := by
    obtain ⟨rootPlace, atRoot⟩ := Option.isSome_iff_exists.mp root
    obtain ⟨place, leads, leadsToo⟩ := overlap.place
    obtain rfl := overlap.jumps.resolve_right (noLinks jump overlap.walked)
    obtain ⟨names, rfl, whole⟩ := overlap.walkedToo.stat_of_noLinks atRoot noLinks
    have same : rootPlace ++ names = rootPlace :=
      Option.some.inj (whole.symm.trans (leadsToo.trans (leads.symm.trans atRoot)))
    obtain rfl := List.append_right_eq_self.mp same
    exact absurd (List.append_nil _).symm overlap.different

/-! ### A link and a closed directory -/

/-- Lower case for the letters of ASCII. -/
def lowerAscii (text : Text) : Text := text.map Char.toLower

theorem lowerAscii_infix {text factor : Text} (within : factor <:+: lowerAscii text) :
    lowerAscii factor = factor := by
  refine (List.map_congr_left fun character member => ?_).trans (List.map_id factor)
  obtain ⟨original, -, rfl⟩ := List.mem_map.mp (within.subset member)
  exact original.toLower_toLower_eq_toLower

def containersPath : Path := ["files".toList, "containers".toList]

/-- The containers directory with a directory `a`, a file `x` in it, and a second entry `b`. -/
def sampleTree : FileTree where
  directories := [[], ["files".toList], containersPath, containersPath ++ ["a".toList]]
  files := [containersPath ++ ["a".toList, "x".toList], containersPath ++ ["b".toList]]
  root := by decide
  closed := by decide
  separate := by decide

def samplePlatform (target : Path → Option Target) (readable : Path → Bool) : Platform where
  tree := .ofTree sampleTree target (by decide) (by decide)
  maxLinks := 40
  readable := readable
  ioError _ := false
  filesDir := ["files".toList]
  filesDir_names := by decide
  canWrite _ := true
  length _ := 0
  lastModified _ := 0
  mimeTypeFromExtension _ := none
  toLowerCase := lowerAscii
  lowered _ _ := lowerAscii_infix

/-- The entry `b` is a link to `a`. -/
def linkToA (path : Path) : Option Target :=
  if path = containersPath ++ ["b".toList] then some ⟨false, ["a".toList]⟩ else none

/-- A file that a link leads to as well is found twice, and a directory that cannot be listed ends
the search with an exception. -/
theorem search_repeats_and_fails :
    ¬ RepeatsNothing (samplePlatform linkToA fun _ => true) containers "x".toList ∧
      ¬ RepeatsNothing
        (samplePlatform linkToA fun path => decide (path ≠ containersPath ++ ["a".toList]))
        containers "x".toList := by
  constructor
  · rintro ⟨rows, ⟨rounds, returned⟩, -, distinct⟩
    have twice : (querySearchDocuments (samplePlatform linkToA fun _ => true) containers
        "x".toList 10).map (fun outcome => outcome.toOption.map fun rows =>
          rows.map fun row => canonicalPath (samplePlatform linkToA fun _ => true) row.documentId) =
        some (some [containersPath ++ ["a".toList, "x".toList],
          containersPath ++ ["a".toList, "x".toList]]) := by decide +kernel
    obtain ⟨outcome, found, same⟩ := Option.map_eq_some_iff.mp twice
    cases querySearchDocuments_unique found returned
    have paths : rows.map (fun row =>
        canonicalPath (samplePlatform linkToA fun _ => true) row.documentId) =
        [containersPath ++ ["a".toList, "x".toList],
          containersPath ++ ["a".toList, "x".toList]] := Option.some.inj same
    rw [paths] at distinct
    exact absurd distinct (by decide)
  · rintro ⟨rows, ⟨rounds, returned⟩, -, -⟩
    have failed : querySearchDocuments
        (samplePlatform linkToA fun path => decide (path ≠ containersPath ++ ["a".toList]))
        containers "x".toList 10 = some (.error .nullPointer) := by decide +kernel
    cases querySearchDocuments_unique failed returned

end TermPlux.DocumentRepeats
