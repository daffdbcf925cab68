/-
This file is the library for file systems with symbolic links: a finite tree, some
of whose files are links. Looking a list of components up goes on where a link
leads, for as many links as the kernel follows, so links may form cycles. The
components that a lookup can go through are no more than the tree's depth and the
number of links allow.
-/

import Mathlib.Data.List.Nodup
import TermPlux.FileTree

namespace TermPlux.Paths

/-- Where a symbolic link leads. -/
structure Target where
  absolute : Bool
  names : List Name
  deriving DecidableEq

/-- The directory that the names of a link start from. -/
def Target.start (target : Target) (path : Path) : Path := if target.absolute then [] else path

/-- A finite tree some of whose files are symbolic links, with the order in which the entries of
a directory are listed. -/
structure LinkedTree extends FileTree where
  target : Path → Option Target
  listing : Path → List Name
  listing_nodup : ∀ path, (listing path).Nodup
  mem_listing : ∀ path name, name ∈ listing path ↔ path ++ [name] ∈ directories ++ files
  plain : ∀ path ∈ directories ++ files, ∀ name ∈ path, FileTree.IsPlain name

namespace LinkedTree

/-- The names of the entries of a directory, in the order of the entries. -/
def listed (entries : List Path) (directory : Path) : List Name :=
  entries.filterMap fun path =>
    path.getLast?.filter fun _ => decide (path.dropLast = directory)

theorem listed_eq_some {path directory : Path} {name : Name} :
    (path.getLast?.filter fun _ => decide (path.dropLast = directory)) = some name ↔
      path = directory ++ [name] := by
  rw [Option.filter_eq_some_iff, decide_eq_true_eq]
  constructor
  · rintro ⟨last, rfl⟩
    exact (List.dropLast_append_getLast? name last).symm
  · rintro rfl
    exact ⟨List.getLast?_concat, List.dropLast_concat⟩

/-- A tree with some links, its directories listed in the order of its entries. -/
def ofTree (tree : FileTree) (target : Path → Option Target) (distinct : tree.entries.Nodup)
    (plain : ∀ path ∈ tree.entries, ∀ name ∈ path, FileTree.IsPlain name) : LinkedTree where
  toFileTree := tree
  target := target
  listing := listed tree.entries
  listing_nodup directory := List.Nodup.filterMap (fun first second name inFirst inSecond => by
    rw [listed_eq_some.mp inFirst, listed_eq_some.mp inSecond]) distinct
  mem_listing directory name := by
    unfold listed
    rw [List.mem_filterMap]
    constructor
    · rintro ⟨path, member, last⟩
      exact listed_eq_some.mp last ▸ member
    · exact fun member => ⟨_, member, listed_eq_some.mpr rfl⟩
  plain := plain

/-! ### Lookup -/

/-- Where the entry leads if it is a link. -/
def linkAt (tree : LinkedTree) (path : Path) : Option Target :=
  if path ∈ tree.files then tree.target path else none

/-- Looks the components up until a link leads elsewhere, where `again` goes on. The number of
links that are left comes with what is found. -/
def followNames (tree : LinkedTree) (again : Path → List Name → Option (Path × Nat))
    (links : Nat) : Path → List Name → Option (Path × Nat)
  | path, [] => some (path, links)
  | path, name :: rest =>
    match tree.lookupName path name with
    | none => none
    | some next =>
      match tree.linkAt next with
      | none => followNames tree again links next rest
      | some target => again (target.start path) (target.names ++ rest)

/-- Looks the components up, following at most the given number of links. -/
def follow (tree : LinkedTree) : Nat → Path → List Name → Option (Path × Nat)
  | 0 => tree.followNames (fun _ _ => none) 0
  | links + 1 => tree.followNames (follow tree links) (links + 1)

/-- Goes on where a link leads, if a link may still be followed. -/
def followLink (tree : LinkedTree) (links : Nat) (path : Path) (names : List Name) :
    Option (Path × Nat) :=
  match links with
  | 0 => none
  | links + 1 => tree.follow links path names

variable {tree : LinkedTree}

@[simp] theorem follow_nil (links : Nat) (path : Path) :
    tree.follow links path [] = some (path, links) := by
  cases links <;> rfl

theorem follow_cons (links : Nat) (path : Path) (name : Name) (rest : List Name) :
    tree.follow links path (name :: rest) =
      (tree.lookupName path name).bind fun next =>
        match tree.linkAt next with
        | none => tree.follow links next rest
        | some target =>
          tree.followLink links (target.start path) (target.names ++ rest) := by
  cases links with
  | zero =>
    show tree.followNames _ 0 path (name :: rest) = _
    unfold followNames
    cases tree.lookupName path name with
    | none => rfl
    | some next => rfl
  | succ links =>
    show tree.followNames _ (links + 1) path (name :: rest) = _
    unfold followNames
    cases tree.lookupName path name with
    | none => rfl
    | some next => rfl

theorem follow_append (links : Nat) :
    ∀ (first second : List Name) (path : Path),
      tree.follow links path (first ++ second) =
        (tree.follow links path first).bind fun found => tree.follow found.2 found.1 second := by
  induction links using Nat.strong_induction_on with
  | _ links fewer =>
    intro first second
    induction first with
    | nil => exact fun path => by rw [follow_nil]; rfl
    | cons name rest inductionHypothesis =>
      intro path
      rw [List.cons_append, follow_cons, follow_cons, Option.bind_assoc]
      refine Option.bind_congr fun next _ => ?_
      cases tree.linkAt next with
      | none => exact inductionHypothesis next
      | some target =>
        cases links with
        | zero => rfl
        | succ links =>
          show tree.follow links _ (target.names ++ (rest ++ second)) = _
          rw [← List.append_assoc]
          exact fewer links (Nat.lt_succ_self links) _ second _

/-! ### How far a lookup goes -/

/-- The length of the longest path. -/
def depth (tree : LinkedTree) : Nat := (tree.entries.map List.length).foldr max 0

theorem length_le_depth {path : Path} (entry : path ∈ tree.entries) :
    path.length ≤ tree.depth := by
  unfold depth
  generalize tree.entries = entries at *
  induction entries with
  | nil => cases entry
  | cons first entries inductionHypothesis =>
    rcases List.mem_cons.mp entry with rfl | later
    · exact Nat.le_max_left _ _
    · exact (inductionHypothesis later).trans (Nat.le_max_right _ _)

theorem entry_start {path : Path} (entry : path ∈ tree.entries) (target : Target) :
    target.start path ∈ tree.entries := by
  unfold Target.start
  split
  · exact List.mem_append_left _ tree.root
  · exact entry

theorem entry_of_lookupName_eq {path found : Path} {name : Name}
    (lookup : tree.lookupName path name = some found) : found ∈ tree.entries := by
  obtain ⟨directory, lookup⟩ := Option.ite_none_right_eq_some.mp lookup
  split at lookup
  · exact Option.some.inj lookup ▸ List.mem_append_left _ directory
  · split at lookup
    · refine Option.some.inj lookup ▸ List.mem_append_left _ ?_
      exact tree.closed path (List.mem_append_left _ directory)
    · obtain ⟨entry, same⟩ := Option.ite_none_right_eq_some.mp lookup
      exact Option.some.inj same ▸ entry

/-- What a lookup finds is an entry, and no link more is left than there were. -/
theorem entry_of_follow (links : Nat) :
    ∀ (names : List Name) (path : Path) (found : Path × Nat), path ∈ tree.entries →
      tree.follow links path names = some found → found.1 ∈ tree.entries ∧ found.2 ≤ links := by
  induction links using Nat.strong_induction_on with
  | _ links fewer =>
    intro names
    induction names with
    | nil =>
      intro path found entry followed
      rw [follow_nil] at followed
      cases followed
      exact ⟨entry, Nat.le_refl _⟩
    | cons name rest inductionHypothesis =>
      intro path found entry followed
      rw [follow_cons] at followed
      obtain ⟨next, lookup, followed⟩ := Option.bind_eq_some_iff.mp followed
      split at followed
      · exact inductionHypothesis next found (entry_of_lookupName_eq lookup) followed
      · next target _ =>
        cases links with
        | zero => cases followed
        | succ links =>
          obtain ⟨inside, left⟩ := fewer links (Nat.lt_succ_self links) _ _ found
            (entry_start entry target) followed
          exact ⟨inside, Nat.le_succ_of_le left⟩

/-- Where a lookup leads does not depend on how many links are left. -/
theorem follow_path_unique (links : Nat) :
    ∀ (names : List Name) (path : Path) (more : Nat) (found other : Path × Nat),
      tree.follow links path names = some found → tree.follow more path names = some other →
      found.1 = other.1 := by
  induction links using Nat.strong_induction_on with
  | _ links fewer =>
    intro names
    induction names with
    | nil =>
      intro path more found other followed again
      rw [follow_nil] at followed again
      cases followed
      cases again
      rfl
    | cons name rest inductionHypothesis =>
      intro path more found other followed again
      rw [follow_cons] at followed again
      obtain ⟨next, lookup, followed⟩ := Option.bind_eq_some_iff.mp followed
      rw [lookup, Option.bind_some] at again
      cases leads : tree.linkAt next with
      | none =>
        rw [leads] at followed again
        exact inductionHypothesis next more found other followed again
      | some target =>
        rw [leads] at followed again
        cases links with
        | zero => cases followed
        | succ links =>
          cases more with
          | zero => cases again
          | succ more =>
            exact fewer links (Nat.lt_succ_self links) _ _ more found other followed again

theorem linkAt_of_directory {path : Path} (directory : path ∈ tree.directories) :
    tree.linkAt path = none :=
  if_neg fun file => tree.separate path file directory

/-- A lookup does not end at a link. -/
theorem linkAt_of_follow (links : Nat) :
    ∀ (names : List Name) (path : Path) (found : Path × Nat), tree.linkAt path = none →
      tree.follow links path names = some found → tree.linkAt found.1 = none := by
  induction links using Nat.strong_induction_on with
  | _ links fewer =>
    intro names
    induction names with
    | nil =>
      intro path found plain followed
      rw [follow_nil] at followed
      cases followed
      exact plain
    | cons name rest inductionHypothesis =>
      intro path found plain followed
      rw [follow_cons] at followed
      obtain ⟨next, lookup, followed⟩ := Option.bind_eq_some_iff.mp followed
      cases leads : tree.linkAt next with
      | none =>
        rw [leads] at followed
        exact inductionHypothesis next found leads followed
      | some target =>
        rw [leads] at followed
        cases links with
        | zero => cases followed
        | succ links =>
          refine fewer links (Nat.lt_succ_self links) _ _ found ?_ followed
          unfold Target.start
          split
          · exact linkAt_of_directory tree.root
          · exact plain

/-- A plain name leads one level down. -/
theorem lookupName_of_plain {path found : Path} {name : Name} (plain : FileTree.IsPlain name)
    (lookup : tree.lookupName path name = some found) : found = path ++ [name] := by
  rw [(FileTree.lookupName_eq_resolveName lookup).2, FileTree.resolveName_of_plain plain]

/-- The plain names that a lookup goes through lead down the tree, but for one for each link. -/
theorem length_le_of_follow (links : Nat) :
    ∀ (names : List Name) (path : Path) (found : Path × Nat), path ∈ tree.entries →
      (∀ name ∈ names, FileTree.IsPlain name) → tree.follow links path names = some found →
      path.length + names.length ≤ tree.depth + links * (tree.depth + 1) := by
  induction links using Nat.strong_induction_on with
  | _ links fewer =>
    intro names
    induction names with
    | nil =>
      intro path found entry _ _
      exact (length_le_depth entry).trans (Nat.le_add_right _ _)
    | cons name rest inductionHypothesis =>
      intro path found entry plain followed
      obtain ⟨plainName, plainRest⟩ := List.forall_mem_cons.mp plain
      rw [follow_cons] at followed
      obtain ⟨next, lookup, followed⟩ := Option.bind_eq_some_iff.mp followed
      split at followed
      · have further := inductionHypothesis next found (entry_of_lookupName_eq lookup) plainRest
          followed
        rw [lookupName_of_plain plainName lookup, List.length_append, List.length_singleton]
          at further
        rw [List.length_cons]
        omega
      · next target _ =>
        cases links with
        | zero => cases followed
        | succ links =>
          -- The names of the link end somewhere, and the rest leads down from there.
          replace followed : tree.follow links (target.start path) (target.names ++ rest) =
            some found := followed
          rw [follow_append] at followed
          obtain ⟨⟨middle, left⟩, through, followed⟩ := Option.bind_eq_some_iff.mp followed
          obtain ⟨inside, leftLe⟩ := entry_of_follow links _ _ _ (entry_start entry target) through
          have further := fewer left (Nat.lt_succ_of_le leftLe) rest middle found inside plainRest
            followed
          have levels : left * (tree.depth + 1) ≤ links * (tree.depth + 1) :=
            Nat.mul_le_mul_right _ leftLe
          have top := length_le_depth entry
          rw [List.length_cons, Nat.add_mul, Nat.one_mul]
          omega

/-! ### Lookups without links -/

/-- What lies above an entry is a directory. -/
theorem directory_of_above {ancestor path : Path} (above : ancestor <+: path)
    (proper : ancestor ≠ path) (entry : path ∈ tree.entries) :
    ancestor ∈ tree.directories := by
  refine tree.directory_of_prefix ?_ (tree.closed path entry)
  obtain ⟨rest, rfl⟩ := above
  have some : rest ≠ [] := fun none => proper (by rw [none, List.append_nil])
  rw [List.dropLast_append_of_ne_nil some]
  exact List.prefix_append _ _

/-- Below a directory without links a path leads to itself. -/
theorem follow_of_noLinks {links : Nat} {names : List Name} :
    ∀ {path : Path}, path ∈ tree.directories → path ++ names ∈ tree.entries →
      (∀ file ∈ tree.files, path <+: file → tree.target file = none) →
      tree.follow links path names = some (path ++ names, links) := by
  induction names with
  | nil =>
    intro path _ _ _
    rw [follow_nil, List.append_nil]
  | cons name rest inductionHypothesis =>
    intro path directory entry noLinks
    rw [List.append_cons path name rest] at entry ⊢
    have below (some : rest ≠ []) : path ++ [name] ∈ tree.directories :=
      directory_of_above (List.prefix_append _ rest)
        (fun same => some (List.append_right_eq_self.mp same.symm)) entry
    have next : path ++ [name] ∈ tree.entries := by
      by_cases last : rest = []
      · rwa [last, List.append_nil] at entry
      · exact List.mem_append_left _ (below last)
    have plain := tree.plain _ next name (by simp)
    have lookup : tree.lookupName path name = some (path ++ [name]) := by
      unfold FileTree.lookupName
      rw [if_pos directory, if_neg plain.1, if_neg plain.2, if_pos next]
    have noLink : tree.linkAt (path ++ [name]) = none := by
      unfold linkAt
      split
      · next file => exact noLinks _ file (List.prefix_append _ _)
      · rfl
    rw [follow_cons, lookup, Option.bind_some, noLink]
    dsimp only
    by_cases last : rest = []
    · rw [last, follow_nil, List.append_nil]
    · exact inductionHypothesis (below last) entry fun file member above =>
        noLinks file member ((List.prefix_append _ _).trans above)

/-! ### Files -/

section Files

variable (tree : LinkedTree) (maxLinks : Nat)

/-- What an absolute path leads to. -/
def stat (file : List Name) : Option Path := (tree.follow maxLinks [] file).map Prod.fst

/-- The canonical path of a file: that of the longest part of its path that leads somewhere, with
the other components resolved from there. -/
def canonicalPath (file : List Name) : Path :=
  (file.inits.reverse.findSome? fun front =>
    (tree.stat maxLinks front).map fun path => resolve path (file.drop front.length)).getD []

def isDirectory (file : List Name) : Bool :=
  (tree.stat maxLinks file).any fun path => decide (path ∈ tree.directories)

end Files

theorem reverse_inits (file : List Name) : ∃ others, file.inits.reverse = file :: others := by
  induction file using List.reverseRecOn with
  | nil => exact ⟨[], rfl⟩
  | append_singleton front name inductionHypothesis =>
    refine ⟨front.inits.reverse, ?_⟩
    rw [List.inits_append, List.reverse_append]
    rfl

/-- A file that leads somewhere has the path that it leads to. -/
theorem canonicalPath_of_stat {maxLinks : Nat} {file : List Name} {path : Path}
    (found : tree.stat maxLinks file = some path) : tree.canonicalPath maxLinks file = path := by
  obtain ⟨others, whole⟩ := reverse_inits file
  unfold canonicalPath
  rw [whole, List.findSome?_cons, found]
  simp [resolve]

theorem stat_append {maxLinks : Nat} (first second : List Name) :
    tree.stat maxLinks (first ++ second) =
      ((tree.follow maxLinks [] first).bind fun found => tree.follow found.2 found.1 second).map
        Prod.fst := by
  unfold stat
  rw [follow_append]

/-- Files with the same names after files that lead to the same place lead to the same place, if
they lead anywhere. -/
theorem stat_append_unique {maxLinks : Nat} {first second names : List Name}
    {place path other : Path} (found : tree.stat maxLinks first = some place)
    (again : tree.stat maxLinks second = some place)
    (leads : tree.stat maxLinks (first ++ names) = some path)
    (leadsToo : tree.stat maxLinks (second ++ names) = some other) : path = other := by
  rw [stat_append] at leads leadsToo
  obtain ⟨⟨_, left⟩, followed, rfl⟩ := Option.map_eq_some_iff.mp found
  obtain ⟨⟨_, more⟩, followedToo, same⟩ := Option.map_eq_some_iff.mp again
  rw [followed, Option.bind_some] at leads
  rw [followedToo, Option.bind_some] at leadsToo
  obtain ⟨end', followed, rfl⟩ := Option.map_eq_some_iff.mp leads
  obtain ⟨endToo, followedToo, rfl⟩ := Option.map_eq_some_iff.mp leadsToo
  exact follow_path_unique _ _ _ _ _ _ followed (same ▸ followedToo)

theorem linkAt_of_stat {maxLinks : Nat} {file : List Name} {path : Path}
    (found : tree.stat maxLinks file = some path) : tree.linkAt path = none := by
  obtain ⟨whole, followed, rfl⟩ := Option.map_eq_some_iff.mp found
  exact linkAt_of_follow _ _ _ _ (linkAt_of_directory tree.root) followed

/-- An entry of a directory that is no link leads to itself. -/
theorem stat_concat {maxLinks : Nat} {parent : List Name} {path : Path} {name : Name}
    (found : tree.stat maxLinks parent = some path) (directory : path ∈ tree.directories)
    (entry : path ++ [name] ∈ tree.entries) (noLink : tree.linkAt (path ++ [name]) = none) :
    tree.stat maxLinks (parent ++ [name]) = some (path ++ [name]) := by
  obtain ⟨⟨place, left⟩, followed, same⟩ := Option.map_eq_some_iff.mp found
  obtain rfl : place = path := same
  have plain := tree.plain _ entry name (by simp)
  have lookup : tree.lookupName place name = some (place ++ [name]) := by
    unfold FileTree.lookupName
    rw [if_pos directory, if_neg plain.1, if_neg plain.2, if_pos entry]
  rw [stat_append, followed, Option.bind_some, follow_cons, lookup, Option.bind_some, noLink]
  dsimp only
  rw [follow_nil]
  rfl

/-- An entry that leads nowhere keeps its name in its directory. -/
theorem canonicalPath_concat {maxLinks : Nat} {parent : List Name} {path : Path} {name : Name}
    (found : tree.stat maxLinks parent = some path) (plain : FileTree.IsPlain name)
    (nowhere : tree.stat maxLinks (parent ++ [name]) = none) :
    tree.canonicalPath maxLinks (parent ++ [name]) = path ++ [name] := by
  obtain ⟨others, whole⟩ := reverse_inits parent
  have longest : (parent ++ [name]).inits.reverse = (parent ++ [name]) :: parent :: others := by
    rw [← whole, List.inits_append, List.reverse_append]
    rfl
  unfold canonicalPath
  rw [longest, List.findSome?_cons, nowhere, Option.map_none, List.findSome?_cons, found,
    Option.map_some, List.drop_left]
  exact FileTree.resolveName_of_plain plain path

theorem isDirectory_iff {maxLinks : Nat} {file : List Name} :
    tree.isDirectory maxLinks file = true ↔
      ∃ path, tree.stat maxLinks file = some path ∧ path ∈ tree.directories := by
  unfold isDirectory
  rw [Option.any_eq_true]
  simp

end LinkedTree

end TermPlux.Paths
