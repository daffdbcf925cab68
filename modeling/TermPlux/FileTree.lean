/-
This file is the library for file systems without symbolic links: finite trees of
directories and files. Looking a list of components up goes through directories
only, so it finds what resolving the components says or nothing. For every list
of components there is a tree with just the directories the lookup goes through.
-/

import Mathlib.Data.List.Dedup
import TermPlux.Paths

namespace TermPlux.Paths

/-- A finite tree of directories and files. -/
structure FileTree where
  directories : List Path
  files : List Path
  root : [] ∈ directories
  closed : ∀ path ∈ directories ++ files, path.dropLast ∈ directories
  separate : ∀ path ∈ files, path ∉ directories

namespace FileTree

def entries (tree : FileTree) : List Path := tree.directories ++ tree.files

/-- The entries of a directory. -/
def children (tree : FileTree) (directory : Path) : List Path :=
  (tree.entries.filter fun path => path ≠ [] ∧ path.dropLast = directory).dedup

theorem concat_mem_children {tree : FileTree} {directory : Path} {name : Name}
    (present : directory ++ [name] ∈ tree.entries) : directory ++ [name] ∈ tree.children directory := by
  unfold children
  rw [List.mem_dedup, List.mem_filter]
  exact ⟨present, by simp⟩

theorem length_children_le (tree : FileTree) (directory : Path) :
    (tree.children directory).length ≤ tree.entries.length :=
  (List.dedup_sublist _).length_le.trans (List.length_filter_le _ _)

/-! ### Lookup -/

def lookupName (tree : FileTree) (path : Path) (name : Name) : Option Path :=
  if path ∈ tree.directories then
    if name = dot then some path
    else if name = dotDot then some path.dropLast
    else if path ++ [name] ∈ tree.entries then some (path ++ [name])
    else none
  else none

def walk (tree : FileTree) : Path → List Name → Option Path
  | path, [] => some path
  | path, name :: rest => (tree.lookupName path name).bind fun next => tree.walk next rest

theorem lookupName_eq_resolveName {tree : FileTree} {path found : Path} {name : Name}
    (lookup : tree.lookupName path name = some found) :
    path ∈ tree.directories ∧ found = resolveName path name := by
  obtain ⟨directory, lookup⟩ := Option.ite_none_right_eq_some.mp lookup
  refine ⟨directory, ?_⟩
  unfold resolveName
  split at lookup
  · next same => rw [if_pos same, Option.some.inj lookup]
  · next notDot =>
    rw [if_neg notDot]
    split at lookup
    · next same => rw [if_pos same, Option.some.inj lookup]
    · next notDotDot =>
      rw [if_neg notDotDot]
      exact (Option.some.inj (Option.ite_none_right_eq_some.mp lookup).2).symm

theorem walk_eq_resolve {tree : FileTree} {path found : Path} {names : List Name}
    (walked : tree.walk path names = some found) : found = resolve path names := by
  induction names generalizing path with
  | nil => exact (Option.some.inj walked).symm
  | cons name rest inductionHypothesis =>
    obtain ⟨next, lookup, walked⟩ := Option.bind_eq_some_iff.mp walked
    rw [inductionHypothesis walked, (lookupName_eq_resolveName lookup).2]
    rfl

theorem walk_append (tree : FileTree) (path : Path) (first second : List Name) :
    tree.walk path (first ++ second) =
      (tree.walk path first).bind fun middle => tree.walk middle second := by
  induction first generalizing path with
  | nil => rfl
  | cons name rest inductionHypothesis =>
    rw [List.cons_append, walk, walk, Option.bind_assoc]
    exact Option.bind_congr fun next _ => inductionHypothesis next

/-- What a lookup that ends in a directory has found on the way is a directory. -/
theorem directory_of_walk {tree : FileTree} {first second : List Name} {found : Path}
    (walked : tree.walk [] (first ++ second) = some found)
    (directory : found ∈ tree.directories) : resolve [] first ∈ tree.directories := by
  rw [walk_append] at walked
  obtain ⟨middle, walkedFirst, walkedSecond⟩ := Option.bind_eq_some_iff.mp walked
  rw [← walk_eq_resolve walkedFirst]
  cases second with
  | nil => exact Option.some.inj walkedSecond ▸ directory
  | cons name rest =>
    obtain ⟨next, lookup, -⟩ := Option.bind_eq_some_iff.mp walkedSecond
    exact (lookupName_eq_resolveName lookup).1

theorem directory_of_prefix (tree : FileTree) {ancestor path : Path} (above : ancestor <+: path)
    (directory : path ∈ tree.directories) : ancestor ∈ tree.directories := by
  obtain ⟨below, rfl⟩ := above
  induction below using List.reverseRecOn with
  | nil => rwa [List.append_nil] at directory
  | append_singleton front name inductionHypothesis =>
    refine inductionHypothesis ?_
    have parent := tree.closed _ (List.mem_append_left _ directory)
    rwa [← List.append_assoc, List.dropLast_concat] at parent

/-! ### The directories of a lookup -/

/-- The directories that a lookup of the components goes through, with their ancestors. -/
def passed (names : List Name) : List Path :=
  (names.inits.map (resolve [])).flatMap List.inits

theorem mem_passed {names : List Name} {path : Path} :
    path ∈ passed names ↔ ∃ front, front <+: names ∧ path <+: resolve [] front := by
  simp [passed, List.mem_flatMap, List.mem_inits]

theorem passed_subset {tree : FileTree} {names : List Name} {found : Path}
    (walked : tree.walk [] names = some found) (directory : found ∈ tree.directories) :
    ∀ path ∈ passed names, path ∈ tree.directories := by
  intro path member
  obtain ⟨front, ⟨back, rfl⟩, above⟩ := mem_passed.mp member
  exact tree.directory_of_prefix above (directory_of_walk walked directory)

/-- The tree of just the directories that a lookup goes through. -/
def ofPassed (names : List Name) : FileTree where
  directories := passed names
  files := []
  root := mem_passed.mpr ⟨[], List.nil_prefix, List.nil_prefix⟩
  closed path member := by
    rw [List.append_nil] at member
    obtain ⟨front, within, above⟩ := mem_passed.mp member
    exact mem_passed.mpr ⟨front, within, (List.dropLast_prefix path).trans above⟩
  separate _ member := absurd member List.not_mem_nil

theorem resolve_mem_ofPassed (names : List Name) :
    resolve [] names ∈ (ofPassed names).directories :=
  mem_passed.mpr ⟨names, List.prefix_rfl, List.prefix_rfl⟩

theorem walk_ofPassed (names : List Name) :
    (ofPassed names).walk [] names = some (resolve [] names) := by
  have general (front back : List Name) (whole : front ++ back = names) :
      (ofPassed names).walk (resolve [] front) back = some (resolve [] names) := by
    induction back generalizing front with
    | nil =>
      rw [List.append_nil] at whole
      rw [whole]
      rfl
    | cons name rest inductionHypothesis =>
      have next : resolve [] (front ++ [name]) = resolveName (resolve [] front) name :=
        resolve_append [] front [name]
      have here : resolve [] front ∈ (ofPassed names).directories :=
        mem_passed.mpr ⟨front, ⟨_, whole⟩, List.prefix_rfl⟩
      have there : resolve [] (front ++ [name]) ∈ (ofPassed names).entries := by
        refine List.mem_append_left _ (mem_passed.mpr ⟨front ++ [name], ⟨rest, ?_⟩,
          List.prefix_rfl⟩)
        rw [List.append_assoc, List.singleton_append, whole]
      have lookup : (ofPassed names).lookupName (resolve [] front) name =
          some (resolve [] (front ++ [name])) := by
        rw [next] at there ⊢
        unfold lookupName
        rw [if_pos here]
        unfold resolveName at there ⊢
        split
        · rfl
        · split
          · rfl
          · next notDot notDotDot =>
            rw [if_neg notDot, if_neg notDotDot] at there
            exact if_pos there
      rw [walk, lookup]
      exact inductionHypothesis (front ++ [name]) (by rw [List.append_assoc, ← whole]; rfl)
  exact general [] names rfl

/-! ### Creation -/

/-- A component that names an entry of its directory. -/
def IsPlain (name : Name) : Prop := name ≠ dot ∧ name ≠ dotDot

instance (name : Name) : Decidable (IsPlain name) := inferInstanceAs (Decidable (_ ∧ _))

theorem resolveName_of_plain {name : Name} (plain : IsPlain name) (path : Path) :
    resolveName path name = path ++ [name] := by
  unfold resolveName
  rw [if_neg plain.1, if_neg plain.2]

/-- What a text names can be created: its last component is a plain name in an existing
directory that has no such entry. -/
def CanCreate (tree : FileTree) (names : List Name) (directory : Path) (name : Name) : Prop :=
  tree.walk [] names.dropLast = some directory ∧ names.getLast? = some name ∧ IsPlain name ∧
    directory ∈ tree.directories ∧ directory ++ [name] ∉ tree.entries

instance (tree : FileTree) (names : List Name) (directory : Path) (name : Name) :
    Decidable (tree.CanCreate names directory name) :=
  inferInstanceAs (Decidable (_ ∧ _ ∧ _ ∧ _ ∧ _))

/-- The tree with a new directory or file. -/
def insert (tree : FileTree) (directory : Path) (name : Name) (isDirectory : Bool)
    (inside : directory ∈ tree.directories) (fresh : directory ++ [name] ∉ tree.entries) :
    FileTree where
  directories :=
    if isDirectory then (directory ++ [name]) :: tree.directories else tree.directories
  files := if isDirectory then tree.files else (directory ++ [name]) :: tree.files
  root := by
    cases isDirectory
    · exact tree.root
    · exact List.mem_cons_of_mem _ tree.root
  closed path member := by
    have parent : path.dropLast ∈ tree.directories := by
      by_cases new : path = directory ++ [name]
      · rw [new, List.dropLast_concat]
        exact inside
      · refine tree.closed path ?_
        cases isDirectory with
        | false =>
          exact (List.mem_append.mp member).elim (List.mem_append_left _) fun old =>
            List.mem_append_right _ ((List.mem_cons.mp old).resolve_left new)
        | true => exact (List.mem_cons.mp member).resolve_left new
    cases isDirectory
    · exact parent
    · exact List.mem_cons_of_mem _ parent
  separate path member := by
    cases isDirectory with
    | false =>
      rcases List.mem_cons.mp member with rfl | old
      · exact fun listed => fresh (List.mem_append_left _ listed)
      · exact tree.separate path old
    | true =>
      intro listed
      rcases List.mem_cons.mp listed with rfl | old
      · exact fresh (List.mem_append_right _ member)
      · exact tree.separate path member old

theorem mem_directories_insert {tree : FileTree} {directory path : Path} {name : Name}
    {isDirectory : Bool} (inside : directory ∈ tree.directories)
    (fresh : directory ++ [name] ∉ tree.entries) :
    path ∈ (tree.insert directory name isDirectory inside fresh).directories ↔
      (isDirectory = true ∧ path = directory ++ [name]) ∨ path ∈ tree.directories := by
  cases isDirectory with
  | false => exact (or_iff_right fun impossible => nomatch impossible.1).symm
  | true => exact List.mem_cons.trans (or_congr_left (and_iff_right rfl).symm)

theorem mem_files_insert {tree : FileTree} {directory path : Path} {name : Name}
    {isDirectory : Bool} (inside : directory ∈ tree.directories)
    (fresh : directory ++ [name] ∉ tree.entries) :
    path ∈ (tree.insert directory name isDirectory inside fresh).files ↔
      (isDirectory = false ∧ path = directory ++ [name]) ∨ path ∈ tree.files := by
  cases isDirectory with
  | false => exact List.mem_cons.trans (or_congr_left (and_iff_right rfl).symm)
  | true => exact (or_iff_right fun impossible => nomatch impossible.1).symm

theorem mem_entries_insert {tree : FileTree} {directory path : Path} {name : Name}
    {isDirectory : Bool} (inside : directory ∈ tree.directories)
    (fresh : directory ++ [name] ∉ tree.entries) :
    path ∈ (tree.insert directory name isDirectory inside fresh).entries ↔
      path = directory ++ [name] ∨ path ∈ tree.entries := by
  unfold entries
  rw [List.mem_append, mem_directories_insert, mem_files_insert, List.mem_append]
  cases isDirectory <;> simp [or_left_comm, or_assoc]

/-- Create a directory or a file. -/
def create (tree : FileTree) (names : List Name) (isDirectory : Bool) : Option FileTree :=
  match tree.walk [] names.dropLast, names.getLast? with
  | some directory, some name =>
    if allowed : tree.CanCreate names directory name then
      some (tree.insert directory name isDirectory allowed.2.2.2.1 allowed.2.2.2.2)
    else none
  | _, _ => none

theorem create_isSome_iff (tree : FileTree) (names : List Name) (isDirectory : Bool) :
    (tree.create names isDirectory).isSome ↔
      ∃ directory name, tree.CanCreate names directory name := by
  unfold create
  split
  · next directory name walked last =>
    split
    · next allowed => exact iff_of_true rfl ⟨directory, name, allowed⟩
    · next refused =>
      refine iff_of_false Bool.false_ne_true ?_
      rintro ⟨other, otherName, allowed⟩
      have sameDirectory := Option.some.inj (walked.symm.trans allowed.1)
      have sameName := Option.some.inj (last.symm.trans allowed.2.1)
      exact refused (sameDirectory ▸ sameName ▸ allowed)
  · next missing =>
    refine iff_of_false Bool.false_ne_true ?_
    rintro ⟨directory, name, walked, last, -⟩
    exact missing directory name walked last

/-- What can be created is inserted. -/
theorem create_of_canCreate {tree : FileTree} {names : List Name} {directory : Path} {name : Name}
    (allowed : tree.CanCreate names directory name) (isDirectory : Bool) :
    tree.create names isDirectory =
      some (tree.insert directory name isDirectory allowed.2.2.2.1 allowed.2.2.2.2) := by
  unfold create
  split
  next found last walked ends =>
    obtain rfl := Option.some.inj (walked.symm.trans allowed.1)
    obtain rfl := Option.some.inj (ends.symm.trans allowed.2.1)
    exact dif_pos allowed
  next missing => exact absurd allowed.2.1 (missing directory name allowed.1)

/-- A created path is what its components resolve to. -/
theorem CanCreate.resolve_eq {tree : FileTree} {names : List Name} {directory : Path} {name : Name}
    (allowed : tree.CanCreate names directory name) :
    names = names.dropLast ++ [name] ∧ directory = resolve [] names.dropLast ∧
      resolve [] names = directory ++ [name] := by
  obtain ⟨walked, last, plain, -, -⟩ := allowed
  have whole : names = names.dropLast ++ [name] := (List.dropLast_append_getLast? name last).symm
  have resolved := walk_eq_resolve walked
  refine ⟨whole, resolved, ?_⟩
  rw [whole, resolve_append, ← resolved, resolve_singleton, resolveName_of_plain plain]

theorem walk_concat {tree : FileTree} {front : List Name} {directory : Path}
    (walked : tree.walk [] front = some directory) (name : Name) :
    tree.walk [] (front ++ [name]) = tree.lookupName directory name := by
  rw [walk_append, walked, Option.bind_some, walk]
  cases tree.lookupName directory name <;> rfl

theorem entry_of_lookupName {tree : FileTree} {directory found : Path} {name : Name}
    (plain : IsPlain name) (lookup : tree.lookupName directory name = some found) :
    directory ++ [name] ∈ tree.entries := by
  obtain ⟨-, lookup⟩ := Option.ite_none_right_eq_some.mp lookup
  rw [if_neg plain.1, if_neg plain.2] at lookup
  exact (Option.ite_none_right_eq_some.mp lookup).1

/-- What is missing from an existing directory can be created in it. -/
theorem canCreate_of_missing {tree : FileTree} {front : List Name} {directory : Path} {name : Name}
    (walked : tree.walk [] front = some directory) (inside : directory ∈ tree.directories)
    (missing : tree.walk [] (front ++ [name]) = none) :
    tree.CanCreate (front ++ [name]) directory name := by
  rw [walk_concat walked, lookupName, if_pos inside] at missing
  split at missing
  · cases missing
  · next notDot =>
    split at missing
    · cases missing
    · next notDotDot =>
      refine ⟨?_, List.getLast?_concat, ⟨notDot, notDotDot⟩, inside, fun present => ?_⟩
      · rw [List.dropLast_concat]
        exact walked
      · rw [if_pos present] at missing
        cases missing

/-- A lookup finds in a larger tree what it finds in the smaller one. -/
theorem walk_of_subset {tree larger : FileTree} (directories : tree.directories ⊆ larger.directories)
    (entries : tree.entries ⊆ larger.entries) {path found : Path} {names : List Name}
    (walked : tree.walk path names = some found) : larger.walk path names = some found := by
  induction names generalizing path with
  | nil => exact walked
  | cons name rest inductionHypothesis =>
    obtain ⟨next, lookup, walked⟩ := Option.bind_eq_some_iff.mp walked
    have same : larger.lookupName path name = some next := by
      obtain ⟨directory, lookup⟩ := Option.ite_none_right_eq_some.mp lookup
      unfold lookupName
      rw [if_pos (directories directory), ← lookup]
      split
      · rfl
      · split
        · rfl
        next notDot notDotDot =>
          rw [if_neg notDot, if_neg notDotDot] at lookup
          have present := (Option.ite_none_right_eq_some.mp lookup).1
          rw [if_pos present, if_pos (entries present)]
    rw [walk, same]
    exact inductionHypothesis walked

theorem CanCreate.missing {tree : FileTree} {names : List Name} {directory : Path} {name : Name}
    (allowed : tree.CanCreate names directory name) : tree.walk [] names = none := by
  have whole := allowed.resolve_eq.1
  obtain ⟨walked, -, plain, inside, fresh⟩ := allowed
  rw [whole, walk_concat walked, lookupName, if_pos inside, if_neg plain.1, if_neg plain.2,
    if_neg fresh]

/-- There is a tree in which the path can be created. -/
def Creatable (names : List Name) : Prop :=
  (∃ name, names.getLast? = some name ∧ IsPlain name) ∧
    resolve [] names ∉ passed names.dropLast

/-- A path can be created in some tree unless it ends in a dot component or goes through
itself. -/
theorem creatable_iff (names : List Name) :
    Creatable names ↔
      ∃ (tree : FileTree) (directory : Path) (name : Name),
        tree.CanCreate names directory name := by
  constructor
  · rintro ⟨⟨name, last, plain⟩, fresh⟩
    have whole : names.dropLast ++ [name] = names := List.dropLast_append_getLast? name last
    refine ⟨ofPassed names.dropLast, resolve [] names.dropLast, name, walk_ofPassed _, last, plain,
      resolve_mem_ofPassed _, fun present => fresh ?_⟩
    rw [← resolveName_of_plain plain, ← resolve_singleton, ← resolve_append, whole] at present
    exact (List.mem_append.mp present).elim id fun inFiles => absurd inFiles List.not_mem_nil
  · rintro ⟨tree, directory, name, allowed⟩
    refine ⟨⟨name, allowed.2.1, allowed.2.2.1⟩, fun through => ?_⟩
    have present := passed_subset allowed.1 allowed.2.2.2.1 _ through
    rw [allowed.resolve_eq.2.2] at present
    exact allowed.2.2.2.2 (List.mem_append_left _ present)

end FileTree

end TermPlux.Paths
