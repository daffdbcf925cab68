/-
This file models `TermPluxDocumentsProvider`: the check that a client's document
lies in the tree it was granted, and the opening, deletion and creation of
documents, over the paths of `java.io.File` and a file system without symbolic
links.

The check compares texts, so a document id that merely extends the text of its
parent passes it, and a display name is not kept from naming another directory.
The file proves exactly for which ids and names the provider stays inside.
-/

import TermPlux.CandidateSearch
import TermPlux.FileTree

namespace TermPlux.DocumentsProvider

open Paths

abbrev Text := List Char

/-! ### Files -/

namespace File

/-- Drop the separators that follow one. -/
def dropRepeated : Bool → Text → Text
  | _, [] => []
  | afterSeparator, character :: rest =>
    if character = '/' ∧ afterSeparator then dropRepeated true rest
    else character :: dropRepeated (character = '/') rest

/-- The path of a file: without repeated separators, and without one at its end unless it is the
root. -/
def normalize (pathname : Text) : Text :=
  if (dropRepeated false pathname).getLast? = some '/' ∧ 1 < pathname.length then
    (dropRepeated false pathname).dropLast
  else dropRepeated false pathname

/-- The path of a child, both given by their paths. -/
def resolveChild (parent child : Text) : Text :=
  if child = [] ∨ child = ['/'] then parent
  else if child.head? = some '/' then if parent = ['/'] then child else parent ++ child
  else if parent = ['/'] then parent ++ child
  else parent ++ '/' :: child

/-- `new File(parent, child)`. -/
def ofParent (parent child : Text) : Text := resolveChild (normalize parent) (normalize child)

theorem components_separator (text : Text) : components ('/' :: text) = components text :=
  components_append [] text

theorem components_trailing (text : Text) : components (text ++ ['/']) = components text := by
  rw [components_append, components_nil, List.append_nil]

theorem components_append_dropRepeated (front text : Text) (afterSeparator : Bool)
    (ends : afterSeparator = true → ∃ start, front = start ++ ['/']) :
    components (front ++ dropRepeated afterSeparator text) = components (front ++ text) := by
  induction text generalizing front afterSeparator with
  | nil => rfl
  | cons character rest inductionHypothesis =>
    unfold dropRepeated
    split
    · next repeated =>
      obtain ⟨rfl, after⟩ := repeated
      obtain ⟨start, rfl⟩ := ends after
      rw [inductionHypothesis _ true fun _ => ⟨start, rfl⟩]
      rw [components_append (start ++ ['/']) rest, components_trailing, List.append_assoc,
        List.singleton_append, components_append]
    · rw [List.append_cons front character (dropRepeated _ rest),
        List.append_cons front character rest]
      refine inductionHypothesis _ _ fun separator => ⟨front, ?_⟩
      rw [of_decide_eq_true separator]

theorem components_normalize (pathname : Text) :
    components (normalize pathname) = components pathname := by
  have kept : components (dropRepeated false pathname) = components pathname :=
    components_append_dropRepeated [] pathname false fun impossible => nomatch impossible
  unfold normalize
  split
  · next trailing =>
    rw [← kept, ← components_trailing, List.dropLast_append_getLast? '/' trailing.1]
  · exact kept

theorem components_resolveChild (parent child : Text) :
    components (resolveChild parent child) = components parent ++ components child := by
  have root : components ['/'] = [] := rfl
  unfold resolveChild
  split
  · next empty => rcases empty with rfl | rfl <;> simp [root]
  · split
    · next leading =>
      obtain ⟨rest, rfl⟩ : ∃ rest, child = '/' :: rest := by
        cases child with
        | nil => cases leading
        | cons character rest => exact ⟨rest, by rw [Option.some.inj leading]⟩
      split
      · next isRoot => rw [isRoot, root, List.nil_append]
      · rw [components_append, components_separator]
    · split
      · next isRoot =>
        rw [isRoot, root, List.nil_append]
        exact components_separator child
      · exact components_append parent child

theorem components_ofParent (parent child : Text) :
    components (ofParent parent child) = components parent ++ components child := by
  rw [ofParent, components_resolveChild, components_normalize, components_normalize]

end File

/-! ### The provider -/

/-- The id of a document: an absolute path. -/
structure DocumentId where
  path : Text
  absolute : path.head? = some '/'

def isChildDocument (parentDocumentId documentId : DocumentId) : Bool :=
  parentDocumentId.path.isPrefixOf documentId.path

section Provider

variable (tree : FileTree)

/-- `File.exists`. -/
def fileExists (path : Text) : Bool := (tree.walk [] (components path)).isSome

/-- The file of an existing document. -/
def getFileForDocId (docId : DocumentId) : Option Path :=
  tree.walk [] (components (File.normalize docId.path))

/-- The file that `openDocument` opens. -/
def openDocument (documentId : DocumentId) : Option Path := getFileForDocId tree documentId

/-- The file that `deleteDocument` deletes. -/
def deleteDocument (documentId : DocumentId) : Option Path := getFileForDocId tree documentId

def conflictSuffix (noConflictId : Nat) : Text :=
  " (".toList ++ (toString noConflictId).toList ++ ")".toList

/-- The loop of `createDocument`, for a number of attempts. -/
def freeName (parentDocumentId : DocumentId) (displayName : Text) : Nat → Nat → Option Text
  | 0, _ => none
  | attempts + 1, noConflictId =>
    if fileExists tree
        (File.ofParent parentDocumentId.path (displayName ++ conflictSuffix noConflictId)) then
      freeName parentDocumentId displayName attempts (noConflictId + 1)
    else some (File.ofParent parentDocumentId.path (displayName ++ conflictSuffix noConflictId))

/-- The file that `createDocument` tries to create. A tree of `n` entries cannot hold `n + 1`
conflicting names. -/
def newFile (parentDocumentId : DocumentId) (displayName : Text) : Option Text :=
  if fileExists tree (File.ofParent parentDocumentId.path displayName) then
    freeName tree parentDocumentId displayName (tree.entries.length + 1) 2
  else some (File.ofParent parentDocumentId.path displayName)

/-- `createDocument`, with the new document id and the tree after it. -/
def createDocument (parentDocumentId : DocumentId) (isDirectory : Bool) (displayName : Text) :
    Option (Text × FileTree) :=
  (newFile tree parentDocumentId displayName).bind fun path =>
    (tree.create (components path) isDirectory).map fun after => (path, after)

end Provider

/-! ### Child documents -/

/-- The check of a child is right: what passes it lies at or beneath the parent. -/
def ChildConfined (parent document : DocumentId) : Prop :=
  isChildDocument parent document = true → normalise parent.path <+: normalise document.path

/-- The text of a document after the directory part of its parent, as levels to climb and names
to descend. -/
def tailOf (parent document : DocumentId) : Relative :=
  relativeForm (components (document.path.drop (directoryPart parent.path).length))

/-- What the tail of the document climbs out of it descends again: its names start with the part
of the parent that lies below the highest directory it reaches. -/
def StaysUnder (parent document : DocumentId) : Prop :=
  parent.path <+: document.path →
    (normalise parent.path).drop
        ((normalise (directoryPart parent.path)).length - (tailOf parent document).ups) <+:
      (tailOf parent document).names

theorem normalise_directoryPart_append (parent tail : Text) :
    normalise (directoryPart parent ++ tail) =
      resolve (normalise (directoryPart parent)) (components tail) := by
  unfold normalise
  rw [components_directoryPart_append, resolve_append]

theorem components_lastPart (text : Text) :
    components (lastPart text) = if lastPart text = [] then [] else [lastPart text] :=
  components_of_plain (lastPart_plain text)

theorem normalise_cases (text : Text) :
    normalise text = normalise (directoryPart text) ∨
      normalise text = (normalise (directoryPart text)).dropLast ∨
      ∃ name, normalise text = normalise (directoryPart text) ++ [name] := by
  have whole : normalise text =
      resolve (normalise (directoryPart text)) (components (lastPart text)) := by
    rw [← normalise_directoryPart_append, directoryPart_append_lastPart]
  rw [whole, components_lastPart]
  split
  · exact .inl rfl
  · rw [resolve_singleton, resolveName]
    split
    · exact .inl rfl
    · split
      · exact .inr (.inl rfl)
      · exact .inr (.inr ⟨_, rfl⟩)

theorem prefix_take_append_iff {target base : Path} {levels : Nat} (names : List Name)
    (same : target.take levels = base.take levels) :
    target <+: base.take levels ++ names ↔ target.drop levels <+: names := by
  have split : target.take levels ++ target.drop levels <+: target.take levels ++ names ↔
      target.drop levels <+: names := List.prefix_append_right_inj _
  rw [List.take_append_drop] at split
  rw [← same, split]

/-- The check of a child is right exactly for the ids that stay under their parent. -/
theorem childConfined_iff_staysUnder (parent document : DocumentId) :
    ChildConfined parent document ↔ StaysUnder parent document := by
  unfold ChildConfined StaysUnder isChildDocument tailOf
  rw [List.isPrefixOf_iff_prefix]
  refine forall_congr' fun ⟨rest, extended⟩ => ?_
  have whole : document.path =
      directoryPart parent.path ++ (lastPart parent.path ++ rest) := by
    rw [← extended, ← List.append_assoc, directoryPart_append_lastPart]
  rw [whole, List.drop_left, normalise_directoryPart_append, resolve_eq_apply]
  unfold Relative.apply
  have cases := normalise_cases parent.path
  generalize normalise parent.path = target at cases ⊢
  generalize normalise (directoryPart parent.path) = base at cases ⊢
  generalize relativeForm (components (lastPart parent.path ++ rest)) = tail
  rcases cases with rfl | rfl | ⟨name, rfl⟩
  · exact prefix_take_append_iff _ rfl
  · by_cases climbs : base.length - tail.ups ≤ base.length - 1
    · refine prefix_take_append_iff _ ?_
      rw [List.dropLast_eq_take, List.take_take, Nat.min_eq_left climbs]
    · have all : base.take (base.length - tail.ups) = base := List.take_of_length_le (by omega)
      have none : base.dropLast.drop (base.length - tail.ups) = [] :=
        List.drop_of_length_le (by rw [List.length_dropLast]; omega)
      rw [all, none]
      exact iff_of_true ((List.dropLast_prefix base).trans (List.prefix_append _ _))
        List.nil_prefix
  · exact prefix_take_append_iff _ (List.take_append_of_le_length (Nat.sub_le _ _))

/-! ### Conflicting names -/

theorem toList_toString (number : Nat) : (toString number).toList = Nat.toDigits 10 number :=
  Nat.toList_repr

theorem conflictSuffix_plain (noConflictId : Nat) : '/' ∉ conflictSuffix noConflictId := by
  unfold conflictSuffix
  rw [toList_toString]
  intro member
  rcases List.mem_append.mp member with front | back
  · rcases List.mem_append.mp front with opening | digits
    · exact absurd opening (by decide)
    · exact absurd (Nat.isDigit_of_mem_toDigits (by decide) (by decide) digits) (by decide)
  · exact absurd back (by decide)

theorem conflictSuffix_isPlain (front : Text) (noConflictId : Nat) :
    FileTree.IsPlain (front ++ conflictSuffix noConflictId) := by
  have opening : '(' ∈ front ++ conflictSuffix noConflictId := by simp [conflictSuffix]
  refine ⟨fun same => ?_, fun same => ?_⟩
  · exact absurd (same ▸ opening) (by decide)
  · exact absurd (same ▸ opening) (by decide)

theorem conflictSuffix_injective {first second : Nat}
    (same : conflictSuffix first = conflictSuffix second) : first = second := by
  unfold conflictSuffix at same
  rw [toList_toString, toList_toString, List.append_assoc, List.append_assoc] at same
  have digits : Nat.toDigits 10 first = Nat.toDigits 10 second :=
    List.append_cancel_right (List.append_cancel_left same)
  have values := congrArg (Nat.ofDigitChars 10 · 0) digits
  rwa [Nat.ofDigitChars_toDigits (by decide) (by decide),
    Nat.ofDigitChars_toDigits (by decide) (by decide)] at values

/-- The components of a name that `createDocument` tries. -/
theorem components_ofParent_append (parent displayName suffix : Text) (plain : '/' ∉ suffix) :
    components (File.ofParent parent (displayName ++ suffix)) =
      components parent ++ components (directoryPart displayName) ++
        if lastPart displayName ++ suffix = [] then [] else [lastPart displayName ++ suffix] := by
  have whole : displayName ++ suffix =
      directoryPart displayName ++ (lastPart displayName ++ suffix) := by
    rw [← List.append_assoc, directoryPart_append_lastPart]
  have plainLast : '/' ∉ lastPart displayName ++ suffix := by
    rw [List.mem_append]
    exact not_or.mpr ⟨lastPart_plain displayName, plain⟩
  rw [File.components_ofParent, whole, components_directoryPart_append,
    components_of_plain plainLast, List.append_assoc]

section Search

variable {tree : FileTree} {parent : DocumentId} {displayName : Text}

theorem freeName_spec {attempts noConflictId : Nat} {path : Text}
    (found : freeName tree parent displayName attempts noConflictId = some path) :
    fileExists tree path = false ∧ ∃ number,
      path = File.ofParent parent.path (displayName ++ conflictSuffix number) := by
  induction attempts generalizing noConflictId with
  | zero => cases found
  | succ attempts inductionHypothesis =>
    unfold freeName at found
    split at found
    · exact inductionHypothesis found
    · next free =>
      cases found
      exact ⟨Bool.eq_false_iff.mpr free, noConflictId, rfl⟩

theorem newFile_spec {path : Text} (found : newFile tree parent displayName = some path) :
    fileExists tree path = false ∧ ∃ suffix, '/' ∉ suffix ∧
      path = File.ofParent parent.path (displayName ++ suffix) := by
  unfold newFile at found
  split at found
  · obtain ⟨free, number, same⟩ := freeName_spec found
    exact ⟨free, conflictSuffix number, conflictSuffix_plain number, same⟩
  · next free =>
    cases found
    exact ⟨Bool.eq_false_iff.mpr free, [], List.not_mem_nil, by rw [List.append_nil]⟩

theorem exists_of_freeName_eq_none {attempts noConflictId : Nat}
    (nothing : freeName tree parent displayName attempts noConflictId = none) :
    ∀ attempt < attempts, fileExists tree (File.ofParent parent.path
      (displayName ++ conflictSuffix (noConflictId + attempt))) = true := by
  induction attempts generalizing noConflictId with
  | zero => exact fun attempt impossible => absurd impossible (Nat.not_lt_zero _)
  | succ attempts inductionHypothesis =>
    unfold freeName at nothing
    split at nothing
    · next taken =>
      intro attempt below
      cases attempt with
      | zero => exact taken
      | succ attempt =>
        rw [Nat.add_succ, ← Nat.succ_add]
        exact inductionHypothesis nothing attempt (Nat.lt_of_succ_lt_succ below)
    · cases nothing

/-- The entry of an existing file with a conflict number. -/
theorem entry_of_fileExists {number : Nat} (taken : fileExists tree
      (File.ofParent parent.path (displayName ++ conflictSuffix number)) = true) :
    resolve [] (components parent.path ++ components (directoryPart displayName)) ++
      [lastPart displayName ++ conflictSuffix number] ∈ tree.entries := by
  have nonempty : lastPart displayName ++ conflictSuffix number ≠ [] := by
    simp [conflictSuffix]
  obtain ⟨found, walked⟩ := Option.isSome_iff_exists.mp taken
  rw [components_ofParent_append _ _ _ (conflictSuffix_plain number), if_neg nonempty,
    FileTree.walk_append] at walked
  obtain ⟨directory, walkedFront, walkedLast⟩ := Option.bind_eq_some_iff.mp walked
  obtain ⟨entry, lookup, -⟩ := Option.bind_eq_some_iff.mp walkedLast
  rw [← FileTree.walk_eq_resolve walkedFront]
  exact FileTree.entry_of_lookupName (conflictSuffix_isPlain _ number) lookup

/-- The loop of `createDocument` ends: one of `n + 1` names is free in a tree of `n` entries. -/
theorem newFile_isSome (tree : FileTree) (parent : DocumentId) (displayName : Text) :
    (newFile tree parent displayName).isSome := by
  unfold newFile
  split
  · rw [← Option.not_isNone, Bool.not_eq_true', ← Bool.not_eq_true, Option.isNone_iff_eq_none]
    intro nothing
    have taken := exists_of_freeName_eq_none nothing
    let entry (attempt : Nat) : Path :=
      resolve [] (components parent.path ++ components (directoryPart displayName)) ++
        [lastPart displayName ++ conflictSuffix (2 + attempt)]
    have distinct : Function.Injective entry := by
      intro first second same
      have names := List.append_cancel_left same
      have suffixes := List.append_cancel_left (List.head_eq_of_cons_eq names)
      exact Nat.add_left_cancel (conflictSuffix_injective suffixes)
    obtain ⟨attempt, inRange, free⟩ := CandidateSearch.exists_free distinct
      fun attempt => @entry_of_fileExists tree parent displayName (2 + attempt)
    exact free (taken attempt (Nat.lt_succ_of_le inRange))
  · rfl

end Search

/-! ### Created documents -/

/-- Whatever the file system holds, a document created in the parent is a direct child of it. -/
def CreatesChild (parent : DocumentId) (displayName : Text) : Prop :=
  ∀ tree isDirectory path after,
    createDocument tree parent isDirectory displayName = some (path, after) →
      ∃ name, normalise path = normalise parent.path ++ [name]

/-- The part of the display name up to its last separator leads back to the parent, and a
display name without any component is not used for a parent that may be missing. -/
def NamesInParent (parent : DocumentId) (displayName : Text) : Prop :=
  resolve (normalise parent.path) (components (directoryPart displayName)) =
      normalise parent.path ∧
    (components displayName = [] → ¬FileTree.Creatable (components parent.path))

theorem createDocument_spec {tree : FileTree} {parent : DocumentId} {isDirectory : Bool}
    {displayName path : Text} {after : FileTree}
    (created : createDocument tree parent isDirectory displayName = some (path, after)) :
    (∃ suffix, '/' ∉ suffix ∧ path = File.ofParent parent.path (displayName ++ suffix)) ∧
      ∃ directory name, tree.CanCreate (components path) directory name := by
  obtain ⟨found, isNew, made⟩ := Option.bind_eq_some_iff.mp created
  obtain ⟨made', allowed, same⟩ := Option.map_eq_some_iff.mp made
  cases same
  refine ⟨(newFile_spec isNew).2, (FileTree.create_isSome_iff tree _ isDirectory).mp ?_⟩
  exact Option.isSome_iff_exists.mpr ⟨_, allowed⟩

theorem createDocument_of_canCreate {tree : FileTree} {parent : DocumentId}
    {displayName path : Text} (isNew : newFile tree parent displayName = some path)
    {directory : Path} {name : Name} (allowed : tree.CanCreate (components path) directory name)
    (isDirectory : Bool) :
    ∃ after, createDocument tree parent isDirectory displayName = some (path, after) := by
  obtain ⟨after, made⟩ := Option.isSome_iff_exists.mp
    ((FileTree.create_isSome_iff tree (components path) isDirectory).mpr ⟨_, _, allowed⟩)
  exact ⟨after, by rw [createDocument, isNew, Option.bind_some, made, Option.map_some]⟩

theorem lastPart_eq_nil_of_append {displayName suffix : Text}
    (empty : lastPart displayName ++ suffix = []) :
    components (directoryPart displayName) = components displayName := by
  have noLast := (List.append_eq_nil_iff.mp empty).1
  have whole := directoryPart_append_lastPart displayName
  rw [noLast, List.append_nil] at whole
  rw [whole]

theorem createsChild_of_namesInParent {parent : DocumentId} {displayName : Text}
    (named : NamesInParent parent displayName) : CreatesChild parent displayName := by
  intro tree isDirectory path after created
  obtain ⟨⟨suffix, plain, rfl⟩, directory, name, allowed⟩ := createDocument_spec created
  have tried := components_ofParent_append parent.path displayName suffix plain
  by_cases empty : lastPart displayName ++ suffix = []
  · -- The name adds no component: what is created would be the parent itself.
    exfalso
    rw [if_pos empty, List.append_nil] at tried
    by_cases noFront : components (directoryPart displayName) = []
    · rw [noFront, List.append_nil] at tried
      rw [tried] at allowed
      refine named.2 ?_ ((FileTree.creatable_iff _).mpr ⟨tree, directory, name, allowed⟩)
      rw [← lastPart_eq_nil_of_append empty, noFront]
    · have isParent : resolve [] (components (File.ofParent parent.path (displayName ++ suffix))) =
          normalise parent.path := by
        rw [tried, resolve_append]
        exact named.1
      have walked := allowed.1
      rw [tried, List.dropLast_append_of_ne_nil noFront] at walked
      have present := FileTree.directory_of_walk walked allowed.2.2.2.1
      refine allowed.2.2.2.2 (List.mem_append_left _ ?_)
      rw [← allowed.resolve_eq.2.2, isParent]
      exact present
  · rw [if_neg empty] at tried
    have inParent : directory = normalise parent.path := by
      rw [allowed.resolve_eq.2.1, tried, List.dropLast_concat, resolve_append]
      exact named.1
    exact ⟨name, allowed.resolve_eq.2.2.trans (by rw [inParent])⟩

/-- In the tree of the directories on the way, every new name lands in the last of them, so that
has to be the parent. -/
theorem resolve_of_createsChild {parent : DocumentId} {displayName : Text}
    (creates : CreatesChild parent displayName) :
    resolve (normalise parent.path) (components (directoryPart displayName)) =
      normalise parent.path := by
  let front := components parent.path ++ components (directoryPart displayName)
  let tree := FileTree.ofPassed front
  have walked : tree.walk [] front = some (resolve [] front) := FileTree.walk_ofPassed front
  obtain ⟨path, isNew⟩ := Option.isSome_iff_exists.mp (newFile_isSome tree parent displayName)
  obtain ⟨free, suffix, plain, rfl⟩ := newFile_spec isNew
  have missing := Option.not_isSome_iff_eq_none.mp (Bool.eq_false_iff.mp free)
  have tried := components_ofParent_append parent.path displayName suffix plain
  by_cases empty : lastPart displayName ++ suffix = []
  · rw [if_pos empty, List.append_nil] at tried
    rw [tried, walked] at missing
    cases missing
  · rw [if_neg empty] at tried
    rw [tried] at missing
    have allowed := FileTree.canCreate_of_missing walked (FileTree.resolve_mem_ofPassed front)
      missing
    rw [← tried] at allowed
    obtain ⟨after, created⟩ := createDocument_of_canCreate isNew allowed false
    obtain ⟨name, isChild⟩ := creates tree false _ after created
    have same := allowed.resolve_eq.2.2.symm.trans isChild
    have inParent : resolve [] front = normalise parent.path := List.append_inj_left' same rfl
    exact (resolve_append [] _ _).symm.trans inParent

/-- A name without components creates the parent itself where it is missing. -/
theorem not_creatable_of_createsChild {parent : DocumentId} {displayName : Text}
    (creates : CreatesChild parent displayName) (noComponents : components displayName = []) :
    ¬FileTree.Creatable (components parent.path) := by
  intro creatable
  obtain ⟨tree, directory, name, allowed⟩ := (FileTree.creatable_iff _).mp creatable
  have tried : components (File.ofParent parent.path displayName) = components parent.path := by
    rw [File.components_ofParent, noComponents, List.append_nil]
  have free : fileExists tree (File.ofParent parent.path displayName) = false := by
    rw [fileExists, tried, allowed.missing]
    rfl
  have isNew : newFile tree parent displayName =
      some (File.ofParent parent.path displayName) := if_neg (Bool.eq_false_iff.mp free)
  rw [← tried] at allowed
  obtain ⟨after, created⟩ := createDocument_of_canCreate isNew allowed false
  obtain ⟨child, isChild⟩ := creates tree false _ after created
  have same : normalise (File.ofParent parent.path displayName) = normalise parent.path :=
    congrArg (resolve []) tried
  rw [same] at isChild
  exact absurd (congrArg List.length isChild) (by simp)

theorem namesInParent_of_createsChild {parent : DocumentId} {displayName : Text}
    (creates : CreatesChild parent displayName) : NamesInParent parent displayName :=
  ⟨resolve_of_createsChild creates, not_creatable_of_createsChild creates⟩

/-! ### A client with a granted tree -/

/-- What a client asks for. -/
inductive Request
  | openDocument (documentId : DocumentId)
  | deleteDocument (documentId : DocumentId)
  | createDocument (parentDocumentId : DocumentId) (isDirectory : Bool) (displayName : Text)

/-- The document that the platform checks against the granted tree. -/
def Request.document : Request → DocumentId
  | .openDocument documentId | .deleteDocument documentId => documentId
  | .createDocument parentDocumentId _ _ => parentDocumentId

/-- The path that a request acts on, if the check lets it through and the provider finds or
creates the document. -/
def touched (tree : FileTree) (root : DocumentId) (request : Request) : Option Path :=
  if isChildDocument root request.document then
    match request with
    | .openDocument documentId => openDocument tree documentId
    | .deleteDocument documentId => deleteDocument tree documentId
    | .createDocument parentDocumentId isDirectory displayName =>
      (createDocument tree parentDocumentId isDirectory displayName).map fun created =>
        normalise created.1
  else none

def Request.StaysInside (root : DocumentId) (request : Request) : Prop :=
  StaysUnder root request.document ∧
    match request with
    | .createDocument parentDocumentId _ displayName => NamesInParent parentDocumentId displayName
    | .openDocument _ | .deleteDocument _ => True

theorem getFileForDocId_eq_normalise {tree : FileTree} {documentId : DocumentId} {path : Path}
    (found : getFileForDocId tree documentId = some path) : path = normalise documentId.path := by
  rw [FileTree.walk_eq_resolve found, File.components_normalize]
  rfl

theorem touched_confined {tree : FileTree} {root : DocumentId} {request : Request} {path : Path}
    (stays : request.StaysInside root) (acts : touched tree root request = some path) :
    normalise root.path <+: path := by
  obtain ⟨isChild, acts⟩ := Option.ite_none_right_eq_some.mp acts
  have confined := (childConfined_iff_staysUnder root request.document).mpr stays.1 isChild
  cases request with
  | openDocument documentId => exact getFileForDocId_eq_normalise acts ▸ confined
  | deleteDocument documentId => exact getFileForDocId_eq_normalise acts ▸ confined
  | createDocument parentDocumentId isDirectory displayName =>
    obtain ⟨⟨newPath, after⟩, created, rfl⟩ := Option.map_eq_some_iff.mp acts
    obtain ⟨name, isChild⟩ := createsChild_of_namesInParent stays.2 tree isDirectory newPath after
      created
    exact isChild ▸ confined.trans (List.prefix_append _ _)

/-- The check of a child is right exactly for the ids that stay under their parent, a created
document is a direct child exactly for the names that stay in it, and a client that keeps to
both never touches a path outside the tree it was granted. -/
theorem provider_confined (parent document : DocumentId) (displayName : Text) :
    (ChildConfined parent document ↔ StaysUnder parent document) ∧
      (CreatesChild parent displayName ↔ NamesInParent parent displayName) ∧
      ∀ tree request path, Request.StaysInside parent request →
        touched tree parent request = some path → normalise parent.path <+: path :=
  ⟨childConfined_iff_staysUnder parent document,
    ⟨namesInParent_of_createsChild, createsChild_of_namesInParent⟩,
    fun _ _ _ => touched_confined⟩

def containers : DocumentId := ⟨"/files/containers".toList, by decide⟩

/-- The containers directory, with nothing in it. -/
def emptyContainers : FileTree := .ofPassed ["files".toList, "containers".toList]

/-- A client that was granted the containers directory creates a note in it. -/
theorem provider_confined_note :
    Request.StaysInside containers (.createDocument containers false "note".toList) ∧
      touched emptyContainers containers (.createDocument containers false "note".toList) =
        some ["files".toList, "containers".toList, "note".toList] ∧
      normalise containers.path <+: ["files".toList, "containers".toList, "note".toList] := by
  have stays : Request.StaysInside containers (.createDocument containers false "note".toList) :=
    ⟨fun _ => by decide +kernel, by decide +kernel,
      fun empty => absurd empty (by decide +kernel)⟩
  have acts : touched emptyContainers containers
      (.createDocument containers false "note".toList) =
        some ["files".toList, "containers".toList, "note".toList] := by
    decide +kernel
  exact ⟨stays, acts, (provider_confined containers containers "note".toList).2.2 emptyContainers
    _ _ stays acts⟩

def sibling : DocumentId := ⟨"/files/containers.old/key".toList, by decide⟩

/-- A sibling of the granted directory whose name extends it passes the check, and a display name
with a separator creates a document next to the granted directory. -/
theorem provider_not_confined :
    ¬ChildConfined containers sibling ∧ ¬CreatesChild containers "../key".toList := by
  refine ⟨fun confined => ?_, fun creates => ?_⟩
  · exact absurd (confined (by decide +kernel)) (by decide +kernel)
  · exact absurd (namesInParent_of_createsChild creates).1 (by decide +kernel)

end TermPlux.DocumentsProvider
