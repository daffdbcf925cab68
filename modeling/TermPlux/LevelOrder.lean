/-
This file is the library for worklists that are consumed from the front and grow
at the end. Such a worklist visits its items level by level: the items it starts
with, what they expand to, and so on. A search over it that stops once it has
enough rows therefore is a scan of the items in level order.

Where the levels run out the search ends, and its rows are the first rows of the
items in level order, unless an item that fails comes before there are enough.
-/

import Mathlib.Data.List.Nodup
import Mathlib.Logic.Function.Iterate
import Mathlib.Logic.Relation

namespace TermPlux.LevelOrder

variable {Item Row Failure : Type}

/-! ### The items in level order -/

section Levels

variable (expand : Item → List Item)

/-- The level after a level. -/
def nextLevel (level : List Item) : List Item := level.flatMap expand

/-- The items of a number of levels. -/
def levelOrder : Nat → List Item → List Item
  | 0, _ => []
  | depth + 1, level => level ++ levelOrder depth (nextLevel expand level)

/-- The levels run out. -/
def Ends (depth : Nat) (level : List Item) : Prop := (nextLevel expand)^[depth] level = []

end Levels

variable {expand : Item → List Item}

theorem nextLevel_cons (item : Item) (level : List Item) :
    nextLevel expand (item :: level) = expand item ++ nextLevel expand level :=
  List.flatMap_cons

/-- Where a rank falls from each item to what it expands to, the levels run out. -/
theorem ends_of_rank (rank : Item → Nat) (holds : Item → Prop)
    (falls : ∀ item, holds item → ∀ next ∈ expand item,
      holds next ∧ rank next < rank item) (depth : Nat) :
    ∀ level : List Item, (∀ item ∈ level, holds item ∧ rank item < depth) →
      Ends expand depth level := by
  induction depth with
  | zero =>
    intro level low
    exact List.eq_nil_iff_forall_not_mem.mpr fun item member =>
      absurd (low item member).2 (Nat.not_lt_zero _)
  | succ depth inductionHypothesis =>
    intro level low
    refine inductionHypothesis _ fun next member => ?_
    obtain ⟨item, here, expands⟩ := List.mem_flatMap.mp member
    obtain ⟨held, lower⟩ := falls item (low item here).1 next expands
    exact ⟨held, by have := (low item here).2; omega⟩

/-- The levels hold what the items of the first one expand to, again and again. -/
theorem mem_levelOrder {depth : Nat} :
    ∀ {level : List Item}, Ends expand depth level → ∀ {item : Item},
      (item ∈ levelOrder expand depth level ↔
        ∃ first ∈ level,
          Relation.ReflTransGen (fun item next => next ∈ expand item) first item) := by
  induction depth with
  | zero =>
    intro level ends item
    rw [show level = [] from ends]
    exact iff_of_false List.not_mem_nil fun ⟨_, member, _⟩ => List.not_mem_nil member
  | succ depth inductionHypothesis =>
    intro level ends item
    have next : Ends expand depth (nextLevel expand level) := ends
    show item ∈ level ++ levelOrder expand depth (nextLevel expand level) ↔ _
    rw [List.mem_append, inductionHypothesis next]
    constructor
    · rintro (here | ⟨second, member, reaches⟩)
      · exact ⟨item, here, .refl⟩
      · obtain ⟨first, here, expands⟩ := List.mem_flatMap.mp member
        exact ⟨first, here, .head expands reaches⟩
    · rintro ⟨first, here, reaches⟩
      rcases Relation.ReflTransGen.cases_head reaches with rfl | ⟨second, expands, reaches⟩
      · exact .inl here
      · exact .inr ⟨second, List.mem_flatMap.mpr ⟨first, here, expands⟩, reaches⟩

/-! ### Which item comes earlier -/

section Order

variable (expand : Item → List Item) (height : Item → Nat)

/-- Every item has one parent, is one step further than it, and comes from it once. -/
structure Forest : Prop where
  further : ∀ item, ∀ next ∈ expand item, height next = height item + 1
  parent : ∀ first second next, next ∈ expand first → next ∈ expand second → first = second
  each : ∀ item, (expand item).Nodup

/-- An item comes earlier than another one if it is higher, if one item expands to it first, or if
its parent comes earlier than that of the other one. -/
inductive Earlier : Item → Item → Prop
  | higher {first second : Item} (less : height first < height second) : Earlier first second
  | sibling {parent first second : Item} (order : [first, second].Sublist (expand parent)) :
      Earlier first second
  | cousin {first second next other : Item} (level : height first = height second)
      (earlier : Earlier first second) (inFirst : next ∈ expand first)
      (inSecond : other ∈ expand second) : Earlier next other

end Order

variable {height : Item → Nat}

theorem Earlier.height_le (forest : Forest expand height) {first second : Item}
    (earlier : Earlier expand height first second) : height first ≤ height second := by
  cases earlier with
  | higher less => exact Nat.le_of_lt less
  | sibling order =>
    have first := forest.further _ first (order.subset (by simp))
    have second := forest.further _ second (order.subset (by simp))
    omega
  | cousin level _ inFirst inSecond =>
    have first := forest.further _ _ inFirst
    have second := forest.further _ _ inSecond
    omega

/-- Within a level the earlier item has the same parent or an earlier one. -/
theorem Earlier.parents {first second : Item} (level : height first = height second)
    (earlier : Earlier expand height first second) :
    ∃ parent other, first ∈ expand parent ∧ second ∈ expand other ∧
      (parent = other ∧ [first, second].Sublist (expand parent) ∨
        height parent = height other ∧ Earlier expand height parent other) := by
  cases earlier with
  | higher less => exact absurd level (Nat.ne_of_lt less)
  | @sibling parent _ _ order =>
    exact ⟨parent, parent, order.subset (by simp), order.subset (by simp), .inl ⟨rfl, order⟩⟩
  | @cousin parent other _ _ same earlier inFirst inSecond =>
    exact ⟨parent, other, inFirst, inSecond, .inr ⟨same, earlier⟩⟩

theorem not_sublist_swap {items : List Item} (distinct : items.Nodup) {first second : Item}
    (order : [first, second].Sublist items) : ¬ [second, first].Sublist items := by
  induction items with
  | nil => cases order
  | cons item items inductionHypothesis =>
    obtain ⟨fresh, distinct⟩ := List.nodup_cons.mp distinct
    intro swapped
    cases order with
    | cons _ order =>
      cases swapped with
      | cons _ swapped => exact inductionHypothesis distinct order swapped
      | cons_cons _ _ => exact fresh (order.subset (by simp))
    | cons_cons _ order =>
      cases swapped with
      | cons _ swapped => exact fresh (swapped.subset (by simp))
      | cons_cons _ _ => exact fresh (order.subset (by simp))

/-- Of two items at most one comes earlier than the other. -/
theorem Earlier.asymm (forest : Forest expand height) {first second : Item}
    (earlier : Earlier expand height first second) : ¬ Earlier expand height second first := by
  intro later
  have level := Nat.le_antisymm (earlier.height_le forest) (later.height_le forest)
  induction size : height first using Nat.strongRecOn generalizing first second with
  | _ bound inductionHypothesis =>
    obtain ⟨parent, other, inParent, inOther, order⟩ := earlier.parents level
    obtain ⟨otherAgain, parentAgain, isOther, isParent, swapped⟩ :=
      later.parents level.symm
    have lower : height parent < bound := by
      have := forest.further parent first inParent
      omega
    cases forest.parent _ _ _ isParent inParent
    cases forest.parent _ _ _ isOther inOther
    rcases order with ⟨rfl, order⟩ | ⟨same, above⟩
    · rcases swapped with ⟨-, swapped⟩ | ⟨-, above⟩
      · exact not_sublist_swap (forest.each _) order swapped
      · exact inductionHypothesis _ lower above above rfl rfl
    · rcases swapped with ⟨rfl, -⟩ | ⟨-, below⟩
      · exact inductionHypothesis _ lower above above rfl rfl
      · exact inductionHypothesis _ lower above below same rfl

/-- The items in level order come one after the other. -/
theorem pairwise_levelOrder (forest : Forest expand height) (depth : Nat) :
    ∀ (level : List Item) (size : Nat), level.Pairwise (Earlier expand height) →
      (∀ item ∈ level, height item = size) →
      (levelOrder expand depth level).Pairwise (Earlier expand height) ∧
        ∀ item ∈ levelOrder expand depth level, size ≤ height item := by
  induction depth with
  | zero => exact fun _ _ _ _ => ⟨.nil, fun _ member => absurd member List.not_mem_nil⟩
  | succ depth inductionHypothesis =>
    intro level size ordered same
    have nextSize : ∀ item ∈ nextLevel expand level, height item = size + 1 := by
      intro item member
      obtain ⟨before, here, expands⟩ := List.mem_flatMap.mp member
      rw [forest.further before item expands, same before here]
    have nextOrdered : (nextLevel expand level).Pairwise (Earlier expand height) := by
      refine List.pairwise_flatMap.mpr
        ⟨fun item _ => List.pairwise_of_forall_sublist .sibling, ordered.imp_of_mem ?_⟩
      intro first second here there earlier next inFirst other inSecond
      exact .cousin ((same first here).trans (same second there).symm) earlier inFirst inSecond
    obtain ⟨others, lower⟩ := inductionHypothesis _ (size + 1) nextOrdered nextSize
    constructor
    · refine List.pairwise_append.mpr ⟨ordered, others, fun item here next later => .higher ?_⟩
      rw [same item here]
      exact lower next later
    · intro item member
      rcases List.mem_append.mp member with here | later
      · exact Nat.le_of_eq (same item here).symm
      · exact Nat.le_of_succ_le (lower item later)

/-- Enough items of a kind come earlier than an item. -/
def EnoughEarlier (expand : Item → List Item) (height : Item → Nat) (kind : Item → Prop)
    (limit : Nat) (item : Item) : Prop :=
  ∃ found : List Item, found.Nodup ∧ limit ≤ found.length ∧
    ∀ other ∈ found, kind other ∧ Earlier expand height other item

section Ordered

variable {items : List Item} (forest : Forest expand height)
  (ordered : items.Pairwise (Earlier expand height))

include forest ordered

theorem nodup_of_ordered : items.Nodup :=
  ordered.imp fun {first second} earlier same => by
    subst same
    exact earlier.asymm forest earlier

/-- What stands before an item in a list in order is what comes earlier. -/
theorem mem_before_iff {before after : List Item} {item other : Item}
    (whole : items = before ++ item :: after) :
    other ∈ before ↔ other ∈ items ∧ Earlier expand height other item := by
  subst whole
  obtain ⟨-, rest, across⟩ := List.pairwise_append.mp ordered
  constructor
  · exact fun here => ⟨List.mem_append_left _ here, across other here item List.mem_cons_self⟩
  · rintro ⟨member, earlier⟩
    rcases List.mem_append.mp member with here | there
    · exact here
    · rcases List.mem_cons.mp there with rfl | later
      · exact absurd earlier (earlier.asymm forest)
      · exact absurd ((List.pairwise_cons.mp rest).1 other later) (earlier.asymm forest)

theorem enoughEarlier_iff (kind : Item → Bool) (limit : Nat) {before after : List Item}
    {item : Item} (whole : items = before ++ item :: after) :
    EnoughEarlier expand height (fun other => other ∈ items ∧ kind other = true) limit item ↔
      limit ≤ (before.filter kind).length := by
  have within {other : Item} : other ∈ before.filter kind ↔
      (other ∈ items ∧ kind other = true) ∧ Earlier expand height other item := by
    rw [List.mem_filter, mem_before_iff forest ordered whole, and_right_comm]
  constructor
  · rintro ⟨found, distinct, enough, each⟩
    exact Nat.le_trans enough
      (distinct.length_le_of_subset fun other member => within.mpr (each other member))
  · intro enough
    have distinct := nodup_of_ordered forest ordered
    rw [whole] at distinct
    exact ⟨before.filter kind, (List.nodup_append.mp distinct).1.filter _, enough,
      fun other member => within.mp member⟩

end Ordered

/-- The first items of a kind are those that have few of the kind before them. -/
theorem mem_take_filter {kind : Item → Bool} {items : List Item} {item : Item} :
    ∀ {limit : Nat}, item ∈ (items.filter kind).take limit ↔
      ∃ before after, items = before ++ item :: after ∧ kind item = true ∧
        (before.filter kind).length < limit := by
  induction items with
  | nil => simp
  | cons first items inductionHypothesis =>
    intro limit
    cases holds : kind first with
    | true =>
      rw [List.filter_cons_of_pos holds]
      cases limit with
      | zero => simp
      | succ limit =>
        rw [List.take_succ_cons, List.mem_cons, inductionHypothesis]
        constructor
        · rintro (rfl | ⟨before, after, rfl, good, few⟩)
          · exact ⟨[], items, rfl, holds, Nat.succ_pos _⟩
          · refine ⟨first :: before, after, rfl, good, ?_⟩
            rw [List.filter_cons_of_pos holds, List.length_cons]
            exact Nat.succ_lt_succ few
        · rintro ⟨before, after, whole, good, few⟩
          cases before with
          | nil => exact .inl (List.cons.inj whole).1.symm
          | cons head before =>
            obtain ⟨rfl, rest⟩ := List.cons.inj whole
            rw [List.filter_cons_of_pos holds, List.length_cons] at few
            exact .inr ⟨before, after, rest, good, Nat.lt_of_succ_lt_succ few⟩
    | false =>
      have skipped : ¬ kind first = true := Bool.eq_false_iff.mp holds
      rw [List.filter_cons_of_neg skipped, inductionHypothesis]
      constructor
      · rintro ⟨before, after, rfl, good, few⟩
        refine ⟨first :: before, after, rfl, good, ?_⟩
        rwa [List.filter_cons_of_neg skipped]
      · rintro ⟨before, after, whole, good, few⟩
        cases before with
        | nil => exact absurd ((List.cons.inj whole).1 ▸ good) skipped
        | cons head before =>
          obtain ⟨rfl, rest⟩ := List.cons.inj whole
          rw [List.filter_cons_of_neg skipped] at few
          exact ⟨before, after, rest, good, few⟩

/-! ### The search -/

/-- What the visit of an item does: it fails, or it expands to items and yields rows. -/
abbrev Visit (Item Row Failure : Type) := Item → Except Failure (List Item × List Row)

section Search

variable (limit : Nat) (visit : Visit Item Row Failure)

/-- The loop over the pending items, for a number of rounds. -/
def search : Nat → List Item → List Row → Option (Except Failure (List Row))
  | 0, _, _ => none
  | _ + 1, [], rows => some (.ok rows)
  | rounds + 1, item :: pending, rows =>
    if rows.length < limit then
      match visit item with
      | .error failure => some (.error failure)
      | .ok (items, more) => search rounds (pending ++ items) (rows ++ more)
    else some (.ok rows)

/-- The same over items that are given in advance. -/
def scan : List Item → List Row → Except Failure (List Row)
  | [], rows => .ok rows
  | item :: rest, rows =>
    if rows.length < limit then
      match visit item with
      | .error failure => .error failure
      | .ok (_, more) => scan rest (rows ++ more)
    else .ok rows

def expansion (item : Item) : List Item :=
  match visit item with
  | .ok (items, _) => items
  | .error _ => []

def rowsOf (item : Item) : List Row :=
  match visit item with
  | .ok (_, rows) => rows
  | .error _ => []

def Fails (item : Item) : Prop := ∃ failure, visit item = .error failure

/-- Before each item that fails there are enough rows, with the number of those taken already. -/
def Avoids (taken : Nat) (items : List Item) : Prop :=
  ∀ before item after, items = before ++ item :: after → Fails visit item →
    limit ≤ taken + (before.flatMap (rowsOf visit)).length

end Search

variable {limit : Nat} {visit : Visit Item Row Failure}

/-- More rounds change nothing. -/
theorem search_mono {rounds more : Nat} (enough : rounds ≤ more) :
    ∀ {pending : List Item} {rows : List Row} {outcome : Except Failure (List Row)},
      search limit visit rounds pending rows = some outcome →
      search limit visit more pending rows = some outcome := by
  induction rounds generalizing more with
  | zero => exact fun found => by cases found
  | succ rounds inductionHypothesis =>
    intro pending rows outcome found
    obtain ⟨more, rfl⟩ : ∃ fewer, more = fewer + 1 := ⟨more - 1, by omega⟩
    cases pending with
    | nil => exact found
    | cons item pending =>
      unfold search at found ⊢
      split
      · next room =>
        rw [if_pos room] at found
        split
        · next failed =>
          rw [failed] at found
          exact found
        · next visited =>
          rw [visited] at found
          exact inductionHypothesis (Nat.le_of_succ_le_succ enough) found
      · next full => rwa [if_neg full] at found

theorem search_unique {first second : Nat} {pending : List Item} {rows : List Row}
    {outcome other : Except Failure (List Row)}
    (found : search limit visit first pending rows = some outcome)
    (again : search limit visit second pending rows = some other) : outcome = other := by
  have one := search_mono (Nat.le_max_left first second) found
  have two := search_mono (Nat.le_max_right first second) again
  exact Option.some.inj (one.symm.trans two)

/-! ### The search is a scan -/

/-- One round of the loop is one step of the scan. -/
theorem search_cons {item : Item} {pending rest : List Item} {rows : List Row} {rounds : Nat}
    (goesOn : ∀ items more, visit item = .ok (items, more) →
      search limit visit rounds (pending ++ items) (rows ++ more) =
        some (scan limit visit rest (rows ++ more))) :
    search limit visit (rounds + 1) (item :: pending) rows =
      some (scan limit visit (item :: rest) rows) := by
  unfold search scan
  split
  · cases visited : visit item with
    | error failure => rfl
    | ok result => exact goesOn result.1 result.2 visited
  · rfl

/-- With the rest of a level pending before what is known of the next one, the search scans both,
and the levels after them. -/
def Scans (limit : Nat) (visit : Visit Item Row Failure) (depth : Nat) (front : List Item) :
    Prop :=
  ∀ (back : List Item) (rows : List Row) (rounds : Nat),
    Ends (expansion visit) depth (back ++ nextLevel (expansion visit) front) →
    (front ++ levelOrder (expansion visit) depth
      (back ++ nextLevel (expansion visit) front)).length < rounds →
    search limit visit rounds (front ++ back) rows =
      some (scan limit visit
        (front ++ levelOrder (expansion visit) depth
          (back ++ nextLevel (expansion visit) front)) rows)

theorem Scans.cons {depth : Nat} {front : List Item} (scans : Scans limit visit depth front)
    (item : Item) : Scans limit visit depth (item :: front) := by
  intro back rows rounds ends enough
  obtain ⟨rounds, rfl⟩ := Nat.exists_eq_succ_of_ne_zero (Nat.ne_of_gt (Nat.zero_lt_of_lt enough))
  refine search_cons fun items more visited => ?_
  have expands : expansion visit item = items := by
    unfold expansion
    rw [visited]
  rw [nextLevel_cons, expands, ← List.append_assoc] at ends enough
  have scanned := scans (back ++ items) (rows ++ more) rounds ends (Nat.lt_of_succ_lt_succ enough)
  rw [nextLevel_cons, expands]
  show search limit visit rounds (front ++ back ++ items) (rows ++ more) = _
  rw [List.append_assoc, scanned, List.append_assoc]
  rfl

theorem Scans.of_nil {depth : Nat} (scans : Scans limit visit depth []) (front : List Item) :
    Scans limit visit depth front := by
  induction front with
  | nil => exact scans
  | cons item front inductionHypothesis => exact inductionHypothesis.cons item

/-- Where the next level begins, there is one level less to go. -/
theorem scans_nil (depth : Nat) : Scans limit visit depth [] := by
  induction depth with
  | zero =>
    intro back rows rounds ends enough
    have nothing : back = [] := by simpa [Ends, nextLevel] using ends
    obtain ⟨rounds, rfl⟩ := Nat.exists_eq_succ_of_ne_zero (Nat.ne_of_gt (Nat.zero_lt_of_lt enough))
    rw [nothing]
    rfl
  | succ depth inductionHypothesis =>
    intro back rows rounds ends enough
    have same : back ++ nextLevel (expansion visit) [] = back := List.append_nil back
    rw [same] at ends enough ⊢
    have scanned := inductionHypothesis.of_nil back [] rows rounds ends enough
    rw [List.append_nil] at scanned
    exact scanned

/-- Where the levels run out, the search ends: it scans the items in level order. -/
theorem search_eq_scan {depth : Nat} {level : List Item} (ends : Ends (expansion visit) depth level)
    {rounds : Nat} (enough : (levelOrder (expansion visit) depth level).length < rounds) :
    search limit visit rounds level [] =
      some (scan limit visit (levelOrder (expansion visit) depth level) []) := by
  have same : level ++ nextLevel (expansion visit) [] = level := List.append_nil level
  have scanned := @scans_nil _ _ _ limit visit depth level [] rounds
  rw [same] at scanned
  exact scanned ends enough

/-! ### What a scan finds -/

theorem avoids_cons {taken : Nat} {item : Item} {rest : List Item} :
    Avoids limit visit taken (item :: rest) ↔
      (Fails visit item → limit ≤ taken) ∧
        Avoids limit visit (taken + (rowsOf visit item).length) rest := by
  constructor
  · intro avoids
    refine ⟨avoids [] item rest rfl, fun before other after same fails => ?_⟩
    have later := avoids (item :: before) other after (by rw [same]; rfl) fails
    rwa [List.flatMap_cons, List.length_append, ← Nat.add_assoc] at later
  · rintro ⟨first, avoids⟩ before other after same fails
    cases before with
    | nil =>
      obtain ⟨rfl, -⟩ := List.cons.inj same
      exact first fails
    | cons head before =>
      obtain ⟨rfl, rest⟩ := List.cons.inj same
      rw [List.flatMap_cons, List.length_append, ← Nat.add_assoc]
      exact avoids before other after rest fails

theorem avoids_of_enough {taken : Nat} (enough : limit ≤ taken) (items : List Item) :
    Avoids limit visit taken items :=
  fun _ _ _ _ _ => Nat.le_add_right_of_le enough

/-- A scan that fails nowhere before it has enough rows finds the first rows. -/
theorem scan_of_avoids (single : ∀ item, (rowsOf visit item).length ≤ 1) :
    ∀ (items : List Item) (rows : List Row), rows.length ≤ limit →
      Avoids limit visit rows.length items →
      scan limit visit items rows =
        .ok ((rows ++ items.flatMap (rowsOf visit)).take limit) := by
  intro items
  induction items with
  | nil =>
    intro rows few _
    rw [List.flatMap_nil, List.append_nil, List.take_of_length_le few]
    rfl
  | cons item rest inductionHypothesis =>
    intro rows few avoids
    obtain ⟨first, later⟩ := avoids_cons.mp avoids
    unfold scan
    split
    · next room =>
      split
      · next failure failed => exact absurd (first ⟨failure, failed⟩) (Nat.not_le.mpr room)
      · next items more visited =>
        have yields : rowsOf visit item = more := by
          unfold rowsOf
          rw [visited]
        have one := single item
        rw [yields] at one later
        rw [inductionHypothesis (rows ++ more) (by rw [List.length_append]; omega)
          (by rwa [List.length_append]), List.flatMap_cons, yields, List.append_assoc]
    · next full =>
      have exactly : rows.length = limit := by omega
      rw [← exactly, List.take_left]

/-- And only such a scan ends without a failure. -/
theorem avoids_of_scan :
    ∀ (items : List Item) (rows result : List Row),
      scan limit visit items rows = .ok result → Avoids limit visit rows.length items := by
  intro items
  induction items with
  | nil =>
    intro rows result _ before item after same
    exact absurd same.symm (List.append_ne_nil_of_right_ne_nil _ (List.cons_ne_nil _ _))
  | cons item rest inductionHypothesis =>
    intro rows result scanned
    unfold scan at scanned
    split at scanned
    · split at scanned
      · cases scanned
      · next items more visited =>
        have yields : rowsOf visit item = more := by
          unfold rowsOf
          rw [visited]
        have later := inductionHypothesis (rows ++ more) result scanned
        rw [List.length_append] at later
        refine avoids_cons.mpr ⟨?_, yields ▸ later⟩
        rintro ⟨failure, failed⟩
        cases visited.symm.trans failed
    · next full => exact avoids_of_enough (Nat.not_lt.mp full) _

end TermPlux.LevelOrder
