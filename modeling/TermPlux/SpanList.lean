/-
This file is a library for sets that are kept as sorted lists of spans, where below
each span there is again such a set. Two sets are joined, intersected and subtracted
in one pass over both lists: the spans of the first one are split where a span of
the second one begins or ends, the sets below are combined, and neighbours with the
same set below are merged.

Splitting and merging keep the order of the spans and the points of the set.
-/

import Mathlib.Algebra.Order.Group.Int
import Mathlib.Data.List.Basic
import Mathlib.Tactic.Common

namespace TermPlux

/-- The coordinates from `start` to `stop`, and what is below them. -/
structure Span (Sub : Type) where
  start : Int
  stop : Int
  subspan : Sub
  deriving DecidableEq

/-- What is below a span. The intersection and the difference say whether anything is left. -/
class Subspan (Sub : Type) where
  or : Sub → Sub → Sub
  and : Sub → Sub → Sub × Bool
  subtract : Sub → Sub → Sub × Bool

/-- What is below a span is a set of points, which is not empty where it is proper. -/
class LawfulSubspan (Sub : Type) [Subspan Sub] (Point : outParam Type) where
  Holds : Sub → Point → Prop
  Proper : Sub → Prop
  some : ∀ {sub}, Proper sub → ∃ point, Holds sub point
  proper_or : ∀ {dest src}, Proper dest → Proper src → Proper (Subspan.or dest src)
  holds_or : ∀ {dest src} (point : Point), Proper dest → Proper src →
    (Holds (Subspan.or dest src) point ↔ Holds dest point ∨ Holds src point)
  proper_and : ∀ {dest src}, Proper dest → Proper src → (Subspan.and dest src).2 = true →
    Proper (Subspan.and dest src).1
  holds_and : ∀ {dest src} (point : Point), Proper dest → Proper src →
    ((Subspan.and dest src).2 = true ∧ Holds (Subspan.and dest src).1 point ↔
      Holds dest point ∧ Holds src point)
  proper_subtract : ∀ {dest src}, Proper dest → Proper src → (Subspan.subtract dest src).2 = true →
    Proper (Subspan.subtract dest src).1
  holds_subtract : ∀ {dest src} (point : Point), Proper dest → Proper src →
    ((Subspan.subtract dest src).2 = true ∧ Holds (Subspan.subtract dest src).1 point ↔
      Holds dest point ∧ ¬Holds src point)

namespace SpanList

variable {Sub : Type}

/-! ### Merging neighbours -/

section Merge

variable [DecidableEq Sub]

/-- `sraSpanMergePrevious`: the spans before the current one, the nearest first. -/
def mergePrevious : List (Span Sub) → Span Sub → List (Span Sub) × Span Sub
  | [], dest => ([], dest)
  | prev :: before, dest =>
    if prev.stop = dest.start ∧ prev.subspan = dest.subspan then
      mergePrevious before { dest with start := prev.start }
    else (prev :: before, dest)

/-- `sraSpanMergeNext`. -/
def mergeNext : Span Sub → List (Span Sub) → Span Sub × List (Span Sub)
  | dest, [] => (dest, [])
  | dest, next :: after =>
    if next.start = dest.stop ∧ next.subspan = dest.subspan then
      mergeNext { dest with stop := next.stop } after
    else (dest, next :: after)

end Merge

/-! ### The passes -/

/-- A place in a list: the spans before the current one, the nearest first, the current one, and
those after it. -/
structure Place (Sub : Type) where
  before : List (Span Sub)
  current : Span Sub
  after : List (Span Sub)

namespace Place

/-- `sraSpanInsertBefore`. -/
def insertBefore (place : Place Sub) (span : Span Sub) : Place Sub :=
  { place with before := span :: place.before }

/-- The part of the current span before `start` stays behind. -/
def splitBefore (place : Place Sub) (start : Int) : Place Sub :=
  if start > place.current.start then
    { before := ⟨place.current.start, start, place.current.subspan⟩ :: place.before
      current := { place.current with start }
      after := place.after }
  else place

/-- The part of the current span from `stop` on comes next. -/
def splitAfter (place : Place Sub) (stop : Int) : Place Sub :=
  if stop < place.current.stop then
    { before := place.before
      current := { place.current with stop }
      after := ⟨stop, place.current.stop, place.current.subspan⟩ :: place.after }
  else place

/-- The part of the current span before `start` is removed. -/
def cutBefore (place : Place Sub) (start : Int) : Place Sub :=
  if start > place.current.start then { place with current := { place.current with start } }
  else place

def setSubspan (place : Place Sub) (subspan : Sub) : Place Sub :=
  { place with current := { place.current with subspan } }

section Merge

variable [DecidableEq Sub]

def mergePrevious (place : Place Sub) : Place Sub :=
  let (before, current) := SpanList.mergePrevious place.before place.current
  { place with before, current }

def mergeNext (place : Place Sub) : Place Sub :=
  let (current, after) := SpanList.mergeNext place.current place.after
  { place with current, after }

end Merge

end Place

/-- How far a pass has come: the spans of the first list before the current one, the nearest first,
the current one and those after it, and the rest of the second list. -/
structure Pass (Sub : Type) where
  before : List (Span Sub)
  rest : List (Span Sub)
  src : List (Span Sub)

/-- The first list, as it is now. -/
def Pass.dest (pass : Pass Sub) : List (Span Sub) := pass.before.reverse ++ pass.rest

/-- The pass stays where it is in the first list. -/
def Place.stay (place : Place Sub) (src : List (Span Sub)) : Pass Sub :=
  ⟨place.before, place.current :: place.after, src⟩

/-- The pass moves on to the next span of the first list. -/
def Place.next (place : Place Sub) (src : List (Span Sub)) : Pass Sub :=
  ⟨place.current :: place.before, place.after, src⟩

/-- The current span is removed. -/
def Place.remove (place : Place Sub) (src : List (Span Sub)) : Pass Sub :=
  ⟨place.before, place.after, src⟩

section Passes

variable [DecidableEq Sub] [Subspan Sub]

/-- The span of the second list overlaps the current one. -/
def orOverlap (place : Place Sub) (span : Span Sub) (src : List (Span Sub)) : Pass Sub :=
  let place :=
    if span.start < place.current.start then
      (place.insertBefore ⟨span.start, place.current.start, span.subspan⟩).mergePrevious
    else place
  let place := (place.splitAfter span.stop).splitBefore span.start
  let place := place.setSubspan (Subspan.or place.current.subspan span.subspan)
  let place := place.mergePrevious.mergeNext
  if span.stop > place.current.stop then place.next ({ span with start := place.current.stop } :: src)
  else place.stay src

/-- One round of the union. -/
def orStep (before rest : List (Span Sub)) (span : Span Sub) (src : List (Span Sub)) : Pass Sub :=
  match rest with
  | [] => ⟨span :: before, [], src⟩
  | current :: after =>
    let place : Place Sub := ⟨before, current, after⟩
    if current.start ≥ span.stop then (place.insertBefore span).mergePrevious.stay src
    else if span.start < current.stop ∧ span.stop > current.start then orOverlap place span src
    else place.next (span :: src)

def orLoop : Nat → Pass Sub → List (Span Sub)
  | 0, pass => pass.dest
  | rounds + 1, pass =>
    match pass.src with
    | [] => pass.dest
    | span :: src => orLoop rounds (orStep pass.before pass.rest span src)

/-- `sraSpanListOr`. -/
def sraSpanListOr (dest src : List (Span Sub)) : List (Span Sub) :=
  orLoop (2 * src.length + dest.length) ⟨[], dest, src⟩

/-- The span of the second list overlaps the current one. -/
def andOverlap (place : Place Sub) (span : Span Sub) (src : List (Span Sub)) : Pass Sub :=
  let place := (place.cutBefore span.start).splitAfter span.stop
  let (subspan, left) := Subspan.and place.current.subspan span.subspan
  if left then
    let place := (place.setSubspan subspan).mergePrevious
    let src := if span.stop ≤ place.current.stop then src else span :: src
    if span.stop ≥ place.current.stop then place.next src else place.stay src
  else place.remove (span :: src)

/-- One round of the intersection. -/
def andStep (place : Place Sub) (span : Span Sub) (src : List (Span Sub)) : Pass Sub :=
  if place.current.start ≥ span.stop then place.stay src
  else if place.current.stop ≤ span.start then place.remove (span :: src)
  else andOverlap place span src

/-- What is left of the first list behind the second one is removed. -/
def andLoop : Nat → Pass Sub → List (Span Sub)
  | 0, pass => pass.before.reverse
  | rounds + 1, pass =>
    match pass.rest, pass.src with
    | current :: after, span :: src => andLoop rounds (andStep ⟨pass.before, current, after⟩ span src)
    | _, _ => pass.before.reverse

/-- How many rounds a pass needs that skips spans of either list. -/
def rounds (rest src : List (Span Sub)) : Nat :=
  2 * (2 * src.length + rest.length) +
    match rest, src with
    | current :: _, span :: _ => if current.start ≥ span.stop then 0 else 1
    | _, _ => 0

/-- `sraSpanListAnd`, which says whether the list is not empty. -/
def sraSpanListAnd (dest src : List (Span Sub)) : List (Span Sub) × Bool :=
  let dest := andLoop (rounds dest src) ⟨[], dest, src⟩
  (dest, !dest.isEmpty)

/-- The span of the second list overlaps the current one. -/
def subtractOverlap (place : Place Sub) (span : Span Sub) (src : List (Span Sub)) : Pass Sub :=
  let place := (place.splitBefore span.start).splitAfter span.stop
  let (subspan, left) := Subspan.subtract place.current.subspan span.subspan
  if left then
    let place := (place.setSubspan subspan).mergePrevious.mergeNext
    if span.stop > place.current.stop then place.next (span :: src) else place.stay src
  else place.remove (span :: src)

/-- One round of the difference. -/
def subtractStep (place : Place Sub) (span : Span Sub) (src : List (Span Sub)) : Pass Sub :=
  if place.current.start ≥ span.stop then place.stay src
  else if place.current.stop ≤ span.start then place.next (span :: src)
  else subtractOverlap place span src

def subtractLoop : Nat → Pass Sub → List (Span Sub)
  | 0, pass => pass.dest
  | rounds + 1, pass =>
    match pass.rest, pass.src with
    | current :: after, span :: src =>
      subtractLoop rounds (subtractStep ⟨pass.before, current, after⟩ span src)
    | _, _ => pass.dest

/-- `sraSpanListSubtract`, which says whether the list is not empty. -/
def sraSpanListSubtract (dest src : List (Span Sub)) : List (Span Sub) × Bool :=
  let dest := subtractLoop (rounds dest src) ⟨[], dest, src⟩
  (dest, !dest.isEmpty)

end Passes

/-! ### Points and order -/

section Points

variable [Subspan Sub] {Point : Type} [LawfulSubspan Sub Point]

/-- The span contains a point below a coordinate. -/
def Covers (span : Span Sub) (coordinate : Int) (point : Point) : Prop :=
  (span.start ≤ coordinate ∧ coordinate < span.stop) ∧ LawfulSubspan.Holds span.subspan point

/-- One of the spans contains the point. -/
def Holds (spans : List (Span Sub)) (coordinate : Int) (point : Point) : Prop :=
  ∃ span ∈ spans, Covers span coordinate point

/-- The span is not empty. -/
def Fine (span : Span Sub) : Prop := span.start < span.stop ∧ LawfulSubspan.Proper span.subspan

/-- The spans are in order, from `low` on. -/
def Above : Int → List (Span Sub) → Prop
  | _, [] => True
  | low, span :: spans => (low ≤ span.start ∧ Fine span) ∧ Above span.stop spans

/-- The spans are in reverse order, up to `high`. -/
def Below : Int → List (Span Sub) → Prop
  | _, [] => True
  | high, span :: spans => (span.stop ≤ high ∧ Fine span) ∧ Below span.start spans

variable {low high coordinate : Int} {point : Point} {span : Span Sub} {spans : List (Span Sub)}

theorem not_holds_nil : ¬Holds ([] : List (Span Sub)) coordinate point :=
  fun ⟨_, member, _⟩ => List.not_mem_nil member

theorem holds_cons : Holds (span :: spans) coordinate point ↔
    Covers span coordinate point ∨ Holds spans coordinate point :=
  List.exists_mem_cons_iff ..

theorem holds_append {others : List (Span Sub)} : Holds (spans ++ others) coordinate point ↔
    Holds spans coordinate point ∨ Holds others coordinate point := by
  simp only [Holds, List.mem_append, or_and_right, exists_or]

theorem holds_reverse : Holds spans.reverse coordinate point ↔ Holds spans coordinate point := by
  simp only [Holds, List.mem_reverse]

theorem Above.mono (above : Above high spans) (lower : low ≤ high) : Above low spans := by
  cases spans with
  | nil => trivial
  | cons span spans => exact ⟨⟨lower.trans above.1.1, above.1.2⟩, above.2⟩

theorem Below.mono (below : Below low spans) (higher : low ≤ high) : Below high spans := by
  cases spans with
  | nil => trivial
  | cons span spans => exact ⟨⟨below.1.1.trans higher, below.1.2⟩, below.2⟩

theorem Above.fine_of_mem (above : Above low spans) {span : Span Sub} (member : span ∈ spans) :
    Fine span := by
  induction spans generalizing low with
  | nil => exact absurd member List.not_mem_nil
  | cons first spans inductionHypothesis =>
    rcases List.mem_cons.mp member with rfl | member
    · exact above.1.2
    · exact inductionHypothesis above.2 member

theorem Above.le_of_mem (above : Above low spans) {span : Span Sub} (member : span ∈ spans) :
    low ≤ span.start := by
  induction spans generalizing low with
  | nil => exact absurd member List.not_mem_nil
  | cons first spans inductionHypothesis =>
    rcases List.mem_cons.mp member with rfl | member
    · exact above.1.1
    · exact (above.1.1.trans above.1.2.1.le).trans (inductionHypothesis above.2 member)

theorem Above.pairwise (above : Above low spans) :
    spans.Pairwise fun earlier later => earlier.stop ≤ later.start := by
  induction spans generalizing low with
  | nil => exact List.Pairwise.nil
  | cons first spans inductionHypothesis =>
    exact List.pairwise_cons.mpr ⟨fun _ member => above.2.le_of_mem member, inductionHypothesis above.2⟩

/-- Nothing lies in front of the spans. -/
theorem Above.le_of_holds (above : Above low spans) (holds : Holds spans coordinate point) :
    low ≤ coordinate := by
  induction spans generalizing low with
  | nil => exact absurd holds not_holds_nil
  | cons span spans inductionHypothesis =>
    obtain ⟨⟨first, some, -⟩, later⟩ := above
    rcases holds_cons.mp holds with covers | holds
    · exact first.trans covers.1.1
    · exact first.trans (some.le.trans (inductionHypothesis later holds))

/-- Nothing lies behind them where they are in reverse order. -/
theorem Below.lt_of_holds (below : Below high spans) (holds : Holds spans coordinate point) :
    coordinate < high := by
  induction spans generalizing high with
  | nil => exact absurd holds not_holds_nil
  | cons span spans inductionHypothesis =>
    obtain ⟨⟨last, some, -⟩, earlier⟩ := below
    rcases holds_cons.mp holds with covers | holds
    · exact covers.1.2.trans_le last
    · exact (inductionHypothesis earlier holds).trans (some.trans_le last)

/-- The spans before a place and those behind it are in order together. -/
theorem Above.reverse_append {others : List (Span Sub)} (below : Below high spans)
    (above : Above high others) : ∃ low, Above low (spans.reverse ++ others) := by
  induction spans generalizing high others with
  | nil => exact ⟨high, above⟩
  | cons span spans inductionHypothesis =>
    rw [List.reverse_cons, List.append_assoc]
    exact inductionHypothesis below.2 ⟨⟨le_rfl, below.1.2⟩, above.mono below.1.1⟩

end Points

/-! ### Merging and splitting keep the points -/

section Pieces

variable [DecidableEq Sub] [Subspan Sub] {Point : Type} [LawfulSubspan Sub Point]
variable {low high : Int} {before after : List (Span Sub)} {current : Span Sub}

/-- What is known when the current span was merged with those before it. -/
structure MergedPrevious (before : List (Span Sub)) (current : Span Sub) (low : Int)
    (merged : List (Span Sub) × Span Sub) : Prop where
  below : Below (min low merged.2.start) merged.1
  start : merged.2.start ≤ current.start
  stop : merged.2.stop = current.stop
  subspan : merged.2.subspan = current.subspan
  holds : ∀ coordinate (point : Point), Covers merged.2 coordinate point ∨
    Holds merged.1 coordinate point ↔
      Covers current coordinate point ∨ Holds before coordinate point

theorem mergePrevious_spec (below : Below low before) (next : low ≤ current.start)
    (some : current.start < current.stop) :
    MergedPrevious before current low (mergePrevious before current) := by
  induction before generalizing low current with
  | nil => exact ⟨trivial, le_rfl, rfl, rfl, fun _ _ => Iff.rfl⟩
  | cons prev before inductionHypothesis =>
    rw [mergePrevious]
    split
    · next same =>
      obtain ⟨meets, equal⟩ := same
      obtain ⟨⟨last, full, -⟩, earlier⟩ := below
      have merged := @inductionHypothesis prev.start { current with start := prev.start } earlier
        le_rfl (by dsimp only; omega)
      refine ⟨?_, merged.start.trans (by dsimp only; omega), merged.stop, merged.subspan,
        fun coordinate point => (merged.holds coordinate point).trans ?_⟩
      · refine merged.below.mono ?_
        have first := merged.start
        dsimp only at first
        omega
      · rw [holds_cons, ← or_assoc]
        refine or_congr_left ?_
        unfold Covers
        rw [equal, ← or_and_right]
        refine and_congr_left fun _ => ?_
        dsimp only
        omega
    · exact ⟨⟨⟨below.1.1.trans (le_min le_rfl next), below.1.2⟩, below.2⟩, le_rfl, rfl, rfl,
        fun _ _ => Iff.rfl⟩

/-- What is known when the current span was merged with those after it. -/
structure MergedNext (current : Span Sub) (after : List (Span Sub))
    (merged : Span Sub × List (Span Sub)) : Prop where
  above : Above merged.1.stop merged.2
  start : merged.1.start = current.start
  stop : current.stop ≤ merged.1.stop
  subspan : merged.1.subspan = current.subspan
  holds : ∀ coordinate (point : Point), Covers merged.1 coordinate point ∨
    Holds merged.2 coordinate point ↔
      Covers current coordinate point ∨ Holds after coordinate point
  length : merged.2.length ≤ after.length

theorem mergeNext_spec (above : Above current.stop after) (some : current.start < current.stop) :
    MergedNext current after (mergeNext current after) := by
  induction after generalizing current with
  | nil => exact ⟨trivial, rfl, le_rfl, rfl, fun _ _ => Iff.rfl, le_rfl⟩
  | cons next after inductionHypothesis =>
    rw [mergeNext]
    split
    · next same =>
      obtain ⟨meets, equal⟩ := same
      obtain ⟨⟨-, full, -⟩, later⟩ := above
      have merged := @inductionHypothesis { current with stop := next.stop } later
        (by dsimp only; omega)
      refine ⟨merged.above, merged.start, le_trans (by dsimp only; omega) merged.stop,
        merged.subspan, fun coordinate point => (merged.holds coordinate point).trans ?_,
        merged.length.trans (Nat.le_succ _)⟩
      rw [holds_cons, ← or_assoc]
      refine or_congr_left ?_
      unfold Covers
      rw [equal, ← or_and_right]
      refine and_congr_left fun _ => ?_
      dsimp only
      omega
    · exact ⟨above, rfl, le_rfl, rfl, fun _ _ => Iff.rfl, le_rfl⟩

end Pieces

/-! ### Places -/

section Places

variable [Subspan Sub] {Point : Type} [LawfulSubspan Sub Point]

/-- One of the spans contains the point. -/
def Place.Holds (place : Place Sub) (coordinate : Int) (point : Point) : Prop :=
  SpanList.Holds place.before coordinate point ∨ Covers place.current coordinate point ∨
    SpanList.Holds place.after coordinate point

/-- The spans around the current one are in order. -/
structure Place.Sound (place : Place Sub) : Prop where
  before : Below place.current.start place.before
  current : Fine place.current
  after : Above place.current.stop place.after

/-- The same points in the same order, but the current span may have grown. -/
structure Place.Grows (place grown : Place Sub) : Prop where
  sound : grown.Sound
  start : grown.current.start ≤ place.current.start
  stop : place.current.stop ≤ grown.current.stop
  subspan : grown.current.subspan = place.current.subspan
  holds : ∀ coordinate (point : Point), grown.Holds coordinate point ↔ place.Holds coordinate point
  length : grown.after.length ≤ place.after.length

variable {place : Place Sub} {start stop : Int}

theorem Place.Grows.trans {grown larger : Place Sub} (grows : place.Grows grown)
    (more : grown.Grows larger) : place.Grows larger where
  sound := more.sound
  start := more.start.trans grows.start
  stop := grows.stop.trans more.stop
  subspan := more.subspan.trans grows.subspan
  holds := fun coordinate point => (more.holds coordinate point).trans (grows.holds coordinate point)
  length := more.length.trans grows.length

/-- The current span was cut to the part between two coordinates. -/
structure Place.Clips (place clipped : Place Sub) (first last : Int) : Prop where
  sound : clipped.Sound
  start : clipped.current.start = max first place.current.start
  stop : clipped.current.stop = min last place.current.stop
  subspan : clipped.current.subspan = place.current.subspan
  length : clipped.after.length ≤ place.after.length + 1
  kept : place.current.stop ≤ last → clipped.after.length = place.after.length

/-- Nothing is lost when the current span is split in front. -/
theorem Place.Sound.splitBefore (sound : place.Sound) (inside : start < place.current.stop) :
    place.Clips (place.splitBefore start) start place.current.stop ∧
      ∀ coordinate (point : Point),
        (place.splitBefore start).Holds coordinate point ↔ place.Holds coordinate point := by
  unfold Place.splitBefore
  split
  · next later =>
    refine ⟨⟨⟨⟨⟨le_rfl, later, sound.current.2⟩, sound.before⟩, ⟨inside, sound.current.2⟩,
      sound.after⟩, (max_eq_left later.le).symm, (min_self _).symm, rfl, Nat.le_succ _,
      fun _ => rfl⟩, fun coordinate point => ?_⟩
    unfold Place.Holds
    rw [holds_cons]
    have pieces : Covers place.current coordinate point ↔
        Covers ⟨place.current.start, start, place.current.subspan⟩ coordinate point ∨
          Covers { place.current with start } coordinate point := by
      unfold Covers
      rw [← or_and_right]
      refine and_congr_left fun _ => ?_
      dsimp only
      omega
    rw [pieces]
    tauto
  · next earlier =>
    exact ⟨⟨sound, (max_eq_right (not_lt.mp earlier)).symm, (min_self _).symm, rfl, Nat.le_succ _,
      fun _ => rfl⟩, fun _ _ => Iff.rfl⟩

/-- Nothing is lost when it is split behind. -/
theorem Place.Sound.splitAfter (sound : place.Sound) (inside : place.current.start < stop) :
    place.Clips (place.splitAfter stop) place.current.start stop ∧
      ∀ coordinate (point : Point),
        (place.splitAfter stop).Holds coordinate point ↔ place.Holds coordinate point := by
  unfold Place.splitAfter
  split
  · next earlier =>
    refine ⟨⟨⟨sound.before, ⟨inside, sound.current.2⟩, ⟨⟨le_rfl, earlier, sound.current.2⟩,
      sound.after⟩⟩, (max_self _).symm, (min_eq_left earlier.le).symm, rfl, le_rfl,
      fun later => absurd later earlier.not_ge⟩, fun coordinate point => ?_⟩
    unfold Place.Holds
    rw [holds_cons]
    have pieces : Covers place.current coordinate point ↔
        Covers { place.current with stop } coordinate point ∨
          Covers ⟨stop, place.current.stop, place.current.subspan⟩ coordinate point := by
      unfold Covers
      rw [← or_and_right]
      refine and_congr_left fun _ => ?_
      dsimp only
      omega
    rw [pieces]
    tauto
  · next later =>
    exact ⟨⟨sound, (max_self _).symm, (min_eq_right (not_lt.mp later)).symm, rfl, Nat.le_succ _,
      fun _ => rfl⟩, fun _ _ => Iff.rfl⟩

omit [Subspan Sub] in
theorem Place.after_splitBefore (place : Place Sub) (start : Int) :
    (place.splitBefore start).after = place.after := by
  unfold Place.splitBefore
  split <;> rfl

omit [Subspan Sub] in
theorem Place.before_splitAfter (place : Place Sub) (stop : Int) :
    (place.splitAfter stop).before = place.before := by
  unfold Place.splitAfter
  split <;> rfl

/-- What comes next when the current span was split behind. -/
theorem Place.holds_after_splitAfter (place : Place Sub) (stop coordinate : Int) (point : Point) :
    SpanList.Holds (place.splitAfter stop).after coordinate point ↔
      (stop ≤ coordinate ∧ coordinate < place.current.stop) ∧
        LawfulSubspan.Holds place.current.subspan point ∨
          SpanList.Holds place.after coordinate point := by
  unfold Place.splitAfter
  split
  · exact holds_cons
  · next later =>
    refine (or_iff_right ?_).symm
    rintro ⟨⟨first, last⟩, -⟩
    omega

/-- What stays behind when it was split in front. -/
theorem Place.holds_before_splitBefore (place : Place Sub) (start coordinate : Int) (point : Point) :
    SpanList.Holds (place.splitBefore start).before coordinate point ↔
      (place.current.start ≤ coordinate ∧ coordinate < start) ∧
        LawfulSubspan.Holds place.current.subspan point ∨
          SpanList.Holds place.before coordinate point := by
  unfold Place.splitBefore
  split
  · exact holds_cons
  · next earlier =>
    refine (or_iff_right ?_).symm
    rintro ⟨⟨first, last⟩, -⟩
    omega

/-- What lies in front of a coordinate is lost when the current span is cut there. -/
theorem Place.Sound.cutBefore (sound : place.Sound) (inside : start < place.current.stop) :
    place.Clips (place.cutBefore start) start place.current.stop ∧
      (place.cutBefore start).before = place.before ∧ (place.cutBefore start).after = place.after := by
  unfold Place.cutBefore
  split
  · next later =>
    exact ⟨⟨⟨sound.before.mono later.le, ⟨inside, sound.current.2⟩, sound.after⟩,
      (max_eq_left later.le).symm, (min_self _).symm, rfl, Nat.le_succ _, fun _ => rfl⟩, rfl, rfl⟩
  · next earlier =>
    exact ⟨⟨sound, (max_eq_right (not_lt.mp earlier)).symm, (min_self _).symm, rfl, Nat.le_succ _,
      fun _ => rfl⟩, rfl, rfl⟩

section Merge

variable [DecidableEq Sub]

theorem Place.Sound.mergePrevious (sound : place.Sound) : place.Grows place.mergePrevious := by
  have merged := mergePrevious_spec sound.before le_rfl sound.current.1
  have start := merged.start
  have stop := merged.stop
  have subspan := merged.subspan
  refine ⟨⟨merged.below.mono (min_le_right _ _), ⟨?_, ?_⟩, ?_⟩, start, stop.ge, subspan,
    fun coordinate point => ?_, le_rfl⟩
  · exact start.trans_lt (sound.current.1.trans_le stop.ge)
  · exact subspan ▸ sound.current.2
  · exact stop ▸ sound.after
  · unfold Place.Holds
    rw [← or_assoc, ← or_assoc]
    refine or_congr_left ?_
    rw [or_comm, or_comm (a := SpanList.Holds place.before coordinate point)]
    exact merged.holds coordinate point

theorem Place.Sound.mergeNext (sound : place.Sound) : place.Grows place.mergeNext := by
  have merged := mergeNext_spec sound.after sound.current.1
  have start := merged.start
  have stop := merged.stop
  have subspan := merged.subspan
  refine ⟨⟨?_, ⟨?_, ?_⟩, merged.above⟩, start.le, stop, subspan, fun coordinate point => ?_,
    merged.length⟩
  · exact start ▸ sound.before
  · exact start.le.trans_lt (sound.current.1.trans_le stop)
  · exact subspan ▸ sound.current.2
  · exact or_congr_right (merged.holds coordinate point)

theorem Place.Sound.merge (sound : place.Sound) :
    place.Grows place.mergePrevious.mergeNext :=
  sound.mergePrevious.trans sound.mergePrevious.sound.mergeNext

end Merge

end Places

end SpanList

end TermPlux
