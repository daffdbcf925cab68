/-
This file proves that the passes over sorted lists of spans compute the union, the
intersection and the difference of the sets, keep the spans in order, and leave no
empty ones. Each pass has an invariant on what it has left behind and what is still
ahead of it, which one round keeps.

What is below a span is a set of points, and so is a list of spans. The list can
therefore be put below a span again, which gives regions of any dimension.
-/

import TermPlux.SpanList

namespace TermPlux

namespace SpanList

variable {Sub : Type}

/-! ### The union -/

section Union

variable [Subspan Sub] {Point : Type} [LawfulSubspan Sub Point]

/-- The spans of the second list are not behind the place in the first one. -/
def Pass.Ordered (pass : Pass Sub) : Prop :=
  ∃ low, Below low pass.before ∧ Above low pass.rest ∧ Above low pass.src

/-- The points of both lists. -/
def Pass.Either (pass : Pass Sub) (coordinate : Int) (point : Point) : Prop :=
  Holds pass.before coordinate point ∨ Holds pass.rest coordinate point ∨
    Holds pass.src coordinate point

def Pass.size (pass : Pass Sub) : Nat := 2 * pass.src.length + pass.rest.length

theorem Place.either_stay (place : Place Sub) (src : List (Span Sub)) (coordinate : Int)
    (point : Point) : (place.stay src).Either coordinate point ↔
      place.Holds coordinate point ∨ SpanList.Holds src coordinate point := by
  unfold Pass.Either Place.stay Place.Holds
  dsimp only
  rw [holds_cons]
  tauto

theorem Place.either_next (place : Place Sub) (src : List (Span Sub)) (coordinate : Int)
    (point : Point) : (place.next src).Either coordinate point ↔
      place.Holds coordinate point ∨ SpanList.Holds src coordinate point := by
  unfold Pass.Either Place.next Place.Holds
  dsimp only
  rw [holds_cons]
  tauto

variable [DecidableEq Sub] {low : Int} {place : Place Sub} {span : Span Sub}
variable {before rest src : List (Span Sub)}

/-- The part of the new span in front of the current one was added. -/
theorem Place.Sound.reachBack (sound : place.Sound) (behind : Below low place.before)
    (order : low ≤ span.start) (fine : Fine span) {reached : Place Sub}
    (reaches : reached = if span.start < place.current.start then
      (place.insertBefore ⟨span.start, place.current.start, span.subspan⟩).mergePrevious
        else place) :
    (reached.Sound ∧ reached.current.subspan = place.current.subspan ∧
      reached.current.start ≤ place.current.start ∧ place.current.stop ≤ reached.current.stop ∧
        reached.after.length ≤ place.after.length) ∧
      ∀ coordinate (point : Point), reached.Holds coordinate point ↔
        place.Holds coordinate point ∨
          (span.start ≤ coordinate ∧ coordinate < place.current.start) ∧
            LawfulSubspan.Holds span.subspan point := by
  split at reaches
  · next first =>
    have inserted : (place.insertBefore ⟨span.start, place.current.start, span.subspan⟩).Sound :=
      ⟨⟨⟨le_rfl, first, fine.2⟩, behind.mono order⟩, sound.current, sound.after⟩
    have grows := inserted.mergePrevious
    rw [← reaches] at grows
    refine ⟨⟨grows.sound, grows.subspan, grows.start, grows.stop, grows.length⟩,
      fun coordinate point => (grows.holds coordinate point).trans ?_⟩
    unfold Place.Holds Place.insertBefore
    rw [holds_cons]
    unfold Covers
    tauto
  · next later =>
    subst reaches
    refine ⟨⟨sound, rfl, le_rfl, le_rfl, le_rfl⟩, fun coordinate point => ?_⟩
    refine (or_iff_left ?_).symm
    rintro ⟨⟨first, last⟩, -⟩
    omega

/-- Where two spans overlap, their points are joined. -/
theorem orOverlap_spec (sound : place.Sound) (behind : Below low place.before)
    (order : low ≤ span.start) (fine : Fine span) (more : Above span.stop src)
    (overlap : span.start < place.current.stop ∧ span.stop > place.current.start) :
    ((orOverlap place span src).Ordered ∧
      (orOverlap place span src).size < 2 * (src.length + 1) + (place.after.length + 1)) ∧
      ∀ coordinate (point : Point), (orOverlap place span src).Either coordinate point ↔
        place.Holds coordinate point ∨ Covers span coordinate point ∨ Holds src coordinate point := by
  unfold orOverlap
  dsimp only
  generalize reaches : (if span.start < place.current.start then
    (place.insertBefore ⟨span.start, place.current.start, span.subspan⟩).mergePrevious
      else place) = reached
  obtain ⟨⟨reachedSound, sub, start, stop, length⟩, added⟩ :=
    sound.reachBack behind order fine reaches.symm
  obtain ⟨behindStop, sameBehind⟩ := reachedSound.splitAfter (start.trans_lt overlap.2)
  have inside : span.start < (reached.splitAfter span.stop).current.stop := by
    rw [behindStop.stop]
    exact lt_min fine.1 (overlap.1.trans_le stop)
  obtain ⟨inFront, sameInFront⟩ := behindStop.sound.splitBefore inside
  generalize (reached.splitAfter span.stop).splitBefore span.start = part at inFront sameInFront
  have partSub : part.current.subspan = place.current.subspan :=
    inFront.subspan.trans (behindStop.subspan.trans sub)
  have partStart : part.current.start = max span.start reached.current.start := by
    rw [inFront.start, behindStop.start, max_self]
  have partStop : part.current.stop = min span.stop reached.current.stop := by
    rw [inFront.stop, min_self, behindStop.stop]
  rw [partSub]
  have joined : (part.setSubspan (Subspan.or place.current.subspan span.subspan)).Sound :=
    ⟨inFront.sound.before, ⟨inFront.sound.current.1,
      LawfulSubspan.proper_or sound.current.2 fine.2⟩, inFront.sound.after⟩
  have grows := joined.merge
  generalize (part.setSubspan (Subspan.or place.current.subspan span.subspan)).mergePrevious.mergeNext
    = grown at grows
  have grownStart : grown.current.start ≤ part.current.start := grows.start
  have grownStop : part.current.stop ≤ grown.current.stop := grows.stop
  have grownSub : grown.current.subspan = Subspan.or place.current.subspan span.subspan :=
    grows.subspan
  -- The points of the place so far, with the part of the new span that was joined.
  have holds (coordinate : Int) (point : Point) : grown.Holds coordinate point ↔
      (place.Holds coordinate point ∨
        (span.start ≤ coordinate ∧ coordinate < place.current.start) ∧
          LawfulSubspan.Holds span.subspan point) ∨
        (part.current.start ≤ coordinate ∧ coordinate < part.current.stop) ∧
          LawfulSubspan.Holds span.subspan point := by
    rw [grows.holds, ← added, ← sameBehind, ← sameInFront]
    unfold Place.Holds Place.setSubspan Covers
    dsimp only
    rw [LawfulSubspan.holds_or point sound.current.2 fine.2, partSub]
    tauto
  -- Nothing of the new span is left out up to the end of the current one.
  have covered {coordinate : Int} {point : Point} (first : span.start ≤ coordinate)
      (last : coordinate < grown.current.stop) (held : LawfulSubspan.Holds span.subspan point) :
      grown.Holds coordinate point := by
    by_cases earlier : coordinate < place.current.start
    · exact (holds coordinate point).mpr (.inl (.inr ⟨⟨first, earlier⟩, held⟩))
    · refine .inr (.inl ⟨⟨by omega, last⟩, ?_⟩)
      rw [grownSub]
      exact (LawfulSubspan.holds_or point sound.current.2 fine.2).mpr (.inr held)
  have within {coordinate : Int} {point : Point} (held : grown.Holds coordinate point) :
      place.Holds coordinate point ∨ Covers span coordinate point := by
    rcases (holds coordinate point).mp held with (held | ⟨⟨first, last⟩, held⟩) | ⟨⟨first, last⟩, held⟩
    · exact .inl held
    · exact .inr ⟨⟨first, by omega⟩, held⟩
    · exact .inr ⟨⟨by omega, by omega⟩, held⟩
  have kept {coordinate : Int} {point : Point} (held : place.Holds coordinate point) :
      grown.Holds coordinate point := (holds coordinate point).mpr (.inl (.inl held))
  have fewer : grown.after.length ≤ part.after.length := grows.length
  split
  · next past =>
    have same : part.after.length = reached.after.length :=
      (inFront.kept le_rfl).trans (behindStop.kept (by omega))
    refine ⟨⟨⟨grown.current.stop, ⟨⟨le_rfl, grows.sound.current⟩, grows.sound.before⟩,
      grows.sound.after, ⟨⟨le_rfl, past, fine.2⟩, more⟩⟩, ?_⟩, fun coordinate point => ?_⟩
    · show 2 * (src.length + 1) + grown.after.length < _
      omega
    · rw [Place.either_next, holds_cons, ← or_assoc, ← or_assoc]
      refine or_congr_left ⟨?_, ?_⟩
      · rintro (held | ⟨⟨first, last⟩, held⟩)
        · exact within held
        · exact .inr ⟨⟨by dsimp only at first; omega, last⟩, held⟩
      · rintro (held | ⟨⟨first, last⟩, held⟩)
        · exact .inl (kept held)
        · by_cases early : coordinate < grown.current.stop
          · exact .inl (covered first early held)
          · exact .inr ⟨⟨not_lt.mp early, last⟩, held⟩
  · next enough =>
    have some := fine.1
    have one : part.after.length ≤ place.after.length + 1 := by
      have first := inFront.kept le_rfl
      have second := behindStop.length
      omega
    refine ⟨⟨⟨grown.current.start, grows.sound.before, ⟨⟨le_rfl, grows.sound.current⟩,
      grows.sound.after⟩, more.mono (by omega)⟩, ?_⟩, fun coordinate point => ?_⟩
    · show 2 * src.length + (grown.after.length + 1) < _
      omega
    · rw [Place.either_stay, ← or_assoc]
      refine or_congr_left ⟨within, ?_⟩
      rintro (held | ⟨⟨first, last⟩, held⟩)
      · exact kept held
      · exact covered first (by omega) held

/-- One round joins the first span of the second list. -/
theorem orStep_spec (below : Below low before) (above : Above low rest) (order : low ≤ span.start)
    (fine : Fine span) (more : Above span.stop src) :
    ((orStep before rest span src).Ordered ∧
      (orStep before rest span src).size < 2 * (src.length + 1) + rest.length) ∧
      ∀ coordinate (point : Point), (orStep before rest span src).Either coordinate point ↔
        Holds before coordinate point ∨ Holds rest coordinate point ∨
          Covers span coordinate point ∨ Holds src coordinate point := by
  cases rest with
  | nil =>
    refine ⟨⟨⟨span.stop, ⟨⟨le_rfl, fine⟩, below.mono order⟩, trivial, more⟩, ?_⟩,
      fun coordinate point => ?_⟩
    · show 2 * src.length + 0 < 2 * (src.length + 1) + 0
      omega
    · show Holds (span :: before) coordinate point ∨ Holds [] coordinate point ∨ _ ↔ _
      rw [holds_cons]
      tauto
  | cons current after =>
    obtain ⟨⟨first, full⟩, above⟩ := above
    have sound : (⟨before, current, after⟩ : Place Sub).Sound := ⟨below.mono first, full, above⟩
    rw [orStep]
    split
    · next later =>
      have inserted : ((⟨before, current, after⟩ : Place Sub).insertBefore span).Sound :=
        ⟨⟨⟨later, fine⟩, below.mono order⟩, full, above⟩
      have grows := inserted.mergePrevious
      have merged : MergedPrevious (span :: before) current span.stop
          (mergePrevious (span :: before) current) :=
        mergePrevious_spec ⟨⟨le_rfl, fine⟩, below.mono order⟩ later full.1
      refine ⟨⟨⟨min span.stop _, merged.below, ⟨⟨min_le_right _ _, grows.sound.current⟩,
        grows.sound.after⟩, more.mono (min_le_left _ _)⟩, ?_⟩, fun coordinate point => ?_⟩
      · show 2 * src.length + (after.length + 1) < 2 * (src.length + 1) + (after.length + 1)
        omega
      · rw [Place.either_stay, grows.holds]
        unfold Place.Holds Place.insertBefore
        dsimp only
        rw [holds_cons, holds_cons]
        tauto
    · split
      · next earlier overlap =>
        obtain ⟨ordered, points⟩ := orOverlap_spec sound below order fine more overlap
        refine ⟨ordered, fun coordinate point => (points coordinate point).trans ?_⟩
        unfold Place.Holds
        dsimp only
        rw [holds_cons]
        tauto
      · next earlier apart =>
        refine ⟨⟨⟨current.stop, ⟨⟨le_rfl, full⟩, below.mono first⟩, above,
          ⟨⟨by omega, fine⟩, more⟩⟩, ?_⟩, fun coordinate point => ?_⟩
        · show 2 * (src.length + 1) + after.length < 2 * (src.length + 1) + (after.length + 1)
          omega
        · rw [Place.either_next, holds_cons]
          unfold Place.Holds
          dsimp only
          rw [holds_cons]
          tauto

/-- All rounds join the two lists, and leave the first one in order. -/
theorem orLoop_spec {rounds : Nat} {pass : Pass Sub} (ordered : pass.Ordered)
    (enough : pass.size ≤ rounds) :
    (∃ low, Above low (orLoop rounds pass)) ∧
      ∀ coordinate (point : Point), Holds (orLoop rounds pass) coordinate point ↔
        pass.Either coordinate point := by
  have last {pass : Pass Sub} (ordered : pass.Ordered) (done : pass.src = []) :
      (∃ low, Above low pass.dest) ∧ ∀ coordinate (point : Point),
        Holds pass.dest coordinate point ↔ pass.Either coordinate point := by
    obtain ⟨low, below, above, -⟩ := ordered
    refine ⟨Above.reverse_append below above, fun coordinate point => ?_⟩
    unfold Pass.dest Pass.Either
    rw [holds_append, holds_reverse, done]
    refine or_congr_right (or_iff_left not_holds_nil).symm
  induction rounds generalizing pass with
  | zero =>
    refine last ordered (List.length_eq_zero_iff.mp ?_)
    unfold Pass.size at enough
    omega
  | succ rounds inductionHypothesis =>
    rw [orLoop]
    split
    · next done => exact last ordered done
    · next span src more =>
      obtain ⟨low, below, above, others⟩ := ordered
      rw [more] at others
      obtain ⟨⟨next, smaller⟩, points⟩ := orStep_spec below above others.1.1 others.1.2 others.2
      unfold Pass.size at enough
      rw [more, List.length_cons] at enough
      obtain ⟨inOrder, joined⟩ := inductionHypothesis next (by omega)
      refine ⟨inOrder, fun coordinate point => (joined coordinate point).trans
        ((points coordinate point).trans ?_)⟩
      unfold Pass.Either
      rw [more, holds_cons]

end Union

/-! ### The intersection -/

section Intersection

variable [Subspan Sub] {Point : Type} [LawfulSubspan Sub Point]

/-- Both lists are in order. -/
structure Pass.Aligned (pass : Pass Sub) : Prop where
  dest : ∃ low, Below low pass.before ∧ Above low pass.rest
  src : ∃ low, Above low pass.src

/-- The points that were found, and those that are still in both lists. -/
def Pass.Both (pass : Pass Sub) (coordinate : Int) (point : Point) : Prop :=
  Holds pass.before coordinate point ∨
    Holds pass.rest coordinate point ∧ Holds pass.src coordinate point

omit [Subspan Sub] in
theorem rounds_le (rest src : List (Span Sub)) :
    rounds rest src ≤ 2 * (2 * src.length + rest.length) + 1 := by
  unfold rounds
  split
  · split <;> omega
  · omega

omit [Subspan Sub] in
/-- Where a span of the first list is split behind and removed, the next round skips the span of the
second list. -/
theorem Place.rounds_remove_splitAfter {place : Place Sub} {span : Span Sub}
    (overlap : place.current.start < span.stop) (src : List (Span Sub)) :
    rounds (place.splitAfter span.stop).after (span :: src) <
      rounds (place.current :: place.after) (span :: src) := by
  have before : rounds (place.current :: place.after) (span :: src) =
      2 * (2 * (src.length + 1) + (place.after.length + 1)) + 1 := by
    unfold rounds
    dsimp only
    rw [if_neg (not_le.mpr overlap), List.length_cons, List.length_cons]
  rw [before]
  unfold Place.splitAfter
  split
  · unfold rounds
    dsimp only
    rw [if_pos le_rfl, List.length_cons, List.length_cons]
    omega
  · have bound := rounds_le place.after (span :: src)
    rw [List.length_cons] at bound
    omega

omit [Subspan Sub] in
theorem two_mul_le_rounds (rest src : List (Span Sub)) :
    2 * (2 * src.length + rest.length) ≤ rounds rest src := Nat.le_add_right _ _

variable [DecidableEq Sub] {place : Place Sub} {span : Span Sub} {src : List (Span Sub)}

omit [Subspan Sub] in
theorem Place.stop_mergePrevious (place : Place Sub) :
    place.mergePrevious.current.stop = place.current.stop := by
  have general (before : List (Span Sub)) (current : Span Sub) :
      (SpanList.mergePrevious before current).2.stop = current.stop := by
    fun_induction SpanList.mergePrevious before current with
    | case1 => rfl
    | case2 dest prev before same inductionHypothesis => exact inductionHypothesis
    | case3 => rfl
  exact general place.before place.current

theorem Place.Sound.holds_mergePrevious (sound : place.Sound) (coordinate : Int) (point : Point) :
    SpanList.Holds (place.mergePrevious.current :: place.mergePrevious.before) coordinate point ↔
      Covers place.current coordinate point ∨ SpanList.Holds place.before coordinate point :=
  holds_cons.trans ((mergePrevious_spec sound.before le_rfl sound.current.1).holds coordinate point)

/-- Where two spans overlap, their common points are found. -/
theorem andOverlap_spec (sound : place.Sound) (fine : Fine span) (more : Above span.stop src)
    (overlap : span.start < place.current.stop ∧ place.current.start < span.stop) :
    ((andOverlap place span src).Aligned ∧
      rounds (andOverlap place span src).rest (andOverlap place span src).src <
        rounds (place.current :: place.after) (span :: src)) ∧
      ∀ coordinate (point : Point), (andOverlap place span src).Both coordinate point ↔
        Holds place.before coordinate point ∨
          (Covers place.current coordinate point ∨ Holds place.after coordinate point) ∧
            (Covers span coordinate point ∨ Holds src coordinate point) := by
  have some := fine.1
  obtain ⟨cut, sameBefore, sameAfter⟩ := sound.cutBefore overlap.1
  have inside : (place.cutBefore span.start).current.start < span.stop := by
    rw [cut.start]
    exact max_lt some overlap.2
  obtain ⟨clips, -⟩ := cut.sound.splitAfter inside
  have cutStop : (place.cutBefore span.start).current.stop = place.current.stop := by
    rw [cut.stop, min_self]
  have next (coordinate : Int) (point : Point) :=
    (place.cutBefore span.start).holds_after_splitAfter span.stop coordinate point
  have before := (place.cutBefore span.start).before_splitAfter span.stop
  have fewer := (place.cutBefore span.start).rounds_remove_splitAfter inside src
  have same : rounds ((place.cutBefore span.start).current :: (place.cutBefore span.start).after)
      (span :: src) = rounds (place.current :: place.after) (span :: src) := by
    rw [sameAfter]
    unfold rounds
    dsimp only
    rw [if_neg (not_le.mpr inside), if_neg (not_le.mpr overlap.2)]
    rfl
  rw [cut.subspan, cutStop, sameAfter] at next
  rw [sameBefore] at before
  rw [same] at fewer
  unfold andOverlap
  dsimp only
  generalize (place.cutBefore span.start).splitAfter span.stop = part at *
  have partSub : part.current.subspan = place.current.subspan := clips.subspan.trans cut.subspan
  have partStart : part.current.start = max span.start place.current.start := by
    rw [clips.start, max_self, cut.start]
  have partStop : part.current.stop = min span.stop place.current.stop := by
    rw [clips.stop, cutStop]
  have common (point : Point) := LawfulSubspan.holds_and point sound.current.2 fine.2
  have later {coordinate : Int} {point : Point} (held : Holds place.after coordinate point) :
      place.current.stop ≤ coordinate := sound.after.le_of_holds held
  have laterSrc {coordinate : Int} {point : Point} (held : Holds src coordinate point) :
      span.stop ≤ coordinate := more.le_of_holds held
  rw [partSub]
  split
  · next left =>
    have proper := LawfulSubspan.proper_and sound.current.2 fine.2 left
    have joined : (part.setSubspan (Subspan.and place.current.subspan span.subspan).1).Sound :=
      ⟨clips.sound.before, ⟨clips.sound.current.1, proper⟩, clips.sound.after⟩
    have found (coordinate : Int) (point : Point) := joined.holds_mergePrevious coordinate point
    have stop := (part.setSubspan (Subspan.and place.current.subspan span.subspan).1).stop_mergePrevious
    have grown := joined.mergePrevious.sound
    have after : (part.setSubspan (Subspan.and place.current.subspan
      span.subspan).1).mergePrevious.after = part.after := rfl
    generalize (part.setSubspan (Subspan.and place.current.subspan span.subspan).1).mergePrevious =
      merged at *
    have mergedStop : merged.current.stop = min span.stop place.current.stop := stop.trans partStop
    rw [if_pos (by omega)]
    refine ⟨⟨⟨⟨merged.current.stop, ⟨⟨le_rfl, grown.current⟩, grown.before⟩, grown.after⟩, ?_⟩, ?_⟩,
      fun coordinate point => ?_⟩
    · split
      · exact ⟨span.stop, more⟩
      · exact ⟨span.start, ⟨⟨le_rfl, fine⟩, more⟩⟩
    · show rounds merged.after (if span.stop ≤ merged.current.stop then src else span :: src) < _
      rw [after]
      split
      · have bound := rounds_le part.after src
        have enough := two_mul_le_rounds (place.current :: place.after) (span :: src)
        have length : part.after.length ≤ place.after.length + 1 := by
          rw [← sameAfter]
          exact clips.length
        rw [List.length_cons, List.length_cons] at enough
        omega
      · exact fewer
    · have apart := common point
      rw [left] at apart
      have region := found coordinate point
      unfold Pass.Both Place.next
      dsimp only
      rw [region, after, next]
      unfold Covers Place.setSubspan
      dsimp only
      rw [before]
      split
      · grind
      · rw [holds_cons]
        unfold Covers
        grind
  · next nothing =>
    have none : (Subspan.and place.current.subspan span.subspan).2 = false :=
      Bool.eq_false_iff.mpr nothing
    refine ⟨⟨⟨⟨part.current.start, clips.sound.before, ?_⟩, span.start, ⟨⟨le_rfl, fine⟩, more⟩⟩, fewer⟩,
      fun coordinate point => ?_⟩
    · exact clips.sound.after.mono clips.sound.current.1.le
    · have apart := common point
      rw [none] at apart
      unfold Pass.Both Place.remove
      dsimp only
      rw [before, next, holds_cons]
      unfold Covers
      grind

omit [DecidableEq Sub] [Subspan Sub] in
/-- Skipping a span of either list leaves fewer rounds. -/
theorem rounds_skip (current : Span Sub) (after : List (Span Sub)) (span : Span Sub)
    (src : List (Span Sub)) :
    rounds (current :: after) src < rounds (current :: after) (span :: src) ∧
      rounds after (span :: src) < rounds (current :: after) (span :: src) := by
  have enough := two_mul_le_rounds (current :: after) (span :: src)
  have skipped := rounds_le (current :: after) src
  have removed := rounds_le after (span :: src)
  rw [List.length_cons, List.length_cons] at enough
  rw [List.length_cons] at skipped removed
  omega

/-- One round finds common points, or skips a span that has none. -/
theorem andStep_spec (sound : place.Sound) (fine : Fine span) (more : Above span.stop src) :
    ((andStep place span src).Aligned ∧
      rounds (andStep place span src).rest (andStep place span src).src <
        rounds (place.current :: place.after) (span :: src)) ∧
      ∀ coordinate (point : Point), (andStep place span src).Both coordinate point ↔
        Holds place.before coordinate point ∨
          (Covers place.current coordinate point ∨ Holds place.after coordinate point) ∧
            (Covers span coordinate point ∨ Holds src coordinate point) := by
  have some := fine.1
  have full := sound.current.1
  have fewer := rounds_skip place.current place.after span src
  have later {coordinate : Int} {point : Point} (held : Holds place.after coordinate point) :
      place.current.stop ≤ coordinate := sound.after.le_of_holds held
  have laterSrc {coordinate : Int} {point : Point} (held : Holds src coordinate point) :
      span.stop ≤ coordinate := more.le_of_holds held
  unfold andStep
  split
  · next skips =>
    refine ⟨⟨⟨⟨place.current.start, sound.before, ⟨⟨le_rfl, sound.current⟩, sound.after⟩⟩, span.stop,
      more⟩, fewer.1⟩, fun coordinate point => ?_⟩
    unfold Pass.Both Place.stay
    dsimp only
    rw [holds_cons]
    unfold Covers
    grind
  · split
    · next overlaps removes =>
      refine ⟨⟨⟨⟨place.current.start, sound.before, sound.after.mono full.le⟩, span.start,
        ⟨⟨le_rfl, fine⟩, more⟩⟩, fewer.2⟩, fun coordinate point => ?_⟩
      unfold Pass.Both Place.remove
      dsimp only
      rw [holds_cons]
      unfold Covers
      grind
    · next begins ends => exact andOverlap_spec sound fine more ⟨by omega, by omega⟩

/-- All rounds find the common points, and leave them in order. -/
theorem andLoop_spec {count : Nat} {pass : Pass Sub} (aligned : pass.Aligned)
    (enough : rounds pass.rest pass.src ≤ count) :
    (∃ low, Above low (andLoop count pass)) ∧
      ∀ coordinate (point : Point), Holds (andLoop count pass) coordinate point ↔
        pass.Both coordinate point := by
  have last {pass : Pass Sub} (aligned : pass.Aligned) (done : pass.rest = [] ∨ pass.src = []) :
      (∃ low, Above low pass.before.reverse) ∧ ∀ coordinate (point : Point),
        Holds pass.before.reverse coordinate point ↔ pass.Both coordinate point := by
    obtain ⟨low, below, -⟩ := aligned.dest
    constructor
    · have above : ∃ low, Above low (pass.before.reverse ++ []) := Above.reverse_append below trivial
      rwa [List.append_nil] at above
    · intro coordinate point
      unfold Pass.Both
      rw [holds_reverse]
      refine (or_iff_left ?_).symm
      rintro ⟨inRest, inSrc⟩
      rcases done with none | none
      · exact not_holds_nil (none ▸ inRest)
      · exact not_holds_nil (none ▸ inSrc)
  induction count generalizing pass with
  | zero =>
    refine last aligned (.inl (List.length_eq_zero_iff.mp ?_))
    have bound := two_mul_le_rounds pass.rest pass.src
    omega
  | succ count inductionHypothesis =>
    rw [andLoop]
    split
    · next current after span src first second =>
      obtain ⟨⟨low, below, above⟩, ⟨start, others⟩⟩ := aligned
      rw [first] at above enough
      rw [second] at others enough
      obtain ⟨⟨next, fewer⟩, points⟩ := @andStep_spec _ _ _ _ _ ⟨pass.before, current, after⟩ span src
        ⟨below.mono above.1.1, above.1.2, above.2⟩ others.1.2 others.2
      obtain ⟨inOrder, found⟩ := inductionHypothesis next (Nat.le_of_lt_succ (fewer.trans_le enough))
      refine ⟨inOrder, fun coordinate point => (found coordinate point).trans
        ((points coordinate point).trans ?_)⟩
      unfold Pass.Both
      rw [first, second, holds_cons, holds_cons]
    · next none =>
      refine last aligned ?_
      by_contra both
      rw [not_or] at both
      obtain ⟨current, after, first⟩ := List.exists_cons_of_ne_nil both.1
      obtain ⟨span, src, second⟩ := List.exists_cons_of_ne_nil both.2
      exact none current after span src first second

end Intersection

/-! ### The difference -/

section Difference

variable [Subspan Sub] {Point : Type} [LawfulSubspan Sub Point]

/-- The points that are left, and those of the rest of the first list that are not in the second
one. -/
def Pass.Left (pass : Pass Sub) (coordinate : Int) (point : Point) : Prop :=
  Holds pass.before coordinate point ∨
    Holds pass.rest coordinate point ∧ ¬Holds pass.src coordinate point

variable [DecidableEq Sub] {place : Place Sub} {span : Span Sub} {src : List (Span Sub)}

/-- Where two spans overlap, the points of the second one are removed. -/
theorem subtractOverlap_spec (sound : place.Sound) (fine : Fine span) (more : Above span.stop src)
    (overlap : span.start < place.current.stop ∧ place.current.start < span.stop) :
    ((subtractOverlap place span src).Aligned ∧
      rounds (subtractOverlap place span src).rest (subtractOverlap place span src).src <
        rounds (place.current :: place.after) (span :: src)) ∧
      ∀ coordinate (point : Point), (subtractOverlap place span src).Left coordinate point ↔
        Holds place.before coordinate point ∨
          (Covers place.current coordinate point ∨ Holds place.after coordinate point) ∧
            ¬(Covers span coordinate point ∨ Holds src coordinate point) := by
  have some := fine.1
  have full := sound.current.1
  obtain ⟨front, -⟩ := sound.splitBefore overlap.1
  have behind (coordinate : Int) (point : Point) :=
    place.holds_before_splitBefore span.start coordinate point
  have sameAfter := place.after_splitBefore span.start
  have inside : (place.splitBefore span.start).current.start < span.stop := by
    rw [front.start]
    exact max_lt some overlap.2
  obtain ⟨clips, -⟩ := front.sound.splitAfter inside
  have frontStop : (place.splitBefore span.start).current.stop = place.current.stop := by
    rw [front.stop, min_self]
  have next (coordinate : Int) (point : Point) :=
    (place.splitBefore span.start).holds_after_splitAfter span.stop coordinate point
  have before := (place.splitBefore span.start).before_splitAfter span.stop
  have fewer := (place.splitBefore span.start).rounds_remove_splitAfter inside src
  have same : rounds ((place.splitBefore span.start).current ::
      (place.splitBefore span.start).after) (span :: src) =
        rounds (place.current :: place.after) (span :: src) := by
    rw [sameAfter]
    unfold rounds
    dsimp only
    rw [if_neg (not_le.mpr inside), if_neg (not_le.mpr overlap.2)]
    rfl
  rw [front.subspan, frontStop, sameAfter] at next
  rw [same] at fewer
  unfold subtractOverlap
  dsimp only
  generalize (place.splitBefore span.start).splitAfter span.stop = part at *
  have partSub : part.current.subspan = place.current.subspan := clips.subspan.trans front.subspan
  have partStart : part.current.start = max span.start place.current.start := by
    rw [clips.start, max_self, front.start]
  have partStop : part.current.stop = min span.stop place.current.stop := by
    rw [clips.stop, frontStop]
  have apart (point : Point) := LawfulSubspan.holds_subtract point sound.current.2 fine.2
  have earlier {coordinate : Int} {point : Point} (held : Holds place.before coordinate point) :
      coordinate < place.current.start := sound.before.lt_of_holds held
  have later {coordinate : Int} {point : Point} (held : Holds place.after coordinate point) :
      place.current.stop ≤ coordinate := sound.after.le_of_holds held
  have laterSrc {coordinate : Int} {point : Point} (held : Holds src coordinate point) :
      span.stop ≤ coordinate := more.le_of_holds held
  rw [partSub]
  split
  · next left =>
    have proper := LawfulSubspan.proper_subtract sound.current.2 fine.2 left
    have joined : (part.setSubspan (Subspan.subtract place.current.subspan span.subspan).1).Sound :=
      ⟨clips.sound.before, ⟨clips.sound.current.1, proper⟩, clips.sound.after⟩
    have grows := joined.merge
    generalize
      (part.setSubspan (Subspan.subtract place.current.subspan span.subspan).1).mergePrevious.mergeNext
        = merged at grows
    have mergedStart : merged.current.start ≤ part.current.start := grows.start
    have mergedStop : part.current.stop ≤ merged.current.stop := grows.stop
    have mergedSub : merged.current.subspan =
        (Subspan.subtract place.current.subspan span.subspan).1 := grows.subspan
    have length : merged.after.length ≤ part.after.length := grows.length
    have one : part.after.length ≤ place.after.length + 1 := by
      rw [← sameAfter]
      exact clips.length
    have enough := two_mul_le_rounds (place.current :: place.after) (span :: src)
    rw [List.length_cons, List.length_cons] at enough
    -- The merged spans have the same points, and each of them lies on its side.
    have points (coordinate : Int) (point : Point) : merged.Holds coordinate point ↔
        Holds part.before coordinate point ∨
          (part.current.start ≤ coordinate ∧ coordinate < part.current.stop) ∧
            LawfulSubspan.Holds (Subspan.subtract place.current.subspan span.subspan).1 point ∨
            Holds part.after coordinate point := grows.holds coordinate point
    have mergedEarlier {coordinate : Int} {point : Point}
        (held : Holds merged.before coordinate point) : coordinate < merged.current.start :=
      grows.sound.before.lt_of_holds held
    have mergedLater {coordinate : Int} {point : Point}
        (held : Holds merged.after coordinate point) : merged.current.stop ≤ coordinate :=
      grows.sound.after.le_of_holds held
    split
    · next past =>
      have kept : part.after.length = place.after.length := by
        rw [← sameAfter]
        exact clips.kept (by omega)
      refine ⟨⟨⟨⟨merged.current.stop, ⟨⟨le_rfl, grows.sound.current⟩, grows.sound.before⟩,
        grows.sound.after⟩, span.start, ⟨⟨le_rfl, fine⟩, more⟩⟩, ?_⟩, fun coordinate point => ?_⟩
      · show rounds merged.after (span :: src) < _
        have bound := rounds_le merged.after (span :: src)
        rw [List.length_cons] at bound
        omega
      · have gone := apart point
        have total := points coordinate point
        rw [before, behind, next] at total
        unfold Place.Holds at total
        unfold Pass.Left Place.next
        dsimp only
        rw [holds_cons, holds_cons]
        unfold Covers at total ⊢
        rw [mergedSub] at total ⊢
        grind
    · next reached =>
      refine ⟨⟨⟨⟨merged.current.start, grows.sound.before, ⟨⟨le_rfl, grows.sound.current⟩,
        grows.sound.after⟩⟩, span.stop, more⟩, ?_⟩, fun coordinate point => ?_⟩
      · show rounds (merged.current :: merged.after) src < _
        have bound := rounds_le (merged.current :: merged.after) src
        rw [List.length_cons] at bound
        omega
      · have gone := apart point
        have total := points coordinate point
        rw [before, behind, next] at total
        unfold Place.Holds at total
        unfold Pass.Left Place.stay
        dsimp only
        rw [holds_cons]
        unfold Covers at total ⊢
        rw [mergedSub] at total ⊢
        grind
  · next nothing =>
    have none : (Subspan.subtract place.current.subspan span.subspan).2 = false :=
      Bool.eq_false_iff.mpr nothing
    refine ⟨⟨⟨⟨part.current.start, clips.sound.before, ?_⟩, span.start, ⟨⟨le_rfl, fine⟩, more⟩⟩, fewer⟩,
      fun coordinate point => ?_⟩
    · exact clips.sound.after.mono clips.sound.current.1.le
    · have gone := apart point
      rw [none] at gone
      unfold Pass.Left Place.remove
      dsimp only
      rw [before, behind, next, holds_cons]
      unfold Covers
      grind

/-- One round removes common points, or skips a span that has none. -/
theorem subtractStep_spec (sound : place.Sound) (fine : Fine span) (more : Above span.stop src) :
    ((subtractStep place span src).Aligned ∧
      rounds (subtractStep place span src).rest (subtractStep place span src).src <
        rounds (place.current :: place.after) (span :: src)) ∧
      ∀ coordinate (point : Point), (subtractStep place span src).Left coordinate point ↔
        Holds place.before coordinate point ∨
          (Covers place.current coordinate point ∨ Holds place.after coordinate point) ∧
            ¬(Covers span coordinate point ∨ Holds src coordinate point) := by
  have some := fine.1
  have full := sound.current.1
  have fewer := rounds_skip place.current place.after span src
  have later {coordinate : Int} {point : Point} (held : Holds place.after coordinate point) :
      place.current.stop ≤ coordinate := sound.after.le_of_holds held
  have laterSrc {coordinate : Int} {point : Point} (held : Holds src coordinate point) :
      span.stop ≤ coordinate := more.le_of_holds held
  unfold subtractStep
  split
  · next skips =>
    refine ⟨⟨⟨⟨place.current.start, sound.before, ⟨⟨le_rfl, sound.current⟩, sound.after⟩⟩, span.stop,
      more⟩, fewer.1⟩, fun coordinate point => ?_⟩
    unfold Pass.Left Place.stay
    dsimp only
    rw [holds_cons]
    unfold Covers
    grind
  · split
    · next overlaps passes =>
      refine ⟨⟨⟨⟨place.current.stop, ⟨⟨le_rfl, sound.current⟩, sound.before⟩, sound.after⟩, span.start,
        ⟨⟨le_rfl, fine⟩, more⟩⟩, fewer.2⟩, fun coordinate point => ?_⟩
      unfold Pass.Left Place.next
      dsimp only
      rw [holds_cons, holds_cons]
      unfold Covers
      grind
    · next begins ends => exact subtractOverlap_spec sound fine more ⟨by omega, by omega⟩

/-- All rounds remove the points of the second list, and leave the first one in order. -/
theorem subtractLoop_spec {count : Nat} {pass : Pass Sub} (aligned : pass.Aligned)
    (enough : rounds pass.rest pass.src ≤ count) :
    (∃ low, Above low (subtractLoop count pass)) ∧
      ∀ coordinate (point : Point), Holds (subtractLoop count pass) coordinate point ↔
        pass.Left coordinate point := by
  have last {pass : Pass Sub} (aligned : pass.Aligned) (done : pass.rest = [] ∨ pass.src = []) :
      (∃ low, Above low pass.dest) ∧ ∀ coordinate (point : Point),
        Holds pass.dest coordinate point ↔ pass.Left coordinate point := by
    obtain ⟨low, below, above⟩ := aligned.dest
    refine ⟨Above.reverse_append below above, fun coordinate point => ?_⟩
    unfold Pass.dest Pass.Left
    rw [holds_append, holds_reverse]
    refine or_congr_right (and_iff_left_of_imp fun inRest inSrc => ?_).symm
    rcases done with none | none
    · exact not_holds_nil (none ▸ inRest)
    · exact not_holds_nil (none ▸ inSrc)
  induction count generalizing pass with
  | zero =>
    refine last aligned (.inl (List.length_eq_zero_iff.mp ?_))
    have bound := two_mul_le_rounds pass.rest pass.src
    omega
  | succ count inductionHypothesis =>
    rw [subtractLoop]
    split
    · next current after span src first second =>
      obtain ⟨⟨low, below, above⟩, ⟨start, others⟩⟩ := aligned
      rw [first] at above enough
      rw [second] at others enough
      obtain ⟨⟨next, fewer⟩, points⟩ := @subtractStep_spec _ _ _ _ _ ⟨pass.before, current, after⟩ span
        src ⟨below.mono above.1.1, above.1.2, above.2⟩ others.1.2 others.2
      obtain ⟨inOrder, left⟩ := inductionHypothesis next (Nat.le_of_lt_succ (fewer.trans_le enough))
      refine ⟨inOrder, fun coordinate point => (left coordinate point).trans
        ((points coordinate point).trans ?_)⟩
      unfold Pass.Left
      rw [first, second, holds_cons, holds_cons]
    · next none =>
      refine last aligned ?_
      by_contra both
      rw [not_or] at both
      obtain ⟨current, after, first⟩ := List.exists_cons_of_ne_nil both.1
      obtain ⟨span, src, second⟩ := List.exists_cons_of_ne_nil both.2
      exact none current after span src first second

end Difference

/-! ### Lists of spans as sets -/

section Sets

variable [DecidableEq Sub] [Subspan Sub] {Point : Type} [LawfulSubspan Sub Point]
variable {low high : Int} {dest src : List (Span Sub)}

theorem sraSpanListOr_spec (inDest : Above low dest) (inSrc : Above high src) :
    (∃ low, Above low (sraSpanListOr dest src)) ∧
      ∀ coordinate (point : Point), Holds (sraSpanListOr dest src) coordinate point ↔
        Holds dest coordinate point ∨ Holds src coordinate point := by
  have ordered : (⟨[], dest, src⟩ : Pass Sub).Ordered :=
    ⟨min low high, trivial, inDest.mono (min_le_left _ _), inSrc.mono (min_le_right _ _)⟩
  obtain ⟨inOrder, points⟩ := orLoop_spec ordered le_rfl
  refine ⟨inOrder, fun coordinate point => (points coordinate point).trans ?_⟩
  exact or_iff_right not_holds_nil

theorem sraSpanListAnd_spec (inDest : Above low dest) (inSrc : Above high src) :
    (∃ low, Above low (sraSpanListAnd dest src).1) ∧
      ∀ coordinate (point : Point), Holds (sraSpanListAnd dest src).1 coordinate point ↔
        Holds dest coordinate point ∧ Holds src coordinate point := by
  have aligned : (⟨[], dest, src⟩ : Pass Sub).Aligned := ⟨⟨low, trivial, inDest⟩, high, inSrc⟩
  obtain ⟨inOrder, points⟩ := andLoop_spec aligned le_rfl
  refine ⟨inOrder, fun coordinate point => (points coordinate point).trans ?_⟩
  exact or_iff_right not_holds_nil

theorem sraSpanListSubtract_spec (inDest : Above low dest) (inSrc : Above high src) :
    (∃ low, Above low (sraSpanListSubtract dest src).1) ∧
      ∀ coordinate (point : Point), Holds (sraSpanListSubtract dest src).1 coordinate point ↔
        Holds dest coordinate point ∧ ¬Holds src coordinate point := by
  have aligned : (⟨[], dest, src⟩ : Pass Sub).Aligned := ⟨⟨low, trivial, inDest⟩, high, inSrc⟩
  obtain ⟨inOrder, points⟩ := subtractLoop_spec aligned le_rfl
  refine ⟨inOrder, fun coordinate point => (points coordinate point).trans ?_⟩
  exact or_iff_right not_holds_nil

omit [DecidableEq Sub] in
/-- A list that is not empty has a point. -/
theorem Above.exists_holds (above : Above low dest) (some : dest ≠ []) :
    ∃ coordinate, ∃ point : Point, Holds dest coordinate point := by
  obtain ⟨span, spans, rfl⟩ := List.exists_cons_of_ne_nil some
  obtain ⟨point, held⟩ := LawfulSubspan.some above.1.2.2
  exact ⟨span.start, point, holds_cons.mpr (.inl ⟨⟨le_rfl, above.1.2.1⟩, held⟩)⟩

omit [DecidableEq Sub] in
theorem ne_nil_of_holds {coordinate : Int} {point : Point} (held : Holds dest coordinate point) :
    dest ≠ [] := by
  rintro rfl
  exact not_holds_nil held

omit [DecidableEq Sub] [Subspan Sub] in
theorem not_isEmpty_iff : (!dest.isEmpty) = true ↔ dest ≠ [] := by
  rw [Bool.not_eq_true', List.isEmpty_eq_false_iff]

end Sets

end SpanList

/-- Nothing is below the spans of the last level. -/
instance : Subspan Unit where
  or := fun _ _ => ()
  and := fun _ _ => ((), true)
  subtract := fun _ _ => ((), false)

instance : LawfulSubspan Unit Unit where
  Holds := fun _ _ => True
  Proper := fun _ => True
  some := fun _ => ⟨(), trivial⟩
  proper_or := fun _ _ => trivial
  holds_or := fun _ _ _ => (or_self True).symm.to_iff
  proper_and := fun _ _ _ => trivial
  holds_and := fun _ _ _ => and_congr_left fun _ => iff_of_true rfl trivial
  proper_subtract := fun _ _ _ => trivial
  holds_subtract := fun _ _ _ => by simp

/-- Below a span there may be a list of spans. -/
instance {Sub : Type} [DecidableEq Sub] [Subspan Sub] : Subspan (List (Span Sub)) where
  or := SpanList.sraSpanListOr
  and := SpanList.sraSpanListAnd
  subtract := SpanList.sraSpanListSubtract

instance {Sub Point : Type} [DecidableEq Sub] [Subspan Sub] [LawfulSubspan Sub Point] :
    LawfulSubspan (List (Span Sub)) (Int × Point) where
  Holds := fun spans point => SpanList.Holds spans point.1 point.2
  Proper := fun spans => (∃ low, SpanList.Above low spans) ∧ spans ≠ []
  some := by
    rintro spans ⟨⟨low, above⟩, some⟩
    obtain ⟨coordinate, point, held⟩ := above.exists_holds some
    exact ⟨(coordinate, point), held⟩
  proper_or := by
    rintro dest src ⟨⟨low, inDest⟩, some⟩ ⟨⟨high, inSrc⟩, -⟩
    obtain ⟨inOrder, points⟩ := SpanList.sraSpanListOr_spec inDest inSrc
    obtain ⟨coordinate, point, held⟩ := inDest.exists_holds some
    exact ⟨inOrder, SpanList.ne_nil_of_holds ((points coordinate point).mpr (.inl held))⟩
  holds_or := by
    rintro dest src ⟨coordinate, point⟩ ⟨⟨low, inDest⟩, -⟩ ⟨⟨high, inSrc⟩, -⟩
    exact (SpanList.sraSpanListOr_spec inDest inSrc).2 coordinate point
  proper_and := by
    rintro dest src ⟨⟨low, inDest⟩, -⟩ ⟨⟨high, inSrc⟩, -⟩ left
    exact ⟨(SpanList.sraSpanListAnd_spec inDest inSrc).1, SpanList.not_isEmpty_iff.mp left⟩
  holds_and := by
    rintro dest src ⟨coordinate, point⟩ ⟨⟨low, inDest⟩, -⟩ ⟨⟨high, inSrc⟩, -⟩
    rw [← (SpanList.sraSpanListAnd_spec inDest inSrc).2 coordinate point]
    exact and_iff_right_of_imp fun held =>
      SpanList.not_isEmpty_iff.mpr (SpanList.ne_nil_of_holds held)
  proper_subtract := by
    rintro dest src ⟨⟨low, inDest⟩, -⟩ ⟨⟨high, inSrc⟩, -⟩ left
    exact ⟨(SpanList.sraSpanListSubtract_spec inDest inSrc).1, SpanList.not_isEmpty_iff.mp left⟩
  holds_subtract := by
    rintro dest src ⟨coordinate, point⟩ ⟨⟨low, inDest⟩, -⟩ ⟨⟨high, inSrc⟩, -⟩
    rw [← (SpanList.sraSpanListSubtract_spec inDest inSrc).2 coordinate point]
    exact and_iff_right_of_imp fun held =>
      SpanList.not_isEmpty_iff.mpr (SpanList.ne_nil_of_holds held)

end TermPlux
