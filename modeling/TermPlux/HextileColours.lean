/-
This file models how hextile encoding chooses the background and the foreground
colour of a tile: `testColours` goes through the pixels until it meets a third
colour. In a tile of one colour this is the background; in a tile of two colours
the background is the one that at least half of the pixels have.
-/

import Mathlib.Data.List.Count
import Mathlib.Data.Nat.Count
import TermPlux.Subrects

namespace TermPlux

open Subrects

/-- The variables of `testColours`. -/
structure TestColours (Pixel : Type) where
  colour1 : Pixel
  colour2 : Pixel
  n1 : Nat := 0
  n2 : Nat := 0
  mono : Bool := true
  solid : Bool := true

namespace TestColours

variable {Pixel : Type} [DecidableEq Pixel]

/-- The loop over the pixels. -/
def loop (tested : TestColours Pixel) : List Pixel → TestColours Pixel
  | [] => tested
  | pixel :: data =>
    let tested := if tested.n1 = 0 then { tested with colour1 := pixel } else tested
    if pixel = tested.colour1 then loop { tested with n1 := tested.n1 + 1 } data
    else
      let tested :=
        if tested.n2 = 0 then { tested with solid := false, colour2 := pixel } else tested
      if pixel = tested.colour2 then loop { tested with n2 := tested.n2 + 1 } data
      else { tested with mono := false }

def bg (tested : TestColours Pixel) : Pixel :=
  if tested.n1 > tested.n2 then tested.colour1 else tested.colour2

def fg (tested : TestColours Pixel) : Pixel :=
  if tested.n1 > tested.n2 then tested.colour2 else tested.colour1

/-- What holds of the variables as long as no third colour was seen. -/
structure Counts (tested : TestColours Pixel) (seen : List Pixel) : Prop where
  mono : tested.mono = true
  solid : tested.solid = true ↔ tested.n2 = 0
  length : seen.length = tested.n1 + tested.n2
  first : tested.n1 = 0 → tested.n2 = 0
  others : seen.countP (fun pixel => decide (pixel ≠ tested.colour1)) = tested.n2
  differ : 0 < tested.n2 → tested.colour1 ≠ tested.colour2
  both : ∀ pixel ∈ seen, pixel = tested.colour1 ∨ 0 < tested.n2 ∧ pixel = tested.colour2

/-- The outcome for a list of pixels: either a third colour was seen, or the pixels are counted. -/
def Outcome (tested : TestColours Pixel) (data : List Pixel) : Prop :=
  tested.mono = false ∧ tested.solid = false ∨ tested.Counts data

variable {tested : TestColours Pixel} {seen : List Pixel}

/-- One more pixel of the first colour. -/
theorem Counts.add_first (counts : tested.Counts seen) :
    ({ tested with n1 := tested.n1 + 1 } : TestColours Pixel).Counts (seen ++ [tested.colour1]) where
  mono := counts.mono
  solid := counts.solid
  length := by
    rw [List.length_append, counts.length]
    exact Nat.add_right_comm tested.n1 tested.n2 1
  first := fun none => (Nat.succ_ne_zero _ none).elim
  others := by
    rw [List.countP_append, counts.others]
    simp
  differ := counts.differ
  both := by
    intro pixel member
    rcases List.mem_append.mp member with old | new
    · exact counts.both pixel old
    · exact .inl (List.mem_singleton.mp new)

/-- One more pixel of the second colour. -/
theorem Counts.add_second (counts : tested.Counts seen) (started : tested.n1 ≠ 0)
    (more : 0 < tested.n2) :
    ({ tested with n2 := tested.n2 + 1 } : TestColours Pixel).Counts (seen ++ [tested.colour2]) where
  mono := counts.mono
  solid := iff_of_false (fun solid => more.ne' (counts.solid.mp solid)) (Nat.succ_ne_zero _)
  length := by
    rw [List.length_append, counts.length]
    exact Nat.add_assoc tested.n1 tested.n2 1
  first := fun none => (started none).elim
  others := by
    have differ := (counts.differ more).symm
    rw [List.countP_append, counts.others]
    simp [differ]
  differ := fun _ => counts.differ more
  both := by
    intro pixel member
    rcases List.mem_append.mp member with old | new
    · exact (counts.both pixel old).imp_right fun second => ⟨Nat.succ_pos _, second.2⟩
    · exact .inr ⟨Nat.succ_pos _, List.mem_singleton.mp new⟩

/-- The first pixel of a second colour. -/
theorem Counts.add_new (counts : tested.Counts seen) (started : tested.n1 ≠ 0)
    (none : tested.n2 = 0) {pixel : Pixel} (other : pixel ≠ tested.colour1) :
    ({ tested with solid := false, colour2 := pixel, n2 := tested.n2 + 1 } :
      TestColours Pixel).Counts (seen ++ [pixel]) where
  mono := counts.mono
  solid := iff_of_false Bool.false_ne_true (Nat.succ_ne_zero _)
  length := by
    rw [List.length_append, counts.length]
    exact Nat.add_assoc tested.n1 tested.n2 1
  first := fun none => (started none).elim
  others := by
    rw [List.countP_append, counts.others]
    simp [other]
  differ := fun _ => other.symm
  both := by
    intro pixel' member
    rcases List.mem_append.mp member with old | new
    · exact .inl ((counts.both pixel' old).resolve_right fun second => second.1.ne' none)
    · exact .inr ⟨Nat.succ_pos _, List.mem_singleton.mp new⟩

/-- The first pixel of all may set the first colour. -/
theorem Counts.set_first (counts : tested.Counts seen) (pixel : Pixel) :
    ((if tested.n1 = 0 then { tested with colour1 := pixel } else tested) :
      TestColours Pixel).Counts seen := by
  split
  · next none =>
    have nothing := counts.length
    rw [none, counts.first none, Nat.add_zero, List.length_eq_zero_iff] at nothing
    subst nothing
    exact ⟨counts.mono, counts.solid, counts.length, counts.first, (counts.first none).symm,
      fun more => absurd (counts.first none) more.ne', fun _ member => absurd member List.not_mem_nil⟩
  · exact counts

theorem outcome_loop (counts : tested.Counts seen) (data : List Pixel) :
    (tested.loop data).Outcome (seen ++ data) := by
  induction data generalizing tested seen with
  | nil => exact .inr ((List.append_nil seen).symm ▸ counts)
  | cons pixel data inductionHypothesis =>
    have counts := counts.set_first pixel
    rw [loop]
    dsimp only
    have set : (if tested.n1 = 0 then { tested with colour1 := pixel } else tested :
        TestColours Pixel).n1 = 0 → pixel = (if tested.n1 = 0 then
          { tested with colour1 := pixel } else tested : TestColours Pixel).colour1 := by
      split
      · exact fun _ => rfl
      · next started => exact fun none => absurd none started
    generalize (if tested.n1 = 0 then { tested with colour1 := pixel } else tested :
      TestColours Pixel) = tested at counts set
    rw [List.append_cons]
    split
    · next same =>
      rw [same]
      exact inductionHypothesis counts.add_first
    · next other =>
      have started : tested.n1 ≠ 0 := fun none => other (set none)
      by_cases none : tested.n2 = 0
      · rw [if_pos none, if_pos rfl]
        exact inductionHypothesis (counts.add_new started none other)
      · rw [if_neg none]
        split
        · next same =>
          rw [same]
          exact inductionHypothesis (counts.add_second started (Nat.pos_of_ne_zero none))
        · exact .inl ⟨rfl, Bool.eq_false_iff.mpr fun solid => none (counts.solid.mp solid)⟩

end TestColours

/-- The colours of a tile, where both variables start as zero. -/
def testColours {Pixel : Type} [DecidableEq Pixel] (zero : Pixel) (data : List Pixel) :
    TestColours Pixel :=
  TestColours.loop ⟨zero, zero, 0, 0, true, true⟩ data

namespace TestColours

variable {Pixel : Type} [DecidableEq Pixel] {zero : Pixel} {data : List Pixel}

theorem outcome_testColours (zero : Pixel) (data : List Pixel) :
    (testColours zero data).Outcome data :=
  outcome_loop ⟨rfl, iff_of_true rfl rfl, rfl, fun _ => rfl, rfl, fun absurd => absurd.false.elim,
    fun _ member => absurd member List.not_mem_nil⟩ data

/-- All pixels of a tile of one colour are of the background colour. -/
theorem bg_of_solid (solid : (testColours zero data).solid = true) :
    ∀ pixel ∈ data, pixel = (testColours zero data).bg := by
  rcases outcome_testColours zero data with third | counts
  · rw [third.2] at solid
    cases solid
  · intro pixel member
    have none := counts.solid.mp solid
    have some : 0 < (testColours zero data).n1 := by
      have length := counts.length
      have positive := List.length_pos_of_mem member
      omega
    rw [bg, none, if_pos some]
    exact (counts.both pixel member).resolve_right fun second => second.1.ne' none

/-- The pixels of a tile of two colours have the background or the foreground colour. -/
theorem bg_or_fg_of_mono (mono : (testColours zero data).mono = true) :
    ∀ pixel ∈ data, pixel = (testColours zero data).bg ∨ pixel = (testColours zero data).fg := by
  rcases outcome_testColours zero data with third | counts
  · rw [third.1] at mono
    cases mono
  · intro pixel member
    have either := (counts.both pixel member).imp_right And.right
    unfold bg fg
    split
    · exact either
    · exact either.symm

/-- At most half of the pixels of a tile of two colours differ from the background. -/
theorem countP_ne_bg (mono : (testColours zero data).mono = true) :
    2 * data.countP (fun pixel => decide (pixel ≠ (testColours zero data).bg)) ≤ data.length := by
  rcases outcome_testColours zero data with third | counts
  · rw [third.1] at mono
    cases mono
  · have length := counts.length
    have others := counts.others
    unfold bg
    split
    · omega
    · next more =>
      -- The pixels that are not of the second colour are of the first one.
      have first : data.countP (fun pixel => decide (pixel ≠ (testColours zero data).colour2)) ≤
          (testColours zero data).n1 := by
        have same := data.length_eq_countP_add_countP
          (fun pixel => decide (pixel ≠ (testColours zero data).colour1))
        have fewer : data.countP (fun pixel => decide (pixel ≠ (testColours zero data).colour2)) ≤
            data.countP fun pixel => ¬decide (pixel ≠ (testColours zero data).colour1) = true := by
          refine List.countP_mono_left fun pixel member different => ?_
          rw [decide_eq_true_iff] at different
          have one := (counts.both pixel member).resolve_right fun second => different second.2
          simp [one]
        omega
      omega

/-- The pixels of a tile that differ from its background. -/
theorem foreground_eq_countP (data : List Pixel) (zero bg : Pixel) {w h : Nat}
    (length : data.length = w * h) :
    foreground (fun index => data.getD index zero) bg w h =
      data.countP fun pixel => decide (pixel ≠ bg) := by
  unfold foreground
  rw [← length]
  clear length
  induction data with
  | nil => rfl
  | cons pixel rest inductionHypothesis =>
    rw [List.length_cons, Nat.count_succ', List.countP_cons]
    simp only [List.getD_cons_succ, List.getD_cons_zero, decide_eq_true_eq]
    rw [inductionHypothesis]

theorem two_mul_foreground_le (mono : (testColours zero data).mono = true) {w h : Nat}
    (length : data.length = w * h) :
    2 * foreground (fun index => data.getD index zero) (testColours zero data).bg w h ≤ w * h := by
  rw [foreground_eq_countP data zero _ length, ← length]
  exact countP_ne_bg mono

end TestColours

end TermPlux
