/-
This file is a library for tables of numbers. Bisection finds an index that holds a
key wherever one does, because the keys are sorted, and reads no index outside of
the range it searches. A list of numbers is told to be without repetition by
marking each number in a mask.
-/

import Mathlib.Algebra.Group.Nat.Defs
import Mathlib.Data.List.Basic
import Mathlib.Order.Defs.LinearOrder
import Mathlib.Order.Lattice

namespace TermPlux.SearchTable

/-! ### Bisection -/

variable {Key : Type} [LinearOrder Key]

/-- Halves the range of the indices until the key is found. -/
def bisect (keyAt : Int → Key) (key : Key) (low high : Int) : Option Int :=
  if low ≤ high then
    let mid := (low + high) / 2
    if key = keyAt mid then some mid
    else if key < keyAt mid then bisect keyAt key low (mid - 1)
    else bisect keyAt key (mid + 1) high
  else none
termination_by (high + 1 - low).toNat
decreasing_by all_goals omega

variable {keyAt : Int → Key} {key : Key} {low high index : Int}

/-- The middle of a range is within it. -/
theorem mid_within (ordered : low ≤ high) :
    low ≤ (low + high) / 2 ∧ (low + high) / 2 ≤ high := by
  omega

theorem bisect_of_hit (ordered : low ≤ high) (hit : key = keyAt ((low + high) / 2)) :
    bisect keyAt key low high = some ((low + high) / 2) := by
  unfold bisect
  rw [if_pos ordered]
  exact if_pos hit

theorem bisect_of_below (ordered : low ≤ high) (miss : key ≠ keyAt ((low + high) / 2))
    (below : key < keyAt ((low + high) / 2)) :
    bisect keyAt key low high = bisect keyAt key low ((low + high) / 2 - 1) := by
  rw [bisect, if_pos ordered]
  exact (if_neg miss).trans (if_pos below)

theorem bisect_of_above (ordered : low ≤ high) (miss : key ≠ keyAt ((low + high) / 2))
    (above : ¬key < keyAt ((low + high) / 2)) :
    bisect keyAt key low high = bisect keyAt key ((low + high) / 2 + 1) high := by
  rw [bisect, if_pos ordered]
  exact (if_neg miss).trans (if_neg above)

theorem bisect_of_crossed (crossed : ¬low ≤ high) : bisect keyAt key low high = none := by
  rw [bisect, if_neg crossed]

/-- A found index lies in the range and holds the key. -/
theorem bisect_sound (found : bisect keyAt key low high = some index) :
    (low ≤ index ∧ index ≤ high) ∧ keyAt index = key := by
  fun_induction bisect keyAt key low high with
  | case1 low high ordered mid hit =>
    rw [← Option.some.inj found]
    exact ⟨mid_within ordered, hit.symm⟩
  | case2 low high ordered mid miss below inductionHypothesis =>
    obtain ⟨⟨above, under⟩, holds⟩ := inductionHypothesis found
    have middle := (mid_within ordered).2
    exact ⟨⟨above, by omega⟩, holds⟩
  | case3 low high ordered mid miss above inductionHypothesis =>
    obtain ⟨⟨beyond, under⟩, holds⟩ := inductionHypothesis found
    have middle := (mid_within ordered).1
    exact ⟨⟨by omega, under⟩, holds⟩
  | case4 low high crossed => cases found

/-- A key that an index of the range holds is found, as the keys are sorted. -/
theorem bisect_complete
    (sorted : ∀ first second, low ≤ first → first ≤ second → second ≤ high →
      keyAt first ≤ keyAt second)
    (within : low ≤ index ∧ index ≤ high) (holds : keyAt index = key) :
    (bisect keyAt key low high).isSome := by
  fun_induction bisect keyAt key low high with
  | case1 low high ordered mid hit => rfl
  | case2 low high ordered mid miss below inductionHypothesis =>
    have middle := mid_within ordered
    have before : index < mid := by
      by_contra behind
      have later := sorted mid index middle.1 (Int.not_lt.mp behind) within.2
      rw [holds] at later
      exact absurd below (not_lt.mpr later)
    refine inductionHypothesis (fun first second above order under => ?_)
      ⟨within.1, by omega⟩
    exact sorted first second above order (by omega)
  | case3 low high ordered mid miss above inductionHypothesis =>
    have middle := mid_within ordered
    have behind : mid < index := by
      by_contra before
      have earlier := sorted index mid within.1 (Int.not_lt.mp before) middle.2
      rw [holds] at earlier
      exact above (lt_of_le_of_ne earlier miss)
    refine inductionHypothesis (fun first second beyond order under => ?_)
      ⟨by omega, within.2⟩
    exact sorted first second (by omega) order under
  | case4 low high crossed => omega

/-! ### Arrays of pairs -/

/-- The pairs that an array with a stride of two holds. -/
def pairs {Entry : Type} : List Entry → List (Entry × Entry)
  | first :: second :: rest => (first, second) :: pairs rest
  | _ => []

theorem getElem?_of_pairs {Entry : Type} : ∀ {entries : List Entry} {row : Nat}
    {pair : Entry × Entry}, (pairs entries)[row]? = some pair →
      entries[row * 2]? = some pair.1 ∧ entries[row * 2 + 1]? = some pair.2
  | first :: second :: rest, 0, pair, found => by
    obtain rfl := Option.some.inj found
    exact ⟨rfl, rfl⟩
  | first :: second :: rest, row + 1, pair, found => by
    rw [Nat.succ_mul]
    exact @getElem?_of_pairs Entry rest row pair found

/-! ### Marked numbers -/

/-- Marks the numbers one after another, unless one is marked already. -/
def markAll (marked : Nat) : List Nat → Option Nat
  | [] => some marked
  | number :: rest =>
    if marked.testBit number then none else markAll (marked ||| 2 ^ number) rest

theorem nodup_of_markAll {numbers : List Nat} {marked : Nat}
    (succeeds : (markAll marked numbers).isSome) :
    numbers.Nodup ∧ ∀ number ∈ numbers, marked.testBit number = false := by
  induction numbers generalizing marked with
  | nil => exact ⟨List.nodup_nil, fun _ member => (List.not_mem_nil member).elim⟩
  | cons number rest inductionHypothesis =>
    unfold markAll at succeeds
    split at succeeds
    · cases succeeds
    next unmarked =>
      obtain ⟨distinct, others⟩ := inductionHypothesis succeeds
      have apart (other : Nat) (member : other ∈ rest) :
          marked.testBit other = false ∧ number ≠ other := by
        have bits := others other member
        rw [Nat.testBit_or, Bool.or_eq_false_iff, Nat.testBit_two_pow] at bits
        exact ⟨bits.1, of_decide_eq_false bits.2⟩
      refine ⟨List.nodup_cons.mpr ⟨fun member => (apart number member).2 rfl, distinct⟩, ?_⟩
      intro other member
      rcases List.mem_cons.mp member with rfl | later
      · exact Bool.eq_false_iff.mpr unmarked
      · exact (apart other later).1

end TermPlux.SearchTable
