/-
This file proves that the binary search for older keysyms is right. The characters
of the table are sorted, with repetitions, and the search only reads the array
inside of its bounds, so it finds a row of a character wherever there is one. The
older keysyms are without repetition, and none is the keysym that a character has
by the formula, so in compatibility mode different characters have different
keysyms.
-/

import Mathlib
import TermPlux.FakeShift
import TermPlux.SearchTable

namespace TermPlux

namespace XKeySymUnicode

open SearchTable

/-! ### Reads of the array -/

/-- A read of the array, which throws when the index is out of bounds. -/
def read (index : Int) : Option Int :=
  if index < 0 then none else UnicodeToLegacyKeysym[index.toNat]?

/-- The binary search with the reads it makes. -/
def searchReading (uChar low high : Int) : Option Int :=
  if low ≤ high then
    let mid := (low + high) / 2
    (read (mid * 2)).bind fun midChar =>
      if uChar = midChar then read (mid * 2 + 1)
      else if uChar < midChar then searchReading uChar low (mid - 1)
      else searchReading uChar (mid + 1) high
  else some 0
termination_by (high + 1 - low).toNat
decreasing_by all_goals omega

def getLegacyKeySymReading (uChar : Int) : Option Int :=
  (read 0).bind fun first =>
    (read (UnicodeToLegacyKeysym.length - 2)).bind fun last =>
      if uChar < first ∨ last < uChar then some 0
      else searchReading uChar 0 (UnicodeToLegacyKeysym.length / 2 - 1)

/-! ### The rows -/

def rows : List (Int × Int) := pairs UnicodeToLegacyKeysym

theorem length_rows : rows.length = 754 := by decide +kernel

theorem length_table : UnicodeToLegacyKeysym.length = 1508 := by decide +kernel

set_option maxRecDepth 8000 in
theorem rows_isChain : (rows.map Prod.fst).IsChain (· ≤ ·) := by decide +kernel

set_option maxRecDepth 8000 in
theorem rows_bounds : ∀ row ∈ rows, 0x100 ≤ row.1 ∧ 0x100 ≤ row.2 ∧ row.2 ≤ 0xfffe := by
  decide +kernel

set_option maxRecDepth 8000 in
theorem markAll_rows : (markAll 0 (rows.map fun row => row.2.toNat)).isSome := by decide +kernel

theorem nodup_keysyms : (rows.map fun row => row.2.toNat).Nodup :=
  (nodup_of_markAll markAll_rows).1

/-- A row of the table is the only one with its keysym. -/
theorem row_of_keysym {first second : Int × Int} (member : first ∈ rows) (other : second ∈ rows)
    (same : first.2 = second.2) : first = second :=
  List.inj_on_of_nodup_map nodup_keysyms member other (congrArg Int.toNat same)

theorem read_eq {index : Int} (above : 0 ≤ index) (below : index < 1508) :
    read index = some (entry index) := by
  have inside : index.toNat < UnicodeToLegacyKeysym.length := by
    rw [length_table]
    omega
  unfold read entry
  rw [if_neg (Int.not_lt.mpr above), List.getD_eq_getElem?_getD, List.getElem?_eq_getElem inside,
    Option.getD_some]

/-- A row is two entries of the array. -/
theorem rows_getElem? {row : Int} (above : 0 ≤ row) (below : row < 754) :
    rows[row.toNat]? = some (entry (row * 2), entry (row * 2 + 1)) := by
  have inside : row.toNat < rows.length := by
    rw [length_rows]
    omega
  have found := List.getElem?_eq_getElem inside
  obtain ⟨first, second⟩ := getElem?_of_pairs found
  unfold entry
  rw [show (row * 2).toNat = row.toNat * 2 by omega,
    show (row * 2 + 1).toNat = row.toNat * 2 + 1 by omega, List.getD_eq_getElem?_getD,
    List.getD_eq_getElem?_getD, first, second]
  exact found

theorem entry_row_mem {row : Int} (above : 0 ≤ row) (below : row < 754) :
    (entry (row * 2), entry (row * 2 + 1)) ∈ rows :=
  List.mem_of_getElem? (rows_getElem? above below)

/-- The characters of the rows are sorted. -/
theorem entry_sorted {first second : Int} (above : 0 ≤ first) (order : first ≤ second)
    (below : second < 754) : entry (first * 2) ≤ entry (second * 2) := by
  have earlier := congrArg (Option.map Prod.fst) (rows_getElem? above (by omega))
  have later := congrArg (Option.map Prod.fst)
    (rows_getElem? (by omega) below)
  rw [← List.getElem?_map] at earlier later
  rcases order.lt_or_eq with before | rfl
  · obtain ⟨inside, first⟩ := List.getElem?_eq_some_iff.mp earlier
    obtain ⟨inside', second⟩ := List.getElem?_eq_some_iff.mp later
    have sorted := List.pairwise_iff_getElem.mp (List.isChain_iff_pairwise.mp rows_isChain)
      _ _ inside inside' (by omega)
    rwa [first, second] at sorted
  · exact le_rfl

/-- Every row is two entries of the array. -/
theorem exists_row_of_mem {row : Int × Int} (member : row ∈ rows) :
    ∃ index, (0 ≤ index ∧ index ≤ 753) ∧ entry (index * 2) = row.1 := by
  obtain ⟨index, found⟩ := List.mem_iff_getElem?.mp member
  obtain ⟨inside, -⟩ := List.getElem?_eq_some_iff.mp found
  rw [length_rows] at inside
  have same := @rows_getElem? index (Int.natCast_nonneg index) (by omega)
  rw [Int.toNat_natCast, found] at same
  exact ⟨index, ⟨Int.natCast_nonneg index, by omega⟩, by rw [Option.some.inj same]⟩

/-! ### The search -/

/-- The binary search bisects the rows. -/
theorem search_eq (uChar low high : Int) :
    search uChar low high =
      match bisect (fun row => entry (row * 2)) uChar low high with
      | some row => entry (row * 2 + 1)
      | none => 0 := by
  fun_induction search uChar low high with
  | case1 low high ordered mid hit => rw [bisect_of_hit ordered hit]
  | case2 low high ordered mid miss below inductionHypothesis =>
    rw [bisect_of_below ordered miss below]
    exact inductionHypothesis
  | case3 low high ordered mid miss above inductionHypothesis =>
    rw [bisect_of_above ordered miss above]
    exact inductionHypothesis
  | case4 low high crossed => rw [bisect_of_crossed crossed]

/-- One round of the search inside of the array reads a character and compares. -/
theorem searchReading_of_ordered {uChar low high : Int} (ordered : low ≤ high) (above : 0 ≤ low)
    (below : high < 754) :
    searchReading uChar low high =
      if uChar = entry ((low + high) / 2 * 2) then some (entry ((low + high) / 2 * 2 + 1))
      else if uChar < entry ((low + high) / 2 * 2) then
        searchReading uChar low ((low + high) / 2 - 1)
      else searchReading uChar ((low + high) / 2 + 1) high := by
  have middle := mid_within ordered
  rw [searchReading, if_pos ordered]
  dsimp only
  rw [read_eq (by omega) (by omega), Option.bind_some, read_eq (by omega) (by omega)]

/-- Every read of the search is inside of the array. -/
theorem searchReading_eq {uChar low high : Int} (above : 0 ≤ low) (below : high < 754) :
    searchReading uChar low high = some (search uChar low high) := by
  fun_induction search uChar low high with
  | case1 low high ordered mid hit =>
    rw [searchReading_of_ordered ordered above below, if_pos hit]
  | case2 low high ordered mid miss under inductionHypothesis =>
    have middle := mid_within ordered
    rw [searchReading_of_ordered ordered above below, if_neg miss, if_pos under]
    exact inductionHypothesis above (by omega)
  | case3 low high ordered mid miss beyond inductionHypothesis =>
    have middle := mid_within ordered
    rw [searchReading_of_ordered ordered above below, if_neg miss, if_neg beyond]
    exact inductionHypothesis (by omega) below
  | case4 low high crossed => rw [searchReading, if_neg crossed]

theorem getLegacyKeySymReading_eq (uChar : Int) :
    getLegacyKeySymReading uChar = some (getLegacyKeySymForUnicodeChar uChar) := by
  unfold getLegacyKeySymReading getLegacyKeySymForUnicodeChar
  rw [length_table, read_eq (by omega) (by omega), Option.bind_some,
    read_eq (by omega) (by omega), Option.bind_some]
  split
  · rfl
  · exact searchReading_eq (by omega) (by omega)

/-- The keysym that is found is that of a row of the character, and none is found where no row
has the character. -/
theorem legacyKeySym_cases (uChar : Int) :
    (uChar, getLegacyKeySymForUnicodeChar uChar) ∈ rows ∨
      (getLegacyKeySymForUnicodeChar uChar = 0 ∧ ∀ row ∈ rows, row.1 ≠ uChar) := by
  unfold getLegacyKeySymForUnicodeChar
  rw [length_table]
  split
  next outside =>
    refine .inr ⟨rfl, fun row member same => ?_⟩
    obtain ⟨index, within, holds⟩ := exists_row_of_mem member
    have least := entry_sorted (Int.le_refl 0) within.1 (by omega)
    have greatest := entry_sorted within.1 within.2 (by omega)
    rw [holds, same] at least greatest
    rcases outside with below | above
    · exact absurd below (Int.not_lt.mpr least)
    · exact absurd above (Int.not_lt.mpr greatest)
  next =>
    rw [search_eq]
    cases found : bisect (fun row => entry (row * 2)) uChar 0 (1508 / 2 - 1) with
    | some index =>
      obtain ⟨within, holds⟩ := bisect_sound found
      rw [← holds]
      exact .inl (entry_row_mem within.1 (by omega))
    | none =>
      refine .inr ⟨rfl, fun row member same => ?_⟩
      obtain ⟨index, within, holds⟩ := exists_row_of_mem member
      have finds := @bisect_complete Int _ (fun row => entry (row * 2)) uChar 0 753 index
        (fun _ _ above order below => entry_sorted above order (by omega)) within
        (holds.trans same)
      rw [show (753 : Int) = 1508 / 2 - 1 by rfl, found] at finds
      cases finds

end XKeySymUnicode

namespace KeyHandler

open XKeySymUnicode

/-- The keysym of a character by the formula is none of the older ones. -/
theorem keySym_outside {uChar : Int} (unicode : 0 ≤ uChar) {row : Int × Int}
    (member : row ∈ rows) : getKeySymForUnicodeChar uChar ≠ row.2 := by
  have bounds := rows_bounds row member
  unfold getKeySymForUnicodeChar
  split <;> omega

theorem keySym_injective : Function.Injective getKeySymForUnicodeChar := by
  intro first second same
  unfold getKeySymForUnicodeChar at same
  split at same <;> split at same <;> omega

variable {handler : KeyHandler}

/-- In compatibility mode a character has the keysym of one of its rows, or that of the
formula. -/
theorem uKeySym_cases (legacy : handler.cfLegacyKeysym = true) (uChar : Int) :
    (uChar, handler.uKeySym uChar) ∈ rows ∨
      handler.uKeySym uChar = getKeySymForUnicodeChar uChar := by
  unfold uKeySym
  by_cases none : getLegacyKeySymForUnicodeChar uChar = 0
  · exact .inr (if_neg fun found => found.2 none)
  · rw [if_pos ⟨legacy, none⟩]
    exact (legacyKeySym_cases uChar).imp_right fun missing => absurd missing.1 none

theorem uKeySym_injOn (legacy : handler.cfLegacyKeysym = true) :
    Set.InjOn handler.uKeySym (Set.Icc 0 0x10FFFF) := by
  intro first firstUnicode second secondUnicode same
  rcases uKeySym_cases legacy first with row | formula
  · rcases uKeySym_cases legacy second with other | formula
    · exact congrArg Prod.fst (row_of_keysym row other same)
    · exact absurd (formula.symm.trans same.symm) (keySym_outside secondUnicode.1 row)
  · rcases uKeySym_cases legacy second with row | formula'
    · exact absurd (formula.symm.trans same) (keySym_outside firstUnicode.1 row)
    · exact keySym_injective (formula.symm.trans (same.trans formula'))

/-- For every character the binary search ends with all reads in bounds and finds the keysym of
a row wherever there is one; and in compatibility mode different code points have different
keysyms. -/
theorem legacyKeySym_correct (handler : KeyHandler) (legacy : handler.cfLegacyKeysym = true) :
    (∀ uChar : Int,
        getLegacyKeySymReading uChar = some (getLegacyKeySymForUnicodeChar uChar) ∧
          (getLegacyKeySymForUnicodeChar uChar = 0 ↔ ∀ row ∈ rows, row.1 ≠ uChar) ∧
          (getLegacyKeySymForUnicodeChar uChar ≠ 0 →
            (uChar, getLegacyKeySymForUnicodeChar uChar) ∈ rows)) ∧
      Set.InjOn handler.uKeySym (Set.Icc 0 0x10FFFF) := by
  refine ⟨fun uChar => ⟨getLegacyKeySymReading_eq uChar, ?_⟩, uKeySym_injOn legacy⟩
  rcases legacyKeySym_cases uChar with row | ⟨none, missing⟩
  · have some : getLegacyKeySymForUnicodeChar uChar ≠ 0 := by
      have bounds := (rows_bounds _ row).2.1
      omega
    exact ⟨iff_of_false some fun missing => missing _ row rfl, fun _ => row⟩
  · exact ⟨iff_of_true none missing, fun some => absurd none some⟩

/-- The euro sign has two rows, and the search finds one of them. -/
theorem legacyKeySym_correct_euro :
    (0x20AC, getLegacyKeySymForUnicodeChar 0x20AC) ∈ rows ∧
      KeyHandler.legacy.uKeySym 0x20AC ≠ KeyHandler.legacy.uKeySym 0x20AD := by
  obtain ⟨search, distinct⟩ := legacyKeySym_correct .legacy rfl
  refine ⟨(search 0x20AC).2.2 (by decide +kernel), fun same => ?_⟩
  have equal : (0x20AC : Int) = 0x20AD := distinct ⟨by decide, by decide⟩ ⟨by decide, by decide⟩ same
  cases equal

end KeyHandler

end TermPlux
