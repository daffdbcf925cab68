/-
This file is the library for grids in row-major order: intervals of integers and
what is left of them between two bounds, the cells of a grid, and the number of a
cell. Two nested counting loops whose body skips some rows and columns run
through the cells of the grid that is left.
-/

import Mathlib.Data.Int.Range
import Mathlib.Data.List.ProdSigma
import TermPlux.CLoops

namespace TermPlux.RowMajor

open CLoops

/-! ### Intervals -/

theorem range_succ {low high : Int} (ordered : low ≤ high) :
    Int.range low (high + 1) = Int.range low high ++ [high] := by
  have next : (high + 1 - low).toNat = (high - low).toNat + 1 := by omega
  unfold Int.range
  rw [next, List.range_succ, List.map_append, List.map_singleton, Int.toNat_of_nonneg (by omega)]
  congr 2
  omega

theorem range_of_le {low high : Int} (empty : high ≤ low) : Int.range low high = [] := by
  unfold Int.range
  rw [Int.toNat_of_nonpos (by omega)]
  rfl

theorem length_range (low high : Int) : (Int.range low high).length = (high - low).toNat := by
  unfold Int.range
  rw [List.length_map, List.length_range]

theorem getElem?_range {low high value : Int} (within : low ≤ value ∧ value < high) :
    (Int.range low high)[(value - low).toNat]? = some value := by
  unfold Int.range
  rw [List.getElem?_map, List.getElem?_range (by omega), Option.map_some]
  congr 1
  omega

theorem head?_range {low high : Int} (ordered : low < high) :
    (Int.range low high).head? = some low := by
  have first := @getElem?_range low high low ⟨le_rfl, ordered⟩
  rwa [Int.sub_self, Int.toNat_zero, ← List.head?_eq_getElem?] at first

theorem getLast?_range {low high : Int} (ordered : low < high) :
    (Int.range low high).getLast? = some (high - 1) := by
  have snoc := @range_succ low (high - 1) (by omega)
  rw [Int.sub_add_cancel] at snoc
  rw [snoc, List.getLast?_concat]

/-- What is left of an interval between two bounds. -/
theorem filter_range (low : Int) (count : Nat) (first last : Int) :
    (Int.range low (low + count)).filter (fun value => decide (first ≤ value ∧ value < last)) =
      Int.range (max low first) (min (low + count) last) := by
  induction count with
  | zero =>
    rw [range_of_le (by omega), range_of_le (by omega)]
    rfl
  | succ count inductionHypothesis =>
    have next : low + ((count + 1 : Nat) : Int) = low + count + 1 := by omega
    rw [next, range_succ (by omega), List.filter_append, inductionHypothesis]
    rcases lt_or_ge (low + count) first with before | started
    · rw [List.filter_cons_of_neg (by simp; omega), range_of_le (by omega),
        range_of_le (by omega)]
      rfl
    · rcases lt_or_ge (low + count) last with running | ended
      · have upper : min (low + count + 1) last = min (low + count) last + 1 := by omega
        have value : min (low + count) last = low + count := by omega
        rw [List.filter_cons_of_pos (by simp; omega), upper, range_succ (by omega), value]
        rfl
      · have upper : min (low + count + 1) last = min (low + count) last := by omega
        rw [List.filter_cons_of_neg (by simp; omega), upper]
        exact List.append_nil _

/-! ### Cells -/

variable {Row Column : Type}

theorem filter_product (rows : List Row) (columns : List Column) (row : Row → Bool)
    (column : Column → Bool) :
    (rows ×ˢ columns).filter (fun cell => row cell.1 && column cell.2) =
      rows.filter row ×ˢ columns.filter column := by
  induction rows with
  | nil => rfl
  | cons first rows inductionHypothesis =>
    rw [List.product_cons, List.filter_append, inductionHypothesis, List.filter_map]
    cases kept : row first with
    | true =>
      have same : (fun cell : Row × Column => row cell.1 && column cell.2) ∘ Prod.mk first =
          column := funext fun other => (congrArg (· && column other) kept).trans (Bool.true_and _)
      rw [List.filter_cons_of_pos kept, List.product_cons, same]
    | false =>
      have none : (fun cell : Row × Column => row cell.1 && column cell.2) ∘ Prod.mk first =
          fun _ => false :=
        funext fun other => (congrArg (· && column other) kept).trans (Bool.false_and _)
      rw [List.filter_cons_of_neg (Bool.eq_false_iff.mp kept), none,
        List.filter_eq_nil_iff.mpr fun _ _ => Bool.false_ne_true]
      rfl

theorem map_product {Row' Column' : Type} (rows : List Row) (columns : List Column)
    (row : Row → Row') (column : Column → Column') :
    (rows ×ˢ columns).map (Prod.map row column) = rows.map row ×ˢ columns.map column := by
  induction rows with
  | nil => rfl
  | cons first rows inductionHypothesis =>
    rw [List.product_cons, List.map_append, inductionHypothesis, List.map_cons,
      List.product_cons, List.map_map, List.map_map]
    rfl

/-- The number of a cell is counted row by row. -/
theorem getElem?_product {rows : List Row} {columns : List Column} {row : Row} {column : Column}
    {y x : Nat} (rowAt : rows[y]? = some row) (columnAt : columns[x]? = some column) :
    (rows ×ˢ columns)[y * columns.length + x]? = some (row, column) := by
  have narrow : x < columns.length := (List.getElem?_eq_some_iff.mp columnAt).1
  induction rows generalizing y with
  | nil => cases rowAt
  | cons first rows inductionHypothesis =>
    rw [List.product_cons]
    cases y with
    | zero =>
      cases rowAt
      rw [Nat.zero_mul, Nat.zero_add, List.getElem?_append_left (by rwa [List.length_map]),
        List.getElem?_map, columnAt]
      rfl
    | succ y =>
      have later : (y + 1) * columns.length + x - columns.length = y * columns.length + x := by
        rw [Nat.add_mul, Nat.one_mul]
        omega
      rw [List.getElem?_append_right (by rw [List.length_map, Nat.add_mul]; omega),
        List.length_map, later]
      exact inductionHypothesis rowAt

theorem head?_product {rows : List Row} {columns : List Column} {row : Row} {column : Column}
    (rowAt : rows.head? = some row) (columnAt : columns.head? = some column) :
    (rows ×ˢ columns).head? = some (row, column) := by
  rw [List.head?_eq_getElem?] at *
  have first := getElem?_product rowAt columnAt
  rwa [Nat.zero_mul] at first

theorem getLast?_product {rows : List Row} {columns : List Column} {row : Row} {column : Column}
    (rowAt : rows.getLast? = some row) (columnAt : columns.getLast? = some column) :
    (rows ×ˢ columns).getLast? = some (row, column) := by
  have someRow : 0 < rows.length := List.length_pos_of_mem (List.mem_of_getLast? rowAt)
  have someColumn : 0 < columns.length := List.length_pos_of_mem (List.mem_of_getLast? columnAt)
  rw [List.getLast?_eq_getElem?] at *
  have last := getElem?_product rowAt columnAt
  rw [List.length_product]
  have count : rows.length * columns.length - 1 =
      (rows.length - 1) * columns.length + (columns.length - 1) := by
    rw [Nat.sub_mul, Nat.one_mul]
    have some : columns.length ≤ rows.length * columns.length := Nat.le_mul_of_pos_left _ someRow
    omega
  rw [count]
  exact last

/-- A buffer that is filled from its start takes its next entry. -/
theorem set_filled {Entry : Type} {entries buffer : List Entry} (entry : Entry)
    (room : entries.length < buffer.length) :
    (entries ++ buffer.drop entries.length).set entries.length entry =
      (entries ++ [entry]) ++ buffer.drop (entries.length + 1) := by
  rw [List.drop_eq_getElem_cons room, List.set_append_right _ _ (Nat.le_refl _), Nat.sub_self,
    List.set_cons_zero, List.append_assoc, List.singleton_append]

/-! ### Loops -/

theorem forLoop_eq_foldl {State : Type} (count : Nat) (body : State → Nat → State)
    (state : State) : forLoop count body state = (List.range count).foldl body state := by
  induction count with
  | zero => rfl
  | succ count inductionHypothesis =>
    rw [List.range_succ, List.foldl_append, ← inductionHypothesis]
    rfl

/-- Two nested loops run through the cells that their body does not skip. -/
theorem forLoop_forLoop {State : Type} (height width : Nat) (row column : Nat → Bool)
    (body : State → Nat × Nat → State) (state : State) :
    forLoop height (fun outer y => forLoop width
        (fun inner x => if row y && column x then body inner (y, x) else inner) outer) state =
      ((List.range height).filter row ×ˢ (List.range width).filter column).foldl body state := by
  rw [← filter_product, List.foldl_filter, forLoop_eq_foldl]
  show _ = ((List.range height).flatMap fun y => (List.range width).map (Prod.mk y)).foldl _ state
  rw [List.foldl_flatMap]
  congr 1
  funext outer y
  rw [forLoop_eq_foldl, List.foldl_map]

end TermPlux.RowMajor
