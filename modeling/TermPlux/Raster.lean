/-
This file is the library of rasters: tables of pixels in row-major order, and
nested loops that assign the pixels of a rectangle, row by row and column by
column, upwards or downwards. Where no assignment is read by a later one, every
pixel of the rectangle gets the value that it has for the table before the loops.
-/

import Mathlib.Data.List.Basic
import Mathlib.Logic.Function.Basic
import Mathlib.Tactic.Common

namespace TermPlux.Raster

variable {Pixel : Type}

/-! ### Loops of assignments -/

/-- The values of a counter that runs up from zero, or down to it. -/
def counting (down : Bool) (count : Nat) : List Nat :=
  if down then (List.range count).reverse else List.range count

theorem mem_counting {down : Bool} {count index : Nat} :
    index ∈ counting down count ↔ index < count := by
  unfold counting
  split
  · rw [List.mem_reverse, List.mem_range]
  · rw [List.mem_range]

/-- A later value of the counter is farther on. -/
def Later (down : Bool) (earlier later : Nat) : Prop :=
  if down then later < earlier else earlier < later

theorem pairwise_counting (down : Bool) (count : Nat) :
    (counting down count).Pairwise (Later down) := by
  cases down with
  | false => exact List.pairwise_lt_range
  | true => exact List.pairwise_reverse.mpr List.pairwise_lt_range

theorem Later.ne {down : Bool} {earlier later : Nat} (order : Later down earlier later) :
    earlier ≠ later := by
  unfold Later at order
  split at order
  · exact Nat.ne_of_gt order
  · exact Nat.ne_of_lt order

/-- The cells that two nested loops run through, rows outside. -/
def cells (rowsDown columnsDown : Bool) (height width : Nat) : List (Nat × Nat) :=
  (counting rowsDown height).flatMap fun row =>
    (counting columnsDown width).map fun column => (row, column)

theorem mem_cells {rowsDown columnsDown : Bool} {height width : Nat} {cell : Nat × Nat} :
    cell ∈ cells rowsDown columnsDown height width ↔ cell.1 < height ∧ cell.2 < width := by
  unfold cells
  rw [List.mem_flatMap]
  constructor
  · rintro ⟨row, inRows, inCells⟩
    obtain ⟨column, inColumns, rfl⟩ := List.mem_map.mp inCells
    exact ⟨mem_counting.mp inRows, mem_counting.mp inColumns⟩
  · rintro ⟨low, left⟩
    exact ⟨cell.1, mem_counting.mpr low, List.mem_map.mpr ⟨cell.2, mem_counting.mpr left, rfl⟩⟩

/-- A later cell is in a later row, or farther on in the same row. -/
theorem pairwise_cells (rowsDown columnsDown : Bool) (height width : Nat) :
    (cells rowsDown columnsDown height width).Pairwise fun earlier later =>
      Later rowsDown earlier.1 later.1 ∨
        earlier.1 = later.1 ∧ Later columnsDown earlier.2 later.2 := by
  unfold cells
  rw [List.pairwise_flatMap]
  refine ⟨fun row _ => ?_, ?_⟩
  · exact List.pairwise_map.mpr ((pairwise_counting columnsDown width).imp fun order =>
      .inr ⟨rfl, order⟩)
  · refine (pairwise_counting rowsDown height).imp fun order => ?_
    intro earlier inEarlier later inLater
    obtain ⟨_, _, rfl⟩ := List.mem_map.mp inEarlier
    obtain ⟨_, _, rfl⟩ := List.mem_map.mp inLater
    exact .inl order

/-- Two nested loops, rows outside. -/
def loops {State : Type} (rowsDown columnsDown : Bool) (height width : Nat)
    (body : State → Nat → Nat → State) (state : State) : State :=
  (counting rowsDown height).foldl (fun outer row =>
    (counting columnsDown width).foldl (fun inner column => body inner row column) outer) state

/-- The loops run through the cells. -/
theorem loops_eq_foldl {State : Type} (rowsDown columnsDown : Bool) (height width : Nat)
    (body : State → Nat → Nat → State) (state : State) :
    loops rowsDown columnsDown height width body state =
      (cells rowsDown columnsDown height width).foldl
        (fun current cell => body current cell.1 cell.2) state := by
  unfold loops cells
  rw [List.foldl_flatMap]
  congr 1
  funext outer row
  rw [List.foldl_map]

/-- Two nested loops that assign a pixel for each cell. -/
def assign (rowsDown columnsDown : Bool) (height width : Nat) (index : Nat → Nat → Nat)
    (value : (Nat → Pixel) → Nat → Nat → Pixel) (table : Nat → Pixel) : Nat → Pixel :=
  loops rowsDown columnsDown height width
    (fun current row column =>
      Function.update current (index row column) (value current row column)) table

/-- Assignments that do not disturb each other: each slot gets the value that it has for the table
before them, and the other slots are left alone. -/
theorem foldl_update {Item : Type} {items : List Item} (slot : Item → Nat)
    (value : (Nat → Pixel) → Item → Pixel) (table : Nat → Pixel)
    (apart : items.Pairwise fun earlier later => slot earlier ≠ slot later ∧
      ∀ current pixel, value (Function.update current (slot earlier) pixel) later =
        value current later) :
    (∀ item ∈ items, items.foldl (fun current item =>
        Function.update current (slot item) (value current item)) table (slot item) =
          value table item) ∧
      ∀ index, (∀ item ∈ items, slot item ≠ index) → items.foldl (fun current item =>
        Function.update current (slot item) (value current item)) table index = table index := by
  induction items generalizing table with
  | nil => exact ⟨fun _ member => absurd member List.not_mem_nil, fun _ _ => rfl⟩
  | cons first rest inductionHypothesis =>
    obtain ⟨ahead, others⟩ := List.pairwise_cons.mp apart
    obtain ⟨assigned, kept⟩ := inductionHypothesis
      (Function.update table (slot first) (value table first)) others
    constructor
    · intro item member
      rcases List.mem_cons.mp member with rfl | member
      · rw [List.foldl_cons, kept _ fun later inRest same => (ahead later inRest).1 same.symm,
          Function.update_self]
      · rw [List.foldl_cons, assigned item member, (ahead item member).2]
    · intro index untouched
      rw [List.foldl_cons, kept index fun item member =>
        untouched item (List.mem_cons_of_mem _ member),
        Function.update_of_ne (untouched first List.mem_cons_self).symm]

/-! ### Rectangles -/

structure Rectangle where
  x : Nat
  y : Nat
  w : Nat
  h : Nat
  deriving DecidableEq

def Rectangle.Contains (rectangle : Rectangle) (x y : Nat) : Prop :=
  (rectangle.x ≤ x ∧ x < rectangle.x + rectangle.w) ∧
    (rectangle.y ≤ y ∧ y < rectangle.y + rectangle.h)

instance (rectangle : Rectangle) (x y : Nat) : Decidable (rectangle.Contains x y) :=
  inferInstanceAs (Decidable ((_ ∧ _) ∧ (_ ∧ _)))

/-- The rectangle lies in a raster of this size. -/
def Rectangle.Within (rectangle : Rectangle) (width height : Nat) : Prop :=
  rectangle.x + rectangle.w ≤ width ∧ rectangle.y + rectangle.h ≤ height

instance (rectangle : Rectangle) (width height : Nat) :
    Decidable (rectangle.Within width height) :=
  inferInstanceAs (Decidable (_ ∧ _))

/-- The pixels of different columns and rows have different indices. -/
theorem index_eq_iff {width x y x' y' : Nat} (narrow : x < width) (narrow' : x' < width) :
    y * width + x = y' * width + x' ↔ x = x' ∧ y = y' := by
  constructor
  · intro same
    have rows : y = y' := by
      have divided := congrArg (· / width) same
      have positive : 0 < width := Nat.lt_of_le_of_lt (Nat.zero_le x) narrow
      simpa [Nat.mul_comm _ width, Nat.mul_add_div positive, Nat.div_eq_of_lt narrow,
        Nat.div_eq_of_lt narrow'] using divided
    subst rows
    exact ⟨Nat.add_left_cancel same, rfl⟩
  · rintro ⟨rfl, rfl⟩
    rfl

theorem index_lt {width height x y : Nat} (narrow : x < width) (low : y < height) :
    y * width + x < width * height := by
  calc y * width + x < y * width + width := Nat.add_lt_add_left narrow _
    _ = (y + 1) * width := (Nat.succ_mul y width).symm
    _ ≤ height * width := Nat.mul_le_mul_right width low
    _ = width * height := Nat.mul_comm height width

/-- The index of a cell of a rectangle. -/
def Rectangle.index (rectangle : Rectangle) (width row column : Nat) : Nat :=
  (rectangle.y + row) * width + (rectangle.x + column)

/-- What the loops over a rectangle leave in the raster, where no value depends on a pixel that is
assigned before. -/
theorem assign_rectangle {rectangle : Rectangle} {width height : Nat} (rowsDown columnsDown : Bool)
    (value : (Nat → Pixel) → Nat → Nat → Pixel) (table : Nat → Pixel)
    (within : rectangle.Within width height)
    (apart : ∀ row < rectangle.h, ∀ column < rectangle.w, ∀ row' < rectangle.h,
      ∀ column' < rectangle.w,
      Later rowsDown row row' ∨ row = row' ∧ Later columnsDown column column' →
        ∀ current pixel,
          value (Function.update current (rectangle.index width row column) pixel) row' column' =
            value current row' column') :
    (∀ x y, x < width →
      assign rowsDown columnsDown rectangle.h rectangle.w (rectangle.index width) value table
          (y * width + x) =
        if rectangle.Contains x y then value table (y - rectangle.y) (x - rectangle.x)
        else table (y * width + x)) ∧
      ∀ index, width * height ≤ index →
        assign rowsDown columnsDown rectangle.h rectangle.w (rectangle.index width) value table
          index = table index := by
  have narrow {cell : Nat × Nat}
      (member : cell ∈ cells rowsDown columnsDown rectangle.h rectangle.w) :
      rectangle.x + cell.2 < width := by
    have inside := (mem_cells.mp member).2
    have fits := within.1
    omega
  obtain ⟨assigned, kept⟩ := foldl_update
    (fun cell : Nat × Nat => rectangle.index width cell.1 cell.2)
    (fun current (cell : Nat × Nat) => value current cell.1 cell.2) table (by
      refine (pairwise_cells rowsDown columnsDown rectangle.h rectangle.w).imp_of_mem
        fun inEarlier inLater order => ⟨?_, ?_⟩
      · intro same
        obtain ⟨columns, rows⟩ := (index_eq_iff (narrow inEarlier) (narrow inLater)).mp same
        rcases order with order | ⟨-, order⟩
        · exact order.ne (Nat.add_left_cancel rows)
        · exact order.ne (Nat.add_left_cancel columns)
      · obtain ⟨row, column⟩ := mem_cells.mp inEarlier
        obtain ⟨row', column'⟩ := mem_cells.mp inLater
        exact apart _ row _ column _ row' _ column' order)
  rw [assign, loops_eq_foldl]
  constructor
  · intro x y inside
    split
    · next contains =>
      have cell := assigned (y - rectangle.y, x - rectangle.x) (mem_cells.mpr ⟨by
        have rows := contains.2
        show y - rectangle.y < rectangle.h
        omega, by
        have columns := contains.1
        show x - rectangle.x < rectangle.w
        omega⟩)
      have index : rectangle.index width (y - rectangle.y) (x - rectangle.x) = y * width + x := by
        rw [Rectangle.index, Nat.add_sub_cancel' contains.1.1, Nat.add_sub_cancel' contains.2.1]
      rw [← index]
      exact cell
    · next outside =>
      refine kept _ fun cell member same => outside ?_
      obtain ⟨columns, rows⟩ := (index_eq_iff (narrow member) inside).mp same
      obtain ⟨low, left⟩ := mem_cells.mp member
      exact ⟨by omega, by omega⟩
  · intro index beyond
    refine kept index fun cell member same => ?_
    have low := (mem_cells.mp member).1
    have bottom := within.2
    have inside : rectangle.index width cell.1 cell.2 < width * height :=
      index_lt (narrow member) (by omega)
    omega

end TermPlux.Raster
