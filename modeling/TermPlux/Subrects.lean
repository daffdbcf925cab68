/-
This file models how the server library encodes a tile as a background colour and
rectangles of one colour on top of it: the loops of `subrectEncode`, which RRE,
CoRRE and hextile encoding share. For each pixel that is not of the background
colour they look for the largest rectangle of its colour that starts there, either
as wide as the run in its row or as low as the run in its column.

The rectangles that they find reproduce the tile, and there are no more of them
than pixels that differ from the background.
-/

import Mathlib.Data.Nat.Count
import TermPlux.Raster

namespace TermPlux

open Raster

/-- A rectangle of one colour inside of a tile. -/
structure Subrect (Pixel : Type) where
  rectangle : Rectangle
  colour : Pixel
  deriving DecidableEq

namespace Subrects

variable {Pixel : Type} [DecidableEq Pixel]

/-! ### The search for a rectangle -/

/-- `while ((i < w) && (seg[i] == cl)) i += 1`, with so many pixels left. -/
def skip (seg : Nat → Pixel) (cl : Pixel) : (left i : Nat) → Nat
  | 0, i => i
  | left + 1, i => if seg i = cl then skip seg cl left (i + 1) else i

/-- The variables of the loop over the rows. -/
structure Scan where
  hx : Int
  hy : Int
  vx : Int
  hyflag : Bool

/-- What the loop does in a row, where `i` is the last column of the run. -/
def Scan.next (scan : Scan) (y j : Nat) (i : Int) : Scan :=
  let hx := if j = y then i else scan.hx
  let vx := if j = y then i else scan.vx
  let vx := if i < vx then i else vx
  if scan.hyflag && decide (hx ≤ i) then ⟨hx, scan.hy + 1, vx, true⟩
  else ⟨hx, scan.hy, vx, false⟩

/-- The loop over the rows from `j` on, with so many rows left. -/
def scanRows (data : Nat → Pixel) (w : Nat) (cl : Pixel) (x y : Nat) :
    (left j : Nat) → Scan → Nat × Scan
  | 0, j, scan => (j, scan)
  | left + 1, j, scan =>
    let seg := fun i => data (j * w + i)
    if seg x ≠ cl then (j, scan)
    else
      let i : Int := skip seg cl (w - x) x - 1
      scanRows data w cl x y left (j + 1) (scan.next y j i)

/-- The bigger of the two rectangles that start at a pixel, where the loop ended at row `j`. -/
def Scan.bigger (scan : Scan) (x y j : Nat) : Rectangle :=
  let vy : Int := j - 1
  let hw := scan.hx - x + 1
  let hh := scan.hy - y + 1
  let vw := scan.vx - x + 1
  let vh := vy - y + 1
  if hw * hh > vw * vh then ⟨x, y, hw.toNat, hh.toNat⟩ else ⟨x, y, vw.toNat, vh.toNat⟩

def largest (data : Nat → Pixel) (w h x y : Nat) : Rectangle :=
  let ended := scanRows data w (data (y * w + x)) x y (h - y) y ⟨0, y - 1, 0, true⟩
  ended.2.bigger x y ended.1

/-! ### The loops over the tile -/

/-- The tile with what is done so far, and the rectangles. -/
structure Coded (Pixel : Type) where
  data : Nat → Pixel
  subrects : List (Subrect Pixel)

/-- Marks a rectangle as done. -/
def markDone (bg : Pixel) (w : Nat) (found : Rectangle) (data : Nat → Pixel) : Nat → Pixel :=
  assign false false found.h found.w (found.index w) (fun _ _ _ => bg) data

/-- What the loops do for a pixel. They give up where so many rectangles do not fit. -/
def encodePixel (bg : Pixel) (w h : Nat) (fits : Nat → Bool) (coded : Option (Coded Pixel))
    (y x : Nat) : Option (Coded Pixel) :=
  coded.bind fun coded =>
    let cl := coded.data (y * w + x)
    if cl ≠ bg then
      let found := largest coded.data w h x y
      if fits (coded.subrects.length + 1) then
        some ⟨markDone bg w found coded.data, coded.subrects ++ [⟨found, cl⟩]⟩
      else none
    else some coded

/-- The rectangles of a tile. There is no result where they do not fit. -/
def subrectEncode (data : Nat → Pixel) (w h : Nat) (bg : Pixel) (fits : Nat → Bool) :
    Option (List (Subrect Pixel)) :=
  (loops false false h w (encodePixel bg w h fits) (some ⟨data, []⟩)).map Coded.subrects

/-- The colour of a pixel where the rectangles are painted on the background one after the
other. -/
def painted (bg : Pixel) (subrects : List (Subrect Pixel)) (column row : Nat) : Pixel :=
  subrects.foldl (fun colour subrect =>
    if subrect.rectangle.Contains column row then subrect.colour else colour) bg

/-! ### What the search finds -/

theorem skip_spec (seg : Nat → Pixel) (cl : Pixel) (left i : Nat) :
    i ≤ skip seg cl left i ∧ skip seg cl left i ≤ i + left ∧
      ∀ k, i ≤ k → k < skip seg cl left i → seg k = cl := by
  induction left generalizing i with
  | zero => exact ⟨Nat.le_refl i, Nat.le_refl i, fun k from_ below => absurd below from_.not_gt⟩
  | succ left inductionHypothesis =>
    rw [skip]
    split
    · next same =>
      obtain ⟨low, high, run⟩ := inductionHypothesis (i + 1)
      refine ⟨by omega, by omega, fun k after below => ?_⟩
      rcases Nat.eq_or_lt_of_le after with rfl | later
      · exact same
      · exact run k later below
    · exact ⟨Nat.le_refl i, Nat.le_add_right i _, fun k after below =>
        absurd below after.not_gt⟩

/-- Where the first pixel is of the colour, the run is not empty. -/
theorem lt_skip {seg : Nat → Pixel} {cl : Pixel} {left i : Nat} (more : 0 < left)
    (same : seg i = cl) : i < skip seg cl left i := by
  obtain ⟨left, rfl⟩ := Nat.exists_eq_succ_of_ne_zero more.ne'
  rw [skip, if_pos same]
  exact (skip_spec seg cl left (i + 1)).1

/-- What the loop over the rows has found when it reaches row `j`. -/
structure Scanned (data : Nat → Pixel) (w : Nat) (cl : Pixel) (x y j : Nat) (scan : Scan) :
    Prop where
  fresh : j = y → scan.hyflag = true
  flag : scan.hyflag = true → scan.hy = j - 1
  above : scan.hy < j
  tall : ∀ row column : Nat, y ≤ row → row < j → x ≤ column → column ≤ scan.vx →
    data (row * w + column) = cl
  wide : ∀ row column : Nat, y ≤ row → row ≤ scan.hy → x ≤ column → column ≤ scan.hx →
    data (row * w + column) = cl
  started : y < j → x ≤ scan.vx ∧ scan.vx ≤ scan.hx ∧ scan.hx < w ∧ y ≤ scan.hy

variable {data : Nat → Pixel} {w h x y j : Nat} {cl : Pixel} {scan : Scan}

omit [DecidableEq Pixel] in
/-- After the first row both rectangles are the run in it. -/
theorem scanned_first (scanned : Scanned data w cl x y y scan) {i : Int} (start : x ≤ i)
    (inside : i < w)
    (run : ∀ column : Nat, x ≤ column → column ≤ i → data (y * w + column) = cl) :
    Scanned data w cl x y (y + 1) (scan.next y y i) := by
  have last := scanned.flag (scanned.fresh rfl)
  have next : scan.next y y i = ⟨i, y, i, true⟩ := by
    unfold Scan.next
    rw [if_pos rfl, if_pos rfl, scanned.fresh rfl, last]
    simp
  rw [next]
  refine ⟨fun _ => rfl, fun _ => ?_, ?_, ?_, ?_, fun _ => ⟨start, le_refl i, inside, le_refl _⟩⟩
  · show (y : Int) = (y + 1 : Nat) - 1
    omega
  · show (y : Int) < (y + 1 : Nat)
    omega
  · intro row column low high
    obtain rfl : row = y := by omega
    exact run column
  · intro row column low high
    obtain rfl : row = y := by
      have : (row : Int) ≤ y := high
      omega
    exact run column

omit [DecidableEq Pixel] in
/-- A later row may make the tall rectangle narrower, and is part of the wide one as long as no row
was shorter. -/
theorem scanned_later (scanned : Scanned data w cl x y j scan) (later : y < j) {i : Int}
    (start : x ≤ i)
    (run : ∀ column : Nat, x ≤ column → column ≤ i → data (j * w + column) = cl) :
    Scanned data w cl x y (j + 1) (scan.next y j i) := by
  obtain ⟨first, order, inside, lowest⟩ := scanned.started later
  have above := scanned.above
  have tall : ∀ row column : Nat, y ≤ row → row < j + 1 → x ≤ column →
      column ≤ (if i < scan.vx then i else scan.vx) → data (row * w + column) = cl := by
    intro row column low high left right
    rcases Nat.lt_or_ge row j with earlier | last
    · refine scanned.tall row column low earlier left ?_
      split at right <;> omega
    · obtain rfl : row = j := by omega
      refine run column left ?_
      split at right <;> omega
  have narrower : x ≤ (if i < scan.vx then i else scan.vx) ∧
      (if i < scan.vx then i else scan.vx) ≤ scan.hx := by
    split <;> omega
  unfold Scan.next
  rw [if_neg later.ne', if_neg later.ne']
  dsimp only
  split
  · next both =>
    rw [Bool.and_eq_true, decide_eq_true_iff] at both
    have last := scanned.flag both.1
    refine ⟨fun _ => rfl, fun _ => ?_, ?_, tall, ?_, fun _ => ⟨narrower.1, narrower.2, inside, ?_⟩⟩
    · show scan.hy + 1 = (j + 1 : Nat) - 1
      omega
    · show scan.hy + 1 < (j + 1 : Nat)
      omega
    · intro row column low high left right
      have high : (row : Int) ≤ scan.hy + 1 := high
      rcases Nat.lt_or_ge row j with earlier | new
      · exact scanned.wide row column low (by omega) left right
      · obtain rfl : row = j := by omega
        exact run column left (le_trans right both.2)
    · show (y : Int) ≤ scan.hy + 1
      omega
  · refine ⟨fun first => by omega, fun absurd => (by cases absurd), ?_, tall, scanned.wide,
      fun _ => ⟨narrower.1, narrower.2, inside, lowest⟩⟩
    show scan.hy < (j + 1 : Nat)
    omega

omit [DecidableEq Pixel] in
theorem scanned_next (scanned : Scanned data w cl x y j scan) (after : y ≤ j) {i : Int}
    (start : x ≤ i) (inside : i < w)
    (run : ∀ column : Nat, x ≤ column → column ≤ i → data (j * w + column) = cl) :
    Scanned data w cl x y (j + 1) (scan.next y j i) := by
  rcases Nat.eq_or_lt_of_le after with rfl | later
  · exact scanned_first scanned start inside run
  · exact scanned_later scanned later start run

theorem scanned_scanRows (left : Nat) (scanned : Scanned data w cl x y j scan) (after : y ≤ j)
    (narrow : x < w) :
    Scanned data w cl x y (scanRows data w cl x y left j scan).1
        (scanRows data w cl x y left j scan).2 ∧
      j ≤ (scanRows data w cl x y left j scan).1 ∧
      (scanRows data w cl x y left j scan).1 ≤ j + left := by
  induction left generalizing j scan with
  | zero => exact ⟨scanned, Nat.le_refl j, Nat.le_refl j⟩
  | succ left inductionHypothesis =>
    rw [scanRows]
    dsimp only
    split
    · exact ⟨scanned, Nat.le_refl j, Nat.le_add_right j _⟩
    · next same =>
      rw [not_not] at same
      obtain ⟨-, high, run⟩ := skip_spec (fun i => data (j * w + i)) cl (w - x) x
      have longer := @lt_skip _ _ (fun i => data (j * w + i)) cl (w - x) x (by omega) same
      have next : Scanned data w cl x y (j + 1)
          (scan.next y j ((skip (fun i => data (j * w + i)) cl (w - x) x : Int) - 1)) :=
        scanned_next scanned after (by omega) (by omega) fun column left right =>
          run column left (by omega)
      obtain ⟨found, low, far⟩ := inductionHypothesis next (by omega)
      exact ⟨found, by omega, by omega⟩

omit [DecidableEq Pixel] in
/-- The chosen rectangle starts at the pixel, is not empty, lies in the tile, and is of the colour
that was looked for. -/
theorem bigger_spec (scanned : Scanned data w cl x y j scan) (later : y < j) (inside : j ≤ h) :
    ((scan.bigger x y j).x = x ∧ (scan.bigger x y j).y = y) ∧
      (0 < (scan.bigger x y j).w ∧ 0 < (scan.bigger x y j).h) ∧
      (scan.bigger x y j).Within w h ∧
      ∀ column row, (scan.bigger x y j).Contains column row → data (row * w + column) = cl := by
  obtain ⟨first, order, right, lowest⟩ := scanned.started later
  have above := scanned.above
  unfold Scan.bigger
  dsimp only
  split
  · refine ⟨⟨rfl, rfl⟩, ⟨by dsimp only; omega, by dsimp only; omega⟩,
      ⟨by dsimp only; omega, by dsimp only; omega⟩, fun column row inside => ?_⟩
    obtain ⟨⟨left, right⟩, high, low⟩ := inside
    dsimp only at left right high low
    exact scanned.wide row column high (by omega) left (by omega)
  · refine ⟨⟨rfl, rfl⟩, ⟨by dsimp only; omega, by dsimp only; omega⟩,
      ⟨by dsimp only; omega, by dsimp only; omega⟩, fun column row inside => ?_⟩
    obtain ⟨⟨left, right⟩, high, low⟩ := inside
    dsimp only at left right high low
    exact scanned.tall row column high (by omega) left (by omega)

theorem largest_spec (narrow : x < w) (low : y < h) :
    ((largest data w h x y).x = x ∧ (largest data w h x y).y = y) ∧
      (0 < (largest data w h x y).w ∧ 0 < (largest data w h x y).h) ∧
      (largest data w h x y).Within w h ∧
      ∀ column row, (largest data w h x y).Contains column row →
        data (row * w + column) = data (y * w + x) := by
  have begins : Scanned data w (data (y * w + x)) x y y ⟨0, y - 1, 0, true⟩ :=
    ⟨fun _ => rfl, fun _ => rfl, by dsimp only; omega,
      fun row column low high => absurd high low.not_gt,
      fun row column low high => by dsimp only at high; omega, fun absurd => absurd.false.elim⟩
  obtain ⟨scanned, -, far⟩ := scanned_scanRows (h - y) begins (Nat.le_refl y) narrow
  refine bigger_spec scanned ?_ (by omega)
  -- The first row begins with the pixel.
  obtain ⟨rows, more⟩ := Nat.exists_eq_succ_of_ne_zero (Nat.sub_pos_of_lt low).ne'
  rw [more, scanRows, if_neg (not_not.mpr rfl)]
  have longer := @lt_skip _ _ (fun i => data (y * w + i)) _ (w - x) x (by omega) rfl
  obtain ⟨-, high, run⟩ := skip_spec (fun i => data (y * w + i)) (data (y * w + x)) (w - x) x
  have next : Scanned data w (data (y * w + x)) x y (y + 1)
      (Scan.next ⟨0, y - 1, 0, true⟩ y y
        ((skip (fun i => data (y * w + i)) (data (y * w + x)) (w - x) x : Int) - 1)) :=
    scanned_next begins (Nat.le_refl y) (by omega) (by omega) fun column left right =>
      run column left (by omega)
  exact (scanned_scanRows rows next (by omega) narrow).2.1

/-! ### What the rectangles of a tile are -/

omit [DecidableEq Pixel] in
theorem painted_append (bg : Pixel) (subrects : List (Subrect Pixel)) (subrect : Subrect Pixel)
    (column row : Nat) :
    painted bg (subrects ++ [subrect]) column row =
      if subrect.rectangle.Contains column row then subrect.colour
      else painted bg subrects column row := by
  rw [painted, List.foldl_append]
  rfl

/-- How many pixels of a tile differ from the background. -/
def foreground (data : Nat → Pixel) (bg : Pixel) (w h : Nat) : Nat :=
  Nat.count (fun index => data index ≠ bg) (w * h)

/-- Where one pixel less satisfies a condition, and no other pixel more, the count is smaller. -/
theorem count_lt_count {p q : Nat → Prop} [DecidablePred p] [DecidablePred q] {n k : Nat}
    (fewer : ∀ index < n, p index → q index) (below : k < n) (lost : q k) (left : ¬p k) :
    Nat.count p n < Nat.count q n := by
  induction n with
  | zero => exact absurd below (Nat.not_lt_zero k)
  | succ n inductionHypothesis =>
    rw [Nat.count_succ, Nat.count_succ]
    have fewer' : ∀ index < n, p index → q index := fun index inside =>
      fewer index (inside.trans (Nat.lt_succ_self n))
    rcases Nat.eq_or_lt_of_le (Nat.lt_succ_iff.mp below) with rfl | inside
    · rw [if_neg left, if_pos lost]
      exact Nat.lt_succ_of_le (Nat.count_mono_left fewer')
    · have before := inductionHypothesis fewer' inside
      have last : (if p n then 1 else 0) ≤ if q n then 1 else 0 := by
        split
        · next holds => rw [if_pos (fewer n (Nat.lt_succ_self n) holds)]
        · exact Nat.zero_le _
      omega

omit [DecidableEq Pixel] in
theorem markDone_spec (bg : Pixel) {found : Rectangle} (within : found.Within w h)
    (data : Nat → Pixel) {column : Nat} (row : Nat) (inside : column < w) :
    markDone bg w found data (row * w + column) =
      if found.Contains column row then bg else data (row * w + column) :=
  (assign_rectangle false false (fun _ _ _ => bg) data within
    (fun _ _ _ _ _ _ _ _ _ _ _ => rfl)).1 column row inside

/-- Marking a rectangle that is not of the background colour leaves fewer pixels to do. -/
theorem foreground_markDone {bg : Pixel} {found : Rectangle} (within : found.Within w h)
    {data : Nat → Pixel} (narrow : x < w) (low : y < h) (own : found.Contains x y)
    (different : data (y * w + x) ≠ bg) :
    foreground (markDone bg w found data) bg w h < foreground data bg w h := by
  refine count_lt_count (fun index _ waits => ?_) (index_lt narrow low) different ?_
  · have inside : index % w < w := Nat.mod_lt index (Nat.zero_lt_of_lt narrow)
    have marked := markDone_spec bg within data (index / w) inside
    rw [Nat.div_add_mod'] at marked
    rw [marked] at waits
    intro same
    rw [same, ite_self] at waits
    exact waits rfl
  · rw [markDone_spec bg within data y narrow, if_pos own, not_not]

/-- What holds while the loops run, where they have passed the pixels in `done`. -/
structure Covered (original : Nat → Pixel) (bg : Pixel) (w h : Nat) (fits : Nat → Bool)
    (done : List (Nat × Nat)) (coded : Coded Pixel) : Prop where
  shape : ∀ subrect ∈ coded.subrects,
    (0 < subrect.rectangle.w ∧ 0 < subrect.rectangle.h) ∧ subrect.rectangle.Within w h
  colour : ∀ subrect ∈ coded.subrects,
    subrect.colour ≠ bg ∧ ∃ index < w * h, original index = subrect.colour
  finished : ∀ column row, column < w → (row, column) ∈ done →
    coded.data (row * w + column) = bg
  waiting : ∀ column row, column < w → row < h → coded.data (row * w + column) ≠ bg →
    coded.data (row * w + column) = original (row * w + column)
  covered : ∀ column row, column < w → row < h → coded.data (row * w + column) = bg →
    painted bg coded.subrects column row = original (row * w + column)
  fewer : coded.subrects.length + foreground coded.data bg w h ≤ foreground original bg w h
  fitted : coded.subrects = [] ∨ fits coded.subrects.length = true

variable {original : Nat → Pixel} {bg : Pixel} {fits : Nat → Bool} {done : List (Nat × Nat)}
  {coded later : Coded Pixel}

theorem covered_start (data : Nat → Pixel) : Covered data bg w h fits [] ⟨data, []⟩ where
  shape := fun _ member => absurd member List.not_mem_nil
  colour := fun _ member => absurd member List.not_mem_nil
  finished := fun _ _ _ member => absurd member List.not_mem_nil
  waiting := fun _ _ _ _ _ => rfl
  covered := fun _ _ _ _ same => same.symm
  fewer := (Nat.zero_add _).le
  fitted := .inl rfl

/-- A rectangle is found and marked as done. -/
theorem covered_markDone (before : Covered original bg w h fits done coded) (narrow : x < w)
    (low : y < h) (different : coded.data (y * w + x) ≠ bg)
    (fit : fits (coded.subrects.length + 1) = true) :
    Covered original bg w h fits (done ++ [(y, x)])
      ⟨markDone bg w (largest coded.data w h x y) coded.data,
        coded.subrects ++ [⟨largest coded.data w h x y, coded.data (y * w + x)⟩]⟩ := by
  obtain ⟨⟨left, top⟩, positive, within, oneColour⟩ :=
    @largest_spec _ _ coded.data w h x y narrow low
  have marked (column row : Nat) (inside : column < w) :=
    markDone_spec bg within coded.data row inside
  have own : (largest coded.data w h x y).Contains x y := by
    refine ⟨⟨left.le, ?_⟩, top.le, ?_⟩ <;> omega
  constructor
  case shape =>
    intro subrect member
    rcases List.mem_append.mp member with old | new
    · exact before.shape subrect old
    · rw [List.mem_singleton.mp new]
      exact ⟨positive, within⟩
  case colour =>
    intro subrect member
    rcases List.mem_append.mp member with old | new
    · exact before.colour subrect old
    · rw [List.mem_singleton.mp new]
      exact ⟨different, y * w + x, index_lt narrow low, (before.waiting x y narrow low different).symm⟩
  case finished =>
    intro column row inside member
    dsimp only
    rw [marked column row inside]
    split
    · rfl
    · next outside =>
      rcases List.mem_append.mp member with old | new
      · exact before.finished column row inside old
      · cases List.mem_singleton.mp new
        exact absurd own outside
  case waiting =>
    intro column row inside below waits
    dsimp only at waits ⊢
    rw [marked column row inside] at waits ⊢
    split at waits
    · exact absurd rfl waits
    · next outside =>
      rw [if_neg outside]
      exact before.waiting column row inside below waits
  case covered =>
    intro column row inside below same
    dsimp only at same ⊢
    rw [marked column row inside] at same
    rw [painted_append]
    split
    · next contains =>
      have colour := oneColour column row contains
      rw [← colour]
      exact before.waiting column row inside below (colour ▸ different)
    · next outside =>
      rw [if_neg outside] at same
      exact before.covered column row inside below same
  case fewer =>
    have less := foreground_markDone within narrow low own different
    have fewer := before.fewer
    dsimp only
    rw [List.length_append, List.length_singleton]
    omega
  case fitted =>
    right
    rw [List.length_append]
    exact fit

/-- One pixel of the loops. -/
theorem covered_encodePixel (before : Covered original bg w h fits done coded) (narrow : x < w)
    (low : y < h) (ran : encodePixel bg w h fits (some coded) y x = some later) :
    Covered original bg w h fits (done ++ [(y, x)]) later := by
  unfold encodePixel at ran
  rw [Option.bind_some] at ran
  dsimp only at ran
  split at ran
  · next different =>
    split at ran
    · next fit =>
      cases ran
      exact covered_markDone before narrow low different fit
    · cases ran
  · next same =>
    cases ran
    rw [not_not] at same
    refine { before with finished := fun column row inside member => ?_ }
    rcases List.mem_append.mp member with old | new
    · exact before.finished column row inside old
    · cases List.mem_singleton.mp new
      exact same

theorem foldl_encodePixel_none (cells : List (Nat × Nat)) :
    cells.foldl (fun coded cell => encodePixel bg w h fits coded cell.1 cell.2) none = none := by
  induction cells with
  | nil => rfl
  | cons cell rest inductionHypothesis => exact inductionHypothesis

/-- All pixels of the loops. -/
theorem covered_foldl (before : Covered original bg w h fits done coded)
    {cells : List (Nat × Nat)} (inside : ∀ cell ∈ cells, cell.1 < h ∧ cell.2 < w)
    (ran : cells.foldl (fun coded cell => encodePixel bg w h fits coded cell.1 cell.2)
      (some coded) = some later) :
    Covered original bg w h fits (done ++ cells) later := by
  induction cells generalizing done coded with
  | nil =>
    cases ran
    rw [List.append_nil]
    exact before
  | cons cell rest inductionHypothesis =>
    obtain ⟨low, narrow⟩ := inside cell List.mem_cons_self
    rw [List.foldl_cons] at ran
    cases middle : encodePixel bg w h fits (some coded) cell.1 cell.2 with
    | none =>
      rw [middle, foldl_encodePixel_none] at ran
      cases ran
    | some next =>
      rw [middle] at ran
      have after := covered_encodePixel before narrow low middle
      have ended := inductionHypothesis after
        (fun cell member => inside cell (List.mem_cons_of_mem _ member)) ran
      rw [List.append_assoc] at ended
      exact ended

/-- The rectangles of a tile lie in it, none is empty or of the background colour, and their colours
are those of the tile. Painted on the background one after the other, they reproduce the tile.
There are no more of them than pixels that differ from the background, and they fit. -/
theorem subrectEncode_spec {data : Nat → Pixel} {subrects : List (Subrect Pixel)}
    (ran : subrectEncode data w h bg fits = some subrects) :
    (∀ subrect ∈ subrects,
      ((0 < subrect.rectangle.w ∧ 0 < subrect.rectangle.h) ∧ subrect.rectangle.Within w h) ∧
        subrect.colour ≠ bg ∧ ∃ index < w * h, data index = subrect.colour) ∧
      (∀ column row, column < w → row < h →
        painted bg subrects column row = data (row * w + column)) ∧
      subrects.length ≤ foreground data bg w h ∧
      (subrects = [] ∨ fits subrects.length = true) := by
  unfold subrectEncode at ran
  rw [loops_eq_foldl] at ran
  obtain ⟨coded, folded, rfl⟩ := Option.map_eq_some_iff.mp ran
  have ended := covered_foldl (covered_start data) (fun cell member => mem_cells.mp member) folded
  rw [List.nil_append] at ended
  refine ⟨fun subrect member => ⟨ended.shape subrect member, ended.colour subrect member⟩,
    fun column row inside below => ?_, ?_, ended.fitted⟩
  · exact ended.covered column row inside below
      (ended.finished column row inside (mem_cells.mpr ⟨below, inside⟩))
  · have fewer := ended.fewer
    omega

end Subrects

end TermPlux
