/-
This file models what the server library keeps for a client: the region that was
modified, the region that was copied and how far, and the region that the client
asked for. Drawing, copying, requests and updates change these regions.

What the client shows is in step with the screen outside of the modified region: a
pixel of the copied region is shown at its source, and every other pixel at its
place. Each operation keeps this, and an update makes it so again for what it sends.
-/

import TermPlux.ScreenUpdates
import TermPlux.SraRegion

namespace TermPlux

open Raster Rfb SraRegion

variable {size width height : Nat}

/-- What the server keeps for a client, and the screen in the format of this client. -/
structure ServerClient (size width height : Nat) where
  screen : Screen size
  modifiedRegion : ClippedRegion width height
  copyRegion : ClippedRegion width height
  copyDX : Int
  copyDY : Int
  requestedRegion : ClippedRegion width height

/-- How updates are sent to a client. `pad` is not initialized. -/
structure UpdateSettings where
  useCopyRect : Bool
  maxRectsPerUpdate : Nat
  preferredEncoding : PreferredEncoding
  afterEncBufSize : Nat
  pad : UInt8

namespace ServerClient

/-! ### Drawing -/

def rfbMarkRegionAsModified (server : ServerClient size width height)
    (modRegion : ClippedRegion width height) : ServerClient size width height :=
  { server with modifiedRegion := server.modifiedRegion.or modRegion }

/-! ### Copying -/

/-- A row is moved at once. -/
def memmoveRow (rect : Rectangle) (dx dy : Int) (screen : Screen size) (row : Nat) : Screen size :=
  fun column otherRow =>
    if otherRow = row ∧ rect.x ≤ column ∧ column < rect.x + rect.w then
      screen (column - dx).toNat (row - dy).toNat
    else screen column otherRow

/-- The rows are moved from the top where they move up, and from the bottom otherwise. -/
def copyRows (dx dy : Int) (screen : Screen size) (rect : Rectangle) : Screen size :=
  let rows := List.range' rect.y rect.h
  (if dy < 0 then rows else rows.reverse).foldl (memmoveRow rect dx dy) screen

/-- The part of `rfbScheduleCopyRegion` on what is copied already: the regions that are modified and
copied before the new one is added. -/
def resolveCopy (server : ServerClient size width height) (copyRegion : ClippedRegion width height)
    (dx dy : Int) : ClippedRegion width height × ClippedRegion width height :=
  if server.copyRegion.sraRgnEmpty then (server.modifiedRegion, server.copyRegion)
  else if server.copyDX ≠ dx ∨ server.copyDY ≠ dy then
    (server.modifiedRegion.or server.copyRegion, ClippedRegion.empty width height)
  else
    let modifiedRegionBackup :=
      ClippedRegion.andClipped (sraRgnOffset copyRegion.toSraRegion (-dx) (-dy)) server.copyRegion
    (server.modifiedRegion.or modifiedRegionBackup, server.copyRegion)

/-- The client draws the cursor itself. -/
def rfbScheduleCopyRegion (settings : UpdateSettings) (server : ServerClient size width height)
    (copyRegion : ClippedRegion width height) (dx dy : Int) : ServerClient size width height :=
  if settings.useCopyRect then
    let (modifiedRegion, copied) := server.resolveCopy copyRegion dx dy
    let copied := copied.or copyRegion
    let modifiedRegionBackup :=
      ClippedRegion.andClipped (sraRgnOffset modifiedRegion.toSraRegion dx dy) copied
    { server with
      modifiedRegion := modifiedRegion.or modifiedRegionBackup
      copyRegion := copied
      copyDX := dx
      copyDY := dy }
  else { server with modifiedRegion := server.modifiedRegion.or copyRegion }

/-- A shift in the range in which the code can add it to coordinates. -/
structure IntShift (dx dy : Int) : Prop where
  right : -2 ^ 30 < dx ∧ dx < 2 ^ 30
  down : -2 ^ 30 < dy ∧ dy < 2 ^ 30

/-- The sums and differences with a coordinate of a screen are of type `int`. -/
theorem IntShift.int_sums {dx dy coordinate : Int} (shift : IntShift dx dy)
    (onScreen : 0 ≤ coordinate ∧ coordinate ≤ 2 ^ 16) :
    ((-2 ^ 31 ≤ coordinate + dx ∧ coordinate + dx < 2 ^ 31) ∧
        -2 ^ 31 ≤ coordinate - dx ∧ coordinate - dx < 2 ^ 31) ∧
      (-2 ^ 31 ≤ coordinate + dy ∧ coordinate + dy < 2 ^ 31) ∧
        -2 ^ 31 ≤ coordinate - dy ∧ coordinate - dy < 2 ^ 31 := by
  obtain ⟨⟨left, right⟩, up, down⟩ := shift
  omega

/-- The rectangles are moved beginning with the one that is least far in the direction of the move,
unlike those of `rfbSendCopyRegion`. The shift is in the range of `IntShift`. -/
def rfbDoCopyRegion (settings : UpdateSettings) (server : ServerClient size width height)
    (copyRegion : ClippedRegion width height) (dx dy : Int) : ServerClient size width height :=
  let i := copyRegion.toRegion.rectangles (decide (dx < 0)) (decide (dy < 0))
  rfbScheduleCopyRegion settings { server with screen := i.foldl (copyRows dx dy) server.screen }
    copyRegion dx dy

/-! ### Requests -/

/-- The part of `rfbProcessClientNormalMessage` on a request for an update. -/
def request (server : ServerClient size width height) (tmpRegion : ClippedRegion width height)
    (incremental : Bool) : ServerClient size width height :=
  let requestedRegion := server.requestedRegion.or tmpRegion
  if incremental then { server with requestedRegion }
  else
    { server with
      requestedRegion
      modifiedRegion := server.modifiedRegion.or tmpRegion
      copyRegion := server.copyRegion.subtract tmpRegion.toSraRegion }

/-! ### Updates -/

/-- `FB_UPDATE_PENDING`, where neither the cursor nor the size changes. -/
def updatePending (server : ServerClient size width height) : Bool :=
  !server.copyRegion.sraRgnEmpty || !server.modifiedRegion.sraRgnEmpty

/-- How many rectangles are announced for a region. -/
def nUpdateRegionRects (settings : UpdateSettings) (region : ClippedRegion width height) : Nat :=
  ((region.toRegion.rectangles false false).map (countRectangle settings.preferredEncoding)).sum

/-- A region of too many rectangles is replaced by its bounding box. -/
def limitRects (settings : UpdateSettings) (updateRegion : ClippedRegion width height) :
    ClippedRegion width height :=
  if nUpdateRegionRects settings updateRegion ≠ 0xFFFF ∧ settings.maxRectsPerUpdate > 0 ∧
      settings.preferredEncoding ≠ .coRRE ∧
        nUpdateRegionRects settings updateRegion > settings.maxRectsPerUpdate then
    updateRegion.bbox
  else updateRegion

/-- What was copied, and is not modified. -/
def unmodifiedCopy (server : ServerClient size width height) : ClippedRegion width height :=
  server.copyRegion.subtract server.modifiedRegion.toSraRegion

/-- What changed. The modified region was given. -/
def changedRegion (server : ServerClient size width height) : ClippedRegion width height :=
  server.modifiedRegion.or server.unmodifiedCopy

/-- What is sent as a copy: the client asked for it, and for its source. -/
def updateCopyRegion (server : ServerClient size width height) : ClippedRegion width height :=
  let tmpRegion := sraRgnOffset server.requestedRegion.toSraRegion server.copyDX server.copyDY
  (server.unmodifiedCopy.and server.requestedRegion.toSraRegion).and tmpRegion

/-- What is sent as pixels: whatever else of the changes the client asked for. -/
def updateRegion (server : ServerClient size width height) : ClippedRegion width height :=
  (server.changedRegion.and server.requestedRegion.toSraRegion).subtract
    server.updateCopyRegion.toSraRegion

/-- The regions of `rfbSendFramebufferUpdate`, and the update that is sent, if any. -/
def rfbSendFramebufferUpdate (settings : UpdateSettings) (server : ServerClient size width height) :
    ServerClient size width height × Option (Update size) :=
  if (server.changedRegion.and server.requestedRegion.toSraRegion).sraRgnEmpty then
    ({ server with copyRegion := server.unmodifiedCopy }, none)
  else
    ({ screen := server.screen
       modifiedRegion := (server.changedRegion.subtract server.updateRegion.toSraRegion).subtract
         server.updateCopyRegion.toSraRegion
       copyRegion := ClippedRegion.empty width height
       copyDX := 0
       copyDY := 0
       requestedRegion := ClippedRegion.empty width height },
      some
        { screen := server.screen
          updateCopyRegion := server.updateCopyRegion.toRegion
          dx := server.copyDX
          dy := server.copyDY
          updateRegion := (limitRects settings server.updateRegion).toRegion })

/-! ### A copied rectangle -/

variable {dx dy : Int} {rect : Rectangle} {screen : Screen size}

/-- Where no row is overwritten before it is moved, each row is what its source was. -/
theorem foldl_memmoveRow {rows : List Nat} (order : rows.Pairwise fun (earlier later : Nat) =>
      ((later : Int) - dy).toNat ≠ earlier) (column row : Nat) :
    rows.foldl (memmoveRow rect dx dy) screen column row =
      if row ∈ rows ∧ rect.x ≤ column ∧ column < rect.x + rect.w then
        screen (column - dx).toNat (row - dy).toNat
      else screen column row := by
  induction rows generalizing screen with
  | nil => rfl
  | cons first rows inductionHypothesis =>
    obtain ⟨ahead, order⟩ := List.pairwise_cons.mp order
    rw [List.foldl_cons, inductionHypothesis order]
    unfold memmoveRow
    by_cases columns : rect.x ≤ column ∧ column < rect.x + rect.w
    · by_cases later : row ∈ rows
      · rw [if_pos ⟨later, columns⟩, if_neg fun same => ahead row later same.1,
          if_pos ⟨List.mem_cons_of_mem first later, columns⟩]
      · rw [if_neg fun both => later both.1]
        by_cases same : row = first
        · rw [if_pos ⟨same, columns⟩, if_pos ⟨same ▸ List.mem_cons_self, columns⟩, same]
        · rw [if_neg fun both => same both.1,
            if_neg fun both => (List.mem_cons.mp both.1).elim same later]
    · rw [if_neg fun both => columns both.2, if_neg fun both => columns both.2,
        if_neg fun both => columns both.2]

/-- The rectangle holds what its source held, and everything else is as it was. -/
theorem copyRows_spec (column row : Nat) :
    copyRows dx dy screen rect column row =
      if rect.Contains column row then screen (column - dx).toNat (row - dy).toNat
      else screen column row := by
  have members : ∀ rows : List Nat, (∀ row, row ∈ rows ↔ rect.y ≤ row ∧ row < rect.y + rect.h) →
      rows.Pairwise (fun (earlier later : Nat) => ((later : Int) - dy).toNat ≠ earlier) →
        rows.foldl (memmoveRow rect dx dy) screen column row =
          if rect.Contains column row then screen (column - dx).toNat (row - dy).toNat
          else screen column row := by
    intro rows mem order
    rw [foldl_memmoveRow order]
    refine if_congr ?_ rfl rfl
    rw [mem row]
    exact and_comm
  have increasing : (List.range' rect.y rect.h).Pairwise (· < ·) := List.pairwise_lt_range'
  unfold copyRows
  split
  · next up =>
    refine members _ (fun row => List.mem_range'_1) (increasing.imp fun less => ?_)
    omega
  · next down =>
    refine members _ (fun row => by rw [List.mem_reverse, List.mem_range'_1])
      (List.pairwise_reverse.mpr (increasing.imp_of_mem fun low _ less => ?_))
    rw [List.mem_range'_1] at low
    omega

/-- A pixel that no rectangle contains is as it was. -/
theorem foldl_copyRows_kept {rects : List Rectangle} {column row : Nat}
    (away : ∀ rect ∈ rects, ¬rect.Contains column row) :
    rects.foldl (copyRows dx dy) screen column row = screen column row := by
  induction rects generalizing screen with
  | nil => rfl
  | cons rect rest inductionHypothesis =>
    rw [List.foldl_cons,
      inductionHypothesis fun other member => away other (List.mem_cons_of_mem rect member),
      copyRows_spec, if_neg (away rect List.mem_cons_self)]

/-- A pixel is moved as if its source had been put aside, where no rectangle that comes before the
last one that contains the pixel contains the source. -/
theorem foldl_copyRows {rects : List Rectangle} {column row : Nat}
    (order : rects.Pairwise fun earlier later => later.Contains column row →
      ¬earlier.Contains (column - dx).toNat (row - dy).toNat)
    (moved : ∃ rect ∈ rects, rect.Contains column row) :
    rects.foldl (copyRows dx dy) screen column row =
      screen (column - dx).toNat (row - dy).toNat := by
  induction rects generalizing screen with
  | nil =>
    obtain ⟨_, absurd, _⟩ := moved
    exact (List.not_mem_nil absurd).elim
  | cons rect rest inductionHypothesis =>
    obtain ⟨ahead, order⟩ := List.pairwise_cons.mp order
    rw [List.foldl_cons]
    by_cases again : ∃ other ∈ rest, other.Contains column row
    · rw [inductionHypothesis order again, copyRows_spec, if_neg]
      obtain ⟨other, member, contains⟩ := again
      exact ahead other member contains
    · have own : rect.Contains column row := by
        obtain ⟨other, member, contains⟩ := moved
        rcases List.mem_cons.mp member with rfl | member
        · exact contains
        · exact absurd ⟨other, member, contains⟩ again
      rw [foldl_copyRows_kept fun other member contains => again ⟨other, member, contains⟩,
        copyRows_spec, if_pos own]

/-- A region whose source lies in the screen. -/
def Copyable (copyRegion : ClippedRegion width height) (dx dy : Int) : Prop :=
  ∀ {x y}, copyRegion.Contains x y →
    (0 ≤ x - dx ∧ x - dx < width) ∧ 0 ≤ y - dy ∧ y - dy < height

/-- No rectangle is moved onto the source of one that is moved later. A single rectangle has none. -/
def Undisturbed (copyRegion : ClippedRegion width height) (dx dy : Int) : Prop :=
  (copyRegion.toRegion.rectangles (decide (dx < 0)) (decide (dy < 0))).Pairwise fun earlier later =>
    ¬Disturbs dx dy earlier later

theorem screen_rfbDoCopyRegion (settings : UpdateSettings) (server : ServerClient size width height)
    (copyRegion : ClippedRegion width height) (dx dy : Int) :
    (rfbDoCopyRegion settings server copyRegion dx dy).screen =
      (copyRegion.toRegion.rectangles (decide (dx < 0)) (decide (dy < 0))).foldl (copyRows dx dy)
        server.screen := by
  unfold rfbDoCopyRegion rfbScheduleCopyRegion
  dsimp only
  split <;> rfl

/-- The sources of the rectangles have no negative coordinates. -/
theorem Copyable.sources {copyRegion : ClippedRegion width height}
    (copyable : Copyable copyRegion dx dy) {reverseX reverseY : Bool} :
    ∀ rect ∈ copyRegion.toRegion.rectangles reverseX reverseY,
      0 ≤ rect.x - dx ∧ 0 ≤ rect.y - dy := by
  intro rect member
  have source := copyable (ClippedRegion.contains_corners member).1
  omega

/-- What the screen holds after a region was copied. -/
theorem pixel_rfbDoCopyRegion (settings : UpdateSettings) (server : ServerClient size width height)
    {copyRegion : ClippedRegion width height} {dx dy : Int} (copyable : Copyable copyRegion dx dy)
    (undisturbed : Undisturbed copyRegion dx dy) (column row : Nat) :
    (copyRegion.Contains column row →
      (rfbDoCopyRegion settings server copyRegion dx dy).screen column row =
        server.screen (column - dx).toNat (row - dy).toNat) ∧
      (¬copyRegion.Contains column row →
        (rfbDoCopyRegion settings server copyRegion dx dy).screen column row =
          server.screen column row) := by
  rw [screen_rfbDoCopyRegion, ← ClippedRegion.contains_toRegion,
    Region.contains_iff _ (decide (dx < 0)) (decide (dy < 0))]
  refine ⟨fun moved => ?_, fun away => foldl_copyRows_kept fun rect member contains =>
    away ⟨rect, member, contains⟩⟩
  obtain ⟨rect, member, contains⟩ := moved
  have source := copyable ((ClippedRegion.contains_toRegion column row).mp
    ((Region.contains_iff _ _ _ _ _).mpr ⟨rect, member, contains⟩))
  refine foldl_copyRows (undisturbed.imp fun quiet later earlier => quiet ⟨column, row, _, _, later,
    Int.toNat_of_nonneg source.1.1, Int.toNat_of_nonneg source.2.1, earlier⟩)
      ⟨rect, member, contains⟩

/-- After the moves, a pixel holds what was some moves away from it, and one move at least if it was
moved. -/
theorem exists_foldl_copyRows {rects : List Rectangle}
    (sources : ∀ rect ∈ rects, 0 ≤ rect.x - dx ∧ 0 ≤ rect.y - dy) (column row : Nat) :
    ∃ moves x y : Nat, ((x : Int) = column - moves * dx ∧ (y : Int) = row - moves * dy) ∧
      rects.foldl (copyRows dx dy) screen column row = screen x y ∧
        ((∃ rect ∈ rects, rect.Contains column row) → 0 < moves) := by
  induction rects generalizing screen with
  | nil => exact ⟨0, column, row, by simp, rfl, fun ⟨_, absurd, _⟩ => (List.not_mem_nil absurd).elim⟩
  | cons rect rest inductionHypothesis =>
    obtain ⟨moves, x, y, moved, same, positive⟩ := @inductionHypothesis (copyRows dx dy screen rect)
      fun other member => sources other (List.mem_cons_of_mem rect member)
    rw [List.foldl_cons, same, copyRows_spec]
    split
    · next contains =>
      obtain ⟨left, top⟩ := sources rect List.mem_cons_self
      unfold Rectangle.Contains at contains
      refine ⟨moves + 1, (x - dx).toNat, (y - dy).toNat, ?_, rfl, fun _ => moves.succ_pos⟩
      push_cast
      rw [Int.add_mul, Int.add_mul]
      omega
    · next away =>
      refine ⟨moves, x, y, moved, rfl, fun ⟨other, member, contains⟩ => ?_⟩
      rcases List.mem_cons.mp member with rfl | later
      · -- the pixel was moved by this rectangle, and so it was moved again
        by_contra unmoved
        obtain rfl : moves = 0 := Nat.eq_zero_of_not_pos unmoved
        obtain ⟨sameX, sameY⟩ := moved
        rw [Nat.cast_zero, zero_mul, sub_zero, Nat.cast_inj] at sameX sameY
        exact away (sameX ▸ sameY ▸ contains)
      · exact positive ⟨other, later, contains⟩

/-- Where a rectangle is moved onto the source of a later one, a pixel of the later one ends up as
some other pixel than its source. -/
theorem exists_overwritten {rects : List Rectangle}
    (sources : ∀ rect ∈ rects, 0 ≤ rect.x - dx ∧ 0 ≤ rect.y - dy)
    (disjoint : rects.Pairwise fun one other =>
      ∀ column row, one.Contains column row → ¬other.Contains column row)
    (disturbed : ¬rects.Pairwise fun earlier later => ¬Disturbs dx dy earlier later) :
    ∃ rect ∈ rects, ∃ column row, rect.Contains column row ∧ ∀ screen : Screen size,
      ∃ x y, ¬(x = (column - dx).toNat ∧ y = (row - dy).toNat) ∧
        rects.foldl (copyRows dx dy) screen column row = screen x y := by
  rw [List.pairwise_iff_forall_sublist] at disturbed
  simp only [not_forall, not_not] at disturbed
  obtain ⟨earlier, later, both, column, row, x, y, inLater, sameX, sameY, inEarlier⟩ := disturbed
  obtain ⟨first, second, rfl, inFirst, inSecond⟩ := List.cons_sublist_iff.mp both
  rw [List.singleton_sublist] at inSecond
  obtain ⟨-, -, apart⟩ := List.pairwise_append.mp disjoint
  refine ⟨later, List.mem_append_right first inSecond, column, row, inLater, fun screen => ?_⟩
  have away : ∀ rect ∈ second, ¬rect.Contains x y := fun rect member =>
    apart earlier inFirst rect member x y inEarlier
  rw [← sameX, ← sameY, Int.toNat_natCast, Int.toNat_natCast]
  have last : second.foldl (copyRows dx dy) (first.foldl (copyRows dx dy) screen) column row =
      first.foldl (copyRows dx dy) screen x y := by
    rw [foldl_copyRows _ ⟨later, inSecond, inLater⟩]
    · rw [← sameX, ← sameY, Int.toNat_natCast, Int.toNat_natCast]
    · refine List.pairwise_of_forall_mem_list fun rect member _ _ _ => ?_
      rw [← sameX, ← sameY, Int.toNat_natCast, Int.toNat_natCast]
      exact away rect member
  obtain ⟨moves, fromX, fromY, moved, same, positive⟩ := @exists_foldl_copyRows _ dx dy screen first
    (fun rect member => sources rect (List.mem_append_left second member)) x y
  refine ⟨fromX, fromY, fun ⟨equalX, equalY⟩ => ?_, ?_⟩
  · -- the region was not moved at all, but then the two rectangles would meet
    have some := positive ⟨earlier, inFirst, inEarlier⟩
    have still : dx = 0 ∧ dy = 0 := by
      have none : (moves : Int) * dx = 0 ∧ (moves : Int) * dy = 0 := by omega
      exact ⟨(Int.mul_eq_zero.mp none.1).resolve_left (by omega),
        (Int.mul_eq_zero.mp none.2).resolve_left (by omega)⟩
    obtain rfl : column = x := by omega
    obtain rfl : row = y := by omega
    exact away later inSecond inLater
  · rw [List.foldl_append, last, same]

/-- A region is copied as if its pixels had been put aside, whatever the screen shows, if and only if
none of its rectangles is moved onto the source of one that is moved later. -/
theorem copied_faithfully_iff (format : 0 < size) (settings : UpdateSettings)
    (server : ServerClient size width height) {copyRegion : ClippedRegion width height} {dx dy : Int}
    (copyable : Copyable copyRegion dx dy) :
    (∀ (screen : Screen size) (column row : Nat), copyRegion.Contains column row →
      (rfbDoCopyRegion settings { server with screen } copyRegion dx dy).screen column row =
        screen (column - dx).toNat (row - dy).toNat) ↔ Undisturbed copyRegion dx dy := by
  constructor
  · intro faithful
    by_contra disturbed
    obtain ⟨rect, member, column, row, contains, overwritten⟩ :=
      exists_overwritten copyable.sources (copyRegion.toRegion.pairwise_disjoint _ _) disturbed
    let marked : Screen size := fun x y =>
      List.Vector.replicate size (if x = (column - dx).toNat ∧ y = (row - dy).toNat then 1 else 0)
    obtain ⟨x, y, other, same⟩ := overwritten marked
    have final := faithful marked column row ((ClippedRegion.contains_toRegion column row).mp
      ((Region.contains_iff _ _ _ _ _).mpr ⟨rect, member, contains⟩))
    rw [screen_rfbDoCopyRegion] at final
    have equal := congrArg List.Vector.toList (same.symm.trans final)
    dsimp only [marked] at equal
    rw [if_neg other, if_pos ⟨rfl, rfl⟩] at equal
    exact absurd ((List.replicate_inj.mp equal).2.resolve_left format.ne') (by decide)
  · intro undisturbed screen column row contains
    exact (pixel_rfbDoCopyRegion settings { server with screen } copyable undisturbed column row).1
      contains

/-- A pixel, and the two pixels below it and its neighbour. -/
def stairs : ClippedRegion 2 3 :=
  (ClippedRegion.rect ⟨0, 0, 1, 1⟩ (by decide) (by decide)).or
    (.rect ⟨0, 1, 2, 1⟩ (by decide) (by decide))

def stairsServer : ServerClient 1 2 3 where
  screen := fun _ row => List.Vector.replicate 1 (UInt8.ofNat row)
  modifiedRegion := .empty 2 3
  copyRegion := .empty 2 3
  copyDX := 0
  copyDY := 0
  requestedRegion := .empty 2 3

/-- The lower rectangle is moved up first. -/
theorem copied_faithfully_iff_stairs : ¬Undisturbed stairs 0 (-1) := by
  have copyable : Copyable stairs 0 (-1) := by
    intro x y contains
    have inStairs := (contains_or.mp contains).imp (ClippedRegion.contains_rect _ _).mp
      (ClippedRegion.contains_rect _ _).mp
    dsimp only at inStairs
    omega
  intro undisturbed
  have faithful := (copied_faithfully_iff (by decide) ⟨true, 50, .raw, 0, 0⟩ stairsServer
    copyable).mpr undisturbed stairsServer.screen 0 0 (contains_or.mpr (.inl
      ((ClippedRegion.contains_rect _ _).mpr (by decide))))
  exact absurd faithful (by decide)

/-! ### In step -/

/-- A pixel of the copied region that was not modified is shown at its source, and any other pixel
that was not modified is shown at its place. -/
structure InStep (server : ServerClient size width height)
    (buffer : FrameBuffer (PixelBytes size)) : Prop where
  wide : buffer.width = width
  high : buffer.height = height
  kept : ∀ column row : Nat, column < width → row < height →
    ¬server.modifiedRegion.Contains column row → ¬server.copyRegion.Contains column row →
      buffer.pixel column row = server.screen column row
  source : ∀ {x y}, ¬server.modifiedRegion.Contains x y → server.copyRegion.Contains x y →
    (0 ≤ x - server.copyDX ∧ x - server.copyDX < width) ∧
      0 ≤ y - server.copyDY ∧ y - server.copyDY < height
  moved : ∀ column row : Nat,
    ¬server.modifiedRegion.Contains column row → server.copyRegion.Contains column row →
      buffer.pixel (column - server.copyDX).toNat (row - server.copyDY).toNat =
        server.screen column row

variable {server : ServerClient size width height} {buffer : FrameBuffer (PixelBytes size)}

/-- The screen was drawn on in a region. -/
theorem InStep.drawn (step : server.InStep buffer) (modRegion : ClippedRegion width height)
    {screen : Screen size} (same : ∀ column row : Nat, column < width → row < height →
      ¬modRegion.Contains column row → screen column row = server.screen column row) :
    (rfbMarkRegionAsModified { server with screen } modRegion).InStep buffer where
  wide := step.wide
  high := step.high
  kept := by
    intro column row inside below unmodified uncopied
    obtain ⟨before, undrawn⟩ := not_or.mp (mt contains_or.mpr unmodified)
    rw [step.kept column row inside below before uncopied]
    exact (same column row inside below undrawn).symm
  source := fun unmodified copied => step.source (mt (fun held => contains_or.mpr (.inl held))
    unmodified) copied
  moved := by
    intro column row unmodified copied
    obtain ⟨before, undrawn⟩ := not_or.mp (mt contains_or.mpr unmodified)
    have inScreen := server.copyRegion.clipped copied
    refine (step.moved column row before copied).trans ?_
    exact (same column row (by omega) (by omega) undrawn).symm

/-- The client asked for a region. -/
theorem InStep.request (step : server.InStep buffer) (tmpRegion : ClippedRegion width height)
    (incremental : Bool) : (server.request tmpRegion incremental).InStep buffer := by
  cases incremental with
  | true => exact ⟨step.wide, step.high, step.kept, step.source, step.moved⟩
  | false =>
    refine ⟨step.wide, step.high, fun column row inside below unmodified uncopied => ?_,
      fun unmodified copied => ?_, fun column row unmodified copied => ?_⟩
    · obtain ⟨before, unasked⟩ := not_or.mp (mt contains_or.mpr unmodified)
      exact step.kept column row inside below before fun copied =>
        uncopied (contains_subtract.mpr ⟨copied, unasked⟩)
    · exact step.source (mt (fun held => contains_or.mpr (.inl held)) unmodified)
        (contains_subtract.mp copied).1
    · exact step.moved column row (mt (fun held => contains_or.mpr (.inl held)) unmodified)
        (contains_subtract.mp copied).1

/-- What `resolveCopy` leaves in the copied region was copied just as far, and its source was not
modified, and neither was the source of what is copied now. -/
theorem resolveCopy_spec (server : ServerClient size width height)
    (copyRegion : ClippedRegion width height) (dx dy : Int) (x y : Int) :
    (((server.resolveCopy copyRegion dx dy).2.Contains x y →
        server.copyRegion.Contains x y ∧ server.copyDX = dx ∧ server.copyDY = dy) ∧
      (server.modifiedRegion.Contains x y →
        (server.resolveCopy copyRegion dx dy).1.Contains x y)) ∧
      (server.copyRegion.Contains x y → ¬(server.resolveCopy copyRegion dx dy).2.Contains x y →
        (server.resolveCopy copyRegion dx dy).1.Contains x y) ∧
      (copyRegion.Contains x y → server.copyRegion.Contains (x - dx) (y - dy) →
        (server.resolveCopy copyRegion dx dy).1.Contains (x - dx) (y - dy)) := by
  unfold resolveCopy
  split
  · next empty =>
    have nothing := sraRgnEmpty_iff.mp empty
    exact ⟨⟨fun held => absurd held (nothing x y), id⟩, fun held => absurd held (nothing x y),
      fun _ held => absurd held (nothing _ _)⟩
  · split
    · exact ⟨⟨fun held => absurd held not_contains_create, fun held => contains_or.mpr (.inl held)⟩,
        fun held _ => contains_or.mpr (.inr held), fun _ held => contains_or.mpr (.inr held)⟩
    · next same =>
      rw [not_or, not_not, not_not] at same
      refine ⟨⟨fun held => ⟨held, same⟩, fun held => contains_or.mpr (.inl held)⟩,
        fun held gone => absurd held gone, fun copied held => contains_or.mpr (.inr ?_)⟩
      refine contains_and.mpr ⟨(contains_offset (-dx) (-dy)).mpr ?_, held⟩
      rwa [sub_neg_eq_add, sub_neg_eq_add, Int.sub_add_cancel, Int.sub_add_cancel]

/-- A region was copied on the screen. -/
theorem InStep.copied (settings : UpdateSettings) (step : server.InStep buffer)
    {copyRegion : ClippedRegion width height} {dx dy : Int} (copyable : Copyable copyRegion dx dy)
    (undisturbed : Undisturbed copyRegion dx dy) :
    (rfbDoCopyRegion settings server copyRegion dx dy).InStep buffer := by
  have drawn := pixel_rfbDoCopyRegion settings server copyable undisturbed
  unfold rfbDoCopyRegion at *
  dsimp only at *
  generalize List.foldl (copyRows dx dy) server.screen _ = moved at *
  by_cases useCopyRect : settings.useCopyRect = true
  · have resolved := resolveCopy_spec { server with screen := moved } copyRegion dx dy
    unfold rfbScheduleCopyRegion at *
    rw [if_pos useCopyRect] at *
    dsimp only at *
    generalize resolveCopy { server with screen := moved } copyRegion dx dy = regions at *
    obtain ⟨modifiedBefore, copiedBefore⟩ := regions
    dsimp only at *
    have unmodifiedBefore {x y : Int} (unmodified : ¬(modifiedBefore.or (ClippedRegion.andClipped
        (sraRgnOffset modifiedBefore.toSraRegion dx dy) (copiedBefore.or copyRegion))).Contains x y) :
        ¬modifiedBefore.Contains x y ∧ ((copiedBefore.or copyRegion).Contains x y →
          ¬modifiedBefore.Contains (x - dx) (y - dy)) := by
      obtain ⟨before, source⟩ := not_or.mp (mt contains_or.mpr unmodified)
      exact ⟨before, fun copied modified => source (contains_and.mpr
        ⟨(contains_offset dx dy).mpr modified, copied⟩)⟩
    refine ⟨step.wide, step.high, fun column row inScreen below unmodified uncopied => ?_,
      fun {x y} unmodified copied => ?_, fun column row unmodified copied => ?_⟩
    · obtain ⟨before, -⟩ := unmodifiedBefore unmodified
      obtain ⟨old, away⟩ := not_or.mp (mt contains_or.mpr uncopied)
      obtain ⟨⟨-, grows⟩, moves, -⟩ := resolved column row
      refine (step.kept column row inScreen below (mt grows before) fun copied => ?_).trans
        ((drawn column row).2 away).symm
      exact before (moves copied old)
    · obtain ⟨before, -⟩ := unmodifiedBefore unmodified
      rcases contains_or.mp copied with old | new
      · obtain ⟨⟨stays, grows⟩, -⟩ := resolved x y
        obtain ⟨copiedOld, rfl, rfl⟩ := stays old
        exact step.source (mt grows before) copiedOld
      · exact copyable new
    · obtain ⟨before, source⟩ := unmodifiedBefore unmodified
      by_cases new : copyRegion.Contains column row
      · have inside := copyable new
        obtain ⟨-, -, copiedSource⟩ := resolved column row
        obtain ⟨⟨-, grows⟩, -⟩ := resolved (column - dx) (row - dy)
        have x : (((column - dx).toNat : Nat) : Int) = column - dx := Int.toNat_of_nonneg (by omega)
        have y : (((row - dy).toNat : Nat) : Int) = row - dy := Int.toNat_of_nonneg (by omega)
        refine (step.kept (column - dx).toNat (row - dy).toNat (by omega) (by omega) ?_ ?_).trans
          ((drawn column row).1 new).symm
        · rw [x, y]
          exact mt grows (source copied)
        · rw [x, y]
          exact fun old => source copied (copiedSource new old)
      · obtain ⟨⟨stays, grows⟩, -⟩ := resolved column row
        obtain ⟨copiedOld, rfl, rfl⟩ := stays ((contains_or.mp copied).resolve_right new)
        exact (step.moved column row (mt grows before) copiedOld).trans ((drawn column row).2 new).symm
  · unfold rfbScheduleCopyRegion at *
    rw [if_neg useCopyRect] at *
    exact step.drawn copyRegion fun column row _ _ away => (drawn column row).2 away

theorem screen_rfbSendFramebufferUpdate (settings : UpdateSettings)
    (server : ServerClient size width height) :
    (rfbSendFramebufferUpdate settings server).1.screen = server.screen := by
  unfold rfbSendFramebufferUpdate
  split <;> rfl

/-- A pixel is sent with the region or with its bounding box. -/
theorem contains_limitRects {settings : UpdateSettings} {region : ClippedRegion width height}
    {x y : Int} (contains : region.Contains x y) : (limitRects settings region).Contains x y := by
  unfold limitRects
  split
  · exact contains_bbox contains
  · exact contains

/-- The client has applied the update that was sent, if there was one. -/
def Arrived (sent : Option (Update size)) (before after : FrameBuffer (PixelBytes size)) : Prop :=
  match sent with
  | some update => update.Applied before after
  | none => after = before

/-- What is sent as a copy was copied, and is not modified. -/
theorem contains_updateCopyRegion {x y : Int} : server.updateCopyRegion.Contains x y ↔
    ((server.copyRegion.Contains x y ∧ ¬server.modifiedRegion.Contains x y) ∧
      server.requestedRegion.Contains x y) ∧
        server.requestedRegion.Contains (x - server.copyDX) (y - server.copyDY) := by
  refine contains_and.trans (and_congr (contains_and.trans ?_) (contains_offset _ _))
  exact and_congr_left fun _ => contains_subtract

/-- A pixel that was modified or copied is sent, or stays modified. -/
theorem contains_updateRegion {x y : Int}
    (changed : server.modifiedRegion.Contains x y ∨ server.copyRegion.Contains x y)
    (unmodified : ¬((server.changedRegion.subtract server.updateRegion.toSraRegion).subtract
      server.updateCopyRegion.toSraRegion).Contains x y)
    (uncopied : ¬server.updateCopyRegion.Contains x y) : server.updateRegion.Contains x y := by
  by_contra gone
  refine unmodified (contains_subtract.mpr ⟨contains_subtract.mpr ⟨contains_or.mpr ?_, gone⟩,
    uncopied⟩)
  by_cases modified : server.modifiedRegion.Contains x y
  · exact .inl modified
  · exact .inr (contains_subtract.mpr ⟨changed.resolve_left modified, modified⟩)

/-- An update was sent, or there was nothing to send. -/
theorem InStep.updated (settings : UpdateSettings) (step : server.InStep buffer)
    {after : FrameBuffer (PixelBytes size)}
    (arrived : Arrived (rfbSendFramebufferUpdate settings server).2 buffer after) :
    (rfbSendFramebufferUpdate settings server).1.InStep after := by
  unfold rfbSendFramebufferUpdate at *
  split at arrived
  · next nothing =>
    rw [if_pos nothing]
    have same : after = buffer := arrived
    rw [same]
    refine ⟨step.wide, step.high, fun column row inside below unmodified uncopied => ?_,
      fun unmodified copied => step.source unmodified (contains_subtract.mp copied).1,
      fun column row unmodified copied => step.moved column row unmodified
        (contains_subtract.mp copied).1⟩
    exact step.kept column row inside below unmodified fun copied =>
      uncopied (contains_subtract.mpr ⟨copied, unmodified⟩)
  · next some =>
    rw [if_neg some]
    have applied : Update.Applied _ buffer after := arrived
    refine ⟨applied.width.trans step.wide, applied.height.trans step.high,
      fun column row inside below unmodified _ => ?_,
      fun _ copied => absurd copied not_contains_create,
      fun _ _ _ copied => absurd copied not_contains_create⟩
    have inWidth : column < buffer.width := step.wide.symm ▸ inside
    by_cases new : (limitRects settings server.updateRegion).toRegion.Contains column row
    · exact applied.new column row inWidth new
    by_cases moves : server.updateCopyRegion.toRegion.Contains column row
    · obtain ⟨⟨⟨copied, before⟩, -⟩, -⟩ :=
        contains_updateCopyRegion.mp ((ClippedRegion.contains_toRegion column row).mp moves)
      exact (applied.moved column row inWidth new moves).trans
        (step.moved column row before copied)
    · have unchanged := mt (fun changed => (ClippedRegion.contains_toRegion column row).mpr
        (contains_limitRects (contains_updateRegion changed unmodified
          (mt (ClippedRegion.contains_toRegion column row).mpr moves)))) new
      obtain ⟨before, uncopied⟩ := not_or.mp unchanged
      exact (applied.kept column row inWidth new moves).trans
        (step.kept column row inside below before uncopied)

/-- What is sent as pixels lies in the screen. -/
theorem within_rfbSendFramebufferUpdate {settings : UpdateSettings}
    {later : ServerClient size width height} {update : Update size}
    (sends : rfbSendFramebufferUpdate settings server = (later, some update)) :
    ∀ rect ∈ update.updateRegion.rectangles false false, rect.Within width height := by
  unfold rfbSendFramebufferUpdate at sends
  split at sends
  · cases sends
  · cases sends
    exact fun rect member => ClippedRegion.within_rectangles member

/-- The update that is sent fits into the screen. -/
theorem fits_rfbSendFramebufferUpdate {settings : UpdateSettings}
    {later : ServerClient size width height} {update : Update size}
    (sends : rfbSendFramebufferUpdate settings server = (later, some update))
    (few : update.Few settings.preferredEncoding) :
    update.Fits settings.preferredEncoding width height := by
  refine ⟨?_, within_rfbSendFramebufferUpdate sends, few⟩
  unfold rfbSendFramebufferUpdate at sends
  split at sends
  · cases sends
  · cases sends
    intro rect member
    have some := Region.positive _ member
    obtain ⟨first, last⟩ := ClippedRegion.contains_corners member
    have low := server.requestedRegion.clipped (contains_updateCopyRegion.mp first).2
    have high := server.requestedRegion.clipped (contains_updateCopyRegion.mp last).2
    refine ⟨ClippedRegion.within_rectangles member, ?_, ?_⟩
    · dsimp only
      omega
    · unfold Rectangle.Within
      dsimp only
      omega

/-- Something is to be sent where a pixel was modified or copied. -/
theorem updatePending_iff : server.updatePending = true ↔
    ∃ x y, server.modifiedRegion.Contains x y ∨ server.copyRegion.Contains x y := by
  have holds (region : ClippedRegion width height) :
      (!region.sraRgnEmpty) = true ↔ ∃ x y, region.Contains x y := by
    rw [Bool.not_eq_true', ← Bool.not_eq_true, sraRgnEmpty_iff]
    simp only [not_forall, not_not]
  unfold updatePending
  rw [Bool.or_eq_true, holds, holds, or_comm]
  simp only [exists_or]

/-- Where the client asked for the whole screen, all that changed is sent. -/
theorem rfbSendFramebufferUpdate_whole (settings : UpdateSettings)
    (pending : server.updatePending = true)
    (whole : ∀ x y : Int, (0 ≤ x ∧ x < width) ∧ 0 ≤ y ∧ y < height →
      server.requestedRegion.Contains x y) :
    ∃ after update, rfbSendFramebufferUpdate settings server = (after, some update) ∧
      after.updatePending = false ∧ after.requestedRegion.sraRgnEmpty = true := by
  have asked {region : ClippedRegion width height} {x y : Int} (contains : region.Contains x y) :
      server.requestedRegion.Contains x y := whole x y (region.clipped contains)
  unfold rfbSendFramebufferUpdate
  split
  · next nothing =>
    obtain ⟨x, y, changed⟩ := updatePending_iff.mp pending
    have contains : server.changedRegion.Contains x y := by
      refine contains_or.mpr ?_
      by_cases modified : server.modifiedRegion.Contains x y
      · exact .inl modified
      · exact .inr (contains_subtract.mpr ⟨changed.resolve_left modified, modified⟩)
    exact absurd (contains_and.mpr ⟨contains, asked contains⟩) (sraRgnEmpty_iff.mp nothing x y)
  · refine ⟨_, _, rfl, ?_, rfl⟩
    rw [← Bool.not_eq_true, updatePending_iff]
    rintro ⟨x, y, modified | copied⟩
    · obtain ⟨changed, uncopied⟩ := contains_subtract.mp modified
      obtain ⟨changed, unsent⟩ := contains_subtract.mp changed
      exact unsent (contains_subtract.mpr
        ⟨contains_and.mpr ⟨changed, asked changed⟩, uncopied⟩)
    · exact absurd copied not_contains_create

end ServerClient

end TermPlux
