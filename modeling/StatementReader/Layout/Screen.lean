import StatementReader.Layout.View
import StatementReader.Text.Cluster
import StatementReader.Text.ClusterWidth

/-!
# The screen

A screen is a grid of cells. The edit view is drawn into an area of it, scrolled so that the row of
the cursor is the last one shown unless all rows up to it fit. A row is drawn cluster by cluster: a
cluster of no width is left out, one that is wider than the area is skipped, and drawing stops at
the first one that would pass the edge. The cells to the right of a wide cluster stay blank.

An area may reach over the right or the lower edge of the screen. The edit view is laid out in the
whole of it, and what lies beyond the edge is not shown.

Rows and columns of the edit view are numbers of any size, and coordinates of the screen have 16
bits. A row or column that becomes a coordinate keeps its low 16 bits only (`Coordinate.ofNat`), and
the sum of two coordinates stops at the last one (`Coordinate.add`).
-/

namespace StatementReader

/-- A cell of the screen. -/
structure Cell where
  symbol : Text
  style : Style
  deriving DecidableEq, Repr

/-- A cell in which nothing is drawn. -/
def Cell.blank : Cell := ⟨[' '], .plain⟩

/-- A rectangle of the screen, in coordinates. -/
structure Area where
  x : Nat
  y : Nat
  width : Nat
  height : Nat
  deriving DecidableEq, Repr

/-- The cells of a screen and the place of its cursor. -/
structure Screen where
  rows : List (List Cell)
  cursorX : Nat
  cursorY : Nat
  deriving DecidableEq, Repr

namespace Coordinate

/-- The greatest coordinate. -/
def last : Nat := 65535

/-- The coordinate that a number is cut down to. -/
def ofNat (n : Nat) : Nat := n % (last + 1)

/-- The sum of two coordinates, at most the last one. -/
def add (a b : Nat) : Nat := min (a + b) last

/-- A number that is no greater than the last coordinate is not changed. -/
theorem ofNat_of_le {n : Nat} (h : n ≤ last) : ofNat n = n := Nat.mod_eq_of_lt (Nat.lt_succ_of_le h)

theorem add_of_le {a b : Nat} (h : a + b ≤ last) : add a b = a + b := Nat.min_eq_left h

end Coordinate

namespace Screen

/-- The clusters of a row with their styles. -/
def rowClusters (row : StyledLine) : List Cell :=
  row.flatMap fun span =>
    ((Text.clusters span.text).filter (· ≠ ['\n'])).map fun symbol => ⟨symbol, span.style⟩

/-- The cells of clusters, in the columns that are left of `room` in an area of a width. -/
def drawRow (width : Nat) : Nat → List Cell → List Cell
  | room, [] => List.replicate room .blank
  | room, cell :: cells =>
    let w := Text.clusterWidth cell.symbol
    if width < w ∨ w = 0 then drawRow width room cells
    else if room < w then List.replicate room .blank
    else cell :: List.replicate (w - 1) .blank ++ drawRow width (room - w) cells

/-- The first row shown: no row is left out before the cursor's row would be. -/
def firstRow (cursorRow height : Nat) : Nat := cursorRow + 1 - height

/-- The rows of the edit view that an area shows. -/
def visibleRows (area : Area) (view : EditView) : List StyledLine :=
  ((view.rows area.width).drop (firstRow (view.cursorPlace area.width).row area.height)).take
    area.height

/-- A row of the screen that holds the cells of a row of an area, cut off at the edge. -/
def placeRow (cols x : Nat) (cells : List Cell) : List Cell :=
  ((List.replicate x Cell.blank ++ cells).rightpad cols Cell.blank).take cols

/-- The rows of a screen that hold the rows of an area, cut off at the edge. -/
def placeRows (cols rowCount : Nat) (area : Area) (drawn : List (List Cell)) : List (List Cell) :=
  let empty := List.replicate cols Cell.blank
  ((List.replicate area.y empty ++ drawn.map (placeRow cols area.x)).rightpad rowCount empty).take
    rowCount

/-- An empty screen with the edit view drawn into an area of it. -/
def draw (cols rowCount : Nat) (area : Area) (view : EditView) : Screen :=
  if area.width = 0 ∨ area.height = 0 then
    ⟨placeRows cols rowCount area [], 0, 0⟩
  else
    let place := view.cursorPlace area.width
    let drawn := (visibleRows area view).map fun row =>
      drawRow area.width area.width (rowClusters row)
    { rows := placeRows cols rowCount area drawn
      cursorX := min (Coordinate.add area.x (Coordinate.ofNat place.col))
        (Coordinate.add area.x (area.width - 1))
      cursorY := Coordinate.add area.y
        (Coordinate.ofNat (place.row - firstRow place.row area.height)) }

/-- A row that is placed on the screen is as long as the screen is wide. -/
@[simp] theorem length_placeRow (cols x : Nat) (cells : List Cell) :
    (placeRow cols x cells).length = cols := by
  simp only [placeRow, List.length_take, List.length_rightpad]
  omega

/-- The screen has all its rows, wherever the area lies. -/
@[simp] theorem length_placeRows (cols rowCount : Nat) (area : Area) (drawn : List (List Cell)) :
    (placeRows cols rowCount area drawn).length = rowCount := by
  simp only [placeRows, List.length_take, List.length_rightpad]
  omega

end Screen

end StatementReader
