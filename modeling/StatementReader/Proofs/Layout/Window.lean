import Mathlib.Order.Bounds.Basic
import StatementReader.Layout.Screen
import StatementReader.Proofs.Layout.Walk

/-!
# The window on the rows

An area of the screen is a window on the rows of the edit view, and the row of the cursor decides
where it begins. The row is never far: there are at least as many rows as the walk of the cursor
counts, so it is one of the rows or the one just below them (`EditView.row_cursorPlace_le`), also
where the prompt is wider than the screen. The column is always on the screen
(`EditView.col_cursorPlace_lt`). Hence the cursor is in the window, and no number is cut down when
rows and columns become coordinates, however many rows there are (`Screen.draw_shows_cursor`).
-/

namespace StatementReader
namespace EditView

/-- The cursor is shown on one of the rows, or just below the last of them. -/
theorem row_cursorPlace_le (v : EditView) (width : ℕ) :
    (v.cursorPlace width).row ≤ (v.rows width).length := by
  obtain ⟨before, start, rest, after, hbefore, hlines⟩ := v.exists_cursorLine
  have hcounted := (v.forall₂_lineRows width).sum_le_sum
  obtain ⟨-, hwalk⟩ := Place.walk_bounds v.gutterWidth (max width 1) hbefore rest
  have hwrapped (p : Place) : (p.wrapped (max width 1)).row ≤ p.row + 1 := by
    unfold Place.wrapped
    split
    · exact le_rfl
    · exact Nat.le_succ p.row
  rw [← List.length_flatten, flatten_lineRows, hlines, ← List.singleton_append, ← List.append_assoc,
    List.map_append, List.sum_append] at hcounted
  -- the row after that of the walk is one that is counted, or the one below these
  calc
    (v.cursorPlace width).row
        ≤ (Place.walk v.gutterWidth (max width 1) (Text.upTo v.cursor v.text)).row + 1 := hwrapped _
    _ ≤ ((before ++ [start ++ rest]).map (Place.rowCount v.gutterWidth (max width 1))).sum := hwalk
    _ ≤ _ := Nat.le_add_right _ _
    _ ≤ (v.rows width).length := hcounted

theorem col_cursorPlace_lt (v : EditView) (width : ℕ) :
    (v.cursorPlace width).col < max width 1 := by
  rw [cursorPlace, StatementReader.cursorPlace, Place.wrapped]
  split
  · exact Nat.lt_of_lt_of_le Nat.one_pos (le_max_right width 1)
  · omega

end EditView

namespace Screen

variable {area : Area}

/-- The window begins as early as it can with the row of the cursor in it. -/
theorem isLeast_firstRow (row : ℕ) {height : ℕ} (h : 0 < height) :
    IsLeast {start | start ≤ row ∧ row < start + height} (firstRow row height) := by
  unfold firstRow
  constructor
  · constructor <;> omega
  · rintro start ⟨-, hstart⟩
    omega

/-- The rows of the screen in an area are those drawn in it, as far as there are any. -/
theorem getElem?_placeRows (cols : ℕ) {rowCount i : ℕ} (drawn : List (List Cell))
    (hi : area.y + i < rowCount) : (placeRows cols rowCount area drawn)[area.y + i]? =
      some ((drawn[i]?).elim (List.replicate cols .blank) (placeRow cols area.x)) := by
  have hlength : (List.replicate area.y (List.replicate cols Cell.blank)).length = area.y :=
    List.length_replicate
  rw [placeRows, List.getElem?_take_of_lt hi, List.rightpad, List.append_assoc,
    List.getElem?_append_right (by omega), hlength, Nat.add_sub_cancel_left]
  by_cases hdrawn : i < drawn.length
  · rw [List.getElem?_append_left (by rwa [List.length_map]), List.getElem?_map,
      List.getElem?_eq_getElem hdrawn]
    rfl
  · -- below the rows that are drawn
    rw [List.getElem?_append_right (by rw [List.length_map]; omega), List.length_append, hlength,
      List.length_map, List.getElem?_replicate_of_lt (by omega),
      List.getElem?_eq_none (Nat.not_lt.1 hdrawn)]
    rfl

/-- Row by row, the window shows the rows from its first one on. -/
theorem getElem?_visibleRows (v : EditView) {i : ℕ} (hi : i < area.height) :
    (visibleRows area v)[i]? =
      (v.rows area.width)[firstRow (v.cursorPlace area.width).row area.height + i]? := by
  rw [visibleRows, List.getElem?_take_of_lt hi, List.getElem?_drop]

theorem getElem?_rows_draw (cols : ℕ) {rowCount i : ℕ} (v : EditView) (hwidth : 0 < area.width)
    (hi : i < area.height) (hrow : area.y + i < rowCount) :
    (draw cols rowCount area v).rows[area.y + i]? =
      some (((v.rows area.width)[firstRow (v.cursorPlace area.width).row area.height + i]?).elim
        (List.replicate cols .blank) fun row =>
          placeRow cols area.x (drawRow area.width area.width (rowClusters row))) := by
  rw [draw, if_neg (by omega)]
  show (placeRows cols rowCount area _)[area.y + i]? = _
  rw [getElem?_placeRows cols _ hrow, List.getElem?_map, getElem?_visibleRows v hi, Option.elim_map]
  rfl

/-- The column of the cursor is less than the width, so nothing is cut down to fit. -/
theorem cursorX_draw (cols rowCount : ℕ) (v : EditView) (hwidth : 0 < area.width)
    (hheight : 0 < area.height) (hright : area.x + area.width ≤ Coordinate.last) :
    Coordinate.ofNat (v.cursorPlace area.width).col = (v.cursorPlace area.width).col ∧
    (draw cols rowCount area v).cursorX = area.x + (v.cursorPlace area.width).col ∧
    (draw cols rowCount area v).cursorX < area.x + area.width := by
  have hcol := v.col_cursorPlace_lt area.width
  rw [max_eq_left hwidth] at hcol
  -- the area ends no later than the coordinates do, and so does every sum below its edge
  have hcast : Coordinate.ofNat (v.cursorPlace area.width).col = (v.cursorPlace area.width).col :=
    Coordinate.ofNat_of_le (by omega)
  have hx : (draw cols rowCount area v).cursorX = area.x + (v.cursorPlace area.width).col := by
    rw [draw, if_neg (by omega)]
    show min (Coordinate.add area.x (Coordinate.ofNat (v.cursorPlace area.width).col)) _ = _
    rw [hcast, Coordinate.add_of_le (by omega), Coordinate.add_of_le (by omega)]
    exact min_eq_left (by omega)
  exact ⟨hcast, hx, by omega⟩

/-- The row of the cursor is less than the height from the first row shown, however many rows there
are before that one. -/
theorem cursorY_draw (cols rowCount : ℕ) (v : EditView) (hwidth : 0 < area.width)
    (hheight : 0 < area.height) (hbottom : area.y + area.height ≤ Coordinate.last) :
    let place := v.cursorPlace area.width
    let first := firstRow place.row area.height
    Coordinate.ofNat (place.row - first) = place.row - first ∧
    (draw cols rowCount area v).cursorY = area.y + (place.row - first) ∧
    (draw cols rowCount area v).cursorY < area.y + area.height := by
  intro place first
  obtain ⟨-, hto⟩ := (isLeast_firstRow place.row hheight).1
  -- within the height of the area no coordinate is cut off
  have hcast : Coordinate.ofNat (place.row - first) = place.row - first :=
    Coordinate.ofNat_of_le (by omega)
  have hy : (draw cols rowCount area v).cursorY = area.y + (place.row - first) := by
    rw [draw, if_neg (by omega)]
    show Coordinate.add area.y (Coordinate.ofNat (place.row - first)) = _
    rw [hcast, Coordinate.add_of_le (by omega)]
  exact ⟨hcast, hy, by omega⟩

/-- An area with the edit view in it shows the rows from the first one on that lets the row of the
cursor be among them, and blank rows below the last. The cursor is in the area, in the row that
shows its row or just below the last one, and no row or column is cut down to fit a coordinate. -/
theorem draw_shows_cursor (cols rowCount : ℕ) (v : EditView) (hwidth : 0 < area.width)
    (hheight : 0 < area.height) (hright : area.x + area.width ≤ Coordinate.last)
    (hbottom : area.y + area.height ≤ Coordinate.last) :
    let place := v.cursorPlace area.width
    let first := firstRow place.row area.height
    let screen := draw cols rowCount area v
    IsLeast {start | start ≤ place.row ∧ place.row < start + area.height} first ∧
    visibleRows area v = ((v.rows area.width).drop first).take area.height ∧
    (∀ i < area.height, area.y + i < rowCount → screen.rows[area.y + i]? =
      some (((v.rows area.width)[first + i]?).elim (List.replicate cols .blank) fun row =>
        placeRow cols area.x (drawRow area.width area.width (rowClusters row)))) ∧
    Coordinate.ofNat place.col = place.col ∧
    Coordinate.ofNat (place.row - first) = place.row - first ∧
    screen.cursorX = area.x + place.col ∧ screen.cursorX < area.x + area.width ∧
    screen.cursorY = area.y + (place.row - first) ∧ screen.cursorY < area.y + area.height ∧
    (visibleRows area v)[screen.cursorY - area.y]? = (v.rows area.width)[place.row]? ∧
    place.row ≤ (v.rows area.width).length := by
  intro place first screen
  have hleast : IsLeast {start | start ≤ place.row ∧ place.row < start + area.height} first :=
    isLeast_firstRow place.row hheight
  obtain ⟨hfrom, hto⟩ := hleast.1
  obtain ⟨hcast, hx, hinside⟩ := cursorX_draw cols rowCount v hwidth hheight hright
  obtain ⟨hcastRow, hy, hinsideRow⟩ := cursorY_draw cols rowCount v hwidth hheight hbottom
  -- the window begins at or above the row of the cursor, so the two offsets add up to it
  have hshown :
      (visibleRows area v)[screen.cursorY - area.y]? = (v.rows area.width)[place.row]? := by
    rw [hy, Nat.add_sub_cancel_left, getElem?_visibleRows v (by omega)]
    exact congrArg _ (Nat.add_sub_cancel' hfrom)
  exact ⟨hleast, rfl, fun i hi hrow => getElem?_rows_draw cols v hwidth hi hrow, hcast, hcastRow,
    hx, hinside, hy, hinsideRow, hshown, v.row_cursorPlace_le area.width⟩

/-- An area of two rows that ends with the last coordinates, and the cursor on the third row. -/
theorem draw_shows_cursor_scrolled :
    let v : EditView := ⟨"@ ".toList, "a\nb\nc".toList, 5, true, .plain⟩
    let area : Area := ⟨65527, 65533, 8, 2⟩
    let place := v.cursorPlace area.width
    let first := firstRow place.row area.height
    let screen := draw 65535 65535 area v
    place.row = 2 ∧ 0 < area.width ∧ 0 < area.height ∧
    area.x + area.width ≤ Coordinate.last ∧ area.y + area.height ≤ Coordinate.last ∧
    IsLeast {start | start ≤ place.row ∧ place.row < start + area.height} first ∧
    visibleRows area v = ((v.rows area.width).drop first).take area.height ∧
    (∀ i < area.height, area.y + i < 65535 → screen.rows[area.y + i]? =
      some (((v.rows area.width)[first + i]?).elim (List.replicate 65535 .blank) fun row =>
        placeRow 65535 area.x (drawRow area.width area.width (rowClusters row)))) ∧
    Coordinate.ofNat place.col = place.col ∧
    Coordinate.ofNat (place.row - first) = place.row - first ∧
    screen.cursorX = area.x + place.col ∧ screen.cursorX < area.x + area.width ∧
    screen.cursorY = area.y + (place.row - first) ∧ screen.cursorY < area.y + area.height ∧
    (visibleRows area v)[screen.cursorY - area.y]? = (v.rows area.width)[place.row]? ∧
    place.row ≤ (v.rows area.width).length := by
  intro v area place first screen
  have hrow : place.row = 2 := by decide
  have hwidth : 0 < area.width := by decide
  have hheight : 0 < area.height := by decide
  have hright : area.x + area.width ≤ Coordinate.last := by decide
  have hbottom : area.y + area.height ≤ Coordinate.last := by decide
  exact ⟨hrow, hwidth, hheight, hright, hbottom,
    draw_shows_cursor 65535 65535 v hwidth hheight hright hbottom⟩

end Screen
end StatementReader
