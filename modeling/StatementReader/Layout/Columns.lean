import StatementReader.Text.Blank
import StatementReader.Text.Width

/-!
# Columns

A list of texts laid out in columns of equal width, filled row by row. A column is as wide as the
widest text and two blanks; at least one text stands on each row, even where it does not fit.
-/

namespace StatementReader.Columns

/-- The width of the widest text. -/
def widest (items : List Text) : Nat := (items.map Text.width).foldl max 0

/-- The width of a column. -/
def columnWidth (items : List Text) : Nat := widest items + 2

/-- How many texts stand on a row. -/
def perRow (items : List Text) (width : Nat) : Nat := max 1 (max width 1 / columnWidth items)

/-- A text filled up with blanks to a width. -/
def padTo (width : Nat) (t : Text) : Text := t ++ List.replicate (width - Text.width t) ' '

/-- Cuts a list into pieces of a length, except for the last one; `count` bounds their number. -/
def chunks {α : Type} (length : Nat) : Nat → List α → List (List α)
  | 0, _ => []
  | _, [] => []
  | count + 1, items => items.take length :: chunks length count (items.drop length)

/-- The rows of a layout on a screen of a width. -/
def rows (items : List Text) (width : Nat) : List Text :=
  let column := columnWidth items
  (chunks (perRow items width) items.length items).map fun row =>
    Text.trimEnd (row.flatMap (padTo column))

end StatementReader.Columns
