import StatementReader.Highlight
import StatementReader.Text.Width

/-!
# The edit view

What is shown of a statement while it is edited: the prompt, or a gutter of the same width, before
each of its lines, and the lines broken where the next character would pass the right edge. A
character that is wider than the whole row stands on a row by itself.

The place of the cursor is computed without looking at the rows, by walking over the text before the
cursor in the same way (`place`). A cursor past the right edge is shown at the start of the next
row.
-/

namespace StatementReader

/-- What is to be shown. -/
structure EditView where
  prompt : Text
  text : Text
  cursor : Nat
  /-- The statement is not finished yet. -/
  pending : Bool
  scheme : ColorScheme
  deriving DecidableEq, Repr

/-! ### The cursor -/

/-- A row and a column of the view. -/
structure Place where
  row : Nat
  col : Nat
  deriving DecidableEq, Repr

namespace Place

/-- The place after a character, on rows of `width` columns and lines with a gutter. -/
def step (gutter width : Nat) (p : Place) (c : Char) : Place :=
  if c = '\r' then p
  else if c = '\n' then ⟨p.row + 1, gutter⟩
  else if width < p.col + Text.charWidth c ∧ 0 < p.col then ⟨p.row + 1, Text.charWidth c⟩
  else ⟨p.row, p.col + Text.charWidth c⟩

/-- The place after a text. -/
def walk (gutter width : Nat) (t : Text) : Place := t.foldl (step gutter width) ⟨0, gutter⟩

/-- A place past the right edge is the start of the next row. -/
def wrapped (width : Nat) (p : Place) : Place := if width ≤ p.col then ⟨p.row + 1, 0⟩ else p

end Place

/-- The place of the cursor in a text whose lines have a gutter. -/
def cursorPlace (t : Text) (cursor gutter width : Nat) : Place :=
  (Place.walk gutter (max width 1) (Text.upTo cursor t)).wrapped (max width 1)

/-! ### The rows -/

/-- Breaks a text that begins at a column into rows, and tells the column after it. -/
def breakText (width : Nat) : Nat → Text → List Text × Nat
  | col, [] => ([[]], col)
  | col, c :: t =>
    let w := Text.charWidth c
    if width < col + w ∧ 0 < col then
      let (rows, stop) := breakText width w t
      ([] :: rows.modifyHead (c :: ·), stop)
    else
      let (rows, stop) := breakText width (col + w) t
      (rows.modifyHead (c :: ·), stop)

/-- Breaks a row that begins at a column into rows of a width. -/
def breakRow (width : Nat) : Nat → StyledLine → List StyledLine
  | _, [] => [[]]
  | col, span :: spans =>
    let (rows, stop) := breakText width col span.text
    StyledLine.joinRows (rows.map (.ofText span.style)) (breakRow width stop spans)

namespace EditView

/-- The columns before a line. -/
def gutterWidth (v : EditView) : Nat := Text.width v.prompt

/-- What stands before every line but the first. -/
def continuationGutter (v : EditView) : Text :=
  if 2 ≤ v.gutterWidth then List.replicate (v.gutterWidth - 2) ' ' ++ ['|', ' ']
  else List.replicate v.gutterWidth ' '

/-- The prompt is dimmed while the statement is not finished. -/
def promptStyle (v : EditView) : Style :=
  if v.pending then .colored .darkGray else { Style.colored .cyan with bold := true }

/-- The place of the cursor. -/
def cursorPlace (v : EditView) (width : Nat) : Place :=
  StatementReader.cursorPlace v.text v.cursor v.gutterWidth width

/-- The lines, each with the prompt or the gutter before it. -/
def guttered (v : EditView) : List StyledLine :=
  let gutter (text : Text) : StyledSpan := ⟨text, v.promptStyle⟩
  match highlight v.text v.scheme with
  | [] => []
  | first :: others =>
    (gutter v.prompt :: first) :: others.map (gutter v.continuationGutter :: ·)

/-- The rows shown on a screen of a width. -/
def rows (v : EditView) (width : Nat) : List StyledLine :=
  v.guttered.flatMap (breakRow (max width 1) 0)

end EditView

end StatementReader
