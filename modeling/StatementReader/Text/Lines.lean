import StatementReader.Text.Blank

/-!
# Lines

A line ends with a line feed, or with a carriage return and a line feed. What stands after the last
line feed is a line only if it is not empty, so a text that ends in a line feed has no empty line
there, and the empty text has no line at all.
-/

namespace StatementReader.Text

/-- A piece that a line feed ended, without the carriage return before it. -/
def dropReturn (line : Text) : Text :=
  if line.getLast? = some '\r' then line.dropLast else line

/-- The lines of a text. -/
def lines (t : Text) : List Text :=
  let pieces := t.splitOn '\n'
  let last := pieces.getLastD []
  pieces.dropLast.map dropReturn ++ (if last = [] then [] else [last])

/-- What stands after the last line feed. -/
def lastLine (t : Text) : Text := (t.splitOn '\n').getLastD []

/-- Carriage returns, alone or before a line feed, written as line feeds. -/
def normalizeBreaks : Text → Text
  | [] => []
  | '\r' :: '\n' :: t => '\n' :: normalizeBreaks t
  | c :: t => (if c = '\r' then '\n' else c) :: normalizeBreaks t

end StatementReader.Text
