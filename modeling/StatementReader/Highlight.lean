import StatementReader.Lexeme.Scan
import StatementReader.Style

/-!
# Highlighting

A text is shown one row per line, each lexeme in the style of its category and the blank space
between lexemes unstyled. A lexeme that runs over several lines is cut at the line breaks. Carriage
returns at the end of a piece are not shown, and neither are pieces without any text, so the rows
together hold the text less its line feeds and the carriage returns before them.
-/

namespace StatementReader

/-- The category of a lexeme. An identifier that begins with a capital names a type. -/
def Category.of? (kind : LexemeKind) (text : Text) : Option Category :=
  match kind with
  | .comment => some .comment
  | .keyword => some .keyword
  | .constant | .int | .float | .str | .char => some .literal
  | .ident => if text.head?.any Text.isUppercase then some .typeName else none
  | .op | .punct | .unknown => none

namespace Highlight

/-- The rows of a text in one style. -/
def rowsOf (style : Style) (text : Text) : List StyledLine :=
  (text.splitOn '\n').map fun piece => .ofText style (Text.dropEndWhile (· == '\r') piece)

/-- The parts of a text in order, each with its style: gaps and lexemes, and the blank end. -/
def segments (scheme : ColorScheme) (t : Text) : List (Style × Text) :=
  let lexemes := Lexeme.scan t
  let stop := lexemes.getLast?.elim 0 Lexeme.stop
  (lexemes.flatMap fun l =>
    [(scheme.reset, l.gap), (scheme.styleFor (Category.of? l.kind l.text), l.text)]) ++
  [(scheme.reset, Text.beyond stop t)]

end Highlight

/-- The rows in which a text is shown. -/
def highlight (t : Text) (scheme : ColorScheme) : List StyledLine :=
  (Highlight.segments scheme t).foldr
    (fun (style, text) rows => StyledLine.joinRows (Highlight.rowsOf style text) rows) [[]]

end StatementReader
