import StatementReader.Text.Blank
import StatementReader.Text.Lowercase

/-!
# Styles and colour schemes

How text is shown. A colour scheme gives a style to each of four categories of lexemes and one to
everything else. Its name is read without regard to surrounding blanks and to the case of ASCII
letters.
-/

namespace StatementReader

/-- The colours in use. -/
inductive Color where
  | blue | green | lightGreen | yellow | darkGray | magenta | red | cyan
  deriving DecidableEq, Repr

/-- How a piece of text is shown. -/
structure Style where
  color : Option Color
  bold : Bool
  italic : Bool
  deriving DecidableEq, Repr

namespace Style

/-- The style of text that is not styled. -/
def plain : Style := ⟨none, false, false⟩

/-- Text in a colour. -/
def colored (color : Color) : Style := ⟨some color, false, false⟩

end Style

/-- A piece of text with its style. -/
structure StyledSpan where
  text : Text
  style : Style
  deriving DecidableEq, Repr

/-- A row of styled text. -/
abbrev StyledLine := List StyledSpan

namespace StyledLine

/-- The text of a row. -/
def text (line : StyledLine) : Text := line.flatMap (·.text)

/-- A row with one span, or none if there is no text. -/
def ofText (style : Style) (text : Text) : StyledLine := if text = [] then [] else [⟨text, style⟩]

/-- Continues the last of some rows with the first of others. -/
def joinRows : List StyledLine → List StyledLine → List StyledLine
  | [], rows => rows
  | rows, [] => rows
  | [last], next :: rows => (last ++ next) :: rows
  | row :: rows, others => row :: joinRows rows others

end StyledLine

/-- What a lexeme is shown as. -/
inductive Category where
  | comment | typeName | literal | keyword
  deriving DecidableEq, Repr

/-- The styles of the categories. -/
structure ColorScheme where
  comment : Style
  typeName : Style
  literal : Style
  keyword : Style
  /-- The style of everything that is in no category. -/
  reset : Style
  deriving DecidableEq, Repr

namespace ColorScheme

/-- For a dark background. -/
def dark : ColorScheme where
  comment := .colored .blue
  typeName := .colored .green
  literal := .colored .lightGreen
  keyword := { Style.colored .yellow with bold := true }
  reset := .plain

/-- For a light background. -/
def light : ColorScheme where
  comment := { Style.colored .darkGray with italic := true }
  typeName := .colored .magenta
  literal := .colored .red
  keyword := { Style.colored .blue with bold := true }
  reset := .plain

/-- Without any style. -/
def plain : ColorScheme := ⟨.plain, .plain, .plain, .plain, .plain⟩

/-- The names to choose from. -/
def names : List Text := ["dark", "light", "plain"].map String.toList

/-- The scheme of a name. -/
def byName? (name : Text) : Option ColorScheme :=
  let name := Text.asciiLowercase (Text.trim name)
  if name = "dark".toList then some dark
  else if name = "light".toList then some light
  else if name = "plain".toList ∨ name = "none".toList then some plain
  else none

/-- The style of a category. -/
def styleFor (scheme : ColorScheme) : Option Category → Style
  | some .comment => scheme.comment
  | some .typeName => scheme.typeName
  | some .literal => scheme.literal
  | some .keyword => scheme.keyword
  | none => scheme.reset

end ColorScheme

end StatementReader
