import StatementReader.Text.Offset

/-!
# Drafts

A draft is the text being edited with the cursor as a byte offset into it. An edit puts a text in
the place of a range of bytes (`Splice`) and the cursor after it, and a move changes the cursor
alone. Both compute with byte offsets. Some of them move the cursor down to a character boundary
first, and others take it as it is; a range that does not lie between two boundaries would cut a
character in two (`Splice.Fits`).
-/

namespace StatementReader

/-- A text being edited. -/
structure Draft where
  text : Text
  cursor : Nat
  deriving DecidableEq, Repr

/-- A range of bytes and the text to put in its place. -/
structure Splice where
  start : Nat
  stop : Nat
  value : Text
  deriving DecidableEq, Repr

/-- The range lies between two character boundaries of a text. -/
def Splice.Fits (s : Splice) (t : Text) : Prop :=
  s.start ≤ s.stop ∧ t.IsBoundary s.start ∧ t.IsBoundary s.stop

/-- A change of the text. -/
inductive Edit where
  /-- Puts a text before the cursor. -/
  | insert (value : Text)
  /-- Puts a text in the place of what stands between an offset and the cursor. -/
  | replaceBefore (start : Nat) (value : Text)
  /-- Adds a line feed at the end of the text and goes there. -/
  | breakLine
  /-- Removes the character before the cursor. -/
  | backspace
  /-- Removes the character after the cursor. -/
  | delete
  /-- Removes what stands on the line before the cursor. -/
  | killToLineStart
  deriving DecidableEq, Repr

/-- A change of the cursor: over a character, or to an end of the line. -/
inductive Move where
  | left | right | home | endOfLine
  deriving DecidableEq, Repr

namespace Draft

open Text

/-- Nothing typed yet. -/
def empty : Draft := ⟨[], 0⟩

/-- The draft with the cursor at the end of a text. -/
def atEnd (t : Text) : Draft := ⟨t, size t⟩

/-- The cursor stands between two characters or at an end of the text. -/
def OnBoundary (d : Draft) : Prop := IsBoundary d.cursor d.text

/-- The draft with the cursor moved down to a character boundary. -/
def clamp (d : Draft) : Draft := { d with cursor := floor d.cursor d.text }

/-! ### The line of the cursor -/

/-- Where the line of the cursor starts. -/
def lineStart (d : Draft) : Nat :=
  (findLastOffset? (· == '\n') (upTo d.cursor d.text)).elim 0 (· + 1)

/-- Where the line of the cursor ends. -/
def lineEnd (d : Draft) : Nat :=
  (findOffset? (· == '\n') (beyond d.cursor d.text)).elim (size d.text) (d.cursor + ·)

/-! ### Edits and moves -/

/-- What an edit replaces, unless it would change nothing. -/
def splice? (d : Draft) : Edit → Option Splice
  | .insert value => some ⟨floor d.cursor d.text, floor d.cursor d.text, value⟩
  | .replaceBefore start value =>
    let stop := floor d.cursor d.text
    some ⟨floor (min start stop) d.text, stop, value⟩
  | .breakLine => some ⟨size d.text, size d.text, ['\n']⟩
  | .backspace =>
    let stop := floor d.cursor d.text
    if stop = 0 then none else some ⟨prevBoundary stop d.text, stop, []⟩
  | .delete =>
    let start := floor d.cursor d.text
    if size d.text ≤ start then none else some ⟨start, nextBoundary start d.text, []⟩
  | .killToLineStart =>
    if d.lineStart = d.cursor then none else some ⟨d.lineStart, d.cursor, []⟩

/-- The draft after a splice, with the cursor at the end of what was put in. -/
def splice (d : Draft) (s : Splice) : Draft :=
  ⟨replaceRange s.start s.stop s.value d.text, s.start + size s.value⟩

/-- Where a move takes the cursor. -/
def target (d : Draft) : Move → Nat
  | .left => prevBoundary d.cursor d.text
  | .right => nextBoundary d.cursor d.text
  | .home => d.lineStart
  | .endOfLine => d.lineEnd

/-- The draft after a move. -/
def move (d : Draft) (m : Move) : Draft := { d with cursor := d.target m }

end Draft

end StatementReader
