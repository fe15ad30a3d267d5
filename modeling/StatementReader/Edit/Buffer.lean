import StatementReader.Edit.Draft

/-!
# The edit buffer

A draft with its past. Every edit that changes something remembers the draft before it for `undo`
and forgets what was undone; `undo` and `redo` carry the present draft over to the other stack. A
stack has its latest draft at the head.

A walk through the history starts from the draft and leads back to it: the first step back stashes
the draft, and the step past the newest entry takes it out again. Recalling an entry is not an edit,
so it can be neither undone nor redone. An edit ends the walk and keeps the entry as the draft.
-/

namespace StatementReader

/-- A draft with its past. -/
structure EditBuffer where
  draft : Draft
  /-- The entry of the history that is shown. -/
  recallIndex : Option Nat
  /-- The draft that the walk through the history started from. -/
  recallStash : Option Draft
  undoStack : List Draft
  redoStack : List Draft
  deriving DecidableEq, Repr

namespace EditBuffer

/-- Nothing typed and no past. -/
def empty : EditBuffer := ⟨.empty, none, none, [], []⟩

/-- The text being edited. -/
def text (b : EditBuffer) : Text := b.draft.text

/-- The offset of the cursor. -/
def cursor (b : EditBuffer) : Nat := b.draft.cursor

/-- Nothing is typed. -/
def isEmpty (b : EditBuffer) : Bool := b.text.isEmpty

/-! ### Edits -/

/-- Carries out an edit, after remembering the present draft. A walk through the history ends here.
An edit that would change nothing is none. -/
def edit (b : EditBuffer) (e : Edit) : EditBuffer :=
  match b.draft.splice? e with
  | some s => ⟨b.draft.splice s, none, none, b.draft :: b.undoStack, []⟩
  | none => b

/-- Puts a text before the cursor. -/
def insert (b : EditBuffer) (value : Text) : EditBuffer := b.edit (.insert value)

/-- Puts a text in the place of what stands between an offset and the cursor. -/
def replaceBefore (b : EditBuffer) (start : Nat) (value : Text) : EditBuffer :=
  b.edit (.replaceBefore start value)

/-- Continues on a new line at the end of the text. -/
def breakLine (b : EditBuffer) : EditBuffer := b.edit .breakLine

/-- Removes the character before the cursor. -/
def backspace (b : EditBuffer) : EditBuffer := b.edit .backspace

/-- Removes the character after the cursor. -/
def delete (b : EditBuffer) : EditBuffer := b.edit .delete

/-- Removes what stands on the line before the cursor. -/
def killToLineStart (b : EditBuffer) : EditBuffer := b.edit .killToLineStart

/-! ### Moves -/

/-- Moves the cursor, which leaves the past as it is. -/
def move (b : EditBuffer) (m : Move) : EditBuffer := { b with draft := b.draft.move m }

/-- Moves over the character before the cursor. -/
def moveLeft (b : EditBuffer) : EditBuffer := b.move .left

/-- Moves over the character after the cursor. -/
def moveRight (b : EditBuffer) : EditBuffer := b.move .right

/-- Moves to the start of the line. -/
def moveHome (b : EditBuffer) : EditBuffer := b.move .home

/-- Moves to the end of the line. -/
def moveEnd (b : EditBuffer) : EditBuffer := b.move .endOfLine

/-! ### Undo and redo -/

/-- Goes back to the draft before the latest edit. -/
def undo (b : EditBuffer) : EditBuffer :=
  match b.undoStack with
  | [] => b
  | d :: stack =>
    { b with draft := d.clamp, undoStack := stack, redoStack := b.draft :: b.redoStack }

/-- Takes the latest undo back. -/
def redo (b : EditBuffer) : EditBuffer :=
  match b.redoStack with
  | [] => b
  | d :: stack =>
    { b with draft := d.clamp, undoStack := b.draft :: b.undoStack, redoStack := stack }

/-! ### Walking through the history -/

/-- Shows an entry of the history, with the cursor at its end. -/
def showEntry (b : EditBuffer) (history : List Text) (index : Nat) : EditBuffer :=
  { b with draft := .atEnd (history.getD index []), recallIndex := some index }

/-- Shows the entry before the one shown, or the newest one. The oldest one stays. -/
def recallPrevious (b : EditBuffer) (history : List Text) : EditBuffer :=
  if history = [] then b
  else match b.recallIndex with
    | some index => b.showEntry history (index - 1)
    | none => { b with recallStash := some b.draft }.showEntry history (history.length - 1)

/-- Shows the entry after the one shown, or takes the draft out again. -/
def recallNext (b : EditBuffer) (history : List Text) : EditBuffer :=
  match b.recallIndex with
  | none => b
  | some index =>
    if history.length ≤ index + 1 then
      { b with
        draft := b.recallStash.elim .empty Draft.clamp
        recallIndex := none
        recallStash := none }
    else b.showEntry history (index + 1)

/-! ### Taking the text -/

/-- The text, and a buffer that starts anew. -/
def take (b : EditBuffer) : Text × EditBuffer := (b.text, empty)

end EditBuffer

end StatementReader
