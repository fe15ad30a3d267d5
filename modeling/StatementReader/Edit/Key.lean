import StatementReader.Text.Ranges

/-!
# Keys and commands

What arrives from the input, and the command that a key stands for. A key with no meaning is
ignored. Ctrl-D ends the input only while nothing is typed, and otherwise deletes forward.
-/

namespace StatementReader

/-- A key. -/
inductive KeyCode where
  | char (c : Char)
  | enter | tab | backTab | backspace | delete | insert
  | left | right | home | endKey | up | down | pageUp | pageDown
  | escape | null
  | function (n : Nat)
  deriving DecidableEq, Repr

/-- The keys held down with another one. -/
structure Modifiers where
  shift : Bool
  control : Bool
  alt : Bool
  super : Bool
  deriving DecidableEq, Repr

/-- No key held down. -/
def Modifiers.none : Modifiers := ⟨false, false, false, false⟩

/-- A key press. -/
structure Key where
  code : KeyCode
  mods : Modifiers
  deriving DecidableEq, Repr

/-- What the input can bring. -/
inductive InputEvent where
  | key (key : Key)
  | paste (text : Text)
  | submit
  | interrupt
  | endOfInput
  | resize
  deriving DecidableEq, Repr

/-- What a key makes the editor do. -/
inductive Command where
  | insert (text : Text)
  | newline | backspace | delete | left | right | home | endOfLine | killToLineStart
  | historyPrevious | historyNext | undo | redo | complete | submit | interrupt | endOfInput
  deriving DecidableEq, Repr

/-- The command of a character typed with Control. -/
def Command.ofControl? (c : Char) (bufferEmpty : Bool) : Option Command :=
  match c with
  | 'c' => some .interrupt
  | 'd' => some (if bufferEmpty then .endOfInput else .delete)
  | 'j' => some .newline
  | 'a' => some .home
  | 'e' => some .endOfLine
  | 'u' => some .killToLineStart
  | 'z' => some .undo
  | 'y' => some .redo
  | _ => none

/-- The command of a key. -/
def Key.command? (key : Key) (bufferEmpty : Bool) : Option Command :=
  match key.code with
  | .char c =>
    if key.mods.control then Command.ofControl? c bufferEmpty
    else if key.mods.alt then none
    else some (.insert [c])
  | .enter => some (if key.mods.shift || key.mods.alt then .newline else .submit)
  | .tab => some .complete
  | .backspace => some .backspace
  | .delete => some .delete
  | .left => some .left
  | .right => some .right
  | .home => some .home
  | .endKey => some .endOfLine
  | .up => some .historyPrevious
  | .down => some .historyNext
  | .backTab | .insert | .pageUp | .pageDown | .escape | .null | .function _ => none

/-- The key that types a character: a line feed is typed with Ctrl-J and a tab with the Tab key. -/
def Key.typing (c : Char) : Key :=
  if c = '\n' then ⟨.char 'j', { Modifiers.none with control := true }⟩
  else if c = '\t' then ⟨.tab, .none⟩
  else ⟨.char c, .none⟩

/-- The key presses that type a text. -/
def InputEvent.typing (t : Text) : List InputEvent := t.map fun c => .key (.typing c)

end StatementReader
