import StatementReader.Completion.Reply
import StatementReader.Console
import StatementReader.Edit.Buffer
import StatementReader.History.Entry
import StatementReader.Layout.Columns

/-!
# The editor

The editor reads one statement at a time. It shows the buffer, takes a reading and carries out its
command, over and over. A submission is decided by the parser: a complete buffer is accepted, an
unfinished one is continued on a new line, and any other is rejected. A blank buffer is not
submitted at all.

The loop takes a reading from the feed in every round, so it ends with the feed at the latest, and a
feed that has run out ends the input.
-/

namespace StatementReader

/-- How the reading of a statement ended. -/
inductive ReadOutcome where
  /-- The text was accepted; `tokens` are its statements. -/
  | success (text : Text) (tokens : List Text)
  /-- The text was turned down. -/
  | rejected (text : Text) (error : SyntaxError)
  /-- The user gave the buffer up. -/
  | skip
  /-- The input has ended. -/
  | exit
  /-- The console failed. -/
  | broken (fault : Fault)
  deriving DecidableEq, Repr

/-- What the editor needs to know for a statement. -/
structure ReadSetup where
  prompt : Text
  scheme : ColorScheme
  oracle : Oracle

/-- Printed when the user gives up an empty buffer. -/
def interruptHint : Text := "press Ctrl-D to exit".toList

/-- What a reading makes the editor do, if anything. Pasted text has line feeds only. -/
def InputEvent.command? (bufferEmpty : Bool) : InputEvent → Option Command
  | key k => k.command? bufferEmpty
  | paste text => some (.insert (Text.normalizeBreaks text))
  | submit => some .submit
  | interrupt => some .interrupt
  | endOfInput => some .endOfInput
  | resize => none

namespace EditBuffer

/-- The buffer holds something that is no finished statement. -/
def isPending (b : EditBuffer) : Bool :=
  !b.isEmpty && (parse b.text .probing).isIncomplete

/-- The buffer as it is shown. -/
def view (b : EditBuffer) (setup : ReadSetup) : EditView :=
  ⟨setup.prompt, b.text, b.cursor, b.isPending, setup.scheme⟩

end EditBuffer

namespace Editing

/-- The reading of a statement under way: the history of the session, what is typed, and what has
been shown. -/
structure State where
  history : History
  buffer : EditBuffer
  display : Display
  deriving DecidableEq, Repr

/-- How a command leaves the reading of a statement. -/
inductive Step where
  | goOn (state : State)
  | stop (outcome : ReadOutcome) (state : State)

namespace State

/-- Goes on with a changed buffer. -/
def update (s : State) (f : EditBuffer → EditBuffer) : State := { s with buffer := f s.buffer }

/-- Notes what has happened. -/
def note (s : State) (act : Act) : State := { s with display := s.display.note act }

/-- What a call of the display leaves, and why it failed, if it did. -/
def call (s : State) (result : Display × Option Text) : State × Option Text :=
  ({ s with display := result.1 }, result.2)

/-- Shows the buffer, and tells why that failed, if it did. -/
def render (s : State) (setup : ReadSetup) : State × Option Text :=
  s.call (s.display.render (s.buffer.view setup))

/-- Prints rows, and tells why that failed, if it did. -/
def print (s : State) (rows : List StyledLine) : State × Option Text :=
  s.call (s.display.print rows)

/-- Leaves the buffer on the screen for good, and tells why that failed, if it did. -/
def commit (s : State) (setup : ReadSetup) : State × Option Text :=
  s.call (s.display.commit (s.buffer.view setup))

/-- Takes the text out of the buffer and adds it to the history. -/
def record (s : State) (accepted : Bool) : State :=
  { s with history := s.history.append s.buffer.text accepted, buffer := s.buffer.take.2 }

end State

/-! ### Completion -/

/-- A row of columns as it is printed: its lines side by side. -/
def columnRow (row : Text) : StyledLine := (Text.lines row).map (⟨·, .plain⟩)

/-- Inserts the only candidate, or what all candidates have in common and is not yet typed. If
there is nothing to insert, lists the candidates. -/
def insertCandidate (c : Completions) (s : State) : Step :=
  match c.candidates with
  | [] => .goOn s
  | [only] => .goOn (s.update (·.replaceBefore c.anchor only.insertText))
  | candidates =>
    if s.buffer.cursor - c.anchor < Text.size c.commonStart then
      .goOn (s.update (·.replaceBefore c.anchor c.commonStart))
    else
      match s.print ((Columns.rows (candidates.map (·.displayText)) s.display.width).map columnRow)
      with
      | (s, none) => .goOn s
      | (s, some message) => .stop (.broken (.print message)) s

/-- Completes at the cursor. Signatures are printed first. -/
def complete (setup : ReadSetup) (s : State) : Step :=
  let c := StatementReader.complete s.buffer.cursor s.buffer.text setup.oracle setup.scheme
  if c.signatures = [] then insertCandidate c s
  else
    match s.print (c.signatures.flatMap (·.rows)) with
    | (s, none) => insertCandidate c s
    | (s, some message) => .stop (.broken (.print message)) s

/-! ### Submission -/

/-- Commits the buffer, records it and stops with an outcome. -/
def finish (setup : ReadSetup) (s : State) (accepted : Bool) (outcome : ReadOutcome) : Step :=
  match s.commit setup with
  | (s, none) => .stop outcome (s.record accepted)
  | (s, some message) => .stop (.broken (.commit message)) s

/-- Submits the buffer. -/
def submit (setup : ReadSetup) (s : State) : Step :=
  if Text.isAllBlank s.buffer.text then .goOn s
  else
    match parse s.buffer.text .committing with
    | .complete words _ _ =>
      finish setup s true (.success s.buffer.text (words.map (·.text)))
    | .incomplete => .goOn (s.update (·.breakLine))
    | .failure error =>
      if error.isMissingDelimiter then .goOn (s.update (·.breakLine))
      else finish setup s false (.rejected s.buffer.text error)

/-- Gives the buffer up. If there was nothing in it, prints a hint. -/
def interrupt (setup : ReadSetup) (s : State) : Step :=
  match s.commit setup with
  | (s, some message) => .stop (.broken (.commit message)) s
  | (s, none) =>
    let given := s.update (·.take.2)
    if s.buffer.isEmpty then
      match given.print (Display.plainRows interruptHint) with
      | (s, none) => .stop .skip s
      | (s, some message) => .stop (.broken (.print message)) s
    else .stop .skip given

/-! ### The loop -/

/-- Carries out a command. -/
def step (setup : ReadSetup) (s : State) : Command → Step
  | .insert text => .goOn (s.update (·.insert text))
  | .newline => .goOn (s.update (·.insert ['\n']))
  | .backspace => .goOn (s.update (·.backspace))
  | .delete => .goOn (s.update (·.delete))
  | .left => .goOn (s.update (·.moveLeft))
  | .right => .goOn (s.update (·.moveRight))
  | .home => .goOn (s.update (·.moveHome))
  | .endOfLine => .goOn (s.update (·.moveEnd))
  | .killToLineStart => .goOn (s.update (·.killToLineStart))
  | .historyPrevious => .goOn (s.update (·.recallPrevious s.history.texts))
  | .historyNext => .goOn (s.update (·.recallNext s.history.texts))
  | .undo => .goOn (s.update (·.undo))
  | .redo => .goOn (s.update (·.redo))
  | .complete => complete setup s
  | .submit => submit setup s
  | .interrupt => interrupt setup s
  | .endOfInput => .stop .exit s

/-- Takes a reading, and carries out its command. -/
def carryOut (setup : ReadSetup) (s : State) (reading : Reading) : Step :=
  let s := s.note (.read reading)
  match reading with
  | .fault message => .stop (.broken (.reading message)) s
  | .event event =>
    match event.command? s.buffer.isEmpty with
    | some command => step setup s command
    | none => .goOn s

/-- How the reading of a statement ended, with what is left of the feed. -/
structure Finish where
  outcome : ReadOutcome
  feed : List Reading
  state : State
  deriving DecidableEq, Repr

/-- Reads a statement. -/
def run (setup : ReadSetup) : List Reading → State → Finish
  | [], s =>
    match s.render setup with
    | (s, some message) => ⟨.broken (.render message), [], s⟩
    | (s, none) => ⟨.exit, [], s.note (.read (.event .endOfInput))⟩
  | reading :: feed, s =>
    match s.render setup with
    | (s, some message) => ⟨.broken (.render message), reading :: feed, s⟩
    | (s, none) =>
      match carryOut setup s reading with
      | .goOn s => run setup feed s
      | .stop outcome s => ⟨outcome, feed, s⟩

end Editing

/-- An editor with its console and the history of its session. -/
structure Editor where
  history : History
  feed : List Reading
  display : Display
  deriving DecidableEq, Repr

namespace Editor

/-- An editor at the start of a session. -/
def start (feed : List Reading) (display : Display) : Editor := ⟨.empty, feed, display⟩

/-- Reads one statement, after adding texts of earlier sessions to the history. -/
def readStatement (e : Editor) (setup : ReadSetup) (seed : List Text) : ReadOutcome × Editor :=
  let finish := Editing.run setup e.feed ⟨e.history.seed seed, .empty, e.display⟩
  (finish.outcome, ⟨finish.state.history, finish.feed, finish.state.display⟩)

end Editor

end StatementReader
