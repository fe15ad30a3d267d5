import StatementReader.Completion.Symbols
import StatementReader.Editor
import StatementReader.History.File
import StatementReader.Settings

/-!
# A session

A session reads statements until the input ends. Each accepted statement gets the next number and is
answered, and the names it defines become known to completion. Each submission, accepted or
rejected, is added to the history file before the answer is printed. Trouble with the history file
is noted and otherwise ignored, and so is trouble while a statement is read, whose message is the
answer. The session breaks off only when an answer cannot be printed.

A round that does not end the session takes a reading from the feed, or meets a fault that was due
when a view was shown. There are no more rounds than there are of these (`Session.rounds`).
-/

namespace StatementReader

/-- What is worth a note but does not stop the session. -/
inductive Warning where
  /-- A line of the history file is no record. -/
  | malformedRecord
  | historyNotLoaded (error : FileError)
  | historyNotSaved (error : FileError)
  /-- The console failed while a statement was read. -/
  | readingBroken (fault : Fault)
  deriving DecidableEq, Repr

/-- A session between two statements. -/
structure Session where
  settings : Settings
  /-- The history file. -/
  file : FileState
  editor : Editor
  symbols : Symbols
  /-- The number of statements accepted. -/
  results : Nat
  /-- Latest first. -/
  warnings : List Warning
  deriving DecidableEq, Repr

/-- How a session ended. -/
structure SessionEnd where
  session : Session
  /-- The fault that broke the session off, if any. -/
  fault : Option Fault
  deriving DecidableEq, Repr

namespace Session

/-- A session that has not read anything. -/
def start (settings : Settings) (file : FileState) (editor : Editor) : Session :=
  ⟨settings, file, editor, .empty, 0, []⟩

/-- Notes trouble. -/
def warn (s : Session) (warning : Warning) : Session :=
  { s with warnings := warning :: s.warnings }

/-! ### The history file -/

/-- The statements of earlier sessions. -/
def loadSeed (s : Session) : List Text × Session :=
  if s.settings.historyEnabled then
    let (loaded, malformed) := HistoryFile.load s.settings.maxSeed s.file
    let s := { s with warnings := List.replicate malformed .malformedRecord ++ s.warnings }
    match loaded with
    | .ok texts => (texts, s)
    | .error e => ([], s.warn (.historyNotLoaded e))
  else ([], s)

/-- Adds the last entry of the history to the file. -/
def persistLast (s : Session) : Session :=
  if s.settings.historyEnabled then
    match s.editor.history.entries.getLast? with
    | none => s
    | some entry =>
      match HistoryFile.append entry s.file with
      | .ok file => { s with file := file }
      | .error e => s.warn (.historyNotSaved e)
  else s

/-! ### Rounds -/

/-- What the editor needs to know in this session. -/
def setup (s : Session) : ReadSetup :=
  ⟨s.settings.prompt, s.settings.colorScheme, s.symbols.oracle⟩

/-- Learns from an accepted statement and counts it. -/
def accept (s : Session) (tokens : List Text) : Session :=
  { s with symbols := tokens.foldl Symbols.learn s.symbols, results := s.results + 1 }

/-- The answer to a statement accepted as the `n`-th. -/
def answer (n : Nat) (text : Text) : Text :=
  "res".toList ++ Text.decimal n ++ ": ".toList ++ text

/-- Prints an answer, and tells why that failed, if it did. -/
def print (s : Session) (t : Text) : Session × Option Text :=
  let (display, failure) := s.editor.display.printText t
  ({ s with editor.display := display }, failure)

/-- Reads a statement and keeps what was submitted. -/
def read (s : Session) (seed : List Text) : ReadOutcome × Session :=
  let (outcome, editor) := s.editor.readStatement s.setup seed
  let grown := s.editor.history.submitted.length < editor.history.submitted.length
  let s := { s with editor := editor }
  (outcome, if grown then s.persistLast else s)

/-- Answers an outcome, and tells why the answer could not be printed, if it could not. -/
def respond (s : Session) : ReadOutcome → Session × Option Text
  | .success text tokens =>
    let s := s.accept tokens
    s.print (answer s.results text)
  | .rejected _ error => s.print error.message
  | .broken fault => (s.warn (.readingBroken fault)).print fault.message
  | .skip | .exit => (s, none)

/-- Reads and answers statements, at most `count` of them. -/
def runFor : Nat → Session → List Text → SessionEnd
  | 0, s, _ => ⟨s, none⟩
  | count + 1, s, seed =>
    let (outcome, s) := s.read seed
    match s.respond outcome with
    | (s, some message) => ⟨s, some (.print message)⟩
    | (s, none) => if outcome = .exit then ⟨s, none⟩ else runFor count s []

/-- As many rounds as a session can have. -/
def rounds (s : Session) : Nat := s.editor.feed.length + s.editor.display.faults.render.length + 1

/-- Runs a session to its end. -/
def run (s : Session) : SessionEnd :=
  let (seed, s) := s.loadSeed
  runFor s.rounds s seed

end Session

end StatementReader
