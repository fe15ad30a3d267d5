import StatementReader.Grammar.Split
import StatementReader.Text.Decimal
import StatementReader.Text.Lines

/-!
# Parsing a buffer

What a buffer amounts to, for three askers. While the user types (`probing`), a buffer that is no
row of statements is merely incomplete. When the buffer is submitted (`committing`), it is an error:
something is left open, or a token is out of place. Tab completion (`completing`) probes too, but
treats a buffer with something left open as one that is complete as far as its last finished
statement.

Nothing is remembered between two parses, and only a complete buffer depends on the cursor: the last
statement is the active word when it ends at the cursor and the cursor is at the end of the buffer.
-/

namespace StatementReader

/-- On whose behalf a buffer is parsed. -/
inductive Mode where
  | probing | completing | committing
  deriving DecidableEq, Repr

/-- A top-level statement of a buffer. -/
structure Word where
  text : Text
  span : Span
  deriving DecidableEq, Repr

/-- The statement that the cursor ends. -/
structure ActiveWord where
  word : Text
  /-- The cursor, counted from the start of the word. -/
  localCursor : Nat
  start : Nat
  deriving DecidableEq, Repr

/-- Why a submitted buffer was turned down. -/
inductive SyntaxError where
  | violation (message : Text) (position : Nat)
  | missingDelimiter (position : Nat)
  deriving DecidableEq, Repr

/-- What a buffer amounts to. -/
inductive Outcome where
  | complete (words : List Word) (activeWord : Option ActiveWord) (consumed : Nat)
  | incomplete
  | failure (error : SyntaxError)
  deriving DecidableEq, Repr

/-! ### Messages -/

/-- What the grammar was looking for, in words. -/
def Expected.describe : Expected → Text
  | mark text => ['\''] ++ text ++ ['\'']
  | identifier => "identifier".toList
  | type => "type".toList
  | expression => "expression".toList
  | separator => "';' or newline".toList
  | blockSeparator => "';', newline or '\x7d'".toList
  | shallowerNesting => "shallower nesting".toList

/-- What was found instead, in words. -/
def describeFound : Option Token → Text
  | some t => ['\''] ++ t.text ++ ['\'']
  | none => "end of input".toList

/-- The line of an offset and its column in characters, both counted from one. -/
def lineColumn (t : Text) (position : Nat) : Nat × Nat :=
  let before := Text.upTo position t
  (before.count '\n' + 1, (Text.lastLine before).length + 1)

namespace SyntaxError

/-- The message for a token out of place. -/
def describe (t : Text) (expected : Expected) (found : Option Token) (position : Nat) : Text :=
  let (line, column) := lineColumn t position
  "Syntax error at ".toList ++ Text.decimal line ++ [':'] ++ Text.decimal column ++
    ": expected ".toList ++ expected.describe ++ ", found ".toList ++ describeFound found

/-- The error for a token out of place in `t`, or for the end of `t` if there is none. -/
def ofViolation (t : Text) (expected : Expected) (found : Option Token) : SyntaxError :=
  let position := found.elim (Text.size t) (·.start)
  violation (describe t expected found position) position

/-- The message shown to the user. -/
def message : SyntaxError → Text
  | violation message _ => message
  | missingDelimiter _ => "missing closing delimiter".toList

/-- Where the error is. -/
def position : SyntaxError → Nat
  | violation _ position => position
  | missingDelimiter position => position

/-- Something is left open, so that more text may mend it. -/
def isMissingDelimiter : SyntaxError → Bool
  | missingDelimiter _ => true
  | violation .. => false

end SyntaxError

/-! ### Outcomes -/

namespace Outcome

/-- The statements of a complete buffer. -/
def words : Outcome → List Word
  | complete words _ _ => words
  | _ => []

/-- The statement that the cursor ends, if there is one. -/
def activeWord : Outcome → Option ActiveWord
  | complete _ activeWord _ => activeWord
  | _ => none

/-- The buffer is not finished, as far as one can tell while it is typed. -/
def isIncomplete : Outcome → Bool
  | incomplete => true
  | _ => false

/-- The last word, if it ends at the cursor and the cursor at the end of the text. -/
def findActive (t : Text) (cursor : Nat) (words : List Word) : Option ActiveWord :=
  match words.getLast? with
  | some last =>
    if cursor = Text.size t ∧ last.span.stop = cursor then
      some ⟨last.text, Text.size last.text, last.span.start⟩
    else none
  | none => none

/-- The words at the spans of a text. -/
def wordsAt (t : Text) (spans : List Span) : List Word :=
  spans.map fun span => ⟨Text.slice span.start span.stop t, span⟩

/-- What the way the statements of `t` were read amounts to. -/
def ofSplit (t : Text) (cursor : Nat) (mode : Mode) : Split → Outcome
  | .statements spans =>
    complete (wordsAt t spans) (findActive t cursor (wordsAt t spans)) (Text.size t)
  | .violation expected found =>
    match mode with
    | .committing => failure (.ofViolation t expected found)
    | .probing | .completing => incomplete
  | .unterminated consumed =>
    match mode with
    | .probing => incomplete
    | .committing => failure (.missingDelimiter (Text.size t))
    | .completing => complete [] none consumed

end Outcome

/-- Parses a buffer with the cursor at an offset. -/
def parseAt (t : Text) (cursor : Nat) (mode : Mode) : Outcome :=
  .ofSplit t cursor mode (split t)

/-- Parses a buffer with the cursor at its end. -/
def parse (t : Text) (mode : Mode) : Outcome := parseAt t (Text.size t) mode

end StatementReader
