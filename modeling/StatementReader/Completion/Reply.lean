import StatementReader.Highlight
import StatementReader.Parse

/-!
# Completion

An oracle is asked what may stand at the cursor and replies with candidates, the signatures of what
the cursor is on, and the place from which a candidate replaces the text. `complete` turns the reply
into insertions: candidates in ascending order, and an `anchor`, so that a candidate replaces the
text from the anchor to the cursor.

A candidate is normally inserted as it is. If the cursor is at the end of a statement such as
`a.b.na`, then the oracle is taken to have completed the member name only: the anchor is the start
of the statement, and every candidate is inserted with all of the statement up to its last point
before it.
-/

namespace StatementReader

/-- What an oracle knows about a place in a text. -/
structure Reply where
  /-- The offset from which a candidate replaces the text. -/
  replacementStart : Nat
  candidates : List Text
  signatures : List Text
  deriving DecidableEq, Repr

/-- Replies to a cursor and a text. -/
abbrev Oracle := Nat → Text → Reply

/-- The oracle that never suggests anything. -/
def Oracle.silent : Oracle := fun cursor _ => ⟨cursor, [], []⟩

/-- A candidate as it is inserted and as it is listed. -/
structure Candidate where
  insertText : Text
  displayText : Text
  deriving DecidableEq, Repr

/-- A signature as it is and as it is shown. -/
structure Signature where
  text : Text
  rows : List StyledLine
  deriving DecidableEq, Repr

/-- What can be done at the cursor. -/
structure Completions where
  /-- The start of the text that a candidate replaces. -/
  anchor : Nat
  candidates : List Candidate
  signatures : List Signature
  deriving DecidableEq, Repr

namespace Completions

/-- What two texts begin with alike. -/
def sharedStart : Text → Text → Text
  | c :: s, d :: t => if c = d then c :: sharedStart s t else []
  | _, _ => []

/-- The longest text that every insertion begins with. -/
def commonStart (c : Completions) : Text :=
  match c.candidates with
  | [] => []
  | first :: others => others.foldl (fun start o => sharedStart start o.insertText) first.insertText

/-- A word up to its last point, if only a part of an identifier follows the point. -/
def memberPath? (word : Text) : Option Text :=
  let tail := (word.reverse.takeWhile (· ≠ '.')).reverse
  let path := word.take (word.length - tail.length)
  if path ≠ [] && tail.all Text.isWordChar then some path else none

/-- What every candidate replaces and begins with: a member path, or else nothing but the
replacement that the oracle asks for. -/
def target (cursor : Nat) (t : Text) (reply : Reply) : Nat × Text :=
  let dotted := (parseAt t cursor .completing).activeWord.bind fun active =>
    (memberPath? active.word).map fun path => (active.start, path)
  dotted.getD (Text.floor (min reply.replacementStart cursor) t, [])

end Completions

/-- Whether `s` may stand before `t`: the first character in which they differ decides. -/
def Text.notAfter (s t : Text) : Bool := !List.lex t s

/-- What can be done at the cursor, as far as the oracle knows. -/
def complete (cursor : Nat) (t : Text) (oracle : Oracle) (scheme : ColorScheme) : Completions :=
  let reply := oracle cursor t
  let (anchor, path) := Completions.target cursor t reply
  { anchor := anchor
    candidates := (reply.candidates.mergeSort Text.notAfter).map fun c => ⟨path ++ c, c⟩
    signatures := reply.signatures.map fun s => ⟨s, highlight s scheme⟩ }

end StatementReader
