import StatementReader.Grammar.Token

/-!
# Rules

A grammar is data. A `Rule` says how the next tokens are read: take one, branch on what comes next,
repeat as long as something comes next, open and close a bracket, or go one level deeper into a type
or an expression. `Rule.run` reads tokens by a rule and never goes back, so what it accepts and
where it stops are decided by the tokens up to that place, and by at most one beyond it.

Only `Rule.call` goes deeper, and each call takes one level of a budget. With no level left the call
is refused, so reading ends on every input and its depth has a bound that does not depend on the
input. A repetition is bounded by the number of tokens left, which loses nothing as long as every
round takes a token.

The state keeps two records of the open brackets. `depth` counts them, with one more for a literal
left open at the end of the text; reaching the end of the tokens while it is positive means that the
text is unfinished rather than wrong. `lineModes` holds for each open bracket whether a line break
inside it ends a statement.
-/

namespace StatementReader

/-- What the grammar was looking for when it stopped. -/
inductive Expected where
  | mark (text : Text)
  | identifier
  | type
  | expression
  /-- The end of a statement at the top level. -/
  | separator
  /-- The end of a statement inside a block. -/
  | blockSeparator
  /-- A construct that is nested less deeply. -/
  | shallowerNesting
  deriving DecidableEq, Repr

/-- Why reading stopped. -/
inductive Stop where
  /-- The tokens end with something still open. -/
  | unterminated
  /-- The next token, or the end of the text, is not what the grammar asks for. -/
  | violation (expected : Expected) (found : Option Token)
  deriving DecidableEq, Repr

/-- A place in the tokens, with the brackets that are open there. -/
structure State where
  /-- The tokens not yet read. -/
  rest : List Token
  /-- The end of the last token read. -/
  lastStop : Nat
  /-- The number of open brackets, and one more for a literal left open. -/
  depth : Nat
  /-- For each open bracket, innermost first, and last for the top level: a line break ends a
  statement there. -/
  lineModes : List Bool
  deriving DecidableEq, Repr

namespace State

/-- The next token is the punctuation `mark`. -/
def atMark (s : State) (mark : Text) : Bool := s.rest.head?.any (·.isMark mark)

/-- The next token is an identifier. -/
def atIdent (s : State) : Bool := s.rest.head?.any (·.kind == .ident)

/-- The next token stands on a new line, at a place where that ends a statement. -/
def lineEnds (s : State) : Bool := s.rest.head?.any (·.afterBreak) && s.lineModes.headD true

/-- The state after the next token. -/
def advance (s : State) : State :=
  match s.rest with
  | [] => s
  | t :: rest => { s with rest := rest, lastStop := t.stop }

/-- The reason to stop here. -/
def stop (s : State) (expected : Expected) : Stop :=
  if s.rest = [] ∧ 0 < s.depth then .unterminated else .violation expected s.rest.head?

/-- The state inside a bracket. -/
def enter (s : State) (lineMode : Bool) : State :=
  { s with depth := s.depth + 1, lineModes := lineMode :: s.lineModes }

/-- The state outside the innermost bracket. -/
def leave (s : State) : State :=
  { s with depth := s.depth - 1, lineModes := s.lineModes.tail }

end State

/-- A way to read tokens. -/
abbrev Production := State → Except Stop State

/-- What the next tokens may be asked. -/
inductive Look where
  /-- The punctuation `text`. -/
  | mark (text : Text)
  /-- The reserved word `text`. -/
  | keyword (text : Text)
  | ident
  | literal
  /-- An operator that may stand before an operand. -/
  | sign
  /-- What may stand between two operands: an operator or an identifier. -/
  | infixOperator
  /-- An identifier with an arrow after it. -/
  | lambda
  /-- The punctuation `text`, with anything but the punctuation `next` after it. -/
  | markNotBefore (text next : Text)
  /-- The same as `look`, and no line break before it that ends a statement. -/
  | sameLine (look : Look)
  | either (look other : Look)
  | no (look : Look)
  deriving DecidableEq, Repr

namespace Look

/-- Whether the next tokens are so. Every question but `no` is answered in the negative at the end
of the tokens. -/
def holds : Look → State → Bool
  | mark text, s => s.atMark text
  | keyword text, s => s.rest.head?.any (·.isKeyword text)
  | ident, s => s.atIdent
  | literal, s => s.rest.head?.any (·.kind.isLiteral)
  | sign, s => s.rest.head?.any (·.isSign)
  | infixOperator, s => s.rest.head?.any fun t => t.kind == .op || t.kind == .ident
  | lambda, s => s.atIdent && s.advance.atMark "=>".toList
  | markNotBefore text next, s => s.atMark text && !s.advance.atMark next
  | sameLine look, s => look.holds s && !s.lineEnds
  | either look other, s => look.holds s || other.holds s
  | no look, s => !look.holds s

end Look

/-- The constructs that contain themselves. -/
inductive Construct where
  | type
  | expr
  deriving DecidableEq, Repr

/-- How tokens are read. -/
inductive Rule where
  /-- Reads nothing. -/
  | empty
  /-- Stops. -/
  | refuse (expected : Expected)
  /-- Takes the next token. -/
  | token
  | mark (text : Text)
  | ident
  /-- Takes an opening bracket; `lineMode` tells whether line breaks end statements inside. -/
  | opening (text : Text) (lineMode : Bool)
  | closing (text : Text)
  | seq (first second : Rule)
  | branch (look : Look) (yes no : Rule)
  | repeatWhile (look : Look) (round : Rule)
  /-- Stops unless the last token is followed by a line break or by something that `look` allows. -/
  | endOfStatement (look : Look) (expected : Expected)
  | call (construct : Construct)
  deriving Repr

namespace Rule

/-- Takes the next token if `test` holds. -/
def takeIf (test : State → Bool) (expected : Expected) : Production := fun s =>
  if test s then .ok s.advance else .error (s.stop expected)

/-- Reads by `round` as long as `test` holds, at most as often as there are tokens in `bound`. -/
def iterate (test : State → Bool) (round : Production) : List Token → Production
  | [], s => .ok s
  | _ :: bound, s =>
    if test s then do iterate test round bound (← round s)
    else .ok s

/-- Reads tokens by a rule, where `calls` reads what is one level deeper. -/
def run (calls : Construct → Production) : Rule → Production
  | empty, s => .ok s
  | refuse expected, s => .error (s.stop expected)
  | token, s => .ok s.advance
  | mark text, s => takeIf (·.atMark text) (.mark text) s
  | ident, s => takeIf State.atIdent .identifier s
  | opening text lineMode, s => do
    return (← takeIf (·.atMark text) (.mark text) s).enter lineMode
  | closing text, s => do return (← takeIf (·.atMark text) (.mark text) s).leave
  | seq first second, s => do run calls second (← run calls first s)
  | branch look yes no, s => if look.holds s then run calls yes s else run calls no s
  | repeatWhile look round, s => iterate look.holds (run calls round) s.rest s
  | endOfStatement look expected, s =>
    if look.holds s || s.rest.head?.any (·.afterBreak) then .ok s
    else .error (s.stop expected)
  | call construct, s => calls construct s

/-- Reads by the first rule and then by the second. -/
instance : AndThen Rule := ⟨fun first second => seq first (second ())⟩

/-- Reads by a rule if the next tokens are so, and otherwise nothing. -/
def optional (look : Look) (rule : Rule) : Rule := branch look rule empty

/-- One or more of a rule, with commas between them. -/
def commaSeparated (rule : Rule) : Rule :=
  rule >> repeatWhile (.mark [',']) (token >> rule)

end Rule

end StatementReader
