import StatementReader.Grammar.Statement

/-!
# The statements of a text

`split` cuts a text into its top-level statements. Two statements are separated by semicolons or by
a line break. If reading stops, the answer tells why: something is still open at the end of the
text, together with where the last finished statement ends, or some token is out of place.
-/

namespace StatementReader

/-- A part of a text, as two byte offsets. -/
structure Span where
  start : Nat
  stop : Nat
  deriving DecidableEq, Repr

/-- How the statements of a text were read. -/
inductive Split where
  | statements (spans : List Span)
  /-- A bracket, literal or comment is open at the end of the text; `consumed` is the end of the
  last statement finished before it. -/
  | unterminated (consumed : Nat)
  /-- A token is out of place, or the text ends too early if there is none. -/
  | violation (expected : Expected) (found : Option Token)
  deriving DecidableEq, Repr

namespace Split

/-- Adds a span in front of the statements read after it. -/
def cons (span : Span) : Split → Split
  | statements spans => statements (span :: spans)
  | other => other

/-- The state after any semicolons. -/
def skipSemicolons (s : State) : State :=
  { s with rest := s.rest.dropWhile (·.isMark Rule.semicolon) }

/-- A reason to stop, with the end of the last finished statement. -/
def ofStop (consumed : Nat) : Stop → Split
  | .unterminated => unterminated consumed
  | .violation expected found => violation expected found

/-- The answer at the end of the tokens. -/
def atEnd (openLiteral : Bool) (consumed : Nat) : Split :=
  if openLiteral then unterminated consumed else statements []

/-- A statement may end here: at the end of the tokens, a semicolon or a line break. -/
def separated (s : State) : Bool :=
  s.rest.isEmpty || s.atMark Rule.semicolon || s.rest.head?.any (·.afterBreak)

/-- Reads statements from `s` on, at most `count` of them. `consumed` is the end of the last one
finished and `openLiteral` tells that a literal is open after the last token. Every statement takes
a token, so there are no more statements than tokens. -/
def readFrom (openLiteral : Bool) : Nat → Nat → State → Split
  | 0, consumed, _ => atEnd openLiteral consumed
  | count + 1, consumed, s =>
    let s := skipSemicolons s
    match s.rest with
    | [] => atEnd openLiteral consumed
    | t :: _ =>
      match Rule.readStatement s with
      | .error stop => ofStop consumed stop
      | .ok after =>
        if separated after then
          (readFrom openLiteral count after.lastStop after).cons ⟨t.start, after.lastStop⟩
        else ofStop after.lastStop (after.stop .separator)

end Split

/-- Reads the statements of a text. -/
def split (t : Text) : Split :=
  let row := TokenRow.ofText t
  Split.readFrom row.openLiteral (row.tokens.length + 1) 0
    ⟨row.tokens, 0, if row.openLiteral then 1 else 0, [true]⟩

end StatementReader
