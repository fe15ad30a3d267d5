import StatementReader.Lexeme.Scan

/-!
# Tokens

What the grammar reads: the lexemes of a text without its comments, each with the knowledge whether
a line break lies between it and the token before it. A comment counts as part of that gap, so a
line break inside a block comment is a line break.

A literal or comment that is left open ends the tokens. Nothing in it is read, and the grammar is
only told that something is open.
-/

namespace StatementReader

/-- A lexeme that is not a comment, as the grammar sees it. -/
structure Token where
  kind : LexemeKind
  text : Text
  start : Nat
  stop : Nat
  /-- A line break lies between the token before and this one. -/
  afterBreak : Bool
  deriving DecidableEq, Repr

namespace Token

/-- The token is the punctuation `mark`. -/
def isMark (t : Token) (mark : Text) : Bool := t.kind == .punct && t.text == mark

/-- The token is the reserved word `word`. -/
def isKeyword (t : Token) (word : Text) : Bool := t.kind == .keyword && t.text == word

/-- The token is one of the operators that may stand before an operand. -/
def isSign (t : Token) : Bool := t.kind == .op && [['-'], ['+'], ['!'], ['~']].contains t.text

end Token

/-- The tokens of a text, and whether a literal or comment is left open after them. -/
structure TokenRow where
  tokens : List Token
  openLiteral : Bool
  deriving DecidableEq, Repr

namespace TokenRow

/-- The tokens of a row of lexemes, where `crossed` tells that a line break has been met since the
last token. -/
def ofLexemes (crossed : Bool) : List Lexeme → TokenRow
  | [] => ⟨[], false⟩
  | l :: lexemes =>
    let crossed := crossed || l.gap.contains '\n'
    if l.unterminated then ⟨[], true⟩
    else if l.kind = .comment then ofLexemes (crossed || l.text.contains '\n') lexemes
    else
      let row := ofLexemes false lexemes
      ⟨⟨l.kind, l.text, l.start, l.stop, crossed⟩ :: row.tokens, row.openLiteral⟩

/-- The tokens of a text. -/
def ofText (t : Text) : TokenRow := ofLexemes false (Lexeme.scan t)

end TokenRow

end StatementReader
