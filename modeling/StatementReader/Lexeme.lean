import StatementReader.Text.Offset
import StatementReader.Text.Blank
import StatementReader.Text.Letter

/-!
# Lexemes

The smallest pieces of a statement, and how a text is cut into them. A lexeme keeps the blank space
before it, so the text is the concatenation of all gaps and lexemes with the blank space at its end.
Every other character belongs to a lexeme: what starts none of the known kinds is a lexeme of kind
`unknown` by itself.

A string, a character literal or a block comment may run into the end of the text. It is then
marked `unterminated` and takes everything that is left, so it is the last lexeme.

`Cut` is one lexeme taken off a text, and `cut` decides by the first characters which way of cutting
applies. `Lexeme/Scan.lean` shows that each of them keeps all characters and takes at least one, and
cuts whole texts.
-/

namespace StatementReader

/-- The kinds of lexemes. -/
inductive LexemeKind where
  | ident | keyword | constant | int | float | str | char | op | punct | comment | unknown
  deriving DecidableEq, Repr

namespace LexemeKind

/-- Kinds that stand for a value as they are. -/
def isLiteral : LexemeKind → Bool
  | constant | int | float | str | char => true
  | _ => false

end LexemeKind

/-- A lexeme with the blank space before it. -/
structure Lexeme where
  kind : LexemeKind
  /-- The blank space before the lexeme. -/
  gap : Text
  text : Text
  /-- The offset of the lexeme, after the gap. -/
  start : Nat
  /-- The literal or comment runs into the end of the text. -/
  unterminated : Bool
  deriving DecidableEq, Repr

namespace Lexeme

open Text

/-- The offset after the lexeme. -/
def stop (l : Lexeme) : Nat := l.start + size l.text

/-- The reserved words, in alphabetical order. -/
def keywords : List Text :=
  ["abstract", "case", "catch", "class", "def", "do", "else", "extends", "final", "finally",
   "for", "if", "implicit", "import", "lazy", "match", "new", "object", "override", "package",
   "private", "protected", "return", "sealed", "super", "this", "throw", "trait", "try", "type",
   "val", "var", "while", "with", "yield"].map String.toList

/-- The words that are literals. -/
def constants : List Text := ["true", "false", "null"].map String.toList

/-- The characters operators are made of. -/
def operatorChars : Text := "+-*/%<>=!&|^~?:#@\\".toList

/-- The characters that are punctuation by themselves. -/
def punctuationChars : Text := "()[]\x7b\x7d,;.".toList

/-- The operators that are punctuation. -/
def punctuationOperators : List Text := ["=", "=>", ":"].map String.toList

/-- A lexeme taken off a text, with what is left. -/
structure Cut where
  kind : LexemeKind
  taken : Text
  rest : Text
  unterminated : Bool := false

/-! ### Cutting comments -/

/-- Splits `s` after the first occurrence of `mark`. -/
def splitAfter? (mark : Text) : Text → Option (Text × Text)
  | [] => none
  | c :: s =>
    if mark.isPrefixOf (c :: s) then some (mark, (c :: s).drop mark.length)
    else (splitAfter? mark s).map fun (t, r) => (c :: t, r)

/-- A line comment: the line break after it is not part of it. -/
def cutLineComment (s : Text) : Cut :=
  ⟨.comment, s.takeWhile (· ≠ '\n'), s.dropWhile (· ≠ '\n'), false⟩

/-- A literal or comment that begins with `opening` and ends after the next `closing`. -/
def cutDelimited (kind : LexemeKind) (opening closing s : Text) : Cut :=
  match splitAfter? closing (s.drop opening.length) with
  | some (t, r) => ⟨kind, s.take opening.length ++ t, r, false⟩
  | none => ⟨kind, s, [], true⟩

/-- A comment begins here. -/
def startsComment (s : Text) : Bool := "//".toList.isPrefixOf s || "/*".toList.isPrefixOf s

/-! ### Cutting numbers -/

/-- A character that may stand within the digits of a number. -/
def isDigitOrUnderscore (c : Char) : Bool := c.isDigit || c == '_'

/-- The digits after a decimal point. A point that no digit follows is a member access. -/
def cutFraction (s : Text) : Option (Text × Text) :=
  match s with
  | '.' :: d :: s =>
    if d.isDigit then
      some ('.' :: (d :: s).takeWhile isDigitOrUnderscore, (d :: s).dropWhile isDigitOrUnderscore)
    else none
  | _ => none

/-- The letter after the digits: `L` for a long integer, `f` or `d` for a floating-point number. -/
def cutSuffix (kind : LexemeKind) (taken rest : Text) : Cut :=
  match rest with
  | c :: r =>
    if kind = .int ∧ c ∈ ['L', 'l'] then ⟨.int, taken ++ [c], r, false⟩
    else if c ∈ ['f', 'F', 'd', 'D'] then ⟨.float, taken ++ [c], r, false⟩
    else ⟨kind, taken, rest, false⟩
  | [] => ⟨kind, taken, rest, false⟩

/-- A number, which begins with a digit. -/
def cutNumber (s : Text) : Cut :=
  let digits := s.takeWhile isDigitOrUnderscore
  let rest := s.dropWhile isDigitOrUnderscore
  match cutFraction rest with
  | some (fraction, rest) => cutSuffix .float (digits ++ fraction) rest
  | none => cutSuffix .int digits rest

/-! ### Cutting quoted literals -/

/-- The rest of a string after its opening quote, and whether a quote ends it. A backslash takes
the next character with it. -/
def splitString : Text → Text × Text × Bool
  | [] => ([], [], false)
  | '"' :: s => (['"'], s, true)
  | '\\' :: c :: s =>
    let (t, r, closed) := splitString s
    ('\\' :: c :: t, r, closed)
  | c :: s =>
    let (t, r, closed) := splitString s
    (c :: t, r, closed)

/-- A string with its opening quote. Three quotes open a string that only three quotes end. -/
def cutString (s : Text) : Cut :=
  if "\"\"\"".toList.isPrefixOf s then cutDelimited .str "\"\"\"".toList "\"\"\"".toList s
  else
    let (t, r, closed) := splitString (s.drop 1)
    ⟨.str, s.take 1 ++ t, r, !closed⟩

/-- A character literal whose content has been read into `taken`: a quote ends it, the end of the
text leaves it open, and anything else makes the opening quote a stray one. -/
def closeChar (s taken rest : Text) : Cut :=
  match rest with
  | [] => ⟨.char, s, [], true⟩
  | '\'' :: r => ⟨.char, taken ++ ['\''], r, false⟩
  | _ => ⟨.unknown, s.take 1, s.drop 1, false⟩

/-- A character literal with its opening quote. -/
def cutChar (s : Text) : Cut :=
  match s with
  | quote :: '\\' :: c :: r => closeChar s [quote, '\\', c] r
  | [_, '\\'] => ⟨.char, s, [], true⟩
  | quote :: c :: r => closeChar s [quote, c] r
  | _ => ⟨.char, s, [], true⟩

/-! ### Cutting words and operators -/

/-- The kind of a word. -/
def wordKind (word : Text) : LexemeKind :=
  if keywords.contains word then .keyword
  else if constants.contains word then .constant
  else .ident

/-- A keyword, a constant or an identifier. -/
def cutWord (s : Text) : Cut :=
  ⟨wordKind (s.takeWhile isWordChar), s.takeWhile isWordChar, s.dropWhile isWordChar, false⟩

/-- The operator characters at the start of a text, up to a comment. -/
def splitOperator : Text → Text × Text
  | [] => ([], [])
  | c :: s =>
    if operatorChars.contains c && !startsComment (c :: s) then
      let (t, r) := splitOperator s
      (c :: t, r)
    else ([], c :: s)

/-- The kind of a row of operator characters. -/
def operatorKind (op : Text) : LexemeKind :=
  if punctuationOperators.contains op then .punct else .op

/-- A row of operator characters. -/
def cutOperator (s : Text) : Cut :=
  ⟨operatorKind (splitOperator s).1, (splitOperator s).1, (splitOperator s).2, false⟩

/-! ### Cutting one lexeme -/

/-- The lexeme that begins with `c`, a character that is not blank, and goes on into `s`. -/
def cut (c : Char) (s : Text) : Cut :=
  if "//".toList.isPrefixOf (c :: s) then cutLineComment (c :: s)
  else if "/*".toList.isPrefixOf (c :: s) then
    cutDelimited .comment "/*".toList "*/".toList (c :: s)
  else if c.isDigit then cutNumber (c :: s)
  else if c = '"' then cutString (c :: s)
  else if c = '\'' then cutChar (c :: s)
  else if isWordStart c then cutWord (c :: s)
  else if punctuationChars.contains c then ⟨.punct, [c], s, false⟩
  else if operatorChars.contains c then cutOperator (c :: s)
  else ⟨.unknown, [c], s, false⟩

end Lexeme

end StatementReader
