import StatementReader.Text.Ranges

/-!
# JSON tokens

The lexical form of JSON. Blank space is a space, a tab, a line feed or a carriage return. The value
of a number is not needed and so not read, only its form is checked.

A string may escape a character by its UTF-16 code units. Where these do not fit together, the
string has the form of a string but no content (`none`), and it depends on its place whether that
matters.
-/

namespace StatementReader

/-- The tokens of JSON. -/
inductive JsonToken where
  | openBrace | closeBrace | openBracket | closeBracket | colon | comma
  | str (content : Option Text)
  | number
  | bool (b : Bool)
  | null
  deriving DecidableEq, Repr

namespace JsonToken

/-! ### Strings -/

/-- A character of a string, or a UTF-16 code unit that stands for one or for a half of one. -/
inductive Piece where
  | char (c : Char)
  | unit (n : Nat)
  deriving DecidableEq, Repr

/-- The first half of a character outside the basic plane. -/
def isHighHalf (n : Nat) : Bool := 0xD800 ≤ n && n < 0xDC00

/-- The second half of a character outside the basic plane. -/
def isLowHalf (n : Nat) : Bool := 0xDC00 ≤ n && n < 0xE000

/-- The content of a string, if every half has its other half. -/
def joinPieces : List Piece → Option Text
  | [] => some []
  | .char c :: pieces => (joinPieces pieces).map (c :: ·)
  | .unit high :: .unit low :: pieces =>
    if isHighHalf high then
      if isLowHalf low then
        (joinPieces pieces).map
          (Char.ofNat (0x10000 + (high - 0xD800) * 0x400 + (low - 0xDC00)) :: ·)
      else none
    else if isLowHalf high then none
    else (joinPieces (.unit low :: pieces)).map (Char.ofNat high :: ·)
  | .unit n :: pieces =>
    if isHighHalf n || isLowHalf n then none else (joinPieces pieces).map (Char.ofNat n :: ·)

/-- The value of a hexadecimal digit. -/
def hexValue? (c : Char) : Option Nat :=
  if c.isDigit then some (c.toNat - '0'.toNat)
  else if 'a' ≤ c ∧ c ≤ 'f' then some (c.toNat - 'a'.toNat + 10)
  else if 'A' ≤ c ∧ c ≤ 'F' then some (c.toNat - 'A'.toNat + 10)
  else none

/-- The value of four hexadecimal digits. -/
def hexUnit? (a b c d : Char) : Option Nat := do
  return (((← hexValue? a) * 16 + (← hexValue? b)) * 16 + (← hexValue? c)) * 16 + (← hexValue? d)

/-- The character that a backslash and this one stand for. -/
def simpleEscape? : Char → Option Char
  | '"' => some '"'
  | '\\' => some '\\'
  | '/' => some '/'
  | 'b' => some '\x08'
  | 'f' => some '\x0c'
  | 'n' => some '\n'
  | 'r' => some '\r'
  | 't' => some '\t'
  | _ => none

/-- The pieces of a string after its opening quote, and what follows its closing quote. -/
def readString : Text → Option (List Piece × Text)
  | [] => none
  | '"' :: s => some ([], s)
  | '\\' :: 'u' :: a :: b :: c :: d :: s => do
    let n ← hexUnit? a b c d
    let (pieces, rest) ← readString s
    return (.unit n :: pieces, rest)
  | '\\' :: e :: s => do
    let c ← simpleEscape? e
    let (pieces, rest) ← readString s
    return (.char c :: pieces, rest)
  | c :: s =>
    if c.toNat < 0x20 ∨ c = '\\' then none
    else do
      let (pieces, rest) ← readString s
      return (.char c :: pieces, rest)

/-! ### Numbers -/

/-- What follows one or more digits. -/
def skipDigits? (s : Text) : Option Text :=
  if s.head?.any Char.isDigit then some (s.dropWhile Char.isDigit) else none

/-- What follows the whole part of a number: a zero alone, or digits that begin with another. -/
def skipWhole? : Text → Option Text
  | '0' :: s => if s.head?.any Char.isDigit then none else some s
  | s => skipDigits? s

/-- What follows the fraction of a number, if it has one. -/
def skipFraction? : Text → Option Text
  | '.' :: s => skipDigits? s
  | s => some s

/-- What follows the exponent of a number, if it has one. -/
def skipExponent? : Text → Option Text
  | c :: s =>
    if c = 'e' ∨ c = 'E' then
      match s with
      | '+' :: s => skipDigits? s
      | '-' :: s => skipDigits? s
      | s => skipDigits? s
    else some (c :: s)
  | [] => some []

/-- What follows a number without its sign. -/
def skipNumber? (s : Text) : Option Text := do
  skipExponent? (← skipFraction? (← skipWhole? s))

/-! ### Tokens -/

/-- A character between tokens. -/
def isSpace (c : Char) : Bool := c == ' ' || c == '\t' || c == '\n' || c == '\r'

/-- The token that begins with `c` and goes on into `s`, with what follows it. -/
def read? (c : Char) (s : Text) : Option (JsonToken × Text) :=
  match c with
  | '\x7b' => some (openBrace, s)
  | '\x7d' => some (closeBrace, s)
  | '[' => some (openBracket, s)
  | ']' => some (closeBracket, s)
  | ':' => some (colon, s)
  | ',' => some (comma, s)
  | '"' => (readString s).map fun (pieces, rest) => (str (joinPieces pieces), rest)
  | '-' => (skipNumber? s).map fun rest => (number, rest)
  | 't' => ("rue".toList.isPrefixOf? s).map fun rest => (bool true, rest)
  | 'f' => ("alse".toList.isPrefixOf? s).map fun rest => (bool false, rest)
  | 'n' => ("ull".toList.isPrefixOf? s).map fun rest => (null, rest)
  | c => (skipNumber? (c :: s)).map fun rest => (number, rest)

/-- The tokens of a text. Every token takes a character, so as many as there are characters are
enough. -/
def scanUpTo : Nat → Text → Option (List JsonToken)
  | count, s =>
    match s.dropWhile isSpace, count with
    | [], _ => some []
    | _ :: _, 0 => none
    | c :: s, count + 1 => do
      let (token, rest) ← read? c s
      return token :: (← scanUpTo count rest)

/-- The tokens of a text, if it has the lexical form of JSON. -/
def scan? (s : Text) : Option (List JsonToken) := scanUpTo s.length s

end JsonToken

end StatementReader
