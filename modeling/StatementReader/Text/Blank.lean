import StatementReader.Text.Ranges

/-!
# Blank characters

The characters that separate words and nothing else: the Unicode property White_Space. The
zero-width space and the byte order mark do not have it.
-/

namespace StatementReader.Text

/-- The characters with the property White_Space. -/
def blankRanges : CharRanges :=
  [(0x9, 0xD), (0x20, 0x20), (0x85, 0x85), (0xA0, 0xA0), (0x1680, 0x1680), (0x2000, 0x200A),
   (0x2028, 0x2029), (0x202F, 0x202F), (0x205F, 0x205F), (0x3000, 0x3000)]

/-- A character of blank space. -/
def isBlank (c : Char) : Bool := blankRanges.contains c

/-- A text of blank space only, the empty one included. -/
def isAllBlank (t : Text) : Bool := t.all isBlank

/-- A text without the characters at its end that satisfy `p`. -/
def dropEndWhile (p : Char → Bool) (t : Text) : Text := (t.reverse.dropWhile p).reverse

/-- A text without the blank space at its end. -/
def trimEnd (t : Text) : Text := dropEndWhile isBlank t

/-- A text without the blank space at both ends. -/
def trim (t : Text) : Text := trimEnd (t.dropWhile isBlank)

end StatementReader.Text
