import StatementReader.Text.Picture
import StatementReader.Text.Width

/-!
# The width of a cluster

The characters of a cluster are drawn together, and together some take fewer columns than they do
one by one. A flag, a picture with its modifier and a row of pictures held by joiners are one
picture of two columns; a selector makes a picture of a sign, or a sign of a picture; a Khmer
consonant written below another takes no column.

What a character adds depends on what stands to its right, so a cluster is measured from its end.
`Drawn` holds the columns of the characters measured so far, and in its `head` what they begin with,
as far as the character before them can be drawn into it. `Drawn.cons` puts one character before
them, and one that nothing joins keeps its own columns (`cellWidth`).
-/

namespace StatementReader.Text

/-! ### Khmer letters -/

/-- The sign that writes the consonant after it below the one before it. -/
def coeng : Char := '\u17D2'

/-- The Khmer letters that are written below another after a `coeng`. -/
def subjoinedRanges : CharRanges :=
  [(0x1780, 0x1782), (0x1784, 0x1787), (0x1789, 0x178C), (0x178E, 0x1793), (0x1795, 0x1798),
   (0x179B, 0x179D), (0x17A0, 0x17A0), (0x17A2, 0x17A2), (0x17A7, 0x17A7), (0x17AB, 0x17AC),
   (0x17AF, 0x17AF)]

/-- The marks that show nothing themselves and do not keep apart the characters around them: the
joiners of graphemes and of letters, the selectors, and two vowels that are never written. -/
def transparentRanges : CharRanges :=
  [(0x34F, 0x34F), (0x17B4, 0x17B5), (0x180B, 0x180D), (0x180F, 0x180F), (0x200D, 0x200D),
   (0xFE00, 0xFE0F), (0xE0100, 0xE01EF)]

/-! ### Measuring from the end -/

/-- The joiner of pictures and letters. -/
def joiner : Char := '\u200D'

/-- The sign that asks for a plain character. -/
def textSelector : Char := '\uFE0E'

/-- The sign that asks for a picture. -/
def pictureSelector : Char := '\uFE0F'

/-- The frame of a key, drawn around the sign before it. -/
def keycap : Char := '\u20E3'

/-- The tag that ends the name of a region. -/
def endTag : Char := Char.ofNat 0xE007F

/-- The flag whose region is named by the tags after it. -/
def blackFlag : Char := Char.ofNat 0x1F3F4

/-- What a text begins with, as far as the character before it can be drawn into it. -/
inductive Head where
  /-- Nothing that the character before it is drawn into. -/
  | plain
  | lineFeed
  /-- A letter that a `coeng` writes below. -/
  | subjoined
  | textSelector
  /-- The picture selector, and whether a joined picture follows it. -/
  | pictureSelector (joined : Bool)
  | modifier
  | flagLetter
  | flag
  | picture
  /-- A joiner and a picture. -/
  | joined
  /-- The frame of a key, with a joined picture after it. -/
  | joinedKeycap
  /-- One flag letter, with a joined picture after it. -/
  | joinedFlagLetter
  /-- A flag, with a joined picture after it. -/
  | joinedFlag
  /-- The end of the name of a region, of so many letters after so many digits, with a joined
  picture after it. -/
  | joinedTags (letters digits : Nat)
  deriving DecidableEq, Repr

/-- The columns of a character that is drawn by itself, where even a control takes one. -/
def cellWidth (c : Char) : Nat := if isControl c then 1 else charWidth c

/-- What a text begins with whose first character is drawn by itself. -/
def Head.ofChar (c : Char) : Head :=
  if c = '\n' then .lineFeed
  else if c.toNat < 0xA0 then .plain
  else if c = Text.textSelector then .textSelector
  else if c = Text.pictureSelector then .pictureSelector false
  else if isFlagLetter c then .flagLetter
  else if isPictureModifier c then .modifier
  else if isPicture c then .picture
  else if subjoinedRanges.contains c then .subjoined
  else .plain

/-- A text whose characters are drawn together. -/
structure Drawn where
  columns : Nat
  head : Head
  deriving DecidableEq, Repr

namespace Drawn

/-- No characters. -/
def empty : Drawn := ⟨0, .plain⟩

/-- A character before others that is drawn by itself. -/
def consAlone (c : Char) (d : Drawn) : Drawn := ⟨cellWidth c + d.columns, .ofChar c⟩

/-- A character before a joiner and a picture: another picture, or the end of one that is made of
several characters, becomes one with it. -/
def consJoined (c : Char) (d : Drawn) : Drawn :=
  if c = pictureSelector then { d with head := .pictureSelector true }
  else if c = keycap then { d with head := .joinedKeycap }
  else if c = endTag then { d with head := .joinedTags 0 0 }
  else if isFlagLetter c then ⟨1 + d.columns, .joinedFlagLetter⟩
  else if isPictureModifier c then { d with head := .modifier }
  else if isPicture c then { d with head := .picture }
  else d.consAlone c

/-- A character before the name of a region. The name is read from its end: up to six letters, or
three digits and up to four letters after them. The flag before it needs three digits, or three
letters at least. -/
def consTagged (letters digits : Nat) (c : Char) (d : Drawn) : Drawn :=
  if isTagLetter c && digits == 0 && letters < 6 then
    { d with head := .joinedTags (letters + 1) 0 }
  else if isTagDigit c && digits < 3 && letters ≤ 4 then
    { d with head := .joinedTags letters (digits + 1) }
  else if c = blackFlag && (digits == 3 || (digits == 0 && 3 ≤ letters)) then
    { d with head := .picture }
  else d.consAlone c

/-- A character before others that are drawn together. -/
def cons (c : Char) (d : Drawn) : Drawn :=
  match d.head with
  | .plain => d.consAlone c
  | .lineFeed => if c = '\r' then { d with head := .plain } else d.consAlone c
  | .subjoined =>
    if c = coeng then ⟨d.columns - 1, .plain⟩
    else if transparentRanges.contains c then d
    else d.consAlone c
  | .textSelector => if isTextSelectable c then ⟨1 + d.columns, .plain⟩ else d.consAlone c
  | .pictureSelector joined =>
    if isSelectable c then ⟨(if joined then 0 else 2) + d.columns, .picture⟩ else d.consAlone c
  | .modifier =>
    if isModifierBase c then { d with head := .picture }
    else if c = joiner then { d with head := .joined }
    else d.consAlone c
  | .flagLetter => if isFlagLetter c then ⟨1 + d.columns, .flag⟩ else d.consAlone c
  | .flag | .picture | .joinedFlag =>
    if c = joiner then { d with head := .joined } else d.consAlone c
  | .joined => d.consJoined c
  | .joinedKeycap =>
    if c = pictureSelector then { d with head := .pictureSelector true } else d.consAlone c
  | .joinedFlagLetter =>
    if isFlagLetter c then ⟨d.columns - 1, .joinedFlag⟩ else d.consAlone c
  | .joinedTags letters digits => d.consTagged letters digits c

end Drawn

/-- The columns a cluster takes. -/
def clusterWidth (t : Text) : Nat := (t.foldr Drawn.cons .empty).columns

end StatementReader.Text
