/-!
# Text and sets of characters

A text is the list of its characters. A class of characters that a standard fixes is a list of
closed ranges of code points in ascending order, so that a search may stop at the first range that
begins above the character.
-/

namespace StatementReader

/-- A text, as the list of its characters. -/
abbrev Text := List Char

/-- A set of characters: closed ranges of code points, in ascending order. -/
abbrev CharRanges := List (Nat × Nat)

/-- Membership. A range that begins above `c` ends the search, which loses nothing because the
ranges ascend. -/
def CharRanges.contains : CharRanges → Char → Bool
  | [], _ => false
  | (first, last) :: ranges, c =>
    first ≤ c.toNat && (c.toNat ≤ last || contains ranges c)

end StatementReader
