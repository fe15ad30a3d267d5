import StatementReader.Text.Ranges

/-!
# Numbers in decimal

Numbers as they are written into messages, and as they are read from a setting: ASCII digits after
an optional plus sign, with leading zeros allowed and nothing else.
-/

namespace StatementReader.Text

/-- A number in decimal. -/
def decimal (n : Nat) : Text := Nat.toDigits 10 n

/-- The number that a row of digits denotes. -/
def digitsValue (digits : Text) : Nat :=
  digits.foldl (fun n c => 10 * n + (c.toNat - '0'.toNat)) 0

/-- Reads a number of at least one digit. -/
def readDecimal? (t : Text) : Option Nat :=
  let digits := match t with
    | '+' :: t => t
    | t => t
  if digits ≠ [] && digits.all Char.isDigit then some (digitsValue digits) else none

end StatementReader.Text
