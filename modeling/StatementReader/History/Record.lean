import StatementReader.History.Entry
import StatementReader.Json.Value

/-!
# History records

An entry of the history as one line of JSON: an object with the text of the statement and whether it
was accepted. It is written in one way. It is read from an object with these two members, in any
order and among others, but each of them once, or from an array of the two values.
-/

namespace StatementReader

/-- A record of the history. -/
structure HistoryRecord where
  text : Text
  accepted : Bool
  deriving DecidableEq, Repr

namespace HistoryRecord

/-- The record of an entry. -/
def ofEntry (e : HistoryEntry) : HistoryRecord := ⟨e.text, e.wasAccepted⟩

/-! ### Writing -/

/-- A character inside a JSON string. -/
def encodeChar (c : Char) : Text :=
  if c = '"' then "\\\"".toList
  else if c = '\\' then "\\\\".toList
  else if c = '\x08' then "\\b".toList
  else if c = '\x0c' then "\\f".toList
  else if c = '\n' then "\\n".toList
  else if c = '\r' then "\\r".toList
  else if c = '\t' then "\\t".toList
  else if c.toNat < 0x20 then
    "\\u00".toList ++ [Nat.digitChar (c.toNat / 16), Nat.digitChar (c.toNat % 16)]
  else [c]

/-- The record as JSON. -/
def encode (r : HistoryRecord) : Text :=
  "\x7b\"text\":\"".toList ++ r.text.flatMap encodeChar ++ "\",\"accepted\":".toList ++
    (if r.accepted then "true" else "false").toList ++ "\x7d".toList

/-! ### Reading -/

/-- The values of the members with a name. -/
def valuesOf (name : Text) (members : List (Option Text × JsonValue)) : List JsonValue :=
  (members.filter (·.1 == some name)).map (·.2)

/-- The record that a JSON value denotes. Every name of a member must have a content. -/
def ofJson? : JsonValue → Option HistoryRecord
  | .array [.str (some text), .bool accepted] => some ⟨text, accepted⟩
  | .object members =>
    if members.all (·.1.isSome) then
      match valuesOf "text".toList members, valuesOf "accepted".toList members with
      | [.str (some text)], [.bool accepted] => some ⟨text, accepted⟩
      | _, _ => none
    else none
  | _ => none

/-- The record that a line denotes. -/
def decode? (line : Text) : Option HistoryRecord := (JsonValue.ofText? line).bind ofJson?

end HistoryRecord

end StatementReader
