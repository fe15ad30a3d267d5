import StatementReader.Json.Token

/-!
# JSON values

Values are read from tokens with a stack of the arrays and objects that are open, so they may be
nested to any depth. An object keeps its members in order and may name one twice.
-/

namespace StatementReader

/-- A JSON value. A string whose escapes do not fit together has no content, and the value of a
number is not kept. -/
inductive JsonValue where
  | null
  | bool (b : Bool)
  | number
  | str (content : Option Text)
  | array (items : List JsonValue)
  | object (members : List (Option Text × JsonValue))
  deriving Repr

namespace JsonValue

/-- An array or object that is open, with what it holds so far, last first. -/
inductive Frame where
  | array (items : List JsonValue)
  /-- The value of `key` comes next. -/
  | object (members : List (Option Text × JsonValue)) (key : Option Text)

/-- What is read next. -/
inductive Phase where
  | value
  /-- The value has been read and belongs to the innermost frame. -/
  | done (v : JsonValue)

/-- Reads a value with open frames around it, up to the last token. -/
def readFrom : Phase → List Frame → List JsonToken → Option JsonValue
  | .value, frames, .null :: ts => readFrom (.done .null) frames ts
  | .value, frames, .bool b :: ts => readFrom (.done (.bool b)) frames ts
  | .value, frames, .number :: ts => readFrom (.done .number) frames ts
  | .value, frames, .str s :: ts => readFrom (.done (.str s)) frames ts
  | .value, frames, .openBracket :: .closeBracket :: ts => readFrom (.done (.array [])) frames ts
  | .value, frames, .openBracket :: ts => readFrom .value (.array [] :: frames) ts
  | .value, frames, .openBrace :: .closeBrace :: ts => readFrom (.done (.object [])) frames ts
  | .value, frames, .openBrace :: .str key :: .colon :: ts =>
    readFrom .value (.object [] key :: frames) ts
  | .done v, [], [] => some v
  | .done v, .array items :: frames, .comma :: ts =>
    readFrom .value (.array (v :: items) :: frames) ts
  | .done v, .array items :: frames, .closeBracket :: ts =>
    readFrom (.done (.array (v :: items).reverse)) frames ts
  | .done v, .object members key :: frames, .comma :: .str next :: .colon :: ts =>
    readFrom .value (.object ((key, v) :: members) next :: frames) ts
  | .done v, .object members key :: frames, .closeBrace :: ts =>
    readFrom (.done (.object ((key, v) :: members).reverse)) frames ts
  | _, _, _ => none

/-- The value that a text denotes. -/
def ofText? (s : Text) : Option JsonValue := do readFrom .value [] (← JsonToken.scan? s)

end JsonValue

end StatementReader
