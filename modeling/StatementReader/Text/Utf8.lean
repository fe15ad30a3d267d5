import StatementReader.Text.Blank

/-!
# Bytes

Texts as they are stored and transmitted: in UTF-8, and cut into lines before they are decoded, so
that a line that is not valid leaves the lines around it readable.
-/

namespace StatementReader

/-- A row of bytes. -/
abbrev Bytes := List UInt8

namespace Bytes

/-- The byte of a line feed. -/
def lineFeed : UInt8 := 10

/-- The byte of a carriage return. -/
def carriageReturn : UInt8 := 13

/-- The UTF-8 form of a text. -/
def ofText (t : Text) : Bytes := t.flatMap String.utf8EncodeChar

/-- The text of which the bytes are the UTF-8 form, if there is one. -/
def toText? (b : Bytes) : Option Text := b.toByteArray.utf8Decode?.map Array.toList

@[simp] theorem toText?_ofText (t : Text) : (ofText t).toText? = some t := by
  have h : (ofText t).toByteArray = t.utf8Encode := rfl
  simp [toText?, h]

/-- Reading accepts exactly what writing produces. -/
theorem toText?_eq_some_iff {b : Bytes} {t : Text} : b.toText? = some t ↔ b = ofText t := by
  constructor
  · intro h
    have hs : b.toByteArray.utf8Decode?.isSome := by
      cases hd : b.toByteArray.utf8Decode? with
      | none => simp [toText?, hd] at h
      | some a => rfl
    obtain ⟨m, hm⟩ := ByteArray.isSome_utf8Decode?_iff.1 hs
    have hb : b = ofText m := by
      have := congrArg (fun a => a.data.toList) hm
      simpa [List.utf8Encode, ofText] using this
    subst hb
    simp only [toText?_ofText, Option.some.injEq] at h
    rw [h]
  · rintro rfl
    exact toText?_ofText t

/-- The pieces between line feeds, each without the carriage return that precedes a line feed. -/
def lines (b : Bytes) : List Bytes :=
  let strip (piece : Bytes) : Bytes :=
    if piece.getLast? = some carriageReturn then piece.dropLast else piece
  let pieces := b.splitOn lineFeed
  let last := pieces.getLastD []
  pieces.dropLast.map strip ++ (if last = [] then [] else [last])

end Bytes

end StatementReader
