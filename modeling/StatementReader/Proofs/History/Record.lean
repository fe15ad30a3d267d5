import StatementReader.History.Record
import StatementReader.Text.Blank

/-!
# Reading a record that was written

A record is written as one line of JSON. Each character of its text is written as one piece of a
string, plain or escaped, and the piece stands for that character again whatever surrounds it
(`JsonToken.Reads`, `JsonToken.Piece.StandsFor`). So the form of a record has the tokens of the
record (`HistoryRecord.tokens`), with any blank space before it, and is read as that record.

A text of blank space only is not the form of anything.
-/

namespace StatementReader

namespace JsonToken

/-! ### Pieces of a string -/

/-- A piece of a string stands for a character, whatever comes after it. -/
def Piece.StandsFor (p : Piece) (c : Char) : Prop :=
  ∀ pieces, joinPieces (p :: pieces) = (joinPieces pieces).map (c :: ·)

/-- A character stands for itself. -/
theorem standsFor_char (c : Char) : (Piece.char c).StandsFor c := fun _ => rfl

/-- A code unit that is no half stands for the character of its number. -/
theorem standsFor_unit {c : Char} (h : c.toNat < 0xD800) : (Piece.unit c.toNat).StandsFor c := by
  intro pieces
  have hhigh : isHighHalf c.toNat = false := by simp [isHighHalf]; omega
  have hlow : isLowHalf c.toNat = false := by simp [isLowHalf]; omega
  have hc : Char.ofNat c.toNat = c := Char.ofNat_toNat c
  -- a code unit is told apart from the first of a pair by what comes next
  rcases pieces with _ | ⟨⟨d⟩ | ⟨n⟩, pieces⟩ <;> simp [joinPieces, hhigh, hlow, hc]

/-- A form is read as one piece, before anything else. -/
def Reads (form : Text) (p : Piece) : Prop :=
  ∀ s, readString (form ++ s) = (readString s).map fun r => (p :: r.1, r.2)

/-- A character that needs no escape is read as it is. -/
theorem reads_plain {c : Char} (hquote : c ≠ '"') (hescape : c ≠ '\\') (hc : 0x20 ≤ c.toNat) :
    Reads [c] (.char c) := by
  intro s
  have hplain : ¬ (c.toNat < 0x20 ∨ c = '\\') := by simp [hescape, hc]
  rw [List.singleton_append, readString, if_neg hplain]
  · cases readString s <;> rfl
  · exact hquote
  · simp [hescape]
  · simp [hescape]

/-- A short escape is read as its character. -/
theorem reads_escape {e c : Char} (h : simpleEscape? e = some c) : Reads ['\\', e] (.char c) := by
  intro s
  have he : e ≠ 'u' := by
    rintro rfl
    simp [simpleEscape?] at h
  show readString ('\\' :: e :: s) = _
  rw [readString, h]
  · cases readString s <;> rfl
  · simp [he]

/-- Each digit has its value. -/
theorem hexValue?_digitChar : ∀ n < 16, hexValue? (Nat.digitChar n) = some n := by decide

/-- An escape with digits is read as their number. -/
theorem reads_unit {n : Nat} (h : n < 0x100) :
    Reads ("\\u00".toList ++ [Nat.digitChar (n / 16), Nat.digitChar (n % 16)]) (.unit n) := by
  intro s
  have hunit : hexUnit? '0' '0' (Nat.digitChar (n / 16)) (Nat.digitChar (n % 16)) = some n := by
    rw [hexUnit?, hexValue?_digitChar _ (by omega), hexValue?_digitChar _ (by omega)]
    show some _ = _
    -- the first two digits are zero, and the others make up the number
    congr 1
    show (((0 : Nat) * 16 + 0) * 16 + n / 16) * 16 + n % 16 = n
    omega
  show readString ('\\' :: 'u' :: '0' :: '0' :: Nat.digitChar (n / 16) ::
    Nat.digitChar (n % 16) :: s) = _
  rw [readString, hunit]
  cases readString s <;> rfl

/-! ### Tokens of a text -/

/-- The first token of a text, and those of what follows it. -/
theorem scanUpTo_of_read? {c : Char} {s s' rest : Text} {token : JsonToken}
    (hs : s.dropWhile isSpace = c :: s') (h : read? c s' = some (token, rest)) (count : Nat) :
    scanUpTo (count + 1) s = (scanUpTo count rest).map (token :: ·) := by
  rw [scanUpTo.eq_3 s c s' count hs, h]
  show (scanUpTo count rest).bind _ = _
  cases scanUpTo count rest <;> rfl

/-- What is space between tokens is blank. -/
theorem isBlank_of_isSpace {c : Char} (h : isSpace c) : Text.isBlank c := by
  simp only [isSpace, Bool.or_eq_true, beq_iff_eq] at h
  obtain ((rfl | rfl) | rfl) | rfl := h <;> decide

/-- What is blank is no digit. -/
theorem isDigit_of_isBlank {c : Char} (h : Text.isBlank c) : c.isDigit = false := by
  have hnat : c.val.toNat = c.toNat := rfl
  have hzero : '0'.val.toNat = 48 := rfl
  have hnine : '9'.val.toNat = 57 := rfl
  simp only [Text.isBlank, Text.blankRanges, CharRanges.contains, Bool.and_eq_true,
    Bool.or_eq_true, decide_eq_true_eq] at h
  simp only [Char.isDigit, Bool.and_eq_false_iff, decide_eq_false_iff_not,
    UInt32.le_iff_toNat_le, hnat, hzero, hnine]
  omega

/-- No token begins with blank space. -/
theorem read?_of_isBlank {c : Char} (h : Text.isBlank c) (s : Text) : read? c s = none := by
  have hwhole : skipWhole? (c :: s) = none := by
    unfold skipWhole?
    split
    · next hzero =>
      obtain ⟨rfl, -⟩ := List.cons.inj hzero
      exact absurd h (by decide)
    · simp [skipDigits?, isDigit_of_isBlank h]
  unfold read?
  split
  -- no other token begins with a blank character
  iterate 11
    · exact absurd h (by decide)
  · rw [skipNumber?, hwhole]
    rfl

end JsonToken

namespace HistoryRecord

open JsonToken

/-! ### Writing and reading -/

/-- The form of a character in a string is read as one piece that stands for it. -/
theorem exists_piece (c : Char) : ∃ p : Piece, p.StandsFor c ∧ Reads (encodeChar c) p := by
  unfold encodeChar
  -- the characters that have an escape of their own
  iterate 7
    split
    · next h => exact ⟨.char c, standsFor_char c, reads_escape (h ▸ rfl)⟩
  split
  · next hcontrol => exact ⟨.unit c.toNat, standsFor_unit (by omega), reads_unit (by omega)⟩
  · next hquote hslash _ _ _ _ _ hcontrol =>
    exact ⟨.char c, standsFor_char c, reads_plain hquote hslash (by omega)⟩

/-- The form of a text in a string is read as that text. -/
theorem exists_pieces (t : Text) : ∃ pieces, joinPieces pieces = some t ∧
    ∀ s, readString (t.flatMap encodeChar ++ '"' :: s) = some (pieces, s) := by
  induction t with
  | nil => exact ⟨[], rfl, fun _ => rfl⟩
  | cons c t ih =>
    obtain ⟨pieces, hjoin, hread⟩ := ih
    obtain ⟨p, hp, hreads⟩ := exists_piece c
    refine ⟨p :: pieces, ?_, fun s => ?_⟩
    · rw [hp, hjoin]
      rfl
    · rw [List.flatMap_cons, List.append_assoc, hreads, hread]
      rfl

/-- The form of a record, character by character around its text. -/
theorem encode_eq (r : HistoryRecord) : r.encode =
    '\x7b' :: '"' :: 't' :: 'e' :: 'x' :: 't' :: '"' :: ':' :: '"' ::
      (r.text.flatMap encodeChar ++ '"' :: ',' :: '"' :: 'a' :: 'c' :: 'c' :: 'e' :: 'p' :: 't' ::
        'e' :: 'd' :: '"' :: ':' ::
          ((if r.accepted then "true" else "false").toList ++ ['\x7d'])) := by
  have hhead : "\x7b\"text\":\"".toList = ['\x7b', '"', 't', 'e', 'x', 't', '"', ':', '"'] := by rfl
  have hmiddle : "\",\"accepted\":".toList =
    ['"', ',', '"', 'a', 'c', 'c', 'e', 'p', 't', 'e', 'd', '"', ':'] := by rfl
  have htail : "\x7d".toList = ['\x7d'] := by rfl
  unfold encode
  rw [hhead, hmiddle, htail]
  simp only [List.append_assoc, List.cons_append, List.nil_append]

/-- The tokens of a record. -/
def tokens (r : HistoryRecord) : List JsonToken :=
  [.openBrace, .str (some "text".toList), .colon, .str (some r.text), .comma,
    .str (some "accepted".toList), .colon, .bool r.accepted, .closeBrace]

/-- A record is scanned into its tokens, whatever space is before it. -/
theorem scanUpTo_encode (r : HistoryRecord) {space : Text} (h : ∀ c ∈ space, isSpace c)
    (count : Nat) : scanUpTo (count + 9) (space ++ r.encode) = some r.tokens := by
  -- there are nine tokens, and only the text and the flag depend on the record
  obtain ⟨pieces, hjoin, hread⟩ := exists_pieces r.text
  have hmember (s : Text) :
      read? '"' (r.text.flatMap encodeChar ++ '"' :: s) = some (.str (some r.text), s) := by
    show (readString _).map _ = _
    rw [hread, ← hjoin]
    rfl
  have hbrace : scanUpTo (count + 1) ['\x7d'] = some [.closeBrace] := by
    rw [scanUpTo_of_read? rfl rfl, scanUpTo.eq_1 [] count rfl]
    rfl
  have haccepted : scanUpTo (count + 2) ((if r.accepted then "true" else "false").toList ++
      ['\x7d']) = some [.bool r.accepted, .closeBrace] := by
    cases r.accepted with
    | false =>
      exact (scanUpTo_of_read? (c := 'f') rfl rfl _).trans (congrArg (Option.map _) hbrace)
    | true =>
      exact (scanUpTo_of_read? (c := 't') rfl rfl _).trans (congrArg (Option.map _) hbrace)
  have hspace : (space ++ r.encode).dropWhile isSpace = r.encode.dropWhile isSpace :=
    List.dropWhile_append_of_pos h
  rw [encode_eq] at hspace ⊢
  rw [scanUpTo_of_read? hspace rfl, scanUpTo_of_read? rfl rfl, scanUpTo_of_read? rfl rfl,
    scanUpTo_of_read? rfl (hmember _), scanUpTo_of_read? rfl rfl, scanUpTo_of_read? rfl rfl,
    scanUpTo_of_read? rfl rfl, haccepted]
  rfl

/-- A record has at least as many characters as tokens. -/
theorem length_encode (r : HistoryRecord) : 9 ≤ r.encode.length := by
  rw [encode_eq]
  simp only [List.length_cons]
  omega

/-- A record is read from the form that it is written in, with any space before it. -/
theorem decode?_encode (r : HistoryRecord) {space : Text} (h : ∀ c ∈ space, isSpace c) :
    decode? (space ++ r.encode) = some r := by
  obtain ⟨count, hcount⟩ := Nat.exists_eq_add_of_le' r.length_encode
  have hscan : scan? (space ++ r.encode) = some r.tokens := by
    rw [scan?, List.length_append, hcount, ← Nat.add_assoc, scanUpTo_encode r h]
  rw [decode?, JsonValue.ofText?, hscan]
  rfl

/-- Blank space alone is the form of nothing. -/
theorem decode?_of_isAllBlank {t : Text} (h : Text.isAllBlank t) : decode? t = none := by
  have hscan : scan? t = none ∨ scan? t = some [] := by
    rw [scan?]
    rcases hdrop : t.dropWhile isSpace with _ | ⟨c, s⟩
    · exact .inr (scanUpTo.eq_1 t _ hdrop)
    · have hc : c ∈ t := (List.dropWhile_suffix _).subset (hdrop ▸ List.mem_cons_self)
      have hread := read?_of_isBlank (List.all_eq_true.1 h c hc) s
      obtain ⟨d, t, rfl⟩ := List.exists_cons_of_ne_nil (List.ne_nil_of_mem hc)
      rw [List.length_cons, scanUpTo.eq_3 _ c s _ hdrop, hread]
      exact .inl rfl
  -- neither no tokens nor a blank one make a record
  obtain hscan | hscan := hscan <;> rw [decode?, JsonValue.ofText?, hscan] <;> rfl

/-! ### The form of a record as a line -/

/-- No digit is a line break. -/
theorem digitChar_ne_lineFeed : ∀ n < 16, '\n' ≠ Nat.digitChar n := by decide

/-- A line feed in a text is written as an escape, so the form of a record is one line. -/
theorem lineFeed_notMem_encode (r : HistoryRecord) : '\n' ∉ r.encode := by
  -- a control character is written in hexadecimal digits, and a line feed has an escape of its own
  have hchar (c : Char) : '\n' ∉ encodeChar c := by
    unfold encodeChar
    iterate 7
      split
      · decide
    split
    · next hcontrol =>
      have hhigh := digitChar_ne_lineFeed (c.toNat / 16) (by omega)
      have hlow := digitChar_ne_lineFeed (c.toNat % 16) (by omega)
      simp [hhigh, hlow]
    · next hfeed _ _ _ => simpa using Ne.symm hfeed
  have hbool : '\n' ∉ (if r.accepted then "true" else "false").toList := by
    cases r.accepted <;> decide
  have htext : '\n' ∉ r.text.flatMap encodeChar := by
    simp [hchar]
  rw [encode_eq]
  simp [htext, hbool]

/-- A record ends with a brace. -/
theorem getLast?_encode (r : HistoryRecord) : r.encode.getLast? = some '\x7d' := by
  rw [encode_eq]
  simp [List.getLast?_cons, List.getLast?_append]

end HistoryRecord

end StatementReader
