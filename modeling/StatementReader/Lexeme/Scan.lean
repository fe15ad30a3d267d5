import StatementReader.Lexeme

/-!
# Scanning a text

`Lexeme.scan` cuts a whole text into lexemes. It ends because every cut takes at least one
character: the law of each way of cutting is that what it takes and what it leaves make up the text
(`Cut.Splits`), and that it takes something.
-/

namespace StatementReader
namespace Lexeme

open Text

/-- A cut that loses no character of `s` and takes at least one. -/
structure Cut.Splits (k : Cut) (s : Text) : Prop where
  taken_append_rest : k.taken ++ k.rest = s
  taken_ne_nil : k.taken ≠ []

/-! ### Each way of cutting splits its text -/

/-- A text that is split behind a mark is put together again. -/
theorem splitAfter?_append {mark s t r : Text} (h : splitAfter? mark s = some (t, r)) :
    t ++ r = s := by
  induction s generalizing t r with
  | nil => simp [splitAfter?] at h
  | cons c s ih =>
    simp only [splitAfter?] at h
    split at h
    · next hp =>
      obtain ⟨u, hu⟩ := List.isPrefixOf_iff_prefix.1 hp
      simp only [Option.some.injEq, Prod.mk.injEq] at h
      obtain ⟨rfl, rfl⟩ := h
      simp [← hu]
    · simp only [Option.map_eq_some_iff, Prod.exists, Prod.mk.injEq] at h
      obtain ⟨t', r', h', rfl, rfl⟩ := h
      simp [ih h']

/-- A line comment takes the rest of its line, which is not empty. -/
theorem splits_cutLineComment {c : Char} {s : Text} (h : c ≠ '\n') :
    (cutLineComment (c :: s)).Splits (c :: s) :=
  ⟨List.takeWhile_append_dropWhile, by simp [cutLineComment, h]⟩

/-- What is cut between two marks takes at least the first one. -/
theorem splits_cutDelimited {kind : LexemeKind} {opening closing s : Text} (ho : opening ≠ [])
    (hs : s ≠ []) : (cutDelimited kind opening closing s).Splits s := by
  unfold cutDelimited
  split
  · next t r h =>
    refine ⟨?_, ?_⟩
    · simp [List.append_assoc, splitAfter?_append h]
    · simp [ho, hs]
  · exact ⟨by simp, hs⟩

/-- A fraction and what follows it are the text. -/
theorem cutFraction_append {s t r : Text} (h : cutFraction s = some (t, r)) : t ++ r = s := by
  unfold cutFraction at h
  split at h
  · split at h
    · simp only [Option.some.injEq, Prod.mk.injEq] at h
      obtain ⟨rfl, rfl⟩ := h
      simp only [List.cons_append, List.takeWhile_append_dropWhile]
    · simp at h
  · simp at h

/-- A suffix belongs to the number or to what follows. -/
theorem cutSuffix_append (kind : LexemeKind) (taken rest : Text) :
    (cutSuffix kind taken rest).taken ++ (cutSuffix kind taken rest).rest = taken ++ rest := by
  unfold cutSuffix
  split
  · split
    · simp
    · split <;> simp
  · simp

/-- A suffix takes nothing away from the number. -/
theorem cutSuffix_taken_ne_nil {kind : LexemeKind} {taken rest : Text} (h : taken ≠ []) :
    (cutSuffix kind taken rest).taken ≠ [] := by
  unfold cutSuffix
  split
  · split
    · simp
    · split <;> simp [h]
  · exact h

/-- A number takes at least its first digit. -/
theorem splits_cutNumber {c : Char} {s : Text} (h : c.isDigit) :
    (cutNumber (c :: s)).Splits (c :: s) := by
  have hne : (c :: s).takeWhile isDigitOrUnderscore ≠ [] := by
    simp [isDigitOrUnderscore, h]
  unfold cutNumber
  dsimp only
  split
  · next f r hf =>
    refine ⟨?_, cutSuffix_taken_ne_nil (by simp [hne])⟩
    rw [cutSuffix_append, List.append_assoc, cutFraction_append hf,
      List.takeWhile_append_dropWhile]
  · refine ⟨?_, cutSuffix_taken_ne_nil hne⟩
    rw [cutSuffix_append, List.takeWhile_append_dropWhile]

/-- A string and what follows it are the text. -/
theorem splitString_append (s : Text) : (splitString s).1 ++ (splitString s).2.1 = s := by
  fun_induction splitString s <;> simp_all

/-- A string takes at least its quote. -/
theorem splits_cutString {c : Char} {s : Text} : (cutString (c :: s)).Splits (c :: s) := by
  unfold cutString
  split
  · exact splits_cutDelimited (by decide) (by simp)
  · exact ⟨by simp [splitString_append], by simp⟩

/-- Closing a character literal takes nothing away from it. -/
theorem splits_closeChar {s taken rest : Text} (ht : taken ≠ []) (hs : taken ++ rest = s) :
    (closeChar s taken rest).Splits s := by
  have hne : s ≠ [] := fun h => ht (List.append_eq_nil_iff.1 (hs.trans h)).1
  unfold closeChar
  split
  · exact ⟨by simp, hne⟩
  · exact ⟨by simpa using hs, by simp⟩
  · exact ⟨List.take_append_drop 1 s, by simp [hne]⟩

/-- A character literal takes at least its quote. -/
theorem splits_cutChar {c : Char} {s : Text} : (cutChar (c :: s)).Splits (c :: s) := by
  unfold cutChar
  split
  · next h => exact h ▸ splits_closeChar (by simp) (by simp)
  · exact ⟨by simp, by simp⟩
  · next h => exact h ▸ splits_closeChar (by simp) (by simp)
  · exact ⟨by simp, by simp⟩

/-- A word takes at least its first character. -/
theorem splits_cutWord {c : Char} {s : Text} (h : isWordStart c) :
    (cutWord (c :: s)).Splits (c :: s) :=
  ⟨List.takeWhile_append_dropWhile, by simp [cutWord, isWordChar_of_isWordStart h]⟩

/-- An operator and what follows it are the text. -/
theorem splitOperator_append (s : Text) : (splitOperator s).1 ++ (splitOperator s).2 = s := by
  fun_induction splitOperator s <;> simp_all

/-- An operator takes at least its first character, unless a comment begins there. -/
theorem splits_cutOperator {c : Char} {s : Text} (h : operatorChars.contains c)
    (hc : startsComment (c :: s) = false) : (cutOperator (c :: s)).Splits (c :: s) :=
  ⟨splitOperator_append _, by simp [cutOperator, splitOperator, hc, List.contains_iff_mem.1 h]⟩

/-- So every cut takes something, and loses nothing. -/
theorem splits_cut (c : Char) (s : Text) : (cut c s).Splits (c :: s) := by
  unfold cut
  split
  · next h =>
    refine splits_cutLineComment ?_
    rintro rfl
    simp at h
  · split
    · -- the marks of a block comment are not empty, and the text is not
      exact splits_cutDelimited (by decide) (by simp)
    · next h₁ h₂ =>
      split
      · next h => exact splits_cutNumber h
      · split
        · exact splits_cutString
        · split
          · exact splits_cutChar
          · split
            · next h => exact splits_cutWord h
            · split
              · exact ⟨rfl, by simp⟩
              · split
                · next h =>
                  -- no comment begins here, since the first two tests have failed
                  refine splits_cutOperator h ?_
                  rw [startsComment, Bool.or_eq_false_iff]
                  exact ⟨Bool.eq_false_iff.2 h₁, Bool.eq_false_iff.2 h₂⟩
                · exact ⟨rfl, by simp⟩

/-- A cut leaves less than there was. -/
theorem length_rest_cut_lt (c : Char) (s : Text) : (cut c s).rest.length < s.length + 1 := by
  have h := splits_cut c s
  have hl := congrArg List.length h.taken_append_rest
  have hp := List.length_pos_iff.2 h.taken_ne_nil
  simp only [List.length_append, List.length_cons] at hl
  omega

/-! ### The lexemes of a text -/

/-- The lexemes of `s`, which begins at offset `offset`. -/
def scanFrom (offset : Nat) (s : Text) : List Lexeme :=
  match _h : s.dropWhile isBlank with
  | [] => []
  | c :: r =>
    let gap := s.takeWhile isBlank
    let start := offset + size gap
    let k := cut c r
    ⟨k.kind, gap, k.taken, start, k.unterminated⟩ :: scanFrom (start + size k.taken) k.rest
termination_by s.length
decreasing_by
  have h₁ := length_rest_cut_lt c r
  have h₂ := congrArg List.length (List.takeWhile_append_dropWhile (p := isBlank) (l := s))
  simp only [_h, List.length_append, List.length_cons] at h₂
  omega

/-- The lexemes of a text, in order. -/
def scan (t : Text) : List Lexeme := scanFrom 0 t

end Lexeme
end StatementReader
