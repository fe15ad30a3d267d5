import StatementReader.Proofs.Lexeme.Excerpt

/-!
# The kinds of lexemes

Each way of cutting gives lexemes of its own kinds: a number and a quoted text are literals, unless
the quote is a stray one, and a row of operator characters is an operator or punctuation. So an
identifier has been cut off as a word (`Lexeme.cut_eq_cutWord`), and it consists of identifier
characters. What reads like a bracket or an equals sign is punctuation
(`Lexeme.kind_of_text_eq_mark`): in a literal such a character is never all of the lexeme.
-/

namespace StatementReader
namespace Lexeme

open Text

/-- What is cut between two marks is of the kind that they tell. -/
theorem kind_cutDelimited (kind : LexemeKind) (opening closing s : Text) :
    (cutDelimited kind opening closing s).kind = kind := by
  unfold cutDelimited
  split <;> rfl

/-- A number is a literal with its suffix, too. -/
theorem isLiteral_cutSuffix {kind : LexemeKind} (h : kind.isLiteral) (taken rest : Text) :
    (cutSuffix kind taken rest).kind.isLiteral := by
  unfold cutSuffix
  -- two letters change the kind of the number, and no other character does
  split
  · split
    · rfl
    · split
      · rfl
      · exact h
  · exact h

/-- A number is a literal. -/
theorem isLiteral_cutNumber (s : Text) : (cutNumber s).kind.isLiteral := by
  unfold cutNumber
  dsimp only
  split <;> exact isLiteral_cutSuffix rfl _ _

/-- A string is one whether it is closed or not. -/
theorem kind_cutString (s : Text) : (cutString s).kind = .str := by
  unfold cutString
  split
  · exact kind_cutDelimited ..
  · rfl

/-- So it is a literal. -/
theorem isLiteral_cutString (s : Text) : (cutString s).kind.isLiteral := by
  rw [kind_cutString]
  rfl

/-- A character literal is no name, and neither is a stray quote. -/
theorem kind_closeChar_ne (s taken rest : Text) : (closeChar s taken rest).kind ≠ .ident := by
  unfold closeChar
  split <;> exact LexemeKind.noConfusion

/-- So no name begins with a quote. -/
theorem kind_cutChar_ne (s : Text) : (cutChar s).kind ≠ .ident := by
  unfold cutChar
  split
  · exact kind_closeChar_ne _ _ _
  · exact LexemeKind.noConfusion
  · exact kind_closeChar_ne _ _ _
  · exact LexemeKind.noConfusion

/-- An operator is no name. -/
theorem operatorKind_ne (op : Text) : operatorKind op ≠ .ident := by
  unfold operatorKind
  split <;> exact LexemeKind.noConfusion

/-- Only words are cut off as identifiers. -/
theorem cut_eq_cutWord {c : Char} {s : Text} (h : (cut c s).kind = .ident) :
    cut c s = cutWord (c :: s) := by
  have hliteral {k : Cut} (hk : k.kind.isLiteral) : k.kind ≠ .ident := by
    intro h
    rw [h] at hk
    cases hk
  -- the cases of `cut`, of which one cuts off words and the others are of other kinds
  revert h
  unfold cut
  split
  · exact fun h => absurd h LexemeKind.noConfusion
  split
  · exact fun h => absurd ((kind_cutDelimited _ _ _ _).symm.trans h) LexemeKind.noConfusion
  split
  · exact fun h => absurd h (hliteral (isLiteral_cutNumber _))
  split
  · exact fun h => absurd h (hliteral (isLiteral_cutString _))
  split
  · exact fun h => absurd h (kind_cutChar_ne _)
  split
  · exact fun _ => rfl
  split
  · exact fun h => absurd h LexemeKind.noConfusion
  split
  · exact fun h => absurd h (operatorKind_ne _)
  · exact fun h => absurd h LexemeKind.noConfusion

/-- A name consists of word characters. -/
theorem isWord_of_mem {offset : Nat} {s : Text} {l : Lexeme} (h : l ∈ scanFrom offset s)
    (hl : l.kind = .ident) : ∀ c ∈ l.text, isWordChar c := by
  obtain ⟨before, rest, hscan⟩ := List.append_of_mem h
  obtain ⟨r, -, hr⟩ := exists_eq_join_append hscan
  obtain ⟨gap, c, t, -, -, -, rfl, -⟩ := scanFrom_eq_cons_iff.1 hr
  rw [cut_eq_cutWord hl]
  exact fun c hc => List.mem_takeWhile_imp hc

/-- A punctuation character or an equals sign is not the beginning of anything else. -/
theorem cut_of_mark {c : Char} (hc : c = '=' ∨ c ∈ punctuationChars) (s : Text) :
    cut c s =
      if punctuationChars.contains c then ⟨.punct, [c], s, false⟩ else cutOperator (c :: s) := by
  have hall : ('=' :: punctuationChars).all fun c => c != '/' && !c.isDigit && c != '"' &&
      c != '\'' && !isWordStart c && (punctuationChars.contains c || operatorChars.contains c) := by
    decide +kernel
  -- all marks are checked at once: none begins a lexeme of another kind
  have hmark := List.all_eq_true.1 hall c (List.mem_cons.2 hc)
  simp only [Bool.and_eq_true, bne_iff_ne, Bool.not_eq_true', Bool.or_eq_true] at hmark
  obtain ⟨⟨⟨⟨⟨hslash, hdigit⟩, hquote⟩, happostrophe⟩, hword⟩, hop⟩ := hmark
  have hcomment (x : Char) : ['/', x].isPrefixOf (c :: s) = false := by
    simp [List.isPrefixOf, hslash.symm]
  have hline : "//".toList.isPrefixOf (c :: s) = false := hcomment '/'
  have hblock : "/*".toList.isPrefixOf (c :: s) = false := hcomment '*'
  simp only [cut, hline, hblock, hdigit, hquote, happostrophe, hword, if_false, Bool.false_eq_true]
  by_cases hpunct : punctuationChars.contains c
  · rw [if_pos hpunct, if_pos hpunct]
  · rw [if_neg hpunct, if_neg hpunct, if_pos (hop.resolve_left hpunct)]

/-- A lexeme that is a single mark is cut as a mark. -/
theorem kind_of_text_eq_mark {offset : Nat} {s : Text} {l : Lexeme} (h : l ∈ scanFrom offset s)
    {c : Char} (hc : c = '=' ∨ c ∈ punctuationChars) (hl : l.text = [c]) : l.kind = .punct := by
  obtain ⟨before, rest, hscan⟩ := List.append_of_mem h
  obtain ⟨r, -, hr⟩ := exists_eq_join_append hscan
  obtain ⟨gap, d, t, -, -, -, rfl, -⟩ := scanFrom_eq_cons_iff.1 hr
  have htaken : (cut d t).taken = [c] := hl
  -- the one character that is taken is the first one
  obtain rfl : c = d := by
    have happend := (splits_cut d t).taken_append_rest
    rw [htaken] at happend
    exact (List.cons.inj happend).1
  show (cut c t).kind = .punct
  rw [cut_of_mark hc] at htaken ⊢
  by_cases hpunct : punctuationChars.contains c
  · rw [if_pos hpunct]
  · rw [if_neg hpunct] at htaken ⊢
    obtain rfl := hc.resolve_right fun hmem => hpunct (List.contains_iff_mem.2 hmem)
    have hkind : (cutOperator ('=' :: t)).kind = operatorKind (cutOperator ('=' :: t)).taken := rfl
    rw [hkind, htaken]
    rfl

end Lexeme
end StatementReader
