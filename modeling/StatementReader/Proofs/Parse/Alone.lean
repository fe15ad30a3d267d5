import StatementReader.Proofs.Parse.Concatenation
import StatementReader.Proofs.Parse.Tiling

/-!
# A word alone

Every word of a complete text is a complete text itself, with itself as its only word. The scanner
cuts the word into the lexemes that it has in the text (`Lexeme.scan_extent`): none of them depends
on what comes before or after the word. So the tokens are the same, but for their places and for a
line break before the first one. A statement does not begin with a line break, so neither matters
to the grammar (`mem_shallowStatement_of_alike`).
-/

namespace StatementReader

open Text Computability

/-! ### Tokens -/

namespace TokenRow

/-- Blank space before a row tells no more than whether a line break has been met. -/
theorem ofLexemes_gap (crossed : Bool) (l : Lexeme) (m : List Lexeme) :
    ofLexemes crossed (l :: m) =
      ofLexemes (crossed || l.gap.contains '\n') ({ l with gap := [] } :: m) := by
  simp [ofLexemes, Lexeme.stop]

/-- The tokens of an excerpt are those of the text, further to the front, and nothing is left open
in it. -/
theorem ofText_extent {offset : Nat} {s : Text} {before rest m : List Lexeme} {l : Lexeme}
    (h : Lexeme.scanFrom offset s = before ++ (l :: m ++ rest))
    (hls : ∀ x ∈ l :: m, x.unterminated = false ∧ x.kind ≠ .unknown) (crossed : Bool) :
    (ofText (Lexeme.extent (l :: m))).openLiteral = false ∧ (Likeness.shift l.start).Rows 1
      (ofText (Lexeme.extent (l :: m))).tokens (ofLexemes crossed (l :: m)).tokens := by
  have hscan := Lexeme.scan_extent h fun x hx => Lexeme.not_isStray (hls x hx).2
  have hshift := ofLexemes_map_shift l.start (crossed || l.gap.contains '\n')
    (Lexeme.scan (Lexeme.extent (l :: m)))
  rw [hscan, ← ofLexemes_gap] at hshift
  constructor
  · have hclosed : (ofLexemes crossed (l :: m)).openLiteral = false := by
      rw [openLiteral_ofLexemes, List.any_eq_false]
      exact fun x hx => by simp [(hls x hx).1]
    rw [hshift] at hclosed
    rwa [ofText, openLiteral_ofLexemes, ← openLiteral_ofLexemes]
  · rw [hshift]
    exact rows_ofLexemes l.start false _ _

end TokenRow

/-- Tokens further on in a text lie further on. -/
theorem Likeness.Rows.span_shift {k j : Nat} {u v : List Token} (h : (Likeness.shift k).Rows j u v)
    (hne : u ≠ []) : Token.span v = (Token.span u).shift k := by
  have hrows : (Likeness.shift k).Rows j (u ++ []) (v ++ []) := by
    rwa [List.append_nil, List.append_nil]
  have hstop : Token.lastStop 0 v = Token.lastStop 0 u + k := hrows.lastStop rfl hne 0 0
  cases h with
  | nil => exact absurd rfl hne
  | cons hxy _ _ => exact congrArg₂ Span.mk hxy.2.2.1 hstop

/-- Tokens that are alike are statements together, whatever stands before the first of them. -/
theorem mem_shallowStatement_of_alike {L : Likeness} {u v : List Token} (h : L.Rows 1 u v)
    (hv : v ∈ shallowStatement) : u ∈ shallowStatement := by
  have hms : [true].headD true = true := rfl
  have hnext : Next Token.endsStatement [] := fun t ht => by cases ht
  obtain ⟨t', ht', hrest⟩ := readStatement_of_mem_shallow hv (s := ⟨v, 0, 0, [true]⟩) hms
    (List.append_nil v).symm hnext
  have halike := Rule.readStatement_alike le_rfl
    (L := L) (s := ⟨u, 0, 0, [true]⟩) (t := ⟨v, 0, 0, [true]⟩) ⟨h, rfl, rfl⟩
  rw [ht'] at halike
  -- the row alone is read as well, and to its end
  generalize hs : Rule.readStatement ⟨u, 0, 0, [true]⟩ = result at halike
  cases halike with
  | @ok s' _ hstates =>
    obtain ⟨-, w, hw, huw⟩ := (sound_readStatement hms).reads trivial rfl hs
    have hend : s'.rest = [] := hstates.rows.eq_nil_iff.2 hrest
    have huw : u = w ++ s'.rest := huw
    rwa [huw, hend, List.append_nil]

/-! ### Words -/

/-- What the lexemes of a statement take up has the tokens of the statement. -/
theorem Lexeme.Stretch.ofText_extent {offset : Nat} {s : Text} {before rest m : List Lexeme}
    {l : Lexeme} (hm : Stretch shallowStatement (l :: m))
    (hls : ∀ x ∈ l :: m, x.unterminated = false)
    (h : scanFrom offset s = before ++ (l :: m ++ rest)) :
    ((TokenRow.ofText (extent (l :: m))).openLiteral = false ∧
      (TokenRow.ofText (extent (l :: m))).tokens ∈ shallowStatement) ∧
    ∃ crossed, (Likeness.shift l.start).Rows 1 (TokenRow.ofText (extent (l :: m))).tokens
      (TokenRow.ofLexemes crossed (l :: m)).tokens := by
  obtain ⟨crossed, htokens⟩ := hm.tokens
  have hknown : ∀ x ∈ l :: m, x.unterminated = false ∧ x.kind ≠ .unknown := by
    refine fun x hx => ⟨hls x hx, fun hk => ?_⟩
    obtain ⟨c, hc⟩ := TokenRow.exists_token_of_mem hls hx (by simp [hk])
    exact (shallowStatement_le_enclosed htokens).1.1 _ hc hk
  obtain ⟨hopen, hrows⟩ := TokenRow.ofText_extent h hknown crossed
  exact ⟨⟨hopen, mem_shallowStatement_of_alike hrows htokens⟩, crossed, hrows⟩

/-- What the lexemes of a statement take up is a text with that statement only. -/
theorem Lexeme.Stretch.split_extent {offset : Nat} {s : Text} {before rest m : List Lexeme}
    {l : Lexeme} (hm : Stretch shallowStatement (l :: m))
    (hls : ∀ x ∈ l :: m, x.unterminated = false)
    (h : scanFrom offset s = before ++ (l :: m ++ rest)) :
    split (extent (l :: m)) = .statements [⟨0, size (extent (l :: m))⟩] := by
  obtain ⟨⟨hopen, hmem⟩, crossed, hrows⟩ := hm.ofText_extent hls h
  have hspan : Token.span (TokenRow.ofText (extent (l :: m))).tokens =
      ⟨0, size (extent (l :: m))⟩ := by
    obtain ⟨r, -, hr⟩ := exists_eq_join_append h
    have hstart : offset + size (join before) + size l.gap = l.start := (start_eq h).symm
    have hplace := hrows.span_shift (begins_shallowStatement.ne_nil hmem)
    rw [TokenRow.span_tokens (List.cons_ne_nil l m) hls hm.head hm.last, span_eq hr, hstart,
      Span.shift, Span.mk.injEq] at hplace
    -- in the text the tokens begin where the statement does, so on their own they begin at `0`
    have hfirst : (Token.span (TokenRow.ofText (extent (l :: m))).tokens).start = 0 := by omega
    have hlast : (Token.span (TokenRow.ofText (extent (l :: m))).tokens).stop =
        size (extent (l :: m)) := by omega
    exact congrArg₂ Span.mk hfirst hlast
  refine split_eq_statements_iff.2 ⟨hopen, [(TokenRow.ofText (extent (l :: m))).tokens], ?_, ?_⟩
  · have hnone : ([] : List Token) ∈ (Phrase.punct Rule.semicolon)∗ := Language.nil_mem_kstar _
    have hend : Phrase.Separated [] := fun t ht => by cases ht
    have hrow := Phrase.Row.cons hnone hmem hend (.nil hnone)
    rwa [List.nil_append, List.append_nil] at hrow
  · rw [List.map_singleton, hspan]

variable {t : Text}

/-- Every word of a complete text is complete on its own, wherever the cursor is and whoever asks,
and it is its only word. -/
theorem word_alone {cursor : Nat} {mode : Mode} {words : List Word} {active : Option ActiveWord}
    {consumed : Nat} (h : parseAt t cursor mode = .complete words active consumed) {word : Word}
    (hword : word ∈ words) (cursor' : Nat) (mode' : Mode) :
    parseAt word.text cursor' mode' = .complete [⟨word.text, ⟨0, size word.text⟩⟩]
      (if cursor' = size word.text then some ⟨word.text, size word.text, 0⟩ else none)
      (size word.text) := by
  rcases parseAt_eq_complete_iff.1 h with ⟨spans, hsplit, rfl, -, -⟩ | ⟨-, -, rfl, -⟩
  · obtain ⟨hls, ms, hlaid, -, heq⟩ := exists_laid_of_statements hsplit
    rw [heq] at hword
    obtain ⟨m, hm, rfl⟩ := List.mem_map.1 hword
    obtain ⟨hstretch, hne, before, rest, hscan⟩ := hlaid.exists_of_mem hm
    obtain ⟨l, m, rfl⟩ := List.exists_cons_of_ne_nil hne
    have halone : split (Word.ofLexemes (l :: m)).text =
        .statements [⟨0, size (Word.ofLexemes (l :: m)).text⟩] :=
      hstretch.split_extent (fun x hx => hls x (hscan ▸ List.mem_append_right before
        (List.mem_append_left rest hx))) hscan
    have hslice (s : Text) : slice 0 (size s) s = s := by
      have hmiddle := slice_size_append [] s []
      rwa [List.append_nil, List.nil_append, size_nil, Nat.zero_add] at hmiddle
    rw [parseAt, halone, Outcome.ofSplit, Outcome.wordsAt, List.map_singleton, hslice]
    -- the word ends where its text does, so it is active if the cursor is there
    refine congrArg (Outcome.complete _ · _) ?_
    show (if cursor' = _ ∧ _ = cursor' then _ else none) = _
    by_cases hcursor : cursor' = size (Word.ofLexemes (l :: m)).text
    · rw [if_pos ⟨hcursor, hcursor.symm⟩, if_pos hcursor]
      rfl
    · rw [if_neg fun hends => hcursor hends.1, if_neg hcursor]
  · cases hword

/-- A block after a comment, which is a statement alone. -/
theorem word_alone_block :
    (∃ active consumed, parseAt "/**/\n\x7bx\ny\x7d // z".toList 0 .probing =
      .complete [⟨"\x7bx\ny\x7d".toList, ⟨5, 10⟩⟩] active consumed) ∧
    parseAt "\x7bx\ny\x7d".toList 5 .committing =
      .complete [⟨"\x7bx\ny\x7d".toList, ⟨0, 5⟩⟩] (some ⟨"\x7bx\ny\x7d".toList, 5, 0⟩) 5 := by
  have hparse : parseAt "/**/\n\x7bx\ny\x7d // z".toList 0 .probing =
      .complete [⟨"\x7bx\ny\x7d".toList, ⟨5, 10⟩⟩] none 15 := by decide +kernel
  exact ⟨⟨none, 15, hparse⟩, word_alone hparse List.mem_cons_self 5 .committing⟩

end StatementReader
