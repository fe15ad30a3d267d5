import StatementReader.Proofs.Lexeme.Cover
import StatementReader.Proofs.Parse.Concatenation
import StatementReader.Proofs.Parse.Tiling
import StatementReader.Proofs.Split.Leading
import StatementReader.Proofs.Token.Gap

/-!
# What is finished of an unfinished text

If something is left open in a text, then its completion is told how far the text is finished. Up to
there it is complete: the statements that come first are its words, and the last of them ends there.

The tokens have been divided by the reader, in front of the statement that is not finished
(`Split.Rounds.exists_leads`). The division is carried over to the lexemes, and from them to the
text. The part in front ends with a token, so it is cut into the same lexemes if it stands alone
(`TokenRow.exists_front`). And what the grammar has asked of the token after a statement is asked of
the text after it (`TokenRow.endsStatementAt`). A literal that is left open counts as the end there,
since the tokens stop in front of it.
-/

namespace StatementReader

open Text

/-- What comes behind the offset `n` of a text ends a statement. There may be comments. Behind them
are no more lexemes, or only one that is left open, or the next one is a semicolon or stands behind
a line break. -/
def EndsStatementAt (t : Text) (n : Nat) : Prop :=
  ∃ before comments rest, Lexeme.scan t = before ++ (comments ++ rest) ∧
    (∀ l ∈ before, l.stop ≤ n) ∧ (∀ l ∈ comments ++ rest, n ≤ l.start) ∧
    (∀ l ∈ comments, l.kind = .comment) ∧
    ∀ l ∈ rest.head?, l.unterminated ∨ l.isSemicolon ∨ '\n' ∈ slice n l.start t

namespace TokenRow

variable {t : Text} {us vs : List Token}

/-- Where the tokens of a text are divided, so are its lexemes, right after the last of the first
tokens. -/
theorem exists_scan_eq (h : (ofText t).tokens = us ++ vs) (hne : us ≠ []) :
    ∃ init x second opened, Lexeme.scan t = init ++ x :: (second ++ opened) ∧
      (∀ l ∈ init ++ x :: second, l.unterminated = false) ∧
      (∀ l ∈ opened.head?, l.unterminated) ∧ (ofLexemes false (init ++ [x])).tokens = us ∧
      (ofLexemes false second).tokens = vs ∧ Token.lastStop 0 us = x.stop := by
  -- a lexeme that is left open gives no token, so the tokens are those of the lexemes before it
  set closed := (Lexeme.scan t).takeWhile (!·.unterminated)
  set opened := (Lexeme.scan t).dropWhile (!·.unterminated)
  have hclosed : ∀ l ∈ closed, l.unterminated = false := fun l hl => by
    simpa using List.mem_takeWhile_imp hl
  have htokens : (ofLexemes false closed).tokens = us ++ vs := by
    rw [tokens_ofLexemes_takeWhile]
    exact h
  obtain ⟨first, second, hfirst, hus, hvs, hlast⟩ := exists_eq_append_of_tokens hclosed htokens
  have hscan : Lexeme.scan t = closed ++ opened := List.takeWhile_append_dropWhile.symm
  rcases List.eq_nil_or_concat first with rfl | ⟨init, x, rfl⟩
  · exact absurd hus.symm hne
  · rw [List.concat_eq_append] at hfirst hus hlast
    rw [hfirst] at hclosed hscan
    have hx : x.kind ≠ .comment := hlast x List.getLast?_concat
    have hrow : ∀ l ∈ init ++ [x], l.unterminated = false :=
      fun l hl => hclosed l (List.mem_append_left second hl)
    -- the last lexeme of the first part is no comment, so its token is the last one
    obtain ⟨c, hconcat⟩ := exists_tokens_concat hrow hx false
    refine ⟨init, x, second, opened, ?_, ?_, fun l hl => ?_, hus, hvs, ?_⟩
    · rw [hscan]
      simp
    · intro l hl
      exact hclosed l (by simpa using hl)
    · have hstop := List.head?_dropWhile_not (!·.unterminated) (Lexeme.scan t)
      rw [Option.mem_def.1 hl] at hstop
      simpa using hstop
    · rw [← hus, hconcat, Token.lastStop_append]
      rfl

/-- What the grammar allows behind a statement ends it in the text. -/
theorem endsStatementAt (h : (ofText t).tokens = us ++ vs) (hne : us ≠ [])
    (hsep : Phrase.Separated vs) : EndsStatementAt t (Token.lastStop 0 us) := by
  obtain ⟨init, x, second, opened, hscan, hclosed, hopened, -, hvs, hstop⟩ := exists_scan_eq h hne
  obtain ⟨hbefore, hrest⟩ := Lexeme.sides_of_scan_eq hscan
  have hsecond : ∀ l ∈ second, l.unterminated = false := fun l hl => hclosed l (by simp [hl])
  rw [hstop]
  cases vs with
  | nil =>
    -- there are comments only, up to what is left open
    have hcomments : ∀ l ∈ second, l.kind = .comment := by
      intro l hl
      by_contra hk
      obtain ⟨c, hc⟩ : ∃ c, l.token c ∈ (ofLexemes false second).tokens :=
        exists_token_of_mem hsecond hl hk
      rw [hvs] at hc
      cases hc
    refine ⟨init ++ [x], second, opened, ?_, hbefore, hrest, hcomments,
      fun l hl => .inl (hopened l hl)⟩
    rw [hscan]
    simp
  | cons y vs =>
    -- the next token is that of the first lexeme that is no comment
    obtain ⟨gap, l, ls, c, rfl, hgap, hl, rfl, -, -⟩ := exists_first hsecond hvs
    refine ⟨init ++ [x], gap, l :: ls ++ opened, ?_, hbefore, ?_, hgap, ?_⟩
    · rw [hscan]
      simp
    · intro l' hl'
      exact hrest l' (by simpa using hl')
    · rintro l' ⟨⟩
      refine .inr ((hsep _ rfl).imp id fun hbreak => ?_)
      rw [← hstop]
      exact (afterBreak_iff h).1 hbreak

/-- The text up to the end of a token has the tokens up to that one, if none of them is of an
unknown kind. -/
theorem exists_front (h : (ofText t).tokens = us ++ vs) (hknown : ∀ x ∈ us, x.kind ≠ .unknown) :
    ∃ front r, t = front ++ r ∧ Token.lastStop 0 us = size front ∧
      (ofText front).openLiteral = false ∧ (ofText front).tokens = us := by
  by_cases hne : us = []
  · subst hne
    have hnil : ofText [] = ⟨[], false⟩ := by
      rw [ofText, Lexeme.scan, Lexeme.scanFrom_nil]
      rfl
    exact ⟨[], t, rfl, rfl, by rw [hnil], by rw [hnil]⟩
  obtain ⟨init, x, second, opened, hscan, hclosed, -, hus, -, hstop⟩ := exists_scan_eq h hne
  have hrow : ∀ l ∈ init ++ [x], l.unterminated = false := fun l hl =>
    hclosed l (by simp only [List.mem_append, List.mem_cons] at hl ⊢; tauto)
  have hdivided : Lexeme.scanFrom 0 t = (init ++ [x]) ++ (second ++ opened) := by
    rw [← Lexeme.scan, hscan]
    simp
  -- none of these lexemes is a stray quote, since their tokens are known
  have hstray : ∀ l ∈ init ++ [x], ¬ l.isStray := by
    refine fun l hl => Lexeme.not_isStray fun hk => ?_
    obtain ⟨c, hc⟩ : ∃ c, l.token c ∈ (ofLexemes false (init ++ [x])).tokens :=
      exists_token_of_mem hrow hl (by simp [hk])
    exact hknown _ (hus ▸ hc) hk
  obtain ⟨r, ht, -⟩ := Lexeme.exists_eq_join_append hdivided
  -- nothing stands behind the last token, so the scanner stops there
  have hfront := Lexeme.scanFrom_join hdivided ht List.nil_prefix
    (fun c hc => (List.not_mem_nil hc).elim) hstray
  rw [List.append_nil] at hfront
  refine ⟨Lexeme.join (init ++ [x]), r, ht, ?_, ?_, ?_⟩
  · rw [hstop, Lexeme.stop_eq hscan, Nat.zero_add]
  · rw [ofText, Lexeme.scan, hfront, openLiteral_ofLexemes, List.any_eq_false]
    exact fun l hl => by simp [hrow l hl]
  · rw [ofText, Lexeme.scan, hfront, hus]

end TokenRow

/-! ### Statements in front -/

namespace Phrase.Leads

variable {us : List (List Token)} {w rest : List Token}

/-- The tokens of statements and the semicolons around them are of known kinds. -/
theorem kind_ne_unknown (h : Leads shallowStatement us w rest) : ∀ x ∈ w, x.kind ≠ .unknown := by
  induction h with
  | nil => exact fun x hx => (List.not_mem_nil hx).elim
  | @cons v u us w rest hv hu _ _ ih =>
    intro x hx
    rcases List.mem_append.1 hx with hx | hx
    · have hmark := mem_kstar_one.1 hv x hx
      rw [(Token.isMark_iff.1 hmark).1]
      exact LexemeKind.noConfusion
    · rcases List.mem_append.1 hx with hx | hx
      · exact (shallowStatement_le_enclosed hu).1.1 x hx
      · exact ih x hx

/-- A text that begins with statements is ended behind each of them. -/
theorem endsStatementAt (h : Leads shallowStatement us w rest) {t : Text}
    (ht : (TokenRow.ofText t).tokens = w ++ rest) {u : List Token} (hu : u ∈ us) :
    EndsStatementAt t (Token.span u).stop := by
  obtain ⟨hS, front, back, rfl, hsep⟩ := h.exists_of_mem hu
  have hne : u ≠ [] := begins_shallowStatement.ne_nil hS
  have htokens : (TokenRow.ofText t).tokens = (front ++ u) ++ (back ++ rest) := by
    rw [ht]
    simp
  have hends := TokenRow.endsStatementAt htokens (by simp [hne]) hsep
  obtain ⟨x, u, rfl⟩ := List.exists_cons_of_ne_nil hne
  rwa [Token.lastStop_append] at hends

end Phrase.Leads

/-! ### Unfinished texts -/

variable {t : Text}

/-- In a complete text whose last word ends at its end, that word is the active one. -/
theorem findActive_of_stop {words : List Word}
    (h : ∀ last ∈ words.getLast?, last.span.stop = size t) :
    Outcome.findActive t (size t) words =
      words.getLast?.map fun last => ⟨last.text, size last.text, last.span.start⟩ := by
  unfold Outcome.findActive
  cases hlast : words.getLast? with
  | none => rfl
  | some last => exact if_pos ⟨rfl, h last hlast⟩

/-- If a submitted text lacks a delimiter, then its completion has no words and is told an offset
`c`. The text up to `c` is complete, whoever asks, and its last word ends at `c`; or else `c` is
zero and there is no word. The words are the statements at the beginning of the text, and what comes
after them is not finished. Behind each of them the text has a semicolon, a line break, or only
comments and what is left open. -/
theorem unfinished_prefix {position : Nat}
    (h : parse t .committing = .failure (.missingDelimiter position)) :
    ∃ c words us w rest, parse t .completing = .complete [] none c ∧ c ≤ size t ∧ IsBoundary c t ∧
      (∀ mode, parse (upTo c t) mode = .complete words
        (words.getLast?.map fun last => ⟨last.text, size last.text, last.span.start⟩) c) ∧
      (c = 0 ∧ words = [] ∨ ∃ last, words.getLast? = some last ∧ last.span.stop = c) ∧
      (TokenRow.ofText t).tokens = w ++ rest ∧ Phrase.Leads shallowStatement us w rest ∧
      Phrase.Unfinished shallowStatement rest ∧ words = Outcome.wordsAt t (us.map Token.span) ∧
      ∀ word ∈ words, EndsStatementAt t word.span.stop := by
  obtain ⟨-, c, hsplit⟩ := committing_eq_missingDelimiter_iff.1 h
  obtain ⟨us, w, rest, htokens, hleads, hrest, hc⟩ :=
    (Split.rounds_readFrom _ _ _ _).exists_leads hsplit rfl (Nat.lt_succ_self _)
  obtain ⟨front, r, rfl, hsize, hopen, hfront⟩ :=
    TokenRow.exists_front htokens hleads.kind_ne_unknown
  obtain rfl : c = size front := hc.trans hsize
  have hstatements : split front = .statements (us.map Token.span) :=
    split_eq_statements_iff.2 ⟨hopen, us, hfront ▸ hleads.row, rfl⟩
  -- the words are parts of the front, so they are the same parts of the whole text
  have hwords : Outcome.wordsAt (front ++ r) (us.map Token.span) =
      Outcome.wordsAt front (us.map Token.span) :=
    wordsAt_append_text (fun span hspan => le_size_of_statements hstatements hspan) r
  have hlast : ∀ u ∈ us.getLast?, (Token.span u).stop = size front := fun u hu =>
    (hleads.lastStop_eq (fun _ hu => begins_shallowStatement.ne_nil hu) hu 0).symm.trans hsize
  have hends : ∀ last ∈ (Outcome.wordsAt (front ++ r) (us.map Token.span)).getLast?,
      last.span.stop = size front := by
    intro last hmem
    rw [Outcome.wordsAt, List.map_map, List.getLast?_map] at hmem
    obtain ⟨u, hu, rfl⟩ := Option.mem_map.1 hmem
    exact hlast u hu
  refine ⟨size front, _, us, w, rest, ?_, ?_, ⟨front, r, rfl, rfl⟩, fun mode => ?_, ?_, htokens,
    hleads, hrest, rfl, fun word hword => ?_⟩
  · rw [parse, parseAt, hsplit]
    rfl
  · rw [size_append]
    exact Nat.le_add_right _ _
  · rw [upTo_size_append, parse_of_statements hstatements, ← hwords, findActive_of_stop hends]
  · -- without a statement the front is empty, and otherwise the last one ends it
    cases us with
    | nil =>
      cases hleads
      exact .inl ⟨hsize.symm, rfl⟩
    | cons u us =>
      have hne : Outcome.wordsAt (front ++ r) ((u :: us).map Token.span) ≠ [] :=
        List.cons_ne_nil _ _
      exact .inr ⟨_, List.getLast?_eq_some_getLast hne,
        hends _ (List.getLast?_eq_some_getLast hne)⟩
  · obtain ⟨span, hspan, rfl⟩ := List.mem_map.1 hword
    obtain ⟨u, hu, rfl⟩ := List.mem_map.1 hspan
    exact hleads.endsStatementAt htokens hu

/-- A definition, and behind it a call whose arguments are not closed. -/
theorem unfinished_prefix_call :
    parse "val a = 1; foo(".toList .committing = .failure (.missingDelimiter 15) ∧
    parse "val a = 1; foo(".toList .completing = .complete [] none 9 ∧
    EndsStatementAt "val a = 1; foo(".toList 9 := by
  have hopen : parse "val a = 1; foo(".toList .committing =
      .failure (.missingDelimiter 15) := by decide +kernel
  have hcompleting : parse "val a = 1; foo(".toList .completing = .complete [] none 9 := by
    decide +kernel
  obtain ⟨c, words, us, w, rest, hcompleted, -, -, -, hc, -, -, -, -, hends⟩ :=
    unfinished_prefix hopen
  obtain rfl : 9 = c := by
    cases hcompleting.symm.trans hcompleted
    rfl
  rcases hc with ⟨hzero, -⟩ | ⟨last, hlast, hstop⟩
  · cases hzero
  · exact ⟨hopen, hcompleting, hstop ▸ hends last (List.mem_of_getLast? hlast)⟩

end StatementReader
