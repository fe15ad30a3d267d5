import StatementReader.Proofs.Parse.Language
import StatementReader.Proofs.Text.Append

/-!
# Texts on consecutive lines

A complete text is read in the same way if more lines follow it, provided that what comes next may
follow a statement. Then what comes next is read in the same way as on its own, further on in the
text.

So the words of two complete texts, one after the other, are the words of both. If something is left
open in the second text, it is left open in the whole.
-/

namespace StatementReader

open Text

/-! ### Further on in a text -/

/-- The place of a part that stands `k` bytes further on. -/
def Span.shift (k : Nat) (span : Span) : Span := ⟨span.start + k, span.stop + k⟩

@[inherit_doc Span.shift] def Word.shift (k : Nat) (word : Word) : Word :=
  { word with span := word.span.shift k }

@[inherit_doc Span.shift] def ActiveWord.shift (k : Nat) (word : ActiveWord) : ActiveWord :=
  { word with start := word.start + k }

/-! ### What may come next -/

namespace Token

variable {t : Token}

/-- A token that begins no statement is none of these words. -/
theorem isKeyword_of_not_startsStatement (h : t.startsStatement = false) {word : Text}
    (hword : word ∈ expressionWords ∨ word ∈ definitionWords) : t.isKeyword word = false := by
  by_contra htrue
  obtain ⟨hk, rfl⟩ := isKeyword_iff.1 (eq_true_of_ne_false htrue)
  rcases hword with hw | hw <;> simp [startsStatement, startsExpr, hk, hw] at h

/-- Nor is it an opening parenthesis or brace. -/
theorem isMark_of_not_startsStatement (h : t.startsStatement = false) {mark : Text}
    (hm : mark ∈ [Rule.openParen, Rule.openBrace]) : t.isMark mark = false := by
  by_contra htrue
  obtain ⟨hk, rfl⟩ := isMark_iff.1 (eq_true_of_ne_false htrue)
  have hcontains : [Rule.openParen, Rule.openBrace].contains t.text := List.contains_iff_mem.2 hm
  simp only [startsStatement, startsExpr, hk, hcontains] at h
  exact Bool.false_ne_true h.symm

end Token

namespace Rule

section

variable {calls : Construct → Production} {s : State} {t : Token} {r : List Token}
  (hr : s.rest = t :: r) (h : t.startsStatement = false)

include hr h

/-- So no look for such a word succeeds. -/
theorem holds_keyword_of_not_startsStatement {word : Text}
    (hword : word ∈ Token.expressionWords ∨ word ∈ Token.definitionWords) :
    (Look.keyword word).holds s = false := by
  simp [Look.holds, hr, Token.isKeyword_of_not_startsStatement h hword]

/-- Nor does one for such a mark. -/
theorem holds_mark_of_not_startsStatement {mark : Text} (hm : mark ∈ [openParen, openBrace]) :
    (Look.mark mark).holds s = false := by
  simp [Look.holds, State.atMark, hr, Token.isMark_of_not_startsStatement h hm]

/-- Nor does one for a name. -/
theorem holds_ident_of_not_startsStatement : Look.ident.holds s = false := by
  simp only [Token.startsStatement, Token.startsExpr, Bool.or_eq_false_iff] at h
  obtain ⟨⟨⟨⟨⟨-, hident⟩, -⟩, -⟩, -⟩, -⟩ := h
  simp [Look.holds, State.atIdent, hr, hident]

/-- Each question of a primary expression is answered in the negative. -/
theorem run_primary_of_not_startsStatement :
    run calls primary s = .error (.violation .expression (some t)) := by
  have hstop : s.stop .expression = .violation .expression (some t) := by simp [State.stop, hr]
  have hword {word : Text} (hword : word ∈ Token.expressionWords) :=
    holds_keyword_of_not_startsStatement hr h (.inl hword)
  have hself : (Look.either (.keyword "this".toList) (.keyword "super".toList)).holds s = false :=
    Bool.or_eq_false_iff.2 ⟨hword (by decide), hword (by decide)⟩
  have hparen : (Look.mark openParen).holds s = false :=
    holds_mark_of_not_startsStatement hr h (by decide)
  have hbrace : (Look.mark openBrace).holds s = false :=
    holds_mark_of_not_startsStatement hr h (by decide)
  have hvalue : Look.literal.holds s = false := by
    simp only [Token.startsStatement, Token.startsExpr, Bool.or_eq_false_iff] at h
    obtain ⟨⟨⟨⟨⟨hliteral, -⟩, -⟩, -⟩, -⟩, -⟩ := h
    simp [Look.holds, hr, hliteral]
  -- every branch of the rule looks for a token that can start a statement
  rw [← hstop, primary, run_branch_no hvalue,
    run_branch_no (holds_ident_of_not_startsStatement hr h), run_branch_no hself,
    run_branch_no (hword (by decide)), run_branch_no hparen, run_branch_no hbrace]
  rfl

/-- So no operation is read. -/
theorem run_operation_of_not_startsStatement :
    run calls operation s = .error (.violation .expression (some t)) := by
  have hsign : Look.sign.holds s = false := by
    simp only [Token.startsStatement, Token.startsExpr, Bool.or_eq_false_iff] at h
    obtain ⟨⟨⟨⟨⟨-, -⟩, hop⟩, -⟩, -⟩, -⟩ := h
    simp [Look.holds, hr, Token.isSign, hop]
  have hnone : run calls (optional .sign token) s = .ok s :=
    run_optional_eq_ok.2 (.inr ⟨hsign, rfl⟩)
  have hoperand : run calls operand s = .error (.violation .expression (some t)) :=
    run_seq_eq_error.2 (.inl (run_primary_of_not_startsStatement hr h))
  exact run_seq_eq_error.2 (.inl (run_seq_eq_error.2 (.inr ⟨s, hnone, hoperand⟩)))

/-- And no expression. -/
theorem run_exprBody_of_not_startsStatement :
    run calls exprBody s = .error (.violation .expression (some t)) := by
  have hword {word : Text} (hword : word ∈ Token.expressionWords) :=
    holds_keyword_of_not_startsStatement hr h (.inl hword)
  have hlambda : Look.lambda.holds s = false :=
    Bool.and_eq_false_iff.2 (.inl (holds_ident_of_not_startsStatement hr h))
  rw [exprBody, run_branch_no (hword (by decide)), run_branch_no (hword (by decide)),
    run_branch_no hlambda]
  exact run_seq_eq_error.2 (.inl (run_operation_of_not_startsStatement hr h))

/-- No statement begins with any other token. -/
theorem readStatement_of_not_startsStatement :
    readStatement s = .error (.violation .expression (some t)) := by
  have hword {word : Text} (hword : word ∈ Token.definitionWords) :=
    holds_keyword_of_not_startsStatement hr h (.inr hword)
  rw [readStatement, statement, run_branch_no (hword (by decide)),
    run_branch_no (hword (by decide)), run_branch_no (hword (by decide)),
    run_branch_no (hword (by decide))]
  -- at the outermost level no expression is too deep
  obtain ⟨n, hn⟩ : ∃ n, maxNesting = n + 1 := ⟨255, rfl⟩
  rw [hn]
  exact run_exprBody_of_not_startsStatement hr h

end

end Rule

variable {a b : Text}

/-- A text that is not turned down at its first token begins like a statement, or with a semicolon.
-/
theorem startsStatement_of_head? {t : Token} (hb : ∀ e x, split b ≠ .violation e (some x))
    (ht : t ∈ (TokenRow.ofText b).tokens.head?) :
    t.isMark Rule.semicolon ∨ t.startsStatement := by
  by_contra hneither
  obtain ⟨hsemicolon, hstarts⟩ := not_or.1 hneither
  set s : State := ⟨(TokenRow.ofText b).tokens, 0, if (TokenRow.ofText b).openLiteral then 1 else 0,
    [true]⟩
  have hr : s.rest = t :: s.rest.tail := (List.cons_head?_tail ht).symm
  -- no semicolon is skipped, so the first statement would begin at `t`, which is objected to
  have hskip : Split.skipSemicolons s = s := by
    refine Split.skipSemicolons_of_next ?_
    rw [hr, next_cons]
    simpa using hsemicolon
  have hstop := Rule.readStatement_of_not_startsStatement hr (eq_false_of_ne_true hstarts)
  have halone : split b =
      Split.readFrom (TokenRow.ofText b).openLiteral (s.rest.length + 1) 0 s := rfl
  rw [Split.readFrom_of_stopped (hskip ▸ hr) (hskip ▸ hstop)] at halone
  exact hb _ _ halone

/-- On a new line, such a text may follow a statement. -/
theorem next_onNewLine (k : Nat) (hb : ∀ e x, split b ≠ .violation e (some x)) :
    Phrase.Separated (TokenRow.onNewLine k b) ∧
      Next Token.endsStatement (TokenRow.onNewLine k b) := by
  have hbreak (t : Token) (ht : t ∈ (TokenRow.onNewLine k b).head?) : t.afterBreak := by
    rw [TokenRow.onNewLine, List.head?_map] at ht
    obtain ⟨x, hx, rfl⟩ := Option.mem_map.1 ht
    have hfirst : x.afterBreak := TokenRow.afterBreak_head? hx
    exact hfirst
  refine ⟨fun t ht => .inr (hbreak t ht), fun t ht => ?_⟩
  -- the first token on the new line is the first of the text, and only its break is changed
  have hrel := (TokenRow.rows_onNewLine k b).rel_head?
  rw [Option.mem_def.1 ht] at hrel
  generalize hhead : (TokenRow.ofText b).tokens.head? = head at hrel
  cases hrel with
  | @some x _ hx =>
    obtain ⟨hkind, htext, -, -⟩ := hx
    have hstarts := startsStatement_of_head? hb hhead
    simp only [Token.isMark, Token.startsStatement, Token.startsExpr, ← hkind, ← htext] at hstarts
    simp only [Token.endsStatement, hbreak t ht, Bool.or_eq_true]
    rcases hstarts with h | h
    · exact .inl (.inl h)
    · exact .inr h

/-- The statements of a complete text, and then what the lines after it amount to. -/
theorem split_append_of_statements {spans : List Span} (ha : split a = .statements spans)
    (hb : ∀ e x, split b ≠ .violation e (some x)) :
    ∃ r, split (a ++ '\n' :: b) = r.prepend spans ∧
      (Likeness.shift (size a + 1)).Splits (fun _ _ => True) (split b) r := by
  obtain ⟨hopen, us, hrow, rfl⟩ := split_eq_statements_iff.1 ha
  obtain ⟨hsep, hnext⟩ := next_onNewLine (size a + 1) hb
  have hread (u : List Token) (hu : u ∈ shallowStatement) (s : State) (r : List Token)
      (hms : s.lineModes.headD true = true) (hr : s.rest = u ++ r)
      (hnext : Next Token.endsStatement r) :
      (∃ s', Rule.readStatement s = .ok s' ∧ s'.rest = r) ∨
        False ∧ ∃ t, Rule.readStatement s = .error (.violation .shallowerNesting (some t)) :=
    .inl (readStatement_of_mem_shallow hu hms hr hnext)
  set openLiteral := (TokenRow.ofText b).openLiteral
  set more := TokenRow.onNewLine (size a + 1) b
  set s : State := ⟨(TokenRow.ofText a).tokens ++ more, 0, if openLiteral then 1 else 0, [true]⟩
  have hsplit : split (a ++ '\n' :: b) =
      Split.readFrom openLiteral (s.rest.length + 1) 0 s := by
    rw [split, TokenRow.ofText_append_break hopen b]
  rw [hsplit]
  -- the statements of the first text are read in full, since the next one begins on a new line
  rcases Split.readFrom_row begins_shallowStatement hread hrow hsep hnext (s := s) rfl rfl
      (Nat.lt_succ_self _) with ⟨count, c, s', hr', hdepth, hmodes, hcount, h⟩ | h
  · -- what is left is what the lines after it have on their own, read from a state that is alike
    have hrows := TokenRow.rows_onNewLine (size a + 1) b
    have hcount' : (TokenRow.ofText b).tokens.length < count := by rwa [hrows.length_eq]
    have halone : split b = Split.readFrom openLiteral count 0
        ⟨(TokenRow.ofText b).tokens, 0, if openLiteral then 1 else 0, [true]⟩ :=
      Split.readFrom_count (Nat.lt_succ_self _) hcount'
    rw [halone]
    exact ⟨_, h, Split.readFrom_alike openLiteral count (fun _ => trivial) le_rfl
      trivial ⟨hr' ▸ hrows, hdepth.symm, hmodes.symm⟩⟩
  · exact h.1.elim

/-! ### Words -/

/-- The statements of a row are within it. -/
theorem Phrase.Row.subset {S : Phrase} {us : List (List Token)} {w : List Token}
    (h : Row S us w) : ∀ u ∈ us, u ∈ S ∧ u ⊆ w := by
  induction h with
  | nil => exact fun u hu => by cases hu
  | @cons v u us w _ hu _ _ ih =>
    intro u' hu'
    rcases List.mem_cons.1 hu' with rfl | hu'
    · exact ⟨hu, fun t ht => by simp [ht]⟩
    · obtain ⟨hS, hsub⟩ := ih u' hu'
      exact ⟨hS, fun t ht => by simp [hsub ht]⟩

/-- A row of tokens stops where one of them does. -/
theorem Token.exists_lastStop_eq {u : List Token} (h : u ≠ []) (n : Nat) :
    ∃ t ∈ u, lastStop n u = t.stop := by
  induction u generalizing n with
  | nil => exact absurd rfl h
  | cons t u ih =>
    cases u with
    | nil => exact ⟨t, List.mem_singleton_self t, rfl⟩
    | cons t' u =>
      obtain ⟨x, hx, hstop⟩ := ih (List.cons_ne_nil _ _) t.stop
      exact ⟨x, List.mem_cons_of_mem _ hx, hstop⟩

/-- The statements of a text are within it. -/
theorem le_size_of_statements {spans : List Span} (h : split a = .statements spans) {span : Span}
    (hspan : span ∈ spans) : span.start ≤ size a ∧ span.stop ≤ size a := by
  obtain ⟨-, us, hrow, rfl⟩ := split_eq_statements_iff.1 h
  obtain ⟨u, hu, rfl⟩ := List.mem_map.1 hspan
  obtain ⟨hS, hsub⟩ := hrow.subset u hu
  obtain ⟨x, u, rfl, -⟩ := begins_shallowStatement u hS
  obtain ⟨y, hy, hstop⟩ := Token.exists_lastStop_eq (List.cons_ne_nil x u) 0
  have hx := TokenRow.bounds_of_mem (hsub List.mem_cons_self)
  have hy := TokenRow.bounds_of_mem (hsub hy)
  have hstart : (Token.span (x :: u)).start = x.start := rfl
  have hstop : (Token.span (x :: u)).stop = y.stop := hstop
  omega

/-- A line break is one byte. -/
theorem size_append_break (a b : Text) : size (a ++ '\n' :: b) = size b + (size a + 1) := by
  have hbreak : size ['\n'] = 1 := rfl
  rw [← List.singleton_append, ← List.append_assoc, size_append, size_append, hbreak]
  omega

/-- What stands behind a text does not change the words at places within it. -/
theorem wordsAt_append_text {spans : List Span}
    (h : ∀ span ∈ spans, span.start ≤ size a ∧ span.stop ≤ size a) (r : Text) :
    Outcome.wordsAt (a ++ r) spans = Outcome.wordsAt a spans := by
  refine List.map_congr_left fun span hspan => ?_
  obtain ⟨hstart, hstop⟩ := h span hspan
  rw [slice_append_of_le hstart hstop]

/-- The words of a text, and those of another one on the next line. -/
theorem wordsAt_append {spans spans' : List Span}
    (h : ∀ span ∈ spans, span.start ≤ size a ∧ span.stop ≤ size a) :
    Outcome.wordsAt (a ++ '\n' :: b) (spans ++ spans'.map (Span.shift (size a + 1))) =
      Outcome.wordsAt a spans ++ (Outcome.wordsAt b spans').map (Word.shift (size a + 1)) := by
  have hsize : size (a ++ ['\n']) = size a + 1 := size_append _ _
  -- the words of the second text are cut behind the line break
  have hsecond (m n : Nat) :
      slice (m + (size a + 1)) (n + (size a + 1)) (a ++ '\n' :: b) = slice m n b := by
    have happend : a ++ '\n' :: b = a ++ ['\n'] ++ b := by simp
    rw [happend, ← hsize]
    exact slice_append_of_add m n _ b
  rw [← wordsAt_append_text h, Outcome.wordsAt, List.map_append, List.map_map, Outcome.wordsAt,
    Outcome.wordsAt, List.map_map]
  refine congrArg (_ ++ ·) (List.map_congr_left fun span _ => ?_)
  exact congrArg (Word.mk · _) (hsecond span.start span.stop)

/-- A word before the line break is not the active one. The last word after it is, if it is the
active one of its own text. -/
theorem findActive_append {words words' : List Word} (h : ∀ word ∈ words, word.span.stop ≤ size a) :
    Outcome.findActive (a ++ '\n' :: b) (size (a ++ '\n' :: b))
        (words ++ words'.map (Word.shift (size a + 1))) =
      (Outcome.findActive b (size b) words').map (ActiveWord.shift (size a + 1)) := by
  have hsize := size_append_break a b
  rcases List.eq_nil_or_concat words' with rfl | ⟨others, last, rfl⟩
  · -- the last word ends before the line break, and so before the end of the text
    rw [List.map_nil, List.append_nil, Outcome.findActive, Outcome.findActive]
    cases hlast : words.getLast? with
    | none => rfl
    | some word =>
      have hstop := h word (List.mem_of_getLast? hlast)
      have hne : word.span.stop ≠ size (a ++ '\n' :: b) := by omega
      exact if_neg fun hactive => hne hactive.2
  · have hlast : (words ++ (others ++ [last]).map (Word.shift (size a + 1))).getLast? =
        some (last.shift (size a + 1)) := by simp
    have hstop : (last.shift (size a + 1)).span.stop = size (a ++ '\n' :: b) ↔
        last.span.stop = size b := by
      rw [hsize]
      exact Nat.add_right_cancel_iff
    have hlast' : (others ++ [last]).getLast? = some last := by simp
    simp only [Outcome.findActive, List.concat_eq_append, hlast, hlast', hstop, true_and]
    split <;> rfl

/-- Reading is compatible with putting texts on consecutive lines. The words of two complete texts
are the words of the first and those of the second, which stand further on. If something is left
open in the second text, the whole lacks a delimiter. -/
theorem parse_append_break (a b : Text) (ha : (parse a .committing).IsComplete) :
    ((parse b .committing).IsComplete → ∀ mode, parse (a ++ '\n' :: b) mode =
      .complete ((parse a mode).words ++ (parse b mode).words.map (Word.shift (size a + 1)))
        ((parse b mode).activeWord.map (ActiveWord.shift (size a + 1)))
        (size (a ++ '\n' :: b))) ∧
    ∀ c, split b = .unterminated c → parse (a ++ '\n' :: b) .committing =
      .failure (.missingDelimiter (size (a ++ '\n' :: b))) := by
  obtain ⟨spans, ha⟩ := isComplete_committing_iff.1 ha
  constructor
  · intro hb mode
    obtain ⟨spans', hb⟩ := isComplete_committing_iff.1 hb
    obtain ⟨r, hsplit, hr⟩ := split_append_of_statements ha (b := b) fun e x h => by
      rw [hb] at h
      cases h
    rw [hb] at hr
    -- the statements of the second text are found behind those of the first one
    cases hr with
    | @statements _ vs hshift =>
      have hvs : vs = spans'.map (Span.shift (size a + 1)) := by
        clear hb hsplit
        induction hshift with
        | nil => rfl
        | cons huv _ ih =>
          obtain ⟨hstart, hstop⟩ := huv
          rw [ih, List.map_cons, Span.shift, ← hstart, ← hstop]
      rw [Split.prepend_statements, hvs] at hsplit
      -- no word of the first text reaches the end, so the active word is one of the second text
      have hbounds (span : Span) (hspan : span ∈ spans) := le_size_of_statements ha hspan
      rw [parse_of_statements hsplit, parse_of_statements ha, parse_of_statements hb,
        wordsAt_append hbounds, findActive_append ?_]
      · rfl
      · intro word hword
        obtain ⟨span, hspan, rfl⟩ := List.mem_map.1 hword
        exact (hbounds span hspan).2
  · -- what is left open in the second text stays open behind the first one
    intro c hb
    obtain ⟨r, hsplit, hr⟩ := split_append_of_statements ha (b := b) fun e x h => by
      rw [hb] at h
      cases h
    rw [hb] at hr
    cases hr with
    | unterminated =>
      rw [Split.prepend_unterminated] at hsplit
      exact committing_of_unterminated hsplit

/-- Two names, and a name with a parenthesis after it that is not closed. -/
theorem parse_append_break_names :
    (∀ mode, parse "x\ny".toList mode =
      .complete [⟨['x'], ⟨0, 1⟩⟩, ⟨['y'], ⟨2, 3⟩⟩] (some ⟨['y'], 1, 2⟩) 3) ∧
    parse "x\n(".toList .committing = .failure (.missingDelimiter 3) := by
  have hx : (parse ['x'] .committing).IsComplete :=
    isComplete_committing_iff.2 ⟨[⟨0, 1⟩], by decide +kernel⟩
  have hy : (parse ['y'] .committing).IsComplete :=
    isComplete_committing_iff.2 ⟨[⟨0, 1⟩], by decide +kernel⟩
  have hopen : split ['('] = .unterminated 0 := by decide +kernel
  refine ⟨fun mode => ((parse_append_break ['x'] ['y'] hx).1 hy mode).trans ?_,
    (parse_append_break ['x'] ['('] hx).2 0 hopen⟩
  cases mode <;> decide +kernel

end StatementReader
