import StatementReader.Proofs.Language.Types

/-!
# Statements are read

The lemmas on the rules for definitions, imports and statements. A statement is read wherever it
stands before a semicolon, the brace that closes its block, or a line break and another statement
(`completes_statement`). What follows it then never continues it.

A row of statements in braces is no star, as the place between two of them matters. The proof that
it is read follows the row (`exists_run_of_row`).
-/

namespace StatementReader

open Rule Computability Filter

namespace Token

variable {t : Token}

/-- A token is no more than one reserved word. -/
theorem isKeyword_of_isKeyword {word word' : Text} (h : t.isKeyword word) :
    t.isKeyword word' = (word == word') := by
  obtain ⟨hk, rfl⟩ := isKeyword_iff.1 h
  simp [isKeyword, hk]

/-- An expression begins with none of the other reserved words. -/
theorem isKeyword_of_startsExpr (h : t.startsExpr) {word : Text}
    (hword : word ∉ expressionWords) : t.isKeyword word = false := by
  by_contra hkeyword
  obtain ⟨hk, rfl⟩ := isKeyword_iff.1 (eq_true_of_ne_false hkeyword)
  simp [startsExpr, hk, LexemeKind.isLiteral] at h
  exact hword h

/-- A statement begins with no mark but those that open parentheses and blocks. -/
theorem isMark_of_startsStatement (h : t.startsStatement) (mark : Text)
    (hmark : mark ∉ [openParen, openBrace]) : t.isMark mark = false := by
  by_contra htrue
  obtain ⟨hk, rfl⟩ := isMark_iff.1 (eq_true_of_ne_false htrue)
  simp [startsStatement, startsExpr, hk, LexemeKind.isLiteral] at h
  exact hmark (by simpa using h)

/-- What a statement may stand before does not continue an expression. -/
theorem endsExpr_of_endsStatement (h : t.endsStatement) : t.endsExpr true true := by
  simp only [endsStatement, Bool.or_eq_true, Bool.and_eq_true] at h
  rcases h with (h | h) | ⟨hbreak, hstarts⟩
  · exact endsExpr_of_isMark h (by decide)
  · exact endsExpr_of_isMark h (by decide)
  · -- on a new line only the words and marks that a statement begins with are possible
    have helse : t.isKeyword "else".toList = false := by
      by_contra htrue
      obtain ⟨hk, htext⟩ := isKeyword_iff.1 (eq_true_of_ne_false htrue)
      simp [startsStatement, startsExpr, hk, htext, LexemeKind.isLiteral, expressionWords,
        definitionWords] at hstarts
    have harrow := isMark_of_startsStatement hstarts arrow (by decide)
    have hdot := isMark_of_startsStatement hstarts dot (by decide)
    have hbracket := isMark_of_startsStatement hstarts openBracket (by decide)
    simp only [endsExpr, endsOperation, endsOperand, endsType, hbreak, helse, harrow, hdot,
      hbracket]
    rfl

/-- Behind a whole statement stands no point. -/
theorem isMark_dot_of_endsStatement (h : t.endsStatement) : t.isMark dot = false := by
  have hexpr := endsExpr_of_endsStatement h
  simp only [endsExpr, endsOperation, endsOperand, Bool.and_eq_true] at hexpr
  exact (isMark_of_endsType hexpr.1.1.1.1).1

end Token

namespace Phrase

/-- What a row of statements begins with, if it is not empty. -/
theorem Row.next {S : Phrase} {p : Token → Bool} (hS : S.Begins p) {us : List (List Token)}
    {w : List Token} (h : Row S us w) : Next (fun t => t.isMark semicolon || p t) w := by
  have hsemicolon : (punct semicolon).Begins fun t => t.isMark semicolon || p t :=
    (begins_one _).imp fun t ht => by simp [ht]
  -- the row begins with its semicolons, or with its first statement
  cases h with
  | nil hv =>
    have hnil : Next (fun t => t.isMark semicolon || p t) [] := fun t ht => by cases ht
    simpa using next_of_mem_kstar hsemicolon hv hnil
  | cons hv hu hsep hrow =>
    exact next_of_mem_kstar hsemicolon hv
      ((hS.imp fun t ht => by simp [ht]).next hu _)

/-- What is left of a row after one of its statements may follow a statement. -/
theorem Row.next_endsStatement {S : Phrase} (hS : S.Begins Token.startsStatement)
    {us : List (List Token)} {w : List Token} (h : Row S us w) (hsep : Separated w) :
    Next Token.endsStatement w := by
  intro t ht
  have hstarts := h.next hS t ht
  have hbreak := hsep t ht
  simp only [Token.endsStatement, Bool.or_eq_true, Bool.and_eq_true] at hstarts ⊢
  -- a token that begins a statement must stand on a new line, since there is no semicolon
  rcases hstarts with h | h
  · exact .inl (.inl h)
  · rcases hbreak with hb | hb
    · exact .inl (.inl hb)
    · exact .inr ⟨hb, h⟩

end Phrase

namespace Rule

variable {𝓕 : Filter ℕ} {ms : List Bool} {Q : Shapes}

/-! ### Definitions -/

section

variable (hQ : Q.Readable 𝓕)
include hQ

/-- Expressions begin as both their shapes do. -/
theorem begins_expr (lineMode : Bool) : (Q.forget (.expr lineMode)).Begins Token.startsExpr :=
  (hQ.begins (.expr lineMode true)).add (hQ.begins (.expr lineMode false))

/-- An expression is read in full, whatever its shape. -/
theorem completes_expr {lineMode : Bool} (hms : ms.headD true = lineMode) :
    expr.Completes 𝓕 ms ms (Q.forget (.expr lineMode)) (Next (Token.endsExpr lineMode true)) := by
  subst hms
  have hfalse (t : Token) (h : t.endsExpr (ms.headD true) true) :
      t.endsExpr (ms.headD true) false := by
    simp only [Token.endsExpr, Bool.and_eq_true] at h ⊢
    exact ⟨h.1, rfl⟩
  exact (hQ.expr ms true).add ((hQ.expr ms false).imp fun r h => h.imp hfalse)

/-- A type ascription is read before an equals sign, if there is one. -/
theorem completes_ascription :
    typeAscription.Completes 𝓕 ms ms Q.forget.ascription (Next (·.isMark equals)) := by
  have hbegins : (Phrase.punct colon * Q.forget .type).Begins (·.isMark colon) :=
    (Phrase.begins_one _).mul _
  have htype : type.Completes 𝓕 ms ms (Q.forget .type) (Next (·.isMark equals)) :=
    (completes_type hQ).imp fun r h => h.imp fun t ht => Token.endsType_of_isMark ht (by decide)
  refine ((completes_token _).andThen htype).optional
    (fun u hu r _ => hbegins.any_head? hu r fun _ h => h) fun r hr => hr.any_head? fun t ht => ?_
  exact Token.isMark_eq_false ht (by decide)

omit hQ in
/-- A pattern is read in full, whatever follows. -/
theorem completes_pattern : pattern.Completes 𝓕 ms ms Phrases.pattern fun _ => True := by
  have hname : pattern.Completes 𝓕 ms ms Phrase.name fun _ => True := by
    refine completes_ident.branch_no fun u hu r _ => ?_
    exact (Phrase.begins_one _).any_head? hu r fun t h =>
      Token.isMark_of_kind_ne (by simp [beq_iff_eq.1 h])
  have hnames : (opening openParen false >>
      (commaSeparated ident >> closing closeParen)).Completes 𝓕 ms ms
        (Phrase.punct openParen * (Phrase.commaList Phrase.name * Phrase.punct closeParen))
        fun _ => True :=
    completes_bracketed _ _ _ (completes_commaClosed (p := fun _ => true)
      (completes_ident.imp fun _ _ => trivial) (fun _ _ => rfl) (by decide) fun _ _ => rfl)
  have hparen : pattern.Completes 𝓕 ms ms
      (Phrase.punct openParen * (Phrase.commaList Phrase.name * Phrase.punct closeParen))
      fun _ => True :=
    hnames.branch_yes fun u hu r _ => ((Phrase.begins_one _).mul _).any_head? hu r fun _ h => h
  -- a name and a list of names begin with different tokens
  rw [Phrases.pattern, mul_assoc]
  exact hname.add hparen

/-- Parameters are read in full, whatever follows. -/
theorem completes_params : params.Completes 𝓕 ms ms Q.forget.params fun _ => True := by
  have hparam : (ident >> (mark colon >> type)).Completes 𝓕 (false :: ms) (false :: ms)
      (Phrase.name * (Phrase.punct colon * Q.forget .type)) (Next (Token.endsType true)) :=
    completes_ident.andThen ((completes_mark colon).andThen (completes_type hQ))
  rw [Phrases.params, mul_assoc, mul_assoc Phrase.name]
  exact completes_parenthesized hparam ((Phrase.begins_one _).mul _)
    (fun t h => Token.isMark_of_kind_ne (by simp [beq_iff_eq.1 h]))
    (fun t h => Token.endsType_of_isMark h (by decide))
    fun t h => Token.endsType_of_isMark h (by decide)

/-- What is defined is read in full, as far as the expression is. -/
theorem completes_definiens (hms : ms.headD true = true) :
    definiens.Completes 𝓕 ms ms Q.forget.definiens (Next (Token.endsExpr true true)) :=
  (completes_mark equals).andThen (completes_expr hQ hms)

/-- A type, or nothing, and a definiens: the end of every definition. -/
theorem completes_ascription_definiens (hms : ms.headD true = true) :
    (typeAscription >> definiens).Completes 𝓕 ms ms (Q.forget.ascription * Q.forget.definiens)
      (Next (Token.endsExpr true true)) :=
  (completes_ascription hQ).seq (completes_definiens hQ hms) fun _ hv r _ =>
    ((Phrase.begins_one _).mul _).next hv r

/-- A `def` after its word. -/
theorem completes_signature (hms : ms.headD true = true) : (ident >> (optional (.mark openParen)
    params >> (typeAscription >> definiens))).Completes 𝓕 ms ms (Phrase.name *
      (Phrase.opt Q.forget.params * (Q.forget.ascription * Q.forget.definiens)))
      (Next (Token.endsExpr true true)) := by
  have hparams : Q.forget.params.Begins (·.isMark openParen) :=
    ((Phrase.begins_one _).mul _).mul _
  have hrest : (Q.forget.ascription * Q.forget.definiens).Begins fun t => !t.isMark openParen :=
    Phrase.Begins.opt_mul (((Phrase.begins_one _).mul _).not_mark (by decide))
      (((Phrase.begins_one _).mul _).not_mark (by decide))
  have hoptional : (optional (.mark openParen) params).Completes 𝓕 ms ms
      (Phrase.opt Q.forget.params) (Next fun t => !t.isMark openParen) :=
    ((completes_params hQ).imp fun _ _ => trivial).optional
      (fun u hu r _ => hparams.any_head? hu r fun _ h => h)
      fun r hr => hr.any_head? fun t ht => by simpa using ht
  -- what follows the parameters is a colon or an equals sign, and no parenthesis
  exact completes_ident.andThen (hoptional.seq (completes_ascription_definiens hQ hms)
    fun v hv r _ => hrest.next hv r)

end

/-! ### Imports -/

/-- The point before the braces of an import is not the point before a name. -/
theorem completes_importPath :
    importPath.Completes 𝓕 ms ms Phrases.importPath
      fun r => r.head?.any (·.isMark dot) = false := by
  have hbraces : importGroup.Completes 𝓕 ms ms
      (Phrase.punct openBrace * (Phrase.commaList Phrase.name * Phrase.punct closeBrace))
      fun _ => True :=
    completes_bracketed _ _ _ (completes_commaClosed (p := fun _ => true)
      (completes_ident.imp fun _ _ => trivial) (fun _ _ => rfl) (by decide) fun _ _ => rfl)
  have hgroup : (token >> importGroup).Completes 𝓕 ms ms (Phrase.punct dot *
      (Phrase.punct openBrace * (Phrase.commaList Phrase.name * Phrase.punct closeBrace)))
      fun _ => True :=
    (completes_token _).andThen hbraces
  have hround : (token >> ident).Completes 𝓕 ms ms (Phrase.punct dot * Phrase.name) fun _ => True :=
    (completes_token _).andThen completes_ident
  have hbegins : (Phrase.punct dot * Phrase.name).Begins (·.isMark dot) :=
    (Phrase.begins_one _).mul _
  have hmembers : (repeatWhile (.markNotBefore dot openBrace) (token >> ident)).Completes 𝓕 ms ms
      (Phrase.punct dot * Phrase.name)∗
      fun r => (Look.markNotBefore dot openBrace).before (ms.headD true) r = false := by
    refine hround.repeatWhile (fun u hu => hbegins.ne_nil hu) ?_ (fun r hr => hr)
      (fun _ _ _ => trivial) fun _ _ => trivial
    -- the token after the point of a member is its name, and so no brace
    rintro _ ⟨_, ⟨t, rfl, ht⟩, _, ⟨n, rfl, hn⟩, rfl⟩ r
    have hbrace : n.isMark openBrace = false :=
      Token.isMark_of_kind_ne (by simp [beq_iff_eq.1 hn])
    show (t.isMark dot && !n.isMark openBrace) = true
    simp [ht, hbrace]
  rw [Phrases.importPath, Phrases.path, mul_assoc, mul_assoc (Phrase.punct openBrace)]
  refine completes_ident.andThen
    (hmembers.seq (Completes.optional (hgroup.imp fun _ _ => trivial) ?_ ?_) ?_)
  · exact fun u hu r _ => ((Phrase.begins_one _).mul _).any_head? hu r fun _ h => h
  · exact fun r hr => hr
  · rintro v (hv | hv) r hr
    · -- no braces: the path ends before something that is no point
      rw [show v = [] from hv, List.nil_append]
      show (r.head?.any (·.isMark dot) && _) = false
      rw [hr, Bool.false_and]
    · -- the path ends before the point of the braces
      obtain ⟨_, ⟨t, rfl, ht⟩, _, ⟨_, ⟨b, rfl, hb⟩, x, hx, rfl⟩, rfl⟩ := hv
      show (t.isMark dot && !b.isMark openBrace) = false
      simp only [hb, Bool.not_true, Bool.and_false]

/-! ### Statements -/

section

variable (hQ : Q.Readable 𝓕)
include hQ

/-- A statement begins with a word or as an expression does. -/
theorem begins_statement : Q.forget.statement.Begins Token.startsStatement := by
  have hword {word : Text} (h : word ∈ Token.definitionWords) (L : Phrase) :
      (Phrase.word word * L).Begins Token.startsStatement :=
    ((Phrase.begins_one _).mul L).imp fun t ht => by
      obtain ⟨hk, rfl⟩ := Token.isKeyword_iff.1 ht
      simp [Token.startsStatement, hk, h]
  have hexpr : (Q.forget (.expr true)).Begins Token.startsStatement :=
    (begins_expr hQ true).imp fun t ht => by simp [Token.startsStatement, ht]
  -- four kinds of statement have a word of their own
  simp only [Phrases.statement, mul_assoc]
  exact ((((hword (by decide) _).add (hword (by decide) _)).add (hword (by decide) _)).add
    (hword (by decide) _)).add hexpr

/-- A statement is read in full, if what follows may end it. -/
theorem completes_statement (hms : ms.headD true = true) :
    statement.Completes 𝓕 ms ms Q.forget.statement (Next Token.endsStatement) := by
  have hends : ∀ r, Next Token.endsStatement r → Next (Token.endsExpr true true) r :=
    fun r hr => hr.imp fun t ht => Token.endsExpr_of_endsStatement ht
  have hrest := (completes_ascription_definiens hQ hms).imp hends
  -- each kind of statement is told from those after it by the word that it begins with
  have hother {word word' : Text} (hne : (word' == word) = false) (L : Phrase) :
      (Phrase.word word' * L).Begins fun t => !t.isKeyword word :=
    ((Phrase.begins_one _).mul L).imp fun t ht => by simp [Token.isKeyword_of_isKeyword ht, hne]
  have hexpr {word : Text} (h : word ∉ Token.expressionWords) :
      (Q.forget (.expr true)).Begins fun t => !t.isKeyword word :=
    (begins_expr hQ true).imp fun t ht => by simp [Token.isKeyword_of_startsExpr ht h]
  have himport : importPath.Completes 𝓕 ms ms Phrases.importPath (Next Token.endsStatement) :=
    completes_importPath.imp fun r hr => hr.any_head? fun t ht =>
      Token.isMark_dot_of_endsStatement ht
  have hdef := (completes_signature hQ hms).imp hends
  simp only [Phrases.statement, mul_assoc, add_assoc]
  refine completes_keyword (completes_pattern.andThen hrest)
    (completes_keyword (completes_ident.andThen hrest)
      (completes_keyword hdef (completes_keyword himport ((completes_expr hQ hms).imp hends) ?_) ?_)
      ?_) ?_
  · exact hexpr (by decide)
  · exact (hother (by decide) _).add (hexpr (by decide))
  · exact (hother (by decide) _).add ((hother (by decide) _).add (hexpr (by decide)))
  · exact (hother (by decide) _).add ((hother (by decide) _).add
      ((hother (by decide) _).add (hexpr (by decide))))

/-! ### Blocks -/

omit hQ in
/-- All semicolons are read. -/
theorem completes_semicolons : semicolons.Completes 𝓕 ms ms (Phrase.punct semicolon)∗
    (Next fun t => !t.isMark semicolon) :=
  ((completes_token _).imp fun _ _ => trivial).repeatWhile (F := fun _ => True)
    (fun u hu => (Phrase.begins_one _).ne_nil hu)
    (fun u hu r => (Phrase.begins_one _).any_head? hu r fun _ h => h)
    (fun r hr => hr.any_head? fun t ht => by simpa using ht) (fun _ _ _ => trivial)
    fun _ _ => trivial

/-- After each statement of a row in a block comes what may end it. -/
theorem head?_any_endsStatement {us : List (List Token)} {w r : List Token}
    (hsep : Phrase.Separated w) (hrow : Phrase.Row Q.forget.statement us w)
    (hr : r.head?.any (·.isMark closeBrace)) : (w ++ r).head?.any (·.endsStatement) := by
  -- the block ends here, or its next statement is separated from this one
  cases w with
  | nil =>
    cases r with
    | nil => cases hr
    | cons t r =>
      have hclose : t.isMark closeBrace := hr
      show t.endsStatement = true
      simp [Token.endsStatement, hclose]
  | cons t w => exact hrow.next_endsStatement (begins_statement hQ) hsep t rfl

omit hQ in
/-- Where a statement can end, its end is found. -/
theorem run_endOfStatement_of_endsStatement {calls : Construct → Production} {s : State}
    (h : s.rest.head?.any (·.endsStatement)) : run calls (endOfStatement
      (.either (.mark semicolon) (.mark closeBrace)) .blockSeparator) s = .ok s := by
  refine run_endOfStatement_eq_ok.2 ⟨?_, rfl⟩
  cases hr : s.rest with
  | nil => rw [hr] at h; cases h
  | cons t r =>
    simp only [Look.holds, State.atMark, hr, List.head?_cons, Option.any_some, Token.endsStatement,
      Bool.or_eq_true, Bool.and_eq_true] at h ⊢
    exact h.imp_right And.left

/-- A row of statements is read up to the brace that closes their block. The induction is on the
row, for the first semicolons and the rounds after them at once. -/
theorem exists_run_of_row {us : List (List Token)} {w : List Token}
    (hrow : Phrase.Row Q.forget.statement us w) (hms : ms.headD true = true) :
    ∀ᶠ levels in 𝓕, ∀ (s : State) (r : List Token), s.lineModes = ms → s.rest = w ++ r →
      r.head?.any (·.isMark closeBrace) →
        ∃ m, run (read levels) semicolons s = .ok m ∧ m.rest.length ≤ s.rest.length ∧
          ∀ bound : List Token, m.rest.length ≤ bound.length →
            ∃ s', iterate (Look.no (.mark closeBrace)).holds (run (read levels) (statement >>
              (endOfStatement (.either (.mark semicolon) (.mark closeBrace)) .blockSeparator >>
                semicolons))) bound m = .ok s' ∧ s'.rest = r ∧ s'.lineModes = ms := by
  have hclose {r : List Token} (hr : r.head?.any (·.isMark closeBrace)) {mark : Text}
      (hne : (closeBrace == mark) = false) : Next (fun t => !t.isMark mark) r :=
    next_of_any_head? hr fun t ht => by simp [Token.isMark_eq_false ht hne]
  induction hrow with
  | nil hv =>
    -- the semicolons are read, and the brace ends the rounds before the first one
    filter_upwards [completes_semicolons.reads _ hv] with levels hsemicolons s r hs hr hbrace
    obtain ⟨m, hm, hmr, hmodes⟩ := hsemicolons s r hs hr (hclose hbrace (by decide))
    refine ⟨m, hm, by simp [hmr, hr], fun bound _ => ⟨m, ?_, hmr, hmodes⟩⟩
    cases bound with
    | nil => rfl
    | cons b bound =>
      have hlook : (Look.no (.mark closeBrace)).holds m = false := by
        show (!m.rest.head?.any (·.isMark closeBrace)) = false
        rw [hmr, hbrace]
        rfl
      rw [iterate_cons, hlook]
      rfl
  | @cons v u us w hv hu hsep hrow ih =>
    have hfirst := (completes_semicolons : semicolons.Completes 𝓕 ms ms _ _).reads v hv
    filter_upwards [hfirst, (completes_statement hQ hms).reads u hu, ih]
      with levels hsemicolons hstatement hothers s r hs hr hbrace
    -- after a statement comes a semicolon, a line break or the closing brace
    have hends := head?_any_endsStatement hQ hsep hrow hbrace
    have hnext : Next (fun t => !t.isMark semicolon) (u ++ (w ++ r)) :=
      ((begins_statement hQ).imp fun t ht => by
        simp [Token.isMark_of_startsStatement ht semicolon (by decide)]).next hu _
    obtain ⟨m, hm, hmr, hmodes⟩ := hsemicolons s (u ++ (w ++ r)) hs (by simp [hr]) hnext
    obtain ⟨m₁, hm₁, hm₁r, hm₁modes⟩ := hstatement m (w ++ r) hmodes hmr
      (next_of_any_head? hends fun _ h => h)
    obtain ⟨m₂, hm₂, hlength, hrounds⟩ := hothers m₁ r hm₁modes hm₁r hbrace
    refine ⟨m, hm, by simp [hmr, hr], fun bound hbound => ?_⟩
    have hround : run (read levels) (statement >> (endOfStatement
        (.either (.mark semicolon) (.mark closeBrace)) .blockSeparator >> semicolons)) m =
          .ok m₂ := by
      refine run_seq_eq_ok.2 ⟨m₁, hm₁, run_seq_eq_ok.2 ⟨m₁, ?_, hm₂⟩⟩
      exact run_endOfStatement_of_endsStatement (by rwa [hm₁r])
    -- a statement begins here, and no brace does
    have hlook : (Look.no (.mark closeBrace)).holds m := by
      show (!m.rest.head?.any (·.isMark closeBrace)) = true
      rw [hmr, (begins_statement hQ).any_head? hu (w ++ r) fun t ht =>
        Token.isMark_of_startsStatement ht closeBrace (by decide)]
      rfl
    -- the statement takes a token, so the bound is enough for the rounds after it
    have hpos : 0 < u.length := List.length_pos_iff.2 ((begins_statement hQ).ne_nil hu)
    rw [hmr, List.length_append] at hbound
    rw [hm₁r] at hlength
    cases bound with
    | nil => exact absurd (Nat.le_trans (Nat.le_add_right _ _) hbound) (Nat.not_le.2 hpos)
    | cons b bound =>
      have hshorter : m₂.rest.length ≤ bound.length := by
        rw [List.length_cons] at hbound
        omega
      obtain ⟨s', hs', hend⟩ := hrounds bound hshorter
      refine ⟨s', ?_, hend⟩
      rw [iterate_cons, if_pos hlook, hround]
      exact hs'

/-- A block is read in full, whatever follows. -/
theorem completes_block : block.Completes 𝓕 ms ms Q.forget.block fun _ => True := by
  have hrows : (semicolons >> repeatWhile (.no (.mark closeBrace)) (statement >> (endOfStatement
      (.either (.mark semicolon) (.mark closeBrace)) .blockSeparator >> semicolons))).Completes 𝓕
        (true :: ms) (true :: ms) (Phrase.statements Q.forget.statement)
        fun r => r.head?.any (·.isMark closeBrace) := by
    refine ⟨?_⟩
    rintro w ⟨us, hrow⟩
    have hlines : (true :: ms).headD true = true := rfl
    -- with enough levels the row is read statement by statement
    filter_upwards [exists_run_of_row hQ hrow hlines] with levels hread s r hs hr hbrace
    obtain ⟨m, hm, -, hrounds⟩ := hread s r hs hr hbrace
    obtain ⟨s', hs', hend⟩ := hrounds m.rest le_rfl
    exact ⟨s', run_seq_eq_ok.2 ⟨m, hm, hs'⟩, hend⟩
  rw [Phrases.block, mul_assoc]
  exact (completes_bracketed _ _ _ hrows).assoc_right

end

end Rule

end StatementReader
