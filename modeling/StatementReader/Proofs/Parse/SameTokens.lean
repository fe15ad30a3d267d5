import StatementReader.Proofs.Parse.Outcomes
import StatementReader.Proofs.Token.Gap

/-!
# Texts with the same tokens

What is between the tokens of a text is of no concern to the grammar, except for the question
whether a line break is in it. So two texts are read alike if their tokens agree one by one in kind,
in text and in the answer to that question (`split_same_tokens`). Comments and blank space may
differ, and nothing is asked of what comes after the last token.

A way of reading names some tokens: those at which its statements begin and end, the one that is out
of place, the one at which the last finished statement ends. Alike means that both texts name the
tokens with the same indices. That is a `Likeness` whose places are related through an index, so
the simulation of `Likeness.lean` does the work. The starts and the ends of tokens are related
separately, as the end of one token may well be the start of the next in one of the texts only.

One answer names no token. If a text ends before its first statement does, then the offset up to
which it is finished is zero, and no token ends there (`not_forall_consumed_at_token`).
-/

namespace StatementReader

/-- What the grammar asks of a token. -/
def Token.content (t : Token) : LexemeKind × Text × Bool := (t.kind, t.text, t.afterBreak)

/-- The tokens `x` of `xs` and `y` of `ys` have the same index. -/
def Token.SameIndex (xs ys : List Token) (x y : Token) : Prop :=
  ∃ i : Nat, xs[i]? = some x ∧ ys[i]? = some y

/-- The ways in which texts with the tokens `xs` and `ys` have been read name the same tokens. -/
inductive Split.SameTokens (xs ys : List Token) : Split → Split → Prop
  /-- Each statement begins and ends with the same tokens in both texts. -/
  | statements {us vs} : List.Forall₂ (fun u v : Span =>
      (∃ x y, Token.SameIndex xs ys x y ∧ u.start = x.start ∧ v.start = y.start) ∧
        ∃ x y, Token.SameIndex xs ys x y ∧ u.stop = x.stop ∧ v.stop = y.stop) us vs →
      SameTokens xs ys (.statements us) (.statements vs)
  /-- The last finished statement ends with the same token. -/
  | unterminated {x y} : Token.SameIndex xs ys x y →
      SameTokens xs ys (.unterminated x.stop) (.unterminated y.stop)
  /-- No statement is finished. -/
  | nothingFinished : SameTokens xs ys (.unterminated 0) (.unterminated 0)
  /-- The same token is out of place for the same reason. -/
  | violation {e x y} : Token.SameIndex xs ys x y → x.text = y.text →
      SameTokens xs ys (.violation e (some x)) (.violation e (some y))
  /-- Both texts end too early for the same reason. -/
  | atEnd {e} : SameTokens xs ys (.violation e none) (.violation e none)

/-! ### Rows of the same content -/

/-- Tokens of one content are alike if they have the same index in two rows. -/
def Likeness.byIndex (xs ys : List Token) : Likeness where
  token x y := x.kind = y.kind ∧ x.text = y.text ∧ Token.SameIndex xs ys x y
  startOffset m n := ∃ x y, Token.SameIndex xs ys x y ∧ m = x.start ∧ n = y.start
  stopOffset m n := ∃ x y, Token.SameIndex xs ys x y ∧ m = x.stop ∧ n = y.stop
  kind_eq h := h.1
  text_eq h := h.2.1
  start h := ⟨_, _, h.2.2, rfl, rfl⟩
  stop h := ⟨_, _, h.2.2, rfl, rfl⟩

variable {xs ys : List Token}

theorem Likeness.rows_byIndex (h : xs.map Token.content = ys.map Token.content) :
    (Likeness.byIndex xs ys).Rows 0 xs ys := by
  -- the index of a token counts what stands before it, so the ends of both rows are compared
  suffices hends : ∀ us vs : List Token, us.length = vs.length → ∀ xs' ys' : List Token,
      xs = us ++ xs' → ys = vs ++ ys' → (Likeness.byIndex xs ys).Rows 0 xs' ys' from
    hends [] [] rfl xs ys rfl rfl
  intro us vs hlength xs'
  induction xs' generalizing us vs with
  | nil =>
    intro ys' hx hy
    have hnil : ys' = [] := by
      have hlengths := congrArg List.length h
      rw [hx, hy] at hlengths
      simp only [List.map_append, List.length_append, List.length_map, List.length_nil] at hlengths
      exact List.length_eq_zero_iff.1 (by omega)
    rw [hnil]
    exact .nil
  | cons x xs' ih =>
    intro ys' hx hy
    rw [hx, hy, List.map_append, List.map_append] at h
    obtain ⟨-, hcontent⟩ := List.append_inj h (by simp [hlength])
    cases ys' with
    | nil => cases hcontent
    | cons y ys' =>
      obtain ⟨hxy, -⟩ := List.cons.inj hcontent
      obtain ⟨hkind, hrest⟩ := Prod.mk.inj hxy
      obtain ⟨htext, hbreak⟩ := Prod.mk.inj hrest
      have hindex : Token.SameIndex xs ys x y :=
        ⟨us.length, by rw [hx]; simp, by rw [hy, hlength]; simp⟩
      refine .cons ⟨hkind, htext, hindex⟩ (fun _ => hbreak) ?_
      exact ih (us ++ [x]) (vs ++ [y]) (by simp [hlength]) ys' (by simp [hx]) (by simp [hy])

/-- Answers that are alike by index name the same tokens. -/
theorem Likeness.Splits.sameTokens {r r' : Split}
    (h : (Likeness.byIndex xs ys).Splits
      (fun m n => m = 0 ∧ n = 0 ∨ (Likeness.byIndex xs ys).stopOffset m n) r r') :
    Split.SameTokens xs ys r r' := by
  cases h with
  | statements h => exact .statements h
  | unterminated h =>
    rcases h with ⟨rfl, rfl⟩ | ⟨x, y, hindex, rfl, rfl⟩
    · exact .nothingFinished
    · exact .unterminated hindex
  | violation h =>
    cases h with
    | none => exact .atEnd
    | some h => exact .violation h.2.2 h.2.1

/-! ### Texts -/

variable {s t : Text}

theorem TokenRow.openLiteral_of_terminated (h : ∀ l ∈ Lexeme.scan t, l.unterminated = false) :
    (TokenRow.ofText t).openLiteral = false := by
  rw [TokenRow.ofText, openLiteral_ofLexemes, List.any_eq_false]
  exact fun l hl => by simp [h l hl]

/-- Two texts that leave nothing open are read alike if their tokens agree one by one in kind, in
text and in whether a line break stands before them. The statements begin and end with the same
tokens. If the reading stops, then for the same reason and at the same token, or at the end of both
texts. What is finished of an unfinished text ends with the same token, unless no statement is
finished in either. So both texts are accepted, or neither is. -/
theorem split_same_tokens (hs : ∀ l ∈ Lexeme.scan s, l.unterminated = false)
    (ht : ∀ l ∈ Lexeme.scan t, l.unterminated = false)
    (h : (TokenRow.ofText s).tokens.map Token.content =
      (TokenRow.ofText t).tokens.map Token.content) :
    Split.SameTokens (TokenRow.ofText s).tokens (TokenRow.ofText t).tokens (split s) (split t) ∧
      ((parse s .committing).IsComplete ↔ (parse t .committing).IsComplete) := by
  have hrows := Likeness.rows_byIndex h
  have hsame : Split.SameTokens (TokenRow.ofText s).tokens (TokenRow.ofText t).tokens (split s)
      (split t) := by
    -- both parses begin in front of all tokens, with nothing open
    have hstates : (Likeness.byIndex (TokenRow.ofText s).tokens (TokenRow.ofText t).tokens).States 0
        ⟨(TokenRow.ofText s).tokens, 0, 0, [true]⟩ ⟨(TokenRow.ofText t).tokens, 0, 0, [true]⟩ :=
      ⟨hrows, rfl, rfl⟩
    rw [split, split, TokenRow.openLiteral_of_terminated hs, TokenRow.openLiteral_of_terminated ht,
      hrows.length_eq]
    exact (Split.readFrom_alike false _ .inr (Nat.zero_le 1) (.inl ⟨rfl, rfl⟩)
      hstates).sameTokens
  -- a text is complete exactly if its parse gives statements, which both parses do or neither
  refine ⟨hsame, ?_⟩
  rw [isComplete_committing_iff, isComplete_committing_iff]
  generalize split s = r at hsame
  generalize split t = r' at hsame
  cases hsame <;> simp

/-- A sum, with a comment inside it and with one after it. -/
theorem split_same_tokens_comments :
    (∀ l ∈ Lexeme.scan "x + /* one */ y".toList, l.unterminated = false) ∧
    (∀ l ∈ Lexeme.scan "x+y // two".toList, l.unterminated = false) ∧
    (TokenRow.ofText "x + /* one */ y".toList).tokens.map Token.content =
      (TokenRow.ofText "x+y // two".toList).tokens.map Token.content ∧
    (parse "x+y // two".toList .committing).IsComplete := by
  have hinside : ∀ l ∈ Lexeme.scan "x + /* one */ y".toList, l.unterminated = false := by
    decide +kernel
  have hafter : ∀ l ∈ Lexeme.scan "x+y // two".toList, l.unterminated = false := by
    decide +kernel
  have hsame : (TokenRow.ofText "x + /* one */ y".toList).tokens.map Token.content =
      (TokenRow.ofText "x+y // two".toList).tokens.map Token.content := by
    decide +kernel
  have haccepted : (parse "x + /* one */ y".toList .committing).IsComplete :=
    isComplete_committing_iff.2 ⟨[⟨0, 15⟩], by decide +kernel⟩
  exact ⟨hinside, hafter, hsame, (split_same_tokens hinside hafter hsame).2.1 haccepted⟩

/-- An opening parenthesis is finished up to the start of the text, where no token ends. -/
theorem not_forall_consumed_at_token : ¬ ∀ (s t : Text) (c d : Nat),
    (∀ l ∈ Lexeme.scan s, l.unterminated = false) →
    (∀ l ∈ Lexeme.scan t, l.unterminated = false) →
    (TokenRow.ofText s).tokens.map Token.content = (TokenRow.ofText t).tokens.map Token.content →
    split s = .unterminated c → split t = .unterminated d →
    ∃ x y, Token.SameIndex (TokenRow.ofText s).tokens (TokenRow.ofText t).tokens x y ∧
      c = x.stop ∧ d = y.stop := by
  intro h
  have hclosed : ∀ l ∈ Lexeme.scan ['('], l.unterminated = false := by decide +kernel
  have hsplit : split ['('] = .unterminated 0 := by decide +kernel
  obtain ⟨x, y, ⟨i, hx, -⟩, hstop, -⟩ :=
    h ['('] ['('] 0 0 hclosed hclosed rfl hsplit hsplit
  -- the only token stops behind the parenthesis, but nothing has been finished
  have hends : ∀ x ∈ (TokenRow.ofText ['(']).tokens, x.stop ≠ 0 := by decide +kernel
  exact hends x (List.mem_of_getElem? hx) hstop.symm

end StatementReader
