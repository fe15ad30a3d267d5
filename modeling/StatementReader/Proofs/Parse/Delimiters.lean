import StatementReader.Proofs.Parse.Outcomes
import StatementReader.Proofs.Rule.Nesting
import StatementReader.Proofs.Split.Rounds
import StatementReader.Proofs.Token.LineBreak

/-!
# Missing delimiters

A submitted text lacks a delimiter only if something is open at its end: a bracket, in a text whose
brackets are properly nested as far as they go, or a literal or block comment. Nothing is open at
the end of a text that is complete, nor of one that is turned down because it ends too early.

`openBrackets` tells from the lexemes alone which brackets are open at the end. The grammar's own
count is compared with it by `Nested`, statement by statement.
-/

namespace StatementReader

/-- The punctuation in a row of lexemes, up to a literal or comment that is left open. -/
def Lexeme.marks (ls : List Lexeme) : List Text :=
  ((ls.takeWhile (!·.unterminated)).filter (·.kind == .punct)).map (·.text)

/-- The brackets that are open at the end of a text, innermost first. There are none to tell if a
closing bracket does not match the innermost open one. -/
def openBrackets (t : Text) : Option (List Text) :=
  Bracket.openAfter [] (Lexeme.marks (Lexeme.scan t))

/-- A literal or comment is open at the end of a text. -/
def endsOpen (t : Text) : Bool := (Lexeme.scan t).getLast?.any (·.unterminated)

/-! ### Brackets of lexemes and of tokens -/

/-- The marks of the tokens are those of the lexemes. -/
theorem TokenRow.marks_ofLexemes (crossed : Bool) (ls : List Lexeme) :
    Token.marks (ofLexemes crossed ls).tokens = Lexeme.marks ls := by
  induction ls generalizing crossed with
  | nil => rfl
  | cons l ls ih =>
    simp only [Token.marks, Lexeme.marks] at ih ⊢
    -- a lexeme that is open or a comment makes no token, and has no marks
    by_cases hu : l.unterminated
    · simp [ofLexemes, hu]
    · by_cases hk : l.kind = .comment
      · simp [ofLexemes, hu, hk, ih]
      · by_cases hp : l.kind = .punct
        · simp [ofLexemes, hu, hp, ih]
        · simp [ofLexemes, hu, hk, hp, ih]

/-- A text ends in an open lexeme where its last token is one. -/
theorem endsOpen_eq (t : Text) : endsOpen t = (TokenRow.ofText t).openLiteral := by
  rw [TokenRow.ofText, TokenRow.openLiteral_ofLexemes, Bool.eq_iff_iff, List.any_eq_true]
  constructor
  · intro h
    obtain ⟨l, hl, hu⟩ := (Option.any_eq_true _ _).1 h
    exact ⟨l, List.mem_of_getLast? hl, hu⟩
  · rintro ⟨l, hl, hu⟩
    rw [endsOpen, Lexeme.scan, Lexeme.getLast?_scanFrom hl hu]
    exact hu

/-- The brackets of a text are those of its tokens. -/
theorem openBrackets_eq (t : Text) :
    openBrackets t = Bracket.openAfter [] (Token.marks (TokenRow.ofText t).tokens) := by
  rw [openBrackets, TokenRow.ofText, TokenRow.marks_ofLexemes]

/-! ### The statements of a text -/

/-- Tokens that are no brackets leave the open brackets as they are. -/
theorem Token.openAfter_of_isPlain {ts : List Token} (h : ∀ t ∈ ts, t.isPlain) (stack : List Text) :
    Bracket.openAfter stack (marks ts) = some stack := by
  induction ts with
  | nil => rfl
  | cons t ts ih =>
    have ht := openAfter_singleton_of_isPlain (h t List.mem_cons_self) stack
    have hts := ih fun t ht => h t (List.mem_cons_of_mem _ ht)
    rw [← List.singleton_append, marks_append, Bracket.openAfter_append, ht, Option.bind_some, hts]

namespace Split

variable {base : Nat} {modes : List Bool}

/-- The answer to reading statements from `s`, with no bracket open and `base` literals, tells
rightly whether something is open at the end. -/
def Faithful (base : Nat) (s : State) : Split → Prop
  | statements _ | violation _ none =>
    Bracket.openAfter [] (Token.marks s.rest) = some [] ∧ base = 0
  | unterminated _ => ∃ stack, Bracket.openAfter [] (Token.marks s.rest) = some stack ∧
      0 < base + stack.length
  | violation _ (some _) => True

namespace Faithful

variable {base : Nat} {s s' : State} {r : Split}

/-- What follows the same brackets is judged in the same way. -/
theorem congr (h : Faithful base s' r) (hs : Bracket.openAfter [] (Token.marks s.rest) =
    Bracket.openAfter [] (Token.marks s'.rest)) : Faithful base s r := by
  match r, h with
  | statements _, h => exact ⟨hs.trans h.1, h.2⟩
  | unterminated _, ⟨stack, h, hpos⟩ => exact ⟨stack, hs.trans h, hpos⟩
  | violation _ none, h => exact ⟨hs.trans h.1, h.2⟩
  | violation _ (some _), _ => trivial

/-- A statement in front does not change what is open. -/
theorem cons (h : Faithful base s r) (span : Span) : Faithful base s (r.cons span) := by
  match r, h with
  | statements _, h => exact h
  | unterminated _, h => exact h
  | violation _ none, h => exact h
  | violation _ (some _), _ => trivial

/-- The answer where a production stops. -/
theorem of_nested {modes : List Bool} {stop : Stop}
    (h : StatementReader.Nested base modes [] [] 0 s (.error stop)) (c : Nat) :
    Faithful base s (ofStop c stop) := by
  match stop, h with
  | .unterminated, h => exact h
  | .violation _ none, h => exact h
  | .violation _ (some _), _ => trivial

/-- At the end a literal is open if the depth says so. -/
theorem atEnd {openLiteral : Bool} (hopen : openLiteral ↔ 0 < base) (hs : s.rest = []) (c : Nat) :
    Faithful base s (Split.atEnd openLiteral c) := by
  have hmarks : Bracket.openAfter [] (Token.marks s.rest) = some [] := by rw [hs]; rfl
  cases openLiteral with
  | true => exact ⟨[], hmarks, hopen.1 rfl⟩
  | false =>
    have hbase : ¬ 0 < base := fun hpos => by simpa using hopen.2 hpos
    exact ⟨hmarks, Nat.eq_zero_of_not_pos hbase⟩

end Faithful

/-- Semicolons are no brackets. -/
theorem openAfter_skipSemicolons (s : State) (stack : List Text) :
    Bracket.openAfter stack (Token.marks s.rest) =
      Bracket.openAfter stack (Token.marks (skipSemicolons s).rest) := by
  have hplain (t : Token) (ht : t ∈ s.rest.takeWhile (·.isMark Rule.semicolon)) : t.isPlain := by
    have hmark := List.mem_takeWhile_imp ht
    exact Token.isPlain_of_isMark hmark (by decide)
  conv_lhs => rw [← List.takeWhile_append_dropWhile (p := (·.isMark Rule.semicolon)) (l := s.rest)]
  rw [Token.marks_append, Bracket.openAfter_append, Token.openAfter_of_isPlain hplain,
    Option.bind_some]
  rfl

/-- Statements nest their brackets, so the answer to reading them is faithful. -/
theorem Rounds.faithful {openLiteral : Bool} {base count c : Nat} {modes : List Bool} {s : State}
    {r : Split} (h : Rounds openLiteral count c s r) (hopen : openLiteral ↔ 0 < base)
    (hcount : s.rest.length < count) (hs : s.Holds base modes []) : Faithful base s r := by
  induction h with
  | spent => exact absurd hcount (Nat.not_lt_zero _)
  | @finished count c s hx =>
    exact (Faithful.atEnd hopen hx c).congr (openAfter_skipSemicolons s [])
  | @stopped count c s x xs stop hx hstop =>
    have hskip : (skipSemicolons s).Holds base modes [] := ⟨hs.depth, hs.lineModes⟩
    have hnested := Rule.nested_readStatement hskip
    rw [hstop] at hnested
    exact (Faithful.of_nested hnested c).congr (openAfter_skipSemicolons s [])
  | @unseparated count c s x xs s' hx hok hsep =>
    have hskip : (skipSemicolons s).Holds base modes [] := ⟨hs.depth, hs.lineModes⟩
    have hnested := Rule.nested_readStatement hskip
    rw [hok] at hnested
    -- the statement is read, and it is the missing separator that stops the parse
    have hstop : Nested base modes [] [] 0 (skipSemicolons s) (.error (s'.stop .separator)) :=
      hnested.trans (Nested.of_stop hnested.1 .separator)
    exact (Faithful.of_nested hstop _).congr (openAfter_skipSemicolons s [])
  | @again count c s x xs s' r hx hok hsep _ ih =>
    -- a statement that has been read leaves no bracket open, so the marks after it decide
    have hskip : (skipSemicolons s).Holds base modes [] := ⟨hs.depth, hs.lineModes⟩
    have hnested := Rule.nested_readStatement hskip
    rw [hok] at hnested
    obtain ⟨hs', -, u, hu, hopenAfter⟩ := hnested
    have hlt := length_rest_lt_of_readStatement hx hok
    refine (Faithful.congr (ih (by omega) hs') ?_).cons _
    rw [openAfter_skipSemicolons, hu, Token.marks_append, Bracket.openAfter_append]
    exact congrArg (Option.bind · _) hopenAfter

end Split

/-- The way the statements of a text are read tells rightly whether something is open at its end. -/
theorem split_faithful (t : Text) :
    Split.Faithful (if (TokenRow.ofText t).openLiteral then 1 else 0)
      ⟨(TokenRow.ofText t).tokens, 0, if (TokenRow.ofText t).openLiteral then 1 else 0, [true]⟩
      (split t) := by
  refine (Split.rounds_readFrom _ _ _ _).faithful ?_ (Nat.lt_succ_self _) ⟨rfl, rfl⟩
  cases (TokenRow.ofText t).openLiteral <;> simp

/-- A token objected to is one of the text. -/
theorem mem_tokens_of_violation {t : Text} {e : Expected} {x : Token}
    (h : split t = .violation e (some x)) : x ∈ (TokenRow.ofText t).tokens :=
  (Split.rounds_readFrom _ _ _ _).found_mem h

/-! ### Outcomes -/

/-- If the last lexeme is closed so are all of them. -/
theorem all_terminated {t : Text} (h : endsOpen t = false) :
    ∀ l ∈ Lexeme.scan t, l.unterminated = false := by
  intro l hl
  rw [endsOpen_eq, TokenRow.ofText, TokenRow.openLiteral_ofLexemes, List.any_eq_false] at h
  simpa using h l hl

/-- A text that is divided has nothing open. -/
theorem nothing_open_of_statements {t : Text} {spans : List Span} (h : split t = .statements spans) :
    openBrackets t = some [] ∧ endsOpen t = false := by
  have hfaithful := split_faithful t
  rw [h] at hfaithful
  rw [openBrackets_eq, endsOpen_eq]
  exact ⟨hfaithful.1, by simpa using hfaithful.2⟩

/-- Missing delimiters are told exactly. A text that lacks one has properly nested brackets as far
as they go, and a bracket or a literal is open at its end. A text that is complete, or is rejected
at its end, has nothing open. So a text with anything open is never complete. -/
theorem delimiters_exact (t : Text) :
    ((∃ position, parse t .committing = .failure (.missingDelimiter position)) →
      ∃ stack, openBrackets t = some stack ∧ (stack ≠ [] ∨ endsOpen t)) ∧
    ((parse t .committing).IsComplete ∨
        (∃ message, parse t .committing = .failure (.violation message (Text.size t))) →
      openBrackets t = some [] ∧ ∀ l ∈ Lexeme.scan t, l.unterminated = false) ∧
    ((openBrackets t ≠ some [] ∨ ∃ l ∈ Lexeme.scan t, l.unterminated) →
      ¬ (parse t .probing).IsComplete ∧ ¬ (parse t .committing).IsComplete) := by
  have hfaithful := split_faithful t
  have hcomplete (spans : List Span) (h : split t = .statements spans) :
      openBrackets t = some [] ∧ ∀ l ∈ Lexeme.scan t, l.unterminated = false := by
    obtain ⟨hbrackets, hends⟩ := nothing_open_of_statements h
    exact ⟨hbrackets, all_terminated hends⟩
  refine ⟨?missing, ?finished, ?unclosed⟩
  case missing =>
    rintro ⟨position, h⟩
    obtain ⟨-, c, hsplit⟩ := committing_eq_missingDelimiter_iff.1 h
    rw [hsplit] at hfaithful
    -- the depth counts the open brackets and one more for an open literal
    obtain ⟨stack, hstack, hpos⟩ := hfaithful
    refine ⟨stack, (openBrackets_eq t).trans hstack, ?_⟩
    by_cases hends : endsOpen t
    · exact .inr hends
    · refine .inl (List.ne_nil_of_length_pos ?_)
      rw [endsOpen_eq] at hends
      simpa [hends] using hpos
  case finished =>
    rintro (h | ⟨message, h⟩)
    · obtain ⟨spans, hsplit⟩ := isComplete_committing_iff.1 h
      exact hcomplete spans hsplit
    · obtain ⟨e, found, hsplit, herror⟩ := committing_eq_violation_iff.1 h
      have hposition : found.elim (Text.size t) (·.start) = Text.size t :=
        (SyntaxError.violation.inj herror).2
      cases found with
      | none =>
        rw [hsplit] at hfaithful
        refine ⟨(openBrackets_eq t).trans hfaithful.1, all_terminated ?_⟩
        rw [endsOpen_eq]
        simpa using hfaithful.2
      | some x =>
        -- A token begins before the end of the text.
        have hbounds := TokenRow.bounds_of_mem (mem_tokens_of_violation hsplit)
        have hstart : x.start = Text.size t := hposition
        omega
  case unclosed =>
    intro hopen
    -- with something left open there are no statements, in whatever mode they are asked for
    have hnone (spans : List Span) : split t ≠ .statements spans := by
      intro hsplit
      obtain ⟨hbrackets, hterminated⟩ := hcomplete spans hsplit
      rcases hopen with h | ⟨l, hl, hu⟩
      · exact h hbrackets
      · exact absurd hu (by simp [hterminated l hl])
    constructor
    · intro h
      obtain ⟨spans, hsplit⟩ := isComplete_probing_iff.1 h
      exact hnone spans hsplit
    · intro h
      obtain ⟨spans, hsplit⟩ := isComplete_committing_iff.1 h
      exact hnone spans hsplit

/-- A parenthesis alone, and a pair of them. -/
theorem delimiters_exact_parentheses :
    (∃ stack, openBrackets ['('] = some stack ∧ (stack ≠ [] ∨ endsOpen ['('])) ∧
    (openBrackets ['(', ')'] = some [] ∧
      ∀ l ∈ Lexeme.scan ['(', ')'], l.unterminated = false) ∧
    ¬ (parse ['('] .probing).IsComplete ∧ ¬ (parse ['('] .committing).IsComplete :=
  ⟨(delimiters_exact ['(']).1 ⟨1, by decide +kernel⟩,
    (delimiters_exact ['(', ')']).2.1
      (.inl (isComplete_committing_iff.2 ⟨[⟨0, 2⟩], by decide +kernel⟩)),
    (delimiters_exact ['(']).2.2 (.inl (by decide +kernel))⟩

end StatementReader
