import StatementReader.Proofs.Parse.Delimiters
import StatementReader.Proofs.Split.Rows

/-!
# The texts that are accepted

A submitted text is complete if its tokens are a row of statements of the grammar, no literal or
comment is left open, and nothing is nested too deeply. The last condition is the only one that the
grammar does not have: a text of the grammar that is turned down is turned down for its nesting.
-/

namespace StatementReader

open Computability

/-- Rows of statements of at most as many levels as the reader has, where no choice is left open. -/
def shallowTexts : Phrase := Phrase.statements shallowStatement

/-! ### Accepted texts -/

section

variable {t : Text}

theorem split_of_terminated (h : (TokenRow.ofText t).openLiteral = false) :
    split t = Split.readFrom false ((TokenRow.ofText t).tokens.length + 1) 0
      ⟨(TokenRow.ofText t).tokens, 0, 0, [true]⟩ := by
  simp [split, h]

/-- The statements of a text are the rows of its tokens that are statements. -/
theorem split_eq_statements_iff {spans : List Span} : split t = .statements spans ↔
    (TokenRow.ofText t).openLiteral = false ∧
      ∃ us, Phrase.Row shallowStatement us (TokenRow.ofText t).tokens ∧
        spans = us.map Token.span := by
  constructor
  · intro h
    exact (Split.rounds_readFrom _ _ _ _).exists_row (fun ms hms => sound_readStatement hms) h rfl
      (Nat.lt_succ_self _)
  · rintro ⟨hopen, us, hrow, rfl⟩
    -- a shallow statement is read in full whenever something follows that may end it
    have hread (u : List Token) (hu : u ∈ shallowStatement) (s : State) (r : List Token)
        (hms : s.lineModes.headD true = true) (hr : s.rest = u ++ r)
        (hnext : Next Token.endsStatement r) :
        (∃ s', Rule.readStatement s = .ok s' ∧ s'.rest = r) ∨
          False ∧ ∃ t, Rule.readStatement s = .error (.violation .shallowerNesting (some t)) :=
      .inl (readStatement_of_mem_shallow hu hms hr hnext)
    rw [split_of_terminated hopen]
    rcases Split.readFrom_wholeRow begins_shallowStatement hread
      (s := ⟨(TokenRow.ofText t).tokens, 0, 0, [true]⟩) hrow rfl (Nat.lt_succ_self _) with h | h
    · exact h
    · exact h.1.elim

/-- A text of the grammar is read, or refused for its nesting. -/
theorem statements_or_shallowerNesting (hopen : (TokenRow.ofText t).openLiteral = false)
    (h : (TokenRow.ofText t).tokens ∈ texts) : (∃ spans, split t = .statements spans) ∨
      ∃ x, split t = .violation .shallowerNesting (some x) := by
  obtain ⟨us, hrow⟩ := h
  -- a statement of the grammar is read in full, or refused for being too deep
  have hread (u : List Token) (hu : u ∈ grammar.statement) (s : State) (r : List Token)
      (hms : s.lineModes.headD true = true) (hr : s.rest = u ++ r)
      (hnext : Next Token.endsStatement r) :
      (∃ s', Rule.readStatement s = .ok s' ∧ s'.rest = r) ∨
        True ∧ ∃ t, Rule.readStatement s = .error (.violation .shallowerNesting (some t)) :=
    (readStatement_of_mem_grammar hu hms hr hnext).imp_right fun h => ⟨trivial, h⟩
  have hbegins : grammar.statement.Begins Token.startsStatement :=
    (Rule.begins_statement readable_greedy).mono statement_grammar_le
  rw [split_of_terminated hopen]
  rcases Split.readFrom_wholeRow hbegins hread
    (s := ⟨(TokenRow.ofText t).tokens, 0, 0, [true]⟩) hrow rfl (Nat.lt_succ_self _) with h | h
  · exact .inl ⟨_, h⟩
  · exact .inr h.2

theorem exists_statements_iff : (∃ spans, split t = .statements spans) ↔
    (TokenRow.ofText t).openLiteral = false ∧ (TokenRow.ofText t).tokens ∈ shallowTexts := by
  constructor
  · rintro ⟨spans, h⟩
    obtain ⟨hopen, us, hrow, -⟩ := split_eq_statements_iff.1 h
    exact ⟨hopen, us, hrow⟩
  · rintro ⟨hopen, us, hrow⟩
    exact ⟨_, split_eq_statements_iff.2 ⟨hopen, us, hrow, rfl⟩⟩

/-- Rows of statements where no choice is left open are rows of statements. -/
theorem shallowTexts_le : shallowTexts ≤ texts :=
  Phrase.statements_mono fun _ hu => mem_statement_grammar_iff.2 ⟨_, hu⟩

end

/-- A text is accepted if its tokens are a row of statements of at most 256 levels and no literal or
comment is left open. These rows are all of the grammar's but for the limit on the levels, and a
text that exceeds the limit is turned down for that reason. -/
theorem accepts_grammar (t : Text) :
    ((parse t .committing).IsComplete ↔
      endsOpen t = false ∧ (TokenRow.ofText t).tokens ∈ shallowTexts) ∧
    (shallowTexts ≤ texts ∧ ∀ u : List Token,
      u ∈ grammar.statement ↔ ∃ n, u ∈ (Shapes.level n).forget.statement) ∧
    ((TokenRow.ofText t).tokens ∈ texts → endsOpen t = false →
      (parse t .committing).IsComplete ∨ ∃ x ∈ (TokenRow.ofText t).tokens,
        parse t .committing = .failure (.ofViolation t .shallowerNesting (some x))) := by
  rw [endsOpen_eq, isComplete_committing_iff]
  refine ⟨exists_statements_iff, ⟨shallowTexts_le, fun u => mem_statement_grammar_iff⟩, ?_⟩
  intro htexts hopen
  rcases statements_or_shallowerNesting hopen htexts with h | ⟨x, h⟩
  · exact .inl h
  · exact .inr ⟨x, mem_tokens_of_violation h, committing_of_violation h⟩

/-! ### Function literals in one another -/

/-- The tokens of `x => y => z`, with any number of parameters. -/
def isLiterals : List Token → Bool
  | [] => false
  | [t] => t.kind == .ident
  | t :: a :: u => t.kind == .ident && a.isMark Rule.arrow && isLiterals u

theorem name_le_grammar (lineMode : Bool) : Phrase.name ≤ grammar (.expr lineMode) := by
  have hoperand : Phrase.name ≤ grammar.operand lineMode :=
    calc Phrase.name ≤ grammar.simple :=
          le_add_self.trans (le_self_add.trans (le_self_add.trans (le_self_add.trans le_self_add)))
      _ ≤ grammar.simple + grammar.creation lineMode := le_self_add
      _ ≤ grammar.operand lineMode := le_mul_of_one_le_right' one_le_kstar
  -- there need be no sign, no operator and no assignment
  have hsigned : grammar.operand lineMode ≤ Phrases.signed (grammar.operand lineMode) :=
    le_mul_of_one_le_left' (Phrase.one_le_opt _)
  have hoperation : Phrase.name ≤ Phrases.operation lineMode (grammar.operand lineMode) :=
    (hoperand.trans hsigned).trans (le_mul_of_one_le_right' one_le_kstar)
  calc Phrase.name ≤ Phrases.operation lineMode (grammar.operand lineMode) := hoperation
    _ ≤ grammar.exprBody lineMode :=
        (le_mul_of_one_le_right' (Phrase.one_le_opt _)).trans le_add_self
    _ = grammar (.expr lineMode) := congrFun body_grammar (.expr lineMode)

theorem mem_grammar_of_isLiterals {u : List Token} (h : isLiterals u) (lineMode : Bool) :
    u ∈ grammar (.expr lineMode) := by
  fun_induction isLiterals u with
  | case1 => cases h
  | case2 t => exact name_le_grammar lineMode ⟨t, rfl, h⟩
  | case3 t a u ih =>
    simp only [Bool.and_eq_true] at h
    -- a name and an arrow in front of an expression make a function
    have hliteral : Phrase.name * Phrase.punct Rule.arrow * grammar (.expr lineMode) ≤
        grammar (.expr lineMode) :=
      calc Phrase.name * Phrase.punct Rule.arrow * grammar (.expr lineMode)
          ≤ grammar.exprBody lineMode := le_add_self.trans le_self_add
        _ = grammar (.expr lineMode) := congrFun body_grammar (.expr lineMode)
    have ht : [t] ∈ Phrase.name := ⟨t, rfl, h.1.1⟩
    have ha : [a] ∈ Phrase.punct Rule.arrow := ⟨a, rfl, h.1.2⟩
    exact hliteral (Language.append_mem_mul (Language.append_mem_mul ht ha) (ih h.2))

/-- More function literals in one another than there are levels. -/
def deepLiterals : Text := (List.replicate 256 "x=>".toList).flatten ++ ['x']

theorem deepLiterals_mem_texts : (TokenRow.ofText deepLiterals).tokens ∈ texts := by
  have hliterals : isLiterals (TokenRow.ofText deepLiterals).tokens := by decide +kernel
  have hstatement : (TokenRow.ofText deepLiterals).tokens ∈ grammar.statement :=
    .inr (mem_grammar_of_isLiterals hliterals true)
  have hend : Phrase.Separated [] := fun t ht => by cases ht
  have hrow : Phrase.Row grammar.statement [(TokenRow.ofText deepLiterals).tokens]
      ([] ++ ((TokenRow.ofText deepLiterals).tokens ++ [])) :=
    .cons (Language.nil_mem_kstar _) hstatement hend (.nil (Language.nil_mem_kstar _))
  rw [List.nil_append, List.append_nil] at hrow
  exact ⟨_, hrow⟩

/-- The grammar alone does not tell which texts are accepted. -/
theorem deepLiterals_refused : endsOpen deepLiterals = false ∧
    (TokenRow.ofText deepLiterals).tokens ∈ texts ∧
    ¬ (parse deepLiterals .committing).IsComplete := by
  refine ⟨by decide +kernel, deepLiterals_mem_texts, fun h => ?_⟩
  obtain ⟨spans, h⟩ := isComplete_committing_iff.1 h
  have hsplit : split deepLiterals =
      .violation .shallowerNesting (some ⟨.ident, ['x'], 768, 769, false⟩) := by decide +kernel
  rw [hsplit] at h
  cases h

/-- A name alone is accepted, and the function literals are turned down for their nesting. -/
theorem accepts_grammar_literals : (TokenRow.ofText ['x']).tokens ∈ shallowTexts ∧
    ((parse deepLiterals .committing).IsComplete ∨
      ∃ x ∈ (TokenRow.ofText deepLiterals).tokens, parse deepLiterals .committing =
        .failure (.ofViolation deepLiterals .shallowerNesting (some x))) :=
  ⟨((accepts_grammar ['x']).1.1 (isComplete_committing_iff.2 ⟨[⟨0, 1⟩], by decide +kernel⟩)).2,
    (accepts_grammar deepLiterals).2.2 deepLiterals_mem_texts (by decide +kernel)⟩

end StatementReader
