import StatementReader.Proofs.Parse.Outcomes
import StatementReader.Proofs.Rule.Extension
import StatementReader.Proofs.Split.Rounds
import StatementReader.Proofs.Text.Append
import StatementReader.Proofs.Token.LineBreak

/-!
# Errors that more lines cannot mend

A submitted text is turned down for a token out of place, at that token, or for its end, at the end.
An error of the first kind is final: the same error is found whatever follows on the next lines. An
error of the second kind, or a missing delimiter, may be mended.

A text that is turned down at a token was read up to that token without coming to its end, so the
productions that read it are firm there. What may be different behind that token, the number of
tokens and a literal that is closed after all, does not matter to them.
-/

namespace StatementReader

open Text

namespace Split

variable {more : List Token} {s t : State} {e : Expected} {y : Token}

theorem skipSemicolons_extends (h : s.Extends more t) (hs : (skipSemicolons s).rest ≠ []) :
    (skipSemicolons s).Extends more (skipSemicolons t) := by
  refine ⟨?_, h.lineModes⟩
  have hne : (s.rest.dropWhile (·.isMark Rule.semicolon)).isEmpty = false := by
    rw [List.isEmpty_eq_false_iff]
    exact hs
  simp [skipSemicolons, h.rest, List.dropWhile_append, hne]

theorem separated_extends (h : s.Extends more t) (hs : s.rest ≠ []) :
    separated t = separated s := by
  have ht : t.rest ≠ [] := by simp [h.rest, hs]
  simp only [separated, List.isEmpty_eq_false_iff.2 hs, List.isEmpty_eq_false_iff.2 ht, h.atMark hs,
    h.head? hs]

/-- A token out of place is out of place whatever comes after it. -/
theorem Rounds.extends {openLiteral openLiteral' : Bool} {count count' c c' : Nat} {r : Split}
    (hrounds : Rounds openLiteral count c s r) (hr : r = .violation e (some y))
    (h : s.Extends more t) (hcount : count ≤ count') :
    readFrom openLiteral' count' c' t = .violation e (some y) := by
  -- The tokens cannot end before a statement, nor after one: there would be no violation then.
  induction hrounds generalizing t c' count' with
  | spent => exact absurd hr atEnd_ne_violation
  | finished => exact absurd hr atEnd_ne_violation
  | @stopped count c s x xs stop hx hs =>
    obtain ⟨count', rfl⟩ := Nat.exists_eq_add_of_le' (Nat.le_trans (Nat.succ_pos count) hcount)
    have hext := skipSemicolons_extends h (by simp [hx])
    have hx' : (skipSemicolons t).rest = x :: (xs ++ more) := by rw [hext.rest, hx]; rfl
    rw [ofStop_eq_violation_iff.1 hr] at hs
    rw [readFrom_of_stopped hx' (Rule.firm_readStatement.violation hext hs)]
    rfl
  | @unseparated count c s x xs s' hx hs hsep =>
    obtain ⟨count', rfl⟩ := Nat.exists_eq_add_of_le' (Nat.le_trans (Nat.succ_pos count) hcount)
    have hext := skipSemicolons_extends h (by simp [hx])
    have hx' : (skipSemicolons t).rest = x :: (xs ++ more) := by rw [hext.rest, hx]; rfl
    -- a token is there that does not separate, and it is the one the violation is at
    have hne : s'.rest ≠ [] := fun hnil => by simp [separated, hnil] at hsep
    obtain ⟨t', ht', hext'⟩ := Rule.firm_readStatement.ok hext hs hne
    rw [readFrom_of_unseparated hx' ht' ((separated_extends hext' hne).trans hsep),
      hext'.stop hne, ofStop_eq_violation_iff.1 hr]
    rfl
  | @again count c s x xs s' r hx hs hsep hrounds ih =>
    obtain ⟨count', rfl⟩ := Nat.exists_eq_add_of_le' (Nat.le_trans (Nat.succ_pos count) hcount)
    have hext := skipSemicolons_extends h (by simp [hx])
    have hx' : (skipSemicolons t).rest = x :: (xs ++ more) := by rw [hext.rest, hx]; rfl
    have hr' := cons_eq_violation_iff.1 hr
    -- the violation comes later, so there are tokens left after this statement
    have hne : s'.rest ≠ [] := by
      intro hnil
      have hend := hrounds.of_rest_nil hnil
      exact atEnd_ne_violation (hend.symm.trans hr')
    obtain ⟨t', ht', hext'⟩ := Rule.firm_readStatement.ok hext hs hne
    rw [readFrom_of_separated hx' ht' ((separated_extends hext' hne).trans hsep),
      ih hr' hext' (Nat.le_of_succ_le_succ hcount)]
    rfl

end Split

/-- A text with a token out of place has it out of place whatever follows on the next lines. -/
theorem split_append_break {a : Text} {e : Expected} {y : Token}
    (h : split a = .violation e (some y)) (b : Text) :
    split (a ++ '\n' :: b) = .violation e (some y) := by
  obtain ⟨more, hmore⟩ := TokenRow.exists_tokens_append_break a b
  have hrounds := Split.rounds_readFrom (TokenRow.ofText a).openLiteral
    ((TokenRow.ofText a).tokens.length + 1) 0
    ⟨(TokenRow.ofText a).tokens, 0, if (TokenRow.ofText a).openLiteral then 1 else 0, [true]⟩
  refine hrounds.extends h ⟨hmore, rfl⟩ ?_
  rw [hmore, List.length_append]
  omega

theorem lineColumn_append {a : Text} {n : Nat} (h : n ≤ size a) (b : Text) :
    lineColumn (a ++ b) n = lineColumn a n := by
  unfold lineColumn
  rw [upTo_append_of_le h]

/-- The message for an error at a token does not depend on what follows. -/
theorem SyntaxError.ofViolation_append {a : Text} {y : Token} (h : y.start ≤ size a) (e : Expected)
    (b : Text) : ofViolation (a ++ b) e (some y) = ofViolation a e (some y) := by
  have hdescribe : describe (a ++ b) e (some y) y.start = describe a e (some y) y.start := by
    unfold describe
    rw [lineColumn_append h]
  exact congrArg (violation · y.start) hdescribe

/-- The rejection of a text at one of its tokens is final: with more lines it is rejected with the
same message at the same place. So a text that some lines can complete is complete, lacks a
delimiter, or is rejected at its end. -/
theorem rejection_final (t : Text) :
    (∀ message position, parse t .committing = .failure (.violation message position) →
      position < size t → ∀ s : Text,
        parse (t ++ '\n' :: s) .committing = .failure (.violation message position)) ∧
    ((∃ s : Text, (parse (t ++ '\n' :: s) .committing).IsComplete) →
      (parse t .committing).IsComplete ∨
      (∃ position, parse t .committing = .failure (.missingDelimiter position)) ∨
      ∃ message, parse t .committing = .failure (.violation message (size t))) := by
  have hfinal (message : Text) (position : Nat)
      (h : parse t .committing = .failure (.violation message position))
      (hposition : position < size t) (s : Text) :
      parse (t ++ '\n' :: s) .committing = .failure (.violation message position) := by
    obtain ⟨e, found, hsplit, herror⟩ := committing_eq_violation_iff.1 h
    have hpos : found.elim (size t) (·.start) = position := (SyntaxError.violation.inj herror).2
    cases found with
    | none => exact absurd hposition (by rw [← hpos]; exact Nat.lt_irrefl _)
    -- the violation is at a token, and the same token is found in the longer text
    | some y =>
      have hle : y.start ≤ size t := Nat.le_of_lt (hpos.trans_lt hposition)
      rw [committing_of_violation (split_append_break hsplit s),
        SyntaxError.ofViolation_append hle, herror]
  refine ⟨hfinal, ?_⟩
  rintro ⟨s, words, activeWord, consumed, hcomplete⟩
  cases hsplit : split t with
  | statements spans => exact .inl (isComplete_committing_iff.2 ⟨spans, hsplit⟩)
  | unterminated c => exact .inr (.inl ⟨_, committing_of_unterminated hsplit⟩)
  -- a violation at a token would be final, so this one is at the end
  | violation e found =>
    refine .inr (.inr ?_)
    cases found with
    | none => exact ⟨_, committing_of_violation hsplit⟩
    | some y =>
      cases (committing_of_violation (split_append_break hsplit s)).symm.trans hcomplete

/-- A closing parenthesis is rejected for good, and an opening one may be closed on the next line.
-/
theorem rejection_final_parentheses :
    (∀ s : Text, parse (')' :: '\n' :: s) .committing = .failure
      (.violation "Syntax error at 1:1: expected expression, found ')'".toList 0)) ∧
    ((parse ['('] .committing).IsComplete ∨
      (∃ position, parse ['('] .committing = .failure (.missingDelimiter position)) ∨
      ∃ message, parse ['('] .committing = .failure (.violation message (size ['(']))) :=
  ⟨(rejection_final [')']).1 _ _ (by decide +kernel) (by decide),
    (rejection_final ['(']).2
      ⟨[')'], isComplete_committing_iff.2 ⟨[⟨0, 3⟩], by decide +kernel⟩⟩⟩

end StatementReader
