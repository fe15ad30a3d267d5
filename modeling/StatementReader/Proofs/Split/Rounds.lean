import StatementReader.Grammar.Split
import StatementReader.Proofs.Rule.Progress

/-!
# The rounds of reading statements

`readFrom` reads one statement a round. The equations here say what one round amounts to, and
`Rounds` is the course of all of them, for proofs that follow it.
-/

namespace StatementReader
namespace Split

section

variable {openLiteral : Bool} {count c : Nat} {s s' : State} {t : Token} {ts : List Token}
  {stop : Stop} {e : Expected} {x : Option Token}

/-! ### Answers -/

/-- At the end of the tokens nothing is found to be wrong. -/
theorem atEnd_ne_violation : atEnd openLiteral c ≠ .violation e x := by
  cases openLiteral <;> simp [atEnd]

/-- A text is divided at its end, unless a literal is open. -/
theorem atEnd_eq_statements_iff {spans : List Span} :
    atEnd openLiteral c = .statements spans ↔ openLiteral = false ∧ spans = [] := by
  cases openLiteral <;> simp [atEnd, eq_comm]

/-- Where parsing has stopped a text is not divided. -/
theorem ofStop_ne_statements {spans : List Span} : ofStop c stop ≠ .statements spans := by
  cases stop <;> simp [ofStop]

/-- A violation of the text is that of the statement. -/
theorem ofStop_eq_violation_iff : ofStop c stop = .violation e x ↔ stop = .violation e x := by
  cases stop <;> simp [ofStop]

/-- A statement in front does not change what is found to be wrong behind it. -/
theorem cons_eq_violation_iff {span : Span} {r : Split} :
    r.cons span = .violation e x ↔ r = .violation e x := by
  cases r <;> simp [cons]

/-- Nor does it change that something is open. -/
theorem cons_eq_unterminated_iff {span : Span} {r : Split} {n : Nat} :
    r.cons span = .unterminated n ↔ r = .unterminated n := by
  cases r <;> simp [cons]

/-- And it comes before the statements that are found behind it. -/
theorem cons_eq_statements_iff {span : Span} {r : Split} {spans : List Span} :
    r.cons span = .statements spans ↔
      ∃ spans', r = .statements spans' ∧ spans = span :: spans' := by
  cases r <;> simp [cons, eq_comm]

/-! ### One round -/

/-- Skipping semicolons leaves the end of what was there. -/
theorem skipSemicolons_suffix (s : State) : (skipSemicolons s).rest <:+ s.rest :=
  List.dropWhile_suffix _

/-- The statement that is read next makes the tokens fewer, so that a bound on the number of rounds
that was good before it is good after it. -/
theorem length_rest_lt_of_readStatement (hx : (skipSemicolons s).rest = t :: ts)
    (hok : Rule.readStatement (skipSemicolons s) = .ok s') :
    s'.rest.length < s.rest.length :=
  calc s'.rest.length
    _ < (skipSemicolons s).rest.length := Rule.takes_readStatement hok (by simp [hx])
    _ ≤ s.rest.length := (skipSemicolons_suffix s).length_le

/-- With semicolons only, the text is at its end. -/
theorem readFrom_of_finished (h : (skipSemicolons s).rest = []) :
    readFrom openLiteral count c s = atEnd openLiteral c := by
  cases count with
  | zero => rfl
  | succ count => simp only [readFrom, h]

/-- A statement that cannot be read stops the division. -/
theorem readFrom_of_stopped (h : (skipSemicolons s).rest = t :: ts)
    (hs : Rule.readStatement (skipSemicolons s) = .error stop) :
    readFrom openLiteral (count + 1) c s = ofStop c stop := by
  simp only [readFrom, h, hs]

/-- So does a statement that is followed by something on its line. -/
theorem readFrom_of_unseparated (h : (skipSemicolons s).rest = t :: ts)
    (hs : Rule.readStatement (skipSemicolons s) = .ok s') (hsep : separated s' = false) :
    readFrom openLiteral (count + 1) c s = ofStop s'.lastStop (s'.stop .separator) := by
  simp only [readFrom, h, hs, hsep, Bool.false_eq_true, if_false]

/-- Any other statement is the first one, and the division goes on behind it. -/
theorem readFrom_of_separated (h : (skipSemicolons s).rest = t :: ts)
    (hs : Rule.readStatement (skipSemicolons s) = .ok s') (hsep : separated s') :
    readFrom openLiteral (count + 1) c s =
      (readFrom openLiteral count s'.lastStop s').cons ⟨t.start, s'.lastStop⟩ := by
  simp only [readFrom, h, hs, hsep, if_true]

end

/-! ### All rounds -/

/-- The course of reading statements from a state, with the answer. -/
inductive Rounds (openLiteral : Bool) : Nat → Nat → State → Split → Prop
  | spent {c s} : Rounds openLiteral 0 c s (atEnd openLiteral c)
  | finished {count c s} : (skipSemicolons s).rest = [] →
      Rounds openLiteral (count + 1) c s (atEnd openLiteral c)
  | stopped {count c s t ts stop} : (skipSemicolons s).rest = t :: ts →
      Rule.readStatement (skipSemicolons s) = .error stop →
      Rounds openLiteral (count + 1) c s (ofStop c stop)
  | unseparated {count c s t ts s'} : (skipSemicolons s).rest = t :: ts →
      Rule.readStatement (skipSemicolons s) = .ok s' → separated s' = false →
      Rounds openLiteral (count + 1) c s (ofStop s'.lastStop (s'.stop .separator))
  | again {count c s t ts s' r} : (skipSemicolons s).rest = t :: ts →
      Rule.readStatement (skipSemicolons s) = .ok s' → separated s' →
      Rounds openLiteral count s'.lastStop s' r →
      Rounds openLiteral (count + 1) c s (r.cons ⟨t.start, s'.lastStop⟩)

/-- Every division is made in such rounds. -/
theorem rounds_readFrom (openLiteral : Bool) (count c : Nat) (s : State) :
    Rounds openLiteral count c s (readFrom openLiteral count c s) := by
  induction count generalizing c s with
  | zero => exact .spent
  | succ count ih =>
    -- what a round comes to is decided by the tokens, by how the statement is read, and by what
    -- follows it
    cases h : (skipSemicolons s).rest with
    | nil =>
      rw [readFrom_of_finished h]
      exact .finished h
    | cons t ts =>
      cases hs : Rule.readStatement (skipSemicolons s) with
      | error stop =>
        rw [readFrom_of_stopped h hs]
        exact .stopped h hs
      | ok s' =>
        cases hsep : separated s' with
        | false =>
          rw [readFrom_of_unseparated h hs hsep]
          exact .unseparated h hs hsep
        | true =>
          rw [readFrom_of_separated h hs hsep]
          exact .again h hs hsep (ih _ _)

/-- With no tokens left there is no round. -/
theorem Rounds.of_rest_nil {openLiteral : Bool} {count c : Nat} {s : State} {r : Split}
    (h : Rounds openLiteral count c s r) (hs : s.rest = []) : r = atEnd openLiteral c := by
  have hskip : (skipSemicolons s).rest = [] := by simp [skipSemicolons, hs]
  cases h with
  | spent => rfl
  | finished => rfl
  | stopped hx => cases hskip.symm.trans hx
  | unseparated hx => cases hskip.symm.trans hx
  | again hx => cases hskip.symm.trans hx

/-- A token objected to was there. -/
theorem Rounds.found_mem {openLiteral : Bool} {count c : Nat} {s : State} {r : Split} {e : Expected}
    {x : Token} (h : Rounds openLiteral count c s r) (hr : r = .violation e (some x)) :
    x ∈ s.rest := by
  -- what is found is left by the semicolons and statements before it
  induction h with
  | spent => exact absurd hr atEnd_ne_violation
  | finished => exact absurd hr atEnd_ne_violation
  | stopped _ hs =>
    rw [ofStop_eq_violation_iff.1 hr] at hs
    exact (skipSemicolons_suffix _).mem (Rule.forward_readStatement.found_mem hs)
  | unseparated _ hs =>
    have hx := State.mem_rest_of_stop (ofStop_eq_violation_iff.1 hr)
    exact (skipSemicolons_suffix _).mem ((Rule.forward_readStatement.rest_suffix hs).mem hx)
  | again _ hs _ _ ih =>
    have hx := ih (cons_eq_violation_iff.1 hr)
    exact (skipSemicolons_suffix _).mem ((Rule.forward_readStatement.rest_suffix hs).mem hx)

end Split
end StatementReader
