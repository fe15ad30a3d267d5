import StatementReader.Proofs.Rule.Nesting

/-!
# Rules at the end of the tokens

Where no token is left, a rule stops or changes nothing (`Rule.run_at_end`). So a repetition that
goes on there would go on for ever. Most repetitions do not, because their question is about a token
(`Look.positive`). The statements of a block are read as long as no brace closes it, and none does
at the end of the tokens. There it is the statement that stops (`Rule.stopsAtEnd`).

A repetition of that kind stops for another reason than the bounded one of `Rule.run`, which leaves
it to the closing brace to stop. Both stop because the brace is open, so it makes no difference in
the end. `Rule.halts` checks that it does not: such a repetition is followed by a rule that stops as
well, with a bracket open around both.
-/

namespace StatementReader

namespace Look

/-- The question is answered in the negative where no token is left. -/
def positive : Look → Bool
  | mark _ | keyword _ | ident | literal | sign | infixOperator | lambda | markNotBefore _ _ => true
  | sameLine look => look.positive
  | either look other => look.positive && other.positive
  | no _ => false

/-- At the end no look for something succeeds. -/
theorem holds_at_end {look : Look} (h : look.positive) {s : State} (hs : s.rest = []) :
    look.holds s = false := by
  induction look with
  | mark | keyword | ident | literal | sign | infixOperator | lambda | markNotBefore =>
    simp [holds, State.atMark, State.atIdent, hs]
  | sameLine look ih => simp [holds, ih h]
  | either look other ih₁ ih₂ =>
    obtain ⟨h₁, h₂⟩ := Bool.and_eq_true_iff.1 h
    simp [holds, ih₁ h₁, ih₂ h₂]
  | no => cases h

end Look

namespace Rule

/-! ### The end of the tokens -/

/-- Nothing can be read by the rule where no token is left. -/
def stopsAtEnd : Rule → Bool
  | refuse _ | mark _ | ident | opening _ _ | closing _ | call _ => true
  | empty | token | repeatWhile _ _ | endOfStatement _ _ => false
  | seq first second => first.stopsAtEnd || second.stopsAtEnd
  | branch look yes no => (look.positive || yes.stopsAtEnd) && no.stopsAtEnd

/-- The results that are possible where no token is left. -/
def EndResult (s : State) (r : Except Stop State) : Prop := r = .ok s ∨ ∃ e, r = .error (s.stop e)

variable {calls : Construct → Production} {s : State}

/-- At the end there is no mark. -/
theorem not_atMark_at_end (hs : s.rest = []) (text : Text) : s.atMark text = false := by
  simp [State.atMark, hs]

/-- A rule changes nothing at the end of the tokens. -/
theorem run_at_end (hs : s.rest = []) (hc : ∀ c, EndResult s (calls c s)) (rule : Rule) :
    EndResult s (run calls rule s) := by
  induction rule with
  | empty => exact .inl rfl
  | refuse e => exact .inr ⟨e, rfl⟩
  | token => exact .inl (congrArg _ (State.advance_of_rest_nil hs))
  | mark text => exact .inr ⟨_, if_neg (by simp [not_atMark_at_end hs])⟩
  | ident => exact .inr ⟨_, if_neg (by simp [State.atIdent, hs])⟩
  | opening text lineMode =>
    exact .inr ⟨_, run_opening_eq_error.2 ⟨not_atMark_at_end hs text, rfl⟩⟩
  | closing text => exact .inr ⟨_, run_closing_eq_error.2 ⟨not_atMark_at_end hs text, rfl⟩⟩
  | seq first second ih₁ ih₂ =>
    rcases ih₁ with h₁ | ⟨e, h₁⟩
    · -- the first rule leaves the state as it is, so the second one begins where it did
      have hsecond : run calls (seq first second) s = run calls second s := by
        show (run calls first s >>= run calls second) = _
        rw [h₁]
        rfl
      rw [hsecond]
      exact ih₂
    · exact .inr ⟨e, run_seq_eq_error.2 (.inl h₁)⟩
  | branch look yes no ih₁ ih₂ =>
    rw [run_branch]
    split
    · exact ih₁
    · exact ih₂
  | repeatWhile look round =>
    -- the bound is the number of tokens left, which is none
    rw [run, hs]
    exact .inl rfl
  | endOfStatement look e =>
    rw [run]
    split
    · exact .inl rfl
    · exact .inr ⟨e, rfl⟩
  | call c => exact hc c

/-- A rule that cannot read anything at the end of the tokens stops there. -/
theorem run_eq_stop (hs : s.rest = []) (hc : ∀ c, ∃ e, calls c s = .error (s.stop e)) {rule : Rule}
    (h : rule.stopsAtEnd) : ∃ e, run calls rule s = .error (s.stop e) := by
  -- a rule that takes something finds nothing, and says what it expected
  induction rule with
  | empty | token | repeatWhile _ _ | endOfStatement _ _ => cases h
  | refuse e => exact ⟨e, rfl⟩
  | mark text => exact ⟨_, if_neg (by simp [not_atMark_at_end hs])⟩
  | ident => exact ⟨_, if_neg (by simp [State.atIdent, hs])⟩
  | opening text lineMode =>
    exact ⟨_, run_opening_eq_error.2 ⟨not_atMark_at_end hs text, rfl⟩⟩
  | closing text => exact ⟨_, run_closing_eq_error.2 ⟨not_atMark_at_end hs text, rfl⟩⟩
  | seq first second ih₁ ih₂ =>
    rcases Bool.or_eq_true_iff.1 h with h | h
    · obtain ⟨e, h₁⟩ := ih₁ h
      exact ⟨e, run_seq_eq_error.2 (.inl h₁)⟩
    · -- the first rule stops, or the second one stops at the same place
      rcases run_at_end hs (fun c => .inr (hc c)) first with h₁ | ⟨e, h₁⟩
      · obtain ⟨e, h₂⟩ := ih₂ h
        exact ⟨e, run_seq_eq_error.2 (.inr ⟨s, h₁, h₂⟩)⟩
      · exact ⟨e, run_seq_eq_error.2 (.inl h₁)⟩
  | branch look yes no ih₁ ih₂ =>
    obtain ⟨hyes, hno⟩ := Bool.and_eq_true_iff.1 h
    rw [run_branch]
    split
    · next hlook =>
      refine ih₁ ((Bool.or_eq_true_iff.1 hyes).resolve_left fun hpositive => ?_)
      rw [Look.holds_at_end hpositive hs] at hlook
      cases hlook
    · exact ih₂ hno
  | call c => exact hc c

theorem stopsAtEnd_construct (c : Construct) : (construct c).stopsAtEnd := by
  cases c <;> decide

/-- There is no type and no expression at the end of the tokens. -/
theorem read_eq_stop (levels : Nat) (c : Construct) (hs : s.rest = []) :
    ∃ e, read levels c s = .error (s.stop e) := by
  induction levels generalizing c with
  | zero => exact ⟨.shallowerNesting, rfl⟩
  | succ levels ih => exact run_eq_stop hs ih (stopsAtEnd_construct c)

/-! ### Repetitions that end -/

/-- The rule ends with a repetition that would go on at the end of the tokens. -/
def wavers : Rule → Bool
  | seq _ second => second.wavers
  | branch _ yes no => yes.wavers || no.wavers
  | repeatWhile look _ => !look.positive
  | _ => false

/-- As many brackets are open after the rule as before. -/
def balanced (rule : Rule) : Bool := (nest 0 [] rule).any (·.2.isEmpty)

/-- After the rule a bracket is open, where `inside` tells that one is open before it. -/
def staysInside (inside : Bool) : Rule → Bool
  | opening _ _ => true
  | rule => inside && rule.balanced

/-- Every round of the rule's repetitions takes a token or stops, also at the end of the tokens. If
it stops there, then what comes next would have stopped as well. -/
def halts (inside : Bool) : Rule → Bool
  | seq first second => first.halts inside && second.halts (first.staysInside inside) &&
      (!first.wavers || inside && first.balanced && second.stopsAtEnd)
  | branch _ yes no => yes.halts inside && no.halts inside
  | repeatWhile look round => round.takes && round.halts false && !round.wavers &&
      (look.positive || round.stopsAtEnd)
  | _ => true

theorem halts_statement : statement.halts false ∧ statement.wavers = false := by decide

theorem halts_construct (c : Construct) :
    (construct c).halts false ∧ (construct c).wavers = false := by
  cases c <;> decide

theorem holds_of_balanced {levels : Nat} {rule : Rule} (h : rule.balanced) {m : State}
    (hrun : run (read levels) rule s = .ok m) : m.Holds s.depth s.lineModes [] := by
  obtain ⟨⟨k, frames⟩, hnest, hempty⟩ := (Option.any_eq_true _ _).1 h
  obtain rfl : frames = [] := List.isEmpty_iff.1 hempty
  have hs : s.Holds s.depth s.lineModes ([] ++ []) := ⟨rfl, rfl⟩
  have hnested := nested_run (fun c {_ _} => nested_read levels c) hnest hs (State.plainFor_zero s)
  rw [hrun] at hnested
  exact hnested.1

theorem depth_of_balanced {levels : Nat} {rule : Rule} (h : rule.balanced) {m : State}
    (hrun : run (read levels) rule s = .ok m) : m.depth = s.depth :=
  (holds_of_balanced h hrun).depth

/-- A bracket is open after the rule, if the text of the rule says so. -/
theorem depth_pos_of_staysInside {levels : Nat} {inside : Bool} {rule : Rule}
    (h : rule.staysInside inside) (hinside : inside → 0 < s.depth) {m : State}
    (hrun : run (read levels) rule s = .ok m) : 0 < m.depth := by
  have hkept {rule : Rule} (h : inside && rule.balanced)
      (hrun : run (read levels) rule s = .ok m) : 0 < m.depth := by
    obtain ⟨hopen, hbalanced⟩ := Bool.and_eq_true_iff.1 h
    rw [depth_of_balanced hbalanced hrun]
    exact hinside hopen
  -- only an opening bracket goes deeper, and every other rule stays where it was
  cases rule with
  | opening text lineMode =>
    obtain ⟨-, rfl⟩ := run_opening_eq_ok.1 hrun
    exact Nat.succ_pos _
  | empty | refuse _ | token | mark _ | ident | closing _ | seq _ _ | branch _ _ _
  | repeatWhile _ _ | endOfStatement _ _ | call _ => exact hkept h hrun

end Rule
end StatementReader
