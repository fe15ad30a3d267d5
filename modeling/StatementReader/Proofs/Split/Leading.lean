import StatementReader.Proofs.Split.Rows

/-!
# The statements before an unfinished one

A text may begin with finished statements and go on with something that is left open. The answer is
then the end of the last finished statement. Here this is said of the tokens: a row `w` consists of
statements and stands before more tokens (`Phrase.Leads`), where another statement is not finished
(`Phrase.Unfinished`), and the answer is the end of `w`.

What may stand behind a statement is asked of all tokens that follow, not of those of `w` only.
Hence the row is judged with the rest in its place. Without the rest it is a row of statements as
well (`Phrase.Leads.row`).
-/

namespace StatementReader

open Computability

namespace Phrase

/-- The row `w` that stands before the tokens `rest` consists of the statements `us`, with
semicolons before each of them, and ends with the last one. Behind each of them there is a
semicolon, a line break, or nothing at all. -/
inductive Leads (S : Phrase) : List (List Token) → List Token → List Token → Prop
  | nil {rest} : Leads S [] [] rest
  | cons {v u us w rest} : v ∈ (punct Rule.semicolon)∗ → u ∈ S → Separated (w ++ rest) →
      Leads S us w rest → Leads S (u :: us) (v ++ (u ++ w)) rest

/-- The row does not begin with a statement that is finished: one behind which there is a semicolon,
another statement on a new line, or nothing at all. -/
def Unfinished (S : Phrase) (rest : List Token) : Prop :=
  ∀ v u r, rest = v ++ (u ++ r) → v ∈ (punct Rule.semicolon)∗ → u ∈ S → Separated r →
    ¬ Next Token.endsStatement r

namespace Leads

variable {S : Phrase} {us : List (List Token)} {w rest : List Token}

theorem row (h : Leads S us w rest) : Row S us w := by
  induction h with
  | nil => exact .nil (Language.nil_mem_kstar _)
  | @cons v u us w rest hv hu hsep _ ih =>
    refine .cons hv hu (fun t ht => hsep t ?_) ih
    -- the next token is that of the row, if there is one
    cases w with
    | nil => cases ht
    | cons t' w => exact ht

/-- Each statement stands somewhere in the row, and what follows it is separated from it. -/
theorem exists_of_mem (h : Leads S us w rest) {u : List Token} (hu : u ∈ us) :
    u ∈ S ∧ ∃ front back, w = front ++ (u ++ back) ∧ Separated (back ++ rest) := by
  induction h with
  | nil => cases hu
  | @cons v u' us w rest hv hu' hsep _ ih =>
    rcases List.mem_cons.1 hu with rfl | hu
    · exact ⟨hu', v, w, rfl, hsep⟩
    · obtain ⟨hS, front, back, rfl, hback⟩ := ih hu
      exact ⟨hS, v ++ (u' ++ front), back, by simp, hback⟩

/-- The row ends where its last statement does. -/
theorem lastStop_eq (h : Leads S us w rest) (hS : ∀ u ∈ S, u ≠ []) {u : List Token}
    (hu : u ∈ us.getLast?) (n : Nat) : Token.lastStop n w = Token.lastStop 0 u := by
  induction h generalizing n with
  | nil => cases hu
  | @cons v u' us w rest hv hu' hsep h ih =>
    rw [Token.lastStop_append, Token.lastStop_append]
    cases h with
    | nil =>
      obtain rfl := Option.some.inj hu
      obtain ⟨x, u', rfl⟩ := List.exists_cons_of_ne_nil (hS u' hu')
      rfl
    | cons => exact ih hu _

end Leads
end Phrase

namespace Split

/-! ### What is read before the end -/

section

variable {S : Phrase} {s s' : State} {v u r rest : List Token}

/-- A statement behind semicolons is what comes next. -/
theorem skipSemicolons_statement (hS : S.Begins Token.startsStatement) (hr : s.rest = v ++ (u ++ r))
    (hv : v ∈ (Phrase.punct Rule.semicolon)∗) (hu : u ∈ S) :
    skipSemicolons s = { s with rest := u ++ r } := by
  obtain ⟨x, u, rfl, hx⟩ := hS u hu
  rw [skipSemicolons_rest hv hr]
  exact skipSemicolons_of_startsStatement hx rfl

/-- No statement is finished where there are only semicolons. -/
theorem unfinished_of_finished (hS : S.Begins Token.startsStatement)
    (h : (skipSemicolons s).rest = []) : Phrase.Unfinished S s.rest := by
  intro v u r hr hv hu _ _
  rw [skipSemicolons_statement hS hr hv hu] at h
  obtain ⟨hnil, -⟩ := List.append_eq_nil_iff.1 h
  exact hS.ne_nil hu hnil

/-- No statement is finished where none can be read. -/
theorem unfinished_of_stopped {stop : Stop} (hms : s.lineModes.headD true = true)
    (h : Rule.readStatement (skipSemicolons s) = .error stop) :
    Phrase.Unfinished shallowStatement s.rest := by
  intro v u r hr hv hu _ hnext
  rw [skipSemicolons_statement begins_shallowStatement hr hv hu] at h
  obtain ⟨s', hs', -⟩ := readStatement_of_mem_shallow hu
    (s := { s with rest := u ++ r }) hms rfl hnext
  cases h.symm.trans hs'

/-- At the end of the tokens a statement is separated from what follows, which is nothing. -/
theorem rest_ne_nil_of_unseparated (h : separated s = false) : s.rest ≠ [] := by
  intro hnil
  rw [separated, hnil] at h
  cases h

theorem ofStop_eq_unterminated_iff {c n : Nat} {stop : Stop} :
    ofStop c stop = .unterminated n ↔ stop = .unterminated ∧ c = n := by
  cases stop <;> simp [ofStop]

end

/-- If something is left open at the end, then the answer is the end of the finished statements that
come first. -/
theorem Rounds.exists_leads {openLiteral : Bool} {count c n : Nat} {s : State} {r : Split}
    (h : Rounds openLiteral count c s r) (hr : r = .unterminated n)
    (hms : s.lineModes.headD true = true) (hcount : s.rest.length < count) :
    ∃ us w rest, s.rest = w ++ rest ∧ Phrase.Leads shallowStatement us w rest ∧
      Phrase.Unfinished shallowStatement rest ∧ n = Token.lastStop c w := by
  induction h with
  | spent => exact absurd hcount (Nat.not_lt_zero _)
  | @finished count c s hx =>
    have hn : n = c := by
      rw [atEnd] at hr
      split at hr <;> cases hr
      rfl
    exact ⟨[], [], s.rest, rfl, .nil, unfinished_of_finished begins_shallowStatement hx, hn⟩
  | @stopped count c s x xs stop hx hstop =>
    obtain ⟨-, rfl⟩ := ofStop_eq_unterminated_iff.1 hr
    exact ⟨[], [], s.rest, rfl, .nil, unfinished_of_stopped hms hstop, rfl⟩
  | @unseparated count c s x xs s' hx hok hsep =>
    -- something is left open only at the end, but there another token was found
    have hstop : s'.stop .separator = .unterminated := (ofStop_eq_unterminated_iff.1 hr).1
    rw [State.stop, if_neg fun hend => rest_ne_nil_of_unseparated hsep hend.1] at hstop
    cases hstop
  | @again count c s x xs s' r hx hok hsep _ ih =>
    have hms' : (skipSemicolons s).lineModes.headD true = true := hms
    obtain ⟨hmodes, u, hu, hru⟩ := (sound_readStatement hms').reads trivial rfl hok
    have hlt := length_rest_lt_of_readStatement hx hok
    obtain ⟨us, w, rest, hw, hleads, hrest, hn⟩ :=
      ih (cons_eq_unterminated_iff.1 hr) (by rw [hmodes]; exact hms) (by omega)
    obtain ⟨v, hv, hskipped⟩ := exists_semicolons s
    have hsep' : Phrase.Separated (w ++ rest) := hw ▸ separated_iff.1 hsep
    refine ⟨u :: us, v ++ (u ++ w), rest, ?_, .cons hv hu hsep' hleads, hrest, ?_⟩
    · rw [hskipped, hru, hw]
      simp only [List.append_assoc]
    · -- the statement has been read to its end
      obtain ⟨y, u, rfl, -⟩ := begins_shallowStatement u hu
      have hspan : (Token.span (y :: u)).stop = s'.lastStop :=
        congrArg Span.stop (span_of_readStatement hok hru rfl)
      have hstop : Token.lastStop (Token.lastStop c v) (y :: u) = s'.lastStop := hspan
      rw [Token.lastStop_append, Token.lastStop_append, hstop]
      exact hn

end Split
end StatementReader
