import StatementReader.Proofs.Language.Limit
import StatementReader.Proofs.Rule.Nesting
import StatementReader.Proofs.Split.Rounds
import Mathlib.Data.List.TakeWhile

/-!
# Rows of statements

The answer of `readFrom` is a list of spans if and only if the tokens are a row of statements, and
then there is one span for each of them. Both directions follow the row.

The way from a row to the answer allows for more tokens behind it (`readFrom_row`). They are read
after the row as if nothing were before them, if they may follow a statement.
-/

namespace StatementReader

open Computability

/-- The span of the tokens `u`. -/
def Token.span (u : List Token) : Span := ⟨(u.head?.map (·.start)).getD 0, lastStop 0 u⟩

/-- A statement is read at the same depth of brackets from its first token to its last. -/
theorem Rule.brackets_readStatement {s s' : State} (h : readStatement s = .ok s') :
    s'.depth = s.depth ∧ s'.lineModes = s.lineModes := by
  have hs : s.Holds s.depth s.lineModes [] := ⟨rfl, rfl⟩
  have hnested := nested_readStatement hs
  rw [h] at hnested
  exact ⟨hnested.1.depth, hnested.1.lineModes⟩

namespace Split

/-- Adds spans in front of the statements read after them. -/
def prepend (spans : List Span) (r : Split) : Split := spans.foldr cons r

@[simp] theorem prepend_nil (r : Split) : r.prepend [] = r := rfl

@[simp] theorem prepend_cons (span : Span) (spans : List Span) (r : Split) :
    prepend (span :: spans) r = (prepend spans r).cons span := rfl

/-- Statements in front of others make one row with them. -/
theorem prepend_statements (spans spans' : List Span) :
    prepend spans (statements spans') = statements (spans ++ spans') := by
  induction spans with
  | nil => rfl
  | cons span spans ih => rw [prepend_cons, ih]; rfl

/-- Statements in front of what is open change nothing about it. -/
theorem prepend_unterminated (spans : List Span) (c : ℕ) :
    prepend spans (unterminated c) = unterminated c := by
  induction spans with
  | nil => rfl
  | cons span spans ih => rw [prepend_cons, ih]; rfl

/-- The number of statements allowed does not matter, if it exceeds the number of tokens. -/
theorem readFrom_count {openLiteral : Bool} {count count' c : ℕ} {s : State}
    (h : s.rest.length < count) (h' : s.rest.length < count') :
    readFrom openLiteral count c s = readFrom openLiteral count' c s := by
  induction count generalizing count' c s with
  | zero => exact absurd h (Nat.not_lt_zero _)
  | succ count ih =>
    obtain ⟨count', rfl⟩ := Nat.exists_eq_add_of_le' (Nat.lt_of_le_of_lt (Nat.zero_le _) h')
    cases hx : (skipSemicolons s).rest with
    | nil => rw [readFrom_of_finished hx, readFrom_of_finished hx]
    | cons x xs =>
      cases hs : Rule.readStatement (skipSemicolons s) with
      | error stop => rw [readFrom_of_stopped hx hs, readFrom_of_stopped hx hs]
      | ok s' =>
        cases hsep : separated s' with
        | false => rw [readFrom_of_unseparated hx hs hsep, readFrom_of_unseparated hx hs hsep]
        | true =>
          -- a statement takes at least one token, so that both counts still suffice for the rest
          have hlt := length_rest_lt_of_readStatement hx hs
          have hcount : s'.rest.length < count := by omega
          have hcount' : s'.rest.length < count' := by omega
          rw [readFrom_of_separated hx hs hsep, readFrom_of_separated hx hs hsep, ih hcount hcount']

/-- A statement ends at a semicolon, at a line break, or at the end. -/
theorem separated_iff {s : State} : separated s ↔ Phrase.Separated s.rest := by
  unfold separated Phrase.Separated State.atMark
  cases s.rest <;> simp

/-! ### Rows of statements are read -/

/-- Semicolons in front of a row are skipped, however they are written. -/
theorem skipSemicolons_rest {s : State} {v w : List Token}
    (hv : v ∈ (Phrase.punct Rule.semicolon)∗) (hr : s.rest = v ++ w) :
    skipSemicolons s = skipSemicolons { s with rest := w } := by
  have hall : ∀ t ∈ v, t.isMark Rule.semicolon := Phrase.mem_kstar_one.1 hv
  unfold skipSemicolons
  simp only [hr, List.dropWhile_append_of_pos hall]

/-- Where there is no semicolon nothing is skipped. -/
theorem skipSemicolons_of_next {s : State} (h : Next (fun t => !t.isMark Rule.semicolon) s.rest) :
    skipSemicolons s = s := by
  have hdrop : s.rest.dropWhile (·.isMark Rule.semicolon) = s.rest := by
    cases hr : s.rest with
    | nil => rfl
    | cons t r =>
      rw [hr] at h
      exact List.dropWhile_cons_of_neg (by simpa using next_cons.1 h)
  unfold skipSemicolons
  rw [hdrop]

/-- There are no semicolons to pass where a statement stands next. -/
theorem skipSemicolons_of_startsStatement {s : State} {x : Token} {r : List Token}
    (hx : x.startsStatement) (hr : s.rest = x :: r) : skipSemicolons s = s := by
  have hfirst : x.isMark Rule.semicolon = false :=
    Token.isMark_of_startsStatement hx Rule.semicolon (by decide)
  refine skipSemicolons_of_next ?_
  rw [hr]
  exact next_cons.2 (by simp [hfirst])

/-- Semicolons in front of the tokens make no difference. -/
theorem readFrom_semicolons {openLiteral : Bool} {count c : ℕ} {s : State} {v w : List Token}
    (hv : v ∈ (Phrase.punct Rule.semicolon)∗) (hr : s.rest = v ++ w) :
    readFrom openLiteral count c s = readFrom openLiteral count c { s with rest := w } := by
  cases count with
  | zero => rfl
  | succ count => simp only [readFrom, skipSemicolons_rest hv hr]

variable {S : Phrase} {deep : Prop} {us : List (List Token)} {w more : List Token}

/-- The span of a statement that has been read. -/
theorem span_of_readStatement {s s' : State} {x : Token} {u r : List Token}
    (hs : Rule.readStatement s = .ok s') (hr : s.rest = x :: u ++ r) (hr' : s'.rest = r) :
    Token.span (x :: u) = ⟨x.start, s'.lastStop⟩ := by
  obtain ⟨v, hv⟩ := Rule.forward_readStatement.reads hs
  -- what has been read is what is missing from the rest
  have huv : x :: u = v := by
    have hrest := hv.rest
    rw [hr, hr'] at hrest
    exact List.append_cancel_right hrest
  rw [Token.span, hv.lastStop, ← huv]
  rfl

/-- A statement that has been read begins with the token that was next. -/
theorem exists_cons_of_readStatement {s s' : State} {x : Token} {u xs : List Token}
    (hs : Rule.readStatement s = .ok s') (hx : s.rest = x :: xs) (hr : s.rest = u ++ s'.rest) :
    ∃ v, u = x :: v := by
  -- a statement that is read takes something, so it is not empty
  cases u with
  | nil =>
    have hlt := Rule.takes_readStatement hs (by simp [hx])
    rw [hr] at hlt
    exact absurd hlt (Nat.lt_irrefl _)
  | cons y v =>
    rw [hx] at hr
    cases hr
    exact ⟨v, rfl⟩

/-- What is left of a row after one of its statements, with more tokens behind it, may follow the
statement if the tokens may. -/
theorem next_row (hS : S.Begins Token.startsStatement) (hrow : Phrase.Row S us w)
    (hsepw : Phrase.Separated w) (hsep : Phrase.Separated more)
    (hmore : Next Token.endsStatement more) :
    Phrase.Separated (w ++ more) ∧ Next Token.endsStatement (w ++ more) := by
  cases w with
  | nil => exact ⟨hsep, hmore⟩
  | cons t w => exact ⟨hsepw, hrow.next_endsStatement hS hsepw⟩

/-- A statement that stands next is read, and reading goes on behind it. -/
theorem readFrom_of_read {openLiteral : Bool} {count c : ℕ} {s s' : State} {x : Token}
    {u r : List Token} (hx : x.startsStatement) (hr : s.rest = x :: u ++ r)
    (hs : Rule.readStatement s = .ok s') (hr' : s'.rest = r) (hsep : Phrase.Separated r) :
    readFrom openLiteral (count + 1) c s =
      (readFrom openLiteral count s'.lastStop s').cons (Token.span (x :: u)) := by
  have hskip := skipSemicolons_of_startsStatement hx hr
  rw [span_of_readStatement hs hr hr']
  rw [← hskip] at hr hs
  exact readFrom_of_separated hr hs (separated_iff.2 (by rwa [hr']))

/-- If each statement is read, or refused for its nesting, then so is a row of them, and reading
goes on with the tokens after it. -/
theorem readFrom_row (hS : S.Begins Token.startsStatement)
    (hread : ∀ u ∈ S, ∀ (s : State) (r : List Token), s.lineModes.headD true = true →
      s.rest = u ++ r → Next Token.endsStatement r →
        (∃ s', Rule.readStatement s = .ok s' ∧ s'.rest = r) ∨
          deep ∧ ∃ t, Rule.readStatement s = .error (.violation .shallowerNesting (some t)))
    (hrow : Phrase.Row S us w) (hsep : Phrase.Separated more)
    (hmore : Next Token.endsStatement more)
    {openLiteral : Bool} {count c : ℕ} {s : State} (hr : s.rest = w ++ more)
    (hms : s.lineModes.headD true = true) (hcount : s.rest.length < count) :
    (∃ count' c' s', s'.rest = more ∧ s'.depth = s.depth ∧ s'.lineModes = s.lineModes ∧
        more.length < count' ∧ readFrom openLiteral count c s =
          (readFrom openLiteral count' c' s').prepend (us.map Token.span)) ∨
      deep ∧ ∃ t, readFrom openLiteral count c s = .violation .shallowerNesting (some t) := by
  induction hrow generalizing count c s with
  | nil hv =>
    rw [hr, List.length_append] at hcount
    exact .inl ⟨count, c, { s with rest := more }, rfl, rfl, rfl, by omega,
      readFrom_semicolons hv hr⟩
  | @cons v u us w hv hu hsepw hrow ih =>
    -- the semicolons are passed, and what follows the statement may follow it
    obtain ⟨x, u, rfl, hx⟩ := hS u hu
    obtain ⟨hsep', hnext⟩ := next_row hS hrow hsepw hsep hmore
    rw [List.append_assoc] at hr
    rw [readFrom_semicolons hv hr]
    rw [hr, List.length_append] at hcount
    set m : State := { s with rest := x :: u ++ w ++ more }
    have hmr : m.rest = x :: u ++ (w ++ more) := List.append_assoc _ _ _
    cases count with
    | zero => exact absurd hcount (Nat.not_lt_zero _)
    | succ count =>
      obtain ⟨s', hs', hsr⟩ | ⟨hdeep, t, ht⟩ := hread _ hu m (w ++ more) hms hmr hnext
      · -- a statement leaves the brackets as they were, so the others are read from the same state
        obtain ⟨hdepth, hmodes⟩ := Rule.brackets_readStatement hs'
        have hms' : s'.lineModes.headD true = true := by
          rw [hmodes]
          exact hms
        have hless : s'.rest.length < count := by
          rw [hsr]
          simp only [List.length_append, List.length_cons] at hcount ⊢
          omega
        rw [readFrom_of_read hx hmr hs' hsr hsep']
        obtain ⟨count', c', s'', hr'', hdepth'', hmodes'', hcount'', h⟩ | ⟨hdeep, t, h⟩ :=
          ih hsr hms' hless
        · refine .inl ⟨count', c', s'', hr'', hdepth''.trans hdepth, hmodes''.trans hmodes,
            hcount'', ?_⟩
          rw [h]
          rfl
        · exact .inr ⟨hdeep, t, by rw [h]; rfl⟩
      · have hskip := skipSemicolons_of_startsStatement hx hmr
        exact .inr ⟨hdeep, t, readFrom_of_stopped (hskip ▸ hmr) (hskip ▸ ht)⟩

/-- All tokens are divided into the statements of the row, unless one of them is too deep. -/
theorem readFrom_wholeRow (hS : S.Begins Token.startsStatement)
    (hread : ∀ u ∈ S, ∀ (s : State) (r : List Token), s.lineModes.headD true = true →
      s.rest = u ++ r → Next Token.endsStatement r →
        (∃ s', Rule.readStatement s = .ok s' ∧ s'.rest = r) ∨
          deep ∧ ∃ t, Rule.readStatement s = .error (.violation .shallowerNesting (some t)))
    {count c : ℕ} {s : State} (hrow : Phrase.Row S us s.rest) (hms : s.lineModes.headD true = true)
    (hcount : s.rest.length < count) :
    readFrom false count c s = .statements (us.map Token.span) ∨
      deep ∧ ∃ t, readFrom false count c s = .violation .shallowerNesting (some t) := by
  have hsep : Phrase.Separated [] := fun t ht => by cases ht
  have hnext : Next Token.endsStatement [] := fun t ht => by cases ht
  refine (readFrom_row hS hread hrow hsep hnext (List.append_nil _).symm hms hcount).imp_left ?_
  rintro ⟨count', c', s', hr, -, -, -, h⟩
  -- nothing is left behind the last statement
  have hskip : (skipSemicolons s').rest = [] := by
    rw [skipSemicolons_of_next (fun t ht => by simp [hr] at ht), hr]
  rw [h, readFrom_of_finished hskip]
  exact (prepend_statements _ _).trans (by rw [List.append_nil])

/-! ### What is read is a row of statements -/

/-- The semicolons that are passed. -/
theorem exists_semicolons (s : State) :
    ∃ v ∈ (Phrase.punct Rule.semicolon)∗, s.rest = v ++ (skipSemicolons s).rest := by
  refine ⟨s.rest.takeWhile (·.isMark Rule.semicolon), Phrase.mem_kstar_one.2 fun t ht => ?_,
    (List.takeWhile_append_dropWhile).symm⟩
  have hmark := List.mem_takeWhile_imp ht
  exact hmark

/-- What has been divided is a row of statements, as the spans tell. -/
theorem Rounds.exists_row (hS : ∀ ms : List Bool, ms.headD true = true →
      Rule.readStatement.Sound State.Any ms ms S)
    {openLiteral : Bool} {count c : ℕ} {s : State} {r : Split} (h : Rounds openLiteral count c s r)
    {spans : List Span} (hr : r = .statements spans) (hms : s.lineModes.headD true = true)
    (hcount : s.rest.length < count) :
    openLiteral = false ∧ ∃ us, Phrase.Row S us s.rest ∧ spans = us.map Token.span := by
  induction h generalizing spans with
  | spent => exact absurd hcount (Nat.not_lt_zero _)
  | @finished count c s hx =>
    obtain ⟨hopen, hspans⟩ := atEnd_eq_statements_iff.1 hr
    obtain ⟨v, hv, hrest⟩ := exists_semicolons s
    refine ⟨hopen, [], ?_, hspans⟩
    rw [hrest, hx, List.append_nil]
    exact .nil hv
  -- neither of these two ends gives statements
  | stopped => exact absurd hr ofStop_ne_statements
  | unseparated => exact absurd hr ofStop_ne_statements
  | @again count c s x xs s' r hx hok hsep _ ih =>
    -- the statement leaves the line mode as it was, so the rows after it are read like this one
    obtain ⟨spans', hr', hspans⟩ := cons_eq_statements_iff.1 hr
    obtain ⟨hmodes, u, hu, hru⟩ := (hS (skipSemicolons s).lineModes hms).reads trivial rfl hok
    have hlt := length_rest_lt_of_readStatement hx hok
    have hms' : s'.lineModes.headD true = true := by
      rw [hmodes]
      exact hms
    have hless : s'.rest.length < count := by omega
    obtain ⟨hopen, us, hrow, hspans'⟩ := ih hr' hms' hless
    obtain ⟨v, hv, hrest⟩ := exists_semicolons s
    refine ⟨hopen, u :: us, ?_, ?_⟩
    · rw [hrest, hru]
      exact .cons hv hu (separated_iff.1 hsep) hrow
    · obtain ⟨u, rfl⟩ := exists_cons_of_readStatement hok hx hru
      rw [hspans, hspans', List.map_cons, span_of_readStatement hok hru rfl]

end Split

end StatementReader
