import StatementReader.Proofs.Recursion.Rules

/-!
# Reading ends, and its depth is bounded

However a text is made, the statements are read in finitely many steps, and no more calls are active
at any time than a fixed number for each level of nesting (`split_bounded`). The bound belongs to
the grammar. All recursion in it goes through the calls of types and expressions, and these are
counted. What is nested more deeply is refused, and that is the answer.

The steps of a machine have been followed in `Recursion/Rules.lean` from the beginning of a
statement to its end. Here the statements are put together along `Split.Rounds`. Since each stage
has only one next stage, nothing else can happen on the way (`Stage.leads_of_reaches`).
-/

namespace StatementReader

/-- The calls that may be active for each level of nesting. -/
def callsPerLevel : Nat := 38

namespace Split

variable {spans : List Span}

/-- Where parsing has stopped the statements before it do not count. -/
theorem prepend_ofStop (spans : List Span) (c : Nat) (stop : Stop) :
    (ofStop c stop).prepend spans = ofStop c stop := by
  induction spans with
  | nil => rfl
  | cons span spans ih =>
    rw [prepend_cons, ih]
    cases stop <;> rfl

theorem prepend_concat (spans : List Span) (span : Span) (r : Split) :
    r.prepend (spans ++ [span]) = (r.cons span).prepend spans :=
  List.foldr_append

end Split

namespace Stage

open Rule

/-- What is claimed of each stage. -/
structure Fits (stage : Stage) : Prop where
  activeCalls : stage.activeCalls ≤ callsPerLevel * maxNesting
  nesting : stage.nesting ≤ maxNesting
  advances : stage.Advances

/-- The first stage becomes the second one, through stages that fit. -/
def Leads (openLiteral : Bool) : Stage → Stage → Prop :=
  Relation.ReflTransGen fun stage stage' => stage.Fits ∧ stage.step openLiteral = some stage'

variable {openLiteral : Bool} {a b c : Stage}

theorem fits_done (answer : Split) : (done answer).Fits := ⟨Nat.zero_le _, Nat.zero_le _, trivial⟩

theorem fits_between (spans : List Span) (consumed : Nat) (s : State) :
    (between spans consumed s).Fits :=
  ⟨Nat.succ_le_of_lt (by decide), Nat.zero_le _, trivial⟩

/-- Within a statement the calls fit into their bounds. -/
theorem fits_within {m m' : Machine} (hm : m.Fits ((maxNesting + 1) * callHeight))
    (hstep : m.step = some m') (spans : List Span) (consumed : Nat) (start : State) :
    (within spans consumed start m).Fits where
  activeCalls := by
    have hlength : m.stack.length < (maxNesting + 1) * callHeight := hm.length
    have hlimit : (maxNesting + 1) * callHeight + 1 ≤ callsPerLevel * maxNesting := by decide
    show m.stack.length + 2 ≤ callsPerLevel * maxNesting
    omega
  nesting := hm.nesting
  advances := by
    have hadvances := hm.advances
    obtain ⟨control, stack⟩ := m
    cases control with
    | enter => exact hadvances
    | leave result =>
      cases result with
      | error => exact hadvances
      | ok s =>
        cases stack with
        -- the statement has ended here, and its machine takes no step
        | nil => cases hstep
        | cons => exact hadvances

/-! ### One path -/

/-- A stage that can be reached lies on the way. -/
theorem leads_of_reaches (hb : b.step openLiteral = none) (hab : Leads openLiteral a b)
    (hac : Reaches openLiteral a c) : Leads openLiteral c b := by
  induction hac with
  | refl => exact hab
  | tail _ hstep ih =>
    rcases ih.cases_head with rfl | ⟨d, ⟨-, hd⟩, hdb⟩
    · cases hb.symm.trans hstep
    · obtain rfl := Option.some.inj (hd.symm.trans hstep)
      exact hdb

/-- What leads to a stage that fits does so too. -/
theorem Leads.fits (hb : b.Fits) (h : Leads openLiteral a b) : a.Fits := by
  rcases h.cases_head with rfl | ⟨-, ⟨hfits, -⟩, -⟩
  · exact hb
  · exact hfits

/-- What leads to a stage reaches it. -/
theorem Leads.reaches (h : Leads openLiteral a b) : Reaches openLiteral a b :=
  Relation.ReflTransGen.mono (fun _ _ => And.right) _ _ h

/-- There is only one answer. -/
theorem answer_unique {r r' : Split} (h : Leads openLiteral a (done r))
    (h' : Reaches openLiteral a (done r')) : r' = r := by
  rcases (leads_of_reaches rfl h h').cases_head with heq | ⟨b, ⟨-, hstep⟩, -⟩
  · exact (done.inj heq)
  · cases hstep

/-! ### Statements -/

/-- A statement is read from its beginning to its end. -/
theorem leads_statement (spans : List Span) (consumed : Nat) (s : State) : Leads openLiteral
    (within spans consumed s ⟨.enter statement s, []⟩)
    (within spans consumed s ⟨.leave (readStatement s), []⟩) := by
  refine Relation.ReflTransGen.lift (within spans consumed s) ?_ _ _ (Machine.leads_statement s)
  rintro m m' ⟨hfits, hstep⟩
  refine ⟨fits_within hfits hstep spans consumed s, ?_⟩
  rw [step, hstep]

/-- Where a token is left after the semicolons, the next statement is read. -/
theorem leads_readStatement (openLiteral : Bool) {s : State} {x : Token} {xs : List Token}
    (hx : (Split.skipSemicolons s).rest = x :: xs) (spans : List Span) (consumed : Nat) :
    Leads openLiteral (between spans consumed s)
      (within spans consumed (Split.skipSemicolons s)
        ⟨.leave (readStatement (Split.skipSemicolons s)), []⟩) := by
  refine .head ⟨fits_between spans consumed s, ?_⟩ (leads_statement spans consumed _)
  simp [step, hx]

/-- All statements are read, and the answer is that of `Split.readFrom`, behind the statements that
have been read before. -/
theorem leads_of_rounds {count consumed : Nat} {s : State} {r : Split}
    (h : Split.Rounds openLiteral count consumed s r) (hcount : s.rest.length < count)
    (spans : List Span) :
    Leads openLiteral (between spans consumed s) (done (r.prepend spans)) := by
  have hcalls : 2 ≤ callsPerLevel * maxNesting := by decide
  have hstops (start : State) (consumed : Nat) (spans : List Span) (stop : Stop) :
      (within spans consumed start ⟨.leave (.error stop), []⟩).Fits :=
    ⟨hcalls, Nat.zero_le _, trivial⟩
  have hover {start s' : State} (hadvances : s'.rest.length < start.rest.length) (consumed : Nat)
      (spans : List Span) : (within spans consumed start ⟨.leave (.ok s'), []⟩).Fits :=
    ⟨hcalls, Nat.zero_le _, hadvances⟩
  -- each round is one statement of the machine, with a step before it and a step behind it
  induction h generalizing spans with
  | spent => exact absurd hcount (Nat.not_lt_zero _)
  | @finished count consumed s hx =>
    refine .single ⟨fits_between spans consumed s, ?_⟩
    simp [step, hx]
  | @stopped count consumed s x xs stop hx hstop =>
    have hleads := leads_readStatement openLiteral hx spans consumed
    rw [hstop] at hleads
    rw [Split.prepend_ofStop]
    exact hleads.tail ⟨hstops _ _ _ _, rfl⟩
  | @unseparated count consumed s x xs s' hx hok hsep =>
    have hleads := leads_readStatement openLiteral hx spans consumed
    rw [hok] at hleads
    rw [Split.prepend_ofStop]
    have hlt := takes_readStatement hok (by simp [hx])
    exact hleads.tail ⟨hover hlt _ _, if_neg (by simp [hsep])⟩
  | @again count consumed s x xs s' r hx hok hsep _ ih =>
    have hleads := leads_readStatement openLiteral hx spans consumed
    rw [hok] at hleads
    have hlt := takes_readStatement hok (by simp [hx])
    -- a statement takes a token, so the count is enough for the others
    have hless := Split.length_rest_lt_of_readStatement hx hok
    have hnext : (within spans consumed (Split.skipSemicolons s) ⟨.leave (.ok s'), []⟩).step
        openLiteral = some (between (spans ++ [⟨x.start, s'.lastStop⟩]) s'.lastStop s') := by
      simp [step, Machine.step, hsep, hx]
    rw [← Split.prepend_concat]
    exact (hleads.tail ⟨hover hlt _ _, hnext⟩).trans (ih (by omega) _)

/-- What stops a statement is the answer. -/
theorem reaches_of_refuses {m : Machine} {stop : Stop} (h : m.Refuses stop) (spans : List Span)
    (consumed : Nat) (start : State) : Reaches openLiteral (within spans consumed start m)
      (done (Split.ofStop consumed stop)) := by
  refine Relation.ReflTransGen.tail
    (Relation.ReflTransGen.lift (within spans consumed start) ?_ _ _ h.reaches) rfl
  intro m m' hstep
  show step openLiteral _ = _
  rw [step, hstep]

end Stage

/-- Reading a text ends with the answer of `split`, from each stage on the way. At no time are more
calls active than a fixed number for each level of nesting, or more types and expressions inside one
another than `maxNesting`. A round of a repetition and a statement of the text that are over have
taken a token. If a type or an expression is refused because it is nested too deeply, then the
answer is that the text is unterminated or that it has to be nested less deeply there. -/
theorem split_bounded (t : Text) :
    Stage.Reaches (TokenRow.ofText t).openLiteral (.start t) (.done (split t)) ∧
    ∀ stage, Stage.Reaches (TokenRow.ofText t).openLiteral (.start t) stage →
      stage.activeCalls ≤ callsPerLevel * Rule.maxNesting ∧ stage.nesting ≤ Rule.maxNesting ∧
      stage.Advances ∧
      Stage.Reaches (TokenRow.ofText t).openLiteral stage (.done (split t)) ∧
      ∀ spans consumed start m stop, stage = .within spans consumed start m → m.Refuses stop →
        split t = .unterminated consumed ∨ ∃ x, split t = .violation .shallowerNesting x := by
  have hrounds : Split.Rounds (TokenRow.ofText t).openLiteral
      ((TokenRow.ofText t).tokens.length + 1) 0 _ (split t) := Split.rounds_readFrom _ _ _ _
  have hleads : Stage.Leads (TokenRow.ofText t).openLiteral (.start t) (.done (split t)) :=
    Stage.leads_of_rounds hrounds (Nat.lt_succ_self _) []
  refine ⟨hleads.reaches, fun stage hstage => ?_⟩
  -- there is one way only, so whatever is reached lies on the way to the answer
  have hon := Stage.leads_of_reaches rfl hleads hstage
  obtain ⟨hcalls, hnesting, hadvances⟩ := hon.fits (Stage.fits_done _)
  refine ⟨hcalls, hnesting, hadvances, hon.reaches, ?_⟩
  rintro spans consumed start m stop rfl hrefuses
  have hanswer := Stage.answer_unique hon (Stage.reaches_of_refuses hrefuses spans consumed start)
  -- what is refused is a call one level too deep, at the end of the tokens or at one of them
  obtain ⟨c, s, stack, -, -, rfl⟩ := hrefuses
  rw [← hanswer, State.stop]
  split
  · exact .inl rfl
  · exact .inr ⟨_, rfl⟩

end StatementReader
