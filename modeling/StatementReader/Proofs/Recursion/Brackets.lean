import StatementReader.Proofs.Recursion.Machine
import StatementReader.Proofs.Rule.Nesting

/-!
# The open brackets on the way

`Rule.nest` tells from the brackets that are open before a rule which ones are open after it, and
`Rule.nested_run` says that it is right about the whole of the rule. Here it is followed through the
steps. When a rule is left, the rules that are being read around it go on with the brackets that are
open then, so they have to pass the check from there on (`Machine.Continues`). Every step keeps to
that (`Machine.Balanced.step`), and so the count and the line modes are those of the open brackets
at all times, and where a bracket is to be closed, one is open.

A step reads forward too. So the tokens that are left are always the last ones of the text's
(`Stage.Placed`).
-/

namespace StatementReader

/-- The state at which a rule is entered or has been left, if that is no stop. -/
def Control.state? : Control → Option State
  | enter _ s => some s
  | leave (.ok s) => some s
  | leave (.error _) => none

/-- The rule has no rules inside, and is read at once. -/
def Rule.isLeaf : Rule → Bool
  | seq _ _ | branch _ _ _ | repeatWhile _ _ | call _ => false
  | _ => true

namespace Machine

open Rule

variable {base k k' : ℕ} {modes : List Bool} {frames frames' outer : List Frame}
  {stack : List Activation} {rule : Rule} {s : State} {m m' : Machine}

/-! ### Brackets -/

/-- The rules on the stack can go on where `frames` have been opened since the innermost call and
`outer` were open before it. -/
inductive Continues : List Frame → List Frame → List Activation → Prop
  | nil : Continues [] [] []
  | first {k k' : ℕ} {frames frames' outer : List Frame} {second : Rule} {stack : List Activation}
      (hsecond : nest k frames second = some (k', frames')) (h : Continues frames' outer stack) :
      Continues frames outer (.first second :: stack)
  | second {frames outer : List Frame} {stack : List Activation}
      (h : Continues frames outer stack) : Continues frames outer (.second :: stack)
  | branch {frames outer : List Frame} {stack : List Activation}
      (h : Continues frames outer stack) : Continues frames outer (.branch :: stack)
  | round {k : ℕ} {frames outer : List Frame} {look : Look} {round : Rule} {start : State}
      {stack : List Activation} (hround : nest look.plain frames round = some (k, frames))
      (h : Continues frames outer stack) :
      Continues frames outer (.round look round start :: stack)
  /-- What is opened by a call is closed by it. -/
  | call {frames outer : List Frame} {stack : List Activation}
      (h : Continues frames outer stack) : Continues [] (frames ++ outer) (.call :: stack)

/-- The state keeps record of the open brackets, the rule passes the check with these, and the rules
around it do with the ones that are then open. -/
inductive Balanced (base : ℕ) (modes : List Bool) : Machine → Prop
  | enter {k k' : ℕ} {frames frames' outer : List Frame} {rule : Rule} {s : State}
      {stack : List Activation} (hs : s.Holds base modes (frames ++ outer))
      (hrule : nest k frames rule = some (k', frames')) (hstack : Continues frames' outer stack) :
      Balanced base modes ⟨.enter rule s, stack⟩
  | left {frames outer : List Frame} {s : State} {stack : List Activation}
      (hs : s.Holds base modes (frames ++ outer)) (hstack : Continues frames outer stack) :
      Balanced base modes ⟨.leave (.ok s), stack⟩
  | stopped {stop : Stop} {stack : List Activation} :
      Balanced base modes ⟨.leave (.error stop), stack⟩

/-- A rule without rules inside changes the record as the check says. -/
theorem holds_of_leaf (hleaf : rule.isLeaf) (hs : s.Holds base modes (frames ++ outer))
    (hrule : nest k frames rule = some (k', frames')) {s' : State}
    (hrun : run (read 0) rule s = .ok s') : s'.Holds base modes (frames' ++ outer) := by
  cases rule with
  | empty =>
    obtain ⟨rfl, rfl⟩ := by simpa [nest] using hrule
    obtain rfl := Except.ok.inj hrun
    exact hs
  | refuse e => cases hrun
  | token =>
    obtain ⟨-, rfl, rfl⟩ := by simpa [nest] using hrule
    obtain rfl := Except.ok.inj hrun
    exact hs.advance
  | mark text =>
    obtain ⟨-, rfl, rfl⟩ := by simpa [nest] using hrule
    obtain ⟨-, rfl⟩ := takeIf_eq_ok.1 hrun
    exact hs.advance
  | ident =>
    obtain ⟨rfl, rfl⟩ := by simpa [nest] using hrule
    obtain ⟨-, rfl⟩ := takeIf_eq_ok.1 hrun
    exact hs.advance
  | opening text lineMode =>
    obtain ⟨-, rfl, rfl⟩ := by simpa [nest] using hrule
    obtain ⟨-, rfl⟩ := run_opening_eq_ok.1 hrun
    exact hs.advance.enter (text, lineMode)
  | closing text =>
    obtain ⟨-, rfl⟩ := run_closing_eq_ok.1 hrun
    -- the check fails where the rule has opened no bracket that it could close
    cases frames with
    | nil => simp [nest] at hrule
    | cons innermost others =>
      obtain ⟨-, -, rfl⟩ := by simpa [nest] using hrule
      exact hs.advance.leave
  | endOfStatement look e =>
    obtain ⟨rfl, rfl⟩ := by simpa [nest] using hrule
    obtain ⟨-, rfl⟩ := run_endOfStatement_eq_ok.1 hrun
    exact hs
  | seq _ _ | branch _ _ _ | repeatWhile _ _ | call _ => cases hleaf

/-- A rule that is run at once keeps the brackets balanced. -/
theorem Balanced.of_leaf (hleaf : rule.isLeaf) (hs : s.Holds base modes (frames ++ outer))
    (hrule : nest k frames rule = some (k', frames')) (hstack : Continues frames' outer stack) :
    Balanced base modes ⟨.leave (run (read 0) rule s), stack⟩ := by
  cases hrun : run (read 0) rule s with
  | error stop => exact .stopped
  | ok s' => exact .left (holds_of_leaf hleaf hs hrule hrun) hstack

/-- So does entering a rule. -/
theorem Balanced.step_enter (hs : s.Holds base modes (frames ++ outer))
    (hrule : nest k frames rule = some (k', frames')) (hstack : Continues frames' outer stack)
    (hstep : step ⟨.enter rule s, stack⟩ = some m') : Balanced base modes m' := by
  cases rule with
  | seq first second =>
    obtain ⟨⟨j, between⟩, hfirst, hsecond⟩ := Option.bind_eq_some_iff.1 hrule
    obtain rfl := Option.some.inj hstep
    exact .enter hs hfirst (.first hsecond hstack)
  | branch look yes no =>
    -- both sides pass the check, and the brackets open after them are the same
    obtain ⟨⟨j₁, frames₁⟩, hyes, hrest⟩ := Option.bind_eq_some_iff.1 hrule
    obtain ⟨⟨j₂, frames₂⟩, hno, hsame⟩ := Option.bind_eq_some_iff.1 hrest
    obtain ⟨rfl, -, rfl⟩ := by simpa using hsame
    obtain rfl := Option.some.inj hstep
    split
    · exact .enter hs hyes (.branch hstack)
    · exact .enter hs hno (.branch hstack)
  | repeatWhile look round =>
    -- a round leaves open what was open before it, so another one may follow
    obtain ⟨⟨j, between⟩, hround, hsame⟩ := Option.bind_eq_some_iff.1 hrule
    obtain ⟨rfl, -, rfl⟩ := by simpa using hsame
    rw [step] at hstep
    split at hstep
    · obtain rfl := Option.some.inj hstep
      exact .enter hs hround (.round hround hstack)
    · obtain rfl := Option.some.inj hstep
      exact .left hs hstack
  | call c =>
    obtain ⟨-, rfl⟩ := by simpa [nest] using hrule
    rw [step] at hstep
    split at hstep
    · obtain rfl := Option.some.inj hstep
      obtain ⟨j, hconstruct⟩ := nest_construct c
      -- inside the call, whatever is open counts as open before it
      have hs' : s.Holds base modes ([] ++ (frames ++ outer)) := hs
      exact .enter hs' hconstruct (.call hstack)
    · obtain rfl := Option.some.inj hstep
      exact .stopped
  | _ =>
    obtain rfl := Option.some.inj hstep
    exact .of_leaf rfl hs hrule hstack

/-- So does going on where a rule has been left. -/
theorem Balanced.step_left (hs : s.Holds base modes (frames ++ outer))
    (hstack : Continues frames outer stack) (hstep : step ⟨.leave (.ok s), stack⟩ = some m') :
    Balanced base modes m' := by
  -- the innermost activation tells what to do next, and which frames it expects
  cases hstack with
  | nil => cases hstep
  | first hsecond hstack =>
    obtain rfl := Option.some.inj hstep
    exact .enter hs hsecond (.second hstack)
  | second hstack | branch hstack =>
    obtain rfl := Option.some.inj hstep
    exact .left hs hstack
  | @round j _ _ look round start _ hround hstack =>
    obtain rfl := Option.some.inj hstep
    have hrule : nest 0 frames (.repeatWhile look round) = some (0, frames) := by
      simp [nest, hround]
    exact .enter hs hrule hstack
  | @call frames outer _ hstack =>
    obtain rfl := Option.some.inj hstep
    have hs' : s.Holds base modes (frames ++ outer) := hs
    exact .left hs' hstack

/-- A step keeps the record of the open brackets. -/
theorem Balanced.step (h : Balanced base modes m) (hstep : m.step = some m') :
    Balanced base modes m' := by
  cases h with
  | enter hs hrule hstack => exact .step_enter hs hrule hstack hstep
  | left hs hstack => exact .step_left hs hstack hstep
  | @stopped stop stack =>
    -- what stops a rule stops the rule around it, which opens and closes nothing more
    cases stack with
    | nil => cases hstep
    | cons a stack =>
      cases a <;>
      · obtain rfl := Option.some.inj hstep
        exact .stopped

/-- In a balanced machine some frames are open, and these are recorded. -/
theorem Balanced.exists_holds (h : Balanced base modes m) (hs : m.control.state? = some s) :
    ∃ frames, s.Holds base modes frames := by
  cases h with
  | enter hholds | left hholds =>
    obtain rfl := Option.some.inj hs
    exact ⟨_, hholds⟩
  | stopped => cases hs

/-- Where a bracket is to be closed, one has been opened. -/
theorem Balanced.exists_holds_cons {text : Text}
    (h : Balanced base modes ⟨.enter (.closing text) s, stack⟩) :
    ∃ frame frames, s.Holds base modes (frame :: frames) := by
  cases h with
  | @enter _ _ frames _ outer _ _ _ hs hrule =>
    cases frames with
    | nil => simp [nest] at hrule
    | cons frame others => exact ⟨frame, others ++ outer, hs⟩

/-! ### Places -/

/-- A rule that is run at once has read some tokens. -/
theorem reads_of_leaf {s' : State}
    (h : (Control.leave (run (read 0) rule s)).state? = some s') : ∃ u, s.Reads u s' := by
  -- a leaf calls nothing, so the number of levels does not matter
  cases hrun : run (read 0) rule s with
  | error stop =>
    rw [hrun] at h
    cases h
  | ok s₁ =>
    rw [hrun] at h
    obtain rfl : s₁ = s' := Option.some.inj h
    exact (forward_run (forward_read 0) rule).reads hrun

/-- What a rule does at once reads forward, and a rule that is only entered reads nothing. -/
theorem reads_step_enter (hstep : step ⟨.enter rule s, stack⟩ = some m') {s' : State}
    (hs' : m'.control.state? = some s') : ∃ u, s.Reads u s' := by
  have hsame (h : m'.control.state? = some s) : ∃ u, s.Reads u s' := by
    obtain rfl := Option.some.inj (h.symm.trans hs')
    exact ⟨[], .refl s⟩
  -- only a rule without parts reads anything, and the others are taken apart
  cases rule with
  | seq first second =>
    obtain rfl := Option.some.inj hstep
    exact hsame rfl
  | branch look yes no =>
    obtain rfl := Option.some.inj hstep
    exact hsame rfl
  | repeatWhile look round =>
    rw [step] at hstep
    split at hstep <;>
    · obtain rfl := Option.some.inj hstep
      exact hsame rfl
  | call c =>
    rw [step] at hstep
    split at hstep
    · obtain rfl := Option.some.inj hstep
      exact hsame rfl
    · obtain rfl := Option.some.inj hstep
      cases hs'
  | _ =>
    obtain rfl := Option.some.inj hstep
    exact reads_of_leaf hs'

/-- What goes on behind a rule goes on where the rule has ended. -/
theorem state?_step_leave (hstep : step ⟨.leave (.ok s), stack⟩ = some m') :
    m'.control.state? = some s := by
  cases stack with
  | nil => cases hstep
  | cons a stack =>
    cases a <;>
    · obtain rfl := Option.some.inj hstep
      rfl

/-- Once parsing has stopped there is no state any more. -/
theorem state?_step_stopped {stop : Stop} (hstep : step ⟨.leave (.error stop), stack⟩ = some m') :
    m'.control.state? = none := by
  cases stack with
  | nil => cases hstep
  | cons a stack =>
    cases a <;>
    · obtain rfl := Option.some.inj hstep
      rfl

/-- A step reads forward. -/
theorem reads_step (hstep : m.step = some m') {s' : State} (hs' : m'.control.state? = some s') :
    ∃ s u, m.control.state? = some s ∧ s.Reads u s' := by
  obtain ⟨control, stack⟩ := m
  -- leaving a rule changes the stack only
  cases control with
  | enter rule s =>
    obtain ⟨u, hu⟩ := reads_step_enter hstep hs'
    exact ⟨s, u, rfl, hu⟩
  | leave result =>
    cases result with
    | error stop => cases (state?_step_stopped hstep).symm.trans hs'
    | ok s =>
      obtain rfl := Option.some.inj ((state?_step_leave hstep).symm.trans hs')
      exact ⟨s, [], rfl, .refl s⟩

end Machine

namespace Stage

variable {openLiteral : Bool} {base : ℕ} {ts : List Token} {stage stage' : Stage}

/-- The beginning of a row of tokens. -/
def ofTokens (openLiteral : Bool) (ts : List Token) : Stage :=
  between [] 0 ⟨ts, 0, if openLiteral then 1 else 0, [true]⟩

/-- The place that has been reached in the tokens, with the rules that are being read there. -/
def place? : Stage → Option (State × List Activation)
  | between _ _ s => some (s, [])
  | within _ _ _ m => m.control.state?.map (·, m.stack)
  | done _ => none

/-- A place is between two statements or within one. -/
theorem place_cases {s : State} {stack : List Activation} (h : stage.place? = some (s, stack)) :
    (∃ spans consumed, stage = between spans consumed s ∧ stack = []) ∨
      ∃ spans consumed start control, stage = within spans consumed start ⟨control, stack⟩ ∧
        control.state? = some s := by
  -- a stage that is done has no place
  cases stage with
  | between spans consumed t =>
    obtain ⟨rfl, rfl⟩ := Prod.mk.inj (Option.some.inj h)
    exact .inl ⟨spans, consumed, rfl, rfl⟩
  | within spans consumed start m =>
    obtain ⟨t, ht, hpair⟩ := Option.map_eq_some_iff.1 h
    obtain ⟨rfl, rfl⟩ := Prod.mk.inj hpair
    exact .inr ⟨spans, consumed, start, m.control, rfl, ht⟩
  | done => cases h

/-! ### Brackets -/

/-- The record of the open brackets is kept. Between two statements none is open. -/
inductive Balanced (base : ℕ) : Stage → Prop
  | between {spans : List Span} {consumed : ℕ} {s : State} (hs : s.Holds base [true] []) :
      Balanced base (between spans consumed s)
  | within {spans : List Span} {consumed : ℕ} {start : State} {m : Machine}
      (hm : m.Balanced base [true]) : Balanced base (within spans consumed start m)
  | done {answer : Split} : Balanced base (done answer)

/-- What a step of a statement becomes: the statement goes on, or the next one may begin, or there
is an answer. -/
inductive Next (spans : List Span) (consumed : ℕ) (start : State) (m : Machine) : Stage → Prop
  | goOn {m' : Machine} (hstep : m.step = some m') :
      Next spans consumed start m (within spans consumed start m')
  | ended {s : State} {spans' : List Span} (hm : m = ⟨.leave (.ok s), []⟩) :
      Next spans consumed start m (between spans' s.lastStop s)
  | answer {r : Split} : Next spans consumed start m (done r)

/-- A step within a statement goes on there, ends the statement, or answers. -/
theorem next_of_step {spans : List Span} {consumed : ℕ} {start : State} {m : Machine}
    (hstep : (within spans consumed start m).step openLiteral = some stage') :
    Next spans consumed start m stage' := by
  have hcontrol {m' : Machine} (h : m.step = some m') :
      Next spans consumed start m stage' := by
    rw [step, h] at hstep
    obtain rfl := Option.some.inj hstep
    exact .goOn h
  cases hnext : m.step with
  | some m' => exact hcontrol hnext
  | none =>
    obtain ⟨control, stack⟩ := m
    rw [step, hnext] at hstep
    cases control with
    | enter => cases hstep
    | leave result =>
      cases result with
      | error stop =>
        obtain rfl := Option.some.inj hstep
        exact .answer
      | ok s =>
        -- nothing is left on the stack, or there would be a next step
        have hnil : stack = [] := by
          cases stack with
          | nil => rfl
          | cons a stack => cases a <;> cases hnext
        subst hnil
        dsimp only at hstep
        split at hstep
        · obtain rfl := Option.some.inj hstep
          exact .ended rfl
        · obtain rfl := Option.some.inj hstep
          exact .answer

/-- A step of the division keeps the brackets balanced. -/
theorem Balanced.step (h : stage.Balanced base) (hstep : stage.step openLiteral = some stage') :
    stage'.Balanced base := by
  cases h with
  | @between spans consumed s hs =>
    rw [Stage.step] at hstep
    split at hstep
    · obtain rfl := Option.some.inj hstep
      exact .done
    · obtain rfl := Option.some.inj hstep
      -- the record is that of the statement to come: nothing is open where one begins
      have hstatement : Rule.nest 0 [] Rule.statement = some (0, []) := by decide
      have hskipped : (Split.skipSemicolons s).Holds base [true] ([] ++ []) :=
        ⟨hs.depth, hs.lineModes⟩
      exact .within (.enter hskipped hstatement .nil)
  | within hm =>
    cases next_of_step hstep with
    | goOn hnext => exact .within (hm.step hnext)
    | ended hended =>
      subst hended
      cases hm with
      | left hs hstack =>
        cases hstack
        exact .between hs
    | answer => exact .done
  | done => cases hstep

/-- So they are balanced at every stage. -/
theorem Balanced.of_reaches (h : Reaches openLiteral (ofTokens openLiteral ts) stage) :
    stage.Balanced (if openLiteral then 1 else 0) := by
  induction h with
  | refl => exact .between ⟨rfl, rfl⟩
  | tail _ hstep ih => exact ih.step hstep

/-- At each place the record is that of some open brackets. -/
theorem Balanced.exists_holds {s : State} {stack : List Activation} (h : stage.Balanced base)
    (hplace : stage.place? = some (s, stack)) : ∃ frames, s.Holds base [true] frames := by
  obtain ⟨spans, consumed, rfl, rfl⟩ | ⟨spans, consumed, start, control, rfl, hs⟩ :=
    place_cases hplace
  · cases h with
    | between hs => exact ⟨[], hs⟩
  · cases h with
    | within hm => exact hm.exists_holds hs

/-! ### Places -/

/-- The tokens that are left are the last ones of a row, and a statement has been read forward from
its beginning. -/
inductive Placed (ts : List Token) : Stage → Prop
  | between {spans : List Span} {consumed : ℕ} {s : State} (hs : s.rest <:+ ts) :
      Placed ts (between spans consumed s)
  | within {spans : List Span} {consumed : ℕ} {start : State} {m : Machine}
      (hstart : start.rest <:+ ts)
      (hm : ∀ s, m.control.state? = some s → ∃ u, start.Reads u s) :
      Placed ts (within spans consumed start m)
  | done {answer : Split} : Placed ts (done answer)

/-- A step of the division stays within the tokens. -/
theorem Placed.step (h : stage.Placed ts) (hstep : stage.step openLiteral = some stage') :
    stage'.Placed ts := by
  cases h with
  | @between spans consumed s hs =>
    rw [Stage.step] at hstep
    split at hstep
    · obtain rfl := Option.some.inj hstep
      exact .done
    · obtain rfl := Option.some.inj hstep
      refine .within ((Split.skipSemicolons_suffix _).trans hs) fun s' hs' => ?_
      obtain rfl := Option.some.inj hs'
      exact ⟨[], .refl _⟩
  | @within spans consumed start m hstart hm =>
    -- what has been read since the statement began grows with each step
    cases next_of_step hstep with
    | goOn hnext =>
      refine .within hstart fun s' hs' => ?_
      obtain ⟨s, u, hs, hu⟩ := Machine.reads_step hnext hs'
      obtain ⟨v, hv⟩ := hm s hs
      exact ⟨v ++ u, hv.trans hu⟩
    | @ended s spans' hended =>
      obtain ⟨u, hu⟩ := hm s (by rw [hended]; rfl)
      exact .between (hu.suffix.trans hstart)
    | answer => exact .done
  | done => cases hstep

/-- So does every stage. -/
theorem Placed.of_reaches (h : Reaches openLiteral (ofTokens openLiteral ts) stage) :
    stage.Placed ts := by
  induction h with
  | refl => exact .between List.suffix_rfl
  | tail _ hstep ih => exact ih.step hstep

/-- What is left at a place is an end of the tokens. -/
theorem Placed.rest_suffix {s : State} {stack : List Activation} (h : stage.Placed ts)
    (hplace : stage.place? = some (s, stack)) : s.rest <:+ ts := by
  obtain ⟨spans, consumed, rfl, rfl⟩ | ⟨spans, consumed, start, control, rfl, hs⟩ :=
    place_cases hplace
  · cases h with
    | between hs => exact hs
  · cases h with
    | within hstart hm =>
      obtain ⟨u, hu⟩ := hm s hs
      exact hu.suffix.trans hstart

end Stage

end StatementReader
