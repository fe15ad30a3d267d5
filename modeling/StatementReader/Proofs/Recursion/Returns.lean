import StatementReader.Proofs.Recursion.Bound
import StatementReader.Proofs.Recursion.Brackets

/-!
# What a production leaves behind

The grammar's productions are rules, and each of them may be entered at any place that is reached in
a text. It returns when it is left for the first time after that (`Machine.Returns`). Until then the
machine never looks at what is on the stack below it, save for the number of calls
(`Machine.step_above`). So the stack is then what it was, and the result does not depend on it. That
the result is the one of `Rule.run` is seen on a stack of calls alone, where a rule that is left
ends everything (`Machine.Returns.result_eq`).

What holds of `Rule.run` therefore holds of each production that returns: as many brackets are open
as before, with the same line modes, and a token has been taken. Together with the record of the
open brackets at all times this is `split_keeps_record`.
-/

namespace StatementReader

namespace Machine

open Rule

variable {height levels : ℕ} {rule : Rule} {s : State} {r r' : Except Stop State}
  {top base stack stack' : List Activation} {control : Control} {m m' : Machine}

/-! ### Above a stack -/

/-- What has been entered above a stack of a height has not been left. -/
def Inside (height : ℕ) : Machine → Prop
  | ⟨.enter .., stack⟩ => height ≤ stack.length
  | ⟨.leave _, stack⟩ => height < stack.length

/-- A step before what has been entered above a stack of a height is left. -/
def StepInside (height : ℕ) (m m' : Machine) : Prop := m.Inside height ∧ m.step = some m'

/-- The first machine becomes the second one in any number of steps. -/
def Reaches : Machine → Machine → Prop := Relation.ReflTransGen fun m m' => m.step = some m'

/-- A rule that is entered returns: it is left with a result for the first time. -/
structure Returns (rule : Rule) (s : State) (stack : List Activation) (r : Except Stop State)
    (stack' : List Activation) : Prop where
  path : Relation.ReflTransGen (StepInside stack.length) ⟨.enter rule s, stack⟩ ⟨.leave r, stack'⟩
  left : stack'.length ≤ stack.length

/-- Calls above and below a place are counted together. -/
theorem nesting_append (top base : List Activation) :
    nesting (top ++ base) = nesting top + nesting base := by
  induction top with
  | nil => exact (Nat.zero_add _).symm
  | cons a top ih =>
    -- only a call counts
    cases a with
    | call =>
      change nesting (top ++ base) + 1 = nesting top + 1 + nesting base
      omega
    | first _ | second | branch | round _ _ _ => exact ih

/-- Nothing below is touched, and nothing but the number of calls is asked of it. -/
theorem step_above (hinside : Inside base.length ⟨control, top ++ base⟩)
    (hstep : step ⟨control, top ++ base⟩ = some m') :
    ∃ top', m'.stack = top' ++ base ∧ ∀ base', nesting base' = nesting base →
      step ⟨control, top ++ base'⟩ = some ⟨m'.control, top' ++ base'⟩ := by
  cases control with
  | enter rule s =>
    cases rule with
    | seq first second =>
      obtain rfl := Option.some.inj hstep
      exact ⟨.first second :: top, rfl, fun _ _ => rfl⟩
    | branch look yes no =>
      obtain rfl := Option.some.inj hstep
      exact ⟨.branch :: top, rfl, fun _ _ => rfl⟩
    | repeatWhile look round =>
      rw [step] at hstep
      split at hstep
      · next hlook =>
        obtain rfl := Option.some.inj hstep
        exact ⟨.round look round s :: top, rfl, fun _ _ => if_pos hlook⟩
      · next hlook =>
        obtain rfl := Option.some.inj hstep
        exact ⟨top, rfl, fun _ _ => if_neg hlook⟩
    | call c =>
      -- whether a call is refused depends on the number of calls, which both stacks share
      rw [step] at hstep
      split at hstep
      · next hfree =>
        obtain rfl := Option.some.inj hstep
        refine ⟨.call :: top, rfl, fun base' hbase => if_pos ?_⟩
        rwa [nesting_append, hbase, ← nesting_append]
      · next hfull =>
        obtain rfl := Option.some.inj hstep
        refine ⟨top, rfl, fun base' hbase => if_neg ?_⟩
        rwa [nesting_append, hbase, ← nesting_append]
    | _ =>
      obtain rfl := Option.some.inj hstep
      exact ⟨top, rfl, fun _ _ => rfl⟩
  | leave r =>
    -- the rule around the one that is left is on the stack above, and it alone decides
    cases top with
    | nil => exact absurd hinside (Nat.lt_irrefl _)
    | cons a top =>
      cases a with
      | first second =>
        cases r with
        | error stop =>
          obtain rfl := Option.some.inj hstep
          exact ⟨top, rfl, fun _ _ => rfl⟩
        | ok s =>
          obtain rfl := Option.some.inj hstep
          exact ⟨.second :: top, rfl, fun _ _ => rfl⟩
      | second | branch | round _ _ _ | call =>
        cases r <;>
        · obtain rfl := Option.some.inj hstep
          exact ⟨top, rfl, fun _ _ => rfl⟩

/-- The same steps can be made above any stack with as many calls. -/
theorem reaches_above (h : Relation.ReflTransGen (StepInside base.length) m m')
    (htop : m.stack = top ++ base) : ∃ top', m'.stack = top' ++ base ∧
      ∀ base', nesting base' = nesting base →
        Reaches ⟨m.control, top ++ base'⟩ ⟨m'.control, top' ++ base'⟩ := by
  induction h with
  | refl => exact ⟨top, htop, fun _ _ => .refl⟩
  | @tail mid last _ hlast ih =>
    obtain ⟨above, habove, hpath⟩ := ih
    -- the last step is made above the base too, so the base may be another one
    obtain ⟨hinside, hstep⟩ := hlast
    obtain ⟨control, stack⟩ := mid
    obtain rfl : stack = above ++ base := habove
    obtain ⟨top', htop', hagain⟩ := step_above hinside hstep
    exact ⟨top', htop', fun base' hbase => (hpath base' hbase).tail (hagain base' hbase)⟩

/-! ### Results -/

theorem Returns.above (h : Returns rule s stack r stack') : stack' = stack ∧
    ∀ base, nesting base = nesting stack → Reaches ⟨.enter rule s, base⟩ ⟨.leave r, base⟩ := by
  have hstart : stack = [] ++ stack := rfl
  obtain ⟨top', htop', hpath⟩ := reaches_above h.path hstart
  have hlength := h.left
  obtain rfl : stack' = top' ++ stack := htop'
  -- it has been left, so nothing is there any more above the stack
  have hnil : top' = [] := by
    rw [List.length_append] at hlength
    exact List.length_eq_zero_iff.1 (by omega)
  subst hnil
  exact ⟨rfl, hpath⟩

/-- A rule that is left inside nothing but calls ends everything. -/
theorem reaches_of_calls (r : Except Stop State) (n : ℕ) :
    Reaches ⟨.leave r, List.replicate n .call⟩ ⟨.leave r, []⟩ := by
  induction n with
  | zero => exact .refl
  | succ n ih =>
    refine .head ?_ ih
    cases r <;> rfl

theorem nesting_replicate (n : ℕ) : nesting (List.replicate n .call) = n := by
  induction n with
  | zero => rfl
  | succ n ih => exact congrArg (· + 1) ih

/-- There is only one end. -/
theorem end_unique (h : Reaches m ⟨.leave r, []⟩) (h' : Reaches m ⟨.leave r', []⟩) : r = r' := by
  have hterminal {r : Except Stop State} {m : Machine} (hm : Reaches ⟨.leave r, []⟩ m) :
      m = ⟨.leave r, []⟩ := by
    rcases hm.cases_head with rfl | ⟨next, hstep, -⟩
    · rfl
    · cases r <;> cases hstep
  have htotal := Relation.ReflTransGen.total_of_right_unique
    (fun _ _ _ hb hc => Option.some.inj (hb.symm.trans hc)) h h'
  have hsame : (⟨.leave r, []⟩ : Machine) = ⟨.leave r', []⟩ :=
    htotal.elim (fun hm => (hterminal hm).symm) hterminal
  cases hsame
  rfl

/-- What a rule is left with on some stack, if its repetitions come to an end. -/
theorem leads_run (hlevels : nesting stack + levels = maxNesting) (hhalts : rule.halts false)
    (hwavers : rule.wavers = false) (s : State) :
    Reaches ⟨.enter rule s, stack⟩ ⟨.leave (run (read levels) rule s), stack⟩ := by
  have hroom : Room (stack.length + rule.height + levels * callHeight) levels rule.height stack :=
    ⟨hlevels, Nat.le_refl _⟩
  obtain ⟨r, hagrees, hleads⟩ := leads_rule (fun c s stack hroom => leads_call c s hroom) hhalts
    (fun hopen => by cases hopen) hroom (s := s)
  rw [hagrees.eq hwavers] at hleads
  exact Relation.ReflTransGen.mono (fun _ _ => And.right) _ _ hleads

/-- A rule returns with the result of `Rule.run`. -/
theorem Returns.result_eq (h : Returns rule s stack r stack')
    (hlevels : nesting stack + levels = maxNesting) (hhalts : rule.halts false)
    (hwavers : rule.wavers = false) : r = run (read levels) rule s := by
  -- where there is nothing but calls below, leaving the rule is the end
  let calls := List.replicate (nesting stack) Activation.call
  have hcalls : nesting calls = nesting stack := nesting_replicate _
  have hreturned : Reaches ⟨.enter rule s, calls⟩ ⟨.leave r, calls⟩ := h.above.2 calls hcalls
  have hrun : Reaches ⟨.enter rule s, calls⟩ ⟨.leave (run (read levels) rule s), calls⟩ :=
    leads_run (hcalls ▸ hlevels) hhalts hwavers s
  exact end_unique (hreturned.trans (reaches_of_calls r _)) (hrun.trans (reaches_of_calls _ _))

/-- What comes to be left is left for a first time. -/
theorem exists_first_left (h : Reaches m m') (hleft : ¬ m'.Inside height) :
    ∃ first, Relation.ReflTransGen (StepInside height) m first ∧ ¬ first.Inside height := by
  induction h using Relation.ReflTransGen.head_induction_on with
  | refl => exact ⟨m', .refl, hleft⟩
  | @head m next hstep _ ih =>
    by_cases hinside : m.Inside height
    · obtain ⟨first, hfirst, hout⟩ := ih
      exact ⟨first, .head ⟨hinside, hstep⟩ hfirst, hout⟩
    · exact ⟨m, .refl, hinside⟩

/-- A rule whose repetitions come to an end returns. -/
theorem returns_run (hlevels : nesting stack + levels = maxNesting) (hhalts : rule.halts false)
    (hwavers : rule.wavers = false) (s : State) :
    Returns rule s stack (run (read levels) rule s) stack := by
  have hrun := leads_run hlevels hhalts hwavers s
  -- the first state that has left the stack of the rule is the one that returns
  obtain ⟨⟨control, stack'⟩, hpath, hout⟩ :=
    exists_first_left hrun (Nat.lt_irrefl stack.length)
  have hstart : stack = [] ++ stack := rfl
  obtain ⟨top', htop', -⟩ := reaches_above hpath hstart
  obtain rfl : stack' = top' ++ stack := htop'
  have hlength : (top' ++ stack).length = top'.length + stack.length := List.length_append
  cases control with
  | enter rule' s' =>
    refine absurd (?_ : stack.length ≤ (top' ++ stack).length) hout
    omega
  | leave r =>
    have hle : (top' ++ stack).length ≤ stack.length := Nat.le_of_not_lt hout
    have hreturns : Returns rule s stack r (top' ++ stack) := ⟨hpath, hle⟩
    obtain ⟨hstack, -⟩ := hreturns.above
    rw [hstack, hreturns.result_eq hlevels hhalts hwavers] at hreturns
    exact hreturns

end Machine

/-! ### Productions -/

namespace Rule

/-- The productions of the grammar that cannot succeed without taking a token. -/
def productions : List Rule :=
  [statement, block, pattern, params, importPath, type, typeArgs, expr, condition, operation,
    signedOperand, operand, args, primary]

/-- What is read off the text of a rule: its repetitions come to an end, it stops unless it takes a
token, and it closes the brackets that it opens. -/
structure Closed (rule : Rule) : Prop where
  halts : rule.halts false
  wavers : rule.wavers = false
  takes : rule.takes
  stopsAtEnd : rule.stopsAtEnd
  balanced : rule.balanced

theorem closed_of_mem_productions {p : Rule} (h : p ∈ productions) : p.Closed := by
  have hall : ∀ p ∈ productions, p.halts false ∧ p.wavers = false ∧ p.takes ∧ p.stopsAtEnd ∧
      p.balanced := by decide
  obtain ⟨hhalts, hwavers, htakes, hstops, hbalanced⟩ := hall p h
  exact ⟨hhalts, hwavers, htakes, hstops, hbalanced⟩

variable {levels : ℕ} {rule : Rule} {s s' : State}

theorem Closed.rest_lt (h : rule.Closed) (hrun : run (read levels) rule s = .ok s') :
    s'.rest.length < s.rest.length := by
  have hleft : s.rest ≠ [] := by
    intro hs
    obtain ⟨e, hstop⟩ := run_eq_stop hs (read_eq_stop levels · hs) h.stopsAtEnd
    cases hrun.symm.trans hstop
  exact takes_run (forward_read levels) (takes_read levels) h.takes hrun hleft

end Rule

namespace State

variable {ts : List Token} {s s' : State}

/-- How many tokens of a row have been read. -/
def pos (ts : List Token) (s : State) : ℕ := ts.length - s.rest.length

/-- What is left is what the position leaves. -/
theorem rest_eq_drop (h : s.rest <:+ ts) : s.rest = ts.drop (s.pos ts) :=
  List.suffix_iff_eq_drop.1 h

/-- With fewer tokens left the position is farther on. -/
theorem pos_lt_pos (h : s.rest <:+ ts) (hlt : s'.rest.length < s.rest.length) :
    s.pos ts < s'.pos ts := by
  have hle := h.length_le
  unfold pos
  omega

/-- The state is at a token of a row or behind the last one. There is a line mode for the top level
and one for each open bracket, and the count has grown from `initial` by the number of these. -/
structure Recorded (initial : ℕ) (ts : List Token) (s : State) : Prop where
  depth : s.depth + 1 = initial + s.lineModes.length
  lineModes : s.lineModes ≠ []
  pos_le : s.pos ts ≤ ts.length
  rest : s.rest = ts.drop (s.pos ts)

/-- The brackets open in the second state are those of the first one, and at least one more token
has been read, but none that is not there. -/
structure Restores (ts : List Token) (s s' : State) : Prop where
  depth : s'.depth = s.depth
  lineModes : s'.lineModes = s.lineModes
  pos_lt : s.pos ts < s'.pos ts
  pos_le : s'.pos ts ≤ ts.length
  rest : s'.rest = ts.drop (s'.pos ts)

/-- The frames that are open are those that the state has recorded. -/
theorem Holds.recorded {initial : ℕ} {frames : List Frame} (h : s.Holds initial [true] frames)
    (hrest : s.rest <:+ ts) : s.Recorded initial ts := by
  refine ⟨?_, ?_, Nat.sub_le _ _, rest_eq_drop hrest⟩
  · rw [h.depth, h.lineModes]
    simp [Nat.add_assoc]
  · rw [h.lineModes]
    exact List.append_ne_nil_of_right_ne_nil _ (List.cons_ne_nil _ _)

/-- With a frame open, the depth and the line modes show it. -/
theorem Holds.pos_of_cons {initial : ℕ} {frame : Frame} {frames : List Frame}
    (h : s.Holds initial [true] (frame :: frames)) : 0 < s.depth ∧ 1 < s.lineModes.length := by
  have hdepth := h.depth
  have hmodes := congrArg List.length h.lineModes
  rw [List.length_cons] at hdepth
  rw [List.length_append, List.map_cons, List.length_cons, List.length_singleton] at hmodes
  omega

/-- The end of the last token read is that of the token before the place that has been reached. -/
theorem Reads.lastStop_eq {start : State} {u : List Token} (h : start.Reads u s)
    (hstart : start.rest <:+ ts) (hlt : s.rest.length < start.rest.length) :
    0 < s.pos ts ∧ ∃ t, ts[s.pos ts - 1]? = some t ∧ s.lastStop = t.stop := by
  obtain ⟨older, rfl⟩ := hstart
  have hrest := h.rest
  -- something has been read, so there is a last token among it
  rcases List.eq_nil_or_concat' u with rfl | ⟨read, t, rfl⟩
  · rw [hrest] at hlt
    exact absurd hlt (Nat.lt_irrefl _)
  · have hpos : s.pos (older ++ start.rest) = (older ++ read).length + 1 := by
      rw [pos, hrest]
      simp only [List.length_append, List.length_singleton]
      omega
    refine ⟨by omega, t, ?_, ?_⟩
    · rw [hpos, Nat.add_sub_cancel, hrest, List.append_assoc read, ← List.append_assoc older]
      exact List.getElem?_append_right (Nat.le_refl _) |>.trans (by simp)
    · rw [h.lastStop, Token.lastStop_append]
      rfl

end State

namespace Rule

/-- A closed rule that returns has restored what it found, and read on. -/
theorem Closed.restores {p : Rule} (h : p.Closed) {ts : List Token} {s s' : State}
    {stack stack' : List Activation} (hrest : s.rest <:+ ts)
    (hnesting : Machine.nesting stack ≤ maxNesting)
    (hreturns : Machine.Returns p s stack (.ok s') stack') : s.Restores ts s' := by
  have hlevels : Machine.nesting stack + (maxNesting - Machine.nesting stack) = maxNesting :=
    Nat.add_sub_cancel' hnesting
  -- the levels that are left are what the calls have not used up
  have hrun := (hreturns.result_eq hlevels h.halts h.wavers).symm
  have hholds := holds_of_balanced h.balanced hrun
  have hsuffix : s'.rest <:+ ts :=
    ((forward_run (forward_read _) p).rest_suffix hrun).trans hrest
  exact ⟨hholds.depth, hholds.lineModes, State.pos_lt_pos hrest (h.rest_lt hrun), Nat.sub_le _ _,
    State.rest_eq_drop hsuffix⟩

end Rule

/-! ### All times -/

namespace Stage

variable {openLiteral : Bool} {ts : List Token} {stage : Stage}

/-- The answer for a row of tokens. -/
def answer (openLiteral : Bool) (ts : List Token) : Split :=
  Split.readFrom openLiteral (ts.length + 1) 0 ⟨ts, 0, if openLiteral then 1 else 0, [true]⟩

/-- The division leads to its answer. -/
theorem leads_answer (openLiteral : Bool) (ts : List Token) :
    Leads openLiteral (ofTokens openLiteral ts) (done (answer openLiteral ts)) :=
  leads_of_rounds (Split.rounds_readFrom _ _ _ _) (Nat.lt_succ_self _) []

/-- Every stage fits into the bounds. -/
theorem fits_of_reaches (h : Reaches openLiteral (ofTokens openLiteral ts) stage) : stage.Fits :=
  (leads_of_reaches rfl (leads_answer openLiteral ts) h).fits (fits_done _)

/-- The calls that are nested at a stage are those on its stack. -/
theorem nesting_of_place {s : State} {stack : List Activation}
    (h : stage.place? = some (s, stack)) : stage.nesting = Machine.nesting stack := by
  obtain ⟨spans, consumed, rfl, rfl⟩ | ⟨spans, consumed, start, control, rfl, -⟩ := place_cases h
  · rfl
  · rfl

end Stage

/-- Whatever the tokens are, the statements are read to an answer, and wherever that is under way,
the state keeps record of the open brackets and its place is one in the row of tokens. If a
production is entered there, it returns; the types and expressions inside one another are then those
from before, and if it has succeeded, so are the open brackets, and it has read a token. Where a
bracket is to be closed, one is open, so the count does not have to stay at zero; and when a
statement is over, it ends where the last token read ends. -/
theorem split_keeps_record (openLiteral : Bool) (ts : List Token) :
    Stage.Reaches openLiteral (.ofTokens openLiteral ts) (.done (Stage.answer openLiteral ts)) ∧
    ∀ stage, Stage.Reaches openLiteral (.ofTokens openLiteral ts) stage →
      (∀ s stack, stage.place? = some (s, stack) →
        s.Recorded (if openLiteral then 1 else 0) ts ∧
        ∀ p ∈ Rule.productions,
          (∃ r stack', Machine.Returns p s stack r stack') ∧
          ∀ r stack', Machine.Returns p s stack r stack' →
            Machine.nesting stack' = Machine.nesting stack ∧
            ∀ s', r = .ok s' → s.Restores ts s') ∧
      (∀ spans consumed start text s stack,
        stage = .within spans consumed start ⟨.enter (.closing text) s, stack⟩ →
        0 < s.depth ∧ 1 < s.lineModes.length) ∧
      (∀ spans consumed start s, stage = .within spans consumed start ⟨.leave (.ok s), []⟩ →
        0 < s.pos ts ∧ ∃ t, ts[s.pos ts - 1]? = some t ∧ s.lastStop = t.stop) := by
  refine ⟨(Stage.leads_answer openLiteral ts).reaches, fun stage hstage => ?_⟩
  have hbalanced := Stage.Balanced.of_reaches hstage
  have hplaced := Stage.Placed.of_reaches hstage
  obtain ⟨-, hnesting, hadvances⟩ := Stage.fits_of_reaches hstage
  refine ⟨?_, ?_, ?_⟩
  · intro s stack hplace
    rw [Stage.nesting_of_place hplace] at hnesting
    have hrest := hplaced.rest_suffix hplace
    -- the brackets that are open are those of the frames on the stack
    obtain ⟨frames, hholds⟩ := hbalanced.exists_holds hplace
    refine ⟨hholds.recorded hrest, fun p hp => ?_⟩
    have hclosed := Rule.closed_of_mem_productions hp
    constructor
    · -- a production halts with its stack, because there is room for the nesting that is left
      exact ⟨_, stack, Machine.returns_run (Nat.add_sub_cancel' hnesting) hclosed.halts
        hclosed.wavers s⟩
    · intro r stack' hreturns
      refine ⟨congrArg Machine.nesting hreturns.above.1, ?_⟩
      rintro s' rfl
      exact hclosed.restores hrest hnesting hreturns
  · rintro spans consumed start text s stack rfl
    cases hbalanced with
    | within hm =>
      -- a bracket that is about to be closed has a frame of its own
      obtain ⟨frame, frames, hholds⟩ := hm.exists_holds_cons
      exact hholds.pos_of_cons
  · rintro spans consumed start s rfl
    cases hplaced with
    | within hstart hm =>
      obtain ⟨u, hu⟩ := hm s rfl
      exact hu.lastStop_eq hstart hadvances

/-- For the tokens of a text the answer is that of `split`. -/
example (t : Text) :
    Stage.answer (TokenRow.ofText t).openLiteral (TokenRow.ofText t).tokens = split t := rfl

end StatementReader
