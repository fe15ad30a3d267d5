import Mathlib.Logic.Relation
import StatementReader.Proofs.Split.Rows

/-!
# Reading step by step

`Rule.run` is a recursive function, so it says what comes out and not what goes on. Here the same is
done in steps, with the rules that have been entered and not yet left on a stack. The stack is that
of a program that has one procedure for each rule. Each of them calls those of the rules inside it.

Nothing bounds the steps. A repetition goes on as long as its question is answered in the
affirmative, also where no token is left, and the statements of a text are read as long as there are
tokens. Only a call counts how many calls it is inside of, and is refused if these are `maxNesting`.
That this ends with the answer of `split` and how deep the stack becomes on the way is a matter of
the grammar's rules, see `Recursion/Bound.lean`.
-/

namespace StatementReader

/-- A rule that has been entered and not been left. -/
inductive Activation where
  /-- Two rules in a row, of which the first one is being read. -/
  | first (second : Rule)
  /-- Two rules in a row, of which the second one is being read. -/
  | second
  | branch
  /-- A repetition, in a round that began at `start`. -/
  | round (look : Look) (round : Rule) (start : State)
  | call

/-- What happens next: a rule is entered, or one is left with a result. -/
inductive Control where
  | enter (rule : Rule) (s : State)
  | leave (result : Except Stop State)

/-- Reading a statement, with the rules that are being read, innermost first. -/
structure Machine where
  control : Control
  stack : List Activation

namespace Machine

/-- The calls in one another that have been made. -/
def nesting : List Activation → Nat
  | [] => 0
  | .call :: stack => nesting stack + 1
  | _ :: stack => nesting stack

/-- One step, unless all rules have been left. -/
def step : Machine → Option Machine
  | ⟨.enter (.seq first second) s, stack⟩ => some ⟨.enter first s, .first second :: stack⟩
  | ⟨.enter (.branch look yes no) s, stack⟩ =>
    some ⟨.enter (if look.holds s then yes else no) s, .branch :: stack⟩
  | ⟨.enter (.repeatWhile look round) s, stack⟩ =>
    if look.holds s then some ⟨.enter round s, .round look round s :: stack⟩
    else some ⟨.leave (.ok s), stack⟩
  | ⟨.enter (.call c) s, stack⟩ =>
    if nesting stack < Rule.maxNesting then some ⟨.enter (Rule.construct c) s, .call :: stack⟩
    else some ⟨.leave (.error (s.stop .shallowerNesting)), stack⟩
  | ⟨.enter rule s, stack⟩ => some ⟨.leave (Rule.run (Rule.read 0) rule s), stack⟩
  | ⟨.leave (.ok m), .first second :: stack⟩ => some ⟨.enter second m, .second :: stack⟩
  | ⟨.leave (.ok m), .round look round _ :: stack⟩ =>
    some ⟨.enter (.repeatWhile look round) m, stack⟩
  | ⟨.leave result, _ :: stack⟩ => some ⟨.leave result, stack⟩
  | ⟨.leave _, []⟩ => none

/-- A round that is over has taken a token. -/
def Advances : Machine → Prop
  | ⟨.leave (.ok m), .round _ _ start :: _⟩ => m.rest.length < start.rest.length
  | _ => True

/-- A call that is refused here because it is nested too deeply, with the reason to stop. -/
def Refuses (m : Machine) (stop : Stop) : Prop :=
  ∃ c s stack, m = ⟨.enter (.call c) s, stack⟩ ∧ Rule.maxNesting ≤ nesting stack ∧
    stop = s.stop .shallowerNesting

end Machine

/-- Reading the statements of a text. -/
inductive Stage where
  /-- The statements at `spans` have been read, and the last one ended at `consumed`. -/
  | between (spans : List Span) (consumed : Nat) (s : State)
  /-- After these, a statement is being read that begins at `start`. -/
  | within (spans : List Span) (consumed : Nat) (start : State) (m : Machine)
  | done (answer : Split)

namespace Stage

/-- One step, unless there is an answer. -/
def step (openLiteral : Bool) : Stage → Option Stage
  | between spans consumed s =>
    let start := Split.skipSemicolons s
    if start.rest.isEmpty then some (done ((Split.atEnd openLiteral consumed).prepend spans))
    else some (within spans consumed start ⟨.enter Rule.statement start, []⟩)
  | within spans consumed start m =>
    match m.step, m.control with
    | some m, _ => some (within spans consumed start m)
    | none, .leave (.ok s) =>
      if Split.separated s then
        some (between (spans ++ [⟨(start.rest.head?.map (·.start)).getD 0, s.lastStop⟩])
          s.lastStop s)
      else some (done (Split.ofStop s.lastStop (s.stop .separator)))
    | none, .leave (.error stop) => some (done (Split.ofStop consumed stop))
    | none, .enter .. => none
  | done _ => none

/-- The beginning of a text. -/
def start (t : Text) : Stage :=
  between [] 0 ⟨(TokenRow.ofText t).tokens, 0, if (TokenRow.ofText t).openLiteral then 1 else 0,
    [true]⟩

/-- The first stage becomes the second one in any number of steps. -/
def Reaches (openLiteral : Bool) : Stage → Stage → Prop :=
  Relation.ReflTransGen fun stage stage' => stage.step openLiteral = some stage'

/-- The calls that are active: that of the statements, those on the stack, and that of the rule
which is entered or left. -/
def activeCalls : Stage → Nat
  | between .. => 1
  | within _ _ _ m => m.stack.length + 2
  | done _ => 0

/-- The types and expressions inside one another that are being read. -/
def nesting : Stage → Nat
  | within _ _ _ m => Machine.nesting m.stack
  | _ => 0

/-- A round of a repetition or a statement that is over has taken a token. -/
def Advances : Stage → Prop
  | within _ _ start ⟨.leave (.ok s), []⟩ => s.rest.length < start.rest.length
  | within _ _ _ m => m.Advances
  | _ => True

end Stage
end StatementReader
