import StatementReader.Grammar.Statement

/-!
# Reading goes forward

A rule never puts a token back. From the tokens it was given it reads some at the front and leaves
the others (`State.Reads`), and a token that it objects to is one it was given
(`Production.Forward`). Both hold of every rule, whatever it says, so they are proved once over the
constructors of `Rule` and then for the grammar with any budget of levels.

Whether a rule takes something is read off its text: `Rule.takes` says that reading by it can only
succeed by taking a token, unless there is none. Every round of the grammar's repetitions is of
that kind, and so are its statements, types and expressions.

The bound of a repetition, the tokens left when it begins, is then never reached before the tokens
end. `Rule.Rounds` is what a repetition amounts to without the bound: rounds as long as the question
is answered in the affirmative, with the freedom to stop where no token is left.
-/

namespace StatementReader

/-! ### Questions about the next tokens -/

namespace Look

/-- The answer depends on the tokens left and on the innermost line mode only. -/
theorem holds_congr {s t : State} (hr : s.rest = t.rest)
    (hm : s.lineModes.headD true = t.lineModes.headD true) (look : Look) :
    look.holds s = look.holds t := by
  have hl : s.lineEnds = t.lineEnds := by simp only [State.lineEnds, hr, hm]
  have ha : s.advance.rest = t.advance.rest := by
    unfold State.advance
    rw [hr]
    cases hc : t.rest <;> simp [hr, hc]
  -- a look sees two tokens at most, and whether the first one is on a new line
  induction look with
  | mark | keyword | ident | literal | sign | infixOperator =>
    simp only [holds, State.atMark, State.atIdent, hr]
  | lambda | markNotBefore => simp only [holds, State.atMark, State.atIdent, hr, ha]
  | sameLine look ih => simp only [holds, ih, hl]
  | either look other ih₁ ih₂ => simp only [holds, ih₁, ih₂]
  | no look ih => simp only [holds, ih]

end Look

namespace State

/-- At the end, advancing changes nothing. -/
@[simp] theorem advance_of_rest_nil {s : State} (h : s.rest = []) : s.advance = s := by
  simp [advance, h]

/-- Advancing takes one token and remembers where it stops. -/
theorem advance_of_rest_cons {s : State} {t : Token} {r : List Token} (h : s.rest = t :: r) :
    s.advance = { s with rest := r, lastStop := t.stop } := by
  simp [advance, h]

/-- Advancing leaves all but the first token. -/
theorem advance_rest (s : State) : s.advance.rest = s.rest.tail := by
  cases h : s.rest with
  | nil => simp [advance, h]
  | cons t r => simp [advance_of_rest_cons h]

/-- The next tokens are the first of them and those that are next after taking it. -/
theorem take_succ_rest (k : Nat) (s : State) :
    s.rest.take (k + 1) = s.rest.take 1 ++ s.advance.rest.take k := by
  rw [advance_rest]
  cases s.rest <;> simp

/-- What a question about the next token tells of it, if there is one. -/
theorem forall_mem_take_one {p : Token → Bool} {q : Token → Prop} {s : State}
    (hp : ∀ t, p t → q t) (h : s.rest.head?.any p) : ∀ t ∈ s.rest.take 1, q t := by
  intro t ht
  -- the first token is the only one that is taken
  cases hrest : s.rest with
  | nil => simp [hrest] at ht
  | cons first rest =>
    rw [hrest] at h ht
    obtain rfl : t = first := by simpa using ht
    exact hp t h

end State

/-! ### What has been read -/

/-- The end of the last token of a row, and `n` if there is none. -/
def Token.lastStop (n : Nat) (ts : List Token) : Nat := ts.foldl (fun _ t => t.stop) n

@[simp] theorem Token.lastStop_nil (n : Nat) : Token.lastStop n [] = n := rfl

@[simp] theorem Token.lastStop_cons (n : Nat) (t : Token) (ts : List Token) :
    Token.lastStop n (t :: ts) = Token.lastStop t.stop ts := rfl

/-- The last token of two rows is that of the second one, if it has any. -/
theorem Token.lastStop_append (n : Nat) (ts us : List Token) :
    Token.lastStop n (ts ++ us) = Token.lastStop (Token.lastStop n ts) us :=
  List.foldl_append

/-- The tokens `u` are read between the two states. -/
structure State.Reads (s : State) (u : List Token) (s' : State) : Prop where
  rest : s.rest = u ++ s'.rest
  lastStop : s'.lastStop = Token.lastStop s.lastStop u

namespace State.Reads

variable {s m s' : State} {u v : List Token}

/-- Nothing at all has been read. -/
theorem refl (s : State) : s.Reads [] s := ⟨rfl, rfl⟩

/-- What two steps have read is what the first one has read and then the second. -/
theorem trans (h₁ : s.Reads u m) (h₂ : m.Reads v s') : s.Reads (u ++ v) s' :=
  ⟨by rw [h₁.rest, h₂.rest, List.append_assoc],
    by rw [h₂.lastStop, h₁.lastStop, Token.lastStop_append]⟩

/-- Advancing reads one token, or nothing at the end. -/
theorem advance (s : State) : ∃ u, s.Reads u s.advance := by
  cases h : s.rest with
  | nil => exact ⟨[], by rw [advance_of_rest_nil h]; exact refl s⟩
  | cons t r => exact ⟨[t], by rw [advance_of_rest_cons h]; exact ⟨h, rfl⟩⟩

/-- A state that differs in its record of brackets is reached by the same tokens. -/
theorem congr (h : s.Reads u m) (hr : s'.rest = m.rest) (hl : s'.lastStop = m.lastStop) :
    s.Reads u s' :=
  ⟨by rw [hr, h.rest], by rw [hl, h.lastStop]⟩

/-- What is left is the end of what was there. -/
theorem suffix (h : s.Reads u s') : s'.rest <:+ s.rest := ⟨u, h.rest.symm⟩

end State.Reads

/-! ### Productions -/

namespace Production

/-- Tokens are read from the front, and a token objected to was there. -/
structure Forward (p : Production) : Prop where
  reads : ∀ {s s' : State}, p s = .ok s' → ∃ u, s.Reads u s'
  found_mem : ∀ {s : State} {e : Expected} {t : Token}, p s = .error (.violation e (some t)) →
    t ∈ s.rest

/-- Success means that a token was taken, unless there was none. -/
def Takes (p : Production) : Prop :=
  ∀ {s s' : State}, p s = .ok s' → s.rest ≠ [] → s'.rest.length < s.rest.length

/-- A production leaves the end of what was there. -/
theorem Forward.rest_suffix {p : Production} (hf : p.Forward) {s s' : State} (h : p s = .ok s') :
    s'.rest <:+ s.rest := by
  obtain ⟨u, hu⟩ := hf.reads h
  exact hu.suffix

/-- One production after another reads on from where the first one stopped, and a token that the
second one objects to is one that the first has left. -/
theorem Forward.bind {p q : Production} (hp : p.Forward) (hq : q.Forward) :
    Production.Forward fun s => p s >>= q where
  -- both have succeeded, so their tokens are put together
  reads {s s'} h := by
    cases hm : p s with
    | error stop => simp [hm, Bind.bind, Except.bind] at h
    | ok m =>
      simp only [hm, Bind.bind, Except.bind] at h
      obtain ⟨u, hu⟩ := hp.reads hm
      obtain ⟨v, hv⟩ := hq.reads h
      exact ⟨u ++ v, hu.trans hv⟩
  -- what the second production has found was left by the first
  found_mem {s e t} h := by
    cases hm : p s with
    | error stop =>
      simp only [hm, Bind.bind, Except.bind] at h
      exact hp.found_mem (hm.trans h)
    | ok m =>
      simp only [hm, Bind.bind, Except.bind] at h
      exact (hp.rest_suffix hm).subset (hq.found_mem h)

end Production

/-- A token objected to is the next one. -/
theorem State.mem_rest_of_stop {s : State} {e e' : Expected} {t : Token}
    (h : s.stop e = .violation e' (some t)) : t ∈ s.rest := by
  unfold State.stop at h
  split at h
  · simp at h
  · simp only [Stop.violation.injEq] at h
    exact List.mem_of_mem_head? h.2

namespace Rule

variable {calls : Construct → Production}

/-! ### Equations of reading -/

/-- A sequence runs its first rule and then its second. -/
theorem run_seq (first second : Rule) (s : State) :
    run calls (first >> second) s = (run calls first s >>= run calls second) := rfl

/-- Two rules in a row succeed through a state between them. -/
theorem run_seq_eq_ok {first second : Rule} {s s' : State} :
    run calls (first >> second) s = .ok s' ↔
      ∃ m, run calls first s = .ok m ∧ run calls second m = .ok s' := by
  rw [run_seq]
  cases run calls first s <;> simp [bind, Except.bind]

/-- Two rules in a row stop in the first one or in the second one. -/
theorem run_seq_eq_error {first second : Rule} {s : State} {stop : Stop} :
    run calls (first >> second) s = .error stop ↔
      run calls first s = .error stop ∨
        ∃ m, run calls first s = .ok m ∧ run calls second m = .error stop := by
  rw [run_seq]
  cases run calls first s <;> simp [bind, Except.bind]

/-- Rules in a row may be grouped at will. -/
theorem run_seq_assoc (a b c : Rule) (s : State) :
    run calls ((a >> b) >> c) s = run calls (a >> (b >> c)) s := by
  simp only [run_seq]
  cases run calls a s <;> rfl

/-- A branch runs what its look decides. -/
theorem run_branch (look : Look) (yes no : Rule) (s : State) :
    run calls (branch look yes no) s =
      if look.holds s then run calls yes s else run calls no s := rfl

/-- If the look fails, a branch runs its second rule. -/
theorem run_branch_no {look : Look} {yes no : Rule} {s : State} (h : look.holds s = false) :
    run calls (branch look yes no) s = run calls no s := by
  rw [run_branch, h]
  rfl

/-- An optional rule runs if its look succeeds. -/
theorem run_optional (look : Look) (rule : Rule) (s : State) :
    run calls (optional look rule) s = if look.holds s then run calls rule s else .ok s := rfl

/-- An optional rule has succeeded, or its look has failed and nothing has happened. -/
theorem run_optional_eq_ok {look : Look} {rule : Rule} {s s' : State} :
    run calls (optional look rule) s = .ok s' ↔
      (look.holds s ∧ run calls rule s = .ok s') ∨ (look.holds s = false ∧ s = s') := by
  rw [run_optional]
  split <;> simp_all

/-- A token is taken if it passes a test. -/
theorem takeIf_eq_ok {test : State → Bool} {e : Expected} {s s' : State} :
    takeIf test e s = .ok s' ↔ test s ∧ s.advance = s' := by
  unfold takeIf
  split <;> simp_all

/-- If it does not, this is where parsing stops. -/
theorem takeIf_eq_error {test : State → Bool} {e : Expected} {s : State} {stop : Stop} :
    takeIf test e s = .error stop ↔ test s = false ∧ s.stop e = stop := by
  unfold takeIf
  split <;> simp_all

/-- An opening bracket is taken if it is there, and a level is entered. -/
theorem run_opening_eq_ok {text : Text} {lineMode : Bool} {s s' : State} :
    run calls (opening text lineMode) s = .ok s' ↔
      s.atMark text ∧ s.advance.enter lineMode = s' := by
  simp only [run, takeIf]
  split <;> simp_all [bind, Except.bind, pure, Except.pure]

/-- Without the bracket, this is where parsing stops. -/
theorem run_opening_eq_error {text : Text} {lineMode : Bool} {s : State} {stop : Stop} :
    run calls (opening text lineMode) s = .error stop ↔
      s.atMark text = false ∧ s.stop (.mark text) = stop := by
  simp only [run, takeIf]
  split <;> simp_all [bind, Except.bind, pure, Except.pure]

/-- A closing bracket is taken if it is there, and a level is left. -/
theorem run_closing_eq_ok {text : Text} {s s' : State} :
    run calls (closing text) s = .ok s' ↔ s.atMark text ∧ s.advance.leave = s' := by
  simp only [run, takeIf]
  split <;> simp_all [bind, Except.bind, pure, Except.pure]

/-- Without the bracket, parsing stops before it. -/
theorem run_closing_eq_error {text : Text} {s : State} {stop : Stop} :
    run calls (closing text) s = .error stop ↔
      s.atMark text = false ∧ s.stop (.mark text) = stop := by
  simp only [run, takeIf]
  split <;> simp_all [bind, Except.bind, pure, Except.pure]

/-- A statement ends before a certain token or at a line break, and nothing is taken. -/
theorem run_endOfStatement_eq_ok {look : Look} {e : Expected} {s s' : State} :
    run calls (endOfStatement look e) s = .ok s' ↔
      (look.holds s ∨ s.rest.head?.any (·.afterBreak)) ∧ s = s' := by
  simp only [run]
  split <;> simp_all

/-! ### Repetition without its bound -/

/-- What a repetition may amount to. Where no token is left it may stop, whatever the answer. -/
inductive Rounds (test : State → Bool) (round : Production) : State → Except Stop State → Prop
  | spent {s} : s.rest = [] → Rounds test round s (.ok s)
  | done {s} : test s = false → Rounds test round s (.ok s)
  | stopped {s stop} : test s → round s = .error stop → Rounds test round s (.error stop)
  | again {s m res} : test s → round s = .ok m → Rounds test round m res →
      Rounds test round s res

/-- One round of a loop is run if the test succeeds, and then the others. -/
theorem iterate_cons (test : State → Bool) (round : Production) (t : Token) (bound : List Token)
    (s : State) : iterate test round (t :: bound) s =
      if test s then round s >>= iterate test round bound else .ok s := rfl

/-- A repetition succeeds by a round and what follows it, or where no round is to be made. -/
theorem iterate_cons_eq_ok {test : State → Bool} {round : Production} {t : Token}
    {bound : List Token} {s s' : State} : iterate test round (t :: bound) s = .ok s' ↔
      (test s ∧ ∃ m, round s = .ok m ∧ iterate test round bound m = .ok s') ∨
        test s = false ∧ s = s' := by
  rw [iterate_cons]
  cases test s <;> cases round s <;> simp [bind, Except.bind]

/-- A bound of as many tokens as are left is never in the way of rounds that take tokens. -/
theorem rounds_iterate {test : State → Bool} {round : Production} (hf : round.Forward)
    (ht : round.Takes) {bound : List Token} {s : State} (hb : s.rest.length ≤ bound.length) :
    Rounds test round s (iterate test round bound s) := by
  induction bound generalizing s with
  | nil =>
    have hnil : s.rest = [] := List.length_eq_zero_iff.1 (by simpa using hb)
    exact .spent hnil
  | cons t bound ih =>
    rw [iterate_cons]
    split
    · next htest =>
      cases hr : round s with
      | error stop => exact .stopped htest hr
      | ok m =>
        refine .again htest hr (ih ?_)
        have hle := (hf.rest_suffix hr).length_le
        by_cases hnil : s.rest = []
        · -- a round that has nothing to take leaves nothing
          rw [hnil] at hle
          exact Nat.le_trans hle (Nat.zero_le _)
        · -- a round that has something to take uses up one token of the bound
          have := ht hr hnil
          simp only [List.length_cons] at hb
          omega
    · next htest => exact .done (by simpa using htest)

/-! ### Every rule goes forward -/

/-- Taking a token goes forward. -/
theorem forward_takeIf (test : State → Bool) (e : Expected) :
    Production.Forward (takeIf test e) where
  reads h := by
    obtain ⟨-, rfl⟩ := takeIf_eq_ok.1 h
    exact State.Reads.advance _
  found_mem h := State.mem_rest_of_stop (takeIf_eq_error.1 h).2

/-- A loop goes forward if each of its rounds does. -/
theorem forward_iterate {test : State → Bool} {round : Production} (hf : round.Forward)
    (bound : List Token) : Production.Forward (iterate test round bound) := by
  induction bound with
  | nil =>
    refine ⟨fun {s s'} h => ?_, fun h => by simp [iterate] at h⟩
    obtain rfl := Except.ok.inj h
    exact ⟨[], .refl s⟩
  | cons t bound ih =>
    -- a loop that is over has read nothing more, and otherwise there is a round and the others
    refine ⟨fun {s s'} h => ?_, fun {s e u} h => ?_⟩ <;> rw [iterate_cons] at h <;> split at h
    · exact (hf.bind ih).reads h
    · obtain rfl := Except.ok.inj h
      exact ⟨[], .refl s⟩
    · exact (hf.bind ih).found_mem h
    · cases h

/-- Reading by a rule goes forward if what is one level deeper does. -/
theorem forward_run (hc : ∀ c, (calls c).Forward) (rule : Rule) :
    Production.Forward (run calls rule) := by
  -- a rule that takes no token, or one, reads it, and can object to the next one only
  induction rule with
  | empty =>
    refine ⟨fun {s s'} h => ?_, fun h => by simp [run] at h⟩
    obtain rfl := Except.ok.inj h
    exact ⟨[], .refl s⟩
  | refuse e =>
    exact ⟨fun h => by simp [run] at h, fun h => State.mem_rest_of_stop (Except.error.inj h)⟩
  | token =>
    refine ⟨fun {s s'} h => ?_, fun h => by simp [run] at h⟩
    obtain rfl := Except.ok.inj h
    exact State.Reads.advance s
  | mark text => exact forward_takeIf _ _
  | ident => exact forward_takeIf _ _
  -- a bracket is a token, and the depth and the line modes count for nothing here
  | opening text lineMode =>
    refine ⟨fun {s s'} h => ?_, fun h => State.mem_rest_of_stop (run_opening_eq_error.1 h).2⟩
    obtain ⟨-, rfl⟩ := run_opening_eq_ok.1 h
    obtain ⟨u, hu⟩ := State.Reads.advance s
    exact ⟨u, hu.congr rfl rfl⟩
  | closing text =>
    refine ⟨fun {s s'} h => ?_, fun h => State.mem_rest_of_stop (run_closing_eq_error.1 h).2⟩
    obtain ⟨-, rfl⟩ := run_closing_eq_ok.1 h
    obtain ⟨u, hu⟩ := State.Reads.advance s
    exact ⟨u, hu.congr rfl rfl⟩
  | seq first second ih₁ ih₂ => exact ih₁.bind ih₂
  | branch look yes no ih₁ ih₂ =>
    -- either side of the branch reads on from the same state
    refine ⟨fun h => ?_, fun h => ?_⟩ <;> rw [run_branch] at h <;> split at h
    · exact ih₁.reads h
    · exact ih₂.reads h
    · exact ih₁.found_mem h
    · exact ih₂.found_mem h
  | repeatWhile look round ih =>
    exact ⟨fun {s _} h => (forward_iterate ih s.rest).reads h,
      fun {s _ _} h => (forward_iterate ih s.rest).found_mem h⟩
  | endOfStatement look e =>
    refine ⟨fun {s s'} h => ?_, fun {s _ _} h => ?_⟩ <;> simp only [run] at h <;> split at h
    · obtain rfl := Except.ok.inj h
      exact ⟨[], .refl s⟩
    · simp at h
    · simp at h
    · exact State.mem_rest_of_stop (Except.error.inj h)
  | call c => exact hc c

/-- Types and expressions are read forward, with any budget of levels. -/
theorem forward_read (levels : Nat) (c : Construct) : (read levels c).Forward := by
  induction levels generalizing c with
  | zero =>
    exact ⟨fun h => by simp [read] at h, fun h => State.mem_rest_of_stop (Except.error.inj h)⟩
  | succ levels ih => exact forward_run ih _

/-! ### Rules that take a token -/

/-- Reading by the rule can only succeed by taking a token, unless there is none. -/
def takes : Rule → Bool
  | refuse _ | token | mark _ | ident | opening _ _ | closing _ | call _ => true
  | empty | repeatWhile _ _ | endOfStatement _ _ => false
  | seq first second => first.takes || second.takes
  | branch _ yes no => yes.takes && no.takes

/-- Every round of the rule's repetitions takes a token. -/
def productive : Rule → Bool
  | seq first second => first.productive && second.productive
  | branch _ yes no => yes.productive && no.productive
  | repeatWhile _ round => round.takes && round.productive
  | _ => true

/-- Advancing leaves fewer tokens, if there are any. -/
theorem advance_lt {s : State} (h : s.rest ≠ []) : s.advance.rest.length < s.rest.length := by
  rw [State.advance_rest, List.length_tail]
  have := List.length_pos_iff.2 h
  omega

/-- A rule that is marked as taking something does so, if the productions that it calls do. -/
theorem takes_run (hf : ∀ c, (calls c).Forward) (hc : ∀ c, (calls c).Takes) {rule : Rule}
    (h : rule.takes) : Production.Takes (run calls rule) := by
  induction rule with
  | empty | repeatWhile _ _ | endOfStatement _ _ => simp [takes] at h
  | refuse e => intro s s' hr; simp [run] at hr
  -- what takes a token itself leaves fewer of them
  | token =>
    intro s s' hr hne
    obtain rfl := Except.ok.inj hr
    exact advance_lt hne
  | mark text | ident =>
    intro s s' hr hne
    obtain ⟨-, rfl⟩ := takeIf_eq_ok.1 hr
    exact advance_lt hne
  | opening text lineMode =>
    intro s s' hr hne
    obtain ⟨-, rfl⟩ := run_opening_eq_ok.1 hr
    exact advance_lt hne
  | closing text =>
    intro s s' hr hne
    obtain ⟨-, rfl⟩ := run_closing_eq_ok.1 hr
    exact advance_lt hne
  | seq first second ih₁ ih₂ =>
    intro s s' hr hne
    obtain ⟨m, h₁, h₂⟩ := run_seq_eq_ok.1 hr
    have hm := ((forward_run hf first).rest_suffix h₁).length_le
    have hs := ((forward_run hf second).rest_suffix h₂).length_le
    simp only [takes, Bool.or_eq_true] at h
    rcases h with h | h
    · have := ih₁ h h₁ hne
      omega
    · -- the first rule may have taken everything, and then nothing is left to compare with
      by_cases hnil : m.rest = []
      · have := List.length_pos_iff.2 hne
        rw [hnil] at hs
        simp only [List.length_nil] at hs
        omega
      · have := ih₂ h h₂ hnil
        omega
  | branch look yes no ih₁ ih₂ =>
    intro s s' hr hne
    simp only [takes, Bool.and_eq_true] at h
    rw [run_branch] at hr
    split at hr
    · exact ih₁ h.1 hr hne
    · exact ih₂ h.2 hr hne
  | call c => exact hc c

/-- The rule of each construct takes something. -/
theorem takes_construct (c : Construct) : (construct c).takes := by
  cases c <;> decide

/-- Reading a construct takes something, for as many levels as there may be. -/
theorem takes_read (levels : Nat) (c : Construct) : (read levels c).Takes := by
  induction levels generalizing c with
  | zero => intro s s' h; simp [read] at h
  | succ levels ih => exact takes_run (forward_read levels) ih (takes_construct c)

/-- Reading a statement goes forward. -/
theorem forward_readStatement : readStatement.Forward :=
  forward_run (forward_read maxNesting) statement

/-- Reading a statement takes something. -/
theorem takes_readStatement : readStatement.Takes := by
  have ht : statement.takes := by decide
  exact fun {s s'} => takes_run (forward_read maxNesting) (takes_read maxNesting) ht

/-- A repetition whose rounds take tokens amounts to its rounds. -/
theorem rounds_repeatWhile (hf : ∀ c, (calls c).Forward) (hc : ∀ c, (calls c).Takes)
    {look : Look} {round : Rule} (h : round.takes) (s : State) :
    Rounds look.holds (run calls round) s (run calls (repeatWhile look round) s) :=
  rounds_iterate (forward_run hf round) (takes_run hf hc h) (Nat.le_refl _)

/-- A repetition goes on as long as its question is answered in the affirmative. -/
theorem holds_of_run_repeatWhile (hf : ∀ c, (calls c).Forward) (hc : ∀ c, (calls c).Takes)
    {look : Look} {round : Rule} (h : round.takes) {s s' : State}
    (hrun : run calls (repeatWhile look round) s = .ok s') :
    look.holds s' = false ∨ s'.rest = [] := by
  have hrounds : Rounds look.holds (run calls round) s (run calls (repeatWhile look round) s) :=
    rounds_repeatWhile hf hc h s
  rw [hrun] at hrounds
  clear hrun
  -- the result is an index of `Rounds`, so it has to be a variable for the induction
  generalize hres : Except.ok s' = res at hrounds
  induction hrounds with
  | spent hnil =>
    obtain rfl := Except.ok.inj hres
    exact .inr hnil
  | done hlook =>
    obtain rfl := Except.ok.inj hres
    exact .inl hlook
  | stopped => cases hres
  | again _ _ _ ih => exact ih hres

end Rule
end StatementReader
