import StatementReader.Proofs.Rule.Progress

/-!
# More tokens after the end

How reading goes is settled by the tokens it has seen. `State.Extends more s t` says that `t` has
the tokens of `s` and then `more`. A result is *exhausted* if reading has come to the end of the
tokens: only then can `more` make a difference. `Firm` says just that of a production. A result that
is not exhausted is repeated in front of any further tokens: success leaves the same tokens and then
`more`, and an objection to a token is raised again.

All rules are firm whose questions concern the next token only. Two questions of the grammar concern
the token after it. The brace after the point of an import may be out of sight, but then the point
is taken and a name is missed after the last token. The arrow after an identifier may be out of
sight, but then that identifier is the last token and is read as an operand.
-/

namespace StatementReader

namespace State

/-- The tokens of `s` and then `more` are left in `t`, and line breaks count alike. -/
structure Extends (more : List Token) (s t : State) : Prop where
  rest : t.rest = s.rest ++ more
  lineModes : t.lineModes = s.lineModes

variable {more : List Token} {s t : State}

/-- More tokens at the end do not change the first one. -/
theorem Extends.head? (h : s.Extends more t) (hs : s.rest ≠ []) : t.rest.head? = s.rest.head? := by
  obtain ⟨x, r, hr⟩ := List.exists_cons_of_ne_nil hs
  rw [h.rest, hr, List.cons_append, List.head?_cons, List.head?_cons]

/-- Advancing leaves as many tokens more as there were. -/
theorem Extends.advance (h : s.Extends more t) (hs : s.rest ≠ []) :
    s.advance.Extends more t.advance := by
  obtain ⟨x, r, hr⟩ := List.exists_cons_of_ne_nil hs
  have ht : t.rest = x :: (r ++ more) := by rw [h.rest, hr, List.cons_append]
  rw [advance_of_rest_cons hr, advance_of_rest_cons ht]
  exact ⟨rfl, h.lineModes⟩

/-- A level is entered with and without them. -/
theorem Extends.enter (h : s.Extends more t) (lineMode : Bool) :
    (s.enter lineMode).Extends more (t.enter lineMode) :=
  ⟨h.rest, by simp [State.enter, h.lineModes]⟩

/-- A level is left with and without them. -/
theorem Extends.leave (h : s.Extends more t) : s.leave.Extends more t.leave :=
  ⟨h.rest, by simp [State.leave, h.lineModes]⟩

/-- The first token is a mark with and without them. -/
theorem Extends.atMark (h : s.Extends more t) (hs : s.rest ≠ []) (mark : Text) :
    t.atMark mark = s.atMark mark := by
  simp only [State.atMark, h.head? hs]

/-- The first token is a name with and without them. -/
theorem Extends.atIdent (h : s.Extends more t) (hs : s.rest ≠ []) : t.atIdent = s.atIdent := by
  simp only [State.atIdent, h.head? hs]

/-- A stop at a token is the same stop. -/
theorem Extends.stop (h : s.Extends more t) (hs : s.rest ≠ []) (e : Expected) :
    t.stop e = s.stop e := by
  have ht : t.rest ≠ [] := by simp [h.rest, hs]
  simp [State.stop, hs, ht, h.head? hs]

end State

namespace Look

/-- The question concerns the next token only. -/
def single : Look → Bool
  | lambda | markNotBefore _ _ => false
  | sameLine look | no look => look.single
  | either look other => look.single && other.single
  | _ => true

/-- A look at one token sees the same with more tokens at the end. -/
theorem holds_extends {more : List Token} {s t : State} (h : s.Extends more t) (hs : s.rest ≠ [])
    {look : Look} (hl : look.single) : look.holds t = look.holds s := by
  induction look with
  | mark text => exact h.atMark hs text
  | ident => exact h.atIdent hs
  | keyword | literal | sign | infixOperator => simp only [holds, h.head? hs]
  | lambda | markNotBefore => simp [single] at hl
  -- whether the first token is on a new line is asked of that token alone
  | sameLine look ih =>
    simp only [holds, ih hl, State.lineEnds, h.head? hs, h.lineModes]
  | either look other ih₁ ih₂ =>
    simp only [single, Bool.and_eq_true] at hl
    simp only [holds, ih₁ hl.1, ih₂ hl.2]
  | no look ih => simp only [holds, ih hl]

end Look

/-! ### Firm productions -/

/-- Reading has come to the end of the tokens. -/
def Exhausted : Except Stop State → Prop
  | .ok s => s.rest = []
  | .error .unterminated => True
  | .error (.violation _ found) => found = none

/-- The second result is the first one in front of `more`, unless the first one is exhausted. -/
def Carries (more : List Token) (res res' : Except Stop State) : Prop :=
  Exhausted res ∨ (∃ s t, res = .ok s ∧ res' = .ok t ∧ s.Extends more t) ∨
    ∃ stop, res = .error stop ∧ res' = .error stop

/-- What the production does is settled by the tokens it has seen. -/
structure Production.Firm (p : Production) : Prop where
  carries : ∀ {more : List Token} {s t : State}, s.Extends more t → Carries more (p s) (p t)

/-- A success before the end of the tokens is repeated. -/
theorem Production.Firm.ok {p : Production} (hp : p.Firm) {more : List Token} {s s' t : State}
    (h : s.Extends more t) (hs : p s = .ok s') (hne : s'.rest ≠ []) :
    ∃ t', p t = .ok t' ∧ s'.Extends more t' := by
  rcases hp.carries h with hdone | ⟨s'', t', hs', ht', hext⟩ | ⟨stop, hs', _⟩
  · rw [hs] at hdone
    exact absurd hdone hne
  · obtain rfl := Except.ok.inj (hs.symm.trans hs')
    exact ⟨t', ht', hext⟩
  · cases hs.symm.trans hs'

/-- An objection to a token is raised again. -/
theorem Production.Firm.violation {p : Production} (hp : p.Firm) {more : List Token} {s t : State}
    {e : Expected} {x : Token} (h : s.Extends more t)
    (hs : p s = .error (.violation e (some x))) : p t = .error (.violation e (some x)) := by
  rcases hp.carries h with hdone | ⟨s', t', hs', _⟩ | ⟨stop, hs', ht'⟩
  · rw [hs] at hdone
    exact absurd hdone (Option.some_ne_none x)
  · cases hs.symm.trans hs'
  · obtain rfl := Except.error.inj (hs.symm.trans hs')
    exact ht'

/-- Where no tokens are left, a production has come to the end. -/
theorem Production.Forward.exhausted {p : Production} (hf : p.Forward) {s : State}
    (hs : s.rest = []) : Exhausted (p s) := by
  cases h : p s with
  | ok s' => exact List.suffix_nil.1 (hs ▸ hf.rest_suffix h)
  | error stop =>
    match stop, h with
    | .unterminated, _ => trivial
    | .violation e none, _ => rfl
    | .violation e (some x), h => simpa [hs] using hf.found_mem h

/-- Where no tokens are left, parsing stops at the end. -/
theorem exhausted_stop {s : State} (hs : s.rest = []) (e : Expected) :
    Exhausted (.error (s.stop e)) := by
  unfold State.stop
  split
  · trivial
  · exact congrArg List.head? hs

/-- Where parsing stops at a token, it does so with more of them. -/
theorem carries_stop {more : List Token} {s t : State} (h : s.Extends more t) (e : Expected) :
    Carries more (.error (s.stop e)) (.error (t.stop e)) := by
  by_cases hs : s.rest = []
  · exact .inl (exhausted_stop hs e)
  · exact .inr (.inr ⟨_, rfl, by rw [h.stop hs]⟩)

namespace Rule

variable {calls : Construct → Production} {more : List Token} {s t : State}

/-- Taking a token does not depend on what comes at the end. -/
theorem firm_takeIf {test : State → Bool} (e : Expected)
    (ht : ∀ {more : List Token} {s t : State}, s.Extends more t → s.rest ≠ [] → test t = test s) :
    Production.Firm (takeIf test e) := by
  refine ⟨fun {more s t} h => ?_⟩
  by_cases hs : s.rest = []
  · exact .inl ((forward_takeIf test e).exhausted hs)
  · -- the test sees the same token, so both take it or neither does
    unfold takeIf
    rw [ht h hs]
    split
    · exact .inr (.inl ⟨_, _, rfl, rfl, h.advance hs⟩)
    · exact carries_stop h e

/-- Nor does taking a mark. -/
theorem firm_mark (text : Text) : Production.Firm (run calls (mark text)) :=
  firm_takeIf _ fun h hs => h.atMark hs text

/-- Taking a bracket and keeping record of it. -/
theorem firm_takeBracket (text : Text) {record : State → State}
    (hrest : ∀ s, (record s).rest = s.rest)
    (hrecord : ∀ {more : List Token} {s t : State}, s.Extends more t →
      (record s).Extends more (record t)) :
    Production.Firm fun s => do return record (← takeIf (·.atMark text) (.mark text) s) := by
  refine ⟨fun {more s t} h => ?_⟩
  have hmark := firm_takeIf (.mark text) fun h hs => h.atMark hs text
  rcases hmark.carries h with hx | ⟨s', t', hs, ht, h'⟩ | ⟨stop, hs, ht⟩
  · -- the end of the tokens is the same with the record kept and without
    left
    cases hr : takeIf (·.atMark text) (.mark text) s with
    | error stop =>
      rw [hr] at hx
      exact hx
    | ok s' =>
      rw [hr] at hx
      exact (hrest s').trans hx
  · right; left
    exact ⟨_, _, by rw [hs]; rfl, by rw [ht]; rfl, hrecord h'⟩
  · right; right
    exact ⟨stop, by rw [hs]; rfl, by rw [ht]; rfl⟩

/-- Nor does opening a bracket. -/
theorem firm_opening (text : Text) (lineMode : Bool) :
    Production.Firm (run calls (opening text lineMode)) :=
  firm_takeBracket text (fun _ => rfl) fun h => h.enter lineMode

/-- Nor does closing one. -/
theorem firm_closing (text : Text) : Production.Firm (run calls (closing text)) :=
  firm_takeBracket text (fun _ => rfl) State.Extends.leave

variable (hf : ∀ c, (calls c).Forward)

include hf in
/-- A sequence is firm if its rules are. -/
theorem firm_seq {first second : Rule} (h₁ : Production.Firm (run calls first))
    (h₂ : Production.Firm (run calls second)) :
    Production.Firm (run calls (first >> second)) := by
  refine ⟨fun {more s t} h => ?_⟩
  rw [run_seq, run_seq]
  rcases h₁.carries h with hx | ⟨s', t', hs, ht, h'⟩ | ⟨stop, hs, ht⟩
  · -- where the first rule has come to the end, so does the second
    left
    cases hr : run calls first s with
    | error stop =>
      rw [hr] at hx
      exact hx
    | ok m =>
      rw [hr] at hx
      exact (forward_run hf second).exhausted hx
  · rw [hs, ht]
    exact h₂.carries h'
  · right; right
    exact ⟨stop, by rw [hs]; rfl, by rw [ht]; rfl⟩

include hf in
/-- A branch is firm where its question is answered alike, or where it comes to the end anyway. -/
theorem firm_branch {look : Look} {yes no : Rule} (h₁ : Production.Firm (run calls yes))
    (h₂ : Production.Firm (run calls no))
    (hl : ∀ {more : List Token} {s t : State}, s.Extends more t → s.rest ≠ [] →
      look.holds t = look.holds s ∨ Exhausted (run calls (branch look yes no) s)) :
    Production.Firm (run calls (branch look yes no)) := by
  refine ⟨fun {more s t} h => ?_⟩
  by_cases hs : s.rest = []
  · exact .inl ((forward_run hf _).exhausted hs)
  · -- the looks agree, or the branch has come to the end anyway
    rcases hl h hs with hl | hx
    · rw [run_branch, run_branch, hl]
      split
      · exact h₁.carries h
      · exact h₂.carries h
    · exact .inl hx

/-- Rounds that begin at the end of the tokens end there. -/
theorem Rounds.exhausted {test : State → Bool} {round : Production} (hf : round.Forward)
    {res : Except Stop State} (h : Rounds test round s res) (hs : s.rest = []) :
    Exhausted res := by
  -- a loop that begins at the end makes no round that takes anything
  induction h with
  | spent h => exact h
  | done => exact hs
  | stopped _ hr => exact hr ▸ hf.exhausted hs
  | again _ hr _ ih =>
    have hm := hf.exhausted hs
    rw [hr] at hm
    exact ih hm

/-- Rounds are repeated in front of further tokens. -/
theorem Rounds.carries {test : State → Bool} {round : Production} (hf : round.Forward)
    (ht : round.Takes) (hfirm : round.Firm)
    (hl : ∀ {more : List Token} {s t : State}, s.Extends more t → s.rest ≠ [] →
      test t = test s ∨ (test s ∧ Exhausted (round s)))
    {res : Except Stop State} (h : Rounds test round s res) {bound : List Token}
    (hst : s.Extends more t) (hb : t.rest.length ≤ bound.length) :
    Carries more res (iterate test round bound t) := by
  -- both repetitions make the same rounds, until the shorter row of tokens is at its end
  induction h generalizing t bound with
  | spent h => exact .inl h
  | @done s hs =>
    by_cases hnil : s.rest = []
    · exact .inl hnil
    · have htest : test t = false := by
        rcases hl hst hnil with h | h
        · exact h.trans hs
        · simp [hs] at h
      right; left
      refine ⟨s, t, rfl, ?_, hst⟩
      cases bound <;> simp [iterate, htest]
  | @stopped s stop hs hr =>
    by_cases hnil : s.rest = []
    · exact .inl (hr ▸ hf.exhausted hnil)
    · rcases hl hst hnil with h | ⟨-, hx⟩
      · rcases hfirm.carries hst with hx | ⟨_, _, hs', -, -⟩ | ⟨stop', hs', ht'⟩
        · exact .inl (hr ▸ hx)
        · simp [hr] at hs'
        · obtain rfl : stop = stop' := Except.error.inj (hr.symm.trans hs')
          right; right
          refine ⟨stop, rfl, ?_⟩
          cases bound with
          | nil =>
            -- the bound cannot be spent, for a token is left
            have := List.length_eq_zero_iff.1 (Nat.le_zero.1 hb)
            simp [hst.rest, hnil] at this
          | cons b bound => simp [iterate_cons, h, hs, ht', bind, Except.bind]
      · exact .inl (hr ▸ hx)
  | @again s m res hs hr hrounds ih =>
    by_cases hm : m.rest = []
    · exact .inl (hrounds.exhausted hf hm)
    have hnil : s.rest ≠ [] := fun hnil => by
      have := hf.exhausted hnil
      rw [hr] at this
      exact hm this
    rcases hl hst hnil with h | ⟨-, hx⟩
    · rcases hfirm.carries hst with hx | ⟨m', t', hs', ht', hst'⟩ | ⟨_, hs', -⟩
      · rw [hr] at hx
        exact absurd hx hm
      · -- the round has taken as many tokens from both, so the bound is still enough
        obtain rfl : m = m' := Except.ok.inj (hr.symm.trans hs')
        have hlt := ht hr hnil
        have hl₁ := congrArg List.length hst.rest
        have hl₂ := congrArg List.length hst'.rest
        simp only [List.length_append] at hl₁ hl₂
        cases bound with
        | nil => simp only [List.length_nil] at hb; omega
        | cons b bound =>
          simp only [List.length_cons] at hb
          rw [iterate_cons, h, if_pos hs, ht']
          exact ih hst' (by omega)
      · simp [hr] at hs'
    · rw [hr] at hx
      exact absurd hx hm

variable (hc : ∀ c, (calls c).Takes) (hfirm : ∀ c, (calls c).Firm)

include hf hc in
/-- A repetition is firm where its question is answered alike, or where a round comes to the end. -/
theorem firm_repeatWhile {look : Look} {round : Rule} (ht : round.takes)
    (h : Production.Firm (run calls round))
    (hl : ∀ {more : List Token} {s t : State}, s.Extends more t → s.rest ≠ [] →
      look.holds t = look.holds s ∨ (look.holds s ∧ Exhausted (run calls round s))) :
    Production.Firm (run calls (repeatWhile look round)) :=
  ⟨fun hst => (rounds_repeatWhile hf hc ht _).carries (forward_run hf round) (takes_run hf hc ht) h
    hl hst (Nat.le_refl _)⟩

/-- The rule takes the next token, whatever it is, before anything else. -/
def beginsWithToken : Rule → Bool
  | seq token _ => true
  | _ => false

/-- A rule that begins by taking a token has taken the only one. -/
theorem exhausted_of_beginsWithToken {rule : Rule} (h : rule.beginsWithToken) {x : Token}
    (hs : s.rest = [x]) (hf : ∀ c, (calls c).Forward) : Exhausted (run calls rule s) := by
  unfold beginsWithToken at h
  split at h
  · next second =>
    have ha : s.advance.rest = [] := by simp [State.advance_rest, hs]
    exact (forward_run hf second).exhausted ha
  · simp at h

/-- The rule asks for the next token only, but that a repetition may also ask for the token after
one that it takes at once. -/
def single : Rule → Bool
  | seq first second => first.single && second.single
  | branch look yes no => look.single && yes.single && no.single
  | repeatWhile look round =>
    (look.single || look matches .markNotBefore _ _ && round.beginsWithToken) && round.single
  | endOfStatement look _ => look.single
  | _ => true

/-- The token after a mark may be out of sight, but then the mark is the last token. -/
theorem markNotBefore_extends {text next : Text} {round : Rule} (hb : round.beginsWithToken)
    (hf : ∀ c, (calls c).Forward) (h : s.Extends more t) (hs : s.rest ≠ []) :
    (Look.markNotBefore text next).holds t = (Look.markNotBefore text next).holds s ∨
      ((Look.markNotBefore text next).holds s ∧ Exhausted (run calls round s)) := by
  obtain ⟨x, r, hr⟩ := List.exists_cons_of_ne_nil hs
  cases r with
  | cons y r =>
    -- both tokens that the question concerns are in sight
    left
    have ha : s.advance.rest ≠ [] := by simp [State.advance_rest, hr]
    simp only [Look.holds, h.atMark hs, (h.advance hs).atMark ha]
  | nil =>
    have ha : s.advance.rest = [] := by simp [State.advance_rest, hr]
    by_cases hx : s.atMark text
    · right
      have hl : (Look.markNotBefore text next).holds s := by
        rw [Look.holds, hx]
        simp [State.atMark, ha]
      exact ⟨hl, exhausted_of_beginsWithToken hb hr hf⟩
    · left
      simp only [Look.holds, h.atMark hs, hx, Bool.false_and]

include hf hc hfirm in
/-- Rules are firm that ask for the next token only. -/
theorem firm_run {rule : Rule} (hp : rule.productive) (hs : rule.single) :
    Production.Firm (run calls rule) := by
  -- what a rule asks for is in sight, unless the tokens end before it
  induction rule with
  | empty => exact ⟨fun h => .inr (.inl ⟨_, _, rfl, rfl, h⟩)⟩
  | refuse e => exact ⟨fun h => carries_stop h e⟩
  | token =>
    refine ⟨fun {more s t} h => ?_⟩
    by_cases hnil : s.rest = []
    · exact .inl ((forward_run hf token).exhausted hnil)
    · exact .inr (.inl ⟨_, _, rfl, rfl, h.advance hnil⟩)
  | mark text => exact firm_mark text
  | ident => exact firm_takeIf _ fun h hs => h.atIdent hs
  | opening text lineMode => exact firm_opening text lineMode
  | closing text => exact firm_closing text
  | seq first second ih₁ ih₂ =>
    simp only [productive, single, Bool.and_eq_true] at hp hs
    exact firm_seq hf (ih₁ hp.1 hs.1) (ih₂ hp.2 hs.2)
  | branch look yes no ih₁ ih₂ =>
    simp only [productive, single, Bool.and_eq_true] at hp hs
    -- the look of a branch is at one token, which is in sight
    exact firm_branch hf (ih₁ hp.1 hs.1.2) (ih₂ hp.2 hs.2) fun h hnil =>
      .inl (Look.holds_extends h hnil hs.1.1)
  | repeatWhile look round ih =>
    simp only [productive, single, Bool.and_eq_true, Bool.or_eq_true] at hp hs
    refine firm_repeatWhile hf hc hp.1 (ih hp.2 hs.2) fun h hnil => ?_
    -- the look of a loop is at one token too, or at a mark that its round begins with
    rcases hs.1 with hl | ⟨hl, hb⟩
    · exact .inl (Look.holds_extends h hnil hl)
    · match look, hl with
      | .markNotBefore text next, _ => exact markNotBefore_extends hb hf h hnil
  | endOfStatement look e =>
    refine ⟨fun {more s t} h => ?_⟩
    by_cases hnil : s.rest = []
    · exact .inl ((forward_run hf (endOfStatement look e)).exhausted hnil)
    · simp only [run, Look.holds_extends h hnil hs, h.head? hnil]
      split
      · exact .inr (.inl ⟨_, _, rfl, rfl, h⟩)
      · exact carries_stop h e
  | call c => exact hfirm c

/-! ### The grammar is firm -/

/-- An identifier that is the last token is read as an operand, and nothing follows it. -/
theorem run_operation_last {x : Token} (hx : x.kind = .ident) (hs : s.rest = [x]) :
    ∃ s', run calls operation s = .ok s' ∧ s'.rest = [] := by
  refine ⟨s.advance, ?_, by simp [State.advance_rest, hs]⟩
  have ha : s.advance.rest = [] := by simp [State.advance_rest, hs]
  have hsign : Look.sign.holds s = false := by simp [Look.holds, hs, Token.isSign, hx]
  have hlit : Look.literal.holds s = false := by simp [Look.holds, hs, LexemeKind.isLiteral, hx]
  have hid : Look.ident.holds s = true := by simp [Look.holds, State.atIdent, hs, hx]
  have hprimary : run calls primary s = .ok s.advance := by
    simp [primary, run_branch, hlit, hid, run]
  -- there is no token left for a repetition to go on with
  have hstop : ∀ look round, run calls (repeatWhile look round) s.advance = .ok s.advance := by
    intro look round
    simp [run, ha, iterate]
  have hoperand : run calls operand s = .ok s.advance :=
    run_seq_eq_ok.2 ⟨_, hprimary, hstop _ _⟩
  have hsigned : run calls signedOperand s = .ok s.advance :=
    run_seq_eq_ok.2 ⟨s, by simp [run_optional, hsign], hoperand⟩
  exact run_seq_eq_ok.2 ⟨_, hsigned, hstop _ _⟩

include hf hc hfirm in
/-- The rule of an expression is firm. -/
theorem firm_exprBody : Production.Firm (run calls exprBody) := by
  have hrest : Production.Firm (run calls (operation >>
      optional (.sameLine (.mark equals)) (token >> expr))) :=
    firm_run hf hc hfirm (by decide) (by decide)
  have hfunction : Production.Firm (run calls (token >> token >> expr)) :=
    firm_run hf hc hfirm (by decide) (by decide)
  unfold exprBody
  refine firm_branch hf (firm_run hf hc hfirm (by decide) (by decide)) ?_
    fun h hs => .inl (Look.holds_extends h hs (by decide))
  refine firm_branch hf (firm_run hf hc hfirm (by decide) (by decide)) ?_
    fun h hs => .inl (Look.holds_extends h hs (by decide))
  -- the look for a function is at two tokens, the second of which may be out of sight
  refine firm_branch hf hfunction hrest ?_
  intro more s t h hs
  obtain ⟨x, r, hr⟩ := List.exists_cons_of_ne_nil hs
  cases r with
  | cons y r =>
    left
    -- both tokens are in sight
    have ha : s.advance.rest ≠ [] := by simp [State.advance_rest, hr]
    simp only [Look.holds, h.atIdent hs, (h.advance hs).atMark ha]
  | nil =>
    -- the arrow is out of sight: either `x` is no identifier, or it is the last operand
    by_cases hx : x.kind = .ident
    · right
      have hl : Look.lambda.holds s = false := by
        simp [Look.holds, State.atMark, State.advance_rest, hr]
      obtain ⟨s', hs', hnil⟩ := run_operation_last hx hr
      rw [run_branch, hl, if_neg Bool.false_ne_true, run_seq, hs']
      exact (forward_run hf _).exhausted hnil
    · left
      have hid : s.atIdent = false := by simp [State.atIdent, hr, hx]
      simp only [Look.holds, h.atIdent hs, hid, Bool.false_and]

include hf hc hfirm in
/-- So is the rule of each construct. -/
theorem firm_construct (c : Construct) : Production.Firm (run calls (construct c)) := by
  cases c with
  | type => exact firm_run hf hc hfirm (by decide) (by decide)
  | expr => exact firm_exprBody hf hc hfirm

/-- Types and expressions are firm, with any budget of levels. -/
theorem firm_read (levels : Nat) (c : Construct) : (read levels c).Firm := by
  induction levels generalizing c with
  | zero => exact ⟨fun h => carries_stop h _⟩
  | succ levels ih => exact firm_construct (forward_read levels) (takes_read levels) ih c

/-- Statements are firm. -/
theorem firm_readStatement : Production.Firm readStatement :=
  firm_run (forward_read maxNesting) (takes_read maxNesting) (firm_read maxNesting) (by decide)
    (by decide)

end Rule
end StatementReader
