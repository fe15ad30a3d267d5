import StatementReader.Proofs.Language.Completeness
import StatementReader.Proofs.Language.Soundness

/-!
# What is read leaves no choice

A reader that takes all it can reads the phrases of `Greedy.lean` and no others. Where a type ends
it stands before nothing that continues the type, and where an expression ends in a conditional
without `else` it stands before no `else` (`Shapes.SoundCalls`). So a phrase that is read has the
shape that the equations ask for in its place.

The rules that do not depend on shapes are sound for the phrases of any shape by `Soundness.lean`.
The lemmas here are on those that do: types, object creations and expressions.
-/

namespace StatementReader

open Rule Computability

namespace Shapes

/-- A type of some shape is read between the two states, and nothing that continues it comes next.
-/
def ReadsType (Q : Shapes) (s s' : State) : Prop :=
  s'.lineModes = s.lineModes ∧
    ∃ bare, ∃ u ∈ Q (.type bare), s.rest = u ++ s'.rest ∧ Next (Token.endsType bare) s'.rest

/-- An expression of some shape is read between the two states, and no `else` that continues it
comes next. -/
def ReadsExpr (Q : Shapes) (s s' : State) : Prop :=
  s'.lineModes = s.lineModes ∧
    ∃ short, ∃ u ∈ Q (.expr (s.lineModes.headD true) short), s.rest = u ++ s'.rest ∧
      (short → s'.rest.head?.any (·.isKeyword "else".toList) = false)

/-- What is one level deeper is a phrase of some shape, and nothing that continues it comes next. -/
structure SoundCalls (Q : Shapes) (calls : Construct → Production) : Prop where
  type : ∀ {s s' : State}, calls .type s = .ok s' → Q.ReadsType s s'
  expr : ∀ {s s' : State}, calls .expr s = .ok s' → Q.ReadsExpr s s'

end Shapes

namespace Rule

/-- A type ends where no arrow follows, and if it is bare, no point and no bracket. -/
theorem next_endsType_iff {bare : Bool} {r : List Token} : Next (Token.endsType bare) r ↔
    r.head?.any (·.isMark arrow) = false ∧
      (bare → r.head?.any (·.isMark dot) = false ∧ r.head?.any (·.isMark openBracket) = false) := by
  cases r with
  | nil => simp [Next]
  | cons t r => cases bare <;> simp [Next, Token.endsType]

variable {Q : Shapes} {n : ℕ} {C : State → Prop} {ms : List Bool} {s s' : State}

/-- What reads the shapes reads the phrases. -/
theorem soundCalls_forget (hQ : Q.SoundCalls (read n)) : SoundCalls Q.forget (read n) := by
  rintro (_ | _) ms <;> refine ⟨fun {s s'} _ hms hrun => ?_⟩
  · obtain ⟨hmodes, bare, u, hu, hr, -⟩ := hQ.type hrun
    exact ⟨hmodes.trans hms, u, by cases bare; exacts [.inr hu, .inl hu], hr⟩
  · obtain ⟨hmodes, short, u, hu, hr, -⟩ := hQ.expr hrun
    rw [hms] at hu
    exact ⟨hmodes.trans hms, u, by cases short; exacts [.inr hu, .inl hu], hr⟩

section

variable (hQ : Q.SoundCalls (read n))
include hQ

/-! ### Types -/

omit hQ in
/-- A repetition that has come to its end stands before nothing that it goes on with. -/
theorem any_head?_of_run_repeatWhile {look : Look} {round : Rule} {p : Token → Bool}
    (hlook : ∀ s : State, look.holds s = s.rest.head?.any p) (h : round.takes)
    (hrun : run (read n) (repeatWhile look round) s = .ok s') : s'.rest.head?.any p = false := by
  rcases holds_of_run_repeatWhile (forward_read n) (takes_read n) h hrun with hend | hend
  · rwa [← hlook]
  · rw [hend]
    rfl

/-- A function type ends like the type of its results. -/
theorem shape_arrow {m : State} {w : List Token} (hmodes : m.lineModes = s.lineModes)
    (hr : s.rest = w ++ m.rest)
    (hw : w ∈ Phrases.path * Phrase.opt Q.forget.typeArgs + Q.forget.domain)
    (harrow : m.atMark arrow) (hrun : run (read n) type m.advance = .ok s') :
    Shapes.ReadsType Q.body s s' := by
  obtain ⟨t, r, hmr, ht⟩ := State.exists_of_any_head? harrow
  rw [State.advance_of_rest_cons hmr] at hrun
  obtain ⟨hmodes', bare, v, hv, hrv, hnext⟩ := hQ.type hrun
  have hrv : r = v ++ s'.rest := hrv
  -- behind the arrow any type may stand, and it is as long as it can be
  refine ⟨hmodes'.trans hmodes, bare, w ++ [t] ++ v, ?_, ?_, hnext⟩
  · exact .inr (Language.append_mem_mul (Language.append_mem_mul hw ⟨t, rfl, ht⟩) hv)
  · rw [hr, hmr, hrv]
    simp

/-- What comes after the path of a type decides about its shape. -/
theorem shape_namedType (hrun : run (read n) namedType s = .ok s') :
    Shapes.ReadsType Q.body s s' := by
  have hforget := soundCalls_forget hQ
  rw [namedType, ← run_seq_assoc] at hrun
  obtain ⟨m, hpath, hrun⟩ := run_seq_eq_ok.1 hrun
  obtain ⟨m', hargs, hresult⟩ := run_seq_eq_ok.1 hrun
  obtain ⟨m₀, -, hmembers⟩ := run_seq_eq_ok.1 hpath
  obtain ⟨hmodes, u, hu, hru⟩ := (sound_path (C := State.Any)).reads trivial rfl hpath
  have hdot : m.rest.head?.any (·.isMark dot) = false :=
    any_head?_of_run_repeatWhile (fun _ => rfl) (by decide) hmembers
  obtain ⟨hmodes', v, hv, hrv⟩ := (sound_optional (C := State.Any) (sound_typeArgs hforget)).reads
    trivial hmodes hargs
  rcases run_optional_eq_ok.1 hresult with ⟨harrow, hresult⟩ | ⟨harrow, rfl⟩
  · -- the type of a function
    obtain ⟨m₁, htoken, htype⟩ := run_seq_eq_ok.1 hresult
    obtain rfl := Except.ok.inj htoken
    refine shape_arrow hQ hmodes' ?_ (.inl (Language.append_mem_mul hu hv)) harrow htype
    rw [hru, hrv, List.append_assoc]
  · rcases run_optional_eq_ok.1 hargs with ⟨hbracket, hargs⟩ | ⟨hbracket, rfl⟩
    · -- a path with arguments
      obtain ⟨-, v, hv, hrv⟩ := (sound_typeArgs (C := State.Any) hforget).reads trivial hmodes hargs
      refine ⟨hmodes', false, u ++ v, .inl (Language.append_mem_mul hu hv), ?_, ?_⟩
      · rw [hru, hrv, List.append_assoc]
      · exact next_endsType_iff.2 ⟨harrow, fun h => by cases h⟩
    · -- neither a point, nor a bracket, nor an arrow: a bare path
      have hends : Next (Token.endsType true) m.rest :=
        next_endsType_iff.2 ⟨harrow, fun _ => ⟨hdot, hbracket⟩⟩
      exact ⟨hmodes, true, u, .inl hu, hru, hends⟩

/-- What is read as the type of a function has its shape. -/
theorem shape_functionType (hrun : run (read n) functionType s = .ok s') :
    Shapes.ReadsType Q.body s s' := by
  have hforget := soundCalls_forget hQ
  obtain ⟨m₁, hopen, hrun⟩ := run_seq_eq_ok.1 hrun
  obtain ⟨m₂, hlist, hrun⟩ := run_seq_eq_ok.1 hrun
  obtain ⟨m, hclose, hrun⟩ := run_seq_eq_ok.1 hrun
  obtain ⟨m₃, harrow, htype⟩ := run_seq_eq_ok.1 hrun
  obtain ⟨hmark, rfl⟩ := takeIf_eq_ok.1 harrow
  obtain ⟨hmodes, w, hw, hr⟩ := (sound_domain (C := State.Any) hforget).reads trivial rfl
    (run_seq_eq_ok.2 ⟨m₁, hopen, run_seq_eq_ok.2 ⟨m₂, hlist, hclose⟩⟩)
  -- the parentheses are a domain, and the arrow has been read
  exact shape_arrow hQ hmodes hr (.inr hw) hmark htype

/-- What is read as a type has one of the shapes. -/
theorem shape_typeBody (hrun : run (read n) typeBody s = .ok s') :
    Shapes.ReadsType Q.body s s' := by
  rw [typeBody, run_branch] at hrun
  split at hrun
  · exact shape_functionType hQ hrun
  · exact shape_namedType hQ hrun

/-! ### Object creations -/

omit hQ in
/-- The word tells that a new object is read. -/
theorem run_primary_of_new (h : (Look.keyword "new".toList).holds s) :
    run (read n) primary s = run (read n) construction s := by
  obtain ⟨t, r, hr, ht⟩ := State.exists_of_any_head? h
  obtain ⟨hk, htext⟩ := Token.isKeyword_iff.1 ht
  simp [primary, run_branch, Look.holds, State.atIdent, hr, Token.isKeyword, hk, htext,
    LexemeKind.isLiteral]

omit hQ in
/-- What follows the type of an object creation is apart from it, if the type has been read to its
end and no arguments come on the same line. -/
theorem mem_opt_apart {lineMode bare : Bool} {v r : List Token} (hv : v ∈ Q.trailers lineMode)
    (hnext : Next (Token.endsType bare) (v ++ r))
    (hargs : (Look.sameLine (.mark openParen)).before lineMode (v ++ r) = false) :
    v ∈ Phrase.opt (Phrase.sameLine lineMode (Q.apart bare) * Q.trailers lineMode) := by
  obtain ⟨vs, rfl, hvs⟩ := hv
  cases vs with
  | nil => exact .inl rfl
  | cons x vs =>
    have hx := hvs x List.mem_cons_self
    have hrest : vs.flatten ∈ Q.trailers lineMode :=
      ⟨vs, rfl, fun y hy => hvs y (List.mem_cons_of_mem _ hy)⟩
    rw [List.flatten_cons, List.append_assoc] at hnext hargs
    rw [Look.before_sameLine fun _ => rfl] at hargs
    refine .inr (Language.append_mem_mul ⟨?_, hx.2⟩ hrest)
    -- the first token decides which kind of trailer comes first, and whether it is apart
    obtain ⟨t, x', rfl, -⟩ := begins_trailer x hx.1
    -- what begins with a mark can only be chosen if the first token is this mark
    have hmark {mark : Text} {L : Phrase} (hL : L.Begins (·.isMark mark)) (h : t :: x' ∈ L) :
        t.isMark mark := by
      obtain ⟨t', v', heq, ht'⟩ := hL _ h
      cases heq
      exact ht'
    have hends : t.endsType bare := next_cons.1 hnext
    -- arguments on the same line are part of what comes before, so there are none
    have hparen : t.isMark openParen = false := by
      have hline : lineMode → t.afterBreak = false := fun h => hx.2 h t rfl
      have hnot : (t.isMark openParen && !(t.afterBreak && lineMode)) = false := hargs
      cases lineMode with
      | false => simpa using hnot
      | true => simpa [hline rfl] using hnot
    -- the trailer is a member, arguments, type arguments or a block
    rcases hx.1 with ((h | h) | h) | h
    · cases bare with
      | true => exact absurd (hmark begins_member h) (by simp [(Token.isMark_of_endsType hends).1])
      | false => exact .inl (.inl h)
    · exact absurd (hmark begins_args h) (by simp [hparen])
    · cases bare with
      | true =>
        exact absurd (hmark begins_typeArgs h) (by simp [(Token.isMark_of_endsType hends).2])
      | false => exact .inl (.inr h)
    · cases bare with
      | true => exact h
      | false => exact .inr h

/-- What is read as trailers is a row of them. -/
theorem sound_trailers : Production.Sound C ms ms (Q.trailers (ms.headD true))
    (run (read n) (repeatWhile trailerStart trailer)) :=
  sound_repeatWhile (sound_sameLine (sound_trailer (soundCalls_forget hQ))
    fun _ h => lineEnds_of_sameLine h)

/-- What follows an object creation depends on how much of it belongs to the type. -/
theorem sound_created (hrun : run (read n) ((type >> optional (.sameLine (.mark openParen)) args) >>
    repeatWhile trailerStart trailer) s = .ok s') : s'.lineModes = s.lineModes ∧
      ∃ u ∈ Q.created (s.lineModes.headD true), s.rest = u ++ s'.rest := by
  obtain ⟨m', hcreated, htrailers⟩ := run_seq_eq_ok.1 hrun
  obtain ⟨m, htype, hargs⟩ := run_seq_eq_ok.1 hcreated
  obtain ⟨hmodes, bare, u, hu, hru, hnext⟩ := hQ.type htype
  rcases run_optional_eq_ok.1 hargs with ⟨hlook, hargs⟩ | ⟨hlook, rfl⟩
  · -- arguments on the line of the type belong to the creation
    have hsound : Production.Sound (fun s => s.lineEnds = false) s.lineModes s.lineModes
        (Phrase.sameLine (s.lineModes.headD true) Q.forget.args) (run (read n) args) :=
      sound_sameLine (sound_args (soundCalls_forget hQ)) fun _ h => h
    obtain ⟨hmodes', w, hw, hrw⟩ := hsound.reads (lineEnds_of_sameLine hlook) hmodes hargs
    obtain ⟨hmodes', v, hv, hrv⟩ := (sound_trailers hQ (C := State.Any)).reads trivial hmodes'
      htrailers
    have hu : u ∈ Q.forget .type := by
      cases bare
      exacts [.inr hu, .inl hu]
    refine ⟨hmodes', u ++ (w ++ v), .inl (Language.append_mem_mul hu
      (Language.append_mem_mul hw hv)), ?_⟩
    rw [hru, hrw, hrv]
    simp
  · -- otherwise what follows is apart from the type
    obtain ⟨hmodes', v, hv, hrv⟩ := (sound_trailers hQ (C := State.Any)).reads trivial hmodes
      htrailers
    rw [hrv] at hnext
    rw [Look.holds_eq_before _ hmodes, hrv] at hlook
    have hmem := Language.append_mem_mul hu (mem_opt_apart hv hnext hlook)
    refine ⟨hmodes', u ++ v, .inr ?_, by rw [hru, hrv, List.append_assoc]⟩
    cases bare
    exacts [.inr hmem, .inl hmem]

/-- What is read as an operand has the shape of one. -/
theorem sound_operand : Production.Sound C ms ms (Q.operand (ms.headD true))
    (run (read n) operand) := by
  refine ⟨fun {s s'} _ hms hrun => ?_⟩
  subst hms
  obtain ⟨m, hprimary, htrailers⟩ := run_seq_eq_ok.1 hrun
  -- after `new` the trailers belong to what is created, else they follow a simple operand
  cases hnew : (Look.keyword "new".toList).holds s with
  | false =>
    obtain ⟨hmodes, u, hu, hr⟩ := (sound_simple (soundCalls_forget hQ)).reads hnew rfl hprimary
    obtain ⟨hmodes', v, hv, hrv⟩ := (sound_trailers hQ (C := State.Any)).reads trivial hmodes
      htrailers
    refine ⟨hmodes', u ++ v, .inl (Language.append_mem_mul hu hv), ?_⟩
    rw [hr, hrv, List.append_assoc]
  | true =>
    rw [run_primary_of_new hnew] at hprimary
    obtain ⟨m₁, htoken, hcreated⟩ := run_seq_eq_ok.1 hprimary
    obtain ⟨t, r, hr, ht⟩ := State.exists_of_any_head? hnew
    obtain rfl := Except.ok.inj htoken
    obtain ⟨hmodes, u, hu, hru⟩ := sound_created hQ (run_seq_eq_ok.2 ⟨m, hcreated, htrailers⟩)
    rw [State.advance_of_rest_cons hr] at hmodes hu hru
    have hru : r = u ++ s'.rest := hru
    exact ⟨hmodes, [t] ++ u, .inr (Language.append_mem_mul ⟨t, rfl, ht⟩ hu), by rw [hr, hru]; rfl⟩

/-! ### Expressions -/

/-- What comes before an expression that ends the whole, and that expression. -/
theorem shape_lead {m : State} {w : List Token} (hmodes : m.lineModes = s.lineModes)
    (hr : s.rest = w ++ m.rest) (hw : w ∈ Q.lead (s.lineModes.headD true))
    (hrun : run (read n) expr m = .ok s') : Shapes.ReadsExpr Q.body s s' := by
  obtain ⟨hmodes', short, v, hv, hrv, helse⟩ := hQ.expr hrun
  rw [hmodes] at hv
  refine ⟨hmodes'.trans hmodes, short, w ++ v, ?_, by rw [hr, hrv, List.append_assoc], helse⟩
  cases short
  exacts [.inr (Language.append_mem_mul hw hv), .inr (Language.append_mem_mul hw hv)]

/-- What is read as a conditional has the shape of one, with both branches or one. -/
theorem shape_conditional (hif : (Look.keyword "if".toList).holds s)
    (hrun : run (read n) (token >> (condition >> (expr >> optional (.keyword "else".toList)
      (token >> expr)))) s = .ok s') : Shapes.ReadsExpr Q.body s s' := by
  have hforget := soundCalls_forget hQ
  obtain ⟨m₁, htoken, hbody⟩ := run_seq_eq_ok.1 hrun
  obtain ⟨m₂, hcondition, hbranches⟩ := run_seq_eq_ok.1 hbody
  obtain ⟨m, hexpr, hlast⟩ := run_seq_eq_ok.1 hbranches
  obtain ⟨t, r, hr, ht⟩ := State.exists_of_any_head? hif
  obtain rfl := Except.ok.inj htoken
  rw [State.advance_of_rest_cons hr] at hcondition
  obtain ⟨hmodes₂, k, hk, hrk⟩ := (sound_condition (C := State.Any) hforget).reads trivial rfl
    hcondition
  obtain ⟨hmodes, short, u, hu, hru, helse⟩ := hQ.expr hexpr
  have hmodes₂ : m₂.lineModes = s.lineModes := hmodes₂
  have hrk : r = k ++ m₂.rest := hrk
  rw [hmodes₂] at hmodes hu
  rcases run_optional_eq_ok.1 hlast with ⟨hlook, helseExpr⟩ | ⟨hlook, rfl⟩
  · -- an `else` comes next, so the expression before it does not end in a conditional without one
    obtain ⟨m₃, htoken, hexpr⟩ := run_seq_eq_ok.1 helseExpr
    obtain ⟨e, r', hr', he⟩ := State.exists_of_any_head? hlook
    obtain rfl := Except.ok.inj htoken
    obtain rfl : short = false := by
      by_contra hshort
      exact Bool.false_ne_true ((helse (eq_true_of_ne_false hshort)).symm.trans hlook)
    refine shape_lead hQ (m := m.advance) ?_ ?_ (w := [t] ++ (k ++ (u ++ [e]))) ?_ hexpr
    · rw [State.advance_of_rest_cons hr']
      exact hmodes
    · rw [State.advance_of_rest_cons hr', hr, hrk, hru, hr']
      simp
    · exact .inl (Language.append_mem_mul ⟨t, rfl, ht⟩ (Language.append_mem_mul hk
        (Language.append_mem_mul hu ⟨e, rfl, he⟩)))
  · -- no `else` comes next, whatever shape the expression has
    refine ⟨hmodes, true, [t] ++ (k ++ u), .inl (Language.append_mem_mul ⟨t, rfl, ht⟩
      (Language.append_mem_mul hk ?_)), ?_, fun _ => hlook⟩
    · cases short
      exacts [.inr hu, .inl hu]
    · rw [hr, hrk, hru]
      simp

/-- What is read as a loop has the shape of one. -/
theorem shape_loop (hwhile : (Look.keyword "while".toList).holds s)
    (hrun : run (read n) (token >> (condition >> expr)) s = .ok s') :
    Shapes.ReadsExpr Q.body s s' := by
  obtain ⟨m₁, htoken, hrun⟩ := run_seq_eq_ok.1 hrun
  obtain ⟨m, hcondition, hexpr⟩ := run_seq_eq_ok.1 hrun
  obtain ⟨t, r, hr, ht⟩ := State.exists_of_any_head? hwhile
  obtain rfl := Except.ok.inj htoken
  rw [State.advance_of_rest_cons hr] at hcondition
  obtain ⟨hmodes, k, hk, hrk⟩ := (sound_condition (C := State.Any) (soundCalls_forget hQ)).reads
    trivial rfl hcondition
  have hrk : r = k ++ m.rest := hrk
  refine shape_lead hQ hmodes (w := [t] ++ k) (by simp [hr, hrk]) ?_ hexpr
  exact .inr (.inl (Language.append_mem_mul ⟨t, rfl, ht⟩ hk))

/-- What is read as a function has the shape of one. -/
theorem shape_function (hlambda : Look.lambda.holds s)
    (hrun : run (read n) (token >> (token >> expr)) s = .ok s') : Shapes.ReadsExpr Q.body s s' := by
  obtain ⟨hname, harrow⟩ := Bool.and_eq_true_iff.1 hlambda
  obtain ⟨m₁, htoken, hbody⟩ := run_seq_eq_ok.1 hrun
  obtain ⟨m, htoken', hexpr⟩ := run_seq_eq_ok.1 hbody
  obtain ⟨t, r, hr, ht⟩ := State.exists_of_any_head? hname
  obtain ⟨a, r', hr', ha⟩ := State.exists_of_any_head? harrow
  obtain rfl := Except.ok.inj htoken
  obtain rfl := Except.ok.inj htoken'
  rw [State.advance_of_rest_cons hr'] at hexpr
  rw [State.advance_of_rest_cons hr] at hr' hexpr
  have hr' : r = a :: r' := hr'
  -- a name and an arrow lead to the expression behind them
  refine shape_lead hQ (w := [t] ++ [a]) (m := ⟨r', a.stop, s.depth, s.lineModes⟩) rfl
    (by simp [hr, hr']) ?_ hexpr
  exact .inr (.inr (.inl (Language.append_mem_mul ⟨t, rfl, ht⟩ ⟨a, rfl, ha⟩)))

/-- Operands, which an assignment may follow. -/
theorem shape_operands (hrun : run (read n) (operation >>
    optional (.sameLine (.mark equals)) (token >> expr)) s = .ok s') :
    Shapes.ReadsExpr Q.body s s' := by
  obtain ⟨m, hoperation, hlast⟩ := run_seq_eq_ok.1 hrun
  obtain ⟨hmodes, u, hu, hru⟩ := (sound_operation (C := State.Any) fun _ => sound_operand hQ).reads
    trivial rfl hoperation
  -- an equals sign on the same line makes it an assignment
  rcases run_optional_eq_ok.1 hlast with ⟨hlook, hassigned⟩ | ⟨-, rfl⟩
  · obtain ⟨m₁, htoken, hexpr⟩ := run_seq_eq_ok.1 hassigned
    have hequals : Production.Sound (fun s => (Look.sameLine (.mark equals)).holds s) s.lineModes
        s.lineModes (Phrase.sameLine (s.lineModes.headD true) (Phrase.punct equals))
        (run (read n) token) :=
      sound_sameLine (sound_token fun _ h => (Bool.and_eq_true_iff.1 h).1)
        fun _ h => lineEnds_of_sameLine h
    obtain ⟨hmodes', w, hw, hrw⟩ := hequals.reads hlook hmodes htoken
    refine shape_lead hQ hmodes' (w := u ++ w) (by rw [hru, hrw, List.append_assoc]) ?_ hexpr
    exact .inr (.inr (.inr (Language.append_mem_mul hu hw)))
  · exact ⟨hmodes, false, u, .inl hu, hru, fun h => by cases h⟩

/-- What is read as an expression has one of the shapes. -/
theorem shape_exprBody (hrun : run (read n) exprBody s = .ok s') :
    Shapes.ReadsExpr Q.body s s' := by
  rw [exprBody, run_branch] at hrun
  split at hrun
  · next hif => exact shape_conditional hQ hif hrun
  rw [run_branch] at hrun
  split at hrun
  · next hwhile => exact shape_loop hQ hwhile hrun
  rw [run_branch] at hrun
  split at hrun
  · next hlambda => exact shape_function hQ hlambda hrun
  · exact shape_operands hQ hrun

end

/-- What is read with `n` levels is a phrase of at most `n` levels. -/
theorem soundCalls_level (n : ℕ) : (Shapes.level n).SoundCalls (read n) := by
  induction n with
  | zero => exact ⟨fun h => by simp [read] at h, fun h => by simp [read] at h⟩
  | succ n ih => exact ⟨shape_typeBody ih, shape_exprBody ih⟩

end Rule

end StatementReader
