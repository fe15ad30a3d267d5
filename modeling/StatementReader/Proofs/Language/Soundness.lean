import StatementReader.Proofs.Language.Phrases
import StatementReader.Proofs.Rule.Progress

/-!
# What is read is a phrase

A production is *sound* for a phrase if whatever it takes successfully is in the phrase. The lemmas
of this module are one for each way of making rules, and then one for each rule of the grammar that
does not depend on shapes. The bodies of types and expressions are left to `Longest.lean`.

A rule that takes any token does so where a question about that token has just been answered, so
soundness is relative to a condition `C` on the states that the production starts from.
-/

namespace StatementReader

open Rule Computability

/-- From a state with `C`, success takes a row in `L` and leads from the line modes `ms` to
`ms'`. -/
structure Production.Sound (C : State → Prop) (ms ms' : List Bool) (L : Phrase) (p : Production) :
    Prop where
  reads : ∀ {s s' : State}, C s → s.lineModes = ms → p s = .ok s' →
    s'.lineModes = ms' ∧ ∃ u ∈ L, s.rest = u ++ s'.rest

/-- No condition. -/
def State.Any (_ : State) : Prop := True

/-- A token that passes a test is there to be taken. -/
theorem State.exists_of_any_head? {s : State} {p : Token → Bool} (h : s.rest.head?.any p) :
    ∃ t r, s.rest = t :: r ∧ p t := by
  cases hr : s.rest with
  | nil => simp [hr] at h
  | cons t r => exact ⟨t, r, rfl, by simpa [hr] using h⟩

namespace Rule

variable {calls : Construct → Production} {C D : State → Prop} {ms ms' modes : List Bool}
  {L M : Phrase}

/-! ### Combinators -/

/-- What reads a phrase reads a larger one. -/
theorem sound_mono {p : Production} (h : p.Sound C ms ms' L) (hle : L ≤ M) :
    p.Sound C ms ms' M := by
  refine ⟨fun hC hms hs => ?_⟩
  obtain ⟨hms', u, hu, hrest⟩ := h.reads hC hms hs
  exact ⟨hms', u, hle hu, hrest⟩

/-- A production that is sound from some states is so from fewer. -/
theorem sound_of_imp {p : Production} (h : p.Sound C ms ms' L) (hD : ∀ s, D s → C s) :
    p.Sound D ms ms' L :=
  ⟨fun hs => h.reads (hD _ hs)⟩

/-- A token is read as the phrase that was looked for. -/
theorem sound_token {p : Token → Bool} (hC : ∀ s, C s → s.rest.head?.any p) :
    Production.Sound C ms ms (Phrase.one p) (run calls token) := by
  refine ⟨fun {s s'} hs hms hrun => ?_⟩
  obtain ⟨t, r, hr, ht⟩ := State.exists_of_any_head? (hC s hs)
  obtain rfl := Except.ok.inj hrun
  rw [State.advance_of_rest_cons hr]
  exact ⟨hms, [t], ⟨t, rfl, ht⟩, hr⟩

/-- A token that has to be there is read as such. -/
theorem sound_takeIf {p : Token → Bool} {test : State → Bool} {e : Expected}
    (htest : ∀ s, test s → s.rest.head?.any p) :
    Production.Sound C ms ms (Phrase.one p) (takeIf test e) := by
  refine ⟨fun {s s'} hs hms hrun => ?_⟩
  obtain ⟨htrue, rfl⟩ := takeIf_eq_ok.1 hrun
  obtain ⟨t, r, hr, ht⟩ := State.exists_of_any_head? (htest s htrue)
  rw [State.advance_of_rest_cons hr]
  exact ⟨hms, [t], ⟨t, rfl, ht⟩, hr⟩

theorem sound_mark (text : Text) :
    Production.Sound C ms ms (Phrase.punct text) (run calls (mark text)) :=
  sound_takeIf fun _ h => h

theorem sound_ident : Production.Sound C ms ms Phrase.name (run calls ident) :=
  sound_takeIf fun _ h => h

/-- An opening bracket is read, and its line mode entered. -/
theorem sound_opening (text : Text) (lineMode : Bool) :
    Production.Sound C ms (lineMode :: ms) (Phrase.punct text)
      (run calls (opening text lineMode)) := by
  refine ⟨fun {s s'} hs hms hrun => ?_⟩
  obtain ⟨hmark, rfl⟩ := run_opening_eq_ok.1 hrun
  obtain ⟨t, r, hr, ht⟩ := State.exists_of_any_head? hmark
  rw [State.advance_of_rest_cons hr]
  exact ⟨congrArg (lineMode :: ·) hms, [t], ⟨t, rfl, ht⟩, hr⟩

/-- A closing bracket is read, and the line mode inside left. -/
theorem sound_closing (text : Text) (lineMode : Bool) :
    Production.Sound C (lineMode :: ms) ms (Phrase.punct text) (run calls (closing text)) := by
  refine ⟨fun {s s'} hs hms hrun => ?_⟩
  obtain ⟨hmark, rfl⟩ := run_closing_eq_ok.1 hrun
  obtain ⟨t, r, hr, ht⟩ := State.exists_of_any_head? hmark
  rw [State.advance_of_rest_cons hr]
  exact ⟨congrArg List.tail hms, [t], ⟨t, rfl, ht⟩, hr⟩

/-- Two rules in a row, where the first one leads to states with `D`. -/
theorem sound_seq_of {first second : Rule}
    (h₁ : Production.Sound C ms modes L (run calls first))
    (hD : ∀ s m, C s → run calls first s = .ok m → D m)
    (h₂ : Production.Sound D modes ms' M (run calls second)) :
    Production.Sound C ms ms' (L * M) (run calls (first >> second)) := by
  refine ⟨fun {s s'} hs hms hrun => ?_⟩
  -- the state in between has the line modes that the second rule expects
  obtain ⟨m, hm, hs'⟩ := run_seq_eq_ok.1 hrun
  obtain ⟨hmodes, u, hu, hru⟩ := h₁.reads hs hms hm
  obtain ⟨hms', v, hv, hrv⟩ := h₂.reads (hD s m hs hm) hmodes hs'
  exact ⟨hms', u ++ v, Language.append_mem_mul hu hv, by rw [hru, hrv, List.append_assoc]⟩

/-- Two rules in a row read two phrases in a row. -/
theorem sound_seq {first second : Rule}
    (h₁ : Production.Sound C ms modes L (run calls first))
    (h₂ : Production.Sound State.Any modes ms' M (run calls second)) :
    Production.Sound C ms ms' (L * M) (run calls (first >> second)) :=
  sound_seq_of h₁ (fun _ _ _ _ => trivial) h₂

/-- A branch reads one of two phrases, the first one where its look succeeds. -/
theorem sound_branch {look : Look} {yes no : Rule}
    (h₁ : Production.Sound (fun s => C s ∧ look.holds s) ms ms' L (run calls yes))
    (h₂ : Production.Sound C ms ms' M (run calls no)) :
    Production.Sound C ms ms' (L + M) (run calls (branch look yes no)) := by
  refine ⟨fun {s s'} hs hms hrun => ?_⟩
  rw [run_branch] at hrun
  split at hrun
  · next hlook =>
    obtain ⟨hms', u, hu, hr⟩ := h₁.reads ⟨hs, hlook⟩ hms hrun
    exact ⟨hms', u, .inl hu, hr⟩
  · obtain ⟨hms', u, hu, hr⟩ := h₂.reads hs hms hrun
    exact ⟨hms', u, .inr hu, hr⟩

/-- What is refused is never read, so it is read as anything. -/
theorem sound_refuse (e : Expected) : Production.Sound C ms ms' L (run calls (refuse e)) :=
  ⟨fun _ _ hrun => by cases hrun⟩

/-- An optional rule reads an optional phrase. -/
theorem sound_optional {look : Look} {rule : Rule}
    (h : Production.Sound (fun s => C s ∧ look.holds s) ms ms L (run calls rule)) :
    Production.Sound C ms ms (Phrase.opt L) (run calls (optional look rule)) := by
  -- what is left out is the empty phrase
  have hempty : Production.Sound C ms ms 1 (run calls empty) := by
    refine ⟨fun {s s'} hs hms hrun => ?_⟩
    obtain rfl := Except.ok.inj hrun
    exact ⟨hms, [], rfl, rfl⟩
  rw [Phrase.opt, add_comm]
  exact sound_branch h hempty

/-- A loop reads a row of phrases, one in each round. -/
theorem sound_repeatWhile {look : Look} {round : Rule}
    (h : Production.Sound (look.holds ·) ms ms L (run calls round)) :
    Production.Sound C ms ms L∗ (run calls (repeatWhile look round)) := by
  suffices hiterate : ∀ bound : List Token,
      Production.Sound C ms ms L∗ (iterate look.holds (run calls round) bound) from
    ⟨fun {s _} => (hiterate s.rest).reads⟩
  intro bound
  induction bound generalizing C with
  | nil =>
    refine ⟨fun {s s'} hs hms hrun => ?_⟩
    obtain rfl := Except.ok.inj hrun
    exact ⟨hms, [], Language.nil_mem_kstar L, rfl⟩
  | cons b bound ih =>
    refine ⟨fun {s s'} hs hms hrun => ?_⟩
    obtain ⟨hlook, m, hm, hrun⟩ | ⟨-, rfl⟩ := iterate_cons_eq_ok.1 hrun
    · -- a round is made where the question is answered in the affirmative, so nothing else is asked
      -- of the states that the later rounds begin from
      obtain ⟨hmodes, u, hu, hru⟩ := h.reads hlook hms hm
      obtain ⟨hms', v, hv, hrv⟩ := (ih (C := State.Any)).reads trivial hmodes hrun
      refine ⟨hms', u ++ v, Phrase.append_mem_kstar hu hv, ?_⟩
      rw [hru, hrv, List.append_assoc]
    · exact ⟨hms, [], Language.nil_mem_kstar L, rfl⟩

/-- A phrase read where no line break counts before it. -/
theorem sound_sameLine {p : Production} (h : p.Sound C ms ms' L)
    (hC : ∀ s, C s → s.lineEnds = false) :
    p.Sound C ms ms' (Phrase.sameLine (ms.headD true) L) := by
  refine ⟨fun {s s'} hs hms hrun => ?_⟩
  obtain ⟨hms', u, hu, hr⟩ := h.reads hs hms hrun
  refine ⟨hms', u, ⟨hu, fun hmode t ht => ?_⟩, hr⟩
  have hline := hC s hs
  -- only the first token may be on a new line, and the look has excluded that
  cases u with
  | nil => simp at ht
  | cons x u =>
    obtain rfl : x = t := by simpa using ht
    simpa [State.lineEnds, hr, hms, hmode, ← List.headD_eq_head?_getD] using hline

/-- A list is read as one. -/
theorem sound_commaSeparated {rule : Rule}
    (h : Production.Sound State.Any ms ms L (run calls rule)) :
    Production.Sound C ms ms (Phrase.commaList L) (run calls (commaSeparated rule)) :=
  sound_seq (sound_of_imp h fun _ _ => trivial)
    (sound_repeatWhile (sound_seq (sound_token fun _ h => h) h))

/-! ### Types -/

/-- What is one level deeper is sound for `P`. -/
def SoundCalls (P : Phrases) (calls : Construct → Production) : Prop :=
  ∀ (c : Construct) (ms : List Bool),
    Production.Sound State.Any ms ms (P (c.nonterminal (ms.headD true))) (calls c)

variable {P : Phrases}

section
variable (hc : SoundCalls P calls)
include hc

/-- A called type is read as a type. -/
theorem sound_type : Production.Sound C ms ms (P .type) (run calls type) :=
  sound_of_imp (hc .type ms) fun _ _ => trivial

/-- A called expression is read as one, in the line mode of the state. -/
theorem sound_expr : Production.Sound C ms ms (P (.expr (ms.headD true))) (run calls expr) :=
  sound_of_imp (hc .expr ms) fun _ _ => trivial

/-- Type arguments are read as such. -/
theorem sound_typeArgs : Production.Sound C ms ms P.typeArgs (run calls typeArgs) := by
  rw [Phrases.typeArgs, mul_assoc]
  exact sound_seq (sound_opening _ false)
    (sound_seq (sound_commaSeparated (sound_type hc)) (sound_closing _ false))

/-- The domain of a function type is read as such. -/
theorem sound_domain : Production.Sound C ms ms P.domain (run calls (opening openParen false >>
    (optional (.no (.mark closeParen)) (commaSeparated type) >> closing closeParen))) := by
  rw [Phrases.domain, mul_assoc]
  exact sound_seq (sound_opening _ false)
    (sound_seq (sound_optional (sound_commaSeparated (sound_type hc))) (sound_closing _ false))

omit hc in
/-- A path is read as such. -/
theorem sound_path : Production.Sound C ms ms Phrases.path (run calls
    (branch .ident token (refuse .type) >> repeatWhile (.mark dot) (token >> ident))) := by
  have hhead : Production.Sound C ms ms Phrase.name
      (run calls (branch .ident token (refuse .type))) :=
    sound_mono (sound_branch (sound_token fun _ h => h.2) (sound_refuse _)) (Language.add_self _).le
  exact sound_seq hhead (sound_repeatWhile (sound_seq (sound_token fun _ h => h) sound_ident))

/-! ### Statements -/

/-- A type ascription is read as such, if there is one. -/
theorem sound_typeAscription :
    Production.Sound C ms ms P.ascription (run calls typeAscription) :=
  sound_optional (sound_seq (sound_token fun _ h => h.2) (sound_type hc))

/-- Parameters are read as such. -/
theorem sound_params : Production.Sound C ms ms P.params (run calls params) := by
  simp only [Phrases.params, mul_assoc]
  exact sound_seq (sound_opening _ false)
    (sound_seq
      (sound_optional (sound_commaSeparated (sound_seq sound_ident
        (sound_seq (sound_mark _) (sound_type hc)))))
      (sound_closing _ false))

omit hc in
/-- A pattern is read as such. -/
theorem sound_pattern : Production.Sound C ms ms Phrases.pattern (run calls pattern) := by
  rw [Phrases.pattern, add_comm, mul_assoc]
  exact sound_branch
    (sound_seq (sound_opening _ false)
      (sound_seq (sound_commaSeparated sound_ident) (sound_closing _ false)))
    sound_ident

omit hc in
/-- An import path is read as such, with its group. -/
theorem sound_importPath : Production.Sound C ms ms Phrases.importPath (run calls importPath) := by
  have hdot (s : State) (h : (Look.markNotBefore dot openBrace).holds s) :
      s.rest.head?.any (·.isMark dot) := (Bool.and_eq_true_iff.1 h).1
  have hgroup : Production.Sound State.Any ms ms
      (Phrase.punct openBrace * (Phrase.commaList Phrase.name * Phrase.punct closeBrace))
      (run calls importGroup) :=
    sound_seq (sound_opening _ false)
      (sound_seq (sound_commaSeparated sound_ident) (sound_closing _ false))
  simp only [Phrases.importPath, Phrases.path, mul_assoc]
  exact sound_seq sound_ident
    (sound_seq (sound_repeatWhile (sound_seq (sound_token hdot) sound_ident))
      (sound_optional (sound_seq (sound_token fun _ h => h.2) hgroup)))

/-- Statements stand where line breaks count. -/
theorem sound_statement (hms : ms.headD true = true) :
    Production.Sound C ms ms P.statement (run calls statement) := by
  have hexpr {C : State → Prop} : Production.Sound C ms ms (P (.expr true)) (run calls expr) :=
    hms ▸ sound_expr hc
  have hdefiniens : Production.Sound State.Any ms ms P.definiens (run calls definiens) :=
    sound_seq (sound_mark _) hexpr
  simp only [Phrases.statement, mul_assoc, add_assoc]
  -- the branches are those of the grammar, in its order
  exact sound_branch
    (sound_seq (sound_token fun _ h => h.2)
      (sound_seq sound_pattern (sound_seq (sound_typeAscription hc) hdefiniens))) <|
    sound_branch
    (sound_seq (sound_token fun _ h => h.2)
      (sound_seq sound_ident (sound_seq (sound_typeAscription hc) hdefiniens))) <|
    sound_branch
    (sound_seq (sound_token fun _ h => h.2)
      (sound_seq sound_ident (sound_seq (sound_optional (sound_params hc))
        (sound_seq (sound_typeAscription hc) hdefiniens)))) <|
    sound_branch (sound_seq (sound_token fun _ h => h.2) sound_importPath) hexpr

/-! ### Blocks -/

omit hc in
/-- A row of semicolons is read as such. -/
theorem sound_semicolons :
    Production.Sound C ms ms (Phrase.punct semicolon)∗ (run calls semicolons) :=
  sound_repeatWhile (sound_token fun _ h => h)

omit hc in
/-- A brace would have closed the block, so what ends a statement before further tokens `v ++ w` of
the block is a semicolon or a line break. -/
theorem separated_of_endOfStatement {s : State} {v w r : List Token}
    (hend : (Look.either (.mark semicolon) (.mark closeBrace)).holds s ∨
      s.rest.head?.any (·.afterBreak))
    (hv : v ∈ (Phrase.punct semicolon)∗) (hrest : s.rest = v ++ (w ++ r))
    (hbrace : v = [] → w ≠ [] → s.atMark closeBrace = false) : Phrase.Separated (v ++ w) := by
  intro t ht
  cases v with
  | cons x v =>
    obtain rfl : x = t := by simpa using ht
    exact .inl (Phrase.mem_kstar_one.1 hv x List.mem_cons_self)
  | nil =>
    rw [List.nil_append] at ht
    have hw : w ≠ [] := by
      rintro rfl
      cases ht
    -- without a semicolon the next statement begins where the first one has ended
    have hhead : s.rest.head? = some t := by
      rw [hrest, List.nil_append, List.head?_append_of_ne_nil _ hw]
      exact ht
    have hopen := hbrace rfl hw
    simp only [State.atMark, hhead, Option.any_some] at hopen
    simpa [Look.holds, State.atMark, hhead, hopen] using hend

/-- A round in a block reads a statement and the semicolons behind it, which is what separates it
from more of the block. -/
theorem sound_blockRound (hms : ms.headD true = true) {s m : State} (hmodes : s.lineModes = ms)
    (hround : run calls (statement >> endOfStatement (.either (.mark semicolon)
      (.mark closeBrace)) .blockSeparator >> semicolons) s = .ok m) :
    m.lineModes = ms ∧ ∃ u ∈ P.statement, ∃ v ∈ (Phrase.punct semicolon)∗,
      s.rest = u ++ (v ++ m.rest) ∧ ∀ w r, m.rest = w ++ r →
        (w ≠ [] → m.atMark closeBrace = false) → Phrase.Separated (v ++ w) := by
  obtain ⟨m₁, hstatement, htail⟩ := run_seq_eq_ok.1 hround
  obtain ⟨m₂, hend, hsemicolons⟩ := run_seq_eq_ok.1 htail
  obtain ⟨hsep, rfl⟩ := run_endOfStatement_eq_ok.1 hend
  have hS : Production.Sound State.Any ms ms P.statement (run calls statement) :=
    sound_statement hc hms
  have hV : Production.Sound State.Any ms ms (Phrase.punct semicolon)∗ (run calls semicolons) :=
    sound_semicolons
  obtain ⟨hmodes₁, u, hu, hru⟩ := hS.reads trivial hmodes hstatement
  obtain ⟨hmodes₂, v, hv, hrv⟩ := hV.reads trivial hmodes₁ hsemicolons
  refine ⟨hmodes₂, u, hu, v, hv, by rw [hru, hrv], fun w r hrw hw => ?_⟩
  refine separated_of_endOfStatement hsep hv (by rw [hrv, hrw]) ?_
  rintro rfl hne
  simpa [State.atMark, ← show m₁.rest = m.rest from hrv] using hw hne

/-- The statements of a block, after the semicolons at its beginning. A statement is read only where
no brace closes the block. -/
theorem sound_statementRounds (hms : ms.headD true = true) (bound : List Token) {s s' : State}
    (hmodes : s.lineModes = ms)
    (hrun : iterate (Look.no (.mark closeBrace)).holds (run calls (statement >>
      endOfStatement (.either (.mark semicolon) (.mark closeBrace)) .blockSeparator >>
      semicolons)) bound s = .ok s') :
    s'.lineModes = ms ∧ ∃ us w, Phrase.Row P.statement us w ∧ s.rest = w ++ s'.rest ∧
      (w ≠ [] → s.atMark closeBrace = false) := by
  induction bound generalizing s with
  | nil =>
    obtain rfl := Except.ok.inj hrun
    exact ⟨hmodes, [], [], .nil (Language.nil_mem_kstar _), rfl, fun h => absurd rfl h⟩
  | cons b bound ih =>
    obtain ⟨hlook, m, hround, hrun⟩ | ⟨-, rfl⟩ := iterate_cons_eq_ok.1 hrun
    · obtain ⟨hmodes₁, u, hu, v, hv, hruv, hsep⟩ := sound_blockRound hc hms hmodes hround
      obtain ⟨hmodes', us, w, hrow, hrw, hw⟩ := ih hmodes₁ hrun
      -- this statement comes first, and the semicolons behind it begin the row of the others
      refine ⟨hmodes', u :: us, [] ++ (u ++ (v ++ w)), .cons (Language.nil_mem_kstar _) hu
        (hsep w s'.rest hrw hw) (hrow.semicolons hv), ?_, fun _ => ?_⟩
      · rw [hruv, hrw]
        simp
      · simpa [Look.holds] using hlook
    · exact ⟨hmodes, [], [], .nil (Language.nil_mem_kstar _), rfl, fun h => absurd rfl h⟩

/-- A block is read as such. -/
theorem sound_block : Production.Sound C ms ms P.block (run calls block) := by
  have hstatements : Production.Sound State.Any (true :: ms) (true :: ms)
      (Phrase.statements P.statement) (run calls (semicolons >>
        repeatWhile (.no (.mark closeBrace)) (statement >>
          endOfStatement (.either (.mark semicolon) (.mark closeBrace)) .blockSeparator >>
          semicolons))) := by
    refine ⟨fun {s s'} _ hmodes hrun => ?_⟩
    obtain ⟨m, hsemicolons, hrounds⟩ := run_seq_eq_ok.1 hrun
    have hV : Production.Sound State.Any (true :: ms) (true :: ms) (Phrase.punct semicolon)∗
        (run calls semicolons) := sound_semicolons
    obtain ⟨hmodes₁, v, hv, hrv⟩ := hV.reads trivial hmodes hsemicolons
    obtain ⟨hmodes', us, w, hrow, hrw, -⟩ := sound_statementRounds hc rfl _ hmodes₁ hrounds
    exact ⟨hmodes', v ++ w, ⟨us, hrow.semicolons hv⟩, by rw [hrv, hrw, List.append_assoc]⟩
  have hgroup := sound_seq (C := C) (sound_opening openBrace true)
    (sound_seq hstatements (sound_closing closeBrace true))
  rw [Phrases.block, mul_assoc]
  -- `block` reads the semicolons and the rounds in a row with its braces, not as one rule
  refine ⟨fun {s s'} hs hmodes hrun => hgroup.reads hs hmodes ?_⟩
  rw [← hrun, block, run_seq, run_seq (opening openBrace true)]
  exact bind_congr fun m => run_seq_assoc _ _ _ m

/-! ### Expressions -/

/-- Arguments are read as such. -/
theorem sound_args : Production.Sound C ms ms P.args (run calls args) := by
  rw [Phrases.args, mul_assoc]
  exact sound_seq (sound_opening _ false)
    (sound_seq (sound_optional (sound_commaSeparated (sound_expr hc))) (sound_closing _ false))

/-- A condition is read as such. -/
theorem sound_condition : Production.Sound C ms ms P.condition (run calls condition) := by
  rw [Phrases.condition, mul_assoc]
  exact sound_seq (sound_opening _ false) (sound_seq (sound_expr hc) (sound_closing _ false))

/-- A trailer is read as such. -/
theorem sound_trailer : Production.Sound C ms ms P.trailer (run calls trailer) := by
  simp only [Phrases.trailer, add_assoc]
  exact sound_branch (sound_seq (sound_token fun _ h => h.2) sound_ident)
    (sound_branch (sound_args hc) (sound_branch (sound_typeArgs hc) (sound_block hc)))

omit hc in
/-- A look at the same line has seen no line break. -/
theorem lineEnds_of_sameLine {look : Look} {s : State} (h : (Look.sameLine look).holds s) :
    s.lineEnds = false := by
  simpa using (Bool.and_eq_true_iff.1 h).2

/-- An operand that is no object creation. -/
theorem sound_simple : Production.Sound (fun s => (Look.keyword "new".toList).holds s = false) ms ms
    P.simple (run calls primary) := by
  have hword (s : State)
      (h : (Look.either (.keyword "this".toList) (.keyword "super".toList)).holds s) :
      s.rest.head?.any fun t => t.isKeyword "this".toList || t.isKeyword "super".toList := by
    cases hr : s.rest with
    | nil => simp [Look.holds, hr] at h
    | cons t r => simpa [Look.holds, hr] using h
  -- the branch for object creations is never taken
  have hnew : Production.Sound (fun s => (Look.keyword "new".toList).holds s = false ∧
      (Look.keyword "new".toList).holds s) ms ms 0 (run calls construction) :=
    ⟨fun h => absurd (h.1.symm.trans h.2) Bool.false_ne_true⟩
  refine sound_mono (sound_branch (sound_token fun _ h => h.2) <|
    sound_branch (sound_token fun _ h => h.2) <|
    sound_branch (sound_token fun _ h => hword _ h.2) <|
    sound_branch hnew <| sound_branch (sound_args hc) <|
    sound_branch (sound_block hc) (sound_refuse (L := 0) _)) ?_
  rintro u (h | h | ⟨t, rfl, ht⟩ | h | h | h | h)
  · exact .inl (.inl (.inl (.inl (.inl h))))
  · exact .inl (.inl (.inl (.inl (.inr h))))
  · rcases Bool.or_eq_true_iff.1 ht with ht | ht
    · exact .inl (.inl (.inl (.inr ⟨t, rfl, ht⟩)))
    · exact .inl (.inl (.inr ⟨t, rfl, ht⟩))
  · exact absurd h (Language.notMem_zero u)
  · exact .inl (.inr h)
  · exact .inr h
  · exact absurd h (Language.notMem_zero u)

end

/-- Operands with operators between them, whatever an operand is. -/
theorem sound_operation {O : Phrase}
    (h : ∀ C : State → Prop, Production.Sound C ms ms O (run calls operand)) :
    Production.Sound C ms ms (Phrases.operation (ms.headD true) O) (run calls operation) := by
  have hsigned (C : State → Prop) :
      Production.Sound C ms ms (Phrases.signed O) (run calls signedOperand) :=
    sound_seq (sound_optional (sound_token fun _ h => h.2)) (h _)
  have hoperator (s : State) (h : (Look.sameLine .infixOperator).holds s) :
      s.rest.head?.any fun t => t.kind == .op || t.kind == .ident := (Bool.and_eq_true_iff.1 h).1
  -- every round of the loop takes an operator of the same line and one more operand
  exact sound_seq (hsigned C) (sound_repeatWhile (sound_seq
    (sound_sameLine (sound_token hoperator) fun _ h => lineEnds_of_sameLine h) (hsigned _)))

end Rule
end StatementReader
