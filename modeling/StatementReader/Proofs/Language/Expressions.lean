import StatementReader.Proofs.Language.Statements

/-!
# Expressions are read

The lemmas on the rules for expressions. An operand takes everything on its line that may follow it,
so what stands after an operand is no trailer, what stands after the operands is no operator either,
and what stands after an expression is no equals sign (`Token.endsOperand`, `Token.endsOperation`,
`Token.endsExpr`).

Only a function literal needs a second token of foresight. An operand may begin with its parameter,
but no arrow comes after that (`Phrase.NoLambda`).
-/

namespace StatementReader

open Rule Computability Filter

namespace Token

variable {t : Token} {lineMode : Bool}

/-- What an operand begins with, without its sign. -/
def startsOperand (t : Token) : Bool :=
  t.kind.isLiteral || t.kind == .ident ||
    (t.kind == .keyword && (["this", "super", "new"].map String.toList).contains t.text) ||
    (t.kind == .punct && [openParen, openBrace].contains t.text)

/-- A token that can begin an operand is no operator, so it cannot be taken for a sign. -/
theorem kind_ne_op_of_startsOperand (h : t.startsOperand) : t.kind ≠ .op := by
  intro hk
  simp [startsOperand, hk, LexemeKind.isLiteral] at h

/-- Only three words can begin an operand, and it is no other word. -/
theorem isKeyword_of_startsOperand (h : t.startsOperand) {word : Text}
    (hword : word ∉ ["this", "super", "new"].map String.toList) : t.isKeyword word = false := by
  by_contra htrue
  obtain ⟨hk, rfl⟩ := isKeyword_iff.1 (eq_true_of_ne_false htrue)
  simp only [startsOperand, hk, LexemeKind.isLiteral, Bool.or_eq_true, Bool.and_eq_true] at h
  exact hword (by simpa using h)

/-- Whatever can begin an operand can begin an expression. -/
theorem startsExpr_of_startsOperand (h : t.startsOperand) : t.startsExpr := by
  simp only [startsOperand, Bool.or_eq_true, Bool.and_eq_true] at h
  simp only [startsExpr, Bool.or_eq_true, Bool.and_eq_true]
  rcases h with ((h | h) | ⟨hk, h⟩) | h
  · exact .inl (.inl (.inl (.inl h)))
  · exact .inl (.inl (.inl (.inr h)))
  · refine .inl (.inr ⟨hk, ?_⟩)
    simp only [expressionWords, List.map_cons, List.contains_cons, Bool.or_eq_true] at h ⊢
    exact .inr (.inr h)
  · exact .inr h

/-- What begins something that may follow an operand. -/
def startsTrailer (t : Token) : Bool :=
  (t.isMark dot || t.isMark openParen) || (t.isMark openBracket || t.isMark openBrace)

/-- Behind a whole operand stands no trailer that would belong to it. -/
theorem startsTrailer_of_endsOperand (h : t.endsOperand lineMode) :
    (t.startsTrailer && !(t.afterBreak && lineMode)) = false := by
  grind [endsOperand, endsType, startsTrailer]

/-- Behind a whole operand stands no opening parenthesis, which would be taken for arguments. -/
theorem isMark_openParen_of_endsOperand (h : t.endsOperand lineMode) :
    (t.isMark openParen && !(t.afterBreak && lineMode)) = false := by
  grind [endsOperand]

/-- Where an operand can end, so can a type. -/
theorem endsType_of_endsOperand {bare : Bool} (h : t.endsOperand lineMode) : t.endsType bare := by
  grind [endsOperand, endsType]

/-- Where an operation can end, so can its last operand. -/
theorem endsOperand_of_endsOperation (h : t.endsOperation lineMode) : t.endsOperand lineMode :=
  (Bool.and_eq_true_iff.1 h).1

/-- Where an expression can end, so can an operation. -/
theorem endsOperation_of_endsExpr {short : Bool} (h : t.endsExpr lineMode short) :
    t.endsOperation lineMode :=
  (Bool.and_eq_true_iff.1 (Bool.and_eq_true_iff.1 h).1).1

/-- Behind a whole expression stands no equals sign on the same line, which would make it an
assignment. -/
theorem isMark_equals_of_endsExpr {short : Bool} (h : t.endsExpr lineMode short) :
    (t.isMark equals && !(t.afterBreak && lineMode)) = false := by
  grind [endsExpr]

/-- Behind a whole expression stands no arrow, which would make it the parameter of a function. -/
theorem isMark_arrow_of_endsExpr {short : Bool} (h : t.endsExpr lineMode short) :
    t.isMark arrow = false := by
  have htype : t.endsType true :=
    endsType_of_endsOperand (endsOperand_of_endsOperation (endsOperation_of_endsExpr h))
  exact isMark_arrow_of_endsType htype

/-- A word ends an expression that need not be short. -/
theorem endsExpr_of_isKeyword {word : Text} (h : t.isKeyword word) :
    t.endsExpr lineMode false := by
  have hk := (isKeyword_iff.1 h).1
  have hpunct : t.kind ≠ .punct := by simp [hk]
  simp [endsExpr, endsOperation, endsOperand, endsType_of_kind_ne hpunct,
    isMark_of_kind_ne hpunct, hk]

/-- An equals sign on the same line ends an operation. -/
theorem endsOperation_of_equals (h : t.isMark equals && !(t.afterBreak && lineMode)) :
    t.endsOperation lineMode := by
  have hmark := (Bool.and_eq_true_iff.1 h).1
  have hk := (isMark_iff.1 hmark).1
  have htype : t.endsType true := endsType_of_isMark hmark (by decide)
  have hparen : t.isMark openParen = false := isMark_eq_false hmark (by decide)
  have hbrace : t.isMark openBrace = false := isMark_eq_false hmark (by decide)
  simp [endsOperation, endsOperand, htype, hk, hparen, hbrace]

/-- What may stand between two operands. -/
def isInfix (t : Token) : Bool := t.kind == .op || t.kind == .ident

/-- Behind a whole operation stands nothing that could join one more operand. -/
theorem isInfix_of_endsOperation (h : t.endsOperation lineMode) :
    (t.isInfix && !(t.afterBreak && lineMode)) = false := by
  grind [endsOperation, isInfix]

/-- What can join two operands ends the first of them. -/
theorem endsOperand_of_isInfix (h : t.isInfix) : t.endsOperand lineMode := by
  have hkind : t.kind ≠ .punct := by
    intro hk
    simp [isInfix, hk] at h
  simp [endsOperand, endsType_of_kind_ne hkind, isMark_of_kind_ne hkind]

end Token

/-- To look at one token of the same line is to look at that token and at whether a line break
stands before it. -/
theorem Look.before_sameLine {look : Look} {p : Token → Bool} {lineMode : Bool}
    (h : ∀ r, look.before lineMode r = r.head?.any p) (r : List Token) :
    (sameLine look).before lineMode r =
      r.head?.any fun t => p t && !(t.afterBreak && lineMode) := by
  show (look.before lineMode r && !(r.head?.any (·.afterBreak) && lineMode)) = _
  rw [h]
  cases r <;> rfl

namespace Phrase

variable {L M : Phrase}

/-- No row of the phrase begins like a function literal, unless an arrow follows it. -/
def NoLambda (L : Phrase) : Prop :=
  ∀ u ∈ L, ∀ lineMode r, Next (fun t => !t.isMark arrow) r →
    Look.lambda.before lineMode (u ++ r) = false

namespace NoLambda

/-- A phrase that cannot begin with a name cannot begin with a name and an arrow. -/
theorem of_begins {p : Token → Bool} (h : L.Begins p) (hp : ∀ t, p t → t.kind ≠ .ident) :
    L.NoLambda := by
  intro u hu lineMode r _
  obtain ⟨t, v, rfl, ht⟩ := h u hu
  show (t.kind == .ident && _) = false
  rw [beq_eq_false_iff_ne.2 (hp t ht), Bool.false_and]

/-- A name alone has no arrow behind it. -/
theorem name : name.NoLambda := by
  rintro _ ⟨t, rfl, ht⟩ lineMode r hr
  show (t.kind == .ident && r.head?.any (·.isMark arrow)) = false
  rw [hr.any_head? fun t h => by simpa using h, Bool.and_false]

/-- An alternative of phrases without a function is one. -/
theorem add (h₁ : L.NoLambda) (h₂ : M.NoLambda) : (L + M).NoLambda :=
  fun u hu => hu.elim (h₁ u) (h₂ u)

/-- What comes after such a phrase must not be an arrow. -/
theorem mul (h : L.NoLambda) (hM : ∀ v ∈ M, ∀ r, Next (fun t => !t.isMark arrow) r →
    Next (fun t => !t.isMark arrow) (v ++ r)) : (L * M).NoLambda := by
  rintro w ⟨u, hu, v, hv, rfl⟩ lineMode r hr
  show Look.lambda.before lineMode (u ++ v ++ r) = false
  rw [List.append_assoc]
  exact h u hu lineMode (v ++ r) (hM v hv r hr)

end NoLambda

end Phrase

namespace Rule

variable {𝓕 : Filter ℕ} {ms : List Bool} {Q : Shapes} {lineMode : Bool}

/-! ### Operands -/

/-- The parser looks for a trailer where one can begin, and not on a new line. -/
theorem before_trailerStart (r : List Token) : trailerStart.before lineMode r =
    r.head?.any fun t => t.startsTrailer && !(t.afterBreak && lineMode) :=
  Look.before_sameLine (fun r => by cases r <;> rfl) r

section

variable (hQ : Q.Readable 𝓕)
include hQ

/-- Arguments are read in full, whatever follows. -/
theorem completes_args : args.Completes 𝓕 ms ms Q.forget.args fun _ => True := by
  rw [Phrases.args, mul_assoc]
  refine completes_parenthesized (completes_expr hQ rfl) (begins_expr hQ false) (fun t h => ?_)
    (fun t h => Token.endsExpr_of_isMark h (by decide))
    fun t h => Token.endsExpr_of_isMark h (by decide)
  exact Token.isMark_of_startsStatement (by simp [Token.startsStatement, h]) closeParen (by decide)

/-- A condition in parentheses is read in full, whatever follows. -/
theorem completes_condition : condition.Completes 𝓕 ms ms Q.forget.condition fun _ => True := by
  rw [Phrases.condition, mul_assoc]
  exact completes_bracketed _ _ _ ((completes_expr hQ rfl).imp fun r hr =>
    next_of_any_head? hr fun t h => Token.endsExpr_of_isMark h (by decide))

omit hQ in
/-- Arguments begin with a parenthesis. -/
theorem begins_args : Q.forget.args.Begins (·.isMark openParen) :=
  ((Phrase.begins_one _).mul _).mul _

omit hQ in
/-- A block begins with a brace. -/
theorem begins_block : Q.forget.block.Begins (·.isMark openBrace) :=
  ((Phrase.begins_one _).mul _).mul _

omit hQ in
/-- A member begins with a point. -/
theorem begins_member : (Phrase.punct dot * Phrase.name).Begins (·.isMark dot) :=
  (Phrase.begins_one _).mul _

/-- A trailer is read in full, whatever follows. -/
theorem completes_trailer : trailer.Completes 𝓕 ms ms Q.forget.trailer fun _ => True := by
  -- the rule asks for one mark after the other, and each alternative begins with its own
  have hmember : (token >> ident).Completes 𝓕 ms ms (Phrase.punct dot * Phrase.name)
      fun _ => True :=
    (completes_token _).andThen completes_ident
  have hbracket : (branch (.mark openBracket) typeArgs block).Completes 𝓕 ms ms
      (Q.forget.typeArgs + Q.forget.block) fun _ => True :=
    (completes_typeArgs hQ).branch (completes_block hQ) begins_typeArgs
      (begins_block.not_mark (by decide)) fun _ => rfl
  have hparen : (branch (.mark openParen) args
      (branch (.mark openBracket) typeArgs block)).Completes 𝓕 ms ms
        (Q.forget.args + (Q.forget.typeArgs + Q.forget.block)) fun _ => True :=
    (completes_args hQ).branch hbracket begins_args
      ((begins_typeArgs.not_mark (by decide)).add (begins_block.not_mark (by decide))) fun _ => rfl
  simp only [Phrases.trailer, add_assoc]
  exact hmember.branch hparen begins_member ((begins_args.not_mark (by decide)).add
    ((begins_typeArgs.not_mark (by decide)).add (begins_block.not_mark (by decide)))) fun _ => rfl

omit hQ in
/-- A trailer begins with a token that is looked for. -/
theorem begins_trailer : Q.forget.trailer.Begins Token.startsTrailer := by
  refine (((begins_member.imp fun t h => ?_).add (begins_args.imp fun t h => ?_)).add
    (begins_typeArgs.imp fun t h => ?_)).add (begins_block.imp fun t h => ?_) <;>
  simp [Token.startsTrailer, h]

/-- All trailers of an operand are read, if no other one follows. -/
theorem completes_trailers : (repeatWhile trailerStart trailer).Completes 𝓕 ms ms
    (Q.trailers (ms.headD true)) (Next (Token.endsOperand (ms.headD true))) := by
  have hbegins : (Phrase.sameLine (ms.headD true) Q.forget.trailer).Begins
      fun t => t.startsTrailer && !(t.afterBreak && ms.headD true) := begins_trailer.sameLine _
  have hround : trailer.Completes 𝓕 ms ms
      (Phrase.sameLine (ms.headD true) Q.forget.trailer) fun _ => True :=
    (completes_trailer hQ).mono (Phrase.sameLine_le _ _)
  -- every round takes something, and the last one is followed by nothing that the loop looks for
  refine hround.repeatWhile (fun u hu => hbegins.ne_nil hu) (fun u hu r => ?_) (fun r hr => ?_)
    (fun _ _ _ => trivial) fun _ _ => trivial
  · rw [before_trailerStart]
    exact hbegins.any_head? hu r fun _ h => h
  · rw [before_trailerStart]
    exact hr.any_head? fun t ht => Token.startsTrailer_of_endsOperand ht

omit hQ in
/-- Arguments and blocks begin with a mark. -/
theorem begins_brackets : (Q.forget.args + Q.forget.block).Begins (·.kind == .punct) :=
  (begins_args.imp fun t h => by simp [(Token.isMark_iff.1 h).1]).add
    (begins_block.imp fun t h => by simp [(Token.isMark_iff.1 h).1])

/-- What an operand is if it begins with none of its words. -/
theorem completes_brackets : (branch (.keyword "new".toList) construction
    (branch (.mark openParen) args (branch (.mark openBrace) block (refuse .expression)))).Completes
      𝓕 ms ms (Q.forget.args + Q.forget.block) fun _ => True := by
  have hblock : (branch (.mark openBrace) block (refuse .expression)).Completes 𝓕 ms ms
      Q.forget.block fun _ => True :=
    (completes_block hQ).branch_yes fun u hu r _ => begins_block.any_head? hu r fun _ h => h
  have hargs : (branch (.mark openParen) args
      (branch (.mark openBrace) block (refuse .expression))).Completes 𝓕 ms ms
        (Q.forget.args + Q.forget.block) fun _ => True :=
    (completes_args hQ).branch hblock begins_args (begins_block.not_mark (by decide)) fun _ => rfl
  -- neither kind of bracket is a word, so the first alternative is passed over
  refine hargs.branch_no fun u hu r _ => begins_brackets.any_head? hu r fun t h => ?_
  simp [Token.isKeyword, beq_iff_eq.1 h]

/-- An operand is recognized by its first token. -/
theorem completes_simple : primary.Completes 𝓕 ms ms Q.forget.simple fun _ => True := by
  have hself : (Phrase.word "this".toList + Phrase.word "super".toList).Begins
      fun t => t.isKeyword "this".toList || t.isKeyword "super".toList :=
    ((Phrase.begins_one _).imp fun t h => Bool.or_eq_true_iff.2 (.inl h)).add
      ((Phrase.begins_one _).imp fun t h => Bool.or_eq_true_iff.2 (.inr h))
  have hkeyword : (Phrase.word "this".toList + Phrase.word "super".toList).Begins
      (·.kind == .keyword) :=
    ((Phrase.begins_one _).imp fun t h => by simp [(Token.isKeyword_iff.1 h).1]).add
      ((Phrase.begins_one _).imp fun t h => by simp [(Token.isKeyword_iff.1 h).1])
  have hname : Phrase.name.Begins (·.kind == .ident) := Phrase.begins_one _
  -- the branches from the last one to the first, each told from the others by its kind of token
  have hwords := ((completes_token _).add (completes_token _)).branch (completes_brackets hQ) hself
    (begins_brackets.imp fun t h => by simp [Token.isKeyword, beq_iff_eq.1 h])
    fun r => (by cases r <;> rfl :
      (Look.either (.keyword "this".toList) (.keyword "super".toList)).before (ms.headD true) r = _)
  have hnames := (completes_token (·.kind == .ident)).branch hwords hname
    ((hkeyword.imp fun t h => by simp [beq_iff_eq.1 h]).add
      (begins_brackets.imp fun t h => by simp [beq_iff_eq.1 h]))
    fun _ => (rfl : Look.ident.before _ _ = _)
  have hliterals := (completes_token (·.kind.isLiteral)).branch hnames (Phrase.begins_one _)
    ((hname.imp fun t h => by simp [beq_iff_eq.1 h, LexemeKind.isLiteral]).add
      ((hkeyword.imp fun t h => by simp [beq_iff_eq.1 h, LexemeKind.isLiteral]).add
        (begins_brackets.imp fun t h => by simp [beq_iff_eq.1 h, LexemeKind.isLiteral])))
    fun _ => (rfl : Look.literal.before _ _ = _)
  simp only [Phrases.simple, add_assoc] at hliterals ⊢
  exact hliterals

/-- The type of an object creation goes on as long as it can, and arguments on its line belong to
the creation. -/
theorem completes_construction {bare : Bool} : construction.Completes 𝓕 ms ms
    (Phrase.word "new".toList * Q (.type bare)) fun r => Next (Token.endsType bare) r ∧
      (Look.sameLine (.mark openParen)).before (ms.headD true) r = false := by
  have hnone : (optional (.sameLine (.mark openParen)) args).Completes 𝓕 ms ms 1 fun r =>
      Next (Token.endsType bare) r ∧
        (Look.sameLine (.mark openParen)).before (ms.headD true) r = false :=
    Completes.skip fun r hr => hr.2
  have htype := (hQ.type ms bare).seq hnone fun v hv r hr => by
    rw [show v = [] from hv]
    exact hr.1
  -- arguments that are not there are the empty phrase
  rw [mul_one] at htype
  exact (completes_token _).andThen htype

/-- A new object with arguments is read in full, whatever follows. -/
theorem completes_construction_args : construction.Completes 𝓕 ms ms
    (Phrase.word "new".toList *
      (Q.forget .type * Phrase.sameLine (ms.headD true) Q.forget.args)) fun _ => True := by
  have hbegins : (Phrase.sameLine (ms.headD true) Q.forget.args).Begins
      fun t => t.isMark openParen && !(t.afterBreak && ms.headD true) :=
    begins_args.sameLine _
  have hargs : (optional (.sameLine (.mark openParen)) args).Completes 𝓕 ms ms
      (Phrase.sameLine (ms.headD true) Q.forget.args) fun _ => True := by
    refine ((completes_args hQ).mono (Phrase.sameLine_le _ _)).branch_yes fun u hu r _ => ?_
    rw [Look.before_sameLine fun _ => rfl]
    exact hbegins.any_head? hu r fun _ h => h
  -- the type is read up to the parenthesis, which cannot go on with it
  refine (completes_token _).andThen ((completes_type hQ).seq hargs fun v hv r _ => ?_)
  exact (hbegins.next hv r).imp fun t ht =>
    Token.endsType_of_isMark (Bool.and_eq_true_iff.1 ht).1 (by decide)

omit hQ in
/-- What reads a new object reads it as an operand too, since no other operand begins with this
word. -/
theorem completes_primary_new {M : Phrase} {F : List Token → Prop}
    (h : construction.Completes 𝓕 ms ms (Phrase.word "new".toList * M) F) :
    primary.Completes 𝓕 ms ms (Phrase.word "new".toList * M) F := by
  have hnew : (Phrase.word "new".toList * M).Begins (·.isKeyword "new".toList) :=
    (Phrase.begins_one _).mul M
  -- the questions that come before the one for `new` are answered in the negative
  have hno {p : Token → Bool} (hp : ∀ t, t.isKeyword "new".toList → p t = false) (u : List Token)
      (hu : u ∈ Phrase.word "new".toList * M) (r : List Token) (_ : F r) :
      (u ++ r).head?.any p = false :=
    hnew.any_head? hu r hp
  refine Completes.branch_no (Completes.branch_no (Completes.branch_no (h.branch_yes
    fun u hu r _ => hnew.any_head? hu r fun _ h => h) ?_) (hno fun t ht => ?_))
    (hno fun t ht => ?_)
  · intro u hu r hr
    show ((u ++ r).head?.any _ || (u ++ r).head?.any _) = false
    rw [hno (fun t ht => (Token.isKeyword_of_isKeyword ht).trans (by decide)) u hu r hr,
      hno (fun t ht => (Token.isKeyword_of_isKeyword ht).trans (by decide)) u hu r hr]
    rfl
  · simp [(Token.isKeyword_iff.1 ht).1]
  · simp [(Token.isKeyword_iff.1 ht).1, LexemeKind.isLiteral]

omit hQ in
/-- What comes apart from a type does not continue it and is no argument. -/
theorem begins_apart (bare : Bool) :
    (Q.apart bare).Begins fun t => t.endsType bare && !t.isMark openParen := by
  have hbegins {mark : Text} {L : Phrase} (h : L.Begins (·.isMark mark))
      (hmark : ∀ t : Token, t.isMark mark → t.endsType bare) (hne : (mark == openParen) = false) :
      L.Begins fun t => t.endsType bare && !t.isMark openParen :=
    h.imp fun t ht => by simp [hmark t ht, Token.isMark_eq_false ht hne]
  have hblock : Q.forget.block.Begins fun t => t.endsType bare && !t.isMark openParen :=
    hbegins begins_block (fun t ht => Token.endsType_of_isMark ht (by decide)) (by decide)
  cases bare with
  | true => exact hblock
  | false =>
    -- a type with arguments, or of a function, goes on with an arrow only
    have hends {mark : Text} (hne : (mark == arrow) = false) (t : Token) (ht : t.isMark mark) :
        t.endsType false := by
      simp [Token.endsType, Token.isMark_eq_false ht hne]
    exact ((hbegins begins_member (hends (by decide)) (by decide)).add
      (hbegins begins_typeArgs (hends (by decide)) (by decide))).add hblock

/-- An operand is read in full, with its trailers. -/
theorem completes_operand : operand.Completes 𝓕 ms ms (Q.operand (ms.headD true))
    (Next (Token.endsOperand (ms.headD true))) := by
  have htrailers : (repeatWhile trailerStart trailer).Completes 𝓕 ms ms (Q.trailers (ms.headD true))
      (Next (Token.endsOperand (ms.headD true))) := completes_trailers hQ
  have hsimple := (completes_simple hQ).andThen htrailers
  have hargs := (completes_primary_new (completes_construction_args hQ)).andThen htrailers
  -- What follows the type of an object creation is a trailer that does not belong to the type.
  have hplain (bare : Bool) : operand.Completes 𝓕 ms ms (Phrase.word "new".toList * Q (.type bare) *
      Phrase.opt (Phrase.sameLine (ms.headD true) (Q.apart bare) * Q.trailers (ms.headD true)))
      (Next (Token.endsOperand (ms.headD true))) := by
    refine (completes_primary_new (completes_construction hQ)).seq
      (htrailers.mono (Shapes.opt_apart_le Q bare)) ?_
    rintro v (hv | hv) r hr
    · rw [show v = [] from hv, List.nil_append, Look.before_sameLine fun _ => rfl]
      exact ⟨hr.imp fun t ht => Token.endsType_of_endsOperand ht,
        hr.any_head? fun t ht => Token.isMark_openParen_of_endsOperand ht⟩
    · have hbegins : (Phrase.sameLine (ms.headD true) (Q.apart bare) *
          Q.trailers (ms.headD true)).Begins fun t => t.endsType bare && !t.isMark openParen :=
        ((begins_apart bare).mono (Phrase.sameLine_le _ _)).mul _
      rw [Look.before_sameLine fun _ => rfl]
      refine ⟨(hbegins.next hv r).imp fun t ht => (Bool.and_eq_true_iff.1 ht).1,
        hbegins.any_head? hv r fun t ht => ?_⟩
      simp only [Bool.and_eq_true, Bool.not_eq_true'] at ht
      rw [ht.2, Bool.false_and]
  have hoperand : Q.operand (ms.headD true) = Q.forget.simple * Q.trailers (ms.headD true) +
      (Phrase.word "new".toList * (Q.forget .type * Phrase.sameLine (ms.headD true) Q.forget.args) *
          Q.trailers (ms.headD true) +
        (Phrase.word "new".toList * Q (.type true) * Phrase.opt (Phrase.sameLine (ms.headD true)
            (Q.apart true) * Q.trailers (ms.headD true)) +
          Phrase.word "new".toList * Q (.type false) * Phrase.opt (Phrase.sameLine (ms.headD true)
            (Q.apart false) * Q.trailers (ms.headD true)))) := by
    simp only [Shapes.operand, Shapes.created, mul_add, mul_assoc]
  rw [hoperand]
  exact hsimple.add (hargs.add ((hplain true).add (hplain false)))

/-! ### Operators -/

omit hQ in
/-- An operand begins as it should. -/
theorem begins_operand : (Q.operand lineMode).Begins Token.startsOperand := by
  have hword {word : Text} (h : (["this", "super", "new"].map String.toList).contains word) :
      (Phrase.word word).Begins Token.startsOperand :=
    (Phrase.begins_one _).imp fun t ht => by
      obtain ⟨hk, rfl⟩ := Token.isKeyword_iff.1 ht
      simp only [Token.startsOperand, hk, h]
      rfl
  have hmark {mark : Text} (h : [openParen, openBrace].contains mark) {t : Token}
      (ht : t.isMark mark) : t.startsOperand := by
    obtain ⟨hk, rfl⟩ := Token.isMark_iff.1 ht
    simp only [Token.startsOperand, hk, h]
    rfl
  have hliteral : (Phrase.one (·.kind.isLiteral)).Begins Token.startsOperand :=
    (Phrase.begins_one _).imp fun t ht => by simp [Token.startsOperand, ht]
  have hname : Phrase.name.Begins Token.startsOperand :=
    (Phrase.begins_one _).imp fun t ht => by simp [Token.startsOperand, beq_iff_eq.1 ht]
  -- an operand begins as what its trailers are attached to
  have hsimple : Q.forget.simple.Begins Token.startsOperand :=
    ((((hliteral.add hname).add (hword (by decide))).add (hword (by decide))).add
      (begins_args.imp fun t ht => hmark (by decide) ht)).add
        (begins_block.imp fun t ht => hmark (by decide) ht)
  exact (hsimple.mul _).add ((hword (by decide)).mul _)

/-- An operand with a sign is read in full, and so is one without. -/
theorem completes_signed : signedOperand.Completes 𝓕 ms ms
    (Phrases.signed (Q.operand (ms.headD true))) (Next (Token.endsOperand (ms.headD true))) := by
  have hsign : (optional .sign token).Completes 𝓕 ms ms (Phrase.opt (Phrase.one (·.isSign)))
      (Next fun t => !t.isSign) :=
    ((completes_token _).imp fun _ _ => trivial).optional
      (fun u hu r _ => (Phrase.begins_one _).any_head? hu r fun _ h => h)
      fun r hr => hr.any_head? fun t ht => by simpa using ht
  -- no operand begins with an operator, so the sign is either there or not
  exact hsign.seq (completes_operand hQ) fun v hv r _ =>
    (begins_operand.next hv r).imp fun t ht => by
      simp [Token.isSign, Token.kind_ne_op_of_startsOperand ht]

/-- An operation is read in full, if nothing follows that joins one more operand. -/
theorem completes_operation : operation.Completes 𝓕 ms ms (Q.operation (ms.headD true))
    (Next (Token.endsOperation (ms.headD true))) := by
  have hsigned : signedOperand.Completes 𝓕 ms ms (Phrases.signed (Q.operand (ms.headD true)))
      (Next (Token.endsOperand (ms.headD true))) := completes_signed hQ
  -- a round begins with an operator on the line of the operand before it, which ends that operand
  have hoperator : (Phrase.sameLine (ms.headD true) Phrase.operator *
      Phrases.signed (Q.operand (ms.headD true))).Begins
        fun t => t.isInfix && !(t.afterBreak && ms.headD true) :=
    Phrase.Begins.mul ((Phrase.begins_one _).sameLine _) _
  have hround : (token >> signedOperand).Completes 𝓕 ms ms
      (Phrase.sameLine (ms.headD true) Phrase.operator *
        Phrases.signed (Q.operand (ms.headD true))) (Next (Token.endsOperand (ms.headD true))) :=
    ((completes_token _).mono (Phrase.sameLine_le _ _)).andThen hsigned
  have hlook (r : List Token) : (Look.sameLine .infixOperator).before (ms.headD true) r =
      r.head?.any fun t => t.isInfix && !(t.afterBreak && ms.headD true) :=
    Look.before_sameLine (fun _ => rfl) r
  have hends (t : Token) (h : t.isInfix && !(t.afterBreak && ms.headD true)) :
      t.endsOperand (ms.headD true) :=
    Token.endsOperand_of_isInfix (Bool.and_eq_true_iff.1 h).1
  have hrounds : (repeatWhile (.sameLine .infixOperator) (token >> signedOperand)).Completes 𝓕 ms ms
      (Phrase.sameLine (ms.headD true) Phrase.operator *
        Phrases.signed (Q.operand (ms.headD true)))∗
      (Next (Token.endsOperation (ms.headD true))) := by
    refine hround.repeatWhile (fun u hu => hoperator.ne_nil hu) ?_ ?_
      (fun u hu r => (hoperator.next hu r).imp hends)
      fun r hr => hr.imp fun t ht => Token.endsOperand_of_endsOperation ht
    · intro u hu r
      rw [hlook]
      exact hoperator.any_head? hu r fun _ h => h
    · intro r hr
      rw [hlook]
      exact hr.any_head? fun t ht => Token.isInfix_of_endsOperation ht
  exact hsigned.seq hrounds fun v hv r hr => Phrase.next_of_mem_kstar (hoperator.imp hends) hv
    (hr.imp fun t ht => Token.endsOperand_of_endsOperation ht)

/-! ### Expressions -/

omit hQ in
/-- A simple expression is no beginning of a function. -/
theorem noLambda_simple : Q.forget.simple.NoLambda := by
  have hword {word : Text} : (Phrase.word word).NoLambda :=
    .of_begins (Phrase.begins_one _) fun t ht => by simp [(Token.isKeyword_iff.1 ht).1]
  have hmark {mark : Text} (t : Token) (ht : t.isMark mark) : t.kind ≠ .ident := by
    simp [(Token.isMark_iff.1 ht).1]
  have hliteral : (Phrase.one (·.kind.isLiteral)).NoLambda :=
    .of_begins (Phrase.begins_one _) fun t ht hk => by simp [hk, LexemeKind.isLiteral] at ht
  exact ((((hliteral.add .name).add hword).add hword).add (.of_begins begins_args hmark)).add
    (.of_begins begins_block hmark)

omit hQ in
/-- Nor is an operand. -/
theorem noLambda_operand : (Q.operand lineMode).NoLambda := by
  -- what follows an operand, on its line or not, begins with no arrow
  have htrailer : (Phrase.sameLine lineMode Q.forget.trailer).Begins fun t => !t.isMark arrow :=
    (begins_trailer.mono (Phrase.sameLine_le _ _)).imp fun t ht => by
      simp only [Token.startsTrailer, Bool.or_eq_true] at ht
      rcases ht with (h | h) | (h | h) <;> rw [Token.isMark_eq_false h (by decide)] <;> rfl
  have hsimple : (Q.forget.simple * Q.trailers lineMode).NoLambda :=
    noLambda_simple.mul fun v hv r hr => Phrase.next_of_mem_kstar htrailer hv hr
  have hcreation : (Phrase.word "new".toList * Q.created lineMode).NoLambda :=
    .of_begins ((Phrase.begins_one _).mul _) fun t ht => by simp [(Token.isKeyword_iff.1 ht).1]
  exact hsimple.add hcreation

omit hQ in
/-- Nor is an operation, since an arrow joins no operands. -/
theorem noLambda_operation : (Q.operation lineMode).NoLambda := by
  have hround : (Phrase.sameLine lineMode Phrase.operator *
      Phrases.signed (Q.operand lineMode)).Begins fun t => !t.isMark arrow :=
    Phrase.Begins.mul (((Phrase.begins_one _).mono (Phrase.sameLine_le _ _)).imp fun t ht => by
      have hkind : t.kind ≠ .punct := fun hk => by simp [hk] at ht
      simp [Token.isMark_of_kind_ne hkind]) _
  have hsign : (Phrase.one (·.isSign) * Q.operand lineMode).NoLambda :=
    .of_begins ((Phrase.begins_one _).mul _) fun t ht hk => by simp [Token.isSign, hk] at ht
  have hsigned : (Phrases.signed (Q.operand lineMode)).NoLambda := by
    -- a signed operand is an operand, or a sign and an operand
    rw [Phrases.signed, Phrase.opt, add_mul, one_mul]
    exact noLambda_operand.add hsign
  -- what follows the first operand is an operator, and an arrow is a mark
  exact hsigned.mul fun v hv r hr => Phrase.next_of_mem_kstar hround hv hr

omit hQ in
/-- An operation begins with an operand or a sign. -/
theorem begins_operation : (Q.operation lineMode).Begins
    fun t => t.startsOperand || t.isSign := by
  have hsigned : (Phrases.signed (Q.operand lineMode)).Begins
      fun t => t.startsOperand || t.isSign :=
    Phrase.Begins.opt_mul ((Phrase.begins_one _).imp fun t ht => by simp [ht])
      (begins_operand.imp fun t ht => by simp [ht])
  exact hsigned.mul _

omit hQ in
/-- Operands are not read as a function literal. -/
theorem completes_operands {M : Phrase} {F : List Token → Prop}
    (h : (operation >> optional (.sameLine (.mark equals)) (token >> expr)).Completes 𝓕 ms ms
      (Q.operation (ms.headD true) * M) F)
    (harrow : ∀ v ∈ M, ∀ r, F r → Next (fun t => !t.isMark arrow) (v ++ r)) :
    (branch .lambda (token >> (token >> expr))
      (operation >> optional (.sameLine (.mark equals)) (token >> expr))).Completes 𝓕 ms ms
        (Q.operation (ms.headD true) * M) F := by
  -- a function would begin with a name and an arrow, and this does not
  refine h.branch_no ?_
  rintro _ ⟨u, hu, v, hv, rfl⟩ r hr
  show Look.lambda.before _ (u ++ v ++ r) = false
  rw [List.append_assoc]
  exact noLambda_operation u hu _ _ (harrow v hv r hr)

omit hQ in
/-- An operation begins with none of the words that lead to other rules. -/
theorem not_isKeyword_operation {word : Text}
    (hword : word ∉ ["this", "super", "new"].map String.toList) (M : Phrase) :
    (Q.operation lineMode * M).Begins fun t => !t.isKeyword word :=
  (begins_operation.mul M).imp fun t ht => by
    rcases Bool.or_eq_true_iff.1 ht with h | h
    · rw [Token.isKeyword_of_startsOperand h hword]
      rfl
    · have hk : t.kind = .op := by
        simp only [Token.isSign, Bool.and_eq_true] at h
        exact beq_iff_eq.1 h.1
      simp [Token.isKeyword, hk]

/-- An operation that is a whole expression is read in full. -/
theorem completes_plainOperation : exprBody.Completes 𝓕 ms ms (Q.operation (ms.headD true))
    (Next (Token.endsExpr (ms.headD true) false)) := by
  have hnone : (optional (.sameLine (.mark equals)) (token >> expr)).Completes 𝓕 ms ms 1
      (Next (Token.endsExpr (ms.headD true) false)) :=
    Completes.skip fun r hr => by
      rw [Look.before_sameLine fun _ => rfl]
      exact hr.any_head? fun t ht => Token.isMark_equals_of_endsExpr ht
  have hoperation := (completes_operation hQ).seq hnone fun v hv r hr => by
    have hnil : v = [] := hv
    rw [hnil, List.nil_append]
    exact hr.imp fun t ht => Token.endsOperation_of_endsExpr ht
  have hoperands := completes_operands hoperation fun v hv r hr => by
    have hnil : v = [] := hv
    rw [hnil, List.nil_append]
    exact hr.imp fun t ht => by simp [Token.isMark_arrow_of_endsExpr ht]
  -- what begins with an operand begins with neither of the words that are asked for first
  have hif : (Q.operation (ms.headD true) * 1).Begins fun t => !t.isKeyword "if".toList :=
    not_isKeyword_operation (by decide) 1
  have hwhile : (Q.operation (ms.headD true) * 1).Begins fun t => !t.isKeyword "while".toList :=
    not_isKeyword_operation (by decide) 1
  rw [mul_one] at hoperands hif hwhile
  refine Completes.branch_no (hoperands.branch_no fun u hu r _ => ?_) fun u hu r _ => ?_
  · exact hwhile.any_head? hu r fun t ht => by simpa using ht
  · exact hif.any_head? hu r fun t ht => by simpa using ht

/-- A short expression is read in full. -/
theorem completes_short : exprBody.Completes 𝓕 ms ms (Q.short (ms.headD true))
    (Next (Token.endsExpr (ms.headD true) true)) := by
  -- no `else` may follow a conditional without one, so none is read
  have hnone : (optional (.keyword "else".toList) (token >> expr)).Completes 𝓕 ms ms 1
      (Next (Token.endsExpr (ms.headD true) true)) :=
    Completes.skip fun r hr => hr.any_head? fun t ht => by
      simp only [Token.endsExpr, Bool.and_eq_true] at ht
      simpa using ht.2
  have hthen := (completes_expr hQ rfl).seq hnone fun v hv r hr => by
    have hnil : v = [] := hv
    rwa [hnil, List.nil_append]
  rw [mul_one] at hthen
  have hif : (Q.short (ms.headD true)).Begins (·.isKeyword "if".toList) :=
    (Phrase.begins_one _).mul _
  exact ((completes_token _).andThen ((completes_condition hQ).andThen hthen)).branch_yes
    fun u hu r _ => hif.any_head? hu r fun _ h => h

/-- A conditional after its word. Its first branch stands before the `else`. -/
theorem completes_conditional (short : Bool) : (condition >> (expr >> optional
    (.keyword "else".toList) (token >> expr))).Completes 𝓕 ms ms (Q.forget.condition *
      (Q (.expr (ms.headD true) false) *
        (Phrase.word "else".toList * Q (.expr (ms.headD true) short))))
      (Next (Token.endsExpr (ms.headD true) short)) := by
  have hbegins : (Phrase.word "else".toList * Q (.expr (ms.headD true) short)).Begins
      (·.isKeyword "else".toList) := (Phrase.begins_one _).mul _
  -- the branch is there, so the look for its word succeeds
  have helse : (optional (.keyword "else".toList) (token >> expr)).Completes 𝓕 ms ms
      (Phrase.word "else".toList * Q (.expr (ms.headD true) short))
      (Next (Token.endsExpr (ms.headD true) short)) :=
    ((completes_token _).andThen (hQ.expr ms short)).branch_yes
      fun u hu r _ => hbegins.any_head? hu r fun _ h => h
  exact (completes_condition hQ).andThen ((hQ.expr ms false).seq helse
    fun v hv r _ => (hbegins.next hv r).imp fun t ht => Token.endsExpr_of_isKeyword ht)

/-- A function is read in full, as far as its body is. -/
theorem completes_function (short : Bool) : (branch .lambda (token >> (token >> expr))
    (operation >> optional (.sameLine (.mark equals)) (token >> expr))).Completes 𝓕 ms ms
      (Phrase.name * (Phrase.punct arrow * Q (.expr (ms.headD true) short)))
      (Next (Token.endsExpr (ms.headD true) short)) := by
  refine Completes.branch_yes
    ((completes_token _).andThen ((completes_token _).andThen (hQ.expr ms short))) ?_
  -- the name and the arrow are right in front, where the look finds them
  rintro _ ⟨_, ⟨n, rfl, hn⟩, _, ⟨_, ⟨a, rfl, ha⟩, v, hv, rfl⟩, rfl⟩ r _
  show (n.kind == .ident && a.isMark arrow) = true
  exact Bool.and_eq_true_iff.2 ⟨hn, ha⟩

/-- An assignment is read in full, as far as its right side is. -/
theorem completes_assignment (short : Bool) : (branch .lambda (token >> (token >> expr))
    (operation >> optional (.sameLine (.mark equals)) (token >> expr))).Completes 𝓕 ms ms
      (Q.operation (ms.headD true) * (Phrase.sameLine (ms.headD true) (Phrase.punct equals) *
        Q (.expr (ms.headD true) short))) (Next (Token.endsExpr (ms.headD true) short)) := by
  -- the sign ends the operation before it, and it is no arrow after a name
  have hbegins : (Phrase.sameLine (ms.headD true) (Phrase.punct equals) *
      Q (.expr (ms.headD true) short)).Begins
        fun t => t.isMark equals && !(t.afterBreak && ms.headD true) :=
    Phrase.Begins.mul ((Phrase.begins_one _).sameLine _) _
  have hequals : (optional (.sameLine (.mark equals)) (token >> expr)).Completes 𝓕 ms ms
      (Phrase.sameLine (ms.headD true) (Phrase.punct equals) * Q (.expr (ms.headD true) short))
      (Next (Token.endsExpr (ms.headD true) short)) := by
    refine Completes.branch_yes
      (((completes_token _).mono (Phrase.sameLine_le _ _)).andThen (hQ.expr ms short))
      fun u hu r _ => ?_
    rw [Look.before_sameLine fun _ => rfl]
    exact hbegins.any_head? hu r fun _ h => h
  refine completes_operands ((completes_operation hQ).seq hequals fun v hv r _ => ?_)
    fun v hv r _ => ?_
  · exact (hbegins.next hv r).imp fun t ht => Token.endsOperation_of_equals ht
  · refine (hbegins.next hv r).imp fun t ht => ?_
    rw [Token.isMark_eq_false (Bool.and_eq_true_iff.1 ht).1 (by decide)]
    rfl

/-- What leads to another expression is read together with that expression. -/
theorem completes_lead (short : Bool) : exprBody.Completes 𝓕 ms ms
    (Q.lead (ms.headD true) * Q (.expr (ms.headD true) short))
    (Next (Token.endsExpr (ms.headD true) short)) := by
  have hloop : (condition >> expr).Completes 𝓕 ms ms
      (Q.forget.condition * Q (.expr (ms.headD true) short))
      (Next (Token.endsExpr (ms.headD true) short)) :=
    (completes_condition hQ).andThen (hQ.expr ms short)
  have hname {word : Text} (M : Phrase) : (Phrase.name * M).Begins fun t => !t.isKeyword word :=
    ((Phrase.begins_one _).mul M).imp fun t ht => by simp [Token.isKeyword, beq_iff_eq.1 ht]
  have hwhile (M : Phrase) : (Phrase.word "while".toList * M).Begins
      fun t => !t.isKeyword "if".toList :=
    ((Phrase.begins_one _).mul _).imp fun t ht => by
      rw [Token.isKeyword_of_isKeyword ht]
      decide
  -- the alternatives in the order in which the rule asks for them
  have hlead : Q.lead (ms.headD true) * Q (.expr (ms.headD true) short) =
      Phrase.word "if".toList * (Q.forget.condition * (Q (.expr (ms.headD true) false) *
        (Phrase.word "else".toList * Q (.expr (ms.headD true) short)))) +
      (Phrase.word "while".toList * (Q.forget.condition * Q (.expr (ms.headD true) short)) +
        (Phrase.name * (Phrase.punct arrow * Q (.expr (ms.headD true) short)) +
          Q.operation (ms.headD true) * (Phrase.sameLine (ms.headD true) (Phrase.punct equals) *
            Q (.expr (ms.headD true) short)))) := by
    simp only [Shapes.lead, add_mul, mul_assoc]
  rw [hlead]
  refine completes_keyword (completes_conditional hQ short) (completes_keyword hloop
    ((completes_function hQ short).add (completes_assignment hQ short)) ?_) ?_
  · exact (hname _).add (not_isKeyword_operation (by decide) _)
  · exact (hwhile _).add ((hname _).add (not_isKeyword_operation (by decide) _))

/-- An expression is read in full, if the expressions in it are. -/
theorem completes_exprBody (short : Bool) : exprBody.Completes 𝓕 ms ms
    (Q.body (.expr (ms.headD true) short)) (Next (Token.endsExpr (ms.headD true) short)) := by
  cases short with
  | true => exact (completes_short hQ).add (completes_lead hQ true)
  | false => exact (completes_plainOperation hQ).add (completes_lead hQ false)

end

end Rule

end StatementReader
