import StatementReader.Proofs.Language.Reading

/-!
# Types are read

The phrases that leave no choice (`Greedy.lean`) are read to their ends, provided that they stand
before something that does not continue them. What that is depends on the shape: a type that ends in
a bare path must not stand before a point or a bracket.

The lemmas are one for each rule of the grammar. They take phrases `Q` that are known to be read one
level deeper (`Shapes.Readable`), and end with the body of a type, which is then read as well.
-/

namespace StatementReader

open Rule Computability Filter

/-- What the phrases of a shape begin with. -/
def Shape.begins : Shape → Token → Bool
  | type _ => Token.startsType
  | expr _ _ => Token.startsExpr

/-- The phrases of each shape are read as types or expressions. -/
structure Shapes.Readable (𝓕 : Filter ℕ) (Q : Shapes) : Prop where
  begins : ∀ shape, (Q shape).Begins shape.begins
  type : ∀ ms bare, (call .type).Completes 𝓕 ms ms (Q (.type bare)) (Next (Token.endsType bare))
  expr : ∀ ms short, (call .expr).Completes 𝓕 ms ms (Q (.expr (ms.headD true) short))
    (Next (Token.endsExpr (ms.headD true) short))

namespace Rule

variable {𝓕 : Filter ℕ} {ms : List Bool} {L : Phrase} {F : List Token → Prop} {rule : Rule}

/-! ### Lists and brackets -/

/-- A list with commas, before something that is no comma. -/
theorem completes_commaSeparated {p : Token → Bool} (h : rule.Completes 𝓕 ms ms L (Next p))
    (hcomma : ∀ t, t.isMark comma → p t) (hp : ∀ r, F r → Next p r)
    (hF : ∀ r, F r → r.head?.any (·.isMark comma) = false) :
    (commaSeparated rule).Completes 𝓕 ms ms (Phrase.commaList L) F := by
  have hbegins : (Phrase.punct comma * L).Begins (·.isMark comma) := (Phrase.begins_one _).mul L
  have hround : (token >> rule).Completes 𝓕 ms ms (Phrase.punct comma * L) (Next p) :=
    (completes_token _).andThen h
  have hnext (u : List Token) (hu : u ∈ Phrase.punct comma * L) (r : List Token) :
      Next p (u ++ r) := (hbegins.next hu r).imp hcomma
  -- after each member there is a comma, or what follows the list
  refine h.seq (hround.repeatWhile (fun u hu => hbegins.ne_nil hu)
    (fun u hu r => hbegins.any_head? hu r fun _ h => h) hF hnext hp) fun v hv r hr => ?_
  exact Phrase.next_of_mem_kstar (hbegins.imp hcomma) hv (hp r hr)

/-- What stands between brackets is read if it is read before the closing one. -/
theorem completes_bracketed (openMark closeMark : Text) (lineMode : Bool)
    (h : rule.Completes 𝓕 (lineMode :: ms) (lineMode :: ms) L fun r =>
      r.head?.any (·.isMark closeMark)) :
    (opening openMark lineMode >> (rule >> closing closeMark)).Completes 𝓕 ms ms
      (Phrase.punct openMark * (L * Phrase.punct closeMark)) fun _ => True := by
  have hclose (v : List Token) (hv : v ∈ Phrase.punct closeMark) (r : List Token) (_ : True) :
      (v ++ r).head?.any (·.isMark closeMark) :=
    (Phrase.begins_one _).any_head? hv r fun _ h => h
  exact (completes_opening openMark lineMode).andThen
    (h.seq (completes_closing closeMark lineMode) hclose)

/-- A list with commas, before a closing bracket. -/
theorem completes_commaClosed {p : Token → Bool} (h : rule.Completes 𝓕 ms ms L (Next p))
    (hcomma : ∀ t, t.isMark comma → p t) {closeMark : Text} (hne : closeMark ≠ comma)
    (hclose : ∀ t, t.isMark closeMark → p t) :
    (commaSeparated rule).Completes 𝓕 ms ms (Phrase.commaList L)
      fun r => r.head?.any (·.isMark closeMark) := by
  refine completes_commaSeparated h hcomma (fun r hr => next_of_any_head? hr hclose) fun r hr => ?_
  refine Next.any_head? (next_of_any_head? hr fun _ h => h) fun t ht => ?_
  exact Token.isMark_eq_false ht (beq_eq_false_iff_ne.2 hne)

/-- A list in parentheses, which may be empty. -/
theorem completes_parenthesized {p q : Token → Bool}
    (h : rule.Completes 𝓕 (false :: ms) (false :: ms) L (Next p)) (hbegins : L.Begins q)
    (hq : ∀ t, q t → t.isMark closeParen = false) (hcomma : ∀ t, t.isMark comma → p t)
    (hclose : ∀ t, t.isMark closeParen → p t) :
    (opening openParen false >> (optional (.no (.mark closeParen)) (commaSeparated rule) >>
      closing closeParen)).Completes 𝓕 ms ms
        (Phrase.punct openParen * (Phrase.opt (Phrase.commaList L) * Phrase.punct closeParen))
        fun _ => True := by
  refine completes_bracketed _ _ _ (Completes.optional
    (completes_commaClosed h hcomma (by decide) hclose) ?_ ?_)
  · -- the list begins with no closing parenthesis
    intro u hu r _
    show (!(u ++ r).head?.any (·.isMark closeParen)) = true
    rw [(hbegins.mul _).any_head? hu r hq]
    rfl
  · -- an empty list stands before one
    intro r hr
    show (!r.head?.any (·.isMark closeParen)) = false
    rw [hr]
    rfl

/-! ### Types -/

variable {Q : Shapes} (hQ : Q.Readable 𝓕)
include hQ

/-- Types begin as both their shapes do. -/
theorem begins_type : (Q.forget .type).Begins Token.startsType :=
  (hQ.begins (.type true)).add (hQ.begins (.type false))

theorem completes_type : type.Completes 𝓕 ms ms (Q.forget .type) (Next (Token.endsType true)) := by
  have hfalse (t : Token) (h : t.endsType true) : t.endsType false := by
    simp only [Token.endsType, Bool.and_eq_true] at h ⊢
    exact ⟨h.1, rfl⟩
  exact (hQ.type ms true).add ((hQ.type ms false).imp fun r h => h.imp hfalse)

/-- Type arguments are read in full, whatever follows. -/
theorem completes_typeArgs : typeArgs.Completes 𝓕 ms ms Q.forget.typeArgs fun _ => True := by
  rw [Phrases.typeArgs, mul_assoc]
  exact completes_bracketed _ _ _ (completes_commaClosed (completes_type hQ)
    (fun t h => Token.endsType_of_isMark h (by decide)) (by decide)
    fun t h => Token.endsType_of_isMark h (by decide))

theorem completes_domain : (opening openParen false >> (optional (.no (.mark closeParen))
    (commaSeparated type) >> closing closeParen)).Completes 𝓕 ms ms Q.forget.domain
      fun _ => True := by
  rw [Phrases.domain, mul_assoc]
  refine completes_parenthesized (completes_type hQ) (begins_type hQ) (fun t h => ?_)
    (fun t h => Token.endsType_of_isMark h (by decide))
    fun t h => Token.endsType_of_isMark h (by decide)
  rcases Bool.or_eq_true_iff.1 h with h | h
  · exact Token.isMark_of_kind_ne (by simp [beq_iff_eq.1 h])
  · exact Token.isMark_eq_false h (by decide)

/-- The type of a function is read in full, as far as its result is. -/
theorem completes_functionType (bare : Bool) : functionType.Completes 𝓕 ms ms
    (Q.forget.domain * (Phrase.punct arrow * Q (.type bare))) (Next (Token.endsType bare)) :=
  ((completes_domain hQ).andThen
    ((completes_mark arrow).andThen (hQ.type ms bare))).assoc.assoc_right

omit hQ in
/-- A path and what comes after it, if that does not begin with a point. -/
theorem completes_namedType {M : Phrase} {G : List Token → Prop}
    (h : (optional (.mark openBracket) typeArgs >>
      optional (.mark arrow) (token >> type)).Completes 𝓕 ms ms M G)
    (hM : ∀ v ∈ M, ∀ r, G r → (v ++ r).head?.any (·.isMark dot) = false) :
    namedType.Completes 𝓕 ms ms (Phrases.path * M) G := by
  have hhead : (branch .ident token (refuse .type)).Completes 𝓕 ms ms Phrase.name fun _ => True :=
    (completes_token _).branch_yes fun u hu r _ => (Phrase.begins_one _).any_head? hu r fun _ h => h
  have hbegins : (Phrase.punct dot * Phrase.name).Begins (·.isMark dot) :=
    (Phrase.begins_one _).mul _
  have hround : (token >> ident).Completes 𝓕 ms ms (Phrase.punct dot * Phrase.name) fun _ => True :=
    (completes_token _).andThen completes_ident
  have hmembers : (repeatWhile (.mark dot) (token >> ident)).Completes 𝓕 ms ms
      (Phrase.punct dot * Phrase.name)∗ fun r => r.head?.any (·.isMark dot) = false :=
    hround.repeatWhile (fun u hu => hbegins.ne_nil hu)
      (fun u hu r => hbegins.any_head? hu r fun _ h => h) (fun r hr => hr)
      (fun _ _ _ => trivial) fun _ _ => trivial
  -- the path goes on as long as there are points, and what follows begins with none
  rw [Phrases.path, mul_assoc]
  exact hhead.andThen (hmembers.seq h hM)

omit hQ in
theorem begins_path : Phrases.path.Begins (·.kind == .ident) := (Phrase.begins_one _).mul _

omit hQ in
theorem begins_typeArgs : Q.forget.typeArgs.Begins (·.isMark openBracket) :=
  ((Phrase.begins_one _).mul _).mul _

omit hQ in
/-- After a type that is not followed by an arrow. -/
theorem completes_noResult (bare : Bool) : (optional (.mark arrow) (token >> type)).Completes 𝓕 ms ms
    1 (Next (Token.endsType bare)) :=
  Completes.skip fun _ hr => hr.any_head? fun _ h => Token.isMark_arrow_of_endsType h

theorem completes_result (bare : Bool) : (optional (.mark arrow) (token >> type)).Completes 𝓕 ms ms
    (Phrase.punct arrow * Q (.type bare)) (Next (Token.endsType bare)) := by
  have hbegins : (Phrase.punct arrow * Q (.type bare)).Begins (·.isMark arrow) :=
    (Phrase.begins_one _).mul _
  exact ((completes_token _).andThen (hQ.type ms bare)).branch_yes
    fun u hu r _ => hbegins.any_head? hu r fun _ h => h

/-- A path with arguments or without, where no arrow follows. -/
theorem completes_plainType (bare : Bool) :
    namedType.Completes 𝓕 ms ms (Q.plainType bare) (Next (Token.endsType bare)) := by
  cases bare with
  | true =>
    -- a bare path is not followed by a bracket or a point either
    have hnone : (optional (.mark openBracket) typeArgs).Completes 𝓕 ms ms 1
        (Next (Token.endsType true)) :=
      Completes.skip fun r hr => hr.any_head? fun t h => (Token.isMark_of_endsType h).2
    have htail := hnone.seq (completes_noResult true) fun v hv r hr => by
      rwa [show v = [] from hv]
    rw [one_mul] at htail
    have hnamed := completes_namedType htail fun v hv r hr => by
      rw [show v = [] from hv]
      exact hr.any_head? fun t h => (Token.isMark_of_endsType h).1
    rwa [mul_one] at hnamed
  | false =>
    have hargs : (optional (.mark openBracket) typeArgs).Completes 𝓕 ms ms Q.forget.typeArgs
        fun _ => True :=
      (completes_typeArgs hQ).branch_yes fun u hu r _ => begins_typeArgs.any_head? hu r fun _ h => h
    have htail := hargs.andThen (completes_noResult false)
    rw [mul_one] at htail
    exact completes_namedType htail fun v hv r _ =>
      begins_typeArgs.any_head? hv r fun t h => Token.isMark_eq_false h (by decide)

/-- A path with arguments or without, and the result type of a function. -/
theorem completes_namedFunction (bare : Bool) : namedType.Completes 𝓕 ms ms
    (Phrases.path * (Phrase.opt Q.forget.typeArgs * (Phrase.punct arrow * Q (.type bare))))
    (Next (Token.endsType bare)) := by
  have harrow : (Phrase.punct arrow * Q (.type bare)).Begins (·.isMark arrow) :=
    (Phrase.begins_one _).mul _
  have hargs : (optional (.mark openBracket) typeArgs).Completes 𝓕 ms ms
      (Phrase.opt Q.forget.typeArgs) (Next (·.isMark arrow)) :=
    ((completes_typeArgs hQ).imp fun _ _ => trivial).optional
      (fun u hu r _ => begins_typeArgs.any_head? hu r fun _ h => h)
      fun r hr => hr.any_head? fun t h => Token.isMark_eq_false h (by decide)
  have hnodot : (Phrase.opt Q.forget.typeArgs *
      (Phrase.punct arrow * Q (.type bare))).Begins (!·.isMark dot) :=
    (begins_typeArgs.not_mark (by decide)).opt_mul (harrow.not_mark (by decide))
  -- neither the arguments nor the arrow can be taken for more of the path
  exact completes_namedType
    (hargs.seq (completes_result hQ bare) fun v hv r _ => harrow.next hv r)
    fun v hv r _ => hnodot.any_head? hv r fun t h => by simpa using h

/-- A type that begins with a name is no function type in parentheses. -/
theorem completes_typeBody (bare : Bool) :
    typeBody.Completes 𝓕 ms ms (Q.body (.type bare)) (Next (Token.endsType bare)) := by
  -- the parenthesis that the rule asks for begins a list of types, and no name
  have hnoparen {u : List Token} {M : Phrase} (hu : u ∈ Phrases.path * M) (r : List Token) :
      (u ++ r).head?.any (·.isMark openParen) = false :=
    (begins_path.mul M).any_head? hu r fun t h => Token.isMark_of_kind_ne (by simp [beq_iff_eq.1 h])
  have hplain : typeBody.Completes 𝓕 ms ms (Q.plainType bare) (Next (Token.endsType bare)) := by
    refine (completes_plainType hQ bare).branch_no fun u hu r _ => ?_
    cases bare with
    | true => exact hnoparen (M := 1) (by rwa [mul_one]) r
    | false => exact hnoparen hu r
  have hnamed : typeBody.Completes 𝓕 ms ms
      (Phrases.path * (Phrase.opt Q.forget.typeArgs * (Phrase.punct arrow * Q (.type bare))))
      (Next (Token.endsType bare)) :=
    (completes_namedFunction hQ bare).branch_no fun u hu r _ => hnoparen hu r
  have hparen : (Q.forget.domain * (Phrase.punct arrow * Q (.type bare))).Begins
      (·.isMark openParen) := (((Phrase.begins_one _).mul _).mul _).mul _
  have hlisted : typeBody.Completes 𝓕 ms ms
      (Q.forget.domain * (Phrase.punct arrow * Q (.type bare))) (Next (Token.endsType bare)) :=
    (completes_functionType hQ bare).branch_yes fun u hu r _ => hparen.any_head? hu r fun _ h => h
  have hbody : Q.body (.type bare) = Q.plainType bare +
      (Phrases.path * (Phrase.opt Q.forget.typeArgs * (Phrase.punct arrow * Q (.type bare))) +
        Q.forget.domain * (Phrase.punct arrow * Q (.type bare))) := by
    show Q.plainType bare + Q.typeLead * Q (.type bare) = _
    simp only [Shapes.typeLead, add_mul, mul_assoc]
  rw [hbody]
  exact hplain.add (hnamed.add hlisted)

end Rule

end StatementReader
