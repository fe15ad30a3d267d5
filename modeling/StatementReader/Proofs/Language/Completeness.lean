import StatementReader.Proofs.Language.Expressions

/-!
# Every phrase is read

If the phrases `Q` are read, then so are the phrases that are made of them by the equations, with
one level more (`Shapes.Readable.body`). This gives two results. The phrases of at most `n` levels
are read with `n` levels (`readable_level`). And as the phrases that leave no choice are the least
solution of their equations, each of them is read with as many levels as it needs
(`readable_greedy`).
-/

namespace StatementReader

open Rule Computability Filter

namespace Shapes

variable {Q : Shapes} {𝓕 : Filter ℕ}

theorem begins_body (Q : Shapes) (shape : Shape) : (Q.body shape).Begins shape.begins := by
  -- each alternative begins with a name, a bracket, a word of its own, a sign or an operand
  have hpath (L : Phrase) : (Phrases.path * L).Begins Token.startsType :=
    (begins_path.mul L).imp fun t ht => by simp [Token.startsType, beq_iff_eq.1 ht]
  have hplain (bare : Bool) : (Q.plainType bare).Begins Token.startsType := by
    cases bare with
    | true => exact begins_path.imp fun t ht => by simp [Token.startsType, beq_iff_eq.1 ht]
    | false => exact hpath _
  have hdomain : Q.forget.domain.Begins Token.startsType :=
    (((Phrase.begins_one _).mul _).mul _).imp fun t ht => by simp [Token.startsType, ht]
  have hword {word : Text} (hw : word ∈ Token.expressionWords) (L : Phrase) :
      (Phrase.word word * L).Begins Token.startsExpr :=
    ((Phrase.begins_one _).mul L).imp fun t ht => by
      obtain ⟨hk, rfl⟩ := Token.isKeyword_iff.1 ht
      simp [Token.startsExpr, hk, hw]
  have hoperation (lineMode : Bool) : (Q.operation lineMode).Begins Token.startsExpr :=
    begins_operation.imp fun t ht => by
      rcases Bool.or_eq_true_iff.1 ht with h | h
      · exact Token.startsExpr_of_startsOperand h
      · simp only [Token.isSign, Bool.and_eq_true] at h
        simp [Token.startsExpr, beq_iff_eq.1 h.1]
  have hlead (lineMode : Bool) : (Q.lead lineMode).Begins Token.startsExpr := by
    have hname : (Phrase.name * Phrase.punct arrow).Begins Token.startsExpr :=
      ((Phrase.begins_one _).mul _).imp fun t ht => by simp [Token.startsExpr, beq_iff_eq.1 ht]
    exact (hword (by decide) _).add ((hword (by decide) _).add
      (hname.add ((hoperation lineMode).mul _)))
  cases shape with
  | type bare => exact (hplain bare).add ((((hpath _).add hdomain).mul _).mul _)
  | expr lineMode short =>
    cases short with
    | true => exact (hword (by decide) _).add ((hlead lineMode).mul _)
    | false => exact (hoperation lineMode).add ((hlead lineMode).mul _)

theorem Readable.body (hQ : Q.Readable 𝓕) : Readable (𝓕.map (· + 1)) Q.body where
  begins := begins_body Q
  type _ bare := completes_call (completes_typeBody hQ bare)
  expr _ short := completes_call (completes_exprBody hQ short)

/-- Phrases of at most `n` levels that leave no choice. -/
def level : ℕ → Shapes
  | 0 => ⊥
  | n + 1 => body (level n)

theorem level_le_greedy (n : ℕ) : level n ≤ greedy := by
  induction n with
  | zero => exact bot_le
  | succ n ih => exact (body_mono ih).trans body_greedy.le

theorem readable_level (n : ℕ) : (level n).Readable (pure n) := by
  induction n with
  | zero =>
    exact ⟨fun shape u hu => hu.elim, fun ms bare => ⟨fun u hu => hu.elim⟩,
      fun ms short => ⟨fun u hu => hu.elim⟩⟩
  | succ n ih =>
    have hbody := ih.body
    rwa [map_pure] at hbody

end Shapes

/-- With enough levels, the row is read as a phrase of the shape, and it is not empty. -/
structure Shape.Read (shape : Shape) (u : List Token) : Prop where
  begins : ({u} : Phrase).Begins shape.begins
  type : ∀ bare ms, shape = .type bare →
    (call .type).Completes atTop ms ms {u} (Next (Token.endsType bare))
  expr : ∀ short ms, shape = .expr (ms.headD true) short →
    (call .expr).Completes atTop ms ms {u} (Next (Token.endsExpr (ms.headD true) short))

theorem readable_greedy : greedy.Readable atTop := by
  set Q : Shapes := fun shape => {u | shape.Read u}
  have hQ : Q.Readable atTop := by
    refine ⟨fun shape u hu => ?_, fun ms bare => ⟨fun u hu => ?_⟩, fun ms short => ⟨fun u hu => ?_⟩⟩
    · exact Shape.Read.begins hu u rfl
    · exact (Shape.Read.type hu bare ms rfl).reads u rfl
    · exact (Shape.Read.expr hu short ms rfl).reads u rfl
  have hbody := hQ.body
  rw [map_add_atTop_eq_nat] at hbody
  -- what is readable one level deeper is closed under the grammar, so it holds all that is greedy
  have hle : greedy ≤ Q := by
    refine greedy_le fun shape u hu => ?_
    have hself : ({u} : Phrase) ≤ Q.body shape := by
      rintro v (rfl : v = u)
      exact hu
    refine ⟨(hbody.begins shape).mono hself, ?_, ?_⟩
    · rintro bare ms rfl
      exact (hbody.type ms bare).mono hself
    · rintro short ms rfl
      exact (hbody.expr ms short).mono hself
  exact ⟨fun shape => (hQ.begins shape).mono (hle shape), fun ms bare => (hQ.type ms bare).mono
    (hle _), fun ms short => (hQ.expr ms short).mono (hle _)⟩

end StatementReader
