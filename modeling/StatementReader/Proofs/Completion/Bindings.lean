import StatementReader.Proofs.Completion.LatestDefinition

/-!
# The names that statements bind

A `val` binds the identifiers of its pattern, and a `var` or a `def` the one after its reserved word
(`Binds`). This is said of the tokens, by the phrases of the grammar. The oracle looks at the first
two lexemes of a statement instead, and records the second one if it is an identifier.

For all statements but one kind this comes to the same. A `val` whose pattern is a list in
parentheses has a parenthesis in the second place, and then nothing is recorded of any of its names.
With that exception, the oracle knows a name after a row of statements if and only if one of them
binds it, in whatever order they come (`Symbols.knows_learned`).
-/

namespace StatementReader

open Text Rule Computability

/-- What a `val` binds if it binds several names, `(x, y)`. -/
def Phrases.listPattern : Phrase :=
  Phrase.punct openParen * Phrase.commaList Phrase.name * Phrase.punct closeParen

/-- A `val` with a list of names in parentheses. -/
def Phrases.listValue (P : Phrases) : Phrase :=
  Phrase.word "val".toList * (listPattern * (P.ascription * P.definiens))

/-- The row of a statement binds a name at its top level. -/
inductive Binds : List Token → Text → Prop
  /-- A `val` binds every identifier of its pattern. -/
  | val {k p rest x} : k.isKeyword "val".toList → p ∈ Phrases.pattern →
      rest ∈ grammar.ascription * grammar.definiens → x ∈ p → x.kind = .ident →
      Binds (k :: (p ++ rest)) x.text
  | var {k x rest} : k.isKeyword "var".toList → x.kind = .ident →
      rest ∈ grammar.ascription * grammar.definiens → Binds (k :: x :: rest) x.text
  | function {k x rest} : k.isKeyword "def".toList → x.kind = .ident →
      rest ∈ Phrase.opt grammar.params * (grammar.ascription * grammar.definiens) →
      Binds (k :: x :: rest) x.text

/-! ### The second token -/

theorem Phrases.not_mem_listValue {P : Phrases} {k x : Token} {rest : List Token}
    (hx : x.kind = .ident) : k :: x :: rest ∉ P.listValue := by
  rintro ⟨_, ⟨k', rfl, -⟩, _, ⟨p, hp, a, -, rfl⟩, htokens⟩
  obtain ⟨_, ⟨_, ⟨o, rfl, ho⟩, names, -, rfl⟩, c, -, rfl⟩ := hp
  obtain ⟨-, htail⟩ := List.cons.inj htokens
  obtain ⟨rfl, -⟩ := List.cons.inj htail
  cases hx.symm.trans (Token.isMark_iff.1 ho).1

/-- A statement of the grammar that begins with `val` and a parenthesis has a list of names. -/
theorem mem_listValue_of_openParen {k o : Token} {rest : List Token}
    (h : k :: o :: rest ∈ grammar.statement) (hk : k.isKeyword "val".toList)
    (ho : o.isMark openParen) : k :: o :: rest ∈ grammar.listValue := by
  rcases mem_statement_of_keyword h (by decide) hk with ⟨-, hval⟩ | ⟨hne, -⟩ | ⟨hne, -⟩
  · obtain ⟨_, hword, _, ⟨p, hp | hp, a, ha, rfl⟩, hrow⟩ := hval
    · -- a pattern without parentheses would be an identifier
      obtain ⟨x, rfl, hx⟩ := hp
      obtain ⟨k', rfl, -⟩ := hword
      obtain ⟨-, htail⟩ := List.cons.inj hrow
      obtain ⟨rfl, -⟩ := List.cons.inj htail
      cases (beq_iff_eq.1 hx).symm.trans (Token.isMark_iff.1 ho).1
    · rw [← hrow]
      exact ⟨_, hword, _, ⟨p, hp, a, ha, rfl⟩, rfl⟩
  · exact absurd hne (by decide)
  · exact absurd hne (by decide)

/-- Such a `val` binds the name after the parenthesis. -/
theorem Binds.of_mem_listValue {k o x : Token} {rest : List Token}
    (h : k :: o :: x :: rest ∈ grammar.listValue) : Binds (k :: o :: x :: rest) x.text := by
  obtain ⟨_, ⟨k', rfl, hk⟩, _, ⟨p, hp, a, ha, rfl⟩, hrow⟩ := h
  have hpattern : p ∈ Phrases.pattern := .inr hp
  obtain ⟨_, ⟨_, ⟨o', rfl, -⟩, _, ⟨_, ⟨y, rfl, hy⟩, more, -, rfl⟩, rfl⟩, c, -, rfl⟩ := hp
  have htokens : k' :: o' :: y :: (more ++ c ++ a) = k :: o :: x :: rest := hrow
  simp only [List.cons.injEq] at htokens
  obtain ⟨rfl, rfl, rfl, rfl⟩ := htokens
  exact .val hk hpattern ha (by simp) (beq_iff_eq.1 hy)

variable {st n : Text}

/-- A statement of the grammar has a name it binds in the second place, unless it is a `val` with a
list of names. -/
theorem introduces_iff_binds (h : (TokenRow.ofText st).tokens ∈ grammar.statement) :
    Introduces st n ↔ Binds (TokenRow.ofText st).tokens n ∧
      (TokenRow.ofText st).tokens ∉ grammar.listValue := by
  constructor
  · rintro ⟨keyword, hkeyword, k, x, rest, htokens, hk, hx, rfl⟩
    rw [htokens] at h ⊢
    refine ⟨?_, Phrases.not_mem_listValue hx⟩
    rcases mem_statement_of_keyword h hkeyword hk with ⟨rfl, hval⟩ | ⟨rfl, hvar⟩ | ⟨rfl, hdef⟩
    · obtain ⟨_, ⟨k', rfl, -⟩, _, ⟨p, hp, rest', hrest, rfl⟩, hrow⟩ := hval
      obtain ⟨rfl, htail⟩ := List.cons.inj hrow
      have hmem : x ∈ p := by
        rcases hp with ⟨y, rfl, -⟩ | ⟨_, ⟨_, ⟨o, rfl, -⟩, names, -, rfl⟩, c, -, rfl⟩ <;>
        · obtain ⟨rfl, -⟩ := List.cons.inj htail
          exact List.mem_cons_self
      rw [← show p ++ rest' = x :: rest from htail]
      exact .val hk hp hrest hmem hx
    · obtain ⟨_, ⟨k', rfl, -⟩, _, ⟨_, ⟨y, rfl, -⟩, rest', hrest, rfl⟩, hrow⟩ := hvar
      obtain ⟨rfl, htail⟩ := List.cons.inj hrow
      obtain ⟨rfl, rfl⟩ := List.cons.inj htail
      exact .var hk hx hrest
    · rw [Phrases.header, mul_assoc, mul_assoc, mul_assoc] at hdef
      obtain ⟨_, ⟨k', rfl, -⟩, _, ⟨_, ⟨y, rfl, -⟩, rest', hrest, rfl⟩, hrow⟩ := hdef
      obtain ⟨rfl, htail⟩ := List.cons.inj hrow
      obtain ⟨rfl, rfl⟩ := List.cons.inj htail
      exact .function hk hx hrest
  · rintro ⟨hbinds, hlist⟩
    -- the tokens are an index of `Binds`, so they have to be a variable for the case analysis
    generalize htokens : (TokenRow.ofText st).tokens = u at hbinds hlist
    cases hbinds with
    | @val k p rest x hk hp hrest hmem hx =>
      rcases hp with ⟨y, rfl, -⟩ | hp
      · obtain rfl := List.mem_singleton.1 hmem
        exact ⟨_, by decide, k, x, rest, htokens, hk, hx, rfl⟩
      · -- a list pattern has a parenthesis where the name would be
        exact absurd ⟨[k], ⟨k, rfl, hk⟩, _, ⟨p, hp, rest, hrest, rfl⟩, rfl⟩ hlist
    | @var k x rest hk hx hrest => exact ⟨_, by decide, k, x, rest, htokens, hk, hx, rfl⟩
    | @function k x rest hk hx hrest => exact ⟨_, by decide, k, x, rest, htokens, hk, hx, rfl⟩

namespace Symbols

/-! ### What is known -/

theorem knows_insertName (name : Text) (header : Option Text) (names : List (Text × Option Text)) :
    knows ⟨insertName name header names⟩ n ↔ n = name ∨ knows ⟨names⟩ n := by
  have hfind {names : List (Text × Option Text)} :
      knows ⟨names⟩ n ↔ (names.find? (·.1 == n)).isSome := by
    rw [knows, List.find?_isSome, List.any_eq_true]
  rw [hfind, hfind, find?_insertName]
  split
  · next heq => simp [heq]
  · next hne => simp [Ne.symm hne]

/-- A statement makes known what it introduces and nothing else. -/
theorem knows_learn_iff (hst : IsStatement st) (s : Symbols) :
    (s.learn st).knows n ↔ Introduces st n ∨ s.knows n := by
  rcases learn_cases hst s with ⟨name, header, hintroduces, hlearn⟩ | ⟨hnone, hlearn⟩
  · have hname : Introduces st n ↔ n = name :=
      ⟨hintroduces.unique, fun heq => heq ▸ hintroduces⟩
    rw [hlearn, knows_insertName, hname]
  · rw [hlearn, or_iff_right (hnone n)]

/-- After a row of statements a name is known if and only if one of them binds it that is no `val`
with a list of names in parentheses. Such a `val` is passed over as if it had not been given. -/
theorem knows_learned {statements : List Text} (h : ∀ st ∈ statements, IsStatement st) (n : Text) :
    (statements.foldl learn empty).knows n ↔ ∃ st ∈ statements,
      Binds (TokenRow.ofText st).tokens n ∧ (TokenRow.ofText st).tokens ∉ grammar.listValue := by
  -- what is known before the first statement stays known
  suffices hfold : ∀ s : Symbols, (statements.foldl learn s).knows n ↔
      (∃ st ∈ statements, Introduces st n) ∨ s.knows n by
    rw [hfold, or_iff_left (show ¬ (empty.knows n = true) from Bool.false_ne_true)]
    exact exists_congr fun st => and_congr_right fun hst => introduces_iff_binds (h st hst).tokens.2
  induction statements with
  | nil => intro s; simp
  | cons st statements ih =>
    intro s
    calc ((st :: statements).foldl learn s).knows n
        ↔ (∃ x ∈ statements, Introduces x n) ∨ (s.learn st).knows n :=
          ih (fun x hx => h x (List.mem_cons_of_mem st hx)) (s.learn st)
      _ ↔ (∃ x ∈ statements, Introduces x n) ∨ Introduces st n ∨ s.knows n := by
          rw [knows_learn_iff (h st List.mem_cons_self)]
      _ ↔ (∃ x ∈ st :: statements, Introduces x n) ∨ s.knows n := by
          rw [List.exists_mem_cons_iff, ← or_assoc, or_comm (a := ∃ x ∈ statements, _)]

/-- Two values, one of them with a list of names, and a `def`. -/
theorem knows_learned_list :
    let statements := ["val x = 1", "val (a, b) = x", "def f(c: D) = c"].map String.toList
    (∀ st ∈ statements, IsStatement st) ∧
      (∃ st ∈ statements, Binds (TokenRow.ofText st).tokens ['f'] ∧
        (TokenRow.ofText st).tokens ∉ grammar.listValue) ∧
      ∀ st ∈ statements, Binds (TokenRow.ofText st).tokens ['a'] →
        (TokenRow.ofText st).tokens ∈ grammar.listValue := by
  intro statements
  have hstatements : ∀ st ∈ statements, IsStatement st := by
    have hparse : ∀ st ∈ statements, parseAt st 0 .committing =
        .complete [⟨st, ⟨0, size st⟩⟩] none (size st) := by decide +kernel
    exact fun st hst => ⟨st, 0, .committing, _, _, _, hparse st hst, _, List.mem_cons_self, rfl⟩
  -- the function behind the list pattern is known, and the names in the pattern are not
  have hknown : (statements.foldl learn empty).knows ['f'] := by decide +kernel
  have hunknown : ¬ (statements.foldl learn empty).knows ['a'] := by decide +kernel
  refine ⟨hstatements, (knows_learned hstatements ['f']).1 hknown, fun st hst hbinds => ?_⟩
  by_contra hlist
  exact hunknown ((knows_learned hstatements ['a']).2 ⟨st, hst, hbinds, hlist⟩)

/-- A name of a list is bound and not known. -/
theorem not_forall_knows_learned : ¬ ∀ (statements : List Text) (n : Text),
    (∀ st ∈ statements, IsStatement st) →
      ((statements.foldl learn empty).knows n ↔
        ∃ st ∈ statements, Binds (TokenRow.ofText st).tokens n) := by
  intro h
  have hstatement : IsStatement "val (a, b) = c".toList :=
    ⟨"val (a, b) = c".toList, 0, .committing, [⟨"val (a, b) = c".toList, ⟨0, 14⟩⟩], none, 14,
      by decide +kernel, _, List.mem_cons_self, rfl⟩
  have hmem := hstatement.tokens.2
  have htokens : (TokenRow.ofText "val (a, b) = c".toList).tokens =
      ⟨.keyword, "val".toList, 0, 3, false⟩ :: ⟨.punct, ['('], 4, 5, false⟩ ::
        ⟨.ident, ['a'], 5, 6, false⟩ ::
          (TokenRow.ofText "val (a, b) = c".toList).tokens.drop 3 := by decide +kernel
  rw [htokens] at hmem
  have hbinds : Binds (TokenRow.ofText "val (a, b) = c".toList).tokens ['a'] :=
    htokens ▸ Binds.of_mem_listValue (mem_listValue_of_openParen hmem (by decide) (by decide))
  have hknown := (h ["val (a, b) = c".toList] ['a'] (by simpa using hstatement)).2
    ⟨_, List.mem_singleton_self _, hbinds⟩
  exact absurd hknown (by decide +kernel)

end Symbols
end StatementReader
