import StatementReader.Proofs.Language.Enclosure
import StatementReader.Proofs.Language.Limit

/-!
# The header of a `def`

In the grammar, a `def` is a header, an equals sign and a body (`IsDefinition`). What stands before
the sign is a name, parameters and types. These have parentheses and square brackets in any nesting,
all of them closed, but no equals sign: that in the arrow of a function type is not a token by
itself (`Phrase.flat`). So a `def` can be taken apart in one way only, at its first equals sign, and
whoever counts brackets up to there has counted down to zero again.
-/

namespace StatementReader

open Rule Computability

namespace Token

variable {t : Token} {mark : Text}

/-- What a token adds to the number of open parentheses and square brackets. -/
def deepens (t : Token) : ℤ :=
  if t.isMark openParen ∨ t.isMark openBracket then 1
  else if t.isMark closeParen ∨ t.isMark closeBracket then -1
  else 0

/-- The number of open parentheses and square brackets after a row, where one that is closed without
being open counts as well. -/
def depth : List Token → ℤ
  | [] => 0
  | t :: u => t.deepens + depth u

@[simp] theorem depth_cons (t : Token) (u : List Token) :
    depth (t :: u) = t.deepens + depth u := rfl

/-- Two rows of tokens deepen as much as both together. -/
theorem depth_append (u v : List Token) : depth (u ++ v) = depth u + depth v := by
  induction u with
  | nil => exact (Int.zero_add _).symm
  | cons t u ih => rw [List.cons_append, depth_cons, depth_cons, ih, Int.add_assoc]

/-- Parentheses and brackets deepen, and no other mark does. -/
theorem deepens_of_isMark (h : t.isMark mark) : t.deepens =
    if mark = openParen ∨ mark = openBracket then 1
    else if mark = closeParen ∨ mark = closeBracket then -1
    else 0 := by
  simp [deepens, isMark_of_isMark h]

/-- What is no mark does not deepen. -/
theorem deepens_of_kind_ne (h : t.kind ≠ .punct) : t.deepens = 0 := by
  simp [deepens, isMark_of_kind_ne h]

end Token

/-! ### Rows without an equals sign -/

namespace Phrase

variable {A : Phrase}

/-- Rows that have no equals sign and close as many parentheses and square brackets as they open. -/
def flat : Phrase := {u | (∀ t ∈ u, t.isMark equals = false) ∧ Token.depth u = 0}

/-- What is flat stays so under all that builds phrases. -/
theorem closed_flat : flat.Closed where
  one_le := by
    rintro _ rfl
    exact ⟨fun t ht => (List.not_mem_nil ht).elim, rfl⟩
  mul_self_le := by
    rintro _ ⟨u, hu, v, hv, rfl⟩
    refine ⟨fun t ht => (List.mem_append.1 ht).elim (hu.1 t) (hv.1 t), ?_⟩
    rw [Token.depth_append, hu.2, hv.2]
    rfl

/-- A single token is flat if it is no equals sign and does not deepen. -/
theorem one_le_flat {p : Token → Bool}
    (h : ∀ t, p t → t.isMark equals = false ∧ t.deepens = 0) : one p ≤ flat := by
  rintro _ ⟨t, rfl, ht⟩
  obtain ⟨hequals, hdepth⟩ := h t ht
  refine ⟨fun x hx => ?_, ?_⟩
  · rwa [List.mem_singleton.1 hx]
  · rw [Token.depth_cons, hdepth]
    rfl

/-- Tokens that are no punctuation. -/
theorem one_le_flat_of_kind {p : Token → Bool} (h : ∀ t, p t → t.kind ≠ .punct) : one p ≤ flat :=
  one_le_flat fun t ht =>
    ⟨Token.isMark_of_kind_ne (h t ht), Token.deepens_of_kind_ne (h t ht)⟩

theorem word_le_flat (text : Text) : word text ≤ flat :=
  one_le_flat_of_kind fun t ht => by simp [(Token.isKeyword_iff.1 ht).1]

theorem name_le_flat : name ≤ flat :=
  one_le_flat_of_kind fun t ht => by simp [beq_iff_eq.1 ht]

/-- A mark of another kind is flat. -/
theorem punct_le_flat {mark : Text}
    (h : mark ∉ [equals, openParen, openBracket, closeParen, closeBracket]) :
    punct mark ≤ flat := by
  simp only [List.mem_cons, List.not_mem_nil, or_false, not_or] at h
  obtain ⟨hequals, hopenParen, hopenBracket, hcloseParen, hcloseBracket⟩ := h
  refine one_le_flat fun t ht => ⟨Token.isMark_eq_false ht (beq_eq_false_iff_ne.2 hequals), ?_⟩
  rw [Token.deepens_of_isMark ht, if_neg (not_or.2 ⟨hopenParen, hopenBracket⟩),
    if_neg (not_or.2 ⟨hcloseParen, hcloseBracket⟩)]

/-- A pair of parentheses or square brackets around such a row. -/
theorem bracketed_le_flat {opener closer : Text} (h : Bracket.closer? opener = some closer)
    (hopener : opener = openParen ∨ opener = openBracket) (hA : A ≤ flat) :
    punct opener * A * punct closer ≤ flat := by
  rintro _ ⟨_, ⟨_, ⟨o, rfl, ho⟩, u, hu, rfl⟩, _, ⟨c, rfl, hc⟩, rfl⟩
  obtain ⟨hequals, hdepth⟩ := hA hu
  -- the closer takes back the level that the opener adds, and neither is an equals sign
  have hbrackets : o.isMark equals = false ∧ c.isMark equals = false ∧
      o.deepens = 1 ∧ c.deepens = -1 := by
    rw [Token.isMark_of_isMark ho, Token.isMark_of_isMark hc, Token.deepens_of_isMark ho,
      Token.deepens_of_isMark hc]
    rcases hopener with rfl | rfl <;> obtain rfl := Option.some.inj h <;> decide
  obtain ⟨hopenSign, hcloseSign, hopen, hclose⟩ := hbrackets
  show o :: u ++ [c] ∈ flat
  refine ⟨fun t ht => ?_, ?_⟩
  · simp only [List.mem_append, List.mem_cons, List.not_mem_nil, or_false] at ht
    rcases ht with (rfl | ht) | rfl
    · exact hopenSign
    · exact hequals t ht
    · exact hcloseSign
  · rw [Token.depth_append, Token.depth_cons, Token.depth_cons, hopen, hclose, hdepth]
    rfl

end Phrase

namespace Phrases

open Phrase

/-- Types that are flat, and any expressions. -/
def flat : Phrases
  | .type => Phrase.flat
  | .expr _ => ⊤

/-- A path is flat. -/
theorem path_le_flat : path ≤ Phrase.flat :=
  closed_flat.mul name_le_flat
    (closed_flat.star (closed_flat.mul (punct_le_flat (by decide)) name_le_flat))

/-- A list is flat if its members are. -/
theorem commaList_le_flat {A : Phrase} (hA : A ≤ Phrase.flat) : commaList A ≤ Phrase.flat :=
  closed_flat.commaList (punct_le_flat (by decide)) hA

/-- A type is flat if the types in it are. -/
theorem typeBody_le_flat : flat.typeBody ≤ Phrase.flat := by
  have h := closed_flat
  have harrow : punct arrow ≤ Phrase.flat := punct_le_flat (by decide)
  have htypes : commaList (flat .type) ≤ Phrase.flat := commaList_le_flat le_rfl
  have htypeArgs : flat.typeArgs ≤ Phrase.flat := bracketed_le_flat rfl (.inr rfl) htypes
  have hdomain : flat.domain ≤ Phrase.flat := bracketed_le_flat rfl (.inl rfl) (h.opt htypes)
  exact add_le
    (h.mul (h.mul path_le_flat (h.opt htypeArgs)) (h.opt (h.mul harrow le_rfl)))
    (h.mul (h.mul hdomain harrow) le_rfl)

/-- A `def` up to its equals sign. -/
def header (P : Phrases) : Phrase := word "def".toList * name * opt P.params * P.ascription

/-- A header is flat if the types in it are. -/
theorem header_flat_le : flat.header ≤ Phrase.flat := by
  have h := closed_flat
  have hcolon : punct colon ≤ Phrase.flat := punct_le_flat (by decide)
  have hparams : flat.params ≤ Phrase.flat := bracketed_le_flat rfl (.inl rfl)
    (h.opt (commaList_le_flat (h.mul (h.mul name_le_flat hcolon) le_rfl)))
  exact h.mul (h.mul (h.mul (word_le_flat _) name_le_flat) (h.opt hparams))
    (h.opt (h.mul hcolon le_rfl))

/-- Headers grow with the types. -/
theorem header_mono {P Q : Phrases} (h : P ≤ Q) : P.header ≤ Q.header := by
  have ht := h .type
  unfold header params ascription
  gcongr

end Phrases

/-- The types of the grammar are flat. -/
theorem grammar_le_flat : grammar ≤ Phrases.flat :=
  grammar_le fun
    | .type => Phrases.typeBody_le_flat
    | .expr _ => fun _ _ => trivial

/-- So is every header, which has therefore no equals sign in it. -/
theorem header_grammar_le_flat : grammar.header ≤ Phrase.flat :=
  (Phrases.header_mono grammar_le_flat).trans Phrases.header_flat_le

/-! ### Definitions -/

/-- The row `u` is a `def` in the grammar: a header, an equals sign and a body. -/
structure IsDefinition (u front : List Token) (sign : Token) (body : List Token) : Prop where
  append : front ++ sign :: body = u
  header : front ∈ grammar.header
  equals : sign.isMark equals
  body : body ∈ grammar (.expr true)

namespace IsDefinition

variable {u front front' body body' : List Token} {sign sign' : Token}

/-- The sign is the first one of the row, so there is only one way to take a `def` apart. -/
theorem unique (h : IsDefinition u front sign body) (h' : IsDefinition u front' sign' body') :
    front' = front ∧ sign' = sign ∧ body' = body := by
  -- an earlier sign would be one of the tokens of the other header, and that has none
  have hfirst {front front' body body' : List Token} {sign sign' : Token}
      (h : IsDefinition u front sign body) (h' : IsDefinition u front' sign' body') :
      front.length ≤ front'.length := by
    rcases append_eq_append_cons (h.append.trans h'.append.symm) with ⟨middle, hfront⟩ |
      ⟨middle, hfront, -⟩
    · have hmem : sign' ∈ front := by
        rw [hfront]
        exact List.mem_append_right _ List.mem_cons_self
      have hflat := (header_grammar_le_flat h.header).1 sign' hmem
      rw [h'.equals] at hflat
      cases hflat
    · rw [hfront, List.length_append]
      exact Nat.le_add_right _ _
  have hlength := le_antisymm (hfirst h' h) (hfirst h h')
  obtain ⟨hfront, hrest⟩ := List.append_inj (h'.append.trans h.append.symm) hlength
  obtain ⟨hsign, hbody⟩ := List.cons.inj hrest
  exact ⟨hfront, hsign, hbody⟩

end IsDefinition

/-- A statement of the grammar that begins with the reserved word of a `val`, `var` or `def` is such a
definition. -/
theorem mem_statement_of_keyword {u : List Token} {w : Text} (hu : u ∈ grammar.statement)
    (hw : w ∈ ["val", "var", "def"].map String.toList) (hhead : u.head?.any (·.isKeyword w)) :
    (w = "val".toList ∧ u ∈ Phrase.word w *
      (Phrases.pattern * (grammar.ascription * grammar.definiens))) ∨
    (w = "var".toList ∧ u ∈ Phrase.word w *
      (Phrase.name * (grammar.ascription * grammar.definiens))) ∨
    (w = "def".toList ∧ u ∈ grammar.header * grammar.definiens) := by
  -- each alternative but the last begins with a reserved word, and that is `w`
  have hword {word : Text} {M : Phrase} (hu : u ∈ Phrase.word word * M) : w = word := by
    obtain ⟨_, ⟨t, rfl, ht⟩, v, -, rfl⟩ := hu
    have hkeyword : t.isKeyword w := hhead
    exact (Token.isKeyword_iff.1 hkeyword).2.symm.trans (Token.isKeyword_iff.1 ht).2
  rcases hu with (((hu | hu) | hu) | hu) | hu
  · rw [mul_assoc, mul_assoc] at hu
    obtain rfl := hword hu
    exact .inl ⟨rfl, hu⟩
  · rw [mul_assoc, mul_assoc] at hu
    obtain rfl := hword hu
    exact .inr (.inl ⟨rfl, hu⟩)
  · have hdef := hu
    rw [mul_assoc, mul_assoc, mul_assoc] at hdef
    exact .inr (.inr ⟨hword hdef, hu⟩)
  · obtain rfl := hword hu
    exact absurd hw (by decide)
  · -- no expression begins with such a word
    obtain ⟨t, v, rfl, ht⟩ :=
      ((begins_expr readable_greedy true).mono (grammar_le_forget _)) u hu
    have hkeyword : t.isKeyword w := hhead
    have hnone : ∀ w ∈ ["val", "var", "def"].map String.toList, t.isKeyword w = false := by
      intro w hw
      simp only [List.map_cons, List.map_nil, List.mem_cons, List.not_mem_nil, or_false] at hw
      rcases hw with rfl | rfl | rfl <;> exact Token.isKeyword_of_startsExpr ht (by decide)
    rw [hnone w hw] at hkeyword
    cases hkeyword

/-- Among the statements of the grammar, those that begin with `def` are definitions. -/
theorem exists_isDefinition_iff {u : List Token} :
    (∃ front sign body, IsDefinition u front sign body) ↔
      u ∈ grammar.statement ∧ u.head?.any (·.isKeyword "def".toList) := by
  constructor
  · rintro ⟨front, sign, body, rfl, hheader, hsign, hbody⟩
    have hdefiniens : [sign] ++ body ∈ grammar.definiens :=
      Language.append_mem_mul ⟨sign, rfl, hsign⟩ hbody
    have hbegins : grammar.header.Begins (·.isKeyword "def".toList) :=
      (((Phrase.begins_one _).mul _).mul _).mul _
    exact ⟨.inl (.inl (.inr (Language.append_mem_mul hheader hdefiniens))),
      hbegins.any_head? hheader _ fun _ h => h⟩
  · rintro ⟨hu, hhead⟩
    -- the first word tells which kind of statement it is
    rcases mem_statement_of_keyword hu (by decide) hhead with ⟨hne, -⟩ | ⟨hne, -⟩ | ⟨-, hdef⟩
    · exact absurd hne (by decide)
    · exact absurd hne (by decide)
    · obtain ⟨front, hheader, _, ⟨_, ⟨sign, rfl, hsign⟩, body, hbody, rfl⟩, rfl⟩ := hdef
      exact ⟨front, sign, body, rfl, hheader, hsign, hbody⟩

end StatementReader
