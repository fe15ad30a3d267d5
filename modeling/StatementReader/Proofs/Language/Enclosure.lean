import StatementReader.Proofs.Language.FirstTokens
import StatementReader.Proofs.Language.Phrases
import StatementReader.Proofs.Rule.Nesting
import StatementReader.Proofs.Text.Append

/-!
# Brackets in the grammar

Every bracket in a statement of the grammar is closed in it, every semicolon stands between two of
its brackets, and no token is one that the scanner does not know. So a semicolon outside all
brackets belongs to no statement, and it can be told by counting brackets from the beginning of the
text.

The phrases are the least solution of their equations. It is enough to see that the rows with these
properties (`Phrase.enclosed`) satisfy the equations as inequalities. They are closed under putting
rows together, and between brackets a row may have semicolons of its own (`Phrase.nested`), as the
statements of a block do.
-/

namespace StatementReader

open Rule Computability

namespace Bracket

/-- What a mark does to the open brackets does not depend on those further out. -/
theorem step_append_right {stack stack' : List Text} {mark : Text}
    (h : step stack mark = some stack') (base : List Text) :
    step (stack ++ base) mark = some (stack' ++ base) := by
  by_cases hopen : (closer? mark).isSome
  · rw [step_of_opener hopen] at h ⊢
    obtain rfl := Option.some.inj h
    rfl
  by_cases hclose : isCloser mark
  · cases stack with
    | nil => simp [step, hopen, hclose] at h
    | cons innermost others =>
      -- only the innermost bracket is looked at, and it is on top of the base
      by_cases hmatch : closer? innermost = some mark
      · rw [step_of_closer hmatch] at h
        obtain rfl := Option.some.inj h
        exact step_of_closer hmatch
      · simp [step, hopen, hclose, hmatch] at h
  · have hplain : isBracket mark = false := by simp [isBracket, hopen, hclose]
    rw [step_of_not_bracket hplain] at h ⊢
    obtain rfl := Option.some.inj h
    rfl

/-- More brackets that are open before a row are open after it. -/
theorem openAfter_append_right {stack stack' marks : List Text}
    (h : openAfter stack marks = some stack') (base : List Text) :
    openAfter (stack ++ base) marks = some (stack' ++ base) := by
  -- each mark changes the top of the stack only, so the base stays as it is
  induction marks generalizing stack with
  | nil =>
    obtain rfl := Option.some.inj h
    rfl
  | cons mark marks ih =>
    rw [← List.singleton_append, openAfter_append, openAfter_singleton] at h ⊢
    obtain ⟨middle, hstep, hrest⟩ := Option.bind_eq_some_iff.1 h
    rw [step_append_right hstep]
    exact ih hrest

end Bracket

namespace Phrase

variable {A B L : Phrase}

/-! ### Phrases closed under putting rows together -/

/-- A phrase that has the empty row, and each two of its rows one after the other. -/
structure Closed (L : Phrase) : Prop where
  one_le : 1 ≤ L
  mul_self_le : L * L ≤ L

namespace Closed

variable (h : L.Closed)
include h

/-- Two phrases of a closed language make one. -/
theorem mul (hA : A ≤ L) (hB : B ≤ L) : A * B ≤ L := (mul_le_mul' hA hB).trans h.mul_self_le

/-- And so does a row of them. -/
theorem star (hA : A ≤ L) : A∗ ≤ L := kstar_le_of_mul_le_left h.one_le (h.mul le_rfl hA)

/-- What is optional may be left out. -/
theorem opt (hA : A ≤ L) : opt A ≤ L := add_le h.one_le hA

/-- A list is a row of commas and members. -/
theorem commaList (hcomma : punct comma ≤ L) (hA : A ≤ L) : commaList A ≤ L :=
  h.mul hA (h.star (h.mul hcomma hA))

end Closed

/-! ### Nested and enclosed rows -/

/-- Rows of known tokens that close every bracket they open, and no other. -/
def nested : Phrase :=
  {u | (∀ t ∈ u, t.kind ≠ .unknown) ∧ Bracket.openAfter [] (Token.marks u) = some []}

/-- Nested rows where every semicolon stands between brackets. -/
def enclosed : Phrase :=
  {u ∈ nested | ∀ v t w, u = v ++ t :: w → t.isMark semicolon →
    Bracket.openAfter [] (Token.marks v) ≠ some []}

/-- What is enclosed is nested. -/
theorem enclosed_le_nested : enclosed ≤ nested := fun _ hu => hu.1

/-- A nested row leaves the open brackets as they are. -/
theorem openAfter_of_mem_nested {u : List Token} (hu : u ∈ nested) (stack marks : List Text) :
    Bracket.openAfter stack (Token.marks u ++ marks) = Bracket.openAfter stack marks := by
  have hframe := Bracket.openAfter_append_right hu.2 stack
  rw [Bracket.openAfter_append]
  exact congrArg (Option.bind · _) hframe

/-- What is nested stays so under all that builds phrases. -/
theorem closed_nested : nested.Closed where
  one_le := by
    rintro _ rfl
    exact ⟨fun t ht => (List.not_mem_nil ht).elim, rfl⟩
  mul_self_le := by
    rintro _ ⟨u, hu, v, hv, rfl⟩
    -- the first phrase leaves nothing open, so the second begins anew
    refine ⟨fun t ht => (List.mem_append.1 ht).elim (hu.1 t) (hv.1 t), ?_⟩
    rw [Token.marks_append, openAfter_of_mem_nested hu]
    exact hv.2

/-- So does what is enclosed: a semicolon is inside one of the parts. -/
theorem closed_enclosed : enclosed.Closed where
  one_le := by
    rintro _ rfl
    refine ⟨closed_nested.one_le rfl, fun v t w h => ?_⟩
    cases (List.append_eq_nil_iff.1 h.symm).2
  mul_self_le := by
    rintro _ ⟨u, hu, v, hv, rfl⟩
    refine ⟨closed_nested.mul_self_le ⟨u, hu.1, v, hv.1, rfl⟩, fun w t w' h ht => ?_⟩
    -- the semicolon stands in one of the two rows
    rcases append_eq_append_cons h with ⟨middle, hu'⟩ | ⟨middle, rfl, hv'⟩
    · exact hu.2 w t middle hu' ht
    · rw [Token.marks_append, openAfter_of_mem_nested hu.1]
      exact hv.2 middle t w' hv' ht

/-- Tokens that are neither brackets nor semicolons. -/
theorem one_le_enclosed {p : Token → Bool}
    (h : ∀ t, p t → t.kind ≠ .unknown ∧ t.isPlain ∧ t.isMark semicolon = false) :
    one p ≤ enclosed := by
  rintro _ ⟨t, rfl, ht⟩
  obtain ⟨hknown, hplain, hsemicolon⟩ := h t ht
  -- the one token leaves nothing open and is no semicolon
  refine ⟨⟨fun x hx => ?_, Token.openAfter_singleton_of_isPlain hplain []⟩, fun v x w hvw hx => ?_⟩
  · rwa [List.mem_singleton.1 hx]
  · have hmem : x ∈ [t] := by
      rw [hvw]
      exact List.mem_append_right v List.mem_cons_self
    rw [List.mem_singleton.1 hmem, hsemicolon] at hx
    cases hx

/-- A mark that is neither a bracket nor a semicolon is enclosed. -/
theorem punct_le_enclosed {mark : Text} (hplain : Bracket.isBracket mark = false)
    (hsemicolon : mark ≠ semicolon) : punct mark ≤ enclosed :=
  one_le_enclosed fun t ht => by
    have hk := (Token.isMark_iff.1 ht).1
    exact ⟨by simp [hk], Token.isPlain_of_isMark ht hplain,
      Token.isMark_eq_false ht (beq_eq_false_iff_ne.2 hsemicolon)⟩

/-- Tokens that are no punctuation. -/
theorem one_le_enclosed_of_kind {p : Token → Bool}
    (h : ∀ t, p t → t.kind ≠ .unknown ∧ t.kind ≠ .punct) : one p ≤ enclosed :=
  one_le_enclosed fun t ht =>
    ⟨(h t ht).1, Token.isPlain_of_kind_ne (h t ht).2, Token.isMark_of_kind_ne (h t ht).2⟩

theorem word_le_enclosed (text : Text) : word text ≤ enclosed :=
  one_le_enclosed_of_kind fun t ht => by simp [(Token.isKeyword_iff.1 ht).1]

theorem name_le_enclosed : name ≤ enclosed :=
  one_le_enclosed_of_kind fun t ht => by simp [beq_iff_eq.1 ht]

theorem operator_le_enclosed : operator ≤ enclosed :=
  one_le_enclosed_of_kind fun t ht => by
    rcases Bool.or_eq_true_iff.1 ht with h | h <;> simp [beq_iff_eq.1 h]

/-- A sign is no bracket. -/
theorem sign_le_enclosed : one (·.isSign) ≤ enclosed :=
  one_le_enclosed_of_kind fun t ht => by
    simp only [Token.isSign, Bool.and_eq_true, beq_iff_eq] at ht
    simp [ht.1]

theorem literal_le_enclosed : one (·.kind.isLiteral) ≤ enclosed :=
  one_le_enclosed_of_kind fun t ht => by
    constructor <;> intro hk <;> simp [hk, LexemeKind.isLiteral] at ht

/-- A semicolon is nested, though not enclosed. -/
theorem semicolon_le_nested : punct semicolon ≤ nested := by
  rintro _ ⟨t, rfl, ht⟩
  refine ⟨fun x hx => ?_, Token.openAfter_singleton_of_isPlain (Token.isPlain_of_isMark ht rfl) []⟩
  rw [List.mem_singleton.1 hx, (Token.isMark_iff.1 ht).1]
  decide

section

variable {opener closer : Text} {o c : Token} {u : List Token}

/-- An opening bracket is open before whatever follows. -/
theorem openAfter_opener (h : Bracket.closer? opener = some closer) (ho : o.isMark opener)
    (u : List Token) : Bracket.openAfter [] (Token.marks (o :: u)) =
      Bracket.openAfter [opener] (Token.marks u) := by
  rw [← List.singleton_append, Token.marks_append, Token.marks_singleton_of_isMark ho,
    Bracket.openAfter_append, Bracket.openAfter_singleton, Bracket.step_of_opener (by simp [h])]
  rfl

/-- A bracket that is open before a nested row is open all through it. -/
theorem openAfter_ne_of_append_mem_nested {v w : List Token} (h : v ++ w ∈ nested) :
    Bracket.openAfter [opener] (Token.marks v) ≠ some [] := by
  have hbalanced := h.2
  rw [Token.marks_append, Bracket.openAfter_append] at hbalanced
  obtain ⟨stack, hstack, -⟩ := Option.bind_eq_some_iff.1 hbalanced
  rw [← List.nil_append [opener], Bracket.openAfter_append_right hstack]
  simp

/-- What is nested is nested in brackets too. -/
theorem bracketed_mem_nested (h : Bracket.closer? opener = some closer) (ho : o.isMark opener)
    (hu : u ∈ nested) (hc : c.isMark closer) : o :: (u ++ [c]) ∈ nested := by
  refine ⟨fun t ht => ?_, ?_⟩
  · simp only [List.mem_cons, List.mem_append, List.not_mem_nil, or_false] at ht
    rcases ht with rfl | ht | rfl
    · simp [(Token.isMark_iff.1 ho).1]
    · exact hu.1 t ht
    · simp [(Token.isMark_iff.1 hc).1]
  · -- the opener is closed again, after what leaves nothing open
    rw [openAfter_opener h ho, Token.marks_append, openAfter_of_mem_nested hu,
      Token.marks_singleton_of_isMark hc, Bracket.openAfter_singleton, Bracket.step_of_closer h]

/-- A bracket is no semicolon. -/
theorem isMark_semicolon_of_bracket (h : Bracket.closer? opener = some closer) :
    (o.isMark opener → o.isMark semicolon = false) ∧
      (c.isMark closer → c.isMark semicolon = false) := by
  constructor
  · refine fun ho => Token.isMark_eq_false ho (beq_eq_false_iff_ne.2 ?_)
    rintro rfl
    cases h
  · refine fun hc => Token.isMark_eq_false hc (beq_eq_false_iff_ne.2 ?_)
    rintro rfl
    exact absurd (Bracket.closer?_of_closer h).2 (by decide)

/-- Between brackets a row may have semicolons of its own. -/
theorem bracketed_le_enclosed (h : Bracket.closer? opener = some closer) (hA : A ≤ nested) :
    punct opener * A * punct closer ≤ enclosed := by
  rintro _ ⟨_, ⟨_, ⟨o, rfl, ho⟩, u, hu, rfl⟩, _, ⟨c, rfl, hc⟩, rfl⟩
  have hu : u ∈ nested := hA hu
  obtain ⟨hopener, hcloser⟩ := isMark_semicolon_of_bracket h (o := o) (c := c)
  refine ⟨bracketed_mem_nested h ho hu hc, fun v t w hvw ht => ?_⟩
  have hvw : o :: (u ++ [c]) = v ++ t :: w := hvw
  -- a semicolon is neither of the two brackets, so it stands after the first and not at the end
  cases v with
  | nil =>
    obtain rfl : o = t := (List.cons.inj hvw).1
    rw [hopener ho] at ht
    cases ht
  | cons o' v =>
    obtain ⟨rfl, hrest⟩ := List.cons.inj hvw
    rcases append_eq_append_cons hrest with ⟨middle, rfl⟩ | ⟨middle, -, hmiddle⟩
    · rw [openAfter_opener h ho]
      exact openAfter_ne_of_append_mem_nested hu
    · have hmem : t ∈ [c] := by
        rw [hmiddle]
        exact List.mem_append_right middle List.mem_cons_self
      rw [List.mem_singleton.1 hmem, hcloser hc] at ht
      cases ht

end

/-- Nested rows with semicolons around them. -/
theorem statements_le_nested (hA : A ≤ nested) : statements A ≤ nested := by
  have hsemicolons : (punct semicolon)∗ ≤ nested := closed_nested.star semicolon_le_nested
  rintro w ⟨us, hrow⟩
  induction hrow with
  | nil hv => exact hsemicolons hv
  | cons hv hu _ _ ih =>
    exact closed_nested.mul hsemicolons (closed_nested.mul hA le_rfl)
      (Language.append_mem_mul hv (Language.append_mem_mul hu ih))

end Phrase

/-! ### The equations -/

namespace Phrases

open Phrase

/-- Types and expressions that are enclosed. -/
def enclosed : Phrases := fun _ => Phrase.enclosed

/-- A path has no brackets at all. -/
theorem path_le_enclosed : path ≤ Phrase.enclosed :=
  closed_enclosed.mul name_le_enclosed (closed_enclosed.star
    (closed_enclosed.mul (punct_le_enclosed rfl (by decide)) name_le_enclosed))

/-- A list is enclosed if its members are. -/
theorem commaList_le_enclosed {A : Phrase} (hA : A ≤ Phrase.enclosed) :
    commaList A ≤ Phrase.enclosed :=
  closed_enclosed.commaList (punct_le_enclosed rfl (by decide)) hA

/-- A list with commas between brackets, or nothing. -/
theorem listed_le_enclosed {A : Phrase} {opener closer : Text}
    (h : Bracket.closer? opener = some closer) (hA : A ≤ Phrase.enclosed) :
    punct opener * opt (commaList A) * punct closer ≤ Phrase.enclosed :=
  bracketed_le_enclosed h
    ((closed_enclosed.opt (commaList_le_enclosed hA)).trans enclosed_le_nested)

/-- Type arguments stand in brackets. -/
theorem typeArgs_le_enclosed : enclosed.typeArgs ≤ Phrase.enclosed :=
  bracketed_le_enclosed rfl ((commaList_le_enclosed le_rfl).trans enclosed_le_nested)

/-- A type is enclosed if the types in it are. -/
theorem typeBody_le_enclosed : enclosed.typeBody ≤ Phrase.enclosed := by
  have h := closed_enclosed
  have harrow : punct arrow ≤ Phrase.enclosed := punct_le_enclosed rfl (by decide)
  exact add_le
    (h.mul (h.mul path_le_enclosed (h.opt typeArgs_le_enclosed)) (h.opt (h.mul harrow le_rfl)))
    (h.mul (h.mul (listed_le_enclosed rfl le_rfl) harrow) le_rfl)

/-- A statement is enclosed if its expressions and types are. -/
theorem statement_le_enclosed : enclosed.statement ≤ Phrase.enclosed := by
  have h := closed_enclosed
  have hcolon : punct colon ≤ Phrase.enclosed := punct_le_enclosed rfl (by decide)
  have hnames : commaList name ≤ nested :=
    (commaList_le_enclosed name_le_enclosed).trans enclosed_le_nested
  have hascription : enclosed.ascription ≤ Phrase.enclosed := h.opt (h.mul hcolon le_rfl)
  have hdefiniens : enclosed.definiens ≤ Phrase.enclosed :=
    h.mul (punct_le_enclosed rfl (by decide)) le_rfl
  have hpattern : pattern ≤ Phrase.enclosed :=
    add_le name_le_enclosed (bracketed_le_enclosed rfl hnames)
  have hparams : enclosed.params ≤ Phrase.enclosed :=
    listed_le_enclosed rfl (h.mul (h.mul name_le_enclosed hcolon) le_rfl)
  have himport : importPath ≤ Phrase.enclosed :=
    h.mul path_le_enclosed (h.opt (h.mul (punct_le_enclosed rfl (by decide))
      (bracketed_le_enclosed rfl hnames)))
  -- the alternatives of a statement, of which the last is an expression
  refine add_le (add_le (add_le (add_le ?_ ?_) ?_) ?_) le_rfl
  · exact h.mul (h.mul (h.mul (word_le_enclosed _) hpattern) hascription) hdefiniens
  · exact h.mul (h.mul (h.mul (word_le_enclosed _) name_le_enclosed) hascription) hdefiniens
  · exact h.mul (h.mul (h.mul (h.mul (word_le_enclosed _) name_le_enclosed) (h.opt hparams))
      hascription) hdefiniens
  · exact h.mul (word_le_enclosed _) himport

/-- The semicolons of a block are inside its braces. -/
theorem block_le_enclosed : enclosed.block ≤ Phrase.enclosed :=
  bracketed_le_enclosed rfl
    (statements_le_nested (statement_le_enclosed.trans enclosed_le_nested))

/-- Arguments stand in brackets. -/
theorem args_le_enclosed : enclosed.args ≤ Phrase.enclosed := listed_le_enclosed rfl le_rfl

/-- An operand is enclosed, with its trailers. -/
theorem operand_le_enclosed (lineMode : Bool) : enclosed.operand lineMode ≤ Phrase.enclosed := by
  have h := closed_enclosed
  have hsimple : enclosed.simple ≤ Phrase.enclosed :=
    add_le (add_le (add_le (add_le (add_le literal_le_enclosed name_le_enclosed)
      (word_le_enclosed _)) (word_le_enclosed _)) args_le_enclosed) block_le_enclosed
  have hcreation : enclosed.creation lineMode ≤ Phrase.enclosed :=
    h.mul (h.mul (word_le_enclosed _) le_rfl) (h.opt ((sameLine_le _ _).trans args_le_enclosed))
  have htrailer : enclosed.trailer ≤ Phrase.enclosed :=
    add_le (add_le (add_le (h.mul (punct_le_enclosed rfl (by decide)) name_le_enclosed)
      args_le_enclosed) typeArgs_le_enclosed) block_le_enclosed
  exact h.mul (add_le hsimple hcreation) (h.star ((sameLine_le _ _).trans htrailer))

/-- An expression is enclosed if the expressions in it are. -/
theorem exprBody_le_enclosed (lineMode : Bool) : enclosed.exprBody lineMode ≤ Phrase.enclosed := by
  have h := closed_enclosed
  have hcondition : enclosed.condition ≤ Phrase.enclosed :=
    bracketed_le_enclosed rfl enclosed_le_nested
  have hsigned : signed (enclosed.operand lineMode) ≤ Phrase.enclosed :=
    h.mul (h.opt sign_le_enclosed) (operand_le_enclosed lineMode)
  have hoperation : operation lineMode (enclosed.operand lineMode) ≤ Phrase.enclosed :=
    h.mul hsigned (h.star (h.mul ((sameLine_le _ _).trans operator_le_enclosed) hsigned))
  have hassignment : opt (sameLine lineMode (punct equals) * enclosed (.expr lineMode)) ≤
      Phrase.enclosed :=
    h.opt (h.mul ((sameLine_le _ _).trans (punct_le_enclosed rfl (by decide))) le_rfl)
  -- the alternatives are told apart by their words; each is a product of enclosed phrases
  refine add_le (add_le (add_le ?_ ?_) ?_) (h.mul hoperation hassignment)
  · exact h.mul (h.mul (h.mul (word_le_enclosed _) hcondition) le_rfl)
      (h.opt (h.mul (word_le_enclosed _) le_rfl))
  · exact h.mul (h.mul (word_le_enclosed _) hcondition) le_rfl
  · exact h.mul (h.mul name_le_enclosed (punct_le_enclosed rfl (by decide))) le_rfl

end Phrases

/-- The phrases of the grammar are enclosed. -/
theorem grammar_le_enclosed : grammar ≤ Phrases.enclosed :=
  grammar_le fun
    | .type => Phrases.typeBody_le_enclosed
    | .expr lineMode => Phrases.exprBody_le_enclosed lineMode

/-- Every statement of the grammar is enclosed. -/
theorem statement_grammar_le_enclosed : grammar.statement ≤ Phrase.enclosed :=
  (Phrases.statement_mono grammar_le_enclosed).trans Phrases.statement_le_enclosed

end StatementReader
