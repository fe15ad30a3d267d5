import StatementReader.Grammar.Statement
import Mathlib.Computability.Language
import Mathlib.Order.FixedPoints
import Mathlib.Order.CompletePartialOrder

/-!
# The grammar as a language

What the statement grammar means without a reader: a *phrase* is a set of rows of tokens, and each
nonterminal of the grammar stands for a phrase that is made of others by an equation. `Phrases.body`
has the equations and `grammar` is their least solution. An alternative is a sum, a row is a product
and a repetition is a star, as in any Kleene algebra.

Nothing here is resolved. A phrase may be made in several ways: an `else` may belong to any
conditional before it, and what follows `new a` may be part of the type or come after it. The
equations do not limit how deeply phrases are nested either.

Only line breaks are not context-free. An expression at the top level or in a block is not continued
on the next line (`Phrase.sameLine`), so there are two nonterminals for expressions.
-/

namespace StatementReader

open Rule Computability

/-- A set of rows of tokens. -/
abbrev Phrase := Language Token

namespace Phrase

/-- One token. -/
def one (p : Token → Bool) : Phrase := {u | ∃ t, u = [t] ∧ p t}

/-- The punctuation `text`. -/
def punct (text : Text) : Phrase := one (·.isMark text)

/-- The reserved word `text`. -/
def word (text : Text) : Phrase := one (·.isKeyword text)

/-- An identifier. -/
def name : Phrase := one (·.kind == .ident)

/-- What may stand between two operands. -/
def operator : Phrase := one fun t => t.kind == .op || t.kind == .ident

/-- A phrase or nothing. -/
def opt (L : Phrase) : Phrase := 1 + L

/-- One or more of a phrase, with commas between them. -/
def commaList (L : Phrase) : Phrase := L * (punct comma * L)∗

/-- A phrase that does not begin on a new line, if line breaks count. -/
def sameLine (lineMode : Bool) (L : Phrase) : Phrase :=
  {u ∈ L | lineMode → ∀ t ∈ u.head?, t.afterBreak = false}

/-- The end of a statement: the end of the row, a semicolon or a line break. -/
def Separated (w : List Token) : Prop := ∀ t ∈ w.head?, t.isMark semicolon ∨ t.afterBreak

/-- A row of statements `us` from `S` with any number of semicolons around each of them. Two
statements are separated by a semicolon or by a line break. -/
inductive Row (S : Phrase) : List (List Token) → List Token → Prop
  | nil {v} : v ∈ (punct semicolon)∗ → Row S [] v
  | cons {v u us w} : v ∈ (punct semicolon)∗ → u ∈ S → Separated w → Row S us w →
      Row S (u :: us) (v ++ (u ++ w))

/-- Any number of statements. -/
def statements (S : Phrase) : Phrase := {w | ∃ us, Row S us w}

/-- One phrase more makes a longer row of them. -/
theorem append_mem_kstar {L : Phrase} {u v : List Token} (hu : u ∈ L) (hv : v ∈ L∗) :
    u ++ v ∈ L∗ :=
  (mul_kstar_le_kstar : L * L∗ ≤ L∗) (Language.append_mem_mul hu hv)

/-- A repetition of single tokens asks the same of each. -/
theorem mem_kstar_one {p : Token → Bool} {v : List Token} : v ∈ (one p)∗ ↔ ∀ t ∈ v, p t := by
  constructor
  · rintro ⟨vs, rfl, hvs⟩ t ht
    obtain ⟨u, hu, ht⟩ := List.mem_flatten.1 ht
    obtain ⟨t', rfl, hp⟩ := hvs u hu
    rwa [List.mem_singleton.1 ht]
  · intro hv
    -- a row is put together token by token
    induction v with
    | nil => exact Language.nil_mem_kstar _
    | cons t v ih =>
      have ht : [t] ∈ one p := ⟨t, rfl, hv t List.mem_cons_self⟩
      exact append_mem_kstar ht (ih fun t ht => hv t (List.mem_cons_of_mem _ ht))

/-- More semicolons in front of a row of statements. -/
theorem Row.semicolons {S : Phrase} {v w : List Token} {us : List (List Token)}
    (hv : v ∈ (punct semicolon)∗) (h : Row S us w) : Row S us (v ++ w) := by
  have happend {v' : List Token} (hv' : v' ∈ (punct semicolon)∗) : v ++ v' ∈ (punct semicolon)∗ :=
    mem_kstar_one.2 fun t ht => (List.mem_append.1 ht).elim (mem_kstar_one.1 hv t)
      (mem_kstar_one.1 hv' t)
  -- the row begins with semicolons of its own, and the others are added to them
  cases h with
  | nil hv' => exact .nil (happend hv')
  | cons hv' hu hsep hrow =>
    rw [← List.append_assoc]
    exact .cons (happend hv') hu hsep hrow

/-! ### Monotonicity -/

variable {L M : Phrase}

@[gcongr]
theorem opt_mono (h : L ≤ M) : opt L ≤ opt M := add_le_add_right h 1

@[gcongr]
theorem commaList_mono (h : L ≤ M) : commaList L ≤ commaList M := by
  unfold commaList
  gcongr

/-- More phrases are more phrases on the same line. -/
@[gcongr]
theorem sameLine_mono (lineMode : Bool) (h : L ≤ M) : sameLine lineMode L ≤ sameLine lineMode M :=
  fun _ hu => ⟨h hu.1, hu.2⟩

/-- A phrase on the same line is such a phrase. -/
theorem sameLine_le (lineMode : Bool) (L : Phrase) : sameLine lineMode L ≤ L := fun _ hu => hu.1

/-- A row of statements is one of any larger language. -/
theorem Row.mono {us : List (List Token)} {w : List Token} (hrow : Row L us w) (h : L ≤ M) :
    Row M us w := by
  induction hrow with
  | nil hv => exact .nil hv
  | cons hv hu hsep _ ih => exact .cons hv (h hu) hsep ih

/-- Rows of statements grow with the statements. -/
@[gcongr]
theorem statements_mono (h : L ≤ M) : statements L ≤ statements M :=
  fun _ ⟨us, hrow⟩ => ⟨us, hrow.mono h⟩

end Phrase

/-- The nonterminals of the grammar that refer to themselves. -/
inductive Nonterminal where
  | type
  /-- An expression, and whether line breaks count in it. -/
  | expr (lineMode : Bool)
  deriving DecidableEq

/-- The nonterminal of a construct where line breaks count or do not. -/
def Construct.nonterminal (lineMode : Bool) : Construct → Nonterminal
  | .type => .type
  | .expr => .expr lineMode

/-- A phrase of each nonterminal. -/
abbrev Phrases := Nonterminal → Phrase

namespace Phrases

open Phrase

variable (P : Phrases)

/-! ### Types -/

/-- A dotted path. -/
def path : Phrase := name * (punct dot * name)∗

/-- Type arguments, `[T, U]`. -/
def typeArgs : Phrase := punct openBracket * commaList (P .type) * punct closeBracket

/-- The parameter types of a function type, `(T, U)`. -/
def domain : Phrase := punct openParen * opt (commaList (P .type)) * punct closeParen

/-- `a.b[T] => R` or `(T, U) => R`. -/
def typeBody : Phrase :=
  path * opt P.typeArgs * opt (punct arrow * P .type) + P.domain * punct arrow * P .type

/-- A type ascription, or nothing. -/
def ascription : Phrase := opt (punct colon * P .type)

/-! ### Statements -/

/-- What a `val` binds. -/
def pattern : Phrase := name + punct openParen * commaList name * punct closeParen

/-- The parameters of a `def`. -/
def params : Phrase :=
  punct openParen * opt (commaList (name * punct colon * P .type)) * punct closeParen

/-- The right-hand side of a definition. -/
def definiens : Phrase := punct equals * P (.expr true)

/-- The path of an import, with names in braces at its end or not. -/
def importPath : Phrase :=
  path * opt (punct dot * (punct openBrace * commaList name * punct closeBrace))

/-- A statement. -/
def statement : Phrase :=
  word "val".toList * pattern * P.ascription * P.definiens +
  word "var".toList * name * P.ascription * P.definiens +
  word "def".toList * name * opt P.params * P.ascription * P.definiens +
  word "import".toList * importPath +
  P (.expr true)

/-- Statements between braces. -/
def block : Phrase := punct openBrace * statements P.statement * punct closeBrace

/-! ### Expressions -/

/-- Arguments, or a tuple. -/
def args : Phrase := punct openParen * opt (commaList (P (.expr false))) * punct closeParen

/-- The condition of a conditional or a loop. -/
def condition : Phrase := punct openParen * P (.expr false) * punct closeParen

/-- What may follow an operand. -/
def trailer : Phrase := punct dot * name + P.args + P.typeArgs + P.block

/-- An operand that is no object creation. -/
def simple : Phrase :=
  one (·.kind.isLiteral) + name + word "this".toList + word "super".toList + P.args + P.block

/-- An object creation. -/
def creation (lineMode : Bool) : Phrase :=
  word "new".toList * P .type * opt (sameLine lineMode P.args)

/-- An operand with what follows it. -/
def operand (lineMode : Bool) : Phrase :=
  (P.simple + P.creation lineMode) * (sameLine lineMode P.trailer)∗

/-- An operand with a sign or without. -/
def signed (O : Phrase) : Phrase := opt (one (·.isSign)) * O

/-- Operands with operators between them. -/
def operation (lineMode : Bool) (O : Phrase) : Phrase :=
  signed O * (sameLine lineMode operator * signed O)∗

/-- A conditional, a loop, a function literal, or operands that an assignment may follow. -/
def exprBody (lineMode : Bool) : Phrase :=
  word "if".toList * P.condition * P (.expr lineMode) *
    opt (word "else".toList * P (.expr lineMode)) +
  word "while".toList * P.condition * P (.expr lineMode) +
  name * punct arrow * P (.expr lineMode) +
  operation lineMode (P.operand lineMode) *
    opt (sameLine lineMode (punct equals) * P (.expr lineMode))

/-! ### The least solution -/

/-- The right-hand sides of the equations. -/
def body : Nonterminal → Phrase
  | .type => P.typeBody
  | .expr lineMode => P.exprBody lineMode

variable {P} {Q : Phrases}

/-- Type arguments grow with the types. -/
@[gcongr]
theorem typeArgs_mono (h : P ≤ Q) : P.typeArgs ≤ Q.typeArgs := by
  have ht := h .type
  unfold typeArgs
  gcongr

/-- Domains grow with the types. -/
@[gcongr]
theorem domain_mono (h : P ≤ Q) : P.domain ≤ Q.domain := by
  have ht := h .type
  unfold domain
  gcongr

/-- Statements grow with the phrases in them. -/
@[gcongr]
theorem statement_mono (h : P ≤ Q) : P.statement ≤ Q.statement := by
  have ht := h .type
  have he := h (.expr true)
  unfold statement params ascription definiens
  gcongr

/-- Blocks grow with the statements. -/
@[gcongr]
theorem block_mono (h : P ≤ Q) : P.block ≤ Q.block := by
  unfold block
  gcongr

/-- Arguments grow with the expressions. -/
@[gcongr]
theorem args_mono (h : P ≤ Q) : P.args ≤ Q.args := by
  have he := h (.expr false)
  unfold args
  gcongr

/-- Conditions grow with the expressions. -/
@[gcongr]
theorem condition_mono (h : P ≤ Q) : P.condition ≤ Q.condition := by
  have he := h (.expr false)
  unfold condition
  gcongr

/-- Trailers grow with the phrases in them. -/
@[gcongr]
theorem trailer_mono (h : P ≤ Q) : P.trailer ≤ Q.trailer := by
  unfold trailer
  gcongr

/-- Simple expressions grow with the phrases in them. -/
@[gcongr]
theorem simple_mono (h : P ≤ Q) : P.simple ≤ Q.simple := by
  unfold simple
  gcongr

/-- Operations grow with the operands. -/
@[gcongr]
theorem operation_mono (lineMode : Bool) {O O' : Phrase} (h : O ≤ O') :
    operation lineMode O ≤ operation lineMode O' := by
  unfold operation signed
  gcongr

/-- All phrases together grow with those that they are made of, so there is a least solution. -/
theorem body_mono : Monotone body := by
  intro P Q h c
  have ht := h .type
  cases c with
  | type =>
    show P.typeBody ≤ Q.typeBody
    unfold typeBody
    gcongr
  | expr lineMode =>
    have he := h (.expr lineMode)
    show P.exprBody lineMode ≤ Q.exprBody lineMode
    unfold exprBody operand creation
    gcongr

end Phrases

/-- The phrases of the grammar: the least solution of its equations. -/
def grammar : Phrases := OrderHom.lfp ⟨Phrases.body, Phrases.body_mono⟩

/-- The phrases of the grammar are made of themselves. -/
theorem body_grammar : grammar.body = grammar :=
  OrderHom.map_lfp ⟨Phrases.body, Phrases.body_mono⟩

/-- And they are the least that are. -/
theorem grammar_le {P : Phrases} (h : P.body ≤ P) : grammar ≤ P :=
  OrderHom.lfp_le ⟨Phrases.body, Phrases.body_mono⟩ h

/-- The rows of statements of the grammar. -/
def texts : Phrase := Phrase.statements grammar.statement

end StatementReader
