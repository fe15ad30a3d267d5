import StatementReader.Proofs.Language.Phrases
import Mathlib.Order.ConditionallyCompleteLattice.Basic

/-!
# Phrases that leave no choice

A reader that never goes back makes every phrase as long as it can. It takes an `else` for the
conditional read last, and what may belong to the type of an object creation for a part of the type.
The grammar leaves both open.

Here the grammar is written once more such that nothing is left open. A phrase now has a *shape*,
which tells how it ends: a type ends in a bare path, which a point or a bracket would continue, or
it does not; an expression ends in a conditional without `else`, which an `else` would continue, or
it does not. A phrase of the first kind may not stand before what would continue it.

`grammar_le_forget` is the reason why the reader loses nothing: every phrase of the grammar has a
shape. A conditional that an `else` follows takes it up (`conditional_else_le`), and so does a type
what follows it (`bare_mul_le`).
-/

namespace StatementReader

open Rule Computability

/-- The nonterminals with the way in which their phrases end. -/
inductive Shape where
  /-- A type, and whether it ends in a path without arguments. -/
  | type (bare : Bool)
  /-- An expression, and whether it ends in a conditional without `else`. -/
  | expr (lineMode short : Bool)
  deriving DecidableEq

/-- A phrase of each shape. -/
abbrev Shapes := Shape → Phrase

namespace Shapes

open Phrase

variable (Q : Shapes)

/-- The phrases of any shape. -/
def forget : Phrases
  | .type => Q (.type true) + Q (.type false)
  | .expr lineMode => Q (.expr lineMode true) + Q (.expr lineMode false)

/-! ### Types -/

/-- A type that is not the type of a function, with its arguments or without. -/
def plainType : Bool → Phrase
  | true => Phrases.path
  | false => Phrases.path * Q.forget.typeArgs

/-- The argument type of a function type, with the arrow. -/
def typeLead : Phrase :=
  (Phrases.path * opt Q.forget.typeArgs + Q.forget.domain) * punct arrow

/-! ### Expressions -/

/-- Whatever follows an operand. -/
def trailers (lineMode : Bool) : Phrase := (sameLine lineMode Q.forget.trailer)∗

/-- What may follow the type of an object creation without being taken for a part of it, or for the
arguments of the creation. -/
def apart : Bool → Phrase
  | true => Q.forget.block
  | false => punct dot * name + Q.forget.typeArgs + Q.forget.block

/-- What an object creation may be after its keyword, with what follows it. -/
def created (lineMode : Bool) : Phrase :=
  Q.forget .type * (sameLine lineMode Q.forget.args * Q.trailers lineMode) +
  (Q (.type true) * opt (sameLine lineMode (Q.apart true) * Q.trailers lineMode) +
  Q (.type false) * opt (sameLine lineMode (Q.apart false) * Q.trailers lineMode))

/-- An operand with what follows it. -/
def operand (lineMode : Bool) : Phrase :=
  Q.forget.simple * Q.trailers lineMode + word "new".toList * Q.created lineMode

/-- Operands with operators between them. -/
def operation (lineMode : Bool) : Phrase := Phrases.operation lineMode (Q.operand lineMode)

/-- A conditional without `else`. -/
def short (lineMode : Bool) : Phrase :=
  word "if".toList * (Q.forget.condition * Q.forget (.expr lineMode))

/-- What may come before an expression that ends the whole: `if (c) e else`, `while (c)`, `x =>` or
`e =`. -/
def lead (lineMode : Bool) : Phrase :=
  word "if".toList * (Q.forget.condition * (Q (.expr lineMode false) * word "else".toList)) +
  (word "while".toList * Q.forget.condition + (name * punct arrow +
    Q.operation lineMode * sameLine lineMode (punct equals)))

/-- What is apart from a type follows an operand like anything else. -/
theorem opt_apart_le {lineMode : Bool} (bare : Bool) :
    opt (sameLine lineMode (Q.apart bare) * Q.trailers lineMode) ≤
      Q.trailers lineMode := by
  have hapart : Q.apart bare ≤ Q.forget.trailer := by
    cases bare with
    | true => exact le_add_self
    | false =>
      show punct dot * name + Q.forget.typeArgs + Q.forget.block ≤
        punct dot * name + Q.forget.args + Q.forget.typeArgs + Q.forget.block
      gcongr
      exact le_self_add
  -- what stands apart is one trailer more
  refine add_le one_le_kstar ?_
  exact (mul_le_mul' (sameLine_mono lineMode hapart) le_rfl).trans mul_kstar_le_kstar

/-! ### The least solution -/

/-- The right-hand sides of the equations. -/
def body : Shape → Phrase
  | .type bare => Q.plainType bare + Q.typeLead * Q (.type bare)
  | .expr lineMode true => Q.short lineMode + Q.lead lineMode * Q (.expr lineMode true)
  | .expr lineMode false => Q.operation lineMode + Q.lead lineMode * Q (.expr lineMode false)

variable {Q} {R : Shapes}

/-- More phrases of a shape are more phrases of its construct. -/
theorem forget_mono (h : Q ≤ R) : Q.forget ≤ R.forget := by
  intro c
  cases c with
  | type => exact add_le_add (h _) (h _)
  | expr lineMode => exact add_le_add (h _) (h _)

/-- What may stand apart grows with the shapes. -/
theorem apart_mono (h : Q ≤ R) (bare : Bool) : Q.apart bare ≤ R.apart bare := by
  have hf := forget_mono h
  cases bare
  · show punct dot * name + Q.forget.typeArgs + Q.forget.block ≤
      punct dot * name + R.forget.typeArgs + R.forget.block
    gcongr
  · exact Phrases.block_mono hf

/-- Operations grow with the shapes. -/
theorem operation_mono (h : Q ≤ R) (lineMode : Bool) :
    Q.operation lineMode ≤ R.operation lineMode := by
  have hf := forget_mono h
  have ht := hf .type
  have ht₁ := h (.type true)
  have ht₂ := h (.type false)
  have ha₁ := apart_mono h true
  have ha₂ := apart_mono h false
  -- every phrase that the definition is made of grows
  unfold operation operand created trailers
  gcongr

/-- What leads to another expression grows with the shapes. -/
theorem lead_mono (h : Q ≤ R) (lineMode : Bool) : Q.lead lineMode ≤ R.lead lineMode := by
  have hf := forget_mono h
  have he := h (.expr lineMode false)
  have ho := operation_mono h lineMode
  unfold lead
  gcongr

/-- What leads to another type grows with the shapes. -/
theorem typeLead_mono (h : Q ≤ R) : Q.typeLead ≤ R.typeLead := by
  have hf := forget_mono h
  unfold typeLead
  gcongr

/-- Short expressions grow with the shapes. -/
theorem short_mono (h : Q ≤ R) (lineMode : Bool) : Q.short lineMode ≤ R.short lineMode := by
  have hf := forget_mono h
  have he := hf (.expr lineMode)
  unfold short
  gcongr

/-- All shapes together grow with the shapes that they are made of, so there is a least solution. -/
theorem body_mono : Monotone body := by
  intro Q R h shape
  have hf := forget_mono h
  -- a type is a plain one or has a lead, and so is an expression
  match shape with
  | .type bare =>
    have ht := h (.type bare)
    have hp : Q.plainType bare ≤ R.plainType bare := by
      cases bare
      · exact mul_le_mul' le_rfl (Phrases.typeArgs_mono hf)
      · exact le_rfl
    exact add_le_add hp (mul_le_mul' (typeLead_mono h) ht)
  | .expr lineMode true =>
    exact add_le_add (short_mono h _) (mul_le_mul' (lead_mono h _) (h _))
  | .expr lineMode false =>
    exact add_le_add (operation_mono h _) (mul_le_mul' (lead_mono h _) (h _))

end Shapes

/-- The phrases that leave no choice: the least solution of their equations. -/
def greedy : Shapes := OrderHom.lfp ⟨Shapes.body, Shapes.body_mono⟩

/-- The greedy shapes are made of themselves. -/
theorem body_greedy : greedy.body = greedy :=
  OrderHom.map_lfp ⟨Shapes.body, Shapes.body_mono⟩

/-- The least solution is below every shape-wise bound that the equations preserve. -/
theorem greedy_le {Q : Shapes} (h : Q.body ≤ Q) : greedy ≤ Q :=
  OrderHom.lfp_le ⟨Shapes.body, Shapes.body_mono⟩ h

/-! ### Taking up what follows -/

namespace Phrase

/-- The rows that are in `L` with anything from `M` after them. -/
def before (M L : Phrase) : Phrase := {u | ∀ v ∈ M, u ++ v ∈ L}

/-- What may stand before a phrase makes one with it. -/
theorem before_mul_le (M L : Phrase) : before M L * M ≤ L := by
  rintro w ⟨u, hu, v, hv, rfl⟩
  exact hu v hv

/-- The phrases that may stand before others are the greatest ones that do. -/
theorem le_before_iff {K L M : Phrase} : K ≤ before M L ↔ K * M ≤ L := by
  constructor
  · intro h
    exact (mul_le_mul' h le_rfl).trans (before_mul_le M L)
  · intro h u hu v hv
    exact h (Language.append_mem_mul hu hv)

/-- What is optional is either left out or there. -/
theorem mul_opt (L M : Phrase) : L * opt M = L + L * M := by
  rw [opt, mul_add, mul_one]

/-- A line break decides about alternatives one by one. -/
theorem sameLine_add (lineMode : Bool) (L M : Phrase) :
    sameLine lineMode (L + M) = sameLine lineMode L + sameLine lineMode M := by
  ext u
  simp only [sameLine, Language.mem_add]
  exact or_and_right

end Phrase

open Phrase

/-- The phrases that leave no choice, but of one shape only those in `L`. -/
def greedyWithin (shape : Shape) (L : Phrase) : Shapes :=
  Function.update greedy shape (greedy shape ⊓ L)

/-- The shapes are greedy, with one of them cut down. -/
theorem greedyWithin_le (shape : Shape) (L : Phrase) : greedyWithin shape L ≤ greedy :=
  update_le_self_iff.2 inf_le_left

/-- The shape that is cut down keeps what lies within the language. -/
theorem greedyWithin_self (shape : Shape) (L : Phrase) :
    greedyWithin shape L shape = greedy shape ⊓ L :=
  Function.update_self shape _ _

/-- To show that the phrases of one shape are in `L`, it may be assumed of those inside them. -/
theorem greedy_induction (shape : Shape) {L : Phrase}
    (h : (greedyWithin shape L).body shape ≤ L) : greedy shape ≤ L := by
  have hbody := (Shapes.body_mono (greedyWithin_le shape L)).trans body_greedy.le
  -- the cut shapes are closed under what shapes are made of, so the least ones lie within
  have hall : greedy ≤ greedyWithin shape L := by
    refine greedy_le fun other => ?_
    by_cases ho : other = shape
    · subst ho
      rw [greedyWithin_self]
      exact le_inf (hbody other) h
    · rw [greedyWithin, Function.update_of_ne ho]
      exact hbody other
  have hshape := hall shape
  rw [greedyWithin_self] at hshape
  exact hshape.trans inf_le_right

/-- What leads to a type makes a type with it. -/
theorem typeLead_mul_le (bare : Bool) :
    greedy.typeLead * greedy (.type bare) ≤ greedy (.type bare) := by
  conv_rhs => rw [← body_greedy]
  exact le_add_self

/-- A plain type is a type. -/
theorem plainType_le (bare : Bool) : greedy.plainType bare ≤ greedy (.type bare) := by
  conv_rhs => rw [← body_greedy]
  exact le_self_add

/-- A short expression is an expression. -/
theorem short_le (lineMode : Bool) : greedy.short lineMode ≤ greedy (.expr lineMode true) := by
  conv_rhs => rw [← body_greedy]
  exact le_self_add

/-- An operation is an expression. -/
theorem operation_le (lineMode : Bool) :
    greedy.operation lineMode ≤ greedy (.expr lineMode false) := by
  conv_rhs => rw [← body_greedy]
  exact le_self_add

/-- What leads to an expression makes one with it, short or not. -/
theorem lead_mul_le (lineMode : Bool) :
    greedy.lead lineMode * greedy.forget (.expr lineMode) ≤ greedy.forget (.expr lineMode) := by
  have hmul (short : Bool) :
      greedy.lead lineMode * greedy (.expr lineMode short) ≤ greedy (.expr lineMode short) := by
    conv_rhs => rw [← body_greedy]
    cases short <;> exact le_add_self
  calc greedy.lead lineMode * greedy.forget (.expr lineMode)
      = greedy.lead lineMode * greedy (.expr lineMode true) +
        greedy.lead lineMode * greedy (.expr lineMode false) := mul_add _ _ _
    _ ≤ greedy.forget (.expr lineMode) := add_le_add (hmul true) (hmul false)

/-- A type that ends in a bare path takes up what continues a path. -/
theorem bare_mul_le {X : Phrase} {bare : Bool} (h : Phrases.path * X ≤ greedy (.type bare)) :
    greedy (.type true) * X ≤ greedy (.type bare) := by
  rw [← le_before_iff]
  refine greedy_induction (.type true) (le_before_iff.2 ?_)
  have hlead := Shapes.typeLead_mono (greedyWithin_le (.type true) (before X (greedy (.type bare))))
  have hself : greedyWithin (.type true) (before X (greedy (.type bare))) (.type true) * X ≤
      greedy (.type bare) := by
    rw [greedyWithin_self, ← le_before_iff]
    exact inf_le_right
  set Q := greedyWithin (.type true) (before X (greedy (.type bare)))
  -- `X` comes after the path itself, or after the type behind an arrow
  calc Q.body (.type true) * X
      = Phrases.path * X + Q.typeLead * (Q (.type true) * X) := by
        have hbody : Q.body (.type true) = Phrases.path + Q.typeLead * Q (.type true) := rfl
        rw [hbody, add_mul, mul_assoc]
    _ ≤ greedy (.type bare) + greedy.typeLead * greedy (.type bare) :=
        add_le_add h (mul_le_mul' hlead hself)
    _ ≤ greedy (.type bare) := add_le le_rfl (typeLead_mul_le bare)

/-- A conditional without `else` at the end of an expression takes up an `else` after it. -/
theorem conditional_else_le (lineMode : Bool) :
    greedy (.expr lineMode true) * (word "else".toList * greedy.forget (.expr lineMode)) ≤
      greedy.forget (.expr lineMode) := by
  rw [← le_before_iff]
  refine greedy_induction (.expr lineMode true) (le_before_iff.2 ?_)
  set B := greedy.forget (.expr lineMode)
  set X := word "else".toList * B with hX
  have hle := greedyWithin_le (.expr lineMode true) (before X B)
  -- of the expressions inside it is assumed that the `else` may follow
  have hself : greedyWithin (.expr lineMode true) (before X B) (.expr lineMode true) * X ≤ B := by
    rw [greedyWithin_self, ← le_before_iff]
    exact inf_le_right
  set Q := greedyWithin (.expr lineMode true) (before X B)
  -- The conditional itself takes up the `else`, or the one at the end of its expression does.
  have hshort : Q.short lineMode * X ≤ B := by
    have hcondition := Phrases.condition_mono (Shapes.forget_mono hle)
    have hlast := hle (.expr lineMode false)
    calc Q.short lineMode * X
        = word "if".toList * (Q.forget.condition * (Q (.expr lineMode true) * X)) +
          word "if".toList *
            (Q.forget.condition * (Q (.expr lineMode false) * word "else".toList)) * B := by
          have hforget : Q.forget (.expr lineMode) =
            Q (.expr lineMode true) + Q (.expr lineMode false) := rfl
          rw [Shapes.short, hforget, hX]
          simp only [mul_assoc, add_mul, mul_add]
      _ ≤ greedy.short lineMode + greedy.lead lineMode * B := by
          refine add_le_add ?_ ?_
          · exact mul_le_mul' le_rfl (mul_le_mul' hcondition hself)
          · refine mul_le_mul' ?_ le_rfl
            exact le_trans (mul_le_mul' le_rfl (mul_le_mul' hcondition (mul_le_mul' hlast le_rfl)))
              le_self_add
      _ ≤ B := add_le ((short_le lineMode).trans le_self_add) (lead_mul_le lineMode)
  -- a conditional without `else` is short itself, or it has one at its end
  calc Q.body (.expr lineMode true) * X
      = Q.short lineMode * X + Q.lead lineMode * (Q (.expr lineMode true) * X) := by
        have hbody : Q.body (.expr lineMode true) =
          Q.short lineMode + Q.lead lineMode * Q (.expr lineMode true) := rfl
        rw [hbody, add_mul, mul_assoc]
    _ ≤ B + greedy.lead lineMode * B :=
        add_le_add hshort (mul_le_mul' (Shapes.lead_mono hle lineMode) hself)
    _ ≤ B := add_le le_rfl (lead_mul_le lineMode)

/-! ### Every phrase has a shape -/

/-- A path goes on with one more name. -/
theorem path_mul_name_le : Phrases.path * (punct dot * name) ≤ Phrases.path := by
  rw [Phrases.path, mul_assoc]
  exact mul_le_mul' le_rfl kstar_mul_le_kstar

/-- Whatever the grammar takes for a type has a greedy shape. -/
theorem typeBody_le : greedy.forget.typeBody ≤ greedy.forget .type := by
  -- a type after an arrow decides how the whole type ends, so both shapes of it are looked at
  have hlead (head : Phrase) (h : head * punct arrow ≤ greedy.typeLead) :
      head * (punct arrow * greedy.forget .type) ≤ greedy.forget .type := by
    calc head * (punct arrow * greedy.forget .type)
        = head * punct arrow * greedy (.type true) + head * punct arrow * greedy (.type false) := by
          rw [← mul_assoc]
          exact mul_add _ _ _
      _ ≤ greedy.forget .type :=
          add_le_add ((mul_le_mul' h le_rfl).trans (typeLead_mul_le true))
            ((mul_le_mul' h le_rfl).trans (typeLead_mul_le false))
  have hplain : Phrases.path * opt greedy.forget.typeArgs ≤ greedy.forget .type := by
    rw [mul_opt]
    exact add_le_add (plainType_le true) (plainType_le false)
  rw [Phrases.typeBody, mul_opt, mul_assoc greedy.forget.domain]
  refine add_le (add_le hplain (hlead _ ?_)) (hlead _ ?_)
  · exact mul_le_mul' le_self_add le_rfl
  · exact mul_le_mul' le_add_self le_rfl

section Operands

variable (lineMode : Bool)

/-- A type with arguments creates an object. -/
theorem created_args_le : greedy.forget .type *
    (sameLine lineMode greedy.forget.args * greedy.trailers lineMode) ≤ greedy.created lineMode :=
  le_self_add

/-- A type creates an object with what stands apart and with trailers. -/
theorem created_apart_le (bare : Bool) : greedy (.type bare) *
    opt (sameLine lineMode (greedy.apart bare) * greedy.trailers lineMode) ≤
      greedy.created lineMode := by
  cases bare
  · exact le_add_self.trans le_add_self
  · exact le_self_add.trans le_add_self

/-- A type alone creates an object. -/
theorem created_bare_le (bare : Bool) : greedy (.type bare) ≤ greedy.created lineMode := by
  refine le_trans ?_ (created_apart_le lineMode bare)
  rw [mul_opt]
  exact le_self_add

/-- A type of either shape is a type. -/
theorem type_le (bare : Bool) : greedy (.type bare) ≤ greedy.forget .type := by
  cases bare
  · exact le_add_self
  · exact le_self_add

/-- A type with something after it that may follow an operand. -/
theorem type_mul_trailer_le (bare : Bool) :
    greedy (.type bare) * sameLine lineMode greedy.forget.trailer ≤ greedy.created lineMode := by
  have hargs : greedy (.type bare) * sameLine lineMode greedy.forget.args ≤
      greedy.created lineMode := by
    refine le_trans (mul_le_mul' (type_le bare) ?_) (created_args_le lineMode)
    exact le_mul_of_one_le_right' one_le_kstar
  have hapart {L : Phrase} (h : L ≤ greedy.apart bare) :
      greedy (.type bare) * sameLine lineMode L ≤ greedy.created lineMode := by
    refine le_trans (mul_le_mul' le_rfl ?_) (created_apart_le lineMode bare)
    calc sameLine lineMode L ≤ sameLine lineMode (greedy.apart bare) := sameLine_mono lineMode h
      _ ≤ sameLine lineMode (greedy.apart bare) * greedy.trailers lineMode :=
          le_mul_of_one_le_right' one_le_kstar
      _ ≤ opt (sameLine lineMode (greedy.apart bare) * greedy.trailers lineMode) := le_add_self
  -- a trailer is a member, arguments, type arguments or a block
  rw [Phrases.trailer, sameLine_add, sameLine_add, sameLine_add, mul_add, mul_add, mul_add]
  cases bare with
  | false =>
    exact add_le (add_le (add_le (hapart (le_self_add.trans le_self_add)) hargs)
      (hapart (le_add_self.trans le_self_add))) (hapart le_add_self)
  | true =>
    -- a bare path takes up a member name or type arguments as a part of itself
    have hname : Phrases.path * (punct dot * name) ≤ greedy (.type true) :=
      path_mul_name_le.trans (plainType_le true)
    have hmember : greedy (.type true) * sameLine lineMode (punct dot * name) ≤
        greedy.created lineMode :=
      le_trans (mul_le_mul' le_rfl (sameLine_le _ _))
        ((bare_mul_le hname).trans (created_bare_le lineMode true))
    have htypeArgs : greedy (.type true) * sameLine lineMode greedy.forget.typeArgs ≤
        greedy.created lineMode :=
      le_trans (mul_le_mul' le_rfl (sameLine_le _ _))
        ((bare_mul_le (plainType_le false)).trans (created_bare_le lineMode false))
    exact add_le (add_le (add_le hmember hargs) htypeArgs) (hapart le_rfl)

/-- What follows an object creation belongs to it in one of the ways that leave no choice. -/
theorem created_mul_trailer_le :
    greedy.created lineMode * sameLine lineMode greedy.forget.trailer ≤
      greedy.created lineMode := by
  -- behind other trailers, a trailer is one more of them
  have htrailers : greedy.trailers lineMode * sameLine lineMode greedy.forget.trailer ≤
      greedy.trailers lineMode := kstar_mul_le_kstar
  have happart (bare : Bool) : greedy (.type bare) *
      opt (sameLine lineMode (greedy.apart bare) * greedy.trailers lineMode) *
        sameLine lineMode greedy.forget.trailer ≤ greedy.created lineMode := by
    rw [mul_opt, add_mul]
    refine add_le (type_mul_trailer_le lineMode bare) (le_trans ?_ (created_apart_le lineMode bare))
    rw [mul_assoc, mul_assoc]
    exact mul_le_mul' le_rfl ((mul_le_mul' le_rfl htrailers).trans le_add_self)
  conv_lhs => rw [Shapes.created, add_mul, add_mul]
  refine add_le (le_trans ?_ (created_args_le lineMode)) (add_le (happart true) (happart false))
  rw [mul_assoc, mul_assoc]
  exact mul_le_mul' le_rfl (mul_le_mul' le_rfl htrailers)

/-- Whatever the grammar takes for an operand has a greedy shape. -/
theorem operand_le : greedy.forget.operand lineMode ≤ greedy.operand lineMode := by
  have htypes : greedy.forget .type ≤ greedy.created lineMode :=
    add_le (created_bare_le lineMode true) (created_bare_le lineMode false)
  have hargs : greedy.forget .type * sameLine lineMode greedy.forget.args ≤
      greedy.created lineMode := by
    refine le_trans (mul_le_mul' le_rfl ?_) (created_args_le lineMode)
    exact le_mul_of_one_le_right' one_le_kstar
  -- trailers may go on with the type or the arguments, and all of that is what has been created
  have hcreation : greedy.forget .type * opt (sameLine lineMode greedy.forget.args) *
      (sameLine lineMode greedy.forget.trailer)∗ ≤ greedy.created lineMode := by
    refine mul_kstar_le ?_ (created_mul_trailer_le lineMode)
    rw [mul_opt]
    exact add_le htypes hargs
  rw [Phrases.operand, Phrases.creation, add_mul, mul_assoc, mul_assoc (word _)]
  refine add_le_add le_rfl (mul_le_mul' le_rfl ?_)
  rw [← mul_assoc]
  exact hcreation

/-- A conditional, with an `else` that belongs to any conditional before it. -/
theorem conditional_le : word "if".toList * greedy.forget.condition *
    greedy.forget (.expr lineMode) * opt (word "else".toList * greedy.forget (.expr lineMode)) ≤
      greedy.forget (.expr lineMode) := by
  set B := greedy.forget (.expr lineMode)
  set K := greedy.forget.condition
  have hshort : word "if".toList * (K * B) ≤ B := (short_le lineMode).trans le_self_add
  -- the `else` belongs to a conditional at the end of the first branch, or to this one
  have htaken : word "if".toList * (K * (greedy (.expr lineMode true) * (word "else".toList * B))) ≤
      B :=
    le_trans (mul_le_mul' le_rfl (mul_le_mul' le_rfl (conditional_else_le lineMode))) hshort
  have hown : word "if".toList * (K * (greedy (.expr lineMode false) * word "else".toList)) * B ≤
      B :=
    le_trans (mul_le_mul' le_self_add le_rfl) (lead_mul_le lineMode)
  have hforget : B = greedy (.expr lineMode true) + greedy (.expr lineMode false) := rfl
  rw [mul_opt, mul_assoc, mul_assoc, mul_assoc]
  refine add_le hshort ?_
  calc word "if".toList * (K * (B * (word "else".toList * B)))
      = word "if".toList * (K * (greedy (.expr lineMode true) * (word "else".toList * B))) +
        word "if".toList * (K * (greedy (.expr lineMode false) * word "else".toList)) * B := by
        conv_lhs => enter [2, 2, 1]; rw [hforget]
        simp only [add_mul, mul_add, mul_assoc]
    _ ≤ B := add_le htaken hown

/-- Whatever the grammar takes for an expression has a greedy shape. -/
theorem exprBody_le : greedy.forget.exprBody lineMode ≤ greedy.forget (.expr lineMode) := by
  have hlead {L : Phrase} (h : L ≤ greedy.lead lineMode) :
      L * greedy.forget (.expr lineMode) ≤ greedy.forget (.expr lineMode) :=
    (mul_le_mul' h le_rfl).trans (lead_mul_le lineMode)
  have hoperation : Phrases.operation lineMode (greedy.forget.operand lineMode) ≤
      greedy.operation lineMode := Phrases.operation_mono lineMode (operand_le lineMode)
  -- a condition, a function, an assignment, and an operation with or without a right side
  refine add_le (add_le (add_le (conditional_le lineMode) (hlead ?_)) (hlead ?_)) ?_
  · exact le_self_add.trans le_add_self
  · exact le_self_add.trans (le_add_self.trans le_add_self)
  · rw [mul_opt, ← mul_assoc]
    refine add_le (hoperation.trans ((operation_le lineMode).trans le_add_self)) (hlead ?_)
    exact (mul_le_mul' hoperation le_rfl).trans (le_add_self.trans (le_add_self.trans le_add_self))

end Operands

/-- Every phrase of the grammar has a shape. -/
theorem grammar_le_forget : grammar ≤ greedy.forget := by
  refine grammar_le fun c => ?_
  cases c with
  | type => exact typeBody_le
  | expr lineMode => exact exprBody_le lineMode

/-! ### Every shape is one of phrases -/

namespace Phrase

/-- What is optional may be left out. -/
theorem one_le_opt (L : Phrase) : 1 ≤ opt L := le_self_add

/-- What is optional may be there. -/
theorem le_opt (L : Phrase) : L ≤ opt L := le_add_self

end Phrase

/-- The phrases of the grammar, whatever the shape. -/
def unshaped : Shapes
  | .type _ => grammar .type
  | .expr lineMode _ => grammar (.expr lineMode)

/-- Without their shapes these are the phrases of the grammar. -/
theorem forget_unshaped : unshaped.forget = grammar := by
  funext c
  cases c <;> exact add_idem _

/-- A greedy type is a type of the grammar. -/
theorem unshaped_type_le (bare : Bool) : unshaped.body (.type bare) ≤ grammar.typeBody := by
  set T := grammar .type
  have hplain : unshaped.plainType bare ≤
      Phrases.path * (opt grammar.typeArgs * opt (punct arrow * T)) := by
    cases bare with
    | true =>
      exact le_mul_of_one_le_right' (one_le_mul (one_le_opt _) (one_le_opt _))
    | false =>
      rw [Shapes.plainType, forget_unshaped]
      exact mul_le_mul' le_rfl ((le_opt _).trans (le_mul_of_one_le_right' (one_le_opt _)))
  -- a lead is a path or a domain with an arrow behind it
  have hlead : unshaped.typeLead * T = Phrases.path * (opt grammar.typeArgs * (punct arrow * T)) +
      grammar.domain * (punct arrow * T) := by
    rw [Shapes.typeLead, forget_unshaped]
    simp only [add_mul, mul_assoc]
  calc unshaped.body (.type bare) = unshaped.plainType bare + unshaped.typeLead * T := rfl
    _ ≤ Phrases.path * (opt grammar.typeArgs * opt (punct arrow * T)) +
        grammar.domain * (punct arrow * T) := by
      rw [hlead]
      refine add_le (hplain.trans le_self_add) (add_le_add ?_ le_rfl)
      exact mul_le_mul' le_rfl (mul_le_mul' le_rfl (le_opt _))
    _ = grammar.typeBody := by rw [Phrases.typeBody, mul_assoc, mul_assoc]

/-- A greedy operand is an operand of the grammar. -/
theorem unshaped_operand_le (lineMode : Bool) :
    unshaped.operand lineMode ≤ grammar.operand lineMode := by
  -- arguments and other trailers behind a created type go on with it in the wider grammar as well
  set T := grammar .type
  set K := (sameLine lineMode grammar.trailer)∗ with hK
  set A := sameLine lineMode grammar.args
  have htrailers : unshaped.trailers lineMode = K := by rw [Shapes.trailers, forget_unshaped]
  have happart (bare : Bool) : T * opt (sameLine lineMode (unshaped.apart bare) * K) ≤
      T * (opt A * K) := by
    refine mul_le_mul' le_rfl (le_trans ?_ (le_mul_of_one_le_left' (one_le_opt A)))
    rw [← htrailers]
    exact Shapes.opt_apart_le unshaped bare
  have hcreated : unshaped.created lineMode ≤ T * (opt A * K) := by
    rw [Shapes.created, forget_unshaped, htrailers]
    refine add_le ?_ (add_le (happart true) (happart false))
    exact mul_le_mul' le_rfl (mul_le_mul' (le_opt A) le_rfl)
  calc unshaped.operand lineMode
      = grammar.simple * K + word "new".toList * unshaped.created lineMode := by
        rw [Shapes.operand, forget_unshaped, htrailers]
    _ ≤ grammar.simple * K + word "new".toList * (T * (opt A * K)) :=
        add_le_add le_rfl (mul_le_mul' le_rfl hcreated)
    _ = grammar.operand lineMode := by
        rw [Phrases.operand, Phrases.creation, add_mul]
        simp only [mul_assoc]
        rfl

/-- A greedy expression is an expression of the grammar. -/
theorem unshaped_expr_le (lineMode short : Bool) :
    unshaped.body (.expr lineMode short) ≤ grammar.exprBody lineMode := by
  -- where the shape of an expression does not count, one without `else` is like any other
  set E := grammar (.expr lineMode)
  set K := grammar.condition
  set O := Phrases.operation lineMode (grammar.operand lineMode)
  have hoperation : unshaped.operation lineMode ≤ O :=
    Phrases.operation_mono lineMode (unshaped_operand_le lineMode)
  have hshort : unshaped.short lineMode ≤
      word "if".toList * (K * (E * opt (word "else".toList * E))) := by
    rw [Shapes.short, forget_unshaped]
    exact mul_le_mul' le_rfl (mul_le_mul' le_rfl (le_mul_of_one_le_right' (one_le_opt _)))
  have hlead : unshaped.lead lineMode * E ≤
      word "if".toList * (K * (E * opt (word "else".toList * E))) +
        (word "while".toList * (K * E) + (name * (punct arrow * E) +
          O * opt (sameLine lineMode (punct equals) * E))) := by
    rw [Shapes.lead, forget_unshaped]
    simp only [add_mul, mul_assoc]
    refine add_le_add (mul_le_mul' le_rfl (mul_le_mul' le_rfl (mul_le_mul' le_rfl (le_opt _))))
      (add_le_add le_rfl (add_le_add le_rfl (mul_le_mul' hoperation (le_opt _))))
  have hbody : grammar.exprBody lineMode =
      word "if".toList * (K * (E * opt (word "else".toList * E))) +
        (word "while".toList * (K * E) + (name * (punct arrow * E) +
          O * opt (sameLine lineMode (punct equals) * E))) := by
    simp only [Phrases.exprBody, mul_assoc, add_assoc]
    rfl
  -- the long form has everything that the short one has
  rw [hbody]
  cases short with
  | true => exact add_le (hshort.trans le_self_add) hlead
  | false =>
    refine add_le (le_trans ?_ (le_add_self.trans (le_add_self.trans le_add_self))) hlead
    exact hoperation.trans (le_mul_of_one_le_right' (one_le_opt _))

/-- Every phrase that leaves no choice is one of the grammar. -/
theorem forget_le_grammar : greedy.forget ≤ grammar := by
  have hle : greedy ≤ unshaped := greedy_le fun shape => by
    cases shape with
    | type bare =>
      exact (unshaped_type_le bare).trans (congrFun body_grammar .type).le
    | expr lineMode short =>
      exact (unshaped_expr_le lineMode short).trans (congrFun body_grammar (.expr lineMode)).le
  exact (Shapes.forget_mono hle).trans forget_unshaped.le

end StatementReader
