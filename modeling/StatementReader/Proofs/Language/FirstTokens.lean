import StatementReader.Proofs.Language.Greedy

/-!
# First tokens

What a rule asks before it goes on is answered by the next token. `Phrase.Begins` says what the
first token of a phrase may be, and `Next` what may come after one. The sets of tokens of this
module are those that the rules of the grammar are about: what an expression may begin with, what a
type or an expression of some shape may stand before.
-/

namespace StatementReader

open Rule Computability

namespace Token

theorem isMark_iff {t : Token} {mark : Text} : t.isMark mark ↔ t.kind = .punct ∧ t.text = mark := by
  simp [isMark]

theorem isKeyword_iff {t : Token} {word : Text} :
    t.isKeyword word ↔ t.kind = .keyword ∧ t.text = word := by
  simp [isKeyword]

/-- What a type begins with. -/
def startsType (t : Token) : Bool := t.kind == .ident || t.isMark openParen

/-- The words that an expression may begin with. -/
def expressionWords : List Text := ["if", "while", "this", "super", "new"].map String.toList

/-- The words that any other statement begins with. -/
def definitionWords : List Text := ["val", "var", "def", "import"].map String.toList

/-- What an expression begins with. -/
def startsExpr (t : Token) : Bool :=
  t.kind.isLiteral || t.kind == .ident || t.kind == .op ||
    (t.kind == .keyword && expressionWords.contains t.text) ||
    (t.kind == .punct && [openParen, openBrace].contains t.text)

/-- What a statement begins with. -/
def startsStatement (t : Token) : Bool :=
  t.startsExpr || (t.kind == .keyword && definitionWords.contains t.text)

/-- What a type may stand before, so that it does not go on: one that ends in a bare path or not. -/
def endsType (bare : Bool) (t : Token) : Bool :=
  !t.isMark arrow && (!bare || (!t.isMark dot && !t.isMark openBracket))

/-- What an operand may stand before, so that it does not go on. -/
def endsOperand (lineMode : Bool) (t : Token) : Bool :=
  t.endsType true &&
    ((lineMode && t.afterBreak) || (!t.isMark openParen && !t.isMark openBrace))

/-- What operands with operators between them may stand before. -/
def endsOperation (lineMode : Bool) (t : Token) : Bool :=
  t.endsOperand lineMode && ((lineMode && t.afterBreak) || !(t.kind == .op || t.kind == .ident))

/-- What an expression may stand before, so that it does not go on: one that ends in a conditional
without `else` or not. -/
def endsExpr (lineMode short : Bool) (t : Token) : Bool :=
  t.endsOperation lineMode && ((lineMode && t.afterBreak) || !t.isMark equals) &&
    (!short || !t.isKeyword "else".toList)

/-- What a statement may stand before: a semicolon, the end of its block, or the next statement on a
line of its own. -/
def endsStatement (t : Token) : Bool :=
  t.isMark semicolon || t.isMark closeBrace || (t.afterBreak && t.startsStatement)

section

variable {t : Token} {mark mark' : Text} {lineMode bare short : Bool}

/-- A token is no more than one mark. -/
theorem isMark_of_isMark (h : t.isMark mark) : t.isMark mark' = (mark == mark') := by
  obtain ⟨hk, rfl⟩ := isMark_iff.1 h
  simp [isMark, hk]

/-- One mark is no other. -/
theorem isMark_eq_false (h : t.isMark mark) (hne : (mark == mark') = false) :
    t.isMark mark' = false :=
  (isMark_of_isMark h).trans hne

/-- What is no mark is none of them. -/
theorem isMark_of_kind_ne (h : t.kind ≠ .punct) : t.isMark mark = false := by
  simp [isMark, h]

/-- A type ends before every mark but three. -/
theorem endsType_of_isMark (h : t.isMark mark)
    (hm : [arrow, dot, openBracket].contains mark = false) : t.endsType bare := by
  simp only [endsType, isMark_of_isMark h]
  simp only [List.contains_cons, List.contains_nil, Bool.or_false, Bool.or_eq_false_iff] at hm
  simp [hm]

/-- A type ends before whatever is no mark. -/
theorem endsType_of_kind_ne (h : t.kind ≠ .punct) : t.endsType bare := by
  simp [endsType, isMark_of_kind_ne h]

/-- Behind a whole type stands no arrow. -/
theorem isMark_arrow_of_endsType (h : t.endsType bare) : t.isMark arrow = false := by
  simpa using (Bool.and_eq_true_iff.1 h).1

/-- Behind a bare type stands neither a point nor a bracket. -/
theorem isMark_of_endsType (h : t.endsType true) :
    t.isMark dot = false ∧ t.isMark openBracket = false := by
  simpa using (Bool.and_eq_true_iff.1 h).2

/-- The marks that an expression may go on with. -/
def continuing : List Text := [arrow, dot, openBracket, openParen, openBrace, equals]

/-- Any other mark ends an expression. -/
theorem endsExpr_of_isMark (h : t.isMark mark) (hm : continuing.contains mark = false) :
    t.endsExpr lineMode short := by
  obtain ⟨hk, rfl⟩ := isMark_iff.1 h
  simp only [continuing, List.contains_cons, List.contains_nil, Bool.or_false,
    Bool.or_eq_false_iff] at hm
  simp [endsExpr, endsOperation, endsOperand, endsType, isMark, isKeyword, hk, hm]

end

end Token

/-- The next token, if there is one, is so. -/
def Next (p : Token → Bool) (r : List Token) : Prop := ∀ t ∈ r.head?, p t

/-- What follows passes a weaker test, too. -/
theorem Next.imp {p q : Token → Bool} {r : List Token} (h : Next p r) (hpq : ∀ t, p t → q t) :
    Next q r :=
  fun t ht => hpq t (h t ht)

/-- A question that no such token answers in the affirmative. -/
theorem Next.any_head? {p q : Token → Bool} {r : List Token} (h : Next p r)
    (hpq : ∀ t, p t → q t = false) : r.head?.any q = false := by
  cases r with
  | nil => rfl
  | cons t r => exact hpq t (h t rfl)

/-- What is there and passes a test passes a weaker one. -/
theorem next_of_any_head? {p q : Token → Bool} {r : List Token} (h : r.head?.any q)
    (hqp : ∀ t, q t → p t) : Next p r := by
  intro t ht
  rw [Option.mem_def.1 ht] at h
  exact hqp t h

theorem next_cons {p : Token → Bool} {t : Token} {r : List Token} : Next p (t :: r) ↔ p t := by
  simp [Next]

namespace Phrase

/-- Every row of the phrase has a first token, and it is so. -/
def Begins (p : Token → Bool) (L : Phrase) : Prop := ∀ u ∈ L, ∃ t v, u = t :: v ∧ p t

variable {p q : Token → Bool} {L M : Phrase}

/-- A phrase of one token begins with it. -/
theorem begins_one (p : Token → Bool) : (one p).Begins p := by
  rintro u ⟨t, rfl, ht⟩
  exact ⟨t, [], rfl, ht⟩

/-- Phrases that begin with certain tokens begin with any of more tokens. -/
theorem Begins.imp (h : L.Begins p) (hpq : ∀ t, p t → q t) : L.Begins q := by
  intro u hu
  obtain ⟨t, v, rfl, ht⟩ := h u hu
  exact ⟨t, v, rfl, hpq t ht⟩

/-- A phrase that begins with one mark does not begin with another. -/
theorem Begins.not_mark {mark mark' : Text} (h : L.Begins (·.isMark mark))
    (hne : (mark == mark') = false) : L.Begins (!·.isMark mark') :=
  h.imp fun t ht => by simp [Token.isMark_eq_false ht hne]

/-- So do fewer phrases. -/
theorem Begins.mono (h : M.Begins p) (hle : L ≤ M) : L.Begins p := fun u hu => h u (hle hu)

/-- What follows a phrase does not change how it begins. -/
theorem Begins.mul (h : L.Begins p) (M : Phrase) : (L * M).Begins p := by
  rintro w ⟨u, hu, v, hv, rfl⟩
  obtain ⟨t, u', rfl, ht⟩ := h u hu
  exact ⟨t, u' ++ v, rfl, ht⟩

/-- Alternatives begin as one of them does. -/
theorem Begins.add (h₁ : L.Begins p) (h₂ : M.Begins p) : (L + M).Begins p :=
  fun u hu => hu.elim (h₁ u) (h₂ u)

/-- A phrase with an optional one in front begins as either of them does. -/
theorem Begins.opt_mul (h₁ : L.Begins p) (h₂ : M.Begins p) : (opt L * M).Begins p := by
  rw [opt, add_mul, one_mul]
  exact h₂.add (h₁.mul M)

/-- A phrase on the same line begins with a token that no line break precedes. -/
theorem Begins.sameLine (h : L.Begins p) (lineMode : Bool) :
    (Phrase.sameLine lineMode L).Begins fun t => p t && !(t.afterBreak && lineMode) := by
  rintro u ⟨hu, hline⟩
  obtain ⟨t, v, rfl, ht⟩ := h u hu
  refine ⟨t, v, rfl, ?_⟩
  cases lineMode with
  | false => simp [ht]
  | true => simp [ht, hline rfl t rfl]

/-- What follows a phrase begins with the phrase after it, whatever comes then. -/
theorem Begins.next (h : L.Begins p) {u : List Token} (hu : u ∈ L) (r : List Token) :
    Next p (u ++ r) := by
  obtain ⟨t, v, rfl, ht⟩ := h u hu
  exact next_cons.2 ht

/-- A question that the first token answers in the affirmative, or in the negative. -/
theorem Begins.any_head? (h : L.Begins p) {u : List Token} (hu : u ∈ L) (r : List Token) {b : Bool}
    (hpq : ∀ t, p t → q t = b) : (u ++ r).head?.any q = b := by
  obtain ⟨t, v, rfl, ht⟩ := h u hu
  exact hpq t ht

/-- A phrase that begins with a token is not empty. -/
theorem Begins.ne_nil (h : L.Begins p) {u : List Token} (hu : u ∈ L) : u ≠ [] := by
  obtain ⟨t, v, rfl, ht⟩ := h u hu
  exact List.cons_ne_nil t v

/-- What may be missing is followed by what comes after it. -/
theorem next_of_mem_kstar (h : L.Begins p) {u : List Token} (hu : u ∈ L∗) {r : List Token}
    (hr : Next p r) : Next p (u ++ r) := by
  obtain ⟨us, rfl, hus⟩ := hu
  induction us with
  | nil => exact hr
  | cons v us ih =>
    rw [List.flatten_cons, List.append_assoc]
    exact h.next (hus v List.mem_cons_self) _

end Phrase

end StatementReader
