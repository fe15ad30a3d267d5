import StatementReader.Grammar.Split
import StatementReader.Proofs.Lexeme.LineBreak
import StatementReader.Proofs.Rule.Likeness

/-!
# Tokens around a line break

The tokens of a text are its lexemes without the comments, up to a literal or comment that is left
open. What `Proofs/Lexeme/LineBreak.lean` says of lexemes is carried over to them: if nothing is
left open in `a`, the tokens of `a` and of `b` on the next line are those of `a` and then those of
`b`, further on and with a line break before the first of them (`ofText_append_break`). In any case
those of `a` come first (`exists_tokens_append_break`).

The tokens of `b` are read alike in both places, since a further place is a `Likeness`.
-/

namespace StatementReader

open Text

/-- A token that stands `k` bytes further on. -/
def Token.shift (k : Nat) (t : Token) : Token :=
  { t with start := t.start + k, stop := t.stop + k }

namespace TokenRow

/-- A row that comes after other tokens. -/
def after (tokens : List Token) (row : TokenRow) : TokenRow :=
  ⟨tokens ++ row.tokens, row.openLiteral⟩

/-! ### Rows of lexemes -/

theorem ofLexemes_append {ls : List Lexeme} (h : ∀ l ∈ ls, l.unterminated = false)
    (crossed : Bool) : ∃ crossed', ∀ ms, ofLexemes crossed (ls ++ ms) =
      (ofLexemes crossed' ms).after (ofLexemes crossed ls).tokens := by
  induction ls generalizing crossed with
  | nil => exact ⟨crossed, fun ms => rfl⟩
  | cons l ls ih =>
    have hl := h l List.mem_cons_self
    have ih := ih fun l hl => h l (List.mem_cons_of_mem _ hl)
    -- a comment makes no token, and only a line break in it or before it is remembered
    by_cases hk : l.kind = .comment
    · obtain ⟨crossed', ih⟩ := ih (crossed || l.gap.contains '\n' || l.text.contains '\n')
      refine ⟨crossed', fun ms => ?_⟩
      simp only [List.cons_append, ofLexemes, hl, hk, if_true, Bool.false_eq_true, if_false]
      exact ih ms
    · obtain ⟨crossed', ih⟩ := ih false
      refine ⟨crossed', fun ms => ?_⟩
      simp only [List.cons_append, ofLexemes, hl, hk, Bool.false_eq_true, if_false, ih ms]
      rfl

/-- The tokens end where a lexeme is left open. -/
theorem tokens_ofLexemes_takeWhile (crossed : Bool) (ls : List Lexeme) :
    (ofLexemes crossed (ls.takeWhile (!·.unterminated))).tokens =
      (ofLexemes crossed ls).tokens := by
  induction ls generalizing crossed with
  | nil => rfl
  | cons l ls ih =>
    by_cases hl : l.unterminated
    · simp [ofLexemes, hl]
    · rw [List.takeWhile_cons_of_pos (by simp [hl])]
      simp only [ofLexemes, hl, Bool.false_eq_true, if_false]
      split
      · exact ih _
      · simp only [ih]

theorem openLiteral_ofLexemes (crossed : Bool) (ls : List Lexeme) :
    (ofLexemes crossed ls).openLiteral = ls.any (·.unterminated) := by
  induction ls generalizing crossed with
  | nil => rfl
  | cons l ls ih =>
    by_cases hl : l.unterminated
    · simp [ofLexemes, hl]
    · simp only [ofLexemes, hl, Bool.false_eq_true, if_false, List.any_cons, Bool.false_or]
      split <;> exact ih _

theorem ofLexemes_widenGap {gap : Text} (h : '\n' ∈ gap) (crossed : Bool) (ls : List Lexeme) :
    ofLexemes crossed (Lexeme.widenGap gap ls) = ofLexemes true ls := by
  cases ls with
  | nil => rfl
  | cons l ls => simp [Lexeme.widenGap, ofLexemes, Lexeme.stop, h]

theorem ofLexemes_map_shift (k : Nat) (crossed : Bool) (ls : List Lexeme) :
    ofLexemes crossed (ls.map (Lexeme.shift k)) =
      ⟨(ofLexemes crossed ls).tokens.map (Token.shift k), (ofLexemes crossed ls).openLiteral⟩ := by
  induction ls generalizing crossed with
  | nil => rfl
  | cons l ls ih =>
    simp only [List.map_cons, ofLexemes, Lexeme.shift, ih]
    split
    · rfl
    · split
      · rfl
      · simp [Token.shift, Lexeme.stop, Nat.add_right_comm]

/-- The first token comes after a line break that has been met before the row. -/
theorem afterBreak_head? {ls : List Lexeme} {t : Token}
    (h : t ∈ (ofLexemes true ls).tokens.head?) : t.afterBreak := by
  induction ls with
  | nil => simp [ofLexemes] at h
  | cons l ls ih =>
    simp only [ofLexemes, Bool.true_or] at h
    split at h
    · simp at h
    · split at h
      · exact ih h
      · simp only [List.head?_cons, Option.mem_some_iff] at h
        rw [← h]

/-! ### Texts -/

/-- The tokens of a text that stands `k` bytes further on, on a line of its own. -/
def onNewLine (k : Nat) (t : Text) : List Token :=
  (ofLexemes true (Lexeme.scan t)).tokens.map (Token.shift k)

/-- The tokens of a text and of another one on the next line. -/
theorem ofText_append_break {a : Text} (h : (ofText a).openLiteral = false) (b : Text) :
    ofText (a ++ '\n' :: b) =
      ⟨(ofText a).tokens ++ onNewLine (size a + 1) b, (ofText b).openLiteral⟩ := by
  rw [ofText, openLiteral_ofLexemes, List.any_eq_false] at h
  have hclosed (l : Lexeme) (hl : l ∈ Lexeme.scan a) : l.unterminated = false := by
    simpa using h l hl
  obtain ⟨gap, -, -, hscan⟩ := Lexeme.scanFrom_append_break 0 a b hclosed
  obtain ⟨crossed, happend⟩ := ofLexemes_append hclosed false
  rw [ofText, Lexeme.scan, hscan, Nat.zero_add, ← Lexeme.scan_map_shift (size a + 1) b]
  refine (happend _).trans ?_
  rw [ofLexemes_widenGap (List.mem_append_right gap List.mem_cons_self), ofLexemes_map_shift, after,
    onNewLine]
  simp only [ofText, openLiteral_ofLexemes]

/-- The tokens of a text come first if more lines follow it. -/
theorem exists_tokens_append_break (a b : Text) :
    ∃ more, (ofText (a ++ '\n' :: b)).tokens = (ofText a).tokens ++ more := by
  obtain ⟨more, hscan⟩ := Lexeme.exists_scanFrom_append_break 0 a b
  have hclosed : ∀ l ∈ (Lexeme.scan a).takeWhile (!·.unterminated), l.unterminated = false :=
    fun l hl => by simpa using List.mem_takeWhile_imp hl
  obtain ⟨crossed, happend⟩ := ofLexemes_append hclosed false
  refine ⟨(ofLexemes crossed more).tokens, ?_⟩
  have htokens := congrArg tokens (happend more)
  rw [after, tokens_ofLexemes_takeWhile] at htokens
  rw [ofText, Lexeme.scan, hscan]
  exact htokens

/-! ### Places -/

/-- A token stands where some lexeme does. -/
theorem exists_lexeme_of_mem {crossed : Bool} {ls : List Lexeme} {t : Token}
    (h : t ∈ (ofLexemes crossed ls).tokens) : ∃ l ∈ ls, t.start = l.start ∧ t.stop = l.stop := by
  induction ls generalizing crossed with
  | nil => simp [ofLexemes] at h
  | cons l ls ih =>
    -- a lexeme of the rest is one of the row
    have lift : (∃ l ∈ ls, t.start = l.start ∧ t.stop = l.stop) →
        ∃ l' ∈ l :: ls, t.start = l'.start ∧ t.stop = l'.stop :=
      fun ⟨l', hl, heq⟩ => ⟨l', List.mem_cons_of_mem _ hl, heq⟩
    simp only [ofLexemes] at h
    split at h
    · simp at h
    · split at h
      · exact lift (ih h)
      · rcases List.mem_cons.1 h with rfl | h
        · exact ⟨l, List.mem_cons_self, rfl, rfl⟩
        · exact lift (ih h)

/-- A token takes some of its text, and ends within it. -/
theorem bounds_of_mem {a : Text} {t : Token} (h : t ∈ (ofText a).tokens) :
    t.start < t.stop ∧ t.stop ≤ size a := by
  obtain ⟨l, hl, hstart, hstop⟩ := exists_lexeme_of_mem h
  have hb := Lexeme.bounds_of_mem hl
  rw [Nat.zero_add] at hb
  rwa [hstart, hstop]

end TokenRow

/-- Tokens and offsets that stand `k` bytes further on. -/
def Likeness.shift (k : Nat) : Likeness where
  token x y := y.kind = x.kind ∧ y.text = x.text ∧ y.start = x.start + k ∧ y.stop = x.stop + k
  startOffset m n := n = m + k
  stopOffset m n := n = m + k
  kind_eq h := h.1.symm
  text_eq h := h.2.1.symm
  start h := h.2.2.1
  stop h := h.2.2.2

namespace TokenRow

theorem rows_map_shift (k : Nat) (ts : List Token) :
    (Likeness.shift k).Rows 0 ts (ts.map (Token.shift k)) := by
  induction ts with
  | nil => exact .nil
  | cons t ts ih => exact .cons ⟨rfl, rfl, rfl, rfl⟩ (fun _ => rfl) ih

theorem rows_ofLexemes (k : Nat) (crossed crossed' : Bool) (ls : List Lexeme) :
    (Likeness.shift k).Rows 1 (ofLexemes crossed ls).tokens
      ((ofLexemes crossed' ls).tokens.map (Token.shift k)) := by
  induction ls generalizing crossed crossed' with
  | nil => exact .nil
  | cons l ls ih =>
    simp only [ofLexemes]
    split
    · exact .nil
    · split
      · exact ih _ _
      · exact .cons ⟨rfl, rfl, rfl, rfl⟩ (fun h => absurd h Nat.one_ne_zero) (rows_map_shift k _)

/-- The tokens of a text are alike wherever it stands, but for a line break before the first. -/
theorem rows_onNewLine (k : Nat) (t : Text) :
    (Likeness.shift k).Rows 1 (ofText t).tokens (onNewLine k t) :=
  rows_ofLexemes k false true _

end TokenRow
end StatementReader
