import StatementReader.Proofs.Lexeme.OpenEnd
import StatementReader.Proofs.Parse.Finality
import StatementReader.Proofs.Rule.Known

/-!
# An unfinished text with more lines

The line breaks at the end of a text hardly matter. They are blank space, or they belong to a string
or comment that is open there, and nothing in it is read. So the tokens stay the same, and with them
the statements. Only an open character literal has no room for more than one (`TakesBreaks`). When
there are too many, its quote is a token by itself, one that the grammar has no use for, and the
text is turned down for good (`split_append_replicate`).
-/

namespace StatementReader

open Text Lexeme

variable {t : Text} {n : Nat}

/-- So many line breaks may follow a text without an open character literal having to hold more than
one character. -/
def TakesBreaks (n : Nat) (t : Text) : Prop :=
  ∀ l ∈ scan t, l.unterminated → l.kind = .char → n ≤ charRoom l.text

instance (n : Nat) (t : Text) : Decidable (TakesBreaks n t) :=
  inferInstanceAs (Decidable (∀ l ∈ scan t, l.unterminated → l.kind = .char → n ≤ charRoom l.text))

theorem TakesBreaks.mono {m : Nat} (h : TakesBreaks n t) (hm : m ≤ n) : TakesBreaks m t :=
  fun l hl hopen hchar => hm.trans (h l hl hopen hchar)

theorem takesBreaks_of_closed (h : ∀ l ∈ scan t, l.unterminated = false) (n : Nat) :
    TakesBreaks n t := by
  intro l hl hopen
  rw [h l hl] at hopen
  cases hopen

/-- It is the last lexeme that matters, if it is open. -/
theorem takesBreaks_iff {before : List Lexeme} {l : Lexeme} (hscan : scan t = before ++ [l])
    (hbefore : ∀ x ∈ before, x.unterminated = false) (hopen : l.unterminated) :
    TakesBreaks n t ↔ (l.kind = .char → n ≤ charRoom l.text) := by
  rw [TakesBreaks, hscan, List.forall_mem_append, List.forall_mem_singleton]
  constructor
  · exact fun h => h.2 hopen
  · intro h
    refine ⟨fun x hx hopen => ?_, fun _ => h⟩
    rw [hbefore x hx] at hopen
    cases hopen

/-! ### One line break -/

/-- A text that takes a line break keeps its tokens. -/
theorem ofText_concat_break (h : TakesBreaks 1 t) :
    TokenRow.ofText (t ++ ['\n']) = TokenRow.ofText t := by
  cases breakStep t with
  | closed _ hbreak => rw [TokenRow.ofText, hbreak, TokenRow.ofText]
  | taken hscan hbefore hopen _ hbreak =>
    -- the tokens end with what is open, and it does not matter what it holds
    obtain ⟨crossed, happend⟩ := TokenRow.ofLexemes_append hbefore false
    rw [TokenRow.ofText, TokenRow.ofText, hbreak, hscan, happend, happend]
    simp only [TokenRow.ofLexemes, hopen, if_true]
  | stray hscan hbefore hopen hchar hfull =>
    have hroom := (takesBreaks_iff hscan hbefore hopen).1 h hchar
    rw [hfull] at hroom
    exact absurd hroom (by decide)

/-- A text that does not take a line break has a stray quote with it. -/
theorem exists_unknown_of_not_takesBreaks (h : ¬ TakesBreaks 1 t) :
    ∃ x ∈ (TokenRow.ofText (t ++ ['\n'])).tokens, x.kind = .unknown := by
  cases breakStep t with
  | closed hclosed => exact absurd (takesBreaks_of_closed hclosed 1) h
  | taken hscan hbefore hopen hroom =>
    exact absurd ((takesBreaks_iff hscan hbefore hopen).2 hroom) h
  | @stray before rest l quote _ hbefore _ _ _ hbreak hquote hterminated =>
    obtain ⟨crossed, happend⟩ := TokenRow.ofLexemes_append hbefore false
    rw [TokenRow.ofText, hbreak, happend]
    have hkind : quote.kind ≠ .comment := by
      rw [hquote]
      decide
    refine ⟨⟨quote.kind, quote.text, quote.start, quote.stop,
      crossed || quote.gap.contains '\n'⟩, List.mem_append_right _ ?_, hquote⟩
    simp only [TokenRow.ofLexemes, hterminated, hkind, Bool.false_eq_true, if_false]
    exact List.mem_cons_self

theorem takesBreaks_succ_iff (h : TakesBreaks 1 t) (n : Nat) :
    TakesBreaks (n + 1) t ↔ TakesBreaks n (t ++ ['\n']) := by
  cases breakStep t with
  | closed hclosed hbreak =>
    exact iff_of_true (takesBreaks_of_closed hclosed _)
      (takesBreaks_of_closed (by rwa [hbreak]) n)
  | taken hscan hbefore hopen hroom hbreak =>
    rw [takesBreaks_iff hscan hbefore hopen, takesBreaks_iff hbreak hbefore hopen]
    refine forall_congr' fun hchar => ?_
    -- a character literal has used up its room
    obtain ⟨hone, hnone⟩ := charRoom_concat_break (hroom hchar)
    rw [hone, hnone]
    exact Nat.succ_le_succ_iff
  | stray hscan hbefore hopen hchar hfull =>
    have hroom := (takesBreaks_iff hscan hbefore hopen).1 h hchar
    rw [hfull] at hroom
    exact absurd hroom (by decide)

/-! ### Many line breaks -/

/-- The statements of a text depend on its tokens. -/
theorem split_congr {s : Text} (h : TokenRow.ofText s = TokenRow.ofText t) : split s = split t := by
  rw [split, h, split]

/-- A text with line breaks at its end has the statements that it has without them, as long as it
takes them. With more of them it is turned down at one of its tokens. -/
theorem split_append_replicate (t : Text) (n : Nat) :
    (TakesBreaks n t → split (t ++ List.replicate n '\n') = split t) ∧
    (¬ TakesBreaks n t → ∃ e y, split (t ++ List.replicate n '\n') = .violation e (some y)) := by
  induction n generalizing t with
  | zero =>
    rw [List.replicate_zero, List.append_nil]
    exact ⟨fun _ => rfl, fun h => absurd (fun _ _ _ _ => Nat.zero_le _) h⟩
  | succ n ih =>
    obtain ⟨hsame, hrejected⟩ := ih (t ++ ['\n'])
    rw [List.replicate_succ, List.append_cons]
    by_cases hone : TakesBreaks 1 t
    · -- the first line break changes no token, and the text takes one less after it
      rw [takesBreaks_succ_iff hone]
      exact ⟨fun h => (hsame h).trans (split_congr (ofText_concat_break hone)), hrejected⟩
    · refine ⟨fun h => absurd (h.mono (Nat.le_add_left 1 n)) hone, fun _ => ?_⟩
      -- the first line break leaves a stray quote, and no further ones make up for it
      obtain ⟨x, hx, hkind⟩ := exists_unknown_of_not_takesBreaks hone
      obtain ⟨e, y, hsplit⟩ := split_of_unknown hx hkind
      cases n with
      | zero =>
        rw [List.replicate_zero, List.append_nil]
        exact ⟨e, y, hsplit⟩
      | succ n =>
        rw [List.replicate_succ]
        exact ⟨e, y, split_append_break hsplit _⟩

/-- A submitted text that is unfinished stays so with the line breaks that it takes. -/
theorem missingDelimiter_append_replicate {position : Nat} (h : TakesBreaks n t)
    (hmissing : parse t .committing = .failure (.missingDelimiter position)) :
    parse (t ++ List.replicate n '\n') .committing =
      .failure (.missingDelimiter (size (t ++ List.replicate n '\n'))) := by
  obtain ⟨-, c, hsplit⟩ := committing_eq_missingDelimiter_iff.1 hmissing
  exact committing_of_unterminated (((split_append_replicate t n).1 h).trans hsplit)

theorem violation_append_replicate (h : ¬ TakesBreaks n t) : ∃ message position,
    parse (t ++ List.replicate n '\n') .committing = .failure (.violation message position) := by
  obtain ⟨e, y, hsplit⟩ := (split_append_replicate t n).2 h
  exact ⟨_, _, committing_of_violation hsplit⟩

end StatementReader
