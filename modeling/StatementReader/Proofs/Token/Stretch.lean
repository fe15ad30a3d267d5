import StatementReader.Proofs.Language.Enclosure
import StatementReader.Proofs.Lexeme.Excerpt
import StatementReader.Proofs.Parse.Language

/-!
# The lexemes of the statements

The tokens of a complete text are a row of statements. Here the row is traced back to the lexemes.
They fall into stretches, one for each statement, with comments and semicolons before, between and
after them (`Lexeme.Laid`). A stretch begins and ends with a token. The comments inside belong to
it.

Two stretches are separated by a semicolon or by a line break. The grammar knows of the line break
from a mark on the token after it. That token is the first of its stretch, so the break lies in the
blank space or in a comment between the two.
-/

namespace StatementReader

open Text Computability

namespace Lexeme

/-- The lexeme is a semicolon. -/
def isSemicolon (l : Lexeme) : Bool := l.kind == .punct && l.text == Rule.semicolon

/-- The lexeme may stand outside all statements. -/
def isLayout (l : Lexeme) : Bool := l.kind == .comment || l.isSemicolon

/-- The token of a lexeme, where `crossed` tells that a line break has been met since the token
before. -/
def token (l : Lexeme) (crossed : Bool) : Token :=
  ⟨l.kind, l.text, l.start, l.stop, crossed || l.gap.contains '\n'⟩

/-- The place of a row of lexemes. -/
def span (m : List Lexeme) : Span :=
  ⟨(m.head?.map (·.start)).getD 0, (m.getLast?.map (·.stop)).getD 0⟩

/-- A row of lexemes that begins and ends with a token, and whose tokens are a row of `S`. -/
structure Stretch (S : Phrase) (m : List Lexeme) : Prop where
  head : ∀ x ∈ m.head?, x.kind ≠ .comment
  last : ∀ x ∈ m.getLast?, x.kind ≠ .comment
  tokens : ∃ crossed, (TokenRow.ofLexemes crossed m).tokens ∈ S

theorem last_cons {l : Lexeme} {m : List Lexeme} (hl : l.kind ≠ .comment)
    (hm : ∀ x ∈ m.getLast?, x.kind ≠ .comment) : ∀ x ∈ (l :: m).getLast?, x.kind ≠ .comment := by
  intro x hx
  rw [List.getLast?_cons] at hx
  cases hlast : m.getLast? <;> rw [hlast] at hx hm <;> cases hx
  · exact hl
  · exact hm _ rfl

/-- The lexemes `ls` are the stretches `ms`, with comments and semicolons around each of them. Two
stretches are separated by a semicolon or a line break, and so is the first one from what stands
before the row if `after` holds. -/
inductive Laid (S : Phrase) : Bool → List Lexeme → List (List Lexeme) → Prop
  | last {after : Bool} {gap} : (∀ x ∈ gap, x.isLayout) → Laid S after gap []
  | cons {after : Bool} {gap l m ls ms} : (∀ x ∈ gap, x.isLayout) →
      (after → '\n' ∈ join gap ++ l.gap ∨ ∃ x ∈ gap, x.isSemicolon) → Stretch S (l :: m) →
      Laid S true ls ms → Laid S after (gap ++ (l :: m ++ ls)) ((l :: m) :: ms)

end Lexeme

namespace TokenRow

open Lexeme

variable {ls : List Lexeme} {crossed : Bool}

theorem ofLexemes_cons_of_comment {l : Lexeme} (hu : l.unterminated = false)
    (hk : l.kind = .comment) : ofLexemes crossed (l :: ls) =
      ofLexemes (crossed || l.gap.contains '\n' || l.text.contains '\n') ls := by
  simp [ofLexemes, hu, hk]

theorem tokens_ofLexemes_cons {l : Lexeme} (hu : l.unterminated = false) (hk : l.kind ≠ .comment) :
    (ofLexemes crossed (l :: ls)).tokens = l.token crossed :: (ofLexemes false ls).tokens := by
  simp [ofLexemes, hu, hk, token]

/-- Every lexeme but a comment is a token. -/
theorem exists_token_of_mem (hls : ∀ l ∈ ls, l.unterminated = false) {l : Lexeme} (h : l ∈ ls)
    (hk : l.kind ≠ .comment) : ∃ c, l.token c ∈ (ofLexemes crossed ls).tokens := by
  induction ls generalizing crossed with
  | nil => cases h
  | cons x ls ih =>
    have hx := hls x List.mem_cons_self
    have hls := fun l hl => hls l (List.mem_cons_of_mem x hl)
    -- a comment makes no token, and every other lexeme makes one
    by_cases hcomment : x.kind = .comment
    · rw [ofLexemes_cons_of_comment hx hcomment]
      rcases List.mem_cons.1 h with rfl | h
      · exact absurd hcomment hk
      · exact ih hls h
    · rw [tokens_ofLexemes_cons hx hcomment]
      rcases List.mem_cons.1 h with rfl | h
      · exact ⟨crossed, List.mem_cons_self⟩
      · exact (ih hls h).imp fun c hc => List.mem_cons_of_mem _ hc

/-- Lexemes whose tokens are semicolons are layout. -/
theorem isLayout_of_tokens (hls : ∀ l ∈ ls, l.unterminated = false)
    (h : (ofLexemes crossed ls).tokens ∈ (Phrase.punct Rule.semicolon)∗) :
    ∀ l ∈ ls, l.isLayout := by
  intro l hl
  by_cases hk : l.kind = .comment
  · simp [isLayout, hk]
  · obtain ⟨c, hc⟩ := exists_token_of_mem hls hl hk
    have hsemicolon : (l.token c).isMark Rule.semicolon := Phrase.mem_kstar_one.1 h _ hc
    exact Bool.or_eq_true_iff.2 (.inr hsemicolon)

/-- The lexeme of the first token, after comments. -/
theorem exists_first (hls : ∀ l ∈ ls, l.unterminated = false) {t : Token} {ts : List Token}
    (h : (ofLexemes crossed ls).tokens = t :: ts) :
    ∃ gap l ls', ∃ c : Bool, ls = gap ++ l :: ls' ∧ (∀ x ∈ gap, x.kind = .comment) ∧
      l.kind ≠ .comment ∧ t = l.token c ∧ (c → crossed ∨ '\n' ∈ join gap) ∧
      ∀ more, (ofLexemes crossed (gap ++ l :: more)).tokens =
        t :: (ofLexemes false more).tokens := by
  induction ls generalizing crossed with
  | nil => cases h
  | cons x ls ih =>
    have hx := hls x List.mem_cons_self
    have hls := fun l hl => hls l (List.mem_cons_of_mem x hl)
    by_cases hcomment : x.kind = .comment
    · -- the comment goes to the gap, along with what it tells of line breaks
      rw [ofLexemes_cons_of_comment hx hcomment] at h
      obtain ⟨gap, l, ls', c, rfl, hgap, hl, ht, hc, hmore⟩ := ih hls h
      refine ⟨x :: gap, l, ls', c, rfl, List.forall_mem_cons.2 ⟨hcomment, hgap⟩, hl, ht, ?_, ?_⟩
      · intro htrue
        simp only [Bool.or_eq_true, List.contains_iff_mem, join_cons, List.mem_append] at hc ⊢
        tauto
      · intro more
        rw [List.cons_append, ofLexemes_cons_of_comment hx hcomment]
        exact hmore more
    · rw [tokens_ofLexemes_cons hx hcomment] at h
      obtain ⟨rfl, -⟩ := List.cons.inj h
      exact ⟨[], x, ls, crossed, rfl, fun y hy => (List.not_mem_nil hy).elim, hcomment, rfl, .inl,
        fun more => tokens_ofLexemes_cons hx hcomment⟩

/-- Where the tokens of a row are divided, so is the row, right after the last of the first
tokens. -/
theorem exists_eq_append_of_tokens (hls : ∀ l ∈ ls, l.unterminated = false) {ts us : List Token}
    (h : (ofLexemes false ls).tokens = ts ++ us) :
    ∃ first second, ls = first ++ second ∧ (ofLexemes false first).tokens = ts ∧
      (ofLexemes false second).tokens = us ∧ ∀ x ∈ first.getLast?, x.kind ≠ .comment := by
  induction ts generalizing ls with
  | nil => exact ⟨[], ls, rfl, rfl, h, fun x hx => by cases hx⟩
  | cons t ts ih =>
    -- the row is divided behind the lexeme of its first token, whatever comments precede it
    obtain ⟨gap, l, ls', c, rfl, hgap, hl, rfl, -, hmore⟩ := exists_first hls h
    rw [hmore ls'] at h
    obtain ⟨first, second, rfl, hfirst, hsecond, hlast⟩ :=
      ih (fun x hx => hls x (List.mem_append_right _ (List.mem_cons_of_mem _ hx)))
        (List.cons.inj h).2
    refine ⟨gap ++ l :: first, second, by simp, by rw [hmore, hfirst], hsecond, ?_⟩
    rw [List.getLast?_append_of_ne_nil _ (List.cons_ne_nil l first)]
    exact last_cons hl hlast

/-- A last lexeme that is no comment is the last token. -/
theorem exists_tokens_concat {init : List Lexeme} {x : Lexeme}
    (hls : ∀ l ∈ init ++ [x], l.unterminated = false) (hx : x.kind ≠ .comment) (crossed : Bool) :
    ∃ c, (ofLexemes crossed (init ++ [x])).tokens =
      (ofLexemes crossed init).tokens ++ [x.token c] := by
  obtain ⟨c, happend⟩ := ofLexemes_append
    (fun l hl => hls l (List.mem_append_left [x] hl)) crossed
  refine ⟨c, ?_⟩
  rw [happend, after, tokens_ofLexemes_cons (hls x (by simp)) hx]
  rfl

/-- The tokens of a row that begins and ends with a token lie where the row does. -/
theorem span_tokens {m : List Lexeme} (hm : m ≠ []) (hls : ∀ l ∈ m, l.unterminated = false)
    (hhead : ∀ x ∈ m.head?, x.kind ≠ .comment) (hlast : ∀ x ∈ m.getLast?, x.kind ≠ .comment) :
    Token.span (ofLexemes crossed m).tokens = Lexeme.span m := by
  obtain ⟨init, x, rfl⟩ : ∃ init x, m = init ++ [x] :=
    ⟨_, _, (List.dropLast_append_getLast hm).symm⟩
  rw [List.getLast?_concat] at hlast
  obtain ⟨crossed', htokens⟩ := exists_tokens_concat hls (hlast x rfl) crossed
  -- the last lexeme is no comment, so the last token stops where it does
  have hstop : (Token.span (ofLexemes crossed (init ++ [x])).tokens).stop = x.stop := by
    rw [Token.span, htokens, Token.lastStop_append]
    rfl
  -- nor is the first one, so the first token starts where it does
  have hstart : (Token.span (ofLexemes crossed (init ++ [x])).tokens).start =
      (Lexeme.span (init ++ [x])).start := by
    cases init with
    | nil => rw [htokens]; rfl
    | cons l init =>
      rw [List.cons_append, tokens_ofLexemes_cons (hls l (by simp)) (hhead l rfl)]
      rfl
  have hspan : (Lexeme.span (init ++ [x])).stop = x.stop := by simp [Lexeme.span]
  exact congrArg₂ Span.mk hstart (hstop.trans hspan.symm)

end TokenRow

namespace Lexeme

/-- A semicolon among the tokens before a statement is a semicolon among the lexemes. If there is
none, then the line break that the grammar knows of lies between the statements. -/
theorem separates_of_tokens {lead comments : List Lexeme} {l : Lexeme} {c : Bool}
    {v w : List Token} (hls : ∀ l ∈ lead, l.unterminated = false)
    (hlead : (TokenRow.ofLexemes false lead).tokens = v) (hc : c → false ∨ '\n' ∈ join comments)
    (hsep : Phrase.Separated (v ++ l.token c :: w)) (hv : v ∈ (Phrase.punct Rule.semicolon)∗)
    (hl : (l.token c).startsStatement) :
    '\n' ∈ join (lead ++ comments) ++ l.gap ∨ ∃ x ∈ lead ++ comments, x.isSemicolon := by
  cases v with
  | nil =>
    -- a statement does not begin with a semicolon, so a line break separates it
    have hbreak := (hsep (l.token c) rfl).resolve_left fun h => by
      rw [Token.isMark_of_startsStatement hl Rule.semicolon (by decide)] at h
      cases h
    left
    rcases Bool.or_eq_true_iff.1 hbreak with h | h
    · rw [join_append]
      have hcomments := (hc h).resolve_left Bool.false_ne_true
      exact List.mem_append_left _ (List.mem_append_right _ hcomments)
    · exact List.mem_append_right _ (List.contains_iff_mem.1 h)
  | cons t v =>
    obtain ⟨gap, x, rest, c', rfl, -, -, rfl, -, -⟩ := TokenRow.exists_first hls hlead
    have hx : x.isSemicolon := Phrase.mem_kstar_one.1 hv (x.token c') List.mem_cons_self
    exact .inr ⟨x, by simp, hx⟩

/-- If the tokens of a row are statements, then its lexemes are laid out in stretches, one for each
statement and at the same place. -/
theorem exists_laid {S : Phrase} (hS : S.Begins Token.startsStatement) {us : List (List Token)}
    {w : List Token} (hrow : Phrase.Row S us w) {ls : List Lexeme} {after : Bool}
    (hls : ∀ l ∈ ls, l.unterminated = false) (hw : (TokenRow.ofLexemes false ls).tokens = w)
    (hsep : after → Phrase.Separated w) :
    ∃ ms, Laid S after ls ms ∧ us.map Token.span = ms.map span := by
  induction hrow generalizing ls after with
  | nil hv => exact ⟨[], .last (TokenRow.isLayout_of_tokens hls (hw ▸ hv)), rfl⟩
  | @cons v u us w hv hu hsepw hrow ih =>
    obtain ⟨x, u, rfl, hx⟩ := hS u hu
    -- the semicolons, and the lexeme of the first token
    obtain ⟨lead, rest, rfl, hlead, hrest, -⟩ := TokenRow.exists_eq_append_of_tokens hls hw
    have hlsrest := fun l hl => hls l (List.mem_append_right lead hl)
    obtain ⟨comments, l, rest, c, rfl, hcomments, hl, rfl, hcrossed, hmore⟩ :=
      TokenRow.exists_first hlsrest hrest
    -- the other tokens of the statement, and what comes after them
    rw [hmore] at hrest
    have hlsrest := fun x hx =>
      hlsrest x (List.mem_append_right comments (List.mem_cons_of_mem l hx))
    obtain ⟨m, ls, rfl, hm, hlstokens, hlast⟩ :=
      TokenRow.exists_eq_append_of_tokens hlsrest (List.cons.inj hrest).2
    have hsepw : true → Phrase.Separated w := fun _ => hsepw
    obtain ⟨ms, hlaid, hspans⟩ := ih (fun x hx => hlsrest x (List.mem_append_right m hx)) hlstokens
      hsepw
    have hgap : ∀ x ∈ lead ++ comments, x.isLayout := by
      intro x hx
      rcases List.mem_append.1 hx with hx | hx
      · exact TokenRow.isLayout_of_tokens (fun y hy => hls y (List.mem_append_left _ hy))
          (hlead ▸ hv) x hx
      · simp [isLayout, hcomments x hx]
    have htokens : (TokenRow.ofLexemes c (l :: m)).tokens = l.token c :: u := by
      rw [TokenRow.tokens_ofLexemes_cons (hls l (by simp)) hl, hm]
    have hhead : ∀ x ∈ (l :: m).head?, x.kind ≠ .comment := by
      rintro x ⟨⟩
      exact hl
    have hlast := Lexeme.last_cons hl hlast
    refine ⟨(l :: m) :: ms, ?_, ?_⟩
    · rw [← List.append_assoc]
      refine .cons hgap (fun hafter => ?_) ⟨hhead, hlast, c, htokens ▸ hu⟩ hlaid
      exact separates_of_tokens (fun y hy => hls y (List.mem_append_left _ hy)) hlead hcrossed
        (hsep hafter) hv hx
    · have hlsm : ∀ x ∈ l :: m, x.unterminated = false := fun x hx =>
        hls x (List.mem_append_right _ (List.mem_append_right _ (List.mem_append_left ls hx)))
      rw [List.map_cons, List.map_cons, hspans, ← htokens,
        TokenRow.span_tokens (List.cons_ne_nil l m) hlsm hhead hlast]

/-! ### Brackets -/

section

variable {S : Phrase} {after : Bool} {ls : List Lexeme} {ms : List (List Lexeme)}

theorem marks_append {ls : List Lexeme} (hls : ∀ l ∈ ls, l.unterminated = false)
    (more : List Lexeme) : marks (ls ++ more) = marks ls ++ marks more := by
  have hall : ∀ l ∈ ls, (!l.unterminated) = true := fun l hl => by simp [hls l hl]
  have hself : ls.takeWhile (!·.unterminated) = ls := List.takeWhile_eq_self_iff.2 hall
  rw [marks, marks, marks, List.takeWhile_append_of_pos hall, hself, List.filter_append,
    List.map_append]

/-- Layout leaves the open brackets as they are. -/
theorem openAfter_of_isLayout {gap : List Lexeme} (h : ∀ x ∈ gap, x.isLayout)
    (stack marks : List Text) : Bracket.openAfter stack (Lexeme.marks gap ++ marks) =
      Bracket.openAfter stack marks := by
  induction gap with
  | nil => rfl
  | cons x gap ih =>
    have ih := ih fun y hy => h y (List.mem_cons_of_mem x hy)
    by_cases hu : x.unterminated
    · simp [Lexeme.marks, hu]
    · have hmarks : Lexeme.marks ([x] ++ gap) = Lexeme.marks [x] ++ Lexeme.marks gap :=
        marks_append (List.forall_mem_singleton.2 (eq_false_of_ne_true hu)) gap
      have hx : Bracket.openAfter stack (Lexeme.marks [x]) = some stack := by
        -- layout is comments and semicolons, and neither is a bracket
        rcases Bool.or_eq_true_iff.1 (h x List.mem_cons_self) with hk | hsemicolon
        · simp [Lexeme.marks, hu, beq_iff_eq.1 hk]
        · obtain ⟨hk, htext⟩ := Bool.and_eq_true_iff.1 hsemicolon
          have hone : Lexeme.marks [x] = [Rule.semicolon] := by
            simp [Lexeme.marks, hu, beq_iff_eq.1 hk, beq_iff_eq.1 htext]
          rw [hone]
          rfl
      rw [← List.singleton_append, hmarks, List.append_assoc, Bracket.openAfter_append, hx]
      exact ih

/-- The first and the last lexeme of a row lie at its ends. -/
theorem exists_ends {m : List Lexeme} (hm : m ≠ []) :
    ∃ x ∈ m, ∃ y ∈ m, span m = ⟨x.start, y.stop⟩ := by
  obtain ⟨x, m, rfl⟩ := List.exists_cons_of_ne_nil hm
  refine ⟨x, List.mem_cons_self, (x :: m).getLast hm, List.getLast_mem hm, ?_⟩
  rw [span, List.getLast?_eq_some_getLast hm]
  rfl

/-- A row lies behind what ends before each of its lexemes. -/
theorem le_span_start {m : List Lexeme} (hm : m ≠ []) {n : Nat} (h : ∀ x ∈ m, n ≤ x.start) :
    n ≤ (span m).start := by
  obtain ⟨x, hx, y, -, hspan⟩ := exists_ends hm
  rw [hspan]
  exact h x hx

/-- A row lies before what begins behind each of its lexemes. -/
theorem span_stop_le {m : List Lexeme} (hm : m ≠ []) {n : Nat} (h : ∀ x ∈ m, x.stop ≤ n) :
    (span m).stop ≤ n := by
  obtain ⟨x, -, y, hy, hspan⟩ := exists_ends hm
  rw [hspan]
  exact h y hy

/-- A lexeme of a row lies between its ends. -/
theorem between_of_mem {m : List Lexeme} (hsorted : m.Pairwise (·.stop ≤ ·.start))
    (hpos : ∀ x ∈ m, x.start < x.stop) {l : Lexeme} (hl : l ∈ m) :
    (span m).start ≤ l.start ∧ l.stop ≤ (span m).stop := by
  -- the row is in order, so the first lexeme starts before all others and the last ends after them
  have hlpos := hpos l hl
  constructor
  · cases m with
    | nil => cases hl
    | cons x m =>
      show x.start ≤ l.start
      rcases List.mem_cons.1 hl with rfl | hl
      · exact le_rfl
      · have hx := hpos x List.mem_cons_self
        have hle := (List.pairwise_cons.1 hsorted).1 l hl
        omega
  · rcases List.eq_nil_or_concat m with rfl | ⟨m, x, rfl⟩
    · cases hl
    · have hstop : (span (m.concat x)).stop = x.stop := by simp [span]
      rw [hstop]
      rw [List.concat_eq_append] at hl hsorted hpos
      rcases List.mem_append.1 hl with hl | hl
      · have hx := hpos x (by simp)
        have hle := (List.pairwise_append.1 hsorted).2.2 l hl x List.mem_cons_self
        omega
      · rw [List.mem_singleton.1 hl]

/-- A stretch stands somewhere in the row. -/
theorem Laid.exists_of_mem (h : Laid S after ls ms) {m : List Lexeme} (hm : m ∈ ms) :
    Stretch S m ∧ m ≠ [] ∧ ∃ before rest, ls = before ++ (m ++ rest) := by
  induction h with
  | last => cases hm
  | @cons _ gap l m' ls ms _ _ hstretch _ ih =>
    rcases List.mem_cons.1 hm with rfl | hm
    · exact ⟨hstretch, List.cons_ne_nil l m', gap, ls, rfl⟩
    · obtain ⟨hm, hne, before, rest, rfl⟩ := ih hm
      exact ⟨hm, hne, gap ++ (l :: m' ++ before), rest, by simp⟩

/-- A lexeme of the layout that is no comment is a semicolon, and all brackets before it are
closed. -/
theorem isSemicolon_of_isLayout {gap before rest : List Lexeme} {l : Lexeme}
    (hgap : ∀ x ∈ gap, x.isLayout) (hat : gap = before ++ l :: rest) (hl : l.kind ≠ .comment) :
    l.isSemicolon ∧ Bracket.openAfter [] (marks before) = some [] := by
  subst hat
  have hlayout : l.isLayout := hgap l (by simp)
  have hbefore := openAfter_of_isLayout (fun x hx => hgap x (List.mem_append_left _ hx)) [] []
  rw [List.append_nil] at hbefore
  exact ⟨(Bool.or_eq_true_iff.1 hlayout).resolve_left (by simpa using hl), hbefore⟩

/-- A semicolon in a stretch stands between brackets. -/
theorem openAfter_ne_of_isSemicolon (hS : S ≤ Phrase.enclosed) {crossed : Bool}
    {before rest : List Lexeme} {l : Lexeme}
    (hls : ∀ x ∈ before ++ l :: rest, x.unterminated = false) (hl : l.isSemicolon)
    (hm : (TokenRow.ofLexemes crossed (before ++ l :: rest)).tokens ∈ S) :
    Bracket.openAfter [] (marks before) ≠ some [] := by
  obtain ⟨crossed', happend⟩ := TokenRow.ofLexemes_append
    (fun x hx => hls x (List.mem_append_left _ hx)) crossed
  have hk : l.kind ≠ .comment := by
    intro hk
    rw [isSemicolon, hk] at hl
    cases hl
  -- the semicolon is a token among those of the statement, where it is enclosed
  have htokens := congrArg TokenRow.tokens (happend (l :: rest))
  rw [TokenRow.after, TokenRow.tokens_ofLexemes_cons (hls l (by simp)) hk] at htokens
  rw [← TokenRow.marks_ofLexemes crossed]
  exact (hS hm).2 _ (l.token crossed') _ htokens hl

/-- What lies before all lexemes of a row lies before its stretches. -/
theorem Laid.le_span_start (h : Laid S after ls ms) {n : Nat} (hn : ∀ y ∈ ls, n ≤ y.start)
    {m : List Lexeme} (hm : m ∈ ms) : n ≤ (span m).start := by
  obtain ⟨-, hne, before, rest, hsplit⟩ := h.exists_of_mem hm
  exact Lexeme.le_span_start hne fun y hy => hn y (by rw [hsplit]; simp [hy])

/-- Every lexeme but a comment lies inside a stretch, except for the semicolons outside all
brackets. -/
theorem Laid.inside_iff (h : Laid S after ls ms) (hS : S ≤ Phrase.enclosed)
    (hls : ∀ l ∈ ls, l.unterminated = false) (hpos : ∀ l ∈ ls, l.start < l.stop)
    (hsorted : ls.Pairwise (·.stop ≤ ·.start)) {before rest : List Lexeme} {l : Lexeme}
    (hat : ls = before ++ l :: rest) (hl : l.kind ≠ .comment) :
    (∃ m ∈ ms, (span m).start ≤ l.start ∧ l.stop ≤ (span m).stop) ↔
      ¬ (l.isSemicolon ∧ Bracket.openAfter [] (marks before) = some []) := by
  -- the induction is on the stretches, and the lexeme stands before, in or after the first of them
  induction h generalizing before with
  | @last _ gap hgap =>
    exact iff_of_false (by simp) (not_not.2 (isSemicolon_of_isLayout hgap hat hl))
  | @cons _ gap x m ls ms hgap hsep hstretch hlaid ih =>
    obtain ⟨crossed, hm⟩ := hstretch.tokens
    have hbounds : l.start < l.stop := hpos l (by rw [hat]; simp)
    obtain ⟨-, hsorted, hgapless⟩ := List.pairwise_append.1 hsorted
    obtain ⟨hmsorted, hlssorted, hmless⟩ := List.pairwise_append.1 hsorted
    have hrow (y : Lexeme) (hy : y ∈ x :: m ++ ls) : y ∈ gap ++ (x :: m ++ ls) :=
      List.mem_append_right _ hy
    rcases append_eq_append_cons hat with ⟨zs, hzs⟩ | ⟨before, rfl, hrest⟩
    · -- before the first stretch, and so before all of them
      refine iff_of_false ?_ (not_not.2 (isSemicolon_of_isLayout hgap hzs hl))
      rintro ⟨m', hm', hle, -⟩
      have hfirst : Laid S false (x :: m ++ ls) ((x :: m) :: ms) :=
        .cons (List.forall_mem_nil _) (fun h => by cases h) hstretch hlaid
      have hlt : l.stop ≤ (span m').start := hfirst.le_span_start (hgapless l (by simp [hzs])) hm'
      omega
    have hbefore (marks : List Text) : Bracket.openAfter [] (Lexeme.marks gap ++ marks) =
        Bracket.openAfter [] marks := openAfter_of_isLayout hgap [] marks
    rw [marks_append fun y hy => hls y (List.mem_append_left _ hy), hbefore]
    rcases append_eq_append_cons hrest with ⟨zs, hzs⟩ | ⟨before, rfl, hls'⟩
    · -- in the first stretch, where a semicolon stands between brackets
      have hmem : l ∈ x :: m := by
        rw [hzs]
        simp
      have hbetween := between_of_mem hmsorted
        (fun y hy => hpos y (hrow y (List.mem_append_left _ hy))) hmem
      refine iff_of_true ⟨x :: m, List.mem_cons_self, hbetween⟩ fun ⟨hsemicolon, hopen⟩ => ?_
      rw [hzs] at hm
      refine openAfter_ne_of_isSemicolon hS (fun y hy => ?_) hsemicolon hm hopen
      exact hls y (hrow y (List.mem_append_left _ (hzs ▸ hy)))
    · -- after the first stretch, which leaves the brackets as they are
      have hmarks : Bracket.openAfter [] (marks (x :: m ++ before)) =
          Bracket.openAfter [] (marks before) := by
        rw [marks_append fun y hy => hls y (hrow y (List.mem_append_left _ hy)),
          ← TokenRow.marks_ofLexemes crossed]
        exact Phrase.openAfter_of_mem_nested (Phrase.enclosed_le_nested (hS hm)) [] _
      have hlsmem (y : Lexeme) (hy : y ∈ ls) := hrow y (List.mem_append_right _ hy)
      rw [hmarks, ← ih (fun y hy => hls y (hlsmem y hy)) (fun y hy => hpos y (hlsmem y hy))
        hlssorted hls']
      constructor
      · rintro ⟨m', hm', hle⟩
        rcases List.mem_cons.1 hm' with rfl | hm'
        · -- the first stretch ends before the lexeme
          have hlt : (span (x :: m)).stop ≤ l.start := span_stop_le (List.cons_ne_nil x m)
            fun y hy => hmless y hy l (by rw [hls']; simp)
          omega
        · exact ⟨m', hm', hle⟩
      · rintro ⟨m', hm', hle⟩
        exact ⟨m', List.mem_cons_of_mem _ hm', hle⟩

end

end Lexeme
end StatementReader
