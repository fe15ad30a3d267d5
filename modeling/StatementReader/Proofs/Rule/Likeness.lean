import StatementReader.Grammar.Split
import StatementReader.Proofs.Rule.Progress
import Mathlib.Data.List.Forall2

/-!
# Texts that differ in their layout

Reading asks for the kind and the text of a token and for line breaks, and never for an offset. A
`Likeness` relates tokens of one kind and text whose places are related in some way of its own, as
by a shift. Two rows of tokens are alike if their tokens are, and if they agree on line breaks, with
the possible exception of some tokens at their front.

The exception matters because nothing asks for a line break before the first token of a statement.
`Rule.blind` reads off a rule that it asks for no line break before it has taken a token. From two
states that are alike but for the first line break, such a rule gives results that are alike, and
alike without exception if it takes a token.

`readFrom_alike` carries this over to the statements of a text.
-/

namespace StatementReader

/-- A relation of tokens that have the same kind and text, of their starts and of their ends. -/
structure Likeness where
  token : Token → Token → Prop
  startOffset : Nat → Nat → Prop
  stopOffset : Nat → Nat → Prop
  kind_eq : ∀ {x y}, token x y → x.kind = y.kind
  text_eq : ∀ {x y}, token x y → x.text = y.text
  start : ∀ {x y}, token x y → startOffset x.start y.start
  stop : ∀ {x y}, token x y → stopOffset x.stop y.stop

namespace Likeness

variable (L : Likeness)

/-- Tokens that are alike, one by one, with the same line breaks but for the first `k` tokens. -/
inductive Rows : Nat → List Token → List Token → Prop
  | nil {k} : Rows k [] []
  | cons {k x y xs ys} : L.token x y → (k = 0 → x.afterBreak = y.afterBreak) →
      Rows (k - 1) xs ys → Rows k (x :: xs) (y :: ys)

/-- States with rows that are alike and the same open brackets. -/
structure States (k : Nat) (s t : State) : Prop where
  rows : L.Rows k s.rest t.rest
  depth : s.depth = t.depth
  lineModes : s.lineModes = t.lineModes

/-- Results that are alike. -/
inductive Results (k : Nat) : Except Stop State → Except Stop State → Prop
  | ok {s t} : L.States k s t → Results k (.ok s) (.ok t)
  | unterminated : Results k (.error .unterminated) (.error .unterminated)
  | violation {e x y} : Option.Rel L.token x y →
      Results k (.error (.violation e x)) (.error (.violation e y))

variable {L} {k : Nat} {s t : State}

namespace Rows

variable {xs ys : List Token}

/-- Rows that agree but for a few of the first line breaks agree but for more of them. -/
theorem mono {j : Nat} (h : L.Rows k xs ys) (hk : k ≤ j) : L.Rows j xs ys := by
  induction h generalizing j with
  | nil => exact .nil
  | @cons k x y xs ys ht hb _ ih =>
    refine .cons ht (fun hj => hb ?_) (ih ?_) <;> omega

/-- Rows that are alike are equally long. -/
theorem length_eq (h : L.Rows k xs ys) : xs.length = ys.length := by
  induction h with
  | nil => rfl
  | cons _ _ _ ih => simp [ih]

/-- One of them ends where the other does. -/
theorem eq_nil_iff (h : L.Rows k xs ys) : xs = [] ↔ ys = [] := by
  cases h <;> simp

/-- Questions about the kind and the text of the next token are answered alike. -/
theorem any_head? {p : Token → Bool} (h : L.Rows k xs ys)
    (hp : ∀ x y : Token, x.kind = y.kind → x.text = y.text → p x = p y) :
    xs.head?.any p = ys.head?.any p := by
  cases h with
  | nil => rfl
  | cons ht _ _ => simpa using hp _ _ (L.kind_eq ht) (L.text_eq ht)

/-- A mark stands in front of both rows or of neither. -/
theorem any_isMark (h : L.Rows k xs ys) (mark : Text) :
    xs.head?.any (·.isMark mark) = ys.head?.any (·.isMark mark) :=
  h.any_head? fun x y hk ht => by simp only [Token.isMark, hk, ht]

/-- Once their line breaks agree too, both rows go on a new line or neither does. -/
theorem any_afterBreak (h : L.Rows 0 xs ys) :
    xs.head?.any (·.afterBreak) = ys.head?.any (·.afterBreak) := by
  cases h with
  | nil => rfl
  | cons _ hb _ => simpa using hb rfl

/-- What is before ends that are alike is alike, and so is the end of its last token. -/
theorem lastStop {us vs : List Token} (h : L.Rows k (us ++ xs) (vs ++ ys))
    (hlen : xs.length = ys.length) (hne : us ≠ []) (m n : Nat) :
    L.stopOffset (Token.lastStop m us) (Token.lastStop n vs) := by
  induction us generalizing k vs m n with
  | nil => exact absurd rfl hne
  | cons u us ih =>
    have hl := h.length_eq
    cases vs with
    | nil =>
      simp only [List.length_append, List.length_cons, List.length_nil] at hl
      omega
    | cons v vs =>
      cases h with
      | cons huv _ h =>
        cases us with
        | nil =>
          -- `u` is the last token, and so is `v` as the ends are equally long
          have hv : vs = [] := by
            simp only [List.length_append, List.length_cons, List.length_nil] at hl
            exact List.length_eq_zero_iff.1 (by omega)
          simpa [hv] using L.stop huv
        | cons u' us => exact ih h (by simp) u.stop v.stop

/-- The first tokens are alike, if there are any. -/
theorem rel_head? (h : L.Rows k xs ys) : Option.Rel L.token xs.head? ys.head? := by
  cases h with
  | nil => exact .none
  | cons ht _ _ => exact .some ht

/-- What follows a row of marks is alike as well. -/
theorem dropWhile_isMark (h : L.Rows k xs ys) (mark : Text) :
    L.Rows k (xs.dropWhile (·.isMark mark)) (ys.dropWhile (·.isMark mark)) := by
  induction h with
  | nil => exact .nil
  | @cons k x y xs ys ht hb h ih =>
    have hm : x.isMark mark = y.isMark mark := by
      simp only [Token.isMark, L.kind_eq ht, L.text_eq ht]
    simp only [List.dropWhile_cons, hm]
    split
    · -- the mark is dropped, and with it one line break that may differ
      exact ih.mono (Nat.sub_le k 1)
    · exact .cons ht hb h

end Rows

namespace States

/-- States agree but for more line breaks, too. -/
theorem mono {j : Nat} (h : L.States k s t) (hk : k ≤ j) : L.States j s t :=
  ⟨h.rows.mono hk, h.depth, h.lineModes⟩

/-- Advancing leaves one token less whose line break may differ. -/
theorem advance (h : L.States k s t) : L.States (k - 1) s.advance t.advance := by
  obtain ⟨hrows, hd, hm⟩ := h
  -- both rows have come to their ends, or each loses its first token
  cases hs : s.rest with
  | nil =>
    have ht := hrows.eq_nil_iff.1 hs
    rw [State.advance_of_rest_nil hs, State.advance_of_rest_nil ht]
    exact ⟨by rw [hs, ht]; exact .nil, hd, hm⟩
  | cons x xs =>
    cases ht : t.rest with
    | nil => simp [hrows.eq_nil_iff.2 ht] at hs
    | cons y ys =>
      rw [State.advance_of_rest_cons hs, State.advance_of_rest_cons ht]
      rw [hs, ht] at hrows
      cases hrows with
      | cons _ _ hrows => exact ⟨hrows, hd, hm⟩

/-- A level is entered on both sides. -/
theorem enter (h : L.States k s t) (lineMode : Bool) :
    L.States k (s.enter lineMode) (t.enter lineMode) :=
  ⟨h.rows, by simp [State.enter, h.depth], by simp [State.enter, h.lineModes]⟩

/-- A level is left on both sides. -/
theorem leave (h : L.States k s t) : L.States k s.leave t.leave :=
  ⟨h.rows, by simp [State.leave, h.depth], by simp [State.leave, h.lineModes]⟩

/-- Both states are at a mark or neither is. -/
theorem atMark (h : L.States k s t) (mark : Text) : s.atMark mark = t.atMark mark :=
  h.rows.any_isMark mark

/-- Both states are at a name or neither is. -/
theorem atIdent (h : L.States k s t) : s.atIdent = t.atIdent :=
  h.rows.any_head? fun x y hk _ => by simp only [hk]

/-- Parsing stops on both sides for the same reason. -/
theorem stop (h : L.States k s t) (e : Expected) {j : Nat} :
    L.Results j (.error (s.stop e)) (.error (t.stop e)) := by
  unfold State.stop
  simp only [h.rows.eq_nil_iff, h.depth]
  split
  · exact .unterminated
  · exact .violation h.rows.rel_head?

end States

/-- Results agree but for more line breaks, too. -/
theorem Results.mono {j : Nat} {res res' : Except Stop State} (h : L.Results k res res')
    (hk : k ≤ j) : L.Results j res res' := by
  cases h with
  | ok h => exact .ok (h.mono hk)
  | unterminated => exact .unterminated
  | violation h => exact .violation h

/-- Going on alike after results that are alike. -/
theorem Results.bind {j : Nat} {res res' : Except Stop State} {next next' : Production}
    (h : L.Results k res res')
    (hnext : ∀ {s t : State}, L.States k s t → L.Results j (next s) (next' t)) :
    L.Results j (res >>= next) (res' >>= next') := by
  cases h with
  | ok h => exact hnext h
  | unterminated => exact .unterminated
  | violation h => exact .violation h

end Likeness

/-! ### Rules that ask for no line break at first -/

/-- The question does not concern line breaks. -/
def Look.blind : Look → Bool
  | sameLine _ => false
  | either look other => look.blind && other.blind
  | no look => look.blind
  | _ => true

/-- A look that sees no line break, or that may trust all of them, sees the same on both sides. -/
theorem Look.holds_alike {L : Likeness} {k : Nat} {s t : State} (h : L.States k s t) {look : Look}
    (hk : k = 0 ∨ look.blind) : look.holds s = look.holds t := by
  induction look with
  | mark text => exact h.atMark text
  | keyword text =>
    exact h.rows.any_head? fun x y hk ht => by simp only [Token.isKeyword, hk, ht]
  | ident => exact h.atIdent
  | literal => exact h.rows.any_head? fun x y hk _ => by simp only [hk]
  | sign => exact h.rows.any_head? fun x y hk ht => by simp only [Token.isSign, hk, ht]
  | infixOperator => exact h.rows.any_head? fun x y hk _ => by simp only [hk]
  | lambda => simp only [holds, h.atIdent, h.advance.atMark]
  | markNotBefore text next => simp only [holds, h.atMark, h.advance.atMark]
  | sameLine look ih =>
    -- a look at the line is not blind, so both states have their full likeness
    obtain rfl : k = 0 := by simpa [blind] using hk
    simp only [holds, ih (.inl rfl), State.lineEnds, h.rows.any_afterBreak, h.lineModes]
  | either look other ih₁ ih₂ =>
    simp only [blind, Bool.and_eq_true] at hk
    simp only [holds, ih₁ (hk.imp_right And.left), ih₂ (hk.imp_right And.right)]
  | no look ih => simp only [holds, ih hk]

namespace Rule

/-- The rule asks for no line break before it has taken a token. -/
def blind : Rule → Bool
  | seq first second => first.blind && (first.takes || second.blind)
  | branch look yes no => look.blind && yes.blind && no.blind
  | repeatWhile look round => look.blind && round.blind
  | endOfStatement _ _ => false
  | _ => true

/-- The number of tokens whose line breaks may still differ after the rule. -/
def unsettled (k : Nat) (rule : Rule) : Nat := if rule.takes then 0 else k

/-- A rule leaves no more line breaks unsettled than there were. -/
theorem unsettled_le (k : Nat) (rule : Rule) : rule.unsettled k ≤ k := by
  unfold unsettled
  split <;> omega

/-- What is not settled after two rules in a row is settled by neither. -/
theorem unsettled_unsettled_le (first second : Rule) (k : Nat) :
    second.unsettled (first.unsettled k) ≤ (first >> second).unsettled k := by
  -- once something has been taken, no line break is unsettled any more
  by_cases ht : first.takes
  · have hnone : first.unsettled k = 0 := if_pos ht
    rw [hnone]
    exact Nat.le_trans (second.unsettled_le 0) (Nat.zero_le _)
  · have hall : first.unsettled k = k := if_neg ht
    have hrow : (first >> second).takes = second.takes := by
      show (first.takes || second.takes) = second.takes
      rw [eq_false_of_ne_true ht, Bool.false_or]
    have heq : second.unsettled k = (first >> second).unsettled k := by
      rw [unsettled, unsettled, hrow]
    rw [hall]
    exact Nat.le_of_eq heq

/-- A rule that takes something settles at least as much as one that need not. -/
theorem unsettled_le_of_takes {rule rule' : Rule} (h : rule'.takes → rule.takes) (k : Nat) :
    rule.unsettled k ≤ rule'.unsettled k := by
  by_cases ht : rule'.takes
  · simp [unsettled, ht, h ht]
  · simpa [unsettled, ht] using rule.unsettled_le k

variable {L : Likeness} {calls : Construct → Production} {k : Nat} {s t : State}

/-- A token is taken on both sides or on neither. -/
theorem takeIf_alike (test : State → Bool) (e : Expected) (h : L.States k s t)
    (ht : test s = test t) : L.Results (k - 1) (takeIf test e s) (takeIf test e t) := by
  unfold takeIf
  rw [ht]
  split
  · exact .ok h.advance
  · exact h.stop e

/-- A bracket is taken on both sides or on neither, and recorded alike. -/
theorem takeBracket_alike (text : Text) {record : State → State} (h : L.States k s t)
    (hrecord : ∀ {j : Nat} {s t : State}, L.States j s t → L.States j (record s) (record t)) :
    L.Results (k - 1) (do return record (← takeIf (·.atMark text) (.mark text) s))
      (do return record (← takeIf (·.atMark text) (.mark text) t)) :=
  (takeIf_alike (·.atMark text) (.mark text) h (h.atMark text)).bind fun h => .ok (hrecord h)

/-- Both loops make the same number of rounds. -/
theorem iterate_alike {test : State → Bool} {round : Production}
    (htest : ∀ {s t : State}, L.States k s t → test s = test t)
    (hround : ∀ {s t : State}, L.States k s t → L.Results k (round s) (round t))
    {bound bound' : List Token} (hb : bound.length = bound'.length) (h : L.States k s t) :
    L.Results k (iterate test round bound s) (iterate test round bound' t) := by
  induction bound generalizing bound' s t with
  | nil =>
    obtain rfl := List.length_eq_zero_iff.1 hb.symm
    exact .ok h
  | cons b bound ih =>
    cases bound' with
    | nil => simp at hb
    | cons b' bound' =>
      rw [iterate_cons, iterate_cons, htest h]
      -- the tests agree, so both loops go on or both are over
      split
      · exact (hround h).bind fun h => ih (Nat.succ.inj hb) h
      · exact .ok h

/-- States that are alike give results that are alike. If line breaks may differ before the first
token, the rule must not ask for it. -/
theorem run_alike {rule : Rule} (hk : k ≤ 1) (hb : k = 0 ∨ rule.blind)
    (hc : ∀ c {j : Nat} {s t : State}, j ≤ 1 → L.States j s t →
      L.Results 0 (calls c s) (calls c t))
    (h : L.States k s t) :
    L.Results (rule.unsettled k) (run calls rule s) (run calls rule t) := by
  have hone : k - 1 = 0 := by omega
  induction rule generalizing k s t with
  | empty => exact .ok h
  | refuse e => exact h.stop e
  | token =>
    have ha := h.advance
    rw [hone] at ha
    exact .ok ha
  | mark text =>
    have hm := takeIf_alike (·.atMark text) (.mark text) h (h.atMark text)
    rwa [hone] at hm
  | ident =>
    have hm := takeIf_alike State.atIdent .identifier h h.atIdent
    rwa [hone] at hm
  | opening text lineMode =>
    have hm := takeBracket_alike text h fun h => h.enter lineMode
    rwa [hone] at hm
  | closing text =>
    have hm := takeBracket_alike text h Likeness.States.leave
    rwa [hone] at hm
  | seq first second ih₁ ih₂ =>
    simp only [blind, Bool.and_eq_true] at hb
    have hle := first.unsettled_le k
    refine (ih₁ hk (hb.imp_right And.left) h hone).bind fun h₁ => ?_
    -- the second rule must be blind too, unless the first one has taken a token
    have hb₂ : first.unsettled k = 0 ∨ second.blind := by
      unfold unsettled
      split
      · exact .inl rfl
      · next hn => simpa [hn] using hb.imp_right And.right
    exact (ih₂ (by omega) hb₂ h₁ (by omega)).mono (unsettled_unsettled_le first second k)
  | branch look yes no ih₁ ih₂ =>
    simp only [blind, Bool.and_eq_true] at hb
    rw [run_branch, run_branch, Look.holds_alike h (hb.imp_right fun h => h.1.1)]
    split
    · refine (ih₁ hk (hb.imp_right fun h => h.1.2) h hone).mono (unsettled_le_of_takes ?_ k)
      exact fun ht => (Bool.and_eq_true_iff.1 ht).1
    · refine (ih₂ hk (hb.imp_right And.right) h hone).mono (unsettled_le_of_takes ?_ k)
      exact fun ht => (Bool.and_eq_true_iff.1 ht).2
  | repeatWhile look round ih =>
    simp only [blind, Bool.and_eq_true] at hb
    exact iterate_alike (fun h => Look.holds_alike h (hb.imp_right And.left))
      (fun h => (ih hk (hb.imp_right And.right) h hone).mono (round.unsettled_le k))
      h.rows.length_eq h
  | endOfStatement look e =>
    obtain rfl : k = 0 := by simpa [blind] using hb
    simp only [run]
    rw [Look.holds_alike h (.inl rfl), h.rows.any_afterBreak]
    split
    · exact .ok h
    · exact h.stop e
  | call c => exact hc c hk h

/-- No construct looks at the line break before its first token. -/
theorem blind_construct (c : Construct) : (construct c).blind := by
  cases c <;> decide

/-- Types and expressions are read alike, with any budget of levels. -/
theorem read_alike (levels : Nat) (c : Construct) (hk : k ≤ 1) (h : L.States k s t) :
    L.Results 0 (read levels c s) (read levels c t) := by
  induction levels generalizing c k s t with
  | zero => exact h.stop _
  | succ levels ih =>
    have hr := run_alike hk (.inr (blind_construct c)) (fun c {_ _ _} => ih c) h
    rwa [unsettled, if_pos (takes_construct c)] at hr

/-- Statements are read alike, whatever precedes them. -/
theorem readStatement_alike (hk : k ≤ 1) (h : L.States k s t) :
    L.Results 0 (readStatement s) (readStatement t) := by
  have hb : statement.blind := by decide
  have ht : statement.takes := by decide
  have hr := run_alike hk (.inr hb) (fun c {_ _ _} => read_alike maxNesting c) h
  rwa [unsettled, if_pos ht] at hr

end Rule

/-! ### The statements of a text -/

/-- The statements of two texts are alike. The ends of the last finished statements are related by
`E`, since there may be none. -/
inductive Likeness.Splits (L : Likeness) (E : Nat → Nat → Prop) : Split → Split → Prop
  | statements {us vs} : List.Forall₂ (fun u v : Span => L.startOffset u.start v.start ∧
      L.stopOffset u.stop v.stop) us vs → Splits L E (.statements us) (.statements vs)
  | unterminated {m n} : E m n → Splits L E (.unterminated m) (.unterminated n)
  | violation {e x y} : Option.Rel L.token x y → Splits L E (.violation e x) (.violation e y)

namespace Split

variable {L : Likeness} {E : Nat → Nat → Prop} {k : Nat} {s t : State} {m n : Nat}

/-- Two texts in which parsing stops alike are divided alike. -/
theorem ofStop_alike {stop stop' : Stop} (hm : E m n)
    (h : L.Results 0 (.error stop) (.error stop')) :
    L.Splits E (ofStop m stop) (ofStop n stop') := by
  cases h with
  | unterminated => exact .unterminated hm
  | violation h => exact .violation h

/-- So are two texts that come to their ends. -/
theorem atEnd_alike (openLiteral : Bool) (hm : E m n) :
    L.Splits E (atEnd openLiteral m) (atEnd openLiteral n) := by
  cases openLiteral
  · exact .statements .nil
  · exact .unterminated hm

/-- Two statements are separated alike. -/
theorem separated_alike (h : L.States 0 s t) : separated s = separated t := by
  have he : s.rest.isEmpty = t.rest.isEmpty := by
    rw [Bool.eq_iff_iff, List.isEmpty_iff, List.isEmpty_iff, h.rows.eq_nil_iff]
  simp only [separated, he, h.atMark, h.rows.any_afterBreak]

/-- One more statement in front keeps the divisions alike. -/
theorem cons_alike {u v : Span} {x y : Split} (h : L.Splits E x y)
    (hstart : L.startOffset u.start v.start) (hstop : L.stopOffset u.stop v.stop) :
    L.Splits E (x.cons u) (y.cons v) := by
  cases h with
  | statements h => exact .statements (.cons ⟨hstart, hstop⟩ h)
  | unterminated h => exact .unterminated h
  | violation h => exact .violation h

/-- A statement is read up to ends that are related. -/
theorem lastStop_readStatement {s' t' : State} (h : L.States k s t) (hne : s.rest ≠ [])
    (h' : L.States 0 s' t') (hs : Rule.readStatement s = .ok s')
    (ht : Rule.readStatement t = .ok t') : L.stopOffset s'.lastStop t'.lastStop := by
  obtain ⟨u, hu⟩ := Rule.forward_readStatement.reads hs
  obtain ⟨v, hv⟩ := Rule.forward_readStatement.reads ht
  have hlt := Rule.takes_readStatement hs hne
  -- each statement has a last token, where it stops
  have hune : u ≠ [] := by
    rintro rfl
    rw [hu.rest, List.nil_append] at hlt
    exact absurd hlt (Nat.lt_irrefl _)
  have hrows := h.rows
  rw [hu.rest, hv.rest] at hrows
  rw [hu.lastStop, hv.lastStop]
  exact hrows.lastStop h'.rows.length_eq hune _ _

/-- States that are alike are read alike, whether or not a line break precedes them. -/
theorem readFrom_alike (openLiteral : Bool) (count : Nat) (hE : ∀ {m n}, L.stopOffset m n → E m n)
    (hk : k ≤ 1) (hm : E m n) (h : L.States k s t) :
    L.Splits E (readFrom openLiteral count m s) (readFrom openLiteral count n t) := by
  induction count generalizing k m n s t with
  | zero => exact atEnd_alike openLiteral hm
  | succ count ih =>
    have hskip : L.States k (skipSemicolons s) (skipSemicolons t) :=
      ⟨h.rows.dropWhile_isMark _, h.depth, h.lineModes⟩
    simp only [readFrom]
    cases hs : (skipSemicolons s).rest with
    | nil =>
      rw [hskip.rows.eq_nil_iff.1 hs]
      exact atEnd_alike openLiteral hm
    | cons x xs =>
      cases ht : (skipSemicolons t).rest with
      | nil => simp [hskip.rows.eq_nil_iff.2 ht] at hs
      | cons y ys =>
        have hxy : L.token x y := by
          have := hskip.rows.rel_head?
          rw [hs, ht] at this
          cases this with
          | some h => exact h
        have hread := Rule.readStatement_alike hk hskip
        cases hs' : Rule.readStatement (skipSemicolons s) with
        | error stop =>
          cases ht' : Rule.readStatement (skipSemicolons t) with
          | error stop' => exact ofStop_alike hm (hs' ▸ ht' ▸ hread)
          | ok t' => rw [hs', ht'] at hread; cases hread
        | ok s' =>
          cases ht' : Rule.readStatement (skipSemicolons t) with
          | error stop' => rw [hs', ht'] at hread; cases hread
          | ok t' =>
            rw [hs', ht'] at hread
            cases hread with
            | ok h' =>
              -- a token is read, so from here on the line breaks agree without exception
              have hlast := lastStop_readStatement hskip (by simp [hs]) h' hs' ht'
              simp only [separated_alike h']
              split
              · exact cons_alike (ih (Nat.zero_le 1) (hE hlast) h') (L.start hxy) hlast
              · exact ofStop_alike (hE hlast) (h'.stop .separator)

end Split
end StatementReader
