import Mathlib.Data.List.TakeWhile
import StatementReader.Proofs.Rule.Progress
import StatementReader.Proofs.Split.Rounds

/-!
# Characters that begin no lexeme

A character that begins none of the known lexemes is a token by itself, and the grammar has no use
for it. No question about the next tokens is answered in the affirmative by it, and no rule takes a
token without such an answer. So reading never gets past it: whatever stands around it, the
statements of a text with such a token are turned down at some token (`split_of_unknown`).

That a rule takes no token unasked is read off its text by a check, `Rule.known`, which counts how
many of the next tokens the answers so far have made known. The check is sound for every rule
(`Rule.vetted_run`), and the grammar passes it.
-/

namespace StatementReader

/-- The token is more than a character that begins no lexeme. -/
def Token.isKnown (t : Token) : Bool := t.kind != .unknown

/-- A mark is known. -/
theorem Token.isKnown_of_isMark {t : Token} {mark : Text} (h : t.isMark mark) : t.isKnown := by
  simp only [isMark, Bool.and_eq_true, beq_iff_eq] at h
  simp [isKnown, h.1]

namespace State

variable {k : Nat} {s : State}

/-- The next `k` tokens are known, as far as there are so many. -/
def KnownFor (k : Nat) (s : State) : Prop := ∀ t ∈ s.rest.take k, t.isKnown

/-- No token has to be known. -/
theorem knownFor_zero (s : State) : s.KnownFor 0 := by simp [KnownFor]

/-- Fewer tokens are known if more are. -/
theorem KnownFor.mono {j : Nat} (h : s.KnownFor k) (hj : j ≤ k) : s.KnownFor j :=
  fun t ht => h t (List.take_subset_take_left _ hj ht)

/-- The longer of two known beginnings is known. -/
theorem KnownFor.max {j : Nat} (h : s.KnownFor j) (h' : s.KnownFor k) : s.KnownFor (max j k) := by
  rw [Nat.max_def]
  split
  · exact h'
  · exact h

/-- A known beginning is a known token and a known beginning of the rest. -/
theorem knownFor_succ : s.KnownFor (k + 1) ↔ s.KnownFor 1 ∧ s.advance.KnownFor k := by
  rw [KnownFor, take_succ_rest, List.forall_mem_append]
  rfl

/-- Behind the first token the beginning is known for one token less. -/
theorem KnownFor.advance (h : s.KnownFor k) : s.advance.KnownFor (k - 1) := by
  cases k with
  | zero => exact knownFor_zero _
  | succ k => exact (knownFor_succ.1 h).2

/-- A mark in front is known. -/
theorem knownFor_one_of_atMark {mark : Text} (h : s.atMark mark) : s.KnownFor 1 :=
  forall_mem_take_one (fun _ => Token.isKnown_of_isMark) h

/-- So is a name. -/
theorem knownFor_one_of_atIdent (h : s.atIdent) : s.KnownFor 1 :=
  forall_mem_take_one (fun t ht => by simp_all [Token.isKnown]) h

end State

namespace Look

/-- So many of the next tokens are known, if the answer is affirmative. -/
def known : Look → Nat
  | mark _ | markNotBefore _ _ | keyword _ | ident | literal | sign | infixOperator => 1
  | lambda => 2
  | sameLine look => look.known
  | either look other => min look.known other.known
  | no _ => 0

/-- What a look has seen is known, as far as its kind tells. -/
theorem knownFor_of_holds {look : Look} {s : State} (h : look.holds s) :
    s.KnownFor look.known := by
  -- no question is for the kind `unknown`
  induction look with
  | mark text => exact State.knownFor_one_of_atMark h
  | markNotBefore text next =>
    obtain ⟨hmark, -⟩ := Bool.and_eq_true_iff.1 h
    exact State.knownFor_one_of_atMark hmark
  | keyword text =>
    refine State.forall_mem_take_one (fun t ht => ?_) h
    obtain ⟨hkind, -⟩ := Bool.and_eq_true_iff.1 ht
    simp [Token.isKnown, beq_iff_eq.1 hkind]
  | ident => exact State.knownFor_one_of_atIdent h
  | literal =>
    refine State.forall_mem_take_one (fun t ht => ?_) h
    rw [Token.isKnown, bne_iff_ne]
    intro hkind
    rw [hkind] at ht
    cases ht
  | sign =>
    refine State.forall_mem_take_one (fun t ht => ?_) h
    obtain ⟨hkind, -⟩ := Bool.and_eq_true_iff.1 ht
    simp [Token.isKnown, beq_iff_eq.1 hkind]
  | infixOperator =>
    refine State.forall_mem_take_one (fun t ht => ?_) h
    obtain hkind | hkind := Bool.or_eq_true_iff.1 ht <;> simp [Token.isKnown, beq_iff_eq.1 hkind]
  | lambda =>
    obtain ⟨hident, harrow⟩ := Bool.and_eq_true_iff.1 h
    exact State.knownFor_succ.2
      ⟨State.knownFor_one_of_atIdent hident, State.knownFor_one_of_atMark harrow⟩
  | sameLine look ih =>
    obtain ⟨hlook, -⟩ := Bool.and_eq_true_iff.1 h
    exact ih hlook
  | either look other ih₁ ih₂ =>
    obtain hlook | hother := Bool.or_eq_true_iff.1 h
    · exact (ih₁ hlook).mono (Nat.min_le_left ..)
    · exact (ih₂ hother).mono (Nat.min_le_right ..)
  | no look => exact State.knownFor_zero s

end Look

/-! ### Rules that take what is known -/

/-- What reading from `s` has got past is known: the tokens that were taken, with the next `k`, or
all that were left if it stopped at their end. -/
def Vetted (k : Nat) (s : State) : Except Stop State → Prop
  | .ok s' => s'.KnownFor k ∧ ∃ u, s.rest = u ++ s'.rest ∧ ∀ t ∈ u, t.isKnown
  | .error .unterminated | .error (.violation _ none) => ∀ t ∈ s.rest, t.isKnown
  | .error (.violation _ (some _)) => True

namespace Vetted

variable {j k : Nat} {s m : State} {res : Except Stop State}

/-- Where parsing stops, what has been found may be of any kind. -/
theorem of_stop (k : Nat) (s : State) (e : Expected) : Vetted k s (.error (s.stop e)) := by
  -- at the end nothing is left, and otherwise a token was found
  unfold State.stop
  split
  · next hs =>
    intro t ht
    rw [hs.1] at ht
    cases ht
  · cases hrest : s.rest with
    | nil =>
      intro t ht
      rw [hrest] at ht
      cases ht
    | cons t rest => trivial

theorem refl (h : s.KnownFor k) : Vetted k s (.ok s) := ⟨h, [], rfl, List.forall_mem_nil _⟩

/-- A stop does not tell how much was known where it came to pass. -/
theorem of_error {stop : Stop} (h : Vetted j s (.error stop)) : Vetted k s (.error stop) := by
  match stop, h with
  | .unterminated, h => exact h
  | .violation _ none, h => exact h
  | .violation _ (some _), _ => trivial

/-- Fewer tokens need to be known afterwards. -/
theorem mono (h : Vetted k s res) (hj : j ≤ k) : Vetted j s res := by
  cases res with
  | ok s' =>
    obtain ⟨hnext, htaken⟩ := h
    exact ⟨hnext.mono hj, htaken⟩
  | error stop => exact h.of_error

/-- What is read after a success is judged together with what was read before it. -/
theorem trans (h : Vetted j s (.ok m)) (h' : Vetted k m res) : Vetted k s res := by
  obtain ⟨-, u, hu, htaken⟩ := h
  have hall (hrest : ∀ t ∈ m.rest, t.isKnown) : ∀ t ∈ s.rest, t.isKnown := by
    rw [hu]
    exact List.forall_mem_append.2 ⟨htaken, hrest⟩
  -- if the second result is a success, what it took is known too, and if it ran out of tokens, so
  -- are all
  match res, h' with
  | .ok s', ⟨hnext, v, hv, htaken'⟩ =>
    exact ⟨hnext, u ++ v, by rw [hu, hv, List.append_assoc],
      List.forall_mem_append.2 ⟨htaken, htaken'⟩⟩
  | .error .unterminated, hrest => exact hall hrest
  | .error (.violation _ none), hrest => exact hall hrest
  | .error (.violation _ (some _)), _ => trivial

/-- One production after another. -/
theorem bind {next : Production} (h : Vetted j s res)
    (hnext : ∀ {m : State}, m.KnownFor j → Vetted k m (next m)) :
    Vetted k s (res >>= next) := by
  cases res with
  | error stop => exact h.of_error
  | ok m => exact h.trans (hnext h.1)

/-- The record of open brackets may change where no token is taken. -/
theorem of_rest_eq (h : m.rest = s.rest) : Vetted 0 s (.ok m) :=
  ⟨m.knownFor_zero, [], h.symm, List.forall_mem_nil _⟩

/-- Taking a token that is known. -/
theorem advance (h : s.KnownFor 1) (hk : s.KnownFor k) : Vetted (k - 1) s (.ok s.advance) := by
  refine ⟨hk.advance, s.rest.take 1, ?_, h⟩
  rw [State.advance_rest]
  cases s.rest <;> rfl

end Vetted

namespace Rule

/-- The check of a rule: how many of the next tokens are known after it, given how many are known
before it. There is no answer if the rule may take a token that is not. -/
def known (k : Nat) : Rule → Option Nat
  | empty | refuse _ | endOfStatement _ _ => some k
  | token => if 0 < k then some (k - 1) else none
  | mark _ | ident => some (k - 1)
  | opening _ _ | closing _ | call _ => some 0
  | seq first second => (known k first).bind fun j => known j second
  | branch look yes no =>
    (known (max k look.known) yes).bind fun i => (known k no).map fun j => min i j
  | repeatWhile look round => (known look.known round).map fun _ => 0

variable {calls : Construct → Production} {k : Nat} {s : State}

/-- What is taken is known, since it was known before or the test has seen it. -/
theorem vetted_takeIf {test : State → Bool} {e : Expected} (hk : s.KnownFor k)
    (htest : test s → s.KnownFor 1) : Vetted (k - 1) s (takeIf test e s) := by
  unfold takeIf
  split
  · next h => exact .advance (htest h) hk
  · exact .of_stop _ s e

/-- A loop takes what is known if each of its rounds does. -/
theorem vetted_iterate {test : State → Bool} {round : Production} {j : Nat}
    (hround : ∀ {s : State}, test s → Vetted j s (round s)) (bound : List Token) (s : State) :
    Vetted 0 s (iterate test round bound s) := by
  -- what one round makes known of the next tokens is of no use to the round after it
  induction bound generalizing s with
  | nil => exact .refl s.knownFor_zero
  | cons t bound ih =>
    rw [iterate_cons]
    split
    · next htest => exact (hround htest).bind fun _ => ih _
    · exact .refl s.knownFor_zero

/-- A rule that passes the check takes only tokens that are known. -/
theorem vetted_run {rule : Rule} {k' : Nat} (hc : ∀ c (s : State), Vetted 0 s (calls c s))
    (h : known k rule = some k') (hk : s.KnownFor k) : Vetted k' s (run calls rule s) := by
  induction rule generalizing k k' s with
  | empty =>
    obtain rfl := Option.some.inj h
    exact .refl hk
  | refuse e => exact .of_stop _ s e
  | token =>
    -- the only rule that takes a token without looking at it
    obtain ⟨hpos, rfl⟩ := by simpa [known] using h
    exact .advance (hk.mono hpos) hk
  | mark text =>
    obtain rfl := Option.some.inj h
    exact vetted_takeIf hk State.knownFor_one_of_atMark
  | ident =>
    obtain rfl := Option.some.inj h
    exact vetted_takeIf hk State.knownFor_one_of_atIdent
  | opening _ _ | closing _ =>
    obtain rfl := Option.some.inj h
    exact (vetted_takeIf s.knownFor_zero State.knownFor_one_of_atMark).bind fun _ =>
      .of_rest_eq rfl
  | seq first second ih₁ ih₂ =>
    obtain ⟨j, hfirst, hsecond⟩ := Option.bind_eq_some_iff.1 h
    exact (ih₁ hfirst hk).bind fun hnext => ih₂ hsecond hnext
  | branch look yes no ih₁ ih₂ =>
    obtain ⟨i, hyes, h⟩ := Option.bind_eq_some_iff.1 h
    obtain ⟨j, hno, rfl⟩ := Option.map_eq_some_iff.1 h
    rw [run_branch]
    split
    · next hlook =>
      -- the answer to the question tells more of the next tokens than was known before
      exact (ih₁ hyes (hk.max (Look.knownFor_of_holds hlook))).mono (Nat.min_le_left ..)
    · exact (ih₂ hno hk).mono (Nat.min_le_right ..)
  | repeatWhile look round ih =>
    obtain ⟨j, hround, rfl⟩ := Option.map_eq_some_iff.1 h
    exact vetted_iterate (fun hlook => ih hround (Look.knownFor_of_holds hlook)) s.rest s
  | endOfStatement look e =>
    obtain rfl := Option.some.inj h
    simp only [run]
    split
    · exact .refl hk
    · exact .of_stop _ s e
  | call c =>
    obtain rfl := Option.some.inj h
    exact hc c s

/-- Reading a construct takes what is known, for any number of levels. -/
theorem vetted_read (levels : Nat) (c : Construct) (s : State) : Vetted 0 s (read levels c s) := by
  induction levels generalizing c s with
  | zero => exact .of_stop _ s _
  | succ levels ih =>
    have hknown : known 0 (construct c) = some 0 := by cases c <;> decide
    exact vetted_run ih hknown s.knownFor_zero

/-- Reading a statement takes what is known. -/
theorem vetted_readStatement (s : State) : Vetted 0 s (readStatement s) := by
  have hknown : known 0 statement = some 0 := by decide
  exact vetted_run (vetted_read maxNesting) hknown s.knownFor_zero

end Rule

/-! ### The statements of a text -/

namespace Split

/-- The answer to reading statements from `s` does not come about beyond a token that is not known.
-/
def Vetted (s : State) : Split → Prop
  | statements _ | unterminated _ | violation _ none => ∀ t ∈ s.rest, t.isKnown
  | violation _ (some _) => True

variable {s s' : State} {r : Split}

/-- One more statement in front changes nothing about the tokens behind it. -/
theorem Vetted.cons (h : Vetted s r) (span : Span) : Vetted s (r.cons span) := by
  match r, h with
  | statements _, h => exact h
  | unterminated _, h => exact h
  | violation _ none, h => exact h
  | violation _ (some _), _ => trivial

/-- Some tokens that are known, and then the others. -/
theorem Vetted.of_append {u : List Token} (h : Vetted s' r) (hrest : s.rest = u ++ s'.rest)
    (hu : ∀ t ∈ u, t.isKnown) : Vetted s r := by
  have hall (hrest' : ∀ t ∈ s'.rest, t.isKnown) : ∀ t ∈ s.rest, t.isKnown := by
    rw [hrest]
    exact List.forall_mem_append.2 ⟨hu, hrest'⟩
  -- all that is left is known, unless a token was found to be wrong
  match r, h with
  | statements _, h => exact hall h
  | unterminated _, h => exact hall h
  | violation _ none, h => exact hall h
  | violation _ (some _), _ => trivial

/-- Semicolons that are skipped are known. -/
theorem Vetted.of_skip (h : Vetted (skipSemicolons s) r) : Vetted s r := by
  have hcut := List.takeWhile_append_dropWhile (p := (Token.isMark · Rule.semicolon)) (l := s.rest)
  refine h.of_append hcut.symm fun t ht => ?_
  have hmark := List.mem_takeWhile_imp ht
  exact Token.isKnown_of_isMark hmark

/-- What was known where parsing stopped is known of the whole text. -/
theorem vetted_ofStop {k : Nat} {stop : Stop} (h : StatementReader.Vetted k s (.error stop))
    (c : Nat) : Vetted s (ofStop c stop) := by
  match stop, h with
  | .unterminated, h => exact h
  | .violation _ none, h => exact h
  | .violation _ (some _), _ => trivial

/-- At the end there is nothing that need be known. -/
theorem vetted_atEnd (openLiteral : Bool) (c : Nat) (h : s.rest = []) :
    Vetted s (atEnd openLiteral c) := by
  have hknown : ∀ t ∈ s.rest, t.isKnown := by
    rw [h]
    exact List.forall_mem_nil _
  cases openLiteral <;> exact hknown

/-- All tokens of a text are known, unless one of them has been found to be wrong. -/
theorem Rounds.vetted {openLiteral : Bool} {count c : Nat} (h : Rounds openLiteral count c s r)
    (hcount : s.rest.length < count) : Vetted s r := by
  induction h with
  | spent => exact absurd hcount (Nat.not_lt_zero _)
  | @finished count c s hx => exact (vetted_atEnd openLiteral c hx).of_skip
  | @stopped count c s x xs stop hx hstop =>
    -- the statement itself does not get past a token that is not known
    have hread := Rule.vetted_readStatement (skipSemicolons s)
    rw [hstop] at hread
    exact (vetted_ofStop hread c).of_skip
  | @unseparated count c s x xs s' hx hok hsep =>
    have hread := Rule.vetted_readStatement (skipSemicolons s)
    rw [hok] at hread
    obtain ⟨-, u, hu, htaken⟩ := hread
    have hstop := vetted_ofStop (StatementReader.Vetted.of_stop 0 s' .separator) s'.lastStop
    exact (hstop.of_append hu htaken).of_skip
  | @again count c s x xs s' r hx hok hsep _ ih =>
    -- the statement takes known tokens, so the bound is good for what is left
    have hread := Rule.vetted_readStatement (skipSemicolons s)
    rw [hok] at hread
    obtain ⟨-, u, hu, htaken⟩ := hread
    have hlt := length_rest_lt_of_readStatement hx hok
    exact (((ih (by omega)).of_append hu htaken).of_skip).cons _

end Split

/-- A text with a character that begins no lexeme is turned down at one of its tokens. -/
theorem split_of_unknown {t : Text} {x : Token} (hx : x ∈ (TokenRow.ofText t).tokens)
    (hkind : x.kind = .unknown) : ∃ e y, split t = .violation e (some y) := by
  have hvetted := (Split.rounds_readFrom (TokenRow.ofText t).openLiteral
    ((TokenRow.ofText t).tokens.length + 1) 0 ⟨(TokenRow.ofText t).tokens, 0,
      if (TokenRow.ofText t).openLiteral then 1 else 0, [true]⟩).vetted (Nat.lt_succ_self _)
  -- every other answer comes about only where all tokens are known
  have hunknown : ¬ ∀ x ∈ (TokenRow.ofText t).tokens, x.isKnown := by
    intro hall
    have hknown := hall x hx
    rw [Token.isKnown, hkind] at hknown
    cases hknown
  change Split.Vetted _ (split t) at hvetted
  match split t, hvetted with
  | .statements _, h => exact absurd h hunknown
  | .unterminated _, h => exact absurd h hunknown
  | .violation _ none, h => exact absurd h hunknown
  | .violation e (some y), _ => exact ⟨e, y, rfl⟩

end StatementReader
