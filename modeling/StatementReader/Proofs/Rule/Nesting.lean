import StatementReader.Proofs.Rule.Progress

/-!
# Brackets

`Bracket.openAfter` reads a row of punctuation and tells which brackets are open after it, or that
some closing bracket does not match the innermost open one. It knows nothing of the grammar.

A state of the grammar only counts its open brackets and keeps their line modes. That the count is
right is a matter of how the rules are written: an opening bracket is taken by `Rule.opening` alone,
a closing one by `Rule.closing` alone and only where it matches, and no other token that a rule
takes is a bracket. `Rule.nest` checks this on the text of a rule. It carries the brackets that the
rule has opened so far, and how many of the next tokens are known to be no brackets because a
question about them has just been answered.

`nested_run` is what a rule that passes the check does to any state, and how it can stop. Two ways
of stopping matter: where the tokens end, the brackets open after all of them are as many as the
state counts, whether it stops as unterminated or not.
-/

namespace StatementReader

/-! ### Rows of punctuation -/

namespace Bracket

/-- The mark that closes a bracket. -/
def closer? (mark : Text) : Option Text :=
  if mark = Rule.openParen then some Rule.closeParen
  else if mark = Rule.openBracket then some Rule.closeBracket
  else if mark = Rule.openBrace then some Rule.closeBrace
  else none

/-- The mark closes a bracket. -/
def isCloser (mark : Text) : Bool :=
  [Rule.closeParen, Rule.closeBracket, Rule.closeBrace].contains mark

/-- The mark opens or closes a bracket. -/
def isBracket (mark : Text) : Bool := (closer? mark).isSome || isCloser mark

/-- The open brackets after one more mark. -/
def step (stack : List Text) (mark : Text) : Option (List Text) :=
  if (closer? mark).isSome then some (mark :: stack)
  else if isCloser mark then
    match stack with
    | [] => none
    | innermost :: others => if closer? innermost = some mark then some others else none
  else some stack

/-- The open brackets after a row of marks, innermost first, where `stack` is open before it. There
are none to tell if a closing bracket does not match the innermost open one. -/
def openAfter (stack : List Text) (marks : List Text) : Option (List Text) :=
  marks.foldlM step stack

@[simp] theorem openAfter_nil (stack : List Text) : openAfter stack [] = some stack := rfl

/-- Marks are gone through one after the other. -/
theorem openAfter_append (stack : List Text) (marks more : List Text) :
    openAfter stack (marks ++ more) = (openAfter stack marks).bind (openAfter · more) :=
  List.foldlM_append

/-- One mark is one step. -/
theorem openAfter_singleton (stack : List Text) (mark : Text) :
    openAfter stack [mark] = step stack mark := by
  simp [openAfter]

/-- A mark that is no bracket changes nothing. -/
theorem step_of_not_bracket {stack : List Text} {mark : Text} (h : isBracket mark = false) :
    step stack mark = some stack := by
  simp only [isBracket, Bool.or_eq_false_iff] at h
  simp [step, h.1, h.2]

/-- An opening bracket is put on the stack. -/
theorem step_of_opener {stack : List Text} {mark : Text} (h : (closer? mark).isSome) :
    step stack mark = some (mark :: stack) := by
  simp [step, h]

/-- What closes a bracket opens none. -/
theorem closer?_of_closer {b mark : Text} (h : closer? b = some mark) :
    closer? mark = none ∧ isCloser mark := by
  -- there are three pairs of brackets, and none of them closes itself
  unfold closer? at h
  split at h
  · obtain rfl := Option.some.inj h
    decide
  · split at h
    · obtain rfl := Option.some.inj h
      decide
    · split at h
      · obtain rfl := Option.some.inj h
        decide
      · simp at h

/-- A closing bracket takes the one that it closes from the stack. -/
theorem step_of_closer {stack : List Text} {b mark : Text} (h : closer? b = some mark) :
    step (b :: stack) mark = some stack := by
  obtain ⟨h₁, h₂⟩ := closer?_of_closer h
  simp [step, h, h₁, h₂]

end Bracket

/-- The token is no bracket. -/
def Token.isPlain (t : Token) : Bool := !(t.kind == .punct && Bracket.isBracket t.text)

/-- The punctuation in a row of tokens. -/
def Token.marks (ts : List Token) : List Text := (ts.filter (·.kind == .punct)).map (·.text)

namespace Token

@[simp] theorem marks_nil : marks [] = [] := rfl

/-- The marks of two rows are those of one and then those of the other. -/
theorem marks_append (ts us : List Token) : marks (ts ++ us) = marks ts ++ marks us := by
  simp [marks]

/-- The marks of a mark are itself. -/
theorem marks_singleton_of_isMark {t : Token} {mark : Text} (h : t.isMark mark) :
    marks [t] = [mark] := by
  simp only [isMark, Bool.and_eq_true, beq_iff_eq] at h
  simp [marks, h.1, h.2]

/-- A mark that is no bracket is plain. -/
theorem isPlain_of_isMark {t : Token} {mark : Text} (h : t.isMark mark)
    (hm : Bracket.isBracket mark = false) : t.isPlain := by
  simp only [isMark, Bool.and_eq_true, beq_iff_eq] at h
  simp [isPlain, h.2, hm]

/-- A token that is no mark is plain. -/
theorem isPlain_of_kind_ne {t : Token} (h : t.kind ≠ .punct) : t.isPlain := by
  simp [isPlain, h]

/-- A token that is no bracket leaves the open brackets as they are. -/
theorem openAfter_singleton_of_isPlain {t : Token} (h : t.isPlain) (stack : List Text) :
    Bracket.openAfter stack (marks [t]) = some stack := by
  by_cases hk : t.kind = .punct
  · have hb : Bracket.isBracket t.text = false := by simpa [isPlain, hk] using h
    have hm : t.isMark t.text := by simp [isMark, hk]
    rw [marks_singleton_of_isMark hm, Bracket.openAfter_singleton,
      Bracket.step_of_not_bracket hb]
  · simp [marks, hk]

end Token

/-! ### Open brackets of a state -/

/-- An open bracket: its mark, and whether line breaks end statements inside. -/
abbrev Frame := Text × Bool

namespace State

/-- The state keeps record of the open brackets `frames`, on top of a count `base` and of
`modes`. -/
structure Holds (base : Nat) (modes : List Bool) (frames : List Frame) (s : State) : Prop where
  depth : s.depth = base + frames.length
  lineModes : s.lineModes = frames.map (·.2) ++ modes

/-- None of the next `k` tokens is a bracket. -/
def PlainFor (k : Nat) (s : State) : Prop := ∀ t ∈ s.rest.take k, t.isPlain

variable {base k : Nat} {modes : List Bool} {frames : List Frame} {s : State}

/-- Advancing changes nothing about what is open. -/
theorem Holds.advance (h : s.Holds base modes frames) : s.advance.Holds base modes frames := by
  cases hr : s.rest with
  | nil => exact (advance_of_rest_nil hr).symm ▸ h
  | cons t r => exact advance_of_rest_cons hr ▸ ⟨h.depth, h.lineModes⟩

/-- Entering a level opens a frame. -/
theorem Holds.enter (h : s.Holds base modes frames) (frame : Frame) :
    (s.enter frame.2).Holds base modes (frame :: frames) :=
  ⟨by simp [State.enter, h.depth, Nat.add_assoc], by simp [State.enter, h.lineModes]⟩

/-- Leaving it closes the innermost one. -/
theorem Holds.leave {frame : Frame} (h : s.Holds base modes (frame :: frames)) :
    s.leave.Holds base modes frames :=
  ⟨by simp [State.leave, h.depth, ← Nat.add_assoc], by simp [State.leave, h.lineModes]⟩

/-- No token has to be plain. -/
theorem plainFor_zero (s : State) : s.PlainFor 0 := by simp [PlainFor]

/-- Fewer tokens are plain if more are. -/
theorem PlainFor.mono {j : Nat} (h : s.PlainFor k) (hj : j ≤ k) : s.PlainFor j :=
  fun t ht => h t (List.take_subset_take_left _ hj ht)

/-- The longer of two plain beginnings is plain. -/
theorem PlainFor.max {j : Nat} (h : s.PlainFor j) (h' : s.PlainFor k) : s.PlainFor (max j k) := by
  rw [Nat.max_def]
  split
  · exact h'
  · exact h

/-- A plain beginning is a plain token and a plain beginning of the rest. -/
theorem plainFor_succ : s.PlainFor (k + 1) ↔ s.PlainFor 1 ∧ s.advance.PlainFor k := by
  rw [PlainFor, take_succ_rest, List.forall_mem_append]
  rfl

/-- Behind the first token the beginning is plain for one token less. -/
theorem PlainFor.advance (h : s.PlainFor k) : s.advance.PlainFor (k - 1) := by
  cases k with
  | zero => exact plainFor_zero _
  | succ k => exact (plainFor_succ.1 h).2

/-- Taking a token that is no bracket leaves the open brackets as they are. -/
theorem openAfter_advance (h : s.PlainFor 1) (stack : List Text) :
    ∃ u, s.rest = u ++ s.advance.rest ∧ Bracket.openAfter stack (Token.marks u) = some stack := by
  cases hr : s.rest with
  | nil => exact ⟨[], by simp [hr], rfl⟩
  | cons t r =>
    refine ⟨[t], by simp [advance_of_rest_cons hr], ?_⟩
    exact Token.openAfter_singleton_of_isPlain (h t (by simp [hr])) stack

/-- To be at a mark is to have it in front. -/
theorem atMark_iff {mark : Text} :
    s.atMark mark ↔ ∃ t r, s.rest = t :: r ∧ t.isMark mark := by
  cases hr : s.rest <;> simp [atMark, hr]

/-- A mark in front that is no bracket is plain. -/
theorem plainFor_one_of_atMark {mark : Text} (h : s.atMark mark)
    (hm : Bracket.isBracket mark = false) : s.PlainFor 1 :=
  forall_mem_take_one (fun _ ht => Token.isPlain_of_isMark ht hm) h

/-- So is a name. -/
theorem plainFor_one_of_atIdent (h : s.atIdent) : s.PlainFor 1 :=
  forall_mem_take_one (fun t ht => Token.isPlain_of_kind_ne (by simp [beq_iff_eq.1 ht])) h

end State

namespace Look

/-- So many of the next tokens are no brackets, if the answer is affirmative. -/
def plain : Look → Nat
  | mark text | markNotBefore text _ => if Bracket.isBracket text then 0 else 1
  | keyword _ | ident | literal | sign | infixOperator => 1
  | lambda => 2
  | sameLine look => plain look
  | either look other => min (plain look) (plain other)
  | no _ => 0

/-- What a look has seen is plain, as far as its kind tells. -/
theorem plainFor_of_holds {look : Look} {s : State} (h : look.holds s) :
    s.PlainFor look.plain := by
  induction look with
  | mark text =>
    unfold plain
    split
    · exact State.plainFor_zero s
    · next hb => exact State.plainFor_one_of_atMark h (by simpa using hb)
  | markNotBefore text next =>
    simp only [holds, Bool.and_eq_true] at h
    unfold plain
    split
    · exact State.plainFor_zero s
    · next hb => exact State.plainFor_one_of_atMark h.1 (by simpa using hb)
  | keyword text | ident | literal | sign | infixOperator =>
    cases hr : s.rest with
    | nil => simp [State.PlainFor, hr]
    | cons t r =>
      -- these questions ask for a kind that is not punctuation
      suffices t.kind ≠ .punct by
        simpa [State.PlainFor, plain, hr] using Token.isPlain_of_kind_ne this
      intro hk
      simp [holds, State.atIdent, hr, hk, Token.isKeyword, Token.isSign, LexemeKind.isLiteral] at h
  | lambda =>
    -- an identifier, and after it a mark that is no bracket
    simp only [holds, Bool.and_eq_true] at h
    exact State.plainFor_succ.2
      ⟨State.plainFor_one_of_atIdent h.1, State.plainFor_one_of_atMark h.2 (by decide)⟩
  | sameLine look ih =>
    simp only [holds, Bool.and_eq_true] at h
    exact ih h.1
  | either look other ih₁ ih₂ =>
    simp only [holds, Bool.or_eq_true] at h
    rcases h with h | h
    · exact (ih₁ h).mono (Nat.min_le_left _ _)
    · exact (ih₂ h).mono (Nat.min_le_right _ _)
  | no look => exact State.plainFor_zero s

end Look

/-! ### Rules that nest their brackets -/

/-- What reading from `s` with the brackets `frames` open may end with: success with `frames'` open
and the next `k` tokens known to be no brackets, or a stop that tells rightly whether something is
open. -/
def Nested (base : Nat) (modes : List Bool) (frames frames' : List Frame) (k : Nat) (s : State) :
    Except Stop State → Prop
  | .ok s' => s'.Holds base modes frames' ∧ s'.PlainFor k ∧ ∃ u, s.rest = u ++ s'.rest ∧
      Bracket.openAfter (frames.map (·.1)) (Token.marks u) = some (frames'.map (·.1))
  | .error .unterminated => ∃ stack,
      Bracket.openAfter (frames.map (·.1)) (Token.marks s.rest) = some stack ∧
        0 < base + stack.length
  | .error (.violation _ none) =>
      Bracket.openAfter (frames.map (·.1)) (Token.marks s.rest) = some [] ∧ base = 0
  | .error (.violation _ (some _)) => True

namespace Nested

variable {base k : Nat} {modes : List Bool} {frames frames' frames'' : List Frame} {s m : State}

/-- A stop at the next token. -/
theorem of_stop (h : s.Holds base modes frames) (e : Expected) :
    Nested base modes frames frames' k s (.error (s.stop e)) := by
  unfold State.stop
  split
  · next hs =>
    refine ⟨frames.map (·.1), by simp [hs.1], ?_⟩
    have := h.depth
    simp only [List.length_map]
    omega
  · next hs =>
    cases hr : s.rest with
    | cons t r => trivial
    | nil =>
      -- a violation at the end of the tokens is only raised where nothing is open
      have hd : s.depth = 0 := by
        rcases Nat.eq_zero_or_pos s.depth with h₀ | h₀
        · exact h₀
        · exact absurd ⟨hr, h₀⟩ hs
      have hf := h.depth
      have hnil : frames = [] := List.length_eq_zero_iff.1 (by omega)
      subst hnil
      refine ⟨by simp [hr], ?_⟩
      simp only [List.length_nil] at hf
      omega

/-- A stop is judged by where it began, and not by what was to come after it. -/
theorem of_error {stop : Stop} {j : Nat}
    (h : Nested base modes frames frames' j s (.error stop)) :
    Nested base modes frames frames'' k s (.error stop) := by
  match stop, h with
  | .unterminated, h => exact h
  | .violation _ none, h => exact h
  | .violation _ (some _), _ => trivial

/-- What is read after a success is judged together with what was read before it. -/
theorem trans {res : Except Stop State} {j : Nat}
    (h₁ : Nested base modes frames frames' j s (.ok m))
    (h₂ : Nested base modes frames' frames'' k m res) :
    Nested base modes frames frames'' k s res := by
  obtain ⟨-, -, u, hu, hw⟩ := h₁
  have hstep : ∀ v, Bracket.openAfter (frames.map (·.1)) (Token.marks (u ++ v)) =
      Bracket.openAfter (frames'.map (·.1)) (Token.marks v) := fun v => by
    rw [Token.marks_append, Bracket.openAfter_append, hw, Option.bind_some]
  -- the first result succeeded, so the second one decides what has become of both
  match res, h₂ with
  | .ok s', ⟨hh, hp, v, hv, hw'⟩ =>
    exact ⟨hh, hp, u ++ v, by rw [hu, hv, List.append_assoc], (hstep v).trans hw'⟩
  | .error .unterminated, ⟨stack, hs, hpos⟩ =>
    exact ⟨stack, by rw [hu, hstep, hs], hpos⟩
  | .error (.violation _ none), ⟨hs, hb⟩ => exact ⟨by rw [hu, hstep, hs], hb⟩
  | .error (.violation _ (some _)), _ => trivial

/-- One production after another. -/
theorem bind {res : Except Stop State} {next : Production} {j : Nat}
    (h₁ : Nested base modes frames frames' j s res)
    (h₂ : ∀ {m : State}, m.Holds base modes frames' → m.PlainFor j →
      Nested base modes frames' frames'' k m (next m)) :
    Nested base modes frames frames'' k s (res >>= next) := by
  cases res with
  | error stop => exact h₁.of_error
  | ok m => exact h₁.trans (h₂ h₁.1 h₁.2.1)

/-- Where nothing was read. -/
theorem refl (h : s.Holds base modes frames) (hp : s.PlainFor k) :
    Nested base modes frames frames k s (.ok s) :=
  ⟨h, hp, [], rfl, rfl⟩

/-- Less may be claimed of the next tokens. -/
theorem mono {res : Except Stop State} {j : Nat} (h : Nested base modes frames frames' k s res)
    (hj : j ≤ k) : Nested base modes frames frames' j s res := by
  cases res with
  | ok s' =>
    obtain ⟨hh, hp, hu⟩ := h
    exact ⟨hh, hp.mono hj, hu⟩
  | error stop => exact h.of_error

/-- Taking a token that is no bracket. -/
theorem advance (h : s.Holds base modes frames) (hp : s.PlainFor (k + 1)) :
    Nested base modes frames frames k s (.ok s.advance) :=
  ⟨h.advance, hp.advance, State.openAfter_advance (hp.mono (Nat.le_add_left 1 k)) _⟩

end Nested

namespace Rule

/-- The check of a rule: given how many of the next tokens are no brackets, and the brackets the
rule has opened before, the same after it. There is no answer if the rule may take a bracket that it
does not keep record of. -/
def nest (k : Nat) (frames : List Frame) : Rule → Option (Nat × List Frame)
  | empty | refuse _ | endOfStatement _ _ => some (k, frames)
  | token => if 0 < k then some (k - 1, frames) else none
  | mark text => if Bracket.isBracket text then none else some (k - 1, frames)
  | ident => some (k - 1, frames)
  | opening text lineMode =>
    if (Bracket.closer? text).isSome then some (0, (text, lineMode) :: frames) else none
  | closing text =>
    match frames with
    | [] => none
    | (innermost, _) :: others =>
      if Bracket.closer? innermost = some text then some (0, others) else none
  | seq first second => (nest k frames first).bind fun r => nest r.1 r.2 second
  | branch look yes no =>
    (nest (max k look.plain) frames yes).bind fun r₁ => (nest k frames no).bind fun r₂ =>
      if r₁.2 = r₂.2 then some (min r₁.1 r₂.1, r₁.2) else none
  | repeatWhile look round =>
    (nest look.plain frames round).bind fun r => if r.2 = frames then some (0, frames) else none
  | call _ => some (0, frames)

variable {calls : Construct → Production} {base : Nat} {modes : List Bool}

/-- A test for one token, which is no bracket. -/
theorem nested_takeIf {test : State → Bool} {e : Expected} {frames : List Frame} {s : State}
    {k : Nat} (hs : s.Holds base modes frames) (hk : s.PlainFor k)
    (ht : test s → s.PlainFor 1) :
    Nested base modes frames frames (k - 1) s (takeIf test e s) := by
  unfold takeIf
  split
  · next h =>
    -- what is taken is plain, because it was known to be or because the test has seen it
    cases k with
    | zero => exact .advance hs (ht h)
    | succ k => exact .advance hs hk
  · exact .of_stop hs e

/-- A loop keeps what is open if each of its rounds does. -/
theorem nested_iterate {test : State → Bool} {round : Production} {frames : List Frame}
    {j : Nat} (hround : ∀ {s : State}, s.Holds base modes frames → test s →
      Nested base modes frames frames j s (round s)) (bound : List Token) {s : State}
    (hs : s.Holds base modes frames) :
    Nested base modes frames frames 0 s (iterate test round bound s) := by
  induction bound generalizing s with
  | nil => exact .refl hs (State.plainFor_zero s)
  | cons t bound ih =>
    rw [iterate_cons]
    split
    · next htest => exact (hround hs htest).bind fun hm _ => ih hm
    · exact .refl hs (State.plainFor_zero s)

/-- An opening bracket is the only token that is read, and then the innermost one that is open. -/
theorem nested_opening {text : Text} {lineMode : Bool} {frames : List Frame} {s : State}
    (ho : (Bracket.closer? text).isSome) (hs : s.Holds base modes frames) :
    Nested base modes frames ((text, lineMode) :: frames) 0 s
      (run calls (opening text lineMode) s) := by
  cases hr : run calls (opening text lineMode) s with
  | error stop =>
    obtain ⟨-, rfl⟩ := run_opening_eq_error.1 hr
    exact .of_stop hs _
  | ok s' =>
    obtain ⟨hm, rfl⟩ := run_opening_eq_ok.1 hr
    -- the token in front is the bracket, so this is one step of the stack
    obtain ⟨t, r, hrest, ht⟩ := State.atMark_iff.1 hm
    refine ⟨hs.advance.enter (text, lineMode), State.plainFor_zero _, [t], ?_, ?_⟩
    · simp [State.enter, State.advance_rest, hrest]
    · rw [Token.marks_singleton_of_isMark ht, Bracket.openAfter_singleton,
        Bracket.step_of_opener ho]
      rfl

/-- A closing bracket is the only token that is read, and closes the innermost one that is open. -/
theorem nested_closing {text innermost : Text} {lineMode : Bool} {frames : List Frame} {s : State}
    (ho : Bracket.closer? innermost = some text)
    (hs : s.Holds base modes ((innermost, lineMode) :: frames)) :
    Nested base modes ((innermost, lineMode) :: frames) frames 0 s
      (run calls (closing text) s) := by
  cases hr : run calls (closing text) s with
  | error stop =>
    obtain ⟨-, rfl⟩ := run_closing_eq_error.1 hr
    exact .of_stop hs _
  | ok s' =>
    obtain ⟨hm, rfl⟩ := run_closing_eq_ok.1 hr
    -- the bracket closes the innermost frame, and no other
    obtain ⟨t, r, hrest, ht⟩ := State.atMark_iff.1 hm
    refine ⟨hs.advance.leave, State.plainFor_zero _, [t], ?_, ?_⟩
    · simp [State.leave, State.advance_rest, hrest]
    · rw [Token.marks_singleton_of_isMark ht, Bracket.openAfter_singleton]
      exact Bracket.step_of_closer ho

/-- A rule that passes the check keeps its brackets nested and counted, from any state, with any
brackets `outer` open around it. -/
theorem nested_run {rule : Rule} {k k' : Nat} {frames frames' outer : List Frame} {s : State}
    (hc : ∀ c {frames : List Frame} {s : State}, s.Holds base modes frames →
      Nested base modes frames frames 0 s (calls c s))
    (h : nest k frames rule = some (k', frames')) (hs : s.Holds base modes (frames ++ outer))
    (hk : s.PlainFor k) :
    Nested base modes (frames ++ outer) (frames' ++ outer) k' s (run calls rule s) := by
  induction rule generalizing k k' frames frames' s with
  | empty =>
    obtain ⟨rfl, rfl⟩ := by simpa [nest] using h
    exact .refl hs hk
  | refuse e => exact .of_stop hs e
  | token =>
    obtain ⟨hpos, rfl, rfl⟩ := by simpa [nest] using h
    obtain ⟨k, rfl⟩ := Nat.exists_eq_add_of_lt hpos
    exact .advance hs (by simpa using hk)
  | mark text =>
    obtain ⟨hb, rfl, rfl⟩ := by simpa [nest] using h
    exact nested_takeIf hs hk fun ht => State.plainFor_one_of_atMark ht hb
  | ident =>
    obtain ⟨rfl, rfl⟩ := by simpa [nest] using h
    exact nested_takeIf hs hk fun ht => State.plainFor_one_of_atIdent ht
  | opening text lineMode =>
    obtain ⟨ho, rfl, rfl⟩ := by simpa [nest] using h
    exact nested_opening ho hs
  | closing text =>
    match frames, h, hs with
    | [], h, _ => simp [nest] at h
    | (innermost, lineMode) :: others, h, hs =>
      -- the check has it that the innermost open bracket is the one this token closes
      obtain ⟨ho, rfl, rfl⟩ := by simpa [nest] using h
      exact nested_closing ho hs
  | seq first second ih₁ ih₂ =>
    obtain ⟨⟨j, between⟩, hfirst, hsecond⟩ := Option.bind_eq_some_iff.1 h
    exact (ih₁ hfirst hs hk).bind fun hm hnext => ih₂ hsecond hm hnext
  | branch look yes no ih₁ ih₂ =>
    obtain ⟨⟨j₁, f₁⟩, hn₁, h⟩ := Option.bind_eq_some_iff.1 h
    obtain ⟨⟨j₂, f₂⟩, hn₂, h⟩ := Option.bind_eq_some_iff.1 h
    obtain ⟨rfl, rfl, rfl⟩ := by simpa using h
    rw [run_branch]
    split
    · next hl =>
      -- the answer to the question tells more of the next tokens than was known before
      exact (ih₁ hn₁ hs (hk.max (Look.plainFor_of_holds hl))).mono (Nat.min_le_left _ _)
    · exact (ih₂ hn₂ hs hk).mono (Nat.min_le_right _ _)
  | repeatWhile look round ih =>
    obtain ⟨⟨j, f⟩, hn, h⟩ := Option.bind_eq_some_iff.1 h
    obtain ⟨rfl, rfl, rfl⟩ := by simpa using h
    exact nested_iterate (fun hs hl => ih hn hs (Look.plainFor_of_holds hl)) _ hs
  | endOfStatement look e =>
    obtain ⟨rfl, rfl⟩ := by simpa [nest] using h
    simp only [run]
    split
    · exact .refl hs hk
    · exact .of_stop hs e
  | call c =>
    obtain ⟨rfl, rfl⟩ := by simpa [nest] using h
    exact hc c hs

/-- The rule of each construct closes what it opens. -/
theorem nest_construct (c : Construct) : ∃ k, nest 0 [] (construct c) = some (k, []) := by
  cases c
  · exact ⟨0, by decide⟩
  · exact ⟨0, by decide⟩

/-- Types and expressions nest their brackets, with any budget of levels. -/
theorem nested_read (levels : Nat) (c : Construct) {frames : List Frame} {s : State}
    (hs : s.Holds base modes frames) :
    Nested base modes frames frames 0 s (read levels c s) := by
  induction levels generalizing c frames s with
  | zero => exact .of_stop hs _
  | succ levels ih =>
    obtain ⟨k, hk⟩ := nest_construct c
    exact (nested_run (fun c {_ _} => ih c) hk hs (State.plainFor_zero s)).mono (Nat.zero_le k)

/-- Statements nest their brackets. -/
theorem nested_readStatement {frames : List Frame} {s : State}
    (hs : s.Holds base modes frames) :
    Nested base modes frames frames 0 s (readStatement s) := by
  have hn : nest 0 [] statement = some (0, []) := by decide
  exact nested_run (fun c {_ _} => nested_read maxNesting c) hn hs (State.plainFor_zero s)

end Rule
end StatementReader
