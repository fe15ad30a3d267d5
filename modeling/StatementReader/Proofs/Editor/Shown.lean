import StatementReader.Proofs.Editor.Accounting
import StatementReader.Proofs.Lexeme.LineBreak

/-!
# What is shown is what is submitted

The editor shows the buffer before every reading and, with it, whether the statement in it is still
pending. That is found out by a parse that probes; a submission is decided by one that commits. The
two agree on every text (`EditBuffer.isPending_iff`), and nothing happens to the buffer between
showing it and submitting it, so the user can rely on what is on the screen
(`Editor.shownAsSubmitted`).

All this is about the acts that the display has noted, those that failed among them.
-/

namespace StatementReader

/-! ### Finished statements -/

/-- A blank text has no statement, so it is finished. -/
theorem split_of_isAllBlank {t : Text} (h : Text.isAllBlank t) : split t = .statements [] := by
  have hdrop : t.dropWhile Text.isBlank = [] := List.dropWhile_eq_nil_iff.2 (List.all_eq_true.1 h)
  rw [split, TokenRow.ofText, Lexeme.scan, Lexeme.scanFrom_of_blank hdrop]
  rfl

/-- A buffer is shown as pending if submitting it would not accept it. -/
theorem EditBuffer.isPending_iff (b : EditBuffer) :
    b.isPending ↔ ¬ (parse b.text .committing).IsComplete := by
  rw [isComplete_committing_iff, ← isComplete_probing_iff, isPending, isEmpty]
  by_cases hnil : b.text = []
  · have hsplit : split b.text = .statements [] := split_of_isAllBlank (by rw [hnil]; rfl)
    have hcomplete := isComplete_probing_iff.2 ⟨[], hsplit⟩
    simp [hnil ▸ hcomplete, hnil]
  · rw [parse, parseAt]
    cases split b.text <;> simp [hnil, Outcome.ofSplit, Outcome.isIncomplete, Outcome.IsComplete]

theorem EditBuffer.isPending_eq_false (b : EditBuffer) {words : List Word}
    {activeWord : Option ActiveWord} {consumed : Nat}
    (h : parse b.text .committing = .complete words activeWord consumed) : b.isPending = false :=
  eq_false_of_ne_true fun hpending => b.isPending_iff.1 hpending ⟨_, _, _, h⟩

/-! ### Statements as they are shown -/

/-- The acts end with a text that is shown as finished, submitted, and left on the screen as the only
one. The statements of the text are the tokens. -/
def EndsAccepted (acts : List Act) (text : Text) (tokens : List Text) : Prop :=
  ∃ older view event words activeWord consumed,
    acts = older ++ [.render view none, .read (.event event), .commit view none] ∧
    (∀ view' failure, .commit view' failure ∉ older) ∧
    event.command? view.text.isEmpty = some .submit ∧
    view.text = text ∧ ¬ Text.isAllBlank text ∧ view.pending = false ∧
    parse text .committing = .complete words activeWord consumed ∧ tokens = words.map (·.text)

/-- An accepted text was shown, submitted and committed, in this order and last of all. -/
theorem Editing.Rounds.endsAccepted {setup : ReadSetup} {feed : List Reading} {s : State}
    {acts : List Act} {finish : Finish} {text : Text} {tokens : List Text}
    (h : Rounds setup feed s acts finish) (haccepted : finish.outcome = .success text tokens) :
    EndsAccepted acts text tokens := by
  have hentries : finish.outcome.entries ≠ [] := by
    rw [haccepted]
    exact List.cons_ne_nil _ _
  obtain ⟨buffer, accepted, ⟨older, event, hacts, hnone, hcommand⟩, hfilled, hverdict⟩ :=
    h.endsWithSubmission hentries
  rw [haccepted] at hverdict
  cases hverdict with
  | accepted hparse =>
    exact ⟨older, _, event, _, _, _, hacts, hnone, hcommand, rfl, hfilled,
      buffer.isPending_eq_false hparse, hparse, rfl⟩

namespace Editing

variable {setup : ReadSetup} {buffer : EditBuffer} {newer : List Act} {outcome : ReadOutcome}

/-- What is pending when it is submitted is turned down, or goes on with one more line. -/
theorem Settled.of_isPending (h : Settled (buffer.view setup) newer outcome)
    (hpending : buffer.isPending) :
    (∃ error, outcome = .rejected buffer.text error ∧ newer = [.commit (buffer.view setup) none]) ∨
    (∃ message, outcome = .broken (.commit message) ∧
      newer = [.commit (buffer.view setup) (some message)]) ∨
    ∃ position next failure newest,
      parse buffer.text .committing = .failure (.missingDelimiter position) ∧
      newer = .render next failure :: newest ∧ next.text = buffer.text ++ ['\n'] ∧
      next.cursor = Text.size next.text := by
  have hunfinished := buffer.isPending_iff.1 hpending
  cases h with
  | blank hblank =>
    -- a blank text is finished, so this one is not blank
    exact absurd (isComplete_committing_iff.2 ⟨[], split_of_isAllBlank hblank⟩) hunfinished
  | committed _ hverdict hnewer =>
    cases hverdict with
    | accepted hparse => exact absurd ⟨_, _, _, hparse⟩ hunfinished
    | rejected => exact .inl ⟨_, rfl, hnewer⟩
  | uncommitted _ _ hnewer houtcome => exact .inr (.inl ⟨_, houtcome, hnewer⟩)
  | continued _ hparse hnewer htext hcursor =>
    exact .inr (.inr ⟨_, _, _, _, hparse, hnewer, htext, hcursor⟩)

/-- What is finished when it is submitted is accepted, if it can be left on the screen. -/
theorem Settled.of_finished (h : Settled (buffer.view setup) newer outcome)
    (hfinished : buffer.isPending = false) (hfilled : ¬ Text.isAllBlank buffer.text) :
    (∃ tokens, outcome = .success buffer.text tokens ∧
      newer = [.commit (buffer.view setup) none]) ∨
    ∃ message, outcome = .broken (.commit message) ∧
      newer = [.commit (buffer.view setup) (some message)] := by
  -- what is shown as finished is complete, because the two parses agree
  have hcomplete : (parse buffer.text .committing).IsComplete := by
    by_contra hunfinished
    have hpending := buffer.isPending_iff.2 hunfinished
    exact Bool.false_ne_true (hfinished.symm.trans hpending)
  obtain ⟨words, activeWord, consumed, hwords⟩ := hcomplete
  cases h with
  | blank hblank => exact absurd hblank hfilled
  | committed _ hverdict hnewer =>
    cases hverdict with
    | accepted => exact .inl ⟨_, rfl, hnewer⟩
    | rejected hparse => cases hwords.symm.trans hparse
  | uncommitted _ _ hnewer houtcome => exact .inr ⟨_, houtcome, hnewer⟩
  | continued _ hparse => cases hwords.symm.trans hparse

end Editing

/-- What is shown in the course of a reading, which begins in a state with a feed, and what is
submitted. -/
structure ShownAsSubmitted (setup : ReadSetup) (feed : List Reading) (start : Editing.State)
    (acts : List Act) (outcome : ReadOutcome) : Prop where
  /-- Right before a reading is taken, the text is shown with the cursor where it is. -/
  read : ∀ {older : List Act} {reading : Reading} {newer : List Act},
    acts = older ++ .read reading :: newer →
      ∃ s oldest view, Editing.TakenAt setup feed start older reading s ∧
        older = oldest ++ [.render view none] ∧ view.text = s.buffer.text ∧
        view.cursor = s.buffer.cursor ∧
        (view.pending = true ↔ ¬ (parse view.text .committing).IsComplete)
  /-- What is left on the screen, or should be, is what was shown last. -/
  commit : ∀ {older : List Act} {view : EditView} {failure : Option Text} {newer : List Act},
    acts = older ++ .commit view failure :: newer → Act.lastRender? older = some (view, none)
  /-- What is accepted was shown as a finished statement. -/
  success : ∀ {text : Text} {tokens : List Text}, outcome = .success text tokens →
    EndsAccepted acts text tokens
  /-- What was shown as pending is not accepted when it is submitted. It goes on with one more line
  if something is left open, and only then. -/
  pending : ∀ {older : List Act} {view : EditView} {event : InputEvent} {newer : List Act},
    acts = older ++ .render view none :: .read (.event event) :: newer →
      event.command? view.text.isEmpty = some .submit → view.pending = true →
        (∃ error, outcome = .rejected view.text error ∧ newer = [.commit view none]) ∨
        (∃ message, outcome = .broken (.commit message) ∧
          newer = [.commit view (some message)]) ∨
        ∃ position next failure newest,
          parse view.text .committing = .failure (.missingDelimiter position) ∧
          newer = .render next failure :: newest ∧ next.text = view.text ++ ['\n'] ∧
          next.cursor = Text.size next.text
  /-- What was shown as finished is accepted when it is submitted, if it can be left on the
  screen. -/
  finished : ∀ {older : List Act} {view : EditView} {event : InputEvent} {newer : List Act},
    acts = older ++ .render view none :: .read (.event event) :: newer →
      event.command? view.text.isEmpty = some .submit → view.pending = false →
      ¬ Text.isAllBlank view.text →
        (∃ tokens, outcome = .success view.text tokens ∧ newer = [.commit view none]) ∨
        ∃ message, outcome = .broken (.commit message) ∧ newer = [.commit view (some message)]

namespace Editor

variable (e : Editor) (setup : ReadSetup) (seed : List Text)

/-- In every reading what is shown is what is submitted, and whatever the display is asked for has
been noted there. -/
theorem shownAsSubmitted : ∃ acts,
    (e.readStatement setup seed).2.display.history = e.display.history ++ acts ∧
      ShownAsSubmitted setup e.feed (e.opening seed) acts (e.readStatement setup seed).1 := by
  obtain ⟨acts, hrounds⟩ := e.exists_rounds setup seed
  have htimely : Editing.AllTimely setup e.feed (e.opening seed) (e.readStatement setup seed).1 []
      acts := hrounds.allTimely .start (List.append_nil _).symm
  refine ⟨acts, hrounds.display, ?_, ?_, hrounds.endsAccepted, ?_, ?_⟩
  · intro older reading newer hacts
    rw [hacts] at htimely
    obtain ⟨s, htaken, -⟩ := htimely.timely
    -- the view shown last is that of the state in which the reading is taken
    obtain ⟨oldest, holder, -⟩ := htaken.shown
    exact ⟨s, oldest, _, htaken, holder, rfl, rfl, s.buffer.isPending_iff⟩
  · intro older view failure newer hacts
    rw [hacts] at htimely
    exact htimely.timely
  · intro older view event newer hacts hcommand hpending
    rw [hacts] at htimely
    obtain ⟨buffer, rfl, hsettled⟩ := htimely.settled
    exact (hsettled hcommand).of_isPending hpending
  · intro older view event newer hacts hcommand hfinished hfilled
    rw [hacts] at htimely
    obtain ⟨buffer, rfl, hsettled⟩ := htimely.settled
    exact (hsettled hcommand).of_finished hfinished hfilled

end Editor

end StatementReader
