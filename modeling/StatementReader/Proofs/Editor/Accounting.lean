import StatementReader.Proofs.Editor.Timely

/-!
# What the history holds

Statements are read one after the other, and between two calls anything may happen to the console:
more readings arrive, readings are lost, faults fall due (`Call`). The history is the editor's own,
and each call adds to it the texts it is given and then what its outcome says, and nothing else
(`Editor.entries_readStatement`). So the submissions in it are those of the outcomes, in order.

An outcome is no mere word for this. What happened at the display while the statement was read tells
the same (`Accounts`): whatever was submitted and left on the screen has the parser's verdict as its
outcome, and the console is blamed for nothing that it has not failed to do.
-/

namespace StatementReader

/-- Texts as the entries that they are seeded as. -/
def seededEntries (texts : List Text) : List HistoryEntry := texts.map (⟨·, .seeded⟩)

/-- What happened while a statement was read and the outcome agree. -/
structure Accounts (acts : List Act) (outcome : ReadOutcome) : Prop where
  /-- Something was shown right before each reading. -/
  shown : ∀ {older : List Act} {reading : Reading} {newer : List Act},
    acts = older ++ .read reading :: newer → ∃ oldest view, older = oldest ++ [.render view none]
  /-- If this is then submitted, it is settled at once: what can be left on the screen is, and then
  the reading is over, with the parser's verdict as the outcome. -/
  settled : ∀ {older : List Act} {view : EditView} {event : InputEvent} {newer : List Act},
    acts = older ++ .render view none :: .read (.event event) :: newer →
      event.command? view.text.isEmpty = some .submit → Editing.Settled view newer outcome
  /-- The outcome adds to the history if the reading has ended with a submission, and only then. -/
  submitted : outcome.entries ≠ [] ↔ ∃ view, Editing.EndsWithSubmission view acts
  /-- The console is blamed for a call that failed, if one did, and there was no other. -/
  faults : Act.faults acts = outcome.fault?.toList

/-! ### One statement -/

namespace Editor

variable (e : Editor) (setup : ReadSetup) (seed : List Text)

/-- The state in which the editor begins to read a statement. -/
def opening : Editing.State := ⟨e.history.seed seed, .empty, e.display⟩

/-- The acts of a reading, which are the rounds that it makes. -/
theorem exists_rounds : ∃ acts, Editing.Rounds setup e.feed (e.opening seed) acts
    (Editing.run setup e.feed (e.opening seed)) :=
  Editing.exists_rounds setup e.feed (e.opening seed)

theorem entries_readStatement : (e.readStatement setup seed).2.history.entries =
    e.history.entries ++ seededEntries seed ++ (e.readStatement setup seed).1.entries := by
  obtain ⟨acts, hrounds⟩ := e.exists_rounds setup seed
  exact hrounds.entries

/-- While a statement is read, some acts are added to those of the display, each when it should be,
and the outcome accounts for them. -/
theorem accounts_readStatement : ∃ acts,
    (e.readStatement setup seed).2.display.history = e.display.history ++ acts ∧
      Editing.AllTimely setup e.feed (e.opening seed) (e.readStatement setup seed).1 [] acts ∧
      Accounts acts (e.readStatement setup seed).1 := by
  obtain ⟨acts, hrounds⟩ := e.exists_rounds setup seed
  have htimely : Editing.AllTimely setup e.feed (e.opening seed) (e.readStatement setup seed).1 []
      acts := hrounds.allTimely .start (List.append_nil _).symm
  refine ⟨acts, hrounds.display, htimely, fun hread => ?_, fun hread hcommand => ?_,
    ⟨fun hentries => ?_, ?_⟩, hrounds.faults⟩
  · -- a reading is taken in a state whose buffer has just been shown
    rw [hread] at htimely
    obtain ⟨s, ⟨-, oldest, holdest, -⟩, -⟩ := htimely.timely
    exact ⟨oldest, _, holdest⟩
  · rw [hread] at htimely
    obtain ⟨buffer, -, hsettled⟩ := htimely.settled
    exact hsettled hcommand
  · -- an outcome with an entry is a verdict, and the reading has ended with it
    obtain ⟨buffer, accepted, hends, -⟩ := hrounds.endsWithSubmission hentries
    exact ⟨_, hends⟩
  · -- the last act was to leave the text on the screen, so it has been judged
    rintro ⟨view, older, event, rfl, -, hcommand⟩
    obtain ⟨buffer, -, hsettled⟩ := htimely.settled
    obtain ⟨accepted, hverdict⟩ := (hsettled hcommand).exists_verdict
    exact hverdict.entries_ne_nil

theorem isSubmitted_of_mem_entries {outcome : ReadOutcome} {entry : HistoryEntry}
    (h : entry ∈ outcome.entries) : entry.isSubmitted = true := by
  cases outcome <;> simp_all [ReadOutcome.entries, HistoryEntry.isSubmitted]

/-- What is seeded is not submitted, so the submissions of a call are those of its outcome. -/
theorem submitted_readStatement : (e.readStatement setup seed).2.history.submitted =
    e.history.submitted ++ (e.readStatement setup seed).1.entries := by
  have hseeded : (seededEntries seed).filter (·.isSubmitted) = [] := by
    simp [seededEntries, HistoryEntry.isSubmitted]
  have houtcome : (e.readStatement setup seed).1.entries.filter (·.isSubmitted) = _ :=
    List.filter_eq_self.2 fun _ => isSubmitted_of_mem_entries
  rw [History.submitted, entries_readStatement, List.filter_append, List.filter_append, hseeded,
    houtcome, List.append_nil, History.submitted]

end Editor

/-! ### Calls -/

/-- A call for a statement. -/
structure Call where
  setup : ReadSetup
  seed : List Text
  /-- What becomes of the readings left over before the call is made. -/
  feed : List Reading → List Reading
  /-- What becomes of the display. -/
  display : Display → Display

namespace Editor

/-- The editor when a call is made. -/
def arrange (e : Editor) (c : Call) : Editor := ⟨e.history, c.feed e.feed, c.display e.display⟩

/-- Reads the statement of a call. -/
def answer (e : Editor) (c : Call) : ReadOutcome × Editor :=
  (e.arrange c).readStatement c.setup c.seed

/-- Reads the statements of calls, one after the other. -/
def readAll : Editor → List Call → List ReadOutcome × Editor
  | e, [] => ([], e)
  | e, c :: calls =>
    let (outcome, e) := e.answer c
    let (outcomes, e) := e.readAll calls
    (outcome :: outcomes, e)

/-- The submissions of calls are those of their outcomes, in order. -/
theorem submitted_readAll (e : Editor) (calls : List Call) :
    (e.readAll calls).2.history.submitted =
      e.history.submitted ++ (e.readAll calls).1.flatMap (·.entries) := by
  induction calls generalizing e with
  | nil => exact (List.append_nil _).symm
  | cons c calls ih =>
    have hfirst : (e.answer c).2.history.submitted = e.history.submitted ++ _ :=
      submitted_readStatement (e.arrange c) c.setup c.seed
    simp only [readAll, List.flatMap_cons, ih, hfirst, List.append_assoc]
    rfl

/-- After any calls, one more call adds to the history the texts that it is given and, if its
outcome is the parser's verdict on a text, this text as one entry. While it reads nothing else is
added. The outcome is such a verdict if a text of the buffer was then submitted and left on the
screen, and only then; and it blames the console if a call of it has failed, and only then. So the
submissions in the history are those that the outcomes tell of. -/
theorem history_readAll (e : Editor) (calls : List Call) (c : Call) :
    let before := (e.readAll calls).2
    let start := (before.arrange c).opening c.seed
    let (outcome, after) := before.answer c
    after.history.entries = before.history.entries ++ seededEntries c.seed ++ outcome.entries ∧
      (∃ acts, after.display.history = (c.display before.display).history ++ acts ∧
        Accounts acts outcome ∧
        ∀ older reading newer, acts = older ++ .read reading :: newer →
          ∃ s, Editing.TakenAt c.setup (c.feed before.feed) start older reading s) ∧
      (∀ feed s, Editing.Visits c.setup (c.feed before.feed) start feed s →
        s.history.entries = before.history.entries ++ seededEntries c.seed) ∧
      after.history.submitted =
        e.history.submitted ++ (e.readAll calls).1.flatMap (·.entries) ++ outcome.entries := by
  intro before start
  refine ⟨entries_readStatement (before.arrange c) c.setup c.seed, ?_, fun feed s h => ?_, ?_⟩
  · obtain ⟨acts, hacts, htimely, haccounts⟩ :=
      accounts_readStatement (before.arrange c) c.setup c.seed
    refine ⟨acts, hacts, haccounts, fun older reading newer hread => ?_⟩
    rw [hread] at htimely
    obtain ⟨s, htaken, -⟩ := htimely.timely
    exact ⟨s, htaken⟩
  · rw [h.history]
    rfl
  · rw [← submitted_readAll]
    exact submitted_readStatement (before.arrange c) c.setup c.seed

end Editor

end StatementReader
