import StatementReader.Proofs.Editor.Accounting
import StatementReader.Session

/-!
# The course of a session

A session is a row of rounds (`Round`), in each of which its editor reads a statement and the outcome
is answered (`Session.Takes`). A round begins with the session that the one before it has left, so
the outcomes are those that the editor has given, one after the other, of the feed (`Session.Course`).

What a session has kept at its end is told by these outcomes alone: the entries of its history, the
records at the end of its file, the names it has learnt and the numbers in its answers. A round adds
to each of these what its outcome says, before the answer is printed (`Session.Leads`), so it does
not matter whether printing the last answer fails. And an outcome says what happened: whatever was
submitted and left on the screen in a round has the parser's verdict as its outcome (`Accounts`).

The number of rounds is bounded by what is to come: every round but the last takes a reading or
meets a fault that was due (`Session.exists_course`).
-/

namespace StatementReader

/-! ### What an outcome says -/

namespace ReadOutcome

/-- The records of what was submitted. -/
def records : ReadOutcome → List HistoryRecord
  | success text _ => [⟨text, true⟩]
  | rejected text _ => [⟨text, false⟩]
  | skip | exit | broken _ => []

/-- The statements to learn from. -/
def learnt : ReadOutcome → List Text
  | success _ tokens => tokens
  | rejected .. | skip | exit | broken _ => []

/-- The text, if it was accepted. -/
def accepted : ReadOutcome → List Text
  | success text _ => [text]
  | rejected .. | skip | exit | broken _ => []

/-- The answer, after `n` texts have been accepted in earlier rounds. -/
def reply? (n : Nat) : ReadOutcome → Option Text
  | success text _ => some ("res".toList ++ Text.decimal (n + 1) ++ ": ".toList ++ text)
  | rejected _ error => some error.message
  | broken fault => some fault.message
  | skip | exit => none

theorem records_eq (o : ReadOutcome) : o.records = o.entries.map HistoryRecord.ofEntry := by
  cases o <;> rfl

end ReadOutcome

/-! ### Files -/

/-- The file with a content, or no file yet. -/
def FileState.ofContent? (content : Option Bytes) : FileState := content.elim missing file

namespace HistoryFile

/-- The content of a history file after records have been appended to it. -/
def extend (content : Option Bytes) (records : List HistoryRecord) : Option Bytes :=
  if records = [] then content else some (content.getD [] ++ records.flatMap lineOf)

/-- Records that are appended later come behind the earlier ones. -/
theorem extend_append (content : Option Bytes) (records records' : List HistoryRecord) :
    extend (extend content records) records' = extend content (records ++ records') := by
  cases records <;> cases records' <;> simp [extend]

/-- Appending an entry extends the content by its record. -/
theorem append_ofContent? (entry : HistoryEntry) (content : Option Bytes) :
    append entry (.ofContent? content) = .ok (.ofContent? (extend content [.ofEntry entry])) := by
  cases content <;> simp [append, FileState.ofContent?, FileState.append, extend]

end HistoryFile

/-! ### Rounds -/

/-- A round of a session. -/
structure Round where
  outcome : ReadOutcome
  /-- What happened while the statement was read. -/
  reading : List Act
  /-- Why the answer could not be printed, if it could not. -/
  failure : Option Text

/-- What happened in a round, after `n` texts had been accepted: what was read, and the answer. -/
def Round.acts (n : Nat) (r : Round) : List Act :=
  r.reading ++ (r.outcome.reply? n).toList.map fun text =>
    .print (Display.plainRows text) r.failure

/-- What happened in rounds, after `n` texts had been accepted. -/
def Round.trace : Nat → List Round → List Act
  | _, [] => []
  | n, r :: rounds => r.acts n ++ trace (n + r.outcome.accepted.length) rounds

namespace Editor

/-- The editor after an answer, if there is one, with why it could not be printed. -/
def tell (e : Editor) : Option Text → Editor × Option Text
  | none => (e, none)
  | some text => ({ e with display := (e.display.printText text).1 }, (e.display.printText text).2)

variable {e e' : Editor} {reply : Option Text} {failure : Option Text}

/-- An answer leaves the history alone. -/
theorem history_of_tell (h : e.tell reply = (e', failure)) : e'.history = e.history := by
  obtain ⟨rfl, -⟩ := Prod.mk.inj h
  cases reply <;> rfl

/-- An answer is the only thing that happens. No reading is taken, and the buffer is not shown. -/
theorem adds_of_tell (h : e.tell reply = (e', failure)) : e'.feed = e.feed ∧
    e.display.Adds (reply.toList.map fun text => .print (Display.plainRows text) failure)
      e'.display := by
  obtain ⟨rfl, rfl⟩ := Prod.mk.inj h
  cases reply with
  | none => exact ⟨rfl, .refl _⟩
  | some text => exact ⟨rfl, Display.adds_print ..⟩

end Editor

namespace Session

/-- The content of the history file after records, which are kept only if history is enabled. -/
def fileAfter (settings : Settings) (content : Option Bytes) (records : List HistoryRecord) :
    FileState :=
  .ofContent? (if settings.historyEnabled then HistoryFile.extend content records else content)

/-- Rounds lead from one session to another. -/
structure Leads (s : Session) (seed : List Text) (rounds : List Round) (t : Session) : Prop where
  settings : t.settings = s.settings
  history : t.editor.history.entries =
    s.editor.history.entries ++ seededEntries seed ++ rounds.flatMap (·.outcome.entries)
  file : ∀ content, s.file = .ofContent? content →
    t.file = fileAfter s.settings content (rounds.flatMap (·.outcome.records))
  symbols : t.symbols = (rounds.flatMap (·.outcome.learnt)).foldl Symbols.learn s.symbols
  results : t.results = s.results + (rounds.flatMap (·.outcome.accepted)).length
  display : t.editor.display.history = s.editor.display.history ++ Round.trace s.results rounds

/-- What rounds lead to after one more round in front of them. -/
theorem Leads.cons {s t u : Session} {seed : List Text} {r : Round} {rounds : List Round}
    (h : s.Leads seed [r] t) (hrest : t.Leads [] rounds u) : s.Leads seed (r :: rounds) u where
  settings := hrest.settings.trans h.settings
  history := by
    rw [hrest.history, h.history]
    simp [seededEntries]
  file := fun content hfile => by
    -- the first round extends the file, and the others extend what it has left
    have hone := h.file content hfile
    have hall := hrest.file _ hone
    rw [hall, h.settings]
    unfold fileAfter
    split <;> simp [HistoryFile.extend_append]
  symbols := by
    rw [hrest.symbols, h.symbols]
    simp
  results := by
    rw [hrest.results, h.results]
    simp [Nat.add_assoc]
  display := by
    rw [hrest.display, h.display, h.results]
    simp [Round.trace]

/-- Only the file and the warnings may change when an entry is kept. -/
theorem persistLast_eq (s : Session) :
    ∃ file warnings, s.persistLast = { s with file := file, warnings := warnings } := by
  unfold persistLast
  split
  · split
    · exact ⟨_, _, rfl⟩
    · split <;> exact ⟨_, _, rfl⟩
  · exact ⟨_, _, rfl⟩

/-- The latest entry is added to the file, if history is enabled. -/
theorem file_persistLast (s : Session) {content : Option Bytes} (h : s.file = .ofContent? content)
    {entries : List HistoryEntry} {entry : HistoryEntry}
    (hlast : s.editor.history.entries = entries ++ [entry]) :
    s.persistLast.file = fileAfter s.settings content [.ofEntry entry] := by
  unfold persistLast fileAfter
  split
  · simp [hlast, h, HistoryFile.append_ofContent?]
  · exact h

/-! ### One round -/

variable {s t u : Session} {seed : List Text} {outcome : ReadOutcome} {editor : Editor}

/-- What was submitted is kept, and nothing else. -/
theorem read_eq (h : s.editor.readStatement s.setup seed = (outcome, editor)) :
    s.read seed = (outcome, if outcome.entries = [] then { s with editor := editor }
      else { s with editor := editor }.persistLast) := by
  have hsubmitted := s.editor.submitted_readStatement s.setup seed
  rw [h] at hsubmitted
  dsimp only at hsubmitted
  -- the submissions are counted, but it is the outcome that tells whether there is a new one
  have hgrown : s.editor.history.submitted.length < editor.history.submitted.length ↔
      ¬ outcome.entries = [] := by
    rw [hsubmitted, List.length_append, ← List.length_eq_zero_iff]
    omega
  simp only [read, h, hgrown, ite_not]

/-- The editor reads the statement, and what was submitted is added to the file. -/
structure Reads (s : Session) (seed : List Text) (outcome : ReadOutcome) (t : Session) : Prop where
  settings : t.settings = s.settings
  editor : s.editor.readStatement s.setup seed = (outcome, t.editor)
  file : ∀ content, s.file = .ofContent? content →
    t.file = fileAfter s.settings content outcome.records
  symbols : t.symbols = s.symbols
  results : t.results = s.results

theorem reads_of_read (h : s.read seed = (outcome, t)) : Reads s seed outcome t := by
  rcases hresult : s.editor.readStatement s.setup seed with ⟨o, editor⟩
  obtain ⟨rfl, rfl⟩ := Prod.mk.inj ((read_eq hresult).symm.trans h)
  obtain ⟨file, warnings, hkept⟩ := persistLast_eq { s with editor := editor }
  refine ⟨?_, ?_, fun content hfile => ?_, ?_, ?_⟩
  · split <;> simp [hkept]
  · split <;> simp [hkept, hresult]
  · -- the file grows by what has been recorded, which is at most one entry
    rw [o.records_eq]
    split
    · next hnone => simpa [hnone, fileAfter, HistoryFile.extend] using hfile
    · next hsome =>
      have hentries := s.editor.entries_readStatement s.setup seed
      obtain ⟨entry, hentry⟩ : ∃ entry, o.entries = [entry] := by
        cases o <;> simp_all [ReadOutcome.entries]
      rw [hresult, hentry] at hentries
      rw [hentry]
      exact file_persistLast { s with editor := editor } hfile hentries
  · split <;> simp [hkept]
  · split <;> simp [hkept]

/-- An answer learns from what was accepted, counts it and is printed, and that is all but for the
warnings. -/
theorem exists_respond_eq (t : Session) (outcome : ReadOutcome) : ∃ warnings, t.respond outcome =
    ({ t with
        editor := (t.editor.tell (outcome.reply? t.results)).1
        symbols := outcome.learnt.foldl Symbols.learn t.symbols
        results := t.results + outcome.accepted.length
        warnings := warnings },
      (t.editor.tell (outcome.reply? t.results)).2) := by
  -- only an accepted text changes more than what is printed
  cases outcome <;> exact ⟨_, rfl⟩

/-- A round: the editor reads a statement, what was submitted is added to the file, and the outcome
is learnt from, counted and answered. -/
structure Takes (s : Session) (seed : List Text) (r : Round) (t : Session) : Prop where
  settings : t.settings = s.settings
  outcome : (s.editor.readStatement s.setup seed).1 = r.outcome
  reading : (s.editor.readStatement s.setup seed).2.display.history =
    s.editor.display.history ++ r.reading
  answer : (s.editor.readStatement s.setup seed).2.tell (r.outcome.reply? s.results) =
    (t.editor, r.failure)
  file : ∀ content, s.file = .ofContent? content →
    t.file = fileAfter s.settings content r.outcome.records
  symbols : t.symbols = r.outcome.learnt.foldl Symbols.learn s.symbols
  results : t.results = s.results + r.outcome.accepted.length

theorem takes_of_round {failure : Option Text} (hread : s.read seed = (outcome, t))
    (hrespond : t.respond outcome = (u, failure)) :
    ∃ reading, s.Takes seed ⟨outcome, reading, failure⟩ u := by
  have hreads := reads_of_read hread
  obtain ⟨warnings, hanswer⟩ := t.exists_respond_eq outcome
  obtain ⟨rfl, rfl⟩ := Prod.mk.inj (hrespond.symm.trans hanswer)
  obtain ⟨reading, hdisplay, -⟩ := s.editor.accounts_readStatement s.setup seed
  -- reading has counted and learnt nothing, so the answer begins with what there was
  refine ⟨reading, hreads.settings, ?_, hdisplay, ?_, hreads.file, ?_, ?_⟩
  · rw [hreads.editor]
  · rw [hreads.editor, ← hreads.results]
  · exact congrArg (fun symbols => outcome.learnt.foldl Symbols.learn symbols) hreads.symbols
  · exact congrArg (· + outcome.accepted.length) hreads.results

namespace Takes

variable {r : Round}

/-- What happened while the statement was read agrees with the outcome. -/
theorem accounts (h : s.Takes seed r t) : Accounts r.reading r.outcome := by
  obtain ⟨acts, hacts, -, haccounts⟩ := s.editor.accounts_readStatement s.setup seed
  obtain rfl : r.reading = acts := List.append_cancel_left (h.reading.symm.trans hacts)
  rwa [h.outcome] at haccounts

/-- What a round leads to. -/
theorem leads (h : s.Takes seed r t) : s.Leads seed [r] t where
  settings := h.settings
  history := by
    rw [Editor.history_of_tell h.answer, Editor.entries_readStatement, h.outcome]
    simp
  file := fun content hfile => by simp [h.file content hfile]
  symbols := by simp [h.symbols]
  results := by simp [h.results]
  display := by
    rw [(Editor.adds_of_tell h.answer).2.acts, h.reading]
    simp [Round.trace, Round.acts]

end Takes

/-! ### All rounds -/

/-- The rounds of a session, each of which begins where the one before it has ended. The last one
ends the input, or its answer cannot be printed. -/
inductive Course : Session → List Text → List Round → Round → SessionEnd → Prop
  | last {s t : Session} {seed : List Text} {r : Round} (h : s.Takes seed r t)
      (hends : r.failure = none → r.outcome = .exit) :
      Course s seed [] r ⟨t, r.failure.map .print⟩
  | next {s t : Session} {seed : List Text} {r last : Round} {rounds : List Round} {e : SessionEnd}
      (h : s.Takes seed r t) (hgo : r.outcome ≠ .exit) (hanswer : r.failure = none)
      (hrest : Course t [] rounds last e) : Course s seed (r :: rounds) last e

/-- The readings to come and the faults due when the buffer is shown. -/
def budget (s : Session) : Nat := Editing.budget s.editor.feed s.editor.display

/-- A round that does not end the input takes a reading, or meets a fault that was due. -/
theorem Takes.budget_lt {r : Round} (h : s.Takes seed r t) (hgo : r.outcome ≠ .exit) :
    t.budget < s.budget := by
  obtain ⟨acts, hrounds⟩ := s.editor.exists_rounds s.setup seed
  have hless := hrounds.budget_lt fun hexit => hgo (h.outcome.symm.trans hexit)
  obtain ⟨hfeed, hadds⟩ := Editor.adds_of_tell h.answer
  rw [budget, budget, Editing.budget, hfeed, hadds.faults]
  exact hless

/-- As many rounds as there are readings and faults to come are enough. -/
theorem exists_course {count : Nat} (s : Session) (seed : List Text) (h : s.budget < count) :
    ∃ rounds last, Course s seed rounds last (runFor count s seed) := by
  -- a round that goes on uses up some of the budget, so the count is never what ends the session
  induction count generalizing s seed with
  | zero => exact absurd h (Nat.not_lt_zero _)
  | succ count ih =>
    rcases hread : s.read seed with ⟨outcome, t⟩
    rcases hrespond : t.respond outcome with ⟨u, failure⟩
    obtain ⟨reading, htakes⟩ := takes_of_round hread hrespond
    simp only [runFor, hread, hrespond]
    cases failure with
    | some message => exact ⟨[], _, .last htakes (fun h => by cases h)⟩
    | none =>
      dsimp only
      split
      · next hexit => exact ⟨[], _, .last htakes fun _ => hexit⟩
      · next hgo =>
        have hless := htakes.budget_lt hgo
        obtain ⟨rounds, last, hcourse⟩ := ih u [] (by omega)
        exact ⟨_ :: rounds, last, .next htakes hgo rfl hcourse⟩

namespace Course

variable {rounds : List Round} {last : Round} {e : SessionEnd}

/-- A session's rounds lead to its end. -/
theorem leads (h : Course s seed rounds last e) : s.Leads seed (rounds ++ [last]) e.session := by
  induction h with
  | last h _ => exact h.leads
  | next h _ _ _ ih => exact h.leads.cons ih

/-- What happened in each round agrees with its outcome. -/
theorem accounts (h : Course s seed rounds last e) :
    ∀ r ∈ rounds ++ [last], Accounts r.reading r.outcome := by
  induction h with
  | last h _ => exact List.forall_mem_singleton.2 h.accounts
  | next h _ _ _ ih => exact List.forall_mem_cons.2 ⟨h.accounts, ih⟩

/-- The session breaks off if the last answer cannot be printed, and otherwise the input has
ended. -/
theorem ends (h : Course s seed rounds last e) :
    (last.failure = none → last.outcome = .exit) ∧ e.fault = last.failure.map .print := by
  induction h with
  | last _ hends => exact ⟨hends, rfl⟩
  | next _ _ _ _ ih => exact ih

/-- Every round but the last goes on, with its answer printed. -/
theorem goes_on (h : Course s seed rounds last e) :
    ∀ r ∈ rounds, r.outcome ≠ .exit ∧ r.failure = none := by
  induction h with
  | last => exact List.forall_mem_nil _
  | next _ hgo hanswer _ ih => exact List.forall_mem_cons.2 ⟨⟨hgo, hanswer⟩, ih⟩

end Course

/-! ### The end -/

/-- The texts that a session is seeded with: those of its history file, if that can be read. -/
def seeds (settings : Settings) (file : FileState) : List Text :=
  if settings.historyEnabled then (HistoryFile.load settings.maxSeed file).1.toOption.getD [] else []

/-- Loading the file changes nothing but the warnings. -/
theorem loadSeed_eq (s : Session) :
    ∃ warnings, s.loadSeed = (seeds s.settings s.file, { s with warnings := warnings }) := by
  unfold loadSeed seeds
  split
  · rcases HistoryFile.load s.settings.maxSeed s.file with ⟨loaded, malformed⟩
    cases loaded with
    | ok texts => exact ⟨_, rfl⟩
    | error e => exact ⟨_, rfl⟩
  · exact ⟨s.warnings, rfl⟩

/-- A session that is run goes through rounds, seeded with the texts of its file. -/
theorem exists_course_run (s : Session) : ∃ warnings rounds last,
    Course { s with warnings := warnings } (seeds s.settings s.file) rounds last s.run := by
  obtain ⟨warnings, hload⟩ := s.loadSeed_eq
  unfold run
  rw [hload]
  exact ⟨warnings, exists_course _ _ (Nat.lt_succ_self _)⟩

/-- A session reads and answers in rounds (`Course`), each of which begins with what the one before
it has left, until the input ends or an answer cannot be printed. What its editor answers in a round
tells what happened there: a text that was submitted and left on the screen has the parser's verdict
as its outcome, and no other outcome adds anything. At the end, the file has grown by the records of
what was submitted, if history is enabled; the history has the texts of the file at the front and
then what was submitted; the statements of what was accepted have been learnt; and each round's
answer, which for the `k`-th accepted text has the number `k`, was printed after what was read for it
and before anything else. -/
theorem run_course (settings : Settings) (content : Option Bytes) (feed : List Reading)
    (display : Display) :
    let start := Session.start settings (.ofContent? content) (.start feed display)
    let session := start.run.session
    ∃ warnings rounds last,
      Course { start with warnings := warnings } (seeds settings (.ofContent? content)) rounds last
        start.run ∧
      (∀ r ∈ rounds, r.outcome ≠ .exit ∧ r.failure = none) ∧
      (last.failure = none → last.outcome = .exit) ∧
      start.run.fault = last.failure.map .print ∧
      (∀ r ∈ rounds ++ [last], Accounts r.reading r.outcome) ∧
      session.file = fileAfter settings content ((rounds ++ [last]).flatMap (·.outcome.records)) ∧
      session.editor.history.entries = seededEntries (seeds settings (.ofContent? content)) ++
        (rounds ++ [last]).flatMap (·.outcome.entries) ∧
      session.symbols = ((rounds ++ [last]).flatMap (·.outcome.learnt)).foldl Symbols.learn .empty ∧
      session.results = ((rounds ++ [last]).flatMap (·.outcome.accepted)).length ∧
      session.editor.display.history = display.history ++ Round.trace 0 (rounds ++ [last]) := by
  intro start session
  obtain ⟨warnings, rounds, last, hcourse⟩ := start.exists_course_run
  have hleads := hcourse.leads
  -- the session starts with no result, so the answers are numbered from one
  have hresults : session.results = 0 + _ := hleads.results
  rw [Nat.zero_add] at hresults
  exact ⟨warnings, rounds, last, hcourse, hcourse.goes_on, hcourse.ends.1, hcourse.ends.2,
    hcourse.accounts, hleads.file content rfl, hleads.history, hleads.symbols, hresults,
    hleads.display⟩

end Session

end StatementReader
