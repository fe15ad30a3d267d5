import StatementReader.Proofs.Console.Lines
import StatementReader.Proofs.Edit.Sides
import StatementReader.Proofs.Editor.Accounting

/-!
# Reading a piped input

An editor over a piped input keeps a text that grows line by line, until a line settles what becomes
of it (`takeLine`). No cursor and no queue of readings is needed to say that: the cursor is always
at the end of the text, and at the end of a line nothing of it is left to be read (`Typing`). So the
outcomes that the editor gives, call after call, are those of the lines (`outcomesOf`), and then the
input has ended.
-/

namespace StatementReader

namespace PipedInput

/-! ### Line by line -/

/-- What becomes of a text with the next line: it is gone on with, or there is an outcome. -/
inductive LineStep where
  | goOn (text : Text)
  | stop (outcome : ReadOutcome)
  deriving DecidableEq, Repr

/-- What becomes of a text that is submitted. If something is left open, it is continued on a new
line. -/
def settle (text : Text) : LineStep :=
  if Text.isAllBlank text then .goOn text
  else
    match parse text .committing with
    | .complete words _ _ => .stop (.success text (words.map (·.text)))
    | .failure (.violation message position) =>
      .stop (.rejected text (.violation message position))
    | .failure (.missingDelimiter _) | .incomplete => .goOn (text ++ ['\n'])

/-- What becomes of a text with the next line. -/
def takeLine (text : Text) (line : Bytes) : LineStep :=
  match line.toText? with
  | some t => settle (text ++ typed t)
  | none => .stop (.broken (.reading notText))

/-- The outcomes of lines, the first of which continues a text. -/
def outcomesOf : Text → List Bytes → List ReadOutcome
  | _, [] => []
  | text, line :: lines =>
    match takeLine text line with
    | .goOn text => outcomesOf text lines
    | .stop outcome => outcome :: outcomesOf [] lines

/-- A line never ends the input. -/
theorem ne_exit_of_takeLine {text : Text} {line : Bytes} {outcome : ReadOutcome}
    (h : takeLine text line = .stop outcome) : .exit ≠ outcome := by
  rintro rfl
  revert h
  unfold takeLine settle
  repeat' split
  all_goals exact nofun

/-- The input does not end before all lines have been taken. -/
theorem exit_notMem_outcomesOf (text : Text) (lines : List Bytes) :
    ReadOutcome.exit ∉ outcomesOf text lines := by
  induction lines generalizing text with
  | nil => exact List.not_mem_nil
  | cons line lines ih =>
    rw [outcomesOf]
    split
    · exact ih _
    · next hstop => exact List.not_mem_cons_of_ne_of_not_mem (ne_exit_of_takeLine hstop) (ih _)

/-- There is at most one outcome for each line. -/
theorem length_outcomesOf_le (text : Text) (lines : List Bytes) :
    (outcomesOf text lines).length ≤ lines.length := by
  induction lines generalizing text with
  | nil => exact Nat.le_refl 0
  | cons line lines ih =>
    rw [outcomesOf]
    split
    · exact (ih _).trans (Nat.le_succ _)
    · exact Nat.succ_le_succ (ih _)

end PipedInput

/-! ### The display of a pipe -/

/-- Showing the buffer never fails. -/
def Display.Steady (d : Display) : Prop := d.faults.render = [] ∧ d.faults.commit = []

namespace Display.Steady

variable {d : Display}

theorem note (h : d.Steady) (act : Act) : (d.note act).Steady := h

/-- A steady display shows every view, and stays steady. -/
theorem render (h : d.Steady) (v : EditView) : (d.render v).2 = none ∧ (d.render v).1.Steady :=
  ⟨congrArg FaultPlan.failure? h.1, congrArg FaultPlan.next h.1, h.2⟩

/-- A steady display leaves every view on the screen, and stays steady. -/
theorem commit (h : d.Steady) (v : EditView) : (d.commit v).2 = none ∧ (d.commit v).1.Steady :=
  ⟨congrArg FaultPlan.failure? h.2, h.1, congrArg FaultPlan.next h.2⟩

theorem print (h : d.Steady) (rows : List StyledLine) : (d.print rows).1.Steady := h

end Display.Steady

namespace Editing

open PipedInput

/-- A text is typed, with the cursor at its end. -/
structure Typing (s : State) (text : Text) : Prop where
  draft : s.buffer.draft = .atEnd text
  steady : s.display.Steady

namespace Typing

variable {s : State} {text : Text} {setup : ReadSetup}

theorem note (h : Typing s text) (act : Act) : Typing (s.note act) text := ⟨h.draft, h.steady⟩

/-- What is typed can be shown. -/
theorem exists_shown (h : Typing s text) (setup : ReadSetup) :
    ∃ t, s.render setup = (t, none) ∧ Typing t text := by
  obtain ⟨hshown, hsteady⟩ := h.steady.render (s.buffer.view setup)
  exact ⟨_, Prod.ext rfl hshown, h.draft, hsteady⟩

/-- And it can be left on the screen. -/
theorem exists_committed (h : Typing s text) (setup : ReadSetup) :
    ∃ t, s.commit setup = (t, none) ∧ Typing t text := by
  obtain ⟨hshown, hsteady⟩ := h.steady.commit (s.buffer.view setup)
  exact ⟨_, Prod.ext rfl hshown, h.draft, hsteady⟩

/-- An edit at the end of the text is made there. -/
theorem edit (h : Typing s text) {e : Edit} {text' : Text}
    (hedit : (Sides.atEnd text).edit? e = some (.atEnd text')) :
    Typing (s.update (·.edit e)) text' := by
  refine ⟨?_, h.steady⟩
  have hbuffer : s.buffer.draft = (Sides.atEnd text).draft := by rw [h.draft, Sides.draft_atEnd]
  change (s.buffer.edit e).draft = _
  rw [EditBuffer.edit_eq hbuffer, hedit]
  exact Sides.draft_atEnd text'

/-- What is inserted is typed behind the text. -/
theorem insert (h : Typing s text) (value : Text) :
    Typing (s.update (·.insert value)) (text ++ value) := h.edit rfl

/-- A line break is put behind the text. -/
theorem breakLine (h : Typing s text) : Typing (s.update (·.breakLine)) (text ++ ['\n']) :=
  h.edit (by simp [Sides.edit?, Sides.atEnd])

end Typing

variable {s : State} {text : Text} {setup : ReadSetup}

/-! ### A line -/

/-- What the editor has to do for what becomes of a text. -/
inductive Realizes : LineStep → Step → Prop
  | goOn {text : Text} {t : State} (h : Typing t text) : Realizes (.goOn text) (.goOn t)
  | stop {outcome : ReadOutcome} {t : State} (h : t.display.Steady) :
      Realizes (.stop outcome) (.stop outcome t)

/-- A verdict ends the reading, since the text can be left on the screen. -/
theorem realizes_finish (h : Typing s text) (accepted : Bool) (outcome : ReadOutcome) :
    Realizes (.stop outcome) (finish setup s accepted outcome) := by
  obtain ⟨t, hcommit, ht⟩ := h.exists_committed setup
  rw [finish, hcommit]
  exact .stop ht.steady

/-- A submission settles the text that has been typed. -/
theorem realizes_submit (h : Typing s text) : Realizes (settle text) (submit setup s) := by
  have htext : s.buffer.text = text := congrArg Draft.text h.draft
  rw [settle, submit, htext]
  split
  · exact .goOn h
  · -- the same parse decides on both sides
    cases parse text .committing with
    | complete words activeWord consumed => exact realizes_finish h ..
    | incomplete => exact .goOn h.breakLine
    | failure error =>
      cases error with
      | violation message position => exact realizes_finish h ..
      | missingDelimiter position => exact .goOn h.breakLine

/-- How the reading of a statement goes on after a step. -/
def Step.resume (setup : ReadSetup) (feed : List Reading) : Step → Finish
  | goOn s => run setup feed s
  | stop outcome s => ⟨outcome, feed, s⟩

/-- A steady display shows the buffer, so the next reading is taken. -/
theorem run_cons (h : Typing s text) (setup : ReadSetup) (reading : Reading)
    (feed : List Reading) : ∃ shown, Typing shown text ∧
      run setup (reading :: feed) s = (carryOut setup shown reading).resume setup feed := by
  obtain ⟨shown, hrender, hshown⟩ := h.exists_shown setup
  refine ⟨shown, hshown, ?_⟩
  rw [run, hrender]
  rfl

/-- A line does to the text that is typed what it should, and its readings are all taken. -/
theorem run_line (h : Typing s text) {line : Bytes} (hline : Bytes.lineFeed ∉ line.dropLast)
    (setup : ReadSetup) (feed : List Reading) : ∃ step, Realizes (takeLine text line) step ∧
      run setup (readingsOf line ++ feed) s = step.resume setup feed := by
  unfold takeLine readingsOf
  cases hvalid : line.toText? with
  | none =>
    obtain ⟨shown, hshown, hrun⟩ := run_cons h setup (.fault notText) feed
    exact ⟨_, .stop (hshown.note _).steady, hrun⟩
  | some t =>
    obtain ⟨shown, hshown, hpaste⟩ :=
      run_cons h setup (.event (.paste (pasted t))) (.event .submit :: feed)
    -- a line that is text makes two rounds, one that pastes it and one that submits
    have hpasted : Typing _ (text ++ Text.normalizeBreaks (pasted t)) :=
      (hshown.note (.read (.event (.paste (pasted t))))).insert _
    obtain ⟨shown', hshown', hsubmit⟩ := run_cons hpasted setup (.event .submit) feed
    rw [normalizeBreaks_pasted hline hvalid] at hshown'
    exact ⟨_, realizes_submit (hshown'.note _), hpaste.trans hsubmit⟩

/-- The statement that is read is the first that the lines bring, and the lines after it are left
for the next one. -/
theorem run_lines (h : Typing s text) (setup : ReadSetup) {lines : List Bytes}
    (hlines : ∀ line ∈ lines, Bytes.lineFeed ∉ line.dropLast) :
    ∃ rest t, rest <:+ lines ∧ t.display.Steady ∧
      outcomesOf [] rest = (outcomesOf text lines).tail ∧
      run setup (lines.flatMap readingsOf) s =
        ⟨(outcomesOf text lines).headD .exit, rest.flatMap readingsOf, t⟩ := by
  -- for any text typed so far, because a line may go on with it
  induction lines generalizing s text with
  | nil =>
    obtain ⟨shown, hrender, hshown⟩ := h.exists_shown setup
    refine ⟨[], shown.note (.read (.event .endOfInput)), List.suffix_rfl, ?_, rfl, ?_⟩
    · exact hshown.steady.note _
    · rw [List.flatMap_nil, run, hrender]
      rfl
  | cons line lines ih =>
    obtain ⟨hline, hlines⟩ := List.forall_mem_cons.1 hlines
    obtain ⟨step, hstep, hrun⟩ := run_line h hline setup (lines.flatMap readingsOf)
    rw [List.flatMap_cons, hrun, outcomesOf]
    generalize takeLine text line = next at hstep
    cases hstep with
    | goOn ht =>
      obtain ⟨rest, t', hsuffix, hrest⟩ := ih ht hlines
      exact ⟨rest, t', hsuffix.trans (List.suffix_cons _ _), hrest⟩
    | stop hsteady => exact ⟨lines, _, List.suffix_cons _ _, hsteady, rfl, rfl⟩

end Editing

/-! ### All lines -/

/-- A call for a statement, before which rows are printed. -/
structure PipedCall where
  setup : ReadSetup
  seed : List Text
  printed : List (List StyledLine)

/-- The display after rows have been printed. -/
def Display.printAll (d : Display) (printed : List (List StyledLine)) : Display :=
  printed.foldl (fun d rows => (d.print rows).1) d

/-- Printing leaves a display steady, even where it fails. -/
theorem Display.Steady.printAll {d : Display} (h : d.Steady) (printed : List (List StyledLine)) :
    (d.printAll printed).Steady :=
  List.foldlRecOn printed _ h fun _ h rows _ => h.print rows

/-- The call on an editor: nothing else happens to the display, and nothing to what is to be
read. -/
def PipedCall.call (c : PipedCall) : Call := ⟨c.setup, c.seed, id, (·.printAll c.printed)⟩

namespace Editor

open PipedInput

/-- The calls have the outcomes of the lines, one after the other, and then the end of the input. -/
theorem outcomes_readAll (calls : List PipedCall) {lines : List Bytes}
    (hlines : ∀ line ∈ lines, Bytes.lineFeed ∉ line.dropLast) {e : Editor}
    (hfeed : e.feed = lines.flatMap readingsOf) (hsteady : e.display.Steady) :
    (e.readAll (calls.map PipedCall.call)).1 =
      (List.range calls.length).map ((outcomesOf [] lines).getD · .exit) := by
  -- a call leaves the readings of some lines again, so it is enough to know what it takes away
  induction calls generalizing lines e with
  | nil => rfl
  | cons c calls ih =>
    have htyping :
        Editing.Typing ⟨e.history.seed c.seed, .empty, e.display.printAll c.printed⟩ [] :=
      ⟨rfl, hsteady.printAll c.printed⟩
    obtain ⟨rest, t, hsuffix, ht, htail, hrun⟩ := Editing.run_lines htyping c.setup hlines
    have hanswer : e.answer c.call = ((outcomesOf [] lines).headD .exit,
        ⟨t.history, rest.flatMap readingsOf, t.display⟩) := by
      rw [← hfeed] at hrun
      exact congrArg (fun f : Editing.Finish =>
        (f.outcome, Editor.mk f.state.history f.feed f.state.display)) hrun
    have hothers := ih (fun line hline => hlines line (hsuffix.subset hline))
      (e := ⟨t.history, rest.flatMap readingsOf, t.display⟩) rfl ht
    simp only [List.map_cons, readAll, hanswer, hothers, htail, List.length_cons,
      List.range_succ_eq_map]
    cases outcomesOf [] lines <;> simp [Function.comp_def]

/-- An editor whose feed is what is read of a piped input gives the outcomes of the lines of the
input, one with each call, and then that the input has ended. There are no more outcomes than lines.
What was accepted or rejected is recorded, and nothing else. -/
theorem readAll_piped (input : Bytes) (width : Nat) (faults : FaultPlan) (calls : List PipedCall) :
    let outcomes := outcomesOf [] input.rawLines
    let e := Editor.start (Reading.ofBytes input) (.start width ⟨[], faults, []⟩)
    let (given, after) := e.readAll (calls.map PipedCall.call)
    (∀ n, (PipedInput.start input).nth n = e.feed.getD n (.event .endOfInput)) ∧
      input.rawLines.flatten = input ∧
      given = (List.range calls.length).map (outcomes.getD · .exit) ∧
      ReadOutcome.exit ∉ outcomes ∧ outcomes.length ≤ input.rawLines.length ∧
      after.history.submitted = given.flatMap (·.entries) := by
  intro outcomes e
  refine ⟨nth_eq List.not_mem_nil, Bytes.flatten_rawLines input, ?_, exit_notMem_outcomesOf [] _,
    length_outcomesOf_le [] _, submitted_readAll e _⟩
  exact outcomes_readAll calls (fun _ => Bytes.not_mem_dropLast_of_mem_rawLines)
    (Reading.ofBytes_eq input) ⟨rfl, rfl⟩

end Editor

end StatementReader
