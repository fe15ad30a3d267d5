import StatementReader.Proofs.Editor.Piped

/-!
# What only undo and redo can tell

Two buffers may show the same draft on the same walk through the history and still have come there
by different edits. Then they differ only in the drafts that they remember (`EditBuffer.Alike`), and
nothing but `undo` and `redo` looks at those.

So two readings that have come to such buffers go on in the same way until something is undone or
redone, no matter what has happened at their displays so far (`Editing.alike_run`). A call for the
next statement starts with a new buffer, so this goes on over all later calls
(`Editor.Alike.readAll`).
-/

namespace StatementReader

/-! ### Buffers -/

/-- The same draft on the same walk through the history. What can be undone and redone may
differ. -/
structure EditBuffer.Alike (b b' : EditBuffer) : Prop where
  draft : b.draft = b'.draft
  recallIndex : b.recallIndex = b'.recallIndex
  recallStash : b.recallStash = b'.recallStash

namespace EditBuffer.Alike

variable {b b' b'' : EditBuffer}

theorem refl (b : EditBuffer) : b.Alike b := ⟨rfl, rfl, rfl⟩

/-- A third buffer that is like the second is like the first. -/
theorem trans (h : b.Alike b') (h' : b'.Alike b'') : b.Alike b'' :=
  ⟨h.draft.trans h'.draft, h.recallIndex.trans h'.recallIndex, h.recallStash.trans h'.recallStash⟩

theorem text (h : b.Alike b') : b.text = b'.text := congrArg Draft.text h.draft

theorem cursor (h : b.Alike b') : b.cursor = b'.cursor := congrArg Draft.cursor h.draft

theorem isEmpty (h : b.Alike b') : b.isEmpty = b'.isEmpty := congrArg List.isEmpty h.text

/-- Buffers that are alike are shown alike. -/
theorem view (h : b.Alike b') (setup : ReadSetup) : b.view setup = b'.view setup := by
  unfold EditBuffer.view isPending
  rw [h.text, h.cursor, h.isEmpty]

/-- An edit keeps them alike. It pushes on both undo stacks, which may differ. -/
theorem edit (h : b.Alike b') (e : Edit) : (b.edit e).Alike (b'.edit e) := by
  unfold EditBuffer.edit
  rw [h.draft]
  split
  · exact ⟨rfl, rfl, rfl⟩
  · exact h

/-- A move keeps them alike. -/
theorem move (h : b.Alike b') (m : Move) : (b.move m).Alike (b'.move m) :=
  ⟨congrArg (Draft.move · m) h.draft, h.recallIndex, h.recallStash⟩

/-- Recalling an earlier text keeps them alike, since both stand at the same one. -/
theorem recallPrevious (h : b.Alike b') (history : List Text) :
    (b.recallPrevious history).Alike (b'.recallPrevious history) := by
  unfold EditBuffer.recallPrevious
  rw [h.recallIndex]
  split
  · exact h
  · split
    · exact ⟨rfl, rfl, h.recallStash⟩
    -- a walk that begins here leads back to the draft, which is the same
    · exact ⟨rfl, rfl, congrArg some h.draft⟩

/-- Recalling a later text keeps them alike, the draft that was put aside among them. -/
theorem recallNext (h : b.Alike b') (history : List Text) :
    (b.recallNext history).Alike (b'.recallNext history) := by
  unfold EditBuffer.recallNext
  -- both walk at the same place in the history, or neither does
  rw [h.recallIndex]
  split
  · exact h
  · split
    · exact ⟨congrArg (·.elim Draft.empty Draft.clamp) h.recallStash, rfl, rfl⟩
    · exact ⟨rfl, rfl, h.recallStash⟩

end EditBuffer.Alike

/-! ### Displays -/

/-- The same has happened at two displays since certain acts, and whether the next calls succeed is
the same too. -/
structure Display.Alike (base base' : List Act) (d d' : Display) : Prop where
  width : d.width = d'.width
  faults : d.faults = d'.faults
  since : ∃ later, d.acts = later ++ base ∧ d'.acts = later ++ base'

variable {base base' : List Act}

namespace Display.Alike

variable {d d' : Display}

/-- What is noted at both displays was added since. -/
theorem note (h : d.Alike base base' d') (act : Act) :
    (d.note act).Alike base base' (d'.note act) := by
  obtain ⟨later, hacts, hacts'⟩ := h.since
  exact ⟨h.width, h.faults, act :: later, congrArg (act :: ·) hacts, congrArg (act :: ·) hacts'⟩

/-- Displays with the same plan of faults stay alike. -/
theorem withFaults (h : d.Alike base base' d') (faults : DisplayFaults) :
    Display.Alike base base' { d with faults := faults } { d' with faults := faults } :=
  ⟨h.width, rfl, h.since⟩

/-- Showing a view succeeds at both displays or at neither. -/
theorem render (h : d.Alike base base' d') (v : EditView) :
    (d.render v).1.Alike base base' (d'.render v).1 ∧ (d.render v).2 = (d'.render v).2 := by
  unfold Display.render
  rw [h.faults]
  exact ⟨(h.withFaults _).note _, rfl⟩

/-- Printing rows succeeds at both displays or at neither. -/
theorem print (h : d.Alike base base' d') (rows : List StyledLine) :
    (d.print rows).1.Alike base base' (d'.print rows).1 ∧
      (d.print rows).2 = (d'.print rows).2 := by
  unfold Display.print
  rw [h.faults]
  exact ⟨(h.withFaults _).note _, rfl⟩

/-- Leaving a view on the screen succeeds at both displays or at neither. -/
theorem commit (h : d.Alike base base' d') (v : EditView) :
    (d.commit v).1.Alike base base' (d'.commit v).1 ∧ (d.commit v).2 = (d'.commit v).2 := by
  unfold Display.commit
  rw [h.faults]
  exact ⟨(h.withFaults _).note _, rfl⟩

/-- Printing row after row keeps the displays alike. -/
theorem printAll (h : d.Alike base base' d') (printed : List (List StyledLine)) :
    (d.printAll printed).Alike base base' (d'.printAll printed) := by
  induction printed generalizing d d' with
  | nil => exact h
  | cons rows printed ih => exact ih (h.print rows).1

/-- If the same had been left on the screen up to the acts, this is still so. -/
theorem committed {start start' : Display} (h : d.Alike start.acts start'.acts d')
    (hstart : start.committed = start'.committed) : d.committed = d'.committed := by
  obtain ⟨later, hacts, hacts'⟩ := h.since
  unfold Display.committed Display.history at hstart ⊢
  rw [hacts, hacts', List.reverse_append, List.reverse_append, List.filterMap_append,
    List.filterMap_append, hstart]

end Display.Alike

/-! ### Readings that change what can be undone -/

/-- The event asks to undo or to redo something. -/
def InputEvent.Reverts (event : InputEvent) : Prop :=
  ∃ bufferEmpty, event.command? bufferEmpty = some .undo ∨ event.command? bufferEmpty = some .redo

/-- The reading asks to undo or to redo something. -/
def Reading.Reverts : Reading → Prop
  | .event e => e.Reverts
  | .fault _ => False

namespace Editing

variable {setup : ReadSetup}

/-! ### Two readings -/

/-- Two readings of a statement have come to the same draft on the same walk, and the same has
happened at their displays since certain acts. -/
structure State.Alike (base base' : List Act) (s s' : State) : Prop where
  history : s.history = s'.history
  buffer : s.buffer.Alike s'.buffer
  display : s.display.Alike base base' s'.display

namespace State.Alike

variable {s s' : State}

/-- Changing both buffers alike keeps the states alike. -/
theorem update (h : s.Alike base base' s') {f f' : EditBuffer → EditBuffer}
    (hbuffer : (f s.buffer).Alike (f' s'.buffer)) :
    (s.update f).Alike base base' (s'.update f') :=
  ⟨h.history, hbuffer, h.display⟩

theorem note (h : s.Alike base base' s') (act : Act) :
    (s.note act).Alike base base' (s'.note act) :=
  ⟨h.history, h.buffer, h.display.note act⟩

/-- Calls of the displays that are alike leave states that are, and both fail or none. -/
theorem call (h : s.Alike base base' s') {result result' : Display × Option Text}
    (hresult : result.1.Alike base base' result'.1 ∧ result.2 = result'.2) :
    ∃ t t' failure, s.call result = (t, failure) ∧ s'.call result' = (t', failure) ∧
      t.Alike base base' t' :=
  ⟨_, _, _, rfl, Prod.ext rfl hresult.2.symm, h.history, h.buffer, hresult.1⟩

/-- Both states show one and the same view, with the same success. -/
theorem render (h : s.Alike base base' s') (setup : ReadSetup) :
    ∃ t t' failure, s.render setup = (t, failure) ∧ s'.render setup = (t', failure) ∧
      t.Alike base base' t' := by
  unfold State.render
  rw [h.buffer.view setup]
  exact h.call (h.display.render _)

/-- Both states print, with the same success. -/
theorem print (h : s.Alike base base' s') (rows : List StyledLine) :
    ∃ t t' failure, s.print rows = (t, failure) ∧ s'.print rows = (t', failure) ∧
      t.Alike base base' t' :=
  h.call (h.display.print rows)

/-- Both states leave one and the same view on the screen, with the same success. -/
theorem commit (h : s.Alike base base' s') (setup : ReadSetup) :
    ∃ t t' failure, s.commit setup = (t, failure) ∧ s'.commit setup = (t', failure) ∧
      t.Alike base base' t' := by
  unfold State.commit
  rw [h.buffer.view setup]
  exact h.call (h.display.commit _)

/-- One and the same text is recorded. -/
theorem record (h : s.Alike base base' s') (accepted : Bool) :
    (s.record accepted).Alike base base' (s'.record accepted) := by
  refine ⟨?_, .refl _, h.display⟩
  change s.history.append s.buffer.text accepted = s'.history.append s'.buffer.text accepted
  rw [h.history, h.buffer.text]

end State.Alike

/-- Two steps go on with states that are alike, or stop with the same outcome. -/
inductive Step.Alike (base base' : List Act) : Step → Step → Prop
  | goOn {s s' : State} (h : s.Alike base base' s') : Step.Alike base base' (.goOn s) (.goOn s')
  | stop {s s' : State} (outcome : ReadOutcome) (h : s.Alike base base' s') :
      Step.Alike base base' (.stop outcome s) (.stop outcome s')

variable {s s' : State}

/-- Both states insert the same candidate, or list the same ones. -/
theorem alike_insertCandidate (h : s.Alike base base' s') (c : Completions) :
    (insertCandidate c s).Alike base base' (insertCandidate c s') := by
  unfold insertCandidate
  -- what is listed and how wide it may be is the same on both sides
  rw [h.buffer.cursor, h.display.width]
  rcases c.candidates with _ | ⟨only, _ | ⟨second, others⟩⟩
  · exact .goOn h
  · exact .goOn (h.update (h.buffer.edit _))
  · dsimp only
    split
    · exact .goOn (h.update (h.buffer.edit _))
    · -- both displays fail at the same print, so both lists are shown or neither is
      obtain ⟨t, t', failure, hprint, hprint', ht⟩ := h.print (List.map columnRow _)
      rw [hprint, hprint']
      cases failure with
      | none => exact .goOn ht
      | some message => exact .stop _ ht

/-- Both states complete alike. -/
theorem alike_complete (h : s.Alike base base' s') (setup : ReadSetup) :
    (complete setup s).Alike base base' (complete setup s') := by
  unfold complete
  rw [h.buffer.cursor, h.buffer.text]
  dsimp only
  split
  · exact alike_insertCandidate h _
  · obtain ⟨t, t', failure, hprint, hprint', ht⟩ := h.print (List.flatMap _ _)
    rw [hprint, hprint']
    cases failure with
    | none => exact alike_insertCandidate ht _
    | some message => exact .stop _ ht

/-- Both states stop alike. -/
theorem alike_finish (h : s.Alike base base' s') (setup : ReadSetup) (accepted : Bool)
    (outcome : ReadOutcome) :
    (finish setup s accepted outcome).Alike base base' (finish setup s' accepted outcome) := by
  obtain ⟨t, t', failure, hcommit, hcommit', ht⟩ := h.commit setup
  unfold finish
  rw [hcommit, hcommit']
  -- both are left on the screen, and then both are recorded, or neither is
  cases failure with
  | none => exact .stop _ (ht.record accepted)
  | some message => exact .stop _ ht

/-- Both states submit alike. -/
theorem alike_submit (h : s.Alike base base' s') (setup : ReadSetup) :
    (submit setup s).Alike base base' (submit setup s') := by
  have hcontinued : (s.update (·.breakLine)).Alike base base' (s'.update (·.breakLine)) :=
    h.update (h.buffer.edit .breakLine)
  unfold submit
  rw [h.buffer.text]
  split
  · exact .goOn h
  · -- the two texts are one text, so they are judged alike
    cases parse s'.buffer.text .committing with
    | complete words activeWord consumed => exact alike_finish h ..
    | incomplete => exact .goOn hcontinued
    | failure error =>
      dsimp only
      split
      · exact .goOn hcontinued
      · exact alike_finish h ..

/-- Both states give up alike. -/
theorem alike_interrupt (h : s.Alike base base' s') (setup : ReadSetup) :
    (interrupt setup s).Alike base base' (interrupt setup s') := by
  obtain ⟨t, t', failure, hcommit, hcommit', ht⟩ := h.commit setup
  unfold interrupt
  rw [hcommit, hcommit']
  cases failure with
  | some message => exact .stop _ ht
  | none =>
    -- what is given up leaves the same empty buffer on both sides
    have hgiven : (t.update (·.take.2)).Alike base base' (t'.update (·.take.2)) :=
      ht.update (.refl _)
    dsimp only
    rw [ht.buffer.isEmpty]
    split
    · obtain ⟨u, u', failure, hprint, hprint', hu⟩ := hgiven.print _
      rw [hprint, hprint']
      cases failure <;> exact .stop _ hu
    · exact .stop _ hgiven

/-- A command that neither undoes nor redoes anything finds in both buffers all that it looks at. -/
theorem alike_step (h : s.Alike base base' s') (setup : ReadSetup) {c : Command}
    (hundo : c ≠ .undo) (hredo : c ≠ .redo) :
    (step setup s c).Alike base base' (step setup s' c) := by
  have hedit (e : Edit) : (Step.goOn (s.update (·.edit e))).Alike base base'
      (.goOn (s'.update (·.edit e))) := .goOn (h.update (h.buffer.edit e))
  have hmove (m : Move) : (Step.goOn (s.update (·.move m))).Alike base base'
      (.goOn (s'.update (·.move m))) := .goOn (h.update (h.buffer.move m))
  cases c with
  | insert text => exact hedit (.insert text)
  | newline => exact hedit (.insert ['\n'])
  | backspace => exact hedit .backspace
  | delete => exact hedit .delete
  | killToLineStart => exact hedit .killToLineStart
  | left => exact hmove .left
  | right => exact hmove .right
  | home => exact hmove .home
  | endOfLine => exact hmove .endOfLine
  | historyPrevious =>
    -- the two histories are the same, so both buffers are shown the same entry
    refine .goOn (h.update ?_)
    rw [h.history]
    exact h.buffer.recallPrevious _
  | historyNext =>
    refine .goOn (h.update ?_)
    rw [h.history]
    exact h.buffer.recallNext _
  | undo => exact absurd rfl hundo
  | redo => exact absurd rfl hredo
  | complete => exact alike_complete h setup
  | submit => exact alike_submit h setup
  | interrupt => exact alike_interrupt h setup
  | endOfInput => exact .stop _ h

/-- A reading that does not revert an edit is answered alike. -/
theorem alike_carryOut (h : s.Alike base base' s') (setup : ReadSetup) {reading : Reading}
    (hreading : ¬ reading.Reverts) :
    (carryOut setup s reading).Alike base base' (carryOut setup s' reading) := by
  have hnoted := h.note (.read reading)
  unfold carryOut
  cases reading with
  | fault message => exact .stop _ hnoted
  | event event =>
    dsimp only
    -- what Ctrl-D does depends on whether anything is typed, and that is the same
    rw [hnoted.buffer.isEmpty]
    split
    · next c hcommand =>
      refine alike_step hnoted setup ?_ ?_
      · rintro rfl
        exact hreading ⟨_, .inl hcommand⟩
      · rintro rfl
        exact hreading ⟨_, .inr hcommand⟩
    · exact .goOn hnoted

/-- Two readings of a statement have ended in the same way. -/
structure Finish.Alike (base base' : List Act) (f f' : Finish) : Prop where
  outcome : f.outcome = f'.outcome
  feed : f.feed = f'.feed
  state : f.state.Alike base base' f'.state

/-- Two readings that are alike stay so until they end, if nothing is undone or redone. -/
theorem alike_run (h : s.Alike base base' s') (setup : ReadSetup) {feed : List Reading}
    (hfeed : ∀ reading ∈ feed, ¬ reading.Reverts) :
    (run setup feed s).Alike base base' (run setup feed s') := by
  induction feed generalizing s s' with
  | nil =>
    obtain ⟨t, t', failure, hrender, hrender', ht⟩ := h.render setup
    unfold run
    rw [hrender, hrender']
    cases failure with
    | some message => exact ⟨rfl, rfl, ht⟩
    | none => exact ⟨rfl, rfl, ht.note _⟩
  | cons reading feed ih =>
    obtain ⟨hreading, hfeed⟩ := List.forall_mem_cons.1 hfeed
    obtain ⟨t, t', failure, hrender, hrender', ht⟩ := h.render setup
    unfold run
    rw [hrender, hrender']
    cases failure with
    | some message => exact ⟨rfl, rfl, ht⟩
    | none =>
      -- one step keeps the two alike, and either both go on or both stop with the same outcome
      dsimp only
      have hstep := alike_carryOut ht setup hreading
      generalize carryOut setup t reading = one, carryOut setup t' reading = other at hstep
      cases hstep with
      | goOn hnext => exact ih hnext hfeed
      | stop outcome hlast => exact ⟨rfl, rfl, hlast⟩

/-- What is left of a feed is the end of it. -/
theorem feed_run_suffix (setup : ReadSetup) (feed : List Reading) (s : State) :
    (run setup feed s).feed <:+ feed := by
  -- every round takes the first reading, so what is left is an end of the feed
  induction feed generalizing s with
  | nil =>
    unfold run
    split <;> exact List.suffix_rfl
  | cons reading feed ih =>
    unfold run
    split
    · exact List.suffix_rfl
    · split
      · exact (ih _).trans (List.suffix_cons _ _)
      · exact List.suffix_cons _ _

end Editing

/-! ### Later calls -/

/-- Before the call rows are printed and more readings arrive, none of which undoes or redoes
anything. -/
def Call.Proceeds (c : Call) : Prop :=
  ∃ more printed, c.feed = (· ++ more) ∧ c.display = (·.printAll printed) ∧
    ∀ reading ∈ more, ¬ reading.Reverts

/-- Two editors with the same history, which will read the same, none of which undoes or redoes
anything. The same has happened at their displays since certain acts. -/
structure Editor.Alike (base base' : List Act) (e e' : Editor) : Prop where
  history : e.history = e'.history
  feed : e.feed = e'.feed
  unreverted : ∀ reading ∈ e.feed, ¬ reading.Reverts
  display : e.display.Alike base base' e'.display

/-- The editor when the reading of a statement has ended. -/
def Editing.Finish.editor (f : Finish) : Editor := ⟨f.state.history, f.feed, f.state.display⟩

namespace Editor

/-- The editors that two readings leave are alike. -/
theorem alike_of_run {s s' : Editing.State} (h : s.Alike base base' s') (setup : ReadSetup)
    {feed : List Reading} (hfeed : ∀ reading ∈ feed, ¬ reading.Reverts) :
    (Editing.run setup feed s).editor.Alike base base' (Editing.run setup feed s').editor := by
  have hrun := Editing.alike_run h setup hfeed
  have hleft := Editing.feed_run_suffix setup feed s
  exact ⟨hrun.state.history, hrun.feed, fun reading hmem => hfeed reading (hleft.subset hmem),
    hrun.state.display⟩

variable {e e' : Editor}

/-- A call is answered alike. -/
theorem Alike.answer (h : e.Alike base base' e') {c : Call} (hc : c.Proceeds) :
    (e.answer c).1 = (e'.answer c).1 ∧ (e.answer c).2.Alike base base' (e'.answer c).2 := by
  obtain ⟨more, printed, hfeed, hdisplay, hmore⟩ := hc
  -- a new buffer has nothing to undo
  have hstart : Editing.State.Alike base base'
      ⟨e.history.seed c.seed, .empty, c.display e.display⟩
      ⟨e'.history.seed c.seed, .empty, c.display e'.display⟩ := by
    refine ⟨congrArg (·.seed c.seed) h.history, .refl _, ?_⟩
    rw [hdisplay]
    exact h.display.printAll printed
  have hcomes : ∀ reading ∈ c.feed e.feed, ¬ reading.Reverts := by
    rw [hfeed]
    exact List.forall_mem_append.2 ⟨h.unreverted, hmore⟩
  have houtcome := (Editing.alike_run hstart c.setup hcomes).outcome
  have heditor := alike_of_run hstart c.setup hcomes
  unfold Editor.answer Editor.arrange Editor.readStatement
  rw [← h.feed]
  exact ⟨houtcome, heditor⟩

/-- Calls are answered alike, one after the other. -/
theorem Alike.readAll (h : e.Alike base base' e') {calls : List Call}
    (hcalls : ∀ c ∈ calls, c.Proceeds) :
    (e.readAll calls).1 = (e'.readAll calls).1 ∧
      (e.readAll calls).2.Alike base base' (e'.readAll calls).2 := by
  induction calls generalizing e e' with
  | nil => exact ⟨rfl, h⟩
  | cons c calls ih =>
    obtain ⟨hc, hcalls⟩ := List.forall_mem_cons.1 hcalls
    obtain ⟨hfirst, hnext⟩ := h.answer hc
    obtain ⟨hothers, hlast⟩ := ih hnext hcalls
    exact ⟨congrArg₂ List.cons hfirst hothers, hlast⟩

end Editor

end StatementReader
