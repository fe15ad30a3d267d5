import StatementReader.Editor
import StatementReader.Proofs.Parse.Outcomes

/-!
# What a step does

A step adds some acts to those of the display, and it leaves the history alone unless it submits the
buffer. Then the parser has given its verdict on the text, the text has been committed as it was
typed, and it is the one entry that is added. All this is said once for every command (`Effect`), so
that what holds of a whole reading can be derived from it without looking at the commands again.

The console is blamed for the end of a reading exactly if one of its calls has failed
(`ReadOutcome.fault?`), so a step that has done its work does not go unheard.
-/

namespace StatementReader

/-! ### What happens at a display -/

namespace Act

/-- What failed, if the act is a call that failed. -/
def fault? : Act → Option Fault
  | read (.fault message) => some (.reading message)
  | read (.event _) => none
  | render _ failure => failure.map .render
  | print _ failure => failure.map .print
  | commit _ failure => failure.map .commit

/-- What failed in the course of some acts. -/
def faults (acts : List Act) : List Fault := acts.filterMap fault?

@[simp] theorem faults_cons (act : Act) (acts : List Act) :
    faults (act :: acts) = act.fault?.toList ++ faults acts := by
  rw [faults, List.filterMap_cons]
  cases act.fault? <;> rfl

/-- The faults of two rows of acts are those of one and then those of the other. -/
@[simp] theorem faults_append (acts acts' : List Act) :
    faults (acts ++ acts') = faults acts ++ faults acts' := List.filterMap_append

/-- Rows were printed. -/
def IsPrint (act : Act) : Prop := ∃ rows, act = .print rows none

/-- Rows were printed or a view was left on the screen, unless that failed. -/
def IsPrintOrCommit (view : EditView) (act : Act) : Prop :=
  ∃ failure, (∃ rows, act = .print rows failure) ∨ act = .commit view failure

/-- What prints does so whatever is left on the screen. -/
theorem IsPrint.isPrintOrCommit {act : Act} (h : act.IsPrint) (view : EditView) :
    act.IsPrintOrCommit view := by
  obtain ⟨rows, rfl⟩ := h
  exact ⟨none, .inl ⟨rows, rfl⟩⟩

/-- What has been printed has not failed. -/
theorem faults_of_isPrint {acts : List Act} (h : ∀ act ∈ acts, act.IsPrint) : faults acts = [] := by
  refine List.filterMap_eq_nil_iff.2 fun act hact => ?_
  obtain ⟨rows, rfl⟩ := h act hact
  rfl

end Act

namespace Display

/-- What is noted comes last. -/
@[simp] theorem history_note (d : Display) (act : Act) :
    (d.note act).history = d.history ++ [act] := List.reverse_cons

/-- Showing a view is noted, with what became of it. -/
@[simp] theorem history_render (d : Display) (v : EditView) :
    (d.render v).1.history = d.history ++ [.render v (d.render v).2] := List.reverse_cons

/-- Some acts have been added, and the display has not been asked to show the buffer. -/
structure Adds (d : Display) (acts : List Act) (d' : Display) : Prop where
  acts : d'.history = d.history ++ acts
  faults : d'.faults.render = d.faults.render

variable {d d' d'' : Display} {acts acts' : List Act}

theorem Adds.refl (d : Display) : d.Adds [] d := ⟨(List.append_nil _).symm, rfl⟩

/-- What two calls have added is what the first one has added and then the second. -/
theorem Adds.trans (h : d.Adds acts d') (h' : d'.Adds acts' d'') : d.Adds (acts ++ acts') d'' :=
  ⟨by rw [h'.acts, h.acts, List.append_assoc], h'.faults.trans h.faults⟩

/-- Printing is noted, with what became of it. -/
theorem adds_print (d : Display) (rows : List StyledLine) :
    d.Adds [.print rows (d.print rows).2] (d.print rows).1 := ⟨List.reverse_cons, rfl⟩

/-- Leaving a view on the screen is noted, with what became of it. -/
theorem adds_commit (d : Display) (v : EditView) :
    d.Adds [.commit v (d.commit v).2] (d.commit v).1 := ⟨List.reverse_cons, rfl⟩

end Display

/-! ### Outcomes -/

namespace ReadOutcome

/-- What an outcome adds to the history: the text that was submitted, if one was. -/
def entries : ReadOutcome → List HistoryEntry
  | success text _ => [⟨text, .accepted⟩]
  | rejected text _ => [⟨text, .rejected⟩]
  | skip | exit | broken _ => []

/-- What the console is blamed for. -/
def fault? : ReadOutcome → Option Fault
  | broken fault => some fault
  | success .. | rejected .. | skip | exit => none

end ReadOutcome

/-- What the parser makes of a submitted text decides whether it is accepted, and the outcome. -/
inductive Verdict (text : Text) : Bool → ReadOutcome → Prop
  | accepted {words : List Word} {activeWord : Option ActiveWord} {consumed : Nat}
      (h : parse text .committing = .complete words activeWord consumed) :
      Verdict text true (.success text (words.map (·.text)))
  | rejected {error : SyntaxError} (h : parse text .committing = .failure error)
      (hopen : error.isMissingDelimiter = false) : Verdict text false (.rejected text error)

namespace Verdict

variable {text : Text} {accepted : Bool} {outcome : ReadOutcome}

/-- A verdict records the text in the way that its outcome tells. -/
theorem entries_eq (h : Verdict text accepted outcome) (history : History) :
    (history.append text accepted).entries = history.entries ++ outcome.entries := by
  cases h <;> rfl

/-- A verdict is always recorded. -/
theorem entries_ne_nil (h : Verdict text accepted outcome) : outcome.entries ≠ [] := by
  cases h <;> exact List.cons_ne_nil _ _

/-- A verdict blames nothing. -/
theorem fault?_eq_none (h : Verdict text accepted outcome) : outcome.fault? = none := by
  cases h <;> rfl

end Verdict

namespace Editing

variable {setup : ReadSetup} {s t u : State} {acts acts' : List Act} {failure : Option Text}

/-! ### Calls of the display -/

/-- The history is left alone, and the display does not show the buffer, but adds some acts. -/
structure Keeps (s : State) (acts : List Act) (t : State) : Prop where
  history : t.history = s.history
  display : s.display.Adds acts t.display

namespace Keeps

/-- Changing the buffer keeps the rest. -/
theorem update (s : State) (f : EditBuffer → EditBuffer) : Keeps s [] (s.update f) :=
  ⟨rfl, .refl _⟩

theorem refl (s : State) : Keeps s [] s := ⟨rfl, .refl _⟩

/-- Printing keeps the history. -/
theorem print {rows : List StyledLine} (h : s.print rows = (t, failure)) :
    Keeps s [.print rows failure] t := by
  obtain ⟨rfl, rfl⟩ := Prod.mk.inj h
  exact ⟨rfl, Display.adds_print ..⟩

/-- Leaving the buffer on the screen keeps the history. -/
theorem commit (h : s.commit setup = (t, failure)) :
    Keeps s [.commit (s.buffer.view setup) failure] t := by
  obtain ⟨rfl, rfl⟩ := Prod.mk.inj h
  exact ⟨rfl, Display.adds_commit ..⟩

/-- What two steps keep is kept by both together, with the acts of both. -/
theorem trans (h : Keeps s acts t) (h' : Keeps t acts' u) : Keeps s (acts ++ acts') u :=
  ⟨h'.history.trans h.history, h.display.trans h'.display⟩

end Keeps

namespace State

/-- Showing the buffer keeps the history. -/
theorem history_of_render (h : s.render setup = (t, failure)) : t.history = s.history := by
  obtain ⟨rfl, -⟩ := Prod.mk.inj h
  rfl

/-- Showing the buffer keeps it. -/
theorem buffer_of_render (h : s.render setup = (t, failure)) : t.buffer = s.buffer := by
  obtain ⟨rfl, -⟩ := Prod.mk.inj h
  rfl

/-- Showing the buffer is noted, with what became of it. -/
theorem acts_of_render (h : s.render setup = (t, failure)) :
    t.display.history = s.display.history ++ [.render (s.buffer.view setup) failure] := by
  obtain ⟨rfl, rfl⟩ := Prod.mk.inj h
  exact Display.history_render ..

end State

/-! ### Steps -/

/-- What a step does for a command, which may be to submit the buffer, and which acts it adds. -/
inductive Effect (setup : ReadSetup) (s : State) (submits : Prop) : List Act → Step → Prop
  | goOn {acts : List Act} {t : State} (hother : ¬ submits) (h : Keeps s acts t)
      (hacts : ∀ act ∈ acts, act.IsPrint) : Effect setup s submits acts (.goOn t)
  /-- There is nothing in the buffer to submit. -/
  | blank (hsubmits : submits) (hblank : Text.isAllBlank s.buffer.text) :
      Effect setup s submits [] (.goOn s)
  /-- The statement is not finished. -/
  | continued {position : Nat} (hsubmits : submits) (hfilled : ¬ Text.isAllBlank s.buffer.text)
      (hparse : parse s.buffer.text .committing = .failure (.missingDelimiter position)) :
      Effect setup s submits [] (.goOn (s.update (·.breakLine)))
  /-- The reading ends without a submission. -/
  | stop {acts : List Act} {t : State} {outcome : ReadOutcome} (hother : ¬ submits)
      (hentries : outcome.entries = []) (h : Keeps s acts t)
      (hacts : ∀ act ∈ acts, act.IsPrintOrCommit (s.buffer.view setup))
      (hfaults : Act.faults acts = outcome.fault?.toList) :
      Effect setup s submits acts (.stop outcome t)
  | submitted {t : State} {accepted : Bool} {outcome : ReadOutcome} (hsubmits : submits)
      (hfilled : ¬ Text.isAllBlank s.buffer.text)
      (hverdict : Verdict s.buffer.text accepted outcome) (hcommit : s.commit setup = (t, none)) :
      Effect setup s submits [.commit (s.buffer.view setup) none] (.stop outcome (t.record accepted))
  /-- The buffer would be submitted, but it cannot be left on the screen. -/
  | uncommitted {t : State} {accepted : Bool} {outcome : ReadOutcome} {message : Text}
      (hsubmits : submits) (hfilled : ¬ Text.isAllBlank s.buffer.text)
      (hverdict : Verdict s.buffer.text accepted outcome)
      (hcommit : s.commit setup = (t, some message)) :
      Effect setup s submits [.commit (s.buffer.view setup) (some message)]
        (.stop (.broken (.commit message)) t)

/-- The state that a step leaves. -/
def Step.state : Step → State
  | goOn s => s
  | stop _ s => s

/-- The display is left with the acts of the effect. -/
theorem Effect.adds {submits : Prop} {step : Step} (h : Effect setup s submits acts step) :
    s.display.Adds acts step.state.display := by
  cases h with
  | goOn _ h | stop _ _ h => exact h.display
  | blank | continued => exact .refl _
  | submitted _ _ _ h | uncommitted _ _ _ h => exact (Keeps.commit h).display

/-- A step that only changes the buffer. -/
theorem effect_update {submits : Prop} (hother : ¬ submits) (s : State)
    (f : EditBuffer → EditBuffer) : Effect setup s submits [] (.goOn (s.update f)) :=
  .goOn hother (.update s f) (List.forall_mem_nil _)

/-- The reading ends because rows could not be printed. -/
theorem effect_of_print_failed {rows : List StyledLine} {message : Text}
    (h : s.print rows = (t, some message)) :
    Effect setup s False [.print rows (some message)] (.stop (.broken (.print message)) t) :=
  .stop id rfl (.print h) (List.forall_mem_singleton.2 ⟨_, .inl ⟨rows, rfl⟩⟩) rfl

/-- Rows that are printed before a step that does not submit the buffer. -/
theorem Effect.of_print {rows : List StyledLine} {step : Step} (h : s.print rows = (t, none))
    (heffect : Effect setup t False acts step) :
    Effect setup s False (.print rows none :: acts) step := by
  have hkeeps := Keeps.print h
  have hprint : Act.IsPrint (.print rows none) := ⟨rows, rfl⟩
  obtain ⟨rfl, -⟩ := Prod.mk.inj h
  -- only what goes on or stops without a submission is left, since nothing submits here
  cases heffect with
  | goOn hother h' hacts =>
    exact .goOn hother (hkeeps.trans h') (List.forall_mem_cons.2 ⟨hprint, hacts⟩)
  | blank hsubmits => exact hsubmits.elim
  | continued hsubmits => exact hsubmits.elim
  | stop hother hentries h' hacts hfaults =>
    exact .stop hother hentries (hkeeps.trans h')
      (List.forall_mem_cons.2 ⟨hprint.isPrintOrCommit _, hacts⟩) hfaults
  | submitted hsubmits => exact hsubmits.elim
  | uncommitted hsubmits => exact hsubmits.elim

/-- Inserting a candidate changes the buffer at most, and listing candidates prints them. -/
theorem exists_effect_insertCandidate (setup : ReadSetup) (c : Completions) (s : State) :
    ∃ acts, Effect setup s False acts (insertCandidate c s) := by
  unfold insertCandidate
  split
  · exact ⟨[], .goOn id (.refl s) (List.forall_mem_nil _)⟩
  · exact ⟨[], effect_update id s _⟩
  · split
    · exact ⟨[], effect_update id s _⟩
    · -- nothing can be inserted, so the candidates are listed
      generalize (Columns.rows _ _).map columnRow = rows
      rcases hprint : s.print rows with ⟨t, _ | message⟩
      · exact ⟨_, .of_print hprint (.goOn id (.refl t) (List.forall_mem_nil _))⟩
      · exact ⟨_, effect_of_print_failed hprint⟩

/-- Completing prints signatures and then inserts or lists candidates. -/
theorem exists_effect_complete (setup : ReadSetup) (s : State) :
    ∃ acts, Effect setup s False acts (complete setup s) := by
  unfold complete
  dsimp only
  split
  · -- there are no signatures to print
    exact exists_effect_insertCandidate ..
  · generalize List.flatMap _ _ = rows
    rcases hprint : s.print rows with ⟨t, _ | message⟩
    · obtain ⟨acts, heffect⟩ := exists_effect_insertCandidate setup _ t
      exact ⟨_, .of_print hprint heffect⟩
    · exact ⟨_, effect_of_print_failed hprint⟩

/-- A verdict is recorded if the text can be left on the screen. -/
theorem exists_effect_finish {submits : Prop} {accepted : Bool} {outcome : ReadOutcome}
    (hsubmits : submits) (hfilled : ¬ Text.isAllBlank s.buffer.text)
    (h : Verdict s.buffer.text accepted outcome) :
    ∃ acts, Effect setup s submits acts (finish setup s accepted outcome) := by
  unfold finish
  rcases hcommit : s.commit setup with ⟨t, _ | message⟩
  · exact ⟨_, .submitted hsubmits hfilled h hcommit⟩
  · exact ⟨_, .uncommitted hsubmits hfilled h hcommit⟩

/-- A submission does nothing to a blank text, goes on with an unfinished one, and gives a verdict
on any other. -/
theorem exists_effect_submit {submits : Prop} (hsubmits : submits) (setup : ReadSetup)
    (s : State) : ∃ acts, Effect setup s submits acts (submit setup s) := by
  unfold submit
  split
  · next hblank => exact ⟨[], .blank hsubmits hblank⟩
  · next hfilled =>
    rcases hparse : parse s.buffer.text .committing with ⟨words, activeWord, consumed⟩ | _ | error
    · exact exists_effect_finish hsubmits hfilled (.accepted hparse)
    · exact absurd hparse (committing_ne_incomplete _)
    · -- an error that is no missing delimiter has a message, and rejects the text
      cases error with
      | violation message position =>
        exact exists_effect_finish hsubmits hfilled (.rejected hparse rfl)
      | missingDelimiter position => exact ⟨[], .continued hsubmits hfilled hparse⟩

/-- Giving up leaves the text on the screen and prints a hint at most. -/
theorem exists_effect_interrupt (setup : ReadSetup) (s : State) :
    ∃ acts, Effect setup s False acts (interrupt setup s) := by
  unfold interrupt
  rcases hcommit : s.commit setup with ⟨t, _ | message⟩
  · have hcalls {failure : Option Text} :
        Act.IsPrintOrCommit (s.buffer.view setup) (.commit (s.buffer.view setup) failure) :=
      ⟨failure, .inr rfl⟩
    have hgiven : Keeps s [.commit (s.buffer.view setup) none] (t.update (·.take.2)) :=
      (Keeps.commit hcommit).trans (.update t _)
    dsimp only
    split
    · -- nothing was typed, so a hint is printed below the empty buffer
      rcases hprint : (t.update (·.take.2)).print (Display.plainRows interruptHint)
        with ⟨u, _ | message⟩
      · refine ⟨_, .stop id rfl (hgiven.trans (.print hprint)) ?_ rfl⟩
        exact List.forall_mem_cons.2
          ⟨hcalls, List.forall_mem_singleton.2 ⟨none, .inl ⟨_, rfl⟩⟩⟩
      · refine ⟨_, .stop id rfl (hgiven.trans (.print hprint)) ?_ rfl⟩
        exact List.forall_mem_cons.2
          ⟨hcalls, List.forall_mem_singleton.2 ⟨some message, .inl ⟨_, rfl⟩⟩⟩
    · exact ⟨_, .stop id rfl hgiven (List.forall_mem_singleton.2 hcalls) rfl⟩
  · exact ⟨_, .stop id rfl (.commit hcommit)
      (List.forall_mem_singleton.2 ⟨some message, .inr rfl⟩) rfl⟩

/-- What does not submit the buffer does not do so for a command that is another one. -/
theorem Effect.mono {submits : Prop} {step : Step} (h : Effect setup s False acts step)
    (hother : ¬ submits) : Effect setup s submits acts step := by
  cases h with
  | goOn _ h hacts => exact .goOn hother h hacts
  | stop _ hentries h hacts hfaults => exact .stop hother hentries h hacts hfaults
  | blank h => exact h.elim
  | continued h => exact h.elim
  | submitted h => exact h.elim
  | uncommitted h => exact h.elim

/-- What a step does is said by one of the effects. -/
theorem exists_effect_step (setup : ReadSetup) (s : State) (c : Command) :
    ∃ acts, Effect setup s (c = .submit) acts (step setup s c) := by
  have hupdate (hother : c ≠ .submit) (f : EditBuffer → EditBuffer) :
      ∃ acts, Effect setup s (c = .submit) acts (.goOn (s.update f)) :=
    ⟨[], effect_update hother s f⟩
  cases c with
  | complete =>
    obtain ⟨acts, heffect⟩ := exists_effect_complete setup s
    exact ⟨acts, heffect.mono (by simp)⟩
  | submit => exact exists_effect_submit rfl setup s
  | interrupt =>
    obtain ⟨acts, heffect⟩ := exists_effect_interrupt setup s
    exact ⟨acts, heffect.mono (by simp)⟩
  | endOfInput => exact ⟨[], .stop (by simp) rfl (.refl s) (List.forall_mem_nil _) rfl⟩
  -- every other command changes the buffer and nothing else
  | _ => exact hupdate (by simp) _

/-- What comes of an event, after it has been noted. -/
theorem exists_effect_carryOut (setup : ReadSetup) (s : State) (event : InputEvent) :
    ∃ acts, Effect setup (s.note (.read (.event event)))
      (event.command? s.buffer.isEmpty = some .submit) acts (carryOut setup s (.event event)) := by
  -- noting the event leaves the buffer that decides what a key does as it is
  have hbuffer : (s.note (.read (.event event))).buffer = s.buffer := rfl
  simp only [carryOut, hbuffer]
  cases event.command? s.buffer.isEmpty with
  | none => exact ⟨[], .goOn (by simp) (.refl _) (List.forall_mem_nil _)⟩
  | some c =>
    obtain ⟨acts, heffect⟩ := exists_effect_step setup (s.note (.read (.event event))) c
    exact ⟨acts, by simpa only [Option.some_inj] using heffect⟩

end Editing

end StatementReader
