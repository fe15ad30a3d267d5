import StatementReader.Proofs.Editor.Rounds

/-!
# When acts happen

Each act of a reading is made when it should be (`Timely`). A reading is taken when the loop is in
some state, and right before that the buffer of this state was shown. A buffer that is then submitted
is settled at once (`Settled`): it is shown again, with one more line unless it is blank, or it is
left on the screen and the reading is over. And whatever is left on the screen is what was shown
last.

What an act may follow is an invariant of the rounds that have been made. What may follow a
submission is only known when the remaining rounds have been made too. So both are carried by one
induction over the rounds (`Rounds.allTimely`), with the acts that lie behind as its parameter.
-/

namespace StatementReader

namespace Act

/-- The view that the display was asked to show, and why that failed, if it did. -/
def rendered? : Act → Option (EditView × Option Text)
  | render view failure => some (view, failure)
  | read _ | print .. | commit .. => none

/-- What the display was asked to show last, and why that failed, if it did. -/
def lastRender? (acts : List Act) : Option (EditView × Option Text) :=
  (acts.filterMap rendered?).getLast?

@[simp] theorem lastRender?_concat_render (acts : List Act) (view : EditView)
    (failure : Option Text) :
    lastRender? (acts ++ [.render view failure]) = some (view, failure) := by
  simp [lastRender?, rendered?]

/-- An act that shows nothing leaves what was shown last as it is. -/
theorem lastRender?_concat {act : Act} (h : act.rendered? = none) (acts : List Act) :
    lastRender? (acts ++ [act]) = lastRender? acts := by
  simp [lastRender?, h]

theorem IsPrintOrCommit.rendered? {view : EditView} {act : Act} (h : act.IsPrintOrCommit view) :
    act.rendered? = none := by
  obtain ⟨failure, ⟨rows, rfl⟩ | rfl⟩ := h <;> rfl

end Act

namespace Editing

/-! ### Submissions and readings -/

/-- What becomes of a submission, with the acts after it. -/
inductive Settled (view : EditView) (newer : List Act) (outcome : ReadOutcome) : Prop
  /-- There is nothing to submit, so the same is shown again. -/
  | blank {failure : Option Text} {newest : List Act} (hblank : Text.isAllBlank view.text)
      (hnewer : newer = .render view failure :: newest)
  /-- The statement is not finished, so it is shown with one more line. -/
  | continued {position : Nat} {next : EditView} {failure : Option Text} {newest : List Act}
      (hfilled : ¬ Text.isAllBlank view.text)
      (hparse : parse view.text .committing = .failure (.missingDelimiter position))
      (hnewer : newer = .render next failure :: newest)
      (htext : next.text = view.text ++ ['\n']) (hcursor : next.cursor = Text.size next.text)
  | committed {accepted : Bool} (hfilled : ¬ Text.isAllBlank view.text)
      (hverdict : Verdict view.text accepted outcome) (hnewer : newer = [.commit view none])
  /-- The text is fit for a verdict, but cannot be left on the screen. -/
  | uncommitted {accepted : Bool} {verdict : ReadOutcome} {message : Text}
      (hfilled : ¬ Text.isAllBlank view.text) (hverdict : Verdict view.text accepted verdict)
      (hnewer : newer = [.commit view (some message)])
      (houtcome : outcome = .broken (.commit message))

/-- What was submitted and left on the screen has got the parser's verdict. -/
theorem Settled.exists_verdict {view view' : EditView} {newer : List Act} {outcome : ReadOutcome}
    (h : Settled view (.commit view' none :: newer) outcome) :
    ∃ accepted, Verdict view.text accepted outcome := by
  cases h with
  | committed _ hverdict => exact ⟨_, hverdict⟩
  | blank _ hnewer => cases hnewer
  | continued _ _ hnewer => cases hnewer
  | uncommitted _ _ hnewer => cases hnewer

/-- The loop, which began in a state with a feed, is in another state when it takes a reading, which
is the next one of what is left of the feed. The acts until then end with showing the buffer of that
state. -/
structure TakenAt (setup : ReadSetup) (feed : List Reading) (start : State) (older : List Act)
    (reading : Reading) (s : State) : Prop where
  visits : ∃ left, Visits setup feed start left s ∧ left.headD (.event .endOfInput) = reading
  shown : ∃ oldest, older = oldest ++ [.render (s.buffer.view setup) none] ∧
    s.display.history = start.display.history ++ oldest

/-- An act is made when it should be, after some acts and before others. -/
def Timely (setup : ReadSetup) (feed : List Reading) (start : State) (outcome : ReadOutcome)
    (older : List Act) : Act → List Act → Prop
  | .read reading, newer => ∃ s, TakenAt setup feed start older reading s ∧
      ∀ event, reading = .event event → event.command? s.buffer.isEmpty = some .submit →
        Settled (s.buffer.view setup) newer outcome
  | .commit view _, _ => Act.lastRender? older = some (view, none)
  | .render .., _ | .print .., _ => True

/-- All acts are made when they should be, after some acts that lie behind. -/
def AllTimely (setup : ReadSetup) (feed : List Reading) (start : State) (outcome : ReadOutcome) :
    List Act → List Act → Prop
  | _, [] => True
  | older, act :: newer => Timely setup feed start outcome older act newer ∧
      AllTimely setup feed start outcome (older ++ [act]) newer

variable {setup : ReadSetup} {feed : List Reading} {start s : State} {outcome : ReadOutcome}
  {older newer acts : List Act}

/-- What holds of all acts holds of each of them, with those that are before and after it. -/
theorem AllTimely.timely {before : List Act} {act : Act}
    (h : AllTimely setup feed start outcome before (older ++ act :: newer)) :
    Timely setup feed start outcome (before ++ older) act newer := by
  induction older generalizing before with
  | nil =>
    rw [List.append_nil]
    exact h.1
  | cons first older ih =>
    have hrest := ih h.2
    rwa [List.append_assoc] at hrest

/-- Printing, and leaving on the screen what is shown, is always timely. -/
theorem AllTimely.append {view : EditView} (hshown : Act.lastRender? older = some (view, none))
    (hacts : ∀ act ∈ acts, act.IsPrintOrCommit view)
    (h : AllTimely setup feed start outcome (older ++ acts) newer) :
    AllTimely setup feed start outcome older (acts ++ newer) := by
  induction acts generalizing older with
  | nil =>
    rw [List.append_nil] at h
    exact h
  | cons act acts ih =>
    obtain ⟨hact, hothers⟩ := List.forall_mem_cons.1 hacts
    rw [List.append_cons] at h
    -- neither act shows another view, so the view shown last is the same behind it
    have hsame := (Act.lastRender?_concat hact.rendered? older).trans hshown
    refine ⟨?_, ih hsame hothers h⟩
    obtain ⟨failure, ⟨rows, rfl⟩ | rfl⟩ := hact
    · trivial
    · exact hshown

/-! ### Lines that go on -/

/-- An unfinished statement goes on with a line break at its end, where the cursor is put. -/
theorem draft_breakLine (b : EditBuffer) : b.breakLine.draft = .atEnd (b.text ++ ['\n']) := by
  have hupTo := Text.upTo_size_append b.text []
  have hbeyond := Text.beyond_size_append b.text []
  rw [List.append_nil] at hupTo hbeyond
  show Draft.mk (Text.replaceRange (Text.size b.text) (Text.size b.text) ['\n'] b.text) _ = _
  rw [Text.replaceRange, hupTo, hbeyond, List.append_nil, Draft.atEnd, Text.size_append]
  rfl

/-! ### Settling -/

/-- What is submitted is settled when the reading is over. -/
theorem Effect.settled_of_stop {submits : Prop} {last : State}
    (h : Effect setup s submits acts (.stop outcome last)) (hsubmits : submits) :
    Settled (s.buffer.view setup) acts outcome := by
  cases h with
  | stop hother => exact absurd hsubmits hother
  | submitted _ hfilled hverdict => exact .committed hfilled hverdict rfl
  | uncommitted _ hfilled hverdict => exact .uncommitted hfilled hverdict rfl rfl

/-- What is submitted is settled when the reading goes on, because it is shown again. -/
theorem Effect.settled_of_goOn {submits : Prop} {next : State} {later : List Act} {finish : Finish}
    (h : Effect setup s submits acts (.goOn next)) (hsubmits : submits)
    (hlater : Rounds setup feed next later finish) :
    Settled (s.buffer.view setup) (acts ++ later) outcome := by
  obtain ⟨failure, newest, hshown⟩ := hlater.exists_eq_cons
  cases h with
  | goOn hother => exact absurd hsubmits hother
  | blank _ hblank => exact .blank hblank hshown
  | continued _ hfilled hparse =>
    -- it is shown with the line break, and the cursor behind it
    refine .continued hfilled hparse hshown ?_ ?_
    · show s.buffer.breakLine.draft.text = s.buffer.text ++ ['\n']
      rw [draft_breakLine]
      rfl
    · show s.buffer.breakLine.draft.cursor = Text.size s.buffer.breakLine.draft.text
      rw [draft_breakLine]
      rfl

/-! ### All acts -/

/-- The acts of the rounds are made when they should be. -/
theorem Rounds.allTimely {finish : Finish} {left : List Reading}
    (h : Rounds setup left s acts finish) (hvisits : Visits setup feed start left s)
    {before : List Act} (hbefore : s.display.history = start.display.history ++ before) :
    AllTimely setup feed start finish.outcome before acts := by
  have htaken {left : List Reading} {s : State} {before : List Act}
      (hvisits : Visits setup feed start left s)
      (hbefore : s.display.history = start.display.history ++ before) :
      TakenAt setup feed start (before ++ [.render (s.buffer.view setup) none])
        (left.headD (.event .endOfInput)) s :=
    ⟨⟨left, hvisits, rfl⟩, before, rfl, hbefore⟩
  have hlast (before : List Act) (view : EditView) (reading : Reading) :
      Act.lastRender? (before ++ [.render view none] ++ [.read reading]) = some (view, none) := by
    rw [Act.lastRender?_concat rfl, Act.lastRender?_concat_render]
  induction h generalizing before with
  | unshown => exact ⟨trivial, trivial⟩
  | ranOut =>
    refine ⟨trivial, ⟨_, htaken hvisits hbefore, ?_⟩, trivial⟩
    intro event hevent hcommand
    obtain rfl := Reading.event.inj hevent
    cases hcommand
  | unread =>
    refine ⟨trivial, ⟨_, htaken hvisits hbefore, ?_⟩, trivial⟩
    intro event hevent
    cases hevent
  | @stopped event _ s _ _ acts _ hrender heffect =>
    have hshown := hlast before (s.buffer.view setup) (.event event)
    obtain ⟨rfl, -⟩ := Prod.mk.inj hrender
    -- showing the buffer is timely, so this is about the reading and what it brings about
    refine ⟨trivial, ⟨s, htaken hvisits hbefore, ?_⟩, ?_⟩
    · intro event' hevent hcommand
      obtain rfl := Reading.event.inj hevent
      exact heffect.settled_of_stop hcommand
    · cases heffect with
      | stop _ _ _ hacts =>
        rw [← List.append_nil acts]
        exact .append hshown hacts trivial
      | submitted | uncommitted => exact ⟨hshown, trivial⟩
  | @goOn event _ s _ next acts _ _ hrender hgo heffect hlater ih =>
    have hshown := hlast before (s.buffer.view setup) (.event event)
    have hnext : next.display.history = _ := acts_of_effect hrender heffect
    have hround := Visits.round hvisits hrender hgo
    obtain ⟨rfl, -⟩ := Prod.mk.inj hrender
    refine ⟨trivial, ⟨s, htaken hvisits hbefore, ?_⟩, ?_⟩
    · intro event' hevent hcommand
      obtain rfl := Reading.event.inj hevent
      exact heffect.settled_of_goOn hcommand hlater
    · -- what is printed in a round that goes on leaves no view on the screen
      have hprints : ∀ act ∈ acts, act.IsPrintOrCommit (s.buffer.view setup) := by
        intro act hact
        cases heffect with
        | goOn _ _ hacts => exact (hacts act hact).isPrintOrCommit _
        | blank | continued => cases hact
      refine .append hshown hprints (ih hround ?_)
      rw [hnext, hbefore]
      simp

/-- What is shown right before a reading is the buffer, and if it is then submitted it is settled. -/
theorem AllTimely.settled {view : EditView} {event : InputEvent}
    (h : AllTimely setup feed start outcome []
      (older ++ .render view none :: .read (.event event) :: newer)) :
    ∃ buffer : EditBuffer, view = buffer.view setup ∧
      (event.command? view.text.isEmpty = some .submit → Settled view newer outcome) := by
  rw [List.append_cons] at h
  obtain ⟨s, ⟨-, oldest, holdest, -⟩, hsettled⟩ := h.timely
  rw [List.nil_append] at holdest
  obtain ⟨-, hview⟩ := List.append_inj' holdest rfl
  obtain rfl : view = s.buffer.view setup := by simpa using hview
  exact ⟨s.buffer, rfl, hsettled event rfl⟩

/-! ### The end of a reading -/

/-- The acts end with a submission: a text was shown, a reading asked for its submission, and it was
left on the screen as it was shown, as the only one. -/
def EndsWithSubmission (view : EditView) (acts : List Act) : Prop :=
  ∃ older event, acts = older ++ [.render view none, .read (.event event), .commit view none] ∧
    (∀ view' failure, .commit view' failure ∉ older) ∧
    event.command? view.text.isEmpty = some .submit

theorem EndsWithSubmission.append {view : EditView} (h : EndsWithSubmission view acts)
    {front : List Act} (hfront : ∀ view' failure, .commit view' failure ∉ front) :
    EndsWithSubmission view (front ++ acts) := by
  obtain ⟨older, event, rfl, hnone, hevent⟩ := h
  refine ⟨front ++ older, event, (List.append_assoc ..).symm, fun view' failure => ?_, hevent⟩
  rw [List.mem_append, not_or]
  exact ⟨hfront view' failure, hnone view' failure⟩

/-- A reading whose outcome adds to the history has ended with a submission, and the outcome is the
verdict on it. -/
theorem Rounds.endsWithSubmission {finish : Finish} (h : Rounds setup feed s acts finish)
    (hentries : finish.outcome.entries ≠ []) : ∃ (buffer : EditBuffer) (accepted : Bool),
      EndsWithSubmission (buffer.view setup) acts ∧ ¬ Text.isAllBlank buffer.text ∧
        Verdict buffer.text accepted finish.outcome := by
  induction h with
  | unshown | ranOut | unread => exact absurd rfl hentries
  | @stopped event _ s _ _ _ _ hrender heffect =>
    obtain ⟨rfl, -⟩ := Prod.mk.inj hrender
    cases heffect with
    | stop _ hnone => exact absurd hnone hentries
    | submitted hsubmits hfilled hverdict =>
      exact ⟨s.buffer, _, ⟨[], event, rfl, by simp, hsubmits⟩, hfilled, hverdict⟩
    | uncommitted => exact absurd rfl hentries
  | @goOn event _ s _ _ acts _ _ _ _ heffect _ ih =>
    -- what is printed in a round that goes on leaves no view on the screen
    have hnone (view : EditView) (failure : Option Text) : .commit view failure ∉ acts := by
      cases heffect with
      | goOn _ _ hacts =>
        intro hmem
        obtain ⟨rows, hprint⟩ := hacts _ hmem
        cases hprint
      | blank | continued => exact List.not_mem_nil
    have hfront (view : EditView) (failure : Option Text) :
        .commit view failure ∉ .render (s.buffer.view setup) none :: .read (.event event) :: acts := by
      simpa using hnone view failure
    obtain ⟨buffer, accepted, hends, hverdict⟩ := ih hentries
    exact ⟨buffer, accepted, hends.append hfront, hverdict⟩

end Editing

end StatementReader
