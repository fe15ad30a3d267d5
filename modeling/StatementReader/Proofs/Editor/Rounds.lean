import StatementReader.Proofs.Editor.Steps

/-!
# The rounds of a reading

The reading of a statement is a row of rounds, each of which shows the buffer, takes a reading and
carries out its command. All but the last go on (`Visits`), and the last one stops the reading. The
whole row, with all the acts that it adds to those of the display, is described by `Rounds`, and what
holds of a whole reading is proved by induction over it, from what a step does (`Effect`).

So the outcome of a reading tells what has come of it: which entries the history has got
(`Rounds.entries`) and whether a call has failed (`Rounds.faults`). No reading takes longer than
there is something to be read or a fault is due (`Rounds.budget_lt`).
-/

namespace StatementReader

namespace FaultPlan

/-- No call makes a plan longer. -/
theorem length_next_le (plan : FaultPlan) : plan.next.length ≤ plan.length := by
  rcases plan with _ | ⟨⟨_ | n, message⟩, plan⟩ <;> simp [next]

/-- A call that fails has used up an entry of the plan. -/
theorem length_next_lt {plan : FaultPlan} {message : Text} (h : plan.failure? = some message) :
    plan.next.length < plan.length := by
  rcases plan with _ | ⟨⟨_ | n, message⟩, plan⟩ <;> simp_all [next, failure?]

end FaultPlan

namespace Editing

variable {setup : ReadSetup} {feed feed' : List Reading} {s s' : State} {acts : List Act}
  {finish : Finish}

/-! ### Rounds that go on -/

/-- After some rounds, the loop is at a state and goes on with what is left of the feed. -/
inductive Visits (setup : ReadSetup) (feed : List Reading) (s : State) :
    List Reading → State → Prop
  | start : Visits setup feed s feed s
  | round {reading : Reading} {feed' : List Reading} {s' shown next : State}
      (h : Visits setup feed s (reading :: feed') s') (hrender : s'.render setup = (shown, none))
      (hgo : carryOut setup shown reading = .goOn next) : Visits setup feed s feed' next

theorem Visits.trans {feed'' : List Reading} {s'' : State} (h : Visits setup feed s feed' s')
    (h' : Visits setup feed' s' feed'' s'') : Visits setup feed s feed'' s'' := by
  induction h' with
  | start => exact h
  | round _ hrender hgo ih => exact .round ih hrender hgo

/-- What a reading comes to is what it comes to from any state that it visits. -/
theorem Visits.run_eq (h : Visits setup feed s feed' s') :
    run setup feed s = run setup feed' s' := by
  induction h with
  | start => rfl
  | round _ hrender hgo ih =>
    rw [ih, run, hrender]
    dsimp only
    rw [hgo]

/-- A step that goes on leaves the history alone. -/
theorem history_of_carryOut {t : State} {reading : Reading}
    (h : carryOut setup s reading = .goOn t) : t.history = s.history := by
  cases reading with
  | fault message => cases h
  | event event =>
    obtain ⟨acts, heffect⟩ := exists_effect_carryOut setup s event
    rw [h] at heffect
    cases heffect with
    | goOn _ hkeeps => exact hkeeps.history
    | blank => rfl
    | continued => rfl

/-- While a statement is read, the history stays as it is. -/
theorem Visits.history (h : Visits setup feed s feed' s') : s'.history = s.history := by
  induction h with
  | start => rfl
  | round _ hrender hgo ih =>
    rw [history_of_carryOut hgo, State.history_of_render hrender, ih]

/-! ### All rounds -/

/-- The loop, which begins in a state with a feed, adds some acts and comes to a finish. -/
inductive Rounds (setup : ReadSetup) : List Reading → State → List Act → Finish → Prop
  | unshown {feed : List Reading} {s shown : State} {message : Text}
      (hrender : s.render setup = (shown, some message)) :
      Rounds setup feed s [.render (s.buffer.view setup) (some message)]
        ⟨.broken (.render message), feed, shown⟩
  | ranOut {s shown : State} (hrender : s.render setup = (shown, none)) :
      Rounds setup [] s [.render (s.buffer.view setup) none, .read (.event .endOfInput)]
        ⟨.exit, [], shown.note (.read (.event .endOfInput))⟩
  | unread {message : Text} {feed : List Reading} {s shown : State}
      (hrender : s.render setup = (shown, none)) :
      Rounds setup (.fault message :: feed) s
        [.render (s.buffer.view setup) none, .read (.fault message)]
        ⟨.broken (.reading message), feed, shown.note (.read (.fault message))⟩
  | stopped {event : InputEvent} {feed : List Reading} {s shown last : State} {acts : List Act}
      {outcome : ReadOutcome} (hrender : s.render setup = (shown, none))
      (heffect : Effect setup (shown.note (.read (.event event)))
        (event.command? shown.buffer.isEmpty = some .submit) acts (.stop outcome last)) :
      Rounds setup (.event event :: feed) s
        (.render (s.buffer.view setup) none :: .read (.event event) :: acts) ⟨outcome, feed, last⟩
  | goOn {event : InputEvent} {feed : List Reading} {s shown next : State} {acts later : List Act}
      {finish : Finish} (hrender : s.render setup = (shown, none))
      (hgo : carryOut setup shown (.event event) = .goOn next)
      (heffect : Effect setup (shown.note (.read (.event event)))
        (event.command? shown.buffer.isEmpty = some .submit) acts (.goOn next))
      (hlater : Rounds setup feed next later finish) :
      Rounds setup (.event event :: feed) s
        (.render (s.buffer.view setup) none :: .read (.event event) :: (acts ++ later)) finish

/-- Every reading is such a row of rounds. -/
theorem exists_rounds (setup : ReadSetup) (feed : List Reading) (s : State) :
    ∃ acts, Rounds setup feed s acts (run setup feed s) := by
  induction feed generalizing s with
  | nil =>
    unfold run
    rcases hrender : s.render setup with ⟨shown, _ | message⟩
    · -- the feed has run out, which is the end of the input
      exact ⟨_, .ranOut hrender⟩
    · exact ⟨_, .unshown hrender⟩
  | cons reading feed ih =>
    unfold run
    rcases hrender : s.render setup with ⟨shown, _ | message⟩
    · cases reading with
      | fault message => exact ⟨_, .unread hrender⟩
      | event event =>
        obtain ⟨acts, heffect⟩ := exists_effect_carryOut setup shown event
        dsimp only
        rcases hstep : carryOut setup shown (.event event) with next | ⟨outcome, last⟩
        · -- a round that goes on is one more in front of those that follow it
          obtain ⟨later, hlater⟩ := ih next
          exact ⟨_, .goOn hrender hstep (hstep ▸ heffect) hlater⟩
        · exact ⟨_, .stopped hrender (hstep ▸ heffect)⟩
    · exact ⟨_, .unshown hrender⟩

/-- What has happened at the display when a reading has been taken. -/
theorem acts_of_read {shown : State} (hrender : s.render setup = (shown, none))
    (reading : Reading) : (shown.note (.read reading)).display.history =
      s.display.history ++ [.render (s.buffer.view setup) none, .read reading] := by
  refine (Display.history_note ..).trans ?_
  rw [State.acts_of_render hrender, List.append_assoc]
  rfl

/-- What has happened at the display when a round has been made. -/
theorem acts_of_effect {shown : State} {reading : Reading} {submits : Prop} {step : Step}
    (hrender : s.render setup = (shown, none))
    (heffect : Effect setup (shown.note (.read reading)) submits acts step) :
    step.state.display.history =
      s.display.history ++ .render (s.buffer.view setup) none :: .read reading :: acts := by
  rw [heffect.adds.acts, acts_of_read hrender, List.append_assoc]
  rfl

namespace Rounds

/-- The first act is that the buffer is shown. -/
theorem exists_eq_cons (h : Rounds setup feed s acts finish) :
    ∃ failure more, acts = .render (s.buffer.view setup) failure :: more := by
  cases h <;> exact ⟨_, _, rfl⟩

/-- The display at the end has seen the acts of the rounds after what it had seen before. -/
theorem display (h : Rounds setup feed s acts finish) :
    finish.state.display.history = s.display.history ++ acts := by
  induction h with
  | unshown hrender => exact State.acts_of_render hrender
  | ranOut hrender | unread hrender => exact acts_of_read hrender _
  | stopped hrender heffect => exact acts_of_effect hrender heffect
  | goOn hrender _ heffect _ ih =>
    refine ih.trans ((congrArg (· ++ _) (acts_of_effect hrender heffect)).trans ?_)
    rw [List.append_assoc]
    rfl

/-- A reading leaves in the history what its outcome says. -/
theorem entries (h : Rounds setup feed s acts finish) :
    finish.state.history.entries = s.history.entries ++ finish.outcome.entries := by
  induction h with
  | unshown hrender | ranOut hrender | unread hrender =>
    rw [← State.history_of_render hrender]
    exact (List.append_nil _).symm
  | stopped hrender heffect =>
    rw [← State.history_of_render hrender]
    cases heffect with
    | stop _ hentries hkeeps =>
      rw [hentries, List.append_nil]
      exact congrArg History.entries hkeeps.history
    | submitted _ _ hverdict hcommit =>
      -- the text that is recorded is the one that has been judged
      obtain ⟨rfl, -⟩ := Prod.mk.inj hcommit
      exact hverdict.entries_eq _
    | uncommitted _ _ _ hcommit =>
      rw [(Keeps.commit hcommit).history]
      exact (List.append_nil _).symm
  | goOn hrender hgo _ _ ih =>
    rw [ih, history_of_carryOut hgo, State.history_of_render hrender]

/-- A call fails only if the outcome blames the console for it, and then it is the only one. -/
theorem faults (h : Rounds setup feed s acts finish) :
    Act.faults acts = finish.outcome.fault?.toList := by
  induction h with
  | unshown | ranOut | unread => rfl
  | stopped _ heffect =>
    simp only [Act.faults_cons, Act.fault?, Option.map_none, Option.toList_none, List.nil_append]
    -- the reading itself is no fault, so only what the command did counts
    cases heffect with
    | stop _ _ _ _ hfaults => exact hfaults
    | submitted _ _ hverdict => rw [hverdict.fault?_eq_none]; rfl
    | uncommitted => rfl
  | goOn _ _ heffect _ ih =>
    simp only [Act.faults_cons, Act.faults_append, Act.fault?, Option.map_none, Option.toList_none,
      List.nil_append, ih]
    cases heffect with
    | goOn _ _ hacts => rw [Act.faults_of_isPrint hacts, List.nil_append]
    | blank | continued => rfl

end Rounds

/-! ### How long it takes -/

/-- The readings to come and the faults due when the buffer is shown. -/
def budget (feed : List Reading) (d : Display) : Nat := feed.length + d.faults.render.length

/-- Showing the buffer uses up no more than a fault that was due. -/
theorem budget_of_render {t : State} {failure : Option Text}
    (h : s.render setup = (t, failure)) (feed : List Reading) :
    budget feed t.display ≤ budget feed s.display := by
  have hplan := FaultPlan.length_next_le s.display.faults.render
  obtain ⟨rfl, -⟩ := Prod.mk.inj h
  exact Nat.add_le_add_left hplan feed.length

theorem budget_of_unshown {t : State} {message : Text}
    (h : s.render setup = (t, some message)) (feed : List Reading) :
    budget feed t.display < budget feed s.display := by
  obtain ⟨rfl, hfailure⟩ := Prod.mk.inj h
  have hplan := FaultPlan.length_next_lt hfailure
  exact Nat.add_lt_add_left hplan feed.length

/-- After a round that shows the buffer and takes a reading, there is one reading less. -/
theorem budget_of_read {shown : State} {d : Display} {reading : Reading}
    (hrender : s.render setup = (shown, none)) (h : (shown.note (.read reading)).display.Adds acts d)
    (feed : List Reading) : budget feed d < budget (reading :: feed) s.display := by
  have hshown := budget_of_render hrender feed
  have hfaults : d.faults.render = shown.display.faults.render := h.faults
  rw [budget] at hshown
  rw [budget, budget, hfaults, List.length_cons]
  rw [budget] at hshown
  omega

/-- A statement that does not end the input has taken a reading, or met a fault that was due. -/
theorem Rounds.budget_lt (h : Rounds setup feed s acts finish) (hgoes : finish.outcome ≠ .exit) :
    budget finish.feed finish.state.display < budget feed s.display := by
  induction h with
  | unshown hrender => exact budget_of_unshown hrender _
  | ranOut => exact absurd rfl hgoes
  | unread hrender => exact budget_of_read hrender (.refl _) _
  | stopped hrender heffect => exact budget_of_read hrender heffect.adds _
  | goOn hrender _ heffect _ ih =>
    exact Nat.lt_trans (ih hgoes) (budget_of_read hrender heffect.adds _)

end Editing

end StatementReader
