import StatementReader.Proofs.Editor.Shown
import StatementReader.Proofs.Parse.Continuation

/-!
# Submitting again and again

Whoever submits an unfinished statement gets another line. Doing so again and again adds one line
after the other, and the statement stays unfinished, unless it ends in a character literal that is
open (`continuation`). Such a literal takes a line break only as its one character. A further line
break turns its quote into a stray one, and then the statement is rejected.
-/

namespace StatementReader

open Text

namespace Editing

variable {s : State}

theorem not_isAllBlank_of_missingDelimiter {t : Text} {position : Nat}
    (hmissing : parse t .committing = .failure (.missingDelimiter position)) :
    ¬ isAllBlank t := by
  intro hblank
  obtain ⟨-, c, hsplit⟩ := committing_eq_missingDelimiter_iff.1 hmissing
  rw [split_of_isAllBlank hblank] at hsplit
  cases hsplit

theorem submit_unfinished (setup : ReadSetup) {position : Nat}
    (hmissing : parse s.buffer.text .committing = .failure (.missingDelimiter position)) :
    submit setup s = .goOn (s.update (·.breakLine)) := by
  unfold submit
  rw [if_neg (not_isAllBlank_of_missingDelimiter hmissing), hmissing]
  rfl

/-- A press that submits an unfinished statement adds a line. -/
theorem carryOut_unfinished (setup : ReadSetup) {position : Nat} {press : InputEvent}
    (hmissing : parse s.buffer.text .committing = .failure (.missingDelimiter position))
    (hpress : press.command? false = some .submit) : ∃ next,
      carryOut setup s (.event press) = .goOn next ∧ next.history = s.history ∧
        next.display.faults = s.display.faults ∧
        next.buffer.text = s.buffer.text ++ ['\n'] := by
  let noted := s.note (.read (.event press))
  have hempty : noted.buffer.isEmpty = false := by
    have hfilled := not_isAllBlank_of_missingDelimiter hmissing
    show s.buffer.text.isEmpty = false
    cases htext : s.buffer.text with
    | nil =>
      rw [htext] at hfilled
      exact absurd rfl hfilled
    | cons c rest => rfl
  -- in a buffer that is not empty the press is a submission
  have hsubmit : carryOut setup s (.event press) = submit setup noted := by
    rw [← hempty] at hpress
    unfold carryOut
    dsimp only
    rw [hpress]
    rfl
  refine ⟨_, hsubmit.trans (submit_unfinished setup hmissing), rfl, rfl, ?_⟩
  exact congrArg Draft.text (draft_breakLine s.buffer)

/-- A call that fails was planned to. -/
theorem faults_ne_nil_of_render {shown : State} {setup : ReadSetup} {message : Text}
    (h : s.render setup = (shown, some message)) : s.display.faults.render ≠ [] := by
  intro hnone
  have hfailure : s.display.faults.render.failure? = some message := (Prod.mk.inj h).2
  rw [hnone] at hfailure
  cases hfailure

/-- Presses that submit an unfinished statement add a line each, as long as the statement takes
them, or the buffer cannot be shown before they have been taken. -/
theorem run_unfinished (setup : ReadSetup) (feed : List Reading) {presses : List InputEvent}
    {position : Nat}
    (hmissing : parse s.buffer.text .committing = .failure (.missingDelimiter position))
    (hpresses : ∀ press ∈ presses, press.command? false = some .submit)
    (htakes : TakesBreaks presses.length s.buffer.text) :
    (∃ later, run setup (presses.map .event ++ feed) s = run setup feed later ∧
      later.history = s.history ∧
      later.buffer.text = s.buffer.text ++ List.replicate presses.length '\n') ∨
    (s.display.faults.render ≠ [] ∧ ∃ message view,
      (run setup (presses.map .event ++ feed) s).outcome = .broken (.render message) ∧
      (run setup (presses.map .event ++ feed) s).state.display.history.getLast? =
        some (.render view (some message)) ∧
      (run setup (presses.map .event ++ feed) s).state.history = s.history) := by
  -- what is carried along is that the text is unfinished and takes the line breaks to come
  induction presses generalizing s position with
  | nil => exact .inl ⟨s, rfl, rfl, (List.append_nil _).symm⟩
  | cons press presses ih =>
    obtain ⟨hpress, hpresses⟩ := List.forall_mem_cons.1 hpresses
    have hone : TakesBreaks 1 s.buffer.text := htakes.mono (Nat.le_add_left 1 presses.length)
    rw [List.map_cons, List.cons_append, run]
    rcases hrender : s.render setup with ⟨shown, _ | message⟩
    swap
    · -- the console fails before the first press is taken
      refine .inr ⟨faults_ne_nil_of_render hrender, message, s.buffer.view setup, rfl, ?_,
        State.history_of_render hrender⟩
      exact (congrArg List.getLast? (State.acts_of_render hrender)).trans List.getLast?_concat
    have hbuffer := State.buffer_of_render hrender
    rw [← hbuffer] at hmissing
    obtain ⟨next, hgo, hhistory, hfaults, htext⟩ := carryOut_unfinished setup hmissing hpress
    have hhistory : next.history = s.history := hhistory.trans (State.history_of_render hrender)
    rw [hbuffer] at hmissing htext
    -- the statement is unfinished with the new line too, and takes one line break less
    have hmissing' := missingDelimiter_append_replicate (n := 1) hone hmissing
    have htakes' := (takesBreaks_succ_iff hone presses.length).1 htakes
    rw [List.replicate_one, ← htext] at hmissing'
    rw [← htext] at htakes'
    dsimp only
    rw [hgo]
    obtain ⟨later, hrun, hlater, hlines⟩ | ⟨hplanned, message, view, hbroken, hlast, hkept⟩ :=
      ih hmissing' hpresses htakes'
    · refine .inl ⟨later, hrun, hlater.trans hhistory, ?_⟩
      calc later.buffer.text
        _ = next.buffer.text ++ List.replicate presses.length '\n' := hlines
        _ = s.buffer.text ++ ['\n'] ++ List.replicate presses.length '\n' := by rw [htext]
        _ = s.buffer.text ++ List.replicate (press :: presses).length '\n' := by
          rw [← List.append_cons, List.length_cons, List.replicate_succ]
    · -- what was planned for later was planned before the buffer was shown
      refine .inr ⟨fun hnone => hplanned ?_, message, view, hbroken, hlast, hkept.trans hhistory⟩
      have hshown : shown.display.faults.render = s.display.faults.render.next := by
        obtain ⟨rfl, -⟩ := Prod.mk.inj hrender
        rfl
      rw [hfaults, hshown, hnone]
      rfl

end Editing

/-- An unfinished statement is unfinished with more lines too, if it does not end in an open
character literal or if that literal has room for the line breaks; otherwise it is rejected. So
submitting it again and again adds one line after the other, for as long, and neither ends the
reading of the statement nor adds anything to the history. Only showing the buffer may fail, if it is
to fail at all. -/
theorem continuation (t : Text) {position : Nat}
    (h : parse t .committing = .failure (.missingDelimiter position)) :
    (∀ n, TakesBreaks n t →
      parse (t ++ List.replicate n '\n') .committing =
        .failure (.missingDelimiter (size (t ++ List.replicate n '\n')))) ∧
    (∀ n, ¬ TakesBreaks n t → ∃ message position,
      parse (t ++ List.replicate n '\n') .committing = .failure (.violation message position)) ∧
    ∀ setup feed (s : Editing.State) (presses : List InputEvent), s.buffer.text = t →
      (∀ press ∈ presses, press.command? false = some .submit) → TakesBreaks presses.length t →
        (∃ later, Editing.run setup (presses.map .event ++ feed) s = Editing.run setup feed later ∧
          later.history = s.history ∧
          later.buffer.text = t ++ List.replicate presses.length '\n') ∨
        (s.display.faults.render ≠ [] ∧ ∃ message view,
          (Editing.run setup (presses.map .event ++ feed) s).outcome = .broken (.render message) ∧
          (Editing.run setup (presses.map .event ++ feed) s).state.display.history.getLast? =
            some (.render view (some message)) ∧
          (Editing.run setup (presses.map .event ++ feed) s).state.history = s.history) := by
  refine ⟨fun n htakes => missingDelimiter_append_replicate htakes h,
    fun n hfull => violation_append_replicate hfull, ?_⟩
  rintro setup feed s presses rfl hpresses htakes
  exact Editing.run_unfinished setup feed h hpresses htakes

/-- A parenthesis takes any number of line breaks, and a quote takes one. -/
theorem continuation_quote :
    (∀ n, ∃ position, parse ('(' :: List.replicate n '\n') .committing =
      .failure (.missingDelimiter position)) ∧
    (∃ position, parse "'\n".toList .committing = .failure (.missingDelimiter position)) ∧
    ∃ message position, parse "'\n\n".toList .committing = .failure (.violation message position) := by
  have hparen : parse ['('] .committing = .failure (.missingDelimiter 1) := by decide +kernel
  have hquote : parse ['\''] .committing = .failure (.missingDelimiter 1) := by decide +kernel
  have htakes : ∀ n, TakesBreaks n ['('] := takesBreaks_of_closed (by decide +kernel)
  exact ⟨fun n => ⟨_, (continuation ['('] hparen).1 n (htakes n)⟩,
    ⟨_, (continuation ['\''] hquote).1 1 (by decide +kernel)⟩,
    (continuation ['\''] hquote).2.1 2 (by decide +kernel)⟩

/-- A quote with a letter is unfinished, and with a line break after them it is rejected. -/
theorem not_forall_continuation : ¬ ∀ t : Text,
    (∃ position, parse t .committing = .failure (.missingDelimiter position)) →
      ∃ position, parse (t ++ ['\n']) .committing = .failure (.missingDelimiter position) := by
  intro h
  have hopen : parse "'a".toList .committing = .failure (.missingDelimiter 2) := by decide +kernel
  obtain ⟨position, hbreak⟩ := h _ ⟨2, hopen⟩
  have hfull : ¬ TakesBreaks 1 "'a".toList := by decide +kernel
  obtain ⟨message, place, hrejected⟩ := violation_append_replicate hfull
  cases hbreak.symm.trans hrejected

end StatementReader
