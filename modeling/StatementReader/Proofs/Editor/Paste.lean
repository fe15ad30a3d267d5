import StatementReader.Proofs.Editor.Alike

/-!
# Typing and pasting

A text can be brought into the buffer in two ways: by pasting it, which is one event, or by typing
it, which is a key press for each character. A line feed is typed with a key of its own, and what is
typed ends no statement. The only difference in the buffer is that typing can be undone character by
character (`Typed`), so nothing comes of it before something is undone or redone
(`typing_as_pasting`).

An empty text is pasted, and is not typed at all: then pasting ends a walk through the history, and
typing does not. A tab is not typed but asks for a completion.
-/

namespace StatementReader

open Text

/-! ### Insertions -/

/-- What is inserted stands between what was before the cursor and what was after it. A cursor that
cuts a character goes before it. -/
theorem EditBuffer.insert_eq (b : EditBuffer) (value : Text) :
    b.insert value = ⟨Sides.draft ⟨upTo b.cursor b.text ++ value, beyond b.cursor b.text⟩, none,
      none, b.draft :: b.undoStack, []⟩ := by
  have hupTo := upTo_size_append (upTo b.cursor b.text) (beyond b.cursor b.text)
  have hbeyond := beyond_size_append (upTo b.cursor b.text) (beyond b.cursor b.text)
  rw [upTo_append_beyond] at hupTo hbeyond
  -- the cursor may be off a boundary, and then the text is inserted at the one before it
  have hdraft : b.draft.splice ⟨floor b.cursor b.text, floor b.cursor b.text, value⟩ =
      Sides.draft ⟨upTo b.cursor b.text ++ value, beyond b.cursor b.text⟩ := by
    change Draft.mk (upTo (floor b.cursor b.text) b.text ++ value ++
      beyond (floor b.cursor b.text) b.text) (size (upTo b.cursor b.text) + size value) = _
    rw [floor, hupTo, hbeyond, Sides.draft, size_append]
  exact congrArg (EditBuffer.mk · none none (b.draft :: b.undoStack) []) hdraft

/-- Inserting one text after another is like inserting both at once. -/
theorem EditBuffer.alike_insert_insert (b : EditBuffer) (value value' : Text) :
    ((b.insert value).insert value').Alike (b.insert (value ++ value')) := by
  rw [insert_eq b value, insert_eq b (value ++ value')]
  have hinserted := fun before after undoStack => insert_eq
    ⟨Sides.draft ⟨before, after⟩, none, none, undoStack, []⟩ value'
  simp only [EditBuffer.cursor, EditBuffer.text, Sides.cursor_draft, Sides.text_draft,
    upTo_size_append, beyond_size_append] at hinserted
  rw [hinserted, List.append_assoc]
  exact ⟨rfl, rfl, rfl⟩

/-! ### Line feeds only -/

theorem Text.normalizeBreaks_ne_nil {t : Text} (h : t ≠ []) : normalizeBreaks t ≠ [] := by
  unfold normalizeBreaks
  split
  · exact absurd rfl h
  · exact List.cons_ne_nil _ _
  · exact List.cons_ne_nil _ _

theorem Text.tab_notMem_normalizeBreaks {t : Text} (h : '\t' ∉ t) : '\t' ∉ normalizeBreaks t := by
  fun_induction normalizeBreaks t with
  | case1 => exact List.not_mem_nil
  | case2 t ih =>
    have hrest : '\t' ∉ t := fun hmem => h (by simp [hmem])
    exact List.not_mem_cons_of_ne_of_not_mem (by decide) (ih hrest)
  | case3 c t _ ih =>
    obtain ⟨hc, hrest⟩ := List.ne_and_not_mem_of_not_mem_cons h
    refine List.not_mem_cons_of_ne_of_not_mem ?_ (ih hrest)
    -- a carriage return becomes a line feed, and every other character stays
    split
    · decide
    · exact hc

/-! ### Quiet rounds -/

/-- Nothing has been printed or left on the screen, and no fault has fallen due. -/
structure Display.Quiet (d d' : Display) : Prop where
  width : d'.width = d.width
  faults : d'.faults = d.faults
  printed : d'.printed = d.printed
  committed : d'.committed = d.committed

namespace Display.Quiet

variable {d d' d'' : Display}

theorem trans (h : d.Quiet d') (h' : d'.Quiet d'') : d.Quiet d'' :=
  ⟨h'.width.trans h.width, h'.faults.trans h.faults, h'.printed.trans h.printed,
    h'.committed.trans h.committed⟩

theorem note_read (d : Display) (reading : Reading) : d.Quiet (d.note (.read reading)) := by
  refine ⟨rfl, rfl, ?_, ?_⟩
  · simp [Display.printed]
  · simp [Display.committed]

/-- Showing a view is quiet if it never fails. -/
theorem render (h : d.faults.render = []) (v : EditView) :
    d.Quiet (d.render v).1 ∧ (d.render v).2 = none := by
  have hfailure : (d.render v).2 = none := congrArg FaultPlan.failure? h
  have hfaults : (d.render v).1.faults = d.faults := by
    have hplan : d.faults.render.next = d.faults.render := by
      rw [h]
      rfl
    exact congrArg (DisplayFaults.mk · d.faults.print d.faults.commit) hplan
  refine ⟨⟨rfl, hfaults, ?_, ?_⟩, hfailure⟩
  · simp [Display.printed]
  · simp [Display.committed]

end Display.Quiet

namespace Editing

variable {setup : ReadSetup} {s : State}

/-- The event puts a text into the buffer, whatever is in it. -/
def Inserts (event : InputEvent) (value : Text) : Prop :=
  ∀ setup s, carryOut setup s (.event event) =
    .goOn ((s.note (.read (.event event))).update (·.insert value))

/-- A paste inserts its text with line feeds. -/
theorem inserts_paste (t : Text) : Inserts (.paste t) (normalizeBreaks t) := fun _ _ => rfl

/-- A character that is typed is inserted, unless it is a tab. -/
theorem inserts_typing {c : Char} (h : c ≠ '\t') : Inserts (.key (.typing c)) [c] := by
  intro setup s
  by_cases hbreak : c = '\n'
  · subst hbreak
    rfl
  · rw [Key.typing, if_neg hbreak, if_neg h]
    rfl

/-- A round that inserts a text is quiet, and the loop goes on after it. -/
theorem exists_visits_insert {event : InputEvent} {value : Text} (hevent : Inserts event value)
    (setup : ReadSetup) (hshown : s.display.faults.render = []) :
    ∃ next, (∀ feed, Visits setup (.event event :: feed) s feed next) ∧
      next.history = s.history ∧ next.buffer = s.buffer.insert value ∧
      s.display.Quiet next.display := by
  obtain ⟨hquiet, hrender⟩ := Display.Quiet.render hshown (s.buffer.view setup)
  have hshow : s.render setup = ((s.render setup).1, none) := Prod.ext rfl hrender
  refine ⟨_, fun feed => .round .start hshow (hevent setup _), rfl, rfl, ?_⟩
  exact hquiet.trans (.note_read _ _)

/-- A text has been typed into the buffer of a state, and nothing else has come of that. -/
structure Typed (s : State) (t : Text) (s' : State) : Prop where
  history : s'.history = s.history
  buffer : s'.buffer.Alike (s.buffer.insert t)
  quiet : s.display.Quiet s'.display

theorem Typed.exists_visits {s' : State} {t : Text} (h : Typed s t s')
    (hshown : s.display.faults.render = []) (setup : ReadSetup) {more : Text}
    (htab : '\t' ∉ more) :
    ∃ next, Typed s (t ++ more) next ∧
      ∀ feed, Visits setup ((InputEvent.typing more).map .event ++ feed) s' feed next := by
  -- what has been typed grows by one character with each key
  induction more generalizing t s' with
  | nil =>
    rw [List.append_nil]
    exact ⟨s', h, fun feed => .start⟩
  | cons c more ih =>
    obtain ⟨hc, htab⟩ := List.ne_and_not_mem_of_not_mem_cons htab
    have hshown' : s'.display.faults.render = [] := by rw [h.quiet.faults, hshown]
    obtain ⟨next, hvisits, hhistory, hbuffer, hquiet⟩ :=
      exists_visits_insert (inserts_typing hc.symm) setup hshown'
    have htyped : Typed s (t ++ [c]) next := by
      refine ⟨hhistory.trans h.history, ?_, h.quiet.trans hquiet⟩
      rw [hbuffer]
      exact (h.buffer.edit (.insert [c])).trans (EditBuffer.alike_insert_insert ..)
    obtain ⟨last, hlast, hothers⟩ := ih htyped htab
    rw [List.append_assoc] at hlast
    exact ⟨last, hlast, fun feed => (hvisits _).trans (hothers feed)⟩

/-- The keys that type a text lead to a state where it has been typed. -/
theorem exists_typed (s : State) {t : Text} (hne : t ≠ []) (htab : '\t' ∉ t)
    (hshown : s.display.faults.render = []) (setup : ReadSetup) :
    ∃ typed, Typed s t typed ∧
      ∀ feed, Visits setup ((InputEvent.typing t).map .event ++ feed) s feed typed := by
  obtain ⟨c, more, rfl⟩ := List.exists_cons_of_ne_nil hne
  obtain ⟨hc, hmore⟩ := List.ne_and_not_mem_of_not_mem_cons htab
  -- the first key ends a walk through the history, as pasting does
  obtain ⟨first, hvisits, hhistory, hbuffer, hquiet⟩ :=
    exists_visits_insert (inserts_typing hc.symm) setup hshown
  have hfirst : Typed s [c] first := ⟨hhistory, hbuffer ▸ .refl _, hquiet⟩
  obtain ⟨typed, htyped, hothers⟩ := hfirst.exists_visits hshown setup hmore
  exact ⟨typed, htyped, fun feed => (hvisits _).trans (hothers feed)⟩

/-- Whatever state the editor is in while it reads a statement, typing a text leads to the same text
and cursor and ends a walk through the history as pasting it does, and no key stops the reading.
After that, until something is undone or redone, the outcomes of this call and of all later ones are
the same, and so are the history and what is left on the screen. -/
theorem typing_as_pasting (setup : ReadSetup) (s : State) {t : Text} (hne : t ≠ [])
    (htab : '\t' ∉ t) (hshown : s.display.faults.render = []) :
    let keys := (InputEvent.typing (normalizeBreaks t)).map Reading.event
    let paste := Reading.event (.paste t)
    ∃ typed pasted : State,
      (∀ feed, Visits setup (keys ++ feed) s feed typed) ∧
      (∀ feed, Visits setup (paste :: feed) s feed pasted) ∧
      typed.buffer.text = pasted.buffer.text ∧ typed.buffer.cursor = pasted.buffer.cursor ∧
      typed.buffer.recallIndex = pasted.buffer.recallIndex ∧
      typed.buffer.recallStash = pasted.buffer.recallStash ∧
      ∀ feed calls, (∀ reading ∈ feed, ¬ reading.Reverts) → (∀ c ∈ calls, c.Proceeds) →
        let one := run setup (keys ++ feed) s
        let other := run setup (paste :: feed) s
        one.outcome = other.outcome ∧
        (one.editor.readAll calls).1 = (other.editor.readAll calls).1 ∧
        (one.editor.readAll calls).2.history = (other.editor.readAll calls).2.history ∧
        (one.editor.readAll calls).2.display.committed =
          (other.editor.readAll calls).2.display.committed := by
  intro keys paste
  obtain ⟨typed, htyped, hkeys⟩ := exists_typed s (normalizeBreaks_ne_nil hne)
    (tab_notMem_normalizeBreaks htab) hshown setup
  obtain ⟨pasted, hpaste, hhistory, hbuffer, hquiet⟩ :=
    exists_visits_insert (inserts_paste t) setup hshown
  -- what differs is the undo stack and what the display has been shown
  have halike : typed.Alike typed.display.acts pasted.display.acts pasted := by
    refine ⟨htyped.history.trans hhistory.symm, ?_, ?_⟩
    · rw [hbuffer]
      exact htyped.buffer
    · exact ⟨htyped.quiet.width.trans hquiet.width.symm,
        htyped.quiet.faults.trans hquiet.faults.symm, [], rfl, rfl⟩
  refine ⟨typed, pasted, hkeys, hpaste, halike.buffer.text, halike.buffer.cursor,
    halike.buffer.recallIndex, halike.buffer.recallStash, ?_⟩
  intro feed calls hfeed hcalls one other
  have hone : one = run setup feed typed := (hkeys feed).run_eq
  have hother : other = run setup feed pasted := (hpaste feed).run_eq
  rw [hone, hother]
  have hrun := alike_run halike setup hfeed
  obtain ⟨houtcomes, hlast⟩ := (Editor.alike_of_run halike setup hfeed).readAll hcalls
  -- nothing is committed while the text comes in
  have hcommitted : typed.display.committed = pasted.display.committed :=
    htyped.quiet.committed.trans hquiet.committed.symm
  exact ⟨hrun.outcome, houtcomes, hlast.history, hlast.display.committed hcommitted⟩

/-- A text with a line break is typed into an entry of the history, which is then submitted as two
statements. -/
theorem typing_as_pasting_recalled :
    let setup : ReadSetup := ⟨[], .plain, .silent⟩
    let s : State := ⟨⟨[⟨"f(12)".toList, .seeded⟩]⟩,
      ⟨⟨"f(12)".toList, 3⟩, some 0, some ⟨"x".toList, 1⟩, [], []⟩, .start 80 .none⟩
    let t : Text := "0)\r\ng(".toList
    let keys := (InputEvent.typing (normalizeBreaks t)).map Reading.event
    t ≠ [] ∧ '\t' ∉ t ∧ s.display.faults.render = [] ∧
      (run setup (keys ++ [.event .submit]) s).outcome =
        .success "f(10)\ng(2)".toList ["f(10)".toList, "g(2)".toList] := by
  intro setup s t keys
  have hne : t ≠ [] := by decide
  have htab : '\t' ∉ t := by decide
  obtain ⟨typed, pasted, -, -, -, -, -, -, hsame⟩ :=
    typing_as_pasting setup s hne htab rfl
  have hfeed : ∀ reading ∈ [Reading.event .submit], ¬ reading.Reverts := by
    simp [Reading.Reverts, InputEvent.Reverts, InputEvent.command?]
  have hpasted : (run setup [.event (.paste t), .event .submit] s).outcome =
      .success "f(10)\ng(2)".toList ["f(10)".toList, "g(2)".toList] := by
    decide +kernel
  exact ⟨hne, htab, rfl, (hsame _ [] hfeed (by simp)).1.trans hpasted⟩

end Editing

end StatementReader
