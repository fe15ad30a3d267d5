import Mathlib.Logic.Function.Iterate
import StatementReader.Proofs.Edit.Sides

/-!
# Undo and redo

To undo is to put the draft on one stack and to take it from the other, and to redo is the same the
other way round. In the editor on sides that is all there is to it, and the two take each other back
at once (`SidedBuffer.redo_undo`, `SidedBuffer.undo_redo`). The buffer moves the cursor of a draft
that it takes from a stack down to a character boundary, so there it is a matter of what the stacks
may hold. Operations lead to buffers of some sides only, and with these nothing is lost.

A row of edits with moves between them leaves a buffer that as many undos lead back from. They do
not lead back to the buffer itself: a move before the first edit remains, and so does what may be
redone. Text and past are the same (`SamePast`), and that is what the next undo depends on.
-/

namespace StatementReader

/-! ### On sides -/

namespace SidedBuffer

variable {history : List Text} {b : SidedBuffer}

/-- Undoing can be redone at once. -/
theorem redo_undo (h : b.undoStack ≠ []) : (b.apply history .undo).apply history .redo = b := by
  obtain ⟨sides, walk, undoStack, redoStack⟩ := b
  cases undoStack with
  | nil => exact absurd rfl h
  | cons s stack => rfl

/-- Redoing can be undone at once. -/
theorem undo_redo (h : b.redoStack ≠ []) : (b.apply history .redo).apply history .undo = b := by
  obtain ⟨sides, walk, undoStack, redoStack⟩ := b
  cases redoStack with
  | nil => exact absurd rfl h
  | cons s stack => rfl

end SidedBuffer

namespace EditBuffer

/-! ### Buffers that operations lead to -/

/-- Operations on a new buffer lead to this one, each with the history that it finds. -/
inductive Reachable : EditBuffer → Prop
  | empty : Reachable empty
  | apply {b : EditBuffer} (h : Reachable b) (history : List Text) (op : Operation) :
      Reachable (b.apply history op)

variable {b b' b'' : EditBuffer} {n : ℕ}

namespace Reachable

/-- An edit of a reachable buffer makes one. -/
theorem edit (h : b.Reachable) (e : Edit) : (b.edit e).Reachable := h.apply [] (.edit e)

/-- So does a move. -/
theorem move (h : b.Reachable) (m : Move) : (b.move m).Reachable := h.apply [] (.move m)

/-- So does undoing. -/
theorem undo (h : b.Reachable) : b.undo.Reachable := h.apply [] .undo

/-- A reachable buffer is one with two sides. -/
theorem exists_sides (h : b.Reachable) : ∃ s : SidedBuffer, b = s.buffer := by
  induction h with
  | empty => exact ⟨.empty, rfl⟩
  | @apply b _ history op ih =>
    obtain ⟨s, rfl⟩ := ih
    exact ⟨s.apply history op, s.buffer_apply history op⟩

/-- Undoing can be redone at once, if there is something to undo. -/
theorem redo_undo (h : b.Reachable) (hstack : b.undoStack ≠ []) : b.undo.redo = b := by
  obtain ⟨s, rfl⟩ := h.exists_sides
  have hpast : s.undoStack ≠ [] := fun hnil => hstack (congrArg (List.map Sides.draft) hnil)
  calc s.buffer.undo.redo
      = (s.apply [] .undo).buffer.redo := congrArg EditBuffer.redo (s.buffer_apply [] .undo)
    _ = ((s.apply [] .undo).apply [] .redo).buffer := SidedBuffer.buffer_apply [] _ .redo
    _ = s.buffer := congrArg SidedBuffer.buffer (SidedBuffer.redo_undo hpast)

/-- Redoing can be undone at once, if there is something to redo. -/
theorem undo_redo (h : b.Reachable) (hstack : b.redoStack ≠ []) : b.redo.undo = b := by
  obtain ⟨s, rfl⟩ := h.exists_sides
  have hundone : s.redoStack ≠ [] := fun hnil => hstack (congrArg (List.map Sides.draft) hnil)
  calc s.buffer.redo.undo
      = (s.apply [] .redo).buffer.undo := congrArg EditBuffer.undo (s.buffer_apply [] .redo)
    _ = ((s.apply [] .redo).apply [] .undo).buffer := SidedBuffer.buffer_apply [] _ .undo
    _ = s.buffer := congrArg SidedBuffer.buffer (SidedBuffer.undo_redo hundone)

/-- The cursor of a reachable buffer is on a boundary. -/
theorem clamp_draft (h : b.Reachable) : b.draft.clamp = b.draft := by
  obtain ⟨s, rfl⟩ := h.exists_sides
  exact s.sides.clamp_draft

end Reachable

/-! ### One edit -/

/-- An edit changes nothing, or it can be undone and nothing can be redone. -/
theorem edit_eq_or (b : EditBuffer) (e : Edit) : b.edit e = b ∨
    (b.edit e).undoStack = b.draft :: b.undoStack ∧ (b.edit e).redoStack = [] := by
  unfold edit
  split
  · exact .inr ⟨rfl, rfl⟩
  · exact .inl rfl

/-- Undoing brings back the draft that was put aside last. -/
theorem undo_of_undoStack_eq {d : Draft} {stack : List Draft} (h : b.undoStack = d :: stack) :
    b.undo.draft = d.clamp ∧ b.undo.undoStack = stack := by
  simp [undo, h]

/-! ### Edits in a row -/

/-- The same text, and the same past to go back to. -/
structure SamePast (b b' : EditBuffer) : Prop where
  text : b.text = b'.text
  undoStack : b.undoStack = b'.undoStack

namespace SamePast

/-- A past that is shared with a second buffer is shared with all that share its past. -/
theorem trans (h : b.SamePast b') (h' : b'.SamePast b'') : b.SamePast b'' :=
  ⟨h.text.trans h'.text, h.undoStack.trans h'.undoStack⟩

/-- Buffers with the same past have it after undoing too. -/
theorem undo (h : b.SamePast b') : b.undo.SamePast b'.undo := by
  cases hstack : b.undoStack with
  | nil =>
    have hstack' : b'.undoStack = [] := h.undoStack.symm.trans hstack
    simpa [EditBuffer.undo, hstack, hstack'] using h
  | cons d stack =>
    obtain ⟨hdraft, hrest⟩ := undo_of_undoStack_eq hstack
    obtain ⟨hdraft', hrest'⟩ := undo_of_undoStack_eq (h.undoStack.symm.trans hstack)
    exact ⟨congrArg Draft.text (hdraft.trans hdraft'.symm), hrest.trans hrest'.symm⟩

/-- And after undoing any number of times. -/
theorem iterate_undo (h : b.SamePast b') (n : ℕ) :
    (EditBuffer.undo^[n] b).SamePast (EditBuffer.undo^[n] b') := by
  induction n generalizing b b' with
  | zero => exact h
  | succ n ih => exact ih h.undo

end SamePast

/-- Some edits in a row, each of which changes something, with any moves between them. There are
`n` of the edits. -/
inductive Edits (b : EditBuffer) : ℕ → EditBuffer → Prop
  | start : b.Edits 0 b
  | move {n : ℕ} {b' : EditBuffer} (h : b.Edits n b') (m : Move) : b.Edits n (b'.move m)
  | edit {n : ℕ} {b' : EditBuffer} (h : b.Edits n b') (e : Edit) (hchange : b'.edit e ≠ b') :
      b.Edits (n + 1) (b'.edit e)

namespace Edits

/-- Edits lead from a reachable buffer to reachable ones. -/
theorem reachable (h : b.Edits n b') (hb : b.Reachable) : b'.Reachable := by
  induction h with
  | start => exact hb
  | move _ m ih => exact ih.move m
  | edit _ e _ ih => exact ih.edit e

/-- There is a draft to go back to for each edit. -/
theorem length_undoStack (h : b.Edits n b') : n ≤ b'.undoStack.length := by
  induction h with
  | start => exact Nat.zero_le _
  | move _ _ ih => exact ih
  | @edit n b' _ e hchange ih =>
    obtain ⟨hundo, -⟩ := (b'.edit_eq_or e).resolve_left hchange
    rw [hundo]
    exact Nat.succ_le_succ ih

/-- As many undos as there were edits lead back to the text. -/
theorem samePast (h : b.Edits n b') : (undo^[n] b').SamePast b := by
  induction h with
  | start => exact ⟨rfl, rfl⟩
  | @move n b' _ m ih =>
    have hmove : (b'.move m).SamePast b' := ⟨rfl, rfl⟩
    -- a move changes neither the text nor the stack, so undoing does not notice it
    exact (hmove.iterate_undo n).trans ih
  | @edit n b' _ e hchange ih =>
    obtain ⟨hstack, -⟩ := (b'.edit_eq_or e).resolve_left hchange
    obtain ⟨hdraft, hundo⟩ := undo_of_undoStack_eq hstack
    have htext : (b'.edit e).undo.text = b'.draft.clamp.text := congrArg Draft.text hdraft
    have hback : (b'.edit e).undo.SamePast b' := ⟨htext, hundo⟩
    -- undoing the last edit leads back to the buffer before it
    exact (hback.iterate_undo n).trans ih

end Edits

/-- What was undone in some steps is redone in as many. -/
theorem Reachable.iterate_redo_undo (hb : b.Reachable) (h : n ≤ b.undoStack.length) :
    redo^[n] (EditBuffer.undo^[n] b) = b := by
  induction n generalizing b with
  | zero => rfl
  | succ n ih =>
    obtain ⟨d, stack, hstack⟩ := List.exists_cons_of_length_pos (Nat.zero_lt_of_lt h)
    obtain ⟨-, hundo⟩ := undo_of_undoStack_eq hstack
    rw [hstack, List.length_cons] at h
    have hrest : n ≤ b.undo.undoStack.length := by
      rw [hundo]
      exact Nat.le_of_succ_le_succ h
    -- the first step is undone on its own, and redone after all the others
    have hlast : b.undo.redo = b := hb.redo_undo (by simp [hstack])
    calc redo^[n + 1] (EditBuffer.undo^[n + 1] b)
        = redo (redo^[n] (EditBuffer.undo^[n] b.undo)) := Function.iterate_succ_apply' redo n _
      _ = b.undo.redo := congrArg redo (ih hb.undo hrest)
      _ = b := hlast

/-- Undo and redo take each other back at every buffer that operations lead to. An edit that changes
anything is taken back by an undo, but for the walk through the history that it ended, and a redo
brings its result again. After `n` such edits, with any moves between them, `n` undos give back the
text that they started from, and then `n` redos lead to where they ended. -/
theorem undo_redo_inverse (hb : b.Reachable) :
    (∀ e, b.edit e = b ∨ ((b.edit e).undo.draft = b.draft ∧
      (b.edit e).undo.undoStack = b.undoStack ∧ (b.edit e).undo.redo = b.edit e ∧
      (b.edit e).redoStack = [])) ∧
    (b.undoStack ≠ [] → b.undo.redo = b) ∧
    (b.redoStack ≠ [] → b.redo.undo = b) ∧
    ∀ n b', b.Edits n b' → (undo^[n] b').text = b.text ∧ redo^[n] (undo^[n] b') = b' := by
  refine ⟨fun e => (b.edit_eq_or e).imp_right ?_, hb.redo_undo, hb.undo_redo, fun n b' h => ?_⟩
  · rintro ⟨hstack, hredo⟩
    obtain ⟨hdraft, hundo⟩ := undo_of_undoStack_eq hstack
    have hpast : (b.edit e).undoStack ≠ [] := by simp [hstack]
    exact ⟨hdraft.trans hb.clamp_draft, hundo, (hb.edit e).redo_undo hpast, hredo⟩
  · exact ⟨h.samePast.text, (h.reachable hb).iterate_redo_undo h.length_undoStack⟩

/-- A letter is put before a letter of two bytes, which is then removed. -/
theorem undo_redo_inverse_letters :
    let b := empty.insert ['é']
    let b' := (b.moveLeft.insert ['a']).delete
    b.Reachable ∧ b.Edits 2 b' ∧ b'.text = ['a'] ∧ (undo^[2] b').text = ['é'] ∧
      redo^[2] (undo^[2] b') = b' := by
  intro b b'
  have hb : b.Reachable := Reachable.empty.edit (.insert ['é'])
  have hedits : b.Edits 2 b' :=
    ((Edits.start.move .left).edit (.insert ['a']) (by decide)).edit .delete (by decide)
  exact ⟨hb, hedits, by decide, (undo_redo_inverse hb).2.2.2 2 b' hedits⟩

end EditBuffer

end StatementReader
