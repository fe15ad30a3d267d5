import StatementReader.Edit.Buffer
import StatementReader.Proofs.Text.Boundary

/-!
# The buffer as two sides of a cursor

To whoever types, a draft is the characters before the cursor and the characters after it (`Sides`).
An editor on sides (`SidedBuffer`) knows no offsets, so nothing can go wrong in it: what it
remembers are sides too, and the walk through the history keeps the entry that is shown together
with the sides that it leads back to.

The buffer does to offsets what this editor does to sides, one operation after the other
(`SidedBuffer.buffer_apply`). Hence at any time it holds the drafts of some sides, also on its two
stacks and in its stash. That is why the cursor never leaves the character boundaries, although some
operations take it as it is: a cursor that comes back with an old draft comes back with the text
that it stood in.
-/

namespace StatementReader

open Text

/-- An operation of the buffer. -/
inductive Operation where
  | edit (e : Edit)
  | move (m : Move)
  | undo
  | redo
  | recallPrevious
  | recallNext
  | take
  deriving DecidableEq, Repr

namespace EditBuffer

/-- The buffer after an operation. -/
def apply (history : List Text) (b : EditBuffer) : Operation → EditBuffer
  | .edit e => b.edit e
  | .move m => b.move m
  | .undo => b.undo
  | .redo => b.redo
  | .recallPrevious => b.recallPrevious history
  | .recallNext => b.recallNext history
  | .take => b.take.2

/-- The buffer after operations on a new one. -/
def after (history : List Text) (ops : List Operation) : EditBuffer :=
  ops.foldl (apply history) empty

end EditBuffer

/-! ### Two sides -/

/-- What stands before the cursor and what stands after it. -/
structure Sides where
  before : List Char
  after : List Char
  deriving DecidableEq, Repr

namespace Sides

/-- Nothing on either side. -/
def empty : Sides := ⟨[], []⟩

/-- The cursor at the end of a text. -/
def atEnd (t : Text) : Sides := ⟨t, []⟩

/-- The sides as a text with an offset. -/
def draft (s : Sides) : Draft := ⟨s.before ++ s.after, size s.before⟩

/-- The sides after an edit, unless it would change nothing. -/
def edit? (s : Sides) : Edit → Option Sides
  | .insert value => some ⟨s.before ++ value, s.after⟩
  | .replaceBefore start value =>
    some ⟨upTo (min start (size s.before)) s.before ++ value, s.after⟩
  | .breakLine => some ⟨s.before ++ s.after ++ ['\n'], []⟩
  | .backspace => if s.before = [] then none else some ⟨s.before.dropLast, s.after⟩
  | .delete => if s.after = [] then none else some ⟨s.before, s.after.tail⟩
  | .killToLineStart =>
    let above := s.before.rdropWhile (· != '\n')
    if above = s.before then none else some ⟨above, s.after⟩

/-- The sides after a move. -/
def move (s : Sides) : Move → Sides
  | .left => ⟨s.before.dropLast, s.before.getLast?.toList ++ s.after⟩
  | .right => ⟨s.before ++ s.after.take 1, s.after.drop 1⟩
  | .home => ⟨s.before.rdropWhile (· != '\n'), s.before.rtakeWhile (· != '\n') ++ s.after⟩
  | .endOfLine => ⟨s.before ++ s.after.takeWhile (· != '\n'), s.after.dropWhile (· != '\n')⟩

/-! ### The draft of two sides -/

@[simp] theorem text_draft (s : Sides) : s.draft.text = s.before ++ s.after := rfl

@[simp] theorem cursor_draft (s : Sides) : s.draft.cursor = size s.before := rfl

/-- Between two sides the cursor is on a boundary. -/
theorem onBoundary_draft (s : Sides) : s.draft.OnBoundary := ⟨s.before, s.after, rfl, rfl⟩

/-- So there is no need to move it to one. -/
@[simp] theorem clamp_draft (s : Sides) : s.draft.clamp = s.draft := by
  simp [Draft.clamp, draft]

/-- With nothing behind the cursor it is at the end. -/
@[simp] theorem draft_atEnd (t : Text) : (atEnd t).draft = .atEnd t := by
  simp [draft, atEnd, Draft.atEnd]

/-- The line of the cursor starts behind the last line break before it. -/
@[simp] theorem lineStart_draft (s : Sides) :
    s.draft.lineStart = size (s.before.rdropWhile (· != '\n')) := by
  rw [Draft.lineStart, text_draft, cursor_draft, upTo_size_append, findLastOffset?_lineFeed]

/-- The line of the cursor ends before the first line break behind it. -/
@[simp] theorem lineEnd_draft (s : Sides) :
    s.draft.lineEnd = size (s.before ++ s.after.takeWhile (· != '\n')) := by
  have h := findOffset?_getD (· == '\n') s.after
  rw [Draft.lineEnd, text_draft, cursor_draft, beyond_size_append, size_append, size_append]
  change _ = size s.before + size (s.after.takeWhile (!(· == '\n') ·))
  rw [← h]
  cases findOffset? (· == '\n') s.after <;> rfl

/-! ### Edits -/

/-- A splice that puts its value in the place of a middle part of the text. -/
def Replaces (s : Sides) (p : Splice) (s' : Sides) : Prop :=
  ∃ left middle right, s.before ++ s.after = left ++ middle ++ right ∧
    p.start = size left ∧ p.stop = size (left ++ middle) ∧ s' = ⟨left ++ p.value, right⟩

namespace Replaces

variable {s s' : Sides} {p : Splice}

/-- What is replaced is within the text and between boundaries. -/
theorem fits (h : s.Replaces p s') : p.Fits s.draft.text := by
  obtain ⟨left, middle, right, htext, hstart, hstop, -⟩ := h
  refine ⟨?_, ⟨left, middle ++ right, ?_, hstart⟩, ⟨left ++ middle, right, htext, hstop⟩⟩
  · rw [hstart, hstop, size_append]
    omega
  · rw [text_draft, htext, List.append_assoc]

/-- Replacing it in the text gives the text of the new sides. -/
theorem splice_draft (h : s.Replaces p s') : s.draft.splice p = s'.draft := by
  obtain ⟨left, middle, right, htext, hstart, hstop, rfl⟩ := h
  rw [Draft.splice, replaceRange, text_draft, htext, hstart, hstop, beyond_size_append,
    List.append_assoc left, upTo_size_append, draft, size_append]

end Replaces

/-- An edit of the draft replaces what the edit of the sides replaces, if anything. -/
theorem splice?_draft (s : Sides) (e : Edit) :
    Option.Rel s.Replaces (s.draft.splice? e) (s.edit? e) := by
  have hfloor : floor s.draft.cursor s.draft.text = size s.before := floor_size_append ..
  cases e with
  -- an insertion takes nothing out
  | insert value =>
    rw [Draft.splice?, hfloor]
    exact .some ⟨s.before, [], s.after, by simp, rfl, by simp, rfl⟩
  | replaceBefore start value =>
    -- the byte where the replaced part starts may be in the middle of a character
    have hcut := upTo_append_beyond (min start (size s.before)) s.before
    have hle : min start (size s.before) ≤ size s.before := Nat.min_le_right ..
    simp only [Draft.splice?, hfloor]
    refine .some ⟨_, beyond (min start (size s.before)) s.before, s.after, by rw [hcut], ?_,
      by rw [hcut], rfl⟩
    rw [text_draft, floor, upTo_append_of_le hle]
  -- the line break goes to the very end, wherever the cursor is
  | breakLine =>
    exact .some ⟨s.before ++ s.after, [], [], by simp, rfl, by simp, rfl⟩
  | backspace =>
    simp only [Draft.splice?, hfloor, edit?, size_eq_zero]
    split
    · exact .none
    · next hbefore =>
      have hlast := List.dropLast_concat_getLast hbefore
      exact .some ⟨s.before.dropLast, [s.before.getLast hbefore], s.after, by rw [hlast],
        prevBoundary_size_append .., by rw [hlast], by simp⟩
  | delete =>
    -- the cursor is at the end if and only if nothing is behind it
    have hend : size s.draft.text ≤ size s.before ↔ s.after = [] := by
      rw [text_draft, size_append, ← size_eq_zero]
      omega
    simp only [Draft.splice?, hfloor, edit?, hend]
    split
    · exact .none
    · next hafter =>
      obtain ⟨c, rest, hc⟩ := List.exists_cons_of_ne_nil hafter
      refine .some ⟨s.before, [c], rest, by simp [hc], rfl, ?_, by simp [hc]⟩
      simp [nextBoundary_size_append, hc]
  | killToLineStart =>
    -- what stands before the cursor is its last line with all that comes before that
    have hcut := List.rdropWhile_append_rtakeWhile (p := (· != '\n')) (l := s.before)
    have hend : size (s.before.rdropWhile (· != '\n')) = size s.before ↔
        s.before.rdropWhile (· != '\n') = s.before := by
      have hsize := congrArg size hcut
      rw [size_append] at hsize
      refine ⟨fun h => ?_, congrArg size⟩
      have hrest : s.before.rtakeWhile (· != '\n') = [] := size_eq_zero.1 (by omega)
      rwa [hrest, List.append_nil] at hcut
    simp only [Draft.splice?, lineStart_draft, cursor_draft, edit?, hend]
    split
    · exact .none
    · exact .some ⟨_, s.before.rtakeWhile (· != '\n'), s.after, by rw [hcut], rfl, by rw [hcut],
        by simp⟩

/-- Every edit replaces what is within the text and between boundaries. -/
theorem fits_of_splice? (s : Sides) {e : Edit} {p : Splice} (h : s.draft.splice? e = some p) :
    p.Fits s.draft.text := by
  have hedit := s.splice?_draft e
  rw [h] at hedit
  generalize s.edit? e = edited at hedit
  cases hedit with
  | some h => exact h.fits

/-- What is replaced before the cursor starts at the last boundary that it may start at. -/
theorem isGreatest_start (s : Sides) {start : Nat} {value : Text} {p : Splice}
    (h : s.draft.splice? (.replaceBefore start value) = some p) :
    IsGreatest {m | IsBoundary m s.draft.text ∧ m ≤ min start s.draft.cursor} p.start := by
  obtain rfl := Option.some.inj h
  have hfloor : floor s.draft.cursor s.draft.text = s.draft.cursor := floor_size_append ..
  rw [hfloor]
  exact isGreatest_floor _ _

/-! ### Moves -/

/-- A move by bytes is a move over characters. -/
theorem move_draft (s : Sides) (m : Move) : s.draft.move m = (s.move m).draft := by
  cases m with
  | left =>
    -- the last character before the cursor goes over to the other side
    have hlast : s.before.dropLast ++ s.before.getLast?.toList = s.before := by
      cases h : s.before using List.reverseRecOn <;> simp
    simp [Draft.move, Draft.target, prevBoundary_size_append, move, draft, ← List.append_assoc,
      hlast]
  | right =>
    -- and the first one behind it comes over from there
    have hcut := List.take_append_drop 1 s.after
    rw [Draft.move, Draft.target, text_draft, cursor_draft, nextBoundary_size_append]
    simp only [move, draft, List.append_assoc, hcut]
  | home =>
    have hcut := List.rdropWhile_append_rtakeWhile (p := (· != '\n')) (l := s.before)
    rw [Draft.move, Draft.target, lineStart_draft]
    simp only [move, draft, ← List.append_assoc, hcut]
  | endOfLine =>
    have hcut := List.takeWhile_append_dropWhile (p := (· != '\n')) (l := s.after)
    rw [Draft.move, Draft.target, lineEnd_draft]
    simp only [move, draft, List.append_assoc, hcut]

end Sides

/-- An edit of the buffer is the edit of the sides that its draft comes from. -/
theorem EditBuffer.edit_eq {b : EditBuffer} {s : Sides} (h : b.draft = s.draft) (e : Edit) :
    b.edit e = match s.edit? e with
      | some s' => ⟨s'.draft, none, none, b.draft :: b.undoStack, []⟩
      | none => b := by
  have hedit := s.splice?_draft e
  rw [← h] at hedit
  unfold EditBuffer.edit
  generalize b.draft.splice? e = splice, s.edit? e = edited at hedit
  -- what is spliced in the text is what the two sides have agreed to replace
  cases hedit with
  | none => rfl
  | some hreplaces =>
    dsimp only
    rw [h, hreplaces.splice_draft]

/-! ### The editor on sides -/

/-- The buffer on sides. -/
structure SidedBuffer where
  sides : Sides
  /-- The entry of the history that is shown, and the sides that the walk to it started from. -/
  walk : Option (Nat × Sides)
  undoStack : List Sides
  redoStack : List Sides
  deriving DecidableEq, Repr

namespace SidedBuffer

/-- Nothing typed and no past. -/
def empty : SidedBuffer := ⟨.empty, none, [], []⟩

/-- Shows an entry of the history on a walk. -/
def showOn (history : List Text) (b : SidedBuffer) (index : Nat) (origin : Sides) : SidedBuffer :=
  { b with sides := .atEnd (history.getD index []), walk := some (index, origin) }

/-- The editor after an operation. -/
def apply (history : List Text) (b : SidedBuffer) : Operation → SidedBuffer
  | .edit e =>
    match b.sides.edit? e with
    | some s => ⟨s, none, b.sides :: b.undoStack, []⟩
    | none => b
  | .move m => { b with sides := b.sides.move m }
  | .undo =>
    match b.undoStack with
    | [] => b
    | s :: stack => { b with sides := s, undoStack := stack, redoStack := b.sides :: b.redoStack }
  | .redo =>
    match b.redoStack with
    | [] => b
    | s :: stack => { b with sides := s, undoStack := b.sides :: b.undoStack, redoStack := stack }
  | .recallPrevious =>
    if history = [] then b
    else match b.walk with
      | some (index, origin) => b.showOn history (index - 1) origin
      | none => b.showOn history (history.length - 1) b.sides
  | .recallNext =>
    match b.walk with
    | none => b
    | some (index, origin) =>
      if history.length ≤ index + 1 then { b with sides := origin, walk := none }
      else b.showOn history (index + 1) origin
  | .take => empty

/-- The editor after operations on a new one. -/
def after (history : List Text) (ops : List Operation) : SidedBuffer :=
  ops.foldl (apply history) empty

/-- The editor as a buffer. -/
def buffer (b : SidedBuffer) : EditBuffer :=
  ⟨b.sides.draft, b.walk.map (·.1), b.walk.map (·.2.draft), b.undoStack.map Sides.draft,
    b.redoStack.map Sides.draft⟩

/-- An operation of the buffer is the operation on sides. -/
theorem buffer_apply (history : List Text) (b : SidedBuffer) (op : Operation) :
    b.buffer.apply history op = (b.apply history op).buffer := by
  cases op with
  | edit e =>
    simp only [EditBuffer.apply, apply, EditBuffer.edit_eq (rfl : b.buffer.draft = b.sides.draft)]
    -- an edit without effect leaves both buffers as they are
    cases b.sides.edit? e <;> rfl
  | move m => simp [EditBuffer.apply, EditBuffer.move, apply, buffer, Sides.move_draft]
  | undo => cases h : b.undoStack <;> simp [EditBuffer.apply, EditBuffer.undo, apply, buffer, h]
  | redo => cases h : b.redoStack <;> simp [EditBuffer.apply, EditBuffer.redo, apply, buffer, h]
  | recallPrevious =>
    by_cases hempty : history = []
    · simp [EditBuffer.apply, EditBuffer.recallPrevious, apply, hempty]
    · cases h : b.walk <;> simp [EditBuffer.apply, EditBuffer.recallPrevious,
        EditBuffer.showEntry, apply, showOn, buffer, h, hempty]
  | recallNext =>
    cases h : b.walk with
    | none => simp [EditBuffer.apply, EditBuffer.recallNext, apply, buffer, h]
    | some walk =>
      by_cases hend : history.length ≤ walk.1 + 1 <;> simp [EditBuffer.apply,
        EditBuffer.recallNext, EditBuffer.showEntry, apply, showOn, buffer, h, hend]
  | take => rfl

/-- After any operations the two buffers agree. -/
theorem buffer_after (history : List Text) (ops : List Operation) :
    EditBuffer.after history ops = (after history ops).buffer := by
  have hempty : EditBuffer.empty = empty.buffer := rfl
  rw [EditBuffer.after, hempty, after]
  exact List.foldl_hom buffer (buffer_apply history)

/-! ### Walks through the history -/

/-- If an entry of the history is shown, there is such an entry. -/
def WalksWithin (history : List Text) (b : SidedBuffer) : Prop :=
  ∀ walk ∈ b.walk, walk.1 < history.length

/-- Every operation stays within the history. -/
theorem WalksWithin.apply {history : List Text} {b : SidedBuffer} (h : b.WalksWithin history)
    (op : Operation) : (b.apply history op).WalksWithin history := by
  -- only the steps through the history choose another entry; the rest keeps the walk or ends it
  cases op with
  | edit e =>
    rw [SidedBuffer.apply]
    split
    · exact fun walk hwalk => nomatch hwalk
    · exact h
  | move m => exact h
  | undo =>
    rw [SidedBuffer.apply]
    split <;> exact h
  | redo =>
    rw [SidedBuffer.apply]
    split <;> exact h
  | recallPrevious =>
    rw [SidedBuffer.apply]
    split
    · exact h
    · next hsome =>
      have hpos := List.length_pos_iff.2 hsome
      split
      · next index origin hwalk =>
        rintro _ ⟨rfl⟩
        have hindex : index < history.length := h (index, origin) hwalk
        exact Nat.lt_of_le_of_lt (Nat.sub_le ..) hindex
      · rintro _ ⟨rfl⟩
        exact Nat.sub_lt hpos Nat.one_pos
  | recallNext =>
    rw [SidedBuffer.apply]
    split
    · exact h
    · split
      · exact fun walk hwalk => nomatch hwalk
      · next hend =>
        rintro _ ⟨rfl⟩
        exact Nat.lt_of_not_le hend
  | take => exact fun walk hwalk => nomatch hwalk

/-- So does any number of them. -/
theorem walksWithin_after (history : List Text) (ops : List Operation) :
    (after history ops).WalksWithin history := by
  induction ops using List.reverseRecOn with
  | nil => exact fun walk hwalk => nomatch hwalk
  | append_singleton ops op ih =>
    rw [after, List.foldl_concat]
    exact ih.apply op

end SidedBuffer

/-- Whatever is done to a new buffer, it is the buffer of the two sides that the same operations
lead to: its text is what stands on them, and its cursor is where they meet. So the cursor stands on
a character boundary, every range that an edit would replace lies between two of them, the range of
a replacement starting at the last one that does not pass the offset or the cursor, and an entry of
the history that is shown exists. -/
theorem EditBuffer.after_eq_sides (history : List Text) (ops : List Operation) :
    let b := EditBuffer.after history ops
    let sided := SidedBuffer.after history ops
    b = sided.buffer ∧ b.text = sided.sides.before ++ sided.sides.after ∧
      b.cursor = size sided.sides.before ∧ IsBoundary b.cursor b.text ∧
      (∀ e p, b.draft.splice? e = some p → p.Fits b.text) ∧
      (∀ start value p, b.draft.splice? (.replaceBefore start value) = some p →
        IsGreatest {m | IsBoundary m b.text ∧ m ≤ min start b.cursor} p.start) ∧
      ∀ index, b.recallIndex = some index → index < history.length := by
  intro b sided
  have hb : b = sided.buffer := SidedBuffer.buffer_after history ops
  rw [hb]
  refine ⟨rfl, rfl, rfl, sided.sides.onBoundary_draft, fun e p => sided.sides.fits_of_splice?,
    fun start value p => sided.sides.isGreatest_start, fun index hindex => ?_⟩
  obtain ⟨walk, hwalk, rfl⟩ := Option.map_eq_some_iff.1 hindex
  exact SidedBuffer.walksWithin_after history ops walk hwalk

end StatementReader
