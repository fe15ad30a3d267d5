import Mathlib.Logic.Function.Iterate
import StatementReader.Proofs.Edit.Undo

/-!
# Walks through the history

While a walk through the history goes on, the buffer shows an entry and keeps the draft that the
walk started from. Both are known exactly while it goes on, and the entry exists. But the text need
not be that of the entry: undo and redo put another draft in its place and leave the walk as it is.
They are the only operations that do (`WalkStep`), so the text is that of the entry unless one of
them has changed it since the entry was shown (`Rewound`). Every other change of the text ends the
walk.

An edit that ends a walk drops the draft that the walk started from, and what it remembers for undo
is the entry. So the draft is safe up to the first edit that changes anything (`Waiting`), and what
becomes of it then depends on where that edit is made. On the draft itself, once it has been taken
out again, it is remembered for good. On an entry it is lost, unless an undo could have led to the
same text before (`draft_held`).
-/

namespace StatementReader

/-- A step of a walk through the history. -/
def Operation.Recalls (op : Operation) : Prop := op = .recallPrevious ∨ op = .recallNext

/-- Steps through the history, moves and edits: whatever neither looks back at old drafts nor gives
the text away. -/
def Operation.isWork : Operation → Bool
  | .edit _ | .move _ | .recallPrevious | .recallNext => true
  | .undo | .redo | .take => false

namespace EditBuffer

variable {history : List Text} {b b' c : EditBuffer} {op : Operation} {ops : List Operation}

/-- The buffer after operations, with the same history throughout. -/
def through (history : List Text) (b : EditBuffer) (ops : List Operation) : EditBuffer :=
  ops.foldl (apply history) b

@[simp] theorem through_cons (history : List Text) (b : EditBuffer) (op : Operation)
    (ops : List Operation) :
    b.through history (op :: ops) = (b.apply history op).through history ops := rfl

/-- One more operation comes last. -/
theorem after_concat (history : List Text) (ops : List Operation) (op : Operation) :
    after history (ops ++ [op]) = (after history ops).apply history op :=
  List.foldl_concat ..

/-! ### One operation -/

/-- An edit that changes anything ends the walk and remembers the draft before it. -/
theorem edit_of_ne {e : Edit} (h : b.edit e ≠ b) :
    ∃ d, b.edit e = ⟨d, none, none, b.draft :: b.undoStack, []⟩ := by
  unfold edit at h ⊢
  split at h
  · exact ⟨_, rfl⟩
  · exact absurd rfl h

/-- Undoing does not leave the walk. -/
@[simp] theorem recallIndex_undo (b : EditBuffer) : b.undo.recallIndex = b.recallIndex := by
  unfold undo
  split <;> rfl

/-- Undoing does not touch the draft that was put aside. -/
@[simp] theorem recallStash_undo (b : EditBuffer) : b.undo.recallStash = b.recallStash := by
  unfold undo
  split <;> rfl

/-- Redoing does not leave the walk. -/
@[simp] theorem recallIndex_redo (b : EditBuffer) : b.redo.recallIndex = b.recallIndex := by
  unfold redo
  split <;> rfl

/-- Redoing does not touch the draft that was put aside. -/
@[simp] theorem recallStash_redo (b : EditBuffer) : b.redo.recallStash = b.recallStash := by
  unfold redo
  split <;> rfl

/-- What an operation does to the text and to the walk through the history. -/
inductive WalkStep (history : List Text) (b b' : EditBuffer) (op : Operation) : Prop
  /-- Neither is touched. -/
  | kept (hop : ¬ op.Recalls) (htext : b'.text = b.text) (hindex : b'.recallIndex = b.recallIndex)
  /-- No walk goes on after it. -/
  | ended (hindex : b'.recallIndex = none)
  /-- The text may be another one, but the walk goes on as if it were not. -/
  | rewound (hop : op = .undo ∨ op = .redo) (hindex : b'.recallIndex = b.recallIndex)
  | shown {index : ℕ} (hop : op.Recalls) (htext : history[index]? = some b'.text)
      (hindex : b'.recallIndex = some index)

/-- Showing an entry is a step of a walk. -/
theorem walkStep_showEntry {index : ℕ} (hop : op.Recalls) (h : index < history.length) :
    WalkStep history b (c.showEntry history index) op := by
  refine .shown hop ?_ rfl
  show history[index]? = some (history.getD index [])
  rw [List.getD_eq_getElem?_getD, List.getElem?_eq_getElem h, Option.getD_some]

/-- Every operation makes a step of a walk or leaves it. -/
theorem walkStep_apply (h : ∀ index, b.recallIndex = some index → index < history.length)
    (op : Operation) : WalkStep history b (b.apply history op) op := by
  cases op with
  | edit e =>
    by_cases hchange : b.edit e = b
    · exact .kept (by simp [Operation.Recalls]) (congrArg text hchange)
        (congrArg recallIndex hchange)
    · -- an edit that changes the text ends the walk
      obtain ⟨d, hd⟩ := edit_of_ne hchange
      exact .ended (congrArg recallIndex hd)
  | move m => exact .kept (by simp [Operation.Recalls]) rfl rfl
  | undo => exact .rewound (.inl rfl) b.recallIndex_undo
  | redo => exact .rewound (.inr rfl) b.recallIndex_redo
  | recallPrevious =>
    show WalkStep history b (b.recallPrevious history) _
    unfold recallPrevious
    split
    · next hnone =>
      -- an entry that is shown would have to be one of none
      refine .ended (Option.eq_none_iff_forall_ne_some.2 fun index hindex => ?_)
      exact Nat.not_lt_zero _ (hnone ▸ h index hindex)
    · next hsome =>
      have hpos := List.length_pos_iff.2 hsome
      split
      · next index hindex =>
        exact walkStep_showEntry (.inl rfl) ((Nat.sub_le ..).trans_lt (h index hindex))
      · exact walkStep_showEntry (.inl rfl) (Nat.sub_lt hpos Nat.one_pos)
  | recallNext =>
    show WalkStep history b (b.recallNext history) _
    unfold recallNext
    split
    · next hindex => exact .ended hindex
    · split
      · exact .ended rfl
      · next hend => exact walkStep_showEntry (.inr rfl) (Nat.lt_of_not_le hend)
  | take => exact .ended rfl

/-! ### All operations on a new buffer -/

/-- A draft is put aside for as long as a walk lasts. -/
theorem recallIndex_isSome_iff (history : List Text) (ops : List Operation) :
    (after history ops).recallIndex.isSome ↔ (after history ops).recallStash.isSome := by
  -- in the editor on sides the two are one
  rw [SidedBuffer.buffer_after]
  show (Option.map _ _).isSome ↔ (Option.map _ _).isSome
  rw [Option.isSome_map, Option.isSome_map]

/-- A walk stands at an entry that the history has. -/
theorem recallIndex_lt {index : ℕ} (h : (after history ops).recallIndex = some index) :
    index < history.length := by
  rw [SidedBuffer.buffer_after] at h
  obtain ⟨walk, hwalk, rfl⟩ := Option.map_eq_some_iff.1 h
  exact SidedBuffer.walksWithin_after history ops walk hwalk

/-- So does every operation after any others. -/
theorem walkStep_after (history : List Text) (ops : List Operation) (op : Operation) :
    WalkStep history (after history ops) ((after history ops).apply history op) op :=
  walkStep_apply (fun _ h => recallIndex_lt h) op

/-- An entry was shown, undo or redo then changed the text, and no entry has been recalled since. -/
def Rewound (history : List Text) (ops : List Operation) (index : ℕ) : Prop :=
  ∃ before op later, ops = before ++ op :: later ∧
    (after history before).recallIndex = some index ∧
    history[index]? = some (after history before).text ∧ (op = .undo ∨ op = .redo) ∧
    ((after history before).apply history op).text ≠ (after history before).text ∧
    ∀ o ∈ later, ¬ o.Recalls

/-- Operations that recall nothing do not move the walk. -/
theorem Rewound.concat {index : ℕ} (h : Rewound history ops index) (hop : ¬ op.Recalls) :
    Rewound history (ops ++ [op]) index := by
  obtain ⟨before, o, later, rfl, hindex, hentry, ho, hchange, hlater⟩ := h
  refine ⟨before, o, later ++ [op], ?_, hindex, hentry, ho, hchange, ?_⟩
  · rw [List.append_assoc, List.cons_append]
  · exact List.forall_mem_append.2 ⟨hlater, List.forall_mem_singleton.2 hop⟩

/-- The text is that of the entry shown, unless undo or redo has changed it. -/
theorem showsEntry_or_rewound {index : ℕ} (h : (after history ops).recallIndex = some index) :
    history[index]? = some (after history ops).text ∨ Rewound history ops index := by
  -- the latest operation comes first here, for the entry may have been shown long ago
  induction ops using List.reverseRecOn generalizing index with
  | nil => cases h
  | append_singleton ops op ih =>
    have hstep := walkStep_after history ops op
    rw [after_concat] at h ⊢
    cases hstep with
    | kept hop htext hindex =>
      rw [hindex] at h
      rw [htext]
      exact (ih h).imp_right fun hrewound => hrewound.concat hop
    | ended hindex =>
      rw [hindex] at h
      cases h
    | rewound hop hindex =>
      rw [hindex] at h
      have hother : ¬ op.Recalls := by rcases hop with rfl | rfl <;> simp [Operation.Recalls]
      -- if the entry was still shown, this operation may be the one that changes that
      rcases ih h with hentry | hrewound
      · by_cases hchange : ((after history ops).apply history op).text = (after history ops).text
        · rw [hchange]
          exact .inl hentry
        · exact .inr ⟨ops, op, [], rfl, h, hentry, hop, hchange, List.forall_mem_nil _⟩
      · exact .inr (hrewound.concat hother)
    | shown hop htext hindex =>
      obtain rfl := Option.some.inj (hindex.symm.trans h)
      exact .inl htext

/-- Whatever is done to a new buffer, it keeps a draft exactly while it shows an entry, which is one
of the history and whose text is the text of the buffer, unless undo or redo has changed that since
the entry was shown. Other changes of the text end the walk or go on with it, and neither undo nor
redo ever ends it. -/
theorem walk_consistent (history : List Text) (ops : List Operation) :
    let b := after history ops
    (b.recallIndex.isSome ↔ b.recallStash.isSome) ∧
    (∀ index, b.recallIndex = some index → index < history.length ∧
      (history[index]? = some b.text ∨ Rewound history ops index)) ∧
    (∀ op, (b.apply history op).text ≠ b.text →
      (b.apply history op).recallIndex = none ∨ op.Recalls ∨ op = .undo ∨ op = .redo) ∧
    (∀ op, op = .undo ∨ op = .redo → (b.apply history op).recallIndex = b.recallIndex ∧
      (b.apply history op).recallStash = b.recallStash) := by
  intro b
  refine ⟨recallIndex_isSome_iff history ops,
    fun index h => ⟨recallIndex_lt h, showsEntry_or_rewound h⟩, fun op hchange => ?_, ?_⟩
  · -- the text changes when an entry is shown, when the walk ends, and by undo and redo
    cases walkStep_after history ops op with
    | kept _ htext => exact absurd htext hchange
    | ended hindex => exact .inl hindex
    | rewound hop => exact .inr (.inr hop)
    | shown hop => exact .inr (.inl hop)
  · rintro op (rfl | rfl)
    · exact ⟨b.recallIndex_undo, b.recallStash_undo⟩
    · exact ⟨b.recallIndex_redo, b.recallStash_redo⟩

/-- A letter is typed, the only entry is recalled, and undo clears the text, but the entry is still
the one shown. -/
theorem walk_kept_by_undo : ¬ ∀ (history : List Text) (ops : List Operation),
    let b := after history ops
    (b.recallIndex.isSome ↔ b.recallStash.isSome) ∧
    (∀ index, b.recallIndex = some index → history[index]? = some b.text) ∧
    ∀ op, (b.apply history op).text ≠ b.text →
      (b.apply history op).recallIndex = none ∨ op.Recalls := by
  intro h
  obtain ⟨-, hentry, -⟩ := h [['h']] [.edit (.insert ['a']), .recallPrevious, .undo]
  have hshown := hentry 0 (by decide)
  exact absurd hshown (by decide)

/-! ### Drafts that a buffer holds -/

/-- The text, the text that the walk leads back to, and the texts to undo and redo to. -/
def heldTexts (b : EditBuffer) : List Text :=
  b.text :: (b.recallStash.toList ++ b.undoStack ++ b.redoStack).map Draft.text

/-- Some steps forward through the history lead to the text, or some undos. -/
def LeadsBack (history : List Text) (b : EditBuffer) (value : Text) : Prop :=
  ∃ n, ((fun b => b.recallNext history)^[n] b).text = value ∨ (undo^[n] b).text = value

/-- The first edit among operations that changes anything, and the buffer that it changes. -/
def firstEdit? (history : List Text) (b : EditBuffer) : List Operation → Option (EditBuffer × Edit)
  | [] => none
  | .edit e :: ops => if b.edit e = b then firstEdit? history b ops else some (b, e)
  | op :: ops => firstEdit? history (b.apply history op) ops

/-- Nothing has been edited since a buffer that was on no walk. Its draft is there again, or it is
what the walk leads back to. -/
structure Waiting (b c : EditBuffer) : Prop where
  undoStack : c.undoStack = b.undoStack
  draft : c.recallIndex = none ∧ c.text = b.text ∨
    c.recallIndex.isSome ∧ c.recallStash.map Draft.text = some b.text

/-- A move leaves what waits as it is. -/
theorem Waiting.move (h : b.Waiting c) (m : Move) : b.Waiting (c.move m) := ⟨h.undoStack, h.draft⟩

/-- Recalling an earlier text leaves it, or puts it aside as the draft. -/
theorem Waiting.recallPrevious (h : b.Waiting c) (history : List Text) :
    b.Waiting (c.recallPrevious history) := by
  unfold EditBuffer.recallPrevious
  split
  · exact h
  · split
    · next index hindex =>
      obtain ⟨hnone, -⟩ | ⟨-, hstash⟩ := h.draft
      · cases hindex.symm.trans hnone
      · exact ⟨h.undoStack, .inr ⟨rfl, hstash⟩⟩
    · next hindex =>
      -- the first step back is where the draft is put away
      obtain ⟨-, htext⟩ | ⟨hsome, -⟩ := h.draft
      · exact ⟨h.undoStack, .inr ⟨rfl, congrArg some htext⟩⟩
      · rw [hindex] at hsome
        cases hsome

/-- Recalling a later text leaves it aside, or brings it back. -/
theorem Waiting.recallNext (h : b.Waiting c) (history : List Text) :
    b.Waiting (c.recallNext history) := by
  unfold EditBuffer.recallNext
  split
  · exact h
  · next index hindex =>
    -- an entry is shown, so the draft waits in the stash
    obtain ⟨hnone, -⟩ | ⟨-, hstash⟩ := h.draft
    · cases hindex.symm.trans hnone
    · obtain ⟨d, hd, htext⟩ := Option.map_eq_some_iff.1 hstash
      split
      · refine ⟨h.undoStack, .inl ⟨rfl, ?_⟩⟩
        show (c.recallStash.elim Draft.empty Draft.clamp).text = b.text
        rw [hd]
        exact htext
      · exact ⟨h.undoStack, .inr ⟨rfl, hstash⟩⟩

/-- Operations that neither undo nor redo leave the drafts to undo to where they are. -/
theorem undoStack_suffix_apply (history : List Text) (b : EditBuffer) (hop : op.isWork) :
    b.undoStack <:+ (b.apply history op).undoStack := by
  -- only an edit puts a draft on the stack, and neither moving nor recalling takes one away
  cases op with
  | edit e =>
    by_cases hchange : b.edit e = b
    · -- an edit without effect puts no draft aside
      show b.undoStack <:+ (b.edit e).undoStack
      exact ⟨[], (congrArg EditBuffer.undoStack hchange).symm⟩
    · obtain ⟨d, hd⟩ := edit_of_ne hchange
      show b.undoStack <:+ (b.edit e).undoStack
      rw [hd]
      exact List.suffix_cons ..
  | move m => exact List.suffix_rfl
  | recallPrevious =>
    rw [apply, recallPrevious]
    split
    · exact List.suffix_rfl
    · split <;> exact List.suffix_rfl
  | recallNext =>
    rw [apply, recallNext]
    split
    · exact List.suffix_rfl
    · split <;> exact List.suffix_rfl
  | undo => cases hop
  | redo => cases hop
  | take => cases hop

/-- No number of such operations takes a draft from the undo stack. -/
theorem undoStack_suffix_through (history : List Text) (b : EditBuffer)
    (hops : ∀ op ∈ ops, op.isWork) : b.undoStack <:+ (b.through history ops).undoStack := by
  induction ops generalizing b with
  | nil => exact List.suffix_rfl
  | cons op ops ih =>
    obtain ⟨hop, hrest⟩ := List.forall_mem_cons.1 hops
    exact (b.undoStack_suffix_apply history hop).trans (ih _ hrest)

/-- Up to the first edit that changes anything the draft waits, and what may be undone after that
edit may be undone at the end. -/
theorem Waiting.through (h : b.Waiting c) (history : List Text) (hops : ∀ op ∈ ops, op.isWork) :
    (c.firstEdit? history ops = none → b.Waiting (c.through history ops)) ∧
    ∀ c' e, c.firstEdit? history ops = some (c', e) → b.Waiting c' ∧ c'.edit e ≠ c' ∧
      (c'.edit e).undoStack <:+ (c.through history ops).undoStack := by
  induction ops generalizing c with
  | nil => exact ⟨fun _ => h, fun _ _ hedit => by cases hedit⟩
  | cons op ops ih =>
    obtain ⟨hop, hrest⟩ := List.forall_mem_cons.1 hops
    cases op with
    | edit e =>
      rw [firstEdit?, through_cons]
      split
      · next hsame =>
        -- an edit that changes nothing leaves the draft waiting
        rw [apply, hsame]
        exact ih h hrest
      · next hchange =>
        -- this is the first edit that changes anything
        constructor
        · intro hedit
          cases hedit
        intro c' e' hedit
        cases hedit
        exact ⟨h, hchange, undoStack_suffix_through history _ hrest⟩
    | move m => exact ih (h.move m) hrest
    | recallPrevious => exact ih (h.recallPrevious history) hrest
    | recallNext => exact ih (h.recallNext history) hrest
    | undo => cases hop
    | redo => cases hop
    | take => cases hop

/-! ### The way back to a draft -/

/-- A step forward from the last entry takes the draft out again. -/
theorem text_recallNext_of_last {index : ℕ} {d : Draft} (hindex : c.recallIndex = some index)
    (hstash : c.recallStash = some d) (hlast : history.length ≤ index + 1) :
    (c.recallNext history).text = d.text := by
  -- behind the last entry stands the draft that was put aside
  have hback : (c.recallNext history).draft = c.recallStash.elim Draft.empty Draft.clamp := by
    rw [recallNext, hindex]
    dsimp only
    rw [if_pos hlast]
  show (c.recallNext history).draft.text = d.text
  rw [hback, hstash]
  rfl

/-- Before the last entry, recalling a later text shows the next one. -/
theorem recallNext_of_lt {index : ℕ} (hindex : c.recallIndex = some index)
    (hlt : index + 1 < history.length) :
    c.recallNext history = c.showEntry history (index + 1) := by
  rw [recallNext, hindex]
  dsimp only
  rw [if_neg hlt.not_ge]

/-- Recalling later texts brings the draft back in the end. -/
theorem exists_iterate_recallNext (history : List Text) {index : ℕ} {d : Draft}
    (hindex : c.recallIndex = some index) (hstash : c.recallStash = some d) :
    ∃ n, ((fun b => b.recallNext history)^[n] c).text = d.text := by
  -- every step shows a later entry, until there is none
  induction hleft : history.length - index generalizing c index with
  | zero => exact ⟨1, text_recallNext_of_last hindex hstash (by omega)⟩
  | succ left ih =>
    obtain hlater | hlast := Nat.lt_or_ge (index + 1) history.length
    · -- the entry that is shown next has the same draft behind it
      obtain ⟨n, hn⟩ := ih (c := c.showEntry history (index + 1)) rfl hstash (by omega)
      refine ⟨n + 1, ?_⟩
      rw [Function.iterate_succ_apply, recallNext_of_lt hindex hlater]
      exact hn
    · exact ⟨1, text_recallNext_of_last hindex hstash hlast⟩

/-- Undoing often enough brings back any draft of the undo stack. -/
theorem text_iterate_undo {d : Draft} {newer older : List Draft}
    (h : c.undoStack = newer ++ d :: older) : (undo^[newer.length + 1] c).text = d.text := by
  -- every undo but the last takes one of the newer drafts away
  induction newer generalizing c with
  | nil =>
    obtain ⟨hdraft, -⟩ := undo_of_undoStack_eq h
    show c.undo.draft.text = d.text
    rw [hdraft]
    rfl
  | cons d' newer ih =>
    obtain ⟨-, hstack⟩ := undo_of_undoStack_eq h
    exact ih hstack

/-- What waits is still held, and some operations lead back to it. -/
theorem Waiting.held (h : b.Waiting c) :
    b.text ∈ c.heldTexts ∧ LeadsBack history c b.text := by
  -- it is in the buffer, or it was put aside when the walk began
  obtain ⟨-, htext⟩ | ⟨hindex, hstash⟩ := h.draft
  · rw [← htext]
    exact ⟨List.mem_cons_self, 0, .inl rfl⟩
  · obtain ⟨index, hindex⟩ := Option.isSome_iff_exists.1 hindex
    obtain ⟨d, hd, htext⟩ := Option.map_eq_some_iff.1 hstash
    obtain ⟨n, hn⟩ := exists_iterate_recallNext history hindex hd
    rw [← htext]
    refine ⟨List.mem_cons_of_mem _ (List.mem_map_of_mem ?_), n, .inl hn⟩
    rw [hd]
    exact List.mem_cons_self

/-- A draft on the undo stack is held, and undoing leads back to it. -/
theorem held_of_suffix {d : Draft} {older : List Draft} (h : d :: older <:+ c.undoStack) :
    d.text ∈ c.heldTexts ∧ LeadsBack history c d.text := by
  obtain ⟨newer, hstack⟩ := h
  refine ⟨List.mem_cons_of_mem _ (List.mem_map_of_mem ?_), _, .inr (text_iterate_undo hstack.symm)⟩
  have hmem : d ∈ c.undoStack := hstack ▸ List.mem_append_right _ List.mem_cons_self
  exact List.mem_append_left _ (List.mem_append_right _ hmem)

/-- A draft that gives way to an entry of the history stays in the buffer, and Down or undo leads
back to it, as long as the first edit that changes anything is not made on an entry. An edit on an
entry leaves the new text, the text of the entry and what could be undone to before the walk, and
nothing else. -/
theorem draft_held (history : List Text) (hindex : b.recallIndex = none)
    (hops : ∀ op ∈ ops, op.isWork) :
    let start := b.recallPrevious history
    ((∀ c e, start.firstEdit? history ops = some (c, e) → c.recallIndex = none) →
      b.text ∈ (start.through history ops).heldTexts ∧
        LeadsBack history (start.through history ops) b.text) ∧
    ∀ c e, start.firstEdit? history ops = some (c, e) → c.recallIndex.isSome →
      (c.edit e).heldTexts = (c.edit e).text :: c.text :: b.undoStack.map Draft.text := by
  intro start
  have hself : b.Waiting b := ⟨rfl, .inl ⟨hindex, rfl⟩⟩
  obtain ⟨hnone, hsome⟩ := (hself.recallPrevious history).through history hops
  refine ⟨fun hfirst => ?_, fun c e hedit _ => ?_⟩
  · cases hedit : start.firstEdit? history ops with
    | none => exact (hnone hedit).held
    | some edited =>
      obtain ⟨c, e⟩ := edited
      obtain ⟨hwait, hchange, hsuffix⟩ := hsome c e hedit
      obtain ⟨d, hd⟩ := edit_of_ne hchange
      -- the walk is over by then, so the text that is edited is the draft's
      have htext : c.text = b.text := by
        obtain ⟨-, htext⟩ | ⟨hwalk, -⟩ := hwait.draft
        · exact htext
        · rw [hfirst c e hedit] at hwalk
          cases hwalk
      rw [← htext]
      rw [hd] at hsuffix
      exact held_of_suffix hsuffix
  · obtain ⟨hwait, hchange, -⟩ := hsome c e hedit
    obtain ⟨d, hd⟩ := edit_of_ne hchange
    -- the edit drops the draft and remembers the entry
    rw [hd, ← hwait.undoStack]
    simp [heldTexts, text]

/-- A letter is typed, the only entry is recalled and left again, and then the letter is edited. -/
theorem draft_held_letter :
    let b := empty.insert ['d']
    let ops : List Operation :=
      [.recallNext, .edit (.insert ['x']), .recallPrevious, .edit .backspace]
    b.recallIndex = none ∧ (∀ op ∈ ops, op.isWork) ∧
      ['d'] ∈ ((b.recallPrevious [['h']]).through [['h']] ops).heldTexts := by
  intro b ops
  have hindex : b.recallIndex = none := by decide
  have hops : ∀ op ∈ ops, op.isWork := by decide
  obtain ⟨hheld, -⟩ := draft_held [['h']] hindex hops
  have hfirst : (b.recallPrevious [['h']]).firstEdit? [['h']] ops = some (b, .insert ['x']) := by
    decide
  refine ⟨hindex, hops, (hheld fun c e hedit => ?_).1⟩
  rw [hfirst] at hedit
  cases hedit
  exact hindex

/-- A letter is typed, the only entry is recalled, and then the entry is edited. -/
theorem draft_lost : ¬ ∀ (history : List Text) (b : EditBuffer) (ops : List Operation),
    b.Reachable → b.recallIndex = none → b.text ≠ [] → history ≠ [] → (∀ op ∈ ops, op.isWork) →
      b.text ∈ ((b.recallPrevious history).through history ops).heldTexts := by
  intro h
  have hreachable : (empty.insert ['d']).Reachable := Reachable.empty.edit (.insert ['d'])
  have hheld := h [['h']] _ [.edit (.insert ['x'])] hreachable (by decide) (by decide) (by decide)
    (by decide)
  exact absurd hheld (by decide)

end EditBuffer

end StatementReader
