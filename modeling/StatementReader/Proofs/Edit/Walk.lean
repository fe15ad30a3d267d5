import Mathlib.Data.List.Infix
import StatementReader.Proofs.Edit.Recall

/-!
# The way of a walk through the history

A walk through the history goes along a line of places. The entries stand at `0` to `n - 1`, and the
draft stands at `n`, behind the newest entry. A step back leads one place down and a step forward
one place up, and neither goes past an end of the line (`Operation.walkFrom`). The buffer does not
keep the place as such: an entry is known by its index, and the draft by there being no walk.

On sides the two are read off one value (`SidedBuffer.place`), and so are the sides that the walk
leads back to (`SidedBuffer.origin`). One lemma says what a step or a move does to all of this
(`strollStep_apply`). A move on an entry goes over that entry only. So what the walk leads back to
stays as it is from the step that leaves the draft to the step that comes back to it
(`origin_through`), and the draft comes back with the cursor where it was.
-/

namespace StatementReader

namespace Operation

/-- Steps through the history and moves: whatever changes neither what is typed nor what may be
undone and redone. -/
def isStroll : Operation → Bool
  | .move _ | .recallPrevious | .recallNext => true
  | .edit _ | .undo | .redo | .take => false

/-- Where an operation leads a walk through `n` entries from a place. The draft stands at `n`. -/
def walkFrom (n place : ℕ) : Operation → ℕ
  | .recallPrevious => place - 1
  | .recallNext => min (place + 1) n
  | .move _ | .edit _ | .undo | .redo | .take => place

end Operation

/-- Where operations lead a walk through `n` entries that starts from the draft. -/
def walkPlace (n : ℕ) (ops : List Operation) : ℕ := ops.foldl (Operation.walkFrom n) n

/-! ### On sides -/

namespace SidedBuffer

variable {history : List Text} {b b' : SidedBuffer} {op : Operation} {ops : List Operation}

/-- The entry that is shown, or the place behind all entries if it is the draft. -/
def place (history : List Text) (b : SidedBuffer) : ℕ := b.walk.elim history.length (·.1)

/-- The sides that the walk leads back to, which are the present ones if there is no walk. -/
def origin (b : SidedBuffer) : Sides := b.walk.elim b.sides (·.2)

/-- On a walk the place is that of the entry. -/
theorem place_of_walk {walk : ℕ × Sides} (h : b.walk = some walk) : b.place history = walk.1 := by
  rw [place, h]
  rfl

/-- On a walk the draft is the one that was put aside. -/
theorem origin_of_walk {walk : ℕ × Sides} (h : b.walk = some walk) : b.origin = walk.2 := by
  rw [origin, h]
  rfl

/-- Without a walk the draft is in the buffer. -/
theorem origin_of_no_walk (h : b.walk = none) : b.origin = b.sides := by
  rw [origin, h]
  rfl

/-- On a walk the text is that of the entry shown. -/
def ShowsEntry (history : List Text) (b : SidedBuffer) : Prop :=
  ∀ walk ∈ b.walk, history[walk.1]? = some b.sides.draft.text

/-- A walk stands at an entry that the history has. -/
theorem ShowsEntry.lt (h : b.ShowsEntry history) {walk : ℕ × Sides} (hwalk : b.walk = some walk) :
    walk.1 < history.length := by
  obtain ⟨hlt, -⟩ := List.getElem?_eq_some_iff.1 (h walk hwalk)
  exact hlt

/-- There is no walk exactly behind the last entry, where the draft is. -/
theorem ShowsEntry.walk_eq_none_iff (h : b.ShowsEntry history) :
    b.walk = none ↔ b.place history = history.length := by
  constructor
  · intro hwalk
    rw [place, hwalk]
    rfl
  · intro hplace
    cases hwalk : b.walk with
    | none => rfl
    | some walk =>
      have hlt := h.lt hwalk
      rw [place_of_walk hwalk] at hplace
      exact absurd hplace hlt.ne

/-- At the draft the walk leads back to what is there. -/
theorem ShowsEntry.origin_eq (h : b.ShowsEntry history)
    (hplace : b.place history = history.length) : b.origin = b.sides :=
  origin_of_no_walk (h.walk_eq_none_iff.2 hplace)

/-- Before that the entry of the place is shown. -/
theorem ShowsEntry.entry (h : b.ShowsEntry history) (hplace : b.place history < history.length) :
    history[b.place history]? = some b.sides.draft.text := by
  cases hwalk : b.walk with
  | none => exact absurd (h.walk_eq_none_iff.1 hwalk) hplace.ne
  | some walk =>
    rw [place_of_walk hwalk]
    exact h walk hwalk

/-- No place is farther than the draft. -/
theorem ShowsEntry.place_le (h : b.ShowsEntry history) : b.place history ≤ history.length := by
  cases hwalk : b.walk with
  | none => exact (h.walk_eq_none_iff.1 hwalk).le
  | some walk =>
    rw [place_of_walk hwalk]
    exact (h.lt hwalk).le

/-- What steps through the history and moves do: the walk is where they lead it, and what is typed
and what may be undone stay as they are. -/
structure Strolls (history : List Text) (b b' : SidedBuffer) (ops : List Operation) : Prop where
  showsEntry : b'.ShowsEntry history
  place : b'.place history = ops.foldl (Operation.walkFrom history.length) (b.place history)
  text : b'.origin.draft.text = b.origin.draft.text
  undoStack : b'.undoStack = b.undoStack
  redoStack : b'.redoStack = b.redoStack

/-- Two strolls make one. -/
theorem Strolls.trans {b'' : SidedBuffer} {later : List Operation} (h : Strolls history b b' ops)
    (h' : Strolls history b' b'' later) : Strolls history b b'' (ops ++ later) where
  showsEntry := h'.showsEntry
  place := by rw [List.foldl_append, ← h.place, h'.place]
  text := h'.text.trans h.text
  undoStack := h'.undoStack.trans h.undoStack
  redoStack := h'.redoStack.trans h.redoStack

/-- What one step or move does. -/
structure StrollStep (history : List Text) (b b' : SidedBuffer) (op : Operation) : Prop
    extends Strolls history b b' [op] where
  /-- Only a move that goes over the draft changes what the walk leads back to. -/
  origin : op.Recalls ∨ b.place history < history.length → b'.origin = b.origin
  atEnd : op.Recalls → b'.place history < history.length → b'.sides.after = []

/-- Showing the entry of the place that is walked to is a step. -/
theorem strollStep_showOn {index : ℕ} (h : index < history.length)
    (hplace : index = op.walkFrom history.length (b.place history)) :
    StrollStep history b (b.showOn history index b.origin) op where
  showsEntry := by
    rintro _ ⟨rfl⟩
    show history[index]? = some (history.getD index [] ++ [])
    rw [List.append_nil, List.getD_eq_getElem?_getD, List.getElem?_eq_getElem h, Option.getD_some]
  place := hplace
  text := rfl
  origin _ := rfl
  atEnd _ _ := rfl
  undoStack := rfl
  redoStack := rfl

/-- An operation that has no effect, at a place where it has none on the walk either. -/
theorem strollStep_self (h : b.ShowsEntry history)
    (hplace : b.place history = op.walkFrom history.length (b.place history))
    (hend : op.Recalls → b.place history = history.length) : StrollStep history b b op where
  showsEntry := h
  place := hplace
  text := rfl
  origin _ := rfl
  atEnd hop hlt := absurd (hend hop) hlt.ne
  undoStack := rfl
  redoStack := rfl

/-- A move keeps the text. -/
theorem Sides.text_move (s : Sides) (m : Move) : (s.move m).draft.text = s.draft.text := by
  rw [← s.move_draft m]
  rfl

/-- A move is a step that stays where it is. -/
theorem strollStep_move (h : b.ShowsEntry history) (m : Move) :
    StrollStep history b (b.apply history (.move m)) (.move m) where
  showsEntry := by
    intro walk hwalk
    rw [apply, Sides.text_move]
    exact h walk hwalk
  place := rfl
  text := by
    cases hwalk : b.walk with
    | none =>
      simp only [apply, SidedBuffer.origin, hwalk, Option.elim]
      exact Sides.text_move b.sides m
    | some walk => simp only [apply, SidedBuffer.origin, hwalk, Option.elim]
  -- only a walk has put a draft aside, and a move does not touch it
  origin := by
    rintro (hop | hlt)
    · exact absurd hop (by simp [Operation.Recalls])
    · cases hwalk : b.walk with
      | none => exact absurd (h.walk_eq_none_iff.1 hwalk) hlt.ne
      | some walk => simp only [apply, SidedBuffer.origin, hwalk, Option.elim]
  atEnd hop := absurd hop (by simp [Operation.Recalls])
  undoStack := rfl
  redoStack := rfl

/-- Recalling an earlier text is a step back, up to the first entry. -/
theorem strollStep_recallPrevious (h : b.ShowsEntry history) :
    StrollStep history b (b.apply history .recallPrevious) .recallPrevious := by
  by_cases hempty : history = []
  · -- no entry could be shown, so this is the draft, and it stays
    have hplace : b.place history = history.length := by
      have hle := h.place_le
      rw [hempty, List.length_nil] at hle ⊢
      exact Nat.le_zero.1 hle
    rw [apply, if_pos hempty]
    refine strollStep_self h ?_ fun _ => hplace
    rw [hplace, hempty]
    rfl
  · cases hwalk : b.walk with
    | none =>
      -- the draft is left for the newest entry
      simp only [apply, if_neg hempty, hwalk]
      rw [← origin_of_no_walk hwalk]
      refine strollStep_showOn (Nat.sub_lt (List.length_pos_iff.2 hempty) Nat.one_pos) ?_
      rw [h.walk_eq_none_iff.1 hwalk]
      rfl
    | some walk =>
      simp only [apply, if_neg hempty, hwalk]
      rw [← origin_of_walk hwalk]
      refine strollStep_showOn ((Nat.sub_le ..).trans_lt (h.lt hwalk)) ?_
      rw [place_of_walk hwalk]
      rfl

/-- Recalling a later text is a step forward, up to the draft. -/
theorem strollStep_recallNext (h : b.ShowsEntry history) :
    StrollStep history b (b.apply history .recallNext) .recallNext := by
  cases hwalk : b.walk with
  | none =>
    have hplace := h.walk_eq_none_iff.1 hwalk
    simp only [apply, hwalk]
    refine strollStep_self h ?_ fun _ => hplace
    rw [hplace]
    exact (Nat.min_eq_right (Nat.le_succ _)).symm
  | some walk =>
    have hplace : b.place history = walk.1 := place_of_walk hwalk
    have horigin : walk.2 = b.origin := (origin_of_walk hwalk).symm
    simp only [apply, hwalk]
    split
    · next hlast =>
      -- the newest entry is left for the draft, which comes back as the walk has kept it
      refine ⟨⟨fun _ hnone => (by cases hnone), ?_, ?_, rfl, rfl⟩, fun _ => horigin,
        fun _ hback => ?_⟩
      · rw [hplace]
        exact (Nat.min_eq_right hlast).symm
      · rw [← horigin]
        rfl
      · exact absurd hback (Nat.lt_irrefl _)
    · next hmore =>
      rw [horigin]
      refine strollStep_showOn (Nat.lt_of_not_le hmore) ?_
      rw [hplace]
      exact (Nat.min_eq_left (Nat.le_of_not_le hmore)).symm

/-- Every operation of a stroll is a step. -/
theorem strollStep_apply (h : b.ShowsEntry history) (hop : op.isStroll) :
    StrollStep history b (b.apply history op) op := by
  cases op with
  | move m => exact strollStep_move h m
  | recallPrevious => exact strollStep_recallPrevious h
  | recallNext => exact strollStep_recallNext h
  | edit e => cases hop
  | undo => cases hop
  | redo => cases hop
  | take => cases hop

/-- The editor after operations, with the same history throughout. -/
def through (history : List Text) (b : SidedBuffer) (ops : List Operation) : SidedBuffer :=
  ops.foldl (apply history) b

/-- The buffer with two sides does the same as the other one. -/
theorem buffer_through (history : List Text) (b : SidedBuffer) (ops : List Operation) :
    b.buffer.through history ops = (b.through history ops).buffer :=
  List.foldl_hom buffer (buffer_apply history)

/-- Operations are carried out one after the other. -/
theorem through_append (history : List Text) (b : SidedBuffer) (ops later : List Operation) :
    b.through history (ops ++ later) = (b.through history ops).through history later :=
  List.foldl_append ..

/-- One more operation is carried out last. -/
theorem through_concat (history : List Text) (b : SidedBuffer) (ops : List Operation)
    (op : Operation) : b.through history (ops ++ [op]) = (b.through history ops).apply history op :=
  List.foldl_concat ..

/-- Any number of steps makes a stroll. -/
theorem strolls_through (h : b.ShowsEntry history) (hops : ∀ op ∈ ops, op.isStroll) :
    Strolls history b (b.through history ops) ops := by
  induction ops using List.reverseRecOn with
  | nil => exact ⟨h, rfl, rfl, rfl, rfl⟩
  | append_singleton ops op ih =>
    obtain ⟨hinit, hop⟩ := List.forall_mem_append.1 hops
    have hrun := ih hinit
    have hstep := strollStep_apply hrun.showsEntry (hop op List.mem_cons_self)
    rw [through_concat]
    exact hrun.trans hstep.toStrolls

/-- As long as a walk is away from the draft, it leads back to the same sides. -/
theorem origin_through (h : b.ShowsEntry history) (hops : ∀ op ∈ ops, op.isStroll)
    (haway : ∀ init rest, ops = init ++ rest → rest ≠ [] →
      (b.through history init).place history < history.length) :
    (b.through history ops).origin = b.origin := by
  induction ops using List.reverseRecOn with
  | nil => rfl
  | append_singleton ops op ih =>
    obtain ⟨hinit, hop⟩ := List.forall_mem_append.1 hops
    have hrun := strolls_through h hinit
    have hstep := strollStep_apply hrun.showsEntry (hop op List.mem_cons_self)
    have hlast : (b.through history ops).place history < history.length :=
      haway ops [op] rfl (List.cons_ne_nil op [])
    have hbefore : (b.through history ops).origin = b.origin := by
      -- the walk was away from the draft all the time, so nothing was put aside anew
      refine ih hinit fun init rest hsplit hrest => haway init (rest ++ [op]) ?_ (by simp)
      rw [hsplit, List.append_assoc]
    rw [through_concat, hstep.origin (.inr hlast), hbefore]

/-- A walk that leaves the draft and comes back to it finds it as it was left. -/
theorem sides_of_back {away : List Operation} {first last : Operation} (h : b.ShowsEntry history)
    (hops : ∀ op ∈ first :: (away ++ [last]), op.isStroll)
    (hdraft : b.place history = history.length)
    (haway : ∀ p, p <+: away → (b.through history (first :: p)).place history < history.length)
    (hback : (b.through history (first :: (away ++ [last]))).place history = history.length) :
    (b.through history (first :: (away ++ [last]))).sides = b.sides := by
  obtain ⟨hfirst, hlater⟩ := List.forall_mem_cons.1 hops
  have hstep := strollStep_apply h hfirst
  have hleft : (b.apply history first).place history < history.length := haway [] List.nil_prefix
  -- no move leaves the draft, so the first operation is a step through the history
  have hrecalls : first.Recalls := by
    cases first with
    | move m => exact absurd hdraft hleft.ne
    | recallPrevious => exact .inl rfl
    | recallNext => exact .inr rfl
    | edit e => cases hfirst
    | undo => cases hfirst
    | redo => cases hfirst
    | take => cases hfirst
  -- the draft is put away by the first step, and nobody touches it until the last one
  have horigin : (b.through history (first :: (away ++ [last]))).origin = b.origin := by
    refine (origin_through hstep.showsEntry hlater fun init rest hsplit hrest => ?_).trans
      (hstep.origin (.inl hrecalls))
    have hinit : init <+: away ++ [last] := ⟨rest, hsplit.symm⟩
    rcases List.prefix_concat_iff.1 hinit with rfl | hinit
    · exact absurd (List.append_right_eq_self.1 hsplit.symm) hrest
    · exact haway init hinit
  have hrun := strolls_through h hops
  rw [hrun.showsEntry.origin_eq hback, h.origin_eq hdraft] at horigin
  exact horigin

/-- A step that leads to an entry puts the cursor at its end. -/
theorem after_through (h : b.ShowsEntry history) (hops : ∀ x ∈ ops ++ [op], x.isStroll)
    (hop : op.Recalls) (hentry : (b.through history (ops ++ [op])).place history < history.length) :
    (b.through history (ops ++ [op])).sides.after = [] := by
  obtain ⟨hinit, hlast⟩ := List.forall_mem_append.1 hops
  have hrun := strolls_through h hinit
  have hstep := strollStep_apply hrun.showsEntry (hlast op List.mem_cons_self)
  rw [through_concat] at hentry ⊢
  exact hstep.atEnd hop hentry

/-! ### Walks that begin at the draft -/

section

variable (h : b.ShowsEntry history) (hdraft : b.place history = history.length)

include h hdraft

/-- A stroll from the draft ends at the place that counting the steps gives. -/
theorem place_through (hops : ∀ op ∈ ops, op.isStroll) :
    (b.through history ops).place history = walkPlace history.length ops := by
  rw [(strolls_through h hops).place, hdraft]
  rfl

/-- At the draft the text is what was typed. -/
theorem text_through (hops : ∀ op ∈ ops, op.isStroll)
    (hback : walkPlace history.length ops = history.length) :
    (b.through history ops).sides.draft.text = b.sides.draft.text := by
  have hrun := strolls_through h hops
  rw [← place_through h hdraft hops] at hback
  rw [← hrun.showsEntry.origin_eq hback, hrun.text, h.origin_eq hdraft]

/-- A part of a walk that leaves the draft and comes back to it. -/
theorem sides_through {init away : List Operation} {first last : Operation}
    (hops : ∀ op ∈ init ++ first :: (away ++ [last]), op.isStroll)
    (hleft : walkPlace history.length init = history.length)
    (haway : ∀ p, p <+: away → walkPlace history.length (init ++ first :: p) < history.length)
    (hback : walkPlace history.length (init ++ first :: (away ++ [last])) = history.length) :
    (b.through history (init ++ first :: (away ++ [last]))).sides =
      (b.through history init).sides := by
  obtain ⟨hinit, houting⟩ := List.forall_mem_append.1 hops
  have hbefore := strolls_through h hinit
  rw [← place_through h hdraft hinit] at hleft
  rw [← place_through h hdraft hops, through_append] at hback
  rw [through_append]
  -- what comes before the part only decides where it begins, which is at the draft
  refine sides_of_back hbefore.showsEntry houting hleft (fun p hp => ?_) hback
  have hpart : first :: p <+: first :: (away ++ [last]) :=
    (List.prefix_cons_inj first).2 (hp.trans (List.prefix_append away [last]))
  have hops' : ∀ op ∈ init ++ first :: p, op.isStroll :=
    List.forall_mem_append.2 ⟨hinit, fun op hop => houting op (hpart.subset hop)⟩
  rw [← through_append, place_through h hdraft hops']
  exact haway p hp

end

end SidedBuffer

/-! ### The buffer -/

namespace EditBuffer

open SidedBuffer

variable {b : EditBuffer} {ops : List Operation}

/-- From any buffer on no walk, steps through the history and moves lead along the places of the
entries with the draft behind them. At an entry the text is that of the entry, and a step there puts
the cursor at its end. At the draft the text is what was typed. A walk that leaves the draft and
comes back finds text and cursor as they were, and what may be undone and redone never changes. -/
theorem walk_leads_back (hb : b.Reachable) (hindex : b.recallIndex = none) (history : List Text)
    (hops : ∀ op ∈ ops, op.isStroll) :
    let place := walkPlace history.length
    let shown := b.through history
    place ops ≤ history.length ∧
    (place ops < history.length → history[place ops]? = some (shown ops).text) ∧
    (place ops = history.length → (shown ops).text = b.text) ∧
    (∀ init op, ops = init ++ [op] → op.Recalls → place ops < history.length →
      (shown ops).cursor = Text.size (shown ops).text) ∧
    (∀ init first away last, ops = init ++ first :: (away ++ [last]) →
      place init = history.length →
      (∀ p, p <+: away → place (init ++ first :: p) < history.length) →
      place ops = history.length → (shown ops).draft = (shown init).draft) ∧
    (shown ops).undoStack = b.undoStack ∧ (shown ops).redoStack = b.redoStack := by
  intro place shown
  obtain ⟨s, rfl⟩ := hb.exists_sides
  have hwalk : s.walk = none := Option.map_eq_none_iff.1 hindex
  -- no entry is shown at the start, so the walk begins at the draft
  have hstart : s.ShowsEntry history := by
    intro walk hsome
    rw [hwalk] at hsome
    cases hsome
  have hdraft : s.place history = history.length := hstart.walk_eq_none_iff.1 hwalk
  -- the walk is followed on the two sides of the cursor, where no offsets get in the way
  have hshown (ops : List Operation) : shown ops = (s.through history ops).buffer :=
    s.buffer_through history ops
  have hrun := strolls_through hstart hops
  have hplace : place ops = (s.through history ops).place history :=
    (place_through hstart hdraft hops).symm
  refine ⟨?_, fun hentry => ?_, fun hback => ?_, ?_, ?_, ?_, ?_⟩
  · rw [hplace]
    exact hrun.showsEntry.place_le
  · rw [hplace] at hentry ⊢
    rw [hshown]
    exact hrun.showsEntry.entry hentry
  · rw [hshown]
    exact text_through hstart hdraft hops hback
  · rintro init op rfl hrecalls hentry
    rw [hplace] at hentry
    rw [hshown]
    show Text.size _ = Text.size (_ ++ _)
    rw [after_through hstart hops hrecalls hentry, List.append_nil]
  · rintro init first away last rfl hleft haway hback
    rw [hshown, hshown]
    exact congrArg Sides.draft (sides_through hstart hdraft hops hleft haway hback)
  · rw [hshown]
    exact congrArg (List.map Sides.draft) hrun.undoStack
  · rw [hshown]
    exact congrArg (List.map Sides.draft) hrun.redoStack

/-- Two entries are looked through and the oldest one again, with moves on the draft before and on
an entry between. The draft comes back with the cursor between its two letters. -/
theorem walk_leads_back_letters :
    let b := empty.insert ['d', 'é']
    let history := [['x'], ['y', 'z']]
    let ops : List Operation := [.move .left, .recallPrevious, .recallPrevious, .move .home,
      .recallPrevious, .recallNext, .recallNext]
    b.Reachable ∧ b.recallIndex = none ∧ (∀ op ∈ ops, op.isStroll) ∧
      (b.through history ops).draft = ⟨['d', 'é'], 1⟩ := by
  intro b history ops
  have hb : b.Reachable := Reachable.empty.edit (.insert ['d', 'é'])
  have hindex : b.recallIndex = none := by decide
  have hops : ∀ op ∈ ops, op.isStroll := by decide
  obtain ⟨-, -, -, -, hback, -⟩ := walk_leads_back hb hindex history hops
  refine ⟨hb, hindex, hops, ?_⟩
  refine (hback [.move .left] .recallPrevious [.recallPrevious, .move .home, .recallPrevious,
    .recallNext] .recallNext rfl (by decide) (fun p hp => ?_) (by decide)).trans (by decide)
  -- the walk is at an entry after every step in between
  revert hp
  rw [← List.mem_inits]
  revert p
  decide

end EditBuffer

end StatementReader
