import StatementReader.Edit.Draft
import StatementReader.Proofs.Layout.Walk

/-!
# The order of cursor places

Moving right in a text moves the cursor forward on the screen: down, or right on the same row. The
walk to the cursor reads more of the text the further on the cursor stands (`Text.upTo_isPrefix`),
and what it reads more of never leads it back (`Place.le_foldl_step`).

The walk may end past the right edge, on a prompt that does not fit or behind a wide character. It is
then taken to the start of the next row, and this keeps the order, since no other place lies between
the two (`Place.wrapped_mono`).
-/

namespace StatementReader

namespace Text

/-- A greater offset keeps more of a text. -/
theorem upTo_isPrefix {m n : ℕ} (h : m ≤ n) (t : Text) : upTo m t <+: upTo n t := by
  induction t generalizing m n with
  | nil => exact List.prefix_rfl
  | cons c t ih =>
    rw [upTo, upTo]
    split
    · rw [if_pos (by omega)]
      exact List.cons_prefix_cons.2 ⟨rfl, ih (by omega)⟩
    · exact List.nil_prefix

theorem upTo_floor (n : ℕ) (t : Text) : upTo (floor n t) t = upTo n t := by
  have hcut := upTo_size_append (upTo n t) (beyond n t)
  rwa [upTo_append_beyond] at hcut

theorem floor_le_nextBoundary (n : ℕ) (t : Text) : floor n t ≤ nextBoundary n t := by
  have hsize : size (upTo n t) + size (beyond n t) = size t := by
    rw [← size_append, upTo_append_beyond]
  unfold nextBoundary
  split
  · exact Nat.le_add_right _ _
  · exact hsize ▸ Nat.le_add_right _ _

end Text

namespace Place

variable {width : ℕ} {p q : Place}

/-- Places past the right edge are taken to the next row in their order. -/
theorem wrapped_mono (h : p ≤ q) : p.wrapped width ≤ q.wrapped width := by
  rw [le_iff] at h
  unfold wrapped
  split <;> split <;> rw [le_iff]
  · exact h.imp Nat.succ_lt_succ fun h => ⟨congrArg (· + 1) h.1, le_rfl⟩
  · -- the one that stays is on a later row, or it would be past the edge as well
    simp only
    omega
  · simp only
    omega
  · exact h

theorem col_wrapped_lt (hwidth : 0 < width) (p : Place) : (p.wrapped width).col < width := by
  unfold wrapped
  split
  · exact hwidth
  · next hcol => exact Nat.lt_of_not_le hcol

end Place

theorem cursorPlace_le_of_isPrefix {t : Text} {c₁ c₂ : ℕ} (gutter width : ℕ)
    (h : Text.upTo c₁ t <+: Text.upTo c₂ t) :
    cursorPlace t c₁ gutter width ≤ cursorPlace t c₂ gutter width := by
  obtain ⟨more, hmore⟩ := h
  have hwalk : Place.walk gutter (max width 1) (Text.upTo c₁ t) ≤
      Place.walk gutter (max width 1) (Text.upTo c₂ t) := by
    rw [← hmore, Place.walk, Place.walk, List.foldl_append]
    exact Place.le_foldl_step gutter (max width 1) _ more
  exact Place.wrapped_mono hwalk

/-- The cursor is always inside the columns of the screen. A cursor further on in the text is on a
lower row, or on the same row and not further to the left, and so a move to the right leads neither
up nor to the left on the same row. -/
theorem cursorPlace_ordered (t : Text) (gutter width : ℕ) :
    (∀ c, (cursorPlace t c gutter width).col < max width 1) ∧
    (∀ c₁ c₂, c₁ ≤ c₂ →
      let p := cursorPlace t c₁ gutter width
      let q := cursorPlace t c₂ gutter width
      p.row < q.row ∨ p.row = q.row ∧ p.col ≤ q.col) ∧
    ∀ c,
      let p := cursorPlace t c gutter width
      let q := cursorPlace t (Draft.move ⟨t, c⟩ .right).cursor gutter width
      p.row < q.row ∨ p.row = q.row ∧ p.col ≤ q.col := by
  refine ⟨fun c => ?_, fun c₁ c₂ h => ?_, fun c => ?_⟩
  · exact Place.col_wrapped_lt (Nat.lt_of_lt_of_le Nat.one_pos (Nat.le_max_right width 1)) _
  · exact cursorPlace_le_of_isPrefix gutter width (Text.upTo_isPrefix h t)
  · -- the cursor may stand inside a character, but only what is before that character counts
    have hright : Text.floor c t ≤ (Draft.move ⟨t, c⟩ .right).cursor :=
      Text.floor_le_nextBoundary c t
    refine cursorPlace_le_of_isPrefix gutter width ?_
    rw [← Text.upTo_floor c t]
    exact Text.upTo_isPrefix hright t

/-- Before and behind the second of two wide characters, on a screen of one column with a gutter that
does not fit. -/
theorem cursorPlace_ordered_wide : 3 ≤ 6 ∧
    ((cursorPlace "\u4E16\u754C".toList 3 2 1).row < (cursorPlace "\u4E16\u754C".toList 6 2 1).row ∨
      (cursorPlace "\u4E16\u754C".toList 3 2 1).row = (cursorPlace "\u4E16\u754C".toList 6 2 1).row ∧
      (cursorPlace "\u4E16\u754C".toList 3 2 1).col ≤
        (cursorPlace "\u4E16\u754C".toList 6 2 1).col) :=
  ⟨by decide, (cursorPlace_ordered "\u4E16\u754C".toList 2 1).2.1 3 6 (by decide)⟩

end StatementReader
