import Mathlib.Algebra.Order.BigOperators.Group.List
import Mathlib.Algebra.Order.Group.Nat
import Mathlib.Algebra.Ring.Nat
import StatementReader.Proofs.Layout.Wrapping

/-!
# The walk over the lines

The walk that finds the place of the cursor counts rows of its own. It reads the text line by line
(`Place.walk_of_splitOn`), and it never goes back in reading order (`Place.le_foldl_step`), nor does
a walk that is ahead of another fall behind it (`Place.foldl_step_mono`). Along a line it goes as
the line is broken into rows (`Place.foldl_step_eq_breakText`), carriage returns or not: the walk
passes over them, and in a row they take no column and never come last.

So the walk counts the rows of every line as they are drawn if the prompt fits on a row
(`EditView.map_length_lineRows`). If it does not, the walk counts the prompt as one row, and there
are at least as many rows as it counts (`EditView.forall₂_lineRows`).
-/

namespace StatementReader
namespace Place

variable {gutter width : ℕ} {p q : Place} {s t : Text}

/-! ### Reading order -/

/-- Places come in the order in which text is read. -/
instance : Preorder Place where
  le p q := p.row < q.row ∨ p.row = q.row ∧ p.col ≤ q.col
  le_refl p := by omega
  le_trans p q r hpq hqr := by omega

theorem le_iff : p ≤ q ↔ p.row < q.row ∨ p.row = q.row ∧ p.col ≤ q.col := Iff.rfl

theorem row_le (h : p ≤ q) : p.row ≤ q.row := by
  rw [le_iff] at h
  omega

/-- No character leads back. -/
theorem le_step (gutter width : ℕ) (p : Place) (c : Char) : p ≤ p.step gutter width c := by
  unfold step
  split
  · exact le_rfl
  split
  · exact .inl (Nat.lt_succ_self p.row)
  split
  · exact .inl (Nat.lt_succ_self p.row)
  · exact .inr ⟨rfl, Nat.le_add_right p.col _⟩

/-- Of two places, the one that is ahead stays ahead. -/
theorem step_mono (h : p ≤ q) (c : Char) : p.step gutter width c ≤ q.step gutter width c := by
  rw [le_iff] at h
  unfold step
  split
  · exact h
  split
  · rw [le_iff]
    simp only
    omega
  -- the place behind goes to a next row alone only from a row above that of the other
  split <;> split <;> rw [le_iff] <;> simp only <;> omega

theorem le_foldl_step (gutter width : ℕ) (p : Place) (t : Text) :
    p ≤ t.foldl (step gutter width) p := by
  induction t generalizing p with
  | nil => exact le_rfl
  | cons c t ih =>
    calc
      p ≤ p.step gutter width c := le_step gutter width p c
      _ ≤ _ := ih _

theorem foldl_step_mono (h : p ≤ q) (t : Text) :
    t.foldl (step gutter width) p ≤ t.foldl (step gutter width) q := by
  induction t generalizing p q with
  | nil => exact h
  | cons c t ih => exact ih (step_mono h c)

/-! ### Line by line -/

/-- The rows that the walk counts for a line. -/
def rowCount (gutter width : ℕ) (line : Text) : ℕ :=
  (line.foldl (step gutter width) ⟨0, gutter⟩).row + 1

/-- The walk is the same from every row on. -/
theorem foldl_step_add (r : ℕ) (p : Place) (t : Text) :
    t.foldl (step gutter width) ⟨r + p.row, p.col⟩ =
      ⟨r + (t.foldl (step gutter width) p).row, (t.foldl (step gutter width) p).col⟩ := by
  -- whether a character goes to the next row depends on the column alone
  have hstep (p : Place) (c : Char) : step gutter width ⟨r + p.row, p.col⟩ c =
      ⟨r + (p.step gutter width c).row, (p.step gutter width c).col⟩ := by
    unfold step
    split
    · rfl
    split
    · rfl
    split <;> rfl
  induction t generalizing p with
  | nil => rfl
  | cons c t ih => rw [List.foldl_cons, hstep, ih, List.foldl_cons]

theorem row_foldl_step (row : ℕ) (line : Text) :
    (line.foldl (step gutter width) ⟨row, gutter⟩).row + 1 = row + rowCount gutter width line := by
  rw [rowCount, ← Nat.add_assoc]
  exact congrArg (·.row + 1) (foldl_step_add row ⟨0, gutter⟩ line)

/-- The walk goes on along the last line from the row behind all others. -/
theorem walk_of_splitOn {lines : List Text} {last : Text} (h : t.splitOn '\n' = lines ++ [last]) :
    walk gutter width t =
      last.foldl (step gutter width) ⟨(lines.map (rowCount gutter width)).sum, gutter⟩ := by
  -- induction from the end of the text, where it is the last line that changes
  induction t using List.reverseRecOn generalizing lines last with
  | nil =>
    have hnil : [] ++ [[]] = lines ++ [last] := h
    obtain ⟨rfl, hlast⟩ := List.append_inj' hnil rfl
    rw [← (List.cons.inj hlast).1]
    rfl
  | append_singleton t c ih =>
    obtain hnil | ⟨init, line, hline⟩ := List.eq_nil_or_concat' (t.splitOn '\n')
    · exact absurd hnil (List.splitOn_ne_nil _ _)
    rw [Rows.splitOn_append, hline] at h
    rw [walk, List.foldl_append, ← walk, ih hline]
    by_cases hc : c = '\n'
    · -- a line ends, and the next one has nothing on it yet
      have hsplit : [c].splitOn '\n' = [[], []] := by rw [hc]; rfl
      rw [hsplit, Rows.weld_append_cons, List.append_nil] at h
      have hlines : (init ++ [line]) ++ [[]] = lines ++ [last] := by rw [← h]; simp
      obtain ⟨rfl, hlast⟩ := List.append_inj' hlines rfl
      rw [← (List.cons.inj hlast).1, List.map_append, List.sum_append, List.map_singleton,
        List.sum_singleton, ← row_foldl_step, hc]
      rfl
    · -- the last line goes on, and so does the walk
      rw [List.splitOn_eq_singleton (by simpa using Ne.symm hc), Rows.weld_append_cons] at h
      obtain ⟨rfl, hlast⟩ := List.append_inj' h rfl
      rw [← (List.cons.inj hlast).1, List.foldl_append]

/-- Within a text, the walk stays on the rows of the line that it is on. -/
theorem walk_bounds (gutter width : ℕ) {lines : List Text} {last : Text}
    (h : t.splitOn '\n' = lines ++ [last]) (rest : Text) :
    ⟨(lines.map (rowCount gutter width)).sum, gutter⟩ ≤ walk gutter width t ∧
    (walk gutter width t).row < ((lines ++ [last ++ rest]).map (rowCount gutter width)).sum := by
  rw [walk_of_splitOn h]
  refine ⟨le_foldl_step gutter width _ last, ?_⟩
  -- what is left of the line does not lead back
  have hrest := row_le (le_foldl_step gutter width (last.foldl (step gutter width)
    ⟨(lines.map (rowCount gutter width)).sum, gutter⟩) rest)
  rw [← List.foldl_append] at hrest
  rw [List.map_append, List.sum_append, List.map_singleton, List.sum_singleton, ← row_foldl_step]
  exact Nat.lt_succ_of_le hrest

/-! ### Along a line -/

/-- The walk passes over carriage returns. -/
theorem foldl_step_congr (h : s.filter (· ≠ '\r') = t.filter (· ≠ '\r')) (p : Place) :
    s.foldl (step gutter width) p = t.foldl (step gutter width) p := by
  have hfilter (t : Text) : (t.filter (· ≠ '\r')).foldl (step gutter width) p =
      t.foldl (step gutter width) p := by
    rw [List.foldl_filter]
    refine List.foldl_ext _ _ _ fun p c _ => ?_
    by_cases hc : c = '\r'
    · simp [hc, step]
    · simp [hc]
  rw [← hfilter s, h, hfilter t]

end Place

/-- Past the right edge, every text begins a new row. -/
theorem breakText_of_lt {width col : ℕ} {t : Text} (h : width < col) (ht : t ≠ []) :
    breakText width col t = ([] :: (breakText width 0 t).1, (breakText width 0 t).2) := by
  obtain ⟨c, t, rfl⟩ := List.exists_cons_of_ne_nil ht
  rw [breakText_cons, breakText_cons, if_pos (by omega), if_neg (by omega), Nat.zero_add]

/-- A carriage return with text after it takes no row and no column. Where it begins a row, the text
would have done so. -/
theorem breakText_return (width col : ℕ) {t : Text} (ht : t ≠ []) :
    (breakText width col ('\r' :: t)).1.length = (breakText width col t).1.length ∧
    (breakText width col ('\r' :: t)).2 = (breakText width col t).2 := by
  have hzero : Text.charWidth '\r' = 0 := rfl
  rw [breakText_cons, hzero, Nat.add_zero]
  split
  · next hover =>
    -- past the right edge it begins a row, and the text then goes on there
    rw [breakText_of_lt hover.1 ht]
    exact ⟨by rw [List.length_cons, List.length_cons, List.length_modifyHead], rfl⟩
  · exact ⟨List.length_modifyHead, rfl⟩

/-- Along a line the walk goes as the line is broken into rows. -/
theorem Place.foldl_step_eq_breakText (gutter width row col : ℕ) {t : Text} (hbreak : '\n' ∉ t)
    (hreturn : t.getLast? ≠ some '\r') :
    (t.foldl (step gutter width) ⟨row, col⟩).row + 1 = row + (breakText width col t).1.length ∧
    (t.foldl (step gutter width) ⟨row, col⟩).col = (breakText width col t).2 := by
  induction t generalizing row col with
  | nil => exact ⟨rfl, rfl⟩
  | cons c t ih =>
    obtain ⟨hc, ht⟩ := not_or.1 (mt List.mem_cons.2 hbreak)
    have hlast : t.getLast? ≠ some '\r' := fun hlast =>
      hreturn (by simp [List.getLast?_cons, hlast])
    rw [List.foldl_cons]
    by_cases hcr : c = '\r'
    · -- the walk passes over it, and in the rows it makes no difference since text comes after it
      have hne : t ≠ [] := by
        rintro rfl
        exact hreturn (by rw [hcr]; rfl)
      obtain ⟨hlength, hstop⟩ := breakText_return width col hne
      rw [step, if_pos hcr, hcr, hlength, hstop]
      exact ih row col ht hlast
    rw [step, if_neg hcr, if_neg (Ne.symm hc), breakText_cons]
    split
    · obtain ⟨hrow, hcol⟩ := ih (row + 1) (Text.charWidth c) ht hlast
      refine ⟨?_, hcol⟩
      rw [hrow, List.length_cons, List.length_modifyHead]
      omega
    · obtain ⟨hrow, hcol⟩ := ih row (col + Text.charWidth c) ht hlast
      refine ⟨?_, hcol⟩
      rw [hrow, List.length_modifyHead]

/-! ### The rows of the lines -/

section

variable {width : ℕ} {gutter : StyledSpan} {line : Text} {row : StyledLine}

/-- Behind a gutter, a line is drawn as the walk goes from the end of the gutter on. -/
theorem length_breakRow (h : Highlight.Shows line row) {init : List Text} {last : Text}
    (hgutter : (breakText width 0 gutter.text).1 = init ++ [last]) (margin : ℕ) :
    (breakRow width 0 (gutter :: row)).length =
      (line.foldl (Place.step margin width) ⟨init.length, Text.width last⟩).row + 1 := by
  have hweld := Rows.length_weld (breakText_ne_nil width 0 gutter.text)
    (breakText_ne_nil width (breakText width 0 gutter.text).2 row.text)
  obtain ⟨hrow, -⟩ := Place.foldl_step_eq_breakText margin width init.length (Text.width last)
    h.lineFeed_notMem h.getLast?_ne
  rw [breakText_snd hgutter, hgutter, List.length_append, List.length_singleton] at hweld
  rw [← Place.foldl_step_congr h.filter_eq, hrow, ← List.length_map StyledLine.text,
    map_text_breakRow, StyledLine.text_cons, breakText_append, breakText_snd hgutter, hgutter]
  show (Rows.weld _ _).length = _
  omega

/-- A prompt that fits is one row, and the walk counts the rows that are drawn. -/
theorem Place.rowCount_eq (h : Highlight.Shows line row) (hfits : Text.width gutter.text ≤ width) :
    rowCount (Text.width gutter.text) width line = (breakRow width 0 (gutter :: row)).length := by
  have hgutter : (breakText width 0 gutter.text).1 = [] ++ [gutter.text] := breakText_gutter hfits
  exact (length_breakRow h hgutter _).symm

/-- The walk counts no more rows than are drawn. -/
theorem Place.rowCount_le (h : Highlight.Shows line row) :
    rowCount (Text.width gutter.text) width line ≤ (breakRow width 0 (gutter :: row)).length := by
  obtain hnil | ⟨init, last, hgutter⟩ := List.eq_nil_or_concat' (breakText width 0 gutter.text).1
  · exact absurd hnil (breakText_ne_nil _ _ _)
  -- a prompt of one row ends where the walk takes it to end, and any other on a later row
  have hstart : (⟨0, Text.width gutter.text⟩ : Place) ≤ ⟨init.length, Text.width last⟩ := by
    cases init with
    | nil =>
      have hlast : [last].flatten = gutter.text := by
        rw [← flatten_breakText width 0 gutter.text, hgutter]
        rfl
      rw [← hlast]
      exact le_of_eq (by simp)
    | cons first init => exact .inl (Nat.succ_pos _)
  rw [length_breakRow h hgutter (Text.width gutter.text)]
  exact Nat.succ_le_succ (row_le (foldl_step_mono hstart line))

end

namespace EditView

variable {v : EditView} {width : ℕ}

/-- A line is drawn as the prompt or gutter and a row that shows the line. -/
theorem forall₂_guttered (v : EditView) : List.Forall₂ (fun (line : Text) (drawn : StyledLine) =>
    ∃ (gutter : StyledSpan) (row : StyledLine), Text.width gutter.text = v.gutterWidth ∧
      Highlight.Shows line row ∧ drawn = gutter :: row) (v.text.splitOn '\n') v.guttered := by
  have hshows := Highlight.forall₂_shows v.text v.scheme
  rw [guttered]
  generalize v.text.splitOn '\n' = lines, highlight v.text v.scheme = rows at hshows
  cases hshows with
  | nil => exact .nil
  | cons hfirst hothers =>
    refine .cons ⟨_, _, rfl, hfirst, rfl⟩ (List.forall₂_map_right_iff.2 ?_)
    exact hothers.imp fun line row h => ⟨_, row, v.width_continuationGutter, h, rfl⟩

/-- How many rows each line takes, which is known for every row that shows it behind a gutter. -/
theorem forall₂_length_lineRows {R : ℕ → ℕ → Prop}
    (h : ∀ {line : Text} {gutter : StyledSpan} {row : StyledLine},
      Text.width gutter.text = v.gutterWidth → Highlight.Shows line row →
      R (Place.rowCount v.gutterWidth (max width 1) line)
        (breakRow (max width 1) 0 (gutter :: row)).length) :
    List.Forall₂ R ((v.text.splitOn '\n').map (Place.rowCount v.gutterWidth (max width 1)))
      ((v.lineRows width).map List.length) := by
  rw [lineRows, List.map_map, List.forall₂_map_left_iff, List.forall₂_map_right_iff]
  refine v.forall₂_guttered.imp fun line drawn hdrawn => ?_
  obtain ⟨gutter, row, hgutter, hshows, rfl⟩ := hdrawn
  exact h hgutter hshows

/-- Every line takes at least the rows that the walk counts for it. -/
theorem forall₂_lineRows (v : EditView) (width : ℕ) :
    List.Forall₂ (· ≤ ·) ((v.text.splitOn '\n').map (Place.rowCount v.gutterWidth (max width 1)))
      ((v.lineRows width).map List.length) := by
  refine forall₂_length_lineRows fun hgutter hshows => ?_
  rw [← hgutter]
  exact Place.rowCount_le hshows

/-- If the prompt fits, every line takes exactly these. -/
theorem map_length_lineRows (hprompt : v.gutterWidth ≤ max width 1) :
    (v.lineRows width).map List.length =
      (v.text.splitOn '\n').map (Place.rowCount v.gutterWidth (max width 1)) := by
  rw [eq_comm, ← List.forall₂_eq_eq_eq]
  refine forall₂_length_lineRows fun hgutter hshows => ?_
  rw [← hgutter] at hprompt ⊢
  exact Place.rowCount_eq hshows hprompt

/-- The line of the cursor, and the lines before and after it. -/
theorem exists_cursorLine (v : EditView) : ∃ before start rest after,
    (Text.upTo v.cursor v.text).splitOn '\n' = before ++ [start] ∧
    v.text.splitOn '\n' = before ++ (start ++ rest) :: after := by
  obtain hnil | ⟨before, start, hbefore⟩ :=
    List.eq_nil_or_concat' ((Text.upTo v.cursor v.text).splitOn '\n')
  · exact absurd hnil (List.splitOn_ne_nil _ _)
  obtain ⟨rest, after, hafter⟩ :=
    List.exists_cons_of_ne_nil (List.splitOn_ne_nil '\n' (Text.beyond v.cursor v.text))
  refine ⟨before, start, rest, after, hbefore, ?_⟩
  conv_lhs => rw [← Text.upTo_append_beyond v.cursor v.text]
  rw [Rows.splitOn_append, hbefore, hafter, Rows.weld_append_cons]

end EditView
end StatementReader
