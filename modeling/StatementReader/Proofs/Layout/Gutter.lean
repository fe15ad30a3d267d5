import StatementReader.Proofs.Layout.Walk

/-!
# The cursor and the gutter

A cursor past the right edge is shown at the start of the next row. If its line goes on there, that
is the place of the next character. But the next row may be the first row of the next line, where
the gutter stands, and the rule does not look. So the cursor is shown on a gutter, and it is exactly
there that it is: behind a row that is full and the last one of its line
(`EditView.cursorPlace_on_gutter`). Everywhere else the first row of a line has the cursor behind
the prompt or gutter, since the walk begins the line there and never goes back.
-/

namespace StatementReader.EditView

variable {v : EditView} {width : ℕ}

/-- The first row of a line, which is how many rows the lines before it take. -/
def lineTop (v : EditView) (width k : ℕ) : ℕ := ((v.lineRows width).take k).flatten.length

theorem lineTop_mono (v : EditView) (width : ℕ) {j k : ℕ} (h : j ≤ k) :
    v.lineTop width j ≤ v.lineTop width k := by
  obtain ⟨i, rfl⟩ := Nat.exists_eq_add_of_le h
  rw [lineTop, lineTop, List.take_add, List.flatten_append, List.length_append]
  exact Nat.le_add_right _ _

theorem lineTop_eq (hprompt : v.gutterWidth ≤ max width 1) (k : ℕ) : v.lineTop width k =
    (((v.text.splitOn '\n').take k).map (Place.rowCount v.gutterWidth (max width 1))).sum := by
  rw [lineTop, List.length_flatten, List.map_take, map_length_lineRows hprompt, List.map_take]

theorem length_rows (hprompt : v.gutterWidth ≤ max width 1) : (v.rows width).length =
    ((v.text.splitOn '\n').map (Place.rowCount v.gutterWidth (max width 1))).sum := by
  rw [← flatten_lineRows, List.length_flatten, map_length_lineRows hprompt]

/-- The last row of a line behind its gutter is as wide as the walk along the line says. -/
theorem width_getLast_breakRow {gutter : StyledSpan} {line : Text} {row last : StyledLine}
    {init : List StyledLine} (h : Highlight.Shows line row) (hfits : Text.width gutter.text ≤ width)
    (hrows : breakRow width 0 (gutter :: row) = init ++ [last]) (margin start : ℕ) :
    (line.foldl (Place.step margin width) ⟨start, Text.width gutter.text⟩).col =
      Text.width last.text := by
  have htexts := map_text_breakRow width 0 (gutter :: row)
  rw [hrows, List.map_append, List.map_singleton, StyledLine.text_cons] at htexts
  have hgutter : (breakText width 0 gutter.text).1 = [] ++ [gutter.text] := breakText_gutter hfits
  obtain ⟨-, hcol⟩ := Place.foldl_step_eq_breakText margin width start (Text.width gutter.text)
    h.lineFeed_notMem h.getLast?_ne
  rw [← Place.foldl_step_congr h.filter_eq, hcol, ← breakText_snd htexts.symm, breakText_append,
    breakText_snd hgutter]

/-- The walk ends where the rows do. -/
theorem exists_rows_concat (hprompt : v.gutterWidth ≤ max width 1) :
    ∃ init last, v.rows width = init ++ [last] ∧
      Place.walk v.gutterWidth (max width 1) v.text = ⟨init.length, Text.width last.text⟩ := by
  obtain hnil | ⟨lines, line, hlines⟩ := List.eq_nil_or_concat' (v.text.splitOn '\n')
  · exact absurd hnil (List.splitOn_ne_nil _ _)
  -- the last line is drawn last
  have hdrawn := v.forall₂_guttered
  rw [hlines, ← List.forall₂_reverse_iff, List.reverse_concat] at hdrawn
  obtain ⟨drawn, others, ⟨gutter, row, hgutter, hshows, rfl⟩, -, hguttered⟩ :=
    List.forall₂_cons_left_iff.1 hdrawn
  rw [List.reverse_eq_cons_iff] at hguttered
  obtain hnil | ⟨init, last, hlast⟩ :=
    List.eq_nil_or_concat' (breakRow (max width 1) 0 (gutter :: row))
  · exact absurd hnil (breakRow_ne_nil _ _ _)
  have hrows : v.rows width =
      (others.reverse.flatMap (breakRow (max width 1) 0) ++ init) ++ [last] := by
    rw [rows, hguttered, List.flatMap_append, List.flatMap_singleton, hlast, List.append_assoc]
  refine ⟨_, last, hrows, ?_⟩
  -- the walk goes on along that line from the row behind all that it has counted before
  have hlength := length_rows hprompt
  rw [← hgutter] at hprompt
  have hcol := width_getLast_breakRow hshows hprompt hlast v.gutterWidth
    (lines.map (Place.rowCount v.gutterWidth (max width 1))).sum
  rw [hrows, List.length_append, List.length_singleton, hlines, List.map_append, List.sum_append,
    List.map_singleton, List.sum_singleton, ← Place.row_foldl_step] at hlength
  rw [hgutter] at hcol
  rw [Place.walk_of_splitOn hlines, ← hcol, Nat.add_right_cancel hlength]

/-- Where the walk is on the first row of a line, it is behind the gutter. -/
theorem gutterWidth_le_col_walk (hprompt : v.gutterWidth ≤ max width 1) {k : ℕ}
    (h : (Place.walk v.gutterWidth (max width 1) (Text.upTo v.cursor v.text)).row =
      v.lineTop width k) :
    v.gutterWidth ≤ (Place.walk v.gutterWidth (max width 1) (Text.upTo v.cursor v.text)).col := by
  obtain ⟨before, start, rest, after, hbefore, hlines⟩ := v.exists_cursorLine
  obtain ⟨hfrom, hto⟩ := Place.walk_bounds v.gutterWidth (max width 1) hbefore rest
  have htop : v.lineTop width before.length =
      (before.map (Place.rowCount v.gutterWidth (max width 1))).sum := by
    rw [lineTop_eq hprompt, hlines, List.take_left]
  have hnext : v.lineTop width (before.length + 1) =
      ((before ++ [start ++ rest]).map (Place.rowCount v.gutterWidth (max width 1))).sum := by
    rw [lineTop_eq hprompt, hlines, List.take_add, List.take_left, List.drop_left]
    rfl
  rw [← hnext, h] at hto
  rw [← htop, Place.le_iff, h] at hfrom
  -- the row belongs to the line of the cursor, and so that is the line it is the first row of
  rcases Nat.lt_or_ge before.length k with hk | hk
  · -- a later line begins below it
    exact absurd hto (Nat.not_lt.2 (v.lineTop_mono width hk))
  · rcases hfrom with hlt | ⟨-, hcol⟩
    · -- an earlier line begins no lower than the line of the cursor
      exact absurd hlt (Nat.not_lt.2 (v.lineTop_mono width hk))
    · exact hcol

/-- On the first row of a line, and on the row below the last, the cursor is in the columns of the
gutter if and only if what is drawn of the text up to the cursor ends right above that row, and in a
full row. -/
theorem cursorPlace_on_gutter (hwidth : v.gutterWidth < width) (k : ℕ) :
    (v.cursorPlace width).row = v.lineTop width k ∧ (v.cursorPlace width).col < v.gutterWidth ↔
      0 < v.gutterWidth ∧ ∃ init last,
        { v with text := Text.upTo v.cursor v.text }.rows width = init ++ [last] ∧
        width ≤ Text.width last.text ∧ v.lineTop width k = init.length + 1 := by
  have hmax : max width 1 = width := max_eq_left (by omega)
  have hprompt : v.gutterWidth ≤ max width 1 := by omega
  have hstart : { v with text := Text.upTo v.cursor v.text }.gutterWidth ≤ max width 1 := hprompt
  obtain ⟨init, last, hrows, hwalk⟩ := exists_rows_concat hstart
  change Place.walk v.gutterWidth (max width 1) (Text.upTo v.cursor v.text) = _ at hwalk
  have hplace : v.cursorPlace width =
      if width ≤ Text.width last.text then ⟨init.length + 1, 0⟩
      else ⟨init.length, Text.width last.text⟩ := by
    show (Place.walk v.gutterWidth (max width 1) _).wrapped (max width 1) = _
    rw [hwalk, hmax]
    rfl
  rw [hplace]
  constructor
  · rintro ⟨hrow, hcol⟩
    split at hrow
    · next hfull =>
      -- a full last row sends the cursor to the row below, to column zero
      rw [if_pos hfull] at hcol
      exact ⟨hcol, init, last, hrows, hfull, hrow.symm⟩
    · next hfull =>
      -- the cursor is where the walk ends, and that is never on a gutter
      rw [if_neg hfull] at hcol
      have hbehind := gutterWidth_le_col_walk hprompt ((congrArg Place.row hwalk).trans hrow)
      rw [hwalk] at hbehind
      exact absurd hcol (Nat.not_lt.2 hbehind)
  · rintro ⟨hgutter, init', last', hrows', hfull, htop⟩
    -- the rows are those that the walk has passed, with the full one at the end
    obtain ⟨rfl, hlast⟩ := List.append_inj' (hrows.symm.trans hrows') rfl
    obtain rfl := (List.cons.inj hlast).1
    rw [if_pos hfull]
    exact ⟨htop.symm, hgutter⟩

/-- Two lines of one character on rows of three columns, with the cursor between them. -/
theorem cursorPlace_on_gutter_full :
    let v : EditView := ⟨"@ ".toList, "a\nb".toList, 1, true, .plain⟩
    v.gutterWidth < 3 ∧
    ((v.cursorPlace 3).row = v.lineTop 3 1 ∧ (v.cursorPlace 3).col < v.gutterWidth ↔
      0 < v.gutterWidth ∧ ∃ init last,
        { v with text := Text.upTo v.cursor v.text }.rows 3 = init ++ [last] ∧
        3 ≤ Text.width last.text ∧ v.lineTop 3 1 = init.length + 1) :=
  ⟨by decide, cursorPlace_on_gutter (by decide) 1⟩

/-- The cursor is not always behind the gutter on the first row of a line. -/
theorem not_forall_gutterWidth_le_col : ¬ ∀ (v : EditView) (width k : ℕ),
    '\n' ∉ v.prompt → v.gutterWidth < width → k < (v.lineRows width).length →
    (v.cursorPlace width).row = v.lineTop width k →
    v.gutterWidth ≤ (v.cursorPlace width).col := by
  intro h
  let v : EditView := ⟨"@ ".toList, "a\nb".toList, 1, true, .plain⟩
  have hlines : 1 < (v.lineRows 3).length := by
    rw [← List.length_map List.length, map_length_lineRows (by decide)]
    decide
  have htop : (v.cursorPlace 3).row = v.lineTop 3 1 := by
    rw [lineTop_eq (by decide)]
    decide
  have hcol : v.gutterWidth ≤ (v.cursorPlace 3).col := h v 3 1 (by decide) (by decide) hlines htop
  exact absurd hcol (by decide)

end StatementReader.EditView
