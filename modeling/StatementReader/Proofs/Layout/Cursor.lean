import StatementReader.Proofs.Layout.Break

/-!
# The rows and the cursor

The place of the cursor is found by a walk over the text before it, and the rows are drawn from the
highlighted lines with the prompt and the gutters before them. Neither looks at the other. They
agree because both do the same with every character: the rows are what is left when the text is
typed character by character (`Drawn`, `EditView.rowTexts_eq`), and the walk is where the last row
ends then (`Drawn.place_foldl_type`). Typing on never changes a row but the last one
(`Drawn.Begins`). So the cursor is at the end of what is drawn of the text before it, and that is
also how the whole text is drawn up to there (`EditView.rows_cursorPlace`).

The prompt must fit on a row. A wider one would take rows that the walk does not count.
-/

namespace StatementReader

/-- Drawn rows, the last of them apart. There is always one. -/
structure Drawn where
  above : List Text
  last : Text

namespace Drawn

variable {d d' : Drawn} {gutter : Text} {width : Nat}

/-- All rows. -/
def rows (d : Drawn) : List Text := d.above ++ [d.last]

/-- The rows when the text goes on by a character. -/
def type (gutter : Text) (width : Nat) (d : Drawn) (c : Char) : Drawn :=
  if c = '\n' then ⟨d.rows, gutter⟩
  else if width < Text.width d.last + Text.charWidth c ∧ 0 < Text.width d.last then ⟨d.rows, [c]⟩
  else ⟨d.above, d.last ++ [c]⟩

/-- The end of the last row. -/
def place (d : Drawn) : Place := ⟨d.above.length, Text.width d.last⟩

/-! ### The cursor goes with the rows -/

theorem place_type {c : Char} (h : c ≠ '\r') (gutter : Text) (width : Nat) (d : Drawn) :
    (d.type gutter width c).place = d.place.step (Text.width gutter) width c := by
  unfold type Place.step
  rw [if_neg h]
  split
  · simp [place, rows]
  · show _ = if width < Text.width d.last + Text.charWidth c ∧ 0 < Text.width d.last then _ else _
    split <;> simp [place, rows]

theorem place_foldl_type {t : Text} (h : '\r' ∉ t) (gutter : Text) (width : Nat) (d : Drawn) :
    (t.foldl (type gutter width) d).place =
      t.foldl (Place.step (Text.width gutter) width) d.place := by
  induction t generalizing d with
  | nil => rfl
  | cons c t ih =>
    obtain ⟨hc, ht⟩ := not_or.1 (mt List.mem_cons.2 h)
    rw [List.foldl_cons, List.foldl_cons, ih ht, place_type (Ne.symm hc)]

/-! ### Rows stay -/

/-- Rows from which others have come by going on with the text. -/
def Begins (d d' : Drawn) : Prop :=
  ∃ next rest, d'.rows = d.above ++ (d.last ++ next) :: rest

theorem Begins.type (h : d.Begins d') (gutter : Text) (width : Nat) (c : Char) :
    d.Begins (d'.type gutter width c) := by
  obtain ⟨next, rest, hrows⟩ := h
  have hnew (row : Text) : d.Begins ⟨d'.rows, row⟩ := by
    refine ⟨next, rest ++ [row], ?_⟩
    show d'.rows ++ [row] = _
    rw [hrows, List.append_assoc]
    rfl
  unfold Drawn.type
  split
  · exact hnew gutter
  split
  · exact hnew [c]
  -- only the last row changes, and the row in question may be that one
  obtain rfl | ⟨rest, row, rfl⟩ := List.eq_nil_or_concat' rest
  · obtain ⟨habove, hlast⟩ := List.append_inj' hrows rfl
    refine ⟨next ++ [c], [], ?_⟩
    show d'.above ++ [d'.last ++ [c]] = _
    rw [habove, (List.cons.inj hlast).1, List.append_assoc]
  · rw [← List.cons_append, ← List.append_assoc] at hrows
    obtain ⟨habove, hlast⟩ := List.append_inj' hrows rfl
    refine ⟨next, rest ++ [row ++ [c]], ?_⟩
    show d'.above ++ [d'.last ++ [c]] = _
    rw [habove, (List.cons.inj hlast).1, List.append_assoc]
    rfl

theorem begins_foldl_type (d : Drawn) (gutter : Text) (width : Nat) (t : Text) :
    d.Begins (t.foldl (Drawn.type gutter width) d) := by
  induction t using List.reverseRecOn with
  | nil => exact ⟨[], [], by rw [List.append_nil]; rfl⟩
  | append_singleton t c ih =>
    rw [List.foldl_append]
    exact ih.type gutter width c

end Drawn

namespace EditView

variable {v : EditView} {t : Text} {width : Nat}

/-! ### The rows of a text that goes on -/

/-- The rows change by a character as they do by typing it. -/
theorem rowTexts_concat (hprompt : v.gutterWidth ≤ width) {d : Drawn}
    (h : v.rowTexts width t = d.rows) (c : Char) :
    v.rowTexts width (t ++ [c]) = (d.type v.continuationGutter width c).rows := by
  obtain hnil | ⟨lines, line, hlines⟩ := List.eq_nil_or_concat' (t.splitOn '\n')
  · exact absurd hnil (List.splitOn_ne_nil _ _)
  unfold Drawn.type
  split
  · next hc =>
    -- a new line, and the gutter is all of it
    subst hc
    have hsplit : (t ++ ['\n']).splitOn '\n' = t.splitOn '\n' ++ [[]] := by
      rw [Rows.splitOn_append, hlines]
      exact (Rows.weld_append_cons lines line [] [[]]).trans (by simp)
    have hgutter : Text.width v.continuationGutter ≤ width := by
      rw [width_continuationGutter]
      exact hprompt
    rw [rowTexts] at h
    rw [rowTexts, hsplit, gutterLines_concat, if_neg (List.splitOn_ne_nil _ _), List.append_nil,
      List.flatMap_append, h, List.flatMap_singleton, breakText_gutter hgutter]
    rfl
  · next hc =>
    -- the last line goes on, on the last of its rows or on one more
    have hsplit : (t ++ [c]).splitOn '\n' = lines ++ [line ++ [c]] := by
      rw [Rows.splitOn_append, hlines, List.splitOn_eq_singleton (by simpa using Ne.symm hc)]
      exact Rows.weld_append_cons lines line [c] []
    obtain hnil | ⟨init, last, hbreak⟩ := List.eq_nil_or_concat'
      (breakText width 0 ((if lines = [] then v.prompt else v.continuationGutter) ++ line)).1
    · exact absurd hnil (breakText_ne_nil _ _ _)
    rw [rowTexts, hlines, gutterLines_concat, List.flatMap_append, List.flatMap_singleton, hbreak,
      ← List.append_assoc] at h
    obtain ⟨above, row⟩ := d
    obtain ⟨rfl, hlast⟩ := List.append_inj' h rfl
    obtain ⟨rfl, -⟩ := List.cons.inj hlast
    rw [rowTexts, hsplit, gutterLines_concat, List.flatMap_append, List.flatMap_singleton,
      ← List.append_assoc, breakText_concat hbreak, breakText_snd hbreak]
    split <;> simp [Drawn.rows]

/-- The rows of a text are what typing it draws. -/
theorem rowTexts_eq (hprompt : v.gutterWidth ≤ width) (t : Text) :
    v.rowTexts width t =
      (t.foldl (Drawn.type v.continuationGutter width) ⟨[], v.prompt⟩).rows := by
  induction t using List.reverseRecOn with
  | nil =>
    rw [rowTexts, List.splitOn_nil, ← List.nil_append [[]], gutterLines_concat, if_pos rfl,
      List.append_nil, List.flatMap_append, List.flatMap_singleton, breakText_gutter hprompt]
    rfl
  | append_singleton t c ih =>
    rw [rowTexts_concat hprompt ih, List.foldl_append]
    rfl

/-- The rows of the text before the cursor begin the rows of the whole text, and the cursor is where
they end. At the right edge that is the start of the next row. -/
theorem rows_cursorPlace (hwidth : 1 ≤ width) (hprompt : v.gutterWidth ≤ width)
    (hreturn : '\r' ∉ v.text) :
    ∃ init last next rest,
      ({ v with text := Text.upTo v.cursor v.text }.rows width).map StyledLine.text =
        init ++ [last] ∧
      (v.rows width).map StyledLine.text = init ++ (last ++ next) :: rest ∧
      v.cursorPlace width =
        if Text.width last < width then ⟨init.length, Text.width last⟩
        else ⟨init.length + 1, 0⟩ := by
  have htext := Text.upTo_append_beyond v.cursor v.text
  have hbefore : '\r' ∉ Text.upTo v.cursor v.text := fun h =>
    hreturn (htext ▸ List.mem_append_left _ h)
  generalize hd : (Text.upTo v.cursor v.text).foldl (Drawn.type v.continuationGutter width)
    ⟨[], v.prompt⟩ = d
  -- both texts are typed from the prompt on, the whole one past what is drawn up to the cursor
  have hrows := rowTexts_eq hprompt (Text.upTo v.cursor v.text)
  rw [hd] at hrows
  obtain ⟨next, rest, hall⟩ :=
    d.begins_foldl_type v.continuationGutter width (Text.beyond v.cursor v.text)
  rw [← hd, ← List.foldl_append, htext, hd, ← rowTexts_eq hprompt] at hall
  have hplace := Drawn.place_foldl_type hbefore v.continuationGutter width ⟨[], v.prompt⟩
  rw [hd, width_continuationGutter] at hplace
  refine ⟨d.above, d.last, next, rest, ?_, ?_, ?_⟩
  · rw [map_text_rows hbefore, max_eq_left hwidth]
    exact hrows
  · rw [map_text_rows hreturn, max_eq_left hwidth, hall]
  · have hwalk : v.cursorPlace width = d.place.wrapped width := by
      rw [cursorPlace, StatementReader.cursorPlace, max_eq_left hwidth, hplace]
      rfl
    rw [hwalk]
    -- a full row has no room for the cursor
    unfold Place.wrapped
    by_cases hlast : Text.width d.last < width
    · rw [if_pos hlast]
      exact if_neg (Nat.not_le.2 hlast)
    · rw [if_neg hlast]
      exact if_pos (Nat.le_of_not_lt hlast)

/-- A character of two columns that goes to the next row, and a cursor inside its code. -/
theorem rows_cursorPlace_wide :
    let v : EditView := ⟨"@ ".toList, "a\u4E16b".toList, 3, true, .plain⟩
    ∃ init last next rest,
      ({ v with text := Text.upTo v.cursor v.text }.rows 4).map StyledLine.text =
        init ++ [last] ∧
      (v.rows 4).map StyledLine.text = init ++ (last ++ next) :: rest ∧
      v.cursorPlace 4 =
        if Text.width last < 4 then ⟨init.length, Text.width last⟩ else ⟨init.length + 1, 0⟩ :=
  rows_cursorPlace (by decide) (by decide) (by decide)

end EditView

end StatementReader
