import StatementReader.Proofs.Layout.Highlight

/-!
# The text of the drawn rows

Rows are drawn from spans, each in its style, but where they are broken depends on the characters
alone (`map_text_breakRow`). So the text of the rows of a view is got from its lines without their
styles (`EditView.map_text_rows`), and a text that goes on by a character changes its rows only at
the end (`breakText_concat`).
-/

namespace StatementReader

variable {width : Nat}

/-! ### Breaking a text -/

theorem breakText_cons (width col : Nat) (c : Char) (t : Text) :
    breakText width col (c :: t) =
      if width < col + Text.charWidth c ∧ 0 < col then
        ([] :: (breakText width (Text.charWidth c) t).1.modifyHead (c :: ·),
          (breakText width (Text.charWidth c) t).2)
      else
        ((breakText width (col + Text.charWidth c) t).1.modifyHead (c :: ·),
          (breakText width (col + Text.charWidth c) t).2) := rfl

theorem breakText_ne_nil (width col : Nat) (t : Text) : (breakText width col t).1 ≠ [] := by
  induction t generalizing col with
  | nil => exact List.cons_ne_nil _ _
  | cons c t ih =>
    rw [breakText_cons]
    split
    · exact List.cons_ne_nil _ _
    · rw [ne_eq, List.modifyHead_eq_nil_iff]
      exact ih _

/-- The rows of a text that is put together. -/
theorem breakText_append (width col : Nat) (s t : Text) :
    breakText width col (s ++ t) =
      (Rows.weld (breakText width col s).1 (breakText width (breakText width col s).2 t).1,
        (breakText width (breakText width col s).2 t).2) := by
  induction s generalizing col with
  | nil =>
    show _ = (Rows.weld [[]] (breakText width col t).1, (breakText width col t).2)
    rw [Rows.weld_empty_left (breakText_ne_nil width col t)]
    rfl
  | cons c s ih =>
    rw [List.cons_append, breakText_cons, breakText_cons, ih, ih]
    have hs (col : Nat) := breakText_ne_nil width col s
    have ht (col : Nat) := breakText_ne_nil width col t
    -- a break before `c` puts one more row in front, which the weld leaves alone
    split
    · have hhead := mt (List.modifyHead_eq_nil_iff (f := (c :: ·))).1 (hs (Text.charWidth c))
      rw [Rows.weld_cons hhead, Rows.modifyHead_weld (hs _) (ht _)]
    · rw [Rows.modifyHead_weld (hs _) (ht _)]

/-- A text that fits is not broken. -/
theorem breakText_of_le {col : Nat} {t : Text} (h : col + Text.width t ≤ width) :
    breakText width col t = ([t], col + Text.width t) := by
  induction t generalizing col with
  | nil => rfl
  | cons c t ih =>
    rw [Text.width_cons] at h
    rw [breakText_cons, if_neg (by omega), ih (by omega), Text.width_cons, Nat.add_assoc]
    rfl

theorem breakText_gutter {gutter : Text} (h : Text.width gutter ≤ width) :
    (breakText width 0 gutter).1 = [gutter] := by
  rw [breakText_of_le (by omega)]

/-- A text that goes on by a character goes on with its last row, or on a row of its own. -/
theorem breakText_concat {col : Nat} {t : Text} {init : List Text} {last : Text}
    (h : (breakText width col t).1 = init ++ [last]) (c : Char) :
    breakText width col (t ++ [c]) =
      if width < (breakText width col t).2 + Text.charWidth c ∧ 0 < (breakText width col t).2 then
        (init ++ [last] ++ [[c]], Text.charWidth c)
      else (init ++ [last ++ [c]], (breakText width col t).2 + Text.charWidth c) := by
  rw [breakText_append, breakText_cons, h]
  -- the last character makes a new row, or is put at the end of the last one
  split
  · refine Prod.ext ?_ rfl
    show Rows.weld (init ++ [last]) [[], [c]] = _
    rw [Rows.weld_append_cons, List.append_nil, List.append_assoc]
    rfl
  · refine Prod.ext ?_ rfl
    exact Rows.weld_append_cons init last [c] []

/-- The column after a text that begins a row is the width of its last row. -/
theorem breakText_snd {t : Text} {init : List Text} {last : Text}
    (h : (breakText width 0 t).1 = init ++ [last]) : (breakText width 0 t).2 = Text.width last := by
  induction t using List.reverseRecOn generalizing init last with
  | nil =>
    have hrow : [] ++ [[]] = init ++ [last] := h
    obtain ⟨-, hlast⟩ := List.append_inj' hrow rfl
    rw [← (List.cons.inj hlast).1]
    rfl
  | append_singleton t c ih =>
    obtain hnil | ⟨init', last', h'⟩ := List.eq_nil_or_concat' (breakText width 0 t).1
    · exact absurd hnil (breakText_ne_nil width 0 t)
    -- the column was the width of the last row before the character, which begins or extends one
    have hstop := ih h'
    rw [breakText_concat h'] at h ⊢
    split at h
    · next hbreak =>
      rw [if_pos hbreak]
      obtain ⟨-, hlast⟩ := List.append_inj' h rfl
      rw [← (List.cons.inj hlast).1, Text.width_cons, Text.width_nil, Nat.add_zero]
    · next hfits =>
      rw [if_neg hfits]
      obtain ⟨-, hlast⟩ := List.append_inj' h rfl
      rw [← (List.cons.inj hlast).1, Text.width_append, Text.width_cons, Text.width_nil,
        Nat.add_zero, hstop]

/-! ### Breaking a row -/

/-- The text of the rows does not depend on how the row is made up of spans. -/
theorem map_text_breakRow (width col : Nat) (line : StyledLine) :
    (breakRow width col line).map StyledLine.text = (breakText width col line.text).1 := by
  induction line generalizing col with
  | nil => rfl
  | cons span line ih =>
    -- breaking a span does not change its style
    have hspan (rows : List Text) : (rows.map (.ofText span.style)).map StyledLine.text = rows := by
      rw [List.map_map]
      refine (List.map_congr_left fun row _ => ?_).trans (List.map_id rows)
      exact StyledLine.text_ofText span.style row
    show (StyledLine.joinRows ((breakText width col span.text).1.map (.ofText span.style))
      (breakRow width (breakText width col span.text).2 line)).map StyledLine.text = _
    rw [StyledLine.map_text_joinRows, hspan, ih, StyledLine.text_cons, breakText_append]

theorem breakRow_ne_nil (width col : Nat) (line : StyledLine) : breakRow width col line ≠ [] := by
  intro hnil
  have htexts := map_text_breakRow width col line
  rw [hnil] at htexts
  exact breakText_ne_nil width col line.text htexts.symm

/-! ### The rows of a view -/

namespace EditView

variable {v : EditView}

theorem width_continuationGutter (v : EditView) :
    Text.width v.continuationGutter = v.gutterWidth := by
  have hspaces (n : Nat) : Text.width (List.replicate n ' ') = n := by
    induction n with
    | zero => rfl
    | succ n ih =>
      rw [List.replicate_succ, Text.width_cons, ih]
      exact Nat.add_comm 1 n
  unfold continuationGutter
  -- there are dots if there is room for them, and blanks to the left of them
  split
  · rw [Text.width_append, hspaces]
    show v.gutterWidth - 2 + 2 = _
    omega
  · exact hspaces _

/-- The prompt before the first line, and the gutter before the others. -/
def gutterLines (v : EditView) : List Text → List Text
  | [] => []
  | first :: others => (v.prompt ++ first) :: others.map (v.continuationGutter ++ ·)

theorem gutterLines_concat (v : EditView) (lines : List Text) (last : Text) :
    v.gutterLines (lines ++ [last]) = v.gutterLines lines ++
      [(if lines = [] then v.prompt else v.continuationGutter) ++ last] := by
  cases lines with
  | nil => rfl
  | cons first others => simp [gutterLines]

theorem map_text_guttered (h : '\r' ∉ v.text) :
    v.guttered.map StyledLine.text = v.gutterLines (v.text.splitOn '\n') := by
  have hlines := Highlight.map_text_highlight h v.scheme
  rw [guttered, ← hlines]
  cases highlight v.text v.scheme with
  | nil => rfl
  | cons first others => simp [gutterLines]

/-- The rows of a text, without their styles. -/
def rowTexts (v : EditView) (width : Nat) (t : Text) : List Text :=
  (v.gutterLines (t.splitOn '\n')).flatMap fun line => (breakText width 0 line).1

/-- The text of the rows does not depend on what lexemes there are. -/
theorem map_text_rows (h : '\r' ∉ v.text) (width : Nat) :
    (v.rows width).map StyledLine.text = v.rowTexts (max width 1) v.text := by
  rw [rows, List.map_flatMap, rowTexts, ← map_text_guttered h, List.flatMap_map]
  simp only [map_text_breakRow]

end EditView

end StatementReader
