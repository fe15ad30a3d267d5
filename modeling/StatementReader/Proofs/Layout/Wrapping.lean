import Mathlib.Data.List.Chain
import StatementReader.Proofs.Layout.Break

/-!
# The lines and their rows

A line with its prompt or gutter is broken into rows without loss, and no earlier than it has to be:
the first character of a row would have passed the right edge on the row before it. A row passes the
edge only if it holds a single character that is wider than the screen, perhaps with others that
take no column.

How the rows are filled is kept when the line goes on by one character (`Fills.newRow`,
`Fills.concat`), and so it holds of every line (`fills_breakText`). That nothing is lost holds of
each span by itself, and so the styles are kept as well (`characters_breakRow`).
-/

namespace StatementReader

/-- How a text fills the rows it is broken into. No row is empty, or the text is. Each row fits, or
holds just one character that takes columns, and each break is necessary. -/
structure Fills (width : ℕ) (t : Text) (rows : List Text) : Prop where
  of_nil : t = [] → rows = [[]]
  nil_notMem : t ≠ [] → [] ∉ rows
  fits : ∀ row ∈ rows, Text.width row ≤ width ∨ row.countP (0 < Text.charWidth ·) = 1
  necessary : rows.IsChain fun row next =>
    ∀ c ∈ next.head?, width < Text.width row + Text.charWidth c

namespace Fills

variable {width : ℕ} {t last : Text} {init : List Text} {c : Char}

theorem countP_of_width_eq_zero (h : Text.width t = 0) : t.countP (0 < Text.charWidth ·) = 0 := by
  induction t with
  | nil => rfl
  | cons c t ih =>
    rw [Text.width_cons] at h
    rw [List.countP_cons_of_neg (by simp; omega)]
    exact ih (by omega)

/-- The last row is empty only if it is the only one. -/
theorem init_eq_nil (h : Fills width t (init ++ [[]])) : init = [] := by
  have ht : t = [] := by
    by_contra ht
    exact h.nil_notMem ht (List.mem_append_right init (List.mem_singleton_self _))
  have hrows : init ++ [[]] = [] ++ [[]] := h.of_nil ht
  exact List.append_cancel_right hrows

/-- The character that does not fit begins a row. -/
theorem newRow (h : Fills width t (init ++ [last]))
    (hc : width < Text.width last + Text.charWidth c ∧ 0 < Text.width last) :
    Fills width (t ++ [c]) (init ++ [last] ++ [[c]]) := by
  -- the row before the new one has columns, so there is something on it
  have ht : t ≠ [] := by
    intro hnil
    have hrows : init ++ [last] = [] ++ [[]] := h.of_nil hnil
    obtain ⟨-, hlast⟩ := List.append_inj' hrows rfl
    rw [(List.cons.inj hlast).1] at hc
    exact absurd hc.2 (Nat.lt_irrefl 0)
  refine ⟨?_, ?_, ?_, ?_⟩
  · intro hnil
    exact absurd hnil (List.concat_ne_nil c t)
  · intro _ hmem
    rcases List.mem_append.1 hmem with hmem | hmem
    · exact h.nil_notMem ht hmem
    · cases List.mem_singleton.1 hmem
  · intro row hrow
    rcases List.mem_append.1 hrow with hrow | hrow
    · exact h.fits row hrow
    · -- a row of one character, which is wider than the screen or fits
      obtain rfl := List.mem_singleton.1 hrow
      by_cases hfits : Text.charWidth c ≤ width
      · exact .inl hfits
      · exact .inr (by simp; omega)
  · -- the break before the new row is the one in question
    refine h.necessary.append (List.isChain_singleton _) ?_
    intro row hrow next hnext d hd
    rw [List.getLast?_concat, Option.mem_some_iff] at hrow
    rw [List.head?_cons, Option.mem_some_iff] at hnext
    rw [← hnext, List.head?_cons, Option.mem_some_iff] at hd
    rw [← hrow, ← hd]
    exact hc.1

/-- A character that fits goes on with the last row. -/
theorem concat (h : Fills width t (init ++ [last]))
    (hc : ¬ (width < Text.width last + Text.charWidth c ∧ 0 < Text.width last)) :
    Fills width (t ++ [c]) (init ++ [last ++ [c]]) := by
  refine ⟨?_, ?_, ?_, ?_⟩
  · intro hnil
    exact absurd hnil (List.concat_ne_nil c t)
  · intro _ hmem
    rcases List.mem_append.1 hmem with hmem | hmem
    · by_cases ht : t = []
      · have hrows : init ++ [last] = [] ++ [[]] := h.of_nil ht
        obtain ⟨rfl, -⟩ := List.append_inj' hrows rfl
        exact absurd hmem List.not_mem_nil
      · exact h.nil_notMem ht (List.mem_append_left _ hmem)
    · exact List.concat_ne_nil c last (List.mem_singleton.1 hmem).symm
  · intro row hrow
    rcases List.mem_append.1 hrow with hrow | hrow
    · exact h.fits row (List.mem_append_left _ hrow)
    · obtain rfl := List.mem_singleton.1 hrow
      rw [Text.width_append, Text.width_cons, Text.width_nil, Nat.add_zero]
      by_cases hfits : Text.width last + Text.charWidth c ≤ width
      · exact .inl hfits
      · -- nothing before the character takes a column
        have hzero : Text.width last = 0 := by omega
        refine .inr ?_
        rw [List.countP_append, countP_of_width_eq_zero hzero, Nat.zero_add,
          List.countP_cons_of_pos (by simp; omega)]
        rfl
  · -- the last row begins as before, unless it was empty and had no row before it
    obtain ⟨hinit, -, hbreak⟩ := List.isChain_append.1 h.necessary
    refine hinit.append (List.isChain_singleton _) ?_
    intro row hrow next hnext d hd
    rw [List.head?_cons, Option.mem_some_iff] at hnext
    rw [← hnext] at hd
    refine hbreak row hrow last rfl d ?_
    cases last with
    | nil =>
      rw [h.init_eq_nil] at hrow
      cases hrow
    | cons e last => exact hd

end Fills

/-- Breaking a text fills the rows. -/
theorem fills_breakText (width : ℕ) (t : Text) :
    Fills width t (breakText width 0 t).1 := by
  induction t using List.reverseRecOn with
  | nil =>
    refine ⟨fun _ => rfl, fun h => absurd rfl h, ?_, List.isChain_singleton _⟩
    intro row hrow
    rw [List.mem_singleton.1 hrow]
    exact .inl (Nat.zero_le width)
  | append_singleton t c ih =>
    obtain hnil | ⟨init, last, hrows⟩ := List.eq_nil_or_concat' (breakText width 0 t).1
    · exact absurd hnil (breakText_ne_nil width 0 t)
    -- the column that decides on the break is the width of the last row
    rw [breakText_concat hrows, breakText_snd hrows]
    rw [hrows] at ih
    split
    · next hc => exact ih.newRow hc
    · next hc => exact ih.concat hc

theorem flatten_breakText (width col : ℕ) (t : Text) : (breakText width col t).1.flatten = t := by
  have hhead (c : Char) {rows : List Text} (h : rows ≠ []) :
      (rows.modifyHead (c :: ·)).flatten = c :: rows.flatten := by
    obtain ⟨row, rows, rfl⟩ := List.exists_cons_of_ne_nil h
    rfl
  induction t generalizing col with
  | nil => rfl
  | cons c t ih =>
    rw [breakText_cons]
    split
    · rw [List.flatten_cons, List.nil_append, hhead c (breakText_ne_nil _ _ _), ih]
    · rw [hhead c (breakText_ne_nil _ _ _), ih]

/-- The characters of the rows, with their styles, are those of the line. -/
theorem characters_breakRow (width col : ℕ) (line : StyledLine) :
    StyledLine.characters (breakRow width col line).flatten = line.characters := by
  have hspan (style : Style) (rows : List Text) :
      StyledLine.characters (rows.map (StyledLine.ofText style)).flatten =
        rows.flatten.map (·, style) := by
    induction rows with
    | nil => rfl
    | cons row rows ih =>
      rw [List.map_cons, List.flatten_cons, StyledLine.characters_append, ih,
        StyledLine.characters_ofText, List.flatten_cons, List.map_append]
  induction line generalizing col with
  | nil => rfl
  | cons span line ih =>
    show StyledLine.characters (StyledLine.joinRows
      ((breakText width col span.text).1.map (.ofText span.style)) _).flatten = _
    -- the last row of a span and the first of the next one are welded, which loses nothing
    rw [Rows.joinRows_eq, Rows.flatten_weld, StyledLine.characters_append, hspan, ih,
      flatten_breakText]
    rfl

namespace EditView

variable {v : EditView} {width : ℕ}

/-- The rows of each line. -/
def lineRows (v : EditView) (width : ℕ) : List (List StyledLine) :=
  v.guttered.map (breakRow (max width 1) 0)

theorem flatten_lineRows (v : EditView) (width : ℕ) : (v.lineRows width).flatten = v.rows width :=
  List.flatMap_def.symm

/-- The lines have the prompt before the first of them, and the gutter before the others. -/
theorem guttered_eq (v : EditView) : v.guttered = (highlight v.text v.scheme).mapIdx fun i line =>
    ⟨if i = 0 then v.prompt else v.continuationGutter, v.promptStyle⟩ :: line := by
  rw [guttered]
  cases highlight v.text v.scheme with
  | nil => rfl
  | cons first others =>
    rw [List.mapIdx_cons]
    refine congrArg _ (List.ext_getElem ?_ fun i _ _ => ?_)
    · rw [List.length_map, List.length_mapIdx]
    · rw [List.getElem_map, List.getElem_mapIdx, if_neg (Nat.succ_ne_zero i)]

/-- The rows are those of the lines, one line after the other. The rows of a line hold its
characters in order, each in its style, with the prompt or the gutter before them. Each of them
fits on the screen, or holds just one character that takes columns, and its successor begins with a
character that would not have fitted on it. The gutter is as wide as the prompt. -/
theorem rows_wrap (v : EditView) (width : ℕ) :
    v.rows width = (v.lineRows width).flatten ∧
    List.Forall₂ (fun (line : StyledLine) (rows : List StyledLine) =>
      StyledLine.characters rows.flatten = line.characters ∧
      Fills (max width 1) line.text (rows.map StyledLine.text))
      ((highlight v.text v.scheme).mapIdx fun i line =>
        ⟨if i = 0 then v.prompt else v.continuationGutter, v.promptStyle⟩ :: line)
      (v.lineRows width) ∧
    Text.width v.continuationGutter = v.gutterWidth := by
  refine ⟨(flatten_lineRows v width).symm, ?_, width_continuationGutter v⟩
  -- each line is broken by itself, with its gutter in front
  rw [← guttered_eq, lineRows, List.forall₂_map_right_iff]
  refine List.forall₂_same.2 fun line _ => ⟨characters_breakRow _ _ line, ?_⟩
  rw [map_text_breakRow]
  exact fills_breakText _ line.text

end EditView
end StatementReader
