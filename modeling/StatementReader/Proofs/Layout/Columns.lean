import Mathlib.Algebra.Order.Floor.Div
import Mathlib.Data.List.DropRight
import Mathlib.Order.Bounds.Basic
import StatementReader.Layout.Columns

/-!
# Columns

A table of texts is cut into rows of a fixed length (`getElem?_chunks`), and a row is made of cells
that all take up one column (`FillsColumn`). So a cell starts where the cells before it end, at a
multiple of the column width, whatever the texts hold. The texts need not take as many columns as
they have characters, and may take none.

Only the end of a row is different. It is cut off where it is blank (`Trims`), which may take away
the end of the last text and even whole texts. That is what keeps a table within the width. If two
columns fit, all cells of a row do. If they do not, a row has a single text, and the blanks that
fill up its cell are cut off again.
-/

namespace StatementReader.Columns

open Text

/-- A cell that takes up one column: a text with blanks after it. -/
def FillsColumn (column : ℕ) (t cell : Text) : Prop :=
  (∃ n, cell = t ++ List.replicate n ' ') ∧ width cell = column

/-- A row is another one without the blank space at its end. -/
def Trims (full row : Text) : Prop :=
  ∃ blank, full = row ++ blank ∧ isAllBlank blank ∧ ∀ c ∈ row.getLast?, isBlank c = false

/-! ### The end of a row -/

/-- Blanks are taken from the end of a row. -/
theorem trims_trimEnd (t : Text) : Trims t (trimEnd t) := by
  refine ⟨t.rtakeWhile isBlank, ?_, ?_, ?_⟩
  · exact List.rdropWhile_append_rtakeWhile.symm
  · exact List.all_eq_true.2 fun c hc => List.mem_rtakeWhile_imp hc
  · intro c hc
    change c ∈ (t.rdropWhile isBlank).getLast? at hc
    obtain ⟨hne, rfl⟩ := List.mem_getLast?_eq_getLast hc
    exact eq_false_of_ne_true (List.rdropWhile_last_not isBlank t hne)

/-- A row that has been trimmed is no wider. -/
theorem Trims.width_le {full row : Text} (h : Trims full row) : width row ≤ width full := by
  obtain ⟨blank, rfl, -, -⟩ := h
  rw [width_append]
  exact Nat.le_add_right _ _

/-- Blanks after a text are cut off with the end of the text, so that the row is no wider. -/
theorem Trims.width_le_of_replicate {t row : Text} {n : ℕ}
    (h : Trims (t ++ List.replicate n ' ') row) : width row ≤ width t := by
  obtain ⟨blank, hfull, -, hlast⟩ := h
  rcases List.append_eq_append_iff.1 hfull with ⟨rest, rfl, hrest⟩ | ⟨rest, rfl, -⟩
  · -- a row that is longer than the text would end with a blank
    have hblank : ∀ c ∈ rest, c = ' ' := by
      intro c hc
      exact List.eq_of_mem_replicate (hrest ▸ List.mem_append_left blank hc)
    have hnil : rest = [] := by
      by_contra hne
      have hc : rest.getLast hne = ' ' := hblank _ (List.getLast_mem hne)
      have hend : ' ' ∈ (t ++ rest).getLast? := by
        rw [List.getLast?_append_of_ne_nil _ hne, List.getLast?_eq_getLast_of_ne_nil hne, hc]
        rfl
      exact absurd (hlast ' ' hend) (by decide)
    rw [hnil, List.append_nil]
  · -- a row that is no longer than the text is a beginning of it
    rw [width_append]
    exact Nat.le_add_right _ _

/-! ### Cells -/

/-- Every blank has one column. -/
theorem width_replicate_blank (n : ℕ) : width (List.replicate n ' ') = n := by
  have hblank : charWidth ' ' = 1 := by decide
  induction n with
  | zero => rfl
  | succ n ih => rw [List.replicate_succ, width_cons, ih, hblank, Nat.add_comm]

/-- A text that is padded fills its column. -/
theorem fillsColumn_padTo {column : ℕ} {t : Text} (h : width t ≤ column) :
    FillsColumn column t (padTo column t) := by
  refine ⟨⟨_, rfl⟩, ?_⟩
  rw [padTo, width_append, width_replicate_blank, Nat.add_sub_of_le h]

/-- Each cell takes up one column. -/
theorem width_flatten {column : ℕ} {items cells : List Text}
    (h : List.Forall₂ (FillsColumn column) items cells) :
    width cells.flatten = cells.length * column := by
  induction h with
  | nil => exact (Nat.zero_mul column).symm
  | cons hcell _ ih =>
    rw [List.flatten_cons, width_append, hcell.2, ih, List.length_cons, Nat.succ_mul, Nat.add_comm]

/-! ### The widest text -/

/-- The widest text of a list is as wide as one of them, and none is wider. -/
theorem isGreatest_widest {items : List Text} (h : items ≠ []) :
    IsGreatest {w | ∃ t ∈ items, width t = w} (widest items) := by
  obtain ⟨first, others, rfl⟩ := List.exists_cons_of_ne_nil h
  have hmax : ((first :: others).map width).max? = some (widest (first :: others)) := by
    rw [List.map_cons, List.max?_cons', widest, List.map_cons, List.foldl_cons, Nat.zero_max]
  obtain ⟨hmem, hle⟩ := List.max?_eq_some_iff.1 hmax
  refine ⟨List.mem_map.1 hmem, ?_⟩
  rintro w ⟨t, ht, rfl⟩
  exact hle (width t) (List.mem_map_of_mem ht)

/-! ### Rows -/

/-- The pieces that a list is cut into are its parts of a fixed length, up to its end. -/
theorem getElem?_chunks {α : Type} {length count : ℕ} (hlength : 0 < length) {items : List α}
    (hcount : items.length ≤ count) (r : ℕ) : (chunks length count items)[r]? =
      if r * length < items.length then some ((items.drop (r * length)).take length) else none := by
  induction count generalizing items r with
  | zero =>
    obtain rfl : items = [] := List.length_eq_zero_iff.1 (Nat.le_zero.1 hcount)
    rfl
  | succ count ih =>
    cases items with
    | nil => rfl
    | cons first others =>
      change ((first :: others).take length ::
        chunks length count ((first :: others).drop length))[r]? = _
      cases r with
      | zero => simp
      | succ r =>
        -- a piece takes at least one item away, so the bound holds for what is left
        have hleft : ((first :: others).drop length).length ≤ count := by
          rw [List.length_drop]
          omega
        have hindex : r * length < (first :: others).length - length ↔
            (r + 1) * length < (first :: others).length := by
          rw [Nat.succ_mul]
          omega
        have hoffset : length + r * length = (r + 1) * length := by
          rw [Nat.succ_mul, Nat.add_comm]
        rw [List.getElem?_cons_succ, ih hleft, List.drop_drop, List.length_drop, hoffset,
          if_congr hindex rfl rfl]

/-- The cells of the row with an index. -/
def cells (items : List Text) (width r : ℕ) : List Text :=
  ((items.drop (r * perRow items width)).take (perRow items width)).map (padTo (columnWidth items))

/-- A row has the cells that fall into it. -/
theorem getElem?_rows (items : List Text) (width r : ℕ) : (rows items width)[r]? =
    if r * perRow items width < items.length then some (trimEnd (cells items width r).flatten)
    else none := by
  have hpos : 0 < perRow items width := Nat.lt_of_lt_of_le Nat.one_pos (Nat.le_max_left _ _)
  rw [rows, List.getElem?_map, getElem?_chunks hpos (Nat.le_refl _), apply_ite (Option.map _)]
  simp only [Option.map_some, Option.map_none, cells, List.flatMap_def]

/-- There are as many rows as are needed for all the texts. -/
theorem length_rows (items : List Text) (width : ℕ) :
    (rows items width).length = items.length ⌈/⌉ perRow items width := by
  have hpos : 0 < perRow items width := Nat.lt_of_lt_of_le Nat.one_pos (Nat.le_max_left _ _)
  refine eq_of_forall_ge_iff fun r => ?_
  -- a row has an index if and only if a text is left for it
  rw [← List.getElem?_eq_none_iff, getElem?_rows, ceilDiv_le_iff_le_mul hpos, Nat.mul_comm]
  split <;> simp_all

/-- No text is wider than the widest one. -/
theorem width_le_widest {items : List Text} {t : Text} (h : t ∈ items) :
    Text.width t ≤ widest items :=
  (isGreatest_widest (List.ne_nil_of_mem h)).2 ⟨t, h, rfl⟩

/-- Each cell of a row has its text at the front, and fills its column. -/
theorem forall₂_cells (items : List Text) (width r : ℕ) :
    List.Forall₂ (FillsColumn (columnWidth items))
      ((items.drop (r * perRow items width)).take (perRow items width)) (cells items width r) := by
  rw [cells, List.forall₂_map_right_iff]
  refine List.forall₂_same.2 fun t ht => fillsColumn_padTo ?_
  have hmem : t ∈ items := List.mem_of_mem_drop (List.mem_of_mem_take ht)
  exact (width_le_widest hmem).trans (Nat.le_add_right _ 2)

/-- No row has more cells than there is room for. -/
theorem length_cells_le (items : List Text) (width r : ℕ) :
    (cells items width r).length ≤ perRow items width := by
  rw [cells, List.length_map]
  exact List.length_take_le _ _

/-- Where no column fits, there is a single cell at most, and the blanks in it are cut off. -/
theorem width_row_le_of_narrow {items : List Text} {width r : ℕ} {row : Text}
    (h : Trims (cells items width r).flatten row) (hnarrow : max width 1 < columnWidth items) :
    Text.width row ≤ widest items := by
  have hcells := forall₂_cells items width r
  have hlength := length_cells_le items width r
  have hone : perRow items width = 1 := by
    rw [perRow, Nat.div_eq_of_lt hnarrow]
    rfl
  rw [hone] at hlength hcells
  generalize hrow : (items.drop (r * 1)).take 1 = rowItems at hcells
  generalize cells items width r = rowCells at h hlength hcells
  -- there is one cell in a row at most
  cases hcells with
  | nil => exact h.width_le.trans (Nat.zero_le _)
  | @cons t cell _ others hcell _ =>
    obtain rfl : others = [] := List.length_eq_zero_iff.1 (by simpa using hlength)
    obtain ⟨⟨n, rfl⟩, -⟩ := hcell
    have hmem : t ∈ (items.drop (r * 1)).take 1 := by
      rw [hrow]
      exact List.mem_cons_self
    rw [List.flatten_singleton] at h
    exact h.width_le_of_replicate.trans
      (width_le_widest (List.mem_of_mem_drop (List.mem_of_mem_take hmem)))

/-- Where a column fits, a row takes up only as many as fit. -/
theorem width_row_le_of_fits {items : List Text} {width r : ℕ} {row : Text}
    (h : Trims (cells items width r).flatten row) (hfits : columnWidth items ≤ max width 1) :
    Text.width row ≤ width := by
  have hper : perRow items width = max width 1 / columnWidth items := by
    rw [perRow, Nat.max_eq_right]
    exact (Nat.one_le_div_iff (Nat.succ_pos _)).2 hfits
  -- a column is two wide at least, so a screen of no width would have none
  have hwidth : max width 1 = width := by
    rw [columnWidth] at hfits
    omega
  calc Text.width row
    _ ≤ Text.width (cells items width r).flatten := h.width_le
    _ = (cells items width r).length * columnWidth items :=
      width_flatten (forall₂_cells items width r)
    _ ≤ max width 1 / columnWidth items * columnWidth items :=
      Nat.mul_le_mul_right _ ((length_cells_le items width r).trans_eq hper)
    _ ≤ max width 1 := Nat.div_mul_le_self _ _
    _ = width := hwidth

/-- A row is no wider than the screen, or than the widest text. -/
theorem width_row_le {items : List Text} {width r : ℕ} {row : Text}
    (h : Trims (cells items width r).flatten row) : Text.width row ≤ max width (widest items) := by
  rcases Nat.lt_or_ge (max width 1) (columnWidth items) with hnarrow | hfits
  · exact le_max_of_le_right (width_row_le_of_narrow h hnarrow)
  · exact le_max_of_le_left (width_row_le_of_fits h hfits)

/-- Texts are laid out in columns that are two wider than the widest text. There are as many rows as
are needed for the number of texts that have room on one, which is at least one. A row consists of
the texts whose turn it is, each with blanks that fill up its column, so that each text starts at a
multiple of the column width; then the blank space at its end is cut off. No row is wider than the
screen, unless it has a single text that is. -/
theorem rows_aligned {items : List Text} {width w column perRow : ℕ}
    (hwidest : IsGreatest {w | ∃ t ∈ items, Text.width t = w} w) (hcolumn : column = w + 2)
    (hperRow : perRow = max 1 (max width 1 / column)) :
    (rows items width).length = items.length ⌈/⌉ perRow ∧
    ∀ r row, (rows items width)[r]? = some row → ∃ cells : List Text,
      List.Forall₂ (FillsColumn column) ((items.drop (r * perRow)).take perRow) cells ∧
      (∀ i ≤ cells.length, Text.width (cells.take i).flatten = i * column) ∧
      Trims cells.flatten row ∧ Text.width row ≤ max width w := by
  have hne : items ≠ [] := by
    -- the widest item is one of them, so there are items
    obtain ⟨⟨t, ht, -⟩, -⟩ := hwidest
    exact List.ne_nil_of_mem ht
  obtain rfl : w = widest items := hwidest.unique (isGreatest_widest hne)
  obtain rfl : column = columnWidth items := hcolumn
  obtain rfl : perRow = Columns.perRow items width := hperRow
  refine ⟨length_rows items width, ?_⟩
  intro r row hrow
  have hcells := forall₂_cells items width r
  have htrims : Trims (cells items width r).flatten row := by
    rw [getElem?_rows] at hrow
    split at hrow
    · obtain rfl := Option.some.inj hrow
      exact trims_trimEnd _
    · cases hrow
  refine ⟨cells items width r, hcells, ?_, htrims, width_row_le htrims⟩
  intro i hi
  -- each cell fills the column, so their number alone decides where the next one begins
  have htake := width_flatten (List.forall₂_take i hcells)
  rwa [List.length_take, Nat.min_eq_left hi] at htake

/-- Two columns of six fit on a screen of thirteen. A wide text takes four of the first, and the
blank at the end of the text in the second is cut off. -/
theorem rows_aligned_wide :
    let items := ["日本".toList, "a ".toList, [], "e\u0301".toList, "max".toList]
    IsGreatest {w | ∃ t ∈ items, Text.width t = w} 4 ∧
    (rows items 13).length = 5 ⌈/⌉ 2 ∧
    ∃ cells, List.Forall₂ (FillsColumn 6) ["日本".toList, "a ".toList] cells ∧
      Trims cells.flatten "日本  a".toList ∧ Text.width "日本  a".toList ≤ 13 := by
  intro items
  have hwidest : IsGreatest {w | ∃ t ∈ items, Text.width t = w} 4 := by
    have hfour : widest items = 4 := by decide +kernel
    rw [← hfour]
    exact isGreatest_widest (List.cons_ne_nil _ _)
  obtain ⟨hlength, hrows⟩ := @rows_aligned items 13 4 6 2 hwidest rfl (by decide)
  have hrow : (rows items 13)[0]? = some "日本  a".toList := by decide +kernel
  obtain ⟨cells, hcells, -, htrims, hle⟩ := hrows 0 _ hrow
  exact ⟨hwidest, hlength, cells, hcells, htrims, hle⟩

end StatementReader.Columns
