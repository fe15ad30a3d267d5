import Mathlib.Data.List.Basic
import StatementReader.Layout.View

/-!
# Rows that go on

What is shown is put together from pieces, each of which may take several rows. The first row of a
piece goes on with the last row of the piece before it (`weld`). So do the lines of a text that is
put together from parts (`splitOn_append`), and therefore the rows can be compared with the text
however it is cut into pieces.
-/

namespace StatementReader.Rows

variable {α β : Type}

/-- Goes on with the last of some rows as the first of others. -/
def weld : List (List α) → List (List α) → List (List α)
  | [], rows => rows
  | rows, [] => rows
  | [last], next :: rows => (last ++ next) :: rows
  | row :: rows, others => row :: weld rows others

@[simp] theorem weld_nil_left (rows : List (List α)) : weld [] rows = rows := by
  cases rows <;> rfl

@[simp] theorem weld_nil_right (rows : List (List α)) : weld rows [] = rows := by
  cases rows <;> rfl

/-- Nothing is changed by a row without anything on it. -/
@[simp] theorem weld_empty_left {rows : List (List α)} (h : rows ≠ []) : weld [[]] rows = rows := by
  obtain ⟨next, rest, rfl⟩ := List.exists_cons_of_ne_nil h
  rfl

theorem weld_cons {rows : List (List α)} (h : rows ≠ []) (row : List α) (others : List (List α)) :
    weld (row :: rows) others = row :: weld rows others := by
  obtain ⟨next, rest, rfl⟩ := List.exists_cons_of_ne_nil h
  cases others <;> simp [weld]

theorem weld_append_cons (init : List (List α)) (last next : List α) (rest : List (List α)) :
    weld (init ++ [last]) (next :: rest) = init ++ (last ++ next) :: rest := by
  induction init with
  | nil => rfl
  | cons row init ih =>
    rw [List.cons_append, weld_cons (List.concat_ne_nil last init), ih]
    rfl

/-- What is done to each row alone can be done before the rows are put together. -/
theorem map_weld {f : List α → List β} (hf : ∀ s t, f (s ++ t) = f s ++ f t)
    (rows others : List (List α)) :
    (weld rows others).map f = weld (rows.map f) (others.map f) := by
  obtain rfl | ⟨init, last, rfl⟩ := List.eq_nil_or_concat' rows
  · simp
  · cases others with
    | nil => simp
    | cons next rest => simp [weld_append_cons, hf]

/-- A character before the first of the rows. -/
theorem modifyHead_weld {rows others : List (List α)} (h : rows ≠ []) (hothers : others ≠ [])
    (a : α) : weld (rows.modifyHead (a :: ·)) others = (weld rows others).modifyHead (a :: ·) := by
  obtain ⟨row, rows, rfl⟩ := List.exists_cons_of_ne_nil h
  obtain ⟨next, rest, rfl⟩ := List.exists_cons_of_ne_nil hothers
  cases rows <;> rfl

/-- Nothing is lost between two rows that are put together. -/
theorem flatten_weld (rows others : List (List α)) :
    (weld rows others).flatten = rows.flatten ++ others.flatten := by
  obtain rfl | ⟨init, last, rfl⟩ := List.eq_nil_or_concat' rows
  · rw [weld_nil_left, List.flatten_nil, List.nil_append]
  · cases others with
    | nil => rw [weld_nil_right, List.flatten_nil, List.append_nil]
    | cons next rest => simp [weld_append_cons]

theorem length_weld {rows others : List (List α)} (h : rows ≠ []) (hothers : others ≠ []) :
    (weld rows others).length + 1 = rows.length + others.length := by
  obtain hnil | ⟨init, last, rfl⟩ := List.eq_nil_or_concat' rows
  · exact absurd hnil h
  · obtain ⟨next, rest, rfl⟩ := List.exists_cons_of_ne_nil hothers
    simp only [weld_append_cons, List.length_append, List.length_cons, List.length_nil]
    omega

/-- Rows that correspond one by one still do so when they are put together with others. -/
theorem forall₂_weld {R : List α → List β → Prop}
    (hR : ∀ {s t s' t'}, R s t → R s' t' → R (s ++ s') (t ++ t')) {rows others : List (List α)}
    {rows' others' : List (List β)} (h : List.Forall₂ R rows rows')
    (hothers : List.Forall₂ R others others') :
    List.Forall₂ R (weld rows others) (weld rows' others') := by
  -- only the last of the first rows meets one of the others
  induction h with
  | nil => rwa [weld_nil_left, weld_nil_left]
  | @cons row row' rows rows' hrow hrows ih =>
    cases hrows with
    | nil =>
      cases hothers with
      | nil => exact .cons hrow .nil
      | cons hnext hrest => exact .cons (hR hrow hnext) hrest
    | cons hnext hrest =>
      rw [weld_cons (List.cons_ne_nil _ _), weld_cons (List.cons_ne_nil _ _)]
      exact .cons hrow ih

/-- The pieces of two lists that are put together. -/
theorem splitOnP_append (p : α → Bool) (s t : List α) :
    (s ++ t).splitOnP p = weld (s.splitOnP p) (t.splitOnP p) := by
  have ht := List.splitOnP_ne_nil p t
  induction s with
  | nil => exact (weld_empty_left ht).symm
  | cons b s ih =>
    have hs := List.splitOnP_ne_nil p s
    rw [List.cons_append, List.splitOnP_cons_eq_if_modifyHead,
      List.splitOnP_cons_eq_if_modifyHead, ih]
    -- a character that ends a piece begins a new row, and any other goes before the first one
    split
    · rw [weld_cons hs]
    · rw [modifyHead_weld hs ht]

/-- The lines of two texts that are put together. -/
theorem splitOn_append [BEq α] (a : α) (s t : List α) :
    (s ++ t).splitOn a = weld (s.splitOn a) (t.splitOn a) := splitOnP_append (· == a) s t

/-- What decides on the pieces may be looked up in other elements. -/
theorem splitOnP_map (p : β → Bool) (f : α → β) (s : List α) :
    (s.map f).splitOnP p = (s.splitOnP (p ∘ f)).map (List.map f) := by
  induction s with
  | nil => rfl
  | cons a s ih =>
    rw [List.map_cons, List.splitOnP_cons_eq_if_modifyHead, List.splitOnP_cons_eq_if_modifyHead, ih]
    obtain ⟨first, others, hsplit⟩ :=
      List.exists_cons_of_ne_nil (List.splitOnP_ne_nil (p ∘ f) s)
    rw [hsplit, Function.comp_apply]
    split <;> rfl

theorem subset_of_mem_splitOn [BEq α] {a : α} {line t : List α} (h : line ∈ t.splitOn a) :
    line ⊆ t := by
  induction t generalizing line with
  | nil =>
    rw [List.splitOn_nil, List.mem_singleton] at h
    rw [h]
    exact List.nil_subset _
  | cons b t ih =>
    unfold List.splitOn at ih h
    rw [List.splitOnP_cons_eq_if_modifyHead] at h
    split at h
    · obtain rfl | h := List.mem_cons.1 h
      · exact List.nil_subset _
      · exact List.subset_cons_of_subset b (ih h)
    · -- another element than the separator joins the first line of the rest
      obtain ⟨first, others, hsplit⟩ := List.exists_cons_of_ne_nil (List.splitOn_ne_nil a t)
      unfold List.splitOn at hsplit
      rw [hsplit, List.modifyHead_cons] at h
      rw [hsplit] at ih
      obtain rfl | h := List.mem_cons.1 h
      · exact List.cons_subset_cons b (ih List.mem_cons_self)
      · exact List.subset_cons_of_subset b (ih (List.mem_cons_of_mem first h))

/-- No line contains what ends it. -/
theorem notMem_of_mem_splitOn [BEq α] [LawfulBEq α] {a : α} {line t : List α}
    (h : line ∈ t.splitOn a) : a ∉ line := by
  induction t generalizing line with
  | nil =>
    rw [List.splitOn_nil, List.mem_singleton] at h
    rw [h]
    exact List.not_mem_nil
  | cons b t ih =>
    unfold List.splitOn at ih h
    rw [List.splitOnP_cons_eq_if_modifyHead] at h
    split at h
    · obtain rfl | h := List.mem_cons.1 h
      · exact List.not_mem_nil
      · exact ih h
    · next hb =>
      -- the element goes to the first of the lines, and it is not what ends them
      obtain ⟨first, others, hsplit⟩ := List.exists_cons_of_ne_nil (List.splitOnP_ne_nil (· == a) t)
      rw [hsplit, List.modifyHead_cons] at h
      rw [hsplit] at ih
      obtain rfl | h := List.mem_cons.1 h
      · rintro (_ | ⟨_, hmem⟩)
        · exact hb (beq_self_eq_true a)
        · exact ih List.mem_cons_self hmem
      · exact ih (List.mem_cons_of_mem first h)

/-- Rows of styled text are put together in this way. -/
theorem joinRows_eq (rows others : List StyledLine) :
    StyledLine.joinRows rows others = weld rows others := by
  obtain rfl | ⟨init, last, rfl⟩ := List.eq_nil_or_concat' rows
  · cases others <;> rfl
  · induction init with
    | nil => cases others <;> rfl
    | cons row init ih =>
      rw [List.cons_append, weld_cons (List.concat_ne_nil last init), ← ih]
      cases others <;> cases init <;> rfl

end StatementReader.Rows
