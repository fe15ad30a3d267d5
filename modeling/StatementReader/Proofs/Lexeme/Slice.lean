import StatementReader.Proofs.Lexeme.Excerpt
import StatementReader.Proofs.Text.Append

/-!
# A slice of a text

The part of a text from the beginning of one lexeme to the end of another is cut into the lexemes
from the one to the other, and so each lexeme alone is cut into itself. Only a stray quote must not
be among them. It is stray because of what comes after it, and alone it opens a literal.

The text from the beginning of a lexeme on is the excerpt of `Excerpt.lean` without the blank space
in front of it, so the lexemes are the same but for the gap of the first one.
-/

namespace StatementReader
namespace Lexeme

open Text

variable {offset : Nat} {s t : Text} {l : Lexeme} {before m rest : List Lexeme}

/-- The text of a row of lexemes, without the blank space before the first. -/
def extent : List Lexeme → Text
  | [] => []
  | l :: m => l.text ++ join m

theorem join_eq_gap_append (l : Lexeme) (m : List Lexeme) :
    join (l :: m) = l.gap ++ extent (l :: m) :=
  join_cons l m

/-! ### The place of a row of lexemes -/

/-- A lexeme ends where the row of the lexemes up to it does. -/
theorem stop_eq (h : scanFrom offset s = before ++ l :: rest) :
    l.stop = offset + size (join (before ++ [l])) := by
  rw [stop, start_eq h]
  simp [Nat.add_assoc]

/-- The last lexeme of a row ends where the text of the row does. -/
theorem stop_getLast (h : scanFrom offset s = before ++ (l :: m ++ rest)) :
    ((l :: m).getLast (List.cons_ne_nil l m)).stop = l.start + size (extent (l :: m)) := by
  set last := (l :: m).getLast (List.cons_ne_nil l m)
  have hrow : (l :: m).dropLast ++ [last] = l :: m :=
    List.dropLast_append_getLast (List.cons_ne_nil l m)
  have hlast : scanFrom offset s = (before ++ (l :: m).dropLast) ++ last :: rest := by
    rw [h, ← hrow]
    simp
  -- the last lexeme stops where all that comes up to it ends
  calc last.stop
      = offset + size (join (before ++ ((l :: m).dropLast ++ [last]))) := by
        rw [stop_eq hlast, List.append_assoc]
    _ = l.start + size (extent (l :: m)) := by
        rw [hrow, start_eq h, join_append, join_eq_gap_append]
        simp only [size_append, Nat.add_assoc]

/-- The part of a text from the beginning of a lexeme to the end of a later one, or of the same. -/
theorem slice_eq_extent (h : scan t = before ++ (l :: m ++ rest)) :
    slice l.start ((l :: m).getLast (List.cons_ne_nil l m)).stop t = extent (l :: m) := by
  have hstart : l.start = size (join before ++ l.gap) := by
    rw [start_eq h, size_append, Nat.zero_add]
  have hrow : scan t = (before ++ l :: m) ++ rest := by rw [h, List.append_assoc]
  obtain ⟨r, ht, -⟩ := exists_eq_join_append hrow
  have hsplit : t = (join before ++ l.gap) ++ (extent (l :: m) ++ r) := by
    rw [ht, join_append, join_eq_gap_append]
    simp only [List.append_assoc]
  rw [stop_getLast h, hstart, hsplit]
  exact slice_size_append ..

/-- A lexeme is the part of the text at its place. -/
theorem slice_start_stop (h : l ∈ scan t) : slice l.start l.stop t = l.text := by
  obtain ⟨before, rest, hscan⟩ := List.append_of_mem h
  have hrow : scan t = before ++ ([l] ++ rest) := hscan
  calc slice l.start l.stop t
      = extent [l] := slice_eq_extent hrow
    _ = l.text := List.append_nil l.text

/-! ### The lexemes of a row that stands alone -/

/-- The blank space in front of a row of lexemes belongs to the first of them. -/
theorem widenGap_scan_extent (h : scanFrom offset s = before ++ (l :: m ++ rest))
    (hm : ∀ x ∈ l :: m, ¬ x.isStray) :
    widenGap l.gap ((scan (extent (l :: m))).map (shift l.start)) = l :: m := by
  obtain ⟨c, u, -, hblank, -⟩ := exists_cut h
  obtain ⟨r, -, hr⟩ := exists_eq_join_append h
  obtain ⟨r', hrr', -⟩ := exists_eq_join_append hr
  -- the row with its gap, and with no blank space after it
  have halone := scanFrom_join hr hrr' List.nil_prefix (fun c hc => (List.not_mem_nil hc).elim) hm
  rw [List.append_nil, join_eq_gap_append, scanFrom_append_of_blank hblank, ← start_eq h] at halone
  rwa [scan_map_shift]

/-- The lexemes of an excerpt without the blank space before it are those of the text, but for their
offsets. -/
theorem scan_extent (h : scanFrom offset s = before ++ (l :: m ++ rest))
    (hm : ∀ x ∈ l :: m, ¬ x.isStray) :
    (scan (extent (l :: m))).map (shift l.start) = { l with gap := [] } :: m := by
  have halone := widenGap_scan_extent h hm
  -- the blank space is all there is between the first lexeme and what stands before it
  cases hscan : (scan (extent (l :: m))).map (shift l.start) with
  | nil =>
    rw [hscan] at halone
    cases halone
  | cons x xs =>
    rw [hscan, widenGap] at halone
    obtain ⟨hx, rfl⟩ := List.cons.inj halone
    have hxgap : l.gap ++ x.gap = l.gap ++ [] := by
      rw [List.append_nil]
      exact congrArg Lexeme.gap hx
    have hxnil : x.gap = [] := List.append_cancel_left hxgap
    rw [← hx, ← hxnil]

/-- A lexeme alone is cut into itself. -/
theorem scan_text (h : l ∈ scan t) (hl : ¬ l.isStray) :
    scan l.text = [{ l with gap := [], start := 0 }] := by
  obtain ⟨before, rest, hscan⟩ := List.append_of_mem h
  -- a single lexeme is a row of lexemes like any other, only without its gap
  have hone : (scan (extent [l])).map (shift l.start) = [{ l with gap := [] }] :=
    scan_extent hscan (by simpa using hl)
  have hextent : extent [l] = l.text := List.append_nil l.text
  rw [hextent] at hone
  obtain ⟨x, hx, hshift⟩ := List.map_eq_singleton_iff.1 hone
  -- scanned alone it starts at the beginning
  have hstart : x.start = 0 := by
    have hsum : x.start + l.start = l.start := congrArg Lexeme.start hshift
    omega
  rw [hx, ← hstart]
  obtain ⟨kind, gap, text, start, unterminated⟩ := x
  obtain ⟨rfl, rfl, rfl, -, rfl⟩ := Lexeme.mk.inj hshift
  rfl

/-! ### Slices by index -/

theorem exists_eq_append_extract {α : Type _} {xs : List α} {i j : Nat} (hij : i ≤ j)
    (hj : j < xs.length) : ∃ before m rest, xs = before ++ (xs[i] :: m ++ rest) ∧
      xs.extract i (j + 1) = xs[i] :: m ∧
      (xs[i] :: m).getLast (List.cons_ne_nil _ m) = xs[j] := by
  have hrow : xs.extract i (j + 1) = xs[i] :: (xs.drop (i + 1)).take (j - i) := by
    rw [List.extract_eq_take_drop, List.drop_eq_getElem_cons, Nat.sub_add_comm hij,
      List.take_succ_cons]
  -- the row is what is before the first index, from there to the second one, and behind it
  refine ⟨xs.take i, (xs.drop (i + 1)).take (j - i), xs.drop (j + 1), ?_, hrow, ?_⟩
  · have hlater : xs.drop (j + 1) = (xs.drop i).drop (j + 1 - i) := by
      rw [List.drop_drop, Nat.add_sub_cancel' (by omega)]
    rw [← hrow, List.extract_eq_take_drop, hlater, List.take_append_drop, List.take_append_drop]
  · simp only [← hrow, List.extract_eq_take_drop, List.getLast_eq_getElem, List.getElem_take,
      List.getElem_drop, List.length_take, List.length_drop]
    congr
    omega

/-- The part of a text from the beginning of a lexeme to the end of a later one, or of the same, is
cut into the lexemes from the one to the other, with nothing in front of the first, unless a stray
quote is among them. So each of them is cut into itself if it stands alone. -/
theorem scan_slice {i j : Nat} (hij : i ≤ j) (hj : j < (scan t).length)
    (hstray : ∀ l ∈ (scan t).extract i (j + 1), ¬ l.isStray) :
    widenGap (scan t)[i].gap ((scan (slice (scan t)[i].start (scan t)[j].stop t)).map
      (shift (scan t)[i].start)) = (scan t).extract i (j + 1) ∧
    ∀ l ∈ (scan t).extract i (j + 1), slice l.start l.stop t = l.text ∧
      scan l.text = [{ l with gap := [], start := 0 }] := by
  obtain ⟨before, m, rest, hscan, hrow, hlast⟩ := exists_eq_append_extract hij hj
  rw [hrow] at hstray ⊢
  constructor
  · -- the part of the text is what the lexemes of the row extend over
    rw [← hlast, slice_eq_extent hscan]
    exact widenGap_scan_extent hscan hstray
  · -- each of them is a row by itself
    intro l hl
    have hmem : l ∈ scan t := by
      rw [hscan]
      exact List.mem_append_right before (List.mem_append_left rest hl)
    exact ⟨slice_start_stop hmem, scan_text hmem (hstray l hl)⟩

/-- Between a stray quote and the end of the text, with an operator that ends at a comment, a number
that is followed by a point, and a string that is left open. -/
theorem scan_slice_behind_stray :
    1 ≤ 6 ∧ 6 < (scan "' 1.f +/*-*/ \"x".toList).length ∧
    (∀ l ∈ (scan "' 1.f +/*-*/ \"x".toList).extract 1 7, ¬ l.isStray) ∧
    widenGap [' '] ((scan "1.f +/*-*/ \"x".toList).map (shift 2)) =
      (scan "' 1.f +/*-*/ \"x".toList).extract 1 7 := by
  have hplace : ∀ h : 6 < (scan "' 1.f +/*-*/ \"x".toList).length,
      (scan "' 1.f +/*-*/ \"x".toList)[1].gap = [' '] ∧
      (scan "' 1.f +/*-*/ \"x".toList)[1].start = 2 ∧
      slice 2 (scan "' 1.f +/*-*/ \"x".toList)[6].stop "' 1.f +/*-*/ \"x".toList =
        "1.f +/*-*/ \"x".toList := by decide +kernel
  have hlength : 6 < (scan "' 1.f +/*-*/ \"x".toList).length := by decide +kernel
  have hstray : ∀ l ∈ (scan "' 1.f +/*-*/ \"x".toList).extract 1 7, ¬ l.isStray := by
    decide +kernel
  have hslice := (scan_slice (by decide) hlength hstray).1
  obtain ⟨hgap, hstart, hpart⟩ := hplace hlength
  rw [hgap, hstart, hpart] at hslice
  exact ⟨by decide, hlength, hstray, hslice⟩

/-- A stray quote alone opens a literal. -/
example : (scan "'ab".toList).map (fun l => (l.kind, l.unterminated)) =
    [(.unknown, false), (.ident, false)] ∧
    (scan "'".toList).map (fun l => (l.kind, l.unterminated)) = [(.char, true)] := by
  decide +kernel

end Lexeme
end StatementReader
