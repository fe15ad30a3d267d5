import Mathlib.Data.List.DropRight
import StatementReader.Proofs.Layout.Rows
import StatementReader.Proofs.Lexeme.Cover

/-!
# The highlighted lines

Highlighting cuts a text twice: at the lexemes, each of which has a style, and at the line breaks.
To compare the rows with the text, every character is taken together with its style. Then the parts
of the text are the text again, each character in the style of the lexeme that covers it
(`styled_segments`), and the rows of the parts are what is left of the lines of that text when some
carriage returns are dropped (`forall₂_dropsReturns`). Neither of the two looks at the other cut,
so a lexeme of several lines needs no care.

Hence each line of the text is shown in a row of its own (`forall₂_shows`), with its own text if
there are no carriage returns (`map_text_highlight`), and in the styles of its lexemes
(`highlight_styled`).
-/

namespace StatementReader

/-- The characters of a row, each with its style. -/
def StyledLine.characters (line : StyledLine) : List (Char × Style) :=
  line.flatMap fun span => span.text.map (·, span.style)

/-- The bytes of a lexeme. -/
def Lexeme.Covers (l : Lexeme) (n : ℕ) : Prop := l.start ≤ n ∧ n < l.stop

/-- The style in which a lexeme is shown. -/
def Lexeme.style (scheme : ColorScheme) (l : Lexeme) : Style :=
  scheme.styleFor (Category.of? l.kind l.text)

/-- The second row is the first one without some of its carriage returns. -/
inductive DropsReturns : List (Char × Style) → List (Char × Style) → Prop
  | nil : DropsReturns [] []
  | keep {row kept : List (Char × Style)} (x : Char × Style) :
    DropsReturns row kept → DropsReturns (x :: row) (x :: kept)
  | drop {row kept : List (Char × Style)} (style : Style) :
    DropsReturns row kept → DropsReturns (('\r', style) :: row) kept

/-- A text that begins at an offset, with a style for each of its characters: that of the lexeme
which covers it, or `reset` where there is none. -/
structure Highlight.Styled (scheme : ColorScheme) (lexemes : List Lexeme) (offset : ℕ) (t : Text)
    (cells : List (Char × Style)) : Prop where
  text_eq : cells.map Prod.fst = t
  style_eq : ∀ {p c style r}, cells = p ++ (c, style) :: r →
    (∀ l ∈ lexemes, l.Covers (offset + Text.size (p.map Prod.fst)) → style = l.style scheme) ∧
    ((∀ l ∈ lexemes, ¬ l.Covers (offset + Text.size (p.map Prod.fst))) → style = scheme.reset)

namespace StyledLine

@[simp] theorem text_nil : text [] = [] := rfl

@[simp] theorem text_cons (span : StyledSpan) (line : StyledLine) :
    text (span :: line) = span.text ++ text line := rfl

@[simp] theorem text_append (line other : StyledLine) :
    text (line ++ other) = text line ++ text other := List.flatMap_append

@[simp] theorem text_ofText (style : Style) (t : Text) : text (ofText style t) = t := by
  unfold ofText
  split
  · next h => exact h.symm
  · simp

/-- The texts of joined rows are welded at the line where they meet. -/
theorem map_text_joinRows (rows others : List StyledLine) :
    (joinRows rows others).map text = Rows.weld (rows.map text) (others.map text) := by
  rw [Rows.joinRows_eq, Rows.map_weld text_append]

/-- The characters of two lines follow each other. -/
@[simp] theorem characters_append (line other : StyledLine) :
    characters (line ++ other) = characters line ++ characters other := List.flatMap_append

/-- A text in one style has this style everywhere. -/
@[simp] theorem characters_ofText (style : Style) (t : Text) :
    characters (ofText style t) = t.map (·, style) := by
  unfold ofText
  split
  · next h => rw [h]; rfl
  · exact List.append_nil _

/-- Without their styles the characters are the text. -/
@[simp] theorem map_fst_characters (line : StyledLine) :
    line.characters.map Prod.fst = line.text := by
  simp only [characters, text, List.map_flatMap, List.map_map]
  congr 1
  funext span
  exact List.map_id _

end StyledLine

namespace DropsReturns

variable {row kept row' kept' : List (Char × Style)}

/-- Nothing need be dropped. -/
theorem refl (row : List (Char × Style)) : DropsReturns row row := by
  induction row with
  | nil => exact .nil
  | cons x row ih => exact .keep x ih

/-- What is dropped from two rows is dropped from both together. -/
theorem append (h : DropsReturns row kept) (h' : DropsReturns row' kept') :
    DropsReturns (row ++ row') (kept ++ kept') := by
  induction h with
  | nil => exact h'
  | keep x _ ih => exact .keep x ih
  | drop style _ ih => exact .drop style ih

/-- Nothing but carriage returns is dropped. -/
theorem filter_eq (h : DropsReturns row kept) :
    row.filter (·.1 ≠ '\r') = kept.filter (·.1 ≠ '\r') := by
  induction h with
  | nil => rfl
  | keep x _ ih => rw [List.filter_cons, List.filter_cons, ih]
  | drop style _ ih => rwa [List.filter_cons_of_neg (by simp)]

/-- Without a carriage return nothing is dropped. -/
theorem eq_of_notMem (h : DropsReturns row kept) (hrow : '\r' ∉ row.map Prod.fst) : row = kept := by
  induction h with
  | nil => rfl
  | keep x _ ih => rw [ih fun hmem => hrow (List.mem_cons_of_mem _ hmem)]
  | drop style _ _ => exact absurd List.mem_cons_self hrow

end DropsReturns

namespace Highlight

open Text

variable {scheme : ColorScheme} {offset : ℕ} {s t : Text} {ls : List Lexeme}

/-! ### The parts of a text -/

/-- The characters of some parts of a text, each with its style. -/
def cells (parts : List (Style × Text)) : List (Char × Style) :=
  parts.flatMap fun part => part.2.map (·, part.1)

@[simp] theorem cells_nil : cells [] = [] := rfl

@[simp] theorem cells_cons (part : Style × Text) (parts : List (Style × Text)) :
    cells (part :: parts) = part.2.map (·, part.1) ++ cells parts := rfl

/-- The cells of two rows of parts follow each other. -/
@[simp] theorem cells_append (parts others : List (Style × Text)) :
    cells (parts ++ others) = cells parts ++ cells others := List.flatMap_append

/-- A style changes no character. -/
theorem map_fst_map (style : Style) (t : Text) : (t.map (·, style)).map Prod.fst = t := by
  rw [List.map_map]
  exact List.map_id t

/-- Each character of a text in one style has this style. -/
theorem eq_of_map_eq {style style' : Style} {p r : List (Char × Style)} {c : Char}
    (h : t.map (·, style) = p ++ (c, style') :: r) : style' = style := by
  have hmem : (c, style') ∈ t.map (·, style) := h ▸ List.mem_append_right p List.mem_cons_self
  obtain ⟨d, -, hd⟩ := List.mem_map.1 hmem
  exact (Prod.ext_iff.1 hd).2.symm

namespace Styled

/-- Text without lexemes is not styled. -/
theorem reset (scheme : ColorScheme) (offset : ℕ) (t : Text) :
    Styled scheme [] offset t (t.map (·, scheme.reset)) where
  text_eq := map_fst_map _ t
  style_eq h := ⟨fun _ hl => absurd hl List.not_mem_nil, fun _ => eq_of_map_eq h⟩

/-- A lexeme alone. -/
theorem lexeme (scheme : ColorScheme) (l : Lexeme) :
    Styled scheme [l] l.start l.text (l.text.map (·, l.style scheme)) where
  text_eq := map_fst_map _ l.text
  style_eq {p c style r} h := by
    have hstyle := eq_of_map_eq h
    refine ⟨fun m hm _ => ?_, fun hnone => ?_⟩
    · rw [hstyle, List.mem_singleton.1 hm]
    · -- the lexeme covers all of its characters
      have hsize := congrArg (size ∘ List.map Prod.fst) h
      have hpos := c.utf8Size_pos
      simp only [Function.comp_apply, map_fst_map, List.map_append, List.map_cons, size_append,
        size_cons] at hsize
      exact absurd ⟨Nat.le_add_right _ _, by rw [Lexeme.stop]; omega⟩ (hnone l List.mem_cons_self)

/-- Two texts one behind the other, with the lexemes of each within it. -/
theorem append {ms : List Lexeme} {cs ds : List (Char × Style)} (h : Styled scheme ls offset s cs)
    (h' : Styled scheme ms (offset + size s) t ds) (hls : ∀ l ∈ ls, l.stop ≤ offset + size s)
    (hms : ∀ m ∈ ms, offset + size s ≤ m.start) :
    Styled scheme (ls ++ ms) offset (s ++ t) (cs ++ ds) := by
  -- a character is in one of the two texts, and a lexeme does not reach into the other
  refine ⟨by rw [List.map_append, h.text_eq, h'.text_eq], ?_⟩
  intro p c style r hcells
  rcases append_eq_append_cons hcells with ⟨zs, hcs⟩ | ⟨q, rfl, hds⟩
  · -- in the first text, where the lexemes of the second do not reach
    obtain ⟨hinside, houtside⟩ := h.style_eq hcs
    have hsize : size (p.map Prod.fst) < size s := by
      have hpos : 0 < (c, style).1.utf8Size := c.utf8Size_pos
      rw [← h.text_eq, hcs, List.map_append, List.map_cons, size_append, size_cons]
      omega
    refine ⟨fun l hl hcovers => ?_, fun hnone => ?_⟩
    · rcases List.mem_append.1 hl with hl | hl
      · exact hinside l hl hcovers
      · have hfrom := hms l hl
        have hcovered := hcovers.1
        omega
    · exact houtside fun l hl => hnone l (List.mem_append_left ms hl)
  · -- in the second text, behind the lexemes of the first
    obtain ⟨hinside, houtside⟩ := h'.style_eq hds
    have hplace : offset + size ((cs ++ q).map Prod.fst) =
        offset + size s + size (q.map Prod.fst) := by
      rw [List.map_append, h.text_eq, size_append, Nat.add_assoc]
    rw [hplace]
    refine ⟨fun l hl hcovers => ?_, fun hnone => ?_⟩
    · rcases List.mem_append.1 hl with hl | hl
      · have hto := hls l hl
        have hcovered := hcovers.2
        omega
      · exact hinside l hl hcovers
    · exact houtside fun l hl => hnone l (List.mem_append_right ls hl)

end Styled

/-- The gaps and lexemes that stand before some text, with their styles. -/
theorem styled_cells (scheme : ColorScheme) (h : Lexeme.scanFrom offset s = ls)
    (hs : s = Lexeme.join ls ++ t) :
    Styled scheme ls offset s (cells (ls.flatMap fun l =>
      [(scheme.reset, l.gap), (l.style scheme, l.text)]) ++ t.map (·, scheme.reset)) := by
  -- along the row of lexemes, where what is left of the text begins behind the last one taken
  induction ls generalizing offset s with
  | nil =>
    obtain rfl : s = t := hs
    exact .reset scheme offset s
  | cons l ls ih =>
    obtain ⟨gap, c, u, hsplit, -, -, hl, hrest⟩ := Lexeme.scanFrom_eq_cons_iff.1 h
    have hstart : l.start = offset + size l.gap := by rw [hl]
    have hlater : ∀ m ∈ ls, l.stop ≤ m.start := fun m hm => Lexeme.le_start_of_mem (hrest ▸ hm)
    -- the gap and the lexeme are what is taken off at the front
    have hbehind : (Lexeme.cut c u).rest = Lexeme.join ls ++ t := by
      rw [hsplit, ← (Lexeme.splits_cut c u).taken_append_rest, hl, Lexeme.join_cons,
        List.append_assoc, List.append_assoc] at hs
      exact List.append_cancel_left (List.append_cancel_left hs)
    have htail := ih hrest hbehind
    have hfront :
        Styled scheme (l :: ls) (offset + size l.gap) (l.text ++ (Lexeme.cut c u).rest) _ :=
      hstart ▸ (Styled.lexeme scheme l).append htail (by simp [Lexeme.stop]) hlater
    rw [hs, Lexeme.join_cons, List.append_assoc, List.append_assoc, ← hbehind, List.flatMap_cons,
      cells_append, cells_cons, cells_cons, cells_nil, List.append_nil, List.append_assoc,
      List.append_assoc]
    refine (Styled.reset scheme offset l.gap).append hfront
      (fun _ hm => absurd hm List.not_mem_nil) ?_
    -- no lexeme reaches back into the gap
    intro m hm
    rcases List.mem_cons.1 hm with rfl | hm
    · exact hstart.ge
    · have hfrom := hlater m hm
      rw [Lexeme.stop] at hfrom
      omega

/-- The last lexeme stops where the lexemes together do. -/
theorem stop_getLast?_scan (t : Text) : (Lexeme.scan t).getLast?.elim 0 Lexeme.stop =
    Text.size (Lexeme.join (Lexeme.scan t)) := by
  obtain hnil | ⟨ls, l, hls⟩ := List.eq_nil_or_concat' (Lexeme.scan t)
  · rw [hnil]
    rfl
  · obtain ⟨r, -, hr⟩ := Lexeme.exists_eq_join_append hls
    obtain ⟨gap, c, s, -, -, -, rfl, -⟩ := Lexeme.scanFrom_eq_cons_iff.1 hr
    rw [hls, List.getLast?_concat]
    simp [Lexeme.stop, Nat.add_assoc]

/-- Every character of the parts has the style of the lexeme that covers it. -/
theorem styled_segments (scheme : ColorScheme) (t : Text) :
    Styled scheme (Lexeme.scan t) 0 t (cells (segments scheme t)) := by
  obtain ⟨r, ht, -⟩ := Lexeme.exists_eq_join_append (List.append_nil (Lexeme.scan t)).symm
  have hbeyond : beyond (size (Lexeme.join (Lexeme.scan t))) t = r :=
    (congrArg (beyond _) ht).trans (beyond_size_append _ r)
  have hcells := styled_cells scheme (rfl : Lexeme.scanFrom 0 t = Lexeme.scan t) ht
  rw [segments, stop_getLast?_scan, hbeyond, cells_append, cells_cons, cells_nil, List.append_nil]
  exact hcells

/-! ### The rows of the parts -/

/-- Dropping carriage returns from the end of a line drops nothing else. -/
theorem dropsReturns_dropEndWhile (piece : Text) (style : Style) :
    DropsReturns (piece.map (·, style)) ((dropEndWhile (· == '\r') piece).map (·, style)) := by
  induction piece using List.reverseRecOn with
  | nil => exact .nil
  | append_singleton piece c ih =>
    have hconcat : dropEndWhile (· == '\r') (piece ++ [c]) =
        if c == '\r' then dropEndWhile (· == '\r') piece else piece ++ [c] :=
      List.rdropWhile_concat _ piece c
    rw [hconcat]
    split
    · next hc =>
      -- one more return at the end
      rw [List.map_append, ← List.append_nil (List.map _ (dropEndWhile _ piece)), eq_of_beq hc]
      exact ih.append (.drop style .nil)
    · exact .refl _

/-- The rows of a text are its lines, but for carriage returns. -/
theorem forall₂_rowsOf (style : Style) (s : Text) :
    List.Forall₂ DropsReturns ((s.map (·, style)).splitOnP (·.1 == '\n'))
      ((rowsOf style s).map StyledLine.characters) := by
  rw [Rows.splitOnP_map, rowsOf, List.map_map, List.forall₂_map_left_iff,
    List.forall₂_map_right_iff]
  refine List.forall₂_same.2 fun piece _ => ?_
  rw [Function.comp_apply, StyledLine.characters_ofText]
  exact dropsReturns_dropEndWhile piece style

/-- The rows of some parts of a text. -/
theorem forall₂_dropsReturns (parts : List (Style × Text)) :
    List.Forall₂ DropsReturns ((cells parts).splitOnP (·.1 == '\n'))
      ((parts.foldr (fun part rows => StyledLine.joinRows (rowsOf part.1 part.2) rows) [[]]).map
        StyledLine.characters) := by
  induction parts with
  | nil => exact .cons .nil .nil
  | cons part parts ih =>
    -- the last line of a part and the first one of the others are one line
    rw [List.foldr_cons, Rows.joinRows_eq, Rows.map_weld StyledLine.characters_append, cells_cons,
      Rows.splitOnP_append]
    exact Rows.forall₂_weld .append (forall₂_rowsOf part.1 part.2) ih

/-! ### The lines shown -/

/-- A span holds text of one line, and it does not end in a carriage return. -/
theorem span_of_mem_rowsOf {style : Style} {row : StyledLine} {span : StyledSpan}
    (hrow : row ∈ rowsOf style s) (hspan : span ∈ row) :
    span.text ≠ [] ∧ '\n' ∉ span.text ∧ span.text.getLast? ≠ some '\r' := by
  obtain ⟨piece, hpiece, rfl⟩ := List.mem_map.1 hrow
  unfold StyledLine.ofText at hspan
  split at hspan
  · exact absurd hspan List.not_mem_nil
  · next hne =>
    obtain rfl := List.mem_singleton.1 hspan
    -- the piece is one of those that the line feeds separate
    refine ⟨hne, fun hmem => ?_, fun hlast => ?_⟩
    · exact Rows.notMem_of_mem_splitOn hpiece ((List.rdropWhile_prefix _ piece).subset hmem)
    · rw [List.getLast?_eq_some_getLast hne, Option.some_inj] at hlast
      exact List.rdropWhile_last_not _ piece hne (by rw [beq_iff_eq]; exact hlast)

/-- This holds of the spans of a highlighted text too. -/
theorem span_of_mem_highlight {row : StyledLine} {span : StyledSpan}
    (hrow : row ∈ highlight t scheme) (hspan : span ∈ row) :
    span.text ≠ [] ∧ '\n' ∉ span.text ∧ span.text.getLast? ≠ some '\r' := by
  -- putting rows together joins no spans, so each span comes from the rows of one part
  have hmem := List.mem_flatten_of_mem hrow hspan
  unfold highlight at hmem
  generalize segments scheme t = parts at hmem
  induction parts with
  | nil => exact absurd hmem (by simp)
  | cons part parts ih =>
    simp only [List.foldr_cons, Rows.joinRows_eq, Rows.flatten_weld, List.mem_append] at hmem ih
    rcases hmem with hmem | hmem
    · obtain ⟨row, hrow, hspan⟩ := List.mem_flatten.1 hmem
      exact span_of_mem_rowsOf hrow hspan
    · exact ih hmem

/-- A row with the text of a line: all of it if there is no carriage return in it, and else with
some of them dropped, those at its end among them. -/
structure Shows (line : Text) (row : StyledLine) : Prop where
  filter_eq : row.text.filter (· ≠ '\r') = line.filter (· ≠ '\r')
  text_eq : '\r' ∉ line → row.text = line
  lineFeed_notMem : '\n' ∉ row.text
  getLast?_ne : row.text.getLast? ≠ some '\r'

/-- A row shows its line, without carriage returns at the end. -/
theorem shows_of_dropsReturns {line : List (Char × Style)} {row : StyledLine}
    (hdrops : DropsReturns line row.characters) (hrow : row ∈ highlight t scheme) :
    Shows (line.map Prod.fst) row := by
  refine ⟨?_, fun hreturn => ?_, fun hmem => ?_, ?_⟩
  · have hfilter (cells : List (Char × Style)) : (cells.map Prod.fst).filter (· ≠ '\r') =
        (cells.filter (·.1 ≠ '\r')).map Prod.fst := by
      rw [List.filter_map]
      rfl
    rw [← StyledLine.map_fst_characters, hfilter, hfilter, hdrops.filter_eq]
  · rw [← StyledLine.map_fst_characters, ← hdrops.eq_of_notMem hreturn]
  · obtain ⟨span, hspan, hmem⟩ := List.mem_flatMap.1 hmem
    exact (span_of_mem_highlight hrow hspan).2.1 hmem
  · obtain rfl | ⟨init, span, rfl⟩ := List.eq_nil_or_concat' row
    · intro hnil
      cases hnil
    · -- the row ends as its last span does
      obtain ⟨hne, -, hlast⟩ := span_of_mem_highlight hrow (List.mem_append_right init
        (List.mem_singleton_self span))
      rw [StyledLine.text_append, StyledLine.text_cons, StyledLine.text_nil, List.append_nil,
        List.getLast?_append_of_ne_nil _ hne]
      exact hlast

/-- Each row shows the line of the same number. -/
theorem forall₂_shows (t : Text) (scheme : ColorScheme) :
    List.Forall₂ Shows (t.splitOn '\n') (highlight t scheme) := by
  have hlines : t.splitOn '\n' =
      ((cells (segments scheme t)).splitOnP (·.1 == '\n')).map (List.map Prod.fst) := by
    conv_lhs => rw [← (styled_segments scheme t).text_eq]
    exact Rows.splitOnP_map (· == '\n') Prod.fst _
  obtain ⟨hlength, hrows⟩ := List.forall₂_iff_zip.1
    (List.forall₂_map_right_iff.1 (forall₂_dropsReturns (segments scheme t)))
  -- two lines that correspond, of which the second is one of the rows shown
  rw [hlines, List.forall₂_map_left_iff]
  refine List.forall₂_iff_zip.2 ⟨hlength, fun hmem => ?_⟩
  exact shows_of_dropsReturns (hrows hmem) (List.of_mem_zip hmem).2

/-- The lines shown of a text without carriage returns are its lines. -/
theorem map_text_highlight (h : '\r' ∉ t) (scheme : ColorScheme) :
    (highlight t scheme).map StyledLine.text = t.splitOn '\n' := by
  have hreturn : ∀ line ∈ t.splitOn '\n', '\r' ∉ line := fun line hline hmem =>
    h (Rows.subset_of_mem_splitOn hline hmem)
  have hshows := (List.forall₂_and_left _ _).2 ⟨hreturn, forall₂_shows t scheme⟩
  rw [eq_comm, ← List.forall₂_eq_eq_eq, List.forall₂_map_right_iff]
  exact hshows.imp fun line row h => (h.2.text_eq h.1).symm

/-- Each line of the text is shown in one row, with all of its characters but some carriage returns
and with nothing else, each in the style of the lexeme that covers it, and in no style where there
is none. No span of a row is empty or runs over a line break. -/
theorem highlight_styled (t : Text) (scheme : ColorScheme) :
    (∃ cells, Styled scheme (Lexeme.scan t) 0 t cells ∧
      List.Forall₂ DropsReturns (cells.splitOnP (·.1 == '\n'))
        ((highlight t scheme).map StyledLine.characters)) ∧
    List.Forall₂ (fun (line : Text) (row : StyledLine) => '\r' ∉ line → row.text = line)
      (t.splitOn '\n') (highlight t scheme) ∧
    ∀ row ∈ highlight t scheme, ∀ span ∈ row, span.text ≠ [] ∧ '\n' ∉ span.text := by
  refine ⟨⟨cells (segments scheme t), styled_segments scheme t, ?_⟩, ?_, ?_⟩
  · exact forall₂_dropsReturns _
  · exact (forall₂_shows t scheme).imp fun _ _ h => h.text_eq
  · intro row hrow span hspan
    obtain ⟨hne, hbreak, -⟩ := span_of_mem_highlight hrow hspan
    exact ⟨hne, hbreak⟩

end Highlight
end StatementReader
