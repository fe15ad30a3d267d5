import Mathlib.Data.List.Pairwise
import StatementReader.Proofs.Lexeme.Slice
import StatementReader.Proofs.Parse.Outcomes
import StatementReader.Proofs.Token.Stretch

/-!
# The words of a text tile it

A complete text consists of its words and of layout: blank space, comments and semicolons. A word
begins where the layout before it ends and ends where the layout after it begins (`Tiling`), and the
layout between two words holds a semicolon or a line break. So nothing of a text is lost or read
twice. A lexeme that is no comment lies inside one word, and only semicolons outside all brackets
lie inside none.

The stretches of lexemes that the statements are made of (`Lexeme.Laid`) become the words, and the
lexemes between them the layout. Layout is recognized in place: the excerpt between two words is cut
into the same lexemes if it stands alone (`Lexeme.scanFrom_join`).
-/

namespace StatementReader

open Text

/-- Blank space, comments and semicolons, and nothing left open. -/
def IsLayout (t : Text) : Prop := ∀ l ∈ Lexeme.scan t, l.isLayout ∧ l.unterminated = false

/-- The text holds a semicolon or a line break. -/
def Separates (t : Text) : Prop := '\n' ∈ t ∨ ∃ l ∈ Lexeme.scan t, l.isSemicolon

/-- A text that begins at an offset is made of words, with layout around each of them. The layout
between two words separates them, and so does the layout before the first one if `after` holds. -/
inductive Tiling : Bool → Nat → Text → List Word → Prop
  | last {after : Bool} {offset : Nat} {gap : Text} : IsLayout gap → Tiling after offset gap []
  | cons {after : Bool} {offset : Nat} {gap text rest : Text} {words : List Word} :
      IsLayout gap → (after → Separates gap) → text ≠ [] →
      Tiling true (offset + size gap + size text) rest words →
      Tiling after offset (gap ++ (text ++ rest))
        (⟨text, ⟨offset + size gap, offset + size gap + size text⟩⟩ :: words)

namespace Tiling

variable {after : Bool} {offset : Nat} {t : Text} {words : List Word}

theorem size_pos_of_separates (h : Separates t) : 0 < size t := by
  refine Nat.pos_of_ne_zero fun hsize => ?_
  rw [size_eq_zero.1 hsize] at h
  rcases h with h | ⟨l, hl, -⟩
  · cases h
  · rw [Lexeme.scan, Lexeme.scanFrom_of_blank rfl] at hl
    cases hl

/-- No word begins before the text does. -/
theorem le_start (h : Tiling after offset t words) : ∀ word ∈ words, offset ≤ word.span.start ∧
    (after → offset < word.span.start) := by
  induction h with
  | last => exact fun word hword => (List.not_mem_nil hword).elim
  | @cons after offset gap text rest words hgap hsep htext h ih =>
    intro word hword
    rcases List.mem_cons.1 hword with rfl | hword
    · -- the first word begins behind the gap, and a gap that separates is not empty
      refine ⟨Nat.le_add_right _ _, fun hafter => ?_⟩
      have hpos := size_pos_of_separates (hsep hafter)
      simp only
      omega
    · -- a later word begins behind the first one, which is not empty either
      have hle := (ih word hword).1
      have hpos := Nat.pos_of_ne_zero fun hsize => htext (size_eq_zero.1 hsize)
      omega

/-- The words of a text come one after the other, with something between them. -/
theorem pairwise (h : Tiling after offset t words) :
    words.Pairwise (·.span.stop < ·.span.start) := by
  induction h with
  | last => exact .nil
  | cons hgap hsep htext h ih => exact .cons (fun word hword => (h.le_start word hword).2 rfl) ih

/-- No part of a text belongs to two words. -/
theorem eq_of_inside (h : Tiling after offset t words) {m n : Nat} (hmn : m < n) {v w : Word}
    (hv : v ∈ words ∧ v.span.start ≤ m ∧ n ≤ v.span.stop)
    (hw : w ∈ words ∧ w.span.start ≤ m ∧ n ≤ w.span.stop) : v = w := by
  by_contra hne
  have happart : words.Pairwise fun v w =>
      v.span.stop < w.span.start ∨ w.span.stop < v.span.start := h.pairwise.imp .inl
  have hsymm : Std.Symm fun v w : Word =>
      v.span.stop < w.span.start ∨ w.span.stop < v.span.start := ⟨fun _ _ => Or.symm⟩
  rcases happart.forall hv.1 hw.1 hne with hlt | hlt <;> omega

/-- A word is the part of the text at its place, and not empty. -/
theorem slice_eq {s : Text} (h : Tiling after (size s) t words) : ∀ word ∈ words,
    word.span.start < word.span.stop ∧ IsBoundary word.span.start (s ++ t) ∧
      IsBoundary word.span.stop (s ++ t) ∧
      slice word.span.start word.span.stop (s ++ t) = word.text := by
  -- `s` takes in the words that have been passed, so that the offset stays its size
  generalize hoffset : size s = offset at h
  induction h generalizing s with
  | last => exact fun word hword => (List.not_mem_nil hword).elim
  | @cons after offset gap text rest words hgap hsep htext h ih =>
    subst hoffset
    intro word hword
    rcases List.mem_cons.1 hword with rfl | hword
    · have hpos := Nat.pos_of_ne_zero fun hsize => htext (size_eq_zero.1 hsize)
      have hslice := slice_size_append (s ++ gap) text rest
      rw [size_append, List.append_assoc] at hslice
      refine ⟨Nat.lt_add_of_pos_right hpos, ⟨s ++ gap, text ++ rest, ?_, ?_⟩,
        ⟨s ++ gap ++ text, rest, ?_, ?_⟩, hslice⟩
      · rw [List.append_assoc]
      · rw [size_append]
      · rw [List.append_assoc, List.append_assoc]
      · rw [size_append, size_append]
    · have hsize : size (s ++ gap ++ text) = size s + size gap + size text := by
        rw [size_append, size_append]
      have hword := ih hsize word hword
      rwa [List.append_assoc, List.append_assoc] at hword

end Tiling

/-! ### Stretches of lexemes are words -/

/-- A row of lexemes as a word. -/
def Word.ofLexemes (m : List Lexeme) : Word := ⟨Lexeme.extent m, Lexeme.span m⟩

namespace Lexeme

variable {offset : Nat} {s : Text} {ls : List Lexeme}

/-- The place of a row of lexemes is that of its text. -/
theorem span_eq {l : Lexeme} {m ms : List Lexeme} (h : scanFrom offset s = l :: m ++ ms) :
    span (l :: m) = ⟨offset + size l.gap, offset + size l.gap + size (extent (l :: m))⟩ := by
  have hrow : scanFrom offset s = [] ++ (l :: m ++ ms) := h
  have hstart : l.start = offset + size l.gap := start_eq hrow
  have hlast : (l :: m).getLast? = some ((l :: m).getLast (List.cons_ne_nil l m)) :=
    List.getLast?_eq_some_getLast _
  calc span (l :: m)
      = ⟨l.start, ((l :: m).getLast (List.cons_ne_nil l m)).stop⟩ := by
        rw [span, hlast]
        rfl
    _ = ⟨offset + size l.gap, offset + size l.gap + size (extent (l :: m))⟩ := by
        rw [stop_getLast hrow, hstart]

theorem isLayout_of_scanFrom (h : scanFrom offset s = ls)
    (hls : ∀ l ∈ ls, l.isLayout ∧ l.unterminated = false) : IsLayout s := by
  subst h
  intro l hl
  have hmem : l.shift offset ∈ scanFrom offset s := by
    rw [← scan_map_shift]
    exact List.mem_map_of_mem hl
  exact hls (l.shift offset) hmem

theorem exists_isSemicolon_of_scanFrom (h : scanFrom offset s = ls)
    (hls : ∃ l ∈ ls, l.isSemicolon) : ∃ l ∈ scan s, l.isSemicolon := by
  subst h
  obtain ⟨l, hl, hsemicolon⟩ := hls
  rw [← scan_map_shift] at hl
  obtain ⟨l', hl', rfl⟩ := List.mem_map.1 hl
  exact ⟨l', hl', hsemicolon⟩

theorem kind_ne_unknown_of_isLayout {l : Lexeme} (h : l.isLayout) : l.kind ≠ .unknown := by
  intro hk
  simp [isLayout, isSemicolon, hk] at h

/-- The stretches of a row of lexemes are the words of its text. -/
theorem Laid.tiling {S : Phrase} {after : Bool} {ms : List (List Lexeme)} (h : Laid S after ls ms)
    (hls : ∀ l ∈ ls, l.unterminated = false) (hs : scanFrom offset s = ls) :
    Tiling after offset s (ms.map Word.ofLexemes) := by
  induction h generalizing offset s with
  | last hgap => exact .last (isLayout_of_scanFrom hs fun x hx => ⟨hgap x hx, hls x hx⟩)
  | @cons after gap l m ls ms hgap hsep hm hlaid ih =>
    obtain ⟨r, hsr, hr⟩ := exists_eq_join_append hs
    obtain ⟨b, c, t, hrb, hb, -, hl, -⟩ := scanFrom_eq_cons_iff.1 hr
    have hlgap : l.gap = b := by rw [hl]
    -- the layout in front of the word is cut into the same lexemes if it stands alone
    have hscan : scanFrom offset (join gap ++ l.gap) = gap := by
      refine scanFrom_join hs hsr (hlgap ▸ ⟨c :: t, hrb.symm⟩) (hlgap ▸ hb) fun x hx => ?_
      exact not_isStray (kind_ne_unknown_of_isLayout (hgap x hx))
    have hlayout : IsLayout (join gap ++ l.gap) :=
      isLayout_of_scanFrom hscan fun x hx => ⟨hgap x hx, hls x (List.mem_append_left _ hx)⟩
    have hseparates : after → Separates (join gap ++ l.gap) := fun hafter =>
      (hsep hafter).imp_right (exists_isSemicolon_of_scanFrom hscan)
    have hne : extent (l :: m) ≠ [] := by
      have htext : l.text ≠ [] := by
        rw [hl]
        exact (splits_cut c t).taken_ne_nil
      simp [extent, htext]
    have hword : Word.ofLexemes (l :: m) = ⟨extent (l :: m), ⟨offset + size (join gap ++ l.gap),
        offset + size (join gap ++ l.gap) + size (extent (l :: m))⟩⟩ := by
      rw [Word.ofLexemes, span_eq hr, size_append, Nat.add_assoc offset]
    obtain ⟨r', hrr', hr'⟩ := exists_eq_join_append hr
    -- the text is the layout, the word and what is behind it
    have hsplit : s = (join gap ++ l.gap) ++ (extent (l :: m) ++ r') := by
      rw [hsr, hrr', extent, join_cons]
      simp only [List.append_assoc]
    have hrest : scanFrom (offset + size (join gap ++ l.gap) + size (extent (l :: m))) r' = ls := by
      rw [← hr', extent, join_cons]
      simp only [size_append, Nat.add_assoc]
    rw [List.map_cons, hword, hsplit]
    refine .cons hlayout hseparates hne (ih (fun x hx => hls x ?_) hrest)
    exact List.mem_append_right _ (List.mem_append_right _ hx)

end Lexeme

/-! ### Complete texts -/

variable {t : Text}

/-- The words of a complete text are the stretches of its lexemes. -/
theorem exists_laid_of_statements {spans : List Span} (h : split t = .statements spans) :
    (∀ l ∈ Lexeme.scan t, l.unterminated = false) ∧ ∃ ms,
      Lexeme.Laid shallowStatement false (Lexeme.scan t) ms ∧
        Tiling false 0 t (ms.map Word.ofLexemes) ∧
          Outcome.wordsAt t spans = ms.map Word.ofLexemes := by
  obtain ⟨hopen, us, hrow, rfl⟩ := split_eq_statements_iff.1 h
  have hls := all_terminated ((endsOpen_eq t).trans hopen)
  have hfirst : false → Phrase.Separated (TokenRow.ofText t).tokens := fun h => by cases h
  obtain ⟨ms, hlaid, hspans⟩ := Lexeme.exists_laid begins_shallowStatement hrow hls rfl hfirst
  have htiling := hlaid.tiling hls rfl
  refine ⟨hls, ms, hlaid, htiling, ?_⟩
  rw [hspans, Outcome.wordsAt, List.map_map]
  refine List.map_congr_left fun m hm => ?_
  -- a stretch is found again as the slice of the text at its span
  have hslice := (Tiling.slice_eq (s := []) htiling _ (List.mem_map_of_mem hm)).2.2.2
  exact congrArg (Word.mk · _) hslice

theorem shallowStatement_le_enclosed : shallowStatement ≤ Phrase.enclosed :=
  fun _ hu => statement_grammar_le_enclosed (mem_statement_grammar_iff.2 ⟨_, hu⟩)

/-- The words of a text that is complete as a whole tile it. They stand one after the other, each is
the part of the text at its place, and around them is layout. A lexeme that is no comment lies
inside exactly one of them, unless it is a semicolon outside all brackets. The active word is the
last one, if the cursor and the word are at the end of the text. -/
theorem words_tile {cursor : Nat} {mode : Mode} {words : List Word} {active : Option ActiveWord}
    {consumed : Nat} (h : parseAt t cursor mode = .complete words active consumed)
    (hwhole : mode = .completing → ∀ c, split t ≠ .unterminated c) :
    consumed = size t ∧ Tiling false 0 t words ∧
    words.Pairwise (·.span.stop < ·.span.start) ∧
    (∀ word ∈ words, word.span.start < word.span.stop ∧ IsBoundary word.span.start t ∧
      IsBoundary word.span.stop t ∧ slice word.span.start word.span.stop t = word.text) ∧
    (∀ before l rest, Lexeme.scan t = before ++ l :: rest → l.kind ≠ .comment →
      ((∃! word, word ∈ words ∧ word.span.start ≤ l.start ∧ l.stop ≤ word.span.stop) ↔
        ¬ (l.isSemicolon ∧ Bracket.openAfter [] (Lexeme.marks before) = some []))) ∧
    ∀ word, active = some word ↔ cursor = size t ∧ ∃ last, words.getLast? = some last ∧
      last.span.stop = size t ∧ word = ⟨last.text, size last.text, last.span.start⟩ := by
  rcases parseAt_eq_complete_iff.1 h with ⟨spans, hsplit, hwords, rfl, rfl⟩ | ⟨hmode, hsplit, -⟩
  · obtain ⟨hls, ms, hlaid, htiling, heq⟩ := exists_laid_of_statements hsplit
    rw [← heq, ← hwords] at htiling
    refine ⟨rfl, htiling, htiling.pairwise, htiling.slice_eq (s := []), ?_,
      fun word => findActive_eq_some_iff⟩
    intro before l rest hat hl
    have hpos : ∀ x ∈ Lexeme.scan t, x.start < x.stop := fun x hx => (Lexeme.bounds_of_mem hx).1
    have hlpos : l.start < l.stop := hpos l (by rw [hat]; simp)
    rw [← hlaid.inside_iff shallowStatement_le_enclosed hls hpos (Lexeme.pairwise_scanFrom 0 t)
      hat hl]
    constructor
    · rintro ⟨word, ⟨hmem, hinside⟩, -⟩
      rw [hwords, heq] at hmem
      obtain ⟨m, hm, rfl⟩ := List.mem_map.1 hmem
      exact ⟨m, hm, hinside⟩
    · -- words do not overlap, so a lexeme is in one of them at most
      rintro ⟨m, hm, hinside⟩
      have hmem : Word.ofLexemes m ∈ words := by
        rw [hwords, heq]
        exact List.mem_map_of_mem hm
      exact ⟨_, ⟨hmem, hinside⟩, fun word hword => htiling.eq_of_inside hlpos hword ⟨hmem, hinside⟩⟩
  · -- the other way to be complete is to complete a text in which something is open
    exact absurd hsplit (hwhole hmode consumed)

/-- Two names with a semicolon between them. -/
theorem words_tile_names :
    parseAt "x; y".toList 4 .completing =
      .complete [⟨['x'], ⟨0, 1⟩⟩, ⟨['y'], ⟨3, 4⟩⟩] (some ⟨['y'], 1, 3⟩) 4 ∧
    (∀ c, split "x; y".toList ≠ .unterminated c) ∧
    Tiling false 0 "x; y".toList [⟨['x'], ⟨0, 1⟩⟩, ⟨['y'], ⟨3, 4⟩⟩] := by
  have hsplit : split "x; y".toList = .statements [⟨0, 1⟩, ⟨3, 4⟩] := by decide +kernel
  have hparse : parseAt "x; y".toList 4 .completing =
      .complete [⟨['x'], ⟨0, 1⟩⟩, ⟨['y'], ⟨3, 4⟩⟩] (some ⟨['y'], 1, 3⟩) 4 := by decide +kernel
  have hwhole (c : Nat) : split "x; y".toList ≠ .unterminated c := by
    rw [hsplit]
    exact Split.noConfusion
  exact ⟨hparse, hwhole, (words_tile hparse fun _ => hwhole).2.1⟩

end StatementReader
