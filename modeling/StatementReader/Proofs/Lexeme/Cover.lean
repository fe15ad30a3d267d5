import StatementReader.Proofs.Lexeme.OpenEnd
import StatementReader.Proofs.Lexeme.Slice
import StatementReader.Proofs.Token.LineBreak

/-!
# The lexemes cover the text

The places of the lexemes are parts of the text, one after the other, and every character outside of
them is blank space (`isBlank_of_outside`). So nothing of a text is lost between two lexemes, and
nothing is read twice. A lexeme begins with a character that is not blank and takes that at least,
which is why there are no more lexemes than characters.

Only the last lexeme can be left open, since it takes everything to the end. The tokens stop in
front of it, and so they are the tokens of all other lexemes (`tokens_ofText_eq`).
-/

namespace StatementReader
namespace Lexeme

open Text

variable {offset : ℕ} {s t : Text} {l : Lexeme} {before rest : List Lexeme}

/-! ### The place of a lexeme -/

/-- The place of a lexeme is an offset of its text. -/
theorem exists_append_of_mem (h : l ∈ scan t) :
    ∃ front rest, t = front ++ (l.text ++ rest) ∧ l.start = size front := by
  obtain ⟨before, rest, hscan⟩ := List.append_of_mem h
  obtain ⟨c, r, ht, -, -, hl, -⟩ := exists_cut hscan
  have htext : l.text = (cut c r).taken := congrArg Lexeme.text hl
  refine ⟨join before ++ l.gap, (cut c r).rest, ?_, ?_⟩
  · rw [htext, (splits_cut c r).taken_append_rest, List.append_assoc]
    exact ht
  · rw [start_eq hscan, Nat.zero_add, size_append]

/-- A lexeme is the part of the text at its place, and it begins with a character that is not
blank. -/
theorem slice_of_mem (h : l ∈ scan t) : IsBoundary l.start t ∧ IsBoundary l.stop t ∧
    slice l.start l.stop t = l.text ∧ ∃ c ∈ l.text.head?, isBlank c = false := by
  obtain ⟨front, behind, hplace, hstart⟩ := exists_append_of_mem h
  refine ⟨⟨front, _, hplace, hstart⟩, ⟨front ++ l.text, behind, ?_, ?_⟩, slice_start_stop h, ?_⟩
  · rw [List.append_assoc]
    exact hplace
  · rw [size_append, stop, hstart]
  · -- what is taken begins where the text that is cut does
    obtain ⟨before, rest, hscan⟩ := List.append_of_mem h
    obtain ⟨c, r, -, -, hc, hl, -⟩ := exists_cut hscan
    have hsplits := splits_cut c r
    have htext : l.text = (cut c r).taken := congrArg Lexeme.text hl
    obtain ⟨d, taken, htaken⟩ := List.exists_cons_of_ne_nil hsplits.taken_ne_nil
    have hcons := hsplits.taken_append_rest
    rw [htaken] at hcons
    obtain ⟨rfl, -⟩ := List.cons.inj hcons
    refine ⟨d, ?_, hc⟩
    rw [htext, htaken]
    rfl

/-! ### What is outside of the lexemes -/

theorem isBlank_of_scanFrom_eq_nil (h : scanFrom offset s = []) : ∀ c ∈ s, isBlank c := by
  refine List.dropWhile_eq_nil_iff.1 ?_
  cases hs : s.dropWhile isBlank with
  | nil => rfl
  | cons c r =>
    rw [scanFrom_of_cut hs] at h
    cases h

theorem isBlank_of_outside {p r : Text} {c : Char} (hs : s = p ++ c :: r)
    (h : ∀ l ∈ scanFrom offset s, offset + size p < l.start ∨ l.stop ≤ offset + size p) :
    isBlank c := by
  generalize hls : scanFrom offset s = ls at h
  induction ls generalizing offset s p with
  | nil => exact isBlank_of_scanFrom_eq_nil hls c (by rw [hs]; simp)
  | cons l ls ih =>
    obtain ⟨gap, d, u, hsplit, hgap, -, rfl, hscan⟩ := scanFrom_eq_cons_iff.1 hls
    obtain ⟨hfirst, hlater⟩ := List.forall_mem_cons.1 h
    rw [hs, ← (splits_cut d u).taken_append_rest] at hsplit
    rcases append_eq_append_cons hsplit.symm with ⟨more, rfl⟩ | ⟨q, rfl, hbehind⟩
    · -- in the gap before the first lexeme
      exact hgap c (by simp)
    rcases append_eq_append_cons hbehind with ⟨more, htaken⟩ | ⟨q, rfl, hrest⟩
    · -- in the first lexeme, which is excluded
      have hsize := congrArg size htaken
      have hpos := c.utf8Size_pos
      rw [size_append, size_cons] at hsize
      simp only [stop, size_append] at hfirst
      omega
    · -- after the first lexeme
      refine ih hrest hscan fun l hl => ?_
      have hl := hlater l hl
      simp only [size_append] at hl
      simp only [stop]
      rwa [Nat.add_assoc (offset + size gap), Nat.add_assoc offset]

/-- What comes before a lexeme has ended where that ends, and what comes after it begins behind. -/
theorem sides_of_scan_eq (h : scan t = before ++ l :: rest) :
    (∀ x ∈ before ++ [l], x.stop ≤ l.stop) ∧ ∀ x ∈ rest, l.stop ≤ x.start := by
  have hpairwise : (before ++ l :: rest).Pairwise (·.stop ≤ ·.start) := h ▸ pairwise_scanFrom 0 t
  obtain ⟨-, hl, hbefore⟩ := List.pairwise_append.1 hpairwise
  refine ⟨fun x hx => ?_, (List.pairwise_cons.1 hl).1⟩
  rcases List.mem_append.1 hx with hx | hx
  · have hmem : l ∈ scanFrom 0 t := by
      rw [← scan, h]
      exact List.mem_append_right _ List.mem_cons_self
    calc x.stop ≤ l.start := hbefore x hx l List.mem_cons_self
      _ ≤ l.stop := (bounds_of_mem hmem).1.le
  · exact (congrArg stop (List.mem_singleton.1 hx)).le

theorem length_scanFrom_le (offset : ℕ) (s : Text) : (scanFrom offset s).length ≤ s.length := by
  induction offset, s using scanFrom.induct with
  | case1 offset s hblank =>
    rw [scanFrom_of_blank hblank]
    exact Nat.zero_le _
  | case2 offset s c r hcut gap start k ih =>
    have hlt := length_rest_cut_lt c r
    have hlength := congrArg List.length (List.takeWhile_append_dropWhile (p := isBlank) (l := s))
    rw [hcut, List.length_append, List.length_cons] at hlength
    simp only [start, gap, k] at ih
    rw [scanFrom_of_cut hcut, List.length_cons]
    omega

/-! ### Lexemes that are left open -/

theorem last_of_unterminated (h : scan t = before ++ l :: rest) (hl : l.unterminated) :
    l.kind ∈ [LexemeKind.str, .char, .comment] ∧ rest = [] ∧ l.stop = size t := by
  obtain ⟨c, r, ht, -, -, hcut, hrest⟩ := exists_cut h
  have hopen : (cut c r).unterminated := (congrArg Lexeme.unterminated hcut).symm.trans hl
  have hend : (cut c r).rest = [] := (resyncs_cut r [] c).2 hopen
  refine ⟨?_, ?_, ?_⟩
  · rw [hcut]
    exact kind_of_unterminated hopen
  · rw [← hrest, hend, scanFrom_nil]
  · -- it takes all that stands behind the gap
    have htext : l.text = c :: r := by
      rw [← (splits_cut c r).taken_append_rest, hend, List.append_nil]
      exact congrArg Lexeme.text hcut
    rw [stop, start_eq h, htext, ht, Nat.zero_add, size_append, size_append, Nat.add_assoc]

theorem takeWhile_scan (t : Text) :
    (scan t).takeWhile (!·.unterminated) = (scan t).filter (!·.unterminated) := by
  have hlast : ∀ before l rest, scan t = before ++ l :: rest → l.unterminated → rest = [] :=
    fun before l rest h hl => (last_of_unterminated h hl).2.1
  generalize scan t = ls at hlast
  induction ls with
  | nil => rfl
  | cons l ls ih =>
    -- a lexeme that is open is the last one, so nothing is lost behind it
    by_cases hl : l.unterminated
    · obtain rfl := hlast [] l ls rfl hl
      simp [hl]
    · have hls := ih fun before x rest h => hlast (l :: before) x rest (by rw [h]; rfl)
      rw [List.takeWhile_cons_of_pos (by simpa using hl),
        List.filter_cons_of_pos (by simpa using hl), hls]

/-- The tokens stop at a lexeme that is left open, and they miss none but that. -/
theorem tokens_ofText_eq (t : Text) : (TokenRow.ofText t).tokens =
    (TokenRow.ofLexemes false ((scan t).filter (!·.unterminated))).tokens := by
  rw [← takeWhile_scan, TokenRow.tokens_ofLexemes_takeWhile]
  rfl

/-- The lexemes of a text, which are no more than its characters, lie one after the other. Each is
the part of the text at its place, not empty, and begins with a character that is not blank. A
character outside of all of them is blank. A lexeme that is left open is a string, a character
literal or a comment, and it is the last one and goes on to the end of the text, so the tokens that
stop there miss nothing else. -/
theorem scan_covers (t : Text) :
    (scan t).length ≤ t.length ∧ (scan t).Pairwise (·.stop ≤ ·.start) ∧
    (∀ l ∈ scan t, l.start < l.stop ∧ IsBoundary l.start t ∧ IsBoundary l.stop t ∧
      slice l.start l.stop t = l.text ∧ ∃ c ∈ l.text.head?, isBlank c = false) ∧
    (∀ p c r, t = p ++ c :: r → (∀ l ∈ scan t, size p < l.start ∨ l.stop ≤ size p) →
      isBlank c) ∧
    (∀ before l rest, scan t = before ++ l :: rest → l.unterminated →
      l.kind ∈ [LexemeKind.str, .char, .comment] ∧ rest = [] ∧ l.stop = size t) ∧
    (TokenRow.ofText t).tokens =
      (TokenRow.ofLexemes false ((scan t).filter (!·.unterminated))).tokens := by
  refine ⟨length_scanFrom_le 0 t, pairwise_scanFrom 0 t, fun l hl => ?_, fun p c r ht hp => ?_,
    fun before l rest => last_of_unterminated, tokens_ofText_eq t⟩
  · exact ⟨(bounds_of_mem hl).1, slice_of_mem hl⟩
  · -- offsets are counted from where the scan begins, which is zero here
    have houtside : ∀ l ∈ scanFrom 0 t, 0 + size p < l.start ∨ l.stop ≤ 0 + size p := by
      intro l hl
      rw [Nat.zero_add]
      exact hp l hl
    exact isBlank_of_outside ht houtside

end Lexeme
end StatementReader
