import StatementReader.Proofs.Lexeme.Kind
import StatementReader.Proofs.Lexeme.LineBreak

/-!
# Lexemes that are left open

A string, a character literal or a block comment that is left open goes on in whatever follows the
text. A line break ends neither a string nor a comment, so these take it and are open still. A
character literal takes it as its character if it has none yet. If it has one, something else than a
quote follows it now, and its own quote turns out to be a stray one (`cut_break_eq_stray`).

Where a text is left open there is one such lexeme, and the lexemes before it stay as they are
(`exists_scanFrom_append_open`). So what becomes of a text with one more line break is what becomes
of that lexeme.
-/

namespace StatementReader
namespace Lexeme

open Text

/-- The number of line breaks that a character literal takes that is left open: one, if it has no
character yet. -/
def charRoom : Text → Nat
  | [_] | [_, '\\'] => 1
  | _ => 0

/-! ### Ways of cutting that leave a lexeme open -/

/-- A mark that was not found is not found behind a line break either. -/
theorem splitAfter?_concat_break {mark s : Text} (hm : '\n' ∉ mark) (hne : mark ≠ [])
    (h : splitAfter? mark s = none) : splitAfter? mark (s ++ ['\n']) = none := by
  have hend : ¬ mark.isPrefixOf ['\n'] := by
    rw [← List.nil_append ['\n'], isPrefixOf_append_break hm, List.isPrefixOf_iff_prefix,
      List.prefix_nil]
    exact hne
  -- the mark does not stand at any place, and the line break makes no new one
  induction s with
  | nil => rw [List.nil_append, splitAfter?, if_neg hend, splitAfter?, Option.map_none]
  | cons c s ih =>
    rw [splitAfter?] at h
    rw [List.cons_append, splitAfter?, ← List.cons_append, isPrefixOf_append_break hm]
    split at h
    · cases h
    · next hno => rw [if_neg hno, ih (Option.map_eq_none_iff.1 h), Option.map_none]

/-- What is not closed takes the line break as well. -/
theorem cutDelimited_concat_break {kind : LexemeKind} {opening closing s : Text}
    (hc : '\n' ∉ closing) (hne : closing ≠ []) (ho : opening.length ≤ s.length)
    (h : (cutDelimited kind opening closing s).unterminated) :
    cutDelimited kind opening closing (s ++ ['\n']) = ⟨kind, s ++ ['\n'], [], true⟩ := by
  unfold cutDelimited at h ⊢
  rw [List.drop_append_of_le_length ho]
  split at h
  · cases h
  · next hnone => rw [splitAfter?_concat_break hc hne hnone]

/-- A string that is open is open behind the line break too. -/
theorem splitString_concat_break {s : Text} (h : (splitString s).2.2 = false) :
    (splitString (s ++ ['\n'])).2.2 = false := by
  fun_induction splitString s with
  | case1 => rfl
  | case2 => cases h
  | case3 c s t r closed hs ih => exact ih (hs ▸ h)
  | case4 c s hquote hescape t r closed hs ih =>
    by_cases hc : c = '\\'
    · -- a backslash at the end takes the line break with it
      subst hc
      rcases s with _ | ⟨d, s⟩
      · rfl
      · exact (hescape d s rfl rfl).elim
    · rw [List.cons_append, splitString.eq_4 _ _ hquote fun _ _ hback _ => hc hback]
      exact ih (hs ▸ h)

/-- So it is with the quotation marks before it. -/
theorem cutString_concat_break {s : Text} (h : (cutString ('"' :: s)).unterminated) :
    (cutString ('"' :: s ++ ['\n'])).unterminated := by
  unfold cutString at h ⊢
  rw [isPrefixOf_append_break (by decide)]
  -- with three quotes the closing ones are not found, and with one the string is not closed
  split at h
  · next hthree =>
    have hle := (List.isPrefixOf_iff_prefix.1 hthree).length_le
    rw [if_pos hthree, cutDelimited_concat_break (by decide) (by decide) hle h]
  · next hthree =>
    have hopen : (splitString s).2.2 = false := by simpa using h
    rw [if_neg hthree]
    show (!(splitString (s ++ ['\n'])).2.2) = true
    rw [splitString_concat_break hopen]
    rfl

/-- A character literal that is left open has at most one character. -/
theorem cases_of_unterminated_cutChar {s : Text} (h : (cutChar ('\'' :: s)).unterminated) :
    s = [] ∨ s = ['\\'] ∨ (∃ c, s = ['\\', c]) ∨ ∃ c, c ≠ '\\' ∧ s = [c] := by
  have hclose {t taken rest : Text} (h : (closeChar t taken rest).unterminated) : rest = [] := by
    unfold closeChar at h
    split at h
    · rfl
    · cases h
    · cases h
  rcases s with _ | ⟨c, s⟩
  · exact .inl rfl
  · -- an escape needs one more character before the literal can be closed
    by_cases hc : c = '\\'
    · subst hc
      rcases s with _ | ⟨d, s⟩
      · exact .inr (.inl rfl)
      · obtain rfl := hclose h
        exact .inr (.inr (.inl ⟨d, rfl⟩))
    · have hcut : cutChar ('\'' :: c :: s) = closeChar ('\'' :: c :: s) ['\'', c] s := by
        simp [cutChar, hc]
      obtain rfl := hclose (hcut ▸ h)
      exact .inr (.inr (.inr ⟨c, hc, rfl⟩))

/-- A number is never left open. -/
theorem unterminated_cutNumber (s : Text) : (cutNumber s).unterminated = false := by
  have hsuffix (kind : LexemeKind) (taken rest : Text) :
      (cutSuffix kind taken rest).unterminated = false := by
    unfold cutSuffix
    split
    · split
      · rfl
      · split <;> rfl
    · rfl
  unfold cutNumber
  dsimp only
  split <;> exact hsuffix ..

/-- Only comments, strings and character literals are left open. -/
theorem cases_of_unterminated {c : Char} {s : Text} (h : (cut c s).unterminated) :
    (c = '/' ∧ ∃ r, s = '*' :: r) ∨ c = '"' ∨ c = '\'' := by
  unfold cut at h
  split at h
  · cases h
  split at h
  · next hopening =>
    obtain ⟨r, hr⟩ := List.isPrefixOf_iff_prefix.1 hopening
    obtain ⟨rfl, rfl⟩ := List.cons.inj hr
    exact .inl ⟨rfl, r, rfl⟩
  split at h
  · rw [unterminated_cutNumber] at h
    cases h
  split at h
  · next hc => exact .inr (.inl hc)
  split at h
  · next hc => exact .inr (.inr hc)
  -- words, punctuation, operators and characters of no class end of themselves
  split at h
  · cases h
  split at h
  · cases h
  split at h <;> cases h

/-- The two marks begin a block comment. -/
theorem cut_comment (r : Text) : cut '/' ('*' :: r) =
    cutDelimited .comment "/*".toList "*/".toList ('/' :: '*' :: r) := rfl

/-- A quotation mark begins a string. -/
theorem cut_quote (s : Text) : cut '"' s = cutString ('"' :: s) := rfl

/-- A quote begins a character literal. -/
theorem cut_apostrophe (s : Text) : cut '\'' s = cutChar ('\'' :: s) := rfl

/-- Only these are left open, and they keep their kinds. -/
theorem kind_of_unterminated {c : Char} {s : Text} (h : (cut c s).unterminated) :
    (cut c s).kind ∈ [LexemeKind.str, .char, .comment] := by
  -- what is open is a comment, a string or a character literal
  obtain ⟨rfl, r, rfl⟩ | rfl | rfl := cases_of_unterminated h
  · rw [cut_comment, kind_cutDelimited]
    decide
  · rw [cut_quote, kind_cutString]
    decide
  · rw [cut_apostrophe] at h
    obtain rfl | rfl | ⟨d, rfl⟩ | ⟨d, hd, rfl⟩ := cases_of_unterminated_cutChar h
    · decide
    · decide
    · exact List.mem_cons_of_mem _ List.mem_cons_self
    · simp [cut_apostrophe, cutChar, hd, closeChar]

/-- What is left open takes a line break, unless it is a character literal that has its character.
-/
theorem cut_break_of_room {c : Char} {s : Text} (h : (cut c s).unterminated)
    (hroom : (cut c s).kind = .char → 0 < charRoom (c :: s)) :
    (cut c (s ++ ['\n'])).kind = (cut c s).kind ∧ (cut c (s ++ ['\n'])).unterminated := by
  obtain ⟨rfl, r, rfl⟩ | rfl | rfl := cases_of_unterminated h
  · -- a comment: its end is not found with the line break either
    rw [cut_comment] at h
    have hcut := cutDelimited_concat_break (by decide) (by decide) (by simp) h
    rw [List.cons_append, cut_comment, cut_comment]
    rw [List.cons_append, List.cons_append] at hcut
    rw [hcut]
    exact ⟨(kind_cutDelimited ..).symm, rfl⟩
  · -- a string, with one quotation mark or three
    rw [cut_quote] at h
    rw [cut_quote, cut_quote]
    exact ⟨(kind_cutString _).trans (kind_cutString _).symm, cutString_concat_break h⟩
  · -- a character literal, which has room in the first two of its cases only
    rw [cut_apostrophe] at h
    obtain rfl | rfl | ⟨d, rfl⟩ | ⟨d, hd, rfl⟩ := cases_of_unterminated_cutChar h
    · exact ⟨rfl, rfl⟩
    · exact ⟨rfl, rfl⟩
    · exact absurd (hroom rfl) (Nat.lt_irrefl 0)
    · have hkind : (cut '\'' [d]).kind = .char := by simp [cut_apostrophe, cutChar, hd, closeChar]
      have hnone : charRoom ['\'', d] = 0 := by simp [charRoom, hd]
      exact absurd (hroom hkind) (by simp [hnone])

/-- The quote of a character literal that has its character is a stray one before a line break. -/
theorem cut_break_eq_stray {c : Char} {s : Text} (h : (cut c s).unterminated)
    (hkind : (cut c s).kind = .char) (hroom : charRoom (c :: s) = 0) :
    cut c (s ++ ['\n']) = ⟨.unknown, [c], s ++ ['\n'], false⟩ := by
  obtain ⟨rfl, r, rfl⟩ | rfl | rfl := cases_of_unterminated h
  · rw [cut_comment, kind_cutDelimited] at hkind
    cases hkind
  · rw [cut_quote, kind_cutString] at hkind
    cases hkind
  · -- only the literals that lack nothing but the closing quote have no room
    rw [cut_apostrophe] at h
    obtain rfl | rfl | ⟨d, rfl⟩ | ⟨d, hd, rfl⟩ := cases_of_unterminated_cutChar h
    · cases hroom
    · cases hroom
    · rfl
    · simp [cut_apostrophe, cutChar, hd, closeChar]

/-- An open character literal that takes a line break has its character then. -/
theorem charRoom_concat_break {t : Text} (h : 0 < charRoom t) :
    charRoom t = 1 ∧ charRoom (t ++ ['\n']) = 0 := by
  unfold charRoom at h
  split at h
  · exact ⟨rfl, rfl⟩
  · exact ⟨rfl, rfl⟩
  · exact absurd h (Nat.lt_irrefl 0)

/-! ### Scanning -/

/-- An empty text has no lexemes. -/
theorem scanFrom_nil (offset : Nat) : scanFrom offset [] = [] := scanFrom_of_blank rfl offset

/-- A text that is left open has its lexemes and then the one that is open. With one more line
break, that one is cut anew. -/
theorem exists_scanFrom_append_open {offset : Nat} {a : Text} {l : Lexeme}
    (h : l ∈ scanFrom offset a) (hl : l.unterminated) : ∃ before c r,
      scanFrom offset a = before ++ [l] ∧ (∀ x ∈ before, x.unterminated = false) ∧
      l.text = c :: r ∧ (cut c r).unterminated ∧ (cut c r).kind = l.kind ∧
      scanFrom offset (a ++ ['\n']) = before ++
        ⟨(cut c (r ++ ['\n'])).kind, l.gap, (cut c (r ++ ['\n'])).taken, l.start,
            (cut c (r ++ ['\n'])).unterminated⟩ ::
          scanFrom (l.start + size (cut c (r ++ ['\n'])).taken) (cut c (r ++ ['\n'])).rest := by
  induction offset, a using scanFrom.induct with
  | case1 offset a ha => simp [scanFrom_of_blank ha] at h
  | case2 offset a c r ha gap start k ih =>
    rw [scanFrom_of_cut ha] at h ⊢
    by_cases hu : (cut c r).unterminated
    · -- what is left open takes all, so it is the only lexeme
      have hrest : (cut c r).rest = [] := (resyncs_cut r [] c).2 hu
      have htaken : (cut c r).taken = c :: r := by
        rw [← (splits_cut c r).taken_append_rest, hrest, List.append_nil]
      rw [hrest, scanFrom_nil] at h ⊢
      obtain rfl := List.mem_singleton.1 h
      exact ⟨[], c, r, rfl, List.forall_mem_nil _, htaken, hu, rfl, scanFrom_append_cons ha ..⟩
    · -- the first lexeme is closed, so the open one is among those after it
      have hu := Bool.eq_false_iff.2 hu
      obtain rfl | h := List.mem_cons.1 h
      · rw [hu] at hl
        cases hl
      · obtain ⟨before, c', r', hscan, hbefore, htext, hopen, hkind, hbreak⟩ := ih h
        simp only [start, gap, k] at hscan hbreak
        let first : Lexeme := ⟨(cut c r).kind, a.takeWhile isBlank, (cut c r).taken,
          offset + size (a.takeWhile isBlank), (cut c r).unterminated⟩
        have hclosed : ∀ x ∈ first :: before, x.unterminated = false :=
          List.forall_mem_cons.2 ⟨hu, hbefore⟩
        refine ⟨first :: before, c', r', ?_, hclosed, htext, hopen, hkind, ?_⟩
        · rw [hscan]
          rfl
        · rw [scanFrom_append_of_cut ha hu, hbreak]
          rfl

/-- What one more line break does to the lexemes of a text. -/
inductive BreakStep (t : Text) : Prop
  /-- Nothing is open, and nothing changes. -/
  | closed (hclosed : ∀ l ∈ scan t, l.unterminated = false) (hbreak : scan (t ++ ['\n']) = scan t)
  /-- What is open takes it. -/
  | taken {before : List Lexeme} {l : Lexeme} (hscan : scan t = before ++ [l])
      (hbefore : ∀ x ∈ before, x.unterminated = false) (hopen : l.unterminated)
      (hroom : l.kind = .char → 0 < charRoom l.text)
      (hbreak : scan (t ++ ['\n']) = before ++ [{ l with text := l.text ++ ['\n'] }])
  /-- The quote of an open character literal is a stray one now. -/
  | stray {before rest : List Lexeme} {l quote : Lexeme} (hscan : scan t = before ++ [l])
      (hbefore : ∀ x ∈ before, x.unterminated = false) (hopen : l.unterminated)
      (hchar : l.kind = .char) (hfull : charRoom l.text = 0)
      (hbreak : scan (t ++ ['\n']) = before ++ quote :: rest) (hquote : quote.kind = .unknown)
      (hterminated : quote.unterminated = false)

/-- A line break at the end of a text does one of three things to its lexemes. -/
theorem breakStep (t : Text) : BreakStep t := by
  by_cases hopen : ∃ l ∈ scan t, l.unterminated
  · obtain ⟨l, hl, hl'⟩ := hopen
    obtain ⟨before, c, r, hscan, hbefore, htext, hcut, hkind, hbreak⟩ :=
      exists_scanFrom_append_open hl hl'
    by_cases hroom : l.kind = .char → 0 < charRoom l.text
    · -- the lexeme that is open takes the line break, and then all there is
      have hroom' : (cut c r).kind = .char → 0 < charRoom (c :: r) := by rwa [hkind, ← htext]
      obtain ⟨hkind', hopen'⟩ := cut_break_of_room hcut hroom'
      have hrest : (cut c (r ++ ['\n'])).rest = [] := (resyncs_cut (r ++ ['\n']) [] c).2 hopen'
      have htaken : (cut c (r ++ ['\n'])).taken = l.text ++ ['\n'] := by
        rw [htext, List.cons_append, ← (splits_cut c (r ++ ['\n'])).taken_append_rest, hrest,
          List.append_nil]
      rw [hrest, scanFrom_nil, hkind', hkind, hopen', htaken, ← hl'] at hbreak
      exact .taken hscan hbefore hl' hroom hbreak
    · -- a character literal without room falls apart, and begins with a stray quote
      obtain ⟨hchar, hfull⟩ := Classical.not_imp.1 hroom
      have hfull : charRoom l.text = 0 := Nat.eq_zero_of_not_pos hfull
      have hstray := cut_break_eq_stray hcut (hkind.trans hchar) (htext ▸ hfull)
      rw [hstray] at hbreak
      exact .stray hscan hbefore hl' hchar hfull hbreak rfl rfl
  · have hclosed : ∀ l ∈ scan t, l.unterminated = false := by simpa using hopen
    obtain ⟨gap, -, -, hbreak⟩ := scanFrom_append_break 0 t [] hclosed
    rw [scanFrom_nil, widenGap, List.append_nil] at hbreak
    exact .closed hclosed hbreak

end Lexeme
end StatementReader
