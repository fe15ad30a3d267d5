import Mathlib.Data.List.Infix
import StatementReader.Proofs.Lexeme.LineBreak

/-!
# Lexemes of an excerpt

A part of a text that consists of whole lexemes is cut into these lexemes again if it stands alone
(`scanFrom_join`). What came before them never matters. What came after them may have been looked
at, to see that a number, a word or an operator does not go on, and the end of the text answers
that question in the same way.

There are two exceptions. An operator ends in front of a comment, so the excerpt must not end inside
the two characters that open one (`CutShort`); it does not, if it ends with a lexeme or with blank
space. And a stray quote is one only because of what comes after it (`isStray`). At the end of a
text it opens a literal. What a text leaves open is no exception, since nothing comes after it.
-/

namespace StatementReader
namespace Lexeme

open Text

/-! ### What is left, cut short -/

/-- What begins with a comment does so with more behind it. -/
theorem startsComment_mono {s t : Text} (h : s <+: t) (hs : startsComment s) :
    startsComment t := by
  simp only [startsComment, Bool.or_eq_true, List.isPrefixOf_iff_prefix] at hs ⊢
  exact hs.imp (·.trans h) (·.trans h)

/-- `r` is an initial part of `rest` that does not end inside the mark of a comment at its
beginning. -/
structure CutShort (r rest : Text) : Prop where
  isPrefix : r <+: rest
  comment : startsComment rest → r = [] ∨ startsComment r

/-- The same cut, with less after it. -/
def Cut.leaving (k : Cut) (r : Text) : Cut := { k with rest := r }

section

variable {s r : Text} {p : Char → Bool}

/-- What stopped a row of characters of a class still does. -/
theorem takeWhile_leaving (h : r <+: s.dropWhile p) :
    (s.takeWhile p ++ r).takeWhile p = s.takeWhile p ∧ (s.takeWhile p ++ r).dropWhile p = r := by
  have hall : ∀ c ∈ s.takeWhile p, p c := fun c hc => List.mem_takeWhile_imp hc
  rw [List.takeWhile_append_of_pos hall, List.dropWhile_append_of_pos hall]
  cases r with
  | nil => simp
  | cons c r =>
    obtain ⟨more, hmore⟩ := h
    have hstop := List.head?_dropWhile_not p s
    rw [← hmore] at hstop
    have hc : p c = false := hstop
    simp [hc]

/-! ### Each way of cutting -/

/-- A line comment is cut again before the end of its line, or before nothing. -/
theorem cutLineComment_leaving (h : r <+: (cutLineComment s).rest) :
    cutLineComment ((cutLineComment s).taken ++ r) = (cutLineComment s).leaving r := by
  obtain ⟨htake, hdrop⟩ := takeWhile_leaving h
  rw [cutLineComment, cutLineComment, htake, hdrop]
  rfl

/-- What is taken up to a mark ends with it. -/
theorem suffix_of_splitAfter? {mark t rest : Text} (h : splitAfter? mark s = some (t, rest)) :
    mark <:+ t := by
  induction s generalizing t with
  | nil => simp [splitAfter?] at h
  | cons c s ih =>
    rw [splitAfter?] at h
    split at h
    · -- the mark is right in front, so it is all that is taken
      obtain ⟨rfl, -⟩ := Prod.mk.inj (Option.some.inj h)
      exact List.suffix_rfl
    · obtain ⟨⟨t', rest'⟩, h', heq⟩ := Option.map_eq_some_iff.1 h
      obtain ⟨rfl, rfl⟩ := Prod.mk.inj heq
      exact (ih h').trans (List.suffix_cons c t')

/-- A mark is found where it was, whatever comes after it. -/
theorem splitAfter?_leaving {mark t rest : Text} (hmark : mark ≠ [])
    (h : splitAfter? mark s = some (t, rest)) (r : Text) :
    splitAfter? mark (t ++ r) = some (t, r) := by
  induction s generalizing t with
  | nil => simp [splitAfter?] at h
  | cons c s ih =>
    rw [splitAfter?] at h
    split at h
    · obtain ⟨rfl, -⟩ := Prod.mk.inj (Option.some.inj h)
      obtain ⟨m, mark, rfl⟩ := List.exists_cons_of_ne_nil hmark
      have hp : (m :: mark).isPrefixOf (m :: (mark ++ r)) :=
        List.isPrefixOf_iff_prefix.2 (List.prefix_append _ r)
      rw [List.cons_append, splitAfter?, if_pos hp, ← List.cons_append, List.drop_left]
    · next hc =>
      obtain ⟨⟨t', rest'⟩, h', heq⟩ := Option.map_eq_some_iff.1 h
      obtain ⟨rfl, rfl⟩ := Prod.mk.inj heq
      have hprefix : t' <+: s := ⟨rest', splitAfter?_append h'⟩
      -- an earlier mark would have ended before this one, and so have been found
      have hno : ¬ mark.isPrefixOf (c :: (t' ++ r)) := by
        intro hp
        have hlength : mark.length ≤ (c :: t').length :=
          Nat.le_succ_of_le (suffix_of_splitAfter? h').length_le
        have hshort : mark <+: c :: t' := List.prefix_of_prefix_length_le
          (List.isPrefixOf_iff_prefix.1 hp) (List.prefix_append (c :: t') r) hlength
        exact hc (List.isPrefixOf_iff_prefix.2 (hshort.trans (List.prefix_cons_inj c |>.2 hprefix)))
      rw [List.cons_append, splitAfter?, if_neg hno, ih h']
      rfl

/-- What a closing mark has ended does not depend on what comes after it. -/
theorem cutDelimited_leaving {kind : LexemeKind} {opening closing : Text} (hclosing : closing ≠ [])
    (hopening : opening <+: s)
    (hu : (cutDelimited kind opening closing s).unterminated = false) (r : Text) :
    cutDelimited kind opening closing ((cutDelimited kind opening closing s).taken ++ r) =
      (cutDelimited kind opening closing s).leaving r := by
  obtain ⟨s, rfl⟩ := hopening
  unfold cutDelimited at hu ⊢
  rw [List.drop_left, List.take_left] at hu ⊢
  -- what is not closed is not terminated, so the closing mark was found
  cases h : splitAfter? closing s with
  | none =>
    rw [h] at hu
    cases hu
  | some tr =>
    obtain ⟨t, rest⟩ := tr
    dsimp only
    rw [List.append_assoc, List.drop_left, List.take_left, splitAfter?_leaving hclosing h]
    rfl

/-- What is cut between two marks begins with the first one. -/
theorem prefix_taken_cutDelimited (kind : LexemeKind) {opening : Text} (closing : Text)
    (hopening : opening <+: s) : opening <+: (cutDelimited kind opening closing s).taken := by
  obtain ⟨s, rfl⟩ := hopening
  unfold cutDelimited
  rw [List.drop_left, List.take_left]
  split <;> exact List.prefix_append _ _

/-! ### Numbers -/

/-- A fraction is cut again before the beginning of what followed it. -/
theorem cutFraction_leaving {t rest : Text} (h : cutFraction s = some (t, rest))
    (hr : r <+: rest) : cutFraction (t ++ r) = some (t, r) := by
  unfold cutFraction at h
  split at h
  · next d s =>
    split at h
    · next hd =>
      obtain ⟨rfl, rfl⟩ := Prod.mk.inj (Option.some.inj h)
      -- the digits end where they did, since what follows begins as it did
      obtain ⟨htake, hdrop⟩ := takeWhile_leaving hr
      have hdigit : isDigitOrUnderscore d := by simp [isDigitOrUnderscore, hd]
      rw [List.takeWhile_cons_of_pos hdigit] at htake hdrop ⊢
      simp only [List.cons_append] at htake hdrop ⊢
      simp only [cutFraction, hd, if_true, htake, hdrop]
    · cases h
  · cases h

/-- Less of a text has no fraction either. -/
theorem cutFraction_eq_none {t : Text} (h : cutFraction t = none) (hs : s <+: t) :
    cutFraction s = none := by
  obtain ⟨more, rfl⟩ := hs
  unfold cutFraction at h ⊢
  split
  · split
    · simp_all
    · rfl
  · rfl

/-- The letter after a number is read again, or missed again. -/
theorem cutSuffix_leaving {kind : LexemeKind} {taken rest : Text}
    (hr : r <+: (cutSuffix kind taken rest).rest) :
    ∃ letter, letter ++ (cutSuffix kind taken rest).rest = rest ∧
      (cutSuffix kind taken rest).taken = taken ++ letter ∧
      cutSuffix kind taken (letter ++ r) = (cutSuffix kind taken rest).leaving r := by
  cases rest with
  | nil =>
    obtain rfl := List.prefix_nil.1 hr
    exact ⟨[], rfl, (List.append_nil _).symm, rfl⟩
  | cons c rest =>
    -- what stands after the letter has no say in any of the three cases
    by_cases hlong : kind = .int ∧ c ∈ ['L', 'l']
    · have hcut (r : Text) : cutSuffix kind taken (c :: r) = ⟨.int, taken ++ [c], r, false⟩ :=
        if_pos hlong
      rw [hcut]
      exact ⟨[c], rfl, rfl, hcut r⟩
    · by_cases hfloat : c ∈ ['f', 'F', 'd', 'D']
      · have hcut (r : Text) : cutSuffix kind taken (c :: r) = ⟨.float, taken ++ [c], r, false⟩ :=
          (if_neg hlong).trans (if_pos hfloat)
        rw [hcut]
        exact ⟨[c], rfl, rfl, hcut r⟩
      · have hcut (r : Text) : cutSuffix kind taken (c :: r) = ⟨kind, taken, c :: r, false⟩ :=
          (if_neg hlong).trans (if_neg hfloat)
        rw [hcut] at hr ⊢
        refine ⟨[], rfl, (List.append_nil _).symm, ?_⟩
        cases r with
        | nil => rfl
        | cons d r =>
          obtain ⟨rfl, -⟩ := List.cons_prefix_cons.1 hr
          exact hcut r

/-- A number is cut again before the beginning of what followed it. -/
theorem cutNumber_leaving (h : r <+: (cutNumber s).rest) :
    cutNumber ((cutNumber s).taken ++ r) = (cutNumber s).leaving r := by
  -- with or without a fraction, it is the letter at the end that has to be read again
  have hcut (kind : LexemeKind) (fraction rest : Text)
      (htail : fraction ++ rest = s.dropWhile isDigitOrUnderscore)
      (hnumber : ∀ r, r <+: rest → cutNumber (s.takeWhile isDigitOrUnderscore ++ (fraction ++ r)) =
        cutSuffix kind (s.takeWhile isDigitOrUnderscore ++ fraction) r) :
      cutNumber ((cutNumber s).taken ++ r) = (cutNumber s).leaving r := by
    -- the number as it is cut here is the case in which nothing has been left out
    have hself : cutNumber s =
        cutSuffix kind (s.takeWhile isDigitOrUnderscore ++ fraction) rest := by
      rw [← hnumber rest List.prefix_rfl, htail, List.takeWhile_append_dropWhile]
    rw [hself] at h ⊢
    obtain ⟨letter, hletter, htaken, hleaving⟩ := cutSuffix_leaving h
    have hprefix : letter ++ r <+: rest := by
      rw [← hletter]
      exact (List.prefix_append_right_inj letter).2 h
    rw [htaken, ← hleaving, ← hnumber _ hprefix]
    simp only [List.append_assoc]
  have htake (fraction rest r : Text) (htail : fraction ++ rest = s.dropWhile isDigitOrUnderscore)
      (hr : r <+: rest) := takeWhile_leaving (s := s) (p := isDigitOrUnderscore)
        (r := fraction ++ r) (htail ▸ (List.prefix_append_right_inj fraction).2 hr)
  -- the fraction is read again as it was, and so is that there is none
  cases hfraction : cutFraction (s.dropWhile isDigitOrUnderscore) with
  | none =>
    refine hcut .int [] _ rfl fun r hr => ?_
    obtain ⟨hdigits, hrest⟩ := htake [] _ r rfl hr
    rw [cutNumber, hdigits, hrest]
    simp [cutFraction_eq_none hfraction hr]
  | some cut =>
    obtain ⟨fraction, rest⟩ := cut
    refine hcut .float fraction rest (cutFraction_append hfraction) fun r hr => ?_
    obtain ⟨hdigits, hrest⟩ := htake fraction rest r (cutFraction_append hfraction) hr
    rw [cutNumber, hdigits, hrest]
    simp [cutFraction_leaving hfraction hr]

/-! ### Quoted literals -/

/-- A quote that was found ends the string, whatever comes after it. -/
theorem splitString_leaving (h : (splitString s).2.2) (r : Text) :
    splitString ((splitString s).1 ++ r) = ((splitString s).1, r, true) := by
  fun_induction splitString s with
  | case1 => simp at h
  | case2 => rfl
  | case3 c s t r' closed hs ih => simp_all [splitString]
  | case4 c s hq hb t r' closed hs ih =>
    -- the character was no escape, and none begins with it in less of the text
    have hb' : ∀ d u, c = '\\' → t ++ r = d :: u → False := by
      rintro d u rfl -
      cases s with
      | nil => simp [splitString] at hs; simp_all
      | cons d s => exact hb d s rfl rfl
    rw [List.cons_append, splitString.eq_4 _ _ hq hb']
    simp_all

/-- A string that is closed is cut again, before anything. -/
theorem cutString_leaving (hu : (cutString s).unterminated = false)
    (h : r <+: (cutString s).rest) :
    cutString ((cutString s).taken ++ r) = (cutString s).leaving r := by
  cases s with
  | nil => cases hu
  | cons c s =>
    by_cases hthree : "\"\"\"".toList.isPrefixOf (c :: s)
    · have hcut : cutString (c :: s) =
          cutDelimited .str "\"\"\"".toList "\"\"\"".toList (c :: s) := if_pos hthree
      have hopening := List.isPrefixOf_iff_prefix.1 hthree
      rw [hcut] at hu ⊢
      -- the three quotes at the beginning are still there
      have hagain := (prefix_taken_cutDelimited .str "\"\"\"".toList hopening).trans
        (List.prefix_append _ r)
      rw [cutString, if_pos (List.isPrefixOf_iff_prefix.2 hagain)]
      exact cutDelimited_leaving (by decide) hopening hu r
    · have hcut : cutString (c :: s) =
          ⟨.str, c :: (splitString s).1, (splitString s).2.1, !(splitString s).2.2⟩ := if_neg hthree
      have hprefix : (cutString (c :: s)).taken ++ r <+: c :: s := by
        have hsplits : (cutString (c :: s)).Splits (c :: s) := splits_cutString
        conv_rhs => rw [← hsplits.taken_append_rest]
        exact (List.prefix_append_right_inj _).2 h
      rw [hcut] at hu hprefix ⊢
      -- three quotes at the beginning of less would have been there before
      have hno : ¬ "\"\"\"".toList.isPrefixOf (c :: ((splitString s).1 ++ r)) := fun hp =>
        hthree (List.isPrefixOf_iff_prefix.2 ((List.isPrefixOf_iff_prefix.1 hp).trans hprefix))
      have hclosed : (splitString s).2.2 := by simpa using hu
      rw [List.cons_append, cutString, if_neg hno]
      simp only [List.drop_succ_cons, List.drop_zero, splitString_leaving hclosed, Cut.leaving,
        hclosed]
      rfl

/-- A character literal that is closed is closed again, before anything. -/
theorem closeChar_leaving {taken rest t : Text} (hu : (closeChar s taken rest).unterminated = false)
    (hk : (closeChar s taken rest).kind ≠ .unknown) (r : Text) :
    ∃ more, rest = '\'' :: more ∧ (closeChar s taken rest).taken = taken ++ ['\''] ∧
      closeChar t taken ('\'' :: r) = (closeChar s taken rest).leaving r := by
  cases rest with
  | nil => cases hu
  | cons d more =>
    by_cases hd : d = '\''
    · subst hd
      exact ⟨more, rfl, rfl, rfl⟩
    · simp [closeChar, hd] at hk

/-- What a quote has ended after one character does not depend on what comes after it. -/
theorem cutChar_leaving (hu : (cutChar s).unterminated = false) (hk : (cutChar s).kind ≠ .unknown)
    (r : Text) : cutChar ((cutChar s).taken ++ r) = (cutChar s).leaving r := by
  match s with
  | [] => cases hu
  | [q] => cases hu
  | q :: c :: s =>
    by_cases hc : c = '\\'
    · -- an escape, whose closing quote is one character further on
      subst hc
      cases s with
      | nil => cases hu
      | cons c s =>
        obtain ⟨more, rfl, htaken, hclose⟩ := closeChar_leaving (t := q :: '\\' :: c :: '\'' :: r)
          hu hk r
        show cutChar ((closeChar _ _ _).taken ++ r) = _
        rw [htaken]
        exact hclose
    · have hcut (s : Text) : cutChar (q :: c :: s) = closeChar (q :: c :: s) [q, c] s := by
        simp [cutChar, hc]
      rw [hcut] at hu hk ⊢
      obtain ⟨more, rfl, htaken, hclose⟩ := closeChar_leaving (t := q :: c :: '\'' :: r) hu hk r
      rw [htaken]
      exact (hcut ('\'' :: r)).trans hclose

/-- A quote that is no character literal is taken alone. -/
theorem taken_closeChar_of_unknown {taken rest : Text}
    (hk : (closeChar s taken rest).kind = .unknown) :
    (closeChar s taken rest).taken = s.take 1 := by
  revert hk
  unfold closeChar
  split
  · exact fun hk => by cases hk
  · exact fun hk => by cases hk
  · exact fun _ => rfl

/-- A quote that opens no literal is a lexeme by itself. -/
theorem taken_cutChar_of_unknown (hk : (cutChar s).kind = .unknown) :
    (cutChar s).taken = s.take 1 := by
  revert hk
  unfold cutChar
  split
  · exact taken_closeChar_of_unknown
  · exact fun hk => by cases hk
  · exact taken_closeChar_of_unknown
  · exact fun hk => by cases hk

/-! ### Words and operators -/

/-- A word is cut again before the beginning of what followed it. -/
theorem cutWord_leaving (h : r <+: (cutWord s).rest) :
    cutWord ((cutWord s).taken ++ r) = (cutWord s).leaving r := by
  obtain ⟨htake, hdrop⟩ := takeWhile_leaving h
  rw [cutWord, cutWord, htake, hdrop]
  rfl

/-- An operator is cut again where no comment begins that did not do so before. -/
theorem splitOperator_leaving (h : CutShort r (splitOperator s).2) :
    splitOperator ((splitOperator s).1 ++ r) = ((splitOperator s).1, r) := by
  induction s with
  | nil =>
    obtain rfl := List.prefix_nil.1 h.isPrefix
    rfl
  | cons c s ih =>
    by_cases hc : operatorChars.contains c && !startsComment (c :: s)
    · have hsplit : splitOperator (c :: s) = (c :: (splitOperator s).1, (splitOperator s).2) :=
        if_pos hc
      rw [hsplit] at h ⊢
      have hprefix : (splitOperator s).1 ++ r <+: s := by
        conv_rhs => rw [← splitOperator_append s]
        exact (List.prefix_append_right_inj _).2 h.isPrefix
      obtain ⟨hop, hcomment⟩ := Bool.and_eq_true_iff.1 hc
      -- a comment that begins in less of the text would begin in all of it
      have hcomment' : startsComment (c :: ((splitOperator s).1 ++ r)) = false := by
        by_contra hstarts
        have hthere := startsComment_mono ((List.prefix_cons_inj c).2 hprefix)
          (eq_true_of_ne_false hstarts)
        rw [hthere] at hcomment
        cases hcomment
      rw [List.cons_append, splitOperator, hop, hcomment', ih h]
      rfl
    · have hsplit : splitOperator (c :: s) = ([], c :: s) := if_neg hc
      rw [hsplit] at h ⊢
      cases r with
      | nil => rfl
      | cons d r =>
        obtain ⟨rfl, -⟩ := List.cons_prefix_cons.1 h.isPrefix
        -- what ends the operator is no operator character, or it is a comment
        refine if_neg fun hd => hc ?_
        obtain ⟨hop, hcomment⟩ := Bool.and_eq_true_iff.1 hd
        rw [hop, Bool.true_and]
        by_contra hstarts
        rcases h.comment (by simpa using hstarts) with hnil | hr
        · cases hnil
        · rw [hr] at hcomment
          cases hcomment

/-- So it is as a lexeme. -/
theorem cutOperator_leaving (h : CutShort r (cutOperator s).rest) :
    cutOperator ((cutOperator s).taken ++ r) = (cutOperator s).leaving r := by
  have hsplit : splitOperator ((cutOperator s).taken ++ r) = ((cutOperator s).taken, r) :=
    splitOperator_leaving h
  rw [cutOperator, hsplit]
  rfl

/-- What is left open takes all there is, so less cannot come after it. -/
theorem cut_leaving_of_unterminated {c : Char} {s s' r : Text} (hu : (cut c s).unterminated)
    (hr : r <+: (cut c s).rest) (hs : c :: s' = (cut c s).taken ++ r) :
    cut c s' = (cut c s).leaving r := by
  have hrest : (cut c s).rest = [] := (resyncs_cut s [] c).2 hu
  obtain rfl : r = [] := List.prefix_nil.1 (hrest ▸ hr)
  have hall : c :: s' = c :: s := by
    rw [hs, ← (splits_cut c s).taken_append_rest, hrest]
  obtain ⟨-, rfl⟩ := List.cons.inj hall
  rw [Cut.leaving, ← hrest]

/-- A line comment stays one. -/
theorem cut_leaving_of_lineComment {c : Char} {s s' r : Text}
    (hline : "//".toList.isPrefixOf (c :: s)) (hr : r <+: (cut c s).rest)
    (hs : c :: s' = (cut c s).taken ++ r) : cut c s' = (cut c s).leaving r := by
  have hcut : cut c s = cutLineComment (c :: s) := if_pos hline
  have hagain : "//".toList.isPrefixOf (c :: s') := by
    obtain ⟨more, hmore⟩ := List.isPrefixOf_iff_prefix.1 hline
    rw [hcut, ← hmore] at hs
    simp only [hs, List.isPrefixOf_iff_prefix]
    exact ⟨more.takeWhile (· ≠ '\n') ++ r, rfl⟩
  rw [hcut] at hr hs ⊢
  rw [cut, if_pos hagain, hs]
  exact cutLineComment_leaving hr

/-- A block comment that is closed stays one, before anything. -/
theorem cut_leaving_of_blockComment {c : Char} {s s' r : Text}
    (hline : ¬ "//".toList.isPrefixOf (c :: s)) (hline' : ¬ "//".toList.isPrefixOf (c :: s'))
    (hblock : "/*".toList.isPrefixOf (c :: s)) (hu : (cut c s).unterminated = false)
    (hs : c :: s' = (cut c s).taken ++ r) : cut c s' = (cut c s).leaving r := by
  have hcut : cut c s = cutDelimited .comment "/*".toList "*/".toList (c :: s) :=
    (if_neg hline).trans (if_pos hblock)
  have hopening := List.isPrefixOf_iff_prefix.1 hblock
  rw [hcut] at hu hs ⊢
  have hagain : "/*".toList <+: c :: s' := by
    rw [hs]
    exact (prefix_taken_cutDelimited .comment "*/".toList hopening).trans (List.prefix_append _ r)
  rw [cut, if_neg hline', if_pos (List.isPrefixOf_iff_prefix.2 hagain), hs]
  exact cutDelimited_leaving (by decide) hopening hu r

/-- What has been cut off is cut off again, with less after it, but for a stray quote. The cases are
those of `cut`: comments are known by two characters, and all other lexemes by the first one. -/
theorem cut_leaving {c : Char} {s s' r : Text} (hu : (cut c s).unterminated = false)
    (hk : (cut c s).kind = .unknown → c ≠ '\'') (hr : CutShort r (cut c s).rest)
    (hs : c :: s' = (cut c s).taken ++ r) : cut c s' = (cut c s).leaving r := by
  have hprefix : c :: s' <+: c :: s := by
    rw [hs]
    conv_rhs => rw [← (splits_cut c s).taken_append_rest]
    exact (List.prefix_append_right_inj _).2 hr.isPrefix
  have hno (mark : Text) (h : ¬ mark.isPrefixOf (c :: s)) : ¬ mark.isPrefixOf (c :: s') := fun hp =>
    h (List.isPrefixOf_iff_prefix.2 ((List.isPrefixOf_iff_prefix.1 hp).trans hprefix))
  -- the first characters decide which cut is made, and they are the same in both texts
  by_cases hline : "//".toList.isPrefixOf (c :: s)
  · exact cut_leaving_of_lineComment hline hr.isPrefix hs
  by_cases hblock : "/*".toList.isPrefixOf (c :: s)
  · exact cut_leaving_of_blockComment hline (hno _ hline) hblock hu hs
  -- less of the text begins no comment either, so its first character decides as before
  unfold cut at hu hk hr hs ⊢
  rw [if_neg hline, if_neg hblock] at hu hk hr hs
  rw [if_neg hline, if_neg hblock, if_neg (hno _ hline), if_neg (hno _ hblock)]
  by_cases hdigit : c.isDigit
  · simp only [hdigit, if_true] at hr hs ⊢
    rw [hs]
    exact cutNumber_leaving hr.isPrefix
  by_cases hstring : c = '"'
  · subst hstring
    show cutString ('"' :: s') = (cutString ('"' :: s)).leaving r
    rw [hs]
    exact cutString_leaving hu hr.isPrefix
  by_cases hchar : c = '\''
  · subst hchar
    show cutChar ('\'' :: s') = (cutChar ('\'' :: s)).leaving r
    rw [hs]
    exact cutChar_leaving hu (fun hunknown => hk hunknown rfl) r
  by_cases hword : isWordStart c
  · simp only [hdigit, hstring, hchar, hword, if_true, Bool.false_eq_true, if_false] at hr hs ⊢
    rw [hs]
    exact cutWord_leaving hr.isPrefix
  by_cases hpunct : punctuationChars.contains c
  · simp only [hdigit, hstring, hchar, hword, hpunct, if_true, Bool.false_eq_true, if_false]
      at hs ⊢
    obtain ⟨-, rfl⟩ := List.cons.inj hs
    rfl
  by_cases hop : operatorChars.contains c
  · simp only [hdigit, hstring, hchar, hword, hpunct, hop, if_true, Bool.false_eq_true, if_false]
      at hr hs ⊢
    rw [hs]
    exact cutOperator_leaving hr
  · -- a character of no class is a lexeme by itself
    simp only [hdigit, hstring, hchar, hword, hpunct, hop, Bool.false_eq_true, if_false] at hs ⊢
    obtain ⟨-, rfl⟩ := List.cons.inj hs
    rfl

end

/-! ### Rows of lexemes -/

/-- A quote that opens no character literal. -/
def isStray (l : Lexeme) : Bool := l.kind == .unknown && l.text == ['\'']

/-- A lexeme of a known kind is no stray quote. -/
theorem not_isStray {l : Lexeme} (h : l.kind ≠ .unknown) : ¬ l.isStray := by simp [isStray, h]

/-- A row of lexemes begins with blank space and what is cut off after it. -/
theorem scanFrom_eq_cons_iff {offset : Nat} {s : Text} {l : Lexeme} {ls : List Lexeme} :
    scanFrom offset s = l :: ls ↔ ∃ gap c t, s = gap ++ c :: t ∧ (∀ d ∈ gap, isBlank d) ∧
      isBlank c = false ∧ l = ⟨(cut c t).kind, gap, (cut c t).taken, offset + size gap,
        (cut c t).unterminated⟩ ∧ scanFrom l.stop (cut c t).rest = ls := by
  constructor
  · -- the gap is the blank space that is dropped
    intro h
    cases hs : s.dropWhile isBlank with
    | nil =>
      rw [scanFrom_of_blank hs] at h
      cases h
    | cons c t =>
      have hc := List.head?_dropWhile_not isBlank s
      rw [hs] at hc
      rw [scanFrom_of_cut hs] at h
      obtain ⟨rfl, hrest⟩ := List.cons.inj h
      refine ⟨s.takeWhile isBlank, c, t, ?_, fun d hd => List.mem_takeWhile_imp hd, hc, rfl, hrest⟩
      rw [← hs, List.takeWhile_append_dropWhile]
  · rintro ⟨gap, c, t, rfl, hgap, hc, rfl, rfl⟩
    -- the gap is what is blank in front, as the first other character shows
    have hdrop : (gap ++ c :: t).dropWhile isBlank = c :: t := by
      rw [List.dropWhile_append_of_pos hgap, List.dropWhile_cons_of_neg (by simp [hc])]
    have htake : (gap ++ c :: t).takeWhile isBlank = gap := by
      rw [List.takeWhile_append_of_pos hgap, List.takeWhile_cons_of_neg (by simp [hc]),
        List.append_nil]
    rw [scanFrom_of_cut hdrop, htake]
    rfl

/-- Where the lexemes of a text are divided, so is the text. -/
theorem exists_eq_join_append {offset : Nat} {s : Text} {ls ms : List Lexeme}
    (h : scanFrom offset s = ls ++ ms) :
    ∃ r, s = join ls ++ r ∧ scanFrom (offset + size (join ls)) r = ms := by
  induction ls generalizing offset s with
  | nil => exact ⟨s, rfl, h⟩
  | cons l ls ih =>
    obtain ⟨gap, c, t, rfl, -, -, rfl, hrest⟩ := scanFrom_eq_cons_iff.1 h
    obtain ⟨r, hr, hscan⟩ := ih hrest
    refine ⟨r, ?_, ?_⟩
    · -- the gap and the first lexeme, and then what was left after its cut
      rw [join_cons, List.append_assoc, List.append_assoc, ← hr, (splits_cut c t).taken_append_rest]
    · rw [← hscan, stop]
      simp only [join_cons, size_append, Nat.add_assoc]

/-- Where a lexeme stands in the text, what it has been cut from, and what comes after it. -/
theorem exists_cut {offset : Nat} {s : Text} {l : Lexeme} {ls ms : List Lexeme}
    (h : scanFrom offset s = ls ++ l :: ms) :
    ∃ c r, s = join ls ++ (l.gap ++ c :: r) ∧ (∀ d ∈ l.gap, isBlank d) ∧ isBlank c = false ∧
      l = ⟨(cut c r).kind, l.gap, (cut c r).taken, offset + size (join ls) + size l.gap,
        (cut c r).unterminated⟩ ∧ scanFrom l.stop (cut c r).rest = ms := by
  obtain ⟨tail, rfl, htail⟩ := exists_eq_join_append h
  obtain ⟨gap, c, r, rfl, hgap, hc, rfl, hrest⟩ := scanFrom_eq_cons_iff.1 htail
  exact ⟨c, r, rfl, hgap, hc, rfl, hrest⟩

/-- A lexeme starts behind those before it and behind its gap. -/
theorem start_eq {offset : Nat} {s : Text} {l : Lexeme} {ls ms : List Lexeme}
    (h : scanFrom offset s = ls ++ l :: ms) :
    l.start = offset + size (join ls) + size l.gap := by
  obtain ⟨c, r, -, -, -, hl, -⟩ := exists_cut h
  exact congrArg Lexeme.start hl

/-- No lexeme starts before the scan. -/
theorem le_start_of_mem {offset : Nat} {s : Text} {l : Lexeme} (h : l ∈ scanFrom offset s) :
    offset ≤ l.start := by
  obtain ⟨ls, ms, hscan⟩ := List.append_of_mem h
  rw [start_eq hscan]
  omega

/-- The lexemes of a text come one after the other. -/
theorem pairwise_scanFrom (offset : Nat) (s : Text) :
    (scanFrom offset s).Pairwise (·.stop ≤ ·.start) := by
  generalize h : scanFrom offset s = ls
  induction ls generalizing offset s with
  | nil => exact .nil
  | cons l ls ih =>
    obtain ⟨gap, c, t, -, -, -, -, hrest⟩ := scanFrom_eq_cons_iff.1 h
    exact .cons (fun x hx => le_start_of_mem (hrest ▸ hx)) (ih _ _ hrest)

/-- A comment begins where its lexeme does. -/
theorem startsComment_taken {c : Char} {s : Text} (h : startsComment (c :: s)) :
    startsComment (cut c s).taken := by
  by_cases hline : "//".toList.isPrefixOf (c :: s)
  · have hcut : cut c s = cutLineComment (c :: s) := if_pos hline
    obtain ⟨more, hmore⟩ := List.isPrefixOf_iff_prefix.1 hline
    rw [hcut, ← hmore]
    rfl
  · -- no line comment begins here, so a block comment does
    have hblock : "/*".toList.isPrefixOf (c :: s) := (Bool.or_eq_true_iff.1 h).resolve_left hline
    have hcut : cut c s = cutDelimited .comment "/*".toList "*/".toList (c :: s) :=
      (if_neg hline).trans (if_pos hblock)
    rw [hcut, startsComment, List.isPrefixOf_iff_prefix.2 (prefix_taken_cutDelimited .comment
      "*/".toList (List.isPrefixOf_iff_prefix.1 hblock)), Bool.or_true]

/-- A comment does not begin with blank space. -/
theorem startsComment_of_isBlank {c : Char} (hc : isBlank c) (s : Text) :
    startsComment (c :: s) = false := by
  have hne : c ≠ '/' := by
    rintro rfl
    revert hc
    decide
  have hmark (d : Char) : ['/', d].isPrefixOf (c :: s) = false := by
    rw [List.isPrefixOf, beq_eq_false_iff_ne.2 hne.symm, Bool.false_and]
  exact Bool.or_eq_false_iff.2 ⟨hmark '/', hmark '*'⟩

/-- A text that ends with whole lexemes, or with blank space after them, does not end inside the
mark of a comment. -/
theorem cutShort_join {offset : Nat} {s b r : Text} {ls ms : List Lexeme}
    (h : scanFrom offset s = ls ++ ms) (hs : s = join ls ++ r) (hb : b <+: r)
    (hblank : ∀ c ∈ b, isBlank c) : CutShort (join ls ++ b) s := by
  refine ⟨by rw [hs]; exact (List.prefix_append_right_inj _).2 hb, fun hcomment => ?_⟩
  -- a comment that the text begins with is its first lexeme, which blank space is not
  cases ls with
  | nil =>
    cases b with
    | nil => exact .inl rfl
    | cons c b =>
      obtain ⟨more, hmore⟩ := hb
      have hc := startsComment_of_isBlank (hblank c List.mem_cons_self) (b ++ more)
      rw [hs, join_nil, List.nil_append, ← hmore, List.cons_append, hc] at hcomment
      cases hcomment
  | cons l ls =>
    obtain ⟨gap, c, t, rfl, hgap, -, rfl, -⟩ := scanFrom_eq_cons_iff.1 h
    cases gap with
    | nil =>
      refine .inr (startsComment_mono ?_ (startsComment_taken hcomment))
      rw [join_cons, List.nil_append, List.append_assoc]
      exact List.prefix_append _ _
    | cons d gap =>
      have hd := startsComment_of_isBlank (hgap d List.mem_cons_self) (gap ++ c :: t)
      rw [List.cons_append, hd] at hcomment
      cases hcomment

/-- Whole lexemes of a text are its lexemes if they stand alone, with blank space after them or
without. -/
theorem scanFrom_join {offset : Nat} {s b r : Text} {ls ms : List Lexeme}
    (h : scanFrom offset s = ls ++ ms) (hs : s = join ls ++ r) (hb : b <+: r)
    (hblank : ∀ c ∈ b, isBlank c) (hls : ∀ l ∈ ls, ¬ l.isStray) :
    scanFrom offset (join ls ++ b) = ls := by
  induction ls generalizing offset s with
  | nil => exact scanFrom_of_blank (List.dropWhile_eq_nil_iff.2 hblank) offset
  | cons l ls ih =>
    obtain ⟨gap, c, t, rfl, hgap, hc, rfl, hrest⟩ := scanFrom_eq_cons_iff.1 h
    set k := cut c t
    have hsplits : k.taken ++ k.rest = c :: t := (splits_cut c t).taken_append_rest
    have hsplit : k.rest = join ls ++ r := by
      rw [join_cons, List.append_assoc, List.append_assoc, ← hsplits] at hs
      exact List.append_cancel_left (List.append_cancel_left hs)
    -- what is cut off begins with the same character
    obtain ⟨t', ht'⟩ : ∃ t', c :: t' = k.taken ++ (join ls ++ b) := by
      obtain ⟨d, u, hd⟩ := List.exists_cons_of_ne_nil (splits_cut c t).taken_ne_nil
      rw [hd] at hsplits
      obtain ⟨rfl, -⟩ := List.cons.inj hsplits
      exact ⟨u ++ (join ls ++ b), by rw [hd]; rfl⟩
    have hshort : CutShort (join ls ++ b) k.rest := cutShort_join hrest hsplit hb hblank
    have hknown : k.kind = .unknown → c ≠ '\'' := by
      rintro hunknown rfl
      have htaken : k.taken = ['\''] := taken_cutChar_of_unknown (s := '\'' :: t) hunknown
      exact hls _ List.mem_cons_self (by simp [isStray, hunknown, htaken])
    -- one that is left open has nothing after it, neither here nor there
    have hcut : cut c t' = k.leaving (join ls ++ b) := by
      cases hu : k.unterminated with
      | true => exact cut_leaving_of_unterminated hu hshort.isPrefix ht'
      | false => exact cut_leaving hu hknown hshort ht'
    refine scanFrom_eq_cons_iff.2 ⟨gap, c, t', ?_, hgap, hc, ?_, ?_⟩
    · rw [ht', join_cons, List.append_assoc, List.append_assoc]
    · rw [hcut]
      rfl
    · rw [hcut]
      exact ih hrest hsplit fun l hl => hls l (List.mem_cons_of_mem _ hl)

end Lexeme
end StatementReader
