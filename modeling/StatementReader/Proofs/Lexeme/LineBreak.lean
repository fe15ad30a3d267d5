import StatementReader.Lexeme.Scan
import Mathlib.Data.List.TakeWhile

/-!
# Lexemes around a line break

A line break ends every lexeme but a literal or a block comment that is still open. So the lexemes
of a text stay as they are when a line break and more text follow it, up to one that the end of the
text left open, and what follows is cut as if it stood alone (`scan_append_newline`).

The proof goes through the ways of cutting one by one: each looks at characters in front of the line
break only, or at the line break itself, where no word, number or operator goes on.
-/

namespace StatementReader
namespace Lexeme

open Text

/-! ### Looking for marks and classes of characters -/

/-- A mark does not reach over a line break. -/
theorem isPrefixOf_append_break {mark : Text} (hm : '\n' ∉ mark) (s b : Text) :
    mark.isPrefixOf (s ++ '\n' :: b) = mark.isPrefixOf s := by
  induction mark generalizing s with
  | nil => rfl
  | cons m mark ih =>
    simp only [List.mem_cons, not_or] at hm
    cases s with
    | nil =>
      have hne : (m == '\n') = false := beq_eq_false_iff_ne.2 (Ne.symm hm.1)
      simp [List.isPrefixOf, hne]
    | cons c s => simp only [List.cons_append, List.isPrefixOf, ih hm.2]

/-- What ends at a line break does not look behind it. -/
theorem takeWhile_append_break {p : Char → Bool} (hp : p '\n' = false) (s b : Text) :
    (s ++ '\n' :: b).takeWhile p = s.takeWhile p := by
  induction s with
  | nil => simp [hp]
  | cons c s ih => simp only [List.cons_append, List.takeWhile_cons, ih]

/-- What is left then goes on with the line break. -/
theorem dropWhile_append_break {p : Char → Bool} (hp : p '\n' = false) (s b : Text) :
    (s ++ '\n' :: b).dropWhile p = s.dropWhile p ++ '\n' :: b := by
  induction s with
  | nil => simp [hp]
  | cons c s ih =>
    simp only [List.cons_append, List.dropWhile_cons, ih]
    split <;> rfl

/-- A comment begins with marks on one line. -/
theorem startsComment_append_break (s b : Text) :
    startsComment (s ++ '\n' :: b) = startsComment s := by
  simp only [startsComment, isPrefixOf_append_break (by decide : '\n' ∉ "//".toList),
    isPrefixOf_append_break (by decide : '\n' ∉ "/*".toList)]

/-- A mark that was found is found at the same place. -/
theorem splitAfter?_append_break {mark s t r : Text} (hm : '\n' ∉ mark)
    (h : splitAfter? mark s = some (t, r)) (b : Text) :
    splitAfter? mark (s ++ '\n' :: b) = some (t, r ++ '\n' :: b) := by
  induction s generalizing t r with
  | nil => simp [splitAfter?] at h
  | cons c s ih =>
    simp only [splitAfter?] at h
    rw [List.cons_append, splitAfter?, ← List.cons_append, isPrefixOf_append_break hm]
    split at h
    · next hp =>
      -- the mark is right here, and it does not reach the line break
      have hle : mark.length ≤ (c :: s).length := (List.isPrefixOf_iff_prefix.1 hp).length_le
      obtain ⟨rfl, rfl⟩ := Prod.mk.inj (Option.some.inj h)
      rw [if_pos hp, List.drop_append_of_le_length hle]
    · next hp =>
      obtain ⟨⟨t', r'⟩, h', heq⟩ := Option.map_eq_some_iff.1 h
      obtain ⟨rfl, rfl⟩ := Prod.mk.inj heq
      rw [if_neg hp, ih h']
      rfl

/-! ### Each way of cutting -/

/-- The same cut, with a line break and more text after it. -/
def Cut.before (k : Cut) (b : Text) : Cut := { k with rest := k.rest ++ '\n' :: b }

/-- The first cut is repeated in front of a line break, unless it is unterminated. Then nothing is
left by it. -/
def Cut.Resyncs (k k' : Cut) (b : Text) : Prop :=
  (k.unterminated = false → k' = k.before b) ∧ (k.unterminated → k.rest = [])

/-- A cut that is closed is the same before a line break. -/
theorem Cut.Resyncs.of_eq {k k' : Cut} {b : Text} (h : k' = k.before b)
    (hu : k.unterminated = false) : k.Resyncs k' b :=
  ⟨fun _ => h, fun hu' => by simp [hu] at hu'⟩

/-- A cut that is open has taken everything there was. -/
theorem Cut.Resyncs.of_unterminated {k k' : Cut} {b : Text} (hu : k.unterminated)
    (hr : k.rest = []) : k.Resyncs k' b :=
  ⟨fun hu' => by simp [hu] at hu', fun _ => hr⟩

variable (s b : Text)

/-- A line comment ends at the line break. -/
theorem resyncs_cutLineComment :
    (cutLineComment s).Resyncs (cutLineComment (s ++ '\n' :: b)) b := by
  refine .of_eq ?_ rfl
  have hp : (fun c : Char => decide (c ≠ '\n')) '\n' = false := by decide
  rw [cutLineComment, takeWhile_append_break hp, dropWhile_append_break hp]
  rfl

/-- What a closing mark ends is either closed before the line break, or open. -/
theorem resyncs_cutDelimited (kind : LexemeKind) {opening closing : Text} (hc : '\n' ∉ closing)
    (ho : opening.length ≤ s.length) :
    (cutDelimited kind opening closing s).Resyncs
      (cutDelimited kind opening closing (s ++ '\n' :: b)) b := by
  unfold cutDelimited
  rw [List.drop_append_of_le_length ho, List.take_append_of_le_length ho]
  -- either the closing mark stands before the line break, or it was never found
  cases h : splitAfter? closing (s.drop opening.length) with
  | none => exact .of_unterminated rfl rfl
  | some tr =>
    rw [splitAfter?_append_break hc h]
    exact .of_eq rfl rfl

/-- A fraction has its digits on one line. -/
theorem cutFraction_append_break :
    cutFraction (s ++ '\n' :: b) = (cutFraction s).map fun (t, r) => (t, r ++ '\n' :: b) := by
  have hp : isDigitOrUnderscore '\n' = false := by decide
  cases s with
  | nil => rfl
  | cons c s =>
    -- a fraction begins with a point and a digit, so it depends on two characters
    by_cases hc : c = '.'
    · subst hc
      cases s with
      | nil => rfl
      | cons d s =>
        simp only [List.cons_append, cutFraction]
        split
        · rw [← List.cons_append, takeWhile_append_break hp, dropWhile_append_break hp]
          rfl
        · rfl
    · simp [cutFraction, hc]

/-- A suffix is one letter, which a line break is not. -/
theorem resyncs_cutSuffix (kind : LexemeKind) (taken : Text) :
    (cutSuffix kind taken s).Resyncs (cutSuffix kind taken (s ++ '\n' :: b)) b := by
  cases s with
  | nil => exact .of_eq (by simp [cutSuffix, Cut.before]) rfl
  | cons c s =>
    simp only [List.cons_append, cutSuffix]
    split
    · exact .of_eq rfl rfl
    · split <;> exact .of_eq rfl rfl

/-- A number ends at the line break. -/
theorem resyncs_cutNumber : (cutNumber s).Resyncs (cutNumber (s ++ '\n' :: b)) b := by
  have hp : isDigitOrUnderscore '\n' = false := by decide
  simp only [cutNumber, takeWhile_append_break hp, dropWhile_append_break hp,
    cutFraction_append_break]
  cases cutFraction (s.dropWhile isDigitOrUnderscore) with
  | none => exact resyncs_cutSuffix _ b _ _
  | some fr => exact resyncs_cutSuffix _ b _ _

/-- A quote that was found ends the string. -/
theorem splitString_append_break (h : (splitString s).2.2) :
    splitString (s ++ '\n' :: b) =
      ((splitString s).1, (splitString s).2.1 ++ '\n' :: b, true) := by
  fun_induction splitString s with
  | case1 => simp at h
  | case2 => rfl
  | case3 c s t r closed hs ih => simp_all [splitString]
  | case4 c s hq hb t r closed hs ih =>
    -- behind a backslash that ends the text no quote would have been found
    have hb' : ∀ d r, c = '\\' → s ++ '\n' :: b = d :: r → False := by
      rintro d r rfl hd
      cases s with
      | nil => simp [splitString] at hs; simp_all
      | cons d s => exact hb d s rfl rfl
    rw [List.cons_append, splitString.eq_4 _ _ hq hb']
    simp_all

/-- A string that is not closed takes all that is left. -/
theorem splitString_rest_of_open (h : (splitString s).2.2 = false) : (splitString s).2.1 = [] := by
  fun_induction splitString s <;> simp_all

/-- A string is either closed before the line break, or open. -/
theorem resyncs_cutString : (cutString s).Resyncs (cutString (s ++ '\n' :: b)) b := by
  unfold cutString
  rw [isPrefixOf_append_break (by decide)]
  split
  · next hp =>
    -- the string begins with three quotes, and may hold line breaks
    exact resyncs_cutDelimited s b _ (by decide) (List.isPrefixOf_iff_prefix.1 hp).length_le
  · cases s with
    | nil => exact .of_unterminated rfl rfl
    | cons c s =>
      simp only [List.cons_append, List.drop_succ_cons, List.drop_zero]
      cases hc : (splitString s).2.2 with
      -- the closing quote is found in both texts at the same place
      | true =>
        rw [splitString_append_break s b hc]
        exact .of_eq (by simp [Cut.before]) (by simp)
      -- an open string goes to the end of the text
      | false => exact .of_unterminated (by simp) (splitString_rest_of_open s hc)

/-- A character literal is either closed before the line break, or open. -/
theorem resyncs_closeChar (c : Char) (taken r : Text) :
    (closeChar (c :: s) taken r).Resyncs
      (closeChar (c :: (s ++ '\n' :: b)) taken (r ++ '\n' :: b)) b := by
  cases r with
  | nil => exact .of_unterminated rfl rfl
  | cons d r =>
    by_cases hd : d = '\''
    · subst hd
      exact .of_eq rfl rfl
    · refine .of_eq ?_ ?_ <;> simp [closeChar, Cut.before, hd]

/-- So it is with its first character or its escape. -/
theorem resyncs_cutChar : (cutChar s).Resyncs (cutChar (s ++ '\n' :: b)) b := by
  match s with
  | [] => exact .of_unterminated rfl rfl
  | [q] => exact .of_unterminated rfl rfl
  | q :: c :: s =>
    by_cases hc : c = '\\'
    · subst hc
      cases s with
      | nil => exact .of_unterminated rfl rfl
      | cons c s => exact resyncs_closeChar ('\\' :: c :: s) b q _ s
    · -- without a backslash one character is taken before the closing quote
      have hcut (s : Text) : cutChar (q :: c :: s) = closeChar (q :: c :: s) [q, c] s := by
        simp [cutChar, hc]
      rw [List.cons_append, List.cons_append, hcut, hcut]
      exact resyncs_closeChar (c :: s) b q _ s

/-- A word ends at the line break. -/
theorem resyncs_cutWord : (cutWord s).Resyncs (cutWord (s ++ '\n' :: b)) b := by
  have hp : isWordChar '\n' = false := by decide
  refine .of_eq ?_ rfl
  rw [cutWord, takeWhile_append_break hp, dropWhile_append_break hp]
  rfl

/-- An operator ends at the line break. -/
theorem splitOperator_append_break :
    splitOperator (s ++ '\n' :: b) = ((splitOperator s).1, (splitOperator s).2 ++ '\n' :: b) := by
  induction s with
  | nil => rfl
  | cons c s ih =>
    rw [List.cons_append, splitOperator, ← List.cons_append, startsComment_append_break, ih,
      splitOperator]
    split <;> rfl

/-- So its cut is the same. -/
theorem resyncs_cutOperator : (cutOperator s).Resyncs (cutOperator (s ++ '\n' :: b)) b := by
  refine .of_eq ?_ rfl
  rw [cutOperator, splitOperator_append_break]
  rfl

/-- Every cut is repeated in front of a line break, unless it is unterminated. -/
theorem resyncs_cut (c : Char) : (cut c s).Resyncs (cut c (s ++ '\n' :: b)) b := by
  unfold cut
  rw [← List.cons_append, isPrefixOf_append_break (by decide), isPrefixOf_append_break (by decide)]
  -- both texts begin with the same character, so that the same kind of lexeme is cut from them
  split
  · exact resyncs_cutLineComment _ b
  split
  · next hp =>
    exact resyncs_cutDelimited _ b _ (by decide) (List.isPrefixOf_iff_prefix.1 hp).length_le
  split
  · exact resyncs_cutNumber _ b
  split
  · exact resyncs_cutString _ b
  split
  · exact resyncs_cutChar _ b
  split
  · exact resyncs_cutWord _ b
  split
  · exact .of_eq rfl rfl
  split
  · exact resyncs_cutOperator _ b
  · exact .of_eq rfl rfl

/-! ### Scanning -/

/-- Where all is blank there are no lexemes. -/
theorem scanFrom_of_blank {s : Text} (h : s.dropWhile isBlank = []) (offset : Nat) :
    scanFrom offset s = [] := by
  rw [scanFrom]
  split
  · rfl
  · next hc => simp [h] at hc

/-- The first lexeme is cut behind the blanks, and the others are scanned from what it leaves. -/
theorem scanFrom_of_cut {s : Text} {c : Char} {r : Text} (h : s.dropWhile isBlank = c :: r)
    (offset : Nat) : scanFrom offset s =
      ⟨(cut c r).kind, s.takeWhile isBlank, (cut c r).taken, offset + size (s.takeWhile isBlank),
          (cut c r).unterminated⟩ ::
        scanFrom (offset + size (s.takeWhile isBlank) + size (cut c r).taken) (cut c r).rest := by
  rw [scanFrom]
  split
  · next hc => simp [h] at hc
  · next hc =>
    obtain ⟨rfl, rfl⟩ := List.cons.inj (h.symm.trans hc)
    rfl

/-- The lexeme of a text that begins `k` bytes later. -/
def shift (k : Nat) (l : Lexeme) : Lexeme := { l with start := l.start + k }

/-- The lexemes do not depend on where a text begins, but for their offsets. -/
theorem scanFrom_add (offset k : Nat) (s : Text) :
    scanFrom (offset + k) s = (scanFrom offset s).map (shift k) := by
  induction offset, s using scanFrom.induct with
  | case1 offset s h => rw [scanFrom_of_blank h, scanFrom_of_blank h, List.map_nil]
  | case2 offset s c r h gap start cut ih =>
    rw [scanFrom_of_cut h, scanFrom_of_cut h, List.map_cons, ← ih, shift]
    simp only [Nat.add_right_comm _ k]
    rfl

/-- The lexemes of a text that does not begin at the beginning, but for their offsets. -/
theorem scan_map_shift (offset : Nat) (s : Text) :
    (scan s).map (shift offset) = scanFrom offset s := by
  rw [← Nat.zero_add offset, scanFrom_add, Nat.zero_add, scan]

/-- A row of lexemes with more in front of it that is no lexeme. -/
def widenGap (gap : Text) : List Lexeme → List Lexeme
  | [] => []
  | l :: ls => { l with gap := gap ++ l.gap } :: ls

/-- Blank space in front of a text. -/
theorem scanFrom_append_of_blank {a : Text} (h : ∀ c ∈ a, isBlank c) (offset : Nat) (b : Text) :
    scanFrom offset (a ++ b) = widenGap a (scanFrom (offset + size a) b) := by
  have hdrop : (a ++ b).dropWhile isBlank = b.dropWhile isBlank :=
    List.dropWhile_append_of_pos h
  -- the blanks of both parts make one gap in front of the first lexeme
  cases hb : b.dropWhile isBlank with
  | nil => rw [scanFrom_of_blank hb, scanFrom_of_blank (hdrop.trans hb), widenGap]
  | cons c r =>
    rw [scanFrom_of_cut hb, scanFrom_of_cut (hdrop.trans hb), List.takeWhile_append_of_pos h,
      widenGap]
    simp only [size_append, Nat.add_assoc]

/-- The first lexeme of a text that is not blank is cut from its first character on, whatever
follows. -/
theorem scanFrom_append_cons {a : Text} {c : Char} {r : Text} (h : a.dropWhile isBlank = c :: r)
    (offset : Nat) (b : Text) : scanFrom offset (a ++ b) =
      ⟨(cut c (r ++ b)).kind, a.takeWhile isBlank, (cut c (r ++ b)).taken,
          offset + size (a.takeWhile isBlank), (cut c (r ++ b)).unterminated⟩ ::
        scanFrom (offset + size (a.takeWhile isBlank) + size (cut c (r ++ b)).taken)
          (cut c (r ++ b)).rest := by
  have hdrop : (a ++ b).dropWhile isBlank = c :: (r ++ b) := by
    rw [List.dropWhile_append, h]
    rfl
  have htake : (a ++ b).takeWhile isBlank = a.takeWhile isBlank := by
    rw [List.takeWhile_append, if_neg]
    -- blanks that filled the first text would leave nothing of it
    have hl := congrArg List.length (List.takeWhile_append_dropWhile (p := isBlank) (l := a))
    rw [List.length_append, h, List.length_cons] at hl
    omega
  rw [scanFrom_of_cut hdrop, htake]

/-- The first lexeme of a text, unless it is left open, and then the rest with more lines. -/
theorem scanFrom_append_of_cut {a : Text} {c : Char} {r : Text} (h : a.dropWhile isBlank = c :: r)
    (hu : (cut c r).unterminated = false) (offset : Nat) (b : Text) :
    scanFrom offset (a ++ '\n' :: b) =
      ⟨(cut c r).kind, a.takeWhile isBlank, (cut c r).taken, offset + size (a.takeWhile isBlank),
          (cut c r).unterminated⟩ ::
        scanFrom (offset + size (a.takeWhile isBlank) + size (cut c r).taken)
          ((cut c r).rest ++ '\n' :: b) := by
  rw [scanFrom_append_cons h, (resyncs_cut r b c).1 hu]
  rfl

/-- The text that a row of lexemes takes up. -/
def join (ls : List Lexeme) : Text := ls.flatMap fun l => l.gap ++ l.text

@[simp] theorem join_nil : join [] = [] := rfl

@[simp] theorem join_cons (l : Lexeme) (ls : List Lexeme) :
    join (l :: ls) = l.gap ++ (l.text ++ join ls) := by
  simp [join]

/-- The texts of two rows of lexemes follow each other. -/
@[simp] theorem join_append (ls ms : List Lexeme) : join (ls ++ ms) = join ls ++ join ms := by
  simp [join]

/-- The lexemes of a text and of another one on the next lines. What the first text ends with after
its last lexeme, and the line break, stand in front of the first lexeme of the second. -/
theorem scanFrom_append_break (offset : Nat) (a b : Text)
    (h : ∀ l ∈ scanFrom offset a, l.unterminated = false) :
    ∃ gap, a = join (scanFrom offset a) ++ gap ∧ (∀ c ∈ gap, isBlank c) ∧
      scanFrom offset (a ++ '\n' :: b) =
        scanFrom offset a ++ widenGap (gap ++ ['\n']) (scanFrom (offset + size a + 1) b) := by
  induction offset, a using scanFrom.induct with
  | case1 offset a ha =>
    -- no lexeme: all of the first text goes to the gap
    have hgap : ∀ c ∈ a, isBlank c := List.dropWhile_eq_nil_iff.1 ha
    have hblank : ∀ c ∈ a ++ ['\n'], isBlank c := by
      intro c hc
      rcases List.mem_append.1 hc with hc | hc
      · exact hgap c hc
      · rw [List.mem_singleton.1 hc]
        decide
    have hsize : size (a ++ ['\n']) = size a + 1 := size_append a ['\n']
    rw [scanFrom_of_blank ha]
    refine ⟨a, rfl, hgap, ?_⟩
    rw [List.append_cons, scanFrom_append_of_blank hblank, hsize, List.nil_append, Nat.add_assoc]
  | case2 offset a c r ha gap start k ih =>
    have hcut : gap ++ (k.taken ++ k.rest) = a := by
      rw [(splits_cut c r).taken_append_rest, ← ha]
      exact List.takeWhile_append_dropWhile
    -- the first lexeme is cut off as it was, since it is not left open
    rw [scanFrom_of_cut ha] at h ⊢
    have hu := h _ List.mem_cons_self
    obtain ⟨last, hjoin, hblank, heq⟩ := ih fun l hl => h l (List.mem_cons_of_mem _ hl)
    refine ⟨last, ?_, hblank, ?_⟩
    · rw [join_cons, List.append_assoc, List.append_assoc]
      calc a = gap ++ (k.taken ++ k.rest) := hcut.symm
        _ = gap ++ (k.taken ++ (join (scanFrom (start + size k.taken) k.rest) ++ last)) := by
          rw [← hjoin]
    · have hsize : offset + size a = start + size k.taken + size k.rest := by
        rw [← hcut]
        simp only [size_append, start, Nat.add_assoc]
      rw [scanFrom_append_of_cut ha hu, hsize, heq]
      rfl

/-- If no lexeme of a text is left open, then more text on the next line does not change how it is
cut. What is on the next line is cut as it is alone, so much further on, and only the gap in front
of its first lexeme is wider. -/
theorem scan_append_newline {a : Text} (hclosed : ∀ l ∈ scan a, l.unterminated = false) (b : Text) :
    ∃ gap, a = join (scan a) ++ gap ∧ (∀ c ∈ gap, isBlank c) ∧
      scan (a ++ '\n' :: b) =
        scan a ++ widenGap (gap ++ ['\n']) ((scan b).map (shift (size a + 1))) := by
  obtain ⟨gap, hjoin, hblank, hscan⟩ := scanFrom_append_break 0 a b hclosed
  refine ⟨gap, hjoin, hblank, ?_⟩
  calc scan (a ++ '\n' :: b)
      = scan a ++ widenGap (gap ++ ['\n']) (scanFrom (0 + size a + 1) b) := hscan
    _ = scan a ++ widenGap (gap ++ ['\n']) ((scan b).map (shift (size a + 1))) := by
      rw [scan_map_shift, Nat.zero_add]

/-- The quote at the end of a line comment does not open a literal, whatever the next line has. -/
theorem scan_append_newline_comment : (∀ l ∈ scan "+ //'".toList, l.unterminated = false) ∧
    scan "+ //'\n'x'\"".toList =
      scan "+ //'".toList ++ widenGap ['\n'] ((scan "'x'\"".toList).map (shift 6)) := by
  have hclosed : ∀ l ∈ scan "+ //'".toList, l.unterminated = false := by decide +kernel
  obtain ⟨gap, hjoin, -, hscan⟩ := scan_append_newline hclosed "'x'\"".toList
  -- the comment goes on to the end of its line
  have hall : join (scan "+ //'".toList) = "+ //'".toList := by decide +kernel
  rw [hall, List.self_eq_append_right] at hjoin
  rw [hjoin] at hscan
  exact ⟨hclosed, hscan⟩

/-- Lexemes that are not left open are the same whatever follows on the next lines. -/
theorem exists_scanFrom_append_break (offset : Nat) (a b : Text) :
    ∃ more, scanFrom offset (a ++ '\n' :: b) =
      (scanFrom offset a).takeWhile (!·.unterminated) ++ more := by
  induction offset, a using scanFrom.induct with
  | case1 offset a ha => exact ⟨_, by rw [scanFrom_of_blank ha]; rfl⟩
  | case2 offset a c r ha gap start k ih =>
    rw [scanFrom_of_cut ha]
    -- nothing is said of what comes after an unterminated lexeme, and there may be more of it
    by_cases hu : (cut c r).unterminated
    · exact ⟨_, by rw [List.takeWhile_cons_of_neg (by simp [hu]), List.nil_append]⟩
    · have hu := Bool.eq_false_iff.2 hu
      obtain ⟨more, hmore⟩ := ih
      refine ⟨more, ?_⟩
      rw [scanFrom_append_of_cut ha hu, hmore, List.takeWhile_cons_of_pos (by simp [hu])]
      rfl

/-- A lexeme that is left open is the last one. -/
theorem getLast?_scanFrom {offset : Nat} {s : Text} {l : Lexeme} (h : l ∈ scanFrom offset s)
    (hl : l.unterminated) : (scanFrom offset s).getLast? = some l := by
  induction offset, s using scanFrom.induct with
  | case1 offset s hs => simp [scanFrom_of_blank hs] at h
  | case2 offset s c r hs gap start k ih =>
    rw [scanFrom_of_cut hs, List.mem_cons] at h
    rw [scanFrom_of_cut hs, List.getLast?_cons]
    -- the lexeme that is open is the first one, and then it has taken everything
    rcases h with rfl | h
    · rw [(resyncs_cut r [] c).2 hl, scanFrom_of_blank rfl]
      rfl
    · have hlast := ih h
      simp only [start, gap, k] at hlast
      rw [hlast]
      rfl

/-- A lexeme takes some of the text, and ends within it. -/
theorem bounds_of_mem {offset : Nat} {s : Text} {l : Lexeme} (h : l ∈ scanFrom offset s) :
    l.start < l.stop ∧ l.stop ≤ offset + size s := by
  induction offset, s using scanFrom.induct with
  | case1 offset s hs => simp [scanFrom_of_blank hs] at h
  | case2 offset s c r hs gap start k ih =>
    have hcut := splits_cut c r
    have hgap := congrArg size (List.takeWhile_append_dropWhile (p := isBlank) (l := s))
    rw [hs, size_append, ← hcut.taken_append_rest, size_append] at hgap
    rw [scanFrom_of_cut hs, List.mem_cons] at h
    -- a lexeme is not empty, and it lies within what has been cut
    rcases h with rfl | h
    · have hpos : 0 < size k.taken :=
        Nat.pos_of_ne_zero fun h => hcut.taken_ne_nil (size_eq_zero.1 h)
      simp only [stop, k] at hpos ⊢
      omega
    · have hrest := ih h
      simp only [start, gap, k] at hrest
      omega

end Lexeme
end StatementReader
