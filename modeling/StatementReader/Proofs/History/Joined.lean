import Mathlib.Data.List.Basic
import StatementReader.Proofs.History.Record

/-!
# A record behind something else

A record that is appended to a line on which something stands already is not read from that line
(`HistoryRecord.decode?_append_encode`). This does not depend on what stands there, which may be cut
short anywhere, in the middle of a string too.

The brace of the record can only be in a token that begins before it if that token is a string. Then
the quote behind the brace ends that string, and the name of the first member comes next, which is
no token. Otherwise the tokens of the record are the last ones of the line
(`HistoryRecord.tokens_suffix_of_scanUpTo`). They are a whole value, so a line of which they are the
end is a value only if there is no token before them (`HistoryRecord.readFrom_of_suffix`).
-/

namespace StatementReader

namespace JsonToken

/-! ### Tokens before a brace -/

variable {s rest behind : Text}

/-- Digits end before a brace. -/
theorem suffix_dropWhile {p : Char → Bool} {c : Char} (hc : p c = false) (h : c :: behind <:+ s) :
    c :: behind <:+ s.dropWhile p := by
  induction s with
  | nil => exact h
  | cons d s ih =>
    obtain h | h := List.suffix_cons_iff.1 h
    · -- the character is the first, and nothing is dropped
      obtain ⟨rfl, rfl⟩ := List.cons.inj h
      have hkept : (c :: behind).dropWhile p = c :: behind :=
        List.dropWhile_cons_of_neg (by simp [hc])
      exact ⟨[], hkept.symm⟩
    · by_cases hd : p d
      · rw [List.dropWhile_cons_of_pos hd]
        exact ih h
      · rw [List.dropWhile_cons_of_neg hd]
        exact h.trans (List.suffix_cons d s)

theorem suffix_of_skipDigits? (h : '\x7b' :: behind <:+ s) (hskip : skipDigits? s = some rest) :
    '\x7b' :: behind <:+ rest := by
  unfold skipDigits? at hskip
  split at hskip
  · obtain rfl := Option.some.inj hskip
    exact suffix_dropWhile rfl h
  · cases hskip

/-- What is a part of a row but does not begin it is a part of the rest. -/
theorem suffix_of_ne {c d : Char} (hne : c ≠ d) (h : c :: behind <:+ d :: s) : c :: behind <:+ s :=
  (List.suffix_cons_iff.1 h).resolve_left fun heq => hne (List.cons.inj heq).1

theorem suffix_of_skipWhole? (h : '\x7b' :: behind <:+ s) (hskip : skipWhole? s = some rest) :
    '\x7b' :: behind <:+ rest := by
  unfold skipWhole? at hskip
  split at hskip
  · split at hskip
    · cases hskip
    · obtain rfl := Option.some.inj hskip
      exact suffix_of_ne (by decide) h
  · exact suffix_of_skipDigits? h hskip

theorem suffix_of_skipFraction? (h : '\x7b' :: behind <:+ s) (hskip : skipFraction? s = some rest) :
    '\x7b' :: behind <:+ rest := by
  unfold skipFraction? at hskip
  split at hskip
  · exact suffix_of_skipDigits? (suffix_of_ne (by decide) h) hskip
  · obtain rfl := Option.some.inj hskip
    exact h

theorem suffix_of_skipExponent? (h : '\x7b' :: behind <:+ s) (hskip : skipExponent? s = some rest) :
    '\x7b' :: behind <:+ rest := by
  unfold skipExponent? at hskip
  split at hskip
  · next c s =>
    split at hskip
    · next hc =>
      -- the letter of an exponent is no brace, so the brace is behind it
      have hne : '\x7b' ≠ c := by
        rintro rfl
        revert hc
        decide
      have hs := suffix_of_ne hne h
      split at hskip
      · exact suffix_of_skipDigits? (suffix_of_ne (by decide) hs) hskip
      · exact suffix_of_skipDigits? (suffix_of_ne (by decide) hs) hskip
      · exact suffix_of_skipDigits? hs hskip
    · -- without an exponent nothing is skipped
      obtain rfl := Option.some.inj hskip
      exact h
  · obtain rfl := Option.some.inj hskip
    exact h

theorem suffix_of_skipNumber? (h : '\x7b' :: behind <:+ s) (hskip : skipNumber? s = some rest) :
    '\x7b' :: behind <:+ rest := by
  obtain ⟨whole, hwhole, hskip⟩ := Option.bind_eq_some_iff.1 hskip
  obtain ⟨fraction, hfraction, hskip⟩ := Option.bind_eq_some_iff.1 hskip
  have h := suffix_of_skipFraction? (suffix_of_skipWhole? h hwhole) hfraction
  exact suffix_of_skipExponent? h hskip

theorem hexUnit?_brace {a b c d : Char} (h : a = '\x7b' ∨ b = '\x7b' ∨ c = '\x7b' ∨ d = '\x7b') :
    hexUnit? a b c d = none := by
  have hbrace : hexValue? '\x7b' = none := by decide
  unfold hexUnit?
  obtain rfl | rfl | rfl | rfl := h
  · rw [hbrace]; rfl
  · rw [hbrace]; cases hexValue? a <;> rfl
  · rw [hbrace]; cases hexValue? a <;> cases hexValue? b <;> rfl
  · rw [hbrace]; cases hexValue? a <;> cases hexValue? b <;> cases hexValue? c <;> rfl

/-- A string ends before a brace with a quote behind it, or at that quote. -/
theorem suffix_of_readString {pieces : List Piece} (h : '\x7b' :: '"' :: behind <:+ s)
    (hread : readString s = some (pieces, rest)) :
    '\x7b' :: '"' :: behind <:+ rest ∨ rest = behind := by
  fun_induction readString s generalizing pieces rest with
  | case1 => cases hread
  | case2 s =>
    obtain ⟨-, rfl⟩ := Prod.mk.inj (Option.some.inj hread)
    exact .inl (suffix_of_ne (by decide) h)
  | case3 a b c d s ih =>
    obtain ⟨n, hn, hread⟩ := Option.bind_eq_some_iff.1 hread
    obtain ⟨⟨pieces, rest⟩, hs, hread⟩ := Option.bind_eq_some_iff.1 hread
    obtain ⟨-, rfl⟩ := Prod.mk.inj (Option.some.inj hread)
    -- the brace is none of the four digits
    have hbrace : ¬ (a = '\x7b' ∨ b = '\x7b' ∨ c = '\x7b' ∨ d = '\x7b') := fun hbrace => by
      simp [hexUnit?_brace hbrace] at hn
    simp only [not_or] at hbrace
    refine ih ?_ hs
    refine suffix_of_ne (Ne.symm hbrace.2.2.2) (suffix_of_ne (Ne.symm hbrace.2.2.1) ?_)
    refine suffix_of_ne (Ne.symm hbrace.2.1) (suffix_of_ne (Ne.symm hbrace.1) ?_)
    exact suffix_of_ne (by decide) (suffix_of_ne (by decide) h)
  | case4 e s _ ih =>
    obtain ⟨c, hc, hread⟩ := Option.bind_eq_some_iff.1 hread
    obtain ⟨⟨pieces, rest⟩, hs, hread⟩ := Option.bind_eq_some_iff.1 hread
    obtain ⟨-, rfl⟩ := Prod.mk.inj (Option.some.inj hread)
    have hbrace : '\x7b' ≠ e := by
      rintro rfl
      simp [simpleEscape?] at hc
    exact ih (suffix_of_ne hbrace (suffix_of_ne (by decide) h)) hs
  | case5 => cases hread
  | case6 c s _ _ _ _ ih =>
    obtain ⟨⟨pieces, rest⟩, hs, hread⟩ := Option.bind_eq_some_iff.1 hread
    obtain ⟨-, rfl⟩ := Prod.mk.inj (Option.some.inj hread)
    obtain hhere | hlater := List.suffix_cons_iff.1 h
    · -- the brace is in the string, and so the quote behind it ends the string
      obtain ⟨rfl, rfl⟩ := List.cons.inj hhere
      exact .inr (Prod.mk.inj (Option.some.inj hs)).2.symm
    · exact ih hlater hs

/-- A word that holds no brace ends before it. -/
theorem suffix_of_isPrefixOf? {word : Text} (h : '\x7b' :: behind <:+ s) (hword : '\x7b' ∉ word)
    (hrest : word.isPrefixOf? s = some rest) : '\x7b' :: behind <:+ rest := by
  rw [← List.append_eq_of_isPrefixOf?_eq_some hrest] at h
  -- the induction is on a part of the word, which need not be all that stands there
  clear hrest
  induction word with
  | nil => exact h
  | cons d word ih =>
    obtain ⟨hd, hword⟩ := not_or.1 fun hmem => hword (List.mem_cons.2 hmem)
    exact ih (suffix_of_ne hd h) hword

/-- A token ends before a brace with a quote behind it, or is a string that ends at that quote. -/
theorem suffix_of_read? {c : Char} {token : JsonToken} (h : '\x7b' :: '"' :: behind <:+ s)
    (hread : read? c s = some (token, rest)) :
    '\x7b' :: '"' :: behind <:+ rest ∨ rest = behind := by
  unfold read? at hread
  split at hread
  -- the six marks are tokens by themselves
  iterate 6
    · obtain ⟨-, rfl⟩ := Prod.mk.inj (Option.some.inj hread)
      exact .inl h
  · obtain ⟨⟨pieces, rest⟩, hs, hread⟩ := Option.map_eq_some_iff.1 hread
    obtain ⟨-, rfl⟩ := Prod.mk.inj hread
    -- a string may end with the quotation mark of the record
    exact suffix_of_readString h hs
  · obtain ⟨rest, hs, hread⟩ := Option.map_eq_some_iff.1 hread
    obtain ⟨-, rfl⟩ := Prod.mk.inj hread
    exact .inl (suffix_of_skipNumber? h hs)
  -- the three words have no brace in them
  iterate 3
    · obtain ⟨rest, hs, hread⟩ := Option.map_eq_some_iff.1 hread
      obtain ⟨-, rfl⟩ := Prod.mk.inj hread
      exact .inl (suffix_of_isPrefixOf? h (by decide) hs)
  · obtain ⟨rest, hs, hread⟩ := Option.map_eq_some_iff.1 hread
    obtain ⟨-, rfl⟩ := Prod.mk.inj hread
    exact .inl (suffix_of_skipNumber? (h.trans (List.suffix_cons _ s)) hs)

/-- A text that has tokens is blank space, or begins with a token and goes on with the others. -/
theorem scanUpTo_cases {count : Nat} {ts : List JsonToken} (h : scanUpTo count s = some ts) :
    (s.dropWhile isSpace = [] ∧ ts = []) ∨
      ∃ n c s' token rest ts', count = n + 1 ∧ s.dropWhile isSpace = c :: s' ∧
        read? c s' = some (token, rest) ∧ scanUpTo n rest = some ts' ∧ ts = token :: ts' := by
  -- there is nothing but space left, or a token begins
  rcases hs : s.dropWhile isSpace with _ | ⟨c, s'⟩
  · rw [scanUpTo.eq_1 s count hs] at h
    exact .inl ⟨rfl, (Option.some.inj h).symm⟩
  rcases count with _ | n
  · rw [scanUpTo.eq_2 s c s' hs] at h
    cases h
  rw [scanUpTo.eq_3 s c s' n hs] at h
  obtain ⟨⟨token, rest⟩, hread, h⟩ := Option.bind_eq_some_iff.1 h
  obtain ⟨ts', hrest, h⟩ := Option.bind_eq_some_iff.1 h
  exact .inr ⟨n, c, s', token, rest, ts', rfl, rfl, hread, hrest, (Option.some.inj h).symm⟩

/-- More characters than enough are enough. -/
theorem scanUpTo_add {count : Nat} {ts : List JsonToken} (h : scanUpTo count s = some ts)
    (k : Nat) : scanUpTo (count + k) s = some ts := by
  induction count generalizing s ts with
  | zero =>
    obtain ⟨hs, rfl⟩ | ⟨n, _, _, _, _, _, hn, -⟩ := scanUpTo_cases h
    · exact scanUpTo.eq_1 s _ hs
    · cases hn
  | succ count ih =>
    obtain ⟨hs, rfl⟩ | ⟨n, c, s', token, rest, ts', hn, hs, hread, hrest, rfl⟩ := scanUpTo_cases h
    · exact scanUpTo.eq_1 s _ hs
    · obtain rfl := Nat.succ.inj hn
      rw [Nat.succ_add, scanUpTo_of_read? hs hread, ih hrest]
      rfl

end JsonToken

namespace HistoryRecord

open JsonToken

variable {r : HistoryRecord} {s : Text} {ts : List JsonToken}

/-- The name of the first member of a record is no token without the quotes around it. -/
theorem scanUpTo_name (count : Nat) (behind : Text) :
    scanUpTo count ('t' :: 'e' :: behind) = none := by
  rcases hscan : scanUpTo count ('t' :: 'e' :: behind) with _ | ts
  · rfl
  obtain ⟨hs, -⟩ | ⟨n, c, s, token, rest, -, -, hs, hread, -⟩ := scanUpTo_cases hscan
  · cases hs
  · obtain ⟨rfl, rfl⟩ := List.cons.inj hs
    cases hread

/-- A record has no other tokens than its own, however many characters are allowed for. -/
theorem eq_tokens_of_scanUpTo {count : Nat} (h : scanUpTo count r.encode = some ts) :
    ts = r.tokens := by
  have hmore := scanUpTo_add h 9
  rw [← List.nil_append r.encode, scanUpTo_encode r (List.forall_mem_nil _)] at hmore
  exact (Option.some.inj hmore).symm

/-- The tokens of what ends in a record end in those of the record. -/
theorem tokens_suffix_of_scanUpTo {count : Nat} (h : r.encode <:+ s)
    (hscan : scanUpTo count s = some ts) :
    r.tokens <:+ ts ∧ (ts = r.tokens → s.dropWhile isSpace = r.encode) := by
  obtain ⟨behind, henc⟩ : ∃ behind, r.encode = '\x7b' :: '"' :: 't' :: 'e' :: behind :=
    ⟨_, r.encode_eq⟩
  have hdropWhile {s : Text} (h : r.encode <:+ s) : r.encode <:+ s.dropWhile isSpace := by
    rw [henc] at h ⊢
    exact suffix_dropWhile rfl h
  -- the induction is on the tokens that are read before the record, which none of them reaches into
  induction count generalizing s ts with
  | zero =>
    have hdrop := hdropWhile h
    obtain ⟨hs, -⟩ | ⟨n, _, _, _, _, _, hn, -⟩ := scanUpTo_cases hscan
    · rw [hs, henc, List.suffix_nil] at hdrop
      cases hdrop
    · cases hn
  | succ count ih =>
    have hdrop := hdropWhile h
    obtain ⟨hs, -⟩ | ⟨n, c, s', token, rest, ts', hn, hs, hread, hrest, rfl⟩ :=
      scanUpTo_cases hscan
    · rw [hs, henc, List.suffix_nil] at hdrop
      cases hdrop
    obtain rfl := Nat.succ.inj hn
    rw [hs] at hdrop ⊢
    obtain hhere | hdrop := List.suffix_cons_iff.1 hdrop
    · -- the record begins here, and so its tokens are the next ones
      have hspace : r.encode.dropWhile isSpace = c :: s' := by
        rw [← hhere, henc]
        rfl
      have hrecord : scanUpTo (count + 1) r.encode = some (token :: ts') := by
        rw [scanUpTo_of_read? hspace hread, hrest]
        rfl
      rw [eq_tokens_of_scanUpTo hrecord]
      exact ⟨List.suffix_rfl, fun _ => hhere.symm⟩
    · rw [henc] at hdrop
      obtain hbehind | rfl := suffix_of_read? hdrop hread
      · rw [← henc] at hbehind
        have htokens := (ih hbehind hrest).1
        refine ⟨htokens.trans (List.suffix_cons token ts'), fun heq => ?_⟩
        have hlength := htokens.length_le
        rw [← heq, List.length_cons] at hlength
        omega
      · -- the brace is in a string, and what follows that string is no token
        rw [scanUpTo_name] at hrest
        cases hrest

/-- What is not the first of the tokens is a part of the others. -/
theorem tokens_suffix_of_ne {token : JsonToken} (hne : token ≠ .openBrace)
    (h : r.tokens <:+ token :: ts) : r.tokens <:+ ts :=
  (List.suffix_cons_iff.1 h).resolve_left fun heq => hne (List.cons.inj heq).1.symm

/-- The tokens of a record are no value where another value stands before them, or inside of an
array or object that is open. -/
theorem readFrom_tokens {phase : JsonValue.Phase} {frames : List JsonValue.Frame}
    (h : (∃ v, phase = .done v) ∨ frames ≠ []) :
    JsonValue.readFrom phase frames r.tokens = none := by
  rcases phase with _ | v
  · rcases frames with _ | ⟨frame, frames⟩
    · simp at h
    · cases frame <;> simp [tokens, JsonValue.readFrom]
  · rcases frames with _ | ⟨frame, frames⟩
    · simp [tokens, JsonValue.readFrom]
    · cases frame <;> simp [tokens, JsonValue.readFrom]

/-- A value ends in the tokens of a record only if there is nothing before these. -/
theorem readFrom_of_suffix {phase : JsonValue.Phase} {frames : List JsonValue.Frame}
    (h : r.tokens <:+ ts) (hbefore : ts = r.tokens → (∃ v, phase = .done v) ∨ frames ≠ []) :
    JsonValue.readFrom phase frames ts = none := by
  -- a step takes no token of the record as its second or third, since only `openBrace` begins one
  fun_induction JsonValue.readFrom phase frames ts with
  | case1 frames ts ih | case2 frames _ ts ih | case3 frames ts ih | case4 frames _ ts ih =>
    exact ih (tokens_suffix_of_ne (by simp) h) fun _ => .inl ⟨_, rfl⟩
  | case5 frames ts ih =>
    refine ih ?_ fun _ => .inl ⟨_, rfl⟩
    exact tokens_suffix_of_ne (by simp) (tokens_suffix_of_ne (by simp) h)
  | case6 frames ts _ ih =>
    exact ih (tokens_suffix_of_ne (by simp) h) fun _ => .inr (List.cons_ne_nil _ _)
  | case7 frames ts ih =>
    obtain hhere | h := List.suffix_cons_iff.1 h
    · cases hhere
    · exact ih (tokens_suffix_of_ne (by simp) h) fun _ => .inl ⟨_, rfl⟩
  | case8 frames key ts ih =>
    obtain hhere | h := List.suffix_cons_iff.1 h
    · -- the record stands where a value has been read already, which no document allows
      have hnone := readFrom_tokens (r := r) (hbefore hhere.symm)
      rw [hhere, JsonValue.readFrom] at hnone
      exact hnone
    · refine ih ?_ fun _ => .inr (List.cons_ne_nil _ _)
      exact tokens_suffix_of_ne (by simp) (tokens_suffix_of_ne (by simp) h)
  | case9 v => cases List.suffix_nil.1 h
  | case10 v items frames ts ih =>
    exact ih (tokens_suffix_of_ne (by simp) h) fun _ => .inr (List.cons_ne_nil _ _)
  | case11 v items frames ts ih | case13 v members key frames ts ih =>
    exact ih (tokens_suffix_of_ne (by simp) h) fun _ => .inl ⟨_, rfl⟩
  | case12 v members key frames next ts ih =>
    refine ih ?_ fun _ => .inr (List.cons_ne_nil _ _)
    exact tokens_suffix_of_ne (by simp) (tokens_suffix_of_ne (by simp)
      (tokens_suffix_of_ne (by simp) h))
  -- in every other case reading has failed
  | case14 => rfl

/-- A record is not read where anything but space stands before it. -/
theorem decode?_append_encode {t : Text} (h : ∃ c ∈ t, ¬ isSpace c) (r : HistoryRecord) :
    decode? (t ++ r.encode) = none := by
  rw [decode?, JsonValue.ofText?]
  rcases hscan : scan? (t ++ r.encode) with _ | ts
  · rfl
  obtain ⟨hsuffix, hall⟩ := tokens_suffix_of_scanUpTo (List.suffix_append t r.encode) hscan
  have hvalue : JsonValue.readFrom .value [] ts = none := by
    refine readFrom_of_suffix hsuffix fun hts => ?_
    -- the tokens are those of the record alone only if the text before it has none
    have htake := List.takeWhile_append_dropWhile (p := isSpace) (l := t ++ r.encode)
    rw [hall hts, List.append_left_inj] at htake
    obtain ⟨c, hc, hspace⟩ := h
    rw [← htake] at hc
    exact absurd (List.all_eq_true.1 List.all_takeWhile c hc) hspace
  show (JsonValue.readFrom .value [] ts).bind ofJson? = none
  rw [hvalue]
  rfl

end HistoryRecord

end StatementReader
