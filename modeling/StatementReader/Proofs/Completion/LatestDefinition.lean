import StatementReader.Proofs.Completion.Names
import StatementReader.Proofs.Language.Header
import StatementReader.Proofs.Lexeme.Cover
import StatementReader.Proofs.Parse.Alone

/-!
# The signature of a name

The oracle answers a name with the header of its latest definition. It does not ask the parser where
a header ends. It looks for an equals sign in the lexemes of the statement, and counts parentheses
and square brackets as it goes. In a statement that has been accepted this is the sign that the
grammar has between the header and the body of a `def` (`Symbols.definiensStart?_of_isDefinition`):
the lexemes are those of the tokens, a lexeme that reads like a bracket or an equals sign is one, and
the header is flat.

A name is recorded anew by every statement that introduces it, and by no other. So after a row of
statements the latest one of these decides what is known of the name.
-/

namespace StatementReader

open Text Rule

/-- The text is a word of a complete text. -/
def IsStatement (s : Text) : Prop :=
  ∃ t cursor mode words active consumed,
    parseAt t cursor mode = .complete words active consumed ∧ ∃ word ∈ words, word.text = s

/-- The statement begins with the reserved word `keyword` and the identifier `name`. -/
def OpensWith (statement keyword name : Text) : Prop :=
  ∃ k x rest, (TokenRow.ofText statement).tokens = k :: x :: rest ∧
    k.isKeyword keyword ∧ x.kind = .ident ∧ x.text = name

/-- The reserved words that introduce a single name. -/
def introducers : List Text := ["val", "var", "def"].map String.toList

/-- The statement introduces `name`. -/
def Introduces (statement name : Text) : Prop :=
  ∃ keyword ∈ introducers, OpensWith statement keyword name

/-- The statement is a `def` in the grammar, and `header` is what stands in front of the equals sign
before its body. -/
def HasHeader (statement header : Text) : Prop :=
  ∃ front sign body rest, IsDefinition (TokenRow.ofText statement).tokens front sign body ∧
    statement = header ++ '=' :: rest ∧ sign.start = size header

/-! ### Statements -/

/-- A statement is one in the grammar, and nothing is left open in it. -/
theorem IsStatement.tokens {s : Text} (h : IsStatement s) :
    (TokenRow.ofText s).openLiteral = false ∧
      (TokenRow.ofText s).tokens ∈ grammar.statement := by
  obtain ⟨t, cursor, mode, words, active, consumed, hparse, word, hword, rfl⟩ := h
  rcases parseAt_eq_complete_iff.1 hparse with ⟨spans, hsplit, rfl, -, -⟩ | ⟨-, -, rfl, -⟩
  · -- a statement is a stretch of the text's lexemes, and it scans to them when it stands alone
    obtain ⟨hls, ms, hlaid, -, heq⟩ := exists_laid_of_statements hsplit
    rw [heq] at hword
    obtain ⟨m, hm, rfl⟩ := List.mem_map.1 hword
    obtain ⟨hstretch, hne, before, rest, hscan⟩ := hlaid.exists_of_mem hm
    obtain ⟨l, m, rfl⟩ := List.exists_cons_of_ne_nil hne
    obtain ⟨⟨hopen, hmem⟩, -⟩ := hstretch.ofText_extent (fun x hx => hls x (hscan ▸
      List.mem_append_right before (List.mem_append_left rest hx))) hscan
    exact ⟨hopen, mem_statement_grammar_iff.2 ⟨_, hmem⟩⟩
  · cases hword

theorem IsStatement.terminated {s : Text} (h : IsStatement s) :
    ∀ l ∈ Lexeme.scan s, l.unterminated = false :=
  all_terminated ((endsOpen_eq s).trans h.tokens.1)

theorem Introduces.unique {st n m : Text} (h : Introduces st n) (h' : Introduces st m) : m = n := by
  obtain ⟨-, -, k, x, rest, htokens, -, -, rfl⟩ := h
  obtain ⟨-, -, k', x', rest', htokens', -, -, rfl⟩ := h'
  obtain ⟨-, htail⟩ := List.cons.inj (htokens.symm.trans htokens')
  obtain ⟨rfl, -⟩ := List.cons.inj htail
  rfl

theorem HasHeader.unique {s header other : Text} (h : HasHeader s header)
    (hother : HasHeader s other) : other = header := by
  obtain ⟨front, sign, body, rest, hdef, hs, hsign⟩ := h
  obtain ⟨front', sign', body', rest', hdef', hs', hsign'⟩ := hother
  obtain ⟨-, rfl, -⟩ := hdef.unique hdef'
  have hsize : size other = size header := hsign'.symm.trans hsign
  calc other = upTo (size other) s := by rw [hs', upTo_size_append]
    _ = header := by rw [hsize, hs, upTo_size_append]

/-! ### Lexemes and tokens -/

/-- The grammar sees the lexeme as the token `t`. -/
def Lexeme.Yields (l : Lexeme) (t : Token) : Prop := ∃ crossed, t = l.token crossed

/-- The lexemes of a statement that are no comments. -/
def Symbols.lexemes (statement : Text) : List Lexeme :=
  (Lexeme.scan statement).filter (·.kind ≠ .comment)

/-- Apart from the comments, lexemes and tokens are the same, one by one. -/
theorem TokenRow.forall₂_yields {ls : List Lexeme} (hls : ∀ l ∈ ls, l.unterminated = false)
    (crossed : Bool) : List.Forall₂ Lexeme.Yields (ls.filter (·.kind ≠ .comment))
      (ofLexemes crossed ls).tokens := by
  induction ls generalizing crossed with
  | nil => exact .nil
  | cons l ls ih =>
    have hl := hls l List.mem_cons_self
    have ih := ih fun x hx => hls x (List.mem_cons_of_mem l hx)
    by_cases hk : l.kind = .comment
    · rw [ofLexemes_cons_of_comment hl hk, List.filter_cons_of_neg (by simp [hk])]
      exact ih _
    · rw [tokens_ofLexemes_cons hl hk, List.filter_cons_of_pos (by simp [hk])]
      exact .cons ⟨crossed, rfl⟩ (ih false)

theorem IsStatement.forall₂_yields {s : Text} (h : IsStatement s) :
    List.Forall₂ Lexeme.Yields (Symbols.lexemes s) (TokenRow.ofText s).tokens :=
  TokenRow.forall₂_yields h.terminated false

section

variable {offset : Nat} {s : Text} {l : Lexeme}

/-- Whether a lexeme is a certain bracket or an equals sign can be read off its text. -/
theorem Lexeme.isMark_token_iff (h : l ∈ scanFrom offset s) {c : Char}
    (hc : c = '=' ∨ c ∈ punctuationChars) (crossed : Bool) :
    (l.token crossed).isMark [c] ↔ l.text = [c] := by
  rw [Token.isMark_iff]
  exact ⟨And.right, fun htext => ⟨kind_of_text_eq_mark h hc htext, htext⟩⟩

namespace Symbols

/-- A lexeme is counted as its token is, if that is no equals sign. -/
theorem definiensStart?_cons (h : l ∈ Lexeme.scanFrom offset s) {crossed : Bool}
    (hl : (l.token crossed).isMark equals = false) (depth : ℤ) (ls : List Lexeme) :
    definiensStart? depth (l :: ls) = definiensStart? (depth + (l.token crossed).deepens) ls := by
  -- the row of lexemes asks for the text, and the depth of a token for a mark of that text
  have hiff {c : Char} (hc : c ∈ Lexeme.punctuationChars) :
      l.text = [c] ↔ (l.token crossed).isMark [c] := (Lexeme.isMark_token_iff h (.inr hc) _).symm
  have hopening : l.text = ['('] ∨ l.text = ['['] ↔
      (l.token crossed).isMark openParen ∨ (l.token crossed).isMark openBracket :=
    or_congr (hiff (by decide)) (hiff (by decide))
  have hclosing : l.text = [')'] ∨ l.text = [']'] ↔
      (l.token crossed).isMark closeParen ∨ (l.token crossed).isMark closeBracket :=
    or_congr (hiff (by decide)) (hiff (by decide))
  have hequals : l.text ≠ ['='] := fun htext => by
    rw [show (l.token crossed).isMark equals from
      (Lexeme.isMark_token_iff h (.inl rfl) crossed).2 htext] at hl
    cases hl
  have hsign : ¬ (l.text = ['='] ∧ depth = 0) := fun hsign => hequals hsign.1
  rw [definiensStart?, Token.deepens]
  by_cases ho : l.text = ['('] ∨ l.text = ['[']
  · rw [if_pos ho, if_pos (hopening.1 ho)]
  · rw [if_neg ho, if_neg (mt hopening.2 ho)]
    by_cases hc : l.text = [')'] ∨ l.text = [']']
    · rw [if_pos hc, if_pos (hclosing.1 hc)]
      rfl
    · rw [if_neg hc, if_neg (mt hclosing.2 hc), if_neg hsign, Int.add_zero]

/-- The offset that is found is that of the first equals sign, if the tokens before it close what
they open. -/
theorem definiensStart?_of_forall₂ {front body : List Token} {sign : Token} {ls : List Lexeme}
    (hls : ∀ l ∈ ls, l ∈ Lexeme.scanFrom offset s)
    (h : List.Forall₂ Lexeme.Yields ls (front ++ sign :: body))
    (hfront : ∀ t ∈ front, t.isMark equals = false) (hsign : sign.isMark equals) {depth : ℤ}
    (hdepth : depth + Token.depth front = 0) : definiensStart? depth ls = some sign.start := by
  -- the count moves on over the tokens in front, and is back at zero before the sign
  induction front generalizing ls depth with
  | nil =>
    obtain ⟨l, ls, ⟨c, rfl⟩, -, rfl⟩ := List.forall₂_cons_right_iff.1 h
    have htext : l.text = ['='] :=
      (Lexeme.isMark_token_iff (hls l List.mem_cons_self) (.inl rfl) c).1 hsign
    have hzero : depth = 0 := by simpa [Token.depth] using hdepth
    simp [definiensStart?, htext, hzero, Lexeme.token]
  | cons t front ih =>
    obtain ⟨l, ls, ⟨c, rfl⟩, hrest, rfl⟩ := List.forall₂_cons_right_iff.1 h
    rw [definiensStart?_cons (hls l List.mem_cons_self) (hfront _ List.mem_cons_self)]
    refine ih (fun x hx => hls x (List.mem_cons_of_mem l hx)) hrest
      (fun x hx => hfront x (List.mem_cons_of_mem _ hx)) ?_
    rw [Int.add_assoc, ← Token.depth_cons]
    exact hdepth

/-- Wherever the count leads, an equals sign is found. -/
theorem exists_of_definiensStart? {ls : List Lexeme} {depth : ℤ} {stop : ℕ}
    (h : definiensStart? depth ls = some stop) : ∃ l ∈ ls, l.text = ['='] ∧ l.start = stop := by
  induction ls generalizing depth with
  | nil => cases h
  | cons l ls ih =>
    rw [definiensStart?] at h
    -- whatever the lexeme does to the depth, the sign is found among the later ones
    have hlater {depth : ℤ} (h : definiensStart? depth ls = some stop) :
        ∃ x ∈ l :: ls, x.text = ['='] ∧ x.start = stop :=
      let ⟨x, hx, hsign⟩ := ih h
      ⟨x, List.mem_cons_of_mem l hx, hsign⟩
    split at h
    · exact hlater h
    · split at h
      · exact hlater h
      · split at h
        · next hsign => exact ⟨l, List.mem_cons_self, hsign.1, Option.some.inj h⟩
        · exact hlater h

end Symbols
end

/-! ### What a statement records -/

namespace Symbols

section

variable {s : Symbols} {st keyword name n : Text}

/-- The equals sign that is found is the one between the header and the body of a `def`. -/
theorem definiensStart?_of_isDefinition (hst : IsStatement st) {front body : List Token}
    {sign : Token} (h : IsDefinition (TokenRow.ofText st).tokens front sign body) :
    definiensStart? 0 (lexemes st) = some sign.start := by
  obtain ⟨hequals, hdepth⟩ := header_grammar_le_flat h.header
  have hrows := hst.forall₂_yields
  rw [← h.append] at hrows
  exact definiensStart?_of_forall₂ (fun l hl => (List.mem_filter.1 hl).1) hrows hequals h.equals
    (by rw [hdepth, Int.add_zero])

/-- What is recorded of a name that a statement introduces. -/
theorem learn_of_opensWith (hst : IsStatement st) (h : OpensWith st keyword name)
    (hkeyword : keyword ∈ introducers) (s : Symbols) :
    s.learn st = ⟨insertName name (if keyword = "def".toList then
      some (trimEnd (upTo ((definiensStart? 0 (lexemes st)).getD (size st)) st)) else none)
        s.names⟩ := by
  obtain ⟨k, x, rest, htokens, hk, hx, rfl⟩ := h
  obtain ⟨hkind, rfl⟩ := Token.isKeyword_iff.1 hk
  have hrows := hst.forall₂_yields
  rw [htokens] at hrows
  obtain ⟨l, ls, ⟨c, rfl⟩, hrows, hl⟩ := List.forall₂_cons_right_iff.1 hrows
  obtain ⟨m, ls, ⟨d, rfl⟩, -, rfl⟩ := List.forall₂_cons_right_iff.1 hrows
  have hmem (y : Lexeme) (hy : y ∈ l :: m :: ls) : y ∈ Lexeme.scan st :=
    (List.mem_filter.1 (hl ▸ hy)).1
  -- the count begins after the name, but neither the reserved word nor the name would be counted
  have hskip : definiensStart? 0 (lexemes st) = definiensStart? 0 ls := by
    have hlk : (l.token c).kind ≠ .punct := by simp [hkind]
    have hmk : (m.token d).kind ≠ .punct := by simp [hx]
    rw [hl, definiensStart?_cons (hmem l (by simp)) (Token.isMark_of_kind_ne hlk),
      definiensStart?_cons (hmem m (by simp)) (Token.isMark_of_kind_ne hmk),
      Token.deepens_of_kind_ne hlk, Token.deepens_of_kind_ne hmk, Int.add_zero,
      Int.add_zero]
  rw [lexemes] at hl
  rw [hskip, learn, hl]
  exact if_pos ⟨hkind, hkeyword, hx⟩

theorem find?_insertName (name n : Text) (header : Option Text)
    (names : List (Text × Option Text)) : (insertName name header names).find? (·.1 == n) =
      if name = n then some (name, header) else names.find? (·.1 == n) := by
  -- the entries that are passed have other names, so the order of the rest does not matter
  induction names with
  | nil =>
    by_cases h : name = n <;> simp [insertName, h]
  | cons entry names ih =>
    obtain ⟨m, k⟩ := entry
    rw [insertName]
    split
    · next hm =>
      subst hm
      by_cases h : name = n <;> simp [h]
    · next hm =>
      split
      · by_cases h : name = n <;> simp [h]
      · rw [List.find?_cons, ih, List.find?_cons]
        by_cases h : m = n
        · simp [h, h ▸ hm]
        · simp [beq_eq_false_iff_ne.2 h]

theorem header?_insertName (name n : Text) (header : Option Text)
    (names : List (Text × Option Text)) : header? ⟨insertName name header names⟩ n =
      if name = n then header else header? ⟨names⟩ n := by
  rw [header?, find?_insertName]
  split <;> rfl

/-- A statement that introduces a name records that name, and any other records nothing. -/
theorem learn_cases (hst : IsStatement st) (s : Symbols) :
    (∃ name header, Introduces st name ∧ s.learn st = ⟨insertName name header s.names⟩) ∨
      (∀ name, ¬ Introduces st name) ∧ s.learn st = s := by
  by_cases h : ∃ name, Introduces st name
  · obtain ⟨name, keyword, hkeyword, hopens⟩ := h
    exact .inl ⟨name, _, ⟨keyword, hkeyword, hopens⟩, learn_of_opensWith hst hopens hkeyword s⟩
  · rw [not_exists] at h
    refine .inr ⟨h, ?_⟩
    unfold learn
    split
    · next keyword name ls hscan =>
      -- the two lexemes are those of the first two tokens, so a name is introduced after all
      refine if_neg ?_
      rintro ⟨hkind, hkeyword, hname⟩
      have hrows := hst.forall₂_yields
      rw [show lexemes st = keyword :: name :: ls from hscan] at hrows
      obtain ⟨k, ts, ⟨c, rfl⟩, hrows, htokens⟩ := List.forall₂_cons_left_iff.1 hrows
      obtain ⟨x, ts, ⟨d, rfl⟩, -, rfl⟩ := List.forall₂_cons_left_iff.1 hrows
      exact h name.text ⟨keyword.text, hkeyword, _, _, ts, htokens,
        Token.isKeyword_iff.2 ⟨hkind, rfl⟩, hname, rfl⟩
    · rfl

/-- A statement that does not introduce a name leaves what is known of it. -/
theorem header?_learn_of_not_introduces (hst : IsStatement st) (h : ¬ Introduces st n)
    (s : Symbols) : (s.learn st).header? n = s.header? n := by
  rcases learn_cases hst s with ⟨name, header, hintroduces, hlearn⟩ | ⟨-, hlearn⟩
  · have hne : name ≠ n := by
      rintro rfl
      exact h hintroduces
    rw [hlearn, header?_insertName, if_neg hne]
  · rw [hlearn]

/-- After a row of statements, what is known of a name is what the latest one has recorded that
introduces it. -/
theorem header?_learned {earlier later : List Text} (hlater : ∀ st ∈ later, IsStatement st)
    (h : ∀ st ∈ later, ¬ Introduces st n) (s : Symbols) :
    ((earlier ++ later).foldl learn s).header? n = (earlier.foldl learn s).header? n := by
  rw [List.foldl_append]
  induction later using List.reverseRecOn with
  | nil => rfl
  | append_singleton later st ih =>
    rw [List.foldl_concat, header?_learn_of_not_introduces (hlater st (by simp)) (h st (by simp))]
    exact ih (fun x hx => hlater x (List.mem_append_left _ hx))
      fun x hx => h x (List.mem_append_left _ hx)

/-- A statement that begins with `def` has a header, and that is what is recorded. -/
theorem exists_hasHeader (hst : IsStatement st) (h : OpensWith st "def".toList n) :
    ∃ header, HasHeader st header ∧
      ∀ s : Symbols, (s.learn st).header? n = some (trimEnd header) := by
  have hhead : (TokenRow.ofText st).tokens.head?.any (·.isKeyword "def".toList) := by
    obtain ⟨k, x, rest, htokens, hk, -⟩ := h
    rw [htokens]
    exact hk
  obtain ⟨front, sign, body, hdef⟩ := exists_isDefinition_iff.2 ⟨hst.tokens.2, hhead⟩
  have hstop := definiensStart?_of_isDefinition hst hdef
  -- the sign stands in the text at the offset that is found
  obtain ⟨l, hl, htext, hstart⟩ := exists_of_definiensStart? hstop
  obtain ⟨header, rest, hplace, hsize⟩ := Lexeme.exists_append_of_mem (List.mem_filter.1 hl).1
  rw [htext] at hplace
  have hsign : sign.start = size header := hstart.symm.trans hsize
  refine ⟨header, ⟨front, sign, body, rest, hdef, hplace, hsign⟩, fun s => ?_⟩
  have hheader : upTo sign.start st = header := by rw [hsign, hplace, upTo_size_append]
  rw [learn_of_opensWith hst h (by decide), header?_insertName, if_pos rfl, if_pos rfl, hstop,
    Option.getD_some, hheader]

/-- The oracle shows the header of a name at the end of a text, unless a point stands before it. -/
theorem signatures_complete {t head : Text} (h : EndsInWord t head n) (hn : n ≠ [])
    (hpoint : head.getLast? ≠ some '.') (rest : Text) (scheme : ColorScheme) (s : Symbols) :
    (complete (size t) (t ++ rest) s.oracle scheme).signatures.map (·.text) =
      (s.header? n).toList := by
  have hreply : (s.oracle (size t) (t ++ rest)).signatures = (s.header? n).toList := by
    rw [oracle_append h, if_neg hpoint, if_neg hn]
  rw [← hreply]
  exact (List.map_map ..).trans (List.map_id' _)

end

/-- The name in front of the cursor is answered by the latest statement that introduces it. If that
is a `def`, then it has one header in the grammar, and this is the only signature, without the blank
space at its end. If it is a `val` or `var`, or if no statement introduces the name, then there is no
signature. The bodies of definitions and the statements before the latest one do not matter. -/
theorem signatures_latest {statements : List Text} (hstatements : ∀ st ∈ statements, IsStatement st)
    {t head n : Text} (h : EndsInWord t head n) (hn : n ≠ []) (hpoint : head.getLast? ≠ some '.')
    (rest : Text) (scheme : ColorScheme) :
    let signatures := (complete (size t) (t ++ rest) (statements.foldl learn empty).oracle
      scheme).signatures.map (·.text)
    ((∀ st ∈ statements, ¬ Introduces st n) → signatures = []) ∧
    ∀ earlier st later, statements = earlier ++ st :: later → (∀ x ∈ later, ¬ Introduces x n) →
      (OpensWith st "val".toList n ∨ OpensWith st "var".toList n → signatures = []) ∧
      (OpensWith st "def".toList n → ∃ header, HasHeader st header ∧
        (∀ other, HasHeader st other → other = header) ∧ signatures = [trimEnd header]) := by
  intro signatures
  have hsignatures : signatures = ((statements.foldl learn empty).header? n).toList :=
    signatures_complete h hn hpoint rest scheme _
  rw [hsignatures]
  refine ⟨fun hnone => ?_, ?_⟩
  · rw [← List.nil_append statements, header?_learned hstatements hnone]
    rfl
  · rintro earlier st later rfl hlater
    have hst : IsStatement st := hstatements st (by simp)
    -- what comes after the statement leaves its record, and what came before is written over
    have hlatest : ((earlier ++ st :: later).foldl learn empty).header? n =
        ((earlier.foldl learn empty).learn st).header? n := by
      rw [List.append_cons, header?_learned (fun x hx => hstatements x (by simp [hx])) hlater,
        List.foldl_concat]
    rw [hlatest]
    constructor
    · -- a value or a variable takes the name without a header
      intro hopens
      have hnone {keyword : Text} (hopens : OpensWith st keyword n)
          (hkeyword : keyword ∈ introducers) (hne : keyword ≠ "def".toList) :
          ((earlier.foldl learn empty).learn st).header? n = none := by
        rw [learn_of_opensWith hst hopens hkeyword, header?_insertName, if_pos rfl, if_neg hne]
      rcases hopens with hopens | hopens
      · rw [hnone hopens (by decide) (by decide)]
        rfl
      · rw [hnone hopens (by decide) (by decide)]
        rfl
    · intro hopens
      obtain ⟨header, hheader, hlearned⟩ := exists_hasHeader hst hopens
      refine ⟨header, hheader, fun other => hheader.unique, ?_⟩
      rw [hlearned]
      rfl

/-- A name of a value and then of a `def`, which has arrows in its types and in its body. -/
theorem signatures_latest_arrows :
    let definition := "def f(g: (A) => B): C[D] = g => 1".toList
    let statements := ["val f = 1".toList, definition, "f(1)".toList]
    (∀ st ∈ statements, IsStatement st) ∧ ∃ header, HasHeader definition header ∧
      trimEnd header = "def f(g: (A) => B): C[D]".toList ∧
      (complete 3 "1+f".toList (statements.foldl learn empty).oracle .plain).signatures.map
        (·.text) = [trimEnd header] := by
  intro definition statements
  have hstatements : ∀ st ∈ statements, IsStatement st := by
    have hparse : ∀ st ∈ statements, parseAt st 0 .committing =
        .complete [⟨st, ⟨0, size st⟩⟩] none (size st) := by decide +kernel
    exact fun st hst => ⟨st, 0, .committing, _, _, _, hparse st hst, _, List.mem_cons_self, rfl⟩
  have hends : EndsInWord "1+f".toList "1+".toList ['f'] := by
    have hhead : beforeWord "1+f".toList = "1+".toList := by decide +kernel
    have hword : partialWord "1+f".toList = ['f'] := by decide +kernel
    rw [← hhead, ← hword]
    exact endsInWord_partialWord _
  -- the last statement uses the name and does not define it
  have hlater : ∀ x ∈ ["f(1)".toList], ¬ Introduces x ['f'] := by
    rintro x hx ⟨keyword, -, k, y, rest, htokens, hk, -⟩
    obtain rfl := List.mem_singleton.1 hx
    have hkind : (TokenRow.ofText "f(1)".toList).tokens.head?.map (·.kind) = some .ident := by
      decide +kernel
    rw [htokens] at hkind
    cases hkind.symm.trans (congrArg some (Token.isKeyword_iff.1 hk).1)
  have hopens : OpensWith definition "def".toList ['f'] :=
    ⟨⟨.keyword, "def".toList, 0, 3, false⟩, ⟨.ident, ['f'], 4, 5, false⟩,
      (TokenRow.ofText definition).tokens.drop 2, by decide +kernel, by decide, rfl, rfl⟩
  obtain ⟨header, hheader, -, hshown⟩ := ((signatures_latest hstatements hends (by decide)
    (by decide) [] .plain).2 ["val f = 1".toList] definition _ rfl hlater).2 hopens
  refine ⟨hstatements, header, hheader, ?_, hshown⟩
  have hconcrete : (complete 3 "1+f".toList (statements.foldl learn empty).oracle
      .plain).signatures.map (·.text) = ["def f(g: (A) => B): C[D]".toList] := by decide +kernel
  exact (List.cons.inj (hshown.symm.trans hconcrete)).1

end Symbols

end StatementReader
