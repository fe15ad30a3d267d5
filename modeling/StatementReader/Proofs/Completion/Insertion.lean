import StatementReader.Proofs.Completion.Names
import StatementReader.Proofs.Parse.Tiling

/-!
# What completion inserts

A word is completed as far as all names that match it agree (`Completes`). There is one such
completion only, and what it leaves is complete (`Completes.again`).

The insertions are computed from an anchor, and there are two: the start of the statement that the
cursor ends, if it is a member path such as `a.b.na`, and the place that the oracle names. A member
path is inserted again in front of every candidate, so both denote the same edit: they cut what
stands before the word into a part that stays and a part that is put back (`inserts_complete`).
-/

namespace StatementReader

open Text

/-! ### Common beginnings -/

namespace Completions

/-- What two texts begin with alike is the greatest of their common beginnings. -/
theorem prefix_sharedStart_iff {p s t : Text} : p <+: sharedStart s t ↔ p <+: s ∧ p <+: t := by
  fun_induction sharedStart s t generalizing p with
  | case1 c s t ih =>
    cases p with
    | nil => simp
    | cons d p =>
      rw [List.cons_prefix_cons, List.cons_prefix_cons, List.cons_prefix_cons, ih]
      tauto
  | case2 c s d t hne =>
    cases p with
    | nil => simp
    | cons b p =>
      simp only [List.cons_prefix_cons, List.prefix_nil, reduceCtorEq, false_iff]
      -- the first characters differ, so only the empty text begins both
      rintro ⟨⟨rfl, -⟩, rfl, -⟩
      exact hne rfl
  | case3 s t hne =>
    cases s with
    | nil => simp +contextual
    | cons c s =>
      cases t with
      | nil => simp +contextual
      | cons d t => exact (hne c s d t rfl rfl).elim

theorem prefix_foldl_sharedStart_iff {p start : Text} {others : List Candidate} :
    p <+: others.foldl (fun start o => sharedStart start o.insertText) start ↔
      p <+: start ∧ ∀ o ∈ others, p <+: o.insertText := by
  induction others generalizing start with
  | nil => simp
  | cons o others ih =>
    rw [List.foldl_cons, ih, prefix_sharedStart_iff, List.forall_mem_cons, and_assoc]

/-- The common start of the insertions is the greatest of their common beginnings. -/
theorem prefix_commonStart_iff {c : Completions} (h : c.candidates ≠ []) {p : Text} :
    p <+: c.commonStart ↔ ∀ o ∈ c.candidates, p <+: o.insertText := by
  obtain ⟨first, others, hc⟩ := List.exists_cons_of_ne_nil h
  rw [commonStart, hc, List.forall_mem_cons]
  exact prefix_foldl_sharedStart_iff

end Completions

/-- `x` completes `word` as far as all names agree, and by nothing if there is no name. -/
structure Completes (names : Text → Prop) (word x : Text) : Prop where
  nothing : (∀ name, ¬ names name) → x = []
  shared : ∀ name, names name → word ++ x <+: name
  longest : ∀ p, (∃ name, names name) → (∀ name, names name → p <+: name) → p <+: word ++ x

namespace Completes

variable {names : Text → Prop} {word x : Text}

/-- If there is only one name, the word is completed to it. -/
theorem eq_of_unique (h : Completes names word x) {name : Text} (hname : names name)
    (hunique : ∀ other, names other → other = name) : word ++ x = name := by
  have hlongest : name <+: word ++ x := h.longest name ⟨name, hname⟩ fun other hother => by
    rw [hunique other hother]
  exact (h.shared name hname).eq_of_length_le hlongest.length_le

/-- What is added to a word belongs to a name. -/
theorem isWord (h : Completes names word x)
    (hnames : ∀ name, names name → ∀ c ∈ name, isWordChar c) : ∀ c ∈ x, isWordChar c := by
  by_cases hsome : ∃ name, names name
  · obtain ⟨name, hname⟩ := hsome
    exact fun c hc => hnames name hname c
      ((h.shared name hname).subset (List.mem_append_right word hc))
  · rw [h.nothing fun name hname => hsome ⟨name, hname⟩]
    exact fun c hc => (List.not_mem_nil hc).elim

/-- A word that has been completed is complete, if the names are the same. -/
theorem again (h : Completes names word x) {names' : Text → Prop}
    (hnames : ∀ name, names' name ↔ names name) {y : Text} (h' : Completes names' (word ++ x) y) :
    y = [] := by
  by_cases hsome : ∃ name, names name
  · have hlongest : word ++ x ++ y <+: word ++ x := h.longest _ hsome fun name hname =>
      h'.shared name ((hnames name).2 hname)
    have hlength := hlongest.length_le
    simp only [List.length_append] at hlength
    exact List.eq_nil_of_length_eq_zero (by omega)
  · exact h'.nothing fun name hname => hsome ⟨name, (hnames name).1 hname⟩

end Completes

/-- The names that match a word still match when the word is completed, and no other ones do. -/
theorem Symbols.offers_iff_of_completes {s : Symbols} {head word x : Text}
    (h : Completes (s.Offers head word) word x) (name : Text) :
    s.Offers head (word ++ x) name ↔ s.Offers head word name := by
  by_cases hsome : ∃ other, s.Offers head word other
  · obtain ⟨other, hother⟩ := hsome
    rw [hother.append_iff]
    exact and_iff_left_of_imp (h.shared name)
  · rw [h.nothing fun other hother => hsome ⟨other, hother⟩, List.append_nil]

/-! ### The active word -/

/-- The statement that the cursor ends is the end of the text. -/
theorem exists_append_activeWord {t : Text} {cursor : Nat} {mode : Mode} {active : ActiveWord}
    (h : (parseAt t cursor mode).activeWord = some active) :
    cursor = size t ∧ ∃ front, front ++ active.word = t ∧ active.start = size front := by
  cases hparse : parseAt t cursor mode with
  | complete words active' consumed =>
    rw [hparse] at h
    obtain rfl : active' = some active := h
    rcases parseAt_eq_complete_iff.1 hparse with ⟨spans, hsplit, hwords, hactive, -⟩ | ⟨-, -, -, h⟩
    · -- the active word is the last one of the tiling, and nothing stands behind it
      obtain ⟨rfl, last, hlast, hstop, rfl⟩ := findActive_eq_some_iff.1 hactive.symm
      obtain ⟨-, ms, -, htiling, heq⟩ := exists_laid_of_statements hsplit
      have hmem : last ∈ ms.map Word.ofLexemes := by
        rw [← heq, ← hwords]
        exact List.mem_of_getLast? hlast
      obtain ⟨-, ⟨front, text, htext, hstart⟩, -, hslice⟩ := htiling.slice_eq (s := []) last hmem
      have hend := slice_size_append front text []
      rw [List.append_nil, ← htext, ← size_append, ← htext, ← hstart] at hend
      rw [hstop] at hslice
      have hword : last.text = text := hslice.symm.trans hend
      exact ⟨rfl, front, (congrArg (front ++ ·) hword).trans htext.symm, hstart⟩
    · cases h
  | incomplete | failure error =>
    rw [hparse] at h
    cases h

/-- A member path ends with a point, and only a part of an identifier follows it. -/
theorem Completions.exists_append_memberPath {word path : Text}
    (h : memberPath? word = some path) :
    ∃ part, path ++ part = word ∧ path.getLast? = some '.' ∧ ∀ c ∈ part, isWordChar c := by
  have happend : word.rdropWhile (· ≠ '.') ++ word.rtakeWhile (· ≠ '.') = word :=
    List.rdropWhile_append_rtakeWhile
  -- the path is what is left of the word without as many characters as the part has
  have htake : word.take (word.length - (word.rtakeWhile (· ≠ '.')).length) =
      word.rdropWhile (· ≠ '.') := by
    have hlength := congrArg List.length happend
    rw [List.length_append] at hlength
    rw [← hlength, Nat.add_sub_cancel]
    exact (List.prefix_iff_eq_take.1 ⟨_, happend⟩).symm
  unfold memberPath? at h
  dsimp only at h
  rw [← List.rtakeWhile, htake] at h
  split at h
  · next hpath =>
    obtain rfl := Option.some.inj h
    rw [Bool.and_eq_true, decide_eq_true_iff, List.all_eq_true] at hpath
    refine ⟨word.rtakeWhile (· ≠ '.'), happend, ?_, hpath.2⟩
    have hlast := List.rdropWhile_last_not (· ≠ '.') word hpath.1
    rw [List.getLast?_eq_some_getLast hpath.1]
    simpa using hlast
  · cases h

theorem isWordChar_point : isWordChar '.' = false := by decide

/-- Every candidate is inserted with an end of what stands before the word, which is so put back in
its place. -/
theorem Completions.target_eq {t head word : Text} (h : EndsInWord t head word) (rest : Text)
    {reply : Reply} (hreply : reply.replacementStart = size head) :
    ∃ front path, front ++ path = head ∧
      target (size t) (t ++ rest) reply = (size front, path) := by
  unfold target
  dsimp only
  cases hdotted : (parseAt (t ++ rest) (size t) .completing).activeWord.bind fun active =>
      (memberPath? active.word).map fun path => (active.start, path) with
  -- without a point in the word, the oracle's own place counts
  | none =>
    refine ⟨head, [], List.append_nil _, ?_⟩
    have hle : size head ≤ size t := by
      rw [← h.append, size_append]
      omega
    rw [Option.getD_none, hreply, Nat.min_eq_left hle, ← h.append, List.append_assoc,
      floor_size_append]
  | some dotted =>
    obtain ⟨active, hactive, hpath⟩ := Option.bind_eq_some_iff.1 hdotted
    obtain ⟨path, hmember, rfl⟩ := Option.map_eq_some_iff.1 hpath
    obtain ⟨hcursor, front, hfront, hstart⟩ := exists_append_activeWord hactive
    obtain ⟨part, hpart, hpoint, hword⟩ := exists_append_memberPath hmember
    -- the cursor is at the end of the text, so the path stands before the word
    have hrest : rest = [] := by
      rw [size_append] at hcursor
      exact size_eq_zero.1 (by omega)
    have hends : EndsInWord t (front ++ path) part := by
      refine ⟨?_, hword, fun c hc => ?_⟩
      · rw [List.append_assoc, hpart, hfront, hrest, List.append_nil]
      · rw [List.getLast?_append, hpoint] at hc
        obtain rfl := Option.some.inj hc
        exact isWordChar_point
    exact ⟨front, path, (h.head_eq hends).1, by rw [Option.getD_some, hstart]⟩

/-! ### The insertions -/

/-- The candidates are names, and from the end of `front` on each is inserted with `path` before
it. -/
structure Completions.Inserts (c : Completions) (front path : Text) (names : Text → Prop) :
    Prop where
  anchor : c.anchor = size front
  mem_iff : ∀ o, o ∈ c.candidates ↔ ∃ name, names name ∧ o = ⟨path ++ name, name⟩

/-- The names that match the word in front of the cursor are inserted in its place. -/
theorem inserts_complete (s : Symbols) {t head word : Text} (h : EndsInWord t head word)
    (rest : Text) (scheme : ColorScheme) :
    ∃ front path, front ++ path = head ∧
      (complete (size t) (t ++ rest) s.oracle scheme).Inserts front path (s.Offers head word) := by
  obtain ⟨front, path, hhead, htarget⟩ :=
    Completions.target_eq h rest (Symbols.replacementStart_eq (s := s) h rest)
  refine ⟨front, path, hhead, ?_, fun o => ?_⟩
  · rw [complete, htarget]
  · -- the order in which the names are sorted does not matter to which of them are offered
    rw [complete, htarget, List.mem_map]
    constructor
    · rintro ⟨name, hname, rfl⟩
      rw [List.mem_mergeSort, Symbols.mem_candidates_iff h] at hname
      exact ⟨name, hname, rfl⟩
    · rintro ⟨name, hname, rfl⟩
      refine ⟨name, ?_, rfl⟩
      rwa [List.mem_mergeSort, Symbols.mem_candidates_iff h]

namespace Completions.Inserts

variable {c : Completions} {front path word : Text} {names : Text → Prop}

theorem candidates_ne_nil_iff (h : c.Inserts front path names) :
    c.candidates ≠ [] ↔ ∃ name, names name := by
  constructor
  · intro hne
    obtain ⟨o, ho⟩ := List.exists_mem_of_ne_nil _ hne
    obtain ⟨name, hname, -⟩ := (h.mem_iff o).1 ho
    exact ⟨name, hname⟩
  · rintro ⟨name, hname⟩
    exact List.ne_nil_of_mem ((h.mem_iff _).2 ⟨name, hname, rfl⟩)

/-- The common start of the insertions is what they put back, and then the word, completed as far as
all names agree. -/
theorem exists_completes (h : c.Inserts front path names)
    (hword : ∀ name, names name → word <+: name) :
    ∃ x, Completes names word x ∧
      (c.candidates ≠ [] → c.commonStart = path ++ (word ++ x)) := by
  by_cases hsome : ∃ name, names name
  · have hcommon (p : Text) : p <+: c.commonStart ↔ ∀ name, names name → p <+: path ++ name := by
      rw [prefix_commonStart_iff (h.candidates_ne_nil_iff.2 hsome)]
      constructor
      · exact fun hp name hname => hp _ ((h.mem_iff _).2 ⟨name, hname, rfl⟩)
      · rintro hp o ho
        obtain ⟨name, hname, rfl⟩ := (h.mem_iff o).1 ho
        exact hp name hname
    -- the path and the word begin every insertion
    obtain ⟨x, hx⟩ : path ++ word <+: c.commonStart := (hcommon _).2 fun name hname =>
      (List.prefix_append_right_inj path).2 (hword name hname)
    rw [List.append_assoc] at hx
    refine ⟨x, ⟨fun hnone => ?_, fun name hname => ?_, fun p _ hp => ?_⟩, fun _ => hx.symm⟩
    · obtain ⟨name, hname⟩ := hsome
      exact (hnone name hname).elim
    · -- the common start begins every insertion, so what it adds to the word begins every name
      have hprefix := (hcommon _).1 List.prefix_rfl name hname
      rw [← hx] at hprefix
      exact (List.prefix_append_right_inj path).1 hprefix
    · -- nothing longer begins them all
      have hprefix : path ++ p <+: c.commonStart := (hcommon _).2 fun name hname =>
        (List.prefix_append_right_inj path).2 (hp name hname)
      rw [← hx] at hprefix
      exact (List.prefix_append_right_inj path).1 hprefix
  · -- there is no name to complete to
    refine ⟨[], ⟨fun _ => rfl, fun name hname => ?_, fun p hp => ?_⟩, fun hne => ?_⟩
    · exact (hsome ⟨name, hname⟩).elim
    · exact (hsome hp).elim
    · exact (hsome (h.candidates_ne_nil_iff.1 hne)).elim

end Completions.Inserts

end StatementReader
