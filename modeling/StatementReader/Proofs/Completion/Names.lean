import Mathlib.Data.List.DropRight
import StatementReader.Completion.Symbols
import StatementReader.Proofs.Lexeme.Kind

/-!
# The names that complete a word

The identifier characters in front of the cursor are the word that is being typed, and what stands
before them decides which names match it (`Symbols.Offers`): the members of a built-in object, if
that object and a point stand there, no name after any other point, and elsewhere every name that is
known, once a character has been typed. The oracle replies with these names
(`Symbols.mem_candidates_iff`).

Each of them consists of identifier characters (`Symbols.Offers.isWord`). Those that statements have
defined do, because a statement is cut into lexemes by the same class of characters. So what a name
adds to the word belongs to the word, and the names that match are still looked up in the same
place.
-/

namespace StatementReader

open Text

/-! ### The word at the end of a text -/

/-- A text ends in `word`: these are the identifier characters at its end, and `head` is what stands
before them. -/
structure EndsInWord (t head word : Text) : Prop where
  append : head ++ word = t
  isWord : ∀ c ∈ word, isWordChar c
  stops : ∀ c ∈ head.getLast?, isWordChar c = false

/-- A text is cut before the last word characters. -/
theorem endsInWord_partialWord (t : Text) :
    EndsInWord t (Symbols.beforeWord t) (Symbols.partialWord t) where
  append := List.rdropWhile_append_rtakeWhile
  isWord c hc := List.mem_rtakeWhile_imp hc
  stops c hc := by
    have hne : t.rdropWhile isWordChar ≠ [] := by
      rintro h
      rw [Symbols.beforeWord, ← List.rdropWhile, h] at hc
      cases hc
    -- the character before the word is the last one that was not taken
    have hlast := List.rdropWhile_last_not isWordChar t hne
    rw [Option.mem_def, Symbols.beforeWord, ← List.rdropWhile,
      List.getLast?_eq_some_getLast hne] at hc
    rw [← Option.some.inj hc]
    simpa using hlast

namespace EndsInWord

variable {t head word : Text}

/-- Read backwards, the word comes first. -/
theorem reverse_eq (h : EndsInWord t head word) : t.reverse = word.reverse ++ head.reverse := by
  rw [← h.append, List.reverse_append]

/-- Read backwards, it still consists of word characters. -/
theorem isWord_reverse (h : EndsInWord t head word) : ∀ c ∈ word.reverse, isWordChar c :=
  fun c hc => h.isWord c (List.mem_reverse.1 hc)

/-- The word is the one that has been typed so far. -/
theorem partialWord_eq (h : EndsInWord t head word) : Symbols.partialWord t = word := by
  have hhead : head.reverse.takeWhile isWordChar = [] := by
    cases hlast : head using List.reverseRecOn with
    | nil => rfl
    | append_singleton init c => simp [h.stops c (by simp [hlast])]
  rw [Symbols.partialWord, h.reverse_eq, List.takeWhile_append_of_pos h.isWord_reverse, hhead,
    List.append_nil, List.reverse_reverse]

/-- And what stands before it is what is left of the text. -/
theorem beforeWord_eq (h : EndsInWord t head word) : Symbols.beforeWord t = head := by
  have happend := (endsInWord_partialWord t).append
  rw [h.partialWord_eq] at happend
  exact List.append_cancel_right (happend.trans h.append.symm)

/-- A text ends in one word only. -/
theorem head_eq {head' word' : Text} (h : EndsInWord t head word) (h' : EndsInWord t head' word') :
    head' = head ∧ word' = word :=
  ⟨h'.beforeWord_eq.symm.trans h.beforeWord_eq, h'.partialWord_eq.symm.trans h.partialWord_eq⟩

/-- Identifier characters that are added belong to the word. -/
theorem append_right (h : EndsInWord t head word) {x : Text} (hx : ∀ c ∈ x, isWordChar c) :
    EndsInWord (t ++ x) head (word ++ x) where
  append := by rw [← List.append_assoc, h.append]
  isWord c hc := (List.mem_append.1 hc).elim (h.isWord c) (hx c)
  stops := h.stops

end EndsInWord

/-! ### Names are words -/

namespace Symbols

/-- Every name that a statement has defined consists of identifier characters. -/
def Spelled (s : Symbols) : Prop := ∀ entry ∈ s.names, ∀ c ∈ entry.1, isWordChar c

/-- Inserting a name adds no other one. -/
theorem mem_of_mem_insertName {name : Text} {header : Option Text}
    {names : List (Text × Option Text)} {entry : Text × Option Text}
    (h : entry ∈ insertName name header names) : entry.1 = name ∨ entry ∈ names := by
  induction names with
  | nil => exact .inl (congrArg Prod.fst (List.mem_singleton.1 h))
  | cons first names ih =>
    obtain ⟨n, k⟩ := first
    -- the name is put before the first one that is not smaller, or in the place of an equal one
    rw [insertName] at h
    split at h
    · rcases List.mem_cons.1 h with rfl | h
      · exact .inl rfl
      · exact .inr (List.mem_cons_of_mem _ h)
    · split at h
      · rcases List.mem_cons.1 h with rfl | h
        · exact .inl rfl
        · exact .inr h
      · rcases List.mem_cons.1 h with rfl | h
        · exact .inr List.mem_cons_self
        · exact (ih h).imp_right (List.mem_cons_of_mem _)

/-- Learning adds only names that are words. -/
theorem Spelled.learn {s : Symbols} (h : s.Spelled) (statement : Text) :
    (s.learn statement).Spelled := by
  unfold Symbols.learn
  split
  · next keyword name lexemes hscan =>
    split
    · next hdefines =>
      -- the name is a lexeme of the statement, and of that kind only words are
      have hname : name ∈ Lexeme.scan statement := by
        have hmem : name ∈ (Lexeme.scan statement).filter (·.kind ≠ .comment) := by
          rw [hscan]
          exact List.mem_cons_of_mem _ List.mem_cons_self
        exact (List.mem_filter.1 hmem).1
      intro entry hentry
      rcases mem_of_mem_insertName hentry with hentry | hentry
      · rw [hentry]
        exact Lexeme.isWord_of_mem hname hdefines.2.2
      · exact h entry hentry
    · exact h
  · exact h

/-- Whatever statements have been met, the names they have defined are spelled as names. -/
theorem spelled_learned (statements : List Text) :
    (statements.foldl learn empty).Spelled := by
  induction statements using List.reverseRecOn with
  | nil => exact fun entry hentry => (List.not_mem_nil hentry).elim
  | append_singleton statements statement ih =>
    rw [List.foldl_concat]
    exact ih.learn statement

/-- The members that are built in are words, and so are their objects. -/
theorem isWord_of_mem_builtinMembers {object : Text} {members : List (Text × Text)}
    (h : (object, members) ∈ builtinMembers) :
    (∀ c ∈ object, isWordChar c) ∧ ∀ member ∈ members, ∀ c ∈ member.1, isWordChar c := by
  have hall : builtinMembers.all fun entry =>
      entry.1.all isWordChar && entry.2.all (·.1.all isWordChar) := by decide +kernel
  simp only [List.all_eq_true, Bool.and_eq_true] at hall
  exact hall _ h

/-- Keywords are words. -/
theorem isWord_of_mem_keywords : ∀ name ∈ Lexeme.keywords, ∀ c ∈ name, isWordChar c := by
  have hall : Lexeme.keywords.all (·.all isWordChar) := by decide +kernel
  simpa only [List.all_eq_true] using hall

/-- So all names that are known are words. -/
theorem Spelled.isWord {s : Symbols} (h : s.Spelled) {name : Text} (hname : name ∈ s.allNames) :
    ∀ c ∈ name, isWordChar c := by
  simp only [allNames, List.mem_append] at hname
  rcases hname with (hname | hname) | hname
  · exact isWord_of_mem_keywords name hname
  · obtain ⟨entry, hentry, rfl⟩ := List.mem_map.1 hname
    exact (isWord_of_mem_builtinMembers hentry).1
  · obtain ⟨entry, hentry, rfl⟩ := List.mem_map.1 hname
    exact h entry hentry

/-! ### The names that match -/

/-- After `head`, the name `name` matches `word`. -/
inductive Offers (s : Symbols) (head word name : Text) : Prop
  /-- The name is a member of the object in front of the point. -/
  | member {front object : Text} {members : List (Text × Text)} :
      head = front ++ object ++ ['.'] → (∀ c ∈ front.getLast?, isWordChar c = false) →
      (object, members) ∈ builtinMembers → name ∈ members.map (·.1) → word <+: name →
      Offers s head word name
  /-- No point precedes, and the name is known. -/
  | known : head.getLast? ≠ some '.' → word ≠ [] → name ∈ s.allNames → word <+: name →
      Offers s head word name

variable {s : Symbols} {head word name : Text}

/-- What is offered begins with what has been typed. -/
theorem Offers.isPrefix (h : s.Offers head word name) : word <+: name := by
  cases h with
  | member _ _ _ _ hword => exact hword
  | known _ _ _ hword => exact hword

/-- What is offered is a word. -/
theorem Offers.isWord (h : s.Offers head word name) (hs : s.Spelled) :
    ∀ c ∈ name, isWordChar c := by
  cases h with
  | member _ _ hobject hname _ =>
    obtain ⟨member, hmember, rfl⟩ := List.mem_map.1 hname
    exact (isWord_of_mem_builtinMembers hobject).2 member hmember
  | known _ _ hname _ => exact hs.isWord hname

/-! ### The reply of the oracle -/

/-- The members of an object are those that are listed for it. -/
theorem mem_membersOf_iff {object : Text} {member : Text × Text} :
    member ∈ membersOf object ↔
      ∃ members, (object, members) ∈ builtinMembers ∧ member ∈ members := by
  constructor
  · intro h
    unfold membersOf at h
    cases hfind : builtinMembers.find? (·.1 == object) with
    | none =>
      rw [hfind] at h
      cases h
    | some entry =>
      have hobject : entry.1 = object := by simpa using List.find?_some hfind
      rw [hfind] at h
      exact ⟨entry.2, hobject ▸ List.mem_of_find?_eq_some hfind, h⟩
  · rintro ⟨members, hobject, hmember⟩
    -- no object is listed twice
    have hall : ∀ entry ∈ builtinMembers, membersOf entry.1 = entry.2 := by decide +kernel
    rwa [hall _ hobject]

/-- The oracle looks at what stands before the cursor, and there only at the word and at the object
in front of it. -/
theorem oracle_append {t : Text} (h : EndsInWord t head word) (rest : Text) :
    s.oracle (size t) (t ++ rest) =
      if head.getLast? = some '.' then
        ⟨size head, ((membersOf (partialWord head.dropLast)).map (·.1)).filter word.isPrefixOf,
          ((membersOf (partialWord head.dropLast)).filter (·.1 == word)).map (·.2)⟩
      else if word = [] then ⟨size head, [], []⟩
      else ⟨size head, s.allNames.filter word.isPrefixOf, (s.header? word).toList⟩ := by
  rw [← h.partialWord_eq, ← h.beforeWord_eq]
  simp only [oracle, upTo_size_append]

/-- What is replaced is the word that has been typed. -/
theorem replacementStart_eq {t : Text} (h : EndsInWord t head word) (rest : Text) :
    (s.oracle (size t) (t ++ rest)).replacementStart = size head := by
  rw [oracle_append h]
  split
  · rfl
  · split <;> rfl

/-- Behind no point, names that are known are offered for a word that has been begun. -/
theorem offers_known_iff (hhead : head.getLast? ≠ some '.') :
    s.Offers head word name ↔ word ≠ [] ∧ name ∈ s.allNames ∧ word <+: name := by
  constructor
  · intro h
    cases h with
    | member hpoint _ _ _ _ => exact (hhead (by rw [hpoint, List.getLast?_concat])).elim
    | known _ hne hname hword => exact ⟨hne, hname, hword⟩
  · rintro ⟨hne, hname, hword⟩
    exact .known hhead hne hname hword

/-- Behind a point, members of the object before it are offered. -/
theorem offers_member_iff {init : Text} :
    s.Offers (init ++ ['.']) word name ↔
      name ∈ (membersOf (partialWord init)).map (·.1) ∧ word <+: name := by
  constructor
  · intro h
    refine ⟨?_, h.isPrefix⟩
    cases h with
    | @member front object members hhead hfront hobject hname _ =>
      -- the object is the word before the point, and the only one that ends there
      have hinit : EndsInWord init front object :=
        ⟨(List.append_cancel_right hhead).symm, (isWord_of_mem_builtinMembers hobject).1, hfront⟩
      obtain ⟨member, hmember, rfl⟩ := List.mem_map.1 hname
      rw [hinit.partialWord_eq]
      exact List.mem_map_of_mem (mem_membersOf_iff.2 ⟨members, hobject, hmember⟩)
    | known hpoint _ _ _ => exact (hpoint List.getLast?_concat).elim
  · rintro ⟨hname, hword⟩
    obtain ⟨member, hmember, rfl⟩ := List.mem_map.1 hname
    obtain ⟨members, hobject, hmember⟩ := mem_membersOf_iff.1 hmember
    have hinit := endsInWord_partialWord init
    exact .member (by rw [hinit.append]) hinit.stops hobject (List.mem_map_of_mem hmember) hword

/-- If some name matches a word, then those that match a longer one are those that begin with it. -/
theorem Offers.append_iff (h : s.Offers head word name) {x other : Text} :
    s.Offers head (word ++ x) other ↔ s.Offers head word other ∧ word ++ x <+: other := by
  have hprefix : word ++ x <+: other → word <+: other := (List.prefix_append word x).trans
  -- behind a point nothing need have been typed, and otherwise something was
  by_cases hpoint : head.getLast? = some '.'
  · obtain ⟨init, rfl⟩ := List.getLast?_eq_some_iff.1 hpoint
    rw [offers_member_iff, offers_member_iff]
    tauto
  · rw [offers_known_iff hpoint] at h ⊢
    rw [offers_known_iff hpoint]
    have hne : word ++ x ≠ [] := List.append_ne_nil_of_left_ne_nil h.1 x
    tauto

/-- The oracle replies with the names that match the word in front of the cursor. -/
theorem mem_candidates_iff {t : Text} (h : EndsInWord t head word) (rest : Text) :
    name ∈ (s.oracle (size t) (t ++ rest)).candidates ↔ s.Offers head word name := by
  rw [oracle_append h]
  split
  · next hpoint =>
    obtain ⟨init, rfl⟩ := List.getLast?_eq_some_iff.1 hpoint
    rw [offers_member_iff, List.dropLast_concat, List.mem_filter, List.isPrefixOf_iff_prefix]
  · next hpoint =>
    rw [offers_known_iff hpoint]
    split
    · next hword => simp [hword]
    · next hword => simp [hword, List.isPrefixOf_iff_prefix]

end Symbols

end StatementReader
