import StatementReader.Proofs.Language.Longest

/-!
# The limit on nesting

With fewer levels a reader does the same as with more, until it is refused a level
(`Production.Narrows`). So a phrase that needs more levels than there are is turned down for its
nesting, and for nothing else: `readStatement_of_mem_grammar`.
-/

namespace StatementReader

open Rule Computability Filter

/-- Where `q` succeeds, `p` does the same, or is refused a deeper level before some token. -/
structure Production.Narrows (p q : Production) : Prop where
  reads : ∀ {s s' : State}, q s = .ok s' →
    p s = .ok s' ∨ ∃ t, p s = .error (.violation .shallowerNesting (some t))

/-- Where the first of two productions is refused, the second one is not tried. -/
theorem Production.Narrows.bind {p p' q q' : Production} (h : p.Narrows q) (h' : p'.Narrows q') :
    Production.Narrows (fun s => p s >>= p') (fun s => q s >>= q') where
  reads {s s'} hs := by
    change (q s >>= q') = .ok s' at hs
    show (p s >>= p') = .ok s' ∨ ∃ t, (p s >>= p') = .error (.violation .shallowerNesting (some t))
    cases hq : q s with
    | error stop =>
      rw [hq] at hs
      cases hs
    | ok m =>
      rw [hq] at hs
      -- the first part succeeds as well, or the limit was met in it
      rcases h.reads hq with hp | ⟨t, hp⟩
      · rw [hp]
        exact h'.reads hs
      · rw [hp]
        exact .inr ⟨t, rfl⟩

namespace Rule

variable {calls calls' : Construct → Production}

theorem narrows_iterate {test : State → Bool} {p q : Production} (h : p.Narrows q)
    (bound : List Token) : Production.Narrows (iterate test p bound) (iterate test q bound) := by
  induction bound with
  | nil => exact ⟨fun hs => .inl hs⟩
  | cons b bound ih =>
    refine ⟨fun {s s'} hs => ?_⟩
    rw [iterate_cons] at hs ⊢
    split at hs
    · next htest =>
      rw [if_pos htest]
      exact (h.bind ih).reads hs
    · next htest =>
      rw [if_neg htest]
      exact .inl hs

theorem narrows_run (h : ∀ c, (calls c).Narrows (calls' c)) (rule : Rule) :
    Production.Narrows (run calls rule) (run calls' rule) := by
  -- only a call can meet the limit
  induction rule with
  | empty | refuse _ | token | mark _ | ident | opening _ _ | closing _ | endOfStatement _ _ =>
    exact ⟨fun hs => .inl hs⟩
  | seq first second ih₁ ih₂ => exact ih₁.bind ih₂
  | branch look yes no ih₁ ih₂ =>
    refine ⟨fun {s s'} hs => ?_⟩
    rw [run_branch] at hs ⊢
    split at hs
    · next hlook =>
      rw [if_pos hlook]
      exact ih₁.reads hs
    · next hlook =>
      rw [if_neg hlook]
      exact ih₂.reads hs
  | repeatWhile look round ih =>
    exact ⟨fun {s s'} hs => (narrows_iterate ih s.rest).reads hs⟩
  | call c => exact h c

theorem rest_ne_nil_of_read {n : ℕ} {c : Construct} {s s' : State} (h : read n c s = .ok s') :
    s.rest ≠ [] := by
  have hne {shape : Shape} {u : List Token} (hu : u ∈ Shapes.level n shape)
      (hr : s.rest = u ++ s'.rest) : s.rest ≠ [] := by
    rw [hr]
    exact List.append_ne_nil_of_left_ne_nil (((Shapes.readable_level n).begins shape).ne_nil hu) _
  -- neither a type nor an expression is empty
  cases c with
  | type =>
    obtain ⟨-, bare, u, hu, hr, -⟩ := (soundCalls_level n).type h
    exact hne hu hr
  | expr =>
    obtain ⟨-, short, u, hu, hr, -⟩ := (soundCalls_level n).expr h
    exact hne hu hr

/-- Fewer levels make no other difference. -/
theorem narrows_read {k n : ℕ} (h : k ≤ n) (c : Construct) : (read k c).Narrows (read n c) := by
  induction k generalizing n c with
  | zero =>
    refine ⟨fun {s s'} hs => .inr ?_⟩
    obtain ⟨t, r, hr⟩ := List.exists_cons_of_ne_nil (rest_ne_nil_of_read hs)
    exact ⟨t, by simp [read, State.stop, hr]⟩
  | succ k ih =>
    obtain ⟨m, rfl⟩ := Nat.exists_eq_add_of_le' (Nat.le_trans (Nat.le_add_left 1 k) h)
    exact narrows_run (fun c => ih (Nat.le_of_succ_le_succ h) c) (construct c)

end Rule

/-! ### Statements -/

/-- Whatever the grammar takes for a statement is one of the greedy shapes. -/
theorem statement_grammar_le : grammar.statement ≤ greedy.forget.statement :=
  Phrases.statement_mono grammar_le_forget

/-- A statement of the grammar is read, unless it is nested too deeply. -/
theorem readStatement_of_mem_grammar {u r : List Token} (hu : u ∈ grammar.statement) {s : State}
    (hms : s.lineModes.headD true = true) (hr : s.rest = u ++ r)
    (hnext : Next Token.endsStatement r) :
    (∃ s', readStatement s = .ok s' ∧ s'.rest = r) ∨
      ∃ t, readStatement s = .error (.violation .shallowerNesting (some t)) := by
  obtain ⟨n, hn⟩ := eventually_atTop.1
    ((completes_statement readable_greedy hms).reads u (statement_grammar_le hu))
  obtain ⟨s', hs', hrest, -⟩ := hn (max n maxNesting) (le_max_left _ _) s r rfl hr hnext
  rcases (narrows_run (narrows_read (le_max_right n maxNesting)) statement).reads hs' with h | h
  · exact .inl ⟨s', h, hrest⟩
  · exact .inr h

/-- Statements of at most as many levels as the reader has, where no choice is left open. -/
def shallowStatement : Phrase := (Shapes.level maxNesting).forget.statement

/-- Shallow statements begin as statements do. -/
theorem begins_shallowStatement : shallowStatement.Begins Token.startsStatement :=
  begins_statement (Shapes.readable_level maxNesting)

theorem readStatement_of_mem_shallow {u r : List Token} (hu : u ∈ shallowStatement) {s : State}
    (hms : s.lineModes.headD true = true) (hr : s.rest = u ++ r)
    (hnext : Next Token.endsStatement r) : ∃ s', readStatement s = .ok s' ∧ s'.rest = r := by
  have hreads := (completes_statement (Shapes.readable_level maxNesting) hms).reads u hu
  obtain ⟨s', hs', hrest, -⟩ := eventually_pure.1 hreads s r rfl hr hnext
  exact ⟨s', hs', hrest⟩

theorem sound_readStatement {ms : List Bool} (hms : ms.headD true = true) :
    readStatement.Sound State.Any ms ms shallowStatement :=
  sound_statement (soundCalls_forget (soundCalls_level maxNesting)) hms

/-- The statements of the grammar are those of any number of levels. -/
theorem mem_statement_grammar_iff {u : List Token} :
    u ∈ grammar.statement ↔ ∃ n, u ∈ (Shapes.level n).forget.statement := by
  constructor
  · intro hu
    have hms : [true].headD true = true := rfl
    -- a statement is read for all but finitely many levels, so for some of them
    obtain ⟨n, hn⟩ := ((completes_statement readable_greedy hms).reads u
      (statement_grammar_le hu)).exists
    obtain ⟨s', hs', hr, -⟩ := hn ⟨u, 0, 0, [true]⟩ [] rfl (by simp) fun t ht => by cases ht
    obtain ⟨-, v, hv, huv⟩ := (sound_statement (C := State.Any)
      (soundCalls_forget (soundCalls_level n)) hms).reads trivial rfl hs'
    have huv : u = v ++ s'.rest := huv
    rw [huv, hr, List.append_nil]
    exact ⟨n, hv⟩
  · rintro ⟨n, hn⟩
    exact Phrases.statement_mono
      ((Shapes.forget_mono (Shapes.level_le_greedy n)).trans forget_le_grammar) hn

end StatementReader
