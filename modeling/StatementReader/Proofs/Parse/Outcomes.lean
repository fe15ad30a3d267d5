import StatementReader.Parse

/-!
# Outcomes and the way statements were read

Each outcome of a submitted text comes from one way of reading its statements. The other two modes
differ from it in what they make of a text that is turned down.
-/

namespace StatementReader

variable {t : Text}

/-- The text is a row of finished statements. -/
def Outcome.IsComplete (o : Outcome) : Prop :=
  ∃ words activeWord consumed, o = .complete words activeWord consumed

theorem parse_of_statements {spans : List Span} (h : split t = .statements spans) (mode : Mode) :
    parse t mode = .complete (Outcome.wordsAt t spans)
      (Outcome.findActive t (Text.size t) (Outcome.wordsAt t spans)) (Text.size t) := by
  rw [parse, parseAt, h]
  rfl

/-- A text is complete as a row of statements, or as far as the last finished one if something is
left open and the text is to be completed. -/
theorem parseAt_eq_complete_iff {cursor : Nat} {mode : Mode} {words : List Word}
    {active : Option ActiveWord} {consumed : Nat} :
    parseAt t cursor mode = .complete words active consumed ↔
      (∃ spans, split t = .statements spans ∧ words = Outcome.wordsAt t spans ∧
        active = Outcome.findActive t cursor words ∧ consumed = Text.size t) ∨
      (mode = .completing ∧ split t = .unterminated consumed ∧ words = [] ∧ active = none) := by
  constructor
  · intro h
    rw [parseAt] at h
    cases hsplit : split t with
    | statements spans =>
      rw [hsplit] at h
      obtain ⟨rfl, rfl, rfl⟩ := Outcome.complete.inj h
      exact .inl ⟨spans, rfl, rfl, rfl, rfl⟩
    | unterminated c =>
      -- the only mode in which an unfinished text is answered by what comes before its end
      rw [hsplit] at h
      cases mode with
      | completing =>
        obtain ⟨rfl, rfl, rfl⟩ := Outcome.complete.inj h
        exact .inr ⟨rfl, rfl, rfl, rfl⟩
      | probing | committing => cases h
    | violation e found =>
      rw [hsplit] at h
      cases mode <;> cases h
  · rintro (⟨spans, hsplit, rfl, rfl, rfl⟩ | ⟨rfl, hsplit, rfl, rfl⟩) <;>
      rw [parseAt, hsplit] <;> rfl

/-- The active word is the last one, if it ends at the cursor and the cursor at the end. -/
theorem findActive_eq_some_iff {cursor : Nat} {words : List Word} {active : ActiveWord} :
    Outcome.findActive t cursor words = some active ↔ cursor = Text.size t ∧
      ∃ last, words.getLast? = some last ∧ last.span.stop = Text.size t ∧
        active = ⟨last.text, Text.size last.text, last.span.start⟩ := by
  unfold Outcome.findActive
  constructor
  · intro h
    -- the cursor has to be at the end of the text, and the last word as well
    split at h
    · next last hlast =>
      split at h
      · next hends => exact ⟨hends.1, last, hlast, hends.2.trans hends.1, (Option.some.inj h).symm⟩
      · cases h
    · cases h
  · rintro ⟨rfl, last, hlast, hstop, rfl⟩
    rw [hlast]
    exact if_pos ⟨rfl, hstop⟩

theorem committing_of_violation {e : Expected} {found : Option Token}
    (h : split t = .violation e found) :
    parse t .committing = .failure (.ofViolation t e found) := by
  rw [parse, parseAt, h]
  rfl

theorem committing_of_unterminated {c : Nat} (h : split t = .unterminated c) :
    parse t .committing = .failure (.missingDelimiter (Text.size t)) := by
  rw [parse, parseAt, h]
  rfl

/-- A submitted text is never merely incomplete. -/
theorem committing_ne_incomplete (t : Text) : parse t .committing ≠ .incomplete := by
  rw [parse, parseAt]
  cases split t <;> simp [Outcome.ofSplit]

theorem isComplete_committing_iff :
    (parse t .committing).IsComplete ↔ ∃ spans, split t = .statements spans := by
  constructor
  · rintro ⟨words, activeWord, consumed, h⟩
    cases hsplit : split t with
    | statements spans => exact ⟨spans, rfl⟩
    | unterminated c => cases (committing_of_unterminated hsplit).symm.trans h
    | violation e found => cases (committing_of_violation hsplit).symm.trans h
  · rintro ⟨spans, h⟩
    exact ⟨_, _, _, parse_of_statements h _⟩

theorem isComplete_probing_iff :
    (parse t .probing).IsComplete ↔ ∃ spans, split t = .statements spans := by
  constructor
  · rintro ⟨words, activeWord, consumed, h⟩
    -- what is open or wrong is incomplete when it is only probed
    cases hsplit : split t with
    | statements spans => exact ⟨spans, rfl⟩
    | unterminated c =>
      rw [parse, parseAt, hsplit] at h
      cases h
    | violation e found =>
      rw [parse, parseAt, hsplit] at h
      cases h
  · rintro ⟨spans, h⟩
    exact ⟨_, _, _, parse_of_statements h _⟩

theorem committing_eq_missingDelimiter_iff {position : Nat} :
    parse t .committing = .failure (.missingDelimiter position) ↔
      position = Text.size t ∧ ∃ c, split t = .unterminated c := by
  constructor
  · intro h
    -- each way in which a text is divided has its own outcome
    cases hsplit : split t with
    | statements spans => cases (parse_of_statements hsplit _).symm.trans h
    | unterminated c =>
      cases (committing_of_unterminated hsplit).symm.trans h
      exact ⟨rfl, c, rfl⟩
    | violation e found => cases (committing_of_violation hsplit).symm.trans h
  · rintro ⟨rfl, c, h⟩
    exact committing_of_unterminated h

theorem committing_eq_violation_iff {message : Text} {position : Nat} :
    parse t .committing = .failure (.violation message position) ↔
      ∃ e found, split t = .violation e found ∧
        SyntaxError.ofViolation t e found = .violation message position := by
  constructor
  · intro h
    -- only a violation of the grammar makes one of the outcome
    cases hsplit : split t with
    | statements spans => cases (parse_of_statements hsplit _).symm.trans h
    | unterminated c => cases (committing_of_unterminated hsplit).symm.trans h
    | violation e found =>
      exact ⟨e, found, rfl, Outcome.failure.inj ((committing_of_violation hsplit).symm.trans h)⟩
  · rintro ⟨e, found, h, herror⟩
    rw [committing_of_violation h, herror]

end StatementReader
