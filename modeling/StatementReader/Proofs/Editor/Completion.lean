import StatementReader.Proofs.Completion.Insertion
import StatementReader.Proofs.Edit.Sides
import StatementReader.Proofs.Editor.Rounds

/-!
# Completion in the editor

Tab puts characters at the cursor and changes nothing else. They are the rest of the word in front
of the cursor, up to the longest text that all matching names begin with. The same names match the
word afterwards, so a second Tab has nothing left to insert.
-/

namespace StatementReader
namespace Editing

open Text

variable {setup : ReadSetup} {s s' : State} {c : Completions}

/-! ### Printing -/

namespace State

theorem buffer_of_print {s t : State} {rows : List StyledLine} {failure : Option Text}
    (h : s.print rows = (t, failure)) : t.buffer = s.buffer := by
  obtain ⟨rfl, -⟩ := Prod.mk.inj h
  rfl

/-- A display that never fails to print does not fail now. -/
theorem exists_print (h : s.display.faults.print = []) (rows : List StyledLine) :
    ∃ t, s.print rows = (t, none) ∧ t.display.faults.print = [] :=
  ⟨(s.print rows).1, Prod.ext rfl (congrArg FaultPlan.failure? h), congrArg FaultPlan.next h⟩

end State

/-! ### What the command does to the buffer -/

/-- Completion goes on with the buffer as it is, if there is nothing to insert, or puts the common
start of the insertions in the place of what stands between the anchor and the cursor. -/
inductive Completed (c : Completions) (b : EditBuffer) : EditBuffer → Prop
  | nothing : c.candidates = [] ∨ size c.commonStart ≤ b.cursor - c.anchor → Completed c b b
  | common : c.candidates ≠ [] → Completed c b (b.replaceBefore c.anchor c.commonStart)

theorem completed_of_insertCandidate (h : insertCandidate c s = .goOn s') :
    Completed c s.buffer s'.buffer := by
  unfold insertCandidate at h
  split at h
  · next hc =>
    obtain rfl := Step.goOn.inj h
    exact .nothing (.inl hc)
  · next only hc =>
    -- what a single candidate begins with is all of it
    obtain rfl := Step.goOn.inj h
    have hcommon : c.commonStart = only.insertText := by rw [Completions.commonStart, hc]; rfl
    rw [← hcommon]
    exact .common (by simp [hc])
  · next hc _ =>
    split at h
    · obtain rfl := Step.goOn.inj h
      exact .common hc
    · next hlt =>
      -- nothing more is known of the word, so the candidates are listed instead
      split at h
      · next hprint =>
        obtain rfl := Step.goOn.inj h
        rw [State.buffer_of_print hprint]
        exact .nothing (.inr (Nat.le_of_not_lt hlt))
      · cases h

theorem completed_of_complete (h : complete setup s = .goOn s') :
    Completed (StatementReader.complete s.buffer.cursor s.buffer.text setup.oracle setup.scheme)
      s.buffer s'.buffer := by
  unfold complete at h
  dsimp only at h
  split at h
  · exact completed_of_insertCandidate h
  · split at h
    · next hprint =>
      have hcompleted := completed_of_insertCandidate h
      rwa [State.buffer_of_print hprint] at hcompleted
    · cases h

theorem exists_insertCandidate (h : s.display.faults.print = []) (c : Completions) :
    ∃ s', insertCandidate c s = .goOn s' ∧ s'.display.faults.print = [] := by
  unfold insertCandidate
  split
  · exact ⟨s, rfl, h⟩
  · exact ⟨_, rfl, h⟩
  · split
    · exact ⟨_, rfl, h⟩
    · obtain ⟨t, hprint, ht⟩ := State.exists_print h
        ((Columns.rows (c.candidates.map (·.displayText)) s.display.width).map columnRow)
      rw [hprint]
      exact ⟨t, rfl, ht⟩

/-- The command goes on, if printing never fails. -/
theorem exists_complete (setup : ReadSetup) (h : s.display.faults.print = []) :
    ∃ s', complete setup s = .goOn s' ∧ s'.display.faults.print = [] := by
  unfold complete
  dsimp only
  split
  · exact exists_insertCandidate h _
  · obtain ⟨t, hprint, ht⟩ := State.exists_print h ((StatementReader.complete s.buffer.cursor
      s.buffer.text setup.oracle setup.scheme).signatures.flatMap (·.rows))
    rw [hprint]
    exact exists_insertCandidate ht _

/-! ### The command on two sides of a cursor -/

/-- What the anchor cuts off in front of the word is put back, so the command adds the rest of the
word and no more. -/
theorem draft_of_complete {symbols : Symbols} {sides : Sides} {head word : Text}
    (horacle : setup.oracle = symbols.oracle) (hsides : s.buffer.draft = sides.draft)
    (hword : EndsInWord sides.before head word) (h : complete setup s = .goOn s') :
    ∃ x, Completes (symbols.Offers head word) word x ∧
      s'.buffer.draft = (⟨sides.before ++ x, sides.after⟩ : Sides).draft := by
  have hcompleted := completed_of_complete h
  have hcursor : s.buffer.cursor = size sides.before := congrArg Draft.cursor hsides
  have htext : s.buffer.text = sides.before ++ sides.after := congrArg Draft.text hsides
  rw [hcursor, htext, horacle] at hcompleted
  obtain ⟨front, path, hhead, hinserts⟩ := inserts_complete symbols hword sides.after setup.scheme
  generalize StatementReader.complete (size sides.before) (sides.before ++ sides.after)
    symbols.oracle setup.scheme = c at hcompleted hinserts
  obtain ⟨x, hcompletes, hcommon⟩ := hinserts.exists_completes fun name hname => hname.isPrefix
  have hbefore : sides.before = front ++ (path ++ word) := by
    rw [← hword.append, ← hhead, List.append_assoc]
  refine ⟨x, hcompletes, ?_⟩
  generalize s'.buffer = b at hcompleted
  cases hcompleted with
  | nothing hnothing =>
    -- what the candidates have in common is no longer than what has been typed
    have hx : x = [] := by
      by_cases hempty : c.candidates = []
      · exact hcompletes.nothing fun name hname =>
          hinserts.candidates_ne_nil_iff.2 ⟨name, hname⟩ hempty
      · have hle := hnothing.resolve_left hempty
        rw [hcommon hempty, hcursor, hinserts.anchor, hbefore] at hle
        simp only [size_append] at hle
        exact size_eq_zero.1 (by omega)
    rw [hsides, hx, List.append_nil]
  | common hne =>
    -- the anchor is where the path begins, so the path and the word are what is replaced
    have hcut : upTo (min (size front) (size sides.before)) sides.before = front := by
      rw [hbefore, size_append, Nat.min_eq_left (Nat.le_add_right _ _), upTo_size_append]
    rw [EditBuffer.replaceBefore, EditBuffer.edit_eq hsides, hinserts.anchor, hcommon hne]
    simp only [Sides.edit?, hcut]
    rw [hbefore]
    simp only [List.append_assoc]

/-- With the names of a session, whatever its statements have been, Tab only adds characters at the
cursor: the word in front of it is completed as far as all matching names agree, to the whole name
if only one matches and by nothing if none does. A second Tab changes neither the text nor the
cursor. The command goes on unless printing fails. -/
theorem complete_twice {symbols : Symbols} {statements : List Text} {sides : Sides}
    (hsymbols : symbols = statements.foldl Symbols.learn .empty)
    (horacle : setup.oracle = symbols.oracle) (hsides : s.buffer.draft = sides.draft) :
    (s.display.faults.print = [] →
      ∃ s', step setup s .complete = .goOn s' ∧ s'.display.faults.print = []) ∧
    ∀ s', step setup s .complete = .goOn s' → ∃ head word x,
      EndsInWord sides.before head word ∧ Completes (symbols.Offers head word) word x ∧
      (∀ name, (∀ other, symbols.Offers head word other ↔ other = name) → word ++ x = name) ∧
      s'.buffer.draft = (⟨sides.before ++ x, sides.after⟩ : Sides).draft ∧
      ∀ s'', step setup s' .complete = .goOn s'' → s''.buffer.draft = s'.buffer.draft := by
  refine ⟨exists_complete setup, fun s' h => ?_⟩
  have hspelled : symbols.Spelled := hsymbols ▸ Symbols.spelled_learned statements
  have hword := endsInWord_partialWord sides.before
  generalize Symbols.beforeWord sides.before = head, Symbols.partialWord sides.before = word
    at hword
  obtain ⟨x, hcompletes, hdraft⟩ := draft_of_complete horacle hsides hword h
  refine ⟨head, word, x, hword, hcompletes, fun name hname => ?_, hdraft, fun s'' h' => ?_⟩
  · exact hcompletes.eq_of_unique ((hname name).2 rfl) fun other => (hname other).1
  · -- the second Tab finds the same names, because the word has only grown
    have hx : ∀ c ∈ x, isWordChar c := hcompletes.isWord fun name hname => hname.isWord hspelled
    obtain ⟨y, hcompletes', hdraft'⟩ := draft_of_complete horacle hdraft (hword.append_right hx) h'
    obtain rfl : y = [] := hcompletes.again (Symbols.offers_iff_of_completes hcompletes) hcompletes'
    rw [hdraft', hdraft, List.append_nil]

/-- In a call, behind the point of a built-in object, only one of its members matches. A name that
a statement has defined is no member of it. -/
theorem complete_twice_member :
    let symbols := ["val mine = 1".toList].foldl Symbols.learn .empty
    let setup : ReadSetup := ⟨[], .plain, symbols.oracle⟩
    let s : State := ⟨.empty, ⟨⟨"(math.mi)".toList, 8⟩, none, none, [], []⟩, .start 80 .none⟩
    ∃ s', step setup s .complete = .goOn s' ∧ s'.buffer.draft = ⟨"(math.min)".toList, 9⟩ ∧
      ∀ s'', step setup s' .complete = .goOn s'' →
        s''.buffer.draft = ⟨"(math.min)".toList, 9⟩ := by
  intro symbols setup s
  have hsymbols : symbols = ["val mine = 1".toList].foldl Symbols.learn .empty := rfl
  have horacle : setup.oracle = symbols.oracle := rfl
  have hsides : s.buffer.draft = (⟨"(math.mi".toList, [')']⟩ : Sides).draft := rfl
  obtain ⟨hgoes, hafter⟩ := complete_twice hsymbols horacle hsides
  obtain ⟨s', hstep, -⟩ := hgoes rfl
  obtain ⟨head, word, x, hword, -, hunique, hdraft, htwice⟩ := hafter s' hstep
  obtain rfl : head = "(math.".toList := hword.beforeWord_eq.symm.trans (by decide)
  obtain rfl : word = "mi".toList := hword.partialWord_eq.symm.trans (by decide)
  -- only one member begins so
  have hx : "mi".toList ++ x = "min".toList := by
    refine hunique _ fun name => (Symbols.offers_member_iff : symbols.Offers
      ("(math".toList ++ ['.']) "mi".toList name ↔ _).trans ⟨?_, ?_⟩
    · have hmembers : ∀ name ∈ (Symbols.membersOf (Symbols.partialWord "(math".toList)).map (·.1),
          "mi".toList <+: name → name = "min".toList := by decide
      exact fun h => hmembers name h.1 h.2
    · rintro rfl
      decide
  obtain rfl : x = ['n'] := List.append_cancel_left hx
  exact ⟨s', hstep, hdraft, fun s'' h => (htwice s'' h).trans hdraft⟩

end Editing
end StatementReader
