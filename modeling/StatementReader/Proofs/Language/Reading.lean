import StatementReader.Proofs.Language.FirstTokens
import StatementReader.Proofs.Rule.Progress
import Mathlib.Order.Filter.AtTopBot.Basic

/-!
# Rules that read whole phrases

A rule *completes* a phrase if it reads every row of it, just that row, wherever it stands before
what may follow it. It does so with one number of levels or with all large numbers, and the lemmas
here do not mind which: they hold for any filter of numbers of levels. If the number depends on the
row, then two rows that are read one after the other need a number that is large enough for both,
and the filter of large numbers provides it.

A question of a rule is put to the next tokens. Each lemma here asks for the answers that the rule
needs: for `branch` the answer before the phrase, for `repeatWhile` the answers before a further
round and before what follows the last one.
-/

namespace StatementReader

open Rule Computability Filter

namespace Look

/-- The answer to a question before the tokens `r`, if line breaks count or do not. -/
def before (look : Look) (lineMode : Bool) (r : List Token) : Bool :=
  look.holds ⟨r, 0, 0, [lineMode]⟩

/-- A look is decided by the tokens and the line mode. -/
theorem holds_eq_before (look : Look) {s : State} {ms : List Bool} (hms : s.lineModes = ms) :
    look.holds s = look.before (ms.headD true) s.rest := by
  have hmode : s.lineModes.headD true = [ms.headD true].headD true := by rw [hms]; rfl
  exact holds_congr (s := s) (t := ⟨s.rest, 0, 0, [ms.headD true]⟩) rfl hmode look

end Look

namespace Rule

/-- The rule reads every row of `L` that stands before tokens with `F`, and leads from the line
modes `ms` to `ms'`, with almost any number of levels in the sense of `𝓕`. -/
structure Completes (𝓕 : Filter ℕ) (ms ms' : List Bool) (L : Phrase) (F : List Token → Prop)
    (rule : Rule) : Prop where
  reads : ∀ u ∈ L, ∀ᶠ levels in 𝓕, ∀ (s : State) (r : List Token), s.lineModes = ms →
    s.rest = u ++ r → F r →
      ∃ s', run (read levels) rule s = .ok s' ∧ s'.rest = r ∧ s'.lineModes = ms'

variable {𝓕 : Filter ℕ} {ms ms' modes : List Bool} {L M : Phrase} {F G : List Token → Prop}
  {rule : Rule}
  {p : Token → Bool}

namespace Completes

/-- A rule that reads a language reads any part of it. -/
theorem mono (h : rule.Completes 𝓕 ms ms' M F) (hle : L ≤ M) : rule.Completes 𝓕 ms ms' L F :=
  ⟨fun u hu => h.reads u (hle hu)⟩

/-- It does so wherever it is needed less often. -/
theorem imp (h : rule.Completes 𝓕 ms ms' L F) (hG : ∀ r, G r → F r) :
    rule.Completes 𝓕 ms ms' L G := by
  refine ⟨fun u hu => ?_⟩
  filter_upwards [h.reads u hu] with levels hread s r hs hr hGr
  exact hread s r hs hr (hG r hGr)

/-- Two languages that are read are read together. -/
theorem add (h₁ : rule.Completes 𝓕 ms ms' L F) (h₂ : rule.Completes 𝓕 ms ms' M F) :
    rule.Completes 𝓕 ms ms' (L + M) F :=
  ⟨fun u hu => hu.elim (h₁.reads u) (h₂.reads u)⟩

/-- Two rules in a row, if what follows the first phrase may follow it. -/
theorem seq {first second : Rule} (h₁ : first.Completes 𝓕 ms modes L F)
    (h₂ : second.Completes 𝓕 modes ms' M G) (hF : ∀ v ∈ M, ∀ r, G r → F (v ++ r)) :
    (first >> second).Completes 𝓕 ms ms' (L * M) G := by
  refine ⟨?_⟩
  rintro w ⟨u, hu, v, hv, rfl⟩
  filter_upwards [h₁.reads u hu, h₂.reads v hv] with levels hfirst hsecond s r hs hr hGr
  obtain ⟨m, hm, hmr, hmodes⟩ := hfirst s (v ++ r) hs (by simp [hr]) (hF v hv r hGr)
  obtain ⟨s', hs', hsr, hms'⟩ := hsecond m r hmodes hmr hGr
  exact ⟨s', run_seq_eq_ok.2 ⟨m, hm, hs'⟩, hsr, hms'⟩

/-- A rule after one that does not mind what follows. -/
theorem andThen {first second : Rule} (h₁ : first.Completes 𝓕 ms modes L fun _ => True)
    (h₂ : second.Completes 𝓕 modes ms' M G) : (first >> second).Completes 𝓕 ms ms' (L * M) G :=
  h₁.seq h₂ fun _ _ _ _ => trivial

/-- Rules in a row may be taken together in any way. -/
theorem assoc {a b c : Rule} (h : ((a >> b) >> c).Completes 𝓕 ms ms' L F) :
    (a >> (b >> c)).Completes 𝓕 ms ms' L F := by
  refine ⟨fun u hu => ?_⟩
  filter_upwards [h.reads u hu] with levels hread s r hs hr hFr
  rw [← run_seq_assoc]
  exact hread s r hs hr hFr

/-- Where the parts of a sequence are put together does not matter. -/
theorem assoc_right {a b c d : Rule} (h : (a >> ((b >> c) >> d)).Completes 𝓕 ms ms' L F) :
    (a >> (b >> (c >> d))).Completes 𝓕 ms ms' L F := by
  refine ⟨fun u hu => ?_⟩
  filter_upwards [h.reads u hu] with levels hread s r hs hr hFr
  obtain ⟨s', hs', hend⟩ := hread s r hs hr hFr
  refine ⟨s', ?_, hend⟩
  rw [run_seq] at hs' ⊢
  rw [← hs']
  exact bind_congr fun m => (run_seq_assoc b c d m).symm

/-- A branch that is entered before each row of the phrase. -/
theorem branch_yes {look : Look} {yes no : Rule} (h : yes.Completes 𝓕 ms ms' L F)
    (hlook : ∀ u ∈ L, ∀ r, F r → look.before (ms.headD true) (u ++ r)) :
    (branch look yes no).Completes 𝓕 ms ms' L F := by
  refine ⟨fun u hu => ?_⟩
  filter_upwards [h.reads u hu] with levels hread s r hs hr hFr
  rw [run_branch, look.holds_eq_before hs, hr, if_pos (hlook u hu r hFr)]
  exact hread s r hs hr hFr

/-- A branch that is not entered before any row of the phrase. -/
theorem branch_no {look : Look} {yes no : Rule} (h : no.Completes 𝓕 ms ms' L F)
    (hlook : ∀ u ∈ L, ∀ r, F r → look.before (ms.headD true) (u ++ r) = false) :
    (branch look yes no).Completes 𝓕 ms ms' L F := by
  refine ⟨fun u hu => ?_⟩
  filter_upwards [h.reads u hu] with levels hread s r hs hr hFr
  rw [run_branch, look.holds_eq_before hs, hr, hlook u hu r hFr]
  exact hread s r hs hr hFr

/-- A branch on a question to the next token, which the two phrases answer differently. -/
theorem branch {look : Look} {yes no : Rule} (h₁ : yes.Completes 𝓕 ms ms' L F)
    (h₂ : no.Completes 𝓕 ms ms' M F) (hL : L.Begins p) (hM : M.Begins fun t => !p t)
    (hlook : ∀ r, look.before (ms.headD true) r = r.head?.any p) :
    (branch look yes no).Completes 𝓕 ms ms' (L + M) F := by
  refine (h₁.branch_yes fun u hu r _ => ?_).add (h₂.branch_no fun u hu r _ => ?_)
  · rw [hlook]
    exact hL.any_head? hu r fun _ h => h
  · rw [hlook]
    exact hM.any_head? hu r fun t h => by simpa using h

/-- Nothing is read where an optional phrase is missing. -/
theorem skip {look : Look} (hlook : ∀ r, F r → look.before (ms.headD true) r = false) :
    (optional look rule).Completes 𝓕 ms ms 1 F := by
  have hempty : empty.Completes 𝓕 ms ms 1 F := by
    refine ⟨fun u hu => Eventually.of_forall fun levels s r hs hr _ => ⟨s, rfl, ?_, hs⟩⟩
    obtain rfl : u = [] := hu
    exact hr
  refine hempty.branch_no fun u hu r hFr => ?_
  obtain rfl : u = [] := hu
  exact hlook r hFr

/-- An optional rule reads a phrase that is there or not, if its look tells which. -/
theorem optional {look : Look} (h : rule.Completes 𝓕 ms ms L F)
    (hyes : ∀ u ∈ L, ∀ r, F r → look.before (ms.headD true) (u ++ r))
    (hno : ∀ r, F r → look.before (ms.headD true) r = false) :
    (optional look rule).Completes 𝓕 ms ms (Phrase.opt L) F :=
  (skip hno).add (h.branch_yes hyes)

/-- Rounds that may follow one another, before what ends them. -/
theorem repeatWhile {look : Look} {round : Rule} (h : round.Completes 𝓕 ms ms L F)
    (hne : ∀ u ∈ L, u ≠ [])
    (hyes : ∀ u ∈ L, ∀ r, look.before (ms.headD true) (u ++ r))
    (hno : ∀ r, G r → look.before (ms.headD true) r = false)
    (hround : ∀ u ∈ L, ∀ r, F (u ++ r)) (hlast : ∀ r, G r → F r) :
    (repeatWhile look round).Completes 𝓕 ms ms L∗ G := by
  refine ⟨?_⟩
  rintro w ⟨us, rfl, hus⟩
  -- The bound is no obstacle: it is as long as the tokens left, and each round takes some.
  suffices hiterate : ∀ᶠ levels in 𝓕, ∀ (bound : List Token) (s : State) (r : List Token),
      s.rest.length ≤ bound.length → s.lineModes = ms → s.rest = us.flatten ++ r → G r →
        ∃ s', iterate look.holds (run (read levels) round) bound s = .ok s' ∧ s'.rest = r ∧
          s'.lineModes = ms by
    filter_upwards [hiterate] with levels hread s r hs hr hGr
    exact hread s.rest s r le_rfl hs hr hGr
  induction us with
  | nil =>
    refine Eventually.of_forall fun levels bound s r _ hs hr hGr => ⟨s, ?_, hr, hs⟩
    have hlook : look.holds s = false := by
      rw [look.holds_eq_before hs, hr]
      exact hno r hGr
    cases bound with
    | nil => rfl
    | cons b bound => rw [iterate_cons, hlook]; rfl
  | cons u us ih =>
    have hu := hus u List.mem_cons_self
    filter_upwards [h.reads u hu, ih fun v hv => hus v (List.mem_cons_of_mem _ hv)]
      with levels hfirst hothers bound s r hbound hs hr hGr
    rw [List.flatten_cons, List.append_assoc] at hr
    have hlength : u.length + (us.flatten ++ r).length ≤ bound.length := by
      rwa [hr, List.length_append] at hbound
    have hpos : 0 < u.length := List.length_pos_iff.2 (hne u hu)
    have hnext : F (us.flatten ++ r) := by
      cases us with
      | nil => exact hlast r hGr
      | cons v us =>
        rw [List.flatten_cons, List.append_assoc]
        exact hround v (hus v (List.mem_cons_of_mem _ List.mem_cons_self)) _
    cases bound with
    | nil => exact absurd (Nat.le_trans (Nat.le_add_right _ _) hlength) (Nat.not_le.2 hpos)
    | cons b bound =>
      obtain ⟨m, hm, hmr, hmodes⟩ := hfirst s _ hs hr hnext
      have hshorter : m.rest.length ≤ bound.length := by
        rw [hmr]
        simp only [List.length_cons] at hlength
        omega
      obtain ⟨s', hs', hsr, hms'⟩ := hothers bound m r hshorter hmodes hmr hGr
      refine ⟨s', ?_, hsr, hms'⟩
      rw [iterate_cons, look.holds_eq_before hs, hr, if_pos (hyes u hu _), hm]
      exact hs'

end Completes

/-! ### Single tokens -/

/-- What takes a token reads the phrase of that token. -/
theorem completes_advance {p : Token → Bool}
    (h : ∀ levels (s : State), s.rest.head?.any p → run (read levels) rule s = .ok s.advance) :
    rule.Completes 𝓕 ms ms (Phrase.one p) fun _ => True := by
  refine ⟨?_⟩
  rintro u ⟨t, rfl, ht⟩
  refine Eventually.of_forall fun levels s r hs hr _ => ⟨s.advance, h levels s ?_, ?_, ?_⟩
  · simpa [hr] using ht
  · rw [State.advance_rest, hr]
    rfl
  · rw [State.advance_of_rest_cons hr]
    exact hs

/-- A token is read, whichever it is. -/
theorem completes_token (p : Token → Bool) :
    token.Completes 𝓕 ms ms (Phrase.one p) fun _ => True :=
  completes_advance fun _ _ _ => rfl

/-- A mark is read where it stands. -/
theorem completes_mark (text : Text) :
    (mark text).Completes 𝓕 ms ms (Phrase.punct text) fun _ => True :=
  completes_advance fun _ _ h => takeIf_eq_ok.2 ⟨h, rfl⟩

/-- A name is read where it stands. -/
theorem completes_ident : ident.Completes 𝓕 ms ms Phrase.name fun _ => True :=
  completes_advance fun _ _ h => takeIf_eq_ok.2 ⟨h, rfl⟩

/-- A phrase that its first word tells from the others. -/
theorem completes_keyword {word : Text} {yes no : Rule} (h₁ : yes.Completes 𝓕 ms ms L F)
    (h₂ : no.Completes 𝓕 ms ms M F) (hM : M.Begins fun t => !t.isKeyword word) :
    (branch (.keyword word) (token >> yes) no).Completes 𝓕 ms ms (Phrase.word word * L + M) F :=
  ((completes_token _).andThen h₁).branch h₂ ((Phrase.begins_one _).mul L) hM fun _ => rfl

/-- An opening bracket is read, and its level entered. -/
theorem completes_opening (text : Text) (lineMode : Bool) :
    (opening text lineMode).Completes 𝓕 ms (lineMode :: ms) (Phrase.punct text) fun _ => True := by
  refine ⟨?_⟩
  rintro u ⟨t, rfl, ht⟩
  refine Eventually.of_forall fun levels s r hs hr _ =>
    ⟨s.advance.enter lineMode, ?_, ?_, ?_⟩
  · have hmark : s.atMark text := by simpa [State.atMark, hr] using ht
    exact run_opening_eq_ok.2 ⟨hmark, rfl⟩
  · -- the token is gone, and the line mode inside is on top
    rw [State.advance_of_rest_cons hr]
    rfl
  · rw [State.advance_of_rest_cons hr]
    exact congrArg (lineMode :: ·) hs

/-- A closing bracket is read, and its level left. -/
theorem completes_closing (text : Text) (lineMode : Bool) :
    (closing text).Completes 𝓕 (lineMode :: ms) ms (Phrase.punct text) fun _ => True := by
  refine ⟨?_⟩
  rintro u ⟨t, rfl, ht⟩
  refine Eventually.of_forall fun levels s r hs hr _ => ⟨s.advance.leave, ?_, ?_, ?_⟩
  · have hmark : s.atMark text := by simpa [State.atMark, hr] using ht
    exact run_closing_eq_ok.2 ⟨hmark, rfl⟩
  · -- the token is gone, and the line mode outside is back on top
    rw [State.advance_of_rest_cons hr]
    rfl
  · rw [State.advance_of_rest_cons hr]
    exact congrArg List.tail hs

/-- What is read by the body of a construct is read by the construct, one level deeper. -/
theorem completes_call {c : Construct} (h : (construct c).Completes 𝓕 ms ms' L F) :
    (call c).Completes (𝓕.map (· + 1)) ms ms' L F :=
  ⟨fun u hu => eventually_map.2 (h.reads u hu)⟩

end Rule

end StatementReader
