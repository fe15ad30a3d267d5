import StatementReader.Proofs.Recursion.AtEnd
import StatementReader.Proofs.Recursion.Machine

/-!
# A rule comes to its end

A machine that enters a rule leaves it with the result of `Rule.run` (`Machine.leads_rule`),
although nothing bounds its repetitions. On the way its stack stays below a limit. The limit is the
same for all states, since it is found by the rules alone: a rule has so many rules inside one
another (`Rule.height`), and each call adds as many as a type or an expression may have, which can
happen `maxNesting` times (`Machine.Room`).

The results differ in one case, and for a moment only. A repetition that goes on at the end of the
tokens stops in its next round, and the bounded one stops behind it (`Rule.Agrees`).
-/

namespace StatementReader

namespace Rule

/-- How many rules are inside one another in a rule, itself included. What a call enters does not
count. -/
def height : Rule → Nat
  | seq first second => max first.height second.height + 1
  | branch _ yes no => max yes.height no.height + 1
  | repeatWhile _ round => round.height + 1
  | _ => 1

/-- The rules that may be inside one another from one call to the next. -/
def callHeight : Nat := 37

/-- No rule of a construct is higher than a call has room for. -/
theorem height_construct_lt (c : Construct) : (construct c).height < callHeight := by
  cases c <;> decide

/-- Nor is the rule of a statement. -/
theorem height_statement_lt : statement.height < callHeight := by decide

/-- Every rule has some height. -/
theorem height_pos (rule : Rule) : 0 < rule.height := by
  cases rule <;> exact Nat.succ_pos _

/-- The result of a rule where its repetitions are bounded, and the one where they are not. They
differ only if the rule has come to the end of the tokens and goes on to stop there. -/
inductive Agrees (rule : Rule) : Except Stop State → Except Stop State → Prop
  | same {r} : Agrees rule r r
  | cutOff {m e} : rule.wavers → m.rest = [] → Agrees rule (.ok m) (.error (m.stop e))

/-- A rule may waver where another one does. -/
theorem Agrees.imp {rule rule' : Rule} {r r' : Except Stop State} (h : rule.Agrees r r')
    (hwavers : rule.wavers → rule'.wavers) : rule'.Agrees r r' := by
  cases h with
  | same => exact .same
  | cutOff h hs => exact .cutOff (hwavers h) hs

/-- A rule that does not waver has one result only. -/
theorem Agrees.eq {rule : Rule} {r r' : Except Stop State} (h : rule.Agrees r r')
    (hwavers : rule.wavers = false) : r' = r := by
  cases h with
  | same => rfl
  | cutOff h => cases hwavers.symm.trans h

end Rule

/-- Where the tokens end inside a bracket, it is not closed. -/
theorem State.stop_of_open {s : State} (hs : s.rest = []) (hdepth : 0 < s.depth) (e : Expected) :
    s.stop e = .unterminated := if_pos ⟨hs, hdepth⟩

namespace Machine

open Rule

/-- What is claimed of each machine on the way: the stack has not reached its limit, the calls are
not nested too deeply, and a round that is over has taken a token. -/
structure Fits (limit : Nat) (m : Machine) : Prop where
  length : m.stack.length < limit
  nesting : nesting m.stack ≤ maxNesting
  advances : m.Advances

/-- The first machine becomes the second one, through machines that fit. -/
def Leads (limit : Nat) : Machine → Machine → Prop :=
  Relation.ReflTransGen fun m m' => m.Fits limit ∧ m.step = some m'

/-- The stack has room for rules of a certain height, with calls of a number of levels inside. -/
structure Room (limit levels height : Nat) (stack : List Activation) : Prop where
  nesting : nesting stack + levels = maxNesting
  length : stack.length + height + levels * callHeight ≤ limit

variable {limit levels height : Nat} {stack : List Activation} {rule : Rule} {s : State}

namespace Leads

variable {m m' m'' : Machine}

/-- A machine leads to itself. -/
theorem refl (m : Machine) : Leads limit m m := Relation.ReflTransGen.refl

/-- One step within the bounds leads on. -/
theorem step (hm : m.Fits limit) (hstep : m.step = some m') (h : Leads limit m' m'') :
    Leads limit m m'' :=
  Relation.ReflTransGen.head ⟨hm, hstep⟩ h

/-- One more step at the end. -/
theorem andThen (h : Leads limit m m') (hm : m'.Fits limit) (hstep : m'.step = some m'') :
    Leads limit m m'' :=
  Relation.ReflTransGen.tail h ⟨hm, hstep⟩

/-- What a machine leads to leads on. -/
theorem trans (h : Leads limit m m') (h' : Leads limit m' m'') : Leads limit m m'' :=
  Relation.ReflTransGen.trans h h'

end Leads

namespace Room

/-- Where there is room for a rule there is room for a lower one. -/
theorem mono (h : Room limit levels height stack) {height' : Nat} (hle : height' ≤ height) :
    Room limit levels height' stack :=
  ⟨h.nesting, Nat.le_trans (by omega) h.length⟩

/-- Entering a rule that is no call. -/
theorem push (h : Room limit levels (height + 1) stack) {a : Activation}
    (ha : Machine.nesting (a :: stack) = Machine.nesting stack) :
    Room limit levels height (a :: stack) := by
  have hlength := h.length
  refine ⟨by rw [ha]; exact h.nesting, ?_⟩
  rw [List.length_cons]
  omega

/-- Entering the first of two rules. -/
theorem first {height' : Nat} (h : Room limit levels (max height height' + 1) stack)
    {a : Activation} (ha : Machine.nesting (a :: stack) = Machine.nesting stack) :
    Room limit levels height (a :: stack) :=
  (h.push ha).mono (Nat.le_max_left _ _)

/-- Entering the second of two rules. -/
theorem second {height' : Nat} (h : Room limit levels (max height height' + 1) stack)
    {a : Activation} (ha : Machine.nesting (a :: stack) = Machine.nesting stack) :
    Room limit levels height' (a :: stack) :=
  (h.push ha).mono (Nat.le_max_right _ _)

/-- Entering a call takes one of the levels. -/
theorem call (h : Room limit (levels + 1) 1 stack) (hheight : height < callHeight) :
    Room limit levels height (.call :: stack) := by
  have hlength := h.length
  have hnesting := h.nesting
  rw [Nat.add_mul] at hlength
  refine ⟨by rw [Machine.nesting]; omega, ?_⟩
  rw [List.length_cons]
  omega

/-- With room for it a rule can be entered. -/
theorem fits (h : Room limit levels rule.height stack) (s : State) :
    Fits limit ⟨.enter rule s, stack⟩ where
  length := by
    have hpos := rule.height_pos
    have hlength := h.length
    show stack.length < limit
    omega
  nesting := by
    have hnesting := h.nesting
    show Machine.nesting stack ≤ maxNesting
    omega
  advances := trivial

/-- A rule that has been left fits, unless that is the end of a round. -/
theorem fits_leave (h : Room limit levels rule.height stack) {r : Except Stop State}
    (hr : Advances ⟨.leave r, stack⟩) : Fits limit ⟨.leave r, stack⟩ where
  length := by
    have hpos := rule.height_pos
    have hlength := h.length
    show stack.length < limit
    omega
  nesting := by
    have hnesting := h.nesting
    show Machine.nesting stack ≤ maxNesting
    omega
  advances := hr

end Room

/-- The result of the rule inside is that of the rule around it. -/
theorem Leads.leave {m : Machine} {r : Except Stop State} {a : Activation}
    (h : Leads limit m ⟨.leave r, a :: stack⟩) (hroom : Room limit levels rule.height (a :: stack))
    (ha : a = .second ∨ a = .branch ∨ a = .call) : Leads limit m ⟨.leave r, stack⟩ := by
  refine h.andThen (hroom.fits_leave ?_) ?_
  · rcases ha with rfl | rfl | rfl <;> cases r <;> trivial
  · rcases ha with rfl | rfl | rfl <;> cases r <;> rfl

/-! ### Repetitions -/

/-- If the end of the tokens does not decide a question in the negative, then the round it leads to
stops there. -/
theorem round_stops_at_end {look : Look} {round : Rule}
    (hend : look.positive ∨ round.stopsAtEnd) (hs : s.rest = []) (hlook : look.holds s) :
    look.positive = false ∧ ∃ e, run (read levels) round s = .error (s.stop e) := by
  have hpositive : look.positive = false := by
    cases hpositive : look.positive with
    | false => rfl
    | true => cases hlook.symm.trans (Look.holds_at_end hpositive hs)
  have hstops : round.stopsAtEnd := hend.resolve_left (by simp [hpositive])
  exact ⟨hpositive, run_eq_stop hs (read_eq_stop levels · hs) hstops⟩

/-- A repetition ends. If it comes to the end of the tokens, then either its question is answered in
the negative there, or its round stops. -/
theorem leads_repeatWhile {look : Look} {round : Rule} (htakes : round.takes)
    (hend : look.positive ∨ round.stopsAtEnd) (hroom : Room limit levels (round.height + 1) stack)
    (hround : ∀ s, Leads limit ⟨.enter round s, .round look round s :: stack⟩
      ⟨.leave (run (read levels) round s), .round look round s :: stack⟩) (s : State) :
    ∃ r, (repeatWhile look round).Agrees (run (read levels) (repeatWhile look round) s) r ∧
      Leads limit ⟨.enter (repeatWhile look round) s, stack⟩ ⟨.leave r, stack⟩ := by
  have hinside (s : State) : Room limit levels round.height (.round look round s :: stack) :=
    hroom.push rfl
  have hfits (s : State) : Fits limit ⟨.enter (repeatWhile look round) s, stack⟩ := hroom.fits s
  have henter {s : State} (hlook : look.holds s) :
      Machine.step ⟨.enter (repeatWhile look round) s, stack⟩ =
        some ⟨.enter round s, .round look round s :: stack⟩ := if_pos hlook
  have hover {s : State} (hlook : look.holds s = false) :
      Leads limit ⟨.enter (repeatWhile look round) s, stack⟩ ⟨.leave (.ok s), stack⟩ :=
    .step (hfits s) (if_neg (by simp [hlook])) (.refl _)
  have hstopped {s : State} {stop : Stop} (hlook : look.holds s)
      (hstop : run (read levels) round s = .error stop) :
      Leads limit ⟨.enter (repeatWhile look round) s, stack⟩ ⟨.leave (.error stop), stack⟩ := by
    have hleads := hround s
    rw [hstop] at hleads
    exact .step (hfits s) (henter hlook) (hleads.andThen ((hinside s).fits_leave trivial) rfl)
  have hrounds : Rounds look.holds (run (read levels) round) s
      (run (read levels) (repeatWhile look round) s) :=
    rounds_repeatWhile (forward_read levels) (takes_read levels) htakes s
  generalize run (read levels) (repeatWhile look round) s = res at hrounds
  induction hrounds with
  | @spent s hs =>
    cases hlook : look.holds s with
    | false => exact ⟨_, .same, hover hlook⟩
    | true =>
      -- the bounded repetition is over, and this one has another round, which stops
      obtain ⟨hpositive, e, hstop⟩ := round_stops_at_end hend hs hlook
      exact ⟨_, .cutOff (by simp [wavers, hpositive]) hs, hstopped hlook hstop⟩
  | @done s hlook => exact ⟨_, .same, hover hlook⟩
  | @stopped s stop hlook hstop => exact ⟨_, .same, hstopped hlook hstop⟩
  | @again s m res hlook hok _ ih =>
    obtain ⟨r, hagrees, hleads⟩ := ih
    -- a round that succeeds is not at the end, so it takes a token
    have hleft : s.rest ≠ [] := by
      intro hs
      obtain ⟨-, e, hstop⟩ := round_stops_at_end hend hs hlook
      cases hok.symm.trans hstop
    have hadvances : m.rest.length < s.rest.length :=
      takes_run (forward_read levels) (takes_read levels) htakes hok hleft
    have hfirst := hround s
    rw [hok] at hfirst
    exact ⟨r, hagrees, .step (hfits s) (henter hlook)
      ((hfirst.andThen ((hinside s).fits_leave hadvances) rfl).trans hleads)⟩

/-! ### Rules -/

/-- Two rules in a row lead to their result, if each of them does. Where the first one may be cut
off at the end of the tokens, the second one has to stop there, with a bracket open. -/
theorem leads_seq {first second : Rule}
    (hroom : Room limit levels (seq first second).height stack)
    (hfirst : ∃ r, first.Agrees (run (read levels) first s) r ∧
      Leads limit ⟨.enter first s, .first second :: stack⟩ ⟨.leave r, .first second :: stack⟩)
    (hsecond : ∀ m, run (read levels) first s = .ok m →
      ∃ r, second.Agrees (run (read levels) second m) r ∧
        Leads limit ⟨.enter second m, .second :: stack⟩ ⟨.leave r, .second :: stack⟩)
    (hcut : ∀ m, first.wavers → run (read levels) first s = .ok m → m.rest = [] →
      0 < m.depth ∧ ∃ e, run (read levels) second m = .error (m.stop e)) :
    ∃ r, (seq first second).Agrees (run (read levels) (seq first second) s) r ∧
      Leads limit ⟨.enter (seq first second) s, stack⟩ ⟨.leave r, stack⟩ := by
  obtain ⟨r₁, hagrees, hleads⟩ := hfirst
  have hfits (r : Except Stop State) : Fits limit ⟨.leave r, .first second :: stack⟩ :=
    (hroom.first rfl).fits_leave (by cases r <;> trivial)
  have hleads := Leads.step (hroom.fits s) rfl hleads
  -- if the first rule stops, then so does the row
  have hstopped {stop : Stop} (hr : r₁ = .error stop) :
      Leads limit ⟨.enter (seq first second) s, stack⟩ ⟨.leave (.error stop), stack⟩ := by
    rw [hr] at hleads
    exact hleads.andThen (hfits _) rfl
  generalize hrun : run (read levels) first s = res at hagrees
  cases hagrees with
  | same =>
    cases r₁ with
    | error stop =>
      have herror : run (read levels) (seq first second) s = .error stop :=
        run_seq_eq_error.2 (.inl hrun)
      rw [herror]
      exact ⟨_, .same, hstopped rfl⟩
    | ok m =>
      have hrow : run (read levels) (seq first second) s = run (read levels) second m := by
        show (run (read levels) first s >>= run (read levels) second) = _
        rw [hrun]
        rfl
      obtain ⟨r₂, hagrees₂, hleads₂⟩ := hsecond m hrun
      have hboth := (hleads.andThen (hfits _) rfl).trans hleads₂
      rw [hrow]
      exact ⟨r₂, hagrees₂.imp id, hboth.leave (hroom.second rfl) (.inl rfl)⟩
  | @cutOff m e hw hs =>
    -- what comes next stops as well, and for the same reason, as a bracket is open
    obtain ⟨hdepth, e', hstop⟩ := hcut m hw hrun hs
    have herror : run (read levels) (seq first second) s = .error (m.stop e') :=
      run_seq_eq_error.2 (.inr ⟨m, hrun, hstop⟩)
    rw [State.stop_of_open hs hdepth] at herror hstopped
    rw [herror]
    exact ⟨_, .same, hstopped rfl⟩

/-- Each rule leads to its result, if the calls inside it do. -/
theorem leads_rule (hcall : ∀ c s stack, Room limit levels 1 stack →
      Leads limit ⟨.enter (.call c) s, stack⟩ ⟨.leave (read levels c s), stack⟩)
    {inside : Bool} (h : rule.halts inside) (hinside : inside → 0 < s.depth)
    (hroom : Room limit levels rule.height stack) :
    ∃ r, rule.Agrees (run (read levels) rule s) r ∧
      Leads limit ⟨.enter rule s, stack⟩ ⟨.leave r, stack⟩ := by
  -- the induction is on the rule, with any stack around it that has room for the rule
  induction rule generalizing inside s stack with
  | empty | refuse _ | token | mark _ | ident | opening _ _ | closing _ | endOfStatement _ _ =>
    exact ⟨_, .same, .step (hroom.fits s) rfl (.refl _)⟩
  | seq first second ih₁ ih₂ =>
    simp only [halts, Bool.and_eq_true] at h
    obtain ⟨⟨hfirst, hsecond⟩, hwavers⟩ := h
    refine leads_seq hroom (ih₁ hfirst hinside (hroom.first rfl)) (fun m hrun => ?_)
      fun m hw hrun hs => ?_
    · exact ih₂ hsecond (fun hstays => depth_pos_of_staysInside hstays hinside hrun)
        (hroom.second rfl)
    · -- a first rule that wavers keeps the brackets as they are, and one of them is open
      rw [hw] at hwavers
      simp only [Bool.not_true, Bool.false_or, Bool.and_eq_true] at hwavers
      obtain ⟨⟨hopen, hbalanced⟩, hstops⟩ := hwavers
      refine ⟨?_, run_eq_stop hs (read_eq_stop levels · hs) hstops⟩
      rw [depth_of_balanced hbalanced hrun]
      exact hinside hopen
  | branch look yes no ih₁ ih₂ =>
    obtain ⟨hyes, hno⟩ := Bool.and_eq_true_iff.1 h
    have hroom₁ : Room limit levels yes.height (.branch :: stack) := hroom.first rfl
    have hroom₂ : Room limit levels no.height (.branch :: stack) := hroom.second rfl
    rw [run_branch]
    cases hlook : look.holds s with
    | true =>
      obtain ⟨r, hagrees, hleads⟩ := ih₁ hyes hinside hroom₁
      refine ⟨r, hagrees.imp fun hw => by simp [wavers, hw], .step (hroom.fits s) ?_
        (hleads.leave hroom₁ (.inr (.inl rfl)))⟩
      rw [Machine.step, hlook, if_pos rfl]
    | false =>
      obtain ⟨r, hagrees, hleads⟩ := ih₂ hno hinside hroom₂
      refine ⟨r, hagrees.imp fun hw => by simp [wavers, hw], .step (hroom.fits s) ?_
        (hleads.leave hroom₂ (.inr (.inl rfl)))⟩
      rw [Machine.step, hlook, if_neg Bool.false_ne_true]
  | repeatWhile look round ih =>
    simp only [halts, Bool.and_eq_true, Bool.not_eq_true', Bool.or_eq_true] at h
    obtain ⟨⟨⟨htakes, hhalts⟩, hwavers⟩, hend⟩ := h
    refine leads_repeatWhile htakes hend hroom (fun s => ?_) s
    obtain ⟨r, hagrees, hleads⟩ := ih (s := s) hhalts (fun hopen => by cases hopen)
      (hroom.push (a := .round look round s) rfl)
    rwa [hagrees.eq hwavers] at hleads
  | call c => exact ⟨_, .same, hcall c s stack hroom⟩

/-! ### Calls -/

/-- A call leads to what is read with the levels that are left. It is refused if there are none. -/
theorem leads_call (c : Construct) (s : State) (hroom : Room limit levels 1 stack) :
    Leads limit ⟨.enter (.call c) s, stack⟩ ⟨.leave (read levels c s), stack⟩ := by
  have hfits : Fits limit ⟨.enter (.call c) s, stack⟩ := hroom.fits s
  have hnesting := hroom.nesting
  induction levels generalizing c s stack with
  | zero =>
    have hfull : ¬ Machine.nesting stack < maxNesting := by omega
    exact .step hfits (if_neg hfull) (.refl _)
  | succ levels ih =>
    have hfree : Machine.nesting stack < maxNesting := by omega
    -- inside the call one level is spent, and the stack has room for the construct's rule
    have hinside : Room limit levels (construct c).height (.call :: stack) :=
      hroom.call (height_construct_lt c)
    obtain ⟨hhalts, hwavers⟩ := halts_construct c
    obtain ⟨r, hagrees, hleads⟩ := leads_rule
      (fun c s stack hroom => ih c s hroom (hroom.fits s) hroom.nesting) hhalts
      (fun hopen => by cases hopen) hinside (s := s)
    rw [hagrees.eq hwavers] at hleads
    exact .step hfits (if_pos hfree) (hleads.leave hinside (.inr (.inr rfl)))

/-- A statement leads to its result. -/
theorem leads_statement (s : State) : Leads ((maxNesting + 1) * callHeight)
    ⟨.enter statement s, []⟩ ⟨.leave (readStatement s), []⟩ := by
  have hroom : Room ((maxNesting + 1) * callHeight) maxNesting statement.height [] := by
    have hheight := height_statement_lt
    refine ⟨Nat.zero_add _, ?_⟩
    rw [List.length_nil, Nat.add_mul]
    omega
  -- the rule of a statement halts and does not waver, so its result is the one that reading has
  obtain ⟨hhalts, hwavers⟩ := halts_statement
  obtain ⟨r, hagrees, hleads⟩ := leads_rule (fun c s stack hroom => leads_call c s hroom) hhalts
    (fun hopen => by cases hopen) hroom (s := s)
  rwa [hagrees.eq hwavers] at hleads

/-! ### Refusals -/

/-- What stops a rule stops all rules around it. -/
theorem reaches_of_error (stop : Stop) (stack : List Activation) :
    Relation.ReflTransGen (fun m m' => Machine.step m = some m')
      ⟨.leave (.error stop), stack⟩ ⟨.leave (.error stop), []⟩ := by
  induction stack with
  | nil => exact .refl
  | cons a stack ih =>
    refine .head ?_ ih
    cases a <;> rfl

/-- A call that is refused stops the whole statement. -/
theorem Refuses.reaches {m : Machine} {stop : Stop} (h : m.Refuses stop) :
    Relation.ReflTransGen (fun m m' => Machine.step m = some m') m ⟨.leave (.error stop), []⟩ := by
  obtain ⟨c, s, stack, rfl, hfull, rfl⟩ := h
  exact .head (if_neg (Nat.not_lt.2 hfull)) (reaches_of_error _ stack)

end Machine
end StatementReader
