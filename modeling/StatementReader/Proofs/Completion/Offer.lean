import StatementReader.Proofs.Completion.Insertion
import StatementReader.Proofs.Edit.Sides
import StatementReader.Proofs.Text.ByteOrder

/-!
# What completion offers

Whatever an oracle replies, what is made of it can be inserted: the anchor is a character boundary
that is not behind the cursor, and the candidates are those of the reply in ascending order.

There are two ways to make it. Where the cursor ends a statement that is a member path
(`EndsInMember`), the reply is taken to be about the member only. The anchor is then the start of the
statement, whatever offset the oracle has given, and the path is put back in front of every
candidate, so only the part of a name behind the last point is lost. Everywhere else the candidates
are inserted as they are, at the offset of the oracle. That offset may lie behind the cursor or
inside a character, and is moved back to the next boundary (`Completions.target_eq_floor`).
-/

namespace StatementReader

open Text

/-! ### Member paths -/

/-- The statement `word` ends in a member: `path` is what it is up to its last point, and the
identifier characters `part` follow. -/
structure EndsInMember (word path part : Text) : Prop where
  append : path ++ part = word
  point : path.getLast? = some '.'
  isWord : ∀ c ∈ part, isWordChar c

namespace Completions

variable {word path part : Text}

theorem memberPath?_of_endsInMember (h : EndsInMember word path part) :
    memberPath? word = some path := by
  -- no identifier character is a point, so the search from the end stops at that of the path
  obtain ⟨init, hinit⟩ := List.getLast?_eq_some_iff.1 h.point
  have hpart : ∀ c ∈ part.reverse, decide (c ≠ '.') := by
    intro c hc
    refine decide_eq_true fun hpoint => ?_
    have hword := h.isWord c (List.mem_reverse.1 hc)
    rw [hpoint, isWordChar_point] at hword
    cases hword
  have htail : (word.reverse.takeWhile (· ≠ '.')).reverse = part := by
    rw [← h.append, hinit, List.reverse_append, List.reverse_concat,
      List.takeWhile_append_of_pos hpart, List.takeWhile_cons_of_neg (by simp), List.append_nil,
      List.reverse_reverse]
  have htake : word.take (word.length - part.length) = path := by
    rw [← h.append, List.length_append, Nat.add_sub_cancel, List.take_left]
  have hne : path ≠ [] := by
    rw [hinit]
    exact List.concat_ne_nil _ _
  unfold memberPath?
  dsimp only
  rw [htail, htake, if_pos]
  rw [Bool.and_eq_true, decide_eq_true_iff, List.all_eq_true]
  exact ⟨hne, h.isWord⟩

theorem memberPath?_eq_some_iff :
    memberPath? word = some path ↔ ∃ part, EndsInMember word path part := by
  constructor
  · intro h
    obtain ⟨part, happend, hpoint, hword⟩ := exists_append_memberPath h
    exact ⟨part, happend, hpoint, hword⟩
  · rintro ⟨part, h⟩
    exact memberPath?_of_endsInMember h

/-! ### The anchor -/

variable {t : Text} {cursor : ℕ} {active : ActiveWord}

/-- Behind a member path, the oracle is not asked where to insert. -/
theorem target_eq_start (hactive : (parseAt t cursor .completing).activeWord = some active)
    (h : EndsInMember active.word path part) (reply : Reply) :
    target cursor t reply = (active.start, path) := by
  rw [target, hactive]
  dsimp only [Option.bind_some]
  rw [memberPath?_of_endsInMember h]
  rfl

/-- Where no statement ends in a member, a candidate is inserted at the last boundary before the
offset of the oracle, and not behind the cursor. -/
theorem target_eq_floor (h : ∀ active path part,
    (parseAt t cursor .completing).activeWord = some active → ¬ EndsInMember active.word path part)
    (reply : Reply) :
    target cursor t reply = (floor (min reply.replacementStart cursor) t, []) := by
  have hnone : ((parseAt t cursor .completing).activeWord.bind fun active =>
      (memberPath? active.word).map fun path => (active.start, path)) = none := by
    refine Option.bind_eq_none_iff.2 fun active hactive => Option.map_eq_none_iff.2 ?_
    refine Option.eq_none_iff_forall_ne_some.2 fun path hpath => ?_
    obtain ⟨part, hmember⟩ := memberPath?_eq_some_iff.1 hpath
    exact h active path part hactive hmember
  rw [target, hnone]
  rfl

end Completions

/-- A candidate put in the place of the end of a text, by a cursor at its end. -/
theorem EditBuffer.text_replaceBefore {b : EditBuffer} {front rest : Text}
    (htext : b.text = front ++ rest) (hcursor : b.cursor = size (front ++ rest)) (value : Text) :
    (b.replaceBefore (size front) value).text = front ++ value := by
  -- the cursor is at the end, so nothing stays behind it
  have hdraft : b.draft = (Sides.atEnd (front ++ rest)).draft := by
    rw [Sides.draft_atEnd, Draft.atEnd, ← hcursor, ← htext]
    rfl
  have hmin : min (size front) (size (front ++ rest)) = size front := by
    rw [size_append]
    exact Nat.min_eq_left (Nat.le_add_right _ _)
  rw [replaceBefore, edit_eq hdraft]
  simp only [Sides.edit?, Sides.atEnd, hmin, upTo_size_append]
  show front ++ value ++ [] = front ++ value
  rw [List.append_nil]

/-! ### The completions -/

/-- Every insertion is a candidate with the path of the target in front of it. -/
theorem insertText_of_mem_complete {cursor : ℕ} {t : Text} {oracle : Oracle}
    {scheme : ColorScheme} {o : Candidate} (h : o ∈ (complete cursor t oracle scheme).candidates) :
    o.insertText = (Completions.target cursor t (oracle cursor t)).2 ++ o.displayText := by
  obtain ⟨c, -, rfl⟩ := List.mem_map.1 h
  rfl

/-- The candidates are those of the reply. -/
theorem displayTexts_complete (cursor : ℕ) (t : Text) (oracle : Oracle) (scheme : ColorScheme) :
    (complete cursor t oracle scheme).candidates.map (·.displayText) =
      (oracle cursor t).candidates.mergeSort notAfter :=
  (List.map_map ..).trans (List.map_id' _)

/-- What an oracle replies can be inserted, whatever it is: between two characters and not behind
the cursor, the candidates of the reply in the order of their bytes. Either they are inserted as they
are, at the last boundary before the offset of the oracle that is not behind the cursor. Or the
cursor is at the end of the text and of a statement that ends in a member, and then each candidate is
inserted with the statement up to its last point in front of it, in the place of the statement. So
of all the text only the identifier characters behind that point are lost. -/
theorem complete_wellFormed (cursor : ℕ) (t : Text) (oracle : Oracle) (scheme : ColorScheme) :
    let c := complete cursor t oracle scheme
    let reply := oracle cursor t
    (IsBoundary c.anchor t ∧ c.anchor ≤ cursor) ∧
    (c.candidates.map (·.displayText)).Perm reply.candidates ∧
    (c.candidates.map fun o => Bytes.ofText o.insertText).Pairwise (· ≤ ·) ∧
    ((∀ active path part, (parseAt t cursor .completing).activeWord = some active →
          ¬ EndsInMember active.word path part) ∧
        (∀ o ∈ c.candidates, o.insertText = o.displayText) ∧
        IsGreatest {m | IsBoundary m t ∧ m ≤ min reply.replacementStart cursor} c.anchor ∨
      ∃ active path part, (parseAt t cursor .completing).activeWord = some active ∧
        EndsInMember active.word path part ∧
        cursor = size t ∧ beyond c.anchor t = active.word ∧
        (∀ o ∈ c.candidates, o.insertText = path ++ o.displayText) ∧
        ∃ kept, t = kept ++ part ∧ ∀ o ∈ c.candidates, ∀ b : EditBuffer,
          b.text = t → b.cursor = cursor →
            (b.replaceBefore c.anchor o.insertText).text = kept ++ o.displayText) := by
  intro c reply
  have hperm : (c.candidates.map (·.displayText)).Perm reply.candidates := by
    rw [displayTexts_complete]
    exact List.mergeSort_perm _ _
  have hsorted : (c.candidates.map fun o => Bytes.ofText o.insertText).Pairwise (· ≤ ·) := by
    refine List.pairwise_map.2 (List.pairwise_map.2 ?_)
    exact (pairwise_mergeSort_notAfter reply.candidates _).imp Bytes.ofText_le_iff.2
  by_cases hmember : ∃ active path part,
      (parseAt t cursor .completing).activeWord = some active ∧ EndsInMember active.word path part
  · -- the statement is the end of the text, so the anchor and the path are found from its front
    obtain ⟨active, path, part, hactive, hmember⟩ := hmember
    have htarget := Completions.target_eq_start hactive hmember reply
    obtain ⟨hcursor, front, hfront, hstart⟩ := exists_append_activeWord hactive
    have hanchor : c.anchor = size front := by
      rw [← hstart]
      exact congrArg Prod.fst htarget
    have hinsert (o : Candidate) (ho : o ∈ c.candidates) :
        o.insertText = path ++ o.displayText := by
      rw [insertText_of_mem_complete ho, htarget]
    -- only the part behind the last point is replaced, and the path is inserted again
    have hkept : t = (front ++ path) ++ part := by
      rw [List.append_assoc, hmember.append, hfront]
    refine ⟨⟨⟨front, active.word, hfront.symm, hanchor⟩, ?_⟩, hperm, hsorted, .inr ⟨active, path,
      part, hactive, hmember, hcursor, ?_, hinsert, front ++ path, hkept, ?_⟩⟩
    · rw [hanchor, hcursor, ← hfront, size_append]
      exact Nat.le_add_right _ _
    · rw [hanchor, ← hfront, beyond_size_append]
    · intro o ho b htext hb
      have hsize : b.cursor = size (front ++ active.word) := by rw [hb, hcursor, hfront]
      rw [hanchor, EditBuffer.text_replaceBefore (htext.trans hfront.symm) hsize, hinsert o ho,
        List.append_assoc]
  · -- no member is asked for, so the oracle's place counts, moved down to a boundary
    have hplain : ∀ active path part, (parseAt t cursor .completing).activeWord = some active →
        ¬ EndsInMember active.word path part := fun active path part hactive h =>
      hmember ⟨active, path, part, hactive, h⟩
    have htarget := Completions.target_eq_floor hplain reply
    have hanchor : c.anchor = floor (min reply.replacementStart cursor) t :=
      congrArg Prod.fst htarget
    refine ⟨⟨hanchor ▸ floor_isBoundary _ t, ?_⟩, hperm, hsorted, .inl ⟨hplain, ?_, ?_⟩⟩
    · rw [hanchor]
      exact (floor_le _ t).trans (Nat.min_le_right _ _)
    · intro o ho
      rw [insertText_of_mem_complete ho, htarget]
      rfl
    · rw [hanchor]
      exact isGreatest_floor _ t

/-- Behind the path of a member, an offset that makes no sense does not matter. -/
example : complete 6 "foo.ba".toList (fun _ _ => ⟨99, ["bar".toList], []⟩) .plain =
    ⟨0, [⟨"foo.bar".toList, "bar".toList⟩], []⟩ := by decide +kernel

end StatementReader
