import Mathlib.Data.List.DropRight
import StatementReader.Console.Piped

/-!
# The lines of a piped input

A piped input is read line by line, and the lines are known beforehand: they are the pieces between
the line feeds, each with the line feed that ended it (`Bytes.rawLines`). What is read of the input
is what is read of each line, one after the other (`Reading.ofBytes_eq`). A line holds a line feed
nowhere but at its end, so in what is pasted of it every carriage return is a line break of its own
(`normalizeBreaks_pasted`).
-/

namespace StatementReader

namespace Bytes

/-- The pieces between line feeds, each with the line feed that ended it. -/
def rawLines (b : Bytes) : List Bytes :=
  let pieces := b.splitOn lineFeed
  let last := pieces.getLastD []
  pieces.dropLast.map (· ++ [lineFeed]) ++ (if last = [] then [] else [last])

variable {b piece rest : Bytes}

/-- Bytes without a line feed are one line, or none. -/
theorem rawLines_of_not_mem (h : lineFeed ∉ b) : b.rawLines = if b = [] then [] else [b] := by
  simp [rawLines, List.splitOn_eq_singleton h]

/-- A line feed ends the first line. -/
theorem rawLines_append_cons (h : lineFeed ∉ piece) :
    (piece ++ lineFeed :: rest).rawLines = (piece ++ [lineFeed]) :: rest.rawLines := by
  have hrest := List.splitOn_ne_nil lineFeed rest
  have hsplit : (piece ++ lineFeed :: rest).splitOn lineFeed = piece :: rest.splitOn lineFeed := by
    rw [List.splitOn_append_cons_self, List.splitOn_eq_singleton h, List.singleton_append]
  obtain ⟨first, others, hfirst⟩ := List.exists_cons_of_ne_nil hrest
  simp [rawLines, hsplit, hfirst]

/-- The first line is cut off at the first line feed, or else at the end. -/
theorem cutLine_cases (b : Bytes) :
    (lineFeed ∉ b ∧ b.cutLine = (b, [])) ∨
    ∃ piece rest, lineFeed ∉ piece ∧ b = piece ++ lineFeed :: rest ∧
      b.cutLine = (piece ++ [lineFeed], rest) := by
  have hpiece : lineFeed ∉ b.takeWhile (· ≠ lineFeed) := fun h => by
    simpa using List.mem_takeWhile_imp h
  have hparts := List.takeWhile_append_dropWhile (p := (· ≠ lineFeed)) (l := b)
  rw [cutLine]
  split
  · next hnone =>
    rw [hnone, List.append_nil] at hparts
    exact .inl ⟨hparts ▸ hpiece, rfl⟩
  · next byte rest hsome =>
    -- what the first piece stops at is what it must not contain
    have hbyte : byte = lineFeed := by
      have hfirst := List.head?_dropWhile_not (· ≠ lineFeed) b
      rw [hsome] at hfirst
      simpa using hfirst
    subst hbyte
    rw [hsome] at hparts
    exact .inr ⟨_, rest, hpiece, hparts.symm, rfl⟩

/-- The first line is the one that is cut, and the others are those of what is left. -/
theorem rawLines_eq (h : b ≠ []) : b.rawLines = b.cutLine.1 :: b.cutLine.2.rawLines := by
  obtain ⟨hline, hcut⟩ | ⟨piece, rest, hpiece, rfl, hcut⟩ := b.cutLine_cases
  · rw [hcut, rawLines_of_not_mem hline, if_neg h]
    rfl
  · rw [hcut, rawLines_append_cons hpiece]

/-- A line that is cut is not empty. -/
theorem cutLine_fst_ne_nil (h : b ≠ []) : b.cutLine.1 ≠ [] := by
  obtain ⟨-, hcut⟩ | ⟨piece, rest, -, -, hcut⟩ := b.cutLine_cases <;> simp [hcut, h]

/-- So less is left. -/
theorem length_cutLine_snd_lt (h : b ≠ []) : b.cutLine.2.length < b.length := by
  have hlength := congrArg List.length b.append_cutLine
  have hpos := List.length_pos_iff.2 (cutLine_fst_ne_nil h)
  rw [List.length_append] at hlength
  omega

/-- What holds of the rest after a line holds of every input that is not empty. -/
theorem line_induction {motive : Bytes → Prop} (nil : motive [])
    (line : ∀ b : Bytes, b ≠ [] → motive b.cutLine.2 → motive b) (b : Bytes) : motive b := by
  by_cases h : b = []
  · exact h ▸ nil
  · exact line b h (line_induction nil line b.cutLine.2)
termination_by b.length
decreasing_by exact length_cutLine_snd_lt h

/-- No byte is lost. -/
theorem flatten_rawLines (b : Bytes) : b.rawLines.flatten = b := by
  induction b using line_induction with
  | nil => rfl
  | line b h ih => rw [rawLines_eq h, List.flatten_cons, ih, append_cutLine]

/-- A line has a line feed only at its end. -/
theorem not_mem_dropLast_of_mem_rawLines {line : Bytes} (h : line ∈ b.rawLines) :
    lineFeed ∉ line.dropLast := by
  induction b using line_induction with
  | nil => cases h
  | line b hb ih =>
    rw [rawLines_eq hb] at h
    obtain rfl | hrest := List.mem_cons.1 h
    · -- the first line is all there is, or it is ended by its only line feed
      obtain ⟨hline, hcut⟩ | ⟨piece, rest, hpiece, -, hcut⟩ := b.cutLine_cases
      · rw [hcut]
        exact fun hmem => hline (List.dropLast_subset b hmem)
      · rwa [hcut, List.dropLast_concat]
    · exact ih hrest

end Bytes

/-! ### Readings -/

namespace PipedInput

/-- What is read of a line. -/
def readingsOf (line : Bytes) : List Reading :=
  match line.toText? with
  | some t => [.event (.paste (pasted t)), .event .submit]
  | none => [.fault notText]

/-- No input brings nothing. -/
theorem feed_nil : (start []).feed = [] := by
  rw [feed]
  rfl

/-- A submission that is pending comes first. -/
theorem feed_submit (rest : Bytes) :
    (PipedInput.mk rest [.submit] false).feed = .event .submit :: (start rest).feed := by
  rw [feed]
  rfl

/-- The readings of the first line come before those of the others. -/
theorem feed_line {b : Bytes} (h : b ≠ []) :
    (start b).feed = readingsOf b.cutLine.1 ++ (start b.cutLine.2).feed := by
  have hline := Bytes.cutLine_fst_ne_nil h
  rw [feed, readingsOf]
  cases htext : b.cutLine.1.toText? with
  | some t => simp [next, start, hline, htext, feed_submit]
  | none => simp [next, start, hline, htext]

end PipedInput

/-- The input brings the readings of its lines, one after the other. -/
theorem Reading.ofBytes_eq (input : Bytes) :
    ofBytes input = input.rawLines.flatMap PipedInput.readingsOf := by
  induction input using Bytes.line_induction with
  | nil => exact PipedInput.feed_nil
  | line b h ih =>
    rw [Bytes.rawLines_eq h, List.flatMap_cons, ← ih]
    exact PipedInput.feed_line h

namespace PipedInput

variable {p : PipedInput}

/-- Only the input itself can have ended, not a line that has been read. -/
theorem endOfInput_notMem_pending_next (h : .endOfInput ∉ p.pending) :
    .endOfInput ∉ p.next.2.pending := by
  rw [next]
  -- what is pending was pending before, or it is the submission of a line
  split
  · next hpending =>
    rw [hpending] at h
    exact List.not_mem_of_not_mem_cons h
  · split
    · exact h
    · dsimp only
      split
      · exact h
      · split
        · simp
        · exact h

/-- An input that has ended stays so. -/
theorem next_next_of_end (h : .endOfInput ∉ p.pending) (hend : p.next.1 = .event .endOfInput) :
    p.next.2.next.1 = .event .endOfInput := by
  -- no event that is pending ends the input, so the end is that of the bytes
  have hnone : p.pending = [] := by
    by_contra hsome
    obtain ⟨event, pending, hpending⟩ := List.exists_cons_of_ne_nil hsome
    rw [next, hpending] at hend
    obtain rfl : event = .endOfInput := by simpa using hend
    exact h (hpending ▸ List.mem_cons_self)
  revert hend
  rw [next, hnone]
  dsimp only
  split
  · next hexhausted => simp [next, hnone, hexhausted]
  · split
    · simp [next]
    · split <;> simp

/-- The `n`-th of the readings to come. -/
def nth : Nat → PipedInput → Reading
  | 0, p => p.next.1
  | n + 1, p => nth n p.next.2

/-- The readings of an input, taken one after the other, are those of its feed, and from then on it
is at its end. -/
theorem nth_eq (h : .endOfInput ∉ p.pending) (n : Nat) :
    p.nth n = p.feed.getD n (.event .endOfInput) := by
  induction n generalizing p with
  | zero =>
    rw [nth, feed]
    split <;> simp_all
  | succ n ih =>
    -- once the end has been read it is read again and again
    rw [nth, ih (endOfInput_notMem_pending_next h), feed.eq_def p]
    split
    · next hend =>
      rw [feed, if_pos (next_next_of_end h hend)]
      rfl
    · rfl

end PipedInput

/-! ### What is pasted -/

/-- A line as it is typed in: without the carriage returns and line feeds at its end, and with a
line feed for every other carriage return. -/
def PipedInput.typed (line : Text) : Text :=
  (line.rdropWhile fun c => c == '\n' || c == '\r').map fun c => if c = '\r' then '\n' else c

/-- Without line feeds every carriage return becomes one. -/
theorem normalizeBreaks_of_not_mem {t : Text} (h : '\n' ∉ t) :
    Text.normalizeBreaks t = t.map fun c => if c = '\r' then '\n' else c := by
  fun_induction Text.normalizeBreaks t with
  | case1 => rfl
  | case2 t => simp at h
  | case3 c t _ ih => rw [List.map_cons, ih (List.not_mem_of_not_mem_cons h)]

/-- A line feed that is not the last character is not the last byte. -/
theorem lineFeed_mem_dropLast (a : Text) {b : Text} (h : b ≠ []) :
    Bytes.lineFeed ∈ (Bytes.ofText (a ++ '\n' :: b)).dropLast := by
  have hb : Bytes.ofText b ≠ [] := by
    obtain ⟨c, b, rfl⟩ := List.exists_cons_of_ne_nil h
    simp [Bytes.ofText, String.utf8EncodeChar_ne_nil]
  have hfeed : Bytes.ofText (a ++ '\n' :: b) =
      Bytes.ofText a ++ [Bytes.lineFeed] ++ Bytes.ofText b := by
    simp only [Bytes.ofText, List.flatMap_append, List.flatMap_cons, List.append_assoc]
    rfl
  rw [hfeed, List.dropLast_append_of_ne_nil hb]
  simp

/-- A line that is pasted types its text. -/
theorem normalizeBreaks_pasted {line : Bytes} {t : Text} (hline : Bytes.lineFeed ∉ line.dropLast)
    (ht : line.toText? = some t) :
    Text.normalizeBreaks (PipedInput.pasted t) = PipedInput.typed t := by
  -- a line feed that is pasted has a character after it, for the last one pasted is no line feed
  refine normalizeBreaks_of_not_mem fun hmem => hline ?_
  obtain ⟨suffix, hsuffix⟩ := List.rdropWhile_prefix (fun c => c == '\n' || c == '\r') t
  have hlast := List.rdropWhile_last_not (fun c => c == '\n' || c == '\r') t
  change '\n' ∈ t.rdropWhile _ at hmem
  obtain ⟨a, b, hab⟩ := List.append_of_mem hmem
  have hb : b ≠ [] := by
    rintro rfl
    simp [hab] at hlast
  rw [Bytes.toText?_eq_some_iff.1 ht, ← hsuffix, hab, List.append_assoc, List.cons_append]
  exact lineFeed_mem_dropLast a (List.append_ne_nil_of_left_ne_nil hb suffix)

end StatementReader
