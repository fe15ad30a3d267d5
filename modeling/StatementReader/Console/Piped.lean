import StatementReader.Console
import StatementReader.Text.Utf8

/-!
# Piped input

An input that is no terminal is read line by line. Each line is pasted, without the line break at
its end and the carriage returns before it, and then submitted, for which it takes two readings. A
line that is not text cannot be read. When the input has run out, every further reading is the end
of the input.

As a feed, a piped input is the row of its readings up to the first end of the input
(`PipedInput.feed`), after which the feed has run out too.
-/

namespace StatementReader

/-- Cuts a row of bytes after the first line feed, or at its end if there is none. -/
def Bytes.cutLine (b : Bytes) : Bytes × Bytes :=
  match b.dropWhile (· ≠ lineFeed) with
  | [] => (b, [])
  | byte :: rest => (b.takeWhile (· ≠ lineFeed) ++ [byte], rest)

theorem Bytes.append_cutLine (b : Bytes) : b.cutLine.1 ++ b.cutLine.2 = b := by
  have hparts := List.takeWhile_append_dropWhile (p := (· ≠ lineFeed)) (l := b)
  rw [cutLine]
  split
  · simp
  · next hrest =>
    rw [hrest] at hparts
    simpa using hparts

/-- An input while it is read. -/
structure PipedInput where
  /-- The bytes that have not been read yet. -/
  rest : Bytes
  /-- What the last line still gives rise to. -/
  pending : List InputEvent
  exhausted : Bool
  deriving DecidableEq, Repr

namespace PipedInput

/-- An input of which nothing has been read. -/
def start (input : Bytes) : PipedInput := ⟨input, [], false⟩

/-- A line that has been read, as it is pasted. -/
def pasted (line : Text) : Text := Text.dropEndWhile (fun c => c == '\n' || c == '\r') line

/-- Why a line cannot be read. -/
def notText : Text := "failed to read piped input: stream did not contain valid UTF-8".toList

/-- The next reading. -/
def next (p : PipedInput) : Reading × PipedInput :=
  match p.pending with
  | event :: pending => (.event event, { p with pending := pending })
  | [] =>
    if p.exhausted then (.event .endOfInput, p)
    else
      let (line, rest) := p.rest.cutLine
      if line = [] then (.event .endOfInput, { p with exhausted := true })
      else
        match line.toText? with
        | some t =>
          (.event (.paste (pasted t)), { p with rest := rest, pending := [.submit] })
        | none => (.fault notText, { p with rest := rest })

/-- A bound on the number of readings to come: a line makes at most two. -/
def left (p : PipedInput) : Nat := 2 * p.rest.length + p.pending.length

theorem left_next (p : PipedInput) (h : p.next.1 ≠ .event .endOfInput) :
    p.next.2.left < p.left := by
  have hlength := congrArg List.length (Bytes.append_cutLine p.rest)
  rw [List.length_append] at hlength
  revert h
  rw [next]
  split
  · next hpending => simp [left, hpending]
  · next hpending =>
    split
    · exact fun h => absurd rfl h
    · dsimp only
      split
      · exact fun h => absurd rfl h
      · next hline =>
        have hpos := List.length_pos_iff.2 hline
        split <;> simp only [left, hpending, List.length_cons, List.length_nil] <;> omega

/-- The readings up to the first end of the input. -/
def feed (p : PipedInput) : List Reading :=
  if p.next.1 = .event .endOfInput then [] else p.next.1 :: p.next.2.feed
termination_by p.left
decreasing_by exact left_next p ‹_›

end PipedInput

/-- The feed of an input that is no terminal. -/
def Reading.ofBytes (input : Bytes) : List Reading := (PipedInput.start input).feed

end StatementReader
