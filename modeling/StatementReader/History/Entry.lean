import StatementReader.Text.Ranges

/-!
# The history of a session

The statements of a session in the order in which they came: first those of earlier sessions, which
seed the history, then every submission, whether it was accepted or rejected. Entries are only ever
added at the end.
-/

namespace StatementReader

/-- Where an entry comes from. -/
inductive Origin where
  | seeded | accepted | rejected
  deriving DecidableEq, Repr

/-- A statement of the history. -/
structure HistoryEntry where
  text : Text
  origin : Origin
  deriving DecidableEq, Repr

namespace HistoryEntry

/-- A statement of an earlier session counts as accepted. -/
def wasAccepted (e : HistoryEntry) : Bool := e.origin ≠ .rejected

/-- A submission of this session. -/
def isSubmitted (e : HistoryEntry) : Bool := e.origin ≠ .seeded

end HistoryEntry

/-- The entries, oldest first. -/
structure History where
  entries : List HistoryEntry
  deriving DecidableEq, Repr

namespace History

/-- No entry yet. -/
def empty : History := ⟨[]⟩

/-- Adds statements of earlier sessions. -/
def seed (h : History) (texts : List Text) : History :=
  ⟨h.entries ++ texts.map fun t => ⟨t, .seeded⟩⟩

/-- Adds a submission. -/
def append (h : History) (text : Text) (accepted : Bool) : History :=
  ⟨h.entries ++ [⟨text, if accepted then .accepted else .rejected⟩]⟩

/-- The number of entries. -/
def length (h : History) : Nat := h.entries.length

/-- The entry at an index, counted from the oldest. -/
def get? (h : History) (index : Nat) : Option HistoryEntry := h.entries[index]?

/-- The texts that can be recalled. -/
def texts (h : History) : List Text := h.entries.map (·.text)

/-- The submissions of this session. -/
def submitted (h : History) : List HistoryEntry := h.entries.filter (·.isSubmitted)

end History

end StatementReader
