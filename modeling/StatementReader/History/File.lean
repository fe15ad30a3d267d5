import StatementReader.History.Record
import StatementReader.Text.Utf8

/-!
# The history file

The history between sessions: one record a line, the newest last. Records are only ever appended. A
line that is no record is passed over with a warning, but the file as a whole must be readable, and
every line of it text.
-/

namespace StatementReader

/-- What is at the path of a file. -/
inductive FileState where
  /-- Nothing yet, in a directory that exists. -/
  | missing
  | file (content : Bytes)
  | directory
  /-- Nothing, and the directory does not exist either. -/
  | noParent
  /-- Nothing, and what should be the directory is a file. -/
  | underFile
  /-- Something that must be neither read nor written. -/
  | forbidden
  deriving DecidableEq, Repr

/-- Why a file cannot be read or written. -/
inductive FileError where
  | notFound | isDirectory | notDirectory | permissionDenied
  /-- A line is not valid UTF-8. -/
  | notText
  deriving DecidableEq, Repr

namespace FileError

/-- The words of the operating system for the error. -/
def description : FileError → Text
  | notFound => "No such file or directory (os error 2)".toList
  | isDirectory => "Is a directory (os error 21)".toList
  | notDirectory => "Not a directory (os error 20)".toList
  | permissionDenied => "Permission denied (os error 13)".toList
  | notText => "stream did not contain valid UTF-8".toList

/-- The message about the history file. -/
def message (e : FileError) : Text := "history file io error: ".toList ++ e.description

end FileError

namespace FileState

/-- The content to read. A file that does not exist cannot be opened. -/
def content : FileState → Except FileError Bytes
  | missing | noParent => .error .notFound
  | file content => .ok content
  | directory => .error .isDirectory
  | underFile => .error .notDirectory
  | forbidden => .error .permissionDenied

/-- The file after appending to it, created if there was none. -/
def append (bytes : Bytes) : FileState → Except FileError FileState
  | missing => .ok (file bytes)
  | file content => .ok (file (content ++ bytes))
  | directory => .error .isDirectory
  | noParent => .error .notFound
  | underFile => .error .notDirectory
  | forbidden => .error .permissionDenied

end FileState

namespace HistoryFile

/-- What has been read of a file: the texts of the records, and the number of lines that are no
record. -/
structure Loaded where
  texts : List Text
  malformed : Nat
  deriving DecidableEq, Repr

/-- Reads lines up to the first that is not text, if there is one. -/
def readLines : List Bytes → Loaded × Option FileError
  | [] => (⟨[], 0⟩, none)
  | line :: lines =>
    match line.toText? with
    | none => (⟨[], 0⟩, some .notText)
    | some t =>
      let (loaded, error) := readLines lines
      if Text.isAllBlank t then (loaded, error)
      else match HistoryRecord.decode? t with
        | some record => ({ loaded with texts := record.text :: loaded.texts }, error)
        | none => ({ loaded with malformed := loaded.malformed + 1 }, error)

/-- The last elements of a list, at most `limit`. -/
def takeLast {α : Type} (limit : Nat) (l : List α) : List α := l.drop (l.length - limit)

/-- The texts of the last records, at most `limit`, and the number of lines passed over. A file that
does not exist holds no record. -/
def load (limit : Nat) (f : FileState) : Except FileError (List Text) × Nat :=
  match f.content with
  | .error .notFound => (.ok [], 0)
  | .error e => (.error e, 0)
  | .ok content =>
    match readLines content.lines with
    | (loaded, none) => (.ok (takeLast limit loaded.texts), loaded.malformed)
    | (loaded, some e) => (.error e, loaded.malformed)

/-- The line of a record. -/
def lineOf (r : HistoryRecord) : Bytes := Bytes.ofText (r.encode ++ ['\n'])

/-- Appends an entry. -/
def append (e : HistoryEntry) (f : FileState) : Except FileError FileState :=
  f.append (lineOf (.ofEntry e))

end HistoryFile

end StatementReader
