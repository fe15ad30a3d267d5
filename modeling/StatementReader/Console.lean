import StatementReader.Edit.Key
import StatementReader.Layout.View
import StatementReader.Text.Lines

/-!
# The console

What the editor deals with. A feed is everything that the next readings will bring, and a feed that
has run out brings the end of input. A display takes views and printed rows. Either may fail: a
reading in the feed may be a fault, and a display fails when its faults are due, once each. Every
fault comes with the reason for it.

The display keeps the acts of a session, latest first, so that what was shown when can be told
afterwards. Readings are among them, because what matters about a reading is what was shown before
it. So are the calls that failed, which have left no other trace, because what was asked for in
vain may matter as well.
-/

namespace StatementReader

/-- What failed at the console, with the reason in words. -/
inductive Fault where
  | reading (message : Text)
  | render (message : Text)
  | print (message : Text)
  | commit (message : Text)
  deriving DecidableEq, Repr

/-- The fault in words. -/
def Fault.message : Fault → Text
  | reading message | render message | print message | commit message => message

/-! ### Readings -/

/-- What a reading brings. -/
inductive Reading where
  | event (event : InputEvent)
  | fault (message : Text)
  deriving DecidableEq, Repr

/-! ### The display -/

/-- When calls fail, and why: each entry tells how many calls succeed before the next one that
fails. After the last of them all calls succeed. -/
abbrev FaultPlan := List (Nat × Text)

namespace FaultPlan

/-- Why the next call fails, if it does. -/
def failure? : FaultPlan → Option Text
  | (0, message) :: _ => some message
  | _ => none

/-- The plan after the next call. -/
def next : FaultPlan → FaultPlan
  | [] => []
  | (0, _) :: plan => plan
  | (n + 1, message) :: plan => (n, message) :: plan

end FaultPlan

/-- The plans of the three calls of a display. -/
structure DisplayFaults where
  render : FaultPlan
  print : FaultPlan
  commit : FaultPlan
  deriving DecidableEq, Repr

/-- Nothing ever fails. -/
def DisplayFaults.none : DisplayFaults := ⟨[], [], []⟩

/-- What has happened at the console: a reading was taken, or the display was asked for something,
which it may have failed to do. -/
inductive Act where
  | read (reading : Reading)
  | render (view : EditView) (failure : Option Text)
  | print (rows : List StyledLine) (failure : Option Text)
  | commit (view : EditView) (failure : Option Text)
  deriving DecidableEq, Repr

/-- A display with what has happened there. -/
structure Display where
  /-- The number of columns. -/
  width : Nat
  faults : DisplayFaults
  /-- Latest first. -/
  acts : List Act
  deriving DecidableEq, Repr

namespace Display

/-- A display of a width with nothing shown. -/
def start (width : Nat) (faults : DisplayFaults) : Display := ⟨width, faults, []⟩

/-- Notes what has happened. -/
def note (d : Display) (act : Act) : Display := { d with acts := act :: d.acts }

/-- Shows a view, and tells why that failed, if it did. -/
def render (d : Display) (v : EditView) : Display × Option Text :=
  let failure := d.faults.render.failure?
  ({ d with faults.render := d.faults.render.next }.note (.render v failure), failure)

/-- Prints rows above the view, and tells why that failed, if it did. -/
def print (d : Display) (rows : List StyledLine) : Display × Option Text :=
  let failure := d.faults.print.failure?
  ({ d with faults.print := d.faults.print.next }.note (.print rows failure), failure)

/-- Leaves a view on the screen for good, and tells why that failed, if it did. -/
def commit (d : Display) (v : EditView) : Display × Option Text :=
  let failure := d.faults.commit.failure?
  ({ d with faults.commit := d.faults.commit.next }.note (.commit v failure), failure)

/-- The rows of a plain text. The empty text has one empty row. -/
def plainRows (t : Text) : List StyledLine :=
  if t = [] then [[]] else (Text.lines t).map (.ofText .plain)

/-- Prints a plain text. -/
def printText (d : Display) (t : Text) : Display × Option Text := d.print (plainRows t)

/-- What has happened, in order. -/
def history (d : Display) : List Act := d.acts.reverse

/-- The rows printed, without their styles. -/
def printed (d : Display) : List Text :=
  d.history.flatMap fun
    | .print rows none => rows.map StyledLine.text
    | _ => []

/-- The texts committed. -/
def committed (d : Display) : List Text :=
  d.history.filterMap fun
    | .commit view none => some view.text
    | _ => none

/-- The output of a display that is no terminal: the rows printed, each on a line. -/
def output (d : Display) : Text := d.printed.flatMap (· ++ ['\n'])

end Display

end StatementReader
