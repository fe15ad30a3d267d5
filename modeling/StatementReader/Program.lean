import StatementReader.Console.Piped
import StatementReader.Session

/-!
# The program

The program as a function of its environment, its input and the files it names. Settings that are
wrong are reported and end it with a failure. A log file that cannot be opened is reported too, but
changes nothing else. Otherwise a session is run over the lines of the input.
-/

namespace StatementReader

/-- What the program leaves behind. -/
structure Report where
  output : Text
  errors : Text
  exitCode : Nat
  /-- The history file and its state, unless no session was run. -/
  historyFile : Option (Text × FileState)
  warnings : List Warning
  deriving DecidableEq, Repr

namespace Program

/-- The columns of an output that is no terminal. -/
def defaultWidth : Nat := 80

/-- The message for a log file that cannot be opened, if there is one. -/
def logTrouble (env : Environment) (disk : Text → FileState) : Text :=
  match env.nonBlank? "REPLF_LOG_PATH" with
  | none => []
  | some path =>
    match (disk path).append [] with
    | .ok _ => []
    | .error e =>
      "replf: cannot open log file ".toList ++ path ++ ": ".toList ++ e.description ++ ['\n']

/-- The settings, if they are fit for use. -/
def settings (env : Environment) : Except SettingsError Settings := do
  let s ← Settings.load env
  match s.fault? with
  | some e => .error e
  | none => .ok s

/-- What is left behind when the settings are wrong. -/
def refuse (e : SettingsError) : Report where
  output := []
  errors := "Error: ".toList ++ e.message ++ ['\n']
  exitCode := 1
  historyFile := none
  warnings := []

/-- The session over an input, before it is run. -/
def sessionOver (settings : Settings) (file : FileState) (input : Bytes) : Session :=
  .start settings file (.start (Reading.ofBytes input) (.start defaultWidth .none))

/-- Runs the program over an input that is no terminal. -/
def run (env : Environment) (input : Bytes) (disk : Text → FileState) : Report :=
  match settings env with
  | .error e => refuse e
  | .ok settings =>
    let ended := (sessionOver settings (disk settings.historyPath) input).run
    { output := ended.session.editor.display.output
      errors := logTrouble env disk
      exitCode := 0
      historyFile := some (settings.historyPath, ended.session.file)
      warnings := ended.session.warnings.reverse }

end Program

end StatementReader
