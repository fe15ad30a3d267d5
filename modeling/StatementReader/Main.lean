import StatementReader.Program

/-!
# The command line

Reads the environment, the input and the files that the settings name, and carries out what
`Program.run` decides.
-/

namespace StatementReader.Main

/-- The variables that the program looks at. -/
def variableNames : List String :=
  ["HOME", "REPLF_PROMPT", "REPLF_THEME", "REPLF_HISTORY", "REPLF_HISTORY_PATH",
   "REPLF_MAX_SEED", "REPLF_LOG_PATH"]

/-- Reads the variables that are set. -/
def readEnvironment : IO Environment :=
  variableNames.filterMapM fun name => do
    return (← IO.getEnv name).map fun value => (name.toList, Bytes.ofText value.toList)

/-- The code of the operating system for an error, as far as it tells what is at a path. Some calls
report it with the sign changed. -/
def errorCode (e : IO.Error) : UInt32 :=
  let code := match e with
    | .noFileOrDirectory _ code _ | .inappropriateType _ code _ | .permissionDenied _ code _
    | .noSuchThing _ code _ | .invalidArgument _ code _ | .resourceExhausted _ code _ => code
    | _ => 0
  if 0x80000000 ≤ code then 0 - code else code

/-- What is at a path, given the state it has if there is nothing and an error at opening it. -/
def stateOfError (nothing : FileState) (e : IO.Error) : FileState :=
  match errorCode e with
  | 2 => nothing
  | 20 => .underFile
  | 21 => .directory
  | _ => .forbidden

/-- What is at the path of the history file. -/
def historyState (path : Text) : IO FileState :=
  try
    return .file (← IO.FS.readBinFile (String.ofList path)).toList
  catch e => return stateOfError .missing e

/-- What is at the path of a log file, which is created if need be. -/
def logState (path : Text) : IO FileState :=
  try
    let _ ← IO.FS.Handle.mk (String.ofList path) .append
    return .file []
  catch e => return stateOfError .noParent e

/-- Appends to the history file what a session has added to it. -/
def saveHistory (path : Text) (old new : FileState) : IO Unit := do
  let size : FileState → Nat
    | .file content => content.length
    | _ => 0
  if let .file content := new then
    let added := content.drop (size old)
    unless added.isEmpty do
      try
        IO.FS.withFile (String.ofList path) .append (·.write (ByteArray.mk added.toArray))
      catch _ => pure ()

/-- Runs a session with the files that the settings name. -/
def runSession (env : Environment) (settings : Settings) : IO Report := do
  let logPath := env.nonBlank? "REPLF_LOG_PATH"
  let log ← logPath.elim (pure .missing) logState
  let history ←
    if settings.historyEnabled then historyState settings.historyPath else pure .missing
  let input ← (← IO.getStdin).readBinToEnd
  let report := Program.run env input.toList fun path =>
    if path = settings.historyPath then history else log
  saveHistory settings.historyPath history (report.historyFile.elim history (·.2))
  return report

end StatementReader.Main

open StatementReader in
/-- Reads statements from the standard input and answers each. -/
def main : IO UInt32 := do
  let env ← Main.readEnvironment
  let report ← match Program.settings env with
    | .error e => pure (Program.refuse e)
    | .ok settings => Main.runSession env settings
  (← IO.getStdout).putStr (String.ofList report.output)
  (← IO.getStderr).putStr (String.ofList report.errors)
  return UInt32.ofNat report.exitCode
