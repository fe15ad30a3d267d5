import StatementReader.Style
import StatementReader.Text.Decimal
import StatementReader.Text.Quoted
import StatementReader.Text.Utf8

/-!
# Settings

What the user can choose, read from the environment. A variable that is not text counts as unset,
and so does one that is blank, except for the prompt, which is taken as it is. Reading fails where a
variable is not of the form it should have; whether the settings make sense is checked afterwards,
and the first thing wrong is reported.
-/

namespace StatementReader

/-- The variables that are set. -/
abbrev Environment := List (Text × Bytes)

namespace Environment

/-- The text of a variable. -/
def text? (env : Environment) (name : String) : Option Text :=
  (env.lookup name.toList).bind Bytes.toText?

/-- The text of a variable without the blanks around it, if anything is left. -/
def nonBlank? (env : Environment) (name : String) : Option Text :=
  ((env.text? name).map Text.trim).filter (· ≠ [])

end Environment

/-- Reads a yes or a no. -/
def readSwitch? (t : Text) : Option Bool :=
  let word := Text.lowercase (Text.trim t)
  if (["true", "1", "yes", "on"].map String.toList).contains word then some true
  else if (["false", "0", "no", "off"].map String.toList).contains word then some false
  else none

/-- What the user can choose. -/
structure Settings where
  prompt : Text
  theme : Text
  historyEnabled : Bool
  historyPath : Text
  /-- How many statements of earlier sessions are loaded. -/
  maxSeed : Nat
  /-- How many rows the edit area has. -/
  viewportRows : Nat
  deriving DecidableEq, Repr

/-- What is wrong with the settings. -/
inductive SettingsError where
  | badHistory (value : Text)
  | badMaxSeed (value : Text)
  | emptyPrompt
  | brokenPrompt (prompt : Text)
  | unknownTheme (theme : Text)
  | zeroMaxSeed
  deriving DecidableEq, Repr

namespace SettingsError

/-- The message to the user. -/
def message : SettingsError → Text
  | badHistory value =>
    "Invalid REPLF_HISTORY '".toList ++ value ++ "': expected true or false".toList
  | badMaxSeed value =>
    "Invalid REPLF_MAX_SEED '".toList ++ value ++ "': expected a number".toList
  | emptyPrompt => "REPLF_PROMPT must not be empty".toList
  | brokenPrompt prompt => "REPLF_PROMPT must fit on one line: ".toList ++ Text.quote prompt
  | unknownTheme theme =>
    "Unknown REPLF_THEME '".toList ++ theme ++ "'. Expected one of: ".toList ++
      [',', ' '].intercalate ColorScheme.names
  | zeroMaxSeed => "REPLF_MAX_SEED must be at least 1".toList

end SettingsError

namespace Settings

/-- The prompt unless another is chosen. -/
def defaultPrompt : Text := "@ ".toList

/-- The theme unless another is chosen. -/
def defaultTheme : Text := "dark".toList

/-- The number of statements loaded unless another is chosen. -/
def defaultMaxSeed : Nat := 500

/-- The rows of the edit area. -/
def defaultViewportRows : Nat := 6

/-- The name of the history file. -/
def historyFileName : Text := ".replf_history".toList

/-- A name inside a directory. -/
def joinPath (directory name : Text) : Text :=
  if directory.getLast? = some '/' then directory ++ name else directory ++ '/' :: name

/-- The history file in the home directory, or in the present one if there is no home. -/
def defaultHistoryPath (env : Environment) : Text :=
  match env.nonBlank? "HOME" with
  | some home => joinPath home historyFileName
  | none => historyFileName

/-- The greatest number that a setting can have. -/
def maxNumber : Nat := 0xFFFFFFFFFFFFFFFF

/-- Reads a number that is not too great. -/
def readNumber? (t : Text) : Option Nat := (Text.readDecimal? t).filter (· ≤ maxNumber)

/-- Reads a setting if its variable is set. -/
def readOr {α : Type} (raw : Option Text) (default : α) (read : Text → Option α)
    (error : Text → SettingsError) : Except SettingsError α :=
  match raw with
  | none => .ok default
  | some raw => match read raw with
    | some value => .ok value
    | none => .error (error raw)

/-- The settings that the environment asks for. -/
def load (env : Environment) : Except SettingsError Settings := do
  let historyEnabled ← readOr (env.nonBlank? "REPLF_HISTORY") true readSwitch? .badHistory
  let maxSeed ←
    readOr (env.nonBlank? "REPLF_MAX_SEED") defaultMaxSeed readNumber? .badMaxSeed
  return {
    prompt := (env.text? "REPLF_PROMPT").getD defaultPrompt
    theme := ((env.nonBlank? "REPLF_THEME").map Text.lowercase).getD defaultTheme
    historyEnabled := historyEnabled
    historyPath := (env.nonBlank? "REPLF_HISTORY_PATH").getD (defaultHistoryPath env)
    maxSeed := maxSeed
    viewportRows := defaultViewportRows }

/-- The first thing wrong with settings. -/
def fault? (s : Settings) : Option SettingsError :=
  if s.prompt = [] then some .emptyPrompt
  else if '\n' ∈ s.prompt ∨ '\r' ∈ s.prompt then some (.brokenPrompt s.prompt)
  else if ColorScheme.byName? s.theme = none then some (.unknownTheme s.theme)
  else if s.maxSeed = 0 then some .zeroMaxSeed
  else none

/-- The colour scheme of the theme, and the dark one if there is no such theme. -/
def colorScheme (s : Settings) : ColorScheme := (ColorScheme.byName? s.theme).getD .dark

end Settings

end StatementReader
