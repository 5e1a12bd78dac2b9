import Caret.Log.Record

/-!
# The console

What the program tells the user is written to a console. Without colors the console writes no
terminal sequences, also where a text brings its own. Whether there are colors is decided by
the command line, then the environment, then the terminal.
-/

namespace Caret

open Text

/-- Where the program writes to: whether colors are shown. -/
structure Console where
  colors : Bool
  deriving DecidableEq, Repr

namespace Console

/-- What the console writes for a text. -/
def plain (console : Console) (text : Text) : Text :=
  if console.colors then text else stripStyles text

/-- What the console writes for a text in a style. -/
def styled (console : Console) (style : Style) (text : Text) : Text :=
  console.plain (style.apply text)

/-- A text in a style, or as it is if there are no colors. -/
def decorate (console : Console) (style : Style) (text : Text) : Text :=
  style.applyIf console.colors text

/-- The style of warnings. -/
def warningStyle : Style := { foreground := some .yellow }

/-- The style of errors. -/
def errorStyle : Style := { foreground := some .brightRed }

end Console

/-- When colors are shown. -/
inductive ColorMode where
  | auto
  | always
  | never
  deriving DecidableEq, Repr

namespace ColorMode

/-- All modes. -/
def all : List ColorMode := [auto, always, never]

/-- The name of a mode. -/
def name : ColorMode → String
  | auto => "auto"
  | always => "always"
  | never => "never"

/-- The mode of a name. -/
def ofName? (name : String) : Option ColorMode := all.find? fun mode ↦ mode.name == name

/-- The report on a text that names no mode. -/
def unknownText (text : Text) : String :=
  String.ofList (quoted text) ++ " is not a valid ColorMode"

/-- Every mode is found by its name. -/
theorem ofName?_name (mode : ColorMode) : ofName? mode.name = some mode := by
  cases mode <;> decide

end ColorMode

/-- The variables of the environment that matter. -/
structure Environment where
  forceColor : Option String := none
  noColor : Option String := none
  logLevel : Option String := none
  deriving DecidableEq, Repr

/-- Whether colors are shown: as the mode says, else as the environment says, else on a
terminal only. -/
def showsColors (mode : Option ColorMode) (environment : Environment) (terminal : Bool) : Bool :=
  if mode = some .always then true
  else if mode = some .never then false
  else if environment.forceColor.any fun value ↦ value ≠ "" && value ≠ "0" then true
  else if environment.noColor.isSome then false
  else terminal

/-- The level that the environment sets for the log. -/
def Environment.level (environment : Environment) : Except Log.LevelError (Option Int) :=
  match environment.logLevel with
  | none => .ok none
  | some value => Log.ofText value.toList

/-- Why there is no verbosity. -/
inductive VerbosityError where
  | verboseAndQuiet
  deriving DecidableEq, Repr

/-- The report on a verbosity that contradicts itself. -/
def VerbosityError.message : VerbosityError → String
  | verboseAndQuiet => "The '--verbose' and '--quiet' options are mutually exclusive."

/-- The level of what is told, by how often more and less of it was asked for. -/
def verbosity (verbose quiet : Int) : Except VerbosityError Int :=
  if verbose > 0 ∧ quiet > 0 then .error .verboseAndQuiet
  else if verbose ≥ 3 then .ok Log.trace
  else if verbose = 2 then .ok Log.debug
  else if verbose = 1 then .ok Log.info
  else if quiet ≥ 1 then .ok Log.error
  else .ok Log.warning

end Caret
