import Caret.Text.LowerCase
import Caret.Text.Numeral
import Caret.Text.Quoted

/-!
# Log levels

The level of a log record is an integer; six of them have names. A level may be given as text,
by its number or by its name.
-/

namespace Caret.Log

open Text

/-- The level of the finest records. -/
def trace : Int := 5

/-- The level of records for finding faults. -/
def debug : Int := 10

/-- The level of records about the ordinary course. -/
def info : Int := 20

/-- The level of records about something odd. -/
def warning : Int := 30

/-- The level of records about something that failed. -/
def error : Int := 40

/-- The level of records about the end of the program. -/
def critical : Int := 50

/-- The level that no record is below. -/
def lowest : Int := 0

/-- The named levels. -/
def levelNames : List (Int × String) :=
  [(lowest, "NOTSET"), (trace, "TRACE"), (debug, "DEBUG"), (info, "INFO"), (warning, "WARNING"),
   (error, "ERROR"), (critical, "CRITICAL")]

/-- The name of a level; a level without one is called by its number. -/
def levelName (level : Int) : String := (levelNames.lookup level).getD s!"Level {level}"

/-- The names that a level may be given by. -/
def levelsByName : List (String × Int) :=
  [("TRACE", trace), ("DEBUG", debug), ("INFO", info), ("WARNING", warning), ("WARN", warning),
   ("ERROR", error), ("CRITICAL", critical), ("FATAL", critical), ("NOTSET", lowest)]

/-- The capital of a letter, as far as it is a letter of ASCII: the dotless i and the long s
have such a capital too. -/
def capital (c : Char) : Char :=
  if c = 'ı' then 'I' else if c = 'ſ' then 'S' else c.toUpper

/-- Why a text is no level. -/
inductive LevelError where
  | notDecimal (text : Text)
  | tooManyDigits (count : Nat)
  deriving DecidableEq, Repr

/-- The number of code points of a text that are shown in a report. -/
def shownLength : Nat := 200

/-- The report on a text that is no level. -/
def LevelError.message : LevelError → String
  | notDecimal text =>
    "invalid literal for int() with base 10: " ++ String.ofList ((quoted text).take shownLength)
  | tooManyDigits count => tooManyDigitsText count

/-- The level that a text stands for, whatever the case of its letters; no level for a text that
is neither a number nor a name. Digits that have no place in a number are an error. -/
def ofText (text : Text) : Except LevelError (Option Int) :=
  let word := trim text
  if word ≠ [] ∧ word.all isDigit then
    match readInteger .decimal word with
    | .ok level => .ok (some level)
    | .error (.tooManyDigits count) => .error (.tooManyDigits count)
    | .error .malformed => .error (.notDecimal word)
  else .ok (levelsByName.lookup (String.ofList (word.map capital)))

/-- The threshold of the log: the level that was asked for, else the one that the environment
gives unless that is the lowest, else that of critical records. -/
def threshold (asked fromEnvironment : Option Int) : Int :=
  asked.getD ((fromEnvironment.filter (· ≠ lowest)).getD critical)

end Caret.Log
