import Caret.Text.Blank
import Caret.Text.LowerCase
import Caret.Text.Quoted
import Caret.Text.Style

/-!
# Severities

The severities of diagnostics, in the order of their importance. A severity decides the label
in front of a message and the styles of both; it does not decide whether anything is shown.
-/

namespace Caret

open Text

/-- How grave a diagnostic is. -/
inductive Severity where
  | note
  | remark
  | warning
  | error
  | fatal
  deriving DecidableEq, Repr

namespace Severity

/-- All severities, the least grave first. -/
def all : List Severity := [note, remark, warning, error, fatal]

/-- The place of a severity in the order. -/
def rank : Severity → Nat
  | note => 0
  | remark => 1
  | warning => 2
  | error => 3
  | fatal => 4

instance : LE Severity := ⟨fun a b ↦ a.rank ≤ b.rank⟩

instance : LT Severity := ⟨fun a b ↦ a.rank < b.rank⟩

instance (a b : Severity) : Decidable (a ≤ b) := inferInstanceAs (Decidable (a.rank ≤ b.rank))

instance (a b : Severity) : Decidable (a < b) := inferInstanceAs (Decidable (a.rank < b.rank))

/-- Severities of one rank are the same. -/
theorem rank_inj {a b : Severity} : a.rank = b.rank ↔ a = b := by
  cases a <;> cases b <;> decide

/-- The name of a severity. -/
def name : Severity → String
  | note => "note"
  | remark => "remark"
  | warning => "warning"
  | error => "error"
  | fatal => "fatal"

/-- The label of a message, without the colon behind it. -/
def label : Severity → String
  | fatal => "fatal error"
  | severity => severity.name

/-- The color of the label. -/
def color : Severity → Color
  | note => .cyan
  | remark => .cyan
  | warning => .magenta
  | error => .red
  | fatal => .red

/-- The style of the label. -/
def labelStyle (severity : Severity) : Style :=
  { foreground := some severity.color, bold := some true }

/-- Whether the message is shown in bold. -/
def hasBoldMessage (severity : Severity) : Bool := warning ≤ severity

/-- The style of the message. -/
def messageStyle (severity : Severity) : Style :=
  if severity.hasBoldMessage then { bold := some true } else {}

/-- The severity of a name. Case and white space around it do not matter, and the label of a
fatal error is understood as well. -/
def ofText? (text : Text) : Option Severity :=
  let key := String.ofList (lower (trim text))
  if key = "fatal error" then some fatal else all.find? fun severity ↦ severity.name == key

/-- The report on a text that names no severity. -/
def unknownText (text : Text) : String :=
  "Unknown severity " ++ String.ofList (quoted text) ++ " (expected one of: " ++
    ", ".intercalate (all.map name) ++ ")"

end Severity

end Caret
