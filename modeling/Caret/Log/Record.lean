import Caret.Log.Level
import Caret.Text.Rendition

/-!
# Log records

A log record is a text with a level. It is shown if its level reaches the threshold of the log.
On a terminal the line is colored by its level.
-/

namespace Caret.Log

open Text

/-- A record of the log. -/
structure Record where
  level : Int
  text : String
  deriving DecidableEq, Repr

/-- The layout of lines: the level and the text. -/
def briefLayout : String := "[%(levelname)s] %(message)s"

/-- The layout of lines that also name the place in the program. -/
def detailedLayout : String :=
  "[%(levelname)s] [%(filename)s:%(lineno)d] [%(funcName)s] %(message)s"

/-- The layout under a threshold: brief unless records for finding faults are shown. -/
def layoutFor (threshold : Int) : String :=
  if info ≤ threshold then briefLayout else detailedLayout

/-- The line of a record in the brief layout. -/
def Record.line (record : Record) : Text :=
  s!"[{levelName record.level}] {record.text}".toList

/-- The renditions of a level: the graver, the more striking. -/
def renditions (level : Int) : List Rendition :=
  if critical ≤ level then [Color.brightRed.rendition]
  else if error ≤ level then [Color.red.rendition]
  else if warning ≤ level then [Color.yellow.rendition]
  else if info ≤ level then [Color.green.rendition]
  else if debug ≤ level then [Color.brightBlack.rendition]
  else if trace ≤ level then [Color.blue.rendition]
  else [⟨2, 22⟩, Color.red.rendition]

/-- The line of a record, colored by its level if colors are shown. -/
def Record.styledLine (record : Record) (colors : Bool) : Text :=
  if colors then Rendition.apply (renditions record.level) record.line else record.line

/-- The records that are shown under a threshold. -/
def shown (threshold : Int) (records : List Record) : List Record :=
  records.filter (threshold ≤ ·.level)

/-- Nothing below the threshold is shown. -/
theorem level_of_mem_shown {threshold : Int} {records : List Record} {record : Record}
    (h : record ∈ shown threshold records) : threshold ≤ record.level := by
  simpa using (List.mem_filter.1 h).2

end Caret.Log
