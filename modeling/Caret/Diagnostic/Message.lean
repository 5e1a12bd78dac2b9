import Caret.Diagnostic.Severity
import Caret.Text.Wrapping

/-!
# Labels and messages

The label of a severity and the message behind it, wrapped and styled. They need no source, so
that messages about anything look the same.
-/

namespace Caret.Severity

open Text

/-- The label of a message with its colon, styled if colors are shown. -/
def labelText (severity : Severity) (colors : Bool) : Text :=
  severity.labelStyle.applyIf colors (severity.label ++ ": ").toList

/-- The number of cells of a label with its colon. -/
def labelWidth (severity : Severity) : Int := severity.label.length + 2

/-- A message that starts at `column`, wrapped to `columns` unless that is zero, and styled if
colors are shown. -/
def messageText (severity : Severity) (message : Text) (column columns : Int)
    (colors : Bool) : Text :=
  severity.messageStyle.applyIf colors
    (if columns = 0 then message else (wrap message columns column none).text)

end Caret.Severity
