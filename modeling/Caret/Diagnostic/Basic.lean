import Caret.Diagnostic.Severity
import Caret.Source.Location

/-!
# Diagnostics and fix-it hints

A diagnostic is a message about a place in the source, with ranges to underline and hints how
to mend it. A hint replaces the text of a range; insertion and removal are special cases.
-/

namespace Caret

/-- The kinds of edits that a hint proposes. -/
inductive FixItKind where
  | insertion
  | removal
  | replacement
  deriving DecidableEq, Repr

/-- The name of a kind of edit. -/
def FixItKind.name : FixItKind → String
  | insertion => "insertion"
  | removal => "removal"
  | replacement => "replacement"

/-- A proposed edit: the range to take out and the text to put in its place. -/
structure FixItHint where
  range : SourceRange
  text : Text := []
  deriving DecidableEq, Repr

namespace FixItHint

/-- The insertion of a text in front of a place. -/
def insertAt (place : Location) (text : Text) : FixItHint := ⟨⟨place, place, false⟩, text⟩

/-- Whether a hint puts in text without taking any out. -/
def isInsertion (hint : FixItHint) : Bool :=
  !hint.range.isToken && hint.range.start == hint.range.stop && !hint.text.isEmpty

/-- The kind of edit that a hint proposes. -/
def kind (hint : FixItHint) : FixItKind :=
  if hint.isInsertion then .insertion
  else if hint.text.isEmpty then .removal
  else .replacement

/-- An insertion of some text is one. -/
theorem kind_insertAt {place : Location} {text : Text} (h : text ≠ []) :
    (insertAt place text).kind = .insertion := by
  simp [kind, insertAt, isInsertion, h]

end FixItHint

/-- A message about a place in the source. -/
structure Diagnostic where
  severity : Severity
  message : Text
  location : Location := Location.invalid
  ranges : List SourceRange := []
  fixits : List FixItHint := []
  deriving DecidableEq, Repr

/-- A count and a noun, which takes an s unless the count is one. -/
def countText (count : Nat) (noun : String) : String :=
  if count = 1 then s!"{count} {noun}" else s!"{count} {noun}s"

/-- The closing line of a run, unless it had neither warnings nor errors. -/
def summaryText? (severities : List Severity) : Option String :=
  let warnings := severities.count .warning
  let errors := severities.count .error + severities.count .fatal
  let parts := (if warnings = 0 then [] else [countText warnings "warning"]) ++
    (if errors = 0 then [] else [countText errors "error"])
  if parts.isEmpty then none else some (" and ".intercalate parts ++ " generated.")

end Caret
