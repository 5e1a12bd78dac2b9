import Caret.Backtrace.Levels

/-!
# Backtrace notes

The notes under a diagnostic inside of macros: one for each level, from the outermost use to
the innermost definition, with the ranges of the diagnostic mapped inwards level by level. The
levels that a limit leaves out become a single note.
-/

namespace Caret

/-- A note of a backtrace. -/
inductive BacktraceNote where
  /-- A level of the expansion: where it was written, the macro, and the ranges there. -/
  | expansion (place : Location) (name : Text) (ranges : List SourceRange)
  /-- The number of levels left out. -/
  | elision (count : Int)
  deriving DecidableEq, Repr

/-- The message of a note. -/
def BacktraceNote.message : BacktraceNote → Text
  | .expansion _ name _ => "expanded from macro '".toList ++ name ++ ['\'']
  | .elision count =>
    s!"({count} expansions elided in backtrace; use --macro-backtrace-limit=0 to see all)".toList

/-- The notes for levels, the outermost first, of which a span is left out. Levels are numbered
from the innermost; the span is announced at the place of its innermost level. -/
def backtraceNotes (map : SourceMap) (skipped : Int × Int) :
    List Location → List SourceRange → List BacktraceNote
  | [], _ => []
  | level :: inner, ranges =>
    let index : Int := inner.length
    let mapped := ranges.map map.rangeInward
    let rest := backtraceNotes map skipped inner mapped
    if skipped.1 ≤ index ∧ index < skipped.2 then
      if index = skipped.1 then .elision (skipped.2 - skipped.1) :: rest else rest
    else .expansion (map.spelling (map.calleeOf level)) (map.macroName level) mapped :: rest

end Caret
