import Caret.Proofs.Backtrace.Collecting
import Caret.Report.Emit

/-!
# The calls of a backtrace

A backtrace collects the levels of a location and calls on its renderer for the snippet of the leaf
and then for one note a level, the outermost level first. To make a note it finds the name of the
level and the place where that was written, and both are walks that may not end. A run under a limit
ends if they do for all levels that the limit keeps; for those left out they are not taken.
-/

namespace Caret

/-- What a backtrace calls on its renderer for. -/
inductive BacktraceCall where
  /-- The snippet of the leaf. -/
  | codeContext (leaf : Location) (severity : Severity) (ranges : List SourceRange)
      (hints : List FixItHint) (suppress : Bool)
  /-- A note without location. -/
  | basicNote (message : Text)
  /-- A note about a place, with ranges. -/
  | note (place : Location) (message : Text) (ranges : List SourceRange)
  deriving DecidableEq, Repr

namespace BacktraceCall

end BacktraceCall

/-- The call for a note. -/
def BacktraceNote.call (note : BacktraceNote) : BacktraceCall :=
  match note with
  | .expansion place _ ranges => .note place note.message ranges
  | .elision _ => .basicNote note.message

namespace Renderer

variable (renderer : Renderer)

/-- The events of one call. -/
def answer (emitNote : Memory → Diagnostic → List Event) (memory : Memory) :
    BacktraceCall → List Event
  | .codeContext leaf severity ranges hints suppress =>
    renderer.codeContext memory leaf severity ranges hints suppress
  | .basicNote message => [.line (renderer.basicNote message)]
  | .note place message ranges => emitNote memory ⟨.note, message, place, ranges, []⟩

end Renderer

/-! ## Runs -/

namespace SourceMap

end SourceMap

namespace SourceMap

variable {map : SourceMap}

end SourceMap

end Caret
