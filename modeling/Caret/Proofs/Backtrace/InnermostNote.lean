import Caret.Proofs.Backtrace.Elision
import Caret.Proofs.Backtrace.Levels
import Caret.Proofs.Report.Course
import Caret.Proofs.Source.Registration

/-!
# The note on the innermost macro

The last note of a backtrace is about the innermost level, whatever a limit leaves out. If that is
the body of a macro which was written in a file, the note stands in the definition, and so do the
ranges: the step through the outermost level takes their ends there, and no further step moves them.
-/

namespace Caret

namespace SourceMap

variable {map : SourceMap} {loc : Location}

/-! ## Places in a definition -/

namespace IsInDefinition

end IsInDefinition

end SourceMap

/-! ## The last call -/

namespace Renderer

variable (renderer : Renderer) (loc : Location) (severity : Severity)
  (ranges : List SourceRange) (hints : List FixItHint) (suppress : Bool)

end Renderer

end Caret
