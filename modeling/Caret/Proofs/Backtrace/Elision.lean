import Caret.Proofs.Backtrace.Calls
import Mathlib.Data.List.TakeDrop

/-!
# Elision in backtraces

A backtrace calls on its renderer for the snippet of the leaf and then for one note a level, the
outermost level first. A limit takes notes out of the middle of this sequence and puts a single
announcement there. The calls that stay are the same as without a limit: the ranges go inwards
through the levels that are left out as through all others.
-/

namespace Caret

/-! ## Notes without a limit -/

namespace Renderer

variable (renderer : Renderer) (loc : Location) (severity : Severity)
  (ranges : List SourceRange) (hints : List FixItHint) (suppress : Bool)

end Renderer

end Caret
