import Caret.Report.Emit

/-!
# The parts of an emission

The events of a diagnostic are its heading (the include stack and the message), the snippet of
its leaf, the notes on its macros, and its closing. Each part is a function of its own here.
-/

namespace Caret

/-- A diagnostic that is emitted, and whether the snippet of its leaf may repeat the one before
whatever the severities are. -/
structure Emission where
  diagnostic : Diagnostic
  suppress : Bool := false
  deriving DecidableEq, Repr

namespace Renderer

variable (renderer : Renderer)

/-- The position behind the message of a diagnostic. -/
def positionOf? (diagnostic : Diagnostic) : Option Presumed :=
  if diagnostic.location.isValid then renderer.map.presumed? diagnostic.location else none

/-- The include stack of a diagnostic, as far as it is shown. -/
def stackEvents (memory : Memory) (diagnostic : Diagnostic) : List Event :=
  match renderer.positionOf? diagnostic with
  | some position => renderer.includeEvents memory position.includedFrom diagnostic.severity
  | none => []

/-- The message of a diagnostic behind its location. -/
def messageEvent (diagnostic : Diagnostic) : Event :=
  renderer.positioned (renderer.positionOf? diagnostic)
    (renderer.messageLine diagnostic.location (renderer.positionOf? diagnostic)
      diagnostic.severity diagnostic.message diagnostic.ranges)

/-- The include stack and the message of a diagnostic. -/
def heading (memory : Memory) (diagnostic : Diagnostic) : List Event :=
  renderer.stackEvents memory diagnostic ++ [renderer.messageEvent diagnostic]

/-- The warning that the macros around a location come back to a place visited before. -/
def cycleEvents (loc : Location) : List Event :=
  ((renderer.map.levelsOf loc).cycle.map fun place ↦ .warning (.expansionCycle place)).toList

/-- The snippet of the leaf of a diagnostic. -/
def leafSnippet (memory : Memory) (emission : Emission) : List Event :=
  renderer.codeContext memory (renderer.map.levelsOf emission.diagnostic.location).leaf
    emission.diagnostic.severity (markedRanges emission.diagnostic) emission.diagnostic.fixits
    emission.suppress

/-- The notes on the macros around a diagnostic. -/
def macroNotes (diagnostic : Diagnostic) : List BacktraceNote :=
  let levels := (renderer.map.levelsOf diagnostic.location).levels
  backtraceNotes renderer.map
    (SourceMap.elided levels.length renderer.options.macroBacktraceLimit) levels.reverse
    (markedRanges diagnostic)

/-- The fix-its of a diagnostic in the form for programs, where they are shown, and its end. -/
def closing (diagnostic : Diagnostic) : List Event :=
  (if renderer.options.parseableFixits then
    (fixItLines renderer.map diagnostic.fixits).map .line
  else []) ++ [.finished diagnostic.location diagnostic.severity]

end Renderer

end Caret
