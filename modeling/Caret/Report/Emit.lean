import Caret.Backtrace.Notes
import Caret.Report.Event
import Caret.Report.FixItLine
import Caret.Report.LocationText
import Caret.Snippet.Basic

/-!
# Rendering diagnostics

A diagnostic becomes the lines of its include stack, its message behind the location, the
snippet of the place where its outermost macro was used, and a note for each macro around it.
What the diagnostic before has shown is not shown again: an include stack that has not changed,
and a snippet of the same place without anything new to mark.
-/

namespace Caret

/-- A renderer: the source that diagnostics are about, and the options. -/
structure Renderer where
  map : SourceMap
  options : Options := {}

/-- Some events, and what follows from the memory after them. -/
def Memory.andThen (memory : Memory) (events : List Event) (next : Memory → List Event) :
    List Event :=
  events ++ next (memory.after events)

namespace Renderer

open Text

variable (renderer : Renderer)

/-- The event of a line that shows a position. -/
def positioned (presumed : Option Presumed) (text : Text) : Event :=
  if Report.canShow renderer.options presumed then .line text else .unwritable

/-! ## Include stacks -/

/-- The positions that a file was included from, the nearest first, and the place at which the
walk stopped without coming to a file that was not included: a place visited before, or one
without a position. -/
def includeFrames (map : SourceMap) : Nat → List Location → Location →
    List Presumed × Option Location
  | 0, _, loc => ([], some loc)
  | bound + 1, visited, loc =>
    if !loc.isValid then ([], none)
    else if visited.contains loc then ([], some loc)
    else
      match map.presumed? loc with
      | none => ([], some loc)
      | some frame =>
        let outer := includeFrames map bound (loc :: visited) frame.includedFrom
        (frame :: outer.1, outer.2)

/-- The line about one position of an include stack. -/
def frameLine (frame : Presumed) : Text :=
  if renderer.options.showLocation then
    "In file included from ".toList ++ frame.filename ++ ':' :: ofInt frame.line ++ [':']
  else "In included file:".toList

/-- The include stack of a file included from a place, the outermost position first. -/
def includeStack (root : Location) : List Event :=
  let (frames, stop) := includeFrames renderer.map (renderer.map.files.length + 2) [] root
  (stop.map fun place ↦ .warning (.includeCycle place)).toList ++
    frames.reverse.map fun frame ↦ renderer.positioned (some frame) (renderer.frameLine frame)

/-- The include stack in front of a message, if it differs from the one before. Notes may go
without it. -/
def includeEvents (memory : Memory) (root : Location) (severity : Severity) : List Event :=
  if root = memory.lastInclude then []
  else .included root ::
    if !renderer.options.showNoteIncludeStack ∧ severity = .note then []
    else renderer.includeStack root

/-! ## Messages -/

/-- The style of the location in front of a message. -/
def locationStyle : Style := { bold := some true }

/-- The message of a diagnostic behind its location. -/
def messageLine (loc : Location) (presumed : Option Presumed) (severity : Severity)
    (message : Text) (ranges : List SourceRange) : Text :=
  let options := renderer.options
  let place :=
    if loc.isValid then Report.locationText renderer.map options loc presumed ranges else []
  locationStyle.applyIf (options.showColors && !place.isEmpty) place ++
    severity.labelText options.showColors ++
    severity.messageText message (displayWidth place + severity.labelWidth) options.wrapColumn
      options.showColors

/-- A note without location. -/
def basicNote (message : Text) : Text :=
  Severity.note.labelText renderer.options.showColors ++
    Severity.note.messageText message Severity.note.labelWidth renderer.options.wrapColumn
      renderer.options.showColors

/-! ## Snippets -/

/-- Whether a snippet repeats the one before: its place is the same, there is nothing to mark,
and the diagnostic before belongs to the same group, as a note does not belong to what follows
it. -/
def repeatsSnippet (memory : Memory) (leaf : Location) (severity : Severity)
    (ranges : List SourceRange) (hints : List FixItHint) (suppress : Bool) : Bool :=
  leaf == renderer.map.expansionSite memory.lastLocation && ranges.isEmpty && hints.isEmpty &&
    (suppress || memory.lastSeverity != some .note || memory.lastSeverity == some severity)

/-- The snippet of a place, unless it repeats the one before. -/
def codeContext (memory : Memory) (leaf : Location) (severity : Severity)
    (ranges : List SourceRange) (hints : List FixItHint) (suppress : Bool) : List Event :=
  if !renderer.options.showCarets ||
      renderer.repeatsSnippet memory leaf severity ranges hints suppress then []
  else (Snippet.render renderer.map leaf ranges hints renderer.options).map .line

/-! ## Backtraces -/

/-- The events of some notes, one after the other. -/
def noteEvents (emitNote : Memory → Diagnostic → List Event) :
    List BacktraceNote → Memory → List Event
  | [], _ => []
  | note :: rest, memory =>
    let events := match note with
      | .elision _ => [.line (renderer.basicNote note.message)]
      | .expansion place _ ranges => emitNote memory ⟨.note, note.message, place, ranges, []⟩
    memory.andThen events (noteEvents emitNote rest)

/-- The snippet of a location and, inside of macros, the notes on them. -/
def backtraceWith (emitNote : Memory → Diagnostic → List Event) (memory : Memory)
    (loc : Location) (severity : Severity) (ranges : List SourceRange)
    (hints : List FixItHint) (limit : Int) (suppress : Bool) : List Event :=
  let levels := renderer.map.levelsOf loc
  let skipped := SourceMap.elided levels.levels.length limit
  (levels.cycle.map fun place ↦ .warning (.expansionCycle place)).toList ++
    memory.andThen (renderer.codeContext memory levels.leaf severity ranges hints suppress)
      (renderer.noteEvents emitNote
        (backtraceNotes renderer.map skipped levels.levels.reverse ranges))

/-! ## Diagnostics -/

/-- The ranges to underline: those of the diagnostic, and those that its hints take out. -/
def markedRanges (diagnostic : Diagnostic) : List SourceRange :=
  diagnostic.ranges ++
    (diagnostic.fixits.filter fun hint ↦
      hint.kind != .insertion && hint.range.isValid).map (·.range)

/-- The events of a diagnostic whose notes are emitted in the way given. -/
def emitWith (emitNote : Memory → Diagnostic → List Event) (memory : Memory)
    (diagnostic : Diagnostic) (suppress : Bool) : List Event :=
  let loc := diagnostic.location
  let presumed := if loc.isValid then renderer.map.presumed? loc else none
  let stack := match presumed with
    | some position =>
      renderer.includeEvents memory position.includedFrom diagnostic.severity
    | none => []
  let message := renderer.messageLine loc presumed diagnostic.severity diagnostic.message
    diagnostic.ranges
  let body := memory.andThen (stack ++ [renderer.positioned presumed message]) fun memory ↦
    if loc.isValid then
      renderer.backtraceWith emitNote memory loc diagnostic.severity (markedRanges diagnostic)
        diagnostic.fixits renderer.options.macroBacktraceLimit suppress ++
      if renderer.options.parseableFixits then
        (fixItLines renderer.map diagnostic.fixits).map .line
      else []
    else []
  body ++ [.finished loc diagnostic.severity]

/-- The events of a diagnostic, where `depth` bounds how deep notes may have notes of their
own. -/
def emitWithin : Nat → Memory → Diagnostic → Bool → List Event
  | 0, memory, diagnostic, suppress =>
    renderer.emitWith (fun _ _ ↦ []) memory diagnostic suppress
  | depth + 1, memory, diagnostic, suppress =>
    renderer.emitWith (fun memory note ↦ emitWithin depth memory note false) memory diagnostic
      suppress

/-- The depth of notes: a note about a place in a file has no notes, and no expansion is met
twice on the way there. -/
def noteDepth : Nat := renderer.map.expansions.length + 1

/-- The events of a diagnostic. -/
def emit (memory : Memory) (diagnostic : Diagnostic) (suppress : Bool := false) : List Event :=
  renderer.emitWithin renderer.noteDepth memory diagnostic suppress

/-- The snippet of a location and the notes on the macros around it. -/
def backtrace (memory : Memory) (loc : Location) (severity : Severity)
    (ranges : List SourceRange) (hints : List FixItHint) (limit : Int) (suppress : Bool) :
    List Event :=
  renderer.backtraceWith (fun memory note ↦ renderer.emit memory note) memory loc severity
    ranges hints limit suppress

/-- The events of diagnostics, one after the other. -/
def emitAll : Memory → List Diagnostic → List Event
  | _, [] => []
  | memory, diagnostic :: rest =>
    memory.andThen (renderer.emit memory diagnostic) fun memory ↦ emitAll memory rest

end Renderer

end Caret
