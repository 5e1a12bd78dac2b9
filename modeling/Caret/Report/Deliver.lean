import Caret.Report.Parts

/-!
# Writing a report line by line

The rendering of a diagnostic as a program: it writes one line after the other, looks at what it
remembers when it has to decide, and stops at the first line that the output does not take or that
cannot be written.
-/

namespace Caret

open Text (endLine)

/-- What comes of a report: the number of diagnostics that were rendered or why it ended early,
what was written, one time after the other, and what is remembered. -/
structure Delivery where
  outcome : Except DeliveryError Nat
  written : List Text
  memory : Memory

/-- How far a report is: what is remembered, what was written, one time after the other, and for
how many lines there is room left. -/
structure Progress where
  memory : Memory
  written : List Text := []
  room : Option Nat := none

/-- An action that writes and remembers; what was done before an error stays. -/
abbrev Delivering := ExceptT DeliveryError (StateM Progress)

namespace Delivering

variable {α : Type} (reason : String)

/-- Writes a line, which an output without room does not take. -/
def writeLine (text : Text) : Delivering Unit := do
  let progress ← get
  if progress.room = some 0 then throw (.refused reason)
  else
    set { progress with
      written := progress.written ++ [endLine text]
      room := progress.room.map (· - 1) }

/-- Does what an event says. -/
def perform : Event → Delivering Unit
  | .line text => writeLine reason text
  | .unwritable => throw .unwritable
  | event => modify fun progress ↦ { progress with memory := progress.memory.step event }

/-- Does what some events say, one after the other. -/
def performAll (events : List Event) : Delivering Unit := events.forM (perform reason)

/-- Does what some events say, which depend on the memory at this point. -/
def performFor (events : Memory → List Event) : Delivering Unit := do
  let progress ← get
  performAll reason (events progress.memory)

end Delivering

namespace Renderer

open Delivering

variable (renderer : Renderer) (reason : String)

/-- Emits a note of a backtrace. -/
def noteOn (emitNote : Diagnostic → Delivering Unit) (note : BacktraceNote) : Delivering Unit :=
  match note with
  | .elision _ => perform reason (.line (renderer.basicNote note.message))
  | .expansion place _ ranges => emitNote ⟨.note, note.message, place, ranges, []⟩

/-- Writes the snippet of the leaf of a diagnostic, unless it repeats the one before, and the notes
on the macros around it. -/
def backtraceOn (emitNote : Diagnostic → Delivering Unit) (emission : Emission) :
    Delivering Unit := do
  performAll reason (renderer.cycleEvents emission.diagnostic.location)
  performFor reason fun memory ↦ renderer.leafSnippet memory emission
  (renderer.macroNotes emission.diagnostic).forM (renderer.noteOn reason emitNote)

/-- Writes what a diagnostic with a place has below its message. -/
def belowMessageOn (emitNote : Diagnostic → Delivering Unit) (emission : Emission) :
    Delivering Unit :=
  if emission.diagnostic.location.isValid then do
    renderer.backtraceOn reason emitNote emission
    performAll reason
      (if renderer.options.parseableFixits then
        (fixItLines renderer.map emission.diagnostic.fixits).map .line
      else [])
  else pure ()

/-- Emits a diagnostic whose notes are emitted in the way given, and remembers it at the end. -/
def emitWithOn (emitNote : Diagnostic → Delivering Unit) (emission : Emission) :
    Delivering Unit := do
  performFor reason fun memory ↦ renderer.stackEvents memory emission.diagnostic
  perform reason (renderer.messageEvent emission.diagnostic)
  renderer.belowMessageOn reason emitNote emission
  perform reason (.finished emission.diagnostic.location emission.diagnostic.severity)

/-- Emits a diagnostic, where `depth` bounds how deep notes may have notes of their own. -/
def emitWithinOn : Nat → Emission → Delivering Unit
  | 0, emission => renderer.emitWithOn reason (fun _ ↦ pure ()) emission
  | depth + 1, emission =>
    renderer.emitWithOn reason (fun note ↦ emitWithinOn depth ⟨note, false⟩) emission

/-- Emits diagnostics one after the other and counts those that were rendered. -/
def emitAllOn : List Diagnostic → Nat → Delivering Nat
  | [], count => pure count
  | diagnostic :: rest, count => do
    renderer.emitWithinOn reason renderer.noteDepth ⟨diagnostic, false⟩
    emitAllOn rest (count + 1)

/-- What comes of emitting diagnostics on an output with room for `room` lines. -/
def deliver (room : Option Nat) (memory : Memory) (diagnostics : List Diagnostic) : Delivery :=
  let (outcome, progress) :=
    (renderer.emitAllOn reason diagnostics 0).run.run { memory, room }
  ⟨outcome, progress.written, progress.memory⟩

end Renderer

end Caret
