import Caret.Proofs.Report.Course
import Caret.Proofs.Report.Includes

/-!
# Positions that a report shows

A line can be written unless it shows a line number of too many digits, and line numbers are
shown in include stacks and in front of messages. The positions shown are collected here message
by message, with the root of the last include stack as the only thing that is passed on.
-/

namespace Caret

open SourceMap

/-- The diagnostic that a note on a macro is emitted as. -/
def BacktraceNote.diagnostic? : BacktraceNote → Option Diagnostic
  | .expansion place name ranges =>
    some ⟨.note, (expansion place name ranges).message, place, ranges, []⟩
  | .elision _ => none

namespace Renderer

variable (renderer : Renderer)

/-- The messages of a diagnostic: its own, and those of the notes on its macros. -/
def messagesOf (diagnostic : Diagnostic) : List Diagnostic :=
  diagnostic :: (renderer.macroNotes diagnostic).filterMap BacktraceNote.diagnostic?

/-- The positions in an include stack that is shown in front of a message. -/
def stackPositions (last root : Location) (severity : Severity) : List Presumed :=
  if root = last ∨ (renderer.options.showNoteIncludeStack = false ∧ severity = .note) then []
  else (includeFrames renderer.map (renderer.map.files.length + 2) [] root).1.reverse

/-- The positions in front of a message: those of its include stack, and its own. -/
def headingPositions (last : Location) (diagnostic : Diagnostic) : List Presumed :=
  match renderer.positionOf? diagnostic with
  | some position =>
    renderer.stackPositions last position.includedFrom diagnostic.severity ++ [position]
  | none => []

/-- The root of the last include stack behind a message. -/
def nextRoot (last : Location) (diagnostic : Diagnostic) : Location :=
  match renderer.positionOf? diagnostic with
  | some position => position.includedFrom
  | none => last

/-- The positions that messages show, one message after the other. -/
def shownPositions : Location → List Diagnostic → List Presumed
  | _, [] => []
  | last, message :: rest =>
    renderer.headingPositions last message ++ shownPositions (renderer.nextRoot last message) rest

/-- Positions are shown in the order of the messages. -/
theorem shownPositions_append (last : Location) (first second : List Diagnostic) :
    renderer.shownPositions last (first ++ second) =
      renderer.shownPositions last first ++
        renderer.shownPositions (first.foldl renderer.nextRoot last) second := by
  induction first generalizing last with
  | nil => rfl
  | cons message rest ih =>
    rw [List.cons_append, shownPositions, ih, shownPositions, List.append_assoc]
    rfl

/-- Some events are written as far as the positions they show can be, they warn of nothing, and
they leave behind the root of an include stack. -/
structure Shows (memory : Memory) (events : List Event) (positions : List Presumed)
    (root : Location) : Prop where
  unwritable : .unwritable ∈ events ↔
    renderer.options.showLocation = true ∧ ∃ position ∈ positions,
      Text.isWritable position.line = false
  warnings : warningsOf events = []
  root : (memory.after events).lastInclude = root

namespace Shows

variable {renderer} {memory : Memory}

/-- Events behind others show what both show. -/
theorem append {first second : List Event} {positions more : List Presumed}
    {between root : Location} (h : renderer.Shows memory first positions between)
    (next : renderer.Shows (memory.after first) second more root) :
    renderer.Shows memory (first ++ second) (positions ++ more) root := by
  refine ⟨?_, ?_, ?_⟩
  · rw [List.mem_append, h.unwritable, next.unwritable]
    constructor
    · rintro (⟨shown, position, member, long⟩ | ⟨shown, position, member, long⟩)
      · exact ⟨shown, position, List.mem_append_left _ member, long⟩
      · exact ⟨shown, position, List.mem_append_right _ member, long⟩
    · rintro ⟨shown, position, member, long⟩
      rcases List.mem_append.mp member with early | late
      · exact Or.inl ⟨shown, position, early, long⟩
      · exact Or.inr ⟨shown, position, late, long⟩
  · have both : warningsOf (first ++ second) = warningsOf first ++ warningsOf second :=
      List.filterMap_append
    rw [both, h.warnings, next.warnings, List.append_nil]
  · rw [Memory.after_append, next.root]

/-- Events that show nothing do not change what is shown in front of them. -/
theorem append_quiet {first second : List Event} {positions : List Presumed} {root : Location}
    (h : renderer.Shows memory first positions root)
    (quiet : ∀ memory, renderer.Shows memory second [] memory.lastInclude) :
    renderer.Shows memory (first ++ second) positions root := by
  have both := h.append (quiet (memory.after first))
  rw [h.root, List.append_nil] at both
  exact both

/-- Lines show no position. -/
theorem lines (lines : List Text) :
    renderer.Shows memory (lines.map .line) [] memory.lastInclude := by
  refine ⟨?_, ?_, ?_⟩
  · constructor
    · intro member
      obtain ⟨line, -, same⟩ := List.mem_map.mp member
      cases same
    · rintro ⟨-, position, member, -⟩
      cases member
  · unfold warningsOf
    rw [List.filterMap_map]
    exact List.filterMap_eq_nil_iff.mpr fun _ _ ↦ rfl
  · rw [Memory.after_map_line]

/-- No events show no position. -/
theorem nil : renderer.Shows memory [] [] memory.lastInclude := lines []

/-- An event that is written and warns of nothing shows no position. -/
theorem singleton {event : Event} (written : event ≠ .unwritable)
    (silent : warningsOf [event] = []) :
    renderer.Shows memory [event] [] (memory.step event).lastInclude := by
  refine ⟨?_, silent, rfl⟩
  constructor
  · intro member
    exact absurd (List.mem_singleton.mp member).symm written
  · rintro ⟨-, position, member, -⟩
    cases member

/-- The end of a diagnostic shows no position. -/
theorem finished (loc : Location) (severity : Severity) :
    renderer.Shows memory [.finished loc severity] [] memory.lastInclude :=
  singleton (fun same ↦ by cases same) rfl

/-- A line about a position shows it. -/
theorem positioned (presumed : Option Presumed) (text : Text) :
    renderer.Shows memory [renderer.positioned presumed text] presumed.toList
      memory.lastInclude := by
  have writable : renderer.positioned presumed text = .unwritable ↔
      renderer.options.showLocation = true ∧ ∃ position ∈ presumed.toList,
        Text.isWritable position.line = false := by
    unfold Renderer.positioned Report.canShow
    cases presumed with
    | none => simp
    | some position => simp
  refine ⟨?_, ?_, ?_⟩
  · rw [List.mem_singleton, ← writable, eq_comm]
  · unfold Renderer.positioned
    split <;> rfl
  · show (memory.step _).lastInclude = _
    rw [renderer.step_positioned]

/-- Lines about positions show them. -/
theorem frames (frames : List Presumed) :
    renderer.Shows memory
      (frames.map fun frame ↦ renderer.positioned (some frame) (renderer.frameLine frame)) frames
      memory.lastInclude := by
  induction frames with
  | nil => exact nil
  | cons frame rest ih =>
    have same : memory.after [renderer.positioned (some frame) (renderer.frameLine frame)] =
        memory := renderer.step_positioned memory _ _
    rw [← same] at ih
    have both := (positioned (some frame) (renderer.frameLine frame)).append ih
    rw [same] at both
    exact both

/-- The root of an include stack is left behind. -/
theorem included (root : Location) : renderer.Shows memory [.included root] [] root :=
  singleton (fun same ↦ by cases same) rfl

end Shows

/-! ## Messages over an ordered source -/

variable {renderer} (ordered : renderer.map.Ordered)

include ordered

private theorem shows_includeStack {memory : Memory} {root : Location}
    (known : renderer.map.IncludeRoot root) :
    renderer.Shows memory (renderer.includeStack root)
      (includeFrames renderer.map (renderer.map.files.length + 2) [] root).1.reverse
      memory.lastInclude := by
  have whole := includeFrames_stop ordered known
  unfold includeStack
  rcases pair : includeFrames renderer.map (renderer.map.files.length + 2) [] root with
    ⟨frames, stop⟩
  rw [pair] at whole
  cases whole
  exact .frames _

private theorem shows_includeEvents (memory : Memory) {root : Location}
    (known : renderer.map.IncludeRoot root) (severity : Severity) :
    renderer.Shows memory (renderer.includeEvents memory root severity)
      (renderer.stackPositions memory.lastInclude root severity) root := by
  unfold includeEvents stackPositions
  by_cases same : root = memory.lastInclude
  · rw [if_pos same, if_pos (Or.inl same), same]
    exact .nil
  · rw [if_neg same]
    by_cases hidden : renderer.options.showNoteIncludeStack = false ∧ severity = .note
    · rw [if_pos (Or.inr hidden), if_pos (by simpa using hidden)]
      exact .included root
    · have shown : ¬ ((!renderer.options.showNoteIncludeStack) = true ∧ severity = .note) := by
        simpa using hidden
      have differs : ¬ (root = memory.lastInclude ∨
          renderer.options.showNoteIncludeStack = false ∧ severity = .note) := by
        rintro (last | quiet)
        · exact same last
        · exact hidden quiet
      rw [if_neg shown, if_neg differs]
      exact (Shows.included root).append (shows_includeStack ordered known)

/-- A heading shows its positions. -/
theorem shows_heading (memory : Memory) (diagnostic : Diagnostic) :
    renderer.Shows memory (renderer.heading memory diagnostic)
      (renderer.headingPositions memory.lastInclude diagnostic)
      (renderer.nextRoot memory.lastInclude diagnostic) := by
  unfold heading stackEvents messageEvent headingPositions nextRoot
  cases found : renderer.positionOf? diagnostic with
  | none => exact .positioned none _
  | some position =>
    have presumed := presumed?_of_positionOf? found
    have stack := shows_includeEvents ordered memory (ordered.known_includedFrom presumed)
      diagnostic.severity
    have both := stack.append (Shows.positioned (some position) (renderer.messageLine
      diagnostic.location (some position) diagnostic.severity diagnostic.message
      diagnostic.ranges))
    rw [stack.root] at both
    exact both

end Renderer

end Caret
