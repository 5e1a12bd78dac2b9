import Caret.Report.Parts

/-!
# The parts of an emission

The events of a diagnostic are its heading (the include stack and the message), the snippet of
its leaf, the notes on its macros, and its closing. Each part is a function of its own here, so
that a property of one part need not be read out of the whole.
-/

namespace Caret

namespace Memory

/-- Events that leave every memory as it is do so one after the other. -/
theorem after_eq_self {events : List Event}
    (h : ∀ event ∈ events, ∀ memory : Memory, memory.step event = memory) (memory : Memory) :
    memory.after events = memory := by
  induction events with
  | nil => rfl
  | cons event rest ih =>
    show (memory.step event).after rest = memory
    rw [h event List.mem_cons_self]
    exact ih fun later member ↦ h later (List.mem_cons_of_mem _ member)

/-- Lines leave the memory as it is. -/
theorem after_map_line (memory : Memory) (lines : List Text) :
    memory.after (lines.map .line) = memory := by
  apply after_eq_self
  intro event member
  obtain ⟨line, -, rfl⟩ := List.mem_map.mp member
  intro memory
  rfl

/-- A diagnostic that ends with its closing is remembered. -/
theorem after_concat_finished (memory : Memory) (events : List Event) (loc : Location)
    (severity : Severity) :
    memory.after (events ++ [.finished loc severity]) =
      { memory.after events with lastLocation := loc, lastSeverity := some severity } := by
  rw [after_append]
  rfl

end Memory

namespace Renderer

variable (renderer : Renderer)

/-- The position behind a message is that of its location. -/
theorem presumed?_of_positionOf? {renderer : Renderer} {diagnostic : Diagnostic}
    {position : Presumed} (h : renderer.positionOf? diagnostic = some position) :
    renderer.map.presumed? diagnostic.location = some position := by
  unfold positionOf? at h
  split at h
  · exact h
  · cases h

/-- A warning leaves the memory as it is. -/
theorem after_cycleEvents (memory : Memory) (loc : Location) :
    memory.after (renderer.cycleEvents loc) = memory := by
  unfold cycleEvents
  cases (renderer.map.levelsOf loc).cycle <;> rfl

/-! ## What the parts leave in memory -/

/-- A line about a position leaves the memory as it is, whether it can be written or not. -/
theorem step_positioned (memory : Memory) (presumed : Option Presumed) (text : Text) :
    memory.step (renderer.positioned presumed text) = memory := by
  unfold positioned
  split <;> rfl

private theorem after_includeStack (memory : Memory) (root : Location) :
    memory.after (renderer.includeStack root) = memory := by
  unfold includeStack
  rw [Memory.after_append]
  have warned (stop : Option Location) : memory.after
      (stop.map fun place ↦ Event.warning (.includeCycle place)).toList = memory := by
    cases stop <;> rfl
  rw [warned]
  apply Memory.after_eq_self
  intro event member memory
  obtain ⟨frame, -, rfl⟩ := List.mem_map.mp member
  exact renderer.step_positioned memory _ _

private theorem after_includeEvents (memory : Memory) (root : Location) (severity : Severity) :
    memory.after (renderer.includeEvents memory root severity) =
      { memory with lastInclude := root } := by
  unfold includeEvents
  split
  · next h => rw [h]; rfl
  · split
    · rfl
    · exact renderer.after_includeStack { memory with lastInclude := root } root

/-- A heading changes nothing but the place of the last include stack. -/
theorem after_heading (memory : Memory) (diagnostic : Diagnostic) :
    memory.after (renderer.heading memory diagnostic) =
      { memory with
        lastInclude :=
          match renderer.positionOf? diagnostic with
          | some position => position.includedFrom
          | none => memory.lastInclude } := by
  unfold heading stackEvents
  rw [Memory.after_append]
  refine (renderer.step_positioned _ _ _).trans ?_
  cases renderer.positionOf? diagnostic with
  | some position => exact renderer.after_includeEvents memory _ _
  | none => rfl

/-- A snippet leaves the memory as it is. -/
theorem after_codeContext (memory remembered : Memory) (leaf : Location) (severity : Severity)
    (ranges : List SourceRange) (hints : List FixItHint) (suppress : Bool) :
    memory.after (renderer.codeContext remembered leaf severity ranges hints suppress) =
      memory := by
  unfold codeContext
  split
  · rfl
  · exact memory.after_map_line _

/-! ## An emission as its parts -/

private theorem codeContext_congr {memory other : Memory}
    (location : memory.lastLocation = other.lastLocation)
    (severity : memory.lastSeverity = other.lastSeverity) :
    renderer.codeContext memory = renderer.codeContext other := by
  unfold codeContext repeatsSnippet
  rw [location, severity]

/-- An emission is a heading, what is shown below a place, and the end of the diagnostic. -/
theorem emitWith_eq (emitNote : Memory → Diagnostic → List Event) (memory : Memory)
    (emission : Emission) :
    renderer.emitWith emitNote memory emission.diagnostic emission.suppress =
      renderer.heading memory emission.diagnostic ++
        (if emission.diagnostic.location.isValid then
          renderer.backtraceWith emitNote
            (memory.after (renderer.heading memory emission.diagnostic))
            emission.diagnostic.location emission.diagnostic.severity
            (markedRanges emission.diagnostic) emission.diagnostic.fixits
            renderer.options.macroBacktraceLimit emission.suppress ++
          if renderer.options.parseableFixits then
            (fixItLines renderer.map emission.diagnostic.fixits).map .line
          else []
        else []) ++
        [.finished emission.diagnostic.location emission.diagnostic.severity] := rfl

/-- A diagnostic with a place has a heading, a snippet, notes and a closing. -/
theorem emitWith_of_isValid (emitNote : Memory → Diagnostic → List Event) (memory : Memory)
    (emission : Emission) (h : emission.diagnostic.location.isValid = true) :
    renderer.emitWith emitNote memory emission.diagnostic emission.suppress =
      renderer.heading memory emission.diagnostic ++
        (renderer.cycleEvents emission.diagnostic.location ++
          renderer.leafSnippet memory emission ++
          renderer.noteEvents emitNote (renderer.macroNotes emission.diagnostic)
            (memory.after (renderer.heading memory emission.diagnostic))) ++
        renderer.closing emission.diagnostic := by
  have same := renderer.after_heading memory emission.diagnostic
  have snippet : renderer.codeContext (memory.after (renderer.heading memory emission.diagnostic)) =
      renderer.codeContext memory := by
    rw [same]
    exact renderer.codeContext_congr rfl rfl
  have traced : renderer.backtraceWith emitNote
      (memory.after (renderer.heading memory emission.diagnostic)) emission.diagnostic.location
      emission.diagnostic.severity (markedRanges emission.diagnostic) emission.diagnostic.fixits
      renderer.options.macroBacktraceLimit emission.suppress =
        renderer.cycleEvents emission.diagnostic.location ++
          renderer.leafSnippet memory emission ++
          renderer.noteEvents emitNote (renderer.macroNotes emission.diagnostic)
            (memory.after (renderer.heading memory emission.diagnostic)) := by
    simp only [backtraceWith, Memory.andThen, after_codeContext, snippet, List.append_assoc,
      cycleEvents, leafSnippet, macroNotes]
  rw [← traced, emitWith_eq, if_pos h]
  unfold closing
  rw [List.append_assoc, List.append_assoc, List.append_assoc]

/-- A diagnostic without a place has a message only. -/
theorem emitWith_of_not_isValid (emitNote : Memory → Diagnostic → List Event) (memory : Memory)
    (emission : Emission) (h : emission.diagnostic.location.isValid = false) :
    renderer.emitWith emitNote memory emission.diagnostic emission.suppress =
      [renderer.messageEvent emission.diagnostic,
        .finished emission.diagnostic.location emission.diagnostic.severity] := by
  have nowhere : renderer.positionOf? emission.diagnostic = none := by
    unfold positionOf?
    rw [if_neg (by rw [h]; exact Bool.false_ne_true)]
  have stack : renderer.stackEvents memory emission.diagnostic = [] := by
    unfold stackEvents
    rw [nowhere]
  rw [emitWith_eq, if_neg (by rw [h]; exact Bool.false_ne_true), List.append_nil]
  unfold heading
  rw [stack]
  rfl

/-- The events of a note under a diagnostic. -/
def nestedNote (memory : Memory) (note : Diagnostic) : List Event :=
  renderer.emitWithin renderer.map.expansions.length memory note false

/-- A diagnostic is emitted by the parts that it has, its notes as notes under it. -/
theorem emit_eq_emitWith (memory : Memory) (diagnostic : Diagnostic) (suppress : Bool) :
    renderer.emit memory diagnostic suppress =
      renderer.emitWith renderer.nestedNote memory diagnostic suppress := rfl

/-! ## Runs of emissions -/

/-- The events of emissions, one after the other. -/
def emissions : Memory → List Emission → List Event
  | _, [] => []
  | memory, emission :: rest =>
    memory.andThen (renderer.emit memory emission.diagnostic emission.suppress) fun memory ↦
      emissions memory rest

/-- A run is continued with what it has left in memory. -/
theorem emissions_append (memory : Memory) (first second : List Emission) :
    renderer.emissions memory (first ++ second) =
      renderer.emissions memory first ++
        renderer.emissions (memory.after (renderer.emissions memory first)) second := by
  induction first generalizing memory with
  | nil => rfl
  | cons emission rest ih =>
    simp only [List.cons_append, emissions, Memory.andThen, ih, Memory.after_append,
      List.append_assoc]

/-- Notes are not remembered: the last thing a diagnostic leaves behind is its own location and
severity. -/
theorem after_emit (memory : Memory) (emission : Emission) :
    ∃ root, memory.after (renderer.emit memory emission.diagnostic emission.suppress) =
      ⟨emission.diagnostic.location, root, some emission.diagnostic.severity⟩ := by
  rw [emit_eq_emitWith, emitWith, Memory.after_concat_finished]
  exact ⟨_, rfl⟩

/-- After a run, the location and severity of its last diagnostic are remembered. -/
theorem after_emissions_concat (memory : Memory) (before : List Emission)
    (last : Emission) :
    ∃ root, memory.after (renderer.emissions memory (before ++ [last])) =
      ⟨last.diagnostic.location, root, some last.diagnostic.severity⟩ := by
  rw [emissions_append, Memory.after_append]
  simp only [emissions, Memory.andThen, List.append_nil]
  exact renderer.after_emit _ last

end Renderer

end Caret
