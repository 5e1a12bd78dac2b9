import Caret.CommandLine.Run
import Caret.Proofs.Batch.Loading
import Caret.Proofs.Report.Nesting

/-!
# Rendering any batch

Every document is refused with a fault, before anything is written, or gives a batch that is
rendered to its end: its source is in order, so that all walks end and nothing is warned of.
What can stop the report is a line number of more digits than can be written, which only a line
directive far outside of its file brings about.
-/

namespace Caret

open Data (Value)

/-- The options are in the range in which every part of a report is defined. -/
structure Options.InRange (options : Options) : Prop where
  tabStop : 1 ≤ options.tabStop ∧ options.tabStop ≤ Options.maxTabStop
  wrapColumn : 0 ≤ options.wrapColumn
  macroBacktraceLimit : 0 ≤ options.macroBacktraceLimit

namespace Renderer

variable (renderer : Renderer)

/-- Emits diagnostics one after the other on an output without a bound, and counts them; a line
that cannot be written ends the count. -/
def emitCounted : Memory → List Diagnostic → Nat → Except DeliveryError Nat
  | _, [], count => .ok count
  | memory, diagnostic :: rest, count =>
    match deliveryError? "" none (renderer.emit memory diagnostic) with
    | some error => .error error
    | none => emitCounted (memory.after (renderer.emit memory diagnostic)) rest (count + 1)

/-- All diagnostics are counted unless one of their lines cannot be written. -/
theorem emitCounted_eq (memory : Memory) (diagnostics : List Diagnostic) (count : Nat) :
    renderer.emitCounted memory diagnostics count =
      if .unwritable ∈ renderer.emitAll memory diagnostics then .error .unwritable
      else .ok (count + diagnostics.length) := by
  induction diagnostics generalizing memory count with
  | nil => rfl
  | cons diagnostic rest ih =>
    unfold emitCounted emitAll Memory.andThen
    rw [deliveryError?_none, List.length_cons]
    by_cases here : .unwritable ∈ renderer.emit memory diagnostic
    · rw [if_pos here, if_pos (List.mem_append_left _ here)]
    · have later : .unwritable ∈ renderer.emit memory diagnostic ++
          renderer.emitAll (memory.after (renderer.emit memory diagnostic)) rest ↔
            .unwritable ∈
              renderer.emitAll (memory.after (renderer.emit memory diagnostic)) rest := by
        rw [List.mem_append]
        exact or_iff_right here
      simp only [if_neg here, ih, later, Nat.add_assoc, Nat.add_comm 1]

/-- All line numbers that a report shows can be written. -/
def ShowsWritable (memory : Memory) (diagnostics : List Diagnostic) : Prop :=
  renderer.options.showLocation = true →
    ∀ position ∈ renderer.shownPositions memory.lastInclude
      (diagnostics.flatMap renderer.messagesOf), Text.isWritable position.line = true

/-- Diagnostics are rendered to their end. -/
structure Total (diagnostics : List Diagnostic) : Prop where
  /-- The options are in range. -/
  options : renderer.options.InRange
  /-- All places are known. -/
  known : ∀ diagnostic ∈ diagnostics,
    diagnostic.Known renderer.map.texts renderer.map.expansions.length
  /-- No walk over the expansions ends at its bound. -/
  walks : ∀ loc : Location, loc.Below renderer.map.expansions.length → renderer.map.Settled loc
  /-- No walk along an include stack ends at its bound. -/
  includes : ∀ {loc : Location} {position : Presumed},
    renderer.map.presumed? loc = some position → ∀ more,
      includeFrames renderer.map (renderer.map.files.length + 2 + more) []
        position.includedFrom =
      includeFrames renderer.map (renderer.map.files.length + 2) [] position.includedFrom
  /-- Notes on macros are about places in files. -/
  places : ∀ diagnostic ∈ diagnostics, ∀ note ∈ (renderer.messagesOf diagnostic).tail,
    note.location.isMacro = false
  /-- Notes have no notes, whatever was to be done about them. -/
  nesting : ∀ diagnostic ∈ diagnostics, ∀ deeper memory suppress,
    renderer.emit memory diagnostic suppress =
      renderer.emitWith (fun memory note ↦ renderer.emitWith deeper memory note false) memory
        diagnostic suppress
  /-- Nothing is warned of. -/
  silent : ∀ memory, warningsOf (renderer.emitAll memory diagnostics) = []
  /-- All diagnostics are rendered if the line numbers can be written. -/
  counted : ∀ memory, renderer.emitCounted memory diagnostics 0 = .ok diagnostics.length ↔
    renderer.ShowsWritable memory diagnostics
  /-- A line number that cannot be written is the only thing that stops the report. -/
  stopped : ∀ memory, renderer.emitCounted memory diagnostics 0 = .error .unwritable ↔
    ¬ renderer.ShowsWritable memory diagnostics

private theorem total_of_ordered {renderer : Renderer} {diagnostics : List Diagnostic}
    (options : renderer.options.InRange) (ordered : renderer.map.Ordered)
    (known : ∀ diagnostic ∈ diagnostics,
      diagnostic.Known renderer.map.texts renderer.map.expansions.length) :
    renderer.Total diagnostics := by
  have start : ∀ diagnostic ∈ diagnostics,
      diagnostic.location.Below renderer.map.expansions.length :=
    fun diagnostic member ↦ (known diagnostic member).location.below
  have writable (memory : Memory) : .unwritable ∉ renderer.emitAll memory diagnostics ↔
      renderer.ShowsWritable memory diagnostics := by
    rw [(shows_emitAll ordered start memory).unwritable]
    unfold ShowsWritable
    constructor
    · intro short shown position member
      cases line : Text.isWritable position.line with
      | true => rfl
      | false => exact absurd ⟨shown, position, member, line⟩ short
    · rintro short ⟨shown, position, member, long⟩
      rw [short shown position member] at long
      cases long
  refine
    { options
      known
      walks := fun loc below ↦ ordered.grounded.settled below
      includes := fun found ↦ includeFrames_settled ordered (ordered.known_includedFrom found)
      places := fun diagnostic member note ↦
        isMacro_of_mem_macroNotes ordered (start diagnostic member)
      nesting := fun diagnostic member ↦ emit_eq_of_ordered ordered (start diagnostic member)
      silent := fun memory ↦ (shows_emitAll ordered start memory).warnings
      counted := fun memory ↦ ?_
      stopped := fun memory ↦ ?_ }
  · rw [← writable, emitCounted_eq, Nat.zero_add]
    split
    · next long => simp [long]
    · next short => simp [short]
  · rw [← writable, emitCounted_eq]
    split
    · next long => simp [long]
    · next short => simp [short]

end Renderer

/-- Options that a layer is frozen to are in range. -/
theorem OptionLayer.inRange_freeze (layer : OptionLayer) : layer.freeze.InRange := by
  have tabStop : layer.freeze.tabStop =
      (layer.tabStop.map fun value ↦ if isTabStop value then value else 8).getD 8 := rfl
  have wrapColumn : layer.freeze.wrapColumn =
      (layer.wrapColumn.map fun value ↦ max value 0).getD 0 := rfl
  have limit : layer.freeze.macroBacktraceLimit =
      (layer.macroBacktraceLimit.map fun value ↦ if value < 0 then 6 else value).getD 6 := rfl
  refine ⟨?_, ?_, ?_⟩
  · rw [tabStop]
    cases layer.tabStop with
    | none => decide
    | some value =>
      rw [Option.map_some, Option.getD_some]
      split
      · next inside =>
        rw [isTabStop, Bool.and_eq_true, decide_eq_true_iff, decide_eq_true_iff] at inside
        exact inside
      · decide
  · rw [wrapColumn]
    cases layer.wrapColumn with
    | none => decide
    | some value => exact Int.le_max_right value 0
  · rw [limit]
    cases layer.macroBacktraceLimit with
    | none => decide
    | some value =>
      rw [Option.map_some, Option.getD_some]
      split <;> omega

/-- A document with a fault ends a run before anything is written. -/
theorem CommandLine.Session.output_runRender_of_error {session : CommandLine.Session}
    {name : String} {request : CommandLine.RenderingRequest} {text : Text} {document : Value}
    {place : String} {fault : Batch.Fault} (given : session.batchText name = .ok text)
    (read : Json.read text = .ok document)
    (refused : (Batch.ofValue document).1 = .error (.malformed place fault)) :
    (session.runRender name request).output = [] := by
  unfold runRender withOptions
  split
  · rw [given]
    dsimp only
    unfold Batch.ofText
    rw [read]
    dsimp only
    rw [refused]
    rfl
  · split <;> rfl

/-- Rendering is total. A document is refused with a fault, and then nothing is written, or its
diagnostics are rendered to their end under any options. -/
theorem Batch.rendering_total (document : Value) :
    (∃ place fault, (Batch.ofValue document).1 = .error (.malformed place fault) ∧
      ∀ (session : CommandLine.Session) (name : String)
        (request : CommandLine.RenderingRequest) (text : Text),
        session.batchText name = .ok text → Json.read text = .ok document →
          (session.runRender name request).output = []) ∨
      ∃ batch, (Batch.ofValue document).1 = .ok batch ∧
        ∀ layer : OptionLayer, (Renderer.mk batch.map layer.freeze).Total batch.diagnostics := by
  rcases Batch.ofValue_cases document with ⟨place, fault, refused⟩ | ⟨batch, loaded, ordered⟩
  · refine Or.inl ⟨place, fault, refused, ?_⟩
    intro session name request text given read
    exact CommandLine.Session.output_runRender_of_error given read refused
  · refine Or.inr ⟨batch, loaded, ?_⟩
    intro layer
    exact Renderer.total_of_ordered layer.inRange_freeze ordered.map ordered.diagnostics

/-! ## A line number that cannot be written -/

/-- A document with a file of one line, a directive far in front of it, and a diagnostic. -/
def longLineDocument : Value :=
  .record
    [("files", .list [.record
      [("name", .string "a"), ("text", .string "x"),
        ("line_directives", .list [.record
          [("line", .integer (-1)),
            ("presented_line", .integer (Nat.pow 10 Text.maxDecimalDigits - 1 : Nat))]])]]),
      ("diagnostics", .list [.record
        [("message", .string "m"),
          ("location", .record
            [("file", .string "a"), ("line", .integer 1), ("column", .integer 1)])]])]

/-- The batch of that document. -/
def longLineBatch : Batch where
  map :=
    { files :=
        [{ name := ['a'], text := ['x'],
           directives :=
             [{ line := -1, presented := (Nat.pow 10 Text.maxDecimalDigits - 1 : Nat) }] }] }
  diagnostics := [{ severity := .error, message := ['m'], location := .inFile 1 0 }]

/-- The document is accepted, and its only diagnostic stops the report. -/
theorem Batch.long_line_stops_report :
    (Batch.ofValue longLineDocument).1 = .ok longLineBatch ∧
      (Renderer.mk longLineBatch.map OptionLayer.empty.freeze).emitCounted {}
        longLineBatch.diagnostics 0 = .error .unwritable := by
  have loaded : (Batch.ofValue longLineDocument).1 = .ok longLineBatch := rfl
  have shown : (Renderer.mk longLineBatch.map OptionLayer.empty.freeze).shownPositions
      Location.invalid (longLineBatch.diagnostics.flatMap
        (Renderer.mk longLineBatch.map OptionLayer.empty.freeze).messagesOf) =
      [{ file := 1, filename := ['a'], line := (Nat.pow 10 Text.maxDecimalDigits : Nat),
         column := 1, includedFrom := Location.invalid }] := by
    decide +kernel
  rcases Batch.rendering_total longLineDocument with ⟨place, fault, refused, -⟩ |
    ⟨batch, found, total⟩
  · cases loaded.symm.trans refused
  · cases loaded.symm.trans found
    refine ⟨loaded, ((total OptionLayer.empty).stopped {}).mpr ?_⟩
    intro writable
    have short := writable rfl _ (shown ▸ List.mem_singleton_self _)
    rw [Text.isWritable_iff] at short
    dsimp only at short
    rw [Int.natAbs_natCast] at short
    exact Nat.lt_irrefl _ short

end Caret
