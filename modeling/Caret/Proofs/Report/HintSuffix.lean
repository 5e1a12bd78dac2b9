import Caret.Proofs.Report.Delivery
import Caret.Proofs.Report.Nesting

/-!
# Machine-readable hints behind a block

The machine-readable hints of a diagnostic stand behind its block, that is behind the notes on its
macros. Nothing else depends on whether they are shown: notes have no hints, and lines leave no
trace in the memory. So a report with them and the report without them stay in step, diagnostic by
diagnostic.
-/

namespace Caret

private theorem fixits_of_mem_diagnostics {notes : List BacktraceNote} {note : Diagnostic}
    (h : note ∈ notes.filterMap BacktraceNote.diagnostic?) : note.fixits = [] := by
  obtain ⟨shown, -, same⟩ := List.mem_filterMap.mp h
  cases shown with
  | elision count => cases same
  | expansion place name ranges =>
    cases same
    rfl

/-- An output without a bound takes of events behind a line that cannot be written nothing more than
of those in front of it. -/
theorem accepted_append_of_unwritable {first : List Event} (h : .unwritable ∈ first)
    (second : List Event) : accepted none (first ++ second) = accepted none first := by
  have early : deliveryError? "" none first = some .unwritable := by
    rw [deliveryError?_none, if_pos h]
  exact (delivered_append_of_some early second).2

/-- An output without a bound takes all events that can be written, and goes on behind them. -/
theorem accepted_append_of_writable {first : List Event} (h : .unwritable ∉ first)
    (second : List Event) : accepted none (first ++ second) = first ++ accepted none second := by
  have whole : deliveryError? "" none first = none := by
    rw [deliveryError?_none, if_neg h]
  exact (delivered_append whole second).2

private theorem linesOf_map_line (lines : List Text) : linesOf (lines.map .line) = lines := by
  induction lines with
  | nil => rfl
  | cons line rest ih => exact congrArg (line :: ·) ih

namespace Renderer

/-- The renderer with machine-readable hints shown or not. -/
def withParseableFixits (renderer : Renderer) (shown : Bool) : Renderer :=
  { renderer with options := { renderer.options with parseableFixits := shown } }

variable (renderer : Renderer)

/-- The machine-readable hints of a diagnostic, if it has a place. -/
def hintLines (diagnostic : Diagnostic) : List Text :=
  if diagnostic.location.isValid then fixItLines renderer.map diagnostic.fixits else []

/-! ## One diagnostic -/

/-- What a diagnostic with a place shows in front of its closing: its heading, the snippet of its
leaf and the notes on its macros. -/
def bodyWith (emitNote : Memory → Diagnostic → List Event) (memory : Memory)
    (emission : Emission) : List Event :=
  renderer.heading memory emission.diagnostic ++
    (renderer.cycleEvents emission.diagnostic.location ++ renderer.leafSnippet memory emission ++
      renderer.noteEvents emitNote (renderer.macroNotes emission.diagnostic)
        (memory.after (renderer.heading memory emission.diagnostic)))

private theorem noteEvents_withParseableFixits (shown : Bool)
    (emitNote : Memory → Diagnostic → List Event) (notes : List BacktraceNote) :
    (renderer.withParseableFixits shown).noteEvents emitNote notes =
      renderer.noteEvents emitNote notes := by
  induction notes with
  | nil => rfl
  | cons note rest ih =>
    funext memory
    simp only [noteEvents, ih]
    rfl

/-- A body is the same whether hints are shown or not. -/
theorem bodyWith_withParseableFixits (shown : Bool)
    (emitNote : Memory → Diagnostic → List Event) :
    (renderer.withParseableFixits shown).bodyWith emitNote = renderer.bodyWith emitNote := by
  funext memory emission
  unfold bodyWith
  rw [noteEvents_withParseableFixits]
  rfl

/-- The report on a diagnostic with its hints is the report without them, and the hints in front of
its end, if its notes are reported alike. -/
theorem emitWith_withParseableFixits {shownNote hiddenNote : Memory → Diagnostic → List Event}
    (alike : ∀ memory note, note.fixits = [] → shownNote memory note = hiddenNote memory note)
    (memory : Memory) (emission : Emission) :
    ∃ body,
      (renderer.withParseableFixits false).emitWith hiddenNote memory emission.diagnostic
          emission.suppress =
        body ++ [.finished emission.diagnostic.location emission.diagnostic.severity] ∧
      (renderer.withParseableFixits true).emitWith shownNote memory emission.diagnostic
          emission.suppress =
        body ++ (renderer.hintLines emission.diagnostic).map .line ++
          [.finished emission.diagnostic.location emission.diagnostic.severity] := by
  unfold hintLines
  cases valid : emission.diagnostic.location.isValid with
  | false =>
    refine ⟨[renderer.messageEvent emission.diagnostic], ?_, ?_⟩
    · exact (renderer.withParseableFixits false).emitWith_of_not_isValid _ _ _ valid
    · exact (renderer.withParseableFixits true).emitWith_of_not_isValid _ _ _ valid
  | true =>
    have notes : renderer.noteEvents shownNote (renderer.macroNotes emission.diagnostic) =
        renderer.noteEvents hiddenNote (renderer.macroNotes emission.diagnostic) :=
      noteEvents_congr fun note member memory ↦ alike memory note (fixits_of_mem_diagnostics member)
    have same : renderer.bodyWith shownNote memory emission =
        renderer.bodyWith hiddenNote memory emission := by
      unfold bodyWith
      rw [notes]
    refine ⟨renderer.bodyWith hiddenNote memory emission, ?_, ?_⟩
    · rw [← renderer.bodyWith_withParseableFixits false]
      exact (renderer.withParseableFixits false).emitWith_of_isValid _ _ _ valid
    · rw [← same, ← renderer.bodyWith_withParseableFixits true, List.append_assoc]
      exact (renderer.withParseableFixits true).emitWith_of_isValid _ _ _ valid

/-- A diagnostic without hints is reported alike if its notes are. -/
theorem emitWith_of_no_fixits {shownNote hiddenNote : Memory → Diagnostic → List Event}
    (alike : ∀ memory note, note.fixits = [] → shownNote memory note = hiddenNote memory note)
    (memory : Memory) {diagnostic : Diagnostic} (plain : diagnostic.fixits = [])
    (suppress : Bool) :
    (renderer.withParseableFixits true).emitWith shownNote memory diagnostic suppress =
      (renderer.withParseableFixits false).emitWith hiddenNote memory diagnostic suppress := by
  have none_shown : (renderer.hintLines diagnostic).map Event.line = [] := by
    unfold hintLines
    rw [plain]
    split <;> rfl
  obtain ⟨body, hidden, shown⟩ :=
    renderer.emitWith_withParseableFixits alike memory ⟨diagnostic, suppress⟩
  rw [none_shown, List.append_nil] at shown
  exact shown.trans hidden.symm

private theorem emitWithin_of_no_fixits (depth : Nat) (memory : Memory) {diagnostic : Diagnostic}
    (plain : diagnostic.fixits = []) (suppress : Bool) :
    (renderer.withParseableFixits true).emitWithin depth memory diagnostic suppress =
      (renderer.withParseableFixits false).emitWithin depth memory diagnostic suppress := by
  induction depth generalizing memory diagnostic suppress with
  | zero => exact renderer.emitWith_of_no_fixits (fun _ _ _ ↦ rfl) memory plain suppress
  | succ depth ih =>
    exact renderer.emitWith_of_no_fixits (fun memory _ plain ↦ ih memory plain false) memory plain
      suppress

/-- The report on a diagnostic with its hints is the report without them, and the hints in front of
its end. -/
theorem emit_withParseableFixits (memory : Memory) (emission : Emission) :
    ∃ body,
      (renderer.withParseableFixits false).emit memory emission.diagnostic emission.suppress =
        body ++ [.finished emission.diagnostic.location emission.diagnostic.severity] ∧
      (renderer.withParseableFixits true).emit memory emission.diagnostic emission.suppress =
        body ++ (renderer.hintLines emission.diagnostic).map .line ++
          [.finished emission.diagnostic.location emission.diagnostic.severity] :=
  renderer.emitWith_withParseableFixits
    (fun memory _ plain ↦ renderer.emitWithin_of_no_fixits _ memory plain false) memory emission

/-! ## Runs -/

/-- The blocks of a run: each emission with its events. -/
def blocks : Memory → List Emission → List (Emission × List Event)
  | _, [] => []
  | memory, emission :: rest =>
    let events := renderer.emit memory emission.diagnostic emission.suppress
    (emission, events) :: blocks (memory.after events) rest

private theorem emissions_eq_flatMap_blocks (memory : Memory) (run : List Emission) :
    renderer.emissions memory run = (renderer.blocks memory run).flatMap (·.2) := by
  induction run generalizing memory with
  | nil => rfl
  | cons emission rest ih => exact congrArg (_ ++ ·) (ih _)

private theorem map_fst_blocks (memory : Memory) (run : List Emission) :
    (renderer.blocks memory run).map (·.1) = run := by
  induction run generalizing memory with
  | nil => rfl
  | cons emission rest ih => exact congrArg (emission :: ·) (ih _)

end Renderer

/-- The lines that an output without a bound gets of some blocks, when there are further lines
behind each block that comes to its end. A line that cannot be written ends them all. -/
def linesOfBlocks (further : Diagnostic → List Text) : List (Emission × List Event) → List Text
  | [] => []
  | (emission, events) :: rest =>
    linesOf (accepted none events) ++
      if .unwritable ∈ events then []
      else further emission.diagnostic ++ linesOfBlocks further rest

namespace Renderer

variable (renderer : Renderer)

private theorem linesOf_accepted_emissions (memory : Memory) (run : List Emission) :
    linesOf (accepted none (renderer.emissions memory run)) =
      linesOfBlocks (fun _ ↦ []) (renderer.blocks memory run) := by
  induction run generalizing memory with
  | nil => rfl
  | cons emission rest ih =>
    rw [emissions, Memory.andThen, blocks, linesOfBlocks]
    by_cases stops : .unwritable ∈ renderer.emit memory emission.diagnostic emission.suppress
    · rw [accepted_append_of_unwritable stops, if_pos stops, List.append_nil]
    · rw [accepted_append_of_writable stops, if_neg stops, linesOf_append, ih, List.nil_append,
        accepted_none stops]

/-- The hints of a diagnostic are lines behind the others, which leave no trace in the memory; a
line that cannot be written is in front of them. -/
theorem emit_in_step (memory : Memory) (emission : Emission) :
    let shown := (renderer.withParseableFixits true).emit memory emission.diagnostic
      emission.suppress
    let hidden := (renderer.withParseableFixits false).emit memory emission.diagnostic
      emission.suppress
    (.unwritable ∈ shown ↔ .unwritable ∈ hidden) ∧
      (.unwritable ∈ hidden → accepted none shown = accepted none hidden) ∧
      linesOf shown = linesOf hidden ++ renderer.hintLines emission.diagnostic ∧
      memory.after shown = memory.after hidden := by
  intro shown hidden
  obtain ⟨body, hidden_eq, shown_eq⟩ := renderer.emit_withParseableFixits memory emission
  have in_hidden : .unwritable ∈ hidden ↔ .unwritable ∈ body := by simp [hidden, hidden_eq]
  have in_shown : .unwritable ∈ shown ↔ .unwritable ∈ body := by simp [shown, shown_eq]
  refine ⟨in_shown.trans in_hidden.symm, fun stops ↦ ?_, ?_, ?_⟩
  · have early := in_hidden.mp stops
    simp only [shown, hidden, shown_eq, hidden_eq, List.append_assoc,
      accepted_append_of_unwritable early]
  · have no_line : linesOf [.finished emission.diagnostic.location emission.diagnostic.severity] =
        [] := rfl
    simp only [shown, hidden, shown_eq, hidden_eq, linesOf_append, linesOf_map_line, no_line,
      List.append_nil]
  · simp only [shown, hidden, shown_eq, hidden_eq, Memory.after_append, Memory.after_map_line]

/-- Two runs stay in step: behind every emission both have the same memory. -/
theorem emissions_in_step (memory : Memory) (run : List Emission) :
    let shown := (renderer.withParseableFixits true).emissions memory run
    let hidden := (renderer.withParseableFixits false).emissions memory run
    (.unwritable ∈ shown ↔ .unwritable ∈ hidden) ∧
      linesOf (accepted none shown) =
        linesOfBlocks renderer.hintLines ((renderer.withParseableFixits false).blocks memory run) ∧
      memory.after (accepted none shown) = memory.after (accepted none hidden) := by
  induction run generalizing memory with
  | nil => exact ⟨Iff.rfl, rfl, rfl⟩
  | cons emission rest ih =>
    obtain ⟨same_end, same_start, lines, same_memory⟩ := renderer.emit_in_step memory emission
    obtain ⟨later_end, later_lines, later_memory⟩ :=
      ih (memory.after ((renderer.withParseableFixits false).emit memory emission.diagnostic
        emission.suppress))
    simp only [emissions, Memory.andThen, blocks, linesOfBlocks, same_memory, List.mem_append]
    refine ⟨or_congr same_end later_end, ?_⟩
    by_cases stops : .unwritable ∈ (renderer.withParseableFixits false).emit memory
        emission.diagnostic emission.suppress
    · have stops_shown := same_end.mpr stops
      rw [accepted_append_of_unwritable stops, accepted_append_of_unwritable stops_shown,
        same_start stops, if_pos stops, List.append_nil]
      exact ⟨rfl, rfl⟩
    · have goes_on := mt same_end.mp stops
      rw [accepted_append_of_writable stops, accepted_append_of_writable goes_on, if_neg stops,
        accepted_none stops, linesOf_append, lines, later_lines, Memory.after_append,
        Memory.after_append, same_memory, later_memory, List.append_assoc]
      exact ⟨rfl, rfl⟩

/-- Machine-readable hints are a suffix of each diagnostic. A run consists of blocks, one for each
emission. An output without a bound gets the lines of the blocks, and with machine-readable hints it
gets the same lines with the hints of each diagnostic that has a place directly behind its block;
what comes of the run and what is remembered is the same. -/
theorem hint_lines_behind_blocks (reason : String) (memory : Memory) (run : List Emission) :
    let shown := renderer.withParseableFixits true
    let hidden := renderer.withParseableFixits false
    let blocks := hidden.blocks memory run
    let without := delivery reason none memory (hidden.emissions memory run) run.length
    (blocks.map (·.1) = run ∧ blocks.flatMap (·.2) = hidden.emissions memory run) ∧
      without.written = (linesOfBlocks (fun _ ↦ []) blocks).map Text.endLine ∧
      delivery reason none memory (shown.emissions memory run) run.length =
        { without with
          written := (linesOfBlocks renderer.hintLines blocks).map Text.endLine } := by
  intro shown hidden blocks without
  obtain ⟨same_end, lines, remembered⟩ := renderer.emissions_in_step memory run
  refine ⟨⟨hidden.map_fst_blocks memory run, (hidden.emissions_eq_flatMap_blocks memory run).symm⟩,
    ?_, ?_⟩
  · exact congrArg (List.map Text.endLine) (hidden.linesOf_accepted_emissions memory run)
  · have outcome : outcomeOf reason none (shown.emissions memory run) run.length =
        outcomeOf reason none (hidden.emissions memory run) run.length := by
      simp only [outcomeOf, deliveryError?_none, shown, hidden, same_end]
    simp only [without, delivery, outcome, shown, hidden, blocks, lines, remembered]

end Renderer

end Caret
