import Caret.Proofs.Report.Positions

/-!
# Notes in an ordered source

The notes on the macros around a diagnostic are about places in files, which have no macros
around them. So a note has no notes of its own, and what a report shows is what its messages
show, one after the other.
-/

namespace Caret

open SourceMap

private theorem place_of_mem_backtraceNotes {map : SourceMap} {skipped : Int × Int}
    {levels : List Location} {ranges mapped : List SourceRange} {place : Location} {name : Text}
    (h : .expansion place name mapped ∈ backtraceNotes map skipped levels ranges) :
    ∃ level ∈ levels, place = map.spelling (map.calleeOf level) := by
  induction levels generalizing ranges with
  | nil => cases h
  | cons level inner ih =>
    have deeper (member : BacktraceNote.expansion place name mapped ∈
        backtraceNotes map skipped inner (ranges.map map.rangeInward)) :
        ∃ outer ∈ level :: inner, place = map.spelling (map.calleeOf outer) := by
      obtain ⟨other, inside, same⟩ := ih member
      exact ⟨other, List.mem_cons_of_mem _ inside, same⟩
    rw [backtraceNotes] at h
    split at h
    · split at h
      · rcases List.mem_cons.mp h with announced | member
        · cases announced
        · exact deeper member
      · exact deeper h
    · rcases List.mem_cons.mp h with same | member
      · cases same
        exact ⟨level, List.mem_cons_self, rfl⟩
      · exact deeper member

namespace Renderer

variable {renderer : Renderer}

/-- A diagnostic that is not in a macro has no notes on macros. -/
theorem macroNotes_of_not_isMacro {diagnostic : Diagnostic}
    (h : diagnostic.location.isMacro = false) : renderer.macroNotes diagnostic = [] := by
  unfold macroNotes
  rw [renderer.map.levelsOf_of_not_isMacro h]
  rfl

/-- In an ordered source the notes on macros are about places in files. -/
theorem isMacro_of_mem_macroNotes (ordered : renderer.map.Ordered) {diagnostic note : Diagnostic}
    (start : diagnostic.location.Below renderer.map.expansions.length)
    (h : note ∈ (renderer.macroNotes diagnostic).filterMap BacktraceNote.diagnostic?) :
    note.location.isMacro = false := by
  obtain ⟨shown, member, same⟩ := List.mem_filterMap.mp h
  cases shown with
  | elision count => cases same
  | expansion place name ranges =>
    cases same
    obtain ⟨level, inside, rfl⟩ := place_of_mem_backtraceNotes member
    obtain ⟨below, macro_level⟩ :=
      (ordered.grounded.levelsOf_bounds start).2.2 level (List.mem_reverse.mp inside)
    exact ordered.grounded.isMacro_spelling
      (ordered.grounded.descends_calleeOf level below macro_level).1

/-- Notes are emitted as their diagnostics are. -/
theorem noteEvents_congr {first second : Memory → Diagnostic → List Event}
    {notes : List BacktraceNote}
    (h : ∀ note ∈ notes.filterMap BacktraceNote.diagnostic?, ∀ memory,
      first memory note = second memory note) :
    renderer.noteEvents first notes = renderer.noteEvents second notes := by
  induction notes with
  | nil => rfl
  | cons note rest ih =>
    funext memory
    cases note with
    | elision count =>
      have others := ih fun later member ↦ h later member
      simp only [noteEvents, others]
    | expansion place name ranges =>
      have here := h ⟨.note, (BacktraceNote.expansion place name ranges).message, place, ranges, []⟩
        List.mem_cons_self memory
      have others := ih fun later member ↦ h later (List.mem_cons_of_mem _ member)
      simp only [noteEvents, others, here]

/-- How notes are emitted matters to a diagnostic only through the notes on its macros. -/
theorem emitWith_congr {first second : Memory → Diagnostic → List Event}
    {diagnostic : Diagnostic} (h : renderer.noteEvents first (renderer.macroNotes diagnostic) =
      renderer.noteEvents second (renderer.macroNotes diagnostic))
    (memory : Memory) (suppress : Bool) :
    renderer.emitWith first memory diagnostic suppress =
      renderer.emitWith second memory diagnostic suppress := by
  cases valid : diagnostic.location.isValid with
  | true =>
    have parts (emitNote : Memory → Diagnostic → List Event) :=
      renderer.emitWith_of_isValid emitNote memory ⟨diagnostic, suppress⟩ valid
    exact (parts first).trans (h ▸ (parts second).symm)
  | false =>
    have parts (emitNote : Memory → Diagnostic → List Event) :=
      renderer.emitWith_of_not_isValid emitNote memory ⟨diagnostic, suppress⟩ valid
    exact (parts first).trans (parts second).symm

/-- In an ordered source a note has no notes: a diagnostic is emitted in the same way whatever
is done about the notes on its notes. -/
theorem emit_eq_of_ordered (ordered : renderer.map.Ordered) {diagnostic : Diagnostic}
    (start : diagnostic.location.Below renderer.map.expansions.length)
    (deeper : Memory → Diagnostic → List Event) (memory : Memory) (suppress : Bool) :
    renderer.emit memory diagnostic suppress =
      renderer.emitWith (fun memory note ↦ renderer.emitWith deeper memory note false) memory
        diagnostic suppress := by
  rw [emit_eq_emitWith]
  apply emitWith_congr
  apply noteEvents_congr
  intro note member remembered
  have place := isMacro_of_mem_macroNotes ordered start member
  have none_left (emitNote : Memory → Diagnostic → List Event) :
      renderer.emitWith emitNote remembered note false =
        renderer.emitWith deeper remembered note false := by
    apply emitWith_congr
    rw [macroNotes_of_not_isMacro place]
    rfl
  unfold nestedNote
  cases renderer.map.expansions.length with
  | zero => exact none_left _
  | succ depth => exact none_left _

/-! ## What a report shows -/

private theorem shows_leafSnippet (memory remembered : Memory) (emission : Emission) :
    renderer.Shows memory (renderer.leafSnippet remembered emission) [] memory.lastInclude := by
  unfold leafSnippet codeContext
  split
  · exact .nil
  · exact .lines _

private theorem shows_closing (memory : Memory) (diagnostic : Diagnostic) :
    renderer.Shows memory (renderer.closing diagnostic) [] memory.lastInclude := by
  have hints : renderer.Shows memory
      (if renderer.options.parseableFixits then
        (fixItLines renderer.map diagnostic.fixits).map .line
      else []) [] memory.lastInclude := by
    split
    · exact .lines _
    · exact .nil
  exact hints.append_quiet fun _ ↦ .finished _ _

section Emission

variable (emission : Emission) {emitNote : Memory → Diagnostic → List Event} {memory : Memory}
  {positions : List Presumed} {root : Location}

private theorem shows_emitWith_of_not_isValid
    (valid : emission.diagnostic.location.isValid = false)
    (headed : renderer.Shows memory (renderer.heading memory emission.diagnostic) positions root) :
    renderer.Shows memory
      (renderer.emitWith emitNote memory emission.diagnostic emission.suppress) positions root := by
  have message : renderer.heading memory emission.diagnostic =
      [renderer.messageEvent emission.diagnostic] := by
    unfold heading stackEvents positionOf?
    rw [valid]
    rfl
  have closed := headed.append_quiet fun _ ↦
    .finished emission.diagnostic.location emission.diagnostic.severity
  rw [message] at closed
  rw [renderer.emitWith_of_not_isValid emitNote memory emission valid]
  exact closed

private theorem shows_emitWith_of_isValid (valid : emission.diagnostic.location.isValid = true)
    (finite : (renderer.map.levelsOf emission.diagnostic.location).cycle = none)
    {more : List Presumed} {between : Location}
    (headed : renderer.Shows memory (renderer.heading memory emission.diagnostic) positions
      between)
    (notes : renderer.Shows (memory.after (renderer.heading memory emission.diagnostic))
      (renderer.noteEvents emitNote (renderer.macroNotes emission.diagnostic)
        (memory.after (renderer.heading memory emission.diagnostic))) more root) :
    renderer.Shows memory
      (renderer.emitWith emitNote memory emission.diagnostic emission.suppress)
      (positions ++ more) root := by
  have noCycle : renderer.cycleEvents emission.diagnostic.location = [] := by
    unfold cycleEvents
    rw [finite]
    rfl
  have same : (memory.after (renderer.heading memory emission.diagnostic)).after
      (renderer.leafSnippet memory emission) =
        memory.after (renderer.heading memory emission.diagnostic) :=
    renderer.after_codeContext _ _ _ _ _ _ _
  have traced : renderer.Shows (memory.after (renderer.heading memory emission.diagnostic))
      (renderer.leafSnippet memory emission ++
        renderer.noteEvents emitNote (renderer.macroNotes emission.diagnostic)
          (memory.after (renderer.heading memory emission.diagnostic))) more root := by
    refine (shows_leafSnippet _ memory emission).append ?_
    rw [same]
    exact notes
  rw [renderer.emitWith_of_isValid emitNote memory emission valid, noCycle, List.nil_append]
  exact (headed.append traced).append_quiet fun _ ↦ shows_closing _ emission.diagnostic

end Emission

/-- A diagnostic shows the positions of its heading and those of its notes. -/
theorem shows_emitWith (ordered : renderer.map.Ordered) {diagnostic : Diagnostic}
    (start : diagnostic.location.Below renderer.map.expansions.length)
    {emitNote : Memory → Diagnostic → List Event} {memory : Memory} {positions : List Presumed}
    {root : Location}
    (notes : renderer.Shows (memory.after (renderer.heading memory diagnostic))
      (renderer.noteEvents emitNote (renderer.macroNotes diagnostic)
        (memory.after (renderer.heading memory diagnostic))) positions root)
    (suppress : Bool) :
    renderer.Shows memory (renderer.emitWith emitNote memory diagnostic suppress)
      (renderer.headingPositions memory.lastInclude diagnostic ++ positions) root := by
  have headed := shows_heading ordered memory diagnostic
  cases valid : diagnostic.location.isValid with
  | false =>
    rw [macroNotes_of_not_isMacro (Location.isMacro_of_not_isValid valid)] at notes
    have whole := headed.append notes
    rw [noteEvents, List.append_nil] at whole
    exact shows_emitWith_of_not_isValid ⟨diagnostic, suppress⟩ valid whole
  | true =>
    exact shows_emitWith_of_isValid ⟨diagnostic, suppress⟩ valid
      (ordered.grounded.levelsOf_bounds start).1 headed notes

private theorem shows_emitWith_of_not_isMacro (ordered : renderer.map.Ordered)
    {diagnostic : Diagnostic}
    (outside : diagnostic.location.isMacro = false) (emitNote : Memory → Diagnostic → List Event)
    (memory : Memory) (suppress : Bool) :
    renderer.Shows memory (renderer.emitWith emitNote memory diagnostic suppress)
      (renderer.headingPositions memory.lastInclude diagnostic)
      (renderer.nextRoot memory.lastInclude diagnostic) := by
  have below : diagnostic.location.Below renderer.map.expansions.length := by
    intro number inside
    have isMacro : diagnostic.location.isMacro = true := by
      rw [Location.isMacro, inside]
      rfl
    cases isMacro.symm.trans outside
  have none_left : renderer.Shows (memory.after (renderer.heading memory diagnostic))
      (renderer.noteEvents emitNote (renderer.macroNotes diagnostic)
        (memory.after (renderer.heading memory diagnostic))) []
      (renderer.nextRoot memory.lastInclude diagnostic) := by
    rw [macroNotes_of_not_isMacro outside, ← (shows_heading ordered memory diagnostic).root]
    exact .nil
  have shown := shows_emitWith ordered below none_left suppress
  rw [List.append_nil] at shown
  exact shown

private theorem shows_noteEvents (ordered : renderer.map.Ordered)
    (deeper : Memory → Diagnostic → List Event) {notes : List BacktraceNote}
    (places : ∀ note ∈ notes.filterMap BacktraceNote.diagnostic?, note.location.isMacro = false)
    (memory : Memory) :
    renderer.Shows memory
      (renderer.noteEvents (fun memory note ↦ renderer.emitWith deeper memory note false) notes
        memory)
      (renderer.shownPositions memory.lastInclude (notes.filterMap BacktraceNote.diagnostic?))
      ((notes.filterMap BacktraceNote.diagnostic?).foldl renderer.nextRoot
        memory.lastInclude) := by
  induction notes generalizing memory with
  | nil => exact .nil
  | cons note rest ih =>
    cases note with
    | elision count => exact (Shows.lines [_]).append (ih places memory)
    | expansion place name ranges =>
      have here := shows_emitWith_of_not_isMacro ordered (places _ List.mem_cons_self) deeper
        memory false
      have others := ih (fun later member ↦ places later (List.mem_cons_of_mem _ member))
        (memory.after (renderer.emitWith deeper memory
          ⟨.note, (BacktraceNote.expansion place name ranges).message, place, ranges, []⟩ false))
      rw [here.root] at others
      exact here.append others

private theorem shows_emit (ordered : renderer.map.Ordered) {diagnostic : Diagnostic}
    (start : diagnostic.location.Below renderer.map.expansions.length) (memory : Memory)
    (suppress : Bool) :
    renderer.Shows memory (renderer.emit memory diagnostic suppress)
      (renderer.shownPositions memory.lastInclude (renderer.messagesOf diagnostic))
      ((renderer.messagesOf diagnostic).foldl renderer.nextRoot memory.lastInclude) := by
  rw [emit_eq_of_ordered ordered start (fun _ _ ↦ [])]
  have notes := shows_noteEvents ordered (fun _ _ ↦ [])
    (fun note ↦ isMacro_of_mem_macroNotes ordered start)
    (memory.after (renderer.heading memory diagnostic))
  rw [(shows_heading ordered memory diagnostic).root] at notes
  exact shows_emitWith ordered start notes suppress

/-- Diagnostics show the positions of their messages, one after the other. -/
theorem shows_emitAll (ordered : renderer.map.Ordered) {diagnostics : List Diagnostic}
    (start : ∀ diagnostic ∈ diagnostics,
      diagnostic.location.Below renderer.map.expansions.length) (memory : Memory) :
    renderer.Shows memory (renderer.emitAll memory diagnostics)
      (renderer.shownPositions memory.lastInclude (diagnostics.flatMap renderer.messagesOf))
      ((diagnostics.flatMap renderer.messagesOf).foldl renderer.nextRoot memory.lastInclude) := by
  induction diagnostics generalizing memory with
  | nil => exact .nil
  | cons diagnostic rest ih =>
    have here := shows_emit ordered (start _ List.mem_cons_self) memory false
    have others := ih (fun later member ↦ start later (List.mem_cons_of_mem _ member))
      (memory.after (renderer.emit memory diagnostic))
    rw [here.root] at others
    rw [List.flatMap_cons, shownPositions_append, List.foldl_append]
    exact here.append others

end Renderer

end Caret
