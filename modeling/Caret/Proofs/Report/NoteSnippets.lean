import Caret.Proofs.Report.FixItReading
import Caret.Proofs.Report.Nesting
import Caret.Proofs.Report.Repetition

/-!
# Snippets of notes on macros

The note on a macro has a snippet of its own, which is withheld when its place is the one that is
remembered. Behind another note of the same backtrace that is the place of the note before. But in
front of the first note nothing of the diagnostic itself is remembered yet: its snippet is compared
with the diagnostic before, although the snippet of the leaf stands between them.
-/

namespace Caret

open SourceMap

/-- The note on a macro as a diagnostic. -/
def expansionNote (place : Location) (name : Text) (ranges : List SourceRange) : Diagnostic :=
  ⟨.note, (BacktraceNote.expansion place name ranges).message, place, ranges, []⟩

namespace Renderer

variable (renderer : Renderer)

/-! ## What notes leave in memory -/

private theorem lastLocation_after_nestedNote (memory : Memory) (note : Diagnostic) :
    (memory.after (renderer.nestedNote memory note)).lastLocation = note.location := by
  unfold nestedNote
  cases renderer.map.expansions.length with
  | zero => rw [emitWithin, emitWith, Memory.after_concat_finished]
  | succ depth => rw [emitWithin, emitWith, Memory.after_concat_finished]

/-- The place of the latest note on a macro among some notes; `last` if there is none. -/
def latestPlace (last : Location) (notes : List BacktraceNote) : Location :=
  match (notes.filterMap BacktraceNote.diagnostic?).getLast? with
  | some latest => latest.location
  | none => last

/-- A note of macros in front of others is the latest only if there is no other. -/
theorem latestPlace_cons (last : Location) (note : BacktraceNote) (rest : List BacktraceNote) :
    latestPlace last (note :: rest) =
      latestPlace ((note.diagnostic?.map (·.location)).getD last) rest := by
  unfold latestPlace
  rw [List.filterMap_cons]
  cases note.diagnostic? with
  | none => rfl
  | some diagnostic =>
    rw [List.getLast?_cons]
    cases (rest.filterMap BacktraceNote.diagnostic?).getLast? <;> rfl

private theorem lastLocation_after_noteEvents (notes : List BacktraceNote) (memory : Memory) :
    (memory.after (renderer.noteEvents renderer.nestedNote notes memory)).lastLocation =
      latestPlace memory.lastLocation notes := by
  induction notes generalizing memory with
  | nil => rfl
  | cons note rest ih =>
    cases note with
    | elision count =>
      rw [noteEvents, Memory.andThen, Memory.after_append, ih, latestPlace_cons]
      rfl
    | expansion place name ranges =>
      rw [noteEvents, Memory.andThen, Memory.after_append, ih, latestPlace_cons,
        lastLocation_after_nestedNote]
      rfl

private theorem noteEvents_append (emitNote : Memory → Diagnostic → List Event)
    (front back : List BacktraceNote) (memory : Memory) :
    renderer.noteEvents emitNote (front ++ back) memory =
      renderer.noteEvents emitNote front memory ++
        renderer.noteEvents emitNote back
          (memory.after (renderer.noteEvents emitNote front memory)) := by
  induction front generalizing memory with
  | nil => rfl
  | cons note rest ih =>
    simp only [List.cons_append, noteEvents, Memory.andThen, ih, Memory.after_append,
      List.append_assoc]

private theorem lastLocation_after_heading (memory : Memory) (diagnostic : Diagnostic) :
    (memory.after (renderer.heading memory diagnostic)).lastLocation = memory.lastLocation := by
  rw [after_heading]

/-! ## The snippet of a note -/

private theorem nestedNote_of_isFile (memory : Memory) {place : Location} (name : Text)
    (ranges : List SourceRange) (inFile : place.isFile = true) :
    renderer.nestedNote memory (expansionNote place name ranges) =
      renderer.heading memory (expansionNote place name ranges) ++
        renderer.leafSnippet memory ⟨expansionNote place name ranges, false⟩ ++
        [.finished place .note] := by
  have outside : place.isMacro = false := FixItReader.isMacro_of_isFile inFile
  have valid : place.isValid = true := (Location.isValid_iff _).mpr (Or.inl inFile)
  have alone (emitNote : Memory → Diagnostic → List Event) :
      renderer.emitWith emitNote memory (expansionNote place name ranges) false =
        renderer.heading memory (expansionNote place name ranges) ++
          renderer.leafSnippet memory ⟨expansionNote place name ranges, false⟩ ++
          [.finished place .note] := by
    have no_cycle : renderer.cycleEvents place = [] := by
      rw [cycleEvents, levelsOf_of_not_isMacro _ outside]
      rfl
    have no_notes : renderer.macroNotes (expansionNote place name ranges) = [] :=
      macroNotes_of_not_isMacro outside
    have no_hints : renderer.closing (expansionNote place name ranges) =
        [.finished place .note] := by
      unfold closing
      split <;> rfl
    have parts := renderer.emitWith_of_isValid emitNote memory
      ⟨expansionNote place name ranges, false⟩ valid
    dsimp only at parts
    rw [no_notes, no_hints] at parts
    rw [parts]
    show _ ++ (renderer.cycleEvents place ++ _ ++ _) ++ _ = _
    rw [no_cycle, List.nil_append, noteEvents, List.append_nil]
  unfold nestedNote
  cases renderer.map.expansions.length with
  | zero => exact alone _
  | succ depth => exact alone _

/-- A note repeats the snippet of the location in memory, whatever severity is remembered: it
belongs to the same group as a note, and to that of any other diagnostic. -/
theorem repeatsSnippet_note_iff (memory : Memory) (place : Location) (ranges : List SourceRange) :
    renderer.repeatsSnippet memory place .note ranges [] false = true ↔
      ranges = [] ∧ place = renderer.map.expansionSite memory.lastLocation := by
  have group : (false || memory.lastSeverity != some .note || memory.lastSeverity == some .note) =
      true := by
    cases same : memory.lastSeverity == some .note <;> simp [bne, same]
  unfold repeatsSnippet
  rw [group, Bool.and_true, List.isEmpty_nil, Bool.and_true, Bool.and_eq_true, beq_iff_eq,
    List.isEmpty_iff]
  exact and_comm

/-- The snippet of a note is withheld exactly if there is nothing to mark and its place is the
expansion site of the location in memory. -/
theorem noteSnippet_eq_nil_iff (carets : renderer.options.showCarets = true) (memory : Memory)
    {place : Location} (name : Text) (ranges : List SourceRange) (inFile : place.isFile = true)
    (available : (Snippet.place? renderer.map place).isSome = true) :
    renderer.leafSnippet memory ⟨expansionNote place name ranges, false⟩ = [] ↔
      ranges = [] ∧ place = renderer.map.expansionSite memory.lastLocation := by
  have snippet : renderer.leafSnippet memory ⟨expansionNote place name ranges, false⟩ =
      renderer.codeContext memory place .note ranges [] false := by
    have leaf : (renderer.map.levelsOf place).leaf = place := by
      rw [levelsOf_of_not_isMacro _ (FixItReader.isMacro_of_isFile inFile)]
    have marks : markedRanges (expansionNote place name ranges) = ranges := List.append_nil ranges
    show renderer.codeContext memory (renderer.map.levelsOf place).leaf .note
      (markedRanges (expansionNote place name ranges)) [] false = _
    rw [leaf, marks]
  have shown : Snippet.render renderer.map place ranges [] renderer.options ≠ [] := by
    rw [ne_eq, Snippet.render_eq_nil_iff]
    exact Option.isSome_iff_ne_none.mp available
  rw [snippet, ← renderer.repeatsSnippet_note_iff, codeContext, carets, Bool.not_true,
    Bool.false_or]
  split
  · next same => exact iff_of_true rfl same
  · next different =>
    exact iff_of_false (fun empty ↦ shown (List.map_eq_nil_iff.mp empty)) different

/-! ## Snippets of notes in a run -/

/-- The place of the snippet that is considered directly in front of a note of a diagnostic: that of
the note on a macro before it, and the leaf in front of the first. -/
def consideredBefore (diagnostic : Diagnostic) (front : List BacktraceNote) : Location :=
  latestPlace (renderer.map.levelsOf diagnostic.location).leaf front

/-- In front of the notes that are shown behind some notes, there is the place of the latest of
those, whatever place is given for the case that there is none. -/
theorem latestPlace_congr {notes : List BacktraceNote}
    (some_note : notes.filterMap BacktraceNote.diagnostic? ≠ []) (last other : Location) :
    latestPlace last notes = latestPlace other notes := by
  unfold latestPlace
  rw [List.getLast?_eq_some_getLast some_note]

/-- Without a note on a macro there is no latest one. -/
theorem latestPlace_of_eq_nil {notes : List BacktraceNote}
    (no_note : notes.filterMap BacktraceNote.diagnostic? = []) (last : Location) :
    latestPlace last notes = last := by
  unfold latestPlace
  rw [no_note]
  rfl

private theorem expansionSite_latestPlace {notes : List BacktraceNote}
    (finite : ∀ note ∈ notes.filterMap BacktraceNote.diagnostic?, note.location.isMacro = false)
    (last : Location) :
    renderer.map.expansionSite (latestPlace last notes) =
      latestPlace (renderer.map.expansionSite last) notes := by
  unfold latestPlace
  cases found : (notes.filterMap BacktraceNote.diagnostic?).getLast? with
  | none => rfl
  | some latest =>
    exact renderer.map.expansionSite_of_not_isMacro (finite latest (List.mem_of_getLast? found))

/-- A diagnostic with notes has its snippet and its notes between its heading and its closing, the
note on a macro at a place in a file with a heading and a snippet of its own. -/
theorem emit_of_macroNotes (memory : Memory) (current : Emission) {front back : List BacktraceNote}
    {place : Location} {name : Text} {ranges : List SourceRange}
    (notes : renderer.macroNotes current.diagnostic =
      front ++ .expansion place name ranges :: back)
    (inFile : place.isFile = true) :
    let headed := memory.after (renderer.heading memory current.diagnostic)
    let reached := headed.after (renderer.noteEvents renderer.nestedNote front headed)
    let note := expansionNote place name ranges
    let shown := renderer.heading reached note ++ renderer.leafSnippet reached ⟨note, false⟩ ++
      [.finished place .note]
    renderer.emit memory current.diagnostic current.suppress =
      renderer.heading memory current.diagnostic ++
        (renderer.cycleEvents current.diagnostic.location ++ renderer.leafSnippet memory current ++
          (renderer.noteEvents renderer.nestedNote front headed ++ shown ++
            renderer.noteEvents renderer.nestedNote back (reached.after shown))) ++
        renderer.closing current.diagnostic := by
  intro headed reached note shown
  have valid : current.diagnostic.location.isValid = true := by
    by_contra invalid
    rw [macroNotes_of_not_isMacro (Location.isMacro_of_not_isValid (by simpa using invalid))]
      at notes
    cases front <;> cases notes
  have here : renderer.noteEvents renderer.nestedNote (.expansion place name ranges :: back)
      reached = shown ++ renderer.noteEvents renderer.nestedNote back (reached.after shown) := by
    have emitted : renderer.nestedNote reached note = shown :=
      renderer.nestedNote_of_isFile reached name ranges inFile
    rw [← emitted]
    rfl
  rw [emit_eq_emitWith, renderer.emitWith_of_isValid _ _ _ valid, notes, noteEvents_append, here]
  simp only [List.append_assoc]
  rfl

/-- In a run, the snippet of a note on a macro is withheld exactly if it has nothing to mark and its
place is the one remembered: that of the note on a macro before it, and for the first note the
expansion site of the diagnostic before. So what is withheld repeats the snippet that is considered
directly in front of the note, except for the first note of a backtrace at the expansion site of the
diagnostic before when the leaf is another place. -/
theorem note_snippet_withheld_iff (carets : renderer.options.showCarets = true) (memory : Memory)
    (before : List Emission) (current : Emission) {front back : List BacktraceNote}
    {place : Location} {name : Text} {ranges : List SourceRange}
    (notes : renderer.macroNotes current.diagnostic =
      front ++ .expansion place name ranges :: back)
    (inFile : place.isFile = true)
    (available : (Snippet.place? renderer.map place).isSome = true)
    (finite : ∀ note ∈ front.filterMap BacktraceNote.diagnostic?, note.location.isMacro = false) :
    let remembered := memory.after (renderer.emissions memory before)
    let headed := remembered.after (renderer.heading remembered current.diagnostic)
    let reached := headed.after (renderer.noteEvents renderer.nestedNote front headed)
    let note := expansionNote place name ranges
    let snippet := renderer.leafSnippet reached ⟨note, false⟩
    let shown := renderer.heading reached note ++ snippet ++ [.finished place .note]
    let site := renderer.map.expansionSite remembered.lastLocation
    renderer.emissions memory (before ++ [current]) =
        renderer.emissions memory before ++
          (renderer.heading remembered current.diagnostic ++
            (renderer.cycleEvents current.diagnostic.location ++
              renderer.leafSnippet remembered current ++
              (renderer.noteEvents renderer.nestedNote front headed ++ shown ++
                renderer.noteEvents renderer.nestedNote back (reached.after shown))) ++
            renderer.closing current.diagnostic) ∧
    (∀ earlier last, before = earlier ++ [last] →
      remembered.lastLocation = last.diagnostic.location) ∧
    (snippet = [] ↔ ranges = [] ∧ place = latestPlace site front) ∧
    ((ranges = [] → snippet = [] → place = renderer.consideredBefore current.diagnostic front) ↔
      ¬ (front.filterMap BacktraceNote.diagnostic? = [] ∧ ranges = [] ∧ place = site ∧
        place ≠ (renderer.map.levelsOf current.diagnostic.location).leaf)) := by
  intro remembered headed reached note snippet shown site
  have withheld : snippet = [] ↔ ranges = [] ∧ place = latestPlace site front := by
    have last : reached.lastLocation = latestPlace remembered.lastLocation front := by
      rw [← renderer.lastLocation_after_heading remembered current.diagnostic]
      exact renderer.lastLocation_after_noteEvents front headed
    rw [renderer.noteSnippet_eq_nil_iff carets reached name ranges inFile available, last,
      renderer.expansionSite_latestPlace finite]
  refine ⟨?parts, ?location, withheld, ?repeats⟩
  case parts =>
    rw [emissions_append]
    simp only [emissions, Memory.andThen, List.append_nil]
    exact congrArg (_ ++ ·) (renderer.emit_of_macroNotes remembered current notes inFile)
  case location =>
    rintro earlier last rfl
    obtain ⟨root, left⟩ := renderer.after_emissions_concat memory earlier last
    exact congrArg Memory.lastLocation left
  case repeats =>
    unfold consideredBefore
    rw [withheld]
    by_cases first : front.filterMap BacktraceNote.diagnostic? = []
    · rw [latestPlace_of_eq_nil first, latestPlace_of_eq_nil first]
      constructor
      · rintro repeats ⟨-, plain, same, apart⟩
        exact apart (repeats plain ⟨plain, same⟩)
      · intro no_exception plain same
        by_contra apart
        exact no_exception ⟨first, plain, same.2, apart⟩
    · rw [latestPlace_congr first site (renderer.map.levelsOf current.diagnostic.location).leaf]
      exact iff_of_true (fun _ same ↦ same.2) fun exception ↦ first exception.1

/-- A macro without parameters that is used in the line below. -/
def bodyMap : SourceMap where
  files := [{ name := "a.c".toList, text := "#define M x\nM\n".toList }]
  expansions :=
    [{ spelling := .inFile 1 10, start := .inFile 1 12, stop := .inFile 1 12, length := 1 }]

/-- An error in the definition of the macro. -/
def definitionEmission : Emission where
  diagnostic := { severity := .error, message := "d".toList, location := .inFile 1 10 }

/-- An error in the expansion of the macro. -/
def expansionEmission : Emission where
  diagnostic := { severity := .error, message := "m".toList, location := .ofExpansion 1 }

/-- An error in a macro follows one at its definition: the note on the macro is shown without its
snippet, although the snippet in front of the note is that of the line below. -/
theorem note_snippet_removed_by_error_before :
    let renderer : Renderer := { map := bodyMap }
    let note := expansionNote (.inFile 1 10) "M".toList []
    let remembered := Memory.after {} (renderer.emissions {} [definitionEmission])
    let headed := remembered.after (renderer.heading remembered expansionEmission.diagnostic)
    renderer.macroNotes expansionEmission.diagnostic = [.expansion (.inFile 1 10) "M".toList []] ∧
      (Snippet.place? bodyMap (.inFile 1 10)).isSome = true ∧
      renderer.leafSnippet headed ⟨note, false⟩ = [] ∧
      renderer.consideredBefore expansionEmission.diagnostic [] = .inFile 1 12 := by
  intro renderer note remembered headed
  have notes : renderer.macroNotes expansionEmission.diagnostic =
      [] ++ [.expansion (.inFile 1 10) "M".toList []] := by decide +kernel
  have available : (Snippet.place? bodyMap (.inFile 1 10)).isSome = true := by decide +kernel
  obtain ⟨-, before, withheld, -⟩ := renderer.note_snippet_withheld_iff rfl {} [definitionEmission]
    expansionEmission notes (by decide) available (List.forall_mem_nil _)
  have nothing (memory : Memory) :
      memory.after (renderer.noteEvents renderer.nestedNote [] memory) = memory := rfl
  rw [nothing] at withheld
  refine ⟨notes, available, withheld.mpr ⟨rfl, ?_⟩, by decide +kernel⟩
  show Location.inFile 1 10 = renderer.map.expansionSite remembered.lastLocation
  rw [before [] definitionEmission rfl]
  rfl

end Renderer

end Caret
