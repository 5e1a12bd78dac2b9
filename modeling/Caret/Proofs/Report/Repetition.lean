import Caret.Proofs.Backtrace.Levels
import Caret.Proofs.Report.Course

/-!
# Snippets that repeat the one before

A snippet is withheld when it shows again what the diagnostic before has shown. What is compared
with the new leaf is the expansion site of the remembered location. That is the leaf which the
diagnostic before was shown at as long as its macros were left through their bodies; the leaf of
a macro argument is the place where the argument was written, and its expansion site the use of
the macro.
-/

namespace Caret

/-- Only a line that is not known has no snippet. -/
theorem Snippet.render_eq_nil_iff (map : SourceMap) (loc : Location) (ranges : List SourceRange)
    (hints : List FixItHint) (options : Options) :
    Snippet.render map loc ranges hints options = [] ↔ Snippet.place? map loc = none := by
  unfold Snippet.render Snippet.build?
  cases Snippet.place? map loc <;> simp [SnippetLines.format]

/-- Whether an emission has nothing to add to the snippet of the one before, if that was shown
at a place: it is at the same leaf and marks nothing, and it belongs to the same group. -/
def Emission.Repeats (first second : Emission) (shown leaf : Location) : Prop :=
  second.diagnostic.ranges = [] ∧ second.diagnostic.fixits = [] ∧ leaf = shown ∧
    (second.suppress = true ∨ first.diagnostic.severity ≠ .note ∨
      first.diagnostic.severity = second.diagnostic.severity)

namespace Renderer

variable (renderer : Renderer)

/-- The place where the snippet of a diagnostic is shown. -/
def leafOf (emission : Emission) : Location :=
  (renderer.map.levelsOf emission.diagnostic.location).leaf

/-- The text of the line that the snippet of a diagnostic is about is known. -/
def HasLeafLine (emission : Emission) : Prop :=
  emission.diagnostic.location.isValid = true ∧
    (Snippet.place? renderer.map (renderer.leafOf emission)).isSome = true

private theorem isEmpty_marks_iff (diagnostic : Diagnostic) :
    ((markedRanges diagnostic).isEmpty && diagnostic.fixits.isEmpty) = true ↔
      diagnostic.ranges = [] ∧ diagnostic.fixits = [] := by
  rw [Bool.and_eq_true, List.isEmpty_iff, List.isEmpty_iff]
  constructor
  · rintro ⟨marked, fixits⟩
    exact ⟨(List.append_eq_nil_iff.mp marked).1, fixits⟩
  · rintro ⟨ranges, fixits⟩
    refine ⟨?_, fixits⟩
    rw [markedRanges, ranges, fixits]
    rfl

private theorem repeatsSnippet_iff {first second : Emission} {memory : Memory}
    (location : memory.lastLocation = first.diagnostic.location)
    (severity : memory.lastSeverity = some first.diagnostic.severity) :
    renderer.repeatsSnippet memory (renderer.leafOf second) second.diagnostic.severity
        (markedRanges second.diagnostic) second.diagnostic.fixits second.suppress = true ↔
      first.Repeats second (renderer.map.expansionSite first.diagnostic.location)
        (renderer.leafOf second) := by
  have marks := isEmpty_marks_iff second.diagnostic
  rw [Bool.and_eq_true] at marks
  have groups : (second.suppress || memory.lastSeverity != some .note ||
      memory.lastSeverity == some second.diagnostic.severity) = true ↔
        second.suppress = true ∨ first.diagnostic.severity ≠ .note ∨
          first.diagnostic.severity = second.diagnostic.severity := by
    rw [severity, Bool.or_eq_true, Bool.or_eq_true, bne_iff_ne, beq_iff_eq, Option.some_inj,
      ne_eq, Option.some_inj, or_assoc]
  unfold repeatsSnippet Emission.Repeats
  rw [Bool.and_eq_true, Bool.and_eq_true, Bool.and_eq_true, beq_iff_eq, location, groups,
    and_assoc, and_assoc, ← and_assoc (a := (markedRanges second.diagnostic).isEmpty = true), marks]
  constructor
  · rintro ⟨same, ⟨ranges, fixits⟩, group⟩
    exact ⟨ranges, fixits, same, group⟩
  · rintro ⟨ranges, fixits, same, group⟩
    exact ⟨same, ⟨ranges, fixits⟩, group⟩

/-- A snippet is withheld exactly if it repeats what was shown at the expansion site of the
location in memory. -/
theorem leafSnippet_eq_nil_iff (carets : renderer.options.showCarets = true)
    {first second : Emission} (available : renderer.HasLeafLine second) {memory : Memory}
    (location : memory.lastLocation = first.diagnostic.location)
    (severity : memory.lastSeverity = some first.diagnostic.severity) :
    renderer.leafSnippet memory second = [] ↔
      first.Repeats second (renderer.map.expansionSite first.diagnostic.location)
        (renderer.leafOf second) := by
  have shown : Snippet.render renderer.map (renderer.leafOf second)
      (markedRanges second.diagnostic) second.diagnostic.fixits renderer.options ≠ [] := by
    rw [ne_eq, Snippet.render_eq_nil_iff]
    exact Option.isSome_iff_ne_none.mp available.2
  rw [← renderer.repeatsSnippet_iff location severity, leafSnippet, codeContext, carets,
    Bool.not_true, Bool.false_or, leafOf]
  split
  · next same => exact iff_of_true rfl same
  · next different =>
    exact iff_of_false (fun empty ↦ shown (List.map_eq_nil_iff.mp empty)) different

/-- After a run and one more diagnostic, the snippet of the next one is withheld exactly if it
has nothing to mark, its leaf is the expansion site of the location before it, and it belongs to
the same group. The leaf of the diagnostic before may stand for that expansion site exactly if
the two are equal, as they are for a finite chain that leaves no macro argument. -/
theorem leaf_snippet_withheld_iff (carets : renderer.options.showCarets = true)
    (memory : Memory) (before : List Emission) (first : Emission)
    (known : renderer.HasLeafLine first) :
    let remembered := memory.after (renderer.emissions memory (before ++ [first]))
    let site := renderer.map.expansionSite first.diagnostic.location
    (∀ second, renderer.HasLeafLine second →
      renderer.emissions memory (before ++ [first, second]) =
          renderer.emissions memory (before ++ [first]) ++
            (renderer.heading remembered second.diagnostic ++
              (renderer.cycleEvents second.diagnostic.location ++
                renderer.leafSnippet remembered second ++
                renderer.noteEvents renderer.nestedNote (renderer.macroNotes second.diagnostic)
                  (remembered.after (renderer.heading remembered second.diagnostic))) ++
              renderer.closing second.diagnostic) ∧
        (renderer.leafSnippet remembered second = [] ↔
          first.Repeats second site (renderer.leafOf second))) ∧
    ((∀ second, renderer.HasLeafLine second →
        (renderer.leafSnippet remembered second = [] ↔
          first.Repeats second (renderer.leafOf first) (renderer.leafOf second))) ↔
      renderer.leafOf first = site) ∧
    ((renderer.map.levelsOf first.diagnostic.location).cycle = none →
      (∀ level ∈ (renderer.map.levelsOf first.diagnostic.location).levels,
        renderer.map.isArgument level = false) →
      renderer.leafOf first = site) := by
  intro remembered site
  obtain ⟨root, last⟩ := renderer.after_emissions_concat memory before first
  have withheld (second : Emission) (available : renderer.HasLeafLine second) :
      renderer.leafSnippet remembered second = [] ↔
        first.Repeats second site (renderer.leafOf second) :=
    renderer.leafSnippet_eq_nil_iff carets available (congrArg Memory.lastLocation last)
      (congrArg Memory.lastSeverity last)
  refine ⟨fun second available ↦ ⟨?parts, withheld second available⟩, ⟨?same, ?documented⟩,
    ?bodies⟩
  case parts =>
    rw [← renderer.emitWith_of_isValid renderer.nestedNote remembered second available.1,
      ← renderer.emit_eq_emitWith, List.append_cons before first [second], emissions_append]
    simp only [emissions, Memory.andThen, List.append_nil]
    rfl
  case same =>
    intro documented
    -- The diagnostic before, emitted again without marks, has nothing to add.
    let again : Emission :=
      { diagnostic := { first.diagnostic with ranges := [], fixits := [] }, suppress := true }
    have empty := (documented again known).mpr ⟨rfl, rfl, rfl, Or.inl rfl⟩
    exact ((withheld again known).mp empty).2.2.1
  case documented =>
    intro same second available
    rw [same]
    exact withheld second available
  case bodies => exact renderer.map.leaf_levelsOf_of_no_argument

/-- A use of a macro with one argument, and the expansion of that argument. -/
def argumentMap : SourceMap where
  files := [{ name := "a.c".toList, text := "#define M(x) x\nM(y)\n".toList }]
  expansions :=
    [{ spelling := .inFile 1 13, start := .inFile 1 15, stop := .inFile 1 15, length := 1 },
      { spelling := .inFile 1 17, start := .ofExpansion 1, stop := .ofExpansion 1, length := 1,
        isArgument := true }]

/-- A diagnostic in the expansion of the argument, without marks. -/
def argumentEmission : Emission where
  diagnostic := { severity := .error, message := "m".toList, location := .ofExpansion 2 }

/-- A diagnostic in a macro argument is followed by one at the same location; the snippet of its
leaf is shown again. -/
theorem leaf_snippet_of_argument_shown_again :
    let renderer : Renderer := { map := argumentMap }
    let remembered := Memory.after {} (renderer.emissions {} [argumentEmission])
    renderer.leafSnippet remembered argumentEmission ≠ [] ∧
      argumentEmission.Repeats argumentEmission (renderer.leafOf argumentEmission)
        (renderer.leafOf argumentEmission) ∧
      renderer.leafOf argumentEmission = .inFile 1 17 ∧
      renderer.map.expansionSite argumentEmission.diagnostic.location = .inFile 1 15 := by
  intro renderer remembered
  have known : renderer.HasLeafLine argumentEmission := ⟨by decide, by decide +kernel⟩
  have leaf : renderer.leafOf argumentEmission = .inFile 1 17 := by decide +kernel
  have site : renderer.map.expansionSite argumentEmission.diagnostic.location = .inFile 1 15 := by
    decide +kernel
  have withheld := (renderer.leaf_snippet_withheld_iff rfl {} [] argumentEmission known).1
  refine ⟨fun empty ↦ ?_, ⟨rfl, rfl, rfl, Or.inr (Or.inr rfl)⟩, leaf, site⟩
  have same := (((withheld argumentEmission known).2.mp empty).2).2.1
  rw [leaf, site] at same
  cases same

end Renderer

end Caret
