import Caret.Proofs.Report.Repetition
import Caret.Proofs.Source.LineColumn

/-!
# Where the location of a message and its caret point

The location in front of a message is that of its expansion site, and the caret is shown at the
leaf of its macros. Both are the use of the outermost macro if the message is in macro bodies only.
The leaf of a macro argument is where the argument was written, behind the name of the macro whose
use is the expansion site: there the location in front of the message is not that of the caret.
-/

namespace Caret

/-- A line and column of a file. -/
structure Position where
  file : Int
  line : Int
  column : Int
  deriving DecidableEq, Repr

namespace SourceMap

/-- The position of the expansion site of a location. -/
def positionAt (map : SourceMap) (loc : Location) : Position :=
  let site := map.expansionSite loc
  ⟨site.file, map.lineNumber site.file site.offset, map.columnNumber site.file site.offset⟩

/-- A position as it is presented, unless it has no line. -/
def presentedAt? (map : SourceMap) (position : Position) : Option Presumed :=
  match map.file? position.file with
  | none => none
  | some entry =>
    if position.line = 0 then none
    else
      some
        { file := position.file
          filename := (presumedLine entry position.line).1
          line := (presumedLine entry position.line).2
          column := position.column
          includedFrom := entry.includedFrom }

private theorem positionAt_congr {map : SourceMap} {loc other : Location}
    (same : map.expansionSite loc = map.expansionSite other) :
    map.positionAt loc = map.positionAt other := by
  unfold positionAt
  rw [same]

private theorem presumed?_eq_presentedAt? (map : SourceMap) (loc : Location) :
    map.presumed? loc = map.presentedAt? (map.positionAt loc) := rfl

private theorem positionAt_eq_iff {map : SourceMap} {loc other : Location}
    (known : (map.positionAt other).line ≠ 0) :
    map.positionAt loc = map.positionAt other ↔
      (map.expansionSite loc).file = (map.expansionSite other).file ∧
        (map.expansionSite loc).offset = (map.expansionSite other).offset := by
  constructor
  · intro same
    obtain ⟨file, line, column⟩ := Position.mk.inj same
    rw [file] at line column
    exact ⟨file, eq_of_lineNumber_of_columnNumber known line column⟩
  · rintro ⟨file, offset⟩
    show Position.mk _ _ _ = Position.mk _ _ _
    rw [file, offset]

end SourceMap

/-- The position of a place. -/
def Snippet.Place.position (place : Snippet.Place) : Position :=
  ⟨place.file, place.line, place.column⟩

/-- The place of a snippet is at the position of its location, whose line is known. -/
theorem Snippet.position_of_place? {map : SourceMap} {loc : Location} {place : Snippet.Place}
    (shown : Snippet.place? map loc = some place) :
    place.position = map.positionAt loc ∧ place.line ≠ 0 := by
  rw [Snippet.place?] at shown
  split at shown
  · cases shown
  · next known =>
    obtain ⟨text, -, rfl⟩ := Option.map_eq_some_iff.mp shown
    exact ⟨rfl, known⟩

namespace Renderer

open SourceMap

variable (renderer : Renderer)

/-- The location in front of the message of a diagnostic is that of its expansion site, and its
caret that of the place behind its arguments. They are the same exactly if the expansion site is
the leaf, as it is for a diagnostic in macro bodies only. -/
theorem heading_and_caret_positions {emission : Emission}
    (valid : emission.diagnostic.location.isValid = true)
    (outside : (renderer.leafOf emission).isMacro = false) {place : Snippet.Place}
    (shown : Snippet.place? renderer.map (renderer.leafOf emission) = some place) :
    let map := renderer.map
    let loc := emission.diagnostic.location
    renderer.positionOf? emission.diagnostic = map.presentedAt? (map.positionAt loc) ∧
    place.position = map.positionAt (renderer.leafOf emission) ∧
    place.position = map.positionAt (map.behindArguments loc) ∧
    (map.positionAt loc = place.position ↔
      (map.expansionSite loc).file = (renderer.leafOf emission).file ∧
        (map.expansionSite loc).offset = (renderer.leafOf emission).offset) ∧
    ((∀ level ∈ (map.levelsOf loc).levels, map.isArgument level = false) →
      map.positionAt loc = place.position) := by
  intro map loc
  obtain ⟨placed, line⟩ := Snippet.position_of_place? shown
  have leaf : map.expansionSite (renderer.leafOf emission) = renderer.leafOf emission :=
    map.expansionSite_of_not_isMacro outside
  have known : (map.positionAt (renderer.leafOf emission)).line ≠ 0 := by
    rw [← placed]
    exact line
  have behind : place.position = map.positionAt (map.behindArguments loc) := by
    rw [placed]
    exact positionAt_congr (leaf.trans (map.leaf_levelsOf_eq outside))
  refine ⟨?heading, placed, behind, ?same, ?bodies⟩
  case heading =>
    rw [positionOf?, if_pos valid]
    exact map.presumed?_eq_presentedAt? loc
  case same =>
    rw [placed, positionAt_eq_iff known, leaf]
  case bodies =>
    intro bodies
    rw [behind, behindArguments_eq_self bodies]

/-- A diagnostic in a macro argument has the use of the macro in front of its message, and its caret
below the argument. -/
theorem heading_of_argument_in_front_of_caret :
    let renderer : Renderer := { map := argumentMap }
    let loc := argumentEmission.diagnostic.location
    ∃ place, Snippet.place? renderer.map (renderer.leafOf argumentEmission) = some place ∧
      renderer.map.positionAt loc = ⟨1, 2, 1⟩ ∧ place.position = ⟨1, 2, 3⟩ ∧
      place.position = renderer.map.positionAt (renderer.map.behindArguments loc) ∧
      renderer.map.behindArguments loc = .inFile 1 17 := by
  intro renderer loc
  have outside : (renderer.leafOf argumentEmission).isMacro = false := by decide +kernel
  have shown : Snippet.place? renderer.map (renderer.leafOf argumentEmission) =
      some ⟨1, 2, 3, "M(y)".toList⟩ := by
    decide +kernel
  have behind : renderer.map.behindArguments loc = .inFile 1 17 := by decide +kernel
  have start : renderer.map.positionAt loc = ⟨1, 2, 1⟩ := by decide +kernel
  obtain ⟨-, -, caret, -⟩ := renderer.heading_and_caret_positions rfl outside shown
  exact ⟨_, shown, start, rfl, caret, behind⟩

end Renderer

end Caret
