import Caret.Source.LineTable
import Caret.Source.Location
import Caret.Source.Token

/-!
# Source maps

A source map holds the files and the macro expansions that locations refer to, both numbered
from one in the order in which they were added. Through it a location is resolved to the place
where its code points were written (its spelling), to the place where the outermost macro was
used (its expansion site), and to the position that is presented to the reader.

Expansions may refer to each other in any way, and a walk over them stops at a location that it has
visited before. A walk over the starts or the ends of what was replaced always stops. One over
spellings keeps its distance in an expansion: where it comes back to an expansion at another place
each time, it would go on for ever. The bound of a source is enough for every walk that stops, and
cuts off those that do not.
-/

namespace Caret

/-- A line directive: the line after `line` is presented as `presented`, and from there on the
file under the name given, if any. -/
structure LineDirective where
  line : Int
  presented : Int
  filename : Option Text := none
  deriving DecidableEq, Repr

/-- A file: its name, its text, the place it was included from, and its line directives in the
order of their lines. -/
structure SourceFile where
  name : Text
  text : Text
  includedFrom : Location := Location.invalid
  directives : List LineDirective := []
  deriving DecidableEq, Repr

/-- An expansion: where its code points were written, and the range it replaced. The expansion
of a macro argument was written at the use of the macro, any other in its definition. -/
structure Expansion where
  spelling : Location
  start : Location
  stop : Location
  length : Int := 0
  isArgument : Bool := false
  deriving DecidableEq, Repr

/-- A location as it is presented: file name and line follow the line directives. -/
structure Presumed where
  file : Int
  filename : Text
  line : Int
  column : Int
  includedFrom : Location
  deriving DecidableEq, Repr

/-- The files and expansions that locations refer to. -/
structure SourceMap where
  files : List SourceFile := []
  expansions : List Expansion := []
  deriving DecidableEq, Repr

/-- Puts a directive behind all those of the same and of earlier lines. -/
def LineDirective.insert (directive : LineDirective) : List LineDirective → List LineDirective
  | [] => [directive]
  | other :: rest =>
    if directive.line < other.line then directive :: other :: rest
    else other :: directive.insert rest

namespace SourceMap

/-- The source map without files and expansions. -/
def empty : SourceMap := {}

/-- The file of a number. -/
def file? (map : SourceMap) (file : Int) : Option SourceFile :=
  if file < 1 then none else map.files[(file - 1).toNat]?

/-- The expansion that a location is in. -/
def expansionOf? (map : SourceMap) (loc : Location) : Option Expansion :=
  match loc.expansion with
  | none => none
  | some number => if number < 1 then none else map.expansions[(number - 1).toNat]?

/-! ## Adding files and expansions -/

/-- Adds a file and gives its number. -/
def addFile (map : SourceMap) (file : SourceFile) : SourceMap × Int :=
  ({ map with files := map.files ++ [file] }, map.files.length + 1)

/-- Adds an expansion and gives the location of its first code point. -/
def addExpansion (map : SourceMap) (expansion : Expansion) : SourceMap × Location :=
  ({ map with expansions := map.expansions ++ [expansion] },
    Location.ofExpansion (map.expansions.length + 1))

/-- The number of the first file with a name. -/
def findFile? (map : SourceMap) (name : Text) : Option Int :=
  (map.files.findIdx? fun file ↦ file.name == name).map fun index ↦ (index : Int) + 1

/-- Adds a line directive to a file, unless there is no such file. -/
def addDirective? (map : SourceMap) (file : Int) (directive : LineDirective) :
    Option SourceMap :=
  (map.file? file).map fun entry ↦
    { map with
      files := map.files.set (file - 1).toNat
        { entry with directives := directive.insert entry.directives } }

/-- A file that was added has the number that it was given. -/
theorem file?_addFile (map : SourceMap) (file : SourceFile) :
    (map.addFile file).1.file? (map.addFile file).2 = some file := by
  have h : ¬ ((map.files.length : Int) + 1 < 1) := by omega
  simp [addFile, file?, h]

/-- Adding a file leaves the files before it as they are. -/
theorem file?_addFile_of_some {map : SourceMap} {number : Int} {old : SourceFile}
    (h : map.file? number = some old) (file : SourceFile) :
    (map.addFile file).1.file? number = some old := by
  simp only [file?, addFile] at h ⊢
  split at h
  · cases h
  · next hn =>
    rw [if_neg hn, List.getElem?_append_left (List.getElem?_eq_some_iff.1 h).1]
    exact h

/-- The location of an added expansion is in it. -/
theorem expansionOf?_addExpansion (map : SourceMap) (expansion : Expansion) :
    (map.addExpansion expansion).1.expansionOf? (map.addExpansion expansion).2 =
      some expansion := by
  have h : ¬ ((map.expansions.length : Int) + 1 < 1) := by omega
  simp [addExpansion, expansionOf?, Location.ofExpansion, h]

/-- Adding an expansion leaves the expansions before it as they are. -/
theorem expansionOf?_addExpansion_of_some {map : SourceMap} {loc : Location} {old : Expansion}
    (h : map.expansionOf? loc = some old) (expansion : Expansion) :
    (map.addExpansion expansion).1.expansionOf? loc = some old := by
  simp only [expansionOf?, addExpansion] at h ⊢
  split at h
  · cases h
  · split at h
    · cases h
    · next hn =>
      simp only [if_neg hn]
      rw [List.getElem?_append_left (List.getElem?_eq_some_iff.1 h).1]
      exact h

/-! ## Lines and columns -/

/-- The location of a line and column of a file; columns behind the line are moved to its end,
and the location is invalid if there is no such file or line. -/
def locationAt (map : SourceMap) (file line column : Int) : Location :=
  match (map.file? file).bind fun entry ↦ Source.offsetAt? entry.text line column with
  | some offset => Location.inFile file offset
  | none => Location.invalid

/-- The line of an offset in a file; zero if unknown. -/
def lineNumber (map : SourceMap) (file offset : Int) : Int :=
  match map.file? file with
  | some entry => Source.lineNumber entry.text offset
  | none => 0

/-- The column of an offset in a file; zero if unknown. -/
def columnNumber (map : SourceMap) (file offset : Int) : Int :=
  match map.file? file with
  | some entry => Source.columnNumber entry.text offset
  | none => 0

/-- The text of a line of a file. -/
def lineText? (map : SourceMap) (file line : Int) : Option Text :=
  (map.file? file).bind fun entry ↦ Source.lineText? entry.text line

/-! ## Resolving locations -/

/-- Whether a location is in the expansion of a macro argument. -/
def isArgument (map : SourceMap) (loc : Location) : Bool :=
  match map.expansionOf? loc with
  | some expansion => expansion.isArgument
  | none => false

/-- Where the code point at a location was written: one step; a location that is in no known
expansion stays. -/
def spellingStep (map : SourceMap) (loc : Location) : Location :=
  match map.expansionOf? loc with
  | some expansion => expansion.spelling.move loc.offset
  | none => loc

/-- The start of the range that the expansion of a location replaced: one step. -/
def startStep (map : SourceMap) (loc : Location) : Location :=
  match map.expansionOf? loc with
  | some expansion => expansion.start
  | none => loc

/-- The end of the range that the expansion of a location replaced: one step. -/
def stopStep (map : SourceMap) (loc : Location) : Location :=
  match map.expansionOf? loc with
  | some expansion => expansion.stop
  | none => loc

/-- Follows `step` from macro location to macro location, until it leaves the expansions or
comes to a location visited before; at most `bound` steps. -/
def chase (step : Location → Location) : Nat → List Location → Location → Location
  | 0, _, loc => loc
  | bound + 1, visited, loc =>
    if loc.isMacro && !visited.contains loc then
      chase step bound (loc :: visited) (step loc)
    else loc

/-- As many steps as any walk takes that stops: one for each expansion, one for the location the
walk starts at and one for an expansion that is not known. -/
def walkBound (map : SourceMap) : Nat := map.expansions.length + 2

/-- The place where the code point at a location was written; some place on the way if the walk
there never stops. -/
def spelling (map : SourceMap) (loc : Location) : Location :=
  chase map.spellingStep map.walkBound [] loc

/-- The place where the outermost macro around a location was used. -/
def expansionSite (map : SourceMap) (loc : Location) : Location :=
  chase map.startStep map.walkBound [] loc

/-- The end of the range that the outermost expansion around a location replaced. -/
def expansionStop (map : SourceMap) (loc : Location) : Location :=
  chase map.stopStep map.walkBound [] loc

/-- The length of the token written at a location. -/
def tokenLength (map : SourceMap) (loc : Location) : Nat :=
  let place := map.spelling loc
  match map.file? place.file with
  | some entry => Source.Token.lengthAt entry.text place.offset
  | none => 0

/-- The position of a line under the directives in front of it. -/
def presumedLine (entry : SourceFile) (line : Int) : Text × Int :=
  let before := entry.directives.takeWhile (·.line < line)
  match before.getLast? with
  | none => (entry.name, line)
  | some directive =>
    ((before.reverse.findSome? (·.filename)).getD entry.name,
      directive.presented + (line - directive.line - 1))

/-- The position of a location as it is presented, unless it has none. -/
def presumed? (map : SourceMap) (loc : Location) : Option Presumed :=
  let site := map.expansionSite loc
  match map.file? site.file with
  | none => none
  | some entry =>
    let line := map.lineNumber site.file site.offset
    if line = 0 then none
    else
      let shown := presumedLine entry line
      some
        { file := site.file
          filename := shown.1
          line := shown.2
          column := map.columnNumber site.file site.offset
          includedFrom := entry.includedFrom }

/-- A file location is its own spelling. -/
theorem spelling_of_not_isMacro (map : SourceMap) {loc : Location} (h : loc.isMacro = false) :
    map.spelling loc = loc := by
  simp [spelling, walkBound, chase, h]

/-- A file location is its own expansion site. -/
theorem expansionSite_of_not_isMacro (map : SourceMap) {loc : Location}
    (h : loc.isMacro = false) : map.expansionSite loc = loc := by
  simp [expansionSite, walkBound, chase, h]

end SourceMap

end Caret
