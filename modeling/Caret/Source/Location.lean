/-!
# Source locations

A location is a place in a file or in the text of a macro expansion; the location that is
neither is invalid. A range is a pair of locations, and a column range a span of columns on
one line.
-/

namespace Caret

/-- A place in some source text. A file location has a positive file number and no expansion;
its offset counts code points from the start of the file. A macro location names an expansion;
its offset counts code points from the start of the expanded text. -/
structure Location where
  file : Int := 0
  offset : Int := 0
  expansion : Option Int := none
  deriving DecidableEq, Repr, Inhabited

namespace Location

/-- The location of something without a place. -/
def invalid : Location := {}

/-- A place in a file. -/
def inFile (file offset : Int) : Location := { file, offset }

/-- The first place of an expansion. -/
def ofExpansion (expansion : Int) : Location := { expansion := some expansion }

/-- Whether the location is in a file or in an expansion. -/
def isValid (loc : Location) : Bool := loc.file > 0 || loc.expansion.isSome

/-- Whether the location is directly in a file. -/
def isFile (loc : Location) : Bool := loc.file > 0 && loc.expansion.isNone

/-- Whether the location is in an expansion. -/
def isMacro (loc : Location) : Bool := loc.expansion.isSome

/-- The location `distance` code points further in the same text; an invalid location stays
as it is. -/
def move (loc : Location) (distance : Int) : Location :=
  if loc.isValid then { loc with offset := loc.offset + distance } else loc

/-- A valid location is in a file or in an expansion. -/
theorem isValid_iff (loc : Location) :
    loc.isValid = true ↔ loc.isFile = true ∨ loc.isMacro = true := by
  cases h : loc.expansion <;> simp [isValid, isFile, isMacro, h]

/-- A location that is not valid is not in an expansion. -/
theorem isMacro_of_not_isValid {loc : Location} (h : loc.isValid = false) :
    loc.isMacro = false := by
  cases inside : loc.isMacro with
  | false => rfl
  | true => exact absurd ((isValid_iff loc).mpr (Or.inr inside)) (by simp [h])

/-- Moving keeps the kind of a location. -/
@[simp] theorem isMacro_move (loc : Location) (distance : Int) :
    (loc.move distance).isMacro = loc.isMacro := by
  simp only [move]
  split <;> rfl

/-- A move by nothing leads nowhere else. -/
@[simp] theorem move_zero (loc : Location) : loc.move 0 = loc := by
  simp [move]

/-- Two moves are one. -/
theorem move_move (loc : Location) (a b : Int) : (loc.move a).move b = loc.move (a + b) := by
  by_cases h : loc.isValid
  · have : { loc with offset := loc.offset + a }.isValid = true := h
    simp [move, h, this, Int.add_assoc]
  · simp [move, h]

end Location

/-- A pair of locations. The end of a token range is the start of its last token, the end of
a character range the first place behind it. -/
structure SourceRange where
  start : Location
  stop : Location
  isToken : Bool := true
  deriving DecidableEq, Repr

namespace SourceRange

/-- Whether both ends have a place. -/
def isValid (range : SourceRange) : Bool := range.start.isValid && range.stop.isValid

end SourceRange

/-- A half-open span of columns on one line; columns start at one. A span without columns
stands for a single point. -/
structure ColumnRange where
  start : Int
  stop : Int
  deriving DecidableEq, Repr

namespace ColumnRange

/-- Whether the span holds no column. -/
def isEmpty (range : ColumnRange) : Bool := range.start == range.stop

/-- The part of a span on a line of `width` columns, where the place behind the line counts as
a column; nothing if the span is inverted or off the line. -/
def clip? (range : ColumnRange) (width : Int) : Option ColumnRange :=
  if range.stop < range.start then none
  else
    let start := max range.start 1
    let stop := min range.stop (width + 1)
    if start > width + 1 ∨ stop < start then none else some ⟨start, stop⟩

/-- A clipped span starts on the line or just behind it, and is not inverted. -/
theorem bounds_of_clip? {range clipped : ColumnRange} {width : Int}
    (h : range.clip? width = some clipped) :
    1 ≤ clipped.start ∧ clipped.start ≤ clipped.stop ∧ clipped.stop ≤ width + 1 := by
  simp only [clip?] at h
  split at h
  · cases h
  · split at h
    · cases h
    · cases h
      simp only
      omega

end ColumnRange

end Caret
