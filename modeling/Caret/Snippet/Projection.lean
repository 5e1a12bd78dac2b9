import Caret.Source.SourceMap

/-!
# Ranges on a line

The part of a source range that lies on one line of a file, as a span of columns. The ends of
the range are taken at the places where the macros around them were used. A token range reaches
to the end of its last token and neither starts nor ends with a blank; a range from an earlier
line covers the line from its start, and one to a later line to its end.
-/

namespace Caret.Snippet

/-- Whether a code point is trimmed off a token range. -/
def isPadding (c : Char) : Bool := c = ' ' || c = '\t'

/-- The ends of a range at the places where the outermost macros were used. A range that is a
single place of a macro covers the whole use of it. -/
def siteEnds (map : SourceMap) (range : SourceRange) : Location × Location :=
  let start := map.expansionSite range.start
  let stop := map.expansionSite range.stop
  if start = stop ∧ range.stop.isMacro then (start, map.expansionStop range.stop)
  else (start, stop)

/-- The first column from `column` on, counted from zero, that holds no padding. -/
def skipPadding (line : Text) (column : Int) : Int :=
  column + ((line.drop column.toNat).takeWhile isPadding).length

/-- The end of the columns up to `column` without the padding in front of it. -/
def dropPadding (line : Text) (column : Int) : Int :=
  column - ((line.take column.toNat).reverse.takeWhile isPadding).length

/-- The columns of a line of a file that a range covers; nothing if the range is invalid, is
in another file, misses the line or is inverted. -/
def project? (map : SourceMap) (range : SourceRange) (line : Int) (file : Int) (text : Text) :
    Option ColumnRange :=
  if !range.isValid then none
  else
    let (start, stop) := siteEnds map range
    let startSite := map.expansionSite start
    let stopSite := map.expansionSite stop
    if startSite.file ≠ file ∨ stopSite.file ≠ file then none
    else
      let startLine := map.lineNumber startSite.file startSite.offset
      let stopLine := map.lineNumber stopSite.file stopSite.offset
      if startLine > line ∨ stopLine < line then none
      else
        let width : Int := text.length
        let first :=
          if startLine = line then
            max (map.columnNumber startSite.file startSite.offset - 1) 0
          else 0
        let last :=
          if stopLine = line then
            let column := map.columnNumber stopSite.file stopSite.offset
            if column = 0 then width
            else column - 1 + (if range.isToken then (map.tokenLength stop : Int) else 0)
          else width
        let first := if range.isToken then skipPadding text first else first
        let last := if range.isToken then dropPadding text (min last width) else last
        if last < first then none else some ⟨first + 1, last + 1⟩

end Caret.Snippet
