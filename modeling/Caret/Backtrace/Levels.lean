import Caret.Source.SourceMap

/-!
# Levels of a macro expansion

The macros around a location, from the innermost to the outermost, and the place in a file
where the outermost was used: the leaf. A step outwards leaves an expansion for the place where
its macro was used, and an argument for the place where it was written. A step inwards goes the
other way. Long backtraces leave out levels from the middle.
-/

namespace Caret.SourceMap

/-- The first argument expansion on the way of a location to its spelling, if there is one within a
number of steps. -/
def argumentOf? (map : SourceMap) : Nat → List Location → Location → Option Location
  | 0, _, _ => none
  | bound + 1, visited, loc =>
    if loc.isMacro && !visited.contains loc then
      if map.isArgument loc then some loc
      else map.argumentOf? bound (loc :: visited) (map.spellingStep loc)
    else none

/-- The first argument expansion on the way of a location to its spelling; the location itself
if there is none. -/
def toArgument (map : SourceMap) (loc : Location) : Location :=
  (map.argumentOf? map.walkBound [] loc).getD loc

/-- One level outwards. -/
def callerOf (map : SourceMap) (loc : Location) : Location :=
  if map.isArgument loc then map.spellingStep loc else map.startStep loc

/-- One level inwards. -/
def calleeOf (map : SourceMap) (loc : Location) : Location :=
  if map.isArgument loc then map.startStep loc else map.spellingStep loc

/-- The place in a macro body where the argument around a location was used; a location that is
in no argument stays. -/
def outOfArguments (map : SourceMap) : Nat → List Location → Location → Location
  | 0, _, loc => loc
  | bound + 1, visited, loc =>
    if loc.isMacro && map.isArgument loc && !visited.contains loc then
      map.outOfArguments bound (loc :: visited) (map.startStep loc)
    else loc

/-- The name of the macro around a location: the token at the start of its use, if the walk to where
that was written stops. -/
def macroName (map : SourceMap) (loc : Location) : Text :=
  let body := map.outOfArguments map.walkBound [] loc
  let start := map.spelling (map.startStep body)
  let site := map.expansionSite start
  match map.file? site.file with
  | none => []
  | some entry => (entry.text.drop site.offset.toNat).take (map.tokenLength start)

/-- The macros around a location, and what is left when the walk ends. -/
structure Levels where
  /-- The location in each macro, from the innermost to the outermost. -/
  levels : List Location
  /-- The place where the outermost macro was used. -/
  leaf : Location
  /-- The location at which the walk came back to a place visited before. -/
  cycle : Option Location := none
  deriving DecidableEq, Repr

/-- Walks outwards from a location, level by level. -/
def walkOut (map : SourceMap) : Nat → List Location → Location → Levels
  | 0, _, loc => ⟨[], map.expansionSite loc, none⟩
  | bound + 1, visited, loc =>
    if !loc.isMacro then ⟨[], loc, none⟩
    else if visited.contains loc then ⟨[], map.expansionSite loc, some loc⟩
    else
      let level := map.toArgument loc
      let outer := map.walkOut bound (loc :: visited) (map.callerOf level)
      { outer with levels := level :: outer.levels }

/-- The macros around a location. An expansion may be met twice, from inside and from an
argument, before a walk stops. -/
def levelsOf (map : SourceMap) (loc : Location) : Levels :=
  map.walkOut (2 * map.expansions.length + 3) [] loc

/-- The levels that a backtrace of `depth` levels leaves out under a limit, as a half-open
span: the inner half of the limit, rounded up, and the outer half are kept. -/
def elided (depth limit : Int) : Int × Int :=
  if limit = 0 ∨ depth ≤ limit then (0, 0)
  else (limit.fdiv 2 + limit.fmod 2, depth - limit.fdiv 2)

/-- The levels left out and those that are kept make up the backtrace. -/
theorem elided_of_lt {depth limit : Int} (h₀ : 0 < limit) (h : limit < depth) :
    (elided depth limit).2 - (elided depth limit).1 = depth - limit := by
  have hd : ¬ (limit = 0 ∨ depth ≤ limit) := by omega
  have hm := Int.mul_fdiv_add_fmod limit 2
  simp only [elided, if_neg hd]
  omega

/-- A range one level inwards; ends that have left the macros stay. -/
def rangeInward (map : SourceMap) (range : SourceRange) : SourceRange :=
  { range with
    start := if range.start.isMacro then map.calleeOf range.start else range.start
    stop := if range.stop.isMacro then map.calleeOf range.stop else range.stop }

end Caret.SourceMap
