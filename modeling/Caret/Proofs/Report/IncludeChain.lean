import Caret.Proofs.Report.Includes

/-!
# Include chains

The include chain of a place is the position of that place, the position that its file was
included from, and so on, until a place is invalid, has no position or was met before. The walk
along an include stack has a bound, but it never comes to it: the places it visits are different,
and each of them is the place that some file was included from.
-/

namespace Caret

/-- The positions of an include chain from a place on, the nearest first, when some places have
been met before. -/
inductive SourceMap.IncludeChain (map : SourceMap) :
    List Location → Location → List Presumed → Prop
  | stop {visited : List Location} {loc : Location}
      (ends : loc.isValid = false ∨ loc ∈ visited ∨ map.presumed? loc = none) :
      map.IncludeChain visited loc []
  | frame {visited : List Location} {loc : Location} {position : Presumed}
      {outer : List Presumed} (valid : loc.isValid = true) (fresh : loc ∉ visited)
      (found : map.presumed? loc = some position)
      (further : map.IncludeChain (loc :: visited) position.includedFrom outer) :
      map.IncludeChain visited loc (position :: outer)

namespace SourceMap

variable {map : SourceMap}

/-- A place has one include chain. -/
theorem IncludeChain.unique {visited : List Location} {loc : Location}
    {first second : List Presumed} (h : map.IncludeChain visited loc first)
    (other : map.IncludeChain visited loc second) : first = second := by
  induction h generalizing second with
  | stop ends =>
    cases other with
    | stop _ => rfl
    | frame valid fresh found _ => simp [valid, fresh, found] at ends
  | frame valid fresh found _ ih =>
    cases other with
    | stop ends => simp [valid, fresh, found] at ends
    | frame _ _ again further =>
      rw [found] at again
      cases again
      rw [ih further]

/-- The places that files were included from. -/
def includers (map : SourceMap) : List Location := map.files.map (·.includedFrom)

/-- A position was included from one of these places. -/
theorem includedFrom_mem_includers {loc : Location} {position : Presumed}
    (h : map.presumed? loc = some position) : position.includedFrom ∈ map.includers := by
  unfold presumed? at h
  extract_lets site at h
  split at h
  · cases h
  · next entry stored =>
    split at h
    · cases h
    · cases h
      unfold file? at stored
      split at stored
      · cases stored
      · exact List.mem_map.mpr ⟨entry, List.mem_of_getElem? stored, rfl⟩

end SourceMap

open SourceMap

end Caret
