import Caret.Proofs.Report.Course
import Caret.Proofs.Report.IncludeChain
import Caret.Proofs.Source.ExpansionWalks
import Mathlib.Data.List.Forall2
import Mathlib.Data.List.Nodup
import Mathlib.Logic.Relation
import Mathlib.Tactic.ByContra

/-!
# Cycles of includes

Following the places that files were included from leads from place to place, until a place is
invalid or has no position, or in a circle. The walk along an include stack takes every place once.
It warns of a cycle where it ends at a valid place: one that it has passed before, and also one that
has no position, from which no include leads anywhere.
-/

namespace Caret

open Relation (ReflTransGen TransGen)

namespace SourceMap

variable {map : SourceMap}

/-- The file of a valid place was included from the next place. -/
def IncludedFrom (map : SourceMap) (place next : Location) : Prop :=
  place.isValid = true ∧ ∃ position, map.presumed? place = some position ∧
    position.includedFrom = next

/-- A place is followed by one place at most. -/
theorem IncludedFrom.unique {place next other : Location} (h : map.IncludedFrom place next)
    (h' : map.IncludedFrom place other) : next = other := by
  obtain ⟨-, position, found, rfl⟩ := h
  obtain ⟨-, again, same, rfl⟩ := h'
  cases found.symm.trans same
  rfl

/-- Following includes from a place comes back to a place. -/
def IncludesReturn (map : SourceMap) (root : Location) : Prop :=
  ∃ place, ReflTransGen map.IncludedFrom root place ∧ TransGen map.IncludedFrom place place

/-- Following includes from a place comes to a valid one that has no position. -/
def IncludesBreakOff (map : SourceMap) (root : Location) : Prop :=
  ∃ place, ReflTransGen map.IncludedFrom root place ∧ place.isValid = true ∧
    map.presumed? place = none

private theorem transGen_of_reaches {place last : Location}
    (cycle : TransGen map.IncludedFrom place place)
    (reaches : ReflTransGen map.IncludedFrom place last) : TransGen map.IncludedFrom last last := by
  induction reaches with
  | refl => exact cycle
  | tail _ step ih =>
    obtain ⟨next, first, rest⟩ := TransGen.head'_iff.mp ih
    obtain rfl := step.unique first
    exact TransGen.tail' rest step

/-- Includes lead no further from a place. -/
def IncludesStop (map : SourceMap) (place : Location) : Prop :=
  ∀ next, ¬ map.IncludedFrom place next

private theorem includesStop_of_not_isValid {place : Location} (h : place.isValid = false) :
    map.IncludesStop place := by
  rintro next ⟨valid, -⟩
  exact Bool.false_ne_true (h.symm.trans valid)

/-- Includes stop at a place without a position. -/
theorem includesStop_of_presumed?_eq_none {place : Location} (h : map.presumed? place = none) :
    map.IncludesStop place := by
  rintro next ⟨-, position, found, -⟩
  cases h.symm.trans found

/-- Includes lead from where they stop to no other place. -/
theorem IncludesStop.eq_of_reaches {place last : Location} (stop : map.IncludesStop place)
    (reaches : ReflTransGen map.IncludedFrom place last) : place = last := by
  rcases ReflTransGen.cases_head reaches with same | ⟨next, first, -⟩
  · exact same
  · exact absurd first (stop next)

/-- From a place, includes lead to one of two places by way of the other. -/
theorem reaches_or_reaches {root first second : Location}
    (behind : ReflTransGen map.IncludedFrom root first)
    (behind' : ReflTransGen map.IncludedFrom root second) :
    ReflTransGen map.IncludedFrom first second ∨ ReflTransGen map.IncludedFrom second first :=
  ReflTransGen.total_of_right_unique (fun _ _ _ ↦ IncludedFrom.unique) behind behind'

/-- Where includes stop, no cycle is reached before. -/
theorem IncludesStop.not_includesReturn {root last : Location} (stop : map.IncludesStop last)
    (reaches : ReflTransGen map.IncludedFrom root last) : ¬ map.IncludesReturn root := by
  rintro ⟨place, behind, cycle⟩
  have circular : TransGen map.IncludedFrom last last := by
    rcases reaches_or_reaches behind reaches with onward | back
    · exact transGen_of_reaches cycle onward
    · exact stop.eq_of_reaches back ▸ cycle
  obtain ⟨next, first, -⟩ := TransGen.head'_iff.mp circular
  exact stop next first

/-- Includes do not both come back and break off. -/
theorem IncludesBreakOff.not_includesReturn {root : Location} (h : map.IncludesBreakOff root) :
    ¬ map.IncludesReturn root := by
  obtain ⟨place, reaches, -, unknown⟩ := h
  exact (includesStop_of_presumed?_eq_none unknown).not_includesReturn reaches

/-! ## Paths -/

/-- The places that following includes passes on its way from one place to another. -/
inductive IncludePath (map : SourceMap) : Location → List Location → Location → Prop
  | here (loc : Location) : map.IncludePath loc [] loc
  | onward {loc next last : Location} {passed : List Location} (step : map.IncludedFrom loc next)
      (rest : map.IncludePath next passed last) : map.IncludePath loc (loc :: passed) last

/-- A path leads to its last place. -/
theorem IncludePath.reaches {root last : Location} {passed : List Location}
    (h : map.IncludePath root passed last) : ReflTransGen map.IncludedFrom root last := by
  induction h with
  | here loc => exact .refl
  | onward step _ ih => exact .head step ih

/-- A path leads to each place that it passes, and from there on to its last place. -/
theorem IncludePath.through {root last place : Location} {passed : List Location}
    (h : map.IncludePath root passed last) (member : place ∈ passed) :
    ReflTransGen map.IncludedFrom root place ∧ TransGen map.IncludedFrom place last := by
  induction h with
  | here loc => cases member
  | onward step rest ih =>
    rcases List.mem_cons.mp member with rfl | later
    · exact ⟨.refl, .head' step rest.reaches⟩
    · obtain ⟨before, behind⟩ := ih later
      exact ⟨.head step before, behind⟩

/-- A walk comes to a place where it has nothing to do: one that is invalid, that it has passed, or
that has no position. -/
def EndsWalk (map : SourceMap) (passed : List Location) (last : Location) : Prop :=
  last.isValid = false ∨ last ∈ passed ∨ map.presumed? last = none

/-- Where a walk ends at a valid place, includes come back to a place or break off. -/
theorem IncludePath.isValid_last_iff {root last : Location} {passed : List Location}
    (path : map.IncludePath root passed last) (ends : map.EndsWalk passed last) :
    last.isValid = true ↔ map.IncludesReturn root ∨ map.IncludesBreakOff root := by
  constructor
  · intro valid
    rcases ends with invalid | member | unknown
    · exact absurd (invalid.symm.trans valid) Bool.false_ne_true
    · exact Or.inl ⟨last, path.reaches, (path.through member).2⟩
    · exact Or.inr ⟨last, path.reaches, valid, unknown⟩
  · intro warned
    by_contra invalid
    have stop : map.IncludesStop last := includesStop_of_not_isValid (by simpa using invalid)
    rcases warned with returns | ⟨place, reaches, valid, unknown⟩
    · exact stop.not_includesReturn path.reaches returns
    · have same : last = place := by
        rcases reaches_or_reaches path.reaches reaches with onward | back
        · exact stop.eq_of_reaches onward
        · exact ((includesStop_of_presumed?_eq_none unknown).eq_of_reaches back).symm
      exact invalid (same ▸ valid)

/-! ## The walk -/

private theorem chase_startStep_settled (origin : Location) {bound : Nat} {visited : List Location}
    {loc : Location} (nodup : visited.Nodup) (among : visited ⊆ map.startPlaces origin)
    (place : loc ∈ map.startPlaces origin)
    (enough : (map.startPlaces origin).length < bound + visited.length) (more : Nat) :
    chase map.startStep (bound + more) visited loc = chase map.startStep bound visited loc := by
  obtain ⟨count, last, walk, steps⟩ :=
    exists_follows (fun _ ↦ startStep_mem_startPlaces) nodup among place
  rw [walk.chase_eq (by omega), walk.chase_eq (by omega)]

end SourceMap

open SourceMap

/-- The walk along an include stack takes a path on which no place comes twice, to a place that ends
it; each frame is the position of a place passed. -/
theorem Renderer.exists_includePath {map : SourceMap} {bound : Nat} {visited : List Location}
    {loc : Location} (nodup : visited.Nodup) (among : visited ⊆ map.includers)
    (place : loc ∈ map.includers) (enough : map.files.length < bound + visited.length) :
    ∃ passed last, map.IncludePath loc passed last ∧ (passed ++ visited).Nodup ∧
      passed ++ visited ⊆ map.includers ∧ map.EndsWalk (passed ++ visited) last ∧
      List.Forall₂ (fun place frame ↦ map.presumed? place = some frame) passed
        (includeFrames map bound visited loc).1 ∧
      (includeFrames map bound visited loc).2 = if last.isValid then some last else none := by
  induction bound generalizing visited loc with
  | zero =>
    have reached := nodup.length_le_of_subset among
    rw [includers, List.length_map] at reached
    omega
  | succ bound ih =>
    rw [includeFrames]
    cases valid : loc.isValid with
    | false =>
      exact ⟨[], loc, .here loc, nodup, among, Or.inl valid, .nil, by rw [valid]; rfl⟩
    | true =>
      by_cases met : loc ∈ visited
      · rw [List.contains_iff_mem.mpr met]
        exact ⟨[], loc, .here loc, nodup, among, Or.inr (Or.inl met), .nil, by rw [valid]; rfl⟩
      · rw [contains_eq_false met]
        cases found : map.presumed? loc with
        | none =>
          exact ⟨[], loc, .here loc, nodup, among, Or.inr (Or.inr found), .nil, by rw [valid]; rfl⟩
        | some position =>
          obtain ⟨passed, last, path, distinct, inside, ends, frames, stop⟩ :=
            ih (List.nodup_cons.mpr ⟨met, nodup⟩) (List.cons_subset.mpr ⟨place, among⟩)
              (includedFrom_mem_includers found) (by rw [List.length_cons]; omega)
          refine ⟨loc :: passed, last, .onward ⟨valid, position, found, rfl⟩ path, ?_, ?_, ?_,
            .cons found frames, stop⟩
          · exact List.nodup_middle.mp distinct
          · exact List.Subset.trans List.perm_middle.symm.subset inside
          · exact ends.imp_right (Or.imp_left (List.perm_middle.subset ·))

namespace Renderer

variable (renderer : Renderer)

/-- A message has its include stack in front of it if the stack is another one than before, and for
a note only if notes have include stacks. -/
def ShowsStack (memory : Memory) (diagnostic : Diagnostic) (position : Presumed) : Prop :=
  renderer.positionOf? diagnostic = some position ∧ position.includedFrom ≠ memory.lastInclude ∧
    (renderer.options.showNoteIncludeStack = true ∨ diagnostic.severity ≠ .note)

variable {renderer}

/-- The stack that is shown in front of a message is that of the place its file was included
from. -/
theorem ShowsStack.stackEvents_eq {memory : Memory} {diagnostic : Diagnostic} {position : Presumed}
    (h : renderer.ShowsStack memory diagnostic position) :
    renderer.stackEvents memory diagnostic =
      .included position.includedFrom :: renderer.includeStack position.includedFrom := by
  obtain ⟨located, changed, shown⟩ := h
  have visible : ¬ (!renderer.options.showNoteIncludeStack ∧ diagnostic.severity = .note) := by
    rintro ⟨hidden, note⟩
    rcases shown with shows | other
    · rw [shows] at hidden
      exact Bool.false_ne_true hidden
    · exact other note
  rw [stackEvents, located]
  dsimp only
  rw [includeEvents, if_neg changed, if_neg visible]

/-- The warning about a cycle of includes at a place, unless the place is invalid. -/
def cycleWarning (last : Location) : List Event :=
  if last.isValid then [.warning (.includeCycle last)] else []

/-- A line about a position is no warning. -/
theorem positioned_ne_warning (presumed : Option Presumed) (text : Text)
    (warning : SourceWarning) : renderer.positioned presumed text ≠ .warning warning := by
  unfold positioned
  split <;> exact Event.noConfusion

private theorem exists_warning_mem_iff {root last : Location} {frames : List Presumed}
    {diagnostic : Diagnostic} :
    (∃ place, .warning (.includeCycle place) ∈ .included root :: cycleWarning last ++
      frames.map (fun frame ↦ renderer.positioned (some frame) (renderer.frameLine frame)) ++
      [renderer.messageEvent diagnostic]) ↔ last.isValid = true := by
  have message (place : Location) :
      Event.warning (.includeCycle place) ≠ renderer.messageEvent diagnostic :=
    (positioned_ne_warning _ _ _).symm
  unfold cycleWarning
  cases last.isValid <;> simp [positioned_ne_warning, message]

variable (renderer)

/-- Where an include stack is shown, the walk along it ends: it takes a path on which no place comes
twice, so that there are no more steps than files and no bound is reached, to a place that is
invalid, that it has passed or that has no position. What is shown is one line for each place
passed, the outermost first. A cycle is warned of exactly if following includes comes back to a
place or breaks off; it is warned of only for a cycle, as it says, exactly if includes do not break
off. -/
theorem include_cycle_warned_iff {memory : Memory} {diagnostic : Diagnostic} {position : Presumed}
    (stack : renderer.ShowsStack memory diagnostic position) :
    let map := renderer.map
    let root := position.includedFrom
    let warned := ∃ place, .warning (.includeCycle place) ∈ renderer.heading memory diagnostic
    (∃ passed last frames, map.IncludePath root passed last ∧ passed.Nodup ∧
      passed.length ≤ map.files.length ∧ map.EndsWalk passed last ∧
      List.Forall₂ (fun place frame ↦ map.presumed? place = some frame) passed frames ∧
      renderer.heading memory diagnostic =
        .included root :: cycleWarning last ++
          frames.reverse.map (fun frame ↦
            renderer.positioned (some frame) (renderer.frameLine frame)) ++
          [renderer.messageEvent diagnostic]) ∧
    (∀ place more, chase map.startStep (map.walkBound + more) [] place = map.expansionSite place) ∧
    (warned ↔ map.IncludesReturn root ∨ map.IncludesBreakOff root) ∧
    ((warned ↔ map.IncludesReturn root) ↔ ¬ map.IncludesBreakOff root) := by
  intro map root warned
  have included : root ∈ map.includers :=
    includedFrom_mem_includers (presumed?_of_positionOf? stack.1)
  have enough : map.files.length < map.files.length + 2 + ([] : List Location).length := by
    rw [List.length_nil]
    omega
  obtain ⟨passed, last, path, distinct, inside, ends, frames, stop⟩ :=
    exists_includePath List.nodup_nil (List.nil_subset _) included enough
  rw [List.append_nil] at distinct inside ends
  have shown : renderer.heading memory diagnostic = .included root :: cycleWarning last ++
      (includeFrames map (map.files.length + 2) [] root).1.reverse.map (fun frame ↦
        renderer.positioned (some frame) (renderer.frameLine frame)) ++
      [renderer.messageEvent diagnostic] := by
    have warnings : ((if last.isValid then some last else none).map fun place ↦
        Event.warning (.includeCycle place)).toList = cycleWarning last := by
      unfold cycleWarning
      cases last.isValid <;> rfl
    rw [heading, stack.stackEvents_eq, includeStack, ← warnings, ← stop]
    rfl
  have warned_iff : warned ↔ map.IncludesReturn root ∨ map.IncludesBreakOff root := by
    show (∃ place, _ ∈ renderer.heading memory diagnostic) ↔ _
    rw [shown, exists_warning_mem_iff]
    exact path.isValid_last_iff ends
  refine ⟨⟨passed, last, _, path, distinct, ?steps, ends, frames, shown⟩, ?lookups, warned_iff,
    ?cycles⟩
  case steps =>
    have few := distinct.length_le_of_subset inside
    rwa [includers, List.length_map] at few
  case lookups =>
    intro place more
    refine chase_startStep_settled place List.nodup_nil (List.nil_subset _) List.mem_cons_self ?_
      more
    rw [startPlaces, walkBound, List.length_cons, List.length_map, List.length_nil]
    omega
  case cycles =>
    rw [warned_iff]
    constructor
    · intro only_cycles broken
      exact broken.not_includesReturn (only_cycles.mp (Or.inr broken))
    · intro whole
      exact or_iff_left whole

/-- A file that was included from a file that is not known. -/
def strayMap : SourceMap where
  files := [{ name := "a.c".toList, text := "x\n".toList, includedFrom := .inFile 9 0 }]

/-- An error in the file. -/
def strayDiagnostic : Diagnostic where
  severity := .error
  message := "m".toList
  location := .inFile 1 0

/-- Before an error in a file that was included from an unknown place a cycle is warned of, although
following includes comes back to no place. -/
theorem include_cycle_warned_at_stray_include :
    let renderer : Renderer := { map := strayMap }
    renderer.ShowsStack {} strayDiagnostic ⟨1, "a.c".toList, 1, 1, .inFile 9 0⟩ ∧
      (∃ place, .warning (.includeCycle place) ∈ renderer.heading {} strayDiagnostic) ∧
      ¬ strayMap.IncludesReturn (.inFile 9 0) := by
  intro renderer
  have stack : renderer.ShowsStack {} strayDiagnostic ⟨1, "a.c".toList, 1, 1, .inFile 9 0⟩ :=
    ⟨by decide +kernel, by decide, Or.inl rfl⟩
  have broken : strayMap.IncludesBreakOff (.inFile 9 0) :=
    ⟨_, .refl, rfl, by decide +kernel⟩
  obtain ⟨-, -, warned, only_cycles⟩ := renderer.include_cycle_warned_iff stack
  have warning := warned.mpr (Or.inr broken)
  exact ⟨stack, warning, fun returns ↦
    only_cycles.mp (iff_of_true warning returns) broken⟩

end Renderer

end Caret
