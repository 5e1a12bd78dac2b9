import Caret.Proofs.Source.Walks
import Caret.Report.Emit

/-!
# Include stacks of an ordered source

A file of an ordered source was included from a line of a file before it. So the walk along an
include stack resolves every place on it and ends at a file that was not included.
-/

namespace Caret

open SourceMap Source

namespace SourceMap

variable {map : SourceMap}

/-- A place on a line of a file has a position, which was included from where its file was. -/
theorem presumed?_inFile {index : Nat} {file : SourceFile} {offset : Int}
    (stored : map.files[index]? = some file) (line : OnLine file.text offset) :
    ∃ position, map.presumed? (.inFile ((index : Int) + 1) offset) = some position ∧
      position.includedFrom = file.includedFrom := by
  have found : map.file? ((index : Int) + 1) = some file := by
    have positive : ¬ ((index : Int) + 1 < 1) := by omega
    have position : ((index : Int) + 1 - 1).toNat = index := by omega
    rw [file?, if_neg positive, position, stored]
  have number : map.lineNumber ((index : Int) + 1) offset ≠ 0 := by
    rw [lineNumber, found]
    exact Int.natCast_ne_zero.mpr line.lineNumber_ne_zero
  have site : map.expansionSite (.inFile ((index : Int) + 1) offset) =
      .inFile ((index : Int) + 1) offset := map.expansionSite_of_not_isMacro rfl
  simp only [presumed?, site]
  rw [Location.inFile, found]
  simp only [if_neg number]
  exact ⟨_, rfl, rfl⟩

/-- A position was included from a place known before its file. -/
theorem Ordered.known_includedFrom (h : map.Ordered) {loc : Location} {position : Presumed}
    (found : map.presumed? loc = some position) :
    ∃ index ≤ map.files.length, position.includedFrom.Known (map.texts.take index) 0 := by
  unfold presumed? at found
  dsimp only at found
  split at found
  · cases found
  · next entry stored =>
    split at found
    · cases found
    · cases found
      unfold file? at stored
      split at stored
      · cases stored
      · exact ⟨_, Nat.le_of_lt (List.getElem?_eq_some_iff.mp stored).1, h.included stored⟩

/-- The place that the file of a location was included from; invalid if there is none. -/
def includer (map : SourceMap) (loc : Location) : Location :=
  match map.presumed? loc with
  | some position => position.includedFrom
  | none => Location.invalid

/-- A known place in a file has a position, and its file was included from a file before it. -/
theorem Ordered.presumed?_of_known (h : map.Ordered) {count : Nat} {loc : Location}
    (known : loc.Known (map.texts.take count) 0) (valid : loc.isValid = true) :
    ∃ position, map.presumed? loc = some position ∧
      ∃ index < count, loc.file = (index : Int) + 1 ∧
        (map.includer loc).Known (map.texts.take index) 0 := by
  cases known with
  | invalid => cases valid
  | inExpansion expansion forward => cases expansion
  | @inFile index text offset file line =>
    rw [List.getElem?_take] at file
    split at file
    · next smaller =>
      rw [texts, List.getElem?_map] at file
      obtain ⟨entry, stored, rfl⟩ := Option.map_eq_some_iff.mp file
      obtain ⟨position, found, same⟩ := presumed?_inFile stored line
      refine ⟨position, found, index, smaller, rfl, ?_⟩
      rw [includer, found]
      dsimp only
      rw [same]
      exact h.included stored
    · cases file

/-- A place that a file was included from is known before some file. -/
def IncludeRoot (map : SourceMap) (loc : Location) : Prop :=
  ∃ count ≤ map.files.length, loc.Known (map.texts.take count) 0

/-- A known place in the first files is in one of them. -/
theorem file_le_of_known {texts : List Text} {count : Nat} {loc : Location}
    (known : loc.Known (texts.take count) 0) : loc.file.toNat ≤ count := by
  cases known with
  | invalid => exact Nat.zero_le _
  | inExpansion expansion forward => cases expansion
  | inFile file line =>
    have inside := (List.getElem?_eq_some_iff.mp file).1
    rw [List.length_take] at inside
    show ((_ : Int) + 1).toNat ≤ count
    omega

/-- A step along an include stack leads to a file before. -/
theorem Ordered.descends_includer (h : map.Ordered) {loc : Location} (root : map.IncludeRoot loc)
    (valid : loc.isValid = true) :
    map.IncludeRoot (map.includer loc) ∧ (map.includer loc).file.toNat < loc.file.toNat := by
  obtain ⟨count, le, known⟩ := root
  obtain ⟨-, -, index, smaller, file, before⟩ := h.presumed?_of_known known valid
  have lower := file_le_of_known before
  exact ⟨⟨index, by omega, before⟩, by omega⟩

end SourceMap

namespace Renderer

variable {map : SourceMap}

/-- A walk along an include stack needs one step for each file up to its start, and one more. -/
theorem includeFrames_eq (h : map.Ordered) {bound : Nat} {visited : List Location}
    {loc : Location} (root : map.IncludeRoot loc)
    (behind : ∀ place ∈ visited, loc.file.toNat < place.file.toNat)
    (enough : loc.file.toNat ≤ bound) :
    includeFrames map (bound + 1) visited loc =
      includeFrames map (loc.file.toNat + 1) [] loc := by
  refine walk_of_descending (fun loc ↦ loc.file.toNat)
    (fun bound visited loc ↦ includeFrames map (bound + 1) visited loc)
    (fun loc outer ↦
      (map.presumed? loc).elim ([], some loc) fun frame ↦ (frame :: outer.1, outer.2))
    (fun loc ↦ h.descends_includer) ?_ ?_ root behind enough
  · intro bound visited loc outside
    rw [includeFrames, includeFrames, outside]
    rfl
  · intro bound visited loc valid fresh
    rw [includeFrames, valid, SourceMap.contains_eq_false fresh, includer]
    cases map.presumed? loc <;> rfl

private theorem includeFrames_of_isValid (h : map.Ordered) {bound : Nat} {loc : Location}
    {frame : Presumed} (root : map.IncludeRoot loc) (valid : loc.isValid = true)
    (found : map.presumed? loc = some frame) (enough : map.files.length ≤ bound) :
    includeFrames map (bound + 2) [] loc =
      (frame :: (includeFrames map (bound + 2) [] frame.includedFrom).1,
        (includeFrames map (bound + 2) [] frame.includedFrom).2) := by
  obtain ⟨before, lower⟩ := h.descends_includer root valid
  have high : loc.file.toNat ≤ map.files.length := by
    obtain ⟨count, le, known⟩ := root
    exact Nat.le_trans (file_le_of_known known) le
  have passed : ∀ place ∈ [loc], (map.includer loc).file.toNat < place.file.toNat := by
    intro place member
    rw [List.mem_singleton.mp member]
    exact lower
  rw [includer, found] at before lower passed
  have outer : includeFrames map (bound + 1) [loc] frame.includedFrom =
      includeFrames map (bound + 2) [] frame.includedFrom :=
    (includeFrames_eq h before passed (by omega)).trans
      (includeFrames_eq h before (List.forall_mem_nil _) (by omega)).symm
  rw [includeFrames, valid, found, ← outer]
  rfl

/-- The walk along an include stack resolves every place and ends at a file that was not
included. -/
theorem includeFrames_stop (h : map.Ordered) {loc : Location} (root : map.IncludeRoot loc) :
    (includeFrames map (map.files.length + 2) [] loc).2 = none := by
  induction high : loc.file.toNat using Nat.strongRecOn generalizing loc with
  | ind below ih =>
    cases valid : loc.isValid with
    | false =>
      rw [includeFrames, valid]
      rfl
    | true =>
      obtain ⟨before, lower⟩ := h.descends_includer root valid
      obtain ⟨count, le, known⟩ := root
      obtain ⟨frame, found, -⟩ := h.presumed?_of_known known valid
      rw [includeFrames_of_isValid h ⟨count, le, known⟩ valid found (Nat.le_refl _)]
      rw [includer, found] at before lower
      exact ih _ (high ▸ lower) before rfl

/-- The walk along an include stack does not end at its bound. -/
theorem includeFrames_settled (h : map.Ordered) {loc : Location} (root : map.IncludeRoot loc)
    (more : Nat) :
    includeFrames map (map.files.length + 2 + more) [] loc =
      includeFrames map (map.files.length + 2) [] loc := by
  have high : loc.file.toNat ≤ map.files.length := by
    obtain ⟨count, le, known⟩ := root
    exact Nat.le_trans (file_le_of_known known) le
  have steps : map.files.length + 2 + more = map.files.length + 1 + more + 1 := by omega
  rw [steps, includeFrames_eq h root (List.forall_mem_nil _) (by omega)]
  exact (includeFrames_eq h root (List.forall_mem_nil _) (by omega)).symm

end Renderer

end Caret
