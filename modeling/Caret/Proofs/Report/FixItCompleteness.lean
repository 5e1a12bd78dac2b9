import Caret.Proofs.Source.LineColumn
import Caret.Report.FixItLine
import Mathlib.Data.List.Forall2
import Mathlib.Data.List.TakeWhile

/-!
# How many hints a tool is given

The lines of machine-readable hints are those of the hints in front of the first one whose start is
no place of a known file. So a tool is given all hints of a diagnostic or none of them exactly if a
hint is refused beforehand, the first one has no place, or each of them has one.
-/

namespace Caret

/-- A place of a known file: an offset of its text, or the end of the text. -/
def SourceMap.HasPlace (map : SourceMap) (loc : Location) : Prop :=
  ∃ entry ∈ map.file? loc.file, 0 ≤ loc.offset ∧ loc.offset ≤ entry.text.length

instance (map : SourceMap) (loc : Location) : Decidable (map.HasPlace loc) :=
  inferInstanceAs (Decidable (∃ entry ∈ map.file? loc.file, _ ∧ _))

namespace SourceMap

/-- What is not in a macro is presented exactly if it is a place of a known file. -/
theorem isSome_presumed?_iff {map : SourceMap} {loc : Location} (h : loc.isMacro = false) :
    (map.presumed? loc).isSome = true ↔ map.HasPlace loc := by
  unfold presumed? HasPlace
  rw [map.expansionSite_of_not_isMacro h]
  dsimp only
  cases stored : map.file? loc.file with
  | none => simp
  | some entry =>
    have line : map.lineNumber loc.file loc.offset = Source.lineNumber entry.text loc.offset := by
      rw [lineNumber, stored]
    simp only [line, Option.mem_def, Option.some.injEq, exists_eq_left', Int.natCast_eq_zero]
    constructor
    · intro shown
      apply Source.bounds_of_lineNumber_ne_zero
      intro unknown
      rw [if_pos unknown] at shown
      cases shown
    · rintro ⟨forward, inside⟩
      rw [if_neg (Source.lineNumber_ne_zero forward inside)]
      rfl

end SourceMap

variable {map : SourceMap}

/-- A hint for a tool has a line exactly if it starts at a place of a known file. -/
theorem isSome_fixItLine?_iff {hint : FixItHint} (h : hint.isInFile = true) :
    (fixItLine? map hint).isSome = true ↔ map.HasPlace hint.range.start := by
  have outside : hint.range.start.isMacro = false := by
    simp only [FixItHint.isInFile, Bool.and_eq_true, Bool.not_eq_true'] at h
    exact h.1.2
  rw [fixItLine?, Option.isSome_map, SourceMap.isSome_presumed?_iff outside]

/-- The lines are those of the hints in front of the first one without a line. -/
theorem fixItLinesFrom_forall₂ (map : SourceMap) (hints : List FixItHint) :
    List.Forall₂ (fun hint line ↦ fixItLine? map hint = some line)
      (hints.takeWhile fun hint ↦ (fixItLine? map hint).isSome) (fixItLinesFrom map hints) := by
  induction hints with
  | nil => exact .nil
  | cons hint rest ih =>
    rw [List.takeWhile_cons, fixItLinesFrom]
    cases own : fixItLine? map hint with
    | none => exact .nil
    | some line => exact .cons own ih

private theorem fixItLinesFrom_eq_nil_iff {hints : List FixItHint} :
    fixItLinesFrom map hints = [] ↔
      ∀ hint ∈ hints.head?, (fixItLine? map hint).isSome = false := by
  cases hints with
  | nil => simp [fixItLinesFrom]
  | cons hint rest =>
    rw [fixItLinesFrom]
    cases own : fixItLine? map hint <;> simp [own]

private theorem length_fixItLinesFrom_eq_iff {hints : List FixItHint} :
    (fixItLinesFrom map hints).length = hints.length ↔
      ∀ hint ∈ hints, (fixItLine? map hint).isSome = true := by
  rw [← (fixItLinesFrom_forall₂ map hints).length_eq, ← List.takeWhile_eq_self_iff]
  constructor
  · exact (List.takeWhile_prefix _).eq_of_length
  · exact congrArg List.length

/-- A tool is given the hints in front of some place in the list, a line for each in their order.
These are all hints of the list or none exactly if one of them is invalid or in a macro, the first
of them starts at no place of a known file, or each of them starts at one. -/
theorem fixItLines_complete_or_none_iff (map : SourceMap) (hints : List FixItHint) :
    (∃ given, given <+: hints ∧
      List.Forall₂ (fun hint line ↦ fixItLine? map hint = some line) given
        (fixItLines map hints)) ∧
    (fixItLines map hints = [] ∨ (fixItLines map hints).length = hints.length ↔
      (∃ hint ∈ hints, hint.isInFile = false) ∨
      (∀ hint ∈ hints.head?, ¬map.HasPlace hint.range.start) ∨
      ∀ hint ∈ hints, map.HasPlace hint.range.start) := by
  unfold fixItLines
  by_cases all : hints.all (·.isInFile) = true
  · have inFile := List.all_eq_true.mp all
    have none_refused : ¬∃ hint ∈ hints, hint.isInFile = false := by
      rintro ⟨hint, member, refused⟩
      exact Bool.false_ne_true (refused.symm.trans (inFile hint member))
    rw [if_pos all, or_iff_right none_refused]
    refine ⟨⟨_, List.takeWhile_prefix _, fixItLinesFrom_forall₂ map hints⟩, ?_⟩
    rw [fixItLinesFrom_eq_nil_iff, length_fixItLinesFrom_eq_iff]
    refine or_congr (forall₂_congr fun hint first ↦ ?_) (forall₂_congr fun hint member ↦ ?_)
    · rw [← isSome_fixItLine?_iff (inFile hint (List.mem_of_mem_head? first)), Bool.not_eq_true]
    · exact isSome_fixItLine?_iff (inFile hint member)
  · obtain ⟨hint, member, refused⟩ := List.all_eq_false.mp (Bool.not_eq_true _ ▸ all)
    rw [if_neg all]
    refine ⟨⟨[], List.nil_prefix, .nil⟩, iff_of_true (Or.inl rfl) (Or.inl ⟨hint, member, ?_⟩)⟩
    simpa using refused

/-- An insertion at an unknown file behind one in a file cuts the list short. -/
theorem insertion_at_unknown_file_cuts_list :
    let map : SourceMap := ⟨[{ name := "a.c".toList, text := "x\n".toList }], []⟩
    let hints : List FixItHint :=
      [.insertAt (.inFile 1 0) "y".toList, .insertAt (.inFile 9 0) "z".toList]
    fixItLines map hints = ["fix-it:\"a.c\":\x7b1:1-1:1\x7d:\"y\"".toList] ∧
      ¬(fixItLines map hints = [] ∨ (fixItLines map hints).length = hints.length) := by
  intro map hints
  refine ⟨by decide +kernel, ?_⟩
  rw [(fixItLines_complete_or_none_iff map hints).2]
  decide +kernel

end Caret
