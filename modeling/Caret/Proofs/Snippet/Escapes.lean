import Caret.Backtrace.Levels
import Caret.Proofs.Snippet.CaretAlignment
import Caret.Proofs.Text.Escapes
import Mathlib.Data.List.Forall2

/-!
# Snippets without their colors

Texts and file names without escapes give snippets without escapes: what a snippet shows is cut
out of a source line, out of inserted texts and out of marks. So the lines of a styled snippet
are those of the plain one when the styles are taken off.
-/

namespace Caret

open Text

/-! ## Sources without escapes -/

/-- No text and no name of a source has an escape. -/
structure SourceMap.EscapeFree (map : SourceMap) : Prop where
  texts : ∀ entry ∈ map.files, entry.text.EscapeFree
  names : ∀ entry ∈ map.files, entry.name.EscapeFree
  presented : ∀ entry ∈ map.files, ∀ directive ∈ entry.directives,
    ∀ name ∈ directive.filename, name.EscapeFree

/-- A file of a number is one of the files. -/
theorem SourceMap.mem_files_of_file? {map : SourceMap} {number : Int} {entry : SourceFile}
    (h : map.file? number = some entry) : entry ∈ map.files := by
  unfold file? at h
  split at h
  · cases h
  · exact List.mem_of_getElem? h

namespace SourceMap.EscapeFree

variable {map : SourceMap} (h : map.EscapeFree)

include h

/-- A line has no escape. -/
theorem lineText? {file line : Int} {text : Text} (found : map.lineText? file line = some text) :
    text.EscapeFree := by
  obtain ⟨entry, stored, cut⟩ := Option.bind_eq_some_iff.mp found
  obtain ⟨start, -, rfl⟩ := Option.map_eq_some_iff.mp cut
  exact (h.texts entry (mem_files_of_file? stored)).of_subset fun c inside ↦
    List.mem_of_mem_drop ((List.takeWhile_subset _) inside)

/-- A presented file name has no escape. -/
theorem presumed? {loc : Location} {presumed : Presumed}
    (found : map.presumed? loc = some presumed) : presumed.filename.EscapeFree := by
  unfold SourceMap.presumed? at found
  extract_lets site at found
  split at found
  · cases found
  · next entry stored =>
    split at found
    · cases found
    · cases found
      have member := mem_files_of_file? stored
      show (presumedLine entry _).1.EscapeFree
      unfold presumedLine
      extract_lets before
      split
      · exact h.names entry member
      · cases named : before.reverse.findSome? (·.filename) with
        | none => exact h.names entry member
        | some name =>
          obtain ⟨directive, inside, same⟩ := List.exists_of_findSome?_eq_some named
          exact h.presented entry member directive
            ((List.takeWhile_subset _) (List.mem_reverse.mp inside)) name same

/-- The name of a macro has no escape. -/
theorem macroName (loc : Location) : (map.macroName loc).EscapeFree := by
  unfold SourceMap.macroName
  extract_lets body start site
  split
  · exact escapeFree_nil
  · next entry stored =>
    exact (h.texts entry (mem_files_of_file? stored)).of_subset fun c inside ↦
      List.mem_of_mem_drop (List.mem_of_mem_take inside)

end SourceMap.EscapeFree

/-- Neither the message nor a hint of a diagnostic has an escape. -/
structure Diagnostic.EscapeFree (diagnostic : Diagnostic) : Prop where
  message : diagnostic.message.EscapeFree
  hints : ∀ hint ∈ diagnostic.fixits, hint.text.EscapeFree

namespace Snippet

/-! ## The lines of a snippet -/

private theorem escapeFree_of_onlyMarks {marks : Text} (h : OnlyMarks marks) :
    marks.EscapeFree := by
  intro inside
  rcases h _ inside with same | same | same <;> exact absurd same (by decide)

private theorem escapeFree_add {insertions : Insertions} {text : Text} (free : text.EscapeFree)
    (h : ∀ insertion ∈ insertions, insertion.2.EscapeFree) (column : Int) :
    ∀ insertion ∈ insertions.add column text, insertion.2.EscapeFree := by
  induction insertions with
  | nil => simpa [Insertions.add] using free
  | cons first rest ih =>
    obtain ⟨here, later⟩ := List.forall_mem_cons.mp h
    obtain ⟨other, texts⟩ := first
    rw [Insertions.add]
    split
    · exact List.forall_mem_cons.mpr ⟨free, h⟩
    · split
      · exact List.forall_mem_cons.mpr ⟨escapeFree_append.mpr ⟨here, free⟩, later⟩
      · exact List.forall_mem_cons.mpr ⟨here, ih later⟩

private theorem escapeFree_of_collectInsertions? {map : SourceMap} {file line : Int}
    {hints : List FixItHint} (h : ∀ hint ∈ hints, hint.text.EscapeFree) {insertions : Insertions}
    (found : collectInsertions? map file line hints = some insertions) :
    ∀ insertion ∈ insertions, insertion.2.EscapeFree := by
  have collect (hints : List FixItHint) (h : ∀ hint ∈ hints, hint.text.EscapeFree)
      (collected : Insertions) (free : ∀ insertion ∈ collected, insertion.2.EscapeFree)
      (found : hints.foldlM (fun (insertions : Insertions) hint ↦
        (insertionColumn? map file line hint).map (insertions.add · hint.text)) collected =
          some insertions) : ∀ insertion ∈ insertions, insertion.2.EscapeFree := by
    induction hints generalizing collected with
    | nil =>
      cases found
      exact free
    | cons hint rest ih =>
      obtain ⟨here, later⟩ := List.forall_mem_cons.mp h
      obtain ⟨next, added, found⟩ := Option.bind_eq_some_iff.mp found
      obtain ⟨column, -, rfl⟩ := Option.map_eq_some_iff.mp added
      exact ih later _ (escapeFree_add here free column) found
  exact collect _ (fun hint member ↦ h hint (List.mem_filter.mp member).1) []
    (List.forall_mem_nil _) found

private theorem escapeFree_layoutFrom (line : Text) (tabStop : Int) {insertions : Insertions}
    (h : ∀ insertion ∈ insertions, insertion.2.EscapeFree) (written : Option Int) :
    (layoutFrom line tabStop insertions written).EscapeFree := by
  induction insertions generalizing written with
  | nil => exact escapeFree_nil
  | cons first rest ih =>
    obtain ⟨here, later⟩ := List.forall_mem_cons.mp h
    unfold layoutFrom
    exact escapeFree_append.mpr
      ⟨escapeFree_append.mpr ⟨EscapeFree.blanks _, here.expandTabs _ _⟩, ih later _⟩

private theorem escapeFree_of_insertionLine? {map : SourceMap} {file line : Int}
    {text inserted : Text}
    {hints : List FixItHint} (h : ∀ hint ∈ hints, hint.text.EscapeFree) {tabStop : Int}
    (found : insertionLine? map file line text hints tabStop = some inserted) :
    inserted.EscapeFree := by
  unfold insertionLine? at found
  split at found
  · cases found
  · cases found
  · next insertions collected =>
    cases found
    exact escapeFree_layoutFrom text tabStop (escapeFree_of_collectInsertions? h collected) none

/-- The texts of snippet lines have no escape. -/
structure Lines.EscapeFree (lines : Lines) : Prop where
  source : lines.source.EscapeFree
  fixit : (lines.fixit.getD []).EscapeFree

/-- Trimming adds ellipses and blanks only. -/
theorem Lines.EscapeFree.trimLines {lines : Lines} (h : lines.EscapeFree) (columns : Int) :
    (trimLines lines columns).EscapeFree := by
  unfold Snippet.trimLines
  extract_lets row width
  split
  · exact h
  · generalize keptSpan row lines columns = kept
    dsimp only
    constructor
    · refine escapeFree_append.mpr ⟨escapeFree_append.mpr ⟨?_, h.source.spanCells _ _⟩, ?_⟩
      · split <;> decide
      · split <;> decide
    · by_cases empty : fixitCells lines.fixit = []
      · simp only [if_pos empty, Option.getD_none, escapeFree_nil]
      · simp only [if_neg empty, Option.getD_some]
        refine escapeFree_append.mpr ⟨?_, h.fixit.spanCells _ _⟩
        split
        · exact EscapeFree.blanks _
        · exact escapeFree_nil

private theorem escapeFree_margins (line : Int) (options : Options) :
    (SnippetLines.margins line options).1.EscapeFree ∧
      (SnippetLines.margins line options).2.EscapeFree := by
  unfold SnippetLines.margins
  split
  · simp [escapeChar]
  · split <;> decide

variable {map : SourceMap} (sources : map.EscapeFree) {hints : List FixItHint}
  (inserted : ∀ hint ∈ hints, hint.text.EscapeFree) {loc : Location}

include sources

/-- The line of a place has no escape. -/
theorem escapeFree_of_place? {place : Place} (h : place? map loc = some place) :
    place.text.EscapeFree := by
  unfold place? at h
  extract_lets site line at h
  split at h
  · cases h
  · obtain ⟨text, found, rfl⟩ := Option.map_eq_some_iff.mp h
    exact sources.lineText? found

include inserted

private theorem escapeFree_of_build? {ranges : List SourceRange} {options : Options}
    {snippet : SnippetLines} (h : build? map loc ranges hints options = some snippet) :
    snippet.source.EscapeFree ∧ snippet.caret.EscapeFree ∧
      (snippet.fixit.getD []).EscapeFree := by
  have marks := escapeFree_of_onlyMarks (onlyMarks_of_build? h)
  obtain ⟨place, found, rfl⟩ := Option.map_eq_some_iff.mp h
  have full : (fullLines map place ranges hints options).EscapeFree := by
    constructor
    · show (expandFrom _ _ _ _).1.EscapeFree
      rw [expandFrom_fst]
      exact (escapeFree_of_place? sources found).expandTabs _ _
    · unfold fullLines
      dsimp only
      split
      · cases found : insertionLine? map place.file place.line place.text hints options.tabStop with
        | none => exact escapeFree_nil
        | some line => exact escapeFree_of_insertionLine? inserted found
      · exact escapeFree_nil
  refine ⟨?_, marks, ?_⟩
  all_goals
    dsimp only
    split
  · exact (full.trimLines _).source
  · exact full.source
  · exact (full.trimLines _).fixit
  · exact full.fixit

end Snippet

/-! ## Styled lines -/

/-- The options with colors shown or not. -/
def Options.withColors (options : Options) (colors : Bool) : Options :=
  { options with showColors := colors }

namespace Severity

/-- The style of a label is taken off it. -/
theorem strips_labelText (severity : Severity) :
    Strips (severity.labelText true) (severity.labelText false) := by
  have free : EscapeFree (severity.label ++ ": ").toList := by cases severity <;> decide
  exact .applyIf free severity.labelStyle true

/-- The style of a message is taken off it. -/
theorem strips_messageText (severity : Severity) {message : Text} (h : message.EscapeFree)
    (column columns : Int) :
    Strips (severity.messageText message column columns true)
      (severity.messageText message column columns false) := by
  refine .applyIf ?_ severity.messageStyle true
  split
  · exact h
  · exact h.wrap columns column none

end Severity

namespace Snippet

private theorem strips_format {snippet : SnippetLines} (source : snippet.source.EscapeFree)
    (caret : snippet.caret.EscapeFree) (fixit : (snippet.fixit.getD []).EscapeFree)
    (options : Options) :
    List.Forall₂ Strips (snippet.format (options.withColors true))
      (snippet.format (options.withColors false)) := by
  obtain ⟨sourceMargin, margin⟩ := escapeFree_margins snippet.line options
  have first : Strips ((SnippetLines.margins snippet.line options).1 ++ snippet.source)
      ((SnippetLines.margins snippet.line options).1 ++ snippet.source) :=
    (Strips.refl sourceMargin).append (.refl source)
  have second := (Strips.refl margin).append (.applyIf caret SnippetLines.caretStyle true)
  refine List.rel_append (.cons first (.cons second .nil)) ?_
  by_cases empty : snippet.fixit.getD [] = []
  · rw [if_pos empty, if_pos empty]
    exact .nil
  · rw [if_neg empty, if_neg empty]
    exact .cons ((Strips.refl margin).append (.applyIf fixit SnippetLines.fixitStyle true)) .nil

variable {map : SourceMap} (sources : map.EscapeFree) {hints : List FixItHint}
  (inserted : ∀ hint ∈ hints, hint.text.EscapeFree) (loc : Location)

include sources inserted

private theorem escapeFree_of_noteText? {place : Place} (shown : place? map loc = some place)
    {hint : FixItHint} (member : hint ∈ hints) {text : Text}
    (h : noteText? map place hint = some text) : text.EscapeFree := by
  have line := escapeFree_of_place? sources shown
  have removed (part : Text) (found : removedText? map place hint = some part) :
      part.EscapeFree := by
    unfold removedText? at found
    split at found
    · cases found
    · extract_lets start stop at found
      split at found
      · cases found
      · split at found
        · cases found
        · split at found
          · cases found
          · cases found
            exact line.slice _ _
  unfold noteText? at h
  split at h
  · cases h
  · obtain ⟨part, found, rfl⟩ := Option.map_eq_some_iff.mp h
    simpa [escapeChar] using removed part found
  · obtain ⟨part, found, rfl⟩ := Option.map_eq_some_iff.mp h
    simpa [escapeChar] using ⟨removed part found, inserted hint member⟩

private theorem strips_fixitNotes :
    List.Forall₂ Strips (fixitNotes map loc hints true) (fixitNotes map loc hints false) := by
  unfold fixitNotes
  cases shown : place? map loc with
  | none => exact .nil
  | some place =>
    rw [List.forall₂_map_left_iff, List.forall₂_map_right_iff, List.forall₂_same]
    intro text member
    obtain ⟨hint, inside, found⟩ := List.mem_filterMap.mp member
    exact (Severity.strips_labelText .note).append (Severity.strips_messageText .note
      (escapeFree_of_noteText? sources inserted loc shown inside found) 0 0)

/-- The styles are taken off all lines under a diagnostic. -/
theorem strips_render (ranges : List SourceRange) (options : Options) :
    List.Forall₂ Strips (render map loc ranges hints (options.withColors true))
      (render map loc ranges hints (options.withColors false)) := by
  have same (colors : Bool) : build? map loc ranges hints (options.withColors colors) =
      build? map loc ranges hints options := rfl
  unfold render
  rw [same, same]
  cases built : build? map loc ranges hints options with
  | none => exact .nil
  | some snippet =>
    obtain ⟨source, caret, fixit⟩ := escapeFree_of_build? sources inserted built
    refine List.rel_append (strips_format source caret fixit options) ?_
    show List.Forall₂ Strips (if options.showFixits then fixitNotes map loc hints true else [])
      (if options.showFixits then fixitNotes map loc hints false else [])
    split
    · exact strips_fixitNotes sources inserted loc
    · exact .nil

end Snippet

end Caret
