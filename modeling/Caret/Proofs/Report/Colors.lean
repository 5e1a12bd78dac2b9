import Caret.CommandLine.Run
import Caret.Proofs.Report.Course
import Caret.Proofs.Report.FixItReading
import Caret.Proofs.Snippet.Escapes

/-!
# Reports without their colors

A report with colors and the report without them take the same course: they ask the same
questions of the source and of the memory, and every width is measured on plain text. Line by
line they differ in styles only, so that the report without colors is what is left of the other
when the styles are taken off.
-/

namespace Caret

open Text

/-! ## Events without styles -/

/-- An event is another one when the styles are taken off. -/
inductive Event.Strips : Event → Event → Prop
  | line {styled plain : Text} (h : Text.Strips styled plain) : Strips (.line styled) (.line plain)
  | unwritable : Strips .unwritable .unwritable
  | warning (warning : SourceWarning) : Strips (.warning warning) (.warning warning)
  | included (root : Location) : Strips (.included root) (.included root)
  | finished (loc : Location) (severity : Severity) :
      Strips (.finished loc severity) (.finished loc severity)

/-- Some events are others, one by one, when the styles are taken off. -/
abbrev StripEvents (styled plain : List Event) : Prop := List.Forall₂ Event.Strips styled plain

/-- The text that an output gets. -/
def outputOf (events : List Event) : Text := Text.endLines (linesOf events)

namespace StripEvents

variable {styled plain : List Event}

/-- Lines are stripped one by one. -/
theorem lines {styled plain : List Text} (h : List.Forall₂ Text.Strips styled plain) :
    StripEvents (styled.map .line) (plain.map .line) := by
  refine List.forall₂_map_left_iff.mpr (List.forall₂_map_right_iff.mpr ?_)
  exact h.imp fun _ _ ↦ .line

private theorem plainLines {lines : List Text} (h : ∀ line ∈ lines, line.EscapeFree) :
    StripEvents (lines.map .line) (lines.map .line) :=
  StripEvents.lines (List.forall₂_same.mpr fun line member ↦ .refl (h line member))

/-- Styles leave no trace in the memory. -/
theorem after_eq (h : StripEvents styled plain) (memory : Memory) :
    memory.after styled = memory.after plain := by
  induction h generalizing memory with
  | nil => rfl
  | cons here _ ih =>
    cases here <;> exact ih _

/-- An output takes as many events of one as of the other. -/
theorem accepted (h : StripEvents styled plain) (room : Option Nat) :
    StripEvents (Caret.accepted room styled) (Caret.accepted room plain) := by
  induction h generalizing room with
  | nil => cases room <;> exact .nil
  | cons here _ ih =>
    cases here with
    | line strips =>
      match room with
      | none => exact .cons (.line strips) (ih none)
      | some 0 => exact .nil
      | some (room + 1) => exact .cons (.line strips) (ih (some room))
    | unwritable => cases room <;> exact .nil
    | warning warning => cases room <;> exact .cons (.warning warning) (ih _)
    | included root => cases room <;> exact .cons (.included root) (ih _)
    | finished loc severity => cases room <;> exact .cons (.finished loc severity) (ih _)

private theorem deliveryError?_eq (h : StripEvents styled plain) (reason : String)
    (room : Option Nat) :
    deliveryError? reason room styled = deliveryError? reason room plain := by
  induction h generalizing room with
  | nil => rfl
  | cons here _ ih =>
    cases here with
    | line strips =>
      match room with
      | none => exact ih none
      | some 0 => rfl
      | some (room + 1) => exact ih (some room)
    | unwritable => cases room <;> rfl
    | warning _ | included _ | finished _ _ => cases room <;> exact ih _

private theorem stripSgr_outputOf (h : StripEvents styled plain) :
    stripSgr (outputOf styled) = outputOf plain := by
  have whole : Text.Strips (outputOf styled) (outputOf plain) := by
    induction h with
    | nil => exact fun _ ↦ rfl
    | cons here _ ih =>
      cases here with
      | line strips => exact (strips.append (.refl (by decide))).append ih
      | unwritable => exact ih
      | warning _ => exact ih
      | included _ => exact ih
      | finished _ _ => exact ih
  have all := whole []
  have nothing : stripSgr [] = [] := rfl
  rwa [nothing, List.append_nil, List.append_nil] at all

/-- What follows from the memory is stripped behind the events that lead to it. -/
theorem andThen (h : StripEvents styled plain) {memory : Memory}
    {next : Memory → List Event} {other : Memory → List Event}
    (behind : ∀ memory, StripEvents (next memory) (other memory)) :
    StripEvents (memory.andThen styled next) (memory.andThen plain other) := by
  unfold Memory.andThen
  rw [h.after_eq memory]
  exact List.rel_append h (behind _)

end StripEvents

/-! ## The text in front of a message -/

section Location

variable {map : SourceMap} (sources : map.EscapeFree)

/-- The position in front of a message has no escape. -/
theorem Report.escapeFree_positionText (format : LocationFormat) (line : Int)
    (column : Option Int) : (Report.positionText format line column).EscapeFree := by
  cases format <;> cases column <;> simp [Report.positionText, escapeChar]

/-- The lines and columns of ranges have no escape. -/
theorem Report.escapeFree_rangesText (map : SourceMap) (loc : Location)
    (ranges : List SourceRange) : (Report.rangesText map loc ranges).EscapeFree := by
  refine escapeFree_flatten.mpr fun text member ↦ ?_
  obtain ⟨range, -, found⟩ := List.mem_filterMap.mp member
  unfold rangeText? at found
  split at found
  · cases found
  · dsimp only at found
    split at found
    · cases found
    · cases found
      simp [escapeChar]

include sources

/-- What stands in front of the label of a message has no escape. -/
theorem Report.escapeFree_locationText (options : Options) (loc : Location)
    {presumed : Option Presumed} (named : ∀ position ∈ presumed, position.filename.EscapeFree)
    (ranges : List SourceRange) :
    (Report.locationText map options loc presumed ranges).EscapeFree := by
  unfold Report.locationText
  cases presumed with
  | none =>
    cases stored : map.file? (map.expansionSite loc).file with
    | none => exact escapeFree_nil
    | some entry =>
      have name := sources.names entry (SourceMap.mem_files_of_file? stored)
      dsimp only
      split
      · exact escapeFree_nil
      · exact escapeFree_append.mpr ⟨name, by decide⟩
  | some position =>
    have info : EscapeFree
        (if options.showSourceRanges then Report.rangesText map loc ranges else []) := by
      split
      · exact escapeFree_rangesText map loc ranges
      · exact escapeFree_nil
    dsimp only
    split
    · exact escapeFree_nil
    · refine escapeFree_append.mpr ⟨escapeFree_append.mpr ⟨escapeFree_append.mpr
        ⟨named position rfl, escapeFree_positionText _ _ _⟩, ?_⟩, by decide⟩
      generalize (if options.showSourceRanges then Report.rangesText map loc ranges else []) = shown
        at info
      split
      · exact escapeFree_nil
      · exact escapeFree_append.mpr ⟨info, by decide⟩

/-- The files of an include stack are named without escapes. -/
theorem Renderer.escapeFree_of_mem_includeFrames (bound : Nat) (visited : List Location)
    (loc : Location) :
    ∀ frame ∈ (Renderer.includeFrames map bound visited loc).1, frame.filename.EscapeFree := by
  induction bound generalizing visited loc with
  | zero => exact List.forall_mem_nil _
  | succ bound ih =>
    unfold includeFrames
    split
    · exact List.forall_mem_nil _
    · split
      · exact List.forall_mem_nil _
      · split
        · exact List.forall_mem_nil _
        · next frame found =>
          exact List.forall_mem_cons.mpr ⟨sources.presumed? found, ih _ _⟩

private theorem escapeFree_of_mem_backtraceNotes (skipped : Int × Int) (levels : List Location)
    (ranges : List SourceRange) :
    ∀ note ∈ backtraceNotes map skipped levels ranges, note.message.EscapeFree := by
  induction levels generalizing ranges with
  | nil => exact List.forall_mem_nil _
  | cons level inner ih =>
    have expanded (place : Location) (mapped : List SourceRange) :
        (BacktraceNote.expansion place (map.macroName level) mapped).message.EscapeFree := by
      exact escapeFree_append.mpr
        ⟨escapeFree_append.mpr ⟨by decide, sources.macroName level⟩, by decide⟩
    have elided (count : Int) : (BacktraceNote.elision count).message.EscapeFree := by
      show EscapeFree ("(" ++ toString count ++
        " expansions elided in backtrace; use --macro-backtrace-limit=0 to see all)").toList
      rw [String.toList_append, String.toList_append]
      exact escapeFree_append.mpr ⟨escapeFree_append.mpr ⟨by decide, .ofInt count⟩, by decide⟩
    rw [backtraceNotes]
    split
    · split
      · exact List.forall_mem_cons.mpr ⟨elided _, ih _⟩
      · exact ih _
    · exact List.forall_mem_cons.mpr ⟨expanded _ _, ih _⟩

end Location

private theorem escapeFree_of_mem_fixItLines {map : SourceMap} {hints : List FixItHint} :
    ∀ line ∈ fixItLines map hints, line.EscapeFree := by
  have quoted (text : Text) : (escapeFixItText text).EscapeFree := fun inside ↦
    absurd (FixItReader.isPrintableAscii_of_mem_escapeFixItText inside) (by decide)
  have each (hint : FixItHint) (line : Text) (h : fixItLine? map hint = some line) :
      line.EscapeFree := by
    obtain ⟨presumed, -, rfl⟩ := Option.map_eq_some_iff.mp h
    simp [quoted, positionText, escapeChar]
  have all (hints : List FixItHint) : ∀ line ∈ fixItLinesFrom map hints, line.EscapeFree := by
    induction hints with
    | nil => exact List.forall_mem_nil _
    | cons hint rest ih =>
      rw [fixItLinesFrom]
      split
      · next line found => exact List.forall_mem_cons.mpr ⟨each hint line found, ih⟩
      · exact List.forall_mem_nil _
  unfold fixItLines
  split
  · exact all hints
  · exact List.forall_mem_nil _

namespace Renderer

/-- The renderer with colors shown or not. -/
def withColors (renderer : Renderer) (colors : Bool) : Renderer :=
  { renderer with options := renderer.options.withColors colors }

variable {renderer : Renderer} (sources : renderer.map.EscapeFree)

/-! ## The parts of a diagnostic -/

/-- The styles are taken off a line about a position. -/
theorem strips_positioned (presumed : Option Presumed) {styled plain : Text}
    (h : Text.Strips styled plain) :
    Event.Strips ((renderer.withColors true).positioned presumed styled)
      ((renderer.withColors false).positioned presumed plain) := by
  show Event.Strips (if Report.canShow renderer.options presumed then .line styled else .unwritable)
    (if Report.canShow renderer.options presumed then .line plain else .unwritable)
  split
  · exact .line h
  · exact .unwritable

private theorem strips_basicNote {message : Text} (h : message.EscapeFree) :
    Text.Strips ((renderer.withColors true).basicNote message)
      ((renderer.withColors false).basicNote message) :=
  (Severity.strips_labelText .note).append (Severity.strips_messageText .note h _ _)

private theorem strips_noteEvents {styledNote plainNote : Memory → Diagnostic → List Event}
    (noted : ∀ memory note, note.EscapeFree →
      StripEvents (styledNote memory note) (plainNote memory note)) {notes : List BacktraceNote}
    (free : ∀ note ∈ notes, note.message.EscapeFree) (memory : Memory) :
    StripEvents ((renderer.withColors true).noteEvents styledNote notes memory)
      ((renderer.withColors false).noteEvents plainNote notes memory) := by
  induction notes generalizing memory with
  | nil => exact .nil
  | cons note rest ih =>
    obtain ⟨here, later⟩ := List.forall_mem_cons.mp free
    refine StripEvents.andThen ?_ (ih later)
    cases note with
    | elision count => exact .cons (.line (strips_basicNote here)) .nil
    | expansion place name ranges => exact noted memory _ ⟨here, List.forall_mem_nil _⟩

include sources

private theorem strips_includeStack (root : Location) :
    StripEvents ((renderer.withColors true).includeStack root)
      ((renderer.withColors false).includeStack root) := by
  have named := escapeFree_of_mem_includeFrames sources (renderer.map.files.length + 2) [] root
  unfold includeStack
  show StripEvents
    (((includeFrames renderer.map (renderer.map.files.length + 2) [] root).2.map fun place ↦
      Event.warning (.includeCycle place)).toList ++
      (includeFrames renderer.map (renderer.map.files.length + 2) [] root).1.reverse.map _)
    (((includeFrames renderer.map (renderer.map.files.length + 2) [] root).2.map fun place ↦
      Event.warning (.includeCycle place)).toList ++
      (includeFrames renderer.map (renderer.map.files.length + 2) [] root).1.reverse.map _)
  refine List.rel_append ?_ ?_
  · cases (includeFrames renderer.map (renderer.map.files.length + 2) [] root).2 with
    | none => exact .nil
    | some place => exact .cons (.warning _) .nil
  · refine List.forall₂_map_left_iff.mpr (List.forall₂_map_right_iff.mpr ?_)
    refine List.forall₂_same.mpr fun frame member ↦ strips_positioned (some frame) (.refl ?_)
    have name := named frame (List.mem_reverse.mp member)
    show (renderer.frameLine frame).EscapeFree
    unfold frameLine
    split
    · simp [name, escapeChar]
    · decide

private theorem strips_includeEvents (memory : Memory) (root : Location) (severity : Severity) :
    StripEvents ((renderer.withColors true).includeEvents memory root severity)
      ((renderer.withColors false).includeEvents memory root severity) := by
  unfold includeEvents
  split
  · exact .nil
  · refine .cons (.included root) ?_
    show StripEvents
      (if !renderer.options.showNoteIncludeStack ∧ severity = .note then [] else _)
      (if !renderer.options.showNoteIncludeStack ∧ severity = .note then [] else _)
    split
    · exact .nil
    · exact strips_includeStack sources root

private theorem strips_messageLine (loc : Location) {presumed : Option Presumed}
    (named : ∀ position ∈ presumed, position.filename.EscapeFree) (severity : Severity)
    {message : Text} (h : message.EscapeFree) (ranges : List SourceRange) :
    Text.Strips ((renderer.withColors true).messageLine loc presumed severity message ranges)
      ((renderer.withColors false).messageLine loc presumed severity message ranges) := by
  have place : EscapeFree (if loc.isValid then
      Report.locationText renderer.map renderer.options loc presumed ranges else []) := by
    split
    · exact Report.escapeFree_locationText sources renderer.options loc named ranges
    · exact escapeFree_nil
  exact ((Strips.applyIf place locationStyle _).append (severity.strips_labelText)).append
    (severity.strips_messageText h _ _)

private theorem strips_codeContext (memory : Memory) (leaf : Location) (severity : Severity)
    (ranges : List SourceRange) {hints : List FixItHint}
    (inserted : ∀ hint ∈ hints, hint.text.EscapeFree) (suppress : Bool) :
    StripEvents
      ((renderer.withColors true).codeContext memory leaf severity ranges hints suppress)
      ((renderer.withColors false).codeContext memory leaf severity ranges hints suppress) := by
  unfold codeContext
  show StripEvents
    (if !renderer.options.showCarets ||
      renderer.repeatsSnippet memory leaf severity ranges hints suppress then [] else _)
    (if !renderer.options.showCarets ||
      renderer.repeatsSnippet memory leaf severity ranges hints suppress then [] else _)
  split
  · exact .nil
  · exact .lines (Snippet.strips_render sources inserted leaf ranges renderer.options)

/-! ## Diagnostics and their notes -/

section Notes

variable {styledNote plainNote : Memory → Diagnostic → List Event}
  (noted : ∀ memory note, note.EscapeFree →
    StripEvents (styledNote memory note) (plainNote memory note))

include noted

private theorem strips_backtraceWith (memory : Memory) (loc : Location) (severity : Severity)
    (ranges : List SourceRange) {hints : List FixItHint}
    (inserted : ∀ hint ∈ hints, hint.text.EscapeFree) (limit : Int) (suppress : Bool) :
    StripEvents
      ((renderer.withColors true).backtraceWith styledNote memory loc severity ranges hints limit
        suppress)
      ((renderer.withColors false).backtraceWith plainNote memory loc severity ranges hints limit
        suppress) := by
  unfold backtraceWith
  refine List.rel_append ?_ (StripEvents.andThen ?_ fun memory ↦ ?_)
  · show StripEvents ((renderer.map.levelsOf loc).cycle.map _).toList
      ((renderer.map.levelsOf loc).cycle.map _).toList
    cases (renderer.map.levelsOf loc).cycle with
    | none => exact .nil
    | some place => exact .cons (.warning _) .nil
  · exact strips_codeContext sources memory _ severity ranges inserted suppress
  · exact strips_noteEvents noted (escapeFree_of_mem_backtraceNotes sources _ _ ranges) memory

/-- The styles are taken off a diagnostic if they are taken off its notes. -/
theorem strips_emitWith (memory : Memory) {diagnostic : Diagnostic} (free : diagnostic.EscapeFree)
    (suppress : Bool) :
    StripEvents ((renderer.withColors true).emitWith styledNote memory diagnostic suppress)
      ((renderer.withColors false).emitWith plainNote memory diagnostic suppress) := by
  have named : ∀ position ∈ renderer.positionOf? diagnostic, position.filename.EscapeFree :=
    fun position found ↦ sources.presumed? (presumed?_of_positionOf? found)
  refine List.rel_append (StripEvents.andThen ?heading fun memory ↦ ?body)
    (.cons (.finished _ _) .nil)
  case heading =>
    refine List.rel_append ?stack (.cons (strips_positioned _ (strips_messageLine sources _ named
      _ free.message _)) .nil)
    case stack =>
      have place (colors : Bool) : (renderer.withColors colors).positionOf? diagnostic =
          renderer.positionOf? diagnostic := rfl
      show StripEvents ((renderer.withColors true).stackEvents memory diagnostic)
        ((renderer.withColors false).stackEvents memory diagnostic)
      rw [stackEvents, stackEvents, place, place]
      cases renderer.positionOf? diagnostic with
      | none => exact .nil
      | some position => exact strips_includeEvents sources memory _ _
  case body =>
    cases diagnostic.location.isValid with
    | false => exact .nil
    | true =>
      refine List.rel_append
        (strips_backtraceWith sources noted memory _ _ _ free.hints _ suppress) ?_
      show StripEvents
        (if renderer.options.parseableFixits then
          (fixItLines renderer.map diagnostic.fixits).map .line else [])
        (if renderer.options.parseableFixits then
          (fixItLines renderer.map diagnostic.fixits).map .line else [])
      split
      · exact .plainLines escapeFree_of_mem_fixItLines
      · exact .nil

end Notes

private theorem strips_emitWithin (depth : Nat) (memory : Memory) {diagnostic : Diagnostic}
    (free : diagnostic.EscapeFree) (suppress : Bool) :
    StripEvents ((renderer.withColors true).emitWithin depth memory diagnostic suppress)
      ((renderer.withColors false).emitWithin depth memory diagnostic suppress) := by
  induction depth generalizing memory diagnostic suppress with
  | zero => exact strips_emitWith sources (fun _ _ _ ↦ .nil) memory free suppress
  | succ depth ih =>
    exact strips_emitWith sources (fun memory _ free ↦ ih memory free false) memory free suppress

private theorem strips_emitAll (memory : Memory) {diagnostics : List Diagnostic}
    (free : ∀ diagnostic ∈ diagnostics, diagnostic.EscapeFree) :
    StripEvents ((renderer.withColors true).emitAll memory diagnostics)
      ((renderer.withColors false).emitAll memory diagnostics) := by
  induction diagnostics generalizing memory with
  | nil => exact .nil
  | cons diagnostic rest ih =>
    obtain ⟨here, later⟩ := List.forall_mem_cons.mp free
    exact StripEvents.andThen (strips_emitWithin sources _ memory here false)
      fun memory ↦ ih memory later

end Renderer

/-- Colors are presentation only. Without escapes in messages, names, source texts and inserted
texts, an output gets the same text from a report with colors, when the sequences that select a
rendition are taken out, as from the report without them; and the report leaves the same memory
and ends early for the same reason, wherever the output takes no more lines. -/
theorem stripSgr_emitAll_withColors (renderer : Renderer) (memory : Memory)
    (diagnostics : List Diagnostic) (room : Option Nat) (sources : renderer.map.EscapeFree)
    (free : ∀ diagnostic ∈ diagnostics, diagnostic.EscapeFree) :
    let colored := (renderer.withColors true).emitAll memory diagnostics
    let plain := (renderer.withColors false).emitAll memory diagnostics
    stripSgr (outputOf (accepted room colored)) = outputOf (accepted room plain) ∧
      memory.after (accepted room colored) = memory.after (accepted room plain) ∧
      memory.after colored = memory.after plain ∧
      ∀ reason, deliveryError? reason room colored = deliveryError? reason room plain := by
  intro colored plain
  have whole : StripEvents colored plain := Renderer.strips_emitAll sources memory free
  exact ⟨(whole.accepted room).stripSgr_outputOf, (whole.accepted room).after_eq memory,
    whole.after_eq memory, fun reason ↦ whole.deliveryError?_eq reason room⟩

/-- An error with a caret and an insertion, which is shown in colors. -/
theorem stripSgr_missing_semicolon :
    let renderer : Renderer :=
      { map := ⟨[⟨"a.c".toList, "int x = 界\n".toList, Location.invalid, []⟩], []⟩ }
    let missing : Diagnostic := ⟨.error, "expected \";\"".toList, .inFile 1 9, [],
      [.insertAt (.inFile 1 9) ";".toList]⟩
    renderer.map.EscapeFree ∧ (∀ diagnostic ∈ [missing], diagnostic.EscapeFree) ∧
      escapeChar ∈ outputOf ((renderer.withColors true).emitAll {} [missing]) ∧
      stripSgr (outputOf (accepted none ((renderer.withColors true).emitAll {} [missing]))) =
        outputOf (accepted none ((renderer.withColors false).emitAll {} [missing])) := by
  intro renderer missing
  have sources : renderer.map.EscapeFree := by
    constructor
    all_goals
      intro entry member
      rw [List.mem_singleton.mp member]
      decide
  have free : ∀ diagnostic ∈ [missing], diagnostic.EscapeFree := by
    intro diagnostic member
    rw [List.mem_singleton.mp member]
    constructor <;> decide
  exact ⟨sources, free, by decide +kernel,
    (stripSgr_emitAll_withColors renderer {} [missing] none sources free).1⟩

end Caret
