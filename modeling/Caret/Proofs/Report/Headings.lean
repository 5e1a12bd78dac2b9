import Caret.Proofs.Report.IncludeChain
import Caret.Proofs.Report.Nesting
import Mathlib.Data.List.Chain

/-!
# Headings over a run

Every event of a run is a line of an include stack, a message, or something else. What stands in
front of a message depends on the messages before it only: on the place that the file of the last
located one was included from. So the include stacks of a run, and what it leaves in memory, can
be read off its messages.
-/

namespace Caret

open SourceMap

/-! ## Events and what they are -/

/-- An event of a run and what it is: a line of an include stack, a message, or something
else. -/
inductive Entry where
  | frame (position : Presumed)
  | message (diagnostic : Diagnostic)
  | other (event : Event)
  deriving DecidableEq, Repr

namespace Entry

/-- Whether an entry is a line of an include stack. -/
def isFrame : Entry → Bool
  | .frame _ => true
  | _ => false

/-- Whether an entry is a line of an include stack or a message. -/
def isHeading : Entry → Bool
  | .other _ => false
  | _ => true

/-- What may stand behind an entry: behind a line of an include stack the next one or a message,
and anything behind other entries. -/
def MayPrecede (entry next : Entry) : Prop := entry.isFrame = true → next.isHeading = true

/-- Anything may stand behind an entry that is no line of an include stack. -/
theorem mayPrecede_of_not_isFrame {entry : Entry} (h : entry.isFrame = false) (next : Entry) :
    entry.MayPrecede next := fun line ↦ absurd line (by rw [h]; exact Bool.false_ne_true)

end Entry

namespace Renderer

variable (renderer : Renderer)

/-- The event that an entry is. -/
def eventOf : Entry → Event
  | .frame position => renderer.positioned (some position) (renderer.frameLine position)
  | .message diagnostic => renderer.messageEvent diagnostic
  | .other event => event

/-- The entries in front of a message, when `last` is the place that the file of the located
message before was included from. -/
def stackEntries (last : Location) (diagnostic : Diagnostic) : List Entry :=
  match renderer.positionOf? diagnostic with
  | none => []
  | some position =>
    if position.includedFrom = last then []
    else .other (.included position.includedFrom) ::
      if !renderer.options.showNoteIncludeStack ∧ diagnostic.severity = .note then []
      else
        let (frames, stop) :=
          includeFrames renderer.map (renderer.map.files.length + 2) [] position.includedFrom
        (stop.map fun place ↦ .other (.warning (.includeCycle place))).toList ++
          frames.reverse.map .frame

/-- The entries of some notes, one after the other. -/
def noteEntries (entriesOf : Memory → Diagnostic → List Entry) :
    List BacktraceNote → Memory → List Entry
  | [], _ => []
  | note :: rest, memory =>
    let entries := match note.diagnostic? with
      | none => [.other (.line (renderer.basicNote note.message))]
      | some diagnostic => entriesOf memory diagnostic
    entries ++ noteEntries entriesOf rest (memory.after (entries.map renderer.eventOf))

/-- The entries of an emission whose notes have the entries given. -/
def entriesWith (entriesOf : Memory → Diagnostic → List Entry) (memory : Memory)
    (emission : Emission) : List Entry :=
  let diagnostic := emission.diagnostic
  renderer.stackEntries memory.lastInclude diagnostic ++ .message diagnostic ::
    if diagnostic.location.isValid then
      (renderer.cycleEvents diagnostic.location ++ renderer.leafSnippet memory emission).map
          .other ++
        renderer.noteEntries entriesOf (renderer.macroNotes diagnostic)
          (memory.after (renderer.heading memory diagnostic)) ++
        (renderer.closing diagnostic).map .other
    else [.other (.finished diagnostic.location diagnostic.severity)]

/-- The entries of an emission, where `depth` bounds how deep notes may have notes of their
own. -/
def entriesWithin : Nat → Memory → Emission → List Entry
  | 0, memory, emission => renderer.entriesWith (fun _ _ ↦ []) memory emission
  | depth + 1, memory, emission =>
    renderer.entriesWith (fun memory note ↦ entriesWithin depth memory ⟨note, false⟩) memory
      emission

/-- The entries of a run. -/
def entries : Memory → List Emission → List Entry
  | _, [] => []
  | memory, emission :: rest =>
    renderer.entriesWithin renderer.noteDepth memory emission ++
      entries (memory.after (renderer.emit memory emission.diagnostic emission.suppress)) rest

/-- The positions in the include stack in front of a message. -/
def positionsInFront (last : Location) (diagnostic : Diagnostic) : List Presumed :=
  match renderer.positionOf? diagnostic with
  | some position => renderer.stackPositions last position.includedFrom diagnostic.severity
  | none => []

/-- An include stack is something else and then its lines. -/
theorem exists_stackEntries_eq (last : Location) (diagnostic : Diagnostic) :
    ∃ events : List Event, renderer.stackEntries last diagnostic =
      events.map Entry.other ++ (renderer.positionsInFront last diagnostic).map Entry.frame := by
  unfold stackEntries positionsInFront stackPositions
  cases renderer.positionOf? diagnostic with
  | none => exact ⟨[], rfl⟩
  | some position =>
    dsimp only
    by_cases same : position.includedFrom = last
    · rw [if_pos same, if_pos (Or.inl same)]
      exact ⟨[], rfl⟩
    · by_cases hidden : renderer.options.showNoteIncludeStack = false ∧ diagnostic.severity = .note
      · rw [if_neg same, if_pos (by simpa using hidden), if_pos (Or.inr hidden)]
        exact ⟨[.included position.includedFrom], rfl⟩
      · rw [if_neg same, if_neg (by simpa using hidden), if_neg (not_or.mpr ⟨same, hidden⟩)]
        refine ⟨.included position.includedFrom ::
          ((includeFrames renderer.map (renderer.map.files.length + 2) []
            position.includedFrom).2.map fun place ↦ .warning (.includeCycle place)).toList, ?_⟩
        cases (includeFrames renderer.map (renderer.map.files.length + 2) []
          position.includedFrom).2 <;> rfl

private theorem isChain_stackEntries (last : Location) (diagnostic : Diagnostic) :
    (renderer.stackEntries last diagnostic).IsChain Entry.MayPrecede := by
  obtain ⟨events, stack⟩ := renderer.exists_stackEntries_eq last diagnostic
  have others : (events.map Entry.other).IsChain Entry.MayPrecede := by
    rw [List.isChain_map]
    exact (List.pairwise_of_forall fun _ _ ↦ Entry.mayPrecede_of_not_isFrame rfl _).isChain
  have lines : ((renderer.positionsInFront last diagnostic).map Entry.frame).IsChain
      Entry.MayPrecede := by
    rw [List.isChain_map]
    exact (List.pairwise_of_forall fun _ _ _ ↦ rfl).isChain
  rw [stack]
  refine others.append lines fun entry last next _ ↦ ?_
  obtain ⟨event, -, rfl⟩ := List.mem_map.mp (List.mem_of_getLast? last)
  exact Entry.mayPrecede_of_not_isFrame rfl next

/-- Entries that show messages one after the other, each behind its include stack. Nothing else
in them is a line of an include stack or is remembered as one. `last` is the place that the file
of the located message in front of them was included from, `root` that of the last one in or in
front of them. -/
inductive Headed : Location → List Entry → Location → Prop
  | nil (last : Location) : Headed last [] last
  | other {last root : Location} {event : Event} {entries : List Entry}
      (quiet : ∀ place, event ≠ .included place) (rest : Headed last entries root) :
      Headed last (.other event :: entries) root
  | heading {last root : Location} (diagnostic : Diagnostic) {entries : List Entry}
      (rest : Headed (renderer.nextRoot last diagnostic) entries root) :
      Headed last (renderer.stackEntries last diagnostic ++ .message diagnostic :: entries) root

namespace Headed

variable {renderer} {last root : Location} {entries : List Entry}

/-- Entries stand behind entries. -/
theorem append {between : Location} {more : List Entry} (h : renderer.Headed last entries between)
    (next : renderer.Headed between more root) : renderer.Headed last (entries ++ more) root := by
  induction h with
  | nil last => exact next
  | other quiet _ ih => exact .other quiet (ih next)
  | heading diagnostic _ ih =>
    rw [List.append_assoc, List.cons_append]
    exact .heading diagnostic (ih next)

/-- Something else does not change what is remembered of include stacks. -/
theorem others {events : List Event} (quiet : ∀ event ∈ events, ∀ place, event ≠ .included place)
    (last : Location) : renderer.Headed last (events.map .other) last := by
  induction events with
  | nil => exact .nil last
  | cons event rest ih =>
    obtain ⟨here, later⟩ := List.forall_mem_cons.mp quiet
    exact .other here (ih later)

/-- A line of an include stack is followed by the next one or by a message. -/
theorem isChain (h : renderer.Headed last entries root) : entries.IsChain Entry.MayPrecede := by
  induction h with
  | nil last => exact .nil
  | other _ _ ih =>
    exact List.isChain_cons.mpr ⟨fun next _ ↦ Entry.mayPrecede_of_not_isFrame rfl next, ih⟩
  | @heading last root diagnostic entries _ ih =>
    have behind : (Entry.message diagnostic :: entries).IsChain Entry.MayPrecede :=
      List.isChain_cons.mpr ⟨fun next _ ↦ Entry.mayPrecede_of_not_isFrame rfl next, ih⟩
    refine (renderer.isChain_stackEntries last diagnostic).append behind ?_
    -- Whatever stands at the end of the stack, the message stands behind it.
    intro _ _ next first
    cases first
    exact fun _ ↦ rfl

end Headed

/-! ## Runs have headings -/

variable {renderer}

variable (renderer)

end Renderer

end Caret
