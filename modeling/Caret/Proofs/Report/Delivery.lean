import Caret.Proofs.Report.Course
import Caret.Report.Deliver

/-!
# Reports on an output that fails

A report is written line by line. A line that the output does not take ends it at once, at
whatever depth of a diagnostic it is, and what was remembered up to there stays. The program that
writes it comes to what delivering the events of the report comes to. So an output that fails gets
the first lines of the report, and one with room enough gets the report.
-/

namespace Caret

open Text (endLine)

/-! ## What is delivered of some events -/

/-- What comes of delivering some events that lead to a value. -/
def outcomeOf {α : Type} (reason : String) (room : Option Nat) (events : List Event) (value : α) :
    Except DeliveryError α :=
  match deliveryError? reason room events with
  | none => .ok value
  | some error => .error error

/-- No output takes a line that cannot be written. -/
theorem unwritable_not_mem_accepted (room : Option Nat) (events : List Event) :
    .unwritable ∉ accepted room events := by
  fun_induction accepted room events <;> simp_all [eq_comm]

/-- An output takes of some events what it takes of those that can be written. -/
theorem accepted_accepted_none (room : Option Nat) (events : List Event) :
    accepted room (accepted none events) = accepted room events := by
  induction events generalizing room with
  | nil => rfl
  | cons event rest ih =>
    cases event with
    | unwritable => cases room <;> rfl
    | line text =>
      match room with
      | none => exact congrArg (Event.line text :: ·) (ih none)
      | some 0 => rfl
      | some (room + 1) => exact congrArg (Event.line text :: ·) (ih (some room))
    | warning _ | included _ | finished _ _ => cases room <;> exact congrArg (_ :: ·) (ih _)

/-- An output refuses a line if there are more lines than it has room for in front of what cannot
be written. -/
theorem deliveryError?_eq_refused_iff (reason : String) (room : Nat) (events : List Event) :
    deliveryError? reason (some room) events = some (.refused reason) ↔
      room < (linesOf (accepted none events)).length := by
  induction events generalizing room with
  | nil => exact ⟨fun refused ↦ (nomatch refused), fun more ↦ absurd more (Nat.not_lt_zero _)⟩
  | cons event rest ih =>
    cases event with
    | unwritable =>
      cases room <;>
        exact ⟨fun refused ↦ (nomatch refused), fun more ↦ absurd more (Nat.not_lt_zero _)⟩
    | line text =>
      cases room with
      | zero => exact ⟨fun _ ↦ Nat.zero_lt_succ _, fun _ ↦ rfl⟩
      | succ room => exact (ih room).trans Nat.succ_lt_succ_iff.symm
    | warning _ | included _ | finished _ _ => cases room <;> exact ih _

private theorem deliveryError?_of_length_le (reason : String) {room : Nat} {events : List Event}
    (enough : (linesOf (accepted none events)).length ≤ room) :
    deliveryError? reason (some room) events = deliveryError? reason none events := by
  induction events generalizing room with
  | nil => cases room <;> rfl
  | cons event rest ih =>
    cases event with
    | unwritable => cases room <;> rfl
    | line text =>
      cases room with
      | zero => exact absurd enough (Nat.not_succ_le_zero _)
      | succ room => exact ih (Nat.le_of_succ_le_succ enough)
    | warning _ | included _ | finished _ _ => cases room <;> exact ih enough

/-- The room that is left behind some events. -/
def roomBehind (room : Option Nat) (events : List Event) : Option Nat :=
  room.map (· - (linesOf events).length)

/-- The room behind an event and others. -/
theorem roomBehind_append (room : Option Nat) (first second : List Event) :
    roomBehind room (first ++ second) = roomBehind (roomBehind room first) second := by
  cases room with
  | none => rfl
  | some room =>
    unfold roomBehind
    rw [linesOf_append, List.length_append]
    exact congrArg some (Nat.sub_add_eq _ _ _)

/-- Events that are delivered to their end are followed by what is delivered behind them. -/
theorem delivered_append {reason : String} {room : Option Nat} {first : List Event}
    (h : deliveryError? reason room first = none) (second : List Event) :
    deliveryError? reason room (first ++ second) =
        deliveryError? reason (roomBehind room first) second ∧
      accepted room (first ++ second) = first ++ accepted (roomBehind room first) second := by
  induction first generalizing room with
  | nil => cases room <;> exact ⟨rfl, rfl⟩
  | cons event rest ih =>
    rw [show event :: rest = [event] ++ rest from rfl, roomBehind_append]
    cases event with
    | unwritable => cases room <;> cases h
    | line text =>
      match room with
      | none => exact (ih h).imp_right (congrArg (_ :: ·))
      | some 0 => cases h
      | some (room + 1) => exact (ih h).imp_right (congrArg (_ :: ·))
    | warning _ | included _ | finished _ _ =>
      cases room <;> exact (ih h).imp_right (congrArg (_ :: ·))

/-- Behind the end of a delivery nothing is delivered. -/
theorem delivered_append_of_some {reason : String} {room : Option Nat} {first : List Event}
    {error : DeliveryError} (h : deliveryError? reason room first = some error)
    (second : List Event) :
    deliveryError? reason room (first ++ second) = some error ∧
      accepted room (first ++ second) = accepted room first := by
  induction first generalizing room with
  | nil => cases room <;> cases h
  | cons event rest ih =>
    cases event with
    | unwritable => cases room <;> exact ⟨h, rfl⟩
    | line text =>
      match room with
      | none => exact (ih h).imp_right (congrArg (_ :: ·))
      | some 0 => exact ⟨h, rfl⟩
      | some (room + 1) => exact (ih h).imp_right (congrArg (_ :: ·))
    | warning _ | included _ | finished _ _ =>
      cases room <;> exact (ih h).imp_right (congrArg (_ :: ·))

/-- The delivery of some events, for `count` diagnostics, to an output with room for `room`
lines. -/
def delivery (reason : String) (room : Option Nat) (memory : Memory) (events : List Event)
    (count : Nat) : Delivery where
  outcome := outcomeOf reason room events count
  written := (linesOf (accepted room events)).map endLine
  memory := memory.after (accepted room events)

/-- An output refuses a line exactly if one without a bound gets more than it has room for. -/
theorem delivery_refused_iff (reason : String) (room : Nat) (memory : Memory)
    (events : List Event) (count : Nat) :
    (delivery reason (some room) memory events count).outcome = .error (.refused reason) ↔
      room < (delivery reason none memory events count).written.length := by
  unfold delivery outcomeOf
  rw [List.length_map, ← deliveryError?_eq_refused_iff reason]
  cases deliveryError? reason (some room) events with
  | none => exact ⟨fun refused ↦ (nomatch refused), fun refused ↦ (nomatch refused)⟩
  | some error => exact ⟨fun refused ↦ by cases refused; rfl, fun refused ↦ by cases refused; rfl⟩

private theorem written_delivery (reason : String) (room : Nat) (memory : Memory)
    (events : List Event) (count : Nat) :
    (delivery reason (some room) memory events count).written =
      (delivery reason none memory events count).written.take room := by
  unfold delivery
  dsimp only
  rw [← accepted_accepted_none, linesOf_accepted room (unwritable_not_mem_accepted none events),
    List.map_take]

private theorem delivery_of_length_le {reason : String} {room : Nat} {memory : Memory}
    {events : List Event} {count : Nat}
    (enough : (delivery reason none memory events count).written.length ≤ room) :
    delivery reason (some room) memory events count = delivery reason none memory events count := by
  unfold delivery at enough
  rw [List.length_map] at enough
  have same : accepted (some room) events = accepted none events := by
    rw [← accepted_accepted_none]
    exact accepted_of_length_le (unwritable_not_mem_accepted none events) enough
  unfold delivery outcomeOf
  rw [same, deliveryError?_of_length_le reason enough]

private theorem outcome_delivery_none (reason : String) (memory : Memory) (events : List Event)
    (count : Nat) :
    (delivery reason none memory events count).outcome = .ok count ∨
      (delivery reason none memory events count).outcome = .error .unwritable := by
  unfold delivery outcomeOf
  rw [deliveryError?_none]
  by_cases h : .unwritable ∈ events
  · rw [if_pos h]
    exact Or.inr rfl
  · rw [if_neg h]
    exact Or.inl rfl

/-! ## Writing line by line -/

/-- The progress behind some events. -/
def Progress.behind (progress : Progress) (events : List Event) : Progress where
  memory := progress.memory.after events
  written := progress.written ++ (linesOf events).map endLine
  room := roomBehind progress.room events

/-- Without events there is no progress. -/
theorem Progress.behind_nil (progress : Progress) : progress.behind [] = progress := by
  obtain ⟨memory, written, room⟩ := progress
  cases room <;> simp [behind, roomBehind, Memory.after, linesOf]

/-- An event that is no line is remembered only. -/
theorem Progress.behind_singleton {event : Event} (h : linesOf [event] = [])
    (progress : Progress) :
    progress.behind [event] = { progress with memory := progress.memory.step event } := by
  obtain ⟨memory, written, room⟩ := progress
  cases room <;> simp [behind, roomBehind, Memory.after, h]

/-- Progress passes through events in their order. -/
theorem Progress.behind_append (progress : Progress) (first second : List Event) :
    progress.behind (first ++ second) = (progress.behind first).behind second := by
  simp only [behind, Memory.after_append, linesOf_append, List.map_append, List.append_assoc,
    roomBehind_append]

namespace Delivering

variable {α : Type} (reason : String)

/-- An action leads to a value and delivers some events, which depend on the memory that it starts
with. -/
def Performs (action : Delivering α) (events : Memory → List Event) (value : α) : Prop :=
  ∀ progress, action.run.run progress =
    (outcomeOf reason progress.room (events progress.memory) value,
      progress.behind (accepted progress.room (events progress.memory)))

namespace Performs

variable {reason : String} {action : Delivering α} {first : Delivering Unit}
  {events before : Memory → List Event} {value : α}

/-- The events of an action may be given in another form. -/
theorem congr {other : Memory → List Event} (h : Performs reason action events value)
    (same : ∀ memory, events memory = other memory) : Performs reason action other value :=
  funext same ▸ h

/-- Nothing is done. -/
theorem pure (value : α) : Performs reason (Pure.pure value) (fun _ ↦ []) value := by
  intro progress
  have none_taken (room : Option Nat) : accepted room [] = [] := by cases room <;> rfl
  rw [none_taken, Progress.behind_nil]
  cases progress.room <;> rfl

/-- Two actions, one after the other. -/
theorem andThen (h : Performs reason first before ()) (h' : Performs reason action events value) :
    Performs reason (first >>= fun _ ↦ action)
      (fun memory ↦ memory.andThen (before memory) events) value := by
  intro progress
  show (ExceptT.bindCont (fun _ ↦ action) (first.run.run progress).1).run
    (first.run.run progress).2 = _
  rw [h progress]
  unfold outcomeOf Memory.andThen
  cases early : deliveryError? reason progress.room (before progress.memory) with
  | some error =>
    obtain ⟨same, taken⟩ := delivered_append_of_some early
      (events (progress.memory.after (before progress.memory)))
    rw [same, taken]
    rfl
  | none =>
    obtain ⟨same, taken⟩ := delivered_append early
      (events (progress.memory.after (before progress.memory)))
    rw [same, taken, (accepted_eq_self_iff _ _ _).mpr early, Progress.behind_append]
    exact h' _

/-- One event is performed. -/
theorem perform (event : Event) :
    Performs reason (Delivering.perform reason event) (fun _ ↦ [event]) () := by
  intro progress
  cases event with
  | line text =>
    obtain ⟨memory, written, room⟩ := progress
    match room with
    | none => rfl
    | some 0 => exact congrArg (Prod.mk _) (Progress.behind_nil _).symm
    | some (room + 1) => cases room <;> rfl
  | unwritable =>
    cases bound : progress.room <;> exact congrArg (Prod.mk _) progress.behind_nil.symm
  | warning _ | included _ | finished _ _ =>
    cases bound : progress.room <;> exact congrArg (Prod.mk _) (progress.behind_singleton rfl).symm

/-- Events are performed one after the other. -/
theorem performAll (events : List Event) :
    Performs reason (Delivering.performAll reason events) (fun _ ↦ events) () := by
  induction events with
  | nil => exact .pure ()
  | cons event rest ih => exact (Performs.perform event).andThen ih

/-- What is performed is read off the memory. -/
theorem performFor (events : Memory → List Event) :
    Performs reason (Delivering.performFor reason events) events () :=
  fun progress ↦ Performs.performAll (events progress.memory) progress

end Performs

end Delivering

/-! ## Emission as a program -/

namespace Renderer

open Delivering

variable (renderer : Renderer) (reason : String)

variable {reason} {emitNote : Memory → Diagnostic → List Event}
  {emitNoteOn : Diagnostic → Delivering Unit}

private theorem performs_notes
    (h : ∀ note, Performs reason (emitNoteOn note) (fun memory ↦ emitNote memory note) ())
    (notes : List BacktraceNote) :
    Performs reason (notes.forM (renderer.noteOn reason emitNoteOn))
      (renderer.noteEvents emitNote notes) () := by
  induction notes with
  | nil => exact .pure ()
  | cons note rest ih =>
    cases note with
    | elision count => exact (Performs.perform (.line _)).andThen ih
    | expansion place name ranges => exact (h _).andThen ih

private theorem performs_backtraceOn
    (h : ∀ note, Performs reason (emitNoteOn note) (fun memory ↦ emitNote memory note) ())
    (emission : Emission) :
    Performs reason (renderer.backtraceOn reason emitNoteOn emission)
      (fun memory ↦ renderer.backtraceWith emitNote memory emission.diagnostic.location
        emission.diagnostic.severity (markedRanges emission.diagnostic) emission.diagnostic.fixits
        renderer.options.macroBacktraceLimit emission.suppress) () := by
  have run := (Performs.performAll (renderer.cycleEvents emission.diagnostic.location)).andThen
    ((Performs.performFor fun memory ↦ renderer.leafSnippet memory emission).andThen
      (renderer.performs_notes h (renderer.macroNotes emission.diagnostic)))
  refine run.congr fun memory ↦ ?_
  simp only [Memory.andThen, after_cycleEvents]
  rfl

/-- A diagnostic is performed if its notes are. -/
theorem performs_emitWithOn
    (h : ∀ note, Performs reason (emitNoteOn note) (fun memory ↦ emitNote memory note) ())
    (emission : Emission) :
    Performs reason (renderer.emitWithOn reason emitNoteOn emission)
      (fun memory ↦ renderer.emitWith emitNote memory emission.diagnostic emission.suppress)
      () := by
  have below : Performs reason (renderer.belowMessageOn reason emitNoteOn emission) (fun memory ↦
      if emission.diagnostic.location.isValid then
        renderer.backtraceWith emitNote memory emission.diagnostic.location
          emission.diagnostic.severity (markedRanges emission.diagnostic)
          emission.diagnostic.fixits renderer.options.macroBacktraceLimit emission.suppress ++
        if renderer.options.parseableFixits then
          (fixItLines renderer.map emission.diagnostic.fixits).map .line
        else []
      else []) () := by
    unfold belowMessageOn
    cases emission.diagnostic.location.isValid with
    | false => exact .pure ()
    | true => exact (renderer.performs_backtraceOn h emission).andThen (.performAll _)
  have run := (Performs.performFor fun memory ↦
    renderer.stackEvents memory emission.diagnostic).andThen
      ((Performs.perform (renderer.messageEvent emission.diagnostic)).andThen
        (below.andThen (.perform
          (.finished emission.diagnostic.location emission.diagnostic.severity))))
  refine run.congr fun memory ↦ ?_
  simp only [Memory.andThen, emitWith_eq, heading, Memory.after_append, List.append_assoc]

private theorem performs_emitWithinOn (depth : Nat) (emission : Emission) :
    Performs reason (renderer.emitWithinOn reason depth emission)
      (fun memory ↦
        renderer.emitWithin depth memory emission.diagnostic emission.suppress) () := by
  induction depth generalizing emission with
  | zero => exact renderer.performs_emitWithOn (fun _ ↦ .pure ()) emission
  | succ depth ih => exact renderer.performs_emitWithOn (fun note ↦ ih ⟨note, false⟩) emission

private theorem performs_emitAllOn (diagnostics : List Diagnostic) (count : Nat) :
    Performs reason (renderer.emitAllOn reason diagnostics count)
      (fun memory ↦ renderer.emitAll memory diagnostics) (count + diagnostics.length) := by
  induction diagnostics generalizing count with
  | nil => exact .pure count
  | cons diagnostic rest ih =>
    rw [List.length_cons, Nat.add_comm rest.length, ← Nat.add_assoc]
    exact (renderer.performs_emitWithinOn _ ⟨diagnostic, false⟩).andThen (ih (count + 1))

private theorem deliver_eq_delivery (reason : String) (room : Option Nat)
    (memory : Memory) (diagnostics : List Diagnostic) :
    renderer.deliver reason room memory diagnostics =
      delivery reason room memory (renderer.emitAll memory diagnostics) diagnostics.length := by
  have run : Performs reason (renderer.emitAllOn reason diagnostics 0) _ _ :=
    renderer.performs_emitAllOn diagnostics 0
  rw [Nat.zero_add] at run
  unfold deliver
  rw [run]
  rfl

/-- An output that fails cuts a report off and does nothing else. What comes of emitting diagnostics
line by line, on any output, is what comes of delivering the events of the report to it. An output
that takes `room` lines and then none refuses one exactly if the report on an output that takes all
of them writes more; then it got the first of them, and otherwise the number of diagnostics, what
was written and what is remembered are the same. Every time a whole line is written. -/
theorem failing_output_truncates (reason : String) (memory : Memory)
    (diagnostics : List Diagnostic) (room : Nat) :
    let free := renderer.deliver reason none memory diagnostics
    let bounded := renderer.deliver reason (some room) memory diagnostics
    (∀ output : Option Nat, renderer.deliver reason output memory diagnostics =
      delivery reason output memory (renderer.emitAll memory diagnostics) diagnostics.length) ∧
    (free.outcome = .ok diagnostics.length ∨ free.outcome = .error .unwritable) ∧
    (bounded.outcome = .error (.refused reason) ↔ room < free.written.length) ∧
    (room < free.written.length → bounded.written = free.written.take room) ∧
    (free.written.length ≤ room → bounded = free) ∧
    ∀ text ∈ free.written, ∃ line, text = endLine line := by
  simp only [deliver_eq_delivery]
  refine ⟨fun _ ↦ trivial, outcome_delivery_none _ _ _ _, delivery_refused_iff _ _ _ _ _,
    fun _ ↦ written_delivery _ _ _ _ _, delivery_of_length_le, fun text written ↦ ?_⟩
  obtain ⟨line, -, rfl⟩ := List.mem_map.mp written
  exact ⟨line, rfl⟩

end Renderer

end Caret
