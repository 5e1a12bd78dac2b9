import Caret.Diagnostic.Basic
import Caret.Text.Numeral

/-!
# The course of a report

Rendering is described as a list of events: lines that are written, warnings about the source,
and changes of what the renderer remembers of the diagnostics before. Delivering the events to
an output that takes only so many lines ends at the first line it does not take, and on any
output it ends at a line that cannot be written.
-/

namespace Caret

/-- What a renderer remembers: the location and severity of the last diagnostic, and the place
that the file of the last located message was included from. -/
structure Memory where
  lastLocation : Location := Location.invalid
  lastInclude : Location := Location.invalid
  lastSeverity : Option Severity := none
  deriving DecidableEq, Repr

/-- Something odd about the source that is worth a warning. -/
inductive SourceWarning where
  | includeCycle (place : Location)
  | expansionCycle (place : Location)
  deriving DecidableEq, Repr

/-- A location as it is shown in warnings. -/
def Location.debugText (loc : Location) : String :=
  let expansion := match loc.expansion with
    | some number => toString number
    | none => "None"
  s!"Location(file_id={loc.file}, offset={loc.offset}, expansion_id={expansion})"

/-- The text of a warning. -/
def SourceWarning.message : SourceWarning → String
  | .includeCycle loc => s!"Include cycle at {loc.debugText}; include stack truncated"
  | .expansionCycle loc => s!"Macro expansion cycle at {loc.debugText}; backtrace truncated"

/-- A step of a report. -/
inductive Event where
  | line (text : Text)
  /-- A line that shows an integer of too many digits. -/
  | unwritable
  | warning (warning : SourceWarning)
  | included (root : Location)
  | finished (location : Location) (severity : Severity)
  deriving DecidableEq, Repr

namespace Memory

/-- What is remembered after an event. -/
def step (memory : Memory) : Event → Memory
  | .included root => { memory with lastInclude := root }
  | .finished location severity =>
    { memory with lastLocation := location, lastSeverity := some severity }
  | _ => memory

/-- What is remembered after some events. -/
def after (memory : Memory) (events : List Event) : Memory := events.foldl step memory

/-- Memory passes through events in their order. -/
@[simp] theorem after_append (memory : Memory) (first second : List Event) :
    memory.after (first ++ second) = (memory.after first).after second := by
  simp [after, List.foldl_append]

end Memory

/-- The lines among some events. -/
def linesOf (events : List Event) : List Text :=
  events.filterMap fun
    | .line text => some text
    | _ => none

/-- The warnings among some events. -/
def warningsOf (events : List Event) : List SourceWarning :=
  events.filterMap fun
    | .warning warning => some warning
    | _ => none

/-- The events before the first line that cannot be written or that an output with room for
`room` lines does not take; an output without a bound takes every line. -/
def accepted : Option Nat → List Event → List Event
  | _, [] => []
  | _, .unwritable :: _ => []
  | some 0, .line _ :: _ => []
  | some (room + 1), .line text :: rest => .line text :: accepted (some room) rest
  | room, event :: rest => event :: accepted room rest

/-- Why a report ends early. -/
inductive DeliveryError where
  /-- The output does not take a line, for the reason given. -/
  | refused (reason : String)
  /-- A line cannot be written. -/
  | unwritable
  deriving DecidableEq, Repr

/-- The report on a delivery that ends early. -/
def DeliveryError.message : DeliveryError → String
  | .refused reason => s!"Cannot write diagnostic output: {reason}"
  | .unwritable => Text.unwritableText

/-- Why the delivery of some events ends early, if it does; `reason` is why an output with room
for `room` lines takes no more. -/
def deliveryError? (reason : String) : Option Nat → List Event → Option DeliveryError
  | _, [] => none
  | _, .unwritable :: _ => some .unwritable
  | some 0, .line _ :: _ => some (.refused reason)
  | some (room + 1), .line _ :: rest => deliveryError? reason (some room) rest
  | room, _ :: rest => deliveryError? reason room rest

/-- Lines pass through events in their order. -/
@[simp] theorem linesOf_append (first second : List Event) :
    linesOf (first ++ second) = linesOf first ++ linesOf second := by
  simp [linesOf]

/-- A delivery ends early or takes all events as they are. -/
theorem accepted_eq_self_iff (reason : String) (room : Option Nat) (events : List Event) :
    accepted room events = events ↔ deliveryError? reason room events = none := by
  fun_induction accepted room events <;> simp_all [deliveryError?]

/-- An output without a bound takes all events that can be written. -/
theorem accepted_none {events : List Event} (h : .unwritable ∉ events) :
    accepted none events = events := by
  induction events with
  | nil => rfl
  | cons event rest ih =>
    have rest_taken := ih fun inside ↦ h (List.mem_cons_of_mem _ inside)
    cases event with
    | unwritable => exact absurd List.mem_cons_self h
    | line _ | warning _ | included _ | finished _ _ => exact congrArg (_ :: ·) rest_taken

/-- On an output without a bound only a line that cannot be written ends a delivery early. -/
theorem deliveryError?_none (reason : String) (events : List Event) :
    deliveryError? reason none events =
      if .unwritable ∈ events then some .unwritable else none := by
  induction events with
  | nil => rfl
  | cons event rest ih =>
    cases event with
    | unwritable => rw [if_pos List.mem_cons_self, deliveryError?]
    | line _ | warning _ | included _ | finished _ _ =>
      simp only [deliveryError?, ih, List.mem_cons, reduceCtorEq, false_or]

/-- An output with room for a number of lines gets that many of them. -/
theorem linesOf_accepted (room : Nat) {events : List Event} (h : .unwritable ∉ events) :
    linesOf (accepted (some room) events) = (linesOf events).take room := by
  induction events generalizing room with
  | nil => cases room <;> rfl
  | cons event rest ih =>
    have h_rest : .unwritable ∉ rest := fun inside ↦ h (List.mem_cons_of_mem _ inside)
    cases event with
    | unwritable => exact absurd List.mem_cons_self h
    | line text =>
      cases room with
      | zero => rfl
      | succ room => exact congrArg (text :: ·) (ih room h_rest)
    | warning _ | included _ | finished _ _ => cases room <;> exact ih _ h_rest

/-- An output with room for all lines of some events takes the events as they are. -/
theorem accepted_of_length_le {room : Nat} {events : List Event} (h : .unwritable ∉ events)
    (enough : (linesOf events).length ≤ room) : accepted (some room) events = events := by
  induction events generalizing room with
  | nil => cases room <;> rfl
  | cons event rest ih =>
    have h_rest : .unwritable ∉ rest := fun inside ↦ h (List.mem_cons_of_mem _ inside)
    cases event with
    | unwritable => exact absurd List.mem_cons_self h
    | line text =>
      cases room with
      | zero => exact absurd enough (by simp [linesOf])
      | succ room =>
        exact congrArg (Event.line text :: ·) (ih h_rest (Nat.le_of_succ_le_succ enough))
    | warning _ | included _ | finished _ _ =>
      cases room <;> exact congrArg (_ :: ·) (ih h_rest enough)

end Caret
