import Caret.Options.Table

/-!
# The options that layers set

Every option of a layer is looked at in the same way, by the name of the option. In layers that
were merged an option has the value of the last layer that sets it.
-/

namespace Caret

open Data (Value Fields)

/-- An option, with the type of its values. -/
inductive OptionField : Type → Type where
  | showColors : OptionField Bool
  | wrapColumn : OptionField Int
  | tabStop : OptionField Int
  | macroBacktraceLimit : OptionField Int
  | parseableFixits : OptionField Bool
  | format : OptionField LocationFormat
  | showLocation : OptionField Bool
  | showColumn : OptionField Bool
  | showCarets : OptionField Bool
  | showFixits : OptionField Bool
  | showSourceRanges : OptionField Bool
  | showLineNumbers : OptionField Bool
  | showNoteIncludeStack : OptionField Bool

namespace OptionLayer

variable {α : Type}

/-- The value that a layer sets an option to. -/
def get? (layer : OptionLayer) : OptionField α → Option α
  | .showColors => layer.showColors
  | .wrapColumn => layer.wrapColumn
  | .tabStop => layer.tabStop
  | .macroBacktraceLimit => layer.macroBacktraceLimit
  | .parseableFixits => layer.parseableFixits
  | .format => layer.format
  | .showLocation => layer.showLocation
  | .showColumn => layer.showColumn
  | .showCarets => layer.showCarets
  | .showFixits => layer.showFixits
  | .showSourceRanges => layer.showSourceRanges
  | .showLineNumbers => layer.showLineNumbers
  | .showNoteIncludeStack => layer.showNoteIncludeStack

/-- Layers with the same options and files are the same. -/
theorem ext_get? {first second : OptionLayer}
    (options : ∀ (α : Type) (field : OptionField α), first.get? field = second.get? field)
    (files : first.files = second.files) : first = second := by
  cases first
  cases second
  rw [OptionLayer.mk.injEq]
  exact ⟨options _ .showColors, options _ .wrapColumn, options _ .tabStop,
    options _ .macroBacktraceLimit, options _ .parseableFixits, options _ .format,
    options _ .showLocation, options _ .showColumn, options _ .showCarets, options _ .showFixits,
    options _ .showSourceRanges, options _ .showLineNumbers, options _ .showNoteIncludeStack,
    files⟩

/-- The empty layer sets no option. -/
@[simp] theorem get?_empty (field : OptionField α) : empty.get? field = none := by
  cases field <;> rfl

/-- An option of two layers is that of the upper one, or else that of the lower one. -/
@[simp] theorem get?_merge (lower upper : OptionLayer) (field : OptionField α) :
    (lower.merge upper).get? field = (upper.get? field).or (lower.get? field) := by
  cases field <;> exact Option.orElse_eq_or

/-- The files of two layers are those of the lower one, then those of the upper one. -/
@[simp] theorem files_merge (lower upper : OptionLayer) :
    (lower.merge upper).files = lower.files ++ upper.files := rfl

/-- An option of layers that are merged is that of the last one that sets it. -/
theorem get?_foldl_merge (layers : List OptionLayer) (lower : OptionLayer)
    (field : OptionField α) :
    (layers.foldl merge lower).get? field =
      (layers.reverse.findSome? (·.get? field)).or (lower.get? field) := by
  induction layers generalizing lower with
  | nil => rfl
  | cons layer rest ih =>
    rw [List.foldl_cons, ih, get?_merge, List.reverse_cons, List.findSome?_append,
      List.findSome?_singleton, Option.or_assoc]

/-- An entry that sets an option is put above those in front of it. -/
theorem readEntries_cons {key : String} {value : Value} {single : OptionLayer}
    (set : ofEntry key value = .ok (some single)) (layer : OptionLayer) (rest : Fields) :
    readEntries layer ((key, value) :: rest) = readEntries (layer.merge single) rest := by
  rw [readEntries, set]

/-- The files of layers that are merged are those of all of them. -/
theorem files_foldl_merge (layers : List OptionLayer) (lower : OptionLayer) :
    (layers.foldl merge lower).files = lower.files ++ layers.flatMap (·.files) := by
  induction layers generalizing lower with
  | nil => simp
  | cons layer rest ih => simp [ih]

end OptionLayer

end Caret
