import Caret.Data.Moment
import Caret.Decimal.Shortest
import Caret.Text.Numeral
import Caret.Text.Quoted

/-!
# Values of data documents

The values that batches and configuration files are made of. A record keeps its fields in the
order of the document; a field that comes again replaces the value and keeps the place.
Messages show a value as a literal, which can be written if all of its integers can.
-/

namespace Caret.Data

open Decimal (Binary64)

/-- A value of a data document. -/
inductive Value where
  | null
  | boolean (value : Bool)
  | integer (value : Int)
  | float (value : Binary64)
  | string (value : String)
  | moment (value : Moment)
  | list (items : List Value)
  | record (fields : List (String × Value))
  deriving Inhabited, Repr

/-- The fields of a record. -/
abbrev Fields := List (String × Value)

namespace Fields

/-- The value of a field. -/
def get? (fields : Fields) (key : String) : Option Value := fields.lookup key

/-- The keys of a record, in its order. -/
def keys (fields : Fields) : List String := fields.map (·.1)

/-- Sets a field: in its place if there is one of this key, at the end otherwise. -/
def set : Fields → String → Value → Fields
  | [], key, value => [(key, value)]
  | (other, old) :: rest, key, value =>
    if other == key then (other, value) :: rest else (other, old) :: set rest key value

/-- What was set is found again. -/
theorem get?_set_self (fields : Fields) (key : String) (value : Value) :
    (set fields key value).get? key = some value := by
  induction fields with
  | nil => simp [set, get?]
  | cons field rest ih =>
    obtain ⟨other, old⟩ := field
    cases h : other == key
    · have hk : (key == other) = false := by rw [BEq.comm, h]
      simpa [set, get?, h, List.lookup_cons, hk] using ih
    · have hk : (key == other) = true := by rw [BEq.comm, h]
      simp [set, get?, h, List.lookup_cons, hk]

/-- What was set under another key stays. -/
theorem get?_set_of_ne (fields : Fields) {key other : String} (value : Value)
    (h : other ≠ key) : (set fields key value).get? other = fields.get? other := by
  induction fields with
  | nil =>
    have hk : (other == key) = false := beq_eq_false_iff_ne.2 h
    simp [set, get?, List.lookup_cons, hk]
  | cons field rest ih =>
    obtain ⟨first, old⟩ := field
    simp only [set]
    split
    · next hf =>
      have hk : (other == first) = false := by
        rw [beq_iff_eq.1 hf]
        exact beq_eq_false_iff_ne.2 h
      simp only [get?, List.lookup_cons, hk]
    · simp only [get?, List.lookup_cons]
      split
      · rfl
      · exact ih

end Fields

namespace Value

/-- Whether a value counts as a yes: null, false, zero and what is empty do not. -/
def isTruthy : Value → Bool
  | null => false
  | boolean value => value
  | integer value => value ≠ 0
  | float value => !value.isZero
  | string value => value ≠ ""
  | moment _ => true
  | list items => !items.isEmpty
  | record fields => !fields.isEmpty

mutual

/-- A value as a literal. -/
def literal : Value → String
  | null => "None"
  | boolean true => "True"
  | boolean false => "False"
  | integer value => toString value
  | float value => String.ofList value.text
  | string value => Text.quotedString value
  | moment value => value.text
  | list items => "[" ++ ", ".intercalate (literals items) ++ "]"
  | record fields => "\x7b" ++ ", ".intercalate (fieldLiterals fields) ++ "\x7d"

/-- The literals of a list of values. -/
def literals : List Value → List String
  | [] => []
  | item :: rest => literal item :: literals rest

/-- The literals of fields: the key, a colon and the value. -/
def fieldLiterals : List (String × Value) → List String
  | [] => []
  | (key, value) :: rest => (Text.quotedString key ++ ": " ++ literal value) :: fieldLiterals rest

end

mutual

/-- Whether all integers in a value can be written. -/
def isWritable : Value → Bool
  | integer value => Text.isWritable value
  | list items => areWritable items
  | record fields => haveWritable fields
  | _ => true

/-- Whether all integers in a list of values can be written. -/
def areWritable : List Value → Bool
  | [] => true
  | item :: rest => isWritable item && areWritable rest

/-- Whether all integers in some fields can be written. -/
def haveWritable : List (String × Value) → Bool
  | [] => true
  | (_, value) :: rest => isWritable value && haveWritable rest

end

/-- A value as text: strings stand for themselves, all else is written as a literal. -/
def plainText : Value → String
  | string value => value
  | value => literal value

end Value

end Caret.Data
