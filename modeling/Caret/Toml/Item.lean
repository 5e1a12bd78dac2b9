import Caret.Data.Value

/-!
# Items of a document

What stands in a document under its keys, as long as it is not known to be complete: a table may be
opened in several parts, of which some are only the way to an inner table, and an array of tables
gets its elements one after the other.

The parts of a table need not be neighbours. Parts that are not put into one another are kept side
by side under the same key.
-/

namespace Caret.Toml

open Data (Value)

/-- A key of a table. One that stands in front of a dot, on the left of a value, is marked. -/
structure Key where
  name : String
  dotted : Bool := false
  deriving DecidableEq, Repr

/-- An item of a document. -/
inductive Item where
  | scalar (value : Value)
  | array (items : List Item)
  | inline (entries : List (Key × Item))
  /-- A part of a table. It is implicit if it is only the way to an inner table, and an element
  if it belongs to an array of tables. Once it was looked at together with the other parts, what
  is `known` of it are the entries it had then. -/
  | table (implicit element : Bool) (entries : List (Key × Item))
      (known : Option (List (Key × Item)))
  | tables (elements : List (List (Key × Item)))

/-- Items under their keys. -/
abbrev Items := List (Key × Item)

/-- Why an item may not stand where it stands. -/
inductive Conflict where
  | repeatedKey (key : String)
  | redefinedTable
  deriving DecidableEq, Repr

namespace Item

/-- A part of a table that no one has looked at yet. -/
def part (implicit element : Bool) (entries : Items) : Item :=
  table implicit element entries none

/-- Whether an item is a part of a table. -/
def isTable : Item → Bool
  | table _ _ _ _ => true
  | _ => false

/-- The entries of a part of a table. -/
def entries : Item → Items
  | table _ _ entries _ => entries
  | _ => []

/-- The entries of a part of a table that count when it is looked at with the other parts. -/
def known : Item → Items
  | table _ _ entries known => known.getD entries
  | _ => []

/-- The item after a look at it: what a part gets from now on is not known. -/
def remember : Item → Item
  | table implicit element entries known =>
    table implicit element entries (some (known.getD entries))
  | item => item

end Item

namespace Items

/-- The items of a key, with the key as it stands at each. -/
def entriesOf (items : Items) (name : String) : Items := items.filter (·.1.name == name)

/-- The items of a key. -/
def ofKey (items : Items) (name : String) : List Item := (items.entriesOf name).map (·.2)

/-- The last item of a key, and the key as it stands there. -/
def last? (items : Items) (name : String) : Option (Key × Item) :=
  items.reverse.find? (·.1.name == name)

/-- The key of the last part of a table. -/
def lastTable? (items : Items) : Option String :=
  (items.reverse.find? (·.2.isTable)).map (·.1.name)

/-- The keys, each at its first place. -/
def names (items : Items) : List String := (items.map (·.1.name)).eraseDups

/-- Puts an item in the place of the last one of a key. -/
def replaceLast (items : Items) (key : Key) (item : Item) : Items :=
  match items.reverse.findIdx? (·.1.name == key.name) with
  | some index => items.set (items.length - 1 - index) (key, item)
  | none => items ++ [(key, item)]

/-- Remembers what is known of the parts of a table. -/
def remember (items : Items) (name : String) : Items :=
  items.map fun (key, item) ↦ (key, if key.name = name then item.remember else item)

/-- Adds an item behind all others. A key may come again behind a part of a table, and an array of
tables goes on with another one. -/
def push (items : Items) (key : Key) (item : Item) : Except Conflict Items :=
  match items.last? key.name with
  | none => .ok (items ++ [(key, item)])
  | some (last, current) =>
    match current, item with
    | .tables elements, .tables more => .ok (items.replaceLast last (.tables (elements ++ more)))
    | .table _ _ _ _, _ => .ok (items ++ [(key, item)])
    | _, _ => .error (.repeatedKey key.name)

/-- The parts of a table as one. -/
def join (parts : List Item) : Except Conflict Items :=
  (parts.flatMap Item.entries).foldlM (fun joined (key, item) ↦ push joined key item) []

/-- The items of a key in two lists are those of the first, then those of the second. -/
theorem ofKey_append (items more : Items) (name : String) :
    ofKey (items ++ more) name = ofKey items name ++ ofKey more name := by
  simp [ofKey, entriesOf]

/-- Remembering does not change which keys there are. -/
theorem names_remember (items : Items) (name : String) :
    names (remember items name) = names items := by
  simp [names, remember, Function.comp_def]

end Items

end Caret.Toml
