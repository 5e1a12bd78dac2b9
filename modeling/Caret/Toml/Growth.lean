import Caret.Toml.Item

/-!
# Growing tables

What may follow what in a table. A part that is only the way to an inner table is put into the part
in front of it where nothing stands between them, and is kept beside it otherwise; behind an array
of tables it belongs to the last element.

Two rules keep the parts of a table together. A part that opens a table or comes to an open one has
to fit the part in front of it, entry by entry. And all parts, as far as they are known, have to
make one table when they are added one after the other. All bounds are on the depth of items.
-/

namespace Caret.Toml.Items

mutual

/-- Whether a part of a table fits the part in front of it: the keys that both have hold tables that
fit, and the part in front has each of them only once. -/
def fit : Nat → Items → Items → Except Conflict Unit
  | 0, _, _ => .error .redefinedTable
  | bound + 1, old, new =>
    new.forM fun (key, item) ↦
      match old.entriesOf key.name with
      | [] => .ok ()
      | [(oldKey, oldItem)] => fitItem bound oldKey oldItem key item
      | _ => .error (.repeatedKey key.name)

/-- Whether an item fits the one in front of it. Dots on the left of a value do not lead into a
table that was opened by a header, and no header opens a table that dots lead into. -/
def fitItem : Nat → Key → Item → Key → Item → Except Conflict Unit
  | 0, _, _, _, _ => .error .redefinedTable
  | bound + 1, oldKey, old, key, item =>
    match old, item with
    | .table true _ old _, .table true false new _ => fit bound old new
    | .table false _ old _, .table true false new _ =>
      if key.dotted then .error .redefinedTable else fit bound old new
    | .table true _ old _, .table false false new _ =>
      if oldKey.dotted then .error .redefinedTable else fit bound old new
    | .tables elements, .table true false new _ =>
      if key.dotted then .error .redefinedTable else fit bound (elements.getLast?.getD []) new
    | .tables _, .tables _ => .ok ()
    | _, _ => .error (.repeatedKey key.name)

end

mutual

/-- Adds an item. `checked` tells whether parts that stay side by side are made sure to make one
table. -/
def append : Nat → Bool → Items → Key → Item → Except Conflict Items
  | 0, _, _, _, _ => .error .redefinedTable
  | bound + 1, checked, items, key, item =>
    match items.last? key.name with
    | none => .ok (items ++ [(key, item)])
    | some (last, current) => do
      match item, current with
      | .table _ true new _, .tables elements =>
        return items.replaceLast last (.tables (elements ++ [new]))
      | .table _ true new _, .table _ _ old _ =>
        return items.replaceLast last (.tables [old, new])
      | .table true false new _, .tables elements =>
        let grown ← new.foldlM (appendLooked bound) (elements.getLast?.getD [])
        return items.replaceLast last (.tables (elements.dropLast ++ [grown]))
      | .table true false new _, .table true element old known =>
        if key.dotted ∨ last.dotted ∨ items.lastTable? ≠ some last.name then
          appendPart bound checked items key item
        else
          let grown ← new.foldlM (appendLooked bound) old
          return items.replaceLast last (.table true element grown known)
      | .table true false new _, .table false _ old _ =>
        fit bound old new
        appendPart bound checked items key item
      | .table false false new _, .table true _ old _ =>
        if last.dotted then throw .redefinedTable
        fit bound old new
        appendPart bound checked items key item
      | .tables new, .tables elements =>
        return items.replaceLast last (.tables (elements ++ new))
      | _, _ => throw (.repeatedKey key.name)

/-- Adds a part of a table that stays beside the others. -/
def appendPart : Nat → Bool → Items → Key → Item → Except Conflict Items
  | 0, _, _, _, _ => .error .redefinedTable
  | bound + 1, checked, items, key, item => do
    let extended := items ++ [(key, item)]
    if checked then
      check bound ((extended.ofKey key.name).map Item.known)
      return extended.remember key.name
    else return extended

/-- Adds an item and looks its key up. -/
def appendLooked : Nat → Items → Key × Item → Except Conflict Items
  | 0, _, _ => .error .redefinedTable
  | bound + 1, items, (key, item) => do
    let extended ← append bound true items key item
    touch bound extended key.name
    return extended

/-- Looks a key up: the parts of its table have to be one. -/
def touch : Nat → Items → String → Except Conflict Unit
  | 0, _, _ => .error .redefinedTable
  | bound + 1, items, name =>
    match items.ofKey name with
    | [] | [_] => .ok ()
    | parts => (unite bound parts).map fun _ ↦ ()

/-- The parts of a table as one, where the parts of the tables inside make one table each. -/
def unite : Nat → List Item → Except Conflict Items
  | 0, _ => .error .redefinedTable
  | bound + 1, parts => do
    let joined ← join parts
    checkAll bound joined
    return joined

/-- Makes sure that the entries of several parts make one table when they are added one after the
other, and so do those of the tables inside. -/
def check : Nat → List Items → Except Conflict Unit
  | 0, _ => .error .redefinedTable
  | _ + 1, [] => .ok ()
  | _ + 1, [_] => .ok ()
  | bound + 1, parts => do
    let joined ← parts.flatten.foldlM
      (fun joined (key, item) ↦ append bound false joined key item) []
    checkAll bound joined

/-- Makes sure that the parts of each table make one table. -/
def checkAll : Nat → Items → Except Conflict Unit
  | 0, _ => .error .redefinedTable
  | bound + 1, items =>
    items.names.forM fun name ↦ check bound ((items.ofKey name).map Item.entries)

end

/-- An item with a new key comes behind all others. -/
theorem append_of_last?_eq_none {bound : Nat} {checked : Bool} {items : Items} {key : Key}
    {item : Item} (h : items.last? key.name = none) :
    append (bound + 1) checked items key item = .ok (items ++ [(key, item)]) := by
  simp [append, h]

/-! ## Keys of several names -/

/-- An item under several names: every name but the last opens an implicit table. -/
def nest (dotted : Bool) : List String → Item → Option (Key × Item)
  | [], _ => none
  | [name], item => some (⟨name, false⟩, item)
  | name :: rest, item =>
    (nest dotted rest item).map fun inner ↦ (⟨name, dotted⟩, .part true false [inner])

/-- Adds the item of a line with a key of several names. Parts that dots lead to are always made
sure to make one table. -/
def appendPath (bound : Nat) (checked : Bool) (items : Items) (path : List String)
    (item : Item) : Except Conflict Items :=
  match nest true path item with
  | none => .ok items
  | some (key, inner) => append bound (checked || key.dotted) items key inner

end Caret.Toml.Items
