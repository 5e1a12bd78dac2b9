import Caret.Toml.Growth

/-!
# Values of finished items

When a document has been read, the parts of its tables are put together, and what was an item is a
value: a table of either kind is a record, an array of either kind is a list.
-/

namespace Caret.Toml

open Data (Value Fields)

mutual

/-- The value of a finished item. The bound is on the depth of items. -/
def Item.resolve : Nat → Item → Except Conflict Value
  | 0, _ => .error .redefinedTable
  | _ + 1, .scalar value => .ok value
  | bound + 1, .array items => (items.mapM fun item ↦ Item.resolve bound item).map .list
  | bound + 1, .inline items => (Items.resolve bound items).map .record
  | bound + 1, .table _ _ items _ => (Items.resolve bound items).map .record
  | bound + 1, .tables elements =>
    (elements.mapM fun items ↦ (Items.resolve bound items).map .record).map .list

/-- The fields of finished items; the parts of a table make one record. -/
def Items.resolve : Nat → Items → Except Conflict Fields
  | 0, _ => .error .redefinedTable
  | bound + 1, items =>
    items.names.mapM fun name ↦
      match items.ofKey name with
      | [item] => (Item.resolve bound item).map (name, ·)
      | parts => do
        let joined ← Items.unite bound parts
        return (name, .record (← Items.resolve bound joined))

end

end Caret.Toml
