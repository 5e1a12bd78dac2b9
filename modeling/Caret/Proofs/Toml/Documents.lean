import Mathlib.Data.List.Forall2
import Mathlib.Data.List.Nodup
import Caret.Proofs.Toml.Scalars

/-!
# Reading written documents

A document that was written is read back: first its single values, line by line, and then table
after table. No key may come twice in the same place, and every value must be one that can be
written. Comments and line breaks around the document make no difference.
-/

namespace Caret.Toml

open Data (Value Fields)
open Text

/-! ## Items of written values -/

/-- The items of single values. -/
def itemsOf (entries : Entries) : Items :=
  entries.map fun entry ↦ (⟨entry.1, false⟩, .scalar entry.2.toValue)

/-- The items of tables. -/
def tableItemsOf (tables : List (String × Entries)) : Items :=
  tables.map fun table ↦ (⟨table.1, false⟩, .part false false (itemsOf table.2))

/-- The fields of single values. -/
def fieldsOf (entries : Entries) : Fields := entries.map fun entry ↦ (entry.1, entry.2.toValue)

/-- The fields of a document: its single values, and a record for each table. -/
def Document.fields (document : Document) : Fields :=
  fieldsOf document.entries ++ document.tables.map fun table ↦ (table.1, .record (fieldsOf table.2))

/-- No key comes twice in the same place of a document. -/
structure Document.HasDistinctKeys (document : Document) : Prop where
  top : (document.entries.map (·.1) ++ document.tables.map (·.1)).Nodup
  inside : ∀ table ∈ document.tables, (table.2.map (·.1)).Nodup

/-- The names of some items, in their order. -/
def Items.keyNames (items : Items) : List String := items.map (·.1.name)

/-- The names of single values are their keys. -/
theorem keyNames_itemsOf (entries : Entries) : (itemsOf entries).keyNames = entries.map (·.1) := by
  simp [itemsOf, Items.keyNames, Function.comp_def]

/-- The names of tables are their keys. -/
theorem keyNames_tableItemsOf (tables : List (String × Entries)) :
    (tableItemsOf tables).keyNames = tables.map (·.1) := by
  simp [tableItemsOf, Items.keyNames, Function.comp_def]

/-- The names of two lists of items are those of both. -/
theorem keyNames_append (items more : Items) :
    (items ++ more).keyNames = items.keyNames ++ more.keyNames :=
  List.map_append

namespace Items

/-- A key that is new has no items. -/
theorem entriesOf_eq_nil {items : Items} {name : String} (h : name ∉ items.keyNames) :
    items.entriesOf name = [] := by
  refine List.filter_eq_nil_iff.mpr fun entry member same ↦ h ?_
  rw [beq_iff_eq] at same
  exact List.mem_map.mpr ⟨entry, member, same⟩

private theorem last?_eq_none {items : Items} {name : String} (h : name ∉ items.keyNames) :
    items.last? name = none := by
  refine List.find?_eq_none.mpr fun entry member same ↦ h ?_
  rw [beq_iff_eq] at same
  exact List.mem_map.mpr ⟨entry, List.mem_reverse.mp member, same⟩

/-- Where no key comes twice, an item is the only one of its key. -/
theorem ofKey_eq_singleton {items : Items} (nodup : items.keyNames.Nodup) {key : Key} {item : Item}
    (member : (key, item) ∈ items) : items.ofKey key.name = [item] := by
  induction items with
  | nil => cases member
  | cons first rest ih =>
    obtain ⟨fresh, others⟩ := List.nodup_cons.mp nodup
    rw [ofKey, entriesOf]
    rcases List.mem_cons.mp member with rfl | later
    · rw [List.filter_cons_of_pos (by simp)]
      have none : entriesOf rest key.name = [] := entriesOf_eq_nil fresh
      rw [entriesOf] at none
      rw [none]
      rfl
    · have other : ¬ (first.1.name == key.name) = true := by
        intro same
        rw [beq_iff_eq] at same
        exact fresh (List.mem_map.mpr ⟨_, later, same.symm⟩)
      rw [List.filter_cons, if_neg other]
      exact ih others later

/-- Where no key comes twice, the keys are all of them. -/
theorem names_eq_keyNames {items : Items} (nodup : items.keyNames.Nodup) :
    items.names = items.keyNames := by
  have distinct {names : List String} (nodup : names.Nodup) : names.eraseDups = names := by
    induction names with
    | nil => rfl
    | cons name rest ih =>
      obtain ⟨fresh, others⟩ := List.nodup_cons.mp nodup
      have kept : rest.filter (fun other ↦ !other == name) = rest :=
        List.filter_eq_self.mpr fun other member ↦ by
          simpa using fun same : other = name ↦ fresh (same ▸ member)
      rw [List.eraseDups_cons, kept, ih others]
  exact distinct nodup

end Items

/-! ## Lines -/

private theorem skipLineEnd_newline (rest : Text) : skipLineEnd ('\n' :: rest) = .ok rest := rfl

private theorem readEntry_entryLine (bound depth : Nat) {entry : String × Scalar}
    (h : entry.2.isWritable = true) (rest : Text) :
    readEntry (bound + 2) depth (entryLine entry ++ '\n' :: rest) =
      .ok ([entry.1], .scalar entry.2.toValue, '\n' :: rest) := by
  have line : entryLine entry ++ '\n' :: rest =
      keyText entry.1 ++ ([' '] ++ '=' :: ' ' :: (entry.2.text ++ '\n' :: rest)) := by
    rw [entryLine, List.append_assoc, List.append_assoc]
    rfl
  have path : readPath
      (keyText entry.1 ++ ([' '] ++ '=' :: ' ' :: (entry.2.text ++ '\n' :: rest))) =
      .ok ([entry.1], '=' :: ' ' :: (entry.2.text ++ '\n' :: rest)) :=
    readPath_keyText entry.1 (List.forall_mem_singleton.mpr rfl) (Or.inr rfl)
  have equals : skipEquals ('=' :: ' ' :: (entry.2.text ++ '\n' :: rest)) =
      .ok (entry.2.text ++ '\n' :: rest) := by
    obtain ⟨c, others, text, solid⟩ := exists_text_eq_cons entry.2
    rw [text, List.cons_append]
    exact congrArg Except.ok
      (@skipSpaces_append [' '] (List.forall_mem_singleton.mpr rfl) c solid _)
  rw [line, readEntry, path]
  dsimp only [Bind.bind, Except.bind]
  rw [equals]
  dsimp only
  rw [readValue_text bound depth h]
  rfl

private theorem readLines_of_stop {add : Items → List String → Item → Except Error Items}
    (bound : Nat) {items : Items} {text start : Text} (gaps : skipGaps text = .ok start)
    (stops : start = [] ∨ start.head? = some '[') :
    readLines add (bound + 1) items text = .ok (items, start) := by
  rw [readLines, gaps]
  exact if_pos stops

private theorem readLines_congr {add : Items → List String → Item → Except Error Items}
    (bound : Nat) (items : Items) {text other : Text} (h : skipGaps text = skipGaps other) :
    readLines add bound items text = readLines add bound items other := by
  cases bound with
  | zero => rfl
  | succ bound => rw [readLines, readLines, h]

/-- The text of single values. -/
def entriesText (entries : Entries) : Text := entries.flatMap fun entry ↦ entryLine entry ++ ['\n']

/-- Items are added behind all others if their key is new. -/
def AddsFresh (add : Items → List String → Item → Except Error Items) : Prop :=
  ∀ items name item, name ∉ items.keyNames →
    add items [name] item = .ok (items ++ [(⟨name, false⟩, item)])

/-- An item whose key is new comes behind all others. -/
theorem appendPath_of_fresh (bound : Nat) (checked : Bool) {items : Items} {name : String}
    (fresh : name ∉ items.keyNames) (item : Item) :
    Items.appendPath (bound + 1) checked items [name] item =
      .ok (items ++ [(⟨name, false⟩, item)]) :=
  Items.append_of_last?_eq_none (Items.last?_eq_none fresh)

/-- Outside of all tables, items are added behind all others if their key is new. -/
theorem addsFresh_addOutside (bound : Nat) : AddsFresh (addOutside (bound + 1)) := by
  intro items name item fresh
  rw [addOutside, appendPath_of_fresh bound true fresh item]

private theorem addsFresh_addInside (bound : Nat) : AddsFresh (addInside (bound + 1)) := by
  intro items name item fresh
  have single : (items ++ [(⟨name, false⟩, item)] : Items).ofKey name = [item] := by
    rw [Items.ofKey_append, Items.ofKey, Items.entriesOf_eq_nil fresh]
    simp [Items.ofKey, Items.entriesOf]
  have touched : Items.touch (bound + 1) (items ++ [(⟨name, false⟩, item)]) name = .ok () := by
    rw [Items.touch, single]
  rw [addInside, appendPath_of_fresh bound false fresh item]
  dsimp only [Bind.bind, Except.bind, List.headD_cons]
  rw [touched]
  rfl

private theorem readLines_entryLine {add : Items → List String → Item → Except Error Items}
    (adds : AddsFresh add) (bound : Nat) {entry : String × Scalar} {items : Items}
    (writable : entry.2.isWritable = true) (fresh : entry.1 ∉ items.keyNames) (text : Text) :
    readLines add (bound + 3) items (entryLine entry ++ '\n' :: text) =
      readLines add (bound + 2) (items ++ itemsOf [entry]) text := by
  have start : skipGaps (entryLine entry ++ '\n' :: text) = .ok (entryLine entry ++ '\n' :: text) ∧
      ¬ (entryLine entry ++ '\n' :: text = [] ∨
        (entryLine entry ++ '\n' :: text).head? = some '[') := by
    obtain ⟨c, rest, key, solid, comment, bracket⟩ := exists_keyText_eq_cons entry.1
    rw [entryLine, key, List.cons_append, List.cons_append, List.cons_append]
    refine ⟨skipGaps_of_start solid comment _, ?_⟩
    simpa using bracket
  rw [readLines, start.1]
  dsimp only [Bind.bind, Except.bind]
  rw [if_neg start.2, readEntry_entryLine bound maxDepth writable]
  dsimp only
  rw [skipLineEnd_newline]
  dsimp only
  rw [adds items entry.1 _ fresh]
  rfl

/-- The lines of single values are read. -/
theorem readLines_entriesText {add : Items → List String → Item → Except Error Items}
    (adds : AddsFresh add) {entries : Entries} {items : Items} {bound : Nat} {text start : Text}
    (writable : entries.all (·.2.isWritable) = true)
    (nodup : (items.keyNames ++ entries.map (·.1)).Nodup) (enough : entries.length + 3 ≤ bound)
    (gaps : skipGaps text = .ok start) (stops : start = [] ∨ start.head? = some '[') :
    readLines add bound items (entriesText entries ++ text) =
      .ok (items ++ itemsOf entries, start) := by
  induction entries generalizing items bound with
  | nil =>
    obtain ⟨bound, rfl⟩ := Nat.exists_eq_add_of_le' enough
    rw [itemsOf, List.map_nil, List.append_nil]
    exact readLines_of_stop _ gaps stops
  | cons entry rest ih =>
    rw [List.all_cons, Bool.and_eq_true] at writable
    rw [List.length_cons] at enough
    obtain ⟨bound, rfl⟩ : ∃ more, bound = more + 3 := ⟨bound - 3, by omega⟩
    have fresh : entry.1 ∉ items.keyNames := fun member ↦
      (List.nodup_append.mp nodup).2.2 _ member _ List.mem_cons_self rfl
    have others : ((items ++ itemsOf [entry]).keyNames ++ rest.map (·.1)).Nodup := by
      rw [keyNames_append, keyNames_itemsOf, List.append_assoc]
      exact nodup
    have lines : entriesText (entry :: rest) ++ text =
        entryLine entry ++ '\n' :: (entriesText rest ++ text) := by
      rw [entriesText, List.flatMap_cons, List.append_assoc, List.append_assoc]
      rfl
    rw [lines, readLines_entryLine adds bound writable.1 fresh,
      ih writable.2 others (by omega), List.append_assoc]
    rfl

/-! ## Tables -/

/-- The text of a table, from its header on. -/
def tableText (table : String × Entries) : Text :=
  '[' :: (keyText table.1 ++ ']' :: '\n' :: entriesText table.2)

/-- The text of tables behind other text: an empty line stands in front of each. -/
def tablesText (tables : List (String × Entries)) : Text :=
  tables.flatMap fun table ↦ '\n' :: tableText table

/-- The text that starts with tables, of which the first has nothing in front of it. -/
def tablesStart (tables : List (String × Entries)) (behind : Text) : Text :=
  match tables with
  | [] => []
  | table :: rest => tableText table ++ (tablesText rest ++ behind)

/-- Text that starts with tables is at its end or at a header. -/
theorem tablesStart_stops (tables : List (String × Entries)) (behind : Text) :
    tablesStart tables behind = [] ∨ (tablesStart tables behind).head? = some '[' := by
  cases tables with
  | nil => exact Or.inl rfl
  | cons table rest => exact Or.inr rfl

/-- The name in a header is read. -/
theorem readHeaderName_keyText (name : String) (rest : Text) :
    readHeaderName ('[' :: (keyText name ++ ']' :: rest)) = .ok (false, [name], ']' :: rest) := by
  have path : readPath (keyText name ++ ([] ++ ']' :: rest)) = .ok ([name], ']' :: rest) :=
    readPath_keyText name (List.forall_mem_nil _) (Or.inl rfl)
  obtain ⟨c, others, key, -, -, bracket⟩ := exists_keyText_eq_cons name
  have plain : ¬ (keyText name ++ ']' :: rest).head? = some '[' := by
    rw [key]
    simpa using bracket
  rw [List.nil_append] at path
  rw [readHeaderName]
  simp only [List.drop_succ_cons, List.drop_zero, plain, decide_false, if_false, path]
  rfl

private theorem readHeader_keyText (name : String) (rest : Text) :
    readHeader ('[' :: (keyText name ++ ']' :: '\n' :: rest)) = .ok (false, [name], rest) := by
  rw [readHeader, readHeaderName_keyText]
  rfl

/-- Behind a table, the gap ends in front of the next one or at the end. -/
theorem skipGaps_tablesText (tables : List (String × Entries)) {behind : Text}
    (h : skipGaps behind = .ok []) :
    skipGaps (tablesText tables ++ behind) = .ok (tablesStart tables behind) := by
  cases tables with
  | nil => exact h
  | cons table rest =>
    rw [tablesText, List.flatMap_cons, List.cons_append, List.cons_append,
      skipGaps_cons (by decide), List.append_assoc]
    exact skipGaps_of_start (by decide) (by decide) _

private theorem isInside_singleton (parent name : String) : isInside [parent] [name] = false := by
  simp [isInside, List.isPrefixOf]

private theorem readInner_tablesStart (depth bound : Nat) (name : String)
    (arrays : List (List String))
    (items : Items) (tables : List (String × Entries)) (behind : Text) :
    readInner depth (bound + 1) [name] arrays items (tablesStart tables behind) =
      .ok (items, tablesStart tables behind) := by
  cases tables with
  | nil => rfl
  | cons table rest =>
    have header : tablesStart (table :: rest) behind = '[' :: (keyText table.1 ++ ']' :: '\n' ::
        (entriesText table.2 ++ (tablesText rest ++ behind))) := by
      simp only [tablesStart, tableText, List.cons_append, List.append_assoc]
    rw [readInner, if_neg (by rw [header]; exact List.cons_ne_nil _ _), header,
      readHeaderName_keyText]
    dsimp only [Bind.bind, Except.bind]
    rw [isInside_singleton]
    rfl

private theorem forM_eq_ok {α ε : Type} {check : α → Except ε Unit} {items : List α}
    (h : ∀ item ∈ items, check item = .ok ()) : items.forM check = .ok () := by
  induction items with
  | nil => rfl
  | cons item rest ih =>
    obtain ⟨here, others⟩ := List.forall_mem_cons.mp h
    show (check item).bind _ = _
    rw [here]
    exact ih others

private theorem checkAll_of_nodup (bound : Nat) {items : Items} (nodup : items.keyNames.Nodup) :
    items.checkAll (bound + 2) = .ok () := by
  rw [Items.checkAll, Items.names_eq_keyNames nodup]
  have each : ∀ name ∈ items.keyNames,
      Items.check (bound + 1) ((items.ofKey name).map Item.entries) = .ok () := by
    intro name member
    obtain ⟨⟨key, item⟩, inside, rfl⟩ := List.mem_map.mp member
    rw [Items.ofKey_eq_singleton nodup inside, List.map_singleton, Items.check]
  exact forM_eq_ok each

private theorem readTable_tableText {depth : Nat} (bound : Nat) {table : String × Entries}
    (writable : table.2.all (·.2.isWritable) = true) (nodup : (table.2.map (·.1)).Nodup)
    (enough : table.2.length + 3 ≤ depth) (tables : List (String × Entries)) {behind : Text}
    (h : skipGaps behind = .ok []) :
    readTable depth (bound + 2) [] [] (tableText table ++ (tablesText tables ++ behind)) =
      .ok (some (⟨table.1, false⟩, .part false false (itemsOf table.2)),
        tablesStart tables behind) := by
  obtain ⟨depth, rfl⟩ : ∃ more, depth = more + 3 := ⟨depth - 3, by omega⟩
  have header : tableText table ++ (tablesText tables ++ behind) = '[' :: (keyText table.1 ++ ']' ::
      '\n' :: (entriesText table.2 ++ (tablesText tables ++ behind))) := by
    simp only [tableText, List.cons_append, List.append_assoc]
  have lines := @readLines_entriesText _ (addsFresh_addInside (depth + 2)) _ [] _ _ _ writable nodup
    enough (skipGaps_tablesText tables h) (tablesStart_stops tables behind)
  have distinct : (itemsOf table.2).keyNames.Nodup := by rwa [keyNames_itemsOf]
  rw [header, readTable, readHeader_keyText]
  dsimp only [Bind.bind, Except.bind]
  rw [lines]
  dsimp only
  rw [List.nil_append, readInner_tablesStart]
  dsimp only
  rw [checkAll_of_nodup (depth + 1) distinct]
  rfl

private theorem readTables_tablesStart {bound count : Nat} {tables : List (String × Entries)}
    {items : Items} {behind : Text} (h : skipGaps behind = .ok [])
    (writable : ∀ table ∈ tables, table.2.all (·.2.isWritable) = true)
    (inside : ∀ table ∈ tables, (table.2.map (·.1)).Nodup)
    (nodup : (items.keyNames ++ tables.map (·.1)).Nodup)
    (short : ∀ table ∈ tables, table.2.length + 3 ≤ bound) (few : tables.length < count) :
    readTables bound count items (tablesStart tables behind) =
      .ok (items ++ tableItemsOf tables) := by
  induction tables generalizing items count with
  | nil =>
    obtain ⟨count, rfl⟩ := Nat.exists_eq_succ_of_ne_zero (Nat.ne_of_gt few)
    rw [tableItemsOf, List.map_nil, List.append_nil]
    rfl
  | cons table rest ih =>
    obtain ⟨count, rfl⟩ := Nat.exists_eq_succ_of_ne_zero (Nat.ne_of_gt (Nat.zero_lt_of_lt few))
    obtain ⟨here, others⟩ := List.forall_mem_cons.mp short
    obtain ⟨bound, rfl⟩ : ∃ more, bound = more + 2 := ⟨bound - 2, by omega⟩
    have fresh : table.1 ∉ items.keyNames := fun member ↦
      (List.nodup_append.mp nodup).2.2 _ member _ List.mem_cons_self rfl
    have distinct : ((items ++ tableItemsOf [table]).keyNames ++ rest.map (·.1)).Nodup := by
      rw [keyNames_append, keyNames_tableItemsOf, List.append_assoc]
      exact nodup
    have read := readTable_tableText bound (writable table List.mem_cons_self)
      (inside table List.mem_cons_self) here rest h
    have later := @ih count (items ++ tableItemsOf [table])
      (fun table member ↦ writable table (List.mem_cons_of_mem _ member))
      (fun table member ↦ inside table (List.mem_cons_of_mem _ member)) distinct others
      (Nat.lt_of_succ_lt_succ few)
    rw [readTables, if_neg (by exact List.cons_ne_nil _ _), tablesStart, read]
    dsimp only [Bind.bind, Except.bind]
    rw [addsFresh_addOutside (bound + 1) items table.1 _ fresh]
    exact later.trans (congrArg Except.ok (List.append_assoc _ _ _))

/-! ## The text of a document -/

/-- The lines of blocks, between which an empty line stands. -/
theorem flatMap_intersperse (block : List Text) (rest : List (List Text)) :
    ((block :: rest).intersperse [[]]).flatten.flatMap (· ++ ['\n']) =
      block.flatMap (· ++ ['\n']) ++
        rest.flatMap fun block ↦ '\n' :: block.flatMap (· ++ ['\n']) := by
  induction rest generalizing block with
  | nil => simp
  | cons next rest ih =>
    rw [List.intersperse_cons_cons, List.flatten_cons, List.flatten_cons, List.flatMap_append,
      List.flatMap_append, ih]
    simp

/-- The lines of a table are its text. -/
theorem flatMap_tableLines (table : String × Entries) :
    (tableLines table).flatMap (· ++ ['\n']) = tableText table := by
  simp [tableLines, tableText, entriesText, List.flatMap_map]

/-- The text of a document: its single values, and then tables with an empty line in front of
each, but for the first one where there are no single values. -/
theorem text_eq (document : Document) :
    document.text =
      match document.entries with
      | [] => tablesStart document.tables []
      | entries => entriesText entries ++ tablesText document.tables := by
  have tables : (document.tables.map tableLines).filter (!·.isEmpty) =
      document.tables.map tableLines := by
    refine List.filter_eq_self.mpr fun block member ↦ ?_
    obtain ⟨table, -, rfl⟩ := List.mem_map.mp member
    rfl
  have others (tables : List (String × Entries)) :
      (tables.map tableLines).flatMap (fun block ↦ '\n' :: block.flatMap (· ++ ['\n'])) =
        tablesText tables := by
    simp only [List.flatMap_map, flatMap_tableLines, tablesText]
  simp only [Document.text, Document.lines]
  rw [List.filter_cons, tables]
  cases document.entries with
  | nil =>
    cases document.tables with
    | nil => rfl
    | cons table rest =>
      have blocks := flatMap_intersperse (tableLines table) (rest.map tableLines)
      rw [flatMap_tableLines, others] at blocks
      rw [tablesStart, List.append_nil]
      exact blocks
  | cons entry rest =>
    have blocks := flatMap_intersperse ((entry :: rest).map entryLine)
      (document.tables.map tableLines)
    rw [others, List.flatMap_map] at blocks
    exact blocks

/-- Where gaps are skipped, a document is its single values and then its tables, with an empty line
in front of each. -/
theorem skipGaps_text (document : Document) (behind : Text) :
    skipGaps (document.text ++ behind) =
      skipGaps (entriesText document.entries ++ (tablesText document.tables ++ behind)) := by
  rw [text_eq]
  cases document.entries with
  | nil =>
    cases document.tables with
    | nil => rfl
    | cons table rest =>
      have newline : entriesText [] ++ (tablesText (table :: rest) ++ behind) =
          '\n' :: (tablesStart (table :: rest) [] ++ behind) := by
        simp [entriesText, tablesText, tablesStart]
      rw [newline, skipGaps_cons (by decide)]
  | cons entry rest => rw [List.append_assoc]

/-- A text has a code point for each single value in it. -/
theorem length_le_entriesText (entries : Entries) :
    entries.length ≤ (entriesText entries).length := by
  induction entries with
  | nil => exact Nat.le_refl 0
  | cons entry rest ih =>
    rw [entriesText, List.flatMap_cons, ← entriesText, List.length_append, List.length_append,
      List.length_cons, List.length_singleton]
    omega

/-- A table has more code points than values. -/
theorem length_lt_tableText (table : String × Entries) :
    table.2.length < (tableText table).length := by
  have := length_le_entriesText table.2
  simp only [tableText, List.length_cons, List.length_append]
  omega

/-- A text has a code point for each table in it, and for each value of a table. -/
theorem length_le_tablesText (tables : List (String × Entries)) :
    tables.length ≤ (tablesText tables).length ∧
      ∀ table ∈ tables, table.2.length ≤ (tablesText tables).length := by
  induction tables with
  | nil => exact ⟨Nat.le_refl 0, fun _ none ↦ nomatch none⟩
  | cons table rest ih =>
    have here := length_lt_tableText table
    rw [tablesText, List.flatMap_cons, ← tablesText, List.length_append, List.length_cons,
      List.length_cons]
    refine ⟨by omega, List.forall_mem_cons.mpr ⟨by omega, fun other member ↦ ?_⟩⟩
    have := ih.2 other member
    omega

private theorem length_le_text (document : Document) :
    document.entries.length ≤ document.text.length ∧
      document.tables.length ≤ document.text.length ∧
        ∀ table ∈ document.tables, table.2.length ≤ document.text.length := by
  rw [text_eq]
  cases document.entries with
  | nil =>
    cases document.tables with
    | nil => exact ⟨Nat.le_refl 0, Nat.le_refl 0, fun _ none ↦ nomatch none⟩
    | cons table rest =>
      have here := length_lt_tableText table
      obtain ⟨others, inside⟩ := length_le_tablesText rest
      dsimp only [tablesStart]
      rw [List.append_nil, List.length_append, List.length_cons]
      refine ⟨Nat.zero_le _, by omega, List.forall_mem_cons.mpr ⟨by omega, fun other member ↦ ?_⟩⟩
      have := inside other member
      omega
  | cons entry rest =>
    have here := length_le_entriesText (entry :: rest)
    obtain ⟨others, inside⟩ := length_le_tablesText document.tables
    dsimp only
    rw [List.length_append]
    refine ⟨by omega, by omega, fun other member ↦ ?_⟩
    have := inside other member
    omega

/-! ## Finished items -/

/-- Items of which no key comes twice are the fields of their values. -/
theorem resolve_of_nodup {bound : Nat} {items : Items} {fields : Fields}
    (nodup : items.keyNames.Nodup)
    (values : List.Forall₂ (fun item field ↦ item.1.name = field.1 ∧
      Item.resolve bound item.2 = .ok field.2) items fields) :
    Items.resolve (bound + 1) items = .ok fields := by
  have each : ∀ item ∈ items, items.ofKey item.1.name = [item.2] := fun item member ↦
    Items.ofKey_eq_singleton nodup member
  rw [Items.resolve, Items.names_eq_keyNames nodup]
  generalize items.ofKey = found at each
  clear nodup
  rw [Items.keyNames]
  induction values with
  | nil => rfl
  | cons here _ ih =>
    obtain ⟨first, others⟩ := List.forall_mem_cons.mp each
    rw [List.map_cons, List.mapM_cons, first]
    dsimp only
    rw [ih others, here.2, here.1]
    rfl

private theorem resolve_itemsOf (bound : Nat) {entries : Entries}
    (nodup : (entries.map (·.1)).Nodup) :
    (itemsOf entries).resolve (bound + 2) = .ok (fieldsOf entries) := by
  refine resolve_of_nodup (keyNames_itemsOf entries ▸ nodup) ?_
  rw [itemsOf, fieldsOf, List.forall₂_map_left_iff, List.forall₂_map_right_iff, List.forall₂_same]
  exact fun entry _ ↦ ⟨rfl, rfl⟩

private theorem resolve_document (bound : Nat) {document : Document}
    (h : document.HasDistinctKeys) :
    Items.resolve (bound + 4) (itemsOf document.entries ++ tableItemsOf document.tables) =
      .ok document.fields := by
  refine resolve_of_nodup ?_ (List.rel_append ?_ ?_)
  · rw [keyNames_append, keyNames_itemsOf, keyNames_tableItemsOf]
    exact h.top
  · rw [itemsOf, fieldsOf, List.forall₂_map_left_iff, List.forall₂_map_right_iff,
      List.forall₂_same]
    exact fun entry _ ↦ ⟨rfl, rfl⟩
  · rw [tableItemsOf, List.forall₂_map_left_iff, List.forall₂_map_right_iff, List.forall₂_same]
    intro table member
    refine ⟨rfl, ?_⟩
    rw [Item.part, Item.resolve, resolve_itemsOf bound (h.inside table member)]
    rfl

/-! ## Documents -/

/-- A text is skipped where gaps are skipped, whatever follows it. -/
def IsGap (front : Text) : Prop := ∀ text, skipGaps (front ++ text) = skipGaps text

/-- Nothing is a gap. -/
theorem isGap_nil : IsGap [] := fun _ ↦ rfl

private theorem isGap_comment {comment : Text} (line : '\n' ∉ comment)
    (valid : comment.any isForbidden = false) : IsGap ('#' :: comment ++ ['\n']) := by
  intro text
  rw [List.append_assoc]
  exact skipGaps_comment line valid text

/-- Behind the end of a document, a gap is nothing. -/
theorem IsGap.skipGaps_eq_nil {behind : Text} (h : IsGap behind) : skipGaps behind = .ok [] := by
  have nothing := h []
  rwa [List.append_nil, skipGaps_nil] at nothing

/-- What was written is read: a document that can be written gives back its fields, whatever
comments stand around it. -/
theorem read_text {document : Document} {front behind : Text} (distinct : document.HasDistinctKeys)
    (writable : document.isWritable = true) (before : IsGap front) (after : IsGap behind) :
    read (front ++ document.text ++ behind) = .ok document.fields := by
  obtain ⟨few, fewTables, inside⟩ := length_le_text document
  obtain ⟨bound, enough, bounds⟩ : ∃ bound, document.text.length ≤ bound ∧
      boundFor (front ++ document.text ++ behind) = bound + 4 := by
    refine ⟨4 * (front ++ document.text ++ behind).length, ?_, rfl⟩
    rw [List.length_append, List.length_append]
    omega
  obtain ⟨entries, tables⟩ : document.entries.all (·.2.isWritable) = true ∧
      ∀ table ∈ document.tables, table.2.all (·.2.isWritable) = true := by
    rw [Document.isWritable, List.all_cons, Bool.and_eq_true, List.all_map] at writable
    exact ⟨writable.1, List.all_eq_true.mp writable.2⟩
  have gaps : skipGaps (front ++ document.text ++ behind) =
      skipGaps (entriesText document.entries ++ (tablesText document.tables ++ behind)) := by
    rw [List.append_assoc, before, skipGaps_text]
  have lines := @readLines_entriesText _ (addsFresh_addOutside (bound + 3)) _ [] (bound + 4) _ _
    entries (List.nodup_append.mp distinct.top).1 (by omega)
    (skipGaps_tablesText document.tables after.skipGaps_eq_nil) (tablesStart_stops _ _)
  have tables := @readTables_tablesStart (bound + 4) (bound + 4) _ (itemsOf document.entries) _
    after.skipGaps_eq_nil tables distinct.inside
    (by rw [keyNames_itemsOf]; exact distinct.top)
    (fun table member ↦ by have := inside table member; omega) (by omega)
  rw [read, readItemsOf, bounds]
  dsimp only
  rw [readLines_congr _ _ gaps, lines]
  dsimp only [Bind.bind, Except.bind]
  rw [List.nil_append, tables]
  dsimp only
  rw [resolve_document bound distinct]
  rfl

/-! ## Writers and readers that agree -/

/-- A text is empty or a comment on a line of its own. -/
def IsRemark (text : Text) : Prop :=
  text = [] ∨ ∃ comment : Text,
    text = '#' :: comment ++ ['\n'] ∧ '\n' ∉ comment ∧ comment.any isForbidden = false

/-- Remarks are gaps. -/
theorem IsRemark.isGap {text : Text} (h : IsRemark text) : IsGap text := by
  rcases h with rfl | ⟨comment, rfl, line, valid⟩
  · exact isGap_nil
  · exact isGap_comment line valid

/-- A writer of documents, and a reader that reads them again. -/
structure Codec where
  write : Document → Option Text
  read : Text → Except Error Fields
  /-- Documents are written unless an integer has too many digits. -/
  writes : ∀ document, (write document).isSome = document.isWritable
  /-- What was written is read as the fields of the document, whatever remarks stand around it. -/
  reads : ∀ {document : Document} {text front behind : Text}, document.HasDistinctKeys →
    write document = some text → IsRemark front → IsRemark behind →
    read (front ++ text ++ behind) = .ok document.fields

/-- The writer and the reader of this library. -/
def codec : Codec where
  write := Document.text?
  read := read
  writes document := by
    rw [Document.text?]
    cases document.isWritable <;> rfl
  reads distinct written before after := by
    rw [Document.text?] at written
    split at written
    · next writable =>
      cases written
      exact read_text distinct writable before.isGap after.isGap
    · cases written

namespace Codec

variable (codec : Codec)

/-- A document is written exactly if its integers can be. -/
theorem exists_write_iff (document : Document) :
    (∃ text, codec.write document = some text) ↔ document.isWritable = true := by
  rw [← codec.writes, Option.isSome_iff_exists]

end Codec

end Caret.Toml
