import Caret.Toml.Literal
import Caret.Toml.Resolution

/-!
# Reading TOML

A document is read line by line: first the entries outside of all tables, then table after table.
A table holds the entries up to the next header, and the tables whose headers follow and go on
with its own name.
-/

namespace Caret.Toml

open Data (Value Fields)
open Text

/-! ## Keys -/

/-- The greatest number of names in a key, and the greatest depth of values in one another. -/
def maxDepth : Nat := 100

/-- Reads at most `count` names of a key up to what follows it. A name without quotes may have
white space around it, but none inside. -/
def readNames : Nat → Text → Except Error (List String × Text)
  | 0, _ => .error .malformed
  | count + 1, text => do
    let start := skipSpaces text
    let (name, rest) ← match start with
      | '"' :: inside => quotedName '"' inside
      | '\'' :: inside => quotedName '\'' inside
      | _ =>
        let run := start.takeWhile fun c ↦ isBareChar c || isSpace c
        let name := trim run
        if name = [] ∨ name.any isSpace then throw .malformed
        else pure (String.ofList name, start.drop run.length)
    match rest with
    | '.' :: more =>
      let (names, behind) ← readNames count more
      return (name :: names, behind)
    | _ => return ([name], rest)
where
  /-- Reads a name between quotes, which has a single line. -/
  quotedName (quote : Char) (inside : Text) : Except Error (String × Text) := do
    let ((name, severalLines), rest) ← readString quote inside
    if severalLines then throw .malformed else return (name, skipSpaces rest)

/-- Reads the names of a key up to what follows it. -/
def readPath (text : Text) : Except Error (List String × Text) := readNames maxDepth text

/-! ## Gaps and ends of lines -/

/-- The text behind a comment. -/
def skipComment (text : Text) : Except Error Text :=
  let comment := text.takeWhile (· ≠ '\n')
  if comment.any isForbidden then .error .malformed else .ok (text.drop comment.length)

/-- The text at the next code point that is neither white space nor in a comment. -/
def skipGaps (text : Text) : Except Error Text :=
  match h : text.dropWhile isGap with
  | '#' :: rest =>
    have : rest.length < text.length := by
      have := (List.dropWhile_suffix (l := text) isGap).length_le
      rw [h, List.length_cons] at this
      omega
    let comment := rest.takeWhile (· ≠ '\n')
    if comment.any isForbidden then .error .malformed else skipGaps (rest.drop comment.length)
  | start => .ok start
termination_by text.length
decreasing_by
  rw [List.length_drop]
  omega

/-- The text behind the end of a line, at which only white space and a comment may stand. -/
def skipLineEnd (text : Text) : Except Error Text := do
  let start := skipSpaces text
  let rest ← match start with
    | '#' :: comment => skipComment comment
    | _ => pure start
  match rest with
  | [] => return []
  | '\n' :: next => return next
  | _ => throw .malformed

/-! ## Values -/

/-- The text behind the equals sign of an entry. -/
def skipEquals (text : Text) : Except Error Text :=
  match text with
  | '=' :: more => .ok (skipSpaces more)
  | _ => .error .malformed

mutual

/-- Reads a value. The first bound is on the number of values and of entries, the second on how
deep values may be in one another. -/
def readValue : Nat → Nat → Text → Except Error (Item × Text)
  | 0, _, _ => .error .malformed
  | bound + 1, depth, text =>
    match text, depth with
    | '[' :: rest, depth + 1 =>
      (readItems bound depth false rest).map fun (items, rest) ↦ (.array items, rest)
    | '\x7b' :: rest, depth + 1 =>
      (readInline bound depth false [] rest).map fun (items, rest) ↦ (.inline items, rest)
    | _, _ => (readScalar text).map fun (value, rest) ↦ (.scalar value, rest)

/-- Reads the values up to the end of an array, behind a value or not. A comma may stand behind
the last one. -/
def readItems : Nat → Nat → Bool → Text → Except Error (List Item × Text)
  | 0, _, _, _ => .error .malformed
  | bound + 1, depth, behindValue, text => do
    match ← skipGaps text, behindValue with
    | ']' :: rest, _ => return ([], rest)
    | ',' :: rest, true => readItems bound depth false rest
    | _, true => throw .malformed
    | start, false =>
      let (item, rest) ← readValue bound depth start
      let (items, behind) ← readItems bound depth true rest
      return (item :: items, behind)

/-- Reads the entries up to the end of an inline table, behind an entry or not. A comma may stand
behind the last one. -/
def readInline : Nat → Nat → Bool → Items → Text → Except Error (Items × Text)
  | 0, _, _, _, _ => .error .malformed
  | bound + 1, depth, behindEntry, items, text => do
    match ← skipGaps text, behindEntry with
    | '\x7d' :: rest, _ => return (items, rest)
    | ',' :: rest, true => readInline bound depth false items rest
    | _, true => throw .malformed
    | start, false =>
      let (path, item, rest) ← readEntry bound depth start
      match Items.appendPath bound true items path item with
      | .ok items => readInline bound depth true items rest
      | .error conflict => throw (.conflict conflict)

/-- Reads an entry: the names of the key and the item. -/
def readEntry : Nat → Nat → Text → Except Error (List String × Item × Text)
  | 0, _, _ => .error .malformed
  | bound + 1, depth, text => do
    let (path, rest) ← readPath text
    let (item, rest) ← readValue bound depth (← skipEquals rest)
    return (path, item, rest)

end

/-! ## Tables -/

/-- Adds an entry outside of all tables; what may not stand there is malformed. -/
def addOutside (bound : Nat) (items : Items) (path : List String) (item : Item) :
    Except Error Items :=
  match Items.appendPath bound true items path item with
  | .ok items => .ok items
  | .error _ => .error .malformed

/-- Adds an entry or a table to a table. -/
def addInside (bound : Nat) (items : Items) (path : List String) (item : Item) :
    Except Error Items :=
  let added := do
    let items ← Items.appendPath bound false items path item
    items.touch bound (path.headD "")
    return items
  match added with
  | .ok items => .ok items
  | .error conflict => .error (.conflict conflict)

/-- Reads entries up to the next header. The bound is on the number of lines. -/
def readLines (add : Items → List String → Item → Except Error Items) :
    Nat → Items → Text → Except Error (Items × Text)
  | 0, _, _ => .error .malformed
  | bound + 1, items, text => do
    let start ← skipGaps text
    if start = [] ∨ start.head? = some '[' then return (items, start)
    else
      let (path, item, rest) ← readEntry bound maxDepth start
      let rest ← skipLineEnd rest
      readLines add bound (← add items path item) rest

/-- The start of a header: whether it is that of an element of an array, and the names. -/
def readHeaderName (text : Text) : Except Error (Bool × List String × Text) := do
  let inside := text.drop 1
  let isElement := inside.head? = some '['
  let (path, rest) ← readPath (if isElement then inside.drop 1 else inside)
  return (isElement, path, rest)

/-- Reads a header up to the end of its line: as many brackets close it as have opened it. -/
def readHeader (text : Text) : Except Error (Bool × List String × Text) := do
  match ← readHeaderName text with
  | (true, path, ']' :: ']' :: behind) => return (true, path, ← skipLineEnd behind)
  | (false, path, ']' :: behind) => return (false, path, ← skipLineEnd behind)
  | _ => throw .malformed

/-- Whether a header belongs to a table inside the one with the name `parent`. -/
def isInside (parent path : List String) : Bool := parent.isPrefixOf path && parent != path

/-- The table of a header under the first of the names that the header adds; those between it
and the last open implicit tables. If the header is that of an element and its first name repeats
that of an array of tables around it, what it opens is an element of that one. -/
def placeTable (isElement repeats : Bool) (items : Items) (names : List String) :
    Option (Key × Item) :=
  (Items.nest false names (if isElement then .tables [items] else .part false false items)).map
    fun
      | (key, .table true _ inner _) => (key, .part true (isElement && repeats) inner)
      | placed => placed

mutual

/-- Reads a table with all tables inside it, from its header on. `parent` is the name of the
table around it, and `arrays` are the names of the arrays of tables around it, the innermost
first. An element of an array brings all elements that follow it, unless it is one of those.
Bounds are given on the depth of tables and on the number of headers. -/
def readTable (depth : Nat) : Nat → List String → List (List String) → Text →
    Except Error (Option (Key × Item) × Text)
  | 0, _, _, _ => .error .malformed
  | bound + 1, parent, arrays, text => do
    let (isElement, path, rest) ← readHeader text
    let names := path.drop parent.length
    let (items, rest) ← readLines (addInside depth) depth [] rest
    let (items, rest) ← readInner depth bound path arrays items rest
    match Items.checkAll depth items with
    | .error conflict => throw (.conflict conflict)
    | .ok () =>
      match names with
      | first :: _ :: _ => return (placeTable isElement (arrays.contains [first]) items names, rest)
      | _ =>
        let key : Key := ⟨names.headD "", false⟩
        if isElement ∧ arrays.head? ≠ some path then
          let (elements, rest) ← readElements depth bound path (path :: arrays) rest
          return (some (key, .tables (items :: elements)), rest)
        else return (some (key, .part false isElement items), rest)

/-- Reads the tables inside a table, and adds them to it. -/
def readInner (depth : Nat) : Nat → List String → List (List String) → Items → Text →
    Except Error (Items × Text)
  | 0, _, _, _, _ => .error .malformed
  | bound + 1, path, arrays, items, text => do
    if text = [] then return (items, text)
    else
      let (_, next, _) ← readHeaderName text
      if isInside path next then
        let (table, rest) ← readTable depth bound path arrays text
        match table with
        | none => readInner depth bound path arrays items rest
        | some (key, item) =>
          let items ← addInside depth items [key.name] item
          readInner depth bound path arrays items rest
      else return (items, text)

/-- Reads the elements of an array of tables that follow. -/
def readElements (depth : Nat) : Nat → List String → List (List String) → Text →
    Except Error (List Items × Text)
  | 0, _, _, _ => .error .malformed
  | bound + 1, path, arrays, text => do
    if text = [] then return ([], text)
    else
      let (isElement, next, _) ← readHeaderName text
      if isElement ∧ next = path then
        let (element, rest) ← readTable depth bound path arrays text
        let (elements, rest) ← readElements depth bound path arrays rest
        match element with
        | some (_, .table _ _ items _) => return (items :: elements, rest)
        | _ => return (elements, rest)
      else return ([], text)

end

/-- Reads all tables of a document. -/
def readTables (bound : Nat) : Nat → Items → Text → Except Error Items
  | 0, _, _ => .error .malformed
  | count + 1, items, text => do
    if text = [] then return items
    else
      let (table, rest) ← readTable bound bound [] [] text
      match table with
      | none => readTables bound count items rest
      | some (key, item) => readTables bound count (← addOutside bound items [key.name] item) rest

/-! ## Documents -/

/-- A bound on all that is counted in a text: there are no more keys, values, lines and headers
than code points. -/
def boundFor (text : Text) : Nat := 4 * text.length + 4

/-- The items of a document. -/
def readItemsOf (text : Text) : Except Error Items := do
  let bound := boundFor text
  let (items, rest) ← readLines (addOutside bound) bound [] text
  readTables bound bound items rest

/-- Reads a document. -/
def read (text : Text) : Except Error Fields :=
  match readItemsOf text with
  | .error error => .error error
  | .ok items => (items.resolve (boundFor text)).mapError .conflict

end Caret.Toml
