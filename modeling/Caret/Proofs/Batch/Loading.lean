import Caret.Batch.Load
import Caret.Proofs.Source.Order

/-!
# What loading a document ensures

A step of loading either ends with a fault at a place of the document, or with a value and a
state of the loader. Steps that only read leave the files and macros as they are, so that a
location is known as soon as it is read; the two steps that add a file or a macro keep the
entries in order, and add one for each item of the document.
-/

namespace Caret

namespace Batch

open Data (Value Fields)
open Source

/-- From every state with `before`, a step ends with a fault or with `after`. -/
def Ensures {α : Type} (before : Loader → Prop) (action : Load α)
    (after : α → Loader → Prop) : Prop :=
  ∀ loader, before loader →
    (∃ place fault next, action.run.run loader = (.error (.malformed place fault), next)) ∨
      ∃ value next, action.run.run loader = (.ok value, next) ∧ after value next

namespace Ensures

variable {α β : Type} {before : Loader → Prop}

/-- A value that is there already. -/
theorem pure {after : α → Loader → Prop} {value : α}
    (h : ∀ loader, before loader → after value loader) :
    Ensures before (Pure.pure value) after := by
  intro loader holds
  exact Or.inr ⟨value, loader, rfl, h loader holds⟩

/-- A fault. -/
theorem refuse {after : α → Loader → Prop} (place : String) (fault : Fault) :
    Ensures before (Batch.refuse place fault) after := by
  intro loader _
  exact Or.inl ⟨place, fault, loader, rfl⟩

/-- Two steps, the second from what the first ensures. -/
theorem bind {action : Load α} {next : α → Load β} {between : α → Loader → Prop}
    {after : β → Loader → Prop} (first : Ensures before action between)
    (second : ∀ value, Ensures (between value) (next value) after) :
    Ensures before (action >>= next) after := by
  intro loader holds
  rcases first loader holds with ⟨place, fault, stopped, run⟩ | ⟨value, reached, run, met⟩
  · refine Or.inl ⟨place, fault, stopped, ?_⟩
    show (ExceptT.bindCont next (action.run.run loader).1).run (action.run.run loader).2 = _
    rw [run]
    rfl
  · have joined : (action >>= next).run.run loader = (next value).run.run reached := by
      show (ExceptT.bindCont next (action.run.run loader).1).run (action.run.run loader).2 = _
      rw [run]
      rfl
    rw [joined]
    exact second value reached met

/-- Two steps, of which the first keeps the state. -/
theorem bind_keep {action : Load α} {next : α → Load β} {after : β → Loader → Prop}
    (first : Ensures before action fun _ ↦ before)
    (second : ∀ value, Ensures before (next value) after) :
    Ensures before (action >>= next) after :=
  bind first second

/-- A step from the state that is read. -/
theorem bind_get {next : Loader → Load β} {after : β → Loader → Prop}
    (h : ∀ loader, before loader → Ensures before (next loader) after) :
    Ensures before (MonadState.get >>= next) after := by
  intro loader holds
  exact h loader holds loader holds

/-- The state is replaced. -/
theorem set {after : Loader → Prop} {given : Loader} (h : after given) :
    Ensures before (MonadStateOf.set given : Load PUnit) fun _ ↦ after := by
  intro loader _
  exact Or.inr ⟨⟨⟩, given, rfl, h⟩

/-- The state is changed. -/
theorem modify {after : Loader → Prop} {change : Loader → Loader}
    (h : ∀ loader, before loader → after (change loader)) :
    Ensures before (modify change : Load PUnit) fun _ ↦ after := by
  intro loader holds
  exact Or.inr ⟨⟨⟩, change loader, rfl, h loader holds⟩

/-- A step ensures less, and from more. -/
theorem weaken {action : Load α} {stronger : Loader → Prop} {after weaker : α → Loader → Prop}
    (h : Ensures before action after) (first : ∀ loader, stronger loader → before loader)
    (last : ∀ value loader, after value loader → weaker value loader) :
    Ensures stronger action weaker := by
  intro loader holds
  rcases h loader (first loader holds) with stopped | ⟨value, reached, run, met⟩
  · exact Or.inl stopped
  · exact Or.inr ⟨value, reached, run, last value reached met⟩

/-- What a value is known to be may be assumed in the step behind it. -/
theorem assume {known : Prop} {action : Load α} {after : α → Loader → Prop}
    (h : known → Ensures before action after) :
    Ensures (fun loader ↦ known ∧ before loader) action after := by
  intro loader holds
  exact h holds.1 loader holds.2

/-- The items of a list, each from what the one before it has kept. -/
theorem loadItems {load : String → Value → Load α} {good : α → Prop}
    (h : ∀ place item, Ensures before (load place item) fun value loader ↦
      good value ∧ before loader) (place : String) (index : Nat) (items : List Value) :
    Ensures before (Batch.loadItems load place index items) fun values loader ↦
      (∀ value ∈ values, good value) ∧ before loader := by
  induction items generalizing index with
  | nil =>
    refine pure fun loader holds ↦ ⟨?_, holds⟩
    intro value member
    cases member
  | cons item rest ih =>
    refine bind (h _ item) fun value ↦ assume fun found ↦ ?_
    refine bind (ih (index + 1)) fun values ↦ assume fun others ↦ ?_
    refine pure fun loader holds ↦ ⟨?_, holds⟩
    intro other member
    rcases List.mem_cons.mp member with rfl | later
    · exact found
    · exact others other later

/-- The items of a list, each from what those before it have led to. -/
theorem accumulate {load : String → Value → Load α} {reached : List Value → Loader → Prop}
    (h : ∀ done place item, Ensures (reached done) (load place item) fun _ ↦
      reached (done ++ [item])) (place : String) (index : Nat) (done items : List Value) :
    Ensures (reached done) (Batch.loadItems load place index items) fun _ ↦
      reached (done ++ items) := by
  induction items generalizing index done with
  | nil =>
    rw [List.append_nil]
    exact pure fun _ holds ↦ holds
  | cons item rest ih =>
    refine bind (h done _ item) fun _ ↦ bind (ih (index + 1) (done ++ [item])) fun _ ↦ ?_
    rw [List.append_assoc, List.singleton_append]
    exact pure fun _ holds ↦ holds

end Ensures

/-! ## Declarations -/

/-- The items in a list of a document; none if it is missing. -/
def listed (document : Value) (key : String) : List Value :=
  match document with
  | .record fields =>
    match Fields.get? fields key with
    | some (.list items) => items
    | _ => []
  | _ => []

/-- The text in a field of an item. -/
def textIn? (item : Value) (key : String) : Option Text :=
  match item with
  | .record fields =>
    match Fields.get? fields key with
    | some (.string value) => some value.toList
    | _ => none
  | _ => none

/-- The name and the text with which an item declares a file. -/
def declaration (item : Value) : Option Text × Option Text :=
  (textIn? item "name", textIn? item "text")

/-- The files are those that the items declare, in their order. -/
def Declared (items : List Value) (files : List SourceFile) : Prop :=
  files.map (fun file ↦ (some file.name, some file.text)) = items.map declaration

/-! ## Fields -/

section Fields

variable {before : Loader → Prop} {fields : Fields} {key place : String}

/-- What is read as a record is one. -/
theorem asRecord_given (place : String) (value : Value) :
    Ensures before (asRecord place value) fun fields loader ↦
      value = .record fields ∧ before loader := by
  cases value with
  | record fields => exact .pure fun _ holds ↦ ⟨rfl, holds⟩
  | null | boolean _ | integer _ | float _ | string _ | moment _ | list _ => exact .refuse _ _

/-- Reading a record keeps the state. -/
theorem asRecord_ensures (place : String) (value : Value) :
    Ensures before (asRecord place value) fun _ ↦ before :=
  (asRecord_given place value).weaken (fun _ holds ↦ holds) fun _ _ read ↦ read.2

/-- A field that has to be there is found in the record. -/
theorem required_ensures :
    Ensures before (required fields key place) fun value loader ↦
      Fields.get? fields key = some value ∧ before loader := by
  unfold required
  split
  · next found => exact .pure fun _ holds ↦ ⟨found, holds⟩
  · exact .refuse _ _

/-- A string that has to be there is the text in its field. -/
theorem requiredString_given :
    Ensures before (requiredString fields key place) fun text loader ↦
      textIn? (.record fields) key = some text.toList ∧ before loader := by
  refine .bind required_ensures fun value ↦ .assume fun found ↦ ?_
  split
  · next text =>
    refine .pure fun _ holds ↦ ⟨?_, holds⟩
    simp only [textIn?, found]
  · exact .refuse _ _

/-- Reading a string keeps the state. -/
theorem requiredString_ensures :
    Ensures before (requiredString fields key place) fun _ ↦ before :=
  requiredString_given.weaken (fun _ holds ↦ holds) fun _ _ read ↦ read.2

/-- Reading an integer keeps the state. -/
theorem requiredInteger_ensures :
    Ensures before (requiredInteger fields key place) fun _ ↦ before := by
  refine .bind required_ensures fun value ↦ .assume fun _ ↦ ?_
  split
  · exact .pure fun _ holds ↦ holds
  · exact .refuse _ _

/-- A list is that of its field, and empty if the field is missing. -/
theorem optionalList_given :
    Ensures before (optionalList fields key place) fun items loader ↦
      items = listed (.record fields) key ∧ before loader := by
  unfold optionalList
  split
  · next missing => exact .pure fun _ holds ↦ ⟨by simp only [listed, missing], holds⟩
  · next found => exact .pure fun _ holds ↦ ⟨by simp only [listed, found], holds⟩
  · exact .refuse _ _

/-- Reading a list keeps the state. -/
theorem optionalList_ensures :
    Ensures before (optionalList fields key place) fun _ ↦ before :=
  optionalList_given.weaken (fun _ holds ↦ holds) fun _ _ read ↦ read.2

/-- Reading a string that may be missing keeps the state. -/
theorem optionalString_ensures :
    Ensures before (optionalString fields key place) fun _ ↦ before := by
  unfold optionalString
  split
  · exact .pure fun _ holds ↦ holds
  · exact .pure fun _ holds ↦ holds
  · exact .refuse _ _

/-- A count is not negative. -/
theorem optionalCount_ensures :
    Ensures before (optionalCount fields key place) fun count loader ↦
      0 ≤ count ∧ before loader := by
  unfold optionalCount
  split
  · exact .pure fun _ holds ↦ ⟨Int.le_refl 0, holds⟩
  · split
    · exact .refuse _ _
    · next forward => exact .pure fun _ holds ↦ ⟨Int.not_lt.mp forward, holds⟩
  · exact .refuse _ _

end Fields

/-! ## Locations -/

end Batch

/-- Both ends of a range are known. -/
structure SourceRange.Known (texts : List Text) (expansions : Nat) (range : SourceRange) :
    Prop where
  start : range.start.Known texts expansions
  stop : range.stop.Known texts expansions

/-- All places in a diagnostic are known. -/
structure Diagnostic.Known (texts : List Text) (expansions : Nat) (diagnostic : Diagnostic) :
    Prop where
  location : diagnostic.location.Known texts expansions
  ranges : ∀ range ∈ diagnostic.ranges, range.Known texts expansions
  fixits : ∀ hint ∈ diagnostic.fixits, hint.range.Known texts expansions

namespace Batch

open Data (Value Fields)

/-- The files and macros of a loader are these. -/
def Holding (map : SourceMap) (macros : List (String × Location)) (loader : Loader) : Prop :=
  loader.map = map ∧ loader.macros = macros

/-- The macros of a loader are the starts of the first expansions. -/
def Numbered (macros : List (String × Location)) (count : Nat) : Prop :=
  ∀ (id : String) (start : Location), macros.lookup id = some start →
    ∃ index : Nat, index < count ∧ start = .ofExpansion ((index : Int) + 1)

section Locations

variable {map : SourceMap} {macros : List (String × Location)} {place : String}

private theorem loadMacroLocation_ensures (numbered : Numbered macros map.expansions.length)
    (fields : Fields) (id : String) :
    Ensures (Holding map macros) (loadMacroLocation place fields id) fun loc loader ↦
      loc.Known map.texts map.expansions.length ∧ Holding map macros loader := by
  refine .bind_get fun read holds ↦ ?_
  rw [holds.2]
  split
  · exact .refuse _ _
  · next start found =>
    obtain ⟨index, inside, rfl⟩ := numbered _ _ found
    refine .bind optionalCount_ensures fun count ↦ .assume fun forward ↦ ?_
    exact .pure fun _ holds ↦ ⟨.move_ofExpansion inside forward, holds⟩

private theorem loadFileLocation_ensures (fields : Fields) :
    Ensures (Holding map macros) (loadFileLocation place fields) fun loc loader ↦
      loc.Known map.texts map.expansions.length ∧ Holding map macros loader := by
  refine .bind requiredString_ensures fun name ↦ .bind_get fun read holds ↦ ?_
  rw [holds.1]
  split
  · exact .refuse _ _
  · next file _ =>
    refine .bind requiredInteger_ensures fun line ↦ .bind requiredInteger_ensures fun column ↦
      .bind_get fun read holds ↦ ?_
    rw [holds.1]
    have known := map.known_locationAt file line column map.expansions.length
    dsimp only
    split
    · refine .bind (.modify fun loader holds ↦ ?_) fun _ ↦ .pure fun _ holds ↦ ⟨known, holds⟩
      exact holds
    · exact .pure fun _ holds ↦ ⟨known, holds⟩

/-- A location is known. -/
theorem loadLocation_ensures (numbered : Numbered macros map.expansions.length)
    (value : Value) :
    Ensures (Holding map macros) (loadLocation place value) fun loc loader ↦
      loc.Known map.texts map.expansions.length ∧ Holding map macros loader := by
  unfold loadLocation
  split
  · exact .pure fun _ holds ↦ ⟨.invalid, holds⟩
  · refine .bind (asRecord_ensures place value) fun fields ↦ ?_
    split
    · exact loadMacroLocation_ensures numbered fields _
    · exact loadFileLocation_ensures fields

/-- A location in a field is known. -/
theorem loadLocationField_ensures (numbered : Numbered macros map.expansions.length)
    (fields : Fields) (key : String) :
    Ensures (Holding map macros) (loadLocationField place fields key) fun loc loader ↦
      loc.Known map.texts map.expansions.length ∧ Holding map macros loader :=
  loadLocation_ensures numbered _

/-- Both ends of a range are known. -/
theorem loadRange_ensures (numbered : Numbered macros map.expansions.length) (place : String)
    (value : Value) :
    Ensures (Holding map macros) (loadRange place value) fun range loader ↦
      range.Known map.texts map.expansions.length ∧ Holding map macros loader := by
  refine .bind (asRecord_ensures place value) fun fields ↦ ?_
  refine .bind (loadLocationField_ensures numbered fields _) fun start ↦ .assume fun first ↦ ?_
  refine .bind (loadLocation_ensures numbered _) fun stop ↦ .assume fun last ↦ ?_
  split
  · exact .pure fun _ holds ↦ ⟨⟨first, last⟩, holds⟩
  · exact .pure fun _ holds ↦ ⟨⟨first, last⟩, holds⟩
  · exact .refuse _ _

private theorem loadHint_ensures (numbered : Numbered macros map.expansions.length) (place : String)
    (value : Value) :
    Ensures (Holding map macros) (loadHint place value) fun hint loader ↦
      hint.range.Known map.texts map.expansions.length ∧ Holding map macros loader := by
  refine .bind (asRecord_ensures place value) fun fields ↦ ?_
  refine .bind optionalString_ensures fun text ↦ ?_
  split
  · refine .bind (loadLocationField_ensures numbered fields _) fun loc ↦ .assume fun known ↦ ?_
    exact .pure fun _ holds ↦ ⟨⟨known, known⟩, holds⟩
  · refine .bind (loadRange_ensures numbered _ _) fun range ↦ .assume fun known ↦ ?_
    exact .pure fun _ holds ↦ ⟨known, holds⟩
  · refine .bind (loadRange_ensures numbered _ _) fun range ↦ .assume fun known ↦ ?_
    exact .pure fun _ holds ↦ ⟨known, holds⟩
  · exact .refuse _ _

private theorem loadDiagnostic_ensures (numbered : Numbered macros map.expansions.length)
    (place : String) (value : Value) :
    Ensures (Holding map macros) (loadDiagnostic place value) fun diagnostic loader ↦
      diagnostic.Known map.texts map.expansions.length ∧ Holding map macros loader := by
  refine .bind (asRecord_ensures place value) fun fields ↦ ?_
  dsimp only
  split
  · exact .refuse _ _
  · refine .bind optionalString_ensures fun message ↦ ?_
    refine .bind (loadLocationField_ensures numbered fields _) fun loc ↦ .assume fun known ↦ ?_
    refine .bind optionalList_ensures fun items ↦ ?_
    refine .bind (.loadItems (loadRange_ensures numbered) _ _ _) fun ranges ↦
      .assume fun ends ↦ ?_
    refine .bind optionalList_ensures fun items ↦ ?_
    refine .bind (.loadItems (loadHint_ensures numbered) _ _ _) fun fixits ↦
      .assume fun hints ↦ ?_
    exact .pure fun _ holds ↦ ⟨⟨known, ends, hints⟩, holds⟩

end Locations

/-! ## Files and macros -/

/-- The files are in order and nothing else is there. -/
structure Loader.FilesOnly (loader : Loader) : Prop where
  ordered : loader.map.Ordered
  expansions : loader.map.expansions = []
  macros : loader.macros = []

/-- The entries are in order, and the macros are the starts of the expansions. -/
structure Loader.Sound (loader : Loader) : Prop where
  ordered : loader.map.Ordered
  numbered : Numbered loader.macros loader.map.expansions.length

/-- Files are sound without macros. -/
theorem Loader.FilesOnly.sound {loader : Loader} (h : loader.FilesOnly) : loader.Sound := by
  refine ⟨h.ordered, ?_⟩
  intro id start found
  rw [h.macros] at found
  cases found

/-- Only the files and macros of a loader count. -/
theorem Loader.FilesOnly.of_holding {loader read : Loader} (h : loader.FilesOnly)
    (same : Holding loader.map loader.macros read) : read.FilesOnly :=
  ⟨same.1 ▸ h.ordered, same.1 ▸ h.expansions, same.2.trans h.macros⟩

/-- Only the entries and macros of a loader count. -/
theorem Loader.Sound.of_holding {loader read : Loader} (h : loader.Sound)
    (same : Holding loader.map loader.macros read) : read.Sound :=
  ⟨same.1 ▸ h.ordered, same.1 ▸ same.2 ▸ h.numbered⟩

/-- A step that reads from a state may take its files and macros as fixed. -/
theorem Ensures.holding {α : Type} {before : Loader → Prop} {action : Load α}
    {after : α → Loader → Prop}
    (h : ∀ loader, before loader → Ensures (Holding loader.map loader.macros) action after) :
    Ensures before action after := by
  intro loader holds
  exact h loader holds loader ⟨rfl, rfl⟩

private theorem loadDirective_ensures (declared : List Value) (file : Int) (place : String)
    (value : Value) :
    Ensures (fun loader ↦ loader.FilesOnly ∧ Declared declared loader.map.files)
      (loadDirective file place value) fun _ loader ↦
        True ∧ loader.FilesOnly ∧ Declared declared loader.map.files := by
  refine .bind (asRecord_ensures place value) fun fields ↦ ?_
  have registered (filename : Option Text) : Ensures
      (fun loader ↦ loader.FilesOnly ∧ Declared declared loader.map.files)
      (do
        let line ← requiredInteger fields "line" place
        let presented ← requiredInteger fields "presented_line" place
        modify fun loader ↦
          { loader with
            map := (loader.map.addDirective? file ⟨line, presented, filename⟩).getD loader.map })
      fun _ loader ↦ True ∧ loader.FilesOnly ∧ Declared declared loader.map.files := by
    refine .bind requiredInteger_ensures fun line ↦ .bind requiredInteger_ensures fun presented ↦
      .modify fun loader ⟨files, same⟩ ↦ ⟨trivial, ?_⟩
    cases added : loader.map.addDirective? file ⟨line, presented, filename⟩ with
    | none => exact ⟨⟨files.ordered, files.expansions, files.macros⟩, same⟩
    | some changed =>
      obtain ⟨ordered, -, expansions⟩ := files.ordered.addDirective added
      refine ⟨⟨ordered, expansions.trans files.expansions, files.macros⟩, ?_⟩
      exact (SourceMap.map_files_addDirective added _ fun _ _ ↦ rfl).trans same
  dsimp only
  split
  · exact .bind_keep (.pure fun _ holds ↦ holds) registered
  · exact .bind_keep (.pure fun _ holds ↦ holds) registered
  · exact .bind_keep (.refuse _ _) registered

/-- A file that was included from a place known before is added in order. -/
theorem Loader.FilesOnly.addFile {loader : Loader} (h : loader.FilesOnly) {file : SourceFile}
    (known : file.includedFrom.Known loader.map.texts 0) :
    ({ loader with map := (loader.map.addFile file).1 } : Loader).FilesOnly :=
  ⟨h.ordered.addFile known, h.expansions, h.macros⟩

/-- One more item declares one more file. -/
theorem Declared.concat {items : List Value} {files : List SourceFile} (h : Declared items files)
    {item : Value} {file : SourceFile}
    (same : declaration item = (some file.name, some file.text)) :
    Declared (items ++ [item]) (files ++ [file]) := by
  unfold Declared
  rw [List.map_append, List.map_append, h, List.map_singleton, List.map_singleton, same]

private theorem loadFile_ensures (declared : List Value) (place : String) (value : Value) :
    Ensures (fun loader ↦ loader.FilesOnly ∧ Declared declared loader.map.files)
      (loadFile place value) fun _ loader ↦
        loader.FilesOnly ∧ Declared (declared ++ [value]) loader.map.files := by
  refine .bind (asRecord_given place value) fun fields ↦ .assume fun record ↦
    .bind requiredString_given fun name ↦ .assume fun named ↦
    .bind requiredString_given fun text ↦ .assume fun written ↦
    .holding fun loader ⟨files, same⟩ ↦ ?_
  refine .bind (loadLocationField_ensures files.sound.numbered fields _) fun includedFrom ↦
    .assume fun known ↦ .bind_get fun read holds ↦ ?_
  rw [files.expansions, ← holds.1] at known
  rw [← holds.1] at same
  let file : SourceFile := { name := name.toList, text := text.toList, includedFrom }
  have declares : declaration value = (some file.name, some file.text) := by
    rw [record, declaration, named, written]
  have added : Ensures (Holding loader.map loader.macros)
      (MonadStateOf.set { read with map := (read.map.addFile file).1 }) fun _ loader ↦
        loader.FilesOnly ∧ Declared (declared ++ [value]) loader.map.files :=
    .set ⟨(files.of_holding holds).addFile known, same.concat declares⟩
  refine .bind added fun _ ↦ .bind optionalList_ensures fun items ↦ ?_
  refine .bind (.loadItems (loadDirective_ensures _ _) _ _ items) fun _ ↦ ?_
  exact .pure fun _ kept ↦ kept.2

/-- A macro that is added is the start of the last expansion. -/
theorem Numbered.concat {macros : List (String × Location)} {count : Nat}
    (h : Numbered macros count) (id : String) :
    Numbered (macros ++ [(id, .ofExpansion ((count : Int) + 1))]) (count + 1) := by
  intro other start found
  rw [List.lookup_append] at found
  cases old : macros.lookup other with
  | some place =>
    rw [old] at found
    cases found
    obtain ⟨index, inside, numbered⟩ := h _ _ old
    exact ⟨index, Nat.lt_succ_of_lt inside, numbered⟩
  | none =>
    rw [old, Option.none_or, List.lookup_cons] at found
    split at found
    · cases found
      exact ⟨count, Nat.lt_succ_self count, rfl⟩
    · cases found

/-- An expansion that refers to what is known before is added in order. -/
theorem Loader.Sound.addExpansion {loader : Loader} (h : loader.Sound) (id : String)
    {expansion : Expansion}
    (spelled : expansion.spelling.Known loader.map.texts loader.map.expansions.length)
    (started : expansion.start.Known loader.map.texts loader.map.expansions.length)
    (stopped : expansion.stop.Known loader.map.texts loader.map.expansions.length) :
    ({ loader with
        map := (loader.map.addExpansion expansion).1
        macros := loader.macros ++ [(id, (loader.map.addExpansion expansion).2)] } :
      Loader).Sound := by
  refine ⟨h.ordered.addExpansion spelled started stopped, ?_⟩
  show Numbered _ (loader.map.expansions ++ [expansion]).length
  rw [List.length_append]
  exact h.numbered.concat id

private theorem loadExpansionEnd_ensures {map : SourceMap} {macros : List (String × Location)}
    (numbered : Numbered macros map.expansions.length) (place : String) (fields : Fields)
    {start : Location} (known : start.Known map.texts map.expansions.length)
    (isArgument : Bool) :
    Ensures (Holding map macros) (loadExpansionEnd place fields start isArgument) fun loc loader ↦
      loc.Known map.texts map.expansions.length ∧ Holding map macros loader := by
  unfold loadExpansionEnd
  dsimp only
  split
  · exact .pure fun _ holds ↦ ⟨known, holds⟩
  · exact loadLocation_ensures numbered _

private theorem loadMacro_ensures (files : List SourceFile) (done : List Value) (place : String)
    (value : Value) :
    Ensures
      (fun loader ↦ loader.Sound ∧ loader.map.files = files ∧
        loader.map.expansions.length = done.length)
      (loadMacro place value) fun _ loader ↦
        loader.Sound ∧ loader.map.files = files ∧
          loader.map.expansions.length = (done ++ [value]).length := by
  refine .bind (asRecord_ensures place value) fun fields ↦ .bind requiredString_ensures fun id ↦
    .holding fun loader ⟨sound, same, count⟩ ↦ .bind_get fun _ _ ↦ ?_
  split
  · exact .refuse _ _
  · refine .bind (loadLocationField_ensures sound.numbered fields _) fun spelling ↦
      .assume fun spelled ↦ ?_
    refine .bind (loadLocationField_ensures sound.numbered fields _) fun start ↦
      .assume fun started ↦ ?_
    refine .bind optionalCount_ensures fun length ↦ .assume fun _ ↦ ?_
    refine .bind (loadExpansionEnd_ensures sound.numbered _ fields started _) fun stop ↦
      .assume fun stopped ↦ .bind_get fun read holds ↦ ?_
    rw [← holds.1] at spelled started stopped same count
    refine .set ⟨(sound.of_holding holds).addExpansion id spelled started stopped, same, ?_⟩
    show (read.map.expansions ++ [_]).length = _
    rw [List.length_append, List.length_append, count]
    rfl

/-! ## Documents -/

/-- A batch is in order: its entries refer to entries before them, and all places in its
diagnostics are known. -/
structure Ordered (batch : Batch) : Prop where
  map : batch.map.Ordered
  diagnostics : ∀ diagnostic ∈ batch.diagnostics,
    diagnostic.Known batch.map.texts batch.map.expansions.length

/-- A batch has the files that a document declares, and an expansion for each macro. -/
structure Declares (document : Value) (map : SourceMap) : Prop where
  files : Declared (listed document "files") map.files
  macros : map.expansions.length = (listed document "macros").length

/-- Loading a document ends with a fault or with a batch in order that has what the document
declares. -/
theorem loadValue_ensures (document : Value) :
    Ensures (fun loader ↦ loader.FilesOnly ∧ Declared [] loader.map.files) (loadValue document)
      fun batch _ ↦ batch.Ordered ∧ Declares document batch.map := by
  refine .bind (asRecord_given _ document) fun fields ↦ .assume fun record ↦ ?_
  refine .bind optionalList_given fun files ↦ .assume fun inFiles ↦ ?_
  refine .bind (.accumulate loadFile_ensures _ _ _ files) fun _ ↦ ?_
  refine .bind optionalList_given fun macros ↦ .assume fun inMacros ↦
    .holding fun first ⟨only, declared⟩ ↦ ?_
  -- No macro is there yet, so that from here on each expansion is that of an item.
  have start (loader : Loader) (holds : Holding first.map first.macros loader) :
      loader.Sound ∧ loader.map.files = first.map.files ∧
        loader.map.expansions.length = ([] : List Value).length :=
    ⟨(only.of_holding holds).sound, congrArg SourceMap.files holds.1,
      congrArg List.length (only.of_holding holds).expansions⟩
  refine .bind ((Ensures.accumulate (loadMacro_ensures first.map.files) _ _ [] macros).weaken
    start fun _ _ kept ↦ kept) fun _ ↦ ?_
  refine .bind optionalList_ensures fun items ↦ .holding fun loader ⟨sound, same, count⟩ ↦ ?_
  refine .bind (.loadItems (loadDiagnostic_ensures sound.numbered) _ _ items) fun diagnostics ↦
    .assume fun known ↦ .bind_get fun read holds ↦ .pure fun _ _ ↦ ?_
  rw [holds.1]
  subst record inFiles inMacros
  refine ⟨⟨sound.ordered, known⟩, ?_, ?_⟩
  · rw [same]
    exact declared
  · exact count

/-- A loader starts with nothing. -/
theorem filesOnly_empty : Loader.FilesOnly {} := ⟨SourceMap.ordered_empty, rfl, rfl⟩

/-- A document is refused with a fault at a place in it, or gives a batch in order. -/
theorem ofValue_cases (document : Value) :
    (∃ place fault, (ofValue document).1 = .error (.malformed place fault)) ∨
      ∃ batch, (ofValue document).1 = .ok batch ∧ batch.Ordered := by
  rcases loadValue_ensures document {} ⟨filesOnly_empty, rfl⟩ with ⟨place, fault, next, run⟩ |
    ⟨batch, next, run, ordered, -⟩
  · exact Or.inl ⟨place, fault, congrArg Prod.fst run⟩
  · exact Or.inr ⟨batch, congrArg Prod.fst run, ordered⟩

/-- The batch of a document is in order and has what the document declares. -/
theorem ordered_and_declares_of_ofValue {document : Value} {batch : Batch}
    (loaded : (ofValue document).1 = .ok batch) : batch.Ordered ∧ Declares document batch.map := by
  rcases loadValue_ensures document {} ⟨filesOnly_empty, rfl⟩ with ⟨place, fault, next, run⟩ |
    ⟨other, next, run, known⟩
  · cases (congrArg Prod.fst run).symm.trans loaded
  · cases (congrArg Prod.fst run).symm.trans loaded
    exact known

end Batch

end Caret
