import Caret.Proofs.Batch.Loading
import Caret.Proofs.Source.LineColumn

/-!
# What a loaded batch guarantees

The files of a loaded batch are those of its document, numbered from one, and a name leads to the
first file that was declared with it. Every location in the batch is the invalid one or a place
in a registered file or expansion, and an entry of the source refers to entries before it only.
All later walks over the source rest on this.
-/

namespace Caret

open Data (Value)
open Source (OnLine SplitsBreak)

/-! ## Places in a source -/

/-- A location is the invalid one, on the text of a line or just behind it in one of the first
files of a source, or at or behind the start of one of its first expansions. -/
inductive Location.Placed (map : SourceMap) (files expansions : Nat) : Location → Prop
  | invalid : Placed map files expansions Location.invalid
  | inFile {number offset : Int} {file : SourceFile}
      (registered : map.file? number = some file) (among : number ≤ files)
      (onLine : OnLine file.text offset) (inside : 0 ≤ offset ∧ offset ≤ file.text.length)
      (unsplit : ¬SplitsBreak file.text offset) :
      Placed map files expansions (Location.inFile number offset)
  | inExpansion {number offset : Int} {expansion : Expansion}
      (registered : map.expansionOf? { offset, expansion := some number } = some expansion)
      (among : number ≤ expansions) (forward : 0 ≤ offset) :
      Placed map files expansions { offset, expansion := some number }

/-- The number behind an index leads to the file there. -/
theorem SourceMap.file?_succ (map : SourceMap) (index : Nat) :
    map.file? (index + 1) = map.files[index]? := by
  have positive : ¬((index : Int) + 1 < 1) := by omega
  rw [file?, if_neg positive, Int.add_sub_cancel, Int.toNat_natCast]

/-- The number behind an index leads to the expansion there. -/
theorem SourceMap.expansionOf?_succ (map : SourceMap) (index : Nat) (offset : Int) :
    map.expansionOf? { offset, expansion := some ((index : Int) + 1) } =
      map.expansions[index]? := by
  have positive : ¬((index : Int) + 1 < 1) := by omega
  dsimp only [expansionOf?]
  rw [if_neg positive, Int.add_sub_cancel, Int.toNat_natCast]

/-- A location that is known to the first entries of a source is placed in them. -/
theorem Location.Known.placed {map : SourceMap} {files expansions : Nat} {loc : Location}
    (h : loc.Known (map.texts.take files) expansions)
    (fewer : expansions ≤ map.expansions.length) : loc.Placed map files expansions := by
  cases h with
  | invalid => exact .invalid
  | @inFile index text offset found onLine =>
    have among : index < files := by
      have short := (List.getElem?_eq_some_iff.mp found).1
      rw [List.length_take] at short
      omega
    rw [List.getElem?_take_of_lt among, SourceMap.texts, List.getElem?_map] at found
    obtain ⟨file, stored, rfl⟩ := Option.map_eq_some_iff.mp found
    refine .inFile ((map.file?_succ index).trans stored) ?_ onLine onLine.bounds
      onLine.not_splitsBreak
    omega
  | @inExpansion index offset inside forward =>
    have stored := List.getElem?_eq_getElem (Nat.lt_of_lt_of_le inside fewer)
    refine .inExpansion ((map.expansionOf?_succ index offset).trans stored) ?_ forward
    omega

/-- A location that is known to a source is placed in it. -/
theorem Location.Known.placed_of_texts {map : SourceMap} {expansions : Nat} {loc : Location}
    (h : loc.Known map.texts expansions) (fewer : expansions ≤ map.expansions.length) :
    loc.Placed map map.files.length expansions := by
  have whole : map.texts.take map.files.length = map.texts :=
    List.take_of_length_le (Nat.le_of_eq (List.length_map _))
  exact (whole.symm ▸ h : loc.Known (map.texts.take _) _).placed fewer

/-! ## Declared files -/

namespace Batch

/-- There are as many files as items that declare them. -/
theorem Declared.length_eq {items : List Value} {files : List SourceFile}
    (h : Declared items files) : files.length = items.length := by
  have same := congrArg List.length h
  rwa [List.length_map, List.length_map] at same

/-- The item at an index declares the file there. -/
theorem Declared.getElem? {items : List Value} {files : List SourceFile}
    (h : Declared items files) {index : Nat} {item : Value} (listed : items[index]? = some item) :
    ∃ file, files[index]? = some file ∧ declaration item = (some file.name, some file.text) := by
  have same : (files.map _)[index]? = (items.map _)[index]? := congrArg (·[index]?) h
  rw [List.getElem?_map, List.getElem?_map, listed] at same
  obtain ⟨file, stored, declares⟩ := Option.map_eq_some_iff.mp same
  exact ⟨file, stored, declares.symm⟩

/-- A name leads to the first file that is declared with it. -/
theorem Declared.findFile? {items : List Value} {map : SourceMap} (h : Declared items map.files)
    (name : Text) :
    map.findFile? name = (items.findIdx? fun item ↦ textIn? item "name" == some name).map
      fun (index : Nat) ↦ (index : Int) + 1 := by
  have names : map.files.map (fun file ↦ some file.name) = items.map (textIn? · "name") := by
    have same := congrArg (List.map Prod.fst) h
    rwa [List.map_map, List.map_map] at same
  have same := congrArg (List.findIdx? (· == some name)) names
  rw [List.findIdx?_map, List.findIdx?_map] at same
  rw [SourceMap.findFile?]
  show Option.map _ (do
    let index ← map.files.findIdx? ((· == some name) ∘ fun file ↦ some file.name)
    pure (index : Int)) = _
  rw [same]
  show _ = Option.map _ (items.findIdx? ((· == some name) ∘ (textIn? · "name")))
  cases items.findIdx? ((· == some name) ∘ (textIn? · "name")) <;> rfl

end Batch

/-! ## Guarantees -/

/-- All locations in a diagnostic. -/
def Diagnostic.locations (diagnostic : Diagnostic) : List Location :=
  diagnostic.location ::
    (diagnostic.ranges ++ diagnostic.fixits.map (·.range)).flatMap fun range ↦
      [range.start, range.stop]

/-- All locations of a known diagnostic are known. -/
theorem Diagnostic.Known.locations {texts : List Text} {expansions : Nat}
    {diagnostic : Diagnostic} (h : diagnostic.Known texts expansions) :
    ∀ loc ∈ diagnostic.locations, loc.Known texts expansions := by
  have ends {range : SourceRange}
      (member : range ∈ diagnostic.ranges ++ diagnostic.fixits.map (·.range)) :
      range.Known texts expansions := by
    rcases List.mem_append.mp member with shown | edited
    · exact h.ranges range shown
    · obtain ⟨hint, proposed, rfl⟩ := List.mem_map.mp edited
      exact h.fixits hint proposed
  intro loc member
  rcases List.mem_cons.mp member with rfl | inRange
  · exact h.location
  · obtain ⟨range, listed, place⟩ := List.mem_flatMap.mp inRange
    rcases List.mem_cons.mp place with rfl | last
    · exact (ends listed).start
    · obtain rfl := List.mem_singleton.mp last
      exact (ends listed).stop

namespace Batch

/-- What holds of the batch of a document. -/
structure Guaranteed (document : Value) (batch : Batch) : Prop where
  /-- The files are numbered from one in the order of their declaration. -/
  numbered : ∀ {index : Nat} {item : Value}, (listed document "files")[index]? = some item →
    ∃ file, batch.map.file? (index + 1) = some file ∧
      declaration item = (some file.name, some file.text)
  /-- No other number is that of a file. -/
  declared : ∀ {number : Int} {file : SourceFile}, batch.map.file? number = some file →
    1 ≤ number ∧ number ≤ (listed document "files").length
  /-- A name leads to the first file that is declared with it. -/
  found : ∀ name : Text, batch.map.findFile? name =
    ((listed document "files").findIdx? fun item ↦ textIn? item "name" == some name).map
      fun (index : Nat) ↦ (index : Int) + 1
  /-- Each macro has its expansion. -/
  expanded : batch.map.expansions.length = (listed document "macros").length
  /-- A file was included from a place in a file before it. -/
  included : ∀ {index : Nat} {file : SourceFile}, batch.map.files[index]? = some file →
    file.includedFrom.Placed batch.map index 0
  /-- An expansion was spelled in a file or in an expansion before it. -/
  spelled : ∀ {index : Nat} {expansion : Expansion},
    batch.map.expansions[index]? = some expansion →
      expansion.spelling.Placed batch.map batch.map.files.length index
  /-- The range that an expansion replaced starts in a file or in an expansion before it. -/
  started : ∀ {index : Nat} {expansion : Expansion},
    batch.map.expansions[index]? = some expansion →
      expansion.start.Placed batch.map batch.map.files.length index
  /-- The range that an expansion replaced ends in a file or in an expansion before it. -/
  stopped : ∀ {index : Nat} {expansion : Expansion},
    batch.map.expansions[index]? = some expansion →
      expansion.stop.Placed batch.map batch.map.files.length index
  /-- All places in diagnostics are in a file or in an expansion. -/
  reported : ∀ diagnostic ∈ batch.diagnostics, ∀ loc ∈ diagnostic.locations,
    loc.Placed batch.map batch.map.files.length batch.map.expansions.length

/-- A document that is accepted gives a batch with registered places only. -/
theorem guaranteed_of_ofValue {document : Value} {batch : Batch}
    (loaded : (ofValue document).1 = .ok batch) : Guaranteed document batch := by
  obtain ⟨⟨ordered, known⟩, files, macros⟩ := ordered_and_declares_of_ofValue loaded
  have earlier {index : Nat} {expansion : Expansion}
      (stored : batch.map.expansions[index]? = some expansion) :
      index ≤ batch.map.expansions.length :=
    Nat.le_of_lt (List.getElem?_eq_some_iff.mp stored).1
  constructor
  case numbered =>
    intro index item member
    rw [SourceMap.file?_succ]
    exact files.getElem? member
  case declared =>
    intro number file stored
    obtain ⟨positive, position⟩ := SourceMap.getElem?_of_file? stored
    have inside := (List.getElem?_eq_some_iff.mp position).1
    rw [files.length_eq] at inside
    omega
  case found => exact files.findFile?
  case expanded => exact macros
  case included => exact fun stored ↦ (ordered.included stored).placed (Nat.zero_le _)
  case spelled => exact fun stored ↦ (ordered.spelled stored).placed_of_texts (earlier stored)
  case started => exact fun stored ↦ (ordered.started stored).placed_of_texts (earlier stored)
  case stopped => exact fun stored ↦ (ordered.stopped stored).placed_of_texts (earlier stored)
  case reported =>
    intro diagnostic member loc place
    exact ((known diagnostic member).locations loc place).placed_of_texts (Nat.le_refl _)

/-- A location in the file `a`. -/
def placeInA (line column : Int) : Value :=
  .record [("file", .string "a"), ("line", .integer line), ("column", .integer column)]

/-- A document with two files of one name, one included behind a carriage return line feed pair,
a macro that is used in the argument of another, and a place that does not exist. -/
def includingDocument : Value :=
  .record
    [("files", .list
        [.record [("name", .string "a"), ("text", .string "M\r\nx")],
          .record [("name", .string "a"), ("text", .string "y"), ("included_from", placeInA 1 9)]]),
      ("macros", .list
        [.record [("id", .string "m"), ("spelling", placeInA 2 1), ("expansion", placeInA 1 1)],
          .record [("id", .string "n"), ("spelling", placeInA 2 0), ("macro_arg", .boolean true),
            ("expansion", .record [("macro", .string "m")])]]),
      ("diagnostics", .list
        [.record
          [("location", .record [("macro", .string "n"), ("offset", .integer 7)]),
            ("ranges", .list [.record [("begin", placeInA 2 9), ("end", placeInA 3 1)]])]])]

/-- The batch of that document. -/
def includingBatch : Batch where
  map :=
    { files :=
        [{ name := ['a'], text := ['M', '\r', '\n', 'x'] },
          { name := ['a'], text := ['y'], includedFrom := .inFile 1 1 }]
      expansions :=
        [{ spelling := .inFile 1 3, start := .inFile 1 0, stop := .inFile 1 0 },
          { spelling := .inFile 1 3, start := .ofExpansion 1, stop := .ofExpansion 1,
            isArgument := true }] }
  diagnostics :=
    [{ severity := .error, message := [],
       location := { offset := 7, expansion := some 2 },
       ranges := [⟨.inFile 1 4, .invalid, true⟩] }]

/-- That document is accepted. The column behind its first line is moved in front of the line
break, and the name of both files leads to the first. -/
theorem guaranteed_including :
    (ofValue includingDocument).1 = .ok includingBatch ∧
      Guaranteed includingDocument includingBatch ∧
      includingBatch.map.findFile? ['a'] = some 1 := by
  have loaded : (ofValue includingDocument).1 = .ok includingBatch := rfl
  have guaranteed := guaranteed_of_ofValue loaded
  exact ⟨loaded, guaranteed, guaranteed.found ['a']⟩

end Batch

end Caret
