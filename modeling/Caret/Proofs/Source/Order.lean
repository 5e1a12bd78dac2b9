import Caret.Source.SourceMap

/-!
# Sources in the order of their declaration

In a source that is put together entry by entry, a file was included from a place in a file
before it, and an expansion refers to files and to the expansions before it. This order is what
makes every walk over the source end: each step leads to an expansion with a smaller number.
-/

namespace Caret

namespace Source

/-- An offset is on the text of a line or just behind it. -/
def OnLine (text : Text) (offset : Int) : Prop :=
  ∃ (line : Int) (start : Nat), lineStart? text line = some start ∧ (start : Int) ≤ offset ∧
    offset ≤ lineEnd text start

/-- The offset of a line and column is on that line. -/
theorem onLine_of_offsetAt? {text : Text} {line column offset : Int}
    (h : offsetAt? text line column = some offset) : OnLine text offset := by
  obtain ⟨start, found, rfl⟩ := Option.map_eq_some_iff.mp h
  have forward : start ≤ lineEnd text start := Nat.le_add_right _ _
  exact ⟨line, start, found, by omega, by omega⟩

/-- A line break ends behind a code point that ends a line and is not the first half of a break. -/
theorem exists_of_mem_breakEnds {text : Text} {offset stop : Nat}
    (h : stop ∈ breakEnds text offset) :
    ∃ front c behind, text = front ++ c :: behind ∧ isLineBreak c = true ∧
      stop = offset + front.length + 1 ∧ (c = '\r' → behind.head? ≠ some '\n') := by
  fun_induction breakEnds text offset with
  | case1 => cases h
  | case2 rest offset ih =>
    rcases List.mem_cons.mp h with rfl | later
    · exact ⟨['\r'], '\n', rest, rfl, rfl, rfl, fun carriage ↦ absurd carriage (by decide)⟩
    · obtain ⟨front, c, behind, rfl, ends, rfl, last⟩ := ih later
      refine ⟨'\r' :: '\n' :: front, c, behind, rfl, ends, ?_, last⟩
      simp only [List.length_cons]
      omega
  | case3 c rest offset whole ends ih =>
    rcases List.mem_cons.mp h with rfl | later
    · refine ⟨[], c, rest, rfl, ends, rfl, fun carriage feed ↦ ?_⟩
      obtain ⟨behind, rfl⟩ := List.head?_eq_some_iff.mp feed
      exact whole behind carriage rfl
    · obtain ⟨front, d, behind, rfl, ends, rfl, last⟩ := ih later
      refine ⟨c :: front, d, behind, rfl, ends, ?_, last⟩
      simp only [List.length_cons]
      omega
  | case4 c rest offset _ _ ih =>
    obtain ⟨front, d, behind, rfl, ends, rfl, last⟩ := ih h
    refine ⟨c :: front, d, behind, rfl, ends, ?_, last⟩
    simp only [List.length_cons]
    omega

/-- The start of a line is one. -/
theorem mem_lineStarts_of_lineStart? {text : Text} {line : Int} {start : Nat}
    (h : lineStart? text line = some start) : start ∈ lineStarts text := by
  unfold lineStart? at h
  split at h
  · cases h
  · exact List.mem_of_getElem? h

/-- A line starts in the text or at its end. -/
theorem start_le_length {text : Text} {line : Int} {start : Nat}
    (h : lineStart? text line = some start) : start ≤ text.length := by
  rcases List.mem_cons.mp (mem_lineStarts_of_lineStart? h) with rfl | later
  · exact Nat.zero_le _
  · obtain ⟨front, c, behind, rfl, -, rfl, -⟩ := exists_of_mem_breakEnds later
    rw [List.length_append, List.length_cons]
    omega

/-- An offset on a line is in the text or at its end. -/
theorem OnLine.bounds {text : Text} {offset : Int} (h : OnLine text offset) :
    0 ≤ offset ∧ offset ≤ text.length := by
  obtain ⟨line, start, found, forward, inside⟩ := h
  have first := start_le_length found
  have length := (List.takeWhile_prefix (l := text.drop start) fun c ↦ !isLineBreak c).length_le
  rw [List.length_drop] at length
  unfold lineEnd at inside
  omega

/-- An offset on a line has a line number. -/
theorem OnLine.lineNumber_ne_zero {text : Text} {offset : Int} (h : OnLine text offset) :
    lineNumber text offset ≠ 0 := by
  have bounds := h.bounds
  have inside : ¬ (offset < 0 ∨ offset > text.length) := by omega
  have first : (decide (((0 : Nat) : Int) ≤ offset)) = true := decide_eq_true (by omega)
  rw [lineNumber, if_neg inside, lineStarts, List.takeWhile_cons, if_pos first]
  exact Nat.succ_ne_zero _

end Source

open Source

/-- A location is known to a source of some files and a number of expansions: it is the invalid
location, on a line of one of the files, or at or behind the start of one of the expansions. -/
inductive Location.Known (texts : List Text) (expansions : Nat) : Location → Prop
  | invalid : Known texts expansions Location.invalid
  | inFile {index : Nat} {text : Text} {offset : Int} (file : texts[index]? = some text)
      (line : OnLine text offset) : Known texts expansions (.inFile (index + 1) offset)
  | inExpansion {index : Nat} {offset : Int} (expansion : index < expansions)
      (forward : 0 ≤ offset) :
      Known texts expansions { offset, expansion := some ((index : Int) + 1) }

/-- The texts of all files. -/
def SourceMap.texts (map : SourceMap) : List Text := map.files.map (·.text)

/-- Every entry refers to entries before it only. -/
structure SourceMap.Ordered (map : SourceMap) : Prop where
  included : ∀ {index : Nat} {file : SourceFile}, map.files[index]? = some file →
    file.includedFrom.Known (map.texts.take index) 0
  spelled : ∀ {index : Nat} {expansion : Expansion}, map.expansions[index]? = some expansion →
    expansion.spelling.Known map.texts index
  started : ∀ {index : Nat} {expansion : Expansion}, map.expansions[index]? = some expansion →
    expansion.start.Known map.texts index
  stopped : ∀ {index : Nat} {expansion : Expansion}, map.expansions[index]? = some expansion →
    expansion.stop.Known map.texts index

namespace Location

/-- What is known stays known when files and expansions are added. -/
theorem Known.mono {texts more : List Text} {expansions count : Nat} {loc : Location}
    (h : loc.Known texts expansions) (files : texts <+: more) (known : expansions ≤ count) :
    loc.Known more count := by
  cases h with
  | invalid => exact .invalid
  | inFile file line =>
    obtain ⟨behind, rfl⟩ := files
    exact .inFile (List.getElem?_append_left (List.getElem?_eq_some_iff.mp file).1 ▸ file) line
  | inExpansion expansion forward =>
    exact .inExpansion (Nat.lt_of_lt_of_le expansion known) forward

/-- The start of an expansion that is known, and what is behind it, is known. -/
theorem Known.move_ofExpansion {texts : List Text} {expansions index : Nat} {distance : Int}
    (h : index < expansions) (forward : 0 ≤ distance) :
    ((ofExpansion ((index : Int) + 1)).move distance).Known texts expansions := by
  have moved : (ofExpansion ((index : Int) + 1)).move distance =
      { offset := distance, expansion := some ((index : Int) + 1) } := by
    simp [move, isValid, ofExpansion]
  rw [moved]
  exact .inExpansion h forward

end Location

/-- A file with a number is in the list at the index before it. -/
theorem SourceMap.getElem?_of_file? {map : SourceMap} {file : Int} {entry : SourceFile}
    (stored : map.file? file = some entry) :
    1 ≤ file ∧ map.files[(file - 1).toNat]? = some entry := by
  unfold file? at stored
  split at stored
  · cases stored
  · exact ⟨by omega, stored⟩

/-- The location of a line and column is known. -/
theorem SourceMap.known_locationAt (map : SourceMap) (file line column : Int)
    (expansions : Nat) : (map.locationAt file line column).Known map.texts expansions := by
  unfold locationAt
  split
  · next offset found =>
    obtain ⟨entry, stored, onLine⟩ := Option.bind_eq_some_iff.mp found
    obtain ⟨positive, position⟩ := getElem?_of_file? stored
    have number : file = ((file - 1).toNat : Int) + 1 := by omega
    have text : map.texts[(file - 1).toNat]? = some entry.text := by
      rw [texts, List.getElem?_map, position]
      rfl
    rw [number]
    exact .inFile text (onLine_of_offsetAt? onLine)
  · exact .invalid

/-! ## Adding entries -/

namespace SourceMap

/-- A file is added behind the texts of the others. -/
theorem texts_addFile (map : SourceMap) (file : SourceFile) :
    (map.addFile file).1.texts = map.texts ++ [file.text] := by
  simp [addFile, texts]

/-- A source without entries is in order. -/
theorem ordered_empty : (empty : SourceMap).Ordered := by
  constructor <;> intro index entry found <;> cases found

/-- A file that was included from a place known before keeps the order. -/
theorem Ordered.addFile {map : SourceMap} (h : map.Ordered) {file : SourceFile}
    (known : file.includedFrom.Known map.texts 0) : (map.addFile file).1.Ordered := by
  have more : map.texts <+: (map.addFile file).1.texts := by
    rw [texts_addFile]
    exact List.prefix_append _ _
  refine ⟨?_, fun found ↦ (h.spelled found).mono more (Nat.le_refl _),
    fun found ↦ (h.started found).mono more (Nat.le_refl _),
    fun found ↦ (h.stopped found).mono more (Nat.le_refl _)⟩
  intro index other found
  have length : map.texts.length = map.files.length := List.length_map _
  rw [texts_addFile]
  rcases Nat.lt_trichotomy index map.files.length with before | here | behind
  · have old : map.files[index]? = some other :=
      List.getElem?_append_left before ▸ found
    rw [List.take_append_of_le_length (by omega)]
    exact h.included old
  · have same : file = other := by
      simpa [SourceMap.addFile, here] using found
    rw [List.take_append_of_le_length (by omega), List.take_of_length_le (by omega), ← same]
    exact known
  · have outside : (map.files ++ [file])[index]? = none :=
      List.getElem?_eq_none (by rw [List.length_append, List.length_singleton]; omega)
    cases outside.symm.trans found

/-- The expansions behind an addition are those before it, and the one added behind them. -/
theorem getElem?_addExpansion {map : SourceMap} {added : Expansion} {index : Nat}
    {other : Expansion} (found : (map.addExpansion added).1.expansions[index]? = some other) :
    map.expansions[index]? = some other ∨ index = map.expansions.length ∧ added = other := by
  rcases Nat.lt_trichotomy index map.expansions.length with before | here | behind
  · exact Or.inl (List.getElem?_append_left before ▸ found)
  · refine Or.inr ⟨here, ?_⟩
    simpa [addExpansion, here] using found
  · have outside : (map.addExpansion added).1.expansions[index]? = none :=
      List.getElem?_eq_none (by rw [addExpansion, List.length_append, List.length_singleton]; omega)
    cases outside.symm.trans found

/-- An expansion that refers to what is known before keeps the order. -/
theorem Ordered.addExpansion {map : SourceMap} (h : map.Ordered) {expansion : Expansion}
    (spelled : expansion.spelling.Known map.texts map.expansions.length)
    (started : expansion.start.Known map.texts map.expansions.length)
    (stopped : expansion.stop.Known map.texts map.expansions.length) :
    (map.addExpansion expansion).1.Ordered := by
  refine ⟨h.included, ?_, ?_, ?_⟩
  all_goals
    intro index other found
    rcases getElem?_addExpansion found with old | ⟨rfl, rfl⟩
  · exact h.spelled old
  · exact spelled
  · exact h.started old
  · exact started
  · exact h.stopped old
  · exact stopped

/-- A line directive changes nothing of a file but its directives. -/
theorem map_files_addDirective {α : Type} {map changed : SourceMap} {file : Int}
    {directive : LineDirective} (added : map.addDirective? file directive = some changed)
    (view : SourceFile → α)
    (same : ∀ (entry : SourceFile) (directives : List LineDirective),
      view { entry with directives } = view entry) :
    changed.files.map view = map.files.map view := by
  obtain ⟨entry, stored, rfl⟩ := Option.map_eq_some_iff.mp added
  obtain ⟨inside, rfl⟩ := List.getElem?_eq_some_iff.mp (getElem?_of_file? stored).2
  show (map.files.set _ _).map view = _
  rw [List.map_set, same, ← List.getElem_map view]
  · exact List.set_getElem_self _
  · rw [List.length_map]
    exact inside

/-- A line directive changes neither a text nor the place that a file was included from. -/
theorem Ordered.addDirective {map changed : SourceMap} (h : map.Ordered) {file : Int}
    {directive : LineDirective} (added : map.addDirective? file directive = some changed) :
    changed.Ordered ∧ changed.texts = map.texts ∧ changed.expansions = map.expansions := by
  have texts : changed.texts = map.texts :=
    map_files_addDirective added (·.text) fun _ _ ↦ rfl
  have included := map_files_addDirective added (·.includedFrom) fun _ _ ↦ rfl
  obtain ⟨entry, -, rfl⟩ := Option.map_eq_some_iff.mp added
  refine ⟨⟨?_, ?_, ?_, ?_⟩, texts, rfl⟩
  · intro index other found
    have place := congrArg (·[index]?) included
    dsimp only at place
    rw [List.getElem?_map, List.getElem?_map, found] at place
    obtain ⟨before, stored, (same : before.includedFrom = other.includedFrom)⟩ :=
      Option.map_eq_some_iff.mp place.symm
    rw [texts, ← same]
    exact h.included stored
  all_goals
    intro index other found
    rw [texts]
  · exact h.spelled found
  · exact h.started found
  · exact h.stopped found

end SourceMap

end Caret
