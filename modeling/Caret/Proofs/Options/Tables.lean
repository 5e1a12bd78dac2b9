import Caret.Proofs.Options.Layers
import Mathlib.Data.List.Basic

/-!
# What a table of options sets

Each option has a key, and a value under that key sets it if it is of the type of the option. A
table without a value of another type sets exactly the options whose keys it has, whatever the order
of its keys and whatever other keys it has, each of which is warned of once. Otherwise reading ends
at the first value of another type, with an error of the configuration if that value can be written.
-/

namespace Caret

open Data (Value Fields)

namespace OptionField

variable {α β : Type}

/-- The truth value that a value is. -/
def toBoolean? : Value → Option Bool
  | .boolean given => some given
  | _ => none

/-- The integer that a value is. -/
def toInteger? : Value → Option Int
  | .integer given => some given
  | _ => none

private theorem toBoolean?_eq_none_iff {value : Value} :
    toBoolean? value = none ↔ ∀ given, value ≠ .boolean given := by
  cases value <;> simp [toBoolean?]

private theorem toInteger?_eq_none_iff {value : Value} :
    toInteger? value = none ↔ ∀ given, value ≠ .integer given := by
  cases value <;> simp [toInteger?]

/-- The key of an option. -/
def key : OptionField α → String
  | .showColors => "show_colors"
  | .wrapColumn => "wrap_column"
  | .tabStop => "tab_stop"
  | .macroBacktraceLimit => "macro_backtrace_limit"
  | .parseableFixits => "parseable_fixits"
  | .format => "format"
  | .showLocation => "show_location"
  | .showColumn => "show_column"
  | .showCarets => "show_carets"
  | .showFixits => "show_fixits"
  | .showSourceRanges => "show_source_ranges"
  | .showLineNumbers => "show_line_numbers"
  | .showNoteIncludeStack => "show_note_include_stack"

/-- What a value sets an option to, if it is of the type of the option. The name of a form may be
written in capitals. -/
def ofValue? : OptionField α → Value → Option α
  | .showColors | .parseableFixits | .showLocation | .showColumn | .showCarets | .showFixits
  | .showSourceRanges | .showLineNumbers | .showNoteIncludeStack => toBoolean?
  | .wrapColumn | .tabStop | .macroBacktraceLimit => toInteger?
  | .format => fun value ↦ LocationFormat.ofName? (Text.lowerString value.plainText)

/-- The layer that sets an option and nothing else. -/
def layer : OptionField α → α → OptionLayer
  | .showColors, given => { showColors := some given }
  | .wrapColumn, given => { wrapColumn := some given }
  | .tabStop, given => { tabStop := some given }
  | .macroBacktraceLimit, given => { macroBacktraceLimit := some given }
  | .parseableFixits, given => { parseableFixits := some given }
  | .format, given => { format := some given }
  | .showLocation, given => { showLocation := some given }
  | .showColumn, given => { showColumn := some given }
  | .showCarets, given => { showCarets := some given }
  | .showFixits, given => { showFixits := some given }
  | .showSourceRanges, given => { showSourceRanges := some given }
  | .showLineNumbers, given => { showLineNumbers := some given }
  | .showNoteIncludeStack, given => { showNoteIncludeStack := some given }

/-- What is wrong with a value that is not of the type of an option. -/
def fault : OptionField α → Value → OptionFault
  | .wrapColumn, given => .notInteger "wrap_column" given
  | .tabStop, given => .notInteger "tab_stop" given
  | .macroBacktraceLimit, given => .notInteger "macro_backtrace_limit" given
  | .format, given => .unknownFormat given
  | field, given => .notBoolean field.key given

private theorem files_layer (field : OptionField α) (given : α) :
    (field.layer given).files = [] := by
  cases field <;> rfl

private theorem isWritable_fault (field : OptionField α) (value : Value) :
    (field.fault value).isWritable = value.isWritable := by
  cases field <;> rfl

private theorem get?_layer (field : OptionField α) (other : OptionField β) {value : Value}
    {given : α} (fits : field.ofValue? value = some given) :
    (field.layer given).get? other =
      if other.key = field.key then other.ofValue? value else none := by
  cases field <;> cases other <;> first | exact fits.symm | rfl

end OptionField

namespace Options

/-- The keys that are known. -/
def keys : List String := booleanKeys.map (·.1) ++ integerKeys.map (·.1) ++ [formatKey]

/-- The keys that are known are those of the options. -/
theorem mem_keys_iff {key : String} :
    key ∈ keys ↔ ∃ (α : Type) (field : OptionField α), field.key = key := by
  constructor
  · intro known
    have one_of : key ∈ ["show_colors", "parseable_fixits", "show_location", "show_column",
      "show_carets", "show_fixits", "show_source_ranges", "show_line_numbers",
      "show_note_include_stack", "wrap_column", "tab_stop", "macro_backtrace_limit", "format"] :=
      known
    simp only [List.mem_cons, List.not_mem_nil, or_false] at one_of
    rcases one_of with rfl | rfl | rfl | rfl | rfl | rfl | rfl | rfl | rfl | rfl | rfl | rfl | rfl
    · exact ⟨_, .showColors, rfl⟩
    · exact ⟨_, .parseableFixits, rfl⟩
    · exact ⟨_, .showLocation, rfl⟩
    · exact ⟨_, .showColumn, rfl⟩
    · exact ⟨_, .showCarets, rfl⟩
    · exact ⟨_, .showFixits, rfl⟩
    · exact ⟨_, .showSourceRanges, rfl⟩
    · exact ⟨_, .showLineNumbers, rfl⟩
    · exact ⟨_, .showNoteIncludeStack, rfl⟩
    · exact ⟨_, .wrapColumn, rfl⟩
    · exact ⟨_, .tabStop, rfl⟩
    · exact ⟨_, .macroBacktraceLimit, rfl⟩
    · exact ⟨_, .format, rfl⟩
  · rintro ⟨α, field, rfl⟩
    cases field <;> decide

end Options

/-- A key is not found exactly if no entry has it. -/
theorem lookup_eq_none_iff_not_mem {β : Type} {key : String} {entries : List (String × β)} :
    entries.lookup key = none ↔ key ∉ entries.map (·.1) := by
  rw [List.lookup_eq_none_iff]
  constructor
  · intro apart held
    obtain ⟨entry, member, same⟩ := List.mem_map.mp held
    exact bne_iff_ne.mp (apart entry member) same.symm
  · intro absent entry member
    apply bne_iff_ne.mpr
    intro same
    exact absent (List.mem_map.mpr ⟨entry, member, same.symm⟩)

namespace OptionLayer

/-- A value is not of the type of its key: no truth value, no integer, or no name of a form. -/
def Misfit (key : String) (value : Value) : Prop :=
  (key ∈ Options.booleanKeys.map (·.1) ∧ ∀ given, value ≠ .boolean given) ∨
    (key ∈ Options.integerKeys.map (·.1) ∧ ∀ given, value ≠ .integer given) ∨
    (key = Options.formatKey ∧
      LocationFormat.ofName? (Text.lowerString value.plainText) = none)

/-- A value is not of the type of an option if it sets the option to nothing. -/
theorem misfit_key_iff {α : Type} (field : OptionField α) (value : Value) :
    Misfit field.key value ↔ field.ofValue? value = none := by
  cases field <;>
    simp [Misfit, OptionField.key, OptionField.ofValue?, Options.booleanKeys,
      Options.integerKeys, Options.formatKey, OptionField.toBoolean?_eq_none_iff,
      OptionField.toInteger?_eq_none_iff]

/-- The value of a key that is not known is of any type. -/
theorem mem_keys_of_misfit {key : String} {value : Value} (h : Misfit key value) :
    key ∈ Options.keys := by
  rcases h with ⟨boolean, -⟩ | ⟨integer, -⟩ | ⟨format, -⟩
  · exact List.mem_append_left _ (List.mem_append_left _ boolean)
  · exact List.mem_append_left _ (List.mem_append_right _ integer)
  · exact List.mem_append_right _ (List.mem_singleton.mpr format)

/-! ## One entry -/

/-- An entry under the key of an option sets the option, or its value is at fault. -/
theorem ofEntry_key {α : Type} (field : OptionField α) (value : Value) :
    ofEntry field.key value = (field.ofValue? value).elim (.error (field.fault value))
      fun given ↦ .ok (some (field.layer given)) := by
  cases field with
  | format =>
    have boolean : Options.booleanKeys.lookup OptionField.format.key = none := rfl
    have integer : Options.integerKeys.lookup OptionField.format.key = none := rfl
    have format : OptionField.format.key = Options.formatKey := rfl
    simp only [ofEntry, boolean, integer, if_pos format, OptionField.ofValue?]
    cases LocationFormat.ofName? (Text.lowerString value.plainText) <;> rfl
  | showColors | wrapColumn | tabStop | macroBacktraceLimit | parseableFixits | showLocation
  | showColumn | showCarets | showFixits | showSourceRanges | showLineNumbers
  | showNoteIncludeStack => cases value <;> rfl

private theorem ofEntry_of_not_mem_keys {key : String} (unknown : key ∉ Options.keys)
    (value : Value) :
    ofEntry key value = .ok none := by
  simp only [Options.keys, List.mem_append, not_or, List.mem_singleton] at unknown
  obtain ⟨⟨boolean, integer⟩, format⟩ := unknown
  simp only [ofEntry, lookup_eq_none_iff_not_mem.mpr boolean,
    lookup_eq_none_iff_not_mem.mpr integer, if_neg format]

/-! ## Tables -/

/-- Of the keys of a table, those that are not known. -/
def unknownKeys (fields : Fields) : List String := fields.keys.filter (· ∉ Options.keys)

/-- All values of a table are of the types of their keys. -/
def Fits (fields : Fields) : Prop := ∀ entry ∈ fields, ¬ Misfit entry.1 entry.2

/-- The first value of a table that is not of the type of its key. -/
def IsFirstMisfit (fields : Fields) (key : String) (value : Value) : Prop :=
  ∃ front back, fields = front ++ (key, value) :: back ∧ Fits front ∧ Misfit key value

private theorem fits_or_exists_isFirstMisfit (fields : Fields) :
    Fits fields ∨ ∃ key value, IsFirstMisfit fields key value := by
  induction fields with
  | nil => exact Or.inl (List.forall_mem_nil _)
  | cons entry rest ih =>
    by_cases here : Misfit entry.1 entry.2
    · exact Or.inr ⟨entry.1, entry.2, [], rest, rfl, List.forall_mem_nil _, here⟩
    · rcases ih with fits | ⟨key, value, front, back, rfl, fits, misfit⟩
      · exact Or.inl (List.forall_mem_cons.mpr ⟨here, fits⟩)
      · exact Or.inr ⟨key, value, entry :: front, back, rfl,
          List.forall_mem_cons.mpr ⟨here, fits⟩, misfit⟩

/-- Behind an entry that fits, reading goes on with its option set, or with a key passed over. -/
theorem readEntries_cons_of_not_misfit {key : String} {value : Value} (fit : ¬ Misfit key value)
    (layer : OptionLayer) (rest : Fields) :
    (key ∉ Options.keys ∧ readEntries layer ((key, value) :: rest) =
      ((readEntries layer rest).1, key :: (readEntries layer rest).2)) ∨
    ∃ (α : Type) (field : OptionField α) (given : α), field.key = key ∧
      field.ofValue? value = some given ∧
      readEntries layer ((key, value) :: rest) =
        readEntries (layer.merge (field.layer given)) rest := by
  by_cases known : key ∈ Options.keys
  · obtain ⟨α, field, rfl⟩ := Options.mem_keys_iff.mp known
    rw [misfit_key_iff] at fit
    obtain ⟨given, fits⟩ := Option.ne_none_iff_exists'.mp fit
    refine Or.inr ⟨α, field, given, rfl, fits, readEntries_cons ?_ _ _⟩
    rw [ofEntry_key, fits, Option.elim_some]
  · refine Or.inl ⟨known, ?_⟩
    rw [readEntries, ofEntry_of_not_mem_keys known]

/-- Reading a table in which some value is not of the type of its key ends at the first. -/
theorem IsFirstMisfit.readEntries {fields : Fields} {key : String} {value : Value}
    (h : IsFirstMisfit fields key value) (layer : OptionLayer) :
    ∃ fault, (readEntries layer fields).1 = .error fault ∧
      fault.isWritable = value.isWritable := by
  obtain ⟨front, back, rfl, fits, misfit⟩ := h
  induction front generalizing layer with
  | nil =>
    obtain ⟨α, field, rfl⟩ := Options.mem_keys_iff.mp (mem_keys_of_misfit misfit)
    refine ⟨field.fault value, ?_, field.isWritable_fault value⟩
    rw [List.nil_append, OptionLayer.readEntries, ofEntry_key,
      (misfit_key_iff field value).mp misfit]
    rfl
  | cons entry rest ih =>
    obtain ⟨here, others⟩ := List.forall_mem_cons.mp fits
    rcases readEntries_cons_of_not_misfit here layer (rest ++ (key, value) :: back) with
      ⟨-, passed⟩ | ⟨_, field, given, -, -, set⟩
    · rw [List.cons_append, passed]
      exact ih layer others
    · rw [List.cons_append, set]
      exact ih _ others

/-- The value of a key in front of a table with other keys. -/
theorem get?_cons (key other : String) (value : Value) (rest : Fields) :
    Fields.get? ((key, value) :: rest) other =
      if other = key then some value else Fields.get? rest other := by
  rw [Fields.get?, List.lookup_cons]
  by_cases same : other = key
  · rw [if_pos same, beq_iff_eq.mpr same]
  · rw [if_neg same, beq_eq_false_iff_ne.mpr same]
    rfl

/-- Reading a table that fits sets its options above those of a layer. If the table has no key
twice, an option has the value under its key. -/
theorem Fits.readEntries {fields : Fields} (fits : Fits fields) (layer : OptionLayer) :
    ∃ result, readEntries layer fields = (.ok result, unknownKeys fields) ∧
      result.files = layer.files ∧
      (fields.keys.Nodup → ∀ (α : Type) (field : OptionField α), result.get? field =
        ((fields.get? field.key).bind field.ofValue?).or (layer.get? field)) := by
  induction fields generalizing layer with
  | nil => exact ⟨layer, rfl, rfl, fun _ _ _ ↦ rfl⟩
  | cons entry rest ih =>
    obtain ⟨key, value⟩ := entry
    obtain ⟨here, others⟩ := List.forall_mem_cons.mp fits
    rcases readEntries_cons_of_not_misfit here layer rest with
      ⟨unknown, passed⟩ | ⟨_, field, given, rfl, set_to, set⟩
    · obtain ⟨result, read, files, sets⟩ := ih others layer
      refine ⟨result, ?_, files, fun nodup α other ↦ ?_⟩
      · rw [passed, read]
        simp [unknownKeys, Fields.keys, unknown]
      · have different : other.key ≠ key := by
          intro same
          exact unknown (Options.mem_keys_iff.mpr ⟨_, other, same⟩)
        rw [sets (List.nodup_cons.mp nodup).2, get?_cons, if_neg different]
    · obtain ⟨result, read, files, sets⟩ := ih others (layer.merge (field.layer given))
      have known : field.key ∈ Options.keys := Options.mem_keys_iff.mpr ⟨_, field, rfl⟩
      refine ⟨result, ?_, ?_, fun nodup α other ↦ ?_⟩
      · rw [set, read]
        simp [unknownKeys, Fields.keys, known]
      · rw [files, files_merge, field.files_layer, List.append_nil]
      · obtain ⟨fresh, distinct⟩ := List.nodup_cons.mp nodup
        rw [sets distinct, get?_cons, get?_merge, field.get?_layer other set_to]
        by_cases same : other.key = field.key
        · have absent : Fields.get? rest other.key = none := by
            apply lookup_eq_none_iff_not_mem.mpr
            rwa [same]
          rw [absent, if_pos same, if_pos same]
          rfl
        · rw [if_neg same, if_neg same, Option.none_or]

/-- In a table that has no key twice a key has the value that stands under it. -/
theorem get?_eq_some_iff {fields : Fields} (nodup : fields.keys.Nodup) {key : String}
    {value : Value} : fields.get? key = some value ↔ (key, value) ∈ fields := by
  induction fields with
  | nil => exact iff_of_false (fun found ↦ nomatch found) (List.not_mem_nil)
  | cons entry rest ih =>
    obtain ⟨other, given⟩ := entry
    obtain ⟨fresh, distinct⟩ := List.nodup_cons.mp nodup
    rw [get?_cons, List.mem_cons, Prod.mk.injEq]
    by_cases same : key = other
    · subst same
      have absent : (key, value) ∉ rest := fun member ↦
        fresh (List.mem_map.mpr ⟨_, member, rfl⟩)
      rw [if_pos rfl, or_iff_left absent, Option.some.injEq, eq_self_iff_true, true_and, eq_comm]
    · rw [if_neg same, ih distinct, eq_false same, false_and, false_or]

/-- Of the entries of a table, those whose keys are known. -/
def knownEntries (fields : Fields) : Fields := fields.filter (·.1 ∈ Options.keys)

/-- The known entries of a table are its entries under known keys. -/
theorem mem_knownEntries {fields : Fields} {entry : String × Value} :
    entry ∈ knownEntries fields ↔ entry ∈ fields ∧ entry.1 ∈ Options.keys := by
  rw [knownEntries, List.mem_filter, decide_eq_true_iff]

section SameKnownEntries

variable {fields others : Fields} (same : (knownEntries others).Perm (knownEntries fields))

include same

/-- Tables with the same known entries have the same entries under a known key. -/
theorem mem_iff_of_knownEntries {entry : String × Value} (known : entry.1 ∈ Options.keys) :
    entry ∈ others ↔ entry ∈ fields := by
  have kept := same.mem_iff (a := entry)
  rwa [mem_knownEntries, mem_knownEntries, and_iff_left known, and_iff_left known] at kept

/-- With the known entries of a table that fits another one fits. -/
theorem Fits.of_knownEntries (fits : Fits fields) : Fits others := by
  intro entry member misfit
  have known := mem_keys_of_misfit misfit
  exact fits entry ((mem_iff_of_knownEntries same known).mp member) misfit

private theorem get?_eq_of_knownEntries (nodup : fields.keys.Nodup) (distinct : others.keys.Nodup)
    {key : String} (known : key ∈ Options.keys) : others.get? key = fields.get? key := by
  ext value
  rw [get?_eq_some_iff nodup, get?_eq_some_iff distinct]
  exact mem_iff_of_knownEntries same known

end SameKnownEntries

/-! ## Documents -/

/-- What a document holds under the key of the table. Without the key that is an empty table. -/
def tableIn (document : Fields) : Value := (document.get? Options.tableKey).getD (.record [])

/-- A document is at fault if it holds no table, or a table with a misfit. -/
def AtFault (document : Fields) : Prop :=
  (∀ fields, tableIn document ≠ .record fields) ∨
    ∃ fields, tableIn document = .record fields ∧ ∃ entry ∈ fields, Misfit entry.1 entry.2

variable {source : Option String} {document fields : Fields}

/-- What is under the key of the table is no table. -/
theorem ofSource_of_not_record (other : ∀ fields, tableIn document ≠ .record fields) :
    (ofSource source document).result = .error .notTable := by
  rw [ofSource, ofDocument, ← tableIn]
  cases held : tableIn document with
  | record fields => exact absurd held (other fields)
  | null | boolean | integer | float | string | moment | list => rfl

/-- A document with a table sets what its entries set. -/
theorem ofSource_of_record (held : tableIn document = .record fields) :
    ofSource source document =
      { source := source.getD unnamedSource
        result := (readEntries empty fields).1.map fun layer ↦ { layer with files := source.toList }
        unknown := (readEntries empty fields).2.map (⟨source.getD unnamedSource, ·⟩) } := by
  rw [ofSource, ofDocument, ← tableIn, held]

/-- A table with a misfit sets nothing: its first misfit is what is wrong. -/
theorem IsFirstMisfit.exists_fault {key : String} {value : Value}
    (h : IsFirstMisfit fields key value)
    (source : Option String) (held : tableIn document = .record fields) :
    ∃ fault, (ofSource source document).result = .error fault ∧
      fault.isWritable = value.isWritable := by
  obtain ⟨fault, wrong, shown⟩ := h.readEntries empty
  refine ⟨fault, ?_, shown⟩
  rw [ofSource_of_record held, wrong]
  rfl

/-- A table that fits sets the options whose keys it has, and warns of each other key once, in its
order. -/
theorem Fits.exists_layer (fits : Fits fields) (source : Option String)
    (held : tableIn document = .record fields) :
    ∃ layer, ofSource source document =
        { source := source.getD unnamedSource
          result := .ok layer
          unknown := (unknownKeys fields).map (⟨source.getD unnamedSource, ·⟩) } ∧
      layer.files = source.toList ∧
      (fields.keys.Nodup → ∀ (α : Type) (field : OptionField α),
        layer.get? field = (fields.get? field.key).bind field.ofValue?) := by
  obtain ⟨layer, read, -, sets⟩ := fits.readEntries empty
  refine ⟨{ layer with files := source.toList }, ?_, rfl, fun nodup α field ↦ ?_⟩
  · rw [ofSource_of_record held, read]
    rfl
  · have kept : ({ layer with files := source.toList } : OptionLayer).get? field =
        layer.get? field := by
      cases field <;> rfl
    rw [kept, sets nodup, get?_empty, Option.or_none]

/-- An option has a value in a table that fits exactly if its key is in the table. -/
theorem Fits.isSome_bind_ofValue?_iff (fits : Fits fields) (nodup : fields.keys.Nodup) {α : Type}
    (field : OptionField α) :
    ((fields.get? field.key).bind field.ofValue?).isSome = true ↔ field.key ∈ fields.keys := by
  cases found : fields.get? field.key with
  | none => exact iff_of_false Bool.false_ne_true (lookup_eq_none_iff_not_mem.mp found)
  | some value =>
    have member := (get?_eq_some_iff nodup).mp found
    have fit := fits _ member
    rw [misfit_key_iff, ← ne_eq, ← Option.isSome_iff_ne_none] at fit
    exact iff_of_true fit (List.mem_map.mpr ⟨_, member, rfl⟩)

/-- With the known entries of a table that fits another table sets the same options. -/
theorem Fits.result_of_knownEntries {other others : Fields} {layer : OptionLayer}
    (fits : Fits fields) (nodup : fields.keys.Nodup) (distinct : others.keys.Nodup)
    (same : (knownEntries others).Perm (knownEntries fields))
    (held : tableIn other = .record others) (files : layer.files = source.toList)
    (sets : ∀ (α : Type) (field : OptionField α),
      layer.get? field = (fields.get? field.key).bind field.ofValue?) :
    (ofSource source other).result = .ok layer := by
  obtain ⟨twin, read, from_source, sets_twin⟩ :=
    (fits.of_knownEntries same).exists_layer source held
  have equal : twin = layer := by
    apply ext_get?
    · intro α field
      have known : field.key ∈ Options.keys := Options.mem_keys_iff.mpr ⟨_, field, rfl⟩
      rw [sets_twin distinct, sets, get?_eq_of_knownEntries same nodup distinct known]
    · rw [from_source, files]
  rw [read, equal]

/-- A table with a first misfit is at fault. -/
theorem IsFirstMisfit.atFault {key : String} {value : Value} (h : IsFirstMisfit fields key value)
    (held : tableIn document = .record fields) : AtFault document := by
  obtain ⟨front, back, rfl, -, misfit⟩ := h
  exact Or.inr ⟨_, held, (key, value), List.mem_append_right _ List.mem_cons_self, misfit⟩

/-- A table that fits is not at fault. -/
theorem Fits.not_atFault (fits : Fits fields) (held : tableIn document = .record fields) :
    ¬ AtFault document := by
  rintro (other | ⟨same, again, entry, member, misfit⟩)
  · exact other fields held
  · cases held.symm.trans again
    exact fits entry member misfit

private theorem fits_of_not_atFault (sound : ¬ AtFault document)
    (held : tableIn document = .record fields) : Fits fields := by
  intro entry member misfit
  exact sound (Or.inr ⟨fields, held, entry, member, misfit⟩)

/-- A document holds no table, a table that fits or one with a first misfit. -/
theorem document_cases (document : Fields) :
    (∀ fields, tableIn document ≠ .record fields) ∨
      ∃ fields, tableIn document = .record fields ∧
        (Fits fields ∨ ∃ key value, IsFirstMisfit fields key value) := by
  by_cases table : ∃ fields, tableIn document = .record fields
  · obtain ⟨fields, held⟩ := table
    exact Or.inr ⟨fields, held, fits_or_exists_isFirstMisfit fields⟩
  · exact Or.inl (not_exists.mp table)

/-- Reading fails exactly if the document is at fault. -/
theorem exists_error_iff :
    (∃ fault, (ofSource source document).result = .error fault) ↔ AtFault document := by
  rcases document_cases document with other | ⟨fields, held, fits | ⟨key, value, first⟩⟩
  · exact iff_of_true ⟨_, ofSource_of_not_record other⟩ (Or.inl other)
  · obtain ⟨layer, read, -⟩ := fits.exists_layer source held
    apply iff_of_false _ (fits.not_atFault held)
    rintro ⟨fault, wrong⟩
    rw [read] at wrong
    cases wrong
  · obtain ⟨fault, wrong, -⟩ := first.exists_fault source held
    exact iff_of_true ⟨fault, wrong⟩ (first.atFault held)

end OptionLayer

/-- Reading ended with an error of the configuration: something is wrong, and its description can
be written. -/
def SourcedLayer.IsConfigError (sourced : SourcedLayer) : Prop :=
  ∃ fault, sourced.result = .error fault ∧ fault.isWritable = true

namespace OptionLayer

variable {source : Option String} {document fields : Fields}

/-- What is under the key of the table is no table, which is an error of the configuration. -/
theorem isConfigError_of_not_record (other : ∀ fields, tableIn document ≠ .record fields) :
    (ofSource source document).IsConfigError := ⟨.notTable, ofSource_of_not_record other, rfl⟩

/-- A table with a misfit ends with an error of the configuration if the first one can be
written. -/
theorem IsFirstMisfit.isConfigError_iff {key : String} {value : Value}
    (h : IsFirstMisfit fields key value) (held : tableIn document = .record fields) :
    (ofSource source document).IsConfigError ↔ value.isWritable = true := by
  obtain ⟨fault, wrong, shown⟩ := h.exists_fault source held
  rw [← shown]
  constructor
  · rintro ⟨same, again, written⟩
    cases wrong.symm.trans again
    exact written
  · exact fun written ↦ ⟨fault, wrong, written⟩

/-- What a table of options sets. Reading fails exactly if what is under the key is no table, or has
a value that is not of the type of its key. It fails with an error of the configuration if the first
such value can be written, so always exactly if first misfits can be. Otherwise it sets exactly the
options whose keys are there, to the values under them, and nothing else; it warns of each key that
is not known, once and in the order of the table. A table with the same known entries in any order
and with any other keys is read as the same layer. -/
theorem table_sets_known_keys (source : Option String) (document : Fields) :
    ((∃ fault, (ofSource source document).result = .error fault) ↔ AtFault document) ∧
    ((ofSource source document).IsConfigError ↔
      (∀ fields, tableIn document ≠ .record fields) ∨
        ∃ fields key value, tableIn document = .record fields ∧
          IsFirstMisfit fields key value ∧ value.isWritable = true) ∧
    (((ofSource source document).IsConfigError ↔ AtFault document) ↔
      ∀ fields key value, tableIn document = .record fields →
        IsFirstMisfit fields key value → value.isWritable = true) ∧
    ∀ fields : Fields, tableIn document = .record fields → fields.keys.Nodup → ¬ AtFault document →
      ∃ layer, ofSource source document =
          { source := source.getD unnamedSource
            result := .ok layer
            unknown := (unknownKeys fields).map (⟨source.getD unnamedSource, ·⟩) } ∧
        layer.files = source.toList ∧
        (∀ (α : Type) (field : OptionField α),
          layer.get? field = (fields.get? field.key).bind field.ofValue? ∧
            ((layer.get? field).isSome = true ↔ field.key ∈ fields.keys)) ∧
        ∀ other others : Fields, tableIn other = .record others → others.keys.Nodup →
          (knownEntries others).Perm (knownEntries fields) →
          (ofSource source other).result = .ok layer := by
  refine ⟨exists_error_iff, ?config_error, ?always, ?sets⟩
  case config_error =>
    constructor
    · intro failed
      rcases document_cases document with other | ⟨fields, held, fits | ⟨key, value, first⟩⟩
      · exact Or.inl other
      · obtain ⟨fault, wrong, -⟩ := failed
        exact absurd (exists_error_iff.mp ⟨fault, wrong⟩) (fits.not_atFault held)
      · exact Or.inr ⟨fields, key, value, held, first, (first.isConfigError_iff held).mp failed⟩
    · rintro (other | ⟨fields, key, value, held, first, written⟩)
      · exact isConfigError_of_not_record other
      · exact (first.isConfigError_iff held).mpr written
  case always =>
    constructor
    · intro always fields key value held first
      exact (first.isConfigError_iff held).mp (always.mpr (first.atFault held))
    · intro written
      constructor
      · rintro ⟨fault, wrong, -⟩
        exact exists_error_iff.mp ⟨fault, wrong⟩
      · intro wrong
        rcases document_cases document with other | ⟨fields, held, fits | ⟨key, value, first⟩⟩
        · exact isConfigError_of_not_record other
        · exact absurd wrong (fits.not_atFault held)
        · exact (first.isConfigError_iff held).mpr (written fields key value held first)
  case sets =>
    intro fields held nodup sound
    have fits := fits_of_not_atFault sound held
    obtain ⟨layer, read, files, sets⟩ := fits.exists_layer source held
    refine ⟨layer, read, files, fun α field ↦ ⟨sets nodup α field, ?_⟩, ?_⟩
    · rw [sets nodup]
      exact fits.isSome_bind_ofValue?_iff nodup field
    · intro other others there distinct same
      exact fits.result_of_knownEntries nodup distinct same there files (sets nodup)

/-- A document in which an option is an integer with too many digits to be written. -/
def longValueDocument : Fields :=
  [(Options.tableKey, .record [("show_colors", .integer (Nat.pow 10 Text.maxDecimalDigits))])]

/-- A document with a key that is not known between two options. -/
def mixedDocument : Fields :=
  [(Options.tableKey,
    .record [("tab_stop", .integer 4), ("colour", .null), ("format", .string "MSVC")])]

/-- A document with the same options the other way round. -/
def reversedDocument : Fields :=
  [(Options.tableKey, .record [("format", .string "MSVC"), ("tab_stop", .integer 4)])]

/-- An integer in place of a truth value is at fault, but if it is too long it is no error of the
configuration. Options are read in either order, and the key between them is warned of. -/
theorem long_value_no_config_error :
    AtFault longValueDocument ∧ ¬ (ofSource none longValueDocument).IsConfigError ∧
      ∃ layer, ofSource (some "a.toml") mixedDocument =
          { source := "a.toml", result := .ok layer, unknown := [⟨"a.toml", "colour"⟩] } ∧
        layer.get? .tabStop = some 4 ∧ (layer.get? .showColors).isSome = false ∧
        (ofSource (some "a.toml") reversedDocument).result = .ok layer := by
  obtain ⟨faulty, config_error, -⟩ := table_sets_known_keys none longValueDocument
  obtain ⟨mixed_faulty, -, -, sets⟩ := table_sets_known_keys (some "a.toml") mixedDocument
  refine ⟨faulty.mp ⟨_, rfl⟩, ?long, ?mixed⟩
  case long =>
    rw [config_error]
    rintro (other | ⟨fields, key, value, held, ⟨front, back, split, -, -⟩, written⟩)
    · exact other _ rfl
    · cases held
      obtain ⟨rfl, same⟩ | ⟨more, -, rest⟩ := List.cons_eq_append_iff.mp split
      · cases same
        rw [Value.isWritable, Text.isWritable_iff] at written
        exact absurd written (by decide +kernel)
      · exact absurd rest.symm (List.append_ne_nil_of_right_ne_nil more (List.cons_ne_nil _ _))
  case mixed =>
    have sound : ¬ AtFault mixedDocument := by
      rw [← mixed_faulty]
      rintro ⟨fault, wrong⟩
      cases wrong
    obtain ⟨layer, read, -, options, reordered⟩ := sets _ rfl (by decide) sound
    refine ⟨layer, read, (options _ .tabStop).1, ?_, ?_⟩
    · rw [Bool.eq_false_iff, ne_eq, (options _ .showColors).2]
      decide
    · exact reordered _ _ rfl (by decide) (.swap _ _ [])

end OptionLayer

end Caret
