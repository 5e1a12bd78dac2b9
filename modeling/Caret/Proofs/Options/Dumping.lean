import Caret.Proofs.Batch.Totality
import Caret.Proofs.Config.Course
import Caret.Proofs.Options.Layers
import Caret.Proofs.Text.Escapes
import Caret.Proofs.Text.Octets
import Caret.Proofs.Toml.Documents

/-!
# Options that are written and read again

The options that are written as a document are read back as a layer that sets all of them, in range
and with nothing to be warned of. So the output of a dump, saved as a configuration, stands for the
options it was made of. What stands against this are integers of more digits than can be written,
which may come from a numeral in another base than ten.
-/

namespace Caret

open Data (Value Fields)

/-! ## The layer of all options -/

/-- A layer stands for some options by itself: it sets all of them, and they are in range. -/
structure OptionLayer.Reproduces (layer : OptionLayer) (options : Options) : Prop where
  complete : ∀ (α : Type) (field : OptionField α), (layer.get? field).isSome = true
  quiet : layer.warnings = []
  frozen : layer.freeze = options

namespace OptionLayer

/-- An entry with a truth value. -/
theorem ofEntry_boolean {key : String} {single : Bool → OptionLayer}
    (known : Options.booleanKeys.lookup key = some single) (value : Bool) :
    ofEntry key (.boolean value) = .ok (some (single value)) := by
  rw [ofEntry, known]

/-- An entry with an integer. -/
theorem ofEntry_integer {key : String} {single : Int → OptionLayer}
    (other : Options.booleanKeys.lookup key = none)
    (known : Options.integerKeys.lookup key = some single) (value : Int) :
    ofEntry key (.integer value) = .ok (some (single value)) := by
  rw [ofEntry, other, known]

private theorem ofEntry_format (format : LocationFormat) :
    ofEntry Options.formatKey (.string format.name) = .ok (some { format := some format }) := by
  have named : LocationFormat.ofName? (Text.lowerString format.name) = some format := by
    cases format <;> decide +kernel
  have boolean : Options.booleanKeys.lookup Options.formatKey = none := rfl
  have integer : Options.integerKeys.lookup Options.formatKey = none := rfl
  simp only [ofEntry, boolean, integer, if_true, Value.plainText, named]

end OptionLayer

namespace Options

private theorem hasDistinctKeys_document (options : Options) :
    options.document.HasDistinctKeys where
  top := List.nodup_singleton tableKey
  inside := by
    intro table member
    rw [List.mem_singleton.mp member]
    show (["show_colors", "wrap_column", "tab_stop", "macro_backtrace_limit", "parseable_fixits",
      formatKey, "show_location", "show_column", "show_carets", "show_fixits",
      "show_source_ranges", "show_line_numbers", "show_note_include_stack"] : List String).Nodup
    decide

private theorem isWritable_document {options : Options} (h : options.InRange) :
    options.document.isWritable = true ↔
      Text.isWritable options.wrapColumn = true ∧
        Text.isWritable options.macroBacktraceLimit = true := by
  have tabStop : Text.isWritable options.tabStop = true := by
    have small : options.tabStop.natAbs < 10 ^ 3 := by
      have := h.tabStop
      simp only [maxTabStop] at this
      omega
    rw [Text.isWritable, decide_eq_true_iff, Nat.toString_eq_repr, Nat.repr_eq_ofList_toDigits,
      String.length_ofList]
    exact Nat.le_trans ((Nat.length_toDigits_le_iff (by decide) (by decide)).mpr small) (by decide)
  have values : options.document.isWritable =
      (true && ((true && (Text.isWritable options.wrapColumn && (Text.isWritable options.tabStop &&
        (Text.isWritable options.macroBacktraceLimit && true)))) && true)) := rfl
  rw [values, tabStop]
  simp

private theorem readEntries_fieldsOf (options : Options) :
    OptionLayer.readEntries .empty (Toml.fieldsOf options.entries) =
      (.ok (.ofOptions options), []) := by
  open OptionLayer in
  simp only [Toml.fieldsOf, entries, List.map_cons, List.map_nil, Toml.Scalar.toValue]
  rw [readEntries_cons (@ofEntry_boolean "show_colors" _ rfl _),
    readEntries_cons (@ofEntry_integer "wrap_column" _ rfl rfl _),
    readEntries_cons (@ofEntry_integer "tab_stop" _ rfl rfl _),
    readEntries_cons (@ofEntry_integer "macro_backtrace_limit" _ rfl rfl _),
    readEntries_cons (@ofEntry_boolean "parseable_fixits" _ rfl _),
    readEntries_cons (ofEntry_format _)]
  rfl

private theorem ofSource_fields (options : Options) (source : Option String) :
    OptionLayer.ofSource source options.document.fields =
      { source := source.getD unnamedSource
        result := .ok { OptionLayer.ofOptions options with files := source.toList }
        unknown := [] } := by
  have read : OptionLayer.ofDocument options.document.fields = (.ok (.ofOptions options), []) :=
    readEntries_fieldsOf options
  rw [OptionLayer.ofSource, read]
  rfl

/-- A tab stop in range is one. -/
theorem InRange.isTabStop {options : Options} (h : options.InRange) :
    OptionLayer.isTabStop options.tabStop = true := by
  rw [OptionLayer.isTabStop, Bool.and_eq_true, decide_eq_true_iff, decide_eq_true_iff]
  exact h.tabStop

/-- The layer that sets all options stands for them, if they are in range. -/
theorem InRange.reproduces {options : Options} (h : options.InRange) (files : List String) :
    OptionLayer.Reproduces { OptionLayer.ofOptions options with files := files } options where
  complete := by
    intro α field
    cases field <;> rfl
  quiet := by
    simp [OptionLayer.warnings, OptionLayer.ofOptions, Option.filter_some, h.isTabStop,
      h.wrapColumn, h.macroBacktraceLimit]
  frozen := by
    have sane : { OptionLayer.ofOptions options with files := files }.sanitized =
        { OptionLayer.ofOptions options with files := files } := by
      simp [OptionLayer.sanitized, OptionLayer.ofOptions, h.isTabStop,
        Int.max_eq_left h.wrapColumn, Int.not_lt.mpr h.macroBacktraceLimit]
    rw [OptionLayer.freeze, sane]
    rfl

/-- Options that were written are read as a layer that stands for them, with nothing to be warned
of, by any writer and reader that agree. -/
theorem exists_reproduces_of_written (codec : Toml.Codec) {options : Options}
    (range : options.InRange) {text front behind : Text}
    (written : codec.write options.document = some text) (before : Toml.IsRemark front)
    (after : Toml.IsRemark behind) :
    ∃ fields, codec.read (front ++ text ++ behind) = .ok fields ∧ ∀ source : Option String,
      ∃ read : OptionLayer,
        OptionLayer.ofSource source fields =
          { source := source.getD unnamedSource, result := .ok read, unknown := [] } ∧
        read.Reproduces options :=
  ⟨_, codec.reads options.hasDistinctKeys_document written before after, fun source ↦
    ⟨_, options.ofSource_fields source, range.reproduces source.toList⟩⟩

end Options

/-! ## The output of a dump -/

namespace Text

private theorem stripStyles_of_escapeFree {text : Text} (h : EscapeFree text) :
    stripStyles text = text := by
  fun_induction stripStyles text with
  | case1 => rfl
  | case2 => rfl
  | case3 c d rest opens behind shorter found ih =>
    exact absurd opens.1 (escapeFree_cons.mp h).1.symm
  | case4 c d rest opens none ih => rw [ih (escapeFree_cons.mp h).2]
  | case5 c d rest other ih => rw [ih (escapeFree_cons.mp h).2]

/-- Text without control characters has no escape. -/
theorem escapeFree_of_isControl {text : Text} (h : text.any Toml.isControl = false) :
    EscapeFree text := by
  intro inside
  have escape := List.any_eq_false.mp h _ inside
  exact escape (by decide)

end Text

namespace Toml

open Text

/-- A written key has no escape. -/
theorem escapeFree_keyText (key : String) : EscapeFree (keyText key) := by
  rw [keyText]
  split
  · next bare =>
    intro inside
    have escape := List.all_eq_true.mp bare.2 _ inside
    exact absurd escape (by decide)
  · exact escapeFree_of_isControl (isControl_quotedString key)

private theorem escapeFree_text (scalar : Scalar) : EscapeFree scalar.text := by
  cases scalar with
  | boolean value => cases value <;> decide
  | integer value => exact EscapeFree.ofInt value
  | string value => exact escapeFree_of_isControl (isControl_quotedString value)

private theorem escapeFree_entryLine (entry : String × Scalar) : EscapeFree (entryLine entry) := by
  rw [entryLine, escapeFree_append, escapeFree_append]
  exact ⟨⟨escapeFree_keyText entry.1, by decide⟩, escapeFree_text entry.2⟩

/-- The lines of values have no escape. -/
theorem escapeFree_entriesText (entries : Entries) : EscapeFree (entriesText entries) := by
  intro inside
  obtain ⟨entry, -, line⟩ := List.mem_flatMap.mp inside
  have free : EscapeFree (entryLine entry ++ ['\n']) :=
    escapeFree_append.mpr ⟨escapeFree_entryLine entry, by decide⟩
  exact free line

/-- A table has no escape. -/
theorem escapeFree_tableText (table : String × Entries) : EscapeFree (tableText table) := by
  rw [tableText, escapeFree_cons, escapeFree_append, escapeFree_cons, escapeFree_cons]
  exact ⟨by decide, escapeFree_keyText table.1, by decide, by decide,
    escapeFree_entriesText table.2⟩

private theorem escapeFree_document (document : Document) : EscapeFree document.text := by
  have tables (tables : List (String × Entries)) : EscapeFree (tablesText tables) := by
    intro inside
    obtain ⟨table, -, block⟩ := List.mem_flatMap.mp inside
    have free : EscapeFree ('\n' :: tableText table) :=
      escapeFree_cons.mpr ⟨by decide, escapeFree_tableText table⟩
    exact free block
  rw [text_eq]
  split
  · cases document.tables with
    | nil => exact escapeFree_nil
    | cons table rest =>
      exact escapeFree_append.mpr
        ⟨escapeFree_tableText table, escapeFree_append.mpr ⟨tables rest, escapeFree_nil⟩⟩
  · exact escapeFree_append.mpr ⟨escapeFree_entriesText _, tables _⟩

end Toml

/-- The text of options ends with a truth value on its line. -/
theorem Options.suffix_text_document (options : Options) :
    ['e', '\n'] <:+ options.document.text := by
  have value : ['e'] <:+ (Toml.Scalar.boolean options.showNoteIncludeStack).text := by
    cases options.showNoteIncludeStack
    · exact ⟨"fals".toList, rfl⟩
    · exact ⟨"tru".toList, rfl⟩
  have line : ['e', '\n'] <:+ Toml.entryLine
      ("show_note_include_stack", .boolean options.showNoteIncludeStack) ++ ['\n'] :=
    List.suffix_append_self_iff.mpr (value.trans (List.suffix_append _ _))
  have entries : ['e', '\n'] <:+ Toml.entriesText options.entries := by
    have last : options.entries = options.entries.take 12 ++
      [("show_note_include_stack", .boolean options.showNoteIncludeStack)] := rfl
    rw [last, Toml.entriesText, List.flatMap_append, List.flatMap_singleton]
    exact line.trans (List.suffix_append _ _)
  have table : options.document.text = Toml.tableText (tableKey, options.entries) ++ ([] ++ []) :=
    Toml.text_eq options.document
  rw [table, List.append_nil, List.append_nil, Toml.tableText]
  exact (((entries.trans (List.suffix_cons _ _)).trans (List.suffix_cons _ _)).trans
    (List.suffix_append _ _)).trans (List.suffix_cons _ _)

namespace CommandLine.Session

open Text

variable {session : Session} {request : RenderingRequest} {options : Options}
  {records : List Log.Record} {text : Text}

/-- The line in front of a dump. -/
def dumpOpening : Text := endLine "# === BEGIN ===".toList

/-- The line behind a dump. -/
def dumpClosing : Text := endLine "# === END ===".toList

/-- Lines without escapes are printed as they are. -/
theorem print_of_escapeFree {lines : List Text} (h : ∀ line ∈ lines, EscapeFree line) :
    session.print lines = endLines lines := by
  have plain : lines.map session.console.plain = lines := by
    refine (List.map_congr_left fun line member ↦ ?_).trans (List.map_id lines)
    rw [Console.plain]
    split
    · rfl
    · exact stripStyles_of_escapeFree (h line member)
  rw [print, plain]

/-- A dump is the document between two comments. -/
theorem runDumpConfig_of_writable (loaded : session.loadOptions request = (.ok options, records))
    (written : options.document.text? = some text) :
    session.runDumpConfig request =
      session.succeed (dumpOpening ++ text ++ dumpClosing) (session.logLines records) := by
  have same : text = options.document.text := by
    rw [Toml.Document.text?] at written
    split at written
    · exact (Option.some.inj written).symm
    · cases written
  obtain ⟨front, ends⟩ := options.suffix_text_document
  have free : EscapeFree (front ++ ['e']) := by
    have whole := Toml.escapeFree_document options.document
    rw [← ends, escapeFree_append] at whole
    exact escapeFree_append.mpr ⟨whole.1, by decide⟩
  have trimmed : (text.reverse.dropWhile (· = '\n')).reverse = front ++ ['e'] := by
    rw [same, ← ends, List.reverse_append]
    show ('e' :: front.reverse).reverse = _
    rw [List.reverse_cons, List.reverse_reverse]
  have marks : ∀ line ∈ [front ++ ['e'], "# === END ===".toList], EscapeFree line :=
    List.forall_mem_cons.mpr ⟨free, List.forall_mem_singleton.mpr (by decide)⟩
  rw [runDumpConfig, withOptions, loaded]
  dsimp only
  rw [written]
  dsimp only
  rw [trimmed, print_of_escapeFree (List.forall_mem_singleton.mpr (by decide)),
    print_of_escapeFree marks, same, ← ends]
  have line : endLine (front ++ ['e']) = front ++ ['e', '\n'] := List.append_assoc _ _ _
  simp only [endLines, List.flatMap_cons, List.flatMap_nil, List.append_nil, line,
    List.append_assoc, dumpOpening, dumpClosing]

private theorem runDumpConfig_of_unwritable
    (loaded : session.loadOptions request = (.ok options, records))
    (unwritten : options.document.text? = none) :
    session.runDumpConfig request = session.stop records .unwritable dumpOpening := by
  rw [runDumpConfig, withOptions, loaded]
  dsimp only
  rw [unwritten]
  dsimp only
  rw [print_of_escapeFree (List.forall_mem_singleton.mpr (by decide))]
  rfl

private theorem exists_freeze_of_loadOptions
    (loaded : session.loadOptions request = (.ok options, records)) :
    ∃ layer : OptionLayer, layer.freeze = options := by
  unfold loadOptions at loaded
  dsimp only at loaded
  split at loaded
  · cases loaded
  · cases loaded
    exact ⟨_, rfl⟩

end CommandLine.Session

/-- A file with options that were written sets a layer that stands for them, and nothing is
reported: of any writer, if it is loaded with the reader that agrees with it. -/
theorem Config.loadFile_of_written (codec : Toml.Codec) {options : Options}
    (range : options.InRange) {files : FileSystem} {path : Path} {text front behind : Text}
    (own : path.name ≠ projectFile) (written : codec.write options.document = some text)
    (before : Toml.IsRemark front) (after : Toml.IsRemark behind)
    (file : files.readText path = .ok (front ++ text ++ behind)) :
    ∃ layer : OptionLayer, (loadFile ⟨files, codec.read⟩ path).result = (.ok layer, []) ∧
      layer.Reproduces options := by
  obtain ⟨fields, read, stands⟩ :=
    options.exists_reproduces_of_written codec range written before after
  obtain ⟨layer, source, reproduces⟩ := stands (some path.text)
  have document : documentAt ⟨files, codec.read⟩ path = .ok fields := by
    rw [documentAt, file]
    dsimp only
    rw [read]
    rfl
  have held : configurationIn? path fields = some fields := if_neg own
  refine ⟨layer, ?_, reproduces⟩
  rw [(loadFile_does ⟨files, codec.read⟩ path).result_eq, layerAt_of_table document held, layerOf,
    fileReports, documentReports, document]
  dsimp only
  rw [held, Option.map_some, Option.getD_some, unknownReports, source]
  rfl

/-- The marks around a dump are comments. -/
theorem CommandLine.Session.isRemark_marks :
    Toml.IsRemark CommandLine.Session.dumpOpening ∧
      Toml.IsRemark CommandLine.Session.dumpClosing :=
  ⟨Or.inr ⟨" === BEGIN ===".toList, by decide, by decide, by decide⟩,
    Or.inr ⟨" === END ===".toList, by decide, by decide, by decide⟩⟩

/-- Options reproduce themselves. Those of any layer can be written as a document if the integers
without an upper bound have no more digits than can be written. Then the document is read without
a fault or a warning as a layer that stands for them. And a dump of the options that are in effect
stops if they cannot be written; otherwise it comes to its end, and a file that it is saved in is
loaded as a layer that stands for them, with nothing reported. -/
theorem Options.dump_reproduces_iff (layer : OptionLayer) (session : CommandLine.Session)
    (request : CommandLine.RenderingRequest) :
    ((∃ text, layer.freeze.document.text? = some text) ↔
      Text.isWritable layer.freeze.wrapColumn = true ∧
        Text.isWritable layer.freeze.macroBacktraceLimit = true) ∧
    (∀ text, layer.freeze.document.text? = some text →
      ∃ fields, Toml.read text = .ok fields ∧ ∀ source : Option String, ∃ read : OptionLayer,
        OptionLayer.ofSource source fields =
          { source := source.getD unnamedSource, result := .ok read, unknown := [] } ∧
        read.Reproduces layer.freeze) ∧
    ∀ options records, session.loadOptions request = (.ok options, records) →
      (options.document.text? = none ↔
        (session.runDumpConfig request).crash = some .unwritable) ∧
      ((session.runDumpConfig request).crash = none →
        (session.runDumpConfig request).exit = .success ∧
        ∀ (files : FileSystem) (path : Path), path.name ≠ Config.projectFile →
          files.readText path = .ok (session.runDumpConfig request).output →
          ∃ read : OptionLayer, (Config.loadFile files path).result = (.ok read, []) ∧
            read.Reproduces options) := by
  refine ⟨?_, fun text written ↦ ?_, ?_⟩
  · rw [← isWritable_document layer.inRange_freeze]
    exact Toml.codec.exists_write_iff layer.freeze.document
  · have read := layer.freeze.exists_reproduces_of_written Toml.codec layer.inRange_freeze written
      (Or.inl rfl) (Or.inl rfl)
    rwa [List.nil_append, List.append_nil] at read
  · intro options records loaded
    obtain ⟨layer, rfl⟩ := CommandLine.Session.exists_freeze_of_loadOptions loaded
    cases written : layer.freeze.document.text? with
    | none =>
      rw [CommandLine.Session.runDumpConfig_of_unwritable loaded written]
      exact ⟨iff_of_true rfl rfl, fun other ↦ nomatch other⟩
    | some text =>
      rw [CommandLine.Session.runDumpConfig_of_writable loaded written]
      refine ⟨iff_of_false (fun other ↦ nomatch other) (fun other ↦ nomatch other),
        fun _ ↦ ⟨rfl, fun files path own file ↦ ?_⟩⟩
      exact Config.loadFile_of_written Toml.codec layer.inRange_freeze own written
        CommandLine.Session.isRemark_marks.1 CommandLine.Session.isRemark_marks.2 file

/-! ## A limit that cannot be written -/

/-- A layer with a limit of one digit too many. -/
def longLimitLayer : OptionLayer where
  macroBacktraceLimit := some (Nat.pow 10 Text.maxDecimalDigits : Nat)

/-- A run with nothing but the options of the command line. -/
def bareSession : CommandLine.Session where
  files := { workingDirectory := { anchor := "/" }, node := fun _ ↦ .absent }
  input := []
  console := ⟨false⟩
  chosenColors := false
  verbosity := Log.warning
  threshold := Log.warning

/-- A request for the options of a layer. -/
def requestFor (layer : OptionLayer) : CommandLine.RenderingRequest where
  discovers := false
  configFiles := []
  overrides := layer

/-- The path of a configuration. -/
def savedPath : Path := { names := [Config.ownFile] }

/-- A dump of the defaults, saved as a configuration. -/
def savedDefaults : FileSystem where
  workingDirectory := { anchor := "/" }
  node path :=
    if path = savedPath then
      .file (Text.asciiOctets (bareSession.runDumpConfig (requestFor .empty)).output)
    else .absent

/-- The options in effect are those of the layer, without colors. -/
theorem loadOptions_bareSession (layer : OptionLayer) : ∃ records,
    bareSession.loadOptions (requestFor layer) =
      (.ok { layer with showColors := layer.showColors <|> some false }.freeze, records) := by
  have loaded : bareSession.loadOptions (requestFor layer) =
      (.ok { OptionLayer.empty.merge layer with
        showColors := (OptionLayer.empty.merge layer).showColors <|> some false }.freeze, _) := rfl
  rw [OptionLayer.empty_merge] at loaded
  exact ⟨_, loaded⟩

/-- The limit stops a dump; the defaults are dumped, and are loaded from the file of a dump. -/
theorem Options.long_limit_stops_dump :
    (bareSession.runDumpConfig (requestFor longLimitLayer)).crash = some .unwritable ∧
      ∃ read : OptionLayer, (Config.loadFile savedDefaults savedPath).result = (.ok read, []) ∧
        read.Reproduces {} := by
  constructor
  · obtain ⟨records, loaded⟩ := loadOptions_bareSession longLimitLayer
    obtain ⟨written, -, dumped⟩ := Options.dump_reproduces_iff
      { longLimitLayer with showColors := longLimitLayer.showColors <|> some false } bareSession
      (requestFor longLimitLayer)
    refine (dumped _ records loaded).1.mp (Option.eq_none_iff_forall_ne_some.mpr ?_)
    intro text some
    have short := (written.mp ⟨text, some⟩).2
    rw [Text.isWritable_iff] at short
    exact absurd short (by decide +kernel)
  · obtain ⟨records, loaded⟩ := loadOptions_bareSession .empty
    have text : ({} : Options).document.text? = some ({} : Options).document.text := by
      decide +kernel
    have dump := CommandLine.Session.runDumpConfig_of_writable loaded text
    have plain : Text.isPlainAscii (CommandLine.Session.dumpOpening ++
        ({} : Options).document.text ++ CommandLine.Session.dumpClosing) = true := by
      decide +kernel
    have saved : savedDefaults.readText savedPath =
        .ok (bareSession.runDumpConfig (requestFor .empty)).output := by
      show (textOf (Text.asciiOctets
        (bareSession.runDumpConfig (requestFor .empty)).output)).mapError ReadError.encoding = _
      rw [dump]
      exact congrArg (Except.mapError ReadError.encoding) (Text.textOf_asciiOctets plain)
    obtain ⟨-, -, dumped⟩ :=
      Options.dump_reproduces_iff .empty bareSession (requestFor .empty)
    have ends := (dumped _ records loaded).2
    rw [dump] at ends saved
    exact (ends rfl).2 savedDefaults savedPath (by decide) saved

end Caret
