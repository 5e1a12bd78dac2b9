import Caret.Config.Load

/-!
# What loading a file comes to

An action of loading comes to a value or an error, and adds records to the log; neither depends on
the log before it. So every action has a pure result, which is put together from those of its parts.
-/

namespace Caret.Config

open Data (Fields)

/-- An action comes to a result and adds records to the log, whatever the log was. -/
def Does {α : Type} (action : Logged α) (result : Except Error α) (records : List Log.Record) :
    Prop :=
  ∀ before, action.run.run before = (result, before ++ records)

namespace Does

variable {α β : Type} {action : Logged α} {records more : List Log.Record}

/-- The result and the log of an action that starts with an empty log. -/
theorem result_eq {result : Except Error α} (h : Does action result records) :
    action.result = (result, records) :=
  h []

/-- A value that is there already. -/
theorem pure (value : α) : Does (Pure.pure value) (.ok value) [] := by
  intro before
  rw [List.append_nil]
  rfl

/-- An error. -/
theorem throw (error : Error) : Does (MonadExcept.throw error : Logged α) (.error error) [] := by
  intro before
  rw [List.append_nil]
  rfl

/-- A record is added. -/
theorem log (level : Int) (text : String) :
    Does (Config.log level text) (.ok ()) [⟨level, text⟩] :=
  fun _ ↦ rfl

/-- Two actions, the second with the value of the first. -/
theorem bind {next : α → Logged β} {value : α} {result : Except Error β}
    (first : Does action (.ok value) records) (second : Does (next value) result more) :
    Does (action >>= next) result (records ++ more) := by
  intro before
  show (ExceptT.bindCont next (action.run.run before).1).run (action.run.run before).2 = _
  rw [first before, ← List.append_assoc]
  exact second (before ++ records)

/-- Two actions, of which the second adds no record. -/
theorem bind_quiet {next : α → Logged β} {value : α} {result : Except Error β}
    (first : Does action (.ok value) records) (second : Does (next value) result []) :
    Does (action >>= next) result records := by
  rw [← List.append_nil records]
  exact first.bind second

/-- An error of the first action is one of both. -/
theorem bind_error {next : α → Logged β} {error : Error}
    (first : Does action (.error error) records) :
    Does (action >>= next) (.error error) records := by
  intro before
  show (ExceptT.bindCont next (action.run.run before).1).run (action.run.run before).2 = _
  rw [first before]
  rfl

/-- An action whose errors are handled goes on with what it comes to. -/
theorem run_tryCatch (handle : Error → Logged α) (before : List Log.Record) :
    (MonadExcept.tryCatch action handle).run.run before =
      match action.run.run before with
      | (.ok value, log) => (.ok value, log)
      | (.error error, log) => (handle error).run.run log := by
  unfold ExceptT.run StateT.run
  simp only [MonadExcept.tryCatch, tryCatchThe, MonadExceptOf.tryCatch, ExceptT.tryCatch,
    ExceptT.mk, Bind.bind, StateT.bind]
  rcases action before with ⟨error | value, log⟩ <;> rfl

/-- Without an error there is nothing to handle. -/
theorem tryCatch {value : α} (handle : Error → Logged α) (h : Does action (.ok value) records) :
    Does (MonadExcept.tryCatch action handle) (.ok value) records := by
  intro before
  rw [run_tryCatch, h before]

/-- An error is handled behind what was added before it. -/
theorem tryCatch_error {error : Error} {handle : Error → Logged α} {result : Except Error α}
    (h : Does action (.error error) records) (handled : Does (handle error) result more) :
    Does (MonadExcept.tryCatch action handle) result (records ++ more) := by
  intro before
  rw [run_tryCatch, h before, ← List.append_assoc]
  exact handled (before ++ records)

end Does

/-! ## One file -/

variable (loader : Loader)

/-- The error for a file that cannot be read. -/
def Error.ofReading (path : Path) : ReadError → Error
  | .access .embeddedNull => .obscure path .embeddedNull
  | .access error => .inaccessible path error
  | .encoding error => .undecodable error

/-- The error for a text that is no document. -/
def Error.ofToml (path : Path) : Toml.Error → Error
  | .malformed => .malformed path
  | .conflict found => .conflict found

/-- The document in a file, or why there is none. -/
def documentAt (path : Path) : Except Error Fields :=
  match loader.files.readText path with
  | .error error => .error (.ofReading path error)
  | .ok text => (loader.read text).mapError (.ofToml path)

/-- What is reported on a file that has no document. -/
def Error.reports : Error → List Log.Record
  | inaccessible path error =>
    [⟨Log.error, s!"Error loading TOML from {path.text}: {error.message path}"⟩]
  | malformed path => [⟨Log.error, s!"Error decoding TOML from {path.text}: {malformedDetail}"⟩]
  | _ => []

/-- What is reported on the document of a file. -/
def documentReports (path : Path) : List Log.Record :=
  match documentAt loader path with
  | .ok _ => []
  | .error error => error.reports

/-- The document of a file is loaded. -/
theorem loadDocument_does (path : Path) :
    Does (loadDocument loader path) (documentAt loader path) (documentReports loader path) := by
  unfold loadDocument documentReports documentAt
  cases loader.files.readText path with
  | error error =>
    cases error with
    | access error =>
      cases error with
      | embeddedNull => exact .throw _
      | notFound | notDirectory | tooManyLinks | isDirectory | nameTooLong | denied =>
        exact .bind (.log _ _) (.throw _)
    | encoding error => exact .throw _
  | ok text =>
    dsimp only
    cases loader.read text with
    | ok fields => exact .pure _
    | error error =>
      cases error with
      | malformed => exact .bind (.log _ _) (.throw _)
      | conflict conflict => exact .throw _

/-- The layer that a table of a file sets, or the fault in it. -/
def layerOf (path : Path) (table : Fields) : Except Error OptionLayer :=
  let sourced := OptionLayer.ofSource (some path.text) table
  sourced.result.mapError fun fault ↦
    if fault.isWritable then .options sourced.source fault else .unwritable

/-- The layer of a table is that of the document in it, with the file it is from. -/
theorem layerOf_eq (path : Path) (table : Fields) :
    layerOf path table = ((OptionLayer.ofDocument table).1.map fun layer ↦
      { layer with files := [path.text] }).mapError fun fault ↦
        if fault.isWritable then .options path.text fault else .unwritable := rfl

/-- The layer that a file sets, or why there is none. -/
def layerAt (path : Path) : Except Error OptionLayer :=
  match documentAt loader path with
  | .error error => .error error
  | .ok document =>
    match configurationIn? path document with
    | none => .ok .empty
    | some table => layerOf path table

variable {loader} in
/-- A file without a document sets no layer. -/
theorem layerAt_of_error {path : Path} {error : Error}
    (h : documentAt loader path = .error error) : layerAt loader path = .error error := by
  rw [layerAt, h]

variable {loader} in
/-- A document without a configuration sets nothing. -/
theorem layerAt_of_foreign {path : Path} {document : Fields}
    (h : documentAt loader path = .ok document) (foreign : configurationIn? path document = none) :
    layerAt loader path = .ok .empty := by
  simp only [layerAt, h, foreign]

variable {loader} in
/-- A file with a configuration sets the layer of its table. -/
theorem layerAt_of_table {path : Path} {document table : Fields}
    (h : documentAt loader path = .ok document)
    (held : configurationIn? path document = some table) :
    layerAt loader path = layerOf path table := by
  simp only [layerAt, h, held]

/-- What is reported on the keys of a table that are not known. -/
def unknownReports (path : Path) (table : Fields) : List Log.Record :=
  (OptionLayer.ofSource (some path.text) table).unknown.map fun unknown ↦
    ⟨Log.warning, unknown.message⟩

/-- What is reported on a file. -/
def fileReports (path : Path) : List Log.Record :=
  documentReports loader path ++
    match documentAt loader path with
    | .error _ => []
    | .ok document => ((configurationIn? path document).map (unknownReports path)).getD []

private theorem forIn_log_does {α : Type} (level : Int) (text : α → String) (items : List α) :
    Does (forIn items PUnit.unit fun item _ ↦ do
        log level (text item)
        return ForInStep.yield PUnit.unit)
      (.ok PUnit.unit) (items.map fun item ↦ ⟨level, text item⟩) := by
  induction items with
  | nil => exact .pure _
  | cons item rest ih =>
    rw [List.forIn_cons]
    have first : Does
        (do
          log level (text item)
          return ForInStep.yield PUnit.unit)
        (.ok (ForInStep.yield PUnit.unit)) [⟨level, text item⟩] :=
      .bind (.log _ _) (.pure _)
    exact .bind first ih

/-- A file is loaded. -/
theorem loadFile_does (path : Path) :
    Does (loadFile loader path) (layerAt loader path) (fileReports loader path) := by
  have document := loadDocument_does loader path
  unfold loadFile layerAt fileReports
  cases given : documentAt loader path with
  | error error =>
    rw [given] at document
    rw [List.append_nil]
    exact .bind_error document
  | ok fields =>
    rw [given] at document
    refine .bind document ?_
    dsimp only
    cases configurationIn? path fields with
    | none => exact .pure _
    | some table =>
      rw [Option.map_some, Option.getD_some, ← List.append_nil (unknownReports path table)]
      refine .bind (forIn_log_does Log.warning UnknownKey.message _) ?_
      unfold layerOf
      dsimp only
      cases (OptionLayer.ofSource (some path.text) table).result with
      | ok layer => exact .pure _
      | error fault => exact .throw _

end Caret.Config
