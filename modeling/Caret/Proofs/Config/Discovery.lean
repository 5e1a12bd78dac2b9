import Caret.Proofs.Config.Course

/-!
# The course of discovery and merging

Discovery looks at one candidate after the other: each is absent, passed over, without a
configuration or with one, and the first on which looking fails in a way that is not foreseen ends
it. What is found is merged with the files that are named, up to the first that sets no layer.
-/

namespace Caret.Config

open Data (Fields)

variable (loader : Loader)

/-! ## Candidates -/

/-- What there is at a path where a configuration is looked for. -/
inductive Candidate where
  /-- No file. -/
  | absent
  /-- A file that is passed over, for it has no document. -/
  | skipped (error : Error)
  /-- A file that holds no configuration. -/
  | foreign
  /-- A file with a configuration. -/
  | configured (table : Fields)
  /-- Looking at the path ends with an error that is not foreseen. -/
  | broken (error : Error)

/-- A value, unless there is an error. -/
def unlessError {α : Type} (error? : Option Error) (value : α) : Except Error α :=
  match error? with
  | some error => .error error
  | none => .ok value

namespace Candidate

/-- The configuration of a candidate. -/
def table? : Candidate → Option Fields
  | configured table => some table
  | _ => none

/-- The error that looking at a candidate ends with. -/
def error? : Candidate → Option Error
  | broken error => some error
  | _ => none

/-- What is reported on a candidate: the error and one warning if it is passed over. -/
def reports (path : Path) : Candidate → List Log.Record
  | skipped error =>
    error.reports ++ [⟨Log.warning, s!"Skipping unreadable config candidate {path.text}"⟩]
  | broken error => error.reports
  | absent | foreign | configured _ => []

/-- Whether a candidate has a configuration that ends the search. -/
def endsSearch (candidate : Candidate) : Bool := candidate.table?.any Config.endsSearch

end Candidate

/-- What there is at a path. -/
def candidateAt (path : Path) : Candidate :=
  let node := loader.files.node path
  match node.obscurity? with
  | some error => .broken (.obscure path error)
  | none =>
    if node.isFile then
      match documentAt loader path with
      | .ok document => ((configurationIn? path document).map .configured).getD .foreign
      | .error error => if error.isForeseen then .skipped error else .broken error
    else .absent

private theorem inspectFile_does {path : Path} (file : (loader.files.node path).isFile = true) :
    Does (inspectFile loader path)
      (unlessError (candidateAt loader path).error? (candidateAt loader path).table?)
      ((candidateAt loader path).reports path) := by
  have document := loadDocument_does loader path
  unfold inspectFile candidateAt
  simp only [Node.obscurity?_of_isFile file, if_pos file]
  unfold documentReports at document
  cases given : documentAt loader path with
  | ok fields =>
    rw [given] at document
    dsimp only
    cases found : configurationIn? path fields with
    | none =>
      exact .tryCatch _ (.bind document (by rw [found]; exact .pure _))
    | some table =>
      exact .tryCatch _ (.bind document (by rw [found]; exact .pure _))
  | error error =>
    rw [given] at document
    dsimp only
    split
    · next foreseen =>
      refine .tryCatch_error (.bind_error document) ?_
      rw [if_pos foreseen]
      exact .bind (.log _ _) (.pure _)
    · next other =>
      rw [← List.append_nil (Candidate.reports _ _)]
      refine .tryCatch_error (.bind_error document) ?_
      rw [if_neg other]
      exact .throw _

/-- Looks at a path. -/
def lookAt (path : Path) : Logged (Option Fields) := do
  let node ← inspect loader path
  if node.isFile then inspectFile loader path else pure none

variable {loader} in
/-- Where something can be told about a path, it is inspected. -/
theorem inspect_of_clear {path : Path} (clear : (loader.files.node path).obscurity? = none) :
    inspect loader path = pure (loader.files.node path) := by
  simp only [inspect, clear]

variable {loader} in
/-- Where nothing can be told about a path, inspecting it is an error. -/
theorem inspect_of_obscure {path : Path} {error : AccessError}
    (obscure : (loader.files.node path).obscurity? = some error) :
    inspect loader path = throw (.obscure path error) := by
  simp only [inspect, obscure]

private theorem lookAt_does (path : Path) :
    Does (lookAt loader path)
      (unlessError (candidateAt loader path).error? (candidateAt loader path).table?)
      ((candidateAt loader path).reports path) := by
  unfold lookAt
  cases told : (loader.files.node path).obscurity? with
  | some error =>
    rw [inspect_of_obscure told]
    simp only [candidateAt, told]
    exact .bind_error (.throw _)
  | none =>
    rw [inspect_of_clear told, pure_bind]
    cases file : (loader.files.node path).isFile with
    | true =>
      rw [if_pos rfl]
      exact inspectFile_does loader file
    | false =>
      rw [if_neg Bool.false_ne_true]
      simp only [candidateAt, told, file, Bool.false_eq_true, if_false]
      exact .pure _

/-! ## Searching -/

/-- The error that ends looking at some paths. -/
def searchError? (paths : List Path) : Option Error :=
  paths.findSome? fun path ↦ (candidateAt loader path).error?

/-- The paths with a configuration among some. -/
def configuredAmong (paths : List Path) : List Path :=
  paths.filter fun path ↦ (candidateAt loader path).table?.isSome

/-- What is reported on some paths, up to the one on which the search ends with an error. -/
def searchReports : List Path → List Log.Record
  | [] => []
  | path :: rest =>
    match (candidateAt loader path).error? with
    | some _ => (candidateAt loader path).reports path
    | none => (candidateAt loader path).reports path ++ searchReports rest

private theorem inspectFiles_cons (path : Path) (rest : List Path) :
    inspectFiles loader (path :: rest) = (do
      let table ← lookAt loader path
      let (found, stops) ← inspectFiles loader rest
      match table with
      | none => return (found, stops)
      | some table => return (path :: found, stops || endsSearch table)) := by
  rw [inspectFiles, lookAt, bind_assoc]
  refine congrArg _ (funext fun node ↦ ?_)
  split
  · rfl
  · simp only [pure_bind]

private theorem inspectFiles_does (paths : List Path) :
    Does (inspectFiles loader paths)
      (unlessError (searchError? loader paths)
        (configuredAmong loader paths, paths.any fun path ↦ (candidateAt loader path).endsSearch))
      (searchReports loader paths) := by
  induction paths with
  | nil => exact .pure _
  | cons path rest ih =>
    have here := lookAt_does loader path
    rw [inspectFiles_cons]
    simp only [searchError?, configuredAmong, searchReports, List.findSome?_cons, List.filter_cons,
      List.any_cons, Candidate.endsSearch] at ih ⊢
    cases ending : (candidateAt loader path).error? with
    | some error =>
      rw [ending] at here
      exact .bind_error here
    | none =>
      rw [ending] at here
      refine .bind here ?_
      cases later : rest.findSome? fun path ↦ (candidateAt loader path).error? with
      | some error =>
        rw [later] at ih
        exact .bind_error ih
      | none =>
        rw [later] at ih
        refine .bind_quiet ih ?_
        cases (candidateAt loader path).table? with
        | none => exact .pure _
        | some table =>
          rw [Bool.or_comm]
          exact .pure _

private theorem searchReports_append_of_some {paths : List Path} {error : Error}
    (h : searchError? loader paths = some error) (more : List Path) :
    searchReports loader (paths ++ more) = searchReports loader paths := by
  induction paths with
  | nil => cases h
  | cons path rest ih =>
    simp only [searchError?, List.findSome?_cons] at ih h
    simp only [List.cons_append, searchReports]
    cases ending : (candidateAt loader path).error? with
    | some error => rfl
    | none =>
      rw [ending] at h
      simp only [ih h]

private theorem searchReports_append_of_none {paths : List Path}
    (h : searchError? loader paths = none) (more : List Path) :
    searchReports loader (paths ++ more) =
      searchReports loader paths ++ searchReports loader more := by
  induction paths with
  | nil => rfl
  | cons path rest ih =>
    simp only [searchError?, List.findSome?_cons] at ih h
    simp only [List.cons_append, searchReports]
    cases ending : (candidateAt loader path).error? with
    | some error =>
      rw [ending] at h
      cases h
    | none =>
      rw [ending] at h
      simp only [ih h, List.append_assoc]

private theorem searchError?_append (paths more : List Path) :
    searchError? loader (paths ++ more) =
      (searchError? loader paths).or (searchError? loader more) :=
  List.findSome?_append

/-- The paths of the files that are looked for in a directory. -/
def configPaths (directory : Path) : List Path := fileNames.map directory.child

/-- The directories that are searched among some, given from the nearest upwards: those up to the
first with a configuration that ends the search. -/
def searched : List Path → List Path
  | [] => []
  | directory :: above =>
    if (configPaths directory).any fun path ↦ (candidateAt loader path).endsSearch then [directory]
    else directory :: searched above

/-- The paths that are looked at in some directories, in this order. -/
def candidatesIn (directories : List Path) : List Path :=
  (searched loader directories).flatMap configPaths

/-- The files with a configuration that are found in some directories, those of the nearest
last. -/
def foundIn (directories : List Path) : List Path :=
  (searched loader directories).reverse.flatMap fun directory ↦
    configuredAmong loader (configPaths directory)

private theorem searchUpwards_does (directories : List Path) :
    Does (searchUpwards loader directories)
      (unlessError (searchError? loader (candidatesIn loader directories))
        (foundIn loader directories))
      (searchReports loader (candidatesIn loader directories)) := by
  induction directories with
  | nil => exact .pure _
  | cons directory above ih =>
    have here := inspectFiles_does loader (configPaths directory)
    unfold searchUpwards candidatesIn foundIn searched
    split
    · next stops =>
      rw [stops] at here
      simp only [List.flatMap_singleton, List.reverse_singleton]
      cases ending : searchError? loader (configPaths directory) with
      | some error =>
        rw [ending] at here
        exact .bind_error here
      | none =>
        rw [ending] at here
        refine .bind_quiet here ?_
        exact .bind_quiet (.pure _) (.pure _)
    · next goesOn =>
      rw [Bool.not_eq_true] at goesOn
      rw [goesOn] at here
      simp only [List.flatMap_cons, List.reverse_cons, List.flatMap_append, List.flatMap_nil,
        List.append_nil, searchError?_append]
      cases ending : searchError? loader (configPaths directory) with
      | some error =>
        rw [ending] at here
        rw [searchReports_append_of_some loader ending]
        exact .bind_error here
      | none =>
        rw [ending] at here
        rw [searchReports_append_of_none loader ending, Option.none_or]
        refine .bind here ?_
        unfold candidatesIn at ih
        dsimp only
        cases later : searchError? loader ((searched loader above).flatMap configPaths) with
        | some error =>
          rw [later] at ih
          exact .bind_error ih
        | none =>
          rw [later] at ih
          exact .bind_quiet ih (.pure _)

/-- The directory that a search starts from: that of a file, and a directory itself. -/
def searchStart (start : Path) : Path :=
  if (loader.files.node start).isDirectory then start else start.parent

/-- The paths that are looked at for a place. -/
def candidatesFor (start : Path) : List Path :=
  candidatesIn loader (searchStart loader start).lineage

/-- The error that ends the discovery of files: nothing can be told about the place it starts from,
or about a path that is looked at, or a file there cannot be read. -/
def discoveryError? (start : Path) : Option Error :=
  match (loader.files.node start).obscurity? with
  | some error => some (.obscure start error)
  | none => searchError? loader (candidatesFor loader start)

/-- The files with a configuration for a place, the nearest last. -/
def foundFor (start : Path) : List Path := foundIn loader (searchStart loader start).lineage

/-- What is reported on the discovery of files. -/
def discoveryReports (start : Path) : List Log.Record :=
  match (loader.files.node start).obscurity? with
  | some _ => []
  | none => searchReports loader (candidatesFor loader start)

/-- Files are discovered. -/
theorem discover_does (start : Path) :
    Does (discover loader start)
      (unlessError (discoveryError? loader start) (foundFor loader start))
      (discoveryReports loader start) := by
  have search := searchUpwards_does loader (searchStart loader start).lineage
  unfold discover discoveryError? discoveryReports
  cases told : (loader.files.node start).obscurity? with
  | some error =>
    rw [inspect_of_obscure told]
    exact .bind_error (.throw _)
  | none =>
    rw [inspect_of_clear told, pure_bind]
    exact search

/-! ## Merging -/

/-- What is reported on files, up to the first that sets no layer. -/
def mergeReports : List Path → List Log.Record
  | [] => []
  | path :: rest =>
    match layerAt loader path with
    | .ok _ => fileReports loader path ++ mergeReports rest
    | .error _ => fileReports loader path

private theorem mergeFiles_does (merged : OptionLayer) (paths : List Path) :
    Does (mergeFiles loader merged paths)
      ((paths.mapM (layerAt loader)).map (·.foldl OptionLayer.merge merged))
      (mergeReports loader paths) := by
  induction paths generalizing merged with
  | nil => exact .pure _
  | cons path rest ih =>
    have here := loadFile_does loader path
    unfold mergeFiles mergeReports
    rw [List.mapM_cons]
    cases set : layerAt loader path with
    | error error =>
      rw [set] at here
      exact .bind_error here
    | ok layer =>
      rw [set] at here
      have others := ih (merged.merge layer)
      refine .bind here ?_
      cases below : rest.mapM (layerAt loader) with
      | error error =>
        rw [below] at others
        exact others
      | ok layers =>
        rw [below] at others
        exact others

/-- The files that a place and a list of names stand for, the first one lowest. -/
def discoveredFor (start : Option Path) : Except Error (List Path) :=
  match start with
  | none => .ok []
  | some start => unlessError (discoveryError? loader start) (foundFor loader start)

/-- All layers as one, or why there is none. -/
def mergedLayer (start : Option Path) (named : List Path) (overrides : OptionLayer) :
    Except Error OptionLayer := do
  let found ← discoveredFor loader start
  let layers ← (found ++ named).mapM (layerAt loader)
  return (layers.foldl OptionLayer.merge OptionLayer.empty).merge overrides

/-- What is reported on all layers. -/
def mergedReports (start : Option Path) (named : List Path) : List Log.Record :=
  let reports := match start with
    | none => []
    | some start => discoveryReports loader start
  match discoveredFor loader start with
  | .ok found => reports ++ mergeReports loader (found ++ named)
  | .error _ => reports

/-- All layers are merged. -/
theorem loadMerged_does (start : Option Path) (named : List Path) (overrides : OptionLayer) :
    Does (loadMerged loader start named overrides) (mergedLayer loader start named overrides)
      (mergedReports loader start named) := by
  have merging (found : List Path) : Does
      (do
        let merged ← mergeFiles loader OptionLayer.empty (found ++ named)
        return merged.merge overrides)
      (((found ++ named).mapM (layerAt loader)).map fun layers ↦
        (layers.foldl OptionLayer.merge OptionLayer.empty).merge overrides)
      (mergeReports loader (found ++ named)) := by
    have merged := mergeFiles_does loader OptionLayer.empty (found ++ named)
    cases layers : (found ++ named).mapM (layerAt loader) with
    | error error =>
      rw [layers] at merged
      exact .bind_error merged
    | ok layers =>
      rw [layers] at merged
      exact .bind_quiet merged (.pure _)
  unfold loadMerged mergedLayer mergedReports
  cases start with
  | none => exact .bind (.pure _) (merging [])
  | some start =>
    have discovery := discover_does loader start
    unfold discoveredFor
    dsimp only
    cases ending : discoveryError? loader start with
    | some error =>
      rw [ending] at discovery
      exact .bind_error discovery
    | none =>
      rw [ending] at discovery
      exact .bind discovery (merging _)

end Caret.Config
