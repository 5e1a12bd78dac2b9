import Caret.Proofs.Config.Contents

/-!
# How loading configuration fails

A file that cannot be opened, a text that is no document and a fault in a table are foreseen. What
is not foreseen: octets that are no text, a document whose tables conflict, a value at fault that
has too many digits to be shown, and a path about which nothing can be told. Everything else ends
with options or with a foreseen error, and discovery passes over what is no document, with one
warning each.
-/

namespace Caret.Config

open Data (Fields)

/-- An action ends with an error that is not foreseen. -/
def Logged.FailsUnforeseen {α : Type} (action : Logged α) : Prop :=
  ∃ error, action.result.1 = .error error ∧ error.isForeseen = false

/-- A configuration has a fault in a value that has too many digits to be shown. -/
def HidesFault (loader : Loader) (path : Path) : Prop :=
  ∃ table fault, HoldsTable loader path table ∧ (OptionLayer.ofDocument table).1 = .error fault ∧
    fault.isWritable = false

variable {loader : Loader} {path : Path}

/-! ## One file -/

/-- There is no document for an unforeseen reason where nothing can stand and in an illegible
file. -/
theorem documentAt_unforeseen_iff :
    (∃ error, documentAt loader path = .error error ∧ error.isForeseen = false) ↔
      loader.files.node path = .impossible ∨ Illegible loader path := by
  cases read : (loader.files.node path).octets with
  | error error =>
    have none_there := documentAt_of_error read
    have empty : ¬ Illegible loader path := by
      intro illegible
      obtain ⟨octets, node⟩ := illegible.exists_octets
      cases read.symm.trans (Node.octets_eq_ok_iff.mpr node)
    rw [or_iff_left empty, ← Node.octets_eq_embeddedNull_iff, read, none_there]
    cases error <;> simp [Error.ofReading, Error.isForeseen]
  | ok octets =>
    have node := Node.octets_eq_ok_iff.mp read
    have possible : loader.files.node path ≠ .impossible := by
      rw [node]
      intro same
      cases same
    rw [or_iff_right possible]
    constructor
    · rintro ⟨error, document, unforeseen⟩
      rcases file_cases (by rw [node]; rfl) with ⟨illegible, -⟩ | ⟨-, _, same, foreseen⟩ |
        ⟨-, _, _, _, -, -, -, found⟩
      · exact illegible
      · cases document.symm.trans same
        cases unforeseen.symm.trans foreseen
      · cases document.symm.trans found
    · exact Illegible.documentAt

private theorem layerOf_unforeseen_iff {table : Fields} :
    (∃ error, layerOf path table = .error error ∧ error.isForeseen = false) ↔
      ∃ fault, (OptionLayer.ofDocument table).1 = .error fault ∧ fault.isWritable = false := by
  rw [layerOf_eq]
  cases (OptionLayer.ofDocument table).1 with
  | ok layer => exact iff_of_false (by rintro ⟨error, ⟨⟩, -⟩) (by rintro ⟨fault, ⟨⟩, -⟩)
  | error fault =>
    have foreseen : (if fault.isWritable then Error.options path.text fault
        else Error.unwritable).isForeseen = fault.isWritable := by
      cases fault.isWritable <;> rfl
    constructor
    · rintro ⟨error, ⟨⟩, unforeseen⟩
      exact ⟨fault, rfl, foreseen.symm.trans unforeseen⟩
    · rintro ⟨fault, ⟨⟩, hidden⟩
      exact ⟨_, rfl, foreseen.trans hidden⟩

/-- A file sets no layer for an unforeseen reason where nothing can stand, in an illegible file,
and in one that hides its fault. -/
theorem layerAt_unforeseen_iff :
    (∃ error, layerAt loader path = .error error ∧ error.isForeseen = false) ↔
      loader.files.node path = .impossible ∨ Illegible loader path ∨ HidesFault loader path := by
  rw [← or_assoc, ← documentAt_unforeseen_iff]
  cases found : documentAt loader path with
  | error error =>
    rw [layerAt_of_error found]
    have shown : ¬ HidesFault loader path := by
      rintro ⟨table, fault, held, -⟩
      obtain ⟨document, other, -⟩ := held.documentAt
      cases found.symm.trans other
    rw [or_iff_left shown]
    simp only [Except.error.injEq]
  | ok document =>
    have sound : ¬ ∃ error, (Except.ok document : Except Error Fields) = .error error ∧
        error.isForeseen = false := by
      rintro ⟨error, other, -⟩
      cases other
    rw [or_iff_right sound]
    cases held : configurationIn? path document with
    | none =>
      rw [layerAt_of_foreign found held]
      constructor
      · rintro ⟨error, layer, -⟩
        cases layer
      · rintro ⟨table, fault, other, -⟩
        obtain ⟨same, there, inside⟩ := other.documentAt
        cases found.symm.trans there
        cases held.symm.trans inside
    | some table =>
      rw [layerAt_of_table found held, layerOf_unforeseen_iff]
      constructor
      · rintro ⟨fault, wrong, hidden⟩
        exact ⟨table, fault, holdsTable_of_documentAt found held, wrong, hidden⟩
      · rintro ⟨other, fault, there, wrong, hidden⟩
        obtain ⟨same, again, inside⟩ := there.documentAt
        cases found.symm.trans again
        cases held.symm.trans inside
        exact ⟨fault, wrong, hidden⟩

/-! ## Discovery -/

/-- Looking at a path ends with an error where nothing can be told, and on an illegible file. -/
theorem isSome_error?_candidateAt_iff :
    (candidateAt loader path).error?.isSome = true ↔
      (loader.files.node path).obscurity?.isSome = true ∨ Illegible loader path := by
  cases told : (loader.files.node path).obscurity? with
  | some error =>
    rw [candidateAt_of_obscure told]
    exact iff_of_true rfl (Or.inl rfl)
  | none =>
    rw [or_iff_right (by simp)]
    cases file : (loader.files.node path).isFile with
    | false =>
      rw [candidateAt_of_not_isFile told file]
      refine iff_of_false Bool.false_ne_true fun illegible ↦ ?_
      obtain ⟨octets, node⟩ := illegible.exists_octets
      rw [node] at file
      cases file
    | true =>
      rcases file_cases file with ⟨illegible, error, none, unforeseen⟩ |
        ⟨-, error, none, foreseen⟩ | ⟨-, _, _, document, -, -, -, found⟩
      · rw [candidateAt_of_error file none, if_neg (by simp [unforeseen])]
        exact iff_of_true rfl illegible
      · rw [candidateAt_of_error file none, if_pos foreseen]
        refine iff_of_false Bool.false_ne_true fun illegible ↦ ?_
        obtain ⟨other, again, unforeseen⟩ := illegible.documentAt
        cases none.symm.trans again
        cases foreseen.symm.trans unforeseen
      · rw [candidateAt_of_document found]
        refine iff_of_false ?_ fun illegible ↦ ?_
        · cases configurationIn? path document <;> exact Bool.false_ne_true
        · obtain ⟨error, other, -⟩ := illegible.documentAt
          cases found.symm.trans other

/-- On a candidate that does not end the search, what is reported is an error and one warning if
it has no document, and nothing otherwise. -/
theorem reports_candidateAt (h : (candidateAt loader path).error? = none) :
    (lacksDocument loader path = false ∧ (candidateAt loader path).reports path = []) ∨
      (lacksDocument loader path = true ∧ ∃ error, documentAt loader path = .error error ∧
        (candidateAt loader path).reports path = error.reports ++
          [⟨Log.warning, s!"Skipping unreadable config candidate {path.text}"⟩]) := by
  have told : (loader.files.node path).obscurity? = none := by
    cases told : (loader.files.node path).obscurity? with
    | none => rfl
    | some error =>
      rw [candidateAt_of_obscure told] at h
      cases h
  cases file : (loader.files.node path).isFile with
  | false =>
    refine Or.inl ⟨?_, by rw [candidateAt_of_not_isFile told file, Candidate.reports]⟩
    unfold lacksDocument
    cases node : loader.files.node path with
    | file octets | closed =>
      rw [node] at file
      cases file
    | absent | blocked | circular | overlong | barred | impossible | directory => rfl
  | true =>
    rcases file_cases file with ⟨illegible, -⟩ | ⟨lacking, error, none, foreseen⟩ |
      ⟨present, _, _, document, -, -, -, found⟩
    · have broken := isSome_error?_candidateAt_iff.mpr (Or.inr illegible)
      rw [h] at broken
      cases broken
    · refine Or.inr ⟨lacking, error, none, ?_⟩
      rw [candidateAt_of_error file none, if_pos foreseen, Candidate.reports]
    · refine Or.inl ⟨present, ?_⟩
      rw [candidateAt_of_document found]
      cases configurationIn? path document <;> rfl

/-- What is reported on a search that does not end with an error is reported on each path. -/
theorem searchReports_eq_flatMap {paths : List Path} (h : searchError? loader paths = none) :
    searchReports loader paths =
      paths.flatMap fun path ↦ (candidateAt loader path).reports path := by
  induction paths with
  | nil => rfl
  | cons path rest ih =>
    simp only [searchError?, List.findSome?_eq_none_iff, List.forall_mem_cons] at h ih
    simp only [searchReports, h.1, ih h.2, List.flatMap_cons]

private theorem warnings_reports_candidateAt (h : (candidateAt loader path).error? = none) :
    ((candidateAt loader path).reports path).filter (·.level = Log.warning) =
      if lacksDocument loader path then
        [⟨Log.warning, s!"Skipping unreadable config candidate {path.text}"⟩]
      else [] := by
  rcases reports_candidateAt h with ⟨present, none⟩ | ⟨lacking, error, -, reported⟩
  · rw [present, none]
    rfl
  · have errors : error.reports.filter (·.level = Log.warning) = [] := by
      cases error <;> rfl
    rw [lacking, reported, List.filter_append, errors]
    rfl

/-- On a search that does not end with an error, each file without a document is warned of
once. -/
theorem warnings_searchReports {paths : List Path} (h : searchError? loader paths = none) :
    (searchReports loader paths).filter (·.level = Log.warning) =
      (paths.filter (lacksDocument loader)).map fun path ↦
        ⟨Log.warning, s!"Skipping unreadable config candidate {path.text}"⟩ := by
  rw [searchReports_eq_flatMap h]
  simp only [searchError?, List.findSome?_eq_none_iff] at h
  induction paths with
  | nil => rfl
  | cons path rest ih =>
    obtain ⟨here, others⟩ := List.forall_mem_cons.mp h
    rw [List.flatMap_cons, List.filter_append, warnings_reports_candidateAt here, ih others,
      List.filter_cons]
    split <;> rfl

/-- A search ends with an error at a path about which nothing can be told and at an illegible
file. -/
theorem isSome_searchError?_iff {paths : List Path} :
    (searchError? loader paths).isSome = true ↔
      ∃ path ∈ paths,
        (loader.files.node path).obscurity?.isSome = true ∨ Illegible loader path := by
  rw [searchError?, List.findSome?_isSome_iff]
  simp only [isSome_error?_candidateAt_iff]

/-- Files are discovered unless nothing can be told about the place itself or about a path that is
looked at, or a file there is illegible. -/
theorem isSome_discoveryError?_iff {start : Path} :
    (discoveryError? loader start).isSome = true ↔
      (loader.files.node start).obscurity?.isSome = true ∨
        ∃ path ∈ candidatesFor loader start,
          (loader.files.node path).obscurity?.isSome = true ∨ Illegible loader path := by
  rw [discoveryError?, ← isSome_searchError?_iff]
  cases (loader.files.node start).obscurity? <;> simp

private theorem isForeseen_error?_candidateAt {error : Error}
    (h : (candidateAt loader path).error? = some error) : error.isForeseen = false := by
  cases told : (loader.files.node path).obscurity? with
  | some access =>
    rw [candidateAt_of_obscure told] at h
    cases h
    rfl
  | none =>
    cases file : (loader.files.node path).isFile with
    | false =>
      rw [candidateAt_of_not_isFile told file] at h
      cases h
    | true =>
      cases found : documentAt loader path with
      | ok document =>
        rw [candidateAt_of_document found] at h
        cases inside : configurationIn? path document <;> rw [inside] at h <;> cases h
      | error other =>
        rw [candidateAt_of_error file found] at h
        cases foreseen : other.isForeseen with
        | true =>
          rw [if_pos foreseen] at h
          cases h
        | false =>
          rw [if_neg (by simp [foreseen])] at h
          cases h
          exact foreseen

/-- Discovery never fails with an error that is foreseen. -/
theorem isForeseen_discoveryError? {start : Path} {error : Error}
    (h : discoveryError? loader start = some error) : error.isForeseen = false := by
  unfold discoveryError? at h
  cases told : (loader.files.node start).obscurity? with
  | some access =>
    rw [told] at h
    cases h
    rfl
  | none =>
    rw [told] at h
    obtain ⟨path, -, ending⟩ := List.exists_of_findSome?_eq_some h
    exact isForeseen_error?_candidateAt ending

private theorem isForeseen_of_discovery_error {start : Path} {error : Error}
    (h : (discover loader start).result.1 = .error error) : error.isForeseen = false := by
  rw [(discover_does loader start).result_eq] at h
  cases ending : discoveryError? loader start with
  | none =>
    rw [ending] at h
    cases h
  | some other =>
    rw [ending] at h
    cases h
    exact isForeseen_discoveryError? ending

private theorem exists_discovered_iff {start : Path} :
    (∃ found, (discover loader start).result.1 = .ok found) ↔
      (loader.files.node start).obscurity? = none ∧ ∀ path ∈ candidatesFor loader start,
        (loader.files.node path).obscurity? = none ∧ ¬ Illegible loader path := by
  have ending := not_congr (@isSome_discoveryError?_iff loader start)
  simp only [not_or, Bool.not_eq_true, Option.isSome_eq_false_iff, Option.isNone_iff_eq_none,
    not_exists, not_and] at ending
  rw [← ending, (discover_does loader start).result_eq]
  cases discoveryError? loader start with
  | none => exact iff_of_true ⟨_, rfl⟩ rfl
  | some error =>
    refine iff_of_false ?_ nofun
    rintro ⟨found, other⟩
    cases other

/-- Where discovery returns files, they are those with a configuration, and it has warned once of
each file without a document. -/
theorem discovered_and_warnings {start : Path} {found : List Path}
    (h : (discover loader start).result.1 = .ok found) :
    (∀ path, path ∈ found ↔
      path ∈ candidatesFor loader start ∧ ∃ table, HoldsTable loader path table) ∧
    (discover loader start).result.2.filter (·.level = Log.warning) =
      ((candidatesFor loader start).filter (lacksDocument loader)).map fun path ↦
        ⟨Log.warning, s!"Skipping unreadable config candidate {path.text}"⟩ := by
  rw [(discover_does loader start).result_eq] at h ⊢
  obtain ⟨returns, rfl⟩ : discoveryError? loader start = none ∧ foundFor loader start = found := by
    cases ending : discoveryError? loader start with
    | none =>
      rw [ending] at h
      exact ⟨rfl, Except.ok.inj h⟩
    | some error =>
      rw [ending] at h
      cases h
  refine ⟨fun _ ↦ mem_foundFor_iff, ?_⟩
  have search : searchError? loader (candidatesFor loader start) = none := by
    unfold discoveryError? at returns
    split at returns
    · cases returns
    · exact returns
  rw [← warnings_searchReports search]
  unfold discoveryReports
  unfold discoveryError? at returns
  split at returns
  · cases returns
  · rfl

/-! ## Merging -/

private theorem mapM_eq_error_iff {α β ε : Type} {f : α → Except ε β} {items : List α} {error : ε} :
    items.mapM f = .error error ↔ ∃ front item behind, items = front ++ item :: behind ∧
      (∀ earlier ∈ front, ∃ value, f earlier = .ok value) ∧ f item = .error error := by
  induction items with
  | nil =>
    refine iff_of_false (fun h ↦ by cases h) ?_
    rintro ⟨front, item, behind, split, -⟩
    cases front <;> cases split
  | cons first rest ih =>
    rw [List.mapM_cons]
    cases here : f first with
    | error other =>
      constructor
      · intro h
        cases h
        exact ⟨[], first, rest, rfl, List.forall_mem_nil _, here⟩
      · rintro ⟨front, item, behind, split, before, found⟩
        cases front with
        | nil =>
          obtain ⟨rfl, -⟩ := List.cons_eq_cons.mp split
          cases here.symm.trans found
          rfl
        | cons start front =>
          obtain ⟨rfl, -⟩ := List.cons_eq_cons.mp split
          obtain ⟨value, set⟩ := before first List.mem_cons_self
          cases here.symm.trans set
    | ok value =>
      have later : ((.ok value : Except ε β) >>= fun value ↦ do
          let values ← rest.mapM f
          return value :: values) = .error error ↔ rest.mapM f = .error error := by
        show (rest.mapM f).bind _ = _ ↔ _
        cases rest.mapM f <;> simp [Except.bind, Pure.pure, Except.pure]
      rw [later, ih]
      constructor
      · rintro ⟨front, item, behind, rfl, before, found⟩
        exact ⟨first :: front, item, behind, rfl,
          List.forall_mem_cons.mpr ⟨⟨value, here⟩, before⟩, found⟩
      · rintro ⟨front, item, behind, split, before, found⟩
        cases front with
        | nil =>
          obtain ⟨rfl, -⟩ := List.cons_eq_cons.mp split
          cases here.symm.trans found
        | cons start front =>
          obtain ⟨rfl, others⟩ := List.cons_eq_cons.mp split
          exact ⟨front, item, behind, others, (List.forall_mem_cons.mp before).2, found⟩

private theorem loadFile_failsUnforeseen_iff :
    (loadFile loader path).FailsUnforeseen ↔
      loader.files.node path = .impossible ∨ Illegible loader path ∨ HidesFault loader path := by
  rw [Logged.FailsUnforeseen, (loadFile_does loader path).result_eq]
  exact layerAt_unforeseen_iff

/-- The files that are discovered for a place, if there is one. -/
def Discovers (loader : Loader) (start : Option Path) (found : List Path) : Prop :=
  start.elim (found = []) fun place ↦ (discover loader place).result.1 = .ok found

private theorem discovers_iff {start : Option Path} {found : List Path} :
    Discovers loader start found ↔ discoveredFor loader start = .ok found := by
  cases start with
  | none => simp [Discovers, discoveredFor, eq_comm]
  | some place =>
    rw [Discovers, Option.elim_some, (discover_does loader place).result_eq]
    rfl

/-- What is loaded in all ends with an error of discovery, or with the error of the first file
that sets no layer. -/
theorem mergedLayer_eq_error_iff {start : Option Path} {named : List Path}
    {overrides : OptionLayer} {error : Error} :
    mergedLayer loader start named overrides = .error error ↔
      discoveredFor loader start = .error error ∨ ∃ found, discoveredFor loader start = .ok found ∧
        (found ++ named).mapM (layerAt loader) = .error error := by
  unfold mergedLayer
  cases discoveredFor loader start with
  | error other => simp [Bind.bind, Except.bind]
  | ok found =>
    simp only [Except.ok.injEq, reduceCtorEq, false_or, exists_eq_left']
    show ((found ++ named).mapM (layerAt loader)).bind _ = _ ↔ _
    cases (found ++ named).mapM (layerAt loader) <;> simp [Except.bind, Pure.pure, Except.pure]

/-- All that is loaded fails in a way that is not foreseen if discovery does not return, or if the
first file that sets no layer fails so. -/
theorem loadMerged_failsUnforeseen_iff {start : Option Path} {named : List Path}
    {overrides : OptionLayer} :
    (loadMerged loader start named overrides).FailsUnforeseen ↔
      (∃ place ∈ start, ∀ found, (discover loader place).result.1 ≠ .ok found) ∨
        ∃ found front path behind, Discovers loader start found ∧
          found ++ named = front ++ path :: behind ∧
          (∀ earlier ∈ front, ∃ layer, (loadFile loader earlier).result.1 = .ok layer) ∧
          (loadFile loader path).FailsUnforeseen := by
  simp only [Logged.FailsUnforeseen, (loadMerged_does loader start named overrides).result_eq,
    (loadFile_does loader _).result_eq, discovers_iff, mergedLayer_eq_error_iff, mapM_eq_error_iff]
  constructor
  · rintro ⟨error, ending | ⟨found, reached, front, path, behind, split, before, here⟩, unforeseen⟩
    · cases start with
      | none => cases ending
      | some place =>
        refine Or.inl ⟨place, rfl, fun found returns ↦ ?_⟩
        rw [(discover_does loader place).result_eq] at returns
        cases ending.symm.trans returns
    · exact Or.inr ⟨found, front, path, behind, reached, split, before, error, here, unforeseen⟩
  · rintro (⟨place, rfl, never⟩ |
      ⟨found, front, path, behind, reached, split, before, error, here, unforeseen⟩)
    · cases ending : discoveryError? loader place with
      | none =>
        refine absurd ?_ (never (foundFor loader place))
        rw [(discover_does loader place).result_eq, ending]
        rfl
      | some error =>
        refine ⟨error, Or.inl ?_, isForeseen_discoveryError? ending⟩
        rw [discoveredFor, ending]
        rfl
    · exact ⟨error, Or.inr ⟨found, reached, front, path, behind, split, before, here⟩, unforeseen⟩

/-- How loading fails, whatever the reader of documents is. A file is loaded or fails with a
foreseen error, unless nothing can stand at its path, its octets are no text or a document in
conflict, or a fault cannot be shown. Discovery always returns the files with a configuration, with
one warning on each file that may not be read or has no document, unless a path is too long or leads
through a directory that may not be searched, so that nothing can be told about it, or a file is
illegible. And all that is merged is loaded or fails with a foreseen error, unless discovery or the
first file that sets no layer fails otherwise. -/
theorem loading_unforeseen_iff (loader : Loader) :
    (∀ path, (loadFile loader path).FailsUnforeseen ↔
      loader.files.node path = .impossible ∨ Illegible loader path ∨ HidesFault loader path) ∧
    (∀ start, (∃ found, (discover loader start).result.1 = .ok found) ↔
      (loader.files.node start).obscurity? = none ∧ ∀ path ∈ candidatesFor loader start,
        (loader.files.node path).obscurity? = none ∧ ¬ Illegible loader path) ∧
    (∀ start error, (discover loader start).result.1 = .error error →
      error.isForeseen = false) ∧
    (∀ start found, (discover loader start).result.1 = .ok found →
      (∀ path, path ∈ found ↔
        path ∈ candidatesFor loader start ∧ ∃ table, HoldsTable loader path table) ∧
      (discover loader start).result.2.filter (·.level = Log.warning) =
        ((candidatesFor loader start).filter (lacksDocument loader)).map fun path ↦
          ⟨Log.warning, s!"Skipping unreadable config candidate {path.text}"⟩) ∧
    ∀ start named overrides, (loadMerged loader start named overrides).FailsUnforeseen ↔
      (∃ place ∈ start, ∀ found, (discover loader place).result.1 ≠ .ok found) ∨
        ∃ found front path behind, Discovers loader start found ∧
          found ++ named = front ++ path :: behind ∧
          (∀ earlier ∈ front, ∃ layer, (loadFile loader earlier).result.1 = .ok layer) ∧
          (loadFile loader path).FailsUnforeseen := by
  exact ⟨fun _ ↦ loadFile_failsUnforeseen_iff, fun _ ↦ exists_discovered_iff,
    fun _ _ ↦ isForeseen_of_discovery_error, fun _ _ ↦ discovered_and_warnings,
    fun _ _ _ ↦ loadMerged_failsUnforeseen_iff⟩

/-- The directory of a project. -/
def projectPath : Path := { anchor := "/", names := ["w"] }

/-- A file that may not be read is passed over with one warning, and nothing can be told about the
candidates in a directory that may not be searched. -/
example :
    let inside := projectPath.child "private"
    let files : FileSystem :=
      { workingDirectory := projectPath
        node := fun path ↦
          if path = projectPath ∨ path = inside then .directory
          else if path = projectPath.child ownFile then .closed
          else if path.parent = inside then .barred
          else .absent }
    (discover files projectPath).result.2 =
      [⟨Log.error, "Error loading TOML from /w/textdiag.toml: " ++
          "[Errno 13] Permission denied: '/w/textdiag.toml'"⟩,
        ⟨Log.warning, "Skipping unreadable config candidate /w/textdiag.toml"⟩] ∧
    (discover files inside).result.1 = .error (.obscure (inside.child projectFile) .denied) :=
  ⟨by decide +kernel, rfl⟩

/-! ## Octets that are no text -/

/-- A project whose configuration is one octet that no text holds. -/
def strayOctet : FileSystem where
  workingDirectory := projectPath
  node path :=
    if path = projectPath then .directory
    else if path = projectPath.child ownFile then .file [0xFF]
    else .absent

/-- The octet is not foreseen: neither loading the file nor discovery ends as it should. -/
theorem stray_octet_unforeseen :
    (loadFile strayOctet (projectPath.child ownFile)).FailsUnforeseen ∧
      ∀ found, (discover strayOctet projectPath).result.1 ≠ .ok found := by
  have undecodable : Text.decodeUtf8 [0xFF] = .error ⟨.invalidStart, 0xFF, 0, 1⟩ := by
    rw [Text.decodeUtf8, Text.decodeFrom]
    rfl
  have illegible : Illegible strayOctet (projectPath.child ownFile) := .encoding rfl undecodable
  have looked : projectPath.child ownFile ∈ candidatesFor strayOctet projectPath := by
    decide +kernel
  obtain ⟨file, discovery, -⟩ := loading_unforeseen_iff strayOctet
  refine ⟨(file _).mpr (Or.inr (Or.inl illegible)), fun found returns ↦ ?_⟩
  exact ((discovery _).mp ⟨found, returns⟩).2 _ looked |>.2 illegible

end Caret.Config
