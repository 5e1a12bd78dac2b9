import Mathlib.Data.List.Basic
import Caret.Proofs.Config.Contents
import Caret.Proofs.Options.Layers
import Caret.Proofs.Text.Octets
import Caret.Proofs.Toml.Documents

/-!
# The precedence of configuration

An option has the value of the first layer that sets it: what is set in the end, the files named
from the last to the first, and the files of the directories that are searched, from the nearest
upwards. The search ends at the first directory with a configuration that ends it, and nothing
above it has any influence.
-/

namespace Caret.Config

open Data (Fields)

variable {loader : Loader} {path : Path}

/-! ## The layers of files -/

/-- A file is well formed: its text is a document, and a configuration in it has no fault. -/
def WellFormed (loader : Loader) (path : Path) : Prop :=
  ∃ octets text document, loader.files.node path = .file octets ∧ textOf octets = .ok text ∧
    loader.read text = .ok document ∧ ∀ table, configurationIn? path document = some table →
      ∃ layer, (OptionLayer.ofDocument table).1 = .ok layer

/-- Where a configuration is looked for there is a well-formed file or none. -/
def WellFormedOrAbsent (loader : Loader) (path : Path) : Prop :=
  (loader.files.node path).isFile = false ∧ (loader.files.node path).obscurity? = none ∨
    WellFormed loader path

/-- The layer of a file that is loaded. -/
def layerOn (loader : Loader) (path : Path) : OptionLayer :=
  match (loadFile loader path).result.1 with
  | .ok layer => layer
  | .error _ => .empty

/-- The layer of a file is that of its table. -/
theorem layerOn_eq : layerOn loader path = (layerAt loader path).toOption.getD .empty := by
  rw [layerOn, (loadFile_does loader path).result_eq]
  cases layerAt loader path <;> rfl

/-- A well-formed file has a document. -/
theorem WellFormed.documentAt (h : WellFormed loader path) :
    ∃ octets document, loader.files.node path = .file octets ∧
      documentAt loader path = .ok document := by
  obtain ⟨octets, text, document, file, decoded, read, -⟩ := h
  have found := documentAt_of_text file decoded
  rw [read] at found
  exact ⟨octets, document, file, found⟩

/-- A well-formed file sets a layer. -/
theorem WellFormed.layerAt (h : WellFormed loader path) :
    layerAt loader path = .ok (layerOn loader path) := by
  obtain ⟨octets, document, file, found⟩ := h.documentAt
  obtain ⟨_, text, same, again, decoded, read, sound⟩ := h
  have given := documentAt_of_text again decoded
  rw [read] at given
  cases found.symm.trans given
  rw [layerOn_eq]
  cases held : configurationIn? path document with
  | none =>
    rw [layerAt_of_foreign found held]
    rfl
  | some table =>
    obtain ⟨layer, set⟩ := sound table held
    have whole : layerOf path table = .ok { layer with files := [path.text] } := by
      rw [layerOf_eq, set]
      rfl
    rw [layerAt_of_table found held, whole]
    rfl

/-- A file without a configuration sets nothing. -/
theorem layerOn_of_no_table (h : ¬ ∃ table, HoldsTable loader path table) :
    layerOn loader path = .empty := by
  rw [layerOn_eq]
  cases found : documentAt loader path with
  | error error =>
    rw [layerAt_of_error found]
    rfl
  | ok document =>
    cases held : configurationIn? path document with
    | none =>
      rw [layerAt_of_foreign found held]
      rfl
    | some table => exact absurd ⟨table, holdsTable_of_documentAt found held⟩ h

/-- The layer of a well-formed file with a configuration remembers the file. -/
theorem WellFormed.files_layerOn {table : Fields} (h : WellFormed loader path)
    (held : HoldsTable loader path table) : (layerOn loader path).files = [path.text] := by
  obtain ⟨document, found, inside⟩ := held.documentAt
  have set := h.layerAt
  rw [layerAt_of_table found inside, layerOf, OptionLayer.ofSource] at set
  dsimp only at set
  cases read : (OptionLayer.ofDocument table).1 with
  | error fault =>
    rw [read] at set
    cases set
  | ok layer =>
    rw [read] at set
    rw [← Except.ok.inj set]
    rfl

/-- Looking at a well-formed file, or where there is none, does not end the search. -/
theorem WellFormedOrAbsent.error?_eq_none (h : WellFormedOrAbsent loader path) :
    (candidateAt loader path).error? = none := by
  rcases h with ⟨none, told⟩ | wellFormed
  · rw [candidateAt_of_not_isFile told none]
    rfl
  · obtain ⟨octets, document, -, found⟩ := wellFormed.documentAt
    rw [candidateAt_of_document found]
    cases configurationIn? path document <;> rfl

/-! ## The order of layers -/

/-- The directories that are searched for a place, from the nearest upwards. -/
def searchedFor (loader : Loader) (start : Option Path) : List Path :=
  match start with
  | none => []
  | some place => searched loader (searchStart loader place).lineage

/-- The layers of some files, the first with the highest precedence: what is set in the end, the
files named from the last to the first, and those of the directories searched, upwards, in each of
which the file that holds nothing else comes first. -/
def layersByPrecedence (loader : Loader) (start : Option Path) (named : List Path)
    (overrides : OptionLayer) : List OptionLayer :=
  overrides :: (named.reverse ++ (searchedFor loader start).flatMap fun directory ↦
    [directory.child ownFile, directory.child projectFile]).map (layerOn loader)

private theorem mapM_layerAt {paths : List Path}
    (h : ∀ path ∈ paths, layerAt loader path = .ok (layerOn loader path)) :
    paths.mapM (layerAt loader) = .ok (paths.map (layerOn loader)) := by
  induction paths with
  | nil => rfl
  | cons path rest ih =>
    obtain ⟨here, others⟩ := List.forall_mem_cons.mp h
    rw [List.mapM_cons, here, ih others]
    rfl

/-- The files found are those with a configuration among the paths that are looked at, against the
order of precedence. -/
theorem foundIn_eq_filter (directories : List Path) :
    foundIn loader directories =
      ((searched loader directories).flatMap fun directory ↦
        [directory.child ownFile, directory.child projectFile]).reverse.filter fun path ↦
          (candidateAt loader path).table?.isSome := by
  rw [foundIn, List.reverse_flatMap, List.filter_flatMap]
  rfl

private theorem foldl_merge_filter (paths : List Path) (lower : OptionLayer) :
    ((paths.filter fun path ↦ (candidateAt loader path).table?.isSome).map
      (layerOn loader)).foldl OptionLayer.merge lower =
        (paths.map (layerOn loader)).foldl OptionLayer.merge lower := by
  induction paths generalizing lower with
  | nil => rfl
  | cons path rest ih =>
    rw [List.filter_cons, List.map_cons, List.foldl_cons, ← ih]
    cases held : (candidateAt loader path).table? with
    | some table => rfl
    | none =>
      have empty : layerOn loader path = .empty := by
        refine layerOn_of_no_table ?_
        rintro ⟨table, holds⟩
        cases held.symm.trans (table?_candidateAt_eq_some_iff.mpr holds)
      rw [empty, OptionLayer.merge_empty]
      rfl

private theorem foldl_merge_found {start : Option Path} {named found : List Path}
    {overrides : OptionLayer} (h : discoveredFor loader start = .ok found) :
    (((found ++ named).map (layerOn loader)).foldl OptionLayer.merge .empty).merge overrides =
      (layersByPrecedence loader start named overrides).reverse.foldl OptionLayer.merge .empty := by
  have upwards : (found.map (layerOn loader)).foldl OptionLayer.merge .empty =
      (((searchedFor loader start).flatMap fun directory ↦
        [directory.child ownFile, directory.child projectFile]).reverse.map
          (layerOn loader)).foldl OptionLayer.merge .empty := by
    cases start with
    | none =>
      cases h
      rfl
    | some place =>
      unfold discoveredFor at h
      dsimp only at h
      cases ending : discoveryError? loader place with
      | some error =>
        rw [ending] at h
        cases h
      | none =>
        rw [ending] at h
        cases h
        rw [foundFor, foundIn_eq_filter, foldl_merge_filter]
        rfl
  rw [layersByPrecedence, List.reverse_cons, List.foldl_append, ← List.map_reverse,
    List.reverse_append, List.reverse_reverse, List.map_append, List.map_append, List.foldl_append,
    List.foldl_append, upwards]
  rfl

private theorem discoveredFor_eq_ok {start : Option Path}
    (place : ∀ place ∈ start, (loader.files.node place).obscurity? = none)
    (sound : ∀ directory ∈ searchedFor loader start, ∀ path ∈ configPaths directory,
      WellFormedOrAbsent loader path) :
    ∃ found, discoveredFor loader start = .ok found ∧
      ∀ path ∈ found, WellFormed loader path := by
  cases start with
  | none => exact ⟨[], rfl, fun _ none ↦ nomatch none⟩
  | some start =>
    have ending : discoveryError? loader start = none := by
      have passes : searchError? loader (candidatesFor loader start) = none := by
        rw [searchError?, List.findSome?_eq_none_iff]
        intro path considered
        obtain ⟨directory, looked, inside⟩ := List.mem_flatMap.mp considered
        exact (sound directory looked path inside).error?_eq_none
      rw [discoveryError?, place start rfl]
      exact passes
    refine ⟨foundFor loader start, by rw [discoveredFor, ending]; rfl, fun path found ↦ ?_⟩
    obtain ⟨considered, table, held⟩ := mem_foundFor_iff.mp found
    obtain ⟨directory, looked, inside⟩ := List.mem_flatMap.mp considered
    rcases sound directory looked path inside with ⟨none, -⟩ | wellFormed
    · obtain ⟨octets, _, _, file, -⟩ := held
      rw [file] at none
      cases none
    · exact wellFormed

private theorem loadMerged_of_wellFormed {start : Option Path} {named : List Path}
    {overrides : OptionLayer} (place : ∀ place ∈ start, (loader.files.node place).obscurity? = none)
    (sound : ∀ directory ∈ searchedFor loader start, ∀ path ∈ configPaths directory,
      WellFormedOrAbsent loader path)
    (given : ∀ path ∈ named, WellFormed loader path) :
    (loadMerged loader start named overrides).result.1 =
      .ok ((layersByPrecedence loader start named overrides).reverse.foldl
        OptionLayer.merge .empty) := by
  obtain ⟨found, discovered, wellFormed⟩ := discoveredFor_eq_ok place sound
  have set : ∀ path ∈ found ++ named, layerAt loader path = .ok (layerOn loader path) := by
    intro path member
    rcases List.mem_append.mp member with member | member
    · exact (wellFormed path member).layerAt
    · exact (given path member).layerAt
  rw [(loadMerged_does loader start named overrides).result_eq, mergedLayer, discovered,
    ← foldl_merge_found discovered]
  show ((found ++ named).mapM (layerAt loader)).bind _ = _
  rw [mapM_layerAt set]
  rfl

/-! ## What is not looked at -/

/-- The action is what it does. -/
theorem Does.eq {α : Type} {action other : Logged α} {result : Except Error α}
    {records : List Log.Record} (h : Does action result records)
    (same : Does other result records) : action = other :=
  funext fun before ↦ (h before).trans (same before).symm

/-- Two file systems agree on some paths. -/
def AgreeOn (files other : FileSystem) (paths : List Path) : Prop :=
  ∀ path ∈ paths, other.node path = files.node path

/-- The same reader on another file system. -/
def Loader.on (loader : Loader) (files : FileSystem) : Loader := { loader with files }

@[simp] private theorem files_on (loader : Loader) (files : FileSystem) :
    (loader.on files).files = files := rfl

@[simp] private theorem read_on (loader : Loader) (files : FileSystem) :
    (loader.on files).read = loader.read := rfl

variable {other : FileSystem}

/-- The document in a file is that of what stands at its path. -/
theorem documentAt_congr (h : other.node path = loader.files.node path) :
    documentAt (loader.on other) path = documentAt loader path := by
  simp only [documentAt, FileSystem.readText, FileSystem.readOctets, files_on, read_on, h]

/-- A candidate is what stands at its path. -/
theorem candidateAt_congr (h : other.node path = loader.files.node path) :
    candidateAt (loader.on other) path = candidateAt loader path := by
  simp only [candidateAt, documentAt_congr h, files_on, h]

/-- The layer of a file is that of what stands at its path. -/
theorem layerAt_congr (h : other.node path = loader.files.node path) :
    layerAt (loader.on other) path = layerAt loader path := by
  simp only [layerAt, documentAt_congr h]

private theorem fileReports_congr (h : other.node path = loader.files.node path) :
    fileReports (loader.on other) path = fileReports loader path := by
  simp only [fileReports, documentReports, documentAt_congr h]

private theorem searchError?_congr {paths : List Path} (h : AgreeOn loader.files other paths) :
    searchError? (loader.on other) paths = searchError? loader paths := by
  induction paths with
  | nil => rfl
  | cons path rest ih =>
    obtain ⟨here, others⟩ := List.forall_mem_cons.mp h
    simp only [searchError?, List.findSome?_cons, candidateAt_congr here] at ih ⊢
    rw [ih others]

private theorem searchReports_congr {paths : List Path} (h : AgreeOn loader.files other paths) :
    searchReports (loader.on other) paths = searchReports loader paths := by
  induction paths with
  | nil => rfl
  | cons path rest ih =>
    obtain ⟨here, others⟩ := List.forall_mem_cons.mp h
    simp only [searchReports, candidateAt_congr here, ih others]

private theorem configuredAmong_congr {paths : List Path} (h : AgreeOn loader.files other paths) :
    configuredAmong (loader.on other) paths = configuredAmong loader paths :=
  List.filter_congr fun path member ↦ by rw [candidateAt_congr (h path member)]

private theorem mergeReports_congr {paths : List Path} (h : AgreeOn loader.files other paths) :
    mergeReports (loader.on other) paths = mergeReports loader paths := by
  induction paths with
  | nil => rfl
  | cons path rest ih =>
    obtain ⟨here, others⟩ := List.forall_mem_cons.mp h
    simp only [mergeReports, layerAt_congr here, fileReports_congr here, ih others]

private theorem mapM_layerAt_congr {paths : List Path} (h : AgreeOn loader.files other paths) :
    paths.mapM (layerAt (loader.on other)) = paths.mapM (layerAt loader) := by
  induction paths with
  | nil => rfl
  | cons path rest ih =>
    obtain ⟨here, others⟩ := List.forall_mem_cons.mp h
    rw [List.mapM_cons, List.mapM_cons, layerAt_congr here, ih others]

private theorem searched_congr {directories : List Path}
    (h : ∀ directory ∈ searched loader directories,
      AgreeOn loader.files other (configPaths directory)) :
    searched (loader.on other) directories = searched loader directories := by
  induction directories with
  | nil => rfl
  | cons directory above ih =>
    have here : AgreeOn loader.files other (configPaths directory) := by
      refine h directory ?_
      unfold searched
      split <;> exact List.mem_cons_self
    have candidates : (configPaths directory).map (candidateAt (loader.on other)) =
        (configPaths directory).map (candidateAt loader) :=
      List.map_congr_left fun path member ↦ candidateAt_congr (here path member)
    have stops :
        ((configPaths directory).any fun path ↦ (candidateAt (loader.on other) path).endsSearch) =
        (configPaths directory).any fun path ↦ (candidateAt loader path).endsSearch := by
      have ends := congrArg (List.any · Candidate.endsSearch) candidates
      rwa [List.any_map, List.any_map] at ends
    unfold searched at h ⊢
    rw [stops]
    split
    · rfl
    · next goesOn =>
      rw [if_neg goesOn] at h
      rw [ih fun other member ↦ h other (List.mem_cons_of_mem _ member)]

/-- What is discovered for a place depends on what stands there and in the directories that are
searched. -/
theorem discovery_congr {place : Path} (here : other.node place = loader.files.node place)
    (looked : ∀ directory ∈ searched loader (searchStart loader place).lineage,
      AgreeOn loader.files other (configPaths directory)) :
    discoveryError? (loader.on other) place = discoveryError? loader place ∧
      foundFor (loader.on other) place = foundFor loader place ∧
      discoveryReports (loader.on other) place = discoveryReports loader place ∧
      AgreeOn loader.files other (foundFor loader place) := by
  have start : searchStart (loader.on other) place = searchStart loader place := by
    rw [searchStart, files_on, here]
    rfl
  have directories := searched_congr looked
  have paths : AgreeOn loader.files other (candidatesFor loader place) := by
    intro path member
    obtain ⟨directory, searched, inside⟩ := List.mem_flatMap.mp member
    exact looked directory searched path inside
  have candidates : candidatesFor (loader.on other) place = candidatesFor loader place := by
    rw [candidatesFor, start, candidatesIn, directories]
    rfl
  refine ⟨?_, ?_, ?_, fun path member ↦ paths path (mem_foundFor_iff.mp member).1⟩
  · rw [discoveryError?, files_on, here, candidates, searchError?_congr paths]
    rfl
  · rw [foundFor, start, foundIn, directories]
    refine List.flatMap_congr fun directory member ↦ ?_
    exact configuredAmong_congr (looked directory (List.mem_reverse.mp member))
  · rw [discoveryReports, files_on, here, candidates, searchReports_congr paths]
    rfl

/-- What is merged depends on what is discovered, and on what stands at the paths of all files. -/
theorem merged_congr {start : Option Path} {named : List Path} (overrides : OptionLayer)
    (same : discoveredFor (loader.on other) start = discoveredFor loader start)
    (found : ∀ found, discoveredFor loader start = .ok found → AgreeOn loader.files other found)
    (given : AgreeOn loader.files other named)
    (reports : ∀ place, start = some place →
      discoveryReports (loader.on other) place = discoveryReports loader place) :
    mergedLayer (loader.on other) start named overrides = mergedLayer loader start named overrides ∧
      mergedReports (loader.on other) start named = mergedReports loader start named := by
  unfold mergedLayer mergedReports
  rw [same]
  cases discovered : discoveredFor loader start with
  | error error =>
    refine ⟨rfl, ?_⟩
    cases start with
    | none => rfl
    | some place => exact reports place rfl
  | ok paths =>
    have all : AgreeOn loader.files other (paths ++ named) := fun path member ↦
      (List.mem_append.mp member).elim (found paths discovered path) (given path)
    constructor
    · show ((paths ++ named).mapM (layerAt (loader.on other))).bind _ = _
      rw [mapM_layerAt_congr all]
      rfl
    · dsimp only
      rw [mergeReports_congr all]
      cases start with
      | none => rfl
      | some place => exact congrArg (· ++ _) (reports place rfl)

/-- What is loaded depends on what stands at the start, at the paths that are looked at, and at
those named. -/
theorem loadMerged_congr {start : Option Path} {named : List Path} {overrides : OptionLayer}
    (place : AgreeOn loader.files other start.toList)
    (looked : ∀ directory ∈ searchedFor loader start,
      AgreeOn loader.files other (configPaths directory))
    (given : AgreeOn loader.files other named) :
    loadMerged (loader.on other) start named overrides =
      loadMerged loader start named overrides := by
  suffices same : mergedLayer (loader.on other) start named overrides =
        mergedLayer loader start named overrides ∧
      mergedReports (loader.on other) start named = mergedReports loader start named by
    refine (loadMerged_does (loader.on other) start named overrides).eq ?_
    rw [same.1, same.2]
    exact loadMerged_does loader start named overrides
  cases start with
  | none =>
    refine merged_congr overrides rfl ?_ given fun _ none ↦ nomatch none
    rintro found ⟨⟩
    exact fun _ none ↦ nomatch none
  | some start =>
    obtain ⟨error, found, reports, agree⟩ := discovery_congr (place start List.mem_cons_self) looked
    refine merged_congr overrides ?_ ?_ given ?_
    · rw [discoveredFor, discoveredFor, error, found]
    · intro paths discovered
      unfold discoveredFor at discovered
      dsimp only at discovered
      cases ending : discoveryError? loader start with
      | some error =>
        rw [ending] at discovered
        cases discovered
      | none =>
        rw [ending] at discovered
        cases discovered
        exact agree
    · rintro _ ⟨⟩
      exact reports

/-- A file in a directory has a configuration that ends the search. -/
def DeclaresRoot (loader : Loader) (directory : Path) : Prop :=
  ∃ path ∈ configPaths directory, ∃ table, HoldsTable loader path table ∧ endsSearch table = true

/-- The search ends in a directory that ends it. -/
theorem searched_cons_of_root {directory : Path} (root : DeclaresRoot loader directory)
    (above : List Path) : searched loader (directory :: above) = [directory] := by
  obtain ⟨path, inside, table, held, ends⟩ := root
  refine if_pos (List.any_eq_true.mpr ⟨path, inside, ?_⟩)
  rw [Candidate.endsSearch, table?_candidateAt_eq_some_iff.mpr held]
  exact ends

private theorem mem_of_mem_searched {nearer above : List Path} {directory : Path}
    (root : DeclaresRoot loader directory) :
    ∀ place ∈ searched loader (nearer ++ directory :: above), place ∈ nearer ++ [directory] := by
  induction nearer with
  | nil =>
    rw [List.nil_append, searched_cons_of_root root]
    exact fun _ member ↦ member
  | cons nearest others ih =>
    intro place member
    rw [List.cons_append, searched] at member
    split at member
    · exact List.mem_cons.mpr (Or.inl (List.mem_singleton.mp member))
    · exact (List.mem_cons.mp member).elim (fun same ↦ List.mem_cons.mpr (Or.inl same))
        fun later ↦ List.mem_cons_of_mem _ (ih place later)

/-! ## Precedence -/

/-- How configuration is merged. If the files that are considered are well formed, loading comes to
options each of which is that of the first layer that sets it, and remembers the files of all
layers, the lowest first. The file of a project without the table sets nothing and is not
remembered; any other well-formed file is. And no directory above one that ends the search has any
influence, whatever stands in it. -/
theorem loadMerged_precedence (loader : Loader) (start : Option Path) (named : List Path)
    (overrides : OptionLayer) :
    ((∀ place ∈ start, (loader.files.node place).obscurity? = none) →
      (∀ directory ∈ searchedFor loader start, ∀ path ∈ configPaths directory,
        WellFormedOrAbsent loader path) →
      (∀ path ∈ named, WellFormed loader path) →
      ∃ merged, (loadMerged loader start named overrides).result.1 = .ok merged ∧
        (∀ (α : Type) (field : OptionField α), merged.get? field =
          (layersByPrecedence loader start named overrides).findSome? (·.get? field)) ∧
        merged.files =
          (layersByPrecedence loader start named overrides).reverse.flatMap (·.files)) ∧
    (∀ path, (¬ ∃ table, HoldsTable loader path table) → layerOn loader path = .empty) ∧
    (∀ path table, WellFormed loader path → HoldsTable loader path table →
      (layerOn loader path).files = [path.text]) ∧
    ∀ (other : FileSystem) place nearer directory above, start = some place →
      (searchStart loader place).lineage = nearer ++ directory :: above →
      DeclaresRoot loader directory →
      AgreeOn loader.files other (place :: (nearer ++ [directory]).flatMap configPaths ++ named) →
      loadMerged (loader.on other) start named overrides =
        loadMerged loader start named overrides := by
  refine ⟨fun place sound given ↦ ?_, fun _ ↦ layerOn_of_no_table,
    fun _ _ wellFormed held ↦ wellFormed.files_layerOn held, ?_⟩
  · refine ⟨_, loadMerged_of_wellFormed place sound given, fun α field ↦ ?_, ?_⟩
    · rw [OptionLayer.get?_foldl_merge, List.reverse_reverse, OptionLayer.get?_empty,
        Option.or_none]
    · rw [OptionLayer.files_foldl_merge]
      rfl
  · rintro other place nearer directory above rfl lineage root agree
    have inside {path : Path} : path ∈ (nearer ++ [directory]).flatMap configPaths →
        other.node path = loader.files.node path :=
      fun member ↦ agree path (List.mem_append_left _ (List.mem_cons_of_mem _ member))
    refine loadMerged_congr ?_ ?_ fun path member ↦ agree path (List.mem_append_right _ member)
    · intro path member
      rw [List.mem_singleton.mp member]
      exact agree place (List.mem_append_left _ List.mem_cons_self)
    · intro searched member path among
      rw [searchedFor, lineage] at member
      exact inside (List.mem_flatMap.mpr ⟨searched, mem_of_mem_searched root _ member, among⟩)

/-! ## A project below an illegible file -/

/-- A file holds a document that was written. -/
structure HoldsWritten (files : FileSystem) (path : Path) (document : Toml.Document) : Prop where
  file : files.node path = .file (Text.asciiOctets document.text)
  distinct : document.HasDistinctKeys
  writable : document.isWritable = true
  plain : Text.isPlainAscii document.text = true

namespace HoldsWritten

variable {files : FileSystem} {document : Toml.Document}

/-- The file has the text of the document. -/
theorem textOf (h : HoldsWritten files path document) :
    Caret.textOf (Text.asciiOctets document.text) = .ok document.text :=
  Text.textOf_asciiOctets h.plain

/-- The text is read as the fields of the document. -/
theorem read (h : HoldsWritten files path document) :
    Toml.read document.text = .ok document.fields := by
  have whole := Toml.read_text h.distinct h.writable Toml.isGap_nil Toml.isGap_nil
  rwa [List.nil_append, List.append_nil] at whole

/-- The document in the file is the one that was written. -/
theorem documentAt (h : HoldsWritten files path document) :
    documentAt files path = .ok document.fields := by
  have file : (files : Loader).files.node path = .file (Text.asciiOctets document.text) := h.file
  exact (documentAt_of_text file h.textOf).trans (congrArg (Except.mapError _) h.read)

/-- The file is well formed if its configuration has no fault. -/
theorem wellFormed (h : HoldsWritten files path document)
    (sound : ∀ table, configurationIn? path document.fields = some table →
      ∃ layer, (OptionLayer.ofDocument table).1 = .ok layer) : WellFormed files path :=
  ⟨_, _, _, h.file, h.textOf, h.read, sound⟩

private theorem holdsTable (h : HoldsWritten files path document) {table : Fields}
    (held : configurationIn? path document.fields = some table) : HoldsTable files path table :=
  ⟨_, _, _, h.file, h.textOf, h.read, held⟩

/-- The layer of the file is that of the configuration in the document. -/
theorem layerOn (h : HoldsWritten files path document) {table : Fields} {layer : OptionLayer}
    (held : configurationIn? path document.fields = some table)
    (set : (OptionLayer.ofDocument table).1 = .ok layer) :
    layerOn files path = { layer with files := [path.text] } := by
  rw [layerOn_eq, layerAt_of_table h.documentAt held, layerOf, OptionLayer.ofSource]
  dsimp only
  rw [set]
  rfl

end HoldsWritten

/-- The directory above a project. -/
def outerPath : Path := { anchor := "/", names := ["w"] }

/-- The directory of a project. -/
def innerPath : Path := { anchor := "/", names := ["w", "p"] }

/-- A configuration that is named. -/
def namedPath : Path := { anchor := "/", names := ["n.toml"] }

/-- A configuration that ends the search. -/
def rootDocument : Toml.Document where
  entries := [(rootKey, .boolean true)]
  tables := [(Options.tableKey, [("tab_stop", .integer 4), ("show_carets", .boolean false)])]

/-- A file of a project without a configuration. -/
def foreignDocument : Toml.Document where
  tables := [("project", [("name", .string "p")])]

/-- A configuration with one option. -/
def namedDocument : Toml.Document where
  tables := [(Options.tableKey, [("tab_stop", .integer 2)])]

/-- A project whose configuration ends the search below a file with the octets `stray`. -/
def projectBelow (stray : List UInt8) : FileSystem where
  workingDirectory := innerPath
  node path :=
    if path = innerPath ∨ path = outerPath then .directory
    else if path = outerPath.child ownFile then .file stray
    else if path = innerPath.child ownFile then .file (Text.asciiOctets rootDocument.text)
    else if path = innerPath.child projectFile then .file (Text.asciiOctets foreignDocument.text)
    else if path = namedPath then .file (Text.asciiOctets namedDocument.text)
    else .absent

/-- The named configuration comes first, the one of the project counts where that sets nothing,
and neither the file of the project nor an octet above it that no text holds matters. -/
theorem precedence_in_project_below_stray_octet :
    (∃ merged, (loadMerged (projectBelow [0xFF]) (some innerPath) [namedPath] .empty).result.1 =
        .ok merged ∧
      merged.tabStop = some 2 ∧ merged.showCarets = some false ∧
      merged.files = ["/w/p/textdiag.toml", "/n.toml"]) ∧
    loadMerged (projectBelow []) (some innerPath) [namedPath] .empty =
      loadMerged (projectBelow [0xFF]) (some innerPath) [namedPath] .empty := by
  have root : HoldsWritten (projectBelow [0xFF]) (innerPath.child ownFile) rootDocument :=
    ⟨rfl, ⟨by decide, by decide⟩, by decide +kernel, by decide +kernel⟩
  have foreign : HoldsWritten (projectBelow [0xFF]) (innerPath.child projectFile) foreignDocument :=
    ⟨rfl, ⟨by decide, by decide⟩, by decide +kernel, by decide +kernel⟩
  have named : HoldsWritten (projectBelow [0xFF]) namedPath namedDocument :=
    ⟨rfl, ⟨by decide, by decide⟩, by decide +kernel, by decide +kernel⟩
  obtain ⟨precedence, -, -, unread⟩ :=
    loadMerged_precedence (projectBelow [0xFF]) (some innerPath) [namedPath] .empty
  have lineage : (searchStart (projectBelow [0xFF]) innerPath).lineage =
      [] ++ innerPath :: [outerPath, { anchor := "/" }] := rfl
  have ends : DeclaresRoot (projectBelow [0xFF]) innerPath :=
    ⟨innerPath.child ownFile, by decide, _, root.holdsTable rfl, rfl⟩
  have searched : searchedFor (projectBelow [0xFF]) (some innerPath) = [innerPath] := by
    rw [searchedFor, lineage]
    exact searched_cons_of_root ends _
  constructor
  · have sound : ∀ directory ∈ searchedFor (projectBelow [0xFF]) (some innerPath),
        ∀ path ∈ configPaths directory, WellFormedOrAbsent (projectBelow [0xFF]) path := by
      rw [searched]
      refine List.forall_mem_singleton.mpr (List.forall_mem_cons.mpr ⟨?_, ?_⟩)
      · exact Or.inr (foreign.wellFormed fun table held ↦ by cases held)
      · refine List.forall_mem_singleton.mpr (Or.inr (root.wellFormed ?_))
        rintro table ⟨⟩
        exact ⟨_, rfl⟩
    have given : ∀ path ∈ [namedPath], WellFormed (projectBelow [0xFF]) path := by
      refine List.forall_mem_singleton.mpr (named.wellFormed ?_)
      rintro table ⟨⟩
      exact ⟨_, rfl⟩
    have place : ∀ place ∈ some innerPath,
        ((projectBelow [0xFF]).node place).obscurity? = none := by
      rintro place ⟨⟩
      rfl
    obtain ⟨merged, loaded, fields, remembered⟩ := precedence place sound given
    have layers : layersByPrecedence (projectBelow [0xFF]) (some innerPath) [namedPath] .empty =
        [.empty, { tabStop := some 2, files := [namedPath.text] },
          { tabStop := some 4, showCarets := some false,
            files := [(innerPath.child ownFile).text] }, .empty] := by
      have outside : layerOn (projectBelow [0xFF]) (innerPath.child projectFile) = .empty := by
        refine layerOn_of_no_table ?_
        rintro ⟨table, held⟩
        obtain ⟨document, found, inside⟩ := held.documentAt
        cases found.symm.trans foreign.documentAt
        cases inside
      rw [layersByPrecedence, searched]
      show [_, layerOn _ namedPath, layerOn _ (innerPath.child ownFile),
        layerOn _ (innerPath.child projectFile)] = _
      rw [named.layerOn rfl rfl, root.layerOn rfl rfl, outside]
      rfl
    refine ⟨merged, loaded, ?_, ?_, ?_⟩
    · exact (fields _ .tabStop).trans (by rw [layers]; rfl)
    · exact (fields _ .showCarets).trans (by rw [layers]; rfl)
    · rw [remembered, layers]
      decide +kernel
  · refine unread _ innerPath [] innerPath _ rfl lineage ends ?_
    intro path member
    simp only [configPaths, fileNames, List.nil_append, List.flatMap_singleton, List.map_cons,
      List.map_nil, List.cons_append, List.mem_cons, List.not_mem_nil, or_false] at member
    rcases member with rfl | rfl | rfl | rfl <;> rfl

end Caret.Config
