import Caret.Proofs.Config.Discovery

/-!
# What the files of a configuration hold

The octets of a file may be no text, a text that is no document, a document whose tables conflict,
or a document with a configuration or without one. This decides what becomes of it as a candidate.
-/

namespace Caret.Config

open Data (Fields)

/-- The content of a file is nothing that loading is prepared for. -/
inductive Illegible (loader : Loader) (path : Path) : Prop
  /-- The octets are no text. -/
  | encoding {octets : List UInt8} {error : Text.Utf8Error}
      (file : loader.files.node path = .file octets)
      (undecodable : Text.decodeUtf8 octets = .error error)
  /-- A key comes again, or a table is opened again. -/
  | conflict {octets : List UInt8} {text : Text} {conflict : Toml.Conflict}
      (file : loader.files.node path = .file octets) (decoded : textOf octets = .ok text)
      (clash : loader.read text = .error (.conflict conflict))

/-- A file holds a configuration. -/
def HoldsTable (loader : Loader) (path : Path) (table : Fields) : Prop :=
  ∃ octets text document, loader.files.node path = .file octets ∧ textOf octets = .ok text ∧
    loader.read text = .ok document ∧ configurationIn? path document = some table

/-- Whether there is a file without a document, for a reason that loading is prepared for: it may
not be read, or its text is none. -/
def lacksDocument (loader : Loader) (path : Path) : Bool :=
  match loader.files.node path with
  | .closed => true
  | .file octets =>
    match (textOf octets).toOption.map loader.read with
    | some (.error .malformed) => true
    | _ => false
  | _ => false

variable {loader : Loader} {path : Path}

/-! ## Documents -/

/-- The document of a file is that of its text. -/
theorem documentAt_of_text {octets : List UInt8} {text : Text}
    (file : loader.files.node path = .file octets) (decoded : textOf octets = .ok text) :
    documentAt loader path = (loader.read text).mapError (.ofToml path) := by
  have given : loader.files.readText path = .ok text := by
    rw [FileSystem.readText, FileSystem.readOctets, file]
    exact congrArg (Except.mapError ReadError.encoding) decoded
  rw [documentAt, given]

/-- Octets that are no text give no document. -/
theorem documentAt_of_encoding {octets : List UInt8} {error : Text.Utf8Error}
    (file : loader.files.node path = .file octets)
    (undecodable : Text.decodeUtf8 octets = .error error) :
    documentAt loader path = .error (.undecodable error) := by
  have none_decoded : textOf octets = .error error := by
    rw [textOf, undecodable]
    rfl
  have refused : loader.files.readText path = .error (.encoding error) := by
    rw [FileSystem.readText, FileSystem.readOctets, file]
    exact congrArg (Except.mapError ReadError.encoding) none_decoded
  rw [documentAt, refused]
  rfl

/-- Where no file can be opened there is no document. -/
theorem documentAt_of_error {error : AccessError}
    (shut : (loader.files.node path).octets = .error error) :
    documentAt loader path = .error (.ofReading path (.access error)) := by
  simp only [documentAt, FileSystem.readText, FileSystem.readOctets, shut]

/-- A document is in a file that may be read. -/
theorem exists_octets_of_documentAt {document : Fields}
    (found : documentAt loader path = .ok document) :
    ∃ octets, loader.files.node path = .file octets := by
  cases read : (loader.files.node path).octets with
  | error error => cases found.symm.trans (documentAt_of_error read)
  | ok octets => exact ⟨octets, Node.octets_eq_ok_iff.mp read⟩

/-- The content of a file: nothing that loading is prepared for, nothing that it may read as a
document, or a document. -/
theorem file_cases (file : (loader.files.node path).isFile = true) :
    (Illegible loader path ∧ ∃ error, documentAt loader path = .error error ∧
        error.isForeseen = false) ∨
      (lacksDocument loader path = true ∧ ∃ error, documentAt loader path = .error error ∧
        error.isForeseen = true) ∨
        (lacksDocument loader path = false ∧ ∃ octets text document,
          loader.files.node path = .file octets ∧ textOf octets = .ok text ∧
          loader.read text = .ok document ∧ documentAt loader path = .ok document) := by
  unfold lacksDocument
  cases node : loader.files.node path with
  | absent | blocked | circular | overlong | barred | impossible | directory =>
    rw [node] at file
    cases file
  | closed =>
    have shut : (loader.files.node path).octets = .error .denied := by
      rw [node]
      rfl
    exact Or.inr (Or.inl ⟨rfl, _, documentAt_of_error shut, rfl⟩)
  | file octets =>
    cases decoded : Text.decodeUtf8 octets with
    | error error =>
      exact Or.inl ⟨.encoding node decoded, _, documentAt_of_encoding node decoded, rfl⟩
    | ok text =>
      have given : textOf octets = .ok (Text.unifyLineEnds text) := by
        rw [textOf, decoded]
        rfl
      have document := documentAt_of_text node given
      cases read : loader.read (Text.unifyLineEnds text) with
      | ok fields =>
        rw [read] at document
        refine Or.inr (Or.inr ⟨?_, octets, _, fields, rfl, given, read, document⟩)
        simp only [given, Except.toOption, Option.map_some, read]
      | error error =>
        rw [read] at document
        cases error with
        | malformed =>
          refine Or.inr (Or.inl ⟨?_, _, document, rfl⟩)
          simp only [given, Except.toOption, Option.map_some, read]
        | conflict conflict => exact Or.inl ⟨.conflict node given read, _, document, rfl⟩

/-- An illegible file has no document, for an unforeseen reason. -/
theorem Illegible.documentAt (h : Illegible loader path) :
    ∃ error, documentAt loader path = .error error ∧ error.isForeseen = false := by
  cases h with
  | encoding file undecodable => exact ⟨_, documentAt_of_encoding file undecodable, rfl⟩
  | conflict file decoded clash =>
    have document := documentAt_of_text file decoded
    rw [clash] at document
    exact ⟨_, document, rfl⟩

/-- An illegible file is a file. -/
theorem Illegible.exists_octets (h : Illegible loader path) :
    ∃ octets, loader.files.node path = .file octets := by
  cases h with
  | encoding file _ => exact ⟨_, file⟩
  | conflict file _ _ => exact ⟨_, file⟩

/-- A file with a configuration has the document that holds it. -/
theorem HoldsTable.documentAt {table : Fields} (h : HoldsTable loader path table) :
    ∃ document, documentAt loader path = .ok document ∧
      configurationIn? path document = some table := by
  obtain ⟨octets, text, document, file, decoded, read, held⟩ := h
  have found := documentAt_of_text file decoded
  rw [read] at found
  exact ⟨document, found, held⟩

/-- A configuration in a document stands in a file. -/
theorem holdsTable_of_documentAt {document table : Fields}
    (found : documentAt loader path = .ok document)
    (held : configurationIn? path document = some table) : HoldsTable loader path table := by
  obtain ⟨octets, node⟩ := exists_octets_of_documentAt found
  rcases file_cases (by rw [node]; rfl) with ⟨-, _, other, -⟩ | ⟨-, _, other, -⟩ |
    ⟨-, octets, text, fields, file, decoded, read, same⟩
  · cases found.symm.trans other
  · cases found.symm.trans other
  · cases found.symm.trans same
    exact ⟨octets, text, document, file, decoded, read, held⟩

/-! ## Candidates -/

/-- Where nothing can be told about a path, looking at it ends with an error. -/
theorem candidateAt_of_obscure {error : AccessError}
    (obscure : (loader.files.node path).obscurity? = some error) :
    candidateAt loader path = .broken (.obscure path error) := by
  simp only [candidateAt, obscure]

/-- Where there is no file there is no candidate. -/
theorem candidateAt_of_not_isFile (clear : (loader.files.node path).obscurity? = none)
    (none_there : (loader.files.node path).isFile = false) : candidateAt loader path = .absent := by
  simp only [candidateAt, clear, none_there, Bool.false_eq_true, if_false]

/-- A file is passed over if it has no document for a foreseen reason. -/
theorem candidateAt_of_error {error : Error} (file : (loader.files.node path).isFile = true)
    (h : documentAt loader path = .error error) :
    candidateAt loader path = if error.isForeseen then .skipped error else .broken error := by
  simp only [candidateAt, Node.obscurity?_of_isFile file, file, if_true, h]

/-- A file with a document has a configuration or none. -/
theorem candidateAt_of_document {document : Fields}
    (h : documentAt loader path = .ok document) :
    candidateAt loader path =
      ((configurationIn? path document).map .configured).getD .foreign := by
  obtain ⟨octets, node⟩ := exists_octets_of_documentAt h
  have file : (loader.files.node path).isFile = true := by
    rw [node]
    rfl
  simp only [candidateAt, Node.obscurity?_of_isFile file, file, if_true, h]

/-- A candidate has a configuration if its file holds one. -/
theorem table?_candidateAt_eq_some_iff {table : Fields} :
    (candidateAt loader path).table? = some table ↔ HoldsTable loader path table := by
  constructor
  · intro h
    cases found : documentAt loader path with
    | ok document =>
      rw [candidateAt_of_document found] at h
      cases held : configurationIn? path document with
      | none =>
        rw [held] at h
        cases h
      | some inside =>
        rw [held] at h
        cases h
        exact holdsTable_of_documentAt found held
    | error error =>
      have bare : (candidateAt loader path).table? = none := by
        cases told : (loader.files.node path).obscurity? with
        | some error =>
          rw [candidateAt_of_obscure told]
          rfl
        | none =>
          cases file : (loader.files.node path).isFile with
          | false =>
            rw [candidateAt_of_not_isFile told file]
            rfl
          | true =>
            rw [candidateAt_of_error file found]
            split <;> rfl
      cases bare.symm.trans h
  · intro h
    obtain ⟨document, found, held⟩ := h.documentAt
    rw [candidateAt_of_document found, held]
    rfl

/-- The files found are those with a configuration among the paths that are looked at. -/
theorem mem_foundFor_iff {start : Path} :
    path ∈ foundFor loader start ↔
      path ∈ candidatesFor loader start ∧ ∃ table, HoldsTable loader path table := by
  simp only [foundFor, foundIn, candidatesFor, candidatesIn, configuredAmong, List.mem_flatMap,
    List.mem_reverse, List.mem_filter, Option.isSome_iff_exists, table?_candidateAt_eq_some_iff]
  constructor
  · rintro ⟨directory, searched, inside, held⟩
    exact ⟨⟨directory, searched, inside⟩, held⟩
  · rintro ⟨⟨directory, searched, inside⟩, held⟩
    exact ⟨directory, searched, inside, held⟩

end Caret.Config
