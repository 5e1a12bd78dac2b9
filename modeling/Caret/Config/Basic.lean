import Caret.Files.Basic
import Caret.Log.Record
import Caret.Options.Table
import Caret.Toml.Reader

/-!
# Configuration files

Options are configured in files of their own, or in a table of the file of a project. Loading
them is logged. A file that cannot be opened or whose text is no document, and a table with a
fault, are errors of the configuration; other errors are not foreseen.
-/

namespace Caret

namespace Config

/-- The name of the file of a project. -/
def projectFile : String := "pyproject.toml"

/-- The name of the file that holds nothing but the configuration. -/
def ownFile : String := "textdiag.toml"

/-- The names of the files that are looked for in a directory; later ones come first. -/
def fileNames : List String := [projectFile, ownFile]

/-- The keys that lead to the configuration in the file of a project. -/
def toolKey : String := "tool"

/-- The key of the configuration among the tools of a project. -/
def sectionKey : String := "textdiag"

/-- The key that ends the search for files in the directories above. -/
def rootKey : String := "root"

/-- Why there is no configuration. -/
inductive Error where
  | inaccessible (path : Path) (error : AccessError)
  | malformed (path : Path)
  | options (source : String) (fault : OptionFault)
  /-- A table has a fault, and the value at fault cannot be written. -/
  | unwritable
  | undecodable (error : Text.Utf8Error)
  /-- Nothing can be told about a path, or nothing can stand there. -/
  | obscure (path : Path) (error : AccessError)
  | conflict (conflict : Toml.Conflict)

/-- What stands for the details on a text that is no document. -/
def malformedDetail : String := "<toml>"

/-- Whether an error is one of the configuration. -/
def Error.isForeseen : Error → Bool
  | inaccessible _ _ | malformed _ | options _ _ => true
  | unwritable | undecodable _ | obscure _ _ | conflict _ => false

/-- The report on an error. -/
def Error.message : Error → String
  | inaccessible path error => s!"Cannot read config file {path.text}: {error.message path}"
  | malformed path => s!"Invalid TOML in {path.text}: {malformedDetail}"
  | options source fault => fault.message source
  | unwritable => Text.unwritableText
  | undecodable error => error.message
  | obscure path error => error.message path
  | conflict (.repeatedKey key) => s!"Key \"{key}\" already exists."
  | conflict .redefinedTable => "Redefinition of an existing table"

/-- An action that is logged and may fail; what was logged before a failure stays. -/
abbrev Logged (α : Type) := ExceptT Error (StateM (List Log.Record)) α

/-- Adds a record to the log. -/
def log (level : Int) (text : String) : Logged Unit := modify (· ++ [⟨level, text⟩])

/-- The result of an action, and its log. -/
def Logged.result {α : Type} (action : Logged α) : Except Error α × List Log.Record :=
  action.run.run []

end Config

/-- The warnings about options that are put back; one that cannot be written is left out. -/
def OptionLayer.records (layer : OptionLayer) : List Log.Record :=
  (layer.warnings.filter (·.isWritable)).map fun warning ↦ ⟨Log.warning, warning.message⟩

end Caret
