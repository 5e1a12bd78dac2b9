import Caret.Text.Quoted

/-!
# Options of a command line

Options are declared with their spellings, and arguments are cut into occurrences of options and
what is no option. Short options may share a dash, and a value may follow its option directly:
behind an equals sign, or, for a short option, without anything between. Behind two dashes no
argument is an option.
-/

namespace Caret.CommandLine

open Text

/-- An option of the command line. It takes a value if there is a placeholder for one. -/
structure OptionSpec where
  long : String
  short : Option Char := none
  negation : Option String := none
  placeholder : Option String := none
  description : String
  deriving Repr

/-- Whether a value belongs to an option. -/
def OptionSpec.takesValue (spec : OptionSpec) : Bool := spec.placeholder.isSome

/-- An option as it occurs: its long spelling, and its value if it takes one. -/
structure Occurrence where
  name : String
  value : String := ""
  deriving DecidableEq, Repr

/-- What is wrong with the arguments. -/
inductive UsageFault where
  | unknownOption (name : String)
  | requiresValue (name : String)
  | takesNoValue (name : String)
  | unknownCommand (name : String)
  | missingArgument (placeholder : String)
  | extraArguments (arguments : List String)
  | invalidValue (option detail : String)
  /-- A value is taken as a path, but nothing can stand there. -/
  | impossiblePath
  deriving DecidableEq, Repr

/-- The report on a fault. -/
def UsageFault.message : UsageFault → String
  | unknownOption name => s!"No such option {quotedString name}."
  | requiresValue name => s!"Option {quotedString name} requires an argument."
  | takesNoValue name => s!"Option {quotedString name} does not take a value."
  | unknownCommand name => s!"No such command {quotedString name}."
  | missingArgument placeholder => s!"Missing argument '{placeholder}'."
  | extraArguments [argument] => s!"Got unexpected extra argument ({argument})"
  | extraArguments arguments =>
    let all := " ".intercalate arguments
    s!"Got unexpected extra arguments ({all})"
  | invalidValue option detail => s!"Invalid value for {option}: {detail}"
  | impossiblePath => "embedded null byte"

/-- Whether the usage of the command is shown in front of the report. -/
def UsageFault.showsUsage : UsageFault → Bool
  | requiresValue _ | takesNoValue _ => false
  | _ => true

/-- The arguments cut into occurrences of options and the others. -/
structure Arguments where
  occurrences : List Occurrence := []
  positionals : List String := []
  deriving DecidableEq, Repr

/-- The option of a long spelling. -/
def findLong? (specs : List OptionSpec) (name : String) : Option OptionSpec :=
  specs.find? fun spec ↦ spec.long == name || spec.negation == some name

/-- The option of a short spelling. -/
def findShort? (specs : List OptionSpec) (letter : Char) : Option OptionSpec :=
  specs.find? fun spec ↦ spec.short == some letter

/-- An option in its long spelling, with the value that is attached to it or follows it, and the
arguments behind it. -/
def readLong (spec : OptionSpec) (name : String) (attached : Option String)
    (rest : List String) : Except UsageFault (Occurrence × List String) :=
  match spec.takesValue, attached, rest with
  | true, some value, _ => .ok (⟨name, value⟩, rest)
  | true, none, value :: behind => .ok (⟨name, value⟩, behind)
  | true, none, [] => .error (.requiresValue name)
  | false, some _, _ => .error (.takesNoValue name)
  | false, none, _ => .ok (⟨name, ""⟩, rest)

/-- Options in their short spellings behind one dash; the first that takes a value takes the
letters behind it, or else the next argument. -/
def readShort (specs : List OptionSpec) :
    Text → List String → Except UsageFault (List Occurrence × List String)
  | [], rest => .ok ([], rest)
  | letter :: letters, rest =>
    match findShort? specs letter with
    | none => .error (.unknownOption (String.ofList ['-', letter]))
    | some spec =>
      if spec.takesValue then
        match letters, rest with
        | [], [] => .error (.requiresValue (String.ofList ['-', letter]))
        | [], value :: behind => .ok ([⟨spec.long, value⟩], behind)
        | value, _ => .ok ([⟨spec.long, String.ofList value⟩], rest)
      else
        (readShort specs letters rest).map fun (others, behind) ↦
          (⟨spec.long, ""⟩ :: others, behind)

/-- The options of an argument that starts with a dash. -/
def readOption (specs : List OptionSpec) (argument : Text) (rest : List String) :
    Except UsageFault (List Occurrence × List String) :=
  let name := argument.takeWhile (· ≠ '=')
  let attached :=
    if name.length < argument.length then some (String.ofList (argument.drop (name.length + 1)))
    else none
  match findLong? specs (String.ofList name) with
  | some spec =>
    (readLong spec (String.ofList name) attached rest).map fun (one, behind) ↦ ([one], behind)
  | none =>
    if "--".toList.isPrefixOf argument then .error (.unknownOption (String.ofList name))
    else readShort specs (argument.drop 1) rest

/-- Whether an argument has the form of an option. -/
def looksLikeOption (argument : Text) : Bool := argument.head? == some '-' && argument.length > 1

/-- Cuts arguments, at most `bound` of them that are options or stand between such. Unless
options may follow other arguments, the first that is none ends them. -/
def cutWithin (specs : List OptionSpec) (mixed : Bool) :
    Nat → List String → Except UsageFault Arguments
  | 0, rest => .ok { positionals := rest }
  | _, [] => .ok {}
  | bound + 1, argument :: rest =>
    if argument = "--" then .ok { positionals := rest }
    else if looksLikeOption argument.toList then do
      let (occurrences, behind) ← readOption specs argument.toList rest
      let others ← cutWithin specs mixed bound behind
      return { others with occurrences := occurrences ++ others.occurrences }
    else if mixed then do
      let others ← cutWithin specs mixed bound rest
      return { others with positionals := argument :: others.positionals }
    else .ok { positionals := argument :: rest }

/-- Cuts arguments into occurrences of options and the others. -/
def cut (specs : List OptionSpec) (mixed : Bool) (arguments : List String) :
    Except UsageFault Arguments :=
  cutWithin specs mixed arguments.length arguments

namespace Arguments

/-- Whether an option occurs. -/
def has (arguments : Arguments) (name : String) : Bool :=
  arguments.occurrences.any (·.name == name)

/-- How often an option occurs. -/
def count (arguments : Arguments) (name : String) : Nat :=
  (arguments.occurrences.filter (·.name == name)).length

/-- The values of an option, in their order. -/
def values (arguments : Arguments) (name : String) : List String :=
  (arguments.occurrences.filter (·.name == name)).map (·.value)

/-- The last value of an option. -/
def value? (arguments : Arguments) (name : String) : Option String :=
  (arguments.values name).getLast?

/-- The options that occur, each at its first place. -/
def names (arguments : Arguments) : List String :=
  (arguments.occurrences.map (·.name)).eraseDups

end Arguments

end Caret.CommandLine
