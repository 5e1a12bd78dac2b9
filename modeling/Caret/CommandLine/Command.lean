import Caret.CommandLine.Help
import Caret.Console.Basic
import Caret.Files.Basic
import Caret.Options.Basic
import Caret.Text.Numeral

/-!
# Commands

The program has options of its own and three commands with theirs. The arguments of each are
read to a request; a request for help goes before all that is wrong with values.
-/

namespace Caret.CommandLine

open Text

/-! ## Declarations -/

/-- The options of the program. -/
def programOptions : List OptionSpec :=
  [{ long := "--quiet", short := some 'q', description := "Suppress informational output." },
   { long := "--verbose", short := some 'v'
     description := "Increase verbosity. Specify up to three times for more detail." },
   { long := "--no-color"
     description := "Disable color output (equivalent to --color=never)." },
   { long := "--color"
     placeholder := some ("[" ++ "|".intercalate (ColorMode.all.map (·.name)) ++ "]")
     description := "Color output: auto (default), always, or never." },
   helpOption]

/-- The options that say where the configuration comes from. -/
def configOptions : List OptionSpec :=
  [{ long := "--no-config"
     description := "Do not discover textdiag.toml / pyproject.toml config files." },
   { long := "--config", short := some 'c', placeholder := some "FILE"
     description := "Additional TOML config file(s) merged after discovered config." }]

/-- The options that override the configuration. -/
def overrideOptions : List OptionSpec :=
  [{ long := "--column", negation := some "--no-column"
     description := "Include the column in the location prefix." },
   { long := "--line-numbers", negation := some "--no-line-numbers"
     description := "Show the line-number gutter in front of snippets." },
   { long := "--show-source-ranges", negation := some "--no-show-source-ranges"
     description := "Append \x7bline:col-line:col\x7d range info to the location prefix." },
   { long := "--fixits", negation := some "--no-fixits"
     description := "Show fix-it insertion lines and removal/replacement notes." },
   { long := "--carets", negation := some "--no-carets"
     description := "Show source snippets with caret lines." },
   { long := "--diagnostics-format", placeholder := some "DIAGNOSTICFORMAT"
     description := s!"Location prefix style ({LocationFormat.choices})." },
   { long := "--parseable-fixits", negation := some "--no-parseable-fixits"
     description := "Also print machine-readable fix-it lines." },
   { long := "--macro-backtrace-limit", placeholder := some "INTEGER"
     description := "Maximum number of macro expansion notes (0 = unlimited)." },
   { long := "--tabstop", placeholder := some "INTEGER"
     description := "Tab stop width used to expand tabs in snippets (1..100)." },
   { long := "--wrap", placeholder := some "INTEGER"
     description := "Wrap messages and trim snippets to this many columns (0 disables)." }]

/-- The options of commands that render. -/
def renderingOptions : List OptionSpec := configOptions ++ overrideOptions ++ [helpOption]

/-- The options of the command that tells the version. -/
def versionOptions : List OptionSpec :=
  [{ long := "--json", description := "Print the version as a JSON object." }, helpOption]

/-- The commands. -/
inductive Command where
  | dumpConfig
  | render
  | version
  deriving DecidableEq, Repr

namespace Command

/-- All commands, in the order of their names. -/
def all : List Command := [dumpConfig, render, version]

/-- The name of a command. -/
def name : Command → String
  | dumpConfig => "dump-config"
  | render => "render"
  | version => "version"

/-- The command of a name. -/
def ofName? (name : String) : Option Command := all.find? fun command ↦ command.name == name

/-- What a command does. -/
def description : Command → String
  | dumpConfig => "Dump the effective TextDiag rendering options as TOML."
  | render => "Render the diagnostics of a JSON batch file ('-' reads STDIN)."
  | version => "Show the current version of TextDiag."

/-- The options of a command. -/
def options : Command → List OptionSpec
  | version => versionOptions
  | _ => renderingOptions

/-- The placeholder of the argument of a command. -/
def placeholder? : Command → Option String
  | render => some "BATCH"
  | _ => none

/-- The program and the command, as they are called. -/
def path (command : Command) : String := programName ++ " " ++ command.name

/-- The help on a command. -/
def helpPage (command : Command) : HelpPage where
  usage := " ".intercalate ([command.path, "[OPTIONS]"] ++ command.placeholder?.toList)
  description := command.description
  options := command.options
  closing :=
    if command = dumpConfig then
      some "Output is wrapped between '# === BEGIN ===' and '# === END ===' markers."
    else none

/-- Every command is found by its name. -/
theorem ofName?_name (command : Command) : ofName? command.name = some command := by
  cases command <;> decide

end Command

/-- The help on the program. -/
def programHelp : HelpPage where
  usage := programName ++ " [OPTIONS] [COMMAND] [ARGS]..."
  description := "TextDiag: render compiler-style diagnostics as text."
  options := programOptions
  commands := Command.all.map fun command ↦ (command.name, command.description)

/-! ## Requests -/

/-- What the options of the program ask for. -/
structure ProgramRequest where
  verbose : Nat
  quiet : Nat
  color : Option ColorMode
  deriving DecidableEq, Repr

/-- What the options of a command that renders ask for. -/
structure RenderingRequest where
  discovers : Bool
  configFiles : List String
  overrides : OptionLayer
  deriving DecidableEq, Repr

/-- What a command is asked for. -/
inductive Request where
  | dumpConfig (rendering : RenderingRequest)
  | render (batch : String) (rendering : RenderingRequest)
  | version (asJson : Bool)
  deriving DecidableEq, Repr

/-- The mode of a value of the color option. -/
def readColorMode (value : String) : Except UsageFault ColorMode :=
  match ColorMode.ofName? value with
  | some mode => .ok mode
  | none =>
    let choices := ", ".intercalate (ColorMode.all.map fun mode ↦ quotedString mode.name)
    .error (.invalidValue "'--color'" s!"{quotedString value} is not one of {choices}.")

/-- What the program is asked for, or nothing if it is asked for help, and the arguments from the
command on. -/
def readProgram (arguments : List String) :
    Except UsageFault (Option ProgramRequest × List String) := do
  let cut ← cut programOptions false arguments
  if cut.has helpOption.long then return (none, cut.positionals)
  else
    let mode ← match cut.value? "--color" with
      | some value => (readColorMode value).map some
      | none => pure none
    return (some
      { verbose := cut.count "--verbose"
        quiet := cut.count "--quiet"
        color := if cut.has "--no-color" then some .never else mode }, cut.positionals)

/-- The layers of the options that are switched on or off. -/
def switches : List (String × OptionLayer) :=
  [("--column", { showColumn := some true }), ("--no-column", { showColumn := some false }),
   ("--line-numbers", { showLineNumbers := some true }),
   ("--no-line-numbers", { showLineNumbers := some false }),
   ("--show-source-ranges", { showSourceRanges := some true }),
   ("--no-show-source-ranges", { showSourceRanges := some false }),
   ("--fixits", { showFixits := some true }), ("--no-fixits", { showFixits := some false }),
   ("--carets", { showCarets := some true }), ("--no-carets", { showCarets := some false }),
   ("--parseable-fixits", { parseableFixits := some true }),
   ("--no-parseable-fixits", { parseableFixits := some false })]

/-- The integer of a value. -/
def readIntegerValue (name value : String) : Except UsageFault Int :=
  match readInteger .decimal value.toList with
  | .ok n => .ok n
  | .error _ =>
    .error (.invalidValue (quotedString name) s!"{quotedString value} is not a valid integer.")

/-- The form of locations of a value; the case of letters does not matter. -/
def readFormatValue (name value : String) : Except UsageFault LocationFormat :=
  match LocationFormat.ofName? (lowerString value) with
  | some format => .ok format
  | none =>
    .error (.invalidValue (quotedString name)
      s!"Invalid value '{value}'. Must be one of: {LocationFormat.choices}")

/-- The layer that an option with a value sets; other options set none. -/
def readOverride (name value : String) : Except UsageFault OptionLayer :=
  if name = "--wrap" then
    (readIntegerValue name value).map fun n ↦ { wrapColumn := some n }
  else if name = "--tabstop" then
    (readIntegerValue name value).map fun n ↦ { tabStop := some n }
  else if name = "--macro-backtrace-limit" then
    (readIntegerValue name value).map fun n ↦ { macroBacktraceLimit := some n }
  else if name = "--diagnostics-format" then
    (readFormatValue name value).map fun format ↦ { format := some format }
  else .ok OptionLayer.empty

/-- Refuses a directory among the files of the configuration, and a file that may not be read. The
file system is asked with the text as it is given, dots and slashes included: it does not know an
empty one, not one that is too long, and no file behind which a slash stands. -/
def checkConfigFile (files : FileSystem) (value : String) : Except UsageFault Unit :=
  match files.node (Path.ofString value) with
  | .directory =>
    if value = "" ∨ isOverlongText value then .ok ()
    else .error (.invalidValue "'--config' / '-c'" s!"File {quotedString value} is a directory.")
  | .closed =>
    if isOverlongText value ∨ value.endsWith "/" ∨ value.endsWith "/." then .ok ()
    else .error (.invalidValue "'--config' / '-c'" s!"File {quotedString value} is not readable.")
  | .impossible => .error .impossiblePath
  | _ => .ok ()

/-- What the occurrences of options ask for. The values are read in the order in which the
options first occur, and of each option only the last value counts. -/
def readRendering (files : FileSystem) (arguments : Arguments) :
    Except UsageFault RenderingRequest := do
  let configFiles := arguments.values "--config"
  let valued ← arguments.names.foldlM (fun (layer : OptionLayer) name ↦ do
    if name = "--config" then configFiles.forM (checkConfigFile files)
    return layer.merge (← readOverride name ((arguments.value? name).getD ""))) OptionLayer.empty
  let switched := arguments.occurrences.foldl (fun (layer : OptionLayer) occurrence ↦
    layer.merge ((switches.lookup occurrence.name).getD OptionLayer.empty)) OptionLayer.empty
  return {
    discovers := !arguments.has "--no-config"
    configFiles
    overrides := valued.merge switched }

/-- Refuses arguments that no one asked for. -/
def refuseExtra (arguments : List String) : Except UsageFault Unit :=
  if arguments = [] then .ok () else .error (.extraArguments arguments)

/-- What a command is asked for; nothing if it is asked for help. -/
def readCommand (files : FileSystem) (command : Command) (arguments : List String) :
    Except UsageFault (Option Request) := do
  let cut ← cut command.options true arguments
  if cut.has helpOption.long then return none
  else
    match command with
    | .version =>
      refuseExtra cut.positionals
      return some (.version (cut.has "--json"))
    | .dumpConfig =>
      let rendering ← readRendering files cut
      refuseExtra cut.positionals
      return some (.dumpConfig rendering)
    | .render =>
      let rendering ← readRendering files cut
      match cut.positionals with
      | [] => throw (.missingArgument "BATCH")
      | batch :: extra =>
        refuseExtra extra
        return some (.render batch rendering)

end Caret.CommandLine
