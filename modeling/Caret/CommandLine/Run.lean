import Caret.Batch.Load
import Caret.CommandLine.Command
import Caret.Config.Load
import Caret.Report.Emit

/-!
# Running the program

A run of the program takes its arguments, the environment, the files and the standard input, and
ends with an exit code and what was written. What is written to each output keeps its order; log
records below the threshold are not written.
-/

namespace Caret.CommandLine

open Text

/-- The version of the program. -/
def versionNumber : String := "0.1.0"

/-- How the program ends. -/
inductive Exit where
  | success
  | usage
  | contradiction
  | badInput
  | noInput
  | inputOutput
  | badConfig
  | failure
  deriving DecidableEq, Repr

/-- The exit code of an end. -/
def Exit.code : Exit → Nat
  | success => 0
  | failure => 1
  | usage => 2
  | contradiction => 64
  | badInput => 65
  | noInput => 66
  | inputOutput => 74
  | badConfig => 78

/-- What ends the program without a report. -/
inductive Crash where
  | level (error : Log.LevelError)
  | config (error : Config.Error)
  | batch (error : Batch.Error)
  /-- A path holds the null character. -/
  | impossiblePath
  /-- What is to be written holds an integer of too many digits. -/
  | unwritable

/-- What a run leaves behind. The threshold of the log is known once the options of the program
are read. -/
structure Outcome where
  exit : Exit := .success
  output : Text := []
  errors : Text := []
  threshold : Option Int := none
  crash : Option Crash := none

/-- What a run depends on besides the files. -/
structure Invocation where
  arguments : List String
  environment : Environment := {}
  input : Text := []
  terminal : Bool := false

/-- What the options of the program decide for the commands. -/
structure Session where
  files : FileSystem
  input : Text
  console : Console
  chosenColors : Bool
  verbosity : Int
  threshold : Int

/-- The outcome of a report on what went wrong, behind some log lines. -/
def failWith (console : Console) (threshold : Option Int) (logged : Text) (exit : Exit)
    (message : String) : Outcome where
  exit := exit
  errors := logged ++ endLine (console.plain ("Error: " ++ message).toList)
  threshold := threshold

/-- The outcome of wrong usage: the usage, a pointer to the help, and the report. -/
def failUsage (console : Console) (threshold : Option Int) (page : HelpPage) (path : String)
    (fault : UsageFault) : Outcome :=
  let pointer :=
    if fault.showsUsage then
      endLines [page.usageLine, s!"Try '{path} {helpOption.long}' for help.".toList, []]
    else []
  failWith console threshold pointer .usage fault.message

namespace Session

variable (session : Session)

/-- The log lines that are written. -/
def logLines (records : List Log.Record) : Text :=
  endLines ((Log.shown session.threshold records).map (·.line))

/-- The outcome of a run that ends well. -/
def succeed (output errors : Text) : Outcome where
  output := output
  errors := errors
  threshold := session.threshold

/-- The outcome of a report on what went wrong. -/
def fail (records : List Log.Record) (exit : Exit) (message : String) : Outcome :=
  failWith session.console session.threshold (session.logLines records) exit message

/-- The outcome of a run that ends without a report, behind what was written before. -/
def stop (records : List Log.Record) (crash : Crash) (output : Text := []) : Outcome where
  exit := .failure
  output := output
  errors := session.logLines records
  threshold := session.threshold
  crash := crash

/-- Lines of the console as a text. -/
def print (lines : List Text) : Text := endLines (lines.map session.console.plain)

/-! ## The version -/

/-- Tells the version. -/
def runVersion (asJson : Bool) : Outcome :=
  let console := session.console
  let number := console.decorate { bold := some true } versionNumber.toList
  let lines :=
    if asJson then ["\x7b\"version\": \"".toList ++ versionNumber.toList ++ "\"\x7d".toList]
    else if session.verbosity ≤ Log.info then
      [console.decorate { bold := some true, underline := some true } "TextDiag version:".toList,
       blanks 4 ++ number]
    else [number]
  session.succeed (session.print lines) []

/-! ## Options -/

/-- The options for a request, and the log of loading them. Colors chosen on the command line
override the configuration; without any choice the console decides. -/
def loadOptions (request : RenderingRequest) : Except Config.Error Options × List Log.Record :=
  let overrides : OptionLayer :=
    if session.chosenColors then
      { request.overrides with showColors := some session.console.colors }
    else request.overrides
  let start := if request.discovers then some session.files.workingDirectory else none
  let (result, records) := (Config.loadMerged session.files start
    (request.configFiles.map Path.ofString) overrides).result
  match result with
  | .error error => (.error error, records)
  | .ok merged =>
    let complete : OptionLayer :=
      { merged with showColors := merged.showColors <|> some session.console.colors }
    (.ok complete.freeze, records ++ complete.records)

/-- Runs with the options for a request, unless there are none. -/
def withOptions (request : RenderingRequest) (next : Options → List Log.Record → Outcome) :
    Outcome :=
  match session.loadOptions request with
  | (.ok options, records) => next options records
  | (.error error, records) =>
    if error.isForeseen then session.fail records .badConfig error.message
    else session.stop records (.config error)

/-- Writes the options as a configuration file, between two marks. -/
def runDumpConfig (request : RenderingRequest) : Outcome :=
  session.withOptions request fun options records ↦
    let opening := session.print ["# === BEGIN ===".toList]
    match options.document.text? with
    | some text =>
      let document := (text.reverse.dropWhile (· = '\n')).reverse
      session.succeed (opening ++ session.print [document, "# === END ===".toList])
        (session.logLines records)
    | none => session.stop records .unwritable opening

/-! ## Rendering -/

/-- The name that stands for the standard input. -/
def inputName : String := "-"

/-- The text of a batch: from the standard input or from a file. -/
def batchText (name : String) : Except ReadError Text :=
  if name = inputName then .ok (unifyLineEnds session.input)
  else session.files.readText (Path.ofString name)

/-- The outcome for a batch whose text cannot be read. -/
def failInput (records : List Log.Record) (name : String) : ReadError → Outcome
  | .access .notFound => session.fail records .noInput s!"No such file: {name}"
  | .access .embeddedNull => session.stop records .impossiblePath
  | error =>
    session.fail records .inputOutput s!"Cannot read {name}: {error.message (Path.ofString name)}"

/-- The log records of events. -/
def eventRecords (events : List Event) : List Log.Record :=
  (warningsOf events).map fun warning ↦ ⟨Log.warning, warning.message⟩

/-- Renders a batch that was loaded from `name`, behind the log so far. -/
def renderBatch (name : String) (options : Options) (records : List Log.Record) (batch : Batch) :
    Outcome :=
  let events := (Renderer.mk batch.map options).emitAll {} batch.diagnostics
  let taken := accepted none events
  let output := endLines (linesOf taken)
  let records := records ++ eventRecords taken
  let told : Log.Record :=
    ⟨Log.info, s!"Rendered {batch.diagnostics.length} diagnostic(s) from {name}"⟩
  let summary := match summaryText? (batch.diagnostics.map (·.severity)) with
    | some text =>
      if session.verbosity ≤ Log.info then
        endLine (session.console.styled Console.warningStyle text.toList)
      else []
    | none => []
  if events.contains .unwritable then session.stop records .unwritable output
  else session.succeed output (session.logLines (records ++ [told]) ++ summary)

/-- Renders the diagnostics of a batch. -/
def runRender (name : String) (request : RenderingRequest) : Outcome :=
  session.withOptions request fun options records ↦
    match session.batchText name with
    | .error error => session.failInput records name error
    | .ok text =>
      let (loaded, missing) := Batch.ofText text
      let records := records ++ missing.map fun warning ↦ ⟨Log.warning, warning.message⟩
      match loaded with
      | .ok batch => session.renderBatch name options records batch
      | .error error =>
        if error.blamesDocument then session.fail records .badInput s!"{name}: {error.message}"
        else session.stop records (.batch error)

/-! ## Commands -/

/-- Runs a command with its arguments. -/
def runCommand (command : Command) (arguments : List String) : Outcome :=
  match readCommand session.files command arguments with
  | .error .impossiblePath => session.stop [] .impossiblePath
  | .error fault =>
    failUsage session.console session.threshold command.helpPage command.path fault
  | .ok none => session.succeed (session.console.plain command.helpPage.text) []
  | .ok (some (.version asJson)) => session.runVersion asJson
  | .ok (some (.dumpConfig rendering)) => session.runDumpConfig rendering
  | .ok (some (.render batch rendering)) => session.runRender batch rendering

/-- Points to the help, where no command is given. -/
def runHint : Outcome :=
  session.succeed
    (session.print ["Hint: use 'textdiag render BATCH.json' to render diagnostics.".toList, []] ++
      session.console.plain programHelp.text) []

end Session

/-! ## The program -/

/-- The console before colors are decided. -/
def earlyConsole : Console := ⟨false⟩

/-- The outcome of wrong usage of the program itself. -/
def failProgram (fault : UsageFault) : Outcome :=
  failUsage earlyConsole none programHelp programName fault

/-- The outcome of asking for help on the program. -/
def showProgramHelp : Outcome := { output := programHelp.text }

/-- The command that the first argument names: none if there is no argument. Arguments that start
with no command are read once more as options of the program, whose faults go first. -/
def findCommand (arguments : List String) : Except Outcome (Option Command) :=
  match arguments with
  | [] => .ok none
  | name :: _ =>
    match Command.ofName? name with
    | some command => .ok (some command)
    | none =>
      match readProgram arguments with
      | .error fault => .error (failProgram fault)
      | .ok (none, _) => .error showProgramHelp
      | .ok (some _, _) => .error (failProgram (.unknownCommand name))

/-- Decides what the commands need to know. -/
def openSession (files : FileSystem) (invocation : Invocation) (request : ProgramRequest) :
    Except Outcome Session :=
  match verbosity request.verbose request.quiet with
  | .error error => .error (failWith earlyConsole none [] .contradiction error.message)
  | .ok level =>
    match invocation.environment.level with
    | .error error => .error { exit := .failure, crash := some (.level error) }
    | .ok fromEnvironment =>
      .ok
        { files
          input := invocation.input
          console := ⟨showsColors request.color invocation.environment invocation.terminal⟩
          chosenColors := request.color.isSome
          verbosity := level
          threshold := fromEnvironment.getD level }

/-- Runs the program. -/
def run (files : FileSystem) (invocation : Invocation) : Outcome :=
  match readProgram invocation.arguments with
  | .error fault => failProgram fault
  | .ok (none, _) => showProgramHelp
  | .ok (some request, rest) =>
    match findCommand rest with
    | .error outcome => outcome
    | .ok command =>
      match openSession files invocation request with
      | .error outcome => outcome
      | .ok session =>
        match command with
        | none => session.runHint
        | some command => session.runCommand command rest.tail

end Caret.CommandLine
