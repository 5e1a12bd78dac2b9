import Caret.CommandLine.Run

/-!
# The executable

The arguments, the environment, the standard input and all files that a run may ask for are
gathered first. The run itself is a function of them, and its outcome is written in the end.
-/

namespace Caret.Executable

open CommandLine

/-- What stands at a path. -/
def probe (path : Path) : IO Node := do
  try
    let octets ← IO.FS.readBinFile path.text
    return .file octets.toList
  catch error =>
    match error with
    | .inappropriateType _ code _ => return if code = 21 then .directory else .blocked
    | .invalidArgument _ code _ => return if code = 40 then .circular else .overlong
    | .permissionDenied _ _ _ =>
      -- The way to a file that may not be read can be followed to its end.
      try discard (IO.FS.realPath path.text); return .closed
      catch _ => return .barred
    | _ => return .absent

/-- The paths that an argument may stand for: the whole of it, what follows an equals sign, and
what follows a short option. -/
def pathsIn (argument : String) : List Path :=
  let text := argument.toList
  [text, (text.dropWhile (· ≠ '=')).drop 1, text.drop 2].map fun t ↦ Path.ofString (String.ofList t)

/-- The files that a run with some arguments may ask for. -/
def gather (workingDirectory : Path) (arguments : List String) : IO FileSystem := do
  let candidates := workingDirectory.lineage.flatMap (Config.fileNames.map ·.child)
  let paths := candidates ++ arguments.flatMap pathsIn
  let nodes ← paths.mapM fun path ↦ do return (path, ← probe path)
  return {
    workingDirectory
    node := fun path ↦
      if path = workingDirectory then .directory else (nodes.lookup path).getD .absent }

/-- Reads a stream to its end. -/
partial def readAll (stream : IO.FS.Stream) (read : ByteArray) : IO ByteArray := do
  let chunk ← stream.read 65536
  if chunk.isEmpty then return read else readAll stream (read ++ chunk)

/-- The standard input, if an argument asks for it. -/
def readInput (arguments : List String) : IO Text := do
  if arguments.contains Session.inputName then
    let octets ← readAll (← IO.getStdin) ByteArray.empty
    match Text.decodeUtf8 octets.toList with
    | .ok text => return text
    | .error error => throw (IO.userError error.message)
  else return []

/-- The report on a run that ended without one. -/
def crashText : Crash → String
  | .level error => error.message
  | .config error => error.message
  | .batch error => error.message
  | .impossiblePath => AccessError.embeddedNull.text
  | .unwritable => Text.unwritableText

end Caret.Executable

open Caret Caret.Executable in
/-- Runs the program. -/
def main (arguments : List String) : IO UInt32 := do
  let workingDirectory := Path.ofString (← IO.currentDir).toString
  let environment : Environment :=
    { forceColor := ← IO.getEnv "FORCE_COLOR"
      noColor := ← IO.getEnv "NO_COLOR"
      logLevel := ← IO.getEnv "TEXTDIAG_LOG_LEVEL" }
  let invocation : CommandLine.Invocation :=
    { arguments
      environment
      input := ← readInput arguments
      terminal := ← (← IO.getStdout).isTty }
  let outcome := CommandLine.run (← gather workingDirectory arguments) invocation
  (← IO.getStdout).putStr (String.ofList outcome.output)
  (← IO.getStderr).putStr (String.ofList outcome.errors)
  match outcome.crash with
  | some crash => (← IO.getStderr).putStrLn (crashText crash)
  | none => pure ()
  return UInt32.ofNat outcome.exit.code
