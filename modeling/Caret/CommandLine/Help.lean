import Caret.CommandLine.Option

/-!
# Help texts

The help on a command is laid out from its declaration: the usage, a description, and a table of
its options in two columns, with the descriptions filled into the second one.
-/

namespace Caret.CommandLine

open Text

/-- The name under which the program is called. -/
def programName : String := "cli"

/-- The number of columns of help texts. -/
def helpWidth : Nat := 80

/-- The greatest width of the first column of a table. -/
def maxFirstColumn : Nat := 30

/-- The number of blanks in front of the rows of a table, and between its columns. -/
def helpSpacing : Nat := 2

/-- Fills words into lines: a word goes on the line if it fits there, behind `line`. -/
def fillWords (width : Nat) (line : Text) : List Text → List Text
  | [] => if line = [] then [] else [line]
  | word :: rest =>
    if line = [] then fillWords width word rest
    else if line.length + 1 + word.length ≤ width then fillWords width (line ++ ' ' :: word) rest
    else line :: fillWords width word rest

/-- A text filled into lines. -/
def fill (width : Nat) (text : String) : List Text :=
  fillWords width [] ((splitAt ' ' text.toList).filter (· ≠ []))

/-- The lines of a table of terms and descriptions. A term that is too wide for the first column
has a line of its own. -/
def tableLines (rows : List (String × String)) : List Text :=
  let first := min ((rows.map (·.1.length)).foldl max 0) maxFirstColumn
  let indentation := blanks (helpSpacing + first + helpSpacing)
  rows.flatMap fun (term, description) ↦
    let lines := fill (helpWidth - (2 * helpSpacing + first)) description
    let start := blanks helpSpacing ++ term.toList
    if term.length ≤ first then
      (start ++ blanks ((first : Int) - term.length + helpSpacing) ++ lines.headD []) ::
        lines.tail.map (indentation ++ ·)
    else start :: lines.map (indentation ++ ·)

/-- The spellings of an option as they stand in the table. -/
def OptionSpec.term (spec : OptionSpec) : String :=
  let short := match spec.short with
    | some letter => String.ofList ['-', letter, ',', ' ']
    | none => ""
  let negation := match spec.negation with
    | some name => " / " ++ name
    | none => ""
  let placeholder := match spec.placeholder with
    | some text => " " ++ text
    | none => ""
  short ++ spec.long ++ negation ++ placeholder

/-- The option that asks for help. -/
def helpOption : OptionSpec :=
  { long := "--help", short := some 'h', description := "Show this message and exit." }

/-- What the help on a command, or on the program, is made of. -/
structure HelpPage where
  usage : String
  description : String
  options : List OptionSpec
  commands : List (String × String) := []
  closing : Option String := none

namespace HelpPage

/-- The line that shows how a command is used. -/
def usageLine (page : HelpPage) : Text := ("Usage: " ++ page.usage).toList

/-- A paragraph behind an empty line. -/
def paragraph (text : String) : List Text := [[], blanks helpSpacing ++ text.toList]

/-- A section with a table; none if the table is empty. -/
def helpSection (title : String) (rows : List (String × String)) : List Text :=
  if rows = [] then [] else [] :: title.toList :: tableLines rows

/-- The lines of a page. -/
def lines (page : HelpPage) : List Text :=
  page.usageLine :: paragraph page.description ++
    helpSection "Options:" (page.options.map fun spec ↦ (spec.term, spec.description)) ++
    helpSection "Commands:" page.commands ++
    (page.closing.map paragraph).getD []

/-- A page as text. -/
def text (page : HelpPage) : Text := page.lines.flatMap (· ++ ['\n'])

end HelpPage

end Caret.CommandLine
