import Caret.Text.Basic

/-!
# Terminal styles

A style is a sequence of select-graphic-rendition codes written in front of a text; a reset
follows the text, also when it is empty.
-/

namespace Caret.Text

/-- The colors of a terminal; a background code is ten above its foreground code. -/
inductive Color where
  | black | red | green | yellow | blue | magenta | cyan | white | reset
  | brightBlack | brightRed | brightGreen | brightYellow
  | brightBlue | brightMagenta | brightCyan | brightWhite
  deriving DecidableEq, Repr

namespace Color

/-- The foreground code of a color. -/
def code : Color → Nat
  | black => 30
  | red => 31
  | green => 32
  | yellow => 33
  | blue => 34
  | magenta => 35
  | cyan => 36
  | white => 37
  | reset => 39
  | brightBlack => 90
  | brightRed => 91
  | brightGreen => 92
  | brightYellow => 93
  | brightBlue => 94
  | brightMagenta => 95
  | brightCyan => 96
  | brightWhite => 97

/-- The name of a color. -/
def name : Color → String
  | black => "black"
  | red => "red"
  | green => "green"
  | yellow => "yellow"
  | blue => "blue"
  | magenta => "magenta"
  | cyan => "cyan"
  | white => "white"
  | reset => "reset"
  | brightBlack => "bright_black"
  | brightRed => "bright_red"
  | brightGreen => "bright_green"
  | brightYellow => "bright_yellow"
  | brightBlue => "bright_blue"
  | brightMagenta => "bright_magenta"
  | brightCyan => "bright_cyan"
  | brightWhite => "bright_white"

/-- All colors, in the order of their codes. -/
def all : List Color :=
  [black, red, green, yellow, blue, magenta, cyan, white, reset, brightBlack, brightRed,
   brightGreen, brightYellow, brightBlue, brightMagenta, brightCyan, brightWhite]

/-- The color with a name. -/
def ofName? (name : String) : Option Color := all.find? fun color ↦ color.name == name

/-- Every color is found by its name. -/
theorem ofName?_name (color : Color) : ofName? color.name = some color := by
  cases color <;> decide

end Color

/-- What a style sets; an attribute that is not set is left alone, one set to false is
switched off. -/
structure Style where
  foreground : Option Color := none
  background : Option Color := none
  bold : Option Bool := none
  dim : Option Bool := none
  underline : Option Bool := none
  reverse : Option Bool := none
  deriving DecidableEq, Repr

/-- The escape that starts every terminal sequence. -/
def escapeChar : Char := '\x1b'

/-- The sequence that selects a rendition. -/
def sgr (code : Nat) : Text := escapeChar :: '[' :: (toString code).toList ++ ['m']

/-- The sequences in front of styled text: colors first, then the attributes. -/
def Style.opening (style : Style) : Text :=
  let color (shift : Nat) : Option Color → Text
    | some color => sgr (color.code + shift)
    | none => []
  let flag (on off : Nat) : Option Bool → Text
    | some true => sgr on
    | some false => sgr off
    | none => []
  color 0 style.foreground ++ color 10 style.background ++ flag 1 22 style.bold ++
    flag 2 22 style.dim ++ flag 4 24 style.underline ++ flag 7 27 style.reverse

/-- A text in a style, with the reset behind it. -/
def Style.apply (style : Style) (text : Text) : Text := style.opening ++ text ++ sgr 0

/-- A text in a style if colors are shown, and as it is otherwise. -/
def Style.applyIf (style : Style) (colors : Bool) (text : Text) : Text :=
  if colors then style.apply text else text

/-- Without colors a style changes nothing. -/
@[simp] theorem Style.applyIf_false (style : Style) (text : Text) :
    style.applyIf false text = text := rfl

/-- Whether a code point may be a parameter of a terminal sequence: digits, separators and marks
of private use. -/
def isParameter (c : Char) : Bool := '0' ≤ c && c ≤ '?'

/-- Whether a code point may stand between the parameters of a terminal sequence and its end:
the blank and the punctuation in front of the digits. -/
def isIntermediate (c : Char) : Bool := ' ' ≤ c && c ≤ '/'

/-- Whether a code point ends a terminal sequence. -/
def isFinal (c : Char) : Bool := '@' ≤ c && c ≤ '~'

/-- What follows a terminal sequence, for a text that stands behind its opening bracket: its
parameters, what stands between, and one code point that ends it. -/
def afterSequence? (text : Text) : Option { rest : Text // rest.length < text.length } :=
  match h : (text.dropWhile isParameter).dropWhile isIntermediate with
  | [] => none
  | c :: rest =>
    if isFinal c then
      some ⟨rest, by
        have inner := (List.dropWhile_suffix (l := text.dropWhile isParameter)
          isIntermediate).length_le
        have outer := (List.dropWhile_suffix (l := text) isParameter).length_le
        rw [h, List.length_cons] at inner
        omega⟩
    else none

/-- A text without its terminal sequences. -/
def stripStyles (text : Text) : Text :=
  match text with
  | [] => []
  | [c] => [c]
  | c :: d :: rest =>
    if c = escapeChar ∧ d = '[' then
      match afterSequence? rest with
      | some ⟨behind, shorter⟩ => have := shorter; stripStyles behind
      | none => c :: stripStyles (d :: rest)
    else c :: stripStyles (d :: rest)
termination_by text.length
decreasing_by
  all_goals simp only [List.length_cons]
  all_goals omega

end Caret.Text
