import Caret.Text.Blank
import Caret.Text.Columns

/-!
# Word wrapping

A message is filled greedily: each word goes behind the word before it if it fits, and to a
new line otherwise. New lines start at an indentation; a word too wide to fit behind it is
pulled left just enough to fit, and a word wider than the line starts it. A quoted or bracketed
passage counts as one word if it fits, or if it is short against the line.

The result is a list of placed words; the text is read off it.
-/

namespace Caret.Text

/-- The indentation of continuation lines when a message starts behind the last column. -/
def fallbackIndentation : Int := 6

/-- What closes a passage opened by a quote or bracket. -/
def closerOf : Char → Option Char
  | '\'' => some '\''
  | '\x60' => some '\''
  | '"' => some '"'
  | '(' => some ')'
  | '[' => some ']'
  | '\x7b' => some '\x7d'
  | _ => none

/-- The number of code points up to the one that closes the last of the `pending` passages;
the whole text if one of them stays open. -/
def passageLength : Text → Text → Nat
  | [], _ => 0
  | _, [] => 0
  | closer :: outer, c :: rest =>
    1 + if c = closer then passageLength outer rest
      else match closerOf c with
        | some inner => passageLength (inner :: closer :: outer) rest
        | none => passageLength (closer :: outer) rest

/-- The number of code points before the first white space. -/
def solidLength (text : Text) : Nat := (text.takeWhile fun c ↦ !isBlank c).length

/-- The length of the word at the start of a text that stands at `column`. A word that opens a
passage extends to its end, and on to the next white space, if all of that fits the line or is
shorter than a third of it; otherwise the search goes on one code point later. -/
def wordLength (columns : Int) : Text → Int → Nat
  | [], _ => 0
  | [_], _ => 1
  | c :: rest, column =>
    match closerOf c with
    | none => 1 + solidLength rest
    | some closer =>
      let passage := passageLength [closer] rest
      let length := 1 + passage + solidLength (rest.drop passage)
      if column + length ≤ columns ∨ length < columns.fdiv 3 then length
      else 1 + wordLength columns rest (column + 1)

/-- A solid run is no longer than the text. -/
theorem solidLength_le (text : Text) : solidLength text ≤ text.length :=
  (List.takeWhile_prefix _).length_le

/-- A passage ends in the text. -/
theorem passageLength_le (pending text : Text) : passageLength pending text ≤ text.length := by
  induction text generalizing pending with
  | nil => cases pending <;> exact Nat.le_refl 0
  | cons c rest ih =>
    cases pending with
    | nil => exact Nat.zero_le _
    | cons closer outer =>
      rw [passageLength, List.length_cons]
      split
      · have := ih outer
        omega
      · split
        · next inner _ =>
          have := ih (inner :: closer :: outer)
          omega
        · have := ih (closer :: outer)
          omega

/-- A word has at least one code point. -/
theorem wordLength_pos (columns : Int) {text : Text} (h : text ≠ []) (column : Int) :
    0 < wordLength columns text column := by
  match text with
  | [] => exact absurd rfl h
  | [_] => exact Nat.one_pos
  | c :: d :: rest =>
    rw [wordLength]
    · split
      · omega
      · dsimp only
        split <;> omega
    · exact List.cons_ne_nil d rest

/-- A word and the blanks in front of it, on the same line or on a new one. -/
structure PlacedWord where
  breaksLine : Bool
  gap : Int
  word : Text
  deriving DecidableEq, Repr

/-- The text a placed word adds. -/
def PlacedWord.text (placed : PlacedWord) : Text :=
  (if placed.breaksLine then ['\n'] else []) ++ blanks placed.gap ++ placed.word

/-- The start of a word that begins a new line. -/
def continuationColumn (columns indentation width : Int) : Int :=
  if indentation + width ≤ columns then indentation else max 0 (columns - width)

/-- Where the next word goes, when the text so far ends at `column`. Nothing is gained by a
break at the start of a line that is not behind the place the word would get. -/
def placeWord (columns indentation column : Int) (atLineStart : Bool) (word : Text) :
    PlacedWord :=
  let width := displayWidth word
  let gap : Int := if atLineStart then 0 else 1
  let continuation := continuationColumn columns indentation width
  if column + gap + width ≤ columns ∨ (atLineStart ∧ column ≤ continuation) then
    ⟨false, gap, word⟩
  else ⟨true, continuation, word⟩

/-- The column behind a placed word. -/
def PlacedWord.endColumn (placed : PlacedWord) (column : Int) : Int :=
  (if placed.breaksLine then placed.gap else column + placed.gap) + displayWidth placed.word

/-- Places the words of a paragraph that starts at `column`. -/
def fillParagraph (columns indentation : Int) (text : Text) (column : Int)
    (atLineStart : Bool) : List PlacedWord :=
  match h : text.dropWhile isBlank with
  | [] => []
  | c :: rest =>
    let length := wordLength columns (c :: rest) column
    let placed := placeWord columns indentation column atLineStart ((c :: rest).take length)
    placed :: fillParagraph columns indentation (rest.drop (length - 1))
      (placed.endColumn column) false
termination_by text.length
decreasing_by
  have := (List.dropWhile_suffix (l := text) isBlank).length_le
  simp only [h, List.length_cons] at this
  simp only [List.length_drop]
  omega

/-- The words of the paragraphs of a message, the first of which starts at `column`. -/
def fillParagraphs (columns indentation : Int) : List Text → Int → List (List PlacedWord)
  | [], _ => []
  | paragraph :: rest, column =>
    fillParagraph columns indentation paragraph column true ::
      fillParagraphs columns indentation rest indentation

/-- The indentation of continuation lines: the start of the message, if it is on the line. -/
def defaultIndentation (columns column : Int) : Int :=
  if column < columns then column else fallbackIndentation

/-- A wrapped message, and whether a line break was added to it. -/
structure Wrapped where
  text : Text
  broken : Bool
  deriving DecidableEq, Repr

/-- Wraps a message that starts at `column` to `columns`. Its own line breaks are kept, each
followed by the indentation. -/
def wrap (message : Text) (columns column : Int) (indentation : Option Int) : Wrapped :=
  let indentation := indentation.getD (defaultIndentation columns column)
  let filled := fillParagraphs columns indentation (splitAt '\n' message) column
  { text := join ('\n' :: blanks indentation) (filled.map fun words ↦ words.flatMap (·.text))
    broken := filled.any fun words ↦ words.any (·.breaksLine) }

end Caret.Text
