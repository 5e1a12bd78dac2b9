import Caret.Text.Basic

/-!
# White space

The white space of Unicode, with the four information separators. Texts are trimmed and cut
into words by this class.
-/

namespace Caret.Text

/-- The ranges of white space. -/
def blankRanges : List (Nat × Nat) :=
  [(0x9, 0xD), (0x1C, 0x20), (0x85, 0x85), (0xA0, 0xA0), (0x1680, 0x1680), (0x2000, 0x200A),
   (0x2028, 0x2029), (0x202F, 0x202F), (0x205F, 0x205F), (0x3000, 0x3000)]

/-- Whether a code point is white space. -/
def isBlank (c : Char) : Bool := inRanges blankRanges c

/-- Every white space of ASCII is white space here. -/
theorem isBlank_of_isWhitespace {c : Char} (h : c.isWhitespace = true) : isBlank c = true := by
  simp only [Char.isWhitespace, Bool.or_eq_true, decide_eq_true_eq] at h
  rcases h with ((rfl | rfl) | rfl) | rfl <;> decide

/-- The text without its leading white space. -/
def trimStart (text : Text) : Text := text.dropWhile isBlank

/-- The text without its trailing white space. -/
def trimEnd (text : Text) : Text := (text.reverse.dropWhile isBlank).reverse

/-- The text without white space at either end. -/
def trim (text : Text) : Text := trimEnd (trimStart text)

end Caret.Text
