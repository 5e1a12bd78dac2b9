import Caret.Text.Style

/-!
# Renditions

A rendition is switched on in front of a text and off behind it. Nothing inside of the text may
end it early or let it run on where it is not wanted: it is switched on again behind a sequence
that switches it off, it rests between two resets of one line, and it stops at the end of every
line to go on in the next one.
-/

namespace Caret.Text

/-- A rendition: the codes that switch it on and off. -/
structure Rendition where
  switchOn : Nat
  switchOff : Nat
  deriving DecidableEq, Repr

/-- A foreground color as a rendition. -/
def Color.rendition (color : Color) : Rendition := ⟨color.code, Color.reset.code⟩

/-- What follows the escape in the sequence that selects a rendition. -/
def sgrTail (code : Nat) : Text := '[' :: (toString code).toList ++ ['m']

/-- A sequence is an escape and what follows it. -/
theorem sgr_eq_cons (code : Nat) : sgr code = escapeChar :: sgrTail code := rfl

/-- Cuts a text at every sequence of a code. There is always one piece more than there are
sequences. -/
def splitAtSgr (code : Nat) (text : Text) : List Text :=
  match text with
  | [] => [[]]
  | c :: rest =>
    if c = escapeChar ∧ (sgrTail code).isPrefixOf rest then
      [] :: splitAtSgr code (rest.drop (sgrTail code).length)
    else
      match splitAtSgr code rest with
      | [] => [[c]]
      | piece :: pieces => (c :: piece) :: pieces
termination_by text.length
decreasing_by
  all_goals simp only [List.length_drop, List.length_cons]
  all_goals omega

/-- A text cut at a sequence has at least one piece. -/
theorem splitAtSgr_ne_nil (code : Nat) (text : Text) : splitAtSgr code text ≠ [] := by
  unfold splitAtSgr
  split
  · exact List.cons_ne_nil _ _
  · split
    · exact List.cons_ne_nil _ _
    · split <;> exact List.cons_ne_nil _ _

/-- What was cut at a sequence is joined with it. -/
theorem join_splitAtSgr (code : Nat) (text : Text) :
    join (sgr code) (splitAtSgr code text) = text := by
  fun_induction splitAtSgr code text with
  | case1 => rfl
  | case2 c rest here ih =>
    obtain ⟨behind, rfl⟩ := List.isPrefixOf_iff_prefix.1 here.2
    rw [join_cons (splitAtSgr_ne_nil _ _), ih, List.drop_left, here.1]
    simp [sgr_eq_cons]
  | case3 c rest _ h _ => exact absurd h (splitAtSgr_ne_nil code rest)
  | case4 c rest _ piece pieces h ih =>
    rw [h] at ih
    cases pieces with
    | nil => rw [← ih]; rfl
    | cons next others => rw [← ih]; rfl

/-- A text without escapes is not cut. -/
theorem splitAtSgr_of_not_mem {code : Nat} {text : Text} (h : escapeChar ∉ text) :
    splitAtSgr code text = [text] := by
  induction text with
  | nil => rw [splitAtSgr]
  | cons c rest ih =>
    have other : c ≠ escapeChar := fun same ↦ h (same ▸ List.mem_cons_self)
    rw [splitAtSgr, if_neg fun both ↦ other both.1,
      ih fun inside ↦ h (List.mem_cons_of_mem _ inside)]

namespace Rendition

/-- The sequences that switch renditions on. -/
def opening (renditions : List Rendition) : Text := renditions.flatMap (sgr ·.switchOn)

/-- The sequences that switch renditions off. -/
def closing (renditions : List Rendition) : Text := renditions.flatMap (sgr ·.switchOff)

/-- A text in which a rendition is switched on again wherever it is switched off. -/
def renew (text : Text) (rendition : Rendition) : Text :=
  join (sgr rendition.switchOff ++ sgr rendition.switchOn) (splitAtSgr rendition.switchOff text)

variable (renditions : List Rendition)

/-- The pieces of a text behind its first reset, with the resets between them. Two resets of one
line, and what is between them, stand outside of the renditions. -/
def pauseBetween : List Text → Text
  | [] => []
  | [last] => sgr 0 ++ last
  | inside :: behind :: rest =>
    if '\n' ∈ inside then sgr 0 ++ inside ++ pauseBetween (behind :: rest)
    else
      closing renditions ++ sgr 0 ++ inside ++ sgr 0 ++ opening renditions ++ behind ++
        pauseBetween rest

/-- A text in which renditions rest between two resets of one line. -/
def pause (text : Text) : Text :=
  match splitAtSgr 0 text with
  | [] => []
  | first :: rest => first ++ pauseBetween renditions rest

/-- The end of a line, at which renditions are switched off; a carriage return belongs to the
line break. -/
def closeLine (line : Text) : Text :=
  if line.getLast? = some '\r' then line.dropLast ++ closing renditions ++ ['\r']
  else line ++ closing renditions

/-- Lines of which every one but the first is opened, and every one but the last is closed. -/
def breakLines : List Text → Text
  | [] => []
  | [line] => line
  | line :: rest => closeLine renditions line ++ '\n' :: opening renditions ++ breakLines rest

/-- A text in renditions. -/
def apply (text : Text) : Text :=
  opening renditions ++
    breakLines renditions (splitAt '\n' (pause renditions (renditions.foldl renew text))) ++
    closing renditions

/-- A line without escapes only gets what switches the renditions on and off. -/
theorem apply_of_plain {text : Text} (one : '\n' ∉ text) (plain : escapeChar ∉ text) :
    apply renditions text = opening renditions ++ text ++ closing renditions := by
  have renewed : renditions.foldl renew text = text := by
    induction renditions with
    | nil => rfl
    | cons rendition rest ih =>
      rw [List.foldl_cons, renew, splitAtSgr_of_not_mem plain]
      exact ih
  have cut : splitAt '\n' text = [text] := by
    clear plain renewed
    induction text with
    | nil => rfl
    | cons c rest ih =>
      have other : c ≠ '\n' := fun same ↦ one (same ▸ List.mem_cons_self)
      rw [splitAt, ih fun inside ↦ one (List.mem_cons_of_mem _ inside)]
      exact if_neg other
  rw [apply, renewed, pause, splitAtSgr_of_not_mem plain]
  simp only [pauseBetween, List.append_nil]
  rw [cut, breakLines]

end Rendition

end Caret.Text
