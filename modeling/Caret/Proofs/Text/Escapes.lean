import Caret.Proofs.Text.WrapWidth
import Caret.Text.Style

/-!
# Text without its colors

A styled text holds the sequences that select a rendition, and nothing else is added to it. A
text without escapes has no such sequence, so that the plain text is what is left when the
sequences are taken out. Laying out a text adds blanks and line breaks only, and no escape.
-/

namespace Caret.Text

/-! ## Taking the sequences out -/

/-- Whether a code point is part of the codes of a rendition. -/
def isSgrParameter (c : Char) : Bool := c.isDigit || c = ';'

/-- The length of the sequence that selects a rendition at the start of a text: an escape, a
bracket, codes, and a letter. It is zero if there is none. -/
def sgrLength : Text → Nat
  | c :: d :: rest =>
    let parameters := (rest.takeWhile isSgrParameter).length
    if c = escapeChar ∧ d = '[' ∧ rest[parameters]? = some 'm' then parameters + 3 else 0
  | _ => 0

/-- A text without the sequences that select a rendition, of which `skip` code points are left
out first. -/
def dropSgr : Nat → Text → Text
  | _, [] => []
  | skip + 1, _ :: rest => dropSgr skip rest
  | 0, c :: rest =>
    match sgrLength (c :: rest) with
    | 0 => c :: dropSgr 0 rest
    | length + 1 => dropSgr length rest

/-- A text without the sequences that select a rendition. -/
def stripSgr (text : Text) : Text := dropSgr 0 text

private theorem dropSgr_append (front rest : Text) :
    dropSgr front.length (front ++ rest) = stripSgr rest := by
  induction front with
  | nil => rfl
  | cons c front ih => exact ih

private theorem stripSgr_cons {c : Char} (h : c ≠ escapeChar) (rest : Text) :
    stripSgr (c :: rest) = c :: stripSgr rest := by
  have none : sgrLength (c :: rest) = 0 := by
    cases rest with
    | nil => rfl
    | cons d rest => exact if_neg fun sequence ↦ h sequence.1
  rw [stripSgr, dropSgr, none]
  rfl

private theorem stripSgr_sgr (code : Nat) (rest : Text) :
    stripSgr (sgr code ++ rest) = stripSgr rest := by
  have parameters : ∀ c ∈ Nat.toDigits 10 code, isSgrParameter c = true := by
    intro c member
    rw [isSgrParameter, Nat.isDigit_of_mem_toDigits (by decide) (by decide) member]
    rfl
  have stops : ('m' :: rest).takeWhile isSgrParameter = [] := rfl
  have length : sgrLength (sgr code ++ rest) = (sgr code).length := by
    simp [sgr, sgrLength, List.takeWhile_append_of_pos parameters, stops]
  have cut : sgr code ++ rest = escapeChar :: ((sgr code).tail ++ rest) := rfl
  have positive : (sgr code).length = (sgr code).tail.length + 1 := rfl
  rw [positive, cut] at length
  rw [stripSgr, cut, dropSgr, length]
  exact dropSgr_append (sgr code).tail rest

/-! ## Texts without escapes -/

/-- A text without escapes. -/
def EscapeFree (text : Text) : Prop := escapeChar ∉ text

instance (text : Text) : Decidable (EscapeFree text) :=
  inferInstanceAs (Decidable (escapeChar ∉ text))

/-- The empty text has no escape. -/
@[simp] theorem escapeFree_nil : EscapeFree [] := List.not_mem_nil

/-- A code point and the text behind it have no escape if neither has. -/
@[simp] theorem escapeFree_cons {c : Char} {rest : Text} :
    EscapeFree (c :: rest) ↔ escapeChar ≠ c ∧ EscapeFree rest := by
  rw [EscapeFree, List.mem_cons, not_or]
  rfl

/-- Two texts have no escape if neither has. -/
@[simp] theorem escapeFree_append {first second : Text} :
    EscapeFree (first ++ second) ↔ EscapeFree first ∧ EscapeFree second := by
  rw [EscapeFree, List.mem_append, not_or]
  rfl

/-- Several texts have no escape if none has. -/
theorem escapeFree_flatten {pieces : List Text} :
    EscapeFree pieces.flatten ↔ ∀ piece ∈ pieces, EscapeFree piece := by
  simp [EscapeFree, List.mem_flatten]

namespace EscapeFree

/-- A text of some of the code points has no escape. -/
theorem of_subset {part text : Text} (h : EscapeFree text) (hs : part ⊆ text) : EscapeFree part :=
  fun inside ↦ h (hs inside)

/-- Blanks are no escapes. -/
@[simp] theorem replicate_space (count : Nat) : EscapeFree (List.replicate count ' ') :=
  fun inside ↦ absurd (List.eq_of_mem_replicate inside) (by decide)

/-- Blanks are no escapes. -/
@[simp] theorem blanks (count : Int) : EscapeFree (blanks count) := replicate_space _

/-- Digits are no escapes. -/
theorem toDigits (n : Nat) : EscapeFree (Nat.toDigits 10 n) := fun inside ↦
  absurd (Nat.isDigit_of_mem_toDigits (by decide) (by decide) inside) (by decide)

/-- A number has no escape. -/
@[simp] theorem ofInt (n : Int) : EscapeFree (ofInt n) := by
  cases n with
  | ofNat n =>
    show EscapeFree (Nat.repr n).toList
    rw [Nat.toList_repr]
    exact toDigits n
  | negSucc n =>
    show EscapeFree ("-" ++ Nat.repr (n + 1)).toList
    rw [String.toList_append, escapeFree_append, Nat.toList_repr]
    exact ⟨by decide, toDigits (n + 1)⟩

/-- A part of a text has no escape. -/
theorem slice {text : Text} (h : EscapeFree text) (start stop : Nat) :
    EscapeFree (slice text start stop) :=
  h.of_subset fun _ inside ↦ List.mem_of_mem_take (List.mem_of_mem_drop inside)

/-- Writing tabs as blanks adds no escape. -/
theorem expandTabs {text : Text} (h : EscapeFree text) (tabStop column : Int) :
    EscapeFree (expandTabs tabStop text column) := by
  induction text generalizing column with
  | nil => exact escapeFree_nil
  | cons c rest ih =>
    rw [Text.expandTabs, escapeFree_append]
    refine ⟨?_, ih (escapeFree_cons.mp h).2 _⟩
    split
    · exact EscapeFree.blanks _
    · exact escapeFree_cons.mpr ⟨(escapeFree_cons.mp h).1, escapeFree_nil⟩

/-- The glyphs of some cells have no escape. -/
theorem spanCells {text : Text} (h : EscapeFree text) (start stop : Nat) :
    EscapeFree (((cells text).take stop).drop start).flatten := by
  rw [← flatten_cells text, escapeFree_flatten] at h
  exact escapeFree_flatten.mpr fun cell inside ↦
    h cell (List.mem_of_mem_take (List.mem_of_mem_drop inside))

/-- Wrapping a text adds no escape. -/
theorem wrap {message : Text} (h : EscapeFree message) (columns column : Int)
    (indentation : Option Int) : EscapeFree (wrap message columns column indentation).text := by
  intro inside
  rcases mem_join inside with separator | ⟨filled, member, here⟩
  · rcases List.mem_cons.mp separator with same | blank
    · exact absurd same (by decide)
    · exact EscapeFree.blanks _ blank
  · obtain ⟨words, line, rfl⟩ := List.mem_map.mp member
    obtain ⟨placed, word, shown⟩ := List.mem_flatMap.mp here
    obtain ⟨paragraph, piece, part⟩ := infix_of_mem_fillParagraphs columns _ _ column placed
      (List.mem_flatten.mpr ⟨words, line, word⟩)
    have free : EscapeFree placed.word :=
      (h.of_subset (infix_of_mem_splitAt piece).subset).of_subset part.subset
    refine absurd shown ?_
    show EscapeFree placed.text
    unfold PlacedWord.text
    split <;> simp [free, escapeChar]

end EscapeFree

/-! ## Styled texts -/

/-- A styled text becomes the plain one when its sequences are taken out, whatever follows. -/
def Strips (styled plain : Text) : Prop :=
  ∀ rest, stripSgr (styled ++ rest) = plain ++ stripSgr rest

namespace Strips

/-- A text without escapes stays. -/
theorem refl {text : Text} (h : EscapeFree text) : Strips text text := by
  intro rest
  induction text with
  | nil => rfl
  | cons c text ih =>
    rw [escapeFree_cons] at h
    rw [List.cons_append, stripSgr_cons h.1.symm, ih h.2]
    rfl

/-- Sequences are taken out of two texts one after the other. -/
theorem append {first second plain next : Text} (h : Strips first plain)
    (behind : Strips second next) : Strips (first ++ second) (plain ++ next) := by
  intro rest
  rw [List.append_assoc, h, behind, List.append_assoc]

/-- A sequence is taken out. -/
theorem sgr (code : Nat) : Strips (sgr code) [] := stripSgr_sgr code

/-- What switches a style on is taken out. -/
theorem opening (style : Style) : Strips style.opening [] := by
  unfold Style.opening
  extract_lets color flag
  have nothing : Strips [] [] := fun _ ↦ rfl
  have colors (shift : Nat) (value : Option Color) : Strips (color shift value) [] := by
    cases value with
    | none => exact nothing
    | some value => exact sgr _
  have flags (on off : Nat) (value : Option Bool) : Strips (flag on off value) [] := by
    match value with
    | .none => exact nothing
    | some true => exact sgr on
    | some false => exact sgr off
  exact (((((colors 0 _).append (colors 10 _)).append (flags 1 22 _)).append (flags 2 22 _)).append
    (flags 4 24 _)).append (flags 7 27 _)

/-- A style is taken off a text. -/
theorem apply {text : Text} (h : EscapeFree text) (style : Style) :
    Strips (style.apply text) text := by
  have whole := ((opening style).append (refl h)).append (sgr 0)
  rwa [List.nil_append, List.append_nil] at whole

/-- A style is taken off a text if it was applied. -/
theorem applyIf {text : Text} (h : EscapeFree text) (style : Style) (colors : Bool) :
    Strips (style.applyIf colors text) text := by
  cases colors with
  | false => exact refl h
  | true => exact apply h style

end Strips

end Caret.Text
