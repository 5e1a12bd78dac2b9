import Caret.Source.Token

/-!
# A token ends in the text

No token is longer than the text that it starts, so that the end of a token in a file is in the
file or at its end.
-/

namespace Caret.Source.Token

open Caret.Text

/-- A quoted literal ends in the text. -/
theorem quotedLength_le (quote : Char) (text : Text) : quotedLength quote text ≤ text.length := by
  fun_induction quotedLength quote text with
  | case1 => exact Nat.le_refl 0
  | case2 => exact Nat.le_refl 1
  | case3 c rest ih =>
    simp only [List.length_cons]
    omega
  | case4 => exact Nat.succ_pos _
  | case5 => exact Nat.zero_le _
  | case6 c rest _ _ _ _ ih =>
    simp only [List.length_cons]
    omega

/-- A literal without encoding mark ends in the text. -/
theorem le_length_of_quoteLength? {text : Text} {length : Nat}
    (h : quoteLength? text = some length) : length ≤ text.length := by
  unfold quoteLength? at h
  split at h
  · next rest =>
    have body := quotedLength_le '"' rest
    cases h
    rw [List.length_cons]
    omega
  · next rest =>
    have body := quotedLength_le '\'' rest
    cases h
    rw [List.length_cons]
    omega
  · cases h

private theorem le_length_of_literalLength? {text : Text} {length : Nat}
    (h : literalLength? text = some length) : length ≤ text.length := by
  unfold literalLength? at h
  split at h
  case h_5 => exact le_length_of_quoteLength? h
  all_goals
    obtain ⟨quoted, found, rfl⟩ := Option.map_eq_some_iff.mp h
    have body := le_length_of_quoteLength? found
    simp only [List.length_cons]
    omega

/-- What continues a number ends in the text. -/
theorem numberTailLength_le (text : Text) : numberTailLength text ≤ text.length := by
  fun_induction numberTailLength text with
  | case1 => exact Nat.le_refl 0
  | case2 => exact Nat.le_refl 1
  | case3 => exact Nat.zero_le _
  | case4 c d rest _ ih =>
    simp only [List.length_cons]
    omega
  | case5 c d rest _ _ ih =>
    rw [List.length_cons]
    omega
  | case6 => exact Nat.zero_le _

/-- A number ends in the text. -/
theorem le_length_of_numberLength? {text : Text} {length : Nat}
    (h : numberLength? text = some length) : length ≤ text.length := by
  unfold numberLength? at h
  split at h
  · next c rest =>
    have tail := numberTailLength_le rest
    split at h <;> cases h
    simp only [List.length_cons]
    omega
  · next c rest _ =>
    have tail := numberTailLength_le rest
    split at h <;> cases h
    rw [List.length_cons]
    omega
  · cases h

/-- An identifier ends in the text. -/
theorem le_length_of_identifierLength? {text : Text} {length : Nat}
    (h : identifierLength? text = some length) : length ≤ text.length := by
  unfold identifierLength? at h
  split at h
  · next c rest =>
    have tail := (List.takeWhile_prefix (l := rest) continuesIdentifier).length_le
    split at h <;> cases h
    rw [List.length_cons]
    omega
  · cases h

/-- Punctuation ends in the text. -/
theorem punctuationLength_le {text : Text} (h : text ≠ []) :
    punctuationLength text ≤ text.length := by
  unfold punctuationLength
  split
  · next punctuator found =>
    have starts := List.find?_some (p := fun other : Text ↦ other.isPrefixOf text) found
    exact (List.isPrefixOf_iff_prefix.mp starts).length_le
  · exact List.length_pos_iff.mpr h

/-- A token ends in the text. -/
theorem length_le (text : Text) : length text ≤ text.length := by
  unfold length
  split
  · exact Nat.le_refl 0
  · next c rest =>
    split
    · exact Nat.zero_le _
    · cases literal : literalLength? (c :: rest) with
      | some length => exact le_length_of_literalLength? literal
      | none =>
        cases number : numberLength? (c :: rest) with
        | some length => exact le_length_of_numberLength? number
        | none =>
          cases identifier : identifierLength? (c :: rest) with
          | some length => exact le_length_of_identifierLength? identifier
          | none => exact punctuationLength_le (List.cons_ne_nil c rest)

/-- The token at an offset of a text ends in the text. -/
theorem add_lengthAt_le {text : Text} {offset : Int} (inside : offset ≤ text.length) :
    offset + lengthAt text offset ≤ text.length := by
  unfold lengthAt
  split
  · omega
  · have token := length_le (text.drop offset.toNat)
    rw [List.length_drop] at token
    omega

end Caret.Source.Token
