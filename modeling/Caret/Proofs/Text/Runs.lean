import Caret.Text.Basic
import Mathlib.Data.List.DropRight

/-!
# Runs at the ends of a text

A run at the start of a list reaches to the first item that ends it. A text without the blanks at
its ends is what is left when both runs of blanks are taken off, however long they are.
-/

namespace Caret.Text

section Runs

variable {α : Type} {test : α → Bool} {list : List α}

/-- The item behind a run ends it. -/
theorem getElem?_length_takeWhile {item : α}
    (h : list[(list.takeWhile test).length]? = some item) : test item = false := by
  induction list with
  | nil => cases h
  | cons first rest ih =>
    rw [List.takeWhile_cons] at h
    cases hf : test first with
    | false =>
      rw [hf] at h
      cases h
      exact hf
    | true =>
      rw [hf] at h
      exact ih h

/-- A run does not go beyond an item that ends it. -/
theorem length_takeWhile_le_of_getElem? {index : Nat} {item : α}
    (h : list[index]? = some item) (ht : test item = false) :
    (list.takeWhile test).length ≤ index := by
  induction list generalizing index with
  | nil => cases h
  | cons first rest ih =>
    rw [List.takeWhile_cons]
    cases index with
    | zero =>
      cases h
      rw [ht]
      exact Nat.le_refl 0
    | succ index =>
      split
      · exact Nat.succ_le_succ (ih h)
      · exact Nat.zero_le _

/-- An item in front of the end of a run belongs to it. -/
theorem test_of_lt_length_takeWhile {index : Nat} {item : α} (h : list[index]? = some item)
    (hlt : index < (list.takeWhile test).length) : test item = true := by
  cases ht : test item with
  | true => rfl
  | false => exact absurd hlt (Nat.not_lt.mpr (length_takeWhile_le_of_getElem? h ht))

/-- A run ends at or before an index exactly if an item there or before it ends the run. -/
theorem length_takeWhile_le_iff (test : α → Bool) {index : Nat} (inside : index < list.length) :
    (list.takeWhile test).length ≤ index ↔
      ∃ first ≤ index, ∃ item ∈ list[first]?, test item = false := by
  constructor
  · intro short
    have there : (list.takeWhile test).length < list.length := Nat.lt_of_le_of_lt short inside
    exact ⟨_, short, _, List.getElem?_eq_getElem there,
      getElem?_length_takeWhile (List.getElem?_eq_getElem there)⟩
  · rintro ⟨first, before, item, there, ends⟩
    exact Nat.le_trans (length_takeWhile_le_of_getElem? there ends) before

end Runs

/-- A text without the blanks at its ends. -/
def withoutBlanks (text : Text) : Text := (text.dropWhile (· = ' ')).rdropWhile (· = ' ')

/-- Blanks around a text are taken off. -/
theorem withoutBlanks_append {front behind : Text} (text : Text) (before : ∀ c ∈ front, c = ' ')
    (after : ∀ c ∈ behind, c = ' ') :
    withoutBlanks (front ++ (text ++ behind)) = withoutBlanks text := by
  have back : ∀ c ∈ behind.reverse, decide (c = ' ') = true :=
    fun c member ↦ decide_eq_true (after c (List.mem_reverse.mp member))
  unfold withoutBlanks
  rw [List.dropWhile_append_of_pos fun c member ↦ decide_eq_true (before c member),
    List.dropWhile_append]
  split
  · next nothing =>
    rw [List.isEmpty_iff] at nothing
    rw [nothing, List.dropWhile_eq_nil_iff.mpr fun c member ↦ decide_eq_true (after c member)]
  · rw [List.rdropWhile, List.reverse_append, List.dropWhile_append_of_pos back, List.rdropWhile]

/-- Blanks in front of a text are taken off. -/
theorem withoutBlanks_append_left {front : Text} (text : Text) (before : ∀ c ∈ front, c = ' ') :
    withoutBlanks (front ++ text) = withoutBlanks text := by
  have whole := withoutBlanks_append text before (List.forall_mem_nil fun c ↦ c = ' ')
  rwa [List.append_nil] at whole

end Caret.Text
